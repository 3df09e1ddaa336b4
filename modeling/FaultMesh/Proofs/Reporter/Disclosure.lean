import FaultMesh.Proofs.OrderedMap
import FaultMesh.Proofs.Reporter
import FaultMesh.Text.Utf8

/-!
# What an answer discloses

A caller from outside sees one template filled in.  Two runs that agree on what this
template names are answered with the same octets, whatever else differs between them: the
other data, the causes, the request and the stack.
-/

set_option autoImplicit false

namespace FaultMesh

/-- What is bound to a key, which is null where nothing is. -/
def bound (data : Data) (key : String) : Datum := (data.get? key).getD .null

theorem bound_insert (data : Data) (key sought : String) (value : Datum) :
    bound (data.insert key value) sought = if key = sought then value else bound data sought := by
  rw [bound, OrderedMap.get?_insert, bound]
  split
  · rfl
  · rfl

namespace Template

theorem renderSegment_field (data : Data) (key : String) (path : List String) :
    renderSegment data (.field (key :: path)) =
      (((bound data key).at? path).map Datum.shown).getD "" := by
  rw [renderSegment, lookup, bound]
  cases data.get? key with
  | some value => cases found : value.at? path <;> simp [found]
  | none => cases path <;> rfl

/-- A template shows nothing but what is bound to the keys that it names. -/
theorem render_congr (template : Template) {data other : Data}
    (same : ∀ key ∈ template.referencedKeys, bound data key = bound other key) :
    template.render data = template.render other := by
  rw [render, render, renderSegments, renderSegments]
  congr 1
  refine List.map_congr_left fun segment inside => ?_
  cases segment with
  | literal text => rfl
  | field path =>
    cases path with
    | nil => rfl
    | cons key path =>
      have named : key ∈ template.referencedKeys :=
        List.mem_filterMap.mpr ⟨.field (key :: path), inside, rfl⟩
      rw [renderSegment_field, renderSegment_field, same key named]

end Template

theorem bound_bindCause (data : Data) (cause : Option Cause) (key : String) :
    bound (Fault.bindCause data cause) key =
      if key = Fault.errorKey ∧ (bound data key).isNull = true then
        (cause.map fun cause => .text cause.text).getD (bound data key)
      else bound data key := by
  cases cause with
  | none => simp [Fault.bindCause]
  | some cause =>
    rw [Fault.bindCause]
    have absent : (data.get? Fault.errorKey).all Datum.isNull =
        (bound data Fault.errorKey).isNull := by
      rw [bound]
      cases data.get? Fault.errorKey <;> rfl
    rw [absent]
    by_cases empty : (bound data Fault.errorKey).isNull = true
    · rw [if_pos empty, bound_insert]
      by_cases here : Fault.errorKey = key
      · subst here
        simp [empty]
      · simp [here, Ne.symm here]
    · rw [if_neg empty]
      by_cases here : key = Fault.errorKey
      · subst here
        simp [empty]
      · simp [here]

/-- Two runs bind the same to all that a template names: equal values to its keys, and to the
key of the cause, if it names that, causes of equal text. -/
structure Template.Alike (template : Template) (data other : Data) (causes others : List Cause) :
    Prop where
  values : ∀ key ∈ template.referencedKeys, bound data key = bound other key
  texts : Fault.errorKey ∈ template.referencedKeys →
    causes.head?.map Cause.text = others.head?.map Cause.text

theorem Template.Alike.render {template : Template} {data other : Data}
    {causes others : List Cause} (alike : template.Alike data other causes others) :
    template.render (Fault.bindCause data causes.head?) =
      template.render (Fault.bindCause other others.head?) := by
  refine template.render_congr fun key named => ?_
  have same := alike.values key named
  rw [bound_bindCause, bound_bindCause, same]
  split
  next missing =>
    have texts := congrArg (Option.map Datum.text) (alike.texts (missing.1 ▸ named))
    rw [Option.map_map, Option.map_map] at texts
    exact congrArg (Option.getD · (bound other key)) texts
  next => rfl

/-- The template that a definition has for a locale, or else for the default locale, or else
the first one. -/
def Definition.offered (definition : Definition) (locale : String) : Option Template :=
  ((definition.messages.get? locale).or (definition.messages.get? defaultLocale)).or
    definition.messages.values.head?

theorem messageIn_mapValues (definition : Definition) (locale : String)
    (fill : Template → String) :
    Fault.messageIn (definition.messages.mapValues fill) locale =
      ((definition.offered locale).map fill).getD "" := by
  rw [Fault.messageIn, Definition.offered, OrderedMap.get?_mapValues, OrderedMap.get?_mapValues,
    OrderedMap.values_mapValues, List.head?_map, ← Option.map_or, ← Option.map_or]

/-- The definition that a fault of a code is made of, registered or not. -/
def Registry.definitionFor (registry : Registry) (code : String) : Definition :=
  (registry.getDefinition code).getD Builtin.unknownErrorCode.definition

/-! ## Answers -/

namespace Reporter

section Instantiate
variable {registry : Registry} {here there : RequestContext} {first second : Ambient}
  {definition : Definition} {data other : Data} {causes others : List Cause} {locale : String}

/-- The answer to a caller from outside is made of code, status and message alone. -/
theorem answer_congr {fault twin : Fault} (code : fault.code = twin.code)
    (status : fault.status = twin.status) (message : fault.message locale = twin.message locale) :
    Text.Utf8.encode (fault.body false locale) = Text.Utf8.encode (twin.body false locale) ∧
      fault.httpStatus = twin.httpStatus := by
  have brief : fault.brief locale = twin.brief locale := by
    rw [Fault.brief, Fault.brief, code, status, message]
  constructor
  · rw [Fault.body, Fault.body, Fault.project, Fault.project]
    simp [brief]
  · rw [Fault.httpStatus, Fault.httpStatus, status]

theorem instantiate_conceals (plain : here.debug = false) (quiet : there.debug = false)
    (alike : ∀ template, definition.offered locale = some template →
      template.Alike data other causes others) :
    let one := (instantiate ⟨registry, here⟩ first definition data causes).1
    let two := (instantiate ⟨registry, there⟩ second definition other others).1
    Text.Utf8.encode (one.body false locale) = Text.Utf8.encode (two.body false locale) ∧
      one.httpStatus = two.httpStatus := by
  refine answer_congr (by simp) (by simp) ?_
  rw [Fault.message, Fault.message, instantiate_messages, instantiate_messages,
    messageIn_mapValues, messageIn_mapValues]
  cases offered : definition.offered locale with
  | none => rfl
  | some template =>
    have same := (alike template offered).render
    simpa [RequestContext.addDebugEntries, plain, quiet] using same

end Instantiate

/-- Without debugging, two runs for one code that agree on what the offered template names
are answered alike: the octets of the body and the status are the same. -/
theorem fail_conceals (registry : Registry) {here there : RequestContext}
    (plain : here.debug = false) (quiet : there.debug = false) (first second : Ambient)
    (code locale : String) {data other : Data} {causes others : List Cause}
    (alike : ∀ template, (registry.definitionFor code).offered locale = some template →
      template.Alike data other causes others) :
    let one := (fail ⟨registry, here⟩ first code data causes).1
    let two := (fail ⟨registry, there⟩ second code other others).1
    Text.Utf8.encode (one.body false locale) = Text.Utf8.encode (two.body false locale) ∧
      one.httpStatus = two.httpStatus := by
  rw [Registry.definitionFor] at alike
  rw [fail, fail]
  cases found : registry.getDefinition code with
  | some definition =>
    rw [found] at alike
    simpa [Registry.resolve, found] using instantiate_conceals plain quiet alike
  | none =>
    rw [found] at alike
    have degraded : ∀ template, Builtin.unknownErrorCode.definition.offered locale = some template →
        template.Alike (.ofList [("Code", .text code)]) (.ofList [("Code", .text code)])
          causes others :=
      fun template offered => ⟨fun _ _ => rfl, (alike template offered).texts⟩
    simpa [Registry.resolve, found, builtin] using instantiate_conceals plain quiet degraded

/-- Other requests, secrets and stacks, and other causes behind a cause of the same text. -/
theorem fail_conceals_secret :
    let one := (fail ⟨.builtin, ⟨"en", false, "GET", "/a", "q=1"⟩⟩
      ⟨⟨"2024-05-01T10:00:00Z", "0: main"⟩, .off⟩ "http.500.RequesterSendRequestFailure"
      (.ofList [("Secret", .text "s"), ("Error", .null)]) [.plain "refused"]).1
    let two := (fail ⟨.builtin, .detached⟩ ⟨⟨"2024-05-02T11:00:00Z", ""⟩, .upTo .debug⟩
      "http.500.RequesterSendRequestFailure" .empty [.wrap "refused" (.plain "no route")]).1
    Text.Utf8.encode (one.body false "fr") = Text.Utf8.encode (two.body false "fr") ∧
      one.httpStatus = two.httpStatus := by
  refine fail_conceals .builtin rfl rfl _ _ _ _ fun template offered => ?_
  have named : ((Registry.builtin.definitionFor "http.500.RequesterSendRequestFailure").offered
      "fr").map Template.referencedKeys = some ["Error"] := by
    decide +kernel
  rw [offered] at named
  have keys : template.referencedKeys = ["Error"] := Option.some.inj named
  refine ⟨fun key inside => ?_, fun _ => rfl⟩
  obtain rfl : key = "Error" := by simpa [keys] using inside
  rfl

end Reporter

end FaultMesh
