import Mathlib.Data.List.Forall2
import FaultMesh.Proofs.Reporter
import FaultMesh.Service

/-!
# What a gate lets through

A gate looks at the parameters of a path before the handler of the route does.  Parameters
that are all text are looked at in order, and the first that does not pass decides the
answer.  If one of them is no text, then none is looked at and the handler runs.
-/

set_option autoImplicit false

namespace FaultMesh

namespace PathParameters

/-- A parameter as it is written in a path, and the text that it stands for. -/
def Decodes (written : String × List Char) (value : String × String) : Prop :=
  value.1 = written.1 ∧ Text.Utf8.decode? (Percent.decodeText written.2) = some value.2

/-- A parameter whose octets are no text. -/
def NoText (written : String × List Char) : Prop :=
  Text.Utf8.decode? (Percent.decodeText written.2) = none

theorem decode_of_decodes {written : List (String × List Char)} {values : List (String × String)}
    (decodes : List.Forall₂ Decodes written values) : decode written = .ok values := by
  induction decodes with
  | nil => rfl
  | @cons parameter value written values same decodes ih =>
    obtain ⟨name, text⟩ := same
    rw [decode, text, ih, ← name]
    rfl

theorem decode_of_noText {written : List (String × List Char)}
    (noText : ∃ parameter ∈ written, NoText parameter) :
    ∃ name, decode written = .error name := by
  induction written with
  | nil =>
    obtain ⟨parameter, inside, -⟩ := noText
    cases inside
  | cons parameter written ih =>
    obtain ⟨name, octets⟩ := parameter
    rw [decode]
    cases text : Text.Utf8.decode? (Percent.decodeText octets) with
    | none => exact ⟨name, rfl⟩
    | some value =>
      obtain ⟨other, inside, none⟩ := noText
      rcases List.mem_cons.mp inside with rfl | inside
      · rw [NoText, text] at none
        cases none
      · obtain ⟨first, failed⟩ := ih ⟨other, inside, none⟩
        exact ⟨first, by rw [failed]; rfl⟩

end PathParameters

namespace PathGate

section Checking
variable (gate : PathGate)

/-- A text that passes: it holds no slash and matches the pattern. -/
structure Admits (value : String) : Prop where
  noSlash : '/' ∉ value.toList
  accepted : gate.accepts value = true

theorem check_of_admits {values : List (String × String)}
    (admits : ∀ value ∈ values, gate.Admits value.2) (rest : List (String × String)) :
    gate.check (values ++ rest) = gate.check rest := by
  induction values with
  | nil => rfl
  | cons value values ih =>
    obtain ⟨first, others⟩ := List.forall_mem_cons.mp admits
    rw [List.cons_append, check, if_neg (by simpa using first.noSlash), if_pos first.accepted,
      ih others]

theorem check_pass {values : List (String × String)}
    (admits : ∀ value ∈ values, gate.Admits value.2) : gate.check values = .pass := by
  have whole := gate.check_of_admits admits []
  rw [List.append_nil] at whole
  exact whole

theorem check_slash {before : List (String × String)}
    (admits : ∀ value ∈ before, gate.Admits value.2) {name value : String}
    (slash : '/' ∈ value.toList) (behind : List (String × String)) :
    gate.check (before ++ (name, value) :: behind) = .notFound := by
  rw [gate.check_of_admits admits, check, if_pos (by simpa using slash)]

theorem check_mismatch {before : List (String × String)}
    (admits : ∀ value ∈ before, gate.Admits value.2) {name value : String}
    (noSlash : '/' ∉ value.toList) (refused : gate.accepts value = false)
    (behind : List (String × String)) :
    gate.check (before ++ (name, value) :: behind) = .refused (.mismatch name value) := by
  rw [gate.check_of_admits admits, check, if_neg (by simpa using noSlash),
    if_neg (by simp [refused])]

end Checking

/-! ## Written parameters -/

section Written
variable (gate : PathGate) {written : List (String × List Char)}

/-- A parameter that passes as it is written: it is text, and the text passes. -/
def Passes (written : String × List Char) : Prop :=
  ∃ value, PathParameters.Decodes written value ∧ gate.Admits value.2

/-- All parameters are text, and this one is the first whose text does not pass. -/
structure FirstRefused (written : List (String × List Char)) (name value : String) : Prop where
  split : ∃ before octets behind, written = before ++ (name, octets) :: behind ∧
    (∀ parameter ∈ before, gate.Passes parameter) ∧
      PathParameters.Decodes (name, octets) (name, value) ∧
        ∀ parameter ∈ behind, ¬ PathParameters.NoText parameter
  refused : ¬ gate.Admits value

theorem decodes_of_passes (passes : ∀ parameter ∈ written, gate.Passes parameter) :
    ∃ values, List.Forall₂ PathParameters.Decodes written values ∧
      ∀ value ∈ values, gate.Admits value.2 := by
  induction written with
  | nil => exact ⟨[], .nil, List.forall_mem_nil _⟩
  | cons parameter written ih =>
    obtain ⟨first, others⟩ := List.forall_mem_cons.mp passes
    obtain ⟨value, decoded, admitted⟩ := first
    obtain ⟨values, decodes, admits⟩ := ih others
    refine ⟨value :: values, .cons decoded decodes, ?_⟩
    exact List.forall_mem_cons.mpr ⟨admitted, admits⟩

theorem decodes_of_text (text : ∀ parameter ∈ written, ¬ PathParameters.NoText parameter) :
    ∃ values, List.Forall₂ PathParameters.Decodes written values := by
  induction written with
  | nil => exact ⟨[], .nil⟩
  | cons parameter written ih =>
    obtain ⟨first, others⟩ := List.forall_mem_cons.mp text
    obtain ⟨value, decoded⟩ := Option.ne_none_iff_exists'.mp first
    obtain ⟨values, decodes⟩ := ih others
    exact ⟨(parameter.1, value) :: values, .cons ⟨rfl, decoded⟩ decodes⟩

/-- Either all parameters pass, or one of them is no text, or there is a first one whose
text does not pass. -/
theorem written_cases (written : List (String × List Char)) :
    (∀ parameter ∈ written, gate.Passes parameter) ∨
      (∃ parameter ∈ written, PathParameters.NoText parameter) ∨
        ∃ name value, gate.FirstRefused written name value := by
  by_cases noText : ∃ parameter ∈ written, PathParameters.NoText parameter
  · exact .inr (.inl noText)
  simp only [not_exists, not_and] at noText
  induction written with
  | nil => exact .inl (List.forall_mem_nil _)
  | cons parameter written ih =>
    obtain ⟨name, octets⟩ := parameter
    obtain ⟨own, others⟩ := List.forall_mem_cons.mp noText
    obtain ⟨value, text⟩ := Option.ne_none_iff_exists'.mp own
    have decoded : PathParameters.Decodes (name, octets) (name, value) := ⟨rfl, text⟩
    by_cases admitted : gate.Admits value
    · have passed : gate.Passes (name, octets) := ⟨(name, value), decoded, admitted⟩
      rcases ih others with passes | ⟨other, inside, none⟩ | ⟨first, refusedValue, split, refused⟩
      · exact .inl (List.forall_mem_cons.mpr ⟨passed, passes⟩)
      · exact absurd none (others other inside)
      · obtain ⟨before, raw, behind, rfl, passes, rest⟩ := split
        refine .inr (.inr ⟨first, refusedValue, ⟨?_, refused⟩⟩)
        exact ⟨(name, octets) :: before, raw, behind, rfl,
          List.forall_mem_cons.mpr ⟨passed, passes⟩, rest⟩
    · exact .inr (.inr ⟨name, value,
        ⟨[], octets, written, rfl, List.forall_mem_nil _, decoded, others⟩,
          admitted⟩)

theorem verdict_pass
    (free : (∀ parameter ∈ written, gate.Passes parameter) ∨
      ∃ parameter ∈ written, PathParameters.NoText parameter) :
    gate.verdict (PathParameters.decode written) = .pass := by
  rcases free with passes | noText
  · obtain ⟨values, decodes, admits⟩ := gate.decodes_of_passes passes
    rw [PathParameters.decode_of_decodes decodes]
    exact gate.check_pass admits
  · obtain ⟨name, failed⟩ := PathParameters.decode_of_noText noText
    rw [failed]
    rfl

theorem verdict_refused {name value : String} (first : gate.FirstRefused written name value) :
    ('/' ∈ value.toList → gate.verdict (PathParameters.decode written) = .notFound) ∧
      ('/' ∉ value.toList →
        gate.verdict (PathParameters.decode written) = .refused (.mismatch name value)) := by
  obtain ⟨⟨before, octets, behind, rfl, passes, decoded, text⟩, refused⟩ := first
  obtain ⟨values, decodes, admits⟩ := gate.decodes_of_passes passes
  obtain ⟨others, rest⟩ := decodes_of_text text
  have whole := List.rel_append decodes (.cons decoded rest)
  rw [PathParameters.decode_of_decodes whole]
  constructor
  · intro slash
    exact gate.check_slash admits slash others
  · intro noSlash
    have mismatch : gate.accepts value = false := by
      rw [← Bool.not_eq_true]
      intro accepted
      exact refused ⟨noSlash, accepted⟩
    exact gate.check_mismatch admits noSlash mismatch others

end Written

end PathGate

/-! ## Layers -/

namespace Layer

def isGate : Layer → Bool
  | .gate _ => true
  | _ => false

def api? : Layer → Option ApiSettings
  | .api settings => some settings
  | _ => none

def context? : Layer → Option ContextSettings
  | .context settings => some settings
  | _ => none

/-- What a layer logs of a request that it passes on. -/
def seen (ambient : Ambient) (request : Http.Request) (layer : Layer) : List Log.Event :=
  match layer.context? with
  | some settings =>
    if (settings.reporterFor request).context.debug then
      Log.admitted ambient.verbosity [debugEvent request]
    else []
  | none => []

/-- What a layer puts beside a request that it passes on. -/
def enter (layer : Layer) (scope : Scope) : Scope :=
  { scope with
    api := layer.api?.or scope.api
    reporter := (layer.context?.map (·.reporterFor scope.request)).or scope.reporter }

theorem around_eq {layer : Layer} (free : layer.isGate = false) (handler : Handler)
    (ambient : Ambient) (scope : Scope) :
    layer.around handler ambient scope =
      ((handler ambient (layer.enter scope)).1,
        layer.seen ambient scope.request ++ (handler ambient (layer.enter scope)).2) := by
  cases layer with
  | gate gate => cases free
  | api settings => rfl
  | context settings => rfl

/-- The scope that arrives behind layers. -/
def behind (layers : List Layer) (scope : Scope) : Scope := layers.foldr enter scope

theorem request_behind (layers : List Layer) (scope : Scope) :
    (behind layers scope).request = scope.request := by
  induction layers with
  | nil => rfl
  | cons layer layers ih => exact ih

theorem parameters_behind (layers : List Layer) (scope : Scope) :
    (behind layers scope).parameters = scope.parameters := by
  induction layers with
  | nil => rfl
  | cons layer layers ih => exact ih

theorem reporter_behind (layers : List Layer) (scope : Scope) :
    (behind layers scope).reporter =
      ((layers.findSome? context?).map (·.reporterFor scope.request)).or scope.reporter := by
  induction layers with
  | nil => rfl
  | cons layer layers ih =>
    have entered : (behind (layer :: layers) scope).reporter =
        (layer.context?.map (·.reporterFor (behind layers scope).request)).or
          (behind layers scope).reporter := rfl
    rw [entered, request_behind, ih, List.findSome?_cons]
    cases layer.context? with
    | none => rfl
    | some settings => rfl

/-- Layers without a gate pass every request on and every answer back. -/
theorem foldl_around {layers : List Layer} (free : ∀ layer ∈ layers, layer.isGate = false)
    (handler : Handler) (ambient : Ambient) (scope : Scope) :
    layers.foldl (fun handler layer => layer.around handler) handler ambient scope =
      ((handler ambient (behind layers scope)).1,
        layers.reverse.flatMap (seen ambient scope.request) ++
          (handler ambient (behind layers scope)).2) := by
  induction layers generalizing handler with
  | nil => rfl
  | cons layer layers ih =>
    obtain ⟨first, others⟩ := List.forall_mem_cons.mp free
    rw [List.foldl_cons, ih others, around_eq first, request_behind]
    simp [behind]

end Layer

/-! ## Requests for a route -/

namespace Service

/-- A request for a route, and the parameters of its path as they are written. -/
structure Matches (routes : List Route) (request : Http.Request) (route : Route)
    (written : List (String × List Char)) : Prop where
  route : ∃ taking, Service.routesOf? ⟨routes, []⟩ request.target.path = some (taking, written) ∧
    routeOf? request.method taking = some route

/-- An outcome as it leaves a service, by way of its layers. -/
def delivered (layers : List Layer) (ambient : Ambient) (request : Http.Request)
    (outcome : Outcome) : Outcome :=
  (if request.method = "HEAD" then { outcome.1 with body := "" } else outcome.1,
    layers.reverse.flatMap (Layer.seen ambient request) ++ outcome.2)

section Gated
variable {gate : PathGate} {layers : List Layer} {routes : List Route} {request : Http.Request}
  {route : Route} {written : List (String × List Char)}

/-- What the handler of a route gets to see of a request. -/
def scopeFor (layers : List Layer) (request : Http.Request)
    (written : List (String × List Char)) : Scope :=
  Layer.behind layers (.ofRequest request (PathParameters.decode written))

theorem respond_gated (free : ∀ layer ∈ layers, layer.isGate = false)
    (found : Matches routes request route written) (ambient : Ambient) :
    Service.respond ⟨routes, .gate gate :: layers⟩ ambient request =
      delivered layers ambient request
        (Layer.guarded gate route.handler ambient (scopeFor layers request written)) := by
  obtain ⟨taking, taken, chosen⟩ := found.route
  have same : Service.routesOf? ⟨routes, .gate gate :: layers⟩ request.target.path =
      some (taking, written) := taken
  have answered : Service.answer ⟨routes, .gate gate :: layers⟩ ambient request =
      Service.layered ⟨routes, .gate gate :: layers⟩ route.handler ambient
        (.ofRequest request (PathParameters.decode written)) := by
    rw [answer, same]
    simp only [chosen]
  rw [respond, answered, layered, List.foldl_cons, Layer.foldl_around free]
  rfl

/-- The fault of a parameter that does not match. -/
structure Reports (reason : ParameterError) (fault : Fault) : Prop where
  code : fault.code = "http.400.InvalidParametersFailure"
  status : fault.status = 400
  cause : fault.cause = some (.plain reason.message)

theorem reports_builtin (reporter : Reporter) (ambient : Ambient) (reason : ParameterError) :
    Reports reason (reporter.builtin ambient .invalidParametersFailure .empty
      [.plain reason.message]).1 := by
  rw [Reporter.builtin]
  constructor
  · rw [Reporter.instantiate_code]
    rfl
  · rw [Reporter.instantiate_status]
    rfl
  · rw [Reporter.instantiate_cause]
    rfl

end Gated

end Service

/-- A gate decides over a request for a route behind it.  The handler runs if all parameters
pass, and also if one of them is no text.  Otherwise the first that does not pass decides:
one with a slash is not found, another is answered with the fault of the reporter that the
layers put beside the request, or with its reason alone where they put none. -/
theorem gate_decides {gate : PathGate} {layers : List Layer}
    (free : ∀ layer ∈ layers, layer.isGate = false) {routes : List Route}
    {request : Http.Request} {route : Route} {written : List (String × List Char)}
    (found : Service.Matches routes request route written) (ambient : Ambient) :
    let outcome := Service.respond ⟨routes, .gate gate :: layers⟩ ambient request
    let delivered := Service.delivered layers ambient request
    ((∀ parameter ∈ written, gate.Passes parameter) ∨
        (∃ parameter ∈ written, PathParameters.NoText parameter) ∨
          ∃ name value, gate.FirstRefused written name value) ∧
      ((∀ parameter ∈ written, gate.Passes parameter) ∨
          (∃ parameter ∈ written, PathParameters.NoText parameter) →
        outcome = delivered (route.handler ambient (Service.scopeFor layers request written))) ∧
      ∀ name value, gate.FirstRefused written name value →
        let reason := ParameterError.mismatch name value
        ('/' ∈ value.toList → outcome = delivered (.bare 404, [])) ∧
          ('/' ∉ value.toList →
            (∀ settings, layers.findSome? Layer.context? = some settings →
              let context := settings.contextFor request
              ∃ fault events, Service.Reports reason fault ∧
                outcome = delivered (.ofFault fault context.debug context.locale, events)) ∧
            (layers.findSome? Layer.context? = none →
              outcome = delivered (.plain 400 reason.message, []))) := by
  intro outcome delivered
  have parameters : (Service.scopeFor layers request written).parameters =
      PathParameters.decode written :=
    Layer.parameters_behind layers _
  have reporter : (Service.scopeFor layers request written).reporter =
      (layers.findSome? Layer.context?).map (·.reporterFor request) := by
    rw [Service.scopeFor, Layer.reporter_behind]
    exact Option.or_none
  have responded : outcome = delivered (Layer.guarded gate route.handler ambient
      (Service.scopeFor layers request written)) :=
    Service.respond_gated free found ambient
  refine ⟨gate.written_cases written, ?_, ?_⟩
  · intro opens
    rw [responded, Layer.guarded, parameters, gate.verdict_pass opens]
  · intro name value first reason
    obtain ⟨slashed, mismatched⟩ := gate.verdict_refused first
    constructor
    · intro slash
      rw [responded, Layer.guarded, parameters, slashed slash]
    · intro noSlash
      rw [responded, Layer.guarded, parameters, mismatched noSlash]
      constructor
      · intro settings installed context
        rw [installed] at reporter
        simp only [Layer.refuse, reporter, Option.map_some]
        exact ⟨_, _, Service.reports_builtin (settings.reporterFor request) ambient reason, rfl⟩
      · intro missing
        rw [missing] at reporter
        simp only [Layer.refuse, reporter, Option.map_none]
        rfl

/-! ## A route with two parameters -/

def partRoute : Route :=
  ⟨.ofString "/users/\x7bid\x7d/\x7bpart\x7d", "GET", fun _ _ => (.plain 200 "ran", [])⟩

def partRequest (path : String) : Http.Request := ⟨"GET", ⟨path, none⟩, []⟩

def partSettings : ContextSettings := ⟨.builtin, false, "en"⟩

def partAmbient : Ambient := ⟨⟨"2024-05-01T10:00:00Z", "0: main"⟩, .off⟩

theorem matches_part {path : String} {written : List (String × List Char)}
    (taken : partRoute.pattern.match? path = some written) :
    Service.Matches [partRoute] (partRequest path) partRoute written := by
  refine ⟨[partRoute], ?_, rfl⟩
  simp [Service.routesOf?, partRequest, taken, PathPattern.foremost?]

/-- A number passes the standard gate, and a name behind it does not. -/
theorem gate_decides_mismatch :
    let response := (Service.respond ⟨[partRoute], [.gate .standard, .context partSettings]⟩
      partAmbient (partRequest "/users/7/alice")).1
    response.status = 400 ∧
      response.fault.map Fault.code = some "http.400.InvalidParametersFailure" := by
  intro response
  have found : Service.Matches [partRoute] (partRequest "/users/7/alice") partRoute
      [("id", "7".toList), ("part", "alice".toList)] :=
    matches_part (by decide +kernel)
  have free : ∀ layer ∈ [Layer.context partSettings], layer.isGate = false := by
    simp [Layer.isGate]
  have passes : PathGate.standard.Passes ("id", "7".toList) :=
    ⟨("id", "7"), ⟨rfl, by decide⟩, ⟨by decide, by decide +kernel⟩⟩
  have first : PathGate.standard.FirstRefused
      [("id", "7".toList), ("part", "alice".toList)] "part" "alice" := by
    refine ⟨⟨[("id", "7".toList)], "alice".toList, [], rfl, ?_, ⟨rfl, by decide⟩, ?_⟩, ?_⟩
    · intro parameter inside
      rw [List.mem_singleton.mp inside]
      exact passes
    · intro parameter none
      exact absurd none List.not_mem_nil
    · intro admits
      exact absurd admits.accepted (by decide +kernel)
  obtain ⟨-, -, refused⟩ := gate_decides free found partAmbient
  obtain ⟨fault, events, reports, answered⟩ :=
    ((refused "part" "alice" first).2 (by decide)).1 partSettings rfl
  have same : response = .ofFault fault false "en" := congrArg Prod.fst answered
  rw [same]
  constructor
  · change fault.httpStatus = 400
    rw [Fault.httpStatus, reports.status]
    rfl
  · change some fault.code = _
    rw [reports.code]

/-- A parameter that is no text is not refused: the handler runs. -/
theorem no_text_let_through :
    ¬ ∀ (gate : PathGate) (routes : List Route) (settings : ContextSettings) (ambient : Ambient)
        (request : Http.Request) (route : Route) (written : List (String × List Char)),
      Service.Matches routes request route written →
        (∃ parameter ∈ written, ¬ gate.Passes parameter) →
          let response := (Service.respond ⟨routes, [.gate gate, .context settings]⟩
            ambient request).1
          response.status = 404 ∨
            response.fault.map Fault.code = some "http.400.InvalidParametersFailure" := by
  intro all
  have found : Service.Matches [partRoute] (partRequest "/users/%FF/1") partRoute
      [("id", "%FF".toList), ("part", "1".toList)] :=
    matches_part (by decide +kernel)
  have refused := all .standard [partRoute] partSettings partAmbient (partRequest "/users/%FF/1")
    partRoute _ found
  have noText : ¬ PathGate.standard.Passes ("id", "%FF".toList) := by
    rintro ⟨value, ⟨-, text⟩, -⟩
    have none : Text.Utf8.decode? (Percent.decodeText "%FF".toList) = none := by decide +kernel
    rw [none] at text
    cases text
  have ran := refused ⟨_, List.mem_cons_self, noText⟩
  revert ran
  decide +kernel

end FaultMesh
