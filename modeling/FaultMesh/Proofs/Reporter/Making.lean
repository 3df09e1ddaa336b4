import FaultMesh.Proofs.Registry.Merged
import FaultMesh.Proofs.Reporter

/-!
# Ways to make a fault

A fault can be made for a builtin code, for a text that has to be registered, and for any
text at all.  Where two of these ways apply they make the same fault and log the same, but
for what the moment of the making leaves on them: the time and the stack.
-/

set_option autoImplicit false

namespace FaultMesh

def Fault.undated (fault : Fault) : Fault :=
  { fault with timestamp := "", stack := .empty }

/-- An event without the time and the stack that it tells. -/
def Log.Event.undated (event : Log.Event) : Log.Event :=
  { event with
    fields := event.fields.map fun (name, value) =>
      if name = "timestamp" ∨ name = "stack_trace" then (name, .quoted "") else (name, value) }

def preceded (events : List Log.Event) (made : Fault × List Log.Event) :
    Fault × List Log.Event :=
  (made.1, events ++ made.2)

/-- Two faults with what was logged of them that differ at most in time and stack. -/
structure SameMaking (first second : Fault × List Log.Event) : Prop where
  fault : first.1.undated = second.1.undated
  events : first.2.map Log.Event.undated = second.2.map Log.Event.undated

theorem Log.undated_admitted (verbosity : Verbosity) (events : List Log.Event) :
    (Log.admitted verbosity events).map Log.Event.undated =
      Log.admitted verbosity (events.map Log.Event.undated) := by
  rw [Log.admitted, Log.admitted, List.filter_map]
  rfl

namespace Registry

theorem getDefinition_eq_none_iff (registry : Registry) (code : String) :
    registry.getDefinition code = none ↔
      code ∉ Builtin.all.map Builtin.code ∧ code ∉ registry.configured.keys := by
  rw [← Option.not_isSome_iff_eq_none, isSome_getDefinition_iff, mem_codes,
    not_or, Option.not_isSome_iff_eq_none, Builtin.ofCode?_eq_none_iff]

end Registry

namespace Reporter

section Making
variable (reporter : Reporter) (verbosity : Verbosity) (here there : Moment)
  (definition : Definition) (data : Data) (causes : List Cause)

theorem undated_faultEvent (context : RequestContext) {fault other : Fault}
    (same : fault.undated = other.undated) :
    (faultEvent context fault).undated = (faultEvent context other).undated := by
  simp only [Fault.undated, Fault.mk.injEq] at same
  obtain ⟨code, status, -, messages, data, cause, -⟩ := same
  have message : fault.message context.locale = other.message context.locale := by
    rw [Fault.message, Fault.message, messages]
  rw [faultEvent, faultEvent, code, status, message, data, cause]
  simp [Log.Event.undated]

theorem undated_faultEvents (context : RequestContext) {fault other : Fault}
    (same : fault.undated = other.undated) :
    (faultEvents context fault).map Log.Event.undated =
      (faultEvents context other).map Log.Event.undated := by
  have stack : (stackEvent fault).undated = (stackEvent other).undated := by
    have code : fault.code = other.code := (Fault.mk.inj same).1
    simp [stackEvent, Log.Event.undated, code]
  rw [faultEvents, faultEvents, List.map_cons, List.map_cons, undated_faultEvent context same]
  split
  · rw [List.map_singleton, List.map_singleton, stack]
  · rfl

/-- The moment of its making tells in nothing but the time and the stack. -/
theorem instantiate_sameMaking :
    SameMaking (reporter.instantiate ⟨here, verbosity⟩ definition data causes)
      (reporter.instantiate ⟨there, verbosity⟩ definition data causes) where
  fault := by
    unfold instantiate
    simp only
    split
    · rfl
    · rfl
  events := by
    unfold instantiate
    simp only
    rw [Log.undated_admitted, Log.undated_admitted, undated_faultEvents]
    rfl

end Making

/-! ## The ways -/

section Ways
variable (reporter : Reporter) (ambient : Ambient) {code : String} {definition : Definition}
  (data : Data) (causes : List Cause)

theorem new_of_found (found : reporter.registry.getDefinition code = some definition) :
    reporter.new ambient code data causes =
      .ok (reporter.instantiate ambient definition data causes) := by
  rw [new, Registry.resolve, found]
  rfl

theorem new_of_missing (missing : reporter.registry.getDefinition code = none) :
    reporter.new ambient code data causes = .error (.notFound code) := by
  rw [new, Registry.resolve, missing]
  rfl

theorem fail_of_found (found : reporter.registry.getDefinition code = some definition) :
    reporter.fail ambient code data causes =
      reporter.instantiate ambient definition data causes := by
  rw [fail, Registry.resolve, found]

theorem fail_of_missing (missing : reporter.registry.getDefinition code = none) :
    reporter.fail ambient code data causes =
      preceded (Log.admitted ambient.verbosity [unresolvedEvent (.notFound code)])
        (reporter.builtin ambient .unknownErrorCode (.ofList [("Code", .text code)]) causes) := by
  rw [fail, Registry.resolve, missing]
  rfl

end Ways

section Agreement
variable (reporter : Reporter) (verbosity : Verbosity) (here there : Moment) (data : Data)
  (causes : List Cause)

theorem builtin_sameMaking (code : Builtin) :
    (∃ made, reporter.new ⟨there, verbosity⟩ code.code data causes = .ok made ∧
        SameMaking (reporter.builtin ⟨here, verbosity⟩ code data causes) made) ∧
      SameMaking (reporter.builtin ⟨here, verbosity⟩ code data causes)
        (reporter.fail ⟨there, verbosity⟩ code.code data causes) := by
  have found := reporter.registry.getDefinition_builtin code
  have same := instantiate_sameMaking reporter verbosity here there code.definition data causes
  constructor
  · exact ⟨_, new_of_found reporter ⟨there, verbosity⟩ data causes found, same⟩
  · rw [fail_of_found reporter ⟨there, verbosity⟩ data causes found]
    exact same

theorem new_eq_error_iff (ambient : Ambient) (code : String) (reason : RegistryError) :
    reporter.new ambient code data causes = .error reason ↔
      reason = .notFound code ∧ code ∉ Builtin.all.map Builtin.code ∧
        code ∉ reporter.registry.configured.keys := by
  rw [← Registry.getDefinition_eq_none_iff]
  cases found : reporter.registry.getDefinition code with
  | none =>
    rw [new_of_missing reporter ambient data causes found]
    simp [eq_comm]
  | some definition =>
    rw [new_of_found reporter ambient data causes found]
    simp

theorem new_sameMaking (code : String) {made : Fault × List Log.Event}
    (succeeds : reporter.new ⟨here, verbosity⟩ code data causes = .ok made) :
    SameMaking made (reporter.fail ⟨there, verbosity⟩ code data causes) := by
  cases found : reporter.registry.getDefinition code with
  | none =>
    rw [new_of_missing reporter ⟨here, verbosity⟩ data causes found] at succeeds
    cases succeeds
  | some definition =>
    rw [new_of_found reporter ⟨here, verbosity⟩ data causes found] at succeeds
    obtain rfl := Except.ok.inj succeeds
    rw [fail_of_found reporter ⟨there, verbosity⟩ data causes found]
    exact instantiate_sameMaking reporter verbosity here there definition data causes

/-- A code that is in neither source is itself a fault, behind an event that says so. -/
theorem degraded_sameMaking (code : String) {reason : RegistryError}
    (fails : reporter.new ⟨here, verbosity⟩ code data causes = .error reason) :
    ∃ event : Log.Event, event.level = .error ∧
      event.fields = [("error", .shown reason.message)] ∧
        SameMaking
          (preceded (Log.admitted verbosity [event])
            (reporter.builtin ⟨here, verbosity⟩ .unknownErrorCode
              (.ofList [("Code", .text code)]) causes))
          (reporter.fail ⟨there, verbosity⟩ code data causes) := by
  obtain ⟨rfl, absent⟩ := (new_eq_error_iff reporter data causes _ code reason).mp fails
  have missing := (reporter.registry.getDefinition_eq_none_iff code).mpr absent
  refine ⟨unresolvedEvent (.notFound code), rfl, rfl, ?_⟩
  have same := instantiate_sameMaking reporter verbosity here there
    Builtin.unknownErrorCode.definition (.ofList [("Code", .text code)]) causes
  rw [fail_of_missing reporter ⟨there, verbosity⟩ data causes missing]
  refine ⟨same.fault, ?_⟩
  rw [preceded, preceded, List.map_append, List.map_append]
  exact congrArg _ same.events

/-! ## The first cause -/

theorem instantiate_first (ambient : Ambient) (definition : Definition) :
    reporter.instantiate ambient definition data (causes.take 1) =
      reporter.instantiate ambient definition data causes := by
  rw [instantiate, instantiate, List.head?_take, if_neg Nat.one_ne_zero]

theorem new_first (ambient : Ambient) (code : String) :
    reporter.new ambient code data (causes.take 1) = reporter.new ambient code data causes ∧
      ∀ made, reporter.new ambient code data causes = .ok made →
        made.1.cause = causes.head? := by
  cases found : reporter.registry.getDefinition code with
  | none =>
    rw [new_of_missing reporter ambient data _ found, new_of_missing reporter ambient data _ found]
    exact ⟨rfl, fun made succeeds => by cases succeeds⟩
  | some definition =>
    rw [new_of_found reporter ambient data _ found, new_of_found reporter ambient data _ found,
      instantiate_first]
    refine ⟨rfl, ?_⟩
    intro made succeeds
    obtain rfl := Except.ok.inj succeeds
    exact instantiate_cause reporter ambient definition data causes

theorem fail_first (ambient : Ambient) (code : String) :
    reporter.fail ambient code data (causes.take 1) = reporter.fail ambient code data causes ∧
      (reporter.fail ambient code data causes).1.cause = causes.head? := by
  cases found : reporter.registry.getDefinition code with
  | none =>
    rw [fail_of_missing reporter ambient data _ found, fail_of_missing reporter ambient data _ found,
      builtin, builtin, instantiate_first]
    exact ⟨rfl, instantiate_cause reporter ambient _ _ causes⟩
  | some definition =>
    rw [fail_of_found reporter ambient data _ found, fail_of_found reporter ambient data _ found,
      instantiate_first]
    exact ⟨rfl, instantiate_cause reporter ambient definition data causes⟩

/-- The ways to make a fault agree, but for the moment of the making.  A builtin code makes
the same fault however it is given, and so does a text that is registered.  A text that is in
neither source is refused as such, or makes the fault of an unknown code behind one event
for the refusal.  Of the causes only the first one counts. -/
theorem ways_agree :
    (∀ code : Builtin,
        (∃ made, reporter.new ⟨there, verbosity⟩ code.code data causes = .ok made ∧
          SameMaking (reporter.builtin ⟨here, verbosity⟩ code data causes) made) ∧
        SameMaking (reporter.builtin ⟨here, verbosity⟩ code data causes)
          (reporter.fail ⟨there, verbosity⟩ code.code data causes)) ∧
      (∀ code : String,
        (∀ reason, reporter.new ⟨here, verbosity⟩ code data causes = .error reason ↔
          reason = .notFound code ∧ code ∉ Builtin.all.map Builtin.code ∧
            code ∉ reporter.registry.configured.keys) ∧
        (∀ made, reporter.new ⟨here, verbosity⟩ code data causes = .ok made →
          SameMaking made (reporter.fail ⟨there, verbosity⟩ code data causes)) ∧
        (∀ reason, reporter.new ⟨here, verbosity⟩ code data causes = .error reason →
          ∃ event : Log.Event, event.level = .error ∧
            event.fields = [("error", .shown reason.message)] ∧
              SameMaking
                (preceded (Log.admitted verbosity [event])
                  (reporter.builtin ⟨here, verbosity⟩ .unknownErrorCode
                    (.ofList [("Code", .text code)]) causes))
                (reporter.fail ⟨there, verbosity⟩ code data causes))) ∧
      (∀ code : Builtin,
        reporter.builtin ⟨here, verbosity⟩ code data (causes.take 1) =
            reporter.builtin ⟨here, verbosity⟩ code data causes ∧
          (reporter.builtin ⟨here, verbosity⟩ code data causes).1.cause = causes.head?) ∧
      ∀ code : String,
        (reporter.new ⟨here, verbosity⟩ code data (causes.take 1) =
            reporter.new ⟨here, verbosity⟩ code data causes ∧
          ∀ made, reporter.new ⟨here, verbosity⟩ code data causes = .ok made →
            made.1.cause = causes.head?) ∧
        reporter.fail ⟨here, verbosity⟩ code data (causes.take 1) =
            reporter.fail ⟨here, verbosity⟩ code data causes ∧
          (reporter.fail ⟨here, verbosity⟩ code data causes).1.cause = causes.head? := by
  refine ⟨builtin_sameMaking reporter verbosity here there data causes, ?_, ?_, ?_⟩
  · intro code
    refine ⟨new_eq_error_iff reporter data causes _ code, ?_, ?_⟩
    · intro made succeeds
      exact new_sameMaking reporter verbosity here there data causes code succeeds
    · intro reason fails
      exact degraded_sameMaking reporter verbosity here there data causes code fails
  · intro code
    exact ⟨instantiate_first reporter data causes _ _, instantiate_cause reporter _ _ data causes⟩
  · intro code
    exact ⟨new_first reporter data causes _ code, fail_first reporter data causes _ code⟩

end Agreement

/-- A source that defines a builtin code anew, and a code that is in neither source. -/
theorem ways_agree_shadowed :
    let registry : Registry :=
      ⟨.ofList [("http.401.TokenMissing", { Definition.blank with code := "http.401.TokenMissing" })]⟩
    let reporter : Reporter := ⟨registry, ⟨"en", true, "GET", "/a", "q=1"⟩⟩
    let here : Ambient := ⟨⟨"2024-05-01T10:00:00Z", "0: main"⟩, .upTo .debug⟩
    let there : Ambient := ⟨⟨"2024-05-02T11:00:00Z", ""⟩, .upTo .debug⟩
    SameMaking (reporter.builtin here .tokenMissing .empty [.plain "a", .plain "b"])
        (reporter.fail there "http.401.TokenMissing" .empty [.plain "a", .plain "b"]) ∧
      reporter.new here "users.404.Missing" .empty [] = .error (.notFound "users.404.Missing") := by
  intro registry reporter here there
  obtain ⟨builtins, -⟩ := ways_agree reporter (.upTo .debug) here.moment there.moment .empty
    [.plain "a", .plain "b"]
  obtain ⟨-, texts, -⟩ := ways_agree reporter (.upTo .debug) here.moment there.moment .empty []
  refine ⟨(builtins .tokenMissing).2, ?_⟩
  exact ((texts "users.404.Missing").1 _).mpr ⟨rfl, by decide, by decide⟩

end Reporter

end FaultMesh
