import FaultMesh.Inbound
import FaultMesh.Proofs.Reporter.Making

/-!
# What a run logs

Reporters are given tasks one after another, some of them in debug mode.  The log of the
run is a row of chapters, one for each fault that was made: it is told of once, in full and
in the language of its request, and in debug mode its stack follows.  A code that the
registry does not know is refused before the fault that stands in for it is told of.
-/

set_option autoImplicit false

namespace FaultMesh

inductive Task where
  | new (code : String) (data : Data) (causes : List Cause)
  | builtin (code : Builtin) (data : Data) (causes : List Cause)
  | fail (code : String) (data : Data) (causes : List Cause)
  | decode (octets : List UInt8)

/-- A task, the reporter that is given it, and the moment of the work. -/
structure Step where
  reporter : Reporter
  moment : Moment
  task : Task

/-- A fault, the request that it was made for, and the unknown code that it stands in for. -/
structure Made where
  context : RequestContext
  fault : Fault
  unknown : Option String

namespace Step

variable (verbosity : Verbosity) (step : Step)

def perform : Except RegistryError (Fault × List Log.Event) :=
  match step.task with
  | .new code data causes => step.reporter.new ⟨step.moment, verbosity⟩ code data causes
  | .builtin code data causes =>
    .ok (step.reporter.builtin ⟨step.moment, verbosity⟩ code data causes)
  | .fail code data causes => .ok (step.reporter.fail ⟨step.moment, verbosity⟩ code data causes)
  | .decode octets => .ok (Inbound.decode step.reporter ⟨step.moment, verbosity⟩ octets)

/-- What is logged.  A task that comes to nothing logs nothing. -/
def events : List Log.Event :=
  match step.perform verbosity with
  | .ok (_, events) => events
  | .error _ => []

/-- Whether the task yields a fault that another service made. -/
def receives : Bool :=
  match step.task with
  | .decode octets => (Inbound.recognize? step.moment (Json.parse octets)).isSome
  | _ => false

/-- The code that the task fails with, if the registry does not know it. -/
def unknown? : Option String :=
  match step.task with
  | .fail code _ _ => if code ∈ step.reporter.registry.codes then none else some code
  | _ => none

/-- The fault that the reporter makes, if it makes one. -/
def made? : Option Made :=
  match step.perform verbosity with
  | .ok (fault, _) =>
    if step.receives then none else some ⟨step.reporter.context, fault, step.unknown?⟩
  | .error _ => none

end Step

/-- The log of a run. -/
def runLog (verbosity : Verbosity) (steps : List Step) : List Log.Event :=
  steps.flatMap (Step.events verbosity)

/-- The faults that are made in a run, in their order. -/
def runMade (verbosity : Verbosity) (steps : List Step) : List Made :=
  steps.filterMap (Step.made? verbosity)

/-- An event that tells of a fault: all of its data, whoever may see them, and the message
for the request. -/
structure Reports (context : RequestContext) (fault : Fault) (event : Log.Event) : Prop where
  level : event.level = if 500 ≤ fault.status then .error else .warn
  message : event.message = fault.message context.locale
  code : List.lookup "error_code" event.fields = some (.quoted fault.code)
  status : List.lookup "status_code" event.fields = some (.number fault.status.toNat)
  timestamp : List.lookup "timestamp" event.fields = some (.quoted fault.timestamp)
  data : List.lookup "data" event.fields =
    some (.shown (Json.render (.map fault.data.entries)))
  cause : List.lookup "cause" event.fields =
    fault.cause.map fun cause => .quoted cause.text

/-- An event that shows the stack of a fault. -/
structure ShowsStack (fault : Fault) (event : Log.Event) : Prop where
  level : event.level = .debug
  message : event.message = "error stack trace"
  code : List.lookup "error_code" event.fields = some (.quoted fault.code)
  stack : List.lookup "stack_trace" event.fields = some (.quoted fault.stack.text)

/-- An event that tells of an unknown code, and of no fault. -/
structure Refuses (code : String) (event : Log.Event) : Prop where
  level : event.level = .error
  message : event.message = "failed to construct error"
  noCode : List.lookup "error_code" event.fields = none
  reason : List.lookup "error" event.fields =
    some (.shown (RegistryError.notFound code).message)

/-- What is logged of one fault, in order. -/
structure Chapter where
  refusal : Option Log.Event
  report : Log.Event
  trace : Option Log.Event

def Chapter.events (chapter : Chapter) : List Log.Event :=
  chapter.refusal.toList ++ chapter.report :: chapter.trace.toList

/-- A chapter is about a fault: it refuses the code that the fault stands in for, reports the
fault, and in debug mode shows its stack right after. -/
structure Accounts (made : Made) (chapter : Chapter) : Prop where
  refusal : Option.Rel Refuses made.unknown chapter.refusal
  substitute : made.unknown.isSome → made.fault.code = Builtin.unknownErrorCode.code
  report : Reports made.context made.fault chapter.report
  trace : Option.Rel ShowsStack (if made.context.debug then some made.fault else none)
    chapter.trace

/-- Errors and warnings that name the code of a fault. -/
def isReport (event : Log.Event) : Bool :=
  (event.level = .error || event.level = .warn) &&
    (List.lookup "error_code" event.fields).isSome

/-- The other errors. -/
def isOtherError (event : Log.Event) : Bool :=
  event.level = .error && !isReport event

/-! ## One task -/

section Events
variable (context : RequestContext) (fault : Fault)

theorem reports_faultEvent : Reports context fault (Reporter.faultEvent context fault) := by
  constructor
  case cause =>
    rw [Reporter.faultEvent]
    cases fault.cause with
    | none => rfl
    | some cause => rfl
  all_goals rfl

theorem showsStack_stackEvent : ShowsStack fault (Reporter.stackEvent fault) :=
  ⟨rfl, rfl, rfl, rfl⟩

theorem refuses_unresolvedEvent (code : String) :
    Refuses code (Reporter.unresolvedEvent (.notFound code)) :=
  ⟨rfl, rfl, rfl, rfl⟩

/-- Asking for the stack leaves what is logged as it is. -/
theorem faultEvents_forceStack :
    Reporter.faultEvents context fault.forceStack = Reporter.faultEvents context fault := rfl

/-- The chapter of a fault behind a refusal. -/
def Chapter.about (refusal : Option Log.Event) : Chapter :=
  ⟨refusal, Reporter.faultEvent context fault,
    if context.debug then some (Reporter.stackEvent fault) else none⟩

theorem Chapter.events_about (refusal : Option Log.Event) :
    (Chapter.about context fault refusal).events =
      refusal.toList ++ Reporter.faultEvents context fault := by
  rw [events, about, Reporter.faultEvents]
  cases context.debug <;> rfl

theorem accounts_about {unknown : Option String} {refusal : Option Log.Event}
    (refused : Option.Rel Refuses unknown refusal)
    (substitute : unknown.isSome → fault.code = Builtin.unknownErrorCode.code) :
    Accounts ⟨context, fault, unknown⟩ (Chapter.about context fault refusal) where
  refusal := refused
  substitute := substitute
  report := reports_faultEvent context fault
  trace := by
    rw [Chapter.about]
    split
    · exact .some (showsStack_stackEvent fault)
    · exact .none

theorem rank_of_mem_faultEvents {event : Log.Event}
    (inside : event ∈ Reporter.faultEvents context fault) :
    event.level.rank ≤ Level.debug.rank := by
  rw [Reporter.faultEvents, List.mem_cons] at inside
  rcases inside with rfl | inside
  · rw [(reports_faultEvent context fault).level]
    split <;> decide
  · split at inside
    · rw [List.mem_singleton.mp inside, (showsStack_stackEvent fault).level]
    · cases inside

end Events

theorem Log.admitted_of_rank {verbosity : Verbosity} (all : verbosity.admits .debug = true)
    {events : List Log.Event} (own : ∀ event ∈ events, event.level.rank ≤ Level.debug.rank) :
    Log.admitted verbosity events = events := by
  rw [Log.admitted, List.filter_eq_self]
  intro event inside
  cases verbosity with
  | off => cases all
  | upTo most =>
    have far : Level.debug.rank ≤ most.rank := of_decide_eq_true all
    exact decide_eq_true ((own event inside).trans far)

section Made
variable {verbosity : Verbosity} (all : verbosity.admits .debug = true) (reporter : Reporter)
  (moment : Moment) (data : Data) (causes : List Cause)
include all

/-- What is logged of a fault is what can be told of it when it is handed out. -/
theorem instantiate_events (definition : Definition) :
    (reporter.instantiate ⟨moment, verbosity⟩ definition data causes).2 =
      Reporter.faultEvents reporter.context
        (reporter.instantiate ⟨moment, verbosity⟩ definition data causes).1 := by
  have written : (reporter.instantiate ⟨moment, verbosity⟩ definition data causes).2 =
      Reporter.faultEvents reporter.context
        (reporter.rendered ⟨moment, verbosity⟩ definition data causes) := by
    apply Log.admitted_of_rank all
    intro event inside
    exact rank_of_mem_faultEvents _ _ inside
  rcases reporter.instantiate_fault ⟨moment, verbosity⟩ definition data causes with same | same
  · rw [written, same]
  · rw [written, same, faultEvents_forceStack]

theorem instantiate_accounted (definition : Definition) :
    ∃ chapter : Chapter,
      (reporter.instantiate ⟨moment, verbosity⟩ definition data causes).2 = chapter.events ∧
      Accounts ⟨reporter.context,
        (reporter.instantiate ⟨moment, verbosity⟩ definition data causes).1, none⟩ chapter := by
  refine ⟨.about reporter.context _ none, ?_, accounts_about _ _ .none (by simp)⟩
  rw [instantiate_events all, Chapter.events_about]
  rfl

theorem fail_missing_accounted {code : String}
    (missing : reporter.registry.getDefinition code = none) :
    ∃ chapter : Chapter,
      (reporter.fail ⟨moment, verbosity⟩ code data causes).2 = chapter.events ∧
      Accounts ⟨reporter.context, (reporter.fail ⟨moment, verbosity⟩ code data causes).1,
        some code⟩ chapter := by
  have refusal := refuses_unresolvedEvent code
  rw [reporter.fail_of_missing _ data causes missing, preceded]
  refine ⟨.about reporter.context _ (some (Reporter.unresolvedEvent (.notFound code))), ?_,
    accounts_about _ _ (.some refusal) ?_⟩
  · have admitted : Log.admitted verbosity [Reporter.unresolvedEvent (.notFound code)] =
        [Reporter.unresolvedEvent (.notFound code)] := by
      apply Log.admitted_of_rank all
      intro event inside
      rw [List.mem_singleton.mp inside, refusal.level]
      decide
    rw [admitted, Reporter.builtin, instantiate_events all, Chapter.events_about]
    rfl
  · intro _
    rw [Reporter.builtin, Reporter.instantiate_code]
    rfl

end Made

namespace Step

variable {verbosity : Verbosity} {step : Step}

theorem accounted_of_performed {result : Fault × List Log.Event}
    (performed : step.perform verbosity = .ok result) (own : step.receives = false)
    (told : ∃ chapter : Chapter, result.2 = chapter.events ∧
      Accounts ⟨step.reporter.context, result.1, step.unknown?⟩ chapter) :
    ∃ made chapter, step.made? verbosity = some made ∧ made.unknown = step.unknown? ∧
      step.events verbosity = chapter.events ∧ Accounts made chapter := by
  obtain ⟨chapter, written, accounts⟩ := told
  refine ⟨_, chapter, ?_, rfl, ?_, accounts⟩
  · rw [made?, performed]
    simp [own]
  · rw [events, performed]
    exact written

theorem unknown?_fail {reporter : Reporter} {moment : Moment} {code : String} {data : Data}
    {causes : List Cause} :
    unknown? ⟨reporter, moment, .fail code data causes⟩ =
      if (reporter.registry.getDefinition code).isSome then none else some code := by
  simp only [unknown?, Registry.isSome_getDefinition_iff]

/-- A task logs one chapter for the fault that is made, and nothing if none is. -/
theorem events_accounted (all : verbosity.admits .debug = true) (step : Step) :
    (step.made? verbosity = none ∧ step.unknown? = none ∧ step.events verbosity = []) ∨
      ∃ made chapter, step.made? verbosity = some made ∧ made.unknown = step.unknown? ∧
        step.events verbosity = chapter.events ∧ Accounts made chapter := by
  obtain ⟨reporter, moment, task⟩ := step
  cases task with
  | new code data causes =>
    cases found : reporter.registry.getDefinition code with
    | none =>
      have refused := reporter.new_of_missing ⟨moment, verbosity⟩ data causes found
      left
      simp [made?, unknown?, events, perform, refused]
    | some definition =>
      have performed : perform verbosity ⟨reporter, moment, .new code data causes⟩ = _ :=
        reporter.new_of_found _ data causes found
      right
      apply accounted_of_performed performed rfl
      exact instantiate_accounted all reporter moment data causes definition
  | builtin code data causes =>
    right
    apply accounted_of_performed rfl rfl
    exact instantiate_accounted all reporter moment data causes code.definition
  | fail code data causes =>
    right
    apply accounted_of_performed rfl rfl
    rw [unknown?_fail]
    cases found : reporter.registry.getDefinition code with
    | none => exact fail_missing_accounted all reporter moment data causes found
    | some definition =>
      rw [reporter.fail_of_found _ data causes found]
      exact instantiate_accounted all reporter moment data causes definition
  | decode octets =>
    cases recognized : Inbound.recognize? moment (Json.parse octets) with
    | some fault =>
      left
      simp [made?, unknown?, events, perform, receives, Inbound.decode, recognized]
    | none =>
      right
      apply accounted_of_performed rfl
      · simp [receives, recognized]
      · simp only [Inbound.decode, recognized]
        exact instantiate_accounted all reporter moment _ _ _

end Step

/-! ## Sorting a log -/

section Chapters
variable {made : Made} {chapter : Chapter}

theorem Reports.isReport {context : RequestContext} {fault : Fault} {event : Log.Event}
    (reports : Reports context fault event) : isReport event = true := by
  rw [FaultMesh.isReport, reports.code, reports.level]
  split <;> rfl

theorem Refuses.isOtherError {code : String} {event : Log.Event} (refuses : Refuses code event) :
    isReport event = false ∧ isOtherError event = true := by
  rw [FaultMesh.isOtherError, isReport, refuses.noCode, refuses.level]
  decide

theorem ShowsStack.isNeither {fault : Fault} {event : Log.Event} (shown : ShowsStack fault event) :
    isReport event = false ∧ isOtherError event = false := by
  rw [isOtherError, isReport, shown.level]
  exact ⟨rfl, rfl⟩

theorem filter_toList_of_rel {α : Type} {relation : α → Log.Event → Prop} {subject : Option α}
    {event : Option Log.Event} (related : Option.Rel relation subject event)
    {keep : Log.Event → Bool} (verdict : Bool)
    (judged : ∀ subject event, relation subject event → keep event = verdict) :
    event.toList.filter keep = if verdict then event.toList else [] := by
  cases related with
  | none => cases verdict <;> rfl
  | some related =>
    rw [Option.toList_some, List.filter_singleton, judged _ _ related]
    cases verdict <;> rfl

theorem Accounts.filter_isReport (accounts : Accounts made chapter) :
    chapter.events.filter isReport = [chapter.report] := by
  have refusal := filter_toList_of_rel accounts.refusal false fun _ _ refuses =>
    refuses.isOtherError.1
  have trace := filter_toList_of_rel accounts.trace false fun _ _ shown => shown.isNeither.1
  rw [Chapter.events, List.filter_append, List.filter_cons_of_pos accounts.report.isReport,
    refusal, trace]
  rfl

theorem Accounts.filter_isOtherError (accounts : Accounts made chapter) :
    chapter.events.filter isOtherError = chapter.refusal.toList := by
  have refusal := filter_toList_of_rel accounts.refusal true fun _ _ refuses =>
    refuses.isOtherError.2
  have trace := filter_toList_of_rel accounts.trace false fun _ _ shown => shown.isNeither.2
  have report : isOtherError chapter.report = false := by
    rw [isOtherError, accounts.report.isReport]
    exact Bool.and_false _
  rw [Chapter.events, List.filter_append, List.filter_cons_of_neg (by simp [report]), refusal,
    trace]
  exact List.append_nil _

variable {many : List Made} {chapters : List Chapter}

theorem forall₂_filter_isReport (accounts : List.Forall₂ Accounts many chapters) :
    List.Forall₂ (fun made event => Reports made.context made.fault event) many
      ((chapters.flatMap Chapter.events).filter isReport) := by
  induction accounts with
  | nil => exact .nil
  | cons account _ ih =>
    rw [List.flatMap_cons, List.filter_append, account.filter_isReport]
    exact .cons account.report ih

theorem forall₂_filter_isOtherError (accounts : List.Forall₂ Accounts many chapters) :
    List.Forall₂ Refuses (many.filterMap Made.unknown)
      ((chapters.flatMap Chapter.events).filter isOtherError) := by
  induction accounts with
  | nil => exact .nil
  | @cons made chapter many chapters account _ ih =>
    rw [List.flatMap_cons, List.filter_append, account.filter_isOtherError]
    have refusal := account.refusal
    generalize chapter.refusal = event at refusal
    cases unknown : made.unknown with
    | none =>
      rw [unknown] at refusal
      cases refusal
      rw [List.filterMap_cons_none unknown]
      exact ih
    | some code =>
      rw [unknown] at refusal
      cases refusal with
      | some refuses =>
        rw [List.filterMap_cons_some unknown]
        exact .cons refuses ih

end Chapters

/-! ## Runs -/

section Runs
variable {verbosity : Verbosity} (all : verbosity.admits .debug = true) (steps : List Step)
include all

theorem runLog_accounted :
    ∃ chapters : List Chapter, runLog verbosity steps = chapters.flatMap Chapter.events ∧
      List.Forall₂ Accounts (runMade verbosity steps) chapters := by
  induction steps with
  | nil => exact ⟨[], rfl, .nil⟩
  | cons step steps ih =>
    obtain ⟨chapters, written, accounts⟩ := ih
    rw [runLog] at written
    rw [runLog, runMade, List.flatMap_cons, written]
    rcases step.events_accounted all with
      ⟨nothing, -, silent⟩ | ⟨made, chapter, one, -, told, account⟩
    · rw [List.filterMap_cons_none nothing, silent]
      exact ⟨chapters, rfl, accounts⟩
    · rw [List.filterMap_cons_some one, told]
      exact ⟨chapter :: chapters, rfl, .cons account accounts⟩

theorem runMade_unknown :
    (runMade verbosity steps).filterMap Made.unknown = steps.filterMap Step.unknown? := by
  rw [runMade, List.filterMap_filterMap]
  apply List.filterMap_congr
  intro step _
  rcases step.events_accounted all with ⟨nothing, known, -⟩ | ⟨made, chapter, one, same, -⟩
  · rw [nothing, known]
    rfl
  · rw [one, ← same]
    rfl

/-- A log in which every level is looked at tells of each fault once.  It consists of one
chapter for each fault that was made, in order; so the errors and warnings that name a code
are the reports of these faults, and the other errors refuse the unknown codes. -/
theorem run_told_once :
    (∃ chapters : List Chapter, runLog verbosity steps = chapters.flatMap Chapter.events ∧
        List.Forall₂ Accounts (runMade verbosity steps) chapters) ∧
      List.Forall₂ (fun made event => Reports made.context made.fault event)
        (runMade verbosity steps) ((runLog verbosity steps).filter isReport) ∧
      List.Forall₂ Refuses (steps.filterMap Step.unknown?)
        ((runLog verbosity steps).filter isOtherError) := by
  obtain ⟨chapters, written, accounts⟩ := runLog_accounted all steps
  refine ⟨⟨chapters, written, accounts⟩, ?_, ?_⟩
  · rw [written]
    exact forall₂_filter_isReport accounts
  · rw [written, ← runMade_unknown all]
    exact forall₂_filter_isOtherError accounts

end Runs

/-- An unknown code in debug mode, a code that `new` does not find, and a body that is wrapped:
two faults are told of, and the unknown code before them. -/
theorem run_told_once_mixed :
    let moment : Moment := ⟨"2024-05-01T10:00:00Z", "0: main"⟩
    let steps : List Step :=
      [⟨⟨.builtin, ⟨"en", true, "GET", "/users/7", ""⟩⟩, moment, .fail "users.404.Nope" .empty []⟩,
       ⟨⟨.builtin, .detached⟩, moment, .new "users.404.Nope" .empty []⟩,
       ⟨⟨.builtin, .detached⟩, moment, .decode [91, 93]⟩]
    let log := runLog (.upTo .trace) steps
    (log.filter isReport).length = 2 ∧
      ∃ event, log.filter isOtherError = [event] ∧ Refuses "users.404.Nope" event := by
  intro moment steps log
  have all : (Verbosity.upTo .trace).admits .debug = true := rfl
  obtain ⟨-, reports, refusals⟩ := run_told_once all steps
  constructor
  · rw [← reports.length_eq]
    decide +kernel
  · have unknown : steps.filterMap Step.unknown? = ["users.404.Nope"] := by decide +kernel
    rw [unknown] at refusals
    generalize log.filter isOtherError = others at refusals
    cases refusals with
    | cons refuses none =>
      cases none
      exact ⟨_, rfl, refuses⟩

end FaultMesh
