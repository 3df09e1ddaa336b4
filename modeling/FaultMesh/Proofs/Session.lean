import FaultMesh.Probe
import FaultMesh.Proofs.Reporter.Making
import FaultMesh.Session

/-!
# What the log changes in a session

Two runs do the same at the same moments, and differ in how much of the log is looked at.
A fault that is made in debug mode then knows the text of its stack earlier in one run than
in the other, and so does every fault that a name stands for; nothing else differs.  The
relation between the runs is kept by one operation, and so by all of them.
-/

set_option autoImplicit false

namespace FaultMesh

def Making.readsBack : Making → Bool
  | .resend _ _ _ => true
  | _ => false

/-- What can be asked of a session.  Bodies come from elsewhere: a full body of the session that
is read back hands on whether a stack was known, so it need not be the same in two runs. -/
inductive Operation where
  | make (slot : String) (making : Making) (given : making.readsBack = false)
  | share (slot of : String)
  | enter (context : RequestContext)
  | insert (definition : Definition)
  | look (slot : String)
  | project (slot : String) (debug : Bool) (locale : String)
  | readStack (slot : String)
  | probe (slot : String) (probe : Probe)
  | probeCause (request : CauseRequest) (probe : Probe)

/-- What an operation shows.  A fault and its full shape come with whether a reporter in debug
mode made the fault. -/
inductive Observation where
  | done
  | fault (debugged : Bool) (fault : Fault)
  | full (debugged : Bool) (document : Datum)
  | brief (octets : List UInt8)
  | stack (text : String)
  | verdict (accepted : Bool)
  | refused (reason : SessionError)

/-- A session, and which of its faults a reporter in debug mode made. -/
structure History where
  session : Session
  debugged : List Bool

/-- Whether a reporter in debug mode makes the fault. -/
def Session.debugs (session : Session) (moment : Moment) : Making → Bool
  | .new _ _ _ | .fail _ _ _ | .builtin _ _ _ => session.reporter.context.debug
  | .decode octets =>
    session.reporter.context.debug && (Inbound.recognize? moment (Json.parse octets)).isNone
  | _ => false

namespace History

def start (registry : Registry) (context : RequestContext) : History :=
  ⟨.start registry context, []⟩

def isDebugged (history : History) (slot : String) : Bool :=
  ((history.session.slots.get? slot).bind (history.debugged[·]?)).getD false

/-- The session moves on if the operation succeeds. -/
def settle (history : History) : Except SessionError (Session × Observation) → History × Observation
  | .ok (session, reply) => ({ history with session }, reply)
  | .error reason => (history, .refused reason)

/-- Shows something of the fault that a name stands for. -/
def tell (history : History) (slot : String) (reply : Fault → Observation) : History × Observation :=
  history.settle ((history.session.find slot).map fun fault => (history.session, reply fault))

def make (verbosity : Verbosity) (moment : Moment) (history : History) (slot : String)
    (making : Making) : History × Observation :=
  match history.session.make ⟨moment, verbosity⟩ making with
  | .ok (fault, _) =>
    let debugged := history.session.debugs moment making
    (⟨history.session.keep slot fault, history.debugged ++ [debugged]⟩, .fault debugged fault)
  | .error reason => (history, .refused reason)

def perform (verbosity : Verbosity) (moment : Moment) (history : History) :
    Operation → History × Observation
  | .make slot making _ => history.make verbosity moment slot making
  | .share slot of =>
    history.settle ((history.session.share slot of).map fun session => (session, .done))
  | .enter context => history.settle (.ok (history.session.enter context, .done))
  | .insert definition =>
    history.settle ((history.session.insert ⟨moment, verbosity⟩ definition).map
      fun (session, _) => (session, .done))
  | .look slot => history.tell slot (.fault (history.isDebugged slot))
  | .project slot debug locale =>
    history.tell slot fun fault =>
      if debug then .full (history.isDebugged slot) (fault.project true locale)
      else .brief (Text.Utf8.encode (fault.body false locale))
  | .readStack slot =>
    history.settle ((history.session.forceStack slot).map
      fun (session, text) => (session, .stack text))
  | .probe slot probe => history.tell slot fun fault => .verdict (probe.accepts fault.identity)
  | .probeCause request probe =>
    history.settle ((history.session.cause request).map
      fun cause => (history.session, .verdict (probe.acceptsChain cause)))

def run (verbosity : Verbosity) (history : History) :
    List (Moment × Operation) → History × List Observation
  | [] => (history, [])
  | (moment, operation) :: rest =>
    let (next, reply) := history.perform verbosity moment operation
    let (last, replies) := next.run verbosity rest
    (last, reply :: replies)

end History

/-! ## Faults of two runs -/

/-- A document without a member. -/
def Datum.without (name : String) : Datum → Datum
  | .map entries => .map (entries.filter fun entry => entry.1 ≠ name)
  | datum => datum

/-- The same fault in two runs: at most one of them knows the text of the stack yet, and that
only if it was made in debug mode. -/
structure Agrees (debugged : Bool) (fault other : Fault) : Prop where
  code : fault.code = other.code
  status : fault.status = other.status
  timestamp : fault.timestamp = other.timestamp
  messages : fault.messages = other.messages
  data : fault.data = other.data
  cause : fault.cause = other.cause
  text : fault.stack.text = other.stack.text
  known : debugged = false → fault.stack.known = other.stack.known

namespace Agrees

theorem refl (debugged : Bool) (fault : Fault) : Agrees debugged fault fault :=
  ⟨rfl, rfl, rfl, rfl, rfl, rfl, rfl, fun _ => rfl⟩

theorem forceStack_left (fault : Fault) : Agrees true fault.forceStack fault :=
  ⟨rfl, rfl, rfl, rfl, rfl, rfl, rfl, nofun⟩

variable {debugged : Bool} {fault other third : Fault} (agrees : Agrees debugged fault other)
include agrees

theorem symm : Agrees debugged other fault where
  code := agrees.code.symm
  status := agrees.status.symm
  timestamp := agrees.timestamp.symm
  messages := agrees.messages.symm
  data := agrees.data.symm
  cause := agrees.cause.symm
  text := agrees.text.symm
  known quiet := (agrees.known quiet).symm

theorem trans (next : Agrees debugged other third) : Agrees debugged fault third where
  code := agrees.code.trans next.code
  status := agrees.status.trans next.status
  timestamp := agrees.timestamp.trans next.timestamp
  messages := agrees.messages.trans next.messages
  data := agrees.data.trans next.data
  cause := agrees.cause.trans next.cause
  text := agrees.text.trans next.text
  known quiet := (agrees.known quiet).trans (next.known quiet)

theorem eq (quiet : debugged = false) : fault = other := by
  obtain ⟨code, status, timestamp, messages, data, cause, text, known⟩ := agrees
  have stack : fault.stack = other.stack := by
    cases one : fault.stack
    cases two : other.stack
    simp_all
  cases fault
  cases other
  simp_all

theorem forceStack : Agrees debugged fault.forceStack other.forceStack :=
  ⟨agrees.code, agrees.status, agrees.timestamp, agrees.messages, agrees.data, agrees.cause,
    agrees.text, fun _ => rfl⟩

theorem message (locale : String) : fault.message locale = other.message locale := by
  rw [Fault.message, Fault.message, agrees.messages]

theorem identity : fault.identity = other.identity := by
  rw [Fault.identity, Fault.identity, agrees.code, agrees.status]

theorem asCause : fault.asCause = other.asCause := by
  rw [Fault.asCause, Fault.asCause, Fault.display, Fault.display, Fault.sources, Fault.sources,
    agrees.message, agrees.code, agrees.cause, agrees.identity]

theorem body (locale : String) : fault.body false locale = other.body false locale := by
  have brief : fault.brief locale = other.brief locale := by
    rw [Fault.brief, Fault.brief, agrees.code, agrees.message, agrees.status]
  simp [Fault.body, Fault.project, brief]

theorem datum_without : fault.datum.without "stackTrace" = other.datum.without "stackTrace" := by
  have rest (fault : Fault) : fault.datum.without "stackTrace" = .map
      [("errorCode", .text fault.code), ("timestamp", .text fault.timestamp),
       ("statusCode", .ofNat fault.status.toNat),
       ("message", .map (fault.messages.mapValues .text).entries),
       ("data", .map fault.data.entries)] := by
    rw [Fault.datum, Datum.without]
    cases fault.stack.rendered? with
    | none => simp
    | some text => simp
  rw [rest, rest, agrees.code, agrees.timestamp, agrees.status, agrees.messages, agrees.data]

end Agrees

inductive AllAgree : List Bool → List Fault → List Fault → Prop
  | nil : AllAgree [] [] []
  | cons {debugged : Bool} {fault other : Fault} {marks : List Bool} {faults others : List Fault}
      (head : Agrees debugged fault other) (tail : AllAgree marks faults others) :
      AllAgree (debugged :: marks) (fault :: faults) (other :: others)

namespace AllAgree

variable {marks : List Bool} {faults others : List Fault}

theorem concat (agree : AllAgree marks faults others) {debugged : Bool} {fault other : Fault}
    (agrees : Agrees debugged fault other) :
    AllAgree (marks ++ [debugged]) (faults ++ [fault]) (others ++ [other]) := by
  induction agree with
  | nil => exact .cons agrees .nil
  | cons head _ ih => exact .cons head ih

theorem forceStack (agree : AllAgree marks faults others) (index : Nat) :
    AllAgree marks (faults.modify index Fault.forceStack)
      (others.modify index Fault.forceStack) := by
  induction agree generalizing index with
  | nil => cases index <;> exact .nil
  | cons head tail ih =>
    cases index with
    | zero => exact .cons head.forceStack tail
    | succ index => exact .cons head (ih index)

theorem length_eq (agree : AllAgree marks faults others) : faults.length = others.length := by
  induction agree with
  | nil => rfl
  | cons _ _ ih => rw [List.length_cons, List.length_cons, ih]

theorem getElem? (agree : AllAgree marks faults others) (index : Nat) :
    (faults[index]? = none ∧ others[index]? = none) ∨
      ∃ fault other, faults[index]? = some fault ∧ others[index]? = some other ∧
        Agrees (marks[index]?.getD false) fault other := by
  induction agree generalizing index with
  | nil => exact .inl ⟨rfl, rfl⟩
  | @cons debugged fault other _ _ _ head _ ih =>
    cases index with
    | zero => exact .inr ⟨fault, other, rfl, rfl, head⟩
    | succ index => exact ih index

end AllAgree

section Making
variable (reporter : Reporter) (moment : Moment) (first second : Verbosity) (data : Data)
  (causes : List Cause)

theorem instantiate_agrees (definition : Definition) :
    Agrees reporter.context.debug
      (reporter.instantiate ⟨moment, first⟩ definition data causes).1
      (reporter.instantiate ⟨moment, second⟩ definition data causes).1 := by
  -- Without debugging nobody asks for the stack; with it, either run may.
  have rendered (verbosity : Verbosity) : Agrees reporter.context.debug
      (reporter.instantiate ⟨moment, verbosity⟩ definition data causes).1
      (Fault.render moment definition (reporter.context.addDebugEntries data) causes.head?) := by
    rw [Reporter.instantiate, Reporter.asksForStack]
    cases reporter.context.debug with
    | false => exact .refl _ _
    | true =>
      simp only [Bool.true_and]
      split
      · exact .forceStack_left _
      · exact .refl _ _
  exact (rendered first).trans (rendered second).symm

theorem fail_agrees (code : String) :
    Agrees reporter.context.debug (reporter.fail ⟨moment, first⟩ code data causes).1
      (reporter.fail ⟨moment, second⟩ code data causes).1 := by
  cases found : reporter.registry.getDefinition code with
  | some definition =>
    rw [reporter.fail_of_found _ data causes found, reporter.fail_of_found _ data causes found]
    exact instantiate_agrees reporter moment first second data causes definition
  | none =>
    rw [reporter.fail_of_missing _ data causes found, reporter.fail_of_missing _ data causes found]
    exact instantiate_agrees reporter moment first second _ causes _

theorem decode_agrees (octets : List UInt8) :
    Agrees
      (reporter.context.debug && (Inbound.recognize? moment (Json.parse octets)).isNone)
      (Inbound.decode reporter ⟨moment, first⟩ octets).1
      (Inbound.decode reporter ⟨moment, second⟩ octets).1 := by
  rw [Inbound.decode, Inbound.decode]
  cases recognized : Inbound.recognize? moment (Json.parse octets) with
  | some fault => exact .refl _ _
  | none =>
    rw [Option.isNone_none, Bool.and_true]
    exact instantiate_agrees reporter moment first second _ _ _

end Making

/-! ## Two runs -/

structure History.Alike (history other : History) : Prop where
  reporter : history.session.reporter = other.session.reporter
  slots : history.session.slots = other.session.slots
  debugged : history.debugged = other.debugged
  faults : AllAgree history.debugged history.session.faults other.session.faults

/-- Replies differ in no more than the stack of a fault, and that only if the fault was made in
debug mode.  Bodies for production are the same octets. -/
inductive Observation.Alike : Observation → Observation → Prop
  | same (reply : Observation) : Alike reply reply
  | fault {debugged : Bool} {fault other : Fault} (agrees : Agrees debugged fault other) :
    Alike (.fault debugged fault) (.fault debugged other)
  | full {debugged : Bool} {document other : Datum}
    (rest : document.without "stackTrace" = other.without "stackTrace")
    (quiet : debugged = false → document = other) :
    Alike (.full debugged document) (.full debugged other)

/-- The making of one fault in two runs: refused in both, or the same fault. -/
inductive MadeAlike (debugged : Bool) :
    Except SessionError (Fault × List Log.Event) →
      Except SessionError (Fault × List Log.Event) → Prop
  | refused (reason : SessionError) : MadeAlike debugged (.error reason) (.error reason)
  | made {made twin : Fault × List Log.Event} (agrees : Agrees debugged made.1 twin.1) :
    MadeAlike debugged (.ok made) (.ok twin)

theorem MadeAlike.refl (debugged : Bool) (result : Except SessionError (Fault × List Log.Event)) :
    MadeAlike debugged result result := by
  cases result with
  | error reason => exact .refused reason
  | ok made => exact .made (.refl debugged made.1)

theorem MadeAlike.bind {α : Type} {debugged : Bool} (first : Except SessionError α)
    {next also : α → Except SessionError (Fault × List Log.Event)}
    (alike : ∀ value, MadeAlike debugged (next value) (also value)) :
    MadeAlike debugged (first >>= next) (first >>= also) := by
  cases first with
  | error reason => exact .refused reason
  | ok value => exact alike value

namespace History.Alike

variable {history other : History} (alike : history.Alike other)
include alike

theorem find (slot : String) :
    (history.session.find slot = .error (.noSlot slot) ∧
        other.session.find slot = .error (.noSlot slot)) ∨
      ∃ fault twin, history.session.find slot = .ok fault ∧
        other.session.find slot = .ok twin ∧ Agrees (history.isDebugged slot) fault twin := by
  simp only [Session.find, Session.fault?, isDebugged, ← alike.slots]
  cases history.session.slots.get? slot with
  | none => exact .inl ⟨rfl, rfl⟩
  | some index =>
    rcases alike.faults.getElem? index with ⟨none, missing⟩ | ⟨fault, twin, one, two, agrees⟩
    · simp [none, missing]
    · simp [one, two, agrees]

theorem cause (request : CauseRequest) :
    history.session.cause request = other.session.cause request := by
  induction request with
  | plain text => rfl
  | wrap text source ih => rw [Session.cause, Session.cause, ih]
  | minimal code status message => rfl
  | slot name =>
    rw [Session.cause, Session.cause]
    rcases alike.find name with ⟨missing, also⟩ | ⟨fault, twin, one, two, agrees⟩
    · rw [missing, also]
    · rw [one, two, Except.map, Except.map, agrees.asCause]

theorem causes (requests : List CauseRequest) :
    history.session.causes requests = other.session.causes requests := by
  cases requests with
  | nil => rfl
  | cons request rest => rw [Session.causes, Session.causes, alike.cause]

theorem make (moment : Moment) (first second : Verbosity) {making : Making}
    (given : making.readsBack = false) :
    MadeAlike (history.session.debugs moment making)
      (history.session.make ⟨moment, first⟩ making)
      (other.session.make ⟨moment, second⟩ making) := by
  cases making with
  | new code data requests =>
    rw [Session.make, Session.make, ← alike.causes, ← alike.reporter]
    apply MadeAlike.bind
    intro causes
    cases found : history.session.reporter.registry.getDefinition code with
    | none =>
      rw [Reporter.new_of_missing _ _ _ _ found, Reporter.new_of_missing _ _ _ _ found]
      exact .refused _
    | some definition =>
      rw [Reporter.new_of_found _ _ _ _ found, Reporter.new_of_found _ _ _ _ found]
      exact .made (instantiate_agrees _ moment first second data causes definition)
  | fail code data requests =>
    rw [Session.make, Session.make, ← alike.causes, ← alike.reporter]
    apply MadeAlike.bind
    intro causes
    exact .made (fail_agrees _ moment first second data causes code)
  | builtin code data requests =>
    rw [Session.make, Session.make, ← alike.causes, ← alike.reporter]
    apply MadeAlike.bind
    intro causes
    cases Builtin.ofCode? code with
    | none => exact .refused _
    | some builtin =>
      exact .made (instantiate_agrees _ moment first second data causes builtin.definition)
  | render code data requests =>
    rw [Session.make, Session.make, ← alike.causes, ← alike.reporter]
    exact .refl _ _
  | minimal code status message => exact .refl _ _
  | decode octets =>
    rw [Session.make, Session.make, ← alike.reporter]
    exact .made (decode_agrees _ moment first second octets)
  | report octets => exact .refl _ _
  | brief octets => exact .refl _ _
  | resend slot debug locale => cases given

theorem keep (slot : String) {debugged : Bool} {fault twin : Fault}
    (agrees : Agrees debugged fault twin) :
    Alike ⟨history.session.keep slot fault, history.debugged ++ [debugged]⟩
      ⟨other.session.keep slot twin, other.debugged ++ [debugged]⟩ where
  reporter := alike.reporter
  slots := by
    rw [Session.keep, Session.keep, alike.slots, alike.faults.length_eq]
  debugged := by rw [alike.debugged]
  faults := alike.faults.concat agrees

/-- Names, reporter and marks stay, or change in the same way; so do the stacks. -/
theorem moved {session twin : Session} (reporter : session.reporter = twin.reporter)
    (slots : session.slots = twin.slots)
    (faults : AllAgree history.debugged session.faults twin.faults) :
    Alike { history with session } { other with session := twin } :=
  ⟨reporter, slots, alike.debugged, faults⟩

theorem tell (slot : String) {reply twin : Fault → Observation}
    (shown : ∀ fault other, Agrees (history.isDebugged slot) fault other →
      (reply fault).Alike (twin other)) :
    (history.tell slot reply).1.Alike (other.tell slot twin).1 ∧
      (history.tell slot reply).2.Alike (other.tell slot twin).2 := by
  rw [History.tell, History.tell]
  rcases alike.find slot with ⟨missing, also⟩ | ⟨fault, known, one, two, agrees⟩
  · rw [missing, also]
    exact ⟨alike, .same _⟩
  · rw [one, two]
    exact ⟨alike, shown fault known agrees⟩

theorem isDebugged (slot : String) : history.isDebugged slot = other.isDebugged slot := by
  rw [History.isDebugged, History.isDebugged, alike.slots, alike.debugged]

/-- One operation keeps two runs alike, and shows the same but for the stack. -/
theorem perform (moment : Moment) (first second : Verbosity) (operation : Operation) :
    (history.perform first moment operation).1.Alike
        (other.perform second moment operation).1 ∧
      (history.perform first moment operation).2.Alike
        (other.perform second moment operation).2 := by
  cases operation with
  | make slot making given =>
    have made := alike.make moment first second given
    have marks : other.session.debugs moment making = history.session.debugs moment making := by
      cases making <;> simp [Session.debugs, alike.reporter]
    rw [History.perform, History.perform, History.make, History.make, marks]
    generalize history.session.make ⟨moment, first⟩ making = one at made
    generalize other.session.make ⟨moment, second⟩ making = two at made
    cases made with
    | refused reason => exact ⟨alike, .same _⟩
    | made agrees => exact ⟨alike.keep slot agrees, .fault agrees⟩
  | share slot of =>
    rw [History.perform, History.perform, Session.share, Session.share, ← alike.slots]
    cases history.session.slots.get? of with
    | none => exact ⟨alike, .same _⟩
    | some index => exact ⟨alike.moved alike.reporter rfl alike.faults, .same _⟩
  | enter context =>
    refine ⟨alike.moved ?_ alike.slots alike.faults, .same _⟩
    simp [Session.enter, alike.reporter]
  | insert definition =>
    rw [History.perform, History.perform, Session.insert, Session.insert, ← alike.reporter]
    cases history.session.reporter.registry.insert definition with
    | error reason => exact ⟨alike, .same _⟩
    | ok registry => exact ⟨alike.moved rfl alike.slots alike.faults, .same _⟩
  | look slot =>
    rw [History.perform, History.perform, ← alike.isDebugged]
    exact alike.tell slot fun fault other agrees => .fault agrees
  | project slot debug locale =>
    rw [History.perform, History.perform, ← alike.isDebugged]
    apply alike.tell slot
    intro fault other agrees
    cases debug with
    | false =>
      rw [agrees.body]
      exact .same _
    | true =>
      refine .full agrees.datum_without fun quiet => ?_
      rw [agrees.eq quiet]
  | readStack slot =>
    rw [History.perform, History.perform, Session.forceStack, Session.forceStack, ← alike.slots]
    rcases alike.find slot with ⟨missing, also⟩ | ⟨fault, twin, one, two, agrees⟩
    · rw [missing, also]
      exact ⟨alike, .same _⟩
    · rw [one, two]
      cases history.session.slots.get? slot with
      | none => exact ⟨alike, .same _⟩
      | some index =>
        have shown : Observation.Alike (.stack fault.stack.text) (.stack twin.stack.text) := by
          rw [agrees.text]
          exact .same _
        exact ⟨alike.moved alike.reporter rfl (alike.faults.forceStack index), shown⟩
  | probe slot probe =>
    apply alike.tell slot
    intro fault other agrees
    rw [agrees.identity]
    exact .same _
  | probeCause request probe =>
    rw [History.perform, History.perform, ← alike.cause]
    cases history.session.cause request with
    | error reason => exact ⟨alike, .same _⟩
    | ok cause => exact ⟨alike, .same _⟩

theorem run (first second : Verbosity) (steps : List (Moment × Operation)) :
    (history.run first steps).1.Alike (other.run second steps).1 ∧
      List.Forall₂ Observation.Alike (history.run first steps).2 (other.run second steps).2 := by
  induction steps generalizing history other with
  | nil => exact ⟨alike, .nil⟩
  | cons step steps ih =>
    obtain ⟨moment, operation⟩ := step
    obtain ⟨next, shown⟩ := alike.perform moment first second operation
    obtain ⟨last, replies⟩ := ih next
    exact ⟨last, .cons shown replies⟩

end History.Alike

theorem History.start_alike (registry : Registry) (context : RequestContext) :
    (start registry context).Alike (start registry context) :=
  ⟨rfl, rfl, rfl, .nil⟩

/-- How much of the log is looked at changes nothing in a session but which stacks of faults
that were made in debug mode are known.  Bodies for production are the same octets; faults,
the texts of their stacks, what probes accept and what is refused are the same; and full
shapes differ at most in the member for the stack, for those faults alone. -/
theorem verbosity_changes_stack_only (registry : Registry) (context : RequestContext)
    (first second : Verbosity) (steps : List (Moment × Operation)) :
    List.Forall₂ Observation.Alike ((History.start registry context).run first steps).2
        ((History.start registry context).run second steps).2 ∧
      ((History.start registry context).run first steps).1.Alike
        ((History.start registry context).run second steps).1 := by
  have start := History.start_alike registry context
  exact (start.run first second steps).symm

/-- The exception is there: in debug mode the log asks for the stack, and it is sent. -/
example :
    let fault (verbosity : Verbosity) := (Reporter.builtin
      ⟨.builtin, ⟨"en", true, "GET", "/users", ""⟩⟩ ⟨⟨"2024-05-01T10:00:00Z", "0: main"⟩, verbosity⟩
      .tokenExpired .empty []).1
    (fault (.upTo .info)).stack.rendered? = none ∧
      (fault (.upTo .debug)).stack.rendered? = some "0: main" := by
  decide +kernel

end FaultMesh
