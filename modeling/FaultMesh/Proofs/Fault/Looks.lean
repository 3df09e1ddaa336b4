import FaultMesh.Proofs.Fault.Shapes
import FaultMesh.Proofs.Session

/-!
# Looking at a fault

What is seen of a fault does not depend on what was looked at before, except that its full shape
has the text of the stack from the time when the text is known.  It is known from the start if
another service sent it, and otherwise from the first look at the stack.
-/

set_option autoImplicit false

namespace FaultMesh

open FaultMesh.Json (Carries IsSomeText recordMembers?)

inductive Look where
  | stack
  | full
  | brief (locale : String)
  | data
  | messages
  | display
  deriving DecidableEq, Repr

inductive Sight where
  | text (text : String)
  | octets (octets : List UInt8)
  | data (data : Data)
  | messages (messages : OrderedMap String)

namespace Fault

def sight (fault : Fault) : Look → Sight
  | .stack => .text fault.stack.text
  | .full => .octets (Text.Utf8.encode (Json.write fault.datum))
  | .brief locale => .octets (Text.Utf8.encode (fault.body false locale))
  | .data => .data fault.data
  | .messages => .messages fault.messages
  | .display => .text fault.display

/-- The fault behind a look.  Only a look at the stack leaves a trace. -/
def after (fault : Fault) : Look → Fault
  | .stack => fault.forceStack
  | _ => fault

def afterAll (fault : Fault) (looks : List Look) : Fault := looks.foldl after fault

/-- The members of the full shape besides the one for the stack. -/
def lasting (fault : Fault) : List (String × Datum) :=
  [("errorCode", .text fault.code), ("timestamp", .text fault.timestamp),
   ("statusCode", .ofNat fault.status.toNat),
   ("message", .map (fault.messages.mapValues .text).entries),
   ("data", .map fault.data.entries)]

/-- How a fault comes about, what the text of its stack is, and whether another service sent that
text. -/
inductive Origin : Fault → String → Bool → Prop
  | rendered (moment : Moment) (definition : Definition) (data : Data) (cause : Option Cause) :
    Origin (render moment definition data cause) (StackTrace.trimFrames moment.backtrace) false
  | minimal (moment : Moment) (code : String) (status : UInt16) (message : String) :
    Origin (minimal moment code status message) "" false
  | received (moment : Moment) {octets : List UInt8} {report : Report}
    {members : List (String × Json.Node)} {stack : Option String}
    (read : Report.read (Json.parse octets) = .ok report)
    (named : recordMembers? Report.reader.fieldNames (Json.parse octets).root = some members)
    (carries : Carries IsSomeText none (List.lookup "stackTrace" members) stack) :
    Origin (report.toFault moment) (stack.getD "") stack.isSome

theorem after_eq (fault : Fault) (look : Look) :
    fault.after look =
      { fault with stack := ⟨fault.stack.text, fault.stack.known || look = .stack⟩ } := by
  cases look <;> simp [after, forceStack, StackTrace.force]

theorem afterAll_eq (fault : Fault) (looks : List Look) :
    fault.afterAll looks =
      { fault with stack := ⟨fault.stack.text, fault.stack.known || .stack ∈ looks⟩ } := by
  induction looks generalizing fault with
  | nil => simp [afterAll]
  | cons look looks ih =>
    have rest := ih (fault.after look)
    rw [afterAll] at rest ⊢
    rw [List.foldl_cons, rest, after_eq]
    simp [Bool.or_assoc, eq_comm]

theorem datum_of_known {fault : Fault} (known : fault.stack.known = true)
    (some : fault.stack.text ≠ "") :
    fault.datum = .map (fault.lasting ++ [("stackTrace", .text fault.stack.text)]) := by
  rw [datum, StackTrace.rendered?, if_pos ⟨known, some⟩]
  rfl

theorem datum_of_unknown {fault : Fault}
    (unknown : ¬ (fault.stack.known = true ∧ fault.stack.text ≠ "")) :
    fault.datum = .map fault.lasting := by
  rw [datum, StackTrace.rendered?, if_neg unknown]
  rfl

/-! ## Where a fault comes from -/

theorem stack_of_read {octets : List UInt8} {report : Report} {members : List (String × Json.Node)}
    {stack : Option String} (read : Report.read (Json.parse octets) = .ok report)
    (named : recordMembers? Report.reader.fieldNames (Json.parse octets).root = some members)
    (carries : Carries IsSomeText none (List.lookup "stackTrace" members) stack) :
    report.stack = stack := by
  obtain ⟨-, others, same, -, shape⟩ := Report.read_eq_ok.mp read
  obtain rfl := Option.some.inj (named.symm.trans same)
  exact shape.stack.unique carries Json.isSomeText_null fun _ _ _ => Json.IsSomeText.unique

theorem Origin.stack_eq {fault : Fault} {text : String} {received : Bool}
    (origin : Origin fault text received) : fault.stack = ⟨text, received⟩ := by
  cases origin with
  | rendered moment definition data cause => rfl
  | minimal moment code status message => rfl
  | @received moment octets report members stack read named carries =>
    rw [Report.toFault, stack_of_read read named carries]
    cases stack <;> rfl

theorem Origin.of_read (moment : Moment) {octets : List UInt8} {report : Report}
    (read : Report.read (Json.parse octets) = .ok report) :
    Origin (report.toFault moment) (report.stack.getD "") report.stack.isSome := by
  obtain ⟨-, members, named, -, shape⟩ := Report.read_eq_ok.mp read
  exact .received moment read named shape.stack

/-- The fault behind some looks: they leave a trace if the stack is among them. -/
theorem Origin.afterAll_eq {fault : Fault} {text : String} {received : Bool}
    (origin : Origin fault text received) (looks : List Look) :
    fault.afterAll looks = { fault with stack := ⟨text, received || .stack ∈ looks⟩ } := by
  rw [Fault.afterAll_eq, origin.stack_eq]

theorem afterAll_append (fault : Fault) (looks more : List Look) :
    (fault.afterAll looks).afterAll more = fault.afterAll (looks ++ more) :=
  List.foldl_append.symm

/-- What looks see of a fault.  The text of the stack is the same at every look; a text from
another service is the one that was sent.  The full shape has the text once it is known, if there
is any, and never loses it; nothing else in it changes.  All other looks see what they would have
seen first. -/
theorem stack_alone_changes {fault : Fault} {text : String} {received : Bool}
    (origin : Origin fault text received) (looks : List Look) :
    let later := fault.afterAll looks
    let known := text ≠ "" ∧ (received = true ∨ .stack ∈ looks)
    later.sight .stack = .text text ∧
      (known → ∀ more, (later.afterAll more).sight .full = .octets (Text.Utf8.encode
        (Json.write (.map (fault.lasting ++ [("stackTrace", .text text)]))))) ∧
      (¬ known → later.sight .full =
        .octets (Text.Utf8.encode (Json.write (.map fault.lasting)))) ∧
      ∀ look, look ≠ .stack → look ≠ .full → later.sight look = fault.sight look := by
  intro later known
  refine ⟨?_, ?_, ?_, ?_⟩
  · rw [show later = _ from origin.afterAll_eq looks, sight]
  · rintro ⟨some, told⟩ more
    have still : (received || .stack ∈ looks ++ more) = true := by
      rcases told with rfl | looked
      · rfl
      · simp [looked]
    rw [afterAll_append, origin.afterAll_eq, sight, datum_of_known still some]
    rfl
  · intro unknown
    rw [show later = _ from origin.afterAll_eq looks, sight, datum_of_unknown]
    · rfl
    · rintro ⟨told, some⟩
      exact unknown ⟨some, by simpa using told⟩
  · intro look other unfull
    rw [show later = _ from origin.afterAll_eq looks]
    cases look with
    | stack => exact absurd rfl other
    | full => exact absurd rfl unfull
    | brief locale => rfl
    | data => rfl
    | messages => rfl
    | display => rfl

/-- A text that was sent keeps its blanks and is there from the start; that of a captured stack is
there from the first look at the stack. -/
theorem stack_alone_changes_twice :
    (∃ fault, Origin fault " 0: main\n" true ∧
      (fault.afterAll [.data]).sight .stack = .text " 0: main\n" ∧
      (fault.afterAll [.full]).sight .full = (fault.afterAll [.stack, .display]).sight .full) ∧
      let fault :=
        render ⟨"2024-05-01T10:00:00Z", "0: main"⟩ Builtin.tokenExpired.definition .empty none
      Origin fault "0: main" false ∧
        (fault.afterAll [.full, .brief "en"]).sight .full =
          .octets (Text.Utf8.encode (Json.write (.map fault.lasting))) ∧
        (fault.afterAll [.full, .stack, .messages]).sight .full = .octets (Text.Utf8.encode
          (Json.write (.map (fault.lasting ++ [("stackTrace", .text "0: main")])))) := by
  constructor
  · have sent : (Report.read (Json.parse (Text.Utf8.encodeString
        "\x7b\"errorCode\":\"x\",\"stackTrace\":\" 0: main\\n\"\x7d"))).toOption.map Report.stack =
          some (some " 0: main\n") := by
      decide +kernel
    obtain ⟨report, read, stack⟩ := Option.map_eq_some_iff.mp sent
    have origin := Origin.of_read ⟨"2024-05-01T10:00:00Z", ""⟩ (toOption_eq_some.mp read)
    rw [stack] at origin
    have known : " 0: main\n" ≠ "" := by decide
    refine ⟨_, origin, (stack_alone_changes origin [.data]).1, ?_⟩
    exact ((stack_alone_changes origin [.full]).2.1 ⟨known, .inl rfl⟩ []).trans
      ((stack_alone_changes origin [.stack, .display]).2.1 ⟨known, .inl rfl⟩ []).symm
  · intro fault
    have trimmed : StackTrace.trimFrames "0: main" = "0: main" := by decide +kernel
    have origin : Origin fault "0: main" false :=
      trimmed ▸ .rendered ⟨"2024-05-01T10:00:00Z", "0: main"⟩ _ _ _
    refine ⟨origin, ?_, ?_⟩
    · exact (stack_alone_changes origin [.full, .brief "en"]).2.2.1 (by simp)
    · exact (stack_alone_changes origin [.full, .stack, .messages]).2.1 (by simp) []

end Fault

/-! ## Looks of others -/

/-- A reporter's log takes one look at the stack, if it asks for it. -/
theorem Reporter.instantiate_looks (reporter : Reporter) (ambient : Ambient)
    (definition : Definition) (data : Data) (causes : List Cause) :
    (reporter.instantiate ambient definition data causes).1 =
      (reporter.rendered ambient definition data causes).afterAll
        (if asksForStack reporter.context ambient.verbosity then [.stack] else []) := by
  rw [instantiate]
  split <;> rfl

namespace History

/-- The looks that an operation takes at the stack of a fault, under whatever name. -/
def looks (history : History) (index : Nat) : Operation → List Look
  | .readStack slot => if history.session.slots.get? slot = some index then [.stack] else []
  | _ => []

def looksOfRun (verbosity : Verbosity) (history : History) (index : Nat) :
    List (Moment × Operation) → List Look
  | [] => []
  | (moment, operation) :: rest =>
    history.looks index operation ++
      (history.perform verbosity moment operation).1.looksOfRun verbosity index rest

variable {history : History} {index : Nat} {fault : Fault}

theorem session_tell (history : History) (slot : String) (reply : Fault → Observation) :
    (history.tell slot reply).1.session = history.session := by
  rw [tell]
  cases history.session.find slot <;> rfl

theorem perform_readStack (verbosity : Verbosity) (moment : Moment) (slot : String)
    (made : history.session.faults[index]? = some fault) :
    (history.perform verbosity moment (.readStack slot)).1.session.faults[index]? =
      some (fault.afterAll (history.looks index (.readStack slot))) := by
  rw [perform, Session.forceStack, Session.find, Session.fault?, looks]
  cases history.session.slots.get? slot with
  | none => exact made
  | some place =>
    simp only [Option.some.injEq, Option.bind_eq_bind, Option.bind_some]
    cases found : history.session.faults[place]? with
    | none =>
      have other : place ≠ index := by
        rintro rfl
        rw [made] at found
        cases found
      rw [if_neg other]
      exact made
    | some _ =>
      have forced : (history.session.faults.modify place Fault.forceStack)[index]? =
          some (fault.afterAll (if place = index then [.stack] else [])) := by
        rw [List.getElem?_modify, made]
        split <;> rfl
      exact forced

/-- An operation changes a fault by its looks and in nothing else. -/
theorem perform_looks (verbosity : Verbosity) (moment : Moment) (operation : Operation)
    (made : history.session.faults[index]? = some fault) :
    (history.perform verbosity moment operation).1.session.faults[index]? =
      some (fault.afterAll (history.looks index operation)) := by
  cases operation with
  | make slot making given =>
    rw [perform, History.make]
    split
    next => exact (List.getElem?_append_left (List.getElem?_eq_some_iff.mp made).1).trans made
    next => exact made
  | share slot of =>
    rw [perform, Session.share]
    cases history.session.slots.get? of <;> exact made
  | enter context => exact made
  | insert definition =>
    rw [perform, Session.insert]
    cases history.session.reporter.registry.insert definition <;> exact made
  | look slot => rwa [perform, session_tell]
  | project slot debug locale => rwa [perform, session_tell]
  | readStack slot => exact perform_readStack verbosity moment slot made
  | probe slot probe => rwa [perform, session_tell]
  | probeCause request probe =>
    rw [perform]
    cases history.session.cause request <;> exact made

/-- In a run of a session a fault changes by the looks at its stack and in nothing else. -/
theorem run_looks (verbosity : Verbosity) (steps : List (Moment × Operation))
    (made : history.session.faults[index]? = some fault) :
    (history.run verbosity steps).1.session.faults[index]? =
      some (fault.afterAll (history.looksOfRun verbosity index steps)) := by
  induction steps generalizing history fault with
  | nil => exact made
  | cons step steps ih =>
    obtain ⟨moment, operation⟩ := step
    rw [looksOfRun, ← Fault.afterAll_append]
    exact ih (perform_looks verbosity moment operation made)

end History

end FaultMesh
