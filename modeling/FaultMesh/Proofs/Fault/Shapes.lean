import FaultMesh.Fault.Reading
import FaultMesh.Proofs.Json.Values

/-!
# The shapes of faults on the wire

Which documents are read as the full or as the brief shape, and what is read from them.
Each field stands for itself: it is missing, null, or of its own kind.  Nothing else is
asked of a document than that no field of the shape stands there twice.
-/

set_option autoImplicit false

namespace FaultMesh

open FaultMesh.Json

/-! ## The full shape -/

/-- What members say when they are read as the full shape. -/
structure FullShape (members : List (String × Node)) (report : Report) : Prop where
  code : Carries IsText "" (List.lookup "errorCode" members) report.code
  timestamp : Carries IsText "" (List.lookup "timestamp" members) report.timestamp
  status : Carries IsStatus 0 (List.lookup "statusCode" members) report.status
  messages : Carries IsTexts .empty (List.lookup "message" members) report.messages
  data : Carries (IsData (depthLimit - 1)) .empty (List.lookup "data" members) report.data
  stack : Carries IsSomeText none (List.lookup "stackTrace" members) report.stack

theorem FullShape.unique {members : List (String × Node)} {first second : Report}
    (one : FullShape members first) (other : FullShape members second) : first = second := by
  obtain ⟨code, timestamp, status, messages, data, stack⟩ := first
  obtain ⟨code', timestamp', status', messages', data', stack'⟩ := second
  have sameCode : code = code' :=
    one.code.unique other.code isText_null fun _ _ _ => IsText.unique
  have sameTimestamp : timestamp = timestamp' :=
    one.timestamp.unique other.timestamp isText_null fun _ _ _ => IsText.unique
  have sameStatus : status = status' :=
    one.status.unique other.status isStatus_null fun _ _ _ => IsStatus.unique
  have sameMessages : messages = messages' :=
    one.messages.unique other.messages isTexts_null fun _ _ _ => IsTexts.unique
  have sameData : data = data' :=
    one.data.unique other.data isData_null fun _ _ _ => IsData.unique
  have sameStack : stack = stack' :=
    one.stack.unique other.stack isSomeText_null fun _ _ _ => IsSomeText.unique
  rw [sameCode, sameTimestamp, sameStatus, sameMessages, sameData, sameStack]

namespace Report

structure AgreeBut (name : String) (before after : Report) : Prop where
  code : name ≠ "errorCode" → after.code = before.code
  timestamp : name ≠ "timestamp" → after.timestamp = before.timestamp
  status : name ≠ "statusCode" → after.status = before.status
  messages : name ≠ "message" → after.messages = before.messages
  data : name ≠ "data" → after.data = before.data
  stack : name ≠ "stackTrace" → after.stack = before.stack

section Fields
variable {name : String} {read : Report → Node → Except Problem Report}

theorem agreeBut_of_read (known : List.lookup name reader.fields = some read)
    {before after : Report} {node : Node} (same : read before node = .ok after) :
    AgreeBut name before after := by
  apply RecordReader.changes_of_read ?_ known same
  simp only [reader, List.forall_mem_cons]
  refine ⟨?_, ?_, ?_, ?_, ?_, ?_, by simp⟩
  all_goals
    apply RecordReader.changes_of_put
    intro before content
    constructor <;> simp

theorem readable {members : List (String × Node)} {report : Report}
    (shape : FullShape members report) (known : List.lookup name reader.fields = some read)
    {node : Node} (found : List.lookup name members = some node) (before : Report) :
    ∃ after, read before node = .ok after := by
  have inside := Entries.mem_of_lookup known
  simp only [reader, List.mem_cons, Prod.mk.injEq, List.not_mem_nil, or_false] at inside
  rcases inside with ⟨rfl, rfl⟩ | ⟨rfl, rfl⟩ | ⟨rfl, rfl⟩ | ⟨rfl, rfl⟩ | ⟨rfl, rfl⟩ | ⟨rfl, rfl⟩
  · exact ⟨_, bind_eq_ok.mpr ⟨_, orText_eq_ok.mpr (found ▸ shape.code), rfl⟩⟩
  · exact ⟨_, bind_eq_ok.mpr ⟨_, orText_eq_ok.mpr (found ▸ shape.timestamp), rfl⟩⟩
  · exact ⟨_, bind_eq_ok.mpr ⟨_, orStatus_eq_ok.mpr (found ▸ shape.status), rfl⟩⟩
  · exact ⟨_, bind_eq_ok.mpr ⟨_, (orTexts_eq_ok (by decide)).mpr (found ▸ shape.messages), rfl⟩⟩
  · exact ⟨_, bind_eq_ok.mpr ⟨_, (orData_eq_ok (by decide)).mpr (found ▸ shape.data), rfl⟩⟩
  · exact ⟨_, bind_eq_ok.mpr ⟨_, someText_eq_ok.mpr (found ▸ shape.stack), rfl⟩⟩

end Fields

theorem shape_of_take {members : List (String × Node)} {next : Report × List String}
    (taken : reader.take (blank, []) members = .ok next) : FullShape members next.1 where
  code := by
    refine RecordReader.carries_of_put (by rfl) orText_eq_ok Report.code
      (fun _ _ => rfl) ?_ rfl taken
    intro name read known other before node after same
    exact (agreeBut_of_read known same).code other
  timestamp := by
    refine RecordReader.carries_of_put (by rfl) orText_eq_ok Report.timestamp
      (fun _ _ => rfl) ?_ rfl taken
    intro name read known other before node after same
    exact (agreeBut_of_read known same).timestamp other
  status := by
    refine RecordReader.carries_of_put (by rfl) orStatus_eq_ok Report.status
      (fun _ _ => rfl) ?_ rfl taken
    intro name read known other before node after same
    exact (agreeBut_of_read known same).status other
  messages := by
    refine RecordReader.carries_of_put (by rfl) (orTexts_eq_ok (by decide)) Report.messages
      (fun _ _ => rfl) ?_ rfl taken
    intro name read known other before node after same
    exact (agreeBut_of_read known same).messages other
  data := by
    refine RecordReader.carries_of_put (by rfl) (orData_eq_ok (by decide)) Report.data
      (fun _ _ => rfl) ?_ rfl taken
    intro name read known other before node after same
    exact (agreeBut_of_read known same).data other
  stack := by
    refine RecordReader.carries_of_put (by rfl) someText_eq_ok Report.stack
      (fun _ _ => rfl) ?_ rfl taken
    intro name read known other before node after same
    exact (agreeBut_of_read known same).stack other

/-- A document is read as the full shape when its members are regular and have it. -/
theorem read_eq_ok {document : Document} {report : Report} :
    read document = .ok report ↔ document.excess = none ∧
      ∃ members, recordMembers? reader.fieldNames document.root = some members ∧
        Regular reader.fieldNames [] members ∧ FullShape members report := by
  rw [read, Document.read_eq_ok]
  apply and_congr_right
  intro _
  apply RecordReader.read_shape_iff FullShape rfl (by decide)
  · intro members next taken
    exact shape_of_take taken
  · intro members report shape name read known node found before
    exact readable shape known found before
  · intro members first second one other
    exact one.unique other
  · decide

end Report

/-! ## The brief shape -/

structure InnerShape (members : List (String × Node)) (message code : String) : Prop where
  message : Carries IsText "" (List.lookup "message" members) message
  code : Carries IsText "" (List.lookup "errorCode" members) code

/-- A record of message and code. -/
def IsInner (node : Node) (content : String × String) : Prop :=
  ∃ members, recordMembers? Brief.innerReader.fieldNames node = some members ∧
    Regular Brief.innerReader.fieldNames [] members ∧ InnerShape members content.1 content.2

structure SimpleShape (members : List (String × Node)) (brief : Brief) : Prop where
  inner : Carries IsInner ("", "") (List.lookup "error" members) (brief.message, brief.code)
  status : Carries IsStatus 0 (List.lookup "statusCode" members) brief.status

theorem InnerShape.unique {members : List (String × Node)}
    {message code message' code' : String} (one : InnerShape members message code)
    (other : InnerShape members message' code') : message = message' ∧ code = code' :=
  ⟨one.message.unique other.message isText_null fun _ _ _ => IsText.unique,
    one.code.unique other.code isText_null fun _ _ _ => IsText.unique⟩

theorem isInner_null (stop : Nat) (content : String × String) :
    ¬ IsInner (.scalar .null stop) content := by
  simp [IsInner, recordMembers?]

theorem IsInner.unique {node : Node} {first second : String × String}
    (one : IsInner node first) (other : IsInner node second) : first = second := by
  obtain ⟨members, same, -, shape⟩ := one
  obtain ⟨members', same', -, shape'⟩ := other
  obtain rfl := Option.some.inj (same.symm.trans same')
  obtain ⟨message, code⟩ := shape.unique shape'
  exact Prod.ext message code

theorem SimpleShape.unique {members : List (String × Node)} {first second : Brief}
    (one : SimpleShape members first) (other : SimpleShape members second) :
    first = second := by
  obtain ⟨code, message, status⟩ := first
  obtain ⟨code', message', status'⟩ := second
  have sameInner := one.inner.unique other.inner isInner_null fun _ _ _ => IsInner.unique
  have sameStatus : status = status' :=
    one.status.unique other.status isStatus_null fun _ _ _ => IsStatus.unique
  obtain ⟨rfl, rfl⟩ := Prod.mk.inj sameInner
  rw [sameStatus]

namespace Brief

theorem kept_of_innerRead {name : String} {read : Brief → Node → Except Problem Brief}
    (known : List.lookup name innerReader.fields = some read) {before after : Brief}
    {node : Node} (same : read before node = .ok after) :
    (name ≠ "message" → after.message = before.message) ∧
      (name ≠ "errorCode" → after.code = before.code) ∧ after.status = before.status := by
  apply RecordReader.changes_of_read ?_ known same
  simp only [innerReader, List.forall_mem_cons]
  refine ⟨RecordReader.changes_of_put ?_, RecordReader.changes_of_put ?_, by simp⟩
  · simp
  · simp

theorem innerReadable {members : List (String × Node)} {message code : String}
    (shape : InnerShape members message code) {name : String}
    {read : Brief → Node → Except Problem Brief}
    (known : List.lookup name innerReader.fields = some read) {node : Node}
    (found : List.lookup name members = some node) (before : Brief) :
    ∃ after, read before node = .ok after := by
  have inside := Entries.mem_of_lookup known
  simp only [innerReader, List.mem_cons, Prod.mk.injEq, List.not_mem_nil, or_false] at inside
  rcases inside with ⟨rfl, rfl⟩ | ⟨rfl, rfl⟩
  · exact ⟨_, bind_eq_ok.mpr ⟨_, orText_eq_ok.mpr (found ▸ shape.message), rfl⟩⟩
  · exact ⟨_, bind_eq_ok.mpr ⟨_, orText_eq_ok.mpr (found ▸ shape.code), rfl⟩⟩

theorem innerShape_of_take {members : List (String × Node)} {next : Brief × List String}
    (taken : innerReader.take (default, []) members = .ok next) :
    next.1.status = 0 ∧ InnerShape members next.1.message next.1.code := by
  refine ⟨?_, ?_, ?_⟩
  · refine RecordReader.kept_of_take Brief.status ?_ taken
    intro name read known before node after same
    exact (kept_of_innerRead known same).2.2
  · refine RecordReader.carries_of_put (by rfl) orText_eq_ok Brief.message
      (fun _ _ => rfl) ?_ rfl taken
    intro name read known other before node after same
    exact (kept_of_innerRead known same).1 other
  · refine RecordReader.carries_of_put (by rfl) orText_eq_ok Brief.code
      (fun _ _ => rfl) ?_ rfl taken
    intro name read known other before node after same
    exact (kept_of_innerRead known same).2.1 other

theorem inner_eq_ok {node : Node} {inner : Brief} :
    (innerReader.read (depthLimit - 1) default node).map Prod.fst = .ok inner ↔
      inner.status = 0 ∧ IsInner node (inner.message, inner.code) := by
  -- No field of the inner record is a status, so it keeps the one of the start.
  have read : (innerReader.read (depthLimit - 1) default node).map Prod.fst = .ok inner ↔
      ∃ members, recordMembers? innerReader.fieldNames node = some members ∧
        Regular innerReader.fieldNames [] members ∧
          inner.status = 0 ∧ InnerShape members inner.message inner.code := by
    apply RecordReader.read_shape_iff (fun members (brief : Brief) =>
      brief.status = 0 ∧ InnerShape members brief.message brief.code) rfl (by decide)
    · intro members next taken
      exact innerShape_of_take taken
    · intro members brief shape name read known node found before
      exact innerReadable shape.2 known found before
    · rintro members ⟨code, message, status⟩ ⟨code', message', status'⟩ ⟨rfl, one⟩ ⟨rfl, other⟩
      obtain ⟨rfl, rfl⟩ := one.unique other
      rfl
    · decide
  rw [read]
  constructor
  · rintro ⟨members, same, regular, status, shape⟩
    exact ⟨status, members, same, regular, shape⟩
  · rintro ⟨status, members, same, regular, shape⟩
    exact ⟨members, same, regular, status, shape⟩

theorem orInner_eq_ok {node : Node} {inner : Brief} :
    (node.orDefault fun node =>
        (innerReader.read (depthLimit - 1) default node).map Prod.fst) = .ok inner ↔
      Carries (fun node inner => inner.status = 0 ∧ IsInner node (inner.message, inner.code))
        default (some node) inner := by
  apply orDefault_eq_ok
  · intro node inner
    exact inner_eq_ok
  · intro stop inner is
    exact isInner_null stop _ is.2

theorem kept_of_read {name : String} {read : Brief → Node → Except Problem Brief}
    (known : List.lookup name reader.fields = some read) {before after : Brief}
    {node : Node} (same : read before node = .ok after) :
    (name ≠ "error" → after.message = before.message ∧ after.code = before.code) ∧
      (name ≠ "statusCode" → after.status = before.status) := by
  apply RecordReader.changes_of_read ?_ known same
  simp only [reader, List.forall_mem_cons]
  refine ⟨RecordReader.changes_of_put ?_, RecordReader.changes_of_put ?_, by simp⟩
  · simp
  · simp

theorem readable {members : List (String × Node)} {brief : Brief}
    (shape : SimpleShape members brief) {name : String}
    {read : Brief → Node → Except Problem Brief}
    (known : List.lookup name reader.fields = some read) {node : Node}
    (found : List.lookup name members = some node) (before : Brief) :
    ∃ after, read before node = .ok after := by
  have inside := Entries.mem_of_lookup known
  simp only [reader, List.mem_cons, Prod.mk.injEq, List.not_mem_nil, or_false] at inside
  rcases inside with ⟨rfl, rfl⟩ | ⟨rfl, rfl⟩
  · have carried := found ▸ shape.inner
    have inner : ∃ inner, Carries (fun node (inner : Brief) => inner.status = 0 ∧
        IsInner node (inner.message, inner.code)) default (some node) inner :=
      ⟨_, carried.map (fun content : String × String => (⟨content.2, content.1, 0⟩ : Brief))
        fun _ _ is => ⟨rfl, is⟩⟩
    obtain ⟨inner, carries⟩ := inner
    exact ⟨_, bind_eq_ok.mpr ⟨_, orInner_eq_ok.mpr carries, rfl⟩⟩
  · exact ⟨_, bind_eq_ok.mpr ⟨_, orStatus_eq_ok.mpr (found ▸ shape.status), rfl⟩⟩

theorem shape_of_take {members : List (String × Node)} {next : Brief × List String}
    (taken : reader.take (default, []) members = .ok next) : SimpleShape members next.1 where
  inner := by
    have known : List.lookup "error" reader.fields = some _ := rfl
    refine RecordReader.carries_of_take known
      (fun brief => (brief.message, brief.code)) ?_ ?_ rfl taken
    · intro value node after same
      obtain ⟨content, read, done⟩ := bind_eq_ok.mp same
      cases done
      exact (orInner_eq_ok.mp read).map (fun inner => (inner.message, inner.code))
        fun _ _ is => is.2
    · intro other read known different value node after same
      obtain ⟨message, code⟩ := (kept_of_read known same).1 different
      exact Prod.ext message code
  status := by
    refine RecordReader.carries_of_put (by rfl) orStatus_eq_ok Brief.status
      (fun _ _ => rfl) ?_ rfl taken
    intro name read known other before node after same
    exact (kept_of_read known same).2 other

theorem read_eq_ok {document : Document} {brief : Brief} :
    Brief.read document = .ok brief ↔ document.excess = none ∧
      ∃ members, recordMembers? reader.fieldNames document.root = some members ∧
        Regular reader.fieldNames [] members ∧ SimpleShape members brief := by
  rw [Brief.read, Document.read_eq_ok]
  apply and_congr_right
  intro _
  apply RecordReader.read_shape_iff SimpleShape rfl (by decide)
  · intro members next taken
    exact shape_of_take taken
  · intro members brief shape name read known node found before
    exact readable shape known found before
  · intro members first second one other
    exact one.unique other
  · decide

end Brief

end FaultMesh
