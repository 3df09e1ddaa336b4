import FaultMesh.Proofs.OrderedMap
import FaultMesh.Reporter

/-!
# Faults that a reporter makes

The parts of a fault as they come from its definition, its data and its cause.  Whether
the logging asks for the stack changes none of them.
-/

set_option autoImplicit false

namespace FaultMesh

def RequestContext.debugKeys : List String := ["DebugMode", "Method", "Path", "QueryString"]

theorem RequestContext.get?_addDebugEntries (context : RequestContext) (data : Data) {key : String}
    (other : key ∉ debugKeys) : (context.addDebugEntries data).get? key = data.get? key := by
  have keys : debugKeys = context.debugEntries.map Prod.fst := rfl
  rw [keys] at other
  rw [addDebugEntries]
  split
  next =>
    generalize context.debugEntries = entries at other
    induction entries generalizing data with
    | nil => rfl
    | cons entry entries ih =>
      rw [List.map_cons, List.mem_cons, not_or] at other
      rw [List.foldl_cons, ih _ other.2]
      exact data.get?_insertNew_of_ne (Ne.symm other.1) entry.2
  next => rfl

theorem Fault.get?_bindCause_of_ne (data : Data) (cause : Option Cause) {key : String}
    (other : key ≠ errorKey) : (bindCause data cause).get? key = data.get? key := by
  cases cause with
  | none => rfl
  | some cause =>
    rw [bindCause]
    split
    · rw [OrderedMap.get?_insert, if_neg (Ne.symm other)]
    · rfl

theorem Fault.get?_bindCause_error (data : Data) (cause : Cause)
    (absent : data.get? errorKey = none) :
    (bindCause data (some cause)).get? errorKey = some (.text cause.text) := by
  rw [bindCause, absent, if_pos (by simp), OrderedMap.get?_insert, if_pos rfl]

namespace Reporter

variable (reporter : Reporter) (ambient : Ambient) (definition : Definition) (data : Data)
  (causes : List Cause)

/-- The fault before its logging. -/
def rendered : Fault :=
  Fault.render ambient.moment definition (reporter.context.addDebugEntries data) causes.head?

theorem instantiate_fault :
    (reporter.instantiate ambient definition data causes).1 =
        reporter.rendered ambient definition data causes ∨
      (reporter.instantiate ambient definition data causes).1 =
        (reporter.rendered ambient definition data causes).forceStack := by
  unfold instantiate
  simp only
  split
  · exact .inr rfl
  · exact .inl rfl

@[simp] theorem instantiate_code :
    (reporter.instantiate ambient definition data causes).1.code = definition.code := by
  rcases instantiate_fault reporter ambient definition data causes with same | same <;>
    rw [same] <;> rfl

@[simp] theorem instantiate_status :
    (reporter.instantiate ambient definition data causes).1.status = definition.status := by
  rcases instantiate_fault reporter ambient definition data causes with same | same <;>
    rw [same] <;> rfl

@[simp] theorem instantiate_timestamp :
    (reporter.instantiate ambient definition data causes).1.timestamp = ambient.moment.now := by
  rcases instantiate_fault reporter ambient definition data causes with same | same <;>
    rw [same] <;> rfl

@[simp] theorem instantiate_messages :
    (reporter.instantiate ambient definition data causes).1.messages =
      definition.messages.mapValues fun template =>
        template.render (Fault.bindCause (reporter.context.addDebugEntries data) causes.head?) := by
  rcases instantiate_fault reporter ambient definition data causes with same | same <;>
    rw [same] <;> rfl

@[simp] theorem instantiate_cause :
    (reporter.instantiate ambient definition data causes).1.cause = causes.head? := by
  rcases instantiate_fault reporter ambient definition data causes with same | same <;>
    rw [same] <;> rfl

@[simp] theorem instantiate_data :
    (reporter.instantiate ambient definition data causes).1.data =
      Fault.bindCause (reporter.context.addDebugEntries data) causes.head? := by
  rcases instantiate_fault reporter ambient definition data causes with same | same <;>
    rw [same] <;> rfl

end Reporter

def quietReporter : Reporter := ⟨.builtin, .detached⟩

def noonAmbient : Ambient := ⟨⟨"2024-05-01T12:00:00Z", ""⟩, .off⟩

end FaultMesh
