import FaultMesh.Definition
import FaultMesh.Probe
import FaultMesh.Fault
import FaultMesh.Proofs.Decimal.Integers
import FaultMesh.Proofs.Text.Cut

/-!
# The parts of a code

A valid code comes apart into its component, its status and its reason in one way only, and all
that is asked of a code goes by these parts.  Only a status that 16 bits do not hold has no
status class.
-/

set_option autoImplicit false

namespace FaultMesh.Code

/-- A code with its parts: a component without dots, a row of digits, and a reason. -/
structure Consists (code component status reason : String) : Prop where
  written : code = component ++ "." ++ status ++ "." ++ reason
  owned : component ≠ ""
  dotless : '.' ∉ component.toList
  numbered : Decimal.IsRow status.toList
  explained : reason ≠ ""

section Parts
variable {code component status reason : String}

theorem parts?_eq_some_iff {text component status reason : List Char} :
    parts? text = some (component, status, reason) ↔
      '.' ∉ component ∧ '.' ∉ status ∧ text = component ++ '.' :: (status ++ '.' :: reason) := by
  simp only [parts?, Option.bind_eq_bind, Option.bind_eq_some_iff, Option.pure_def,
    Option.some.injEq, Prod.mk.injEq, Prod.exists, Text.splitOnce?_eq_some_iff]
  constructor
  · rintro ⟨_, _, ⟨first, rfl⟩, _, _, ⟨second, rfl⟩, rfl, rfl, rfl⟩
    exact ⟨first, second, rfl⟩
  · rintro ⟨first, second, rfl⟩
    exact ⟨_, _, ⟨first, rfl⟩, _, _, ⟨second, rfl⟩, rfl, rfl, rfl⟩

theorem dotless_of_isRow {digits : List Char} (row : Decimal.IsRow digits) : '.' ∉ digits :=
  fun dot => absurd (row.digit '.' dot) (by decide)

theorem Consists.toList (consists : Consists code component status reason) :
    code.toList = component.toList ++ '.' :: (status.toList ++ '.' :: reason.toList) := by
  rw [consists.written]
  simp

theorem Consists.begins (consists : Consists code component status reason) :
    ∃ c rest, code.toList = c :: rest ∧ c ≠ '.' := by
  obtain ⟨c, front, letters⟩ := List.exists_cons_of_ne_nil
    fun none => consists.owned (String.toList_eq_nil_iff.mp none)
  refine ⟨c, _, by rw [consists.toList, letters]; rfl, ?_⟩
  rintro rfl
  exact consists.dotless (letters ▸ List.mem_cons_self)

theorem Consists.parts?_eq (consists : Consists code component status reason) :
    parts? code.toList = some (component.toList, status.toList, reason.toList) :=
  parts?_eq_some_iff.mpr
    ⟨consists.dotless, dotless_of_isRow consists.numbered, consists.toList⟩

theorem Consists.unique {other number cause : String}
    (one : Consists code component status reason) (another : Consists code other number cause) :
    other = component ∧ number = status ∧ cause = reason := by
  have same := another.parts?_eq.symm.trans one.parts?_eq
  simp only [Option.some.injEq, Prod.mk.injEq, String.toList_inj] at same
  exact same

theorem isValid_iff :
    isValid code = true ↔ ∃ component status reason, Consists code component status reason := by
  rw [isValid, isValidChars]
  constructor
  · intro valid
    split at valid
    next component status reason found =>
      obtain ⟨dotless, -, whole⟩ := parts?_eq_some_iff.mp found
      simp only [Bool.and_eq_true, Bool.not_eq_true', List.isEmpty_eq_false_iff,
        List.all_eq_true] at valid
      obtain ⟨⟨⟨owned, explained⟩, some⟩, digits⟩ := valid
      refine ⟨.ofList component, .ofList status, .ofList reason, ?_, ?_, ?_, ?_, ?_⟩
      · rw [← String.toList_inj, whole]
        simp
      · simpa using owned
      · simpa using dotless
      · simpa using ⟨some, digits⟩
      · simpa using explained
    next => cases valid
  · rintro ⟨component, status, reason, consists⟩
    simpa [consists.parts?_eq, consists.owned, consists.explained, consists.numbered.nonempty]
      using consists.numbered.digit

theorem Consists.component_eq (consists : Consists code component status reason) :
    Code.component code = component := by
  rw [Code.component, componentChars, consists.toList, Text.before_append consists.dotless,
    String.ofList_toList]

theorem Consists.statusClass?_eq (consists : Consists code component status reason) :
    statusClass? code = (Decimal.readUnsigned 16 status.toList).toOption := by
  rw [statusClass?, statusClassChars?, consists.toList,
    List.splitOn_append_cons_self_of_not_mem consists.dotless,
    List.splitOn_append_cons_self_of_not_mem (dotless_of_isRow consists.numbered)]

/-- The status class is what the digits of the status come to, as far as 16 bits hold it. -/
theorem Consists.statusClass?_eq_some (consists : Consists code component status reason) {n : Nat} :
    statusClass? code = some n ↔ n = Text.decimalValue status.toList ∧ n < 2 ^ 16 := by
  rw [consists.statusClass?_eq, toOption_eq_some, Decimal.readUnsigned_row consists.numbered]

end Parts

/-- What is asked of a code goes by its parts.  It is valid exactly when it has them, and it has
them in one way only; then its owner is the component everywhere, for definitions, faults and
probes, and its status class is the value of its status if 16 bits hold that, and none
otherwise. -/
theorem helpers_agree (code : String) :
    (isValid code = true ↔
        ∃ component status reason, Consists code component status reason) ∧
      ∀ component status reason, Consists code component status reason →
        (∀ other number cause, Consists code other number cause →
          other = component ∧ number = status ∧ cause = reason) ∧
        Code.component code = component ∧
        (∀ definition : Definition, definition.code = code → definition.component = component) ∧
        (∀ fault : Fault, fault.code = code → fault.component = component) ∧
        (∀ (owner : String) (identity : Identity), identity.code = code →
          ((Probe.byComponent owner).accepts identity = true ↔ owner = component)) ∧
        ∀ n, statusClass? code = some n ↔ n = Text.decimalValue status.toList ∧ n < 2 ^ 16 := by
  refine ⟨isValid_iff, fun component status reason consists => ?_⟩
  have owner := consists.component_eq
  refine ⟨fun other number cause another => consists.unique another, owner, ?_, ?_, ?_,
    fun n => consists.statusClass?_eq_some⟩
  · rintro definition rfl
    exact owner
  · rintro fault rfl
    exact owner
  · rintro sought identity rfl
    rw [Probe.accepts, owner, beq_iff_eq, eq_comm]

/-- A status with a leading zero, and a reason with a dot. -/
theorem helpers_agree_dotted :
    isValid "auth.0401.Token.Expired" = true ∧
      Code.component "auth.0401.Token.Expired" = "auth" ∧
      (Probe.byComponent "auth").accepts ⟨"auth.0401.Token.Expired", 401⟩ = true ∧
      statusClass? "auth.0401.Token.Expired" = some 401 := by
  have consists : Consists "auth.0401.Token.Expired" "auth" "0401" "Token.Expired" :=
    ⟨by decide, by decide, by decide, ⟨by decide, List.all_eq_true.mp (by decide)⟩, by decide⟩
  obtain ⟨valid, agree⟩ := helpers_agree "auth.0401.Token.Expired"
  obtain ⟨-, owner, -, -, probe, status⟩ := agree _ _ _ consists
  exact ⟨valid.mpr ⟨_, _, _, consists⟩, owner, (probe _ _ rfl).mpr rfl,
    (status 401).mpr (by decide)⟩

/-- A valid code whose status is too large has no status class. -/
theorem wide_status_unclassed :
    ¬ ∀ code component status reason, Consists code component status reason →
      statusClass? code = some (Text.decimalValue status.toList) := by
  intro all
  have consists : Consists "a.65536.B" "a" "65536" "B" :=
    ⟨by decide, by decide, by decide, ⟨by decide, List.all_eq_true.mp (by decide)⟩, by decide⟩
  exact absurd (all _ _ _ _ consists) (by decide)

end FaultMesh.Code
