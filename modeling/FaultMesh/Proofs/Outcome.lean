/-!
# Steps that may fail

When the parts of a computation that may fail give a value.
-/

set_option autoImplicit false

namespace FaultMesh

variable {ε α β : Type} {result : β}

theorem pure_eq_ok {value : β} : (pure value : Except ε β) = .ok result ↔ result = value := by
  constructor
  · intro same
    exact (Except.ok.inj same).symm
  · rintro rfl
    rfl

theorem bind_eq_ok {first : Except ε α} {second : α → Except ε β} :
    first >>= second = .ok result ↔ ∃ value, first = .ok value ∧ second value = .ok result := by
  cases first with
  | error problem => simp [bind, Except.bind]
  | ok value => simp [bind, Except.bind]

theorem toOption_eq_some {first : Except ε β} :
    first.toOption = some result ↔ first = .ok result := by
  cases first with
  | error problem => simp [Except.toOption]
  | ok value => simp [Except.toOption]

theorem map_eq_ok {first : Except ε α} {change : α → β} :
    first.map change = .ok result ↔ ∃ value, first = .ok value ∧ change value = result := by
  cases first with
  | error problem => simp [Except.map]
  | ok value => simp [Except.map]

theorem map_eq_error {first : Except ε α} {change : α → β} {problem : ε} :
    first.map change = .error problem ↔ first = .error problem := by
  cases first with
  | error other => simp [Except.map]
  | ok value => simp [Except.map]

theorem mapError_eq_ok {ε' : Type} {first : Except ε β} {rename : ε → ε'} :
    first.mapError rename = .ok result ↔ first = .ok result := by
  cases first with
  | error problem =>
    have failed : (Except.error problem : Except ε β).mapError rename = .error (rename problem) :=
      rfl
    simp [failed]
  | ok value =>
    have kept : (Except.ok value : Except ε β).mapError rename = .ok value := rfl
    simp [kept]

end FaultMesh
