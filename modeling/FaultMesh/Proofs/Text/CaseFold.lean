import FaultMesh.Text.CaseFold

/-!
# Folding once is enough

A folded character folds to itself: where one run of characters leads to, no other run lies.
-/

set_option autoImplicit false

namespace FaultMesh.Text

theorem of_range {P : Char → Prop} {first count : Nat}
    (table : ∀ n ∈ List.range' first count, P (Char.ofNat n)) {c : Char}
    (lower : first ≤ c.toNat) (upper : c.toNat < first + count) : P c := by
  have here := table c.toNat (List.mem_range'_1.mpr ⟨lower, upper⟩)
  rwa [Char.ofNat_toNat] at here

theorem of_row {P : Char → Prop} [DecidablePred P] {row : List Char}
    (table : row.all (fun c => decide (P c)) = true) : ∀ c ∈ row, P c := by
  simpa using table

theorem Run.has_iff (run : Run) (n : Nat) :
    run.has n = true ↔ run.first ≤ n ∧ n ≤ run.last ∧ (n - run.first) % run.step = 0 := by
  simp [Run.has, and_assoc]

/-- The characters from `first` to `last` lie beside a run, or both go by every second
character and do not meet. -/
def Run.isMissed (run : Run) (first last step : Nat) : Bool :=
  Nat.blt last run.first || Nat.blt run.last first ||
    (Nat.beq run.step 2 && (Nat.beq step 2 || Nat.beq first last) &&
      Nat.beq ((first + run.first) % 2) 1)

namespace FoldRun

def target (entry : FoldRun) (n : Nat) : Nat := (n + entry.distance).toNat

/-- No folded character of this entry lies in a run. -/
def misses (entry : FoldRun) (run : Run) : Bool :=
  run.isMissed (entry.target entry.run.first) (entry.target entry.run.last) entry.run.step

def isBounded (entry : FoldRun) : Bool :=
  0 ≤ entry.run.first + entry.distance && entry.run.last + entry.distance < 0x110000

theorem not_has_target {entry : FoldRun} {run : Run} (bounded : entry.isBounded = true)
    (misses : entry.misses run = true) {n : Nat} (inside : entry.run.has n = true) :
    run.has (entry.target n) = false := by
  rw [Run.has_iff] at inside
  obtain ⟨least, most, step⟩ := inside
  simp only [isBounded, Bool.and_eq_true, decide_eq_true_eq] at bounded
  simp only [FoldRun.misses, Run.isMissed, target, Bool.or_eq_true, Bool.and_eq_true,
    Nat.blt_eq, Nat.beq_eq] at misses
  rw [← Bool.not_eq_true, Run.has_iff, target]
  rintro ⟨above, below, other⟩
  rcases misses with (before | behind) | ⟨⟨two, same | single⟩, odd⟩
  · omega
  · omega
  · rw [same] at step
    rw [two] at other
    omega
  · rw [two] at other
    omega

end FoldRun

/-- What no folded character is: one that folds again, or no character at all. -/
def barredRuns : List Run := ⟨0xD800, 0xDFFF, 1⟩ :: foldRuns.map FoldRun.run

theorem misses_foldRuns :
    (foldRuns.all fun entry => entry.isBounded && barredRuns.all entry.misses) = true := by
  decide +kernel

theorem misses_of_mem {entry : FoldRun} (member : entry ∈ foldRuns) :
    entry.isBounded = true ∧ ∀ run ∈ barredRuns, entry.misses run = true := by
  have all := List.all_eq_true.mp misses_foldRuns entry member
  rw [Bool.and_eq_true, List.all_eq_true] at all
  exact all

theorem foldValue_cases (n : Nat) :
    foldValue n = n ∨
      ∃ entry ∈ foldRuns, entry.run.has n = true ∧ foldValue n = entry.target n := by
  rw [foldValue]
  split
  next entry found =>
    have inside := List.find?_some found
    exact .inr ⟨entry, List.mem_of_find?_eq_some found, inside, rfl⟩
  next => exact .inl rfl

theorem foldValue_foldValue (n : Nat) : foldValue (foldValue n) = foldValue n := by
  rcases foldValue_cases n with same | ⟨entry, member, inside, folded⟩
  · rw [same, same]
  obtain ⟨bounded, misses⟩ := misses_of_mem member
  have none : foldRuns.find? (fun other => other.run.has (foldValue n)) = none := by
    rw [List.find?_eq_none]
    intro other known
    have barred := misses other.run (List.mem_cons_of_mem _ (List.mem_map_of_mem known))
    rw [folded, FoldRun.not_has_target bounded barred inside]
    exact Bool.false_ne_true
  rw [foldValue, none]

theorem toNat_foldCase (c : Char) : (foldCase c).toNat = foldValue c.toNat := by
  have valid : c.toNat < 0xD800 ∨ 0xDFFF < c.toNat ∧ c.toNat < 0x110000 := c.valid
  have scalar : (foldValue c.toNat).isValidChar := by
    rcases foldValue_cases c.toNat with same | ⟨entry, member, inside, folded⟩
    · rw [same]
      exact c.valid
    obtain ⟨bounded, misses⟩ := misses_of_mem member
    have surrogate := FoldRun.not_has_target bounded (misses _ List.mem_cons_self) inside
    rw [← folded, ← Bool.not_eq_true, Run.has_iff, Nat.mod_one] at surrogate
    dsimp only at surrogate
    simp only [FoldRun.isBounded, Bool.and_eq_true, decide_eq_true_eq] at bounded
    rw [Run.has_iff] at inside
    rw [FoldRun.target] at folded
    have below : foldValue c.toNat < 0x110000 := by omega
    rw [Nat.isValidChar]
    omega
  rw [foldCase, Char.ofNat, dif_pos scalar]
  rfl

theorem foldCase_foldCase (c : Char) : foldCase (foldCase c) = foldCase c := by
  rw [foldCase, toNat_foldCase, foldValue_foldValue]
  rfl

end FaultMesh.Text
