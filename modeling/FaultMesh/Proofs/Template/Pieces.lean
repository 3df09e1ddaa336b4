import FaultMesh.Template

/-!
# Scanning a template

From left to right each pair of opening braces goes with the nearest pair of closing braces
behind it.  What is found so, in any text, are the actions among the pieces of a template.
-/

set_option autoImplicit false

namespace FaultMesh.Template

section Pairs
variable {b c : Char} {text first second : List Char}

/-- Holds no pair of this character. -/
def Clear (b : Char) (text : List Char) : Prop := ¬ [b, b] <:+: text

instance (b : Char) (text : List Char) : Decidable (Clear b text) :=
  inferInstanceAs (Decidable (¬ [b, b] <:+: text))

/-- May stand before the first pair of this character: a pair that is put behind the text
begins right there and not earlier. -/
structure Leads (b : Char) (text : List Char) : Prop where
  clear : Clear b text
  ends : text.getLast? ≠ some b

theorem clear_nil : Clear b [] := by
  simp [Clear]

theorem clear_cons : Clear b (c :: text) ↔ Clear b text ∧ ¬ (c = b ∧ text.head? = some b) := by
  have pair : [b, b] <+: c :: text ↔ c = b ∧ text.head? = some b := by
    cases text <;> simp [List.cons_prefix_cons, eq_comm]
  rw [Clear, Clear, List.infix_cons_iff, pair, not_or, and_comm]

/-- A pair lies in one of two texts, or where they meet. -/
theorem clear_append : Clear b (first ++ second) ↔
    Clear b first ∧ Clear b second ∧ ¬ (first.getLast? = some b ∧ second.head? = some b) := by
  induction first with
  | nil => simp [clear_nil]
  | cons c first ih =>
    rw [List.cons_append, clear_cons, clear_cons, ih]
    cases first with
    | nil => simp [clear_nil]
    | cons d first =>
      rw [List.getLast?_cons_cons]
      exact and_right_comm

theorem clear_of_not_mem (absent : b ∉ text) : Clear b text :=
  fun inside => absent (inside.subset List.mem_cons_self)

theorem leads_iff : Leads b text ↔ Clear b (text ++ [b]) := by
  rw [clear_append]
  constructor
  · intro leads
    exact ⟨leads.clear, clear_cons.mpr ⟨clear_nil, by simp⟩, fun meet => leads.ends meet.1⟩
  · intro clear
    exact ⟨clear.1, fun last => clear.2.2 ⟨last, rfl⟩⟩

theorem leads_of_not_mem (absent : b ∉ text) : Leads b text :=
  ⟨clear_of_not_mem absent, fun last => absent (List.mem_of_getLast? last)⟩

theorem leads_cons : Leads b (c :: text) ↔
    Leads b text ∧ ¬ (c = b ∧ (text ++ [b]).head? = some b) := by
  rw [leads_iff, leads_iff, List.cons_append, clear_cons]

theorem exists_leads (pair : ¬ Clear b text) :
    ∃ before after, Leads b before ∧ text = before ++ b :: b :: after := by
  induction text with
  | nil => exact absurd clear_nil pair
  | cons c text ih =>
    by_cases here : c = b ∧ text.head? = some b
    · obtain ⟨rfl, next⟩ := here
      obtain ⟨after, rfl⟩ := List.head?_eq_some_iff.mp next
      exact ⟨[], after, leads_of_not_mem List.not_mem_nil, rfl⟩
    · obtain ⟨before, after, leads, rfl⟩ := ih fun clear => pair (clear_cons.mpr ⟨clear, here⟩)
      refine ⟨c :: before, after, leads_cons.mpr ⟨leads, ?_⟩, rfl⟩
      simpa using here

end Pairs

section Pieces
variable (inside : Bool) {text : List Char}

/-- The brace whose pair ends a piece, within an action or outside of one. -/
def brace : Bool → Char
  | false => '\x7b'
  | true => '\x7d'

/-- A piece that a pair of braces ends. -/
def Piece.ended : Bool → List Char → Piece
  | false => .literal
  | true => .action

/-- A piece that the end of the source ends. -/
def Piece.cut : Bool → List Char → Piece
  | false => .literal
  | true => .opened

theorem piecesFrom_pair (taken rest : List Char) :
    piecesFrom inside taken (brace inside :: brace inside :: rest) =
      .ended inside taken.reverse :: piecesFrom (!inside) [] rest := by
  cases inside
  · rfl
  · rfl

theorem piecesFrom_nil (taken : List Char) :
    piecesFrom inside taken [] = [.cut inside taken.reverse] := by
  cases inside
  · rfl
  · rfl

theorem piecesFrom_cons {c : Char} {rest : List Char}
    (single : ¬ (c = brace inside ∧ rest.head? = some (brace inside))) (taken : List Char) :
    piecesFrom inside taken (c :: rest) = piecesFrom inside (c :: taken) rest := by
  rw [piecesFrom]
  · rintro next rfl rfl rfl
    exact single ⟨rfl, rfl⟩
  · rintro next rfl rfl rfl
    exact single ⟨rfl, rfl⟩

theorem piecesFrom_leads (leads : Leads (brace inside) text) (taken rest : List Char) :
    piecesFrom inside taken (text ++ brace inside :: brace inside :: rest) =
      .ended inside (taken.reverse ++ text) :: piecesFrom (!inside) [] rest := by
  induction text generalizing taken with
  | nil => rw [List.nil_append, piecesFrom_pair, List.append_nil]
  | cons c text ih =>
    obtain ⟨leads, single⟩ := leads_cons.mp leads
    rw [List.cons_append, piecesFrom_cons inside (by simpa using single), ih leads, List.reverse_cons,
      List.append_assoc, List.singleton_append]

theorem piecesFrom_clear (clear : Clear (brace inside) text) (taken : List Char) :
    piecesFrom inside taken text = [.cut inside (taken.reverse ++ text)] := by
  induction text generalizing taken with
  | nil => rw [piecesFrom_nil, List.append_nil]
  | cons c text ih =>
    obtain ⟨clear, single⟩ := clear_cons.mp clear
    rw [piecesFrom_cons inside single, ih clear, List.reverse_cons, List.append_assoc,
      List.singleton_append]

end Pieces

/-- The actions that a scan of a text from left to right finds: each opening pair, the first
one behind what was scanned, goes with the nearest closing pair. -/
inductive Scan : List Char → List (List Char) → Prop where
  | clear {text : List Char} (clear : Clear '\x7b' text) : Scan text []
  | opened {before text : List Char} (leads : Leads '\x7b' before) (clear : Clear '\x7d' text) :
    Scan (before ++ '\x7b' :: '\x7b' :: text) []
  | paired {before action text : List Char} {actions : List (List Char)}
    (leads : Leads '\x7b' before) (nearest : Leads '\x7d' action) (rest : Scan text actions) :
    Scan (before ++ '\x7b' :: '\x7b' :: (action ++ '\x7d' :: '\x7d' :: text)) (action :: actions)

section Scan
variable {before action text : List Char} {actions : List (List Char)}

theorem pieces_clear (clear : Clear '\x7b' text) : pieces text = [.literal text] :=
  piecesFrom_clear false clear []

theorem pieces_opened (leads : Leads '\x7b' before) (clear : Clear '\x7d' text) :
    pieces (before ++ '\x7b' :: '\x7b' :: text) = [.literal before, .opened text] := by
  have first := piecesFrom_leads false leads [] text
  rw [Bool.not_false, piecesFrom_clear true clear] at first
  exact first

theorem pieces_paired (leads : Leads '\x7b' before) (nearest : Leads '\x7d' action) :
    pieces (before ++ '\x7b' :: '\x7b' :: (action ++ '\x7d' :: '\x7d' :: text)) =
      .literal before :: .action action :: pieces text := by
  have first := piecesFrom_leads false leads [] (action ++ '\x7d' :: '\x7d' :: text)
  have second := piecesFrom_leads true nearest [] text
  rw [Bool.not_false] at first
  exact first.trans (congrArg (.literal before :: ·) second)

/-- The actions among pieces. -/
def actionsOf (pieces : List Piece) : List (List Char) :=
  pieces.filterMap fun
    | .action action => some action
    | _ => none

theorem Scan.actions_eq (scan : Scan text actions) : actions = actionsOf (pieces text) := by
  induction scan with
  | clear clear => rw [pieces_clear clear]; rfl
  | opened leads clear => rw [pieces_opened leads clear]; rfl
  | paired leads nearest rest ih => rw [pieces_paired leads nearest, ih]; rfl

theorem exists_scan (text : List Char) : ∃ actions, Scan text actions := by
  -- on the length, since the rest behind an action is any shorter text
  induction length : text.length using Nat.strongRecOn generalizing text with
  | ind n ih =>
    by_cases clear : Clear '\x7b' text
    · exact ⟨[], .clear clear⟩
    obtain ⟨before, behind, leads, rfl⟩ := exists_leads clear
    by_cases unclosed : Clear '\x7d' behind
    · exact ⟨[], .opened leads unclosed⟩
    obtain ⟨action, rest, nearest, rfl⟩ := exists_leads unclosed
    have shorter : rest.length < n := by
      simp only [List.length_append, List.length_cons] at length
      omega
    obtain ⟨actions, scan⟩ := ih rest.length shorter rest rfl
    exact ⟨action :: actions, .paired leads nearest scan⟩

/-- The scan of a text finds the actions among its pieces, and there is only one. -/
theorem scan_iff : Scan text actions ↔ actions = actionsOf (pieces text) := by
  constructor
  · exact Scan.actions_eq
  · rintro rfl
    obtain ⟨actions, scan⟩ := exists_scan text
    exact scan.actions_eq ▸ scan

end Scan

end FaultMesh.Template
