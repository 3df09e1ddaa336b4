import FaultMesh.Regex

/-!
# What a pattern matches

A match is a stretch of text between what stands before and behind it.  The matcher works on
all places of a text at once: from places where a match may start it goes to those where one
ends, and a pattern is found in a text exactly if it matches a stretch of it.
-/

set_option autoImplicit false

namespace FaultMesh.Regex

/-- A pattern matches a stretch of text that stands between two others. -/
inductive Matches : Regex → List Char → List Char → List Char → Prop where
  | empty {before after : List Char} : Matches .empty before [] after
  | one {set : CharSet} {c : Char} {before after : List Char} (among : set.contains c = true) :
    Matches (.one set) before [c] after
  | assertion {holds : Assertion} {before after : List Char}
    (here : holds.holdsAt ⟨before.getLast?, after.head?⟩ = true) :
    Matches (.assertion holds) before [] after
  | sequence {first second : Regex} {before head tail after : List Char}
    (start : Matches first before head (tail ++ after))
    (rest : Matches second (before ++ head) tail after) :
    Matches (.sequence first second) before (head ++ tail) after
  | left {left right : Regex} {before found after : List Char}
    (this : Matches left before found after) : Matches (.either left right) before found after
  | right {left right : Regex} {before found after : List Char}
    (this : Matches right before found after) : Matches (.either left right) before found after
  | manyNone {body : Regex} {before after : List Char} : Matches (.many body) before [] after
  | manyMore {body : Regex} {before head tail after : List Char}
    (start : Matches body before head (tail ++ after))
    (rest : Matches (.many body) (before ++ head) tail after) :
    Matches (.many body) before (head ++ tail) after
  | timesNone {body : Regex} {before after : List Char} : Matches (.times 0 body) before [] after
  | timesMore {body : Regex} {count : Nat} {before head tail after : List Char}
    (start : Matches body before head (tail ++ after))
    (rest : Matches (.times count body) (before ++ head) tail after) :
    Matches (.times (count + 1) body) before (head ++ tail) after
  | atMostNone {body : Regex} {count : Nat} {before after : List Char} :
    Matches (.atMost count body) before [] after
  | atMostMore {body : Regex} {count : Nat} {before head tail after : List Char}
    (start : Matches body before head (tail ++ after))
    (rest : Matches (.atMost count body) (before ++ head) tail after) :
    Matches (.atMost (count + 1) body) before (head ++ tail) after

def Occurs (regex : Regex) (text : List Char) : Prop :=
  ∃ before found after, text = before ++ (found ++ after) ∧ regex.Matches before found after

/-! ## Parts of a match -/

section Parts
variable {first second body : Regex} {before found after : List Char} {count : Nat}

theorem matches_empty : Matches .empty before found after ↔ found = [] := by
  constructor
  · intro matched
    cases matched
    rfl
  · intro nothing
    rw [nothing]
    exact .empty

theorem matches_one {set : CharSet} :
    Matches (.one set) before found after ↔ ∃ c, found = [c] ∧ set.contains c = true := by
  constructor
  · intro matched
    cases matched with
    | one among => exact ⟨_, rfl, among⟩
  · intro ⟨c, same, among⟩
    rw [same]
    exact .one among

theorem matches_assertion {holds : Assertion} :
    Matches (.assertion holds) before found after ↔
      found = [] ∧ holds.holdsAt ⟨before.getLast?, after.head?⟩ = true := by
  constructor
  · intro matched
    cases matched with
    | assertion here => exact ⟨rfl, here⟩
  · intro ⟨nothing, here⟩
    rw [nothing]
    exact .assertion here

theorem matches_sequence :
    Matches (.sequence first second) before found after ↔ ∃ head tail, found = head ++ tail ∧
      Matches first before head (tail ++ after) ∧ Matches second (before ++ head) tail after := by
  constructor
  · intro matched
    cases matched with
    | sequence start rest => exact ⟨_, _, rfl, start, rest⟩
  · intro ⟨head, tail, same, start, rest⟩
    rw [same]
    exact .sequence start rest

theorem matches_either :
    Matches (.either first second) before found after ↔
      Matches first before found after ∨ Matches second before found after := by
  constructor
  · intro matched
    cases matched with
    | left this => exact .inl this
    | right this => exact .inr this
  · intro matched
    cases matched with
    | inl this => exact .left this
    | inr this => exact .right this

theorem matches_times_zero : Matches (.times 0 body) before found after ↔ found = [] := by
  constructor
  · intro matched
    cases matched
    rfl
  · intro nothing
    rw [nothing]
    exact .timesNone

theorem matches_times_succ :
    Matches (.times (count + 1) body) before found after ↔
      Matches (.sequence body (.times count body)) before found after := by
  rw [matches_sequence]
  constructor
  · intro matched
    cases matched with
    | timesMore start rest => exact ⟨_, _, rfl, start, rest⟩
  · intro ⟨head, tail, same, start, rest⟩
    rw [same]
    exact .timesMore start rest

theorem matches_atMost_zero : Matches (.atMost 0 body) before found after ↔ found = [] := by
  constructor
  · intro matched
    cases matched
    rfl
  · intro nothing
    rw [nothing]
    exact .atMostNone

theorem matches_atMost_succ :
    Matches (.atMost (count + 1) body) before found after ↔
      found = [] ∨ Matches (.sequence body (.atMost count body)) before found after := by
  rw [matches_sequence]
  constructor
  · intro matched
    cases matched with
    | atMostNone => exact .inl rfl
    | atMostMore start rest => exact .inr ⟨_, _, rfl, start, rest⟩
  · intro matched
    rcases matched with nothing | ⟨head, tail, same, start, rest⟩
    · rw [nothing]
      exact .atMostNone
    · rw [same]
      exact .atMostMore start rest

theorem matches_many :
    Matches (.many body) before found after ↔
      found = [] ∨ Matches (.sequence body (.many body)) before found after := by
  rw [matches_sequence]
  constructor
  · intro matched
    cases matched with
    | manyNone => exact .inl rfl
    | manyMore start rest => exact .inr ⟨_, _, rfl, start, rest⟩
  · intro matched
    rcases matched with nothing | ⟨head, tail, same, start, rest⟩
    · rw [nothing]
      exact .manyNone
    · rw [same]
      exact .manyMore start rest

end Parts

/-! ## Starts and ends -/

section Reaching
variable {text : List Char} {first second body : Regex} {count : Nat}

/-- A match of the pattern starts behind so many characters of a text and ends behind so
many. -/
def Reaches (text : List Char) (regex : Regex) (i j : Nat) : Prop :=
  ∃ before found after, text = before ++ (found ++ after) ∧ before.length = i ∧
    (before ++ found).length = j ∧ regex.Matches before found after

theorem reaches_congr {regex other : Regex} (same : ∀ before found after,
      regex.Matches before found after ↔ other.Matches before found after) {i j : Nat} :
    Reaches text regex i j ↔ Reaches text other i j := by
  simp only [Reaches, same]

theorem Reaches.within {regex : Regex} {i j : Nat} (reaches : Reaches text regex i j) :
    j ≤ text.length := by
  obtain ⟨before, found, after, whole, -, stop, -⟩ := reaches
  rw [whole, ← stop, ← List.append_assoc]
  simp

theorem reaches_nothing {regex : Regex} {holds : List Char → List Char → Prop}
    (nothing : ∀ before found after,
      regex.Matches before found after ↔ found = [] ∧ holds before after) {i j : Nat} :
    Reaches text regex i j ↔ i = j ∧ i ≤ text.length ∧ holds (text.take i) (text.drop i) := by
  constructor
  · intro ⟨before, found, after, whole, start, stop, matched⟩
    obtain ⟨rfl, here⟩ := (nothing _ _ _).mp matched
    subst whole start stop
    simpa using here
  · intro ⟨same, within, here⟩
    refine ⟨text.take i, [], text.drop i, by simp, by simp [within], ?_, ?_⟩
    · simp [← same, within]
    · exact (nothing _ _ _).mpr ⟨rfl, here⟩

theorem reaches_empty {i j : Nat} : Reaches text .empty i j ↔ i = j ∧ i ≤ text.length := by
  have nothing (before found after : List Char) :
      Matches .empty before found after ↔ found = [] ∧ True := by rw [matches_empty, and_true]
  rw [reaches_nothing nothing, and_true]

theorem reaches_assertion {holds : Assertion} {i j : Nat} :
    Reaches text (.assertion holds) i j ↔ i = j ∧ i ≤ text.length ∧
      holds.holdsAt ⟨(text.take i).getLast?, (text.drop i).head?⟩ = true :=
  reaches_nothing fun _ _ _ => matches_assertion

theorem reaches_sequence {i k : Nat} :
    Reaches text (.sequence first second) i k ↔
      ∃ j, Reaches text first i j ∧ Reaches text second j k := by
  constructor
  · intro ⟨before, found, after, whole, start, stop, matched⟩
    obtain ⟨head, tail, rfl, front, rest⟩ := matches_sequence.mp matched
    refine ⟨(before ++ head).length, ⟨before, head, tail ++ after, ?_, start, rfl, front⟩,
      ⟨before ++ head, tail, after, ?_, rfl, ?_, rest⟩⟩
    · rw [whole, List.append_assoc]
    · rw [whole, List.append_assoc, List.append_assoc]
    · rw [← stop, List.append_assoc]
  · intro ⟨j, ⟨before, head, behind, whole, start, middle, front⟩,
      ⟨ahead, tail, after, again, here, stop, rest⟩⟩
    -- Both cut the text at the same place.
    rw [whole, ← List.append_assoc] at again
    obtain ⟨rfl, rfl⟩ := List.append_inj again (middle.trans here.symm)
    refine ⟨before, head ++ tail, after, by rw [whole, List.append_assoc], start, ?_,
      .sequence front rest⟩
    rw [← stop, List.append_assoc]

theorem reaches_either {i j : Nat} :
    Reaches text (.either first second) i j ↔ Reaches text first i j ∨ Reaches text second i j := by
  simp only [Reaches, matches_either, and_or_left, exists_or]

theorem reaches_many {i k : Nat} :
    Reaches text (.many body) i k ↔
      (i = k ∧ i ≤ text.length) ∨ ∃ j, Reaches text body i j ∧ Reaches text (.many body) j k := by
  have unrolled : Reaches text (.many body) i k ↔
      Reaches text .empty i k ∨ Reaches text (.sequence body (.many body)) i k := by
    rw [← reaches_either]
    apply reaches_congr
    intro before found after
    rw [matches_many, matches_either, matches_empty]
  rw [unrolled, reaches_sequence, reaches_empty]

theorem reaches_one {set : CharSet} {i j : Nat} :
    Reaches text (.one set) i j ↔ j = i + 1 ∧ (text[i]?).any set.contains = true := by
  constructor
  · intro ⟨before, found, after, whole, start, stop, matched⟩
    obtain ⟨c, rfl, among⟩ := matches_one.mp matched
    subst whole start stop
    simp [among]
  · intro ⟨next, among⟩
    obtain ⟨c, found, among⟩ := (Option.any_eq_true _ _).mp among
    obtain ⟨within, here⟩ := List.getElem?_eq_some_iff.mp found
    refine ⟨text.take i, [c], text.drop (i + 1), ?_, ?_, ?_, .one among⟩
    · rw [List.singleton_append, ← here, ← List.drop_eq_getElem_cons, List.take_append_drop]
    · exact List.length_take_of_le (Nat.le_of_lt within)
    · simp [next, Nat.le_of_lt within]

theorem kept_of_reaches_many {Kept : Nat → Prop}
    (kept : ∀ i j, Kept i → Reaches text body i j → Kept j) {i k : Nat} (start : Kept i)
    (reaches : Reaches text (.many body) i k) : Kept k := by
  -- By induction on the match: each round starts where the one before it ended.
  obtain ⟨before, found, after, whole, rfl, rfl, matched⟩ := reaches
  generalize many : Regex.many body = regex at matched
  induction matched with
  | @manyNone same before after => simpa using start
  | @manyMore same before head tail after front rest _ ih =>
    cases many
    have step : Kept (before ++ head).length :=
      kept _ _ start ⟨before, head, tail ++ after, by rw [whole, List.append_assoc], rfl, rfl, front⟩
    have last := ih (by rw [whole, List.append_assoc, List.append_assoc]) step rfl
    rwa [List.append_assoc] at last
  | _ => cases many

end Reaching

/-! ## Places and marks -/

def Marked (marks : List Bool) (i : Nat) : Prop := marks[i]? = some true

theorem length_placesFrom (previous : Option Char) (text : List Char) :
    (placesFrom previous text).length = text.length + 1 := by
  induction text generalizing previous with
  | nil => rfl
  | cons c text ih => rw [placesFrom, List.length_cons, ih, List.length_cons]

theorem length_places (text : List Char) : (places text).length = text.length + 1 :=
  length_placesFrom none text

theorem getElem?_placesFrom (previous : Option Char) (before after : List Char) :
    (placesFrom previous (before ++ after))[before.length]? =
      some ⟨before.getLast?.or previous, after.head?⟩ := by
  induction before generalizing previous with
  | nil => cases after <;> rfl
  | cons c before ih =>
    rw [List.cons_append, placesFrom, List.length_cons, List.getElem?_cons_succ, ih,
      List.getLast?_cons]
    cases before.getLast? <;> rfl

/-- What an assertion looks at behind so many characters. -/
theorem getElem?_places {text : List Char} {i : Nat} (within : i ≤ text.length) :
    (places text)[i]? = some ⟨(text.take i).getLast?, (text.drop i).head?⟩ := by
  have found := getElem?_placesFrom none (text.take i) (text.drop i)
  rwa [List.take_append_drop, List.length_take_of_le within, Option.or_none] at found

section Marks
variable {marks other : List Bool} {i : Nat}

theorem Marked.lt (marked : Marked marks i) : i < marks.length := by
  rw [Marked, List.getElem?_eq_some_iff] at marked
  exact marked.1

theorem any_marked : marks.any id = true ↔ ∃ i, Marked marks i := by
  rw [List.any_eq_true]
  constructor
  · intro ⟨mark, inside, marked⟩
    obtain ⟨i, found⟩ := List.mem_iff_getElem?.mp inside
    exact ⟨i, found.trans (congrArg some marked)⟩
  · intro ⟨i, marked⟩
    exact ⟨true, List.mem_iff_getElem?.mpr ⟨i, marked⟩, rfl⟩

theorem length_union (same : other.length = marks.length) :
    (union marks other).length = marks.length := by
  rw [union, List.length_zipWith, same, Nat.min_self]

theorem marked_union (same : other.length = marks.length) :
    Marked (union marks other) i ↔ Marked marks i ∨ Marked other i := by
  induction marks generalizing other i with
  | nil =>
    obtain rfl := List.length_eq_zero_iff.mp same
    simp [union, Marked]
  | cons mark marks ih =>
    obtain ⟨also, others, rfl⟩ := List.exists_cons_of_length_eq_add_one same
    cases i with
    | zero => simp [union, Marked]
    | succ i => exact ih (Nat.succ.inj same)

theorem union_cons (mark also : Bool) (marks other : List Bool) :
    union (mark :: marks) (also :: other) = (mark || also) :: union marks other := rfl

theorem count_union_le (same : other.length = marks.length) :
    (union marks other).count false ≤ marks.count false := by
  induction marks generalizing other with
  | nil =>
    obtain rfl := List.length_eq_zero_iff.mp same
    exact Nat.le_refl _
  | cons mark marks ih =>
    obtain ⟨also, others, rfl⟩ := List.exists_cons_of_length_eq_add_one same
    have rest := ih (Nat.succ.inj same)
    rw [union_cons, List.count_cons, List.count_cons]
    apply Nat.add_le_add rest
    cases mark with
    | true => exact Nat.le_refl _
    | false => cases also <;> decide

theorem count_union_lt (same : other.length = marks.length) (more : union marks other ≠ marks) :
    (union marks other).count false < marks.count false := by
  induction marks generalizing other with
  | nil =>
    obtain rfl := List.length_eq_zero_iff.mp same
    exact absurd rfl more
  | cons mark marks ih =>
    obtain ⟨also, others, rfl⟩ := List.exists_cons_of_length_eq_add_one same
    rw [union_cons] at more ⊢
    rw [List.count_cons, List.count_cons]
    by_cases kept : (mark || also) = mark
    · rw [kept] at more ⊢
      have behind : union marks others ≠ marks := by
        intro still
        exact more (congrArg (mark :: ·) still)
      exact Nat.add_lt_add_right (ih (Nat.succ.inj same) behind) _
    · have rest := count_union_le (Nat.succ.inj same)
      cases mark with
      | true => exact absurd rfl kept
      | false =>
        cases also with
        | true => exact Nat.lt_succ_of_le rest
        | false => exact absurd rfl kept

end Marks

/-! ## Steps of the matcher -/

/-- A step from places where a match of the pattern may start to those where one ends. -/
structure Follows (text : List Char) (regex : Regex) (step : List Bool → List Bool) : Prop where
  length : ∀ marks, marks.length = text.length + 1 → (step marks).length = text.length + 1
  marked : ∀ marks, marks.length = text.length + 1 → ∀ j,
    Marked (step marks) j ↔ ∃ i, Marked marks i ∧ Reaches text regex i j

section Steps
variable {text : List Char} {first second body : Regex} {step next : List Bool → List Bool}

theorem Follows.congr {regex other : Regex} (follows : Follows text regex step)
    (same : ∀ before found after,
      regex.Matches before found after ↔ other.Matches before found after) :
    Follows text other step where
  length := follows.length
  marked := by
    intro marks size j
    rw [follows.marked marks size]
    simp only [reaches_congr same]

theorem follows_empty : Follows text .empty fun marks => marks where
  length _ size := size
  marked := by
    intro marks size j
    simp only [reaches_empty]
    constructor
    · intro marked
      have within := marked.lt
      exact ⟨j, marked, rfl, by omega⟩
    · intro ⟨i, marked, same, _⟩
      exact same ▸ marked

theorem follows_assertion (holds : Assertion) :
    Follows text (.assertion holds) ((Regex.assertion holds).ends (places text)) where
  length := by
    intro marks size
    rw [ends, List.length_zipWith, size, length_places, Nat.min_self]
  marked := by
    intro marks size j
    simp only [reaches_assertion]
    rw [ends, Marked, List.getElem?_zipWith_eq_some]
    constructor
    · intro ⟨mark, place, marked, found, both⟩
      obtain ⟨rfl, holdsHere⟩ := (Bool.and_eq_true _ _).mp both
      have within : j ≤ text.length := by
        have lt := (List.getElem?_eq_some_iff.mp found).1
        rw [length_places] at lt
        omega
      rw [getElem?_places within] at found
      obtain rfl := Option.some.inj found
      exact ⟨j, marked, rfl, within, holdsHere⟩
    · intro ⟨i, marked, same, within, holdsHere⟩
      subst same
      exact ⟨true, _, marked, getElem?_places within, by rw [holdsHere, Bool.and_self]⟩

theorem follows_one (set : CharSet) :
    Follows text (.one set) ((Regex.one set).ends (places text)) where
  length := by
    intro marks size
    simp [ends, size, length_places]
  marked := by
    intro marks size j
    simp only [reaches_one]
    rw [Marked, ends, List.getElem?_take]
    cases j with
    | zero => simp
    | succ j =>
      rw [List.getElem?_cons_succ, length_places]
      constructor
      · intro marked
        split at marked
        · obtain ⟨mark, place, here, found, both⟩ := List.getElem?_zipWith_eq_some.mp marked
          obtain ⟨rfl, among⟩ := (Bool.and_eq_true _ _).mp both
          rw [getElem?_places (by omega)] at found
          obtain rfl := Option.some.inj found
          rw [List.head?_drop] at among
          exact ⟨j, here, rfl, among⟩
        · cases marked
      · intro ⟨i, here, same, among⟩
        obtain rfl := Nat.succ.inj same
        have within : j < text.length := by
          rw [← Nat.not_le]
          intro beyond
          rw [List.getElem?_eq_none beyond] at among
          cases among
        rw [if_pos (by omega)]
        apply List.getElem?_zipWith_eq_some.mpr
        refine ⟨true, _, here, getElem?_places (Nat.le_of_lt within), ?_⟩
        rw [List.head?_drop, among, Bool.and_self]

theorem Follows.sequence (start : Follows text first step) (rest : Follows text second next) :
    Follows text (.sequence first second) fun marks => next (step marks) where
  length := by
    intro marks size
    exact rest.length _ (start.length _ size)
  marked := by
    intro marks size k
    simp only [rest.marked _ (start.length _ size), start.marked _ size, reaches_sequence]
    constructor
    · intro ⟨j, ⟨i, marked, front⟩, behind⟩
      exact ⟨i, marked, j, front, behind⟩
    · intro ⟨i, marked, j, front, behind⟩
      exact ⟨j, ⟨i, marked, front⟩, behind⟩

theorem Follows.either (left : Follows text first step) (right : Follows text second next) :
    Follows text (.either first second) fun marks => union (step marks) (next marks) where
  length := by
    intro marks size
    rw [length_union, left.length _ size]
    rw [left.length _ size, right.length _ size]
  marked := by
    intro marks size j
    rw [marked_union, left.marked _ size, right.marked _ size]
    · simp only [reaches_either, and_or_left, exists_or]
    · rw [left.length _ size, right.length _ size]

theorem Follows.times (follows : Follows text body step) (count : Nat) :
    Follows text (.times count body) (iterate step count) := by
  induction count with
  | zero =>
    refine follows_empty.congr fun before found after => ?_
    rw [matches_empty, matches_times_zero]
  | succ count ih => exact (follows.sequence ih).congr fun _ _ _ => matches_times_succ.symm

theorem Follows.atMost (follows : Follows text body step) (count : Nat) :
    Follows text (.atMost count body) (upTo step count) := by
  induction count with
  | zero =>
    refine follows_empty.congr fun before found after => ?_
    rw [matches_empty, matches_atMost_zero]
  | succ count ih =>
    refine (follows_empty.either (follows.sequence ih)).congr fun before found after => ?_
    rw [matches_either, matches_empty, matches_atMost_succ]

end Steps

/-! ## Closures

A step that changes a closure leaves fewer places out.  As many steps as a text has places are
therefore enough, and what is reached then is closed under matches of the body.
-/

section Closures
variable {text : List Char} {body : Regex} {step : List Bool → List Bool} {marks : List Bool}

theorem length_more (follows : Follows text body step) (size : marks.length = text.length + 1) :
    (union marks (step marks)).length = text.length + 1 := by
  have same : (step marks).length = marks.length := by rw [follows.length marks size, size]
  rw [length_union same, size]

theorem length_closure (follows : Follows text body step) (fuel : Nat)
    (size : marks.length = text.length + 1) :
    (closure step fuel marks).length = text.length + 1 := by
  induction fuel generalizing marks with
  | zero => exact size
  | succ fuel ih =>
    rw [closure]
    split
    · exact size
    · exact ih (length_more follows size)

theorem marked_more (follows : Follows text body step) (size : marks.length = text.length + 1)
    (j : Nat) : Marked (union marks (step marks)) j ↔
      Marked marks j ∨ ∃ i, Marked marks i ∧ Reaches text body i j := by
  rw [marked_union, follows.marked marks size]
  rw [follows.length marks size, size]

theorem closure_retains (follows : Follows text body step) (fuel : Nat)
    (size : marks.length = text.length + 1) {i : Nat} (marked : Marked marks i) :
    Marked (closure step fuel marks) i := by
  induction fuel generalizing marks with
  | zero => exact marked
  | succ fuel ih =>
    rw [closure]
    split
    · exact marked
    · exact ih (length_more follows size) ((marked_more follows size i).mpr (.inl marked))

/-- Every place of a closure is reached from a start. -/
theorem closure_sound (follows : Follows text body step) (fuel : Nat)
    (size : marks.length = text.length + 1) {k : Nat}
    (marked : Marked (closure step fuel marks) k) :
    ∃ i, Marked marks i ∧ Reaches text (.many body) i k := by
  have still {marks : List Bool} (size : marks.length = text.length + 1)
      (marked : Marked marks k) : ∃ i, Marked marks i ∧ Reaches text (.many body) i k := by
    have within := marked.lt
    exact ⟨k, marked, reaches_many.mpr (.inl ⟨rfl, by omega⟩)⟩
  induction fuel generalizing marks with
  | zero => exact still size marked
  | succ fuel ih =>
    rw [closure] at marked
    split at marked
    · exact still size marked
    · obtain ⟨j, more, rest⟩ := ih (length_more follows size) marked
      rcases (marked_more follows size j).mp more with start | ⟨i, start, front⟩
      · exact ⟨j, start, rest⟩
      · exact ⟨i, start, reaches_many.mpr (.inr ⟨j, front, rest⟩)⟩

theorem marked_of_count {marks : List Bool} (full : marks.count false = 0) {i : Nat}
    (within : i < marks.length) : Marked marks i := by
  rw [Marked, List.getElem?_eq_getElem within, Option.some_inj]
  have kept := List.count_eq_zero.mp full
  cases mark : marks[i] with
  | true => rfl
  | false => exact absurd (mark ▸ List.getElem_mem within) kept

/-- A closure has all places that are reached from it, once there were as many steps as
places that were left out. -/
theorem closure_closed (follows : Follows text body step) (fuel : Nat)
    (size : marks.length = text.length + 1) (enough : marks.count false ≤ fuel) {i j : Nat}
    (marked : Marked (closure step fuel marks) i) (reaches : Reaches text body i j) :
    Marked (closure step fuel marks) j := by
  induction fuel generalizing marks with
  | zero =>
    apply marked_of_count (Nat.le_zero.mp enough)
    have within := reaches.within
    omega
  | succ fuel ih =>
    have same : (step marks).length = marks.length := by rw [follows.length marks size, size]
    rw [closure] at marked ⊢
    split at marked
    · next still =>
      rw [if_pos still, ← still]
      exact (marked_more follows size j).mpr (.inr ⟨i, marked, reaches⟩)
    · next more =>
      rw [if_neg more]
      have fewer := count_union_lt same more
      exact ih (length_more follows size) (by omega) marked

theorem Follows.many (follows : Follows text body step) :
    Follows text (.many body) (closure step (places text).length) where
  length _ size := length_closure follows _ size
  marked := by
    intro marks size k
    constructor
    · exact closure_sound follows _ size
    · intro ⟨i, marked, reaches⟩
      have enough : marks.count false ≤ (places text).length := by
        rw [length_places, ← size]
        exact List.count_le_length
      exact kept_of_reaches_many
        (fun _ _ marked front => closure_closed follows _ size enough marked front)
        (closure_retains follows _ size marked) reaches

end Closures

/-- From places where a match of the pattern may start, the matcher goes to those where one
ends. -/
theorem follows_ends (text : List Char) (regex : Regex) :
    Follows text regex (regex.ends (places text)) := by
  induction regex with
  | empty => exact follows_empty
  | one set => exact follows_one set
  | assertion holds => exact follows_assertion holds
  | sequence first second ihFirst ihSecond => exact ihFirst.sequence ihSecond
  | either left right ihLeft ihRight => exact ihLeft.either ihRight
  | many body ih => exact ih.many
  | times count body ih => exact ih.times count
  | atMost count body ih => exact ih.atMost count

/-- A pattern is found in a text exactly if it matches a stretch of it. -/
theorem isMatch_iff (regex : Regex) (text : List Char) :
    regex.isMatch text = true ↔ Occurs regex text := by
  let starts := (places text).map fun _ => true
  have size : starts.length = text.length + 1 := by rw [List.length_map, length_places]
  have anywhere {i : Nat} (within : i ≤ text.length) : Marked starts i := by
    rw [Marked, List.getElem?_map, getElem?_places within]
    rfl
  have follows := (follows_ends text regex).marked starts size
  rw [isMatch, any_marked]
  constructor
  · intro ⟨j, marked⟩
    obtain ⟨i, -, before, found, after, whole, -, -, matched⟩ := (follows j).mp marked
    exact ⟨before, found, after, whole, matched⟩
  · intro ⟨before, found, after, whole, matched⟩
    have within : before.length ≤ text.length := by simp [whole]
    have reaches : Reaches text regex before.length (before ++ found).length :=
      ⟨before, found, after, whole, rfl, rfl, matched⟩
    exact ⟨_, (follows _).mpr ⟨_, anywhere within, reaches⟩⟩

end FaultMesh.Regex
