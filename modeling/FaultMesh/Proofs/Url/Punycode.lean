import FaultMesh.Url.Punycode

/-!
# Labels in ASCII letters

The coding keeps every label: what is written for it is read as the label again.  While the
characters of one value are written, the reader has put together the characters that came
before: all smaller ones, and those of this value up to the same place.  A written distance is
what lies between two such moments, counted in places where a character can go.
-/

set_option autoImplicit false

namespace FaultMesh.Punycode

theorem threshold_pos (k bias : Nat) : 1 ≤ threshold k bias := by
  unfold threshold
  split
  · omega
  split
  · omega
  · omega

theorem threshold_le (k bias : Nat) : threshold k bias ≤ 26 := by
  unfold threshold
  split
  · omega
  split
  · omega
  · omega

theorem digitValue?_digitChar {digit : Nat} (small : digit < 36) :
    digitValue? (digitChar digit) = some digit := by
  have all : ∀ digit ∈ List.range 36, digitValue? (digitChar digit) = some digit := by decide
  exact all digit (List.mem_range.mpr small)

theorem rest_lt (k bias : Nat) {number : Nat} (large : ¬ number < threshold k bias) :
    (number - threshold k bias) / (36 - threshold k bias) < number := by
  have positive := threshold_pos k bias
  have le := Nat.div_le_self (number - threshold k bias) (36 - threshold k bias)
  omega

/-- A number that was written is read, whatever stands behind it. -/
theorem decodeNumber?_encodeNumber (bias : Nat) {fuel : Nat} (tail : List Char) :
    ∀ {number : Nat} (k weight value : Nat), number ≤ fuel →
      decodeNumber? bias k weight value (encodeNumber fuel bias k number ++ tail) =
        some (value + number * weight, tail) := by
  induction fuel with
  | zero =>
    intro number k weight value enough
    obtain rfl : number = 0 := by omega
    have positive := threshold_pos k bias
    rw [encodeNumber, List.singleton_append, decodeNumber?, digitValue?_digitChar (by decide)]
    simp only [Option.bind_eq_bind, Option.bind_some]
    rw [if_pos (by omega)]
    rfl
  | succ fuel ih =>
    intro number k weight value enough
    have positive := threshold_pos k bias
    have most := threshold_le k bias
    rw [encodeNumber]
    by_cases small : number < threshold k bias
    · simp only [if_pos small]
      rw [List.singleton_append, decodeNumber?, digitValue?_digitChar (by omega)]
      simp only [Option.bind_eq_bind, Option.bind_some, if_pos small]
      rfl
    · have base : 0 < 36 - threshold k bias := by omega
      have below := Nat.mod_lt (number - threshold k bias) base
      have left := rest_lt k bias small
      simp only [if_neg small]
      rw [List.cons_append, decodeNumber?, digitValue?_digitChar (by omega)]
      simp only [Option.bind_eq_bind, Option.bind_some]
      rw [if_neg (by omega), ih _ _ _ (by omega)]
      -- the digit and what is left of the number make the number again
      have parts := Nat.mod_add_div' (number - threshold k bias) (36 - threshold k bias)
      have whole : threshold k bias + (number - threshold k bias) % (36 - threshold k bias) +
          (number - threshold k bias) / (36 - threshold k bias) * (36 - threshold k bias) =
            number := by
        omega
      rw [Nat.mul_comm weight, ← Nat.mul_assoc, Nat.add_assoc, ← Nat.add_mul, whole]

def IsDigit (c : Char) : Prop := ∃ digit < 36, c = digitChar digit

theorem isDigit_encodeNumber {fuel bias k number : Nat} (enough : number ≤ fuel) :
    ∀ c ∈ encodeNumber fuel bias k number, IsDigit c := by
  induction fuel generalizing k number with
  | zero =>
    intro c inside
    exact ⟨number, by omega, List.mem_singleton.mp inside⟩
  | succ fuel ih =>
    intro c inside
    have most := threshold_le k bias
    have positive := threshold_pos k bias
    rw [encodeNumber] at inside
    by_cases small : number < threshold k bias
    · simp only [if_pos small] at inside
      exact ⟨number, by omega, List.mem_singleton.mp inside⟩
    · have below := Nat.mod_lt (number - threshold k bias)
        (show 0 < 36 - threshold k bias by omega)
      have left := rest_lt k bias small
      simp only [if_neg small] at inside
      rcases List.mem_cons.mp inside with same | inside
      · exact ⟨_, by omega, same⟩
      · exact ih (by omega) c inside

/-! ## Where writer and reader stand -/

/-- The characters that are there when those of `value` have been written up to `rest`. -/
def held (value : Nat) (seen rest : List Char) : List Char :=
  (seen.filter fun c => c.toNat ≤ value) ++ rest.filter fun c => c.toNat < value

/-- How many of them stand before `rest`. -/
def place (value : Nat) (seen : List Char) : Nat :=
  (seen.filter fun c => c.toNat ≤ value).length

/-- A reader that has read all that was written stands behind the last character written.
From there the distance so far leads to the place before `rest`. -/
structure Follows (basic : List Char) (state : State) (value : Nat) (seen rest : List Char)
    (next index : Nat) : Prop where
  reads : ∀ fuel tail,
    decodeRest? (fuel + (state.handled - basic.length)) 0x80 0 72 basic (state.written ++ tail) =
      decodeRest? fuel next index state.bias (held value seen rest) tail
  handled : state.handled = (held value seen rest).length
  started : basic.length ≤ state.handled
  brief : state.handled ≤ basic.length + state.written.length
  behind : next ≤ value
  way : next * (state.handled + 1) + index + state.delta =
    value * (state.handled + 1) + place value seen
  first : state.handled = basic.length ↔ index = 0 ∧ next = 0x80
  digits : ∀ c ∈ state.written, IsDigit c

section Steps
variable {basic : List Char} {state : State} {value next index : Nat} {seen rest : List Char}
  {c : Char}

theorem held_smaller (small : c.toNat < value) :
    held value (seen ++ [c]) rest = held value seen (c :: rest) := by
  simp [held, small, Nat.le_of_lt small]

theorem held_greater (great : value < c.toNat) :
    held value (seen ++ [c]) rest = held value seen (c :: rest) := by
  simp [held, Nat.not_le.mpr great, Nat.not_lt.mpr (Nat.le_of_lt great)]

theorem place_smaller (small : c.toNat < value) :
    place value (seen ++ [c]) = place value seen + 1 := by
  simp [place, Nat.le_of_lt small]

theorem place_greater (great : value < c.toNat) :
    place value (seen ++ [c]) = place value seen := by
  simp [place, Nat.not_le.mpr great]

theorem place_same (same : c.toNat = value) :
    place value (seen ++ [c]) = place value seen + 1 := by
  simp [place, same]

/-- A character of the value that is written now goes to the place before `rest`. -/
theorem insertAt_place (same : c.toNat = value) :
    insertAt (place value seen) c (held value seen (c :: rest)) =
      held value (seen ++ [c]) rest := by
  have first : (held value seen (c :: rest)).take (place value seen) =
      seen.filter fun c => c.toNat ≤ value := List.take_left
  have others : (held value seen (c :: rest)).drop (place value seen) =
      rest.filter fun c => c.toNat < value := by
    simp [held, place, same]
  rw [insertAt, first, others]
  simp [held, same]

theorem length_held_same (same : c.toNat = value) :
    (held value (seen ++ [c]) rest).length = (held value seen (c :: rest)).length + 1 := by
  simp [held, same]
  omega

theorem place_le (value : Nat) (seen rest : List Char) :
    place value seen ≤ (held value seen rest).length := by
  simp [held, place]

namespace Follows

theorem smaller (follows : Follows basic state value seen (c :: rest) next index)
    (small : c.toNat < value) :
    Follows basic { state with delta := state.delta + 1 } value (seen ++ [c]) rest next index where
  reads := by
    rw [held_smaller small]
    exact follows.reads
  handled := by
    rw [held_smaller small]
    exact follows.handled
  started := follows.started
  brief := follows.brief
  behind := follows.behind
  way := by
    rw [place_smaller small]
    have way := follows.way
    dsimp only at way ⊢
    omega
  first := follows.first
  digits := follows.digits

theorem greater (follows : Follows basic state value seen (c :: rest) next index)
    (great : value < c.toNat) : Follows basic state value (seen ++ [c]) rest next index where
  reads := by
    rw [held_greater great]
    exact follows.reads
  handled := by
    rw [held_greater great]
    exact follows.handled
  started := follows.started
  brief := follows.brief
  behind := follows.behind
  way := by
    rw [place_greater great]
    exact follows.way
  first := follows.first
  digits := follows.digits

/-- Where the distance so far leads to. -/
theorem index_add_delta (follows : Follows basic state value seen rest next index) :
    index + state.delta = place value seen + (state.handled + 1) * (value - next) := by
  have way := follows.way
  have least := Nat.mul_le_mul_right (state.handled + 1) follows.behind
  rw [Nat.mul_comm, Nat.sub_mul]
  omega

end Follows

theorem encodeNumber_ne_nil (fuel bias k number : Nat) : encodeNumber fuel bias k number ≠ [] := by
  cases fuel with
  | zero => simp [encodeNumber]
  | succ fuel =>
    rw [encodeNumber]
    split
    · simp
    · simp

/-- The reader takes a distance and puts the character where the writer took it from. -/
theorem Follows.decodeRest?_distance
    (follows : Follows basic state value seen (c :: rest) next index) (same : c.toNat = value)
    (fuel : Nat) (tail : List Char) :
    decodeRest? (fuel + 1) next index state.bias (held value seen (c :: rest))
        (encodeNumber state.delta state.bias 36 state.delta ++ tail) =
      decodeRest? fuel value (place value seen + 1)
        (adapt state.delta (state.handled + 1) (state.handled = basic.length))
        (held value (seen ++ [c]) rest) tail := by
  have within := place_le value seen (c :: rest)
  have count : (held value seen (c :: rest)).length + 1 = state.handled + 1 := by
    rw [follows.handled]
  have small : place value seen < state.handled + 1 := by
    have handled := follows.handled
    omega
  have reached := follows.index_add_delta
  have quotient : next + (index + state.delta) / (state.handled + 1) = value := by
    have behind := follows.behind
    rw [reached, Nat.add_mul_div_left _ _ (Nat.succ_pos _), Nat.div_eq_of_lt small]
    omega
  have remainder : (index + state.delta) % (state.handled + 1) = place value seen := by
    rw [reached, Nat.add_mul_mod_self_left, Nat.mod_eq_of_lt small]
  have scalar : ¬ (0x10FFFF < value ∨ (0xD800 ≤ value ∧ value < 0xE000)) := by
    have valid : c.toNat < 0xD800 ∨ 0xDFFF < c.toNat ∧ c.toNat < 0x110000 := c.valid
    omega
  have written : Char.ofNat value = c := by
    rw [← same, Char.ofNat_toNat]
  have turn : decide (index = 0 ∧ next = 0x80) = decide (state.handled = basic.length) :=
    decide_eq_decide.mpr follows.first.symm
  rw [decodeRest?, if_neg (by simp [encodeNumber_ne_nil])]
  rw [decodeNumber?_encodeNumber state.bias tail 36 1 0 (Nat.le_refl _)]
  simp only [Option.bind_eq_bind, Option.bind_some, Nat.zero_add, Nat.mul_one, count, quotient,
    remainder, written, if_neg scalar, insertAt_place same]
  rw [← turn]

theorem Follows.insert (follows : Follows basic state value seen (c :: rest) next index)
    (same : c.toNat = value) :
    Follows basic
      { delta := 0
        bias := adapt state.delta (state.handled + 1) (state.handled = basic.length)
        handled := state.handled + 1
        written := state.written ++ encodeNumber state.delta state.bias 36 state.delta }
      value (seen ++ [c]) rest value (place value seen + 1) where
  reads := by
    intro fuel tail
    have started := follows.started
    have more : fuel + (state.handled + 1 - basic.length) =
        fuel + 1 + (state.handled - basic.length) := by
      omega
    dsimp only
    rw [more, List.append_assoc, follows.reads, follows.decodeRest?_distance same]
  handled := by
    rw [length_held_same same, ← follows.handled]
  started := Nat.le_succ_of_le follows.started
  brief := by
    have brief := follows.brief
    have some := List.length_pos_iff.mpr
      (encodeNumber_ne_nil state.delta state.bias 36 state.delta)
    rw [List.length_append]
    dsimp only
    omega
  behind := Nat.le_refl value
  way := by
    rw [place_same same]
    rfl
  first := by
    have started := follows.started
    dsimp only
    omega
  digits := by
    intro other inside
    rcases List.mem_append.mp inside with before | now
    · exact follows.digits other before
    · exact isDigit_encodeNumber (Nat.le_refl _) other now

/-- The distance grows over what comes before the next value in the same round. -/
theorem Follows.jump (follows : Follows basic state next [] rest value index) {later : Nat}
    (le : next ≤ later) (none : ∀ c ∈ rest, c.toNat < next ∨ later ≤ c.toNat) :
    Follows basic { state with delta := state.delta + (later - next) * (state.handled + 1) }
      later [] rest value index := by
  have same : held later [] rest = held next [] rest := by
    simp only [held, List.filter_nil, List.nil_append]
    refine List.filter_congr fun c inside => ?_
    have side := none c inside
    rw [decide_eq_decide]
    omega
  constructor
  case reads =>
    rw [same]
    exact follows.reads
  case handled =>
    rw [same]
    exact follows.handled
  case started => exact follows.started
  case brief => exact follows.brief
  case behind => exact Nat.le_trans follows.behind le
  case way =>
    have way := follows.way
    have grown := Nat.mul_le_mul_right (state.handled + 1) le
    have none : place later [] = place next [] := rfl
    dsimp only
    rw [Nat.sub_mul, none]
    omega
  case first => exact follows.first
  case digits => exact follows.digits

/-- At the end of a round the distance leads to the start of the next one. -/
theorem Follows.close (follows : Follows basic state value seen [] next index) :
    Follows basic { state with delta := state.delta + 1 } (value + 1) [] seen next index := by
  have same : held (value + 1) [] seen = held value seen [] := by
    simp only [held, List.filter_nil, List.nil_append, List.append_nil]
    refine List.filter_congr fun c _ => ?_
    rw [decide_eq_decide]
    omega
  constructor
  case reads =>
    rw [same]
    exact follows.reads
  case handled =>
    rw [same]
    exact follows.handled
  case started => exact follows.started
  case brief => exact follows.brief
  case behind => exact Nat.le_succ_of_le follows.behind
  case way =>
    have way := follows.way
    have handled := follows.handled
    have last : place value seen = state.handled := by
      rw [handled]
      simp [held, place]
    have start : place (value + 1) [] = 0 := rfl
    dsimp only
    rw [start, Nat.succ_mul]
    omega
  case first => exact follows.first
  case digits => exact follows.digits

end Steps

section Rounds
variable {basic : List Char} {state : State} {value next index : Nat}

theorem Follows.round {seen rest : List Char}
    (follows : Follows basic state value seen rest next index) :
    ∃ next index, Follows basic (encodeValue basic.length value (rest.map Char.toNat) state)
      (value + 1) [] (seen ++ rest) next index := by
  induction rest generalizing state seen next index with
  | nil =>
    rw [List.append_nil]
    exact ⟨next, index, follows.close⟩
  | cons c rest ih =>
    rw [List.append_cons, List.map_cons, encodeValue]
    by_cases small : c.toNat < value
    · rw [if_pos small]
      exact ih (follows.smaller small)
    rw [if_neg small]
    by_cases same : c.toNat = value
    · rw [if_pos same]
      exact ih (follows.insert same)
    · rw [if_neg same]
      exact ih (follows.greater (by omega))

/-- The values from `next` on that a label has, each once and in order. -/
structure Lists (label : List Char) (next : Nat) (values : List Nat) : Prop where
  sorted : values.Pairwise (· < ·)
  mem_iff : ∀ value, value ∈ values ↔ next ≤ value ∧ ∃ c ∈ label, c.toNat = value

/-- All rounds together write the whole label. -/
theorem Follows.rounds {label : List Char} {values : List Nat} {start : Nat}
    (lists : Lists label start values)
    (follows : Follows basic state start [] label next index) :
    ∃ final next index,
      Follows basic (encodeValues basic.length (label.map Char.toNat) start values state)
        final [] label next index ∧ ∀ c ∈ label, c.toNat < final := by
  induction values generalizing state start next index with
  | nil =>
    refine ⟨start, next, index, follows, ?_⟩
    intro c inside
    refine Nat.not_le.mp fun le => ?_
    exact List.not_mem_nil ((lists.mem_iff c.toNat).mpr ⟨le, c, inside, rfl⟩)
  | cons value values ih =>
    obtain ⟨least, sorted⟩ := List.pairwise_cons.mp lists.sorted
    obtain ⟨le, -⟩ := (lists.mem_iff value).mp List.mem_cons_self
    have between : ∀ c ∈ label, c.toNat < start ∨ value ≤ c.toNat := by
      intro c inside
      by_cases below : c.toNat < start
      · exact .inl below
      · have member := (lists.mem_iff c.toNat).mpr ⟨Nat.not_lt.mp below, c, inside, rfl⟩
        rcases List.mem_cons.mp member with same | later
        · exact .inr (Nat.le_of_eq same.symm)
        · exact .inr (Nat.le_of_lt (least _ later))
    have others : Lists label (value + 1) values := by
      refine ⟨sorted, ?_⟩
      intro other
      constructor
      · intro member
        obtain ⟨-, found⟩ := (lists.mem_iff other).mp (List.mem_cons_of_mem _ member)
        exact ⟨least other member, found⟩
      · rintro ⟨above, found⟩
        have member := (lists.mem_iff other).mpr ⟨by omega, found⟩
        exact (List.mem_cons.mp member).resolve_left (by omega)
    obtain ⟨next, index, round⟩ := (follows.jump le between).round
    rw [List.nil_append] at round
    exact ih others round

end Rounds

theorem mem_insertValue {value other : Nat} {values : List Nat} :
    other ∈ insertValue value values ↔ other = value ∨ other ∈ values := by
  induction values with
  | nil => simp [insertValue]
  | cons first values ih =>
    rw [insertValue]
    split
    · simp
    split
    next same => simp [same]
    · simp only [List.mem_cons, ih]
      exact or_left_comm

theorem sorted_insertValue {value : Nat} {values : List Nat} (sorted : values.Pairwise (· < ·)) :
    (insertValue value values).Pairwise (· < ·) := by
  induction values with
  | nil => simp [insertValue]
  | cons first values ih =>
    obtain ⟨least, others⟩ := List.pairwise_cons.mp sorted
    rw [insertValue]
    split
    next less =>
      refine List.pairwise_cons.mpr ⟨?_, sorted⟩
      intro other inside
      rcases List.mem_cons.mp inside with rfl | inside
      · exact less
      · exact Nat.lt_trans less (least other inside)
    split
    · exact sorted
    next notLess notSame =>
      refine List.pairwise_cons.mpr ⟨?_, ih others⟩
      intro other inside
      rcases mem_insertValue.mp inside with rfl | inside
      · omega
      · exact least other inside

theorem lists_wide (label : List Char) :
    Lists label 0x80
      ((label.filter fun c => 0x80 ≤ c.toNat).foldr (fun c => insertValue c.toNat) []) := by
  constructor
  · induction label.filter fun c => 0x80 ≤ c.toNat with
    | nil => exact List.Pairwise.nil
    | cons c chars ih => exact sorted_insertValue ih
  · intro value
    have mem (chars : List Char) :
        value ∈ chars.foldr (fun c => insertValue c.toNat) [] ↔ ∃ c ∈ chars, c.toNat = value := by
      induction chars with
      | nil => simp
      | cons c chars ih => simp [mem_insertValue, ih, eq_comm]
    rw [mem]
    simp only [List.mem_filter, decide_eq_true_eq]
    constructor
    · rintro ⟨c, ⟨inside, wide⟩, rfl⟩
      exact ⟨wide, c, inside, rfl⟩
    · rintro ⟨wide, c, inside, rfl⟩
      exact ⟨c, ⟨inside, wide⟩, rfl⟩

/-! ## Labels -/

def plain (label : List Char) : List Char := label.filter fun c => c.toNat < 0x80

def finished (label : List Char) : State :=
  encodeValues (plain label).length (label.map Char.toNat) 0x80
    ((label.filter fun c => 0x80 ≤ c.toNat).foldr (fun c => insertValue c.toNat) [])
    ⟨0, 72, (plain label).length, []⟩

def distances (label : List Char) : List Char := (finished label).written

theorem encode_eq (label : List Char) :
    encode label =
      plain label ++ (if (plain label).isEmpty then [] else ['-']) ++ distances label := rfl

theorem follows_start (label : List Char) :
    Follows (plain label) ⟨0, 72, (plain label).length, []⟩ 0x80 [] label 0x80 0 where
  reads := by
    intro fuel tail
    rw [Nat.sub_self]
    rfl
  handled := rfl
  started := Nat.le_refl _
  brief := Nat.le_refl _
  behind := Nat.le_refl _
  way := rfl
  first := iff_of_true rfl ⟨rfl, rfl⟩
  digits := fun _ none => absurd none List.not_mem_nil

theorem follows_finished (label : List Char) :
    ∃ final next index, Follows (plain label) (finished label) final [] label next index ∧
      held final [] label = label := by
  obtain ⟨final, next, index, follows, below⟩ := (follows_start label).rounds (lists_wide label)
  refine ⟨final, next, index, follows, ?_⟩
  rw [held, List.filter_nil, List.nil_append, List.filter_eq_self]
  simpa using below

theorem isDigit_distances (label : List Char) : ∀ c ∈ distances label, IsDigit c := by
  obtain ⟨final, next, index, follows, -⟩ := follows_finished label
  exact follows.digits

theorem decodeRest?_distances (label : List Char) {fuel : Nat}
    (enough : (distances label).length < fuel) :
    decodeRest? fuel 0x80 0 72 (plain label) (distances label) = some label := by
  obtain ⟨final, next, index, follows, all⟩ := follows_finished label
  have brief := follows.brief
  have started := follows.started
  have length : (distances label).length = (finished label).written.length := rfl
  obtain ⟨rest, same⟩ : ∃ rest,
      fuel = rest + 1 + ((finished label).handled - (plain label).length) :=
    ⟨fuel - 1 - ((finished label).handled - (plain label).length), by omega⟩
  have read := follows.reads (rest + 1) []
  rw [List.append_nil, all] at read
  rw [same]
  exact read

theorem hyphen_not_mem_distances (label : List Char) : '-' ∉ distances label := by
  have none : ∀ digit ∈ List.range 36, '-' ≠ digitChar digit := by decide
  intro inside
  obtain ⟨digit, small, same⟩ := isDigit_distances label '-' inside
  exact none digit (List.mem_range.mpr small) same

theorem takeWhile_reverse {text : List Char} (absent : '-' ∉ text) (more : List Char) :
    (text.reverse ++ more).takeWhile (· ≠ '-') = text.reverse ++ more.takeWhile (· ≠ '-') := by
  refine List.takeWhile_append_of_pos ?_
  intro c inside
  have other : c ≠ '-' := fun same => absent (same ▸ List.mem_reverse.mp inside)
  simpa using other

theorem splitLastHyphen_of_not_mem {text : List Char} (absent : '-' ∉ text) :
    splitLastHyphen text = ([], text) := by
  have behind := takeWhile_reverse absent []
  rw [List.append_nil, List.takeWhile_nil, List.append_nil] at behind
  rw [splitLastHyphen, behind, List.reverse_reverse, if_pos rfl]

theorem splitLastHyphen_append {text : List Char} (absent : '-' ∉ text) (before : List Char) :
    splitLastHyphen (before ++ '-' :: text) = (before, text) := by
  have behind := takeWhile_reverse absent ('-' :: before.reverse)
  have stop : ('-' :: before.reverse).takeWhile (· ≠ '-') = [] := rfl
  have reversed : (before ++ '-' :: text).reverse = text.reverse ++ '-' :: before.reverse := by
    simp
  have length : (before ++ '-' :: text).length = before.length + text.length + 1 := by
    rw [List.length_append, List.length_cons]
    rfl
  have count : (before ++ '-' :: text).length - text.length - 1 = before.length := by omega
  rw [splitLastHyphen, reversed, behind, stop, List.append_nil, List.reverse_reverse,
    if_neg (by omega), count, List.take_left]

theorem splitLastHyphen_encode (label : List Char) :
    splitLastHyphen (encode label) = (plain label, distances label) := by
  have absent := hyphen_not_mem_distances label
  rw [encode_eq]
  cases basic : plain label with
  | nil => exact splitLastHyphen_of_not_mem absent
  | cons c others =>
    rw [List.isEmpty_cons, if_neg Bool.false_ne_true, List.append_assoc, List.singleton_append]
    exact splitLastHyphen_append absent (c :: others)

/-- A label that was written is read. -/
theorem decode?_encode (label : List Char) : decode? (encode label) = some label := by
  have narrow : (plain label).all (fun c => c.toNat < 0x80) = true := by
    rw [List.all_eq_true]
    intro c inside
    exact (List.mem_filter.mp inside).2
  have length : (distances label).length ≤ (encode label).length := by
    rw [encode_eq, List.length_append]
    exact Nat.le_add_left _ _
  rw [decode?, splitLastHyphen_encode]
  simp only
  rw [if_pos narrow]
  exact decodeRest?_distances label (by omega)

/-- What is written for a label: its own ASCII characters, digits and a hyphen. -/
theorem mem_encode {label : List Char} {c : Char} (inside : c ∈ encode label) :
    (c ∈ label ∧ c.toNat < 0x80) ∨ c = '-' ∨ IsDigit c := by
  rw [encode_eq] at inside
  rcases List.mem_append.mp inside with front | digit
  · rcases List.mem_append.mp front with own | hyphen
    · have kept := List.mem_filter.mp own
      exact .inl ⟨kept.1, by simpa using kept.2⟩
    · split at hyphen
      · cases hyphen
      · exact .inr (.inl (List.mem_singleton.mp hyphen))
  · exact .inr (.inr (isDigit_distances label c digit))

end FaultMesh.Punycode
