import FaultMesh.Proofs.Service.Startup

/-!
# Numbers that a query may hold

Of each parameter the last value counts, and no value is as good as zero.  A stretch is read from
a query exactly when limit and offset are whole numbers from zero on, the limit within the
settings, and a word with a sign holds both.
-/

set_option autoImplicit false

namespace FaultMesh.Paging

/-- The value of a parameter: the last one, or the empty one if there is none. -/
inductive LastValue (name : String) : List (String × String) → String → Prop
  | absent {pairs : List (String × String)} (none : ∀ pair ∈ pairs, pair.1 ≠ name) :
    LastValue name pairs ""
  | last {before after : List (String × String)} {value : String}
    (none : ∀ pair ∈ after, pair.1 ≠ name) :
    LastValue name (before ++ (name, value) :: after) value

/-- The number that a value stands for: the one that it spells, or zero if it is empty. -/
inductive Counts : String → Int → Prop
  | empty : Counts "" 0
  | spelled {value : String} {n : Int} (spelled : Decimal.Spelled value.toList n) : Counts value n

structure AsksFor (query : String) (limit offset : Int) : Prop where
  limit : ∃ value, LastValue "limit" (Form.parse query) value ∧ Counts value limit
  offset : ∃ value, LastValue "offset" (Form.parse query) value ∧ Counts value offset

def given (value : String) : Option String := if value = "" then none else some value

section Values
variable {name value : String} {pairs : List (String × String)}

theorem lookup_of_absent (none : ∀ pair ∈ pairs, pair.1 ≠ name) : pairs.lookup name = .none :=
  List.lookup_eq_none_iff.mpr fun pair inside => by simpa using Ne.symm (none pair inside)

theorem LastValue.lastValue?_getD (last : LastValue name pairs value) :
    (lastValue? name pairs).getD "" = value := by
  cases last with
  | absent none =>
    rw [lastValue?, lookup_of_absent]
    · rfl
    · exact fun pair inside => none pair (List.mem_reverse.mp inside)
  | @last before after value none =>
    have behind : after.reverse.lookup name = .none :=
      lookup_of_absent fun pair inside => none pair (List.mem_reverse.mp inside)
    rw [lastValue?, List.reverse_append, List.reverse_cons, List.lookup_append, List.lookup_append,
      behind]
    simp

theorem LastValue.value?_eq (last : LastValue name pairs value) :
    value? name pairs = given value := by
  rw [value?, given, ← last.lastValue?_getD]
  cases lastValue? name pairs with
  | none => rfl
  | some found => simp [Option.filter]

theorem exists_lastValue (name : String) (pairs : List (String × String)) :
    ∃ value, LastValue name pairs value := by
  induction pairs with
  | nil => exact ⟨"", .absent (by simp)⟩
  | cons pair pairs ih =>
    obtain ⟨value, last⟩ := ih
    cases last with
    | @last before after value none => exact ⟨value, @LastValue.last name (pair :: before) _ _ none⟩
    | absent none =>
      by_cases here : pair.1 = name
      · obtain ⟨key, value⟩ := pair
        obtain rfl : key = name := here
        exact ⟨value, @LastValue.last key [] _ _ none⟩
      · exact ⟨"", .absent (List.forall_mem_cons.mpr ⟨here, none⟩)⟩

theorem LastValue.unique {other : String} (one : LastValue name pairs value)
    (two : LastValue name pairs other) : value = other := by
  rw [← one.lastValue?_getD, two.lastValue?_getD]

end Values

/-! ## Numbers -/

section Numbers
variable {value : String} {n : Nat} {m : Int}

theorem counts_empty_iff : Counts "" m ↔ m = 0 := by
  constructor
  · intro counts
    cases counts with
    | empty => rfl
    | spelled spelled =>
      cases spelled with
      | bare row => exact absurd rfl row.nonempty
  · rintro rfl
    exact .empty

theorem counts_iff_spelled (some : value ≠ "") :
    Counts value m ↔ Decimal.Spelled value.toList m := by
  constructor
  · intro counts
    cases counts with
    | empty => exact absurd rfl some
    | spelled spelled => exact spelled
  · exact .spelled

theorem Counts.unique {other : Int} (one : Counts value m) (two : Counts value other) :
    m = other := by
  by_cases empty : value = ""
  · subst empty
    rw [counts_empty_iff.mp one, counts_empty_iff.mp two]
  · exact ((counts_iff_spelled empty).mp one).unique ((counts_iff_spelled empty).mp two)

theorem AsksFor.unique {query : String} {limit offset limit' offset' : Int}
    (one : AsksFor query limit offset) (two : AsksFor query limit' offset') :
    limit = limit' ∧ offset = offset' := by
  obtain ⟨⟨_, last, counts⟩, ⟨_, lastOffset, countsOffset⟩⟩ := one
  obtain ⟨⟨_, last', counts'⟩, ⟨_, lastOffset', countsOffset'⟩⟩ := two
  rw [last.unique last'] at counts
  rw [lastOffset.unique lastOffset'] at countsOffset
  exact ⟨counts.unique counts', countsOffset.unique countsOffset'⟩

theorem fitsSigned_iff : Decimal.FitsSigned 64 n ↔ n < 2 ^ 63 := by
  rw [Decimal.FitsSigned]
  constructor
  · rintro ⟨-, high⟩
    exact_mod_cast high
  · intro high
    exact ⟨by omega, by exact_mod_cast high⟩

theorem readInteger_eq_ok {parameter : String} :
    readInteger parameter value = .ok m ↔ Denotes value m := by
  rcases readInteger_cases parameter value with ⟨read, denotes, same⟩ | ⟨unread, same⟩
  · rw [same, Except.ok.injEq]
    constructor
    · rintro rfl
      exact denotes
    · exact fun other => denotes.1.unique other.1
  · rw [same]
    exact iff_of_false (by simp) (unread m)

/-- A number that may be taken if it is none below zero. -/
theorem taken_eq_ok {parameter : String} {takes : Int → Prop} [DecidablePred takes]
    {reason : Int → ParameterError} (natural : ∀ m, takes m → 0 ≤ m) (some : value ≠ "") :
    (do let number ← readInteger parameter value
        if takes number then return number.toNat else .error (reason number)) = .ok n ↔
      Counts value n ∧ takes n ∧ n < 2 ^ 63 := by
  rw [bind_eq_ok, counts_iff_spelled some, ← fitsSigned_iff]
  constructor
  · rintro ⟨m, read, taken⟩
    split at taken
    next takes =>
      obtain rfl : m = n := by
        have same := pure_eq_ok.mp taken
        have positive := natural m takes
        omega
      obtain ⟨spelled, fits⟩ := readInteger_eq_ok.mp read
      exact ⟨spelled, takes, fits⟩
    next => cases taken
  · rintro ⟨spelled, takes, fits⟩
    refine ⟨n, readInteger_eq_ok.mpr ⟨spelled, fits⟩, ?_⟩
    rw [if_pos takes]
    rfl

/-- No value is read as zero, and so is the empty one. -/
theorem given_eq_ok {reads : Option String → Except ParameterError Nat}
    (absent : reads none = .ok 0) {fits : Nat → Prop} (zero : fits 0)
    (filled : value ≠ "" → (reads (some value) = .ok n ↔ Counts value n ∧ fits n)) :
    reads (given value) = .ok n ↔ Counts value n ∧ fits n := by
  by_cases empty : value = ""
  · subst empty
    have none : reads (given "") = .ok 0 := absent
    rw [counts_empty_iff, Int.natCast_eq_zero, none, Except.ok.injEq]
    constructor
    · rintro rfl
      exact ⟨rfl, zero⟩
    · rintro ⟨rfl, -⟩
      rfl
  · rw [given, if_neg empty]
    exact filled empty

theorem readLimit_eq_ok {api : ApiSettings} :
    readLimit api (given value) = .ok n ↔ Counts value n ∧ n ≤ api.maxLimit ∧ n < 2 ^ 63 := by
  apply given_eq_ok rfl ⟨Nat.zero_le _, by decide⟩
  intro some
  rw [readLimit, taken_eq_ok (fun m range => range.1) some]
  simp

theorem readOffset_eq_ok :
    readOffset (given value) = .ok n ↔ Counts value n ∧ n < 2 ^ 63 := by
  apply given_eq_ok rfl (by decide)
  intro some
  rw [readOffset, taken_eq_ok (fun m range => range) some]
  simp

end Numbers

theorem read_eq_ok {api : ApiSettings} {query : String} {paging : Paging} :
    read api query = .ok paging ↔ ∃ limit offset : Nat, AsksFor query limit offset ∧
      limit ≤ api.maxLimit ∧ limit < 2 ^ 63 ∧ offset < 2 ^ 63 ∧
        paging = ⟨if limit = 0 then api.defaultLimit else limit, offset⟩ := by
  obtain ⟨limitValue, lastLimit⟩ := exists_lastValue "limit" (Form.parse query)
  obtain ⟨offsetValue, lastOffset⟩ := exists_lastValue "offset" (Form.parse query)
  have asks {limit offset : Int} :
      AsksFor query limit offset ↔ Counts limitValue limit ∧ Counts offsetValue offset := by
    constructor
    · rintro ⟨⟨_, last, counts⟩, ⟨_, last', counts'⟩⟩
      rw [lastLimit.unique last, lastOffset.unique last']
      exact ⟨counts, counts'⟩
    · rintro ⟨counts, counts'⟩
      exact ⟨⟨_, lastLimit, counts⟩, ⟨_, lastOffset, counts'⟩⟩
  simp only [read, bind_eq_ok, lastLimit.value?_eq, lastOffset.value?_eq, readLimit_eq_ok,
    readOffset_eq_ok, pure_eq_ok, asks]
  constructor
  · rintro ⟨limit, ⟨counts, within, small⟩, offset, ⟨counts', small'⟩, same⟩
    exact ⟨limit, offset, ⟨counts, counts'⟩, within, small, small', same⟩
  · rintro ⟨limit, offset, ⟨counts, counts'⟩, within, small, small', same⟩
    exact ⟨limit, ⟨counts, within, small⟩, offset, ⟨counts', small'⟩, same⟩

/-- A query gets a stretch exactly when it asks for numbers from zero on, the limit within the
settings, that a word with a sign holds; the stretch is the one that it asks for, or starts
with the limit of the settings if the limit is zero. -/
theorem ofQuery_eq_ok (reporter : Reporter) (ambient : Ambient) (api : ApiSettings)
    (query : Option String) (paging : Paging) :
    ofQuery reporter ambient api query = .ok paging ↔
      ∃ limit offset : Nat, AsksFor (query.getD "") limit offset ∧
        limit ≤ api.maxLimit ∧ limit < 2 ^ 63 ∧ offset < 2 ^ 63 ∧
          paging = ⟨if limit = 0 then api.defaultLimit else limit, offset⟩ := by
  rw [ofQuery, mapError_eq_ok, read_eq_ok]

theorem asksFor_wide : AsksFor "offset=9223372036854775808" (0 : Nat) (2 ^ 63 : Nat) := by
  have pairs : Form.parse "offset=9223372036854775808" = [("offset", "9223372036854775808")] := by
    decide +kernel
  have wide : Decimal.readSigned 65 "9223372036854775808".toList = .ok (2 ^ 63 : Nat) := by
    decide +kernel
  constructor
  · rw [pairs]
    exact ⟨"", .absent (by simp), .empty⟩
  · rw [pairs]
    exact ⟨_, @LastValue.last "offset" [] [] _ (by simp),
      .spelled (Decimal.readSigned_eq_ok.mp wide).1⟩

/-- A word without a sign holds more: the offset `2 ^ 63` is refused as no integer, although
stretches have offsets below `2 ^ 64`. -/
theorem wide_offset_refused :
    ¬ ∀ (reporter : Reporter) (ambient : Ambient) (api : ApiSettings) (query : Option String),
      Config.apiFlaw? api = none → ∀ paging, ofQuery reporter ambient api query = .ok paging ↔
        ∃ limit offset : Nat, AsksFor (query.getD "") limit offset ∧
          limit ≤ api.maxLimit ∧ offset < 2 ^ 64 ∧
            paging = ⟨if limit = 0 then api.defaultLimit else limit, offset⟩ := by
  intro all
  have taken := (all ⟨.builtin, .detached⟩ ⟨⟨"", ""⟩, .off⟩ .standard
    (some "offset=9223372036854775808") (by decide) ⟨20, 2 ^ 63⟩).mpr
    ⟨0, 2 ^ 63, asksFor_wide, by decide, by decide, rfl⟩
  have refused : read .standard "offset=9223372036854775808" =
      .error (.notAnInteger "offset" "9223372036854775808") := by
    decide +kernel
  rw [ofQuery, mapError_eq_ok, Option.getD_some, refused] at taken
  cases taken

end FaultMesh.Paging
