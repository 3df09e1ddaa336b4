import FaultMesh.Network.Address
import FaultMesh.Proofs.Decimal.Digits
import FaultMesh.Proofs.Text.Cut

/-!
# Addresses that were written

An address of eight groups is read back from its groups.  The run of zeros that was left out
comes back, because no other place of the text holds two colons in a row.
-/

set_option autoImplicit false

namespace FaultMesh

section Digits
variable {base : Nat}

theorem hexValue_digitChar {digit : Nat} (small : digit < 16) :
    Text.isHexDigit digit.digitChar = true ∧ Text.hexValue digit.digitChar = digit := by
  have all : ∀ digit ∈ List.range 16,
      Text.isHexDigit (Nat.digitChar digit) = true ∧ Text.hexValue (Nat.digitChar digit) = digit := by
    decide
  exact all digit (List.mem_range.mpr small)

theorem hexValue_toDigits (several : 1 < base) (le : base ≤ 16) (n : Nat) :
    ∀ c ∈ Nat.toDigits base n, Text.isHexDigit c = true ∧ Text.hexValue c < base := by
  have one (digit : Nat) (small : digit < base) :
      ∀ c ∈ Nat.toDigits base digit, Text.isHexDigit c = true ∧ Text.hexValue c < base := by
    intro c inside
    rw [Nat.toDigits_of_lt_base small, List.mem_singleton] at inside
    obtain ⟨digits, value⟩ := hexValue_digitChar (Nat.lt_of_lt_of_le small le)
    rw [inside, value]
    exact ⟨digits, small⟩
  induction n using Nat.base_induction base several with
  | single digit small => exact one digit small
  | digit m digit small upper ih =>
    intro c inside
    rw [← Nat.toDigits_append_toDigits several upper small] at inside
    rcases List.mem_append.mp inside with front | last
    · exact ih c front
    · exact one digit small c last

theorem foldl_toDigits (several : 1 < base) (le : base ≤ 16) (n : Nat) :
    (Nat.toDigits base n).foldl (fun value c => value * base + Text.hexValue c) 0 = n := by
  induction n using Nat.base_induction base several with
  | single digit small =>
    rw [Nat.toDigits_of_lt_base small]
    simp [(hexValue_digitChar (Nat.lt_of_lt_of_le small le)).2]
  | digit m digit small upper ih =>
    rw [← Nat.toDigits_append_toDigits several upper small, List.foldl_append, ih,
      Nat.toDigits_of_lt_base small]
    simp [(hexValue_digitChar (Nat.lt_of_lt_of_le small le)).2, Nat.mul_comm]

end Digits

namespace Ipv4

theorem toList_render (address : Ipv4) :
    address.render.toList = List.intercalate ['.']
      ([address.a, address.b, address.c, address.d].map fun part =>
        Nat.toDigits 10 part.toNat) := by
  have digits (part : UInt8) : (toString part).toList = Nat.toDigits 10 part.toNat :=
    Nat.toList_repr
  have dot : (toString ".").toList = ['.'] := rfl
  simp only [render, String.toList_append, digits, dot, List.map_cons, List.map_nil,
    List.intercalate_cons_cons, List.intercalate_singleton, List.append_assoc]

/-- The number of 32 bits that four numbers are. -/
def value (address : Ipv4) : Nat :=
  address.d.toNat + address.a.toNat * 256 ^ 3 + address.b.toNat * 256 ^ 2 +
    address.c.toNat * 256

theorem ofValue_value (address : Ipv4) : ofValue address.value = address := by
  obtain ⟨a, b, c, d⟩ := address
  have one := a.toNat_lt
  have two := b.toNat_lt
  have three := c.toNat_lt
  have four := d.toNat_lt
  simp only [value, ofValue, Nat.shiftRight_eq_div_pow, Ipv4.mk.injEq]
  refine ⟨?_, ?_, ?_, ?_⟩ <;>
  · rw [← UInt8.toNat_inj, UInt8.toNat_ofNat']
    omega

end Ipv4

/-! ## Eight groups -/

namespace Ipv6

theorem readGroup?_hexGroup (group : UInt16) : readGroup? (hexGroup group) = some group := by
  have below : group.toNat < 16 ^ 4 := group.toNat_lt
  have length := (Nat.length_toDigits_le_iff (by decide : 1 < 16) (by decide : 0 < 4)).mpr below
  have digits := hexValue_toDigits (by decide : 1 < 16) (Nat.le_refl 16) group.toNat
  have all : (hexGroup group).all Text.isHexDigit = true :=
    List.all_eq_true.mpr fun c inside => (digits c inside).1
  have some : (hexGroup group).isEmpty = false := by
    rw [List.isEmpty_eq_false_iff]
    exact Nat.toDigits_ne_nil
  rw [readGroup?, if_neg]
  · rw [hexGroup, foldl_toDigits (by decide) (Nat.le_refl 16), UInt16.ofNat_toNat]
  · rw [all, some]
    rw [hexGroup]
    simpa using length

theorem ne_of_mem_hexGroup {group : UInt16} {c mark : Char} (inside : c ∈ hexGroup group)
    (other : Text.isHexDigit mark = false) : c ≠ mark := by
  rintro rfl
  have digit := (hexValue_toDigits (by decide) (Nat.le_refl 16) group.toNat c inside).1
  rw [digit] at other
  cases other

theorem not_mem_hexGroup {mark : Char} (other : Text.isHexDigit mark = false) (group : UInt16) :
    mark ∉ hexGroup group :=
  fun inside => ne_of_mem_hexGroup inside other rfl

theorem joinGroups_singleton (group : UInt16) : joinGroups [group] = hexGroup group :=
  List.intercalate_singleton

theorem joinGroups_cons_cons (group next : UInt16) (groups : List UInt16) :
    joinGroups (group :: next :: groups) =
      hexGroup group ++ ':' :: joinGroups (next :: groups) := by
  simp [joinGroups]

theorem mem_joinGroups {groups : List UInt16} {c : Char} (inside : c ∈ joinGroups groups) :
    c = ':' ∨ Text.isHexDigit c = true := by
  have digit {group : UInt16} (member : c ∈ hexGroup group) : Text.isHexDigit c = true :=
    (hexValue_toDigits (by decide) (Nat.le_refl 16) group.toNat c member).1
  induction groups with
  | nil => cases inside
  | cons group groups ih =>
    cases groups with
    | nil =>
      rw [joinGroups_singleton] at inside
      exact .inr (digit inside)
    | cons next groups =>
      rw [joinGroups_cons_cons] at inside
      rcases List.mem_append.mp inside with here | behind
      · exact .inr (digit here)
      rcases List.mem_cons.mp behind with colon | there
      · exact .inl colon
      · exact ih there

theorem joinGroups_begins (group : UInt16) (groups : List UInt16) :
    ∃ c rest, joinGroups (group :: groups) = c :: rest ∧ c ≠ ':' := by
  have some : hexGroup group ≠ [] := Nat.toDigits_ne_nil
  obtain ⟨c, rest, digits⟩ := List.exists_cons_of_ne_nil some
  have inside : c ∈ hexGroup group := digits ▸ List.mem_cons_self
  have first : c ≠ ':' := ne_of_mem_hexGroup inside (by decide)
  cases groups with
  | nil => exact ⟨c, rest, (joinGroups_singleton group).trans digits, first⟩
  | cons next groups =>
    refine ⟨c, rest ++ ':' :: joinGroups (next :: groups), ?_, first⟩
    rw [joinGroups_cons_cons, digits]
    rfl

theorem readParts?_hexGroups (groups : List UInt16) :
    readParts? (groups.map hexGroup) = some groups := by
  induction groups with
  | nil => rfl
  | cons group groups ih =>
    cases groups with
    | nil => simp [readParts?, readGroup?_hexGroup]
    | cons next groups =>
      rw [List.map_cons, List.map_cons, readParts?, readGroup?_hexGroup, ← List.map_cons, ih]
      · rfl
      · simp

theorem readGroups?_joinGroups (groups : List UInt16) :
    readGroups? (joinGroups groups) = some groups := by
  cases groups with
  | nil => rfl
  | cons group groups =>
    obtain ⟨c, rest, begins, -⟩ := joinGroups_begins group groups
    have pieces : List.splitOn ':' (joinGroups (group :: groups)) =
        (group :: groups).map hexGroup := by
      refine List.splitOn_intercalate ':' ?_ (by simp)
      simp only [List.mem_map]
      rintro piece ⟨other, -, rfl⟩
      exact not_mem_hexGroup (by decide) other
    rw [readGroups?, pieces, readParts?_hexGroups, begins]
    rfl

/-- The longest run lies behind as many groups as its place says. -/
theorem longestZeros_parts (index : Nat) (groups : List UInt16) :
    ∃ before after, groups = before ++ List.replicate (longestZeros index groups).2 0 ++ after ∧
      (longestZeros index groups).1 = index + before.length := by
  induction groups generalizing index with
  | nil => exact ⟨[], [], rfl, rfl⟩
  | cons group groups ih =>
    rw [longestZeros]
    by_cases longer : (longestZeros (index + 1) groups).2 ≤
        ((group :: groups).takeWhile (· = 0)).length
    · simp only [if_pos longer]
      have zeros : (group :: groups).takeWhile (· = 0) =
          List.replicate ((group :: groups).takeWhile (· = 0)).length 0 := by
        refine List.eq_replicate_of_mem fun other member => ?_
        have all := List.all_takeWhile (l := group :: groups) (p := fun n => decide (n = 0))
        simpa using List.all_eq_true.mp all other member
      refine ⟨[], (group :: groups).dropWhile (· = 0), ?_, rfl⟩
      rw [List.nil_append, ← zeros, List.takeWhile_append_dropWhile]
    · simp only [if_neg longer]
      obtain ⟨before, after, parts, start⟩ := ih (index + 1)
      refine ⟨group :: before, after, ?_, ?_⟩
      · rw [List.cons_append, List.cons_append, ← parts]
      · rw [start, List.length_cons]
        omega

theorem splitGap?_cons {c : Char} {rest : List Char}
    (single : c ≠ ':' ∨ ∃ next others, rest = next :: others ∧ next ≠ ':') :
    splitGap? (c :: rest) =
      (splitGap? rest).map fun (before, after) => (c :: before, after) := by
  rw [splitGap?]
  rintro others rfl same
  subst same
  rcases single with other | ⟨next, others, same, other⟩
  · exact other rfl
  · cases same
    exact other rfl

theorem splitGap?_append {piece : List Char} (absent : ':' ∉ piece) (rest : List Char) :
    splitGap? (piece ++ rest) =
      (splitGap? rest).map fun (before, after) => (piece ++ before, after) := by
  induction piece with
  | nil => simp
  | cons c piece ih =>
    rw [List.mem_cons, not_or] at absent
    rw [List.cons_append, splitGap?_cons (.inl (Ne.symm absent.1)), ih absent.2, Option.map_map]
    rfl

/-- There is no gap within a row of groups. -/
theorem splitGap?_joinGroups (groups : List UInt16) (rest : List Char) :
    splitGap? (joinGroups groups ++ rest) =
      (splitGap? rest).map fun (before, after) => (joinGroups groups ++ before, after) := by
  induction groups with
  | nil => simp [joinGroups]
  | cons group groups ih =>
    have absent : ':' ∉ hexGroup group := not_mem_hexGroup (by decide) group
    cases groups with
    | nil =>
      rw [joinGroups_singleton]
      exact splitGap?_append absent rest
    | cons next groups =>
      obtain ⟨c, others, begins, first⟩ := joinGroups_begins next groups
      have single : ∃ first others, joinGroups (next :: groups) ++ rest = first :: others ∧
          first ≠ ':' := ⟨c, others ++ rest, by rw [begins]; rfl, first⟩
      rw [joinGroups_cons_cons, List.append_assoc, List.cons_append, splitGap?_append absent,
        splitGap?_cons (.inr single), ih, Option.map_map, Option.map_map]
      simp [Function.comp_def]

theorem mem_renderGroups {address : Ipv6} {c : Char}
    (inside : c ∈ address.renderGroups.toList) : c = ':' ∨ Text.isHexDigit c = true := by
  rw [renderGroups] at inside
  simp only [String.toList_ofList] at inside
  split at inside
  · exact mem_joinGroups inside
  · simp only [List.mem_append, List.mem_cons, List.not_mem_nil, or_false, or_self] at inside
    rcases inside with (before | colon) | after
    · exact mem_joinGroups before
    · exact .inl colon
    · exact mem_joinGroups after

theorem read?_renderGroups (address : Ipv6) :
    read? address.renderGroups.toList = some address := by
  obtain ⟨groups, complete⟩ := address
  have whole : ofGroups? groups = some ⟨groups, complete⟩ := dif_pos complete
  obtain ⟨before, after, parts, start⟩ := longestZeros_parts 0 groups
  rw [Nat.zero_add] at start
  rw [renderGroups]
  simp only [String.toList_ofList]
  by_cases short : (longestZeros 0 groups).2 < 2
  · rw [if_pos short]
    have noGap := splitGap?_joinGroups groups []
    rw [List.append_nil] at noGap
    rw [read?, noGap]
    simp only [splitGap?, Option.map_none]
    rw [readGroups?_joinGroups, Option.bind_some, whole]
  · rw [if_neg short, start]
    generalize longestZeros 0 groups = run at parts short start
    obtain ⟨index, count⟩ := run
    dsimp only at parts short start ⊢
    have length : before.length + count + after.length = 8 := by
      rw [← complete, parts]
      simp [Nat.add_assoc]
    have first : groups.take before.length = before := by
      rw [parts, List.append_assoc, List.take_left]
    have last : groups.drop (before.length + count) = after := by
      rw [parts, List.drop_append_of_le_length, List.drop_eq_nil_of_le]
      · rfl
      · simp
      · simp
    have found : splitGap? (joinGroups before ++ [':', ':'] ++ joinGroups after) =
        some (joinGroups before, joinGroups after) := by
      rw [List.append_assoc, splitGap?_joinGroups]
      simp [splitGap?]
    have dotless : (joinGroups before).contains '.' = false := by
      rw [List.contains_eq_mem, decide_eq_false_iff_not]
      intro inside
      rcases mem_joinGroups inside with colon | digit
      · exact absurd colon (by decide)
      · exact absurd digit (by decide)
    have zeros : 8 - before.length - after.length = count := by omega
    rw [first, last, read?, found]
    simp only [readGroups?_joinGroups, Option.bind_eq_bind, Option.bind_some, dotless, zeros]
    rw [if_neg (by simp; omega), ← parts, whole]

end Ipv6

end FaultMesh
