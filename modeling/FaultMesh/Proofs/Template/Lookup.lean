import FaultMesh.Proofs.Template.Pieces
import FaultMesh.Proofs.Text.Blank
import FaultMesh.Proofs.Text.CaseFold
import FaultMesh.Proofs.Text.Cut

/-!
# Look-ups

What may stand between the braces of a template: the root and one or more names behind dots,
with blanks around them.  The parts of a look-up are found again in its text.
-/

set_option autoImplicit false

namespace FaultMesh.Template

/-- A letter from `A` to `Z` or from `a` to `z`, or the underscore. -/
def StartsName (c : Char) : Prop := ('A' ≤ c ∧ c ≤ 'Z') ∨ ('a' ≤ c ∧ c ≤ 'z') ∨ c = '_'

/-- One character that starts a name, and any number of these and of digits. -/
def IsIdentifier : List Char → Prop
  | [] => False
  | c :: rest => StartsName c ∧ ∀ d ∈ rest, StartsName d ∨ ('0' ≤ d ∧ d ≤ '9')

theorem isNameStart_iff {c : Char} : isNameStart c = true ↔ StartsName c := by
  simp only [isNameStart, Text.isLetter, Bool.or_eq_true, Bool.and_eq_true, decide_eq_true_eq,
    StartsName]
  rw [or_assoc, or_left_comm]

theorem isNameChar_iff {c : Char} :
    isNameChar c = true ↔ StartsName c ∨ ('0' ≤ c ∧ c ≤ '9') := by
  rw [← isNameStart_iff]
  simp only [isNameChar, isNameStart, Text.isAlphanumeric, Text.isDigit, Bool.or_eq_true,
    Bool.and_eq_true, decide_eq_true_eq]
  rw [or_right_comm]

theorem isName_iff {name : List Char} : isName name = true ↔ IsIdentifier name := by
  cases name with
  | nil => simp [isName, IsIdentifier]
  | cons c rest =>
    simp only [isName, IsIdentifier, Bool.and_eq_true, List.all_eq_true, isNameStart_iff,
      isNameChar_iff]

theorem IsIdentifier.isNameChar {name : List Char} (named : IsIdentifier name) :
    ∀ c ∈ name, isNameChar c = true := by
  cases name with
  | nil => exact fun c none => absurd none List.not_mem_nil
  | cons first rest =>
    intro c inside
    rw [isNameChar_iff]
    rcases List.mem_cons.mp inside with rfl | inside
    · exact .inl named.1
    · exact named.2 c inside

theorem lt_of_isNameChar {c : Char} (named : isNameChar c = true) : c.toNat < 0x7F := by
  have upTo {last : Char} (le : c ≤ last) (low : last.toNat < 0x7F) : c.toNat < 0x7F :=
    Nat.lt_of_le_of_lt le low
  rcases isNameChar_iff.mp named with (upper | lower | rfl) | digit
  · exact upTo upper.2 (by decide)
  · exact upTo lower.2 (by decide)
  · decide
  · exact upTo digit.2 (by decide)

/-- Names hold no dots, no blanks and no braces. -/
theorem other_of_isNameChar {c : Char} (named : isNameChar c = true) :
    c ≠ '.' ∧ Text.isBlank c = false ∧ c ≠ '\x7d' := by
  have table : ∀ n ∈ List.range' 0 0x7F, isNameChar (Char.ofNat n) = true →
      Char.ofNat n ≠ '.' ∧ Text.isBlank (Char.ofNat n) = false ∧ Char.ofNat n ≠ '\x7d' := by
    decide +kernel
  exact Text.of_range
    (P := fun c => isNameChar c = true → c ≠ '.' ∧ Text.isBlank c = false ∧ c ≠ '\x7d') table
    (Nat.zero_le _) (by simpa using lt_of_isNameChar named) named

/-! ## Look-ups -/

/-- What stands between the braces of an action that looks a path up: blanks, the root, one
or more names behind dots, and blanks. -/
structure Lookup where
  before : List Char
  key : List Char
  path : List (List Char)
  after : List Char
  blankBefore : ∀ c ∈ before, Text.isBlank c = true
  named : ∀ name ∈ key :: path, IsIdentifier name
  blankAfter : ∀ c ∈ after, Text.isBlank c = true

def dotted (names : List (List Char)) : List Char :=
  names.flatMap ('.' :: ·)

namespace Lookup

def names (lookup : Lookup) : List (List Char) := lookup.key :: lookup.path

def core (lookup : Lookup) : List Char := ".Data".toList ++ dotted lookup.names

def text (lookup : Lookup) : List Char := lookup.before ++ (lookup.core ++ lookup.after)

def fieldPath (lookup : Lookup) : List String := lookup.names.map String.ofList

end Lookup

/-- May stand between the braces of a template. -/
def IsLookup (action : List Char) : Prop := ∃ lookup : Lookup, lookup.text = action

theorem dotted_eq_intercalate (names : List (List Char)) :
    dotted names = List.intercalate ['.'] ([] :: names) :=
  Text.flatMap_eq_intercalate names

theorem split_dotted {names : List (List Char)} (named : ∀ name ∈ names, IsIdentifier name) :
    List.splitOn '.' (dotted names) = [] :: names := by
  rw [dotted_eq_intercalate, List.splitOn_intercalate '.' ?_ (by simp)]
  intro name member inside
  rcases List.mem_cons.mp member with rfl | member
  · cases inside
  · exact (other_of_isNameChar ((named name member).isNameChar _ inside)).1 rfl

namespace Lookup

variable (lookup : Lookup)

theorem plain_core : ∀ c ∈ lookup.core, Text.isBlank c = false ∧ c ≠ '\x7d' := by
  intro c inside
  rcases List.mem_append.mp inside with root | behind
  · have table : ∀ c ∈ ".Data".toList, Text.isBlank c = false ∧ c ≠ '\x7d' :=
      Text.of_row (by decide)
    exact table c root
  obtain ⟨name, member, here⟩ := List.mem_flatMap.mp behind
  rcases List.mem_cons.mp here with rfl | here
  · decide
  · exact (other_of_isNameChar ((lookup.named name member).isNameChar c here)).2

/-- No brace ends a look-up before its own pair does. -/
theorem leads_text : Leads '\x7d' lookup.text := by
  have notBlank : Text.isBlank '\x7d' = false := by decide
  refine leads_of_not_mem fun inside => ?_
  rcases List.mem_append.mp inside with before | inside
  · rw [lookup.blankBefore _ before] at notBlank
    cases notBlank
  rcases List.mem_append.mp inside with core | after
  · exact (lookup.plain_core _ core).2 rfl
  · rw [lookup.blankAfter _ after] at notBlank
    cases notBlank

theorem trim_text : Text.trim lookup.text = lookup.core := by
  refine Text.trim_append lookup.blankBefore lookup.blankAfter ?_ ?_
  · exact fun c first => (lookup.plain_core c (List.mem_of_head? first)).1
  · exact fun c last => (lookup.plain_core c (List.mem_of_getLast? last)).1

theorem split_names : List.splitOn '.' (dotted lookup.names) = [] :: lookup.names :=
  split_dotted lookup.named

theorem lookupPath?_text : lookupPath? lookup.text = some lookup.fieldPath := by
  have named : lookup.names.all isName = true :=
    List.all_eq_true.mpr fun name member => isName_iff.mpr (lookup.named name member)
  have rooted : lookup.core = '.' :: 'D' :: 'a' :: 't' :: 'a' :: dotted lookup.names := rfl
  have pieces : List.splitOn '.' (dotted lookup.names) = [] :: lookup.key :: lookup.path :=
    lookup.split_names
  simp only [lookupPath?, lookup.trim_text, rooted, pieces]
  exact if_pos named

theorem trimStart_text : Text.trimStart lookup.text = lookup.core ++ lookup.after := by
  rw [text, Text.trimStart_append lookup.blankBefore, Text.trimStart_of_head]
  intro c first
  rw [core, List.append_assoc] at first
  obtain rfl := Option.some.inj first
  decide

theorem text_injective {other : Lookup} (same : lookup.text = other.text) : lookup = other := by
  have core : lookup.core = other.core := by rw [← trim_text, ← trim_text, same]
  have names : lookup.names = other.names := by
    have pieces := congrArg (List.splitOn '.') (List.append_cancel_left core)
    rw [split_names, split_names] at pieces
    exact (List.cons.inj pieces).2
  have after : lookup.after = other.after := by
    have rest := congrArg Text.trimStart same
    rw [trimStart_text, trimStart_text, core] at rest
    exact List.append_cancel_left rest
  have before : lookup.before = other.before := by
    rw [text, text, core, after] at same
    exact List.append_cancel_right same
  obtain ⟨key, path⟩ := List.cons.inj names
  cases lookup
  cases other
  simp_all

end Lookup

theorem trim_of_lookupPath? {action : List Char} {path : List String}
    (found : lookupPath? action = some path) :
    ∃ key names, (∀ name ∈ key :: names, IsIdentifier name) ∧
      Text.trim action = ".Data".toList ++ dotted (key :: names) ∧
        (key :: names).map String.ofList = path := by
  rw [lookupPath?] at found
  split at found
  next rest root =>
    split at found
    next key names pieces =>
      split at found
      next named =>
        have behind : rest = dotted (key :: names) := by
          rw [dotted_eq_intercalate, ← pieces, List.intercalate_splitOn]
        refine ⟨key, names, ?_, ?_, Option.some.inj found⟩
        · exact fun name member => isName_iff.mp (List.all_eq_true.mp named name member)
        · rw [root, behind]
          rfl
      next => cases found
    next => cases found
  next => cases found

theorem lookupPath?_eq_some_iff {action : List Char} {path : List String} :
    lookupPath? action = some path ↔
      ∃ lookup : Lookup, lookup.text = action ∧ lookup.fieldPath = path := by
  constructor
  · intro found
    obtain ⟨key, names, named, core, read⟩ := trim_of_lookupPath? found
    obtain ⟨before, after, blankBefore, blankAfter, whole⟩ := Text.exists_trim action
    rw [core] at whole
    exact ⟨⟨before, key, names, after, blankBefore, named, blankAfter⟩, whole.symm, read⟩
  · rintro ⟨lookup, rfl, rfl⟩
    exact lookup.lookupPath?_text

end FaultMesh.Template
