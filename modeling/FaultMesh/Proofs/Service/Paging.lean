import FaultMesh.Proofs.Decimal.Integers
import FaultMesh.Proofs.Http.Target
import FaultMesh.Proofs.Outcome
import FaultMesh.Proofs.Url.Form
import FaultMesh.Service.Paging

/-!
# Asking for a stretch

A limit and an offset are written into a query in decimal digits.  If they are in range they
are read back from it.
-/

set_option autoImplicit false

namespace FaultMesh.Paging

def query (paging : Paging) : String :=
  "limit=" ++ toString paging.limit ++ "&offset=" ++ toString paging.offset

/-- A stretch that can be asked for: its limit is in range, and both numbers are words with
a sign. -/
structure InRange (api : ApiSettings) (paging : Paging) : Prop where
  positive : 0 < paging.limit
  within : paging.limit ≤ api.maxLimit
  limit : paging.limit < 2 ^ 63
  offset : paging.offset < 2 ^ 63

theorem ofList_toDigits (n : Nat) : String.ofList (Nat.toDigits 10 n) = n.repr := by
  rw [← Nat.toList_repr, String.ofList_toList]

theorem plain_digits (n : Nat) : Form.Plain (Nat.toDigits 10 n) := by
  have digits (c : Char) (other : Text.isDigit c = false) : c ∉ Nat.toDigits 10 n := by
    intro inside
    rw [Decimal.isDigit_toDigits n c inside] at other
    cases other
  exact ⟨digits '&' (by decide), digits '=' (by decide), digits '+' (by decide),
    digits '%' (by decide)⟩

def pairs (paging : Paging) : List (List Char × List Char) :=
  [("limit".toList, Nat.toDigits 10 paging.limit), ("offset".toList, Nat.toDigits 10 paging.offset)]

theorem query_eq (paging : Paging) :
    paging.query = String.ofList (List.intercalate ['&'] (paging.pairs.map Form.written)) := by
  apply String.toList_injective
  simp [query, pairs, Form.written, ← Nat.toList_repr]

theorem parse_query (paging : Paging) :
    Form.parse paging.query =
      [("limit", paging.limit.repr), ("offset", paging.offset.repr)] := by
  have plain : ∀ pair ∈ paging.pairs, Form.Plain pair.1 ∧ Form.Plain pair.2 := by
    have limit : Form.Plain "limit".toList := ⟨by decide, by decide, by decide, by decide⟩
    have offset : Form.Plain "offset".toList := ⟨by decide, by decide, by decide, by decide⟩
    intro pair inside
    rw [pairs, List.mem_cons, List.mem_singleton] at inside
    rcases inside with rfl | rfl
    · exact ⟨limit, plain_digits paging.limit⟩
    · exact ⟨offset, plain_digits paging.offset⟩
  have some : paging.pairs ≠ [] := List.cons_ne_nil _ _
  rw [query_eq, Form.parse_written some plain]
  simp only [pairs, List.map_cons, List.map_nil, ofList_toDigits, String.ofList_toList]

theorem readInteger_repr (parameter : String) {n : Nat} (fits : n < 2 ^ 63) :
    readInteger parameter n.repr = .ok (n : Int) := by
  have word : Decimal.FitsSigned 64 n := ⟨by simp, by exact_mod_cast fits⟩
  rw [readInteger, Nat.toList_repr, Decimal.readSigned_toDigits word]

theorem readLimit_repr {api : ApiSettings} {limit : Nat} (within : limit ≤ api.maxLimit)
    (fits : limit < 2 ^ 63) : readLimit api (some limit.repr) = .ok limit := by
  have bounds : 0 ≤ (limit : Int) ∧ (limit : Int) ≤ api.maxLimit := by omega
  exact bind_eq_ok.mpr ⟨limit, readInteger_repr _ fits, if_pos bounds⟩

theorem readOffset_repr {offset : Nat} (fits : offset < 2 ^ 63) :
    readOffset (some offset.repr) = .ok offset := by
  have bound : 0 ≤ (offset : Int) := Int.natCast_nonneg offset
  exact bind_eq_ok.mpr ⟨offset, readInteger_repr _ fits, if_pos bound⟩

theorem value?_of_last {name : String} {pairs : List (String × String)} {n : Nat}
    (last : lastValue? name pairs = some n.repr) : value? name pairs = some n.repr := by
  rw [value?, last]
  simp

theorem read_query {api : ApiSettings} {paging : Paging} (inRange : InRange api paging) :
    read api paging.query = .ok paging := by
  have limit : value? "limit" (Form.parse paging.query) = some paging.limit.repr := by
    rw [parse_query]
    exact value?_of_last rfl
  have offset : value? "offset" (Form.parse paging.query) = some paging.offset.repr := by
    rw [parse_query]
    exact value?_of_last rfl
  have given : paging.limit ≠ 0 := Nat.pos_iff_ne_zero.mp inRange.positive
  rw [read, limit, offset]
  refine bind_eq_ok.mpr ⟨_, readLimit_repr inRange.within inRange.limit, ?_⟩
  refine bind_eq_ok.mpr ⟨_, readOffset_repr inRange.offset, ?_⟩
  rw [if_neg given]
  rfl

theorem isQueryChar_of_isDigit {c : Char} (digit : Text.isDigit c = true) :
    Http.Target.isQueryChar c = true := by
  have bounds := digit
  rw [Decimal.isDigit_eq, Char.isDigit_iff_toNat] at bounds
  have low : '0'.toNat = 48 := rfl
  have other (mark : Char) (none : Text.isDigit mark = false) : c ≠ mark := by
    rintro rfl
    rw [digit] at none
    cases none
  simp [Http.Target.isQueryChar, other '"' (by decide), other '#' (by decide),
    other '<' (by decide), other '>' (by decide)]
  omega

theorem queryChars_query (paging : Paging) :
    paging.query.toList.all Http.Target.isQueryChar = true := by
  have digits (n : Nat) : n.repr.toList.all Http.Target.isQueryChar = true := by
    rw [Nat.toList_repr, List.all_eq_true]
    exact fun c inside => isQueryChar_of_isDigit (Decimal.isDigit_toDigits n c inside)
  have names : "limit=".toList.all Http.Target.isQueryChar = true ∧
      "&offset=".toList.all Http.Target.isQueryChar = true := by
    decide
  simp only [query, String.toList_append, List.all_append, Bool.and_eq_true]
  exact ⟨⟨⟨names.1, digits _⟩, names.2⟩, digits _⟩

theorem length_query {paging : Paging} (limit : paging.limit < 2 ^ 63)
    (offset : paging.offset < 2 ^ 63) : paging.query.toList.length ≤ 52 := by
  have digits {n : Nat} (fits : n < 2 ^ 63) : n.repr.toList.length ≤ 19 := by
    rw [Nat.toList_repr, Nat.length_toDigits_le_iff (by decide) (by decide)]
    omega
  have names : "limit=".toList.length = 6 ∧ "&offset=".toList.length = 8 := by decide
  have first := digits limit
  have second := digits offset
  rw [query, String.toList_append, String.toList_append, String.toList_append, List.length_append,
    List.length_append, List.length_append, names.1, names.2]
  change 6 + paging.limit.repr.toList.length + 8 + paging.offset.repr.toList.length ≤ 52
  omega

end FaultMesh.Paging
