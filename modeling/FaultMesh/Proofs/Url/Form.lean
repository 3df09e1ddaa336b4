import FaultMesh.Proofs.Text.Cut
import FaultMesh.Proofs.Text.Utf8
import FaultMesh.Url.Form

/-!
# Queries of plain pairs

Characters that mean nothing in a query stand for themselves.  A query written from pairs of
such texts is read as these pairs.
-/

set_option autoImplicit false

namespace FaultMesh

namespace Percent

theorem mem_encodeChar_percent {c : Char} (inside : (37 : UInt8) ∈ String.utf8EncodeChar c) :
    c = '%' := by
  have scalar : c.toNat < 0x110000 := by
    have valid : c.toNat < 0xD800 ∨ 0xDFFF < c.toNat ∧ c.toNat < 0x110000 := c.valid
    omega
  have octet {n : Nat} (same : (37 : UInt8) = UInt8.ofNat n) : n % 256 = 37 := by
    have value := congrArg UInt8.toNat same
    rw [UInt8.toNat_ofNat'] at value
    exact value.symm
  have value : c.val.toNat = c.toNat := rfl
  simp only [String.utf8EncodeChar, value] at inside
  -- octets of characters beyond ASCII are 128 at least
  split at inside
  · have single := octet (List.mem_singleton.mp inside)
    exact Char.toNat_inj.mp (by rw [show '%'.toNat = 37 from rfl]; omega)
  split at inside
  · simp only [List.mem_cons, List.not_mem_nil, or_false] at inside
    rcases inside with same | same <;> have := octet same <;> omega
  split at inside
  · simp only [List.mem_cons, List.not_mem_nil, or_false] at inside
    rcases inside with same | same | same <;> have := octet same <;> omega
  · simp only [List.mem_cons, List.not_mem_nil, or_false] at inside
    rcases inside with same | same | same | same <;> have := octet same <;> omega

theorem not_mem_encode {text : List Char} (absent : '%' ∉ text) :
    (37 : UInt8) ∉ Text.Utf8.encode text := by
  intro inside
  obtain ⟨c, member, octet⟩ := List.mem_flatMap.mp inside
  exact absent (mem_encodeChar_percent octet ▸ member)

theorem decode_cons_of_ne {octet : UInt8} (other : octet ≠ 37) (octets : List UInt8) :
    decode (octet :: octets) = octet :: decode octets := by
  match octets with
  | [] => rfl
  | [_] => rfl
  | _ :: _ :: _ => rw [decode, if_neg other]

theorem decode_of_not_mem {octets : List UInt8} (absent : (37 : UInt8) ∉ octets) :
    decode octets = octets := by
  induction octets with
  | nil => rfl
  | cons octet octets ih =>
    rw [List.mem_cons, not_or] at absent
    rw [decode_cons_of_ne (Ne.symm absent.1), ih absent.2]

end Percent

namespace Form

/-- A text in which nothing has a meaning of its own in a query. -/
structure Plain (text : List Char) : Prop where
  ampersand : '&' ∉ text
  equals : '=' ∉ text
  plus : '+' ∉ text
  percent : '%' ∉ text

theorem decodePart_plain {text : List Char} (plain : Plain text) :
    decodePart text = String.ofList text := by
  have spaces : (text.map fun c => if c = '+' then ' ' else c) = text := by
    refine (List.map_congr_left fun c inside => ?_).trans (List.map_id text)
    exact if_neg fun same : c = '+' => plain.plus (same ▸ inside)
  rw [decodePart, spaces, Percent.decodeText,
    Percent.decode_of_not_mem (Percent.not_mem_encode plain.percent), Text.Utf8.decodeLossy_encode]

def written (pair : List Char × List Char) : List Char := pair.1 ++ '=' :: pair.2

theorem decodePair_written {pair : List Char × List Char} (name : Plain pair.1)
    (value : Plain pair.2) :
    decodePair (written pair) = (String.ofList pair.1, String.ofList pair.2) := by
  rw [decodePair, written, Text.splitOnce?_append name.equals]
  simp only [Option.getD_some, decodePart_plain name, decodePart_plain value]

theorem parse_written {pairs : List (List Char × List Char)} (some : pairs ≠ [])
    (plain : ∀ pair ∈ pairs, Plain pair.1 ∧ Plain pair.2) :
    parse (String.ofList (List.intercalate ['&'] (pairs.map written))) =
      pairs.map fun pair => (String.ofList pair.1, String.ofList pair.2) := by
  have pieces : List.splitOn '&' (List.intercalate ['&'] (pairs.map written)) = pairs.map written := by
    refine List.splitOn_intercalate '&' ?_ (by simpa using some)
    simp only [List.mem_map]
    rintro piece ⟨pair, inside, rfl⟩
    obtain ⟨name, value⟩ := plain pair inside
    simp [written, name.ampersand, value.ampersand]
  have full : (pairs.map written).filter (fun piece => !piece.isEmpty) = pairs.map written := by
    refine List.filter_eq_self.mpr ?_
    simp only [List.mem_map]
    rintro piece ⟨pair, -, rfl⟩
    simp [written]
  rw [parse, String.toList_ofList, pieces, full, List.map_map]
  refine List.map_congr_left fun pair inside => ?_
  obtain ⟨name, value⟩ := plain pair inside
  exact decodePair_written name value

end Form

end FaultMesh
