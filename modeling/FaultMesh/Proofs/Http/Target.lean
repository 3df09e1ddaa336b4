import FaultMesh.Http.Target
import FaultMesh.Proofs.Text.Cut

/-!
# Targets of paths

A path and a query with a question mark between them are read back from the target that
they are written to.
-/

set_option autoImplicit false

namespace FaultMesh.Http.Target

theorem utf8ByteSize_le (text : List Char) :
    (String.ofList text).utf8ByteSize ≤ 4 * text.length := by
  induction text with
  | nil => simp
  | cons c text ih =>
    have one := c.utf8Size_le_four
    have size : (String.ofList (c :: text)).utf8ByteSize =
        c.utf8Size + (String.ofList text).utf8ByteSize := by
      rw [String.ofList_cons, String.utf8ByteSize_append, String.utf8ByteSize_singleton]
    rw [size, List.length_cons]
    omega

theorem not_mem_of_all {holds : Char → Bool} {text : List Char} (all : text.all holds = true)
    {c : Char} (fails : holds c = false) : c ∉ text := by
  intro inside
  rw [List.all_eq_true.mp all c inside] at fails
  cases fails

variable {path query : List Char}

theorem readPath?_slash (pathChars : path.all isPathChar = true)
    (queryChars : query.all isQueryChar = true) :
    readPath? ('/' :: path ++ '?' :: query) =
      some ⟨String.ofList ('/' :: path), some (String.ofList query)⟩ := by
  have slashed : ('/' :: path).all isPathChar = true := by
    rw [List.all_cons, pathChars]
    decide
  have mark : '?' ∉ '/' :: path := not_mem_of_all slashed (by decide)
  have hash : '#' ∉ '/' :: path ++ '?' :: query := by
    intro inside
    rcases List.mem_append.mp inside with first | second
    · exact not_mem_of_all slashed (by decide) first
    rcases List.mem_cons.mp second with same | rest
    · exact absurd same (by decide)
    · exact not_mem_of_all queryChars (by decide) rest
  rw [readPath?, Text.before_of_not_mem hash, Text.splitOnce?_append mark]
  simp [slashed, queryChars]

theorem read?_slash (pathChars : path.all isPathChar = true)
    (queryChars : query.all isQueryChar = true)
    (short : (String.ofList ('/' :: path ++ '?' :: query)).utf8ByteSize ≤ limit) :
    read? (String.ofList ('/' :: path ++ '?' :: query)) =
      some ⟨String.ofList ('/' :: path), some (String.ofList query)⟩ := by
  rw [read?, if_neg (Nat.not_lt.mpr short), String.toList_ofList]
  exact readPath?_slash pathChars queryChars

theorem read?_path (pathChars : path.all isPathChar = true)
    (queryChars : query.all isQueryChar = true)
    (short : 4 * (path.length + query.length + 2) ≤ limit) :
    read? (String.ofList ('/' :: path ++ '?' :: query)) =
      some ⟨String.ofList ('/' :: path), some (String.ofList query)⟩ := by
  have size := utf8ByteSize_le ('/' :: path ++ '?' :: query)
  have length : ('/' :: path ++ '?' :: query).length = path.length + query.length + 2 := by
    simp
    omega
  exact read?_slash pathChars queryChars (by omega)

end FaultMesh.Http.Target
