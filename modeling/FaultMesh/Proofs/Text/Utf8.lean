import FaultMesh.Text.Utf8

/-!
# Reading encoded text

The octets of a text are read as its characters, none of them stray.  A first octet says
how many octets are owed and in which range the next one must be; the cases below go by
the length of the encoding.
-/

set_option autoImplicit false

namespace FaultMesh.Text.Utf8

private theorem toNat_octet {n : Nat} (small : n < 256) : (UInt8.ofNat n).toNat = n := by
  rw [UInt8.toNat_ofNat']
  omega

theorem lead_one {n : Nat} (small : n < 0x80) :
    lead (UInt8.ofNat n) = .inl (.scalar (Char.ofNat n)) := by
  have octet := toNat_octet (n := n) (by omega)
  rw [lead, if_pos (by rw [UInt8.lt_iff_toNat_lt, octet]; exact small), octet]

theorem lead_two {n : Nat} (low : 0xC2 ≤ n) (high : n < 0xE0) :
    lead (UInt8.ofNat n) = .inr ⟨1, 0x80, 0xBF, n - 0xC0, 1⟩ := by
  have octet := toNat_octet (n := n) (by omega)
  simp only [lead, UInt8.lt_iff_toNat_lt, octet, UInt8.reduceToNat]
  rw [if_neg (by omega), if_neg (by omega), if_pos (by omega)]

theorem lead_three {n : Nat} (low : 0xE0 ≤ n) (high : n < 0xF0) :
    lead (UInt8.ofNat n) =
      .inr ⟨2, if n = 0xE0 then 0xA0 else 0x80, if n = 0xED then 0x9F else 0xBF, n - 0xE0, 1⟩ := by
  have octet := toNat_octet (n := n) (by omega)
  simp only [lead, UInt8.lt_iff_toNat_lt, ← UInt8.toNat_inj, octet, UInt8.reduceToNat]
  rw [if_neg (by omega), if_neg (by omega), if_neg (by omega)]
  by_cases first : n = 0xE0
  · simp [first]
  by_cases surrogates : n = 0xED
  · simp [surrogates]
  · simp [first, surrogates, high]

theorem lead_four {n : Nat} (low : 0xF0 ≤ n) (high : n ≤ 0xF4) :
    lead (UInt8.ofNat n) =
      .inr ⟨3, if n = 0xF0 then 0x90 else 0x80, if n = 0xF4 then 0x8F else 0xBF, n - 0xF0, 1⟩ := by
  have octet := toNat_octet (n := n) (by omega)
  simp only [lead, UInt8.lt_iff_toNat_lt, ← UInt8.toNat_inj, octet, UInt8.reduceToNat]
  rw [if_neg (by omega), if_neg (by omega), if_neg (by omega), if_neg (by omega),
    if_neg (by omega), if_neg (by omega)]
  by_cases first : n = 0xF0
  · simp [first]
  by_cases last : n = 0xF4
  · simp [last]
  · simp only [first, last, if_false]
    rw [if_pos (by omega)]

theorem glyphsFrom_owed {owed n value width : Nat} {low high : UInt8} (rest : List UInt8)
    (small : n < 256) (above : low.toNat ≤ n) (below : n ≤ high.toNat) :
    glyphsFrom (some ⟨owed, low, high, value, width⟩) (UInt8.ofNat n :: rest) =
      if owed ≤ 1 then .scalar (Char.ofNat (value * 64 + (n - 0x80))) :: glyphsFrom none rest
      else glyphsFrom
        (some ⟨owed - 1, 0x80, 0xBF, value * 64 + (n - 0x80), width + 1⟩) rest := by
  have octet := toNat_octet small
  have inside : low ≤ UInt8.ofNat n ∧ UInt8.ofNat n ≤ high := by
    simp only [UInt8.le_iff_toNat_le, octet]
    exact ⟨above, below⟩
  simp only [glyphsFrom]
  rw [if_pos inside, octet]

theorem glyphsFrom_pending {b : UInt8} {pending : Pending} (rest : List UInt8)
    (begun : lead b = .inr pending) :
    glyphsFrom none (b :: rest) = glyphsFrom (some pending) rest := by
  simp only [glyphsFrom, begun]

theorem glyphsFrom_encodeChar (c : Char) (rest : List UInt8) :
    glyphsFrom none (String.utf8EncodeChar c ++ rest) = .scalar c :: glyphsFrom none rest := by
  have valid : c.toNat < 0xD800 ∨ 0xDFFF < c.toNat ∧ c.toNat < 0x110000 := c.valid
  have same : c.val.toNat = c.toNat := rfl
  have value {n : Nat} (h : n = c.toNat) : Char.ofNat n = c := h ▸ Char.ofNat_toNat c
  simp only [String.utf8EncodeChar, same]
  split
  next one =>
    simp only [List.cons_append, List.nil_append, glyphsFrom]
    rw [lead_one (by omega), value rfl]
  split
  next two =>
    simp only [List.cons_append, List.nil_append]
    rw [glyphsFrom_pending _ (lead_two (by omega) (by omega)),
      glyphsFrom_owed _ (by omega) (by simp) (by simp only [UInt8.reduceToNat]; omega),
      if_pos (by omega), value (by omega)]
  split
  next three =>
    simp only [List.cons_append, List.nil_append]
    rw [glyphsFrom_pending _ (lead_three (by omega) (by omega)),
      glyphsFrom_owed _ (by omega) (by split <;> simp only [UInt8.reduceToNat] <;> omega)
        (by split <;> simp only [UInt8.reduceToNat] <;> omega),
      if_neg (by omega),
      glyphsFrom_owed _ (by omega) (by simp) (by simp only [UInt8.reduceToNat]; omega),
      if_pos (by omega), value (by omega)]
  next four =>
    simp only [List.cons_append, List.nil_append]
    rw [glyphsFrom_pending _ (lead_four (by omega) (by omega)),
      glyphsFrom_owed _ (by omega) (by split <;> simp only [UInt8.reduceToNat] <;> omega)
        (by split <;> simp only [UInt8.reduceToNat] <;> omega),
      if_neg (by omega),
      glyphsFrom_owed _ (by omega) (by simp) (by simp only [UInt8.reduceToNat]; omega),
      if_neg (by omega),
      glyphsFrom_owed _ (by omega) (by simp) (by simp only [UInt8.reduceToNat]; omega),
      if_pos (by omega), value (by omega)]

/-- What is encoded is read back without a stray octet. -/
theorem glyphs_encode (text : List Char) : glyphs (encode text) = text.map .scalar := by
  induction text with
  | nil => rfl
  | cons c text ih =>
    have step := glyphsFrom_encodeChar c (encode text)
    simp only [glyphs, encode] at ih step ⊢
    rw [List.flatMap_cons, step, ih, List.map_cons]

theorem decodeLossy_encode (text : List Char) : decodeLossy (encode text) = String.ofList text := by
  rw [decodeLossy, glyphs_encode, List.map_map]
  congr 1
  exact List.map_id text

/-! ## What is read was encoded -/

theorem lead_stray {n : Nat} (none : 0x80 ≤ n ∧ n < 0xC2 ∨ 0xF4 < n ∧ n < 256) :
    lead (UInt8.ofNat n) = .inl (.stray 1) := by
  have octet := toNat_octet (n := n) (by omega)
  simp only [lead, UInt8.lt_iff_toNat_lt, ← UInt8.toNat_inj, octet, UInt8.reduceToNat]
  rcases none with low | high
  · rw [if_neg (by omega), if_pos (by omega)]
  · rw [if_neg (by omega), if_neg (by omega), if_neg (by omega), if_neg (by omega),
      if_neg (by omega), if_neg (by omega), if_neg (by omega), if_neg (by omega),
      if_neg (by omega)]

theorem exists_owed {pending : Pending} {octets : List UInt8} {text : List Char}
    (read : scalars? (glyphsFrom (some pending) octets) = some text) :
    ∃ n rest, octets = UInt8.ofNat n :: rest ∧ n < 256 ∧ pending.low.toNat ≤ n ∧
      n ≤ pending.high.toNat := by
  cases octets with
  | nil => cases read
  | cons b rest =>
    by_cases inside : pending.low ≤ b ∧ b ≤ pending.high
    · refine ⟨b.toNat, rest, ?_, b.toNat_lt, ?_, ?_⟩
      · rw [UInt8.ofNat_toNat]
      · exact UInt8.le_iff_toNat_le.mp inside.1
      · exact UInt8.le_iff_toNat_le.mp inside.2
    · simp only [glyphsFrom] at read
      rw [if_neg inside] at read
      cases read

theorem exists_char {n : Nat} (valid : n.isValidChar) : ∃ c : Char, c.val.toNat = n := by
  have small : n < 2 ^ 32 := by
    rcases valid with low | high <;> omega
  have same : (UInt32.ofNat n).toNat = n := UInt32.toNat_ofNat_of_lt' small
  have valid' : (UInt32.ofNat n).toNat.isValidChar := by rwa [same]
  exact ⟨⟨.ofNat n, valid'⟩, same⟩

section Encoded
variable {n m k l : Nat}

theorem encoded_one (lead : n < 0x80) : ∃ c, String.utf8EncodeChar c = [UInt8.ofNat n] := by
  obtain ⟨c, value⟩ := exists_char (n := n) (.inl (by omega))
  refine ⟨c, ?_⟩
  rw [String.utf8EncodeChar, value, if_pos (by omega)]

theorem encoded_two (lead : 0xC2 ≤ n ∧ n < 0xE0) (second : 0x80 ≤ m ∧ m ≤ 0xBF) :
    ∃ c, String.utf8EncodeChar c = [UInt8.ofNat n, UInt8.ofNat m] := by
  obtain ⟨v, whole⟩ : ∃ v, v = (n - 0xC0) * 64 + (m - 0x80) := ⟨_, rfl⟩
  obtain ⟨c, value⟩ := exists_char (n := v) (.inl (by omega))
  have octets : v / 64 % 32 + 192 = n ∧ v % 64 + 128 = m := by omega
  refine ⟨c, ?_⟩
  rw [String.utf8EncodeChar, value, if_neg (by omega), if_pos (by omega), octets.1, octets.2]

theorem encoded_three (lead : 0xE0 ≤ n ∧ n < 0xF0) (second : 0x80 ≤ m ∧ m ≤ 0xBF)
    (third : 0x80 ≤ k ∧ k ≤ 0xBF) (long : n = 0xE0 → 0xA0 ≤ m) (noSurrogate : n = 0xED → m ≤ 0x9F) :
    ∃ c, String.utf8EncodeChar c = [UInt8.ofNat n, UInt8.ofNat m, UInt8.ofNat k] := by
  obtain ⟨v, whole⟩ : ∃ v, v = ((n - 0xE0) * 64 + (m - 0x80)) * 64 + (k - 0x80) := ⟨_, rfl⟩
  have valid : v < 0xD800 ∨ 0xDFFF < v ∧ v < 0x110000 := by omega
  obtain ⟨c, value⟩ := exists_char valid
  have octets : v / 4096 % 16 + 224 = n ∧ v / 64 % 64 + 128 = m ∧ v % 64 + 128 = k := by omega
  refine ⟨c, ?_⟩
  rw [String.utf8EncodeChar, value, if_neg (by omega), if_neg (by omega), if_pos (by omega),
    octets.1, octets.2.1, octets.2.2]

theorem encoded_four (lead : 0xF0 ≤ n ∧ n ≤ 0xF4) (second : 0x80 ≤ m ∧ m ≤ 0xBF)
    (third : 0x80 ≤ k ∧ k ≤ 0xBF) (fourth : 0x80 ≤ l ∧ l ≤ 0xBF) (long : n = 0xF0 → 0x90 ≤ m)
    (scalar : n = 0xF4 → m ≤ 0x8F) :
    ∃ c, String.utf8EncodeChar c =
      [UInt8.ofNat n, UInt8.ofNat m, UInt8.ofNat k, UInt8.ofNat l] := by
  obtain ⟨v, whole⟩ : ∃ v, v =
      (((n - 0xF0) * 64 + (m - 0x80)) * 64 + (k - 0x80)) * 64 + (l - 0x80) := ⟨_, rfl⟩
  have valid : v < 0xD800 ∨ 0xDFFF < v ∧ v < 0x110000 := by omega
  obtain ⟨c, value⟩ := exists_char valid
  have octets : v / 262144 % 8 + 240 = n ∧ v / 4096 % 64 + 128 = m ∧ v / 64 % 64 + 128 = k ∧
      v % 64 + 128 = l := by omega
  refine ⟨c, ?_⟩
  rw [String.utf8EncodeChar, value, if_neg (by omega), if_neg (by omega), if_neg (by omega),
    octets.1, octets.2.1, octets.2.2.1, octets.2.2.2]

end Encoded

/-- Octets in which nothing strays begin with the octets of a character. -/
theorem exists_encodeChar {octets : List UInt8} {text : List Char} (some : octets ≠ [])
    (read : scalars? (glyphsFrom none octets) = .some text) :
    ∃ c rest, octets = String.utf8EncodeChar c ++ rest := by
  obtain ⟨b, rest, rfl⟩ := List.exists_cons_of_ne_nil some
  obtain ⟨n, small, rfl⟩ : ∃ n, n < 256 ∧ UInt8.ofNat n = b :=
    ⟨b.toNat, b.toNat_lt, UInt8.ofNat_toNat⟩
  by_cases one : n < 0x80
  · obtain ⟨c, encoded⟩ := encoded_one one
    exact ⟨c, rest, by rw [encoded]; rfl⟩
  by_cases stray : n < 0xC2 ∨ 0xF4 < n
  · simp only [glyphsFrom, lead_stray (n := n) (by omega)] at read
    cases read
  by_cases two : n < 0xE0
  · rw [glyphsFrom_pending _ (lead_two (by omega) two)] at read
    obtain ⟨m, rest, rfl, -, second⟩ := exists_owed read
    obtain ⟨c, encoded⟩ := encoded_two (n := n) ⟨by omega, two⟩ second
    exact ⟨c, rest, by rw [encoded]; rfl⟩
  by_cases three : n < 0xF0
  · rw [glyphsFrom_pending _ (lead_three (by omega) three)] at read
    obtain ⟨m, rest, rfl, octet, low, high⟩ := exists_owed read
    rw [glyphsFrom_owed _ octet low high, if_neg (by omega)] at read
    obtain ⟨k, rest, rfl, -, third⟩ := exists_owed read
    have range : 0x80 ≤ m ∧ m ≤ 0xBF ∧ (n = 0xE0 → 0xA0 ≤ m) ∧ (n = 0xED → m ≤ 0x9F) := by
      simp only [apply_ite UInt8.toNat, UInt8.reduceToNat] at low high
      split at low <;> split at high <;> omega
    obtain ⟨c, encoded⟩ := encoded_three (n := n) ⟨by omega, three⟩ ⟨range.1, range.2.1⟩ third
      range.2.2.1 range.2.2.2
    exact ⟨c, rest, by rw [encoded]; rfl⟩
  · rw [glyphsFrom_pending _ (lead_four (by omega) (by omega))] at read
    obtain ⟨m, rest, rfl, octet, low, high⟩ := exists_owed read
    rw [glyphsFrom_owed _ octet low high, if_neg (by omega)] at read
    obtain ⟨k, rest, rfl, octet', low', high'⟩ := exists_owed read
    rw [glyphsFrom_owed _ octet' low' high', if_neg (by omega)] at read
    obtain ⟨l, rest, rfl, -, fourth⟩ := exists_owed read
    have range : 0x80 ≤ m ∧ m ≤ 0xBF ∧ (n = 0xF0 → 0x90 ≤ m) ∧ (n = 0xF4 → m ≤ 0x8F) := by
      simp only [apply_ite UInt8.toNat, UInt8.reduceToNat] at low high
      split at low <;> split at high <;> omega
    obtain ⟨c, encoded⟩ := encoded_four (n := n) ⟨by omega, by omega⟩ ⟨range.1, range.2.1⟩
      ⟨low', high'⟩ fourth range.2.2.1 range.2.2.2
    exact ⟨c, rest, by rw [encoded]; rfl⟩

theorem scalars?_map (text : List Char) : scalars? (text.map .scalar) = some text := by
  induction text with
  | nil => rfl
  | cons c text ih => rw [List.map_cons, scalars?, ih, Option.map_some]

theorem encode_of_scalars? {octets : List UInt8} {text : List Char}
    (read : scalars? (glyphs octets) = some text) : octets = encode text := by
  -- on the length, since what stands behind a character is any shorter row of octets
  induction length : octets.length using Nat.strongRecOn generalizing octets text with
  | ind n ih =>
    by_cases empty : octets = []
    · subst empty
      cases read
      rfl
    · obtain ⟨c, rest, rfl⟩ := exists_encodeChar empty read
      rw [glyphs, glyphsFrom_encodeChar, scalars?, Option.map_eq_some_iff] at read
      obtain ⟨others, read, rfl⟩ := read
      have shorter : rest.length < n := by
        have positive := String.length_utf8EncodeChar c
        have width := c.utf8Size_pos
        rw [List.length_append] at length
        omega
      rw [ih rest.length shorter read rfl]
      rfl

theorem decode?_eq_some_iff {octets : List UInt8} {text : String} :
    decode? octets = some text ↔ octets = encodeString text := by
  rw [decode?, Option.map_eq_some_iff]
  constructor
  · rintro ⟨chars, read, rfl⟩
    rw [encodeString, String.toList_ofList]
    exact encode_of_scalars? read
  · rintro rfl
    refine ⟨text.toList, ?_, String.ofList_toList⟩
    rw [encodeString, glyphs_encode, scalars?_map]

end FaultMesh.Text.Utf8
