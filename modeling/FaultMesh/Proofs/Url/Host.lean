import FaultMesh.Proofs.Network.Address
import FaultMesh.Proofs.Text.CaseFold
import FaultMesh.Proofs.Url.Form
import FaultMesh.Proofs.Url.Punycode
import FaultMesh.Url

/-!
# Hosts that were read

A host that was read is read from its written form again, and its written form holds nothing
that ends a host.
-/

set_option autoImplicit false

namespace FaultMesh.Url.Host

theorem foldCase_plain {entry : Text.FoldRun} (member : entry ∈ Text.foldRuns) {n : Nat}
    (inside : entry.run.has n = true) (narrow : ¬ (0xFF01 ≤ n ∧ n ≤ 0xFF5E)) :
    ¬ (0xFF01 ≤ entry.target n ∧ entry.target n ≤ 0xFF61) ∧ entry.target n ≠ 0x3002 := by
  have all : (Text.foldRuns.all fun entry =>
      Nat.ble 0xFF01 entry.run.first && Nat.ble entry.run.last 0xFF5E ||
        entry.misses ⟨0xFF01, 0xFF61, 1⟩ && entry.misses ⟨0x3002, 0x3002, 1⟩) = true := by
    decide +kernel
  have bounded := (Text.misses_of_mem member).1
  have one := List.all_eq_true.mp all entry member
  have range := (Text.Run.has_iff _ _).mp inside
  rw [Bool.or_eq_true, Bool.and_eq_true, Bool.and_eq_true, Nat.ble_eq, Nat.ble_eq] at one
  rcases one with wide | ⟨wide, stop⟩
  · omega
  have first := Text.FoldRun.not_has_target bounded wide inside
  have second := Text.FoldRun.not_has_target bounded stop inside
  rw [← Bool.not_eq_true, Text.Run.has_iff, Nat.mod_one] at first second
  dsimp only at first second
  omega

theorem mapNameChar_foldCase {c : Char} (sigma : c ≠ 'ς')
    (narrow : ¬ (0xFF01 ≤ c.toNat ∧ c.toNat ≤ 0xFF5E))
    (stop : ¬ (c = '\u3002' ∨ c = '\uFF0E' ∨ c = '\uFF61')) :
    mapNameChar c = Text.foldCase c := by
  rw [mapNameChar, if_neg sigma, if_neg narrow, if_neg stop]

theorem mapNameChar_mapNameChar (c : Char) : mapNameChar (mapNameChar c) = mapNameChar c := by
  by_cases sigma : c = 'ς'
  · subst sigma
    rfl
  by_cases wide : 0xFF01 ≤ c.toNat ∧ c.toNat ≤ 0xFF5E
  · have all : ∀ n ∈ List.range' 0x21 94,
        mapNameChar (Text.lowerAscii (Char.ofNat n)) = Text.lowerAscii (Char.ofNat n) := by
      decide +kernel
    have mapped : mapNameChar c = Text.lowerAscii (Char.ofNat (c.toNat - 0xFEE0)) := by
      rw [mapNameChar, if_neg sigma, if_pos wide]
    rw [mapped]
    exact all _ (List.mem_range'_1.mpr (by omega))
  by_cases stop : c = '\u3002' ∨ c = '\uFF0E' ∨ c = '\uFF61'
  · have mapped : mapNameChar c = '.' := by
      rw [mapNameChar, if_neg sigma, if_neg wide, if_pos stop]
    rw [mapped]
    decide +kernel
  rw [mapNameChar_foldCase sigma wide stop]
  rcases Text.foldValue_cases c.toNat with same | ⟨entry, member, inside, folded⟩
  · have unfolded : Text.foldCase c = c := by
      rw [Text.foldCase, same, Char.ofNat_toNat]
    rw [unfolded, mapNameChar_foldCase sigma wide stop, unfolded]
  · have value : (Text.foldCase c).toNat = entry.target c.toNat := by
      rw [Text.toNat_foldCase, folded]
    obtain ⟨narrow, other⟩ := foldCase_plain member inside wide
    rw [← value] at narrow other
    by_cases again : Text.foldCase c = 'ς'
    · rw [again]
      rfl
    · rw [mapNameChar_foldCase again (by omega), Text.foldCase_foldCase]
      rintro (same | same | same) <;> rw [same] at narrow other
      · exact other rfl
      · exact narrow (by decide)
      · exact narrow (by decide)

structure Settled (c : Char) : Prop where
  ascii : c.toNat < 0x80
  mapped : mapNameChar c = c

theorem isIgnored_ascii {c : Char} (ascii : c.toNat < 0x80) : isIgnored c = false := by
  simp only [isIgnored, Bool.or_eq_false_iff, Bool.and_eq_false_iff, decide_eq_false_iff_not]
  omega

theorem settled_row : ∀ c ∈ "0123456789abcdefghijklmnopqrstuvwxyz-.".toList, Settled c := by
  intro c inside
  have all : ∀ c ∈ "0123456789abcdefghijklmnopqrstuvwxyz-.".toList,
      c.toNat < 0x80 ∧ mapNameChar c = c :=
    Text.of_row (by decide +kernel)
  obtain ⟨ascii, mapped⟩ := all c inside
  exact ⟨ascii, mapped⟩

theorem settled_digit {c : Char} (digit : Punycode.IsDigit c) : Settled c ∧ c ≠ '.' := by
  obtain ⟨value, small, rfl⟩ := digit
  have all : ∀ value ∈ List.range 36, Punycode.digitChar value ∈
      "0123456789abcdefghijklmnopqrstuvwxyz".toList := by
    decide
  have member := all value (List.mem_range.mpr small)
  have none : '.' ∉ "0123456789abcdefghijklmnopqrstuvwxyz".toList := by decide
  refine ⟨settled_row _ ?_, fun same => none (same ▸ member)⟩
  exact List.mem_append_left ['-', '.'] member

/-! ## Labels -/

def IsMapped (label : List Char) : Prop := ∀ c ∈ label, mapNameChar c = c ∧ c ≠ '.'

/-- What is written for a label stays as it is, and is written for itself. -/
structure IsWritten (label : List Char) : Prop where
  settled : ∀ c ∈ label, Settled c
  dotless : '.' ∉ label
  again : asciiLabel? label = some label

theorem isWritten_ascii {label : List Char} (mapped : IsMapped label)
    (ascii : label.all (fun c => c.toNat < 0x80) = true)
    (again : asciiLabel? label = some label) : IsWritten label where
  settled := by
    intro c inside
    have narrow := List.all_eq_true.mp ascii c inside
    exact ⟨by simpa using narrow, (mapped c inside).1⟩
  dotless := fun inside => (mapped '.' inside).2 rfl
  again := again

/-- The written form of a label beyond ASCII is read as the label. -/
theorem isWritten_encode {label : List Char} (mapped : IsMapped label)
    (wide : ¬ label.all (fun c => c.toNat < 0x80) = true)
    (shown : label.all isNameChar = true) :
    IsWritten ("xn--".toList ++ Punycode.encode label) := by
  have marks : ∀ c ∈ "xn--".toList, Settled c ∧ c ≠ '.' := by
    intro c inside
    have none : '.' ∉ "xn--".toList := by decide
    have row : ∀ c ∈ "xn--".toList, c ∈ "0123456789abcdefghijklmnopqrstuvwxyz-.".toList :=
      Text.of_row (by decide)
    exact ⟨settled_row c (row c inside), fun same => none (same ▸ inside)⟩
  have chars : ∀ c ∈ "xn--".toList ++ Punycode.encode label, Settled c ∧ c ≠ '.' := by
    intro c inside
    rcases List.mem_append.mp inside with mark | behind
    · exact marks c mark
    rcases Punycode.mem_encode behind with ⟨own, ascii⟩ | hyphen | digit
    · exact ⟨⟨ascii, (mapped c own).1⟩, (mapped c own).2⟩
    · subst hyphen
      exact marks '-' (by decide)
    · exact settled_digit digit
  have ascii : ("xn--".toList ++ Punycode.encode label).all (fun c => c.toNat < 0x80) = true := by
    rw [List.all_eq_true]
    intro c inside
    simpa using (chars c inside).1.ascii
  have some : label.any (fun c => 0x80 ≤ c.toNat) = true := by
    rw [List.all_eq_true] at wide
    simpa [Nat.not_lt] using wide
  have forms : label.map mapNameChar = label := by
    refine (List.map_congr_left fun c inside => ?_).trans (List.map_id label)
    exact (mapped c inside).1
  refine ⟨fun c inside => (chars c inside).1, fun inside => (chars '.' inside).2 rfl, ?_⟩
  have parts : "xn--".toList ++ Punycode.encode label =
      'x' :: 'n' :: '-' :: '-' :: Punycode.encode label := rfl
  rw [parts] at ascii ⊢
  rw [asciiLabel?, if_pos ascii, Punycode.decode?_encode]
  simp only
  rw [if_pos ⟨some, shown, forms⟩]

theorem isWritten_of_asciiLabel? {label written : List Char} (mapped : IsMapped label)
    (made : asciiLabel? label = some written) : IsWritten written := by
  have whole := made
  unfold asciiLabel? at made
  split at made
  · split at made
    next rest ascii =>
      split at made
      · split at made
        · cases made
          exact isWritten_ascii mapped ascii whole
        · cases made
      · cases made
    · cases made
  · split at made
    next ascii =>
      cases made
      exact isWritten_ascii mapped ascii whole
    next wide =>
      split at made
      · cases made
      next usual =>
        rw [not_or, Classical.not_not] at usual
        cases made
        exact isWritten_encode mapped wide usual.2
  · cases made
    exact isWritten_ascii mapped rfl whole

theorem mapM_cons_eq_some {α β : Type} {make : α → Option β} {value : α} {values : List α}
    {made : List β} : (value :: values).mapM make = some made ↔
      ∃ first, make value = some first ∧
        ∃ others, values.mapM make = some others ∧ first :: others = made := by
  simp only [List.mapM_cons, Option.bind_eq_bind, Option.bind_eq_some_iff, Option.pure_def,
    Option.some.injEq]

theorem isWritten_of_mapM {labels written : List (List Char)}
    (mapped : ∀ label ∈ labels, IsMapped label) (made : labels.mapM asciiLabel? = some written) :
    ∀ label ∈ written, IsWritten label := by
  induction labels generalizing written with
  | nil =>
    cases made
    intro label none
    cases none
  | cons label labels ih =>
    obtain ⟨first, one, others, rest, rfl⟩ := mapM_cons_eq_some.mp made
    intro other inside
    rcases List.mem_cons.mp inside with rfl | behind
    · exact isWritten_of_asciiLabel? (mapped label List.mem_cons_self) one
    · exact ih (fun label inside => mapped label (List.mem_cons_of_mem _ inside)) rest other behind

theorem mapM_isWritten {labels : List (List Char)} (written : ∀ label ∈ labels, IsWritten label) :
    labels.mapM asciiLabel? = some labels := by
  induction labels with
  | nil => rfl
  | cons label labels ih =>
    refine mapM_cons_eq_some.mpr ⟨label, ?_, labels, ?_, rfl⟩
    · exact (written label List.mem_cons_self).again
    · exact ih fun other inside => written other (List.mem_cons_of_mem _ inside)

theorem asciiName?_intercalate {labels : List (List Char)} (some : labels ≠ [])
    (written : ∀ label ∈ labels, IsWritten label)
    (allowed : (List.intercalate ['.'] labels).any isForbidden = false) :
    asciiName? (List.intercalate ['.'] labels) = .some (List.intercalate ['.'] labels) := by
  have dot : Settled '.' := settled_row '.' (by decide)
  have settled : ∀ c ∈ List.intercalate ['.'] labels, Settled c := by
    intro c inside
    rcases Text.mem_intercalate inside with rfl | ⟨label, member, inside⟩
    · exact dot
    · exact (written label member).settled c inside
  have seen : ((List.intercalate ['.'] labels).filter fun c => !isIgnored c) =
      List.intercalate ['.'] labels := by
    rw [List.filter_eq_self]
    intro c inside
    rw [isIgnored_ascii (settled c inside).ascii]
    rfl
  have forms : (List.intercalate ['.'] labels).map mapNameChar = List.intercalate ['.'] labels := by
    refine (List.map_congr_left fun c inside => ?_).trans (List.map_id _)
    exact (settled c inside).mapped
  have pieces : List.splitOn '.' (List.intercalate ['.'] labels) = labels :=
    List.splitOn_intercalate '.' (fun label member => (written label member).dotless) some
  rw [asciiName?, seen, forms, pieces, mapM_isWritten written]
  simp only [Option.bind_eq_bind, Option.bind_some, allowed]
  rfl

/-- A name in its ASCII form: labels with dots between them, and nothing that is forbidden. -/
theorem labels_of_asciiName? {name ascii : List Char} (made : asciiName? name = some ascii) :
    ∃ labels, labels ≠ [] ∧ ascii = List.intercalate ['.'] labels ∧
      (∀ label ∈ labels, IsWritten label) ∧ ascii.any isForbidden = false := by
  rw [asciiName?] at made
  simp only [Option.bind_eq_bind, Option.bind_eq_some_iff] at made
  obtain ⟨labels, made, joined⟩ := made
  split at joined
  · cases joined
  next allowed =>
    cases joined
    have mapped : ∀ label ∈ List.splitOn '.' ((name.filter fun c => !isIgnored c).map mapNameChar),
        IsMapped label := by
      intro label member c inside
      obtain ⟨there, other⟩ := Text.mem_splitOn member c inside
      obtain ⟨source, -, rfl⟩ := List.mem_map.mp there
      exact ⟨mapNameChar_mapNameChar source, other⟩
    have written := isWritten_of_mapM mapped made
    refine ⟨labels, ?_, rfl, written, Bool.not_eq_true _ ▸ allowed⟩
    rintro rfl
    obtain ⟨first, others, pieces⟩ := List.exists_cons_of_ne_nil (List.splitOn_ne_nil '.'
      ((name.filter fun c => !isIgnored c).map mapNameChar))
    rw [pieces] at made
    obtain ⟨_, -, _, -, same⟩ := mapM_cons_eq_some.mp made
    cases same

theorem read_name {name : List Char} (own : asciiName? name = some name) (some : name ≠ []) :
    read name =
      if endsInNumber name then
        match ipv4? name with
        | .some address => .ok (.ipv4 address)
        | none => .error .invalidIpv4
      else .ok (.domain (String.ofList name)) := by
  obtain ⟨labels, -, -, -, allowed⟩ := labels_of_asciiName? own
  have absent (c : Char) (forbidden : isForbidden c = true) : c ∉ name :=
    fun inside => List.any_eq_false.mp allowed c inside forbidden
  have decoded : Percent.decodeText name = Text.Utf8.encode name :=
    Percent.decode_of_not_mem (Percent.not_mem_encode (absent '%' (by decide)))
  rw [read, decoded, Text.Utf8.decodeLossy_encode, String.toList_ofList, own]
  · cases name with
    | nil => exact absurd rfl some
    | cons c name => rfl
  · rintro rest rfl
    exact absent '[' (by decide) List.mem_cons_self

/-! ## Addresses -/

theorem of_isDigit (holds : Char → Bool) (ten : "0123456789".toList.all holds = true) {c : Char}
    (digit : Text.isDigit c = true) : holds c = true := by
  have row : ∀ n ∈ List.range' 48 10, Char.ofNat n ∈ "0123456789".toList := by decide
  rw [Decimal.isDigit_eq, Char.isDigit_iff_toNat] at digit
  have range : '0'.toNat = 48 ∧ '9'.toNat = 57 := ⟨rfl, rfl⟩
  have member : c ∈ "0123456789".toList :=
    Text.of_range (P := (· ∈ "0123456789".toList)) row (by omega) (by omega)
  exact List.all_eq_true.mp ten c member

theorem isWritten_digits {digits : List Char} (plain : Decimal.Plain digits) :
    IsWritten digits := by
  have settled : ∀ c ∈ digits, Settled c := by
    intro c inside
    have row := of_isDigit "0123456789abcdefghijklmnopqrstuvwxyz-.".toList.contains (by decide)
      (plain.digit c inside)
    exact settled_row c (List.contains_iff_mem.mp row)
  have dotless : '.' ∉ digits := fun inside => absurd (plain.digit '.' inside) (by decide)
  have ascii : digits.all (fun c => c.toNat < 0x80) = true := by
    rw [List.all_eq_true]
    intro c inside
    simpa using (settled c inside).ascii
  refine ⟨settled, dotless, ?_⟩
  unfold asciiLabel?
  split
  · exact absurd (plain.digit 'x' List.mem_cons_self) (by decide)
  · rw [if_pos ascii]
  · rfl

theorem number?_digits {digits : List Char} (plain : Decimal.Plain digits) :
    number? digits = valueInBase? 10 digits := by
  unfold number?
  split
  · exact absurd rfl plain.nonempty
  · exact absurd rfl (plain.noZero _ _)
  · exact absurd rfl (plain.noZero _ _)
  · exact absurd rfl (plain.noZero _ _)
  · rfl

theorem number?_toDigits (n : Nat) : number? (Nat.toDigits 10 n) = some n := by
  have digits := hexValue_toDigits (by decide : 1 < 10) (by decide) n
  rw [number?_digits (Decimal.plain_toDigits n), valueInBase?, if_pos,
    foldl_toDigits (by decide) (by decide)]
  rw [List.all_eq_true]
  intro c inside
  simpa using digits c inside

theorem addressValue?_eq (address : Ipv4) :
    addressValue? [address.a.toNat, address.b.toNat, address.c.toNat, address.d.toNat] =
      some address.value := by
  have a := address.a.toNat_lt
  have b := address.b.toNat_lt
  have c := address.c.toNat_lt
  have d := address.d.toNat_lt
  have bounded : ¬ (3 < 3 ∨ Nat.pow 256 (4 - 3) ≤ address.d.toNat ∨
      [address.a.toNat, address.b.toNat, address.c.toNat].any (255 < ·) = true) := by
    simp
    omega
  rw [addressValue?]
  simp only [List.reverse_cons, List.reverse_nil, List.nil_append, List.cons_append,
    List.length_cons, List.length_nil, Nat.zero_add]
  rw [if_neg bounded]
  simp [List.zipIdx, Ipv4.value]

def writtenParts (address : Ipv4) : List (List Char) :=
  [address.a, address.b, address.c, address.d].map fun part => Nat.toDigits 10 part.toNat

theorem plain_writtenParts (address : Ipv4) : ∀ part ∈ writtenParts address, Decimal.Plain part := by
  intro part member
  obtain ⟨octet, -, rfl⟩ := List.mem_map.mp member
  exact Decimal.plain_toDigits octet.toNat

theorem nameParts_ipv4 (address : Ipv4) :
    nameParts (List.intercalate ['.'] (writtenParts address)) = writtenParts address := by
  have pieces : List.splitOn '.' (List.intercalate ['.'] (writtenParts address)) =
      writtenParts address := by
    refine List.splitOn_intercalate '.' (fun part member => ?_) (by simp [writtenParts])
    exact (isWritten_digits (plain_writtenParts address part member)).dotless
  rw [nameParts, pieces]
  split
  next before last =>
    have member : [] ∈ writtenParts address := by
      rw [← List.mem_reverse, last]
      exact List.mem_cons_self
    exact absurd rfl (plain_writtenParts address [] member).nonempty
  next => rfl

theorem mem_ipv4 (address : Ipv4) :
    ∀ c ∈ List.intercalate ['.'] (writtenParts address), c = '.' ∨ Text.isDigit c = true := by
  intro c inside
  rcases Text.mem_intercalate inside with dot | ⟨part, member, inside⟩
  · exact .inl dot
  · exact .inr ((plain_writtenParts address part member).digit c inside)

theorem toList_render_ipv4 (address : Ipv4) :
    (render (.ipv4 address)).toList = List.intercalate ['.'] (writtenParts address) :=
  address.toList_render

theorem asciiName?_ipv4 (address : Ipv4) :
    asciiName? (List.intercalate ['.'] (writtenParts address)) =
      some (List.intercalate ['.'] (writtenParts address)) := by
  have allowed : (List.intercalate ['.'] (writtenParts address)).any isForbidden = false := by
    rw [List.any_eq_false]
    intro c inside
    rcases mem_ipv4 address c inside with rfl | digit
    · decide
    · simpa using of_isDigit (fun c => !isForbidden c) (by decide) digit
  exact asciiName?_intercalate (by simp [writtenParts])
    (fun part member => isWritten_digits (plain_writtenParts address part member)) allowed

theorem intercalate_writtenParts_ne_nil (address : Ipv4) :
    List.intercalate ['.'] (writtenParts address) ≠ [] := by
  simp [writtenParts]

theorem read_ipv4 (address : Ipv4) :
    read (List.intercalate ['.'] (writtenParts address)) = .ok (.ipv4 address) := by
  have number : endsInNumber (List.intercalate ['.'] (writtenParts address)) = true := by
    rw [endsInNumber, nameParts_ipv4]
    have plain := Decimal.plain_toDigits address.d.toNat
    have digits := List.all_eq_true.mpr plain.digit
    simp [writtenParts, digits, plain.nonempty]
  have value : ipv4? (List.intercalate ['.'] (writtenParts address)) = some address := by
    rw [ipv4?, nameParts_ipv4]
    simp [writtenParts, number?_toDigits, addressValue?_eq, Ipv4.ofValue_value]
  rw [read_name (asciiName?_ipv4 address) (intercalate_writtenParts_ne_nil address), if_pos number,
    value]

theorem toList_render_ipv6 (address : Ipv6) :
    (render (.ipv6 address)).toList = '[' :: (address.renderGroups.toList ++ [']']) := by
  simp [render]

theorem read_ipv6 (address : Ipv6) :
    read (render (.ipv6 address)).toList = .ok (.ipv6 address) := by
  rw [toList_render_ipv6, read, readIpv6, List.getLast?_append, List.dropLast_concat,
    Ipv6.read?_renderGroups]
  rfl

/-- What is read: an address of either kind, or a name in its ASCII form that is none. -/
theorem read_cases {text : List Char} {host : Host} (made : read text = .ok host) :
    (∃ address, host = .ipv6 address) ∨ (∃ address, host = .ipv4 address) ∨
      ∃ name, host = .domain (String.ofList name) ∧ name ≠ [] ∧ asciiName? name = some name ∧
        endsInNumber name = false := by
  unfold read at made
  split at made
  next rest =>
    rw [readIpv6] at made
    split at made
    · split at made
      next address found =>
        cases made
        exact .inl ⟨address, rfl⟩
      next => cases made
    · cases made
  next =>
    simp only at made
    split at made
    · cases made
    · cases made
    next ascii filled found =>
      split at made
      · split at made
        next address _ =>
          cases made
          exact .inr (.inl ⟨address, rfl⟩)
        next => cases made
      next named =>
        cases made
        obtain ⟨labels, some, rfl, written, allowed⟩ := labels_of_asciiName? found
        exact .inr (.inr ⟨_, rfl, filled, asciiName?_intercalate some written allowed,
          Bool.not_eq_true _ ▸ named⟩)

/-! ## Written hosts -/

theorem takeHost_bare {text : List Char} (bare : ∀ c ∈ text, c ≠ ':' ∧ c ≠ '[')
    {rest : List Char} (ends : rest = [] ∨ ∃ port, rest = ':' :: port) :
    takeHost false (text ++ rest) = (text, rest) := by
  induction text with
  | nil =>
    rcases ends with rfl | ⟨port, rfl⟩
    · rfl
    · simp [takeHost]
  | cons c text ih =>
    obtain ⟨colon, bracket⟩ := bare c List.mem_cons_self
    have others := ih fun c inside => bare c (List.mem_cons_of_mem _ inside)
    simp [takeHost, colon, bracket, others]

theorem takeHost_inside {text : List Char} (absent : ']' ∉ text) (rest : List Char) :
    takeHost true (text ++ ']' :: rest) =
      (text ++ ']' :: (takeHost false rest).1, (takeHost false rest).2) := by
  induction text with
  | nil => simp [takeHost]
  | cons c text ih =>
    rw [List.mem_cons, not_or] at absent
    simp [takeHost, Ne.symm absent.1, ih absent.2]

/-- A text that stands for a host wherever it is written: nothing in it ends an authority, or
the host within one. -/
structure Stands (text : List Char) (host : Host) : Prop where
  nonempty : text ≠ []
  chars : ∀ c ∈ text, 0x20 < c.toNat ∧ c ∉ "/\\?#@".toList
  whole : ∀ rest, (rest = [] ∨ ∃ port, rest = ':' :: port) →
    takeHost false (text ++ rest) = (text, rest)
  read : read text = .ok host

theorem stands_name {name : List Char} (own : asciiName? name = some name) (some : name ≠ [])
    {host : Host} (read : read name = .ok host) : Stands name host := by
  obtain ⟨labels, -, -, -, allowed⟩ := labels_of_asciiName? own
  have absent (c : Char) (inside : c ∈ name) : isForbidden c = false :=
    Bool.not_eq_true _ ▸ List.any_eq_false.mp allowed c inside
  refine ⟨some, ?_, ?_, read⟩
  · intro c inside
    have fine := absent c inside
    refine ⟨?_, ?_⟩
    · simp only [isForbidden, Bool.or_eq_false_iff, decide_eq_false_iff_not] at fine
      omega
    · intro mark
      have all : ∀ c ∈ "/\\?#@".toList, isForbidden c = true := Text.of_row (by decide)
      rw [all c mark] at fine
      cases fine
  · intro rest ends
    refine takeHost_bare (fun c inside => ?_) ends
    have fine := absent c inside
    refine ⟨?_, ?_⟩
    · rintro rfl
      exact absurd fine (by decide)
    · rintro rfl
      exact absurd fine (by decide)

theorem lt_of_isHexDigit {c : Char} (digit : Text.isHexDigit c = true) : 0x20 < c.toNat := by
  have none : ∀ n ∈ List.range' 0 33, Text.isHexDigit (Char.ofNat n) = false := by decide
  refine Nat.not_le.mp fun le => ?_
  have other : Text.isHexDigit c = false :=
    Text.of_range (P := fun c => Text.isHexDigit c = false) none (Nat.zero_le _) (by omega)
  rw [digit] at other
  cases other

theorem stands_ipv6 (address : Ipv6) :
    Stands (render (.ipv6 address)).toList (.ipv6 address) := by
  have groups {c mark : Char} (inside : c ∈ address.renderGroups.toList)
      (other : mark ≠ ':' ∧ Text.isHexDigit mark = false) : c ≠ mark := by
    rintro rfl
    rcases Ipv6.mem_renderGroups inside with colon | digit
    · exact other.1 colon
    · rw [other.2] at digit
      cases digit
  refine ⟨?_, ?_, ?_, read_ipv6 address⟩
  · rw [toList_render_ipv6]
    exact List.cons_ne_nil _ _
  · rw [toList_render_ipv6]
    intro c inside
    rcases List.mem_cons.mp inside with rfl | inside
    · decide
    rcases List.mem_append.mp inside with inside | last
    · refine ⟨?_, fun mark => ?_⟩
      · rcases Ipv6.mem_renderGroups inside with rfl | digit
        · decide
        · exact lt_of_isHexDigit digit
      · have all : ∀ c ∈ "/\\?#@".toList, c ≠ ':' ∧ Text.isHexDigit c = false :=
          Text.of_row (by decide)
        exact groups inside (all c mark) rfl
    · rw [List.mem_singleton.mp last]
      decide
  · intro rest ends
    have absent : ']' ∉ address.renderGroups.toList :=
      fun inside => groups inside (by decide) rfl
    have behind : takeHost false ([] ++ rest) = ([], rest) := takeHost_bare (by simp) ends
    rw [List.nil_append] at behind
    rw [toList_render_ipv6, List.cons_append, List.append_assoc, List.singleton_append, takeHost]
    simp [takeHost_inside absent, behind]

theorem stands_ipv4 (address : Ipv4) :
    Stands (render (.ipv4 address)).toList (.ipv4 address) := by
  rw [toList_render_ipv4]
  exact stands_name (asciiName?_ipv4 address) (intercalate_writtenParts_ne_nil address)
    (read_ipv4 address)

/-- What was read stands for itself in its written form. -/
theorem stands_render {text : List Char} {host : Host} (made : Host.read text = .ok host) :
    Stands host.render.toList host := by
  rcases read_cases made with ⟨address, rfl⟩ | ⟨address, rfl⟩ | ⟨name, rfl, some, own, named⟩
  · exact stands_ipv6 address
  · exact stands_ipv4 address
  · have again := read_name own some
    rw [if_neg (by rw [named]; exact Bool.false_ne_true)] at again
    rw [render, String.toList_ofList]
    exact stands_name own some again

end FaultMesh.Url.Host
