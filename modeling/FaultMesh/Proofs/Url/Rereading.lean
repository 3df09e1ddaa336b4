import FaultMesh.Proofs.Decimal.Digits
import FaultMesh.Proofs.Text.Cut
import FaultMesh.Proofs.Url.Web

/-!
# Written URLs

A URL of the web is written as a front, up to its authority, and a tail.  Whatever begins with
the front and a slash is read as a URL with the same scheme and the same authority: nothing in
the front ends before the slash, and nothing behind the slash reaches back into it.
-/

set_option autoImplicit false

namespace FaultMesh

theorem Percent.of_kept {needed : Char → Bool} (holds : Char → Bool)
    (table : ∀ n ∈ List.range' 0x20 0x5F, needed (Char.ofNat n) = false →
      holds (Char.ofNat n) = true)
    {c : Char} (kept : Kept needed c) : holds c = true := by
  obtain ⟨lower, upper, free⟩ := kept
  exact Text.of_range (P := fun c => needed c = false → holds c = true) table lower upper free

namespace Url

section
variable {separator : Char}

theorem splitLast?_append {behind : List Char} (absent : separator ∉ behind)
    (before : List Char) :
    splitLast? separator (before ++ separator :: behind) = some (before, behind) := by
  have first : separator ∉ behind.reverse := fun inside => absent (List.mem_reverse.mp inside)
  have turned : (before ++ separator :: behind).reverse =
      behind.reverse ++ separator :: before.reverse := by simp
  rw [splitLast?, turned, Text.splitOnce?_append first]
  simp

theorem splitLast?_of_not_mem {text : List Char} (absent : separator ∉ text) :
    splitLast? separator text = none := by
  have first : separator ∉ text.reverse := fun inside => absent (List.mem_reverse.mp inside)
  rw [splitLast?, Text.splitOnce?_of_not_mem first]
  rfl

end

/-! ## Authorities -/

/-- May stand in an authority: it neither ends it nor is dropped from a text. -/
def standsInAuthority (c : Char) : Bool :=
  0x20 < c.toNat && !endsAuthority true c

namespace Authority

def info (authority : Authority) : List Char :=
  match authority.password with
  | some password => authority.username.toList ++ ':' :: password.toList
  | none => authority.username.toList

def portText : Option UInt16 → List Char
  | some port => ':' :: Nat.toDigits 10 port.toNat
  | none => []

def text (authority : Authority) : List Char :=
  (if authority.info = [] then [] else authority.info ++ ['@']) ++
    (authority.host.render.toList ++ portText authority.port)

variable {scheme : String} {authority : Authority}

theorem stands_of_keptInUserinfo {c : Char} (kept : Percent.Kept encodedInUserinfo c) :
    standsInAuthority c = true ∧ c ≠ ':' := by
  have both := Percent.of_kept (fun c => standsInAuthority c && c ≠ ':') (by decide +kernel) kept
  simpa using both

theorem stands_info (written : authority.IsWritten scheme) :
    ∀ c ∈ authority.info, standsInAuthority c = true := by
  intro c inside
  have name : ∀ c ∈ authority.username.toList, standsInAuthority c = true :=
    fun c inside => (stands_of_keptInUserinfo (written.username c inside)).1
  unfold info at inside
  split at inside
  next password found =>
    rcases List.mem_append.mp inside with inside | inside
    · exact name c inside
    rcases List.mem_cons.mp inside with rfl | inside
    · decide
    · exact (stands_of_keptInUserinfo ((written.password password found).2 c inside)).1
  · exact name c inside

theorem readUserinfo_info (written : authority.IsWritten scheme) :
    readUserinfo authority.info = (authority.username, authority.password) := by
  have colon : ':' ∉ authority.username.toList :=
    fun inside => (stands_of_keptInUserinfo (written.username _ inside)).2 rfl
  have name := encodeText_of_keptIn written.username
  unfold info
  split
  next password found =>
    obtain ⟨some, kept⟩ := written.password password found
    have filled : ¬ password.toList.isEmpty = true := by simpa using some
    rw [readUserinfo, Text.splitOnce?_append colon]
    simp only [if_neg filled, Option.map_some, name, encodeText_of_keptIn kept, found]
  next none =>
    rw [readUserinfo, Text.splitOnce?_of_not_mem colon]
    simp only [Option.map_none, name, none]

theorem mem_portText {port : Option UInt16} {c : Char} (inside : c ∈ portText port) :
    standsInAuthority c = true ∧ c ≠ '@' := by
  unfold portText at inside
  split at inside
  · rcases List.mem_cons.mp inside with rfl | inside
    · decide
    · have both := Host.of_isDigit (fun c => standsInAuthority c && c ≠ '@') (by decide)
        (Decimal.isDigit_toDigits _ c inside)
      simpa using both
  · cases inside

theorem mem_hostText (written : authority.IsWritten scheme) {c : Char}
    (inside : c ∈ authority.host.render.toList) : standsInAuthority c = true ∧ c ≠ '@' := by
  obtain ⟨visible, other⟩ := written.host.chars c inside
  simp only [standsInAuthority, endsAuthority, isSlash]
  simp at other
  simp [visible, other]

theorem stands_text (written : authority.IsWritten scheme) :
    ∀ c ∈ authority.text, standsInAuthority c = true := by
  intro c inside
  rcases List.mem_append.mp inside with inside | inside
  · split at inside
    · cases inside
    rcases List.mem_append.mp inside with inside | inside
    · exact stands_info written c inside
    · rw [List.mem_singleton.mp inside]
      decide
  rcases List.mem_append.mp inside with inside | inside
  · exact (mem_hostText written inside).1
  · exact (mem_portText inside).1

theorem text_ne_nil (written : authority.IsWritten scheme) : authority.text ≠ [] := by
  simp [text, written.host.nonempty]

/-- No slash is dropped from the beginning of an authority. -/
theorem dropWhile_text (written : authority.IsWritten scheme) (rest : List Char) :
    (authority.text ++ rest).dropWhile (isSlash true) = authority.text ++ rest := by
  obtain ⟨c, others, text⟩ := List.exists_cons_of_ne_nil (text_ne_nil written)
  have stand := stands_text written c (text ▸ List.mem_cons_self)
  rw [text]
  refine List.dropWhile_cons_of_neg ?_
  intro slash
  simp [standsInAuthority, endsAuthority, slash] at stand

theorem splitLast?_text (written : authority.IsWritten scheme) :
    (splitLast? '@' authority.text).getD ([], authority.text) =
      (authority.info, authority.host.render.toList ++ portText authority.port) := by
  have absent : '@' ∉ authority.host.render.toList ++ portText authority.port := by
    intro inside
    rcases List.mem_append.mp inside with inside | inside
    · exact (mem_hostText written inside).2 rfl
    · exact (mem_portText inside).2 rfl
  unfold text
  split
  next none =>
    rw [List.nil_append, splitLast?_of_not_mem absent, none]
    rfl
  · rw [List.append_assoc, List.singleton_append, splitLast?_append absent]
    rfl

theorem readPort_toDigits {port : UInt16} (other : defaultPort? scheme ≠ some port.toNat) :
    readPort scheme (Nat.toDigits 10 port.toNat) = .ok (some port) := by
  have plain := Decimal.plain_toDigits port.toNat
  have digits : (Nat.toDigits 10 port.toNat).all Text.isDigit = true :=
    List.all_eq_true.mpr plain.digit
  have small := port.toNat_lt
  have value : Text.decimalValue (Nat.toDigits 10 port.toNat) = port.toNat :=
    Decimal.decimalValue_toDigits port.toNat
  have fits : ¬ UInt16.size ≤ port.toNat := Nat.not_le.mpr small
  rw [readPort, if_neg (by simp [digits]), if_neg (by simp)]
  simp only [value, if_neg fits, if_neg other, UInt16.ofNat_toNat]

/-- An authority is read as what it was written from. -/
theorem readAuthority_text (special : isSpecial scheme = true)
    (written : authority.IsWritten scheme) :
    readAuthority scheme authority.text = .ok authority := by
  have filled : authority.host.render.toList.isEmpty = false :=
    List.isEmpty_eq_false_iff.mpr written.host.nonempty
  have ends : portText authority.port = [] ∨ ∃ port, portText authority.port = ':' :: port := by
    cases authority.port with
    | none => exact .inl rfl
    | some port => exact .inr ⟨_, rfl⟩
  unfold readAuthority
  simp only [splitLast?_text written, readUserinfo_info written, special,
    written.host.whole _ ends, readHostText, filled, written.host.read, if_true,
    Bool.false_eq_true, if_false, false_and]
  cases found : authority.port with
  | none =>
    have same : (⟨authority.username, authority.password, authority.host, none⟩ : Authority) =
        authority := by rw [← found]
    exact congrArg Except.ok same
  | some port =>
    have same :
        (⟨authority.username, authority.password, authority.host, some port⟩ : Authority) =
          authority := by rw [← found]
    simp only [portText, readPort_toDigits (written.port port found)]
    exact congrArg Except.ok same

/-- A known scheme has a host behind every `@`. -/
theorem text_ne_at (special : isSpecial scheme = true) (written : authority.IsWritten scheme) :
    authority.text ≠ ['@'] := by
  intro same
  have read := readAuthority_text special written
  have refused : readAuthority scheme ['@'] = .error .emptyHost := by
    simp [readAuthority, splitLast?, Text.splitOnce?, readUserinfo, takeHost, readHostText,
      special]
    rfl
  rw [same, refused] at read
  cases read

end Authority

def cleanEnd (text : List Char) : List Char :=
  (text.reverse.dropWhile fun c => c.toNat ≤ 0x20).reverse.filter fun c =>
    c ≠ '\t' && c ≠ '\n' && c ≠ '\r'

theorem dropWhile_of_visible {text : List Char} (visible : ∀ c ∈ text, 0x20 < c.toNat) :
    (text.dropWhile fun c => c.toNat ≤ 0x20) = text := by
  cases text with
  | nil => rfl
  | cons c text =>
    have first := visible c List.mem_cons_self
    exact List.dropWhile_cons_of_neg (by simpa using first)

theorem cleanEnd_append {front : List Char} (visible : ∀ c ∈ front, 0x20 < c.toNat)
    (rest : List Char) : cleanEnd (front ++ rest) = front ++ cleanEnd rest := by
  have turned : (front.reverse.dropWhile fun c => c.toNat ≤ 0x20) = front.reverse :=
    dropWhile_of_visible fun c inside => visible c (List.mem_reverse.mp inside)
  have kept : (front.filter fun c => c ≠ '\t' && c ≠ '\n' && c ≠ '\r') = front := by
    refine List.filter_eq_self.mpr fun c inside => ?_
    have seen := visible c inside
    have blanks : ∀ mark ∈ "\t\n\r".toList, mark.toNat ≤ 0x20 := Text.of_row (by decide)
    have other (mark : Char) (blank : mark ∈ "\t\n\r".toList) : c ≠ mark := by
      rintro rfl
      exact absurd (blanks c blank) (Nat.not_le.mpr seen)
    simp [other '\t' (by decide), other '\n' (by decide), other '\r' (by decide)]
  rw [cleanEnd, List.reverse_append, List.dropWhile_append, turned]
  split
  next none =>
    have empty : (rest.reverse.dropWhile fun c => c.toNat ≤ 0x20) = [] := by
      simpa using none
    rw [List.reverse_reverse, kept, cleanEnd, empty]
    simp
  · rw [List.reverse_append, List.reverse_reverse, List.filter_append, kept, cleanEnd]

theorem clean_append {front : List Char} (some : front ≠ [])
    (visible : ∀ c ∈ front, 0x20 < c.toNat) (rest : List Char) :
    clean (front ++ rest) = front ++ cleanEnd rest := by
  obtain ⟨c, others, rfl⟩ := List.exists_cons_of_ne_nil some
  have first : ((c :: others ++ rest).dropWhile fun c => c.toNat ≤ 0x20) = c :: others ++ rest :=
    List.dropWhile_cons_of_neg (by simpa using visible c List.mem_cons_self)
  rw [← cleanEnd_append visible]
  exact congrArg cleanEnd first

theorem cleanEnd_visible {text : List Char} (visible : ∀ c ∈ text, 0x20 < c.toNat) :
    cleanEnd text = text := by
  have all := cleanEnd_append visible []
  rwa [List.append_nil, show cleanEnd [] = [] from rfl, List.append_nil] at all

/-! ## Fronts -/

def front (url : Url) : List Char :=
  (url.scheme ++ ":" ++ url.renderAuthority).toList

theorem toList_renderAuthority {url : Url} {host : Host} (found : url.host = some host) :
    url.renderAuthority.toList = '/' :: '/' :: (url.authorityOf host).text := by
  have info : (renderUserinfo url).toList =
      if (url.authorityOf host).info = [] then [] else (url.authorityOf host).info ++ ['@'] := by
    rw [renderUserinfo, Authority.info, authorityOf]
    cases url.password with
    | some password => simp
    | none => by_cases named : url.username = "" <;> simp [named]
  rw [renderAuthority, found]
  simp only [String.toList_append, info, Authority.text, authorityOf]
  cases url.port with
  | none => simp [Authority.portText]
  | some port =>
    have digits : (toString port).toList = Nat.toDigits 10 port.toNat := Nat.toList_repr
    have colon : (toString ":").toList = [':'] := rfl
    simp [Authority.portText, digits, colon]

def withTail (url : Url) (tail : List Char) : Url :=
  let (path, query, fragment) := splitTail tail
  { url with
    path := readPathBehindHost true path
    query := query.map (encodeText (encodedInQuery true))
    fragment := fragment.map (encodeText encodedInFragment) }

section
variable {url : Url}

theorem special_of_web (web : url.Web) : isSpecial url.scheme = true := by
  rcases web.scheme with known | known <;> rw [known] <;> rfl

theorem takeScheme?_of_web (web : url.Web) (rest : List Char) :
    takeScheme? (url.scheme.toList ++ ':' :: rest) = some (url.scheme, rest) := by
  have colon : ':' ∉ url.scheme.toList := by
    rcases web.scheme with known | known <;> rw [known] <;> decide
  rw [takeScheme?, Text.splitOnce?_append colon]
  rcases web.scheme with known | known <;> rw [known] <;> rfl

theorem front_eq {host : Host} (found : url.host = some host) :
    url.front = url.scheme.toList ++ ':' :: '/' :: '/' :: (url.authorityOf host).text := by
  simp [front, toList_renderAuthority found]

theorem visible_front (web : url.Web) : ∀ c ∈ url.front, 0x20 < c.toNat := by
  obtain ⟨host, found, written⟩ := web.authority
  intro c inside
  rw [front_eq found] at inside
  rcases List.mem_append.mp inside with inside | inside
  · have letters : ∀ c ∈ url.scheme.toList, 0x20 < c.toNat := by
      rcases web.scheme with known | known <;> rw [known] <;> exact Text.of_row (by decide)
    exact letters c inside
  simp only [List.mem_cons] at inside
  rcases inside with rfl | rfl | rfl | inside
  · decide
  · decide
  · decide
  · have stand := Authority.stands_text written c inside
    rw [standsInAuthority, Bool.and_eq_true, decide_eq_true_eq] at stand
    exact stand.1

theorem withAuthority_text {host : Host} (web : url.Web) (found : url.host = some host)
    (written : (url.authorityOf host).IsWritten url.scheme) (tail : List Char) :
    withAuthority url.scheme ((url.authorityOf host).text ++ '/' :: tail) =
      .ok (url.withTail ('/' :: tail)) := by
  have stands := Authority.stands_text written
  have taken : (((url.authorityOf host).text ++ '/' :: tail).takeWhile fun c =>
      !endsAuthority true c) = (url.authorityOf host).text := by
    rw [List.takeWhile_append_of_pos]
    · simp [endsAuthority, isSlash]
    · intro c inside
      have stand := stands c inside
      rw [standsInAuthority, Bool.and_eq_true] at stand
      exact stand.2
  unfold withAuthority
  simp only [special_of_web web, taken, List.drop_left,
    Authority.readAuthority_text (special_of_web web) written, withTail, found]
  rw [if_neg fun lone => Authority.text_ne_at (special_of_web web) written lone.1]
  rfl

/-- Whatever begins with the front of a URL and a slash has its scheme and its authority. -/
theorem parseChars_front (web : url.Web) {text tail : List Char}
    (cleaned : clean text = url.front ++ '/' :: tail) :
    parseChars text = .ok (url.withTail ('/' :: tail)) := by
  obtain ⟨host, found, written⟩ := web.authority
  have other : url.scheme ≠ "file" := by
    rcases web.scheme with known | known <;> rw [known] <;> decide
  have pieces : takeScheme? (clean text) =
      some (url.scheme, '/' :: '/' :: ((url.authorityOf host).text ++ '/' :: tail)) := by
    rw [cleaned, front_eq found, List.append_assoc]
    exact takeScheme?_of_web web _
  have slashes : ('/' :: '/' :: ((url.authorityOf host).text ++ '/' :: tail)).dropWhile
      (isSlash true) = (url.authorityOf host).text ++ '/' :: tail := by
    rw [List.dropWhile_cons_of_pos rfl, List.dropWhile_cons_of_pos rfl,
      Authority.dropWhile_text written]
  rw [parseChars, pieces]
  simp only [if_neg other, if_pos (special_of_web web), slashes]
  exact withAuthority_text web found written tail

theorem web_withTail (web : url.Web) (tail : List Char) : (url.withTail tail).Web where
  scheme := web.scheme
  authority := web.authority
  path := isWebPath_readPathBehindHost _
  query := fun _ => keptIn_of_map (Text.of_row (by decide))
  fragment := fun _ => keptIn_of_map (Text.of_row (by decide))

theorem front_concat (web : url.Web) : ∃ before c, c ≠ '/' ∧ url.front = before ++ [c] := by
  obtain ⟨host, found, written⟩ := web.authority
  have some := Authority.text_ne_nil written
  refine ⟨url.scheme.toList ++ ':' :: '/' :: '/' :: (url.authorityOf host).text.dropLast,
    (url.authorityOf host).text.getLast some, ?_, ?_⟩
  · intro slash
    have stand := Authority.stands_text written _ (List.getLast_mem some)
    rw [slash] at stand
    exact absurd stand (by decide)
  · rw [front_eq found, List.append_assoc, List.cons_append, List.cons_append, List.cons_append,
      List.dropLast_concat_getLast]

end

end Url

end FaultMesh
