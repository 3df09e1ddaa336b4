import FaultMesh.Proofs.Outcome
import FaultMesh.Proofs.Url.Host
import FaultMesh.Url

/-!
# URLs that were read

A URL of the web that was read has a host, and its other parts are in the form in which they
are written: nothing in them would be encoded in its place, or end the part that it stands in.
No segment of its path is one of dots.
-/

set_option autoImplicit false

namespace FaultMesh

namespace Percent

variable {needed : Char → Bool}

/-- Stands for itself in a place. -/
def Kept (needed : Char → Bool) (c : Char) : Prop :=
  0x20 ≤ c.toNat ∧ c.toNat < 0x7F ∧ needed c = false

instance (c : Char) : Decidable (Kept needed c) :=
  inferInstanceAs (Decidable (_ ∧ _ ∧ _))

theorem visible_of_kept (space : needed ' ' = true) {c : Char} (kept : Kept needed c) :
    0x20 < c.toNat := by
  obtain ⟨lower, -, free⟩ := kept
  refine Nat.lt_of_le_of_ne lower fun same => ?_
  have blank : c = ' ' := Char.toNat_inj.mp same.symm
  rw [blank, space] at free
  cases free

def octetChars : List Char := "%0123456789ABCDEF".toList

theorem encodeChar_of_kept {c : Char} (kept : Kept needed c) : encodeChar needed c = [c] := by
  obtain ⟨lower, upper, free⟩ := kept
  have high : ¬ 0x7F ≤ c.toNat := by omega
  have low : ¬ c.toNat < 0x20 := by omega
  simp [encodeChar, high, low, free]

theorem encode_of_kept {text : List Char} (kept : ∀ c ∈ text, Kept needed c) :
    encode needed text = text := by
  induction text with
  | nil => rfl
  | cons c text ih =>
    rw [encode, List.flatMap_cons, encodeChar_of_kept (kept c List.mem_cons_self)]
    exact congrArg (c :: ·) (ih fun c inside => kept c (List.mem_cons_of_mem _ inside))

theorem upperHexDigit_mem {n : Nat} (small : n < 16) : upperHexDigit n ∈ octetChars := by
  have all : ∀ n < 16, upperHexDigit n ∈ octetChars := by decide
  exact all n small

theorem mem_encodeOctet {octet : UInt8} {c : Char} (inside : c ∈ encodeOctet octet) :
    c ∈ octetChars := by
  have small := octet.toNat_lt
  rw [encodeOctet, List.mem_cons, List.mem_cons, List.mem_singleton] at inside
  rcases inside with rfl | rfl | rfl
  · decide
  · exact upperHexDigit_mem (by omega)
  · exact upperHexDigit_mem (by omega)

theorem mem_encode {text : List Char} {c : Char} (inside : c ∈ encode needed text) :
    (c ∈ text ∧ Kept needed c) ∨ c ∈ octetChars := by
  obtain ⟨original, member, inside⟩ := List.mem_flatMap.mp inside
  unfold encodeChar at inside
  split at inside
  · obtain ⟨octet, -, inside⟩ := List.mem_flatMap.mp inside
    exact .inr (mem_encodeOctet inside)
  next free =>
    rw [List.mem_singleton.mp inside]
    simp only [Bool.or_eq_true, decide_eq_true_eq, not_or, Nat.not_le, Nat.not_lt,
      Bool.not_eq_true] at free
    exact .inl ⟨member, free.1.2, free.1.1, free.2⟩

/-- Nothing is left to encode, as long as octets are not written with it. -/
theorem kept_of_mem_encode (octets : ∀ c ∈ octetChars, Kept needed c) {text : List Char}
    {c : Char} (inside : c ∈ encode needed text) : Kept needed c := by
  rcases mem_encode inside with ⟨-, kept⟩ | written
  · exact kept
  · exact octets c written

theorem encode_ne_nil {text : List Char} (some : text ≠ []) : encode needed text ≠ [] := by
  obtain ⟨c, others, rfl⟩ := List.exists_cons_of_ne_nil some
  have first : encodeChar needed c ≠ [] := by
    unfold encodeChar
    split
    · intro none
      have octets : String.utf8EncodeChar c = [] := by
        refine List.eq_nil_iff_forall_not_mem.mpr fun octet inside => ?_
        exact absurd (List.flatMap_eq_nil_iff.mp none octet inside) (by simp [encodeOctet])
      have length := String.length_utf8EncodeChar c
      rw [octets] at length
      exact absurd length (Nat.ne_of_lt c.utf8Size_pos)
    · exact List.cons_ne_nil _ _
  rw [encode, List.flatMap_cons]
  exact fun none => first (List.append_eq_nil_iff.mp none).1

end Percent

namespace Url

/-! ## Paths -/

structure IsSegment (segment : String) : Prop where
  kept : ∀ c ∈ segment.toList, Percent.Kept encodedInPath c
  whole : ∀ c ∈ segment.toList, isSlash true c = false
  single : isSingleDot segment = false
  double : isDoubleDot segment = false

/-- What holds of the segments that are none of dots holds of all that are left. -/
theorem all_resolveDots {Fine : String → Prop} (empty : Fine "") {done segments : List String}
    (before : ∀ segment ∈ done, Fine segment)
    (behind : ∀ segment ∈ segments, isSingleDot segment = false → isDoubleDot segment = false →
      Fine segment) :
    ∀ segment ∈ resolveDots done segments, Fine segment := by
  fun_induction resolveDots done segments with
  | case1 done => simpa using before
  | case2 done last double =>
    intro segment member
    rcases List.mem_cons.mp (List.mem_reverse.mp member) with rfl | member
    · exact empty
    · exact before segment (List.mem_of_mem_drop member)
  | case3 done last double single =>
    intro segment member
    rcases List.mem_cons.mp (List.mem_reverse.mp member) with rfl | member
    · exact empty
    · exact before segment member
  | case4 done last double single =>
    intro segment member
    rcases List.mem_cons.mp (List.mem_reverse.mp member) with rfl | member
    · exact behind segment List.mem_cons_self (Bool.not_eq_true _ ▸ single)
        (Bool.not_eq_true _ ▸ double)
    · exact before segment member
  | case5 done first segments more double ih =>
    refine ih (fun segment member => before segment (List.mem_of_mem_drop member)) ?_
    exact fun segment member => behind segment (List.mem_cons_of_mem _ member)
  | case6 done first segments more double single ih =>
    exact ih before fun segment member => behind segment (List.mem_cons_of_mem _ member)
  | case7 done first segments more double single ih =>
    refine ih (List.forall_mem_cons.mpr ⟨?_, before⟩) ?_
    · exact behind first List.mem_cons_self (Bool.not_eq_true _ ▸ single)
        (Bool.not_eq_true _ ▸ double)
    · exact fun segment member => behind segment (List.mem_cons_of_mem _ member)

theorem resolveDots_ne_nil {segments : List String} (some : segments ≠ [])
    (done : List String) : resolveDots done segments ≠ [] := by
  fun_induction resolveDots done segments with
  | case1 => exact absurd rfl some
  | case2 => simp
  | case3 => simp
  | case4 => simp
  | case5 done first segments more double ih => exact ih more
  | case6 done first segments more double single ih => exact ih more
  | case7 done first segments more double single ih => exact ih more

/-- The segments of a path as they are written. -/
def IsWebPath (path : Path) : Prop :=
  ∃ parts, path = .segments parts ∧ parts ≠ [] ∧ ∀ part ∈ parts, IsSegment part

theorem isSegment_empty : IsSegment "" where
  kept := fun _ none => nomatch none
  whole := fun _ none => nomatch none
  single := rfl
  double := rfl

theorem isSegment_encodeText {piece : List Char} (whole : ∀ c ∈ piece, isSlash true c = false)
    (single : isSingleDot (encodeText encodedInPath piece) = false)
    (double : isDoubleDot (encodeText encodedInPath piece) = false) :
    IsSegment (encodeText encodedInPath piece) := by
  refine ⟨?_, ?_, single, double⟩
  · rw [encodeText, String.toList_ofList]
    exact fun c => Percent.kept_of_mem_encode (Text.of_row (by decide))
  · rw [encodeText, String.toList_ofList]
    intro c inside
    rcases Percent.mem_encode inside with ⟨inside, -⟩ | octet
    · exact whole c inside
    · have all : ∀ c ∈ Percent.octetChars, isSlash true c = false := Text.of_row (by decide)
      exact all c octet

theorem isWebPath_readPath (text : List Char) : IsWebPath (readPath true text) := by
  refine ⟨_, rfl, ?_, ?_⟩
  · exact resolveDots_ne_nil (by simp) []
  refine all_resolveDots isSegment_empty (fun _ none => nomatch none) ?_
  intro segment member single double
  obtain ⟨piece, among, rfl⟩ := List.mem_map.mp member
  exact isSegment_encodeText (fun c inside => (Text.mem_splitOnP among c inside).2) single double

theorem isWebPath_readPathBehindHost (text : List Char) :
    IsWebPath (readPathBehindHost true text) := by
  unfold readPathBehindHost
  split
  · refine ⟨[""], rfl, List.cons_ne_nil _ _, fun part member => ?_⟩
    rw [List.mem_singleton.mp member]
    exact isSegment_empty
  · split
    · exact isWebPath_readPath _
    · exact isWebPath_readPath _

def KeptIn (needed : Char → Bool) (part : String) : Prop :=
  ∀ c ∈ part.toList, Percent.Kept needed c

theorem keptIn_encodeText {needed : Char → Bool}
    (octets : ∀ c ∈ Percent.octetChars, Percent.Kept needed c) (text : List Char) :
    KeptIn needed (encodeText needed text) := by
  rw [KeptIn, encodeText, String.toList_ofList]
  exact fun c => Percent.kept_of_mem_encode octets

theorem keptIn_of_map {needed : Char → Bool}
    (octets : ∀ c ∈ Percent.octetChars, Percent.Kept needed c) {text : Option (List Char)}
    {part : String} (found : text.map (encodeText needed) = some part) : KeptIn needed part := by
  obtain ⟨text, -, rfl⟩ := Option.map_eq_some_iff.mp found
  exact keptIn_encodeText octets text

theorem encodeText_of_keptIn {needed : Char → Bool} {part : String} (kept : KeptIn needed part) :
    encodeText needed part.toList = part := by
  rw [encodeText, Percent.encode_of_kept kept, String.ofList_toList]

theorem encodeText_ne_empty {needed : Char → Bool} {text : List Char} (some : text ≠ []) :
    encodeText needed text ≠ "" := by
  intro empty
  have chars := congrArg String.toList empty
  rw [encodeText, String.toList_ofList] at chars
  exact Percent.encode_ne_nil some chars

structure Authority.IsWritten (scheme : String) (authority : Authority) : Prop where
  username : KeptIn encodedInUserinfo authority.username
  password : ∀ password, authority.password = some password →
    password ≠ "" ∧ KeptIn encodedInUserinfo password
  host : Host.Stands authority.host.render.toList authority.host
  port : ∀ port, authority.port = some port → defaultPort? scheme ≠ some port.toNat

theorem keptIn_username (text : List Char) :
    KeptIn encodedInUserinfo (readUserinfo text).1 :=
  keptIn_encodeText (Text.of_row (by decide)) _

theorem keptIn_password {text : List Char} {password : String}
    (found : (readUserinfo text).2 = some password) :
    password ≠ "" ∧ KeptIn encodedInUserinfo password := by
  unfold readUserinfo at found
  obtain ⟨original, given, rfl⟩ := Option.map_eq_some_iff.mp found
  refine ⟨encodeText_ne_empty ?_, keptIn_encodeText (Text.of_row (by decide)) _⟩
  rintro rfl
  split at given
  · split at given
    · cases given
    next filled =>
      cases given
      exact filled rfl
  · cases given

theorem stands_of_readHostText {text : List Char} {host : Host}
    (read : readHostText true text = .ok host) : Host.Stands host.render.toList host := by
  rw [readHostText, if_pos rfl] at read
  split at read
  · cases read
  · exact Host.stands_render read

theorem port_of_readPort {scheme : String} {text : List Char} {port : UInt16}
    (read : readPort scheme text = .ok (some port)) : defaultPort? scheme ≠ some port.toNat := by
  unfold readPort at read
  split at read
  · cases read
  split at read
  · cases read
  simp only at read
  split at read
  · cases read
  next small =>
    split at read
    · cases read
    next other =>
      cases read
      rw [UInt16.toNat_ofNat', Nat.mod_eq_of_lt (Nat.lt_of_not_le small)]
      exact other

theorem isWritten_of_readAuthority {scheme : String} {text : List Char} {authority : Authority}
    (special : isSpecial scheme = true) (read : readAuthority scheme text = .ok authority) :
    authority.IsWritten scheme := by
  unfold readAuthority at read
  simp only [special] at read
  obtain ⟨host, made, rest⟩ := bind_eq_ok.mp read
  have stands := stands_of_readHostText made
  split at rest
  · cases rest
  split at rest
  · split at rest
    · cases rest
    · obtain ⟨port, found, made⟩ := bind_eq_ok.mp rest
      obtain rfl := pure_eq_ok.mp made
      refine ⟨keptIn_username _, fun _ => keptIn_password, stands, ?_⟩
      rintro _ rfl
      exact port_of_readPort found
  · obtain rfl := pure_eq_ok.mp rest
    exact ⟨keptIn_username _, fun _ => keptIn_password, stands, fun _ none => nomatch none⟩

/-! ## URLs of the web -/

def authorityOf (url : Url) (host : Host) : Authority :=
  ⟨url.username, url.password, host, url.port⟩

/-- A URL of the web whose parts are as they are written. -/
structure Web (url : Url) : Prop where
  scheme : url.scheme = "http" ∨ url.scheme = "https"
  authority : ∃ host, url.host = some host ∧ (url.authorityOf host).IsWritten url.scheme
  path : IsWebPath url.path
  query : ∀ query, url.query = some query → KeptIn (encodedInQuery true) query
  fragment : ∀ fragment, url.fragment = some fragment → KeptIn encodedInFragment fragment

theorem web_of_withAuthority {scheme : String} (known : scheme = "http" ∨ scheme = "https")
    {text : List Char} {url : Url} (read : withAuthority scheme text = .ok url) : url.Web := by
  have special : isSpecial scheme = true := by rcases known with rfl | rfl <;> rfl
  unfold withAuthority at read
  simp only [special] at read
  split at read
  · cases read
  obtain ⟨authority, found, made⟩ := bind_eq_ok.mp read
  obtain rfl := pure_eq_ok.mp made
  exact ⟨known, ⟨_, rfl, isWritten_of_readAuthority special found⟩,
    isWebPath_readPathBehindHost _, fun _ => keptIn_of_map (Text.of_row (by decide)),
    fun _ => keptIn_of_map (Text.of_row (by decide))⟩

theorem scheme_of_withAuthority {scheme : String} {text : List Char} {url : Url}
    (read : withAuthority scheme text = .ok url) : url.scheme = scheme := by
  unfold withAuthority at read
  simp only at read
  split at read
  · cases read
  obtain ⟨authority, -, made⟩ := bind_eq_ok.mp read
  obtain rfl := pure_eq_ok.mp made
  rfl

theorem scheme_of_ofFile {text : List Char} {url : Url} (read : ofFile text = .ok url) :
    url.scheme = "file" := by
  unfold ofFile at read
  simp only at read
  split at read
  · split at read
    · obtain ⟨host, -, made⟩ := bind_eq_ok.mp read
      obtain rfl := pure_eq_ok.mp made
      rfl
    · obtain ⟨host, -, made⟩ := bind_eq_ok.mp read
      obtain rfl := pure_eq_ok.mp made
      rfl
  · obtain rfl := pure_eq_ok.mp read
    rfl

/-- A URL of the web that was read has all its parts as they are written. -/
theorem web_of_parse {text : String} {url : Url} (read : parse text = .ok url)
    (known : url.scheme = "http" ∨ url.scheme = "https") : url.Web := by
  unfold parse parseChars at read
  split at read
  · cases read
  next scheme rest _ =>
    split at read
    · rw [scheme_of_ofFile read] at known
      exact absurd known (by decide)
    split at read
    · rw [scheme_of_withAuthority read] at known
      exact web_of_withAuthority known read
    next other =>
      have strange : url.scheme = scheme := by
        split at read
        · exact scheme_of_withAuthority read
        · cases read
          rfl
      rw [strange] at known
      rcases known with rfl | rfl <;> exact absurd rfl other

end Url

end FaultMesh
