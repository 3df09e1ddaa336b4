import FaultMesh.Proofs.Client.Addressing

/-!
# Where paths land

A path of slashes and unreserved characters is put behind the last part that the configured
URL has.  Behind a path it makes a longer path; behind a query or a fragment it makes a longer
query or fragment, and the path of the request is the configured one.
-/

set_option autoImplicit false

namespace FaultMesh.Client

def isUnreserved (c : Char) : Bool := Text.isAlphanumeric c || "-_~.".toList.contains c

/-- Slashes and unreserved characters, and no segment of dots. -/
structure IsPlainPath (path : List Char) : Prop where
  chars : ∀ c ∈ path, c = '/' ∨ isUnreserved c = true
  dotless : ∀ piece ∈ List.splitOn '/' path, piece ≠ ['.'] ∧ piece ≠ ['.', '.']

theorem lt_of_isUnreserved {c : Char} (free : isUnreserved c = true) : c.toNat < 0x7F := by
  have upTo {last : Char} (le : c ≤ last) (low : last.toNat < 0x7F) : c.toNat < 0x7F :=
    Nat.lt_of_le_of_lt le low
  simp only [isUnreserved, Text.isAlphanumeric, Text.isLetter, Text.isDigit, Bool.or_eq_true,
    Bool.and_eq_true, decide_eq_true_eq, List.contains_iff_mem] at free
  rcases free with ((lower | upper) | digit) | mark
  · exact upTo lower.2 (by decide)
  · exact upTo upper.2 (by decide)
  · exact upTo digit.2 (by decide)
  · have marks : ∀ c ∈ "-_~.".toList, c.toNat < 0x7F := Text.of_row (by decide)
    exact marks c mark

theorem IsPlainPath.of_mem {path : List Char} (plain : IsPlainPath path) (holds : Char → Bool)
    (slash : holds '/' = true)
    (table : ∀ n ∈ List.range' 0 0x7F, isUnreserved (Char.ofNat n) = true →
      holds (Char.ofNat n) = true)
    {c : Char} (inside : c ∈ path) : holds c = true := by
  rcases plain.chars c inside with rfl | free
  · exact slash
  · exact Text.of_range (P := fun c => isUnreserved c = true → holds c = true) table
      (Nat.zero_le _) (by simpa using lt_of_isUnreserved free) free

/-- Segments of dots can also be written with octets. -/
theorem dots_of_not_dotless {piece : List Char} (dots : ¬ Url.Dotless piece) :
    piece = ['.'] ∨ piece = ['.', '.'] ∨ '%' ∈ piece := by
  have single : ∀ form ∈ [".", "%2e", "%2E"],
      form.toList = ['.'] ∨ form.toList = ['.', '.'] ∨ '%' ∈ form.toList := by decide
  have double : ∀ form ∈ ["..", ".%2e", ".%2E", "%2e.", "%2E.", "%2e%2e", "%2e%2E", "%2E%2e",
      "%2E%2E"], form.toList = ['.'] ∨ form.toList = ['.', '.'] ∨ '%' ∈ form.toList := by decide
  rw [← String.toList_ofList (l := piece)]
  rw [Url.Dotless, Decidable.not_and_iff_or_not] at dots
  rcases dots with dots | dots
  · exact single _ (List.contains_iff_mem.mp (Bool.of_not_eq_false dots))
  · exact double _ (List.contains_iff_mem.mp (Bool.of_not_eq_false dots))

theorem dotless_of_plain {path : List Char} (plain : IsPlainPath path) :
    ∀ piece ∈ List.splitOn '/' path, Url.Dotless piece := by
  intro piece member
  obtain ⟨single, double⟩ := plain.dotless piece member
  by_contra dots
  rcases dots_of_not_dotless dots with one | two | octet
  · exact single one
  · exact double two
  · have other := plain.of_mem (· ≠ '%') (by decide) (by decide +kernel)
      (Text.mem_splitOn member _ octet).1
    simp at other

theorem mem_joinPath {part path : List Char} {c : Char} (inside : c ∈ joinPath part path) :
    c ∈ part ∨ c = '/' ∨ c ∈ path := by
  rw [joinPath_eq] at inside
  rcases List.mem_append.mp inside with before | behind
  · rw [dropSlashes, List.mem_reverse] at before
    exact .inl (List.mem_reverse.mp ((List.dropWhile_sublist _).mem before))
  rcases List.mem_cons.mp behind with slash | behind
  · exact .inr (.inl slash)
  · exact .inr (.inr ((List.dropWhile_sublist _).mem behind))

def joinText (part path : String) : String :=
  String.ofList (joinPath part.toList path.toList)

theorem kept_joinPath {needed : Char → Bool} (slash : Percent.Kept needed '/')
    {part path : List Char} (before : ∀ c ∈ part, Percent.Kept needed c)
    (behind : ∀ c ∈ path, Percent.Kept needed c) :
    ∀ c ∈ joinPath part path, Percent.Kept needed c := by
  intro c inside
  rcases mem_joinPath inside with inside | rfl | inside
  · exact before c inside
  · exact slash
  · exact behind c inside

theorem isPathText_joinPath {text path : List Char} (written : Url.IsPathText text)
    (plain : IsPlainPath path) :
    ∃ rest, joinPath ('/' :: text) path = '/' :: rest ∧ Url.IsPathText rest := by
  obtain ⟨rest, joined⟩ := joinPath_slash text path
  refine ⟨rest, joined, ?_, ?_⟩
  · intro c inside
    have here : c ∈ joinPath ('/' :: text) path := joined ▸ List.mem_cons_of_mem _ inside
    have slash : Percent.Kept Url.encodedInPath '/' ∧ '/' ≠ '\\' := by decide
    rcases mem_joinPath here with inside | rfl | inside
    · rcases List.mem_cons.mp inside with rfl | inside
      · exact slash
      · exact written.kept c inside
    · exact slash
    · have both := plain.of_mem
        (fun c => decide (Percent.Kept Url.encodedInPath c ∧ c ≠ '\\')) (by decide)
        (by decide +kernel) inside
      exact of_decide_eq_true both
  · intro piece member
    have slashed (rest : List Char) : List.splitOn '/' ('/' :: rest) = [] :: List.splitOn '/' rest :=
      List.splitOn_append_cons_self_of_not_mem List.not_mem_nil rest
    have among : piece ∈ List.splitOn '/' (joinPath ('/' :: text) path) := by
      rw [joined, slashed]
      exact List.mem_cons_of_mem _ member
    rw [joinPath_eq, List.splitOn_append_cons_self] at among
    rcases List.mem_append.mp among with before | behind
    · have first := Text.mem_splitOn_dropEnd before
      rw [slashed] at first
      rcases List.mem_cons.mp first with rfl | first
      · exact ⟨rfl, rfl⟩
      · exact written.dotless piece first
    · exact dotless_of_plain plain piece (Text.mem_splitOn_dropWhile behind)

/-! ## Tails -/

section
variable {domain : Url} {path : String}

theorem visible_joinPath {text : List Char} (visible : ∀ c ∈ text, 0x20 < c.toNat)
    (plain : IsPlainPath path.toList) :
    ∀ c ∈ joinPath text path.toList, 0x20 < c.toNat := by
  intro c inside
  rcases mem_joinPath inside with inside | rfl | inside
  · exact visible c inside
  · decide
  · have seen := plain.of_mem (fun c => 0x20 < c.toNat) (by decide) (by decide +kernel) inside
    simpa using seen

theorem encodeText_joinPath {needed : Char → Bool} (slash : Percent.Kept needed '/')
    (free : ∀ n ∈ List.range' 0 0x7F, isUnreserved (Char.ofNat n) = true →
      decide (Percent.Kept needed (Char.ofNat n)) = true)
    (plain : IsPlainPath path.toList) {part : String} (kept : Url.KeptIn needed part) :
    Url.encodeText needed (joinPath part.toList path.toList) = joinText part path := by
  have behind : ∀ c ∈ path.toList, Percent.Kept needed c := fun c inside =>
    of_decide_eq_true
      (plain.of_mem (fun c => decide (Percent.Kept needed c)) (decide_eq_true slash) free inside)
  rw [Url.encodeText, Percent.encode_of_kept (kept_joinPath slash kept behind), joinText]

theorem below_eq (web : domain.Web) (plain : IsPlainPath path.toList) :
    below domain path = domain.withTail (joinPath domain.tail path.toList) := by
  rw [below, Url.cleanEnd_visible (visible_joinPath (Url.visible_tail web) plain)]

theorem below_path (web : domain.Web) (plain : IsPlainPath path.toList)
    (unqueried : domain.query = none) (unmarked : domain.fragment = none) :
    (below domain path).path.render true = joinText (domain.path.render true) path ∧
      (below domain path).query = none ∧ (below domain path).fragment = none := by
  obtain ⟨text, rendered, written, -⟩ := Url.isPathText_of_isWebPath web.path
  obtain ⟨rest, joined, longer⟩ := isPathText_joinPath written plain
  have tail : joinPath domain.tail path.toList = Url.tailText ('/' :: rest) none none := by
    simp [Url.tail, Url.tailText, rendered, unqueried, unmarked, joined]
  rw [below_eq web plain, tail, Url.withTail_slash longer (by simp)]
  refine ⟨?_, rfl, rfl⟩
  rw [← String.toList_inj, Url.render_readPath longer, joinText, rendered, joined,
    String.toList_ofList]

theorem below_query (web : domain.Web) (plain : IsPlainPath path.toList) {query : String}
    (queried : domain.query = some query) (unmarked : domain.fragment = none) :
    below domain path = { domain with query := some (joinText query path) } := by
  obtain ⟨text, rendered, written, reread⟩ := Url.isPathText_of_isWebPath web.path
  have kept := web.query query queried
  have longer : Url.encodeText (Url.encodedInQuery true) (joinPath query.toList path.toList) =
      joinText query path :=
    encodeText_joinPath (by decide) (by decide +kernel) plain kept
  have hash : '#' ∉ joinPath query.toList path.toList := by
    intro inside
    rcases mem_joinPath inside with inside | slash | inside
    · exact absurd (kept _ inside) (by decide)
    · exact absurd slash (by decide)
    · have other := plain.of_mem (· ≠ '#') (by decide) (by decide +kernel) inside
      simp at other
  have tail : joinPath domain.tail path.toList =
      Url.tailText ('/' :: text) (some (joinPath query.toList path.toList)) none := by
    have own : domain.tail = '/' :: text ++ '?' :: query.toList := by
      simp [Url.tail, Url.tailText, rendered, queried, unmarked]
    rw [own, joinPath_append (by decide)]
    simp [Url.tailText]
  rw [below_eq web plain, tail, Url.withTail_slash written (by simpa using hash), reread]
  simp [longer, unmarked]

theorem below_fragment (web : domain.Web) (plain : IsPlainPath path.toList) {fragment : String}
    (marked : domain.fragment = some fragment) :
    below domain path = { domain with fragment := some (joinText fragment path) } := by
  obtain ⟨text, rendered, written, reread⟩ := Url.isPathText_of_isWebPath web.path
  have longer : Url.encodeText Url.encodedInFragment (joinPath fragment.toList path.toList) =
      joinText fragment path :=
    encodeText_joinPath (by decide) (by decide +kernel) plain (web.fragment fragment marked)
  have hash : ∀ query ∈ domain.query.map String.toList, '#' ∉ query := by
    intro written found inside
    obtain ⟨query, queried, rfl⟩ := Option.map_eq_some_iff.mp found
    exact absurd (web.query query queried _ inside) (by decide)
  have own : (domain.query.map String.toList).map (Url.encodeText (Url.encodedInQuery true)) =
      domain.query := by
    cases found : domain.query with
    | none => rfl
    | some query => simp [Url.encodeText_of_keptIn (web.query query found)]
  have tail : joinPath domain.tail path.toList =
      Url.tailText ('/' :: text) (domain.query.map String.toList)
        (some (joinPath fragment.toList path.toList)) := by
    have own : domain.tail = ('/' :: text ++ (domain.query.map String.toList).elim [] ('?' :: ·)) ++
        '#' :: fragment.toList := by
      simp [Url.tail, Url.tailText, rendered, marked]
    rw [own, joinPath_append (by decide)]
    simp [Url.tailText]
  rw [below_eq web plain, tail, Url.withTail_slash written hash, reread, own]
  simp [longer]

/-- A plain path lands behind the last part of the configured URL: in the path only where
that URL has neither a query nor a fragment. -/
theorem urlFor_plain {config : Config} {client : Client} {component : String}
    (accepted : config.Accepted) (same : client.domains = config.domains)
    (known : config.domains.get? component = some domain) (web : isSendable domain = true)
    (plain : IsPlainPath path.toList) :
    ∃ url, client.urlFor false component path = .ok url ∧
      (domain.query = none → domain.fragment = none →
        url.path.render true = joinText (domain.path.render true) path ∧
          url.query = none ∧ url.fragment = none) ∧
      (∀ query, domain.query = some query → domain.fragment = none →
        url = { domain with query := some (joinText query path) }) ∧
      (∀ fragment, domain.fragment = some fragment →
        url = { domain with fragment := some (joinText fragment path) }) := by
  have made := urlFor_eq accepted same known web false path
  have web := web_of_accepted accepted known web
  exact ⟨below domain path, made, below_path web plain, fun _ => below_query web plain,
    fun _ => below_fragment web plain⟩

/-- Behind a path with a slash at its end, and behind a query. -/
theorem urlFor_plain_components :
    ∃ config, ∃ users orders : Url, Config.parse ⟨[]⟩ componentsSource = .ok config ∧
      (ofDomains config.domains).urlFor false "users" "//list" = .ok users ∧
        users.path.render true = "/api/list" ∧
      (ofDomains config.domains).urlFor false "orders" "//list" = .ok orders ∧
        orders.path = .segments ["v1"] ∧ orders.query = some "tenant=7/list" := by
  obtain ⟨config, parsed, knownUsers, knownOrders⟩ := parse_componentsSource
  have accepted := Config.accepted_of_parse parsed
  have plain : IsPlainPath "//list".toList := ⟨Text.of_row (by decide), by decide⟩
  obtain ⟨users, first, path, -, -⟩ := urlFor_plain accepted (domains_ofDomains _) knownUsers
    (by decide) plain
  obtain ⟨orders, second, -, query, -⟩ := urlFor_plain accepted (domains_ofDomains _) knownOrders
    (by decide) plain
  have whole := query "tenant=7" rfl rfl
  refine ⟨config, users, orders, parsed, first, (path rfl rfl).1, second, ?_, ?_⟩
  · rw [whole]
    rfl
  · rw [whole]
    decide +kernel

/-- Behind a query a path does not make the path of the request longer. -/
theorem path_lost :
    ∃ config, ∃ domain url : Url, Config.parse ⟨[]⟩ componentsSource = .ok config ∧
      config.domains.get? "orders" = some domain ∧ isSendable domain = true ∧
      IsPlainPath "/list".toList ∧
      (ofDomains config.domains).urlFor false "orders" "/list" = .ok url ∧
        url.path.render true ≠ joinText (domain.path.render true) "/list" := by
  obtain ⟨config, parsed, -, known⟩ := parse_componentsSource
  have accepted := Config.accepted_of_parse parsed
  have plain : IsPlainPath "/list".toList := ⟨Text.of_row (by decide), by decide⟩
  have made := urlFor_eq accepted (domains_ofDomains _) known (by decide) false "/list"
  have longer := below_query (web_of_accepted accepted known (by decide)) plain rfl rfl
  refine ⟨config, ordersDomain, _, parsed, known, by decide, plain, made, ?_⟩
  rw [longer]
  decide +kernel

end

end FaultMesh.Client
