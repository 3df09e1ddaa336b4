import FaultMesh.Client
import FaultMesh.Proofs.Url.Rereading

/-!
# Written tails

What follows the authority of a URL: a path, and a query and a fragment behind their marks.
A tail is read as the parts that it was written from, and a path whose characters stand for
themselves and none of whose segments is one of dots is read as its pieces.
-/

set_option autoImplicit false

namespace FaultMesh.Url

def tailText (path : List Char) (query fragment : Option (List Char)) : List Char :=
  path ++ (query.elim [] ('?' :: ·) ++ fragment.elim [] ('#' :: ·))

theorem splitTail_tailText {path : List Char} {query : Option (List Char)}
    (mark : '?' ∉ path) (hash : '#' ∉ path) (plain : ∀ text ∈ query, '#' ∉ text)
    (fragment : Option (List Char)) :
    splitTail (tailText path query fragment) = (path, query, fragment) := by
  have before : '#' ∉ path ++ query.elim [] ('?' :: ·) := by
    cases query with
    | none => simpa using hash
    | some text => simp [hash, plain text rfl]
  have inner : Text.splitOnce? '?' (path ++ query.elim [] ('?' :: ·)) = query.map (path, ·) := by
    cases query with
    | none => simp [Text.splitOnce?_of_not_mem mark]
    | some text => simp [Text.splitOnce?_append mark]
  cases fragment with
  | none =>
    have whole : tailText path query none = path ++ query.elim [] ('?' :: ·) := by
      simp [tailText]
    rw [splitTail, whole, Text.splitOnce?_of_not_mem before]
    simp only [inner]
    cases query <;> simp
  | some text =>
    have whole : tailText path query (some text) =
        path ++ query.elim [] ('?' :: ·) ++ '#' :: text := by simp [tailText]
    rw [splitTail, whole, Text.splitOnce?_append before]
    simp only [inner]
    cases query <;> simp

def tail (url : Url) : List Char :=
  tailText (url.path.render true).toList (url.query.map String.toList)
    (url.fragment.map String.toList)

theorem toList_render {url : Url} (web : url.Web) : url.render.toList = url.front ++ url.tail := by
  obtain ⟨host, found, -⟩ := web.authority
  rw [render, front, tail, tailText, found]
  cases url.query <;> cases url.fragment <;> simp

/-! ## Pieces of a path -/

theorem splitOnP_isSlash {text : List Char} (absent : '\\' ∉ text) :
    text.splitOnP (isSlash true) = List.splitOn '/' text := by
  induction text with
  | nil => rfl
  | cons c text ih =>
    rw [List.mem_cons, not_or] at absent
    have slash : isSlash true c = (c == '/') := by
      rw [Bool.eq_iff_iff]
      simp [isSlash, Ne.symm absent.1]
    rw [List.splitOnP_cons_eq_if_modifyHead, List.splitOn_cons_eq_if_modifyHead, ih absent.2, slash]

theorem resolveDots_of_dotless {segments : List String} (some : segments ≠ [])
    (dotless : ∀ segment ∈ segments, isSingleDot segment = false ∧ isDoubleDot segment = false)
    (done : List String) : resolveDots done segments = done.reverse ++ segments := by
  fun_induction resolveDots done segments with
  | case1 => exact absurd rfl some
  | case2 done last double => simp [dotless] at double
  | case3 done last double single => simp [dotless] at single
  | case4 done last double single => simp
  | case5 done first segments more double ih => simp [dotless] at double
  | case6 done first segments more double single ih => simp [dotless] at single
  | case7 done first segments more double single ih =>
    rw [ih more fun segment member => dotless segment (List.mem_cons_of_mem _ member)]
    simp

/-- Is no segment of dots. -/
def Dotless (piece : List Char) : Prop :=
  isSingleDot (String.ofList piece) = false ∧ isDoubleDot (String.ofList piece) = false

/-- A path that is written as it is: without its first slash. -/
structure IsPathText (text : List Char) : Prop where
  kept : ∀ c ∈ text, Percent.Kept encodedInPath c ∧ c ≠ '\\'
  dotless : ∀ piece ∈ List.splitOn '/' text, Dotless piece

theorem IsPathText.not_mem {text : List Char} (written : IsPathText text) {c : Char}
    (other : c ≠ '/') (encoded : encodedInPath c = true) : c ∉ '/' :: text := by
  intro inside
  rcases List.mem_cons.mp inside with slash | inside
  · exact other slash
  · rw [(written.kept c inside).1.2.2] at encoded
    cases encoded

theorem readPath_of_isPathText {text : List Char} (written : IsPathText text) :
    readPath true text = .segments ((List.splitOn '/' text).map String.ofList) := by
  have pieces : (List.splitOn '/' text).map (encodeText encodedInPath) =
      (List.splitOn '/' text).map String.ofList := by
    refine List.map_congr_left fun piece member => ?_
    have kept : ∀ c ∈ piece, Percent.Kept encodedInPath c :=
      fun c inside => (written.kept c (Text.mem_splitOn member c inside).1).1
    rw [encodeText, Percent.encode_of_kept kept]
  have backslash : '\\' ∉ text := fun inside => (written.kept _ inside).2 rfl
  have some : (List.splitOn '/' text).map String.ofList ≠ [] := by simp
  rw [readPath, splitOnP_isSlash backslash, pieces, resolveDots_of_dotless some]
  · rfl
  · intro segment member
    obtain ⟨piece, among, rfl⟩ := List.mem_map.mp member
    exact written.dotless piece among

theorem readPathBehindHost_slash (text : List Char) :
    readPathBehindHost true ('/' :: text) = readPath true text := by
  rw [readPathBehindHost, if_pos (by rfl)]

theorem withTail_slash {text : List Char} (written : IsPathText text)
    {query : Option (List Char)} (plain : ∀ text ∈ query, '#' ∉ text)
    (fragment : Option (List Char)) (url : Url) :
    url.withTail (tailText ('/' :: text) query fragment) =
      { url with
        path := readPath true text
        query := query.map (encodeText (encodedInQuery true))
        fragment := fragment.map (encodeText encodedInFragment) } := by
  have mark : '?' ∉ '/' :: text := written.not_mem (by decide) (by decide)
  have hash : '#' ∉ '/' :: text := written.not_mem (by decide) (by decide)
  rw [withTail, splitTail_tailText mark hash plain]
  simp only [readPathBehindHost_slash]

theorem toList_render_segments {parts : List String} (some : parts ≠ []) :
    ((Path.segments parts).render true).toList =
      '/' :: List.intercalate ['/'] (parts.map String.toList) := by
  have more : parts.map String.toList ≠ [] := by simpa using some
  have slashed : ((Path.segments parts).render true).toList =
      (parts.map String.toList).flatMap ('/' :: ·) := by
    simp [Path.render, String.toList_join, List.flatMap_map]
  rw [slashed, Text.flatMap_eq_intercalate, List.intercalate_cons_of_ne_nil more]
  rfl

/-- A path that is written as it is comes back as it was. -/
theorem render_readPath {text : List Char} (written : IsPathText text) :
    ((readPath true text).render true).toList = '/' :: text := by
  have pieces : ((List.splitOn '/' text).map String.ofList).map String.toList =
      List.splitOn '/' text := by simp [Function.comp_def]
  rw [readPath_of_isPathText written, toList_render_segments, pieces, List.intercalate_splitOn]
  simp

theorem isPathText_of_isWebPath {path : Path} (web : IsWebPath path) :
    ∃ text, (path.render true).toList = '/' :: text ∧ IsPathText text ∧
      readPath true text = path := by
  obtain ⟨parts, rfl, some, segments⟩ := web
  have whole : ∀ piece ∈ parts.map String.toList, '/' ∉ piece := by
    intro piece member inside
    obtain ⟨part, among, rfl⟩ := List.mem_map.mp member
    exact absurd ((segments part among).whole '/' inside) (by decide)
  have pieces := List.splitOn_intercalate '/' whole (by simpa using some)
  have written : IsPathText (List.intercalate ['/'] (parts.map String.toList)) := by
    constructor
    · intro c inside
      rcases Text.mem_intercalate inside with rfl | ⟨piece, member, inside⟩
      · decide
      · obtain ⟨part, among, rfl⟩ := List.mem_map.mp member
        refine ⟨(segments part among).kept c inside, ?_⟩
        rintro rfl
        exact absurd ((segments part among).whole _ inside) (by decide)
    · rw [pieces]
      intro piece member
      obtain ⟨part, among, rfl⟩ := List.mem_map.mp member
      rw [Dotless, String.ofList_toList]
      exact ⟨(segments part among).single, (segments part among).double⟩
  refine ⟨_, toList_render_segments some, written, ?_⟩
  rw [readPath_of_isPathText written, pieces]
  simp [Function.comp_def]

theorem visible_elim {mark : Char} (seen : 0x20 < mark.toNat) {part : Option String}
    (visible : ∀ text, part = some text → ∀ c ∈ text.toList, 0x20 < c.toNat) :
    ∀ c ∈ (part.map String.toList).elim [] (mark :: ·), 0x20 < c.toNat := by
  cases part with
  | none => exact fun c none => nomatch none
  | some text => exact List.forall_mem_cons.mpr ⟨seen, visible text rfl⟩

theorem visible_tail {url : Url} (web : url.Web) : ∀ c ∈ url.tail, 0x20 < c.toNat := by
  obtain ⟨text, rendered, written, -⟩ := isPathText_of_isWebPath web.path
  intro c inside
  rw [tail, rendered] at inside
  rcases List.mem_append.mp inside with inside | inside
  · rcases List.mem_cons.mp inside with rfl | inside
    · decide
    · exact Percent.visible_of_kept rfl (written.kept c inside).1
  rcases List.mem_append.mp inside with inside | inside
  · refine visible_elim (by decide) (fun query found c inside => ?_) c inside
    exact Percent.visible_of_kept rfl (web.query query found c inside)
  · refine visible_elim (by decide) (fun fragment found c inside => ?_) c inside
    exact Percent.visible_of_kept rfl (web.fragment fragment found c inside)

end FaultMesh.Url
