import Mathlib.Data.List.Forall2
import FaultMesh.Proofs.Config
import FaultMesh.Proofs.Json.Exact
import FaultMesh.Proofs.Registry.Merged
import FaultMesh.Proofs.Service.Paging
import FaultMesh.Service
import FaultMesh.Service.Catalog

/-!
# Paging through the catalog

A caller that asks for page after page, until one is not full, has seen every code of the
registry once, in order and with its definition.  An answer says what the page says, since
its document is read back as it was written; the pages follow each other by induction.
-/

set_option autoImplicit false

namespace FaultMesh

namespace Datum

def nat? : Datum → Option Nat
  | .number (.whole value _) => if 0 ≤ value then some value.toNat else none
  | _ => none

def items? : Datum → Option (List Datum)
  | .list items => some items
  | _ => none

theorem nat?_ofNat {n : Nat} (small : n < 2 ^ 64) : (ofNat n).nat? = some n := by
  have fits : Decimal.FitsSigned 64 n ∨ Decimal.FitsUnsigned 64 n :=
    .inr ⟨Int.natCast_nonneg n, by exact_mod_cast small⟩
  have value : (number (.whole n fits)).nat? = some n := by
    simp [nat?]
  rw [ofNat, ofInt, Number.ofInt?, dif_pos fits]
  exact value

end Datum

namespace Catalog

def service (gate : PathGate) (config : Config) (registry : Registry) : Service :=
  ⟨[Service.health, route],
    [.gate gate, .api config.api, .context (.ofConfig config registry)]⟩

section Answering
variable {config : Config} {registry : Registry} (gate : PathGate) (ambient : Ambient)
  (fields : Http.Fields)

theorem ofConfig_of_valid (valid : Config.apiFlaw? config.api = none) :
    ∃ gate, Service.ofConfig config registry [route] = .ok (service gate config registry) := by
  obtain ⟨gate, read⟩ := ((Config.apiFlaw?_eq_none_iff config.api).mp valid).gate
  refine ⟨gate, ?_⟩
  rw [Service.ofConfig, read]
  rfl

theorem handler_page {scope : Scope} {reporter : Reporter} {api : ApiSettings} {paging : Paging}
    (given : scope.reporter = some reporter) (settings : scope.api = some api)
    (asked : Paging.read api (scope.request.target.query.getD "") = .ok paging) :
    handler ambient scope = (.json 200 (page reporter.registry paging), []) := by
  have paged : Paging.ofQuery reporter ambient api scope.request.target.query = .ok paging := by
    rw [Paging.ofQuery, asked]
    rfl
  simp only [handler, Scope.withReporter, Scope.withPaging, given, settings, paged]

/-- A request without parameters passes every gate, and its handler gets the settings and
the reporter of the service. -/
theorem layered_free (inner : Handler) (request : Http.Request) :
    ((service gate config registry).layered inner ambient (.ofRequest request (.ok []))).1 =
      (inner ambient ⟨request, .ok [], some config.api,
        some ((ContextSettings.ofConfig config registry).reporterFor request)⟩).1 :=
  rfl

theorem respond_page {query : String} {paging : Paging}
    (asked : Paging.read config.api query = .ok paging) :
    ((service gate config registry).respond ambient ⟨"GET", ⟨"/errors", some query⟩, fields⟩).1 =
      .json 200 (page registry paging) := by
  let request : Http.Request := ⟨"GET", ⟨"/errors", some query⟩, fields⟩
  let reporter := (ContextSettings.ofConfig config registry).reporterFor request
  let scope : Scope := ⟨request, .ok [], some config.api, some reporter⟩
  have given : scope.reporter = some reporter := rfl
  have settings : scope.api = some config.api := rfl
  have routes : (service gate config registry).routesOf? "/errors" = some ([route], []) := rfl
  have answered : (service gate config registry).answer ambient request =
      (service gate config registry).layered handler ambient (.ofRequest request (.ok [])) := by
    rw [Service.answer]
    simp only [request, routes]
    rfl
  have whole : ((service gate config registry).respond ambient request).1 =
      ((service gate config registry).answer ambient request).1 := by
    simp [Service.respond, request]
  rw [whole, answered, layered_free, handler_page ambient given settings asked]
  rfl

end Answering

/-! ## What a page says -/

/-- The number of all codes, as a page tells it. -/
def total? (page : Datum) : Option Nat := (page.get? "total").bind Datum.nat?

def items? (page : Datum) : Option (List Datum) := (page.get? "errors").bind Datum.items?

/-- An item of a page is that of a code: it has all that is said of the code's definition
but the templates of its messages. -/
structure Describes (code : String) (definition : Definition) (item : Datum) : Prop where
  code : item.get? "errorCode" = some (.text code)
  status : (item.get? "statusCode").bind Datum.nat? = some definition.status.toNat
  description : item.get? "description" = some (.text definition.description)
  locales : item.get? "locales" = some (.list (definition.messages.keys.map .text))
  data : item.get? "data" = some (.map (definition.data.mapValues .text).entries)

/-- An item of the definition that is found under a code. -/
def Lists (registry : Registry) (code : String) (item : Datum) : Prop :=
  ∃ definition, registry.getDefinition code = some definition ∧ Describes code definition item

theorem describes_entry (definition : Definition) :
    Describes definition.code definition (entry definition) where
  code := rfl
  status := by
    have found : (entry definition).get? "statusCode" = some (.ofNat definition.status.toNat) := rfl
    have small : definition.status.toNat < 2 ^ 64 :=
      Nat.lt_trans definition.status.toNat_lt (by decide)
    rw [found, Option.bind_some, Datum.nat?_ofNat small]
  description := rfl
  locales := rfl
  data := rfl

section Page
variable (registry : Registry) (paging : Paging)

theorem exact_entry (limit : Nat) (definition : Definition) :
    Json.Exact (limit + 2) (entry definition) := by
  have locales : Json.Exact (limit + 1) (.list (definition.messages.keys.map .text)) := by
    refine Json.Exact.list ?_
    intro item inside
    obtain ⟨locale, -, rfl⟩ := List.mem_map.mp inside
    exact Json.Exact.text locale
  have data : Json.Exact (limit + 1) (.map (definition.data.mapValues Datum.text).entries) := by
    refine Json.Exact.map (definition.data.mapValues Datum.text).nodup ?_
    intro item inside
    obtain ⟨documented, -, rfl⟩ := List.mem_map.mp inside
    exact Json.Exact.text documented.2
  have keys : ["errorCode", "statusCode", "description", "locales", "data"].Nodup := by decide
  refine Json.Exact.map keys ?_
  simp only [List.forall_mem_cons]
  exact ⟨.text _, .ofNat _, .text _, locales, data, fun _ none => absurd none List.not_mem_nil⟩

theorem exact_page : Json.Exact Json.depthLimit (page registry paging) := by
  have items : Json.Exact 126 (.list ((listed registry paging).map entry)) := by
    refine Json.Exact.list ?_
    intro item inside
    obtain ⟨definition, -, rfl⟩ := List.mem_map.mp inside
    exact exact_entry 123 definition
  have keys : ["total", "limit", "offset", "errors"].Nodup := by decide
  refine Json.Exact.map keys ?_
  simp only [List.forall_mem_cons]
  exact ⟨.ofNat _, .ofNat _, .ofNat _, items, fun _ none => absurd none List.not_mem_nil⟩

theorem total?_page (small : registry.size < 2 ^ 64) :
    total? (page registry paging) = some registry.size := by
  have found : (page registry paging).get? "total" = some (.ofNat registry.size) := rfl
  rw [total?, found, Option.bind_some, Datum.nat?_ofNat small]

theorem items?_page : items? (page registry paging) = some ((listed registry paging).map entry) :=
  rfl

/-- The items of a page are those of its codes, none left out. -/
theorem lists_page {written : List String} {registry : Registry}
    (known : Registry.Written written registry) (paging : Paging) :
    List.Forall₂ (Lists registry) (paging.slice registry.codes)
      ((listed registry paging).map entry) := by
  have all (codes : List String) (registered : ∀ code ∈ codes, code ∈ registry.codes) :
      List.Forall₂ (Lists registry) codes ((codes.filterMap registry.getDefinition).map entry) := by
    induction codes with
    | nil => exact .nil
    | cons code codes ih =>
      obtain ⟨definition, found⟩ := Option.isSome_iff_exists.mp
        ((registry.isSome_getDefinition_iff code).mpr (registered code List.mem_cons_self))
      have own := known.merged.own code definition found
      rw [List.filterMap_cons_some found, List.map_cons]
      refine .cons ⟨definition, found, ?_⟩ (ih fun other inside => ?_)
      · exact own ▸ describes_entry definition
      · exact registered other (List.mem_cons_of_mem _ inside)
  refine all _ fun code inside => ?_
  exact List.mem_of_mem_drop (List.mem_of_mem_take inside)

end Page

/-! ## Asking for pages -/

/-- What a service answers to the request for a page, if it answers with a value. -/
def answer? (service : Service) (ambient : Ambient) (fields : Http.Fields) (paging : Paging) :
    Option Datum := do
  let target ← Http.Target.read? ("/errors?" ++ paging.query)
  let response := (service.respond ambient ⟨"GET", target, fields⟩).1
  if response.status = 200 then
    (Json.readDatum (Text.Utf8.encodeString response.body)).toOption
  else none

/-- What a caller gathers who asks for one page after another, from an offset on up to the
first page that is not full. -/
inductive Gathered (service : Service) (limit : Nat) : Nat → List Datum → Prop
  | last {offset : Nat} {ambient : Ambient} {fields : Http.Fields} {page : Datum}
    {items : List Datum} (answered : answer? service ambient fields ⟨limit, offset⟩ = some page)
    (listed : items? page = some items) (short : items.length < limit) :
    Gathered service limit offset items
  | next {offset : Nat} {ambient : Ambient} {fields : Http.Fields} {page : Datum}
    {items others : List Datum}
    (answered : answer? service ambient fields ⟨limit, offset⟩ = some page)
    (listed : items? page = some items) (full : limit ≤ items.length)
    (rest : Gathered service limit (offset + limit) others) :
    Gathered service limit offset (items ++ others)

section Gathering
variable {config : Config} {registry : Registry} {gate : PathGate} {written : List String}
  {limit : Nat}

theorem read?_target {paging : Paging} (limit : paging.limit < 2 ^ 63)
    (offset : paging.offset < 2 ^ 63) :
    Http.Target.read? ("/errors?" ++ paging.query) = some ⟨"/errors", some paging.query⟩ := by
  have text : "/errors?" ++ paging.query =
      String.ofList ('/' :: "errors".toList ++ '?' :: paging.query.toList) := by
    apply String.toList_injective
    simp
  have pathChars : "errors".toList.all Http.Target.isPathChar = true := by decide
  have short : 4 * ("errors".toList.length + paging.query.toList.length + 2) ≤
      Http.Target.limit := by
    have length := Paging.length_query limit offset
    have name : "errors".toList.length = 6 := by decide
    rw [name, Http.Target.limit]
    omega
  rw [text, Http.Target.read?_path pathChars (Paging.queryChars_query paging) short,
    String.ofList_toList]
  rfl

theorem answer?_page {paging : Paging} (inRange : Paging.InRange config.api paging)
    (ambient : Ambient) (fields : Http.Fields) :
    answer? (service gate config registry) ambient fields paging =
      some (page registry paging) := by
  have response : ((service gate config registry).respond ambient
      ⟨"GET", ⟨"/errors", some paging.query⟩, fields⟩).1 = .json 200 (page registry paging) :=
    respond_page gate ambient fields (Paging.read_query inRange)
  have document : Json.readDatum (Text.Utf8.encodeString (Json.render (page registry paging))) =
      .ok (page registry paging) := by
    rw [Json.render, Text.Utf8.encodeString, String.toList_ofList]
    exact Json.readDatum_exact (exact_page registry paging)
  rw [answer?, read?_target inRange.limit inRange.offset]
  simp only [Option.bind_eq_bind, Option.bind_some, response, Http.Response.json, document]
  rfl

theorem lists_answered (known : Registry.Written written registry) {paging : Paging}
    (inRange : Paging.InRange config.api paging) {ambient : Ambient} {fields : Http.Fields}
    {page : Datum} {items : List Datum}
    (answered : answer? (service gate config registry) ambient fields paging = some page)
    (listed : items? page = some items) :
    List.Forall₂ (Lists registry) (paging.slice registry.codes) items := by
  rw [answer?_page inRange] at answered
  obtain rfl := Option.some.inj answered
  obtain rfl := Option.some.inj listed
  exact lists_page known paging

theorem length_slice (paging : Paging) (codes : List String) :
    (paging.slice codes).length = min paging.limit (codes.length - paging.offset) := by
  rw [Paging.slice, List.length_take, List.length_drop]

/-- What is gathered from an offset on lists the codes from there on. -/
theorem lists_gathered (known : Registry.Written written registry) (positive : 0 < limit)
    (within : limit ≤ config.api.maxLimit) (word : limit < 2 ^ 63)
    (memory : registry.size < 2 ^ 63) {offset : Nat} (start : offset < 2 ^ 63)
    {items : List Datum} (gathered : Gathered (service gate config registry) limit offset items) :
    List.Forall₂ (Lists registry) (registry.codes.drop offset) items := by
  rw [Registry.size] at memory
  induction gathered with
  | @last offset ambient fields page items answered listed short =>
    have lists := lists_answered known ⟨positive, within, word, start⟩ answered listed
    have length : min limit (registry.codes.length - offset) = items.length :=
      (length_slice ⟨limit, offset⟩ registry.codes).symm.trans lists.length_eq
    -- a page that is not full goes up to the end
    have rest : (registry.codes.drop offset).length ≤ limit := by
      rw [List.length_drop]
      omega
    have whole : Paging.slice ⟨limit, offset⟩ registry.codes = registry.codes.drop offset :=
      List.take_of_length_le rest
    rw [whole] at lists
    exact lists
  | @next offset ambient fields page items others answered listed full rest ih =>
    have lists := lists_answered known ⟨positive, within, word, start⟩ answered listed
    have length : min limit (registry.codes.length - offset) = items.length :=
      (length_slice ⟨limit, offset⟩ registry.codes).symm.trans lists.length_eq
    -- a full page ends within the codes, so that the next offset is a word too
    have next := ih (by omega)
    have parts : registry.codes.drop offset =
        Paging.slice ⟨limit, offset⟩ registry.codes ++ registry.codes.drop (offset + limit) := by
      rw [Paging.slice, ← List.drop_drop, List.take_append_drop]
    rw [parts]
    exact List.rel_append lists next

/-- Asking for one page after another comes to an end. -/
theorem exists_gathered (known : Registry.Written written registry) (positive : 0 < limit)
    (within : limit ≤ config.api.maxLimit) (word : limit < 2 ^ 63)
    (memory : registry.size < 2 ^ 63) (ambient : Ambient) (fields : Http.Fields) :
    ∀ left offset : Nat, offset + left = registry.size →
      ∃ items, Gathered (service gate config registry) limit offset items := by
  intro left
  induction left using Nat.strong_induction_on with
  | h left ih =>
    intro offset remaining
    have start : offset < 2 ^ 63 := by omega
    have inRange : Paging.InRange config.api ⟨limit, offset⟩ := ⟨positive, within, word, start⟩
    have answered : answer? (service gate config registry) ambient fields ⟨limit, offset⟩ =
        some (page registry ⟨limit, offset⟩) := answer?_page inRange ambient fields
    have shown := items?_page registry ⟨limit, offset⟩
    have length : min limit (registry.size - offset) =
        ((listed registry ⟨limit, offset⟩).map entry).length :=
      (length_slice ⟨limit, offset⟩ registry.codes).symm.trans
        (lists_page known ⟨limit, offset⟩).length_eq
    by_cases short : left < limit
    · exact ⟨_, .last answered shown (by omega)⟩
    · obtain ⟨others, rest⟩ := ih (left - limit) (by omega) (offset + limit) (by omega)
      exact ⟨_, .next answered shown (by omega) rest⟩

end Gathering

/-- Whoever asks for one page after another gathers the codes of the registry, each once and
in order, and comes to an end.  Every page tells how many codes there are, and one behind
them all is empty.  That a registry lies in memory says `memory`: no machine holds more codes
than a word with a sign can count. -/
theorem pages_visit {written : List String} {start : Registry}
    (origin : Registry.Origin written start) (definitions : List Definition) {config : Config}
    (valid : Config.apiFlaw? config.api = none) {limit : Nat} (positive : 0 < limit)
    (within : limit ≤ config.api.maxLimit) (word : limit < 2 ^ 63)
    (memory : (start.attemptAll definitions).size < 2 ^ 63) :
    let registry := start.attemptAll definitions
    registry.codes.Nodup ∧
      ∃ service, Service.ofConfig config registry [route] = .ok service ∧
        (∃ items, Gathered service limit 0 items) ∧
        (∀ items, Gathered service limit 0 items →
          List.Forall₂ (Lists registry) registry.codes items) ∧
        ∀ offset, offset < 2 ^ 63 → ∀ (ambient : Ambient) (fields : Http.Fields),
          ∃ page items, answer? service ambient fields ⟨limit, offset⟩ = some page ∧
            total? page = some registry.size ∧ items? page = some items ∧
              (registry.size ≤ offset → items = []) := by
  intro registry
  have known := origin.written.attemptAll definitions
  obtain ⟨gate, served⟩ :
      ∃ gate, Service.ofConfig config registry [route] = .ok (service gate config registry) :=
    ofConfig_of_valid valid
  refine ⟨registry.codes_nodup, _, served, ?_, ?_, ?_⟩
  · let ambient : Ambient := ⟨⟨"", ""⟩, .off⟩
    exact exists_gathered known positive within word memory ambient [] registry.size 0
      (Nat.zero_add _)
  · intro items gathered
    have lists := lists_gathered known positive within word memory (by decide) gathered
    rw [List.drop_zero] at lists
    exact lists
  · intro offset start ambient fields
    have inRange : Paging.InRange config.api ⟨limit, offset⟩ := ⟨positive, within, word, start⟩
    have small : registry.size < 2 ^ 64 := Nat.lt_trans memory (by decide)
    refine ⟨_, _, answer?_page inRange ambient fields, total?_page registry _ small,
      items?_page registry _, ?_⟩
    intro behind
    have none : Paging.slice ⟨limit, offset⟩ registry.codes = [] := by
      rw [Paging.slice, List.drop_of_length_le behind, List.take_nil]
    rw [listed, none]
    rfl

/-- The catalog of a source with two codes, in pages of four. -/
theorem pages_visit_four :
    let registry := (Registry.loadSource Registry.quotedSource).registry.attemptAll []
    registry.size = 17 ∧
      ∃ service, Service.ofConfig .blank registry [route] = .ok service ∧
        ∃ items, Gathered service 4 0 items ∧
          List.Forall₂ (Lists registry) registry.codes items := by
  intro registry
  have size : registry.size = 17 := by decide +kernel
  obtain ⟨-, service, served, ⟨items, gathered⟩, lists, -⟩ :=
    pages_visit (.source Registry.parse_quotedSource Registry.loaded_quotedSource) []
      (by decide : Config.apiFlaw? Config.blank.api = none) (by decide : 0 < 4) (by decide)
      (by decide) (by rw [size]; decide)
  exact ⟨size, service, served, items, gathered, lists items gathered⟩

end Catalog

end FaultMesh
