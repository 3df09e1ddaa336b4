import FaultMesh.Proofs.Reporter.Disclosure
import FaultMesh.Proofs.Text.Blank
import FaultMesh.Proofs.Text.CaseFold
import FaultMesh.Proofs.Text.Cut
import FaultMesh.Service.Context

/-!
# Locales of requests

The locale of a request is the primary subtag of the language that it asks for first, in lower
case, or else the default of the service.  A fault speaks in this locale if its definition has
a template for it, and otherwise in English, in the first template there is, or not at all.
-/

set_option autoImplicit false

namespace FaultMesh

namespace Text

theorem lowerAscii_cases (c : Char) :
    (lowerAscii c = c ∧ ¬ ('A' ≤ c ∧ c ≤ 'Z')) ∨ ('a' ≤ lowerAscii c ∧ lowerAscii c ≤ 'z') := by
  by_cases upper : 'A' ≤ c ∧ c ≤ 'Z'
  · right
    have table : ∀ n ∈ List.range' 65 26,
        'a' ≤ lowerAscii (Char.ofNat n) ∧ lowerAscii (Char.ofNat n) ≤ 'z' := by decide
    exact of_range (P := fun c => 'a' ≤ lowerAscii c ∧ lowerAscii c ≤ 'z') table upper.1
      (Nat.lt_succ_of_le upper.2)
  · left
    rw [lowerAscii, if_neg (by simpa using upper)]
    exact ⟨rfl, upper⟩

theorem lowerAscii_not_upper (c : Char) : ¬ ('A' ≤ lowerAscii c ∧ lowerAscii c ≤ 'Z') := by
  intro upper
  rcases lowerAscii_cases c with ⟨same, other⟩ | lower
  · exact other (same ▸ upper)
  · have overlap : ('a' : Char).toNat ≤ ('Z' : Char).toNat := Nat.le_trans lower.1 upper.2
    exact absurd overlap (by decide)

theorem eq_of_lowerAscii {c d : Char} (other : ¬ ('a' ≤ d ∧ d ≤ 'z')) (same : lowerAscii c = d) :
    c = d := by
  rcases lowerAscii_cases c with ⟨kept, -⟩ | lower
  · rw [← kept, same]
  · exact absurd (same ▸ lower) other

/-- Blanks around a text make no difference to what stands before its first mark. -/
theorem trim_before_trim {mark : Char} (visible : isBlank mark = false) (text : List Char) :
    trim (before mark (trim text)) = trim (before mark text) := by
  obtain ⟨left, right, blankLeft, blankRight, whole⟩ := exists_trim text
  have outside {blanks : List Char} (all : ∀ c ∈ blanks, isBlank c = true) : mark ∉ blanks := by
    intro inside
    rw [all mark inside] at visible
    cases visible
  -- The blanks do not hold the mark: it is in the trimmed text, at the same place, or nowhere.
  by_cases inside : mark ∈ trim text
  · obtain ⟨front, rest, cut, absent⟩ := List.eq_append_cons_of_mem inside
    have here : text = (left ++ front) ++ mark :: (rest ++ right) := by
      rw [whole, cut]
      simp
    have behind : mark ∉ left ++ front := by
      rw [List.mem_append, not_or]
      exact ⟨outside blankLeft, absent⟩
    rw [cut, before_append absent, here, before_append behind, trim, trim,
      trimStart_append blankLeft]
  · have nowhere : mark ∉ text := by
      rw [whole, List.mem_append, List.mem_append, not_or, not_or]
      exact ⟨outside blankLeft, inside, outside blankRight⟩
    rw [before_of_not_mem inside, before_of_not_mem nowhere, trim_trim]

end Text

namespace RequestContext
open Text

/-! ## The language that is asked for first -/

/-- The primary subtag of the first entry of a list of languages: what stands before the first
comma and in it before the first semicolon, between blanks, and in this before the first
hyphen, between blanks, in lower case. -/
def FirstSubtag (languages subtag : List Char) : Prop :=
  ∃ entry language tag part name, Upto ',' languages entry ∧ Upto ';' entry language ∧
    Trimmed language tag ∧ Upto '-' tag part ∧ Trimmed part name ∧
      subtag = name.map lowerAscii

theorem firstSubtag_iff {languages subtag : List Char} :
    FirstSubtag languages subtag ↔ subtag = primarySubtag languages := by
  simp only [FirstSubtag, upto_iff, trimmed_iff]
  constructor
  · intro ⟨entry, language, tag, part, name, same1, same2, same3, same4, same5, result⟩
    rw [result, same5, same4, same3, same2, same1, primarySubtag]
  · intro result
    exact ⟨_, _, _, _, _, rfl, rfl, rfl, rfl, rfl, result⟩

/-- Begins a region, a quality, or the next entry. -/
def IsMark (c : Char) : Prop := c = ',' ∨ c = ';' ∨ c = '-'

instance : DecidablePred IsMark := fun c =>
  inferInstanceAs (Decidable (c = ',' ∨ c = ';' ∨ c = '-'))

/-- The first entry of a list of languages has this name, whatever its region, its quality and
the entries behind it. -/
def Names (languages name : List Char) : Prop :=
  ∃ front rest, languages = front ++ rest ∧ (∀ c ∈ front, ¬ IsMark c) ∧
    (∀ c ∈ rest.head?, IsMark c) ∧ Trimmed front name

theorem exists_names (languages : List Char) : ∃ name, Names languages name := by
  let plain (c : Char) : Bool := !decide (IsMark c)
  refine ⟨trim (languages.takeWhile plain), languages.takeWhile plain,
    languages.dropWhile plain, ?_, ?_, ?_, trimmed_iff.mpr rfl⟩
  · exact List.takeWhile_append_dropWhile.symm
  · intro c inside
    simpa [plain] using List.all_eq_true.mp List.all_takeWhile c inside
  · intro c here
    have stopped := List.head?_dropWhile_not plain languages
    rw [Option.mem_def.mp here] at stopped
    simpa [plain] using stopped

theorem primarySubtag_eq (languages : List Char) :
    primarySubtag languages =
      (trim (before '-' (before ';' (before ',' languages)))).map lowerAscii := by
  rw [primarySubtag, trim_before_trim (by decide)]

theorem before_marks {core rest : List Char} (plain : ∀ c ∈ core, ¬ IsMark c)
    (marked : ∀ c ∈ rest.head?, IsMark c) :
    before '-' (before ';' (before ',' (core ++ rest))) = core := by
  have kept {mark : Char} (isMark : IsMark mark) (rest : List Char) :
      before mark (core ++ rest) = core ++ before mark rest := by
    apply List.takeWhile_append_of_pos
    intro c inside
    exact decide_eq_true fun same => plain c inside (same ▸ isMark)
  rw [kept (.inl rfl), kept (.inr (.inl rfl)), kept (.inr (.inr rfl))]
  cases rest with
  | nil => exact List.append_nil core
  | cons mark rest =>
    have nothing : before '-' (before ';' (before ',' (mark :: rest))) = [] := by
      rcases marked mark rfl with rfl | rfl | rfl
      · rfl
      · rfl
      · rfl
    rw [nothing, List.append_nil]

theorem firstSubtag_of_names {languages name : List Char} (names : Names languages name) :
    FirstSubtag languages (name.map lowerAscii) := by
  obtain ⟨front, rest, whole, plain, marked, trimmed⟩ := names
  rw [firstSubtag_iff, primarySubtag_eq, whole, before_marks plain marked,
    trimmed_iff.mp trimmed]

theorem not_mem_primarySubtag {languages : List Char} {c : Char}
    (inside : c ∈ primarySubtag languages) : ¬ IsMark c ∧ ¬ ('A' ≤ c ∧ c ≤ 'Z') := by
  rw [primarySubtag_eq] at inside
  obtain ⟨d, member, same⟩ := List.mem_map.mp inside
  have part := mem_of_mem_trim member
  constructor
  · intro mark
    have other : ¬ ('a' ≤ c ∧ c ≤ 'z') := by
      rcases mark with rfl | rfl | rfl
      · decide
      · decide
      · decide
    obtain rfl := eq_of_lowerAscii other same
    rcases mark with rfl | rfl | rfl
    · exact not_mem_before _ (mem_of_mem_before (mem_of_mem_before part))
    · exact not_mem_before _ (mem_of_mem_before part)
    · exact not_mem_before _ part
  · rw [← same]
    exact lowerAscii_not_upper d

theorem localeOf?_of_plain {languages : String} (plain : Http.isPlainValue languages = true) :
    localeOf? languages =
      if primarySubtag languages.toList = [] ∨ primarySubtag languages.toList = ['*'] then none
      else some (String.ofList (primarySubtag languages.toList)) := by
  rw [localeOf?, plain, Bool.not_true, if_neg Bool.false_ne_true]

theorem primarySubtag_of_localeOf? {languages locale : String}
    (asked : localeOf? languages = some locale) :
    locale = String.ofList (primarySubtag languages.toList) ∧
      primarySubtag languages.toList ≠ [] ∧ primarySubtag languages.toList ≠ ['*'] := by
  rw [localeOf?] at asked
  split at asked
  · cases asked
  · simp only at asked
    split at asked
    · cases asked
    · next other =>
      rw [not_or] at other
      exact ⟨(Option.some.inj asked).symm, other⟩

structure Asked (locale : String) : Prop where
  filled : locale ≠ ""
  definite : locale ≠ "*"
  plain : ∀ c ∈ locale.toList, ¬ IsMark c ∧ ¬ ('A' ≤ c ∧ c ≤ 'Z')

theorem asked_of_localeOf? {languages locale : String}
    (asked : localeOf? languages = some locale) : Asked locale := by
  obtain ⟨same, filled, definite⟩ := primarySubtag_of_localeOf? asked
  have text : locale.toList = primarySubtag languages.toList := by rw [same, String.toList_ofList]
  rw [← text] at filled definite
  constructor
  · intro nothing
    exact filled (by rw [nothing]; rfl)
  · intro any
    exact definite (by rw [any]; rfl)
  · intro c inside
    rw [text] at inside
    exact not_mem_primarySubtag inside

end RequestContext

namespace ContextSettings
open RequestContext

section Locales
variable (settings : ContextSettings) {request : Http.Request}

theorem locale_of_absent (absent : request.fields.first? "accept-language" = none) :
    (settings.contextFor request).locale = settings.defaultLocale := by
  rw [contextFor, preferredLocale?, absent]
  rfl

theorem locale_of_plain {languages : String}
    (present : request.fields.first? "accept-language" = some languages)
    (plain : Http.isPlainValue languages = true) {subtag : List Char}
    (first : FirstSubtag languages.toList subtag) :
    (settings.contextFor request).locale =
      if subtag = [] ∨ subtag = ['*'] then settings.defaultLocale else String.ofList subtag := by
  rw [firstSubtag_iff.mp first, contextFor, preferredLocale?, present, Option.bind_some,
    localeOf?_of_plain plain]
  split
  · rfl
  · rfl

theorem locale_of_preferred {locale : String}
    (preferred : preferredLocale? request.fields = some locale) :
    (settings.contextFor request).locale = locale ∧ Asked locale := by
  obtain ⟨languages, -, asked⟩ := Option.bind_eq_some_iff.mp preferred
  constructor
  · rw [contextFor, preferred]
    rfl
  · exact asked_of_localeOf? asked

theorem locale_ne_empty (filled : settings.defaultLocale ≠ "") (request : Http.Request) :
    (settings.contextFor request).locale ≠ "" := by
  cases preferred : preferredLocale? request.fields with
  | none =>
    rw [contextFor, preferred]
    exact filled
  | some locale =>
    obtain ⟨same, asked⟩ := settings.locale_of_preferred preferred
    rw [same]
    exact asked.filled

end Locales

/-- A request asks first for the language with this name, perhaps of a region and with a
quality. -/
def AsksFirstFor (request : Http.Request) (name : List Char) : Prop :=
  ∃ languages, request.fields.first? "accept-language" = some languages ∧
    Http.isPlainValue languages = true ∧ Names languages.toList name

theorem locale_of_asksFirstFor (settings : ContextSettings) {request : Http.Request}
    {name : List Char} (asks : AsksFirstFor request name) :
    (settings.contextFor request).locale =
      if name.map Text.lowerAscii = [] ∨ name.map Text.lowerAscii = ['*'] then
        settings.defaultLocale
      else String.ofList (name.map Text.lowerAscii) := by
  obtain ⟨languages, present, plain, names⟩ := asks
  exact settings.locale_of_plain present plain (firstSubtag_of_names names)

end ContextSettings

/-! ## What a fault tells -/

/-- What templates tell a locale: the text of its own template, or else of the English one,
or else of the first one, or else nothing. -/
inductive Tells (messages : OrderedMap Template) (data : Data) (locale : String) : String → Prop
  | own {template : Template} (found : messages.get? locale = some template) :
    Tells messages data locale (template.render data)
  | english {template : Template} (foreign : messages.get? locale = none)
    (found : messages.get? "en" = some template) :
    Tells messages data locale (template.render data)
  | first {key : String} {template : Template} {others : List (String × Template)}
    (foreign : messages.get? locale = none) (unknown : messages.get? "en" = none)
    (entries : messages.entries = (key, template) :: others) :
    Tells messages data locale (template.render data)
  | silent (entries : messages.entries = []) : Tells messages data locale ""

theorem tells_offered (definition : Definition) (data : Data) (locale : String) :
    Tells definition.messages data locale
      (((definition.offered locale).map (Template.render · data)).getD "") := by
  rw [Definition.offered]
  cases own : definition.messages.get? locale with
  | some template => exact .own own
  | none =>
    cases english : definition.messages.get? defaultLocale with
    | some template => exact .english own english
    | none =>
      cases entries : definition.messages.entries with
      | nil =>
        rw [OrderedMap.values, entries]
        exact .silent entries
      | cons entry others =>
        rw [OrderedMap.values, entries]
        exact .first own english entries

theorem offered_of_tells {definition : Definition} {data : Data} {locale text : String}
    (tells : Tells definition.messages data locale text) :
    ((definition.offered locale).map (Template.render · data)).getD "" = text := by
  rw [Definition.offered]
  cases tells with
  | own found => rw [found]; rfl
  | english foreign found => rw [foreign, defaultLocale, found]; rfl
  | first foreign unknown entries =>
    rw [foreign, defaultLocale, unknown, OrderedMap.values, entries]
    rfl
  | silent entries =>
    have nowhere (key : String) : definition.messages.get? key = none := by
      rw [OrderedMap.get?, entries]
      rfl
    rw [nowhere, nowhere, OrderedMap.values, entries]
    rfl

theorem instantiate_message_iff (reporter : Reporter) (ambient : Ambient)
    (definition : Definition) (data : Data) (causes : List Cause) (locale text : String) :
    let fault := (reporter.instantiate ambient definition data causes).1
    fault.message locale = text ↔ Tells definition.messages fault.data locale text := by
  intro fault
  have message : fault.message locale =
      ((definition.offered locale).map (Template.render · fault.data)).getD "" := by
    rw [Fault.message, reporter.instantiate_messages, messageIn_mapValues,
      ← reporter.instantiate_data ambient definition data causes]
  rw [message]
  constructor
  · intro same
    rw [← same]
    exact tells_offered definition fault.data locale
  · exact offered_of_tells

namespace ContextSettings
open RequestContext

/-- The locale of a request is the subtag that its languages begin with, or the default of the
service, and is never empty.  A locale that is asked for is plain, and neither letter case nor
region nor quality make a difference to it.  What a fault tells to this locale is what its
definition has for it, or else in English, or else first, filled in from the data of the fault;
without debugging this is the message that is sent. -/
theorem locale_negotiated {settings : ContextSettings} (filled : settings.defaultLocale ≠ "") :
    (∀ request : Http.Request, request.fields.first? "accept-language" = none →
      (settings.contextFor request).locale = settings.defaultLocale) ∧
    (∀ (request : Http.Request) (languages : String),
      request.fields.first? "accept-language" = some languages →
      Http.isPlainValue languages = true →
        (∃ name, AsksFirstFor request name) ∧
        (∃ subtag, FirstSubtag languages.toList subtag) ∧
        ∀ subtag, FirstSubtag languages.toList subtag →
          (settings.contextFor request).locale =
            if subtag = [] ∨ subtag = ['*'] then settings.defaultLocale
            else String.ofList subtag) ∧
    (∀ request, (settings.contextFor request).locale ≠ "") ∧
    (∀ (request : Http.Request) (locale : String),
      preferredLocale? request.fields = some locale →
        (settings.contextFor request).locale = locale ∧ Asked locale) ∧
    (∀ (request other : Http.Request) (name variant : List Char),
      AsksFirstFor request name → AsksFirstFor other variant →
        name.map Text.lowerAscii = variant.map Text.lowerAscii →
          (settings.contextFor request).locale = (settings.contextFor other).locale) ∧
    ∀ (request : Http.Request) (maker : Reporter) (ambient : Ambient) (definition : Definition)
      (data : Data) (causes : List Cause),
        let reporter := settings.reporterFor request
        let locale := reporter.context.locale
        let fault := (maker.instantiate ambient definition data causes).1
        (∀ text, fault.message locale = text ↔
          Tells definition.messages fault.data locale text) ∧
        (reporter.context.debug = false →
          ∀ text, Tells definition.messages fault.data locale text →
            (reporter.respond fault).body =
              Json.render (Brief.mk definition.code text definition.status).datum) := by
  refine ⟨?_, ?_, ?_, ?_, ?_, ?_⟩
  · intro request absent
    exact settings.locale_of_absent absent
  · intro request languages present plain
    obtain ⟨name, names⟩ := exists_names languages.toList
    refine ⟨⟨name, languages, present, plain, names⟩, ⟨_, firstSubtag_of_names names⟩, ?_⟩
    intro subtag first
    exact settings.locale_of_plain present plain first
  · exact settings.locale_ne_empty filled
  · intro request locale preferred
    exact settings.locale_of_preferred preferred
  · intro request other name variant asks also same
    rw [settings.locale_of_asksFirstFor asks, settings.locale_of_asksFirstFor also, same]
  · intro request maker ambient definition data causes reporter locale fault
    have heard (text : String) : fault.message locale = text ↔
        Tells definition.messages fault.data locale text :=
      instantiate_message_iff maker ambient definition data causes locale text
    refine ⟨heard, ?_⟩
    intro quiet text tells
    have brief : fault.brief locale = ⟨definition.code, text, definition.status⟩ := by
      rw [Fault.brief, (heard text).mpr tells, maker.instantiate_code, maker.instantiate_status]
    have sent : (reporter.respond fault).body = Json.render (fault.project false locale) := by
      rw [← quiet]
      rfl
    rw [sent, ← brief]
    rfl

def lateDefinition : Definition :=
  ⟨"svc.503.Late", 503, "",
    .ofList [("fr", ⟨"en retard", [.literal "en retard"], by rfl⟩),
      ("de", ⟨"\x7b\x7b.Data.Who\x7d\x7d", [.field ["Who"]], by rfl⟩)], .empty⟩

/-- A request for English of a region is told the first text of a definition without English,
whatever the locale of the reporter that made the fault. -/
theorem locale_negotiated_first :
    let settings : ContextSettings := ⟨.builtin, false, "de"⟩
    let request : Http.Request := ⟨"GET", ⟨"/", none⟩, [("accept-language", " EN-gb;q=0.7, de")]⟩
    let fault := (Reporter.instantiate ⟨.builtin, .detached⟩ ⟨⟨"", ""⟩, .off⟩ lateDefinition
      .empty []).1
    settings.defaultLocale ≠ "" ∧ (settings.contextFor request).locale = "en" ∧
      ((settings.reporterFor request).respond fault).body =
        Json.render (Brief.mk "svc.503.Late" "en retard" 503).datum := by
  intro settings request fault
  have filled : settings.defaultLocale ≠ "" := by decide
  obtain ⟨-, negotiated, -, -, -, told⟩ := locale_negotiated filled
  have first : FirstSubtag " EN-gb;q=0.7, de".toList "en".toList :=
    firstSubtag_iff.mpr (by decide)
  have locale : (settings.contextFor request).locale = "en" :=
    (negotiated request _ rfl (by decide)).2.2 _ first
  refine ⟨filled, locale, ?_⟩
  apply (told request ⟨.builtin, .detached⟩ ⟨⟨"", ""⟩, .off⟩ lateDefinition .empty []).2 (by decide)
  have here : (settings.reporterFor request).context.locale = "en" := locale
  have entries : lateDefinition.messages.entries =
      [("fr", ⟨"en retard", [.literal "en retard"], by rfl⟩),
        ("de", ⟨"\x7b\x7b.Data.Who\x7d\x7d", [.field ["Who"]], by rfl⟩)] := rfl
  rw [here]
  exact .first rfl rfl entries

end ContextSettings

end FaultMesh
