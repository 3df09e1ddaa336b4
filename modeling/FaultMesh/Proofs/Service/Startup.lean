import FaultMesh.Proofs.Config
import FaultMesh.Proofs.Decimal.Integers
import FaultMesh.Proofs.Reporter
import FaultMesh.Service.Paging

/-!
# What startup makes sure of

A configuration is checked once, when it is read.  Afterwards its pattern makes a gate, and
every query either gets a stretch within its bounds or is told which parameter is at fault.
-/

set_option autoImplicit false

namespace FaultMesh

namespace Paging

/-- A value as a number: it spells the number, and a word with a sign holds it. -/
def Denotes (value : String) (n : Int) : Prop :=
  Decimal.Spelled value.toList n ∧ Decimal.FitsSigned 64 n

/-- The limit that a value asks for; none and zero leave it to the settings. -/
inductive LimitAsked (api : ApiSettings) : Option String → Nat → Prop
  | none : LimitAsked api none api.defaultLimit
  | zero {value : String} (denotes : Denotes value 0) : LimitAsked api (some value) api.defaultLimit
  | given {value : String} {n : Nat} (denotes : Denotes value n) (positive : 0 < n)
    (within : n ≤ api.maxLimit) : LimitAsked api (some value) n

inductive OffsetAsked : Option String → Nat → Prop
  | none : OffsetAsked none 0
  | given {value : String} {n : Nat} (denotes : Denotes value n) : OffsetAsked (some value) n

/-- Why the value of a limit is refused. -/
inductive LimitRefused (api : ApiSettings) (value : String) : ParameterError → Prop
  | unread (unread : ∀ n, ¬ Denotes value n) : LimitRefused api value (.notAnInteger "limit" value)
  | out {n : Int} (denotes : Denotes value n) (out : n < 0 ∨ api.maxLimit < n) :
    LimitRefused api value (.limitOutOfRange n api.maxLimit)

inductive OffsetRefused (value : String) : ParameterError → Prop
  | unread (unread : ∀ n, ¬ Denotes value n) : OffsetRefused value (.notAnInteger "offset" value)
  | negative {n : Int} (denotes : Denotes value n) (negative : n < 0) :
    OffsetRefused value (.negativeOffset n)

structure Asked (api : ApiSettings) (query : String) (paging : Paging) : Prop where
  limit : LimitAsked api (value? "limit" (Form.parse query)) paging.limit
  offset : OffsetAsked (value? "offset" (Form.parse query)) paging.offset

/-- The first parameter of a query that is at fault, the limit coming before the offset. -/
inductive Refused (api : ApiSettings) (query : String) : ParameterError → Prop
  | limit {value : String} {reason : ParameterError}
    (given : value? "limit" (Form.parse query) = some value)
    (refused : LimitRefused api value reason) : Refused api query reason
  | offset {limit : Nat} {value : String} {reason : ParameterError}
    (fine : LimitAsked api (value? "limit" (Form.parse query)) limit)
    (given : value? "offset" (Form.parse query) = some value)
    (refused : OffsetRefused value reason) : Refused api query reason

/-! ## Reading a query -/

theorem readInteger_cases (parameter value : String) :
    (∃ n, Denotes value n ∧ readInteger parameter value = .ok n) ∨
      (∀ n, ¬ Denotes value n) ∧
        readInteger parameter value = .error (.notAnInteger parameter value) := by
  rw [readInteger]
  cases read : Decimal.readSigned 64 value.toList with
  | ok n => exact .inl ⟨n, Decimal.readSigned_eq_ok.mp read, rfl⟩
  | error reason =>
    refine .inr ⟨?_, rfl⟩
    intro n denotes
    rw [Decimal.readSigned_eq_ok.mpr denotes] at read
    cases read

/-- The limit that is used for the one that is asked for. -/
def usedLimit (api : ApiSettings) (limit : Nat) : Nat := if limit = 0 then api.defaultLimit else limit

theorem readLimit_cases (api : ApiSettings) (value : Option String) :
    (∃ limit, readLimit api value = .ok limit ∧ LimitAsked api value (usedLimit api limit)) ∨
      ∃ text reason, value = some text ∧ readLimit api value = .error reason ∧
        LimitRefused api text reason := by
  cases value with
  | none => exact .inl ⟨0, rfl, .none⟩
  | some text =>
    rw [readLimit]
    rcases readInteger_cases "limit" text with ⟨n, denotes, read⟩ | ⟨unread, read⟩
    · by_cases range : 0 ≤ n ∧ n ≤ api.maxLimit
      · obtain ⟨limit, rfl⟩ := Int.eq_ofNat_of_zero_le range.1
        refine .inl ⟨limit, ?_, ?_⟩
        · simp [read, bind, Except.bind, pure, Except.pure, range]
        · by_cases zero : limit = 0
          · subst zero
            exact .zero denotes
          · rw [usedLimit, if_neg zero]
            exact .given denotes (by omega) (by omega)
      · refine .inr ⟨text, _, rfl, ?_, .out denotes (by omega)⟩
        simp [read, bind, Except.bind, range]
    · refine .inr ⟨text, _, rfl, ?_, .unread unread⟩
      simp [read, bind, Except.bind]

theorem readOffset_cases (value : Option String) :
    (∃ offset, readOffset value = .ok offset ∧ OffsetAsked value offset) ∨
      ∃ text reason, value = some text ∧ readOffset value = .error reason ∧
        OffsetRefused text reason := by
  cases value with
  | none => exact .inl ⟨0, rfl, .none⟩
  | some text =>
    rw [readOffset]
    rcases readInteger_cases "offset" text with ⟨n, denotes, read⟩ | ⟨unread, read⟩
    · by_cases range : 0 ≤ n
      · obtain ⟨offset, rfl⟩ := Int.eq_ofNat_of_zero_le range
        refine .inl ⟨offset, ?_, .given denotes⟩
        simp [read, bind, Except.bind, pure, Except.pure]
      · refine .inr ⟨text, _, rfl, ?_, .negative denotes (by omega)⟩
        simp [read, bind, Except.bind, range]
    · refine .inr ⟨text, _, rfl, ?_, .unread unread⟩
      simp [read, bind, Except.bind]

theorem read_cases (api : ApiSettings) (query : String) :
    (∃ paging, read api query = .ok paging ∧ Asked api query paging) ∨
      ∃ reason, read api query = .error reason ∧ Refused api query reason := by
  rw [read]
  rcases readLimit_cases api (value? "limit" (Form.parse query)) with
    ⟨limit, limitRead, asked⟩ | ⟨text, reason, given, limitRead, refused⟩
  · rcases readOffset_cases (value? "offset" (Form.parse query)) with
      ⟨offset, offsetRead, wanted⟩ | ⟨text, reason, given, offsetRead, refused⟩
    · refine .inl ⟨⟨usedLimit api limit, offset⟩, ?_, ⟨asked, wanted⟩⟩
      simp [limitRead, offsetRead, bind, Except.bind, pure, Except.pure, usedLimit]
    · refine .inr ⟨reason, ?_, .offset asked given refused⟩
      simp [limitRead, offsetRead, bind, Except.bind]
  · refine .inr ⟨reason, ?_, .limit given refused⟩
    simp [limitRead, bind, Except.bind]

theorem LimitAsked.bounds {api : ApiSettings} (sound : Config.Sound api) {value : Option String}
    {limit : Nat} (asked : LimitAsked api value limit) : 1 ≤ limit ∧ limit ≤ api.maxLimit := by
  cases asked with
  | none => exact ⟨sound.positive, sound.within⟩
  | zero denotes => exact ⟨sound.positive, sound.within⟩
  | given denotes positive within => exact ⟨positive, within⟩

theorem OffsetAsked.bound {value : Option String} {offset : Nat}
    (asked : OffsetAsked value offset) : offset < 2 ^ 63 := by
  cases asked with
  | none => decide
  | given denotes =>
    have fits := denotes.2.2
    exact_mod_cast fits

/-- A fault that names the parameter at fault and denotes why it is. -/
structure Names (reason : ParameterError) (fault : Fault) : Prop where
  code : fault.code = "http.400.QueryParameterInvalid"
  status : fault.status = 400
  parameter : fault.data.get? "Param" = some (.text reason.parameter)
  error : fault.data.get? "Error" = some (.text reason.message)

theorem names_refuse (reporter : Reporter) (ambient : Ambient) (reason : ParameterError) :
    Names reason (refuse reporter ambient reason).1 := by
  let data : Data := .ofList [("Param", .text reason.parameter)]
  have parameter : (reporter.context.addDebugEntries data).get? "Param" =
      some (.text reason.parameter) :=
    reporter.context.get?_addDebugEntries data (by decide)
  have error : (reporter.context.addDebugEntries data).get? Fault.errorKey = none :=
    reporter.context.get?_addDebugEntries data (by decide)
  rw [refuse, Reporter.builtin]
  constructor
  · rw [Reporter.instantiate_code]
    rfl
  · rw [Reporter.instantiate_status]
    rfl
  · rw [Reporter.instantiate_data, Fault.get?_bindCause_of_ne _ _ (by decide), parameter]
  · rw [Reporter.instantiate_data]
    exact Fault.get?_bindCause_error _ (.plain reason.message) error

/-- A query gets the stretch that it asks for, or a fault that names the first parameter at
fault. -/
theorem ofQuery_cases {api : ApiSettings} (sound : Config.Sound api) (reporter : Reporter)
    (ambient : Ambient) (query : Option String) :
    (∃ paging, ofQuery reporter ambient api query = .ok paging ∧
        Asked api (query.getD "") paging ∧ 1 ≤ paging.limit ∧ paging.limit ≤ api.maxLimit ∧
          paging.offset < 2 ^ 63) ∨
      ∃ reason fault events, ofQuery reporter ambient api query = .error (fault, events) ∧
        Refused api (query.getD "") reason ∧ Names reason fault := by
  rw [ofQuery]
  rcases read_cases api (query.getD "") with ⟨paging, read, asked⟩ | ⟨reason, read, refused⟩
  · rw [read]
    obtain ⟨positive, within⟩ := asked.limit.bounds sound
    exact .inl ⟨paging, rfl, asked, positive, within, asked.offset.bound⟩
  · rw [read]
    exact .inr ⟨reason, _, _, rfl, refused, names_refuse reporter ambient reason⟩

end Paging

/-! ## Startup -/

/-- A configuration that was read serves, whatever the command line adds to it: it is still
valid, its pattern makes a gate for any registry and routes, and every query gets a stretch
within its bounds or a fault that names the first parameter at fault. -/
theorem startup_suffices {environment : Environment} {source : String} {config : Config}
    (parsed : Config.parse environment source = .ok config) (arguments : Arguments) :
    let served := arguments.apply config
    served.IsValid ∧
      (∀ (registry : Registry) (routes : List Route),
        ∃ service, Service.ofConfig served registry routes = .ok service) ∧
      ∀ (reporter : Reporter) (ambient : Ambient) (query : Option String),
        (∃ paging, Paging.ofQuery reporter ambient served.api query = .ok paging ∧
            Paging.Asked served.api (query.getD "") paging ∧ 1 ≤ paging.limit ∧
              paging.limit ≤ served.api.maxLimit ∧ paging.offset < 2 ^ 63) ∨
          ∃ reason fault events,
            Paging.ofQuery reporter ambient served.api query = .error (fault, events) ∧
              Paging.Refused served.api (query.getD "") reason ∧ Paging.Names reason fault := by
  intro served
  have valid : served.IsValid :=
    (Config.valid_apply_iff arguments config).mpr (Config.valid_of_parse parsed)
  have sound := Config.sound_of_valid valid
  refine ⟨valid, ?_, ?_⟩
  · intro registry routes
    obtain ⟨gate, made⟩ := sound.gate
    rw [Service.ofConfig, made]
    exact ⟨_, rfl⟩
  · intro reporter ambient query
    exact Paging.ofQuery_cases sound reporter ambient query

def boundedSource : String :=
  "[errors]\nconfig_path = \"e\"\n[api]\nmax_limit = \x7b\x7b env.MOST \x7d\x7d\n"

def boundedEnvironment : Environment := ⟨[("MOST", Text.Utf8.encodeString "30")]⟩

theorem parse_boundedSource :
    ∃ config, Config.parse boundedEnvironment boundedSource = .ok config ∧
      config.api = ⟨20, 30, none⟩ := by
  have parsed : (Config.parse boundedEnvironment boundedSource).toOption.map Config.api =
      some ⟨20, 30, none⟩ := by
    decide +kernel
  obtain ⟨config, found, api⟩ := Option.map_eq_some_iff.mp parsed
  exact ⟨config, toOption_eq_some.mp found, api⟩

theorem not_asked_bounded (limit : Nat) :
    ¬ Paging.LimitAsked ⟨20, 30, none⟩ (some "31") limit := by
  have value {n : Int} (denotes : Paging.Denotes "31" n) : n = 31 := by
    have read := Decimal.readSigned_eq_ok.mpr denotes
    exact (Except.ok.inj read).symm
  intro asked
  cases asked with
  | zero denotes => exact absurd (value denotes) (by decide)
  | given denotes positive within =>
    have large := value denotes
    have small : (limit : Int) ≤ 30 := by exact_mod_cast within
    omega

/-- The bound comes from the environment, the last of two limits counts, and it is looked at
before the offset in front of it. -/
theorem startup_suffices_bounded :
    ∃ config, Config.parse boundedEnvironment boundedSource = .ok config ∧
      let served := Arguments.apply ⟨"emf.toml", none, true⟩ config
      served.IsValid ∧ (∃ service, Service.ofConfig served .builtin [] = .ok service) ∧
        ∃ fault events,
          Paging.ofQuery ⟨.builtin, .detached⟩ ⟨⟨"", ""⟩, .off⟩ served.api
              (some "offset=-3&limit=1&limit=%331") = .error (fault, events) ∧
            fault.status = 400 ∧ fault.data.get? "Param" = some (.text "limit") := by
  obtain ⟨config, parsed, api⟩ := parse_boundedSource
  refine ⟨config, parsed, ?_⟩
  intro served
  obtain ⟨valid, made, answers⟩ := startup_suffices parsed ⟨"emf.toml", none, true⟩
  have settings : served.api = ⟨20, 30, none⟩ := api
  refine ⟨valid, made .builtin [], ?_⟩
  rcases answers ⟨.builtin, .detached⟩ ⟨⟨"", ""⟩, .off⟩ (some "offset=-3&limit=1&limit=%331") with
    ⟨paging, -, asked, -⟩ | ⟨reason, fault, events, answered, refused, names⟩
  · have limit := asked.limit
    rw [settings] at limit
    exact absurd limit (not_asked_bounded paging.limit)
  · refine ⟨fault, events, answered, names.status, ?_⟩
    rw [names.parameter]
    cases refused with
    | limit given refused =>
      cases refused with
      | unread => rfl
      | out => rfl
    | offset fine given refused =>
      rw [settings] at fine
      exact absurd fine (not_asked_bounded _)

end FaultMesh
