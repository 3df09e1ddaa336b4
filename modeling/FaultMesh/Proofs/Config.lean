import FaultMesh.CommandLine
import FaultMesh.Config.Source
import FaultMesh.Proofs.Outcome
import FaultMesh.Proofs.Toml.Records
import FaultMesh.Service

/-!
# Valid settings

What the validation of settings says of them, for those who work with them later.  A
configuration that was read is valid, and no command line makes it invalid.
-/

set_option autoImplicit false

namespace FaultMesh.Config

structure Sound (api : ApiSettings) : Prop where
  positive : 0 < api.defaultLimit
  within : api.defaultLimit ≤ api.maxLimit
  gate : ∃ gate, PathGate.ofSettings api = .ok gate

theorem patternFlaw?_eq_none_iff (api : ApiSettings) :
    patternFlaw? api = none ↔ ∃ gate, PathGate.ofSettings api = .ok gate := by
  rw [patternFlaw?, PathGate.ofSettings]
  cases api.pathPattern with
  | none => simp
  | some text =>
    cases read : Regex.ofPattern text with
    | ok regex => simp [read, Except.map]
    | error reason => simp [read, Except.map]

theorem apiFlaw?_eq_none_iff (api : ApiSettings) : apiFlaw? api = none ↔ Sound api := by
  rw [apiFlaw?]
  by_cases zero : api.maxLimit = 0
  · rw [if_pos zero]
    refine iff_of_false (by simp) ?_
    intro sound
    have bounds := Nat.lt_of_lt_of_le sound.positive sound.within
    omega
  rw [if_neg zero]
  by_cases out : api.defaultLimit = 0 ∨ api.maxLimit < api.defaultLimit
  · rw [if_pos out]
    refine iff_of_false (by simp) ?_
    intro sound
    have positive := sound.positive
    have within := sound.within
    omega
  rw [if_neg out, patternFlaw?_eq_none_iff]
  constructor
  · intro gate
    exact ⟨by omega, by omega, gate⟩
  · intro sound
    exact sound.gate

theorem sound_of_valid {config : Config} (valid : config.IsValid) : Sound config.api := by
  rw [IsValid, flaw?] at valid
  rw [← apiFlaw?_eq_none_iff]
  cases errors : sourceFlaw? config.errors with
  | some flaw => simp [errors] at valid
  | none =>
    cases api : apiFlaw? config.api with
    | some flaw => simp [errors, api] at valid
    | none => rfl

theorem validate_eq_ok {config other : Config} :
    validate config = .ok other ↔ config.IsValid ∧ other = config := by
  rw [validate, IsValid]
  cases flaw : config.flaw? with
  | none => simp [eq_comm]
  | some flaw => simp

theorem valid_of_parse {environment : Environment} {source : String} {config : Config}
    (parsed : parse environment source = .ok config) : config.IsValid := by
  unfold parse at parsed
  split at parsed
  · cases parsed
  split at parsed
  · cases parsed
  obtain ⟨read, -, validated⟩ := bind_eq_ok.mp parsed
  obtain ⟨valid, rfl⟩ := validate_eq_ok.mp validated
  exact valid

structure Accepted (config : Config) : Prop where
  valid : config.IsValid
  read : ∀ component domain, config.domains.get? component = some domain →
    ∃ text, Url.parse text = .ok domain

theorem parse_of_readUrl {value : Toml.Value} {url : Url} (read : readUrl value = .ok url) :
    ∃ text, Url.parse text = .ok url := by
  rw [readUrl] at read
  obtain ⟨text, -, parsed⟩ := bind_eq_ok.mp read
  exact ⟨text, mapError_eq_ok.mp parsed⟩

/-- Whether the URLs of a draft are ones that were read. -/
def HoldsRead (draft : Config) : Prop :=
  ∀ component domain, draft.domains.get? component = some domain →
    ∃ text, Url.parse text = .ok domain

theorem holdsRead_step : ∀ field ∈ reader.fields, ∀ value draft next, HoldsRead draft →
    field.read draft value = .ok next → HoldsRead next := by
  intro field member value draft next holds read
  simp only [reader, List.mem_cons, List.not_mem_nil, or_false] at member
  rcases member with rfl | rfl | rfl | rfl | rfl | rfl
  all_goals
    obtain ⟨part, found, made⟩ := bind_eq_ok.mp read
    obtain rfl := pure_eq_ok.mp made
  -- only one field changes the URLs
  any_goals exact holds
  intro component domain known
  obtain ⟨value, read⟩ := Toml.get?_asMap found known
  exact parse_of_readUrl read

theorem ofEntries_eq_ok {entries : List (String × Toml.Value)} {config : Config} :
    ofEntries entries = .ok config ↔ reader.read .blank (.table entries) = .ok config := by
  rw [ofEntries]
  cases reader.read .blank (.table entries) <;> simp

theorem accepted_of_parse {environment : Environment} {source : String} {config : Config}
    (parsed : parse environment source = .ok config) : config.Accepted := by
  refine ⟨valid_of_parse parsed, ?_⟩
  unfold parse at parsed
  split at parsed
  · cases parsed
  split at parsed
  · cases parsed
  next entries _ =>
    obtain ⟨read, made, validated⟩ := bind_eq_ok.mp parsed
    obtain ⟨-, rfl⟩ := validate_eq_ok.mp validated
    have visited := (Toml.RecordReader.read_table.mp (ofEntries_eq_ok.mp made)).1
    refine Toml.RecordReader.invariant_of_visit holdsRead_step visited ?_
    intro component domain known
    cases known

theorem valid_apply_iff (arguments : Arguments) (config : Config) :
    (arguments.apply config).IsValid ↔ config.IsValid :=
  Iff.rfl

end FaultMesh.Config
