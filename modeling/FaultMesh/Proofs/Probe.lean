import Mathlib.Logic.Relation
import FaultMesh.Probe
import FaultMesh.Proofs.Reporter.Disclosure
import FaultMesh.Proofs.Reporter.Making

/-!
# Probing chains of failures

A probe accepts a chain exactly when some failure that is reached from its head, from each one
to what led to it, is a fault with the wanted property.  A fault that was made with causes is
accepted for itself or for the first cause, and for nothing else.
-/

set_option autoImplicit false

namespace FaultMesh

namespace Cause

/-- What led to a failure, with all that is behind it. -/
def source? (cause : Cause) : Option Cause :=
  match cause.sources with
  | [] => none
  | link :: rest => some ⟨link, rest⟩

/-- Reached in any number of steps, from a failure to what led to it. -/
def Reaches : Cause → Cause → Prop :=
  Relation.ReflTransGen fun cause next => cause.source? = some next

theorem reaches_iff {cause reached : Cause} :
    cause.Reaches reached ↔
      cause = reached ∨ ∃ next, cause.source? = some next ∧ next.Reaches reached :=
  Relation.ReflTransGen.cases_head_iff

theorem mem_links_iff {link : Link} (cause : Cause) :
    link ∈ cause.links ↔ ∃ reached, cause.Reaches reached ∧ reached.head = link := by
  obtain ⟨head, sources⟩ := cause
  induction sources generalizing head with
  | nil =>
    constructor
    · intro inside
      exact ⟨⟨head, []⟩, .refl, (List.mem_singleton.mp inside).symm⟩
    · rintro ⟨reached, reaches, rfl⟩
      rcases reaches_iff.mp reaches with rfl | ⟨next, step, -⟩
      · exact List.mem_cons_self
      · cases step
  | cons first rest ih =>
    have step : source? ⟨head, first :: rest⟩ = some ⟨first, rest⟩ := rfl
    constructor
    · intro inside
      rcases List.mem_cons.mp inside with rfl | behind
      · exact ⟨_, .refl, rfl⟩
      · obtain ⟨reached, reaches, same⟩ := (ih first).mp behind
        exact ⟨reached, reaches_iff.mpr (.inr ⟨_, step, reaches⟩), same⟩
    · rintro ⟨reached, reaches, rfl⟩
      rcases reaches_iff.mp reaches with rfl | ⟨next, taken, behind⟩
      · exact List.mem_cons_self
      · obtain rfl := Option.some.inj (step.symm.trans taken)
        exact List.mem_cons_of_mem _ ((ih first).mpr ⟨reached, behind, rfl⟩)

end Cause

namespace Probe

/-- Has the code, the status or the component that is probed for. -/
def Fits : Probe → Identity → Prop
  | .byCode code, identity => identity.code = code
  | .byStatus status, identity => identity.status = status
  | .byComponent component, identity => Code.component identity.code = component

variable {probe : Probe}

theorem accepts_iff {identity : Identity} : probe.accepts identity = true ↔ probe.Fits identity := by
  cases probe <;> exact beq_iff_eq

theorem acceptsChain_iff {cause : Cause} : probe.acceptsChain cause = true ↔
    ∃ reached, cause.Reaches reached ∧
      ∃ identity, reached.head.identity = some identity ∧ probe.Fits identity := by
  rw [acceptsChain, List.any_eq_true]
  simp only [Option.any_eq_true, accepts_iff, Cause.mem_links_iff]
  constructor
  · rintro ⟨link, ⟨reached, reaches, rfl⟩, fits⟩
    exact ⟨reached, reaches, fits⟩
  · rintro ⟨reached, reaches, fits⟩
    exact ⟨reached.head, ⟨reached, reaches, rfl⟩, fits⟩

theorem acceptsChain_asCause (fault : Fault) : probe.acceptsChain fault.asCause = true ↔
    probe.Fits fault.identity ∨
      ∃ cause, fault.cause = some cause ∧ probe.acceptsChain cause = true := by
  have links : fault.asCause.links = ⟨fault.display, some fault.identity⟩ :: fault.sources := rfl
  rw [acceptsChain, links, List.any_cons, Bool.or_eq_true, Option.any_some, accepts_iff,
    Fault.sources]
  cases fault.cause with
  | none => simp
  | some cause => simp [acceptsChain]

end Probe

/-! ## Made faults -/

def Definition.identity (definition : Definition) : Identity :=
  ⟨definition.code, definition.status⟩

namespace Reporter

inductive Way where
  | new (code : String)
  | builtin (code : Builtin)
  | fail (code : String)

/-- Code and status that a registry has for what is asked for. -/
def Way.identity? (registry : Registry) : Way → Option Identity
  | .new code => (registry.getDefinition code).map Definition.identity
  | .builtin code => some code.definition.identity
  | .fail code => some (registry.definitionFor code).identity

def make (reporter : Reporter) (ambient : Ambient) (data : Data) (causes : List Cause) :
    Way → Except RegistryError (Fault × List Log.Event)
  | .new code => reporter.new ambient code data causes
  | .builtin code => .ok (reporter.builtin ambient code data causes)
  | .fail code => .ok (reporter.fail ambient code data causes)

section Make
variable {reporter : Reporter} {ambient : Ambient} {data : Data} {causes : List Cause}
  {way : Way} {made : Fault × List Log.Event}

theorem instantiate_identity (definition : Definition) :
    (reporter.instantiate ambient definition data causes).1.identity = definition.identity := by
  rw [Fault.identity, instantiate_code, instantiate_status, Definition.identity]

theorem fail_identity (code : String) :
    (reporter.fail ambient code data causes).1.identity =
      (reporter.registry.definitionFor code).identity := by
  rw [Registry.definitionFor]
  cases found : reporter.registry.getDefinition code with
  | some definition =>
    rw [fail_of_found reporter ambient data causes found, instantiate_identity, Option.getD_some]
  | none =>
    rw [fail_of_missing reporter ambient data causes found, Option.getD_none]
    exact instantiate_identity _

theorem make_eq_ok (success : reporter.make ambient data causes way = .ok made) :
    way.identity? reporter.registry = some made.1.identity ∧ made.1.cause = causes.head? := by
  cases way with
  | new code =>
    refine ⟨?_, (new_first reporter data causes ambient code).2 made success⟩
    rw [make] at success
    rw [Way.identity?]
    cases found : reporter.registry.getDefinition code with
    | none =>
      rw [new_of_missing reporter ambient data causes found] at success
      cases success
    | some definition =>
      rw [new_of_found reporter ambient data causes found] at success
      obtain rfl := Except.ok.inj success
      rw [instantiate_identity, Option.map_some]
  | builtin code =>
    obtain rfl := Except.ok.inj success
    exact ⟨congrArg some (instantiate_identity _).symm, instantiate_cause reporter _ _ data causes⟩
  | fail code =>
    obtain rfl := Except.ok.inj success
    exact ⟨congrArg some (fail_identity code).symm, (fail_first reporter data causes ambient code).2⟩

theorem acceptsChain_made (success : reporter.make ambient data causes way = .ok made)
    (probe : Probe) : probe.acceptsChain made.1.asCause = true ↔
      probe.Fits made.1.identity ∨
        ∃ first, causes.head? = some first ∧ probe.acceptsChain first = true := by
  rw [Probe.acceptsChain_asCause, (make_eq_ok success).2]

end Make

/-- A probe accepts a chain exactly when a failure that is reached from its head is a fault
with the wanted property; without a fault in the chain there is none.  It accepts a made fault
for itself or for the first cause.  So two faults that are made of the same code and status
and of the same first cause are accepted alike, whatever their other causes, data and messages
are. -/
theorem acceptsChain_sees_through :
    (∀ (probe : Probe) (cause : Cause), probe.acceptsChain cause = true ↔
        ∃ reached, cause.Reaches reached ∧
          ∃ identity, reached.head.identity = some identity ∧ probe.Fits identity) ∧
      (∀ (reporter : Reporter) (ambient : Ambient) (way : Way) (data : Data)
          (causes : List Cause) (made : Fault × List Log.Event),
        reporter.make ambient data causes way = .ok made →
        ∀ probe : Probe, probe.acceptsChain made.1.asCause = true ↔
          probe.Fits made.1.identity ∨
            ∃ first, causes.head? = some first ∧ probe.acceptsChain first = true) ∧
      (∀ (reporter twin : Reporter) (ambient elsewhere : Ambient) (way other : Way)
          (data binding : Data) (causes others : List Cause) (made again : Fault × List Log.Event),
        reporter.make ambient data causes way = .ok made →
        twin.make elsewhere binding others other = .ok again →
        way.identity? reporter.registry = other.identity? twin.registry →
        causes.head? = others.head? →
        ∀ probe : Probe,
          probe.acceptsChain made.1.asCause = probe.acceptsChain again.1.asCause) ∧
      ∀ cause : Cause, (∀ reached, cause.Reaches reached → reached.head.identity = none) →
        ∀ probe : Probe, probe.acceptsChain cause = false := by
  refine ⟨fun probe cause => Probe.acceptsChain_iff, ?_, ?_, ?_⟩
  · intro reporter ambient way data causes made success
    exact acceptsChain_made success
  · intro reporter twin ambient elsewhere way other data binding causes others made again success
      repeated same first probe
    have identity : made.1.identity = again.1.identity := by
      rw [(make_eq_ok success).1, (make_eq_ok repeated).1] at same
      exact Option.some.inj same
    rw [Bool.eq_iff_iff, acceptsChain_made success, acceptsChain_made repeated, identity, first]
  · intro cause none probe
    rw [← Bool.not_eq_true, Probe.acceptsChain_iff]
    rintro ⟨reached, reaches, identity, found, -⟩
    rw [none reached reaches] at found
    cases found

/-- A code that is not registered, caused by a failure that wraps a fault, with and without
data and a second cause, and a failure that no fault is behind. -/
theorem acceptsChain_sees_through_degraded :
    let ambient : Ambient := ⟨⟨"2024-05-01T10:00:00Z", ""⟩, .off⟩
    let reporter : Reporter := ⟨.builtin, .detached⟩
    let wrapped : Cause := .wrap "retried" (reporter.builtin ambient .tokenMissing .empty []).1.asCause
    let outer := (reporter.fail ambient "users.404.Missing" .empty [wrapped]).1
    let other := (reporter.fail ambient "users.404.Missing" (.ofList [("Id", .text "7")])
      [wrapped, .plain "later"]).1
    (Probe.byStatus 401).acceptsChain outer.asCause = true ∧
      (Probe.byStatus 401).acceptsChain outer.asCause =
        (Probe.byStatus 401).acceptsChain other.asCause ∧
      (Probe.byStatus 401).acceptsChain (.wrap "retried" (.plain "refused")) = false := by
  intro ambient reporter wrapped outer other
  obtain ⟨chains, own, alike, foreign⟩ := acceptsChain_sees_through
  have behind : (Probe.byStatus 401).acceptsChain wrapped = true :=
    (chains _ _).mpr ⟨_, Relation.ReflTransGen.single rfl, _, rfl, rfl⟩
  refine ⟨?_, ?_, ?_⟩
  · exact (own reporter ambient (.fail "users.404.Missing") .empty [wrapped] _ rfl _).mpr
      (.inr ⟨wrapped, rfl, behind⟩)
  · exact alike reporter reporter ambient ambient (.fail "users.404.Missing")
      (.fail "users.404.Missing") .empty _ [wrapped] [wrapped, .plain "later"] _ _ rfl rfl rfl rfl _
  · refine foreign _ (fun reached reaches => ?_) _
    have link := (Cause.mem_links_iff _).mpr ⟨reached, reaches, rfl⟩
    rcases List.mem_cons.mp link with same | link
    · rw [same]
      rfl
    · rw [List.mem_singleton.mp link]
      rfl

end Reporter

end FaultMesh
