import FaultMesh.Json.Reader
import FaultMesh.Proofs.OrderedMap
import FaultMesh.Proofs.Outcome

/-!
# Reading records

What a record reader takes.  The members of a record are those of an object, or the items
of a list under the names of the fields in their order.  A field may stand there once, and
a member of another name only has to be well-formed.  Then each field has been read from
its own member, whatever stands between.
-/

set_option autoImplicit false

namespace FaultMesh.Json

/-- Members whose keys all can be read. -/
def namedMembers? : List (Except Problem String × Node) → Option (List (String × Node))
  | [] => some []
  | (.error _, _) :: _ => none
  | (.ok key, node) :: members => (namedMembers? members).map ((key, node) :: ·)

def recordMembers? (names : List String) : Node → Option (List (String × Node))
  | .object _ members none => namedMembers? members
  | .list _ items none =>
    if items.length ≤ names.length then some (names.zip items) else none
  | _ => none

theorem recordMembers?_list {names : List String} {start : Nat} {items : List Node}
    {members : List (String × Node)} :
    recordMembers? names (.list start items none) = some members ↔
      items.length ≤ names.length ∧ names.zip items = members := by
  rw [recordMembers?, Option.ite_none_right_eq_some, Option.some.injEq]

theorem members_of_named {members : List (Except Problem String × Node)}
    {named : List (String × Node)} (same : namedMembers? members = some named) :
    members = named.map fun member => (.ok member.1, member.2) := by
  induction members generalizing named with
  | nil =>
    obtain rfl := Option.some.inj same
    rfl
  | cons member members ih =>
    obtain ⟨key, node⟩ := member
    cases key with
    | error problem => cases same
    | ok key =>
      obtain ⟨rest, others, rfl⟩ := Option.map_eq_some_iff.mp same
      rw [ih others]
      rfl

/-- The members of an object that is read are its members as they are written. -/
theorem members_of_record {names : List String} {start : Nat}
    {members : List (Except Problem String × Node)} {broken : Option Break}
    {named : List (String × Node)}
    (same : recordMembers? names (.object start members broken) = some named) :
    members = named.map fun member => (.ok member.1, member.2) := by
  cases broken with
  | none => exact members_of_named same
  | some reason => cases same

theorem foldMembers_eq_ok {σ : Type} {visit : σ → String → Node → Except Problem σ}
    {members : List (Except Problem String × Node)} {state next : σ} :
    Node.foldMembers visit state members = .ok next ↔
      ∃ named, namedMembers? members = some named ∧
        named.foldlM (fun state member => visit state member.1 member.2) state = .ok next := by
  induction members generalizing state with
  | nil => simp [Node.foldMembers, namedMembers?, pure, Except.pure]
  | cons member members ih =>
    obtain ⟨key, node⟩ := member
    cases key with
    | error problem => simp [Node.foldMembers, namedMembers?, bind, Except.bind]
    | ok key =>
      simp only [Node.foldMembers, namedMembers?, bind_eq_ok, Except.ok.injEq, exists_eq_left',
        Option.map_eq_some_iff, ih]
      constructor
      · rintro ⟨between, visited, named, same, folded⟩
        refine ⟨(key, node) :: named, ⟨named, same, rfl⟩, ?_⟩
        rw [List.foldlM_cons, bind_eq_ok]
        exact ⟨between, visited, folded⟩
      · rintro ⟨_, ⟨named, same, rfl⟩, folded⟩
        rw [List.foldlM_cons, bind_eq_ok] at folded
        obtain ⟨between, visited, folded⟩ := folded
        exact ⟨between, visited, named, same, folded⟩

@[simp] theorem refuse_eq_ok {α : Type} {node : Node} {expected : String} {value : α} :
    node.refuse expected = .ok value ↔ False := by
  cases node with
  | scalar found stop =>
    cases found with
    | null => simp [Node.refuse]
    | boolean content => simp [Node.refuse]
    | number numeral => cases read : readNumber numeral stop <;>
        simp [Node.refuse, read, bind, Except.bind]
    | text content => cases content <;> simp [Node.refuse, bind, Except.bind]
  | list start items reason => simp [Node.refuse]
  | object start members reason => simp [Node.refuse]
  | broken reason => simp [Node.refuse, throwBreak]

/-- Fields stand there once and not where they came before; other members are
well-formed. -/
structure Regular (names seen : List String) (members : List (String × Node)) : Prop where
  once : ((Entries.keys members).filter (· ∈ names)).Nodup
  fresh : ∀ member ∈ members, member.1 ∈ names → member.1 ∉ seen
  passed : ∀ member ∈ members, member.1 ∉ names → member.2.pass = .ok ()

section Regular
variable {names seen : List String} {key : String} {node : Node}
  {members : List (String × Node)}

theorem regular_nil : Regular names seen [] where
  once := List.nodup_nil
  fresh := by simp
  passed := by simp

theorem regular_field (known : key ∈ names) :
    Regular names seen ((key, node) :: members) ↔
      key ∉ seen ∧ Regular names (key :: seen) members := by
  constructor
  · rintro ⟨once, fresh, passed⟩
    simp only [Entries.keys, List.map_cons, List.filter_cons, known, decide_true, if_true,
      List.nodup_cons, List.mem_filter, and_true] at once
    refine ⟨fresh _ List.mem_cons_self known, once.2, ?_, ?_⟩
    · intro member inside field
      rw [List.mem_cons, not_or]
      constructor
      · intro same
        exact once.1 (same ▸ List.mem_map_of_mem inside)
      · exact fresh member (List.mem_cons_of_mem _ inside) field
    · intro member inside
      exact passed member (List.mem_cons_of_mem _ inside)
  · rintro ⟨unseen, once, fresh, passed⟩
    refine ⟨?_, ?_, ?_⟩
    · simp only [Entries.keys, List.map_cons, List.filter_cons, known, decide_true, if_true,
        List.nodup_cons, List.mem_filter, and_true]
      refine ⟨?_, once⟩
      intro again
      obtain ⟨member, inside, same⟩ := List.mem_map.mp again
      exact fresh member inside (same ▸ known) (same ▸ List.mem_cons_self)
    · rintro member inside field
      rcases List.mem_cons.mp inside with rfl | inside
      · exact unseen
      · intro before
        exact fresh member inside field (List.mem_cons_of_mem _ before)
    · rintro member inside other
      rcases List.mem_cons.mp inside with rfl | inside
      · exact absurd known other
      · exact passed member inside other

theorem regular_other (unknown : key ∉ names) :
    Regular names seen ((key, node) :: members) ↔
      node.pass = .ok () ∧ Regular names seen members := by
  constructor
  · rintro ⟨once, fresh, passed⟩
    simp only [Entries.keys, List.map_cons, List.filter_cons, unknown, decide_false] at once
    refine ⟨passed _ List.mem_cons_self unknown, once, ?_, ?_⟩
    · intro member inside
      exact fresh member (List.mem_cons_of_mem _ inside)
    · intro member inside
      exact passed member (List.mem_cons_of_mem _ inside)
  · rintro ⟨clean, once, fresh, passed⟩
    refine ⟨?_, ?_, ?_⟩
    · simp only [Entries.keys, List.map_cons, List.filter_cons, unknown, decide_false]
      exact once
    · rintro member inside field
      rcases List.mem_cons.mp inside with rfl | inside
      · exact absurd field unknown
      · exact fresh member inside field
    · rintro member inside other
      rcases List.mem_cons.mp inside with rfl | inside
      · exact clean
      · exact passed member inside other

end Regular

theorem Regular.lookup {names seen : List String} {members : List (String × Node)}
    {member : String × Node} (regular : Regular names seen members) (inside : member ∈ members)
    (field : member.1 ∈ names) : List.lookup member.1 members = some member.2 := by
  induction members generalizing seen with
  | nil => cases inside
  | cons first members ih =>
    obtain ⟨key, node⟩ := first
    rcases List.mem_cons.mp inside with rfl | behind
    · exact List.lookup_cons_self
    by_cases known : key ∈ names
    · have later := ((regular_field known).mp regular).2
      have other : key ≠ member.1 := by
        rintro rfl
        exact later.fresh member behind field List.mem_cons_self
      simpa [Entries.lookup_cons_ite, other] using ih later behind
    · have other : key ≠ member.1 := by
        rintro rfl
        exact known field
      simpa [Entries.lookup_cons_ite, other] using ih ((regular_other known).mp regular).2 behind

theorem Regular.distinct {names seen : List String} {members : List (String × Node)}
    {first second : String × Node} (regular : Regular names seen members)
    (twice : [first, second].Sublist members) (field : first.1 ∈ names) :
    first.1 ≠ second.1 := by
  intro same
  have keys : [first.1, second.1].Sublist (Entries.keys members) := twice.map Prod.fst
  have kept := keys.filter fun name => decide (name ∈ names)
  rw [List.filter_eq_self.mpr (by simp [← same, field])] at kept
  have apart := regular.once.sublist kept
  simp [same] at apart

theorem regular_of_keys {names : List String} {members : List (String × Node)}
    (distinct : (Entries.keys members).Nodup)
    (known : ∀ key ∈ Entries.keys members, key ∈ names) : Regular names [] members where
  once := distinct.filter _
  fresh := by simp
  passed := by
    intro member inside unknown
    exact absurd (known _ (List.mem_map_of_mem inside)) unknown

theorem regular_zip {names : List String} (distinct : names.Nodup) (items : List Node) :
    Regular names [] (names.zip items) := by
  have keys : (Entries.keys (names.zip items)).Sublist names := by
    clear distinct
    induction names generalizing items with
    | nil => simp
    | cons name names ih =>
      cases items with
      | nil => simp
      | cons item items => exact (ih items).cons_cons name
  apply regular_of_keys (distinct.sublist keys)
  intro key inside
  exact keys.subset inside

theorem exists_members_list {names : List String} (distinct : names.Nodup) {start : Nat}
    {items : List Node} {shape : List (String × Node) → Prop} :
    (∃ members, recordMembers? names (.list start items none) = some members ∧
        Regular names [] members ∧ shape members) ↔
      items.length ≤ names.length ∧ shape (names.zip items) := by
  simp only [recordMembers?_list, and_assoc]
  constructor
  · rintro ⟨_, short, rfl, -, has⟩
    exact ⟨short, has⟩
  · rintro ⟨short, has⟩
    exact ⟨_, short, rfl, regular_zip distinct items, has⟩

theorem once_of_count {names keys : List String} (once : ∀ name ∈ names, keys.count name ≤ 1) :
    (keys.filter (· ∈ names)).Nodup := by
  rw [List.nodup_iff_count]
  intro name
  by_cases known : name ∈ names
  · exact Nat.le_trans (List.Sublist.count_le _ List.filter_sublist) (once name known)
  · rw [List.count_eq_zero.mpr]
    · exact Nat.zero_le 1
    · simp [known]

/-! ## Readers -/

namespace RecordReader

variable {σ β : Type} {reader : RecordReader σ}

/-- Takes in members one after another. -/
def take (reader : RecordReader σ) (state : σ × List String)
    (members : List (String × Node)) : Except Problem (σ × List String) :=
  members.foldlM (fun state member => reader.visit state member.1 member.2) state

theorem take_cons (state : σ × List String) (key : String) (node : Node)
    (members : List (String × Node)) :
    reader.take state ((key, node) :: members) =
      reader.visit state key node >>= fun next => reader.take next members :=
  List.foldlM_cons

theorem visit_field {state : σ × List String} {key : String} {node : Node}
    {read : σ → Node → Except Problem σ} (known : List.lookup key reader.fields = some read)
    {next : σ × List String} :
    reader.visit state key node = .ok next ↔
      key ∉ state.2 ∧ ∃ value, read state.1 node = .ok value ∧ next = (value, key :: state.2) := by
  rw [visit, known]
  by_cases seen : key ∈ state.2
  · simp [seen]
  · simp only [seen, if_false, bind_eq_ok, not_false_eq_true, true_and]
    constructor
    · rintro ⟨value, same, done⟩
      exact ⟨value, same, (Except.ok.inj done).symm⟩
    · rintro ⟨value, same, rfl⟩
      exact ⟨value, same, rfl⟩

theorem visit_other (openly : reader.closed = false) {state next : σ × List String}
    {key : String} {node : Node} (unknown : List.lookup key reader.fields = none) :
    reader.visit state key node = .ok next ↔ node.pass = .ok () ∧ next = state := by
  rw [visit, unknown]
  simp only [openly, Bool.false_eq_true, if_false, bind_eq_ok]
  constructor
  · rintro ⟨⟨⟩, same, done⟩
    exact ⟨same, (Except.ok.inj done).symm⟩
  · rintro ⟨same, rfl⟩
    exact ⟨(), same, rfl⟩

theorem open_of_visit {state next : σ × List String} {key : String} {node : Node}
    (unknown : List.lookup key reader.fields = none)
    (visited : reader.visit state key node = .ok next) : reader.closed = false := by
  cases closed : reader.closed with
  | false => rfl
  | true =>
    rw [visit, unknown] at visited
    simp only [closed, if_true] at visited
    cases visited

theorem other_of_visit {state next : σ × List String} {key : String} {node : Node}
    (unknown : List.lookup key reader.fields = none)
    (visited : reader.visit state key node = .ok next) :
    node.pass = .ok () ∧ next = state :=
  (visit_other (open_of_visit unknown visited) unknown).mp visited

theorem regular_of_take {members : List (String × Node)}
    {state next : σ × List String} (taken : reader.take state members = .ok next) :
    Regular reader.fieldNames state.2 members := by
  induction members generalizing state with
  | nil => exact regular_nil
  | cons member members ih =>
    obtain ⟨key, node⟩ := member
    rw [take_cons, bind_eq_ok] at taken
    obtain ⟨between, visited, taken⟩ := taken
    cases known : List.lookup key reader.fields with
    | none =>
      obtain ⟨clean, rfl⟩ := other_of_visit known visited
      exact (regular_other (Entries.lookup_eq_none_iff_keys.mp known)).mpr ⟨clean, ih taken⟩
    | some read =>
      obtain ⟨unseen, value, same, rfl⟩ := (visit_field known).mp visited
      exact (regular_field (Entries.mem_keys_of_lookup known)).mpr ⟨unseen, ih taken⟩

theorem known_of_take (closed : reader.closed = true) {members : List (String × Node)}
    {state next : σ × List String} (taken : reader.take state members = .ok next) :
    ∀ key ∈ Entries.keys members, key ∈ reader.fieldNames := by
  induction members generalizing state with
  | nil =>
    intro key none
    cases none
  | cons member members ih =>
    obtain ⟨key, node⟩ := member
    rw [take_cons, bind_eq_ok] at taken
    obtain ⟨between, visited, taken⟩ := taken
    rw [Entries.keys_cons, List.forall_mem_cons]
    refine ⟨?_, ih taken⟩
    cases known : List.lookup key reader.fields with
    | none =>
      rw [open_of_visit known visited] at closed
      cases closed
    | some read => exact Entries.mem_keys_of_lookup known

theorem mem_keys_of_seen {members : List (String × Node)} {state next : σ × List String}
    (taken : reader.take state members = .ok next) {name : String} (seen : name ∈ next.2) :
    name ∈ state.2 ∨ name ∈ Entries.keys members := by
  induction members generalizing state with
  | nil =>
    obtain rfl := Except.ok.inj taken
    exact .inl seen
  | cons member members ih =>
    obtain ⟨key, node⟩ := member
    rw [take_cons, bind_eq_ok] at taken
    obtain ⟨between, visited, taken⟩ := taken
    rw [Entries.keys_cons, List.mem_cons]
    rcases ih taken with before | behind
    · cases known : List.lookup key reader.fields with
      | none =>
        rw [(other_of_visit known visited).2] at before
        exact .inl before
      | some read =>
        obtain ⟨-, value, -, rfl⟩ := (visit_field known).mp visited
        rcases List.mem_cons.mp before with here | before
        · exact .inr (.inl here)
        · exact .inl before
    · exact .inr (.inr behind)

theorem take_of_regular (reader : RecordReader σ) (openly : reader.closed = false)
    {members : List (String × Node)} (state : σ × List String)
    (regular : Regular reader.fieldNames state.2 members)
    (able : ∀ member ∈ members, ∀ read, List.lookup member.1 reader.fields = some read →
      ∀ value, ∃ next, read value member.2 = .ok next) :
    ∃ next, reader.take state members = .ok next := by
  induction members generalizing state with
  | nil => exact ⟨state, rfl⟩
  | cons member members ih =>
    obtain ⟨key, node⟩ := member
    have rest : ∀ member ∈ members, ∀ read,
        List.lookup member.1 reader.fields = some read →
          ∀ value, ∃ next, read value member.2 = .ok next := by
      intro member inside
      exact able member (List.mem_cons_of_mem _ inside)
    cases known : List.lookup key reader.fields with
    | none =>
      obtain ⟨clean, regular⟩ :=
        (regular_other (Entries.lookup_eq_none_iff_keys.mp known)).mp regular
      obtain ⟨next, taken⟩ := ih state regular rest
      refine ⟨next, ?_⟩
      rw [take_cons, bind_eq_ok]
      exact ⟨state, (visit_other openly known).mpr ⟨clean, rfl⟩, taken⟩
    | some read =>
      obtain ⟨unseen, regular⟩ := (regular_field (Entries.mem_keys_of_lookup known)).mp regular
      obtain ⟨value, same⟩ := able _ List.mem_cons_self read known state.1
      obtain ⟨next, taken⟩ := ih (value, key :: state.2) regular rest
      refine ⟨next, ?_⟩
      rw [take_cons, bind_eq_ok]
      exact ⟨_, (visit_field known).mpr ⟨unseen, value, same, rfl⟩, taken⟩

/-- What every field makes of a state holds of what one of them makes of it. -/
theorem changes_of_read {changes : String → σ → σ → Prop}
    (each : ∀ field ∈ reader.fields, ∀ before node after,
      field.2 before node = .ok after → changes field.1 before after)
    {name : String} {read : σ → Node → Except Problem σ}
    (known : List.lookup name reader.fields = some read) {before after : σ} {node : Node}
    (same : read before node = .ok after) : changes name before after :=
  each (name, read) (Entries.mem_of_lookup known) before node after same

theorem changes_of_put {reads : Node → Except Problem β} {put : σ → β → σ} {changes : σ → σ → Prop}
    (all : ∀ before content, changes before (put before content)) (before : σ) (node : Node)
    (after : σ) (same : (reads node >>= fun content => pure (put before content)) = .ok after) :
    changes before after := by
  obtain ⟨content, -, done⟩ := bind_eq_ok.mp same
  rw [← Except.ok.inj done]
  exact all before content

theorem kept_of_take (get : σ → β)
    (all : ∀ name read, List.lookup name reader.fields = some read →
      ∀ value node next, read value node = .ok next → get next = get value)
    {members : List (String × Node)} {state next : σ × List String}
    (taken : reader.take state members = .ok next) : get next.1 = get state.1 := by
  induction members generalizing state with
  | nil => rw [← Except.ok.inj taken]
  | cons member members ih =>
    obtain ⟨key, node⟩ := member
    rw [take_cons, bind_eq_ok] at taken
    obtain ⟨between, visited, taken⟩ := taken
    rw [ih taken]
    cases known : List.lookup key reader.fields with
    | none => rw [(other_of_visit known visited).2]
    | some read =>
      obtain ⟨-, value, same, rfl⟩ := (visit_field known).mp visited
      exact all key read known _ _ _ same

/-- What one field sees: only its own reader changes it, and only its own member is read. -/
theorem field_of_take {name : String}
    {read : σ → Node → Except Problem σ} (known : List.lookup name reader.fields = some read)
    (get : σ → β)
    (others : ∀ other read, List.lookup other reader.fields = some read → other ≠ name →
      ∀ value node next, read value node = .ok next → get next = get value)
    {members : List (String × Node)} {state next : σ × List String}
    (taken : reader.take state members = .ok next) :
    (List.lookup name members = none ∧ get next.1 = get state.1) ∨
      ∃ node value after, List.lookup name members = some node ∧
        read value node = .ok after ∧ get next.1 = get after := by
  induction members generalizing state with
  | nil =>
    obtain rfl := Except.ok.inj taken
    exact .inl ⟨rfl, rfl⟩
  | cons member members ih =>
    obtain ⟨key, node⟩ := member
    rw [take_cons, bind_eq_ok] at taken
    obtain ⟨between, visited, taken⟩ := taken
    by_cases own : key = name
    · subst own
      obtain ⟨unseen, value, same, rfl⟩ := (visit_field known).mp visited
      -- The name is seen from here on, so the other members do not have it.
      have once : List.lookup key members = none := by
        have regular := regular_of_take taken
        rw [Entries.lookup_eq_none_iff_keys]
        intro again
        obtain ⟨member, inside, same⟩ := List.mem_map.mp again
        exact regular.fresh member inside (same ▸ Entries.mem_keys_of_lookup known)
          (same ▸ List.mem_cons_self)
      refine .inr ⟨node, state.1, value, List.lookup_cons_self, same, ?_⟩
      rcases ih taken with ⟨-, kept⟩ | ⟨_, _, _, found, -⟩
      · exact kept
      · rw [once] at found
        cases found
    · have step : get between.1 = get state.1 := by
        cases field : List.lookup key reader.fields with
        | none => rw [(other_of_visit field visited).2]
        | some read =>
          obtain ⟨-, value, same, rfl⟩ := (visit_field field).mp visited
          exact others key read field own _ _ _ same
      simpa [Entries.lookup_cons_ite, own, step] using ih taken

/-! ## Records -/

theorem endOfList_eq_ok {rest : List Node} {reason : Option Break} {done : Unit} :
    endOfList rest reason = .ok done ↔ rest = [] ∧ reason = none := by
  cases rest with
  | nil =>
    cases reason with
    | none => simp [endOfList]
    | some reason =>
      simp only [endOfList]
      split
      · simp
      split
      · simp
      · simp
  | cons node rest => simp [endOfList]

/-- Items are taken in as members under the names of the fields. -/
theorem visitItems_eq_ok (reader : RecordReader σ) {reason : Option Break}
    {fields : List (String × (σ → Node → Except Problem σ))} {items : List Node}
    {state next : σ × List String}
    (known : ∀ field ∈ fields, List.lookup field.1 reader.fields = some field.2)
    (distinct : (Entries.keys fields).Nodup)
    (unseen : ∀ name ∈ Entries.keys fields, name ∉ state.2) :
    visitItems reason fields items state = .ok next ↔
      reason = none ∧ items.length ≤ fields.length ∧
        reader.take state ((Entries.keys fields).zip items) = .ok next := by
  induction fields generalizing items state with
  | nil =>
    cases items with
    | nil =>
      simp [visitItems, bind_eq_ok, endOfList_eq_ok, take, pure, Except.pure]
    | cons item items =>
      rw [visitItems, bind_eq_ok]
      simp [endOfList_eq_ok]
  | cons field fields ih =>
    obtain ⟨name, read⟩ := field
    cases items with
    | nil =>
      cases reason with
      | none => simp [visitItems, close, take, pure, Except.pure, bind, Except.bind]
      | some reason => simp [visitItems, close, bind, Except.bind]
    | cons item items =>
      obtain ⟨value, seen⟩ := state
      rw [Entries.keys_cons, List.nodup_cons] at distinct
      have later (next : σ) := @ih items (next, name :: seen)
        (fun field inside => known field (List.mem_cons_of_mem _ inside)) distinct.2 (by
          intro other inside
          rw [List.mem_cons, not_or]
          constructor
          · intro same
            exact distinct.1 (same ▸ inside)
          · exact unseen other (List.mem_cons_of_mem _ inside))
      have first : name ∉ seen := unseen name List.mem_cons_self
      rw [Entries.keys_cons, List.zip_cons_cons, take_cons, bind_eq_ok, visitItems, bind_eq_ok]
      simp only [later, visit_field (known (name, read) List.mem_cons_self), List.length_cons,
        Nat.add_le_add_iff_right]
      constructor
      · rintro ⟨after, same, closed, short, taken⟩
        exact ⟨closed, short, _, ⟨first, after, same, rfl⟩, taken⟩
      · rintro ⟨closed, short, _, ⟨-, after, same, rfl⟩, taken⟩
        exact ⟨after, same, closed, short, taken⟩

theorem read_eq_ok (distinct : reader.fieldNames.Nodup) {depth : Nat} (enters : depth ≠ 0)
    {start : σ} {node : Node} {next : σ × List String} :
    reader.read depth start node = .ok next ↔
      ∃ members, recordMembers? reader.fieldNames node = some members ∧
        reader.take (start, []) members = .ok next := by
  cases node with
  | scalar value stop => simp [read, recordMembers?]
  | broken reason => simp [read, recordMembers?]
  | object offset members reason =>
    simp only [read, if_neg enters, bind_eq_ok, foldMembers_eq_ok]
    cases reason with
    | none =>
      constructor
      · rintro ⟨after, ⟨named, same, taken⟩, -, -, done⟩
        exact ⟨named, same, Except.ok.inj done ▸ taken⟩
      · rintro ⟨named, same, taken⟩
        exact ⟨next, ⟨named, same, taken⟩, (), rfl, rfl⟩
    | some reason => simp [close, recordMembers?]
  | list offset items reason =>
    rw [read, if_neg enters, visitItems_eq_ok reader]
    · cases reason with
      | none =>
        simp only [recordMembers?_list, fieldNames, List.length_map, true_and]
        constructor
        · rintro ⟨short, taken⟩
          exact ⟨_, ⟨short, rfl⟩, taken⟩
        · rintro ⟨_, ⟨short, same⟩, taken⟩
          exact ⟨short, same ▸ taken⟩
      | some reason => simp [recordMembers?]
    · intro field inside
      exact Entries.lookup_of_mem distinct inside
    · exact distinct
    · simp

/-- A shape that members have when they are taken in, that only one state has and whose
fields can be read is what the reader asks for, besides that the record is regular. -/
theorem read_shape_iff (shape : List (String × Node) → σ → Prop) {start : σ}
    (openly : reader.closed = false) (distinct : reader.fieldNames.Nodup)
    (shaped : ∀ members next, reader.take (start, []) members = .ok next → shape members next.1)
    (able : ∀ members value, shape members value → ∀ name read,
      List.lookup name reader.fields = some read → ∀ node,
        List.lookup name members = some node → ∀ before, ∃ after, read before node = .ok after)
    (unique : ∀ members first second,
      shape members first → shape members second → first = second)
    {depth : Nat} (enters : depth ≠ 0) {node : Node} {value : σ} :
    (reader.read depth start node).map Prod.fst = .ok value ↔
      ∃ members, recordMembers? reader.fieldNames node = some members ∧
        Regular reader.fieldNames [] members ∧ shape members value := by
  rw [map_eq_ok]
  constructor
  · rintro ⟨next, read, rfl⟩
    obtain ⟨members, same, taken⟩ := (read_eq_ok distinct enters).mp read
    exact ⟨members, same, regular_of_take taken, shaped members next taken⟩
  · rintro ⟨members, same, regular, has⟩
    have fields : ∀ member ∈ members, ∀ read,
        List.lookup member.1 reader.fields = some read →
          ∀ value, ∃ next, read value member.2 = .ok next := by
      intro member inside read known
      have found := regular.lookup inside (Entries.mem_keys_of_lookup known)
      exact able members value has member.1 read known member.2 found
    obtain ⟨next, taken⟩ := take_of_regular reader openly (start, []) regular fields
    refine ⟨next, (read_eq_ok distinct enters).mpr ⟨members, same, taken⟩, ?_⟩
    exact unique members next.1 value (shaped members next taken) has

end RecordReader

/-! ## Values that are passed over -/

mutual

/-- What can be read can be passed over. -/
theorem pass_of_datum {depth : Nat} {value : Datum} :
    ∀ node : Node, node.datum depth = .ok value → node.pass = .ok ()
  | .scalar _ _, _ => rfl
  | .broken _, read => by simp [Node.datum, throwBreak] at read
  | .list _ items reason, read => by
    cases depth with
    | zero => simp [Node.datum] at read
    | succ depth =>
      rw [Node.datum, bind_eq_ok] at read
      obtain ⟨values, inside, closed⟩ := read
      cases reason with
      | some reason => cases closed
      | none =>
        have passed := passItems_of_data items inside
        simp [Node.pass, passed, bind, Except.bind]
  | .object _ members reason, read => by
    cases depth with
    | zero => simp [Node.datum] at read
    | succ depth =>
      rw [Node.datum, bind_eq_ok] at read
      obtain ⟨written, inside, closed⟩ := read
      cases reason with
      | some reason => cases closed
      | none =>
        have passed := passMembers_of_data members inside
        simp [Node.pass, passed, bind, Except.bind]

theorem passItems_of_data {depth : Nat} {values : List Datum} :
    ∀ items : List Node, dataOfItems depth items = .ok values → passItems items = .ok ()
  | [], _ => rfl
  | item :: items, read => by
    rw [dataOfItems, bind_eq_ok] at read
    obtain ⟨value, first, read⟩ := read
    obtain ⟨rest, others, -⟩ := bind_eq_ok.mp read
    rw [passItems, bind_eq_ok]
    exact ⟨(), pass_of_datum item first, passItems_of_data items others⟩

theorem passMembers_of_data {depth : Nat} {written : List (String × Datum)} :
    ∀ members : List (Except Problem String × Node),
      dataOfMembers depth members = .ok written → passMembers members = .ok ()
  | [], _ => rfl
  | (key, node) :: members, read => by
    rw [dataOfMembers, bind_eq_ok] at read
    obtain ⟨key, -, read⟩ := read
    obtain ⟨value, first, read⟩ := bind_eq_ok.mp read
    obtain ⟨rest, others, -⟩ := bind_eq_ok.mp read
    rw [passMembers, bind_eq_ok]
    exact ⟨(), pass_of_datum node first, passMembers_of_data members others⟩

end

theorem named_of_data {depth : Nat} {members : List (Except Problem String × Node)}
    {written : List (String × Datum)} (read : dataOfMembers depth members = .ok written) :
    ∃ named, namedMembers? members = some named ∧
      ∀ member ∈ named, ∃ value, member.2.datum depth = .ok value := by
  induction members generalizing written with
  | nil => exact ⟨[], rfl, by simp⟩
  | cons member members ih =>
    obtain ⟨key, node⟩ := member
    rw [dataOfMembers, bind_eq_ok] at read
    obtain ⟨name, rfl, read⟩ := read
    obtain ⟨value, first, read⟩ := bind_eq_ok.mp read
    obtain ⟨rest, others, -⟩ := bind_eq_ok.mp read
    obtain ⟨named, same, values⟩ := ih others
    refine ⟨(name, node) :: named, by rw [namedMembers?, same]; rfl, ?_⟩
    intro member inside
    rcases List.mem_cons.mp inside with rfl | inside
    · exact ⟨value, first⟩
    · exact values member inside

theorem Document.read_eq_ok {α : Type} {document : Document}
    {reader : Node → Except Problem α} {value : α} :
    document.read reader = .ok value ↔
      document.excess = none ∧ reader document.root = .ok value := by
  rw [Document.read, bind_eq_ok]
  cases document.excess with
  | none => simp [pure, Except.pure]
  | some problem => simp

end FaultMesh.Json
