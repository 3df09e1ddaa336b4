import Mathlib.Algebra.Group.Nat.Defs
import FaultMesh.Proofs.Json.Records

/-!
# Values of members

What the value of a member has to look like for its reader: a string, a whole number
without a sign, a fraction or an exponent, an object of strings, an object of any values.
A member may also be missing or null, and then stands for a default.
-/

set_option autoImplicit false

namespace FaultMesh.Json

def IsText (node : Node) (value : String) : Prop :=
  ∃ stop, node = .scalar (.text (.ok value)) stop

/-- Digits that make a number of 16 bits. -/
def IsStatus (node : Node) (value : UInt16) : Prop :=
  ∃ numeral stop, node = .scalar (.number numeral) stop ∧ numeral.integral = true ∧
    numeral.negative = false ∧ numeral.magnitude = value.toNat

def AreTexts : List (String × Node) → List (String × String) → Prop
  | [], [] => True
  | (key, node) :: members, (other, value) :: written =>
    key = other ∧ IsText node value ∧ AreTexts members written
  | _, _ => False

/-- An object of strings; what was written last under a key counts. -/
def IsTexts (node : Node) (value : OrderedMap String) : Prop :=
  ∃ start members named written, node = .object start members none ∧
    namedMembers? members = some named ∧ AreTexts named written ∧ value = .ofList written

/-- An object whose values can be read, at some depth. -/
def IsData (depth : Nat) (node : Node) (value : Data) : Prop :=
  node.datum depth = .ok (.map value.entries)

/-- A member that may be missing or null, and then stands for `default`. -/
inductive Carries {α : Type} (wanted : Node → α → Prop) (default : α) :
    Option Node → α → Prop where
  | missing : Carries wanted default none default
  | null (stop : Nat) : Carries wanted default (some (.scalar .null stop)) default
  | written {node : Node} {value : α} (is : wanted node value) :
    Carries wanted default (some node) value

/-! ## Readers of values -/

section Readers
variable {node : Node}

theorem text_eq_ok {value : String} : node.text = .ok value ↔ IsText node value := by
  cases node with
  | scalar found stop => cases found <;> simp [Node.text, IsText]
  | list start items reason => simp [Node.text, IsText]
  | object start members reason => simp [Node.text, IsText]
  | broken reason => simp [Node.text, IsText]

theorem number?_eq_whole {numeral : Numeral} {value : Int}
    {fits : Decimal.FitsSigned 64 value ∨ Decimal.FitsUnsigned 64 value}
    (unsigned : 0 ≤ value) :
    numeral.number? = some (.whole value fits) ↔
      numeral.integral = true ∧ numeral.negative = false ∧ (numeral.magnitude : Int) = value := by
  have real : numeral.real?.map Number.real ≠ some (.whole value fits) := by
    cases numeral.real? <;> simp
  have either (found : Int) : (Number.ofInt? found).or (numeral.real?.map Number.real) =
      some (.whole value fits) ↔ found = value := by
    constructor
    · intro same
      unfold Number.ofInt? at same
      split at same
      next holds =>
        rw [Option.some_or, Option.some.injEq, Number.whole.injEq] at same
        exact same
      next =>
        rw [Option.none_or] at same
        exact absurd same real
    · rintro rfl
      rw [Number.ofInt?, dif_pos fits, Option.some_or]
  unfold Numeral.number?
  cases integral : numeral.integral with
  | false => simp [real]
  | true =>
    cases negative : numeral.negative with
    | false => simp [Number.ofNat?, either]
    | true =>
      by_cases zero : numeral.magnitude = 0
      · simp [zero, real]
      · have below : -(numeral.magnitude : Int) ≠ value := by omega
        simpa [zero] using fun same => below ((either _).mp same)

theorem readNumber_eq_ok {numeral : Numeral} {stop : Nat} {value : Number} :
    readNumber numeral stop = .ok value ↔ numeral.number? = some value := by
  unfold readNumber
  split <;> simp_all

theorem unsigned_eq_ok {name : String} {value : Nat} :
    node.unsigned 16 name = .ok value ↔
      ∃ numeral stop, node = .scalar (.number numeral) stop ∧ numeral.integral = true ∧
        numeral.negative = false ∧ numeral.magnitude = value ∧ value < 2 ^ 16 := by
  cases node with
  | list start items reason => simp [Node.unsigned]
  | object start members reason => simp [Node.unsigned]
  | broken reason => simp [Node.unsigned]
  | scalar found stop =>
    cases found with
    | null => simp [Node.unsigned]
    | boolean content => simp [Node.unsigned]
    | text content => simp [Node.unsigned]
    | number numeral =>
      simp only [Node.unsigned, bind_eq_ok, readNumber_eq_ok, Node.scalar.injEq,
        Scalar.number.injEq]
      constructor
      · rintro ⟨number, read, taken⟩
        cases number with
        | real x => cases taken
        | whole found fits =>
          simp only at taken
          split at taken
          next small =>
            obtain ⟨integral, unsigned, magnitude⟩ := (number?_eq_whole small.1).mp read
            obtain rfl := Except.ok.inj taken
            have size := small.2
            exact ⟨numeral, stop, ⟨rfl, rfl⟩, integral, unsigned, by omega,
              by simp only [Nat.pow_eq] at size; omega⟩
          next => cases taken
      · rintro ⟨_, _, ⟨rfl, rfl⟩, integral, unsigned, rfl, small⟩
        have fits : Decimal.FitsUnsigned 64 numeral.magnitude :=
          ⟨by omega, by simp only [Nat.pow_eq]; omega⟩
        refine ⟨.whole numeral.magnitude (.inr fits),
          (number?_eq_whole (by omega)).mpr ⟨integral, unsigned, rfl⟩, ?_⟩
        have short : Decimal.FitsUnsigned 16 numeral.magnitude :=
          ⟨by omega, by simp only [Nat.pow_eq]; omega⟩
        simp only [if_pos short]
        rfl

theorem status_eq_ok {value : UInt16} : node.status = .ok value ↔ IsStatus node value := by
  simp only [Node.status, map_eq_ok, unsigned_eq_ok, IsStatus]
  constructor
  · rintro ⟨number, ⟨numeral, stop, same, integral, unsigned, magnitude, small⟩, rfl⟩
    refine ⟨numeral, stop, same, integral, unsigned, ?_⟩
    rw [magnitude, UInt16.toNat_ofNat', Nat.mod_eq_of_lt small]
  · rintro ⟨numeral, stop, same, integral, unsigned, magnitude⟩
    exact ⟨value.toNat, ⟨numeral, stop, same, integral, unsigned, magnitude, value.toNat_lt⟩,
      UInt16.ofNat_toNat⟩

theorem foldMembers_text {members : List (Except Problem String × Node)}
    {before all : List (String × String)} :
    Node.foldMembers (fun written key value => do
        let value ← value.text
        return (key, value) :: written) before members = .ok all ↔
      ∃ named written, namedMembers? members = some named ∧ AreTexts named written ∧
        all = written.reverse ++ before := by
  rw [foldMembers_eq_ok]
  refine exists_congr fun named => ?_
  rw [exists_and_left, and_congr_right_iff]
  intro same
  clear same
  induction named generalizing before with
  | nil =>
    constructor
    · rintro ⟨⟩
      exact ⟨[], trivial, rfl⟩
    · rintro ⟨written, texts, rfl⟩
      cases written with
      | nil => rfl
      | cons entry written => exact texts.elim
  | cons member named ih =>
    obtain ⟨key, node⟩ := member
    simp only [List.foldlM_cons, bind_eq_ok, text_eq_ok]
    constructor
    · rintro ⟨between, ⟨value, text, taken⟩, folded⟩
      obtain rfl := Except.ok.inj taken
      obtain ⟨written, texts, rfl⟩ := ih.mp folded
      exact ⟨(key, value) :: written, ⟨rfl, text, texts⟩, by simp⟩
    · rintro ⟨written, texts, result⟩
      cases written with
      | nil => exact texts.elim
      | cons entry written =>
        obtain ⟨other, value⟩ := entry
        obtain ⟨rfl, text, texts⟩ := texts
        exact ⟨(key, value) :: before, ⟨value, text, rfl⟩,
          ih.mpr ⟨written, texts, by simpa using result⟩⟩

theorem texts_eq_ok {depth : Nat} (enters : depth ≠ 0) {value : OrderedMap String} :
    Node.mapOf depth Node.text node = .ok value ↔ IsTexts node value := by
  cases node with
  | scalar found stop => simp [Node.mapOf, IsTexts]
  | list start items reason => simp [Node.mapOf, IsTexts]
  | broken reason => simp [Node.mapOf, IsTexts]
  | object start members reason =>
    simp only [Node.mapOf, if_neg enters, bind_eq_ok, foldMembers_text, IsTexts]
    cases reason with
    | some reason => simp [close]
    | none =>
      constructor
      · rintro ⟨_, ⟨named, written, same, texts, rfl⟩, -, -, done⟩
        refine ⟨start, members, named, written, rfl, same, texts, ?_⟩
        rw [← Except.ok.inj done, List.append_nil, List.reverse_reverse]
      · rintro ⟨_, _, named, written, shape, same, texts, rfl⟩
        cases shape
        refine ⟨_, ⟨named, written, same, texts, rfl⟩, (), rfl, ?_⟩
        rw [List.append_nil, List.reverse_reverse]
        rfl

theorem readable_of_mapOf {α : Type} {read : Node → Except Problem α} {depth start : Nat}
    {members : List (Except Problem String × Node)} {broken : Option Break} {map : OrderedMap α}
    (made : Node.mapOf depth read (.object start members broken) = .ok map) :
    ∀ member ∈ members, ∃ value, read member.2 = .ok value := by
  have all : ∀ {before after : List (String × α)},
      Node.foldMembers (fun written key value => do
          let value ← read value
          return (key, value) :: written) before members = .ok after →
        ∀ member ∈ members, ∃ value, read member.2 = .ok value := by
    clear made
    induction members with
    | nil =>
      intro before after folded member none
      cases none
    | cons first members ih =>
      intro before after folded
      obtain ⟨key, -, folded⟩ := bind_eq_ok.mp folded
      obtain ⟨between, visited, folded⟩ := bind_eq_ok.mp folded
      obtain ⟨value, own, -⟩ := bind_eq_ok.mp visited
      exact List.forall_mem_cons.mpr ⟨⟨value, own⟩, ih folded⟩
  rw [Node.mapOf] at made
  split at made
  · cases made
  · obtain ⟨written, folded, -⟩ := bind_eq_ok.mp made
    exact all folded

theorem foldMembers_datum {depth : Nat} {members : List (Except Problem String × Node)}
    {before all : List (String × Datum)} :
    Node.foldMembers (fun written key value => do
        let value ← value.datum depth
        return (key, value) :: written) before members = .ok all ↔
      ∃ written, dataOfMembers depth members = .ok written ∧ all = written.reverse ++ before := by
  induction members generalizing before with
  | nil => simp [Node.foldMembers, dataOfMembers, eq_comm]
  | cons member members ih =>
    obtain ⟨key, node⟩ := member
    simp only [Node.foldMembers, dataOfMembers, bind_eq_ok]
    constructor
    · rintro ⟨key, same, between, ⟨value, read, taken⟩, folded⟩
      obtain rfl := Except.ok.inj taken
      obtain ⟨written, values, rfl⟩ := ih.mp folded
      exact ⟨(key, value) :: written, ⟨key, same, value, read, written, values, rfl⟩, by simp⟩
    · rintro ⟨_, ⟨key, same, value, read, written, values, done⟩, rfl⟩
      obtain rfl := Except.ok.inj done
      exact ⟨key, same, _, ⟨value, read, rfl⟩, ih.mpr ⟨written, values, by simp⟩⟩

theorem data_eq_ok {depth : Nat} (enters : depth ≠ 0) {value : Data} :
    Node.data depth node = .ok value ↔ IsData depth node value := by
  obtain ⟨depth, rfl⟩ := Nat.exists_eq_succ_of_ne_zero enters
  unfold Node.data IsData
  cases node with
  | scalar found stop =>
    cases found <;> simp [Node.mapOf, Node.datum, map_eq_ok]
  | list start items reason => simp [Node.mapOf, Node.datum, bind_eq_ok, pure, Except.pure]
  | broken reason => simp [Node.mapOf, Node.datum, throwBreak]
  | object start members reason =>
    simp only [Node.mapOf, if_neg enters, Node.datum, bind_eq_ok, Nat.succ_sub_one]
    constructor
    · rintro ⟨_, folded, done, closed, result⟩
      obtain ⟨written, values, rfl⟩ := foldMembers_datum.mp folded
      refine ⟨written, values, done, closed, ?_⟩
      rw [← Except.ok.inj result, List.append_nil, List.reverse_reverse]
      rfl
    · rintro ⟨written, values, done, closed, result⟩
      refine ⟨_, foldMembers_datum.mpr ⟨written, values, rfl⟩, done, closed, ?_⟩
      rw [List.append_nil, List.reverse_reverse]
      exact congrArg Except.ok (OrderedMap.ext_entries (Datum.map.inj (Except.ok.inj result)))

/-! ## Values that may be missing -/

section Optional
variable {α : Type} {read : Node → Except Problem α} {wanted : Node → α → Prop}

theorem optional_eq_ok (exact : ∀ node value, read node = .ok value ↔ wanted node value)
    (nonnull : ∀ stop value, ¬ wanted (.scalar .null stop) value) {value : Option α} :
    node.optional read = .ok value ↔
      Carries (fun node value => ∃ written, wanted node written ∧ value = some written)
        none (some node) value := by
  unfold Node.optional
  split
  next stop =>
    constructor
    · rintro ⟨⟩
      exact .null stop
    · rintro (_ | _ | ⟨written, is, -⟩)
      · rfl
      · exact absurd is (nonnull stop written)
  next other =>
    rw [map_eq_ok]
    constructor
    · rintro ⟨written, read, rfl⟩
      exact .written ⟨written, (exact _ _).mp read, rfl⟩
    · rintro (_ | stop | ⟨written, is, rfl⟩)
      · exact (other stop rfl).elim
      · exact ⟨written, (exact _ _).mpr is, rfl⟩

theorem orDefault_eq_ok [Inhabited α]
    (exact : ∀ node value, read node = .ok value ↔ wanted node value)
    (nonnull : ∀ stop value, ¬ wanted (.scalar .null stop) value) {value : α} :
    node.orDefault read = .ok value ↔ Carries wanted default (some node) value := by
  rw [Node.orDefault, map_eq_ok]
  simp only [optional_eq_ok exact nonnull]
  constructor
  · rintro ⟨_, _ | stop | ⟨written, is, rfl⟩, rfl⟩
    · exact .null stop
    · exact .written is
  · rintro (_ | stop | is)
    · exact ⟨none, .null stop, rfl⟩
    · exact ⟨some value, .written ⟨value, is, rfl⟩, rfl⟩

end Optional

theorem isText_null (stop : Nat) (value : String) : ¬ IsText (.scalar .null stop) value := by
  simp [IsText]

theorem isStatus_null (stop : Nat) (value : UInt16) :
    ¬ IsStatus (.scalar .null stop) value := by
  simp [IsStatus]

theorem isTexts_null (stop : Nat) (value : OrderedMap String) :
    ¬ IsTexts (.scalar .null stop) value := by
  simp [IsTexts]

theorem isData_null {depth : Nat} (stop : Nat) (value : Data) :
    ¬ IsData depth (.scalar .null stop) value := by
  simp [IsData, Node.datum]

theorem orText_eq_ok {value : String} :
    node.orDefault Node.text = .ok value ↔ Carries IsText "" (some node) value :=
  orDefault_eq_ok (fun _ _ => text_eq_ok) isText_null

theorem orStatus_eq_ok {value : UInt16} :
    node.orDefault Node.status = .ok value ↔ Carries IsStatus 0 (some node) value :=
  orDefault_eq_ok (fun _ _ => status_eq_ok) isStatus_null

theorem orTexts_eq_ok {depth : Nat} (enters : depth ≠ 0) {value : OrderedMap String} :
    node.orDefault (Node.mapOf depth Node.text) = .ok value ↔
      Carries IsTexts .empty (some node) value :=
  orDefault_eq_ok (fun _ _ => texts_eq_ok enters) isTexts_null

theorem orData_eq_ok {depth : Nat} (enters : depth ≠ 0) {value : Data} :
    node.orDefault (Node.data depth) = .ok value ↔
      Carries (IsData depth) .empty (some node) value :=
  orDefault_eq_ok (fun _ _ => data_eq_ok enters) isData_null

theorem Carries.map {α β : Type} {wanted : Node → α → Prop} {other : Node → β → Prop}
    {default value : α} {entry : Option Node} (change : α → β)
    (carries : Carries wanted default entry value)
    (step : ∀ node value, wanted node value → other node (change value)) :
    Carries other (change default) entry (change value) := by
  cases carries with
  | missing => exact .missing
  | null stop => exact .null stop
  | written is => exact .written (step _ _ is)

theorem Carries.mono {α : Type} {wanted other : Node → α → Prop} {default value : α}
    {entry : Option Node} (carries : Carries wanted default entry value)
    (step : ∀ node, entry = some node → wanted node value → other node value) :
    Carries other default entry value := by
  cases carries with
  | missing => exact .missing
  | null stop => exact .null stop
  | written is => exact .written (step _ rfl is)

def IsSomeText (node : Node) (value : Option String) : Prop :=
  ∃ text, IsText node text ∧ value = some text

theorem isSomeText_null (stop : Nat) (value : Option String) :
    ¬ IsSomeText (.scalar .null stop) value := by
  simp [IsSomeText, isText_null]

theorem someText_eq_ok {value : Option String} :
    node.optional Node.text = .ok value ↔ Carries IsSomeText none (some node) value :=
  optional_eq_ok (fun _ _ => text_eq_ok) isText_null

end Readers

theorem IsText.unique {node : Node} {first second : String} (one : IsText node first)
    (other : IsText node second) : first = second :=
  Except.ok.inj ((text_eq_ok.mpr one).symm.trans (text_eq_ok.mpr other))

theorem IsStatus.unique {node : Node} {first second : UInt16} (one : IsStatus node first)
    (other : IsStatus node second) : first = second :=
  Except.ok.inj ((status_eq_ok.mpr one).symm.trans (status_eq_ok.mpr other))

theorem IsTexts.unique {node : Node} {first second : OrderedMap String}
    (one : IsTexts node first) (other : IsTexts node second) : first = second :=
  Except.ok.inj ((texts_eq_ok Nat.one_ne_zero |>.mpr one).symm.trans
    (texts_eq_ok Nat.one_ne_zero |>.mpr other))

theorem IsData.unique {depth : Nat} {node : Node} {first second : Data}
    (one : IsData depth node first) (other : IsData depth node second) : first = second :=
  OrderedMap.ext_entries (Datum.map.inj (Except.ok.inj (one.symm.trans other)))

theorem IsSomeText.unique {node : Node} {first second : Option String}
    (one : IsSomeText node first) (other : IsSomeText node second) : first = second := by
  obtain ⟨text, is, rfl⟩ := one
  obtain ⟨same, other, rfl⟩ := other
  rw [is.unique other]

theorem Carries.of_none {α : Type} {wanted : Node → α → Prop} {default value : α}
    (carries : Carries wanted default none value) : value = default := by
  cases carries
  rfl

theorem Carries.default_or {α : Type} {wanted : Node → α → Prop} {default value : α}
    {entry : Option Node} (carries : Carries wanted default entry value) :
    value = default ∨ ∃ node, entry = some node ∧ wanted node value := by
  cases carries with
  | missing => exact .inl rfl
  | null stop => exact .inl rfl
  | written is => exact .inr ⟨_, rfl, is⟩

theorem Carries.unique {α : Type} {wanted : Node → α → Prop} {default first second : α}
    {entry : Option Node} (one : Carries wanted default entry first)
    (other : Carries wanted default entry second)
    (nonnull : ∀ stop value, ¬ wanted (.scalar .null stop) value)
    (unique : ∀ node first second, wanted node first → wanted node second → first = second) :
    first = second := by
  cases one with
  | missing => cases other; rfl
  | null stop =>
    cases other with
    | null => rfl
    | written is => exact absurd is (nonnull stop _)
  | written is =>
    cases other with
    | null stop => exact absurd is (nonnull stop _)
    | written also => exact unique _ _ _ is also

namespace RecordReader

variable {σ α : Type} {reader : RecordReader σ} {name : String}
  {wanted : Node → α → Prop} {default : α} {members : List (String × Node)}
  {state next : σ × List String}

theorem carries_of_take {read : σ → Node → Except Problem σ}
    (known : List.lookup name reader.fields = some read) (get : σ → α)
    (own : ∀ value node next, read value node = .ok next →
      Carries wanted default (some node) (get next))
    (others : ∀ other read, List.lookup other reader.fields = some read → other ≠ name →
      ∀ value node next, read value node = .ok next → get next = get value)
    (start : get state.1 = default) (taken : reader.take state members = .ok next) :
    Carries wanted default (List.lookup name members) (get next.1) := by
  rcases field_of_take known get others taken with
    ⟨missing, kept⟩ | ⟨node, value, after, found, same, kept⟩
  · rw [missing, kept, start]
    exact .missing
  · rw [found, kept]
    exact own value node after same

theorem carries_of_put {reads : Node → Except Problem α}
    {put : σ → α → σ}
    (known : List.lookup name reader.fields =
      some fun value node => reads node >>= fun content => pure (put value content))
    (exact : ∀ {node content}, reads node = .ok content ↔ Carries wanted default (some node) content)
    (get : σ → α) (own : ∀ value content, get (put value content) = content)
    (others : ∀ other read, List.lookup other reader.fields = some read → other ≠ name →
      ∀ value node next, read value node = .ok next → get next = get value)
    (start : get state.1 = default) (taken : reader.take state members = .ok next) :
    Carries wanted default (List.lookup name members) (get next.1) := by
  refine carries_of_take known get ?_ others start taken
  intro value node after same
  obtain ⟨content, read, done⟩ := bind_eq_ok.mp same
  rw [← Except.ok.inj done, own]
  exact exact.mp read

end RecordReader

end FaultMesh.Json
