import FaultMesh.OrderedMap
import FaultMesh.Toml.Value

/-!
# Tables in the making

A document builds its tables piece by piece.  A table is implied by the header of a table
within it, made by a dotted key, or defined by a header of its own, and how it came about
decides how it may grow: a header defines a table once, and a dotted key goes only through
tables that no header has defined.
-/

set_option autoImplicit false

namespace FaultMesh.Toml

inductive Standing where
  | implied
  | dotted
  | defined
  deriving DecidableEq, Repr

/-- What stands under a key: a value, a table, or the tables of one repeated header, of
which the latest one grows. -/
inductive Tree where
  | value (value : Value)
  | table (standing : Standing) (entries : List (String × Tree))
  | tables (latest : List (String × Tree)) (earlier : List (List (String × Tree)))

namespace Tree

/-- Changes the table at the end of a path; the change is told whether dotted keys may
write there.  Missing tables on the way are made with the given standing. -/
def within (standing : Standing) (change : Bool → List (String × Tree) → Option (List (String × Tree))) :
    Bool → List String → List (String × Tree) → Option (List (String × Tree))
  | dotted, [], entries => change dotted entries
  | _, key :: path, entries =>
    match List.lookup key entries with
    | none => do
      let child ← within standing change (standing = .dotted) path []
      return Entries.insert key (.table standing child) entries
    | some (.table found child) =>
      if standing = .dotted ∧ found = .defined then none
      else do
        let child ← within standing change (found = .dotted) path child
        return Entries.insert key (.table found child) entries
    | some (.tables latest earlier) => do
      let latest ← within standing change false path latest
      return Entries.insert key (.tables latest earlier) entries
    | some (.value _) => none

/-- Defines a table by its header.  One that was implied is taken to its new place. -/
def openTable (path : List String) (key : String) (root : List (String × Tree)) :
    Option (List (String × Tree)) :=
  within .implied (fun _ entries =>
    match List.lookup key entries with
    | none => some (entries ++ [(key, .table .defined [])])
    | some (.table .implied child) =>
      some (entries.filter (fun entry => entry.1 ≠ key) ++ [(key, .table .defined child)])
    | some _ => none) true path root

def openElement (path : List String) (key : String) (root : List (String × Tree)) :
    Option (List (String × Tree)) :=
  within .implied (fun _ entries =>
    match List.lookup key entries with
    | none => some (entries ++ [(key, .tables [] [])])
    | some (.tables latest earlier) =>
      some (Entries.insert key (.tables [] (latest :: earlier)) entries)
    | some _ => none) true path root

def write (path : List String) (key : String) (value : Value) (entries : List (String × Tree)) :
    Option (List (String × Tree)) :=
  within .dotted (fun dotted entries =>
    if dotted then
      match List.lookup key entries with
      | none => some (entries ++ [(key, .value value)])
      | some _ => none
    else none) true path entries

def writeBelow (header path : List String) (key : String) (value : Value)
    (root : List (String × Tree)) : Option (List (String × Tree)) :=
  within .implied (fun _ entries => write path key value entries) true header root

mutual

def toValue : Tree → Value
  | .value written => written
  | .table _ entries => .table (toEntries entries)
  | .tables latest earlier => .list (toTables earlier [.table (toEntries latest)])

def toEntries : List (String × Tree) → List (String × Value)
  | [] => []
  | (key, tree) :: entries => (key, toValue tree) :: toEntries entries

/-- Tables given from the latest to the earliest, before those that come after them. -/
def toTables : List (List (String × Tree)) → List Value → List Value
  | [], after => after
  | entries :: earlier, after => toTables earlier (.table (toEntries entries) :: after)

end

end Tree

end FaultMesh.Toml
