/-
What a TOML document builds up: tables inside tables, arrays of tables, and
finished values. A document may come back to a table, but not in every way.
A table that a header names is declared, and no header and no dotted key
may open it again; one that only lay on the way to a header is implied and
may still be declared; one that a dotted key made can grow through dotted
keys until the next header comes, and is closed afterwards. Inline tables
and arrays are finished values that nothing can add to.
-/
import Marginalia.Toml.Value

namespace Marginalia.Toml

-- =============================================================== nodes

/-- How a table came about; a dotted one remembers the section, counted by
headers, in which it last grew. -/
inductive Status where
  | implied
  | declared
  | dotted (section_ : Nat)
  deriving DecidableEq, Repr

/-- A finished value, a table, or an array of tables, the last one
first. -/
inductive Node where
  | value (v : Value)
  | table (status : Status) (entries : List (Text × Node))
  | tables (last : List (Text × Node)) (earlier : List (List (Text × Node)))

/-- May a table be opened again by a dotted key in a section? -/
def Status.growsIn (current : Nat) : Status → Bool
  | .implied => true
  | .declared => false
  | .dotted section_ => section_ == current

/-- The entries of a table. -/
abbrev Entries := List (Text × Node)

-- =============================================================== edits

/-- Changes a table on the way of a header: a missing one is implied, and
an array of tables stands for its last one. `edit` changes the entries at
the end of the way. -/
def alongHeader (edit : Entries → Option Entries) :
    List Text → Entries → Option Entries
  | [], entries => edit entries
  | key :: rest, entries =>
    match Assoc.get? entries key with
    | none =>
      (alongHeader edit rest []).map fun inner =>
        Assoc.put entries key (.table .implied inner)
    | some (.table status inner) =>
      (alongHeader edit rest inner).map fun inner =>
        Assoc.put entries key (.table status inner)
    | some (.tables last earlier) =>
      (alongHeader edit rest last).map fun last =>
        Assoc.put entries key (.tables last earlier)
    | some (.value _) => none

/-- Declares a table under its last key. -/
def declare (key : Text) (entries : Entries) : Option Entries :=
  match Assoc.get? entries key with
  | none => some (Assoc.put entries key (.table .declared []))
  | some (.table .implied inner) =>
    some (Assoc.put entries key (.table .declared inner))
  | some _ => none

/-- Adds a table to the array of tables under its last key. -/
def addTable (key : Text) (entries : Entries) : Option Entries :=
  match Assoc.get? entries key with
  | none => some (Assoc.put entries key (.tables [] []))
  | some (.tables last earlier) =>
    some (Assoc.put entries key (.tables [] (last :: earlier)))
  | some _ => none

/-- Sets a dotted key: the tables on the way are made or have to grow in
this section, and the last key is new. -/
def setDotted (current : Nat) (v : Value) :
    List Text → Entries → Option Entries
  | [], _ => none
  | [key], entries =>
    match Assoc.get? entries key with
    | none => some (Assoc.put entries key (.value v))
    | some _ => none
  | key :: rest, entries =>
    match Assoc.get? entries key with
    | none =>
      (setDotted current v rest []).map fun inner =>
        Assoc.put entries key (.table (.dotted current) inner)
    | some (.table status inner) =>
      if status.growsIn current then
        (setDotted current v rest inner).map fun inner =>
          Assoc.put entries key (.table (.dotted current) inner)
      else none
    | some _ => none

-- ============================================================== values

mutual

/-- The value of a node. -/
def Node.toValue : Node → Value
  | .value v => v
  | .table _ entries => .table (entriesToValues entries)
  | .tables last earlier =>
    .array (tablesToValues earlier [.table (entriesToValues last)])

/-- The entries of a table with their values. -/
def entriesToValues : List (Text × Node) → List (Text × Value)
  | [] => []
  | (key, node) :: rest => (key, node.toValue) :: entriesToValues rest

/-- The tables of an array, the last one first, before what `after`
holds. -/
def tablesToValues : List (List (Text × Node)) → List Value → List Value
  | [], after => after
  | entries :: rest, after =>
    tablesToValues rest (.table (entriesToValues entries) :: after)

end

end Marginalia.Toml
