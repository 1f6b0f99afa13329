import CellRunner.Toml.Value

/-!
Tables under construction. A table may be opened by its header once; tables that a header only
passes through may still get one, and tables made by dotted keys grow by dotted keys alone.
-/

namespace CellRunner.Toml

inductive Origin where
  /-- By a header of its own. -/
  | header
  /-- On the way to a table with a header. -/
  | implied
  /-- By a dotted key. -/
  | dotted
deriving DecidableEq, Repr

inductive Node where
  | value (v : Value)
  | table (origin : Origin) (entries : List (String × Node))
  /-- An array of tables, of which the last one is still open. -/
  | tables (earlier : List Value) (last : List (String × Node))

abbrev Entries := List (String × Node)

namespace Entries

def nodeAt (entries : Entries) (key : String) : Option Node :=
  (entries.find? (·.1 == key)).map (·.2)

/-- Replaces the entry of a key, or adds one. -/
def put (entries : Entries) (key : String) (node : Node) : Entries :=
  if entries.any (·.1 == key) then
    entries.map (fun entry => if entry.1 == key then (key, node) else entry)
  else entries ++ [(key, node)]

mutual
def toValues : Entries → List (String × Value)
  | [] => []
  | (key, node) :: rest => (key, nodeValue node) :: toValues rest

def nodeValue : Node → Value
  | .value v => v
  | .table _ entries => .table (toValues entries)
  | .tables earlier last => .array (earlier ++ [.table (toValues last)])
end

/-- Gives a key path its value. All keys but the last name tables that are made by dotted keys
or not there yet. -/
def assign (v : Value) : List String → Entries → Option Entries
  | [], _ => none
  | [key], entries =>
      if (nodeAt entries key).isSome then none else some (put entries key (.value v))
  | key :: rest, entries =>
      -- The table that holds the last key has to come from a dotted key itself.
      let farther := 1 < rest.length
      match nodeAt entries key with
      | none => (assign v rest []).map (fun inner => put entries key (.table .dotted inner))
      | some (.table .dotted inner) =>
          (assign v rest inner).map (fun inner => put entries key (.table .dotted inner))
      | some (.table .implied inner) =>
          if farther then
            (assign v rest inner).map (fun inner => put entries key (.table .implied inner))
          else none
      | some (.tables earlier last) =>
          if farther then
            (assign v rest last).map (fun last => put entries key (.tables earlier last))
          else none
      | _ => none

/-- Changes the table at a path. The last table of an array stands for the array, and tables
that are missing on the way are implied. -/
def modifyAt (change : Entries → Option Entries) : List String → Entries → Option Entries
  | [], entries => change entries
  | key :: rest, entries =>
      match nodeAt entries key with
      | none => (modifyAt change rest []).map (fun inner => put entries key (.table .implied inner))
      | some (.table origin inner) =>
          (modifyAt change rest inner).map (fun inner => put entries key (.table origin inner))
      | some (.tables earlier last) =>
          (modifyAt change rest last).map (fun last => put entries key (.tables earlier last))
      | some (.value _) => none

def openTable (key : String) (entries : Entries) : Option Entries :=
  match nodeAt entries key with
  | none => some (put entries key (.table .header []))
  | some (.table .implied inner) => some (put entries key (.table .header inner))
  | _ => none

def openElement (key : String) (entries : Entries) : Option Entries :=
  match nodeAt entries key with
  | none => some (put entries key (.tables [] []))
  | some (.tables earlier last) =>
      some (put entries key (.tables (earlier ++ [.table (toValues last)]) []))
  | _ => none

end Entries

end CellRunner.Toml
