/-
**The tree of a TOML document while it is read.**

Tables come into being in three ways: by a header, on the way to another table, and on the way of a
dotted key. Each table may be made by a header once; a dotted key may only add to tables that dotted
keys made, and pass through those made on the way.

* `Tree.assign` writes one key, `Tree.openTable` and `Tree.openItem` follow a header.
-/

import AspectWeaver.Named
import AspectWeaver.Toml

namespace AspectWeaver.Toml

/-- How a table came into being. -/
inductive Origin where
  /-- By a header of its own, or between braces. -/
  | header
  /-- On the way to a table with a header. -/
  | implied
  /-- On the way of a dotted key. -/
  | dotted
  deriving DecidableEq

/-- A node of the tree. -/
inductive Tree where
  | leaf (value : Toml)
  | table (origin : Origin) (entries : List (String × Tree))
  /-- An array of tables; the last of them is the one that is written to. -/
  | tables (earlier : List (List (String × Tree))) (last : List (String × Tree))

namespace Tree

/-- The keys of a table with what is under them. -/
abbrev Entries := List (String × Tree)

/-- What is under a key. -/
def find? (key : String) (entries : Entries) : Option Tree :=
  (Named.find? Prod.fst key entries).map Prod.snd

/-- Puts a node under a key. -/
def put (key : String) (node : Tree) (entries : Entries) : Entries :=
  Named.put Prod.fst (key, node) entries

/-- Goes down a path from a table and changes the entries at its end. `made` is the origin of tables
that are made on the way. The change is told the origin of the table at the end. -/
def descend (made : Origin) (change : Origin → Entries → Option Entries) :
    List String → Origin → Entries → Option Entries
  | [], origin, entries => change origin entries
  | key :: path, _, entries =>
      match find? key entries with
      | none => do
          let below ← descend made change path made []
          pure (put key (.table made below) entries)
      | some (.leaf _) => none
      | some (.tables earlier last) => do
          let below ← descend made change path .header last
          pure (put key (.tables earlier below) entries)
      | some (.table origin inner) =>
          if made = .dotted ∧ origin = .header then none
          else do
            let below ← descend made change path origin inner
            pure (put key (.table origin below) entries)

/-- Writes a value under a dotted key of a table. -/
def assign (path : List String) (key : String) (value : Toml) : Entries → Option Entries :=
  descend .dotted (fun origin entries =>
    if !path.isEmpty ∧ origin ≠ .dotted then none
    else match find? key entries with
      | some _ => none
      | none => some (put key (.leaf value) entries)) path .header

/-- Opens the table of a header. -/
def openTable (path : List String) (key : String) : Entries → Option Entries :=
  descend .implied (fun _ entries =>
    match find? key entries with
    | none => some (put key (.table .header []) entries)
    | some (.table .implied inner) => some (put key (.table .header inner) entries)
    | some _ => none) path .header

/-- Opens a new item in the array of tables of a header. -/
def openItem (path : List String) (key : String) : Entries → Option Entries :=
  descend .implied (fun _ entries =>
    match find? key entries with
    | none => some (put key (.tables [] []) entries)
    | some (.tables earlier last) => some (put key (.tables (earlier ++ [last]) []) entries)
    | some _ => none) path .header

/-- Writes a value under a dotted key of the table that a header opened. -/
def assignUnder (header path : List String) (key : String) (value : Toml) :
    Entries → Option Entries :=
  descend .implied (fun _ entries => assign path key value entries) header .header

mutual

/-- The value of a node. -/
def toToml : Tree → Toml
  | .leaf value => value
  | .table _ entries => .table (entriesToToml entries)
  | .tables earlier last =>
      .array (itemsToToml earlier ++ [.table (entriesToToml last)])

/-- The values of the entries of a table. -/
def entriesToToml : List (String × Tree) → List (String × Toml)
  | [] => []
  | (key, node) :: rest => (key, toToml node) :: entriesToToml rest

/-- The values of the tables of an array. -/
def itemsToToml : List (List (String × Tree)) → List Toml
  | [] => []
  | entries :: rest => .table (entriesToToml entries) :: itemsToToml rest

end

end Tree

end AspectWeaver.Toml
