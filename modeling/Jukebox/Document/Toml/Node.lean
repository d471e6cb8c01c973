import Jukebox.Document.Basic

/-!
# TOML tables

Statements of a TOML document build its tables one after the other, and each table remembers how
it came to be. A table is implicit when only a longer path named it, and dotted when that path was
the key of an entry. These marks decide which later statements may still add to it:

* an entry's key passes through implicit tables only, and through a list of tables into its last;
* a header may take up an implicit table that is not dotted, which then moves behind its siblings;
* everything else that is named twice is an error, and so is any path through a plain value.
-/

namespace Jukebox.Toml

/-- What stands under a key while a document is being read. -/
inductive Node
  /-- A plain value; nothing can be added to it. -/
  | value (d : Document)
  /-- A table. -/
  | table (implicit dotted : Bool) (entries : List (String × Node))
  /-- A list of tables, made by headers in double brackets. -/
  | tables (rows : List (List (String × Node)))

/-- The entries of a table that is being read. -/
abbrev Nodes := List (String × Node)

namespace Nodes

/-- The node under a key. -/
def get? (nodes : Nodes) (key : String) : Option Node :=
  (nodes.find? fun entry => entry.1 == key).map Prod.snd

/-- The node goes under the key, in place of one that is there or behind the others. -/
def put (key : String) (node : Node) : Nodes → Nodes
  | [] => [(key, node)]
  | entry :: rest => if entry.1 == key then (key, node) :: rest else entry :: put key node rest

/-- The entries without the one under the key. -/
def remove (key : String) (nodes : Nodes) : Nodes :=
  nodes.filter fun entry => entry.1 != key

/-- Acts on the table at the end of a path and puts the outcome in its place. Tables missing on the
way are made, as dotted ones if `dotted` says that the path belongs to an entry's key. The action
is told whether its table is dotted. -/
def atPath {α : Type} (dotted : Bool) (act : Bool → Nodes → Option (α × Nodes)) :
    List String → Bool → Nodes → Option (α × Nodes)
  | [], here, nodes => act here nodes
  | key :: path, _, nodes =>
    match get? nodes key with
    | none =>
      (atPath dotted act path dotted []).map fun (a, inner) =>
        (a, nodes ++ [(key, .table true dotted inner)])
    | some (.value _) => none
    | some (.table implicit isDotted inner) =>
      if dotted ∧ !implicit then none
      else
        (atPath dotted act path isDotted inner).map fun (a, inner) =>
          (a, put key (.table implicit isDotted inner) nodes)
    | some (.tables rows) =>
      match rows.getLast? with
      | none => none
      | some row =>
        (atPath dotted act path false row).map fun (a, row) =>
          (a, put key (.tables (rows.dropLast ++ [row])) nodes)

/-- Adds the entry of a key with dots. The table that takes it has to be of the key's own making:
dotted if the key has dots, and not if it has none. -/
def addEntry? (path : List String) (key : String) (node : Node) (nodes : Nodes) : Option Nodes :=
  let act (isDotted : Bool) (inner : Nodes) : Option (Unit × Nodes) :=
    if isDotted = path.isEmpty then none
    else if (get? inner key).isSome then none
    else some ((), inner ++ [(key, node)])
  (atPath true act path false nodes).map Prod.snd

end Nodes

mutual

/-- The document value of a node. -/
def Node.toDocument : Node → Document
  | .value d => d
  | .table _ _ entries => .table (entriesToDocument entries)
  | .tables rows => .list (rowsToDocument rows)

/-- The document values of a table's entries. -/
def entriesToDocument : List (String × Node) → List (String × Document)
  | [] => []
  | (key, node) :: rest => (key, node.toDocument) :: entriesToDocument rest

/-- The document values of a list of tables. -/
def rowsToDocument : List (List (String × Node)) → List Document
  | [] => []
  | row :: rest => .table (entriesToDocument row) :: rowsToDocument rest

end

/-- The tables read so far, and the one whose entries are being read. -/
structure Assembly where
  root : Nodes := []
  /-- The entries of the table being read. -/
  current : Nodes := []
  /-- Where that table goes: the path of its parent and its key; `none` for the document itself. -/
  place : Option (List String × String) := none
  /-- The table is the next one of a list. -/
  isRow : Bool := false

namespace Assembly

/-- Puts the table being read in its place. -/
def close? (a : Assembly) : Option Nodes :=
  match a.place with
  | none => some a.current
  | some (path, key) =>
    let act (_ : Bool) (nodes : Nodes) : Option (Unit × Nodes) :=
      match a.isRow, Nodes.get? nodes key with
      | true, none => some ((), nodes ++ [(key, .tables [a.current])])
      | true, some (.tables rows) => some ((), nodes.put key (.tables (rows ++ [a.current])))
      | true, _ => none
      | false, none => some ((), nodes ++ [(key, .table false false a.current)])
      | false, some _ => none
    (Nodes.atPath false act path false a.root).map Prod.snd

/-- An entry of the table being read. -/
def entry? (a : Assembly) (path : List String) (key : String) (value : Document) :
    Option Assembly :=
  (a.current.addEntry? path key (.value value)).map fun current => { a with current }

/-- A header in single brackets: a table begins, or an implicit one is taken up. -/
def header? (a : Assembly) (path : List String) (key : String) : Option Assembly := do
  let root ← a.close?
  let act (_ : Bool) (nodes : Nodes) : Option (Nodes × Nodes) :=
    match Nodes.get? nodes key with
    | none => some ([], nodes)
    | some (.table true false entries) => some (entries, nodes.remove key)
    | some _ => none
  let (current, root) ← Nodes.atPath false act path false root
  return { root, current, place := some (path, key), isRow := false }

/-- A header in double brackets: the next table of a list begins. -/
def rowHeader? (a : Assembly) (path : List String) (key : String) : Option Assembly := do
  let root ← a.close?
  let act (_ : Bool) (nodes : Nodes) : Option (Unit × Nodes) :=
    match Nodes.get? nodes key with
    | none => some ((), nodes ++ [(key, .tables [])])
    | some (.tables _) => some ((), nodes)
    | some _ => none
  let ((), root) ← Nodes.atPath false act path false root
  return { root, current := [], place := some (path, key), isRow := true }

/-- The finished document. -/
def finish? (a : Assembly) : Option Document :=
  a.close?.map fun nodes => .table (entriesToDocument nodes)

end Assembly

end Jukebox.Toml
