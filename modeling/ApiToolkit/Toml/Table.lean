import ApiToolkit.Json.Basic
/-!
# TOML tables under construction

A TOML text fills a tree of tables piece by piece.  The tree remembers how each table came about,
because that decides what may still be added to it.

## What is inside

- `Toml.Table`, `Toml.Item`: the tree.
- `Toml.Table.within?`: changes a table below, and makes the tables on the way to it.
- `Toml.Table.open?`, `Toml.Table.openElement?`: what a header does.
- `Toml.Table.insert?`: what a key with a value does.
- `Toml.Table.toEntries`: the finished tree as values.
-/

namespace ApiToolkit.Toml

mutual

/-- What a key of a table stands for. -/
inductive Item where
  /-- A value. -/
  | value (value : Json)
  /-- A table. -/
  | table (table : Table)
  /-- The elements of an array of tables. -/
  | elements (tables : List Table)

/-- A table. -/
inductive Table where
  /-- `isImplied` marks a table that was only named on the way to another one, and `isDotted` one
  that a dotted key made. -/
  | mk (isImplied isDotted : Bool) (items : List (String × Item))

end

namespace Table

/-- Whether the table was only named on the way to another one. -/
def isImplied : Table → Bool
  | mk isImplied _ _ => isImplied

/-- Whether a dotted key made the table. -/
def isDotted : Table → Bool
  | mk _ isDotted _ => isDotted

/-- The items in order. -/
def items : Table → Entries Item
  | mk _ _ items => items

/-- The table with other items. -/
def withItems (table : Table) (items : Entries Item) : Table :=
  mk table.isImplied table.isDotted items

/-- A table that was written by itself. -/
def stated (items : Entries Item) : Table := mk false false items

/-! ## Building -/

/-- Changes the table that a path leads to.  Missing tables are made, and of an array of tables
the last element is taken.  `byDots` says whether the path is part of a dotted key, which may not
lead into tables that were written by themselves. -/
def within? (byDots : Bool) (change : Table → Option Table) (path : List String) (table : Table) :
    Option Table :=
  match path with
  | [] => change table
  | key :: rest =>
    let replace (item : Item) : Table := table.withItems (table.items.put key item)
    match table.items.find? key with
    | none => (within? byDots change rest (mk true byDots [])).map fun t => replace (.table t)
    | some (.value _) => none
    | some (.elements tables) =>
      match tables.getLast? with
      | none => none
      | some last =>
        (within? byDots change rest last).map fun t => replace (.elements (tables.dropLast ++ [t]))
    | some (.table inner) =>
      -- A table that has a header of its own is closed to dotted keys.
      if byDots && !inner.isImplied then none
      else (within? byDots change rest inner).map fun t => replace (.table t)

/-- Writes a value under a new key.  A table that a dotted key leads to has to be made by dotted
keys. -/
def add? (byDots : Bool) (key : String) (value : Json) (table : Table) : Option Table :=
  if table.isDotted != byDots then none
  else if table.items.has key then none
  else some (table.withItems (table.items.put key (.value value)))

/-- Writes a value under a dotted key: a path and a last key. -/
def insert? (path : List String) (key : String) (value : Json) (table : Table) : Option Table :=
  within? true (add? (!path.isEmpty) key value) path table

/-- Takes an item out. -/
def without (table : Table) (key : String) : Table :=
  table.withItems (table.items.filter fun item => item.1 != key)

/-- States a table.  A table that was only implied so far is moved to the end. -/
def state? (key : String) (table : Table) : Option Table :=
  let append (items : Entries Item) : Table :=
    let rest := table.without key
    rest.withItems (rest.items ++ [(key, .table (stated items))])
  match table.items.find? key with
  | none => some (append [])
  | some (.table inner) =>
    -- A second header, and a header for a table of dotted keys, are refused.
    if inner.isImplied && !inner.isDotted then some (append inner.items) else none
  | some _ => none

/-- Adds an element to an array of tables. -/
def addElement? (key : String) (table : Table) : Option Table :=
  let replace (tables : List Table) : Table :=
    table.withItems (table.items.put key (.elements (tables ++ [stated []])))
  match table.items.find? key with
  | none => some (replace [])
  | some (.elements tables) => some (replace tables)
  | some _ => none

/-- The header of a table: a path and a last key. -/
def open? (path : List String) (key : String) (table : Table) : Option Table :=
  within? false (state? key) path table

/-- The header of an element of an array of tables: a path and a last key. -/
def openElement? (path : List String) (key : String) (table : Table) : Option Table :=
  within? false (addElement? key) path table

end Table

/-! ## Values -/

mutual

/-- The value of an item. -/
def Item.toJson : Item → Json
  | .value value => value
  | .table table => table.toJson
  | .elements tables => .arr (elementValues tables)

/-- The value of a table. -/
def Table.toJson : Table → Json
  | .mk _ _ items => .obj (itemValues items)

/-- The values of elements. -/
def elementValues : List Table → List Json
  | [] => []
  | table :: rest => table.toJson :: elementValues rest

/-- The values of items. -/
def itemValues : List (String × Item) → List (String × Json)
  | [] => []
  | (key, item) :: rest => (key, item.toJson) :: itemValues rest

end

end ApiToolkit.Toml
