import ApiToolkit.Json.Basic
import ApiToolkit.Yaml.Node
import ApiToolkit.Yaml.ScalarType
/-!
# YAML documents as values

Aliases are replaced by the nodes that they refer to, and scalars are given their types.

## What is inside

- `Yaml.Bound`, `Yaml.Document`: nodes whose aliases are known.
- `Yaml.Document.ofNode?`: binds the aliases of a document.
- `Yaml.Document.toJson?`: the value of a document.
- `Yaml.parse?`: the value of a text.
-/

namespace ApiToolkit.Yaml

/-- A node with the numbers of anchors in place of their names. -/
inductive Bound where
  | scalar (place : Option Nat) (tag : Option String) (text : String) (isPlain : Bool)
  | sequence (place : Option Nat) (tag : Option String) (items : List Bound)
  | mapping (place : Option Nat) (tag : Option String) (entries : List (Bound × Bound))
  | alias (place : Nat)
deriving Inhabited

/-! ## Binding -/

/-- Gives an anchor its number: how many names there were before it. -/
def bindAnchor (names : Entries Nat) (anchor : Option String) : Option Nat × Entries Nat :=
  match anchor with
  | none => (none, names)
  | some name => (some names.length, names.put name names.length)

mutual

/-- Binds the aliases of a node.  A name has to be given before it is used. -/
def bindNode? (names : Entries Nat) : Node → Option (Bound × Entries Nat)
  | .alias name => (names.find? name).map fun place => (.alias place, names)
  | .scalar marks text isPlain =>
    let (place, names) := bindAnchor names marks.anchor
    some (.scalar place marks.tag text isPlain, names)
  | .sequence marks items =>
    let (place, names) := bindAnchor names marks.anchor
    (bindItems? names items).map fun (items, names) => (.sequence place marks.tag items, names)
  | .mapping marks entries =>
    let (place, names) := bindAnchor names marks.anchor
    (bindEntries? names entries).map fun (entries, names) =>
      (.mapping place marks.tag entries, names)

/-- Binds the aliases of elements. -/
def bindItems? (names : Entries Nat) : List Node → Option (List Bound × Entries Nat)
  | [] => some ([], names)
  | item :: rest => do
    let (item, names) ← bindNode? names item
    let (items, names) ← bindItems? names rest
    some (item :: items, names)

/-- Binds the aliases of entries. -/
def bindEntries? (names : Entries Nat) :
    List (Node × Node) → Option (List (Bound × Bound) × Entries Nat)
  | [] => some ([], names)
  | (key, value) :: rest => do
    let (key, names) ← bindNode? names key
    let (value, names) ← bindNode? names value
    let (entries, names) ← bindEntries? names rest
    some ((key, value) :: entries, names)

end

mutual

/-- The numbered nodes of a node, in the order of the text. -/
def Bound.places : Bound → List (Nat × Bound)
  | .alias _ => []
  | .scalar place tag text isPlain =>
    (place.map fun n => (n, Bound.scalar place tag text isPlain)).toList
  | .sequence place tag items =>
    (place.map fun n => (n, Bound.sequence place tag items)).toList ++ placesOfItems items
  | .mapping place tag entries =>
    (place.map fun n => (n, Bound.mapping place tag entries)).toList ++ placesOfEntries entries

/-- The numbered nodes of elements. -/
def placesOfItems : List Bound → List (Nat × Bound)
  | [] => []
  | item :: rest => item.places ++ placesOfItems rest

/-- The numbered nodes of entries. -/
def placesOfEntries : List (Bound × Bound) → List (Nat × Bound)
  | [] => []
  | (key, value) :: rest => key.places ++ value.places ++ placesOfEntries rest

end

mutual

/-- How many steps it takes to go through a node without following aliases. -/
def Bound.size : Bound → Nat
  | .alias _ => 1
  | .scalar .. => 1
  | .sequence _ _ items => sizeOfItems items + 2
  | .mapping _ _ entries => sizeOfEntries entries + 2

/-- The steps for elements. -/
def sizeOfItems : List Bound → Nat
  | [] => 0
  | item :: rest => item.size + sizeOfItems rest

/-- The steps for entries. -/
def sizeOfEntries : List (Bound × Bound) → Nat
  | [] => 0
  | (key, value) :: rest => key.size + value.size + sizeOfEntries rest

end

/-- A document: its root, if it has one, and its numbered nodes.  Of several nodes with one number
the last one counts. -/
structure Document where
  /-- The root. -/
  root : Option Bound
  /-- The numbered nodes, the last one first. -/
  places : List (Nat × Bound)

namespace Document

/-- Binds the aliases of a document. -/
def ofNode? (root : Option Node) : Option Document :=
  match root with
  | none => some ⟨none, []⟩
  | some node => (bindNode? [] node).map fun (root, _) => ⟨some root, root.places.reverse⟩

/-- The node that an alias refers to; any other node is kept. -/
def target (d : Document) : Bound → Bound
  | .alias place => (d.places.lookup place).getD (.alias place)
  | other => other

/-- How many aliases may be followed. -/
def aliasLimit (d : Document) : Nat := 100 * ((d.root.map Bound.size).getD 1)

/-! ## Values -/

/-- How deep collections may be nested. -/
def depthLimit : Nat := 128

/-- Whether a tag is one of the document's own types, which have no value. -/
def isLocalTag (tag : Option String) : Bool :=
  (tag.map fun t => t.toList.head? == some '!').getD false

/-- The text of a key.  Only scalars can be keys. -/
def keyText? (d : Document) (key : Bound) : Option String :=
  match d.target key with
  -- The tag of a key does not matter.
  | .scalar _ _ text _ => some text
  | _ => none

/-- Uses up one alias if the node is one. -/
def follow? (aliases : Nat) (node : Bound) : Option Nat :=
  match node with
  | .alias _ => if aliases = 0 then none else some (aliases - 1)
  | _ => some aliases

/-- The values of some nodes, from left to right.  `aliases` says how many aliases may still be
followed. -/
def mapAliases? (value? : Nat → Bound → Option (Json × Nat)) (aliases : Nat) :
    List Bound → Option (List Json × Nat)
  | [] => some ([], aliases)
  | node :: rest => do
    let (value, aliases) ← value? aliases node
    let (values, aliases) ← mapAliases? value? aliases rest
    some (value :: values, aliases)

/-- The keys and values of some entries, from left to right. -/
def mapEntries? (d : Document) (value? : Nat → Bound → Option (Json × Nat)) (aliases : Nat) :
    List (Bound × Bound) → Option (Entries Json × Nat)
  | [] => some ([], aliases)
  | (key, node) :: rest => do
    -- An alias counts wherever it stands, also as a key.
    let aliases ← follow? aliases key
    let text ← d.keyText? key
    let (value, aliases) ← value? aliases node
    let (entries, aliases) ← mapEntries? d value? aliases rest
    some ((text, value) :: entries, aliases)

/-- The value of a node whose collections are nested at most `depth` deep. -/
def value? (d : Document) (depth aliases : Nat) (node : Bound) : Option (Json × Nat) := do
  let aliases ← follow? aliases node
  match d.target node with
  | .alias _ => none
  | .scalar _ tag text isPlain =>
    if isLocalTag tag then none
    else (scalarValue? tag text isPlain).map fun value => (value, aliases)
  | .sequence _ tag items =>
    match depth with
    | 0 => none
    | n + 1 =>
      if isLocalTag tag then none
      else
        (mapAliases? (value? d n) aliases items).map fun (items, aliases) =>
          (.arr items, aliases)
  | .mapping _ tag entries =>
    match depth with
    | 0 => none
    | n + 1 =>
      if isLocalTag tag then none
      else
        (d.mapEntries? (value? d n) aliases entries).map fun (entries, aliases) =>
          (.obj entries.collapse, aliases)

/-- The value of a document.  Without a root it is null. -/
def toJson? (d : Document) : Option Json :=
  match d.root with
  | none => some .null
  | some root => (d.value? depthLimit d.aliasLimit root).map (·.1)

end Document

/-- Reads the only document of a text. -/
def read? (text : String) : Option Document := (document? text.toList).bind Document.ofNode?

/-- The value of the only document of a text. -/
def parse? (text : String) : Option Json := (read? text).bind Document.toJson?

end ApiToolkit.Yaml
