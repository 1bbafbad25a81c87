/-!
# TOML documents

A table keeps its entries in the order in which the document gives them. A document is a list of
statements, each of which adds to the tables that are there: a header opens a table or one more item
of an array of tables, and a key gives a value in the table that was opened last. Which tables a
statement may add to depends on how they came about.
-/

namespace SessionKit

inductive Toml where
  | string (s : String)
  | integer (i : Int)
  | float (x : Float)
  | boolean (b : Bool)
  /-- A date, a time of day or both, as it is written. -/
  | datetime (written : String)
  | array (items : List Toml)
  | table (entries : List (String × Toml))
  deriving Inhabited

namespace Toml

/-- A dotted key: the tables it leads through and the name in the last of them. -/
structure Key where
  parents : List String
  name : String
  deriving DecidableEq, Repr

inductive Statement where
  | table (key : Key)
  | item (key : Key)
  | value (key : Key) (value : Toml)

/-- How a table came about: by a header or an inline table of its own, by a longer header, or by a
dotted key. -/
inductive Kind where
  | header
  | implied
  | dotted
  deriving DecidableEq, Repr

/-- What a name stands for while the document is read. Only the last item of an array of tables
can still grow. -/
inductive Node where
  | value (v : Toml)
  | table (kind : Kind) (entries : List (String × Node))
  | items (finished : List Toml) (entries : List (String × Node))

abbrev Entries := List (String × Node)

mutual
def Node.toToml : Node → Toml
  | .value v => v
  | .table _ entries => .table (finish entries)
  | .items finished entries => .array (finished ++ [.table (finish entries)])

/-- The entries of a table to which nothing is added any more. -/
def finish : Entries → List (String × Toml)
  | [] => []
  | (name, node) :: rest => (name, node.toToml) :: finish rest
end

namespace Entries

def find? (name : String) : Entries → Option Node
  | [] => none
  | (n, node) :: rest => if n = name then some node else find? name rest

/-- Puts a node in the place of the one with the same name. -/
def replace (name : String) (node : Node) : Entries → Entries
  | [] => []
  | (n, old) :: rest => if n = name then (n, node) :: rest else (n, old) :: replace name node rest

def remove (name : String) : Entries → Entries
  | [] => []
  | (n, node) :: rest => if n = name then rest else (n, node) :: remove name rest

/-- Changes the table at the end of a path. Tables that are missing are made. A dotted key does not
lead into a table that has a header. -/
def descend (dotted : Bool) (change : Kind → Entries → Option Entries) :
    List String → Kind → Entries → Option Entries
  | [], kind, entries => change kind entries
  | name :: path, _, entries =>
    match entries.find? name with
    | none => do
      let kind := if dotted then Kind.dotted else .implied
      let inner ← descend dotted change path kind []
      return entries ++ [(name, .table kind inner)]
    | some (.value _) => none
    | some (.table kind inner) =>
      if dotted = true ∧ kind = .header then none
      else do
        let inner ← descend dotted change path kind inner
        return entries.replace name (.table kind inner)
    | some (.items finished inner) => do
      let inner ← descend dotted change path .header inner
      return entries.replace name (.items finished inner)

/-- Gives a value to a key that has none. Only a key with dots adds to a table made by dotted
keys, and only to such a table. -/
def define (key : Key) (v : Toml) (entries : Entries) : Option Entries :=
  entries.descend true (fun kind inner =>
    if (kind == .dotted) == key.parents.isEmpty then none
    else match inner.find? key.name with
      | some _ => none
      | none => some (inner ++ [(key.name, .value v)])) key.parents .header

/-- Opens a table. One that is there must be merely implied, and it moves to the end. -/
def openTable (key : Key) (entries : Entries) : Option Entries :=
  entries.descend false (fun _ inner =>
    match inner.find? key.name with
    | none => some (inner ++ [(key.name, .table .header [])])
    | some (.table .implied old) =>
      some (inner.remove key.name ++ [(key.name, .table .header old)])
    | some _ => none) key.parents .header

/-- Opens one more item of an array of tables. -/
def openItem (key : Key) (entries : Entries) : Option Entries :=
  entries.descend false (fun _ inner =>
    match inner.find? key.name with
    | none => some (inner ++ [(key.name, .items [] [])])
    | some (.items finished last) =>
      some (inner.replace key.name (.items (finished ++ [.table (finish last)]) []))
    | some _ => none) key.parents .header

end Entries

/-- What the statements so far amount to. -/
structure Draft where
  root : Entries := []
  /-- The path of the table that was opened last. -/
  current : List String := []

def Draft.add (d : Draft) : Statement → Option Draft
  | .table key => do
    return { root := ← d.root.openTable key, current := key.parents ++ [key.name] }
  | .item key => do
    return { root := ← d.root.openItem key, current := key.parents ++ [key.name] }
  | .value key v => do
    let root ← d.root.descend false (fun _ inner => inner.define key v) d.current .header
    return { d with root }

/-- The table that statements make up together. -/
def build (statements : List Statement) : Option Toml := do
  let d ← statements.foldlM Draft.add {}
  return .table (finish d.root)

/-- The inline table with some keys and values. -/
def inlineTable (pairs : List (Key × Toml)) : Option Toml := do
  let entries ← pairs.foldlM (fun entries (key, v) => Entries.define key v entries) []
  return .table (finish entries)

end Toml
end SessionKit
