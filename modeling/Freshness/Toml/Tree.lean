import Freshness.Toml.Basic

/-!
# Tables while a document defines them

A document defines its tables line by line, and a table may be defined only once. So each table
under definition keeps its `Toml.Tree.Origin`: how the document has named it so far.

* `Toml.Tree.within?` : changes the table at the end of a path. Tables that the path names for the
  first time come into being; a path ends in failure at a value without tables inside;
* `Toml.Tree.define?`, `Toml.Tree.head?`, `Toml.Tree.headItem?` : a key with its value, the header
  of a table, the header of an item of an array of tables;
* `Toml.Draft.line?`, `Toml.ofLines?` : a document from its lines;
* `Toml.ofPairs?` : a table that is written within a line.
-/

namespace Freshness.Toml

/-- A key with dots: the names before the last dot and the one after it. -/
structure Key where
  parents : List String
  last : String
deriving DecidableEq, Repr

def Key.path (k : Key) : List String := k.parents ++ [k.last]

/-- How a document has named a table so far. -/
inductive Tree.Origin where
  /-- By a header of its own. -/
  | headed
  /-- On the way to another header. -/
  | implied
  /-- On the way to the key of a value. -/
  | dotted
deriving DecidableEq, Repr

inductive Tree where
  | leaf (value : Toml)
  | table (origin : Tree.Origin) (entries : List (String × Tree))
  /-- An array of tables: the one that is being defined, and the ones before it. -/
  | tables (latest : List (String × Tree)) (earlier : List Toml)
deriving Repr

namespace Tree

abbrev Entries := List (String × Tree)

/-- Changes what stands under a key, or fails. -/
def alter? (key : String) (f : Option Tree → Option Tree) : Entries → Option Entries
  | [] => (f none).map fun t => [(key, t)]
  | (k, t) :: es =>
    if k = key then (f (some t)).map fun t => (k, t) :: es
    else (alter? key f es).map ((k, t) :: ·)

/-- Changes the table at the end of a path from a table with origin `here`. Names that are new come
into being as `via`. The key of a value does not lead through a table with a header of its own. -/
def within? (via : Origin) (f : Origin → Entries → Option Entries) :
    (here : Origin) → List String → Entries → Option Entries
  | here, [], es => f here es
  | _, key :: path, es => alter? key (fun
    | none => (within? via f via path []).map (table via)
    | some (table o es) =>
      if via = .dotted ∧ o = .headed then none else (within? via f o path es).map (table o)
    | some (tables latest earlier) =>
      (within? via f .headed path latest).map (tables · earlier)
    | some (leaf _) => none) es

def insert? (key : String) (value : Toml) : Entries → Option Entries :=
  alter? key fun
    | none => some (leaf value)
    | some _ => none

/-- Defines a value by a key. The table that the key's dots lead to has not been named otherwise. -/
def define? (key : Key) (value : Toml) : Entries → Option Entries :=
  within? .dotted (fun o es =>
    if key.parents = [] ∨ o = .dotted then insert? key.last value es else none) .headed key.parents

mutual

def toToml : Tree → Toml
  | leaf v => v
  | table _ es => .table (toEntries es)
  | tables latest earlier => .array (earlier ++ [.table (toEntries latest)])

def toEntries : List (String × Tree) → List (String × Toml)
  | [] => []
  | (k, t) :: es => (k, toToml t) :: toEntries es

end

/-- The header of a table: it has none yet, and no key of a value has led through it. -/
def head? (key : Key) : Entries → Option Entries :=
  within? .implied (fun _ => alter? key.last fun
    | none => some (table .headed [])
    | some (table .implied es) => some (table .headed es)
    | some _ => none) .headed key.parents

def headItem? (key : Key) : Entries → Option Entries :=
  within? .implied (fun _ => alter? key.last fun
    | none => some (tables [] [])
    | some (tables latest earlier) => some (tables [] (earlier ++ [.table (toEntries latest)]))
    | some _ => none) .headed key.parents

end Tree

inductive Line where
  | value (key : Key) (value : Toml)
  | header (key : Key)
  | item (key : Key)
deriving Repr

/-- A document up to some line: its entries and the path of the table that its values go to. -/
structure Draft where
  place : List String := []
  entries : Tree.Entries := []
deriving Repr

def Draft.line? (d : Draft) : Line → Option Draft
  | .value key v =>
    (Tree.within? .implied (fun _ => Tree.define? key v) .headed d.place d.entries).map
      ({ d with entries := · })
  | .header key => (Tree.head? key d.entries).map (⟨key.path, ·⟩)
  | .item key => (Tree.headItem? key d.entries).map (⟨key.path, ·⟩)

def ofLines? (lines : List Line) : Option Toml :=
  (lines.foldlM Draft.line? {}).map fun d => .table (Tree.toEntries d.entries)

def ofPairs? (pairs : List (Key × Toml)) : Option Toml :=
  (pairs.foldlM (fun es p => Tree.define? p.1 p.2 es) []).map fun es => .table (Tree.toEntries es)

end Freshness.Toml
