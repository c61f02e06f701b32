/-!
# TOML documents

A document is a list of statements, each a header or an entry, and the statements build one table.
How a table came about decides what may still be added to it: a table is headed once, an inline
table is complete, and dotted keys only extend tables that dotted keys or deeper headers made.
-/

namespace ObjectStorage

namespace Toml

inductive Origin where
  /-- Made on the way to a deeper header. -/
  | implicit
  /-- Made by a dotted key. -/
  | dotted
  | header
  | inline
  deriving DecidableEq, Repr

end Toml

inductive Toml where
  | string (text : String)
  /-- None if the text only looks like an integer. -/
  | integer (value : Option Int)
  | float (tooLarge : Bool)
  | bool (value : Bool)
  | dateTime
  | array (items : List Toml)
  | table (origin : Toml.Origin) (entries : List (String × Toml))
  /-- Tables under one repeated header, the latest first. -/
  | tables (list : List (List (String × Toml)))

namespace Toml

abbrev Entries := List (String × Toml)

/-- A table with the way in which it came about. -/
structure Table where
  origin : Origin
  entries : Entries

def Table.lookup? (holder : Table) (key : String) : Option Toml := holder.entries.lookup key

def replaceEntry (key : String) (value : Toml) : Entries → Entries
  | [] => [(key, value)]
  | (other, held) :: rest =>
      if other = key then (key, value) :: rest else (other, held) :: replaceEntry key value rest

/-- Puts the value in the place of the one that the key has, or at the end. -/
def Table.put (holder : Table) (key : String) (value : Toml) : Table :=
  { holder with entries := replaceEntry key value holder.entries }

def ofTable (holder : Table) : Toml := .table holder.origin holder.entries

/--
Changes the table to which the path leads, making the tables that are missing.  A repeated header
leads to its latest table.  Dotted keys do not lead into other tables with a header, and nothing
leads into an inline table.
-/
def descend (byDots : Bool) (change : Table → Option Table) :
    List String → Table → Option Table
  | [], holder => change holder
  | key :: path, holder =>
      match holder.lookup? key with
      | none => do
          let origin := if byDots then Origin.dotted else Origin.implicit
          let inner ← descend byDots change path ⟨origin, []⟩
          return holder.put key (ofTable inner)
      | some (.table origin entries) => do
          if origin = .inline ∨ byDots ∧ origin = .header then none
          let inner ← descend byDots change path ⟨origin, entries⟩
          return holder.put key (ofTable inner)
      | some (.tables (latest :: earlier)) => do
          let inner ← descend byDots change path ⟨.header, latest⟩
          return holder.put key (.tables (inner.entries :: earlier))
      | some _ => none

/-- Adds a key that is new; after dots, the table must be one that dots made. -/
def addEntry (afterDots : Bool) (key : String) (value : Toml) (holder : Table) : Option Table :=
  if (holder.lookup? key).isSome ∨ afterDots ∧ holder.origin ≠ .dotted then none
  else some (holder.put key value)

/-- Adds an entry under a key with dots. -/
def addDotted (path : List String) (value : Toml) (holder : Table) : Option Table :=
  match path.getLast? with
  | none => none
  | some key => descend true (addEntry (1 < path.length) key value) path.dropLast holder

/-- Heads the table at the key: a new one, or one that was only made on the way. -/
def headTable (key : String) (holder : Table) : Option Table :=
  match holder.lookup? key with
  | none => some (holder.put key (.table .header []))
  | some (.table .implicit entries) => some (holder.put key (.table .header entries))
  | some _ => none

/-- Starts another of the tables at the key. -/
def headRepeated (key : String) (holder : Table) : Option Table :=
  match holder.lookup? key with
  | none => some (holder.put key (.tables [[]]))
  | some (.tables list) => some (holder.put key (.tables ([] :: list)))
  | some _ => none

inductive Statement where
  | header (path : List String)
  | repeatedHeader (path : List String)
  | entry (path : List String) (value : Toml)

/-- Runs the statements with `current` as the path of the last header. -/
def build (current : List String) (root : Table) : List Statement → Option Table
  | [] => some root
  | .header path :: rest => do
      let key ← path.getLast?
      let root ← descend false (headTable key) path.dropLast root
      build path root rest
  | .repeatedHeader path :: rest => do
      let key ← path.getLast?
      let root ← descend false (headRepeated key) path.dropLast root
      build path root rest
  | .entry path value :: rest => do
      let root ← descend false (addDotted path value) current root
      build current root rest

def ofStatements? (statements : List Statement) : Option Table :=
  build [] ⟨.header, []⟩ statements

def inlineTable? (entries : List (List String × Toml)) : Option Toml := do
  let made ← entries.foldlM (fun made entry => addDotted entry.1 entry.2 made)
    (⟨.header, []⟩ : Table)
  return .table .inline made.entries

end Toml

end ObjectStorage
