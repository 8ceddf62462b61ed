import NestedRouting.Toml.Reader

/-!
# Reading TOML documents

A document is a sequence of lines: entries of the open table, and headers that open another one. A
table has one header at most, and entries that a key with dots has put into a table bar it from having
one. `Toml.read` reads a document, or refuses it.
-/

namespace NestedRouting.Toml

/-- A document while it is read: the tables that are complete, and the open one with its path, where
`listed` tells that it is an item of a list of tables. -/
structure Draft where
  root : Fields
  path : List String
  listed : Bool
  current : Fields

namespace Draft

/-- The document before its first line. -/
def empty : Draft := ⟨[], [], false, []⟩

/-- Puts the open table into its place. -/
def close (d : Draft) : Option Fields :=
  match d.path.getLast? with
  | none => some d.current
  | some key =>
    let put := fun (_ : Standing) (fs : Fields) =>
      if d.listed then
        match fs.lookup key with
        | none => some (fs.put key (.tables [d.current]), ())
        | some (.tables items) => some (fs.put key (.tables (items ++ [d.current])), ())
        | some _ => none
      else some (fs.put key (.table ⟨false, false⟩ d.current), ())
    (Fields.update false put d.path.dropLast ⟨false, false⟩ d.root).map Prod.fst

/-- Opens a table. One that has been mentioned only in longer headers goes on with what it holds. -/
def openTable (d : Draft) (path : List String) (key : String) : Option Draft := do
  let root ← d.close
  let take := fun (_ : Standing) (fs : Fields) =>
    match fs.lookup key with
    | none => some (fs, [])
    | some (.table standing entries) =>
      if standing.implicit && !standing.dotted then some (fs.filter (·.1 ≠ key), entries) else none
    | some _ => none
  let (root, entries) ← Fields.update false take path ⟨false, false⟩ root
  return ⟨root, path ++ [key], false, entries⟩

/-- Opens another item of a list of tables. -/
def openItem (d : Draft) (path : List String) (key : String) : Option Draft := do
  let root ← d.close
  let check := fun (_ : Standing) (fs : Fields) =>
    match fs.lookup key with
    | none => some (fs.put key (.tables []), ())
    | some (.tables _) => some (fs, ())
    | some _ => none
  let (root, _) ← Fields.update false check path ⟨false, false⟩ root
  return ⟨root, path ++ [key], true, []⟩

end Draft

/-- Reads what stands on one line, or on the lines of one value, up to the next line. -/
def readEntry (d : Draft) (s : List Char) : Option (Draft × List Char) := do
  match s with
  | '#' :: _ | '\n' :: _ | '\r' :: _ =>
    let rest ← takeLineEnd? s
    return (d, rest)
  | '[' :: '[' :: s =>
    let (path, key, rest) ← readKey? s
    let rest ← takeChar? ']' rest
    let rest ← takeChar? ']' rest
    let rest ← takeLineEnd? rest
    let d ← d.openItem path key
    return (d, rest)
  | '[' :: s =>
    let (path, key, rest) ← readKey? s
    let rest ← takeChar? ']' rest
    let rest ← takeLineEnd? rest
    let d ← d.openTable path key
    return (d, rest)
  | s =>
    let (path, key, rest) ← readKey? s
    let rest ← takeChar? '=' rest
    let (v, rest) ← readValue (rest.length + 1) 0 (skipBlank rest)
    let rest ← takeLineEnd? rest
    let current ← d.current.insert path key v
    return ({ d with current }, rest)

/-- Reads lines until the text ends. -/
def readEntries (d : Draft) (s : List Char) : Option Draft :=
  match skipBlank s with
  | [] => some d
  | c :: t =>
    match readEntry d (c :: t) with
    | none => none
    | some (d, rest) => if rest.length < s.length then readEntries d rest else none
termination_by s.length

/-- Reads a document. A byte order mark in front is skipped. -/
def read (s : List Char) : Option Toml := do
  let s := if s.head? = some '\ufeff' then s.tail else s
  let d ← readEntries .empty s
  let root ← d.close
  return table (tomlEntries root)

end NestedRouting.Toml
