import NestedRouting.Navigation.History

/-!
# History records as data

Entries and transitions are written as objects; data that is missing is not written. They are read
from objects, in which unknown fields are ignored and data that is null counts as missing, or from
lists of their fields in order.
-/

namespace NestedRouting

/-- Data that is read as missing when it is null. -/
def Data.notNull? : Data → Option Data
  | .null => none
  | d => some d

namespace HistoryEntry

/-- The fields of an entry. -/
def fields (e : HistoryEntry) : List (String × Data) :=
  ("path", .string e.path) :: e.data.toList.map fun d => ("data", d)

/-- The written form of an entry. -/
def toData (e : HistoryEntry) : Data := .object e.fields

/-- Reads the fields of an entry in order. -/
def ofItems? : List Data → Option HistoryEntry
  | [.string path] => some ⟨path, none⟩
  | [.string path, d] => some ⟨path, d.notNull?⟩
  | _ => none

/-- Reads an entry. -/
def ofData? (d : Data) : Option HistoryEntry :=
  match d with
  | .array items => ofItems? items
  | d =>
    match d.field? "path" with
    | some (.string path) => some ⟨path, (d.field? "data").bind Data.notNull?⟩
    | _ => none

end HistoryEntry

namespace Transition

/-- The word for what a transition did. -/
def kindName (t : Transition) : String := if t.isReplace then "replace" else "push"

/-- Whether the word for a transition means a replacement. -/
def isReplaceOf? : Data → Option Bool
  | .string "push" => some false
  | .string "replace" => some true
  | _ => none

/-- The written form of a transition. -/
def toData (t : Transition) : Data := .object (("kind", .string t.kindName) :: t.entry.fields)

/-- Reads a transition. -/
def ofData? (d : Data) : Option Transition :=
  match d with
  | .array [] => none
  | .array (kind :: items) => do
    let isReplace ← isReplaceOf? kind
    let entry ← HistoryEntry.ofItems? items
    return ⟨isReplace, entry⟩
  | d => do
    let kind ← d.field? "kind"
    let isReplace ← isReplaceOf? kind
    let entry ← HistoryEntry.ofData? d
    return ⟨isReplace, entry⟩

end Transition

end NestedRouting
