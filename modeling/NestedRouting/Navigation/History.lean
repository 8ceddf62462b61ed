import NestedRouting.Data.Basic

/-!
# Histories

A history is a stack of entries with a cursor. Pushing drops the entries ahead of the cursor;
replacing overwrites the entry at the cursor; traversing moves the cursor within the stack. Pushes
and replacements are recorded as transitions. The cursor always stands at an entry, which the type
keeps as an invariant.
-/

namespace NestedRouting

/-- The event that traversal of a history emits. -/
def popstate : String := "popstate"

/-- A path with the data of the navigation that led there. -/
structure HistoryEntry where
  path : String
  data : Option Data
  deriving Inhabited

/-- A recorded navigation. -/
structure Transition where
  /-- Whether it replaced the current entry instead of pushing a new one. -/
  isReplace : Bool
  entry : HistoryEntry

/-- A stack of entries with a cursor, and the transitions so far. -/
structure History where
  entries : List HistoryEntry
  cursor : Nat
  transitions : List Transition
  cursor_lt : cursor < entries.length

namespace History

/-- A history of one entry. -/
def start (path : String) : History := ⟨[⟨path, none⟩], 0, [], Nat.zero_lt_one⟩

instance : Inhabited History := ⟨start ""⟩

/-- The number of entries. -/
def length (h : History) : Nat := h.entries.length

/-- The entry at the cursor. -/
def current (h : History) : HistoryEntry := h.entries.get ⟨h.cursor, h.cursor_lt⟩

/-- The path of the current entry. -/
def location (h : History) : String := h.current.path

/-- The data of the current entry. -/
def state (h : History) : Option Data := h.current.data

/-- Puts an entry behind the current one, in place of all that follow. -/
def push (h : History) (e : HistoryEntry) : History where
  entries := h.entries.take (h.cursor + 1) ++ [e]
  cursor := h.cursor + 1
  transitions := h.transitions ++ [⟨false, e⟩]
  cursor_lt := by
    have := h.cursor_lt
    simp only [List.length_append, List.length_take, List.length_cons, List.length_nil]
    omega

/-- Overwrites the current entry. -/
def replace (h : History) (e : HistoryEntry) : History where
  entries := h.entries.set h.cursor e
  cursor := h.cursor
  transitions := h.transitions ++ [⟨true, e⟩]
  cursor_lt := by simpa using h.cursor_lt

/-- Moves the cursor; nothing if it would not move or would leave the stack. -/
def go (h : History) (delta : Int) : Option History :=
  let target := (h.cursor : Int) + delta
  if hmove : delta ≠ 0 ∧ 0 ≤ target ∧ target < h.entries.length then
    some { h with cursor := target.toNat, cursor_lt := by omega }
  else none

end History

end NestedRouting
