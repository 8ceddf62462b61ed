import NestedRouting.Regex.CharSet
import NestedRouting.Text.Basic

/-!
# Regular expressions

A regular expression after its flags have been resolved: what a flag changes stands in the
expression itself. Groups that capture carry their number, counted from one by opening parenthesis,
and perhaps a name.
-/

namespace NestedRouting

/-- Places relative to the words of a text. -/
inductive WordEdge
  | boundary
  | noBoundary
  | start
  | finish
  /-- No word character in front. -/
  | startHalf
  /-- No word character behind. -/
  | finishHalf
  deriving DecidableEq, Repr

/-- Conditions on a place in a text. -/
inductive Look
  | textStart
  | textEnd
  /-- The start of a line; lines end with a line feed, or with either or both of carriage return and
  line feed. -/
  | lineStart (crlf : Bool)
  | lineEnd (crlf : Bool)
  | word (edge : WordEdge) (asciiOnly : Bool)
  deriving DecidableEq, Repr

/-- A regular expression. -/
inductive Regex
  | empty
  | set (s : CharSet)
  | look (l : Look)
  | seq (r s : Regex)
  | alt (r s : Regex)
  | loop (r : Regex) (least : Nat) (most : Option Nat) (greedy : Bool)
  | group (number : Nat) (name : Option Text) (r : Regex)

namespace Regex

instance : Inhabited Regex := ⟨empty⟩

/-- A loop; one that may not run at all is empty, whatever it contains. -/
def repeated (r : Regex) (least : Nat) (most : Option Nat) (greedy : Bool) : Regex :=
  if most = some 0 then empty else loop r least most greedy

/-- The capturing groups, with their names. -/
def groups : Regex → List (Nat × Option Text)
  | empty | set _ | look _ => []
  | seq r s | alt r s => r.groups ++ s.groups
  | loop r _ _ _ => r.groups
  | group number name r => (number, name) :: r.groups

/-- The highest number of a group. -/
def lastGroup (r : Regex) : Nat := r.groups.foldl (fun n g => max n g.1) 0

/-- The number of the group with a name, among groups with their names. -/
def groupNamed? (groups : List (Nat × Option Text)) (name : Text) : Option Nat :=
  (groups.find? (·.2 = some name)).map Prod.fst

end Regex

end NestedRouting
