import NestedRouting.Regex.Position
import NestedRouting.Regex.Program

/-!
# Search

`Regex.search` runs the program of an expression on a text. It follows one way after the other,
always the preferred one first, and remembers at which instruction and place some way has been. A way
that comes to where one has been before is given up: whatever can follow has been tried, or is being
tried, by a preferred way. So a search takes at most one turn for each instruction at each place.
-/

namespace NestedRouting

/-- A noted place: where a group starts, or where it stops. -/
structure Note where
  group : Nat
  isStop : Bool
  index : Nat
  deriving DecidableEq, Repr

/-- A way through a program: the next instruction, the place in the text, and what was noted, the
latest first. -/
structure Way where
  next : Nat
  place : Position
  notes : List Note
  deriving DecidableEq, Repr

namespace Way

/-- A way that starts at a place. -/
def start (p : Position) : Way := ⟨0, p, []⟩

/-- Continues with another instruction. -/
def goTo (w : Way) (next : Nat) : Way := { w with next }

/-- Where a group starts, or where it stops, by the latest note of it. -/
def noted? (w : Way) (group : Nat) (isStop : Bool) : Option Nat :=
  (w.notes.find? fun n => n.group == group && n.isStop == isStop).map Note.index

/-- The part of a text between the notes of a group. -/
def text? (w : Way) (s : Text) (group : Nat) : Option Text := do
  let first ← w.noted? group false
  let stop ← w.noted? group true
  return (s.drop first).take (stop - first)

end Way

/-- The ways to go on after an instruction, the preferred first. -/
def Instr.follow (w : Way) : Instr → List Way
  | take s =>
    match w.place.rest with
    | [] => []
    | c :: rest =>
      if s.mem c then [{ w with next := w.next + 1, place := ⟨w.place.index + 1, some c, rest⟩ }]
      else []
  | check l => if l.holds w.place then [w.goTo (w.next + 1)] else []
  | note group isStop =>
    [{ w with next := w.next + 1, notes := ⟨group, isStop, w.place.index⟩ :: w.notes }]
  | fork greedy count =>
    let ways := [w.goTo (w.next + 1), w.goTo (w.next + 1 + count)]
    if greedy then ways else ways.reverse
  | again greedy count =>
    let ways := [w.goTo (w.next - count), w.goTo (w.next + 1)]
    if greedy then ways else ways.reverse
  | skip count => [w.goTo (w.next + 1 + count)]
  | back count => [w.goTo (w.next - count)]

namespace Regex

/-- Follows ways, each before those behind it, until one leaves the program; the first argument
bounds the number of turns. `seen` has an entry for each instruction, the end included, at each of
the `width` places. -/
def explore (program : Array Instr) (width : Nat) : Nat → Array Bool → List Way → Option Way
  | 0, _, _ | _ + 1, _, [] => none
  | turns + 1, seen, w :: ways =>
    let entry := w.next * width + w.place.index
    if seen.getD entry true then explore program width turns seen ways
    else
      match program[w.next]? with
      | none => some w
      | some i =>
        explore program width turns (seen.setIfInBounds entry true) (i.follow w ++ ways)

/-- The way of the leftmost match of an expression in a text. Each turn takes a way off the list, and
at most one turn for each entry adds ways, two of them. -/
def search (r : Regex) (s : Text) : Option Way :=
  let program := r.code.toArray
  let places := Position.all s
  let entries := (program.size + 1) * places.length
  explore program places.length (2 * entries + places.length + 1) (Array.replicate entries false)
    (places.map Way.start)

/-- Whether an expression matches somewhere in a text. -/
def isMatch (r : Regex) (s : Text) : Bool := (r.search s).isSome

end Regex

end NestedRouting
