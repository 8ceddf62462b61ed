import NestedRouting.Regex.Basic

/-!
# Places in a text

A place lies between two characters of a text. What a condition asks (`Look.holds`) depends only on
the characters on both sides.
-/

namespace NestedRouting

/-- A place in a text: how many characters lie before it, the last of them, and what follows. -/
structure Position where
  index : Nat
  before : Option Char
  rest : Text
  deriving DecidableEq, Repr

namespace Position

/-- The start of a text. -/
def start (s : Text) : Position := ⟨0, none, s⟩

/-- The places in `s` that lie behind its first character, when `index` characters lie before. -/
def within (index : Nat) : Text → List Position
  | [] => []
  | c :: s => ⟨index + 1, some c, s⟩ :: within (index + 1) s

/-- The places behind a place, nearest first. -/
def later (p : Position) : List Position := within p.index p.rest

/-- All places in a text, from its start on. -/
def all (s : Text) : List Position := start s :: (start s).later

end Position

/-- Whether there is a word character. -/
def Look.isWordChar (asciiOnly : Bool) (c : Option Char) : Bool :=
  c.any fun c => if asciiOnly then c.isAlphanum || c == '_' else Unicode.isWord c

/-- Whether a condition holds between two characters. -/
def WordEdge.holds (before after : Bool) : WordEdge → Bool
  | boundary => before != after
  | noBoundary => before == after
  | start => !before && after
  | finish => before && !after
  | startHalf => !before
  | finishHalf => !after

/-- Whether a condition holds at a place. -/
def Look.holds (p : Position) : Look → Bool
  | textStart => p.before.isNone
  | textEnd => p.rest.isEmpty
  | lineStart false => p.before.isNone || p.before == some '\n'
  | lineStart true =>
    p.before.isNone || p.before == some '\n' ||
      (p.before == some '\r' && p.rest.head? != some '\n')
  | lineEnd false => p.rest.isEmpty || p.rest.head? == some '\n'
  | lineEnd true =>
    p.rest.isEmpty || p.rest.head? == some '\r' ||
      (p.rest.head? == some '\n' && p.before != some '\r')
  | word edge asciiOnly =>
    edge.holds (isWordChar asciiOnly p.before) (isWordChar asciiOnly p.rest.head?)

end NestedRouting
