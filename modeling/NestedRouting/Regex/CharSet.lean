import NestedRouting.Unicode.CaseFold
import NestedRouting.Unicode.Property

/-!
# Sets of characters

The classes of regular expressions, as expressions whose meaning is membership (`CharSet.mem`).
A set can be closed under case folding, for all characters or within ASCII.
-/

namespace NestedRouting

/-- An expression for a set of characters. -/
inductive CharSet
  | empty
  | range (first last : Char)
  | property (p : Unicode.Property)
  | word
  | digit
  | space
  /-- The characters with the case folding of one character. -/
  | alike (c : Char)
  /-- The characters that fold to the folding of a member. -/
  | folded (s : CharSet)
  /-- The members, and the ASCII letters of which a member is the other case. -/
  | foldedAscii (s : CharSet)
  | union (s t : CharSet)
  | inter (s t : CharSet)
  | compl (s : CharSet)

namespace CharSet

/-- Membership. -/
def mem : CharSet → Char → Bool
  | empty, _ => false
  | range first last, c => first ≤ c && c ≤ last
  | property p, c => p.holds c
  | word, c => Unicode.isWord c
  | digit, c => Unicode.isDigit c
  | space, c => Unicode.isSpace c
  | alike d, c => Unicode.fold c == Unicode.fold d
  | folded s, c => (Unicode.orbit c).any s.mem
  | foldedAscii s, c => s.mem c || s.mem c.toLower || s.mem c.toUpper
  | union s t, c => s.mem c || t.mem c
  | inter s t, c => s.mem c && t.mem c
  | compl s, c => !s.mem c

/-- The set of one character. -/
def single (c : Char) : CharSet := range c c

/-- All characters. -/
def all : CharSet := compl empty

/-- The union of a list of ranges. -/
def ranges : List (Char × Char) → CharSet
  | [] => empty
  | [(first, last)] => range first last
  | (first, last) :: rs => union (range first last) (ranges rs)

/-- The members of the first set that are not in the second. -/
def diff (s t : CharSet) : CharSet := inter s (compl t)

/-- The members of one of two sets but not of both. -/
def symmDiff (s t : CharSet) : CharSet := union (diff s t) (diff t s)

/-- The ASCII class with a name in `[:name:]`. -/
def ofAsciiName? : String → Option CharSet
  | "alnum" => some (ranges [('0', '9'), ('A', 'Z'), ('a', 'z')])
  | "alpha" => some (ranges [('A', 'Z'), ('a', 'z')])
  | "ascii" => some (range '\x00' '\x7f')
  | "blank" => some (ranges [('\t', '\t'), (' ', ' ')])
  | "cntrl" => some (ranges [('\x00', '\x1f'), ('\x7f', '\x7f')])
  | "digit" => some (range '0' '9')
  | "graph" => some (range '!' '~')
  | "lower" => some (range 'a' 'z')
  | "print" => some (range ' ' '~')
  | "punct" => some (ranges [('!', '/'), (':', '@'), ('[', '\x60'), ('\x7b', '~')])
  | "space" => some (ranges [('\t', '\r'), (' ', ' ')])
  | "upper" => some (range 'A' 'Z')
  | "word" => some (ranges [('0', '9'), ('A', 'Z'), ('_', '_'), ('a', 'z')])
  | "xdigit" => some (ranges [('0', '9'), ('A', 'F'), ('a', 'f')])
  | _ => none

end CharSet

end NestedRouting
