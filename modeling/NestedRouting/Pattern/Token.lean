import NestedRouting.Text.Basic

/-!
# Tokens of a route pattern

A pattern such as `/users/:id(\d+)?` is a list of tokens: literal text, groups of text in braces,
and keys. A key is a capturing slot; it may carry fixed text in front of and behind the captured
value, and a quantifier.
-/

namespace NestedRouting

/-- How often a key or a group may occur, when not exactly once. -/
inductive Quantifier
  | optional
  | zeroOrMore
  | oneOrMore
  deriving DecidableEq, Repr

namespace Quantifier

/-- The character that writes a quantifier, in patterns and in regular expressions. -/
def symbol : Quantifier → Char
  | optional => '?'
  | zeroOrMore => '*'
  | oneOrMore => '+'

/-- The quantifier that a character writes. -/
def ofChar? : Char → Option Quantifier
  | '?' => some optional
  | '*' => some zeroOrMore
  | '+' => some oneOrMore
  | _ => none

/-- Whether the quantified part may be absent. -/
def allowsAbsence : Quantifier → Bool
  | optional | zeroOrMore => true
  | oneOrMore => false

/-- Whether the quantified part may occur several times. -/
def allowsRepeat : Quantifier → Bool
  | zeroOrMore | oneOrMore => true
  | optional => false

/-- A character is a quantifier if it is the sign of one. -/
theorem ofChar?_eq_some_iff {c : Char} {q : Quantifier} : ofChar? c = some q ↔ c = q.symbol := by
  constructor
  · intro h
    unfold ofChar? at h
    split at h <;> simp_all [symbol] <;> subst h <;> rfl
  · rintro rfl
    cases q <;> rfl

end Quantifier

/-- A modifier: no quantifier, or one. -/
abbrev Modifier := Option Quantifier

namespace Modifier

/-- The modifier as it is written; nothing when there is no quantifier. -/
def text : Modifier → Text
  | none => []
  | some q => [q.symbol]

/-- Whether the modified part may be absent. -/
def isOptional (m : Modifier) : Bool := m.any Quantifier.allowsAbsence

/-- Whether the modified part may occur several times. -/
def isRepeat (m : Modifier) : Bool := m.any Quantifier.allowsRepeat

end Modifier

/-- How a key was written. -/
inductive KeyKind
  /-- With a name: `:id`. -/
  | named
  /-- As a group: `(a|b)`. -/
  | positional
  /-- As a bare star. -/
  | wildcard
  deriving DecidableEq, Repr

/-- A capturing slot. Keys written without a name are called `0`, `1`, … from left to right. -/
structure Key where
  name : Text
  kind : KeyKind
  /-- Fixed text before the captured value. -/
  lead : Text
  /-- Fixed text behind the captured value. -/
  tail : Text
  /-- The regular expression of the captured value. -/
  pattern : Text
  modifier : Modifier
  deriving DecidableEq, Repr

/-- One element of a pattern. -/
inductive Token
  | literal (text : Text)
  /-- Text in braces without a key. -/
  | group (text : Text) (modifier : Modifier)
  | key (key : Key)
  deriving DecidableEq, Repr

namespace Token

/-- The key of a token, if it is one. -/
def key? : Token → Option Key
  | key k => some k
  | _ => none

end Token

/-- The keys of a pattern from left to right. -/
def keysOf (tokens : List Token) : List Key := tokens.filterMap Token.key?

/-- The characters at which a path is divided into segments. -/
def isDelimiter (c : Char) : Bool := c == '/' || c == '#' || c == '?'

end NestedRouting
