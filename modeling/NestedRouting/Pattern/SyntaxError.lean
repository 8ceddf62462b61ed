import NestedRouting.Text.Basic

/-!
# Errors of pattern syntax

What can be wrong with a pattern, with the byte offset of the offending construct, and the wording
of each error.
-/

namespace NestedRouting

/-- The kinds of lexemes that error messages name. -/
inductive LexemeKind
  | openBrace
  | closeBrace
  | group
  | name
  | char
  | escaped
  | quantifier
  | finish
  deriving DecidableEq, Repr

/-- The name of a kind of lexeme in messages. -/
def LexemeKind.label : LexemeKind → String
  | openBrace => "OPEN"
  | closeBrace => "CLOSE"
  | group => "PATTERN"
  | name => "NAME"
  | char => "CHAR"
  | escaped => "ESCAPED_CHAR"
  | quantifier => "MODIFIER"
  | finish => "END"

/-- Why a pattern is malformed. Indices are byte offsets in the pattern. -/
inductive SyntaxError
  | missingName (index : Nat)
  | unbalancedGroup (index : Nat)
  | capturingGroup (index : Nat)
  | questionAfterOpen (index : Nat)
  | emptyGroup (index : Nat)
  | trailingEscape (index : Nat)
  | unexpected (found : LexemeKind) (index : Nat) (expected : LexemeKind)
  | repeatWithoutAffix (name : Text)
  | invalidRegex (source : Text)
  deriving DecidableEq, Repr

namespace SyntaxError

/-- The byte offset that an error points at. -/
def index? : SyntaxError → Option Nat
  | missingName i | unbalancedGroup i | capturingGroup i | questionAfterOpen i | emptyGroup i
  | trailingEscape i | unexpected _ i _ => some i
  | repeatWithoutAffix _ | invalidRegex _ => none

/-- The wording of an error. An invalid regular expression has none: that reader reports only that
it failed. -/
def message? : SyntaxError → Option String
  | missingName i => some s!"missing parameter name after \":\" at {i}"
  | unbalancedGroup i => some s!"unbalanced group starting at {i}"
  | capturingGroup i => some s!"capturing groups are not allowed inside a group pattern (at {i})"
  | questionAfterOpen i => some s!"group pattern cannot start with \"?\" at {i}"
  | emptyGroup i => some s!"missing pattern inside group at {i}"
  | trailingEscape i => some s!"trailing escape character at {i}"
  | unexpected found i expected =>
    some s!"unexpected {found.label} at {i}, expected {expected.label}"
  | repeatWithoutAffix name =>
    some s!"parameter \"{String.ofList name}\" cannot repeat without a prefix or suffix"
  | invalidRegex _ => none

end SyntaxError

end NestedRouting
