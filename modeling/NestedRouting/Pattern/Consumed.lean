import NestedRouting.Pattern.Token

/-!
# The consumed prefix

Routes below a route write their patterns behind its consumed prefix: the static text at the start
of the pattern, in the form in which a pattern spells that text. It depends on the pattern only,
not on what is matched.
-/

namespace NestedRouting

/-- The characters that a pattern must escape to mean themselves. -/
def isSpecial (c : Char) : Bool :=
  c == ':' || c == '(' || c == ')' || c == '\x7b' || c == '\x7d' || c == '?' || c == '*' ||
    c == '+' || c == '\\'

/-- The pattern that spells a text. -/
def escapeSource (s : Text) : Text := s.flatMap fun c => if isSpecial c then ['\\', c] else [c]

/-- The static text at the start of a pattern: a leading literal together with the lead of a key
right behind it, or the lead of a leading key. -/
def consumedPrefix : List Token → Text
  | .literal text :: .key key :: _ => escapeSource text ++ escapeSource key.lead
  | .literal text :: _ => escapeSource text
  | .key key :: _ => escapeSource key.lead
  | _ => []

end NestedRouting
