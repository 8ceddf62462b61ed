import NestedRouting.Pattern.Parse

/-!
# The recognizer of a pattern

The regular expression that recognizes the paths of a pattern, as text. The group `route` frames
what the tokens match, each key has a group of its own (`k0`, `k1`, …), and unless matching is
strict the group `trail` takes one delimiter at the end of the path. What may follow the route
depends on the options and on how the pattern ends (`Tail`).
-/

namespace NestedRouting

/-- How a pattern is matched. -/
structure Options where
  /-- Whether case matters. -/
  sensitive : Bool := false
  /-- Whether a delimiter at the end must be written in the pattern. -/
  strict : Bool := false
  /-- Whether the whole path must match, and not only its first segments. -/
  whole : Bool := false
  deriving DecidableEq, Repr

instance : Inhabited Options := ⟨{}⟩

/-- The characters that a regular expression must escape to mean themselves. -/
def isRegexSpecial (c : Char) : Bool :=
  c == '\\' || c == '.' || c == '+' || c == '*' || c == '?' || c == '(' || c == ')' || c == '|' ||
    c == '[' || c == ']' || c == '\x7b' || c == '\x7d' || c == '^' || c == '$' || c == '#' ||
    c == '&' || c == '-' || c == '~'

/-- The regular expression that matches a text. -/
def escapeRegex (s : Text) : Text :=
  s.flatMap fun c => if isRegexSpecial c then ['\\', c] else [c]

/-- The name of the group of the key with a number. -/
def keyGroup (number : Nat) : Text := 'k' :: Text.ofNat number

/-- The regular expression of a key. A key that repeats captures all its occurrences together, from
the first value to the last, and needs fixed text around it to separate them. -/
def keySource (number : Nat) (key : Key) : Except SyntaxError Text :=
  let lead := escapeRegex key.lead
  let tail := escapeRegex key.tail
  let group := "(?P<".toList ++ keyGroup number ++ ">".toList
  let quantifier := key.modifier.text
  if lead.isEmpty && tail.isEmpty then
    if key.modifier.isRepeat then .error (.repeatWithoutAffix key.name)
    else .ok (group ++ key.pattern ++ ")".toList ++ quantifier)
  else if key.modifier.isRepeat then
    let value := "(?:".toList ++ key.pattern ++ ")".toList
    let more := "(?:".toList ++ tail ++ lead ++ value ++ ")*".toList
    let absent := if key.modifier.isOptional then "?".toList else []
    .ok ("(?:".toList ++ lead ++ group ++ value ++ more ++ ")".toList ++ tail ++ ")".toList ++ absent)
  else
    .ok ("(?:".toList ++ lead ++ group ++ key.pattern ++ ")".toList ++ tail ++ ")".toList ++
      quantifier)

/-- The regular expression of the tokens, when `number` keys come before them. -/
def routeSource (number : Nat) : List Token → Except SyntaxError Text
  | [] => .ok []
  | .literal text :: tokens => do
    let rest ← routeSource number tokens
    return escapeRegex text ++ rest
  | .group text modifier :: tokens => do
    let rest ← routeSource number tokens
    return "(?:".toList ++ escapeRegex text ++ ")".toList ++ modifier.text ++ rest
  | .key key :: tokens => do
    let first ← keySource number key
    let rest ← routeSource (number + 1) tokens
    return first ++ rest

/-- Whether a pattern is empty or ends with a literal that ends with a delimiter. -/
def endsWithDelimiter (tokens : List Token) : Bool :=
  match tokens.getLast? with
  | none => true
  | some (.literal text) => text.getLast?.any isDelimiter
  | some _ => false

/-- What may follow the route in a path. -/
inductive Tail
  /-- The end of the path. -/
  | pathEnd
  /-- Anything. -/
  | anything
  /-- A delimiter or the end of the path. -/
  | boundary
  deriving DecidableEq, Repr

/-- What may follow the route of a pattern. -/
def tailOf (tokens : List Token) (options : Options) : Tail :=
  if options.whole then .pathEnd
  else if endsWithDelimiter tokens then .anything
  else .boundary

/-- The regular expression of what follows the route. -/
def Tail.source (strict : Bool) : Tail → Text
  | pathEnd => (if strict then "$" else "(?P<trail>[/#?])?$").toList
  | anything => (if strict then "" else "(?:(?P<trail>[/#?])$)?").toList
  | boundary =>
    (if strict then "(?:[/#?]|$)" else "(?:(?P<trail>[/#?])$|[/#?]|$)").toList

/-- The regular expression of a pattern. -/
def recognizerSource (tokens : List Token) (options : Options) : Except SyntaxError Text := do
  let route ← routeSource 0 tokens
  return "^(?P<route>".toList ++ route ++ ")".toList ++ (tailOf tokens options).source options.strict

/-- The regular expression of the values that a key accepts. -/
def validatorSource (key : Key) : Text := "^(?:".toList ++ key.pattern ++ ")$".toList

end NestedRouting
