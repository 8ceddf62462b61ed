import NestedRouting.Pattern.Consumed
import NestedRouting.Pattern.Recognizer
import NestedRouting.Regex.Reader

/-!
# Compiled patterns

`Pattern.compile` parses a pattern and reads its recognizer and the validators of its keys. A
pattern is refused when the regular expressions of its keys add capturing groups to those that the
recognizer has by itself.
-/

namespace NestedRouting

/-- A pattern that is ready to match. -/
structure Pattern where
  source : Text
  options : Options
  tokens : List Token
  recognizerSource : Text
  recognizer : Regex
  /-- For each key, the expression of the values it accepts. -/
  validators : List Regex

/-- Reads a regular expression under the options of a pattern. -/
def readRegex (options : Options) (source : Text) : Except SyntaxError Regex :=
  match Regex.read (!options.sensitive) source with
  | some r => .ok r
  | none => .error (.invalidRegex source)

/-- The name of the group of the route. -/
def routeGroup : Text := "route".toList

/-- The name of the group of a delimiter at the end. -/
def trailGroup : Text := "trail".toList

/-- The number of groups that a recognizer of `keys` keys has: the whole match, the route, the keys,
and the delimiter at the end if it is there. -/
def expectedGroups (keys : Nat) (recognizer : Regex) : Nat :=
  2 + keys + (if (Regex.groupNamed? recognizer.groups trailGroup).isSome then 1 else 0)

namespace Pattern

/-- The keys from left to right. -/
def keys (p : Pattern) : List Key := keysOf p.tokens

/-- The names of the keys from left to right. -/
def paramNames (p : Pattern) : List Text := p.keys.map Key.name

/-- The static text that routes below this one write their patterns behind. -/
def consumed (p : Pattern) : Text := consumedPrefix p.tokens

/-- The names of the groups of the keys. -/
def keyGroups (p : Pattern) : List Text := (List.range p.keys.length).map keyGroup

/-- The number of groups of keys in the recognizer. -/
def captureCount (p : Pattern) : Nat :=
  (p.recognizer.groups.filter fun g => g.2.any p.keyGroups.contains).length

/-- Compiles the tokens of a pattern. -/
def ofTokens (options : Options) (source : Text) (tokens : List Token) :
    Except SyntaxError Pattern := do
  let recognizerSource ← NestedRouting.recognizerSource tokens options
  let recognizer ← readRegex options recognizerSource
  let keys := keysOf tokens
  if recognizer.lastGroup + 1 != expectedGroups keys.length recognizer then
    throw (.capturingGroup 0)
  let validators ← keys.mapM fun key => readRegex options (validatorSource key)
  return { source, options, tokens, recognizerSource, recognizer, validators }

/-- Compiles a pattern. -/
def compile (options : Options) (source : Text) : Except SyntaxError Pattern := do
  let tokens ← parse source
  ofTokens options source tokens

end Pattern

end NestedRouting
