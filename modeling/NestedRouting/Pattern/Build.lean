import NestedRouting.Params
import NestedRouting.Pattern.Compiled
import NestedRouting.Regex.Search

/-!
# Building paths

`Pattern.build` writes the path of a pattern with given parameters: literals as they are, groups
once unless they may be absent, keys with the text around them. A key without a value is left out if
it may be absent; a value must be accepted by its key.
-/

namespace NestedRouting

/-- Why a path cannot be built. -/
inductive BuildError
  | missing (name : Text)
  | invalid (name value pattern : Text)
  deriving DecidableEq, Repr

/-- The wording of an error. -/
def BuildError.message : BuildError → String
  | missing name => s!"missing required parameter \"{String.ofList name}\""
  | invalid name value pattern =>
    "parameter \"" ++ String.ofList name ++ "\" value \"" ++ String.ofList value ++
      "\" does not match \x60" ++ String.ofList pattern ++ "\x60"

/-- What a key contributes to a path; `validator` accepts its values. -/
def Key.build (key : Key) (params : Params) (validator : Option Regex) : Except BuildError Text :=
  match params.get? key.name with
  | none => if key.modifier.isOptional then .ok [] else .error (.missing key.name)
  | some value =>
    if validator.any (·.isMatch value) then .ok (key.lead ++ value ++ key.tail)
    else .error (.invalid key.name value key.pattern)

/-- The path of tokens; the validators are those of the keys among them. -/
def buildTokens (params : Params) : List Token → List Regex → Except BuildError Text
  | [], _ => .ok []
  | .literal text :: tokens, validators => do
    let rest ← buildTokens params tokens validators
    return text ++ rest
  | .group text modifier :: tokens, validators => do
    let rest ← buildTokens params tokens validators
    return (if modifier.isOptional then [] else text) ++ rest
  | .key key :: tokens, validators => do
    let first ← key.build params validators.head?
    let rest ← buildTokens params tokens validators.tail
    return first ++ rest

/-- The path of a pattern with the given parameters. -/
def Pattern.build (p : Pattern) (params : Params) : Except BuildError Text :=
  buildTokens params p.tokens p.validators

end NestedRouting
