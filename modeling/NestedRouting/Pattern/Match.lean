import NestedRouting.Params
import NestedRouting.Pattern.Compiled
import NestedRouting.Regex.Search

/-!
# Matching paths

`Pattern.exec` matches a path. The match reports the text taken up by the route (and by a delimiter
at the end), what each key captured, and the parameters: the captured texts that are not empty, by
the names of their keys.
-/

namespace NestedRouting

/-- A successful match. -/
structure Match where
  /-- The matched text, then what each key captured; nothing for a key that took no part. -/
  captures : List (Option Text)
  /-- Where the matched text starts, as a byte offset. -/
  index : Nat
  /-- The path. -/
  input : Text
  params : Params
  /-- The static text that routes below write their patterns behind. -/
  consumed : Text
  deriving DecidableEq

namespace Match

/-- The matched text. -/
def matched (m : Match) : Text := (m.captures.head?.bind id).getD []

/-- What is left of the path behind the matched text. -/
def remainder (m : Match) : Text := m.input.dropBytes (m.index + m.matched.byteLength)

end Match

namespace Pattern

/-- The parameters of keys that captured the given values. -/
def paramsOf (keys : List Key) (values : List (Option Text)) : Params :=
  .ofList ((keys.zip values).filterMap fun (key, value) =>
    (value.filter (!·.isEmpty)).map fun v => (key.name, v))

/-- The match that a way through the recognizer reports. -/
def report (p : Pattern) (path : Text) (w : Way) : Match :=
  let groups := p.recognizer.groups
  let stop? := fun name => do w.noted? (← Regex.groupNamed? groups name) true
  let text? := fun name => do w.text? path (← Regex.groupNamed? groups name)
  let routeEnd := (stop? routeGroup).getD 0
  let fullEnd := (stop? trailGroup).getD routeEnd
  let values := p.keyGroups.map text?
  { captures := some (path.take fullEnd) :: values
    index := 0
    input := path
    params := paramsOf p.keys values
    consumed := p.consumed }

/-- Matches a path. -/
def exec (p : Pattern) (path : Text) : Option Match :=
  (p.recognizer.search path).map (p.report path)

/-- Whether a path matches. -/
def isMatch (p : Pattern) (path : Text) : Bool := p.recognizer.isMatch path

end Pattern

end NestedRouting
