import NestedRouting.Pattern.Match

/-!
# A cache of compiled patterns

A `Cache` keeps what it has compiled, so that a pattern is compiled once. Each compilation that
succeeds has a serial number, by which a caller can tell that it was given the same pattern again.
-/

namespace NestedRouting

/-- A compiled pattern and its serial number. -/
structure Cached where
  serial : Nat
  pattern : Pattern

/-- Patterns compiled under the same options, by their source. -/
structure Cache where
  options : Options
  entries : List (Text × Cached)
  /-- How many compilations have succeeded. -/
  compiled : Nat

namespace Cache

/-- A cache without patterns. -/
def empty (options : Options) : Cache := ⟨options, [], 0⟩

/-- The number of patterns. -/
def size (c : Cache) : Nat := c.entries.length

/-- Forgets all patterns. -/
def clear (c : Cache) : Cache := { c with entries := [] }

/-- Compiles a pattern unless the cache has it. -/
def compile (c : Cache) (source : Text) : Except SyntaxError Cached × Cache :=
  match c.entries.lookup source with
  | some cached => (.ok cached, c)
  | none =>
    match Pattern.compile c.options source with
    | .error e => (.error e, c)
    | .ok pattern =>
      let cached := ⟨c.compiled, pattern⟩
      (.ok cached,
        { c with entries := (source, cached) :: c.entries, compiled := c.compiled + 1 })

/-- Matches a path against a pattern. -/
def exec (c : Cache) (source path : Text) : Except SyntaxError (Option Match) × Cache :=
  let (r, c) := c.compile source
  (r.map fun cached => cached.pattern.exec path, c)

end Cache

end NestedRouting
