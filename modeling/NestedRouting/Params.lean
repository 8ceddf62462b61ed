import NestedRouting.Text.Basic

/-!
# Route parameters

A finite map from parameter names to captured values. Each name has one value, which the type
keeps as an invariant. A look-up after an insertion is `Params.get?_insert`.
-/

namespace NestedRouting

/-- Parameter values by name, the latest inserted first; no name occurs twice. -/
structure Params where
  entries : List (Text × Text)
  nodup : (entries.map Prod.fst).Nodup
  deriving DecidableEq

namespace Params

/-- No parameters. -/
def empty : Params := ⟨[], List.nodup_nil⟩

instance : EmptyCollection Params := ⟨empty⟩

instance : Inhabited Params := ⟨empty⟩

/-- The value of a name. -/
def get? (ps : Params) (name : Text) : Option Text :=
  (ps.entries.find? (·.1 = name)).map Prod.snd

/-- Whether a name has a value. -/
def contains (ps : Params) (name : Text) : Bool := ps.entries.any (·.1 = name)

/-- The names that have a value. -/
def names (ps : Params) : List Text := ps.entries.map Prod.fst

/-- The number of names. -/
def size (ps : Params) : Nat := ps.entries.length

/-- Whether there are no parameters. -/
def isEmpty (ps : Params) : Bool := ps.entries.isEmpty

/-- Gives `name` a value, in place of the one it had. -/
def insert (ps : Params) (name value : Text) : Params where
  entries := (name, value) :: ps.entries.filter (·.1 ≠ name)
  nodup := by
    rw [List.map_cons, List.nodup_cons]
    refine ⟨?_, ps.nodup.sublist (List.filter_sublist.map Prod.fst)⟩
    simp

/-- The map that holds the given pairs; of two pairs with one name the later wins. -/
def ofList (pairs : List (Text × Text)) : Params :=
  pairs.foldl (fun ps p => ps.insert p.1 p.2) empty

/-- A parameter that is inserted is found under its name, and the others as before. -/
theorem get?_insert (ps : Params) (name value other : Text) :
    (ps.insert name value).get? other = if name = other then some value else ps.get? other := by
  by_cases h : name = other
  · subst h; simp [get?, insert]
  · have hsame : (ps.entries.filter (·.1 ≠ name)).find? (·.1 = other) =
        ps.entries.find? (·.1 = other) := by
      rw [List.find?_filter]
      congr 1
      funext p
      by_cases hp : p.1 = other
      · simp [hp, Ne.symm h]
      · simp [hp]
    simp only [get?, insert, if_neg h]
    rw [List.find?_cons_of_neg (by simpa using h), hsame]

end Params

end NestedRouting
