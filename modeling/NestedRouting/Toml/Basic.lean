/-!
# TOML values

What a TOML document holds. Of numbers with a fraction and of dates only the kind is kept.
-/

namespace NestedRouting

/-- A value of a TOML document. -/
inductive Toml
  | string (s : String)
  | integer (i : Int)
  | float
  | bool (b : Bool)
  | datetime
  | array (items : List Toml)
  | table (entries : List (String × Toml))

namespace Toml

instance : Inhabited Toml := ⟨table []⟩

/-- The value of a key of a table. -/
def entry? (t : Toml) (key : String) : Option Toml :=
  match t with
  | table entries => entries.lookup key
  | _ => none

end Toml

end NestedRouting
