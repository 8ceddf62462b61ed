/-!
# Data

Structured values, as they accompany navigations and as views of a route tree: JSON values. A number
is kept as it is written, so that it is shown as it was given.
-/

namespace NestedRouting

/-- A structured value. The fields of an object stand in the order in which they are shown. -/
inductive Data
  | null
  | bool (b : Bool)
  | number (literal : String)
  | string (s : String)
  | array (items : List Data)
  | object (fields : List (String × Data))
  deriving Repr

namespace Data

instance : Inhabited Data := ⟨null⟩

/-- A natural number. -/
def ofNat (n : Nat) : Data := number (toString n)

/-- The text of a list of characters. -/
def ofText (s : List Char) : Data := string (String.ofList s)

/-- A value, or null. -/
def ofOption {α : Type} (f : α → Data) : Option α → Data
  | none => null
  | some a => f a

/-- The items of a list. -/
def ofList {α : Type} (f : α → Data) (xs : List α) : Data := array (xs.map f)

/-- The value of a field; of two fields with one name the later counts. -/
def field? (d : Data) (name : String) : Option Data :=
  match d with
  | object fields => fields.reverse.lookup name
  | _ => none

/-- The value of a field, unless it is missing or null. -/
def present? (d : Data) (name : String) : Option Data :=
  (d.field? name).filter fun v => match v with
    | null => false
    | _ => true

end Data

end NestedRouting
