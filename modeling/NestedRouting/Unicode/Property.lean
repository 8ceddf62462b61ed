import NestedRouting.Unicode.Category
import NestedRouting.Unicode.Script
import NestedRouting.Unicode.Binary
import NestedRouting.Unicode.Enumerated

/-!
# Properties by name

A `Property` is a set of code points that can be named: by a bare name (a binary property, a general
category or a script), or by a property and one of its values. Names are compared in their loose
spelling. Properties are those of version 16.0 of the standard. The three classes that have a
shorthand of their own are `isWord`, `isDigit` and `isSpace`; each is decided without a table for
ASCII.
-/

namespace NestedRouting.Unicode

/-- A named set of code points. -/
inductive Property
  | any
  | assigned
  | ascii
  | category (members : List Category)
  | binary (table : RunTable)
  | script (number : Nat)
  | extension (script : Nat)
  | age (latest : Nat)
  | segment (of : Enumerated) (value : Nat)

namespace Property

/-- Whether a character has the property. -/
def holds : Property → Char → Bool
  | any, _ => true
  | assigned, c => Category.of c != .unassigned
  | ascii, c => c.toNat < 128
  | category members, c => members.contains (Category.of c)
  | binary table, c => table.holds c
  | script number, c => Script.of c == number
  | extension number, c => (Script.extensions c).contains number
  | age latest, c => Enumerated.age.table.value c ≤ latest
  | segment p value, c => p.table.value c == value

/-- The set of general categories with a loose name. -/
private def categories? (name : String) : Option Property :=
  match name with
  | "any" => some any
  | "assigned" => some assigned
  | "ascii" => some ascii
  | _ => (Category.named.find? (·.1.contains name)).map (.category ·.2)

/-- The property with a bare name: a binary property, categories or a script. -/
def ofName? (name : String) : Option Property :=
  let name := looseName name
  ((Binary.named.find? (·.1.contains name)).map fun p => .binary p.2) <|> categories? name <|>
    (Script.ofName? name).map .script

/-- The set of the characters whose property `name` has the value `value`. -/
def ofValue? (name value : String) : Option Property :=
  let value := looseName value
  match looseName name with
  | "gc" | "generalcategory" => categories? value
  | "sc" | "script" => (Script.ofName? value).map .script
  | "scx" | "scriptextensions" => (Script.ofName? value).map .extension
  | "age" => (Enumerated.age.value? value).map .age
  | "gcb" | "graphemeclusterbreak" => (Enumerated.cluster.value? value).map (.segment .cluster)
  | "wb" | "wordbreak" => (Enumerated.word.value? value).map (.segment .word)
  | "sb" | "sentencebreak" => (Enumerated.sentence.value? value).map (.segment .sentence)
  | _ => none

end Property

/-- Whether a character is a decimal digit of some script. -/
def isDigit (c : Char) : Bool :=
  if c.toNat < 128 then c.isDigit else Category.of c == .decimalNumber

/-- Whether a character is white space. -/
def isSpace (c : Char) : Bool :=
  if c.toNat < 128 then c == ' ' || (9 ≤ c.toNat && c.toNat ≤ 13) else Binary.whiteSpace.holds c

/-- Whether a character belongs to words: letters, marks, decimal digits, connectors and joiners. -/
def isWord (c : Char) : Bool :=
  if c.toNat < 128 then c.isAlphanum || c == '_'
  else
    let category := Category.of c
    Binary.alphabetic.holds c || Category.marks.contains category || category == .decimalNumber ||
      category == .connectorPunctuation || Binary.joinControl.holds c

end NestedRouting.Unicode
