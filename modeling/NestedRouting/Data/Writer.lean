import NestedRouting.Data.Basic

/-!
# Writing data

`Data.render` writes a value as JSON text without spaces. Quotes, backslashes and control characters
of strings are escaped.
-/

namespace NestedRouting.Data

/-- Four hexadecimal digits. -/
def hexUnit (n : Nat) : List Char :=
  [n / 4096 % 16, n / 256 % 16, n / 16 % 16, n % 16].map Nat.digitChar

/-- How a character is written in a string. -/
def escapeChar (c : Char) : List Char :=
  if c = '"' ∨ c = '\\' then ['\\', c]
  else if c = '\n' then ['\\', 'n']
  else if c = '\r' then ['\\', 'r']
  else if c = '\t' then ['\\', 't']
  else if c.toNat < 32 then '\\' :: 'u' :: hexUnit c.toNat
  else [c]

/-- A string between quotes. -/
def renderString (s : String) : String :=
  "\"" ++ String.ofList (s.toList.flatMap escapeChar) ++ "\""

mutual

/-- The JSON text of a value. -/
def render : Data → String
  | null => "null"
  | bool true => "true"
  | bool false => "false"
  | number literal => literal
  | string s => renderString s
  | array items => "[" ++ ",".intercalate (renderItems items) ++ "]"
  | object fields => "\x7b" ++ ",".intercalate (renderFields fields) ++ "\x7d"

/-- The JSON texts of values. -/
def renderItems : List Data → List String
  | [] => []
  | d :: ds => render d :: renderItems ds

/-- The JSON texts of fields. -/
def renderFields : List (String × Data) → List String
  | [] => []
  | (name, d) :: fields => (renderString name ++ ":" ++ render d) :: renderFields fields

end

end NestedRouting.Data
