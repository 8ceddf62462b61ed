import NestedRouting.Toml.Basic

/-!
# Reading TOML values

Readers for the parts of a TOML document that stand on a line: keys, strings, numbers, dates, arrays
and inline tables. Each takes the characters at the front and gives what it read with what follows.
How a key with dots enters a table is told by `Fields`, which document tables share.
-/

namespace NestedRouting.Toml

/-! ## Blanks -/

/-- What follows spaces and tabs. -/
def skipBlank (s : List Char) : List Char := s.dropWhile fun c => c == ' ' || c == '\t'

/-- What follows the end of a line. -/
def takeNewline? : List Char → Option (List Char)
  | '\n' :: s => some s
  | '\r' :: '\n' :: s => some s
  | _ => none

/-- Whether a character may stand in comments: all but control characters other than tabs. -/
def isPlain (c : Char) : Bool := c == '\t' || (32 ≤ c.toNat && c.toNat != 127)

/-- What follows a comment, if there is one. -/
def skipComment : List Char → List Char
  | '#' :: s => s.dropWhile isPlain
  | s => s

/-- What follows blanks and a comment up to the end of the line, or the end of the text. -/
def takeLineEnd? (s : List Char) : Option (List Char) :=
  match skipComment (skipBlank s) with
  | [] => some []
  | s => takeNewline? s

/-- What follows blanks, comments and line ends; the first argument bounds the number of lines. -/
def skipLines : Nat → List Char → List Char
  | 0, s => s
  | fuel + 1, s =>
    let s := skipBlank s
    match takeNewline? (skipComment s) with
    | some rest => skipLines fuel rest
    | none => s

/-- What follows blanks, comments and line ends. -/
def skipSpace (s : List Char) : List Char := skipLines (s.length + 1) s

/-! ## Strings -/

/-- The number that hexadecimal digits write. -/
def hexNumeral? (digits : List Char) : Option Nat :=
  digits.foldlM (fun n c =>
    if c.isDigit then some (n * 16 + (c.toNat - '0'.toNat))
    else if 'a' ≤ c && c ≤ 'f' then some (n * 16 + (c.toNat - 'a'.toNat + 10))
    else if 'A' ≤ c && c ≤ 'F' then some (n * 16 + (c.toNat - 'A'.toNat + 10))
    else none) 0

/-- The character whose code point `digits` hexadecimal digits at the front write. -/
def takeCode? (digits : Nat) (s : List Char) : Option (Char × List Char) := do
  let code ← if s.length < digits then none else hexNumeral? (s.take digits)
  if code < 0xD800 || (0xDFFF < code && code < 0x110000) then
    return (Char.ofNat code, s.drop digits)
  else none

/-- The character that an escape stands for, behind its backslash. -/
def takeEscape? : List Char → Option (Char × List Char)
  | '"' :: s => some ('"', s)
  | '\\' :: s => some ('\\', s)
  | 'b' :: s => some ('\x08', s)
  | 'f' :: s => some ('\x0c', s)
  | 'n' :: s => some ('\n', s)
  | 'r' :: s => some ('\r', s)
  | 't' :: s => some ('\t', s)
  | 'u' :: s => takeCode? 4 s
  | 'U' :: s => takeCode? 8 s
  | _ => none

/-- Puts a character in front of what was read. -/
def cons (c : Char) (r : Option (List Char × List Char)) : Option (List Char × List Char) :=
  r.map fun (t, rest) => (c :: t, rest)

/-- Reads a string on one line behind its opening quote; `escapes` tells whether a backslash starts an
escape. The first argument bounds the length. -/
def readLine (quote : Char) (escapes : Bool) : Nat → List Char → Option (List Char × List Char)
  | 0, _ => none
  | _, [] => none
  | fuel + 1, c :: s =>
    if c = quote then some ([], s)
    else if escapes && c == '\\' then
      match takeEscape? s with
      | some (e, rest) => cons e (readLine quote escapes fuel rest)
      | none => none
    else if isPlain c then cons c (readLine quote escapes fuel s)
    else none

/-- What follows blanks and line ends. -/
def skipEmptyLines : List Char → List Char
  | ' ' :: s => skipEmptyLines s
  | '\t' :: s => skipEmptyLines s
  | '\n' :: s => skipEmptyLines s
  | '\r' :: '\n' :: s => skipEmptyLines s
  | s => s

/-- What follows the blanks and line ends behind a backslash at the end of a line. -/
def skipContinuation? (s : List Char) : Option (List Char) :=
  (takeNewline? (skipBlank s)).map skipEmptyLines

/-- Reads a string of several lines behind its three opening quotes. Up to two quotes may stand right
in front of the three that close it. The first argument bounds the length. -/
def readLines (quote : Char) (escapes : Bool) : Nat → List Char → Option (List Char × List Char)
  | 0, _ => none
  | _, [] => none
  | fuel + 1, c :: s =>
    if c = quote then
      let quotes := (c :: s).takeWhile (· == quote)
      let rest := (c :: s).dropWhile (· == quote)
      let inside := if quotes.length < 3 then quotes.length else min (quotes.length - 3) 2
      if quotes.length < 3 then
        (readLines quote escapes fuel rest).map fun (t, rest) => (quotes ++ t, rest)
      else some (quotes.take inside, (c :: s).drop (inside + 3))
    else if escapes && c == '\\' then
      match skipContinuation? s with
      | some rest => readLines quote escapes fuel rest
      | none =>
        match takeEscape? s with
        | some (e, rest) => cons e (readLines quote escapes fuel rest)
        | none => none
    else
      match takeNewline? (c :: s) with
      | some rest => cons '\n' (readLines quote escapes fuel rest)
      | none => if isPlain c then cons c (readLines quote escapes fuel s) else none

/-- Reads a string on one line. -/
def readShort? (s : List Char) : Option (String × List Char) :=
  let read := match s with
    | '"' :: s => readLine '"' true (s.length + 1) s
    | '\x27' :: s => readLine '\x27' false (s.length + 1) s
    | _ => none
  read.map fun (t, rest) => (String.ofList t, rest)

/-- Reads a string. -/
def readString? (s : List Char) : Option (String × List Char) :=
  let long := fun quote escapes (s : List Char) =>
    let s := (takeNewline? s).getD s
    (readLines quote escapes (s.length + 1) s).map fun (t, rest) => (String.ofList t, rest)
  match s with
  | '"' :: '"' :: '"' :: s => long '"' true s
  | '\x27' :: '\x27' :: '\x27' :: s => long '\x27' false s
  | s => readShort? s

/-! ## Keys -/

/-- How deeply values, and the tables of a key, may be nested. -/
def nestLimit : Nat := 80

/-- Reads a key without dots. -/
def readSimpleKey? (s : List Char) : Option (String × List Char) :=
  match s with
  | '"' :: _ | '\x27' :: _ => readShort? s
  | s =>
    let inKey := fun c : Char => c.isAlphanum || c == '-' || c == '_'
    let name := s.takeWhile inKey
    if name.isEmpty then none else some (String.ofList name, s.dropWhile inKey)

/-- Reads the parts of a key with dots; the first argument bounds their number. -/
def readParts? : Nat → List Char → Option (List String × List Char)
  | 0, _ => none
  | fuel + 1, s => do
    let (name, rest) ← readSimpleKey? (skipBlank s)
    match skipBlank rest with
    | '.' :: rest =>
      let (names, rest) ← readParts? fuel rest
      return (name :: names, rest)
    | rest => return ([name], rest)

/-- Reads a key: the tables it goes through, and the last part. -/
def readKey? (s : List Char) : Option (List String × String × List Char) := do
  let (names, rest) ← readParts? (nestLimit - 1) s
  let last ← names.getLast?
  return (names.dropLast, last, rest)

/-! ## Numbers and dates -/

/-- The digits at the front, between which single underscores may stand, and what follows them. -/
def takeRun (p : Char → Bool) : List Char → List Char × List Char
  | [] => ([], [])
  | c :: s =>
    if p c then
      let (t, rest) := takeRun p s
      (c :: t, rest)
    else if c == '_' && s.head?.any p then takeRun p s
    else ([], c :: s)

/-- Digits at the front, of which there is at least one. -/
def takeDigits? (p : Char → Bool) (s : List Char) : Option (List Char × List Char) :=
  if s.head?.any p then some (takeRun p s) else none

/-- The sign at the front: whether it is negative. -/
def takeSign : List Char → Bool × List Char
  | '-' :: s => (true, s)
  | '+' :: s => (false, s)
  | s => (false, s)

/-- A decimal integer without superfluous zeros: whether it is negative, and its digits. -/
def takeDecimal? (s : List Char) : Option (Bool × List Char × List Char) :=
  let (negative, s) := takeSign s
  match s with
  | '0' :: rest => some (negative, ['0'], rest)
  | s => (takeDigits? Char.isDigit s).map fun (digits, rest) => (negative, digits, rest)

/-- The number that digits of a base write. -/
def numeral (base : Nat) (digits : List Char) : Nat :=
  digits.foldl
    (fun n c =>
      n * base + (if c.isDigit then c.toNat - '0'.toNat else c.toLower.toNat - 'a'.toNat + 10)) 0

/-- An integer, if a 64-bit word can hold it. -/
def word? (negative : Bool) (size : Nat) : Option Toml :=
  let half := 0x8000000000000000
  if size < half || (negative && size == half) then
    some (integer (if negative then -(size : Int) else size))
  else none

/-- Reads an integer in base 16, 8 or 2 behind its mark, or a decimal one. -/
def readInteger? (s : List Char) : Option (Toml × List Char) :=
  let based := fun base p s => do
    let (digits, rest) ← takeDigits? p s
    let i ← word? false (numeral base digits)
    return (i, rest)
  match s with
  | '0' :: 'x' :: s =>
    based 16 (fun c => c.isDigit || ('a' ≤ c && c ≤ 'f') || ('A' ≤ c && c ≤ 'F')) s
  | '0' :: 'o' :: s => based 8 (fun c => '0' ≤ c && c ≤ '7') s
  | '0' :: 'b' :: s => based 2 (fun c => c == '0' || c == '1') s
  | s => do
    let (negative, digits, rest) ← takeDecimal? s
    let i ← word? negative (numeral 10 digits)
    return (i, rest)

/-- Reads an exponent: whether it is negative, and its size. -/
def takeExponent? : List Char → Option (Bool × Nat × List Char)
  | e :: s =>
    if e == 'e' || e == 'E' then
      let (negative, s) := takeSign s
      (takeDigits? Char.isDigit s).map fun (digits, rest) => (negative, numeral 10 digits, rest)
    else none
  | [] => none

/-- Whether a decimal fraction rounds to infinity as a 64-bit float: it is at least half a unit above
the largest one. Its value is `size` times ten to the power of the exponent less `places`. -/
def overflows (size places : Nat) (negativeExponent : Bool) (exponent : Nat) : Bool :=
  let bound := Nat.pow 2 1024 - Nat.pow 2 970
  let digits := (Nat.toDigits 10 size).length
  let up := if negativeExponent then 0 else exponent
  let down := places + (if negativeExponent then exponent else 0)
  if size == 0 || digits + up < 300 + down then false
  else if 310 + down < digits + up then true
  else bound * Nat.pow 10 (down - up) ≤ size * Nat.pow 10 (up - down)

/-- Reads a number with a fraction or an exponent, infinity, or the value that is not a number. -/
def readFloat? (s : List Char) : Option (Toml × List Char) :=
  match (takeSign s).2 with
  | 'i' :: 'n' :: 'f' :: rest | 'n' :: 'a' :: 'n' :: rest => some (float, rest)
  | _ => do
    let (negative, whole, rest) ← takeDecimal? s
    let (fraction, rest) ← match rest with
      | '.' :: rest => takeDigits? Char.isDigit rest
      | rest => if (takeExponent? rest).isSome then some ([], rest) else none
    let (negativeExponent, exponent, rest) := (takeExponent? rest).getD (false, 0, rest)
    let size := numeral 10 (whole ++ fraction)
    if !negative && overflows size fraction.length negativeExponent exponent then none
    else return (float, rest)

/-- Reads a number of exactly `digits` digits from `least` to `most`. -/
def readField? (digits least most : Nat) (s : List Char) : Option (Nat × List Char) :=
  let t := s.take digits
  let n := numeral 10 t
  if t.length = digits ∧ t.all Char.isDigit ∧ least ≤ n ∧ n ≤ most then some (n, s.drop digits)
  else none

/-- What follows a given character. -/
def takeChar? (c : Char) : List Char → Option (List Char)
  | d :: s => if c = d then some s else none
  | [] => none

/-- The number of days of a month. -/
def daysOf (year month : Nat) : Nat :=
  if month = 2 then
    if year % 4 = 0 ∧ (year % 100 ≠ 0 ∨ year % 400 = 0) then 29 else 28
  else if month = 4 ∨ month = 6 ∨ month = 9 ∨ month = 11 then 30
  else 31

/-- What follows a date. -/
def takeDate? (s : List Char) : Option (List Char) := do
  let (year, s) ← readField? 4 0 9999 s
  let s ← takeChar? '-' s
  let (month, s) ← readField? 2 1 12 s
  let s ← takeChar? '-' s
  let (_, s) ← readField? 2 1 (daysOf year month) s
  return s

/-- What follows a time of day. -/
def takeTime? (s : List Char) : Option (List Char) := do
  let (_, s) ← readField? 2 0 23 s
  let s ← takeChar? ':' s
  let (_, s) ← readField? 2 0 59 s
  let s ← takeChar? ':' s
  let (_, s) ← readField? 2 0 60 s
  match s with
  | '.' :: t => if t.head?.any Char.isDigit then return t.dropWhile Char.isDigit else return s
  | s => return s

/-- What follows the offset of a time zone. -/
def takeOffset? : List Char → Option (List Char)
  | 'Z' :: s | 'z' :: s => some s
  | '+' :: s | '-' :: s => do
    let (_, s) ← readField? 2 0 23 s
    let s ← takeChar? ':' s
    let (_, s) ← readField? 2 0 59 s
    return s
  | _ => none

/-- Reads a date, a time, or both with or without the offset of a time zone. -/
def readDatetime? (s : List Char) : Option (Toml × List Char) :=
  match takeDate? s with
  | none => (takeTime? s).map fun rest => (datetime, rest)
  | some rest =>
    let timed := match rest with
      | 'T' :: t | 't' :: t | ' ' :: t => takeTime? t
      | _ => none
    match timed with
    | none => some (datetime, rest)
    | some rest => some (datetime, (takeOffset? rest).getD rest)

/-! ## Tables -/

/-- A table while it is filled: whether it has been mentioned only as a part of longer keys or
headers, and whether those were keys with dots. -/
structure Standing where
  implicit : Bool
  dotted : Bool
  deriving DecidableEq, Repr

/-- A value of a table that is being filled: one that is complete, a table, or a list of tables of
which the last is still open. -/
inductive Field
  | value (v : Toml)
  | table (standing : Standing) (entries : List (String × Field))
  | tables (items : List (List (String × Field)))

/-- The entries of a table that is being filled. -/
abbrev Fields := List (String × Field)

mutual

/-- A field as a value. -/
def Field.toml : Field → Toml
  | .value v => v
  | .table _ entries => .table (tomlEntries entries)
  | .tables items => .array (tomlTables items)

/-- Entries as values. -/
def tomlEntries : List (String × Field) → List (String × Toml)
  | [] => []
  | (key, f) :: fs => (key, f.toml) :: tomlEntries fs

/-- Tables as values. -/
def tomlTables : List (List (String × Field)) → List Toml
  | [] => []
  | fs :: rest => .table (tomlEntries fs) :: tomlTables rest

end

/-- Puts a field in the place of the one with its key, or at the end. -/
def Fields.put (fs : Fields) (key : String) (f : Field) : Fields :=
  if fs.any (·.1 == key) then fs.map fun p => if p.1 == key then (key, f) else p
  else fs ++ [(key, f)]

/-- Changes the table at the end of a path, and gives what the change gives. Tables on the way that do
not exist are created: `dotted` tells whether a key with dots leads there, which cannot pass tables
that have a header. -/
def Fields.update {α : Type} (dotted : Bool) (f : Standing → Fields → Option (Fields × α)) :
    List String → Standing → Fields → Option (Fields × α)
  | [], standing, fs => f standing fs
  | key :: path, _, fs =>
    match fs.lookup key with
    | none => do
      let (inner, a) ← Fields.update dotted f path ⟨true, dotted⟩ []
      return (fs.put key (.table ⟨true, dotted⟩ inner), a)
    | some (.value _) => none
    | some (.table standing entries) =>
      if dotted && !standing.implicit then none
      else do
        let (inner, a) ← Fields.update dotted f path standing entries
        return (fs.put key (.table standing inner), a)
    | some (.tables items) =>
      match items.getLast? with
      | none => none
      | some entries => do
        let (inner, a) ← Fields.update dotted f path ⟨false, false⟩ entries
        return (fs.put key (.tables (items.dropLast ++ [inner])), a)

/-- Adds the value of a key with dots. A table takes either keys or keys with dots, and a key only
once. -/
def Fields.insert (fs : Fields) (path : List String) (key : String) (v : Toml) : Option Fields :=
  (Fields.update true (fun standing fs =>
    if standing.dotted == path.isEmpty || (fs.lookup key).isSome then none
    else some (fs ++ [(key, .value v)], ())) path ⟨false, false⟩ fs).map Prod.fst

/-! ## Values -/

mutual

/-- Reads a value inside of `depth` others; the first argument bounds the number of values. -/
def readValue : Nat → Nat → List Char → Option (Toml × List Char)
  | 0, _, _ => none
  | fuel + 1, depth, s =>
    match s with
    | '"' :: _ | '\x27' :: _ => (readString? s).map fun (t, rest) => (string t, rest)
    | '[' :: s =>
      if depth + 1 < nestLimit then
        match skipSpace s with
        | ']' :: rest => some (array [], rest)
        | s => (readItems fuel (depth + 1) s).map fun (items, rest) => (array items, rest)
      else none
    | '\x7b' :: s =>
      if depth + 1 < nestLimit then
        match skipBlank s with
        | '\x7d' :: rest => some (table [], rest)
        | s => (readFields fuel (depth + 1) [] s).map fun (fs, rest) =>
            (table (tomlEntries fs), rest)
      else none
    | 't' :: 'r' :: 'u' :: 'e' :: rest => some (bool true, rest)
    | 'f' :: 'a' :: 'l' :: 's' :: 'e' :: rest => some (bool false, rest)
    | s => readDatetime? s <|> readFloat? s <|> readInteger? s

/-- Reads the items of an array and the bracket behind them. -/
def readItems : Nat → Nat → List Char → Option (List Toml × List Char)
  | 0, _, _ => none
  | fuel + 1, depth, s => do
    let (v, rest) ← readValue fuel depth s
    match skipSpace rest with
    | ']' :: rest => return ([v], rest)
    | ',' :: rest =>
      match skipSpace rest with
      | ']' :: rest => return ([v], rest)
      | rest =>
        let (vs, rest) ← readItems fuel depth rest
        return (v :: vs, rest)
    | _ => none

/-- Reads the entries of an inline table and the brace behind them. -/
def readFields : Nat → Nat → Fields → List Char → Option (Fields × List Char)
  | 0, _, _, _ => none
  | fuel + 1, depth, fs, s => do
    let (path, key, rest) ← readKey? s
    let rest ← takeChar? '=' rest
    let (v, rest) ← readValue fuel depth (skipBlank rest)
    let fs ← fs.insert path key v
    match skipBlank rest with
    | '\x7d' :: rest => return (fs, rest)
    | ',' :: rest => readFields fuel depth fs rest
    | _ => none

end

end NestedRouting.Toml
