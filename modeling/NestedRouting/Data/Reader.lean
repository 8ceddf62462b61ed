import NestedRouting.Data.Basic

/-!
# Reading data

`Data.read` reads JSON text. An integer that no 64-bit word can hold is a decimal fraction, and so
is minus zero. Of two fields of one name the later counts.
-/

namespace NestedRouting.Data

/-- What follows white space. -/
def skipBlank (s : List Char) : List Char :=
  s.dropWhile fun c => c == ' ' || c == '\n' || c == '\r' || c == '\t'

/-- The value of a hexadecimal digit. -/
def hexValue? (c : Char) : Option Nat :=
  if c.isDigit then some (c.toNat - '0'.toNat)
  else if 'a' ≤ c && c ≤ 'f' then some (c.toNat - 'a'.toNat + 10)
  else if 'A' ≤ c && c ≤ 'F' then some (c.toNat - 'A'.toNat + 10)
  else none

/-- Four hexadecimal digits at the front. -/
def takeUnit : List Char → Option (Nat × List Char)
  | a :: b :: c :: d :: s => do
    let a ← hexValue? a
    let b ← hexValue? b
    let c ← hexValue? c
    let d ← hexValue? d
    return (((a * 16 + b) * 16 + c) * 16 + d, s)
  | _ => none

/-- A code unit takes at least one character. -/
theorem takeUnit_shorter {s rest : List Char} {n : Nat} (h : takeUnit s = some (n, rest)) :
    rest.length < s.length := by
  unfold takeUnit at h
  split at h
  · simp only [Option.bind_eq_bind, Option.bind_eq_some_iff, Option.pure_def, Option.some.injEq,
      Prod.mk.injEq] at h
    obtain ⟨_, _, _, _, _, _, _, _, _, rfl⟩ := h
    simp only [List.length_cons]
    omega
  · simp at h

/-- The character of an escape behind `\u`: one unit, or two that form a pair. -/
def takeScalar (s : List Char) : Option (Char × List Char) :=
  match takeUnit s with
  | none => none
  | some (high, rest) =>
    if 0xD800 ≤ high && high < 0xDC00 then
      match rest with
      | '\\' :: 'u' :: rest =>
        match takeUnit rest with
        | none => none
        | some (low, rest) =>
          if 0xDC00 ≤ low && low < 0xE000 then
            some (Char.ofNat (0x10000 + (high - 0xD800) * 0x400 + (low - 0xDC00)), rest)
          else none
      | _ => none
    else if 0xDC00 ≤ high && high < 0xE000 then none
    else some (Char.ofNat high, rest)

/-- An escaped character takes at least one character. -/
theorem takeScalar_shorter {s rest : List Char} {c : Char} (h : takeScalar s = some (c, rest)) :
    rest.length < s.length := by
  unfold takeScalar at h
  split at h
  · simp at h
  · next high _ hs =>
    have hfirst := takeUnit_shorter hs
    split at h
    · split at h
      · split at h
        · simp at h
        · next hlow =>
          have hsecond := takeUnit_shorter hlow
          split at h
          · obtain ⟨rfl, rfl⟩ := Prod.mk.injEq .. ▸ Option.some.inj h
            simp only [List.length_cons] at hfirst
            omega
          · simp at h
      · simp at h
    · split at h
      · simp at h
      · obtain ⟨rfl, rfl⟩ := Prod.mk.injEq .. ▸ Option.some.inj h
        exact hfirst

/-- Reads a string behind its opening quote; the characters read so far stand in reverse. -/
def readString (acc : List Char) (s : List Char) : Option (String × List Char) :=
  match s with
  | [] => none
  | '"' :: s => some (String.ofList acc.reverse, s)
  | '\\' :: 'u' :: s =>
    match hs : takeScalar s with
    | none => none
    | some (c, rest) =>
      have := takeScalar_shorter hs
      readString (c :: acc) rest
  | '\\' :: c :: s =>
    match c with
    | '"' | '\\' | '/' => readString (c :: acc) s
    | 'b' => readString ('\x08' :: acc) s
    | 'f' => readString ('\x0c' :: acc) s
    | 'n' => readString ('\n' :: acc) s
    | 'r' => readString ('\r' :: acc) s
    | 't' => readString ('\t' :: acc) s
    | _ => none
  | c :: s => if c.toNat < 32 then none else readString (c :: acc) s
termination_by s.length
decreasing_by all_goals simp only [List.length_cons]; omega

/-- A number as it is kept: an integer in the range of signed or unsigned 64-bit words as it is
written, any other number with a sign of being a fraction. -/
def keepNumber (literal : List Char) : Data :=
  if literal.any fun c => c == '.' || c == 'e' || c == 'E' then number (String.ofList literal)
  else
    let negative := literal.head? == some '-'
    let size := (literal.filter Char.isDigit).foldl (fun n c => n * 10 + (c.toNat - '0'.toNat)) 0
    let fits :=
      if negative then size != 0 && size ≤ 0x8000000000000000 else size < 0x10000000000000000
    number (String.ofList (if fits then literal else literal ++ ['e', '0']))

/-- Whether a text is a number. -/
def isNumber (s : List Char) : Bool :=
  let s := if s.head? == some '-' then s.tail else s
  let whole := s.takeWhile Char.isDigit
  let s := s.dropWhile Char.isDigit
  let wholeOk := !whole.isEmpty && (whole.length == 1 || whole.head? != some '0')
  let (fractionOk, s) := match s with
    | '.' :: s => (!(s.takeWhile Char.isDigit).isEmpty, s.dropWhile Char.isDigit)
    | s => (true, s)
  let exponentOk := match s with
    | [] => true
    | e :: s =>
      let s := if s.head? == some '+' || s.head? == some '-' then s.tail else s
      (e == 'e' || e == 'E') && !s.isEmpty && s.all Char.isDigit
  wholeOk && fractionOk && exponentOk

/-- Reads a number at the front. -/
def readNumber (s : List Char) : Option (Data × List Char) :=
  let inNumber := fun c : Char =>
    c.isDigit || c == '-' || c == '+' || c == '.' || c == 'e' || c == 'E'
  let literal := s.takeWhile inNumber
  if isNumber literal then some (keepNumber literal, s.dropWhile inNumber) else none

mutual

/-- Reads a value; the first argument bounds the number of values and separators. -/
def readValue : Nat → List Char → Option (Data × List Char)
  | 0, _ => none
  | fuel + 1, s =>
    match skipBlank s with
    | 'n' :: 'u' :: 'l' :: 'l' :: s => some (null, s)
    | 't' :: 'r' :: 'u' :: 'e' :: s => some (bool true, s)
    | 'f' :: 'a' :: 'l' :: 's' :: 'e' :: s => some (bool false, s)
    | '"' :: s => (readString [] s).map fun (t, s) => (string t, s)
    | '[' :: s =>
      match skipBlank s with
      | ']' :: s => some (array [], s)
      | s => (readItems fuel s).map fun (ds, s) => (array ds, s)
    | '\x7b' :: s =>
      match skipBlank s with
      | '\x7d' :: s => some (object [], s)
      | s => (readFields fuel s).map fun (ds, s) => (object ds, s)
    | s => readNumber s

/-- Reads the items of an array and the bracket behind them. -/
def readItems : Nat → List Char → Option (List Data × List Char)
  | 0, _ => none
  | fuel + 1, s => do
    let (d, s) ← readValue fuel s
    match skipBlank s with
    | ',' :: s =>
      let (ds, s) ← readItems fuel s
      return (d :: ds, s)
    | ']' :: s => return ([d], s)
    | _ => none

/-- Reads the fields of an object and the brace behind them. -/
def readFields : Nat → List Char → Option (List (String × Data) × List Char)
  | 0, _ => none
  | fuel + 1, s => do
    match skipBlank s with
    | '"' :: s =>
      let (name, s) ← readString [] s
      match skipBlank s with
      | ':' :: s =>
        let (d, s) ← readValue fuel s
        match skipBlank s with
        | ',' :: s =>
          let (fields, s) ← readFields fuel s
          return ((name, d) :: fields, s)
        | '\x7d' :: s => return ([(name, d)], s)
        | _ => none
      | _ => none
    | _ => none

end

/-- Reads a whole JSON text. -/
def read (s : String) : Option Data :=
  let chars := s.toList
  match readValue (chars.length + 1) chars with
  | some (d, rest) => if (skipBlank rest).isEmpty then some d else none
  | none => none

end NestedRouting.Data
