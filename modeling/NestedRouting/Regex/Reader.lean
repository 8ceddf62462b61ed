import NestedRouting.Regex.Basic
import NestedRouting.Unicode.Letter

/-!
# Reading regular expressions

`Regex.read` reads an expression, or refuses it. Flags hold from where they are set to the end of the
group, in later branches too; they are resolved while reading, so the expression that comes out does
not depend on them. Open groups and open brackets stand on a stack. An expression is refused when it
is malformed, when two groups have one name, when it could match half a character, and when its
parts are nested too deeply (`nestLimit`).

In verbose mode white space and comments between the parts of an expression are skipped; a comment
runs from `#` to the end of the line.
-/

namespace NestedRouting.Regex

/-- What flags can change. -/
structure Flags where
  ignoreCase : Bool
  multiLine : Bool
  dotNewline : Bool
  swapGreed : Bool
  unicode : Bool
  crlf : Bool
  verbose : Bool
  deriving DecidableEq, Repr

namespace Flags

/-- The flags at the start of an expression. -/
def initial (ignoreCase : Bool) : Flags := ⟨ignoreCase, false, false, false, true, false, false⟩

/-- Sets or clears the flag with a letter. -/
def set? (f : Flags) (letter : Char) (value : Bool) : Option Flags :=
  match letter with
  | 'i' => some { f with ignoreCase := value }
  | 'm' => some { f with multiLine := value }
  | 's' => some { f with dotNewline := value }
  | 'U' => some { f with swapGreed := value }
  | 'u' => some { f with unicode := value }
  | 'R' => some { f with crlf := value }
  | 'x' => some { f with verbose := value }
  | _ => none

/-- Closes a set under case folding if case is ignored. -/
def foldSet (f : Flags) (s : CharSet) : CharSet :=
  if f.ignoreCase then if f.unicode then .folded s else .foldedAscii s else s

/-- Closes a set under case folding if case is ignored, then takes its complement if it is negated.
Without Unicode a complement would hold bytes that are no characters, and is refused. -/
def foldAndNegate (f : Flags) (negated : Bool) (s : CharSet) : Option CharSet :=
  if negated then if f.unicode then some (.compl (f.foldSet s)) else none
  else some (f.foldSet s)

end Flags

/-- How deeply the parts of an expression may be nested. -/
def nestLimit : Nat := 250

/-! ## Characters and numbers -/

/-- The characters at the front that satisfy `p`, and what follows them. In verbose mode white space
and comments before and between them are skipped. -/
def takeSpaced (p : Char → Bool) (verbose inComment : Bool) : Text → Text × Text
  | [] => ([], [])
  | c :: s =>
    if verbose && inComment then takeSpaced p verbose (c != '\n') s
    else if verbose && Unicode.isSpace c then takeSpaced p verbose false s
    else if verbose && c == '#' then takeSpaced p verbose true s
    else if p c then
      let (t, rest) := takeSpaced p verbose false s
      (c :: t, rest)
    else ([], c :: s)

/-- What follows white space and comments, in verbose mode. -/
def skipSpace (verbose : Bool) (s : Text) : Text := (takeSpaced (fun _ => false) verbose false s).2

/-- The next character behind white space and a comment sign, in verbose mode. -/
def peekSpaced (verbose : Bool) (s : Text) : Option Char :=
  if verbose then
    match s.dropWhile Unicode.isSpace with
    | [] => s.head?
    | '#' :: t => (t.dropWhile Unicode.isSpace).head? <|> s.head?
    | c :: _ => some c
  else s.head?

/-- Whether a character is a hexadecimal digit. -/
def isHexDigit (c : Char) : Bool :=
  c.isDigit || ('a' ≤ c && c ≤ 'f') || ('A' ≤ c && c ≤ 'F')

/-- The number that digits write. -/
def numeral (base : Nat) (digits : Text) : Nat :=
  digits.foldl
    (fun n c =>
      n * base + (if c.isDigit then c.toNat - '0'.toNat else c.toLower.toNat - 'a'.toNat + 10)) 0

/-- The character with a code point. -/
def charOf? (code : Nat) : Option Char :=
  if code < 0xD800 || (0xDFFF < code && code < 0x110000) then some (Char.ofNat code) else none

/-- Exactly `n` hexadecimal digits, and what follows them. -/
def takeHex (verbose inComment : Bool) : Nat → Text → Option (Text × Text)
  | 0, s => some ([], s)
  | _, [] => none
  | n + 1, c :: s =>
    if verbose && inComment then takeHex verbose (c != '\n') (n + 1) s
    else if verbose && Unicode.isSpace c then takeHex verbose false (n + 1) s
    else if verbose && c == '#' then takeHex verbose true (n + 1) s
    else if isHexDigit c then
      (takeHex verbose false n s).map fun (t, rest) => (c :: t, rest)
    else none

/-- A decimal number with white space around it. -/
def takeDecimal (verbose : Bool) (s : Text) : Option (Nat × Text) :=
  let (digits, rest) := takeSpaced Char.isDigit verbose false (s.dropWhile Unicode.isSpace)
  let n := numeral 10 digits
  if digits.isEmpty || n ≥ 0x100000000 then none
  else some (n, skipSpace verbose (rest.dropWhile Unicode.isSpace))

/-! ## Escapes -/

/-- What an escape stands for. -/
inductive Primitive
  /-- A character; `byte` tells that it was written with two hexadecimal digits. -/
  | literal (c : Char) (byte : Bool)
  | set (s : CharSet)
  | look (l : Look)

/-- The set of a class letter: digits, white space or word characters. -/
def shorthand (f : Flags) (letter : Char) : Option CharSet :=
  let positive : CharSet :=
    match f.unicode, letter.toLower with
    | true, 'd' => .digit
    | true, 's' => .space
    | true, _ => .word
    | false, 'd' => .range '0' '9'
    | false, 's' => .ranges [('\t', '\r'), (' ', ' ')]
    | false, _ => .ranges [('0', '9'), ('A', 'Z'), ('_', '_'), ('a', 'z')]
  if letter.isUpper then if f.unicode then some (.compl positive) else none else some positive

/-- The part of a text in front of the first occurrence of a separator, and the part behind it. -/
def cutAt? (separator : Text) : Text → Option (Text × Text)
  | [] => none
  | c :: s =>
    if separator.isPrefixOf (c :: s) then some ([], (c :: s).drop separator.length)
    else (cutAt? separator s).map fun (t, rest) => (c :: t, rest)

/-- The property that a name, or a name and a value, stand for, and whether the sign between name and
value denies it. -/
def namedProperty? (s : Text) : Option (Unicode.Property × Bool) :=
  match cutAt? ['!', '='] s with
  | some (name, value) =>
    (Unicode.Property.ofValue? (String.ofList name) (String.ofList value)).map (·, true)
  | none =>
    match cutAt? [':'] s <|> cutAt? ['='] s with
    | some (name, value) =>
      (Unicode.Property.ofValue? (String.ofList name) (String.ofList value)).map (·, false)
    | none => (Unicode.Property.ofName? (String.ofList s)).map (·, false)

/-- Reads what follows `\p` or `\P`: one letter, or a name in braces. -/
def readProperty (f : Flags) (negated : Bool) (s : Text) : Option (CharSet × Text) := do
  let (name, rest) ←
    match skipSpace f.verbose s with
    | [] => none
    | '\x7b' :: s =>
      match takeSpaced (· != '\x7d') f.verbose false s with
      | (name, '\x7d' :: rest) => some (name, rest)
      | _ => none
    | '\\' :: _ => none
    | c :: s => some ([c], skipSpace f.verbose s)
  if f.unicode then
    let (p, denied) ← namedProperty? name
    let s ← f.foldAndNegate (negated != denied) (.property p)
    return (s, rest)
  else none

/-- Reads a code point: `digits` hexadecimal digits, or any number of them in braces. -/
def readCode (verbose : Bool) (digits : Nat) (s : Text) : Option (Char × Bool × Text) :=
  match skipSpace verbose s with
  | '\x7b' :: s =>
    match takeSpaced isHexDigit verbose false s with
    | (code, '\x7d' :: rest) =>
      if code.isEmpty then none
      else (charOf? (numeral 16 code)).map fun c => (c, false, skipSpace verbose rest)
    | _ => none
  | s => do
    let (code, rest) ← takeHex verbose false digits s
    let c ← charOf? (numeral 16 code)
    return (c, digits == 2, skipSpace verbose rest)

/-- Reads what follows `\b`: nothing, or the name of a word edge in braces. Braces that start
otherwise are left for a counted repetition. -/
def readEdge (verbose : Bool) (s : Text) : Option (WordEdge × Text) :=
  match s with
  | '\x7b' :: t =>
    match skipSpace verbose t with
    | [] => none
    | c :: t =>
      if c.isAlpha || c == '-' then
        match takeSpaced (fun c => c.isAlpha || c == '-') verbose false (c :: t) with
        | (name, '\x7d' :: rest) =>
          match String.ofList name with
          | "start" => some (.start, rest)
          | "end" => some (.finish, rest)
          | "start-half" => some (.startHalf, rest)
          | "end-half" => some (.finishHalf, rest)
          | _ => none
        | _ => none
      else some (.boundary, s)
  | _ => some (.boundary, s)

/-- Reads what follows a backslash. -/
def readEscape (f : Flags) : Text → Option (Primitive × Text)
  | [] => none
  | c :: s =>
    let edge := fun e => Primitive.look (.word e (!f.unicode))
    match c with
    | 'x' => (readCode f.verbose 2 s).map fun (c, byte, rest) => (.literal c byte, rest)
    | 'u' => (readCode f.verbose 4 s).map fun (c, byte, rest) => (.literal c byte, rest)
    | 'U' => (readCode f.verbose 8 s).map fun (c, byte, rest) => (.literal c byte, rest)
    | 'p' | 'P' => (readProperty f (c == 'P') s).map fun (cs, rest) => (.set cs, rest)
    | 'd' | 's' | 'w' | 'D' | 'S' | 'W' => (shorthand f c).map fun cs => (.set cs, s)
    | 'a' => some (.literal '\x07' false, s)
    | 'f' => some (.literal '\x0c' false, s)
    | 't' => some (.literal '\t' false, s)
    | 'n' => some (.literal '\n' false, s)
    | 'r' => some (.literal '\r' false, s)
    | 'v' => some (.literal '\x0b' false, s)
    | 'A' => some (.look .textStart, s)
    | 'z' => some (.look .textEnd, s)
    | 'b' => (readEdge f.verbose s).map fun (e, rest) => (edge e, rest)
    | 'B' => some (edge .noBoundary, s)
    | '<' => some (edge .start, s)
    | '>' => some (edge .finish, s)
    | c => if c.toNat < 128 && !c.isAlphanum then some (.literal c false, s) else none

/-! ## Bracketed classes -/

/-- An operation on sets. -/
inductive SetOperation
  | inter
  | diff
  | symmDiff
  deriving DecidableEq, Repr

/-- The result of an operation. -/
def SetOperation.apply : SetOperation → CharSet → CharSet → CharSet
  | inter => .inter
  | diff => .diff
  | symmDiff => .symmDiff

/-- The items of a class so far: their union, their number, and how deeply they are nested. -/
structure Items where
  set : CharSet
  count : Nat
  height : Nat

namespace Items

/-- No items. -/
def empty : Items := ⟨.empty, 0, 0⟩

/-- Adds an item. -/
def push (xs : Items) (s : CharSet) (height : Nat) : Items :=
  ⟨if xs.count = 0 then s else .union xs.set s, xs.count + 1, max xs.height height⟩

/-- How deeply the union is nested. -/
def unionHeight (xs : Items) : Nat := if xs.count ≤ 1 then xs.height else xs.height + 1

end Items

/-- A bracket that is open: whether it is negated, whether nothing but hyphens has been read, the
operation and left operand that wait for the items, and the items. -/
structure Bracket where
  negated : Bool
  fresh : Bool
  waiting : Option (SetOperation × CharSet × Nat)
  items : Items

namespace Bracket

/-- Reads an opening bracket that has been taken, with the sign of negation. -/
def opened (f : Flags) (s : Text) : Bracket × Text :=
  match skipSpace f.verbose s with
  | '^' :: s => (⟨true, true, none, .empty⟩, s)
  | s => (⟨false, true, none, .empty⟩, s)

/-- Adds an item. -/
def push (b : Bracket) (s : CharSet) (height : Nat) : Bracket :=
  { b with items := b.items.push s height, fresh := false }

/-- The result of the operation that waits, once its right operand is complete. -/
def operand (b : Bracket) (f : Flags) : CharSet × Nat :=
  match b.waiting with
  | none => (b.items.set, b.items.unionHeight)
  | some (op, left, height) =>
    (op.apply (f.foldSet left) (f.foldSet b.items.set), max height b.items.unionHeight + 1)

/-- Lets an operation wait for its right operand. -/
def operate (b : Bracket) (f : Flags) (op : SetOperation) : Bracket :=
  let (left, height) := b.operand f
  { b with waiting := some (op, left, height), items := .empty, fresh := false }

/-- The set of a bracket that closes, and how deeply it is nested. -/
def close (b : Bracket) (f : Flags) : Option (CharSet × Nat) := do
  let (s, height) := b.operand f
  let s ← f.foldAndNegate b.negated s
  return (s, height + 1)

end Bracket

/-- The ASCII class at the front, behind its opening bracket. -/
def asciiClass? (f : Flags) (s : Text) : Option (Option CharSet × Text) :=
  match s with
  | ':' :: s =>
    let (negated, s) := match s with
      | '^' :: s => (true, s)
      | s => (false, s)
    match cutAt? [':'] s with
    | some (name, ']' :: rest) =>
      (CharSet.ofAsciiName? (String.ofList name)).map fun cs => (f.foldAndNegate negated cs, rest)
    | _ => none
  | _ => none

/-- A character or escape of a class. -/
def takePrimitive (f : Flags) : Text → Option (Primitive × Text)
  | [] => none
  | '\\' :: s => readEscape f s
  | c :: s => some (.literal c false, s)

/-- The character of a primitive, where a class allows only a character. -/
def Primitive.char? (f : Flags) : Primitive → Option Char
  | .literal c _ => if f.unicode || c.toNat < 128 then some c else none
  | _ => none

/-- The set of a primitive in a class. -/
def Primitive.classSet? (f : Flags) : Primitive → Option CharSet
  | .set s => some s
  | p => (p.char? f).map .single

/-- A character, an escape or a range of a class. -/
def readRange (f : Flags) (s : Text) : Option (CharSet × Text) := do
  let (first, rest) ← takePrimitive f s
  match skipSpace f.verbose rest with
  | [] => none
  | '-' :: s =>
    let next := peekSpaced f.verbose s
    if next == some ']' || next == some '-' then
      let cs ← first.classSet? f
      return (cs, '-' :: s)
    else
      let (last, rest) ← takePrimitive f (skipSpace f.verbose s)
      let lo ← first.char? f
      let hi ← last.char? f
      if lo ≤ hi then return (.range lo hi, rest) else none
  | s =>
    let cs ← first.classSet? f
    return (cs, s)

/-- The outcome of a step inside brackets: still inside, or the outermost bracket is closed. -/
inductive ClassStep
  | within (inner : Bracket) (outer : List Bracket) (rest : Text)
  | closed (cs : CharSet) (height : Nat) (rest : Text)

/-- Reads one item, operator or bracket of a class. -/
def classStep (f : Flags) (b : Bracket) (outer : List Bracket) (c : Char) (s : Text) :
    Option ClassStep := do
  if b.fresh && c == '-' then
    return .within { b with items := b.items.push (.single '-') 0 } outer s
  if b.fresh && b.items.count == 0 && c == ']' then return .within (b.push (.single ']') 0) outer s
  match c, s with
  | '[', _ =>
    match asciiClass? f s with
    | some (cs, rest) =>
      let cs ← cs
      return .within (b.push cs 0) outer rest
    | none =>
      let (inner, rest) := Bracket.opened f s
      return .within inner (b :: outer) rest
  | ']', _ =>
    let (cs, height) ← b.close f
    match outer with
    | [] => return .closed cs height s
    | b :: outer => return .within (b.push cs height) outer s
  | '&', '&' :: s => return .within (b.operate f .inter) outer s
  | '-', '-' :: s => return .within (b.operate f .diff) outer s
  | '~', '~' :: s => return .within (b.operate f .symmDiff) outer s
  | _, _ =>
    let (cs, rest) ← readRange f (c :: s)
    return .within (b.push cs 0) outer rest

/-- Reads a class from inside its brackets to the end of the outermost one. -/
def readBrackets (f : Flags) (b : Bracket) (outer : List Bracket) (s : Text) :
    Option (CharSet × Nat × Text) :=
  match skipSpace f.verbose s with
  | [] => none
  | c :: t =>
    match classStep f b outer c t with
    | none => none
    | some (.closed cs height rest) => some (cs, height, rest)
    | some (.within b outer rest) =>
      if rest.length < s.length then readBrackets f b outer rest else none
termination_by s.length

/-- Reads a class behind its opening bracket. -/
def readClass (f : Flags) (s : Text) : Option (CharSet × Nat × Text) :=
  let (b, rest) := Bracket.opened f s
  readBrackets f b [] rest

/-! ## Groups -/

/-- A part of an expression: the expression, how deeply it is nested, and whether it only sets
flags. -/
structure Part where
  regex : Regex
  height : Nat
  directive : Bool

/-- What is being read inside one pair of parentheses: the branches that are complete and the parts
of the current one, latest first. -/
structure Level where
  branches : List Part
  parts : List Part

namespace Level

/-- Nothing read. -/
def empty : Level := ⟨[], []⟩

/-- The parts of the current branch, one behind the other. -/
def branch (l : Level) : Part :=
  let height := l.parts.foldl (fun n p => max n p.height) 0
  let regex :=
    match (l.parts.filter (!·.directive)).reverse with
    | [] => .empty
    | p :: ps => ps.foldl (fun r q => .seq r q.regex) p.regex
  match l.parts with
  | [] => ⟨.empty, 0, false⟩
  | [p] => p
  | _ => ⟨regex, height + 1, false⟩

/-- Ends the current branch. -/
def nextBranch (l : Level) : Level := ⟨l.branch :: l.branches, []⟩

/-- All branches as alternatives. -/
def close (l : Level) : Part :=
  let last := l.branch
  match l.branches with
  | [] => last
  | p :: ps =>
    ⟨(p :: ps).foldl (fun r q => .alt q.regex r) last.regex,
      (p :: ps).foldl (fun n q => max n q.height) last.height + 1, false⟩

end Level

/-- What a group is for. -/
inductive GroupKind
  | capture (number : Nat) (name : Option Text)
  | plain

/-- The expression of a group. -/
def GroupKind.wrap : GroupKind → Regex → Regex
  | capture number name => .group number name
  | plain => id

/-- Where reading stands: the flags, the number of capturing groups and their names, the level being
read, and the groups around it with the flags and the level outside each. -/
structure Reader where
  flags : Flags
  captures : Nat
  names : List Text
  level : Level
  outer : List (GroupKind × Flags × Level)

namespace Reader

/-- Adds a part. -/
def push (st : Reader) (regex : Regex) (height : Nat) : Reader :=
  { st with level := { st.level with parts := ⟨regex, height, false⟩ :: st.level.parts } }

/-- Opens a group inside which the given flags hold. -/
def openGroup (st : Reader) (kind : GroupKind) (flags : Flags) : Reader :=
  { st with flags := flags, level := .empty, outer := (kind, st.flags, st.level) :: st.outer }

/-- Opens a capturing group. -/
def openCapture (st : Reader) (name : Option Text) : Reader :=
  { st with captures := st.captures + 1, names := name.toList ++ st.names }.openGroup
    (.capture (st.captures + 1) name) st.flags

/-- Closes the innermost group. -/
def closeGroup (st : Reader) : Option Reader :=
  match st.outer with
  | [] => none
  | (kind, flags, level) :: outer =>
    let inner := st.level.close
    some ({ st with flags, level, outer }.push (kind.wrap inner.regex) (inner.height + 1))

end Reader

/-- Reads flags up to a colon or a parenthesis: the flags that result, whether any were written, the
character that ends them, and what follows. -/
def readFlags (f : Flags) (seen : List Char) (value : Bool) :
    Text → Option (Flags × Bool × Char × Text)
  | [] => none
  | c :: s =>
    if c == ':' || c == ')' then
      if seen.head? == some '-' then none else some (f, !seen.isEmpty, c, s)
    else if seen.contains c then none
    else if c == '-' then readFlags f (c :: seen) false s
    else
      match f.set? c value with
      | none => none
      | some f => readFlags f (c :: seen) value s

/-- Whether a character may occur in the name of a group. -/
def isGroupNameChar (first : Bool) (c : Char) : Bool :=
  if first then c == '_' || Unicode.isAlphabetic c
  else c == '_' || c == '.' || c == '[' || c == ']' || Unicode.isAlphanumeric c

/-- Reads the name of a group up to the angle that closes it. -/
def readGroupName (names : List Text) (s : Text) : Option (Text × Text) :=
  match cutAt? ['>'] s with
  | some (c :: name, rest) =>
    if isGroupNameChar true c && name.all (isGroupNameChar false) && !names.contains (c :: name)
    then some (c :: name, rest) else none
  | _ => none

/-- Reads what follows an opening parenthesis, up to the inside of the group. -/
def readGroup (st : Reader) (s : Text) : Option (Reader × Text) :=
  match skipSpace st.flags.verbose s with
  | '?' :: '=' :: _ | '?' :: '!' :: _ | '?' :: '<' :: '=' :: _ | '?' :: '<' :: '!' :: _ => none
  | '?' :: 'P' :: '<' :: s | '?' :: '<' :: s =>
    (readGroupName st.names s).map fun (name, rest) => (st.openCapture (some name), rest)
  | '?' :: s =>
    match readFlags st.flags [] true s with
    | none => none
    | some (flags, _, ':', rest) => some (st.openGroup .plain flags, rest)
    | some (flags, written, _, rest) =>
      if written then
        some ({ st with
          flags := flags
          level := { st.level with parts := ⟨.empty, 0, true⟩ :: st.level.parts } }, rest)
      else none
  | s => some (st.openCapture none, s)

/-! ## Repetitions -/

/-- Repeats the latest part. Whether the repetition is greedy is as written, unless greed is
swapped. -/
def repeatPart (st : Reader) (least : Nat) (most : Option Nat) (greedy : Bool) : Option Reader :=
  match st.level.parts with
  | [] => none
  | p :: parts =>
    if p.directive then none
    else
      let regex := repeated p.regex least most (greedy != st.flags.swapGreed)
      some { st with level := { st.level with parts := ⟨regex, p.height + 1, false⟩ :: parts } }

/-- Reads the question mark that makes a repetition lazy. -/
def takeLazy : Text → Bool × Text
  | '?' :: s => (false, s)
  | s => (true, s)

/-- Reads the bounds of a repetition behind the opening brace. -/
def readBounds (verbose : Bool) (s : Text) : Option (Nat × Option Nat × Text) := do
  let (least, rest) ← takeDecimal verbose (skipSpace verbose s)
  match rest with
  | '\x7d' :: rest => return (least, some least, rest)
  | ',' :: rest =>
    match skipSpace verbose rest with
    | '\x7d' :: rest => return (least, none, rest)
    | rest =>
      let (most, rest) ← takeDecimal verbose rest
      match rest with
      | '\x7d' :: rest => if least ≤ most then return (least, some most, rest) else none
      | _ => none
  | _ => none

/-! ## The whole expression -/

/-- The expression of a character or escape that stands outside brackets. Without Unicode a character
beyond ASCII has no other case, and a byte beyond ASCII is refused. -/
def Primitive.regex? (f : Flags) : Primitive → Option Regex
  | .look l => some (.look l)
  | .set s => some (.set s)
  | .literal c byte =>
    if f.unicode then some (.set (if f.ignoreCase then .alike c else .single c))
    else if c.toNat < 128 then some (.set (f.foldSet (.single c)))
    else if byte then none
    else some (.set (.single c))

/-- The set of a dot; without Unicode it would hold bytes that are no characters. -/
def dot (f : Flags) : Option CharSet :=
  if !f.unicode then none
  else if f.dotNewline then some .all
  else if f.crlf then some (.compl (.union (.single '\r') (.single '\n')))
  else some (.compl (.single '\n'))

/-- Reads what follows a repetition sign. -/
def readSign (st : Reader) (least : Nat) (most : Option Nat) (s : Text) :
    Option (Reader × Text) :=
  let (greedy, rest) := takeLazy s
  (repeatPart st least most greedy).map fun st => (st, rest)

/-- Reads the part of an expression that starts with `c`. -/
def readPart (st : Reader) (c : Char) (s : Text) : Option (Reader × Text) := do
  let f := st.flags
  match c with
  | '(' => readGroup st s
  | ')' => (st.closeGroup).map (·, s)
  | '|' => return ({ st with level := st.level.nextBranch }, s)
  | '[' =>
    let (cs, height, rest) ← readClass f s
    return (st.push (.set cs) height, rest)
  | '?' => readSign st 0 (some 1) s
  | '*' => readSign st 0 none s
  | '+' => readSign st 1 none s
  | '\x7b' =>
    let (least, most, rest) ← readBounds f.verbose s
    let (greedy, rest) := takeLazy (skipSpace f.verbose rest)
    let st ← repeatPart st least most greedy
    return (st, rest)
  | '.' =>
    let cs ← dot f
    return (st.push (.set cs) 0, s)
  | '^' =>
    return (st.push (.look (if f.multiLine then .lineStart f.crlf else .textStart)) 0, s)
  | '$' => return (st.push (.look (if f.multiLine then .lineEnd f.crlf else .textEnd)) 0, s)
  | '\\' =>
    let (p, rest) ← readEscape f s
    let r ← p.regex? f
    return (st.push r 0, rest)
  | c =>
    let r ← (Primitive.literal c false).regex? f
    return (st.push r 0, s)

/-- Reads parts until the text ends. -/
def readParts (st : Reader) (s : Text) : Option Reader :=
  match skipSpace st.flags.verbose s with
  | [] => some st
  | c :: t =>
    match readPart st c t with
    | none => none
    | some (st, rest) => if rest.length < s.length then readParts st rest else none
termination_by s.length

/-- Reads a regular expression. -/
def read (ignoreCase : Bool) (s : Text) : Option Regex := do
  let st ← readParts ⟨.initial ignoreCase, 0, [], .empty, []⟩ s
  let whole := st.level.close
  if st.outer.isEmpty && whole.height ≤ nestLimit then some whole.regex else none

end NestedRouting.Regex
