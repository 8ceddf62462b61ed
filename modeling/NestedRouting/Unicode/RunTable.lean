/-!
# Tables over all code points

Unicode gives most properties in long stretches of code points of one value. A `RunTable` holds the
code points at which the value changes; `RunTable.value` finds a code point's stretch by bisection.
Tables are written as text: for each stretch its length in base 36 (digits and small letters) and
its value in base 26 (capitals), so that the stretches tile the code points from zero.
-/

namespace NestedRouting.Unicode

/-- A property of code points: where each stretch of one value starts, in ascending order. -/
structure RunTable where
  starts : Array (Nat × Nat)
  deriving Inhabited

namespace RunTable

/-- A table while its text is read: the stretch being spelled, and the stretches before it. -/
private structure Reading where
  start : Nat
  length : Nat
  value : Nat
  inValue : Bool
  runs : Array (Nat × Nat)

/-- Ends the stretch being spelled. -/
private def Reading.close (r : Reading) : Reading :=
  ⟨r.start + r.length, 0, 0, false, r.runs.push (r.start, r.value)⟩

private def Reading.step (r : Reading) (c : Char) : Reading :=
  if c.isUpper then
    { r with value := r.value * 26 + (c.toNat - 'A'.toNat), inValue := true }
  else
    let r := if r.inValue then r.close else r
    let digit := if c.isDigit then c.toNat - '0'.toNat else c.toNat - 'a'.toNat + 10
    { r with length := r.length * 36 + digit }

/-- Reads the text form of a table, given in lines. -/
def ofLines (lines : List String) : RunTable :=
  let start : Reading := ⟨0, 0, 0, false, #[]⟩
  ⟨(lines.foldl (fun r (s : String) => s.foldl Reading.step r) start).close.runs⟩

/-- The value of the last stretch among those numbered `lo` to `hi - 1` that starts at or before
`code`; the first argument bounds the number of bisections. -/
def search (starts : Array (Nat × Nat)) (code : Nat) : Nat → Nat → Nat → Nat
  | 0, lo, _ => (starts[lo]?.map Prod.snd).getD 0
  | fuel + 1, lo, hi =>
    if hi ≤ lo + 1 then (starts[lo]?.map Prod.snd).getD 0
    else
      let mid := (lo + hi) / 2
      if (starts[mid]?.map Prod.fst).getD 0 ≤ code then search starts code fuel mid hi
      else search starts code fuel lo mid

/-- The value of a character. -/
def value (t : RunTable) (c : Char) : Nat :=
  search t.starts c.toNat t.starts.size 0 t.starts.size

/-- Whether a character has the value one. -/
def holds (t : RunTable) (c : Char) : Bool := t.value c == 1

end RunTable

/-- The loose spelling of a property name: small letters without spaces, hyphens and underscores,
and without a leading `is` (which stays in `isc`). Characters outside ASCII are left out. -/
def looseName (name : String) : String :=
  let chars := name.toList
  let startsWithIs := (chars.take 2).map Char.toLower == ['i', 's']
  let body := if startsWithIs then chars.drop 2 else chars
  let kept := (body.filter fun c => c != ' ' && c != '_' && c != '-' && c.toNat < 128).map Char.toLower
  if startsWithIs && kept == ['c'] then "isc" else String.ofList kept

end NestedRouting.Unicode
