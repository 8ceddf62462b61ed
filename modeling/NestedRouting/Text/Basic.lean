/-!
# Texts and their byte measure

A `Text` is a list of characters. Offsets that are reported to a caller count bytes of the UTF-8
form, so a text has a byte length (`Text.byteLength`, additive by `Text.byteLength_append`) and can
be cut at a byte offset (`Text.dropBytes`, inverse to appending by `Text.dropBytes_append`).
-/

namespace NestedRouting

/-- Text as the list of its characters. -/
abbrev Text := List Char

namespace Text

/-- The number of bytes of the UTF-8 form. -/
def byteLength : Text → Nat
  | [] => 0
  | c :: s => c.utf8Size + byteLength s

/-- What is left after the first `n` bytes; a character that `n` cuts through is dropped whole. -/
def dropBytes : Nat → Text → Text
  | 0, s => s
  | _, [] => []
  | n + 1, c :: s => dropBytes (n + 1 - c.utf8Size) s

/-- The first `n` bytes; a character that `n` cuts through is left out. -/
def takeBytes : Nat → Text → Text
  | _, [] => []
  | n, c :: s => if c.utf8Size ≤ n then c :: takeBytes (n - c.utf8Size) s else []

/-- Whether a text stands before another one in a dictionary, or is equal to it. Characters go by code
point, which is also the order of their UTF-8 forms. -/
def atMost : Text → Text → Bool
  | [], _ => true
  | _ :: _, [] => false
  | c :: s, d :: t => c.toNat < d.toNat || (c == d && atMost s t)

/-- The decimal digits of a number. -/
def ofNat (n : Nat) : Text := Nat.toDigits 10 n

@[simp] theorem byteLength_nil : byteLength [] = 0 := rfl

@[simp] theorem byteLength_cons (c : Char) (s : Text) :
    byteLength (c :: s) = c.utf8Size + byteLength s := rfl

/-- The bytes of a text and more text. -/
theorem byteLength_append (s t : Text) : byteLength (s ++ t) = byteLength s + byteLength t := by
  induction s with
  | nil => simp
  | cons c s ih => simp [ih, Nat.add_assoc]

/-- Without the bytes of its first part, the second part of a text is left. -/
theorem dropBytes_append (s t : Text) : dropBytes (byteLength s) (s ++ t) = t := by
  induction s with
  | nil => simp [dropBytes]
  | cons c s ih =>
    have hpos : 0 < c.utf8Size := c.utf8Size_pos
    obtain ⟨n, hn⟩ : ∃ n, c.utf8Size + byteLength s = n + 1 := ⟨c.utf8Size + byteLength s - 1, by omega⟩
    have hsub : n + 1 - c.utf8Size = byteLength s := by omega
    simp [hn, dropBytes, hsub, ih]

end Text

end NestedRouting
