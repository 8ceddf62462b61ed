import NestedRouting.Regex.Basic

/-!
# Programs of regular expressions

`Regex.code` writes an expression as a list of instructions. Jumps are relative, so the code of a
part is the same wherever the part stands, and an expression is matched when control leaves its code
at the end. Where control can go two ways the instruction names the preferred one: an alternation
prefers its first branch, a greedy loop another round, a lazy loop to stop.
-/

namespace NestedRouting

/-- An instruction of a program. -/
inductive Instr
  /-- Takes up a character of a set. -/
  | take (s : CharSet)
  | check (l : Look)
  /-- Notes that a group starts here, or stops here. -/
  | note (group : Nat) (isStop : Bool)
  /-- Goes on, or leaves out the next `count` instructions; `greedy` tells whether going on is
  preferred. -/
  | fork (greedy : Bool) (count : Nat)
  /-- Goes back over the `count` instructions before, or goes on; `greedy` tells whether going back is
  preferred. -/
  | again (greedy : Bool) (count : Nat)
  /-- Leaves out the next `count` instructions. -/
  | skip (count : Nat)
  /-- Goes back over the `count` instructions before. -/
  | back (count : Nat)

namespace Regex

/-- Whether an expression can match without taking up a character. -/
def isNullable : Regex → Bool
  | empty | look _ => true
  | set _ => false
  | seq r s => r.isNullable && s.isNullable
  | alt r s => r.isNullable || s.isNullable
  | loop r least _ _ => least == 0 || r.isNullable
  | group _ _ r => r.isNullable

/-- `n` rounds of some code. -/
def rounds (n : Nat) (code : List Instr) : List Instr := (List.replicate n code).flatten

/-- At most `n` rounds of some code. Whoever stops leaves out all rounds that are left. -/
def roundsUpTo (greedy : Bool) (code : List Instr) : Nat → List Instr
  | 0 => []
  | n + 1 =>
    .fork greedy (code.length + n * (code.length + 1)) :: (code ++ roundsUpTo greedy code n)

/-- One round of some code or more. -/
def oneOrMore (greedy : Bool) (code : List Instr) : List Instr :=
  code ++ [.again greedy code.length]

/-- Any number of rounds of some code. If a round may take up nothing, then stopping before the first
round and stopping behind a round are different places. -/
def zeroOrMore (nullable greedy : Bool) (code : List Instr) : List Instr :=
  if nullable then .fork greedy (code.length + 1) :: oneOrMore greedy code
  else .fork greedy (code.length + 1) :: (code ++ [.back (code.length + 1)])

/-- At least `least` rounds of some code, and at most `most` if that is given. -/
def loopCode (nullable : Bool) (least : Nat) (most : Option Nat) (greedy : Bool)
    (code : List Instr) : List Instr :=
  match most, least with
  | some most, least => rounds least code ++ roundsUpTo greedy code (most - least)
  | none, 0 => zeroOrMore nullable greedy code
  | none, least + 1 => rounds least code ++ oneOrMore greedy code

/-- The instructions of an expression. -/
def code : Regex → List Instr
  | empty => []
  | set s => [.take s]
  | look l => [.check l]
  | seq r s => r.code ++ s.code
  | alt r s =>
    let first := r.code
    let second := s.code
    .fork true (first.length + 1) :: (first ++ .skip second.length :: second)
  | loop r least most greedy => loopCode r.isNullable least most greedy r.code
  | group number _ r => .note number false :: (r.code ++ [.note number true])

end Regex

end NestedRouting
