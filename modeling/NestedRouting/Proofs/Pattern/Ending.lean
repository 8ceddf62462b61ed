import NestedRouting.Proofs.Pattern.Recognized

/-!
# What the tail of a recognizer takes

The tail stands for what may follow the route in a path (`Tail.Admits`). It takes the start of what
it admits, and notes a delimiter that is all of it, unless matching is strict (`admits_of_takes`,
`takes_of_admits`).
-/

namespace NestedRouting

open Regex

/-- Whether something may follow the route in a path. -/
def Tail.Admits (strict : Bool) (rest : Text) : Tail → Prop
  | pathEnd => rest = [] ∨ (strict = false ∧ ∃ d, rest = [d] ∧ isDelimiter d = true)
  | anything => True
  | boundary => rest = [] ∨ ∃ d s, rest = d :: s ∧ isDelimiter d = true

/-- What the options allow behind a route is what the tail admits. -/
theorem allowsRest_iff {o : Options} {tokens : List Token} {rest : Text} :
    o.AllowsRest tokens rest ↔ (tailOf tokens o).Admits o.strict rest := by
  unfold Options.AllowsRest tailOf
  cases o.whole with
  | true => exact .rfl
  | false =>
    cases endsWithDelimiter tokens with
    | true => simp [Tail.Admits]
    | false => simp [Tail.Admits]

section
variable {u v x rest : Text} {n : List Note} {ic strict : Bool} {captures : Nat}

/-- The notes of a delimiter at the end, behind `u`. -/
def trailNotes (captures : Nat) (u : Text) : List Note :=
  [⟨captures + 1, true, u.length + 1⟩, ⟨captures + 1, false, u.length⟩]

/-- The end of the path takes nothing where nothing follows. -/
theorem takes_endPart : endPart.regex.takes u x v n ↔ x = [] ∧ n = [] ∧ v = [] := by
  simp [endPart, Part.plain, takes, Look.holds, Position.between]

/-- A delimiter is taken as one character. -/
theorem takes_delimiterPart :
    (delimiterPart ic).regex.takes u x v n ↔ (∃ d, x = [d] ∧ isDelimiter d = true) ∧ n = [] := by
  simp [delimiterPart, takes]

/-- A delimiter at the end is taken and noted. -/
theorem takes_trailPart : (trailPart ic captures).regex.takes u x v n ↔
    ∃ d, x = [d] ∧ isDelimiter d = true ∧ n = trailNotes captures u := by
  constructor
  · rintro ⟨m, rfl, h⟩
    obtain ⟨⟨d, rfl, hd⟩, rfl⟩ := takes_delimiterPart.1 h
    exact ⟨d, rfl, hd, rfl⟩
  · rintro ⟨d, rfl, hd, rfl⟩
    exact ⟨[], rfl, takes_delimiterPart.2 ⟨⟨d, rfl, hd⟩, rfl⟩⟩

/-- A delimiter at the end of the path, with its notes. -/
theorem takes_trail_end :
    (trailPart ic captures).regex.takes.andThen endPart.regex.takes u x v n ↔
      (∃ d, x = [d] ∧ isDelimiter d = true) ∧ v = [] ∧ n = trailNotes captures u := by
  constructor
  · rintro ⟨_, _, _, _, rfl, rfl, htrail, hend⟩
    obtain ⟨rfl, rfl, rfl⟩ := takes_endPart.1 hend
    obtain ⟨d, rfl, hd, rfl⟩ := takes_trailPart.1 htrail
    exact ⟨⟨d, rfl, hd⟩, rfl, rfl⟩
  · rintro ⟨⟨d, rfl, hd⟩, rfl, rfl⟩
    exact ⟨[d], [], _, [], rfl, rfl, takes_trailPart.2 ⟨d, rfl, hd, rfl⟩,
      takes_endPart.2 ⟨rfl, rfl, rfl⟩⟩

/-- What the tail takes is the start of something it admits. It notes nothing, or a delimiter that
is all that follows the route. -/
theorem admits_of_takes {tail : Tail}
    (h : takesAll (tail.parts ic strict captures) u x v n) :
    tail.Admits strict (x ++ v) ∧
      ((n = [] ∧ (tail = .pathEnd → x ++ v = [])) ∨
        (strict = false ∧ n = trailNotes captures u ∧
          ∃ d, x ++ v = [d] ∧ isDelimiter d = true)) := by
  cases tail with
  | pathEnd =>
    cases strict with
    | true =>
      obtain ⟨rfl, rfl, rfl⟩ := takes_endPart.1 ((takesAll_singleton _).1 h)
      exact ⟨.inl rfl, .inl ⟨rfl, fun _ => rfl⟩⟩
    | false =>
      obtain ⟨t, _, m, _, rfl, rfl, htrail, hend⟩ := h
      obtain ⟨rfl, rfl, rfl⟩ := takes_endPart.1 ((takesAll_singleton _).1 hend)
      rcases (takes_modified_once rfl).1 htrail with ⟨-, rfl, rfl⟩ | htrail
      · exact ⟨.inl rfl, .inl ⟨rfl, fun _ => rfl⟩⟩
      · obtain ⟨d, rfl, hd, rfl⟩ := takes_trailPart.1 htrail
        exact ⟨.inr ⟨rfl, d, rfl, hd⟩, .inr ⟨rfl, rfl, d, rfl, hd⟩⟩
  | anything =>
    refine ⟨trivial, ?_⟩
    cases strict with
    | true =>
      obtain ⟨rfl, rfl⟩ := h
      exact .inl ⟨rfl, nofun⟩
    | false =>
      rcases (takes_modified_once rfl).1 ((takesAll_singleton _).1 h) with ⟨-, rfl, rfl⟩ | h
      · exact .inl ⟨rfl, nofun⟩
      · obtain ⟨⟨d, rfl, hd⟩, rfl, rfl⟩ := takes_trail_end.1 h
        exact .inr ⟨rfl, rfl, d, rfl, hd⟩
  | boundary =>
    have hlast : (delimiterPart ic).regex.takes u x v n ∨ endPart.regex.takes u x v n →
        Tail.boundary.Admits strict (x ++ v) ∧ n = [] := by
      rintro (h | h)
      · obtain ⟨⟨d, rfl, hd⟩, rfl⟩ := takes_delimiterPart.1 h
        exact ⟨.inr ⟨d, v, rfl, hd⟩, rfl⟩
      · obtain ⟨rfl, rfl, rfl⟩ := takes_endPart.1 h
        exact ⟨.inl rfl, rfl⟩
    have h := (takesAll_singleton _).1 h
    cases strict with
    | true => exact ⟨(hlast h).1, .inl ⟨(hlast h).2, nofun⟩⟩
    | false =>
      rcases h with h | h
      · obtain ⟨⟨d, rfl, hd⟩, rfl, rfl⟩ := takes_trail_end.1 h
        exact ⟨.inr ⟨d, [], rfl, hd⟩, .inr ⟨rfl, rfl, d, rfl, hd⟩⟩
      · exact ⟨(hlast h).1, .inl ⟨(hlast h).2, nofun⟩⟩

/-- The tail takes the start of everything that it admits. -/
theorem takes_of_admits {tail : Tail} (h : tail.Admits strict rest) (u : Text) :
    ∃ x v n, rest = x ++ v ∧ takesAll (tail.parts ic strict captures) u x v n := by
  cases tail with
  | pathEnd =>
    rcases h with rfl | ⟨rfl, d, rfl, hd⟩
    · cases strict with
      | true => exact ⟨[], [], [], rfl, (takesAll_singleton _).2 (takes_endPart.2 ⟨rfl, rfl, rfl⟩)⟩
      | false =>
        refine ⟨[], [], [], rfl, [], [], [], [], rfl, rfl, ?_,
          (takesAll_singleton _).2 (takes_endPart.2 ⟨rfl, rfl, rfl⟩)⟩
        exact (takes_modified_once rfl).2 (.inl ⟨rfl, rfl, rfl⟩)
    · refine ⟨[d], [], trailNotes captures u, rfl, [d], [], _, [], rfl, rfl, ?_,
        (takesAll_singleton _).2 (takes_endPart.2 ⟨rfl, rfl, rfl⟩)⟩
      exact (takes_modified_once rfl).2 (.inr (takes_trailPart.2 ⟨d, rfl, hd, rfl⟩))
  | anything =>
    cases strict with
    | true => exact ⟨[], rest, [], rfl, rfl, rfl⟩
    | false =>
      exact ⟨[], rest, [], rfl, (takesAll_singleton _).2
        ((takes_modified_once rfl).2 (.inl ⟨rfl, rfl, rfl⟩))⟩
  | boundary =>
    have hlast : ∃ x v n, rest = x ++ v ∧
        ((delimiterPart ic).regex.takes u x v n ∨ endPart.regex.takes u x v n) := by
      rcases h with rfl | ⟨d, s, rfl, hd⟩
      · exact ⟨[], [], [], rfl, .inr (takes_endPart.2 ⟨rfl, rfl, rfl⟩)⟩
      · exact ⟨[d], s, [], rfl, .inl (takes_delimiterPart.2 ⟨⟨d, rfl, hd⟩, rfl⟩)⟩
    obtain ⟨x, v, n, hrest, htakes⟩ := hlast
    refine ⟨x, v, n, hrest, (takesAll_singleton _).2 ?_⟩
    cases strict with
    | true => exact htakes
    | false => exact .inr htakes

end

end NestedRouting
