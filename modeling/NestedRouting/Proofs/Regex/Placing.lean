import NestedRouting.Proofs.Regex.Meaning
import NestedRouting.Proofs.Regex.Nested

/-!
# Where a text stands

Only the conditions of an expression ask what stands around the text that it takes (`Regex.looks`).
So an expression without conditions takes a text wherever it takes it at all, and how its groups are
numbered matters for what it notes only (`into_renumbered`). An expression accepts a text if it takes
it with nothing around it (`Regex.Accepts`).
-/

namespace NestedRouting

/-! ## Spans -/

/-- What one span takes the other takes too, whatever they note: between the same texts, or between
any others if the place does not matter. -/
def Span.Into (placed : Prop) (R S : Span) : Prop :=
  ∀ u t v n u' v', (placed → u' = u ∧ v' = v) → R u t v n → ∃ n', S u' t v' n'

section
variable {placed : Prop} {R R' S S' : Span}

/-- What two spans take one behind the other, two larger ones take too. -/
theorem Span.Into.andThen (hr : R.Into placed R') (hs : S.Into placed S') :
    (R.andThen S).Into placed (R'.andThen S') := by
  rintro u _ v _ u' v' hplace ⟨t₁, t₂, n₁, n₂, rfl, rfl, h₁, h₂⟩
  obtain ⟨m₁, h₁⟩ := hr _ _ _ _ u' (t₂ ++ v')
    (fun h => ⟨(hplace h).1, by rw [(hplace h).2]⟩) h₁
  obtain ⟨m₂, h₂⟩ := hs _ _ _ _ (u' ++ t₁) v'
    (fun h => ⟨by rw [(hplace h).1], (hplace h).2⟩) h₂
  exact ⟨m₂ ++ m₁, t₁, t₂, m₁, m₂, rfl, rfl, h₁, h₂⟩

/-- What a span takes several times a larger one takes as often. -/
theorem Span.Into.times (hr : R.Into placed R') (k : Nat) :
    (R.times k).Into placed (R'.times k) := by
  induction k with
  | zero => exact fun _ _ _ _ _ _ _ h => ⟨[], h.1, rfl⟩
  | succ k ih => exact hr.andThen ih

end

/-! ## Expressions -/

namespace Regex

/-- The conditions of an expression. -/
def looks : Regex → List Look
  | empty | set _ => []
  | look l => [l]
  | seq r s | alt r s => r.looks ++ s.looks
  | loop r _ _ _ => r.looks
  | group _ _ r => r.looks

/-- Whether an expression takes a text with nothing around it. -/
def Accepts (r : Regex) (t : Text) : Prop := ∃ n, r.takes [] t [] n

/-- An expression takes the same texts under other numbers: between the same texts, and between any
others if it has no conditions. -/
theorem into_renumbered {placed : Prop} {r : Regex} (h : placed ∨ r.looks = []) (m : Nat) :
    r.takes.Into placed (r.renumbered m).takes ∧ (r.renumbered m).takes.Into placed r.takes := by
  induction r with
  | empty => exact ⟨fun _ _ _ _ _ _ _ h => ⟨[], h.1, rfl⟩, fun _ _ _ _ _ _ _ h => ⟨[], h.1, rfl⟩⟩
  | set s => exact ⟨fun _ _ _ _ _ _ _ h => ⟨[], h.1, rfl⟩, fun _ _ _ _ _ _ _ h => ⟨[], h.1, rfl⟩⟩
  | look l =>
    have hl : placed := h.resolve_right (List.cons_ne_nil l [])
    have hsame : (look l).takes.Into placed (look l).takes := by
      intro u t v n u' v' hplace ht
      obtain ⟨rfl, rfl⟩ := hplace hl
      exact ⟨n, ht⟩
    exact ⟨hsame, hsame⟩
  | seq r s ihr ihs =>
    obtain ⟨hr, hr'⟩ := ihr (h.imp_right fun h => (List.append_eq_nil_iff.1 h).1)
    obtain ⟨hs, hs'⟩ := ihs (h.imp_right fun h => (List.append_eq_nil_iff.1 h).2)
    exact ⟨hr.andThen hs, hr'.andThen hs'⟩
  | alt r s ihr ihs =>
    obtain ⟨hr, hr'⟩ := ihr (h.imp_right fun h => (List.append_eq_nil_iff.1 h).1)
    obtain ⟨hs, hs'⟩ := ihs (h.imp_right fun h => (List.append_eq_nil_iff.1 h).2)
    constructor
    · rintro u t v n u' v' hplace (ht | ht)
      · exact (hr _ _ _ _ _ _ hplace ht).imp fun _ => .inl
      · exact (hs _ _ _ _ _ _ hplace ht).imp fun _ => .inr
    · rintro u t v n u' v' hplace (ht | ht)
      · exact (hr' _ _ _ _ _ _ hplace ht).imp fun _ => .inl
      · exact (hs' _ _ _ _ _ _ hplace ht).imp fun _ => .inr
  | loop r least most greedy ih =>
    obtain ⟨hr, hr'⟩ := ih h
    constructor
    · rintro u t v n u' v' hplace ⟨k, hleast, hmost, ht⟩
      exact (hr.times k _ _ _ _ _ _ hplace ht).imp fun _ ht => ⟨k, hleast, hmost, ht⟩
    · rintro u t v n u' v' hplace ⟨k, hleast, hmost, ht⟩
      exact (hr'.times k _ _ _ _ _ _ hplace ht).imp fun _ ht => ⟨k, hleast, hmost, ht⟩
  | group number name r ih =>
    obtain ⟨hr, hr'⟩ := ih h
    constructor
    · rintro u t v n u' v' hplace ⟨m, -, ht⟩
      obtain ⟨m', ht⟩ := hr _ _ _ _ _ _ hplace ht
      exact ⟨_, m', rfl, ht⟩
    · rintro u t v n u' v' hplace ⟨m, -, ht⟩
      obtain ⟨m', ht⟩ := hr' _ _ _ _ _ _ hplace ht
      exact ⟨_, m', rfl, ht⟩

section
variable {r : Regex} {u t v : Text} {n : List Note}

/-- Under other numbers an expression accepts the same texts. -/
theorem accepts_renumbered (m : Nat) : (r.renumbered m).Accepts t ↔ r.Accepts t := by
  obtain ⟨hto, hback⟩ := into_renumbered (r := r) (.inl trivial : True ∨ r.looks = []) m
  constructor
  · rintro ⟨n, h⟩
    exact hback _ _ _ _ _ _ (fun _ => ⟨rfl, rfl⟩) h
  · rintro ⟨n, h⟩
    exact hto _ _ _ _ _ _ (fun _ => ⟨rfl, rfl⟩) h

/-- An expression without conditions takes what it accepts wherever it stands. -/
theorem takes_of_accepts (hlooks : r.looks = []) (h : r.Accepts t) (m : Nat) (u v : Text) :
    ∃ n, (r.renumbered m).takes u t v n := by
  obtain ⟨n, h⟩ := h
  exact (into_renumbered (.inr hlooks) m).1 _ _ _ _ u v False.elim h

/-- An expression without conditions accepts what it takes anywhere. -/
theorem accepts_of_takes (hlooks : r.looks = []) {m : Nat}
    (h : (r.renumbered m).takes u t v n) : r.Accepts t :=
  (into_renumbered (.inr hlooks) m).2 _ _ _ _ [] [] False.elim h

end

end Regex

end NestedRouting
