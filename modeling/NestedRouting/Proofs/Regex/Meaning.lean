import NestedRouting.Proofs.Regex.Traversal

/-!
# What an expression takes

`Regex.takes` says which text an expression takes between a text in front and a text behind, and
which places it notes on the way. The code of an expression does just that (`means_code`): a path
that enters the code leaves it at its end, behind a text that the expression takes, and every such
text has its path. With the laws of traversals, a search has a result if and only if the expression
takes some part of the text (`search_isSome_iff`), and its result takes such a part
(`takes_of_search`).
-/

namespace NestedRouting

open Position (between)

/-! ## Spans -/

/-- What can be taken between a text in front and a text behind, with the places noted on the way,
the latest first. -/
abbrev Span := (front taken behind : Text) → (notes : List Note) → Prop

namespace Span

/-- Takes nothing. -/
def nothing : Span := fun _ t _ n => t = [] ∧ n = []

/-- One span behind the other. -/
def andThen (R S : Span) : Span := fun u t v n =>
  ∃ t₁ t₂ n₁ n₂, t = t₁ ++ t₂ ∧ n = n₂ ++ n₁ ∧ R u t₁ (t₂ ++ v) n₁ ∧ S (u ++ t₁) t₂ v n₂

/-- A span several times. -/
def times (R : Span) : Nat → Span
  | 0 => nothing
  | k + 1 => R.andThen (R.times k)

variable {R S T : Span} {u t v : Text} {n : List Note}

/-- Behind nothing a span takes what it takes by itself. -/
theorem nothing_andThen : nothing.andThen R u t v n ↔ R u t v n := by
  constructor
  · rintro ⟨_, t, _, n, rfl, rfl, ⟨rfl, rfl⟩, h⟩
    rw [List.append_nil] at h
    rwa [List.append_nil]
  · intro h
    exact ⟨[], t, [], n, rfl, (List.append_nil n).symm, ⟨rfl, rfl⟩, by rwa [List.append_nil]⟩

/-- Three spans, one behind the other, in whichever way they are grouped. -/
theorem andThen_assoc :
    (R.andThen S).andThen T u t v n ↔ R.andThen (S.andThen T) u t v n := by
  constructor
  · rintro ⟨_, t₃, _, n₃, rfl, rfl, ⟨t₁, t₂, n₁, n₂, rfl, rfl, hr, hs⟩, ht⟩
    refine ⟨t₁, t₂ ++ t₃, n₁, n₃ ++ n₂, by simp, by simp, ?_, t₂, t₃, n₂, n₃, rfl, rfl, hs, ?_⟩
    · rwa [List.append_assoc]
    · rwa [List.append_assoc]
  · rintro ⟨t₁, _, n₁, _, rfl, rfl, hr, t₂, t₃, n₂, n₃, rfl, rfl, hs, ht⟩
    refine ⟨t₁ ++ t₂, t₃, n₂ ++ n₁, n₃, by simp, by simp, ⟨t₁, t₂, n₁, n₂, rfl, rfl, ?_, hs⟩, ?_⟩
    · rwa [← List.append_assoc]
    · rwa [← List.append_assoc]

/-- What two spans take depends only on what each of them takes. -/
theorem andThen_congr {R' S' : Span} (hr : ∀ {u t v n}, R u t v n ↔ R' u t v n)
    (hs : ∀ {u t v n}, S u t v n ↔ S' u t v n) :
    R.andThen S u t v n ↔ R'.andThen S' u t v n := by
  simp only [andThen, hr, hs]

/-- Several times, and then some more times. -/
theorem times_add (k l : Nat) :
    R.times (k + l) u t v n ↔ (R.times k).andThen (R.times l) u t v n := by
  induction k generalizing u t v n with
  | zero => rw [Nat.zero_add, times, nothing_andThen]
  | succ k ih =>
    rw [Nat.succ_add, times, times, andThen_assoc]
    exact andThen_congr .rfl ih

/-- A span taken once. -/
theorem times_one : R.times 1 u t v n ↔ R u t v n := by
  constructor
  · rintro ⟨t, _, n, _, rfl, rfl, h, rfl, rfl⟩
    rw [List.nil_append] at h
    simpa using h
  · intro h
    exact ⟨t, [], n, [], by simp, rfl, h, rfl, rfl⟩

end Span

/-- What an expression takes. -/
def Regex.takes : Regex → Span
  | empty => .nothing
  | set s => fun _ t _ n => (∃ c, t = [c] ∧ s.mem c = true) ∧ n = []
  | look l => fun u t v n => t = [] ∧ n = [] ∧ l.holds (between u v) = true
  | seq r s => r.takes.andThen s.takes
  | alt r s => fun u t v n => r.takes u t v n ∨ s.takes u t v n
  | loop r least most _ => fun u t v n =>
    ∃ k, least ≤ k ∧ (∀ m, most = some m → k ≤ max least m) ∧ r.takes.times k u t v n
  | group number _ r => fun u t v n =>
    ∃ m, n = ⟨number, true, u.length + t.length⟩ :: (m ++ [⟨number, false, u.length⟩]) ∧
      r.takes u t v m

/-! ## Code in a program -/

/-- Whether a program has some code from an instruction on. -/
def Installed (program : List Instr) : Nat → List Instr → Prop
  | _, [] => True
  | f, i :: c => program[f]? = some i ∧ Installed program (f + 1) c

/-- A program has two parts of code if it has each where it belongs. -/
theorem installed_append {program c d : List Instr} {f : Nat} :
    Installed program f (c ++ d) ↔ Installed program f c ∧ Installed program (f + c.length) d := by
  induction c generalizing f with
  | nil => simp [Installed]
  | cons i c ih =>
    rw [List.cons_append, Installed, Installed, ih, List.length_cons, and_assoc, Nat.add_assoc,
      Nat.add_comm 1]

/-- The second part of a program is installed behind the first. -/
theorem installed_behind (front c : List Instr) : Installed (front ++ c) front.length c := by
  induction c generalizing front with
  | nil => trivial
  | cons i c ih =>
    refine ⟨by simp, ?_⟩
    have h := ih (front ++ [i])
    rwa [List.append_assoc, List.length_append] at h

/-- A way between two parts of a text. -/
def Way.at (f : Nat) (u v : Text) (ns : List Note) : Way := ⟨f, between u v, ns⟩

/-- An instruction takes the next character if it is in its set. -/
theorem Instr.mem_follow_take_at {s : CharSet} {f : Nat} {u x : Text} {ns : List Note} {w : Way} :
    w ∈ (take s).follow (.at f u x ns) ↔
      ∃ c v, x = c :: v ∧ s.mem c = true ∧ w = .at (f + 1) (u ++ [c]) v ns := by
  rw [mem_follow_take]
  simp only [Way.at, ← Position.between_cons]
  rfl

@[simp] theorem Way.next_at {f : Nat} {u v : Text} {ns : List Note} : (Way.at f u v ns).next = f :=
  rfl

@[simp] theorem Way.goTo_at {f g : Nat} {u v : Text} {ns : List Note} :
    (Way.at f u v ns).goTo g = .at g u v ns := rfl

section
variable {program : List Instr} {f g k : Nat} {u v : Text} {ns : List Note} {w : Way}

/-- The start of a path, under another name of its instruction. -/
theorem Path.from_eq (h : Path program k (.at f u v ns) w) (hfg : f = g) :
    Path program k (.at g u v ns) w := hfg ▸ h

/-- The end of a path, under another name of its instruction. -/
theorem Path.to_eq (h : Path program k w (.at f u v ns)) (hfg : f = g) :
    Path program k w (.at g u v ns) := hfg ▸ h

end

/-- Some code does what a span says: what the span takes has its path through the code, and a path
through the code to its end or behind it passes the end where the span has taken a text. -/
structure Means (c : List Instr) (R : Span) : Prop where
  enter : ∀ {program f}, Installed program f c → ∀ {u t v n}, R u t v n → ∀ ns,
    ∃ k, Path program k (.at f u (t ++ v) ns) (.at (f + c.length) (u ++ t) v (n ++ ns))
  leave : ∀ {program f}, Installed program f c → ∀ {k u x ns w},
    Path program k (.at f u x ns) w → f + c.length ≤ w.next →
    ∃ t v n j, x = t ++ v ∧ R u t v n ∧ j ≤ k ∧
      Path program j (.at (f + c.length) (u ++ t) v (n ++ ns)) w

/-- Code that does what one span says does what an equal span says. -/
theorem Means.congr {c : List Instr} {R S : Span} (h : Means c R)
    (hrs : ∀ {u t v n}, R u t v n ↔ S u t v n) : Means c S where
  enter hc _ _ _ _ hs := h.enter hc (hrs.2 hs)
  leave hc _ _ _ _ _ hp hw := by
    obtain ⟨t, v, n, j, hx, hr, hj, hp⟩ := h.leave hc hp hw
    exact ⟨t, v, n, j, hx, hrs.1 hr, hj, hp⟩

/-- No code takes nothing. -/
theorem means_nil : Means [] .nothing where
  enter := by
    rintro program f - u t v n ⟨rfl, rfl⟩ ns
    rw [List.append_nil]
    exact ⟨0, .refl⟩
  leave := by
    intro program f _ k u x ns w hp _
    refine ⟨[], x, [], k, rfl, ⟨rfl, rfl⟩, Nat.le_refl _, ?_⟩
    rwa [List.append_nil]

/-- The first step of a path that ends behind its first instruction. -/
theorem Path.step_of_lt {program : List Instr} {k : Nat} {w v : Way} {i : Instr}
    (h : Path program k w v) (hi : program[w.next]? = some i) (hlt : w.next < v.next) :
    ∃ x j, k = j + 1 ∧ x ∈ i.follow w ∧ Path program j x v := by
  cases h with
  | refl => exact absurd hlt (Nat.lt_irrefl _)
  | step hi' hx hp =>
    obtain rfl := Option.some.inj (hi.symm.trans hi')
    exact ⟨_, _, rfl, hx, hp⟩

/-- To take a character of a set is what a set takes. -/
theorem means_take (s : CharSet) : Means [.take s] (Regex.set s).takes where
  enter := by
    rintro program f ⟨hi, -⟩ u t v n ⟨⟨c, rfl, hc⟩, rfl⟩ ns
    exact ⟨1, .step hi (Instr.mem_follow_take_at.2 ⟨c, v, rfl, hc, rfl⟩) .refl⟩
  leave := by
    rintro program f ⟨hi, -⟩ k u x ns w hp hw
    obtain ⟨y, j, rfl, hy, hp⟩ := hp.step_of_lt hi hw
    obtain ⟨c, v, rfl, hc, rfl⟩ := Instr.mem_follow_take_at.1 hy
    exact ⟨[c], v, [], j, rfl, ⟨⟨c, rfl, hc⟩, rfl⟩, Nat.le_succ _, hp⟩

/-- To check a place is what a look takes. -/
theorem means_check (l : Look) : Means [.check l] (Regex.look l).takes where
  enter := by
    rintro program f ⟨hi, -⟩ u t v n ⟨rfl, rfl, hl⟩ ns
    rw [List.append_nil]
    exact ⟨1, .step hi (Instr.mem_follow_check.2 ⟨hl, rfl⟩) .refl⟩
  leave := by
    rintro program f ⟨hi, -⟩ k u x ns w hp hw
    obtain ⟨y, j, rfl, hy, hp⟩ := hp.step_of_lt hi hw
    obtain ⟨hl, rfl⟩ := Instr.mem_follow_check.1 hy
    refine ⟨[], x, [], j, rfl, ⟨rfl, rfl, hl⟩, Nat.le_succ _, ?_⟩
    rw [List.append_nil]
    exact hp

/-- One part of code behind the other takes one span behind the other. -/
theorem Means.append {c d : List Instr} {R S : Span} (hc : Means c R) (hd : Means d S) :
    Means (c ++ d) (R.andThen S) where
  enter := by
    rintro program f h u t v n ⟨t₁, t₂, n₁, n₂, rfl, rfl, hr, hs⟩ ns
    obtain ⟨h₁, h₂⟩ := installed_append.1 h
    obtain ⟨k, hp⟩ := hc.enter h₁ hr ns
    obtain ⟨l, hq⟩ := hd.enter h₂ hs (n₁ ++ ns)
    refine ⟨k + l, ?_⟩
    simp only [List.append_assoc, List.length_append, ← Nat.add_assoc] at hp hq ⊢
    exact hp.trans hq
  leave := by
    intro program f h k u x ns w hp hw
    obtain ⟨h₁, h₂⟩ := installed_append.1 h
    rw [List.length_append, ← Nat.add_assoc] at hw ⊢
    obtain ⟨t₁, v₁, n₁, j, rfl, hr, hj, hp⟩ := hc.leave h₁ hp (by omega)
    obtain ⟨t₂, v, n₂, l, rfl, hs, hl, hp⟩ := hd.leave h₂ hp hw
    refine ⟨t₁ ++ t₂, v, n₂ ++ n₁, l, by simp, ⟨t₁, t₂, n₁, n₂, rfl, rfl, hr, hs⟩, by omega, ?_⟩
    simpa only [List.append_assoc] using hp

/-- A fork before two parts of code takes what one of them takes. -/
theorem Means.alt {c d : List Instr} {R S : Span} (hc : Means c R) (hd : Means d S) :
    Means (.fork true (c.length + 1) :: (c ++ .skip d.length :: d))
      (fun u t v n => R u t v n ∨ S u t v n) where
  enter := by
    rintro program f ⟨hfork, h⟩ u t v n hrs ns
    obtain ⟨h₁, hskip, h₂⟩ := installed_append.1 h
    simp only [List.length_cons, List.length_append]
    rcases hrs with hr | hs
    · obtain ⟨k, hp⟩ := hc.enter h₁ hr ns
      have hq : Path program 1 (.at (f + 1 + c.length) (u ++ t) v (n ++ ns)) _ :=
        .step hskip (Instr.mem_follow_skip.2 rfl) .refl
      exact ⟨_, .step hfork (Instr.mem_follow_fork.2 (.inl rfl))
        (hp.trans (hq.to_eq (by simp only [Way.next_at]; omega)))⟩
    · obtain ⟨k, hp⟩ := hd.enter h₂ hs ns
      exact ⟨_, .step hfork (Instr.mem_follow_fork.2 (.inr rfl))
        ((hp.from_eq (by simp only [Way.next_at]; omega)).to_eq (by omega))⟩
  leave := by
    rintro program f ⟨hfork, h⟩ k u x ns w hp hw
    obtain ⟨h₁, hskip, h₂⟩ := installed_append.1 h
    simp only [List.length_cons, List.length_append] at hw ⊢
    obtain ⟨y, j, rfl, hy, hp⟩ := hp.step_of_lt hfork (by simp only [Way.next_at]; omega)
    rcases Instr.mem_follow_fork.1 hy with rfl | rfl
    · obtain ⟨t, v, n, l, rfl, hr, hl, hp⟩ := hc.leave h₁ hp (by omega)
      obtain ⟨y, m, rfl, hy, hp⟩ := hp.step_of_lt hskip (by simp only [Way.next_at]; omega)
      obtain rfl := Instr.mem_follow_skip.1 hy
      exact ⟨t, v, n, m, rfl, .inl hr, by omega,
        hp.from_eq (by simp only [Way.next_at]; omega)⟩
    · have hp' : Path program j (.at (f + 1 + c.length + 1) u x ns) w :=
        hp.from_eq (by simp only [Way.next_at]; omega)
      obtain ⟨t, v, n, l, rfl, hs, hl, hp⟩ := hd.leave h₂ hp' (by omega)
      exact ⟨t, v, n, l, rfl, .inr hs, by omega, hp.from_eq (by omega)⟩

/-! ## Loops -/

/-- The code of `k` rounds takes a span `k` times. -/
theorem Means.rounds {c : List Instr} {R : Span} (hc : Means c R) (k : Nat) :
    Means (Regex.rounds k c) (R.times k) := by
  induction k with
  | zero => exact means_nil
  | succ k ih =>
    rw [Regex.rounds, List.replicate_succ, List.flatten_cons]
    exact hc.append ih

/-- Each round that may be left out has a fork of its own. -/
theorem length_roundsUpTo (greedy : Bool) (c : List Instr) (most : Nat) :
    (Regex.roundsUpTo greedy c most).length = most * (c.length + 1) := by
  induction most with
  | zero => simp [Regex.roundsUpTo]
  | succ most ih =>
    rw [Regex.roundsUpTo, List.length_cons, List.length_append, ih, Nat.succ_mul]
    omega

/-- Rounds that may each be left out take a span at most that often. -/
theorem Means.roundsUpTo {c : List Instr} {R : Span} (hc : Means c R) (greedy : Bool) (most : Nat) :
    Means (Regex.roundsUpTo greedy c most) (fun u t v n => ∃ k ≤ most, R.times k u t v n) := by
  induction most with
  | zero =>
    refine means_nil.congr fun {u t v n} => ⟨fun h => ⟨0, Nat.le_refl _, h⟩, ?_⟩
    rintro ⟨k, hk, h⟩
    obtain rfl := Nat.le_zero.1 hk
    exact h
  | succ most ih =>
    have hmore := hc.append ih
    have hlen : (c ++ Regex.roundsUpTo greedy c most).length =
        c.length + most * (c.length + 1) := by
      rw [List.length_append, length_roundsUpTo]
    refine ⟨?_, ?_⟩
    · rintro program f ⟨hfork, h⟩ u t v n ⟨k, hk, hr⟩ ns
      rw [length_roundsUpTo, Nat.succ_mul]
      cases k with
      | zero =>
        obtain ⟨rfl, rfl⟩ := hr
        rw [List.append_nil]
        have hp : Path program 1 (.at f u v ns) _ :=
          .step hfork (Instr.mem_follow_fork.2 (.inr rfl)) .refl
        exact ⟨1, hp.to_eq (by simp only [Way.next_at]; omega)⟩
      | succ k =>
        obtain ⟨t₁, t₂, n₁, n₂, rfl, rfl, h₁, h₂⟩ := hr
        obtain ⟨j, hp⟩ := hmore.enter h
          ⟨t₁, t₂, n₁, n₂, rfl, rfl, h₁, k, Nat.le_of_succ_le_succ hk, h₂⟩ ns
        exact ⟨j + 1, .step hfork (Instr.mem_follow_fork.2 (.inl rfl)) (hp.to_eq (by omega))⟩
    · rintro program f ⟨hfork, h⟩ k u x ns w hp hw
      rw [length_roundsUpTo, Nat.succ_mul] at hw ⊢
      obtain ⟨y, j, rfl, hy, hp⟩ := hp.step_of_lt hfork (by simp only [Way.next_at]; omega)
      rcases Instr.mem_follow_fork.1 hy with rfl | rfl
      · obtain ⟨_, v, _, l, rfl, ⟨t₁, t₂, n₁, n₂, rfl, rfl, h₁, i, hi, h₂⟩, hl, hp⟩ :=
          hmore.leave h hp (by omega)
        exact ⟨t₁ ++ t₂, v, n₂ ++ n₁, l, rfl,
          ⟨i + 1, Nat.succ_le_succ hi, t₁, t₂, n₁, n₂, rfl, rfl, h₁, h₂⟩, by omega,
          hp.from_eq (by omega)⟩
      · refine ⟨[], x, [], j, rfl, ⟨0, Nat.zero_le _, rfl, rfl⟩, by omega, ?_⟩
        rw [List.append_nil]
        exact hp.from_eq (by simp only [Way.next_at]; omega)

/-- A jump back is one more instruction. -/
theorem length_oneOrMore (greedy : Bool) (c : List Instr) :
    (Regex.oneOrMore greedy c).length = c.length + 1 := by
  rw [Regex.oneOrMore, List.length_append, List.length_singleton]

/-- Some code with a jump back over it: whoever comes to the jump has done a round, and does another
one or goes on. -/
theorem Means.oneOrMore {c : List Instr} {R : Span} (hc : Means c R) (greedy : Bool) :
    Means (Regex.oneOrMore greedy c) (fun u t v n => ∃ k, R.times (k + 1) u t v n) where
  enter := by
    rintro program f h u t v n ⟨k, hr⟩ ns
    obtain ⟨h₁, hagain, -⟩ := installed_append.1 h
    rw [length_oneOrMore]
    induction k generalizing u t n ns with
    | zero =>
      obtain ⟨j, hp⟩ := hc.enter h₁ (Span.times_one.1 hr) ns
      exact ⟨_, hp.trans (.step hagain (Instr.mem_follow_again.2 (.inr rfl)) .refl)⟩
    | succ k ih =>
      obtain ⟨t₁, t₂, n₁, n₂, rfl, rfl, hr₁, hr₂⟩ := hr
      obtain ⟨j, hp⟩ := hc.enter h₁ hr₁ ns
      obtain ⟨l, hq⟩ := ih hr₂ (n₁ ++ ns)
      simp only [List.append_assoc] at hp hq ⊢
      refine ⟨j + (l + 1), hp.trans (.step hagain (Instr.mem_follow_again.2 (.inl rfl)) ?_)⟩
      exact hq.from_eq (by simp only [Way.next_at]; omega)
  leave := by
    intro program f h k u x ns w hp hw
    obtain ⟨h₁, hagain, -⟩ := installed_append.1 h
    rw [length_oneOrMore] at hw ⊢
    -- every round takes steps, so the induction is on the length of the path
    induction k using Nat.strongRecOn generalizing u x ns with
    | ind k ih =>
      obtain ⟨t₁, v₁, n₁, j, rfl, hr, hj, hp⟩ := hc.leave h₁ hp (by omega)
      obtain ⟨y, l, rfl, hy, hp⟩ := hp.step_of_lt hagain hw
      rcases Instr.mem_follow_again.1 hy with rfl | rfl
      · have hp' : Path program l (.at f (u ++ t₁) v₁ (n₁ ++ ns)) w :=
          hp.from_eq (by simp only [Way.next_at]; omega)
        obtain ⟨t₂, v, n₂, m, rfl, ⟨i, hr'⟩, hm, hp⟩ := ih l (by omega) hp'
        refine ⟨t₁ ++ t₂, v, n₂ ++ n₁, m, by simp, ⟨i + 1, t₁, t₂, n₁, n₂, rfl, rfl, hr, hr'⟩,
          by omega, ?_⟩
        simpa only [List.append_assoc] using hp
      · exact ⟨t₁, v₁, n₁, l, rfl, ⟨0, Span.times_one.2 hr⟩, by omega, hp⟩

/-- A jump over some code: one does the code, or leaves it out. -/
theorem Means.orNothing {c : List Instr} {R : Span} (hc : Means c R) (greedy : Bool) :
    Means (.fork greedy c.length :: c)
      (fun u t v n => R u t v n ∨ Span.nothing u t v n) where
  enter := by
    rintro program f ⟨hfork, h⟩ u t v n hr ns
    rw [List.length_cons]
    rcases hr with hr | ⟨rfl, rfl⟩
    · obtain ⟨k, hp⟩ := hc.enter h hr ns
      exact ⟨k + 1, .step hfork (Instr.mem_follow_fork.2 (.inl rfl)) (hp.to_eq (by omega))⟩
    · rw [List.append_nil]
      have hp : Path program 1 (.at f u v ns) _ :=
        .step hfork (Instr.mem_follow_fork.2 (.inr rfl)) .refl
      exact ⟨1, hp.to_eq (by simp only [Way.next_at]; omega)⟩
  leave := by
    rintro program f ⟨hfork, h⟩ k u x ns w hp hw
    rw [List.length_cons] at hw ⊢
    obtain ⟨y, j, rfl, hy, hp⟩ := hp.step_of_lt hfork (by simp only [Way.next_at]; omega)
    rcases Instr.mem_follow_fork.1 hy with rfl | rfl
    · obtain ⟨t, v, n, l, rfl, hr, hl, hp⟩ := hc.leave h hp (by omega)
      exact ⟨t, v, n, l, rfl, .inl hr, by omega, hp.from_eq (by omega)⟩
    · refine ⟨[], x, [], j, rfl, .inr ⟨rfl, rfl⟩, by omega, ?_⟩
      rw [List.append_nil]
      exact hp.from_eq (by simp only [Way.next_at]; omega)

/-- Some code between a jump over it and a jump back to that one. -/
theorem Means.roundAndBack {c : List Instr} {R : Span} (hc : Means c R) (greedy : Bool) :
    Means (.fork greedy (c.length + 1) :: (c ++ [.back (c.length + 1)]))
      (fun u t v n => ∃ k, R.times k u t v n) where
  enter := by
    rintro program f ⟨hfork, h⟩ u t v n ⟨k, hr⟩ ns
    obtain ⟨h₁, hback, -⟩ := installed_append.1 h
    simp only [List.length_cons, List.length_append, List.length_nil]
    induction k generalizing u t n ns with
    | zero =>
      obtain ⟨rfl, rfl⟩ := hr
      rw [List.append_nil]
      have hp : Path program 1 (.at f u v ns) _ :=
        .step hfork (Instr.mem_follow_fork.2 (.inr rfl)) .refl
      exact ⟨1, hp.to_eq (by simp only [Way.next_at]; omega)⟩
    | succ k ih =>
      obtain ⟨t₁, t₂, n₁, n₂, rfl, rfl, hr₁, hr₂⟩ := hr
      obtain ⟨j, hp⟩ := hc.enter h₁ hr₁ ns
      obtain ⟨l, hq⟩ := ih hr₂ (n₁ ++ ns)
      simp only [List.append_assoc] at hp hq ⊢
      refine ⟨j + (l + 1) + 1, .step hfork (Instr.mem_follow_fork.2 (.inl rfl))
        (hp.trans (.step hback (Instr.mem_follow_back.2 rfl) ?_))⟩
      exact hq.from_eq (by simp only [Way.next_at]; omega)
  leave := by
    rintro program f ⟨hfork, h⟩ k u x ns w hp hw
    obtain ⟨h₁, hback, -⟩ := installed_append.1 h
    simp only [List.length_cons, List.length_append, List.length_nil] at hw ⊢
    induction k using Nat.strongRecOn generalizing u x ns with
    | ind k ih =>
      obtain ⟨y, j, rfl, hy, hp⟩ := hp.step_of_lt hfork (by simp only [Way.next_at]; omega)
      rcases Instr.mem_follow_fork.1 hy with rfl | rfl
      · obtain ⟨t₁, v₁, n₁, l, rfl, hr, hl, hp⟩ := hc.leave h₁ hp (by omega)
        obtain ⟨y, m, rfl, hy, hp⟩ := hp.step_of_lt hback (by simp only [Way.next_at]; omega)
        obtain rfl := Instr.mem_follow_back.1 hy
        have hp' : Path program m (.at f (u ++ t₁) v₁ (n₁ ++ ns)) w :=
          hp.from_eq (by simp only [Way.next_at]; omega)
        obtain ⟨t₂, v, n₂, i, rfl, ⟨r, hr'⟩, hi, hp⟩ := ih m (by omega) hp'
        refine ⟨t₁ ++ t₂, v, n₂ ++ n₁, i, by simp, ⟨r + 1, t₁, t₂, n₁, n₂, rfl, rfl, hr, hr'⟩,
          by omega, ?_⟩
        simpa only [List.append_assoc] using hp
      · refine ⟨[], x, [], j, rfl, ⟨0, rfl, rfl⟩, by omega, ?_⟩
        rw [List.append_nil]
        exact hp.from_eq (by simp only [Way.next_at]; omega)

/-- A loop without bounds takes a span any number of times. -/
theorem Means.zeroOrMore {c : List Instr} {R : Span} (hc : Means c R) (nullable greedy : Bool) :
    Means (Regex.zeroOrMore nullable greedy c) (fun u t v n => ∃ k, R.times k u t v n) := by
  unfold Regex.zeroOrMore
  split
  · rw [← length_oneOrMore greedy c]
    refine ((hc.oneOrMore greedy).orNothing greedy).congr fun {u t v n} => ?_
    constructor
    · rintro (⟨k, hr⟩ | hr)
      · exact ⟨k + 1, hr⟩
      · exact ⟨0, hr⟩
    · rintro ⟨k, hr⟩
      cases k with
      | zero => exact .inr hr
      | succ k => exact .inl ⟨k, hr⟩
  · exact hc.roundAndBack greedy

/-- The code of a loop takes a span as often as the bounds allow. -/
theorem Means.loop {r : Regex} {c : List Instr} (hc : Means c r.takes) (nullable : Bool)
    (least : Nat) (most : Option Nat) (greedy : Bool) :
    Means (Regex.loopCode nullable least most greedy c) (Regex.loop r least most greedy).takes := by
  cases most with
  | some most =>
    refine ((hc.rounds least).append (hc.roundsUpTo greedy (most - least))).congr
      fun {u t v n} => ?_
    constructor
    · rintro ⟨t₁, t₂, n₁, n₂, rfl, rfl, h₁, k, hk, h₂⟩
      refine ⟨least + k, Nat.le_add_right .., fun m hm => ?_,
        (Span.times_add _ _).2 ⟨t₁, t₂, n₁, n₂, rfl, rfl, h₁, h₂⟩⟩
      obtain rfl := Option.some.inj hm
      omega
    · rintro ⟨k, hleast, hmost, hr⟩
      have hk : k ≤ max least most := hmost most rfl
      obtain ⟨j, rfl⟩ := Nat.exists_eq_add_of_le hleast
      obtain ⟨t₁, t₂, n₁, n₂, rfl, rfl, h₁, h₂⟩ := (Span.times_add _ _).1 hr
      exact ⟨t₁, t₂, n₁, n₂, rfl, rfl, h₁, j, by omega, h₂⟩
  | none =>
    cases least with
    | zero =>
      refine (hc.zeroOrMore nullable greedy).congr fun {u t v n} => ⟨?_, ?_⟩
      · rintro ⟨k, hr⟩
        exact ⟨k, Nat.zero_le _, nofun, hr⟩
      · rintro ⟨k, -, -, hr⟩
        exact ⟨k, hr⟩
    | succ least =>
      refine ((hc.rounds least).append (hc.oneOrMore greedy)).congr fun {u t v n} => ⟨?_, ?_⟩
      · rintro ⟨t₁, t₂, n₁, n₂, rfl, rfl, h₁, k, h₂⟩
        exact ⟨least + (k + 1), by omega, nofun,
          (Span.times_add _ _).2 ⟨t₁, t₂, n₁, n₂, rfl, rfl, h₁, h₂⟩⟩
      · rintro ⟨k, hk, -, hr⟩
        obtain ⟨j, rfl⟩ := Nat.exists_eq_add_of_le hk
        rw [Nat.succ_add_eq_add_succ] at hr
        obtain ⟨t₁, t₂, n₁, n₂, rfl, rfl, h₁, h₂⟩ := (Span.times_add _ _).1 hr
        exact ⟨t₁, t₂, n₁, n₂, rfl, rfl, h₁, j, h₂⟩

/-- The code of a group notes where it starts and where it stops. -/
theorem Means.group {r : Regex} {c : List Instr} (hc : Means c r.takes) (number : Nat)
    (name : Option Text) :
    Means (.note number false :: (c ++ [.note number true]))
      (Regex.group number name r).takes where
  enter := by
    rintro program f ⟨hstart, h⟩ u t v n ⟨m, rfl, hr⟩ ns
    obtain ⟨h₁, hstop, -⟩ := installed_append.1 h
    obtain ⟨k, hp⟩ := hc.enter h₁ hr (⟨number, false, u.length⟩ :: ns)
    have hq : Path program 1 (.at (f + 1 + c.length) (u ++ t) v
        (m ++ ⟨number, false, u.length⟩ :: ns)) _ :=
      .step hstop (Instr.mem_follow_note.2 rfl) .refl
    have hplace : (between (u ++ t) v).index = u.length + t.length := List.length_append
    refine ⟨k + 1 + 1, .step hstart (Instr.mem_follow_note.2 rfl) (hp.trans ?_)⟩
    simp only [List.length_cons, List.length_append, List.cons_append, List.append_assoc,
      List.nil_append, List.length_nil]
    rw [← hplace]
    exact Path.to_eq (f := f + 1 + c.length + 1) hq (by omega)
  leave := by
    rintro program f ⟨hstart, h⟩ k u x ns w hp hw
    obtain ⟨h₁, hstop, -⟩ := installed_append.1 h
    simp only [List.length_cons, List.length_append, List.length_nil] at hw ⊢
    obtain ⟨y, j, rfl, hy, hp⟩ := hp.step_of_lt hstart (by simp only [Way.next_at]; omega)
    obtain rfl := Instr.mem_follow_note.1 hy
    have hp' : Path program j (.at (f + 1) u x (⟨number, false, u.length⟩ :: ns)) w := hp
    obtain ⟨t, v, m, l, rfl, hr, hl, hp⟩ := hc.leave h₁ hp' (by omega)
    obtain ⟨y, i, rfl, hy, hp⟩ := hp.step_of_lt hstop (by simp only [Way.next_at]; omega)
    obtain rfl := Instr.mem_follow_note.1 hy
    have hplace : (between (u ++ t) v).index = u.length + t.length := List.length_append
    refine ⟨t, v, _, i, rfl, ⟨m, rfl, hr⟩, by omega, ?_⟩
    simp only [List.cons_append, List.append_assoc, List.nil_append]
    rw [← hplace]
    exact Path.from_eq (f := f + 1 + c.length + 1) hp (by omega)

/-- The code of an expression does what the expression takes. -/
theorem means_code (r : Regex) : Means r.code r.takes := by
  induction r with
  | empty => exact means_nil
  | set s => exact means_take s
  | look l => exact means_check l
  | seq r s ihr ihs => exact ihr.append ihs
  | alt r s ihr ihs => exact ihr.alt ihs
  | loop r least most greedy ih => exact ih.loop r.isNullable least most greedy
  | group number name r ih => exact ih.group number name

/-! ## Jumps of the code -/

section
variable {c d : List Instr} {i : Instr}

/-- No code has no jumps. -/
theorem contained_nil : Contained [] := fun _ _ h => nomatch h

/-- Jumps stay inside both parts of code. -/
theorem Contained.append (hc : Contained c) (hd : Contained d) : Contained (c ++ d) := by
  intro k i hi
  rw [List.length_append]
  rcases Nat.lt_or_ge k c.length with hk | hk
  · rw [List.getElem?_append_left hk] at hi
    have := hc k i hi
    omega
  · rw [List.getElem?_append_right hk] at hi
    have := hd _ i hi
    omega

/-- A first instruction that jumps ahead, and not behind the end. -/
theorem Contained.cons (hc : Contained c) (hb : i.behind = 0) (ha : i.ahead ≤ c.length) :
    Contained (i :: c) := by
  intro k j hj
  rw [List.length_cons]
  cases k with
  | zero =>
    obtain rfl := Option.some.inj hj
    omega
  | succ k =>
    have := hc k j hj
    omega

/-- A last instruction that jumps back, and not before the start. -/
theorem Contained.concat (hc : Contained c) (hb : i.behind ≤ c.length) (ha : i.ahead = 0) :
    Contained (c ++ [i]) := by
  intro k j hj
  rw [List.length_append, List.length_singleton]
  rcases Nat.lt_or_ge k c.length with hk | hk
  · rw [List.getElem?_append_left hk] at hj
    have := hc k j hj
    omega
  · rw [List.getElem?_append_right hk] at hj
    obtain ⟨hk', rfl⟩ : k - c.length = 0 ∧ i = j := by
      cases hk' : k - c.length with
      | zero =>
        rw [hk'] at hj
        exact ⟨rfl, Option.some.inj hj⟩
      | succ k =>
        rw [hk'] at hj
        exact nomatch hj
    omega

/-- An instruction without jumps. -/
theorem contained_single (hb : i.behind = 0) (ha : i.ahead = 0) : Contained [i] :=
  contained_nil.cons hb (Nat.le_of_eq ha)

/-- The jumps of rounds stay inside them. -/
theorem Contained.rounds (hc : Contained c) (k : Nat) : Contained (Regex.rounds k c) := by
  induction k with
  | zero => exact contained_nil
  | succ k ih =>
    rw [Regex.rounds, List.replicate_succ, List.flatten_cons]
    exact hc.append ih

/-- The forks of rounds that may be left out jump to their end. -/
theorem Contained.roundsUpTo (hc : Contained c) (greedy : Bool) (most : Nat) :
    Contained (Regex.roundsUpTo greedy c most) := by
  induction most with
  | zero => exact contained_nil
  | succ most ih =>
    refine (hc.append ih).cons rfl ?_
    rw [List.length_append, length_roundsUpTo]
    exact Nat.le_refl _

/-- The jump back leads to the start of the code. -/
theorem Contained.oneOrMore (hc : Contained c) (greedy : Bool) :
    Contained (Regex.oneOrMore greedy c) :=
  hc.concat (Nat.le_refl _) rfl

/-- The jump over code and the jump back lead to its two ends. -/
theorem Contained.roundAndBack (hc : Contained c) (greedy : Bool) :
    Contained (.fork greedy (c.length + 1) :: (c ++ [.back (c.length + 1)])) := by
  intro k i hi
  simp only [List.length_cons, List.length_append, List.length_nil]
  cases k with
  | zero =>
    obtain rfl := Option.some.inj hi
    simp only [Instr.ahead, Instr.behind]
    omega
  | succ k =>
    rw [List.getElem?_cons_succ] at hi
    rcases Nat.lt_or_ge k c.length with hk | hk
    · rw [List.getElem?_append_left hk] at hi
      have := hc k i hi
      omega
    · rw [List.getElem?_append_right hk] at hi
      cases hk' : k - c.length with
      | zero =>
        rw [hk'] at hi
        obtain rfl := Option.some.inj hi
        simp only [Instr.ahead, Instr.behind]
        omega
      | succ j =>
        rw [hk'] at hi
        cases hi

/-- The jumps of a loop without bounds stay inside it. -/
theorem Contained.zeroOrMore (hc : Contained c) (nullable greedy : Bool) :
    Contained (Regex.zeroOrMore nullable greedy c) := by
  unfold Regex.zeroOrMore
  split
  · refine (hc.oneOrMore greedy).cons rfl ?_
    rw [length_oneOrMore]
    exact Nat.le_refl _
  · exact hc.roundAndBack greedy

/-- The jumps of a loop stay inside it. -/
theorem Contained.loop (hc : Contained c) (nullable : Bool) (least : Nat) (most : Option Nat)
    (greedy : Bool) : Contained (Regex.loopCode nullable least most greedy c) := by
  cases most with
  | some most => exact (hc.rounds least).append (hc.roundsUpTo greedy _)
  | none =>
    cases least with
    | zero => exact hc.zeroOrMore nullable greedy
    | succ least => exact (hc.rounds least).append (hc.oneOrMore greedy)

end

/-- The jumps of the code of an expression stay inside it. -/
theorem contained_code (r : Regex) : Contained r.code := by
  induction r with
  | empty => exact contained_nil
  | set | look => exact contained_single rfl rfl
  | seq r s ihr ihs => exact ihr.append ihs
  | alt r s ihr ihs =>
    refine (ihr.append (ihs.cons rfl (Nat.le_refl _))).cons rfl ?_
    simp only [List.length_append, List.length_cons, Instr.ahead]
    omega
  | loop r least most greedy ih => exact ih.loop r.isNullable least most greedy
  | group number name r ih => exact (ih.concat (Nat.zero_le _) rfl).cons rfl (Nat.zero_le _)

/-! ## Search -/

section
variable {r : Regex} {s : Text}

/-- The result of a search takes a part of the text, and notes what the expression notes. -/
theorem takes_of_search {w : Way} (h : r.search s = some w) :
    ∃ u t v n, s = u ++ (t ++ v) ∧ r.takes u t v n ∧ w = .at r.code.length (u ++ t) v n := by
  have ht := search_traversal (contained_code r) s
  rw [h] at ht
  obtain ⟨hend, x, hx, k, hp⟩ := ht.sound
  obtain ⟨p, hp', rfl⟩ := List.mem_map.1 hx
  obtain ⟨u, x, rfl, rfl⟩ := Position.mem_all_iff.1 hp'
  have hc : Installed r.code 0 r.code := installed_behind [] r.code
  have hw : 0 + r.code.length ≤ w.next := by
    rw [Nat.zero_add]
    exact List.getElem?_eq_none_iff.1 hend
  have hp : Path r.code k (.at 0 u x []) w := hp
  obtain ⟨t, v, n, j, rfl, ht, -, hp⟩ := (means_code r).leave hc hp hw
  rw [Nat.zero_add, List.append_nil] at hp
  refine ⟨u, t, v, n, rfl, ht, hp.of_end ?_⟩
  rw [Way.next_at]
  exact List.getElem?_eq_none_iff.2 (Nat.le_refl _)

/-- A search has a result if and only if the expression takes some part of the text. -/
theorem search_isSome_iff :
    (r.search s).isSome ↔ ∃ u t v n, s = u ++ (t ++ v) ∧ r.takes u t v n := by
  constructor
  · intro h
    obtain ⟨w, hw⟩ := Option.isSome_iff_exists.1 h
    obtain ⟨u, t, v, n, hs, ht, -⟩ := takes_of_search hw
    exact ⟨u, t, v, n, hs, ht⟩
  · rintro ⟨u, t, v, n, rfl, ht⟩
    have hc : Installed r.code 0 r.code := installed_behind [] r.code
    obtain ⟨k, hp⟩ := (means_code r).enter hc ht []
    have hways : ∀ w ∈ (Position.all (u ++ (t ++ v))).map Way.start,
        w.place.IsIn (u ++ (t ++ v)) := by
      intro w hw
      obtain ⟨p, hp, rfl⟩ := List.mem_map.1 hw
      exact Position.mem_all_iff.1 hp
    have hstart : Way.at 0 u (t ++ v) [] ∈ (Position.all (u ++ (t ++ v))).map Way.start :=
      List.mem_map.2 ⟨_, Position.mem_all_iff.2 ⟨u, t ++ v, rfl, rfl⟩, rfl⟩
    have hend : r.code[(Way.at (0 + r.code.length) (u ++ t) v (n ++ [])).next]? = none := by
      rw [Way.next_at, Nat.zero_add]
      exact List.getElem?_eq_none_iff.2 (Nat.le_refl _)
    exact Option.isSome_iff_exists.2
      ((search_traversal (contained_code r) _).complete hways hstart hp hend)

end

end NestedRouting
