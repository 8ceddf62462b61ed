import NestedRouting.Proofs.Regex.Meaning

/-!
# Searches behind other code and other text

Jumps are relative, and code that only asks for the end of the text (`Regex.LooksAhead`) cannot tell
what lies before the place where it starts. So a traversal of a program does the same behind other
code and behind other text, with its places and its notes moved by the length of that text
(`Traversal.behind`). If what stands in front takes just that text (`leadCode`), then so does a
search (`Traversal.lead`).
-/

namespace NestedRouting

open Position (between)

/-! ## Moving -/

/-- A place behind another text. -/
def Position.behind (b : Text) (p : Position) : Position :=
  ⟨b.length + p.index, p.before.or b.getLast?, p.rest⟩

/-- A note behind so many characters. -/
def Note.behind (count : Nat) (n : Note) : Note := { n with index := count + n.index }

/-- A way behind `front` instructions and another text, with some notes of its own. -/
def Way.behind (front : Nat) (b : Text) (ns : List Note) (w : Way) : Way :=
  ⟨front + w.next, w.place.behind b, w.notes.map (Note.behind b.length) ++ ns⟩

/-! ## Looking ahead -/

/-- Whether an instruction asks for nothing but the end of the text. -/
def Instr.LooksAhead : Instr → Prop
  | check l => l = .textEnd
  | _ => True

/-- Whether an expression asks for nothing but the end of the text. -/
def Regex.LooksAhead : Regex → Prop
  | empty | set _ => True
  | look l => l = .textEnd
  | seq r s | alt r s => r.LooksAhead ∧ s.LooksAhead
  | loop r _ _ _ | group _ _ r => r.LooksAhead

section
variable {c d : List Instr}

/-- Code that looks ahead only, and more such code. -/
theorem looksAhead_append (hc : ∀ i ∈ c, i.LooksAhead) (hd : ∀ i ∈ d, i.LooksAhead) :
    ∀ i ∈ c ++ d, i.LooksAhead := List.forall_mem_append.2 ⟨hc, hd⟩

/-- An instruction that looks ahead only in front of such code. -/
theorem looksAhead_cons {i : Instr} (hi : i.LooksAhead) (hc : ∀ i ∈ c, i.LooksAhead) :
    ∀ j ∈ i :: c, j.LooksAhead := List.forall_mem_cons.2 ⟨hi, hc⟩

/-- The code of a loop looks ahead only if the code inside does. -/
theorem looksAhead_loop (hc : ∀ i ∈ c, i.LooksAhead) (nullable : Bool) (least : Nat)
    (most : Option Nat) (greedy : Bool) :
    ∀ i ∈ Regex.loopCode nullable least most greedy c, i.LooksAhead := by
  have hrounds : ∀ n, ∀ i ∈ Regex.rounds n c, i.LooksAhead := by
    intro n i hi
    obtain ⟨d, hd, hmem⟩ := List.mem_flatten.1 hi
    exact hc i (List.eq_of_mem_replicate hd ▸ hmem)
  have hmore : ∀ i ∈ Regex.oneOrMore greedy c, i.LooksAhead :=
    looksAhead_append hc (looksAhead_cons trivial nofun)
  have hupTo : ∀ n, ∀ i ∈ Regex.roundsUpTo greedy c n, i.LooksAhead := by
    intro n
    induction n with
    | zero => exact nofun
    | succ n ih => exact looksAhead_cons trivial (looksAhead_append hc ih)
  cases most with
  | some most => exact looksAhead_append (hrounds least) (hupTo _)
  | none =>
    cases least with
    | zero =>
      simp only [Regex.loopCode, Regex.zeroOrMore]
      split
      · exact looksAhead_cons trivial hmore
      · exact looksAhead_cons trivial (looksAhead_append hc (looksAhead_cons trivial nofun))
    | succ least => exact looksAhead_append (hrounds _) hmore

/-- An expression that looks ahead only has code that does. -/
theorem Regex.LooksAhead.code {r : Regex} (h : r.LooksAhead) : ∀ i ∈ r.code, i.LooksAhead := by
  induction r with
  | empty => exact nofun
  | set s => exact looksAhead_cons trivial nofun
  | look l => exact looksAhead_cons h nofun
  | seq r s ihr ihs => exact looksAhead_append (ihr h.1) (ihs h.2)
  | alt r s ihr ihs =>
    exact looksAhead_cons trivial (looksAhead_append (ihr h.1) (looksAhead_cons trivial (ihs h.2)))
  | loop r least most greedy ih => exact looksAhead_loop (ih h) r.isNullable least most greedy
  | group number name r ih =>
    exact looksAhead_cons trivial (looksAhead_append (ih h) (looksAhead_cons trivial nofun))

end

/-! ## Traversals behind other code and other text -/

section
variable {program front : List Instr} {b : Text} {ns : List Note} {seen seen' : List (Nat × Nat)}
  {ways : List Way} {result : Option Way} {w : Way} {f : Nat}

/-- An instruction that looks ahead leads to the same places behind another text. -/
theorem Instr.follow_behind {i : Instr} (hi : i.LooksAhead) (hb : i.behind ≤ w.next) :
    i.follow (w.behind f b ns) = (i.follow w).map (.behind f b ns) := by
  cases i with
  | take s =>
    obtain ⟨next, ⟨index, before, rest⟩, notes⟩ := w
    cases rest with
    | nil => rfl
    | cons c rest =>
      simp only [follow, Way.behind, Position.behind]
      split <;> rfl
  | check l =>
    obtain rfl : l = .textEnd := hi
    cases hrest : w.place.rest with
    | nil => simp [follow, Way.behind, Position.behind, Look.holds, Way.goTo, hrest, Nat.add_assoc]
    | cons c rest => simp [follow, Way.behind, Position.behind, Look.holds, hrest]
  | note group isStop => rfl
  | fork greedy count =>
    cases greedy <;>
      simp [follow, Way.behind, Way.goTo, Nat.add_assoc]
  | again greedy count =>
    have hback : f + w.next - count = f + (w.next - count) := Nat.add_sub_assoc hb f
    cases greedy <;> simp [follow, Way.behind, Way.goTo, hback, Nat.add_assoc]
  | skip count => simp [follow, Way.behind, Way.goTo, Nat.add_assoc]
  | back count =>
    have hback : f + w.next - count = f + (w.next - count) := Nat.add_sub_assoc hb f
    simp [follow, Way.behind, Way.goTo, hback]

/-- A traversal does the same behind other code and another text. -/
theorem Traversal.behind (hc : Contained program) (hahead : ∀ i ∈ program, i.LooksAhead)
    (h : Traversal program seen ways result)
    (hseen : ∀ n k, (front.length + n, b.length + k) ∈ seen' ↔ (n, k) ∈ seen) :
    Traversal (front ++ program) seen' (ways.map (.behind front.length b ns))
      (result.map (.behind front.length b ns)) := by
  have hget : ∀ w : Way, (front ++ program)[(w.behind front.length b ns).next]? =
      program[w.next]? := by
    intro w
    simp only [Way.behind]
    rw [List.getElem?_append_right (Nat.le_add_right ..), Nat.add_sub_cancel_left]
  induction h generalizing seen' with
  | nothing => exact .nothing
  | givesUp hold _ ih => exact .givesUp ((hseen _ _).2 hold) (ih hseen)
  | leaves hnew hend => exact .leaves (mt (hseen _ _).1 hnew) ((hget _).trans hend)
  | @follows seen w ways i result hnew hi _ ih =>
    refine .follows (mt (hseen _ _).1 hnew) ((hget w).trans hi) ?_
    have hfollow : i.follow (w.behind front.length b ns) =
        (i.follow w).map (.behind front.length b ns) :=
      Instr.follow_behind (hahead i (List.mem_of_getElem? hi)) (hc _ _ hi).1
    rw [hfollow, ← List.map_append]
    refine ih fun n k => ?_
    have hspot : (front.length + n, b.length + k) = (w.behind front.length b ns).spot ↔
        (n, k) = w.spot := by
      simp only [Way.spot, Way.behind, Position.behind, Prod.mk.injEq]
      omega
    rw [List.mem_cons, List.mem_cons, hspot, hseen]

/-- Ways that lead nowhere do not matter behind others. -/
theorem Traversal.append_dead {dead : List Way}
    (hdead : ∀ w ∈ dead, ∃ i, program[w.next]? = some i ∧ i.follow w = [])
    (h : Traversal program seen ways result) : Traversal program seen (ways ++ dead) result := by
  induction h with
  | @nothing seen =>
    rw [List.nil_append]
    induction dead generalizing seen with
    | nil => exact .nothing
    | cons w dead ih =>
      have hrest : ∀ seen, Traversal program seen dead none :=
        fun _ => ih fun v hv => hdead v (.tail _ hv)
      obtain ⟨i, hi, hfollow⟩ := hdead w (.head _)
      by_cases hseen : w.spot ∈ seen
      · exact .givesUp hseen (hrest seen)
      · refine .follows hseen hi ?_
        rw [hfollow]
        exact hrest _
  | givesUp hseen _ ih => exact .givesUp hseen ih
  | leaves hnew hend => exact .leaves hnew hend
  | follows hnew hi _ ih =>
    rw [List.append_assoc] at ih
    exact .follows hnew hi ih

/-- Instructions that take a text, each a character of a set that has it. -/
def takeCode (f : Char → CharSet) (b : Text) : List Instr := b.map fun c => .take (f c)

/-- A way through instructions that take just the text before it. -/
theorem Traversal.takes {f : Char → CharSet} (hf : ∀ c, (f c).mem c = true) {p : Text} (b u : Text)
    {front : List Instr} (hseen : ∀ x ∈ seen, x.1 < front.length)
    (h : ∀ seen', (∀ x ∈ seen', x.1 < front.length + b.length) →
      Traversal (front ++ (takeCode f b ++ program)) seen'
        (.at (front.length + b.length) (u ++ b) p ns :: ways) result) :
    Traversal (front ++ (takeCode f b ++ program)) seen
      (.at front.length u (b ++ p) ns :: ways) result := by
  induction b generalizing front u seen with
  | nil =>
    have := h seen hseen
    rwa [List.append_nil] at this
  | cons c b ih =>
    have hnew : (Way.at front.length u (c :: b ++ p) ns).spot ∉ seen := by
      intro hmem
      exact Nat.lt_irrefl _ (hseen _ hmem)
    have hget : (front ++ (takeCode f (c :: b) ++ program))[front.length]? =
        some (.take (f c)) := by
      rw [List.getElem?_append_right (Nat.le_refl _), Nat.sub_self]
      rfl
    have hfollow : (Instr.take (f c)).follow (.at front.length u (c :: b ++ p) ns) =
        [.at (front ++ [Instr.take (f c)]).length (u ++ [c]) (b ++ p) ns] := by
      simp [Instr.follow, Way.at, between, hf]
    have hprogram : front ++ (takeCode f (c :: b) ++ program) =
        (front ++ [Instr.take (f c)]) ++ (takeCode f b ++ program) := by
      simp [takeCode]
    have hlength : front.length + (c :: b).length =
        (front ++ [Instr.take (f c)]).length + b.length := by
      simp only [List.length_append, List.length_cons, List.length_nil]
      omega
    refine .follows hnew hget ?_
    rw [hfollow, List.singleton_append]
    rw [hprogram, hlength] at h
    rw [hprogram]
    refine ih (u ++ [c]) (fun x hx => ?_) fun seen' hseen' => ?_
    · rw [List.length_append, List.length_singleton]
      rcases List.mem_cons.1 hx with rfl | hx
      · exact Nat.lt_succ_self _
      · exact Nat.lt_succ_of_lt (hseen x hx)
    · have htext : u ++ [c] ++ b = u ++ c :: b := by
        rw [List.append_assoc, List.singleton_append]
      rw [htext]
      exact h seen' hseen'

/-- The code in front of a program that takes a text from the start on and notes where a group
starts. -/
def leadCode (f : Char → CharSet) (group : Nat) (b : Text) : List Instr :=
  [.check .textStart, .note group false] ++ takeCode f b

/-- All places but the first have a character in front. -/
theorem before_of_mem_within {index : Nat} {s : Text} {q : Position}
    (h : q ∈ Position.within index s) : ∃ c, q.before = some c := by
  induction s generalizing index with
  | nil => cases h
  | cons c s ih =>
    rcases List.mem_cons.1 h with rfl | h
    · exact ⟨c, rfl⟩
    · exact ih h

/-- A search behind a text, by a program behind code that takes this text, is the search by itself.
-/
theorem Traversal.lead {f : Char → CharSet} (hf : ∀ c, (f c).mem c = true) {p : Text} {group : Nat}
    (hc : Contained program) (hahead : ∀ i ∈ program, i.LooksAhead)
    (h : Traversal program [] [Way.start (.start p)] result) (b : Text) :
    Traversal (leadCode f group b ++ program) [] ((Position.all (b ++ p)).map Way.start)
      (result.map (.behind (leadCode f group b).length b [⟨group, false, 0⟩])) := by
  have hdead : ∀ w ∈ (Position.start (b ++ p)).later.map Way.start,
      ∃ i, (leadCode f group b ++ program)[w.next]? = some i ∧ i.follow w = [] := by
    intro w hw
    obtain ⟨q, hq, rfl⟩ := List.mem_map.1 hw
    obtain ⟨c, hc⟩ := before_of_mem_within hq
    refine ⟨.check .textStart, rfl, ?_⟩
    simp [Instr.follow, Way.start, Look.holds, hc]
  have hstart : Traversal (leadCode f group b ++ program) []
      [Way.start (.start (b ++ p))]
      (result.map (.behind (leadCode f group b).length b [⟨group, false, 0⟩])) := by
    have hlength : (leadCode f group b).length = 2 + b.length := by
      simp only [leadCode, takeCode, List.length_append, List.length_map, List.length_cons,
        List.length_nil]
    have hway : Way.at (2 + b.length) ([] ++ b) p [⟨group, false, 0⟩] =
        (Way.start (.start p)).behind (leadCode f group b).length b [⟨group, false, 0⟩] := by
      simp [Way.at, Way.behind, Way.start, Position.start, Position.behind, between, hlength]
    have hbehind : ∀ seen', (∀ x ∈ seen', x.1 < 2 + b.length) →
        Traversal (leadCode f group b ++ program) seen'
          [.at (2 + b.length) ([] ++ b) p [⟨group, false, 0⟩]]
          (result.map (.behind (leadCode f group b).length b [⟨group, false, 0⟩])) := by
      intro seen' hseen'
      rw [hway]
      refine h.behind hc hahead fun n k => ⟨fun hmem => ?_, fun hmem => ?_⟩
      · have := hseen' _ hmem
        simp only [hlength] at this
        omega
      · exact absurd hmem List.not_mem_nil
    refine .follows List.not_mem_nil rfl (.follows ?_ rfl ?_)
    · simp [Way.spot, Way.start, Way.goTo]
    · have hseen : ∀ x ∈ [(1, 0), (0, 0)],
          x.1 < ([.check .textStart, .note group false] : List Instr).length := by
        rw [List.length_cons, List.length_singleton]
        decide
      exact Traversal.takes hf b [] hseen hbehind
  exact hstart.append_dead hdead

end

end NestedRouting
