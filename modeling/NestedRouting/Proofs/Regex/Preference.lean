import NestedRouting.Proofs.Regex.Meaning

/-!
# Preferred branches

A traversal follows the preferred branch of a fork first. If that branch can only be entered through
the fork, then no way has been in it when a way first comes to the fork, so nothing on it is given
up: if it runs straight out of the program, the traversal ends there (`Traversal.eq_of_run`). When
all control passes one instruction, the result of a traversal passes it with a way that is the first
at its place (`Traversal.through`). So it is with code in front of code that never goes back, and
the result notes what both parts of the code note (`Traversal.split`).
-/

namespace NestedRouting

section
variable {program : List Instr} {seen : List (Nat × Nat)} {ways : List Way} {w x y z : Way}
  {result : Option Way}

/-- How many characters an instruction takes up. -/
def Instr.taken : Instr → Nat
  | take _ => 1
  | _ => 0

/-- An instruction moves the place by the characters that it takes. -/
theorem Instr.index_of_mem_follow {i : Instr} {v : Way} (h : v ∈ i.follow w) :
    v.place.index = w.place.index + i.taken := by
  cases i with
  | take =>
    obtain ⟨c, rest, -, -, rfl⟩ := mem_follow_take.1 h
    rfl
  | check =>
    obtain ⟨-, rfl⟩ := mem_follow_check.1 h
    rfl
  | fork => rcases mem_follow_fork.1 h with rfl | rfl <;> rfl
  | again => rcases mem_follow_again.1 h with rfl | rfl <;> rfl
  | note =>
    obtain rfl := mem_follow_note.1 h
    rfl
  | skip =>
    obtain rfl := mem_follow_skip.1 h
    rfl
  | back =>
    obtain rfl := mem_follow_back.1 h
    rfl

/-- Every spot behind the first instruction where some way has been, or is about to be, was reached
from a spot where some way has been; and these are all inside the program. -/
structure Traced (program : List Instr) (seen : List (Nat × Nat)) (ways : List Way) : Prop where
  inside : ∀ u : Way, u.spot ∈ seen → ∃ i, program[u.next]? = some i
  reached : ∀ v : Way, v.spot ∈ seen ∨ v.spot ∈ ways.map Way.spot → 0 < v.next →
    ∃ (u u' : Way) (i : Instr), u.spot ∈ seen ∧ program[u.next]? = some i ∧ u' ∈ i.follow u ∧
      u'.spot = v.spot

/-- A way that is given up stands where one has been. -/
theorem Traced.giveUp (h : Traced program seen (w :: ways)) : Traced program seen ways where
  inside := h.inside
  reached v hv := h.reached v (hv.imp_right (List.mem_cons_of_mem _))

/-- Where a way leads is reached from where it stands. -/
theorem Traced.follow (h : Traced program seen (w :: ways)) {i : Instr}
    (hi : program[w.next]? = some i) :
    Traced program (w.spot :: seen) (i.follow w ++ ways) where
  inside u hu := by
    rcases List.mem_cons.1 hu with hu | hu
    · have hn : u.next = w.next := congrArg Prod.fst hu
      exact ⟨i, hn ▸ hi⟩
    · exact h.inside u hu
  reached v hv hpos := by
    have hold : v.spot ∈ seen ∨ v.spot ∈ (w :: ways).map Way.spot →
        ∃ (u u' : Way) (i : Instr), u.spot ∈ w.spot :: seen ∧ program[u.next]? = some i ∧
          u' ∈ i.follow u ∧ u'.spot = v.spot := by
      intro hv
      obtain ⟨u, u', j, hu, hj⟩ := h.reached v hv hpos
      exact ⟨u, u', j, .tail _ hu, hj⟩
    rcases hv with hv | hv
    · rcases List.mem_cons.1 hv with hv | hv
      · exact hold (.inr (hv ▸ .head _))
      · exact hold (.inl hv)
    · rw [List.map_append, List.mem_append] at hv
      rcases hv with hv | hv
      · obtain ⟨u', hu', hspot⟩ := List.mem_map.1 hv
        exact ⟨w, u', i, .head _, hi, hu', hspot⟩
      · exact hold (.inr (.tail _ hv))

/-- A way that runs out of the program without a choice, over the instructions behind `first` up to
`last`. -/
inductive StraightRun (program : List Instr) (first last : Nat) : Way → Way → Prop
  | stop {w : Way} : program[w.next]? = none → StraightRun program first last w w
  | step {w v y : Way} {i : Instr} :
    first < w.next → w.next ≤ last → program[w.next]? = some i → i.follow w = [v] →
    StraightRun program first last v y → StraightRun program first last w y

/-- Whether the instructions behind `first` up to `last` are entered one from the other only. -/
def EnteredInOrder (program : List Instr) (first last : Nat) : Prop :=
  ∀ (u v : Way) (i : Instr), program[u.next]? = some i → v ∈ i.follow u → first < v.next →
    v.next ≤ last → u.next + 1 = v.next

/-- Whether an instruction never goes back. -/
def Instr.IsForward : Instr → Prop
  | again _ _ | back _ => False
  | _ => True

/-- A forward instruction leads on or ahead. -/
theorem Instr.IsForward.next {i : Instr} {v : Way} (hi : i.IsForward) (h : v ∈ i.follow w) :
    v.next = w.next + 1 ∨ v.next = w.next + 1 + i.ahead := by
  cases i with
  | take =>
    obtain ⟨c, rest, -, -, rfl⟩ := mem_follow_take.1 h
    exact .inl rfl
  | check =>
    obtain ⟨-, rfl⟩ := mem_follow_check.1 h
    exact .inl rfl
  | fork =>
    rcases mem_follow_fork.1 h with rfl | rfl
    · exact .inl rfl
    · exact .inr rfl
  | note =>
    obtain rfl := mem_follow_note.1 h
    exact .inl rfl
  | skip =>
    obtain rfl := mem_follow_skip.1 h
    exact .inr rfl
  | again | back => exact hi.elim

/-- A path never comes back to where code starts that only goes forward. -/
theorem Path.eq_of_forward {front code : List Instr} {n : Nat}
    (hforward : ∀ i ∈ code, i.IsForward) (h : Path (front ++ code) n w z)
    (hw : front.length ≤ w.next) (hz : z.next ≤ w.next) : z = w := by
  have hle : ∀ {n w z}, Path (front ++ code) n w z → front.length ≤ w.next →
      w.next + n ≤ z.next := by
    intro n w z h hw
    induction h with
    | refl => exact Nat.le_refl _
    | @step n w v z i hi hv _ ih =>
      rw [List.getElem?_append_right hw] at hi
      have := (hforward i (List.mem_of_getElem? hi)).next hv
      have := ih (by omega)
      omega
  cases h with
  | refl => rfl
  | step hi hv h =>
    have := hle (.step hi hv h) hw
    omega

/-- The first branch of a fork is entered in order, if what stands in front of the fork cannot jump
over it, nothing behind it goes back, and only the last instruction of the branch may jump. -/
theorem enteredInOrder {front branches : List Instr} {greedy : Bool} {count : Nat}
    (hfront : Contained front) (hforward : ∀ i ∈ branches, i.IsForward)
    (hplain : ∀ k i, k + 1 < count → branches[k]? = some i → i.ahead = 0) :
    EnteredInOrder (front ++ .fork greedy count :: branches) front.length
      (front.length + count) := by
  intro u v i hi hv hfirst hlast
  rcases Nat.lt_trichotomy u.next front.length with hu | hu | hu
  · rw [List.getElem?_append_left hu] at hi
    have := hfront _ _ hi
    have := Instr.next_of_mem_follow hv
    omega
  · rw [hu, List.getElem?_append_right (Nat.le_refl _), Nat.sub_self] at hi
    obtain rfl := Option.some.inj hi
    rcases Instr.mem_follow_fork.1 hv with rfl | rfl
    · rfl
    · simp only [Way.goTo] at hlast
      omega
  · obtain ⟨k, hk⟩ : ∃ k, u.next = front.length + (k + 1) := ⟨u.next - front.length - 1, by omega⟩
    have hget : branches[k]? = some i := by
      rw [hk, List.getElem?_append_right (Nat.le_add_right ..), Nat.add_sub_cancel_left] at hi
      exact hi
    have hnext := (hforward i (List.mem_of_getElem? hget)).next hv
    by_cases hcount : k + 1 < count
    · rw [hplain k i hcount hget] at hnext
      omega
    · omega

/-- A traversal ends where its first way runs to, if no way has been where that one stands. -/
theorem StraightRun.traversal {first last : Nat} (h : StraightRun program first last w y)
    (hentry : EnteredInOrder program first last) (htraced : Traced program seen (w :: ways))
    (hnew : w.spot ∉ seen) (ht : Traversal program seen (w :: ways) result) : result = some y := by
  induction h generalizing seen ways with
  | stop hend =>
    cases ht with
    | givesUp hseen => exact absurd hseen hnew
    | leaves => rfl
    | follows _ hi => cases hend.symm.trans hi
  | @step w v y i hfirst hlast hi hfollow hrun ih =>
    cases ht with
    | givesUp hseen => exact absurd hseen hnew
    | leaves _ hend => cases hend.symm.trans hi
    | follows _ hi' ht =>
      obtain rfl := Option.some.inj (hi.symm.trans hi')
      have htraced' := htraced.follow hi
      rw [hfollow, List.singleton_append] at ht htraced'
      have hv : v ∈ i.follow w := hfollow ▸ .head _
      refine ih htraced' ?_ ht
      -- the next spot is new as well: it can be reached from the present one only
      intro hmem
      cases hrun with
      | stop hend =>
        obtain ⟨j, hj⟩ := htraced'.inside v hmem
        cases hend.symm.trans hj
      | step hfirst' hlast' =>
        have hnext := hentry w v i hi hv hfirst' hlast'
        have hmem : v.spot ∈ seen := by
          rcases List.mem_cons.1 hmem with h | h
          · have : v.next = w.next := congrArg Prod.fst h
            omega
          · exact h
        obtain ⟨u, v', j, hu, hj, hv', hspot⟩ := htraced.reached v (.inl hmem) (by omega)
        have hnext' : v'.next = v.next := congrArg Prod.fst hspot
        have hindex : v'.place.index = v.place.index := congrArg Prod.snd hspot
        have := hentry u v' j hj hv' (hnext' ▸ hfirst') (hnext' ▸ hlast')
        have huw : u.next = w.next := by omega
        rw [huw] at hj
        obtain rfl := Option.some.inj (hi.symm.trans hj)
        rw [Instr.index_of_mem_follow hv', Instr.index_of_mem_follow hv] at hindex
        have hsame : u.spot = w.spot := Prod.ext huw (Nat.add_right_cancel hindex)
        exact hnew (hsame ▸ hu)

/-- If the preferred branch of a fork runs out of the program, then the first way at its place that
comes to the fork ends there. -/
theorem Traversal.eq_of_run {front branches : List Instr} {count : Nat}
    (ht : Traversal (front ++ .fork true count :: branches) seen (x :: ways) result)
    (htraced : Traced (front ++ .fork true count :: branches) seen (x :: ways))
    (hnew : x.spot ∉ seen) (hx : x.next = front.length) (hcount : 0 < count)
    (hfront : Contained front) (hforward : ∀ i ∈ branches, i.IsForward)
    (hplain : ∀ k i, k + 1 < count → branches[k]? = some i → i.ahead = 0)
    (hrun : StraightRun (front ++ .fork true count :: branches) front.length
      (front.length + count) (x.goTo (front.length + 1)) y) : result = some y := by
  have hentry : EnteredInOrder (front ++ .fork true count :: branches) front.length
      (front.length + count) := enteredInOrder hfront hforward hplain
  have hfork : (front ++ .fork true count :: branches)[x.next]? = some (.fork true count) := by
    rw [hx, List.getElem?_append_right (Nat.le_refl _), Nat.sub_self]
    rfl
  rw [← hx] at hentry hrun
  cases ht with
  | givesUp hseen => exact absurd hseen hnew
  | leaves _ hend => cases hend.symm.trans hfork
  | follows _ hi ht =>
    obtain rfl := Option.some.inj (hfork.symm.trans hi)
    have htraced' := htraced.follow hfork
    simp only [Instr.follow, if_true, List.cons_append, List.nil_append] at ht htraced'
    refine hrun.traversal hentry htraced' ?_ ht
    intro hmem
    rcases List.mem_cons.1 hmem with h | h
    · have : x.next + 1 = x.next := congrArg Prod.fst h
      omega
    · obtain ⟨u, v', j, hu, hj, hv', hspot⟩ := htraced.reached _ (.inl h) (Nat.succ_pos _)
      have hnext : v'.next = x.next + 1 := congrArg Prod.fst hspot
      have hindex : v'.place.index = x.place.index := congrArg Prod.snd hspot
      have := hentry u v' j hj hv' (by omega) (by omega)
      have hux : u.next = x.next := by omega
      rw [hux] at hj
      obtain rfl := Option.some.inj (hfork.symm.trans hj)
      rw [Instr.index_of_mem_follow hv'] at hindex
      have hsame : u.spot = x.spot := Prod.ext hux hindex
      exact hnew (hsame ▸ hu)

/-- If all control passes the instruction at `first`, then the result of a traversal does, on a way
that is the first to be there at its place. -/
theorem Traversal.through {first : Nat} (hlt : first < program.length)
    (hfront : ∀ (u v : Way) (i : Instr), program[u.next]? = some i → v ∈ i.follow u →
      u.next < first → v.next ≤ first)
    (h : Traversal program seen ways (some z)) (htraced : Traced program seen ways) :
    (∃ w ∈ ways, first < w.next ∧ ∃ n, Path program n w z) ∨
    ∃ x seen' ways', x.next = first ∧ x.spot ∉ seen' ∧ Traced program seen' (x :: ways') ∧
      Traversal program seen' (x :: ways') (some z) ∧
      (∃ w ∈ ways, ∃ n, Path program n w x) ∧ ∃ n, Path program n x z := by
  generalize hr : some z = result at h
  induction h with
  | nothing => cases hr
  | givesUp _ _ ih =>
    rcases ih htraced.giveUp hr with ⟨w, hw, h⟩ | ⟨x, seen', ways', h₁, h₂, h₃, h₄, ⟨w, hw, h₅⟩, h₆⟩
    · exact .inl ⟨w, .tail _ hw, h⟩
    · exact .inr ⟨x, seen', ways', h₁, h₂, h₃, h₄, ⟨w, .tail _ hw, h₅⟩, h₆⟩
  | leaves _ hend =>
    cases hr
    have := List.getElem?_eq_none_iff.1 hend
    exact .inl ⟨z, .head _, by omega, 0, .refl⟩
  | @follows seen w ways i _ hnew hi ht ih =>
    subst hr
    have hstep : ∀ {v}, v ∈ i.follow w ++ ways → (v ∈ i.follow w ∨ v ∈ w :: ways) := by
      intro v hv
      exact (List.mem_append.1 hv).imp_right (List.mem_cons_of_mem _)
    rcases ih (htraced.follow hi) rfl with
      ⟨v, hv, hlt', n, hp⟩ | ⟨x, seen', ways', h₁, h₂, h₃, h₄, ⟨v, hv, n, hp⟩, h₆⟩
    · rcases hstep hv with hv | hv
      · rcases Nat.lt_trichotomy w.next first with hw | hw | hw
        · have := hfront w v i hi hv hw
          omega
        · exact .inr ⟨w, seen, ways, hw, hnew, htraced, .follows hnew hi ht,
            ⟨w, .head _, 0, .refl⟩, n + 1, .step hi hv hp⟩
        · exact .inl ⟨w, .head _, hw, n + 1, .step hi hv hp⟩
      · exact .inl ⟨v, hv, hlt', n, hp⟩
    · refine .inr ⟨x, seen', ways', h₁, h₂, h₃, h₄, ?_, h₆⟩
      rcases hstep hv with hv | hv
      · exact ⟨w, .head _, n + 1, .step hi hv hp⟩
      · exact ⟨v, hv, n, hp⟩

/-- At the start all ways stand at the first instruction. -/
theorem traced_start (s : Text) : Traced program [] ((Position.all s).map Way.start) where
  inside _ h := nomatch h
  reached v hv hpos := by
    rcases hv with hv | hv
    · cases hv
    · obtain ⟨x, hx, hspot⟩ := List.mem_map.1 hv
      obtain ⟨p, -, rfl⟩ := List.mem_map.1 hx
      have : 0 = v.next := congrArg Prod.fst hspot
      omega

/-- The result of a search through two parts of code, the second without a way back: where it passes
from one to the other, a way is the first at its place. -/
theorem Traversal.split {front code : List Instr} {R S : Span} {s : Text} (hfront : Means front R)
    (hcode : Means code S) (hcontained : Contained front) (hforward : ∀ i ∈ code, i.IsForward)
    (hne : code ≠ [])
    (h : Traversal (front ++ code) [] ((Position.all s).map Way.start) (some z)) :
    ∃ u t n y v m seen ways, s = u ++ (t ++ (y ++ v)) ∧ R u t (y ++ v) n ∧ S (u ++ t) y v m ∧
      z.notes = m ++ n ∧ (Way.at front.length (u ++ t) (y ++ v) n).spot ∉ seen ∧
      Traced (front ++ code) seen (.at front.length (u ++ t) (y ++ v) n :: ways) ∧
      Traversal (front ++ code) seen (.at front.length (u ++ t) (y ++ v) n :: ways) (some z) := by
  have hlt : front.length < (front ++ code).length := by
    rw [List.length_append]
    have := List.length_pos_iff.2 hne
    omega
  have hpass : ∀ (u v : Way) (i : Instr), (front ++ code)[u.next]? = some i → v ∈ i.follow u →
      u.next < front.length → v.next ≤ front.length := by
    intro u v i hi hv hu
    rw [List.getElem?_append_left hu] at hi
    have := hcontained _ _ hi
    have := Instr.next_of_mem_follow hv
    omega
  obtain ⟨hfrontIn, hcodeIn⟩ := installed_append.1 (installed_behind [] (front ++ code))
  rcases h.through hlt hpass (traced_start s) with
    ⟨w, hw, hbehind, -⟩ | ⟨x, seen, ways, hx, hnew, htraced, ht, ⟨w, hw, k, hp⟩, l, hq⟩
  · obtain ⟨p, -, rfl⟩ := List.mem_map.1 hw
    cases hbehind
  · obtain ⟨p, hp', rfl⟩ := List.mem_map.1 hw
    obtain ⟨u, s, rfl, rfl⟩ := Position.mem_all_iff.1 hp'
    have hp : Path (front ++ code) k (.at 0 u s []) x := hp
    have hle : ([] : List Instr).length + front.length ≤ x.next := by
      rw [hx]
      exact Nat.le_of_eq (Nat.zero_add _)
    obtain ⟨t, v, n, j, rfl, hr, -, hp⟩ := hfront.leave hfrontIn hp hle
    rw [List.length_nil, Nat.zero_add, List.append_nil] at hp
    obtain rfl := hp.eq_of_forward hforward (Nat.le_refl _) (Nat.le_of_eq hx)
    rw [List.length_nil, Nat.zero_add] at hcodeIn
    have hend := ht.sound.1
    have hle : front.length + code.length ≤ z.next := by
      rw [← List.length_append]
      exact List.getElem?_eq_none_iff.1 hend
    obtain ⟨y, v, m, j', rfl, hs, -, hq⟩ := hcode.leave hcodeIn hq hle
    have hz := hq.of_end (by
      rw [Way.next_at, ← List.length_append]
      exact List.getElem?_eq_none_iff.2 (Nat.le_refl _))
    exact ⟨u, t, n, y, v, m, seen, ways, rfl, hr, hs, hz ▸ rfl, hnew, htraced, ht⟩

end

end NestedRouting
