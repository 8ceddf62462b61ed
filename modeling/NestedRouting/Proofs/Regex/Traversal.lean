import NestedRouting.Regex.Search

/-!
# Traversals of a program

The search for a match, with its table, its entry numbers and its bound on turns left out: a
`Traversal` follows ways, each before those behind it, and keeps the spots where some way has been.
A search is a traversal of its program (`explore_traversal`), because the jumps of a program stay
inside it (`Contained`) and the bound on turns is never reached. A traversal has one result
(`Traversal.unique`). A result is where a path through the program ends (`Traversal.sound`), and
there is a result if any path ends outside the program (`Traversal.complete`).
-/

namespace NestedRouting

namespace Position

/-- The place between two parts of a text. -/
def between (u v : Text) : Position := ⟨u.length, u.getLast?, v⟩

/-- Whether a place lies in a text. -/
def IsIn (s : Text) (p : Position) : Prop := ∃ u v, s = u ++ v ∧ p = between u v

/-- The place behind one more character. -/
theorem between_cons (u : Text) (c : Char) (v : Text) :
    (⟨(between u (c :: v)).index + 1, some c, v⟩ : Position) = between (u ++ [c]) v := by
  simp [between]

/-- Places in one text are told apart by their index. -/
theorem IsIn.eq {s : Text} {p q : Position} (hp : p.IsIn s) (hq : q.IsIn s)
    (h : p.index = q.index) : p = q := by
  obtain ⟨u, v, hs, rfl⟩ := hp
  obtain ⟨u', v', hs', rfl⟩ := hq
  obtain ⟨rfl, rfl⟩ := List.append_inj (hs.symm.trans hs') h
  rfl

/-- The index of a place counts the characters in front of it. -/
theorem IsIn.index_add {s : Text} {p : Position} (hp : p.IsIn s) :
    p.index + p.rest.length = s.length := by
  obtain ⟨u, v, rfl, rfl⟩ := hp
  simp [between]

/-- The places behind a text, one for each character that follows. -/
theorem within_eq (u v : Text) :
    within u.length v = (List.range v.length).map fun i =>
      between (u ++ v.take (i + 1)) (v.drop (i + 1)) := by
  induction v generalizing u with
  | nil => rfl
  | cons c v ih =>
    have hrest := ih (u ++ [c])
    rw [List.length_append] at hrest
    simp only [List.length_cons, List.length_nil, Nat.zero_add] at hrest
    rw [within, hrest, List.length_cons, List.range_succ_eq_map, List.map_cons, List.map_map]
    simp [between, Function.comp_def]

/-- The places of a text, from its start on. -/
theorem all_eq (s : Text) :
    all s = (List.range (s.length + 1)).map fun i => between (s.take i) (s.drop i) := by
  have h := within_eq [] s
  simp only [List.length_nil, List.nil_append] at h
  rw [all, later, List.range_succ_eq_map, List.map_cons, List.map_map]
  simp only [start, h]
  rfl

/-- The places of a text are those that lie in it. -/
theorem mem_all_iff {s : Text} {p : Position} : p ∈ all s ↔ p.IsIn s := by
  rw [all_eq, List.mem_map]
  constructor
  · rintro ⟨i, -, rfl⟩
    exact ⟨_, _, (List.take_append_drop i s).symm, rfl⟩
  · rintro ⟨u, v, rfl, rfl⟩
    refine ⟨u.length, ?_, by simp⟩
    rw [List.mem_range, List.length_append]
    omega

/-- A text has one more place than characters. -/
theorem length_all (s : Text) : (all s).length = s.length + 1 := by
  rw [all_eq, List.length_map, List.length_range]

end Position

/-! ## Jumps -/

namespace Instr

/-- How many instructions an instruction may leave out. -/
def ahead : Instr → Nat
  | fork _ count | skip count => count
  | _ => 0

/-- How many instructions an instruction may go back. -/
def behind : Instr → Nat
  | again _ count | back count => count
  | _ => 0

variable {i : Instr} {w v : Way} {s : Text} {greedy : Bool} {count group : Nat}

/-! ### Where an instruction leads -/

/-- Taking a character leads behind it, if the set has it. -/
@[simp] theorem mem_follow_take {set : CharSet} : v ∈ (take set).follow w ↔
    ∃ c rest, w.place.rest = c :: rest ∧ set.mem c = true ∧
      v = { w with next := w.next + 1, place := ⟨w.place.index + 1, some c, rest⟩ } := by
  cases hr : w.place.rest with
  | nil => simp [follow, hr]
  | cons c rest =>
    constructor
    · intro h
      by_cases hc : set.mem c = true
      · exact ⟨c, rest, rfl, hc, by simpa [follow, hr, hc] using h⟩
      · simp [follow, hr, hc] at h
    · rintro ⟨_, _, ⟨⟩, hc, rfl⟩
      simp [follow, hr, hc]

/-- A check leads on where it holds. -/
@[simp] theorem mem_follow_check {l : Look} :
    v ∈ (check l).follow w ↔ l.holds w.place = true ∧ v = w.goTo (w.next + 1) := by
  by_cases hl : l.holds w.place = true <;> simp [follow, hl]

/-- A note leads on, with the place noted. -/
@[simp] theorem mem_follow_note {isStop : Bool} : v ∈ (note group isStop).follow w ↔
    v = { w with next := w.next + 1, notes := ⟨group, isStop, w.place.index⟩ :: w.notes } := by
  simp [follow]

/-- A fork leads on or to the end of its jump. -/
@[simp] theorem mem_follow_fork : v ∈ (fork greedy count).follow w ↔
    v = w.goTo (w.next + 1) ∨ v = w.goTo (w.next + 1 + count) := by
  cases greedy <;> simp [follow, or_comm]

/-- A loop leads back to its start or on. -/
@[simp] theorem mem_follow_again : v ∈ (again greedy count).follow w ↔
    v = w.goTo (w.next - count) ∨ v = w.goTo (w.next + 1) := by
  cases greedy <;> simp [follow, or_comm]

/-- A jump ahead leads to its end. -/
@[simp] theorem mem_follow_skip :
    v ∈ (skip count).follow w ↔ v = w.goTo (w.next + 1 + count) := by
  simp [follow]

/-- A jump back leads to its end. -/
@[simp] theorem mem_follow_back : v ∈ (back count).follow w ↔ v = w.goTo (w.next - count) := by
  simp [follow]

/-- An instruction leads to at most two places. -/
theorem length_follow_le : (i.follow w).length ≤ 2 := by
  cases i with
  | take set =>
    cases hr : w.place.rest with
    | nil => simp [follow, hr]
    | cons c rest => by_cases hc : set.mem c = true <;> simp [follow, hr, hc]
  | check l => by_cases hl : l.holds w.place = true <;> simp [follow, hl]
  | fork greedy | again greedy => cases greedy <;> simp [follow]
  | note | skip | back => simp [follow]

/-- An instruction goes on behind itself, or makes its jump. -/
theorem next_of_mem_follow (h : v ∈ i.follow w) :
    w.next - i.behind ≤ v.next ∧ v.next ≤ w.next + 1 + i.ahead := by
  cases i with
  | take =>
    obtain ⟨c, rest, -, -, rfl⟩ := mem_follow_take.1 h
    simp only [ahead, behind]
    omega
  | check =>
    obtain ⟨-, rfl⟩ := mem_follow_check.1 h
    simp only [ahead, behind, Way.goTo]
    omega
  | fork =>
    rcases mem_follow_fork.1 h with rfl | rfl <;> simp only [ahead, behind, Way.goTo] <;> omega
  | again =>
    rcases mem_follow_again.1 h with rfl | rfl <;> simp only [ahead, behind, Way.goTo] <;> omega
  | note =>
    obtain rfl := mem_follow_note.1 h
    simp only [ahead, behind]
    omega
  | skip =>
    obtain rfl := mem_follow_skip.1 h
    simp only [ahead, behind, Way.goTo]
    omega
  | back =>
    obtain rfl := mem_follow_back.1 h
    simp only [ahead, behind, Way.goTo]
    omega

/-- No instruction leaves the text. -/
theorem isIn_of_mem_follow (h : v ∈ i.follow w) (hw : w.place.IsIn s) : v.place.IsIn s := by
  cases i with
  | take =>
    obtain ⟨c, rest, hr, -, rfl⟩ := mem_follow_take.1 h
    obtain ⟨u, x, rfl, hp⟩ := hw
    rw [hp] at hr ⊢
    obtain rfl : x = c :: rest := hr
    exact ⟨u ++ [c], rest, by simp, Position.between_cons u c rest⟩
  | check =>
    obtain ⟨-, rfl⟩ := mem_follow_check.1 h
    exact hw
  | fork => rcases mem_follow_fork.1 h with rfl | rfl <;> exact hw
  | again => rcases mem_follow_again.1 h with rfl | rfl <;> exact hw
  | note =>
    obtain rfl := mem_follow_note.1 h
    exact hw
  | skip =>
    obtain rfl := mem_follow_skip.1 h
    exact hw
  | back =>
    obtain rfl := mem_follow_back.1 h
    exact hw

end Instr

/-- The jumps of a program stay inside it or lead to its end. -/
def Contained (program : List Instr) : Prop :=
  ∀ k i, program[k]? = some i → i.behind ≤ k ∧ k + 1 + i.ahead ≤ program.length

/-! ## Traversals -/

/-- Where a way stands: at which instruction, and at which place. -/
def Way.spot (w : Way) : Nat × Nat := (w.next, w.place.index)

/-- Following ways, each before those behind it, until one leaves the program; a way is given up at
a spot where some way has been. -/
inductive Traversal (program : List Instr) : List (Nat × Nat) → List Way → Option Way → Prop
  | nothing {seen : List (Nat × Nat)} : Traversal program seen [] none
  | givesUp {seen : List (Nat × Nat)} {w : Way} {ways : List Way} {result : Option Way} :
    w.spot ∈ seen → Traversal program seen ways result → Traversal program seen (w :: ways) result
  | leaves {seen : List (Nat × Nat)} {w : Way} {ways : List Way} :
    w.spot ∉ seen → program[w.next]? = none → Traversal program seen (w :: ways) (some w)
  | follows {seen : List (Nat × Nat)} {w : Way} {ways : List Way} {i : Instr}
    {result : Option Way} :
    w.spot ∉ seen → program[w.next]? = some i →
    Traversal program (w.spot :: seen) (i.follow w ++ ways) result →
    Traversal program seen (w :: ways) result

section
variable {program : List Instr} {seen : List (Nat × Nat)} {ways : List Way}

/-- A traversal has one result. -/
theorem Traversal.unique {x y : Option Way} (hx : Traversal program seen ways x)
    (hy : Traversal program seen ways y) : x = y := by
  induction hx generalizing y with
  | nothing =>
    cases hy
    rfl
  | givesUp hseen _ ih =>
    cases hy with
    | givesUp _ hy => exact ih hy
    | leaves hnew | follows hnew => exact absurd hseen hnew
  | leaves hnew hend =>
    cases hy with
    | givesUp hseen => exact absurd hseen hnew
    | leaves => rfl
    | follows _ hi => cases hend.symm.trans hi
  | follows hnew hi _ ih =>
    cases hy with
    | givesUp hseen => exact absurd hseen hnew
    | leaves _ hend => cases hend.symm.trans hi
    | follows _ hi' hy =>
      obtain rfl := Option.some.inj (hi.symm.trans hi')
      exact ih hy

/-! ## The search is a traversal -/

/-- The table of a search and the spots it stands for. -/
structure Tabled (size width : Nat) (table : Array Bool) (seen : List (Nat × Nat)) : Prop where
  size_eq : table.size = (size + 1) * width
  getD_iff : ∀ n k, n ≤ size → k < width → (table.getD (n * width + k) true = true ↔ (n, k) ∈ seen)

/-- The entry of a spot. -/
theorem entry_lt {size width n k : Nat} (hn : n ≤ size) (hk : k < width) :
    n * width + k < (size + 1) * width := by
  have : n * width ≤ size * width := Nat.mul_le_mul_right width hn
  rw [Nat.succ_mul]
  omega

/-- Different spots have different entries. -/
theorem entry_inj {width n k m l : Nat} (hk : k < width) (hl : l < width)
    (h : n * width + k = m * width + l) : n = m ∧ k = l := by
  have hpos : 0 < width := by omega
  have hdiv := congrArg (· / width) h
  simp only [Nat.mul_comm _ width, Nat.mul_add_div hpos, Nat.div_eq_of_lt hk,
    Nat.div_eq_of_lt hl, Nat.add_zero] at hdiv
  subst hdiv
  exact ⟨rfl, Nat.add_left_cancel h⟩

/-- A spot that is new takes an entry that was free. -/
theorem Tabled.insert {size width : Nat} {table : Array Bool} (ht : Tabled size width table seen)
    {n k : Nat} (hn : n ≤ size) (hk : k < width) (hnew : (n, k) ∉ seen) :
    Tabled size width (table.setIfInBounds (n * width + k) true) ((n, k) :: seen) ∧
      (table.setIfInBounds (n * width + k) true).count false + 1 = table.count false := by
  have hlt : n * width + k < table.size := ht.size_eq ▸ entry_lt hn hk
  have hfree : table[n * width + k] = false := by
    have h := (not_congr (ht.getD_iff n k hn hk)).2 hnew
    simpa [Array.getD, hlt] using h
  refine ⟨⟨by simpa using ht.size_eq, fun m l hm hl => ?_⟩, ?_⟩
  · have hlt' : m * width + l < table.size := ht.size_eq ▸ entry_lt hm hl
    have hold := ht.getD_iff m l hm hl
    simp only [Array.getD, hlt', dite_true, Array.size_setIfInBounds, Array.getInternal_eq_getElem,
      Array.getElem_setIfInBounds] at hold ⊢
    by_cases heq : n * width + k = m * width + l
    · obtain ⟨rfl, rfl⟩ := entry_inj hk hl heq
      simp
    · have hne : (m, l) ≠ (n, k) := fun h => heq (by cases h; rfl)
      simpa [heq, hne] using hold
  · rw [Array.setIfInBounds_def, dif_pos hlt, Array.count_set]
    have hpos : 0 < table.count false := Array.count_pos_iff.2 (hfree ▸ Array.getElem_mem hlt)
    simp [hfree]
    omega

/-- Exploring is a traversal, if every way stands inside the program and the text and there are
turns enough: two for each free entry of the table, and one for each way. -/
theorem explore_traversal {s : Text} (hc : Contained program) (turns : Nat) {table : Array Bool}
    (ht : Tabled program.length (s.length + 1) table seen)
    (hways : ∀ w ∈ ways, w.next ≤ program.length ∧ w.place.IsIn s)
    (hturns : 2 * table.count false + ways.length < turns) :
    Traversal program seen ways
      (Regex.explore program.toArray (s.length + 1) turns table ways) := by
  induction turns generalizing table seen ways with
  | zero => exact absurd hturns (Nat.not_lt_zero _)
  | succ turns ih =>
    cases ways with
    | nil => exact .nothing
    | cons w ways =>
      obtain ⟨hnext, hplace⟩ := hways w (.head _)
      have hlater : ∀ v ∈ ways, v.next ≤ program.length ∧ v.place.IsIn s :=
        fun v hv => hways v (.tail _ hv)
      have hindex : w.place.index < s.length + 1 := by
        have := hplace.index_add
        omega
      have hentry := ht.getD_iff _ _ hnext hindex
      rw [List.length_cons] at hturns
      rw [Regex.explore]
      by_cases hseen : w.spot ∈ seen
      · rw [if_pos (hentry.2 hseen)]
        exact .givesUp hseen (ih ht hlater (by omega))
      · rw [if_neg ((not_congr hentry).2 hseen), List.getElem?_toArray]
        cases hi : program[w.next]? with
        | none => exact .leaves hseen hi
        | some i =>
          obtain ⟨ht', hcount⟩ := ht.insert hnext hindex hseen
          have hlen := i.length_follow_le (w := w)
          refine .follows hseen hi (ih ht' ?_ (by rw [List.length_append]; omega))
          intro v hv
          rcases List.mem_append.1 hv with hv | hv
          · have hin := hc _ _ hi
            have := Instr.next_of_mem_follow hv
            exact ⟨by omega, Instr.isIn_of_mem_follow hv hplace⟩
          · exact hlater v hv

/-- A table without entries that are taken. -/
theorem tabled_nil (size width : Nat) :
    Tabled size width (Array.replicate ((size + 1) * width) false) [] := by
  refine ⟨Array.size_replicate, fun n k hn hk => ?_⟩
  have := entry_lt hn hk
  simp [Array.getD, this]

/-- A program whose jumps stay inside it can be traversed. -/
theorem exists_traversal {s : Text} (hc : Contained program)
    (hways : ∀ w ∈ ways, w.next ≤ program.length ∧ w.place.IsIn s) :
    ∃ result, Traversal program [] ways result :=
  ⟨_, explore_traversal hc _ (tabled_nil program.length (s.length + 1)) hways (Nat.lt_succ_self _)⟩

/-- The search for a match is a traversal from every place of the text. -/
theorem search_traversal {r : Regex} (hc : Contained r.code) (s : Text) :
    Traversal r.code [] ((Position.all s).map Way.start) (r.search s) := by
  rw [Regex.search, Position.length_all]
  refine explore_traversal (s := s) hc _ (tabled_nil r.code.length (s.length + 1)) ?_ ?_
  · intro w hw
    obtain ⟨p, hp, rfl⟩ := List.mem_map.1 hw
    exact ⟨Nat.zero_le _, Position.mem_all_iff.1 hp⟩
  · simp [Position.length_all]

/-! ## Paths -/

/-- A path of `n` steps through a program, from one way to another. -/
inductive Path (program : List Instr) : Nat → Way → Way → Prop
  | refl {w : Way} : Path program 0 w w
  | step {n : Nat} {w v x : Way} {i : Instr} :
    program[w.next]? = some i → v ∈ i.follow w → Path program n v x → Path program (n + 1) w x

/-- A path goes on where another ends. -/
theorem Path.trans {m n : Nat} {w v x : Way} (h : Path program m w v) (k : Path program n v x) :
    Path program (m + n) w x := by
  induction h with
  | refl => rwa [Nat.zero_add]
  | @step m _ _ _ _ hi hv _ ih =>
    rw [Nat.add_right_comm]
    exact .step hi hv (ih k)

/-- A path does not go on behind the end of the program. -/
theorem Path.of_end {n : Nat} {w v : Way} (h : Path program n w v)
    (hend : program[w.next]? = none) : v = w := by
  cases h with
  | refl => rfl
  | step hi => cases hend.symm.trans hi

/-- The result of a traversal is the end of a path from one of its ways, outside the program. -/
theorem Traversal.sound {v : Way} (h : Traversal program seen ways (some v)) :
    program[v.next]? = none ∧ ∃ w ∈ ways, ∃ n, Path program n w v := by
  generalize hr : some v = result at h
  induction h with
  | nothing => cases hr
  | givesUp _ _ ih =>
    obtain ⟨hend, w, hw, hp⟩ := ih hr
    exact ⟨hend, w, .tail _ hw, hp⟩
  | leaves _ hend =>
    cases hr
    exact ⟨hend, _, .head _, 0, .refl⟩
  | @follows _ w _ i _ _ hi _ ih =>
    obtain ⟨hend, x, hx, n, hp⟩ := ih hr
    refine ⟨hend, ?_⟩
    rcases List.mem_append.1 hx with hx | hx
    · exact ⟨w, .head _, n + 1, .step hi hx hp⟩
    · exact ⟨x, .tail _ hx, n, hp⟩

/-- Where an instruction leads does not depend on what was noted. -/
theorem Instr.spots_follow {i : Instr} {w v : Way} (hn : w.next = v.next)
    (hp : w.place = v.place) : (i.follow w).map Way.spot = (i.follow v).map Way.spot := by
  cases i with
  | take =>
    simp only [follow, hn, hp]
    split
    · rfl
    · split <;> rfl
  | check =>
    simp only [follow, hp]
    split
    · simp [Way.goTo, Way.spot, hn, hp]
    · rfl
  | fork greedy | again greedy => cases greedy <;> simp [follow, Way.goTo, Way.spot, hn, hp]
  | note | skip | back => simp [follow, Way.goTo, Way.spot, hn, hp]

/-- Some way has been, or is about to be, wherever a spot leads at which some way has been. None of
these spots is at the end of the program. -/
def Closed (program : List Instr) (s : Text) (seen : List (Nat × Nat)) (ways : List Way) : Prop :=
  ∀ w : Way, w.spot ∈ seen → w.place.IsIn s →
    ∃ i, program[w.next]? = some i ∧
      ∀ v ∈ i.follow w, v.spot ∈ seen ∨ v.spot ∈ ways.map Way.spot

/-- A traversal without a result has been everywhere. -/
theorem Traversal.closed {s : Text} (h : Traversal program seen ways none)
    (hways : ∀ w ∈ ways, w.place.IsIn s) (hc : Closed program s seen ways) :
    ∃ spots, (∀ x ∈ seen, x ∈ spots) ∧ (∀ w ∈ ways, w.spot ∈ spots) ∧
      Closed program s spots [] := by
  generalize hr : none = result at h
  induction h with
  | @nothing seen => exact ⟨seen, fun _ => id, List.forall_mem_nil _, hc⟩
  | @givesUp seen w ways _ hseen _ ih =>
    have hc' : Closed program s seen ways := by
      intro x hx hin
      obtain ⟨i, hi, hv⟩ := hc x hx hin
      refine ⟨i, hi, fun v hmem => ?_⟩
      rcases hv v hmem with h | h
      · exact .inl h
      · rcases List.mem_cons.1 h with h | h
        · exact .inl (h ▸ hseen)
        · exact .inr h
    obtain ⟨spots, hs, hw, hclosed⟩ := ih (fun v hv => hways v (.tail _ hv)) hc' hr
    refine ⟨spots, hs, fun v hv => ?_, hclosed⟩
    rcases List.mem_cons.1 hv with rfl | hv
    · exact hs _ hseen
    · exact hw v hv
  | leaves => cases hr
  | @follows seen w ways i _ hnew hi _ ih =>
    have hin := hways w (.head _)
    have hc' : Closed program s (w.spot :: seen) (i.follow w ++ ways) := by
      intro x hx hxin
      rcases List.mem_cons.1 hx with hx | hx
      · have hn : x.next = w.next := congrArg Prod.fst hx
        have hp : x.place = w.place := hxin.eq hin (congrArg Prod.snd hx)
        refine ⟨i, hn ▸ hi, fun v hv => .inr ?_⟩
        rw [List.map_append, ← Instr.spots_follow hn hp]
        exact List.mem_append_left _ (List.mem_map_of_mem hv)
      · obtain ⟨j, hj, hv⟩ := hc x hx hxin
        refine ⟨j, hj, fun v hmem => ?_⟩
        rcases hv v hmem with h | h
        · exact .inl (.tail _ h)
        · rcases List.mem_cons.1 h with h | h
          · exact .inl (h ▸ .head _)
          · exact .inr (List.map_append ▸ List.mem_append_right _ h)
    have hways' : ∀ v ∈ i.follow w ++ ways, v.place.IsIn s := by
      intro v hv
      rcases List.mem_append.1 hv with hv | hv
      · exact Instr.isIn_of_mem_follow hv hin
      · exact hways v (.tail _ hv)
    obtain ⟨spots, hs, hw, hclosed⟩ := ih hways' hc' hr
    refine ⟨spots, fun x hx => hs x (.tail _ hx), fun v hv => ?_, hclosed⟩
    rcases List.mem_cons.1 hv with rfl | hv
    · exact hs _ (.head _)
    · exact hw v (List.mem_append_right _ hv)

/-- No path leaves spots that are closed. -/
theorem Closed.path {s : Text} (hc : Closed program s seen []) {n : Nat} {w v : Way}
    (h : Path program n w v) (hw : w.spot ∈ seen) (hin : w.place.IsIn s) :
    ∃ i, program[v.next]? = some i := by
  induction h with
  | refl =>
    obtain ⟨i, hi, -⟩ := hc _ hw hin
    exact ⟨i, hi⟩
  | step hi hv _ ih =>
    obtain ⟨j, hj, hnext⟩ := hc _ hw hin
    obtain rfl := Option.some.inj (hi.symm.trans hj)
    rcases hnext _ hv with h | h
    · exact ih h (Instr.isIn_of_mem_follow hv hin)
    · cases h

/-- A traversal that starts afresh has a result if there is a path from one of its ways out of the
program. -/
theorem Traversal.complete {s : Text} {result : Option Way} (h : Traversal program [] ways result)
    (hways : ∀ w ∈ ways, w.place.IsIn s) {n : Nat} {w v : Way} (hw : w ∈ ways)
    (hp : Path program n w v) (hend : program[v.next]? = none) : ∃ x, result = some x := by
  cases result with
  | some x => exact ⟨x, rfl⟩
  | none =>
    obtain ⟨spots, -, hspots, hc⟩ := h.closed hways fun _ hx => nomatch hx
    obtain ⟨i, hi⟩ := hc.path hp (hspots w hw) (hways w hw)
    cases hend.symm.trans hi

end

end NestedRouting
