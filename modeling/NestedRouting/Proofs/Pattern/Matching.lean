import NestedRouting.Pattern.Match
import NestedRouting.Proofs.Pattern.Ending
import NestedRouting.Proofs.Regex.Preference

/-!
# Which paths a pattern matches

The search for the recognizer of a pattern finds a spelling of the tokens at the start of the path,
with something behind that the options allow (`exec_spec`). Which spelling the search finds is not
said where there are several; but a delimiter that is all that is left behind the route is always
taken up, unless matching is strict, because the branch of the tail that notes it is preferred
(`notes_of_search`).
-/

namespace NestedRouting

open Regex Position

/-! ## The code of the parts -/

/-- The code of parts, one behind the other. -/
def codeOf (ps : List Part) : List Instr := ps.flatMap fun p => p.regex.code

/-- The code of parts and more parts. -/
theorem codeOf_append (ps qs : List Part) : codeOf (ps ++ qs) = codeOf ps ++ codeOf qs :=
  List.flatMap_append

/-- An expression in sequence with parts has its code and then theirs. -/
theorem code_foldl_seq (r : Regex) (ps : List Part) :
    ((ps.map Part.regex).foldl .seq r).code = r.code ++ codeOf ps := by
  induction ps generalizing r with
  | nil => exact (List.append_nil _).symm
  | cons p ps ih =>
    rw [List.map_cons, List.foldl_cons, ih, Regex.code, List.append_assoc]
    rfl

/-- The code of a sequence is that of its parts. -/
theorem code_inSequence (ps : List Part) : (inSequence (ps.map Part.regex)).code = codeOf ps := by
  cases ps with
  | nil => rfl
  | cons p ps => exact code_foldl_seq p.regex ps

/-- The code of parts does what they take one behind the other. -/
theorem means_codeOf (ps : List Part) : Means (codeOf ps) (takesAll ps) := by
  induction ps with
  | nil => exact means_nil
  | cons p ps ih => exact (means_code p.regex).append ih

/-- The jumps of the code of parts stay inside it. -/
theorem contained_codeOf (ps : List Part) : Contained (codeOf ps) := by
  induction ps with
  | nil => exact contained_nil
  | cons p ps ih => exact (contained_code p.regex).append ih

/-- The parts of a recognizer in front of the tail. -/
def frontParts (tokens : List Token) (o : Options) : List Part :=
  [.plain (.look .textStart), (Part.joined (routeParts (!o.sensitive) 0 tokens)).wrapped
    (.capture 1 (some routeGroup))]

/-- The parts of the tail of a recognizer. -/
def tailParts (tokens : List Token) (o : Options) : List Part :=
  (tailOf tokens o).parts (!o.sensitive) o.strict ((keysOf tokens).length + 1)

/-- The code of a recognizer has a front and a tail. -/
theorem code_recognizerRegex (tokens : List Token) (o : Options) :
    (recognizerRegex tokens o).code =
      codeOf (frontParts tokens o) ++ codeOf (tailParts tokens o) := by
  rw [recognizerRegex, code_inSequence, ← codeOf_append]
  rfl

/-- The code of a delimiter that ends the path. -/
def trailCode (ignoreCase : Bool) (group : Nat) : List Instr :=
  [.note group false, .take (delimiters ignoreCase), .note group true, .check .textEnd]

/-- A delimiter that ends the path is taken without a jump. -/
theorem isForward_trailCode {ic : Bool} {group : Nat} : ∀ i ∈ trailCode ic group, i.IsForward := by
  intro i hi
  simp only [trailCode, List.mem_cons, List.not_mem_nil, or_false] at hi
  rcases hi with rfl | rfl | rfl | rfl <;> trivial

/-- Unless matching is strict, the tail prefers to note a delimiter that ends the path. -/
theorem codeOf_tailParts {tokens : List Token} {o : Options} (hs : o.strict = false)
    (h : tailOf tokens o ≠ .pathEnd) :
    ∃ later, codeOf (tailParts tokens o) = .fork true (4 + min later.length 1) ::
        (trailCode (!o.sensitive) ((keysOf tokens).length + 2) ++ later) ∧
      (later = [] ∨ ∃ rest, later = .skip rest.length :: rest) ∧ ∀ i ∈ later, i.IsForward := by
  unfold tailParts
  rw [hs]
  cases htail : tailOf tokens o with
  | pathEnd => exact absurd htail h
  | anything => exact ⟨[], rfl, .inl rfl, nofun⟩
  | boundary =>
    refine ⟨[.skip 4, .fork true 2, .take (delimiters (!o.sensitive)), .skip 1, .check .textEnd],
      rfl, .inr ⟨[.fork true 2, .take (delimiters (!o.sensitive)), .skip 1, .check .textEnd], rfl⟩,
      ?_⟩
    intro i hi
    simp only [List.mem_cons, List.not_mem_nil, or_false] at hi
    rcases hi with rfl | rfl | rfl | rfl | rfl <;> trivial

/-- A delimiter that ends the path is noted without a choice. -/
theorem straightRun_trail {ic : Bool} {captures : Nat} (front : List Instr) {later : List Instr}
    (a : Text) {d : Char} (ns : List Note) (hd : isDelimiter d = true)
    (hlater : later = [] ∨ ∃ rest, later = .skip rest.length :: rest) :
    ∃ y, StraightRun
        (front ++ .fork true (4 + min later.length 1) :: (trailCode ic (captures + 1) ++ later))
        front.length (front.length + (4 + min later.length 1)) (.at (front.length + 1) a [d] ns) y ∧
      y.notes = trailNotes captures a ++ ns := by
  generalize hprogram :
    front ++ .fork true (4 + min later.length 1) :: (trailCode ic (captures + 1) ++ later) = program
  have hget : ∀ k, program[front.length + 1 + k]? = (trailCode ic (captures + 1) ++ later)[k]? := by
    intro k
    rw [← hprogram, Nat.add_assoc, List.getElem?_append_right (Nat.le_add_right ..),
      Nat.add_sub_cancel_left, Nat.add_comm 1 k, List.getElem?_cons_succ]
  have hmem : (delimiters ic).mem d = true := mem_delimiters.trans hd
  have htake : (Instr.take (delimiters ic)).follow (.at (front.length + 1 + 1) a [d]
      (⟨captures + 1, false, a.length⟩ :: ns)) = [.at (front.length + 1 + 2) (a ++ [d]) []
      (⟨captures + 1, false, a.length⟩ :: ns)] := by
    simp [Instr.follow, Way.at, Position.between, hmem]
  have hnote : (Instr.note (captures + 1) true).follow (.at (front.length + 1 + 2) (a ++ [d]) []
      (⟨captures + 1, false, a.length⟩ :: ns)) = [.at (front.length + 1 + 3) (a ++ [d]) []
      (trailNotes captures a ++ ns)] := by
    simp [Instr.follow, Way.at, Position.between, trailNotes]
  have hcheck : (Instr.check .textEnd).follow (.at (front.length + 1 + 3) (a ++ [d]) []
      (trailNotes captures a ++ ns)) = [.at (front.length + 1 + 4) (a ++ [d]) []
      (trailNotes captures a ++ ns)] := rfl
  have hlast : ∃ y, StraightRun program front.length (front.length + (4 + min later.length 1))
      (.at (front.length + 1 + 4) (a ++ [d]) [] (trailNotes captures a ++ ns)) y ∧
      y.notes = trailNotes captures a ++ ns := by
    rcases hlater with rfl | ⟨rest, rfl⟩
    · exact ⟨_, .stop (hget 4), rfl⟩
    · refine ⟨.at (front.length + 1 + (4 + 1 + rest.length)) (a ++ [d]) [] _,
        .step ?_ ?_ (hget 4) ?_ (.stop ?_), rfl⟩
      · simp only [Way.next_at]
        omega
      · simp only [Way.next_at, List.length_cons]
        omega
      · simp only [Instr.follow, Way.next_at, Way.goTo_at, Nat.add_assoc]
      · rw [Way.next_at, hget, List.getElem?_eq_none_iff]
        simp only [trailCode, List.length_append, List.length_cons, List.length_nil]
        omega
  obtain ⟨y, hrun, hnotes⟩ := hlast
  have hfirst : ∀ k, front.length < front.length + 1 + k := by
    intro k
    omega
  have hin : ∀ k < 4, front.length + 1 + k ≤ front.length + (4 + min later.length 1) := by
    intro k hk
    omega
  -- the note in front, the delimiter, the note behind it and the check of the end
  exact ⟨y, .step (hfirst 0) (hin 0 (by decide)) (hget 0) rfl
    (.step (hfirst 1) (hin 1 (by decide)) (hget 1) htake
      (.step (hfirst 2) (hin 2 (by decide)) (hget 2) hnote
        (.step (hfirst 3) (hin 3 (by decide)) (hget 3) hcheck hrun))), hnotes⟩

/-! ## What a search notes -/

section
variable {tokens : List Token} {o : Options} {path u t rest : Text} {n : List Note} {w : Way}

/-- The notes of a route at the start of the path. -/
def routeNotes (t : Text) (n : List Note) : List Note :=
  ⟨1, true, t.length⟩ :: (n ++ [⟨1, false, 0⟩])

/-- The front of a recognizer takes a route at the start of the path. -/
theorem takes_frontParts : takesAll (frontParts tokens o) u t rest n ↔
    u = [] ∧ ∃ m, n = routeNotes t m ∧
      takesAll (routeParts (!o.sensitive) 0 tokens) [] t rest m := by
  constructor
  · rintro ⟨_, t, _, _, rfl, rfl, ⟨rfl, rfl, hstart⟩, h⟩
    obtain rfl : u = [] := by
      simpa [Look.holds, between] using hstart
    obtain ⟨m, rfl, hm⟩ := (takesAll_singleton _).1 h
    refine ⟨rfl, m, ?_, (takes_joined (directive_routeParts 0 tokens)).1 hm⟩
    simp [routeNotes]
  · rintro ⟨rfl, m, rfl, hm⟩
    refine ⟨[], t, [], routeNotes t m, rfl, (List.append_nil _).symm, ⟨rfl, rfl, rfl⟩,
      (takesAll_singleton _).2 ⟨m, ?_, (takes_joined (directive_routeParts 0 tokens)).2 hm⟩⟩
    simp [routeNotes]

/-- What a recognizer takes: a route, and behind it what the tail takes. -/
theorem takes_recognizerRegex {x v : Text} :
    (recognizerRegex tokens o).takes u x v n ↔
      (takesAll (frontParts tokens o)).andThen (takesAll (tailParts tokens o)) u x v n :=
  (takes_inSequence _).trans (takesAll_append (frontParts tokens o) (tailParts tokens o))

/-- What a search notes behind the notes of the route: a delimiter that is all that is left, unless
matching is strict. -/
def Options.TrailNoted (o : Options) (captures : Nat) (t rest : Text) (m : List Note) : Prop :=
  (o.trailing rest = [] ∧ m = []) ∨
    ∃ d, rest = [d] ∧ o.trailing rest = [d] ∧ m = trailNotes captures t

/-- Where matching is strict nothing is trailing. -/
theorem trailing_eq_nil (h : o.strict = true) : o.trailing rest = [] := by
  unfold Options.trailing
  split
  · rw [h]
    rfl
  · rfl

/-- A delimiter that is all that is left is trailing, unless matching is strict. -/
theorem trailing_singleton {d : Char} (hs : o.strict = false) (hd : isDelimiter d = true) :
    o.trailing [d] = [d] := by
  simp [Options.trailing, hs, hd]

/-- What is trailing is nothing, or a delimiter that is all that is left. -/
theorem trailing_eq (rest : Text) : o.trailing rest = [] ∨
    ∃ d, rest = [d] ∧ o.trailing rest = [d] ∧ o.strict = false ∧ isDelimiter d = true := by
  unfold Options.trailing
  split
  · next d =>
    split
    · next h =>
      rw [Bool.and_eq_true, Bool.not_eq_true'] at h
      exact .inr ⟨d, rfl, rfl, h⟩
    · exact .inl rfl
  · exact .inl rfl

/-- A tail of one kind only notes what it must. -/
theorem trailNoted_of_takes {captures : Nat} {y v : Text} {m : List Note}
    (hkind : o.strict = true ∨ tailOf tokens o = .pathEnd)
    (h : takesAll ((tailOf tokens o).parts (!o.sensitive) o.strict captures) t y v m) :
    o.TrailNoted captures t (y ++ v) m := by
  rcases (admits_of_takes h).2 with ⟨rfl, hend⟩ | ⟨hs, rfl, d, hrest, hd⟩
  · refine .inl ⟨?_, rfl⟩
    rcases hkind with hs | htail
    · exact trailing_eq_nil hs
    · rw [hend htail]
      rfl
  · rw [hrest]
    exact .inr ⟨d, rfl, trailing_singleton hs hd, rfl⟩

/-- A search finds a route at the start of the path with something behind it that the tail takes,
and notes a delimiter that is all that is left, unless matching is strict. -/
theorem notes_of_search (h : (recognizerRegex tokens o).search path = some w) :
    ∃ t n y v m, path = t ++ (y ++ v) ∧
      takesAll (routeParts (!o.sensitive) 0 tokens) [] t (y ++ v) n ∧
      takesAll (tailParts tokens o) t y v m ∧
      o.TrailNoted ((keysOf tokens).length + 1) t (y ++ v) m ∧ w.notes = m ++ routeNotes t n := by
  by_cases hkind : o.strict = true ∨ tailOf tokens o = .pathEnd
  · obtain ⟨u, _, v, _, rfl, htakes, rfl⟩ := takes_of_search h
    obtain ⟨t, y, _, m, rfl, rfl, hfront, htail⟩ := takes_recognizerRegex.1 htakes
    obtain ⟨rfl, n, rfl, hroute⟩ := takes_frontParts.1 hfront
    exact ⟨t, n, y, v, m, by simp, hroute, htail, trailNoted_of_takes hkind htail, rfl⟩
  · rw [not_or, Bool.not_eq_true] at hkind
    obtain ⟨hs, htail⟩ := hkind
    obtain ⟨later, hcode, hlater, hforward⟩ := codeOf_tailParts hs htail
    have hforward : ∀ i ∈ codeOf (tailParts tokens o), i.IsForward := by
      intro i hi
      rw [hcode] at hi
      rcases List.mem_cons.1 hi with rfl | hi
      · trivial
      · exact (List.mem_append.1 hi).elim (isForward_trailCode i) (hforward i)
    have hcontained := contained_codeOf (frontParts tokens o)
    have ht := search_traversal (contained_code (recognizerRegex tokens o)) path
    rw [h, code_recognizerRegex] at ht
    obtain ⟨u, t, n, y, v, m, seen, ways, rfl, hfront, htakes, hnotes, hnew, htraced, ht⟩ :=
      ht.split (means_codeOf _) (means_codeOf _) hcontained hforward (by rw [hcode]; nofun)
    obtain ⟨rfl, n, rfl, hroute⟩ := takes_frontParts.1 hfront
    refine ⟨t, n, y, v, m, rfl, hroute, htakes, ?_, hnotes⟩
    rcases trailing_eq (o := o) (y ++ v) with hnil | ⟨d, hrest, htrailing, -, hd⟩
    · rcases (admits_of_takes htakes).2 with ⟨hm, -⟩ | ⟨-, -, d, hrest, hd⟩
      · exact .inl ⟨hnil, hm⟩
      · rw [hrest, trailing_singleton hs hd] at hnil
        cases hnil
    · -- the branch that notes the delimiter is the first to be followed, and it runs to the end
      rw [hcode] at hforward ht htraced
      rw [hrest] at ht htraced hnew
      obtain ⟨z, hrun, hz⟩ :=
        straightRun_trail (codeOf (frontParts tokens o)) ([] ++ t) (routeNotes t n) hd hlater
      have hplain : ∀ k i, k + 1 < 4 + min later.length 1 →
          (trailCode (!o.sensitive) ((keysOf tokens).length + 2) ++ later)[k]? = some i →
          i.ahead = 0 := by
        intro k i hk hi
        match k, show k < 4 by omega with
        | 0, _ | 1, _ | 2, _ | 3, _ =>
          obtain rfl := Option.some.inj hi
          rfl
      have hw : some w = some z := ht.eq_of_run htraced hnew rfl (by omega) hcontained
        (fun i hi => hforward i (.tail _ hi)) hplain hrun
      obtain rfl := Option.some.inj hw
      refine .inr ⟨d, hrest, htrailing, ?_⟩
      exact List.append_cancel_right (hnotes.symm.trans hz)

end

end NestedRouting
