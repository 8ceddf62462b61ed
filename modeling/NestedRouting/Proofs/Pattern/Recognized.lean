import NestedRouting.Proofs.Pattern.Recognizer
import NestedRouting.Proofs.Pattern.Spelling
import NestedRouting.Proofs.Regex.Characters
import NestedRouting.Proofs.Regex.Meaning

/-!
# What the parts of a recognizer take

The parts of tokens take the texts that spell the tokens: what they take is a spelling and they note
where each key captured what it captures (`spells_of_takes`), and every spelling is taken
(`takes_of_spells`).
-/

namespace NestedRouting

open Regex

/-! ## Sequences of parts -/

/-- What parts take, one behind the other. -/
def takesAll : List Part → Span
  | [] => .nothing
  | p :: ps => p.regex.takes.andThen (takesAll ps)

section
variable {u v x : Text} {n : List Note} {R : Span} {ic : Bool}

/-- In front of nothing a span takes what it takes by itself. -/
theorem Span.andThen_nothing : R.andThen .nothing u x v n ↔ R u x v n := by
  constructor
  · rintro ⟨t, _, n, _, rfl, rfl, h, rfl, rfl⟩
    rw [List.nil_append] at h
    simpa using h
  · intro h
    exact ⟨x, [], n, [], by simp, rfl, h, rfl, rfl⟩

/-- Parts and more parts take what they take one behind the other. -/
theorem takesAll_append (ps qs : List Part) :
    takesAll (ps ++ qs) u x v n ↔ (takesAll ps).andThen (takesAll qs) u x v n := by
  induction ps generalizing u x v n with
  | nil => exact Span.nothing_andThen.symm
  | cons p ps ih => exact (Span.andThen_congr .rfl ih).trans Span.andThen_assoc.symm

/-- A single part takes what its expression takes. -/
theorem takesAll_singleton (p : Part) : takesAll [p] u x v n ↔ p.regex.takes u x v n :=
  Span.andThen_nothing

/-- An expression in sequence with parts takes what it takes and then what they take. -/
theorem takes_foldl_seq (r : Regex) (ps : List Part) :
    ((ps.map Part.regex).foldl .seq r).takes u x v n ↔ r.takes.andThen (takesAll ps) u x v n := by
  induction ps generalizing r u x n with
  | nil => exact Span.andThen_nothing.symm
  | cons p ps ih => exact (ih (.seq r p.regex)).trans Span.andThen_assoc

/-- Parts joined to one take what they take one behind the other. -/
theorem takes_inSequence (ps : List Part) :
    (inSequence (ps.map Part.regex)).takes u x v n ↔ takesAll ps u x v n := by
  cases ps with
  | nil => exact .rfl
  | cons p ps => exact takes_foldl_seq p.regex ps

/-- Joined parts take what they take one behind the other, if they have no directive. -/
theorem takes_joined {ps : List Part} (h : ∀ p ∈ ps, p.directive = false) :
    (Part.joined ps).regex.takes u x v n ↔ takesAll ps u x v n := by
  rw [Part.joined_regex h, takes_inSequence]

/-- A part with a modifier takes what it takes as often as the modifier allows. -/
theorem takes_modified (p : Part) (m : Modifier) :
    (p.modified m).regex.takes u x v n ↔
      ∃ k, m.Allows k ∧ p.regex.takes.times k u x v n := by
  cases m with
  | none =>
    constructor
    · intro h
      exact ⟨1, ⟨nofun, fun h => absurd h (Nat.lt_irrefl 1)⟩, Span.times_one.2 h⟩
    · rintro ⟨k, ⟨hzero, hmany⟩, h⟩
      match k with
      | 0 => cases hzero rfl
      | 1 => exact Span.times_one.1 h
      | k + 2 => cases hmany (by omega)
  | some q =>
    cases q with
    | optional =>
      constructor
      · rintro ⟨k, -, hmost, h⟩
        have : k ≤ 1 := hmost 1 rfl
        exact ⟨k, ⟨fun _ => rfl, fun h => absurd h (by omega)⟩, h⟩
      · rintro ⟨k, ⟨-, hmany⟩, h⟩
        refine ⟨k, Nat.zero_le _, fun m hm => ?_, h⟩
        obtain rfl := Option.some.inj hm
        rcases Nat.lt_or_ge 1 k with hk | hk
        · cases hmany hk
        · exact hk
    | zeroOrMore =>
      constructor
      · rintro ⟨k, -, -, h⟩
        exact ⟨k, ⟨fun _ => rfl, fun _ => rfl⟩, h⟩
      · rintro ⟨k, -, h⟩
        exact ⟨k, Nat.zero_le _, nofun, h⟩
    | oneOrMore =>
      constructor
      · rintro ⟨k, hk, -, h⟩
        exact ⟨k, ⟨fun h => absurd hk (by omega), fun _ => rfl⟩, h⟩
      · rintro ⟨k, ⟨hzero, -⟩, h⟩
        refine ⟨k, ?_, nofun, h⟩
        rcases Nat.eq_zero_or_pos k with rfl | hk
        · cases hzero rfl
        · exact hk

/-! ## Texts and values -/

/-- A character takes the characters that are the same but for their case, if that is ignored. -/
theorem takes_ofChar {c : Char} :
    (ofChar ic c).takes u x v n ↔
      (∃ d, x = [d] ∧ if ic then Unicode.fold c = Unicode.fold d else c = d) ∧ n = [] := by
  have hmem : ∀ d, (if ic then CharSet.alike c else .single c).mem d = true ↔
      if ic then Unicode.fold c = Unicode.fold d else c = d := by
    intro d
    cases ic with
    | false =>
      rw [if_neg nofun, if_neg nofun, CharSet.mem_single, beq_iff_eq]
      exact eq_comm
    | true =>
      rw [if_pos rfl, if_pos rfl, CharSet.mem, beq_iff_eq]
      exact eq_comm
  simp only [ofChar, takes, hmem]

/-- Only the empty text is the same as the empty text. -/
theorem same_nil {o : Options} : o.Same [] x ↔ x = [] := by
  unfold Options.Same
  split <;> simp [eq_comm]

/-- A text is the same if its first character is and the rest is. -/
theorem same_cons {o : Options} {c : Char} {t : Text} : o.Same (c :: t) x ↔
    ∃ d s, x = d :: s ∧
      (if (!o.sensitive) = true then Unicode.fold c = Unicode.fold d else c = d) ∧ o.Same t s := by
  unfold Options.Same
  cases x with
  | nil => cases o.sensitive <;> simp
  | cons d s =>
    constructor
    · intro h
      refine ⟨d, s, rfl, ?_⟩
      cases hs : o.sensitive <;> simpa [hs] using h
    · rintro ⟨_, _, ⟨⟩, h⟩
      cases hs : o.sensitive <;> simpa [hs] using h

/-- The parts of a text take the texts that are the same. -/
theorem takes_textParts {o : Options} {t : Text} :
    takesAll (textParts (!o.sensitive) t) u x v n ↔ o.Same t x ∧ n = [] := by
  induction t generalizing u x n with
  | nil =>
    rw [same_nil]
    exact .rfl
  | cons c t ih =>
    rw [same_cons]
    constructor
    · rintro ⟨_, s, _, _, rfl, rfl, hc, ht⟩
      obtain ⟨⟨d, rfl, hd⟩, rfl⟩ := takes_ofChar.1 hc
      obtain ⟨hs, rfl⟩ := ih.1 ht
      exact ⟨⟨d, s, rfl, hd, hs⟩, rfl⟩
    · rintro ⟨⟨d, s, rfl, hd, hs⟩, rfl⟩
      exact ⟨[d], s, [], [], rfl, rfl, takes_ofChar.2 ⟨⟨d, rfl, hd⟩, rfl⟩, ih.2 ⟨hs, rfl⟩⟩

/-- A set several times takes so many of its members. -/
theorem takes_set_times {s : CharSet} {k : Nat} :
    (set s).takes.times k u x v n ↔ (x.length = k ∧ ∀ c ∈ x, s.mem c = true) ∧ n = [] := by
  induction k generalizing u x n with
  | zero =>
    constructor
    · rintro ⟨rfl, rfl⟩
      exact ⟨⟨rfl, nofun⟩, rfl⟩
    · rintro ⟨⟨hx, -⟩, rfl⟩
      exact ⟨List.eq_nil_of_length_eq_zero hx, rfl⟩
  | succ k ih =>
    constructor
    · rintro ⟨_, t, _, _, rfl, rfl, ⟨⟨c, rfl, hc⟩, rfl⟩, ht⟩
      obtain ⟨⟨rfl, hall⟩, rfl⟩ := ih.1 ht
      refine ⟨⟨rfl, fun d hd => ?_⟩, rfl⟩
      rcases List.mem_cons.1 hd with rfl | hd
      · exact hc
      · exact hall d hd
    · rintro ⟨⟨hx, hall⟩, rfl⟩
      cases x with
      | nil => cases hx
      | cons c t =>
        refine ⟨[c], t, [], [], rfl, rfl, ⟨⟨c, rfl, hall c (.head _)⟩, rfl⟩, ih.2 ⟨⟨?_, ?_⟩, rfl⟩⟩
        · exact Nat.succ.inj hx
        · exact fun d hd => hall d (.tail _ hd)

/-- The part of a value takes the values of the key. -/
theorem takes_valuePart {key : Key} :
    (valuePart ic key.pattern).regex.takes u x v n ↔ key.HasValue x ∧ n = [] := by
  unfold valuePart Key.HasValue
  split
  · constructor
    · rintro ⟨k, -, -, h⟩
      obtain ⟨⟨-, hall⟩, rfl⟩ := takes_set_times.1 h
      refine ⟨fun hmem => ?_, rfl⟩
      have := hall _ hmem
      simp at this
    · rintro ⟨hline, rfl⟩
      refine ⟨x.length, Nat.zero_le _, nofun, takes_set_times.2 ⟨⟨rfl, fun c hc => ?_⟩, rfl⟩⟩
      have hne : c ≠ '\n' := fun h => hline (h ▸ hc)
      simpa using hne
  · constructor
    · rintro ⟨k, hk, -, h⟩
      obtain ⟨⟨rfl, hall⟩, rfl⟩ := takes_set_times.1 h
      refine ⟨⟨List.ne_nil_of_length_pos hk, fun c hc => ?_⟩, rfl⟩
      have := hall c hc
      simpa using this
    · rintro ⟨⟨hne, hall⟩, rfl⟩
      refine ⟨x.length, List.length_pos_iff.2 hne, nofun,
        takes_set_times.2 ⟨⟨rfl, fun c hc => ?_⟩, rfl⟩⟩
      simp [hall c hc]

/-! ## Keys -/

variable {o : Options} {key : Key} {number : Nat}

/-- The part of a value in parentheses. -/
theorem takes_value_wrapped :
    ((Part.joined [valuePart ic key.pattern]).wrapped .plain).regex.takes u x v n ↔
      key.HasValue x ∧ n = [] :=
  takes_valuePart

/-- What separates two values of a key takes tail, lead and the second value. -/
theorem takes_separated :
    (separated (!o.sensitive) key).regex.takes u x v n ↔
      (∃ t l w, x = t ++ (l ++ w) ∧ o.Same key.tail t ∧ o.Same key.lead l ∧ key.HasValue w) ∧
        n = [] := by
  refine (takes_joined directive_separated).trans ((takesAll_append _ _).trans ?_)
  constructor
  · rintro ⟨t, _, _, _, rfl, rfl, ht, h⟩
    obtain ⟨l, w, _, _, rfl, rfl, hl, hw⟩ := (takesAll_append _ _).1 h
    obtain ⟨htail, rfl⟩ := takes_textParts.1 ht
    obtain ⟨hlead, rfl⟩ := takes_textParts.1 hl
    obtain ⟨hvalue, rfl⟩ := takes_value_wrapped.1 ((takesAll_singleton _).1 hw)
    exact ⟨⟨t, l, w, rfl, htail, hlead, hvalue⟩, rfl⟩
  · rintro ⟨⟨t, l, w, rfl, ht, hl, hw⟩, rfl⟩
    refine ⟨t, l ++ w, [], [], rfl, rfl, takes_textParts.2 ⟨ht, rfl⟩, (takesAll_append _ _).2 ?_⟩
    exact ⟨l, w, [], [], rfl, rfl, takes_textParts.2 ⟨hl, rfl⟩,
      (takesAll_singleton _).2 (takes_value_wrapped.2 ⟨hw, rfl⟩)⟩

/-- Behind a value, more values of a repeated key make its occurrences, whatever stands in front of
the first and behind the last. -/
theorem occurrences_of_times {k : Nat} {l w t : Text} (hl : o.Same key.lead l)
    (hw : key.HasValue w) (ht : o.Same key.tail t)
    (h : (separated (!o.sensitive) key).regex.takes.times k u x v n) :
    (∃ (y : Occurrence) (ys : List Occurrence), y.lead = l ∧ y.lastTail ys = t ∧
      (∀ z ∈ y :: ys, z.Fits o key) ∧ w ++ x = y.spread ys) ∧ n = [] := by
  induction k generalizing u x n l w with
  | zero =>
    obtain ⟨rfl, rfl⟩ := h
    refine ⟨⟨⟨l, w, t⟩, [], rfl, rfl, ?_, List.append_nil w⟩, rfl⟩
    intro z hz
    obtain rfl := List.mem_singleton.1 hz
    exact ⟨hl, hw, ht⟩
  | succ k ih =>
    obtain ⟨_, x, _, _, rfl, rfl, hs, h⟩ := h
    obtain ⟨⟨t₁, l₁, w₁, rfl, ht₁, hl₁, hw₁⟩, rfl⟩ := takes_separated.1 hs
    obtain ⟨⟨y, ys, rfl, htail, hfits, hx⟩, rfl⟩ := ih hl₁ hw₁ h
    refine ⟨⟨⟨l, w, t₁⟩, y :: ys, rfl, htail, ?_, ?_⟩, rfl⟩
    · intro z hz
      rcases List.mem_cons.1 hz with rfl | hz
      · exact ⟨hl, hw, ht₁⟩
      · exact hfits z hz
    · simp only [Occurrence.spread, ← hx, List.append_assoc]

/-- Several occurrences of a key: behind the first value, each further one with what separates
them. -/
theorem times_of_occurrences {y : Occurrence} {ys : List Occurrence}
    (h : ∀ z ∈ y :: ys, z.Fits o key) :
    ∃ x, y.spread ys = y.value ++ x ∧
      ∀ u v, (separated (!o.sensitive) key).regex.takes.times ys.length u x v [] := by
  induction ys generalizing y with
  | nil => exact ⟨[], (List.append_nil _).symm, fun _ _ => ⟨rfl, rfl⟩⟩
  | cons z ys ih =>
    obtain ⟨x, hx, htimes⟩ := ih fun z' hz => h z' (.tail _ hz)
    obtain ⟨-, -, ht⟩ := h y (.head _)
    obtain ⟨hl, hw, -⟩ := h z (.tail _ (.head _))
    refine ⟨y.tail ++ (z.lead ++ z.value) ++ x, ?_, fun u v => ?_⟩
    · simp only [Occurrence.spread, hx, List.append_assoc]
    · exact ⟨_, _, [], [], rfl, rfl, takes_separated.2 ⟨⟨_, _, _, rfl, ht, hl, hw⟩, rfl⟩,
        htimes _ _⟩

/-- The notes of a key: none if it captures nothing, else where its group stops and starts. -/
def Marks (group : Nat) (u x : Text) (n : List Note) : Option Text → Prop
  | none => n = []
  | some c => ∃ a b, x = a ++ (c ++ b) ∧
    n = [⟨group, true, u.length + a.length + c.length⟩, ⟨group, false, u.length + a.length⟩]

/-- The group of a key takes what it captures, and notes where. -/
theorem takes_capturePart {ps : List Part} (h : ∀ p ∈ ps, p.directive = false) :
    (capturePart number ps).regex.takes u x v n ↔
      ∃ m, n = ⟨number + 2, true, u.length + x.length⟩ :: (m ++ [⟨number + 2, false, u.length⟩]) ∧
        takesAll ps u x v m := by
  constructor
  · rintro ⟨m, rfl, hm⟩
    exact ⟨m, rfl, (takes_joined h).1 hm⟩
  · rintro ⟨m, rfl, hm⟩
    exact ⟨m, rfl, (takes_joined h).2 hm⟩

/-- A part between two texts takes what it takes between texts that are the same. -/
theorem takes_between {s t : Text} (p : Part) :
    takesAll (textParts (!o.sensitive) s ++ ([p] ++ textParts (!o.sensitive) t)) u x v n ↔
      ∃ l c r, x = l ++ (c ++ r) ∧ o.Same s l ∧ o.Same t r ∧
        p.regex.takes (u ++ l) c (r ++ v) n := by
  refine (takesAll_append _ _).trans ?_
  constructor
  · rintro ⟨l, _, _, _, rfl, rfl, hl, hcr⟩
    obtain ⟨c, r, _, _, rfl, rfl, hc, hr⟩ := (takesAll_append _ _).1 hcr
    obtain ⟨hs, rfl⟩ := takes_textParts.1 hl
    obtain ⟨ht, rfl⟩ := takes_textParts.1 hr
    refine ⟨l, c, r, rfl, hs, ht, ?_⟩
    simpa using (takesAll_singleton p).1 hc
  · rintro ⟨l, c, r, rfl, hs, ht, hc⟩
    refine ⟨l, c ++ r, [], n, rfl, (List.append_nil n).symm, takes_textParts.2 ⟨hs, rfl⟩,
      (takesAll_append _ _).2 ⟨c, r, n, [], rfl, rfl, ?_, takes_textParts.2 ⟨ht, rfl⟩⟩⟩
    exact (takesAll_singleton p).2 hc

/-- The group of a key takes lead, what is captured and tail, and notes what is captured. -/
theorem takes_framed {ps : List Part} (h : ∀ p ∈ ps, p.directive = false) :
    (framed (!o.sensitive) number key ps).regex.takes u x v n ↔
      ∃ l c t m, x = l ++ (c ++ t) ∧ o.Same key.lead l ∧ o.Same key.tail t ∧
        n = ⟨number + 2, true, u.length + l.length + c.length⟩ ::
          (m ++ [⟨number + 2, false, u.length + l.length⟩]) ∧
        takesAll ps (u ++ l) c (t ++ v) m := by
  refine (takes_joined directive_framed).trans ((takes_between _).trans ?_)
  simp only [takes_capturePart h, List.length_append]
  constructor
  · rintro ⟨l, c, t, rfl, hl, ht, m, rfl, hm⟩
    exact ⟨l, c, t, m, rfl, hl, ht, rfl, hm⟩
  · rintro ⟨l, c, t, m, rfl, hl, ht, rfl, hm⟩
    exact ⟨l, c, t, rfl, hl, ht, m, rfl, hm⟩

/-- What repeated values take: a value, and more of them with what separates them. -/
theorem takes_repeatParts :
    takesAll (repeatParts (!o.sensitive) key) u x v n ↔
      ∃ w y k, x = w ++ y ∧ key.HasValue w ∧
        (separated (!o.sensitive) key).regex.takes.times k (u ++ w) y v n := by
  constructor
  · rintro ⟨w, y, _, m, rfl, rfl, hw, hm⟩
    obtain ⟨hvalue, rfl⟩ := takes_value_wrapped.1 hw
    obtain ⟨k, -, hk⟩ := (takes_modified _ _).1 ((takesAll_singleton _).1 hm)
    exact ⟨w, y, k, rfl, hvalue, (List.append_nil m).symm ▸ hk⟩
  · rintro ⟨w, y, k, rfl, hw, hk⟩
    refine ⟨w, y, [], n, rfl, (List.append_nil n).symm, takes_value_wrapped.2 ⟨hw, rfl⟩, ?_⟩
    exact (takesAll_singleton _).2 ((takes_modified _ _).2 ⟨k, ⟨fun _ => rfl, fun _ => rfl⟩, hk⟩)

/-- A part that may not repeat is there at most once. -/
theorem Modifier.Allows.le_one {m : Modifier} {k : Nat} (h : m.Allows k)
    (hm : m.isRepeat = false) : k ≤ 1 := by
  rcases Nat.lt_or_ge 1 k with hk | hk
  · rw [h.2 hk] at hm
    cases hm
  · exact hk

/-- A part may be absent if its modifier says so. -/
theorem Modifier.allows_zero_iff {m : Modifier} : m.Allows 0 ↔ m.isOptional = true :=
  ⟨fun h => h.1 rfl, fun h => ⟨fun _ => h, fun hlt => absurd hlt (Nat.not_lt_zero 1)⟩⟩

/-- Every modifier allows a part once. -/
theorem Modifier.allows_one (m : Modifier) : m.Allows 1 :=
  ⟨fun hzero => absurd hzero Nat.one_ne_zero, fun hlt => absurd hlt (Nat.lt_irrefl 1)⟩

/-- A part that may not repeat takes nothing, if it may be absent, or what it takes once. -/
theorem takes_modified_once {p : Part} {m : Modifier} (hm : m.isRepeat = false) :
    (p.modified m).regex.takes u x v n ↔
      (m.isOptional = true ∧ x = [] ∧ n = []) ∨ p.regex.takes u x v n := by
  rw [takes_modified]
  constructor
  · rintro ⟨k, hk, h⟩
    rcases Nat.le_one_iff_eq_zero_or_eq_one.1 (hk.le_one hm) with rfl | rfl
    · exact .inl ⟨hk.1 rfl, h⟩
    · exact .inr (Span.times_one.1 h)
  · rintro (⟨hopt, rfl, rfl⟩ | h)
    · exact ⟨0, Modifier.allows_zero_iff.2 hopt, rfl, rfl⟩
    · exact ⟨1, m.allows_one, Span.times_one.2 h⟩

/-- What the part of a key takes are occurrences of the key, and it notes what the key captures. -/
theorem occurrences_of_takes (hkey : key.IsSeparated)
    (h : (keyPart (!o.sensitive) number key).regex.takes u x v n) :
    ∃ xs : List Occurrence, (∀ z ∈ xs, z.Fits o key) ∧ key.modifier.Allows xs.length ∧
      x = xs.flatMap Occurrence.text ∧ Marks (number + 2) u x n (captured xs) := by
  unfold keyPart at h
  simp only at h
  split at h
  · next hempty =>
    rw [Bool.and_eq_true, List.isEmpty_iff, List.isEmpty_iff] at hempty
    obtain ⟨hlead, htail⟩ := hempty
    rcases (takes_modified_once (hkey hlead htail)).1 h with ⟨hopt, rfl, rfl⟩ | h
    · exact ⟨[], List.forall_mem_nil _, Modifier.allows_zero_iff.2 hopt, rfl, rfl⟩
    · obtain ⟨m, rfl, hm⟩ := (takes_capturePart directive_value).1 h
      obtain ⟨hvalue, rfl⟩ := takes_valuePart.1 ((takesAll_singleton _).1 hm)
      refine ⟨[⟨[], x, []⟩], ?_, key.modifier.allows_one, by simp [Occurrence.text], [], [],
        by simp [Occurrence.spread], rfl⟩
      intro z hz
      obtain rfl := List.mem_singleton.1 hz
      refine ⟨?_, hvalue, ?_⟩
      · rw [hlead]
        exact same_nil.2 rfl
      · rw [htail]
        exact same_nil.2 rfl
  · split at h
    · next hrep =>
      rcases (takes_modified_once (by split <;> rfl)).1 h with ⟨hopt, rfl, rfl⟩ | h
      · have hopt : key.modifier.isOptional = true := by
          split at hopt
          · assumption
          · cases hopt
        exact ⟨[], List.forall_mem_nil _, Modifier.allows_zero_iff.2 hopt, rfl, rfl⟩
      · obtain ⟨l, c, t, m, rfl, hl, ht, rfl, hm⟩ := (takes_framed directive_repeatParts).1 h
        obtain ⟨w, z, k, rfl, hw, htimes⟩ := takes_repeatParts.1 hm
        obtain ⟨⟨y, ys, rfl, rfl, hfits, hspread⟩, rfl⟩ := occurrences_of_times hl hw ht htimes
        have hallows : key.modifier.Allows (y :: ys).length :=
          ⟨fun hzero => absurd hzero (Nat.succ_ne_zero _), fun _ => hrep⟩
        refine ⟨y :: ys, hfits, hallows, ?_, y.lead, y.lastTail ys, ?_, ?_⟩
        · rw [Occurrence.flatMap_text, hspread]
        · rw [hspread]
        · rw [hspread]
          rfl
    · next hrep =>
      rcases (takes_modified_once (Bool.not_eq_true _ ▸ hrep)).1 h with ⟨hopt, rfl, rfl⟩ | h
      · exact ⟨[], List.forall_mem_nil _, Modifier.allows_zero_iff.2 hopt, rfl, rfl⟩
      · obtain ⟨l, c, t, m, rfl, hl, ht, rfl, hm⟩ := (takes_framed directive_value).1 h
        obtain ⟨hvalue, rfl⟩ := takes_valuePart.1 ((takesAll_singleton _).1 hm)
        refine ⟨[⟨l, c, t⟩], ?_, key.modifier.allows_one, by simp [Occurrence.text], l, t, rfl, rfl⟩
        intro z hz
        obtain rfl := List.mem_singleton.1 hz
        exact ⟨hl, hvalue, ht⟩

/-- The text behind the last of some occurrences stands for the tail of the key. -/
theorem same_lastTail {y : Occurrence} {ys : List Occurrence} (h : ∀ z ∈ y :: ys, z.Fits o key) :
    o.Same key.tail (y.lastTail ys) := by
  induction ys generalizing y with
  | nil => exact (h y (.head _)).2.2
  | cons z ys ih => exact ih fun z' hz => h z' (.tail _ hz)

/-- Of a key that may not repeat there is at most one occurrence. -/
theorem Modifier.Allows.eq_nil {m : Modifier} {y : Occurrence} {ys : List Occurrence}
    (h : m.Allows (y :: ys).length) (hm : m.isRepeat = false) : ys = [] :=
  List.eq_nil_of_length_eq_zero (Nat.le_zero.1 (Nat.le_of_succ_le_succ (h.le_one hm)))

/-- The part of a key takes every list of occurrences that its modifier allows. -/
theorem takes_of_occurrences (hkey : key.IsSeparated) {xs : List Occurrence}
    (hfits : ∀ z ∈ xs, z.Fits o key) (hallows : key.modifier.Allows xs.length) (u v : Text) :
    ∃ n, (keyPart (!o.sensitive) number key).regex.takes u (xs.flatMap Occurrence.text) v n := by
  unfold keyPart
  simp only
  split
  · next hempty =>
    rw [Bool.and_eq_true, List.isEmpty_iff, List.isEmpty_iff] at hempty
    have hrep := hkey hempty.1 hempty.2
    cases xs with
    | nil => exact ⟨[], (takes_modified_once hrep).2 (.inl ⟨hallows.1 rfl, rfl, rfl⟩)⟩
    | cons y ys =>
      obtain rfl := hallows.eq_nil hrep
      obtain ⟨hlead, hvalue, htail⟩ := hfits y (.head _)
      rw [hempty.1, same_nil] at hlead
      rw [hempty.2, same_nil] at htail
      have htext : [y].flatMap Occurrence.text = y.value := by
        simp [Occurrence.text, hlead, htail]
      rw [htext]
      exact ⟨_, (takes_modified_once hrep).2 (.inr ((takes_capturePart directive_value).2
        ⟨[], rfl, (takesAll_singleton _).2 (takes_valuePart.2 ⟨hvalue, rfl⟩)⟩))⟩
  · split
    · next hrep =>
      cases xs with
      | nil =>
        refine ⟨[], (takes_modified_once (by split <;> rfl)).2 (.inl ⟨?_, rfl, rfl⟩)⟩
        rw [if_pos (hallows.1 rfl)]
        rfl
      | cons y ys =>
        obtain ⟨hlead, hvalue, -⟩ := hfits y (.head _)
        obtain ⟨x, hx, htimes⟩ := times_of_occurrences hfits
        rw [Occurrence.flatMap_text]
        refine ⟨_, (takes_modified_once (by split <;> rfl)).2 (.inr
          ((takes_framed directive_repeatParts).2
            ⟨_, _, _, [], rfl, hlead, same_lastTail hfits, rfl, takes_repeatParts.2 ?_⟩))⟩
        exact ⟨y.value, x, ys.length, hx, hvalue, htimes _ _⟩
    · next hrep =>
      have hrep := Bool.not_eq_true _ ▸ hrep
      cases xs with
      | nil => exact ⟨[], (takes_modified_once hrep).2 (.inl ⟨hallows.1 rfl, rfl, rfl⟩)⟩
      | cons y ys =>
        obtain rfl := hallows.eq_nil hrep
        obtain ⟨hlead, hvalue, htail⟩ := hfits y (.head _)
        rw [Occurrence.flatMap_text]
        exact ⟨_, (takes_modified_once hrep).2 (.inr ((takes_framed directive_value).2
          ⟨_, _, _, [], rfl, hlead, htail, rfl,
            (takesAll_singleton _).2 (takes_valuePart.2 ⟨hvalue, rfl⟩)⟩))⟩

/-! ## Tokens -/

/-- A text several times takes texts that are the same. -/
theorem takes_text_times {text : Text} {k : Nat} :
    ((Part.joined (textParts (!o.sensitive) text)).wrapped .plain).regex.takes.times k u x v n ↔
      (∃ us : List Text, us.length = k ∧ (∀ t ∈ us, o.Same text t) ∧ x = us.flatten) ∧
        n = [] := by
  have htext : ∀ {u x v n},
      ((Part.joined (textParts (!o.sensitive) text)).wrapped .plain).regex.takes u x v n ↔
        o.Same text x ∧ n = [] :=
    (takes_joined fun _ => directive_textParts).trans takes_textParts
  induction k generalizing u x n with
  | zero =>
    constructor
    · rintro ⟨rfl, rfl⟩
      exact ⟨⟨[], rfl, nofun, rfl⟩, rfl⟩
    · rintro ⟨⟨us, hus, -, rfl⟩, rfl⟩
      obtain rfl := List.eq_nil_of_length_eq_zero hus
      exact ⟨rfl, rfl⟩
  | succ k ih =>
    constructor
    · rintro ⟨t, _, _, _, rfl, rfl, ht, h⟩
      obtain ⟨hsame, rfl⟩ := htext.1 ht
      obtain ⟨⟨us, rfl, hus, rfl⟩, rfl⟩ := ih.1 h
      refine ⟨⟨t :: us, rfl, fun t' ht' => ?_, rfl⟩, rfl⟩
      rcases List.mem_cons.1 ht' with rfl | ht'
      · exact hsame
      · exact hus t' ht'
    · rintro ⟨⟨us, hlen, hus, rfl⟩, rfl⟩
      cases us with
      | nil => cases hlen
      | cons t us =>
        exact ⟨t, us.flatten, [], [], rfl, rfl, htext.2 ⟨hus t (.head _), rfl⟩,
          ih.2 ⟨⟨us, Nat.succ.inj hlen, fun t' ht' => hus t' (.tail _ ht'), rfl⟩, rfl⟩⟩

/-- The text between the latest notes of a group. -/
def textOf (n : List Note) (s : Text) (group : Nat) : Option Text :=
  (⟨0, .start s, n⟩ : Way).text? s group

/-- Notes of other groups are not found. -/
theorem find?_note_of_ne {n : List Note} {group : Nat} {isStop : Bool}
    (h : ∀ note ∈ n, note.group ≠ group) :
    n.find? (fun note => note.group == group && note.isStop == isStop) = none := by
  rw [List.find?_eq_none]
  intro note hnote
  simp [h note hnote]

/-- Later notes of other groups are passed over. -/
theorem noted?_append_of_ne {n m : List Note} {s : Text} {group : Nat} {isStop : Bool}
    (h : ∀ note ∈ n, note.group ≠ group) :
    (⟨0, .start s, n ++ m⟩ : Way).noted? group isStop =
      (⟨0, .start s, m⟩ : Way).noted? group isStop := by
  rw [Way.noted?, Way.noted?, List.find?_append, find?_note_of_ne h, Option.none_or]

/-- Earlier notes of other groups are not come to. -/
theorem noted?_append_of_ne' {n m : List Note} {s : Text} {group : Nat} {isStop : Bool}
    (h : ∀ note ∈ m, note.group ≠ group) :
    (⟨0, .start s, n ++ m⟩ : Way).noted? group isStop =
      (⟨0, .start s, n⟩ : Way).noted? group isStop := by
  rw [Way.noted?, Way.noted?, List.find?_append, find?_note_of_ne h, Option.or_none]

/-- Later notes of other groups do not matter. -/
theorem textOf_append_of_ne {n m : List Note} {s : Text} {group : Nat}
    (h : ∀ note ∈ n, note.group ≠ group) : textOf (n ++ m) s group = textOf m s group := by
  unfold textOf Way.text?
  rw [noted?_append_of_ne h, noted?_append_of_ne h]

/-- Earlier notes of other groups do not matter. -/
theorem textOf_append_of_ne' {n m : List Note} {s : Text} {group : Nat}
    (h : ∀ note ∈ m, note.group ≠ group) : textOf (n ++ m) s group = textOf n s group := by
  unfold textOf Way.text?
  rw [noted?_append_of_ne' h, noted?_append_of_ne' h]

/-- What a key captured stands between its notes. -/
theorem Marks.textOf {group : Nat} {value : Option Text} (h : Marks group u x n value) :
    (∀ note ∈ n, note.group = group) ∧ textOf n (u ++ (x ++ v)) group = value := by
  cases value with
  | none =>
    obtain rfl : n = [] := h
    exact ⟨nofun, rfl⟩
  | some c =>
    obtain ⟨a, b, rfl, rfl⟩ := h
    refine ⟨by simp, ?_⟩
    simp [NestedRouting.textOf, Way.text?, Way.noted?]

/-- What the parts of tokens take spells the tokens, and the notes tell what each key captures. -/
theorem spells_of_takes {tokens : List Token} (hkeys : ∀ key ∈ keysOf tokens, key.IsSeparated)
    (h : takesAll (routeParts (!o.sensitive) number tokens) u x v n) :
    ∃ values, Spells o tokens x values ∧
      (∀ note ∈ n, number + 2 ≤ note.group ∧ note.group < number + 2 + (keysOf tokens).length) ∧
      ∀ i value, values[i]? = some value →
        textOf n (u ++ (x ++ v)) (number + i + 2) = value := by
  induction tokens generalizing number u x n with
  | nil =>
    obtain ⟨rfl, rfl⟩ := h
    exact ⟨[], .nil, nofun, fun _ _ => nofun⟩
  | cons token tokens ih =>
    cases token with
    | literal text =>
      obtain ⟨t, y, _, m, rfl, rfl, ht, hrest⟩ := (takesAll_append _ _).1 h
      obtain ⟨hsame, rfl⟩ := takes_textParts.1 ht
      obtain ⟨values, hspells, hgroups, hvalues⟩ := ih hkeys hrest
      refine ⟨values, .literal hsame hspells, ?_, fun i value hi => ?_⟩
      · rwa [List.append_nil]
      · have := hvalues i value hi
        simpa only [List.append_nil, List.append_assoc] using this
    | group text modifier =>
      obtain ⟨t, y, _, m, rfl, rfl, ht, hrest⟩ := h
      obtain ⟨k, hk, ht⟩ := (takes_modified _ _).1 ht
      obtain ⟨⟨us, rfl, hus, rfl⟩, rfl⟩ := takes_text_times.1 ht
      obtain ⟨values, hspells, hgroups, hvalues⟩ := ih hkeys hrest
      refine ⟨values, .group hus hk hspells, ?_, fun i value hi => ?_⟩
      · rwa [List.append_nil]
      · have := hvalues i value hi
        simpa only [List.append_nil, List.append_assoc] using this
    | key key =>
      obtain ⟨t, y, m₁, m₂, rfl, rfl, ht, hrest⟩ := h
      obtain ⟨xs, hfits, hallows, rfl, hmarks⟩ := occurrences_of_takes (hkeys key (.head _)) ht
      obtain ⟨values, hspells, hgroups, hvalues⟩ := ih (fun k hk => hkeys k (.tail _ hk)) hrest
      obtain ⟨hgroup, htext⟩ := hmarks.textOf (v := y ++ v)
      refine ⟨captured xs :: values, .key hfits hallows hspells, ?_, ?_⟩
      · intro note hnote
        have hlength : (keysOf (.key key :: tokens)).length = (keysOf tokens).length + 1 := rfl
        rcases List.mem_append.1 hnote with hnote | hnote
        · have := hgroups note hnote
          omega
        · have := hgroup note hnote
          omega
      · -- the first value has been noted by this key, and no other value has
        intro i value hi
        rw [List.append_assoc]
        cases i with
        | zero =>
          obtain rfl := Option.some.inj hi
          rw [textOf_append_of_ne, Nat.add_zero, htext]
          intro note hnote
          have := hgroups note hnote
          omega
        | succ i =>
          have := hvalues i value hi
          rw [textOf_append_of_ne']
          · have hnumber : number + (i + 1) + 2 = number + 1 + i + 2 := by omega
            rw [hnumber, ← this, List.append_assoc]
          · intro note hnote
            rw [hgroup note hnote]
            omega

/-- The parts of tokens take what spells the tokens. -/
theorem takes_of_spells {tokens : List Token} {values : List (Option Text)}
    (hkeys : ∀ key ∈ keysOf tokens, key.IsSeparated) (h : Spells o tokens x values) (u v : Text) :
    ∃ n, takesAll (routeParts (!o.sensitive) number tokens) u x v n := by
  induction h generalizing number u v with
  | nil => exact ⟨[], rfl, rfl⟩
  | literal hsame _ ih =>
    obtain ⟨n, hn⟩ := ih hkeys _ v
    exact ⟨n ++ [], (takesAll_append _ _).2
      ⟨_, _, [], n, rfl, rfl, takes_textParts.2 ⟨hsame, rfl⟩, hn⟩⟩
  | group hus hallows _ ih =>
    obtain ⟨n, hn⟩ := ih hkeys _ v
    exact ⟨n ++ [], _, _, [], n, rfl, rfl, (takes_modified _ _).2
      ⟨_, hallows, takes_text_times.2 ⟨⟨_, rfl, hus, rfl⟩, rfl⟩⟩, hn⟩
  | key hfits hallows _ ih =>
    obtain ⟨m, hm⟩ := takes_of_occurrences (hkeys _ (.head _)) hfits hallows u _
    obtain ⟨n, hn⟩ := ih (fun k hk => hkeys k (.tail _ hk)) _ v
    exact ⟨n ++ m, _, _, m, n, rfl, rfl, hm, hn⟩

end

end NestedRouting
