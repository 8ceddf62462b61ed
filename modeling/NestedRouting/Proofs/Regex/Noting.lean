import NestedRouting.Proofs.Regex.Meaning

/-!
# What an expression notes

An expression notes only the starts and stops of its own groups, at places inside the text that it
takes (`notesOnly_takes`). What certainly enters a group notes its start and its stop (`Span.Marking`),
whatever stands around it.
-/

namespace NestedRouting

/-! ## Notes of spans -/

/-- A span notes only groups with some numbers, at places inside the text that is taken. -/
def Span.NotesOnly (numbers : Nat → Prop) (R : Span) : Prop :=
  ∀ (u t v : Text) (n : List Note), R u t v n → ∀ note ∈ n,
    numbers note.group ∧ u.length ≤ note.index ∧ note.index ≤ u.length + t.length

/-- A span notes the start and the stop of a group, whatever it takes. -/
def Span.Marking (group : Nat) (R : Span) : Prop :=
  ∀ (u t v : Text) (n : List Note), R u t v n → ∀ isStop, ∃ note ∈ n,
    note.group = group ∧ note.isStop = isStop

namespace Span

variable {R S : Span} {P Q : Nat → Prop} {group k : Nat}

/-- A span that notes only some groups notes only more groups. -/
theorem NotesOnly.mono (h : R.NotesOnly P) (hpq : ∀ i, P i → Q i) : R.NotesOnly Q :=
  fun u t v n hr note hnote => (h u t v n hr note hnote).imp_left (hpq _)

/-- Nothing is noted where nothing is taken. -/
theorem notesOnly_nothing : nothing.NotesOnly P := by
  rintro u t v n ⟨rfl, rfl⟩ note ⟨⟩

/-- One span behind the other notes what they note. -/
theorem NotesOnly.andThen (hr : R.NotesOnly P) (hs : S.NotesOnly P) : (R.andThen S).NotesOnly P := by
  rintro u _ v _ ⟨t₁, t₂, n₁, n₂, rfl, rfl, h₁, h₂⟩ note hnote
  rw [List.length_append]
  rcases List.mem_append.1 hnote with hnote | hnote
  · obtain ⟨hgroup, hfirst, hlast⟩ := hs _ _ _ _ h₂ note hnote
    rw [List.length_append] at hfirst hlast
    exact ⟨hgroup, by omega, by omega⟩
  · obtain ⟨hgroup, hfirst, hlast⟩ := hr _ _ _ _ h₁ note hnote
    exact ⟨hgroup, hfirst, by omega⟩

/-- A span taken several times notes what it notes once. -/
theorem NotesOnly.times (hr : R.NotesOnly P) (k : Nat) : (R.times k).NotesOnly P := by
  induction k with
  | zero => exact notesOnly_nothing
  | succ k ih => exact hr.andThen ih

/-- A group in the first span is noted whatever the second one takes. -/
theorem Marking.andThen_left (h : R.Marking group) : (R.andThen S).Marking group := by
  rintro u _ v _ ⟨t₁, t₂, n₁, n₂, rfl, rfl, h₁, -⟩ isStop
  obtain ⟨note, hnote, hmark⟩ := h _ _ _ _ h₁ isStop
  exact ⟨note, List.mem_append_right _ hnote, hmark⟩

/-- A group in the second span is noted whatever the first one takes. -/
theorem Marking.andThen_right (h : S.Marking group) : (R.andThen S).Marking group := by
  rintro u _ v _ ⟨t₁, t₂, n₁, n₂, rfl, rfl, -, h₂⟩ isStop
  obtain ⟨note, hnote, hmark⟩ := h _ _ _ _ h₂ isStop
  exact ⟨note, List.mem_append_left _ hnote, hmark⟩

/-- A group in a span that is taken at least once is noted. -/
theorem Marking.times (h : R.Marking group) (k : Nat) : (R.times (k + 1)).Marking group :=
  h.andThen_left

end Span

/-! ## Notes of expressions -/

/-- An expression notes only its own groups. -/
theorem notesOnly_takes (r : Regex) :
    r.takes.NotesOnly fun i => ∃ name, (i, name) ∈ r.groups := by
  induction r with
  | empty => exact Span.notesOnly_nothing
  | set s =>
    rintro u t v _ ⟨-, rfl⟩ note ⟨⟩
  | look l =>
    rintro u t v _ ⟨-, rfl, -⟩ note ⟨⟩
  | seq r s ihr ihs =>
    have hr := ihr.mono fun i ⟨name, h⟩ => (⟨name, List.mem_append_left s.groups h⟩ :
      ∃ name, (i, name) ∈ r.groups ++ s.groups)
    have hs := ihs.mono fun i ⟨name, h⟩ => (⟨name, List.mem_append_right r.groups h⟩ :
      ∃ name, (i, name) ∈ r.groups ++ s.groups)
    exact hr.andThen hs
  | alt r s ihr ihs =>
    rintro u t v n (h | h) note hnote
    · obtain ⟨⟨name, hgroup⟩, hindex⟩ := ihr _ _ _ _ h note hnote
      exact ⟨⟨name, List.mem_append_left _ hgroup⟩, hindex⟩
    · obtain ⟨⟨name, hgroup⟩, hindex⟩ := ihs _ _ _ _ h note hnote
      exact ⟨⟨name, List.mem_append_right _ hgroup⟩, hindex⟩
  | loop r least most greedy ih =>
    rintro u t v n ⟨k, -, -, h⟩
    exact ih.times k _ _ _ _ h
  | group number name r ih =>
    rintro u t v _ ⟨m, rfl, h⟩ note hnote
    rcases List.mem_cons.1 hnote with rfl | hnote
    · exact ⟨⟨name, .head _⟩, Nat.le_add_right .., Nat.le_refl _⟩
    · rcases List.mem_append.1 hnote with hnote | hnote
      · obtain ⟨⟨name', hgroup⟩, hindex⟩ := ih _ _ _ _ h note hnote
        exact ⟨⟨name', .tail _ hgroup⟩, hindex⟩
      · obtain rfl := List.mem_singleton.1 hnote
        exact ⟨⟨name, .head _⟩, Nat.le_refl _, Nat.le_add_right ..⟩

/-- A group notes its own start and stop. -/
theorem marking_group (number : Nat) (name : Option Text) (r : Regex) :
    (Regex.group number name r).takes.Marking number := by
  rintro u t v _ ⟨m, rfl, -⟩ isStop
  cases isStop with
  | true => exact ⟨_, .head _, rfl, rfl⟩
  | false =>
    exact ⟨_, .tail _ (List.mem_append_right _ (.head _)), rfl, rfl⟩

/-! ## Notes of a way -/

namespace Way

variable {w : Way} {group : Nat} {isStop : Bool}

/-- What has been noted is found. -/
theorem noted?_isSome (h : ∃ note ∈ w.notes, note.group = group ∧ note.isStop = isStop) :
    ∃ i, w.noted? group isStop = some i := by
  obtain ⟨note, hnote, hgroup, hstop⟩ := h
  have hfound : (w.notes.find? fun n => n.group == group && n.isStop == isStop).isSome := by
    rw [List.find?_isSome]
    exact ⟨note, hnote, by simp [hgroup, hstop]⟩
  obtain ⟨note, hnote⟩ := Option.isSome_iff_exists.1 hfound
  exact ⟨note.index, by rw [noted?, hnote]; rfl⟩

/-- What is found has been noted. -/
theorem exists_of_noted? {i : Nat} (h : w.noted? group isStop = some i) :
    ∃ note ∈ w.notes, note.group = group ∧ note.isStop = isStop ∧ note.index = i := by
  obtain ⟨note, hnote, rfl⟩ := Option.map_eq_some_iff.1 h
  have hfound := List.find?_some hnote
  rw [Bool.and_eq_true, beq_iff_eq, beq_iff_eq] at hfound
  exact ⟨note, List.mem_of_find?_eq_some hnote, hfound.1, hfound.2, rfl⟩

/-- A group whose start and stop have been noted has a text. -/
theorem text?_isSome (h : ∀ isStop, ∃ note ∈ w.notes, note.group = group ∧ note.isStop = isStop)
    (path : Text) : ∃ t, w.text? path group = some t := by
  obtain ⟨first, hfirst⟩ := noted?_isSome (h false)
  obtain ⟨stop, hstop⟩ := noted?_isSome (h true)
  exact ⟨_, by simp only [text?, hfirst, hstop]; rfl⟩

end Way

end NestedRouting
