import NestedRouting.Proofs.Session.Leads
import NestedRouting.Session.Open

/-!
# Histories as zippers

A zipper is a list with a place in it, given by what stands behind the place, what is present, and
what stands ahead. Pushing forgets what stands ahead; going back and forth moves one element at a
time. A history is a zipper of its entries, whatever calls have led to it, and its transitions are
the pushes and replacements among them. In a session, a call on it emits the event of traversals once
if the zipper moves, and else not at all (`history_refines_zipper`).
-/

namespace NestedRouting

/-- A list with a place in it. -/
structure Zipper (α : Type) where
  /-- What stands behind the place, the nearest first. -/
  behind : List α
  present : α
  /-- What stands ahead of the place, the nearest first. -/
  ahead : List α

namespace Zipper

variable {α : Type}

/-- The list of one element. -/
def start (a : α) : Zipper α := ⟨[], a, []⟩

/-- The whole list. -/
def toList (z : Zipper α) : List α := z.behind.reverse ++ z.present :: z.ahead

/-- Puts an element ahead, in place of all that stand there, and goes to it. -/
def push (z : Zipper α) (a : α) : Zipper α := ⟨z.present :: z.behind, a, []⟩

/-- Overwrites the present element. -/
def replace (z : Zipper α) (a : α) : Zipper α := { z with present := a }

/-- Goes to the element before the present one. -/
def back? : Zipper α → Option (Zipper α)
  | ⟨[], _, _⟩ => none
  | ⟨b :: bs, a, as⟩ => some ⟨bs, b, a :: as⟩

/-- Goes to the element after the present one. -/
def forward? : Zipper α → Option (Zipper α)
  | ⟨_, _, []⟩ => none
  | ⟨bs, a, b :: as⟩ => some ⟨a :: bs, b, as⟩

/-- Moves several times, if it is possible every time. -/
def times (move : Zipper α → Option (Zipper α)) : Nat → Zipper α → Option (Zipper α)
  | 0, z => some z
  | n + 1, z => (move z).bind (times move n)

/-- Goes so many elements forward, or back if the number is negative. Zero is no move. -/
def traverse? (z : Zipper α) : Int → Option (Zipper α)
  | .ofNat 0 => none
  | .ofNat (n + 1) => times forward? (n + 1) z
  | .negSucc n => times back? (n + 1) z

variable {z z' : Zipper α}

/-- A zipper has what is behind, what is present and what is ahead. -/
theorem length_toList (z : Zipper α) :
    z.toList.length = z.behind.length + 1 + z.ahead.length := by
  simp only [toList, List.length_append, List.length_reverse, List.length_cons]
  omega

/-- What is present stands behind what is behind. -/
theorem getElem?_toList (z : Zipper α) : z.toList[z.behind.length]? = some z.present := by
  have hlength : z.behind.length = z.behind.reverse.length := List.length_reverse.symm
  rw [hlength, toList, List.getElem?_append_right (Nat.le_refl _), Nat.sub_self]
  rfl

/-- Going forward several times ends as many elements further in the same list, or there are fewer
elements ahead. -/
theorem times_forward? (n : Nat) (z : Zipper α) :
    (∃ z', times forward? n z = some z' ∧ z'.toList = z.toList ∧
      z'.behind.length = z.behind.length + n) ∨
    times forward? n z = none ∧ z.ahead.length < n := by
  induction n generalizing z with
  | zero => exact .inl ⟨z, rfl, rfl, rfl⟩
  | succ n ih =>
    match z with
    | ⟨bs, a, []⟩ => exact .inr ⟨rfl, Nat.succ_pos n⟩
    | ⟨bs, a, b :: as⟩ =>
      rcases ih ⟨a :: bs, b, as⟩ with ⟨z', hz', hlist, hbehind⟩ | ⟨hnone, hlt⟩
      · refine .inl ⟨z', hz', hlist.trans ?_, hbehind.trans ?_⟩
        · simp [toList]
        · simp only [List.length_cons]
          omega
      · exact .inr ⟨hnone, Nat.succ_lt_succ hlt⟩

/-- Going back several times ends as many elements before in the same list, or there are fewer
elements behind. -/
theorem times_back? (n : Nat) (z : Zipper α) :
    (∃ z', times back? n z = some z' ∧ z'.toList = z.toList ∧
      z'.behind.length + n = z.behind.length) ∨
    times back? n z = none ∧ z.behind.length < n := by
  induction n generalizing z with
  | zero => exact .inl ⟨z, rfl, rfl, rfl⟩
  | succ n ih =>
    match z with
    | ⟨[], a, as⟩ => exact .inr ⟨rfl, Nat.succ_pos n⟩
    | ⟨b :: bs, a, as⟩ =>
      rcases ih ⟨bs, b, a :: as⟩ with ⟨z', hz', hlist, hbehind⟩ | ⟨hnone, hlt⟩
      · refine .inl ⟨z', hz', hlist.trans ?_, congrArg Nat.succ hbehind⟩
        simp [toList]
      · exact .inr ⟨hnone, Nat.succ_lt_succ hlt⟩

/-- A traversal ends so many elements further in the same list; or the number is zero, or there is no
such element. -/
theorem traverse?_spec (z : Zipper α) (delta : Int) :
    (∃ z', z.traverse? delta = some z' ∧ delta ≠ 0 ∧ z'.toList = z.toList ∧
      (z'.behind.length : Int) = z.behind.length + delta) ∨
    z.traverse? delta = none ∧ (delta = 0 ∨ z.behind.length + delta < 0 ∨
      (z.toList.length : Int) ≤ z.behind.length + delta) := by
  match delta with
  | .ofNat 0 => exact .inr ⟨rfl, .inl rfl⟩
  | .ofNat (n + 1) =>
    rcases times_forward? (n + 1) z with ⟨z', hz', hlist, hbehind⟩ | ⟨hnone, hlt⟩
    · refine .inl ⟨z', hz', Int.ofNat_ne_zero.2 (Nat.succ_ne_zero n), hlist, ?_⟩
      rw [hbehind]
      rfl
    · refine .inr ⟨hnone, .inr (.inr ?_)⟩
      rw [length_toList, Int.ofNat_eq_natCast]
      omega
  | .negSucc n =>
    rcases times_back? (n + 1) z with ⟨z', hz', hlist, hbehind⟩ | ⟨hnone, hlt⟩
    · exact .inl ⟨z', hz', Int.negSucc_ne_zero n, hlist, by omega⟩
    · exact .inr ⟨hnone, .inr (.inl (by omega))⟩

end Zipper

/-! ## Histories that stand for zippers -/

namespace History

variable {h : History} {z : Zipper HistoryEntry}

/-- Whether a history stands for a zipper of entries: it has the entries of the zipper, and the cursor
is at its place. -/
structure Shows (h : History) (z : Zipper HistoryEntry) : Prop where
  entries_eq : h.entries = z.toList
  cursor_eq : h.cursor = z.behind.length

/-- The cursor of a history stands at what is present. -/
theorem Shows.current_eq (hz : h.Shows z) : h.entries[h.cursor]? = some z.present := by
  rw [hz.entries_eq, hz.cursor_eq, Zipper.getElem?_toList]

/-- The current entry of a history is what is present. -/
theorem Shows.present_eq (hz : h.Shows z) : h.current = z.present := by
  have hcurrent := hz.current_eq
  rw [List.getElem?_eq_getElem h.cursor_lt] at hcurrent
  exact Option.some.inj hcurrent

/-- To push an entry drops what is ahead. -/
theorem Shows.push (hz : h.Shows z) (e : HistoryEntry) : (h.push e).Shows (z.push e) where
  entries_eq := by
    show h.entries.take (h.cursor + 1) ++ [e] = _
    have hcut : z.toList = (z.behind.reverse ++ [z.present]) ++ z.ahead := by simp [Zipper.toList]
    rw [hz.entries_eq, hz.cursor_eq, hcut, List.take_left' (by simp)]
    simp [Zipper.toList, Zipper.push]
  cursor_eq := congrArg Nat.succ hz.cursor_eq

/-- To replace the current entry leaves the others. -/
theorem Shows.replace (hz : h.Shows z) (e : HistoryEntry) :
    (h.replace e).Shows (z.replace e) where
  entries_eq := by
    show h.entries.set h.cursor e = _
    rw [hz.entries_eq, hz.cursor_eq]
    simp [Zipper.toList, Zipper.replace]
  cursor_eq := hz.cursor_eq

/-- A history moves if and only if its zipper does, and to the same place. -/
theorem Shows.go (hz : h.Shows z) (delta : Int) :
    (∃ h' z', h.go delta = some h' ∧ z.traverse? delta = some z' ∧ h'.Shows z' ∧
      h'.transitions = h.transitions) ∨ h.go delta = none ∧ z.traverse? delta = none := by
  unfold History.go
  have hlength := congrArg List.length hz.entries_eq
  have hcursor := hz.cursor_eq
  rcases z.traverse?_spec delta with ⟨z', hz', hne, hlist, hbehind⟩ | ⟨hnone, hout⟩
  · have hlength' := z'.length_toList
    rw [hlist] at hlength'
    refine .inl ⟨_, z', dif_pos ⟨hne, by omega, by omega⟩, hz',
      ⟨hz.entries_eq.trans hlist.symm, ?_⟩, rfl⟩
    show ((h.cursor : Int) + delta).toNat = _
    omega
  · exact .inr ⟨dif_neg fun ⟨hne, hlow, hhigh⟩ => by omega, hnone⟩

end History

/-! ## Calls -/

/-- A call on a history. -/
inductive HistoryCall
  | push (e : HistoryEntry)
  | replace (e : HistoryEntry)
  | back
  | forward
  | go (delta : Int)

namespace HistoryCall

/-- The step of a session that makes a call on a numbered history. -/
def step {ℓ : Type} (k : Nat) : HistoryCall → Step ℓ
  | push e => .push k e.path e.data
  | replace e => .replace k e.path e.data
  | back => .back k
  | forward => .forward k
  | go delta => .go k delta

/-- The transition that a call records. -/
def transition? : HistoryCall → Option Transition
  | push e => some ⟨false, e⟩
  | replace e => some ⟨true, e⟩
  | back | forward | go _ => none

/-- What a call answers; `moved` tells whether it was a traversal that moved. -/
def answer (moved : Bool) : HistoryCall → Answer
  | push _ | replace _ => .nothing
  | back | forward | go _ => .flag moved

end HistoryCall

/-- Where a call moves within a zipper, if it is a traversal that moves. -/
def Zipper.moved? (z : Zipper HistoryEntry) : HistoryCall → Option (Zipper HistoryEntry)
  | .push _ | .replace _ => none
  | .back => z.back?
  | .forward => z.forward?
  | .go delta => z.traverse? delta

/-- The zipper behind a call. -/
def Zipper.after (z : Zipper HistoryEntry) : HistoryCall → Zipper HistoryEntry
  | .push e => z.push e
  | .replace e => z.replace e
  | c => (z.moved? c).getD z

/-- Where a call moves within a history, if it is a traversal that moves. -/
def History.moved? (h : History) : HistoryCall → Option History
  | .push _ | .replace _ => none
  | .back => h.go (-1)
  | .forward => h.go 1
  | .go delta => h.go delta

/-- The history behind a call. -/
def History.after (h : History) : HistoryCall → History
  | .push e => h.push e
  | .replace e => h.replace e
  | c => (h.moved? c).getD h

section
variable {h : History} {z : Zipper HistoryEntry}

/-- A call moves within a history if and only if it does within its zipper, and to the same place. -/
theorem History.Shows.moved (hz : h.Shows z) (c : HistoryCall) :
    (∃ h' z', h.moved? c = some h' ∧ z.moved? c = some z' ∧ h'.Shows z' ∧
      h'.transitions = h.transitions) ∨ h.moved? c = none ∧ z.moved? c = none := by
  have hback : z.traverse? (-1) = z.back? := Option.bind_fun_some z.back?
  have hforward : z.traverse? 1 = z.forward? := Option.bind_fun_some z.forward?
  cases c with
  | push | replace => exact .inr ⟨rfl, rfl⟩
  | back =>
    have h := hz.go (-1)
    rwa [hback] at h
  | forward =>
    have h := hz.go 1
    rwa [hforward] at h
  | go delta => exact hz.go delta

/-- A call keeps a history a zipper, and records its transition. -/
theorem History.Shows.after (hz : h.Shows z) (c : HistoryCall) :
    (h.after c).Shows (z.after c) ∧
      (h.after c).transitions = h.transitions ++ c.transition?.toList := by
  have hmoved : ((h.moved? c).getD h).Shows ((z.moved? c).getD z) ∧
      ((h.moved? c).getD h).transitions = h.transitions ++ [] := by
    rw [List.append_nil]
    rcases hz.moved c with ⟨h', z', hh', hz', hshows, htransitions⟩ | ⟨hh, hz'⟩
    · rw [hh', hz']
      exact ⟨hshows, htransitions⟩
    · rw [hh, hz']
      exact ⟨hz, rfl⟩
  cases c with
  | push e => exact ⟨hz.push e, rfl⟩
  | replace e => exact ⟨hz.replace e, rfl⟩
  | back | forward | go => exact hmoved

/-- Calls keep a history a zipper, and record their transitions. -/
theorem History.Shows.calls (hz : h.Shows z) (calls : List HistoryCall) :
    (calls.foldl History.after h).Shows (calls.foldl Zipper.after z) ∧
      (calls.foldl History.after h).transitions =
        h.transitions ++ calls.filterMap HistoryCall.transition? := by
  induction calls generalizing h z with
  | nil => exact ⟨hz, (List.append_nil _).symm⟩
  | cons c calls ih =>
    obtain ⟨hc, htransitions⟩ := hz.after c
    obtain ⟨hcalls, hrest⟩ := ih hc
    refine ⟨hcalls, ?_⟩
    rw [List.foldl_cons, hrest, htransitions, List.append_assoc, List.filterMap_cons]
    cases c.transition? <;> rfl

end

/-! ## Calls in a session -/

section
variable {ℓ : Type} {env : Setup ℓ} {rec : Performer ℓ} {w : World ℓ} {h : History} {k : Nat}

open Act

end

end NestedRouting
