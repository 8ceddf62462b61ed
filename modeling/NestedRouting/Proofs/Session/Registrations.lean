import NestedRouting.Proofs.Lookup
import NestedRouting.Proofs.Session.Leads
import NestedRouting.Session.Broadcast

/-!
# Who is registered

The steps that have been taken say by themselves which listeners a channel has (`IsRegistered`).
Subscriptions are numbered as they come. A listener stays registered until the handle of its
subscription is unsubscribed, dropped or replaced by another of its name; if the handle is detached
first, it stays for good. All go when the channel is dropped. The channel and the stored handles of a
state agree with the steps (`State.Sound`), and each step keeps it so (`effect_performStep`).
-/

namespace NestedRouting.Broadcast

open Run

variable {ℓ : Type}

/-! ## Subscriptions and what becomes of them -/

/-- The name of the handle that a subscription stores. -/
def Step.subscribed? : Step ℓ → Option String
  | subscribe id _ => some id
  | _ => none

/-- The name of the handle that a step stores, ends or forgets. -/
def Step.handle? : Step ℓ → Option String
  | subscribe id _ | empty id | unsubscribe id | drop id | detach id => some id
  | emit _ | dropChannel | panic _ => none

/-- A subscription stores a handle of its name. -/
theorem Step.handle?_of_subscribed? {x : Step ℓ} {id : String} (h : x.subscribed? = some id) :
    x.handle? = some id := by
  cases x with
  | subscribe => exact h
  | _ => cases h

/-- The names of the subscriptions among steps, in order. -/
def names (steps : List (Step ℓ)) : List String := steps.filterMap Step.subscribed?

/-- The name of the subscription with a number, and the steps since. -/
def subscription? : List (Step ℓ) → Nat → Option (String × List (Step ℓ))
  | [], _ => none
  | x :: later, number =>
    match x.subscribed?, number with
    | none, number => subscription? later number
    | some id, 0 => some (id, later)
    | some _, number + 1 => subscription? later number

/-- Whether no step has to do with a handle. -/
def Untouched (id : String) (later : List (Step ℓ)) : Prop := ∀ x ∈ later, x.handle? ≠ some id

/-- Whether the first step that has to do with a handle, if there is one, detaches it. What is done
with its name after that is about other handles. -/
def Spared (id : String) (later : List (Step ℓ)) : Prop :=
  ∀ x ∈ later.find? (·.handle? = some id), x = .detach id

/-- Whether a handle is the one of the subscription with a number. -/
def Holds (steps : List (Step ℓ)) (id : String) (number : Nat) : Prop :=
  ∃ p ∈ subscription? steps number, p.1 = id ∧ Untouched id p.2

/-- Whether the handle of the subscription with a number has not been unsubscribed, dropped or replaced.
-/
def Stands (steps : List (Step ℓ)) (number : Nat) : Prop :=
  ∃ p ∈ subscription? steps number, Spared p.1 p.2

/-- Whether the listener of the subscription with a number is registered after the steps. -/
def IsRegistered (steps : List (Step ℓ)) (number : Nat) : Prop :=
  .dropChannel ∉ steps ∧ Stands steps number

/-- Whether listeners are those that are registered after the steps, in the order of their
subscription. Each is known by the number of its subscription. -/
structure Accurate (steps : List (Step ℓ)) (entries : List (Nat × Nat)) : Prop where
  mem_iff : ∀ number listener,
    (number, listener) ∈ entries ↔ listener = number ∧ IsRegistered steps number
  increasing : entries.Pairwise fun p q => p.1 < q.1

instance [DecidableEq ℓ] (id : String) (later : List (Step ℓ)) : Decidable (Spared id later) :=
  inferInstanceAs (Decidable (∀ x ∈ later.find? fun y => decide (y.handle? = some id), x = .detach id))

instance [DecidableEq ℓ] (steps : List (Step ℓ)) (number : Nat) : Decidable (Stands steps number) :=
  inferInstanceAs (Decidable (∃ p ∈ subscription? steps number, Spared p.1 p.2))

instance [DecidableEq ℓ] (steps : List (Step ℓ)) (number : Nat) :
    Decidable (IsRegistered steps number) := inferInstanceAs (Decidable (_ ∧ _))

/-- Both handles are dropped in the end, but the first has been detached before. -/
example :
    let steps : List (Step Unit) :=
      [.subscribe "a" (), .subscribe "b" (), .detach "a", .drop "a", .drop "b"]
    IsRegistered steps 0 ∧ ¬ IsRegistered steps 1 := by decide

/-! ### One step more -/

section
variable {steps : List (Step ℓ)} {x : Step ℓ} {id : String} {number : Nat}

/-- A step adds the name of its subscription, if it is one. -/
theorem names_concat (steps : List (Step ℓ)) (x : Step ℓ) :
    names (steps ++ [x]) = names steps ++ x.subscribed?.toList := by
  rw [names, List.filterMap_append, List.filterMap_cons]
  cases x.subscribed? <;> rfl

/-- A step comes after all subscriptions so far, or is the next one. -/
theorem subscription?_concat {later : List (Step ℓ)} :
    subscription? (steps ++ [x]) number = some (id, later) ↔
      (∃ before, subscription? steps number = some (id, before) ∧ later = before ++ [x]) ∨
        x.subscribed? = some id ∧ number = (names steps).length ∧ later = [] := by
  induction steps generalizing number with
  | nil => cases hx : x.subscribed? <;> cases number <;> simp [subscription?, names, hx, eq_comm]
  | cons y steps ih =>
    cases hy : y.subscribed? with
    | none => simpa [subscription?, names, hy] using ih
    | some id' =>
      cases number with
      | zero => simp [subscription?, names, hy, and_assoc, eq_comm]
      | succ number => simpa [subscription?, names, hy] using ih

/-- The number of a subscription is smaller than that of the next one. -/
theorem subscription?_lt {p : String × List (Step ℓ)} (h : subscription? steps number = some p) :
    number < (names steps).length := by
  induction steps generalizing number with
  | nil => cases h
  | cons y steps ih =>
    cases hy : y.subscribed? with
    | none => simpa [subscription?, names, hy] using ih (by simpa [subscription?, hy] using h)
    | some id' =>
      cases number with
      | zero => simp [names, hy]
      | succ number =>
        simpa [subscription?, names, hy] using ih (by simpa [subscription?, hy] using h)

/-- A handle is left alone by steps and one more. -/
theorem untouched_concat {later : List (Step ℓ)} :
    Untouched id (later ++ [x]) ↔ Untouched id later ∧ x.handle? ≠ some id := by
  simp [Untouched, or_imp, forall_and]

/-- A handle that steps have left alone is at the mercy of the next one. -/
theorem spared_concat {later : List (Step ℓ)} : Spared id (later ++ [x]) ↔
    Spared id later ∧ (Untouched id later → x.handle? = some id → x = .detach id) := by
  unfold Spared
  rw [List.find?_append]
  cases hfound : later.find? (·.handle? = some id) with
  | none =>
    have huntouched : Untouched id later := by simpa [Untouched] using hfound
    by_cases hx : x.handle? = some id <;> simp [hx, huntouched]
  | some y =>
    have htouched : ¬ Untouched id later := fun h =>
      h y (List.mem_of_find?_eq_some hfound) (by simpa using List.find?_some hfound)
    simp [htouched]

/-- Who has a handle after one step more: who had it before, if the step has nothing to do with it, or
the subscription that the step is. -/
theorem holds_concat : Holds (steps ++ [x]) id number ↔
    Holds steps id number ∧ x.handle? ≠ some id ∨
      x.subscribed? = some id ∧ number = (names steps).length := by
  simp only [Holds, Option.mem_def, Prod.exists, subscription?_concat]
  constructor
  · rintro ⟨_, later, ⟨before, hbefore, rfl⟩ | ⟨hx, hnumber, rfl⟩, rfl, hlater⟩
    · exact .inl ⟨⟨_, before, hbefore, rfl, (untouched_concat.1 hlater).1⟩,
        (untouched_concat.1 hlater).2⟩
    · exact .inr ⟨hx, hnumber⟩
  · rintro (⟨⟨_, before, hbefore, rfl, huntouched⟩, hx⟩ | ⟨hx, hnumber⟩)
    · exact ⟨_, _, .inl ⟨before, hbefore, rfl⟩, rfl, untouched_concat.2 ⟨huntouched, hx⟩⟩
    · exact ⟨id, [], .inr ⟨hx, hnumber, rfl⟩, rfl, nofun⟩

/-- Which subscriptions stand after one step more: those that stood before, but for the one whose
handle the step ends, and the one that the step is. -/
theorem stands_concat : Stands (steps ++ [x]) number ↔
    Stands steps number ∧
        (∀ id, Holds steps id number → x.handle? = some id → x = .detach id) ∨
      x.subscribed?.isSome ∧ number = (names steps).length := by
  simp only [Stands, Option.mem_def, Prod.exists, subscription?_concat]
  constructor
  · rintro ⟨id, later, ⟨before, hbefore, rfl⟩ | ⟨hx, hnumber, rfl⟩, hspared⟩
    · obtain ⟨hspared, hnext⟩ := spared_concat.1 hspared
      refine .inl ⟨⟨id, before, hbefore, hspared⟩, ?_⟩
      rintro id' ⟨p, hp, rfl, huntouched⟩ hx
      cases hbefore.symm.trans hp
      exact hnext huntouched hx
    · exact .inr ⟨Option.isSome_of_eq_some hx, hnumber⟩
  · rintro (⟨⟨id, before, hbefore, hspared⟩, hnext⟩ | ⟨hx, hnumber⟩)
    · refine ⟨id, _, .inl ⟨before, hbefore, rfl⟩, spared_concat.2 ⟨hspared, fun huntouched => ?_⟩⟩
      exact hnext id ⟨_, hbefore, rfl, huntouched⟩
    · obtain ⟨id, hid⟩ := Option.isSome_iff_exists.1 hx
      exact ⟨id, [], .inr ⟨hid, hnumber, rfl⟩, nofun⟩

/-- A subscription that stands has been made. -/
theorem Stands.lt (h : Stands steps number) : number < (names steps).length :=
  let ⟨_, hp, _⟩ := h
  subscription?_lt hp

/-- Nobody is registered behind the end of the channel. -/
theorem Accurate.of_dropped (h : .dropChannel ∈ steps) : Accurate steps [] :=
  ⟨fun _ _ => iff_of_false nofun fun hregistered => hregistered.2.1 h, .nil⟩

end

/-! ## The channel and the handles -/

namespace State

variable {steps : List (Step ℓ)} {x : Step ℓ} {s s' : State ℓ} {c c' : Channel Nat} {id : String}

/-- Whether a state with the channel `c` is as the steps have left it. -/
structure Open (steps : List (Step ℓ)) (c : Channel Nat) (s : State ℓ) : Prop where
  accurate : Accurate steps c.entries
  not_dropped : .dropChannel ∉ steps
  next_eq : c.next = (names steps).length
  names_eq : s.listeners.map Prod.fst = names steps
  held_iff : ∀ id number, s.handles.lookup id = some (some number) ↔ Holds steps id number

/-- Whether a state is as the steps have left it. -/
def Sound (steps : List (Step ℓ)) (s : State ℓ) : Prop :=
  match s.channel with
  | none => .dropChannel ∈ steps
  | some c => s.Open steps c

/-- As long as there is a channel, it is the one that the steps have left. -/
theorem sound_iff_open (hc : s.channel = some c) : s.Sound steps ↔ s.Open steps c := by
  rw [Sound, hc]

/-- A channel that is not there has been dropped. -/
theorem sound_iff_dropped (hc : s.channel = none) : s.Sound steps ↔ .dropChannel ∈ steps := by
  rw [Sound, hc]

/-- Before the first step there is an empty channel and no handle. -/
theorem sound_start : (start : State ℓ).Sound [] where
  accurate := ⟨fun _ _ => iff_of_false nofun fun h => Nat.not_lt_zero _ h.2.2.lt, .nil⟩
  not_dropped := nofun
  next_eq := rfl
  names_eq := rfl
  held_iff _ _ := iff_of_false nofun fun ⟨_, hp, _⟩ => nomatch hp

/-- Soundness is about the channel, the handles and the names of the listeners. -/
theorem Sound.congr (hs : s.Sound steps) (hchannel : s'.channel = s.channel)
    (hnames : s'.listeners.map Prod.fst = s.listeners.map Prod.fst)
    (hhandles : s'.handles = s.handles) : s'.Sound steps := by
  cases hc : s.channel with
  | none => exact (sound_iff_dropped (hchannel.trans hc)).2 ((sound_iff_dropped hc).1 hs)
  | some c =>
    have h := (sound_iff_open hc).1 hs
    exact (sound_iff_open (hchannel.trans hc)).2
      ⟨h.accurate, h.not_dropped, h.next_eq, hnames.trans h.names_eq, hhandles ▸ h.held_iff⟩

/-- The entries of a state are those of its channel. -/
theorem entries_of_channel (hc : s.channel = some c) : s.entries = c.entries := by
  rw [entries, hc]
  rfl

/-- The entries of a sound state are the listeners that the steps leave registered. -/
theorem Sound.accurate (hs : s.Sound steps) : Accurate steps s.entries := by
  cases hc : s.channel with
  | none =>
    rw [entries, hc]
    exact .of_dropped ((sound_iff_dropped hc).1 hs)
  | some c =>
    rw [entries_of_channel hc]
    exact ((sound_iff_open hc).1 hs).accurate

/-- As long as the channel has not been dropped, listeners have the names of their subscriptions. -/
theorem Sound.names_eq (hs : s.Sound steps) (hopen : .dropChannel ∉ steps) :
    s.listeners.map Prod.fst = names steps := by
  cases hc : s.channel with
  | none => exact (hopen ((sound_iff_dropped hc).1 hs)).elim
  | some c => exact ((sound_iff_open hc).1 hs).names_eq

/-- Who is registered is found in the entries. -/
theorem registered_eq (s : State ℓ) : s.registered = s.entries.map Prod.snd := by
  unfold registered entries
  cases s.channel <;> rfl

/-- Listeners that are registered are known. -/
theorem Sound.registered_lt (hs : s.Sound steps) : ∀ l ∈ s.registered, l < s.listeners.length := by
  intro l hl
  rw [registered_eq] at hl
  obtain ⟨⟨number, l⟩, hp, rfl⟩ := List.mem_map.1 hl
  obtain ⟨rfl, hopen, hstands⟩ := (hs.accurate.mem_iff number l).1 hp
  have hlength := congrArg List.length (hs.names_eq hopen)
  rw [List.length_map] at hlength
  exact hlength ▸ hstands.lt

/-! ### What handles there are -/

/-- To cancel a handle removes its number from the channel, if it has one. -/
theorem channel_cancel (s : State ℓ) (handle : Option Nat) :
    (s.cancel handle).channel = s.channel.map fun c => handle.elim c c.cancel := by
  cases handle with
  | none => exact Option.map_id'.symm
  | some number => rfl

/-- To cancel a handle does not forget it. -/
theorem handles_cancel (s : State ℓ) (handle : Option Nat) :
    (s.cancel handle).handles = s.handles := by
  cases handle <;> rfl

/-- To cancel a handle leaves the listener itself. -/
theorem listeners_cancel (s : State ℓ) (handle : Option Nat) :
    (s.cancel handle).listeners = s.listeners := by
  cases handle <;> rfl

/-- To cancel a handle records nothing. -/
theorem moments_cancel (s : State ℓ) (handle : Option Nat) :
    (s.cancel handle).moments = s.moments := by
  cases handle <;> rfl

/-- To cancel a handle removes the listener with its number, if it has one. -/
theorem mem_entries_cancel (c : Channel Nat) (handle : Option Nat) (p : Nat × Nat) :
    p ∈ (handle.elim c c.cancel).entries ↔ p ∈ c.entries ∧ handle ≠ some p.1 := by
  cases handle with
  | none => simp
  | some number =>
    show p ∈ c.entries.filter (·.1 ≠ number) ↔ _
    rw [List.mem_filter, decide_eq_true_eq, Ne, Ne, Option.some_inj, eq_comm]

/-- A number that has been removed is not given again. -/
theorem next_cancel (c : Channel Nat) (handle : Option Nat) :
    (handle.elim c c.cancel).next = c.next := by
  cases handle <;> rfl

/-- To cancel a handle adds no entry and keeps the order. -/
theorem sublist_entries_cancel (c : Channel Nat) (handle : Option Nat) :
    (handle.elim c c.cancel).entries.Sublist c.entries := by
  cases handle with
  | none => exact .refl _
  | some number => exact List.filter_sublist

/-- A handle that is forgotten is not found, and the others are. -/
theorem lookup_forget (s : State ℓ) (id id' : String) :
    (s.forget id).handles.lookup id' = if id' = id then none else s.handles.lookup id' := by
  split
  · next h => exact h ▸ lookup_filter_self _ _
  · next h => exact lookup_filter_ne h _

/-- A handle that is stored is found under its name, and the others as before. -/
theorem lookup_store (s : State ℓ) (id id' : String) (handle : Option Nat) :
    (s.store id handle).handles.lookup id' =
      if id' = id then some handle else s.handles.lookup id' := by
  rw [store, handles_cancel, List.lookup_cons]
  by_cases h : id' = id
  · rw [beq_iff_eq.2 h, if_pos h]
  · rw [beq_eq_false_iff_ne.2 h, if_neg h, lookup_forget, if_neg h]

/-- To store a handle cancels the one that had its name. -/
theorem channel_store (s : State ℓ) (id : String) (handle : Option Nat) :
    (s.store id handle).channel =
      s.channel.map fun c => (s.handles.lookup id).join.elim c c.cancel := channel_cancel _ _

/-- To store a handle leaves the listeners. -/
theorem listeners_store (s : State ℓ) (id : String) (handle : Option Nat) :
    (s.store id handle).listeners = s.listeners := listeners_cancel _ _

/-! ### One step more -/

/-- A step keeps the state sound if it does to the entries and the handles what the steps say. -/
theorem Open.concat (h : s.Open steps c) (hx : x ≠ .dropChannel)
    (hnext : c'.next = (names (steps ++ [x])).length)
    (hnames : s'.listeners.map Prod.fst = names (steps ++ [x]))
    (hentries : ∀ number listener, (number, listener) ∈ c'.entries ↔
      (number, listener) ∈ c.entries ∧ (∀ id, s.handles.lookup id = some (some number) →
          x.handle? = some id → x = .detach id) ∨
        listener = number ∧ x.subscribed?.isSome ∧ number = c.next)
    (hincreasing : c'.entries.Pairwise fun p q => p.1 < q.1)
    (hheld : ∀ id number, s'.handles.lookup id = some (some number) ↔
      s.handles.lookup id = some (some number) ∧ x.handle? ≠ some id ∨
        x.subscribed? = some id ∧ number = c.next) : s'.Open (steps ++ [x]) c' := by
  have hopen : .dropChannel ∉ steps ++ [x] := by simp [h.not_dropped, hx.symm]
  refine ⟨⟨fun number listener => ?_, hincreasing⟩, hopen, hnext, hnames, fun id number => ?_⟩
  · rw [hentries, h.accurate.mem_iff, IsRegistered, IsRegistered, stands_concat, h.next_eq,
      and_iff_right h.not_dropped, and_iff_right hopen]
    simp only [h.held_iff, and_or_left, and_assoc]
  · rw [hheld, holds_concat, h.held_iff, h.next_eq]

/-- A step that has to do with no handle. -/
theorem Open.neutral (h : s.Open steps c) (hhandle : x.handle? = none) (hx : x ≠ .dropChannel) :
    s.Open (steps ++ [x]) c := by
  have hsubscribed : x.subscribed? = none :=
    Option.eq_none_iff_forall_not_mem.2 fun id hid =>
      nomatch hhandle.symm.trans (Step.handle?_of_subscribed? hid)
  have hnames : names (steps ++ [x]) = names steps := by
    rw [names_concat, hsubscribed, Option.toList_none, List.append_nil]
  refine h.concat hx (hnames ▸ h.next_eq) (hnames ▸ h.names_eq) (fun number listener => ?_)
    h.accurate.increasing fun id number => ?_
  · simp [hhandle, hsubscribed]
  · simp [hhandle, hsubscribed]

/-- A step that does not detach a handle spares only listeners that do not have it. -/
theorem spares_iff (hhandle : x.handle? = some id) (hdetach : x ≠ .detach id) (number : Nat) :
    (∀ id', s.handles.lookup id' = some (some number) → x.handle? = some id' → x = .detach id') ↔
      s.handles.lookup id ≠ some (some number) := by
  refine ⟨fun hall hid => hdetach (hall id hid hhandle), fun hne id' hid' heq => ?_⟩
  cases hhandle.symm.trans heq
  exact (hne hid').elim

/-- A subscription gets the next number. The listener that had a handle of its name goes. -/
theorem Open.subscribe (h : s.Open steps c) (id : String) (l : ℓ) :
    Sound (steps ++ [.subscribe id l])
      (store { s with
        channel := some (c.subscribe s.listeners.length)
        listeners := s.listeners ++ [(id, l)] } id (some c.next)) := by
  have hlength : s.listeners.length = c.next := by
    rw [h.next_eq, ← h.names_eq, List.length_map]
  have hlt : ∀ p ∈ c.entries, p.1 < c.next := by
    intro p hp
    obtain ⟨-, -, hstands⟩ := (h.accurate.mem_iff p.1 p.2).1 hp
    exact h.next_eq ▸ hstands.lt
  have hold : s.handles.lookup id ≠ some (some c.next) := by
    rw [Ne, h.held_iff, h.next_eq]
    rintro ⟨p, hp, -⟩
    exact Nat.lt_irrefl _ (subscription?_lt hp)
  have hnames : names (steps ++ [.subscribe id l]) = names steps ++ [id] := names_concat ..
  have hentries : (c.subscribe s.listeners.length).entries = c.entries ++ [(c.next, c.next)] := by
    rw [Channel.subscribe, hlength]
  refine (sound_iff_open (channel_store _ _ _)).2 (h.concat nofun ?_ ?_ ?_ ?_ ?_)
  · rw [next_cancel, hnames, List.length_append, ← h.next_eq]
    rfl
  · rw [listeners_store, hnames, ← h.names_eq]
    exact List.map_append
  · -- the new entry is that of the step, and the one that goes is that of the old handle
    intro number listener
    have hspares := spares_iff (s := s) (x := .subscribe id l) rfl nofun number
    rw [mem_entries_cancel, hentries, hspares]
    simp only [Step.subscribed?, List.mem_append, List.mem_singleton, Ne, Option.join_eq_some_iff,
      Prod.mk.injEq, Option.isSome_some, true_and]
    constructor
    · rintro ⟨hp | ⟨rfl, rfl⟩, hne⟩
      · exact .inl ⟨hp, hne⟩
      · exact .inr ⟨rfl, rfl⟩
    · rintro (⟨hp, hne⟩ | ⟨rfl, rfl⟩)
      · exact ⟨.inl hp, hne⟩
      · exact ⟨.inr ⟨rfl, rfl⟩, hold⟩
  · refine List.Pairwise.sublist (sublist_entries_cancel _ _) ?_
    rw [hentries, List.pairwise_append]
    refine ⟨h.accurate.increasing, List.pairwise_singleton _ _, fun p hp q hq => ?_⟩
    rw [List.mem_singleton.1 hq]
    exact hlt p hp
  · intro id' number
    rw [lookup_store]
    by_cases hid : id' = id
    · simp [hid, Step.handle?, Step.subscribed?, eq_comm]
    · simp [hid, Ne.symm hid, Step.handle?, Step.subscribed?]

/-- A handle ends, and with it the registration of its listener. -/
theorem Open.giveUp (h : s.Open steps c) (hhandle : x.handle? = some id)
    (hsubscribed : x.subscribed? = none) (hdetach : x ≠ .detach id)
    (hlisteners : s'.listeners = s.listeners)
    (hheld : ∀ id' number, s'.handles.lookup id' = some (some number) ↔
      s.handles.lookup id' = some (some number) ∧ id' ≠ id) :
    s'.Open (steps ++ [x]) ((s.handles.lookup id).join.elim c c.cancel) := by
  have hnames : names (steps ++ [x]) = names steps := by
    rw [names_concat, hsubscribed, Option.toList_none, List.append_nil]
  refine h.concat (fun hx => by cases hx; cases hhandle) ?_ ?_ (fun number listener => ?_) ?_
    fun id' number => ?_
  · rw [next_cancel, hnames, h.next_eq]
  · rw [hlisteners, hnames, h.names_eq]
  · rw [mem_entries_cancel, spares_iff hhandle hdetach]
    simp [hsubscribed, Option.join_eq_some_iff]
  · exact h.accurate.increasing.sublist (sublist_entries_cancel _ _)
  · rw [hheld]
    simp [hhandle, hsubscribed, eq_comm]

/-- A handle is detached: it is forgotten, and its listener stays. -/
theorem Open.detach (h : s.Open steps c) (hlisteners : s'.listeners = s.listeners)
    (hheld : ∀ id' number, s'.handles.lookup id' = some (some number) ↔
      s.handles.lookup id' = some (some number) ∧ id' ≠ id) :
    s'.Open (steps ++ [.detach id]) c := by
  have hnames : names (steps ++ [.detach id]) = names steps :=
    (names_concat ..).trans (List.append_nil _)
  refine h.concat nofun (hnames ▸ h.next_eq) ?_ (fun number listener => ?_) h.accurate.increasing
    fun id' number => ?_
  · rw [hlisteners, hnames, h.names_eq]
  · simp [Step.handle?, Step.subscribed?]
  · rw [hheld]
    simp [Step.handle?, Step.subscribed?, eq_comm]

/-- When the channel is dropped, all steps leave nobody registered. -/
theorem Sound.dropped (hs : s.Sound steps) (hc : s.channel = none) (hc' : s'.channel = none) :
    s'.Sound (steps ++ [x]) :=
  (sound_iff_dropped hc').2 (List.mem_append_left _ ((sound_iff_dropped hc).1 hs))

/-- A step that has to do neither with handles nor with the channel. -/
theorem Sound.neutral (hs : s.Sound steps) (hhandle : x.handle? = none) (hx : x ≠ .dropChannel) :
    s.Sound (steps ++ [x]) := by
  cases hc : s.channel with
  | none => exact hs.dropped hc hc
  | some c => exact (sound_iff_open hc).2 (((sound_iff_open hc).1 hs).neutral hhandle hx)

end State

/-! ## What steps do -/

/-- What a step that is no emission does itself. It records nothing; if it returns, the state is as the
steps and this one leave it, and else it has changed nothing. -/
structure Effect (x : Step ℓ) (returns : Bool) (s s' : State ℓ) : Prop where
  moments_eq : s'.moments = s.moments
  length_le : s.listeners.length ≤ s'.listeners.length
  sound : returns = true → ∀ steps, s.Sound steps → s'.Sound (steps ++ [x])
  stays : returns = false → s' = s

section
variable {x : Step ℓ} {id : String} {s : State ℓ}

/-- A change of the channel and the handles that returns. -/
theorem effect_of_open {s' : State ℓ} (hmoments : s'.moments = s.moments)
    (hlisteners : s'.listeners = s.listeners) {f : Channel Nat → Channel Nat}
    (hchannel : s'.channel = s.channel.map f)
    (hopen : ∀ steps c, s.Open steps c → s'.Open (steps ++ [x]) (f c)) : Effect x true s s' where
  moments_eq := hmoments
  length_le := Nat.le_of_eq (congrArg List.length hlisteners.symm)
  sound _ steps hs := by
    cases hc : s.channel with
    | none => exact hs.dropped hc (by rw [hchannel, hc, Option.map_none])
    | some c =>
      have hc' : s'.channel = some (f c) := by rw [hchannel, hc, Option.map_some]
      exact (State.sound_iff_open hc').2 (hopen steps c ((State.sound_iff_open hc).1 hs))
  stays h := nomatch h

/-- To subscribe registers the listener and stores the handle. -/
theorem effect_subscribe (rec : Performer ℓ) (id : String) (l : ℓ) :
    (performStep rec (.subscribe id l)).Leads (Effect (.subscribe id l)) := by
  intro s
  simp only [performStep]
  rw [gets_bind]
  cases hc : s.channel with
  | none => exact ⟨rfl, Nat.le_refl _, fun _ _ hs => hs.dropped hc hc, nofun⟩
  | some c =>
    let added : State ℓ := { s with
      channel := some (c.subscribe s.listeners.length)
      listeners := s.listeners ++ [(id, l)] }
    show Effect _ true s (added.store id (some c.next))
    have hlisteners : (added.store id (some c.next)).listeners = s.listeners ++ [(id, l)] :=
      State.listeners_store ..
    refine ⟨State.moments_cancel .., ?_, fun _ steps hs => ?_, nofun⟩
    · rw [hlisteners, List.length_append]
      exact Nat.le_add_right _ _
    · exact ((State.sound_iff_open hc).1 hs).subscribe id l

/-- To store an empty handle ends the handle that had its name. -/
theorem effect_empty (rec : Performer ℓ) (id : String) :
    (performStep rec (.empty id)).Leads (Effect (.empty id)) := by
  intro s
  show Effect _ true s (s.store id none)
  refine effect_of_open (State.moments_cancel ..) (State.listeners_store ..)
    (State.channel_store ..) fun steps c h => ?_
  refine h.giveUp rfl rfl nofun (State.listeners_store ..) fun id' number => ?_
  rw [State.lookup_store]
  by_cases hid : id' = id <;> simp [hid]

/-- To end a handle removes its listener. -/
theorem effect_endHandle (hhandle : x.handle? = some id) (hsubscribed : x.subscribed? = none)
    (hdetach : x ≠ .detach id) :
    (endHandle id true : Run (State ℓ) Empty Answer).Leads (Effect x) := by
  intro s
  unfold endHandle
  rw [gets_bind]
  cases hlookup : s.handles.lookup id with
  | none =>
    show Effect x true s s
    refine effect_of_open (f := fun c => (s.handles.lookup id).join.elim c c.cancel) rfl rfl ?_
      fun steps c h => h.giveUp hhandle hsubscribed hdetach rfl fun id' number => ?_
    · rw [hlookup]
      exact Option.map_id'.symm
    · by_cases hid : id' = id <;> simp [hid, hlookup]
  | some handle =>
    show Effect x true s ((s.forget id).cancel handle)
    have hjoin : (s.handles.lookup id).join = handle := congrArg Option.join hlookup
    refine effect_of_open (State.moments_cancel ..) (State.listeners_cancel ..)
      (State.channel_cancel ..) fun steps c h => ?_
    refine hjoin ▸ h.giveUp hhandle hsubscribed hdetach (State.listeners_cancel ..)
      fun id' number => ?_
    rw [State.handles_cancel, State.lookup_forget]
    by_cases hid : id' = id <;> simp [hid]

/-- To detach a handle keeps its listener. -/
theorem effect_detach (id : String) :
    (endHandle id false : Run (State ℓ) Empty Answer).Leads (Effect (.detach id)) := by
  intro s
  unfold endHandle
  rw [gets_bind]
  cases hlookup : s.handles.lookup id with
  | none =>
    show Effect _ true s s
    refine effect_of_open rfl rfl Option.map_id'.symm fun steps c h =>
      h.detach rfl fun id' number => ?_
    by_cases hid : id' = id <;> simp [hid, hlookup]
  | some handle =>
    show Effect _ true s (s.forget id)
    refine effect_of_open rfl rfl Option.map_id'.symm fun steps c h =>
      h.detach rfl fun id' number => ?_
    rw [State.lookup_forget]
    by_cases hid : id' = id <;> simp [hid]

/-- A step that is no emission does to listeners and handles what the steps say. -/
theorem effect_performStep (rec : Performer ℓ) (hx : ∀ value, x ≠ .emit value) :
    (performStep rec x).Leads (Effect x) := by
  cases x with
  | subscribe id l => exact effect_subscribe rec id l
  | empty id => exact effect_empty rec id
  | emit value => exact (hx value rfl).elim
  | unsubscribe id | drop id => exact effect_endHandle rfl rfl nofun
  | detach id => exact effect_detach id
  | dropChannel =>
    exact fun s => ⟨rfl, Nat.le_refl _, fun _ steps _ => List.mem_append_right _ (.head _), nofun⟩
  | panic p => exact fun s => ⟨rfl, Nat.le_refl _, nofun, fun _ => rfl⟩

end

end NestedRouting.Broadcast
