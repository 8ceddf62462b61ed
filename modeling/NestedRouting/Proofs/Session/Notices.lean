import NestedRouting.Proofs.Session.Routine
import NestedRouting.Session.Perform

/-!
# How a path becomes known

A round of notifications tells a path to the listeners that are registered when it starts. The
notices of a site say which rounds there have been (`dispatched`) and what a listener has been told
(`told`). `Site.Advance` is what happens between two moments of a session: listeners that are
registered at both have been told just the paths of the rounds, and the path that the navigator has
read is that of the last round, unless it waits for the end of a round that is still going on. Most
of what is done to a site is `Site.Quiet`: it makes nothing known.
-/

namespace NestedRouting

/-! ## Notices -/

namespace Notice

/-- The path of a round that starts. -/
def round? : Notice → Option String
  | round path => some path
  | heard .. => none

/-- The path that a listener is notified of. -/
def heardBy? (number : Nat) : Notice → Option String
  | round _ => none
  | heard k path => if k = number then some path else none

end Notice

/-- The paths of the rounds, in order. -/
def dispatched (L : List Notice) : List String := L.filterMap Notice.round?

/-- The paths that a listener has been notified of, in order. -/
def told (number : Nat) (L : List Notice) : List String := L.filterMap (Notice.heardBy? number)

/-- The rounds of two stretches of notices. -/
theorem dispatched_append (L L' : List Notice) :
    dispatched (L ++ L') = dispatched L ++ dispatched L' := List.filterMap_append

/-- What a listener is told in two stretches of notices. -/
theorem told_append (k : Nat) (L L' : List Notice) :
    told k (L ++ L') = told k L ++ told k L' := List.filterMap_append

/-- That listeners are told a path is no round. -/
theorem dispatched_heard (path : String) (ks : List Nat) :
    dispatched (ks.map (Notice.heard · path)) = [] := by
  induction ks with
  | nil => rfl
  | cons k ks ih => exact ih

/-- A listener that is not among those who are told is told nothing. -/
theorem told_heard (path : String) {ks : List Nat} {k : Nat} (hk : k ∉ ks) :
    told k (ks.map (Notice.heard · path)) = [] := by
  induction ks with
  | nil => rfl
  | cons j ks ih =>
    rw [List.mem_cons, not_or] at hk
    rw [List.map_cons, told, List.filterMap_cons, Notice.heardBy?, if_neg (Ne.symm hk.1)]
    exact ih hk.2

/-- A listener is told the path of a round once. -/
theorem told_heard_of_mem (path : String) {ks : List Nat} (hks : ks.Nodup) {k : Nat} (hk : k ∈ ks) :
    told k (ks.map (Notice.heard · path)) = [path] := by
  induction ks with
  | nil => cases hk
  | cons j ks ih =>
    obtain ⟨hj, hks⟩ := List.nodup_cons.1 hks
    rw [List.map_cons, told, List.filterMap_cons, Notice.heardBy?]
    rcases List.mem_cons.1 hk with rfl | hk
    · rw [if_pos rfl]
      exact congrArg (path :: ·) (told_heard path hj)
    · rw [if_neg fun h : j = k => hj (h ▸ hk)]
      exact ih hks hk

/-! ## What is read of a site -/

namespace Site

variable {ℓ : Type} {P : ℓ → Prop} {s s' s'' : Site ℓ} {L L' : List Notice}

/-- The path that the navigator has read last. -/
def observed (s : Site ℓ) : Option String := s.navigator.map Navigator.path

/-- The path that waits for the end of a round. -/
def waiting (s : Site ℓ) : Option String := s.navigator.bind Navigator.pending

/-- Whether a round is going on. -/
def isDispatching (s : Site ℓ) : Bool := s.navigator.any Navigator.dispatching

/-- The numbers of the listeners of the path. -/
def registered (s : Site ℓ) : List Nat :=
  (s.navigator.map fun n => n.listeners.listeners).getD []

section
variable {n : Navigator}

/-- The path that has been read last is the path of the navigator. -/
theorem observed_of_navigator (h : s.navigator = some n) : s.observed = some n.path := by
  rw [observed, h]
  rfl

/-- The path that waits is pending with the navigator. -/
theorem waiting_of_navigator (h : s.navigator = some n) : s.waiting = n.pending := by
  rw [waiting, h]
  rfl

/-- A round is going on if the navigator is dispatching. -/
theorem isDispatching_of_navigator (h : s.navigator = some n) :
    s.isDispatching = n.dispatching := by
  rw [isDispatching, h]
  rfl

/-- The listeners of the path are those of the navigator. -/
theorem registered_of_navigator (h : s.navigator = some n) :
    s.registered = n.listeners.listeners := by
  rw [registered, h]
  rfl

/-- The navigator behind a change of it. -/
theorem navigator_changeNavigator (f : Navigator → Navigator) (h : s.navigator = some n) :
    (s.changeNavigator f).navigator = some (f n) := by
  rw [changeNavigator, h]
  rfl

end

/-- Whether there is a navigator of which the host has a handle, its listeners are known, and nothing
waits outside rounds. All listeners satisfy `P`. -/
structure Sound (P : ℓ → Prop) (s : Site ℓ) : Prop where
  present : s.navigator.isSome = true
  handled : s.handles ≠ 0
  distinct : s.registered.Nodup
  known : ∀ k ∈ s.registered, k < s.listeners.length
  admitted : ∀ l ∈ s.listeners, P l.2
  idle : s.isDispatching = false → s.waiting = none

/-- A navigator that is there has read a path. -/
theorem Sound.observed_ne_none (h : s.Sound P) : s.observed ≠ none := by
  obtain ⟨n, hn⟩ := Option.isSome_iff_exists.1 h.present
  rw [observed_of_navigator hn]
  nofun

/-! ## Moments of a session -/

/-- What every part of a session does: notices `L` are added, and listeners may be, but no listener
that was there already is registered again. -/
structure Grows (P : ℓ → Prop) (s s' : Site ℓ) (L : List Notice) : Prop where
  sound : s'.Sound P
  notices_eq : s'.notices = s.notices ++ L
  length_le : s.listeners.length ≤ s'.listeners.length
  kept : ∀ k ∈ s'.registered, k < s.listeners.length → k ∈ s.registered

theorem Grows.trans (h : s.Grows P s' L) (h' : s'.Grows P s'' L') : s.Grows P s'' (L ++ L') where
  sound := h'.sound
  notices_eq := by rw [h'.notices_eq, h.notices_eq, List.append_assoc]
  length_le := Nat.le_trans h.length_le h'.length_le
  kept k hk hlt := h.kept k (h'.kept k hk (Nat.lt_of_lt_of_le hlt h.length_le)) hlt

/-- Whether listeners that are registered at both moments have been told the paths of the rounds. -/
def Agreed (s s' : Site ℓ) (L : List Notice) : Prop :=
  ∀ k ∈ s.registered, k ∈ s'.registered → told k L = dispatched L

theorem agreed_nil (s s' : Site ℓ) : s.Agreed s' [] := fun _ _ _ => rfl

/-- Listeners that are registered at both ends have been told the rounds of both stretches. -/
theorem Agreed.trans (hs : s.Sound P) (h : s.Grows P s' L) (h' : s'.Grows P s'' L')
    (ha : s.Agreed s' L) (ha' : s'.Agreed s'' L') : s.Agreed s'' (L ++ L') := by
  intro k hk hk''
  have hlt : k < s'.listeners.length := Nat.lt_of_lt_of_le (hs.known k hk) h.length_le
  have hk' : k ∈ s'.registered := h'.kept k hk'' hlt
  rw [told_append, dispatched_append, ha k hk hk', ha' k hk' hk'']

/-- Whether the path is the one it was, or waits. -/
def Waits (s s' : Site ℓ) : Prop :=
  s'.observed = s.observed ∧ s'.waiting = s.waiting ∨ s'.waiting = s'.observed

theorem Waits.trans (h : s.Waits s') (h' : s'.Waits s'') : s.Waits s'' := by
  rcases h' with ⟨hobserved, hwaiting⟩ | h'
  · rcases h with h | h
    · exact .inl ⟨hobserved.trans h.1, hwaiting.trans h.2⟩
    · exact .inr (by rw [hwaiting, hobserved, h])
  · exact .inr h'

/-- What happens between two moments of a session, with the notices `L`. While a round is going on
there is no other, and a path that is read waits; outside rounds the path is that of the last round.
-/
structure Advance (P : ℓ → Prop) (s s' : Site ℓ) (L : List Notice) : Prop
    extends Grows P s s' L where
  agreed : s.Agreed s' L
  dispatching_eq : s'.isDispatching = s.isDispatching
  waits : s.isDispatching = true → L = [] ∧ s.Waits s'
  observed_eq : s.isDispatching = false → s'.observed = (dispatched L).getLast?.or s.observed

theorem Advance.trans (hs : s.Sound P) (h : s.Advance P s' L) (h' : s'.Advance P s'' L') :
    s.Advance P s'' (L ++ L') where
  toGrows := h.toGrows.trans h'.toGrows
  agreed := .trans hs h.toGrows h'.toGrows h.agreed h'.agreed
  dispatching_eq := h'.dispatching_eq.trans h.dispatching_eq
  waits hd := by
    obtain ⟨rfl, hwaits⟩ := h.waits hd
    obtain ⟨rfl, hwaits'⟩ := h'.waits (h.dispatching_eq.trans hd)
    exact ⟨rfl, hwaits.trans hwaits'⟩
  observed_eq hd := by
    rw [h'.observed_eq (h.dispatching_eq.trans hd), h.observed_eq hd, dispatched_append,
      List.getLast?_append, Option.or_assoc]

/-- What happens within a round that is going on. -/
structure Within (P : ℓ → Prop) (s s' : Site ℓ) (L : List Notice) : Prop
    extends Grows P s s' L where
  dispatching : s'.isDispatching = true
  waits : s.Waits s'

theorem Within.trans (h : s.Within P s' L) (h' : s'.Within P s'' L') :
    s.Within P s'' (L ++ L') where
  toGrows := h.toGrows.trans h'.toGrows
  dispatching := h'.dispatching
  waits := h.waits.trans h'.waits

/-- What one or more rounds do: they go on until no path waits, so the path that the navigator has
read is that of the last round. -/
structure Rounds (P : ℓ → Prop) (s s' : Site ℓ) (L : List Notice) : Prop
    extends Grows P s s' L where
  agreed : s.Agreed s' L
  dispatching : s'.isDispatching = true
  waiting_eq : s'.waiting = none
  observed_eq : s'.observed = (dispatched L).getLast?

/-- A change that makes nothing known. -/
structure Quiet (P : ℓ → Prop) (s s' : Site ℓ) : Prop extends Grows P s s' [] where
  dispatching_eq : s'.isDispatching = s.isDispatching
  observed_eq : s'.observed = s.observed
  waiting_eq : s'.waiting = s.waiting

/-- A change that makes nothing known. -/
theorem Quiet.advance (h : s.Quiet P s') : s.Advance P s' [] where
  toGrows := h.toGrows
  agreed := agreed_nil s s'
  dispatching_eq := h.dispatching_eq
  waits _ := ⟨rfl, .inl ⟨h.observed_eq, h.waiting_eq⟩⟩
  observed_eq _ := h.observed_eq

theorem Quiet.trans (h : s.Quiet P s') (h' : s'.Quiet P s'') : s.Quiet P s'' where
  toGrows := h.toGrows.trans h'.toGrows
  dispatching_eq := h'.dispatching_eq.trans h.dispatching_eq
  observed_eq := h'.observed_eq.trans h.observed_eq
  waiting_eq := h'.waiting_eq.trans h.waiting_eq

/-! ## Quiet changes -/

/-- Whether two sites have the same navigator, handles, listeners and notices. -/
structure Frame (s s' : Site ℓ) : Prop where
  navigator_eq : s'.navigator = s.navigator
  handles_eq : s'.handles = s.handles
  listeners_eq : s'.listeners = s.listeners
  notices_eq : s'.notices = s.notices

/-- A change of anything but the navigator, its handles, the listeners and the notices is quiet. -/
theorem Frame.quiet (hs : s.Sound P) (h : s.Frame s') : s.Quiet P s' := by
  obtain ⟨hnavigator, hhandles, hlisteners, hnotices⟩ := h
  have hregistered : s'.registered = s.registered := by rw [registered, hnavigator, registered]
  have hdispatching : s'.isDispatching = s.isDispatching := by
    rw [isDispatching, hnavigator, isDispatching]
  have hwaiting : s'.waiting = s.waiting := by rw [waiting, hnavigator, waiting]
  refine ⟨⟨⟨?_, ?_, ?_, ?_, ?_, ?_⟩, ?_, ?_, ?_⟩, hdispatching, ?_, hwaiting⟩
  · rw [hnavigator]
    exact hs.present
  · rw [hhandles]
    exact hs.handled
  · rw [hregistered]
    exact hs.distinct
  · rw [hregistered, hlisteners]
    exact hs.known
  · rw [hlisteners]
    exact hs.admitted
  · rw [hdispatching, hwaiting]
    exact hs.idle
  · rw [hnotices, List.append_nil]
  · exact Nat.le_of_eq (congrArg List.length hlisteners.symm)
  · intro k hk _
    rwa [hregistered] at hk
  · rw [observed, hnavigator, observed]

theorem Quiet.refl (hs : s.Sound P) : s.Quiet P s := Frame.quiet hs ⟨rfl, rfl, rfl, rfl⟩

/-- The navigator may lose listeners, and change in other ways while nothing waits outside rounds. -/
theorem grows_changeNavigator (hs : s.Sound P) {f : Navigator → Navigator}
    (hidle : ∀ n, s.navigator = some n → (f n).dispatching = false → (f n).pending = none)
    (hlisteners : ∀ n, (f n).listeners.listeners.Sublist n.listeners.listeners) :
    s.Grows P (s.changeNavigator f) [] := by
  obtain ⟨n, hn⟩ := Option.isSome_iff_exists.1 hs.present
  have hnavigator := navigator_changeNavigator f hn
  have hregistered : (s.changeNavigator f).registered.Sublist s.registered := by
    rw [registered_of_navigator hnavigator, registered_of_navigator hn]
    exact hlisteners n
  refine ⟨⟨?_, hs.handled, ?_, ?_, hs.admitted, ?_⟩, (List.append_nil _).symm, Nat.le_refl _, ?_⟩
  · rw [hnavigator]
    rfl
  · exact hs.distinct.sublist hregistered
  · exact fun k hk => hs.known k (hregistered.subset hk)
  · rw [isDispatching_of_navigator hnavigator, waiting_of_navigator hnavigator]
    exact hidle n hn
  · exact fun k hk _ => hregistered.subset hk

/-- The navigator may lose listeners and change what it observes. -/
theorem quiet_changeNavigator (hs : s.Sound P) {f : Navigator → Navigator}
    (hpath : ∀ n, (f n).path = n.path) (hdispatching : ∀ n, (f n).dispatching = n.dispatching)
    (hpending : ∀ n, (f n).pending = n.pending)
    (hlisteners : ∀ n, (f n).listeners.listeners.Sublist n.listeners.listeners) :
    s.Quiet P (s.changeNavigator f) := by
  obtain ⟨n, hn⟩ := Option.isSome_iff_exists.1 hs.present
  have hnavigator := navigator_changeNavigator f hn
  have hidle := hs.idle
  rw [isDispatching_of_navigator hn, waiting_of_navigator hn] at hidle
  refine ⟨grows_changeNavigator hs (fun m hm hd => ?_) hlisteners, ?_, ?_, ?_⟩
  · obtain rfl := Option.some.inj (hn.symm.trans hm)
    rw [hpending]
    exact hidle ((hdispatching n).symm.trans hd)
  · rw [isDispatching_of_navigator hnavigator, isDispatching_of_navigator hn, hdispatching]
  · rw [observed_of_navigator hnavigator, observed_of_navigator hn, hpath]
  · rw [waiting_of_navigator hnavigator, waiting_of_navigator hn, hpending]

/-- To attach and detach the navigator makes nothing known, nor does it to cancel subscriptions. -/
theorem routine_quiet : Routine fun s s' : Site ℓ => s.Sound P → s.Quiet P s' where
  trans h h' hs := (h hs).trans (h' (h hs).sound)
  hosts _ _ _ hs := Frame.quiet hs ⟨rfl, rfl, rfl, rfl⟩
  attachment _ _ hs := quiet_changeNavigator hs (fun _ => rfl) (fun _ => rfl) (fun _ => rfl)
    fun _ => .refl _
  listener _ _ hs := quiet_changeNavigator hs (fun _ => rfl) (fun _ => rfl) (fun _ => rfl)
    fun _ => List.filter_sublist.map Prod.snd

/-- A use of the navigator ends, and the handle of the host keeps the navigator. -/
theorem quiet_release (hs : s.Sound P) : s.Quiet P s.release := by
  have hsettle : s.release = { s with held := s.held - 1 } := if_neg fun h => hs.handled h.1
  rw [hsettle]
  exact Frame.quiet hs ⟨rfl, rfl, rfl, rfl⟩

/-- A new listener has a number of its own. -/
theorem quiet_subscribe (hs : s.Sound P) (id : String) {listener : ℓ} (hl : P listener) :
    s.Quiet P (s.subscribe id listener) := by
  obtain ⟨n, hn⟩ := Option.isSome_iff_exists.1 hs.present
  have hadded : (n.listeners.subscribe s.listeners.length).listeners =
      s.registered ++ [s.listeners.length] := by
    rw [registered_of_navigator hn]
    exact List.map_append
  have hfresh : s.listeners.length ∉ s.registered := fun h => Nat.lt_irrefl _ (hs.known _ h)
  have hquiet : s.Quiet P { s with
      navigator := some { n with listeners := n.listeners.subscribe s.listeners.length }
      listeners := s.listeners ++ [(id, listener)] } := by
    refine ⟨⟨⟨rfl, hs.handled, ?_, ?_, ?_, ?_⟩, (List.append_nil _).symm, ?_, ?_⟩, ?_, ?_, ?_⟩
    · show ((n.listeners.subscribe s.listeners.length).listeners).Nodup
      rw [hadded]
      refine List.nodup_append.2 ⟨hs.distinct, by simp, fun k hk j hj => ?_⟩
      rw [List.mem_singleton.1 hj]
      exact fun h => hfresh (h ▸ hk)
    · show ∀ k ∈ (n.listeners.subscribe s.listeners.length).listeners,
        k < (s.listeners ++ [(id, listener)]).length
      intro k hk
      rw [hadded] at hk
      rw [List.length_append, List.length_singleton]
      rcases List.mem_append.1 hk with hk | hk
      · exact Nat.lt_succ_of_lt (hs.known k hk)
      · rw [List.mem_singleton.1 hk]
        exact Nat.lt_succ_self _
    · intro l hl'
      rcases List.mem_append.1 hl' with hl' | hl'
      · exact hs.admitted l hl'
      · rw [List.mem_singleton.1 hl']
        exact hl
    · have hidle := hs.idle
      rw [isDispatching_of_navigator hn, waiting_of_navigator hn] at hidle
      exact hidle
    · simp
    · intro k hk hlt
      have hk : k ∈ (n.listeners.subscribe s.listeners.length).listeners := hk
      rw [hadded] at hk
      rcases List.mem_append.1 hk with hk | hk
      · exact hk
      · rw [List.mem_singleton.1 hk] at hlt
        exact absurd hlt (Nat.lt_irrefl _)
    · exact (isDispatching_of_navigator hn).symm
    · exact (observed_of_navigator hn).symm
    · exact (waiting_of_navigator hn).symm
  unfold subscribe
  rw [hn]
  exact routine_quiet.trans (fun _ => hquiet) (routine_quiet.store _ id _) hs

/-- One listener changes, and all are still permitted. -/
theorem forall_modify {listeners : List (String × ℓ)} (h : ∀ l ∈ listeners, P l.2) (number : Nat)
    {after : ℓ} (hafter : P after) :
    ∀ l ∈ listeners.modify number fun l => (l.1, after), P l.2 := by
  intro l hl
  obtain ⟨k, hk⟩ := List.mem_iff_getElem?.1 hl
  rw [List.getElem?_modify] at hk
  obtain ⟨l', hl', rfl⟩ := Option.map_eq_some_iff.1 hk
  split
  · exact hafter
  · exact h l' (List.mem_of_getElem? hl')

/-- Listeners may be added, and change, as long as all satisfy `P`. -/
theorem quiet_listeners (hs : s.Sound P) (listeners : List (String × ℓ))
    (hlength : s.listeners.length ≤ listeners.length) (hP : ∀ l ∈ listeners, P l.2) :
    s.Quiet P { s with listeners } where
  sound := ⟨hs.present, hs.handled, hs.distinct,
    fun k hk => Nat.lt_of_lt_of_le (hs.known k hk) hlength, hP, hs.idle⟩
  notices_eq := (List.append_nil _).symm
  length_le := hlength
  kept _ hk _ := hk
  dispatching_eq := rfl
  observed_eq := rfl
  waiting_eq := rfl

/-- A listener that has taken a turn. -/
theorem quiet_turn (hs : s.Sound P) (number : Nat) {after : ℓ} (hafter : P after) :
    s.Quiet P { s with listeners := s.listeners.modify number fun l => (l.1, after) } :=
  quiet_listeners hs _ (Nat.le_of_eq (List.length_modify _ _ _).symm)
    (forall_modify hs.admitted number hafter)

/-- A hearer of an event is no listener of the path. -/
theorem quiet_hostSubscribe (hs : s.Sound P) (source : Source) (id : String) {listener : ℓ}
    (hl : P listener) : s.Quiet P (s.hostSubscribe source id listener) := by
  have hadmitted : ∀ l ∈ s.listeners ++ [(id, listener)], P l.2 := fun l hl' => by
    rcases List.mem_append.1 hl' with hl' | hl'
    · exact hs.admitted l hl'
    · rw [List.mem_singleton.1 hl']
      exact hl
  refine routine_quiet.hostSubscribe s source id listener (fun s' hlisteners hs' => ?_) hs
  exact quiet_listeners hs' _ (by simp [hlisteners]) hadmitted

/-- The change of the path that a navigation makes to the host. -/
theorem quiet_navigate (hs : s.Sound P) (env : Setup ℓ) (path : String) (data : Option Data)
    (replace : Bool) : s.Quiet P (env.navigate s path data replace) := by
  unfold Setup.navigate
  split <;> exact Frame.quiet hs ⟨rfl, rfl, rfl, rfl⟩

/-! ## Changes that make a path known -/

/-- A notice that is added while nothing else changes. -/
theorem grows_noted (hs : s.Sound P) (e : Notice) : s.Grows P (s.noted e) [e] where
  sound := ⟨hs.present, hs.handled, hs.distinct, hs.known, hs.admitted, hs.idle⟩
  notices_eq := rfl
  length_le := Nat.le_refl _
  kept _ hk _ := hk

/-- A path that is read within a round waits. -/
theorem advance_queue (hs : s.Sound P) (hd : s.isDispatching = true) (path : String) :
    s.Advance P (s.changeNavigator fun n => { n with path, pending := some path }) [] := by
  obtain ⟨n, hn⟩ := Option.isSome_iff_exists.1 hs.present
  have hn' := navigator_changeNavigator (fun n => { n with path, pending := some path }) hn
  have hd' := isDispatching_of_navigator hn
  refine ⟨grows_changeNavigator hs (fun m hm hfalse => ?_) fun _ => .refl _, agreed_nil _ _,
    (isDispatching_of_navigator hn').trans hd'.symm, fun _ => ⟨rfl, .inr ?_⟩, fun hfalse => ?_⟩
  · obtain rfl := Option.some.inj (hn.symm.trans hm)
    cases (hd'.symm.trans hd).symm.trans hfalse
  · exact (waiting_of_navigator hn').trans (observed_of_navigator hn').symm
  · cases hd.symm.trans hfalse

/-- A path that is read outside rounds starts one. -/
theorem grows_start (hs : s.Sound P) (hd : s.isDispatching = false) (path : String) :
    let s₁ := s.changeNavigator fun n => { n with path, dispatching := true }
    s.Grows P s₁ [] ∧ s₁.isDispatching = true ∧ s₁.waiting = none ∧ s₁.observed = some path := by
  intro s₁
  obtain ⟨n, hn⟩ := Option.isSome_iff_exists.1 hs.present
  have hn₁ : s₁.navigator = some { n with path, dispatching := true } :=
    navigator_changeNavigator _ hn
  refine ⟨grows_changeNavigator hs (fun _ _ => nofun) fun _ => .refl _,
    isDispatching_of_navigator hn₁, ?_, observed_of_navigator hn₁⟩
  have hwaiting := hs.idle hd
  rw [waiting_of_navigator hn] at hwaiting
  rw [waiting_of_navigator hn₁]
  exact hwaiting

/-- The path that waits at the end of a round is taken. -/
theorem grows_take (hs : s.Sound P) (hd : s.isDispatching = true) :
    let s₁ := s.changeNavigator fun n => { n with pending := none }
    s.Grows P s₁ [] ∧ s₁.isDispatching = true ∧ s₁.waiting = none ∧
      s₁.observed = s.observed := by
  intro s₁
  obtain ⟨n, hn⟩ := Option.isSome_iff_exists.1 hs.present
  have hn₁ : s₁.navigator = some { n with pending := none } := navigator_changeNavigator _ hn
  rw [isDispatching_of_navigator hn] at hd
  exact ⟨grows_changeNavigator hs (fun _ _ _ => rfl) fun _ => .refl _,
    (isDispatching_of_navigator hn₁).trans hd, waiting_of_navigator hn₁,
    (observed_of_navigator hn₁).trans (observed_of_navigator hn).symm⟩

/-- Rounds that started outside rounds come to an end. -/
theorem Rounds.stop (hs : s.Sound P) (hd : s.isDispatching = false) (hstart : s.Grows P s' [])
    (h : s'.Rounds P s'' L) : s.Advance P
      (s''.changeNavigator fun n => { n with dispatching := false, pending := none }) L := by
  obtain ⟨n, hn⟩ := Option.isSome_iff_exists.1 h.sound.present
  have hn' := navigator_changeNavigator
    (fun n => { n with dispatching := false, pending := none }) hn
  have hstop : s''.Grows P
      (s''.changeNavigator fun n => { n with dispatching := false, pending := none }) [] :=
    grows_changeNavigator h.sound (fun _ _ _ => rfl) fun _ => .refl _
  have hgrows := (hstart.trans h.toGrows).trans hstop
  have hagreed := Agreed.trans hs (hstart.trans h.toGrows) hstop
    (.trans hs hstart h.toGrows (agreed_nil _ _) h.agreed) (agreed_nil _ _)
  rw [List.nil_append, List.append_nil] at hgrows hagreed
  refine ⟨hgrows, hagreed, (isDispatching_of_navigator hn').trans hd.symm, fun htrue => ?_,
    fun _ => ?_⟩
  · cases hd.symm.trans htrue
  · obtain ⟨path, hpath⟩ := Option.ne_none_iff_exists'.1 h.sound.observed_ne_none
    have hlast := h.observed_eq
    rw [hpath] at hlast
    rw [observed_of_navigator hn', ← hlast, ← hpath, observed_of_navigator hn]
    rfl

end Site

end NestedRouting
