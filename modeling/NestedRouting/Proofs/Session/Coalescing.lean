import Mathlib.Data.List.Chain
import NestedRouting.Proofs.Session.Rounds
import NestedRouting.Proofs.Session.Unwinding

/-!
# Rounds and changes of the path

The navigator starts a round for a path that it reads when that is another than the one it read last,
which need not be another than the one that it made known last: within a round it may read other
paths, and only the newest waits. So the rounds are `Coalesced` changes of the path: each carries the
newest of a run of changes. A path is made known twice in a row only if another one has been read in
between (`rounds_carry_changes`), which happens when a listener goes away and comes back within a round
(`told_again_behind_detour`).
-/

namespace NestedRouting

open Act

/-! ## Changes of the path -/

/-- The changes among paths that are read one after the other, behind the path read before. -/
def changes (observed : Option String) : List String → List String
  | [] => []
  | p :: R => if observed = some p then changes observed R else p :: changes (some p) R

section
variable {o : Option String} {p : String} {R : List String}

/-- A path that is read again unchanged is no change. -/
theorem changes_cons_of_eq (h : o = some p) : changes o (p :: R) = changes o R := if_pos h

/-- Another path is a change. -/
theorem changes_cons_of_ne (h : o ≠ some p) : changes o (p :: R) = p :: changes (some p) R :=
  if_neg h

/-- The newest path is the last of those that follow the first, or the first. -/
theorem getLast?_cons_or (p : String) (R : List String) (o : Option String) :
    (p :: R).getLast?.or o = R.getLast?.or (some p) := by
  rw [List.getLast?_cons]
  cases R.getLast? <;> rfl

/-- The changes among paths, and then those among more paths. -/
theorem changes_append (o : Option String) (R R' : List String) :
    changes o (R ++ R') = changes o R ++ changes (R.getLast?.or o) R' := by
  induction R generalizing o with
  | nil => rfl
  | cons p R ih =>
    rw [List.cons_append, getLast?_cons_or]
    by_cases h : o = some p
    · rw [changes_cons_of_eq h, changes_cons_of_eq h, ih, h]
    · rw [changes_cons_of_ne h, changes_cons_of_ne h, ih, List.cons_append]

/-- The newest change is the newest path that is read, if there is a change. -/
theorem getLast?_changes (o : Option String) (R : List String) :
    (changes o R).getLast?.or o = R.getLast?.or o := by
  induction R generalizing o with
  | nil => rfl
  | cons p R ih =>
    rw [getLast?_cons_or]
    by_cases h : o = some p
    · rw [changes_cons_of_eq h, ih, h]
    · rw [changes_cons_of_ne h, getLast?_cons_or, ih]

/-- The first change leads away from the path that was there. -/
theorem head?_changes_ne : (changes o R).head? = some p → o ≠ some p := by
  induction R with
  | nil => exact nofun
  | cons q R ih =>
    by_cases h : o = some q
    · rw [changes_cons_of_eq h]
      exact ih
    · rw [changes_cons_of_ne h]
      rintro ⟨⟩
      exact h

/-- No change leads to the path that is there already. -/
theorem isChain_changes (o : Option String) (R : List String) : (changes o R).IsChain (· ≠ ·) := by
  induction R generalizing o with
  | nil => exact .nil
  | cons p R ih =>
    by_cases h : o = some p
    · rw [changes_cons_of_eq h]
      exact ih o
    · rw [changes_cons_of_ne h]
      exact List.isChain_cons.2 ⟨fun q hq heq => head?_changes_ne hq (congrArg some heq), ih _⟩

end

/-- Whether rounds of the paths in the second list make the changes in the first known: each carries
the newest of a run of changes. -/
inductive Coalesced : List String → List String → Prop
  | nil : Coalesced [] []
  | round (C₀ : List String) {p : String} {C D : List String} :
    Coalesced C D → Coalesced (C₀ ++ p :: C) (p :: D)

namespace Coalesced

variable {C C' D D' : List String}

/-- Rounds of changes, and then rounds of more changes. -/
theorem append (h : Coalesced C D) (h' : Coalesced C' D') : Coalesced (C ++ C') (D ++ D') := by
  induction h with
  | nil => exact h'
  | round C₀ _ ih =>
    rw [List.append_assoc]
    exact .round C₀ ih

/-- The rounds carry some of the changes, in their order. -/
theorem sublist (h : Coalesced C D) : D.Sublist C := by
  induction h with
  | nil => exact .slnil
  | round C₀ _ ih => exact (ih.cons_cons _).trans (List.sublist_append_right C₀ _)

/-- Where there is no round there was no change. -/
theorem eq_nil (h : Coalesced C []) : C = [] := by
  cases h
  rfl

/-- The first round carries the newest of the first run of changes. -/
theorem eq_append {p : String} (h : Coalesced C (p :: D)) :
    ∃ C₀ C₁, C = C₀ ++ p :: C₁ ∧ Coalesced C₁ D := by
  cases h with
  | round C₀ h => exact ⟨C₀, _, rfl, h⟩

/-- The changes that some of the rounds carry stand apart from those that the others carry. -/
theorem split (h : Coalesced C (D ++ D')) :
    ∃ C₁ C₂, C = C₁ ++ C₂ ∧ Coalesced C₁ D ∧ Coalesced C₂ D' := by
  induction D generalizing C with
  | nil => exact ⟨[], C, rfl, .nil, h⟩
  | cons p D ih =>
    obtain ⟨C₀, C, rfl, hrest⟩ := h.eq_append
    obtain ⟨C₁, C₂, rfl, h₁, h₂⟩ := ih hrest
    exact ⟨C₀ ++ p :: C₁, C₂, by simp, .round C₀ h₁, h₂⟩

/-- Between two rounds in a row that carry the same path there has been a change to another. -/
theorem detour {before after : List String} {p : String} (hC : C.IsChain (· ≠ ·))
    (h : Coalesced C (before ++ p :: p :: after)) :
    ∃ q ≠ p, (before ++ p :: q :: p :: after).Sublist C := by
  obtain ⟨C₁, C₂, rfl, h₁, h₂⟩ := h.split
  obtain ⟨C₀, C, rfl, hfirst⟩ := h₂.eq_append
  obtain ⟨C₃, C, rfl, h₃⟩ := hfirst.eq_append
  have hchain : (p :: (C₃ ++ p :: C)).IsChain (· ≠ ·) := hC.right_of_append.right_of_append
  cases C₃ with
  | nil => exact absurd rfl (List.isChain_cons_cons.1 hchain).1
  | cons q C₃ =>
    have hrest := ((h₃.sublist.cons_cons p).trans (List.sublist_append_right C₃ _)).cons_cons q
    refine ⟨q, (List.isChain_cons_cons.1 hchain).1.symm, h₁.sublist.append ?_⟩
    exact (hrest.cons_cons p).trans (List.sublist_append_right C₀ _)

end Coalesced

variable {ℓ : Type} {P : ℓ → Prop} {env : Setup ℓ} {rec : Performer ℓ}

namespace Site

variable {s s' s'' : Site ℓ} {L L' : List Notice} {R R' : List String} {all : List Nat} {b : Bool}
  {path : String}

/-- What happens between two moments of a session to the changes of the path that the navigator reads.
Within a round nothing is made known and the newest change waits. Outside rounds the changes are made
known, the first of them by a round of its own. -/
structure Relay (P : ℓ → Prop) (s s' : Site ℓ) (L : List Notice) (R : List String) : Prop
    extends Course P s s' L R where
  inside : s.isDispatching = true →
    L = [] ∧ s'.waiting = (changes s.observed R).getLast?.or s.waiting
  outside : s.isDispatching = false → Coalesced (changes s.observed R) (dispatched L) ∧
    (dispatched L).head? = (changes s.observed R).head?

/-- The newest change of two parts, the second behind the first. -/
theorem getLast?_changes_append (h : s.Course P s' L R) (waiting : Option String) :
    (changes s.observed (R ++ R')).getLast?.or waiting =
      (changes s'.observed R').getLast?.or ((changes s.observed R).getLast?.or waiting) := by
  rw [changes_append, ← h.observed_eq, List.getLast?_append, Option.or_assoc]

/-- Changes are relayed in two stretches, one after the other. -/
theorem Relay.trans (h : s.Relay P s' L R) (h' : s'.Relay P s'' L' R') :
    s.Relay P s'' (L ++ L') (R ++ R') where
  toCourse := h.toCourse.trans h'.toCourse
  inside hd := by
    obtain ⟨rfl, hwaiting⟩ := h.inside hd
    obtain ⟨rfl, hwaiting'⟩ := h'.inside (h.dispatching_eq.trans hd)
    exact ⟨rfl, by rw [hwaiting', hwaiting, getLast?_changes_append h.toCourse]⟩
  outside hd := by
    obtain ⟨hcoalesced, hhead⟩ := h.outside hd
    obtain ⟨hcoalesced', hhead'⟩ := h'.outside (h.dispatching_eq.trans hd)
    rw [changes_append, ← h.observed_eq, dispatched_append]
    refine ⟨hcoalesced.append hcoalesced', ?_⟩
    rw [List.head?_append, List.head?_append, hhead, hhead']

/-- Where nothing is made known and nothing is read, there is nothing to relay. -/
theorem Passage.relay (h : s.Passage P b all s' [] []) (hquiet : s.Quiet P s') :
    s.Relay P s' [] [] where
  toCourse := h.toCourse
  inside _ := ⟨rfl, hquiet.waiting_eq⟩
  outside _ := ⟨.nil, rfl⟩

/-- A change that reads nothing leaves nothing to relay. -/
theorem Placid.relay (h : s.Placid s') (hs : s.Orderly P) (hquiet : s.Quiet P s') :
    s.Relay P s' [] [] :=
  (h.passage hs hquiet : s.Passage P true _ s' [] []).relay hquiet

/-- Where nothing happens there is nothing to relay. -/
theorem Orderly.relay (hs : s.Orderly P) : s.Relay P s [] [] :=
  (placid_of_navigator rfl rfl).relay hs (.refl hs.toSound)

/-- A path that is read again and has not changed. -/
theorem Orderly.relay_reread (hs : s.Orderly P) (hpath : s.observed = some path) :
    s.Relay P (s.reread path) [] [path] where
  toCourse := (hs.reread hpath : s.Passage P true _ _ _ _).toCourse
  inside _ := by
    rw [changes_cons_of_eq hpath]
    exact ⟨rfl, rfl⟩
  outside _ := by
    rw [changes_cons_of_eq hpath]
    exact ⟨.nil, rfl⟩

/-- A new path that is read within a round is the one that waits. -/
theorem Orderly.relay_queue (hs : s.Orderly P) (hd : s.isDispatching = true)
    (hpath : s.observed ≠ some path) : s.Relay P
      ((s.reread path).changeNavigator fun n => { n with path, pending := some path }) [] [path] where
  toCourse := (hs.queue hd path : s.Passage P true _ _ _ _).toCourse
  inside _ := by
    obtain ⟨n, hn⟩ := Option.isSome_iff_exists.1 hs.present
    have hn' : (s.reread path).navigator = some n := hn
    rw [changes_cons_of_ne hpath]
    exact ⟨rfl, waiting_of_navigator (navigator_changeNavigator _ hn')⟩
  outside hfalse := nomatch hd.symm.trans hfalse

/-- A path that is taken does not wait any more. -/
theorem waiting_take (s : Site ℓ) :
    (s.changeNavigator fun n => { n with pending := none }).waiting = none := by
  unfold waiting changeNavigator
  cases s.navigator <;> rfl

/-- A round of a path: it is told to the listeners that are registered, and what is read meanwhile is
made known by more rounds. -/
structure Relayed (P : ℓ → Prop) (path : String) (s s' : Site ℓ) (L : List Notice)
    (R : List String) : Prop extends
    Course P s s' (.round path :: (s.registered.map (Notice.heard · path) ++ L)) R where
  waiting_eq : s'.waiting = none
  coalesced : Coalesced (changes (some path) R) (dispatched L)

/-- A round makes its path known, and then what the rounds after it make known. -/
theorem dispatched_round (path : String) (ks : List Nat) (L : List Notice) :
    dispatched (.round path :: (ks.map (Notice.heard · path) ++ L)) = path :: dispatched L := by
  show path :: dispatched (ks.map (Notice.heard · path) ++ L) = _
  rw [dispatched_append, dispatched_heard, List.nil_append]

/-- A new path that is read outside rounds starts a round of its own. -/
theorem Orderly.relay_dispatch (hs : s.Orderly P) (hd : s.isDispatching = false)
    (hpath : s.observed ≠ some path) (h : (s.startRounds path).Relayed P path s' L R) : s.Relay P
      s'.stopRounds (.round path :: ((s.startRounds path).registered.map (Notice.heard · path) ++ L))
      (path :: R) where
  toCourse := by
    have hregistered := registered_startRounds s path
    exact (hs.dispatch hd hpath (hregistered ▸ List.prefix_refl _) h.toCourse (.inl hregistered) :
      s.Passage P true _ _ _ _).toCourse
  inside htrue := nomatch hd.symm.trans htrue
  outside _ := by
    rw [changes_cons_of_ne hpath, dispatched_round]
    exact ⟨.round [] h.coalesced, rfl⟩

end Site

/-! ## Code that relays the changes of the path -/

/-- Whether code, when it returns, has relayed the changes of the path. -/
def Act.Relays {α : Type} (P : ℓ → Prop) (r : Act ℓ α) : Prop :=
  ∀ w a w', w.host.Orderly P → r w = (.returned a, w') → ∃ L R, w.host.Relay P w'.host L R

section
variable {α β : Type}

/-- A change of the site with nothing to relay, as code. -/
theorem relays_change {f : Site ℓ → Site ℓ}
    (hf : ∀ s : Site ℓ, s.Orderly P → s.Relay P (f s) [] []) : Relays P (change f) := by
  intro w a w' hs h
  cases h
  exact ⟨[], [], hf w.host hs⟩

/-- A change that leaves the navigator, its handles, the listeners, the notices and the readings as
they are. -/
theorem relays_frame {f : Site ℓ → Site ℓ} (hframe : ∀ s : Site ℓ, s.Frame (f s))
    (hreadings : ∀ s : Site ℓ, (f s).readings = s.readings) : Relays P (change f) :=
  relays_change fun s hs =>
    (Site.placid_of_navigator (hreadings s) (hframe s).navigator_eq).relay hs
      ((hframe s).quiet hs.toSound)

/-- Code relays changes, and then other code does. -/
theorem relays_bind {r : Act ℓ α} {f : α → Act ℓ β} (hr : r.Relays P) (hf : ∀ a, (f a).Relays P) :
    Relays P (r >>= f) := by
  intro w b w' hs h
  obtain ⟨a, w₁, h₁, h₂⟩ := Run.bind_eq_returned.1 h
  obtain ⟨L, R, hrelay⟩ := hr _ _ _ hs h₁
  obtain ⟨L', R', hrelay'⟩ := hf a _ _ _ hrelay.orderly h₂
  exact ⟨L ++ L', R ++ R', hrelay.trans hrelay'⟩

end

/-- Code relays changes that is put together from code that does. -/
theorem closed_relays : Act.Closed fun _ (r : Act ℓ _) => r.Relays P where
  pure _ _ _ _ hs h := by
    cases h
    exact ⟨[], [], hs.relay⟩
  gets _ _ _ _ hs h := by
    cases h
    exact ⟨[], [], hs.relay⟩
  panic _ _ _ _ _ h := nomatch h
  heal _ _ _ _ hs h := by
    cases h
    exact ⟨[], [], hs.relay⟩
  bind := relays_bind
  holding hr := by
    refine relays_bind (relays_frame (fun _ => ⟨rfl, rfl, rfl, rfl⟩) fun _ => rfl) fun _ => ?_
    intro w a w' hs h
    obtain ⟨w₁, h₁, rfl⟩ := Run.finish_eq_returned.1 h
    obtain ⟨L, R, hrelay⟩ := hr _ _ _ hs h₁
    have hrelease := (Site.placid_release hrelay.sound.handled).relay hrelay.orderly
      (Site.quiet_release hrelay.sound)
    exact ⟨L ++ [], R ++ [], hrelay.trans hrelease⟩

/-- Whether a way to do tasks relays the changes of the path, and does rounds. -/
structure Performer.Relays (P : ℓ → Prop) (rec : Performer ℓ) : Prop where
  step : ∀ s : Step ℓ, s.Keeps P → Act.Relays P (rec (.step s))
  refresh : Act.Relays P (rec .refresh)
  fire : ∀ source, Act.Relays P (rec (.fire source))
  turns : ∀ number turn value, Act.Relays P (rec (.turns number turn value))
  round : ∀ path w a w', w.host.Orderly P → w.host.isDispatching = true →
    w.host.waiting = none → w.host.observed = some path →
    rec (.round path) w = (.returned a, w') → ∃ L R, w.host.Relayed P path w'.host L R

section
variable (hrec : rec.Relays P)
include hrec

/-! ### Rounds -/

/-- The listeners that a round snapshots are told its path, and the newest change waits. -/
theorem queues_emit {path : String} {ks : List Nat} {w w' : World ℓ} {a : Unit}
    (hs : w.host.Orderly P) (hd : w.host.isDispatching = true)
    (hks : ∀ k ∈ ks, k < w.host.listeners.length)
    (h : Run.forEach (notify rec (some path)) ks w = (.returned a, w')) :
    ∃ R, w.host.Course P w'.host (ks.map (Notice.heard · path)) R ∧
      w'.host.waiting = (changes w.host.observed R).getLast?.or w.host.waiting := by
  induction ks generalizing w with
  | nil =>
    cases h
    exact ⟨[], hs.course, rfl⟩
  | cons k ks ih =>
    obtain ⟨_, w₁, hk, h⟩ := Run.bind_eq_returned.1 h
    obtain ⟨⟨id, l⟩, hl⟩ : ∃ l, w.host.listeners[k]? = some l :=
      ⟨_, List.getElem?_eq_getElem (hks k (.head _))⟩
    unfold notify at hk
    rw [site_bind, hl] at hk
    simp only [change_bind] at hk
    have hnoted := hs.course_heard id path k
    obtain ⟨L, R, hfirst⟩ := closed_relays.silently (hrec.turns _ _ _) _ _ _ hnoted.orderly hk
    obtain ⟨rfl, hwaiting⟩ := hfirst.inside hd
    have hcourse := hnoted.trans hfirst.toCourse
    obtain ⟨R', hrest, hwaiting'⟩ := ih hcourse.orderly (hcourse.dispatching_eq.trans hd)
      (fun j hj => Nat.lt_of_lt_of_le (hks j (.tail _ hj)) hcourse.length_le) h
    refine ⟨[] ++ R ++ R', hcourse.trans hrest, ?_⟩
    rw [hwaiting', hwaiting, Site.getLast?_changes_append hcourse]
    rfl

/-- A round, and the rounds of the changes that came up meanwhile. -/
theorem relayed_performRound {path : String} {w w' : World ℓ} {a : Answer}
    (hs : w.host.Orderly P) (hd : w.host.isDispatching = true) (hwaiting : w.host.waiting = none)
    (hobserved : w.host.observed = some path)
    (h : performRound rec path w = (.returned a, w')) :
    ∃ L R, w.host.Relayed P path w'.host L R := by
  unfold performRound at h
  rw [change_bind, site_bind] at h
  obtain ⟨_, w₁, hemit, h⟩ := Run.bind_eq_returned.1 h
  rw [takePending_bind] at h
  have hround := hs.course_round path
  obtain ⟨R, htold, hnext⟩ := queues_emit hrec (w := { w with host := w.host.noted (.round path) })
    hround.orderly hd hs.known hemit
  have hcourse := hround.trans htold
  have hcourse := hcourse.trans (hcourse.orderly.course_take (hcourse.dispatching_eq.trans hd))
  have hwaiting₁ : w₁.host.waiting = (changes (some path) R).getLast? := by
    refine hnext.trans ?_
    show (changes w.host.observed R).getLast?.or w.host.waiting = _
    rw [hobserved, hwaiting, Option.or_none]
  cases hwaits : w₁.host.waiting with
  | none =>
    rw [hwaits] at h
    cases h
    have hnone : changes (some path) R = [] :=
      List.getLast?_eq_none_iff.1 (hwaiting₁.symm.trans hwaits)
    exact ⟨[], R ++ [], by simpa using hcourse, Site.waiting_take _, by simpa [hnone] using .nil⟩
  | some next =>
    rw [hwaits] at h
    obtain ⟨C₀, hC₀⟩ := List.getLast?_eq_some_iff.1 (hwaiting₁.symm.trans hwaits)
    have hlast : R.getLast?.or (some path) = some next := by
      rw [← getLast?_changes, hC₀, List.getLast?_concat]
      rfl
    have hpath : (w₁.host.changeNavigator fun n => { n with pending := none }).observed =
        some next := by
      rw [hcourse.observed_eq, hobserved, List.nil_append, List.append_nil, hlast]
    obtain ⟨L, R', hrest⟩ := hrec.round next _ _ _ hcourse.orderly (hcourse.dispatching_eq.trans hd)
      (Site.waiting_take _) hpath h
    refine ⟨_, R ++ R', by simpa using hcourse.trans hrest.toCourse, hrest.waiting_eq, ?_⟩
    rw [changes_append, hlast, hC₀, List.append_assoc, Site.dispatched_round]
    exact .round C₀ hrest.coalesced

/-- Reading the path again, within rounds and outside. -/
theorem relays_refresh : Relays P (perform env rec .refresh) := by
  intro w a w' hs h
  have hperform : perform env rec .refresh w = performRefresh env rec
      { w with host := w.host.reread (env.currentPath w.host) } := rfl
  have hcurrent : env.currentPath (w.host.reread (env.currentPath w.host)) =
      env.currentPath w.host := rfl
  obtain ⟨n, hn⟩ := Option.isSome_iff_exists.1 hs.present
  have hn' : (w.host.reread (env.currentPath w.host)).navigator = some n := hn
  have hobserved := Site.observed_of_navigator hn
  have hdispatching := Site.isDispatching_of_navigator hn
  rw [hperform] at h
  unfold performRefresh at h
  rw [site_bind, site_bind, hcurrent, hn'] at h
  simp only at h
  by_cases hsame : n.path = env.currentPath w.host
  · rw [if_pos hsame] at h
    cases h
    exact ⟨_, _, hs.relay_reread (hsame ▸ hobserved)⟩
  rw [if_neg hsame] at h
  have hnew : w.host.observed ≠ some (env.currentPath w.host) := fun heq =>
    hsame (Option.some.inj (hobserved.symm.trans heq))
  by_cases hd : n.dispatching = true
  · rw [if_pos hd, change_bind] at h
    cases h
    exact ⟨_, _, hs.relay_queue (hdispatching.trans hd) hnew⟩
  · rw [if_neg hd, change_bind] at h
    have hd := hdispatching.trans (Bool.not_eq_true _ ▸ hd)
    obtain ⟨_, w₁, hend, h⟩ := Run.bind_eq_returned.1 h
    cases h
    obtain ⟨w₂, hsilent, rfl⟩ := Run.finish_eq_returned.1 hend
    obtain ⟨_, _, hround, hret⟩ := Run.bind_eq_returned.1 hsilent
    cases hret
    obtain ⟨hs₁, hd₁⟩ := hs.startRounds hd (env.currentPath w.host)
    obtain ⟨-, -, hwaiting₁, hobserved₁⟩ :=
      Site.grows_start (hs.quiet_reread (env.currentPath w.host)).sound hd (env.currentPath w.host)
    obtain ⟨L, R, hrelayed⟩ := hrec.round _ _ _ _ hs₁ hd₁ hwaiting₁ hobserved₁ hround
    exact ⟨_, _, hs.relay_dispatch hd hnew hrelayed⟩

/-- In its turns a listener takes permitted steps. -/
theorem relays_turns (henv : env.Keeps P) (number turn : Nat) (value : Option String) :
    Relays P (performTurns env rec number turn value) := by
  intro w a w' hs h
  rcases turns_cases env rec number turn value w with
    hnone | ⟨l, steps, after, hl, hlisten, hturn⟩
  · rw [hnone] at h
    exact closed_relays.pure Answer.nothing w a w' hs h
  · obtain ⟨hafter, hsteps⟩ := henv _ _ _ _ _ (hs.admitted l hl) hlisten
    have hchange : Relays P (change fun s : Site ℓ => { s with
        listeners := s.listeners.modify number fun l => (l.1, after) }) := by
      refine relays_change fun s hs => ?_
      have hplacid : s.Placid { s with
          listeners := s.listeners.modify number fun l => (l.1, after) } :=
        Site.placid_of_navigator rfl rfl
      exact hplacid.relay hs (Site.quiet_turn hs.toSound number hafter)
    have hrest := closed_relays.turn (fun s hmem => hrec.step s (hsteps s hmem))
      (fun _ _ => relays_frame (fun _ => ⟨rfl, rfl, rfl, rfl⟩) fun _ => rfl)
      (hrec.turns number (turn + 1) value)
    rw [hturn] at h
    exact relays_bind hchange (fun _ => hrest) w a w' hs h

end

/-- Tasks relay changes of the path if the tasks nested in them do. -/
theorem relays_perform (henv : env.Keeps P) (hrec : rec.Relays P) : (perform env rec).Relays P where
  step s hs := closed_relays.performStep hrec.refresh hrec.fire s
    (fun _ hf => relays_change fun _ h =>
      (passage_changes hs hf h).relay (quiet_changes hs hf h.toSound))
    fun hrender => (hrender ▸ hs : Step.Keeps P .render).elim
  refresh := relays_refresh hrec
  fire := closed_relays.performFire hrec.refresh fun _ =>
    closed_relays.notify (fun _ => relays_frame (fun _ => ⟨rfl, rfl, rfl, rfl⟩) fun _ => rfl)
      (hrec.turns _ _ _)
  turns number turn value := relays_turns hrec henv number turn value
  round _ _ _ _ hs hd hwaiting hobserved h := relayed_performRound hrec hs hd hwaiting hobserved h

/-- Whatever is done in a session relays the changes of the path, however deeply tasks are nested. -/
theorem relays_run (henv : env.Keeps P) (depth : Nat) : (run env depth).Relays P := by
  induction depth with
  | zero =>
    exact ⟨fun _ _ _ _ _ _ h => (run_zero_ne_returned h).elim,
      fun _ _ _ _ h => (run_zero_ne_returned h).elim,
      fun _ _ _ _ _ h => (run_zero_ne_returned h).elim,
      fun _ _ _ _ _ _ _ h => (run_zero_ne_returned h).elim,
      fun _ _ _ _ _ _ _ _ h => (run_zero_ne_returned h).elim⟩
  | succ depth ih => exact relays_perform henv ih

/-! ## Calls from outside -/

/-- To attach the navigator is no notice. -/
theorem Site.notices_attach (s : Site ℓ) (source : Source) :
    (s.attach source).notices = s.notices := by
  have hnotices : Routine fun s s' : Site ℓ => s'.notices = s.notices :=
    ⟨fun h h' => h'.trans h, fun _ _ _ => rfl, fun _ _ => rfl, fun _ _ => rfl⟩
  exact hnotices.attach s source

open Relation

/-- Calls that return, one after the other, relay the changes of the path. -/
theorem relay_of_calls (henv : env.Keeps P) {w w' : World ℓ} (hs : w.host.Orderly P)
    (h : ReflTransGen (Called env P) w w') : ∃ L R, w.host.Relay P w'.host L R := by
  induction h with
  | refl => exact ⟨[], [], hs.relay⟩
  | tail _ hcall ih =>
    obtain ⟨L, R, h⟩ := ih
    obtain ⟨hstep, hrun⟩ := hcall
    obtain ⟨L', R', h'⟩ := (relays_run henv _).step _ hstep _ _ _ h.orderly hrun
    exact ⟨L ++ L', R ++ R', h.trans h'⟩

/-- Rounds carry changes of the path. A navigator is opened and calls bring its session to a state
`w`; further calls bring it to `w'`, and meanwhile the navigator reads the paths `R` again. The rounds
are coalesced changes among these, and the first of them carries another path than the last round
before. So two rounds in a row carry the same path only if the navigator has read another one in
between, and then that one again. What a listener is told that is registered at both ends is just what
the rounds carry. -/
theorem rounds_carry_changes (henv : env.Keeps P) {failures : List (Nat × Failure)}
    {s : Site ℓ} (hs : ∀ l ∈ s.listeners, P l.2) {event : String} {w w' : World ℓ}
    (hopened : ReflTransGen (Called env P) ⟨failures, s.openNavigator env event⟩ w)
    (hcalls : ReflTransGen (Called env P) w w') :
    ∃ L₀ L R, w.host.notices = s.notices ++ L₀ ∧ w'.host.notices = w.host.notices ++ L ∧
      w'.host.readings = w.host.readings ++ R ∧
      Coalesced (changes w.host.observed R) (dispatched L) ∧
      (∀ p, (dispatched L₀).getLast? = some p → (dispatched L).head? ≠ some p) ∧
      (∀ before after p, dispatched L = before ++ p :: p :: after →
        ∃ q ≠ p, (before ++ p :: q :: p :: after).Sublist (changes w.host.observed R)) ∧
      ∀ k ∈ w.host.registered, k ∈ w'.host.registered → told k L = dispatched L := by
  obtain ⟨hs₀, hd₀, hreadings₀, hobserved₀⟩ := Site.orderly_openNavigator env hs event
  obtain ⟨L₀, h₀⟩ := advance_of_calls henv hs₀.toSound hopened
  obtain ⟨_, _, hrelay₀⟩ := relay_of_calls henv hs₀ hopened
  obtain ⟨L, R, hrelay⟩ := relay_of_calls henv hrelay₀.orderly hcalls
  obtain ⟨L', hadvance⟩ := advance_of_calls henv h₀.sound hcalls
  obtain rfl := List.append_cancel_left (hadvance.notices_eq.symm.trans hrelay.notices_eq)
  obtain ⟨hcoalesced, hhead⟩ := hrelay.outside (hrelay₀.dispatching_eq.trans hd₀)
  have hnotices₀ : (s.openNavigator env event).notices = s.notices := Site.notices_attach _ _
  refine ⟨L₀, L', R, hnotices₀ ▸ h₀.notices_eq, hrelay.notices_eq, hrelay.readings_eq, hcoalesced,
    fun p hlast hfirst => ?_, fun before after p hdispatched => ?_, hadvance.agreed⟩
  · -- the path of the last round before is the one that the navigator has
    have hobserved : w.host.observed = some p := by
      rw [h₀.observed_eq hd₀, hlast]
      rfl
    exact head?_changes_ne (hhead ▸ hfirst) hobserved
  · exact (hdispatched ▸ hcoalesced).detour (isChain_changes _ R)

/-- A navigator with listeners of two kinds: one goes away and comes back when it is first told `/a`,
the other does nothing. -/
def Setup.roaming : Setup Bool where
  listen l turn value :=
    if l = true ∧ turn = 0 ∧ value = some "/a" then
      some ([.navigate "/b" none false, .navigate "/a" none false], false)
    else none
  navigating := .history
  readsCell := false
  ownsHistory := false
  tree := none
  boundaries := []

/-- The listeners of this session take permitted steps only. -/
theorem Setup.roaming_keeps : Setup.roaming.Keeps fun _ => True := by
  intro l turn value steps after _ h
  simp only [Setup.roaming] at h
  split at h
  · cases h
    exact ⟨trivial, by simp [Step.Keeps]⟩
  · cases h

/-- The world behind a step of a session with such listeners. -/
def afterRoaming (s : Step Bool) (w : World Bool) : World Bool :=
  (run Setup.roaming 12 (.step s) w).2

/-- A navigator for such listeners. -/
def roamingOpened : World Bool := ⟨[], (Site.start "/" "").openNavigator Setup.roaming popstate⟩

/-- A session in which one listener of each kind is registered. -/
def roamingListening : World Bool :=
  afterRoaming (.subscribe "idle" false) (afterRoaming (.subscribe "roaming" true) roamingOpened)

/-- The calls of this session return. -/
theorem roaming_calls :
    ReflTransGen (Called Setup.roaming fun _ => True) roamingOpened roamingListening ∧
    Called Setup.roaming (fun _ => True) roamingListening
      (afterRoaming (.navigate "/a" none false) roamingListening) :=
  ⟨.tail (.single (called_of_returned (s := .subscribe "roaming" true) trivial (by decide +kernel)))
      (called_of_returned (s := .subscribe "idle" false) trivial (by decide +kernel)),
    called_of_returned trivial (by decide +kernel)⟩

/-- The navigator reads `/b` between the two rounds of `/a`. -/
theorem detour_between_rounds :
    let w := afterRoaming (.navigate "/a" none false) roamingListening
    w.host.readings = ["/a", "/b", "/a"] ∧ Coalesced ["/a", "/b", "/a"] (dispatched w.host.notices) ∧
      dispatched w.host.notices = ["/a", "/a"] ∧
      (∃ q ≠ "/a", ["/a", q, "/a"].Sublist ["/a", "/b", "/a"]) ∧
      told 1 w.host.notices = dispatched w.host.notices := by
  intro w
  obtain ⟨hopened, hcall⟩ := roaming_calls
  obtain ⟨L₀, L, R, -, hnotices, hreadings, hcoalesced, -, hdetour, htold⟩ :=
    rounds_carry_changes Setup.roaming_keeps (s := Site.start "/" "")
      (fun _ h => absurd h List.not_mem_nil) hopened (.single hcall)
  have hbefore : roamingListening.host.notices = [] ∧ roamingListening.host.readings = [] ∧
      roamingListening.host.observed = some "/" := by
    decide +kernel
  have hread : w.host.readings = ["/a", "/b", "/a"] := by decide +kernel
  have hrounds : dispatched w.host.notices = ["/a", "/a"] := by decide +kernel
  have hregistered : 1 ∈ roamingListening.host.registered ∧ 1 ∈ w.host.registered := by
    decide +kernel
  rw [hbefore.1, List.nil_append] at hnotices
  rw [hbefore.2.1, List.nil_append] at hreadings
  obtain rfl : R = ["/a", "/b", "/a"] := hreadings.symm.trans hread
  subst hnotices
  rw [hbefore.2.2] at hcoalesced hdetour
  exact ⟨hread, hcoalesced, hrounds, hdetour [] [] "/a" hrounds, htold 1 hregistered.1 hregistered.2⟩

/-- Both listeners are told `/a` twice in a row, although they are registered throughout and no call
panics: the listener that goes to `/b` comes back before the first round has ended. -/
theorem told_again_behind_detour :
    let w := afterRoaming (.navigate "/a" none false) roamingListening
    ReflTransGen (Called Setup.roaming fun _ => True) roamingOpened roamingListening ∧
    Called Setup.roaming (fun _ => True) roamingListening w ∧
    roamingListening.host.registered = [0, 1] ∧ w.host.registered = [0, 1] ∧
    w.host.notices = [.round "/a", .heard 0 "/a", .heard 1 "/a",
      .round "/a", .heard 0 "/a", .heard 1 "/a"] :=
  ⟨roaming_calls.1, roaming_calls.2, by decide +kernel, by decide +kernel, by decide +kernel⟩

end NestedRouting
