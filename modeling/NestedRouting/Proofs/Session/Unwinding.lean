import NestedRouting.Proofs.Session.Changes
import NestedRouting.Proofs.Session.Rounds

/-!
# Calls that unwind

A listener can panic at any notification, which ends the round that is going on and the call from
outside that led to it. Every part of a session, whether it returns or unwinds, is a `Site.Course`:
it adds the paths that the navigator reads again, the newest of which is its path afterwards, and a
round that it starts has come to an end. Tasks are more than that (`passes_run`): they make nothing
known within a round, and outside rounds the first new path that is read (`Site.Passage`). So a panic
does not wedge the navigator: after each call it is ready to make the next path known
(`navigator_survives_panics`).
-/

namespace NestedRouting

open Act

variable {ℓ : Type} {P : ℓ → Prop} {env : Setup ℓ} {rec : Performer ℓ}

namespace Site

variable {s s' s'' : Site ℓ} {L L' : List Notice} {R R' : List String} {all all' : List Nat}
  {b : Bool}

/-- Listeners of the path are registered in the order in which there have been listeners. -/
structure Orderly (P : ℓ → Prop) (s : Site ℓ) : Prop extends Sound P s where
  ordered : s.registered.Pairwise (· < ·)

/-- What happens between two moments of a session: notices `L` are added, the navigator reads the
paths `R` again, and the newest path that it has read is its path. A round is going on afterwards if
and only if one was before. -/
structure Course (P : ℓ → Prop) (s s' : Site ℓ) (L : List Notice) (R : List String) : Prop
    extends Grows P s s' L where
  ordered : s'.registered.Pairwise (· < ·)
  readings_eq : s'.readings = s.readings ++ R
  observed_eq : s'.observed = R.getLast?.or s.observed
  dispatching_eq : s'.isDispatching = s.isDispatching

/-- A course ends in a site that is in order. -/
theorem Course.orderly (h : s.Course P s' L R) : s'.Orderly P := ⟨h.sound, h.ordered⟩

/-- One course after another. -/
theorem Course.trans (h : s.Course P s' L R) (h' : s'.Course P s'' L' R') :
    s.Course P s'' (L ++ L') (R ++ R') where
  toGrows := h.toGrows.trans h'.toGrows
  ordered := h'.ordered
  readings_eq := by rw [h'.readings_eq, h.readings_eq, List.append_assoc]
  observed_eq := by rw [h'.observed_eq, h.observed_eq, List.getLast?_append, Option.or_assoc]
  dispatching_eq := h'.dispatching_eq.trans h.dispatching_eq

/-- What is made known when the navigator reads paths outside rounds, by code that returns or not.
Paths that are not new are not made known. The first new one starts a round, which goes through the
listeners `all` that are registered then, in this order; if one does not return, nobody is told
anything any more. -/
inductive Announced (returns : Bool) (s : Site ℓ) (all : List Nat) :
    List Notice → List String → Prop
  | nothing {R : List String} : (∀ p ∈ R, s.observed = some p) → Announced returns s all [] R
  | round {R₀ R₁ : List String} {path : String} {ks : List Nat} {L : List Notice} :
    (∀ p ∈ R₀, s.observed = some p) → s.observed ≠ some path → ks <+: all →
    (ks = all ∨ returns = false ∧ L = [] ∧ ks ≠ []) →
    Announced returns s all (.round path :: (ks.map (Notice.heard · path) ++ L)) (R₀ ++ path :: R₁)

/-- Whether these can be the listeners that are registered at a moment between two: in the order in
which there have been listeners, those that were registered or are new, and all that stay. -/
structure Between (s s' : Site ℓ) (all : List Nat) : Prop where
  ordered : all.Pairwise (· < ·)
  known : ∀ k ∈ all, k ∈ s.registered ∨ s.listeners.length ≤ k
  complete : ∀ k ∈ s.registered, k ∈ s'.registered → k ∈ all

/-- What code does that returns or not: within a round nothing is made known. -/
structure Passage (P : ℓ → Prop) (returns : Bool) (all : List Nat) (s s' : Site ℓ)
    (L : List Notice) (R : List String) : Prop extends Course P s s' L R where
  between : s.Between s' all
  inside : s.isDispatching = true → L = []
  announced : s.isDispatching = false → s.Announced returns all L R

/-- Paths that are read again and are not new leave the path as it is. -/
theorem observed_of_unchanged (h : s.Course P s' L R) (hR : ∀ p ∈ R, s.observed = some p) :
    s'.observed = s.observed := by
  rw [h.observed_eq]
  cases hlast : R.getLast? with
  | none => rfl
  | some p => exact (hR p (List.mem_of_getLast? hlast)).symm

/-- What is registered at the end, and was at the start, was all the time. -/
theorem Course.kept_between (hs : s.Sound P) (h : s.Course P s' L R) (h' : s'.Course P s'' L' R') :
    ∀ k ∈ s.registered, k ∈ s''.registered → k ∈ s'.registered := fun k hk hk'' =>
  h'.kept k hk'' (Nat.lt_of_lt_of_le (hs.known k hk) h.length_le)

/-- Listeners between two later moments are also between an earlier one and the last. -/
theorem Between.before (hs : s.Sound P) (h : s.Course P s' L R) (h' : s'.Course P s'' L' R')
    (hall : s'.Between s'' all) : s.Between s'' all where
  ordered := hall.ordered
  known k hk := by
    rcases hall.known k hk with hk' | hk'
    · exact (Nat.lt_or_ge k s.listeners.length).imp_left (h.kept k hk')
    · exact .inr (Nat.le_trans h.length_le hk')
  complete k hk hk'' := hall.complete k (h.kept_between hs h' k hk hk'') hk''

/-- What code does after other code. The first round, if there is one, is the one of the first part
that has a round. -/
theorem Passage.trans (hs : s.Sound P) (h : s.Passage P true all s' L R)
    (h' : s'.Passage P b all' s'' L' R') : ∃ all'', (all'' = all ∨ all'' = all') ∧
      s.Passage P b all'' s'' (L ++ L') (R ++ R') := by
  have hcourse := h.toCourse.trans h'.toCourse
  have hfirst : s.Between s'' all := ⟨h.between.ordered, h.between.known, fun k hk hk'' =>
    h.between.complete k hk (h.toCourse.kept_between hs h'.toCourse k hk hk'')⟩
  have hsecond : s.Between s'' all' := h'.between.before hs h.toCourse h'.toCourse
  have hinside : s.isDispatching = true → L ++ L' = [] := fun hd => by
    rw [h.inside hd, h'.inside (h.dispatching_eq.trans hd), List.nil_append]
  cases hd : s.isDispatching with
  | true => exact ⟨all, .inl rfl, hcourse, hfirst, hinside, fun hfalse => nomatch hd.symm.trans hfalse⟩
  | false =>
    cases h.announced hd with
    | nothing hR =>
      have hsame := observed_of_unchanged h.toCourse hR
      refine ⟨all', .inr rfl, hcourse, hsecond, hinside, fun _ => ?_⟩
      cases h'.announced (h.dispatching_eq.trans hd) with
      | nothing hR' =>
        exact .nothing fun p hp => (List.mem_append.1 hp).elim (hR p) fun hp => hsame ▸ hR' p hp
      | @round R₀ R₁ path ks L hR₀ hpath hinitial hks =>
        rw [List.nil_append, ← List.append_assoc]
        refine .round (fun p hp => ?_) (hsame ▸ hpath) hinitial hks
        exact (List.mem_append.1 hp).elim (hR p) fun hp => hsame ▸ hR₀ p hp
    | round hR₀ hpath hinitial hks =>
      refine ⟨all, .inl rfl, hcourse, hfirst, hinside, fun _ => ?_⟩
      rw [List.cons_append, List.append_assoc, List.append_assoc, List.cons_append]
      exact .round hR₀ hpath hinitial (.inl (hks.resolve_right nofun))

/-! ## Changes without readings -/

/-- A change that reads no path again, and registers no listener of the path. -/
structure Placid (s s' : Site ℓ) : Prop where
  readings_eq : s'.readings = s.readings
  registered : s'.registered.Sublist s.registered

theorem Placid.trans (h : s.Placid s') (h' : s'.Placid s'') : s.Placid s'' :=
  ⟨h'.readings_eq.trans h.readings_eq, h'.registered.trans h.registered⟩

/-- A change that leaves the navigator as it is, and what it has read. -/
theorem placid_of_navigator (hreadings : s'.readings = s.readings)
    (hnavigator : s'.navigator = s.navigator) : s.Placid s' :=
  ⟨hreadings, by
    rw [registered, hnavigator]
    exact .refl _⟩

/-- A change of the navigator that at most removes listeners of the path. -/
theorem placid_changeNavigator {f : Navigator → Navigator}
    (hf : ∀ n, (f n).listeners.listeners.Sublist n.listeners.listeners) :
    s.Placid (s.changeNavigator f) := by
  refine ⟨rfl, ?_⟩
  unfold registered changeNavigator
  cases s.navigator with
  | none => exact .refl _
  | some n => exact hf n

/-- No routine change reads the path again or registers a listener of it. -/
theorem routine_placid : Routine (Placid : Site ℓ → Site ℓ → Prop) where
  trans := Placid.trans
  hosts _ _ _ := placid_of_navigator rfl rfl
  attachment _ _ := placid_changeNavigator fun _ => .refl _
  listener _ _ := placid_changeNavigator fun _ => List.filter_sublist.map Prod.snd

/-- A use of the navigator ends, and the handle of the host keeps the navigator. -/
theorem placid_release (hs : s.handles ≠ 0) : s.Placid s.release := by
  have hsettle : s.release = { s with held := s.held - 1 } := if_neg fun h => hs h.1
  rw [hsettle]
  exact placid_of_navigator rfl rfl

/-- Navigation leaves the navigator and its listeners alone. -/
theorem frame_navigate (path : String) (data : Option Data) (replace : Bool) :
    s.Frame (env.navigate s path data replace) := by
  unfold Setup.navigate
  split <;> exact ⟨rfl, rfl, rfl, rfl⟩

/-- Navigation itself reads nothing again. -/
theorem placid_navigate (path : String) (data : Option Data) (replace : Bool) :
    s.Placid (env.navigate s path data replace) := by
  unfold Setup.navigate
  split <;> exact placid_of_navigator rfl rfl

/-- What is registered at a moment is between that moment and any other. -/
theorem Orderly.between (hs : s.Orderly P) : s.Between s' s.registered :=
  ⟨hs.ordered, fun _ hk => .inl hk, fun _ hk _ => hk⟩

/-- A change that makes nothing known and reads nothing is a passage. -/
theorem Quiet.passage (h : s.Quiet P s') (hs : s.Orderly P) (hreadings : s'.readings = s.readings)
    (hordered : s'.registered.Pairwise (· < ·)) : s.Passage P b s.registered s' [] [] where
  toGrows := h.toGrows
  ordered := hordered
  readings_eq := by rw [hreadings, List.append_nil]
  observed_eq := h.observed_eq
  dispatching_eq := h.dispatching_eq
  between := hs.between
  inside _ := rfl
  announced _ := .nothing nofun

/-- A change that makes nothing known, reads nothing and registers nobody is a passage. -/
theorem Placid.passage (h : s.Placid s') (hs : s.Orderly P) (hquiet : s.Quiet P s') :
    s.Passage P b s.registered s' [] [] :=
  hquiet.passage hs h.readings_eq (hs.ordered.sublist h.registered)

/-- Where nothing happens, nothing is made known. -/
theorem Orderly.passage (hs : s.Orderly P) : s.Passage P b s.registered s [] [] :=
  (placid_of_navigator rfl rfl).passage hs (.refl hs.toSound)

/-- Where nothing happens, no notice is added and no path is read. -/
theorem Orderly.course (hs : s.Orderly P) : s.Course P s [] [] :=
  (hs.passage : s.Passage P true s.registered s [] []).toCourse

/-- A new listener is registered behind all others. -/
theorem Orderly.subscribe (hs : s.Orderly P) (id : String) {listener : ℓ} (hl : P listener) :
    s.Passage P b s.registered (s.subscribe id listener) [] [] := by
  obtain ⟨n, hn⟩ := Option.isSome_iff_exists.1 hs.present
  let added : Site ℓ := { s with
    navigator := some { n with listeners := n.listeners.subscribe s.listeners.length }
    listeners := s.listeners ++ [(id, listener)] }
  have hadded : added.registered = s.registered ++ [s.listeners.length] := by
    rw [registered_of_navigator hn]
    exact List.map_append
  have hordered : added.registered.Pairwise (· < ·) := by
    rw [hadded, List.pairwise_append]
    refine ⟨hs.ordered, List.pairwise_singleton _ _, fun k hk j hj => ?_⟩
    rw [List.mem_singleton.1 hj]
    exact hs.known k hk
  have hsubscribe : s.subscribe id listener = added.store id (.path n.listeners.next) := by
    unfold Site.subscribe
    rw [hn]
  have hstore : added.Placid (s.subscribe id listener) := hsubscribe ▸ routine_placid.store _ id _
  exact (quiet_subscribe hs.toSound id hl).passage hs hstore.readings_eq
    (hordered.sublist hstore.registered)

/-- A change at the end that makes nothing known, and registers no listener. -/
theorem Passage.settle (h : s.Passage P b all s' L R) (hquiet : s'.Quiet P s'')
    (hplacid : s'.Placid s'') : s.Passage P b all s'' L R := by
  have hgrows := h.toGrows.trans hquiet.toGrows
  rw [List.append_nil] at hgrows
  exact ⟨⟨hgrows, h.ordered.sublist hplacid.registered,
    hplacid.readings_eq.trans h.readings_eq, hquiet.observed_eq.trans h.observed_eq,
    hquiet.dispatching_eq.trans h.dispatching_eq⟩,
    ⟨h.between.ordered, h.between.known, fun k hk hk'' =>
      h.between.complete k hk (hplacid.registered.subset hk'')⟩, h.inside, h.announced⟩

/-! ## Notices within a round -/

/-- The start of a round is noted. -/
theorem Orderly.course_round (hs : s.Orderly P) (path : String) :
    s.Course P (s.noted (.round path)) [.round path] [] :=
  ⟨grows_noted hs.toSound (.round path), hs.ordered, (List.append_nil _).symm, rfl, rfl⟩

/-- That a listener has been told a path is logged and noted. -/
theorem Orderly.course_heard (hs : s.Orderly P) (id path : String) (k : Nat) :
    s.Course P ((s.logged (.heard id path)).noted (.heard k path)) [.heard k path] [] := by
  have hlogged : s.Quiet P (s.logged (.heard id path)) :=
    Frame.quiet hs.toSound ⟨rfl, rfl, rfl, rfl⟩
  have hgrows := hlogged.toGrows.trans (grows_noted hlogged.sound (.heard k path))
  exact ⟨hgrows, hs.ordered, (List.append_nil _).symm, rfl, rfl⟩

/-- The path that waits at the end of a round is taken. -/
theorem Orderly.course_take (hs : s.Orderly P) (hd : s.isDispatching = true) :
    s.Course P (s.changeNavigator fun n => { n with pending := none }) [] [] := by
  obtain ⟨hgrows, hd₁, -, hobserved⟩ := grows_take hs.toSound hd
  have hplacid : s.Placid (s.changeNavigator fun n => { n with pending := none }) :=
    placid_changeNavigator fun _ => .refl _
  exact ⟨hgrows, hs.ordered.sublist hplacid.registered, (List.append_nil _).symm, hobserved,
    hd₁.trans hd.symm⟩

/-! ## Reading the path again -/

/-- That the path has been read is not made known by itself. -/
theorem Orderly.quiet_reread (hs : s.Orderly P) (path : String) : s.Quiet P (s.reread path) :=
  Frame.quiet hs.toSound ⟨rfl, rfl, rfl, rfl⟩

/-- A path that is read again and has not changed. -/
theorem Orderly.reread (hs : s.Orderly P) {path : String} (hpath : s.observed = some path) :
    s.Passage P b s.registered (s.reread path) [] [path] where
  toGrows := (hs.quiet_reread path).toGrows
  ordered := hs.ordered
  readings_eq := rfl
  observed_eq := hpath
  dispatching_eq := rfl
  between := hs.between
  inside _ := rfl
  announced _ := .nothing fun _ hp => (List.mem_singleton.1 hp) ▸ hpath

/-- A new path that is read within a round waits. -/
theorem Orderly.queue (hs : s.Orderly P) (hd : s.isDispatching = true) (path : String) :
    s.Passage P b s.registered
      ((s.reread path).changeNavigator fun n => { n with path, pending := some path }) [] [path] := by
  have hreread := hs.quiet_reread path
  have hqueue := advance_queue hreread.sound hd path
  obtain ⟨n, hn⟩ := Option.isSome_iff_exists.1 hreread.sound.present
  have hplacid : (s.reread path).Placid
      ((s.reread path).changeNavigator fun n => { n with path, pending := some path }) :=
    placid_changeNavigator fun _ => .refl _
  refine ⟨⟨hreread.toGrows.trans hqueue.toGrows, hs.ordered.sublist hplacid.registered, rfl, ?_,
    hqueue.dispatching_eq⟩, hs.between, fun _ => rfl, fun hfalse => ?_⟩
  · exact observed_of_navigator (navigator_changeNavigator _ hn)
  · cases hd.symm.trans hfalse

/-- Reads a new path again, and starts rounds. -/
def startRounds (s : Site ℓ) (path : String) : Site ℓ :=
  (s.reread path).changeNavigator fun n => { n with path, dispatching := true }

/-- Ends the rounds. -/
def stopRounds (s : Site ℓ) : Site ℓ :=
  s.changeNavigator fun n => { n with dispatching := false, pending := none }

/-- A change of the navigator that leaves its listeners alone. -/
theorem registered_changeNavigator {f : Navigator → Navigator}
    (hf : ∀ n, (f n).listeners = n.listeners) : (s.changeNavigator f).registered = s.registered := by
  unfold registered changeNavigator
  cases s.navigator with
  | none => rfl
  | some n => exact congrArg Channel.listeners (hf n)

/-- Rounds that start register nobody and remove nobody. -/
theorem registered_startRounds (s : Site ℓ) (path : String) :
    (s.startRounds path).registered = s.registered :=
  registered_changeNavigator (s := s.reread path) fun _ => rfl

/-- A site in which rounds have started is in order, and dispatching. -/
theorem Orderly.startRounds (hs : s.Orderly P) (hd : s.isDispatching = false) (path : String) :
    (s.startRounds path).Orderly P ∧ (s.startRounds path).isDispatching = true := by
  obtain ⟨hstart, hd₁, -⟩ := grows_start (hs.quiet_reread path).sound hd path
  exact ⟨⟨hstart.sound, (registered_startRounds s path).symm ▸ hs.ordered⟩, hd₁⟩

/-- Rounds of a new path that started outside rounds come to an end, returning or not: then no round
is going on, and nothing waits. -/
theorem Orderly.dispatch (hs : s.Orderly P) (hd : s.isDispatching = false) {path : String}
    (hnew : s.observed ≠ some path) {ks : List Nat} (hinitial : ks <+: s.registered)
    (h : (s.startRounds path).Course P s' (.round path :: (ks.map (Notice.heard · path) ++ L)) R)
    (hks : ks = s.registered ∨ b = false ∧ L = [] ∧ ks ≠ []) :
    s.Passage P b s.registered s'.stopRounds (.round path :: (ks.map (Notice.heard · path) ++ L))
      (path :: R) := by
  have hreread := hs.quiet_reread path
  obtain ⟨hstart, -, -, hobserved₁⟩ := grows_start hreread.sound hd path
  have hstop : s'.Grows P s'.stopRounds [] :=
    grows_changeNavigator h.sound (fun _ _ _ => rfl) fun _ => .refl _
  have hplacid : s'.Placid s'.stopRounds := placid_changeNavigator fun _ => .refl _
  obtain ⟨n, hn⟩ := Option.isSome_iff_exists.1 h.sound.present
  have hn' : s'.stopRounds.navigator = some { n with dispatching := false, pending := none } :=
    navigator_changeNavigator _ hn
  have hgrows := ((hreread.toGrows.trans hstart).trans h.toGrows).trans hstop
  rw [List.append_nil] at hgrows
  refine ⟨⟨hgrows, h.ordered.sublist hplacid.registered, ?_, ?_, ?_⟩, hs.between, fun htrue => ?_,
    fun _ => ?_⟩
  · rw [hplacid.readings_eq, h.readings_eq]
    exact List.append_assoc s.readings [path] R
  · have hobserved : s'.observed = R.getLast?.or (some path) := hobserved₁ ▸ h.observed_eq
    rw [observed_of_navigator hn', ← observed_of_navigator hn, hobserved, List.getLast?_cons]
    cases R.getLast? <;> rfl
  · exact (isDispatching_of_navigator hn').trans hd.symm
  · cases hd.symm.trans htrue
  · exact (.round nofun hnew hinitial hks : s.Announced b s.registered _ ([] ++ path :: R))

end Site

/-! ## Code that is a passage -/

/-- What code does that ends, by returning or not. -/
def Passing (P : ℓ → Prop) (returns : Bool) (w w' : World ℓ) : Prop :=
  w.host.Orderly P → ∃ all L R, w.host.Passage P returns all w'.host L R

instance passing_composes : Run.Composes (@Passing ℓ P) where
  refl _ _ hs := ⟨_, [], [], hs.passage⟩
  trans h h' hs := by
    obtain ⟨all, L, R, h⟩ := h hs
    obtain ⟨all', L', R', h'⟩ := h' h.orderly
    obtain ⟨all'', -, h''⟩ := h.trans hs.toSound h'
    exact ⟨all'', L ++ L', R ++ R', h''⟩

section
variable {f : Site ℓ → Site ℓ}

/-- A change of the site that is a passage, as code. -/
theorem passing_change
    (hf : ∀ s : Site ℓ, s.Orderly P → s.Passage P true s.registered (f s) [] []) :
    (change f).Ends (Passing P) := fun w _ hs => ⟨_, [], [], hf w.host hs⟩

/-- A change that makes nothing known and reads nothing, as code. -/
theorem passing_quiet (hquiet : ∀ s : Site ℓ, s.Sound P → s.Quiet P (f s))
    (hplacid : ∀ s : Site ℓ, s.Placid (f s)) : (change f).Ends (Passing P) :=
  passing_change fun s hs => (hplacid s).passage hs (hquiet s hs.toSound)

/-- A change that leaves the navigator and what it has read as they are, as code. -/
theorem passing_frame (hframe : ∀ s : Site ℓ, s.Frame (f s))
    (hreadings : ∀ s : Site ℓ, (f s).readings = s.readings) : (change f).Ends (Passing P) :=
  passing_quiet (fun s hs => (hframe s).quiet hs) fun s =>
    Site.placid_of_navigator (hreadings s) (hframe s).navigator_eq

end

/-- Code is a passage that is put together from passages. -/
theorem closed_passing : Act.Closed fun _ (r : Act ℓ _) => r.Ends (Passing P) where
  pure a := (Run.leads_pure a).ends
  gets f := (Run.leads_gets f).ends
  panic p := (Run.leads_panic p).ends
  heal _ _ _ hs := ⟨_, [], [], hs.passage⟩
  bind hr hf := Run.ends_bind hr hf
  holding hr := by
    refine Run.ends_bind (passing_frame (fun _ => ⟨rfl, rfl, rfl, rfl⟩) fun _ => rfl) fun _ => ?_
    refine Run.ends_finish hr fun h hs => ?_
    obtain ⟨all, L, R, h⟩ := h hs
    exact ⟨all, L, R, h.settle (Site.quiet_release h.sound)
      (Site.placid_release h.sound.handled)⟩

/-- What code does that does nothing before it reads the path again: a round is for the listeners that
are registered when the code starts. -/
def Refreshing (P : ℓ → Prop) (returns : Bool) (w w' : World ℓ) : Prop :=
  w.host.Orderly P → ∃ L R, w.host.Passage P returns w.host.registered w'.host L R

section
variable {α β : Type} {r : Act ℓ α}

/-- Code that does nothing reads nothing before a round. -/
theorem refreshing_pure (a : α) : (pure a : Act ℓ α).Ends (Refreshing P) :=
  fun _ _ hs => ⟨[], [], hs.passage⟩

/-- If the navigator is looked for first, nothing is done before the path is read. -/
theorem refreshing_onReachable {r : Act ℓ Answer} (hr : r.Ends (Refreshing P)) :
    (site Site.reachable? >>= fun navigator => onTarget navigator fun _ => r).Ends
      (Refreshing P) := by
  intro w
  rw [site_bind]
  cases w.host.reachable? with
  | none => exact refreshing_pure _ w
  | some n => exact hr w

/-- A change of anything but the navigator may come before the path is read. -/
theorem refreshing_after {f : Site ℓ → Site ℓ} (hframe : ∀ s : Site ℓ, s.Frame (f s))
    (hreadings : ∀ s : Site ℓ, (f s).readings = s.readings) (hr : r.Ends (Refreshing P)) :
    (change f >>= fun _ => r).Ends (Refreshing P) := by
  intro w hend hs
  have hplacid := Site.placid_of_navigator (hreadings w.host) (hframe w.host).navigator_eq
  have hfirst := (hplacid.passage hs ((hframe w.host).quiet hs.toSound) : Site.Passage P true ..)
  have hregistered : (f w.host).registered = w.host.registered := by
    rw [Site.registered, (hframe w.host).navigator_eq, Site.registered]
  obtain ⟨L, R, h⟩ := hr { w with host := f w.host } hend hfirst.orderly
  obtain ⟨all, hall, h⟩ := hfirst.trans hs.toSound h
  obtain rfl : all = w.host.registered := hall.elim id fun heq => heq.trans hregistered
  exact ⟨_, _, h⟩

/-- The path may be read while the navigator is used. -/
theorem refreshing_holding (hr : r.Ends (Refreshing P)) : (holding r).Ends (Refreshing P) := by
  refine refreshing_after (fun _ => ⟨rfl, rfl, rfl, rfl⟩) (fun _ => rfl) ?_
  refine Run.ends_finish hr fun h hs => ?_
  obtain ⟨L, R, h⟩ := h hs
  exact ⟨L, R, h.settle (Site.quiet_release h.sound) (Site.placid_release h.sound.handled)⟩

end

/-- What a round of a path does that starts where a round is going on: the listeners that are
registered are told the path, up to one that does not return, and only if all return there may be
more rounds. -/
def Rounding (P : ℓ → Prop) (path : String) (returns : Bool) (w w' : World ℓ) : Prop :=
  w.host.Orderly P → w.host.isDispatching = true → ∃ ks L R, ks <+: w.host.registered ∧
    w.host.Course P w'.host (.round path :: (ks.map (Notice.heard · path) ++ L)) R ∧
    (ks = w.host.registered ∨ returns = false ∧ L = [] ∧ ks ≠ [])

/-- Whether a step lets the navigator read the path again, and does nothing before that a round could
depend on. -/
def Step.Rereads : Step ℓ → Prop
  | .navigate .. | .refresh => True
  | _ => False

/-- Whether tasks are passages, re-readings of the path are refreshing, and rounds are rounds. -/
structure Performer.Passes (P : ℓ → Prop) (rec : Performer ℓ) : Prop where
  step : ∀ s : Step ℓ, s.Keeps P → (rec (.step s)).Ends (Passing P)
  rereads : ∀ s : Step ℓ, s.Rereads → (rec (.step s)).Ends (Refreshing P)
  refresh : (rec .refresh).Ends (Refreshing P)
  fire : ∀ source, (rec (.fire source)).Ends (Passing P)
  turns : ∀ number turn value, (rec (.turns number turn value)).Ends (Passing P)
  round : ∀ path, (rec (.round path)).Ends (Rounding P path)

/-- To read the path again is a passage. -/
theorem Performer.Passes.passing_refresh (hrec : rec.Passes P) :
    (rec .refresh).Ends (Passing P) := by
  intro w hend hs
  obtain ⟨L, R, h⟩ := hrec.refresh w hend hs
  exact ⟨_, L, R, h⟩

section
variable (hrec : rec.Passes P)
include hrec

/-! ### Rounds -/

/-- What telling a path to listeners does within a round: they are told one after the other, up to
one that does not return. -/
def Telling (P : ℓ → Prop) (path : String) (ks : List Nat) (returns : Bool) (w w' : World ℓ) : Prop :=
  w.host.Orderly P → w.host.isDispatching = true → (∀ k ∈ ks, k < w.host.listeners.length) →
    ∃ heard R, heard <+: ks ∧ w.host.Course P w'.host (heard.map (Notice.heard · path)) R ∧
      (heard = ks ∨ returns = false ∧ heard ≠ [])

/-- One listener is told the path, and is the last if it does not return. -/
theorem telling_notify (path : String) (k : Nat) :
    (notify rec (some path) k).Ends (Telling P path [k]) := by
  intro w hend hs hd hk
  obtain ⟨⟨id, l⟩, hl⟩ : ∃ l, w.host.listeners[k]? = some l :=
    ⟨_, List.getElem?_eq_getElem (hk k (.head _))⟩
  have hnotify : notify rec (some path) k w = silently rec (.turns k 0 (some path))
      { w with host := (w.host.logged (.heard id path)).noted (.heard k path) } := by
    unfold notify
    rw [site_bind, hl]
    rfl
  rw [hnotify] at hend ⊢
  have hnoted := hs.course_heard id path k
  obtain ⟨_, L, R, h⟩ := closed_passing.silently (hrec.turns k 0 (some path)) _ hend hnoted.orderly
  obtain rfl := h.inside hd
  exact ⟨[k], [] ++ R, List.prefix_refl _, hnoted.trans h.toCourse, .inl rfl⟩

/-- The listeners that a round snapshots are told its path one after the other. -/
theorem telling_emit (path : String) (ks : List Nat) :
    (Run.forEach (notify rec (some path)) ks).Ends (Telling P path ks) := by
  induction ks with
  | nil =>
    intro w _ hs _ _
    exact ⟨[], [], List.prefix_refl _, hs.course, .inl rfl⟩
  | cons k ks ih =>
    have hhead {n : Nat} (hk : ∀ j ∈ k :: ks, j < n) : ∀ j ∈ [k], j < n := fun j hj =>
      hk j (List.mem_singleton.1 hj ▸ List.mem_cons_self)
    refine Run.ends_andThen (telling_notify hrec path k) (fun _ => ih) ?_ ?_
    · intro b w w₁ w' hfirst hrest hs hd hk
      obtain ⟨heard, R, -, h, hheard⟩ := hfirst hs hd (hhead hk)
      obtain rfl : heard = [k] := hheard.resolve_right nofun
      obtain ⟨heard', R', hinitial, h', hheard'⟩ := hrest h.orderly (h.dispatching_eq.trans hd)
        fun j hj => Nat.lt_of_lt_of_le (hk j (.tail _ hj)) h.length_le
      refine ⟨k :: heard', R ++ R', List.cons_prefix_cons.2 ⟨rfl, hinitial⟩, h.trans h', ?_⟩
      exact hheard'.imp (congrArg (k :: ·)) fun hstop => ⟨hstop.1, List.cons_ne_nil _ _⟩
    · intro w w' hfirst hs hd hk
      obtain ⟨heard, R, hinitial, h, hheard⟩ := hfirst hs hd (hhead hk)
      refine ⟨heard, R, hinitial.trans (List.cons_prefix_cons.2 ⟨rfl, List.nil_prefix⟩), h, .inr ?_⟩
      refine ⟨rfl, ?_⟩
      rcases hheard with rfl | hstop
      · exact List.cons_ne_nil _ _
      · exact hstop.2

/-- What happens within a round that is going on. -/
def Continuing (P : ℓ → Prop) (_ : Bool) (w w' : World ℓ) : Prop :=
  w.host.Orderly P → w.host.isDispatching = true → ∃ L R, w.host.Course P w'.host L R

/-- The rounds of the paths that came up during a round. -/
theorem continuing_next : Run.Ends (Continuing P) (takePending >>= fun waiting =>
    match waiting with
    | none => (pure Answer.nothing : Act ℓ Answer)
    | some path => rec (.round path)) := by
  intro w hend hs hd
  rw [takePending_bind] at hend ⊢
  have htake := hs.course_take hd
  cases hnext : w.host.waiting with
  | none => exact ⟨_, _, htake⟩
  | some next =>
    rw [hnext] at hend
    obtain ⟨ks, L, R, -, h, -⟩ :=
      hrec.round next _ hend htake.orderly (htake.dispatching_eq.trans hd)
    exact ⟨_, _, htake.trans h⟩

/-- What telling a path to listeners does, with what comes after it: that may be more rounds, if all
of them return. -/
def Emitting (P : ℓ → Prop) (path : String) (ks : List Nat) (returns : Bool) (w w' : World ℓ) :
    Prop :=
  w.host.Orderly P → w.host.isDispatching = true → (∀ k ∈ ks, k < w.host.listeners.length) →
    ∃ heard L R, heard <+: ks ∧
      w.host.Course P w'.host (heard.map (Notice.heard · path) ++ L) R ∧
      (heard = ks ∨ returns = false ∧ L = [] ∧ heard ≠ [])

/-- The listeners are told the path, and if all return the path that waits has its rounds. -/
theorem emitting_round (path : String) (ks : List Nat) :
    Run.Ends (Emitting P path ks) (Run.forEach (notify rec (some path)) ks >>= fun _ =>
      takePending >>= fun waiting => match waiting with
        | none => (pure Answer.nothing : Act ℓ Answer)
        | some path => rec (.round path)) := by
  refine Run.ends_andThen (telling_emit hrec path ks) (fun _ => continuing_next hrec) ?_ ?_
  · intro b w w₁ w' htold hnext hs hd hks
    obtain ⟨heard, R, hinitial, h, hheard⟩ := htold hs hd hks
    obtain ⟨L, R', h'⟩ := hnext h.orderly (h.dispatching_eq.trans hd)
    exact ⟨heard, L, R ++ R', hinitial, h.trans h', .inl (hheard.resolve_right nofun)⟩
  · intro w w' htold hs hd hks
    obtain ⟨heard, R, hinitial, h, hheard⟩ := htold hs hd hks
    refine ⟨heard, [], R, hinitial, by rwa [List.append_nil], ?_⟩
    exact hheard.imp_right fun hstop => ⟨rfl, rfl, hstop.2⟩

/-- A round tells the listeners that are registered when it starts. -/
theorem rounding_performRound (path : String) :
    (performRound rec path).Ends (Rounding P path) := by
  intro w hend hs hd
  have hnoted := hs.course_round path
  obtain ⟨ks, L, R, hinitial, h, hks⟩ := emitting_round hrec path w.host.registered
    { w with host := w.host.noted (.round path) } hend hnoted.orderly hd hs.known
  exact ⟨ks, L, R, hinitial, hnoted.trans h, hks⟩

/-! ### Reading the path again -/

/-- Rounds that are started, and that end however the last of them ends. -/
theorem ends_rounds (path : String) :
    Run.Ends (fun b w w' => ∃ w₁, Rounding P path b w w₁ ∧ w'.host = w₁.host.stopRounds)
      (atEnd (silently rec (.round path)) Site.stopRounds >>= fun _ => pure (Answer.flag true)) :=
  Run.ends_bind_pure (Run.ends_finish (Run.ends_bind_pure (hrec.round path) _)
    fun h => ⟨_, h, rfl⟩) _

/-- The path is read again outside a round, which starts rounds if it is new, or in one, which lets
it wait. -/
theorem refreshing_refresh : (perform env rec .refresh).Ends (Refreshing P) := by
  intro w hend hs
  obtain ⟨n, hn⟩ := Option.isSome_iff_exists.1 hs.present
  have hperform : perform env rec .refresh w = performRefresh env rec
      { w with host := w.host.reread (env.currentPath w.host) } := rfl
  have hcurrent : env.currentPath (w.host.reread (env.currentPath w.host)) =
      env.currentPath w.host := rfl
  have hn' : (w.host.reread (env.currentPath w.host)).navigator = some n := hn
  have hobserved := Site.observed_of_navigator hn
  have hdispatching := Site.isDispatching_of_navigator hn
  rw [hperform] at hend ⊢
  unfold performRefresh at hend ⊢
  rw [site_bind, site_bind, hcurrent, hn'] at hend ⊢
  simp only at hend ⊢
  by_cases hnew : n.path = env.currentPath w.host
  · rw [if_pos hnew]
    exact ⟨_, _, hs.reread (hnew ▸ hobserved)⟩
  rw [if_neg hnew] at hend ⊢
  by_cases hd : n.dispatching = true
  · rw [if_pos hd]
    exact ⟨_, _, hs.queue (hdispatching.trans hd) _⟩
  · rw [if_neg hd, change_bind] at hend ⊢
    have hd := Bool.not_eq_true _ ▸ hd
    have hnew : w.host.observed ≠ some (env.currentPath w.host) := fun h =>
      hnew (Option.some.inj (hobserved.symm.trans h))
    have hd := hdispatching.trans hd
    obtain ⟨hs₁, hd₁⟩ := hs.startRounds hd (env.currentPath w.host)
    obtain ⟨w₁, hround, hstop⟩ := ends_rounds hrec (env.currentPath w.host) _ hend
    obtain ⟨ks, L, R, hinitial, h, hks⟩ := hround hs₁ hd₁
    have hregistered := Site.registered_startRounds w.host (env.currentPath w.host)
    have hpassage := hs.dispatch hd hnew (hregistered ▸ hinitial) h (hregistered ▸ hks)
    rw [← hstop] at hpassage
    exact ⟨_, _, hpassage⟩

/-! ### Steps -/

omit hrec in
/-- What a step changes itself makes nothing known and reads nothing. -/
theorem passage_changes {s : Step ℓ} (hstep : s.Keeps P) {f : Site ℓ → Site ℓ}
    (hf : s.Changes env f) {s₀ : Site ℓ} (hs : s₀.Orderly P) :
    s₀.Passage P true s₀.registered (f s₀) [] [] := by
  have hquiet : s₀.Quiet P (f s₀) := quiet_changes hstep hf hs.toSound
  cases s with
  | subscribe id listener => exact hf ▸ hs.subscribe id hstep
  | navigate path data inPlace =>
    exact Site.Placid.passage (hf ▸ Site.placid_navigate path data inPlace) hs hquiet
  | attach history event => exact Site.Placid.passage (hf ▸ Site.routine_placid.attach _ _) hs hquiet
  | detach => exact Site.Placid.passage (hf ▸ Site.routine_placid.detach _) hs hquiet
  | hostSubscribe history id event listener =>
    have hplacid : s₀.Placid (s₀.hostSubscribe (history, event) id listener) :=
      Site.routine_placid.hostSubscribe s₀ _ id listener fun _ _ => Site.placid_of_navigator rfl rfl
    exact Site.Placid.passage (hf ▸ hplacid) hs hquiet
  | push | replace | setCell | setFlag | keep =>
    exact Site.Placid.passage (hf ▸ Site.placid_of_navigator rfl rfl) hs hquiet
  | back history | forward history | go history =>
    obtain ⟨h, rfl⟩ := hf
    have hplacid : s₀.Placid (s₀.changeHistory history fun _ => h) :=
      Site.placid_of_navigator rfl rfl
    exact hplacid.passage hs hquiet
  | unsubscribe id | drop id =>
    obtain ⟨sub, rfl⟩ := hf
    have hforget := Site.routine_placid.forget s₀ id
    exact (hforget.trans (Site.routine_placid.cancel _ sub)).passage hs hquiet
  | close => exact hstep.elim
  | refresh | dispatch | render | matchPath | describe | reset | panic => exact hf.elim

omit hrec in
/-- A change that a step makes itself, as code. -/
theorem passing_changes {s : Step ℓ} (hs : s.Keeps P) {f : Site ℓ → Site ℓ}
    (hf : s.Changes env f) : (change f).Ends (Passing P) :=
  passing_change fun _ h => passage_changes hs hf h

/-- Navigation and reading do nothing to the listeners before the path is read. -/
theorem refreshing_performStep {s : Step ℓ} (hs : s.Rereads) :
    (performStep env rec s).Ends (Refreshing P) := by
  cases s with
  | navigate path data inPlace =>
    refine refreshing_onReachable (refreshing_holding ?_)
    refine refreshing_after (fun _ => Site.frame_navigate path data inPlace) (fun _ => ?_) ?_
    · exact (Site.placid_navigate path data inPlace).readings_eq
    · exact Run.ends_bind_pure (Run.ends_bind_pure hrec.refresh _) _
  | refresh => exact refreshing_onReachable (refreshing_holding hrec.refresh)
  | _ => exact hs.elim

/-- In its turns a listener takes permitted steps. -/
theorem passing_turns (henv : env.Keeps P) (number turn : Nat) (value : Option String) :
    (performTurns env rec number turn value).Ends (Passing P) := by
  intro w hend hs
  rcases turns_cases env rec number turn value w with
    hnone | ⟨l, steps, after, hl, hlisten, hturn⟩
  · rw [hnone]
    exact ⟨_, [], [], hs.passage⟩
  · obtain ⟨hafter, hsteps⟩ := henv _ _ _ _ _ (hs.admitted l hl) hlisten
    rw [hturn] at hend ⊢
    have hchange : (change fun s : Site ℓ => { s with
        listeners := s.listeners.modify number fun l => (l.1, after) }).Ends (Passing P) :=
      passing_quiet (fun _ h => Site.quiet_turn h number hafter)
        fun _ => Site.placid_of_navigator rfl rfl
    have hsteps := closed_passing.turn (fun s hmem => hrec.step s (hsteps s hmem))
      (fun s answer => passing_frame (fun _ => ⟨rfl, rfl, rfl, rfl⟩) fun _ => rfl)
      (hrec.turns number (turn + 1) value)
    exact closed_passing.bind hchange (fun _ => hsteps) w hend hs

end

/-- Tasks are passages if the tasks nested in them are. -/
theorem passes_perform (henv : env.Keeps P) (hrec : rec.Passes P) :
    (perform env rec).Passes P where
  step s hs := closed_passing.performStep hrec.passing_refresh hrec.fire s
    (fun _ hf => passing_changes hs hf) fun hrender => (hrender ▸ hs : Step.Keeps P .render).elim
  rereads _ hs := refreshing_performStep hrec hs
  refresh := refreshing_refresh hrec
  fire := closed_passing.performFire hrec.passing_refresh fun _ =>
    closed_passing.notify (fun _ => passing_frame (fun _ => ⟨rfl, rfl, rfl, rfl⟩) fun _ => rfl)
      (hrec.turns _ _ _)
  turns number turn value := passing_turns hrec henv number turn value
  round path := rounding_performRound hrec path

/-- Whatever is done in a session is a passage when it ends, however deeply tasks are nested. -/
theorem passes_run (henv : env.Keeps P) (depth : Nat) : (run env depth).Passes P := by
  induction depth with
  | zero =>
    exact ⟨fun _ _ _ h => (h rfl).elim, fun _ _ _ h => (h rfl).elim, fun _ h => (h rfl).elim,
      fun _ _ h => (h rfl).elim, fun _ _ _ _ h => (h rfl).elim, fun _ _ h => (h rfl).elim⟩
  | succ depth ih => exact passes_perform henv ih

/-! ## Calls from outside -/

/-- A new navigator has read the path where it starts. -/
theorem Site.orderly_openNavigator (env : Setup ℓ) {s : Site ℓ} (hs : ∀ l ∈ s.listeners, P l.2)
    (event : String) :
    (s.openNavigator env event).Orderly P ∧ (s.openNavigator env event).isDispatching = false ∧
      (s.openNavigator env event).readings = s.readings ∧
      (s.openNavigator env event).observed = some (env.currentPath s) := by
  let opened : Site ℓ := { s with
    navigator := some ⟨env.currentPath s, false, none, .empty, none⟩
    handles := 1 }
  have hopened : opened.Orderly P :=
    ⟨⟨rfl, nofun, .nil, nofun, hs, fun _ => rfl⟩, .nil⟩
  have hattach := routine_quiet.attach _ (0, event) hopened.toSound
  have hplacid : opened.Placid (s.openNavigator env event) := routine_placid.attach _ (0, event)
  exact ⟨⟨hattach.sound, hopened.ordered.sublist hplacid.registered⟩, hattach.dispatching_eq,
    hplacid.readings_eq, hattach.observed_eq⟩

open Relation

/-- A call that ends is a passage, and one that lets the path be read has its round for the
listeners that are registered when it starts. -/
theorem passage_of_call (henv : env.Keeps P) {depth : Nat} {s : Step ℓ} (hstep : s.Keeps P)
    {w w' : World ℓ} {o : Outcome Empty Answer} (hs : w.host.Orderly P)
    (hrun : run env depth (.step s) w = (o, w')) (hend : o ≠ .exhausted) :
    ∃ all L R, w.host.Passage P o.returns all w'.host L R ∧
      (s.Rereads → all = w.host.registered) := by
  have hpasses := passes_run henv depth
  by_cases hrereads : s.Rereads
  · have h := hpasses.rereads s hrereads w (by rwa [hrun]) hs
    rw [hrun] at h
    obtain ⟨L, R, h⟩ := h
    exact ⟨_, L, R, h, fun _ => rfl⟩
  · have h := hpasses.step s hstep w (by rwa [hrun]) hs
    rw [hrun] at h
    obtain ⟨all, L, R, h⟩ := h
    exact ⟨all, L, R, h, fun h => (hrereads h).elim⟩

/-- Calls that end, one after the other, are a course of the site. -/
theorem course_of_calls (henv : env.Keeps P) {w w' : World ℓ} (hs : w.host.Orderly P)
    (h : ReflTransGen (CallEnds env (Step.Keeps P)) w w') : ∃ L R, w.host.Course P w'.host L R := by
  induction h with
  | refl => exact ⟨[], [], hs.course⟩
  | tail _ hcall ih =>
    obtain ⟨L, R, h⟩ := ih
    obtain ⟨hstep, hrun, hend⟩ := hcall
    obtain ⟨_, L', R', h', -⟩ := passage_of_call henv hstep h.orderly hrun hend
    exact ⟨L ++ L', R ++ R', h.trans h'.toCourse⟩

/-- A panic does not wedge the navigator. A navigator is opened and calls bring its session to a state
`w`, each returning or unwinding from a panic; the listeners do what they like meanwhile. Then no
round is going on, nothing waits, and the path of the navigator is the newest that it has read again.
So a further call that reads a new path makes it known to the listeners that are registered then, in
the order of their registration. -/
theorem navigator_survives_panics (henv : env.Keeps P) {failures : List (Nat × Failure)}
    {s : Site ℓ} (hs : ∀ l ∈ s.listeners, P l.2) {event : String} {w : World ℓ}
    (hcalls : ReflTransGen (CallEnds env (Step.Keeps P)) ⟨failures, s.openNavigator env event⟩ w) :
    w.host.isDispatching = false ∧ w.host.waiting = none ∧
    (∃ R, w.host.readings = s.readings ++ R ∧
      w.host.observed = R.getLast?.or (some (env.currentPath s))) ∧
    ∀ depth (step : Step ℓ) o w', step.Keeps P → run env depth (.step step) w = (o, w') →
      o ≠ .exhausted → ∃ all L R, w'.host.notices = w.host.notices ++ L ∧
        w'.host.readings = w.host.readings ++ R ∧ w.host.Between w'.host all ∧
        (step.Rereads → all = w.host.registered) ∧ w.host.Announced o.returns all L R := by
  obtain ⟨hs₀, hd₀, hreadings₀, hobserved₀⟩ := Site.orderly_openNavigator env hs event
  obtain ⟨L, R, h⟩ := course_of_calls henv hs₀ hcalls
  have hd : w.host.isDispatching = false := h.dispatching_eq.trans hd₀
  refine ⟨hd, h.sound.idle hd, ⟨R, ?_, ?_⟩, fun depth step o w' hstep hrun hend => ?_⟩
  · rw [h.readings_eq, hreadings₀]
  · rw [h.observed_eq, hobserved₀]
  · obtain ⟨all, L, R, h', hall⟩ := passage_of_call henv hstep h.orderly hrun hend
    exact ⟨all, L, R, h'.notices_eq, h'.readings_eq, h'.between, hall, h'.announced hd⟩

/-- A navigator with listeners of two kinds: one navigates when it is told `/a`, and then panics; the
other does nothing. -/
def Setup.brittle : Setup Bool where
  listen l turn value :=
    if l = true ∧ turn = 0 ∧ value = some "/a" then
      some ([.navigate "/b" none false, .panic (.message "broken")], l)
    else none
  navigating := .history
  readsCell := false
  ownsHistory := false
  tree := none
  boundaries := []

/-- The listeners of this session take permitted steps only. -/
theorem Setup.brittle_keeps : Setup.brittle.Keeps fun _ => True := by
  intro l turn value steps after _ h
  simp only [Setup.brittle] at h
  split at h
  · cases h
    exact ⟨trivial, by simp [Step.Keeps]⟩
  · cases h

/-- The world behind a step of a session with such listeners. -/
def afterBrittle (s : Step Bool) (w : World Bool) : World Bool :=
  (run Setup.brittle 12 (.step s) w).2

/-- A session in which one listener of each kind is registered, and a navigation to `/a` has unwound.
-/
def brittleUnwound : World Bool :=
  afterBrittle (.navigate "/a" none false) (afterBrittle (.subscribe "idle" false)
    (afterBrittle (.subscribe "brittle" true)
      ⟨[], (Site.start "/" "").openNavigator Setup.brittle popstate⟩))

/-- The panic leaves `/b` as the path that was read last, which waits no longer. The next navigation is
made known to both listeners, also to the one that the panic kept from hearing of `/a`. -/
theorem told_behind_panic :
    brittleUnwound.host.notices = [.round "/a", .heard 0 "/a"] ∧
    brittleUnwound.host.observed = some "/b" ∧ brittleUnwound.host.isDispatching = false ∧
    brittleUnwound.host.waiting = none ∧
    brittleUnwound.host.Announced true [0, 1] [.round "/c", .heard 0 "/c", .heard 1 "/c"] ["/c"] := by
  have hopened : ReflTransGen (CallEnds Setup.brittle (Step.Keeps fun _ => True))
      ⟨[], (Site.start "/" "").openNavigator Setup.brittle popstate⟩ brittleUnwound :=
    .tail (.tail (.single (callEnds_of_run (s := .subscribe "brittle" true) trivial rfl))
      (callEnds_of_run (s := .subscribe "idle" false) trivial rfl))
      (callEnds_of_run (s := .navigate "/a" none false) trivial rfl)
  obtain ⟨hdispatching, hwaiting, ⟨R, hreadings, hobserved⟩, hnext⟩ :=
    navigator_survives_panics Setup.brittle_keeps
      (fun _ h => absurd h List.not_mem_nil) hopened
  have hread : brittleUnwound.host.readings = ["/a", "/b"] := by decide +kernel
  obtain rfl : R = ["/a", "/b"] := hreadings.symm.trans hread
  have hcall : run Setup.brittle 12 (.step (.navigate "/c" none false)) brittleUnwound =
      (.returned .nothing, afterBrittle (.navigate "/c" none false) brittleUnwound) := rfl
  obtain ⟨all, L, R, hnotices, hreadings, -, hall, hannounced⟩ :=
    hnext 12 (.navigate "/c" none false) _ _ trivial hcall nofun
  have htold : (afterBrittle (.navigate "/c" none false) brittleUnwound).host.notices =
      brittleUnwound.host.notices ++ [.round "/c", .heard 0 "/c", .heard 1 "/c"] := by
    decide +kernel
  have hread : (afterBrittle (.navigate "/c" none false) brittleUnwound).host.readings =
      brittleUnwound.host.readings ++ ["/c"] := by
    decide +kernel
  have hregistered : brittleUnwound.host.registered = [0, 1] := by decide +kernel
  obtain rfl := List.append_cancel_left (hnotices.symm.trans htold)
  obtain rfl := List.append_cancel_left (hreadings.symm.trans hread)
  rw [hall trivial, hregistered] at hannounced
  exact ⟨by decide +kernel, hobserved, hdispatching, hwaiting, hannounced⟩

end NestedRouting
