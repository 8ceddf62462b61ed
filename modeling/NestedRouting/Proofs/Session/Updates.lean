import Mathlib.Data.List.Destutter
import Mathlib.Logic.Relation
import NestedRouting.Proofs.Route.Siblings
import NestedRouting.Proofs.Session.Changes
import NestedRouting.Proofs.Session.Notices
import NestedRouting.Session.Open

/-!
# Updates of the path

A router reports an update when a pass renders another path than the pass before. What a pass does on
the way is up to its content and fallbacks (`Renderer.Moves`), and content can navigate, which runs
listeners that do what they like. All that is done in a session, a pass that ends by rendering apart,
leaves the updates, the passes and the path rendered last as they are (`Site.Still`), so a relation
that allows for such changes carries over to whole sessions (`lax_run`). It follows that the updates
are the paths of the passes with repetitions merged (`updates_follow_passes`).
-/

namespace NestedRouting

/-! ## Repetitions -/

section
variable {α : Type} [DecidableEq α]

/-- One more element is kept behind a first one if it is another than the last. -/
theorem destutter'_concat (a : α) : ∀ (l : List α) (b : α),
    (l ++ [a]).destutter' (· ≠ ·) b =
      if (b :: l).getLast? = some a then l.destutter' (· ≠ ·) b else l.destutter' (· ≠ ·) b ++ [a]
  | [], b => by
    rcases eq_or_ne b a with rfl | h
    · simp
    · simp [h]
  | c :: l, b => by
    rw [List.cons_append, List.getLast?_cons_cons]
    rcases eq_or_ne b c with rfl | h
    · rw [List.destutter'_cons_neg _ (not_not.2 rfl), List.destutter'_cons_neg _ (not_not.2 rfl)]
      exact destutter'_concat a l b
    · rw [List.destutter'_cons_pos _ h, List.destutter'_cons_pos _ h, destutter'_concat a l c]
      split
      · rfl
      · rfl

/-- One more element is kept if it is another than the last. -/
theorem destutter_concat (l : List α) (a : α) : (l ++ [a]).destutter (· ≠ ·) =
    if l.getLast? = some a then l.destutter (· ≠ ·) else l.destutter (· ≠ ·) ++ [a] := by
  cases l with
  | nil => rfl
  | cons b l => exact destutter'_concat a l b

end

/-! ## Where passes lead -/

section
variable {κ φ σ ν : Type} {r : Renderer κ φ σ ν} {p : κ → Prop} {Q : Stage σ → Stage σ → Prop}
  {path owner : Text}

mutual

/-- Whether all content of a node is of a kind. -/
def Node.Forall (p : κ → Prop) : Node κ φ → Prop
  | .content c => p c
  | .route _ _ children => ForallOf p children

/-- Whether all content of nodes is of a kind. -/
def Node.ForallOf (p : κ → Prop) : List (Node κ φ) → Prop
  | [] => True
  | n :: ns => Forall p n ∧ ForallOf p ns

end

mutual

/-- A kind that all content is of is the kind of the content of a node. -/
theorem Node.forall_of (hp : ∀ c, p c) : ∀ n : Node κ φ, n.Forall p
  | .content c => hp c
  | .route _ _ children => Node.forallOf_of hp children

/-- A kind that all content is of is the kind of the content of nodes. -/
theorem Node.forallOf_of (hp : ∀ c, p c) : ∀ ns : List (Node κ φ), Node.ForallOf p ns
  | [] => trivial
  | n :: ns => ⟨Node.forall_of hp n, Node.forallOf_of hp ns⟩

end

/-- Whether content of a kind, fallbacks, and what boundaries do by themselves relate the stage before
to the stage after. -/
structure Renderer.Moves (r : Renderer κ φ σ ν) (p : κ → Prop) (Q : Stage σ → Stage σ → Prop) :
    Prop where
  aside : ∀ {s s' : Stage σ}, s'.host = s.host → Q s s'
  trans : ∀ {s s' s'' : Stage σ}, Q s s' → Q s' s'' → Q s s''
  content : ∀ c, p c → ∀ context s, Q s (r.content c context s).2
  fallback : ∀ b f s, Q s (r.fallback b f s).2

/-- What a boundary shows in place of a failure moves the stage. -/
theorem recover_moves (hr : r.Moves p Q) (b : Boundary φ) (f : Failure) (inner level : Context)
    (stage : Stage σ) : Q stage (recover r b f inner level stage).stage := by
  have hfail : Q stage (stage.fail b.id f) := hr.aside rfl
  rw [stage_recover]
  exact hr.trans hfail (hr.fallback b f _)

/-- The end of a route moves the stage, if what is below it has. -/
theorem settle_moves (hr : r.Moves p Q) (boundary : Option (Boundary φ)) (name : Text)
    (level : Context) {s : Stage σ} {q : Pass σ (List (Rendered ν))} (hq : Q s q.stage) :
    Q s (settle r boundary name level q).stage := by
  unfold settle
  split
  · exact hq
  · exact hr.trans hq (recover_moves hr ..)
  · exact hr.trans hq (recover_moves hr ..)
  all_goals exact hq

/-- A boundary that is released moves the stage. -/
theorem release_moves (hr : r.Moves p Q) (s : Stage σ) (boundary : Option (Boundary φ)) :
    Q s (s.release boundary) := by
  cases boundary with
  | none => exact hr.aside rfl
  | some b => exact hr.aside rfl

mutual

/-- A pass over a node moves the stage. -/
theorem evaluate_moves (hr : r.Moves p Q) : ∀ (n : Node κ φ) (owner : Text) (level : Context)
    (stage : Stage σ), n.Forall p → Q stage (evaluate r path owner n level stage).stage
  | .content c, owner, level, stage, hn => by
    have hcontent := hr.content c hn level stage
    simp only [evaluate]
    rcases hview : r.content c level stage with ⟨view | e | x | _, s⟩
    all_goals
      rw [hview] at hcontent
      exact hcontent
  | .route pattern boundary children, owner, level, stage, hn => by
    simp only [evaluate]
    cases enter r.matcher path level pattern with
    | refused e => exact hr.aside rfl
    | absent => exact release_moves hr stage boundary
    | violates v => exact release_moves hr stage boundary
    | enters name child level' =>
      cases remembered? boundary stage with
      | none =>
        exact settle_moves hr boundary name level'
          (evaluateAll_moves hr children name child stage hn)
      | some b => exact recover_moves hr b.1 b.2 child level' stage

/-- A pass over nodes moves the stage. -/
theorem evaluateAll_moves (hr : r.Moves p Q) : ∀ (ns : List (Node κ φ)) (owner : Text)
    (level : Context) (stage : Stage σ), Node.ForallOf p ns →
      Q stage (evaluateAll r path owner ns level stage).stage
  | [], owner, level, stage, _ => hr.aside rfl
  | n :: ns, owner, level, stage, hns => by
    have hfirst := evaluate_moves hr n owner level stage hns.1
    simp only [evaluateAll]
    cases (evaluate r path owner n level stage).outcome with
    | returned view =>
      have hrest := hr.trans hfirst (evaluateAll_moves hr ns owner
        (evaluate r path owner n level stage).level _ hns.2)
      dsimp only
      split
      all_goals exact hrest
    | failed | panicked | exhausted => exact hfirst

end

end

/-! ## What leaves the updates as they are -/

open Act

variable {ℓ : Type} {env : Setup ℓ} {rec : Performer ℓ}

/-- The update of the path that an entry of the log reports. -/
def LogEntry.update? : LogEntry ℓ → Option String
  | .updated path => some path
  | _ => none

namespace Site

variable {s s' s'' : Site ℓ}

/-- The updates of the path that have been reported, in order. -/
def updates (s : Site ℓ) : List String := s.log.filterMap LogEntry.update?

/-- Whether two sites have reported the same updates, have had the same passes, and have rendered the
same path last. -/
structure Still (s s' : Site ℓ) : Prop where
  updates_eq : s'.updates = s.updates
  passes_eq : s'.passes = s.passes
  lastRendered_eq : s'.lastRendered = s.lastRendered

/-- Two changes that leave the updates as they are, one after the other. -/
theorem Still.trans (h : s.Still s') (h' : s'.Still s'') : s.Still s'' :=
  ⟨h'.updates_eq.trans h.updates_eq, h'.passes_eq.trans h.passes_eq,
    h'.lastRendered_eq.trans h.lastRendered_eq⟩

/-- A change is still if the log, the passes and the path rendered last are equal. -/
theorem still_of_log (hlog : s'.log = s.log) (hpasses : s'.passes = s.passes)
    (hlast : s'.lastRendered = s.lastRendered) : s.Still s' :=
  ⟨by rw [updates, hlog, updates], hpasses, hlast⟩

/-- An entry that reports no update. -/
theorem still_logged (s : Site ℓ) {e : LogEntry ℓ} (he : e.update? = none) :
    s.Still (s.logged e) := by
  refine ⟨?_, rfl, rfl⟩
  have hnone : [e].filterMap LogEntry.update? = [] := List.filterMap_cons_none he
  rw [updates, logged, List.filterMap_append, hnone, List.append_nil, updates]

/-- No routine change concerns the updates. -/
theorem routine_still : Routine (Still : Site ℓ → Site ℓ → Prop) where
  trans := Still.trans
  hosts _ _ _ := still_of_log rfl rfl rfl
  attachment _ _ := still_of_log rfl rfl rfl
  listener _ _ := still_of_log rfl rfl rfl

/-- To attach the navigator to an event concerns no update. -/
theorem still_attach (s : Site ℓ) (source : Source) : s.Still (s.attach source) :=
  routine_still.attach s source

/-- The navigator may go without an update. -/
theorem still_settle (s : Site ℓ) : s.Still s.settle := by
  unfold settle
  split
  · exact (routine_still.detach s).trans (still_of_log rfl rfl rfl)
  · exact still_of_log rfl rfl rfl

/-- A use of the navigator ends without an update. -/
theorem still_release (s : Site ℓ) : s.Still s.release := by
  have hheld : s.Still { s with held := s.held - 1 } := still_of_log rfl rfl rfl
  exact hheld.trans (still_settle _)

/-- A session is closed without an update. -/
theorem still_close (s : Site ℓ) : s.Still s.close := by
  have hhandles : s.Still { s with handles := 0 } := still_of_log rfl rfl rfl
  exact hhandles.trans (still_settle _)

/-- A listener of the path is registered without an update. -/
theorem still_subscribe (s : Site ℓ) (id : String) (listener : ℓ) :
    s.Still (s.subscribe id listener) := by
  unfold subscribe
  split
  · exact still_of_log rfl rfl rfl
  · next n _ =>
    have hadded : s.Still { s with
        navigator := some { n with listeners := n.listeners.subscribe s.listeners.length }
        listeners := s.listeners ++ [(id, listener)] } := still_of_log rfl rfl rfl
    exact hadded.trans (routine_still.store _ id _)

/-- Navigation by itself reports no update. -/
theorem still_navigate (s : Site ℓ) (path : String) (data : Option Data) (replace : Bool) :
    s.Still (env.navigate s path data replace) := by
  have hlogged : s.Still (s.logged (.navigate path data replace)) := still_logged s rfl
  unfold Setup.navigate
  split
  · exact still_of_log rfl rfl rfl
  · exact hlogged
  · exact hlogged.trans (still_of_log rfl rfl rfl)

end Site

/-- No step changes the updates itself. -/
theorem still_changes {s : Step ℓ} {f : Site ℓ → Site ℓ} (hf : s.Changes env f) (s₀ : Site ℓ) :
    s₀.Still (f s₀) := by
  cases s with
  | navigate path data inPlace => exact hf ▸ Site.still_navigate s₀ path data inPlace
  | attach history event => exact hf ▸ Site.still_attach s₀ (history, event)
  | detach => exact hf ▸ Site.routine_still.detach s₀
  | subscribe id listener => exact hf ▸ Site.still_subscribe s₀ id listener
  | hostSubscribe history id event listener =>
    exact hf ▸ Site.routine_still.hostSubscribe s₀ (history, event) id listener
      fun _ _ => Site.still_of_log rfl rfl rfl
  | close => exact hf ▸ Site.still_close s₀
  | push | replace | setCell | setFlag | keep => exact hf ▸ Site.still_of_log rfl rfl rfl
  | back | forward | go =>
    obtain ⟨h, rfl⟩ := hf
    exact Site.still_of_log rfl rfl rfl
  | unsubscribe id | drop id =>
    obtain ⟨sub, rfl⟩ := hf
    exact (Site.routine_still.forget s₀ id).trans (Site.routine_still.cancel _ sub)
  | refresh | dispatch | render | matchPath | describe | reset | panic => exact hf.elim

/-! ## What content does -/

/-- Whether content does not navigate. -/
def Content.Stays : Content → Prop
  | text _ | param _ | context | fail _ | panic _ => True
  | log _ next | setFlag _ _ next | reset _ next => next.Stays
  | flag _ on off => on.Stays ∧ off.Stays
  | navigate .. => False

/-- Whether a relation between worlds allows for what content and fallbacks do by themselves. -/
structure Casual (Q : World ℓ → World ℓ → Prop) : Prop where
  aside : ∀ {w w' : World ℓ}, w'.host = w.host → Q w w'
  trans : ∀ {w w' w'' : World ℓ}, Q w w' → Q w' w'' → Q w w''
  content : ∀ (w : World ℓ) (d : Data) (path : Text),
    Q w { w with host := w.host.logged (.content d path) }
  fallback : ∀ (w : World ℓ) (name message : String),
    Q w { w with host := w.host.logged (.fallback name message) }
  setFlag : ∀ (w : World ℓ) (name : String) (value : Bool),
    Q w { w with host := w.host.setFlag name value }

section
variable {Q : World ℓ → World ℓ → Prop}

/-- What content does can be put together. -/
theorem Casual.composes (hQ : Casual Q) : Run.Composes fun _ => Q where
  refl _ _ := hQ.aside rfl
  trans h h' := hQ.trans h h'

/-- Content does what it may do by itself, and navigates only where that is allowed for. -/
theorem leads_view (hQ : Casual Q) (context : Context) : ∀ (c : Content),
    (¬ c.Stays → ∀ path data replace,
      (rec (.step (.navigate path data replace))).Leads fun _ => Q) →
    (c.view env rec context).Leads fun _ => Q
  | .text _, _ | .param _, _ | .context, _ | .fail _, _ | .panic _, _ => fun _ => hQ.aside rfl
  | .log d next, hnavigate => by
    have := hQ.composes
    refine Run.leads_bind (Run.leads_lift fun w => hQ.content w d _) fun _ => ?_
    exact leads_view hQ context next hnavigate
  | .setFlag name value next, hnavigate => by
    have := hQ.composes
    refine Run.leads_bind (Run.leads_lift fun w => hQ.setFlag w name value) fun _ => ?_
    exact leads_view hQ context next hnavigate
  | .reset name next, hnavigate => by
    have := hQ.composes
    refine Run.leads_bind (fun w => hQ.aside ?_) fun _ => leads_view hQ context next hnavigate
    show ((env.boundaries.lookup name).elim w w.heal).host = w.host
    cases env.boundaries.lookup name <;> rfl
  | .flag name on off, hnavigate => by
    have := hQ.composes
    refine Run.leads_bind (Run.leads_lift (Run.leads_gets _)) fun set => ?_
    split
    · exact leads_view hQ context on fun h => hnavigate fun hstays => h hstays.1
    · exact leads_view hQ context off fun h => hnavigate fun hstays => h hstays.2
  | .navigate path data replace next, hnavigate => by
    have := hQ.composes
    refine Run.leads_bind (Run.leads_lift (Run.leads_gets _)) fun navigator => ?_
    have hnext := leads_view hQ context next fun _ => hnavigate id
    split
    · exact Run.leads_bind (Run.leads_lift (leads_silently (hnavigate id path data replace)))
        fun _ => hnext
    · exact hnext

/-- A fallback does what it may do by itself. -/
theorem leads_fallback (hQ : Casual Q) (b : Boundary Fallback) (f : Failure) :
    (Fallback.view b f : Act ℓ Data).Leads fun _ => Q := by
  have := hQ.composes
  unfold Fallback.view
  refine Run.leads_bind (fun w => hQ.fallback w _ _) fun _ =>
    Run.leads_bind (fun w => ?_) fun _ => ?_
  · refine hQ.aside ?_
    show (if b.fallback.resets then w.heal b.id else w).host = w.host
    split <;> rfl
  · cases b.fallback.panic with
    | none => exact Run.leads_pure _
    | some p => exact Run.leads_panic p

/-- What content of a session does to the stage, if it may navigate. -/
theorem renderer_moves (hQ : Casual Q) {matcher : Option Matcher} {p : Content → Prop}
    (hnavigate : ∀ c, p c → ¬ c.Stays → ∀ path data replace,
      (rec (.step (.navigate path data replace))).Leads fun _ => Q) :
    (renderer env rec matcher).Moves p Q where
  aside := hQ.aside
  trans := hQ.trans
  content c hc context := leads_view hQ context c (hnavigate c hc)
  fallback := leads_fallback hQ

/-- The world behind a pass over the routes of a tree, before the end of the pass is noted. -/
def afterRoutes (env : Setup ℓ) (rec : Performer ℓ) (tree : Tree) (path : String) (w : World ℓ) :
    World ℓ :=
  (evaluateAll (renderer env rec tree.matcher) path.toList tree.base tree.routes
    (.child tree.base ∅) w).stage

/-- A pass renders, which is noted, or it fails, or it does not return. -/
theorem performRender_cases (env : Setup ℓ) (rec : Performer ℓ) (tree : Tree) (path : String)
    (w : World ℓ) :
    (∃ views, performRender env rec tree path w =
      (endPass rec tree path >>= fun _ => pure (Answer.rendered (.ok views)))
        (afterRoutes env rec tree path w)) ∨
    (∃ e, performRender env rec tree path w =
      (.returned (.rendered (.error e)), afterRoutes env rec tree path w)) ∨
    ∃ o, o.returns = false ∧
      performRender env rec tree path w = (o, afterRoutes env rec tree path w) := by
  unfold performRender afterRoutes
  dsimp only
  split
  · exact .inl ⟨_, rfl⟩
  · exact .inr (.inl ⟨_, rfl⟩)
  · exact .inr (.inr ⟨_, rfl, rfl⟩)
  · exact .inr (.inr ⟨_, rfl, rfl⟩)

/-- A pass over the routes of a tree leads where content may lead. -/
theorem afterRoutes_moves (hQ : Casual Q) (tree : Tree) (path : String)
    (hnavigate : ∀ path data replace,
      (rec (.step (.navigate path data replace))).Leads fun _ => Q) (w : World ℓ) :
    Q w (afterRoutes env rec tree path w) := by
  have hr : (renderer env rec tree.matcher).Moves (fun _ => True) Q :=
    renderer_moves hQ fun _ _ _ => hnavigate
  exact evaluateAll_moves hr tree.routes _ _ w (Node.forallOf_of (fun _ => trivial) _)

/-- A pass leads where its content and its end may lead. -/
theorem performRender_leads (hQ : Casual Q) {tree : Tree} {path : String}
    (hnavigate : ∀ path data replace,
      (rec (.step (.navigate path data replace))).Leads fun _ => Q)
    (hend : (endPass rec tree path).Leads fun _ => Q) :
    (performRender env rec tree path).Leads fun _ => Q := by
  have := hQ.composes
  intro w
  have hpass : Q w (afterRoutes env rec tree path w) := afterRoutes_moves hQ tree path hnavigate w
  rcases performRender_cases env rec tree path w with ⟨views, h⟩ | ⟨e, h⟩ | ⟨o, -, h⟩
  · have hended := Run.leads_bind hend (fun _ => Run.leads_pure (Answer.rendered (.ok views)))
      (afterRoutes env rec tree path w)
    rw [h]
    exact hQ.trans hpass hended
  · rw [h]
    exact hpass
  · rw [h]
    exact hpass

/-! ## Whole sessions -/

/-- Whether a relation between worlds allows for all changes that leave the updates as they are. -/
structure Lax (Q : World ℓ → World ℓ → Prop) : Prop where
  still : ∀ {w w' : World ℓ}, w.host.Still w'.host → Q w w'
  trans : ∀ {w w' w'' : World ℓ}, Q w w' → Q w' w'' → Q w w''

/-- A relation that allows for all that leaves the updates as they are allows for content. -/
theorem Lax.casual (hQ : Lax Q) : Casual Q where
  aside h := hQ.still (Site.still_of_log (congrArg Site.log h) (congrArg Site.passes h)
    (congrArg Site.lastRendered h))
  trans := hQ.trans
  content w _ _ := hQ.still (w.host.still_logged rfl)
  fallback w _ _ := hQ.still (w.host.still_logged rfl)
  setFlag _ _ _ := hQ.still (Site.still_of_log rfl rfl rfl)

/-- A change that leaves the updates as they are, as code. -/
theorem Lax.change (hQ : Lax Q) {f : Site ℓ → Site ℓ} (hf : ∀ s : Site ℓ, s.Still (f s)) :
    (change f).Leads fun _ => Q := fun w => hQ.still (hf w.host)

/-- Code with such a change at its end. -/
theorem Lax.finish (hQ : Lax Q) {α : Type} {r : Act ℓ α} (hr : r.Leads fun _ => Q)
    {f : Site ℓ → Site ℓ} (hf : ∀ s : Site ℓ, s.Still (f s)) : (atEnd r f).Leads fun _ => Q :=
  Run.leads_finish hr fun _ _ w' h => hQ.trans h (hQ.still (hf w'.host))

/-- Code leads there that is put together from code that does. -/
theorem Lax.closed (hQ : Lax Q) : Act.Closed fun _ (r : Act ℓ _) => r.Leads fun _ => Q := by
  have := hQ.casual.composes
  exact {
    pure := Run.leads_pure
    gets := Run.leads_gets
    panic := Run.leads_panic
    heal := fun _ _ => hQ.casual.aside rfl
    bind := Run.leads_bind
    holding := fun hr => Run.leads_bind (hQ.change fun _ => Site.still_of_log rfl rfl rfl) fun _ =>
      hQ.finish hr Site.still_release }

/-- Whether all steps of a task are permitted. -/
def Task.Permitted (permitted : Step ℓ → Prop) : Task ℓ → Prop
  | .step s => permitted s
  | _ => True

/-- Whether listeners take only permitted steps. -/
def Setup.Permits (env : Setup ℓ) (permitted : Step ℓ → Prop) : Prop :=
  ∀ l turn value steps after, env.listen l turn value = some (steps, after) →
    ∀ s ∈ steps, permitted s

section
variable {permitted : Step ℓ → Prop}

/-- A listener that is notified leads where its turns lead. -/
theorem lax_notify (hQ : Lax Q) {value : Option String} {number : Nat}
    (hturns : (rec (.turns number 0 value)).Leads fun _ => Q) :
    (notify rec value number).Leads fun _ => Q := by
  cases value with
  | none => exact hQ.closed.notify (fun _ => hQ.change fun s => s.still_logged rfl) hturns
  | some path =>
    refine hQ.closed.tell (fun id => hQ.change fun s => ?_) hturns
    have hlogged : s.Still (s.logged (.heard id path)) := s.still_logged rfl
    exact hlogged.trans (Site.still_of_log rfl rfl rfl)

/-- To read the path again leads where rounds lead. -/
theorem lax_refresh (hQ : Lax Q) (hround : ∀ path, (rec (.round path)).Leads fun _ => Q) :
    (perform env rec .refresh).Leads fun _ => Q := by
  have hnavigator (f : Navigator → Navigator) (s : Site ℓ) : s.Still (s.changeNavigator f) :=
    Site.still_of_log rfl rfl rfl
  exact hQ.closed.bind (hQ.change fun _ => Site.still_of_log rfl rfl rfl) fun _ =>
    hQ.closed.performRefresh (fun f _ => hQ.change (hnavigator f))
      (fun f _ _ hr => hQ.finish hr (hnavigator f)) hround

/-- A round leads where the turns of listeners and more rounds lead. -/
theorem lax_round (hQ : Lax Q) (hturns : ∀ number turn value,
      (rec (.turns number turn value)).Leads fun _ => Q)
    (hround : ∀ path, (rec (.round path)).Leads fun _ => Q) (path : String) :
    (performRound rec path).Leads fun _ => Q :=
  hQ.closed.performRound (hQ.change fun _ => Site.still_of_log rfl rfl rfl)
    (fun number => lax_notify hQ (hturns number 0 _))
    (hQ.change fun _ => Site.still_of_log rfl rfl rfl) hround

/-- The turns of a listener lead where its steps lead. -/
theorem lax_turns (hQ : Lax Q) (hlisten : env.Permits permitted)
    (hrec : ∀ t : Task ℓ, t.Permitted permitted → (rec t).Leads fun _ => Q) (number turn : Nat)
    (value : Option String) : (performTurns env rec number turn value).Leads fun _ => Q := by
  have hC := hQ.closed
  intro w
  rcases turns_cases env rec number turn value w with
    hnone | ⟨l, steps, after, -, htaken, hturn⟩
  · rw [hnone]
    exact hQ.casual.aside rfl
  · have hchange : (change fun s : Site ℓ => { s with
        listeners := s.listeners.modify number fun l => (l.1, after) }).Leads fun _ => Q :=
      hQ.change fun _ => Site.still_of_log rfl rfl rfl
    have hsteps := hC.turn (fun s hs => hrec (.step s) (hlisten _ _ _ _ _ htaken s hs))
      (fun s answer => hQ.change fun site => site.still_logged rfl)
      (hrec (.turns number (turn + 1) value) trivial)
    rw [hturn]
    exact hC.bind hchange (fun _ => hsteps) w

/-- Tasks lead where relations allow for, if passes do. -/
theorem lax_perform (hQ : Lax Q) (hlisten : env.Permits permitted)
    (hrec : ∀ t : Task ℓ, t.Permitted permitted → (rec t).Leads fun _ => Q)
    (hrender : permitted .render → ∀ tree, env.tree = some tree → ∀ path,
      (performRender env rec tree path).Leads fun _ => Q) :
    ∀ t : Task ℓ, t.Permitted permitted → (perform env rec t).Leads fun _ => Q := by
  have hC := hQ.closed
  intro t ht
  cases t with
  | step s =>
    exact hC.performStep (hrec _ trivial) (fun _ => hrec _ trivial) s
      (fun _ hf => hQ.change (still_changes hf)) fun hs => hrender (hs ▸ ht)
  | refresh => exact lax_refresh hQ fun path => hrec _ trivial
  | round path => exact lax_round hQ (fun _ _ _ => hrec _ trivial) (fun _ => hrec _ trivial) path
  | fire source =>
    exact hC.performFire (hrec _ trivial) (fun number => lax_notify hQ (hrec _ trivial)) source
  | turns number turn value => exact lax_turns hQ hlisten hrec number turn value

/-- However deeply tasks are nested, they lead where a relation allows for, if it also allows for the
end of passes, or there are no passes. -/
theorem lax_run (hQ : Lax Q) (hlisten : env.Permits permitted)
    (hnavigate : ∀ path data replace, permitted (.navigate path data replace))
    (hmark : permitted .render → ∀ tree, env.tree = some tree → ∀ path,
      (change (markRendered tree path)).Leads fun _ => Q) (depth : Nat) :
    ∀ t : Task ℓ, t.Permitted permitted → (run env depth t).Leads fun _ => Q := by
  induction depth with
  | zero => exact fun _ _ _ => hQ.casual.aside rfl
  | succ depth ih =>
    refine lax_perform hQ hlisten ih fun hrender tree htree path => ?_
    exact performRender_leads hQ.casual
      (fun path data replace => ih (.step (.navigate path data replace)) (hnavigate ..))
      (hQ.closed.endPass (hmark hrender tree htree path) fun _ _ => ih _ trivial)

end

end

/-! ## Passes and updates -/

/-- Whether the updates are the paths of the passes with repetitions merged, the last of which has
been rendered last. -/
structure Site.Reported (s : Site ℓ) : Prop where
  updates_eq : s.updates = s.passes.destutter (· ≠ ·)
  lastRendered_eq : s.lastRendered = s.passes.getLast?

/-- The end of a pass reports its path, unless it is the path of the pass before. -/
theorem Site.Reported.mark {s : Site ℓ} (h : s.Reported) {tree : Tree}
    (hreports : tree.reportsUpdates = true) (path : String) :
    (markRendered tree path s).Reported := by
  have hpasses : (s.passed path).passes.getLast? = some path := List.getLast?_concat
  have hdestutter := destutter_concat s.passes path
  unfold markRendered
  rw [hreports]
  dsimp only
  split
  · next hsame =>
    rw [if_pos (h.lastRendered_eq.symm.trans hsame)] at hdestutter
    exact ⟨h.updates_eq.trans hdestutter.symm, hsame.trans hpasses.symm⟩
  · next hnew =>
    rw [if_neg fun hlast => hnew (h.lastRendered_eq.trans hlast), ← h.updates_eq] at hdestutter
    exact ⟨List.filterMap_append.trans hdestutter.symm, hpasses.symm⟩

/-- What is reported stays reported. -/
def Reporting (w w' : World ℓ) : Prop := w.host.Reported → w'.host.Reported

/-- What leaves the updates as they are keeps them reported. -/
theorem lax_reporting : Lax (@Reporting ℓ) where
  still h hw := ⟨by rw [h.updates_eq, h.passes_eq, hw.updates_eq],
    by rw [h.lastRendered_eq, h.passes_eq, hw.lastRendered_eq]⟩
  trans h h' hw := h' (h hw)

/-- However deeply tasks are nested, updates stay the paths of the passes. -/
theorem reporting_run {tree : Tree} (htree : env.tree = some tree)
    (hreports : tree.reportsUpdates = true) (depth : Nat) (t : Task ℓ) :
    (run env depth t).Leads fun _ => Reporting := by
  have hlisten : env.Permits fun _ => True := fun _ _ _ _ _ _ _ _ => trivial
  have ht : t.Permitted fun _ => True := by cases t <;> trivial
  refine lax_run lax_reporting hlisten (fun _ _ _ => trivial) (fun _ tree' htree' path w h => ?_)
    depth t ht
  obtain rfl := Option.some.inj (htree.symm.trans htree')
  exact h.mark hreports path

/-- A call keeps the updates the paths of the passes, however it ends. -/
theorem reported_of_call {tree : Tree} (htree : env.tree = some tree)
    (hreports : tree.reportsUpdates = true) {permitted : Step ℓ → Prop} {w w' : World ℓ}
    (hcall : CallEnds env permitted w w') (h : w.host.Reported) : w'.host.Reported := by
  cases hcall with
  | @call depth s o _ hrun _ =>
    have hreporting := reporting_run htree hreports depth (.step s) w h
    rwa [hrun] at hreporting

/-- Whether listeners never render. -/
def Setup.NeverRenders (env : Setup ℓ) : Prop := env.Permits (· ≠ .render)

/-- The end of a pass adds its path to the passes. -/
theorem Site.passes_markRendered (tree : Tree) (path : String) (s : Site ℓ) :
    (markRendered tree path s).passes = s.passes ++ [path] := by
  unfold markRendered
  dsimp only
  split
  · rfl
  · split <;> rfl

/-- There are more passes afterwards only if listeners render. -/
def AddsPasses (env : Setup ℓ) (w w' : World ℓ) : Prop :=
  ∃ N, w'.host.passes = w.host.passes ++ N ∧ (env.NeverRenders → N = [])

/-- What leaves the updates as they are adds no pass. -/
theorem lax_addsPasses (env : Setup ℓ) : Lax (AddsPasses env) where
  still h := ⟨[], h.passes_eq.trans (List.append_nil _).symm, fun _ => rfl⟩
  trans := by
    rintro w w' w'' ⟨N, hN, hnone⟩ ⟨N', hN', hnone'⟩
    refine ⟨N ++ N', by rw [hN', hN, List.append_assoc], fun hnever => ?_⟩
    rw [hnone hnever, hnone' hnever, List.append_nil]

/-- All tasks but a pass itself have passes only if listeners render. -/
theorem addsPasses_run (env : Setup ℓ) (depth : Nat) (t : Task ℓ)
    (ht : t.Permitted fun s => s = .render → ¬ env.NeverRenders) :
    (run env depth t).Leads fun _ => AddsPasses env := by
  refine lax_run (lax_addsPasses env) ?_ (fun _ _ _ => nofun) ?_ depth t ht
  · rintro l turn value steps after htaken s hs rfl hnever
    exact hnever l turn value steps after htaken .render hs rfl
  · intro hrender tree _ path w
    exact ⟨[path], Site.passes_markRendered tree path w.host, fun hnever => (hrender rfl hnever).elim⟩

/-- The end of a pass that has rendered adds its path, and the passes of the listener of updates. -/
theorem passes_endPass (env : Setup ℓ) (depth : Nat) (tree : Tree) (path : String) (w : World ℓ) :
    ∃ M, (endPass (run env depth) tree path w).2.host.passes = w.host.passes ++ [path] ++ M ∧
      (env.NeverRenders → M = []) := by
  have hC := (lax_addsPasses env).closed
  have hmark := Site.passes_markRendered tree path w.host
  unfold endPass
  rw [site_bind, change_bind]
  split
  · cases tree.updater with
    | none => exact ⟨[], by rw [List.append_nil]; exact hmark, fun _ => rfl⟩
    | some number =>
      obtain ⟨M, hM, hnone⟩ := hC.silently
        (addsPasses_run env depth (.turns number 0 (some path)) trivial)
        { w with host := markRendered tree path w.host }
      exact ⟨M, hM.trans (congrArg (· ++ M) hmark), hnone⟩
  · exact ⟨[], by rw [List.append_nil]; exact hmark, fun _ => rfl⟩

/-- A step to render that returns finds no navigator or tree, or does a pass with the current path. -/
theorem render_returned {w w' : World ℓ} {a : Answer}
    (h : performStep env rec .render w = (.returned a, w')) :
    (a = .noTarget ∧ w' = w) ∨
    ∃ tree path w₁, env.tree = some tree ∧ w.host.observed = some path ∧ w.host.handles ≠ 0 ∧
      performRender env rec tree path { w with host := w.host.hold } = (.returned a, w₁) ∧
      w' = { w₁ with host := w₁.host.release } := by
  change (site env.tree? >>= fun target => onTarget target fun p =>
    holding (performRender env rec p.1 p.2)) w = _ at h
  rw [site_bind] at h
  cases htarget : env.tree? w.host with
  | none =>
    rw [htarget] at h
    cases h
    exact .inl ⟨rfl, rfl⟩
  | some target =>
    obtain ⟨n, hn, h'⟩ := Option.bind_eq_some_iff.1 htarget
    obtain ⟨tree, htree, h'⟩ := Option.bind_eq_some_iff.1 h'
    cases h'
    rw [htarget] at h
    change (performRender env rec tree n.path).finish
      (fun w => { w with host := w.host.release }) { w with host := w.host.hold } = _ at h
    obtain ⟨w₁, hpass, rfl⟩ := Run.finish_eq_returned.1 h
    unfold Site.reachable? at hn
    split at hn
    · cases hn
    · next hhandles =>
      exact .inr ⟨tree, n.path, w₁, htree, Site.observed_of_navigator hn, hhandles, hpass, rfl⟩

/-! ## Passes that fail -/

/-- Whether two worlds have the same site, but for its flags and its log. -/
def SameButShown (w w' : World ℓ) : Prop :=
  ∃ flags log, w'.host = { w.host with flags := flags, log := log }

/-- What content does by itself changes only flags and the log. -/
theorem casual_sameButShown : Casual (@SameButShown ℓ) where
  aside h := ⟨_, _, h⟩
  trans := by
    rintro w w' w'' ⟨flags, log, h⟩ ⟨flags', log', h'⟩
    exact ⟨flags', log', by rw [h', h]⟩
  content _ _ _ := ⟨_, _, rfl⟩
  fallback _ _ _ := ⟨_, _, rfl⟩
  setFlag w name value := ⟨_, _, rfl⟩

/-- Content that does not navigate leaves the site as it is, but for flags and the log. -/
theorem sameButShown_afterRoutes {tree : Tree} (hstays : Node.ForallOf Content.Stays tree.routes)
    (path : String) (w : World ℓ) : SameButShown w (afterRoutes env rec tree path w) := by
  have hr : (renderer env rec tree.matcher).Moves Content.Stays SameButShown :=
    renderer_moves casual_sameButShown fun _ hc h => (h hc).elim
  exact evaluateAll_moves hr tree.routes _ _ w hstays

/-- A pass that returns has rendered, and its path is added, or it has failed. Before that there are
the passes of listeners, if content navigates. -/
theorem passes_performRender {depth : Nat} {tree : Tree} {path : String} {w w' : World ℓ}
    {a : Answer} (h : performRender env (run env depth) tree path w = (.returned a, w')) :
    (∃ views N M, a = .rendered (.ok views) ∧
      w'.host.passes = w.host.passes ++ N ++ [path] ++ M ∧
      (env.NeverRenders → N = [] ∧ M = [])) ∨
    ∃ e N, a = .rendered (.error e) ∧ w' = afterRoutes env (run env depth) tree path w ∧
      w'.host.passes = w.host.passes ++ N ∧ (env.NeverRenders → N = []) := by
  have hnavigate (path data replace) :
      (run env depth (.step (.navigate path data replace))).Leads fun _ => AddsPasses env :=
    addsPasses_run env depth _ nofun
  obtain ⟨N, hN, hnone⟩ : AddsPasses env w (afterRoutes env (run env depth) tree path w) :=
    afterRoutes_moves (lax_addsPasses env).casual tree path hnavigate w
  rcases performRender_cases env (run env depth) tree path w with
    ⟨views, hcase⟩ | ⟨e, hcase⟩ | ⟨o, ho, hcase⟩
  · rw [hcase] at h
    obtain ⟨_, w₁, hend, hanswer⟩ := Run.bind_eq_returned.1 h
    cases hanswer
    obtain ⟨M, hM, hnone'⟩ := passes_endPass env depth tree path
      (afterRoutes env (run env depth) tree path w)
    rw [hend, hN] at hM
    exact .inl ⟨views, N, M, rfl, hM, fun hnever => ⟨hnone hnever, hnone' hnever⟩⟩
  · rw [hcase] at h
    cases h
    exact .inr ⟨e, N, rfl, rfl, hN, hnone⟩
  · rw [hcase] at h
    cases h
    cases ho

/-! ## Calls from outside -/

/-- The path of the pass that a step itself does, if it does one that renders. -/
def Site.ownPass (s : Site ℓ) : Step ℓ → Answer → List String
  | .render, .rendered (.ok _) => s.observed.toList
  | _, _ => []

/-- A step that returns adds the path of its own pass, after passes of listeners that content leads to
and before those of the listener of updates. -/
theorem passes_of_returned {depth : Nat} {s : Step ℓ} {w w' : World ℓ} {a : Answer}
    (h : run env depth (.step s) w = (.returned a, w')) :
    ∃ N M, w'.host.passes = w.host.passes ++ N ++ w.host.ownPass s a ++ M ∧
      (env.NeverRenders → N = [] ∧ M = []) := by
  by_cases hs : s = .render
  · subst hs
    cases depth with
    | zero => cases h
    | succ depth =>
      rcases render_returned h with ⟨rfl, rfl⟩ | ⟨tree, path, w₁, -, hpath, -, hpass, rfl⟩
      · exact ⟨[], [], by simp [Site.ownPass], fun _ => ⟨rfl, rfl⟩⟩
      · have hreleased := (Site.still_release w₁.host).passes_eq
        rcases passes_performRender hpass with
          ⟨views, N, M, rfl, hpasses, hnone⟩ | ⟨e, N, rfl, -, hpasses, hnone⟩
        · refine ⟨N, M, hreleased.trans ?_, hnone⟩
          rw [hpasses, Site.ownPass, hpath]
          rfl
        · refine ⟨N, [], hreleased.trans ?_, fun hnever => ⟨hnone hnever, rfl⟩⟩
          have hown : w.host.ownPass .render (.rendered (.error e)) = [] := rfl
          rw [hpasses, hown, List.append_nil, List.append_nil]
          rfl
  · have hadds := addsPasses_run env depth (.step s) (fun hrender => (hs hrender).elim) w
    rw [h] at hadds
    obtain ⟨N, hN, hnone⟩ := hadds
    have hown : w.host.ownPass s a = [] := by
      cases s <;> first | rfl | exact (hs rfl).elim
    exact ⟨N, [], by rw [hown, List.append_nil, List.append_nil, hN],
      fun hnever => ⟨hnone hnever, rfl⟩⟩

/-- A pass that fails, with content that does not navigate, leaves the site as it is, but for flags
and the log. -/
theorem site_of_failed {depth : Nat} {tree : Tree} {e : RouteError} {w w' : World ℓ}
    (htree : env.tree = some tree) (hstays : Node.ForallOf Content.Stays tree.routes)
    (h : run env depth (.step .render) w = (.returned (.rendered (.error e)), w')) :
    SameButShown w w' := by
  cases depth with
  | zero => cases h
  | succ depth =>
    rcases render_returned h with ⟨hnone, -⟩ | ⟨tree', path, w₁, htree', -, hhandles, hpass, rfl⟩
    · cases hnone
    · obtain rfl := Option.some.inj (htree.symm.trans htree')
      rcases passes_performRender hpass with ⟨_, _, _, hok, -⟩ | ⟨_, _, -, rfl, -⟩
      · cases hok
      · obtain ⟨flags, log, hsame⟩ := sameButShown_afterRoutes hstays path
          { w with host := w.host.hold }
        refine ⟨flags, log, ?_⟩
        rw [hsame]
        exact if_neg fun hsettled => hhandles hsettled.1

open Relation

/-- Updates are the changes of the path between passes that have rendered. A session with a router
that reports updates is opened, and calls bring it to a state `w`, however they end and whatever
content, listeners and the listener of updates do meanwhile. Then the updates are the paths of the
passes that have rendered, in the order in which they have, with repetitions merged. Each step that
returns, a call or not, adds the path that the navigator had at its start if it is a pass that has
rendered; other passes are there only if listeners render. A pass that has failed, with content that
does not navigate, leaves the site as it was, but for flags and the log: its navigator, its histories
and the path rendered last are the same. -/
theorem updates_follow_passes {tree : Tree} (htree : env.tree = some tree)
    (hreports : tree.reportsUpdates = true) {failures : List (Nat × Failure)} {s : Site ℓ}
    (hupdates : s.updates = []) (hpasses : s.passes = []) (hlast : s.lastRendered = none)
    {event : String} {w : World ℓ}
    (hcalls : ReflTransGen (CallEnds env fun _ => True)
      ⟨failures, s.openNavigator env event⟩ w) :
    w.host.updates = w.host.passes.destutter (· ≠ ·) ∧
    w.host.lastRendered = w.host.passes.getLast? ∧
    ∀ depth (step : Step ℓ) a (v v' : World ℓ), run env depth (.step step) v = (.returned a, v') →
      (∃ N M, v'.host.passes = v.host.passes ++ N ++ v.host.ownPass step a ++ M ∧
        (env.NeverRenders → N = [] ∧ M = [])) ∧
      ∀ e, step = .render → a = .rendered (.error e) →
        Node.ForallOf Content.Stays tree.routes →
        ∃ flags log, v'.host = { v.host with flags := flags, log := log } := by
  have hopened : (s.openNavigator env event).Reported := by
    have hattach : s.Still (s.openNavigator env event) := by
      have hopen : s.Still { s with
          navigator := some ⟨env.currentPath s, false, none, .empty, none⟩
          handles := 1 } := Site.still_of_log rfl rfl rfl
      exact hopen.trans (Site.still_attach _ (0, event))
    constructor
    · rw [hattach.updates_eq, hattach.passes_eq, hupdates, hpasses]
      rfl
    · rw [hattach.lastRendered_eq, hattach.passes_eq, hlast, hpasses]
      rfl
  have hreported : w.host.Reported := by
    induction hcalls with
    | refl => exact hopened
    | tail _ hcall ih => exact reported_of_call htree hreports hcall ih
  refine ⟨hreported.updates_eq, hreported.lastRendered_eq, fun depth step a v v' hrun => ?_⟩
  refine ⟨passes_of_returned hrun, ?_⟩
  rintro e rfl rfl hstays
  exact site_of_failed htree hstays hrun

/-- A router that shows content and reports updates, without listeners. -/
def Setup.showing (c : Content) : Setup Unit where
  listen _ _ _ := none
  navigating := .history
  readsCell := false
  ownsHistory := false
  tree := some { routes := [.content c], base := [], matcher := none, reportsUpdates := true }
  boundaries := []

/-- The session with such a router before the first step. -/
def openShowing (c : Content) : World Unit :=
  ⟨[], (Site.start "/" "").openNavigator (.showing c) ""⟩

/-- The world behind a step of a session with such a router. -/
def afterShowing (c : Content) (s : Step Unit) (w : World Unit) : World Unit :=
  (run (.showing c) 8 (.step s) w).2

/-- Content that navigates the first time it is shown. -/
def Content.wandering : Content :=
  .flag "moved" (.text .null)
    (.setFlag "moved" true (.navigate "/b" none false (.text .null)))

/-- Content that fails when a flag is set. -/
def Content.fragile : Content := .flag "broken" (.fail ["down"]) (.text .null)

/-- Three passes with content that navigates in the first one. -/
def wandered : World Unit :=
  afterShowing .wandering .render (afterShowing .wandering .render
    (afterShowing .wandering .render (openShowing .wandering)))

/-- A pass with content that fails from now on, and a navigation. -/
def fractured : World Unit :=
  afterShowing .fragile (.navigate "/c" none false)
    (afterShowing .fragile (.setFlag "broken" true)
      (afterShowing .fragile .render (openShowing .fragile)))

/-- Content navigates from `/` to `/b` in the middle of a pass, which reports the path where it
started; the two passes after it report one update. Content that fails under `/c` leaves the site as
it is. -/
theorem updates_of_passes :
    (wandered.host.passes = ["/", "/b", "/b"] ∧ wandered.host.updates = ["/", "/b"] ∧
      wandered.host.lastRendered = some "/b") ∧
    fractured.host.updates = ["/"] ∧ fractured.host.observed = some "/c" ∧
      ∃ flags log, (afterShowing .fragile .render fractured).host =
        { fractured.host with flags := flags, log := log } := by
  have hwandered : ReflTransGen (CallEnds (.showing .wandering) fun _ => True)
      (openShowing .wandering) wandered :=
    .tail (.tail (.single (callEnds_of_run (s := .render) trivial rfl))
      (callEnds_of_run (s := .render) trivial rfl)) (callEnds_of_run (s := .render) trivial rfl)
  have hfractured : ReflTransGen (CallEnds (.showing .fragile) fun _ => True)
      (openShowing .fragile) fractured :=
    .tail (.tail (.single (callEnds_of_run (s := .render) trivial rfl))
      (callEnds_of_run (s := .setFlag "broken" true) trivial rfl))
      (callEnds_of_run (s := .navigate "/c" none false) trivial rfl)
  obtain ⟨hupdates, hlast, -⟩ := updates_follow_passes rfl rfl rfl rfl rfl hwandered
  obtain ⟨hupdates', -, hstep⟩ := updates_follow_passes rfl rfl rfl rfl rfl hfractured
  have hpasses : wandered.host.passes = ["/", "/b", "/b"] := by decide +kernel
  have hpasses' : fractured.host.passes = ["/"] := by decide +kernel
  rw [hpasses] at hupdates hlast
  rw [hpasses'] at hupdates'
  refine ⟨⟨hpasses, hupdates, hlast⟩, hupdates', by decide +kernel, ?_⟩
  have hfailed : run (.showing .fragile) 8 (.step .render) fractured =
      (.returned (.rendered (.error (.render (.ofChain [] ["down"])))),
        afterShowing .fragile .render fractured) := rfl
  exact (hstep _ _ _ _ _ hfailed).2 _ rfl rfl ⟨⟨trivial, trivial⟩, trivial⟩

end NestedRouting
