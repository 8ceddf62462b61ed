import NestedRouting.Proofs.Session.Leads

/-!
# What steps do

A step of a session reads the site, changes it in one way of its own (`Step.Changes`), and leaves the
rest to re-readings of the path, events and passes. So a kind of code that is closed under
composition (`Act.Closed`) is the kind of a step if it is the kind of these
(`Act.Closed.performStep`), and what listeners and events do follows in the same way. Where the
state decides what a listener does next, its turns are taken apart by `turns_cases`.
-/

namespace NestedRouting

variable {ℓ : Type} {env : Setup ℓ} {rec : Performer ℓ}

/-- The ways in which a step changes the site itself. -/
def Step.Changes (env : Setup ℓ) (f : Site ℓ → Site ℓ) : Step ℓ → Prop
  | .navigate path data inPlace => f = fun s => env.navigate s path data inPlace
  | .attach history event => f = fun s => s.attach (history, event)
  | .detach => f = Site.detach
  | .subscribe id listener => f = fun s => s.subscribe id listener
  | .push history path data => f = fun s => s.changeHistory history fun h => h.push ⟨path, data⟩
  | .replace history path data =>
    f = fun s => s.changeHistory history fun h => h.replace ⟨path, data⟩
  | .hostSubscribe history id event listener =>
    f = fun s => s.hostSubscribe (history, event) id listener
  | .back history | .forward history | .go history _ =>
    ∃ h, f = fun s => s.changeHistory history fun _ => h
  | .unsubscribe id | .drop id => ∃ sub, f = fun s => (s.forget id).cancel sub
  | .keep id => f = fun s => s.forget id
  | .close => f = Site.close
  | .setCell path => f = fun s => { s with cell := path }
  | .setFlag name value => f = fun s => s.setFlag name value
  | .refresh | .dispatch .. | .render | .matchPath .. | .describe | .reset _ | .panic _ => False

open Act

/-- A kind of code on the site of a session that is closed under composition. Code that only reads,
that panics or that lets a boundary forget its failure is of this kind. -/
structure Act.Closed (C : (α : Type) → Act ℓ α → Prop) : Prop where
  pure {α : Type} (a : α) : C α (pure a)
  gets {α : Type} (f : World ℓ → α) : C α (Run.gets f)
  panic {α : Type} (p : Payload) : C α (Run.panic p)
  heal (id : Nat) : C Unit (Run.modify fun w => w.heal id)
  bind {α β : Type} {r : Act ℓ α} {f : α → Act ℓ β} : C α r → (∀ a, C β (f a)) → C β (r >>= f)
  holding {α : Type} {r : Act ℓ α} : C α r → C α (holding r)

namespace Act.Closed

variable {C : (α : Type) → Act ℓ α → Prop} (hC : Closed C)
include hC

/-- The same code for each element of a list. -/
theorem forEach {α : Type} {f : α → Act ℓ Unit} {as : List α} (hf : ∀ a ∈ as, C Unit (f a)) :
    C Unit (Run.forEach f as) := by
  induction as with
  | nil => exact hC.pure ()
  | cons a as ih => exact hC.bind (hf a (.head _)) fun _ => ih fun b hb => hf b (.tail _ hb)

/-- Code for a target that may not be there. -/
theorem onTarget {α : Type} {target : Option α} {r : α → Act ℓ Answer}
    (hr : ∀ a, C Answer (r a)) : C Answer (Act.onTarget target r) := by
  cases target with
  | none => exact hC.pure _
  | some a => exact hr a

/-- A task of which the answer is not looked at. -/
theorem silently {t : Task ℓ} (ht : C Answer (rec t)) : C Unit (Act.silently rec t) :=
  hC.bind ht fun _ => hC.pure ()

/-- A change for which the navigator must be there. -/
theorem onNavigator {f : Site ℓ → Site ℓ} (hf : C Unit (change f)) :
    C Answer (onNavigator f) :=
  hC.bind (hC.gets _) fun _ => hC.onTarget fun _ => hC.bind hf fun _ => hC.pure _

/-- A change for which the history must be there. -/
theorem onHistory {history : Nat} {f : Site ℓ → Site ℓ} (hf : C Unit (change f)) :
    C Answer (onHistory env history f) :=
  hC.bind (hC.gets _) fun _ => hC.onTarget fun _ => hC.bind hf fun _ => hC.pure _

/-- The end of a subscription is code of the kind of what is left behind it. -/
theorem endSubscription {id : String} {remove : Bool}
    (hf : ∀ sub, C Unit (change fun s => let s := s.forget id; if remove then s.cancel sub else s)) :
    C Answer (endSubscription id remove) := by
  refine hC.bind (hC.gets _) fun sub => ?_
  cases sub with
  | none => exact hC.pure _
  | some sub => exact hC.bind (hf sub) fun _ => hC.pure _

/-- A traversal is code of the kind of the history behind it and of the event. -/
theorem traverse {history : Nat} {delta : Int} (hfire : C Answer (rec (.fire (history, popstate))))
    (hf : ∀ h, C Unit (change fun s => s.changeHistory history fun _ => h)) :
    C Answer (traverse env rec history delta) := by
  refine hC.bind (hC.gets _) fun _ => hC.onTarget fun h => ?_
  cases h.go delta with
  | none => exact hC.pure _
  | some h =>
    exact hC.bind (hf h) fun _ => hC.bind (hC.silently hfire) fun _ => hC.pure _

/-- A step is code of the kind of its changes, and of the re-readings, events and passes inside it. -/
theorem performStep (hrefresh : C Answer (rec .refresh))
    (hfire : ∀ source, C Answer (rec (.fire source))) (s : Step ℓ)
    (hchange : ∀ f, s.Changes env f → C Unit (change f))
    (hrender : s = .render → ∀ tree, env.tree = some tree → ∀ path,
      C Answer (performRender env rec tree path)) :
    C Answer (performStep env rec s) := by
  cases s with
  | navigate path data replace =>
    refine hC.bind (hC.gets _) fun _ => hC.onTarget fun _ => hC.holding ?_
    exact hC.bind (hchange _ rfl) fun _ => hC.bind (hC.silently hrefresh) fun _ => hC.pure _
  | refresh =>
    exact hC.bind (hC.gets _) fun _ => hC.onTarget fun _ => hC.holding hrefresh
  | attach =>
    exact hC.bind (hC.gets _) fun _ => hC.onTarget fun _ => hC.onNavigator (hchange _ rfl)
  | detach | subscribe => exact hC.onNavigator (hchange _ rfl)
  | push | replace | hostSubscribe => exact hC.onHistory (hchange _ rfl)
  | back | forward | go => exact hC.traverse (hfire _) fun h => hchange _ ⟨h, rfl⟩
  | dispatch =>
    exact hC.bind (hC.gets _) fun _ => hC.onTarget fun _ =>
      hC.bind (hC.silently (hfire _)) fun _ => hC.pure _
  | unsubscribe | drop => exact hC.endSubscription fun sub => hchange _ ⟨sub, rfl⟩
  | keep => exact hC.endSubscription fun _ => hchange _ rfl
  | render =>
    have hread : NestedRouting.performStep env rec .render =
        (site Site.reachable? >>= fun navigator => Act.onTarget navigator fun n =>
          Act.onTarget env.tree fun tree => Act.holding (performRender env rec tree n.path)) := by
      funext w
      rw [site_bind]
      show Act.onTarget (w.host.reachable?.bind fun n => env.tree.bind fun t => some (t, n.path))
        _ w = _
      cases w.host.reachable? with
      | none => rfl
      | some n => cases env.tree <;> rfl
    rw [hread]
    refine hC.bind (hC.gets _) fun _ => hC.onTarget fun n => ?_
    cases htree : env.tree with
    | none => exact hC.pure _
    | some tree => exact hC.holding (hrender rfl tree htree n.path)
  | matchPath =>
    exact hC.bind (hC.gets _) fun _ => hC.onTarget fun _ => hC.onTarget fun _ => hC.pure _
  | describe =>
    have hread : NestedRouting.performStep env rec .describe =
        (Run.gets id >>= fun w => Act.onTarget (env.tree? w.host) fun p => Pure.pure
          (.described (Node.describeAll (fun id => (w.failure? id).isSome) p.1.routes) p.2)) := rfl
    rw [hread]
    exact hC.bind (hC.gets id) fun w => hC.onTarget fun _ => hC.pure _
  | close | setCell | setFlag => exact hC.bind (hchange _ rfl) fun _ => hC.pure _
  | reset name =>
    simp only [NestedRouting.performStep]
    split
    · exact hC.pure _
    · exact hC.bind (hC.heal _) fun _ => hC.pure _
  | panic p => exact hC.panic p

/-- A listener is notified of an event. -/
theorem notify {number : Nat} (hlogged : ∀ id, C Unit (change fun s => s.logged (.hostHeard id)))
    (hturns : C Answer (rec (.turns number 0 none))) : C Unit (notify rec none number) := by
  refine hC.bind (hC.gets _) fun listener => ?_
  cases listener with
  | none => exact hC.pure ()
  | some l => exact hC.bind (hlogged l.1) fun _ => hC.silently hturns

/-- A listener is notified of a path. -/
theorem tell {path : String} {number : Nat}
    (hlogged : ∀ id,
      C Unit (change fun s => (s.logged (.heard id path)).noted (.heard number path)))
    (hturns : C Answer (rec (.turns number 0 (some path)))) :
    C Unit (NestedRouting.notify rec (some path) number) := by
  refine hC.bind (hC.gets _) fun listener => ?_
  cases listener with
  | none => exact hC.pure ()
  | some l => exact hC.bind (hlogged l.1) fun _ => hC.silently hturns

/-- To read the path again is code of the kind of what it does to the navigator, which goes on observing
what it observes, and of rounds. -/
theorem performRefresh
    (hnavigator : ∀ f : Navigator → Navigator, (∀ n, (f n).attachment = n.attachment) →
      C Unit (change fun s => s.changeNavigator f))
    (hstop : ∀ f : Navigator → Navigator, (∀ n, (f n).attachment = n.attachment) →
      ∀ r : Act ℓ Unit, C Unit r → C Unit (atEnd r fun s => s.changeNavigator f))
    (hround : ∀ path, C Answer (rec (.round path))) : C Answer (performRefresh env rec) := by
  refine hC.bind (hC.gets _) fun path => hC.bind (hC.gets _) fun n => ?_
  cases n with
  | none => exact hC.pure _
  | some n =>
    dsimp only
    split
    · exact hC.pure _
    · split
      · exact hC.bind (hnavigator _ fun _ => rfl) fun _ => hC.pure _
      · refine hC.bind (hnavigator _ fun _ => rfl) fun _ => ?_
        refine hC.bind (hstop _ ?_ _ (hC.silently (hround path))) fun _ => hC.pure _
        exact fun _ => rfl

/-- A round is code of the kind of its notifications, and of the next round. -/
theorem performRound {path : String} (hnoted : C Unit (change fun s => s.noted (.round path)))
    (hnotify : ∀ number, C Unit (NestedRouting.notify rec (some path) number))
    (hnext : C Unit (change fun s => s.changeNavigator fun n => { n with pending := none }))
    (hround : ∀ path, C Answer (rec (.round path))) : C Answer (performRound rec path) := by
  refine hC.bind hnoted fun _ => hC.bind (hC.gets _) fun listeners => ?_
  refine hC.bind (hC.forEach fun number _ => hnotify number) fun _ => ?_
  have htake : C (Option String) takePending :=
    hC.bind (hC.gets _) fun _ => hC.bind hnext fun _ => hC.pure _
  refine hC.bind htake fun waiting => ?_
  cases waiting with
  | none => exact hC.pure _
  | some next => exact hround next

/-- An event is code of the kind of what its hearers do. -/
theorem performFire (hrefresh : C Answer (rec .refresh))
    (hnotify : ∀ number, C Unit (NestedRouting.notify rec none number)) (source : Source) :
    C Answer (performFire rec source) := by
  refine hC.bind (hC.gets _) fun hearers => ?_
  refine hC.bind (hC.forEach fun hearer _ => ?_) fun _ => hC.pure _
  cases hearer with
  | listener number => exact hnotify number
  | navigator =>
    refine hC.bind (hC.gets _) fun navigator => ?_
    split
    · exact hC.holding (hC.silently hrefresh)
    · exact hC.pure ()

/-- The steps of a turn, one after the other, and the turns after it. -/
theorem turn {number turn : Nat} {value : Option String} {steps : List (Step ℓ)}
    (hstep : ∀ s ∈ steps, C Answer (rec (.step s)))
    (hlogged : ∀ s answer, C Unit (change fun site => site.logged (.nested s answer)))
    (hturns : C Answer (rec (.turns number (turn + 1) value))) :
    C Answer (Run.forEach (nestedStep rec) steps >>= fun _ =>
      rec (.turns number (turn + 1) value)) :=
  hC.bind (hC.forEach fun s hs => hC.bind (hstep s hs) fun answer => hlogged s answer)
    fun _ => hturns

/-- The end of a pass is code of the kind of the note that it leaves, and of what the listener of updates
does. -/
theorem endPass {tree : Tree} {path : String} (hmark : C Unit (change (markRendered tree path)))
    (hturns : ∀ number value, C Answer (rec (.turns number 0 value))) :
    C Unit (endPass rec tree path) := by
  refine hC.bind (hC.gets _) fun last => hC.bind hmark fun _ => ?_
  split
  · cases tree.updater with
    | none => exact hC.pure _
    | some number => exact hC.silently (hturns number _)
  · exact hC.pure _

end Act.Closed

/-- A listener that takes no turn does nothing; one that does changes, takes the steps of the turn,
and goes on. -/
theorem turns_cases (env : Setup ℓ) (rec : Performer ℓ) (number turn : Nat)
    (value : Option String) (w : World ℓ) :
    performTurns env rec number turn value w = (pure Answer.nothing : Act ℓ Answer) w ∨
    ∃ l steps after, l ∈ w.host.listeners ∧
      env.listen l.2 turn value = some (steps, after) ∧
      performTurns env rec number turn value w =
        (change (fun s => { s with
            listeners := s.listeners.modify number fun l => (l.1, after) }) >>= fun _ =>
          Run.forEach (nestedStep rec) steps >>= fun _ =>
            rec (.turns number (turn + 1) value)) w := by
  unfold performTurns
  rw [site_bind]
  cases hlisten : (w.host.listeners[number]?).bind fun l => env.listen l.2 turn value with
  | none => exact .inl rfl
  | some p =>
    obtain ⟨l, hl, hlisten⟩ := Option.bind_eq_some_iff.1 hlisten
    exact .inr ⟨l, p.1, p.2, List.mem_of_getElem? hl, hlisten, rfl⟩

/-! ## Calls from outside -/

/-- A call from outside that has ended, by returning or by unwinding. -/
inductive CallEnds (env : Setup ℓ) (permitted : Step ℓ → Prop) : World ℓ → World ℓ → Prop
  | call {w w' : World ℓ} {depth : Nat} {s : Step ℓ} {o : Outcome Empty Answer} : permitted s →
    run env depth (.step s) w = (o, w') → o ≠ .exhausted → CallEnds env permitted w w'

/-- A permitted call that is found to end. -/
theorem callEnds_of_run {permitted : Step ℓ → Prop} {depth : Nat} {s : Step ℓ} {w : World ℓ}
    (hs : permitted s) (h : ((run env depth (.step s) w).1 matches .exhausted) = false) :
    CallEnds env permitted w (run env depth (.step s) w).2 := by
  refine .call hs rfl fun hexhausted => ?_
  rw [hexhausted] at h
  cases h

end NestedRouting
