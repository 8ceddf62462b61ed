import NestedRouting.Navigation.Channel
import NestedRouting.Outcome

/-!
# Playing with one channel

A session on a single channel of strings. Listeners take steps themselves when they are notified, so
the channel changes while it emits: each emission notifies exactly the listeners that were registered
when it started. Handles are stored under names.
-/

namespace NestedRouting.Broadcast

/-- A step of a session. -/
inductive Step (ℓ : Type)
  /-- Registers a listener, and stores its handle. -/
  | subscribe (id : String) (listener : ℓ)
  /-- Stores a handle of nothing. -/
  | empty (id : String)
  | emit (value : String)
  /-- Removes the listener of a handle. -/
  | unsubscribe (id : String)
  /-- Drops a handle, which removes its listener. -/
  | drop (id : String)
  /-- Drops a handle and keeps its listener. -/
  | detach (id : String)
  /-- Drops the channel. -/
  | dropChannel
  | panic (p : Payload)
  deriving DecidableEq, Inhabited

/-- What a step is answered. -/
inductive Answer
  | nothing
  | flag (b : Bool)
  | noChannel
  deriving DecidableEq, Repr

/-- What happens in a session. An emission is known by its place in the record of what has happened. -/
inductive Event (ℓ : Type)
  /-- A step, from outside or of a listener, has been taken and returns. -/
  | took (step : Step ℓ)
  /-- An emission starts. -/
  | emitting
  /-- An emission calls a listener. -/
  | called (emission listener : Nat)
  /-- The listener returns. -/
  | returned (emission listener : Nat)
  /-- An emission has called all its listeners. -/
  | emitted (emission : Nat)
  deriving DecidableEq

/-- An event with the listeners that are registered afterwards, as the channel has them. -/
structure Moment (ℓ : Type) where
  event : Event ℓ
  registered : List (Nat × Nat)
  deriving DecidableEq

/-- The state of a session. -/
structure State (ℓ : Type) where
  /-- The channel until it is dropped; its listeners are numbered. -/
  channel : Option (Channel Nat)
  /-- All listeners there have been, with their names. -/
  listeners : List (String × ℓ)
  /-- The stored handles: the number of a listener in the channel, or nothing. -/
  handles : List (String × Option Nat)
  /-- The notifications: the name of the listener and the value. -/
  log : List (String × String)
  /-- What has happened so far. The log has only part of it: a listener is logged under a name that
  others can have too, and neither steps nor the ends of notifications are logged. -/
  moments : List (Moment ℓ)

/-- Something that is done in a session. -/
inductive Task (ℓ : Type)
  | step (s : Step ℓ)
  /-- The turns of a listener from the given one on, after it was notified of a value. -/
  | turns (listener turn : Nat) (value : String)

variable {ℓ : Type}

namespace State

/-- A channel without listeners. -/
def start : State ℓ := ⟨some .empty, [], [], [], []⟩

/-- The registered listeners with their numbers. -/
def entries (s : State ℓ) : List (Nat × Nat) := (s.channel.map Channel.entries).getD []

/-- Records an event. -/
def noted (s : State ℓ) (e : Event ℓ) : State ℓ :=
  { s with moments := s.moments ++ [⟨e, s.entries⟩] }

/-- Removes the listener of a handle. -/
def cancel (s : State ℓ) (handle : Option Nat) : State ℓ :=
  match handle with
  | none => s
  | some number => { s with channel := s.channel.map fun c => c.cancel number }

/-- Forgets a handle; its listener stays. -/
def forget (s : State ℓ) (id : String) : State ℓ :=
  { s with handles := s.handles.filter (·.1 ≠ id) }

/-- Stores a handle. The listener of one that had the name is removed. -/
def store (s : State ℓ) (id : String) (handle : Option Nat) : State ℓ :=
  let old := s.handles.lookup id
  let s := { s.forget id with handles := (id, handle) :: (s.forget id).handles }
  s.cancel old.join

/-- The listeners that are registered. -/
def registered (s : State ℓ) : List Nat := (s.channel.map Channel.listeners).getD []

end State

/-- How the listeners of a session take their turns: the steps of a turn, counted from zero, and the
listener that it is from then on, or nothing when it is done. -/
abbrev Listening (ℓ : Type) := ℓ → Nat → String → Option (List (Step ℓ) × ℓ)

/-- A way to do tasks. -/
abbrev Performer (ℓ : Type) := Task ℓ → Run (State ℓ) Empty Answer

/-- Does a task for its effect. -/
def silently (rec : Performer ℓ) (t : Task ℓ) : Run (State ℓ) Empty Unit := do
  let _ ← rec t
  return ()

/-- Notifies a listener: logs the notification, then lets it take its turns. -/
def notify (rec : Performer ℓ) (value : String) (emission number : Nat) :
    Run (State ℓ) Empty Unit := do
  let listener ← Run.gets fun s => s.listeners[number]?
  match listener with
  | none => return ()
  | some (id, _) =>
    Run.modify fun s => { s with log := s.log ++ [(id, value)] }.noted (.called emission number)
    silently rec (.turns number 0 value)
    Run.modify fun s => s.noted (.returned emission number)

/-- Forgets a handle; `remove` tells whether its listener is removed. -/
def endHandle (id : String) (remove : Bool) : Run (State ℓ) Empty Answer := do
  let handle ← Run.gets fun s => s.handles.lookup id
  match handle with
  | none => return .flag false
  | some handle =>
    Run.modify fun s => if remove then (s.forget id).cancel handle else s.forget id
    return .flag true

/-- Does a step. -/
def performStep (rec : Performer ℓ) : Step ℓ → Run (State ℓ) Empty Answer
  | .subscribe id listener => do
    let channel ← Run.gets State.channel
    match channel with
    | none => return .noChannel
    | some c =>
      Run.modify fun s =>
        { s with
          channel := some (c.subscribe s.listeners.length)
          listeners := s.listeners ++ [(id, listener)] }.store id (some c.next)
      return .nothing
  | .empty id => do
    Run.modify fun s => s.store id none
    return .nothing
  | .emit value => do
    let emission ← Run.gets fun s => s.moments.length
    Run.modify fun s => s.noted .emitting
    let listeners ← Run.gets State.registered
    Run.forEach (notify rec value emission) listeners
    Run.modify fun s => s.noted (.emitted emission)
    return .nothing
  | .unsubscribe id | .drop id => endHandle id true
  | .detach id => endHandle id false
  | .dropChannel => do
    Run.modify fun s => { s with channel := none }
    return .nothing
  | .panic p => Run.panic p

/-- Does a step, and records it when it returns. -/
def takeStep (rec : Performer ℓ) (x : Step ℓ) : Run (State ℓ) Empty Answer := do
  let answer ← performStep rec x
  Run.modify fun s => s.noted (.took x)
  return answer

/-- A turn of a listener, and the turns after it. -/
def performTurns (listen : Listening ℓ) (rec : Performer ℓ) (number turn : Nat) (value : String) :
    Run (State ℓ) Empty Answer := do
  let listener ← Run.gets fun s => s.listeners[number]?
  match listener.bind fun l => listen l.2 turn value with
  | none => return .nothing
  | some (steps, after) =>
    Run.modify fun s =>
      { s with listeners := s.listeners.modify number fun l => (l.1, after) }
    Run.forEach (fun step => silently rec (.step step)) steps
    rec (.turns number (turn + 1) value)

/-- Does a task, given a way to do the tasks inside it. -/
def perform (listen : Listening ℓ) (rec : Performer ℓ) : Performer ℓ
  | .step x => takeStep rec x
  | .turns number turn value => performTurns listen rec number turn value

/-- Does a task in which tasks are nested less than `depth` deep. -/
def run (listen : Listening ℓ) : Nat → Performer ℓ
  | 0 => fun _ => Run.exhaust
  | depth + 1 => perform listen (run listen depth)

/-! ## Scripts -/

/-- What a listener does: the value it waits for, if it does not react to every value; how many times
it reacts; and the steps that it takes. -/
inductive Reaction
  | mk (on : Option String) (times : Nat) (steps : List (Step (List Reaction)))

/-- The turns of a listener: one for each reaction. A run is counted before its steps are taken. -/
def Reaction.listen (rs : List Reaction) (turn : Nat) (value : String) :
    Option (List (Step (List Reaction)) × List Reaction) :=
  match rs[turn]? with
  | none => none
  | some (mk on times steps) =>
    if times != 0 && (on.isNone || on == some value) then
      some (steps, rs.set turn (mk on (times - 1) steps))
    else some ([], rs)

mutual

/-- How many steps a reaction can lead to. -/
def Reaction.weight : Reaction → Nat
  | .mk _ times steps => 1 + times * (1 + stepsWeight steps)

/-- How many steps the reactions of a listener can lead to. -/
def reactionsWeight : List Reaction → Nat
  | [] => 0
  | r :: rs => r.weight + reactionsWeight rs

/-- How many steps a step can lead to, itself included. -/
def stepWeight : Step (List Reaction) → Nat
  | .subscribe _ rs => 1 + reactionsWeight rs
  | .empty _ | .emit _ | .unsubscribe _ | .drop _ | .detach _ | .dropChannel | .panic _ => 1

/-- How many steps a list of steps can lead to. -/
def stepsWeight : List (Step (List Reaction)) → Nat
  | [] => 0
  | s :: ss => stepWeight s + stepsWeight ss

end

/-- How each of the given steps ends, and the state after it with the notifications meanwhile. -/
def playAll (depth : Nat) (s : State (List Reaction)) :
    List (Step (List Reaction)) → List (Outcome Empty Answer × State (List Reaction))
  | [] => []
  | x :: steps =>
    let (o, s) := run Reaction.listen depth (.step x) { s with log := [] }
    (o, s) :: playAll depth s steps

/-- Plays a script. On the way down to a task lie at most as many steps as the script can lead to, each
with the turns of one listener. -/
def play (steps : List (Step (List Reaction))) :
    List (Outcome Empty Answer × State (List Reaction)) :=
  let weight := stepsWeight steps
  playAll ((weight + 4) * (weight + 4)) .start steps

end NestedRouting.Broadcast
