import NgxNats.Verif.Calm

/-!
# The connected and disconnected callbacks

The callbacks that a client received, read off the log, and the changes that call none of them.
-/
namespace NgxNats

open Program (Leads Moves)

/-- The callback that an event is for a client: `connected` or `disconnected`. -/
def Event.callback (i : Nat) : Event → Option Bool
  | .connected j => if j = i then some true else none
  | .disconnected j => if j = i then some false else none
  | _ => none

/-- The event that tells a client of a connection, or of its loss. -/
def Event.tells (i : Nat) : Bool → Event
  | true => .connected i
  | false => .disconnected i

/-- It is a callback of that client. -/
theorem callback_tells (i : Nat) (call : Bool) : (Event.tells i call).callback i = some call := by
  cases call with
  | true => exact if_pos rfl
  | false => exact if_pos rfl

/-- It is no callback of another client. -/
theorem callback_tells_other {i j : Nat} (other : j ≠ i) (call : Bool) :
    (Event.tells i call).callback j = none := by
  cases call with
  | true => exact if_neg other.symm
  | false => exact if_neg other.symm

/-- The connected and disconnected callbacks of a client, in order. -/
def callbacks (i : Nat) (log : List Event) : List Bool := log.filterMap (Event.callback i)

/-- Connected, disconnected, connected, disconnected, and so on. -/
def Alternates (received : List Bool) : Prop :=
  ∀ n call, received[n]? = some call → call = decide (n % 2 = 0)

/-- Callbacks that alternate, the last one being `connected` or not. -/
def Turned (received : List Bool) (on : Bool) : Prop :=
  Alternates received ∧ received.length % 2 = on.toNat

/-- No callbacks yet. -/
theorem turned_nil : Turned [] false := by
  constructor
  · intro n call found
    simp at found
  · rfl

/-- The callback that is due. -/
theorem Turned.concat {received : List Bool} {call : Bool} (turned : Turned received (!call)) :
    Turned (received ++ [call]) call := by
  obtain ⟨alternates, parity⟩ := turned
  constructor
  · intro n found at_
    by_cases inside : n < received.length
    · rw [List.getElem?_append_left inside] at at_
      exact alternates n found at_
    · rw [List.getElem?_append_right (Nat.not_lt.mp inside)] at at_
      have last : n - received.length = 0 := by
        by_contra beyond
        rw [List.getElem?_eq_none (by simp only [List.length_singleton]; omega)] at at_
        cases at_
      rw [last] at at_
      cases at_
      have same : n = received.length := by omega
      rw [same, parity]
      cases call with
      | false => rfl
      | true => rfl
  · rw [List.length_append, List.length_singleton]
    cases call with
    | false =>
      simp only [Bool.not_false, Bool.toNat_true, Bool.toNat_false] at parity ⊢
      omega
    | true =>
      simp only [Bool.not_true, Bool.toNat_true, Bool.toNat_false] at parity ⊢
      omega

/-- Every client with a `disconnected` callback has had its callbacks in turn. -/
def Balanced (w : World) : Prop :=
  ∀ i client, w.clients[i]? = some client → client.disconnected = true →
    Alternates (callbacks i w.log)

/-- The callbacks alternate, and `on` says whose last one was `connected`. -/
structure Paired (w : World) (on : Nat → Bool) : Prop where
  unregistered : ∀ i, w.clients.length ≤ i → callbacks i w.log = []
  turned : ∀ i client, w.clients[i]? = some client → client.disconnected = true →
    Turned (callbacks i w.log) (on i)

variable {env : Env} {k : Calls} {w w' : World} {on : Nat → Bool}

/-- Callbacks in turn alternate. -/
theorem Paired.balanced (paired : Paired w on) : Balanced w := by
  intro i client registered told
  exact (paired.turned i client registered told).1

/-- Only the registered clients count. -/
theorem Paired.congr {on' : Nat → Bool} (paired : Paired w on)
    (same : ∀ i, i < w.clients.length → on' i = on i) : Paired w on' := by
  constructor
  · exact paired.unregistered
  · intro i client registered told
    have inside := (List.getElem?_eq_some_iff.mp registered).1
    rw [same i inside]
    exact paired.turned i client registered told

/-- A client's callbacks in two logs are those in the one and those in the other. -/
@[simp] theorem callbacks_append (i : Nat) (first second : List Event) :
    callbacks i (first ++ second) = callbacks i first ++ callbacks i second :=
  List.filterMap_append

/-- A change that keeps the clients and the connection's state; callbacks may have been called. -/
structure Still (w w' : World) : Prop where
  dataSet : w'.dataSet = w.dataSet
  reconnectTimer : w'.reconnectTimer = w.reconnectTimer
  clients : w'.clients = w.clients
  attached : w'.attached = w.attached
  okayed : w'.nc.state.connectOkayed = w.nc.state.connectOkayed
  ready : w.nc.state = stateReady → w'.nc.state = stateReady
  live : w'.live.isSome = w.live.isSome
  formed : w.writeBuf.WellFormed → w'.writeBuf.WellFormed

/-- Such a change during which no client was told of a connection. -/
structure Quiet (w w' : World) : Prop extends Still w w' where
  callbacks : ∀ i, callbacks i w'.log = callbacks i w.log

/-- Where nothing happens everything stays still. -/
theorem Still.refl (w : World) : Still w w := ⟨rfl, rfl, rfl, rfl, rfl, id, rfl, id⟩

/-- Two changes that keep still make one. -/
theorem Still.trans {w'' : World} (first : Still w w') (second : Still w' w'') : Still w w'' where
  dataSet := second.dataSet.trans first.dataSet
  reconnectTimer := second.reconnectTimer.trans first.reconnectTimer
  clients := second.clients.trans first.clients
  attached := second.attached.trans first.attached
  okayed := second.okayed.trans first.okayed
  ready := second.ready ∘ first.ready
  live := second.live.trans first.live
  formed := second.formed ∘ first.formed

/-- Where nothing happens no client is told. -/
instance : Std.Refl Quiet where
  refl w := ⟨.refl w, fun _ => rfl⟩

/-- Two quiet changes make one. -/
instance : IsTrans World Quiet where
  trans _ _ _ first second :=
    ⟨first.toStill.trans second.toStill, fun i => (second.callbacks i).trans (first.callbacks i)⟩

/-- The turns depend on the clients and their callbacks only. -/
theorem Paired.keep (paired : Paired w on) (clients : w'.clients = w.clients)
    (callbacks : ∀ i, callbacks i w'.log = NgxNats.callbacks i w.log) : Paired w' on := by
  constructor
  · intro i beyond
    rw [clients] at beyond
    rw [callbacks, paired.unregistered i beyond]
  · intro i client registered told
    rw [clients] at registered
    rw [callbacks]
    exact paired.turned i client registered told

/-- Where no client is told the callbacks stay in turn. -/
theorem Paired.quiet (paired : Paired w on) (quiet : Quiet w w') : Paired w' on :=
  paired.keep quiet.clients quiet.callbacks

/-- A change of the state that the log does not show. -/
theorem Still.quiet (still : Still w w') (log : w'.log = w.log) : Quiet w w' :=
  ⟨still, fun i => by rw [log]⟩

/-- An event that is no callback. -/
theorem callbacks_silent {event : Event} (silent : ∀ i, event.callback i = none) (i : Nat)
    (log : List Event) : callbacks i (log ++ [event]) = callbacks i log := by
  rw [callbacks_append]
  simp [callbacks, silent i]

/-- A change of the state and an event that is no such callback. -/
theorem Still.emitted {event : Event} (still : Still w w') (log : w'.log = w.log ++ [event])
    (silent : ∀ i, event.callback i = none) : Quiet w w' :=
  ⟨still, fun i => by rw [log, callbacks_silent silent]⟩

/-- A calm event is no callback. -/
theorem callback_of_calm {event : Event} (calm : event.calm = true) (i : Nat) :
    event.callback i = none := by
  cases event with
  | connected => cases calm
  | disconnected => cases calm
  | _ => rfl

/-- A calm change is quiet. -/
theorem Calm.quiet (calm : Calm w w') : Quiet w w' := by
  refine ⟨⟨calm.dataSet, calm.reconnectTimer, calm.clients, calm.attached, calm.okayed, calm.ready,
    calm.live, calm.formed⟩, fun i => ?_⟩
  obtain ⟨events, log, calm⟩ := calm.log
  have none : callbacks i events = [] := by
    apply List.filterMap_eq_nil_iff.mpr
    exact fun event inside => callback_of_calm (calm event inside) i
  rw [log, callbacks_append, none, List.append_nil]

/-- A question to the environment is quiet. -/
theorem ask_quiet {α : Type} (answer : Nat → α) (w : World) : Moves Quiet (ask answer) w :=
  (ask_calm answer w).mono fun _ => Calm.quiet

/-- An event that tells no client is quiet. -/
theorem emit_quiet {event : Event} (silent : ∀ i, event.callback i = none) (w : World) :
    Moves Quiet (emit event) w :=
  Still.emitted ⟨rfl, rfl, rfl, rfl, rfl, id, rfl, id⟩ rfl silent

/-- Taking in bytes is quiet. -/
theorem receiveBytes_quiet (bytes : List UInt8) (w : World) :
    Moves Quiet (receiveBytes bytes) w :=
  Still.emitted ⟨rfl, rfl, rfl, rfl, rfl, id, rfl, id⟩ rfl fun _ => rfl

/-- The choice of the next server is quiet. -/
theorem nextServer_quiet (w : World) : Moves Quiet (nextServer env) w := by
  apply Moves.get
  split
  · refine Moves.bind (Moves.modify (Still.quiet ⟨rfl, rfl, rfl, rfl, rfl, id, rfl, id⟩ rfl)) ?_
    intro _ w₁ _
    exact Moves.pure _ w₁
  · refine Moves.bind (Moves.modify (Still.quiet ⟨rfl, rfl, rfl, rfl, rfl, id, rfl, id⟩ rfl)) ?_
    intro _ w₁ _
    exact Moves.pure _ w₁

end NgxNats
