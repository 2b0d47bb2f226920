import NgxNats.Verif.Upkeep
import NgxNats.Lib.History
import Mathlib.Data.List.Perm.Subperm

/-!
# Rounds of connection attempts

Between two armings of the reconnect timer the servers are tried in increasing order, each at most
once. So a round goes on from the server that was lost and does not come back to it: the lost
server is not tried again before the module waits.
-/
namespace NgxNats

open Program (Leads Moves)
open History (Throughout since)

/-- The reconnect timer was set. -/
def Event.isArmed : Event → Bool
  | .armed => true
  | _ => false

/-- The connection was forgotten. -/
def Event.isClosed : Event → Bool
  | .closed _ => true
  | _ => false

/-- The server that an event is an attempt for. -/
def Event.attempted : Event → Option Nat
  | .attempt server => some server
  | _ => none

/-- The servers tried, in order. -/
def attempts (log : List Event) : List Nat := log.filterMap Event.attempted

/-- An attempt is for a configured server behind all those tried since the timer was set. -/
def Orderly (servers : Nat) (before : List Event) (event : Event) : Prop :=
  ∀ i, event = .attempt i →
    i < servers ∧ ∀ j, .attempt j ∈ since Event.isArmed before → j < i

/-- A connection that is lost was tried for since the timer was set. The socket of a connection
structure that was already forgotten does not count. -/
def LossKnown (before : List Event) (event : Event) : Prop :=
  event = .shut → .opened ∈ since Event.isClosed before →
    ∃ server, .attempt server ∈ since Event.isArmed before

/-- The current index is that of a server, or -1 before the first attempt. -/
structure InRange (env : Env) (w : World) : Prop where
  formed : w.writeBuf.WellFormed
  lastIndex : w.lastIndex = 0
  lower : -1 ≤ w.currIndex
  upper : w.currIndex < env.servers

/-- The indices are in range and the attempts in order. -/
structure Indexed (env : Env) (w : World) : Prop extends InRange env w where
  orderly : Throughout (Orderly env.servers) w.log
  lossKnown : Throughout LossKnown w.log

/-- What an initialised module keeps about its attempts between calls. -/
structure Rounds (env : Env) (w : World) : Prop extends Indexed env w where
  dataSet : w.dataSet = true
  tried : ∀ i : Nat, .attempt i ∈ since Event.isArmed w.log → i ≤ w.currIndex
  opened : .opened ∈ since Event.isClosed w.log → w.attached = true
  current : w.attached = true → w.live.isSome = true →
    w.reconnectTimer = none ∧ ∃ server, .attempt server ∈ since Event.isArmed w.log

/-- The state in which the module connects: nothing is open or scheduled. -/
structure Unbound (env : Env) (w : World) : Prop extends Rounds env w where
  unscheduled : w.reconnectTimer = none
  dark : w.attached = true → w.live.isSome = false

variable {env : Env} {k : Calls} {w w' : World}

/-- Events that are no attempt and no loss do not matter for the order. -/
theorem Indexed.append (events : List Event) (indexed : Indexed env w)
    (attempt : ∀ i, .attempt i ∉ events) (shut : .shut ∉ events) :
    Throughout (Orderly env.servers) (w.log ++ events) ∧
    Throughout LossKnown (w.log ++ events) := by
  constructor
  · apply indexed.orderly.append
    rintro event inside before i rfl
    exact absurd inside (attempt i)
  · apply indexed.lossKnown.append
    rintro event inside before rfl
    exact absurd inside shut

/-- What has nothing to do with the attempts keeps the rounds. -/
theorem Rounds.apart (rounds : Rounds env w) (apart : Apart w w') : Rounds env w' := by
  obtain ⟨events, log, aparts⟩ := apart.log
  have unarmed : ∀ event ∈ events, event.isArmed = false := by
    intro event inside
    have apart := aparts event inside
    cases event with
    | armed => cases apart
    | _ => rfl
  have unclosed : ∀ event ∈ events, event.isClosed = false := by
    intro event inside
    have apart := aparts event inside
    cases event with
    | closed => cases apart
    | _ => rfl
  have attempt (i : Nat) : .attempt i ∉ events := fun inside =>
    absurd (aparts _ inside) Bool.false_ne_true
  have opened : .opened ∉ events := fun inside => absurd (aparts _ inside) Bool.false_ne_true
  have shut : .shut ∉ events := fun inside => absurd (aparts _ inside) Bool.false_ne_true
  obtain ⟨orderly, lossKnown⟩ := rounds.append events attempt shut
  refine ⟨⟨⟨apart.formed rounds.formed, ?_, ?_, ?_⟩, ?_, ?_⟩, ?_, ?_, ?_, ?_⟩
  · rw [apart.lastIndex, rounds.lastIndex]
  · rw [apart.currIndex]
    exact rounds.lower
  · rw [apart.currIndex]
    exact rounds.upper
  · rw [log]
    exact orderly
  · rw [log]
    exact lossKnown
  · rw [apart.dataSet, rounds.dataSet]
  · intro i inside
    rw [log, History.since_append _ unarmed] at inside
    rw [apart.currIndex]
    exact rounds.tried i ((List.mem_append.mp inside).resolve_right (attempt i))
  · intro inside
    rw [log, History.since_append _ unclosed] at inside
    rw [apart.attached]
    exact rounds.opened ((List.mem_append.mp inside).resolve_right opened)
  · rw [apart.attached, apart.live, apart.reconnectTimer, log, History.since_append _ unarmed]
    intro attached live
    obtain ⟨unscheduled, server, inside⟩ := rounds.current attached live
    exact ⟨unscheduled, server, List.mem_append_left events inside⟩

/-- Connecting goes on with the round, and so do the callbacks. -/
structure CallsRound (env : Env) (k : Calls) : Prop where
  connect : ∀ {w}, Unbound env w → Leads k.connect w (fun _ => Rounds env) (Indexed env)
  callback : ∀ {w} call, Rounds env w →
    Leads (k.callback call) w (fun _ => Rounds env) (Indexed env)

/-- A socket that was closed. -/
theorem Rounds.shutDown (rounds : Rounds env w) :
    Rounds env w.shutDown := by
  have dark := live_shutDown w
  cases live : w.live.isSome with
  | false =>
    have log : w.shutDown.log = w.log := by simp [World.shutDown, live]
    refine ⟨⟨⟨rounds.formed, rounds.lastIndex, rounds.lower, rounds.upper⟩, ?_, ?_⟩,
      rounds.dataSet, ?_, ?_, ?_⟩
    · rw [log]
      exact rounds.orderly
    · rw [log]
      exact rounds.lossKnown
    · rw [log]
      exact rounds.tried
    · rw [log]
      exact rounds.opened
    · intro _ live'
      rw [dark] at live'
      cases live'
  | true =>
    have log : w.shutDown.log = w.log ++ [.shut] := by simp [World.shutDown, live]
    refine ⟨⟨⟨rounds.formed, rounds.lastIndex, rounds.lower, rounds.upper⟩, ?_, ?_⟩,
      rounds.dataSet, ?_, ?_, ?_⟩
    · rw [log, History.throughout_concat]
      refine ⟨rounds.orderly, ?_⟩
      rintro i ⟨⟩
    · rw [log, History.throughout_concat]
      refine ⟨rounds.lossKnown, ?_⟩
      intro _ inside
      exact (rounds.current (rounds.opened inside) live).2
    · rw [log, History.since_unmarked _ rfl]
      intro i inside
      exact rounds.tried i (by simpa using inside)
    · rw [log, History.since_unmarked _ rfl]
      intro inside
      exact rounds.opened (by simpa using inside)
    · intro _ live'
      rw [dark] at live'
      cases live'

/-- A connection that was forgotten. -/
theorem Rounds.abandoned (rounds : Rounds env w) (reason : Reason) :
    Rounds env (w.abandoned reason) := by
  obtain ⟨orderly, lossKnown⟩ := rounds.append [.closed reason]
    (by simp) (by simp)
  refine ⟨⟨⟨rounds.formed.reset, rounds.lastIndex, rounds.lower, rounds.upper⟩, orderly, lossKnown⟩,
    rounds.dataSet, ?_, ?_, ?_⟩
  · intro i inside
    rw [World.abandoned, History.since_unmarked _ rfl] at inside
    exact rounds.tried i (by simpa using inside)
  · intro inside
    rw [World.abandoned, History.since_marked _ rfl] at inside
    cases inside
  · intro attached
    cases attached

/-- Deleting the timer makes the module ready to connect. -/
theorem Rounds.unbind (rounds : Rounds env w)
    (dark : w.attached = true → w.live.isSome = false) :
    Unbound env { w with reconnectTimer := none } := by
  refine ⟨⟨⟨⟨rounds.formed, rounds.lastIndex, rounds.lower, rounds.upper⟩, rounds.orderly,
    rounds.lossKnown⟩, rounds.dataSet, rounds.tried, rounds.opened, ?_⟩, rfl, dark⟩
  intro attached live
  exact ⟨rfl, (rounds.current attached live).2⟩

/-- The state after the reconnect timer was set. -/
def World.armed (w : World) (env : Env) : World := { w with
  currIndex := -1
  reconnectTimer := some env.reconnectInterval
  log := w.log ++ [.armed] }

/-- Setting the timer. -/
theorem addReconnectTimer_run (unscheduled : w.reconnectTimer = none) :
    addReconnectTimer env w = (.ok (), w.armed env) := by
  unfold addReconnectTimer
  rw [Program.get_bind, if_pos unscheduled]
  rfl

/-- Setting the timer ends the round. -/
theorem Rounds.armed (rounds : Rounds env w) (dark : w.attached = true → w.live.isSome = false) :
    Rounds env (w.armed env) := by
  obtain ⟨orderly, lossKnown⟩ := rounds.append [.armed] (by simp) (by simp)
  refine ⟨⟨⟨rounds.formed, rounds.lastIndex, Int.le_refl _, ?_⟩, orderly, lossKnown⟩,
    rounds.dataSet, ?_, ?_, ?_⟩
  · change (-1 : Int) < env.servers
    omega
  · intro i inside
    rw [World.armed, History.since_marked _ rfl] at inside
    cases inside
  · intro inside
    rw [World.armed, History.since_unmarked _ rfl] at inside
    exact rounds.opened (by simpa using inside)
  · intro attached live
    exact absurd ((dark attached).symm.trans live) Bool.false_ne_true

/-- Arming the timer begins a new round when no socket is open. -/
theorem addReconnectTimer_rounds (rounds : Rounds env w)
    (dark : w.attached = true → w.live.isSome = false) :
    Leads (addReconnectTimer env) w (fun _ => Rounds env) (Indexed env) := by
  by_cases unscheduled : w.reconnectTimer = none
  · exact Leads.of_ok (addReconnectTimer_run unscheduled) (rounds.armed dark)
  · apply Leads.get
    rw [if_neg unscheduled]
    exact Leads.pure rounds

/-- Closing the connection keeps the attempts in order, also where it reconnects. -/
theorem closeConnection_rounds (calls : CallsRound env k) (rounds : Rounds env w)
    (reason : Reason) :
    Leads (closeConnection env k reason true) w (fun _ => Rounds env) (Indexed env) := by
  refine closeConnection_through (Rounds env) ?_ rounds.shutDown ?_ ?_
  · exact fun _ => ⟨⟨rounds.formed, rounds.lastIndex, rounds.lower, rounds.upper⟩, rounds.orderly,
      rounds.lossKnown⟩
  · intro i w₁ rounds₁
    exact tell_through rfl Rounds.apart calls.callback rounds₁
  · intro immediate w₁ rounds₁
    have abandoned := rounds₁.abandoned reason
    have dark : (w₁.abandoned reason).attached = true →
        (w₁.abandoned reason).live.isSome = false :=
      fun attached => absurd attached Bool.false_ne_true
    apply abandon_through
    · exact calls.connect (abandoned.unbind dark)
    · exact addReconnectTimer_rounds abandoned dark

/-- The order of the attempts survives what the module does while it is connected. -/
theorem CallsRound.keeps (calls : CallsRound env k) :
    Keeps env k (Rounds env) (Indexed env) :=
  Keeps.ofApart (fun rounds => rounds.dataSet) (fun rounds => rounds.formed)
    (fun rounds => rounds.toIndexed) Rounds.apart
    (fun reason rounds => closeConnection_rounds calls rounds reason) calls.callback

/-- The servers that are left to try in this round. -/
def remaining (env : Env) (w : World) : Nat :=
  if w.currIndex < 0 then env.servers else env.servers - 1 - w.currIndex.toNat

/-- The next server is the first of a new round or the one after the last. -/
theorem nextServer_run (range : InRange env w) (configured : 0 < env.servers) :
    nextServer env w = (.ok (decide (0 < remaining env w)),
      { w with currIndex := if 0 < remaining env w then w.currIndex + 1 else 0 }) := by
  have lower := range.lower
  have upper := range.upper
  unfold nextServer
  rw [Program.get_bind, Program.ite_run, Program.modify_bind, Program.modify_bind,
    range.lastIndex]
  by_cases fresh : w.currIndex < 0
  · have start : w.currIndex = -1 := by omega
    have left : 0 < remaining env w := by rwa [remaining, if_pos fresh]
    rw [if_pos fresh, if_pos left, start, decide_eq_true left]
    rfl
  · rw [if_neg fresh]
    by_cases left : 0 < remaining env w
    · have more : ¬(env.servers : Int) ≤ w.currIndex + 1 := by
        rw [remaining, if_neg fresh] at left
        omega
      have other : w.currIndex + 1 ≠ 0 := by omega
      rw [if_pos left, if_neg more, decide_eq_true left, decide_eq_true other]
      rfl
    · have done : (env.servers : Int) ≤ w.currIndex + 1 := by
        rw [remaining, if_neg fresh] at left
        omega
      rw [if_neg left, if_pos done, decide_eq_false left]
      rfl

/-- The state in which a server was chosen: it was not tried in this round. -/
structure Chosen (env : Env) (w : World) : Prop extends Unbound env w where
  chosen : 0 ≤ w.currIndex
  untried : ∀ i : Nat, .attempt i ∈ since Event.isArmed w.log → i < w.currIndex

/-- The state after the next server was chosen and a connection structure asked for. -/
def World.choosing (w : World) : World := { w with
  clock := w.clock + 1
  readBuf := w.readBuf.reset
  writeBuf := w.writeBuf.reset
  currIndex := w.currIndex + 1 }

/-- Choosing the next server. -/
theorem Unbound.choosing (unbound : Unbound env w) (left : 0 < remaining env w) :
    Chosen env w.choosing := by
  have lower := unbound.lower
  have upper : w.currIndex + 1 < env.servers := by
    unfold remaining at left
    split at left
    · omega
    · omega
  refine ⟨⟨⟨⟨⟨unbound.formed.reset, unbound.lastIndex, ?_, upper⟩, unbound.orderly,
    unbound.lossKnown⟩, unbound.dataSet, ?_, unbound.opened, unbound.current⟩, unbound.unscheduled,
    unbound.dark⟩, ?_, ?_⟩
  · change -1 ≤ w.currIndex + 1
    omega
  · intro i inside
    have tried := unbound.tried i inside
    change (i : Int) ≤ w.currIndex + 1
    omega
  · change 0 ≤ w.currIndex + 1
    omega
  · intro i inside
    have tried := unbound.tried i inside
    change (i : Int) < w.currIndex + 1
    omega

/-- The state after the attempt for the chosen server was begun. -/
def World.attempting (w : World) : World := { w with
  clock := w.clock + 1
  attached := true
  nc := { server := w.currIndex.toNat }
  log := w.log ++ [.opened] ++ [.attempt w.currIndex.toNat] }

/-- Beginning an attempt. -/
theorem Chosen.attempting (chosen : Chosen env w) :
    Unbound env w.attempting ∧
      .attempt w.currIndex.toNat ∈ since Event.isArmed w.attempting.log := by
  have lower := chosen.chosen
  have upper := chosen.upper
  have sinceOpened : since Event.isArmed (w.log ++ [.opened]) =
      since Event.isArmed w.log ++ [.opened] := History.since_unmarked _ rfl
  have sinceArmed : since Event.isArmed w.attempting.log =
      since Event.isArmed w.log ++ [.opened] ++ [.attempt w.currIndex.toNat] := by
    rw [World.attempting, History.since_unmarked _ rfl, sinceOpened]
  obtain ⟨orderly, lossKnown⟩ := chosen.append [.opened] (by simp) (by simp)
  refine ⟨⟨⟨⟨⟨chosen.formed, chosen.lastIndex, chosen.lower, chosen.upper⟩, ?_, ?_⟩,
    chosen.dataSet, ?_, fun _ => rfl, ?_⟩, chosen.unscheduled, fun _ => rfl⟩, ?_⟩
  · rw [World.attempting, History.throughout_concat]
    refine ⟨orderly, ?_⟩
    rintro i ⟨⟩
    refine ⟨by omega, ?_⟩
    intro j inside
    rw [sinceOpened] at inside
    have before := chosen.untried j (by simpa using inside)
    omega
  · rw [World.attempting, History.throughout_concat]
    refine ⟨lossKnown, ?_⟩
    rintro ⟨⟩
  · intro i inside
    rw [sinceArmed] at inside
    change (i : Int) ≤ w.currIndex
    simp only [List.mem_append, List.mem_singleton, reduceCtorEq, or_false, Event.attempt.injEq]
      at inside
    rcases inside with early | new
    · exact Int.le_of_lt (chosen.untried i early)
    · omega
  · exact fun _ live => absurd live Bool.false_ne_true
  · rw [sinceArmed]
    exact List.mem_append_right _ (List.mem_singleton_self _)

/-- The nginx connection of a new connection structure. -/
theorem Unbound.connected (unbound : Unbound env w) {server : Nat}
    (tried : .attempt server ∈ since Event.isArmed w.log) (c : Connection) :
    Rounds env { w with nc := { w.nc with connection := some c } } :=
  ⟨⟨⟨unbound.formed, unbound.lastIndex, unbound.lower, unbound.upper⟩, unbound.orderly,
    unbound.lossKnown⟩, unbound.dataSet, unbound.tried, unbound.opened,
    fun _ _ => ⟨unbound.unscheduled, server, tried⟩⟩

/-- A round that is over: the timer is set. -/
theorem connectLoop_over (range : InRange env w) (configured : 0 < env.servers)
    (done : ¬0 < remaining env w) : connectLoop env k w =
      (addReconnectTimer env >>= fun _ => pure ngxDeclined) { w with currIndex := 0 } := by
  have chosen := nextServer_run range configured
  rw [if_neg done, decide_eq_false done] at chosen
  unfold connectLoop
  rw [Program.bind_ok chosen]
  rfl

/-- A round that goes on: the connection structure is not allocated, the attempt fails, is still
going on, or has a connection right here. -/
theorem connectLoop_next (range : InRange env w) (left : 0 < remaining env w) :
    connectLoop env k w =
      (.ok ngxError, { w.choosing with log := w.log ++ [.unallocated] }) ∨
    connectLoop env k w = (.ok ngxAgain, w.choosing.attempting) ∨
    connectLoop env k w = (.ok ngxOk, w.choosing.attempting.wired { writeTimer := some 5000 }) ∨
    connectLoop env k w = (do
      connectionInit env
      flush env k
      return ngxOk : Comm Int) (w.choosing.attempting.wired {}) := by
  have lower := range.lower
  have upper : w.currIndex + 1 < env.servers := by
    unfold remaining at left
    split at left
    · omega
    · omega
  have inside : ¬(w.currIndex + 1 < 0 ∨ (env.servers : Int) ≤ w.currIndex + 1) := by omega
  have chosen := nextServer_run range (by omega)
  rw [if_pos left, decide_eq_true left] at chosen
  unfold connectLoop
  rw [Program.bind_ok chosen, if_neg (by simp), Program.modify_bind, ask_bind]
  cases granted : env.pcalloc w.clock with
  | false =>
    simp only [Bool.false_eq_true, not_false_eq_true, ↓reduceIte, emit_bind, Program.pure_run]
    exact Or.inl rfl
  | true =>
    simp only [not_true_eq_false, ↓reduceIte, Program.get_bind]
    rw [Program.ite_run, if_neg inside, openConnection, record_bind, emit_bind, ask_bind]
    refine Or.inr ?_
    cases env.connectPeer (w.clock + 1) with
    | busy => exact Or.inl rfl
    | declined => exact Or.inl rfl
    | error => exact Or.inl rfl
    | again => exact Or.inr (Or.inl rfl)
    | ok => exact Or.inr (Or.inr rfl)

/-- The loop over the servers tries them in order, and stays unbound where it asks for more. -/
theorem connectLoop_rounds (calls : CallsRound env k) (configured : 0 < env.servers)
    (unbound : Unbound env w) :
    Leads (connectLoop env k) w
      (fun rc w' => Rounds env w' ∧ (rc = ngxAgain → Unbound env w')) (Indexed env) := by
  by_cases left : 0 < remaining env w
  · have chosen := unbound.choosing left
    obtain ⟨attempting, tried⟩ := chosen.attempting
    have other : ngxOk ≠ ngxAgain := by decide
    rcases connectLoop_next (k := k) unbound.toInRange left with run | run | run | run
    · have failed := chosen.toRounds.apart
        (Apart.noted .unallocated w.choosing.clients w.choosing.nc.state rfl)
      exact Leads.of_ok run ⟨failed, fun again => absurd again (by decide)⟩
    · exact Leads.of_ok run ⟨attempting.toRounds, fun _ => attempting⟩
    · exact Leads.of_ok run ⟨attempting.connected tried _, fun again => absurd again other⟩
    · apply Leads.of_run run
      have rounds := attempting.connected tried {}
      apply Leads.bind (calls.keeps.leads rounds (connectionInit_calm _))
      intro _ w₁ rounds₁
      apply Leads.bind (calls.keeps.flush rounds₁)
      intro _ w₂ rounds₂
      exact Leads.pure ⟨rounds₂, fun again => absurd again other⟩
  · apply Leads.of_run (connectLoop_over unbound.toInRange configured left)
    have run : addReconnectTimer env { w with currIndex := 0 } = (.ok (), w.armed env) :=
      addReconnectTimer_run unbound.unscheduled
    apply Leads.of_run (Program.bind_ok run)
    exact Leads.pure ⟨unbound.toRounds.armed unbound.dark, fun again => absurd again (by decide)⟩

/-- `ngx_nats_connect` tries the servers in order. -/
theorem connect_rounds (calls : CallsRound env k) (configured : 0 < env.servers)
    (unbound : Unbound env w) :
    Leads (connect env k) w (fun _ => Rounds env) (Indexed env) := by
  apply Leads.repeatUntil (Unbound env)
  · exact fun _ unbound => unbound.toIndexed
  · intro w₁ unbound₁
    apply Leads.bind (connectLoop_rounds calls configured unbound₁)
    rintro rc w₂ ⟨rounds, goesOn⟩
    split
    · exact Leads.pure rounds
    · next again =>
      rw [not_not] at again
      exact Leads.pure (goesOn again)
  · exact unbound

/-- Connecting and the callbacks go on with the round, to any depth. -/
theorem callsRound (configured : 0 < env.servers) (depth : Nat) :
    CallsRound env (calls env depth) := by
  induction depth with
  | zero =>
    exact ⟨fun unbound => Leads.fault unbound.toIndexed,
      fun _ rounds => Leads.fault rounds.toIndexed⟩
  | succ depth ih =>
    exact ⟨fun unbound => connect_rounds ih configured unbound,
      fun call rounds => ih.keeps.script rounds call⟩

/-- Setting the timer returns. -/
theorem addReconnectTimer_returns (w : World) :
    Leads (addReconnectTimer env) w (fun _ _ => True) fun _ => False := by
  apply Leads.get
  split
  · exact Leads.modify trivial
  · exact Leads.pure trivial

/-- Flushing a connection that is not READY ends when connecting again does. -/
theorem flush_returns (start : InRange env w) (found : w.nc.connection.isSome = true)
    (unready : w.nc.state.connectOkayed = false)
    (reconnects : ∀ w', InRange env w' → w'.currIndex = w.currIndex →
      Leads k.connect w' (fun _ _ => True) fun _ => False) :
    Leads (flush env k) w (fun _ _ => True) fun _ => False := by
  refine flush_through (fun w' => InRange env w' ∧ w'.currIndex = w.currIndex ∧
    w'.nc.connection.isSome = true ∧ w'.nc.state.connectOkayed = false)
    (fun holds => holds.1.formed) ?_ ?_ (fun _ => trivial) ?_ ⟨start, rfl, found, unready⟩
  · rintro w₁ w₂ ⟨range, same, found, unready⟩ calm
    refine ⟨⟨calm.formed range.formed, ?_, ?_, ?_⟩, ?_, ?_, ?_⟩
    · rw [calm.lastIndex, range.lastIndex]
    · rw [calm.currIndex]
      exact range.lower
    · rw [calm.currIndex]
      exact range.upper
    · rw [calm.currIndex, same]
    · rw [calm.connection, found]
    · rw [calm.okayed, unready]
  · rintro w₁ ⟨-, -, found, -⟩ missing
    rw [missing] at found
    cases found
  · rintro w₁ reason ⟨range, same, found, unready⟩
    obtain ⟨c, here⟩ := Option.isSome_iff_exists.mp found
    have again (immediate : Bool) : Leads (abandon env k reason immediate true) w₁.shutDown
        (fun _ _ => True) fun _ => False := by
      refine abandon_through (reconnects _ ?_ same) (addReconnectTimer_returns _)
      exact ⟨range.formed.reset, range.lastIndex, range.lower, range.upper⟩
    apply Leads.of_run (closeConnection_run here reason true)
    split
    · exact again _
    · split
      · next ready =>
        rw [ready] at unready
        cases unready
      · exact again _

/-- With a server more chosen, one less remains. -/
theorem remaining_choosing (range : InRange env w) (left : 0 < remaining env w) {w' : World}
    (same : w'.currIndex = w.currIndex + 1) : remaining env w' < remaining env w := by
  have lower := range.lower
  have upper := range.upper
  unfold remaining at left ⊢
  rw [same, if_neg (by omega)]
  split at left
  · next fresh =>
    rw [if_pos fresh]
    omega
  · next fresh =>
    rw [if_neg fresh]
    omega

/-- The next server of a round is in range. -/
theorem InRange.choosing (range : InRange env w) (left : 0 < remaining env w) :
    InRange env w.choosing := by
  have lower := range.lower
  refine ⟨range.formed.reset, range.lastIndex, ?_, ?_⟩
  · change -1 ≤ w.currIndex + 1
    omega
  · change w.currIndex + 1 < env.servers
    unfold remaining at left
    split at left
    · omega
    · omega

/-- The loop over the servers returns, and where it asks for more fewer servers are left. -/
theorem connectLoop_returns (configured : 0 < env.servers) (range : InRange env w)
    (reconnects : ∀ w', InRange env w' → remaining env w' < remaining env w →
      Leads k.connect w' (fun _ _ => True) fun _ => False) :
    Leads (connectLoop env k) w (fun rc w' => rc = ngxAgain →
      InRange env w' ∧ remaining env w' < remaining env w) fun _ => False := by
  by_cases left : 0 < remaining env w
  · have chosen := range.choosing left
    have fewer : remaining env w.choosing.attempting < remaining env w :=
      remaining_choosing range left rfl
    have other : ngxOk ≠ ngxAgain := by decide
    rcases connectLoop_next (k := k) range left with run | run | run | run
    · exact Leads.of_ok run fun again => absurd again (by decide)
    · refine Leads.of_ok run fun _ => ⟨?_, fewer⟩
      exact ⟨chosen.formed, chosen.lastIndex, chosen.lower, chosen.upper⟩
    · exact Leads.of_ok run fun again => absurd again other
    · apply Leads.of_run run
      have wired : InRange env (w.choosing.attempting.wired {}) :=
        ⟨chosen.formed, chosen.lastIndex, chosen.lower, chosen.upper⟩
      have fresh : (w.choosing.attempting.wired {}).nc.state.connectSent = false := rfl
      obtain ⟨b, event, initiated, formed, -⟩ := connectionInit_fresh env wired.formed fresh
      apply Leads.of_run (Program.bind_ok initiated)
      refine Leads.bind (flush_returns ⟨formed, chosen.lastIndex, chosen.lower, chosen.upper⟩ rfl
        rfl ?_) ?_
      · intro w' range' same
        exact reconnects w' range' (remaining_choosing range left same)
      · intro _ w' _
        exact Leads.pure fun again => absurd again other
  · apply Leads.of_run (connectLoop_over range configured left)
    apply Leads.bind (addReconnectTimer_returns _)
    intro _ w' _
    exact Leads.pure fun again => absurd again (by decide)

/-- The rounds of `ngx_nats_connect` end when the nested calls do. -/
theorem connect_measured (configured : 0 < env.servers) (range : InRange env w) {left : Nat}
    (bound : remaining env w ≤ left)
    (reconnects : ∀ w', InRange env w' → remaining env w' < left →
      Leads k.connect w' (fun _ _ => True) fun _ => False) :
    Leads (connect env k) w (fun _ _ => True) fun _ => False := by
  refine Leads.repeatUntil_measure (fun w' => InRange env w' ∧ remaining env w' ≤ left)
    (remaining env) ?_ ⟨range, bound⟩ ?_
  · rintro w₁ ⟨range₁, bound₁⟩
    apply Leads.bind (connectLoop_returns configured range₁
      fun w' range' fewer => reconnects w' range' (by omega))
    intro rc w₂ goesOn
    split
    · exact Leads.pure trivial
    · next again =>
      rw [not_not] at again
      obtain ⟨range₂, fewer⟩ := goesOn again
      exact Leads.pure ⟨⟨range₂, by omega⟩, fewer⟩
  · unfold remaining
    split
    · omega
    · omega

/-- Connecting returns when its calls may nest as deep as servers remain to be tried. -/
theorem connect_leads_on (configured : 0 < env.servers) (depth : Nat) (range : InRange env w)
    (deep : remaining env w ≤ depth) :
    Leads (connect env (calls env depth)) w (fun _ _ => True) fun _ => False := by
  induction depth generalizing w with
  | zero =>
    exact connect_measured configured range deep fun w' _ fewer =>
      absurd fewer (Nat.not_lt_zero _)
  | succ depth ih =>
    refine connect_measured configured range deep fun w' range' fewer => ?_
    exact ih range' (by omega)

/-- Before the module is initialised nothing was tried. -/
theorem Unstarted.indexed (unstarted : Unstarted w) (configured : 0 < env.servers) :
    Indexed env w := by
  have quiet (event : Event) (inside : event ∈ w.log) : event.isCalled = true :=
    unstarted.log event inside
  refine ⟨⟨unstarted.formed, unstarted.lastIndex, ?_, ?_⟩, ?_, ?_⟩
  · rw [unstarted.currIndex]
  · rw [unstarted.currIndex]
    omega
  · rintro before event after split i rfl
    exact absurd (quiet (.attempt i) (by simp [split])) Bool.false_ne_true
  · rintro before event after split rfl
    exact absurd (quiet .shut (by simp [split])) Bool.false_ne_true

/-- `ngx_nats_init` connects with nothing open or scheduled. -/
theorem Unstarted.unbound (unstarted : Unstarted w) (configured : 0 < env.servers) :
    Unbound env { w with dataSet := true } := by
  have indexed := unstarted.indexed configured
  have off : ¬w.attached = true := by
    rw [unstarted.attached]
    exact Bool.false_ne_true
  have quiet (event : Event) (inside : event ∈ w.log) : event.isCalled = true :=
    unstarted.log event inside
  refine ⟨⟨⟨⟨indexed.formed, indexed.lastIndex, indexed.lower, indexed.upper⟩, indexed.orderly,
    indexed.lossKnown⟩, rfl, ?_, ?_, fun attached => absurd attached off⟩,
    unstarted.reconnectTimer, fun attached => absurd attached off⟩
  · intro i inside
    exact absurd (quiet (.attempt i) (History.mem_of_mem_since _ inside)) Bool.false_ne_true
  · intro inside
    exact absurd (quiet .opened (History.mem_of_mem_since _ inside)) Bool.false_ne_true

/-- The indices stay in range and the attempts in order, in every state a run reaches. -/
theorem reached_indexed (configured : 0 < env.servers) (depth : Nat) (events : List Step)
    (read write : Memory UInt8) : Indexed env (reached env depth events read write) := by
  have calls := callsRound configured depth
  apply Leads.last
  refine (calls.keeps.run ?_ ?_ events read write).weaken ?_ fun _ => id
  · intro w rounds scheduled
    apply calls.connect
    apply rounds.unbind
    intro attached
    by_contra live
    rw [(rounds.current attached (Bool.eq_true_of_not_eq_false live)).1] at scheduled
    cases scheduled
  · intro w unstarted
    exact calls.connect (unstarted.unbound configured)
  · rintro _ w (unstarted | rounds)
    · exact unstarted.indexed configured
    · exact rounds.toIndexed

/-- The attempts of two logs are made one after the other. -/
@[simp] theorem attempts_append (first second : List Event) :
    attempts (first ++ second) = attempts first ++ attempts second := List.filterMap_append

/-- The servers tried are those of the attempts. -/
theorem mem_attempts {i : Nat} {log : List Event} : i ∈ attempts log ↔ .attempt i ∈ log := by
  rw [attempts, List.mem_filterMap]
  constructor
  · rintro ⟨event, inside, tried⟩
    cases event with
    | attempt server =>
      cases tried
      exact inside
    | _ => cases tried
  · exact fun inside => ⟨.attempt i, inside, rfl⟩

/-- In a part of the log in which the timer is not set the attempts increase. -/
theorem attempts_increase {servers : Nat} {log : List Event}
    (orderly : Throughout (Orderly servers) log)
    {before round after : List Event} (split : log = before ++ round ++ after)
    (unarmed : .armed ∉ round) : (attempts round).Pairwise (· < ·) := by
  induction round using List.reverseRecOn generalizing after with
  | nil => exact List.Pairwise.nil
  | append_singleton rest event ih =>
    have apart : .armed ∉ rest := fun inside => unarmed (List.mem_append_left _ inside)
    have left : log = before ++ rest ++ event :: after := by
      rw [split]
      simp only [List.append_assoc, List.singleton_append]
    have earlier := ih left apart
    rw [attempts_append, List.pairwise_append]
    refine ⟨earlier, ?_, ?_⟩
    · cases event with
      | attempt server => exact List.pairwise_singleton _ _
      | _ => exact List.Pairwise.nil
    · intro j tried i new
      rw [mem_attempts, List.mem_singleton] at new
      have ordered := orderly (before ++ rest) event after left
      apply (ordered i new.symm).2 j
      rw [History.since_append]
      · exact List.mem_append_right _ (mem_attempts.mp tried)
      · intro other inside
        cases other with
        | armed => exact absurd inside apart
        | _ => rfl

/-- Increasing numbers below a bound are no more than the bound. -/
theorem length_le_of_increasing {numbers : List Nat} {bound : Nat}
    (increase : numbers.Pairwise (· < ·)) (below : ∀ i ∈ numbers, i < bound) :
    numbers.length ≤ bound := by
  have distinct : numbers.Nodup := increase.imp Nat.ne_of_lt
  have inside : numbers ⊆ List.range bound := by
    intro i member
    exact List.mem_range.mpr (below i member)
  calc
    numbers.length ≤ (List.range bound).length := (List.subperm_of_subset distinct inside).length_le
    _ = bound := List.length_range

/-- No tight reconnect loop: the current index is in range in every state a run reaches;
between two armings of the timer the servers are tried in increasing order, so at most once each;
and from any state with the index in range connecting returns. -/
theorem attempts_bounded (env : Env) (configured : 0 < env.servers) (depth : Nat)
    (events : List Step) (read write : Memory UInt8) :
    InRange env (reached env depth events read write) ∧
    (∀ before round after, (reached env depth events read write).log = before ++ round ++ after →
      .armed ∉ round → (attempts round).Pairwise (· < ·) ∧
        (∀ server ∈ attempts round, server < env.servers) ∧
        (attempts round).length ≤ env.servers) ∧
    ∀ w, InRange env w → ∀ deep, env.servers ≤ deep →
      ∃ w', connect env (calls env deep) w = (.ok (), w') := by
  have indexed := reached_indexed configured depth events read write
  refine ⟨indexed.toInRange, ?_, ?_⟩
  · intro before round after split unarmed
    have increase := attempts_increase indexed.orderly split unarmed
    have below : ∀ server ∈ attempts round, server < env.servers := by
      intro server tried
      obtain ⟨first, rest, here⟩ := List.append_of_mem (mem_attempts.mp tried)
      have ordered := indexed.orderly (before ++ first) (.attempt server) (rest ++ after)
        (by rw [split, here]; simp)
      exact (ordered server rfl).1
    exact ⟨increase, below, length_le_of_increasing increase below⟩
  · intro w range deep enough
    have all : remaining env w ≤ deep := by
      unfold remaining
      split
      · exact enough
      · omega
    have leads := connect_leads_on configured deep range all
    unfold Leads at leads
    match run : connect env (calls env deep) w with
    | (.ok (), w') => exact ⟨w', rfl⟩
    | (.error stop, w') =>
      rw [run] at leads
      exact leads.elim

/-- Two servers, of which only the first accepts a connection, once. -/
def twoServers : Env := { granting with
  servers := 2
  connectPeer := fun tick => if tick ≤ 1 then .ok else .declined }

/-- The connection to the first server is lost, and the second server declines. -/
theorem attempts_bounded_two : attempts (reached twoServers 3 [.init, .readable [.eof]] (fun _ => 0)
      fun _ => 0).log = [0, 1] ∧
    InRange twoServers (reached twoServers 3 [.init, .readable [.eof]] (fun _ => 0) fun _ => 0) :=
  ⟨by decide +kernel, (attempts_bounded twoServers (by decide) 3 [.init, .readable [.eof]]
    (fun _ => 0) fun _ => 0).1⟩

/-- After the connection of the module is lost every server is tried before the timer is set. -/
def TriesAll (servers : Nat) (log : List Event) : Prop :=
  ∀ before middle after, log = before ++ .shut :: middle ++ .armed :: after → .armed ∉ middle →
    .opened ∈ since Event.isClosed before → .closed .disconnected ∈ middle →
    ∀ server < servers, .attempt server ∈ middle

/-- The last server that was tried since an event is the last one of all. -/
theorem attempts_since {mark : Event → Bool} {log : List Event} {server : Nat}
    (tried : .attempt server ∈ since mark log) :
    ∃ last, (attempts log).getLast? = some last ∧ .attempt last ∈ since mark log := by
  obtain ⟨earlier, whole⟩ : since mark log <:+ log := List.rtakeWhile_suffix _ _
  have some_ : attempts (since mark log) ≠ [] := List.ne_nil_of_mem (mem_attempts.mpr tried)
  refine ⟨(attempts (since mark log)).getLast some_, ?_, ?_⟩
  · calc
      (attempts log).getLast? = (attempts earlier ++ attempts (since mark log)).getLast? := by
        rw [← attempts_append, whole]
      _ = some ((attempts (since mark log)).getLast some_) := by
        rw [List.getLast?_append_of_ne_nil _ some_, List.getLast?_eq_getLast_of_ne_nil some_]
  · exact mem_attempts.mp (List.getLast_mem some_)

/-- The server that was lost, the last one tried before the loss, is not tried again before the
timer is set, and neither is a server before it in the list, whatever the reason of the loss. -/
theorem lost_server_skipped (env : Env) (configured : 0 < env.servers) (depth : Nat)
    (events : List Step) (read write : Memory UInt8) (before middle after : List Event)
    (split : (reached env depth events read write).log =
      before ++ .shut :: middle ++ .armed :: after)
    (unarmed : .armed ∉ middle) (opened : .opened ∈ since Event.isClosed before) :
    ∃ lost, (attempts before).getLast? = some lost ∧ lost < env.servers ∧
      ∀ server ≤ lost, .attempt server ∉ middle := by
  have indexed := reached_indexed configured depth events read write
  obtain ⟨first, begun⟩ := indexed.lossKnown before .shut (middle ++ .armed :: after)
    (by rw [split]; simp) rfl opened
  obtain ⟨lost, last, tried⟩ := attempts_since begun
  refine ⟨lost, last, ?_, ?_⟩
  · obtain ⟨first, rest, here⟩ := List.append_of_mem (History.mem_of_mem_since _ tried)
    have ordered := indexed.orderly first (.attempt lost)
      (rest ++ .shut :: middle ++ .armed :: after) (by rw [split, here]; simp)
    exact (ordered lost rfl).1
  · intro server listed again
    obtain ⟨head, tail, later⟩ := List.append_of_mem again
    have ordered := indexed.orderly (before ++ .shut :: head) (.attempt server)
      (tail ++ .armed :: after) (by rw [split, later]; simp)
    have behind := (ordered server rfl).2 lost
    rw [History.since_append] at behind
    · exact absurd (behind (List.mem_append_left _ tried)) (by omega)
    · intro other inside
      cases other with
      | armed => exact absurd (later ▸ List.mem_append_left _ (by simpa using inside)) unarmed
      | _ => rfl

/-- What the module did with two servers. -/
def lostFirst : List Event :=
  (reached twoServers 3 [.init, .readable [.eof]] (fun _ => 0) fun _ => 0).log

/-- What happened between the loss and the timer: the second server declined. -/
def afterLoss : List Event := [.closed .disconnected, .opened, .attempt 1]

/-- The connection to the first server is lost, the second one declines, and the timer is set. -/
theorem lost_server_skipped_two :
    lostFirst = lostFirst.take 6 ++ .shut :: afterLoss ++ .armed :: [] ∧
    ∃ lost, (attempts (lostFirst.take 6)).getLast? = some lost ∧ lost < twoServers.servers ∧
      ∀ server ≤ lost, .attempt server ∉ afterLoss := by
  have split : lostFirst = lostFirst.take 6 ++ .shut :: afterLoss ++ .armed :: [] := by
    decide +kernel
  exact ⟨split, lost_server_skipped twoServers (by decide) 3 [.init, .readable [.eof]] (fun _ => 0)
    (fun _ => 0) (lostFirst.take 6) afterLoss [] split (by decide) (by decide +kernel)⟩

/-- The first server is not tried again before the timer is set. -/
theorem not_all_tried : ¬TriesAll twoServers.servers lostFirst := by
  intro all
  have again := all (lostFirst.take 6) afterLoss [] (by decide +kernel) (by decide)
    (by decide +kernel) (by decide) 0 (by decide)
  exact absurd again (by decide)

end NgxNats
