import NgxNats.Verif.Handshake
import NgxNats.Verif.Rounds
import NgxNats.Verif.Stranded

/-!
# The client functions and the open socket

`ngx_nats_publish`, `ngx_nats_subscribe` and `ngx_nats_unsubscribe` look at `nd->nc` and at the
state READY. Both outlive the socket: `ngx_nats_close_connection` closes it first and clears
`nd->nc` last, and runs the clients' disconnected callbacks in between.
-/
namespace NgxNats

open Program (Leads Moves)
open History (Throughout since)

/-- The client calls that need a connection; `ngx_nats_unsubscribe` declines the sid 0 before it
looks at one. -/
def ApiCall.gated : ApiCall → Bool
  | .addClient _ => false
  | .unsubscribe _ sid => sid ≠ 0
  | _ => true

/-- The socket of the connection was closed, and the connection is not forgotten yet. -/
def Closing (log : List Event) : Prop := .shut ∈ since Event.isClosed log

instance (log : List Event) : Decidable (Closing log) := inferInstanceAs (Decidable (_ ∈ _))

/-- A call that passes the checks uses an open socket, unless the connection is being closed. -/
def OpenUnlessClosing (before : List Event) (event : Event) : Prop :=
  ∀ call live, event = .called call true live stateReady → ¬Closing before → live = true

/-- No client function that needs a connection is called while the connection is being closed. -/
def NotWhileClosing (before : List Event) : Event → Prop
  | .called call .. => call.gated = true → ¬Closing before
  | _ => True

/-- Calling a client function that needs a connection. -/
def Event.isGated : Event → Bool
  | .called call .. => call.gated
  | _ => false

/-- The condition only constrains gated calls. -/
theorem notWhileClosing_iff (before : List Event) (event : Event) :
    (event.isGated = true → ¬Closing before) ↔ NotWhileClosing before event := by
  cases event with
  | called call => exact Iff.rfl
  | _ => exact iff_of_true (fun gated => nomatch gated) trivial

instance (before : List Event) (event : Event) : Decidable (NotWhileClosing before event) :=
  decidable_of_iff _ (notWhileClosing_iff before event)

/-- Bytes were received. -/
def Event.isReceived : Event → Bool
  | .received _ => true
  | _ => false

/-- A connection becomes READY after bytes were received on it. -/
def ReadyReceived (before : List Event) : Event → Prop
  | .ready .. => ∃ event ∈ onConnection before, event.isReceived = true
  | _ => True

/-- Becoming READY. -/
def Event.isReady : Event → Bool
  | .ready .. => true
  | _ => false

/-- The condition only constrains becoming READY. -/
theorem readyReceived_iff (before : List Event) (event : Event) :
    (event.isReady = true → ∃ event ∈ onConnection before, event.isReceived = true) ↔
      ReadyReceived before event := by
  cases event with
  | ready => exact ⟨fun received => received rfl, fun received _ => received⟩
  | _ => exact iff_of_true (fun ready => nomatch ready) trivial

instance (before : List Event) (event : Event) : Decidable (ReadyReceived before event) :=
  decidable_of_iff _ (readyReceived_iff before event)

/-- Whoever passes the checks of the client functions finds the socket open, or calls while the
connection is being closed. -/
def Gated (w : World) : Prop :=
  w.attached = true → w.nc.state = stateReady → w.live.isSome = true ∨ Closing w.log

/-- Unless the connection is being closed, a READY connection and one that received bytes have
their socket open. -/
structure Safe (w : World) : Prop where
  calls : Throughout OpenUnlessClosing w.log
  ready : ¬Closing w.log → w.attached = true → w.nc.state.connectOkayed = true →
    w.live.isSome = true
  received : ¬Closing w.log → w.attached = true →
    (∃ event ∈ onConnection w.log, event.isReceived = true) → w.live.isSome = true

/-- What an initialised module keeps between calls. -/
structure Guarded (w : World) : Prop extends Working w where
  safe : Throughout ReadyReceived w.log → Safe w

/-- What a fault leaves behind. -/
def Checked (w : World) : Prop :=
  Throughout ReadyReceived w.log → Throughout OpenUnlessClosing w.log

/-- Events that do not matter for the socket. -/
def Event.offSocket : Event → Bool
  | .opened | .shut | .closed _ | .called .. | .received _ | .ready .. => false
  | _ => true

variable {env : Env} {k : Calls} {w w' : World}

/-- A guarded module was called on an open socket only, or during a close. -/
theorem Guarded.checked (guarded : Guarded w) : Checked w := fun met => (guarded.safe met).calls

/-- Such events change nothing. -/
theorem since_offSocket {events : List Event} (apart : ∀ event ∈ events, event.offSocket = true) :
    since Event.isClosed (w.log ++ events) = since Event.isClosed w.log ++ events ∧
    onConnection (w.log ++ events) = onConnection w.log ++ events := by
  constructor
  · apply History.since_append
    intro event inside
    have off := apart event inside
    cases event with
    | closed => cases off
    | _ => rfl
  · apply History.since_append
    intro event inside
    have off := apart event inside
    cases event with
    | opened => cases off
    | _ => rfl

/-- One more event. -/
theorem Safe.concat {event : Event} (safe : Safe w) (open_ : OpenUnlessClosing w.log event) :
    Throughout OpenUnlessClosing (w.log ++ [event]) :=
  History.throughout_concat.mpr ⟨safe.calls, open_⟩

/-- A change that keeps the connection and reports such events. -/
theorem Guarded.keep {events : List Event} (guarded : Guarded w) (dataSet : w'.dataSet = w.dataSet)
    (formed : w.writeBuf.WellFormed → w'.writeBuf.WellFormed) (attached : w'.attached = w.attached)
    (okayed : w'.nc.state.connectOkayed = w.nc.state.connectOkayed)
    (live : w.live.isSome = true → w'.live.isSome = true) (log : w'.log = w.log ++ events)
    (apart : ∀ event ∈ events, event.offSocket = true) : Guarded w' := by
  refine ⟨⟨by rw [dataSet, guarded.dataSet], formed guarded.formed⟩, fun met => ?_⟩
  rw [log] at met
  have safe := guarded.safe met.left
  obtain ⟨closed, opened⟩ := since_offSocket (w := w) apart
  have closing : Closing w'.log ↔ Closing w.log := by
    unfold Closing
    rw [log, closed, List.mem_append]
    refine ⟨fun inside => inside.resolve_right fun shut => ?_, Or.inl⟩
    exact absurd (apart _ shut) Bool.false_ne_true
  refine ⟨?_, ?_, ?_⟩
  · rw [log]
    apply safe.calls.append
    rintro event inside before call live rfl
    exact absurd (apart _ inside) Bool.false_ne_true
  · rw [closing, attached, okayed]
    exact fun open_ here ready => live (safe.ready open_ here ready)
  · rw [closing, attached, log, opened]
    rintro open_ here ⟨event, inside, received⟩
    refine live (safe.received open_ here ⟨event, ?_, received⟩)
    refine (List.mem_append.mp inside).resolve_right fun new => ?_
    have off := apart event new
    cases event with
    | received => cases off
    | _ => cases received

/-- A calm change keeps the guard. -/
theorem Guarded.calm (guarded : Guarded w) (calm : Calm w w') : Guarded w' := by
  obtain ⟨events, log, calmly⟩ := calm.log
  refine guarded.keep calm.dataSet calm.formed calm.attached calm.okayed ?_ log ?_
  · rw [calm.live]
    exact id
  · intro event inside
    have quiet := calmly event inside
    cases event with
    | opened => cases quiet
    | shut => cases quiet
    | closed => cases quiet
    | called => cases quiet
    | received => cases quiet
    | ready => cases quiet
    | _ => rfl

/-- An event that does not matter, and a change of the clients. -/
theorem Guarded.noted (guarded : Guarded w) (event : Event) (clients : List Client)
    (apart : event.offSocket = true) :
    Guarded { w with clients := clients, log := w.log ++ [event] } :=
  guarded.keep rfl id rfl rfl id rfl (by simpa using apart)

/-- Connecting and the callbacks keep the guard. -/
structure CallsGuard (env : Env) (k : Calls) : Prop where
  connect : ∀ {w}, Guarded w → Leads k.connect w (fun _ => Guarded) Checked
  callback : ∀ {w} call, Guarded w → Leads (k.callback call) w (fun _ => Guarded) Checked

/-- The record of a call of a client function. -/
theorem Guarded.calledWith (guarded : Guarded w) (call : ApiCall) :
    Guarded (w.calledWith call) := by
  refine ⟨⟨guarded.dataSet, guarded.formed⟩, fun met => ?_⟩
  have safe := guarded.safe met.left
  have closed : since Event.isClosed (w.calledWith call).log = since Event.isClosed w.log ++
      [.called call w.attached w.live.isSome w.nc.state] := History.since_unmarked _ rfl
  have opened : onConnection (w.calledWith call).log = onConnection w.log ++
      [.called call w.attached w.live.isSome w.nc.state] := History.since_unmarked _ rfl
  have closing : Closing (w.calledWith call).log ↔ Closing w.log := by
    unfold Closing
    rw [closed]
    simp
  refine ⟨?_, ?_, ?_⟩
  · refine safe.concat ?_
    intro call' live made open_
    simp only [Event.called.injEq] at made
    obtain ⟨-, attached, live, state⟩ := made
    rw [← live]
    refine safe.ready open_ attached ?_
    rw [state]
    rfl
  · rw [closing]
    exact safe.ready
  · rw [closing, opened]
    rintro open_ attached ⟨event, inside, received⟩
    refine safe.received open_ attached ⟨event, ?_, received⟩
    refine (List.mem_append.mp inside).resolve_right fun new => ?_
    rw [List.mem_singleton.mp new] at received
    cases received

/-- Bytes arrive on the open socket. -/
theorem Guarded.received (guarded : Guarded w) (bytes : List UInt8) (live : w.live.isSome = true) :
    Guarded { w with
      readBuf := w.readBuf.push bytes, log := w.log ++ [.received bytes] } := by
  refine ⟨⟨guarded.dataSet, guarded.formed⟩, fun met => ?_⟩
  have safe := guarded.safe met.left
  refine ⟨safe.concat ?_, fun _ _ _ => live, fun _ _ _ => live⟩
  rintro call live ⟨⟩

/-- The connection becomes READY. -/
theorem Guarded.becomesReady (guarded : Guarded w) :
    Guarded { w with
      nc := { w.nc with state := stateReady }
      log := w.log ++ [.ready w.nc.state w.nc.srvVersion] } := by
  refine ⟨⟨guarded.dataSet, guarded.formed⟩, fun met => ?_⟩
  obtain ⟨before, now⟩ := History.throughout_concat.mp met
  have safe := guarded.safe before
  have closed : since Event.isClosed (w.log ++ [.ready w.nc.state w.nc.srvVersion]) =
      since Event.isClosed w.log ++ [.ready w.nc.state w.nc.srvVersion] :=
    History.since_unmarked _ rfl
  have closing : Closing (w.log ++ [.ready w.nc.state w.nc.srvVersion]) ↔ Closing w.log := by
    unfold Closing
    rw [closed]
    simp
  refine ⟨?_, ?_, ?_⟩
  · refine safe.concat ?_
    rintro call live ⟨⟩
  · rw [closing]
    exact fun open_ attached _ => safe.received open_ attached now
  · rw [closing]
    exact fun open_ attached _ => safe.received open_ attached now

/-- The socket is closed. -/
theorem Guarded.shutDown (guarded : Guarded w) : Guarded w.shutDown := by
  have dark := live_shutDown w
  cases live : w.live.isSome with
  | false =>
    have log : w.shutDown.log = w.log ++ [] := by simp [World.shutDown, live]
    refine guarded.keep rfl id rfl rfl ?_ log (List.forall_mem_nil _)
    exact fun lit => absurd (live.symm.trans lit) Bool.false_ne_true
  | true =>
    have log : w.shutDown.log = w.log ++ [.shut] := by simp [World.shutDown, live]
    refine ⟨⟨guarded.dataSet, guarded.formed⟩, fun met => ?_⟩
    rw [log] at met
    have safe := guarded.safe met.left
    have closing : Closing w.shutDown.log := by
      unfold Closing
      rw [log, History.since_unmarked _ rfl]
      exact List.mem_append_right _ (List.mem_singleton_self _)
    refine ⟨?_, fun open_ => absurd closing open_, fun open_ => absurd closing open_⟩
    rw [log]
    refine safe.concat ?_
    rintro call live ⟨⟩

/-- The connection is forgotten. -/
theorem Guarded.abandoned (guarded : Guarded w) (reason : Reason) :
    Guarded (w.abandoned reason) := by
  refine ⟨⟨guarded.dataSet, guarded.formed.reset⟩, fun met => ?_⟩
  have safe := guarded.safe met.left
  refine ⟨safe.concat ?_, fun _ attached => ?_, fun _ attached => ?_⟩
  · rintro call live ⟨⟩
  · exact absurd attached Bool.false_ne_true
  · exact absurd attached Bool.false_ne_true

/-- Deleting the reconnect timer. -/
theorem Guarded.unscheduled (guarded : Guarded w) : Guarded { w with reconnectTimer := none } :=
  guarded.keep rfl id rfl rfl id (List.append_nil _).symm (List.forall_mem_nil _)

/-- Closing the connection keeps the guard: during the callbacks it is being closed. -/
theorem closeConnection_guards (calls : CallsGuard env k) (guarded : Guarded w) (reason : Reason) :
    Leads (closeConnection env k reason true) w (fun _ => Guarded) Checked := by
  refine closeConnection_through Guarded (fun _ => ?_) guarded.shutDown ?_ ?_
  · have unset : Calm w { w with nc := { w.nc with pingTimer := none } } :=
      setPingTimer_calm none w
    exact (guarded.calm unset).checked
  · intro i w₁ guarded₁
    apply Leads.of_run (emit_bind w₁ (.disconnected i) _)
    exact calls.callback _ (guarded₁.noted (.disconnected i) w₁.clients rfl)
  · intro immediate w₁ guarded₁
    have abandoned := guarded₁.abandoned reason
    apply abandon_through
    · exact calls.connect abandoned.unscheduled
    · apply Leads.get
      split
      · exact Leads.of_ok rfl (abandoned.keep rfl id rfl rfl id rfl (by simp [Event.offSocket]))
      · exact Leads.pure abandoned

/-- Opening a connection starts over. -/
theorem guarded_connects : Connects Guarded where
  scheduled clock index timer read write events guarded formed known := by
    refine guarded.keep rfl formed rfl rfl id rfl ?_
    intro event inside
    rcases known event inside with rfl | rfl
    · rfl
    · rfl
  opened {w} server guarded := by
    refine ⟨⟨guarded.dataSet, guarded.formed⟩, fun met => ?_⟩
    have safe := guarded.safe met.left
    have fresh : onConnection (w.log ++ [.opened]) = [] := History.since_marked _ rfl
    refine ⟨safe.concat ?_, fun _ _ okayed => ?_, ?_⟩
    · rintro call live ⟨⟩
    · exact absurd okayed Bool.false_ne_true
    · rw [fresh]
      rintro - - ⟨event, inside, -⟩
      cases inside
  attempt {w} server guarded := guarded.noted (.attempt server) w.clients rfl
  wired {w} c guarded opened _ := by
    have live : (w.wired c).live.isSome = true := by simp [World.live, World.wired, opened]
    exact guarded.keep rfl id rfl rfl (fun _ => live) (List.append_nil _).symm
      (List.forall_mem_nil _)

/-- The guard survives what the module does while it is connected. -/
theorem CallsGuard.keeps (calls : CallsGuard env k) : Keeps env k Guarded Checked where
  initialised guarded := guarded.dataSet
  formed guarded := guarded.formed
  faults guarded := guarded.checked
  calm guarded calm := guarded.calm calm
  called call guarded := guarded.calledWith call
  close reason guarded := closeConnection_guards calls guarded reason
  callback call guarded := calls.callback call guarded
  received bytes guarded live := guarded.received bytes live
  ready := by
    intro w guarded _
    have ready := guarded.becomesReady
    apply Leads.get
    apply Leads.bind (Leads.require (fun _ _ => ready) fun _ => ready.checked)
    intro _ w₁ ready₁
    apply Leads.forEach ready₁
    rintro ⟨client, i⟩ - w₂ guarded₂
    apply Leads.of_run (emit_bind w₂ (.connected i) _)
    exact calls.callback _ (guarded₂.noted (.connected i) w₂.clients rfl)
  addClient := by
    intro w client guarded
    apply Leads.get
    split
    · exact Leads.pure guarded
    · apply Leads.of_run (ask_bind w env.arrayPush _)
      have asked : Calm w { w with clock := w.clock + 1 } := ask_calm env.arrayPush w
      have guarded₁ := guarded.calm asked
      split
      · exact Leads.pure guarded₁
      · apply Leads.of_run (record_bind _ .registered _ _)
        have registered := guarded₁.noted .registered (w.clients ++ [client]) rfl
        split
        · exact Leads.pure registered
        · split
          · exact Leads.pure registered
          · apply Leads.of_run (emit_bind _ (.connected w.clients.length) _)
            have told := registered.noted (.connected w.clients.length) (w.clients ++ [client]) rfl
            apply Leads.bind (calls.callback _ told)
            intro _ w₂ guarded₂
            exact Leads.pure guarded₂

/-- Connecting and the callbacks keep the guard, to any depth. -/
theorem callsGuard (env : Env) (depth : Nat) : CallsGuard env (calls env depth) := by
  induction depth with
  | zero =>
    exact ⟨fun guarded => Leads.fault guarded.checked, fun _ guarded => Leads.fault guarded.checked⟩
  | succ depth ih =>
    exact ⟨fun guarded => ih.keeps.connect guarded_connects guarded,
      fun call guarded => ih.keeps.script guarded call⟩

/-- Before the module is initialised no call passes the checks. -/
theorem Unstarted.openUnlessClosing (unstarted : Unstarted w) :
    Throughout OpenUnlessClosing w.log := by
  rintro before event after split call live rfl
  have called := unstarted.log (.called call true live stateReady) (by simp [split])
  exact absurd called Bool.false_ne_true

/-- `ngx_nats_init` starts with no connection. -/
theorem Unstarted.guarded (unstarted : Unstarted w) : Guarded { w with dataSet := true } := by
  refine ⟨⟨rfl, unstarted.formed⟩, fun _ => ⟨?_, ?_, ?_⟩⟩
  · exact unstarted.openUnlessClosing
  · exact fun _ attached => absurd (unstarted.attached.symm.trans attached) Bool.false_ne_true
  · exact fun _ attached => absurd (unstarted.attached.symm.trans attached) Bool.false_ne_true

/-- A run keeps the guard from `ngx_nats_init` on. -/
theorem run_guards (env : Env) (depth : Nat) (events : List Step) (read write : Memory UInt8) :
    Leads (run env depth events) (.start read write) (fun _ w => Unstarted w ∨ Guarded w)
      Checked := by
  have calls := callsGuard env depth
  refine calls.keeps.run ?_ ?_ events read write
  · exact fun guarded _ => calls.connect guarded.unscheduled
  · exact fun unstarted => calls.connect unstarted.guarded

/-- Every call that passes the checks uses an open socket, unless the connection is being closed, in
every state a run reaches. -/
theorem reached_checked (env : Env) (depth : Nat) (events : List Step) (read write : Memory UInt8) :
    Checked (reached env depth events read write) := by
  apply Leads.last
  refine (run_guards env depth events read write).weaken ?_ fun _ => id
  rintro _ w (unstarted | guarded)
  · exact fun _ => unstarted.openUnlessClosing
  · exact guarded.checked

/-- In every run that returned, whoever passes the checks finds the socket open, or calls while the
connection is being closed. -/
theorem reached_gated (env : Env) (depth : Nat) (events : List Step) (read write : Memory UInt8)
    (finished : (run env depth events (.start read write)).1 = .ok ())
    (received : Throughout ReadyReceived (reached env depth events read write).log) :
    Gated (reached env depth events read write) := by
  have ended : run env depth events (.start read write) =
      (.ok (), reached env depth events read write) := by
    rw [← finished]
    rfl
  intro attached ready
  rcases (run_guards env depth events read write).ok ended with unstarted | guarded
  · exact absurd (unstarted.attached.symm.trans attached) Bool.false_ne_true
  · by_cases closing : Closing (reached env depth events read write).log
    · exact .inr closing
    · have okayed : (reached env depth events read write).nc.state.connectOkayed = true := by
        rw [ready]
        rfl
      exact .inl ((guarded.safe received).ready closing attached okayed)

/-- A call that is declined at once or does not pass the checks changes nothing. -/
theorem apiCall_refused (env : Env) (k : Calls) {call : ApiCall}
    (other : ∀ client, call ≠ .addClient client)
    (shut : call.gated = true → ¬(w.attached = true ∧ w.nc.state = stateReady)) :
    ∃ rc, apiCall env k call w = (.ok rc, w.calledWith call) := by
  have state (gated : call.gated = true) (here : (w.calledWith call).attached = true) :
      (w.calledWith call).nc.state ≠ stateReady := fun ready => shut gated ⟨here, ready⟩
  unfold apiCall
  rw [Program.get_bind, emit_bind]
  change ∃ rc, _ = (Except.ok rc, w.calledWith call)
  cases call with
  | addClient client => exact absurd rfl (other client)
  | publish subject replyto data len =>
    change ∃ rc, publish env k subject replyto data len (w.calledWith _) = _
    unfold publish
    rw [Program.get_bind]
    split
    · exact ⟨_, rfl⟩
    · split
      · exact ⟨_, rfl⟩
      · next here =>
        rw [if_pos (state rfl (not_not.mp here))]
        exact ⟨_, rfl⟩
  | subscribe client subject max handleMsg data =>
    change ∃ rc, subscribe env k client subject max handleMsg data (w.calledWith _) = _
    unfold subscribe
    rw [Program.get_bind]
    split
    · exact ⟨_, rfl⟩
    · split
      · exact ⟨_, rfl⟩
      · next here =>
        rw [if_pos (state rfl (not_not.mp here))]
        exact ⟨_, rfl⟩
  | unsubscribe client sid =>
    change ∃ rc, unsubscribe env k sid (w.calledWith (.unsubscribe client sid)) = _
    unfold unsubscribe
    split
    · exact ⟨_, rfl⟩
    · next named =>
      rw [Program.get_bind]
      split
      · exact ⟨_, rfl⟩
      · split
        · exact ⟨_, rfl⟩
        · next here =>
          rw [if_pos (state (decide_eq_true named) (not_not.mp here))]
          exact ⟨_, rfl⟩

/-- A client function that needs a connection was called while the connection was being closed. -/
structure Broken (w : World) : Prop where
  broken : ¬Throughout NotWhileClosing w.log
  formed : w.writeBuf.WellFormed

/-- While the callbacks of a connection that is being closed run: the indices stay in range, whoever
passes the checks calls while the connection is being closed, and the depth that is left is enough
for the clients that may still be registered. -/
structure Parting (env : Env) (most depth : Nat) (w : World) : Prop where
  range : InRange env w
  closing : w.attached = true → w.nc.state = stateReady → Closing w.log
  room : most < w.clients.length + depth

/-- A client function that needs a connection was called there. -/
def Unguarded (w : World) : Prop := ¬Throughout NotWhileClosing w.log

/-- What a fault leaves behind there: such a call was made, or too many clients were registered. -/
def Exceeded (most : Nat) (w : World) : Prop := Unguarded w ∨ most < w.clients.length

/-- What runs on after such a call. -/
theorem Broken.leads {α : Type} {program : Comm α} (broken : Broken w)
    (moves : Moves (Acts env) program w) : Leads program w (fun _ => Broken) Unguarded := by
  have grown {w' : World} (acts : Acts env w w') : Unguarded w' := by
    obtain ⟨events, log⟩ := acts.grows broken.formed
    intro met
    rw [log] at met
    exact broken.broken met.left
  exact moves.leads.weaken (fun _ _ acts => ⟨grown acts, (acts broken.formed).1⟩)
    fun _ acts => grown acts

/-- Among the callbacks of a connection that is being closed anything may run on after such a
call. -/
theorem Broken.runs {α : Type} {program : Comm α} {most depth : Nat} (broken : Broken w)
    (moves : Moves (Acts env) program w) :
    Leads program w (fun _ w' => Broken w' ∨ Parting env most depth w') (Exceeded most) :=
  (broken.leads moves).weaken (fun _ _ => Or.inl) fun _ => Or.inl

/-- A client call is recorded, and then served by acts of the module. -/
theorem apiCall_recorded (acts : CallsAct env k) (call : ApiCall) (w : World) :
    ∃ serve : Comm Int, apiCall env k call w = serve (w.calledWith call) ∧
      Moves (Acts env) serve (w.calledWith call) := by
  cases call with
  | addClient client => exact ⟨addClient env k client, rfl, addClient_acts acts client _⟩
  | publish subject replyto data len =>
    exact ⟨publish env k subject replyto data len, rfl,
      publish_acts acts subject replyto data len _⟩
  | subscribe client subject max handleMsg data =>
    exact ⟨subscribe env k client subject max handleMsg data, rfl,
      subscribe_acts acts client subject max handleMsg data _⟩
  | unsubscribe client sid => exact ⟨unsubscribe env k sid, rfl, unsubscribe_acts acts sid _⟩

/-- An event that does not forget the connection leaves it being closed. -/
theorem Closing.concat {log : List Event} (closing : Closing log) {event : Event}
    (other : event.isClosed = false) : Closing (log ++ [event]) := by
  unfold Closing
  rw [History.since_unmarked _ other]
  exact List.mem_append_left _ closing

section Parting

variable {most depth : Nat}

/-- An event that does not forget the connection, and a change of the clock. -/
theorem Parting.noted (parting : Parting env most depth w) (event : Event) (clock : Nat)
    (other : event.isClosed = false) :
    Parting env most depth { w with clock := clock, log := w.log ++ [event] } := by
  have range := parting.range
  refine ⟨⟨range.formed, range.lastIndex, range.lower, range.upper⟩, fun attached ready => ?_,
    parting.room⟩
  exact (parting.closing attached ready).concat other

/-- Another moment. -/
theorem Parting.ticked (parting : Parting env most depth w) (clock : Nat) :
    Parting env most depth { w with clock := clock } := by
  have range := parting.range
  exact ⟨⟨range.formed, range.lastIndex, range.lower, range.upper⟩, parting.closing, parting.room⟩

/-- A new client may be told one level deeper. -/
theorem Parting.registered (parting : Parting env most (depth + 1) w) (client : Client) :
    Parting env most depth
      { w with clients := w.clients ++ [client], log := w.log ++ [.registered] } := by
  have range := parting.range
  have room := parting.room
  refine ⟨⟨range.formed, range.lastIndex, range.lower, range.upper⟩, fun attached ready => ?_, ?_⟩
  · exact (parting.closing attached ready).concat rfl
  · show most < (w.clients ++ [client]).length + depth
    rw [List.length_append, List.length_singleton]
    omega

/-- What is enough for a depth is enough for a greater one. -/
theorem Parting.deeper (parting : Parting env most depth w) : Parting env most (depth + 1) w := by
  have room := parting.room
  exact ⟨parting.range, parting.closing, by omega⟩

/-- A callback of a connection that is being closed returns, nested up to a depth. -/
def PartingReturns (env : Env) (most depth : Nat) : Prop :=
  ∀ call w, Parting env most depth w → Leads ((calls env depth).callback call) w
    (fun _ w' => Broken w' ∨ Parting env most depth w') (Exceeded most)

/-- A new client while a connection is being closed: its connected callback is called. -/
theorem Parting.addClient (returns : PartingReturns env most depth)
    (parting : Parting env most (depth + 1) w) (client : Client) :
    Leads (addClient env (calls env depth) client) w
      (fun _ w' => Broken w' ∨ Parting env most (depth + 1) w') (Exceeded most) := by
  apply Leads.get
  split
  · exact Leads.pure (.inr parting)
  · apply Leads.of_run (ask_bind w env.arrayPush _)
    have ticked := parting.ticked (w.clock + 1)
    split
    · exact Leads.pure (.inr ticked)
    · apply Leads.of_run (record_bind _ .registered _ _)
      have registered := ticked.registered client
      split
      · exact Leads.pure (.inr registered.deeper)
      · split
        · exact Leads.pure (.inr registered.deeper)
        · apply Leads.of_run (emit_bind _ (.connected w.clients.length) _)
          have told := registered.noted (.connected w.clients.length) (w.clock + 1) rfl
          apply Leads.bind (returns _ _ told)
          rintro _ w₁ (broken | parting₁)
          · exact Leads.pure (.inl broken)
          · exact Leads.pure (.inr parting₁.deeper)

/-- A client call while a connection is being closed: it is refused, registers a client, or breaks
the condition. -/
theorem Parting.apiCall (returns : PartingReturns env most depth)
    (parting : Parting env most (depth + 1) w) (call : ApiCall) :
    Leads (NgxNats.apiCall env (calls env depth) call) w
      (fun _ w' => Broken w' ∨ Parting env most (depth + 1) w') (Exceeded most) := by
  have called : Parting env most (depth + 1) (w.calledWith call) :=
    parting.noted (.called call w.attached w.live.isSome w.nc.state) w.clock rfl
  have refused (other : ∀ client, call ≠ .addClient client)
      (shut : call.gated = true → ¬(w.attached = true ∧ w.nc.state = stateReady)) :
      Leads (NgxNats.apiCall env (calls env depth) call) w
        (fun _ w' => Broken w' ∨ Parting env most (depth + 1) w') (Exceeded most) := by
    obtain ⟨rc, run⟩ := apiCall_refused env (calls env depth) other shut
    exact Leads.of_ok run (.inr called)
  by_cases passes : call.gated = true ∧ w.attached = true ∧ w.nc.state = stateReady
  · obtain ⟨gated, attached, ready⟩ := passes
    have broken : Broken (w.calledWith call) := by
      refine ⟨fun met => ?_, parting.range.formed⟩
      have outside := (History.throughout_concat.mp met).2
      exact outside gated (parting.closing attached ready)
    obtain ⟨serve, run, acts⟩ := apiCall_recorded (calls_act env depth) call w
    exact Leads.of_run run (broken.runs acts)
  · have shut (gated : call.gated = true) : ¬(w.attached = true ∧ w.nc.state = stateReady) :=
      fun both => passes ⟨gated, both⟩
    cases call with
    | addClient client =>
      apply Leads.get
      apply Leads.of_run (emit_bind w (.called (.addClient client) w.attached w.live.isSome
        w.nc.state) _)
      exact called.addClient returns client
    | publish => exact refused (fun _ absurd => by cases absurd) shut
    | subscribe => exact refused (fun _ absurd => by cases absurd) shut
    | unsubscribe => exact refused (fun _ absurd => by cases absurd) shut

/-- A callback of a connection that is being closed returns, if what it calls does. -/
theorem Parting.script (returns : PartingReturns env most depth)
    (parting : Parting env most (depth + 1) w) (call : Callback) :
    Leads (callback env (calls env depth) call) w
      (fun _ w' => Broken w' ∨ Parting env most (depth + 1) w') (Exceeded most) := by
  apply Leads.of_run (ask_bind w _ _)
  apply Leads.forEach (.inr (parting.ticked (w.clock + 1)))
  rintro made - w₁ (broken | parting₁)
  · have acts : Moves (Acts env) (do
        let _ ← NgxNats.apiCall env (calls env depth) made) w₁ := by
      apply Moves.bind (apiCall_acts (calls_act env depth) made w₁)
      intro _ w₂ _
      exact Moves.pure _ w₂
    exact broken.runs acts
  · apply Leads.bind (parting₁.apiCall returns made)
    intro _ w₂ parted
    exact Leads.pure parted

/-- The callbacks of a connection that is being closed return, to any depth: when none is left, too
many clients were registered. -/
theorem partingReturns (env : Env) (most depth : Nat) : PartingReturns env most depth := by
  induction depth with
  | zero => exact fun _ _ parting => Leads.fault (.inr parting.room)
  | succ depth ih => exact fun call w parting => parting.script ih call

end Parting

/-- After the socket was closed whoever passes the checks calls while the connection is being
closed. -/
theorem Gated.shutDown (gated : Gated w) (attached : w.attached = true)
    (ready : w.nc.state = stateReady) : Closing w.shutDown.log := by
  have log : w.shutDown.log = w.log ++ if w.live.isSome then [.shut] else [] := rfl
  rw [log]
  cases live : w.live.isSome with
  | true =>
    unfold Closing
    rw [if_pos rfl, History.since_unmarked _ rfl]
    exact List.mem_append_right _ (List.mem_singleton_self _)
  | false =>
    rw [if_neg Bool.false_ne_true, List.append_nil]
    refine (gated attached ready).resolve_left fun lit => ?_
    exact Bool.false_ne_true (live.symm.trans lit)

/-- Giving a connection up returns, also where it reconnects. -/
theorem abandon_returns (configured : 0 < env.servers) {deep : Nat} (enough : env.servers < deep)
    (range : InRange env w) (reason : Reason) (immediate : Bool) :
    Leads (abandon env (calls env deep) reason immediate true) w (fun _ _ => True)
      fun _ => False := by
  refine abandon_through ?_ (addReconnectTimer_returns _)
  obtain ⟨nested, rfl⟩ := Nat.exists_eq_add_of_lt enough
  refine connect_leads_on configured (env.servers + nested) ?_ ?_
  · exact ⟨range.formed.reset, range.lastIndex, range.lower, range.upper⟩
  · unfold remaining
    split
    · omega
    · omega

/-- Closing a connection returns, unless a client function that needs a connection is called
meanwhile or too many clients are registered. -/
theorem closeConnection_returns (configured : 0 < env.servers) {most deep : Nat}
    (enough : most + env.servers < deep) (range : InRange env w) (gated : Gated w)
    (found : w.nc.connection.isSome = true) (reason : Reason)
    (outside : Throughout NotWhileClosing
      (closeConnection env (calls env deep) reason true w).2.log)
    (few : (closeConnection env (calls env deep) reason true w).2.clients.length ≤
      w.clients.length + most) :
    ∃ w', closeConnection env (calls env deep) reason true w = (.ok (), w') := by
  have leads : Leads (closeConnection env (calls env deep) reason true) w (fun _ _ => True)
      (Exceeded (w.clients.length + most)) := by
    refine closeConnection_through
      (fun w' => Broken w' ∨ Parting env (w.clients.length + most) deep w') ?_ ?_ ?_ ?_
    · intro missing
      rw [missing] at found
      cases found
    · refine .inr ⟨⟨range.formed, range.lastIndex, range.lower, range.upper⟩, ?_, ?_⟩
      · exact gated.shutDown
      · show w.clients.length + most < w.clients.length + deep
        omega
    · rintro i w₁ (broken | parting)
      · have acts : Moves (Acts env) (do
            emit (.disconnected i)
            (calls env deep).callback (.disconnected i)) w₁ := by
          apply Moves.bind (emit_acts rfl w₁)
          intro _ w₂ _
          exact (calls_act env deep).callback _ w₂
        exact broken.runs acts
      · apply Leads.of_run (emit_bind w₁ (.disconnected i) _)
        exact partingReturns env _ deep _ _ (parting.noted (.disconnected i) w₁.clock rfl)
    · rintro immediate w₁ (broken | parting)
      · exact (broken.leads (abandon_acts (calls_act env deep) reason immediate true w₁)).weaken
          (fun _ _ _ => trivial) fun _ => Or.inl
      · have deeper : env.servers < deep := by omega
        have returns := abandon_returns configured deeper parting.range reason immediate
        exact returns.weaken (fun _ _ => id) fun _ => False.elim
  unfold Leads at leads
  cases run : closeConnection env (calls env deep) reason true w with
  | mk result w' =>
    rw [run] at leads outside few
    cases result with
    | ok _ => exact ⟨w', rfl⟩
    | error stop =>
      rcases leads with unguarded | exceeded
      · exact absurd outside unguarded
      · exact absurd few (Nat.not_le.mpr exceeded)

/-- The client functions are gated on an open socket as long as a connection becomes READY on
received bytes and none of them is called while the connection is being closed. What is declined at
once or does not pass the gate changes nothing. The run keeps its connection in range and its gate
intact, and from every such state closing returns, however the callbacks that it calls nest, if the
calls they make meet the same condition and register finitely many clients. -/
theorem calls_gated (env : Env) (configured : 0 < env.servers) (depth : Nat) (events : List Step)
    (read write : Memory UInt8)
    (received : Throughout ReadyReceived (reached env depth events read write).log)
    (outside : Throughout NotWhileClosing (reached env depth events read write).log) :
    (∀ call attached live state,
      .called call attached live state ∈ (reached env depth events read write).log →
      call.gated = true → attached = true → state = stateReady → live = true) ∧
    (∀ k call w, (∀ client, call ≠ .addClient client) →
      (call.gated = true → ¬(w.attached = true ∧ w.nc.state = stateReady)) →
      ∃ rc, apiCall env k call w = (.ok rc, w.calledWith call)) ∧
    ((run env depth events (.start read write)).1 = .ok () →
      InRange env (reached env depth events read write) ∧
      Gated (reached env depth events read write)) ∧
    ∀ most deep, most + env.servers < deep → ∀ w reason, InRange env w → Gated w →
      w.nc.connection.isSome = true →
      Throughout NotWhileClosing (closeConnection env (calls env deep) reason true w).2.log →
      (closeConnection env (calls env deep) reason true w).2.clients.length ≤
        w.clients.length + most →
      ∃ w', closeConnection env (calls env deep) reason true w = (.ok (), w') := by
  refine ⟨?_, fun k call w other shut => apiCall_refused env k other shut, fun finished =>
    ⟨(reached_indexed configured depth events read write).toInRange,
      reached_gated env depth events read write finished received⟩,
    fun most deep enough w reason range gated found met few =>
      closeConnection_returns configured enough range gated found reason met few⟩
  rintro call attached live state inside gated rfl rfl
  obtain ⟨before, after, split⟩ := List.append_of_mem inside
  have made := reached_checked env depth events read write received before _ after split
  exact made call live rfl (outside before _ after split gated)

/-- A client publishes one byte. -/
def farewell : ApiCall := .publish (some (ascii "bye")) none (ascii "x") 1

/-- The connection becomes READY, a client publishes, and the server closes the connection. -/
def saidBefore : List Step :=
  [.init, .readable [.bytes greeting], .api farewell, .readable [.eof]]

/-- A client whose disconnected callback registers another one and unsubscribes the sid 0. -/
def succeeded : Env := { granting with
  script := fun _ call =>
    if call = .disconnected 0 then [.addClient ⟨true⟩, .unsubscribe 0 0] else [] }

/-- The connection became READY, and a client published. -/
def spokenWorld : World := reached succeeded 4
  [.init, .api (.addClient ⟨true⟩), .readable [.bytes greeting], .api farewell]
  (fun _ => 0) fun _ => 0

/-- What closing that connection leaves behind. -/
def partedWorld : World :=
  (closeConnection succeeded (calls succeeded 4) .disconnected true spokenWorld).2

/-- The call used the open socket, and closing the connection calls the client back and returns. -/
theorem calls_gated_before :
    (∀ call attached live state, .called call attached live state ∈ spokenWorld.log →
      call.gated = true → attached = true → state = stateReady → live = true) ∧
    (.called farewell true true stateReady ∈ spokenWorld.log ∧
      .called (.addClient ⟨true⟩) true false stateReady ∈ partedWorld.log) ∧
    ∃ w', closeConnection succeeded (calls succeeded 4) .disconnected true spokenWorld =
      (.ok (), w') := by
  have facts : (Throughout ReadyReceived spokenWorld.log ∧
      Throughout NotWhileClosing spokenWorld.log ∧ spokenWorld.nc.connection.isSome = true) ∧
      (.called farewell true true stateReady ∈ spokenWorld.log ∧
        .called (.addClient ⟨true⟩) true false stateReady ∈ partedWorld.log) ∧
      Throughout NotWhileClosing partedWorld.log ∧
      partedWorld.clients.length ≤ spokenWorld.clients.length + 1 := by
    decide +kernel
  unfold partedWorld spokenWorld at *
  obtain ⟨⟨received, outside, found⟩, made, met, few⟩ := facts
  obtain ⟨open_, -, intact, returns⟩ := calls_gated succeeded (by decide) 4
    [.init, .api (.addClient ⟨true⟩), .readable [.bytes greeting], .api farewell]
    (fun _ => 0) (fun _ => 0) received outside
  obtain ⟨range, gated⟩ := intact (by decide +kernel)
  exact ⟨open_, made, returns 1 4 (by decide) _ .disconnected range gated found met few⟩

/-- A client that publishes from its disconnected callback, the first time it is called. -/
def mourning : Env := { granting with
  script := fun tick call => if call = .disconnected 0 ∧ tick < 12 then [farewell] else [] }

/-- The connection becomes READY, and the server closes it. -/
def saidAfter : List Step :=
  [.init, .api (.addClient ⟨true⟩), .readable [.bytes greeting], .readable [.eof]]

/-- The call is made with the socket closed, passes the checks, and queues its bytes. -/
theorem called_while_closing :
    (reached mourning 4 saidAfter (fun _ => 0) fun _ => 0).log[22]? =
      some (.called farewell true false stateReady) ∧
    (reached mourning 4 saidAfter (fun _ => 0) fun _ => 0).log[23]? =
      some (.queued (ascii "PUB bye 1\r\n")) := by
  decide +kernel

end NgxNats
