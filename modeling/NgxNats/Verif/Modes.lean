import NgxNats.Verif.Gate

/-!
# Connected or waiting

Between events the module is in one of two modes. It is connected, with its socket open and no
reconnect timer, or it waits for the reconnect timer, with no socket open and its clients refused.
So a reconnect never takes the place of an open connection, and no socket is left behind. This needs
what the gate of the client functions needs, and that every connection structure is allocated.
-/
namespace NgxNats

open Program (Leads Moves)
open History (Throughout)

/-- Bytes were received on a connection. -/
def Used (events : List Event) : Prop := ∃ event ∈ events, event.isReceived = true

/-- A connection whose socket was used is closed before the next one is set up and before the module
waits for the timer. A socket is closed once, and receives nothing afterwards. -/
def Owned (before : List Event) : Event → Prop
  | .opened | .armed => Used (onConnection before) → .shut ∈ onConnection before
  | .received _ | .shut => .shut ∉ onConnection before
  | _ => True

/-- Events that neither set up, use nor close a socket, nor wait. -/
def Event.unowned : Event → Bool
  | .opened | .armed | .received _ | .shut => false
  | _ => true

/-- Every connection became READY on received bytes, and no client function that needs a connection
was called while one was being closed. -/
def Behaved (log : List Event) : Prop :=
  Throughout ReadyReceived log ∧ Throughout NotWhileClosing log

/-- The one socket, the reconnect timer and the log agree. -/
structure Owns (w : World) : Prop where
  timer : w.reconnectTimer.isSome = true → w.live = none
  held : w.live.isSome = true → w.attached = true
  closed : .shut ∈ onConnection w.log → w.live = none
  used : Used (onConnection w.log) → .shut ∈ onConnection w.log ∨ w.live.isSome = true
  owned : Throughout Owned w.log

/-- What the module keeps unless a connection is being closed. -/
structure Sole (w : World) : Prop extends Guarded w where
  owns : Behaved w.log → Owns w
  settled : Behaved w.log → ¬Closing w.log

/-- What a connection that is being closed keeps: its socket is closed, and whoever passes the gate
calls while it is being closed. -/
structure Dark (w : World) : Prop extends Guarded w where
  owns : Behaved w.log → Owns w
  dark : Behaved w.log → w.live = none
  closing : Behaved w.log → w.attached = true → w.nc.state = stateReady → Closing w.log

/-- Where `ngx_nats_connect` starts: no socket is open and no timer set. -/
structure Loose (w : World) : Prop extends Sole w where
  dark : Behaved w.log → w.live = none
  unarmed : Behaved w.log → w.reconnectTimer = none

/-- What a fault leaves behind. -/
def Owning (w : World) : Prop := Behaved w.log → Throughout Owned w.log

variable {env : Env} {k : Calls} {w w' : World} {events log : List Event} {event : Event}

/-- A log that behaves behaves in its beginning. -/
theorem Behaved.left (behaved : Behaved (log ++ events)) : Behaved log :=
  ⟨behaved.1.left, behaved.2.left⟩

/-- A module with one socket owned every socket it had. -/
theorem Sole.owning (sole : Sole w) : Owning w := fun behaved => (sole.owns behaved).owned

/-- A module that closes its connection owned every socket it had. -/
theorem Dark.owning (dark : Dark w) : Owning w := fun behaved => (dark.owns behaved).owned

/-- A calm event has nothing to do with the socket. -/
theorem unowned_of_calm (calm : event.calm = true) : event.unowned = true := by
  cases event with
  | opened => cases calm
  | armed => cases calm
  | received => cases calm
  | shut => cases calm
  | _ => rfl

/-- An event that has nothing to do with the socket leaves it owned. -/
theorem owned_of_unowned (unowned : event.unowned = true) : Owned log event := by
  cases event with
  | opened => cases unowned
  | armed => cases unowned
  | received => cases unowned
  | shut => cases unowned
  | _ => exact trivial

/-- Events that have nothing to do with the socket. -/
theorem onConnection_unowned (unowned : ∀ event ∈ events, event.unowned = true) :
    onConnection (log ++ events) = onConnection log ++ events := by
  apply History.since_append
  intro event inside
  have apart := unowned event inside
  cases event with
  | opened => cases apart
  | _ => rfl

/-- A change that keeps the socket and the timer, and reports such events. -/
theorem Owns.keep (owns : Owns w) (timer : w'.reconnectTimer = w.reconnectTimer)
    (attached : w'.attached = w.attached) (live : w'.live.isSome = w.live.isSome)
    (log : w'.log = w.log ++ events) (unowned : ∀ event ∈ events, event.unowned = true) :
    Owns w' := by
  have dark (unlit : w.live = none) : w'.live = none := by
    rw [unlit] at live
    apply Option.not_isSome_iff_eq_none.mp
    exact fun lit => absurd (live.symm.trans lit) Bool.false_ne_true
  have shut : .shut ∈ onConnection w'.log ↔ .shut ∈ onConnection w.log := by
    rw [log, onConnection_unowned unowned, List.mem_append]
    refine ⟨fun inside => inside.resolve_right fun new => ?_, Or.inl⟩
    exact absurd (unowned _ new) Bool.false_ne_true
  have used (used' : Used (onConnection w'.log)) : Used (onConnection w.log) := by
    rw [log, onConnection_unowned unowned] at used'
    obtain ⟨event, inside, received⟩ := used'
    refine ⟨event, (List.mem_append.mp inside).resolve_right fun new => ?_, received⟩
    have apart := unowned event new
    cases event with
    | received => cases apart
    | _ => cases received
  constructor
  · rw [timer]
    exact fun armed => dark (owns.timer armed)
  · rw [live, attached]
    exact owns.held
  · rw [shut]
    exact fun inside => dark (owns.closed inside)
  · rw [shut, live]
    exact fun used' => owns.used (used used')
  · rw [log]
    exact owns.owned.append fun event inside before => owned_of_unowned (unowned event inside)

/-- Events that neither close a socket nor forget a connection. -/
theorem closing_append (apart : ∀ event ∈ events, event.unowned = true ∧ event.isClosed = false) :
    Closing (log ++ events) ↔ Closing log := by
  have closed : History.since Event.isClosed (log ++ events) =
      History.since Event.isClosed log ++ events :=
    History.since_append _ fun event inside => (apart event inside).2
  unfold Closing
  rw [closed, List.mem_append]
  refine ⟨fun inside => inside.resolve_right fun shut => ?_, Or.inl⟩
  exact absurd (apart _ shut).1 Bool.false_ne_true

/-- A calm change keeps the one socket. -/
theorem Sole.calm (sole : Sole w) (calm : Calm w w') : Sole w' := by
  obtain ⟨events, log, calmly⟩ := calm.log
  have unowned : ∀ event ∈ events, event.unowned = true := fun event inside =>
    unowned_of_calm (calmly event inside)
  refine ⟨sole.toGuarded.calm calm, fun behaved => ?_, fun behaved => ?_⟩
  · rw [log] at behaved
    exact (sole.owns behaved.left).keep calm.reconnectTimer calm.attached calm.live log unowned
  · rw [log] at behaved ⊢
    rw [closing_append fun event inside => ⟨unowned event inside, ?_⟩]
    · exact sole.settled behaved.left
    · have quiet := calmly event inside
      cases event with
      | closed => cases quiet
      | _ => rfl

/-- An event that has nothing to do with the connection, and a change of the clients. -/
theorem Sole.noted (sole : Sole w) (event : Event) (clients : List Client)
    (apart : event.offSocket = true) (unowned : event.unowned = true) :
    Sole { w with clients := clients, log := w.log ++ [event] } := by
  have open_ : event.isClosed = false := by
    cases event with
    | closed => cases apart
    | _ => rfl
  refine ⟨sole.toGuarded.noted event clients apart, fun behaved => ?_, fun behaved => ?_⟩
  · have owns := sole.owns (Behaved.left behaved)
    exact owns.keep rfl rfl rfl rfl (List.forall_mem_singleton.mpr unowned)
  · rw [closing_append (List.forall_mem_singleton.mpr ⟨unowned, open_⟩)]
    exact sole.settled (Behaved.left behaved)

/-- The record of a call of a client function. -/
theorem Sole.calledWith (sole : Sole w) (call : ApiCall) : Sole (w.calledWith call) := by
  refine ⟨sole.toGuarded.calledWith call, fun behaved => ?_, fun behaved => ?_⟩
  · have owns := sole.owns (Behaved.left behaved)
    exact owns.keep rfl rfl rfl rfl (List.forall_mem_singleton.mpr rfl)
  · have same : Closing (w.calledWith call).log ↔ Closing w.log :=
      closing_append (List.forall_mem_singleton.mpr ⟨rfl, rfl⟩)
    rw [same]
    exact sole.settled (Behaved.left behaved)

/-- Bytes arrive on the open socket. -/
theorem Sole.received (sole : Sole w) (bytes : List UInt8) (live : w.live.isSome = true) :
    Sole { w with readBuf := w.readBuf.push bytes, log := w.log ++ [.received bytes] } := by
  have opened : onConnection (w.log ++ [.received bytes]) =
      onConnection w.log ++ [.received bytes] := History.since_unmarked _ rfl
  have shut : .shut ∈ onConnection (w.log ++ [.received bytes]) ↔
      .shut ∈ onConnection w.log := by
    rw [opened]
    simp
  refine ⟨sole.toGuarded.received bytes live, fun behaved => ?_, fun behaved => ?_⟩
  · have owns := sole.owns (Behaved.left behaved)
    have unshut : .shut ∉ onConnection w.log := by
      intro inside
      rw [owns.closed inside] at live
      cases live
    refine ⟨owns.timer, owns.held, ?_, fun _ => .inr live, ?_⟩
    · rw [shut]
      exact owns.closed
    · exact History.throughout_concat.mpr ⟨owns.owned, unshut⟩
  · have closed : History.since Event.isClosed (w.log ++ [.received bytes]) =
        History.since Event.isClosed w.log ++ [.received bytes] := History.since_unmarked _ rfl
    unfold Closing
    rw [closed]
    have settled := sole.settled (Behaved.left behaved)
    unfold Closing at settled
    simpa using settled

/-- The connection becomes READY. -/
theorem Sole.becomesReady (sole : Sole w) :
    Sole { w with
      nc := { w.nc with state := stateReady }
      log := w.log ++ [.ready w.nc.state w.nc.srvVersion] } := by
  refine ⟨sole.toGuarded.becomesReady, fun behaved => ?_, fun behaved => ?_⟩
  · have owns := sole.owns (Behaved.left behaved)
    exact owns.keep rfl rfl rfl rfl (List.forall_mem_singleton.mpr rfl)
  · rw [closing_append (List.forall_mem_singleton.mpr ⟨rfl, rfl⟩)]
    exact sole.settled (Behaved.left behaved)

/-- The socket is closed. -/
theorem Sole.shutDown (sole : Sole w) : Dark w.shutDown := by
  have none := live_shutDown w
  refine ⟨sole.toGuarded.shutDown, fun behaved => ?_, fun _ => none, fun behaved here ready => ?_⟩
  · have owns := sole.owns (Behaved.left behaved)
    refine ⟨fun _ => none, fun lit => ?_, fun _ => none, fun used => ?_, ?_⟩
    · rw [none] at lit
      cases lit
    · left
      cases live : w.live.isSome with
      | true =>
        have log : w.shutDown.log = w.log ++ [.shut] := by simp [World.shutDown, live]
        rw [log]
        have opened : onConnection (w.log ++ [.shut]) = onConnection w.log ++ [.shut] :=
          History.since_unmarked _ rfl
        rw [opened]
        simp
      | false =>
        have log : w.shutDown.log = w.log := by simp [World.shutDown, live]
        rw [log] at used ⊢
        refine (owns.used used).resolve_right ?_
        rw [live]
        exact Bool.false_ne_true
    · cases live : w.live.isSome with
      | true =>
        have log : w.shutDown.log = w.log ++ [.shut] := by simp [World.shutDown, live]
        rw [log]
        refine History.throughout_concat.mpr ⟨owns.owned, fun inside => ?_⟩
        rw [owns.closed inside] at live
        cases live
      | false =>
        have log : w.shutDown.log = w.log := by simp [World.shutDown, live]
        rw [log]
        exact owns.owned
  · have before : Behaved w.log := Behaved.left behaved
    have safe := sole.safe before.1
    have okayed : w.nc.state.connectOkayed = true := by
      have state : w.nc.state = stateReady := ready
      rw [state]
      rfl
    have live := safe.ready (sole.settled before) here okayed
    have log : w.shutDown.log = w.log ++ [.shut] := by simp [World.shutDown, live]
    unfold Closing
    rw [log, History.since_unmarked _ rfl]
    exact List.mem_append_right _ (List.mem_singleton_self _)

/-- The connection is forgotten. -/
theorem Dark.abandoned (dark : Dark w) (reason : Reason) : Sole (w.abandoned reason) := by
  refine ⟨dark.toGuarded.abandoned reason, fun behaved => ?_, fun _ => ?_⟩
  · have owns := dark.owns (Behaved.left behaved)
    have none := dark.dark (Behaved.left behaved)
    have kept : Owns { w with log := w.log ++ [.closed reason] } :=
      owns.keep rfl rfl rfl rfl (List.forall_mem_singleton.mpr rfl)
    refine ⟨kept.timer, fun lit => ?_, kept.closed, kept.used, kept.owned⟩
    have lit : w.live.isSome = true := lit
    rw [none] at lit
    cases lit
  · have fresh : History.since Event.isClosed (w.abandoned reason).log = [] :=
      History.since_marked _ rfl
    unfold Closing
    rw [fresh]
    exact List.not_mem_nil

/-- A call while a connection is being closed breaks the condition, and nothing matters then. -/
theorem spoiled {α : Type} {program : Comm α} {holds : World → Prop}
    (guards : Leads program w (fun _ => Guarded) Checked) (acts : Moves (Acts env) program w)
    (formed : w.writeBuf.WellFormed) (spoiled : ¬Behaved w.log)
    (vacuous : ∀ w', Guarded w' → ¬Behaved w'.log → holds w') :
    Leads program w (fun _ => holds) Owning := by
  refine (guards.and acts.leads).weaken ?_ ?_
  · rintro _ w' ⟨guarded, acts⟩
    obtain ⟨events, log⟩ := acts.grows formed
    refine vacuous w' guarded fun behaved => ?_
    rw [log] at behaved
    exact spoiled behaved.left
  · rintro w' ⟨-, acts⟩ behaved
    obtain ⟨events, log⟩ := acts.grows formed
    rw [log] at behaved
    exact absurd behaved.left spoiled

/-- Connecting and the callbacks keep sockets owned. -/
structure CallsSole (env : Env) (k : Calls) : Prop where
  acts : CallsAct env k
  guards : CallsGuard env k
  connect : ∀ {w}, Loose w → Leads k.connect w (fun _ => Sole) Owning
  callback : ∀ {w} call, Sole w → Leads (k.callback call) w (fun _ => Sole) Owning
  mourns : ∀ {w} call, Dark w → Leads (k.callback call) w (fun _ => Dark) Owning

/-- An event that has nothing to do with the connection, and a change of the clock and the
clients. -/
theorem Dark.noted (dark : Dark w) (event : Event) (clients : List Client)
    (apart : event.offSocket = true) (unowned : event.unowned = true) :
    Dark { w with clients := clients, log := w.log ++ [event] } := by
  have open_ : event.isClosed = false := by
    cases event with
    | closed => cases apart
    | _ => rfl
  refine ⟨dark.toGuarded.noted event clients apart, fun behaved => ?_,
    fun behaved => dark.dark (Behaved.left behaved), fun behaved here ready => ?_⟩
  · have owns := dark.owns (Behaved.left behaved)
    exact owns.keep rfl rfl rfl rfl (List.forall_mem_singleton.mpr unowned)
  · rw [closing_append (List.forall_mem_singleton.mpr ⟨unowned, open_⟩)]
    exact dark.closing (Behaved.left behaved) here ready

/-- The record of a call of a client function. -/
theorem Dark.calledWith (dark : Dark w) (call : ApiCall) : Dark (w.calledWith call) := by
  refine ⟨dark.toGuarded.calledWith call, fun behaved => ?_,
    fun behaved => dark.dark (Behaved.left behaved), fun behaved here ready => ?_⟩
  · have owns := dark.owns (Behaved.left behaved)
    exact owns.keep rfl rfl rfl rfl (List.forall_mem_singleton.mpr rfl)
  · have same : Closing (w.calledWith call).log ↔ Closing w.log :=
      closing_append (List.forall_mem_singleton.mpr ⟨rfl, rfl⟩)
    rw [same]
    exact dark.closing (Behaved.left behaved) here ready

/-- Asking the surroundings. -/
theorem Dark.ticked (dark : Dark w) : Dark { w with clock := w.clock + 1 } :=
  ⟨dark.toGuarded.calm (ask_calm (fun _ => ()) w), fun behaved =>
    ⟨(dark.owns behaved).timer, (dark.owns behaved).held, (dark.owns behaved).closed,
      (dark.owns behaved).used, (dark.owns behaved).owned⟩,
    dark.dark, dark.closing⟩

/-- A new client while a connection is being closed. -/
theorem Dark.addClient (calls : CallsSole env k) (dark : Dark w) (client : Client) :
    Leads (addClient env k client) w (fun _ => Dark) Owning := by
  apply Leads.get
  split
  · exact Leads.pure dark
  · apply Leads.of_run (ask_bind w env.arrayPush _)
    have dark₁ := dark.ticked
    split
    · exact Leads.pure dark₁
    · apply Leads.of_run (record_bind _ .registered _ _)
      have registered := dark₁.noted .registered (w.clients ++ [client]) rfl rfl
      split
      · exact Leads.pure registered
      · split
        · exact Leads.pure registered
        · apply Leads.of_run (emit_bind _ (.connected w.clients.length) _)
          have told := registered.noted (.connected w.clients.length) (w.clients ++ [client]) rfl
            rfl
          apply Leads.bind (calls.mourns _ told)
          intro _ w₂ dark₂
          exact Leads.pure dark₂

/-- A client function that is called while a connection is being closed: it is refused, or breaks
the condition. -/
theorem Dark.apiCall (calls : CallsSole env k) (dark : Dark w) (call : ApiCall) :
    Leads (apiCall env k call) w (fun _ => Dark) Owning := by
  have called := dark.calledWith call
  have refused (other : ∀ client, call ≠ .addClient client)
      (shut : call.gated = true → ¬(w.attached = true ∧ w.nc.state = stateReady)) :
      Leads (NgxNats.apiCall env k call) w (fun _ => Dark) Owning := by
    obtain ⟨rc, run⟩ := apiCall_refused env k other shut
    exact Leads.of_ok run called
  by_cases passes : call.gated = true ∧ w.attached = true ∧ w.nc.state = stateReady
  · obtain ⟨gated, attached, ready⟩ := passes
    have broken : ¬Behaved (w.calledWith call).log := by
      intro behaved
      have outside := (History.throughout_concat.mp behaved.2).2
      exact outside gated (dark.closing behaved.left attached ready)
    have vacuous (w' : World) (guarded : Guarded w') (broken : ¬Behaved w'.log) : Dark w' :=
      ⟨guarded, fun behaved => absurd behaved broken, fun behaved => absurd behaved broken,
        fun behaved => absurd behaved broken⟩
    have keeps := calls.guards.keeps
    apply Leads.get
    apply Leads.of_run (emit_bind w (.called call w.attached w.live.isSome w.nc.state) _)
    cases call with
    | addClient => cases gated
    | publish subject replyto data len =>
      exact spoiled (keeps.publish called.toGuarded subject replyto data len)
        (publish_acts calls.acts subject replyto data len _) called.formed broken vacuous
    | subscribe client subject max handleMsg data =>
      exact spoiled (keeps.subscribe called.toGuarded client subject max handleMsg data)
        (subscribe_acts calls.acts client subject max handleMsg data _) called.formed broken
        vacuous
    | unsubscribe client sid =>
      exact spoiled (keeps.unsubscribe called.toGuarded sid)
        (unsubscribe_acts calls.acts sid _) called.formed broken vacuous
  · have shut (gated : call.gated = true) : ¬(w.attached = true ∧ w.nc.state = stateReady) :=
      fun both => passes ⟨gated, both⟩
    cases call with
    | addClient client =>
      apply Leads.get
      apply Leads.of_run (emit_bind w (.called (.addClient client) w.attached w.live.isSome
        w.nc.state) _)
      exact called.addClient calls client
    | publish => exact refused (fun _ absurd => by cases absurd) shut
    | subscribe => exact refused (fun _ absurd => by cases absurd) shut
    | unsubscribe => exact refused (fun _ absurd => by cases absurd) shut

/-- A client's callback while a connection is being closed. -/
theorem Dark.script (calls : CallsSole env k) (dark : Dark w) (call : Callback) :
    Leads (NgxNats.callback env k call) w (fun _ => Dark) Owning := by
  apply Leads.of_run (ask_bind w _ _)
  refine Leads.forEach dark.ticked ?_
  intro call _ w₁ dark₁
  apply Leads.bind (dark₁.apiCall calls call)
  intro _ w₂ dark₂
  exact Leads.pure dark₂

/-- Waiting for the timer while no socket is open. -/
theorem Sole.arms (sole : Sole w) (dark : Behaved w.log → w.live = none) :
    Leads (addReconnectTimer env) w (fun _ => Sole) Owning := by
  apply Leads.get
  split
  · refine Leads.of_ok rfl ⟨?_, fun behaved => ?_, fun behaved => ?_⟩
    · exact sole.toGuarded.keep rfl id rfl rfl id rfl (by simp [Event.offSocket])
    · have before : Behaved w.log := Behaved.left behaved
      have owns := sole.owns before
      have opened : onConnection (w.log ++ [.armed]) = onConnection w.log ++ [.armed] :=
        History.since_unmarked _ rfl
      have shut : .shut ∈ onConnection (w.log ++ [.armed]) ↔ .shut ∈ onConnection w.log := by
        rw [opened]
        simp
      have used (used' : Used (onConnection (w.log ++ [.armed]))) : .shut ∈ onConnection w.log := by
        rw [opened] at used'
        obtain ⟨event, inside, received⟩ := used'
        have old : event ∈ onConnection w.log := by
          refine (List.mem_append.mp inside).resolve_right fun new => ?_
          rw [List.mem_singleton.mp new] at received
          cases received
        refine (owns.used ⟨event, old, received⟩).resolve_right ?_
        rw [dark before]
        exact Bool.false_ne_true
      refine ⟨fun _ => dark before, owns.held, fun inside => owns.closed (shut.mp inside),
        fun used' => .inl (shut.mpr (used used')), ?_⟩
      refine History.throughout_concat.mpr ⟨owns.owned, fun used' => ?_⟩
      refine used ?_
      obtain ⟨event, inside, received⟩ := used'
      exact ⟨event, opened ▸ List.mem_append_left _ inside, received⟩
    · have same : Closing (w.log ++ [.armed]) ↔ Closing w.log := by
        have closed : History.since Event.isClosed (w.log ++ [.armed]) =
            History.since Event.isClosed w.log ++ [.armed] := History.since_unmarked _ rfl
        unfold Closing
        rw [closed]
        simp
      exact fun closing => sole.settled (Behaved.left behaved) (same.mp closing)
  · exact Leads.pure sole

/-- Choosing a server, emptying the buffers and asking the surroundings. -/
theorem Loose.chosen (loose : Loose w) (clock : Nat) (index : Int) (read write : Buf)
    (formed : w.writeBuf.WellFormed → write.WellFormed) :
    Loose { w with clock := clock, currIndex := index, readBuf := read, writeBuf := write } := by
  have guarded := guarded_connects.scheduled clock index w.reconnectTimer read write []
    loose.toGuarded formed (List.forall_mem_nil _)
  rw [List.append_nil] at guarded
  refine ⟨⟨guarded, fun behaved => ?_, loose.settled⟩, loose.dark, loose.unarmed⟩
  have owns := loose.owns behaved
  exact ⟨owns.timer, owns.held, owns.closed, owns.used, owns.owned⟩

/-- A connection structure that could not be allocated. -/
theorem Loose.unallocated (loose : Loose w) : Sole { w with log := w.log ++ [.unallocated] } :=
  loose.toSole.noted .unallocated w.clients rfl rfl

/-- The state after a connection structure was set up and its server was tried. -/
def World.tried (w : World) (server : Nat) : World := { w with
  attached := true, nc := { server := server }, log := w.log ++ [.opened] ++ [.attempt server] }

/-- The history of a new connection begins with its attempt. -/
theorem onConnection_tried (w : World) (server : Nat) :
    onConnection (w.tried server).log = [.attempt server] := by
  have fresh : onConnection (w.log ++ [.opened]) = [] := History.since_marked _ rfl
  have next : onConnection (w.log ++ [.opened] ++ [.attempt server]) =
      onConnection (w.log ++ [.opened]) ++ [.attempt server] := History.since_unmarked _ rfl
  have log : (w.tried server).log = w.log ++ [.opened] ++ [.attempt server] := rfl
  rw [log, next, fresh, List.nil_append]

/-- Nothing was received on a connection that was just set up, and it was not closed. -/
theorem unused_tried (w : World) (server : Nat) : ¬Used (onConnection (w.tried server).log) ∧
    .shut ∉ onConnection (w.tried server).log := by
  rw [onConnection_tried]
  refine ⟨?_, by simp⟩
  rintro ⟨event, inside, received⟩
  rw [List.mem_singleton.mp inside] at received
  cases received

/-- A connection structure is set up where no socket is open. -/
theorem Loose.tried (loose : Loose w) (server : Nat) : Loose (w.tried server) := by
  obtain ⟨unused, unshut⟩ := unused_tried w server
  have guarded := guarded_connects.attempt server (guarded_connects.opened server loose.toGuarded)
  have before (behaved : Behaved (w.tried server).log) : Behaved w.log :=
    Behaved.left (Behaved.left behaved)
  refine ⟨⟨guarded, fun behaved => ?_, fun behaved => ?_⟩, fun _ => rfl,
    fun behaved => loose.unarmed (before behaved)⟩
  · have owns := loose.owns (before behaved)
    refine ⟨fun _ => rfl, fun lit => (by cases lit), fun _ => rfl,
      fun used => absurd used unused, ?_⟩
    refine History.throughout_concat.mpr ⟨?_, trivial⟩
    refine History.throughout_concat.mpr ⟨owns.owned, fun used => ?_⟩
    refine (owns.used used).resolve_right ?_
    rw [loose.dark (before behaved)]
    exact Bool.false_ne_true
  · have same : Closing (w.tried server).log ↔ Closing w.log := by
      have closed : History.since Event.isClosed (w.tried server).log =
          History.since Event.isClosed w.log ++ [.opened] ++ [.attempt server] := by
        have first : History.since Event.isClosed (w.log ++ [.opened]) =
            History.since Event.isClosed w.log ++ [.opened] := History.since_unmarked _ rfl
        rw [← first]
        exact History.since_unmarked _ rfl
      unfold Closing
      rw [closed]
      simp
    exact fun closing => loose.settled (before behaved) (same.mp closing)

/-- The socket of a connection that was just set up. -/
theorem Loose.wired (loose : Loose w) (server clock : Nat) {c : Connection}
    (opened : c.fdOpen = true) :
    Sole { w.tried server with
      clock := clock, nc := { server := server, connection := some c } } := by
  have tried := (loose.tried server).chosen clock w.currIndex w.readBuf w.writeBuf id
  obtain ⟨unused, unshut⟩ := unused_tried w server
  refine ⟨guarded_connects.wired c tried.toGuarded opened rfl, fun behaved => ?_, tried.settled⟩
  have owns := tried.owns behaved
  refine ⟨fun armed => ?_, fun _ => rfl, fun shut => absurd shut unshut,
    fun used => absurd used unused, owns.owned⟩
  have none : w.reconnectTimer = Option.none := tried.unarmed behaved
  have armed : w.reconnectTimer.isSome = true := armed
  rw [none] at armed
  cases armed

/-- Closing a connection leaves no socket open, and connects again or waits. -/
theorem closeConnection_sole (calls : CallsSole env k) (sole : Sole w) (reason : Reason) :
    Leads (closeConnection env k reason true) w (fun _ => Sole) Owning := by
  refine closeConnection_through Dark (fun _ => sole.owning) sole.shutDown ?_ ?_
  · intro i w₁ dark₁
    apply Leads.of_run (emit_bind w₁ (.disconnected i) _)
    exact calls.mourns _ (dark₁.noted (.disconnected i) w₁.clients rfl rfl)
  · intro immediate w₁ dark₁
    have abandoned := dark₁.abandoned reason
    have dark (behaved : Behaved (w₁.abandoned reason).log) : (w₁.abandoned reason).live = none :=
      dark₁.dark (Behaved.left behaved)
    apply abandon_through
    · refine calls.connect ⟨⟨abandoned.toGuarded.unscheduled, fun behaved => ?_, abandoned.settled⟩,
        dark, fun _ => rfl⟩
      have owns := abandoned.owns behaved
      exact ⟨fun armed => (by cases armed), owns.held, owns.closed, owns.used, owns.owned⟩
    · exact abandoned.arms dark

/-- The one socket survives what the module does while it is connected. -/
theorem CallsSole.keeps (calls : CallsSole env k) : Keeps env k Sole Owning where
  initialised sole := sole.dataSet
  formed sole := sole.formed
  faults sole := sole.owning
  calm sole calm := sole.calm calm
  called call sole := sole.calledWith call
  close reason sole := closeConnection_sole calls sole reason
  callback call sole := calls.callback call sole
  received bytes sole live := sole.received bytes live
  ready := by
    intro w sole _
    have ready := sole.becomesReady
    apply Leads.get
    apply Leads.bind (Leads.require (fun _ _ => ready) fun _ => ready.owning)
    intro _ w₁ ready₁
    apply Leads.forEach ready₁
    rintro ⟨client, i⟩ - w₂ sole₂
    apply Leads.of_run (emit_bind w₂ (.connected i) _)
    exact calls.callback _ (sole₂.noted (.connected i) w₂.clients rfl rfl)
  addClient := by
    intro w client sole
    apply Leads.get
    split
    · exact Leads.pure sole
    · apply Leads.of_run (ask_bind w env.arrayPush _)
      have asked : Calm w { w with clock := w.clock + 1 } := ask_calm env.arrayPush w
      have sole₁ := sole.calm asked
      split
      · exact Leads.pure sole₁
      · apply Leads.of_run (record_bind _ .registered _ _)
        have registered := sole₁.noted .registered (w.clients ++ [client]) rfl rfl
        split
        · exact Leads.pure registered
        · split
          · exact Leads.pure registered
          · apply Leads.of_run (emit_bind _ (.connected w.clients.length) _)
            have told := registered.noted (.connected w.clients.length) (w.clients ++ [client])
              rfl rfl
            apply Leads.bind (calls.callback _ told)
            intro _ w₂ sole₂
            exact Leads.pure sole₂

/-- A round of connecting: the next one starts like this one, and the last one ends it. -/
theorem connectLoop_sole (calls : CallsSole env k) (loose : Loose w) :
    Leads (connectLoop env k) w
      (fun rc w' => Sole w' ∧ (rc = ngxAgain → Loose w')) Owning := by
  have chooses : Leads (nextServer env) w (fun _ => Loose) Owning := by
    apply Leads.get
    split
    · exact Leads.of_run (Program.modify_bind _ _ w)
        (Leads.pure (loose.chosen w.clock _ w.readBuf w.writeBuf id))
    · exact Leads.of_run (Program.modify_bind _ _ w)
        (Leads.pure (loose.chosen w.clock _ w.readBuf w.writeBuf id))
  apply Leads.bind chooses
  intro more w₁ loose₁
  split
  · apply Leads.bind (loose₁.toSole.arms loose₁.dark)
    intro _ w₂ sole₂
    exact Leads.pure ⟨sole₂, fun again => absurd again (by decide)⟩
  · apply Leads.of_run (Program.modify_bind _ _ w₁)
    apply Leads.of_run (ask_bind _ env.pcalloc _)
    have asked := loose₁.chosen (w₁.clock + 1) w₁.currIndex w₁.readBuf.reset w₁.writeBuf.reset
      Buf.WellFormed.reset
    split
    · apply Leads.of_run (emit_bind _ .unallocated _)
      exact Leads.pure ⟨asked.unallocated, fun again => absurd again (by decide)⟩
    · apply Leads.get
      split
      · exact Leads.fault asked.owning
      · apply Leads.of_run (record_bind _ .opened _ _)
        apply Leads.of_run (emit_bind _ (.attempt w₁.currIndex.toNat) _)
        apply Leads.of_run (ask_bind _ env.connectPeer _)
        have tried := (asked.tried w₁.currIndex.toNat).chosen (w₁.clock + 1 + 1) w₁.currIndex
          w₁.readBuf.reset w₁.writeBuf.reset id
        split
        · exact Leads.pure ⟨tried.toSole, fun _ => tried⟩
        · exact Leads.pure ⟨tried.toSole, fun _ => tried⟩
        · exact Leads.pure ⟨tried.toSole, fun _ => tried⟩
        · apply Leads.of_run (setNc_bind _ _ _)
          have opening := asked.wired w₁.currIndex.toNat (w₁.clock + 1 + 1)
            (rfl : ({ writeTimer := some 5000 } : Connection).fdOpen = true)
          exact Leads.pure ⟨opening, fun again => absurd again (by decide)⟩
        · apply Leads.of_run (setNc_bind _ _ _)
          have wired := asked.wired w₁.currIndex.toNat (w₁.clock + 1 + 1)
            (rfl : ({} : Connection).fdOpen = true)
          apply Leads.bind (calls.keeps.leads wired (connectionInit_calm _))
          intro _ w₂ sole₂
          apply Leads.bind (calls.keeps.flush sole₂)
          intro _ w₃ sole₃
          exact Leads.pure ⟨sole₃, fun again => absurd again (by decide)⟩

/-- `ngx_nats_connect` sets up one connection, or arms the timer. -/
theorem connect_sole (calls : CallsSole env k) (loose : Loose w) :
    Leads (connect env k) w (fun _ => Sole) Owning := by
  apply Leads.repeatUntil Loose
  · exact fun _ loose₁ => loose₁.owning
  · intro w₁ loose₁
    apply Leads.bind (connectLoop_sole calls loose₁)
    rintro rc w₂ ⟨sole₂, again⟩
    split
    · exact Leads.pure sole₂
    · next same => exact Leads.pure (again (not_not.mp same))
  · exact loose

/-- Connecting and the callbacks keep sockets owned, to any depth. -/
theorem callsSole (env : Env) (depth : Nat) : CallsSole env (calls env depth) := by
  induction depth with
  | zero =>
    refine ⟨calls_act env 0, callsGuard env 0, fun loose => ?_, fun _ sole => ?_, fun _ dark => ?_⟩
    · exact Leads.fault loose.owning
    · exact Leads.fault sole.owning
    · exact Leads.fault dark.owning
  | succ depth ih =>
    exact ⟨calls_act env (depth + 1), callsGuard env (depth + 1),
      fun loose => connect_sole ih loose, fun call sole => ih.keeps.script sole call,
      fun call dark => dark.script ih call⟩

/-- `ngx_nats_init` starts with no socket and no timer. -/
theorem Unstarted.loose (unstarted : Unstarted w) : Loose { w with dataSet := true } := by
  have unowned : ∀ event ∈ w.log, event.unowned = true := by
    intro event inside
    have called := unstarted.log event inside
    cases event with
    | called => rfl
    | _ => cases called
  have unshut : .shut ∉ w.log := fun inside => absurd (unowned _ inside) Bool.false_ne_true
  have unused : ¬Used (onConnection w.log) := by
    rintro ⟨event, inside, received⟩
    have apart := unowned event (History.mem_of_mem_since _ inside)
    cases event with
    | received => cases apart
    | _ => cases received
  refine ⟨⟨unstarted.guarded, fun _ => ⟨?_, ?_, ?_, ?_, ?_⟩, ?_⟩, fun _ => unstarted.live,
    fun _ => unstarted.reconnectTimer⟩
  · exact fun _ => unstarted.live
  · intro lit
    have lit : w.live.isSome = true := lit
    rw [unstarted.live] at lit
    cases lit
  · exact fun _ => unstarted.live
  · exact fun used => absurd used unused
  · rintro before event after split
    exact owned_of_unowned (unowned event (by simp [show w.log = _ from split]))
  · exact fun _ closing => unshut (History.mem_of_mem_since _ closing)

/-- A run keeps sockets owned from `ngx_nats_init` on. -/
theorem run_sole (env : Env) (depth : Nat) (events : List Step) (read write : Memory UInt8) :
    Leads (run env depth events) (.start read write) (fun _ w => Unstarted w ∨ Sole w)
      Owning := by
  have calls := callsSole env depth
  refine calls.keeps.run ?_ (fun unstarted => calls.connect unstarted.loose) events read write
  intro w sole armed
  refine calls.connect ⟨⟨sole.toGuarded.unscheduled, fun behaved => ?_, sole.settled⟩,
    fun behaved => (sole.owns behaved).timer armed, fun _ => rfl⟩
  have owns := sole.owns behaved
  exact ⟨fun absurd => (by cases absurd), owns.held, owns.closed, owns.used, owns.owned⟩

/-- The module is connected, or connecting: its socket is open, and no timer is set. -/
def Connected (w : World) : Prop :=
  w.attached = true ∧ w.live.isSome = true ∧ w.reconnectTimer = none

/-- The module waits for the reconnect timer: no socket is open, and clients are refused. -/
def Waiting (w : World) : Prop :=
  w.reconnectTimer.isSome = true ∧ w.live = none ∧ ¬(w.attached = true ∧ w.nc.state = stateReady)

section Runs

variable (env : Env) (depth : Nat) (steps : List Step) (read write : Memory UInt8)

/-- The module is connected or waits, and never both: whenever an event handler has finished, in
every run in which no connection structure failed to be allocated, every connection became READY on
received bytes, and no client function was called while a connection was being closed. -/
theorem one_mode (finished : (run env depth steps (.start read write)).1 = .ok ())
    (initialised : (reached env depth steps read write).dataSet = true)
    (allocated : .unallocated ∉ (reached env depth steps read write).log)
    (received : Throughout ReadyReceived (reached env depth steps read write).log)
    (outside : Throughout NotWhileClosing (reached env depth steps read write).log) :
    Connected (reached env depth steps read write) ∨
      Waiting (reached env depth steps read write) := by
  have ended : run env depth steps (.start read write) =
      (.ok (), reached env depth steps read write) := by
    rw [← finished]
    rfl
  have started (unstarted : Unstarted (reached env depth steps read write)) : False :=
    absurd (unstarted.dataSet.symm.trans initialised) Bool.false_ne_true
  have anchored : Anchored (reached env depth steps read write) := by
    rcases (run_moors env depth steps read write).ok ended with unstarted | moored
    · exact (started unstarted).elim
    · exact moored.anchored.resolve_right allocated
  rcases (run_sole env depth steps read write).ok ended with unstarted | sole
  · exact (started unstarted).elim
  · have behaved : Behaved (reached env depth steps read write).log := ⟨received, outside⟩
    have owns := sole.owns behaved
    cases armed : (reached env depth steps read write).reconnectTimer.isSome with
    | false =>
      left
      have unarmed := Option.not_isSome_iff_eq_none.mp fun set =>
        absurd (armed.symm.trans set) Bool.false_ne_true
      rcases anchored with ⟨attached, live⟩ | set
      · exact ⟨attached, live, unarmed⟩
      · exact absurd (armed.symm.trans set) Bool.false_ne_true
    | true =>
      right
      have dark := owns.timer armed
      refine ⟨armed, dark, fun ⟨attached, ready⟩ => ?_⟩
      have okayed : (reached env depth steps read write).nc.state.connectOkayed = true := by
        rw [ready]
        rfl
      have lit := (sole.safe received).ready (sole.settled behaved) attached okayed
      rw [dark] at lit
      cases lit

/-- The server closes the connection, and the only server is not tried twice: the module waits. -/
theorem one_mode_lost : Connected (reached granting 2 saidBefore (fun _ => 0) fun _ => 0) ∨
    Waiting (reached granting 2 saidBefore (fun _ => 0) fun _ => 0) := by
  have facts : ((reached granting 2 saidBefore (fun _ => 0) fun _ => 0).dataSet = true ∧
      .unallocated ∉ (reached granting 2 saidBefore (fun _ => 0) fun _ => 0).log) ∧
      Throughout ReadyReceived (reached granting 2 saidBefore (fun _ => 0) fun _ => 0).log ∧
      Throughout NotWhileClosing (reached granting 2 saidBefore (fun _ => 0) fun _ => 0).log := by
    decide +kernel
  obtain ⟨⟨initialised, allocated⟩, received, outside⟩ := facts
  exact one_mode granting 2 saidBefore (fun _ => 0) (fun _ => 0) (by decide +kernel) initialised
    allocated received outside

/-- Every socket is closed once, and before the next one. In every run in which every connection
became READY on received bytes and no client function was called while one was being closed, a
connection that received bytes is closed before another one is set up and before the module waits
for the timer; a socket is never closed twice, and nothing is received on it afterwards. -/
theorem sockets_owned (received : Throughout ReadyReceived (reached env depth steps read write).log)
    (outside : Throughout NotWhileClosing (reached env depth steps read write).log) :
    Throughout Owned (reached env depth steps read write).log := by
  have behaved : Behaved (reached env depth steps read write).log := ⟨received, outside⟩
  refine ((run_sole env depth steps read write).weaken ?_ fun _ => id).last behaved
  rintro _ w (unstarted | sole)
  · intro _ before event after split
    have called := unstarted.log event (by simp [split])
    cases event with
    | called => exact trivial
    | _ => cases called
  · exact sole.owning

/-- The connection becomes READY, a client publishes, and the server closes the connection. -/
theorem sockets_owned_lost :
    Throughout Owned (reached granting 2 saidBefore (fun _ => 0) fun _ => 0).log := by
  have facts :
      Throughout ReadyReceived (reached granting 2 saidBefore (fun _ => 0) fun _ => 0).log ∧
      Throughout NotWhileClosing (reached granting 2 saidBefore (fun _ => 0) fun _ => 0).log := by
    decide +kernel
  exact sockets_owned granting 2 saidBefore (fun _ => 0) (fun _ => 0) facts.1 facts.2

end Runs

end NgxNats
