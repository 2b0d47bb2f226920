import NgxNats.Verif.Stranded

/-!
# Connected is delivered once

A connection that becomes READY is told to every client registered by then in
`ngx_nats_connection_ready`, and to every later one in `ngx_nats_add_client`. The state is READY
before the first callback is called, so a client that is registered from inside a callback is told
at once, and the loop does not come to it.
-/
namespace NgxNats

open Program (Leads Moves)

/-- The events since the log had the given length. -/
def World.added (base : Nat) (w : World) : List Event := w.log.drop base

/-- How often a client was told of a connection. -/
def toldTimes (i : Nat) (events : List Event) : Nat := events.count (.connected i)

/-- The events that end a connection: it is closed, or another one is opened. -/
def Event.leaves : Event → Bool
  | .closed _ | .opened => true
  | _ => false

/-- The connection that is open at the start was left. -/
def Left (base : Nat) (w : World) : Prop := ∃ event ∈ w.added base, event.leaves = true

/-- On the connection: once it is READY exactly the clients in `told` were told, once each; the
others have still to be told. -/
structure OnConnection (base : Nat) (told : Nat → Bool) (w : World) : Prop where
  attached : w.attached = true
  unready : w.nc.state.connectOkayed = false →
    (∀ i, told i = true) ∧ ∀ i, toldTimes i (w.added base) = 0
  ready : w.nc.state.connectOkayed = true → w.nc.state = stateReady ∧
    ∀ i, i < w.clients.length → toldTimes i (w.added base) = (told i).toNat
  later : ∀ i, w.clients.length ≤ i → told i = true ∧ toldTimes i (w.added base) = 0

/-- What an initialised module keeps about the callbacks since the log had the given length. -/
structure Greeting (base : Nat) (told : Nat → Bool) (w : World) : Prop extends Working w where
  since : base ≤ w.log.length
  outcome : Left base w ∨ OnConnection base told w

/-- On the connection no client is told twice. -/
def AtMostOnce (base : Nat) (w : World) : Prop :=
  Left base w ∨ ∀ i, toldTimes i (w.added base) ≤ 1

variable {env : Env} {k : Calls} {base : Nat} {told : Nat → Bool} {w w' : World}

/-- What is added to the log is added since an earlier length of it. -/
theorem added_append {events : List Event} (since : base ≤ w.log.length)
    (log : w'.log = w.log ++ events) : w'.added base = w.added base ++ events := by
  unfold World.added
  rw [log, List.drop_append_of_le_length since]

/-- Events that are no such callback. -/
theorem toldTimes_append {events : List Event} (i : Nat) (more : List Event)
    (other : .connected i ∉ events) : toldTimes i (more ++ events) = toldTimes i more := by
  unfold toldTimes
  rw [List.count_append, List.count_eq_zero.mpr other, Nat.add_zero]

/-- What happens later does not bring the connection back. -/
theorem Left.grows {events : List Event} (left : Left base w) (since : base ≤ w.log.length)
    (log : w'.log = w.log ++ events) : Left base w' := by
  obtain ⟨event, inside, leaves⟩ := left
  refine ⟨event, ?_, leaves⟩
  rw [added_append since log]
  exact List.mem_append_left events inside

/-- After the connection was left anything may happen. -/
theorem Greeting.acts (greeting : Greeting base told w) (left : Left base w)
    (acts : Acts env w w') :
    Greeting base told w' := by
  obtain ⟨events, log⟩ := acts.grows greeting.formed
  refine ⟨greeting.toWorking.acts acts, ?_, .inl (left.grows greeting.since log)⟩
  rw [log, List.length_append]
  exact Nat.le_trans greeting.since (Nat.le_add_right _ _)

/-- A client was told at most once, whether it was in `told` or not. -/
theorem Greeting.atMostOnce (greeting : Greeting base told w) : AtMostOnce base w := by
  rcases greeting.outcome with left | on
  · exact .inl left
  · refine .inr fun i => ?_
    by_cases inside : i < w.clients.length
    · cases okayed : w.nc.state.connectOkayed with
      | false =>
        rw [(on.unready okayed).2 i]
        exact Nat.zero_le 1
      | true =>
        rw [(on.ready okayed).2 i inside]
        exact Bool.toNat_le _
    · rw [(on.later i (Nat.not_lt.mp inside)).2]
      exact Nat.zero_le 1

/-- A part of the module that runs after the connection was left. -/
theorem Greeting.leads {α : Type} {program : Comm α} (greeting : Greeting base told w)
    (left : Left base w) (moves : Moves (Acts env) program w) :
    Leads program w (fun _ => Greeting base told) (AtMostOnce base) :=
  moves.leads.weaken (fun _ _ acts => greeting.acts left acts)
    fun _ acts => (greeting.acts left acts).atMostOnce

/-- A change that keeps the clients and the connection, without callbacks to tell of one. -/
theorem OnConnection.keep {events : List Event} (on : OnConnection base told w)
    (since : base ≤ w.log.length) (clients : w'.clients = w.clients)
    (attached : w'.attached = w.attached)
    (okayed : w'.nc.state.connectOkayed = w.nc.state.connectOkayed)
    (ready : w.nc.state = stateReady → w'.nc.state = stateReady)
    (log : w'.log = w.log ++ events) (other : ∀ i, .connected i ∉ events) :
    OnConnection base told w' := by
  have same (i : Nat) : toldTimes i (w'.added base) = toldTimes i (w.added base) := by
    rw [added_append since log, toldTimes_append i _ (other i)]
  refine ⟨by rw [attached, on.attached], ?_, ?_, ?_⟩
  · intro unready
    rw [okayed] at unready
    obtain ⟨all, none⟩ := on.unready unready
    exact ⟨all, fun i => by rw [same, none i]⟩
  · intro ready'
    rw [okayed] at ready'
    obtain ⟨state, times⟩ := on.ready ready'
    refine ⟨ready state, fun i inside => ?_⟩
    rw [clients] at inside
    rw [same, times i inside]
  · intro i beyond
    rw [clients] at beyond
    rw [same]
    exact on.later i beyond

/-- A change that keeps the connection, the clients and the state, and tells no client, keeps the
greeting. -/
theorem Greeting.keep {events : List Event} (greeting : Greeting base told w)
    (dataSet : w'.dataSet = w.dataSet) (formed : w.writeBuf.WellFormed → w'.writeBuf.WellFormed)
    (clients : w'.clients = w.clients) (attached : w'.attached = w.attached)
    (okayed : w'.nc.state.connectOkayed = w.nc.state.connectOkayed)
    (ready : w.nc.state = stateReady → w'.nc.state = stateReady)
    (log : w'.log = w.log ++ events) (other : ∀ i, .connected i ∉ events) :
    Greeting base told w' := by
  refine ⟨⟨by rw [dataSet, greeting.dataSet], formed greeting.formed⟩, ?_, ?_⟩
  · rw [log, List.length_append]
    exact Nat.le_trans greeting.since (Nat.le_add_right _ _)
  · rcases greeting.outcome with left | on
    · exact .inl (left.grows greeting.since log)
    · exact .inr (on.keep greeting.since clients attached okayed ready log other)

/-- A calm change keeps the greeting. -/
theorem Greeting.calm (greeting : Greeting base told w) (calm : Calm w w') :
    Greeting base told w' := by
  obtain ⟨events, log, calmly⟩ := calm.log
  exact greeting.keep calm.dataSet calm.formed calm.clients calm.attached calm.okayed calm.ready log
    fun i inside => absurd (calmly _ inside) Bool.false_ne_true

/-- The callbacks go on greeting, whoever has still to be told. -/
structure CallsGreet (env : Env) (k : Calls) (base : Nat) : Prop extends CallsAct env k where
  greet : ∀ told {w} call, Greeting base told w →
    Leads (k.callback call) w (fun _ => Greeting base told) (AtMostOnce base)

/-- An event that is no such callback. -/
theorem Greeting.noted (greeting : Greeting base told w) (event : Event)
    (other : ∀ i, event ≠ .connected i) :
    Greeting base told { w with log := w.log ++ [event] } := by
  refine greeting.keep rfl id rfl rfl rfl id rfl ?_
  intro i inside
  exact other i (List.mem_singleton.mp inside).symm

/-- Closing the socket keeps the greeting. -/
theorem Greeting.shutDown (greeting : Greeting base told w) : Greeting base told w.shutDown := by
  refine greeting.keep rfl id rfl rfl rfl id rfl ?_
  intro i inside
  split at inside
  · cases List.mem_singleton.mp inside
  · cases inside

/-- Closing the connection leaves it. -/
theorem Greeting.abandoned (greeting : Greeting base told w) (reason : Reason) :
    Greeting base told (w.abandoned reason) ∧ Left base (w.abandoned reason) := by
  have log : (w.abandoned reason).log = w.log ++ [.closed reason] := rfl
  have left : Left base (w.abandoned reason) := by
    refine ⟨.closed reason, ?_, rfl⟩
    rw [added_append greeting.since log]
    exact List.mem_append_right _ (List.mem_singleton_self _)
  refine ⟨⟨⟨greeting.dataSet, greeting.formed.reset⟩, ?_, .inl left⟩, left⟩
  rw [log, List.length_append]
  exact Nat.le_trans greeting.since (Nat.le_add_right _ _)

/-- Closing the connection tells no client of a connection that is not left by then. -/
theorem closeConnection_greets (calls : CallsGreet env k base) (greeting : Greeting base told w)
    (reason : Reason) :
    Leads (closeConnection env k reason true) w (fun _ => Greeting base told)
      (AtMostOnce base) := by
  refine closeConnection_through (Greeting base told) ?_ greeting.shutDown ?_ ?_
  · have unset : Calm w { w with nc := { w.nc with pingTimer := none } } :=
      setPingTimer_calm none w
    exact fun _ => (greeting.calm unset).atMostOnce
  · intro i w₁ greeting₁
    apply Leads.of_run (emit_bind w₁ (.disconnected i) _)
    exact calls.greet told _ (greeting₁.noted _ fun _ => Event.noConfusion)
  · intro immediate w₁ greeting₁
    obtain ⟨abandoned, left⟩ := greeting₁.abandoned reason
    apply abandon_through
    · have unscheduled : Acts env (w₁.abandoned reason)
          { w₁.abandoned reason with reconnectTimer := none } :=
        (Act.schedule (w₁.abandoned reason).currIndex none).acts rfl
      exact (abandoned.acts left unscheduled).leads left (calls.connect _)
    · exact abandoned.leads left (addReconnectTimer_acts _)

/-- Telling a client that has still to be told. -/
theorem Greeting.tell (greeting : Greeting base told w) {i : Nat} (due : told i = false) :
    Greeting base (Function.update told i true) { w with log := w.log ++ [.connected i] } := by
  have since : base ≤ (w.log ++ [Event.connected i]).length := by
    rw [List.length_append]
    exact Nat.le_trans greeting.since (Nat.le_add_right _ _)
  refine ⟨⟨greeting.dataSet, greeting.formed⟩, since, ?_⟩
  rcases greeting.outcome with left | on
  · exact .inl (left.grows greeting.since rfl)
  · have added : World.added base { w with log := w.log ++ [.connected i] } =
        w.added base ++ [.connected i] := added_append greeting.since rfl
    have missing (all : told i = true) : False := by
      rw [due] at all
      cases all
    refine .inr ⟨on.attached, ?_, ?_, ?_⟩
    · exact fun unready => (missing ((on.unready unready).1 i)).elim
    · intro okayed
      obtain ⟨state, times⟩ := on.ready okayed
      refine ⟨state, fun j inside => ?_⟩
      have before := times j inside
      rw [added]
      by_cases same : j = i
      · rw [same, Function.update_self]
        rw [same, due] at before
        unfold toldTimes at before ⊢
        rw [List.count_append, before, List.count_singleton_self]
        rfl
      · rw [Function.update_of_ne same, toldTimes_append, before]
        intro inside'
        cases List.mem_singleton.mp inside'
        exact same rfl
    · intro j beyond
      obtain ⟨all, none⟩ := on.later j beyond
      have other : j ≠ i := by
        rintro rfl
        exact missing all
      rw [Function.update_of_ne other, added, toldTimes_append]
      · exact ⟨all, none⟩
      · intro inside
        cases List.mem_singleton.mp inside
        exact other rfl

/-- A new client of a READY connection has still to be told. -/
theorem Greeting.register (greeting : Greeting base told w) (client : Client)
    (ready : w.nc.state = stateReady) :
    Greeting base (Function.update told w.clients.length false)
      { w with clients := w.clients ++ [client], log := w.log ++ [.registered] } := by
  have since : base ≤ (w.log ++ [Event.registered]).length := by
    rw [List.length_append]
    exact Nat.le_trans greeting.since (Nat.le_add_right _ _)
  refine ⟨⟨greeting.dataSet, greeting.formed⟩, since, ?_⟩
  rcases greeting.outcome with left | on
  · exact .inl (left.grows greeting.since rfl)
  · have added : World.added base { w with
        clients := w.clients ++ [client], log := w.log ++ [.registered] } =
        w.added base ++ [.registered] := added_append greeting.since rfl
    have same (i : Nat) : toldTimes i (w.added base ++ [.registered]) =
        toldTimes i (w.added base) := by
      apply toldTimes_append
      intro inside
      cases List.mem_singleton.mp inside
    have okayed : w.nc.state.connectOkayed = true := by
      rw [ready]
      rfl
    refine .inr ⟨on.attached, ?_, fun _ => ⟨ready, ?_⟩, ?_⟩
    · exact fun unready => absurd (unready.symm.trans okayed) Bool.false_ne_true
    · intro i inside
      rw [added, same]
      by_cases new : i = w.clients.length
      · rw [new, Function.update_self, (on.later _ (Nat.le_refl _)).2]
        rfl
      · rw [List.length_append, List.length_singleton] at inside
        rw [Function.update_of_ne new]
        exact (on.ready okayed).2 i (by omega)
    · intro i beyond
      rw [List.length_append, List.length_singleton] at beyond
      rw [added, same, Function.update_of_ne (by omega)]
      exact on.later i (by omega)

/-- A new client of a connection that is not READY has nothing to be told. -/
theorem Greeting.registerUnready (greeting : Greeting base told w) (client : Client)
    (unready : ¬(w.attached = true ∧ w.nc.state = stateReady)) :
    Greeting base told
      { w with clients := w.clients ++ [client], log := w.log ++ [.registered] } := by
  have since : base ≤ (w.log ++ [Event.registered]).length := by
    rw [List.length_append]
    exact Nat.le_trans greeting.since (Nat.le_add_right _ _)
  refine ⟨⟨greeting.dataSet, greeting.formed⟩, since, ?_⟩
  rcases greeting.outcome with left | on
  · exact .inl (left.grows greeting.since rfl)
  · have off : w.nc.state.connectOkayed = false := by
      by_contra okayed
      exact unready ⟨on.attached, (on.ready (Bool.eq_true_of_not_eq_false okayed)).1⟩
    obtain ⟨all, none⟩ := on.unready off
    have same (i : Nat) : toldTimes i (World.added base { w with
        clients := w.clients ++ [client], log := w.log ++ [.registered] }) = 0 := by
      rw [added_append greeting.since rfl, toldTimes_append, none i]
      intro inside
      cases List.mem_singleton.mp inside
    refine .inr ⟨on.attached, fun _ => ⟨all, same⟩, ?_, fun i _ => ⟨all i, same i⟩⟩
    exact fun okayed => absurd (off.symm.trans okayed) Bool.false_ne_true

/-- Telling a client and running its callback. -/
theorem tell_greets (calls : CallsGreet env k base) (greeting : Greeting base told w) {i : Nat}
    (due : told i = false) :
    Leads (do
      emit (.connected i)
      k.callback (.connected i)) w (fun _ => Greeting base (Function.update told i true))
      (AtMostOnce base) := by
  apply Leads.of_run (emit_bind w (.connected i) fun _ => k.callback (.connected i))
  exact calls.greet _ _ (greeting.tell due)

/-- A client that registers is told at once on a READY connection, and not yet on another one. -/
theorem addClient_greets (calls : CallsGreet env k base) (greeting : Greeting base told w)
    (client : Client) :
    Leads (addClient env k client) w (fun _ => Greeting base told) (AtMostOnce base) := by
  rcases greeting.outcome with left | on
  · exact greeting.leads left (addClient_acts calls.toCallsAct client w)
  · have again : Function.update (Function.update told w.clients.length false) w.clients.length
        true = told := by
      rw [Function.update_idem, ← (on.later _ (Nat.le_refl _)).1, Function.update_eq_self]
    apply Leads.get
    split
    · exact Leads.pure greeting
    · apply Leads.of_run (ask_bind w env.arrayPush _)
      have asked : Calm w { w with clock := w.clock + 1 } := ask_calm env.arrayPush w
      have greeting₁ := greeting.calm asked
      split
      · exact Leads.pure greeting₁
      · apply Leads.of_run (record_bind _ .registered _ _)
        split
        · next detached =>
          exact Leads.pure (greeting₁.registerUnready client fun both => detached both.1)
        · split
          · next other =>
            exact Leads.pure (greeting₁.registerUnready client fun both => other both.2)
          · next ready =>
            rw [not_not] at ready
            have registered := greeting₁.register client ready
            change Leads ((do
              emit (.connected w.clients.length)
              k.callback (.connected w.clients.length)) >>= fun _ => pure ngxOk) _ _ _
            apply Leads.bind (tell_greets calls registered (Function.update_self _ _ _))
            intro _ w₂ greeting₂
            rw [again] at greeting₂
            exact Leads.pure greeting₂

/-- The clients that the loop of `ngx_nats_connection_ready` has come to, and those registered
since it began. -/
def reachedBy (n count : Nat) (i : Nat) : Bool := decide (i < n ∨ count ≤ i)

/-- The loop of `ngx_nats_connection_ready` tells the clients it counted, one after the other,
and `ngx_nats_add_client` tells those that are registered meanwhile. -/
theorem tellAll_greets (calls : CallsGreet env k base) (clients : List Client)
    (greeting : Greeting base (reachedBy 0 clients.length) w) :
    Leads (Program.forEach clients.zipIdx fun (_, i) => do
      emit (.connected i)
      k.callback (.connected i)) w (fun _ => Greeting base fun _ => true) (AtMostOnce base) := by
  -- Over the clients that are left; those before them have been told.
  have loop : ∀ (rest : List Client) (n : Nat) (w₁ : World), n + rest.length = clients.length →
      Greeting base (reachedBy n clients.length) w₁ →
      Leads (Program.forEach (rest.zipIdx n) fun (_, i) => do
        emit (.connected i)
        k.callback (.connected i)) w₁ (fun _ => Greeting base fun _ => true)
        (AtMostOnce base) := by
    intro rest
    induction rest with
    | nil =>
      intro n w₁ all greeting₁
      rw [List.length_nil, Nat.add_zero] at all
      have every : reachedBy n clients.length = fun _ => true := by
        funext i
        rw [reachedBy, all, decide_eq_true (Nat.lt_or_ge i clients.length)]
      rw [every] at greeting₁
      exact Leads.pure greeting₁
    | cons client rest ih =>
      intro n w₁ all greeting₁
      rw [List.length_cons] at all
      have due : reachedBy n clients.length n = false :=
        decide_eq_false (by omega)
      have next : Function.update (reachedBy n clients.length) n true =
          reachedBy (n + 1) clients.length := by
        funext i
        by_cases same : i = n
        · rw [same, Function.update_self, reachedBy, decide_eq_true (.inl (Nat.lt_succ_self n))]
        · rw [Function.update_of_ne same]
          unfold reachedBy
          congr 1
          exact propext (by omega)
      rw [List.zipIdx_cons]
      apply Leads.bind (tell_greets calls greeting₁ due)
      intro _ w₂ greeting₂
      rw [next] at greeting₂
      exact ih (n + 1) w₂ (by omega) greeting₂
  exact loop clients 0 w (Nat.zero_add _) greeting

/-- Becoming READY tells every client that was registered before, once. -/
theorem connectionReady_greets (calls : CallsGreet env k base) (greeting : Greeting base told w)
    (unready : w.nc.state.connectOkayed = false) :
    Leads (connectionReady k) { w with
      nc := { w.nc with state := stateReady }
      log := w.log ++ [.ready w.nc.state w.nc.srvVersion] } (fun _ => Greeting base told)
      (AtMostOnce base) := by
  have since : base ≤ (w.log ++ [Event.ready w.nc.state w.nc.srvVersion]).length := by
    rw [List.length_append]
    exact Nat.le_trans greeting.since (Nat.le_add_right _ _)
  have working : Working { w with
      nc := { w.nc with state := stateReady }
      log := w.log ++ [.ready w.nc.state w.nc.srvVersion] } := ⟨greeting.dataSet, greeting.formed⟩
  rcases greeting.outcome with left | on
  · have left₁ : Left base { w with
        nc := { w.nc with state := stateReady }
        log := w.log ++ [.ready w.nc.state w.nc.srvVersion] } := left.grows greeting.since rfl
    have greeting₁ : Greeting base told _ := ⟨working, since, .inl left₁⟩
    exact greeting₁.leads left₁ (connectionReady_acts calls.toCallsAct _)
  · obtain ⟨all, none⟩ := on.unready unready
    have every : told = fun _ => true := funext all
    have same (i : Nat) : toldTimes i (World.added base { w with
        nc := { w.nc with state := stateReady }
        log := w.log ++ [.ready w.nc.state w.nc.srvVersion] }) = 0 := by
      rw [added_append greeting.since rfl, toldTimes_append, none i]
      intro inside
      cases List.mem_singleton.mp inside
    have greeting₁ : Greeting base (reachedBy 0 w.clients.length) { w with
        nc := { w.nc with state := stateReady }
        log := w.log ++ [.ready w.nc.state w.nc.srvVersion] } := by
      refine ⟨working, since, .inr ⟨on.attached, ?_, fun _ => ⟨rfl, ?_⟩, ?_⟩⟩
      · exact fun unready => absurd unready.symm Bool.false_ne_true
      · intro i inside
        have counted : i < w.clients.length := inside
        rw [same, reachedBy, decide_eq_false (by omega)]
        rfl
      · intro i beyond
        exact ⟨decide_eq_true (.inr beyond), same i⟩
    rw [every]
    apply Leads.get
    apply Leads.bind (Leads.require (fun _ _ => greeting₁) fun _ => greeting₁.atMostOnce)
    intro _ w₂ greeting₂
    exact tellAll_greets calls w.clients greeting₂

/-- The greeting survives what the module does while it is connected. -/
theorem CallsGreet.keeps (calls : CallsGreet env k base) (told : Nat → Bool) :
    Keeps env k (Greeting base told) (AtMostOnce base) where
  initialised greeting := greeting.dataSet
  formed greeting := greeting.formed
  faults greeting := greeting.atMostOnce
  calm greeting calm := greeting.calm calm
  called _ greeting := greeting.noted _ fun _ => Event.noConfusion
  close reason greeting := closeConnection_greets calls greeting reason
  callback call greeting := calls.greet told call greeting
  received bytes greeting _ := by
    refine greeting.keep rfl id rfl rfl rfl id rfl ?_
    intro i inside
    cases List.mem_singleton.mp inside
  ready greeting unready := connectionReady_greets calls greeting unready
  addClient client greeting := addClient_greets calls greeting client

/-- The callbacks greet, to any depth. -/
theorem callsGreet (env : Env) (base depth : Nat) : CallsGreet env (calls env depth) base := by
  induction depth with
  | zero => exact ⟨calls_act env 0, fun _ _ _ greeting => Leads.fault greeting.atMostOnce⟩
  | succ depth ih =>
    exact ⟨calls_act env (depth + 1), fun told _ call greeting =>
      (ih.keeps told).script greeting call⟩

/-- Opening another connection leaves the one before. -/
theorem Greeting.opened (greeting : Greeting base told w) (nc : NatsConnection) :
    Greeting base told { w with attached := true, nc := nc, log := w.log ++ [.opened] } ∧
    Left base { w with attached := true, nc := nc, log := w.log ++ [.opened] } := by
  have since : base ≤ (w.log ++ [Event.opened]).length := by
    rw [List.length_append]
    exact Nat.le_trans greeting.since (Nat.le_add_right _ _)
  have left : Left base { w with attached := true, nc := nc, log := w.log ++ [.opened] } := by
    refine ⟨.opened, ?_, rfl⟩
    rw [added_append greeting.since rfl]
    exact List.mem_append_right _ (List.mem_singleton_self _)
  exact ⟨⟨⟨greeting.dataSet, greeting.formed⟩, since, .inl left⟩, left⟩

/-- Connecting leaves the connection, or does not open another one. -/
theorem greeting_connects (base : Nat) (told : Nat → Bool) : Connects (Greeting base told) where
  scheduled clock index timer read write events greeting formed known := by
    refine greeting.keep rfl formed rfl rfl rfl id rfl ?_
    intro i inside
    rcases known _ inside with armed | unallocated
    · cases armed
    · cases unallocated
  opened server greeting := (greeting.opened { server := server }).1
  attempt server greeting := greeting.noted _ fun _ => Event.noConfusion
  wired c greeting _ _ :=
    greeting.keep rfl id rfl rfl rfl id (List.append_nil _).symm fun _ => List.not_mem_nil

/-- When the reconnect timer expires. -/
theorem reconnect_greets (depth : Nat) (greeting : Greeting base told w) :
    Leads (calls env depth).connect { w with reconnectTimer := none }
      (fun _ => Greeting base told) (AtMostOnce base) := by
  have unscheduled : Greeting base told { w with reconnectTimer := none } :=
    greeting.keep rfl id rfl rfl rfl id (List.append_nil _).symm fun _ => List.not_mem_nil
  cases depth with
  | zero => exact Leads.fault unscheduled.atMostOnce
  | succ depth =>
    exact ((callsGreet env base depth).keeps told).connect (greeting_connects base told)
      unscheduled

/-- A run of events keeps greeting. -/
theorem run_greets (env : Env) (depth : Nat) (events : List Step)
    (greeting : Greeting base told w) :
    Leads (run env depth events) w (fun _ => Greeting base told) (AtMostOnce base) := by
  have keeps := (callsGreet env base depth).keeps told
  refine Leads.forEach greeting ?_
  intro event _ w₁ greeting₁
  exact keeps.step (fun greeting₂ _ => reconnect_greets depth greeting₂) greeting₁ event

/-- A connection that got its PONG is READY. -/
theorem reached_okayed (env : Env) (depth : Nat) (events : List Step) (read write : Memory UInt8) :
    (reached env depth events read write).nc.state.connectOkayed = true →
      (reached env depth events read write).nc.state = stateReady := by
  apply reached_invariant (fun w => w.nc.state.connectOkayed = true → w.nc.state = stateReady) env
    depth events read write
  · exact fun okayed => absurd okayed Bool.false_ne_true
  · intro w w' ready act
    cases act with
    | opened => exact fun okayed => absurd okayed Bool.false_ne_true
    | exchange =>
      intro okayed
      rw [ready okayed]
      rfl
    | initiate b event clock fresh =>
      intro okayed
      rw [ready okayed] at fresh
      cases fresh
    | info body n fields =>
      change (infoFields w.nc fields).1.state.connectOkayed = true →
        (infoFields w.nc fields).1.state = stateReady
      rw [(infoFields_keeps w.nc fields).state]
      exact ready
    | ready => exact fun _ => rfl
    | _ => exact ready

/-- Connected is delivered exactly once. While a connection that was not READY yet is neither
closed nor replaced, no client is told of it twice; and once it is READY and the event handlers
have finished, every client registered by then, whenever that was, has been told once. -/
theorem connected_once (env : Env) (depth : Nat) (before during : List Step)
    (read write : Memory UInt8)
    (attached : (reached env depth before read write).attached = true)
    (unready : (reached env depth before read write).nc.state ≠ stateReady)
    (stays : ∀ event ∈ (reached env depth (before ++ during) read write).added
      (reached env depth before read write).log.length, event.leaves = false) :
    (∀ i, toldTimes i ((reached env depth (before ++ during) read write).added
      (reached env depth before read write).log.length) ≤ 1) ∧
    ((run env depth (before ++ during) (.start read write)).1 = .ok () →
      (reached env depth (before ++ during) read write).nc.state = stateReady →
      ∀ i, i < (reached env depth (before ++ during) read write).clients.length →
        toldTimes i ((reached env depth (before ++ during) read write).added
          (reached env depth before read write).log.length) = 1) := by
  have off : (reached env depth before read write).nc.state.connectOkayed = false := by
    by_contra okayed
    exact unready (reached_okayed env depth before read write (Bool.eq_true_of_not_eq_false okayed))
  have split : run env depth (before ++ during) (.start read write) =
      (run env depth before >>= fun _ => run env depth during) (.start read write) := by
    unfold run
    rw [Program.forEach_append]
  generalize start : reached env depth before read write = w at *
  match first : run env depth before (.start read write) with
  | (.error stop, w') =>
    have same : w' = w := by
      rw [← start, reached, first]
    have ended : run env depth (before ++ during) (.start read write) = (.error stop, w) := by
      rw [split, Program.bind_error first, same]
    have stopped : reached env depth (before ++ during) read write = w := by
      rw [reached, ended]
    have none : w.added w.log.length = [] := List.drop_length
    rw [stopped, none, ended]
    refine ⟨fun i => Nat.zero_le 1, ?_⟩
    rintro ⟨⟩
  | (.ok (), w') =>
    have same : w' = w := by
      rw [← start, reached, first]
    rw [same] at first
    have working : Working w := by
      rcases (run_moors env depth before read write).ok first with unstarted | moored
      · exact absurd (unstarted.attached.symm.trans attached) Bool.false_ne_true
      · exact moored.toWorking
    have none (i : Nat) : toldTimes i (w.added w.log.length) = 0 := by
      rw [World.added, List.drop_length]
      rfl
    have greeting : Greeting w.log.length (fun _ => true) w := by
      refine ⟨working, Nat.le_refl _, .inr ⟨attached, fun _ => ⟨fun _ => rfl, none⟩, ?_, ?_⟩⟩
      · exact fun okayed => absurd (off.symm.trans okayed) Bool.false_ne_true
      · exact fun i _ => ⟨rfl, none i⟩
    rw [Program.bind_ok first] at split
    have later : reached env depth (before ++ during) read write =
        (run env depth during w).2 := by
      rw [reached, split]
    have leads := run_greets env depth during greeting
    rw [later] at stays ⊢
    rw [split]
    have remains : ¬Left w.log.length (run env depth during w).2 := by
      rintro ⟨event, inside, leaves⟩
      exact absurd ((stays event inside).symm.trans leaves) Bool.false_ne_true
    refine ⟨?_, ?_⟩
    · have once : AtMostOnce w.log.length (run env depth during w).2 :=
        Leads.last (leads.weaken (fun _ _ greeting => greeting.atMostOnce) fun _ => id)
      exact once.resolve_left remains
    · intro finished ready i inside
      have ended : run env depth during w = (.ok (), (run env depth during w).2) := by
        rw [← finished]
      have on := (leads.ok ended).outcome.resolve_left remains
      have okayed : (run env depth during w).2.nc.state.connectOkayed = true := by
        rw [ready]
        rfl
      exact (on.ready okayed).2 i inside

/-- A client whose `connected` callback registers another one, when it is called first. -/
def recruiting : Env := { granting with
  script := fun _ call => if call = .connected 0 then [.addClient ⟨false⟩] else [] }

/-- One client before the greeting, one from inside its callback, and one afterwards; then another
PONG. -/
def recruits : List Step :=
  [.api (.addClient ⟨true⟩), .readable [.bytes greeting], .api (.addClient ⟨true⟩),
    .readable [.bytes (ascii "PONG\r\n")]]

/-- All three are told once. -/
theorem connected_once_recruits :
    (reached recruiting 2 ([.init] ++ recruits) (fun _ => 0) fun _ => 0).clients.length = 3 ∧
    ∀ i, i < (reached recruiting 2 ([.init] ++ recruits) (fun _ => 0) fun _ => 0).clients.length →
      toldTimes i ((reached recruiting 2 ([.init] ++ recruits) (fun _ => 0) fun _ => 0).added
        (reached recruiting 2 [.init] (fun _ => 0) fun _ => 0).log.length) = 1 :=
  ⟨by decide +kernel, (connected_once recruiting 2 [.init] recruits (fun _ => 0) (fun _ => 0)
    (by decide +kernel) (by decide +kernel) (by decide +kernel)).2 (by decide +kernel)
    (by decide +kernel)⟩

end NgxNats
