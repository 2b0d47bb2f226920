import NgxNats.Verif.Callbacks
import NgxNats.Verif.Upkeep

/-!
# Connected and disconnected callbacks alternate

With callbacks that make no API calls: a client was last told `connected` exactly while the
connection that became READY is `nd->nc`. The connection is closed a second time, and its clients
told again, when a message is refused in READY. The handler of the ping timer never gets that far:
nginx has cleared the timer before it runs.
-/
namespace NgxNats

open Program (Leads Moves)

variable {env : Env} {k : Calls} {w w' : World}

/-- What an initialised module keeps about its connection between calls. -/
structure Coherent (w : World) : Prop where
  dataSet : w.dataSet = true
  okayed : w.nc.state.connectOkayed = true → w.nc.state = stateReady
  opened : w.live.isSome = true → w.attached = true ∧ w.reconnectTimer = none
  ready : w.attached = true → w.nc.state.connectOkayed = true → w.live.isSome = true
  formed : w.writeBuf.WellFormed

/-- The state between calls, with the callbacks in turn. -/
structure Idle (w : World) : Prop extends Coherent w where
  paired : Paired w fun _ => w.attached && w.nc.state.connectOkayed

/-- The state in which the module connects: nothing is open or scheduled. -/
structure Vacant (w : World) : Prop extends Idle w where
  shut : w.live.isSome = false
  unscheduled : w.reconnectTimer = none

/-- The state after the socket was closed and the clients told. -/
structure Ending (w : World) : Prop where
  dataSet : w.dataSet = true
  paired : Paired w fun _ => false
  okayed : w.nc.state.connectOkayed = true → w.nc.state = stateReady
  shut : w.live.isSome = false
  formed : w.writeBuf.WellFormed

/-- A connection that was not READY still is not. -/
def StaysUnready (w w' : World) : Prop :=
  w.nc.state.connectOkayed = false → w'.nc.state.connectOkayed = false

/-- A state between calls, with a connection that was not READY still not READY. -/
def Settles (w w' : World) : Prop := Idle w' ∧ StaysUnready w w'

/-- Closing the connection tells only clients that know of it. -/
def Known (w : World) : Prop := w.nc.state.connectOkayed = true → w.attached = true

/-- Connecting and the callbacks of clients that make no API calls. -/
structure SilentCalls (env : Env) (k : Calls) : Prop where
  connect : ∀ w, Vacant w →
    Leads k.connect w (fun _ => Settles w) Balanced
  callback : ∀ call w, Moves Calm (k.callback call) w

/-- Between calls the callbacks of every client alternate. -/
theorem Idle.balanced (idle : Idle w) : Balanced w := idle.paired.balanced

/-- What keeps the connection, the clients and the timer as they are keeps the state coherent. -/
theorem Coherent.still (coherent : Coherent w) (still : Still w w') : Coherent w' where
  dataSet := by rw [still.dataSet, coherent.dataSet]
  okayed := by
    rw [still.okayed]
    exact still.ready ∘ coherent.okayed
  opened := by
    rw [still.live, still.attached, still.reconnectTimer]
    exact coherent.opened
  ready := by
    rw [still.live, still.attached, still.okayed]
    exact coherent.ready
  formed := still.formed coherent.formed

/-- Between calls the module stays so when nothing changes and no client is told. -/
theorem Idle.quiet (idle : Idle w) (quiet : Quiet w w') : Idle w' where
  toCoherent := idle.toCoherent.still quiet.toStill
  paired := by
    rw [quiet.attached, quiet.okayed]
    exact idle.paired.quiet quiet

/-- Nothing gets open or scheduled by a quiet change. -/
theorem Vacant.quiet (vacant : Vacant w) (quiet : Quiet w w') : Vacant w' where
  toIdle := vacant.toIdle.quiet quiet
  shut := by rw [quiet.live, vacant.shut]
  unscheduled := by rw [quiet.reconnectTimer, vacant.unscheduled]

/-- Not getting READY twice in a row is not getting READY. -/
theorem StaysUnready.trans {w'' : World} (first : StaysUnready w w')
    (second : StaysUnready w' w'') :
    StaysUnready w w'' := second ∘ first

/-- A quiet change makes no connection READY. -/
theorem Quiet.staysUnready (quiet : Quiet w w') : StaysUnready w w' := by
  intro unready
  rw [quiet.okayed, unready]

/-- A quiet change leaves the clients knowing of the same connection. -/
theorem Known.quiet (known : Known w) (quiet : Quiet w w') : Known w' := by
  unfold Known
  rw [quiet.okayed, quiet.attached]
  exact known

/-- An open connection is known. -/
theorem Idle.known (idle : Idle w) (live : w.live.isSome = true) : Known w :=
  fun _ => (idle.opened live).1

/-- With nothing open, no client was last told `connected`. -/
theorem Idle.silent (idle : Idle w) (shut : w.live.isSome = false) :
    (w.attached && w.nc.state.connectOkayed) = false := by
  by_contra on
  simp only [Bool.not_eq_false, Bool.and_eq_true] at on
  rw [idle.ready on.1 on.2] at shut
  cases shut

/-- A calm part of the module. -/
theorem Idle.leads {α : Type} {program : Comm α} (idle : Idle w) (moves : Moves Calm program w) :
    Leads program w (fun _ w' => Idle w' ∧ Quiet w w') Balanced :=
  moves.leads.weaken (fun _ _ calm => ⟨idle.quiet calm.quiet, calm.quiet⟩)
    fun _ calm => (idle.quiet calm.quiet).balanced

/-- Telling a client whose turn it is. -/
theorem Paired.tell {on : Nat → Bool} {i : Nat} {call : Bool} (paired : Paired w on)
    (due : on i = !call) (inside : i < w.clients.length) (still : Still w w')
    (log : w'.log = w.log ++ [.tells i call]) :
    Paired w' (Function.update on i call) := by
  constructor
  · intro j beyond
    rw [still.clients] at beyond
    have other : j ≠ i := by omega
    rw [log, callbacks_append, paired.unregistered j beyond]
    simp [callbacks, callback_tells_other other]
  · intro j client registered told
    rw [still.clients] at registered
    have turned := paired.turned j client registered told
    rw [log, callbacks_append]
    by_cases same : j = i
    · subst same
      have one : callbacks j [.tells j call] = [call] := by simp [callbacks, callback_tells]
      rw [Function.update_self, one]
      rw [due] at turned
      exact turned.concat
    · have none : callbacks j [.tells i call] = [] := by
        simp [callbacks, callback_tells_other same]
      rw [Function.update_of_ne same, none, List.append_nil]
      exact turned

/-- Calling the callback of one client. -/
theorem tell_leads (calls : SilentCalls env k) {on : Nat → Bool} {i : Nat} (call : Bool)
    (callback : Callback) (paired : Paired w on) (due : on i = !call)
    (inside : i < w.clients.length) :
    Leads (do
      emit (.tells i call)
      k.callback callback) w
      (fun _ w' => Paired w' (Function.update on i call) ∧ Still w w') Balanced := by
  have still : Still w { w with log := w.log ++ [.tells i call] } :=
    ⟨rfl, rfl, rfl, rfl, rfl, id, rfl, id⟩
  have told := paired.tell due inside still rfl
  apply Leads.of_run (emit_bind w (.tells i call) fun _ => k.callback callback)
  exact (calls.callback callback _).leads.weaken
    (fun _ _ calm => ⟨told.quiet calm.quiet, still.trans calm.quiet.toStill⟩)
    fun _ calm => (told.quiet calm.quiet).balanced

/-- Going through all clients gives each its turn. -/
theorem forEach_leads {body : Client × Nat → Comm Unit} (call : Bool)
    (each : ∀ client i w on, on i = (!call) → w.clients[i]? = some client → Paired w on →
      Leads (body (client, i)) w
        (fun _ w' => Paired w' (Function.update on i call) ∧ Still w w') Balanced)
    (paired : Paired w fun _ => !call) :
    Leads (Program.forEach w.clients.zipIdx body) w
      (fun _ w' => Paired w' (fun _ => call) ∧ Still w w') Balanced := by
  -- Over the clients that are left; those before them have had their turn.
  have loop : ∀ (rest : List Client) (n : Nat) (w₁ : World), w.clients.drop n = rest →
      Still w w₁ → Paired w₁ (fun i => if i < n then call else !call) →
      Leads (Program.forEach (rest.zipIdx n) body) w₁
        (fun _ w' => Paired w' (fun _ => call) ∧ Still w w') Balanced := by
    intro rest
    induction rest with
    | nil =>
      intro n w₁ left still turns
      refine Leads.pure ⟨turns.congr ?_, still⟩
      intro i inside
      rw [still.clients] at inside
      have beyond := List.drop_eq_nil_iff.mp left
      rw [if_pos (by omega)]
    | cons client rest ih =>
      intro n w₁ left still turns
      have here : w.clients[n]? = some client := by
        have first : (w.clients.drop n)[0]? = some client := by rw [left]; rfl
        rwa [List.getElem?_drop] at first
      have later : w.clients.drop (n + 1) = rest := by
        rw [← List.drop_drop, left, List.drop_one, List.tail_cons]
      rw [List.zipIdx_cons]
      apply Leads.bind (each client n w₁ _ (if_neg (Nat.lt_irrefl n)) (still.clients ▸ here) turns)
      rintro _ w₂ ⟨turns₂, still₂⟩
      apply ih (n + 1) w₂ later (still.trans still₂)
      apply turns₂.congr
      intro i _
      by_cases same : i = n
      · rw [same, if_pos (Nat.lt_succ_self n), Function.update_self]
      · rw [Function.update_of_ne same]
        congr 1
        exact propext (by omega)
  apply loop w.clients 0 w rfl (.refl w)
  exact paired.congr fun i _ => if_neg (Nat.not_lt_zero i)

/-- All clients are told of a new connection. -/
theorem connectionReady_leads (calls : SilentCalls env k) (paired : Paired w fun _ => false) :
    Leads (connectionReady k) w (fun _ w' => Paired w' (fun _ => true) ∧ Still w w') Balanced := by
  apply Leads.get
  apply Leads.bind (Moves.leads (Moves.require (R := Quiet) _ _ w) |>.weaken
    (fun _ w' quiet => quiet) fun _ quiet => (paired.quiet quiet).balanced)
  intro _ w₁ quiet
  rw [← quiet.clients]
  apply Leads.weaken (forEach_leads true ?_ (paired.quiet quiet))
  · exact fun _ _ ⟨told, still⟩ => ⟨told, quiet.toStill.trans still⟩
  · exact fun _ => id
  · intro client i w₂ on due registered paired₂
    exact tell_leads calls true _ paired₂ due (List.getElem?_eq_some_iff.mp registered).1

/-- All clients are told of the loss of the connection. -/
theorem disconnectClients_leads (calls : SilentCalls env k) (paired : Paired w fun _ => true) :
    Leads (disconnectClients k) w (fun _ w' => Paired w' (fun _ => false) ∧ Still w w')
      Balanced := by
  apply Leads.get
  apply forEach_leads false _ paired
  intro client i w₁ on due registered paired₁
  cases told : client.disconnected with
  | true =>
    dsimp only
    rw [if_pos told]
    exact tell_leads calls false _ paired₁ due (List.getElem?_eq_some_iff.mp registered).1
  | false =>
    dsimp only
    rw [if_neg (by rw [told]; decide)]
    refine Leads.pure ⟨⟨paired₁.unregistered, ?_⟩, .refl w₁⟩
    intro j other found tells
    have differ : j ≠ i := by
      rintro rfl
      rw [registered] at found
      cases found
      rw [told] at tells
      cases tells
    rw [Function.update_of_ne differ]
    exact paired₁.turned j other found tells

/-- What settles a later state settles an earlier one. -/
theorem StaysUnready.settles {α : Type} {program : Comm α} (stays : StaysUnready w w')
    (leads : Leads program w' (fun _ => Settles w') Balanced) :
    Leads program w' (fun _ => Settles w) Balanced :=
  leads.weaken (fun _ _ ⟨idle, stays'⟩ => ⟨idle, stays.trans stays'⟩) fun _ => id

/-- With nothing open, arming the timer ends between calls. -/
theorem addReconnectTimer_leads (idle : Idle w) (shut : w.live.isSome = false) :
    Leads (addReconnectTimer env) w (fun _ => Settles w) Balanced := by
  apply Leads.get
  split
  · refine Leads.modify ⟨⟨⟨idle.dataSet, idle.okayed, ?_, idle.ready, idle.formed⟩, ?_⟩, id⟩
    · exact fun live => absurd (shut.symm.trans live) Bool.false_ne_true
    · exact idle.paired.keep rfl fun i => callbacks_silent (fun _ => rfl) i w.log
  · exact Leads.pure ⟨idle, id⟩

/-- `ngx_nats_connect` after the reconnect timer is deleted. -/
theorem processReconnect_leads (calls : SilentCalls env k) (idle : Idle w)
    (shut : w.live.isSome = false) :
    Leads (processReconnect k) w (fun _ => Settles w) Balanced := by
  apply Leads.of_run (Program.modify_bind _ _ w)
  apply calls.connect
  refine ⟨⟨⟨idle.dataSet, idle.okayed, ?_, idle.ready, idle.formed⟩, ?_⟩, shut, rfl⟩
  · exact fun live => ⟨(idle.opened live).1, rfl⟩
  · exact idle.paired.keep rfl fun _ => rfl

/-- Once the clients are told, giving the connection up ends between calls, also where it
reconnects. -/
theorem abandon_leads (calls : SilentCalls env k) (ending : Ending w) (reason : Reason)
    (immediate reconnect : Bool) :
    Leads (abandon env k reason immediate reconnect) w (fun _ => Settles w) Balanced := by
  apply Leads.of_run (record_bind w (.closed reason) _ _)
  have idle : Idle { w with
      subs := []
      nextId := 0
      attached := false
      readBuf := w.readBuf.reset
      writeBuf := w.writeBuf.reset
      log := w.log ++ [.closed reason] } := by
    refine ⟨⟨ending.dataSet, ending.okayed, ?_, ?_, ending.formed.reset⟩, ?_⟩
    · exact fun live => absurd (ending.shut.symm.trans live) Bool.false_ne_true
    · exact fun attached => absurd attached Bool.false_ne_true
    · exact ending.paired.keep rfl fun i => callbacks_silent (fun _ => rfl) i w.log
  split
  · split
    · exact processReconnect_leads calls idle ending.shut
    · exact addReconnectTimer_leads idle ending.shut
  · exact Leads.pure ⟨idle, id⟩

/-- A connection whose socket was just closed. -/
structure Shut (w w' : World) : Prop where
  dataSet : w'.dataSet = w.dataSet
  clients : w'.clients = w.clients
  attached : w'.attached = w.attached
  state : w'.nc.state = w.nc.state
  writeBuf : w'.writeBuf = w.writeBuf
  shut : w'.live.isSome = false
  callbacks : ∀ i, callbacks i w'.log = callbacks i w.log

/-- Closing the socket is all that happened when the clients are told. -/
theorem shutDown_shut (w : World) : Shut w w.shutDown where
  dataSet := rfl
  clients := rfl
  attached := rfl
  state := rfl
  writeBuf := rfl
  shut := by
    rw [live_shutDown]
    rfl
  callbacks i := by
    unfold World.shutDown
    cases w.live.isSome with
    | true => exact callbacks_silent (fun _ => rfl) i w.log
    | false =>
      show callbacks i (w.log ++ []) = callbacks i w.log
      rw [List.append_nil]

/-- Closing a known connection tells exactly the clients that know of it. -/
theorem closeConnection_leads (calls : SilentCalls env k) (idle : Idle w) (known : Known w)
    (reason : Reason) (reconnect : Bool) :
    Leads (closeConnection env k reason reconnect) w (fun _ => Settles w) Balanced := by
  cases found : w.nc.connection with
  | none =>
    unfold Leads
    rw [closeConnection_missing found]
    exact idle.balanced
  | some c =>
    have run : closeConnection env k reason reconnect w = _ :=
      closeConnection_run found reason reconnect
    have shut := shutDown_shut w
    generalize w.shutDown = w₁ at run shut
    have formed : w₁.writeBuf.WellFormed := by
      rw [shut.writeBuf]
      exact idle.formed
    have okayed : w₁.nc.state.connectOkayed = true → w₁.nc.state = stateReady := by
      rw [shut.state]
      exact idle.okayed
    have dataSet : w₁.dataSet = true := by rw [shut.dataSet, idle.dataSet]
    have paired := idle.paired.keep shut.clients shut.callbacks
    -- Not READY, no client was told of the connection.
    have plain : w.nc.state ≠ stateReady → Ending w₁ := by
      intro unready
      refine ⟨dataSet, paired.congr fun _ _ => ?_, okayed, shut.shut, formed⟩
      by_contra on
      have both := Bool.eq_true_of_not_eq_false fun off => on off.symm
      rw [Bool.and_eq_true] at both
      exact unready (idle.okayed both.2)
    have stays : StaysUnready w w₁ := by
      intro unready
      rw [shut.state, unready]
    apply Leads.of_run run
    split
    · next silent =>
      apply stays.settles
      apply abandon_leads calls (plain _)
      intro ready
      rw [ready] at silent
      exact silent rfl
    · split
      · next ready =>
        have told : Paired w₁ fun _ => true := by
          apply paired.congr
          intro _ _
          rw [known (by rw [ready]; rfl), ready]
          rfl
        apply stays.settles
        apply Leads.bind (disconnectClients_leads calls told)
        rintro _ w₂ ⟨paired₂, still⟩
        have ending : Ending w₂ := by
          refine ⟨?_, paired₂, ?_, ?_, still.formed formed⟩
          · rw [still.dataSet, dataSet]
          · rw [still.okayed]
            exact still.ready ∘ okayed
          · rw [still.live, shut.shut]
        have stays₂ : StaysUnready w₁ w₂ := fun unready => by rw [still.okayed, unready]
        exact stays₂.settles (abandon_leads calls ending reason false reconnect)
      · next unready =>
        apply stays.settles
        exact abandon_leads calls (plain unready) reason false reconnect

/-- What settles behind a connection that did not get READY settles. -/
theorem Settles.trans {w'' : World} (first : StaysUnready w w') (second : Settles w' w'') :
    Settles w w'' := ⟨second.1, first.trans second.2⟩

/-- The end of `ngx_nats_flush`: close the connection if the write event is not handled. -/
theorem handleWriteEvent_leads (calls : SilentCalls env k) (idle : Idle w) (known : Known w) :
    Leads (do
      if ← handleWriteEvent env then return ()
      else closeConnection env k .internalError true) w (fun _ => Settles w) Balanced := by
  apply Leads.bind (idle.leads (handleWriteEvent_calm w))
  rintro handled w₁ ⟨idle₁, quiet⟩
  split
  · exact Leads.pure ⟨idle₁, quiet.staysUnready⟩
  · exact quiet.staysUnready.settles
      (closeConnection_leads calls idle₁ (known.quiet quiet) .internalError true)

/-- A flush between calls sends, or closes a connection that the clients know of, and settles. -/
theorem flush_leads (calls : SilentCalls env k) (idle : Idle w) (known : Known w) :
    Leads (flush env k) w (fun _ => Settles w) Balanced := by
  apply Leads.get
  split
  · exact (idle.leads (setWriteBuf_calm fun _ => idle.formed.reset)).weaken
      (fun _ _ ⟨idle₁, quiet⟩ => ⟨idle₁, quiet.staysUnready⟩) fun _ => id
  · have sends : Leads (sendBytes env w.writeBuf.pending) w
        (fun result w₁ => (Idle w₁ ∧ Quiet w w₁) ∧ ∀ n, result = .sent n →
          n ≤ w.writeBuf.pending.length) Balanced := by
      apply Leads.intro
      · intro result w₁ run
        refine ⟨(idle.leads (sendBytes_calm _ w)).ok run, ?_⟩
        rintro n rfl
        exact sendBytes_sent run
      · exact fun _ _ run => (idle.leads (sendBytes_calm _ w)).error run
    apply Leads.bind sends
    rintro result w₁ ⟨⟨idle₁, quiet₁⟩, bound⟩
    cases result with
    | sent n =>
      have fits := bound n rfl
      rw [Buf.length_pending] at fits
      obtain ⟨start, stop⟩ := idle.formed.valid
      have sent : Buf.WellFormed { w.writeBuf with pos := w.writeBuf.pos + n } :=
        ⟨⟨by simp only; omega, stop⟩, idle.formed.least⟩
      apply Leads.bind (idle₁.leads (checkConnected_calm w₁))
      rintro _ w₂ ⟨idle₂, quiet₂⟩
      have quiet₀ := IsTrans.trans _ _ _ quiet₁ quiet₂
      dsimp only
      split
      · apply Leads.bind (idle₂.leads (setWriteBuf_calm fun _ => sent.reset))
        rintro _ w₃ ⟨idle₃, quiet₃⟩
        have quiet := IsTrans.trans _ _ _ quiet₀ quiet₃
        exact quiet.staysUnready.settles
          (handleWriteEvent_leads calls idle₃ (known.quiet quiet))
      · exact (idle₂.leads (setWriteBuf_calm fun _ => sent)).weaken
          (fun _ _ ⟨idle₃, quiet₃⟩ =>
            ⟨idle₃, quiet₀.staysUnready.trans quiet₃.staysUnready⟩) fun _ => id
    | error =>
      exact quiet₁.staysUnready.settles
        (closeConnection_leads calls idle₁ (known.quiet quiet₁) .disconnected true)
    | again =>
      refine Leads.bind (idle₁.leads (setConnection_calm ?_ w₁)) ?_
      · exact fun _ => rfl
      rintro _ w₂ ⟨idle₂, quiet₂⟩
      have quiet := IsTrans.trans _ _ _ quiet₁ quiet₂
      exact quiet.staysUnready.settles (handleWriteEvent_leads calls idle₂ (known.quiet quiet))
    | nothing => exact Leads.pure ⟨idle₁, quiet₁.staysUnready⟩

/-- A quiet part of connecting. -/
theorem Vacant.leads {α : Type} {program : Comm α} (vacant : Vacant w)
    (moves : Moves Quiet program w) :
    Leads program w (fun _ w' => Vacant w' ∧ Quiet w w') Balanced :=
  moves.leads.weaken (fun _ _ quiet => ⟨vacant.quiet quiet, quiet⟩)
    fun _ quiet => (vacant.toIdle.quiet quiet).balanced

/-- Allocating the connection structure leaves nothing open. -/
theorem Vacant.openConnection (vacant : Vacant w) (server : Nat) : Vacant { w with
    attached := true, nc := { server := server }, log := w.log ++ [.opened] } := by
  have unready : ¬(({} : ConnState).connectOkayed = true) := by decide
  refine ⟨⟨⟨vacant.dataSet, fun okayed => absurd okayed unready, ?_,
    fun _ okayed => absurd okayed unready, vacant.formed⟩, ?_⟩, rfl, vacant.unscheduled⟩
  · exact fun live => absurd live Bool.false_ne_true
  · have silent := vacant.toIdle.silent vacant.shut
    have paired := vacant.paired
    rw [silent] at paired
    exact paired.keep rfl fun i => callbacks_silent (fun _ => rfl) i w.log

/-- The nginx connection of a new connection structure. -/
theorem Vacant.connected (vacant : Vacant w) (attached : w.attached = true)
    (unready : w.nc.state.connectOkayed = false) (c : Connection) :
    Idle { w with nc := { w.nc with connection := some c } } := by
  have off : ¬(w.nc.state.connectOkayed = true) := by rw [unready]; exact Bool.false_ne_true
  exact ⟨⟨vacant.dataSet, vacant.okayed, fun _ => ⟨attached, vacant.unscheduled⟩,
    fun _ okayed => absurd okayed off, vacant.formed⟩, vacant.paired.keep rfl fun _ => rfl⟩

/-- The loop over the servers ends between calls, and where it asks for more nothing is open yet. -/
theorem connectLoop_leads (calls : SilentCalls env k) (vacant : Vacant w) :
    Leads (connectLoop env k) w (fun rc w' => (rc = ngxAgain → Vacant w') ∧ Settles w w')
      Balanced := by
  apply Leads.bind (vacant.leads (nextServer_quiet w))
  rintro more w₁ ⟨vacant₁, quiet₁⟩
  split
  · apply Leads.bind (addReconnectTimer_leads vacant₁.toIdle vacant₁.shut)
    rintro _ w₂ settles
    refine Leads.pure ⟨fun again => absurd again (by decide), ?_⟩
    exact Settles.trans quiet₁.staysUnready settles
  · have emptied : Quiet w₁ { w₁ with
        readBuf := w₁.readBuf.reset, writeBuf := w₁.writeBuf.reset } :=
      Still.quiet ⟨rfl, rfl, rfl, rfl, rfl, id, rfl, Buf.WellFormed.reset⟩ rfl
    apply Leads.bind (vacant₁.leads (Moves.modify emptied))
    rintro _ w₂ ⟨vacant₂, quiet₂⟩
    apply Leads.bind (vacant₂.leads (ask_quiet _ w₂))
    rintro granted w₃ ⟨vacant₃, quiet₃⟩
    have quiet := IsTrans.trans _ _ _ (IsTrans.trans _ _ _ quiet₁ quiet₂) quiet₃
    split
    · apply Leads.bind (vacant₃.leads (emit_quiet (fun _ => rfl) w₃))
      rintro _ w₄ ⟨vacant₄, quiet₄⟩
      refine Leads.pure ⟨fun _ => vacant₄, vacant₄.toIdle, ?_⟩
      exact quiet.staysUnready.trans quiet₄.staysUnready
    · apply Leads.get
      split
      · exact Leads.fault vacant₃.balanced
      · apply Leads.of_run (record_bind w₃ .opened _ _)
        have vacant₄ := vacant₃.openConnection w₃.currIndex.toNat
        generalize opens : ({ w₃ with
          attached := true
          nc := { server := w₃.currIndex.toNat }
          log := w₃.log ++ [.opened] } : World) = w₄ at vacant₄
        have attached₄ : w₄.attached = true := by rw [← opens]
        have unready₄ : w₄.nc.state.connectOkayed = false := by rw [← opens]
        have stays : StaysUnready w w₄ := fun _ => unready₄
        apply Leads.bind (vacant₄.leads (emit_quiet (fun _ => rfl) w₄))
        rintro _ w₅ ⟨vacant₅, quiet₅⟩
        apply Leads.bind (vacant₅.leads (ask_quiet _ w₅))
        rintro answer w₆ ⟨vacant₆, quiet₆⟩
        have quiet₀ := IsTrans.trans _ _ _ quiet₅ quiet₆
        have attached₆ : w₆.attached = true := by rw [quiet₀.attached, attached₄]
        have unready₆ := quiet₀.staysUnready unready₄
        have stays₆ : StaysUnready w w₆ := fun _ => unready₆
        cases answer with
        | busy => exact Leads.pure ⟨fun _ => vacant₆, vacant₆.toIdle, stays₆⟩
        | declined => exact Leads.pure ⟨fun _ => vacant₆, vacant₆.toIdle, stays₆⟩
        | error => exact Leads.pure ⟨fun _ => vacant₆, vacant₆.toIdle, stays₆⟩
        | again =>
          apply Leads.of_run (setNc_bind w₆ _ _)
          refine Leads.pure ⟨fun again => absurd again (by decide), ?_, fun _ => unready₆⟩
          exact vacant₆.connected attached₆ unready₆ _
        | ok =>
          apply Leads.of_run (setNc_bind w₆ _ _)
          have idle₇ := vacant₆.connected attached₆ unready₆ {}
          apply Leads.bind (idle₇.leads (connectionInit_calm _))
          rintro _ w₈ ⟨idle₈, quiet₈⟩
          have unready₈ := quiet₈.staysUnready unready₆
          have known₈ : Known w₈ := fun okayed =>
            absurd (unready₈.symm.trans okayed) Bool.false_ne_true
          apply Leads.bind (flush_leads calls idle₈ known₈)
          rintro _ w₉ ⟨idle₉, stays₉⟩
          refine Leads.pure ⟨fun again => absurd again (by decide), idle₉, ?_⟩
          exact fun _ => stays₉ unready₈

/-- `ngx_nats_connect` settles from a state with nothing open or scheduled. -/
theorem connect_leads (calls : SilentCalls env k) (vacant : Vacant w) :
    Leads (connect env k) w (fun _ => Settles w) Balanced := by
  apply Leads.repeatUntil fun w' => Vacant w' ∧ StaysUnready w w'
  · exact fun _ ⟨vacant', _⟩ => vacant'.balanced
  · rintro w₁ ⟨vacant₁, stays⟩
    apply Leads.bind (connectLoop_leads calls vacant₁)
    rintro rc w₂ ⟨goesOn, settles⟩
    split
    · exact Leads.pure (Settles.trans stays settles)
    · next again =>
      rw [not_not] at again
      exact Leads.pure ⟨goesOn again, stays.trans settles.2⟩
  · exact ⟨vacant, id⟩

/-- Connecting and the callbacks of clients that make no API calls, to any depth. -/
theorem silentCalls (silent : ∀ tick call, env.script tick call = []) (depth : Nat) :
    SilentCalls env (calls env depth) := by
  induction depth with
  | zero => exact ⟨fun _ vacant => Leads.fault vacant.balanced, fun _ w => Moves.fault _ w⟩
  | succ depth ih =>
    refine ⟨fun _ vacant => connect_leads ih vacant, fun call w => ?_⟩
    apply Moves.bind (ask_calm _ w)
    intro script w₁ asked
    have empty : script = [] := by
      cases asked
      exact silent w.clock call
    rw [empty]
    exact Moves.pure () w₁

/-- What leads on to a state between calls. -/
abbrev Serves {α : Type} (program : Comm α) (w : World) : Prop :=
  Leads program w (fun _ => Idle) Balanced

/-- The flush at the end of a call of the API keeps the callbacks in turn. -/
theorem flush_serves (calls : SilentCalls env k) (idle : Idle w) (attached : w.attached = true)
    (rc : Int) : Serves (do
      flush env k
      return rc) w := by
  apply Leads.bind (flush_leads calls idle fun _ => attached)
  rintro _ w₁ settles
  exact Leads.pure settles.1

/-- The new client has had no callback yet. -/
theorem Paired.register {on : Nat → Bool} (paired : Paired w on) (client : Client) :
    Paired { w with clients := w.clients ++ [client], log := w.log ++ [.registered] }
      (Function.update on w.clients.length false) := by
  have same (i : Nat) : callbacks i (w.log ++ [.registered]) = callbacks i w.log :=
    callbacks_silent (fun _ => rfl) i w.log
  constructor
  · intro i beyond
    rw [List.length_append, List.length_singleton] at beyond
    rw [same, paired.unregistered i (by omega)]
  · intro i other registered told
    rw [same]
    by_cases new : i = w.clients.length
    · rw [new, Function.update_self, paired.unregistered _ (Nat.le_refl _)]
      exact turned_nil
    · have inside := (List.getElem?_eq_some_iff.mp registered).1
      rw [List.length_append, List.length_singleton] at inside
      rw [List.getElem?_append_left (by omega)] at registered
      rw [Function.update_of_ne new]
      exact paired.turned i other registered told

/-- Registering a client, who is told at once on a READY connection, keeps the callbacks in turn. -/
theorem addClient_serves (calls : SilentCalls env k) (idle : Idle w) (client : Client) :
    Serves (addClient env k client) w := by
  apply Leads.get
  split
  · exact Leads.pure idle
  · apply Leads.bind (idle.leads (ask_calm _ w))
    rintro granted w₁ ⟨idle₁, quiet⟩
    split
    · exact Leads.pure idle₁
    · apply Leads.of_run (record_bind w₁ .registered _ _)
      have paired := idle₁.paired.register client
      have coherent : Coherent { w₁ with
          clients := w₁.clients ++ [client], log := w₁.log ++ [.registered] } :=
        ⟨idle₁.dataSet, idle₁.okayed, idle₁.opened, idle₁.ready, idle₁.formed⟩
      -- Without a READY connection nobody was last told of one.
      have unready (off : (w₁.attached && w₁.nc.state.connectOkayed) = false) : Idle { w₁ with
          clients := w₁.clients ++ [client], log := w₁.log ++ [.registered] } := by
        refine ⟨coherent, paired.congr fun i _ => ?_⟩
        by_cases new : i = w₁.clients.length
        · rw [new, Function.update_self]
          exact off
        · rw [Function.update_of_ne new]
      split
      · next detached =>
        refine Leads.pure (unready ?_)
        rw [← quiet.attached] at detached
        rw [Bool.eq_false_of_not_eq_true detached, Bool.false_and]
      · next attached =>
        rw [not_not, ← quiet.attached] at attached
        split
        · next other =>
          refine Leads.pure (unready ?_)
          by_contra on
          rw [Bool.not_eq_false, Bool.and_eq_true, quiet.okayed] at on
          exact other (idle.okayed on.2)
        · next ready =>
          rw [not_not] at ready
          have okayed : w₁.nc.state.connectOkayed = true := by rw [quiet.okayed, ready]; rfl
          have inside : w₁.clients.length < (w₁.clients ++ [client]).length := by simp
          have tell := tell_leads calls true (.connected w₁.clients.length) paired
            (Function.update_self _ _ _) inside
          change Leads ((do
            emit (.tells w.clients.length true)
            k.callback (.connected w.clients.length)) >>= fun _ => pure ngxOk) _ _ _
          rw [← quiet.clients]
          apply Leads.bind tell
          rintro _ w₂ ⟨paired₂, still⟩
          refine Leads.pure ⟨coherent.still still, paired₂.congr fun i _ => ?_⟩
          rw [still.attached, still.okayed]
          change (w₁.attached && w₁.nc.state.connectOkayed) = _
          rw [attached, okayed, Bool.true_and]
          by_cases new : i = w₁.clients.length
          · rw [new, Function.update_self]
          · rw [Function.update_of_ne new, Function.update_of_ne new]

/-- Publishing keeps the callbacks in turn. -/
theorem publish_serves (calls : SilentCalls env k) (idle : Idle w)
    (subject replyto : Option (List UInt8)) (data : List UInt8) (len : Nat) :
    Serves (publish env k subject replyto data len) w := by
  apply Leads.get
  split
  · exact Leads.pure idle
  · split
    · exact Leads.pure idle
    · next attached =>
      rw [not_not] at attached
      split
      · exact Leads.pure idle
      · cases subject with
        | none => exact Leads.pure idle
        | some subject =>
          dsimp only
          split
          · exact Leads.pure idle
          · apply Leads.bind (idle.leads (publishFrame_calm _ _ _ w))
            rintro rc w₁ ⟨idle₁, quiet⟩
            split
            · exact Leads.pure idle₁
            · exact flush_serves calls idle₁ (by rw [quiet.attached, attached]) _

/-- Subscribing keeps the callbacks in turn. -/
theorem subscribe_serves (calls : SilentCalls env k) (idle : Idle w) (client : Nat)
    (subject : List UInt8) (max : Int) (handleMsg data : Nat) :
    Serves (subscribe env k client subject max handleMsg data) w := by
  apply Leads.get
  split
  · exact Leads.pure idle
  · split
    · exact Leads.pure idle
    · next attached =>
      rw [not_not] at attached
      split
      · exact Leads.pure idle
      · apply Leads.bind (idle.leads (enterSubscription_calm _ _ _ _ w))
        rintro entered w₁ ⟨idle₁, quiet₁⟩
        cases entered with
        | none => exact Leads.pure idle₁
        | some sub =>
          apply Leads.bind (idle₁.leads (subscribeLines_calm _ _ _ w₁))
          rintro rc w₂ ⟨idle₂, quiet₂⟩
          split
          · apply Leads.bind (idle₂.leads (emit_calm rfl w₂))
            rintro _ w₃ ⟨idle₃, -⟩
            exact Leads.pure idle₃
          · exact flush_serves calls idle₂ (by rw [quiet₂.attached, quiet₁.attached, attached]) _

/-- Unsubscribing keeps the callbacks in turn. -/
theorem unsubscribe_serves (calls : SilentCalls env k) (idle : Idle w) (sid : Int) :
    Serves (unsubscribe env k sid) w := by
  unfold unsubscribe
  split
  · exact Leads.pure idle
  · apply Leads.get
    split
    · exact Leads.pure idle
    · split
      · exact Leads.pure idle
      · next attached =>
        rw [not_not] at attached
        split
        · exact Leads.pure idle
        · apply Leads.bind (idle.leads (dropSubscription_calm sid w))
          rintro removed w₁ ⟨idle₁, quiet₁⟩
          split
          · exact Leads.pure idle₁
          · apply Leads.bind (idle₁.leads (addMessage_calm _ _ w₁))
            rintro rc w₂ ⟨idle₂, quiet₂⟩
            split
            · exact Leads.pure idle₂
            · exact flush_serves calls idle₂ (by rw [quiet₂.attached, quiet₁.attached, attached]) _

/-- Every call of the API keeps the callbacks in turn. -/
theorem apiCall_serves (calls : SilentCalls env k) (idle : Idle w) (call : ApiCall) :
    Serves (apiCall env k call) w := by
  apply Leads.get
  apply Leads.of_run (emit_bind w (.called call w.attached w.live.isSome w.nc.state) _)
  have noted : Quiet w (w.calledWith call) :=
    Still.emitted ⟨rfl, rfl, rfl, rfl, rfl, id, rfl, id⟩ rfl fun _ => rfl
  have idle₁ := idle.quiet noted
  cases call with
  | addClient client => exact addClient_serves calls idle₁ client
  | publish subject replyto data len => exact publish_serves calls idle₁ subject replyto data len
  | subscribe client subject max handleMsg data =>
    exact subscribe_serves calls idle₁ client subject max handleMsg data
  | unsubscribe client sid => exact unsubscribe_serves calls idle₁ sid

/-- A message was refused in READY: the connection is closed a second time. -/
structure Spoiled (w : World) : Prop where
  again : .rejected stateReady ∈ w.log
  formed : w.writeBuf.WellFormed

/-- While the open connection is read. -/
structure Reading (w : World) : Prop extends Idle w where
  live : w.live.isSome = true

/-- After a message was refused. -/
def Failed (w : World) : Prop := Spoiled w ∨ Idle w ∧ w.nc.state.connectOkayed = false

/-- What a fault leaves behind. -/
def Crashed (w : World) : Prop := Spoiled w ∨ Balanced w

/-- After the reader is done. -/
def Done (w : World) : Prop := Spoiled w ∨ Idle w

/-- The log keeps that a READY connection had a message refused. -/
theorem Spoiled.acts (spoiled : Spoiled w) (acts : Acts env w w') : Spoiled w' := by
  obtain ⟨events, log⟩ := acts.grows spoiled.formed
  refine ⟨?_, (acts spoiled.formed).1⟩
  rw [log]
  exact List.mem_append_left events spoiled.again

/-- A calm part of the reader. -/
theorem Reading.leads {α : Type} {program : Comm α} (reading : Reading w)
    (moves : Moves Calm program w) : Leads program w (fun _ => Reading) Crashed :=
  (reading.toIdle.leads moves).weaken
    (fun _ _ ⟨idle, quiet⟩ => ⟨idle, by rw [quiet.live, reading.live]⟩) fun _ => Or.inr

variable (acts : CallsAct env k) (calls : SilentCalls env k)

/-- What runs on after a connection was closed twice. -/
theorem Spoiled.leads {α : Type} {program : Comm α} (spoiled : Spoiled w)
    (moves : Moves (Acts env) program w) :
    Leads program w (fun _ => Spoiled) Spoiled :=
  moves.leads.weaken (fun _ _ acts => spoiled.acts acts) fun _ acts => spoiled.acts acts

include acts calls

/-- Refusing a message on a READY connection spoils the run; on another one it settles. -/
theorem reject_leads (reading : Reading w) (reason : Reason) :
    Leads (reject env k reason) w (fun went w' => went = false ∧ Failed w') Crashed := by
  have idle : Idle { w with log := w.log ++ [.rejected w.nc.state] } :=
    reading.toIdle.quiet (Still.emitted ⟨rfl, rfl, rfl, rfl, rfl, id, rfl, id⟩ rfl fun _ => rfl)
  apply Leads.get
  apply Leads.of_run (emit_bind w (.rejected w.nc.state) _)
  cases okayed : w.nc.state.connectOkayed with
  | true =>
    have again : .rejected stateReady ∈ w.log ++ [.rejected w.nc.state] := by
      rw [reading.okayed okayed]
      exact List.mem_append_right _ (List.mem_singleton_self _)
    have spoiled : Spoiled { w with log := w.log ++ [.rejected w.nc.state] } :=
      ⟨again, reading.formed⟩
    apply Leads.bind ((spoiled.leads (closeConnection_acts acts reason true _)).weaken
      (fun _ _ => id) fun _ => Or.inl)
    intro _ w₁ spoiled₁
    exact Leads.pure ⟨rfl, .inl spoiled₁⟩
  | false =>
    have known := idle.known reading.live
    apply Leads.bind ((closeConnection_leads calls idle known reason true).weaken
      (fun _ _ => id) fun _ => Or.inr)
    rintro _ w₁ ⟨idle₁, stays⟩
    exact Leads.pure ⟨rfl, .inr ⟨idle₁, stays okayed⟩⟩

/-- A function of the reader goes on reading, or has refused a message. -/
abbrev Reads (went : Bool) (w : World) : Prop := if went then Reading w else Failed w

/-- A reader that refuses a message does not go on. -/
theorem reject_reads (reading : Reading w) (reason : Reason) :
    Leads (reject env k reason) w Reads Crashed :=
  (reject_leads acts calls reading reason).weaken
    (fun _ _ ⟨refused, failed⟩ => by rw [Reads, refused]; exact failed) fun _ => id

omit acts in

/-- `ngx_nats_process_msg` is calm: its handlers make no calls. -/
theorem processMsg_calm (msg : ServerMsg) (w : World) : Moves Calm (processMsg env k msg) w := by
  apply Moves.bind (countMsg_calm _ w)
  intro found w₁ _
  cases found with
  | none => exact Moves.pure _ w₁
  | some sub =>
    apply Moves.bind (ask_calm _ w₁)
    intro pool w₂ _
    split
    · exact Moves.pure _ w₂
    · apply Moves.bind (ask_calm _ w₂)
      intro granted w₃ _
      split
      · exact Moves.pure _ w₃
      · apply Moves.bind (emit_calm rfl w₃)
        intro _ w₄ _
        exact calls.callback _ w₄

/-- Whatever message is dispatched, the reader goes on or has refused it. -/
theorem dispatch_leads (reading : Reading w) (parsed : Parsed) :
    Leads (dispatch env k parsed) w Reads Crashed := by
  apply Leads.bind (reading.leads (emit_calm rfl w))
  intro _ w₁ reading₁
  apply Leads.get
  cases (serverMsg parsed).type with
  | ok => exact Leads.pure reading₁
  | err =>
    dsimp only
    split
    · exact reject_reads acts calls reading₁ _
    · exact Leads.pure reading₁
  | ping =>
    apply Leads.bind (reading₁.leads (addMessage_calm _ _ w₁))
    intro _ w₂ reading₂
    exact Leads.pure reading₂
  | pong =>
    dsimp only
    cases okayed : w₁.nc.state.connectOkayed with
    | true => exact Leads.pure reading₁
    | false =>
      apply Leads.of_run (record_bind w₁ (.ready w₁.nc.state w₁.nc.srvVersion) _ _)
      obtain ⟨attached, unscheduled⟩ := reading₁.opened reading₁.live
      have coherent : Coherent { w₁ with
          nc := { w₁.nc with state := stateReady }
          log := w₁.log ++ [.ready w₁.nc.state w₁.nc.srvVersion] } :=
        ⟨reading₁.dataSet, fun _ => rfl, reading₁.opened, fun _ _ => reading₁.live,
          reading₁.formed⟩
      have paired : Paired { w₁ with
          nc := { w₁.nc with state := stateReady }
          log := w₁.log ++ [.ready w₁.nc.state w₁.nc.srvVersion] } fun _ => false := by
        have before := reading₁.paired
        rw [okayed, Bool.and_false] at before
        exact before.keep rfl fun i => callbacks_silent (fun _ => rfl) i w₁.log
      apply Leads.bind ((connectionReady_leads calls paired).weaken (fun _ _ => id) fun _ => Or.inr)
      rintro _ w₂ ⟨told, still⟩
      refine Leads.pure ⟨⟨coherent.still still, ?_⟩, ?_⟩
      · rw [still.attached, still.okayed]
        change Paired w₂ fun _ => w₁.attached && true
        rw [attached]
        exact told
      · exact still.live.trans reading₁.live
  | info =>
    dsimp only
    split
    · exact reject_reads acts calls reading₁ _
    · apply Leads.bind (reading₁.leads (parseInfo_calm _ w₁))
      intro rc w₂ reading₂
      split
      · exact reject_reads acts calls reading₂ _
      · exact Leads.pure reading₂
  | msg =>
    apply Leads.bind (reading₁.leads (processMsg_calm calls _ w₁))
    intro _ w₂ reading₂
    exact Leads.pure reading₂
  | unset => exact reject_reads acts calls reading₁ _

/-- A result that is no error goes on reading. -/
def Answers (rc : Int) (w : World) : Prop := 0 ≤ rc ∧ Reading w ∨ rc = ngxError ∧ Failed w

omit acts calls in

/-- While the connection is read, NGX_OK is a good answer. -/
theorem Reading.answers (reading : Reading w) : Answers ngxOk w := .inl ⟨Int.le_refl _, reading⟩

/-- Waiting for the rest of a message keeps the connection, or refuses the message. -/
theorem awaitMore_leads (reading : Reading w) :
    Leads (awaitMore env k) w Answers Crashed := by
  apply Leads.get
  apply Leads.bind (reading.leads (lift_calm _ w))
  intro buf w₁ reading₁
  apply Leads.bind (reading₁.leads (setReadBuf_calm buf w₁))
  intro _ w₂ reading₂
  split
  · split
    · apply Leads.bind (reject_leads acts calls reading₂ _)
      rintro _ w₃ ⟨-, failed⟩
      exact Leads.pure (.inr ⟨rfl, failed⟩)
    · apply Leads.bind (reading₂.leads (ask_calm _ w₂))
      intro alloc w₃ reading₃
      apply Leads.bind (reading₃.leads (lift_calm _ w₃))
      intro ⟨rc, buf⟩ w₄ reading₄
      apply Leads.bind (reading₄.leads (setReadBuf_calm buf w₄))
      intro _ w₅ reading₅
      split
      · apply Leads.bind (reject_leads acts calls reading₅ _)
        rintro _ w₆ ⟨-, failed⟩
        exact Leads.pure (.inr ⟨rfl, failed⟩)
      · exact Leads.pure reading₅.answers
  · exact Leads.pure reading₂.answers

/-- A round of the reader keeps the connection, or has refused a message. -/
theorem processBufferMsg_leads (reading : Reading w) :
    Leads (processBufferMsg env k) w Answers Crashed := by
  apply Leads.get
  apply Leads.bind (reading.leads (emit_calm rfl w))
  intro _ w₁ reading₁
  split
  · apply Leads.bind (reading₁.leads (lift_calm _ w₁))
    intro buf w₂ reading₂
    apply Leads.bind (reading₂.leads (setReadBuf_calm buf w₂))
    intro _ w₃ reading₃
    exact Leads.pure reading₃.answers
  · apply Leads.bind (reading₁.leads (lift_calm _ w₁))
    intro parsed w₂ reading₂
    apply Leads.bind (reading₂.leads (setReadBuf_calm _ w₂))
    intro _ w₃ reading₃
    split
    · split
      · exact awaitMore_leads acts calls reading₃
      · apply Leads.bind (reject_leads acts calls reading₃ _)
        rintro _ w₄ ⟨-, failed⟩
        exact Leads.pure (.inr ⟨rfl, failed⟩)
    · next positive =>
      apply Leads.bind (dispatch_leads acts calls reading₃ parsed)
      intro went w₄ reads
      cases went with
      | true => exact Leads.pure (.inl ⟨by omega, reads⟩)
      | false => exact Leads.pure (.inr ⟨rfl, reads⟩)

/-- The loop over the messages keeps the connection, or ends with a refused one. -/
theorem processBuffer_leads (reading : Reading w) :
    Leads (processBuffer env k) w Answers Crashed := by
  apply Leads.get
  apply Leads.repeatUntil Reading
  · exact fun _ reading => .inr reading.balanced
  · intro w₁ reading₁
    apply Leads.bind (processBufferMsg_leads acts calls reading₁)
    intro rc w₂ answers
    split
    · exact Leads.pure answers
    · next positive =>
      rcases answers with ⟨-, reading₂⟩ | ⟨refused, -⟩
      · have skipped : Calm w₂ { w₂ with
            readBuf := { w₂.readBuf with pos := w₂.readBuf.pos + rc.toNat } } :=
          Calm.silent .plain rfl
        apply Leads.bind (reading₂.leads (Moves.modify skipped))
        intro _ w₃ reading₃
        exact Leads.pure reading₃
      · rw [refused] at positive
        exact absurd (by decide) positive
  · exact reading

/-- The reader goes on, or the connection was closed. -/
abbrev Goes (went : Bool) (w : World) : Prop := if went then Reading w else Done w

omit acts in
/-- Closing the connection ends the reader. -/
theorem close_goes (idle : Idle w) (known : Known w) (reason : Reason) :
    Leads (do
      closeConnection env k reason true
      return false) w Goes Crashed := by
  apply Leads.bind ((closeConnection_leads calls idle known reason true).weaken
    (fun _ _ => id) fun _ => Or.inr)
  rintro _ w₁ settles
  exact Leads.pure (.inr settles.1)

/-- Data that is taken in is read to its end, or ends the reading. -/
theorem receiveData_leads (reading : Reading w) (bytes : List UInt8) :
    Leads (receiveData env k bytes) w Goes Crashed := by
  apply Leads.bind (reading.leads (checkConnected_calm w))
  intro _ w₁ reading₁
  have received : Leads (receiveBytes bytes) w₁ (fun _ => Reading) Crashed := by
    have quiet := receiveBytes_quiet bytes w₁
    exact Leads.of_ok rfl ⟨reading₁.toIdle.quiet quiet, quiet.live.trans reading₁.live⟩
  apply Leads.bind received
  intro _ w₂ reading₂
  apply Leads.bind (processBuffer_leads acts calls reading₂)
  intro rc w₃ answers
  split
  · rcases answers with ⟨-, reading₃⟩ | ⟨-, spoiled | ⟨idle₃, unready⟩⟩
    · exact close_goes calls reading₃.toIdle (reading₃.toIdle.known reading₃.live) _
    · apply Leads.bind ((spoiled.leads (closeConnection_acts acts .badProtocol true w₃)).weaken
        (fun _ _ => id) fun _ => Or.inl)
      intro _ w₄ spoiled₄
      exact Leads.pure (.inl spoiled₄)
    · apply close_goes calls idle₃ _ _
      intro okayed
      exact absurd (unready.symm.trans okayed) Bool.false_ne_true
  · next fine =>
    rcases answers with ⟨-, reading₃⟩ | ⟨refused, -⟩
    · exact Leads.pure reading₃
    · rw [not_not] at fine
      rw [fine] at refused
      exact absurd refused (by decide)

omit acts in
/-- A receive loop that found nothing more. -/
theorem receiveAgain_leads (reading : Reading w) :
    Leads (do
      if ← ask env.handleReadEvent then return true
      else
        closeConnection env k .internalError true
        return false) w Goes Crashed := by
  apply Leads.bind (reading.leads (ask_calm _ w))
  intro handled w₁ reading₁
  split
  · exact Leads.pure reading₁
  · exact close_goes calls reading₁.toIdle (reading₁.toIdle.known reading₁.live) _

/-- The loop over `recv` goes on while the connection is open, and ends settled. -/
theorem receive_leads (results : List Recv) (reading : Reading w) :
    Leads (receive env k results) w Goes Crashed := by
  induction results generalizing w with
  | nil =>
    apply Leads.bind (reading.leads (recvBytes_calm _ w))
    intro _ w₁ reading₁
    exact receiveAgain_leads calls reading₁
  | cons found rest ih =>
    apply Leads.bind (reading.leads (recvBytes_calm found w))
    intro result w₁ reading₁
    have known := reading₁.toIdle.known reading₁.live
    cases result with
    | again => exact receiveAgain_leads calls reading₁
    | bytes bytes =>
      apply Leads.bind (receiveData_leads acts calls reading₁ bytes)
      intro went w₂ goes
      cases went with
      | true => exact ih goes
      | false => exact Leads.pure goes
    | eof => exact close_goes calls reading₁.toIdle known _
    | error => exact close_goes calls reading₁.toIdle known _

/-- Reading from the connection ends settled, or the run is spoiled. -/
theorem readFromNats_leads (results : List Recv) (reading : Reading w) :
    Leads (readFromNats env k results) w (fun _ => Done) Crashed := by
  apply Leads.get
  apply Leads.bind (receive_leads acts calls results reading)
  intro went w₁ goes
  cases went with
  | true =>
    apply Leads.get
    split
    · exact (flush_leads calls goes.toIdle (goes.toIdle.known goes.live)).weaken
        (fun _ _ settles => .inr settles.1) fun _ => Or.inr
    · exact Leads.pure (.inr goes.toIdle)
  | false => exact Leads.pure goes

omit acts in
/-- A call that closes a known connection. -/
theorem close_done (idle : Idle w) (known : Known w) (reason : Reason) :
    Leads (closeConnection env k reason true) w (fun _ => Done) Crashed :=
  (closeConnection_leads calls idle known reason true).weaken
    (fun _ _ settles => .inr settles.1) fun _ => Or.inr

omit acts in

/-- A write event ends settled, or the run is spoiled. -/
theorem writeEventHandler_leads (reading : Reading w) :
    Leads (writeEventHandler env k) w (fun _ => Done) Crashed := by
  apply Leads.get
  apply Leads.bind (reading.leads (Moves.require _ _ w))
  intro c w₁ reading₁
  split
  · exact close_done calls reading₁.toIdle (reading₁.toIdle.known reading₁.live) _
  · refine Leads.bind (reading₁.leads (setConnection_calm ?_ w₁)) ?_
    · exact fun _ => rfl
    intro _ w₂ reading₂
    apply Leads.bind (reading₂.leads (connectionInit_calm w₂))
    intro _ w₃ reading₃
    exact (flush_leads calls reading₃.toIdle (reading₃.toIdle.known reading₃.live)).weaken
      (fun _ _ settles => .inr settles.1) fun _ => Or.inr

/-- A read event ends settled, or the run is spoiled. -/
theorem readEventHandler_leads (results : List Recv) (reading : Reading w) :
    Leads (readEventHandler env k results) w (fun _ => Done) Crashed := by
  apply Leads.get
  apply Leads.bind (reading.leads (Moves.require _ _ w))
  intro c w₁ reading₁
  split
  · exact close_done calls reading₁.toIdle (reading₁.toIdle.known reading₁.live) _
  · apply Leads.bind (reading₁.leads (ask_calm _ w₁))
    intro tested w₂ reading₂
    split
    · exact close_done calls reading₂.toIdle (reading₂.toIdle.known reading₂.live) _
    · exact readFromNats_leads acts calls results reading₂

omit acts calls

/-- One event of an initialised module. -/
theorem step_leads (silent : ∀ tick call, env.script tick call = []) (depth : Nat) (event : Step)
    (idle : Idle w) : Leads (step env depth event) w (fun _ => Done) Crashed := by
  have acts := calls_act env depth
  have calls := silentCalls silent depth
  have stays : Leads (pure () : Comm Unit) w (fun _ => Done) Crashed := Leads.pure (.inr idle)
  apply Leads.get
  cases event with
  | init =>
    dsimp only
    rw [if_neg (by rw [idle.dataSet]; decide)]
    exact stays
  | api call =>
    apply Leads.bind ((apiCall_serves calls idle call).weaken (fun _ _ => id) fun _ => Or.inr)
    intro _ w₁ idle₁
    exact Leads.pure (.inr idle₁)
  | readable results =>
    dsimp only
    split
    · next live => exact readEventHandler_leads acts calls results ⟨idle, live⟩
    · exact stays
  | writable =>
    dsimp only
    split
    · next live => exact writeEventHandler_leads calls ⟨idle, live⟩
    · exact stays
  | readTimeout =>
    dsimp only
    split
    · next timed =>
      have reading : Reading w := ⟨idle, Option.isSome_of_any timed⟩
      refine Leads.bind (reading.leads (setConnection_calm ?_ w)) ?_
      · exact fun _ => rfl
      intro _ w₁ reading₁
      exact readEventHandler_leads acts calls [] reading₁
    · exact stays
  | writeTimeout =>
    dsimp only
    split
    · next timed =>
      have reading : Reading w := ⟨idle, Option.isSome_of_any timed⟩
      refine Leads.bind (reading.leads (setConnection_calm ?_ w)) ?_
      · exact fun _ => rfl
      intro _ w₁ reading₁
      exact writeEventHandler_leads calls reading₁
    · exact stays
  | pingTimeout =>
    dsimp only
    split
    · apply Leads.of_run (setNc_bind w _ _)
      apply Leads.of_run (emit_bind _ (.pingExpired w.attached w.nc.state) _)
      have idle₁ : Idle { w with
          nc := { w.nc with pingTimer := none }
          log := w.log ++ [.pingExpired w.attached w.nc.state] } :=
        idle.quiet (Still.emitted ⟨rfl, rfl, rfl, rfl, rfl, id, rfl, id⟩ rfl fun _ => rfl)
      -- The timer is clear by now, so the handler returns.
      apply Leads.get
      rw [if_pos rfl]
      exact Leads.pure (.inr idle₁)
    · exact stays
  | reconnectTimeout =>
    dsimp only
    split
    · next scheduled =>
      have shut : w.live.isSome = false := by
        by_contra live
        rw [(idle.opened (Bool.eq_true_of_not_eq_false live)).2] at scheduled
        cases scheduled
      apply Leads.of_run (Program.modify_bind _ _ w)
      have idle₁ : Idle { w with reconnectTimer := none } :=
        ⟨⟨idle.dataSet, idle.okayed, fun live => ⟨(idle.opened live).1, rfl⟩, idle.ready,
          idle.formed⟩, idle.paired.keep rfl fun _ => rfl⟩
      exact (processReconnect_leads calls idle₁ shut).weaken (fun _ _ settles => .inr settles.1)
        fun _ => Or.inr
    · exact stays

/-- No client was told of anything yet. -/
theorem Unstarted.paired (unstarted : Unstarted w) : Paired w fun _ => false := by
  have none (i : Nat) : callbacks i w.log = [] := by
    apply List.filterMap_eq_nil_iff.mpr
    intro event inside
    have called := unstarted.log event inside
    cases event with
    | called => rfl
    | _ => cases called
  constructor
  · exact fun i _ => none i
  · intro i client registered
    rw [unstarted.clients] at registered
    cases registered

/-- An event before the module is initialised, and `ngx_nats_init`. -/
theorem Unstarted.step_leads (silent : ∀ tick call, env.script tick call = []) (depth : Nat)
    (event : Step) (unstarted : Unstarted w) :
    Leads (NgxNats.step env depth event) w (fun _ w' => Unstarted w' ∨ Done w') Crashed := by
  by_cases first : event = .init
  · subst first
    have dark := unstarted.live
    have off : ¬((({} : NatsConnection).state).connectOkayed = true) := Bool.false_ne_true
    have idle : Idle { w with dataSet := true } := by
      refine ⟨⟨rfl, ?_, ?_, ?_, unstarted.formed⟩, ?_⟩
      · intro okayed
        rw [unstarted.nc] at okayed
        exact absurd okayed off
      · intro live
        rw [show World.live { w with dataSet := true } = none from dark] at live
        cases live
      · intro attached
        exact absurd (unstarted.attached.symm.trans attached) Bool.false_ne_true
      · rw [unstarted.attached, Bool.false_and]
        exact unstarted.paired.keep rfl fun _ => rfl
    have vacant : Vacant { w with dataSet := true } :=
      ⟨idle, congrArg Option.isSome dark, unstarted.reconnectTimer⟩
    apply Leads.of_run (unstarted.init depth)
    exact ((silentCalls silent depth).connect _ vacant).weaken
      (fun _ _ settles => .inr (.inr settles.1)) fun _ => Or.inr
  · obtain ⟨w', run, unstarted'⟩ := unstarted.step env depth first
    unfold Leads
    rw [run]
    exact .inl unstarted'

/-- The whole run keeps the callbacks in turn until the connection is closed twice. -/
theorem run_leads (silent : ∀ tick call, env.script tick call = []) (depth : Nat)
    (events : List Step) (read write : Memory UInt8) :
    Leads (run env depth events) (.start read write)
      (fun _ w => Unstarted w ∨ Done w) Crashed := by
  apply Leads.forEach (.inl (start_unstarted read write))
  rintro event - w (unstarted | spoiled | idle)
  · exact unstarted.step_leads silent depth event
  · exact (spoiled.leads (step_acts env depth event w)).weaken
      (fun _ _ spoiled₁ => .inr (.inl spoiled₁)) fun _ => Or.inl
  · exact (step_leads silent depth event idle).weaken (fun _ _ => Or.inr) fun _ => id

/-- Connected and disconnected callbacks alternate, for every client that has both, unless a
message is refused in READY. -/
theorem callbacks_alternate (env : Env) (silent : ∀ tick call, env.script tick call = [])
    (depth : Nat) (events : List Step) (read write : Memory UInt8)
    (unrefused : .rejected stateReady ∉ (reached env depth events read write).log) :
    ∀ i client, (reached env depth events read write).clients[i]? = some client →
      client.disconnected = true →
      Alternates (callbacks i (reached env depth events read write).log) := by
  have crashed : Crashed (reached env depth events read write) := by
    apply Leads.last
    apply (run_leads silent depth events read write).weaken _ fun _ => id
    rintro _ w (unstarted | spoiled | idle)
    · exact .inr unstarted.paired.balanced
    · exact .inl spoiled
    · exact .inr idle.balanced
  rcases crashed with spoiled | balanced
  · exact absurd spoiled.again unrefused
  · exact balanced

/-- A client is registered, the connection becomes READY, and the server closes it. -/
def greetedAndLost : List Step :=
  [.init, .api (.addClient ⟨true⟩), .readable [.bytes greeting], .readable [.eof]]

/-- The client is told of the connection and of its loss. -/
theorem callbacks_alternate_lost :
    callbacks 0 (reached granting 2 greetedAndLost (fun _ => 0) fun _ => 0).log = [true, false] ∧
    ∀ i client, (reached granting 2 greetedAndLost (fun _ => 0) fun _ => 0).clients[i]? =
      some client → client.disconnected = true →
      Alternates (callbacks i (reached granting 2 greetedAndLost (fun _ => 0) fun _ => 0).log) :=
  ⟨by decide +kernel, callbacks_alternate granting (fun _ _ => rfl) 2 greetedAndLost (fun _ => 0)
    (fun _ => 0) (by decide +kernel)⟩

/-- The server sends something else than a message on the READY connection. -/
def greetedAndBroken : List Step :=
  [.init, .api (.addClient ⟨true⟩), .readable [.bytes greeting],
    .readable [.bytes (ascii "FOO\r\n")]]

/-- The client is told twice of the loss of one connection. -/
theorem disconnected_twice :
    (reached granting 2 greetedAndBroken (fun _ => 0) fun _ => 0).clients[0]? = some ⟨true⟩ ∧
    callbacks 0 (reached granting 2 greetedAndBroken (fun _ => 0) fun _ => 0).log =
      [true, false, false] ∧
    ¬Alternates
      (callbacks 0 (reached granting 2 greetedAndBroken (fun _ => 0) fun _ => 0).log) := by
  have told : callbacks 0 (reached granting 2 greetedAndBroken (fun _ => 0) fun _ => 0).log =
      [true, false, false] := by
    decide +kernel
  refine ⟨by decide +kernel, told, ?_⟩
  intro alternates
  rw [told] at alternates
  exact absurd (alternates 2 false rfl) (by decide)

end NgxNats
