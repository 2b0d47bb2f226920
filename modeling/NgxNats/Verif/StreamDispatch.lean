import NgxNats.Verif.JsonDialect
import NgxNats.Verif.StreamRecord

/-!
# Handling the messages of a stream

A message is handled while its callbacks queue, send and subscribe. None of that touches the read
buffer or what the server told the connection, so a message has the effect that the machine over the
stream foresees; only a handler that closes the connection or stops in a fault prevents it.
-/
namespace NgxNats

open Program (Leads Moves)
open History (Throughout since throughout_concat)

variable {env : Env} {k : Calls} {json : JsonEnv} {start : Cursor} {chunks : List (List UInt8)}
  {w w' : World} {events : List Event}

/-- The reader refused the stream, and so does the machine. -/
structure Refuses (json : JsonEnv) (start : Cursor) (log : List Event) : Prop where
  refused : refused log = true
  halts : Turn.Halts (Cursor.turn json) start (heard log) .refuses

/-- The reader crashed, and so does the machine. -/
structure Crashes (json : JsonEnv) (start : Cursor) (log : List Event) : Prop where
  unrefused : refused log = false
  halts : Turn.Halts (Cursor.turn json) start (heard log) .crashes

/-- A run stopped in a callback, after the stream was refused, or where the machine crashes. -/
def Stopped (json : JsonEnv) (start : Cursor) (chunks : List (List UInt8)) (w : World) : Prop :=
  Fair chunks w.log →
    CallingBack w.log = true ∨ Refuses json start w.log ∨ Crashes json start w.log

/-- The stream was refused. -/
abbrev Over (json : JsonEnv) (start : Cursor) (chunks : List (List UInt8)) : World → Prop :=
  Logged fun log => Fair chunks log → Refuses json start log

/-- A chunk did not arrive as it was cut, or a handler closed the connection. -/
abbrev Unfair (chunks : List (List UInt8)) : World → Prop := Logged fun log => ¬Fair chunks log

/-- A refused stream stays refused. -/
theorem over_endures (env : Env) :
    Endures env (Over json start chunks) (Stopped json start chunks) := by
  apply logged_endures
  · intro log events off ended fair
    obtain ⟨refused, halts⟩ := ended fair.left
    exact ⟨by rw [refused_append off, refused], by rw [heard_append off]; exact halts⟩
  · exact fun ended fair => .inr (.inl (ended.holds fair))

/-- What was not fair stays so. -/
theorem unfair_persists (env : Env) :
    Persists env (Unfair chunks) (Stopped json start chunks) := by
  apply logged_persists
  · exact fun log events unfair fair => unfair fair.left
  · exact fun unfair fair => (unfair.holds fair).elim

/-- Nothing is promised of a stream that is not fair. -/
theorem Unfair.ended (unfair : Unfair chunks w) : Over json start chunks w :=
  ⟨unfair.formed, fun fair => (unfair.holds fair).elim⟩

/-- Noting that bytes were exchanged is nothing the server told. -/
theorem checked_told (env : Env) (w : World) : (w.checked env).nc.told = w.nc.told := by
  unfold World.checked
  dsimp only
  split
  · rfl
  · rfl

/-- A flush is nothing the server told. -/
theorem Flushed.told {ending : Option Reason} (flushed : Flushed env w w' ending) :
    w'.nc.told = w.nc.told := by
  cases flushed with
  | drained => rfl
  | part => exact checked_told env _
  | whole => exact checked_told env _
  | nothing => rfl
  | again => rfl
  | error => rfl

/-- A flush leaves the socket open that was. -/
theorem Flushed.live {ending : Option Reason} (flushed : Flushed env w w' ending) :
    w'.live.isSome = w.live.isSome := by
  cases flushed with
  | drained => rfl
  | part n =>
    exact congrArg Option.isSome (checked_live env (w.sending w.writeBuf.pending (.sent n)))
  | whole n =>
    exact congrArg Option.isSome (checked_live env (w.sending w.writeBuf.pending (.sent n)))
  | nothing => rfl
  | again =>
    exact live_map (fun c => { c with writeTimer := some 5000 }) (fun _ => rfl)
      (w.sending w.writeBuf.pending .again)
  | error => rfl

/-- The fields of an INFO message, as the machine takes them over. -/
theorem infoFields_told (nc : NatsConnection) (fields : List (List UInt8 × JsonValue)) :
    infoFields nc.told fields = ((infoFields nc fields).1.told, (infoFields nc fields).2) := by
  unfold NatsConnection.told
  rw [infoFields_rewired, (infoFields_keeps nc fields).state]

/-- A message was handled last, from this buffer, by a connection that was told this. -/
structure Said (b : Buf) (peer : NatsConnection) (said : List ServerMsg)
    (got : List (List UInt8)) (w : World) : Prop where
  live : w.live.isSome = true
  readBuf : w.readBuf = b
  told : w.nc.told = peer
  heard : heard w.log = said
  got : receivedChunks w.log = got
  unrefused : refused w.log = false
  handling : Handling w.log = true

/-- A message is being handled, perhaps by a client's callback. -/
structure Attending (chunks : List (List UInt8)) (b : Buf) (peer : NatsConnection)
    (said : List ServerMsg) (got : List (List UInt8)) (calling : Bool) (w : World) : Prop where
  formed : w.writeBuf.WellFormed
  said : Fair chunks w.log → Said b peer said got w
  calling : Fair chunks w.log → calling = true → CallingBack w.log = true

section Attending

variable {b : Buf} {peer : NatsConnection} {said : List ServerMsg} {got : List (List UInt8)}
  {calling : Bool}

/-- A change by minor events that leaves the socket and the read buffer alone. -/
theorem Attending.retold {peer' : NatsConnection}
    (attending : Attending chunks b peer said got calling w) (formed : w'.writeBuf.WellFormed)
    (log : w'.log = w.log ++ events) (minor : ∀ event ∈ events, event.minor = true)
    (live : w'.live.isSome = w.live.isSome) (readBuf : w'.readBuf = w.readBuf)
    (told : w.nc.told = peer → w'.nc.told = peer') :
    Attending chunks b peer' said got calling w' := by
  have off (event : Event) (inside : event ∈ events) : event.offRecord = true :=
    offRecord_of_minor (minor event inside)
  refine ⟨formed, fun fair => ?_, fun fair called => ?_⟩
  · rw [log] at fair
    have before := attending.said fair.left
    constructor
    · rw [live, before.live]
    · rw [readBuf, before.readBuf]
    · exact told before.told
    · rw [log, heard_append off, before.heard]
    · rw [log, receivedChunks_append off, before.got]
    · rw [log, refused_append off, before.unrefused]
    · rw [log]
      exact handling_append minor before.handling
  · rw [log] at fair ⊢
    exact callingBack_append minor (attending.calling fair.left called)

/-- A change by minor events that leaves what was told alone as well. -/
theorem Attending.extend (attending : Attending chunks b peer said got calling w)
    (formed : w'.writeBuf.WellFormed) (log : w'.log = w.log ++ events)
    (minor : ∀ event ∈ events, event.minor = true) (live : w'.live.isSome = w.live.isSome)
    (readBuf : w'.readBuf = w.readBuf) (told : w'.nc.told = w.nc.told) :
    Attending chunks b peer said got calling w' :=
  attending.retold formed log minor live readBuf told.trans

/-- A change aside. -/
theorem Attending.aside (attending : Attending chunks b peer said got calling w)
    (aside : Aside w w') : Attending chunks b peer said got calling w' := by
  obtain ⟨events, log, idle⟩ := aside.log
  exact attending.extend (aside.writeBuf ▸ attending.formed) log
    (fun event inside => minor_of_idle (idle event inside)) (by rw [live_of_nc aside.nc])
    aside.readBuf (by rw [aside.nc])

/-- While a message is handled, closing the connection is not fair. -/
theorem Attending.closes {event : Event} (attending : Attending chunks b peer said got calling w)
    (ends : event.ends = true) : ¬Fair chunks (w.log ++ [event]) := fun fair =>
  unfair_of_ends ends (attending.said fair.left).handling fair

/-- A callback leaves a message as it is, or closes the connection. -/
theorem attending_outlives (env : Env) :
    Outlives env (Attending chunks b peer said got true) (Unfair chunks)
      (Stopped json start chunks) where
  formed attending := attending.formed
  faults attending fair := .inl (attending.calling fair rfl)
  aside := Attending.aside
  append _ _ _ _ attending _ _ added := attending.extend (attending.formed.add added).2 rfl
    (List.forall_mem_singleton.mpr (minor_appendEvent _ _ _)) rfl rfl rfl
  flushed := by
    intro w w' ending attending flushed
    obtain ⟨events, log, sends⟩ := flushed.log
    exact attending.extend (flushed.formed attending.formed) log
      (fun event inside => minor_of_sends (sends event inside)) flushed.live flushed.readBuf
      flushed.told
  dangling attending _ fair := .inl (attending.calling fair rfl)
  shut := by
    intro w c attending _
    have log : w.shutDown.log = w.log ++ if w.live.isSome then [.shut] else [] := rfl
    have unfair : ¬Fair chunks w.shutDown.log := by
      intro fair
      rw [log] at fair
      rw [(attending.said fair.left).live, if_pos rfl] at fair
      exact attending.closes rfl fair
    exact ⟨attending.formed, fun fair => (unfair fair).elim, fun fair => (unfair fair).elim⟩
  abandoned reason attending := ⟨attending.formed.reset, attending.closes rfl⟩
  waits unfair aside := by
    have persists : Persists env (Unfair chunks) (Stopped json start chunks) := unfair_persists env
    exact persists.beside unfair aside
  back unfair := ⟨unfair.formed, fun fair => (unfair.holds fair).elim,
    fun fair => (unfair.holds fair).elim⟩

/-- The calls back into the module while a message is handled, and from a refused stream. -/
structure CallsAttend (k : Calls) (json : JsonEnv) (start : Cursor) (chunks : List (List UInt8)) :
    Prop where
  attending : ∀ b peer said got, CallsOutlive k (Attending chunks b peer said got true)
    (Unfair chunks) (Stopped json start chunks)
  ended : CallsSurvive k (Over json start chunks) (Stopped json start chunks)
  unfair : CallsSurvive k (Unfair chunks) (Stopped json start chunks)

/-- Connecting and the callbacks attend the stream, to any depth. -/
theorem calls_attend (env : Env) (depth : Nat) :
    CallsAttend (calls env depth) json start chunks where
  attending _ _ _ _ := (attending_outlives env).calls
    (fun depth _ => ((unfair_persists env).calls depth).connect) depth
  ended := (over_endures env).calls depth
  unfair := (unfair_persists env).calls depth

/-- Telling a client of a message. -/
theorem Attending.tell (attending : Attending chunks b peer said got calling w)
    (calls : CallsAttend k json start chunks) {event : Event} (idle : event.idle = true)
    (callsBack : event.callsBack = true) (call : Callback) :
    Leads (do
      emit event
      k.callback call) w (fun _ => Attending chunks b peer said got true)
        (Stopped json start chunks) := by
  have minor := minor_of_idle idle
  have told : Attending chunks b peer said got calling { w with log := w.log ++ [event] } :=
    attending.extend attending.formed rfl (List.forall_mem_singleton.mpr minor) rfl rfl rfl
  apply Leads.of_run (emit_bind w event _)
  apply (calls.attending b peer said got).callback call
  refine ⟨told.formed, told.said, fun fair _ => ?_⟩
  have handling := (told.said fair).handling
  unfold CallingBack
  rw [handling, History.since_unmarked Event.pauses (pauses_of_minor minor), List.any_append]
  simp [callsBack]

/-- A message whose callback returned. -/
theorem Attending.returned (attending : Attending chunks b peer said got calling w) :
    Attending chunks b peer said got false w :=
  ⟨attending.formed, attending.said, fun _ called => by cases called⟩

/-- Becoming READY attends the stream. -/
theorem connectionReady_attends (calls : CallsAttend k json start chunks)
    (attending : Attending chunks b peer said got false w)
    (version : w.nc.srvVersion.isSome = true) :
    Leads (connectionReady k) w (fun _ => Attending chunks b peer said got false)
      (Stopped json start chunks) := by
  obtain ⟨text, found⟩ := Option.isSome_iff_exists.mp version
  apply Leads.get
  rw [found]
  apply Leads.of_run (Program.require_some_bind .badAccess text _ w)
  refine Leads.forEach attending ?_
  rintro ⟨client, i⟩ - w₁ attending₁
  exact (attending₁.tell calls rfl rfl _).weaken (fun _ _ => Attending.returned) fun _ => id

/-- A PONG makes the connection READY, unless there is no version to print. -/
theorem readied_attends (calls : CallsAttend k json start chunks)
    (attending : Attending chunks b w.nc.told said got false w)
    (crashes : w.nc.srvVersion = none → Turn.Halts (Cursor.turn json) start said .crashes) :
    Leads (connectionReady k) w.readied (fun _ w' => w.nc.srvVersion ≠ none ∧
        Attending chunks b { w.nc.told with state := stateReady } said got false w')
      (Stopped json start chunks) := by
  have ready : Attending chunks b { w.nc.told with state := stateReady } said got false w.readied :=
    attending.retold attending.formed rfl (List.forall_mem_singleton.mpr rfl) rfl rfl fun _ => rfl
  by_cases version : w.nc.srvVersion = none
  · have stops : connectionReady k w.readied = (.error .badAccess, w.readied) := by
      unfold connectionReady
      rw [Program.get_bind]
      change (Program.require Fault.badAccess w.nc.srvVersion >>= _) _ = _
      rw [version]
      rfl
    unfold Leads
    rw [stops]
    intro fair
    have before := ready.said fair
    exact .inr (.inr ⟨before.unrefused, by rw [before.heard]; exact crashes version⟩)
  · have serves := connectionReady_attends calls ready (Option.isSome_iff_ne_none.mpr version)
    exact serves.weaken (fun _ _ attending' => ⟨version, attending'⟩) fun _ => id

/-- A PING is answered. -/
theorem replyPong_attends (attending : Attending chunks b peer said got false w) :
    Leads (addMessage env (ascii "PONG\r\n") 6) w
      (fun _ => Attending chunks b peer said got false) (Stopped json start chunks) := by
  have least := attending.formed.least
  simp only [bufInitSize] at least
  obtain ⟨rc, b', added⟩ := Buf.add_total (env.alloc w.clock) attending.formed.valid
    (show 6 ≤ w.writeBuf.cap by omega) (show 6 ≤ (ascii "PONG\r\n").length by decide)
  have run : addMessage env (ascii "PONG\r\n") 6 w =
      (.ok rc, w.appended rc b' (ascii "PONG\r\n") 6) := by
    rw [addMessage_sized env _ (by decide), appendBytes_run, added]
  exact Leads.of_ok run (attending.extend (attending.formed.add added).2 rfl
    (List.forall_mem_singleton.mpr (minor_appendEvent _ _ _)) rfl rfl rfl)

/-- `ngx_nats_process_msg` attends the stream. -/
theorem processMsg_attends (calls : CallsAttend k json start chunks)
    (attending : Attending chunks b peer said got false w) (msg : ServerMsg) :
    Leads (processMsg env k msg) w (fun _ => Attending chunks b peer said got false)
      (Stopped json start chunks) := by
  cases found : getSubscription w.subs msg.sid with
  | none =>
    have counted := attending.aside (countMsg_aside (w := w) msg.sid)
    rw [countMsg_unknown found] at counted
    apply Leads.of_run (Program.bind_ok (countMsg_unknown found))
    exact Leads.pure counted
  | some i =>
    obtain ⟨sub, entry, -⟩ := getSubscription_some found
    have counted := attending.aside (countMsg_aside (w := w) msg.sid)
    rw [countMsg_found found entry] at counted
    apply Leads.of_run (Program.bind_ok (countMsg_found found entry))
    apply Leads.of_run (ask_bind _ env.createPool _)
    have asked := counted.aside (ask_aside env.createPool _)
    split
    · exact Leads.pure asked
    · apply Leads.of_run (ask_bind _ env.pcalloc _)
      have granted := asked.aside (ask_aside env.pcalloc _)
      split
      · exact Leads.pure granted
      · exact (granted.tell calls rfl rfl _).weaken (fun _ _ => Attending.returned) fun _ => id

/-- An INFO message tells the connection what the machine takes over, or is refused. -/
theorem parseInfo_attends (provided : ∀ tick, env.json tick = json)
    (attending : Attending chunks b w.nc.told said got false w) (body : List UInt8) :
    Leads (parseInfo env body) w (fun rc w' => ∃ peer',
      Attending chunks b peer' said got false w' ∧
        informed json w.nc.told body = if rc = ngxOk then some peer' else none)
      (Stopped json start chunks) := by
  apply Leads.get
  apply Leads.of_run (emit_bind w (.info w.clock body) _)
  have noted : Attending chunks b w.nc.told said got false
      { w with log := w.log ++ [.info w.clock body] } :=
    attending.extend attending.formed rfl (List.forall_mem_singleton.mpr rfl) rfl rfl rfl
  apply Leads.of_run (ask_bind _ env.json _)
  have asked := noted.aside (ask_aside env.json _)
  rw [provided]
  unfold informed
  rcases jsonParse_cases json body with ⟨n, value, parsed, -⟩ | ⟨rc, -, parsed⟩
  · rw [parsed]
    apply Leads.of_run (lift_ok_bind _ _ _)
    cases value with
    | object fields =>
      have taken := infoFields_told w.nc fields
      apply Leads.get
      apply Leads.of_run (setNc_bind _ _ _)
      have kept := (infoFields_keeps w.nc fields).connection
      have live : World.live { w with nc := (infoFields w.nc fields).1 } = w.live := by
        unfold World.live
        rw [kept]
      dsimp only
      cases complete : (infoFields w.nc fields).2 with
      | true =>
        rw [complete] at taken
        rw [if_pos rfl]
        apply Leads.of_run (emit_bind _ .infoParsed _)
        refine Leads.pure ⟨(infoFields w.nc fields).1.told, ?_, ?_⟩
        · exact asked.retold asked.formed rfl (List.forall_mem_singleton.mpr rfl)
            (congrArg Option.isSome live) rfl fun _ => rfl
        · rw [taken, if_pos rfl, if_pos rfl]
      | false =>
        rw [complete] at taken
        rw [if_neg Bool.false_ne_true]
        refine Leads.pure ⟨(infoFields w.nc fields).1.told, ?_, ?_⟩
        · exact asked.retold asked.formed (List.append_nil _).symm (List.forall_mem_nil _)
            (congrArg Option.isSome live) rfl fun _ => rfl
        · rw [taken, if_neg Bool.false_ne_true, if_neg (by decide)]
    | _ => exact Leads.pure ⟨_, asked, (if_neg (by decide)).symm⟩
  · rw [parsed]
    exact Leads.pure ⟨_, asked, (if_neg (by decide)).symm⟩

end Attending

/-- The surroundings of the reader: memory is granted, a text is read as JSON the same way every
time, and nginx goes on watching the socket. -/
structure Provides (env : Env) (json : JsonEnv) : Prop where
  alloc : ∀ tick size, (env.alloc tick size).isSome = true
  json : ∀ tick, env.json tick = json
  readEvent : ∀ tick, env.handleReadEvent tick = true

/-- The state when a message is handed to its handler. -/
def World.hearing (w : World) (msg : ServerMsg) : World :=
  { w with log := w.log ++ [.handled msg] }

/-- A message that is handed to its handler. -/
theorem attending_hearing (chunks : List (List UInt8)) (formed : w.writeBuf.WellFormed)
    (live : w.live.isSome = true) (unrefused : refused w.log = false) (msg : ServerMsg) :
    Attending chunks w.readBuf w.nc.told (heard w.log ++ [msg]) (receivedChunks w.log) false
      (w.hearing msg) := by
  refine ⟨formed, fun _ => ?_, fun _ called => by cases called⟩
  constructor
  · exact live
  · rfl
  · rfl
  · unfold heard World.hearing
    rw [List.filterMap_append]
    rfl
  · unfold receivedChunks World.hearing
    rw [List.filterMap_append]
    exact List.append_nil _
  · unfold refused World.hearing at *
    rw [List.any_append, unrefused]
    rfl
  · unfold Handling World.hearing
    rw [History.since_unmarked Event.pauses rfl, List.any_append]
    exact Bool.or_true _

/-- A refused message ends the stream where the machine refuses it. -/
theorem refuse_over (calls : CallsAttend k json start chunks) (formed : w.writeBuf.WellFormed)
    (halts : Fair chunks w.log → Turn.Halts (Cursor.turn json) start (heard w.log) .refuses)
    (reason : Reason) : Leads (closeConnection env k reason true)
      { w with log := w.log ++ [.rejected w.nc.state] } (fun _ => Over json start chunks)
      (Stopped json start chunks) := by
  have ended : Over json start chunks { w with log := w.log ++ [.rejected w.nc.state] } := by
    refine ⟨formed, fun fair => ⟨?_, ?_⟩⟩
    · unfold refused
      rw [List.any_append]
      exact Bool.or_true _
    · have same : heard (w.log ++ [.rejected w.nc.state]) = heard w.log := by
        unfold heard
        rw [List.filterMap_append]
        exact List.append_nil _
      rw [same]
      exact halts fair.left
  exact (over_endures env).closeConnection calls.ended ended reason

/-- What dispatching a message leads to: the effect that the machine foresees. -/
abbrev Dispatched (json : JsonEnv) (start : Cursor) (chunks : List (List UInt8)) (w : World)
    (parsed : Parsed) : Bool → World → Prop :=
  Answered (fun w' => ∃ peer, effect json w.nc.told parsed = .goes peer ∧
    Attending chunks w.readBuf peer (heard w.log ++ [serverMsg parsed]) (receivedChunks w.log) false
      w') (Over json start chunks)

/-- An INFO message that is not empty does what its text informs of. -/
theorem effect_informed {parsed : Parsed} {peer : NatsConnection} (kind : parsed.msg.type = .info)
    (full : ¬parsed.msg.bend ≤ parsed.msg.bstart) {told : Option NatsConnection}
    (taken : informed json peer (serverMsg parsed).body = told) :
    effect json peer parsed = told.elim .refuses .goes := by
  unfold effect
  rw [kind, ← taken]
  show (if _ then _ else _) = _
  rw [if_neg full]
  cases informed json peer (serverMsg parsed).body with
  | none => rfl
  | some _ => rfl

/-- A message has the effect that the machine foresees. -/
theorem dispatch_attends (provides : Provides env json) (calls : CallsAttend k json start chunks)
    {parsed : Parsed} (formed : w.writeBuf.WellFormed) (live : w.live.isSome = true)
    (unrefused : refused w.log = false)
    (refuses : effect json w.nc.told parsed = .refuses →
      Turn.Halts (Cursor.turn json) start (heard w.log ++ [serverMsg parsed]) .refuses)
    (crashes : effect json w.nc.told parsed = .crashes →
      Turn.Halts (Cursor.turn json) start (heard w.log ++ [serverMsg parsed]) .crashes) :
    Leads (dispatch env k parsed) w (Dispatched json start chunks w parsed)
      (Stopped json start chunks) := by
  have handled := attending_hearing chunks formed live unrefused (serverMsg parsed)
  have rejects {w₁ : World} {peer : NatsConnection} (reason : Reason)
      (attending : Attending chunks w.readBuf peer (heard w.log ++ [serverMsg parsed])
        (receivedChunks w.log) false w₁) (foreseen : effect json w.nc.told parsed = .refuses) :
      Leads (reject env k reason) w₁ (Dispatched json start chunks w parsed)
        (Stopped json start chunks) := by
    refine reject_answered (refuse_over calls attending.formed (fun fair => ?_) reason)
    rw [(attending.said fair).heard]
    exact refuses foreseen
  apply Leads.of_run (emit_bind w (.handled (serverMsg parsed)) _)
  change Leads _ (w.hearing (serverMsg parsed)) _ _
  apply Leads.get
  have type : (serverMsg parsed).type = parsed.msg.type := rfl
  rw [type]
  cases kind : parsed.msg.type with
  | ok =>
    have foreseen : effect json w.nc.told parsed = .goes w.nc.told := by
      unfold effect
      rw [kind]
    exact Leads.pure ⟨w.nc.told, foreseen, handled⟩
  | err =>
    have foreseen : effect json w.nc.told parsed =
        if w.nc.state.connectSent ∧ ¬w.nc.state.connectOkayed then .refuses
        else .goes w.nc.told := by
      unfold effect
      rw [kind]
      rfl
    dsimp only
    split
    · next early => exact rejects _ handled (foreseen.trans (if_pos early))
    · next late => exact Leads.pure ⟨w.nc.told, foreseen.trans (if_neg late), handled⟩
  | ping =>
    have foreseen : effect json w.nc.told parsed = .goes w.nc.told := by
      unfold effect
      rw [kind]
    apply Leads.bind (replyPong_attends handled)
    intro _ w₁ attending
    exact Leads.pure ⟨w.nc.told, foreseen, attending⟩
  | pong =>
    dsimp only
    split
    · next okayed =>
      have foreseen : effect json w.nc.told parsed = .goes w.nc.told := by
        unfold effect
        rw [kind]
        exact if_pos okayed
      exact Leads.pure ⟨w.nc.told, foreseen, handled⟩
    · next early =>
      have foreseen : effect json w.nc.told parsed =
          if w.nc.srvVersion = none then .crashes
          else .goes { w.nc.told with state := stateReady } := by
        unfold effect
        rw [kind]
        exact if_neg early
      have serves := readied_attends (w := w.hearing (serverMsg parsed)) calls handled
        fun missing => crashes (foreseen.trans (if_pos missing))
      apply Leads.of_run (record_bind (w.hearing (serverMsg parsed)) (.ready w.nc.state
        w.nc.srvVersion) _ _)
      apply Leads.bind serves
      rintro _ w₁ ⟨version, attending⟩
      exact Leads.pure ⟨_, foreseen.trans (if_neg version), attending⟩
  | info =>
    dsimp only
    split
    · next empty =>
      refine rejects _ handled ?_
      unfold effect
      rw [kind]
      exact if_pos empty
    · next full =>
      apply Leads.bind (parseInfo_attends provides.json handled (serverMsg parsed).body)
      rintro rc w₁ ⟨peer, attending, taken⟩
      have foreseen := effect_informed kind full taken
      split
      · next failed =>
        rw [if_neg failed] at foreseen
        exact rejects _ attending foreseen
      · next complete =>
        rw [if_pos (not_not.mp complete)] at foreseen
        exact Leads.pure ⟨peer, foreseen, attending⟩
  | msg =>
    have foreseen : effect json w.nc.told parsed = .goes w.nc.told := by
      unfold effect
      rw [kind]
    apply Leads.bind (processMsg_attends calls handled _)
    intro _ w₁ attending
    exact Leads.pure ⟨w.nc.told, foreseen, attending⟩
  | unset =>
    refine rejects _ handled ?_
    unfold effect
    rw [kind]

end NgxNats
