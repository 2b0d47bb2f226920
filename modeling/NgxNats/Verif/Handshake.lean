import NgxNats.Lib.History
import NgxNats.Verif.ActRuns
import NgxNats.Verif.InfoFields

/-!
# The handshake

`NGX_NATS_STATE_READY` is assigned as a whole when the first PONG arrives. Whether its bits are
true depends on what happened before: the CONNECT text must have been queued, and an INFO message
with a version taken over.
-/
namespace NgxNats

open History (Throughout since)

/-- The text of an INFO message that is taken over and names a version. -/
def versionedInfo (json : JsonEnv) (body : List UInt8) : Bool :=
  match jsonParse json (.ofList body) with
  | .ok (.ok (_, .object fields)) =>
    fields.all wellTyped && fields.any fun field => strcasecmp field.1 "version"
  | _ => false

/-- The event that begins a connection. -/
def Event.opens : Event → Bool
  | .opened => true
  | _ => false

/-- The events since the connection structure was allocated. -/
abbrev onConnection (log : List Event) : List Event := since Event.opens log

/-- The state before and the version, when an event makes the connection READY. -/
def Event.readied : Event → Option (ConnState × Option (List UInt8))
  | .ready state version => some (state, version)
  | _ => none

/-- The arrival of an INFO message that is taken over and names a version. -/
def Event.informs (env : Env) : Event → Bool
  | .info tick body => versionedInfo (env.json tick) body
  | _ => false

/-- What has to precede the first PONG: `CONNECT_SENT` is set, no append of the CONNECT text was
refused, and an INFO message with a version was received. -/
def HandshakeMet (env : Env) (before : List Event) (event : Event) : Prop :=
  ∀ found ∈ event.readied, found.1.connectSent = true ∧
    .refused (connstr env).length ∉ onConnection before ∧
    ∃ earlier ∈ onConnection before, earlier.informs env = true

/-- What READY means: the CONNECT text is queued, an INFO message was taken over, and there is a
version. -/
def Handshaken (env : Env) (before : List Event) (event : Event) : Prop :=
  ∀ found ∈ event.readied, .queued (connstr env) ∈ onConnection before ∧
    .infoParsed ∈ onConnection before ∧ found.2.isSome

instance (env : Env) (before : List Event) (event : Event) :
    Decidable (HandshakeMet env before event) :=
  inferInstanceAs (Decidable (∀ found ∈ event.readied, _ ∧ _ ∧ _))

instance (env : Env) (before : List Event) (event : Event) :
    Decidable (Handshaken env before event) :=
  inferInstanceAs (Decidable (∀ found ∈ event.readied, _ ∧ _ ∧ _))

/-- What holds of the connection structure in every state. -/
structure Shaking (env : Env) (w : World) : Prop where
  sent : w.nc.state.connectSent = true → w.nc.state.connectOkayed = false →
    .queued (connstr env) ∈ onConnection w.log ∨
      .refused (connstr env).length ∈ onConnection w.log
  told : (∃ event ∈ onConnection w.log, event.informs env = true) →
    .infoParsed ∈ onConnection w.log ∧ w.nc.srvVersion.isSome
  shaken : Throughout (HandshakeMet env) w.log → Throughout (Handshaken env) w.log
  okayed : Throughout (HandshakeMet env) w.log → w.nc.state.connectOkayed = true →
    .queued (connstr env) ∈ onConnection w.log ∧ .infoParsed ∈ onConnection w.log ∧
      w.nc.srvVersion.isSome

/-- Events that say nothing about the handshake. -/
def Event.aside : Event → Bool
  | .opened | .info .. | .ready .. => false
  | _ => true

/-- An event aside opens no connection. -/
theorem opens_of_aside {event : Event} (aside : event.aside = true) : event.opens = false := by
  cases event with
  | opened => cases aside
  | _ => rfl

/-- An event aside is no INFO message. -/
theorem informs_of_aside {env : Env} {event : Event} (aside : event.aside = true) :
    event.informs env = false := by
  cases event with
  | info => cases aside
  | _ => rfl

/-- A plain event is aside. -/
theorem aside_of_plain {event : Event} (plain : event.plain = true) : event.aside = true := by
  cases event with
  | opened => cases plain
  | info => cases plain
  | ready => cases plain
  | _ => rfl

variable {env : Env} {w w' : World} {events : List Event}

/-- Events aside are added to the events on the connection. -/
theorem onConnection_append (log : List Event) (aside : ∀ event ∈ events, event.aside = true) :
    onConnection (log ++ events) = onConnection log ++ events :=
  History.since_append _ fun event inside => opens_of_aside (aside event inside)

/-- Events aside are shaken. -/
theorem handshaken_aside {event : Event} (aside : event.aside = true) (before : List Event) :
    Handshaken env before event := by
  intro found ready
  cases event with
  | ready => cases aside
  | _ => cases ready

/-- Events aside keep the invariant when the bits and the version stay. -/
theorem Shaking.extend (shaking : Shaking env w) (log : w'.log = w.log ++ events)
    (aside : ∀ event ∈ events, event.aside = true)
    (connectSent : w'.nc.state.connectSent = w.nc.state.connectSent)
    (connectOkayed : w'.nc.state.connectOkayed = w.nc.state.connectOkayed)
    (version : w'.nc.srvVersion = w.nc.srvVersion) : Shaking env w' := by
  have longer := onConnection_append w.log aside
  constructor
  · intro sent okayed
    rw [connectSent] at sent
    rw [connectOkayed] at okayed
    rw [log, longer]
    exact (shaking.sent sent okayed).imp (List.mem_append_left _) (List.mem_append_left _)
  · rintro ⟨event, inside, informs⟩
    rw [log, longer] at inside ⊢
    rcases List.mem_append.mp inside with earlier | added
    · obtain ⟨parsed, known⟩ := shaking.told ⟨event, earlier, informs⟩
      exact ⟨List.mem_append_left _ parsed, version ▸ known⟩
    · rw [informs_of_aside (aside event added)] at informs
      cases informs
  · intro met
    rw [log] at met ⊢
    exact (shaking.shaken met.left).append fun event inside _ =>
      handshaken_aside (aside event inside) _
  · intro met okayed
    rw [log] at met
    rw [connectOkayed] at okayed
    rw [log, longer, version]
    obtain ⟨queued, parsed, known⟩ := shaking.okayed met.left okayed
    exact ⟨List.mem_append_left _ queued, List.mem_append_left _ parsed, known⟩

/-- A new connection begins without anything. -/
theorem Shaking.opened (shaking : Shaking env w) (log : w'.log = w.log ++ [.opened])
    (connectSent : w'.nc.state.connectSent = false)
    (connectOkayed : w'.nc.state.connectOkayed = false) : Shaking env w' := by
  have fresh : onConnection (w.log ++ [.opened]) = [] := History.since_marked _ rfl
  constructor
  · intro sent
    rw [connectSent] at sent
    cases sent
  · rintro ⟨event, inside, -⟩
    rw [log, fresh] at inside
    cases inside
  · intro met
    rw [log, History.throughout_concat] at met ⊢
    exact ⟨shaking.shaken met.1, fun _ ready => by cases ready⟩
  · intro _ okayed
    rw [connectOkayed] at okayed
    cases okayed

/-- The CONNECT text is queued or refused once. -/
theorem Shaking.initiate {event : Event} (shaking : Shaking env w)
    (log : w'.log = w.log ++ [.initiated, event])
    (connectOkayed : w'.nc.state.connectOkayed = w.nc.state.connectOkayed)
    (version : w'.nc.srvVersion = w.nc.srvVersion)
    (appended : event = .queued (connstr env) ∨ event = .refused (connstr env).length) :
    Shaking env w' := by
  have aside : ∀ added ∈ [.initiated, event], added.aside = true := by
    intro added inside
    rcases appended with rfl | rfl
    · rcases List.mem_pair.mp inside with rfl | rfl
      · rfl
      · rfl
    · rcases List.mem_pair.mp inside with rfl | rfl
      · rfl
      · rfl
  have longer := onConnection_append w.log aside
  have other : Shaking env { w' with nc := { w'.nc with state := w.nc.state } } :=
    shaking.extend log aside rfl rfl version
  refine ⟨fun _ _ => ?_, other.told, other.shaken, fun met okayed => other.okayed met ?_⟩
  · rw [log, longer]
    rcases appended with rfl | rfl
    · exact .inl (by simp)
    · exact .inr (by simp)
  · exact connectOkayed ▸ okayed

/-- An INFO message is taken over, or not. -/
theorem Shaking.informed (body : List UInt8) (shaking : Shaking env w)
    (log : w'.log = w.log ++ .info w.clock body :: events)
    (reported : ∀ event ∈ events, event = .infoParsed) (state : w'.nc.state = w.nc.state)
    (version : w.nc.srvVersion.isSome → w'.nc.srvVersion.isSome)
    (news : versionedInfo (env.json w.clock) body = true →
      .infoParsed ∈ events ∧ w'.nc.srvVersion.isSome) : Shaking env w' := by
  have longer : onConnection (w.log ++ .info w.clock body :: events) =
      onConnection w.log ++ .info w.clock body :: events := by
    apply History.since_append
    intro event inside
    rcases List.mem_cons.mp inside with rfl | more
    · rfl
    · rw [reported event more]
      rfl
  constructor
  · intro sent okayed
    rw [state] at sent okayed
    rw [log, longer]
    exact (shaking.sent sent okayed).imp (List.mem_append_left _) (List.mem_append_left _)
  · rintro ⟨event, inside, informs⟩
    rw [log, longer] at inside ⊢
    rcases List.mem_append.mp inside with earlier | added
    · obtain ⟨parsed, known⟩ := shaking.told ⟨event, earlier, informs⟩
      exact ⟨List.mem_append_left _ parsed, version known⟩
    · rcases List.mem_cons.mp added with rfl | more
      · obtain ⟨parsed, known⟩ := news informs
        exact ⟨List.mem_append_right _ (List.mem_cons_of_mem _ parsed), known⟩
      · rw [reported event more] at informs
        cases informs
  · intro met
    rw [log] at met ⊢
    apply (shaking.shaken met.left).append
    intro event inside before found ready
    rcases List.mem_cons.mp inside with rfl | more
    · cases ready
    · rw [reported event more] at ready
      cases ready
  · intro met okayed
    rw [log] at met
    rw [state] at okayed
    rw [log, longer]
    obtain ⟨queued, parsed, known⟩ := shaking.okayed met.left okayed
    exact ⟨List.mem_append_left _ queued, List.mem_append_left _ parsed, version known⟩

/-- The first PONG of a connection whose handshake took place. -/
theorem Shaking.ready (shaking : Shaking env w) (fresh : w.nc.state.connectOkayed = false)
    (log : w'.log = w.log ++ [.ready w.nc.state w.nc.srvVersion])
    (state : w'.nc.state = stateReady) (version : w'.nc.srvVersion = w.nc.srvVersion) :
    Shaking env w' := by
  have longer : onConnection (w.log ++ [.ready w.nc.state w.nc.srvVersion]) =
      onConnection w.log ++ [.ready w.nc.state w.nc.srvVersion] := History.since_unmarked _ rfl
  have taken (met : HandshakeMet env w.log (.ready w.nc.state w.nc.srvVersion)) :
      .queued (connstr env) ∈ onConnection w.log ∧ .infoParsed ∈ onConnection w.log ∧
        w.nc.srvVersion.isSome := by
    obtain ⟨sent, unrefused, informed⟩ := met _ rfl
    rcases shaking.sent sent fresh with queued | refused
    · exact ⟨queued, shaking.told informed⟩
    · exact (unrefused refused).elim
  constructor
  · intro _ okayed
    rw [state] at okayed
    cases okayed
  · rintro ⟨event, inside, informs⟩
    rw [log, longer] at inside ⊢
    rw [version]
    rcases List.mem_append.mp inside with earlier | added
    · obtain ⟨parsed, known⟩ := shaking.told ⟨event, earlier, informs⟩
      exact ⟨List.mem_append_left _ parsed, known⟩
    · rw [List.mem_singleton.mp added] at informs
      cases informs
  · intro met
    rw [log, History.throughout_concat] at met ⊢
    refine ⟨shaking.shaken met.1, fun found ready => ?_⟩
    cases ready
    exact taken met.2
  · intro met _
    rw [log, History.throughout_concat] at met
    rw [log, longer, version]
    obtain ⟨queued, parsed, known⟩ := taken met.2
    exact ⟨List.mem_append_left _ queued, List.mem_append_left _ parsed, known⟩

/-- Every act keeps what holds of the connection structure. -/
theorem Shaking.act (shaking : Shaking env w) (act : Act env w w') : Shaking env w' := by
  have none {events : List Event} (empty : events = []) : ∀ event ∈ events, event.aside = true := by
    rw [empty]
    exact List.forall_mem_nil _
  have one {event : Event} (aside : event.aside = true) :
    ∀ added ∈ [event], added.aside = true := by
    simpa using aside
  cases act with
  | tick => exact shaking.extend (List.append_nil _).symm (none rfl) rfl rfl rfl
  | note event plain => exact shaking.extend rfl (one (aside_of_plain plain)) rfl rfl rfl
  | start => exact shaking.extend (List.append_nil _).symm (none rfl) rfl rfl rfl
  | schedule index timer => exact shaking.extend (List.append_nil _).symm (none rfl) rfl rfl rfl
  | wire connection pingTimer =>
    exact shaking.extend (List.append_nil _).symm (none rfl) rfl rfl rfl
  | exchange => exact shaking.extend (List.append_nil _).symm (none rfl) rfl rfl rfl
  | fillRead b => exact shaking.extend (List.append_nil _).symm (none rfl) rfl rfl rfl
  | fillWrite b => exact shaking.extend (List.append_nil _).symm (none rfl) rfl rfl rfl
  | opened server => exact shaking.opened rfl rfl rfl
  | closed reason => exact shaking.extend rfl (one rfl) rfl rfl rfl
  | initiate b event clock fresh appended => exact shaking.initiate rfl rfl rfl appended
  | register client => exact shaking.extend rfl (one rfl) rfl rfl rfl
  | number => exact shaking.extend rfl (one rfl) rfl rfl rfl
  | subscribe client handleMsg data max granted subs entered =>
    exact shaking.extend rfl (one rfl) rfl rfl rfl
  | unsubscribe sid removed => exact shaking.extend rfl (one rfl) rfl rfl rfl
  | miss sid unknown => exact shaking.extend rfl (one rfl) rfl rfl rfl
  | count sid i sub found entry clock delivered outcome =>
    refine shaking.extend rfl (fun event inside => ?_) rfl rfl rfl
    rcases List.mem_cons.mp inside with rfl | more
    · rfl
    · rcases outcome with ⟨message, rfl, -⟩ | ⟨rfl, -⟩
      · rw [List.mem_singleton.mp more]
        rfl
      · cases more
  | info body n fields parsed =>
    obtain ⟨state, -, version⟩ := infoFields_keeps w.nc fields
    apply shaking.informed body rfl _ state version
    · intro versioned
      simp only [versionedInfo, parsed, Bool.and_eq_true, List.all_eq_true,
        List.any_eq_true] at versioned
      obtain ⟨typed, named⟩ := versioned
      rw [infoFields_complete typed w.nc]
      exact ⟨List.mem_singleton_self _, infoFields_version typed named w.nc⟩
    · intro event inside
      split at inside
      · exact List.mem_singleton.mp inside
      · cases inside
  | noInfo body other =>
    refine shaking.informed body ?_ (List.forall_mem_nil _) rfl id ?_
    · rfl
    · intro versioned
      unfold versionedInfo at versioned
      split at versioned
      · next n fields parsed => exact (other n fields parsed).elim
      · cases versioned
  | ready fresh => exact shaking.ready fresh rfl rfl rfl

/-- When the handshake took place before every first PONG, READY means that it did: at the
moment the state becomes READY, and in every reached state in which it is. -/
theorem ready_after_handshake (env : Env) (depth : Nat) (events : List Step)
    (read write : Memory UInt8)
    (met : Throughout (HandshakeMet env) (reached env depth events read write).log) :
    Throughout (Handshaken env) (reached env depth events read write).log ∧
      ((reached env depth events read write).nc.state = stateReady →
        .queued (connstr env) ∈ onConnection (reached env depth events read write).log ∧
        .infoParsed ∈ onConnection (reached env depth events read write).log ∧
        (reached env depth events read write).nc.srvVersion.isSome) := by
  have start : Shaking env (.start read write) := by
    constructor
    · intro sent
      cases sent
    · rintro ⟨event, inside, -⟩
      cases inside
    · exact fun _ => History.throughout_nil
    · intro _ okayed
      cases okayed
  have shaking : Shaking env (reached env depth events read write) :=
    reached_invariant _ env depth events read write start fun _ _ => Shaking.act
  refine ⟨shaking.shaken met, fun state => shaking.okayed met ?_⟩
  rw [state]
  rfl

/-- A handshake in its order. -/
theorem ready_after_info :
    Throughout (Handshaken granting) greeted.log ∧
      (greeted.nc.state = stateReady → .queued (connstr granting) ∈ onConnection greeted.log ∧
        .infoParsed ∈ onConnection greeted.log ∧ greeted.nc.srvVersion.isSome) := by
  unfold greeted
  exact ready_after_handshake granting 2 _ _ _ (by decide +kernel)

/-- A server that sends PONG first: READY without an INFO message, and without a version. -/
theorem ready_without_info : ¬∀ (env : Env) (depth : Nat) (events : List Step)
    (read write : Memory UInt8),
    Throughout (Handshaken env) (reached env depth events read write).log := by
  intro claim
  have shaken := claim granting 2 [.init, .readable [.bytes (ascii "PONG\r\n")]]
    (fun _ => 0) (fun _ => 0)
  revert shaken
  decide +kernel

end NgxNats
