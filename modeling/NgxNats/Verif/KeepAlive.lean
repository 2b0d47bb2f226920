import NgxNats.Verif.SurvivalRuns

/-!
# The ping timer

`ngx_nats_check_connected` arms the ping timer when bytes were exchanged, and
`ngx_nats_close_connection` deletes it. The handler of the timer returns when the timer is not set,
and nginx clears an expired timer before it calls the handler: an expiry queues no PING and leaves
the timer unarmed.
-/
namespace NgxNats

open Program (Leads)

variable {env : Env} {w w' : World}

/-- The timer is armed on an open connection that has exchanged bytes, and on no other. -/
def Timely (w : World) : Prop :=
  w.nc.pingTimer.isSome = true ↔ w.live.isSome = true ∧ w.nc.state.bytesExchanged = true

/-- Events that leave the timer to the connection: no expiry, and no connection that becomes READY
before it has exchanged bytes. -/
def Event.beats : Event → Bool
  | .pingExpired .. => false
  | .ready state _ => state.bytesExchanged
  | _ => true

/-- Every event so far leaves the timer to the connection. -/
def Beating (log : List Event) : Prop := ∀ event ∈ log, event.beats = true

instance (log : List Event) : Decidable (Beating log) :=
  inferInstanceAs (Decidable (∀ event ∈ log, event.beats = true))

/-- The timer is right unless an event spoilt it. -/
structure Pulse (w : World) : Prop where
  formed : w.writeBuf.WellFormed
  timely : Beating w.log → Timely w

/-- What leaves the connection alone leaves its ping timer set. -/
theorem Timely.same (timely : Timely w) (same : w'.nc = w.nc) : Timely w' := by
  unfold Timely
  rw [same, live_of_nc same]
  exact timely

/-- The timer of a connection whose socket stays as it is. -/
theorem Timely.socket (timely : Timely w) (live : w'.live.isSome = w.live.isSome)
    (timer : w'.nc.pingTimer = w.nc.pingTimer)
    (exchanged : w'.nc.state.bytesExchanged = w.nc.state.bytesExchanged) : Timely w' := by
  unfold Timely
  rw [live, timer, exchanged]
  exact timely

/-- Without an open connection the timer is not armed. -/
theorem timely_unarmed (timer : w.nc.pingTimer = none)
    (idle : w.live = none ∨ w.nc.state.bytesExchanged = false) : Timely w := by
  unfold Timely
  rw [timer]
  constructor
  · exact fun absurd => by cases absurd
  · rintro ⟨live, exchanged⟩
    rcases idle with shut | unexchanged
    · rw [shut] at live
      cases live
    · rw [unexchanged] at exchanged
      cases exchanged

/-- The first bytes on an open connection arm the timer. -/
theorem Timely.checked (env : Env) (timely : Timely w) (live : w.live.isSome = true) :
    Timely (w.checked env) := by
  by_cases exchanged : w.nc.state.bytesExchanged = true
  · refine timely.same ?_
    unfold World.checked
    rw [if_pos exchanged]
  · have armed : (w.checked env).nc.pingTimer.isSome = true := by
      unfold World.checked
      rw [if_neg exchanged]
      rfl
    have noted : (w.checked env).nc.state.bytesExchanged = true := by
      unfold World.checked
      rw [if_neg exchanged]
    exact iff_of_true armed ⟨by rw [checked_live, live], noted⟩

/-- What was spoilt stays so. -/
theorem Beating.earlier {log events : List Event} (beating : Beating (log ++ events)) :
    Beating log := fun event inside => beating event (List.mem_append_left _ inside)

/-- The last event did not spoil the timer. -/
theorem Beating.last {log : List Event} {event : Event} (beating : Beating (log ++ [event])) :
    event.beats = true := beating event (List.mem_append_right _ List.mem_cons_self)

/-- A change of the module that keeps the timer right. -/
theorem Pulse.next {events : List Event} (pulse : Pulse w) (formed : w'.writeBuf.WellFormed)
    (log : w'.log = w.log ++ events) (timely : Timely w → Timely w') : Pulse w' := by
  refine ⟨formed, fun beating => timely (pulse.timely ?_)⟩
  rw [log] at beating
  exact beating.earlier

/-- A change that reports nothing. -/
theorem Pulse.silent (pulse : Pulse w) (formed : w'.writeBuf.WellFormed) (log : w'.log = w.log)
    (timely : Timely w → Timely w') : Pulse w' :=
  pulse.next formed (log.trans (List.append_nil _).symm) timely

/-- A change that leaves the connection structure alone. -/
theorem Pulse.same {events : List Event} (pulse : Pulse w) (formed : w'.writeBuf.WellFormed)
    (nc : w'.nc = w.nc) (log : w'.log = w.log ++ events) : Pulse w' :=
  pulse.next formed log fun timely => timely.same nc

/-- Sending keeps the timer right. -/
theorem Flushed.timely {ending : Option Reason} (flushed : Flushed env w w' ending)
    (timely : Timely w) : Timely w' := by
  cases flushed with
  | drained => exact timely.same rfl
  | part n answer => exact (timely.checked env (sendAnswer_bound answer).2).same rfl
  | whole n answer => exact (timely.checked env (sendAnswer_bound answer).2).same rfl
  | nothing => exact timely.same rfl
  | again =>
    have live := live_map (fun c => { c with writeTimer := some 5000 }) (fun _ => rfl)
      (w.sending w.writeBuf.pending .again)
    exact timely.socket live rfl rfl
  | error => exact timely.same rfl

/-- The state of a connection structure with nothing but its server. -/
theorem timely_fresh {server : Nat} {connection : Option Connection}
    (fresh : w.nc = { server := server, connection := connection }) : Timely w :=
  timely_unarmed (by rw [fresh]) (.inr (by rw [fresh]))

/-- The timer stays right in everything the module does but its expiry. -/
theorem pulse_persists (env : Env) : Persists env Pulse Pulse where
  formed pulse := pulse.formed
  faults pulse := pulse
  aside := by
    intro w w' pulse aside
    obtain ⟨events, log, -⟩ := aside.log
    exact pulse.same (aside.writeBuf ▸ pulse.formed) aside.nc log
  heard msg pulse := pulse.same pulse.formed rfl rfl
  rejected pulse := pulse.same pulse.formed rfl rfl
  informed := by
    intro w nc pulse connection timer state
    have live : World.live { w with nc := nc } = w.live := by
      unfold World.live
      rw [connection]
    exact pulse.silent pulse.formed rfl fun timely =>
      timely.socket (by rw [live]) timer (by rw [state])
  append _ _ _ _ pulse _ _ added := pulse.same (pulse.formed.add added).2 rfl rfl
  reply _ _ _ _ pulse _ _ added := pulse.same (pulse.formed.add added).2 rfl rfl
  ready := by
    intro w before msg pulse _ _ _
    refine ⟨pulse.formed, fun beating => ?_⟩
    have timely := pulse.timely beating.earlier
    have exchanged : w.nc.state.bytesExchanged = true := beating.last
    exact timely.socket rfl rfl exchanged.symm
  initiate _ _ pulse _ added :=
    pulse.next (pulse.formed.add added).2 rfl fun timely => timely.socket rfl rfl rfl
  flushed := by
    intro w w' ending pulse flushed
    obtain ⟨events, log, -⟩ := flushed.log
    exact pulse.next (flushed.formed pulse.formed) log flushed.timely
  dangling := by
    intro w pulse missing
    refine pulse.silent pulse.formed rfl fun _ => ?_
    refine timely_unarmed rfl (.inl ?_)
    unfold World.live
    rw [missing]
  shut pulse _ := pulse.next pulse.formed rfl fun _ => timely_unarmed rfl (.inl (live_shutDown _))
  abandoned _ pulse := pulse.same pulse.formed.reset rfl rfl
  unallocated pulse := pulse.same pulse.formed.reset rfl rfl
  unindexed pulse :=
    pulse.silent pulse.formed.reset rfl fun timely => timely.same rfl
  opened server pulse := pulse.next pulse.formed.reset rfl fun _ => timely_fresh rfl
  wired := by
    intro w server c pulse fresh _
    refine pulse.silent pulse.formed rfl fun _ => ?_
    refine @timely_fresh _ server (some c) ?_
    unfold World.wired
    rw [fresh]
  filled _ pulse := pulse.silent pulse.formed rfl fun timely => timely.same rfl
  checked pulse live :=
    pulse.silent pulse.formed rfl fun timely => timely.checked env live
  noted _ pulse _ := pulse.same pulse.formed rfl rfl
  timed := by
    intro w c c' pulse found kept
    have live : (w.wired c').live.isSome = w.live.isSome := by
      unfold World.live World.wired
      rw [found]
      simp only [kept]
      split
      · rfl
      · rfl
    exact pulse.silent pulse.formed rfl fun timely =>
      timely.socket live rfl rfl
  expired pulse _ := ⟨pulse.formed, fun beating => by cases beating.last⟩

/-- The keep-alive works: an open connection that has exchanged bytes has its timer armed, a closed
one does not, and an expiry on a connection that has exchanged bytes queued a PING. -/
structure KeptAlive (w : World) : Prop where
  armed : w.live.isSome = true → w.nc.state.bytesExchanged = true → w.nc.pingTimer.isSome = true
  unarmed : w.live = none → w.nc.pingTimer = none
  pings : ∀ before attached state after, w.log = before ++ .pingExpired attached state :: after →
    state.bytesExchanged = true → ∃ rest, after = .queued (ascii "PING\r\n") :: rest

/-- A timer that no event spoilt keeps the connection alive. -/
theorem Pulse.keptAlive (pulse : Pulse w) (beating : Beating w.log) : KeptAlive w where
  armed live exchanged := (pulse.timely beating).mpr ⟨live, exchanged⟩
  unarmed shut := by
    by_contra armed
    have live := ((pulse.timely beating).mp (Option.isSome_iff_ne_none.mpr armed)).1
    rw [shut] at live
    cases live
  pings before attached state after log _ := by
    have spoilt := beating (.pingExpired attached state) (by rw [log]; simp)
    cases spoilt

/-- The keep-alive works while no ping timer expires and no connection becomes READY before it
has exchanged bytes; the first expiry on an open connection ends it. -/
theorem keep_alive (env : Env) (depth : Nat) (events : List Step) (read write : Memory UInt8) :
    (Beating (reached env depth events read write).log →
      KeptAlive (reached env depth events read write)) ∧
    ∀ w : World, w.live.isSome = true → w.nc.state.bytesExchanged = true →
      w.nc.pingTimer.isSome = true → ¬KeptAlive (step env depth .pingTimeout w).2 := by
  constructor
  · intro beating
    have start : Pulse (.start read write) :=
      ⟨start_formed read write, fun _ => timely_unarmed rfl (.inl rfl)⟩
    exact ((pulse_persists env).run depth start events).last.keptAlive beating
  · intro w live exchanged armed kept
    rw [Endures.pingTimeout_run depth armed] at kept
    obtain ⟨rest, absurd⟩ := kept.pings w.log w.attached w.nc.state [] rfl exchanged
    cases absurd

/-- A connection that greeted the module, before and after its ping timer expires. -/
theorem keep_alive_greeted :
    KeptAlive greeted ∧ ¬KeptAlive (step granting 2 .pingTimeout greeted).2 := by
  obtain ⟨kept, ends⟩ := keep_alive granting 2 [.init, .readable [.bytes greeting]] (fun _ => 0)
    fun _ => 0
  have state : Beating greeted.log ∧ greeted.live.isSome = true ∧
      greeted.nc.state.bytesExchanged = true ∧ greeted.nc.pingTimer.isSome = true := by
    decide +kernel
  obtain ⟨beating, live, exchanged, armed⟩ := state
  exact ⟨kept beating, ends greeted live exchanged armed⟩

/-- A connection that greeted the module, and then its ping timer expires: no PING is queued, and
the timer of the open connection is not armed again. -/
theorem ping_never_queued : ¬∀ (env : Env) (depth : Nat) (events : List Step)
    (read write : Memory UInt8), KeptAlive (reached env depth events read write) := by
  intro claim
  have armed := (claim granting 2 [.init, .readable [.bytes greeting], .pingTimeout]
    (fun _ => 0) (fun _ => 0)).armed
  revert armed
  decide +kernel

end NgxNats
