import NgxNats.Verif.ActRuns

/-!
# Before the module is initialised

Until `ngx_nats_init` runs, client functions return at once and no event reaches the module.
-/
namespace NgxNats

/-- The record of a call of a client function without a connection. -/
def Event.isCalled : Event → Bool
  | .called _ attached .. => !attached
  | _ => false

/-- The state before `ngx_nats_init`. -/
structure Unstarted (w : World) : Prop where
  dataSet : w.dataSet = false
  reconnectTimer : w.reconnectTimer = none
  clients : w.clients = []
  attached : w.attached = false
  nc : w.nc = {}
  currIndex : w.currIndex = -1
  lastIndex : w.lastIndex = 0
  formed : w.writeBuf.WellFormed
  log : ∀ event ∈ w.log, event.isCalled = true

variable {env : Env} {k : Calls} {w : World}

/-- Before any event the module is unstarted. -/
theorem start_unstarted (read write : Memory UInt8) : Unstarted (.start read write) :=
  ⟨rfl, rfl, rfl, rfl, rfl, rfl, rfl, start_formed read write, List.forall_mem_nil _⟩

/-- No connection is open. -/
theorem Unstarted.live (unstarted : Unstarted w) : w.live = none := by
  simp [World.live, unstarted.nc]

/-- The record of a call of a client function. -/
def World.calledWith (w : World) (call : ApiCall) : World :=
  { w with log := w.log ++ [.called call w.attached w.live.isSome w.nc.state] }

/-- A client function only records its call. -/
theorem Unstarted.apiCall (env : Env) (k : Calls) (unstarted : Unstarted w) (call : ApiCall) :
    ∃ rc, apiCall env k call w = (.ok rc, w.calledWith call) := by
  have off : ¬((w.calledWith call).dataSet = true) := by
    rw [show (w.calledWith call).dataSet = false from unstarted.dataSet]
    exact Bool.false_ne_true
  unfold NgxNats.apiCall
  rw [Program.get_bind, emit_bind]
  change ∃ rc, _ = (Except.ok rc, w.calledWith call)
  cases call with
  | addClient client =>
    refine ⟨ngxAbort, ?_⟩
    change addClient env k client (w.calledWith (.addClient client)) = _
    unfold addClient
    rw [Program.get_bind, if_pos off]
    rfl
  | publish subject replyto data len =>
    refine ⟨ngxAbort, ?_⟩
    change publish env k subject replyto data len (w.calledWith _) = _
    unfold publish
    rw [Program.get_bind, if_pos off]
    rfl
  | subscribe client subject max handleMsg data =>
    refine ⟨ngxAbort, ?_⟩
    change subscribe env k client subject max handleMsg data (w.calledWith _) = _
    unfold subscribe
    rw [Program.get_bind, if_pos off]
    rfl
  | unsubscribe client sid =>
    by_cases zero : sid = 0
    · refine ⟨ngxDeclined, ?_⟩
      change unsubscribe env k sid (w.calledWith (.unsubscribe client sid)) = _
      unfold unsubscribe
      rw [if_pos zero]
      rfl
    · refine ⟨ngxAbort, ?_⟩
      change unsubscribe env k sid (w.calledWith (.unsubscribe client sid)) = _
      unfold unsubscribe
      rw [if_neg zero, Program.get_bind, if_pos off]
      rfl

/-- The record of a call does not start the module. -/
theorem Unstarted.calledWith (unstarted : Unstarted w) (call : ApiCall) :
    Unstarted (w.calledWith call) := by
  refine ⟨unstarted.dataSet, unstarted.reconnectTimer, unstarted.clients, unstarted.attached,
    unstarted.nc, unstarted.currIndex, unstarted.lastIndex, unstarted.formed, ?_⟩
  intro event inside
  rcases List.mem_append.mp inside with early | late
  · exact unstarted.log event early
  · rw [List.mem_singleton.mp late, Event.isCalled, unstarted.attached]
    rfl

/-- `ngx_nats_init` connects. -/
theorem Unstarted.init (unstarted : Unstarted w) (depth : Nat) :
    step env depth .init w = (calls env depth).connect { w with dataSet := true } := by
  unfold step
  rw [Program.get_bind]
  dsimp only
  rw [if_pos (by rw [unstarted.dataSet]; exact Bool.false_ne_true)]
  rfl

/-- Any other event leaves the module as it is. -/
theorem Unstarted.step (env : Env) (unstarted : Unstarted w) (depth : Nat) {event : Step}
    (later : event ≠ .init) : ∃ w', step env depth event w = (.ok (), w') ∧ Unstarted w' := by
  have dark := unstarted.live
  have timer : w.nc.pingTimer = none := by rw [unstarted.nc]
  unfold NgxNats.step
  rw [Program.get_bind]
  cases event with
  | init => exact (later rfl).elim
  | api call =>
    obtain ⟨rc, run⟩ := unstarted.apiCall env (calls env depth) call
    exact ⟨w.calledWith call, Program.bind_ok run, unstarted.calledWith call⟩
  | readable results =>
    dsimp only
    rw [dark, Option.isSome_none, if_neg Bool.false_ne_true]
    exact ⟨w, rfl, unstarted⟩
  | writable =>
    dsimp only
    rw [dark, Option.isSome_none, if_neg Bool.false_ne_true]
    exact ⟨w, rfl, unstarted⟩
  | readTimeout =>
    dsimp only
    rw [dark, Option.any_none, if_neg Bool.false_ne_true]
    exact ⟨w, rfl, unstarted⟩
  | writeTimeout =>
    dsimp only
    rw [dark, Option.any_none, if_neg Bool.false_ne_true]
    exact ⟨w, rfl, unstarted⟩
  | pingTimeout =>
    dsimp only
    rw [timer, Option.isSome_none, if_neg Bool.false_ne_true]
    exact ⟨w, rfl, unstarted⟩
  | reconnectTimeout =>
    dsimp only
    rw [unstarted.reconnectTimer, Option.isSome_none, if_neg Bool.false_ne_true]
    exact ⟨w, rfl, unstarted⟩

end NgxNats
