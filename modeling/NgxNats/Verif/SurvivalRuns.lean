import NgxNats.Verif.Survival

/-!
# Conditions of the connection over runs

The reader and the event handlers add few changes of their own: the read buffer is filled, bytes
are noted as exchanged, timers are set and expire. A condition that survives these too holds after
every event of every run.
-/
namespace NgxNats

open Program (Leads Moves)

variable {env : Env} {k : Calls} {w w' : World}

/-- The events of the reader. -/
def Event.reads : Event → Bool
  | .recv .. | .received _ | .scanned .. => true
  | _ => false

namespace Whole

/-- A condition survives the timers as well. -/
structure Endures (env : Env) (allowed : ApiCall → Prop) (holds crash : World → Prop) : Prop
    extends toWholeSurvives : Whole.Survives env allowed holds crash where
  timed : ∀ {w c c'}, holds w → w.nc.connection = some c → c'.fdOpen = c.fdOpen →
    holds (w.wired c')
  expired : ∀ {w}, holds w → w.nc.pingTimer.isSome = true → holds { w with
    nc := { w.nc with pingTimer := none }
    log := w.log ++ [.pingExpired w.attached w.nc.state] }

/-- A condition survives the reader as well, whatever it finds in the read buffer; a MSG frame is
taken and handed over at once. -/
structure Persists (env : Env) (allowed : ApiCall → Prop) (holds crash : World → Prop) : Prop
    extends toWholeEndures : Whole.Endures env allowed holds crash,
      toWholeListens : Whole.Listens env allowed holds holds crash where
  taken : ∀ {w} msg, holds w → msg.type ≠ .msg → holds { w with log := w.log ++ [.handled msg] }
  handed : ∀ {w} msg, holds w → msg.type = .msg →
    Leads (handOver env msg) { w with log := w.log ++ [.handled msg] } (fun _ => holds) crash
  rejected : ∀ {w}, holds w → holds { w with log := w.log ++ [.rejected w.nc.state] }
  filled : ∀ {w} b, holds w → holds { w with readBuf := b }
  checked : ∀ {w}, holds w → w.live.isSome = true → holds (w.checked env)
  noted : ∀ {w} event, holds w → event.reads = true → holds { w with log := w.log ++ [event] }

end Whole

/-- A condition survives the timers as well. -/
structure Endures (env : Env) (holds crash : World → Prop) : Prop
    extends Survives env holds crash,
      toWholeEndures : Whole.Endures env (fun _ => True) holds crash

/-- A condition survives the reader as well, whatever it finds in the read buffer. -/
structure Persists (env : Env) (holds crash : World → Prop) : Prop
    extends Endures env holds crash, Listens env holds holds crash,
      toWholePersists : Whole.Persists env (fun _ => True) holds crash where
  heard : ∀ {w} msg, holds w → holds { w with log := w.log ++ [.handled msg] }
  taken := fun msg before _ => heard msg before
  handed := fun msg before _ => handOver_keeps faults aside (heard msg before) msg

/-- What `c->recv` leaves behind: it was asked. -/
theorem recvBytes_last (found : Recv) (w : World) : (recvBytes found w).2 =
    { w with log := w.log ++ [.recv w.readBuf.pos w.readBuf.end w.readBuf.cap] } := by
  unfold recvBytes
  simp only [Program.get_bind, emit_bind, Program.ite_run]
  split
  · rfl
  · split
    · rfl
    · cases found with
      | bytes data =>
        dsimp only
        split
        · rfl
        · rfl
      | again => rfl
      | eof => rfl
      | error => rfl

namespace Whole.Persists

variable {allowed : ApiCall → Prop} {holds crash : World → Prop}

/-- Refusing a message keeps the condition. -/
theorem reject (persists : Persists env allowed holds crash) (calls : CallsSurvive k holds crash)
    (before : holds w) (reason : Reason) :
    Leads (reject env k reason) w (fun _ => holds) crash := by
  apply Leads.get
  apply Leads.of_run (emit_bind w (.rejected w.nc.state) _)
  apply Leads.bind (persists.closeConnection calls (persists.rejected before) reason)
  intro _ w₁ holds₁
  exact Leads.pure holds₁

/-- Dispatching a message keeps the condition. -/
theorem dispatch (persists : Persists env allowed holds crash) (calls : CallsSurvive k holds crash)
    (before : holds w) (parsed : Parsed) :
    Leads (dispatch env k parsed) w (fun _ => holds) crash := by
  have answered : Leads (NgxNats.dispatch env k parsed) w (Answered holds holds) crash := by
    apply persists.toWholeListens.dispatch calls parsed
    · exact persists.taken (serverMsg parsed) before
    · exact persists.handed (serverMsg parsed) before
    · exact fun reason before => persists.closeConnection calls (persists.rejected before) reason
  refine answered.weaken ?_ fun _ => id
  intro went w₁ holds₁
  cases went with
  | true => exact holds₁
  | false => exact holds₁

/-- A new read buffer keeps the condition. -/
theorem setReadBuf (persists : Persists env allowed holds crash) (before : holds w) (b : Buf) :
    Leads (setReadBuf b) w (fun _ => holds) crash := Leads.of_ok rfl (persists.filled b before)

/-- A refused message whose handling returns an error. -/
theorem rejectReturn (persists : Persists env allowed holds crash)
    (calls : CallsSurvive k holds crash)
    (before : holds w) (reason : Reason) (rc : Int) :
    Leads (do
      let _ ← NgxNats.reject env k reason
      return rc) w (fun _ => holds) crash := by
  apply Leads.bind (persists.reject calls before reason)
  intro _ w₁ holds₁
  exact Leads.pure holds₁

/-- Waiting for the rest of a message keeps the condition. -/
theorem awaitMore (persists : Persists env allowed holds crash) (calls : CallsSurvive k holds crash)
    (before : holds w) : Leads (awaitMore env k) w (fun _ => holds) crash := by
  apply Leads.get
  apply Leads.bind (persists.leads before (lift_beside _ w))
  rintro buf w₁ ⟨holds₁, -⟩
  apply Leads.bind (persists.setReadBuf holds₁ buf)
  intro _ w₂ holds₂
  split
  · split
    · exact persists.rejectReturn calls holds₂ _ _
    · apply Leads.bind (persists.leads holds₂ (ask_beside _ w₂))
      rintro alloc w₃ ⟨holds₃, -⟩
      apply Leads.bind (persists.leads holds₃ (lift_beside _ w₃))
      rintro ⟨rc, buf⟩ w₄ ⟨holds₄, -⟩
      apply Leads.bind (persists.setReadBuf holds₄ buf)
      intro _ w₅ holds₅
      split
      · exact persists.rejectReturn calls holds₅ _ _
      · exact Leads.pure holds₅
  · exact Leads.pure holds₂

/-- A round of the reader keeps the condition. -/
theorem processBufferMsg (persists : Persists env allowed holds crash)
    (calls : CallsSurvive k holds crash)
    (before : holds w) : Leads (processBufferMsg env k) w (fun _ => holds) crash := by
  apply Leads.get
  apply Leads.of_run (emit_bind w (.scanned w.readBuf.pos w.readBuf.end w.readBuf.cap) _)
  have scanned := persists.noted (.scanned w.readBuf.pos w.readBuf.end w.readBuf.cap) before rfl
  split
  · apply Leads.bind (persists.leads scanned (lift_beside _ _))
    rintro buf w₂ ⟨holds₂, -⟩
    apply Leads.bind (persists.setReadBuf holds₂ buf)
    intro _ w₃ holds₃
    exact Leads.pure holds₃
  · apply Leads.bind (persists.leads scanned (lift_beside _ _))
    rintro parsed w₂ ⟨holds₂, -⟩
    apply Leads.bind (persists.setReadBuf holds₂ _)
    intro _ w₃ holds₃
    split
    · split
      · exact persists.awaitMore calls holds₃
      · exact persists.rejectReturn calls holds₃ _ _
    · apply Leads.bind (persists.dispatch calls holds₃ parsed)
      intro went w₄ holds₄
      cases went with
      | true => exact Leads.pure holds₄
      | false => exact Leads.pure holds₄

/-- The loop over the messages of the buffer keeps the condition, by its rounds. -/
theorem processBuffer (persists : Persists env allowed holds crash)
    (calls : CallsSurvive k holds crash)
    (before : holds w) : Leads (processBuffer env k) w (fun _ => holds) crash := by
  apply Leads.get
  apply Leads.repeatUntil holds
  · exact fun _ => persists.faults
  · intro w₁ holds₁
    apply Leads.bind (persists.processBufferMsg calls holds₁)
    intro rc w₂ holds₂
    split
    · exact Leads.pure holds₂
    · apply Leads.of_run (Program.modify_bind _ _ w₂)
      exact Leads.pure (persists.filled _ holds₂)
  · exact before

/-- Closing the connection ends the reader. -/
theorem closeReturn (persists : Persists env allowed holds crash)
    (calls : CallsSurvive k holds crash)
    (before : holds w) (reason : Reason) :
    Leads (do
      closeConnection env k reason true
      return false) w (fun _ => holds) crash := by
  apply Leads.bind (persists.closeConnection calls before reason)
  intro _ w₁ holds₁
  exact Leads.pure holds₁

/-- Data that is taken in and read keeps the condition. -/
theorem receiveData (persists : Persists env allowed holds crash)
    (calls : CallsSurvive k holds crash)
    (before : holds w) (live : w.live.isSome = true) (bytes : List UInt8) :
    Leads (receiveData env k bytes) w (fun _ => holds) crash := by
  apply Leads.of_run (Program.bind_ok (checkConnected_run env w))
  have checked := persists.checked before live
  have received : Leads (receiveBytes bytes) (w.checked env) (fun _ => holds) crash := by
    have filled := persists.filled ((w.checked env).readBuf.push bytes) checked
    exact Leads.of_ok rfl (persists.noted (.received bytes) filled rfl)
  apply Leads.bind received
  intro _ w₁ holds₁
  apply Leads.bind (persists.processBuffer calls holds₁)
  intro rc w₂ holds₂
  split
  · exact persists.closeReturn calls holds₂ _
  · exact Leads.pure holds₂

/-- A receive loop that found nothing more. -/
theorem receiveAgain (persists : Persists env allowed holds crash)
    (calls : CallsSurvive k holds crash)
    (before : holds w) :
    Leads (do
      if ← ask env.handleReadEvent then return true
      else
        NgxNats.closeConnection env k .internalError true
        return false) w (fun _ => holds) crash := by
  apply Leads.bind (persists.leads before (ask_beside _ w))
  rintro handled w₁ ⟨holds₁, -⟩
  split
  · exact Leads.pure holds₁
  · exact persists.closeReturn calls holds₁ _

/-- Bytes are received on an open connection. -/
theorem recvBytes (persists : Persists env allowed holds crash) (before : holds w) (found : Recv) :
    Leads (recvBytes found) w (fun result w₁ => holds w₁ ∧
      ∀ bytes, result = .bytes bytes → w₁.live.isSome = true) crash := by
  have asked := persists.noted (.recv w.readBuf.pos w.readBuf.end w.readBuf.cap) before rfl
  rw [← recvBytes_last found w] at asked
  apply Leads.intro
  · intro result w₁ run
    rw [run] at asked
    refine ⟨asked, ?_⟩
    rintro bytes rfl
    exact recvBytes_live run
  · intro stop w₁ run
    rw [run] at asked
    exact persists.faults asked

/-- The loop over `recv` keeps the condition, by induction on what it finds. -/
theorem receive (persists : Persists env allowed holds crash) (calls : CallsSurvive k holds crash)
    (before : holds w) (results : List Recv) :
    Leads (receive env k results) w (fun _ => holds) crash := by
  induction results generalizing w with
  | nil =>
    apply Leads.bind (persists.recvBytes before _)
    rintro _ w₁ ⟨holds₁, -⟩
    exact persists.receiveAgain calls holds₁
  | cons found rest ih =>
    apply Leads.bind (persists.recvBytes before found)
    rintro result w₁ ⟨holds₁, live⟩
    cases result with
    | again => exact persists.receiveAgain calls holds₁
    | bytes bytes =>
      apply Leads.bind (persists.receiveData calls holds₁ (live bytes rfl) bytes)
      intro went w₂ holds₂
      cases went with
      | true => exact ih holds₂
      | false => exact Leads.pure holds₂
    | eof => exact persists.closeReturn calls holds₁ _
    | error => exact persists.closeReturn calls holds₁ _

/-- Reading from the connection keeps the condition. -/
theorem readFromNats (persists : Persists env allowed holds crash)
    (calls : CallsSurvive k holds crash)
    (before : holds w) (results : List Recv) :
    Leads (readFromNats env k results) w (fun _ => holds) crash := by
  apply Leads.get
  apply Leads.bind (persists.receive calls before results)
  intro went w₁ holds₁
  split
  · apply Leads.get
    split
    · exact persists.flush calls holds₁
    · exact Leads.pure holds₁
  · exact Leads.pure holds₁

end Whole.Persists

namespace Endures

/-- The handler of an expired ping timer finds the timer not set, and returns. -/
theorem pingHandler_unset (unset : w.nc.pingTimer = none) : pingHandler env k w = (.ok (), w) := by
  unfold pingHandler
  simp only [Program.get_bind, unset, ↓reduceIte, Program.pure_run]

/-- An expired ping timer is noted, and nothing else is done. -/
theorem pingTimeout_run (depth : Nat) (armed : w.nc.pingTimer.isSome = true) :
    step env depth .pingTimeout w = (.ok (), { w with
      nc := { w.nc with pingTimer := none }
      log := w.log ++ [.pingExpired w.attached w.nc.state] }) := by
  unfold step
  simp only [Program.get_bind, armed, ↓reduceIte, setNc_bind, emit_bind]
  exact pingHandler_unset rfl

end Endures

namespace Whole.Endures

variable {allowed : ApiCall → Prop} {holds crash : World → Prop}

/-- Setting timers of the connection. -/
theorem setConnection (endures : Endures env allowed holds crash) (before : holds w)
    {change : Connection → Connection} (keeps : ∀ c, (change c).fdOpen = c.fdOpen) :
    Leads (setConnection change) w (fun _ => holds) crash := by
  cases found : w.nc.connection with
  | none =>
    have returns : NgxNats.setConnection change w = (.ok (), w) := by
      unfold NgxNats.setConnection setNc
      simp only [Program.modify_run, found, Option.map_none]
      rw [← found]
    exact Leads.of_ok returns before
  | some c =>
    have timed := endures.timed before found (keeps c)
    have returns : NgxNats.setConnection change w = (.ok (), w.wired (change c)) := by
      unfold NgxNats.setConnection setNc World.wired
      simp only [Program.modify_run, found, Option.map_some]
    exact Leads.of_ok returns timed

/-- A write event keeps the condition. -/
theorem writeEventHandler (endures : Endures env allowed holds crash)
    (calls : CallsSurvive k holds crash) (before : holds w) :
    Leads (writeEventHandler env k) w (fun _ => holds) crash := by
  apply Leads.get
  apply Leads.bind (Leads.require (fun _ _ => before) fun _ => endures.faults before)
  intro c w₁ holds₁
  split
  · exact endures.closeConnection calls holds₁ _
  · refine Leads.bind (endures.setConnection holds₁ ?_) ?_
    · exact fun _ => rfl
    intro _ w₂ holds₂
    apply Leads.bind (endures.connectionInit holds₂)
    intro _ w₃ holds₃
    exact endures.flush calls holds₃

/-- A read event keeps the condition where reading does. -/
theorem readEventHandler (endures : Endures env allowed holds crash)
    (calls : CallsSurvive k holds crash)
    (reads : ∀ {w} results, holds w → Leads (readFromNats env k results) w (fun _ => holds) crash)
    (before : holds w) (results : List Recv) :
    Leads (readEventHandler env k results) w (fun _ => holds) crash := by
  apply Leads.get
  apply Leads.bind (Leads.require (fun _ _ => before) fun _ => endures.faults before)
  intro c w₁ holds₁
  split
  · exact endures.closeConnection calls holds₁ _
  · apply Leads.bind (endures.leads holds₁ (ask_beside _ w₁))
    rintro tested w₂ ⟨holds₂, -⟩
    split
    · exact endures.closeConnection calls holds₂ _
    · exact reads results holds₂

/-- One event keeps the condition when the reader does. -/
theorem step (endures : Endures env allowed holds crash) (depth : Nat)
    (reads : ∀ {w} results, holds w →
      Leads (readFromNats env (NgxNats.calls env depth) results) w (fun _ => holds) crash)
    (before : holds w) (event : Step) (asked : ∀ call, event = .api call → allowed call) :
    Leads (step env depth event) w (fun _ => holds) crash := by
  have calls := endures.calls depth
  have stays : Leads (pure () : Comm Unit) w (fun _ => holds) crash := Leads.pure before
  cases event with
  | init =>
    apply Leads.get
    dsimp only
    split
    · apply Leads.of_run (Program.modify_bind _ _ w)
      exact calls.connect (endures.beside before (Beside.silent rfl rfl rfl rfl rfl))
    · exact stays
  | api call =>
    apply Leads.get
    apply Leads.bind (endures.apiCall calls before call (asked call rfl))
    intro _ w₁ holds₁
    exact Leads.pure holds₁
  | readable results =>
    apply Leads.get
    dsimp only
    split
    · exact endures.readEventHandler calls reads before results
    · exact stays
  | writable =>
    apply Leads.get
    dsimp only
    split
    · exact endures.writeEventHandler calls before
    · exact stays
  | readTimeout =>
    apply Leads.get
    dsimp only
    split
    · refine Leads.bind (endures.setConnection before ?_) ?_
      · exact fun _ => rfl
      intro _ w₁ holds₁
      exact endures.readEventHandler calls reads holds₁ []
    · exact stays
  | writeTimeout =>
    apply Leads.get
    dsimp only
    split
    · refine Leads.bind (endures.setConnection before ?_) ?_
      · exact fun _ => rfl
      intro _ w₁ holds₁
      exact endures.writeEventHandler calls holds₁
    · exact stays
  | pingTimeout =>
    by_cases armed : w.nc.pingTimer.isSome = true
    · exact Leads.of_ok (Endures.pingTimeout_run depth armed) (endures.expired before armed)
    · apply Leads.get
      dsimp only
      rw [if_neg armed]
      exact stays
  | reconnectTimeout =>
    apply Leads.get
    dsimp only
    split
    · apply Leads.of_run (Program.modify_bind _ _ w)
      apply Leads.of_run (Program.modify_bind _ _ _)
      exact calls.connect (endures.beside before (Beside.silent rfl rfl rfl rfl rfl))
    · exact stays

/-- A run keeps the condition when the reader does. -/
theorem run (endures : Endures env allowed holds crash) (depth : Nat)
    (reads : ∀ {w} results, holds w →
      Leads (readFromNats env (NgxNats.calls env depth) results) w (fun _ => holds) crash)
    (before : holds w) (events : List Step) (asked : ∀ call, .api call ∈ events → allowed call) :
    Leads (run env depth events) w (fun _ => holds) crash :=
  Leads.forEach before fun event inside _ holds₁ =>
    endures.step depth reads holds₁ event fun call same => asked call (same ▸ inside)

end Whole.Endures

variable {holds crash : World → Prop}

/-- A run keeps the condition whose clients only make allowed calls. -/
theorem Whole.Persists.run {allowed : ApiCall → Prop}
    (persists : Whole.Persists env allowed holds crash) (depth : Nat) (before : holds w)
    (events : List Step) (asked : ∀ call, .api call ∈ events → allowed call) :
    Leads (run env depth events) w (fun _ => holds) crash :=
  persists.toWholeEndures.run depth
    (fun results holds₁ => persists.readFromNats (persists.calls depth) holds₁ results) before
    events asked

/-- A run keeps the condition when the reader does. -/
theorem Endures.run (endures : Endures env holds crash) (depth : Nat)
    (reads : ∀ {w} results, holds w →
      Leads (readFromNats env (NgxNats.calls env depth) results) w (fun _ => holds) crash)
    (before : holds w) (events : List Step) :
    Leads (run env depth events) w (fun _ => holds) crash :=
  endures.toWholeEndures.run depth reads before events fun _ _ => trivial

/-- A run keeps the condition. -/
theorem Persists.run (persists : Persists env holds crash) (depth : Nat) (before : holds w)
    (events : List Step) : Leads (run env depth events) w (fun _ => holds) crash :=
  persists.toWholePersists.run depth before events fun _ _ => trivial

end NgxNats
