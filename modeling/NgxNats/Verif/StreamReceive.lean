import NgxNats.Verif.StreamReader

/-!
# Receiving a stream

Every chunk is appended to what is pending and leaves the reader where the machine is, since what
was received and what was not are the stream still. When all the chunks are received the reader
rests: the machine waits there, for more of the stream.
-/
namespace NgxNats

open Program (Leads Moves)

variable {env : Env} {k : Calls} {json : JsonEnv} {start : Cursor} {chunks : List (List UInt8)}
  {w w' : World}

/-- A received chunk. -/
theorem receivedChunks_concat (log : List Event) (bytes : List UInt8) :
    receivedChunks (log ++ [.received bytes]) = receivedChunks log ++ [bytes] := by
  unfold receivedChunks
  rw [List.filterMap_append]
  rfl

/-- A chunk that arrives as it was cut is the next of the stream. -/
theorem Fair.next {log : List Event} {bytes : List UInt8}
    (fair : Fair chunks (log ++ [.received bytes])) :
    unread chunks log = bytes ++ unread chunks (log ++ [.received bytes]) := by
  obtain ⟨after, whole⟩ := fair.whole
  unfold unread
  rw [receivedChunks_concat, List.append_assoc] at whole
  rw [receivedChunks_concat, ← whole, List.drop_left, List.length_append, ← List.drop_drop,
    List.drop_left]
  rfl

/-- The reader with a chunk appended. -/
theorem AtRest.receives (rest : AtRest json start chunks w) {bytes : List UInt8}
    (fits : bytes.length ≤ w.readBuf.cap - w.readBuf.end - 1) :
    Between json start chunks { w.checked env with
      readBuf := (w.checked env).readBuf.push bytes
      log := (w.checked env).log ++ [.received bytes] } := by
  refine ⟨rest.formed, fun fair => ?_⟩
  have abreast := rest.abreast fair.left
  have space := rest.space fair.left
  have inside : w.readBuf.end + bytes.length ≤ w.readBuf.cap := by omega
  have last : w.readBuf.end + bytes.length < w.readBuf.cap := by omega
  have pending := Buf.pending_push bytes abreast.valid
  have next : unread chunks w.log = bytes ++ unread chunks (w.log ++ [.received bytes]) := fair.next
  have cursor : w.cursor.feed (unread chunks w.log) = Cursor.feed ⟨w.readBuf.cap,
      (w.checked env).nc.told, (w.readBuf.push bytes).pending⟩
      (unread chunks (w.log ++ [.received bytes])) := by
    unfold World.cursor Cursor.feed
    dsimp only
    rw [next, pending, checked_told, List.append_assoc]
  constructor
  · exact (congrArg Option.isSome (checked_live env w)).trans abreast.live
  · exact abreast.valid.push inside
  · exact last
  · exact abreast.least
  · exact abreast.small
  · have reaches := abreast.reaches
    rw [cursor] at reaches
    have same : heard (w.log ++ [.received bytes]) = heard w.log := by
      unfold heard
      rw [List.filterMap_append]
      exact List.append_nil _
    show Turn.Reaches _ start (heard (w.log ++ [.received bytes])) _
    rw [same]
    exact reaches
  · show refused (w.log ++ [.received bytes]) = false
    unfold refused
    rw [List.any_append]
    exact (Bool.or_false _).trans abreast.unrefused

/-- At most so many chunks are still to come. -/
def Due (chunks : List (List UInt8)) (count : Nat) (w : World) : Prop :=
  chunks.length ≤ (receivedChunks w.log).length + count

/-- Fewer chunks are due as the log grows. -/
theorem Due.grows {count : Nat} {events : List Event} (due : Due chunks count w)
    (log : w'.log = w.log ++ events) : Due chunks count w' := by
  unfold Due receivedChunks at *
  rw [log, List.filterMap_append, List.length_append]
  omega

/-- What receiving leads to: the reader waits for the chunks that are due, or the stream was
refused. -/
abbrev Heeded (json : JsonEnv) (start : Cursor) (chunks : List (List UInt8)) (count : Nat) :
    Bool → World → Prop :=
  Answered (fun w => AtRest json start chunks w ∧ (Fair chunks w.log → Due chunks count w))
    (Over json start chunks)

/-- Nothing is promised of a stream that is not fair. -/
theorem Unfair.heeded (unfair : Unfair chunks w) (count : Nat) (went : Bool) :
    Heeded json start chunks count went w := by
  cases went with
  | true => exact ⟨unfair.atRest, fun fair => (unfair.holds fair).elim⟩
  | false => exact unfair.ended

/-- A chunk leaves the reader at rest, or the stream was refused. -/
theorem receiveData_rests (provides : Provides env json) (calls : CallsAttend k json start chunks)
    (acts : CallsAct env k) (fit : LengthsFit json start) (rest : AtRest json start chunks w)
    {count : Nat} (due : Fair chunks w.log → Due chunks (count + 1) w) {bytes : List UInt8}
    (fits : bytes.length ≤ w.readBuf.cap - w.readBuf.end - 1) :
    Leads (receiveData env k bytes) w (Heeded json start chunks count)
      (Stopped json start chunks) := by
  have filled : Between json start chunks { w.checked env with
      readBuf := (w.checked env).readBuf.push bytes
      log := (w.checked env).log ++ [.received bytes] } := rest.receives fits
  have log : (w.checked env).log = w.log := rfl
  apply Leads.of_run (Program.bind_ok (checkConnected_run env w))
  have received : Leads (receiveBytes bytes) (w.checked env) (fun _ w' =>
      Between json start chunks w' ∧ w'.log = w.log ++ [.received bytes])
      (Stopped json start chunks) := Leads.of_ok rfl ⟨filled, congrArg (· ++ _) log⟩
  apply Leads.bind received
  rintro _ w₁ ⟨between, log₁⟩
  have reads :=
    (processBuffer_rests provides calls fit between).and (processBuffer_acts acts w₁).leads
  apply Leads.bind (reads.weaken (fun _ _ => id) fun _ => And.left)
  rintro rc w₂ ⟨rested, acts₂⟩
  obtain ⟨events, log₂⟩ := acts₂.grows between.formed
  unfold Rested at rested
  split
  · next failed =>
    rw [if_neg failed] at rested
    apply Leads.bind ((over_endures env).closeConnection calls.ended rested.2 _)
    intro _ w₃ ended
    exact Leads.pure ended
  · next done =>
    rw [if_pos (not_not.mp done)] at rested
    refine Leads.pure ⟨rested, fun fair => ?_⟩
    rw [log₂, log₁] at fair
    have before := due fair.left.left
    have counted : Due chunks count w₁ := by
      unfold Due at *
      rw [log₁, receivedChunks_concat, List.length_append, List.length_singleton]
      omega
    exact counted.grows log₂

/-- What `recv` is asked for is off the record. -/
theorem AtRest.asked (rest : AtRest json start chunks w) : AtRest json start chunks
    { w with log := w.log ++ [.recv w.readBuf.pos w.readBuf.end w.readBuf.cap] } := by
  refine ⟨⟨rest.formed, fun fair => ?_⟩, fun fair => rest.space fair.left,
    fun fair => rest.waits fair.left⟩
  have abreast := rest.abreast fair.left
  exact abreast.keep rfl (List.forall_mem_singleton.mpr rfl) rfl rfl abreast.valid rfl abreast.room
    rfl

/-- The reader asked for bytes, and finds some when there are some. -/
structure Asked (json : JsonEnv) (start : Cursor) (chunks : List (List UInt8)) (w : World)
    (found result : Recv) (w' : World) : Prop where
  rest : AtRest json start chunks w'
  log : ∃ event, w'.log = w.log ++ [event]
  finds : ∀ data, found = .bytes data → data ≠ [] → Fair chunks w'.log →
    ∃ bytes, result = .bytes bytes
  fits : ∀ bytes, result = .bytes bytes → bytes.length ≤ w'.readBuf.cap - w'.readBuf.end - 1

/-- The question to `recv` leaves the reader at rest and is noted. -/
theorem recvBytes_asked (rest : AtRest json start chunks w) (found : Recv) :
    Leads (recvBytes found) w (Asked json start chunks w found) (Stopped json start chunks) := by
  have asked := rest.asked
  apply Leads.get
  apply Leads.of_run (emit_bind w (.recv w.readBuf.pos w.readBuf.end w.readBuf.cap) _)
  split
  · next full =>
    refine Leads.fault fun fair => ?_
    have space := asked.space fair
    dsimp only at space
    omega
  · split
    · next dead =>
      refine Leads.pure ⟨asked, ⟨_, rfl⟩, fun data _ _ fair => ?_, nofun⟩
      have live : w.live.isSome = true := (asked.abreast fair).live
      rw [dead] at live
      cases live
    · cases found with
      | bytes data =>
        dsimp only
        split
        · next none =>
          refine Leads.pure ⟨asked, ⟨_, rfl⟩, fun _ same nonempty fair => ?_, nofun⟩
          cases same
          have space := asked.space fair
          dsimp only at space
          rcases List.take_eq_nil_iff.mp none with full | empty
          · omega
          · exact absurd empty nonempty
        · refine Leads.pure ⟨asked, ⟨_, rfl⟩, fun _ _ _ _ => ⟨_, rfl⟩, fun bytes result => ?_⟩
          cases result
          rw [List.length_take]
          exact Nat.min_le_left _ _
      | again => exact Leads.pure ⟨asked, ⟨_, rfl⟩, nofun, nofun⟩
      | eof => exact Leads.pure ⟨asked, ⟨_, rfl⟩, nofun, nofun⟩
      | error => exact Leads.pure ⟨asked, ⟨_, rfl⟩, nofun, nofun⟩

/-- A receive loop that found nothing more waits for the next read event. -/
theorem receiveAgain_rests (provides : Provides env json) (rest : AtRest json start chunks w)
    {count : Nat} (due : Fair chunks w.log → Due chunks count w) :
    Leads (do
      if ← ask env.handleReadEvent then return true
      else
        closeConnection env k .internalError true
        return false) w (Heeded json start chunks count) (Stopped json start chunks) := by
  apply Leads.of_run (ask_bind w env.handleReadEvent _)
  rw [if_pos (provides.readEvent w.clock)]
  refine Leads.pure ⟨⟨⟨rest.formed, fun fair => ?_⟩, rest.space, rest.waits⟩, due⟩
  have abreast := rest.abreast fair
  exact abreast.keep (List.append_nil _).symm (List.forall_mem_nil _) rfl rfl abreast.valid rfl
    abreast.room rfl

/-- Closing the connection in a read event that is not fair. -/
theorem Unfair.closes (unfair : Unfair chunks w) (calls : CallsAttend k json start chunks)
    (reason : Reason) (count : Nat) : Leads (do
      closeConnection env k reason true
      return false) w (Heeded json start chunks count) (Stopped json start chunks) :=
  ((unfair_persists env).closeReturn calls.unfair unfair reason).weaken
    (fun went _ unfair' => unfair'.heeded count went) fun _ => id

/-- A read event leaves the reader at rest, or the stream was refused. -/
theorem receive_rests (provides : Provides env json) (calls : CallsAttend k json start chunks)
    (acts : CallsAct env k) (fit : LengthsFit json start) (rest : AtRest json start chunks w)
    {found : List (List UInt8)} (nonempty : ∀ data ∈ found, data ≠ []) {count : Nat}
    (due : Fair chunks w.log → Due chunks (found.length + count) w) :
    Leads (receive env k (found.map .bytes)) w (Heeded json start chunks count)
      (Stopped json start chunks) := by
  induction found generalizing w with
  | nil =>
    apply Leads.bind (recvBytes_asked rest .again)
    intro _ w₁ asked
    obtain ⟨event, log₁⟩ := asked.log
    refine receiveAgain_rests provides asked.rest fun fair => ?_
    rw [log₁] at fair
    have before := due fair.left
    rw [List.length_nil, Nat.zero_add] at before
    exact before.grows log₁
  | cons data later ih =>
    have left (data : List UInt8) (inside : data ∈ later) : data ≠ [] :=
      nonempty data (List.mem_cons_of_mem _ inside)
    apply Leads.bind (recvBytes_asked rest (.bytes data))
    intro result w₁ asked
    obtain ⟨event, log₁⟩ := asked.log
    have due₁ (fair : Fair chunks w₁.log) : Due chunks (later.length + count + 1) w₁ := by
      rw [log₁] at fair
      have before := (due fair.left).grows log₁
      rwa [List.length_cons, Nat.add_right_comm] at before
    have unfair (other : ∀ bytes, result ≠ .bytes bytes) : Unfair chunks w₁ := by
      refine ⟨asked.rest.formed, fun fair => ?_⟩
      obtain ⟨bytes, found⟩ := asked.finds data rfl (nonempty data List.mem_cons_self) fair
      exact other bytes found
    cases result with
    | bytes bytes =>
      have fits := asked.fits bytes rfl
      apply Leads.bind (receiveData_rests provides calls acts fit asked.rest due₁ fits)
      intro went w₂ heeded
      cases went with
      | true => exact ih heeded.1 left heeded.2
      | false => exact Leads.pure heeded
    | again =>
      have persists := (unfair_persists env).receiveAgain calls.unfair (unfair fun _ => nofun)
      exact persists.weaken (fun went _ unfair' => unfair'.heeded count went) fun _ => id
    | eof => exact (unfair fun _ => nofun).closes calls _ _
    | error => exact (unfair fun _ => nofun).closes calls _ _

end NgxNats
