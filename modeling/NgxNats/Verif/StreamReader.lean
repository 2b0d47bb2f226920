import NgxNats.Verif.StreamDispatch

/-!
# The reader follows the machine

In every round the reader parses what is pending, which is the front of what is left of the stream
as far as it was received. Where that front settles the machine's turn, the reader takes it; where
it does not, the reader waits, and the machine's turn is the same with the bytes that come next. So
between its rounds the reader is where the machine is, however the stream is cut.
-/
namespace NgxNats

open Program (Leads)
open History (throughout_concat)

variable {env : Env} {k : Calls} {json : JsonEnv} {start : Cursor} {chunks : List (List UInt8)}
  {w w' : World} {events : List Event}

/-- The memory behind the received bytes. -/
def Buf.beyond (b : Buf) : List UInt8 := b.buf.read b.end (b.cap - b.end)

/-- The memory behind the pointer into the buffer: the pending bytes and what is behind them. -/
theorem Buf.Valid.memory {b : Buf} (valid : b.Valid) :
    b.buf.read b.pos (b.cap - b.pos) = b.pending ++ b.beyond := by
  obtain ⟨first, last⟩ := valid
  have split : b.cap - b.pos = b.end - b.pos + (b.cap - b.end) := by omega
  have stop : b.pos + (b.end - b.pos) = b.end := by omega
  rw [split, Memory.read_add, stop]
  rfl

/-- The state after the parser wrote its terminators into the pending bytes. -/
def World.parsing (w : World) (data : List UInt8) : World :=
  { w.scanning with readBuf := { w.readBuf with
      buf := w.readBuf.buf.write w.readBuf.pos (data ++ w.readBuf.beyond) } }

/-- What is written over the pending bytes is pending then. -/
theorem pending_parsing {data : List UInt8} (length : data.length = w.readBuf.end - w.readBuf.pos) :
    (w.parsing data).readBuf.pending = data := by
  unfold World.parsing Buf.pending
  dsimp only
  have whole := Memory.read_write_self w.readBuf.buf w.readBuf.pos (data ++ w.readBuf.beyond)
  have first := Memory.take_read (w.readBuf.buf.write w.readBuf.pos (data ++ w.readBuf.beyond))
    w.readBuf.pos (data ++ w.readBuf.beyond).length data.length (by simp)
  rw [← length, ← first, whole, List.take_left]

/-- Without bytes the machine waits. -/
theorem turn_empty {cap : Nat} (peer : NatsConnection) (room : 1 < cap) :
    Cursor.turn json ⟨cap, peer, []⟩ = .stop [] (.waits ⟨cap, peer, []⟩) := by
  have parsed : parse (.ofList ([] : List UInt8)) = .ok ⟨protoAgain, {}, []⟩ := rfl
  have space : ([] : List UInt8).length < cap - 1 := by
    simp only [List.length_nil]
    omega
  unfold Cursor.turn
  dsimp only
  rw [List.take_nil, parsed]
  dsimp only
  rw [if_neg (by decide), if_neg (not_not.mpr rfl), if_pos space]

/-- Where the reader is in the bytes it received. -/
def World.cursor (w : World) : Cursor := ⟨w.readBuf.cap, w.nc.told, w.readBuf.pending⟩

/-- The reader is where the machine is. -/
structure Abreast (json : JsonEnv) (start : Cursor) (chunks : List (List UInt8)) (w : World) :
    Prop where
  live : w.live.isSome = true
  valid : w.readBuf.Valid
  room : w.readBuf.end < w.readBuf.cap
  least : bufInitSize ≤ w.readBuf.cap
  small : w.readBuf.cap ≤ 2 ^ 62
  reaches : Turn.Reaches (Cursor.turn json) start (heard w.log)
    (w.cursor.feed (unread chunks w.log))
  unrefused : refused w.log = false

/-- The reader is between two messages. -/
structure Between (json : JsonEnv) (start : Cursor) (chunks : List (List UInt8)) (w : World) :
    Prop where
  formed : w.writeBuf.WellFormed
  abreast : Fair chunks w.log → Abreast json start chunks w

/-- The reader waits for more: it has room, and the machine waits where it is. -/
structure AtRest (json : JsonEnv) (start : Cursor) (chunks : List (List UInt8)) (w : World) : Prop
    extends Between json start chunks w where
  space : Fair chunks w.log → w.readBuf.end + 1 < w.readBuf.cap
  waits : Fair chunks w.log → Cursor.turn json w.cursor = .stop [] (.waits w.cursor)

/-- Nothing is promised of a stream that is not fair. -/
theorem Unfair.between (unfair : Unfair chunks w) : Between json start chunks w :=
  ⟨unfair.formed, fun fair => (unfair.holds fair).elim⟩

/-- The reader of a stream that is not fair may rest anywhere. -/
theorem Unfair.atRest (unfair : Unfair chunks w) : AtRest json start chunks w :=
  ⟨unfair.between, fun fair => (unfair.holds fair).elim, fun fair => (unfair.holds fair).elim⟩

/-- A change off the record that keeps what is pending in a block of the same size. -/
theorem Abreast.keep (abreast : Abreast json start chunks w) (log : w'.log = w.log ++ events)
    (off : ∀ event ∈ events, event.offRecord = true) (live : w'.live.isSome = w.live.isSome)
    (told : w'.nc.told = w.nc.told) (valid : w'.readBuf.Valid)
    (cap : w'.readBuf.cap = w.readBuf.cap) (room : w'.readBuf.end < w'.readBuf.cap)
    (pending : w'.readBuf.pending = w.readBuf.pending) : Abreast json start chunks w' := by
  have cursor : w'.cursor = w.cursor := by
    unfold World.cursor
    rw [cap, told, pending]
  refine ⟨live.trans abreast.live, valid, room, by rw [cap]; exact abreast.least,
    by rw [cap]; exact abreast.small, ?_, by rw [log, refused_append off]; exact abreast.unrefused⟩
  unfold unread
  rw [log, heard_append off, receivedChunks_append off, cursor]
  exact abreast.reaches

/-- A refused message that the machine refuses. -/
theorem Abreast.refuse (abreast : Abreast json start chunks w) (formed : w.writeBuf.WellFormed)
    (calls : CallsAttend k json start chunks)
    (refuses : Cursor.turn json (w.cursor.feed (unread chunks w.log)) = .stop [] .refuses)
    (reason : Reason) : Leads (do
      let _ ← reject env k reason
      return ngxError) w (fun rc w' => rc = ngxError ∧ Over json start chunks w')
      (Stopped json start chunks) := by
  have halts : Turn.Halts (Cursor.turn json) start (heard w.log) .refuses := by
    have stopped := abreast.reaches.stop refuses
    rwa [List.append_nil] at stopped
  have rejects : Leads (reject env k reason) w
      (Answered (fun _ => False) (Over json start chunks)) (Stopped json start chunks) :=
    reject_answered (refuse_over calls formed (fun _ => halts) reason)
  apply Leads.bind rejects
  intro went w₁ ended
  cases went with
  | true => exact ended.elim
  | false => exact Leads.pure ⟨rfl, ended⟩

/-- What the reader leads to when it stops looking at its buffer. -/
def Rested (json : JsonEnv) (start : Cursor) (chunks : List (List UInt8)) (rc : Int) (w : World) :
    Prop :=
  if rc = ngxOk then AtRest json start chunks w else rc < 0 ∧ Over json start chunks w

/-- A full block is doubled. -/
theorem grow_abreast (provides : Provides env json) (abreast : Abreast json start chunks w)
    (formed : w.writeBuf.WellFormed) (front : w.readBuf.pos = 0)
    (full : w.readBuf.cap - 1 ≤ w.readBuf.end) (small : w.readBuf.cap < maxMessageSize)
    {parsed : Parsed} (outcome : Outcome parse w.readBuf.pending parsed (Frame w.readBuf.pending))
    (again : parsed.rc = protoAgain)
    (grows : Cursor.turn json (w.cursor.feed (unread chunks w.log)) =
      .go [] ⟨2 * w.readBuf.cap, w.nc.told, w.readBuf.pending ++ unread chunks w.log⟩) :
    Leads (do
      let alloc ← ask env.alloc
      let (rc, buf) ← lift (w.readBuf.ensure alloc (w.readBuf.cap - 1) false)
      setReadBuf buf
      if rc ≠ ngxOk then
        let _ ← reject env k .noMemory
        return ngxError
      else return ngxOk) w (Rested json start chunks) (Stopped json start chunks) := by
  have room := abreast.room
  have least := abreast.least
  obtain ⟨bnew, granted⟩ :=
    Option.isSome_iff_exists.mp (provides.alloc w.clock (2 * w.readBuf.cap))
  have ensured := Buf.ensure_full (env.alloc w.clock) front room full least small
  rw [granted] at ensured
  dsimp only at ensured
  simp only [bufInitSize] at least
  have limit : maxMessageSize < 2 ^ 61 := by decide
  have length := w.readBuf.length_pending
  have pending := Buf.pending_realloc (b := w.readBuf) front bnew (2 * w.readBuf.cap)
  apply Leads.of_run (ask_bind w env.alloc _)
  rw [ensured]
  apply Leads.of_run (lift_ok_bind _ _ _)
  apply Leads.of_run (setReadBuf_bind _ _ _)
  rw [if_neg (not_not.mpr rfl)]
  refine Leads.pure ?_
  unfold Rested
  rw [if_pos rfl]
  have grown : w.readBuf.end + 1 < 2 * w.readBuf.cap := by omega
  refine ⟨⟨formed, fun _ => ?_⟩, fun _ => grown, fun _ => ?_⟩
  · constructor
    · exact abreast.live
    · exact ⟨abreast.valid.pos_le, by show w.readBuf.end ≤ 2 * w.readBuf.cap; omega⟩
    · show w.readBuf.end < 2 * w.readBuf.cap
      omega
    · show 4096 ≤ 2 * w.readBuf.cap
      omega
    · show 2 * w.readBuf.cap ≤ 2 ^ 62
      omega
    · have went := abreast.reaches.go grows
      rw [List.append_nil] at went
      unfold World.cursor Cursor.feed
      dsimp only
      rw [pending]
      exact went
    · exact abreast.unrefused
  · unfold World.cursor
    dsimp only
    rw [pending]
    refine turn_waits outcome again ?_
    show w.readBuf.pending.length < 2 * w.readBuf.cap - 1
    omega

/-- Waiting for the rest of a message is what the machine does, or it doubles or refuses a full
block. -/
theorem awaitMore_abreast (provides : Provides env json) (calls : CallsAttend k json start chunks)
    (abreast : Abreast json start chunks w) (formed : w.writeBuf.WellFormed) {parsed : Parsed}
    (outcome : Outcome parse w.readBuf.pending parsed (Frame w.readBuf.pending))
    (again : parsed.rc = protoAgain) :
    Leads (awaitMore env k) w (Rested json start chunks) (Stopped json start chunks) := by
  have room := abreast.room
  have length := w.readBuf.length_pending
  obtain ⟨b, compacted, pending, front, stop, cap, valid⟩ := Buf.compact_valid abreast.valid
  have packed : Abreast json start chunks { w with readBuf := b } :=
    abreast.keep (List.append_nil _).symm (List.forall_mem_nil _) rfl rfl valid cap
      (by show b.end < b.cap; omega) pending
  apply Leads.get
  rw [compacted]
  apply Leads.of_run (lift_ok_bind w b _)
  apply Leads.of_run (setReadBuf_bind w b _)
  have outcome' : Outcome parse b.pending parsed (Frame b.pending) := by
    rw [pending]
    exact outcome
  split
  · next full =>
    have filled : b.pending.length = b.cap - 1 := by
      rw [pending, length]
      omega
    have turn : Cursor.turn json ⟨b.cap, w.nc.told, b.pending ++ unread chunks w.log⟩ = _ :=
      turn_full outcome' again filled (unread chunks w.log)
    split
    · next limits =>
      have refuses := turn.trans (if_pos limits)
      refine (packed.refuse formed calls refuses _).weaken ?_ fun _ => id
      rintro rc w₁ ⟨rfl, ended⟩
      unfold Rested
      rw [if_neg (by decide)]
      exact ⟨by decide, ended⟩
    · next below =>
      have small : b.cap < maxMessageSize := Nat.not_le.mp (not_or.mp below).2
      exact grow_abreast provides packed formed front full small outcome' again
        (turn.trans (if_neg below))
  · next space =>
    refine Leads.pure ?_
    unfold Rested
    rw [if_pos rfl]
    refine ⟨⟨formed, fun _ => packed⟩, fun _ => by show b.end + 1 < b.cap; omega, fun _ => ?_⟩
    refine turn_waits outcome' again ?_
    show b.pending.length < b.cap - 1
    rw [pending, length]
    omega

/-- What one round of the reader leads to: it rests, or skips a message and has fewer bytes to
go. -/
def Advanced (json : JsonEnv) (start : Cursor) (chunks : List (List UInt8)) (count : Nat) (rc : Int)
    (w : World) : Prop :=
  if rc ≤ 0 then Rested json start chunks rc w
  else Between json start chunks
      { w with readBuf := { w.readBuf with pos := w.readBuf.pos + rc.toNat } } ∧
    (Fair chunks w.log → w.readBuf.end - (w.readBuf.pos + rc.toNat) < count)

/-- A rested reader ends its round. -/
theorem Rested.advanced {rc : Int} {count : Nat} (rested : Rested json start chunks rc w) :
    Advanced json start chunks count rc w := by
  have done : rc ≤ 0 := by
    unfold Rested at rested
    split at rested
    · next none => exact Int.le_of_eq none
    · exact Int.le_of_lt rested.1
  unfold Advanced
  rw [if_pos done]
  exact rested

/-- Nothing is promised of a round that is not fair. -/
theorem Unfair.advanced (unfair : Unfair chunks w) (count : Nat) (rc : Int) :
    Advanced json start chunks count rc w := by
  unfold Advanced Rested
  split
  · next done =>
    split
    · exact unfair.atRest
    · next failed =>
      unfold ngxOk at failed
      exact ⟨by omega, unfair.ended⟩
  · exact ⟨⟨unfair.formed, fun fair => (unfair.holds fair).elim⟩,
      fun fair => (unfair.holds fair).elim⟩

/-- Nothing pending: the reader rests. -/
theorem Abreast.drained (abreast : Abreast json start chunks w) (formed : w.writeBuf.WellFormed)
    (drained : w.readBuf.pos = w.readBuf.end) :
    AtRest json start chunks { w.scanning with readBuf := w.readBuf.reset } := by
  have least := abreast.least
  simp only [bufInitSize] at least
  have room : w.readBuf.reset.end + 1 < w.readBuf.reset.cap := by
    show 0 + 1 < w.readBuf.cap
    omega
  have none : w.readBuf.pending = [] := Buf.pending_of_drained drained
  refine ⟨⟨formed, fun _ => ?_⟩, fun _ => room, fun _ => ?_⟩
  · exact abreast.keep rfl (List.forall_mem_singleton.mpr rfl) rfl rfl (Buf.valid_reset _) rfl
      (Nat.lt_of_succ_lt room) ((Buf.pending_reset _).trans none.symm)
  · unfold World.cursor
    dsimp only
    rw [Buf.pending_reset]
    exact turn_empty _ (by show 1 < w.readBuf.cap; omega)

/-- The beginning of what is left of the stream is parsed. -/
theorem Abreast.parses (abreast : Abreast json start chunks w) (fit : LengthsFit json start) :
    ∃ parsed, Outcome parse w.readBuf.pending parsed (Frame w.readBuf.pending) := by
  have length := w.readBuf.length_pending
  have room := abreast.room
  have small := abreast.small
  exact parse_beginning (by omega) (fit _ _ abreast.reaches)

/-- What the reader hands to the parser. -/
theorem Abreast.handed (abreast : Abreast json start chunks w) : Str.mk
      (w.readBuf.buf.read w.readBuf.pos (w.readBuf.cap - w.readBuf.pos))
      (Word.unsigned ((w.readBuf.end : Int) - w.readBuf.pos)) =
    ⟨w.readBuf.pending ++ w.readBuf.beyond, w.readBuf.pending.length⟩ := by
  have room := abreast.room
  have small := abreast.small
  have start := abreast.valid.pos_le
  have count : (w.readBuf.end : Int) - w.readBuf.pos =
      ((w.readBuf.end - w.readBuf.pos : Nat) : Int) := by omega
  rw [abreast.valid.memory, count, Word.unsigned_of_nat (by omega), w.readBuf.length_pending]

/-- A message that is not complete, or not well formed, leaves the buffer as it was. -/
theorem Abreast.unchanged (abreast : Abreast json start chunks w) {parsed : Parsed}
    (outcome : Outcome parse w.readBuf.pending parsed (Frame w.readBuf.pending))
    (negative : parsed.rc < 0) : Abreast json start chunks (w.parsing parsed.data) := by
  have data := outcome.refused negative
  have length : parsed.data.length = w.readBuf.end - w.readBuf.pos := by
    rw [data, w.readBuf.length_pending]
  refine abreast.keep rfl (List.forall_mem_singleton.mpr rfl) rfl rfl
    ⟨abreast.valid.pos_le, abreast.valid.end_le⟩ rfl abreast.room ?_
  exact (pending_parsing length).trans data

/-- A refused message ends the round. -/
theorem refused_advances (calls : CallsAttend k json start chunks)
    (abreast : Abreast json start chunks w) (formed : w.writeBuf.WellFormed) {parsed : Parsed}
    (outcome : Outcome parse w.readBuf.pending parsed (Frame w.readBuf.pending))
    (negative : ¬0 < parsed.rc) (final : parsed.rc ≠ protoAgain) (reason : Reason) (count : Nat) :
    Leads (do
      let _ ← reject env k reason
      return ngxError) w (Advanced json start chunks count) (Stopped json start chunks) := by
  have length := w.readBuf.length_pending
  have room := abreast.room
  have inside : w.readBuf.pending.length ≤ w.readBuf.cap - 1 := by omega
  have refuses : Cursor.turn json (w.cursor.feed (unread chunks w.log)) = .stop [] .refuses :=
    turn_refused outcome negative final inside _
  refine (abreast.refuse formed calls refuses reason).weaken ?_ fun _ => id
  rintro rc w₁ ⟨rfl, ended⟩
  apply Rested.advanced
  unfold Rested
  rw [if_neg (by decide)]
  exact ⟨by decide, ended⟩

/-- What the parser does not accept is negative: an accepted message has a byte. -/
theorem Outcome.negative {p : List UInt8} {parsed : Parsed}
    (outcome : Outcome parse p parsed (Frame p)) (unaccepted : parsed.rc ≤ 0) : parsed.rc < 0 := by
  by_contra least
  have consumed := (outcome.accepted (Int.not_lt.mp least)).consumed
  exact Int.not_le.mpr consumed.positive unaccepted

/-- A message that was handled is skipped. -/
theorem skips_said {parsed : Parsed} {peer : NatsConnection}
    (said : Said (w.parsing parsed.data).readBuf peer (heard w.log ++ [serverMsg parsed])
      (receivedChunks w.log) w')
    (abreast : Abreast json start chunks w)
    (outcome : Outcome parse w.readBuf.pending parsed (Frame w.readBuf.pending))
    (positive : 0 < parsed.rc) (goes : effect json w.nc.told parsed = .goes peer) :
    Abreast json start chunks
      { w' with readBuf := { w'.readBuf with pos := w'.readBuf.pos + parsed.rc.toNat } } := by
  have consumed := (outcome.accepted (Int.le_of_lt positive)).consumed
  have length := w.readBuf.length_pending
  have within := consumed.inside
  have room := abreast.room
  have cap : w'.readBuf.cap = w.readBuf.cap := (congrArg Buf.cap said.readBuf).trans rfl
  have stop : w'.readBuf.end = w.readBuf.end := (congrArg Buf.end said.readBuf).trans rfl
  have pos : w'.readBuf.pos = w.readBuf.pos := (congrArg Buf.pos said.readBuf).trans rfl
  have pending : w'.readBuf.pending = parsed.data := by
    rw [said.readBuf]
    exact pending_parsing (consumed.length.trans length)
  have skipped : Buf.pending { w'.readBuf with pos := w'.readBuf.pos + parsed.rc.toNat } =
      w.readBuf.pending.drop parsed.rc.toNat := by
    rw [pending_advance, pending, consumed.rest]
  have inside : w.readBuf.pending.length ≤ w.readBuf.cap - 1 := by omega
  have turn : Cursor.turn json (w.cursor.feed (unread chunks w.log)) = .go [serverMsg parsed]
      ⟨w.readBuf.cap, peer, w.readBuf.pending.drop parsed.rc.toNat ++ unread chunks w.log⟩ := by
    have heard : Cursor.turn json ⟨w.readBuf.cap, w.nc.told,
        w.readBuf.pending ++ unread chunks w.log⟩ = _ := turn_heard outcome positive inside _
    rw [goes] at heard
    exact heard
  constructor
  · exact said.live
  · constructor
    · show w'.readBuf.pos + parsed.rc.toNat ≤ w'.readBuf.end
      omega
    · show w'.readBuf.end ≤ w'.readBuf.cap
      omega
  · show w'.readBuf.end < w'.readBuf.cap
    omega
  · show bufInitSize ≤ w'.readBuf.cap
    rw [cap]
    exact abreast.least
  · show w'.readBuf.cap ≤ 2 ^ 62
    rw [cap]
    exact abreast.small
  · have went := abreast.reaches.go turn
    have rest : unread chunks w'.log = unread chunks w.log := by
      unfold unread
      rw [said.got]
    unfold World.cursor Cursor.feed
    dsimp only
    rw [skipped, cap, said.told, said.heard, rest]
    exact went
  · exact said.unrefused

/-- A message that is accepted advances the reader, and a refused one ends the round. -/
theorem accepted_advances (provides : Provides env json) (calls : CallsAttend k json start chunks)
    (abreast : Abreast json start chunks w) (formed : w.writeBuf.WellFormed) {parsed : Parsed}
    (outcome : Outcome parse w.readBuf.pending parsed (Frame w.readBuf.pending))
    (positive : 0 < parsed.rc) {count : Nat} (few : w.readBuf.end - w.readBuf.pos ≤ count) :
    Leads (do
      if ← dispatch env k (parsed.extend w.readBuf.beyond) then return parsed.rc
      else return ngxError) (w.parsing parsed.data) (Advanced json start chunks count)
      (Stopped json start chunks) := by
  have consumed := (outcome.accepted (Int.le_of_lt positive)).consumed
  have length := w.readBuf.length_pending
  have within := consumed.inside
  have room := abreast.room
  have inside : w.readBuf.pending.length ≤ w.readBuf.cap - 1 := by omega
  have turn : Cursor.turn json ⟨w.readBuf.cap, w.nc.told,
      w.readBuf.pending ++ unread chunks w.log⟩ = _ := turn_heard outcome positive inside _
  have same : heard (w.parsing parsed.data).log = heard w.log :=
    heard_append (List.forall_mem_singleton.mpr rfl)
  have got : receivedChunks (w.parsing parsed.data).log = receivedChunks w.log :=
    receivedChunks_append (List.forall_mem_singleton.mpr rfl)
  have unrefused : refused (w.parsing parsed.data).log = false :=
    (refused_append (List.forall_mem_singleton.mpr rfl)).trans abreast.unrefused
  have message := consumed.serverMsg_extend w.readBuf.beyond
  have foreseen : effect json w.nc.told (parsed.extend w.readBuf.beyond) =
      effect json w.nc.told parsed := consumed.effect_extend _
  have dispatched : Leads (dispatch env k (parsed.extend w.readBuf.beyond)) (w.parsing parsed.data)
      (Dispatched json start chunks (w.parsing parsed.data) (parsed.extend w.readBuf.beyond))
      (Stopped json start chunks) := by
    apply dispatch_attends provides calls (w := w.parsing parsed.data) formed abreast.live unrefused
    · intro refuses
      rw [same, message]
      refine abreast.reaches.stop (turn.trans ?_)
      rw [foreseen.symm.trans refuses]
    · intro crashes
      rw [same, message]
      refine abreast.reaches.stop (turn.trans ?_)
      rw [foreseen.symm.trans crashes]
  apply Leads.bind dispatched
  intro went w₁ answered
  cases went with
  | true =>
    obtain ⟨peer, goes, attending⟩ := answered
    have goes' : effect json w.nc.told parsed = .goes peer := foreseen.symm.trans goes
    rw [same, message, got] at attending
    refine Leads.pure ?_
    unfold Advanced
    rw [if_neg (by omega)]
    refine ⟨⟨attending.formed, fun fair => ?_⟩, fun fair => ?_⟩
    · exact skips_said (attending.said fair) abreast outcome positive goes'
    · have said := attending.said fair
      have stop : w₁.readBuf.end = w.readBuf.end := (congrArg Buf.end said.readBuf).trans rfl
      have pos : w₁.readBuf.pos = w.readBuf.pos := (congrArg Buf.pos said.readBuf).trans rfl
      omega
  | false =>
    refine Leads.pure (Rested.advanced ?_)
    unfold Rested
    rw [if_neg (by decide)]
    exact ⟨by decide, answered⟩

/-- One round of the reader is a turn of the machine, or the reader rests. -/
theorem processBufferMsg_between (provides : Provides env json)
    (calls : CallsAttend k json start chunks) (fit : LengthsFit json start)
    (between : Between json start chunks w) {count : Nat}
    (few : Fair chunks w.log → w.readBuf.end - w.readBuf.pos ≤ count) :
    Leads (processBufferMsg env k) w (Advanced json start chunks count)
      (Stopped json start chunks) := by
  by_cases fair : Fair chunks w.log
  · have abreast := between.abreast fair
    have formed := between.formed
    apply Leads.get
    apply Leads.of_run (emit_bind w (.scanned w.readBuf.pos w.readBuf.end w.readBuf.cap) _)
    change Leads _ w.scanning _ _
    split
    · next drained =>
      have reset : w.readBuf.compact = .ok w.readBuf.reset := if_pos drained
      rw [reset]
      apply Leads.of_run (lift_ok_bind _ w.readBuf.reset _)
      apply Leads.of_run (setReadBuf_bind _ w.readBuf.reset _)
      refine Leads.pure (Rested.advanced ?_)
      unfold Rested
      rw [if_pos rfl]
      exact abreast.drained formed drained
    · next pending =>
      obtain ⟨parsed, outcome⟩ := abreast.parses fit
      dsimp only
      rw [abreast.handed, outcome.behind]
      apply Leads.of_run (lift_ok_bind _ _ _)
      apply Leads.of_run (setReadBuf_bind _ _ _)
      change Leads _ (w.parsing parsed.data) _ _
      split
      · next unaccepted =>
        have negative : parsed.rc < 0 := outcome.negative unaccepted
        have unchanged := abreast.unchanged outcome negative
        have data := outcome.refused negative
        have same : (w.parsing parsed.data).readBuf.pending = w.readBuf.pending := by
          rw [pending_parsing (by rw [data, w.readBuf.length_pending]), data]
        have outcome' : Outcome parse (w.parsing parsed.data).readBuf.pending parsed
            (Frame (w.parsing parsed.data).readBuf.pending) := by
          rw [same]
          exact outcome
        split
        · next again =>
          refine (awaitMore_abreast provides calls unchanged formed outcome' again).weaken ?_
            fun _ => id
          exact fun _ _ rested => rested.advanced
        · next final =>
          exact refused_advances calls unchanged formed outcome'
            (Int.not_lt.mpr unaccepted) final _ _
      · next accepted =>
        have positive : 0 < parsed.rc := Int.not_le.mp accepted
        exact accepted_advances provides calls abreast formed outcome positive (few fair)
  · have unfair : Unfair chunks w := ⟨between.formed, fair⟩
    exact ((unfair_persists env).processBufferMsg calls.unfair unfair).weaken
      (fun rc _ unfair' => unfair'.advanced _ rc) fun _ => id

/-- The loop over the messages of the buffer rests where the machine waits, or the stream was
refused. -/
theorem processBuffer_rests (provides : Provides env json) (calls : CallsAttend k json start chunks)
    (fit : LengthsFit json start) (between : Between json start chunks w) :
    Leads (processBuffer env k) w (Rested json start chunks) (Stopped json start chunks) := by
  apply Leads.get
  apply Leads.repeatUntil_count fun rounds w' => Between json start chunks w' ∧
    (Fair chunks w'.log → w'.readBuf.end - w'.readBuf.pos < rounds)
  · exact fun w' left fair => absurd (left.2 fair) (Nat.not_lt_zero _)
  · intro rounds w₁ left
    have few (fair : Fair chunks w₁.log) : w₁.readBuf.end - w₁.readBuf.pos ≤ rounds :=
      Nat.le_of_lt_succ (left.2 fair)
    apply Leads.bind (processBufferMsg_between provides calls fit left.1 few)
    intro rc w₂ advanced
    unfold Advanced at advanced
    split
    · next done =>
      rw [if_pos done] at advanced
      exact Leads.pure advanced
    · next more =>
      rw [if_neg more] at advanced
      apply Leads.of_run (Program.modify_bind _ _ w₂)
      exact Leads.pure advanced
  · refine ⟨between, fun fair => ?_⟩
    have room := (between.abreast fair).room
    omega

end NgxNats
