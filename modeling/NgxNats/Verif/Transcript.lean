import Mathlib.Data.Nat.Log
import Mathlib.Tactic.Ring
import NgxNats.Verif.Chunks
import NgxNats.Verif.Wire

/-!
# Conversations

What the reader makes of a list of server messages, said in messages and not in bytes: it takes one
message after the other, in a block that grows until the message fits, and refuses a message that no
block may hold or that its handler refuses. Whatever pieces the written messages arrive in, the
reader hears this conversation.
-/
namespace NgxNats

/-- The effect of a message that was taken back. -/
def effectOf (json : JsonEnv) (peer : NatsConnection) (msg : ServerMsg) : Effect :=
  match msg.type with
  | .ok | .ping | .msg => .goes peer
  | .err => if peer.state.connectSent ∧ ¬peer.state.connectOkayed then .refuses else .goes peer
  | .pong =>
    if peer.state.connectOkayed then .goes peer
    else if peer.srvVersion = none then .crashes
    else .goes { peer with state := stateReady }
  | .info =>
    if msg.body = [] then .refuses
    else
      match informed json peer msg.body with
      | some peer => .goes peer
      | none => .refuses
  | .unset => .refuses

/-- The effect of a message is that of what it says. -/
theorem Consumed.effect_eq {b : List UInt8} {parsed : Parsed} (consumed : Consumed b parsed)
    (json : JsonEnv) (peer : NatsConnection) (small : b.length < 2 ^ 63) :
    effect json peer parsed = effectOf json peer (serverMsg parsed) := by
  have body : (serverMsg parsed).body = [] ↔ parsed.msg.bend ≤ parsed.msg.bstart := by
    have ordered := consumed.ordered
    have inside := consumed.body
    have length := consumed.length
    have count : Word.unsigned ((parsed.msg.bend : Int) - parsed.msg.bstart) =
        parsed.msg.bend - parsed.msg.bstart := by
      unfold Word.unsigned
      omega
    have size : (serverMsg parsed).body.length = parsed.msg.bend - parsed.msg.bstart := by
      unfold serverMsg
      rw [count, List.length_take, List.length_drop]
      omega
    rw [← List.length_eq_zero_iff, size]
    omega
  unfold effect effectOf
  have type : (serverMsg parsed).type = parsed.msg.type := rfl
  rw [type]
  cases kind : parsed.msg.type with
  | info =>
    dsimp only
    by_cases empty : parsed.msg.bend ≤ parsed.msg.bstart
    · rw [if_pos empty, if_pos (body.mpr empty)]
    · exact (if_neg empty).trans (if_neg (fun none => empty (body.mp none))).symm
  | _ => rfl

/-- The block may grow until it holds a message of this size: at no capacity up to the size is it at
a limit. -/
def NatsConnection.Holds (peer : NatsConnection) (cap size : Nat) : Prop :=
  ∀ i, cap * 2 ^ i ≤ size → ¬peer.Limits (cap * 2 ^ i)

/-- A block reaches a size in no more doublings than the size. -/
theorem holds_bounded {peer : NatsConnection} {cap size : Nat} :
    (∀ i < size + 1, cap * 2 ^ i ≤ size → ¬peer.Limits (cap * 2 ^ i)) ↔ peer.Holds cap size := by
  constructor
  · intro bounded i small
    rcases Nat.eq_zero_or_pos cap with rfl | positive
    · have first := bounded 0 (Nat.succ_pos size)
      rw [Nat.zero_mul] at first ⊢
      exact first (Nat.zero_le size)
    · have power : i < 2 ^ i := Nat.lt_two_pow_self
      have least : 2 ^ i ≤ cap * 2 ^ i := Nat.le_mul_of_pos_left _ positive
      exact bounded i (by omega) small
  · exact fun holds i _ small => holds i small

instance (peer : NatsConnection) (cap size : Nat) : Decidable (peer.Holds cap size) :=
  decidable_of_iff _ holds_bounded

/-- The capacity at which a block holds a message of this size: the first doubling above it. -/
def grown (cap size : Nat) : Nat := cap * 2 ^ Nat.clog 2 (size / cap + 1)

section Growing

variable {peer : NatsConnection} {cap size : Nat}

/-- A message that fits needs no growth. -/
theorem grown_of_lt (fits : size < cap) : grown cap size = cap := by
  unfold grown
  rw [Nat.div_eq_of_lt fits, Nat.zero_add, Nat.clog_one_right, Nat.pow_zero, Nat.mul_one]

/-- A message that does not fit needs the growth from the doubled block on. -/
theorem grown_double (positive : 0 < cap) (full : cap ≤ size) :
    grown (2 * cap) size = grown cap size := by
  have some : 1 ≤ size / cap := (Nat.one_le_div_iff positive).mpr full
  have halves : size / (2 * cap) = size / cap / 2 := by
    rw [Nat.mul_comm, Nat.div_div_eq_div_mul]
  have step : Nat.clog 2 (size / cap + 1) = Nat.clog 2 (size / cap / 2 + 1) + 1 := by
    rw [Nat.clog_of_two_le (by decide) (by omega)]
    congr 2
    omega
  unfold grown
  rw [halves, step, Nat.pow_succ]
  ring

/-- A block that holds a message. -/
theorem holds_of_lt (fits : size < cap) : peer.Holds cap size := by
  intro i small
  have least : cap * 1 ≤ cap * 2 ^ i := Nat.mul_le_mul_left cap (Nat.one_le_two_pow)
  omega

/-- A full block may be doubled unless it is at a limit. -/
theorem holds_double (full : cap ≤ size) :
    peer.Holds cap size ↔ ¬peer.Limits cap ∧ peer.Holds (2 * cap) size := by
  have next (i : Nat) : 2 * cap * 2 ^ i = cap * 2 ^ (i + 1) := by
    rw [Nat.pow_succ]
    ring
  constructor
  · intro holds
    have here := holds 0
    rw [Nat.pow_zero, Nat.mul_one] at here
    refine ⟨here full, fun i small => ?_⟩
    rw [next] at small ⊢
    exact holds (i + 1) small
  · rintro ⟨here, later⟩ i small
    cases i with
    | zero => rwa [Nat.pow_zero, Nat.mul_one]
    | succ i =>
      have there := later i
      rw [next] at there
      exact there small

end Growing

/-- What a reader is between two messages: the capacity of its block and what it was told. -/
structure Session where
  cap : Nat
  peer : NatsConnection

/-- The bytes of a list of messages. -/
def wireBytes (lines : List ServerLine) : List UInt8 := (lines.map ServerLine.bytes).flatten

/-- What a reader makes of a list of messages: what it hears of them, and how it goes on if none is
refused. -/
def converse (json : JsonEnv) (session : Session) :
    List ServerLine → List ServerMsg × Option Session
  | [] => ([], some session)
  | line :: rest =>
    if session.peer.Holds session.cap line.bytes.length then
      match effectOf json session.peer line.message with
      | .goes peer =>
        let later := converse json ⟨grown session.cap line.bytes.length, peer⟩ rest
        (line.message :: later.1, later.2)
      | _ => ([line.message], none)
    else ([], none)

section Machine

variable {json : JsonEnv} {cap : Nat} {peer : NatsConnection} {bytes : List UInt8} {msg : ServerMsg}

/-- The turn at a message that fills the block. -/
theorem Written.full (written : Written bytes msg) (positive : 0 < cap) (full : cap ≤ bytes.length)
    (more : List UInt8) : Cursor.turn json ⟨cap, peer, bytes ++ more⟩ =
      if peer.Limits cap then .stop [] .refuses else .go [] ⟨2 * cap, peer, bytes ++ more⟩ := by
  have length : (bytes.take (cap - 1)).length = cap - 1 := by
    rw [List.length_take]
    omega
  have proper : bytes.take (cap - 1) ≠ bytes := by
    intro same
    rw [same] at length
    omega
  obtain ⟨parsed, outcome, again⟩ := written.early _ (List.take_prefix _ _) proper
  have turn : Cursor.turn json ⟨cap, peer,
      bytes.take (cap - 1) ++ (bytes.drop (cap - 1) ++ more)⟩ = _ :=
    turn_full outcome again length _
  rwa [← List.append_assoc, List.take_append_drop] at turn

/-- A block grows until it holds the message. -/
theorem Written.reaches (written : Written bytes msg) (positive : 0 < cap)
    (holds : peer.Holds cap bytes.length) (more : List UInt8) :
    Turn.Reaches (Cursor.turn json) ⟨cap, peer, bytes ++ more⟩ []
      ⟨grown cap bytes.length, peer, bytes ++ more⟩ := by
  induction left : bytes.length + 1 - cap using Nat.strong_induction_on generalizing cap with
  | _ left ih =>
    by_cases fits : bytes.length < cap
    · rw [grown_of_lt fits]
      exact Turn.Reaches.start _
    · have full : cap ≤ bytes.length := Nat.not_lt.mp fits
      obtain ⟨below, later⟩ := (holds_double full).mp holds
      have goes : Cursor.turn json ⟨cap, peer, bytes ++ more⟩ = _ :=
        (written.full positive full more).trans (if_neg below)
      have rest := ih (bytes.length + 1 - 2 * cap) (by omega) (by omega) later rfl
      rw [grown_double positive full] at rest
      have first := (Turn.Reaches.start _).go goes
      exact Relation.ReflTransGen.trans first rest

/-- A message that no block may hold is refused. -/
theorem Written.limited (written : Written bytes msg) (positive : 0 < cap)
    (limited : ¬peer.Holds cap bytes.length) (more : List UInt8) :
    Turn.Halts (Cursor.turn json) ⟨cap, peer, bytes ++ more⟩ [] .refuses := by
  induction left : bytes.length + 1 - cap using Nat.strong_induction_on generalizing cap with
  | _ left ih =>
    by_cases fits : bytes.length < cap
    · exact absurd (holds_of_lt fits) limited
    · have full : cap ≤ bytes.length := Nat.not_lt.mp fits
      have turn : Cursor.turn json ⟨cap, peer, bytes ++ more⟩ = _ :=
        written.full positive full more
      by_cases below : peer.Limits cap
      · exact (Turn.Reaches.start _).stop (turn.trans (if_pos below))
      · have later : ¬peer.Holds (2 * cap) bytes.length := fun holds =>
          limited ((holds_double full).mpr ⟨below, holds⟩)
        have rest := ih (bytes.length + 1 - 2 * cap) (by omega) (by omega) later rfl
        exact ((Turn.Reaches.start _).go (turn.trans (if_neg below))).halts rest

/-- The turn at a message that fits the block. -/
theorem Written.taken (written : Written bytes msg) (small : bytes.length < 2 ^ 63)
    (fits : bytes.length < cap) (more : List UInt8) : Cursor.turn json ⟨cap, peer, bytes ++ more⟩ =
      match effectOf json peer msg with
      | .goes peer => .go [msg] ⟨cap, peer, more⟩
      | .refuses => .stop [msg] .refuses
      | .crashes => .stop [msg] .crashes := by
  obtain ⟨parsed, outcome, whole, rfl⟩ := written.accepted
  have positive : 0 < parsed.rc := by
    have accepted := (outcome.accepted (by omega)).consumed
    exact accepted.positive
  have consumed := (outcome.accepted (Int.le_of_lt positive)).consumed
  have turn : Cursor.turn json ⟨cap, peer, bytes ++ more⟩ = _ :=
    turn_heard outcome positive (by omega) more
  have none : bytes.drop parsed.rc.toNat = [] := by
    rw [whole]
    exact List.drop_length
  rw [consumed.effect_eq json peer small, none, List.nil_append] at turn
  exact turn

/-- The first doubling above a size is above it. -/
theorem lt_grown (positive : 0 < cap) (size : Nat) : size < grown cap size := by
  have power : size / cap + 1 ≤ 2 ^ Nat.clog 2 (size / cap + 1) :=
    Nat.le_pow_clog (by decide) _
  have quotient :=
    Nat.div_lt_iff_lt_mul positive |>.mp (Nat.lt_of_lt_of_le (Nat.lt_succ_self _) power)
  rw [Nat.mul_comm] at quotient
  exact quotient

/-- A block does not shrink. -/
theorem le_grown (cap size : Nat) : cap ≤ grown cap size :=
  Nat.le_mul_of_pos_right _ (Nat.two_pow_pos _)

/-- The verdict of the machine where a conversation ends. -/
def Verdict.Of : Option Session → Verdict → Prop
  | some session, verdict => verdict = .waits ⟨session.cap, session.peer, []⟩
  | none, verdict => verdict = .refuses ∨ verdict = .crashes

/-- The machine over the bytes of a list of messages holds the conversation. -/
theorem machine_converses (session : Session) (room : 1 < session.cap) {lines : List ServerLine}
    (small : ∀ line ∈ lines, line.bytes.length < 2 ^ 62) :
    ∃ verdict, Verdict.Of (converse json session lines).2 verdict ∧
      Turn.Halts (Cursor.turn json) ⟨session.cap, session.peer, wireBytes lines⟩
        (converse json session lines).1 verdict := by
  induction lines generalizing session with
  | nil =>
    refine ⟨.waits ⟨session.cap, session.peer, []⟩, rfl, ?_⟩
    exact (Turn.Reaches.start _).stop (turn_empty _ room)
  | cons line rest ih =>
    have positive : 0 < session.cap := by omega
    have short := small line List.mem_cons_self
    have written := line.written short
    have bytes : wireBytes (line :: rest) = line.bytes ++ wireBytes rest := rfl
    rw [bytes]
    unfold converse
    by_cases holds : session.peer.Holds session.cap line.bytes.length
    · rw [if_pos holds]
      have fits := lt_grown positive line.bytes.length
      have reaches : Turn.Reaches (Cursor.turn json) _ [] _ :=
        written.reaches positive holds (wireBytes rest)
      have turn : Cursor.turn json ⟨grown session.cap line.bytes.length, session.peer,
          line.bytes ++ wireBytes rest⟩ = _ := written.taken (by omega) fits (wireBytes rest)
      cases effect : effectOf json session.peer line.message with
      | goes peer =>
        rw [effect] at turn
        have later : ∀ line ∈ rest, line.bytes.length < 2 ^ 62 := fun line inside =>
          small line (List.mem_cons_of_mem _ inside)
        have roomy : 1 < grown session.cap line.bytes.length :=
          Nat.lt_of_lt_of_le room (le_grown session.cap line.bytes.length)
        obtain ⟨verdict, same, halts⟩ := ih ⟨grown session.cap line.bytes.length, peer⟩ roomy later
        exact ⟨verdict, same, (reaches.go turn).halts halts⟩
      | refuses =>
        rw [effect] at turn
        exact ⟨.refuses, .inl rfl, reaches.stop turn⟩
      | crashes =>
        rw [effect] at turn
        exact ⟨.crashes, .inr rfl, reaches.stop turn⟩
    · rw [if_neg holds]
      exact ⟨.refuses, .inl rfl, written.limited positive holds _⟩

end Machine

section Wire

variable {lines : List ServerLine}

/-- The boundaries of written messages are where they were put together. -/
theorem boundary_wire (small : ∀ line ∈ lines, line.bytes.length < 2 ^ 62) {rest : List UInt8}
    (boundary : Boundary (wireBytes lines) rest) :
    ∃ later, later <:+ lines ∧ rest = wireBytes later := by
  induction boundary with
  | start => exact ⟨lines, List.suffix_refl lines, rfl⟩
  | next before found accepted ih =>
    obtain ⟨later, suffix, rfl⟩ := ih
    cases later with
    | nil =>
      have run : parse (.ofList (wireBytes [])) = .ok ⟨protoAgain, {}, []⟩ := rfl
      cases run.symm.trans found
      cases accepted
    | cons line more =>
      have short := small line (suffix.subset List.mem_cons_self)
      obtain ⟨parsed, outcome, whole, -⟩ := (line.written short).accepted
      have final : parsed.rc ≠ protoAgain := by
        unfold protoAgain
        omega
      have run := outcome.stable final (wireBytes more)
      have split : wireBytes (line :: more) = line.bytes ++ wireBytes more := rfl
      rw [split] at found
      cases run.symm.trans found
      refine ⟨more, List.IsSuffix.trans (List.suffix_cons line more) suffix, ?_⟩
      rw [split]
      show (line.bytes ++ wireBytes more).drop parsed.rc.toNat = wireBytes more
      rw [whole]
      exact List.drop_left

/-- Written messages declare lengths that fit. -/
theorem declaresWords_wire (small : ∀ line ∈ lines, line.bytes.length < 2 ^ 62) :
    DeclaresWords (wireBytes lines) := by
  intro rest boundary max tokens frame
  obtain ⟨later, suffix, rfl⟩ := boundary_wire small boundary
  cases later with
  | nil => cases frame.keyword
  | cons line more =>
    have short := small line (suffix.subset List.mem_cons_self)
    exact (line.written short).words (wireBytes more) max tokens frame

end Wire

/-- The end of a run of the reader is the end of a conversation. -/
structure Held (heldTo : List ServerMsg × Option Session) (run : Except Fault Bool × World) :
    Prop where
  heard : heard run.2.log = heldTo.1
  stays : run.1 = .ok true ↔ heldTo.2.isSome
  session : ∀ session ∈ heldTo.2, run.2.readBuf.cap = session.cap ∧
    run.2.nc.told = session.peer ∧ run.2.readBuf.pending = []

/-- A run that ends as the machine does holds the conversation. -/
theorem Finished.held {json : JsonEnv} {start : Cursor} {result : Except Fault Bool} {last : World}
    (ended : Finished json start result last) {heldTo : List ServerMsg × Option Session}
    {verdict : Verdict} (same : Verdict.Of heldTo.2 verdict)
    (halts : Turn.Halts (Cursor.turn json) start heldTo.1 verdict) :
    Held heldTo (result, last) := by
  obtain ⟨said, session⟩ := heldTo
  have closed {other : Verdict} (leaves : result ≠ .ok true)
      (halts' : Turn.Halts (Cursor.turn json) start (heard last.log) other)
      (stops : ∀ c, other ≠ .waits c) : Held (said, session) (result, last) := by
    obtain ⟨heard, verdicts⟩ := halts'.unique halts
    cases session with
    | none =>
      exact ⟨heard, iff_of_false leaves Bool.false_ne_true,
        fun _ found => absurd found (Option.not_mem_none _)⟩
    | some session => exact absurd (verdicts.trans same) (stops _)
  cases ended with
  | waits stays _ halts' =>
    obtain ⟨heard, verdicts⟩ := halts'.unique halts
    cases session with
    | none =>
      rcases same with refuses | crashes
      · cases verdicts.trans refuses
      · cases verdicts.trans crashes
    | some session =>
      have cursor := Verdict.waits.inj (verdicts.trans same)
      refine ⟨heard, iff_of_true stays rfl, fun other found => ?_⟩
      cases found
      exact ⟨congrArg Cursor.cap cursor, congrArg Cursor.peer cursor, congrArg Cursor.rest cursor⟩
  | refuses leaves refuses => exact closed leaves refuses.halts fun _ absurd => by cases absurd
  | crashes leaves crashes => exact closed leaves crashes.halts fun _ absurd => by cases absurd

/-- Where a listening connection gets with the bytes of a list of messages. -/
theorem Listening.converses {w : World} (listening : Listening w) (json : JsonEnv)
    {lines : List ServerLine} (small : ∀ line ∈ lines, line.bytes.length < 2 ^ 62) :
    ∃ verdict, Verdict.Of (converse json ⟨w.readBuf.cap, w.nc.told⟩ lines).2 verdict ∧
      Turn.Halts (Cursor.turn json) ⟨w.readBuf.cap, w.nc.told, wireBytes lines⟩
        (converse json ⟨w.readBuf.cap, w.nc.told⟩ lines).1 verdict := by
  have least := listening.allocated.1
  simp only [bufInitSize] at least
  have room : 1 < w.readBuf.cap := by omega
  exact machine_converses ⟨w.readBuf.cap, w.nc.told⟩ room small

/-- The reader hears the conversation that was written, whatever pieces it arrives in. -/
theorem conversation_held {env : Env} {depth : Nat} {json : JsonEnv} {w : World}
    (provides : Provides env json) (listening : Listening w) {lines : List ServerLine}
    (small : ∀ line ∈ lines, line.bytes.length < 2 ^ 62) {events : List (List (List UInt8))}
    (stream : events.flatten.flatten = wireBytes lines) (receives : Receives env depth w events) :
    Held (converse json ⟨w.readBuf.cap, w.nc.told⟩ lines)
      (receiveEvents env (calls env depth) events w) := by
  have words : DeclaresWords events.flatten.flatten := stream ▸ declaresWords_wire small
  have ended := receiveEvents_ended provides listening words receives
  rw [stream] at ended
  obtain ⟨verdict, same, halts⟩ := listening.converses json small
  exact ended.held same halts

/-- A PING behind an acknowledgement, cut in three places. -/
theorem conversation_held_ping :
    Held (converse (granting.json 0) ⟨listened.readBuf.cap, listened.nc.told⟩ [.ok, .ping])
      (receiveEvents granting (calls granting 1)
        [[ascii "+O", ascii "K\r\nPING\r"], [ascii "\n"]] listened) := by
  have provides : Provides granting (granting.json 0) :=
    ⟨fun _ _ => rfl, fun _ => rfl, fun _ => rfl⟩
  have small : ∀ line ∈ [ServerLine.ok, .ping], line.bytes.length < 2 ^ 62 :=
    List.forall_mem_cons.mpr ⟨by decide, List.forall_mem_singleton.mpr (by decide)⟩
  have receives :
    Receives granting 1 listened [[ascii "+O", ascii "K\r\nPING\r"], [ascii "\n"]] := by
    apply receives_of_run
    all_goals decide +kernel
  exact conversation_held provides listening_listened small (by decide +kernel) receives

section Frames

variable {peer : NatsConnection} {cap size : Nat}

/-- What a grown block may hold is what the block might. -/
theorem holds_grown (holds : peer.Holds cap size) (other : Nat) :
    peer.Holds (grown cap size) other ↔ peer.Holds cap other := by
  have power (i : Nat) : grown cap size * 2 ^ i =
      cap * 2 ^ (Nat.clog 2 (size / cap + 1) + i) := by
    unfold grown
    rw [Nat.mul_assoc, ← Nat.pow_add]
  constructor
  · intro after i small
    by_cases early : cap * 2 ^ i ≤ size
    · exact holds i early
    · have positive : 0 < cap := by
        rcases Nat.eq_zero_or_pos cap with rfl | positive
        · rw [Nat.zero_mul] at early
          exact absurd (Nat.zero_le size) early
        · exact positive
      have exponent : Nat.clog 2 (size / cap + 1) ≤ i := by
        apply Nat.clog_le_of_le_pow
        have quotient : size / cap < 2 ^ i := (Nat.div_lt_iff_lt_mul positive).mpr (by
          rw [Nat.mul_comm]
          exact Nat.not_le.mp early)
        exact quotient
      obtain ⟨j, rfl⟩ := Nat.exists_eq_add_of_le exponent
      have there := after j
      rw [power] at there
      exact there small
  · intro before i small
    rw [power] at small ⊢
    exact before _ small

/-- A conversation in MSG frames goes on as long as the block at its start might hold each frame. -/
theorem converse_msgs (json : JsonEnv) (session : Session) (frames : List WireMsg) :
    ((converse json session (frames.map .msg)).2.isSome ↔
      ∀ wire ∈ frames, session.peer.Holds session.cap wire.frame.length) ∧
    ((converse json session (frames.map .msg)).2.isSome →
      (converse json session (frames.map .msg)).1 =
        frames.map fun wire => (ServerLine.msg wire).message) := by
  induction frames generalizing session with
  | nil => exact ⟨iff_of_true rfl (List.forall_mem_nil _), fun _ => rfl⟩
  | cons wire rest ih =>
    have goes : effectOf json session.peer (ServerLine.msg wire).message = .goes session.peer := rfl
    rw [List.map_cons, List.map_cons]
    unfold converse
    by_cases holds : session.peer.Holds session.cap (ServerLine.msg wire).bytes.length
    · rw [if_pos holds, goes]
      obtain ⟨stays, heard⟩ :=
        ih ⟨grown session.cap (ServerLine.msg wire).bytes.length, session.peer⟩
      have same (other : WireMsg) := holds_grown holds other.frame.length
      refine ⟨stays.trans ?_, fun went => congrArg _ (heard went)⟩
      rw [List.forall_mem_cons]
      constructor
      · exact fun later => ⟨holds, fun other inside => (same other).mp (later other inside)⟩
      · exact fun all other inside => (same other).mpr (all.2 other inside)
    · rw [if_neg holds]
      refine ⟨iff_of_false Bool.false_ne_true fun all => ?_, fun absurd => by cases absurd⟩
      exact holds (all wire List.mem_cons_self)

/-- Which frames the reader accepts. However a stream of MSG frames is cut, the connection stays
open, and every frame is heard, exactly when no frame is as long as a capacity at which the block is
at a limit. -/
theorem frames_heard_iff {env : Env} {depth : Nat} {json : JsonEnv} {w : World}
    (provides : Provides env json) (listening : Listening w) {frames : List WireMsg}
    (small : ∀ wire ∈ frames, wire.frame.length < 2 ^ 62) {events : List (List (List UInt8))}
    (stream : events.flatten.flatten = (frames.map WireMsg.frame).flatten)
    (receives : Receives env depth w events) :
    let run := receiveEvents env (calls env depth) events w
    (run.1 = .ok true ↔ ∀ wire ∈ frames, ∀ i, w.readBuf.cap * 2 ^ i ≤ wire.frame.length →
      ¬w.nc.Limits (w.readBuf.cap * 2 ^ i)) ∧
    (run.1 = .ok true →
      heard run.2.log = frames.map fun wire => (ServerLine.msg wire).message) := by
  have small' : ∀ line ∈ frames.map ServerLine.msg, line.bytes.length < 2 ^ 62 := by
    intro line inside
    obtain ⟨wire, among, rfl⟩ := List.mem_map.mp inside
    exact small wire among
  have stream' : events.flatten.flatten = wireBytes (frames.map .msg) := by
    rw [stream]
    unfold wireBytes
    rw [List.map_map]
    rfl
  have words : DeclaresWords events.flatten.flatten := stream' ▸ declaresWords_wire small'
  have ended := receiveEvents_ended provides listening words receives
  rw [stream'] at ended
  obtain ⟨verdict, same, halts⟩ := listening.converses json small'
  have held := ended.held same halts
  obtain ⟨stays, heard⟩ := converse_msgs json ⟨w.readBuf.cap, w.nc.told⟩ frames
  refine ⟨held.stays.trans stays, fun went => ?_⟩
  exact held.heard.trans (heard (held.stays.mp went))

/-- A frame, as a server prints it. -/
def smallFrame : WireMsg := WireMsg.printed (ascii "a") 7 none (ascii "hi") headerWord_letter
  (by decide) fun _ inside => absurd inside (Option.not_mem_none _)

/-- A frame that is cut in its header and in its payload. -/
theorem frames_heard_small :
    let run := receiveEvents granting (calls granting 1)
      [[ascii "MSG a", ascii " 7 2\r\nh"], [ascii "i\r\n"]] listened
    (run.1 = .ok true ↔ ∀ wire ∈ [smallFrame], ∀ i,
      listened.readBuf.cap * 2 ^ i ≤ wire.frame.length →
        ¬listened.nc.Limits (listened.readBuf.cap * 2 ^ i)) ∧
    (run.1 = .ok true → heard run.2.log =
      [smallFrame].map fun wire => (ServerLine.msg wire).message) := by
  have provides : Provides granting (granting.json 0) :=
    ⟨fun _ _ => rfl, fun _ => rfl, fun _ => rfl⟩
  have small : ∀ wire ∈ [smallFrame], wire.frame.length < 2 ^ 62 :=
    List.forall_mem_singleton.mpr (by decide +kernel)
  have receives : Receives granting 1 listened
      [[ascii "MSG a", ascii " 7 2\r\nh"], [ascii "i\r\n"]] := by
    apply receives_of_run
    all_goals decide +kernel
  exact frames_heard_iff provides listening_listened small (by decide +kernel) receives

end Frames

end NgxNats
