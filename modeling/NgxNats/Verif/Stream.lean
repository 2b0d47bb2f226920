import NgxNats.Lib.Turns
import NgxNats.Verif.Beyond
import NgxNats.Verif.InfoFields

/-!
# The reader as a machine over the stream

What the reader does with a stream, whatever pieces it arrives in. It parses what is left of the
stream as far as one block holds it, and hears a message, doubles a block that holds only a part of
one, or stops: to wait for more, to refuse the stream, or at a missing server version. A turn looks
at no more than one block, and what it finds in the beginning of the block stays found when the
block is longer.
-/
namespace NgxNats

/-- What the server told a connection: the structure without the nginx connection, the ping timer
and the mark that bytes were exchanged. -/
def NatsConnection.told (nc : NatsConnection) : NatsConnection :=
  nc.rewired none none { nc.state with bytesExchanged := true }

/-- A place in a stream: the capacity of the read buffer, what the server told the connection, and
the bytes that are not consumed. -/
structure Cursor where
  cap : Nat
  peer : NatsConnection
  rest : List UInt8

/-- How a stream ends: the reader waits for more, refuses it, or crashes. -/
inductive Verdict
  | waits (cursor : Cursor)
  | refuses
  | crashes

/-- What an accepted message does: the reader goes on, refuses the message, or crashes. -/
inductive Effect
  | goes (peer : NatsConnection)
  | refuses
  | crashes

/-- What an INFO message makes of a connection that takes all its fields over. -/
def informed (json : JsonEnv) (peer : NatsConnection) (body : List UInt8) : Option NatsConnection :=
  match jsonParse json (.ofList body) with
  | .ok (.ok (_, .object fields)) =>
    if (infoFields peer fields).2 then some (infoFields peer fields).1 else none
  | _ => none

/-- The effect of an accepted message. -/
def effect (json : JsonEnv) (peer : NatsConnection) (parsed : Parsed) : Effect :=
  match parsed.msg.type with
  | .ok | .ping | .msg => .goes peer
  | .err => if peer.state.connectSent ∧ ¬peer.state.connectOkayed then .refuses else .goes peer
  | .pong =>
    if peer.state.connectOkayed then .goes peer
    else if peer.srvVersion = none then .crashes
    else .goes { peer with state := stateReady }
  | .info =>
    if parsed.msg.bend ≤ parsed.msg.bstart then .refuses
    else
      match informed json peer (serverMsg parsed).body with
      | some peer => .goes peer
      | none => .refuses
  | .unset => .refuses

/-- An incomplete message that fills a block of this capacity is too large. -/
def NatsConnection.Limits (nc : NatsConnection) (cap : Nat) : Prop :=
  (0 < nc.srvMaxPayload ∧ nc.srvMaxPayload ≤ cap) ∨ maxMessageSize ≤ cap

instance (nc : NatsConnection) (cap : Nat) : Decidable (nc.Limits cap) :=
  inferInstanceAs (Decidable (_ ∨ _))

/-- One turn of the reader over a stream. -/
def Cursor.turn (json : JsonEnv) (c : Cursor) : Turn Cursor ServerMsg Verdict :=
  match parse (.ofList (c.rest.take (c.cap - 1))) with
  | .error _ => .stop [] .crashes
  | .ok parsed =>
    if 0 < parsed.rc then
      match effect json c.peer parsed with
      | .goes peer => .go [serverMsg parsed] ⟨c.cap, peer, c.rest.drop parsed.rc.toNat⟩
      | .refuses => .stop [serverMsg parsed] .refuses
      | .crashes => .stop [serverMsg parsed] .crashes
    else if parsed.rc ≠ protoAgain then .stop [] .refuses
    else if c.rest.length < c.cap - 1 then .stop [] (.waits c)
    else if c.peer.Limits c.cap then .stop [] .refuses
    else .go [] { c with cap := 2 * c.cap }

/-- A place with more of the stream behind it. -/
def Cursor.feed (c : Cursor) (more : List UInt8) : Cursor := { c with rest := c.rest ++ more }

/-- Fed with nothing a cursor stays where it is. -/
@[simp] theorem Cursor.feed_nil (c : Cursor) : c.feed [] = c := by
  simp only [Cursor.feed, List.append_nil]

/-- Every MSG header line the reader comes to declares a length that fits in a signed word. -/
def LengthsFit (json : JsonEnv) (start : Cursor) : Prop :=
  ∀ said c, Turn.Reaches (Cursor.turn json) start said c →
    ∀ max tokens, FrameLine c.rest max tokens → tokens.lenValue c.rest < 2 ^ 63

section Prefixes

variable {json : JsonEnv} {cap : Nat} {peer : NatsConnection} {p more : List UInt8}
    {parsed : Parsed}

/-- A header line that has arrived stays one. -/
theorem FrameLine.append {max : Nat} {tokens : MsgTokens} (frame : FrameLine p max tokens)
    (more : List UInt8) : FrameLine (p ++ more) max tokens := by
  have inside := frame.line.inside
  have start := frame.line.start
  refine ⟨?_, frame.line.append more⟩
  rw [List.take_append_of_le_length (by omega)]
  exact frame.keyword

/-- What the parser does on the beginning of a stream whose lengths fit. -/
theorem parse_beginning (small : p.length < 2 ^ 62)
    (fit : ∀ max tokens, FrameLine (p ++ more) max tokens → tokens.lenValue (p ++ more) < 2 ^ 63) :
    ∃ parsed, Outcome parse p parsed (Frame p) := by
  apply parse_outcome (by omega)
  intro max tokens frame
  have inside := frame.line.inside
  have length := fit max tokens (frame.append more)
  rw [frame.line.lenValue_append more] at length
  exact ⟨length, by omega⟩

/-- A result on the beginning of a block is the result on the block. -/
theorem Outcome.ahead (outcome : Outcome parse p parsed (Frame p)) (final : parsed.rc ≠ protoAgain)
    {size : Nat} (inside : p.length ≤ size) (more : List UInt8) :
    ∃ tail, parse (.ofList ((p ++ more).take size)) = .ok (parsed.extend tail) := by
  refine ⟨more.take (size - p.length), ?_⟩
  rw [List.take_append, List.take_of_length_le inside]
  exact outcome.stable final _

/-- What an accepted message does not depend on: the bytes behind it. -/
theorem Consumed.effect_extend (consumed : Consumed p parsed) (tail : List UInt8) :
    effect json peer (parsed.extend tail) = effect json peer parsed := by
  unfold effect
  rw [consumed.serverMsg_extend tail]
  rfl

/-- The turn at an accepted message. -/
theorem turn_heard (outcome : Outcome parse p parsed (Frame p)) (positive : 0 < parsed.rc)
    (inside : p.length ≤ cap - 1) (more : List UInt8) : Cursor.turn json ⟨cap, peer, p ++ more⟩ =
      match effect json peer parsed with
      | .goes peer => .go [serverMsg parsed] ⟨cap, peer, p.drop parsed.rc.toNat ++ more⟩
      | .refuses => .stop [serverMsg parsed] .refuses
      | .crashes => .stop [serverMsg parsed] .crashes := by
  have consumed := (outcome.accepted (Int.le_of_lt positive)).consumed
  have final : parsed.rc ≠ protoAgain := by
    unfold protoAgain
    omega
  obtain ⟨tail, run⟩ := outcome.ahead final inside more
  have within := consumed.inside
  have extended : 0 < (parsed.extend tail).rc := positive
  unfold Cursor.turn
  dsimp only
  rw [run]
  dsimp only
  rw [if_pos extended, consumed.effect_extend, consumed.serverMsg_extend]
  have rest : (p ++ more).drop (parsed.extend tail).rc.toNat = p.drop parsed.rc.toNat ++ more :=
    List.drop_append_of_le_length (by simp only [Parsed.extend]; omega)
  rw [rest]

/-- The turn at a malformed message. -/
theorem turn_refused (outcome : Outcome parse p parsed (Frame p)) (negative : ¬0 < parsed.rc)
    (final : parsed.rc ≠ protoAgain) (inside : p.length ≤ cap - 1) (more : List UInt8) :
    Cursor.turn json ⟨cap, peer, p ++ more⟩ = .stop [] .refuses := by
  obtain ⟨tail, run⟩ := outcome.ahead final inside more
  have extended : ¬0 < (parsed.extend tail).rc := negative
  have malformed : (parsed.extend tail).rc ≠ protoAgain := final
  unfold Cursor.turn
  dsimp only
  rw [run]
  dsimp only
  rw [if_neg extended, if_pos malformed]

/-- The turn at an incomplete message that does not fill the block. -/
theorem turn_waits (outcome : Outcome parse p parsed (Frame p)) (again : parsed.rc = protoAgain)
    (room : p.length < cap - 1) :
    Cursor.turn json ⟨cap, peer, p⟩ = .stop [] (.waits ⟨cap, peer, p⟩) := by
  have negative : ¬0 < parsed.rc := by
    rw [again]
    decide
  unfold Cursor.turn
  dsimp only
  rw [List.take_of_length_le (Nat.le_of_lt room), outcome.returns]
  dsimp only
  rw [if_neg negative, if_neg (not_not.mpr again), if_pos room]

/-- The turn at an incomplete message that fills the block. -/
theorem turn_full (outcome : Outcome parse p parsed (Frame p)) (again : parsed.rc = protoAgain)
    (full : p.length = cap - 1) (more : List UInt8) : Cursor.turn json ⟨cap, peer, p ++ more⟩ =
      if peer.Limits cap then .stop [] .refuses else .go [] ⟨2 * cap, peer, p ++ more⟩ := by
  have negative : ¬0 < parsed.rc := by
    rw [again]
    decide
  have long : ¬(p ++ more).length < cap - 1 := by
    rw [List.length_append]
    omega
  unfold Cursor.turn
  dsimp only
  rw [← full, List.take_left, outcome.returns]
  dsimp only
  rw [full, if_neg negative, if_neg (not_not.mpr again), if_neg long]

end Prefixes

end NgxNats
