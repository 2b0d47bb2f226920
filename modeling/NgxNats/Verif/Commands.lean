import NgxNats.Verif.ClientCalls
import NgxNats.Verif.Outflow

/-!
# Commands on the wire

What the module says to the server is a sequence of whole client commands: CONNECT with its PING,
PONG, and the PUB, SUB and UNSUB of its clients. The commands of a call are appended in several
pieces, but nothing comes between the pieces of a command, and nothing is sent before a command is
whole, unless the write buffer refused to grow on the connection.
-/
namespace NgxNats

open History (Throughout since)
open Program (Leads Moves)

/-- What the module says to the server at once. -/
inductive Command
  /-- CONNECT and the PING behind it. -/
  | connect
  | pong
  | pub (subject : List UInt8) (replyto : Option (List UInt8)) (payload : List UInt8)
  /-- SUB, and the UNSUB that limits it when there is a maximum. -/
  | sub (subject : List UInt8) (sid max : Int)
  | unsub (sid : Int)

/-- The bytes of a command. -/
def Command.bytes (env : Env) : Command → List UInt8
  | .connect => connstr env
  | .pong => ascii "PONG\r\n"
  | .pub subject replyto payload =>
    pubText subject replyto payload.length ++ payload ++ ascii "\r\n"
  | .sub subject sid max => subText subject sid ++ if 0 < max then unsubMaxText sid max else []
  | .unsub sid => unsubText sid

/-- Calls whose commands are written whole: a length that counts the payload, and a subject that the
array of SUB holds. A payload of length 0 is the empty string. -/
def ApiCall.Plain : ApiCall → Prop
  | .publish _ _ data len => len < 2 ^ 64 ∧ (len = 0 → data.head? = some 0)
  | .subscribe _ subject _ _ _ => subject.length ≤ 512
  | .addClient _ | .unsubscribe .. => True

/-- Unless an append was refused on the connection, commands were queued on it, and then a part of
another one. -/
def Phrased (env : Env) (part : List UInt8) (log : List Event) : Prop :=
  (∀ size, .refused size ∉ onWire log) →
    ∃ commands : List Command,
      queuedBytes (onWire log) = commands.flatMap (Command.bytes env) ++ part

/-- Commands were queued whole before a send. -/
def Queued (env : Env) (before : List Event) : Event → Prop
  | .send .. => Phrased env [] before
  | _ => True

/-- Unless an append was refused on the connection, what was sent on it and is offered next are
whole commands. -/
def Speaks (env : Env) (before : List Event) : Event → Prop
  | .send offered _ => (∀ size, .refused size ∉ onWire before) →
      ∃ commands : List Command,
        sentBytes (onWire before) ++ offered = commands.flatMap (Command.bytes env)
  | _ => True

section Phrases

variable {env : Env} {part : List UInt8} {log : List Event} {event : Event}

/-- An event that is neither queueing nor emptying. -/
theorem Phrased.next (phrased : Phrased env part log) (stays : event.empties = false)
    (unqueued : event.queuedBytes = []) : Phrased env part (log ++ [event]) := by
  intro unrefused
  rw [onWire_concat log stays] at unrefused ⊢
  rw [queuedBytes_concat, unqueued, List.append_nil]
  exact phrased fun size inside => unrefused size (List.mem_append_left _ inside)

/-- A piece is queued behind the part. -/
theorem Phrased.queue (phrased : Phrased env part log) (piece : List UInt8) :
    Phrased env (part ++ piece) (log ++ [.queued piece]) := by
  have stays : onWire (log ++ [.queued piece]) = onWire log ++ [.queued piece] :=
    onWire_concat log rfl
  intro unrefused
  rw [stays] at unrefused ⊢
  obtain ⟨commands, queued⟩ := phrased fun size inside =>
    unrefused size (List.mem_append_left _ inside)
  refine ⟨commands, ?_⟩
  rw [queuedBytes_concat, queued, List.append_assoc]
  rfl

/-- After a refused append nothing is promised. -/
theorem phrased_refused (env : Env) (part : List UInt8) (log : List Event) (size : Nat) :
    Phrased env part (log ++ [.refused size]) := by
  have stays : onWire (log ++ [.refused size]) = onWire log ++ [.refused size] :=
    onWire_concat log rfl
  intro unrefused
  rw [stays] at unrefused
  exact absurd (List.mem_append_right _ List.mem_cons_self) (unrefused size)

/-- Nothing was queued since the buffer was emptied. -/
theorem phrased_emptied (env : Env) (log : List Event) (empties : event.empties = true) :
    Phrased env [] (log ++ [event]) := by
  have none : onWire (log ++ [event]) = [] := History.since_marked _ empties
  intro _
  rw [none]
  exact ⟨[], rfl⟩

/-- A part that is a command completes it. -/
theorem Phrased.complete {command : Command} (phrased : Phrased env part log)
    (whole : part = command.bytes env) : Phrased env [] log := by
  intro unrefused
  obtain ⟨commands, queued⟩ := phrased unrefused
  refine ⟨commands ++ [command], ?_⟩
  rw [queued, whole, List.flatMap_append, List.flatMap_singleton, List.append_nil]

end Phrases

/-- Commands are on the wire of the connection, and a part of another one. -/
structure Phrasing (env : Env) (part : List UInt8) (w : World) : Prop where
  formed : w.writeBuf.WellFormed
  phrased : Phrased env part w.log
  queued : Throughout (Queued env) w.log

/-- Every send so far was of whole commands. -/
def Told (env : Env) (w : World) : Prop := Throughout (Queued env) w.log

variable {env : Env} {k : Calls} {part : List UInt8} {w w' : World} {events : List Event}
  {event : Event}

/-- One event more. -/
theorem Phrasing.next {part' : List UInt8} (phrasing : Phrasing env part w)
    (formed : w'.writeBuf.WellFormed) (log : w'.log = w.log ++ [event])
    (phrased : Phrased env part' (w.log ++ [event])) (queued : Queued env w.log event) :
    Phrasing env part' w' := by
  refine ⟨formed, log ▸ phrased, ?_⟩
  rw [log, History.throughout_concat]
  exact ⟨phrasing.queued, queued⟩

/-- Dry events. -/
theorem Phrasing.extend (phrasing : Phrasing env part w) (formed : w'.writeBuf.WellFormed)
    (log : w'.log = w.log ++ events) (dry : ∀ event ∈ events, event.dry = true) :
    Phrasing env part w' := by
  have quiet (event : Event) (inside : event ∈ events) (before : List Event) :
      Queued env before event := by
    have none := dry event inside
    cases event with
    | send => cases none
    | _ => trivial
  refine ⟨formed, ?_, log ▸ phrasing.queued.append quiet⟩
  rw [log]
  clear log quiet
  induction events using List.reverseRecOn with
  | nil =>
    rw [List.append_nil]
    exact phrasing.phrased
  | append_singleton rest event ih =>
    obtain ⟨stays, -, -, unqueued, -⟩ := dry_event (dry event (by simp))
    have earlier := ih fun other inside => dry other (List.mem_append_left _ inside)
    rw [← List.append_assoc]
    exact earlier.next stays unqueued

/-- A change that reports nothing. -/
theorem Phrasing.same (phrasing : Phrasing env part w) (formed : w'.writeBuf.WellFormed)
    (log : w'.log = w.log) : Phrasing env part w' :=
  phrasing.extend formed (log.trans (List.append_nil _).symm) (List.forall_mem_nil _)

/-- A change that reports one dry event. -/
theorem Phrasing.noted (phrasing : Phrasing env part w) (formed : w'.writeBuf.WellFormed)
    (log : w'.log = w.log ++ [event]) (dry : event.dry = true) : Phrasing env part w' :=
  phrasing.extend formed log fun _ inside => List.mem_singleton.mp inside ▸ dry

/-- Emptying the write buffer. -/
theorem Phrasing.emptied (phrasing : Phrasing env part w) (formed : w'.writeBuf.WellFormed)
    (log : w'.log = w.log ++ [event]) (empties : event.empties = true) : Phrasing env [] w' := by
  apply phrasing.next formed log (phrased_emptied env w.log empties)
  cases event with
  | send => cases empties
  | _ => trivial

/-- What an append of the first bytes of a message leaves behind: another piece of a command, or a
refusal. -/
structure Pieced (env : Env) (part message : List UInt8) (size : Nat) (rc : Int) (w : World) :
    Prop where
  granted : rc = ngxOk → size ≤ message.length ∧ Phrasing env (part ++ message.take size) w
  refused : rc ≠ ngxOk → ∀ other, Phrasing env other w

/-- An append that was answered. -/
theorem Phrasing.add {rc : Int} {b : Buf} {message : List UInt8} {size : Nat}
    (phrasing : Phrasing env part w)
    (added : w.writeBuf.add (env.alloc w.clock) message size = .ok (rc, b))
    (log : w'.log = w.log ++ [appendEvent rc message size]) (writeBuf : w'.writeBuf = b) :
    Pieced env part message size rc w' := by
  obtain ⟨answered, formed⟩ := phrasing.formed.add added
  rcases answered with rfl | rfl
  · have queued : appendEvent ngxOk message size = .queued (message.take size) := if_pos rfl
    have readable := (Buf.add_length phrasing.formed.valid added).1
    rw [queued] at log
    have piece := phrasing.next (writeBuf ▸ formed) log (phrasing.phrased.queue _) trivial
    exact ⟨fun _ => ⟨readable, piece⟩, fun odd => absurd rfl odd⟩
  · have refused : appendEvent ngxError message size = .refused size := if_neg (by decide)
    rw [refused] at log
    refine ⟨fun ok => absurd ok (by decide), fun _ other => ?_⟩
    exact phrasing.next (writeBuf ▸ formed) log (phrased_refused env other w.log size) trivial

/-- `ngx_nats_add_message` adds a piece. -/
theorem Phrasing.addMessage (phrasing : Phrasing env part w) (message : List UInt8) (size : Nat) :
    Leads (addMessage env message size) w (Pieced env part message (messageSize message size))
      (Told env) := by
  rw [addMessage_eq]
  split
  · exact Leads.fault phrasing.queued
  · split
    · next empty =>
      apply Leads.pure
      rw [empty]
      refine ⟨fun _ => ⟨Nat.zero_le _, ?_⟩, fun odd => absurd rfl odd⟩
      rwa [List.take_zero, List.append_nil]
    · apply appendBytes_leads
      · exact fun rc b added => phrasing.add added rfl rfl
      · exact phrasing.queued

/-- A text that fits the array it is printed into is a piece. -/
theorem Phrasing.addHeader (phrasing : Phrasing env part w) {text : List UInt8}
    (nonempty : text ≠ []) (fits : text.length ≤ headerSize) :
    Leads (addHeader env text) w (Pieced env part text text.length) (Told env) := by
  have added := phrasing.addMessage (snprintf headerSize text) (snprintf headerSize text).length
  have positive : text.length ≠ 0 := fun zero => nonempty (List.length_eq_zero_iff.mp zero)
  have size : messageSize text text.length = text.length := if_neg positive
  unfold NgxNats.addHeader
  rw [snprintf_of_fits fits] at added ⊢
  rwa [size] at added

/-- A whole text behind a part. -/
theorem Pieced.whole {text : List UInt8} {rc : Int} (pieced : Pieced env part text text.length rc w)
    (ok : rc = ngxOk) : Phrasing env (part ++ text) w := by
  have granted := (pieced.granted ok).2
  rwa [List.take_length] at granted

/-- A part that is a command completes it. -/
theorem Phrasing.complete {command : Command} (phrasing : Phrasing env part w)
    (whole : part = command.bytes env) : Phrasing env [] w :=
  ⟨phrasing.formed, phrasing.phrased.complete whole, phrasing.queued⟩

/-- The three pieces of PUB. -/
theorem Phrasing.publishFrame (phrasing : Phrasing env [] w) {subject : List UInt8}
    {replyto : Option (List UInt8)} {data : List UInt8} {len : Nat}
    (admitted : admits subject replyto = true) (word : len < 2 ^ 64)
    (empty : len = 0 → data.head? = some 0) :
    Leads (publishFrame env (snprintf headerSize (pubText subject replyto len)) data len) w
      (fun _ => Phrasing env []) (Told env) := by
  have size : messageSize data len = len := by
    unfold messageSize
    by_cases zero : len = 0
    · have first := empty zero
      cases data with
      | nil => cases first
      | cons c rest =>
        cases first
        rw [if_pos zero, zero]
        rfl
    · exact if_neg zero
  have crlf : messageSize (ascii "\r\n") 2 = (ascii "\r\n").length := by decide
  apply Leads.bind (phrasing.addHeader (pubText_nonempty subject replyto len)
    (pubText_fits admitted word))
  intro rc w₁ header
  split
  · next odd => exact Leads.pure (header.refused odd [])
  · next ok =>
    have phrasing₁ := header.whole (not_not.mp ok)
    apply Leads.bind (phrasing₁.addMessage data len)
    intro rc w₂ payload
    split
    · next odd => exact Leads.pure (payload.refused odd [])
    · next ok =>
      obtain ⟨readable, phrasing₂⟩ := payload.granted (not_not.mp ok)
      rw [size] at readable phrasing₂
      have length : (data.take len).length = len := List.length_take_of_le readable
      refine (phrasing₂.addMessage (ascii "\r\n") 2).weaken ?_ fun _ => id
      intro rc w₃ ending
      rw [crlf] at ending
      by_cases ok : rc = ngxOk
      · have whole := ending.whole ok
        have command : pubText subject replyto len ++ data.take len ++ ascii "\r\n" =
            (Command.pub subject replyto (data.take len)).bytes env := by
          simp only [Command.bytes, length]
        rw [List.nil_append] at whole
        exact whole.complete command
      · exact ending.refused ok []

/-- The line of SUB fits its array with a subject that it holds. -/
theorem subText_fits {subject : List UInt8} (short : subject.length ≤ 512) (sid : Int) :
    (subText subject sid).length ≤ headerSize := by
  have digits := length_decimal_word (Word.unsigned_lt sid)
  have begin : (ascii "SUB ").length = 4 := by decide
  have space : (ascii " ").length = 1 := by decide
  have crlf : (ascii "\r\n").length = 2 := by decide
  simp only [subText, List.length_append, begin, space, crlf, headerSize]
  omega

/-- The line of UNSUB fits its array. -/
theorem unsubText_fits (sid : Int) : (unsubText sid).length ≤ headerSize := by
  have digits := length_decimal_word (Word.unsigned_lt sid)
  have begin : (ascii "UNSUB ").length = 6 := by decide
  have crlf : (ascii "\r\n").length = 2 := by decide
  simp only [unsubText, List.length_append, begin, crlf, headerSize]
  omega

/-- The one or two lines of a subscription. -/
theorem Phrasing.subscribeLines (phrasing : Phrasing env [] w) {subject : List UInt8}
    (short : subject.length ≤ 512) (sid max : Int) :
    Leads (subscribeLines env subject sid max) w (fun _ => Phrasing env []) (Told env) := by
  have nonempty : subText subject sid ≠ [] := by simp [subText, ascii]
  have limits : unsubMaxText sid max ≠ [] := by simp [unsubMaxText, ascii]
  apply Leads.bind (phrasing.addHeader nonempty (subText_fits short sid))
  intro rc w₁ line
  split
  · next odd => exact Leads.pure (line.refused odd [])
  · next ok =>
    have phrasing₁ := line.whole (not_not.mp ok)
    split
    · next limited =>
      refine (phrasing₁.addHeader limits (unsubMaxText_fits sid max)).weaken ?_ fun _ => id
      intro rc w₂ limit
      by_cases ok : rc = ngxOk
      · have command : subText subject sid ++ unsubMaxText sid max =
            (Command.sub subject sid max).bytes env := by
          simp only [Command.bytes, if_pos limited]
        have whole := limit.whole ok
        rw [List.nil_append] at whole
        exact whole.complete command
      · exact limit.refused ok []
    · next unlimited =>
      have command : subText subject sid = (Command.sub subject sid max).bytes env := by
        simp only [Command.bytes, if_neg unlimited, List.append_nil]
      exact Leads.pure (phrasing₁.complete ((List.nil_append _).trans command))

/-- The line of an unsubscription. -/
theorem Phrasing.unsubscribeLine (phrasing : Phrasing env [] w) (sid : Int) :
    Leads (NgxNats.addHeader env (unsubText sid)) w (fun _ => Phrasing env []) (Told env) := by
  have nonempty : unsubText sid ≠ [] := by simp [unsubText, ascii]
  refine (phrasing.addHeader nonempty (unsubText_fits sid)).weaken ?_ fun _ => id
  intro rc w₁ line
  by_cases ok : rc = ngxOk
  · have command : unsubText sid = (Command.unsub sid).bytes env := rfl
    exact (line.whole ok).complete ((List.nil_append _).trans command)
  · exact line.refused ok []

/-- A text that is appended at once is a command. -/
theorem Phrasing.said {rc : Int} {b : Buf} {text : List UInt8} (phrasing : Phrasing env [] w)
    (command : Command) (whole : text = command.bytes env)
    (added : w.writeBuf.add (env.alloc w.clock) text text.length = .ok (rc, b))
    (log : w'.log = w.log ++ [appendEvent rc text text.length]) (writeBuf : w'.writeBuf = b) :
    Phrasing env [] w' := by
  have pieced := phrasing.add added log writeBuf
  by_cases ok : rc = ngxOk
  · exact (pieced.whole ok).complete ((List.nil_append text).trans whole)
  · exact pieced.refused ok []

/-- A flush up to its end sends what was queued so far. -/
theorem Phrasing.flushed {ending : Option Reason} (phrasing : Phrasing env [] w)
    (flushed : Flushed env w w' ending) : Phrasing env [] w' := by
  have formed := flushed.formed phrasing.formed
  rcases flushed.offered phrasing.formed with ⟨same, -⟩ | ⟨result, more, log, dry, -⟩
  · exact phrasing.same formed same
  · have sent : Phrasing env [] { w' with log := w.log ++ [.send w.writeBuf.pending result] } :=
      phrasing.next formed rfl (phrasing.phrased.next rfl rfl) phrasing.phrased
    refine sent.extend formed ?_ dry
    rw [log, List.append_assoc]
    rfl

/-- Every step of the module says whole commands, when its clients make plain calls. -/
theorem phrasing_persists (env : Env)
    (scripts : ∀ tick call, ∀ request ∈ env.script tick call, request.Plain) :
    Whole.Persists env ApiCall.Plain (Phrasing env []) (Told env) where
  formed phrasing := phrasing.formed
  faults phrasing := phrasing.queued
  scripts := scripts
  beside := by
    intro w w' phrasing beside
    obtain ⟨events, log, besides⟩ := beside.log
    exact phrasing.extend (beside.writeBuf ▸ phrasing.formed) log
      fun event inside => dry_of_idle (idle_of_beside (besides event inside))
  published _ _ _ _ phrasing _ plain admitted :=
    phrasing.publishFrame admitted plain.1 plain.2
  subscribed _ _ _ _ _ _ phrasing _ plain := phrasing.subscribeLines plain _ _
  unsubscribed _ phrasing _ := phrasing.unsubscribeLine _
  taken _ phrasing _ := phrasing.noted phrasing.formed rfl rfl
  handed msg phrasing _ := by
    apply handOver_keeps
    · exact fun phrasing => phrasing.queued
    · intro w w' phrasing aside
      obtain ⟨events, log, idle⟩ := aside.log
      exact Phrasing.extend phrasing (aside.writeBuf ▸ phrasing.formed) log
        fun event inside => dry_of_idle (idle event inside)
    · exact phrasing.noted phrasing.formed rfl rfl
  rejected phrasing := phrasing.noted phrasing.formed rfl rfl
  informed _ phrasing _ _ _ := phrasing.same phrasing.formed rfl
  reply _ _ _ _ phrasing _ _ added := phrasing.said .pong rfl added rfl rfl
  ready _ _ phrasing _ _ _ := phrasing.noted phrasing.formed rfl rfl
  initiate := by
    intro w rc b phrasing _ added
    have initiated : Phrasing env [] { w with log := w.log ++ [.initiated] } :=
      phrasing.noted phrasing.formed rfl rfl
    refine initiated.said .connect rfl added ?_ rfl
    rw [List.append_assoc]
    rfl
  flushed phrasing flushed := phrasing.flushed flushed
  dangling phrasing _ := phrasing.queued
  shut := by
    intro w c phrasing _
    refine phrasing.extend phrasing.formed rfl ?_
    split
    · simp [Event.dry]
    · exact List.forall_mem_nil _
  abandoned _ phrasing := phrasing.emptied phrasing.formed.reset rfl rfl
  unallocated phrasing := phrasing.emptied phrasing.formed.reset rfl rfl
  unindexed phrasing := phrasing.queued
  opened _ phrasing := phrasing.emptied phrasing.formed.reset rfl rfl
  wired _ _ phrasing _ _ := phrasing.same phrasing.formed rfl
  filled _ phrasing := phrasing.same phrasing.formed rfl
  checked phrasing _ := phrasing.same phrasing.formed rfl
  noted _ phrasing reads := phrasing.noted phrasing.formed rfl (dry_of_reads reads)
  timed phrasing _ _ := phrasing.same phrasing.formed rfl
  expired phrasing _ := phrasing.noted phrasing.formed rfl rfl

/-- The module speaks in whole commands. In every run whose clients make plain calls, and whose
outgoing stream is intact, the bytes that a send has accepted on a connection and the bytes it is
offered are together a sequence of whole commands, unless an append was refused on it. -/
theorem commands_whole (env : Env) (depth : Nat) (steps : List Step) (read write : Memory UInt8)
    (scripts : ∀ tick call, ∀ request ∈ env.script tick call, request.Plain)
    (calls : ∀ request, .api request ∈ steps → request.Plain)
    (eased : Throughout Eased (reached env depth steps read write).log) :
    Throughout (Speaks env) (reached env depth steps read write).log := by
  have start : Phrasing env [] (.start read write) :=
    ⟨start_formed read write, fun _ => ⟨[], rfl⟩, History.throughout_nil⟩
  have run := (phrasing_persists env scripts).run depth start steps calls
  have queued : Throughout (Queued env) (reached env depth steps read write).log :=
    (run.weaken (fun _ _ phrasing => phrasing.queued) fun _ => id).last
  have offers := reached_offers eased
  intro before event after split
  cases event with
  | send offered result =>
    intro unrefused
    obtain ⟨commands, whole⟩ := queued before _ after split unrefused
    have continues : queuedBytes (onWire before) = sentBytes (onWire before) ++ offered :=
      offers before _ after split
    rw [List.append_nil] at whole
    exact ⟨commands, continues.symm.trans whole⟩
  | _ => trivial

/-- A client subscribes and publishes once the server greeted the module, and ten bytes are sent at
a time. -/
def conversing : List Step :=
  [.init, .readable [.bytes greeting], .api (.subscribe 0 (ascii "a") 1 0 0), .writable, .writable,
    .api (.publish (some (ascii "b")) none (ascii "hi") 2), .writable]

/-- The commands of a subscription and a publication. -/
theorem commands_whole_conversing : Throughout (Speaks trickling)
    (reached trickling 2 conversing (fun _ => 0) fun _ => 0).log := by
  apply commands_whole
  · intro _ _ request inside
    cases inside
  · intro request inside
    simp only [conversing, List.mem_cons, reduceCtorEq, Step.api.injEq, false_or, or_false,
      List.not_mem_nil] at inside
    rcases inside with rfl | rfl
    · exact (by decide : (ascii "a").length ≤ 512)
    · exact ⟨by decide, by decide⟩
  · decide +kernel

end NgxNats
