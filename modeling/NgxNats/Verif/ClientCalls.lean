import NgxNats.Verif.ActRuns

/-!
# The client functions on a READY connection

What `ngx_nats_publish`, `ngx_nats_subscribe` and `ngx_nats_unsubscribe` append, and what a refused
append in the middle leaves behind.
-/
namespace NgxNats

variable (env : Env) (k : Calls)

/-- Append messages until one is refused. -/
def appendAll : List (List UInt8 × Nat) → Comm Int
  | [] => return ngxOk
  | (message, size) :: rest => do
    let rc ← addMessage env message size
    if rc ≠ ngxOk then return rc else appendAll rest

/-- The index of the message that finds no room, when messages are appended one after the other
from a tick on. -/
def firstRefused (alloc : Nat → Alloc) (tick : Nat) (b : Buf) :
    List (List UInt8 × Nat) → Option Nat
  | [] => none
  | (message, size) :: rest =>
    match b.addMessage alloc tick message size with
    | .ok (rc, tick, b) =>
      if rc = ngxOk then (firstRefused alloc tick b rest).map (· + 1) else some 0
    | .error _ => none

/-- The number of bytes that messages append. -/
def totalSize (messages : List (List UInt8 × Nat)) : Nat :=
  (messages.map fun message => messageSize message.1 message.2).sum

/-- The last append of a function needs no look at its result. -/
theorem appendAll_single (message : List UInt8) (size : Nat) :
    appendAll env [(message, size)] = addMessage env message size := by
  funext w
  unfold appendAll appendAll
  rw [Program.bind_run]
  split
  · next rc middle run =>
    by_cases refused : rc = ngxOk
    · simp [refused, run]
    · simp [refused, run]
  · next run => exact run.symm

/-- The appends of `ngx_nats_publish`. -/
theorem publishFrame_eq (header data : List UInt8) (len : Nat) : publishFrame env header data len =
    appendAll env [(header, header.length), (data, len), (ascii "\r\n", 2)] := by
  rw [publishFrame, ← appendAll_single env (ascii "\r\n") 2]
  rfl

/-- A text as `ngx_snprintf` prints it into the header. -/
def headerOf (text : List UInt8) : List UInt8 × Nat :=
  (snprintf headerSize text, (snprintf headerSize text).length)

/-- The lines of `ngx_nats_subscribe`. -/
def subscribeAppends (subject : List UInt8) (sid max : Int) : List (List UInt8 × Nat) :=
  headerOf (subText subject sid) :: if 0 < max then [headerOf (unsubMaxText sid max)] else []

/-- The appends of `ngx_nats_subscribe`. -/
theorem subscribeLines_eq (subject : List UInt8) (sid max : Int) :
    subscribeLines env subject sid max = appendAll env (subscribeAppends subject sid max) := by
  unfold subscribeLines subscribeAppends
  by_cases limited : 0 < max
  · rw [if_pos limited]
    simp only [limited, ↓reduceIte]
    have last : addHeader env (unsubMaxText sid max) =
        appendAll env [headerOf (unsubMaxText sid max)] := (appendAll_single env _ _).symm
    rw [last]
    rfl
  · rw [if_neg limited]
    simp only [limited, ↓reduceIte]
    rfl

section Outcomes

variable {env} {w : World} {i : Nat}

/-- A refused append ends the appends with an error. Those before it stay pending. -/
theorem appendAll_refused {messages : List (List UInt8 × Nat)} (formed : w.writeBuf.WellFormed)
    (refused : firstRefused env.alloc w.clock w.writeBuf messages = some i) :
    ∃ w', appendAll env messages w = (.ok ngxError, w') ∧ w'.subs = w.subs ∧
      (i = 0 → w'.writeBuf.pending = w.writeBuf.pending) ∧
      w'.writeBuf.pending.length = w.writeBuf.pending.length + totalSize (messages.take i) := by
  induction messages generalizing w i with
  | nil => cases refused
  | cons head rest ih =>
    obtain ⟨message, size⟩ := head
    unfold firstRefused at refused
    split at refused
    · next rc tick b run =>
      obtain ⟨w₁, added, after⟩ := addMessage_returns run
      obtain ⟨answered, kept, untouched, longer⟩ := formed.addMessage run
      unfold appendAll
      rw [Program.bind_ok added]
      by_cases accepted : rc = ngxOk
      · rw [if_pos accepted] at refused
        obtain ⟨j, later, rfl⟩ := Option.map_eq_some_iff.mp refused
        rw [← after.clock, ← after.writeBuf] at later
        rw [← after.writeBuf] at kept
        obtain ⟨w₂, run₂, subs, -, length⟩ := ih kept later
        refine ⟨w₂, ?_, subs.trans after.subs, fun zero => by omega, ?_⟩
        · simp only [accepted, ne_eq, not_true_eq_false, ↓reduceIte]
          exact run₂
        · rw [length, after.writeBuf, longer accepted]
          simp only [totalSize, List.take_succ_cons, List.map_cons, List.sum_cons]
          omega
      · rw [if_neg accepted] at refused
        cases refused
        have error : rc = ngxError := answered.resolve_left accepted
        refine ⟨w₁, ?_, after.subs, fun _ => ?_, ?_⟩
        · simp only [accepted, ne_eq, not_false_eq_true, ↓reduceIte, Program.pure_run]
          rw [error]
        · rw [after.writeBuf, untouched error]
        · rw [after.writeBuf, untouched error]
          rfl
    · cases refused

/-- Appends of which none is refused return no error. -/
theorem appendAll_accepted {messages : List (List UInt8 × Nat)} {rc : Int} {w' : World}
    (accepted : firstRefused env.alloc w.clock w.writeBuf messages = none)
    (run : appendAll env messages w = (.ok rc, w')) : rc = ngxOk ∧ w'.subs = w.subs := by
  induction messages generalizing w with
  | nil =>
    cases run
    exact ⟨rfl, rfl⟩
  | cons head rest ih =>
    obtain ⟨message, size⟩ := head
    unfold firstRefused at accepted
    unfold appendAll at run
    split at accepted
    · next rc₁ tick b answer =>
      obtain ⟨w₁, added, after⟩ := addMessage_returns answer
      rw [Program.bind_ok added] at run
      split at accepted
      · next ok =>
        simp only [ok, ne_eq, not_true_eq_false, ↓reduceIte] at run
        rw [Option.map_eq_none_iff, ← after.clock, ← after.writeBuf] at accepted
        obtain ⟨answered, subs⟩ := ih accepted run
        exact ⟨answered, subs.trans after.subs⟩
      · cases accepted
    · next stop answer =>
      obtain ⟨w₁, stopped⟩ := addMessage_stops answer
      rw [Program.bind_error stopped] at run
      cases run

/-- A message of size 0 that was appended is terminated. -/
theorem addMessage_terminated {tick : Nat} {b : Buf} {message : List UInt8} {size : Nat}
    {answer : Int × Nat × Buf} (run : b.addMessage env.alloc tick message size = .ok answer) :
    size = 0 → 0 ∈ message := by
  intro zero
  unfold Buf.addMessage at run
  by_contra missing
  rw [if_pos ⟨zero, missing⟩] at run
  cases run

/-- What appends that all returned left in the log. -/
theorem appendAll_bytes {messages : List (List UInt8 × Nat)} {w' : World}
    (run : appendAll env messages w = (.ok ngxOk, w')) :
    (∀ message ∈ messages, message.2 = 0 → 0 ∈ message.1) ∧
    queuedBytes w'.log = queuedBytes w.log ++
      messages.flatMap fun message => message.1.take (messageSize message.1 message.2) := by
  induction messages generalizing w with
  | nil =>
    cases run
    exact ⟨List.forall_mem_nil _, by simp⟩
  | cons head rest ih =>
    obtain ⟨message, size⟩ := head
    unfold appendAll at run
    cases answer : w.writeBuf.addMessage env.alloc w.clock message size with
    | error stop =>
      obtain ⟨w₁, stopped⟩ := addMessage_stops answer
      rw [Program.bind_error stopped] at run
      cases run
    | ok found =>
      obtain ⟨rc, tick, b⟩ := found
      obtain ⟨w₁, added, after⟩ := addMessage_returns answer
      rw [Program.bind_ok added] at run
      by_cases ok : rc = ngxOk
      · simp only [ok, ne_eq, not_true_eq_false, ↓reduceIte] at run
        obtain ⟨terminated, bytes⟩ := ih run
        refine ⟨List.forall_mem_cons.mpr ⟨addMessage_terminated answer, terminated⟩, ?_⟩
        rw [bytes, after.log, if_pos ok, List.flatMap_cons, List.append_assoc]
      · simp only [ok, ne_eq, not_false_eq_true, ↓reduceIte, Program.pure_run, Prod.mk.injEq,
          Except.ok.injEq] at run
        exact run.1.elim

end Outcomes

/-- A connection on which the client functions go through. -/
structure World.Ready (w : World) : Prop where
  dataSet : w.dataSet = true
  attached : w.attached = true
  state : w.nc.state = stateReady

/-- The header of a publication that passes the length check fits its array. -/
theorem pubText_fits {subject : List UInt8} {replyto : Option (List UInt8)} {len : Nat}
    (admitted : admits subject replyto = true) (word : len < 2 ^ 64) :
    (pubText subject replyto len).length ≤ headerSize := by
  have digits := length_decimal_word word
  have begin : (ascii "PUB ").length = 4 := by decide
  have space : (ascii " ").length = 1 := by decide
  have crlf : (ascii "\r\n").length = 2 := by decide
  simp only [admits, decide_eq_true_eq] at admitted
  cases replyto with
  | none =>
    simp only [pubText, List.length_append, begin, space, crlf, headerSize]
    simp only [Option.getD_none, List.length_nil] at admitted
    omega
  | some replyto =>
    simp only [pubText, List.length_append, begin, space, crlf, headerSize]
    simp only [Option.getD_some] at admitted
    omega

/-- On a READY connection, a publication that passes the checks appends its frame and flushes. -/
theorem publish_ready {env : Env} {k : Calls} {w : World} (ready : w.Ready) {subject : List UInt8}
    {replyto : Option (List UInt8)} (admitted : admits subject replyto = true)
    (data : List UInt8) (len : Nat) :
    publish env k (some subject) replyto data len w = (do
      let rc ← publishFrame env (snprintf headerSize (pubText subject replyto len)) data len
      if rc ≠ ngxOk then return rc
      else
        flush env k
        return ngxOk) w := by
  unfold publish
  simp only [Program.get_bind, ready.dataSet, ready.attached, ready.state, admitted,
    not_true_eq_false, ne_eq, ↓reduceIte]

/-- What a publication appends is its frame exactly when it has a payload or the payload starts
with a zero byte: a payload of length 0 is taken for a zero-terminated string. The header is
never cut. -/
theorem publish_frame_iff (env : Env) (k : Calls) (w : World) (ready : w.Ready)
    (subject : List UInt8) (replyto : Option (List UInt8)) (data : List UInt8) (len : Nat)
    (admitted : admits subject replyto = true) (word : len < 2 ^ 64) :
    publish env k (some subject) replyto data len w = (do
      let rc ← publishFrame env (pubText subject replyto len) data len
      if rc ≠ ngxOk then return rc
      else
        flush env k
        return ngxOk) w ∧
    ∀ w', publishFrame env (pubText subject replyto len) data len w = (.ok ngxOk, w') →
      (queuedBytes w'.log = queuedBytes w.log ++
          (pubText subject replyto len ++ data.take len ++ ascii "\r\n") ↔
        0 < len ∨ data.head? = some 0) := by
  have whole := snprintf_of_fits (pubText_fits admitted word)
  constructor
  · rw [publish_ready ready admitted, whole]
  · intro w' run
    have positive : (pubText subject replyto len).length ≠ 0 := by
      cases replyto with
      | none => simp [pubText, ascii]
      | some replyto => simp [pubText, ascii]
    rw [publishFrame_eq] at run
    obtain ⟨terminated, queued⟩ := appendAll_bytes run
    have header : messageSize (pubText subject replyto len)
      (pubText subject replyto len).length = (pubText subject replyto len).length := if_neg positive
    have crlf : (ascii "\r\n").take (messageSize (ascii "\r\n") 2) = ascii "\r\n" := by decide
    simp only [List.flatMap_cons, List.flatMap_nil, List.append_nil, header, crlf,
      List.take_length] at queued
    rw [queued, List.append_cancel_left_eq, List.append_assoc, List.append_cancel_left_eq,
      List.append_cancel_right_eq]
    by_cases empty : len = 0
    · have terminator := terminated (data, len) (by simp) empty
      cases data with
      | nil => cases terminator
      | cons c rest =>
        by_cases zero : c = 0
        · simp [messageSize, strlen, empty, zero]
        · simp [messageSize, strlen, empty, zero]
    · have sized : messageSize data len = len := if_neg empty
      rw [sized]
      exact ⟨fun _ => .inl (Nat.pos_of_ne_zero empty), fun _ => rfl⟩

/-- After a handshake the client functions go through. -/
theorem greeted_ready : greeted.Ready := by
  constructor
  · decide +kernel
  · decide +kernel
  · decide +kernel

/-- A publication of two bytes. -/
theorem publish_frame_two :
    publish granting (calls granting 2) (some (ascii "a")) none (ascii "hi") 2 greeted = (do
      let rc ← publishFrame granting (pubText (ascii "a") none 2) (ascii "hi") 2
      if rc ≠ ngxOk then return rc
      else
        flush granting (calls granting 2)
        return ngxOk) greeted ∧
    ∀ w', publishFrame granting (pubText (ascii "a") none 2) (ascii "hi") 2 greeted =
        (.ok ngxOk, w') →
      (queuedBytes w'.log = queuedBytes greeted.log ++
          (pubText (ascii "a") none 2 ++ (ascii "hi").take 2 ++ ascii "\r\n") ↔
        0 < 2 ∨ (ascii "hi").head? = some 0) :=
  publish_frame_iff granting (calls granting 2) greeted greeted_ready (ascii "a") none
    (ascii "hi") 2
    (by decide) (by decide)

/-- A publication of no bytes from a buffer that holds a string: the string is appended. -/
theorem publish_empty_string : ¬∀ (env : Env) (w : World), w.Ready →
    ∀ (subject : List UInt8) (replyto : Option (List UInt8)) (data : List UInt8) (len : Nat),
    admits subject replyto = true → len < 2 ^ 64 →
    ∀ w', publishFrame env (pubText subject replyto len) data len w = (.ok ngxOk, w') →
    queuedBytes w'.log = queuedBytes w.log ++
      (pubText subject replyto len ++ data.take len ++ ascii "\r\n") := by
  intro claim
  have returned : (publishFrame granting (pubText (ascii "a") none 0) (ascii "hi" ++ [0]) 0
      greeted).1 = .ok ngxOk := by decide +kernel
  have appended : queuedBytes (publishFrame granting (pubText (ascii "a") none 0)
      (ascii "hi" ++ [0]) 0 greeted).2.log ≠ queuedBytes greeted.log ++
        (pubText (ascii "a") none 0 ++ (ascii "hi" ++ [0]).take 0 ++ ascii "\r\n") := by
    decide +kernel
  generalize run : publishFrame granting (pubText (ascii "a") none 0) (ascii "hi" ++ [0]) 0
    greeted = result at returned appended
  obtain ⟨outcome, w'⟩ := result
  subst returned
  exact appended (claim granting greeted greeted_ready (ascii "a") none (ascii "hi" ++ [0]) 0
    (by decide) (by decide) w' run)

/-- `ngx_nats_buf_ensure` answers with `NGX_OK` or `NGX_ERROR`. -/
theorem ensure_answered {b b' : Buf} {alloc : Alloc} {size : Nat} {compact : Bool} {rc : Int}
    (run : b.ensure alloc size compact = .ok (rc, b')) : rc = ngxOk ∨ rc = ngxError := by
  unfold Buf.ensure at run
  split at run
  · cases run
    exact .inl rfl
  · split at run
    · cases run
      exact .inl rfl
    · unfold Buf.grow at run
      split at run
      · cases run
        exact .inr rfl
      · simp only [bind, Except.bind] at run
        split at run
        · cases run
        · split at run
          · cases run
            exact .inr rfl
          · cases run
            exact .inl rfl

/-- `ngx_nats_add_message` answers with `NGX_OK` or `NGX_ERROR`. -/
theorem Buf.addMessage_answered {alloc : Nat → Alloc} {tick tick' : Nat} {b b' : Buf}
    {message : List UInt8} {size : Nat} {rc : Int}
    (run : b.addMessage alloc tick message size = .ok (rc, tick', b')) :
    rc = ngxOk ∨ rc = ngxError := by
  unfold Buf.addMessage at run
  split at run
  · cases run
  · split at run
    · cases run
      exact .inl rfl
    · unfold Buf.add at run
      cases ensured : b.ensure (alloc tick) (messageSize message size) true with
      | error stop =>
        rw [ensured] at run
        cases run
      | ok answer =>
        obtain ⟨rc₁, made⟩ := answer
        rw [ensured] at run
        dsimp only at run
        by_cases refused : rc₁ = ngxOk
        · rw [if_neg (fun other => other refused)] at run
          split at run
          · next added =>
            split at added
            · cases added
            · cases added
              cases run
              exact .inl rfl
          · cases run
        · rw [if_pos refused] at run
          cases run
          exact ensure_answered ensured

/-- Appends answer with `NGX_OK` or `NGX_ERROR`. -/
theorem appendAll_answered {env : Env} {messages : List (List UInt8 × Nat)} {rc : Int}
    {w w' : World} (run : appendAll env messages w = (.ok rc, w')) :
    rc = ngxOk ∨ rc = ngxError := by
  induction messages generalizing w with
  | nil =>
    cases run
    exact .inl rfl
  | cons head rest ih =>
    obtain ⟨message, size⟩ := head
    unfold appendAll at run
    cases answer : w.writeBuf.addMessage env.alloc w.clock message size with
    | error stop =>
      obtain ⟨w₁, stopped⟩ := addMessage_stops answer
      rw [Program.bind_error stopped] at run
      cases run
    | ok found =>
      obtain ⟨rc₁, tick, b⟩ := found
      obtain ⟨w₁, added, -⟩ := addMessage_returns answer
      rw [Program.bind_ok added] at run
      by_cases ok : rc₁ = ngxOk
      · simp only [ok, ne_eq, not_true_eq_false, ↓reduceIte] at run
        exact ih run
      · simp only [ok, ne_eq, not_false_eq_true, ↓reduceIte, Program.pure_run, Prod.mk.injEq,
          Except.ok.injEq] at run
        rw [← run.1]
        exact Buf.addMessage_answered answer

/-- The parts of a subscribe that returned a sid: the subscription was entered, its lines were
appended, and the write buffer was flushed. -/
structure SubscribeRun (client : Nat) (subject : List UInt8) (max : Int) (handleMsg data : Nat)
    (w : World) (sub : Subscription) (w₀ w₁ w' : World) : Prop where
  entered : enterSubscription env client max handleMsg data w = (.ok (some sub), w₀)
  lines : subscribeLines env subject sub.sid max w₀ = (.ok ngxOk, w₁)
  flushed : flush env k w₁ = (.ok (), w')

/-- A subscribe that returned a sid went through all its parts. -/
theorem subscribe_split {env : Env} {k : Calls} {client : Nat} {subject : List UInt8}
    {max sid : Int} {handleMsg data : Nat} {w w' : World}
    (run : subscribe env k client subject max handleMsg data w = (.ok sid, w'))
    (positive : 0 < sid) : ∃ sub w₀ w₁,
      SubscribeRun env k client subject max handleMsg data w sub w₀ w₁ w' ∧ sub.sid = sid := by
  have failed {rc : Int} {w₁ w₂ : World} (low : rc ≤ 0)
      (run : (pure rc : Comm Int) w₁ = (.ok sid, w₂)) : False := by
    cases run
    omega
  unfold subscribe at run
  simp only [Program.get_bind, Program.ite_run] at run
  split at run
  · exact (failed (by decide) run).elim
  · split at run
    · exact (failed (by decide) run).elim
    · split at run
      · exact (failed (by decide) run).elim
      · rw [Program.bind_run] at run
        split at run
        · next found w₀ entered =>
          cases found with
          | none => exact (failed (by decide) run).elim
          | some sub =>
            dsimp only at run
            rw [Program.bind_run] at run
            split at run
            · next rc w₁ lines =>
              by_cases ok : rc = ngxOk
              · subst ok
                simp only [ne_eq, not_true_eq_false, ↓reduceIte] at run
                rw [Program.bind_run] at run
                split at run
                · next flushed =>
                  cases run
                  exact ⟨sub, w₀, w₁, ⟨entered, lines, flushed⟩, rfl⟩
                · cases run
              · rw [subscribeLines_eq] at lines
                have error := (appendAll_answered lines).resolve_left ok
                simp only [ok, ne_eq, not_false_eq_true, ↓reduceIte, emit_bind] at run
                exact (failed (by rw [error]; decide) run).elim
            · cases run
        · cases run

/-- Entering a subscription queues nothing and gives it the next sid. -/
theorem enterSubscription_some {env : Env} {client : Nat} {max : Int} {handleMsg data : Nat}
    {w w₀ : World} {sub : Subscription}
    (run : enterSubscription env client max handleMsg data w = (.ok (some sub), w₀)) :
    sub.sid = Word.signed (w.nextId + 1) ∧ sub ∈ w₀.subs ∧ w₀.writeBuf = w.writeBuf ∧
      queuedBytes w₀.log = queuedBytes w.log := by
  unfold enterSubscription at run
  simp only [ask_bind, Program.get_bind] at run
  cases entered : addSubscription w.subs
      ⟨client, handleMsg, data, Word.signed (w.nextId + 1), max, 0⟩ (env.arrayPush w.clock) with
  | none =>
    rw [entered] at run
    cases run
  | some subs =>
    rw [entered] at run
    cases run
    refine ⟨rfl, ?_, rfl, ?_⟩
    · unfold addSubscription at entered
      split at entered
      · next i hole =>
        cases entered
        have inside : i < w.subs.length := (List.findIdx?_eq_some_iff_getElem.mp hole).1
        exact List.mem_set inside _
      · rw [Option.ite_none_right_eq_some, Option.some.injEq] at entered
        rw [← entered.2]
        exact List.mem_append_right _ List.mem_cons_self
    · simp only [queuedBytes, List.flatMap_append]
      simp [Event.queuedBytes]

/-- The bytes a subscription queues: its line and, with a maximum, the line that limits it. -/
def subscriptionLines (subject : List UInt8) (sid max : Int) : List UInt8 :=
  ascii "SUB " ++ subject ++ ascii " " ++ decimal sid.toNat ++ ascii "\r\n" ++
    if 0 < max then
      ascii "UNSUB " ++ decimal sid.toNat ++ ascii " " ++ decimal max.toNat ++ ascii "\r\n"
    else []

/-- A positive word is its own unsigned word. -/
theorem unsigned_of_positive {value : Int} (positive : 0 < value) (word : value < 2 ^ 63) :
    Word.unsigned value = value.toNat := by
  unfold Word.unsigned
  rw [Int.emod_eq_of_lt (by omega) (by omega)]

/-- The line that limits a subscription fits its array. -/
theorem unsubMaxText_fits (sid max : Int) : (unsubMaxText sid max).length ≤ headerSize := by
  have sidDigits := length_decimal_word (Word.unsigned_lt sid)
  have maxDigits := length_decimal_word (Word.unsigned_lt max)
  have begin : (ascii "UNSUB ").length = 6 := by decide
  have space : (ascii " ").length = 1 := by decide
  have crlf : (ascii "\r\n").length = 2 := by decide
  simp only [unsubMaxText, List.length_append, begin, space, crlf, headerSize]
  omega

/-- A header is appended as it was printed. -/
theorem take_headerOf {text : List UInt8} (nonempty : text ≠ []) :
    (headerOf text).1.take (messageSize (headerOf text).1 (headerOf text).2) =
      snprintf headerSize text := by
  have positive : (snprintf headerSize text).length ≠ 0 := by
    have some := List.length_pos_iff.mpr nonempty
    simp only [snprintf, List.length_take, headerSize]
    omega
  have sized :
    messageSize (headerOf text).1 (headerOf text).2 = (snprintf headerSize text).length :=
    if_neg positive
  rw [sized]
  exact List.take_length

/-- A subscribe that returns a sid has queued its lines exactly when the first of them fits the
array it is printed into: the keyword, the subject, the sid, two separators and CRLF. -/
theorem subscribe_lines_iff (env : Env) (k : Calls) (w w' : World) (client : Nat)
    (subject : List UInt8) (max sid : Int) (handleMsg data : Nat) (word : max < 2 ^ 63)
    (run : subscribe env k client subject max handleMsg data w = (.ok sid, w'))
    (positive : 0 < sid) :
    (∃ sub w₀ w₁, SubscribeRun env k client subject max handleMsg data w sub w₀ w₁ w' ∧
      sub.sid = sid ∧
      queuedBytes w₁.log = queuedBytes w.log ++ subscriptionLines subject sid max) ↔
    4 + subject.length + 1 + (decimal (Word.signed (w.nextId + 1)).toNat).length + 2 ≤
      headerSize := by
  obtain ⟨sub, w₀, w₁, parts, rfl⟩ := subscribe_split run positive
  obtain ⟨next, -, -, entered⟩ := enterSubscription_some parts.entered
  have bound : sub.sid < 2 ^ 63 := next ▸ (Word.signed_bounds _).2
  have digits := unsigned_of_positive positive bound
  have begin : (ascii "SUB ").length = 4 := by decide
  have space : (ascii " ").length = 1 := by decide
  have crlf : (ascii "\r\n").length = 2 := by decide
  have length : (subText subject sub.sid).length =
      4 + subject.length + 1 + (decimal sub.sid.toNat).length + 2 := by
    simp only [subText, digits, List.length_append, begin, space, crlf]
  have appended : queuedBytes w₁.log = queuedBytes w.log ++
      (snprintf headerSize (subText subject sub.sid) ++
        if 0 < max then unsubMaxText sub.sid max else []) := by
    have lines := parts.lines
    rw [subscribeLines_eq] at lines
    obtain ⟨-, queued⟩ := appendAll_bytes lines
    rw [queued, entered, subscribeAppends, List.flatMap_cons,
      take_headerOf (by simp [subText, ascii])]
    by_cases limited : 0 < max
    · rw [if_pos limited, if_pos limited, List.flatMap_cons, List.flatMap_nil, List.append_nil,
        take_headerOf (by simp [unsubMaxText, ascii]),
        snprintf_of_fits (unsubMaxText_fits sub.sid max)]
    · rw [if_neg limited, if_neg limited, List.flatMap_nil]
  have expected : subscriptionLines subject sub.sid max =
      subText subject sub.sid ++ if 0 < max then unsubMaxText sub.sid max else [] := by
    unfold subscriptionLines subText unsubMaxText
    by_cases limited : 0 < max
    · rw [if_pos limited, if_pos limited, digits, unsigned_of_positive limited word]
    · rw [if_neg limited, if_neg limited, digits]
  have whole : snprintf headerSize (subText subject sub.sid) = subText subject sub.sid ↔
      (subText subject sub.sid).length ≤ headerSize := by
    constructor
    · intro same
      rw [← same]
      exact List.length_take_le _ _
    · exact snprintf_of_fits
  rw [← next, ← length, ← whole]
  constructor
  · rintro ⟨sub', v₀, v₁, parts', same, queued⟩
    have entered' := parts'.entered
    rw [parts.entered, Prod.mk.injEq, Except.ok.injEq, Option.some.injEq] at entered'
    obtain ⟨rfl, rfl⟩ := entered'
    have lines' := parts'.lines
    rw [parts.lines, Prod.mk.injEq] at lines'
    obtain ⟨-, rfl⟩ := lines'
    rw [appended, expected, List.append_cancel_left_eq, List.append_cancel_right_eq] at queued
    exact queued
  · intro fits
    exact ⟨sub, w₀, w₁, parts, rfl, by rw [appended, expected, fits]⟩

/-- A subject of one byte, with a maximum. -/
theorem subscribe_lines_one :
    (∃ sub w₀ w₁, SubscribeRun granting (calls granting 2) 0 (ascii "a") 5 0 0 greeted sub w₀ w₁
        (subscribe granting (calls granting 2) 0 (ascii "a") 5 0 0 greeted).2 ∧
      sub.sid = 1 ∧
      queuedBytes w₁.log = queuedBytes greeted.log ++ subscriptionLines (ascii "a") 1 5) ↔
    4 + (ascii "a").length + 1 + (decimal (Word.signed (greeted.nextId + 1)).toNat).length + 2 ≤
      headerSize :=
  subscribe_lines_iff granting (calls granting 2) greeted _ 0 (ascii "a") 5 1 0 0 (by decide)
    (Program.run_of_returned (by decide +kernel)) (by decide)

/-- A subject of 600 bytes is cut: its line has no end, and the call returns a sid. -/
theorem subscribe_cut : ¬∀ (env : Env) (k : Calls) (w w' : World) (client : Nat)
    (subject : List UInt8) (max sid : Int) (handleMsg data : Nat), max < 2 ^ 63 →
    subscribe env k client subject max handleMsg data w = (.ok sid, w') → 0 < sid →
    ∃ sub w₀ w₁, SubscribeRun env k client subject max handleMsg data w sub w₀ w₁ w' ∧
      sub.sid = sid ∧
      queuedBytes w₁.log = queuedBytes w.log ++ subscriptionLines subject sid max := by
  intro claim
  obtain ⟨sub, w₀, w₁, parts, sid, queued⟩ := claim granting (calls granting 2) greeted
    (subscribe granting (calls granting 2) 0 (List.replicate 600 97) 0 0 0 greeted).2 0
    (List.replicate 600 97) 0 1 0 0 (by decide) (Program.run_of_returned (by decide +kernel))
    (by decide)
  have entered : w₀ = (enterSubscription granting 0 0 0 0 greeted).2 := by rw [parts.entered]
  have lines := congrArg (fun run => (queuedBytes run.2.log).length) parts.lines
  rw [sid, entered] at lines
  have short : (queuedBytes (subscribeLines granting (List.replicate 600 97) 1 0
      (enterSubscription granting 0 0 0 0 greeted).2).2.log).length =
        (queuedBytes greeted.log).length + 576 := by decide +kernel
  have long : (subscriptionLines (List.replicate 600 97) 1 0).length = 608 := by decide +kernel
  rw [short, queued, List.length_append, long] at lines
  omega

end NgxNats
