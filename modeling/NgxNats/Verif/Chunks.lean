import NgxNats.Verif.StreamReceive

/-!
# Chunk independence

A stream arrives in read events, and in each of them in chunks. However it is cut, the reader ends
where the machine over the stream ends: it handled the same messages, waits or refused the stream,
and where it waits the same bytes are pending in a block of the same size.
-/
namespace NgxNats

open Program (Leads Moves)

/-- What is left of a stream at the boundaries of its messages. -/
inductive Boundary (stream : List UInt8) : List UInt8 → Prop
  | start : Boundary stream stream
  | next {rest : List UInt8} {parsed : Parsed} (before : Boundary stream rest)
    (found : parse (.ofList rest) = .ok parsed) (accepted : 0 < parsed.rc) :
    Boundary stream (rest.drop parsed.rc.toNat)

/-- Every MSG header line of a stream declares a length that fits in a signed word. -/
def DeclaresWords (stream : List UInt8) : Prop :=
  ∀ rest, Boundary stream rest → ∀ max tokens, FrameLine rest max tokens →
    tokens.lenValue rest < 2 ^ 63

/-- The machine is at a boundary of the stream, with a block that can be allocated. -/
structure Cursor.Bounded (stream : List UInt8) (c : Cursor) : Prop where
  boundary : Boundary stream c.rest
  small : c.cap ≤ 2 ^ 62

/-- A turn of the machine leads from a boundary to a boundary. -/
theorem Cursor.Bounded.turn {json : JsonEnv} {stream : List UInt8} {c next : Cursor}
    {said : List ServerMsg} (bounded : c.Bounded stream) (words : DeclaresWords stream)
    (goes : Cursor.turn json c = .go said next) : next.Bounded stream := by
  have limit : maxMessageSize < 2 ^ 61 := by decide
  have small := bounded.small
  have split : c.rest.take (c.cap - 1) ++ c.rest.drop (c.cap - 1) = c.rest :=
    List.take_append_drop _ _
  have short : (c.rest.take (c.cap - 1)).length < 2 ^ 62 := by
    rw [List.length_take]
    omega
  have fit := words c.rest bounded.boundary
  rw [← split] at fit
  obtain ⟨parsed, outcome⟩ := parse_beginning short fit
  unfold Cursor.turn at goes
  rw [outcome.returns] at goes
  dsimp only at goes
  split at goes
  · next positive =>
    have final : parsed.rc ≠ protoAgain := by
      unfold protoAgain
      omega
    have whole := outcome.stable final (c.rest.drop (c.cap - 1))
    rw [split] at whole
    have boundary := bounded.boundary.next whole positive
    split at goes
    · cases goes
      exact ⟨boundary, small⟩
    · cases goes
    · cases goes
  · split at goes
    · cases goes
    · split at goes
      · cases goes
      · split at goes
        · cases goes
        · next below =>
          cases goes
          refine ⟨bounded.boundary, ?_⟩
          have room := (not_or.mp below).2
          show 2 * c.cap ≤ 2 ^ 62
          omega

/-- The machine meets only lengths that the stream declares. -/
theorem lengthsFit_of_declares {json : JsonEnv} {start : Cursor} (small : start.cap ≤ 2 ^ 62)
    (words : DeclaresWords start.rest) : LengthsFit json start := by
  intro said c reaches
  have bounded : c.Bounded start.rest := by
    unfold Turn.Reaches at reaches
    generalize last : (said, c) = there at reaches
    induction reaches generalizing said c with
    | refl =>
      cases last
      exact ⟨.start, small⟩
    | tail _ step ih =>
      cases last
      cases step with
      | go goes => exact (ih _ _ rfl).turn words goes
  exact words c.rest bounded.boundary

section Runs

variable (env : Env) (k : Calls)

/-- The loop of `ngx_nats_read_from_nats` in one read event after the other, each with the chunks
that `c->recv` finds in it; false when the connection was closed. -/
def receiveEvents : List (List (List UInt8)) → Comm Bool
  | [] => return true
  | found :: rest => do
    if ← receive env k (found.map .bytes) then receiveEvents rest else return false

end Runs

/-- A connection that has received nothing yet, in a block that can be allocated. -/
structure Listening (w : World) : Prop where
  fresh : w.log = []
  live : w.live.isSome = true
  formed : w.writeBuf.WellFormed
  pos : w.readBuf.pos = 0
  stop : w.readBuf.end = 0
  doubled : ∃ n, w.readBuf.cap = bufInitSize * 2 ^ n
  small : w.readBuf.cap < 2 ^ 63

/-- Chunks that arrive as they were cut, at handlers that return and keep the connection. -/
structure Receives (env : Env) (depth : Nat) (w : World) (events : List (List (List UInt8))) :
    Prop where
  nonempty : ∀ found ∈ events, ∀ chunk ∈ found, chunk ≠ []
  fair : Fair events.flatten (receiveEvents env (calls env depth) events w).2.log
  returns : ∀ stop, (receiveEvents env (calls env depth) events w).1 = .error stop →
    CallingBack (receiveEvents env (calls env depth) events w).2.log = false

/-- The ends of two runs of the reader: the same messages, the same decision, and the same bytes
pending in blocks of one size where the connection stays open. -/
structure Alike (first second : Except Fault Bool × World) : Prop where
  heard : heard first.2.log = heard second.2.log
  stays : first.1 = .ok true ↔ second.1 = .ok true
  refused : refused first.2.log = refused second.2.log
  pending : first.1 = .ok true → first.2.readBuf.pending = second.2.readBuf.pending
  cap : first.1 = .ok true → first.2.readBuf.cap = second.2.readBuf.cap

section Stream

variable {env : Env} {k : Calls} {json : JsonEnv} {start : Cursor} {chunks : List (List UInt8)}
  {w : World}

/-- A block of a doubled capacity that can be allocated. -/
theorem Listening.allocated (listening : Listening w) :
    bufInitSize ≤ w.readBuf.cap ∧ w.readBuf.cap ≤ 2 ^ 62 := by
  obtain ⟨n, doubled⟩ := listening.doubled
  have small := listening.small
  have power : w.readBuf.cap = 2 ^ (12 + n) := by
    rw [doubled, Nat.pow_add]
    rfl
  rw [power] at small
  have exponent : 12 + n < 63 := (Nat.pow_lt_pow_iff_right Nat.one_lt_two).mp small
  have positive : 0 < 2 ^ n := Nat.two_pow_pos n
  constructor
  · rw [doubled]
    exact Nat.le_mul_of_pos_right _ positive
  · rw [power]
    exact Nat.pow_le_pow_right (by decide) (by omega)

/-- Before the first chunk the reader is at rest where the stream starts. -/
theorem Listening.atRest (listening : Listening w) (chunks : List (List UInt8)) :
    AtRest json ⟨w.readBuf.cap, w.nc.told, chunks.flatten⟩ chunks w := by
  obtain ⟨least, small⟩ := listening.allocated
  have pos := listening.pos
  have stop := listening.stop
  have none : w.readBuf.pending = [] := Buf.pending_of_drained (pos.trans stop.symm)
  have cursor : w.cursor = ⟨w.readBuf.cap, w.nc.told, []⟩ := by
    unfold World.cursor
    rw [none]
  have enough : 1 < w.readBuf.cap := by
    simp only [bufInitSize] at least
    omega
  refine ⟨⟨listening.formed, fun _ => ?_⟩, fun _ => by omega, fun _ => ?_⟩
  · refine ⟨listening.live, ⟨by omega, by omega⟩, by omega, least, small, ?_, ?_⟩
    · rw [cursor, listening.fresh]
      exact Turn.Reaches.start _
    · rw [listening.fresh]
      rfl
  · rw [cursor]
    exact turn_empty _ enough

/-- The read events of a stream leave the reader at rest, or the stream was refused. -/
theorem receiveEvents_rests (provides : Provides env json) (calls : CallsAttend k json start chunks)
    (acts : CallsAct env k) (fit : LengthsFit json start) (rest : AtRest json start chunks w)
    {events : List (List (List UInt8))}
    (nonempty : ∀ found ∈ events, ∀ chunk ∈ found, chunk ≠ [])
    (due : Fair chunks w.log → Due chunks events.flatten.length w) :
    Leads (receiveEvents env k events) w (Heeded json start chunks 0)
      (Stopped json start chunks) := by
  induction events generalizing w with
  | nil => exact Leads.pure ⟨rest, due⟩
  | cons found later ih =>
    have next (fair : Fair chunks w.log) :
        Due chunks (found.length + later.flatten.length) w := by
      rw [← List.length_append]
      exact due fair
    have here := nonempty found List.mem_cons_self
    have after (other : List (List UInt8)) (inside : other ∈ later) : ∀ chunk ∈ other, chunk ≠ [] :=
      nonempty other (List.mem_cons_of_mem _ inside)
    apply Leads.bind (receive_rests provides calls acts fit rest here next)
    intro went w₁ heeded
    cases went with
    | true => exact ih heeded.1 after heeded.2
    | false => exact Leads.pure heeded

/-- How a run over a stream ends: as the machine does. -/
inductive Finished (json : JsonEnv) (start : Cursor) (result : Except Fault Bool) (last : World) :
    Prop
  | waits (stays : result = .ok true) (unrefused : refused last.log = false)
    (halts : Turn.Halts (Cursor.turn json) start (heard last.log) (.waits last.cursor))
  | refuses (leaves : result ≠ .ok true) (refuses : Refuses json start last.log)
  | crashes (leaves : result ≠ .ok true) (crashes : Crashes json start last.log)

/-- The reader waits where the machine waits. -/
theorem AtRest.halts (rest : AtRest json start chunks w) (fair : Fair chunks w.log)
    (due : Due chunks 0 w) :
    Turn.Halts (Cursor.turn json) start (heard w.log) (.waits w.cursor) := by
  have none : chunks.length ≤ (receivedChunks w.log).length := due
  have all : unread chunks w.log = [] := by
    unfold unread
    rw [List.drop_eq_nil_of_le none, List.flatten_nil]
  have reaches := (rest.abreast fair).reaches
  rw [all, Cursor.feed_nil] at reaches
  have halts := reaches.stop (rest.waits fair)
  rwa [List.append_nil] at halts

/-- However a stream is cut, the reader ends where the machine over the stream ends. -/
theorem receiveEvents_ended {depth : Nat} (provides : Provides env json) (listening : Listening w)
    {events : List (List (List UInt8))} (words : DeclaresWords events.flatten.flatten)
    (receives : Receives env depth w events) :
    Finished json ⟨w.readBuf.cap, w.nc.told, events.flatten.flatten⟩
      (receiveEvents env (calls env depth) events w).1
      (receiveEvents env (calls env depth) events w).2 := by
  have fit : LengthsFit json ⟨w.readBuf.cap, w.nc.told, events.flatten.flatten⟩ :=
    lengthsFit_of_declares listening.allocated.2 words
  have due : Due events.flatten events.flatten.length w := Nat.le_add_left _ _
  have leads := receiveEvents_rests provides (calls_attend env depth) (calls_act env depth) fit
    (listening.atRest events.flatten) receives.nonempty fun _ => due
  have fair := receives.fair
  have returns := receives.returns
  unfold Leads at leads
  generalize receiveEvents env (calls env depth) events w = run at leads fair returns ⊢
  obtain ⟨result, last⟩ := run
  cases result with
  | ok went =>
    cases went with
    | true => exact .waits rfl (leads.1.abreast fair).unrefused (leads.1.halts fair (leads.2 fair))
    | false => exact .refuses (by simp) (leads.holds fair)
  | error stop =>
    rcases leads fair with calling | refuses | crashes
    · cases (returns stop rfl).symm.trans calling
    · exact .refuses nofun refuses
    · exact .crashes nofun crashes

/-- Two runs that end as one machine does are alike. -/
theorem Finished.alike {first second : Except Fault Bool} {last last' : World}
    (one : Finished json start first last) (other : Finished json start second last') :
    Alike (first, last) (second, last') := by
  cases one with
  | waits stays unrefused halts =>
    cases other with
    | waits stays' unrefused' halts' =>
      obtain ⟨heard, verdict⟩ := halts.unique halts'
      have cursor := Verdict.waits.inj verdict
      exact ⟨heard, iff_of_true stays stays', unrefused.trans unrefused'.symm,
        fun _ => congrArg Cursor.rest cursor, fun _ => congrArg Cursor.cap cursor⟩
    | refuses _ refuses => cases (halts.unique refuses.halts).2
    | crashes _ crashes => cases (halts.unique crashes.halts).2
  | refuses leaves refuses =>
    cases other with
    | waits _ _ halts => cases (refuses.halts.unique halts).2
    | refuses leaves' refuses' =>
      exact ⟨(refuses.halts.unique refuses'.halts).1, iff_of_false leaves leaves',
        refuses.refused.trans refuses'.refused.symm, fun stays => absurd stays leaves,
        fun stays => absurd stays leaves⟩
    | crashes _ crashes => cases (refuses.halts.unique crashes.halts).2
  | crashes leaves crashes =>
    cases other with
    | waits _ _ halts => cases (crashes.halts.unique halts).2
    | refuses _ refuses => cases (crashes.halts.unique refuses.halts).2
    | crashes leaves' crashes' =>
      exact ⟨(crashes.halts.unique crashes'.halts).1, iff_of_false leaves leaves',
        crashes.unrefused.trans crashes'.unrefused.symm, fun stays => absurd stays leaves,
        fun stays => absurd stays leaves⟩

/-- Chunk independence of the reader. -/
theorem chunk_independent {env' : Env} {depth depth' : Nat} (provides : Provides env json)
    (provides' : Provides env' json) (listening : Listening w)
    {events events' : List (List (List UInt8))}
    (same : events.flatten.flatten = events'.flatten.flatten)
    (words : DeclaresWords events.flatten.flatten) (receives : Receives env depth w events)
    (receives' : Receives env' depth' w events') :
    Alike (receiveEvents env (calls env depth) events w)
      (receiveEvents env' (calls env' depth') events' w) := by
  have first := receiveEvents_ended provides listening words receives
  have second := receiveEvents_ended provides' listening (same ▸ words) receives'
  rw [← same] at second
  exact first.alike second

end Stream

/-- A connection that was just opened. -/
def listened : World := { reached granting 1 [.init] (fun _ => 0) (fun _ => 0) with log := [] }

/-- A stream without MSG frames declares no length. -/
theorem declaresWords_ping : DeclaresWords (ascii "PING\r\n") := by
  have ends {rest : List UInt8} (boundary : Boundary (ascii "PING\r\n") rest) :
      rest = ascii "PING\r\n" ∨ rest = [] := by
    induction boundary with
    | start => exact .inl rfl
    | next before found accepted ih =>
      rcases ih with rfl | rfl
      · have run : parse (.ofList (ascii "PING\r\n")) =
            .ok ⟨6, { type := .ping }, ascii "PING\r\n"⟩ := by decide +kernel
        cases run.symm.trans found
        exact .inr (by decide +kernel)
      · have run : parse (.ofList []) = .ok ⟨protoAgain, {}, []⟩ := rfl
        cases run.symm.trans found
        cases accepted
  intro rest boundary max tokens frame
  rcases ends boundary with rfl | rfl
  · cases frame.keyword
  · cases frame.keyword

/-- A connection that was just opened listens. -/
theorem listening_listened : Listening listened where
  fresh := rfl
  live := by decide +kernel
  formed := reached_formed granting 1 [.init] (fun _ => 0) fun _ => 0
  pos := by decide +kernel
  stop := by decide +kernel
  doubled := ⟨0, by decide +kernel⟩
  small := by decide +kernel

/-- A run that returns receives its chunks when they arrive as they were cut. -/
theorem receives_of_run {events : List (List (List UInt8))}
    (nonempty : ∀ found ∈ events, ∀ chunk ∈ found, chunk ≠ [])
    (returned : (receiveEvents granting (calls granting 1) events listened).1 = .ok true)
    (stay : History.Throughout HandlersStay
      (receiveEvents granting (calls granting 1) events listened).2.log)
    (whole : receivedChunks (receiveEvents granting (calls granting 1) events listened).2.log <+:
      events.flatten) : Receives granting 1 listened events where
  nonempty := nonempty
  fair := ⟨stay, whole⟩
  returns stop failed := by cases returned.symm.trans failed

/-- A PING that is cut in two places. -/
theorem chunk_independent_ping :
    Alike (receiveEvents granting (calls granting 1) [[ascii "PI", ascii "NG\r\n"]] listened)
      (receiveEvents granting (calls granting 1) [[ascii "PING\r"], [ascii "\n"]] listened) := by
  have provides : Provides granting (granting.json 0) :=
    ⟨fun _ _ => rfl, fun _ => rfl, fun _ => rfl⟩
  have first : Receives granting 1 listened [[ascii "PI", ascii "NG\r\n"]] := by
    apply receives_of_run
    all_goals decide +kernel
  have second : Receives granting 1 listened [[ascii "PING\r"], [ascii "\n"]] := by
    apply receives_of_run
    all_goals decide +kernel
  exact chunk_independent provides provides listening_listened rfl declaresWords_ping first second

end NgxNats
