import NgxNats.Lib.Broker
import NgxNats.Verif.Lifetime
import NgxNats.Verif.SurvivalRuns

/-!
# Handing messages over

The module as a broker. Clients subscribe and unsubscribe, connections are closed, and the server
sends MSG frames; what the message handlers are called with is what a broker hands over for these
actions. So a subscription gets the first frames that carry its sid, as many as its maximum allows,
until it is removed or its connection is closed.
-/
namespace NgxNats

open History (Throughout)
open Program (Leads Moves)

/-- The events of a MSG frame: it is taken, looked up and handed over. -/
def Event.framing : Event → Bool
  | .handled message => decide (message.type = .msg)
  | .msg .. | .delivered .. => true
  | _ => false

/-- What follows the look-up of a frame: it is handed to the subscription that was found, unless the
memory for its message is refused. -/
inductive Handing (env : Env) (msg : ServerMsg) (subs : List Subscription) : List Event → Prop
  | unknown (unknown : entryOf subs msg.sid = none) : Handing env msg subs []
  | refused {sub : Subscription} (found : entryOf subs msg.sid = some sub) (tick : Nat)
    (refused : env.createPool tick = false ∨ env.pcalloc tick = false) : Handing env msg subs []
  | handed {sub : Subscription} (found : entryOf subs msg.sid = some sub) :
    Handing env msg subs [.delivered sub sub.handleMsg (messageOf sub msg)]

/-- A log in which every frame is looked up and handed over at once. -/
inductive Framed (env : Env) : List Event → Prop
  | start : Framed env []
  | next {log : List Event} {event : Event} (framed : Framed env log)
    (other : event.framing = false) : Framed env (log ++ [event])
  | frame {log handed : List Event} {msg : ServerMsg} {subs : List Subscription}
    (framed : Framed env log) (type : msg.type = .msg) (handing : Handing env msg subs handed) :
    Framed env (log ++ .handled msg :: .msg msg.sid subs :: handed)

variable {env : Env} {k : Calls} {w w' : World} {events log : List Event} {event : Event}

/-- An event besides the connection begins and ends no frame. -/
theorem unframing_of_beside (beside : event.beside = true) : event.framing = false := by
  cases event with
  | handled => cases beside
  | msg => cases beside
  | delivered => cases beside
  | _ => rfl

/-- An event of the reader begins and ends no frame. -/
theorem unframing_of_reads (reads : event.reads = true) : event.framing = false := by
  cases event with
  | handled => cases reads
  | msg => cases reads
  | delivered => cases reads
  | _ => rfl

/-- An event of a flush begins and ends no frame. -/
theorem unframing_of_sends (sends : event.sends = true) : event.framing = false := by
  cases event with
  | handled => cases sends
  | msg => cases sends
  | delivered => cases sends
  | _ => rfl

/-- The outcome of an append begins and ends no frame. -/
theorem unframing_of_append (rc : Int) (message : List UInt8) (size : Nat) :
    (appendEvent rc message size).framing = false := by
  unfold appendEvent
  split
  · rfl
  · rfl

/-- Events that have nothing to do with frames. -/
theorem Framed.extend (framed : Framed env log)
    (others : ∀ event ∈ events, event.framing = false) : Framed env (log ++ events) := by
  induction events using List.reverseRecOn with
  | nil =>
    rw [List.append_nil]
    exact framed
  | append_singleton rest event ih =>
    have earlier := ih fun other inside => others other (List.mem_append_left _ inside)
    rw [← List.append_assoc]
    exact earlier.next (others event (by simp))

/-- A log with its frames whole. -/
structure Frames (env : Env) (w : World) : Prop where
  formed : w.writeBuf.WellFormed
  framed : Framed env w.log

/-- The log has its frames whole. -/
def FramedLog (env : Env) (w : World) : Prop := Framed env w.log

/-- Events that have nothing to do with frames. -/
theorem Frames.extend (frames : Frames env w) (formed : w'.writeBuf.WellFormed)
    (log : w'.log = w.log ++ events) (others : ∀ event ∈ events, event.framing = false) :
    Frames env w' :=
  ⟨formed, log ▸ frames.framed.extend others⟩

/-- A change that reports nothing. -/
theorem Frames.same (frames : Frames env w) (formed : w'.writeBuf.WellFormed)
    (log : w'.log = w.log) : Frames env w' :=
  ⟨formed, log ▸ frames.framed⟩

/-- One event that has nothing to do with frames. -/
theorem Frames.next (frames : Frames env w) (formed : w'.writeBuf.WellFormed)
    (log : w'.log = w.log ++ [event]) (other : event.framing = false) : Frames env w' :=
  ⟨formed, log ▸ frames.framed.next other⟩

/-- A frame, with what follows its look-up. -/
theorem Frames.frame {msg : ServerMsg} {handed : List Event} {subs : List Subscription}
    (frames : Frames env w) (formed : w'.writeBuf.WellFormed) (type : msg.type = .msg)
    (handing : Handing env msg subs handed)
    (log : w'.log = w.log ++ .handled msg :: .msg msg.sid subs :: handed) : Frames env w' :=
  ⟨formed, log ▸ frames.framed.frame type handing⟩

/-- A frame is handed over at once. -/
theorem Frames.hands (frames : Frames env w) {msg : ServerMsg} (type : msg.type = .msg) :
    Leads (handOver env msg) { w with log := w.log ++ [.handled msg] } (fun _ => Frames env)
      (FramedLog env) := by
  have taken (handed : List Event) : w.log ++ .handled msg :: .msg msg.sid w.subs :: handed =
      w.log ++ [.handled msg] ++ [.msg msg.sid w.subs] ++ handed := by
    simp only [List.append_assoc, List.cons_append, List.nil_append]
  cases found : getSubscription w.subs msg.sid with
  | none =>
    have run : countMsg msg.sid { w with log := w.log ++ [.handled msg] } = _ :=
      countMsg_unknown found
    apply Leads.of_run (Program.bind_ok run)
    apply Leads.pure
    refine frames.frame frames.formed type (.unknown (getSubscription_none found)) ?_
    rw [taken, List.append_nil]
  | some i =>
    obtain ⟨sub, entry, -, known⟩ := getSubscription_some found
    have run : countMsg msg.sid { w with log := w.log ++ [.handled msg] } = _ :=
      countMsg_found found entry
    apply Leads.of_run (Program.bind_ok run)
    apply Leads.of_run (ask_bind _ env.createPool _)
    cases pool : env.createPool w.clock with
    | false =>
      apply Leads.pure
      refine frames.frame frames.formed type (.refused known w.clock (.inl pool)) ?_
      rw [taken, List.append_nil]
    | true =>
      apply Leads.of_run (ask_bind _ env.pcalloc _)
      cases granted : env.pcalloc (w.clock + 1) with
      | false =>
        apply Leads.pure
        refine frames.frame frames.formed type (.refused known (w.clock + 1) (.inr granted)) ?_
        rw [taken, List.append_nil]
      | true =>
        apply Leads.of_run (emit_bind _ _ _)
        apply Leads.pure
        refine frames.frame frames.formed type (.handed known) ?_
        rw [taken]

/-- Appends have nothing to do with frames. -/
theorem frames_append (env : Env) : Appends env (Frames env) (FramedLog env) where
  faults frames := frames.framed
  beside := by
    intro w w' frames beside
    obtain ⟨events, log, besides⟩ := beside.log
    exact frames.extend (beside.writeBuf ▸ frames.formed) log
      fun event inside => unframing_of_beside (besides event inside)
  append _ _ _ _ frames _ _ added :=
    frames.next (frames.formed.add added).2 rfl (unframing_of_append _ _ _)

/-- Every step of the module keeps frames whole. -/
theorem frames_persist (env : Env) :
    Whole.Persists env (fun _ => True) (Frames env) (FramedLog env) where
  formed frames := frames.formed
  faults frames := frames.framed
  scripts _ _ _ _ := trivial
  beside := (frames_append env).beside
  published _ _ _ _ frames serves _ _ := (frames_append env).publishFrame frames serves _ _ _
  subscribed _ _ _ _ _ _ frames serves _ := (frames_append env).subscribeLines frames serves _ _ _
  unsubscribed _ frames serves := (frames_append env).addHeader frames serves _
  taken msg frames other := frames.next frames.formed rfl (decide_eq_false other)
  handed _ frames type := frames.hands type
  rejected frames := frames.next frames.formed rfl rfl
  informed _ frames _ _ _ := frames.same frames.formed rfl
  reply _ _ _ _ frames _ _ added :=
    frames.next (frames.formed.add added).2 rfl (unframing_of_append _ _ _)
  ready _ _ frames _ _ _ := frames.next frames.formed rfl rfl
  initiate := by
    intro w rc b frames _ added
    refine frames.extend (frames.formed.add added).2 rfl fun event inside => ?_
    rcases List.mem_pair.mp inside with rfl | rfl
    · rfl
    · exact unframing_of_append _ _ _
  flushed := by
    intro w w' ending frames flushed
    obtain ⟨events, log, sends⟩ := flushed.log
    exact frames.extend (flushed.formed frames.formed) log
      fun event inside => unframing_of_sends (sends event inside)
  dangling frames _ := frames.framed
  shut := by
    intro w c frames _
    refine frames.extend frames.formed rfl ?_
    split
    · simp [Event.framing]
    · exact List.forall_mem_nil _
  abandoned _ frames := frames.next frames.formed.reset rfl rfl
  unallocated frames := frames.next frames.formed.reset rfl rfl
  unindexed frames := frames.framed
  opened _ frames := frames.next frames.formed.reset rfl rfl
  wired _ _ frames _ _ := frames.same frames.formed rfl
  filled _ frames := frames.same frames.formed rfl
  checked frames _ := frames.same frames.formed rfl
  noted _ frames reads := frames.next frames.formed rfl (unframing_of_reads reads)
  timed frames _ _ := frames.same frames.formed rfl
  expired frames _ := frames.next frames.formed rfl rfl

/-- In every run every frame is looked up and handed over at once. -/
theorem reached_framed (env : Env) (depth : Nat) (steps : List Step) (read write : Memory UInt8) :
    Framed env (reached env depth steps read write).log := by
  have start : Frames env (.start read write) := ⟨start_formed read write, .start⟩
  have run := (frames_persist env).run depth start steps fun _ _ => trivial
  exact (run.weaken (fun _ _ frames => frames.framed) fun _ => id).last

/-- The events inside of a frame that was taken. -/
def Event.inner : Event → Bool
  | .msg .. | .delivered .. => true
  | _ => false

/-- What follows the look-up of a frame is inside of it. -/
theorem Handing.inner {msg : ServerMsg} {subs : List Subscription} {handed : List Event}
    (handing : Handing env msg subs handed) :
    ∀ event ∈ Event.msg msg.sid subs :: handed, event.inner = true := by
  cases handing with
  | unknown => simp [Event.inner]
  | refused => simp [Event.inner]
  | handed => simp [Event.inner]

/-- All events of a frame have to do with it. -/
theorem Handing.framing {msg : ServerMsg} {subs : List Subscription} {handed : List Event}
    (handing : Handing env msg subs handed) (type : msg.type = .msg) :
    ∀ event ∈ Event.handled msg :: .msg msg.sid subs :: handed, event.framing = true := by
  cases handing with
  | unknown => simp [Event.framing, type]
  | refused => simp [Event.framing, type]
  | handed => simp [Event.framing, type]

/-- An event that has nothing to do with frames is not inside of one. -/
theorem outer_of_unframing (other : event.framing = false) : event.inner = false := by
  cases event with
  | msg => cases other
  | delivered => cases other
  | _ => rfl

/-- The frame around an event of a log, and what comes before and after it. -/
structure Around (env : Env) (log : List Event) (event : Event) (after : List Event) where
  earlier : List Event
  framed : Framed env earlier
  msg : ServerMsg
  type : msg.type = .msg
  subs : List Subscription
  handed : List Event
  handing : Handing env msg subs handed
  first : List Event
  last : List Event
  frame : .handled msg :: .msg msg.sid subs :: handed = first ++ event :: last
  before : log = earlier ++ first
  rest : List Event
  later : after = last ++ rest
  outer : ∀ next ∈ rest.head?, next.inner = false

/-- What a longer log adds comes after the frame. -/
def Around.extend {after more : List Event} (around : Around env log event after)
    (outer : ∀ next ∈ more.head?, next.inner = false) : Around env log event (after ++ more) :=
  { around with
    rest := around.rest ++ more
    later := by rw [← List.append_assoc, ← around.later]
    outer := by
      have ends := around.outer
      cases found : around.rest with
      | nil => exact outer
      | cons next rest =>
        rw [found] at ends
        exact ends }

/-- Every event that has to do with frames has its frame around it. -/
theorem Framed.around {after : List Event} (framed : Framed env (log ++ event :: after))
    (framing : event.framing = true) : Nonempty (Around env log event after) := by
  generalize same : log ++ event :: after = whole at framed
  induction framed generalizing after with
  | start => cases List.append_eq_nil_iff.mp same with | intro _ absurd => cases absurd
  | @next earlier final framed other ih =>
    rcases List.eq_nil_or_concat after with rfl | ⟨later, last, rfl⟩
    · obtain ⟨-, rfl⟩ := List.append_singleton_inj.mp same
      exact absurd (other.symm.trans framing) Bool.false_ne_true
    · rw [List.concat_eq_append, ← List.cons_append, ← List.append_assoc] at same
      obtain ⟨shorter, rfl⟩ := List.append_singleton_inj.mp same
      obtain ⟨around⟩ := ih shorter
      rw [List.concat_eq_append]
      refine ⟨around.extend ?_⟩
      intro next found
      cases found
      exact outer_of_unframing other
  | @frame earlier handed msg subs framed type handing ih =>
    have here (first : List Event) (before : log = earlier ++ first)
        (split : .handled msg :: .msg msg.sid subs :: handed = first ++ event :: after) :
        Nonempty (Around env log event after) :=
      ⟨⟨earlier, framed, msg, type, subs, handed, handing, first, after, split, before, [],
        (List.append_nil after).symm, fun _ found => absurd found (Option.not_mem_none _)⟩⟩
    rcases List.append_eq_append_iff.mp same with ⟨more, whole, split⟩ | ⟨more, before, split⟩
    · cases more with
      | nil =>
        rw [List.append_nil] at whole
        exact here [] (by rw [whole, List.append_nil]) split.symm
      | cons next more =>
        injection split with next split
        subst next
        obtain ⟨around⟩ := ih whole.symm
        rw [split]
        refine ⟨around.extend ?_⟩
        intro next found
        cases found
        rfl
    · exact here more before split

/-- A log with its frames whole, up to an event that has nothing to do with frames. -/
theorem Framed.until {rest : List Event} (framed : Framed env (log ++ event :: rest))
    (other : event.framing = false) : Framed env log := by
  generalize same : log ++ event :: rest = whole at framed
  induction framed generalizing rest with
  | start => cases List.append_eq_nil_iff.mp same with | intro _ absurd => cases absurd
  | @next earlier last framed _ ih =>
    rcases List.eq_nil_or_concat rest with rfl | ⟨later, final, rfl⟩
    · obtain ⟨rfl, -⟩ := List.append_singleton_inj.mp same
      exact framed
    · rw [List.concat_eq_append, ← List.cons_append, ← List.append_assoc] at same
      obtain ⟨same, -⟩ := List.append_singleton_inj.mp same
      exact ih same
  | @frame earlier handed msg subs framed type handing ih =>
    rcases List.append_eq_append_iff.mp same with ⟨more, rfl, split⟩ | ⟨more, rfl, split⟩
    · cases more with
      | nil =>
        rw [List.append_nil] at framed
        exact framed
      | cons first more =>
        injection split with here split
        subst here
        exact ih rfl
    · have inside : event ∈ Event.handled msg :: .msg msg.sid subs :: handed := by
        rw [split]
        simp
      exact absurd (other.symm.trans (handing.framing type event inside)) Bool.false_ne_true

/-- What follows a frame that arrives: it is looked up and handed over, and nothing more comes of
it. -/
theorem Framed.arrives {msg : ServerMsg} {after : List Event}
    (framed : Framed env (log ++ .handled msg :: after)) (type : msg.type = .msg) :
    Framed env log ∧ ∃ subs handed rest, after = .msg msg.sid subs :: handed ++ rest ∧
      Handing env msg subs handed ∧ ∀ next ∈ rest.head?, next.inner = false := by
  obtain ⟨around⟩ := framed.around (decide_eq_true type)
  have frame := around.frame
  cases first : around.first with
  | nil =>
    rw [first] at frame
    injection frame with taken looked
    injection taken with same
    have before := around.before
    rw [first, List.append_nil] at before
    have handing := around.handing
    rw [same] at looked handing
    refine ⟨before ▸ around.framed, around.subs, around.handed, around.rest, ?_, handing,
      around.outer⟩
    rw [looked]
    exact around.later
  | cons other first' =>
    rw [first] at frame
    injection frame with _ looked
    have inside : .handled msg ∈ Event.msg around.msg.sid around.subs :: around.handed := by
      rw [looked]
      simp
    exact absurd (around.handing.inner _ inside) Bool.false_ne_true

/-- The only call of a frame is for the subscription that was found. -/
theorem Handing.called {msg : ServerMsg} {subs : List Subscription} {first last : List Event}
    {found : Subscription} {handler : Nat} {message : Message}
    (handing : Handing env msg subs (first ++ .delivered found handler message :: last)) :
    first = [] ∧ handler = found.handleMsg ∧ message = messageOf found msg := by
  generalize same : first ++ .delivered found handler message :: last = handed at handing
  cases handing with
  | unknown => exact absurd (List.append_eq_nil_iff.mp same).2 (List.cons_ne_nil _ _)
  | refused => exact absurd (List.append_eq_nil_iff.mp same).2 (List.cons_ne_nil _ _)
  | handed =>
    cases first with
    | nil =>
      injection same with call
      injection call with found handler message
      subst found
      exact ⟨rfl, handler, message⟩
    | cons other first =>
      injection same with _ more
      exact absurd (List.append_eq_nil_iff.mp more).2 (List.cons_ne_nil _ _)

/-- Handlers are called for arriving frames, directly after their look-up. -/
theorem Framed.called {found : Subscription} {handler : Nat} {message : Message}
    {after : List Event} (framed : Framed env (log ++ .delivered found handler message :: after)) :
    ∃ earlier msg subs, log = earlier ++ [.handled msg, .msg msg.sid subs] ∧ msg.type = .msg ∧
      message = messageOf found msg := by
  obtain ⟨around⟩ := framed.around rfl
  refine ⟨around.earlier, around.msg, around.subs, ?_⟩
  have frame := around.frame
  have before := around.before
  have handing := around.handing
  -- The call is the third event of the frame.
  generalize around.first = first at frame before
  rcases first with - | ⟨taken, - | ⟨looked, others⟩⟩
  · injection frame with absurd
    cases absurd
  · injection frame with _ frame
    injection frame with absurd
    cases absurd
  · injection frame with one frame
    injection frame with two frame
    rw [frame] at handing
    obtain ⟨alone, -, message⟩ := handing.called
    rw [alone, ← one, ← two] at before
    exact ⟨before, around.type, message⟩

/-- The frames with a sid that arrived. -/
def framesFor (sid : Int) (events : List Event) : List ServerMsg :=
  events.filterMap fun
    | .handled message => if message.type = .msg ∧ message.sid = sid then some message else none
    | _ => none

/-- The frames for a sid in two logs are those in the one and those in the other. -/
theorem framesFor_append (sid : Int) (log events : List Event) :
    framesFor sid (log ++ events) = framesFor sid log ++ framesFor sid events :=
  List.filterMap_append

/-- A frame that arrives is counted when it is looked up. -/
theorem Handing.counted {msg : ServerMsg} {subs : List Subscription} {handed : List Event}
    (handing : Handing env msg subs handed) (type : msg.type = .msg) (sid : Int) :
    (Event.handled msg :: .msg msg.sid subs :: handed).countP (Event.frames sid) =
      (framesFor sid (.handled msg :: .msg msg.sid subs :: handed)).length := by
  have silent : handed.countP (Event.frames sid) = 0 ∧ framesFor sid handed = [] := by
    cases handing with
    | unknown => exact ⟨rfl, rfl⟩
    | refused => exact ⟨rfl, rfl⟩
    | handed => exact ⟨rfl, rfl⟩
  have taken : framesFor sid (.handled msg :: .msg msg.sid subs :: handed) =
      framesFor sid [.handled msg, .msg msg.sid subs] ++ framesFor sid handed :=
    framesFor_append sid [_, _] handed
  rw [taken, silent.2, List.append_nil, List.countP_cons, List.countP_cons, silent.1]
  by_cases same : msg.sid = sid
  · simp [framesFor, Event.frames, type, same]
  · simp [framesFor, Event.frames, type, same]

/-- The frames that arrived are counted when they are looked up. -/
theorem Framed.counted (framed : Framed env log) (sid : Int) :
    log.countP (Event.frames sid) = (framesFor sid log).length := by
  induction framed with
  | start => rfl
  | @next log event framed other ih =>
    have none : [event].countP (Event.frames sid) = (framesFor sid [event]).length := by
      cases event with
      | handled message =>
        have odd : message.type ≠ .msg := of_decide_eq_false other
        simp [framesFor, Event.frames, odd]
      | msg => cases other
      | _ => rfl
    rw [List.countP_append, framesFor_append, List.length_append, ih, none]
  | frame framed type handing ih =>
    rw [List.countP_append, framesFor_append, List.length_append, ih, handing.counted type]

/-- So are those that arrived after some event. -/
theorem Framed.counted_after {events : List Event} (framed : Framed env log)
    (later : Framed env (log ++ events)) (sid : Int) :
    events.countP (Event.frames sid) = (framesFor sid events).length := by
  have whole := later.counted sid
  rw [List.countP_append, framesFor_append, List.length_append, framed.counted] at whole
  exact Nat.add_left_cancel whole

/-- What directly follows a frame that arrives: it is looked up, and this handler is called. -/
def CalledWith (msg : ServerMsg) (handler : Nat) (message : Message) (after : List Event) : Prop :=
  ∃ subs found rest, after = .msg msg.sid subs :: .delivered found handler message :: rest

/-- With the memory for its message granted, a frame calls the handler of the subscription that is
found for it. -/
theorem Handing.calls {msg : ServerMsg} {subs : List Subscription} {handed rest : List Event}
    (handing : Handing env msg subs handed)
    (granted : ∀ tick, env.createPool tick = true ∧ env.pcalloc tick = true)
    (outer : ∀ next ∈ rest.head?, next.inner = false) :
    ((∃ handler message, CalledWith msg handler message (.msg msg.sid subs :: handed ++ rest)) ↔
      (entryOf subs msg.sid).isSome) ∧
    ∀ handler message, CalledWith msg handler message (.msg msg.sid subs :: handed ++ rest) →
      ∃ found, entryOf subs msg.sid = some found ∧ handler = found.handleMsg ∧
        message = messageOf found msg := by
  cases handing with
  | unknown unknown =>
    have uncalled : ∀ handler message,
        ¬CalledWith msg handler message (.msg msg.sid subs :: [] ++ rest) := by
      rintro handler message ⟨subs', found, more, same⟩
      injection same with _ same
      have next : rest = .delivered found handler message :: more := same
      have inner := outer (.delivered found handler message) (by rw [next]; rfl)
      cases inner
    rw [unknown]
    constructor
    · constructor
      · rintro ⟨handler, message, called⟩
        exact absurd called (uncalled handler message)
      · exact fun absurd => by cases absurd
    · exact fun handler message called => absurd called (uncalled handler message)
  | refused found tick refused =>
    rw [(granted tick).1, (granted tick).2] at refused
    rcases refused with absurd | absurd
    · cases absurd
    · cases absurd
  | @handed sub found =>
    rw [found]
    constructor
    · exact iff_of_true ⟨_, _, subs, sub, rest, rfl⟩ rfl
    · rintro handler message ⟨subs', other, more, same⟩
      injection same with _ same
      injection same with call _
      injection call with _ handler message
      exact ⟨sub, rfl, handler.symm, message.symm⟩

/-- A subscription gets its handler called for the first frames that arrive for it. -/
structure FirstFrames (log : List Event) : Prop where
  /-- Until a subscription is dropped, an arriving frame with its sid calls its handler with its
  message if and only if the frames that arrived before have not reached its maximum. -/
  first : ∀ before sub during msg after,
    log = before ++ .subscribed sub :: during ++ .handled msg :: after →
    msg.type = .msg → msg.sid = sub.sid → (∀ event ∈ during, event.drops sub.sid = false) →
    ((∃ handler message, CalledWith msg handler message after) ↔
      (0 < sub.max → ((framesFor sub.sid during).length : Int) < sub.max)) ∧
    ∀ handler message, CalledWith msg handler message after →
      handler = sub.handleMsg ∧ message = messageOf sub msg
  /-- Handlers are called for arriving frames only, once for each. -/
  only : ∀ before found handler message after,
    log = before ++ .delivered found handler message :: after →
    ∃ earlier msg subs, before = earlier ++ [.handled msg, .msg msg.sid subs] ∧ msg.type = .msg ∧
      message.sid = msg.sid

section Runs

variable (env : Env) (depth : Nat) (steps : List Step) (read write : Memory UInt8)

/-- In every run in which the memory for messages is granted and the registry follows the log, a
subscription gets its handler called for the first frames that arrive for it. -/
theorem reached_firstFrames
    (granted : ∀ tick, env.createPool tick = true ∧ env.pcalloc tick = true)
    (registered : Throughout Registered (reached env depth steps read write).log) :
    FirstFrames (reached env depth steps read write).log := by
  have framed := reached_framed env depth steps read write
  constructor
  · intro before sub during msg after split type same undropped
    rw [split] at framed registered
    obtain ⟨whole, subs, handed, rest, rfl, handing, outer⟩ := framed.arrives type
    have entered : sub.sid = numbered before + 1 ∧ _ :=
      registered.left before (.subscribed sub) during rfl
    have first : Framed env (before ++ [.subscribed sub]) :=
      (whole.until (rfl : (Event.subscribed sub).framing = false)).next rfl
    -- What the table has for the sid when the frame is looked up.
    have known : entryOf subs msg.sid = sub.after (framesFor sub.sid during).length := by
      have course := registry_course registered.left undropped
      have looked := registered (before ++ .subscribed sub :: during ++ [.handled msg])
        (.msg msg.sid subs) (handed ++ rest) (by simp) (by omega)
      rw [List.append_cons] at whole
      rw [registry_concat] at looked
      rw [looked, same, ← first.counted_after whole, ← course]
      rfl
    obtain ⟨called, calls⟩ := handing.calls granted outer
    constructor
    · rw [called, known, Subscription.after_isSome]
    · intro handler message answered
      obtain ⟨found, entry, rfl, rfl⟩ := calls handler message answered
      obtain ⟨-, client, handles, data⟩ := Subscription.after_some (known.symm.trans entry)
      refine ⟨handles, ?_⟩
      unfold messageOf
      rw [client, data]
  · intro before found handler message after split
    rw [split] at framed
    obtain ⟨earlier, msg, subs, rfl, type, rfl⟩ := framed.called
    exact ⟨earlier, msg, subs, rfl, type, rfl⟩

end Runs

/-- Two subscriptions, one for one frame: its second frame is dropped, and the other one is
removed. -/
def pairedWorld : World := reached granting 2
  [.init, .readable [.bytes (ascii "INFO \x7b\"version\":\"1\"\x7d\r\nPONG\r\n")],
    .api (.subscribe 0 (ascii "a") 1 7 9), .api (.subscribe 0 (ascii "b") 0 8 9),
    .readable [.bytes (ascii "MSG a 1 2\r\nhi\r\nMSG b 2 2\r\nyo\r\nMSG a 1 1\r\nx\r\n")],
    .api (.unsubscribe 0 2)]
  (fun _ => 0) fun _ => 0

/-- The subscription of a broker: the sid is its key, and its maximum the limit. -/
def limitOf (sub : Subscription) : Option Nat := if 0 < sub.max then some sub.max.toNat else none

/-- What an event tells the broker. -/
def Event.action : Event → Option (Broker.Action Int Subscription ServerMsg)
  | .closed _ => some .close
  | .subscribed sub => some (.subscribe sub.sid sub (limitOf sub))
  | .unsubscribed sid => some (.unsubscribe sid)
  | .handled message => if message.type = .msg then some (.message message.sid message) else none
  | _ => none

/-- What a log tells the broker. -/
def actions (log : List Event) : List (Broker.Action Int Subscription ServerMsg) :=
  log.filterMap Event.action

/-- A call of a message handler. -/
def Event.call : Event → Option (Nat × Message)
  | .delivered _ handler message => some (handler, message)
  | _ => none

/-- The calls of message handlers, with their messages. -/
def handlerCalls (log : List Event) : List (Nat × Message) := log.filterMap Event.call

/-- The call with which a broker's message is handed over. -/
def callFor (delivery : Broker.Delivery Int Subscription ServerMsg) : Nat × Message :=
  (delivery.owner.handleMsg, messageOf delivery.owner delivery.content)

/-- The broker that serves a log. -/
abbrev served (log : List Event) : Broker.Table Int Subscription :=
  Broker.after (fun _ => none) (actions log)

/-- All that the broker hands over for a log. -/
abbrev brokered (log : List Event) : List (Broker.Delivery Int Subscription ServerMsg) :=
  Broker.deliveries (fun _ => none) (actions log)

/-- A subscription as the broker has it: as it was entered, with what its maximum leaves. -/
def entryLeft (sub : Subscription) : Subscription × Option Nat :=
  ({ sub with recv := 0 }, if 0 < sub.max then some (sub.max - sub.recv).toNat else none)

/-- The broker has the active subscriptions, and hands over what the handlers are called with. -/
structure Brokered (log : List Event) : Prop where
  table : ∀ sid, served log sid = ((registry log).lookup sid).map entryLeft
  calls : handlerCalls log = (brokered log).map callFor

/-- The broker is given the actions of a log and then those of the events behind it. -/
theorem actions_append (log events : List Event) :
    actions (log ++ events) = actions log ++ actions events := List.filterMap_append

/-- The handlers called in two logs are those called in the one and those called in the other. -/
theorem handlerCalls_append (log events : List Event) :
    handlerCalls (log ++ events) = handlerCalls log ++ handlerCalls events := List.filterMap_append

/-- An event that tells the broker nothing. -/
theorem actions_silent (log : List Event) (silent : event.action = none) :
    actions (log ++ [event]) = actions log := by
  have none : actions [event] = [] := List.filterMap_cons_none silent
  rw [actions_append, none, List.append_nil]

/-- An event that tells the broker something. -/
theorem actions_told (log : List Event) {action : Broker.Action Int Subscription ServerMsg}
    (told : event.action = some action) : actions (log ++ [event]) = actions log ++ [action] := by
  have one : actions [event] = [action] := List.filterMap_cons_some told
  rw [actions_append, one]

/-- An event that calls no handler. -/
theorem handlerCalls_silent (log : List Event) (uncalled : event.call = none) :
    handlerCalls (log ++ [event]) = handlerCalls log := by
  have none : handlerCalls [event] = [] := List.filterMap_cons_none uncalled
  rw [handlerCalls_append, none, List.append_nil]

/-- A frame that is counted leaves the subscription with one message less. -/
theorem entryLeft_count (m : Registry) (sid other : Int) :
    ((m.count sid).lookup other).map entryLeft =
      if other = sid then ((m.lookup sid).map entryLeft).bind Broker.served
      else (m.lookup other).map entryLeft := by
  by_cases same : other = sid
  · rw [if_pos same, same]
    cases known : m.lookup sid with
    | none =>
      rw [Registry.count_unknown (Finmap.lookup_eq_none.mp known), known]
      rfl
    | some sub =>
      unfold Registry.count
      rw [known]
      by_cases limited : 0 < sub.max
      · have left : entryLeft sub = ({ sub with recv := 0 }, some (sub.max - sub.recv).toNat) := by
          unfold entryLeft
          rw [if_pos limited]
        have serve : ((some sub).map entryLeft).bind Broker.served =
            if (sub.max - sub.recv).toNat ≤ 1 then none
            else some ({ sub with recv := 0 }, some ((sub.max - sub.recv).toNat - 1)) := by
          rw [Option.map_some, Option.bind_some, left]
          rfl
        rw [serve]
        dsimp only
        rw [if_pos limited]
        by_cases last : sub.max ≤ sub.recv + 1
        · rw [if_pos last, if_pos (by omega), Finmap.lookup_erase]
          rfl
        · rw [if_neg last, if_neg (by omega), Finmap.lookup_insert, Option.map_some]
          have next : entryLeft { sub with recv := sub.recv + 1 } =
              ({ sub with recv := 0 }, some (sub.max - (sub.recv + 1)).toNat) := by
            unfold entryLeft
            rw [if_pos limited]
          have count : (sub.max - (sub.recv + 1)).toNat = (sub.max - sub.recv).toNat - 1 := by omega
          rw [next, count]
      · have free : entryLeft sub = ({ sub with recv := 0 }, none) := by
          unfold entryLeft
          rw [if_neg limited]
        dsimp only
        rw [if_neg limited, known, Option.map_some, Option.bind_some, free]
        rfl
  · rw [if_neg same, Registry.lookup_count_ne same]

/-- An event that has nothing to do with frames. -/
theorem Brokered.next (brokered : Brokered log) (other : event.framing = false)
    (registered : Registered log event) : Brokered (log ++ [event]) := by
  have silent (idle : event.action = none) (unapplied : (registry log).apply event = registry log)
      (uncalled : event.call = none) : Brokered (log ++ [event]) := by
    constructor
    · intro sid
      rw [registry_concat, unapplied, served, actions_silent log idle]
      exact brokered.table sid
    · rw [handlerCalls_silent log uncalled, NgxNats.brokered, actions_silent log idle]
      exact brokered.calls
  have told {action : Broker.Action Int Subscription ServerMsg} (acts : event.action = some action)
      (uncalled : event.call = none) (unhanded : (served log).hands action = [])
      (table : ∀ sid, (served log).step action sid = (((registry log).apply event).lookup sid).map
        entryLeft) : Brokered (log ++ [event]) := by
    constructor
    · intro sid
      rw [registry_concat, served, actions_told log acts, Broker.after_concat]
      exact table sid
    · rw [handlerCalls_silent log uncalled, NgxNats.brokered, actions_told log acts,
        Broker.deliveries_concat, unhanded, List.append_nil]
      exact brokered.calls
  cases event with
  | closed reason =>
    refine told rfl rfl rfl fun sid => ?_
    rfl
  | subscribed sub =>
    obtain ⟨-, fresh, -⟩ : sub.sid = numbered log + 1 ∧ sub.recv = 0 ∧ sub.sid ∉ registry log :=
      registered
    refine told rfl rfl rfl fun sid => ?_
    show Function.update (served log) sub.sid (some (sub, limitOf sub)) sid =
      (((registry log).insert sub.sid sub).lookup sid).map entryLeft
    by_cases same : sid = sub.sid
    · subst same
      have entry : entryLeft sub = (sub, limitOf sub) := by
        unfold entryLeft limitOf
        rw [fresh, Int.sub_zero, ← fresh]
      rw [Function.update_self, Finmap.lookup_insert, Option.map_some, entry]
    · rw [Function.update_of_ne same, Finmap.lookup_insert_of_ne _ same]
      exact brokered.table sid
  | unsubscribed dropped =>
    refine told rfl rfl rfl fun sid => ?_
    show Function.update (served log) dropped none sid =
      (((registry log).erase dropped).lookup sid).map entryLeft
    by_cases same : sid = dropped
    · subst same
      rw [Function.update_self, Finmap.lookup_erase]
      rfl
    · rw [Function.update_of_ne same, Finmap.lookup_erase_ne same]
      exact brokered.table sid
  | handled message =>
    have odd : message.type ≠ .msg := of_decide_eq_false other
    exact silent (if_neg odd) rfl rfl
  | msg => cases other
  | delivered => cases other
  | _ => exact silent rfl rfl rfl

/-- A frame that is handed over, where the registry was looked up. -/
theorem Brokered.frame {msg : ServerMsg} {subs : List Subscription} {handed : List Event}
    (brokered : Brokered log) (type : msg.type = .msg) (handing : Handing env msg subs handed)
    (granted : ∀ tick, env.createPool tick = true ∧ env.pcalloc tick = true)
    (known : entryOf subs msg.sid = (registry log).lookup msg.sid) :
    Brokered (log ++ .handled msg :: .msg msg.sid subs :: handed) := by
  have delivered : handlerCalls handed = (((served log).hands (.message msg.sid msg)).map callFor) ∧
      (∀ event ∈ handed, event.listless = true) ∧ actions handed = [] := by
    have entry := brokered.table msg.sid
    rw [← known] at entry
    cases handing with
    | unknown unknown =>
      rw [unknown] at entry
      refine ⟨?_, List.forall_mem_nil _, rfl⟩
      show [] = ((served log msg.sid).map _).toList.map callFor
      rw [entry]
      rfl
    | refused found tick refused =>
      rw [(granted tick).1, (granted tick).2] at refused
      rcases refused with absurd | absurd
      · cases absurd
      · cases absurd
    | handed found =>
      rw [found] at entry
      refine ⟨?_, List.forall_mem_singleton.mpr rfl, rfl⟩
      show [_] = ((served log msg.sid).map _).toList.map callFor
      rw [entry]
      rfl
  obtain ⟨called, listless, silent⟩ := delivered
  have more : actions (log ++ .handled msg :: .msg msg.sid subs :: handed) =
      actions log ++ [.message msg.sid msg] := by
    have first : (Event.handled msg).action = some (.message msg.sid msg) := if_pos type
    rw [actions_append]
    congr 1
    unfold actions at silent ⊢
    rw [List.filterMap_cons_some first, List.filterMap_cons_none rfl, silent]
  have now : registry (log ++ .handled msg :: .msg msg.sid subs :: handed) =
      (registry log).count msg.sid := by
    rw [List.append_cons, List.append_cons, registry_append _ listless, registry_concat,
      registry_concat]
    rfl
  constructor
  · intro sid
    rw [served, more, Broker.after_concat, now, entryLeft_count]
    show Function.update (served log) msg.sid ((served log msg.sid).bind Broker.served) sid = _
    by_cases same : sid = msg.sid
    · rw [if_pos same, same, Function.update_self, brokered.table]
    · rw [if_neg same, Function.update_of_ne same]
      exact brokered.table sid
  · have first : handlerCalls (.handled msg :: .msg msg.sid subs :: handed) = handlerCalls handed :=
      rfl
    rw [handlerCalls_append, first, called, NgxNats.brokered, more, Broker.deliveries_concat,
      List.map_append, brokered.calls]

/-- A frame with the sid 0, which marks the holes of the table. -/
def Event.nameless : Event → Bool
  | .handled message => message.type = .msg ∧ message.sid = 0
  | _ => false

/-- No frame carries the sid of a hole. -/
def Named (log : List Event) : Prop := ∀ event ∈ log, event.nameless = false

instance (log : List Event) : Decidable (Named log) :=
  inferInstanceAs (Decidable (∀ event ∈ log, event.nameless = false))

/-- A frame of a log in which no frame carries the sid of a hole. -/
theorem Named.frame (named : Named log) {msg : ServerMsg} (inside : .handled msg ∈ log)
    (type : msg.type = .msg) : msg.sid ≠ 0 := by
  intro hole
  have nameless : (Event.handled msg).nameless = true := decide_eq_true ⟨type, hole⟩
  exact absurd ((named _ inside).symm.trans nameless) Bool.false_ne_true

/-- What is named in a whole log is named in its beginning. -/
theorem Named.left (named : Named (log ++ events)) : Named log := fun event inside =>
  named event (List.mem_append_left _ inside)

/-- A log with its frames whole is served by the broker. -/
theorem Framed.brokered (framed : Framed env log)
    (granted : ∀ tick, env.createPool tick = true ∧ env.pcalloc tick = true)
    (registered : Throughout Registered log) (named : Named log) : Brokered log := by
  induction framed with
  | start => exact ⟨fun _ => rfl, rfl⟩
  | next framed other ih =>
    obtain ⟨earlier, last⟩ := History.throughout_concat.mp registered
    exact (ih earlier named.left).next other last
  | frame framed type handing ih =>
    have before := ih registered.left named.left
    have nonzero := named.frame (List.mem_append_right _ List.mem_cons_self) type
    rw [List.append_cons] at registered
    have known := registered _ _ _ rfl nonzero
    rw [registry_concat] at known
    exact before.frame type handing granted known

section Runs

variable (env : Env) (depth : Nat) (steps : List Step) (read write : Memory UInt8)

end Runs

/-- The calls of handlers with messages for a sid. -/
def callsFor (sid : Int) (events : List Event) : List (Nat × Message) :=
  (handlerCalls events).filter fun call => call.2.sid = sid

/-- The messages of the broker are the frames. -/
theorem messagesFor_actions (sid : Int) (events : List Event) :
    Broker.messagesFor sid (actions events) = framesFor sid events := by
  unfold Broker.messagesFor actions framesFor
  rw [List.filterMap_filterMap]
  congr 1
  funext event
  cases event with
  | handled message =>
    by_cases type : message.type = .msg
    · have told : (Event.handled message).action = some (.message message.sid message) :=
        if_pos type
      rw [told, Option.bind_some]
      show (if message.sid = sid then some message else none) =
        if message.type = .msg ∧ message.sid = sid then some message else none
      by_cases same : message.sid = sid
      · rw [if_pos same, if_pos ⟨type, same⟩]
      · rw [if_neg same, if_neg fun both => same both.2]
    · have untold : (Event.handled message).action = none := if_neg type
      rw [untold]
      show none = if message.type = .msg ∧ message.sid = sid then some message else none
      rw [if_neg fun both => type both.1]
  | _ => rfl

/-- A message is handed over under its own sid. -/
theorem delivery_key (table : Broker.Table Int Subscription) (events : List Event) :
    ∀ delivery ∈ Broker.deliveries table (actions events),
      delivery.content.sid = delivery.key := by
  induction events generalizing table with
  | nil => exact List.forall_mem_nil _
  | cons event rest ih =>
    have split : actions (event :: rest) = actions [event] ++ actions rest :=
      actions_append [event] rest
    rw [split, Broker.deliveries_append]
    intro delivery inside
    rcases List.mem_append.mp inside with here | later
    · cases told : event.action with
      | none =>
        have none : actions [event] = [] := List.filterMap_cons_none told
        rw [none] at here
        cases here
      | some action =>
        have one : actions [event] = [action] := List.filterMap_cons_some told
        rw [one, Broker.deliveries_cons, Broker.deliveries, List.append_nil] at here
        cases event with
        | handled message =>
          have told : (if message.type = .msg then some (.message message.sid message) else none :
              Option (Broker.Action Int Subscription ServerMsg)) = some action := told
          split at told
          · cases told
            have handed : delivery ∈ ((table message.sid).map fun entry =>
                ⟨message.sid, entry.1, message⟩ : Option (Broker.Delivery _ _ _)).toList := here
            obtain ⟨entry, -, rfl⟩ := Option.map_eq_some_iff.mp (Option.mem_toList.mp handed)
            rfl
          · cases told
        | closed => cases told; cases here
        | subscribed => cases told; cases here
        | unsubscribed => cases told; cases here
        | _ => cases told
    · exact ih _ delivery later

/-- Calls of handlers with messages for a sid, in terms of the broker. -/
theorem callsFor_handed {deliveries : List (Broker.Delivery Int Subscription ServerMsg)} (sid : Int)
    (keyed : ∀ delivery ∈ deliveries, delivery.content.sid = delivery.key) :
    ((deliveries.map callFor).filter fun call => call.2.sid = sid) =
      (Broker.handedFor sid deliveries).map callFor := by
  unfold Broker.handedFor
  rw [List.filter_map]
  congr 1
  apply List.filter_congr
  intro delivery inside
  show decide (delivery.content.sid = sid) = decide (delivery.key = sid)
  rw [keyed delivery inside]

/-- While a subscription is active, nothing begins its sid anew or ends it. -/
theorem unturned {before during : List Event} {sub : Subscription}
    (registered : Throughout Registered (before ++ .subscribed sub :: during))
    (undropped : ∀ event ∈ during, event.drops sub.sid = false) :
    ∀ action ∈ actions during, ¬action.Turns sub.sid := by
  intro action inside
  obtain ⟨event, happens, told⟩ := List.mem_filterMap.mp inside
  have kept := undropped event happens
  cases event with
  | closed => cases kept
  | unsubscribed other =>
    cases told
    have apart : other ≠ sub.sid := of_decide_eq_false kept
    exact apart
  | subscribed later =>
    cases told
    obtain ⟨earlier, rest, rfl⟩ := List.append_of_mem happens
    have next : later.sid = numbered (before ++ .subscribed sub :: earlier) + 1 ∧ _ :=
      registered (before ++ .subscribed sub :: earlier) (.subscribed later) rest (by simp)
    have entered : sub.sid = numbered before + 1 ∧ _ := registered before (.subscribed sub) _ rfl
    have grown : numbered (before ++ [.subscribed sub]) ≤
        numbered (before ++ [.subscribed sub] ++ earlier) :=
      numbered_grows fun other old => undropped other (List.mem_append_left _ old)
    rw [← List.append_cons, numbered_concat before rfl] at grown
    intro same
    have same : later.sid = sub.sid := same
    omega
  | handled message =>
    have told : (if message.type = .msg then some (.message message.sid message) else none :
        Option (Broker.Action Int Subscription ServerMsg)) = some action := told
    split at told
    · cases told
      exact id
    · cases told
  | _ => cases told

section Runs

variable (env : Env) (depth : Nat) (steps : List Step) (read write : Memory UInt8)

/-- What a subscription is handed. In every run in which the memory for messages is granted, no
sid overflows and no frame carries the sid of a hole, the handler of a subscription is called for
the first frames with its sid, as many as its maximum allows, in their order and with their
contents, until the subscription is removed or its connection closed. -/
theorem subscription_served
    (granted : ∀ tick, env.createPool tick = true ∧ env.pcalloc tick = true)
    (unwrapped : Throughout Unwrapped (reached env depth steps read write).log)
    (named : Named (reached env depth steps read write).log) (before during rest : List Event)
    (sub : Subscription)
    (split : (reached env depth steps read write).log = before ++ .subscribed sub :: during ++ rest)
    (undropped : ∀ event ∈ during, event.drops sub.sid = false)
    (ended : ∀ event ∈ rest.head?, event.drops sub.sid = true) :
    callsFor sub.sid during = (Broker.upTo (limitOf sub) (framesFor sub.sid during)).map
      fun msg => (sub.handleMsg, messageOf sub msg) := by
  have framed := reached_framed env depth steps read write
  have registered := (reached_listing env depth steps read write unwrapped).registered
  rw [split] at framed registered named
  have whole : Framed env (before ++ .subscribed sub :: during) := by
    cases rest with
    | nil =>
      rw [List.append_nil] at framed
      exact framed
    | cons event rest =>
      have drops := ended event rfl
      apply framed.until
      cases event with
      | closed => rfl
      | unsubscribed => rfl
      | _ => cases drops
  have entered : sub.sid = numbered before + 1 ∧ _ := registered before (.subscribed sub)
    (during ++ rest) (List.append_assoc ..)
  have first : Framed env (before ++ [.subscribed sub]) :=
    (whole.until (rfl : (Event.subscribed sub).inner = false)).next rfl
  have later := whole.brokered granted registered.left named.left
  rw [List.append_cons] at registered named later
  have start := first.brokered granted registered.left.left named.left.left
  have active : served (before ++ [.subscribed sub]) sub.sid = some (sub, limitOf sub) := by
    have told : (Event.subscribed sub).action = some (.subscribe sub.sid sub (limitOf sub)) := rfl
    rw [served, actions_told before told, Broker.after_concat]
    exact Function.update_self ..
  have calls : handlerCalls during =
      (Broker.deliveries (served (before ++ [.subscribed sub])) (actions during)).map callFor := by
    have both := later.calls
    rw [handlerCalls_append, brokered, actions_append, Broker.deliveries_append, List.map_append,
      start.calls] at both
    exact List.append_cancel_left both
  have positive : ∀ n ∈ limitOf sub, 0 < n := by
    intro n limit
    unfold limitOf at limit
    split at limit
    · cases limit
      omega
    · cases limit
  rw [← List.append_cons] at registered
  rw [callsFor, calls, callsFor_handed sub.sid (delivery_key _ during),
    Broker.deliveries_active active positive (unturned registered.left undropped), List.map_map,
    messagesFor_actions]
  rfl

end Runs

/-- The first of two subscriptions. -/
theorem subscription_served_once : callsFor 1 (pairedWorld.log.drop 18) =
    (Broker.upTo (some 1) (framesFor 1 (pairedWorld.log.drop 18))).map
      fun msg => (7, messageOf ⟨0, 7, 9, 1, 1, 0⟩ msg) := by
  have facts : (Throughout Unwrapped pairedWorld.log ∧ Named pairedWorld.log) ∧
      pairedWorld.log = pairedWorld.log.take 17 ++ .subscribed ⟨0, 7, 9, 1, 1, 0⟩ ::
        pairedWorld.log.drop 18 ++ [] ∧
      ∀ event ∈ pairedWorld.log.drop 18, event.drops 1 = false := by
    decide +kernel
  obtain ⟨plain, split, undropped⟩ := facts
  exact subscription_served granting 2 _ _ _ (fun _ => ⟨rfl, rfl⟩) plain.1 plain.2 _ _ []
    ⟨0, 7, 9, 1, 1, 0⟩ split undropped fun _ found => absurd found (Option.not_mem_none _)

end NgxNats
