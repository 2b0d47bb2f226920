import NgxNats.Verif.Subscriptions

/-!
# Deliveries

Which frames are handed to which handler: a delivery directly follows the frame it is for, with
the subscription that was found; a subscription is found from its entry on until it is removed or
has counted its maximum.
-/
namespace NgxNats

open History (Throughout since)

/-- A message carries the client and the data of a subscription to its handler. -/
structure Addressed (sub : Subscription) (handler : Nat) (message : Message) : Prop where
  handler : handler = sub.handleMsg
  client : message.client = sub.client
  data : message.clientSubscriptionData = sub.clientSubscriptionData

/-- A delivery directly follows a frame with its sid, and the subscription was found for it. -/
def Prompted (before : List Event) : Event → Prop
  | .delivered sub handler message => ∃ earlier subs, before = earlier ++ [.msg message.sid subs] ∧
      entryOf subs message.sid = some sub ∧ Addressed sub handler message
  | _ => True

/-- Events that are neither frames nor deliveries. -/
def Event.undelivered : Event → Bool
  | .msg .. | .delivered .. => false
  | _ => true

/-- A plain event is neither a frame nor a delivery. -/
theorem undelivered_of_plain {event : Event} (plain : event.plain = true) :
    event.undelivered = true := by
  cases event with
  | msg => cases plain
  | delivered => cases plain
  | _ => rfl

/-- Such an event needs no frame before it. -/
theorem prompted_of_undelivered {event : Event} (undelivered : event.undelivered = true)
    (before : List Event) : Prompted before event := by
  cases event with
  | delivered => cases undelivered
  | _ => trivial

variable {env : Env} {w w' : World} {events : List Event}

/-- The events an act adds besides frames and deliveries. -/
theorem Act.undelivered (act : Act env w w') :
    (∃ events, w'.log = w.log ++ events ∧ ∀ event ∈ events, event.undelivered = true) ∨
    (∃ sid, getSubscription w.subs sid = none ∧ w'.log = w.log ++ [.msg sid w.subs]) ∨
    ∃ sid sub delivered, entryOf w.subs sid = some sub ∧
      w'.log = w.log ++ .msg sid w.subs :: delivered ∧
      ((∃ message, delivered = [.delivered sub sub.handleMsg message] ∧ message.sid = sid ∧
        Addressed sub sub.handleMsg message) ∨
        delivered = [] ∧ ∃ tick, env.createPool tick = false ∨ env.pcalloc tick = false) := by
  have still : w.log = w.log ++ [] := (List.append_nil w.log).symm
  have one {event : Event} (undelivered : event.undelivered = true) :
      ∀ added ∈ [event], added.undelivered = true := by simpa using undelivered
  have none : ∀ event ∈ ([] : List Event), event.undelivered = true := List.forall_mem_nil _
  cases act with
  | tick => exact .inl ⟨[], still, none⟩
  | note event plain => exact .inl ⟨[event], rfl, one (undelivered_of_plain plain)⟩
  | start => exact .inl ⟨[], still, none⟩
  | schedule index timer => exact .inl ⟨[], still, none⟩
  | wire connection pingTimer => exact .inl ⟨[], still, none⟩
  | exchange => exact .inl ⟨[], still, none⟩
  | fillRead b => exact .inl ⟨[], still, none⟩
  | fillWrite b => exact .inl ⟨[], still, none⟩
  | opened server => exact .inl ⟨_, rfl, one rfl⟩
  | closed reason => exact .inl ⟨_, rfl, one rfl⟩
  | initiate b event clock fresh appended =>
    refine .inl ⟨_, rfl, fun added inside => ?_⟩
    rcases List.mem_pair.mp inside with rfl | rfl
    · rfl
    · rcases appended with rfl | rfl
      · rfl
      · rfl
  | register client => exact .inl ⟨_, rfl, one rfl⟩
  | number => exact .inl ⟨_, rfl, one rfl⟩
  | subscribe client handleMsg data max granted subs entered => exact .inl ⟨_, rfl, one rfl⟩
  | unsubscribe sid removed => exact .inl ⟨_, rfl, one rfl⟩
  | miss sid unknown => exact .inr (.inl ⟨sid, unknown, rfl⟩)
  | count sid i sub found entry clock delivered outcome =>
    obtain ⟨other, same, -, known⟩ := getSubscription_some found
    rw [entry, Option.some.injEq] at same
    subst same
    refine .inr (.inr ⟨sid, sub, delivered, known, rfl, outcome.imp_left ?_⟩)
    rintro ⟨message, delivers, sid, client, data⟩
    exact ⟨message, delivers, sid, rfl, client, data⟩
  | info body n fields parsed =>
    refine .inl ⟨_, rfl, fun added inside => ?_⟩
    rcases List.mem_cons.mp inside with rfl | more
    · rfl
    · split at more
      · rw [List.mem_singleton.mp more]
        rfl
      · cases more
  | noInfo body other => exact .inl ⟨_, rfl, one rfl⟩
  | ready fresh => exact .inl ⟨_, rfl, one rfl⟩

/-- In every reached state each delivery directly follows its frame. -/
theorem reached_prompted (env : Env) (depth : Nat) (steps : List Step) (read write : Memory UInt8) :
    Throughout Prompted (reached env depth steps read write).log := by
  apply reached_invariant (fun w => Throughout Prompted w.log) env depth steps read write
  · exact History.throughout_nil
  · intro w w' prompted act
    rcases act.undelivered with ⟨events, log, undelivered⟩ | ⟨sid, -, log⟩ |
      ⟨sid, sub, delivered, known, log, outcome⟩
    · rw [log]
      exact prompted.append fun event inside => prompted_of_undelivered (undelivered event inside)
    · rw [log, History.throughout_concat]
      exact ⟨prompted, trivial⟩
    · have framed : Throughout Prompted (w.log ++ [.msg sid w.subs]) :=
        History.throughout_concat.mpr ⟨prompted, trivial⟩
      rw [log, List.append_cons]
      rcases outcome with ⟨message, rfl, named, addressed⟩ | ⟨rfl, -⟩
      · rw [History.throughout_concat]
        subst named
        exact ⟨framed, w.log, w.subs, rfl, known, addressed⟩
      · rwa [List.append_nil]

end NgxNats
