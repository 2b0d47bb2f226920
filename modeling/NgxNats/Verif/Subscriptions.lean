import NgxNats.Lib.History
import NgxNats.Verif.ActRuns
import NgxNats.Verif.Registry

/-!
# Subscriptions over a run

The registry is what the log says about the active subscriptions. In every reached state the
array represents it, and every frame is looked up in it.
-/
namespace NgxNats

open History (Throughout since)

/-- What an event does to the active subscriptions. -/
def Registry.apply (m : Registry) : Event → Registry
  | .closed _ => ∅
  | .subscribed sub => m.insert sub.sid sub
  | .unsubscribed sid => m.erase sid
  | .msg sid _ => m.count sid
  | _ => m

/-- The active subscriptions after the events of a log. -/
def registry (log : List Event) : Registry := log.foldl Registry.apply ∅

/-- The registry after one more event. -/
theorem registry_concat (log : List Event) (event : Event) :
    registry (log ++ [event]) = (registry log).apply event := by
  simp [registry]

/-- The event that ends a connection. -/
def Event.closes : Event → Bool
  | .closed _ => true
  | _ => false

/-- The events that give out a sid. -/
def Event.numbers : Event → Bool
  | .subscribed _ | .unplaced _ => true
  | _ => false

/-- The events since the subscriptions were last forgotten. -/
abbrev onSession (log : List Event) : List Event := since Event.closes log

/-- The sids given out since the subscriptions were last forgotten. -/
def numbered (log : List Event) : Nat := (onSession log).countP Event.numbers

/-- The next sid does not overflow. -/
def Unwrapped (before : List Event) (event : Event) : Prop :=
  event.numbers = true → numbered before + 1 < 2 ^ 63

/-- What the registry has to do with an event: a frame is looked up in it, a subscription is new
and gets the next sid, and only an active subscription is removed. -/
def Registered (before : List Event) : Event → Prop
  | .msg sid subs => sid ≠ 0 → entryOf subs sid = (registry before).lookup sid
  | .subscribed sub => sub.sid = numbered before + 1 ∧ sub.recv = 0 ∧ sub.sid ∉ registry before
  | .unsubscribed sid => sid ∈ registry before
  | _ => True

/-- Events that have nothing to do with subscriptions. -/
def Event.listless : Event → Bool
  | .closed _ | .subscribed _ | .unplaced _ | .unsubscribed _ | .msg .. => false
  | _ => true

/-- A plain event has nothing to do with subscriptions. -/
theorem listless_of_plain {event : Event} (plain : event.plain = true) : event.listless = true := by
  cases event with
  | closed => cases plain
  | subscribed => cases plain
  | unplaced => cases plain
  | unsubscribed => cases plain
  | msg => cases plain
  | _ => rfl

section Listless

variable {event : Event} {log events : List Event}

/-- An event that is not about subscriptions leaves the table as it is. -/
theorem apply_of_listless (listless : event.listless = true) (m : Registry) :
    m.apply event = m := by
  cases event with
  | closed => cases listless
  | subscribed => cases listless
  | unsubscribed => cases listless
  | msg => cases listless
  | _ => rfl

/-- An event that is not about subscriptions closes no connection. -/
theorem closes_of_listless (listless : event.listless = true) : event.closes = false := by
  cases event with
  | closed => cases listless
  | _ => rfl

/-- An event that is not about subscriptions takes no number. -/
theorem numbers_of_listless (listless : event.listless = true) : event.numbers = false := by
  cases event with
  | subscribed => cases listless
  | unplaced => cases listless
  | _ => rfl

/-- An event that is not about subscriptions needs no entry in the table. -/
theorem registered_of_listless (listless : event.listless = true) (before : List Event) :
    Registered before event := by
  cases event with
  | subscribed => cases listless
  | unsubscribed => cases listless
  | msg => cases listless
  | _ => trivial

/-- Events that have nothing to do with subscriptions keep the registry. -/
theorem registry_append (log : List Event) (listless : ∀ event ∈ events, event.listless = true) :
    registry (log ++ events) = registry log := by
  induction events using List.reverseRecOn with
  | nil => rw [List.append_nil]
  | append_singleton rest event ih =>
    rw [← List.append_assoc, registry_concat, apply_of_listless (listless event (by simp))]
    exact ih fun other inside => listless other (List.mem_append_left _ inside)

/-- Events that close no connection and give out no sid keep the count. -/
theorem numbered_append (log : List Event) (open_ : ∀ event ∈ events, event.closes = false)
    (unnumbered : ∀ event ∈ events, event.numbers = false) :
    numbered (log ++ events) = numbered log := by
  have none : events.countP Event.numbers = 0 := by
    rw [List.countP_eq_zero]
    intro event inside
    simp [unnumbered event inside]
  rw [numbered, onSession, History.since_append _ open_, List.countP_append, none]
  rfl

end Listless

/-- What the array has to do with the log. -/
structure Listing (w : World) : Prop where
  tabulates : Tabulates w.subs (registry w.log)
  counted : w.nextId = numbered w.log
  bounded : ∀ sid ∈ registry w.log, 0 < sid ∧ sid ≤ w.nextId
  peaked : ∃ before after, w.log = before ++ after ∧ (∀ event ∈ after, event.closes = false) ∧
    w.subs.length ≤ (registry before).keys.card
  registered : Throughout Registered w.log

variable {env : Env} {w w' : World} {events : List Event}

/-- The array was no longer than the registry at some moment on the connection, also later. -/
theorem Listing.peaked_append (listing : Listing w) (log : w'.log = w.log ++ events)
    (open_ : ∀ event ∈ events, event.closes = false) (length : w'.subs.length ≤ w.subs.length) :
    ∃ before after, w'.log = before ++ after ∧ (∀ event ∈ after, event.closes = false) ∧
      w'.subs.length ≤ (registry before).keys.card := by
  obtain ⟨before, after, split, unclosed, peak⟩ := listing.peaked
  refine ⟨before, after ++ events, ?_, ?_, Nat.le_trans length peak⟩
  · rw [log, split, List.append_assoc]
  · intro event inside
    rcases List.mem_append.mp inside with earlier | added
    · exact unclosed event earlier
    · exact open_ event added

/-- Events that have nothing to do with subscriptions. -/
theorem Listing.extend (listing : Listing w) (log : w'.log = w.log ++ events)
    (listless : ∀ event ∈ events, event.listless = true) (subs : w'.subs = w.subs)
    (nextId : w'.nextId = w.nextId) : Listing w' := by
  have same := registry_append w.log listless
  have open_ : ∀ event ∈ events, event.closes = false := fun event inside =>
    closes_of_listless (listless event inside)
  have unnumbered : ∀ event ∈ events, event.numbers = false := fun event inside =>
    numbers_of_listless (listless event inside)
  constructor
  · rw [log, same, subs]
    exact listing.tabulates
  · rw [log, numbered_append w.log open_ unnumbered, nextId]
    exact listing.counted
  · rw [log, same, nextId]
    exact listing.bounded
  · exact listing.peaked_append log open_ (by rw [subs])
  · rw [log]
    exact listing.registered.append fun event inside before =>
      registered_of_listless (listless event inside) before

/-- Closing the connection forgets everything. -/
theorem Listing.closed {reason : Reason} (listing : Listing w)
    (log : w'.log = w.log ++ [.closed reason]) (subs : w'.subs = []) (nextId : w'.nextId = 0) :
    Listing w' := by
  have empty : registry (w.log ++ [.closed reason]) = ∅ := registry_concat w.log _
  constructor
  · rw [log, empty, subs]
    exact SlotTable.Represents.empty
  · rw [log, nextId, numbered, onSession, History.since_marked _ rfl]
    rfl
  · rw [log, empty]
    exact fun sid inside => (Finmap.notMem_empty inside).elim
  · refine ⟨w'.log, [], (List.append_nil _).symm, List.forall_mem_nil _, ?_⟩
    rw [subs]
    exact Nat.zero_le _
  · rw [log, History.throughout_concat]
    exact ⟨listing.registered, trivial⟩

/-- The next sid, while it does not overflow. -/
theorem Listing.next (listing : Listing w) (fits : numbered w.log + 1 < 2 ^ 63) :
    Word.signed (w.nextId + 1) = numbered w.log + 1 := by
  rw [listing.counted]
  apply Word.signed_of_bounds
  · omega
  · exact_mod_cast fits

/-- The sids given out after one more was. -/
theorem numbered_concat (log : List Event) {event : Event} (numbers : event.numbers = true) :
    numbered (log ++ [event]) = numbered log + 1 := by
  have open_ : event.closes = false := by
    cases event with
    | closed => cases numbers
    | _ => rfl
  rw [numbered, onSession, History.since_unmarked _ open_, List.countP_append]
  simp [numbered, numbers]

/-- A sid is given out but finds no place. -/
theorem Listing.number (listing : Listing w) {sid : Int} (log : w'.log = w.log ++ [.unplaced sid])
    (fits : numbered w.log + 1 < 2 ^ 63) (subs : w'.subs = w.subs)
    (nextId : w'.nextId = Word.signed (w.nextId + 1)) : Listing w' := by
  have same : registry (w.log ++ [.unplaced sid]) = registry w.log := registry_concat w.log _
  have counted : w'.nextId = numbered w.log + 1 := nextId.trans (listing.next fits)
  constructor
  · rw [log, same, subs]
    exact listing.tabulates
  · rw [log, counted, numbered_concat w.log rfl]
    rfl
  · rw [log, same, counted]
    intro sid inside
    obtain ⟨positive, bound⟩ := listing.bounded sid inside
    rw [listing.counted] at bound
    exact ⟨positive, by omega⟩
  · exact listing.peaked_append log (by simp [Event.closes]) (by rw [subs])
  · rw [log, History.throughout_concat]
    exact ⟨listing.registered, trivial⟩

/-- The next sid is not active. -/
theorem Listing.fresh (listing : Listing w) : (numbered w.log + 1 : Int) ∉ registry w.log := by
  intro inside
  have bound := (listing.bounded _ inside).2
  rw [listing.counted] at bound
  omega

/-- A subscription is entered. -/
theorem Listing.subscribe (listing : Listing w) {sub : Subscription} {granted : Bool}
    (log : w'.log = w.log ++ [.subscribed sub]) (fits : numbered w.log + 1 < 2 ^ 63)
    (sid : sub.sid = Word.signed (w.nextId + 1)) (recv : sub.recv = 0)
    (entered : addSubscription w.subs sub granted = some w'.subs)
    (nextId : w'.nextId = Word.signed (w.nextId + 1)) : Listing w' := by
  have counted : w'.nextId = numbered w.log + 1 := nextId.trans (listing.next fits)
  have fresh := listing.fresh
  rw [listing.next fits] at sid
  rw [← sid] at fresh
  have now : registry (w.log ++ [.subscribed sub]) = (registry w.log).insert sub.sid sub :=
    registry_concat w.log _
  obtain ⟨tabulates, length⟩ :=
    addSubscription_inserts listing.tabulates (by omega) fresh entered
  constructor
  · rw [log, now]
    exact tabulates
  · rw [log, counted, numbered_concat w.log rfl]
    rfl
  · rw [log, now, counted]
    intro other inside
    rcases Finmap.mem_insert.mp inside with rfl | earlier
    · omega
    · obtain ⟨positive, bound⟩ := listing.bounded other earlier
      rw [listing.counted] at bound
      exact ⟨positive, by omega⟩
  · rcases length with reused | pushed
    · exact listing.peaked_append log (by simp [Event.closes]) (Nat.le_of_eq reused)
    · refine ⟨w'.log, [], (List.append_nil _).symm, List.forall_mem_nil _, ?_⟩
      rw [log, now]
      exact Nat.le_of_eq pushed
  · rw [log, History.throughout_concat]
    exact ⟨listing.registered, sid, recv, fresh⟩

/-- A subscription is removed. -/
theorem Listing.unsubscribe (listing : Listing w) {sid : Int}
    (log : w'.log = w.log ++ [.unsubscribed sid]) (removed : (removeSubscription w.subs sid).2 ≠ 0)
    (subs : w'.subs = (removeSubscription w.subs sid).1) (nextId : w'.nextId = w.nextId) :
    Listing w' := by
  have named : sid ≠ 0 := by
    rintro rfl
    exact removed rfl
  obtain ⟨tabulates, answer⟩ := removeSubscription_erases listing.tabulates named
  have active : sid ∈ registry w.log := by
    by_contra inactive
    exact removed (answer.trans (if_neg inactive))
  have now : registry (w.log ++ [.unsubscribed sid]) = (registry w.log).erase sid :=
    registry_concat w.log _
  constructor
  · rw [log, now, subs]
    exact tabulates
  · rw [log, numbered_append w.log (by simp [Event.closes]) (by simp [Event.numbers]), nextId]
    exact listing.counted
  · rw [log, now, nextId]
    exact fun other inside => listing.bounded other (Finmap.mem_erase.mp inside).2
  · apply listing.peaked_append log (by simp [Event.closes])
    rw [subs, removeSubscription_length]
  · rw [log, History.throughout_concat]
    exact ⟨listing.registered, active⟩

/-- A frame is looked up. -/
theorem Listing.frame (listing : Listing w) {sid : Int}
    (log : w'.log = w.log ++ .msg sid w.subs :: events)
    (listless : ∀ event ∈ events, event.listless = true)
    (tabulates : Tabulates w'.subs ((registry w.log).count sid))
    (length : w'.subs.length = w.subs.length) (nextId : w'.nextId = w.nextId) : Listing w' := by
  have open_ : ∀ event ∈ .msg sid w.subs :: events, event.closes = false := by
    intro event inside
    rcases List.mem_cons.mp inside with rfl | more
    · rfl
    · exact closes_of_listless (listless event more)
  have unnumbered : ∀ event ∈ .msg sid w.subs :: events, event.numbers = false := by
    intro event inside
    rcases List.mem_cons.mp inside with rfl | more
    · rfl
    · exact numbers_of_listless (listless event more)
  have now : registry w'.log = (registry w.log).count sid := by
    rw [log, List.append_cons, registry_append _ listless, registry_concat]
    rfl
  constructor
  · rw [now]
    exact tabulates
  · rw [log, numbered_append w.log open_ unnumbered, nextId]
    exact listing.counted
  · rw [now, nextId]
    exact fun other inside => listing.bounded other (Registry.mem_count inside)
  · exact listing.peaked_append log open_ (Nat.le_of_eq length)
  · rw [log, List.append_cons]
    apply History.Throughout.append
    · rw [History.throughout_concat]
      exact ⟨listing.registered, fun named => listing.tabulates.found sid named⟩
    · exact fun event inside before => registered_of_listless (listless event inside) before

/-- What an act delivers has nothing to do with the table. -/
theorem listless_of_outcome {delivered : List Event} {sub : Subscription} {sid : Int}
    {refused : Prop} (outcome : (∃ message, delivered = [.delivered sub sub.handleMsg message] ∧
        message.sid = sid ∧ message.client = sub.client ∧
        message.clientSubscriptionData = sub.clientSubscriptionData) ∨ delivered = [] ∧ refused) :
    ∀ event ∈ delivered, event.listless = true := by
  intro event inside
  rcases outcome with ⟨message, rfl, -⟩ | ⟨rfl, -⟩
  · rw [List.mem_singleton.mp inside]
    rfl
  · cases inside

/-- Every act keeps what the array has to do with the log, while no sid overflows. -/
theorem Listing.act (listing : Listing w) (act : Act env w w')
    (unwrapped : Throughout Unwrapped w'.log) : Listing w' := by
  have one {event : Event} (listless : event.listless = true) :
      ∀ added ∈ [event], added.listless = true := by simpa using listless
  have none : ∀ event ∈ ([] : List Event), event.listless = true := List.forall_mem_nil _
  have still := (List.append_nil w.log).symm
  cases act with
  | tick => exact listing.extend still none rfl rfl
  | note event plain => exact listing.extend rfl (one (listless_of_plain plain)) rfl rfl
  | start => exact listing.extend still none rfl rfl
  | schedule index timer => exact listing.extend still none rfl rfl
  | wire connection pingTimer => exact listing.extend still none rfl rfl
  | exchange => exact listing.extend still none rfl rfl
  | fillRead b => exact listing.extend still none rfl rfl
  | fillWrite b => exact listing.extend still none rfl rfl
  | opened server => exact listing.extend rfl (one rfl) rfl rfl
  | closed reason => exact listing.closed rfl rfl rfl
  | initiate b event clock fresh appended =>
    refine listing.extend rfl ?_ rfl rfl
    intro added inside
    rcases List.mem_pair.mp inside with rfl | rfl
    · rfl
    · rcases appended with rfl | rfl
      · rfl
      · rfl
  | register client => exact listing.extend rfl (one rfl) rfl rfl
  | number =>
    exact listing.number rfl ((History.throughout_concat.mp unwrapped).2 rfl) rfl rfl
  | subscribe client handleMsg data max granted subs entered =>
    exact listing.subscribe rfl ((History.throughout_concat.mp unwrapped).2 rfl) rfl rfl entered rfl
  | unsubscribe sid removed => exact listing.unsubscribe rfl removed rfl rfl
  | miss sid unknown =>
    refine listing.frame rfl none ?_ rfl rfl
    rw [Registry.count_unknown (getSubscription_inactive listing.tabulates unknown)]
    exact listing.tabulates
  | count sid i sub found entry clock delivered outcome =>
    exact listing.frame rfl (listless_of_outcome outcome)
      (countedSubs_counts listing.tabulates found entry) (countedSubs_length w.subs i sub) rfl
  | info body n fields parsed =>
    refine listing.extend rfl ?_ rfl rfl
    intro added inside
    rcases List.mem_cons.mp inside with rfl | more
    · rfl
    · split at more
      · rw [List.mem_singleton.mp more]
        rfl
      · cases more
  | noInfo body other => exact listing.extend rfl (one rfl) rfl rfl
  | ready fresh => exact listing.extend rfl (one rfl) rfl rfl

/-- In every reached state the array represents the registry of the log. -/
theorem reached_listing (env : Env) (depth : Nat) (steps : List Step) (read write : Memory UInt8)
    (unwrapped : Throughout Unwrapped (reached env depth steps read write).log) :
    Listing (reached env depth steps read write) := by
  have start : Listing (.start read write) :=
    ⟨SlotTable.Represents.empty, rfl, fun _ inside => (Finmap.notMem_empty inside).elim,
      ⟨[], [], rfl, List.forall_mem_nil _, Nat.le_refl 0⟩, History.throughout_nil⟩
  exact reached_invariant_while env depth steps read write start
    (fun _ _ listing act met => listing.act act met) unwrapped

end NgxNats
