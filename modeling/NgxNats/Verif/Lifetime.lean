import NgxNats.Verif.Delivery

/-!
# The life of a subscription

From its entry until it is removed or its connection is closed, a subscription is found for as
many frames as its maximum allows, and every frame that finds one was preceded by its entry.
-/
namespace NgxNats

open History (Throughout since)

/-- A frame with this sid. -/
def Event.frames (sid : Int) : Event → Bool
  | .msg other _ => other = sid
  | _ => false

/-- The end of a subscription: it is removed, or its connection is closed. -/
def Event.drops (sid : Int) : Event → Bool
  | .closed _ => true
  | .unsubscribed other => other = sid
  | _ => false

/-- A subscription after some frames: a maximum counts them, until it is reached. -/
def Subscription.after (sub : Subscription) (frames : Nat) : Option Subscription :=
  if 0 < sub.max then
    if sub.max ≤ frames then none else some { sub with recv := frames }
  else some sub

/-- A subscription is found while its maximum is not reached. -/
theorem Subscription.after_isSome (sub : Subscription) (frames : Nat) :
    (sub.after frames).isSome ↔ (0 < sub.max → frames < sub.max) := by
  unfold Subscription.after
  split
  · split
    · simp only [Option.isSome_none, Bool.false_eq_true, false_iff]
      omega
    · simp only [Option.isSome_some, true_iff]
      omega
  · simp only [Option.isSome_some, true_iff]
    omega

/-- What is found of a subscription differs from it in the counter only. -/
theorem Subscription.after_some {sub found : Subscription} {frames : Nat}
    (known : sub.after frames = some found) : found.sid = sub.sid ∧ found.client = sub.client ∧
      found.handleMsg = sub.handleMsg ∧
      found.clientSubscriptionData = sub.clientSubscriptionData := by
  unfold Subscription.after at known
  split at known
  · split at known
    · cases known
    · cases known
      exact ⟨rfl, rfl, rfl, rfl⟩
  · cases known
    exact ⟨rfl, rfl, rfl, rfl⟩

section Registries

variable {m : Registry} {sid other : Int} {sub : Subscription} {log : List Event}

/-- A frame for another sid. -/
theorem Registry.lookup_count_ne (apart : sid ≠ other) :
    (m.count other).lookup sid = m.lookup sid := by
  unfold Registry.count
  split
  · rfl
  · split
    · split
      · exact Finmap.lookup_erase_ne apart
      · exact Finmap.lookup_insert_of_ne m apart
    · rfl

/-- A frame for a subscription that counted some frames before. -/
theorem Registry.lookup_count {frames : Nat} (known : m.lookup sid = sub.after frames) :
    (m.count sid).lookup sid = sub.after (frames + 1) := by
  unfold Registry.count
  unfold Subscription.after at known
  by_cases limited : 0 < sub.max
  · rw [if_pos limited] at known
    by_cases reached : sub.max ≤ frames
    · rw [if_pos reached] at known
      rw [known]
      simp only [Subscription.after]
      rw [if_pos limited, if_pos (by omega)]
      exact known
    · rw [if_neg reached] at known
      rw [known]
      simp only [Subscription.after, limited, ↓reduceIte]
      by_cases last : sub.max ≤ frames + 1
      · rw [if_pos last, if_pos (by exact_mod_cast last), Finmap.lookup_erase]
      · rw [if_neg last, if_neg (by exact_mod_cast last), Finmap.lookup_insert]
        push_cast
        rfl
  · rw [if_neg limited] at known
    rw [known]
    simp only [Subscription.after, limited, ↓reduceIte]
    exact known

/-- An event that neither drops a sid, nor enters it, nor is a frame for it. -/
theorem Registry.lookup_apply {event : Event} (undropped : event.drops sid = false)
    (unframed : event.frames sid = false)
    (others : ∀ sub, event = .subscribed sub → sub.sid ≠ sid) :
    (m.apply event).lookup sid = m.lookup sid := by
  cases event with
  | closed => cases undropped
  | subscribed sub => exact Finmap.lookup_insert_of_ne m (others sub rfl).symm
  | unsubscribed other =>
    have apart : other ≠ sid := by simpa [Event.drops] using undropped
    exact Finmap.lookup_erase_ne apart.symm
  | msg other subs =>
    have apart : other ≠ sid := by simpa [Event.frames] using unframed
    exact Registry.lookup_count_ne apart.symm
  | _ => rfl

/-- Without a close, sids are only added to the ones given out. -/
theorem numbered_grows {events : List Event}
    (undropped : ∀ event ∈ events, event.drops sid = false) :
    numbered log ≤ numbered (log ++ events) := by
  have open_ : ∀ event ∈ events, event.closes = false := by
    intro event inside
    have kept := undropped event inside
    cases event with
    | closed => cases kept
    | _ => rfl
  rw [numbered, numbered, onSession, onSession, History.since_append _ open_, List.countP_append]
  exact Nat.le_add_right _ _

/-- The course of a subscription: as long as it is not dropped, the registry has it with the
frames for its sid counted. -/
theorem registry_course {before events : List Event}
    (registered : Throughout Registered (before ++ .subscribed sub :: events))
    (undropped : ∀ event ∈ events, event.drops sub.sid = false) :
    (registry (before ++ .subscribed sub :: events)).lookup sub.sid =
      sub.after (events.countP (Event.frames sub.sid)) := by
  have entered : sub.sid = numbered before + 1 ∧ sub.recv = 0 ∧ sub.sid ∉ registry before :=
    registered before (.subscribed sub) events rfl
  induction events using List.reverseRecOn with
  | nil =>
    rw [registry_concat]
    change ((registry before).insert sub.sid sub).lookup sub.sid = _
    rw [Finmap.lookup_insert, List.countP_nil, Subscription.after]
    split
    · have unchanged : { sub with recv := ((0 : Nat) : Int) } = sub := by
        rw [Nat.cast_zero, ← entered.2.1]
      rw [if_neg (by omega), unchanged]
    · rfl
  | append_singleton events event ih =>
    rw [← List.cons_append, ← List.append_assoc] at registered ⊢
    have course := ih registered.left fun other inside =>
      undropped other (List.mem_append_left _ inside)
    have last := undropped event (by simp)
    rw [registry_concat, List.countP_append]
    by_cases framed : event.frames sub.sid = true
    · have one : [event].countP (Event.frames sub.sid) = 1 := by simp [framed]
      rw [one]
      cases event with
      | msg other subs =>
        have same : other = sub.sid := by simpa [Event.frames] using framed
        rw [same]
        exact Registry.lookup_count course
      | _ => cases framed
    · have none : [event].countP (Event.frames sub.sid) = 0 := by simp [framed]
      rw [none, Nat.add_zero, ← course]
      apply Registry.lookup_apply last (by simpa using framed)
      rintro later rfl
      have next : later.sid = _ ∧ _ := (History.throughout_concat.mp registered).2
      have grown : numbered (before ++ [.subscribed sub]) ≤
          numbered (before ++ [.subscribed sub] ++ events) :=
        numbered_grows fun other inside => undropped other (List.mem_append_left _ inside)
      rw [← List.append_cons, numbered_concat before rfl] at grown
      omega

/-- The origin of a subscription: what the registry has was entered and not dropped since. -/
theorem registry_origin (active : sid ∈ registry log) : ∃ before sub events,
    log = before ++ .subscribed sub :: events ∧ sub.sid = sid ∧
      ∀ event ∈ events, event.drops sid = false := by
  induction log using List.reverseRecOn with
  | nil => exact (Finmap.notMem_empty active).elim
  | append_singleton log event ih =>
    have earlier (inside : sid ∈ registry log) (undropped : event.drops sid = false) :
        ∃ before sub events, log ++ [event] = before ++ .subscribed sub :: events ∧
          sub.sid = sid ∧ ∀ event ∈ events, event.drops sid = false := by
      obtain ⟨before, sub, events, rfl, same, kept⟩ := ih inside
      refine ⟨before, sub, events ++ [event], by simp, same, fun other inside => ?_⟩
      rcases List.mem_append.mp inside with old | new
      · exact kept other old
      · rw [List.mem_singleton.mp new]
        exact undropped
    rw [registry_concat] at active
    cases event with
    | closed reason => exact (Finmap.notMem_empty active).elim
    | subscribed sub =>
      rcases Finmap.mem_insert.mp active with rfl | inside
      · exact ⟨log, sub, [], rfl, rfl, List.forall_mem_nil _⟩
      · exact earlier inside rfl
    | unsubscribed other =>
      obtain ⟨apart, inside⟩ := Finmap.mem_erase.mp active
      exact earlier inside (by simpa [Event.drops] using apart.symm)
    | msg other subs => exact earlier (Registry.mem_count active) rfl
    | _ => exact earlier active rfl

end Registries

/-- What a frame must not meet: with the sid 0, a hole in the table, and otherwise a subscription
whose `ngx_nats_subscribe` returned an error. -/
def Regular (before : List Event) : Event → Prop
  | .msg sid subs =>
    (sid = 0 → ∀ sub ∈ subs, sub.sid ≠ 0) ∧ .subscribeFailed sid ∉ onSession before
  | _ => True

/-- A delivery is for a live subscription: its sid was returned by a subscribe on this connection,
it was not removed since, fewer frames came for it than its maximum, and the handler, the client
and the data are the ones given to that subscribe. -/
def Live (before : List Event) : Event → Prop
  | .delivered _ handler message => ∃ earlier sub events subs,
      before = earlier ++ .subscribed sub :: events ++ [.msg message.sid subs] ∧
      sub.sid = message.sid ∧ .subscribeFailed sub.sid ∉ events ∧
      (∀ event ∈ events, event.drops sub.sid = false) ∧
      (0 < sub.max → (events.countP (Event.frames sub.sid) : Int) < sub.max) ∧
      Addressed sub handler message
  | _ => True

instance (before : List Event) (event : Event) : Decidable (Unwrapped before event) :=
  inferInstanceAs (Decidable (_ → _))

instance (before : List Event) (event : Event) : Decidable (Regular before event) := by
  unfold Regular
  split
  · infer_instance
  · infer_instance

/-- Events that drop nothing happened on one connection. -/
theorem mem_onSession {before events : List Event} {sid : Int} {event : Event}
    (undropped : ∀ event ∈ events, event.drops sid = false) (inside : event ∈ events) :
    event ∈ onSession (before ++ events) := by
  have open_ : ∀ event ∈ events, event.closes = false := by
    intro event inside
    have kept := undropped event inside
    cases event with
    | closed => cases kept
    | _ => rfl
  rw [onSession, History.since_append _ open_]
  exact List.mem_append_right _ inside

/-- The sid a message is delivered for. -/
def Event.target : Event → Option Int
  | .delivered _ _ message => some message.sid
  | _ => none

/-- The entry of a subscription with this sid. -/
def Event.enters (sid : Int) : Event → Bool
  | .subscribed sub => sub.sid = sid
  | _ => false

/-- A live delivery needs the entry of its sid. -/
theorem Live.entered {before : List Event} {event : Event} (live : Live before event) :
    ∀ sid ∈ event.target, before.any (Event.enters sid) = true := by
  intro sid target
  cases event with
  | delivered found handler message =>
    obtain ⟨earlier, sub, events, subs, rfl, same, -⟩ := live
    cases target
    simp [Event.enters, same]
  | _ => cases target

/-- The state after a handshake, a subscription, and a frame for it. -/
def subscribedWorld : World := reached granting 2
  [.init, .readable [.bytes (ascii "INFO \x7b\"version\":\"1\"\x7d\r\nPONG\r\n")],
    .api (.subscribe 0 (ascii "a") 1 7 9), .readable [.bytes (ascii "MSG a 1 2\r\nhi\r\n")]]
  (fun _ => 0) fun _ => 0

/-- What the array is to the registry: its sids are distinct and were given out, looking up,
adding and removing are those of the map, and it never has more slots than were active at one
moment on the connection. -/
structure Tabled (w : World) : Prop where
  distinct : (activeSids w.subs).Nodup
  bounded : ∀ sub ∈ w.subs, sub.sid ≤ w.nextId
  finds : ∀ sid ≠ 0, ((getSubscription w.subs sid).bind fun i => w.subs[i]?) =
    (registry w.log).lookup sid
  adds : ∀ sub granted subs, sub.sid ≠ 0 → sub.sid ∉ registry w.log →
    addSubscription w.subs sub granted = some subs →
    Tabulates subs ((registry w.log).insert sub.sid sub)
  removes : ∀ sid ≠ 0,
    Tabulates (removeSubscription w.subs sid).1 ((registry w.log).erase sid) ∧
    (removeSubscription w.subs sid).2 = if sid ∈ registry w.log then sid else 0
  room : ∃ before after, w.log = before ++ after ∧ (∀ event ∈ after, event.closes = false) ∧
    w.subs.length ≤ (registry before).keys.card

/-- The array of a listing is the registry's table. -/
theorem Listing.tabled {w : World} (listing : Listing w) : Tabled w where
  distinct := listing.tabulates.distinct
  bounded := by
    intro sub inside
    by_cases hole : sub.sid = 0
    · rw [hole, listing.counted]
      exact Int.natCast_nonneg _
    · have active : sub.sid ∈ activeSids w.subs := SlotTable.mem_keys.mpr ⟨hole, sub, inside, rfl⟩
      exact (listing.bounded _ (listing.tabulates.mem_iff.mp active)).2
  finds := by
    intro sid named
    rw [← listing.tabulates.found sid named]
    cases found : getSubscription w.subs sid with
    | none => exact (getSubscription_none found).symm
    | some i =>
      obtain ⟨sub, entry, -, known⟩ := getSubscription_some found
      exact entry.trans known.symm
  adds := fun _ _ _ named fresh entered =>
    (addSubscription_inserts listing.tabulates named fresh entered).1
  removes := fun _ named => removeSubscription_erases listing.tabulates named
  room := listing.peaked

end NgxNats
