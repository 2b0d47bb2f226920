import NgxNats.Verif.ClientCalls
import NgxNats.Verif.Registry

/-!
# Client calls that fail

A client function that returns an error leaves the pending bytes and the active subscriptions as
they were, unless an append is refused after the first change.
-/
namespace NgxNats

variable {env : Env} {k : Calls} {w w' : World}

/-- The active subscriptions, in the order of their slots. -/
def active (subs : List Subscription) : List Subscription := subs.filter fun sub => sub.sid ≠ 0

/-- The pending bytes and the active subscriptions are what they were. -/
structure Untouched (w w' : World) : Prop where
  pending : w'.writeBuf.pending = w.writeBuf.pending
  subs : active w'.subs = active w.subs

/-- A call that returns a failure leaves everything untouched. -/
def Atomic (call : Comm Int) (failed : Int → Prop) (w : World) : Prop :=
  ∀ rc w', call w = (.ok rc, w') → failed rc → Untouched w w'

/-- The header of a publication is appended, and then the payload or the end is refused. -/
def PublishTorn (env : Env) (w : World) (subject replyto : Option (List UInt8)) (data : List UInt8)
    (len : Nat) : Prop :=
  ∃ text i, subject = some text ∧ admits text replyto = true ∧
    firstRefused env.alloc w.clock w.writeBuf
      [headerOf (pubText text replyto len), (data, len), (ascii "\r\n", 2)] = some (i + 1)

/-- A subscription finds a place, and then one of its lines is refused. -/
def SubscribeTorn (env : Env) (w : World) (subject : List UInt8) (max : Int) : Prop :=
  ((findHole w.subs).isSome ∨ env.arrayPush w.clock = true) ∧
    (firstRefused env.alloc (w.clock + 1) w.writeBuf
      (subscribeAppends subject (w.nextId + 1) max)).isSome

/-- A subscription is removed, and then its line is refused. -/
def UnsubscribeTorn (env : Env) (w : World) (sid : Int) : Prop :=
  sid ≠ 0 ∧ (getSubscription w.subs sid).isSome ∧
    (firstRefused env.alloc w.clock w.writeBuf [headerOf (unsubText sid)]).isSome

/-- A call that returns a failure and leaves everything untouched. -/
theorem atomic_of_run {call : Comm Int} {failed : Int → Prop} {rc : Int} {w' : World}
    (run : call w = (.ok rc, w')) (untouched : Untouched w w') : Atomic call failed w := by
  intro rc' w'' run' _
  rw [run] at run'
  cases run'
  exact untouched

/-- A call that fails and touches something is not atomic. -/
theorem not_atomic_of_run {call : Comm Int} {failed : Int → Prop} {rc : Int} {w' : World}
    (run : call w = (.ok rc, w')) (fails : failed rc) (touched : ¬Untouched w w') :
    ¬Atomic call failed w := fun atomic => touched (atomic rc w' run fails)

/-- Nothing is touched by doing nothing. -/
theorem Untouched.refl (w : World) : Untouched w w := ⟨rfl, rfl⟩

/-- A function that appends messages, and goes on to return no failure when all were accepted. -/
theorem atomic_of_accepted {messages : List (List UInt8 × Nat)} {failed : Int → Prop}
    {call : Comm Int} {next : Int → Comm Int} {between : World}
    (accepted : firstRefused env.alloc between.clock between.writeBuf messages = none)
    (runs : call w = (appendAll env messages >>= next) between)
    (succeeds : ∀ rc w₁ w₂, next ngxOk w₁ = (.ok rc, w₂) → ¬failed rc) : Atomic call failed w := by
  intro rc w' run fails
  rw [runs, Program.bind_run] at run
  split at run
  · next rc₁ w₁ appended =>
    obtain ⟨rfl, -⟩ := appendAll_accepted accepted appended
    exact (succeeds rc w₁ w' run fails).elim
  · cases run

/-- A text that is not empty has a header of its own size. -/
theorem messageSize_headerOf {text : List UInt8} (nonempty : text ≠ []) :
    0 < messageSize (headerOf text).1 (headerOf text).2 := by
  have length : 0 < (snprintf headerSize text).length := by
    have positive := List.length_pos_iff.mpr nonempty
    simp only [snprintf, List.length_take, headerSize]
    omega
  unfold headerOf messageSize
  rw [if_neg (Nat.ne_of_gt length)]
  exact length

/-- The header of a publication is not empty. -/
theorem pubText_nonempty (subject : List UInt8) (replyto : Option (List UInt8)) (len : Nat) :
    pubText subject replyto len ≠ [] := by
  cases replyto with
  | none => simp [pubText, ascii]
  | some replyto => simp [pubText, ascii]

/-- A publication is atomic unless it is torn. -/
theorem publish_atomic_iff (ready : w.Ready) (formed : w.writeBuf.WellFormed)
    (subject replyto : Option (List UInt8)) (data : List UInt8) (len : Nat) :
    Atomic (publish env k subject replyto data len) (· ≠ ngxOk) w ↔
      ¬PublishTorn env w subject replyto data len := by
  cases subject with
  | none =>
    have run : publish env k none replyto data len w = (.ok ngxError, w) := by
      unfold publish
      simp only [Program.get_bind, ready.dataSet, ready.attached, ready.state, not_true_eq_false,
        ne_eq, ↓reduceIte, Program.pure_run]
    refine iff_of_true (atomic_of_run run (Untouched.refl w)) ?_
    rintro ⟨text, i, absurd, -⟩
    cases absurd
  | some text =>
    by_cases admitted : admits text replyto = true
    · have runs := @publish_ready env k _ ready _ _ admitted data len
      rw [publishFrame_eq] at runs
      cases refused : firstRefused env.alloc w.clock w.writeBuf
          [headerOf (pubText text replyto len), (data, len), (ascii "\r\n", 2)] with
      | none =>
        refine iff_of_true (atomic_of_accepted refused runs ?_) ?_
        · intro rc w₁ w₂ run
          simp only [ne_eq, not_true_eq_false, ↓reduceIte] at run
          rw [Program.bind_run] at run
          split at run
          · cases run
            exact fun fails => fails rfl
          · cases run
        · rintro ⟨other, i, same, -, torn⟩
          cases same
          rw [refused] at torn
          cases torn
      | some i =>
        obtain ⟨w', appended, subs, first, length⟩ := appendAll_refused formed refused
        have run : publish env k (some text) replyto data len w = (.ok ngxError, w') := by
          rw [runs]
          exact Program.bind_ok appended
        cases i with
        | zero =>
          refine iff_of_true (atomic_of_run run ⟨first rfl, by rw [subs]⟩) ?_
          rintro ⟨other, i, same, -, torn⟩
          cases same
          rw [refused] at torn
          cases torn
        | succ i =>
          refine iff_of_false (not_atomic_of_run run (by decide) ?_) ?_
          · intro untouched
            have positive := messageSize_headerOf (pubText_nonempty text replyto len)
            rw [untouched.pending] at length
            simp only [totalSize, List.take_succ_cons, List.map_cons, List.sum_cons] at length
            omega
          · exact fun sound => sound ⟨text, i, rfl, admitted, refused⟩
    · have run : publish env k (some text) replyto data len w = (.ok ngxDeclined, w) := by
        unfold publish
        simp only [Program.get_bind, ready.dataSet, ready.attached, ready.state, admitted,
          not_true_eq_false, not_false_eq_true, Bool.false_eq_true, ne_eq, ↓reduceIte,
          Program.pure_run]
      refine iff_of_true (atomic_of_run run (Untouched.refl w)) ?_
      rintro ⟨other, i, same, absurd, -⟩
      cases same
      exact admitted absurd

/-- Entering a subscription adds one to the active ones. -/
theorem addSubscription_active {subs subs' : List Subscription} {sub : Subscription}
    {granted : Bool} (named : sub.sid ≠ 0)
    (entered : addSubscription subs sub granted = some subs') :
    (active subs').length = (active subs).length + 1 := by
  unfold addSubscription at entered
  cases hole : findHole subs with
  | some i =>
    obtain ⟨old, entry, free, -⟩ := SlotTable.index_lookup hole
    obtain ⟨left, right, rfl, replaced⟩ := SlotTable.split_at entry
    rw [hole, Option.some.injEq, replaced] at entered
    subst entered
    simp only [active, List.filter_append, List.filter_cons, List.length_append, free, named,
      ne_eq, not_true_eq_false, not_false_eq_true, decide_false, decide_true, Bool.false_eq_true,
      ↓reduceIte, List.length_cons]
    omega
  | none =>
    simp only [hole, Option.ite_none_right_eq_some, Option.some.injEq] at entered
    obtain ⟨-, rfl⟩ := entered
    simp [active, named]

/-- When a subscription finds a place. -/
theorem addSubscription_none {subs : List Subscription} {sub : Subscription} {granted : Bool} :
    addSubscription subs sub granted = none ↔ ¬((findHole subs).isSome ∨ granted = true) := by
  unfold addSubscription
  cases findHole subs with
  | some i => simp
  | none => simp

/-- Entering a subscription changes the table only when it finds a place. -/
theorem enterSubscription_run (env : Env) (client : Nat) (max : Int) (handleMsg data : Nat)
    (w : World) : ∃ w', w'.clock = w.clock + 1 ∧ w'.writeBuf = w.writeBuf ∧
      match addSubscription w.subs
          ⟨client, handleMsg, data, Word.signed (w.nextId + 1), max, 0⟩ (env.arrayPush w.clock) with
      | none => w'.subs = w.subs ∧
          enterSubscription env client max handleMsg data w = (.ok none, w')
      | some subs => w'.subs = subs ∧ enterSubscription env client max handleMsg data w =
          (.ok (some ⟨client, handleMsg, data, Word.signed (w.nextId + 1), max, 0⟩), w') := by
  unfold enterSubscription
  simp only [ask_bind, Program.get_bind]
  split
  · next unplaced =>
    rw [unplaced]
    refine ⟨_, ?_, ?_, ?_, rfl⟩
    · rfl
    · rfl
    · rfl
  · next subs entered =>
    rw [entered]
    refine ⟨_, ?_, ?_, ?_, rfl⟩
    · rfl
    · rfl
    · rfl

/-- A subscribe is atomic unless it is torn. -/
theorem subscribe_atomic_iff (ready : w.Ready) (formed : w.writeBuf.WellFormed)
    (nonneg : 0 ≤ w.nextId) (fits : w.nextId + 1 < 2 ^ 63) (client : Nat) (subject : List UInt8)
    (max : Int) (handleMsg data : Nat) :
    Atomic (subscribe env k client subject max handleMsg data) (· ≤ 0) w ↔
      ¬SubscribeTorn env w subject max := by
  have next : Word.signed (w.nextId + 1) = w.nextId + 1 := Word.signed_of_bounds (by omega) fits
  obtain ⟨w₁, clock, writeBuf, outcome⟩ :=
    enterSubscription_run env client max handleMsg data w
  cases entered : addSubscription w.subs
      ⟨client, handleMsg, data, Word.signed (w.nextId + 1), max, 0⟩ (env.arrayPush w.clock) with
  | none =>
    rw [entered] at outcome
    have runs : subscribe env k client subject max handleMsg data w = (.ok ngxError, w₁) := by
      unfold subscribe
      simp only [Program.get_bind, ready.dataSet, ready.attached, ready.state, not_true_eq_false,
        ne_eq, ↓reduceIte]
      rw [Program.bind_ok outcome.2]
      rfl
    exact iff_of_true (atomic_of_run runs ⟨by rw [writeBuf], by rw [outcome.1]⟩)
      fun torn => addSubscription_none.mp entered torn.1
  | some subs =>
    rw [entered] at outcome
    have runs : subscribe env k client subject max handleMsg data w = (do
        let rc ← appendAll env (subscribeAppends subject (w.nextId + 1) max)
        if rc ≠ ngxOk then
          emit (.subscribeFailed (w.nextId + 1))
          return rc
        else
          flush env k
          return w.nextId + 1) w₁ := by
      rw [← next, ← subscribeLines_eq]
      unfold subscribe
      simp only [Program.get_bind, ready.dataSet, ready.attached, ready.state, not_true_eq_false,
        ne_eq, ↓reduceIte]
      rw [Program.bind_ok outcome.2]
    have placed : (findHole w.subs).isSome ∨ env.arrayPush w.clock = true := by
      by_contra unplaced
      rw [addSubscription_none.mpr unplaced] at entered
      cases entered
    have torn_iff : SubscribeTorn env w subject max ↔ (firstRefused env.alloc w₁.clock w₁.writeBuf
        (subscribeAppends subject (w.nextId + 1) max)).isSome := by
      rw [clock, writeBuf]
      exact and_iff_right placed
    rw [torn_iff]
    cases refused : firstRefused env.alloc w₁.clock w₁.writeBuf
        (subscribeAppends subject (w.nextId + 1) max) with
    | none =>
      refine iff_of_true (atomic_of_accepted refused runs ?_) (by simp)
      intro rc w₂ w₃ run
      simp only [ne_eq, not_true_eq_false, ↓reduceIte] at run
      rw [Program.bind_run] at run
      split at run
      · cases run
        exact Int.not_le.mpr (by omega)
      · cases run
    | some i =>
      obtain ⟨w', appended, kept, -, -⟩ := appendAll_refused (writeBuf ▸ formed) refused
      rw [Program.bind_ok appended] at runs
      refine iff_of_false (not_atomic_of_run runs (by decide) ?_) (by simp)
      intro untouched
      have named : Word.signed (w.nextId + 1) ≠ 0 := by omega
      have more := addSubscription_active named entered
      have same : active subs = active w.subs := by
        rw [← untouched.subs, ← outcome.1]
        exact congrArg active kept.symm
      rw [same] at more
      omega

/-- Removing a subscription takes one from the active ones. -/
theorem removeSubscription_active {subs : List Subscription} {sid : Int} {i : Nat}
    (named : sid ≠ 0) (found : getSubscription subs sid = some i) :
    (active (removeSubscription subs sid).1).length + 1 = (active subs).length ∧
      (removeSubscription subs sid).2 = sid := by
  obtain ⟨sub, entry, held, -⟩ := getSubscription_some found
  obtain ⟨left, right, rfl, replaced⟩ := SlotTable.split_at entry
  unfold getSubscription at found
  unfold removeSubscription
  rw [if_neg named, found]
  dsimp only
  rw [SlotTable.modify_at entry, replaced]
  subst held
  simp only [active, List.filter_append, List.filter_cons, List.length_append, named, ne_eq,
    not_true_eq_false, not_false_eq_true, decide_false, decide_true, Bool.false_eq_true, ↓reduceIte,
    List.length_cons]
  exact ⟨by omega, trivial⟩

/-- An unsubscribe is atomic unless it is torn. -/
theorem unsubscribe_atomic_iff (ready : w.Ready) (formed : w.writeBuf.WellFormed) (sid : Int) :
    Atomic (unsubscribe env k sid) (· ≠ ngxOk) w ↔ ¬UnsubscribeTorn env w sid := by
  by_cases named : sid = 0
  · have run : unsubscribe env k sid w = (.ok ngxDeclined, w) := by
      unfold unsubscribe
      rw [if_pos named, Program.pure_run]
    exact iff_of_true (atomic_of_run run (Untouched.refl w)) fun torn => torn.1 named
  · have runs : unsubscribe env k sid w = (dropSubscription sid >>= fun removed =>
        if ¬removed then return ngxDeclined
        else do
          let rc ← addHeader env (unsubText sid)
          if rc ≠ ngxOk then return rc
          else
            flush env k
            return ngxOk) w := by
      unfold unsubscribe
      rw [if_neg named]
      simp only [Program.get_bind, ready.dataSet, ready.attached, ready.state, not_true_eq_false,
        ne_eq, ↓reduceIte]
    have single : addHeader env (unsubText sid) = appendAll env [headerOf (unsubText sid)] :=
      (appendAll_single env _ _).symm
    cases found : getSubscription w.subs sid with
    | none =>
      have kept : removeSubscription w.subs sid = (w.subs, 0) := by
        unfold getSubscription at found
        rw [removeSubscription, if_neg named, found]
      have dropped : dropSubscription sid w = (.ok false, w) := by
        unfold dropSubscription
        simp only [Program.get_bind, kept, ↓reduceIte, Program.pure_run]
      rw [Program.bind_ok dropped] at runs
      refine iff_of_true (atomic_of_run runs (Untouched.refl w)) ?_
      rintro ⟨-, absurd, -⟩
      rw [found] at absurd
      cases absurd
    | some i =>
      obtain ⟨fewer, answer⟩ := removeSubscription_active named found
      obtain ⟨w₁, dropped, clock, writeBuf, subs⟩ : ∃ w₁, dropSubscription sid w = (.ok true, w₁) ∧
          w₁.clock = w.clock ∧ w₁.writeBuf = w.writeBuf ∧
          w₁.subs = (removeSubscription w.subs sid).1 := by
        unfold dropSubscription
        simp only [Program.get_bind, answer, named, ↓reduceIte, record_bind, Program.pure_run]
        exact ⟨_, rfl, rfl, rfl, rfl⟩
      rw [Program.bind_ok dropped] at runs
      simp only [not_true_eq_false, ↓reduceIte] at runs
      rw [single] at runs
      have torn_iff : UnsubscribeTorn env w sid ↔
          (firstRefused env.alloc w₁.clock w₁.writeBuf [headerOf (unsubText sid)]).isSome := by
        rw [UnsubscribeTorn, found, clock, writeBuf]
        exact (and_iff_right named).trans (and_iff_right rfl)
      rw [torn_iff]
      cases refused : firstRefused env.alloc w₁.clock w₁.writeBuf [headerOf (unsubText sid)] with
      | none =>
        refine iff_of_true (atomic_of_accepted refused runs ?_) (by simp)
        intro rc w₂ w₃ run
        simp only [ne_eq, not_true_eq_false, ↓reduceIte] at run
        rw [Program.bind_run] at run
        split at run
        · cases run
          exact fun fails => fails rfl
        · cases run
      | some j =>
        obtain ⟨w', appended, kept, -, -⟩ := appendAll_refused (writeBuf ▸ formed) refused
        rw [Program.bind_ok appended] at runs
        refine iff_of_false (not_atomic_of_run runs (by decide) ?_) (by simp)
        intro untouched
        have same : active (removeSubscription w.subs sid).1 = active w.subs := by
          rw [← untouched.subs, ← subs]
          exact congrArg active kept.symm
        rw [same] at fewer
        omega

/-- The client calls are atomic on error exactly when no append is refused after the first
change: the header of a publication, the entry of a subscription, its removal. -/
theorem client_calls_atomic_iff (env : Env) (k : Calls) (w : World) (ready : w.Ready)
    (formed : w.writeBuf.WellFormed) (nonneg : 0 ≤ w.nextId) (fits : w.nextId + 1 < 2 ^ 63) :
    (∀ subject replyto data len,
      Atomic (publish env k subject replyto data len) (· ≠ ngxOk) w ↔
        ¬PublishTorn env w subject replyto data len) ∧
    (∀ client subject max handleMsg data,
      Atomic (subscribe env k client subject max handleMsg data) (· ≤ 0) w ↔
        ¬SubscribeTorn env w subject max) ∧
    ∀ sid, Atomic (unsubscribe env k sid) (· ≠ ngxOk) w ↔ ¬UnsubscribeTorn env w sid :=
  ⟨publish_atomic_iff ready formed, subscribe_atomic_iff ready formed nonneg fits,
    unsubscribe_atomic_iff ready formed⟩

/-- After a handshake. -/
theorem client_calls_atomic_greeted :
    (∀ subject replyto data len,
      Atomic (publish granting (calls granting 2) subject replyto data len) (· ≠ ngxOk) greeted ↔
        ¬PublishTorn granting greeted subject replyto data len) ∧
    (∀ client subject max handleMsg data,
      Atomic (subscribe granting (calls granting 2) client subject max handleMsg data) (· ≤ 0)
        greeted ↔ ¬SubscribeTorn granting greeted subject max) ∧
    ∀ sid, Atomic (unsubscribe granting (calls granting 2) sid) (· ≠ ngxOk) greeted ↔
      ¬UnsubscribeTorn granting greeted sid :=
  client_calls_atomic_iff granting (calls granting 2) greeted greeted_ready
    (reached_formed granting 2 _ _ _) (by decide +kernel) (by decide +kernel)

/-- Surroundings that grant no memory for a larger buffer. -/
def ungranting : Env := { granting with alloc := fun _ _ => none }

/-- A payload that does not fit, when no memory is granted: its header stays behind. -/
theorem publish_torn_payload : ¬∀ (env : Env) (k : Calls) (w : World), w.Ready →
    w.writeBuf.WellFormed →
    (∀ subject replyto data len,
      Atomic (publish env k subject replyto data len) (· ≠ ngxOk) w) ∧
    (∀ client subject max handleMsg data,
      Atomic (subscribe env k client subject max handleMsg data) (· ≤ 0) w) ∧
    ∀ sid, Atomic (unsubscribe env k sid) (· ≠ ngxOk) w := by
  intro claim
  have formed := reached_formed granting 2
    [.init, .readable [.bytes (ascii "INFO \x7b\"version\":\"1\"\x7d\r\nPONG\r\n")]]
    (fun _ => 0) fun _ => 0
  have atomic :=
    (claim ungranting (calls ungranting 2) greeted greeted_ready formed).1 (some (ascii "a")) none
    (List.replicate 5000 0) 5000
  have refused : firstRefused ungranting.alloc greeted.clock greeted.writeBuf
      [headerOf (pubText (ascii "a") none 5000), (List.replicate 5000 0, 5000), (ascii "\r\n", 2)] =
        some 1 := by decide +kernel
  exact (publish_atomic_iff greeted_ready formed _ _ _ _).mp atomic
    ⟨ascii "a", 0, rfl, by decide, refused⟩

end NgxNats
