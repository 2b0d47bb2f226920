import NgxNats.Lib.SlotTable
import NgxNats.Verif.Act

/-!
# The subscription array as a finite map

The array with its holes, seen as the map from sids to active subscriptions: looking up, adding,
counting a frame and removing are the operations of a map.
-/
namespace NgxNats

open SlotTable (Represents)

/-- The active subscriptions by sid. -/
abbrev Registry := Finmap fun _ : Int => Subscription

/-- The subscription the array has for a sid. -/
abbrev entryOf (subs : List Subscription) (sid : Int) : Option Subscription :=
  SlotTable.lookup Subscription.sid subs sid

/-- The sids of the active subscriptions in an array. -/
abbrev activeSids (subs : List Subscription) : List Int := SlotTable.keys Subscription.sid 0 subs

/-- The array represents a registry: the sid 0 marks a hole. -/
abbrev Tabulates (subs : List Subscription) (m : Registry) : Prop :=
  Represents Subscription.sid 0 subs m

/-- A frame for a sid: a subscription with a maximum counts it, and is removed when it reaches
the maximum. -/
def Registry.count (m : Registry) (sid : Int) : Registry :=
  match m.lookup sid with
  | none => m
  | some sub =>
    if 0 < sub.max then
      if sub.max ≤ sub.recv + 1 then m.erase sid else m.insert sid { sub with recv := sub.recv + 1 }
    else m

variable {subs : List Subscription} {m : Registry} {sid : Int} {sub : Subscription} {i : Nat}

/-- `ngx_nats_get_subscription` finds the entry of a sid. -/
theorem getSubscription_some (found : getSubscription subs sid = some i) :
    ∃ sub, subs[i]? = some sub ∧ sub.sid = sid ∧ entryOf subs sid = some sub :=
  SlotTable.index_lookup found

/-- `ngx_nats_get_subscription` finds nothing where there is no entry. -/
theorem getSubscription_none (unknown : getSubscription subs sid = none) :
    entryOf subs sid = none :=
  SlotTable.index_none unknown

/-- A sid that `ngx_nats_get_subscription` does not find is not active. -/
theorem getSubscription_inactive (tabulates : Tabulates subs m)
    (unknown : getSubscription subs sid = none) : sid ∉ m := by
  by_cases hole : sid = 0
  · exact hole ▸ tabulates.unheld
  · rw [← Finmap.lookup_eq_none, ← tabulates.found sid hole]
    exact getSubscription_none unknown

/-- `ngx_nats_remove_subscription` removes the entry of a sid, and only of one that is there. -/
theorem removeSubscription_erases (tabulates : Tabulates subs m) (named : sid ≠ 0) :
    Tabulates (removeSubscription subs sid).1 (m.erase sid) ∧
      (removeSubscription subs sid).2 = if sid ∈ m then sid else 0 := by
  unfold removeSubscription
  rw [if_neg named]
  cases found : subs.findIdx? fun sub => sub.sid = sid with
  | none =>
    have unknown := SlotTable.index_none found
    rw [tabulates.found sid named, Finmap.lookup_eq_none] at unknown
    rw [if_neg unknown]
    dsimp only
    refine ⟨?_, rfl⟩
    have same : m.erase sid = m := by
      apply Finmap.ext_lookup
      intro other
      by_cases here : other = sid
      · rw [here, Finmap.lookup_erase, Finmap.lookup_eq_none.mpr unknown]
      · rw [Finmap.lookup_erase_ne here]
    rw [same]
    exact tabulates
  | some i =>
    obtain ⟨sub, entry, held, known⟩ := SlotTable.index_lookup found
    rw [tabulates.found sid named] at known
    rw [if_pos (Finmap.mem_of_lookup_eq_some known)]
    refine ⟨?_, rfl⟩
    dsimp only
    rw [SlotTable.modify_at entry, ← held]
    exact tabulates.clear entry rfl

/-- `ngx_nats_add_subscription` adds an entry for a fresh sid, in a hole if there is one. -/
theorem addSubscription_inserts {granted : Bool} {subs' : List Subscription}
    (tabulates : Tabulates subs m) (named : sub.sid ≠ 0) (fresh : sub.sid ∉ m)
    (entered : addSubscription subs sub granted = some subs') :
    Tabulates subs' (m.insert sub.sid sub) ∧
      (subs'.length = subs.length ∨ subs'.length = (m.insert sub.sid sub).keys.card) := by
  unfold addSubscription at entered
  cases hole : findHole subs with
  | some i =>
    obtain ⟨old, entry, free, -⟩ := SlotTable.index_lookup hole
    rw [hole, Option.some.injEq] at entered
    subst entered
    exact ⟨tabulates.fill entry free named fresh, .inl List.length_set⟩
  | none =>
    simp only [hole, Option.ite_none_right_eq_some, Option.some.injEq] at entered
    obtain ⟨-, rfl⟩ := entered
    have added := tabulates.push named fresh
    refine ⟨added, .inr ?_⟩
    rw [← added.card, SlotTable.length_keys]
    intro slot inside
    rcases List.mem_append.mp inside with old | new
    · simpa using List.findIdx?_eq_none_iff.mp hole slot old
    · rw [List.mem_singleton.mp new]
      exact named

/-- Counting a frame changes the entry it is found in. -/
theorem countedSubs_set (found : getSubscription subs sid = some i) (entry : subs[i]? = some sub)
    (held : sub.sid = sid) : countedSubs subs i sub =
      if 0 < sub.max then
        if sid ≠ 0 ∧ sub.max ≤ sub.recv + 1 then
          subs.set i { sub with recv := sub.recv + 1, sid := 0 }
        else subs.set i { sub with recv := sub.recv + 1 }
      else subs := by
  subst held
  unfold countedSubs
  split
  · by_cases full : sub.max ≤ sub.recv + 1
    · rw [if_pos full]
      by_cases hole : sub.sid = 0
      · rw [if_neg (fun both => both.1 hole), removeSubscription, if_pos hole]
      · rw [if_pos ⟨hole, full⟩, removeSubscription, if_neg hole]
        have stays : (subs.set i { sub with recv := sub.recv + 1 }).findIdx?
            (fun other => other.sid = sub.sid) = some i := SlotTable.index_set found rfl
        have inside := (List.getElem?_eq_some_iff.mp entry).1
        rw [stays]
        dsimp only
        rw [SlotTable.modify_at (List.getElem?_set_self inside), List.set_set]
    · rw [if_neg full, if_neg (fun both => full both.2)]
  · rfl

/-- Removing a subscription leaves its slot. -/
theorem removeSubscription_length (subs : List Subscription) (sid : Int) :
    (removeSubscription subs sid).1.length = subs.length := by
  unfold removeSubscription
  split
  · rfl
  · split
    · exact List.length_modify ..
    · rfl

/-- Counting a frame adds and drops no slot. -/
theorem countedSubs_length (subs : List Subscription) (i : Nat) (sub : Subscription) :
    (countedSubs subs i sub).length = subs.length := by
  unfold countedSubs
  split
  · split
    · rw [removeSubscription_length, List.length_set]
    · exact List.length_set
  · rfl

/-- A frame for a sid that is not active changes nothing. -/
theorem Registry.count_unknown (unknown : sid ∉ m) : m.count sid = m := by
  unfold Registry.count
  rw [Finmap.lookup_eq_none.mpr unknown]

/-- Counting a frame activates no subscription. -/
theorem Registry.mem_count {other : Int} (inside : other ∈ m.count sid) : other ∈ m := by
  unfold Registry.count at inside
  cases known : m.lookup sid with
  | none =>
    rw [known] at inside
    exact inside
  | some sub =>
    simp only [known] at inside
    split at inside
    · split at inside
      · exact (Finmap.mem_erase.mp inside).2
      · rcases Finmap.mem_insert.mp inside with rfl | earlier
        · exact Finmap.mem_of_lookup_eq_some known
        · exact earlier
    · exact inside

/-- Counting a frame in the array counts it in the registry. -/
theorem countedSubs_counts (tabulates : Tabulates subs m)
    (found : getSubscription subs sid = some i) (entry : subs[i]? = some sub) :
    Tabulates (countedSubs subs i sub) (m.count sid) := by
  obtain ⟨other, same, held, known⟩ := getSubscription_some found
  rw [entry, Option.some.injEq] at same
  subst same
  rw [countedSubs_set found entry held]
  by_cases hole : sid = 0
  · rw [Registry.count_unknown (hole ▸ tabulates.unheld)]
    split
    · rw [if_neg fun both => both.1 hole]
      exact tabulates.idle entry (held.trans hole) (held.trans hole)
    · exact tabulates
  · have held' : m.lookup sid = some sub := (tabulates.found sid hole).symm.trans known
    unfold Registry.count
    rw [held']
    dsimp only
    split
    · by_cases full : sub.max ≤ sub.recv + 1
      · rw [if_pos ⟨hole, full⟩, if_pos full, ← held]
        exact tabulates.clear entry rfl
      · rw [if_neg (fun both => full both.2), if_neg full, ← held]
        exact tabulates.revise entry rfl (held ▸ hole)
    · exact tabulates

end NgxNats
