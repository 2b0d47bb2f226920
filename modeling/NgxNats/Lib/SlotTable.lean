import Mathlib.Data.Finmap

/-!
# Arrays with holes

A table of slots in which a slot with a distinguished key is a hole. An entry is found at the first
slot with its key, it is placed in a hole or at the end, and it is removed by making its slot a
hole. Such a table represents a finite map from keys to slots.
-/

namespace SlotTable

variable {κ α : Type} [DecidableEq κ] (key : α → κ) (hole : κ)

/-- The keys of the slots that are not holes. -/
def keys (slots : List α) : List κ := (slots.map key).filter (· ≠ hole)

/-- The first slot with a key. -/
def lookup (slots : List α) (k : κ) : Option α := slots.find? fun slot => key slot = k

/-- The slots represent a finite map: no key occurs twice, and every key but the one of a hole has
the slot the map gives it. -/
structure Represents (slots : List α) (m : Finmap fun _ : κ => α) : Prop where
  distinct : (keys key hole slots).Nodup
  found : ∀ k, k ≠ hole → lookup key slots k = m.lookup k
  unheld : hole ∉ m

section Slots

variable {key hole} {slots left right : List α} {k : κ} {x y : α}

/-- The keys of two parts of a table. -/
theorem keys_append :
    keys key hole (left ++ right) = keys key hole left ++ keys key hole right := by
  simp [keys]

/-- The keys of a slot and the slots behind it. -/
theorem keys_cons : keys key hole (x :: right) =
    if key x = hole then keys key hole right else key x :: keys key hole right := by
  by_cases free : key x = hole
  · simp [keys, free]
  · simp [keys, free]

/-- A key is used when some slot has it. -/
theorem mem_keys : k ∈ keys key hole slots ↔ k ≠ hole ∧ ∃ slot ∈ slots, key slot = k := by
  simp only [keys, List.mem_filter, List.mem_map, decide_eq_true_eq]
  exact and_comm

/-- A key that is not used is not found. -/
theorem lookup_eq_none (held : k ≠ hole) :
    lookup key slots k = none ↔ k ∉ keys key hole slots := by
  simp only [lookup, List.find?_eq_none, decide_eq_true_eq, mem_keys, not_and, not_exists]
  constructor
  · intro unknown _ slot inside
    exact unknown slot inside
  · exact fun unused => unused held

/-- The first slot with a key is in the first part of a table that has one. -/
theorem lookup_append :
    lookup key (left ++ right) k = (lookup key left k).or (lookup key right k) :=
  List.find?_append

/-- The first slot with a key, when there is a first slot. -/
theorem lookup_cons :
    lookup key (x :: right) k = if key x = k then some x else lookup key right k := by
  by_cases same : key x = k
  · simp [lookup, same]
  · simp [lookup, same]

/-- A found slot has the key. -/
theorem key_of_lookup (found : lookup key slots k = some x) : key x = k := by
  simpa using List.find?_some found

/-- The index of the first slot with a key. -/
theorem index_lookup {i : Nat} (index : slots.findIdx? (fun slot => key slot = k) = some i) :
    ∃ x, slots[i]? = some x ∧ key x = k ∧ lookup key slots k = some x := by
  obtain ⟨inside, same, -⟩ := List.findIdx?_eq_some_iff_getElem.mp index
  refine ⟨slots[i], List.getElem?_eq_getElem inside, by simpa using same, ?_⟩
  rw [lookup, List.find?_eq_bind_findIdx?_getElem?, index]
  exact List.getElem?_eq_getElem inside

/-- Without an index there is no slot with the key. -/
theorem index_none (index : slots.findIdx? (fun slot => key slot = k) = none) :
    lookup key slots k = none := by
  rw [lookup, List.find?_eq_bind_findIdx?_getElem?, index]
  rfl

/-- A slot replaced by one with the same key stays the first one. -/
theorem index_set {i : Nat} (index : slots.findIdx? (fun slot => key slot = k) = some i)
    (same : key x = k) : (slots.set i x).findIdx? (fun slot => key slot = k) = some i := by
  obtain ⟨inside, -, first⟩ := List.findIdx?_eq_some_iff_getElem.mp index
  refine List.findIdx?_eq_some_iff_getElem.mpr ⟨by simpa using inside, by simpa using same, ?_⟩
  intro j before
  rw [List.getElem_set_ne (by omega)]
  exact first j before

/-- Changing a slot is replacing it by its image. -/
theorem modify_at {i : Nat} (entry : slots[i]? = some y) (change : α → α) :
    slots.modify i change = slots.set i (change y) := by
  obtain ⟨inside, rfl⟩ := List.getElem?_eq_some_iff.mp entry
  apply List.ext_getElem
  · simp
  · intro j _ _
    rw [List.getElem_modify, List.getElem_set]
    split
    · next same =>
      subst same
      rfl
    · rfl

/-- The parts of a table before and behind a slot. -/
theorem split_at {i : Nat} (entry : slots[i]? = some y) :
    ∃ left right, slots = left ++ y :: right ∧ ∀ x, slots.set i x = left ++ x :: right := by
  obtain ⟨inside, rfl⟩ := List.getElem?_eq_some_iff.mp entry
  refine ⟨slots.take i, slots.drop (i + 1), ?_, fun x => ?_⟩
  · simp
  · rw [List.set_eq_take_append_cons_drop, if_pos inside]

/-- A table without holes has as many keys as slots. -/
theorem length_keys (full : ∀ slot ∈ slots, key slot ≠ hole) :
    (keys key hole slots).length = slots.length := by
  rw [keys, List.filter_eq_self.mpr, List.length_map]
  intro found inside
  obtain ⟨slot, member, rfl⟩ := List.mem_map.mp inside
  simpa using full slot member

end Slots

namespace Represents

variable {key hole} {slots left right : List α} {m m' : Finmap fun _ : κ => α} {i : Nat} {x y : α}

/-- The empty table represents the empty map. -/
theorem empty : Represents key hole [] ∅ :=
  ⟨List.nodup_nil, fun _ _ => rfl, Finmap.notMem_empty⟩

/-- The used keys are the keys of the map. -/
theorem mem_iff (represents : Represents key hole slots m) {k : κ} :
    k ∈ keys key hole slots ↔ k ∈ m := by
  by_cases held : k = hole
  · subst held
    simp [mem_keys, represents.unheld]
  · rw [← not_iff_not, ← lookup_eq_none held, represents.found k held, Finmap.lookup_eq_none]

/-- There are as many used slots as entries of the map. -/
theorem card (represents : Represents key hole slots m) :
    (keys key hole slots).length = m.keys.card := by
  rw [← List.toFinset_card_of_nodup represents.distinct]
  congr 1
  ext k
  rw [List.mem_toFinset, represents.mem_iff, Finmap.mem_keys]

/-- One slot is replaced. The map changes at the old and at the new key only. -/
theorem exchange (represents : Represents key hole (left ++ y :: right) m)
    (fresh : key x ≠ hole → key x ∉ keys key hole left ∧ key x ∉ keys key hole right)
    (other : ∀ k, k ≠ hole → k ≠ key x → k ≠ key y → m'.lookup k = m.lookup k)
    (new : key x ≠ hole → m'.lookup (key x) = some x)
    (old : key y ≠ hole → key y ≠ key x → m'.lookup (key y) = none) (unheld : hole ∉ m') :
    Represents key hole (left ++ x :: right) m' := by
  have distinct := represents.distinct
  rw [keys_append, keys_cons] at distinct
  have rest : (keys key hole left ++ keys key hole right).Nodup := by
    split at distinct
    · exact distinct
    · exact (List.nodup_cons.mp (List.nodup_middle.mp distinct)).2
  refine ⟨?_, fun k held => ?_, unheld⟩
  · rw [keys_append, keys_cons]
    split
    · exact rest
    · next used =>
      rw [List.nodup_middle, List.nodup_cons, List.mem_append, not_or]
      exact ⟨fresh used, rest⟩
  · by_cases isNew : key x = k
    · subst isNew
      have before := (lookup_eq_none held).mpr (fresh held).1
      rw [lookup_append, before, lookup_cons, if_pos rfl, new held]
      rfl
    · by_cases isOld : key y = k
      · subst isOld
        rw [if_neg held, List.nodup_middle, List.nodup_cons, List.mem_append, not_or] at distinct
        have before := (lookup_eq_none held).mpr distinct.1.1
        have behind := (lookup_eq_none held).mpr distinct.1.2
        rw [lookup_append, before, lookup_cons, if_neg isNew, behind, old held (Ne.symm isNew)]
        rfl
      · rw [other k held (Ne.symm isNew) (Ne.symm isOld), ← represents.found k held,
          lookup_append, lookup_append, lookup_cons, lookup_cons, if_neg isNew, if_neg isOld]

/-- An entry with a fresh key overwrites a hole. -/
theorem fill (represents : Represents key hole slots m) (entry : slots[i]? = some y)
    (free : key y = hole) (used : key x ≠ hole) (fresh : key x ∉ m) :
    Represents key hole (slots.set i x) (m.insert (key x) x) := by
  obtain ⟨left, right, rfl, replaced⟩ := split_at entry
  rw [← represents.mem_iff, keys_append, keys_cons, if_pos free, List.mem_append, not_or] at fresh
  rw [replaced]
  apply represents.exchange (fun _ => fresh)
  · intro k _ apart _
    exact Finmap.lookup_insert_of_ne m apart
  · exact fun _ => Finmap.lookup_insert m
  · exact fun held => (held free).elim
  · rw [Finmap.mem_insert, not_or]
    exact ⟨Ne.symm used, represents.unheld⟩

/-- An entry with a fresh key is added at the end. -/
theorem push (represents : Represents key hole slots m) (used : key x ≠ hole)
    (fresh : key x ∉ m) : Represents key hole (slots ++ [x]) (m.insert (key x) x) := by
  have unused := fresh
  rw [← represents.mem_iff] at unused
  refine ⟨?_, fun k held => ?_, ?_⟩
  · rw [keys_append, keys_cons, if_neg used]
    exact List.nodup_append_comm.mp (List.nodup_cons.mpr ⟨unused, represents.distinct⟩)
  · rw [lookup_append, lookup_cons]
    by_cases same : key x = k
    · subst same
      rw [(lookup_eq_none held).mpr unused, if_pos rfl, Finmap.lookup_insert]
      rfl
    · rw [if_neg same, represents.found k held, Finmap.lookup_insert_of_ne m (Ne.symm same)]
      exact Option.or_none
  · rw [Finmap.mem_insert, not_or]
    exact ⟨Ne.symm used, represents.unheld⟩

/-- The slot of an entry is made a hole. -/
theorem clear (represents : Represents key hole slots m) (entry : slots[i]? = some y)
    (emptied : key x = hole) : Represents key hole (slots.set i x) (m.erase (key y)) := by
  obtain ⟨left, right, rfl, replaced⟩ := split_at entry
  rw [replaced]
  apply represents.exchange (fun used => (used emptied).elim)
  · intro k _ _ apart
    exact Finmap.lookup_erase_ne apart
  · exact fun used => (used emptied).elim
  · exact fun _ _ => Finmap.lookup_erase (key y) m
  · exact fun inside => represents.unheld (Finmap.mem_erase.mp inside).2

/-- A hole is replaced by a hole. -/
theorem idle (represents : Represents key hole slots m) (entry : slots[i]? = some y)
    (free : key y = hole) (empty : key x = hole) : Represents key hole (slots.set i x) m := by
  obtain ⟨left, right, rfl, replaced⟩ := split_at entry
  rw [replaced]
  apply represents.exchange (fun used => (used empty).elim)
  · exact fun _ _ _ _ => rfl
  · exact fun used => (used empty).elim
  · exact fun used => (used free).elim
  · exact represents.unheld

/-- An entry is replaced by one with the same key. -/
theorem revise (represents : Represents key hole slots m) (entry : slots[i]? = some y)
    (same : key x = key y) (used : key y ≠ hole) :
    Represents key hole (slots.set i x) (m.insert (key y) x) := by
  obtain ⟨left, right, rfl, replaced⟩ := split_at entry
  have distinct := represents.distinct
  rw [keys_append, keys_cons, if_neg used, List.nodup_middle, List.nodup_cons, List.mem_append,
    not_or] at distinct
  rw [replaced]
  apply represents.exchange
  · exact fun _ => same ▸ distinct.1
  · intro k _ _ apart
    exact Finmap.lookup_insert_of_ne m apart
  · exact fun _ => same ▸ Finmap.lookup_insert m
  · exact fun _ apart => (apart same.symm).elim
  · rw [Finmap.mem_insert, not_or]
    exact ⟨Ne.symm used, represents.unheld⟩

end Represents

end SlotTable
