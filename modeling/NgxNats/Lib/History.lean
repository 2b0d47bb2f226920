import Mathlib.Data.List.DropRight

/-!
# Histories

A history is a list of events, oldest first, that grows at its end. `Throughout` states a
condition of every event and the events before it; `since` is the part of a history after its last
marked event.
-/

namespace History

variable {α : Type}

/-- Every event of a history satisfies a condition on it and the events before it. -/
def Throughout (holds : List α → α → Prop) (history : List α) : Prop :=
  ∀ before event after, history = before ++ event :: after → holds before event

/-- The events after the last marked one. -/
def since (mark : α → Bool) (history : List α) : List α :=
  history.rtakeWhile fun event => !mark event

/-- A decidable condition is decided event by event. -/
instance decidableThroughout (holds : List α → α → Prop)
    [∀ before event, Decidable (holds before event)] (history : List α) :
    Decidable (Throughout holds history) :=
  decidable_of_iff (∀ i : Fin history.length, holds (history.take i) history[i]) (by
    constructor
    · rintro all before event after rfl
      simpa using all ⟨before.length, by simp⟩
    · intro all i
      exact all _ _ (history.drop (i + 1)) (by simp))

section Throughout

variable {holds : List α → α → Prop} {history : List α} {event : α}

/-- Nothing happened in the empty history. -/
theorem throughout_nil : Throughout holds [] := by
  intro before event after split
  simp at split

/-- A longer history satisfies the condition when the shorter one and the new event do. -/
theorem throughout_concat : Throughout holds (history ++ [event]) ↔
    Throughout holds history ∧ holds history event := by
  constructor
  · intro all
    constructor
    · intro before found after split
      exact all before found (after ++ [event]) (by simp [split])
    · exact all history event [] rfl
  · rintro ⟨all, last⟩ before found after split
    rcases List.eq_nil_or_concat' after with rfl | ⟨middle, final, rfl⟩
    · obtain ⟨rfl, rfl⟩ := List.append_singleton_inj.mp split
      exact last
    · rw [← List.cons_append, ← List.append_assoc] at split
      exact all before found middle (List.append_singleton_inj.mp split).1

/-- Events that satisfy the condition after any history may be added. -/
theorem Throughout.append {more : List α} (all : Throughout holds history)
    (added : ∀ event ∈ more, ∀ before, holds before event) :
    Throughout holds (history ++ more) := by
  induction more using List.reverseRecOn with
  | nil => simpa using all
  | append_singleton rest event ih =>
    rw [← List.append_assoc, throughout_concat]
    constructor
    · exact ih fun other inside => added other (List.mem_append_left _ inside)
    · exact added event (by simp) (history ++ rest)

/-- A condition that follows from another one. -/
theorem Throughout.mono {weaker : List α → α → Prop} (all : Throughout holds history)
    (follows : ∀ before event, holds before event → weaker before event) :
    Throughout weaker history := fun before event after split =>
  follows before event (all before event after split)

/-- The condition holds of the beginnings of a history. -/
theorem Throughout.left {more : List α} (all : Throughout holds (history ++ more)) :
    Throughout holds history := fun before event after split =>
  all before event (after ++ more) (by simp [split])

end Throughout

section Since

variable (mark : α → Bool) {history : List α} {event : α}

/-- An empty history has no events since a mark. -/
@[simp] theorem since_nil : since mark [] = [] := List.rtakeWhile_nil _

/-- A marked event starts over. -/
theorem since_marked (marked : mark event = true) : since mark (history ++ [event]) = [] := by
  simp [since, marked]

/-- Any other event is added. -/
theorem since_unmarked (unmarked : mark event = false) :
    since mark (history ++ [event]) = since mark history ++ [event] := by
  simp [since, unmarked]

/-- Events of which none is marked are added. -/
theorem since_append {more : List α} (unmarked : ∀ event ∈ more, mark event = false) :
    since mark (history ++ more) = since mark history ++ more := by
  induction more generalizing history with
  | nil => simp
  | cons event rest ih =>
    have first : since mark (history ++ [event]) = since mark history ++ [event] :=
      since_unmarked mark (unmarked event List.mem_cons_self)
    have others :
      since mark (history ++ [event] ++ rest) = since mark (history ++ [event]) ++ rest :=
      ih fun other inside => unmarked other (List.mem_cons_of_mem event inside)
    rw [List.append_cons, others, first, ← List.append_cons]

/-- What happened since the last marked event happened. -/
theorem mem_of_mem_since (inside : event ∈ since mark history) : event ∈ history :=
  (List.rtakeWhile_suffix _ _).mem inside

end Since

end History
