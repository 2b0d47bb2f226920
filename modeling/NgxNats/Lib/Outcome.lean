import NgxNats.Lib.Program

/-!
# Outcomes of programs that may refuse

`Leads` keeps the state a fault leaves behind and forgets the fault. Where a fault is an answer,
such as the error code of a parser, it is the other way round: `Ends` says what a run returned or
with which faults it may have stopped.
-/
namespace Program

variable {ε σ α β : Type}

/-- The run of `program` from `state` returns as `post` says or stops with one of `stops`. -/
def Ends (program : Program ε σ α) (state : σ) (post : α → σ → Prop) (stops : ε → Prop) : Prop :=
  match program state with
  | (.ok value, last) => post value last
  | (.error stop, _) => stops stop

namespace Ends

variable {post : α → σ → Prop} {stops : ε → Prop} {state : σ}

/-- What holds of a run that returned. -/
theorem ok {program : Program ε σ α} {value : α} {last : σ}
    (ends : Ends program state post stops) (run : program state = (.ok value, last)) :
    post value last := by
  unfold Ends at ends
  rw [run] at ends
  exact ends

/-- What holds of the fault that stopped a run. -/
theorem error {program : Program ε σ α} {stop : ε} {last : σ}
    (ends : Ends program state post stops) (run : program state = (.error stop, last)) :
    stops stop := by
  unfold Ends at ends
  rw [run] at ends
  exact ends

/-- A run that returns ends well when the postcondition holds of what was returned. -/
theorem of_ok {program : Program ε σ α} {value : α} {last : σ}
    (run : program state = (.ok value, last)) (holds : post value last) :
    Ends program state post stops := by
  unfold Ends
  rw [run]
  exact holds

/-- A run that stops ends well when its fault is allowed. -/
theorem of_error {program : Program ε σ α} {stop : ε} {last : σ}
    (run : program state = (.error stop, last)) (allowed : stops stop) :
    Ends program state post stops := by
  unfold Ends
  rw [run]
  exact allowed

/-- A run ends as another run does that is the same. -/
theorem of_run {program other : Program ε σ α} {start : σ} (same : program state = other start)
    (ends : Ends other start post stops) : Ends program state post stops := by
  unfold Ends at ends ⊢
  rw [same]
  exact ends

/-- A program whose first part is known to return ends as the rest does. -/
theorem step {first : Program ε σ α} {next : α → Program ε σ β} {post : β → σ → Prop}
    {value : α} {middle : σ} (run : first state = (.ok value, middle))
    (tail : Ends (next value) middle post stops) : Ends (first >>= next) state post stops := by
  unfold Ends at tail ⊢
  rw [bind_ok run]
  exact tail

/-- Two programs in order end as the second one does from what the first one left. -/
theorem bind {first : Program ε σ α} {next : α → Program ε σ β} {middle : α → σ → Prop}
    {post : β → σ → Prop} (head : Ends first state middle stops)
    (tail : ∀ value between, middle value between → Ends (next value) between post stops) :
    Ends (first >>= next) state post stops := by
  unfold Ends at head ⊢
  rw [bind_run]
  match run : first state with
  | (.ok value, between) =>
    rw [run] at head
    exact tail value between head
  | (.error stop, between) =>
    rw [run] at head
    exact head

/-- A weaker postcondition. -/
theorem weaken {program : Program ε σ α} {post' : α → σ → Prop}
    (ends : Ends program state post stops)
    (returns : ∀ value last, post value last → post' value last) :
    Ends program state post' stops := by
  unfold Ends at ends ⊢
  match run : program state with
  | (.ok value, last) =>
    rw [run] at ends
    exact returns value last ends
  | (.error stop, last) =>
    rw [run] at ends
    exact ends

end Ends

end Program
