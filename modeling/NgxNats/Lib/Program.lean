import Mathlib.Logic.Relation

/-!
# Programs over a state that may stop with a fault

A program reads and writes a state and either returns a value or stops with a fault. The state
is kept in both cases, so a statement about every state a program leaves behind also covers the
runs a fault cuts short. `Leads` is the program logic: one postcondition for a run that returns
and one for a run that a fault cuts short. `Moves` relates the first state of a run to its last
one, whichever way it ends, and composes along any transitive relation.
-/

/-- A computation over `σ` with faults in `ε`; the state reached is kept when it faults. -/
def Program (ε σ α : Type) : Type := σ → Except ε α × σ

namespace Program

variable {ε σ α β : Type}

/-- Return a value and leave the state alone. -/
def ret (value : α) : Program ε σ α := fun state => (.ok value, state)

/-- Run one program and then another; a fault of the first is a fault of the whole. -/
def andThen (first : Program ε σ α) (next : α → Program ε σ β) : Program ε σ β := fun state =>
  match first state with
  | (.ok value, middle) => next value middle
  | (.error stop, middle) => (.error stop, middle)

/-- Programs are sequenced by `andThen`: a fault ends them and keeps the state it struck in. -/
instance : Monad (Program ε σ) where
  pure := ret
  bind := andThen

/-- The current state. -/
def get : Program ε σ σ := fun state => (.ok state, state)

/-- Replace the state by its image. -/
def modify (change : σ → σ) : Program ε σ Unit := fun state => (.ok (), change state)

/-- Stop with a fault. -/
def fault (stop : ε) : Program ε σ α := fun state => (.error stop, state)

/-- The value of an option, or a fault when there is none. -/
def require (stop : ε) : Option α → Program ε σ α
  | some value => ret value
  | none => fault stop

/-- Run a program for every element of a list, in order. -/
def forEach (items : List α) (body : α → Program ε σ Unit) : Program ε σ Unit :=
  match items with
  | [] => ret ()
  | item :: rest => andThen (body item) fun _ => forEach rest body

/-- Repeat a body until it yields a result, for at most the given number of rounds. -/
def repeatUntil (exhausted : ε) (body : Program ε σ (Option β)) : Nat → Program ε σ β
  | 0 => fault exhausted
  | rounds + 1 => andThen body fun
    | some result => ret result
    | none => repeatUntil exhausted body rounds

/-- A value is returned without a change of the state. -/
@[simp] theorem pure_run (value : α) (state : σ) :
    (pure value : Program ε σ α) state = (.ok value, state) := rfl

/-- A fault leaves the state as it is. -/
@[simp] theorem fault_run (stop : ε) (state : σ) :
    (fault stop : Program ε σ α) state = (.error stop, state) := rfl

/-- `modify` changes the state and returns nothing. -/
@[simp] theorem modify_run (change : σ → σ) (state : σ) :
    (modify change : Program ε σ Unit) state = (.ok (), change state) := rfl

/-- `get` returns the state. -/
@[simp] theorem get_run (state : σ) : (get : Program ε σ σ) state = (.ok state, state) := rfl

/-- Behind `get` the program goes on with the state. -/
@[simp] theorem get_bind (next : σ → Program ε σ β) (state : σ) :
    (get >>= next) state = next state state := rfl

/-- Behind `modify` the program goes on in the changed state. -/
@[simp] theorem modify_bind (change : σ → σ) (next : Unit → Program ε σ β) (state : σ) :
    (modify change >>= next) state = next () (change state) := rfl

/-- Behind a returned value the program goes on with it. -/
@[simp] theorem pure_bind_run (value : α) (next : α → Program ε σ β) (state : σ) :
    (pure value >>= next) state = next value state := rfl

/-- A conditional program runs one of its branches. -/
@[simp] theorem ite_run (condition : Prop) [Decidable condition] (yes no : Program ε σ α)
    (state : σ) : (if condition then yes else no) state =
      if condition then yes state else no state := by
  split
  · rfl
  · rfl

/-- Behind a requirement that is met the program goes on with the value. -/
@[simp] theorem require_some_bind (stop : ε) (value : α) (next : α → Program ε σ β) (state : σ) :
    (require stop (some value) >>= next) state = next value state := rfl

/-- A program that returned hands its value and state to the next one. -/
theorem bind_ok {first : Program ε σ α} {next : α → Program ε σ β} {state middle : σ} {value : α}
    (returned : first state = (.ok value, middle)) :
    (first >>= next) state = next value middle := by
  change andThen first next state = _
  simp only [andThen, returned]

/-- A program that faulted ends the whole run. -/
theorem bind_error {first : Program ε σ α} {next : α → Program ε σ β} {state middle : σ} {stop : ε}
    (faulted : first state = (.error stop, middle)) :
    (first >>= next) state = (.error stop, middle) := by
  change andThen first next state = _
  simp only [andThen, faulted]

/-- A run that returned a value left the state it ended in. -/
theorem run_of_returned {program : Program ε σ α} {state : σ} {value : α}
    (returned : (program state).1 = .ok value) :
    program state = (.ok value, (program state).2) := Prod.ext returned rfl

/-- Running two programs in order is running the first and then, if it returned, the second. -/
theorem bind_run (first : Program ε σ α) (next : α → Program ε σ β) (state : σ) :
    (first >>= next) state = match first state with
      | (.ok value, middle) => next value middle
      | (.error stop, middle) => (.error stop, middle) := rfl

/-- Running over two lists one after the other. -/
theorem forEach_append (first second : List α) (body : α → Program ε σ Unit) :
    forEach (first ++ second) body = forEach first body >>= fun _ => forEach second body := by
  induction first with
  | nil => rfl
  | cons item rest ih =>
    funext state
    change andThen (body item) (fun _ => forEach (rest ++ second) body) state =
      andThen (andThen (body item) fun _ => forEach rest body) (fun _ => forEach second body) state
    rw [ih]
    unfold andThen
    match body item state with
    | (.ok (), middle) => rfl
    | (.error stop, middle) => rfl

/-- The run of `program` from `state` satisfies `post` if it returns and `crash` if it faults. -/
def Leads (program : Program ε σ α) (state : σ) (post : α → σ → Prop) (crash : σ → Prop) : Prop :=
  match program state with
  | (.ok value, last) => post value last
  | (.error _, last) => crash last

namespace Leads

variable {post : α → σ → Prop} {crash : σ → Prop} {state : σ}

/-- What holds of a run that returned. -/
theorem ok {program : Program ε σ α} {value : α} {last : σ} (leads : Leads program state post crash)
    (run : program state = (.ok value, last)) : post value last := by
  unfold Leads at leads
  rw [run] at leads
  exact leads

/-- What holds of a run that faulted. -/
theorem error {program : Program ε σ α} {stop : ε} {last : σ}
    (leads : Leads program state post crash) (run : program state = (.error stop, last)) :
    crash last := by
  unfold Leads at leads
  rw [run] at leads
  exact leads

/-- Every run leads to the outcome it has. -/
theorem intro {program : Program ε σ α}
    (returns : ∀ value last, program state = (.ok value, last) → post value last)
    (faults : ∀ stop last, program state = (.error stop, last) → crash last) :
    Leads program state post crash := by
  unfold Leads
  match run : program state with
  | (.ok value, last) => exact returns value last run
  | (.error stop, last) => exact faults stop last run

/-- A run leads where another run leads that ends the same way. -/
theorem of_run {program other : Program ε σ α} {start : σ} (same : program state = other start)
    (leads : Leads other start post crash) : Leads program state post crash := by
  unfold Leads at leads ⊢
  rw [same]
  exact leads

/-- A run that returns leads to the postcondition when it holds of what was returned. -/
theorem of_ok {program : Program ε σ α} {value : α} {last : σ}
    (run : program state = (.ok value, last)) (holds : post value last) :
    Leads program state post crash := by
  unfold Leads
  rw [run]
  exact holds

/-- Returning leads to the postcondition when it already holds. -/
theorem pure {value : α} (holds : post value state) :
    Leads (Pure.pure value : Program ε σ α) state post crash := holds

/-- Reading the state leads where the rest leads with that state. -/
theorem get {next : σ → Program ε σ β} {post : β → σ → Prop}
    (tail : Leads (next state) state post crash) : Leads (Program.get >>= next) state post crash :=
  tail

/-- Changing the state leads to the postcondition when it holds of the changed state. -/
theorem modify {change : σ → σ} {post : Unit → σ → Prop} (holds : post () (change state)) :
    Leads (Program.modify change : Program ε σ Unit) state post crash := holds

/-- Requiring a value leads on with the value, or to the crash condition. -/
theorem require {stop : ε} {found : Option α}
    (some_ : ∀ value, found = some value → post value state)
    (none_ : found = none → crash state) :
    Leads (Program.require stop found : Program ε σ α) state post crash := by
  cases found with
  | some value => exact some_ value rfl
  | none => exact none_ rfl

/-- A fault leads to the crash condition when it already holds. -/
theorem fault {stop : ε} (holds : crash state) :
    Leads (Program.fault stop : Program ε σ α) state post crash := holds

/-- Two programs in order lead where the second one leads from what the first one left. -/
theorem bind {first : Program ε σ α} {next : α → Program ε σ β} {middle : α → σ → Prop}
    {post : β → σ → Prop} (head : Leads first state middle crash)
    (tail : ∀ value between, middle value between → Leads (next value) between post crash) :
    Leads (first >>= next) state post crash := by
  unfold Leads at head ⊢
  rw [bind_run]
  match run : first state with
  | (.ok value, between) =>
    rw [run] at head
    exact tail value between head
  | (.error stop, between) =>
    rw [run] at head
    exact head

/-- Weaker postconditions. -/
theorem weaken {program : Program ε σ α} {post' : α → σ → Prop} {crash' : σ → Prop}
    (leads : Leads program state post crash) (returns : ∀ value last, post value last →
      post' value last) (faults : ∀ last, crash last → crash' last) :
    Leads program state post' crash' :=
  intro (fun value last run => returns value last (leads.ok run))
    fun _ last run => faults last (leads.error run)

/-- What holds however a run ends holds of its last state. -/
theorem last {program : Program ε σ α} {holds : σ → Prop}
    (leads : Leads program state (fun _ => holds) holds) : holds (program state).2 := by
  unfold Leads at leads
  split at leads
  · next run =>
    rw [run]
    exact leads
  · next run =>
    rw [run]
    exact leads

/-- Two facts about one run. -/
theorem and {program : Program ε σ α} {post' : α → σ → Prop} {crash' : σ → Prop}
    (first : Leads program state post crash) (second : Leads program state post' crash') :
    Leads program state (fun value last => post value last ∧ post' value last)
      fun last => crash last ∧ crash' last :=
  intro (fun _ _ run => ⟨first.ok run, second.ok run⟩)
    fun _ _ run => ⟨first.error run, second.error run⟩

/-- Running over a list keeps what every element keeps. -/
theorem forEach {body : α → Program ε σ Unit} {holds : σ → Prop} {items : List α}
    (start : holds state)
    (each : ∀ item ∈ items, ∀ state, holds state → Leads (body item) state (fun _ => holds) crash) :
    Leads (Program.forEach items body) state (fun _ => holds) crash := by
  induction items generalizing state with
  | nil => exact start
  | cons item rest ih =>
    apply bind (each item List.mem_cons_self state start)
    intro _ middle kept
    exact ih kept fun other inside => each other (List.mem_cons_of_mem item inside)

/-- Repeating a body, by what holds with so many rounds left. -/
theorem repeatUntil_count {exhausted : ε} {body : Program ε σ (Option β)} (holds : Nat → σ → Prop)
    {post : β → σ → Prop} (out : ∀ state, holds 0 state → crash state)
    (round : ∀ rounds state, holds (rounds + 1) state → Leads body state
      (fun found last => match found with
        | some result => post result last
        | none => holds rounds last) crash) {rounds : Nat} (start : holds rounds state) :
    Leads (Program.repeatUntil exhausted body rounds) state post crash := by
  induction rounds generalizing state with
  | zero => exact out state start
  | succ rounds ih =>
    apply bind (round rounds state start)
    intro found middle reached
    cases found with
    | some result => exact reached
    | none => exact ih reached

/-- Repeating a body keeps what a round without a result keeps. -/
theorem repeatUntil {exhausted : ε} {body : Program ε σ (Option β)} (holds : σ → Prop)
    {post : β → σ → Prop} (out : ∀ state, holds state → crash state)
    (round : ∀ state, holds state → Leads body state
      (fun found last => match found with
        | some result => post result last
        | none => holds last) crash) {rounds : Nat} (start : holds state) :
    Leads (Program.repeatUntil exhausted body rounds) state post crash :=
  repeatUntil_count (fun _ => holds) out (fun _ => round) start

/-- Repeating a body ends when every round without a result makes a measure smaller. -/
theorem repeatUntil_measure {exhausted : ε} {body : Program ε σ (Option β)} (holds : σ → Prop)
    {post : β → σ → Prop} (measure : σ → Nat)
    (round : ∀ state, holds state → Leads body state
      (fun found last => match found with
        | some result => post result last
        | none => holds last ∧ measure last < measure state) crash)
    {rounds : Nat} (start : holds state) (enough : measure state < rounds) :
    Leads (Program.repeatUntil exhausted body rounds) state post crash := by
  apply repeatUntil_count fun rounds state => holds state ∧ measure state < rounds
  · exact fun state left => absurd left.2 (Nat.not_lt_zero _)
  · intro rounds state left
    apply (round state left.1).weaken ?_ fun _ => id
    intro found last reached
    cases found with
    | some result => exact reached
    | none => exact ⟨reached.1, Nat.lt_of_lt_of_le reached.2 (Nat.le_of_lt_succ left.2)⟩
  · exact ⟨start, enough⟩

end Leads

/-- The last state of a run of `program` from `state` is related to `state`. -/
def Moves (R : σ → σ → Prop) (program : Program ε σ α) (state : σ) : Prop :=
  R state (program state).2

namespace Moves

variable {R : σ → σ → Prop} {state : σ}

/-- Returning moves nothing. -/
theorem pure [Std.Refl R] (value : α) (state : σ) :
    Moves R (Pure.pure value : Program ε σ α) state := Std.Refl.refl state

/-- Reading the state moves as the rest does with that state. -/
theorem get {next : σ → Program ε σ β} (tail : Moves R (next state) state) :
    Moves R (Program.get >>= next) state := tail

/-- Changing the state is the move to the changed state. -/
theorem modify {change : σ → σ} (moves : R state (change state)) :
    Moves R (Program.modify change : Program ε σ Unit) state := moves

/-- A fault moves nothing. -/
theorem fault [Std.Refl R] (stop : ε) (state : σ) :
    Moves R (Program.fault stop : Program ε σ α) state := Std.Refl.refl state

/-- Requiring a value moves nothing. -/
theorem require [Std.Refl R] (stop : ε) (found : Option α) (state : σ) :
    Moves R (Program.require stop found : Program ε σ α) state := by
  cases found with
  | some value => exact Std.Refl.refl state
  | none => exact Std.Refl.refl state

/-- Moves compose; the second program starts where the first returned. -/
theorem bind [IsTrans σ R] {first : Program ε σ α} {next : α → Program ε σ β}
    (head : Moves R first state)
    (tail : ∀ value middle, first state = (.ok value, middle) → Moves R (next value) middle) :
    Moves R (first >>= next) state := by
  unfold Moves at head ⊢
  rw [bind_run]
  match run : first state with
  | (.ok value, middle) =>
    rw [run] at head
    exact IsTrans.trans _ _ _ head (tail value middle run)
  | (.error stop, middle) =>
    rw [run] at head
    exact head

/-- Moves along a smaller relation. -/
theorem mono {S : σ → σ → Prop} {program : Program ε σ α} (moves : Moves R program state)
    (smaller : ∀ last, R state last → S state last) : Moves S program state :=
  smaller _ moves

/-- What holds of every move holds of both ends of a run. -/
theorem leads {program : Program ε σ α} (moves : Moves R program state) :
    Leads program state (fun _ => R state) (R state) :=
  Leads.intro (fun _ _ run => by unfold Moves at moves; rwa [run] at moves)
    fun _ _ run => by unfold Moves at moves; rwa [run] at moves

/-- The move to the state of a run that returned. -/
theorem of_run {program : Program ε σ α} {result : Except ε α} {last : σ}
    (moves : Moves R program state) (run : program state = (result, last)) : R state last := by
  unfold Moves at moves
  rwa [run] at moves

/-- A run over a list composes the moves of its elements. -/
theorem forEach [Std.Refl R] [IsTrans σ R] {body : α → Program ε σ Unit} {items : List α}
    (each : ∀ item ∈ items, ∀ state, Moves R (body item) state) (state : σ) :
    Moves R (Program.forEach items body) state := by
  induction items generalizing state with
  | nil => exact Std.Refl.refl state
  | cons item rest ih =>
    apply bind (each item List.mem_cons_self state)
    intro _ middle _
    exact ih (fun other inside => each other (List.mem_cons_of_mem item inside)) middle

/-- A repeated body composes the moves of its rounds. -/
theorem repeatUntil [Std.Refl R] [IsTrans σ R] {exhausted : ε} {body : Program ε σ (Option β)}
    (each : ∀ state, Moves R body state) (rounds : Nat) (state : σ) :
    Moves R (Program.repeatUntil exhausted body rounds) state := by
  induction rounds generalizing state with
  | zero => exact Std.Refl.refl state
  | succ rounds ih =>
    apply bind (each state)
    intro found middle _
    cases found with
    | some result => exact Std.Refl.refl middle
    | none => exact ih middle

end Moves

end Program
