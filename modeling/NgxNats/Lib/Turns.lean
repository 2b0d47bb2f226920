import Mathlib.Logic.Relation

/-!
# Machines that take turns

In one turn a machine puts something out and goes on to another state, or stops with an answer. A
machine has no choice, so what it puts out until it stops, and the answer, depend on the state it
starts in only.
-/

/-- One turn of a machine: what it puts out, and the next state or the answer. -/
inductive Turn (σ out answer : Type)
  | go (said : List out) (next : σ)
  | stop (said : List out) (result : answer)

namespace Turn

variable {σ out answer : Type} {turn : σ → Turn σ out answer}

/-- One turn that goes on, with what was put out so far. -/
inductive Step (turn : σ → Turn σ out answer) : List out × σ → List out × σ → Prop
  | go {said more : List out} {state next : σ} (goes : turn state = .go more next) :
    Step turn (said, state) (said ++ more, next)

/-- The machine goes from one state to another and puts this out. -/
def Reaches (turn : σ → Turn σ out answer) (start : σ) (said : List out) (state : σ) : Prop :=
  Relation.ReflTransGen (Step turn) ([], start) (said, state)

/-- The machine stops, after it put this out, with an answer. -/
def Halts (turn : σ → Turn σ out answer) (start : σ) (said : List out) (result : answer) : Prop :=
  ∃ before last more, Reaches turn start before last ∧ turn last = .stop more result ∧
    said = before ++ more

/-- A machine is where it starts. -/
theorem Reaches.start (state : σ) : Reaches turn state [] state := .refl

/-- One more turn. -/
theorem Reaches.go {start state next : σ} {said more : List out}
    (reaches : Reaches turn start said state) (goes : turn state = .go more next) :
    Reaches turn start (said ++ more) next := reaches.tail (.go goes)

/-- The last turn. -/
theorem Reaches.stop {start state : σ} {said more : List out} {result : answer}
    (reaches : Reaches turn start said state) (stops : turn state = .stop more result) :
    Halts turn start (said ++ more) result := ⟨said, state, more, reaches, stops, rfl⟩

/-- Turns from one state to another do not depend on what was put out before. -/
theorem reaches_behind {start last : σ} {said more : List out}
    (reaches : Reaches turn start more last) :
    Relation.ReflTransGen (Step turn) (said, start) (said ++ more, last) := by
  have shift (one other : List out × σ) (step : Step turn one other) :
      Step turn (said ++ one.1, one.2) (said ++ other.1, other.2) := by
    cases step with
    | go goes =>
      rw [← List.append_assoc]
      exact .go goes
  have shifted : Relation.ReflTransGen (Step turn) (said ++ [], start) (said ++ more, last) :=
    Relation.ReflTransGen.lift (fun place : List out × σ => (said ++ place.1, place.2)) shift _ _
      reaches
  rwa [List.append_nil] at shifted

/-- Where a machine stops from a state on the way, it stops from the start. -/
theorem Reaches.halts {start middle : σ} {said more : List out} {result : answer}
    (reaches : Reaches turn start said middle) (halts : Halts turn middle more result) :
    Halts turn start (said ++ more) result := by
  obtain ⟨before, last, end_, behind, stops, rfl⟩ := halts
  refine ⟨said ++ before, last, end_, ?_, stops, (List.append_assoc _ _ _).symm⟩
  exact Relation.ReflTransGen.trans reaches (reaches_behind behind)

/-- A turn has one outcome. -/
theorem step_unique : Relator.RightUnique (Step turn) := by
  intro here there other first second
  cases first with
  | go goes =>
    cases second with
    | go goes' =>
      cases goes.symm.trans goes'
      rfl

/-- A machine that stops takes no turn that goes on. -/
theorem eq_of_stop {said more : List out} {last : σ} {result : answer} {there : List out × σ}
    (stops : turn last = .stop more result)
    (reaches : Relation.ReflTransGen (Step turn) (said, last) there) : there = (said, last) := by
  rcases reaches.cases_head with same | ⟨next, step, -⟩
  · exact same.symm
  · cases step with
    | go goes => cases stops.symm.trans goes

/-- A machine puts out the same and stops with the same answer whenever it starts in one state. -/
theorem Halts.unique {start : σ} {said said' : List out} {result result' : answer}
    (first : Halts turn start said result) (second : Halts turn start said' result') :
    said = said' ∧ result = result' := by
  obtain ⟨before, last, more, reaches, stops, rfl⟩ := first
  obtain ⟨before', last', more', reaches', stops', rfl⟩ := second
  have same : (before, last) = (before', last') := by
    rcases Relation.ReflTransGen.total_of_right_unique step_unique reaches reaches' with on | on
    · exact (eq_of_stop stops on).symm
    · exact eq_of_stop stops' on
  cases same
  cases stops.symm.trans stops'
  exact ⟨rfl, rfl⟩

end Turn
