import Mathlib.Data.List.Basic
import Mathlib.Logic.Function.Basic

/-!
# Brokers

A broker hands messages over to the subscriptions of their keys. A subscription belongs to an owner
and may be limited to a number of messages. `deliveries` is all that a broker hands over while it
is given actions; the messages of one subscription are the first ones for its key, up to its limit.
-/

namespace Broker

variable {κ σ μ : Type*}

/-- What a broker is told. -/
inductive Action (κ σ μ : Type*)
  | subscribe (key : κ) (owner : σ) (limit : Option Nat)
  | unsubscribe (key : κ)
  | message (key : κ) (content : μ)
  | close

/-- The active subscriptions: whose they are, and how many messages are left to them if they are
limited. -/
abbrev Table (κ σ : Type*) := κ → Option (σ × Option Nat)

/-- A message that was handed over. -/
structure Delivery (κ σ μ : Type*) where
  key : κ
  owner : σ
  content : μ

/-- A subscription after one more message: the last one ends it. -/
def served : σ × Option Nat → Option (σ × Option Nat)
  | (owner, none) => some (owner, none)
  | (owner, some left) => if left ≤ 1 then none else some (owner, some (left - 1))

/-- The first messages, up to a limit. -/
def upTo (limit : Option Nat) (contents : List μ) : List μ :=
  match limit with
  | none => contents
  | some limit => contents.take limit

variable [DecidableEq κ]

/-- The subscriptions after an action. -/
def Table.step (table : Table κ σ) : Action κ σ μ → Table κ σ
  | .subscribe key owner limit => Function.update table key (some (owner, limit))
  | .unsubscribe key => Function.update table key none
  | .message key _ => Function.update table key ((table key).bind served)
  | .close => fun _ => none

/-- What is handed over at an action. -/
def Table.hands (table : Table κ σ) : Action κ σ μ → List (Delivery κ σ μ)
  | .message key content => ((table key).map fun entry => ⟨key, entry.1, content⟩).toList
  | _ => []

/-- The subscriptions after actions. -/
def after (table : Table κ σ) (actions : List (Action κ σ μ)) : Table κ σ :=
  actions.foldl Table.step table

/-- All that is handed over at actions. -/
def deliveries (table : Table κ σ) : List (Action κ σ μ) → List (Delivery κ σ μ)
  | [] => []
  | action :: rest => table.hands action ++ deliveries (table.step action) rest

/-- The messages for a key. -/
def messagesFor (key : κ) (actions : List (Action κ σ μ)) : List μ :=
  actions.filterMap fun
    | .message other content => if other = key then some content else none
    | _ => none

/-- What was handed over for a key. -/
def handedFor (key : κ) (handed : List (Delivery κ σ μ)) : List (Delivery κ σ μ) :=
  handed.filter fun delivery => delivery.key = key

/-- Actions that begin a subscription of a key anew, or end it. -/
def Action.Turns (key : κ) : Action κ σ μ → Prop
  | .subscribe other .. | .unsubscribe other => other = key
  | .message .. => False
  | .close => True

section Laws

variable {table : Table κ σ} {actions more : List (Action κ σ μ)} {action : Action κ σ μ} {key : κ}

/-- The first action of a sequence hands over, then the rest from the table it leaves. -/
theorem deliveries_cons (table : Table κ σ) (action : Action κ σ μ) (rest : List (Action κ σ μ)) :
    deliveries table (action :: rest) =
      table.hands action ++ deliveries (table.step action) rest := rfl

/-- Actions one after the other. -/
theorem deliveries_append (table : Table κ σ) (actions more : List (Action κ σ μ)) :
    deliveries table (actions ++ more) =
      deliveries table actions ++ deliveries (after table actions) more := by
  induction actions generalizing table with
  | nil => rfl
  | cons action rest ih =>
    rw [List.cons_append, deliveries_cons, deliveries_cons, ih, List.append_assoc]
    rfl

/-- One action at the end. -/
theorem deliveries_concat (table : Table κ σ) (actions : List (Action κ σ μ))
    (action : Action κ σ μ) : deliveries table (actions ++ [action]) =
      deliveries table actions ++ (after table actions).hands action := by
  rw [deliveries_append, deliveries_cons, deliveries, List.append_nil]

/-- A sequence with one more action ends one step further. -/
theorem after_concat (table : Table κ σ) (actions : List (Action κ σ μ)) (action : Action κ σ μ) :
    after table (actions ++ [action]) = (after table actions).step action := by
  unfold after
  rw [List.foldl_append, List.foldl_cons, List.foldl_nil]

/-- What a key is handed in two sequences of deliveries is what it is handed in each. -/
theorem handedFor_append (key : κ) (handed others : List (Delivery κ σ μ)) :
    handedFor key (handed ++ others) = handedFor key handed ++ handedFor key others :=
  List.filter_append ..

/-- Nothing is handed over for a key without a subscription. -/
theorem handedFor_inactive (inactive : table key = none) (action : Action κ σ μ) :
    handedFor key (table.hands action) = [] := by
  unfold handedFor
  rw [List.filter_eq_nil_iff]
  intro delivery inside
  cases action with
  | message other content =>
    simp only [Table.hands, Option.mem_toList, Option.map_eq_some_iff] at inside
    obtain ⟨entry, found, rfl⟩ := inside
    rw [decide_eq_true_eq]
    rintro rfl
    rw [inactive] at found
    cases found
  | subscribe => cases inside
  | unsubscribe => cases inside
  | close => cases inside

/-- An action that neither begins nor ends a subscription and is no message for its key. -/
theorem step_apart (stays : ¬action.Turns key) (quiet : messagesFor key [action] = []) :
    table.step action key = table key ∧ handedFor key (table.hands action) = [] := by
  cases action with
  | subscribe other owner limit =>
    have apart : key ≠ other := fun same => stays same.symm
    exact ⟨Function.update_of_ne apart .., rfl⟩
  | unsubscribe other =>
    have apart : key ≠ other := fun same => stays same.symm
    exact ⟨Function.update_of_ne apart .., rfl⟩
  | message other content =>
    have apart : other ≠ key := by
      rintro rfl
      simp [messagesFor] at quiet
    refine ⟨Function.update_of_ne (Ne.symm apart) .., ?_⟩
    unfold handedFor
    rw [List.filter_eq_nil_iff]
    intro delivery inside
    simp only [Table.hands, Option.mem_toList, Option.map_eq_some_iff] at inside
    obtain ⟨entry, -, rfl⟩ := inside
    rw [decide_eq_true_eq]
    exact apart
  | close => exact absurd trivial stays

/-- Without a subscription of its key nothing is handed over, as long as none is begun. -/
theorem deliveries_inactive (inactive : table key = none)
    (stays : ∀ action ∈ actions, ¬action.Turns key) :
    handedFor key (deliveries table actions) = [] := by
  induction actions generalizing table with
  | nil => rfl
  | cons action rest ih =>
    have here := stays action List.mem_cons_self
    have later : ∀ action ∈ rest, ¬action.Turns key := fun other inside =>
      stays other (List.mem_cons_of_mem _ inside)
    have next : table.step action key = none := by
      by_cases quiet : messagesFor key [action] = []
      · rw [(step_apart here quiet).1, inactive]
      · cases action with
        | message other content =>
          have same : other = key := by
            by_contra apart
            simp [messagesFor, apart] at quiet
          subst same
          show Function.update table other ((table other).bind served) other = none
          rw [Function.update_self, inactive]
          rfl
        | subscribe => exact absurd rfl quiet
        | unsubscribe => exact absurd rfl quiet
        | close => exact absurd rfl quiet
    rw [deliveries_cons, handedFor_append, handedFor_inactive inactive, ih next later,
      List.append_nil]

/-- The messages for a key are those of the first action and those of the rest. -/
theorem messagesFor_cons (key : κ) (action : Action κ σ μ) (rest : List (Action κ σ μ)) :
    messagesFor key (action :: rest) = messagesFor key [action] ++ messagesFor key rest := by
  unfold messagesFor
  rw [← List.filterMap_append, List.singleton_append]

/-- What a subscription is handed until it is ended or begun anew: the first messages for its
key, up to its limit. -/
theorem deliveries_active {owner : σ} {limit : Option Nat}
    (active : table key = some (owner, limit)) (positive : ∀ n ∈ limit, 0 < n)
    (stays : ∀ action ∈ actions, ¬action.Turns key) :
    handedFor key (deliveries table actions) =
      (upTo limit (messagesFor key actions)).map fun content => ⟨key, owner, content⟩ := by
  induction actions generalizing table limit with
  | nil =>
    cases limit with
    | none => rfl
    | some limit =>
      show [] = ((List.take limit []).map _ : List (Delivery κ σ μ))
      rw [List.take_nil, List.map_nil]
  | cons action rest ih =>
    have here := stays action List.mem_cons_self
    have later : ∀ action ∈ rest, ¬action.Turns key := fun other inside =>
      stays other (List.mem_cons_of_mem _ inside)
    rw [deliveries_cons, handedFor_append, messagesFor_cons]
    by_cases quiet : messagesFor key [action] = []
    · obtain ⟨same, none⟩ : table.step action key = table key ∧
          handedFor key (table.hands action) = [] := step_apart here quiet
      rw [none, quiet, List.nil_append, List.nil_append]
      exact ih (same.trans active) positive later
    · cases action with
      | message other content =>
        have same : other = key := by
          by_contra apart
          simp [messagesFor, apart] at quiet
        subst same
        have handed : handedFor other (table.hands (.message other content)) =
            [⟨other, owner, content⟩] := by
          simp [handedFor, Table.hands, active]
        have said : messagesFor other [(.message other content : Action κ σ μ)] = [content] := by
          simp [messagesFor]
        have next : table.step (.message other content) other = served (owner, limit) := by
          show Function.update table other ((table other).bind served) other = _
          rw [Function.update_self, active]
          rfl
        rw [handed, said]
        cases limit with
        | none => exact congrArg _ (ih next (fun _ absurd => by cases absurd) later)
        | some limit =>
          have least := positive limit rfl
          by_cases final : limit ≤ 1
          · have one : limit = 1 := by omega
            subst one
            rw [deliveries_inactive next later]
            rfl
          · have more : served (owner, some limit) = some (owner, some (limit - 1)) :=
              if_neg final
            have rest := ih (next.trans more) (fun n found => by cases found; omega) later
            obtain ⟨left, rfl⟩ : ∃ left, limit = left + 1 := ⟨limit - 1, by omega⟩
            exact congrArg _ rest
      | subscribe => exact absurd rfl quiet
      | unsubscribe => exact absurd rfl quiet
      | close => exact absurd rfl quiet

end Laws

end Broker
