import Mathlib.Data.List.Basic

/-!
# Flat memory read and written in runs of cells

A memory is a total map from addresses to cells; how much of it is allocated is tracked by
whoever owns it. Copying a run of cells, inside one memory or into another, is a read followed
by a write, so an overlapping move needs no law of its own.
-/

/-- Cells by address. -/
abbrev Memory (α : Type) := Nat → α

namespace Memory

variable {α : Type}

/-- The `count` cells from `start` on. -/
def read (memory : Memory α) (start count : Nat) : List α := (List.range' start count).map memory

/-- Store the cells of a list from `start` on. -/
def write (memory : Memory α) (start : Nat) (cells : List α) : Memory α := fun address =>
  if start ≤ address then cells.getD (address - start) (memory address) else memory address

/-- A read of `count` cells returns as many. -/
@[simp] theorem length_read (memory : Memory α) (start count : Nat) :
    (memory.read start count).length = count := by simp [read]

/-- A read of no cells returns nothing. -/
@[simp] theorem read_zero (memory : Memory α) (start : Nat) : memory.read start 0 = [] := rfl

/-- The cells of a read are those of the memory from its start on. -/
@[simp] theorem getElem_read (memory : Memory α) (start count index : Nat)
    (inside : index < (memory.read start count).length) :
    (memory.read start count)[index] = memory (start + index) := by
  simp [read]

/-- Neighbouring runs of cells are one run. -/
theorem read_add (memory : Memory α) (start first second : Nat) :
    memory.read start (first + second) =
      memory.read start first ++ memory.read (start + first) second := by
  simp only [read, ← List.map_append, List.range'_append_1]

/-- Dropping cells of a run starts it later. -/
theorem drop_read (memory : Memory α) (start count skipped : Nat) :
    (memory.read start count).drop skipped = memory.read (start + skipped) (count - skipped) := by
  simp [read, ← List.map_drop, List.drop_range']

/-- The first cells of a run are a shorter run. -/
theorem take_read (memory : Memory α) (start count kept : Nat) (fits : kept ≤ count) :
    (memory.read start count).take kept = memory.read start kept := by
  obtain ⟨more, rfl⟩ := Nat.exists_eq_add_of_le fits
  rw [read_add, List.take_left' (length_read memory start kept)]

/-- Two memories that agree on a run of cells read the same there. -/
theorem read_congr {left right : Memory α} {start count : Nat}
    (agree : ∀ address, start ≤ address → address < start + count → left address = right address) :
    left.read start count = right.read start count := by
  apply List.map_congr_left
  intro address inside
  obtain ⟨lower, upper⟩ := List.mem_range'_1.mp inside
  exact agree address lower upper

/-- A stored run is read back. -/
@[simp] theorem read_write_self (memory : Memory α) (start : Nat) (cells : List α) :
    (memory.write start cells).read start cells.length = cells := by
  apply List.ext_getElem
  · simp
  · intro index _ inside
    simp [write, inside]

/-- A store leaves every run outside it alone. -/
theorem read_write_apart (memory : Memory α) (start : Nat) (cells : List α) (other count : Nat)
    (apart : other + count ≤ start ∨ start + cells.length ≤ other) :
    (memory.write start cells).read other count = memory.read other count := by
  apply read_congr
  intro address lower upper
  simp only [write]
  split
  · rw [List.getD_eq_getElem?_getD, List.getElem?_eq_none (by omega), Option.getD_none]
  · rfl

/-- What a store adds right after a run extends that run. -/
theorem read_write_after (memory : Memory α) (start count : Nat) (cells : List α) :
    (memory.write (start + count) cells).read start (count + cells.length) =
      memory.read start count ++ cells := by
  rw [read_add, read_write_apart _ _ _ _ _ (Or.inl (Nat.le_refl _)), read_write_self]

end Memory
