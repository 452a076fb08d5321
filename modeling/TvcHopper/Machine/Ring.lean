import TvcHopper.Machine.Memory

/-! A queue of bounded length, and its elements in a ring of cells. -/

set_option autoImplicit false

namespace TvcHopper.Machine

section Queues
variable {α : Type} {capacity : Nat}

structure BoundedQueue (α : Type) (capacity : Nat) where
  items : List α
  bounded : items.length ≤ capacity

namespace BoundedQueue

def empty : BoundedQueue α capacity := ⟨[], Nat.zero_le _⟩

/-- A full queue stays as it is. -/
def push (queue : BoundedQueue α capacity) (element : α) : BoundedQueue α capacity × Bool :=
  if room : queue.items.length < capacity then
    have bounded : (queue.items ++ [element]).length ≤ capacity := by
      rw [List.length_append]
      exact room
    (⟨queue.items ++ [element], bounded⟩, true)
  else (queue, false)

def pop : BoundedQueue α capacity → Option (BoundedQueue α capacity × α)
  | ⟨[], _⟩ => none
  | ⟨first :: rest, bounded⟩ => some (⟨rest, Nat.le_of_succ_le bounded⟩, first)

end BoundedQueue

/-- From `start` on the cells of the ring hold the items, the first `capacity` cells being the ring. -/
def RingHolds (memory : List α) (capacity start : Nat) (items : List α) : Prop :=
  ∀ i < items.length, memory[(start + i) % capacity]? = items[i]?

theorem ringHolds_nil (memory : List α) (capacity start : Nat) : RingHolds memory capacity start [] := by
  intro i inside
  cases inside

/-- Cells of the ring that are less than one round apart are different. -/
theorem ring_ne {start first second : Nat} (before : first < second) (round : second < first + capacity) :
    (start + first) % capacity ≠ (start + second) % capacity := by
  intro same
  have multiple : capacity ∣ start + second - (start + first) :=
    Nat.dvd_of_mod_eq_zero (Nat.sub_mod_eq_zero_of_mod_eq same.symm)
  have distance := Nat.le_of_dvd (by omega) multiple
  omega

theorem RingHolds.push {memory items : List α} {start : Nat} (holds : RingHolds memory capacity start items)
    (room : items.length < capacity) (inside : capacity ≤ memory.length) (element : α) :
    RingHolds (memory.set ((start + items.length) % capacity) element) capacity start (items ++ [element]) := by
  have cell : (start + items.length) % capacity < memory.length :=
    Nat.lt_of_lt_of_le (Nat.mod_lt _ (by omega)) inside
  intro i below
  rw [List.length_append, List.length_singleton] at below
  rcases Nat.lt_succ_iff_lt_or_eq.mp below with before | rfl
  · have elsewhere := @ring_ne capacity start i items.length before (by omega)
    rw [List.getElem?_set_ne elsewhere.symm, holds i before, List.getElem?_append_left before]
  · rw [List.getElem?_set_self cell, List.getElem?_concat_length]

theorem RingHolds.pop {memory rest : List α} {first : α} {start : Nat}
    (holds : RingHolds memory capacity start (first :: rest)) :
    memory[start % capacity]? = some first ∧ RingHolds memory capacity ((start + 1) % capacity) rest := by
  constructor
  · exact holds 0 (Nat.succ_pos _)
  · intro i below
    have later := holds (i + 1) (Nat.succ_lt_succ below)
    rw [List.getElem?_cons_succ] at later
    rw [Nat.mod_add_mod, Nat.add_assoc, Nat.add_comm 1, later]

end Queues

theorem next_in_ring {index capacity : Nat} (inside : index < capacity) :
    (index + 1) % capacity = if capacity ≤ index + 1 then 0 else index + 1 := by
  split
  · next last =>
    have whole : index + 1 = capacity := by omega
    rw [whole, Nat.mod_self]
  · next more => exact Nat.mod_eq_of_lt (by omega)

end TvcHopper.Machine
