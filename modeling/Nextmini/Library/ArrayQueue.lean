import Mathlib.Data.List.Basic

/-!
# Queues of a fixed capacity

A first-in, first-out queue that holds at most as many items as its capacity: a push to a full queue
is refused, and a number of pops in a row takes the front of the queue.
-/

namespace Nextmini.Library

set_option autoImplicit false

structure ArrayQueue (Item : Type*) (capacity : Nat) where
  items : List Item
  bounded : items.length ≤ capacity

namespace ArrayQueue

variable {Item : Type*} {capacity : Nat}

def empty : ArrayQueue Item capacity where
  items := []
  bounded := Nat.zero_le capacity

def length (queue : ArrayQueue Item capacity) : Nat := queue.items.length

def isEmpty (queue : ArrayQueue Item capacity) : Bool := queue.items.isEmpty

def push (queue : ArrayQueue Item capacity) (item : Item) : Option (ArrayQueue Item capacity) :=
  if room : queue.items.length < capacity then
    some
      { items := queue.items ++ [item]
        bounded := by
          rw [List.length_append]
          exact room }
  else none

def pop : ArrayQueue Item capacity → Option (Item × ArrayQueue Item capacity)
  | ⟨[], _⟩ => none
  | ⟨item :: rest, bounded⟩ => some (item, ⟨rest, Nat.le_of_succ_le bounded⟩)

/-- A number of pops, those of an empty queue without effect. -/
def popUpTo : Nat → ArrayQueue Item capacity → List Item × ArrayQueue Item capacity
  | 0, queue => ([], queue)
  | count + 1, queue =>
      match queue.pop with
      | none => popUpTo count queue
      | some (item, rest) =>
          let (items, last) := popUpTo count rest
          (item :: items, last)

variable {queue later : ArrayQueue Item capacity} {item : Item}

@[simp] theorem length_empty : (empty : ArrayQueue Item capacity).length = 0 := rfl

theorem is_empty_iff : queue.isEmpty = true ↔ queue.length = 0 := by
  rw [isEmpty, length, List.isEmpty_iff_length_eq_zero]

theorem push_of_room (room : queue.length < capacity) (item : Item) :
    ∃ later, queue.push item = some later := by
  simp only [length] at room
  rw [push, dif_pos room]
  exact ⟨_, rfl⟩

theorem length_push (pushed : queue.push item = some later) : later.length = queue.length + 1 := by
  simp only [push] at pushed
  split_ifs at pushed with room
  cases pushed
  exact List.length_append

theorem length_pop (popped : queue.pop = some (item, later)) : queue.length = later.length + 1 := by
  rcases queue with ⟨_ | ⟨front, rest⟩, bounded⟩
  · cases popped
  · cases popped
    rfl

theorem push_items (pushed : queue.push item = some later) : later.items = queue.items ++ [item] := by
  simp only [push] at pushed
  split_ifs at pushed with room
  cases pushed
  rfl

theorem pop_items (popped : queue.pop = some (item, later)) : queue.items = item :: later.items := by
  rcases queue with ⟨_ | ⟨front, rest⟩, bounded⟩
  · cases popped
  · cases popped
    rfl

theorem pop_none_items (popped : queue.pop = none) : queue.items = [] := by
  rcases queue with ⟨_ | ⟨front, rest⟩, bounded⟩
  · rfl
  · cases popped

theorem pop_up_to_take (count : Nat) (queue : ArrayQueue Item capacity) :
    (queue.popUpTo count).1 = queue.items.take count ∧
      (queue.popUpTo count).2.items = queue.items.drop count := by
  induction count generalizing queue with
  | zero => exact ⟨rfl, rfl⟩
  | succ count induction =>
    rw [popUpTo]
    cases popped : queue.pop with
    | none =>
      obtain ⟨front, rest⟩ := induction queue
      have empty := pop_none_items popped
      rw [front, rest, empty, List.take_nil, List.take_nil, List.drop_nil, List.drop_nil]
      exact ⟨rfl, rfl⟩
    | some both =>
      rcases both with ⟨item, later⟩
      obtain ⟨front, rest⟩ := induction later
      rw [pop_items popped, List.take_succ_cons, List.drop_succ_cons]
      exact ⟨congrArg (item :: ·) front, rest⟩

theorem pop_up_to_items (count : Nat) (queue : ArrayQueue Item capacity) :
    (queue.popUpTo count).1 ++ (queue.popUpTo count).2.items = queue.items := by
  obtain ⟨front, rest⟩ := pop_up_to_take count queue
  rw [front, rest, List.take_append_drop]

theorem length_pop_up_to (count : Nat) (queue : ArrayQueue Item capacity) :
    (queue.popUpTo count).1.length + (queue.popUpTo count).2.length = queue.length := by
  rw [length, length, ← List.length_append, pop_up_to_items]

end ArrayQueue

end Nextmini.Library
