import Mathlib.Data.List.Chain

/-!
# Chains of pipes

A pipe holds the items written into it, in order, and the number of those taken out again. In a chain
every pipe is filled with what is taken out of the one before it. What is put in at one end comes out
at the other in order, and what has not come out yet is inside one of the pipes. A step of a line that may lose
items carries the rest over in order.
-/

namespace Nextmini.Library.PipeChain

set_option autoImplicit false

structure Pipe (Item : Type*) where
  written : List Item
  taken : Nat
  inside : taken ≤ written.length
  deriving DecidableEq, Repr

namespace Pipe

variable {Item : Type*} (pipe : Pipe Item)

def empty : Pipe Item where
  written := []
  taken := 0
  inside := Nat.le_refl 0

def received : List Item := pipe.written.take pipe.taken

def inFlight : List Item := pipe.written.drop pipe.taken

def write (items : List Item) : Pipe Item where
  written := pipe.written ++ items
  taken := pipe.taken
  inside := by
    rw [List.length_append]
    exact Nat.le_add_right_of_le pipe.inside

def take (count : Nat) : Pipe Item where
  written := pipe.written
  taken := min (pipe.taken + count) pipe.written.length
  inside := Nat.min_le_right _ _

@[simp] theorem written_write (items : List Item) :
    (pipe.write items).written = pipe.written ++ items := rfl

@[simp] theorem taken_write (items : List Item) : (pipe.write items).taken = pipe.taken := rfl

@[simp] theorem written_take (count : Nat) : (pipe.take count).written = pipe.written := rfl

theorem received_length : pipe.received.length = pipe.taken := by
  rw [received, List.length_take]
  exact Nat.min_eq_left pipe.inside

theorem received_in_flight : pipe.received ++ pipe.inFlight = pipe.written :=
  List.take_append_drop pipe.taken pipe.written

@[simp] theorem received_write (items : List Item) :
    (pipe.write items).received = pipe.received :=
  List.take_append_of_le_length pipe.inside

theorem taken_take {count : Nat} (enough : count ≤ pipe.inFlight.length) :
    (pipe.take count).taken = pipe.taken + count := by
  rw [inFlight, List.length_drop] at enough
  have inside := pipe.inside
  simp only [take]
  omega

theorem taken_le_take (count : Nat) : pipe.taken ≤ (pipe.take count).taken :=
  Nat.le_min.mpr ⟨Nat.le_add_right _ _, pipe.inside⟩

/-- The items taken out come behind those taken out before. -/
theorem received_take (count : Nat) :
    (pipe.take count).received = pipe.received ++ pipe.inFlight.take count := by
  have cut : (pipe.take count).received =
      pipe.written.take (min (pipe.taken + count) pipe.written.length) := rfl
  rw [cut]
  cases Nat.le_total (pipe.taken + count) pipe.written.length with
  | inl enough =>
    rw [Nat.min_eq_left enough, List.take_add]
    rfl
  | inr short =>
    have whole : pipe.inFlight.length ≤ count := by
      rw [inFlight, List.length_drop]
      omega
    rw [Nat.min_eq_right short, List.take_length, List.take_of_length_le whole, received_in_flight]

end Pipe

/-- A pipe of a chain. The first `skip` items that go through it are not for the next one. -/
structure Leg (Item : Type*) where
  pipe : Pipe Item
  skip : Nat

namespace Leg

variable {Item : Type*} (leg : Leg Item)

def content : List Item := leg.pipe.written.drop leg.skip

def passed : List Item := leg.pipe.received.drop leg.skip

theorem content_eq (started : leg.skip ≤ leg.pipe.taken) :
    leg.content = leg.passed ++ leg.pipe.inFlight := by
  have long : leg.skip ≤ leg.pipe.received.length := started.trans_eq leg.pipe.received_length.symm
  rw [content, passed, ← List.drop_append_of_le_length long, Pipe.received_in_flight]

end Leg

section Chains

variable {Item : Type*}

/-- The next pipe is filled with what has passed this one. -/
structure Feeds (leg next : Leg Item) : Prop where
  started : leg.skip ≤ leg.pipe.taken
  filled : next.content = leg.passed

/-- What went into the first pipe went on into the last one or is in flight between them. -/
theorem content_along {legs : List (Leg Item)} {first last : Leg Item}
    (chain : (legs ++ [last]).IsChain Feeds) (head : (legs ++ [last]).head? = some first) :
    first.content = last.content ++ legs.reverse.flatMap fun leg => leg.pipe.inFlight := by
  induction legs generalizing first with
  | nil =>
    cases head
    simp
  | cons leg rest induction =>
    cases head
    have next : ∃ next, (rest ++ [last]).head? = some next := by
      cases rest with
      | nil => exact ⟨last, rfl⟩
      | cons second others => exact ⟨second, rfl⟩
    rcases next with ⟨next, head⟩
    rw [List.cons_append] at chain
    have feeds : Feeds leg next := chain.rel_head? head
    rw [leg.content_eq feeds.started, ← feeds.filled, induction chain.tail head,
      List.reverse_cons, List.flatMap_append, List.flatMap_singleton, List.append_assoc]

end Chains

section Steps

variable {Item : Type*} {lossy : Prop} {before after : List Item}

/-- What there was is carried over whole, or in order with items missing where some may be lost. -/
inductive CarriedOver (lossy : Prop) (before after : List Item) : Prop
  | whole : after = before → CarriedOver lossy before after
  | fewer : lossy → after.Sublist before → CarriedOver lossy before after

namespace CarriedOver

theorem sublist (carried : CarriedOver lossy before after) : after.Sublist before := by
  cases carried with
  | whole same => rw [same]
  | fewer _ fewer => exact fewer

theorem exact (carried : CarriedOver lossy before after) (kept : ¬lossy) : after = before := by
  cases carried with
  | whole same => exact same
  | fewer lossy _ => exact absurd lossy kept

theorem mono {riskier : Prop} (carried : CarriedOver lossy before after) (risk : lossy → riskier) :
    CarriedOver riskier before after := by
  cases carried with
  | whole same => exact .whole same
  | fewer lossy fewer => exact .fewer (risk lossy) fewer

theorem trans {later : List Item} (first : CarriedOver lossy before after)
    (second : CarriedOver lossy after later) : CarriedOver lossy before later := by
  cases first with
  | whole same => rwa [same] at second
  | fewer lossy fewer => exact .fewer lossy (second.sublist.trans fewer)

theorem append {riskier : Prop} {others later : List Item} (front : CarriedOver lossy before after)
    (back : CarriedOver riskier others later) :
    CarriedOver (lossy ∨ riskier) (before ++ others) (after ++ later) := by
  have fewer : (after ++ later).Sublist (before ++ others) := front.sublist.append back.sublist
  cases front with
  | fewer lossy _ => exact .fewer (.inl lossy) fewer
  | whole same =>
    cases back with
    | fewer riskier _ => exact .fewer (.inr riskier) fewer
    | whole equal => exact .whole (by rw [same, equal])

theorem append_right (carried : CarriedOver lossy before after) (items : List Item) :
    CarriedOver lossy (before ++ items) (after ++ items) := by
  have kept : CarriedOver False items items := .whole rfl
  exact (carried.append kept).mono fun risk => risk.resolve_right id

theorem append_left (carried : CarriedOver lossy before after) (items : List Item) :
    CarriedOver lossy (items ++ before) (items ++ after) := by
  have kept : CarriedOver False items items := .whole rfl
  exact (kept.append carried).mono fun risk => risk.resolve_left id

end CarriedOver

end Steps

end Nextmini.Library.PipeChain
