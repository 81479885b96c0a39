import Nextmini.Node.TokenBucket
import Mathlib.Tactic.Linarith
import Mathlib.Tactic.NormNum

/-!
# Accrual of tokens under polling

Each update keeps the whole tokens that its gap accrued and moves the instant of the last update
to now, so the fraction of a token is dropped with each call. Polling over a span gives what one
update at its end gives exactly when the dropped fractions stay below one token, or the whole
tokens fill the bucket anyway.
-/

namespace Nextmini.Node

set_option autoImplicit false

namespace TokenBucket

def poll (bucket : TokenBucket) (gaps : List ℚ≥0) : TokenBucket :=
  gaps.foldl (fun bucket gap => bucket.updateTokens (bucket.lastUpdate + gap)) bucket

def accrued (rate : Nat) (gap : ℚ≥0) : Nat := ⌊gap * rate⌋₊

/-- What is left of the tokens of one gap, always less than one token. -/
def fraction (rate : Nat) (gap : ℚ≥0) : ℚ≥0 := gap * rate - accrued rate gap

/-- The fractions dropped over the gaps stay below one token, or the bucket fills without them. -/
def NothingDropped (bucket : TokenBucket) (gaps : List ℚ≥0) : Prop :=
  (gaps.map (fraction bucket.spec.rate)).sum < 1 ∨
    bucket.spec.bucketSize ≤ bucket.tokens + (gaps.map (accrued bucket.spec.rate)).sum

/-- The tokens of the two buckets are the same, up to less than one token. -/
def SameTokens (left right : TokenBucket) : Prop := |(left.tokens : ℚ) - right.tokens| < 1

theorem same_tokens_iff (left right : TokenBucket) :
    SameTokens left right ↔ left.tokens = right.tokens := by
  constructor
  · intro close
    have whole : |((left.tokens : ℤ) - right.tokens)| < 1 := by
      have cast : ((|((left.tokens : ℤ) - right.tokens)| : ℤ) : ℚ) < 1 := by
        push_cast
        exact close
      exact_mod_cast cast
    have zero := Int.abs_lt_one_iff.mp whole
    omega
  · intro same
    rw [SameTokens, same, sub_self, abs_zero]
    exact one_pos

theorem accrued_add_fraction (rate : Nat) (gap : ℚ≥0) :
    (accrued rate gap : ℚ≥0) + fraction rate gap = gap * rate :=
  add_tsub_cancel_of_le (Nat.floor_le zero_le)

/-- The tokens of a span, as the whole tokens of its gaps and the dropped fractions. -/
theorem span_tokens (rate : Nat) (gaps : List ℚ≥0) :
    gaps.sum * rate =
      (gaps.map (fraction rate)).sum + ((gaps.map (accrued rate)).sum : Nat) := by
  induction gaps with
  | nil => simp
  | cons gap gaps induction =>
    have first := accrued_add_fraction rate gap
    simp only [List.sum_cons, List.map_cons, Nat.cast_add]
    rw [add_mul, induction, ← first]
    ring

theorem accrued_sum (rate : Nat) (gaps : List ℚ≥0) :
    accrued rate gaps.sum =
      ⌊(gaps.map (fraction rate)).sum⌋₊ + (gaps.map (accrued rate)).sum := by
  rw [accrued, span_tokens, Nat.floor_add_natCast zero_le]

theorem update_after_gap (bucket : TokenBucket) (gap : ℚ≥0) :
    (bucket.updateTokens (bucket.lastUpdate + gap)).tokens =
      min (bucket.tokens + accrued bucket.spec.rate gap) bucket.spec.bucketSize := by
  rw [update_tokens_eq, add_tsub_cancel_left, accrued]

theorem poll_tokens (gaps : List ℚ≥0) (last : ℚ≥0) (bucket : TokenBucket) :
    (bucket.poll (gaps ++ [last])).tokens =
      min (bucket.tokens + ((gaps ++ [last]).map (accrued bucket.spec.rate)).sum)
        bucket.spec.bucketSize := by
  induction gaps generalizing bucket with
  | nil => simpa [poll] using update_after_gap bucket last
  | cons gap gaps induction =>
    have rest := induction (bucket.updateTokens (bucket.lastUpdate + gap))
    rw [update_after_gap, update_tokens_spec] at rest
    rw [List.cons_append, List.map_cons, List.sum_cons]
    exact rest.trans (by omega)

end TokenBucket

/-- The tokens after a span are the same with and without the calls in between, up to less than one
token, exactly when the fractions that the calls drop stay below one token or do not matter; two
pollings of one span that both drop so little agree. -/
theorem polling_changes_nothing_iff (bucket : TokenBucket) (gaps : List ℚ≥0) (last : ℚ≥0) :
    ((bucket.poll (gaps ++ [last])).SameTokens (bucket.poll [(gaps ++ [last]).sum]) ↔
      bucket.NothingDropped (gaps ++ [last])) ∧
    ∀ (others : List ℚ≥0) (final : ℚ≥0), (others ++ [final]).sum = (gaps ++ [last]).sum →
      bucket.NothingDropped (gaps ++ [last]) → bucket.NothingDropped (others ++ [final]) →
      (bucket.poll (gaps ++ [last])).SameTokens (bucket.poll (others ++ [final])) := by
  have direct (gaps : List ℚ≥0) (last : ℚ≥0) :
      (bucket.poll (gaps ++ [last])).SameTokens (bucket.poll [(gaps ++ [last]).sum]) ↔
        bucket.NothingDropped (gaps ++ [last]) := by
    have polled := TokenBucket.poll_tokens gaps last bucket
    have single := TokenBucket.poll_tokens [] (gaps ++ [last]).sum bucket
    have whole := TokenBucket.accrued_sum bucket.spec.rate (gaps ++ [last])
    rw [List.nil_append, List.map_singleton, List.sum_singleton, whole] at single
    rw [TokenBucket.same_tokens_iff, polled, single, TokenBucket.NothingDropped,
      ← Nat.floor_eq_zero]
    omega
  refine ⟨direct gaps last, ?_⟩
  intro others final span few fewOther
  have left := (TokenBucket.same_tokens_iff _ _).mp ((direct gaps last).mpr few)
  have right := (TokenBucket.same_tokens_iff _ _).mp ((direct others final).mpr fewOther)
  rw [span] at right
  rw [TokenBucket.same_tokens_iff, left, right]

theorem half_tokens_dropped :
    ¬ (TokenBucket.poll ⟨⟨1000, 1500⟩, 0, 0⟩ (List.replicate 8 (1 / 2000))).SameTokens
      (TokenBucket.poll ⟨⟨1000, 1500⟩, 0, 0⟩ [(List.replicate 8 (1 / 2000)).sum]) := by
  rw [TokenBucket.same_tokens_iff]
  decide +kernel

theorem whole_tokens_kept :
    ([1 / 100, 1 / 50] : List ℚ≥0).sum = ([1 / 50, 1 / 100] : List ℚ≥0).sum ∧
      (TokenBucket.poll ⟨⟨1000, 1500⟩, 0, 0⟩ [1 / 50, 1 / 100]).SameTokens
        (TokenBucket.poll ⟨⟨1000, 1500⟩, 0, 0⟩ [1 / 100, 1 / 50]) := by
  have span : ([1 / 100, 1 / 50] : List ℚ≥0).sum = ([1 / 50, 1 / 100] : List ℚ≥0).sum := by
    decide +kernel
  refine ⟨span, ?_⟩
  exact (polling_changes_nothing_iff ⟨⟨1000, 1500⟩, 0, 0⟩ [1 / 50] (1 / 100)).2 [1 / 100] (1 / 50)
    span (.inl (by decide +kernel)) (.inl (by decide +kernel))

end Nextmini.Node
