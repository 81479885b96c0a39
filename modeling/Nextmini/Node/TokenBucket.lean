import Mathlib.Algebra.BigOperators.Group.List.Basic
import Mathlib.Data.NNRat.Floor
import Mathlib.Tactic.Ring
import Nextmini.Node.Processors
import Nextmini.Packets.Packet

/-!
# Token bucket

The shaper in front of a network interface. A batch is split into the packets that the tokens
cover and the packets that have to wait; the first kind goes out at once, the second kind packet by
packet behind it. Time is rational and exact: the code computes refills and waits from seconds in
floating point, and rounds waits to nanoseconds. Tokens are unbounded: the code's refill saturates, and
its sum wraps, from a product of rate and elapsed time of a 64 bit word on. Between two readings of the
clock any time may pass, and a sleep lasts at least as long as it was asked to.
-/

namespace Nextmini.Node

open Nextmini.Packets

set_option autoImplicit false

/-- A token bucket traffic shaping algorithm; instants are seconds. -/
structure TokenBucket where
  spec : TokenBucketSpec
  tokens : Nat
  lastUpdate : ℚ≥0

namespace TokenBucket

def new (spec : TokenBucketSpec) (now : ℚ≥0) : TokenBucket :=
  { spec := spec, tokens := spec.bucketSize, lastUpdate := now }

def updateTokens (bucket : TokenBucket) (now : ℚ≥0) : TokenBucket :=
  let tokens := bucket.tokens + ⌊(now - bucket.lastUpdate) * bucket.spec.rate⌋₊
  { bucket with
    tokens := if bucket.spec.bucketSize < tokens then bucket.spec.bucketSize else tokens
    lastUpdate := now }

def consumeTokens (bucket : TokenBucket) (packet : Packets.Packet) : TokenBucket :=
  { bucket with tokens := bucket.tokens - packet.packetSize }

def separate (bucket : TokenBucket) :
    List Packets.Packet → TokenBucket × List Packets.Packet × List Packets.Packet
  | [] => (bucket, [], [])
  | packet :: packets =>
      if packet.packetSize ≤ bucket.tokens then
        let (rest, permitted, delayed) := (bucket.consumeTokens packet).separate packets
        (rest, packet :: permitted, delayed)
      else
        let (rest, permitted, delayed) := bucket.separate packets
        (rest, permitted, packet :: delayed)

/-- The time in which the tokens that are missing for the packet accrue. -/
def waitTime (bucket : TokenBucket) (packet : Packets.Packet) : ℚ≥0 :=
  (packet.packetSize - bucket.tokens : Nat) / bucket.spec.rate

end TokenBucket

/-- The clock, with the time that is still to pass before each of its readings. -/
structure Clock where
  now : ℚ≥0
  delays : Nat → ℚ≥0

def Clock.tick (clock : Clock) : Clock :=
  { now := clock.now + clock.delays 0, delays := fun reading => clock.delays (reading + 1) }

def Clock.sleep (clock : Clock) (duration : ℚ≥0) : Clock :=
  { clock with now := clock.now + duration }

/-- The bucket at work: the clock it reads and the packets the interface has been handed. -/
structure Shaper where
  bucket : TokenBucket
  clock : Clock
  sent : List Packets.Packet

namespace Shaper

def start (spec : TokenBucketSpec) (clock : Clock) : Shaper :=
  { bucket := .new spec clock.now, clock := clock, sent := [] }

def update (shaper : Shaper) : Shaper :=
  { shaper with
    bucket := shaper.bucket.updateTokens shaper.clock.tick.now
    clock := shaper.clock.tick }

def maxRetries : Nat := 3

/-- A retry loop to handle timing precision issues; after the last sleep the packet is given up. -/
def retry (packet : Packets.Packet) : Nat → Shaper → Shaper
  | 0, shaper => shaper
  | left + 1, shaper =>
      let shaper := shaper.update
      if packet.packetSize ≤ shaper.bucket.tokens then
        { shaper with
          bucket := shaper.bucket.consumeTokens packet
          sent := shaper.sent ++ [packet] }
      else
        retry packet left
          { shaper with clock := shaper.clock.sleep (shaper.bucket.waitTime packet) }

def sendDelayed (shaper : Shaper) (packet : Packets.Packet) : Shaper :=
  if shaper.bucket.spec.bucketSize < packet.packetSize then shaper
  else retry packet maxRetries shaper

def send (shaper : Shaper) (packets : List Packets.Packet) : Shaper :=
  let shaper := shaper.update
  let (bucket, permitted, delayed) := shaper.bucket.separate packets
  delayed.foldl sendDelayed { shaper with bucket := bucket, sent := shaper.sent ++ permitted }

end Shaper

/-! ## Refills -/

namespace TokenBucket

variable {bucket : TokenBucket} {packet : Packets.Packet}

theorem update_tokens_eq (bucket : TokenBucket) (now : ℚ≥0) :
    (bucket.updateTokens now).tokens =
      min (bucket.tokens + ⌊(now - bucket.lastUpdate) * bucket.spec.rate⌋₊)
        bucket.spec.bucketSize := by
  rw [updateTokens]
  split_ifs with full
  · exact (Nat.min_eq_right full.le).symm
  · exact (Nat.min_eq_left (Nat.not_lt.mp full)).symm

@[simp] theorem update_tokens_spec (now : ℚ≥0) : (bucket.updateTokens now).spec = bucket.spec := rfl

@[simp] theorem update_tokens_last (now : ℚ≥0) : (bucket.updateTokens now).lastUpdate = now := rfl

@[simp] theorem consume_tokens_spec : (bucket.consumeTokens packet).spec = bucket.spec := rfl

/-- Once the wait is over, whatever else passes, the packet is covered. -/
theorem covered_after_wait (positive : 0 < bucket.spec.rate)
    (fits : packet.packetSize ≤ bucket.spec.bucketSize) {now : ℚ≥0}
    (waited : bucket.lastUpdate + bucket.waitTime packet ≤ now) :
    packet.packetSize ≤ (bucket.updateTokens now).tokens := by
  have nonzero : (bucket.spec.rate : ℚ≥0) ≠ 0 := Nat.cast_ne_zero.mpr positive.ne'
  have accrued : packet.packetSize - bucket.tokens ≤
      ⌊(now - bucket.lastUpdate) * bucket.spec.rate⌋₊ := by
    apply Nat.le_floor
    calc ((packet.packetSize - bucket.tokens : Nat) : ℚ≥0)
        = bucket.waitTime packet * bucket.spec.rate := (div_mul_cancel₀ _ nonzero).symm
      _ ≤ (now - bucket.lastUpdate) * bucket.spec.rate := by
          apply mul_le_mul_of_nonneg_right _ (zero_le)
          exact le_tsub_of_add_le_left waited
  rw [update_tokens_eq]
  omega

/-! ## Separating a batch -/

theorem separate_covered (packets : List Packets.Packet)
    (covered : packet.packetSize ≤ bucket.tokens) :
    bucket.separate (packet :: packets) =
      (((bucket.consumeTokens packet).separate packets).1,
        packet :: ((bucket.consumeTokens packet).separate packets).2.1,
        ((bucket.consumeTokens packet).separate packets).2.2) := by
  rw [separate, if_pos covered]

theorem separate_short (packets : List Packets.Packet)
    (short : ¬ packet.packetSize ≤ bucket.tokens) :
    bucket.separate (packet :: packets) =
      ((bucket.separate packets).1, (bucket.separate packets).2.1,
        packet :: (bucket.separate packets).2.2) := by
  rw [separate, if_neg short]

theorem separate_spec (packets : List Packets.Packet) (bucket : TokenBucket) :
    (bucket.separate packets).1.spec = bucket.spec := by
  induction packets generalizing bucket with
  | nil => rfl
  | cons packet packets induction =>
    by_cases covered : packet.packetSize ≤ bucket.tokens
    · rw [separate_covered packets covered]
      exact induction _
    · rw [separate_short packets covered]
      exact induction _

/-- Each packet of the batch goes to one of the two parts. -/
theorem separate_perm (packets : List Packets.Packet) (bucket : TokenBucket) :
    ((bucket.separate packets).2.1 ++ (bucket.separate packets).2.2).Perm packets := by
  induction packets generalizing bucket with
  | nil => exact .refl []
  | cons packet packets induction =>
    by_cases covered : packet.packetSize ≤ bucket.tokens
    · rw [separate_covered packets covered]
      exact (induction _).cons packet
    · rw [separate_short packets covered]
      exact List.perm_middle.trans ((induction _).cons packet)

/-- Once the tokens run short for a packet, no later packet is small enough for what is left. -/
def NoneOvertakes (tokens : Nat) (packets : List Packets.Packet) : Prop :=
  ∀ front large rest, packets = front ++ large :: rest →
    (front.map Packets.Packet.packetSize).sum ≤ tokens →
    tokens < (front.map Packets.Packet.packetSize).sum + large.packetSize →
    ∀ small ∈ rest, tokens < (front.map Packets.Packet.packetSize).sum + small.packetSize

theorem separate_all_short (packets : List Packets.Packet) (bucket : TokenBucket)
    (short : ∀ packet ∈ packets, bucket.tokens < packet.packetSize) :
    bucket.separate packets = (bucket, [], packets) := by
  induction packets with
  | nil => rfl
  | cons packet packets induction =>
    have rest := induction fun other member => short other (List.mem_cons_of_mem _ member)
    rw [separate_short packets (Nat.not_le.mpr (short packet List.mem_cons_self)), rest]

theorem permitted_head (packets : List Packets.Packet) (bucket : TokenBucket)
    {first : Packets.Packet} {permitted : List Packets.Packet}
    (found : (bucket.separate packets).2.1 = first :: permitted) :
    first.packetSize ≤ bucket.tokens := by
  induction packets with
  | nil => cases found
  | cons packet packets induction =>
    by_cases covered : packet.packetSize ≤ bucket.tokens
    · rw [separate_covered packets covered] at found
      rwa [← (List.cons.inj found).1]
    · rw [separate_short packets covered] at found
      exact induction found

theorem permitted_nil (packets : List Packets.Packet) (bucket : TokenBucket)
    (none : (bucket.separate packets).2.1 = []) :
    ∀ packet ∈ packets, bucket.tokens < packet.packetSize := by
  induction packets with
  | nil => exact fun _ member => nomatch member
  | cons packet packets induction =>
    by_cases covered : packet.packetSize ≤ bucket.tokens
    · rw [separate_covered packets covered] at none
      cases none
    · rw [separate_short packets covered] at none
      intro other member
      rcases List.mem_cons.mp member with rfl | later
      · exact Nat.not_le.mp covered
      · exact induction none other later

theorem none_overtakes_covered {packets : List Packets.Packet} (tokens : Nat)
    (covered : packet.packetSize ≤ tokens) :
    NoneOvertakes tokens (packet :: packets) ↔
      NoneOvertakes (tokens - packet.packetSize) packets := by
  constructor
  · intro none front large rest split enough short small member
    have whole := none (packet :: front) large rest (by rw [split]; rfl)
    simp only [List.map_cons, List.sum_cons] at whole
    have later := whole (by omega) (by omega) small member
    omega
  · intro none front large rest split enough short small member
    cases front with
    | nil =>
      cases split
      simp only [List.map_nil, List.sum_nil] at short
      omega
    | cons head front =>
      obtain ⟨rfl, tail⟩ := List.cons.inj split
      simp only [List.map_cons, List.sum_cons] at enough short ⊢
      have later := none front large rest tail (by omega) (by omega) small member
      omega

theorem none_overtakes_short {packets : List Packets.Packet} (tokens : Nat)
    (short : tokens < packet.packetSize) :
    NoneOvertakes tokens (packet :: packets) ↔
      ∀ small ∈ packets, tokens < small.packetSize := by
  constructor
  · intro none small member
    have later := none [] packet packets rfl (Nat.zero_le _) (by simpa using short) small member
    simpa using later
  · intro all front large rest split enough _ small member
    cases front with
    | nil =>
      cases split
      simpa using all small member
    | cons head front =>
      obtain ⟨rfl, split⟩ := List.cons.inj split
      simp only [List.map_cons, List.sum_cons] at enough
      omega

/-- The two parts one after the other are the batch exactly when nothing overtakes. -/
theorem separate_in_order_iff (packets : List Packets.Packet) (bucket : TokenBucket) :
    (bucket.separate packets).2.1 ++ (bucket.separate packets).2.2 = packets ↔
      NoneOvertakes bucket.tokens packets := by
  induction packets generalizing bucket with
  | nil =>
    refine iff_of_true rfl ?_
    intro front large rest split
    exact absurd split.symm (by simp)
  | cons packet packets induction =>
    by_cases covered : packet.packetSize ≤ bucket.tokens
    · rw [separate_covered packets covered, none_overtakes_covered _ covered]
      simp only [List.cons_append, List.cons.injEq, true_and]
      exact induction (bucket.consumeTokens packet)
    · rw [separate_short packets covered, none_overtakes_short _ (Nat.not_le.mp covered)]
      constructor
      · intro same
        apply permitted_nil packets bucket
        cases found : (bucket.separate packets).2.1 with
        | nil => rfl
        | cons first permitted =>
          rw [found] at same
          have small := permitted_head packets bucket found
          rw [(List.cons.inj same).1] at small
          exact absurd small covered
      · intro short
        rw [separate_all_short packets bucket short]
        rfl

end TokenBucket

/-! ## Sending -/

namespace Shaper

variable {shaper : Shaper} {packet : Packets.Packet}

@[simp] theorem update_spec : shaper.update.bucket.spec = shaper.bucket.spec := rfl

@[simp] theorem update_sent : shaper.update.sent = shaper.sent := rfl

theorem retry_covered (left : Nat) (covered : packet.packetSize ≤ shaper.update.bucket.tokens) :
    (retry packet (left + 1) shaper).sent = shaper.sent ++ [packet] ∧
      (retry packet (left + 1) shaper).bucket.spec = shaper.bucket.spec := by
  rw [retry, if_pos covered]
  exact ⟨rfl, rfl⟩

theorem retry_sent (positive : 0 < shaper.bucket.spec.rate)
    (fits : packet.packetSize ≤ shaper.bucket.spec.bucketSize) :
    (retry packet maxRetries shaper).sent = shaper.sent ++ [packet] ∧
      (retry packet maxRetries shaper).bucket.spec = shaper.bucket.spec := by
  by_cases covered : packet.packetSize ≤ shaper.update.bucket.tokens
  · exact retry_covered 2 covered
  let slept : Shaper :=
    { shaper.update with
      clock := shaper.update.clock.sleep (shaper.update.bucket.waitTime packet) }
  have waited : packet.packetSize ≤ slept.update.bucket.tokens := by
    apply @TokenBucket.covered_after_wait shaper.update.bucket packet positive fits
    exact le_add_of_nonneg_right zero_le
  rw [maxRetries, retry, if_neg covered]
  exact @retry_covered slept packet 1 waited

theorem send_delayed_sent (positive : 0 < shaper.bucket.spec.rate)
    (fits : packet.packetSize ≤ shaper.bucket.spec.bucketSize) :
    (shaper.sendDelayed packet).sent = shaper.sent ++ [packet] ∧
      (shaper.sendDelayed packet).bucket.spec = shaper.bucket.spec := by
  rw [sendDelayed, if_neg (Nat.not_lt.mpr fits)]
  exact retry_sent positive fits

theorem fold_delayed_sent (packets : List Packets.Packet) (shaper : Shaper)
    (positive : 0 < shaper.bucket.spec.rate)
    (fits : ∀ packet ∈ packets, packet.packetSize ≤ shaper.bucket.spec.bucketSize) :
    (packets.foldl sendDelayed shaper).sent = shaper.sent ++ packets ∧
      (packets.foldl sendDelayed shaper).bucket.spec = shaper.bucket.spec := by
  induction packets generalizing shaper with
  | nil => exact ⟨(List.append_nil _).symm, rfl⟩
  | cons packet packets induction =>
    obtain ⟨sent, spec⟩ := send_delayed_sent positive (fits packet List.mem_cons_self)
    have rest := induction (shaper.sendDelayed packet) (by rwa [spec]) (by
      intro other member
      rw [spec]
      exact fits other (List.mem_cons_of_mem _ member))
    rw [List.foldl_cons]
    refine ⟨?_, rest.2.trans spec⟩
    rw [rest.1, sent, List.append_assoc]
    rfl

/-- The two parts of the batch leave one after the other, and nothing is lost. -/
theorem send_sent {packets : List Packets.Packet} (positive : 0 < shaper.bucket.spec.rate)
    (fits : ∀ packet ∈ packets, packet.packetSize ≤ shaper.bucket.spec.bucketSize) :
    (shaper.send packets).sent = shaper.sent ++
        ((shaper.update.bucket.separate packets).2.1 ++
          (shaper.update.bucket.separate packets).2.2) ∧
      (shaper.send packets).bucket.spec = shaper.bucket.spec := by
  have spec := TokenBucket.separate_spec packets shaper.update.bucket
  have delayed := fold_delayed_sent (shaper.update.bucket.separate packets).2.2
    { shaper.update with
      bucket := (shaper.update.bucket.separate packets).1
      sent := shaper.update.sent ++ (shaper.update.bucket.separate packets).2.1 }
    (by
      dsimp only
      rwa [spec])
    (by
      intro packet member
      dsimp only
      rw [spec]
      have inside := (TokenBucket.separate_perm packets shaper.update.bucket).mem_iff.mp
        (List.mem_append_right _ member)
      exact fits packet inside)
  refine ⟨?_, delayed.2.trans spec⟩
  rw [← List.append_assoc]
  exact delayed.1

/-- What a run hands to the interface, batch by batch. -/
def handed (shaper : Shaper) : List (List Packets.Packet) → List (List Packets.Packet)
  | [] => []
  | packets :: batches =>
      ((shaper.update.bucket.separate packets).2.1 ++ (shaper.update.bucket.separate packets).2.2) ::
        (shaper.send packets).handed batches

theorem run_sent (batches : List (List Packets.Packet)) (shaper : Shaper)
    (positive : 0 < shaper.bucket.spec.rate)
    (fits : ∀ packets ∈ batches, ∀ packet ∈ packets,
      packet.packetSize ≤ shaper.bucket.spec.bucketSize) :
    (batches.foldl send shaper).sent = shaper.sent ++ (shaper.handed batches).flatten := by
  induction batches generalizing shaper with
  | nil => exact (List.append_nil _).symm
  | cons packets batches induction =>
    obtain ⟨sent, spec⟩ := send_sent positive (fits packets List.mem_cons_self)
    have rest := induction (shaper.send packets) (by rwa [spec]) (by
      intro other member
      rw [spec]
      exact fits other (List.mem_cons_of_mem _ member))
    rw [List.foldl_cons, rest, sent, handed, List.flatten_cons, List.append_assoc]

/-- In every send of the run, nothing overtakes; the tokens are those after the send's refill. -/
def Unovertaken (shaper : Shaper) : List (List Packets.Packet) → Prop
  | [] => True
  | packets :: batches =>
      TokenBucket.NoneOvertakes shaper.update.bucket.tokens packets ∧
        (shaper.send packets).Unovertaken batches

theorem handed_in_order_iff (batches : List (List Packets.Packet)) (shaper : Shaper) :
    (shaper.handed batches).flatten = batches.flatten ↔ shaper.Unovertaken batches := by
  induction batches generalizing shaper with
  | nil => exact iff_of_true rfl trivial
  | cons packets batches induction =>
    have length := (TokenBucket.separate_perm packets shaper.update.bucket).length_eq
    rw [handed, List.flatten_cons, List.flatten_cons, Unovertaken,
      ← TokenBucket.separate_in_order_iff, ← induction]
    constructor
    · intro same
      exact List.append_inj same length
    · rintro ⟨head, tail⟩
      rw [head, tail]

theorem handed_perm (batches : List (List Packets.Packet)) (shaper : Shaper) :
    (shaper.handed batches).flatten.Perm batches.flatten := by
  induction batches generalizing shaper with
  | nil => exact .refl []
  | cons packets batches induction =>
    exact (TokenBucket.separate_perm packets shaper.update.bucket).append (induction _)

end Shaper

/-- Over any run of a bucket with a positive rate, on packets no larger than the bucket, the
interface is handed each given packet once, and in the given order exactly when no send of the run
finds a packet that its tokens cover behind one that they do not. -/
theorem shaper_keeps_order_iff (spec : TokenBucketSpec) (clock : Clock)
    (batches : List (List Packets.Packet)) (positive : 0 < spec.rate)
    (fits : ∀ packets ∈ batches, ∀ packet ∈ packets, packet.packetSize ≤ spec.bucketSize) :
    (batches.foldl Shaper.send (.start spec clock)).sent.Perm batches.flatten ∧
      ((batches.foldl Shaper.send (.start spec clock)).sent = batches.flatten ↔
        (Shaper.start spec clock).Unovertaken batches) := by
  have sent := Shaper.run_sent batches (.start spec clock) positive fits
  rw [sent, Shaper.start, List.nil_append]
  exact ⟨Shaper.handed_perm batches _, Shaper.handed_in_order_iff batches _⟩

/-- A packet of one flow, with so many bytes of payload behind forty bytes of headers. -/
def shapedPacket (payloadLen : Nat) : Packets.Packet :=
  .buildIpv4TcpPacket ⟨10, 0, 0, 1⟩ 4000 ⟨10, 0, 0, 2⟩ 5000 (List.replicate payloadLen 0)

theorem large_packet_overtaken :
    (∀ packet ∈ [shapedPacket 20, shapedPacket 40, shapedPacket 0], packet.packetSize ≤ 100) ∧
      ([[shapedPacket 20, shapedPacket 40, shapedPacket 0]].foldl Shaper.send
        (.start ⟨1, 100⟩ ⟨0, fun _ => 0⟩)).sent =
          [shapedPacket 20, shapedPacket 0, shapedPacket 40] ∧
      ([[shapedPacket 20, shapedPacket 40, shapedPacket 0]].foldl Shaper.send
        (.start ⟨1, 100⟩ ⟨0, fun _ => 0⟩)).sent ≠
          [[shapedPacket 20, shapedPacket 40, shapedPacket 0]].flatten := by
  decide +kernel

theorem equal_packets_in_order :
    (0 < 1 ∧ ∀ packets ∈ [[shapedPacket 20, shapedPacket 20], [shapedPacket 0]],
      ∀ packet ∈ packets, packet.packetSize ≤ 100) ∧
    ([[shapedPacket 20, shapedPacket 20], [shapedPacket 0]].foldl Shaper.send
      (.start ⟨1, 100⟩ ⟨0, fun _ => 0⟩)).sent.Perm
        [[shapedPacket 20, shapedPacket 20], [shapedPacket 0]].flatten ∧
      (([[shapedPacket 20, shapedPacket 20], [shapedPacket 0]].foldl Shaper.send
        (.start ⟨1, 100⟩ ⟨0, fun _ => 0⟩)).sent =
          [[shapedPacket 20, shapedPacket 20], [shapedPacket 0]].flatten ↔
        (Shaper.start ⟨1, 100⟩ ⟨0, fun _ => 0⟩).Unovertaken
          [[shapedPacket 20, shapedPacket 20], [shapedPacket 0]]) := by
  refine ⟨⟨by decide, by decide +kernel⟩, ?_⟩
  exact shaper_keeps_order_iff ⟨1, 100⟩ ⟨0, fun _ => 0⟩
    [[shapedPacket 20, shapedPacket 20], [shapedPacket 0]] (by decide) (by decide +kernel)

end Nextmini.Node
