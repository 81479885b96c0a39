import Nextmini.Session.SenderShared

/-!
# Sender policy

What the runtime checks before it starts a sender: the block size fits the wire manifest and, when
FEC is on, symbols and trees are configured. The manifest of the session is derived here. Whether
the processor ingress lets several trees be told apart is up to the host.
-/

namespace Nextmini.Session

open Nextmini.Library.BigEndian
open Nextmini.Messages

set_option autoImplicit false

inductive PreflightError where
  | invalidBlockSize (value : Nat)
  | blockSizeTooLarge (value : Nat)
  | zeroSymbolsPerBlock
  | missingTreeIds
  | treeIdsMustBeSortedUnique (treeIds : List UInt16)
  | tooManyTreeIds (configured max : Nat)
  | multiTreeRequiresTreeVisibleIngress
  deriving DecidableEq, Repr

structure LosslessConfig where
  fecEnabled : Bool
  fecDefaultSymbolsPerBlock : UInt16
  fecDefaultTreeIds : List UInt16
  deriving DecidableEq, Repr

def validateBlockSize (blockSize : Nat) : Except PreflightError UInt32 :=
  if blockSize = 0 then .error (.invalidBlockSize blockSize)
  else if blockSize < 2 ^ 32 then .ok (UInt32.ofNat blockSize)
  else .error (.blockSizeTooLarge blockSize)

def deriveSenderTreeIds (config : LosslessConfig) : Except PreflightError (List UInt16) :=
  let requested := config.fecDefaultTreeIds
  if requested = [] then .error .missingTreeIds
  else if ¬requested.IsChain (· < ·) then .error (.treeIdsMustBeSortedUnique requested)
  else if maxManifestTreeIds < requested.length then
    .error (.tooManyTreeIds requested.length maxManifestTreeIds)
  else .ok requested

def deriveSenderPolicy (config : LosslessConfig) : Except PreflightError LosslessSessionMode :=
  if ¬config.fecEnabled then .ok .plain
  else if config.fecDefaultSymbolsPerBlock = 0 then .error .zeroSymbolsPerBlock
  else do
    let treeIds ← deriveSenderTreeIds config
    .ok (.fec (.newRaptorq config.fecDefaultSymbolsPerBlock treeIds))

structure SenderRequest where
  sessionId : UInt64
  blockSize : Nat
  receiverIds : List Nat
  totalBytes : UInt64
  sourceBuffer : List Byte
  readyGraceMs : Nat
  peerReportTimeoutMs : Nat
  deriving DecidableEq, Repr

structure SenderConfig where
  sessionId : UInt64
  receiverIds : List Nat
  sourceBuffer : List Byte
  manifest : LosslessSessionManifest
  readyGraceMs : Nat
  peerReportTimeoutMs : Nat
  deriving DecidableEq, Repr

def validateSenderIngressContract (treeVisible : Bool) (manifest : LosslessSessionManifest) :
    Except PreflightError Unit :=
  match manifest.mode with
  | .plain => .ok ()
  | .fec fec =>
      if fec.treeIds.length ≤ 1 then .ok ()
      else if treeVisible then .ok ()
      else .error .multiTreeRequiresTreeVisibleIngress

/-- The part of `start_sender_session` that turns a request into the sender's configuration. -/
def senderConfig (config : LosslessConfig) (treeVisible : Bool) (request : SenderRequest) :
    Except PreflightError SenderConfig := do
  let blockSize ← validateBlockSize request.blockSize
  match BlockPlan.new request.totalBytes request.blockSize with
  | .error _ => .error (.invalidBlockSize request.blockSize)
  | .ok plan =>
      let mode ← deriveSenderPolicy config
      let manifest : LosslessSessionManifest :=
        { blockSize := blockSize
          totalBytes := request.totalBytes
          totalBlocks := UInt64.ofNat plan.totalBlocks
          mode := mode }
      validateSenderIngressContract treeVisible manifest
      .ok
        { sessionId := request.sessionId
          receiverIds := request.receiverIds
          sourceBuffer := request.sourceBuffer
          manifest := manifest
          readyGraceMs := request.readyGraceMs
          peerReportTimeoutMs := request.peerReportTimeoutMs }

theorem validate_block_size_ok_iff (blockSize : Nat) (wire : UInt32) :
    validateBlockSize blockSize = .ok wire ↔
      0 < blockSize ∧ blockSize < 2 ^ 32 ∧ wire = UInt32.ofNat blockSize := by
  simp only [validateBlockSize]
  split_ifs with zero fits
  · simp [zero]
  · simp only [Except.ok.injEq, fits, Nat.pos_of_ne_zero zero, true_and]
    exact eq_comm
  · constructor
    · intro impossible
      cases impossible
    · rintro ⟨-, small, -⟩
      exact absurd small fits

theorem derived_policy_valid {config : LosslessConfig} {fec : LosslessSessionFecMode}
    (derived : deriveSenderPolicy config = .ok (.fec fec)) :
    LosslessSessionManifest.validateFec fec = .ok () := by
  simp only [deriveSenderPolicy] at derived
  split_ifs at derived with plain noSymbols
  · obtain ⟨treeIds, trees, same⟩ := bind_ok_iff.mp derived
    cases same
    simp only [deriveSenderTreeIds] at trees
    split_ifs at trees with noTrees unsorted tooMany
    cases trees
    simp [LosslessSessionManifest.validateFec, LosslessSessionFecMode.newRaptorq,
      LosslessSessionFecMode.schemeKind, FecScheme.fromWire, FecScheme.toWire, noSymbols, noTrees,
      tooMany, unsorted]
  · cases derived

theorem sender_config_ok {config : LosslessConfig} {treeVisible : Bool} {request : SenderRequest}
    {cfg : SenderConfig} (built : senderConfig config treeVisible request = .ok cfg) :
    ∃ plan mode, BlockPlan.new request.totalBytes request.blockSize = .ok plan ∧
      deriveSenderPolicy config = .ok mode ∧ 0 < request.blockSize ∧
      request.blockSize < 2 ^ 32 ∧
      cfg =
        { sessionId := request.sessionId
          receiverIds := request.receiverIds
          sourceBuffer := request.sourceBuffer
          manifest := ⟨UInt32.ofNat request.blockSize, request.totalBytes,
            UInt64.ofNat plan.totalBlocks, mode⟩
          readyGraceMs := request.readyGraceMs
          peerReportTimeoutMs := request.peerReportTimeoutMs } := by
  simp only [senderConfig, bind_ok_iff, validate_block_size_ok_iff] at built
  obtain ⟨blockSize, ⟨positive, small, rfl⟩, built⟩ := built
  cases planned : BlockPlan.new request.totalBytes request.blockSize with
  | error reason =>
    rw [planned] at built
    cases built
  | ok plan =>
    simp only [planned, bind_ok_iff] at built
    obtain ⟨mode, derived, _, _, same⟩ := built
    exact ⟨plan, mode, rfl, derived, positive, small, (Except.ok.inj same).symm⟩

/-- The manifest of a configured sender passes the checks that its receivers make. -/
theorem sender_config_manifest_valid {config : LosslessConfig} {treeVisible : Bool}
    {request : SenderRequest} {cfg : SenderConfig}
    (built : senderConfig config treeVisible request = .ok cfg) :
    cfg.manifest.validate = .ok () := by
  obtain ⟨plan, mode, planned, derived, positive, small, rfl⟩ := sender_config_ok built
  have width : (UInt32.ofNat request.blockSize).toNat = request.blockSize :=
    UInt32.toNat_ofNat_of_lt' small
  rw [validate_manifest_ok_iff]
  refine ⟨?_, ?_, ?_⟩
  · intro zero
    have zeroNat := congrArg UInt32.toNat zero
    rw [width] at zeroNat
    exact absurd zeroNat (Nat.ne_of_gt positive)
  · simp only [BlockPlan.new, Nat.ne_of_gt positive, dif_neg, not_false_eq_true] at planned
    obtain rfl := Except.ok.inj planned
    simp only [width]
    split_ifs with empty
    · rw [empty, zero_ceilDiv]
    · rfl
  · intro fec same
    obtain rfl : mode = .fec fec := same
    exact derived_policy_valid derived

end Nextmini.Session
