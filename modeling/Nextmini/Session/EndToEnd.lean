import Nextmini.Session.Network
import Nextmini.Session.RoundDiscipline

/-!
# End-to-end losslessness

Plain and FEC sessions deliver: when the sender ends completed, each peer of the frozen quorum holds
all blocks, and a sink it was given begins with the source object. FEC sessions need one fact of the
fountain-code crate, that its decoder only answers with the block that the symbols come from, and
that no block is left to the crate whose symbols are longer than the crate is told.
-/

namespace Nextmini.Session

open Nextmini.Library Nextmini.Library.BigEndian
open Nextmini.Messages

set_option autoImplicit false

theorem plain_sender_mode {task : SenderTask PlainSender} (initial : plainSenders task) :
    task.shared.manifest.mode = .plain := by
  obtain ⟨config, treeVisible, request, cfg, built, started⟩ := initial
  unfold SessionSender.new at started
  split at started
  next => cases started
  next plan planned =>
    split at started
    next kind =>
      cases started
      exact kind
    next =>
      obtain ⟨_, _, impossible⟩ := Option.map_eq_some_iff.mp started
      cases impossible

theorem fec_sender_sourced {task : SenderTask FecSender} (initial : fecSenders task) :
    FecSourced task.shared.transfer task.mode := by
  obtain ⟨config, treeVisible, request, cfg, built, started⟩ := initial
  obtain ⟨plan, mode, planned, created, rfl⟩ := fec_sender_new started
  obtain ⟨fec, geometry, offered, laidOut, rfl⟩ := fec_sender_some created
  refine ⟨⟨fec, offered, rfl⟩, laidOut, by simp, ?_⟩
  intro blockId block encoder present found
  obtain rfl := List.eq_of_mem_replicate (List.mem_of_getElem? present)
  cases found

namespace Network

theorem plain_network_lossless (crate : FountainCrate) :
    Lossless (system crate plainSenders) := by
  have guarded : Lossless ((system crate plainSenders).restrict fun _ _ => True) := by
    refine lossless_of_tracking (plain_tracking crate) (plain_source crate) ?_
    intro task initial
    have tracked := plain_sender_tracked initial
    refine ⟨tracked, trivial, tracked.mode.geometry, ?_⟩
    intro fec kind
    rw [plain_sender_mode initial] at kind
    cases kind
  intro start events finish initial run
  exact guarded start events finish initial (run.guarded fun _ _ _ _ => trivial)

/-- Whenever the sender ends completed, a sink that a peer of the frozen quorum was given, and that
was not longer than the object, is the object. -/
def ExactSinks {Mode : Type} (system : TransitionSystem (Network Mode) NetworkEvent) : Prop :=
  ∀ start events finish, system.initial start → system.Run start events finish →
    finish.sender.stage = .finished .completed →
      ∀ peerId ∈ finish.sender.shared.activeQuorum.active, ∀ before,
        (start.receivers peerId).receiver.shared.sinkBuffer = some before →
          before.length ≤ start.sender.shared.plan.totalBytes →
            (finish.receivers peerId).receiver.shared.sinkBuffer =
              some start.sender.shared.transfer.object

theorem Lossless.exact {Mode : Type} {system : TransitionSystem (Network Mode) NetworkEvent}
    (lossless : Lossless system) : ExactSinks system := by
  intro start events finish initial run completed peerId member before given short
  obtain ⟨_, delivered⟩ := lossless start events finish initial run completed
  obtain ⟨sink, sinkIs, object, length⟩ := (delivered peerId member).sink before given
  have whole : sink.length = start.sender.shared.transfer.plan.totalBytes :=
    length.trans (max_eq_right short)
  rw [← whole, List.take_length] at object
  rw [sinkIs, object]

section SoleBlock

variable {Mode : Type} [SenderLoop Mode]

def ofSender (sender : SenderTask Mode) (sink : Option (List Byte)) : Network Mode where
  sender := sender
  receivers _ := .new ⟨0, sink, true⟩
  wire := []

def execute (crate : FountainCrate) (net : Network Mode) (events : List NetworkEvent) :
    Option (Network Mode × List (NetworkEvent × Unit)) :=
  TransitionSystem.execute (fun net event => (net.step crate event).map (·, ())) net events

theorem run_of_execution {crate : FountainCrate} {senders : SenderTask Mode → Prop}
    {start finish : Network Mode} {events : List NetworkEvent} {outputs : List (NetworkEvent × Unit)}
    (executed : execute crate start events = some (finish, outputs)) :
    (system crate senders).Run start (outputs.map fun output => output.1) finish := by
  have contained (net : Network Mode) (event : NetworkEvent) (next : Network Mode) (output : Unit)
      (stepped : (net.step crate event).map (·, ()) = some (next, output)) :
      (system crate senders).step net event next := by
    obtain ⟨_, taken, same⟩ := Option.map_eq_some_iff.mp stepped
    cases same
    exact taken
  exact TransitionSystem.run_of_execute (fun event _ => event) contained executed

def controlBytes (control : LosslessSessionControl) : List Byte := (encodeControl 0 control).getD []

def soleBlockEvents (manifest : LosslessSessionManifest) (block : List Byte) (host : Host)
    (submit : Nat → SendOutcome) : List NetworkEvent :=
  [.sender (.turn 0 submit), .sender (.turn 0 submit),
    .receiver 7 host (.frame ⟨controlBytes (.manifest manifest), none⟩),
    .sender (.control ⟨controlBytes .ready, some 7⟩), .sender (.turn 0 submit),
    .sender (.turn 0 submit), .receiver 7 host (.frame ⟨block, none⟩), .sender (.turn 0 submit),
    .receiver 7 host (.frame ⟨controlBytes (.sourceDone 0), none⟩),
    .sender (.control ⟨controlBytes (.need 0 .complete), some 7⟩), .sender (.turn 0 submit)]

def ending (result : Network Mode × List (NetworkEvent × Unit)) :
    SenderStage × Finset Nat × Option (List Byte) :=
  (result.1.sender.stage, result.1.sender.shared.activeQuorum.active,
    (result.1.receivers 7).receiver.shared.sinkBuffer)

theorem execution_of_ending {crate : FountainCrate} {start : Network Mode}
    {events : List NetworkEvent} {quorum : Finset Nat} {sink : Option (List Byte)}
    (ended : (execute crate start events).map ending = some (.finished .completed, quorum, sink)) :
    ∃ finish outputs, execute crate start events = some (finish, outputs) ∧
      finish.sender.stage = .finished .completed ∧
      finish.sender.shared.activeQuorum.active = quorum ∧
      (finish.receivers 7).receiver.shared.sinkBuffer = sink := by
  obtain ⟨⟨finish, outputs⟩, executed, same⟩ := Option.map_eq_some_iff.mp ended
  obtain ⟨stage, rest⟩ := Prod.mk.inj same
  obtain ⟨active, buffer⟩ := Prod.mk.inj rest
  exact ⟨finish, outputs, executed, stage, active, buffer⟩

end SoleBlock

theorem sole_block_starts : plainSenders soleBlockSender :=
  ⟨⟨false, 1, []⟩, false, soleBlockRequest, ⟨0, [7], [0], soleBlockManifest, 1, 0⟩, rfl, rfl⟩

/-- A receiver that was started without a sink has none at the end. -/
theorem completes_without_sink : ∃ start events finish,
    (system idleCrate plainSenders).initial start ∧
      (system idleCrate plainSenders).Run start events finish ∧
      finish.sender.stage = .finished .completed ∧
      7 ∈ finish.sender.shared.activeQuorum.active ∧
      (finish.receivers 7).receiver.shared.sinkBuffer = none := by
  obtain ⟨finish, outputs, executed, stage, active, sink⟩ := execution_of_ending
    (show (execute idleCrate (ofSender soleBlockSender none)
      (soleBlockEvents soleBlockManifest ((encodeBlockData 0 0 [0]).getD []) roomyHost
        closedIngress)).map ending = some (.finished .completed, {7}, none) by decide +kernel)
  exact ⟨_, _, finish, ⟨sole_block_starts, fun _ => ⟨_, rfl, rfl⟩, rfl⟩, run_of_execution executed,
    stage, by simp [active], sink⟩

def soleBlockFecManifest : LosslessSessionManifest := ⟨1, 1, 1, .fec (.newRaptorq 1 [1])⟩

def soleBlockFecSender : SenderTask FecSender where
  shared := { soleBlockSender.shared with manifest := soleBlockFecManifest }
  mode :=
    { blocks := [⟨0, 1, 0, 0, none⟩]
      symbolsPerBlock := 1
      treeIds := [1]
      geometry := ⟨1, 1⟩
      nextTreeRr := 0
      currentSourceCache := none
      roundSourceDoneSent := false
      currentRoundId := 0
      phase := .sendingData
      roundComplete := false
      roundReports := ∅
      repairWindowSymbols := 0
      protocolError := false }
  stage := .starting

def openIngress : Nat → SendOutcome := fun _ => .queued

/-! ## A crate that repairs -/

def xorBytes (first second : List Byte) : List Byte := List.zipWith (· ^^^ ·) first second

theorem xor_bytes_cancel {first second : List Byte} (same : first.length = second.length) :
    xorBytes first (xorBytes first second) = second := by
  apply List.ext_getElem
  · simp [xorBytes, same]
  · intro position inside _
    simp only [xorBytes, List.getElem_zipWith]
    rw [← UInt8.xor_assoc, UInt8.xor_self, UInt8.zero_xor]

theorem xor_bytes_comm (first second : List Byte) :
    xorBytes first second = xorBytes second first := by
  rw [xorBytes, List.zipWith_comm]
  simp only [xorBytes, UInt8.xor_comm]

/-- A symbol among the packets, cut to the size that the crate was told. -/
def heldSymbol (oti : Oti) (packets : List EncodingPacket) (esi : Nat) : Option (List Byte) :=
  (packets.find? fun packet => packet.1 = esi).map fun packet => packet.2.take oti.symbolSize

/-- A crate that puts the source symbols together when all are there; of a block of two symbols, the
exclusive or is the repair symbol and stands in for either. -/
def pairCrate : FountainCrate where
  repairPacket oti block _ := xorBytes (block.take oti.symbolSize) (block.drop oti.symbolSize)
  decode oti length packets :=
    match (List.range (length ⌈/⌉ oti.symbolSize)).mapM (heldSymbol oti packets) with
    | some symbols => some symbols.flatten
    | none =>
        if length ≠ 2 * oti.symbolSize then none
        else
          match heldSymbol oti packets 0, heldSymbol oti packets 1, heldSymbol oti packets 2 with
          | some first, none, some repair => some (first ++ xorBytes first repair)
          | none, some second, some repair => some (xorBytes second repair ++ second)
          | _, _, _ => none

section PairCrate

variable {params : BlockParams} {block : List Byte} {packets : List EncodingPacket}

theorem held_genuine {esi : Nat} {payload : List Byte}
    (genuine : ∀ packet ∈ packets, packet.2 =
      resizeZero (genuineSymbol pairCrate params block packet.1) params.symbolSize)
    (uncut : params.symbolSize < 2 ^ 16)
    (width : (genuineSymbol pairCrate params block esi).length = params.symbolSize)
    (held : heldSymbol params.oti packets esi = some payload) :
    payload = genuineSymbol pairCrate params block esi := by
  obtain ⟨packet, found, rfl⟩ := Option.map_eq_some_iff.mp held
  have named := List.find?_some found
  rw [decide_eq_true_eq] at named
  have told : params.oti.symbolSize = params.symbolSize := Nat.mod_eq_of_lt uncut
  rw [genuine packet (List.mem_of_find?_eq_some found), named, resize_zero_same width, told, ← width,
    List.take_length]

theorem source_symbol_width (length : block.length = params.sourceSymbols * params.symbolSize)
    {esi : Nat} (source : esi < params.sourceSymbols) :
    (genuineSymbol pairCrate params block esi).length = params.symbolSize := by
  have inside : esi * params.symbolSize + params.symbolSize ≤ block.length := by
    rw [length, ← Nat.succ_mul]
    exact Nat.mul_le_mul_right _ source
  rw [genuineSymbol, if_pos source, slice_length _ _ _ inside, Nat.add_sub_cancel_left]

/-- A block of two symbols is both together, and its repair symbol is their exclusive or. -/
theorem pair_symbols (uncut : params.symbolSize < 2 ^ 16) (pair : params.sourceSymbols = 2)
    (length : block.length = params.sourceSymbols * params.symbolSize) :
    genuineSymbol pairCrate params block 0 ++ genuineSymbol pairCrate params block 1 = block ∧
      genuineSymbol pairCrate params block 2 =
        xorBytes (genuineSymbol pairCrate params block 0)
          (genuineSymbol pairCrate params block 1) := by
  have told : params.oti.symbolSize = params.symbolSize := Nat.mod_eq_of_lt uncut
  have first : genuineSymbol pairCrate params block 0 = block.take params.symbolSize := by
    rw [genuineSymbol, if_pos (by omega), slice, Nat.zero_mul, Nat.zero_add, List.drop_zero]
  have second : genuineSymbol pairCrate params block 1 = block.drop params.symbolSize := by
    rw [genuineSymbol, if_pos (by omega), slice, Nat.one_mul, ← Nat.two_mul, ← pair, ← length,
      List.take_length]
  constructor
  · rw [first, second, List.take_append_drop]
  · rw [first, second, genuineSymbol, if_neg (by omega)]
    simp only [pairCrate, told]

theorem pair_crate_sound : DecodesGenuine pairCrate := by
  intro params block packets decoded positive uncut length _ genuine answer
  have told : params.oti.symbolSize = params.symbolSize := Nat.mod_eq_of_lt uncut
  have count : block.length ⌈/⌉ params.oti.symbolSize = params.sourceSymbols := by
    rw [told, length, Nat.mul_comm]
    exact smul_ceilDiv positive _
  have source (esi : Nat) (inside : esi < params.sourceSymbols) (payload : List Byte)
      (held : heldSymbol params.oti packets esi = some payload) :
      payload = genuineSymbol pairCrate params block esi :=
    held_genuine genuine uncut (source_symbol_width length inside) held
  simp only [pairCrate, count] at answer
  split at answer
  next symbols collected =>
    cases answer
    have slices : ∀ esi ∈ List.range params.sourceSymbols, ∀ payload,
        heldSymbol params.oti packets esi = some payload →
          payload = slice block (esi * params.symbolSize)
            (esi * params.symbolSize + params.symbolSize) := by
      intro esi member payload held
      have inside := List.mem_range.mp member
      rw [source esi inside payload held, genuineSymbol, if_pos inside]
    rw [mapM_some_map collected slices]
    exact flatten_slices block params.symbolSize params.sourceSymbols length
  next =>
    split_ifs at answer with two
    rw [told, length, not_not] at two
    have pair : params.sourceSymbols = 2 := Nat.eq_of_mul_eq_mul_right positive two
    obtain ⟨whole, repaired⟩ := pair_symbols uncut pair length
    have width (esi : Nat) (inside : esi < 2) :
        (genuineSymbol pairCrate params block esi).length = params.symbolSize :=
      source_symbol_width length (pair ▸ inside)
    have repair (payload : List Byte) (held : heldSymbol params.oti packets 2 = some payload) :
        payload = xorBytes (genuineSymbol pairCrate params block 0)
          (genuineSymbol pairCrate params block 1) := by
      rw [← repaired]
      apply held_genuine genuine uncut _ held
      rw [repaired, xorBytes, List.length_zipWith, width 0 (by omega), width 1 (by omega),
        Nat.min_self]
    split at answer
    next first sum held _ added =>
      cases answer
      rw [source 0 (by omega) first held, repair sum added,
        xor_bytes_cancel ((width 0 (by omega)).trans (width 1 (by omega)).symm), whole]
    next second sum _ held added =>
      cases answer
      rw [source 1 (by omega) second held, repair sum added,
        xor_bytes_comm (genuineSymbol pairCrate params block 0),
        xor_bytes_cancel ((width 1 (by omega)).trans (width 0 (by omega)).symm), whole]
    next => cases answer

end PairCrate

/-! ## A run with a repaired block -/

instance {Mode : Type} (net : Network Mode) (event : NetworkEvent) : Decidable (net.Uncut event) :=
  match event with
  | .receiver peerId host (.frame frame) =>
      inferInstanceAs (Decidable (∀ attempt ∈
        (net.receivers peerId).receiver.frameAttempt host frame.bytes,
          attempt.params.symbolSize < 2 ^ 16))
  | .receiver _ _ .passiveTimeout => .isTrue trivial
  | .receiver _ _ .channelClosed => .isTrue trivial
  | .sender _ => .isTrue trivial

def executeUncut (crate : FountainCrate) (net : Network FecSender) (events : List NetworkEvent) :
    Option (Network FecSender × List (NetworkEvent × Unit)) :=
  TransitionSystem.execute
    (fun net event => if net.Uncut event then (net.step crate event).map (·, ()) else none) net events

theorem run_of_uncut {crate : FountainCrate} {start finish : Network FecSender}
    {events : List NetworkEvent} {outputs : List (NetworkEvent × Unit)}
    (executed : executeUncut crate start events = some (finish, outputs)) :
    ((system crate fecSenders).restrict Uncut).Run start
      (outputs.map fun output => output.1) finish := by
  apply TransitionSystem.run_of_execute (fun event _ => event) _ executed
  intro net event next output stepped
  split_ifs at stepped with uncut
  obtain ⟨_, taken, same⟩ := Option.map_eq_some_iff.mp stepped
  cases same
  exact ⟨uncut, taken⟩

def pairManifest : LosslessSessionManifest := ⟨2, 2, 1, .fec (.newRaptorq 2 [1])⟩

def pairRequest : SenderRequest :=
  { soleBlockRequest with blockSize := 2, totalBytes := 2, sourceBuffer := [5, 6] }

def pairSender : SenderTask FecSender where
  shared :=
    { soleBlockSender.shared with
      manifest := pairManifest
      plan :=
        { totalBytes := 2
          blockSize := 2
          totalBlocks := 1
          blockSizePositive := Nat.two_pos
          blockCount := rfl
          bytesFit := Nat.lt_of_sub_ne_zero nofun }
      source := ⟨[5, 6]⟩ }
  mode := { soleBlockFecSender.mode with
    blocks := [⟨0, 2, 0, 0, none⟩]
    symbolsPerBlock := 2
    geometry := ⟨2, 1⟩ }
  stage := .starting

theorem pair_starts : fecSenders pairSender :=
  ⟨⟨true, 2, [1]⟩, false, pairRequest, ⟨0, [7], [5, 6], pairManifest, 1, 0⟩, rfl, rfl⟩

def pairEvents : List NetworkEvent :=
  let turn : NetworkEvent := .sender (.turn 0 openIngress)
  let reply (control : LosslessSessionControl) : NetworkEvent :=
    .sender (.control ⟨controlBytes control, some 7⟩)
  let arrival (bytes : List Byte) : NetworkEvent := .receiver 7 roomyHost (.frame ⟨bytes, none⟩)
  [turn, turn, arrival (controlBytes (.manifest pairManifest)), reply .ready, turn, turn, turn, turn,
    -- the second source symbol is lost
    arrival (encodeBlockSymbol 0 0 0 1 [5]), arrival (controlBytes (.sourceDone 0)),
    reply (.need 0 (.fec [⟨0, 1⟩])), turn, arrival (encodeBlockSymbol 0 0 2 1 [3]), turn, turn,
    arrival (controlBytes (.sourceDone 1)), reply (.need 1 .complete), turn]

end Network

end Nextmini.Session
