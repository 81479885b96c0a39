import Mathlib.Data.List.Induction
import Mathlib.Logic.Function.Basic
import Nextmini.Library.TransitionSystem
import Nextmini.Packets.StreamReader

/-!
# Link probes

The controller has a node send a burst of packets to a neighbor and stores what the neighbor reports.
The packets go through the writer of the neighbor's scheduler, between batches of other packets, and
over the connection to the reader there, which counts the bytes of each probe by its id. What the
reader computes from the time that has passed is left out, and writes to the connection do not fail.
-/

namespace Nextmini.Packets

open Nextmini.Library Nextmini.Library.BigEndian Nextmini.Library.ByteStream

set_option autoImplicit false

/-! ## Requests and packets -/

structure ProbeRequest where
  id : Int32
  fromNodeId : Int32
  toNodeId : Int32
  probeBytes : Int32
  deriving DecidableEq, Repr

structure ProbeLink where
  remoteNodeId : UInt64
  probeId : UInt64
  probeBytes : UInt64
  deriving DecidableEq, Repr

/-- A signed field as it is cast for a message. -/
def asUsize (field : Int32) : UInt64 := field.toInt64.toUInt64

def sendProbeLink (request : ProbeRequest) : ProbeLink where
  remoteNodeId := asUsize request.toNodeId
  probeId := asUsize request.id
  probeBytes := asUsize request.probeBytes

def probePayloadSize : Nat := 1360
def probeHeaderLen : Nat := 17

def probePayload (isLast : Bool) (probeId senderId : UInt64) : List Byte :=
  (if isLast then 1 else 0) :: (encode64 probeId ++ encode64 senderId ++
    List.replicate (probePayloadSize - probeHeaderLen) 0)

def probePacket (isLast : Bool) (probeId senderId : UInt64) : Packet :=
  .buildIpv4TcpPacket ⟨127, 0, 0, 1⟩ 0 ⟨127, 0, 0, 2⟩ 0 (probePayload isLast probeId senderId)

def probePacketCount (link : ProbeLink) : Nat := max (link.probeBytes.toNat / probePayloadSize) 1

def sendProbe (nodeId : UInt64) (link : ProbeLink) : List Packet :=
  (List.range (probePacketCount link)).map fun index =>
    probePacket (index = probePacketCount link - 1) link.probeId nodeId

/-! ## The reader -/

structure ProbeResult where
  probeId : UInt64
  fromNodeId : UInt64
  toNodeId : UInt64
  bytesReceived : Nat
  deriving DecidableEq, Repr

/-- A reader with the bytes of the probes under way, and what it has handed on. -/
structure ProbeReader where
  activeProbes : UInt64 → Option Nat
  processed : List Packet
  reported : List ProbeResult

namespace ProbeReader

def new : ProbeReader where
  activeProbes _ := none
  processed := []
  reported := []

def handleProbe (localNodeId : UInt64) (reader : ProbeReader) (packet : Packet) : ProbeReader :=
  match packet.tcpPayload with
  | none => reader
  | some payload =>
      if payload.length < probeHeaderLen then reader
      else
        let flags := Packet.byteAt payload 0
        let probeId := decode64 (slice payload 1 9)
        let senderNodeId := decode64 (slice payload 9 17)
        let bytesReceived := (reader.activeProbes probeId).getD 0 + packet.packetSize
        if flags = 1 then
          { reader with
            activeProbes := Function.update reader.activeProbes probeId none
            reported := reader.reported ++ [⟨probeId, senderNodeId, localNodeId, bytesReceived⟩] }
        else
          { reader with
            activeProbes := Function.update reader.activeProbes probeId (some bytesReceived) }

/-- One turn of the loop, with the packet it has read. -/
def take (localNodeId : UInt64) (reader : ProbeReader) (packet : Packet) : ProbeReader :=
  match tcpDestination packet with
  | .probe => reader.handleProbe localNodeId packet
  | .processors => { reader with processed := reader.processed ++ [packet] }

def takeAll (localNodeId : UInt64) (reader : ProbeReader) (packets : List Packet) : ProbeReader :=
  packets.foldl (take localNodeId) reader

end ProbeReader

structure ProbeRow where
  probeId : Int64
  fromNodeId : Int32
  toNodeId : Int32
  deriving DecidableEq, Repr

/-- What the controller inserts for a result, apart from the bandwidth. -/
def probeRow (result : ProbeResult) : ProbeRow where
  probeId := result.probeId.toInt64
  fromNodeId := result.fromNodeId.toInt64.toInt32
  toNodeId := result.toNodeId.toInt64.toInt32

/-! ## The link -/

/-- The link from one node to another, with the requests for it that have reached the scheduler and
the other packets that were sent. -/
structure LinkState where
  requests : List ProbeRequest
  channel : List (List Packet)
  probePackets : List Packet
  collecting : Bool
  wire : List Byte
  sent : List Packet
  reader : ProbeReader

def LinkState.new : LinkState where
  requests := []
  channel := []
  probePackets := []
  collecting := true
  wire := []
  sent := []
  reader := .new

inductive LinkLabel where
  | asked (request : ProbeRequest)
  | collected
  | flushed
  | woken
  | sent (packets : List Packet)
  | read

/-- `taken` is what the single calls of the writer take. -/
inductive LinkStep (sender receiver : UInt64) (state : LinkState) : LinkLabel → LinkState → Prop
  | asked (request : ProbeRequest) :
      LinkStep sender receiver state (.asked request)
        { state with
          requests := state.requests ++ [request]
          channel := state.channel ++ [sendProbe sender (sendProbeLink request)] }
  | collected (packets : List Packet) (rest : List (List Packet)) :
      state.collecting = true → state.channel = packets :: rest →
        LinkStep sender receiver state .collected
          { state with
            channel := rest
            probePackets := state.probePackets ++ packets }
  | flushed (taken : List Nat) (stream : List Byte) :
      state.collecting = true → state.channel = [] →
        writePackets taken state.probePackets = some stream →
          LinkStep sender receiver state .flushed
            { state with
              probePackets := []
              collecting := false
              wire := state.wire ++ stream }
  | woken (packets : List Packet) (rest : List (List Packet)) (taken : List Nat) (stream : List Byte) :
      state.collecting = false → state.channel = packets :: rest →
        writePackets taken packets = some stream →
          LinkStep sender receiver state .woken
            { state with
              channel := rest
              wire := state.wire ++ stream }
  | sent (packets : List Packet) (taken : List Nat) (stream : List Byte) :
      state.collecting = false → writePackets taken packets = some stream →
        LinkStep sender receiver state (.sent packets)
          { state with
            collecting := true
            wire := state.wire ++ stream
            sent := state.sent ++ packets }
  | read (packet : Packet) (rest : List Byte) :
      readPacket state.wire = some (packet, rest) →
        LinkStep sender receiver state .read
          { state with
            wire := rest
            reader := state.reader.take receiver packet }

def linkProbes (sender receiver : UInt64) : TransitionSystem LinkState LinkLabel where
  initial state := state = .new
  step := LinkStep sender receiver

/-- The requests are for this link, and the other packets fit a frame and are no probe packets. -/
def OfLink (sender receiver : UInt64) : LinkLabel → Prop
  | .asked request => asUsize request.fromNodeId = sender ∧ asUsize request.toNodeId = receiver
  | .sent packets => ∀ packet ∈ packets, packet.flowId ≠ probeFlowId ∧
      ∃ vec, packet = .fromVec vec ∧ 20 ≤ vec.length ∧ vec.length ≤ maxFramedPacketSize
  | _ => True

/-! ## What a probe leaves behind -/

def requestResult (request : ProbeRequest) : ProbeResult where
  probeId := asUsize request.id
  fromNodeId := asUsize request.fromNodeId
  toNodeId := asUsize request.toNodeId
  bytesReceived := 1400 * probePacketCount (sendProbeLink request)

def requestRow (request : ProbeRequest) : ProbeRow where
  probeId := request.id.toInt64
  fromNodeId := request.fromNodeId
  toNodeId := request.toNodeId

/-- The casts to the messages and back leave the ids as they were. -/
theorem request_result_row (request : ProbeRequest) :
    probeRow (requestResult request) = requestRow request := by
  simp only [probeRow, requestResult, requestRow, asUsize, Int64.toInt64_toUInt64,
    Int32.toInt32_toInt64]

theorem probe_payload_length (isLast : Bool) (probeId senderId : UInt64) :
    (probePayload isLast probeId senderId).length = probePayloadSize := by
  rw [probePayload, List.length_cons, List.length_append, List.length_append, encode64_length,
    encode64_length, List.length_replicate]
  rfl

theorem probe_payload_fields (isLast : Bool) (probeId senderId : UInt64) :
    Packet.byteAt (probePayload isLast probeId senderId) 0 = (if isLast then 1 else 0) ∧
      decode64 (slice (probePayload isLast probeId senderId) 1 9) = probeId ∧
      decode64 (slice (probePayload isLast probeId senderId) 9 17) = senderId := by
  let flag : Byte := if isLast then 1 else 0
  let padding := List.replicate (probePayloadSize - probeHeaderLen) (0 : Byte)
  have first : slice (probePayload isLast probeId senderId) 1 9 = encode64 probeId := by
    have cut := slice_append [flag] (encode64 probeId) (encode64 senderId ++ padding)
    rw [encode64_length, List.append_assoc] at cut
    exact cut
  have second : slice (probePayload isLast probeId senderId) 9 17 = encode64 senderId := by
    have cut := slice_append (flag :: encode64 probeId) (encode64 senderId) padding
    rw [List.length_cons, encode64_length, encode64_length, List.cons_append, List.cons_append,
      List.append_assoc] at cut
    exact cut
  refine ⟨rfl, ?_, ?_⟩
  · rw [first, decode64_encode]
  · rw [second, decode64_encode]

section Reader

variable {localNodeId : UInt64} {reader : ProbeReader}

theorem probe_packet_size (isLast : Bool) (probeId senderId : UInt64) :
    (probePacket isLast probeId senderId).packetSize = 1400 := by
  rw [probePacket, Packet.buildIpv4TcpPacket, Packet.built_packet_size, probe_payload_length]
  rfl

theorem probe_packet_destination (isLast : Bool) (probeId senderId : UInt64) :
    tcpDestination (probePacket isLast probeId senderId) = .probe := by
  have flow : (probePacket isLast probeId senderId).flowId = probeFlowId := by
    rw [probePacket, Packet.buildIpv4TcpPacket, Packet.built_flow_id]
    decide
  rw [tcpDestination, if_pos flow]

theorem probe_packet_payload (isLast : Bool) (probeId senderId : UInt64) :
    (probePacket isLast probeId senderId).tcpPayload = some (probePayload isLast probeId senderId) := by
  apply Packet.built_tcp_payload
  rw [probe_payload_length]
  decide

theorem probe_packet_taken (isLast : Bool) (probeId senderId : UInt64) :
    reader.take localNodeId (probePacket isLast probeId senderId) =
      if isLast then
        { reader with
          activeProbes := Function.update reader.activeProbes probeId none
          reported := reader.reported ++
            [⟨probeId, senderId, localNodeId, (reader.activeProbes probeId).getD 0 + 1400⟩] }
      else
        { reader with
          activeProbes := Function.update reader.activeProbes probeId
            (some ((reader.activeProbes probeId).getD 0 + 1400)) } := by
  rcases probe_payload_fields isLast probeId senderId with ⟨flags, first, second⟩
  have long : ¬(probePayload isLast probeId senderId).length < probeHeaderLen := by
    rw [probe_payload_length]
    decide
  rw [ProbeReader.take, probe_packet_destination]
  simp only [ProbeReader.handleProbe, probe_packet_payload, if_neg long, flags, first, second,
    probe_packet_size]
  cases isLast with
  | false => rfl
  | true => rfl

theorem take_all_append (packets others : List Packet) :
    reader.takeAll localNodeId (packets ++ others) =
      (reader.takeAll localNodeId packets).takeAll localNodeId others :=
  List.foldl_append ..

theorem take_all_single (packet : Packet) :
    reader.takeAll localNodeId [packet] = reader.take localNodeId packet := rfl

theorem send_probe_at (nodeId : UInt64) (link : ProbeLink) {index : Nat}
    (inside : index < probePacketCount link) :
    (sendProbe nodeId link).take (index + 1) = (sendProbe nodeId link).take index ++
      [probePacket (index = probePacketCount link - 1) link.probeId nodeId] := by
  have found : (sendProbe nodeId link)[index]? =
      some (probePacket (index = probePacketCount link - 1) link.probeId nodeId) := by
    rw [sendProbe, List.getElem?_map, List.getElem?_range inside, Option.map_some]
  rw [List.take_add_one, found, Option.toList_some]

theorem send_probe_some (nodeId : UInt64) (link : ProbeLink) : sendProbe nodeId link ≠ [] := by
  intro none
  have length := congrArg List.length none
  rw [sendProbe, List.length_map, List.length_range] at length
  have least : 1 ≤ probePacketCount link := Nat.le_max_right _ _
  rw [length] at least
  cases least

/-- While a probe is not complete, its bytes so far are kept. -/
theorem probe_front_taken (nodeId : UInt64) {link : ProbeLink}
    (idle : reader.activeProbes link.probeId = none) {count : Nat}
    (front : count < probePacketCount link) :
    reader.takeAll localNodeId ((sendProbe nodeId link).take count) =
      { reader with
        activeProbes := Function.update reader.activeProbes link.probeId
          (if count = 0 then none else some (1400 * count)) } := by
  induction count with
  | zero =>
    rw [if_pos rfl, ← idle, Function.update_eq_self]
    rfl
  | succ count induction =>
    have before := induction (Nat.lt_of_succ_lt front)
    have later : ¬count = probePacketCount link - 1 := by omega
    rw [send_probe_at nodeId link (Nat.lt_of_succ_lt front), take_all_append, before,
      decide_eq_false later]
    have step := @probe_packet_taken localNodeId
      { reader with
        activeProbes := Function.update reader.activeProbes link.probeId
          (if count = 0 then none else some (1400 * count)) } false link.probeId nodeId
    simp only [Function.update_self, Function.update_idem, Bool.false_eq_true, if_false] at step
    have bytes : (if count = 0 then none else some (1400 * count)).getD 0 + 1400 =
        1400 * (count + 1) := by
      split_ifs with none
      · rw [none]
        rfl
      · rw [Option.getD_some, Nat.mul_succ]
    rw [take_all_single, step, bytes, if_neg (Nat.succ_ne_zero count)]

/-- A complete probe is reported, and nothing is left of it. -/
theorem probe_taken (nodeId : UInt64) {link : ProbeLink}
    (idle : reader.activeProbes link.probeId = none) :
    reader.takeAll localNodeId (sendProbe nodeId link) =
      { reader with
        reported := reader.reported ++
          [⟨link.probeId, nodeId, localNodeId, 1400 * probePacketCount link⟩] } := by
  have some : 0 < probePacketCount link := Nat.lt_of_lt_of_le Nat.zero_lt_one (Nat.le_max_right _ _)
  obtain ⟨last, count⟩ : ∃ last, probePacketCount link = last + 1 :=
    ⟨_, (Nat.succ_pred_eq_of_pos some).symm⟩
  have whole : (sendProbe nodeId link).take (last + 1) = sendProbe nodeId link := by
    apply List.take_of_length_le
    rw [sendProbe, List.length_map, List.length_range, count]
  have inside : last < probePacketCount link := by omega
  have final : last = probePacketCount link - 1 := by omega
  rw [← whole, send_probe_at nodeId link inside, take_all_append,
    probe_front_taken nodeId idle inside, decide_eq_true final]
  have step := @probe_packet_taken localNodeId
    { reader with
      activeProbes := Function.update reader.activeProbes link.probeId
        (if last = 0 then none else .some (1400 * last)) } true link.probeId nodeId
  simp only [Function.update_self, Function.update_idem, if_true] at step
  have bytes : (if last = 0 then none else .some (1400 * last)).getD 0 + 1400 =
      1400 * probePacketCount link := by
    split_ifs with none
    · rw [count, none]
      rfl
    · rw [Option.getD_some, count, Nat.mul_succ]
  have forgotten : Function.update reader.activeProbes link.probeId none = reader.activeProbes := by
    rw [← idle, Function.update_eq_self]
  rw [take_all_single, step, bytes, forgotten]

end Reader

/-! ## What was written -/

/-- A whole probe, or another packet, on its way over the connection. -/
inductive Written where
  | probe (request : ProbeRequest)
  | other (packet : Packet)

namespace Written

def packets (sender : UInt64) : Written → List Packet
  | .probe request => sendProbe sender (sendProbeLink request)
  | .other packet => [packet]

def request : Written → Option ProbeRequest
  | .probe request => some request
  | .other _ => none

def packet : Written → Option Packet
  | .probe _ => none
  | .other packet => some packet

def Proper (sender receiver : UInt64) : Written → Prop
  | .probe request => asUsize request.fromNodeId = sender ∧ asUsize request.toNodeId = receiver
  | .other packet => packet.flowId ≠ probeFlowId ∧
      ∃ vec, packet = .fromVec vec ∧ 20 ≤ vec.length ∧ vec.length ≤ maxFramedPacketSize

end Written

section Front

variable {sender receiver : UInt64} {written : List Written}

/-- Once all of it is read, every probe is reported and every other packet handed on. -/
theorem written_taken (proper : ∀ item ∈ written, item.Proper sender receiver) :
    ProbeReader.new.takeAll receiver (written.flatMap (Written.packets sender)) =
      { activeProbes := fun _ => none
        processed := written.filterMap Written.packet
        reported := (written.filterMap Written.request).map requestResult } := by
  induction written using List.reverseRecOn with
  | nil => rfl
  | append_singleton earlier item induction =>
    have before := induction fun item member => proper item (List.mem_append_left _ member)
    have last := proper item (List.mem_append_right _ (List.mem_singleton_self item))
    rw [List.flatMap_append, List.flatMap_singleton, take_all_append, before,
      List.filterMap_append, List.filterMap_append, List.map_append]
    cases item with
    | probe request =>
      rcases last with ⟨rfl, rfl⟩
      rw [Written.packets, probe_taken _ rfl]
      simp [Written.packet, Written.request, requestResult, sendProbeLink]
    | other packet =>
      have passes : tcpDestination packet = .processors := if_neg last.1
      rw [Written.packets, take_all_single, ProbeReader.take, passes]
      simp [Written.packet, Written.request]

/-- The packets read so far are those of whole items and the front of one probe. -/
theorem front_of_written {read unread : List Packet}
    (split : read ++ unread = written.flatMap (Written.packets sender)) :
    ∃ done rest part, written = done ++ rest ∧
      read = done.flatMap (Written.packets sender) ++ part ∧
      (part = [] ∨ ∃ request more, rest = .probe request :: more ∧
        ∃ count < probePacketCount (sendProbeLink request),
          part = (sendProbe sender (sendProbeLink request)).take count) := by
  induction written generalizing read with
  | nil =>
    rw [List.flatMap_nil, List.append_eq_nil_iff] at split
    exact ⟨[], [], [], rfl, split.1, .inl rfl⟩
  | cons item more induction =>
    rw [List.flatMap_cons, List.append_eq_append_iff] at split
    rcases split with ⟨part, whole, _⟩ | ⟨later, whole, split⟩
    · by_cases complete : part = []
      · rw [complete, List.append_nil] at whole
        refine ⟨[item], more, [], rfl, ?_, .inl rfl⟩
        rw [List.flatMap_singleton, List.append_nil, whole]
      · refine ⟨[], item :: more, read, rfl, rfl, ?_⟩
        have shorter : read.length < (item.packets sender).length := by
          rw [whole, List.length_append]
          exact Nat.lt_add_of_pos_right (List.length_pos_iff.mpr complete)
        cases item with
        | probe request =>
          right
          refine ⟨request, more, rfl, read.length, ?_, ?_⟩
          · rw [Written.packets, sendProbe, List.length_map, List.length_range] at shorter
            exact shorter
          · rw [Written.packets] at whole
            rw [whole, List.take_left]
        | other packet =>
          left
          exact List.eq_nil_of_length_eq_zero (Nat.lt_one_iff.mp shorter)
    · rcases induction split.symm with ⟨done, rest, part, rfl, rfl, ends⟩
      refine ⟨item :: done, rest, part, rfl, ?_, ends⟩
      rw [whole, List.flatMap_cons, List.append_assoc]

/-- What is read so far has reported whole probes only, and in their order. -/
theorem front_taken (proper : ∀ item ∈ written, item.Proper sender receiver)
    {read unread : List Packet}
    (split : read ++ unread = written.flatMap (Written.packets sender)) :
    (ProbeReader.new.takeAll receiver read).reported <+:
        (written.filterMap Written.request).map requestResult ∧
      (ProbeReader.new.takeAll receiver read).processed <+: written.filterMap Written.packet := by
  rcases front_of_written split with ⟨done, rest, part, rfl, rfl, ends⟩
  have whole := @written_taken sender receiver done fun item member =>
    proper item (List.mem_append_left _ member)
  have same : (ProbeReader.new.takeAll receiver (done.flatMap (Written.packets sender) ++ part)).reported
        = (done.filterMap Written.request).map requestResult ∧
      (ProbeReader.new.takeAll receiver
        (done.flatMap (Written.packets sender) ++ part)).processed =
          done.filterMap Written.packet := by
    rw [take_all_append, whole]
    rcases ends with rfl | ⟨request, more, rfl, count, front, rfl⟩
    · exact ⟨rfl, rfl⟩
    · rw [probe_front_taken sender rfl front]
      exact ⟨rfl, rfl⟩
  rw [same.1, same.2, List.filterMap_append, List.filterMap_append, List.map_append]
  exact ⟨List.prefix_append _ _, List.prefix_append _ _⟩

end Front

/-! ## The link in a run -/

section Link

variable {sender receiver : UInt64} {state next : LinkState} {label : LinkLabel}

def frames (packets : List Packet) : List Byte := (packets.flatMap packetSlices).flatten

theorem frames_append (packets others : List Packet) :
    frames (packets ++ others) = frames packets ++ frames others := by
  simp only [frames, List.flatMap_append, List.flatten_append]

/-- What was written, what the writer has collected and what waits in its channel are the requests,
and the reader is where the packets it has read take it. -/
structure LinkTraced (sender receiver : UInt64) (written : List Written)
    (collected queued : List ProbeRequest) (read unread : List Packet) (state : LinkState) : Prop where
  proper : ∀ item ∈ written, item.Proper sender receiver
  waiting : ∀ request ∈ collected ++ queued, (Written.probe request).Proper sender receiver
  requests : state.requests = written.filterMap Written.request ++ (collected ++ queued)
  sent : state.sent = written.filterMap Written.packet
  channel : state.channel = queued.map fun request => sendProbe sender (sendProbeLink request)
  probePackets : state.probePackets =
    collected.flatMap fun request => sendProbe sender (sendProbeLink request)
  idle : state.collecting = false → collected = []
  split : read ++ unread = written.flatMap (Written.packets sender)
  wire : state.wire = frames unread
  reader : state.reader = ProbeReader.new.takeAll receiver read

theorem traced_written {written more : List Written}
    {read unread packets : List Packet} {taken : List Nat} {stream : List Byte}
    (wire : state.wire = frames unread)
    (split : read ++ unread = written.flatMap (Written.packets sender))
    (items : more.flatMap (Written.packets sender) = packets)
    (wrote : writePackets taken packets = some stream) :
    read ++ (unread ++ packets) = (written ++ more).flatMap (Written.packets sender) ∧
      state.wire ++ stream = frames (unread ++ packets) := by
  constructor
  · rw [List.flatMap_append, items, ← split, List.append_assoc]
  · rw [write_packets_some wrote, wire, frames_append]
    rfl

theorem probes_written (requests : List ProbeRequest) :
    (requests.map Written.probe).flatMap (Written.packets sender) =
        requests.flatMap (fun request => sendProbe sender (sendProbeLink request)) ∧
      (requests.map Written.probe).filterMap Written.request = requests ∧
      (requests.map Written.probe).filterMap Written.packet = [] := by
  refine ⟨?_, ?_, ?_⟩
  · rw [List.flatMap_map]
    rfl
  · rw [List.filterMap_map]
    exact List.filterMap_some
  · rw [List.filterMap_map, List.filterMap_eq_nil_iff]
    intro request _
    rfl

theorem others_written (packets : List Packet) :
    (packets.map Written.other).flatMap (Written.packets sender) = packets ∧
      (packets.map Written.other).filterMap Written.request = [] ∧
      (packets.map Written.other).filterMap Written.packet = packets := by
  refine ⟨?_, ?_, ?_⟩
  · rw [List.flatMap_map]
    exact List.flatMap_singleton' packets
  · rw [List.filterMap_map, List.filterMap_eq_nil_iff]
    intro packet _
    rfl
  · rw [List.filterMap_map]
    exact List.filterMap_some

theorem unread_packet_read {unread : List Packet}
    (framed : ∀ packet ∈ unread,
      ∃ vec, packet = .fromVec vec ∧ 20 ≤ vec.length ∧ vec.length ≤ maxFramedPacketSize) :
    (unread = [] → readPacket (frames unread) = none) ∧
      ∀ packet rest, unread = packet :: rest →
        readPacket (frames unread) = some (packet, frames rest) := by
  constructor
  · rintro rfl
    rfl
  · rintro packet rest rfl
    rcases framed packet List.mem_cons_self with ⟨vec, rfl, minimum, fits⟩
    have front : frames (.fromVec vec :: rest) =
        (packetSlices (.fromVec vec)).flatten ++ frames rest := by
      simp only [frames, List.flatMap_cons, List.flatten_append]
    rw [front]
    exact read_packet_framed minimum fits _

theorem written_framed {written : List Written} (proper : ∀ item ∈ written, item.Proper sender receiver)
    {packet : Packet} (member : packet ∈ written.flatMap (Written.packets sender)) :
    ∃ vec, packet = .fromVec vec ∧ 20 ≤ vec.length ∧ vec.length ≤ maxFramedPacketSize := by
  rcases List.mem_flatMap.mp member with ⟨item, listed, packed⟩
  cases item with
  | other only =>
    rw [Written.packets, List.mem_singleton] at packed
    subst packed
    exact (proper _ listed).2
  | probe request =>
    rw [Written.packets, sendProbe, List.mem_map] at packed
    rcases packed with ⟨index, _, rfl⟩
    have size := probe_packet_size (index = probePacketCount (sendProbeLink request) - 1)
      (sendProbeLink request).probeId sender
    rw [probePacket, Packet.buildIpv4TcpPacket, Packet.buildIpv4TcpPacketWithLosslessMeta,
      Packet.packet_size_from_vec] at size
    refine ⟨_, rfl, ?_, ?_⟩
    · rw [size]
      decide
    · rw [size]
      decide

def LinkFollowed (sender receiver : UInt64) (state : LinkState) : Prop :=
  ∃ written collected queued read unread,
    LinkTraced sender receiver written collected queued read unread state

variable {written : List Written} {collected queued : List ProbeRequest} {read unread : List Packet}

theorem LinkTraced.framed
    (traced : LinkTraced sender receiver written collected queued read unread state) :
    ∀ packet ∈ unread,
      ∃ vec, packet = .fromVec vec ∧ 20 ≤ vec.length ∧ vec.length ≤ maxFramedPacketSize := by
  intro packet member
  apply written_framed traced.proper
  rw [← traced.split]
  exact List.mem_append_right _ member

theorem asked_followed {request : ProbeRequest}
    (traced : LinkTraced sender receiver written collected queued read unread state)
    (ofLink : OfLink sender receiver (.asked request))
    (step : LinkStep sender receiver state (.asked request) next) : LinkFollowed sender receiver next := by
  cases step with
  | asked request =>
    refine ⟨written, collected, queued ++ [request], read, unread,
      { traced with waiting := ?_, requests := ?_, channel := ?_ }⟩
    · intro other member
      rw [← List.append_assoc, List.mem_append, List.mem_singleton] at member
      cases member with
      | inl before => exact traced.waiting other before
      | inr same =>
        rw [same]
        exact ofLink
    · simp only [traced.requests, List.append_assoc]
    · simp only [traced.channel, List.map_append, List.map_singleton]

theorem collected_followed
    (traced : LinkTraced sender receiver written collected queued read unread state)
    (step : LinkStep sender receiver state .collected next) : LinkFollowed sender receiver next := by
  cases step with
  | collected packets rest collecting front =>
    have channel := traced.channel
    rw [front] at channel
    cases queued with
    | nil => cases channel
    | cons request later =>
      rw [List.map_cons, List.cons.injEq] at channel
      have moved : collected ++ [request] ++ later = collected ++ request :: later := by
        rw [List.append_assoc, List.singleton_append]
      refine ⟨written, collected ++ [request], later, read, unread,
        { traced with
          waiting := ?_
          requests := ?_
          channel := channel.2
          probePackets := ?_
          idle := ?_ }⟩
      · rw [moved]
        exact traced.waiting
      · rw [moved]
        exact traced.requests
      · simp only [traced.probePackets, channel.1, List.flatMap_append, List.flatMap_singleton]
      · intro off
        rw [collecting] at off
        cases off

theorem flushed_followed
    (traced : LinkTraced sender receiver written collected queued read unread state)
    (step : LinkStep sender receiver state .flushed next) : LinkFollowed sender receiver next := by
  cases step with
  | flushed taken stream collecting empty wrote =>
    have channel := traced.channel
    rw [empty] at channel
    have none : queued = [] := List.map_eq_nil_iff.mp channel.symm
    subst none
    rcases @probes_written sender collected with ⟨items, asked, others⟩
    rw [← traced.probePackets] at items
    rcases traced_written traced.wire traced.split items wrote with ⟨split, wire⟩
    refine ⟨written ++ collected.map .probe, [], [], read, unread ++ state.probePackets,
      { traced with
        proper := ?_
        waiting := ?_
        requests := ?_
        sent := ?_
        channel := empty
        probePackets := rfl
        idle := fun _ => rfl
        split := split
        wire := wire }⟩
    · intro item member
      rw [List.mem_append, List.mem_map] at member
      rcases member with before | ⟨request, listed, rfl⟩
      · exact traced.proper item before
      · exact traced.waiting request (List.mem_append_left _ listed)
    · intro request member
      cases member
    · simp only [traced.requests, List.filterMap_append, asked, List.append_nil]
    · simp only [traced.sent, List.filterMap_append, others, List.append_nil]

theorem woken_followed
    (traced : LinkTraced sender receiver written collected queued read unread state)
    (step : LinkStep sender receiver state .woken next) : LinkFollowed sender receiver next := by
  cases step with
  | woken packets rest taken stream ready front wrote =>
    have channel := traced.channel
    rw [front] at channel
    cases queued with
    | nil => cases channel
    | cons request later =>
      rw [List.map_cons, List.cons.injEq] at channel
      have none := traced.idle ready
      subst none
      have items : [Written.probe request].flatMap (Written.packets sender) = packets := by
        rw [List.flatMap_singleton, channel.1]
        rfl
      rcases traced_written traced.wire traced.split items wrote with ⟨split, wire⟩
      refine ⟨written ++ [.probe request], [], later, read, unread ++ packets,
        { traced with
          proper := ?_
          waiting := ?_
          requests := ?_
          sent := ?_
          channel := channel.2
          split := split
          wire := wire }⟩
      · intro item member
        rw [List.mem_append, List.mem_singleton] at member
        cases member with
        | inl before => exact traced.proper item before
        | inr same =>
          rw [same]
          exact traced.waiting request List.mem_cons_self
      · intro other member
        exact traced.waiting other (List.mem_cons_of_mem _ member)
      · simp [traced.requests, Written.request]
      · simp [traced.sent, Written.packet]

theorem sent_followed {packets : List Packet}
    (traced : LinkTraced sender receiver written collected queued read unread state)
    (ofLink : OfLink sender receiver (.sent packets))
    (step : LinkStep sender receiver state (.sent packets) next) : LinkFollowed sender receiver next := by
  cases step with
  | sent packets taken stream ready wrote =>
    rcases @others_written sender packets with ⟨items, asked, others⟩
    rcases traced_written traced.wire traced.split items wrote with ⟨split, wire⟩
    refine ⟨written ++ packets.map .other, collected, queued, read, unread ++ packets,
      { traced with
        proper := ?_
        requests := ?_
        sent := ?_
        idle := ?_
        split := split
        wire := wire }⟩
    · intro item member
      rw [List.mem_append, List.mem_map] at member
      rcases member with before | ⟨packet, listed, rfl⟩
      · exact traced.proper item before
      · exact ofLink packet listed
    · simp only [traced.requests, List.filterMap_append, asked, List.append_nil]
    · simp only [traced.sent, List.filterMap_append, others]
    · intro off
      cases off

theorem read_followed
    (traced : LinkTraced sender receiver written collected queued read unread state)
    (step : LinkStep sender receiver state .read next) : LinkFollowed sender receiver next := by
  cases step with
  | read packet rest found =>
    rcases unread_packet_read traced.framed with ⟨none, front⟩
    rw [traced.wire] at found
    cases unread with
    | nil =>
      rw [none rfl] at found
      cases found
    | cons first later =>
      rw [front first later rfl, Option.some.injEq, Prod.mk.injEq] at found
      rcases found with ⟨rfl, rfl⟩
      refine ⟨written, collected, queued, read ++ [first], later,
        { traced with split := ?_, wire := rfl, reader := ?_ }⟩
      · rw [List.append_assoc, List.singleton_append, traced.split]
      · rw [take_all_append, take_all_single, ← traced.reader]

theorem link_followed_step (followed : LinkFollowed sender receiver state)
    (ofLink : OfLink sender receiver label) (step : LinkStep sender receiver state label next) :
    LinkFollowed sender receiver next := by
  rcases followed with ⟨written, collected, queued, read, unread, traced⟩
  cases label with
  | asked request => exact asked_followed traced ofLink step
  | collected => exact collected_followed traced step
  | flushed => exact flushed_followed traced step
  | woken => exact woken_followed traced step
  | sent packets => exact sent_followed traced ofLink step
  | read => exact read_followed traced step

/-- Probes over a link that carries other packets too: the neighbor reports each request once, in the
order in which the requests reached the scheduler, with all bytes of its own packets and none of
another's, and the controller's rows for the reports carry the ids of the requests; the other packets
are handed on in order. Whatever is on the wire can be read, and once nothing is left to write or to
read, all requests are reported. -/
theorem probes_reported_once {labels : List LinkLabel}
    (run : ((linkProbes sender receiver).restrict fun _ label => OfLink sender receiver label).Run .new
      labels state) :
    state.reader.reported <+: state.requests.map requestResult ∧
      state.reader.reported.map probeRow <+: state.requests.map requestRow ∧
      state.reader.processed <+: state.sent ∧
      (state.wire ≠ [] → ∃ packet rest, readPacket state.wire = some (packet, rest)) ∧
      (state.channel = [] → state.probePackets = [] → state.wire = [] →
        state.reader.reported = state.requests.map requestResult ∧
          state.reader.processed = state.sent) := by
  have reached : LinkFollowed sender receiver state := by
    apply TransitionSystem.run_preserves (motive := LinkFollowed sender receiver) _ run
    · refine ⟨[], [], [], [], [], ?_⟩
      exact ⟨nofun, nofun, rfl, rfl, rfl, rfl, fun _ => rfl, rfl, rfl, rfl⟩
    · intro state label next traced step
      exact link_followed_step traced step.1 step.2
  rcases reached with ⟨written, collected, queued, read, unread, traced⟩
  rcases front_taken traced.proper traced.split with ⟨reported, processed⟩
  rw [← traced.reader] at reported processed
  have asked : state.reader.reported <+: state.requests.map requestResult := by
    rw [traced.requests, List.map_append]
    exact reported.trans (List.prefix_append _ _)
  have rows := asked.map probeRow
  rw [List.map_map] at rows
  refine ⟨asked, ?_, ?_, ?_, ?_⟩
  · have same : probeRow ∘ requestResult = requestRow := funext request_result_row
    rwa [same] at rows
  · rw [traced.sent]
    exact processed
  · intro some
    cases unread with
    | nil => exact absurd traced.wire some
    | cons first later =>
      rw [traced.wire]
      exact ⟨first, frames later, (unread_packet_read traced.framed).2 first later rfl⟩
  · intro emptyChannel noPackets emptyWire
    have unqueued : queued = [] := by
      have channel := traced.channel
      rw [emptyChannel] at channel
      exact List.map_eq_nil_iff.mp channel.symm
    have uncollected : collected = [] := by
      have packets := traced.probePackets
      rw [noPackets] at packets
      cases collected with
      | nil => rfl
      | cons request later =>
        rw [List.flatMap_cons] at packets
        exact absurd (List.append_eq_nil_iff.mp packets.symm).1 (send_probe_some _ _)
    have all : unread = [] := by
      cases unread with
      | nil => rfl
      | cons first later =>
        have found := (unread_packet_read traced.framed).2 first later rfl
        rw [← traced.wire, emptyWire] at found
        cases found
    have split := traced.split
    rw [all, List.append_nil] at split
    rw [traced.reader, split, written_taken traced.proper, traced.requests, traced.sent, unqueued,
      uncollected, List.append_nil, List.append_nil]
    exact ⟨rfl, rfl⟩

end Link

def oneRequest : ProbeRequest where
  id := 5
  fromNodeId := 1
  toNodeId := 2
  probeBytes := 1360

def emptyPacket : Packet := .fromVec (List.replicate 20 0)

/-- A probe of one packet, and another packet behind it. -/
theorem one_probe_reported : ∃ state : LinkState, state.requests = [oneRequest] ∧
    state.reader.reported = [requestResult oneRequest] ∧ state.reader.processed = [emptyPacket] := by
  have ofLink : OfLink 1 2 (.asked oneRequest) := ⟨rfl, rfl⟩
  have proper : OfLink 1 2 (.sent [emptyPacket]) := by
    intro packet member
    rw [List.mem_singleton.mp member]
    exact ⟨by decide, _, rfl, by decide, by decide⟩
  have single : sendProbe 1 (sendProbeLink oneRequest) = [probePacket true 5 1] := rfl
  rcases write_packets_whole (sendProbe 1 (sendProbeLink oneRequest)) with ⟨taken, probeWritten⟩
  rcases write_packets_whole [emptyPacket] with ⟨others, otherWritten⟩
  have framed : ∀ packet ∈ [probePacket true 5 1, emptyPacket],
      ∃ vec, packet = .fromVec vec ∧ 20 ≤ vec.length ∧ vec.length ≤ maxFramedPacketSize := by
    intro packet member
    have written : ∀ item ∈ [Written.probe oneRequest, .other emptyPacket], item.Proper 1 2 := by
      intro item listed
      rcases List.mem_cons.mp listed with rfl | last
      · exact ofLink
      · rw [List.mem_singleton.mp last]
        exact proper emptyPacket (List.mem_singleton_self _)
    exact written_framed written member
  have later : ∀ packet ∈ [emptyPacket],
      ∃ vec, packet = .fromVec vec ∧ 20 ≤ vec.length ∧ vec.length ≤ maxFramedPacketSize :=
    fun packet member => framed packet (List.mem_cons_of_mem _ member)
  have first := (unread_packet_read framed).2 _ _ rfl
  have whole : [] ++ ((sendProbe 1 (sendProbeLink oneRequest)).flatMap packetSlices).flatten ++
      ([emptyPacket].flatMap packetSlices).flatten = frames [probePacket true 5 1, emptyPacket] := by
    rw [single, List.nil_append]
    exact (frames_append [probePacket true 5 1] [emptyPacket]).symm
  rw [← whole] at first
  have second := (unread_packet_read later).2 _ _ rfl
  have run : ((linkProbes 1 2).restrict fun _ label => OfLink 1 2 label).Run .new
      [.asked oneRequest, .collected, .flushed, .sent [emptyPacket], .read, .read] _ :=
    .cons ⟨ofLink, .asked oneRequest⟩ (.cons ⟨trivial, .collected _ [] rfl rfl⟩
      (.cons ⟨trivial, .flushed taken _ rfl rfl probeWritten⟩
        (.cons ⟨proper, .sent [emptyPacket] others _ rfl otherWritten⟩
          (.cons ⟨trivial, .read _ _ first⟩ (.single ⟨trivial, .read _ _ second⟩)))))
  rcases probes_reported_once run with ⟨_, _, _, _, drained⟩
  rcases drained rfl rfl rfl with ⟨reported, processed⟩
  exact ⟨_, rfl, reported, processed⟩

end Nextmini.Packets
