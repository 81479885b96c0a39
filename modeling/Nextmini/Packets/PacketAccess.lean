import Nextmini.Library.CheckedReads
import Nextmini.Packets.Packet

/-!
# Packet accessors on arbitrary bytes

The accessors of the envelope with every index and slice checked, as the code runs them: on any
bytes that are wrapped, none of them stops the program, and each gives what `Packet` says it reads.
From a built packet they give back what the builder was given.
-/

namespace Nextmini.Packets

open Nextmini.Library.BigEndian Nextmini.Library.CheckedReads

set_option autoImplicit false

namespace PacketAccess

/-! ## Checked accessors -/

/-- `buf[0] >> 4` -/
def version (buf : List Byte) : Checked Nat := do
  return (← index buf 0).toNat / 16

/-- `(buf[0] & 0x0F) as usize * 4` -/
def headerLen (buf : List Byte) : Checked Nat := do
  return (← index buf 0).toNat % 16 * 4

/-- `(buf[tcp_offset + 12] >> 4) as usize * 4` -/
def dataOffset (buf : List Byte) (tcpOffset : Nat) : Checked Nat := do
  return (← index buf (tcpOffset + 12)).toNat / 16 * 4

def getFlowIdFromBuf (buf : List Byte) : Checked Nat :=
  if buf.length < 20 then return invalidFlowId
  else do
    if (← version buf) ≠ 4 then return invalidFlowId
    else
      let srcDstIp ← readWord 8 (← range buf 12 20)
      let ipHeaderLen ← headerLen buf
      if ipHeaderLen < 20 ∨ buf.length < ipHeaderLen + 4 then return invalidFlowId
      else
        let srcDstPort ← readWord 4 (← range buf ipHeaderLen (ipHeaderLen + 4))
        return srcDstIp * 2 ^ 64 + srcDstPort * 2 ^ 32

def new (packetSize : Nat) (buffer : List Byte) : Checked Packet := do
  let buffer := buffer.take packetSize
  let actualSize := min buffer.length packetSize
  let flowId ←
    if buffer = [] then pure invalidFlowId
    else range buffer 0 actualSize >>= getFlowIdFromBuf
  return { flowId := flowId, packetSize := actualSize, buffer := buffer }

def bytes (packet : Packet) : Checked (List Byte) := range packet.buffer 0 packet.packetSize

def intoBytes (packet : Packet) : Checked (List Byte) :=
  if packet.packetSize < packet.buffer.length then range packet.buffer 0 packet.packetSize
  else return packet.buffer

def seqNum (packet : Packet) : Checked UInt32 := do
  let buf ← bytes packet
  if packet.packetSize < 20 then return 0
  else if (← version buf) ≠ 4 then return 0
  else
    let ipHeaderLen ← headerLen buf
    if packet.packetSize < ipHeaderLen + 8 then return 0
    else
      let word ← readWord 4 (← range buf (ipHeaderLen + 4) (ipHeaderLen + 8))
      return UInt32.ofNat word

def tcpPayloadBounds (packet : Packet) : Checked (Option (Nat × Nat)) := do
  let buf ← bytes packet
  if packet.packetSize < 20 then return none
  else if (← version buf) ≠ 4 then return none
  else if (← index buf 9) ≠ 6 then return none
  else
    let ipHeaderLen ← headerLen buf
    if packet.packetSize < ipHeaderLen + 20 then return none
    else
      let totalLength := min (← readWord 2 (← range buf 2 4)) packet.packetSize
      if packet.packetSize ≤ ipHeaderLen + 12 then return none
      else
        let tcpHeaderLen ← dataOffset buf ipHeaderLen
        if tcpHeaderLen < 20 ∨ totalLength < ipHeaderLen + tcpHeaderLen then return none
        else return some (ipHeaderLen + tcpHeaderLen, totalLength)

def tcpPayloadLen (packet : Packet) : Checked Nat := do
  match ← tcpPayloadBounds packet with
  | some (start, stop) => subtract stop start
  | none => return 0

def hasTcpPayload (packet : Packet) : Checked Bool := do
  return decide (0 < (← tcpPayloadLen packet))

def tcpPayload (packet : Packet) : Checked (Option (List Byte)) := do
  match ← tcpPayloadBounds packet with
  | some (start, stop) => return some (← range (← bytes packet) start stop)
  | none => return none

def isTcpData (packet : Packet) : Checked Bool := do
  let buf ← bytes packet
  if packet.packetSize < 20 then return false
  else if (← version buf) ≠ 4 then return false
  else if (← index buf 9) ≠ 6 then return false
  else hasTcpPayload packet

/-- The flags of a TCP packet that has them; the version is not looked at. -/
def tcpFlags (packet : Packet) : Checked (Option Byte) := do
  let buf ← bytes packet
  if packet.packetSize < 20 then return none
  else if (← index buf 9) ≠ 6 then return none
  else
    let tcpOffset ← headerLen buf
    if packet.packetSize ≤ tcpOffset + 13 then return none
    else return some (← index buf (tcpOffset + 13))

def isTcpSyn (packet : Packet) : Checked Bool := do
  return (← tcpFlags packet).any fun flags => flags &&& 0x02 != 0

def isTcpFinOrRst (packet : Packet) : Checked Bool := do
  return (← tcpFlags packet).any fun flags => flags &&& 0x01 != 0 || flags &&& 0x04 != 0

/-- The loop over the options; a slice that is no array of its length ends it without metadata. -/
def findMetaOption (buf : List Byte) (stop position : Nat) :
    Checked (Option LosslessTransportMeta) :=
  if position < stop then do
    let kind ← index buf position
    if kind = 0 then return none
    else if kind = 1 then findMetaOption buf stop (position + 1)
    else if stop ≤ position + 1 then return none
    else
      let len := (← index buf (position + 1)).toNat
      if len < 2 ∨ stop < position + len then return none
      else if kind = Packet.losslessMetaOptionKind ∧ len = Packet.losslessMetaOptionLen then
        let flags ← index buf (position + 2)
        match arrayOf 8 (← range buf (position + 4) (position + 12)) with
        | none => return none
        | some sessionId =>
            match arrayOf 2 (← range buf (position + 12) (position + 14)) with
            | none => return none
            | some treeId =>
                return some
                  { sessionId := decode64 sessionId
                    treeId := if flags.toNat % 2 ≠ 0 then some (decode16 treeId) else none }
      else findMetaOption buf stop (position + len)
  else return none
termination_by stop - position

def losslessTransportMeta (packet : Packet) : Checked (Option LosslessTransportMeta) := do
  let buf ← bytes packet
  if packet.packetSize < Packet.ipHlen then return none
  else if (← version buf) ≠ 4 then return none
  else if (← index buf 9) ≠ 6 then return none
  else
    let tcpOff ← headerLen buf
    if packet.packetSize < tcpOff + Packet.tcpBaseHlen then return none
    else
      let tcpHeaderLen ← dataOffset buf tcpOff
      if tcpHeaderLen < Packet.tcpBaseHlen ∨ packet.packetSize < tcpOff + tcpHeaderLen then
        return none
      else findMetaOption buf (tcpOff + tcpHeaderLen) (tcpOff + Packet.tcpBaseHlen)

def losslessFecTreeId (packet : Packet) : Checked (Option UInt16) := do
  return (← losslessTransportMeta packet).bind fun found => found.treeId

def losslessSessionId (packet : Packet) : Checked (Option UInt64) := do
  return (← losslessTransportMeta packet).map fun found => found.sessionId

/-! ## No read leaves the bytes -/

theorem byte_inside {buf : List Byte} {position : Nat} (inside : position < buf.length) :
    index buf position = .ok (Packet.byteAt buf position) :=
  index_inside inside

theorem version_inside {buf : List Byte} (inside : 0 < buf.length) :
    version buf = .ok (Packet.ipVersion buf) := by
  rw [version, index_inside inside]
  rfl

theorem header_len_inside {buf : List Byte} (inside : 0 < buf.length) :
    headerLen buf = .ok (Packet.ipHeaderLen buf) := by
  rw [headerLen, index_inside inside]
  rfl

theorem data_offset_inside {buf : List Byte} {tcpOffset : Nat}
    (inside : tcpOffset + 12 < buf.length) :
    dataOffset buf tcpOffset = .ok (Packet.tcpHeaderLen buf tcpOffset) := by
  rw [dataOffset, index_inside inside]
  rfl

theorem read_word_slice {buf : List Byte} {start width : Nat} (inside : start + width ≤ buf.length) :
    readWord width (slice buf start (start + width)) =
      .ok (decodeBE (slice buf start (start + width))) := by
  apply read_word_whole
  rw [slice_length buf _ _ inside, Nat.add_sub_cancel_left]

theorem decode16_to_nat {buf : List Byte} (width : buf.length = 2) :
    (decode16 buf).toNat = decodeBE buf := by
  apply UInt16.toNat_ofNat_of_lt'
  have small := decode_be_lt buf
  rwa [width] at small

theorem get_flow_id_from_buf_ok (buf : List Byte) :
    getFlowIdFromBuf buf = .ok (Packet.getFlowIdFromBuf buf) := by
  unfold getFlowIdFromBuf Packet.getFlowIdFromBuf
  by_cases short : buf.length < 20
  · rw [if_pos short, if_pos (.inl short)]
    rfl
  rw [if_neg short, version_inside (by omega), ok_bind]
  by_cases other : Packet.ipVersion buf ≠ 4
  · rw [if_pos other, if_pos (.inr other)]
    rfl
  rw [if_neg other, if_neg (by tauto), range_inside (by omega) (by omega), ok_bind,
    read_word_slice (by omega), ok_bind, header_len_inside (by omega), ok_bind]
  split_ifs with cut
  · rfl
  rw [range_inside (by omega) (by omega), ok_bind, read_word_slice (by omega)]
  rfl

theorem new_ok (packetSize : Nat) (buffer : List Byte) :
    new packetSize buffer = .ok (Packet.new packetSize buffer) := by
  unfold new Packet.new
  by_cases empty : buffer.take packetSize = []
  · simp only [if_pos empty]
    rfl
  · simp only [if_neg empty, get_flow_id_from_buf_ok,
      range_inside (Nat.zero_le _) (Nat.min_le_left (buffer.take packetSize).length packetSize),
      ok_bind]
    rfl

/-- The buffer holds the bytes that the size names. -/
def Whole (packet : Packet) : Prop := packet.packetSize ≤ packet.buffer.length

theorem whole_new (packetSize : Nat) (buffer : List Byte) :
    Whole (Packet.new packetSize buffer) :=
  Nat.min_le_left _ _

section Accessors

variable {packet : Packet}

theorem bytes_ok (whole : Whole packet) : bytes packet = .ok packet.bytes :=
  range_inside (Nat.zero_le _) whole

theorem bytes_length (whole : Whole packet) : packet.bytes.length = packet.packetSize := by
  rw [Packet.bytes, List.length_take, Nat.min_eq_left whole]

theorem into_bytes_ok (whole : Whole packet) : intoBytes packet = .ok packet.bytes := by
  unfold intoBytes
  split_ifs with longer
  · exact range_inside (Nat.zero_le _) whole
  · have all : packet.packetSize = packet.buffer.length := Nat.le_antisymm whole (Nat.not_lt.mp longer)
    rw [Packet.bytes, all, List.take_length]
    rfl

theorem seq_num_safe (whole : Whole packet) : Safe (seqNum packet) := by
  have length := bytes_length whole
  unfold seqNum
  rw [bytes_ok whole, ok_bind]
  by_cases short : packet.packetSize < 20
  · rw [if_pos short]
    exact safe_ok _
  rw [if_neg short, version_inside (by omega), ok_bind]
  by_cases other : Packet.ipVersion packet.bytes ≠ 4
  · rw [if_pos other]
    exact safe_ok _
  rw [if_neg other, header_len_inside (by omega), ok_bind]
  split_ifs with cut
  · exact safe_ok _
  rw [range_inside (by omega) (by omega), ok_bind]
  have word := @read_word_slice packet.bytes (Packet.ipHeaderLen packet.bytes + 4) 4 (by omega)
  rw [word, ok_bind]
  exact safe_ok _

theorem tcp_payload_bounds_ok (whole : Whole packet) :
    tcpPayloadBounds packet = .ok packet.tcpPayloadBounds := by
  have length := bytes_length whole
  unfold tcpPayloadBounds Packet.tcpPayloadBounds
  rw [bytes_ok whole, ok_bind]
  by_cases short : packet.packetSize < 20
  · rw [if_pos short, if_pos (.inl short)]
    rfl
  rw [if_neg short, version_inside (by omega), ok_bind]
  by_cases other : Packet.ipVersion packet.bytes ≠ 4
  · rw [if_pos other, if_pos (.inr other)]
    rfl
  rw [if_neg other, if_neg (by tauto), byte_inside (by omega), ok_bind]
  by_cases protocol : Packet.byteAt packet.bytes 9 ≠ 6
  · rw [if_pos protocol, if_pos protocol]
    rfl
  rw [if_neg protocol, if_neg protocol, header_len_inside (by omega), ok_bind]
  dsimp only
  by_cases cut : packet.packetSize < Packet.ipHeaderLen packet.bytes + 20
  · rw [if_pos cut, if_pos cut]
    rfl
  have total := @read_word_slice packet.bytes 2 2 (by omega)
  rw [← decode16_to_nat (slice_length packet.bytes 2 4 (by omega))] at total
  rw [if_neg cut, if_neg cut, range_inside (by omega) (by omega), ok_bind, total, ok_bind]
  by_cases early : packet.packetSize ≤ Packet.ipHeaderLen packet.bytes + 12
  · rw [if_pos early, if_pos early]
    rfl
  rw [if_neg early, if_neg early, data_offset_inside (by omega), ok_bind]
  split_ifs with outside
  · rfl
  · rfl

theorem bounds_inside {start stop : Nat}
    (found : packet.tcpPayloadBounds = some (start, stop)) :
    start ≤ stop ∧ stop ≤ packet.packetSize := by
  unfold Packet.tcpPayloadBounds at found
  dsimp only at found
  split_ifs at found with short protocol cut early outside
  obtain ⟨rfl, rfl⟩ := Prod.mk.inj (Option.some.inj found)
  exact ⟨by omega, Nat.min_le_right _ _⟩

theorem tcp_payload_len_safe (whole : Whole packet) : Safe (tcpPayloadLen packet) := by
  unfold tcpPayloadLen
  rw [tcp_payload_bounds_ok whole, ok_bind]
  cases found : packet.tcpPayloadBounds with
  | none => exact safe_ok _
  | some bounds =>
    dsimp only
    rw [subtract_inside (bounds_inside found).1]
    exact safe_ok _

theorem has_tcp_payload_safe (whole : Whole packet) : Safe (hasTcpPayload packet) := by
  apply safe_bind (tcp_payload_len_safe whole)
  intro length _
  exact safe_ok _

theorem tcp_payload_ok (whole : Whole packet) : tcpPayload packet = .ok packet.tcpPayload := by
  unfold tcpPayload Packet.tcpPayload
  rw [tcp_payload_bounds_ok whole, ok_bind]
  cases found : packet.tcpPayloadBounds with
  | none => rfl
  | some bounds =>
    obtain ⟨ordered, inside⟩ := bounds_inside found
    dsimp only
    rw [bytes_ok whole, ok_bind, range_inside ordered (by rwa [bytes_length whole])]
    rfl

theorem is_tcp_data_safe (whole : Whole packet) : Safe (isTcpData packet) := by
  have length := bytes_length whole
  unfold isTcpData
  rw [bytes_ok whole, ok_bind]
  by_cases short : packet.packetSize < 20
  · rw [if_pos short]
    exact safe_ok _
  rw [if_neg short, version_inside (by omega), ok_bind]
  by_cases other : Packet.ipVersion packet.bytes ≠ 4
  · rw [if_pos other]
    exact safe_ok _
  rw [if_neg other, byte_inside (by omega), ok_bind]
  split_ifs with protocol
  · exact safe_ok _
  · exact has_tcp_payload_safe whole

theorem tcp_flags_safe (whole : Whole packet) : Safe (tcpFlags packet) := by
  have length := bytes_length whole
  unfold tcpFlags
  rw [bytes_ok whole, ok_bind]
  by_cases short : packet.packetSize < 20
  · rw [if_pos short]
    exact safe_ok _
  rw [if_neg short, byte_inside (by omega), ok_bind]
  by_cases protocol : Packet.byteAt packet.bytes 9 ≠ 6
  · rw [if_pos protocol]
    exact safe_ok _
  rw [if_neg protocol, header_len_inside (by omega), ok_bind]
  split_ifs with cut
  · exact safe_ok _
  rw [byte_inside (by omega), ok_bind]
  exact safe_ok _

/-! ### The options -/

theorem find_meta_option_ok {buf : List Byte} {stop : Nat} (inside : stop ≤ buf.length)
    (position : Nat) :
    findMetaOption buf stop position = .ok (Packet.findMetaOption buf stop position) := by
  induction position using findMetaOption.induct stop with
  | case1 position before next jump =>
    rw [findMetaOption, Packet.findMetaOption, if_pos before, if_pos before,
      byte_inside (by omega), ok_bind]
    dsimp only
    by_cases last : Packet.byteAt buf position = 0
    · rw [if_pos last, if_pos last]
      rfl
    by_cases padding : Packet.byteAt buf position = 1
    · rw [if_neg last, if_neg last, if_pos padding, if_pos padding]
      exact next
    by_cases single : stop ≤ position + 1
    · rw [if_neg last, if_neg last, if_neg padding, if_neg padding, if_pos single, if_pos single]
      rfl
    rw [if_neg last, if_neg last, if_neg padding, if_neg padding, if_neg single, if_neg single,
      byte_inside (by omega), ok_bind]
    by_cases bad : (Packet.byteAt buf (position + 1)).toNat < 2 ∨
        stop < position + (Packet.byteAt buf (position + 1)).toNat
    · rw [if_pos bad, if_pos bad]
      rfl
    by_cases found : Packet.byteAt buf position = Packet.losslessMetaOptionKind ∧
        (Packet.byteAt buf (position + 1)).toNat = Packet.losslessMetaOptionLen
    · have long : position + 16 ≤ stop := by
        have len := found.2
        rw [Packet.losslessMetaOptionLen] at len
        omega
      have session : (slice buf (position + 4) (position + 12)).length = 8 := by
        rw [slice_length buf _ _ (by omega)]
        omega
      have tree : (slice buf (position + 12) (position + 14)).length = 2 := by
        rw [slice_length buf _ _ (by omega)]
        omega
      rw [if_neg bad, if_neg bad, if_pos found, if_pos found, byte_inside (by omega), ok_bind,
        range_inside (by omega) (by omega), ok_bind, array_of_whole session]
      dsimp only
      rw [range_inside (by omega) (by omega), ok_bind, array_of_whole tree]
      rfl
    · rw [if_neg bad, if_neg bad, if_neg found, if_neg found]
      exact jump single _ bad
  | case2 position after =>
    rw [findMetaOption, Packet.findMetaOption, if_neg after, if_neg after]
    rfl

theorem lossless_transport_meta_ok (whole : Whole packet) :
    losslessTransportMeta packet = .ok packet.losslessTransportMeta := by
  have length := bytes_length whole
  have lengths : Packet.ipHlen = 20 ∧ Packet.tcpBaseHlen = 20 := ⟨rfl, rfl⟩
  unfold losslessTransportMeta Packet.losslessTransportMeta
  rw [bytes_ok whole, ok_bind]
  by_cases short : packet.packetSize < Packet.ipHlen
  · rw [if_pos short, if_pos (.inl short)]
    rfl
  rw [if_neg short, version_inside (by omega), ok_bind]
  by_cases other : Packet.ipVersion packet.bytes ≠ 4
  · rw [if_pos other, if_pos (.inr (.inl other))]
    rfl
  rw [if_neg other, byte_inside (by omega), ok_bind]
  by_cases protocol : Packet.byteAt packet.bytes 9 ≠ 6
  · rw [if_pos protocol, if_pos (.inr (.inr protocol))]
    rfl
  rw [if_neg protocol, if_neg (by tauto), header_len_inside (by omega), ok_bind]
  dsimp only
  by_cases cut : packet.packetSize < Packet.ipHeaderLen packet.bytes + Packet.tcpBaseHlen
  · rw [if_pos cut, if_pos cut]
    rfl
  rw [if_neg cut, if_neg cut, data_offset_inside (by omega), ok_bind]
  split_ifs with outside
  · rfl
  · exact find_meta_option_ok (by omega) _

end Accessors

/-- Every accessor goes on with a value. -/
structure AccessorsSafe (packet : Packet) : Prop where
  bytes : Safe (bytes packet)
  intoBytes : Safe (intoBytes packet)
  seqNum : Safe (seqNum packet)
  isTcpData : Safe (isTcpData packet)
  isTcpSyn : Safe (isTcpSyn packet)
  isTcpFinOrRst : Safe (isTcpFinOrRst packet)
  tcpPayloadLen : Safe (tcpPayloadLen packet)
  hasTcpPayload : Safe (hasTcpPayload packet)
  tcpPayloadBounds : Safe (tcpPayloadBounds packet)
  tcpPayload : Safe (tcpPayload packet)
  losslessTransportMeta : Safe (losslessTransportMeta packet)
  losslessFecTreeId : Safe (losslessFecTreeId packet)
  losslessSessionId : Safe (losslessSessionId packet)

theorem accessors_safe {packet : Packet} (whole : Whole packet) : AccessorsSafe packet where
  bytes := ⟨_, bytes_ok whole⟩
  intoBytes := ⟨_, into_bytes_ok whole⟩
  seqNum := seq_num_safe whole
  isTcpData := is_tcp_data_safe whole
  isTcpSyn := safe_bind (tcp_flags_safe whole) fun _ _ => safe_ok _
  isTcpFinOrRst := safe_bind (tcp_flags_safe whole) fun _ _ => safe_ok _
  tcpPayloadLen := tcp_payload_len_safe whole
  hasTcpPayload := has_tcp_payload_safe whole
  tcpPayloadBounds := ⟨_, tcp_payload_bounds_ok whole⟩
  tcpPayload := ⟨_, tcp_payload_ok whole⟩
  losslessTransportMeta := ⟨_, lossless_transport_meta_ok whole⟩
  losslessFecTreeId := safe_bind ⟨_, lossless_transport_meta_ok whole⟩ fun _ _ => safe_ok _
  losslessSessionId := safe_bind ⟨_, lossless_transport_meta_ok whole⟩ fun _ _ => safe_ok _

end PacketAccess

/-! ## The parts of a flow id -/

namespace FlowIdExt

def addrOf (word : Nat) : Ipv4Addr :=
  ⟨UInt8.ofNat (word / 2 ^ 24), UInt8.ofNat (word / 2 ^ 16), UInt8.ofNat (word / 2 ^ 8),
    UInt8.ofNat word⟩

def srcIp (flowId : Nat) : Ipv4Addr := addrOf (flowId / 2 ^ 96 % 2 ^ 32)
def dstIp (flowId : Nat) : Ipv4Addr := addrOf (flowId / 2 ^ 64 % 2 ^ 32)
def srcPort (flowId : Nat) : UInt16 := UInt16.ofNat (flowId / 2 ^ 48)
def dstPort (flowId : Nat) : UInt16 := UInt16.ofNat (flowId / 2 ^ 32)

def reverse (flowId : Nat) : Nat :=
  decodeBE (dstIp flowId).octets <<< 96 ||| decodeBE (srcIp flowId).octets <<< 64 |||
    (dstPort flowId).toNat <<< 48 ||| (srcPort flowId).toNat <<< 32 ||| flowId % 2 ^ 32

theorem addr_of_octets (addr : Ipv4Addr) : addrOf (decodeBE addr.octets) = addr := by
  obtain ⟨a, b, c, d⟩ := addr
  have aLt := a.toNat_lt
  have bLt := b.toNat_lt
  have cLt := c.toNat_lt
  have dLt := d.toNat_lt
  have value : decodeBE (Ipv4Addr.octets ⟨a, b, c, d⟩) =
      256 * (256 * (256 * a.toNat + b.toNat) + c.toNat) + d.toNat := by
    simp [decodeBE, Ipv4Addr.octets]
  rw [addrOf, value, Ipv4Addr.mk.injEq]
  refine ⟨?_, ?_, ?_, ?_⟩
  all_goals
    apply UInt8.toNat_inj.mp
    rw [UInt8.toNat_ofNat']
    omega

theorem octets_length (addr : Ipv4Addr) : addr.octets.length = 4 := rfl

theorem octets_lt (addr : Ipv4Addr) : decodeBE addr.octets < 2 ^ 32 := by
  have bounded := decode_be_lt addr.octets
  rw [octets_length] at bounded
  norm_num at bounded ⊢
  exact bounded

theorem shifted_parts (first : Nat) {second third fourth low : Nat} (secondLt : second < 2 ^ 32)
    (thirdLt : third < 2 ^ 16) (fourthLt : fourth < 2 ^ 16) (lowLt : low < 2 ^ 32) :
    first <<< 96 ||| second <<< 64 ||| third <<< 48 ||| fourth <<< 32 ||| low =
      first * 2 ^ 96 + second * 2 ^ 64 + third * 2 ^ 48 + fourth * 2 ^ 32 + low := by
  have ips : first <<< 96 ||| second <<< 64 = (first * 2 ^ 32 + second) <<< 64 := by
    rw [← Nat.shiftLeft_add_eq_or_of_lt (by rw [Nat.shiftLeft_eq]; omega)]
    simp only [Nat.shiftLeft_eq]
    ring
  have port : (first * 2 ^ 32 + second) <<< 64 ||| third <<< 48 =
      ((first * 2 ^ 32 + second) * 2 ^ 16 + third) <<< 48 := by
    rw [← Nat.shiftLeft_add_eq_or_of_lt (by rw [Nat.shiftLeft_eq]; omega)]
    simp only [Nat.shiftLeft_eq]
    ring
  have ports : ((first * 2 ^ 32 + second) * 2 ^ 16 + third) <<< 48 ||| fourth <<< 32 =
      (((first * 2 ^ 32 + second) * 2 ^ 16 + third) * 2 ^ 16 + fourth) <<< 32 := by
    rw [← Nat.shiftLeft_add_eq_or_of_lt (by rw [Nat.shiftLeft_eq]; omega)]
    simp only [Nat.shiftLeft_eq]
    ring
  rw [ips, port, ports, ← Nat.shiftLeft_add_eq_or_of_lt lowLt]
  simp only [Nat.shiftLeft_eq]
  ring

theorem octets_addr_of (word : Nat) : decodeBE (addrOf word).octets = word % 2 ^ 32 := by
  have value : decodeBE (addrOf word).octets =
      256 * (256 * (256 * (word / 2 ^ 24 % 256) + word / 2 ^ 16 % 256) + word / 2 ^ 8 % 256) +
        word % 256 := by
    simp [decodeBE, Ipv4Addr.octets, addrOf]
  rw [value]
  omega

theorem reverse_sum (flowId : Nat) :
    reverse flowId = flowId / 2 ^ 64 % 2 ^ 32 * 2 ^ 96 + flowId / 2 ^ 96 % 2 ^ 32 * 2 ^ 64 +
      flowId / 2 ^ 32 % 2 ^ 16 * 2 ^ 48 + flowId / 2 ^ 48 % 2 ^ 16 * 2 ^ 32 + flowId % 2 ^ 32 := by
  have low : flowId % 2 ^ 32 < 2 ^ 32 := Nat.mod_lt flowId (by norm_num)
  rw [reverse, shifted_parts _ (octets_lt _) (UInt16.toNat_lt _) (UInt16.toNat_lt _) low, srcIp, dstIp,
    octets_addr_of, octets_addr_of, Nat.mod_mod, Nat.mod_mod, srcPort, dstPort, UInt16.toNat_ofNat',
    UInt16.toNat_ofNat']

theorem reverse_of_parts {first second third fourth low : Nat} (firstLt : first < 2 ^ 32)
    (secondLt : second < 2 ^ 32) (thirdLt : third < 2 ^ 16) (fourthLt : fourth < 2 ^ 16)
    (lowLt : low < 2 ^ 32) :
    reverse (first * 2 ^ 96 + second * 2 ^ 64 + third * 2 ^ 48 + fourth * 2 ^ 32 + low) =
      second * 2 ^ 96 + first * 2 ^ 64 + fourth * 2 ^ 48 + third * 2 ^ 32 + low := by
  obtain ⟨flowId, whole⟩ : ∃ flowId, flowId =
      first * 2 ^ 96 + second * 2 ^ 64 + third * 2 ^ 48 + fourth * 2 ^ 32 + low := ⟨_, rfl⟩
  rw [← whole, reverse_sum]
  have ends : flowId / 2 ^ 64 % 2 ^ 32 = second ∧ flowId / 2 ^ 96 % 2 ^ 32 = first := by omega
  have ports : flowId / 2 ^ 32 % 2 ^ 16 = fourth ∧ flowId / 2 ^ 48 % 2 ^ 16 = third := by omega
  have reserved : flowId % 2 ^ 32 = low := by omega
  rw [ends.1, ends.2, ports.1, ports.2, reserved]

theorem reverse_reverse {flowId : Nat} (fits : flowId < 2 ^ 128) : reverse (reverse flowId) = flowId := by
  have parts : ∃ first second third fourth low, first < 2 ^ 32 ∧ second < 2 ^ 32 ∧ third < 2 ^ 16 ∧
      fourth < 2 ^ 16 ∧ low < 2 ^ 32 ∧
        flowId = first * 2 ^ 96 + second * 2 ^ 64 + third * 2 ^ 48 + fourth * 2 ^ 32 + low :=
    ⟨flowId / 2 ^ 96, flowId / 2 ^ 64 % 2 ^ 32, flowId / 2 ^ 48 % 2 ^ 16, flowId / 2 ^ 32 % 2 ^ 16,
      flowId % 2 ^ 32, by omega, by omega, by omega, by omega, by omega, by omega⟩
  rcases parts with ⟨first, second, third, fourth, low, firstLt, secondLt, thirdLt, fourthLt, lowLt, rfl⟩
  rw [reverse_of_parts firstLt secondLt thirdLt fourthLt lowLt,
    reverse_of_parts secondLt firstLt fourthLt thirdLt lowLt]

section Parts

variable (srcIp dstIp : Ipv4Addr) (srcPort dstPort : UInt16)

theorem flow_id_parts :
    let flowId := Packet.flowIdFromParts srcIp srcPort dstIp dstPort
    FlowIdExt.srcIp flowId = srcIp ∧ FlowIdExt.srcPort flowId = srcPort ∧
      FlowIdExt.dstIp flowId = dstIp ∧ FlowIdExt.dstPort flowId = dstPort := by
  have fromLt := octets_lt srcIp
  have toLt := octets_lt dstIp
  have srcPortLt := srcPort.toNat_lt
  have dstPortLt := dstPort.toNat_lt
  have ips : decodeBE (srcIp.octets ++ dstIp.octets) =
      decodeBE srcIp.octets * 2 ^ 32 + decodeBE dstIp.octets := by
    rw [decode_be_append, octets_length]
    norm_num
  have ports : decodeBE (encode16 srcPort ++ encode16 dstPort) =
      srcPort.toNat * 2 ^ 16 + dstPort.toNat := by
    rw [decode_be_append, encode16_length, encode16, encode16,
      decode_be_encode_of_lt 2 _ srcPortLt, decode_be_encode_of_lt 2 _ dstPortLt]
    norm_num
  have whole : Packet.flowIdFromParts srcIp srcPort dstIp dstPort =
      decodeBE srcIp.octets * 2 ^ 96 + decodeBE dstIp.octets * 2 ^ 64 +
        srcPort.toNat * 2 ^ 48 + dstPort.toNat * 2 ^ 32 := by
    rw [Packet.flowIdFromParts, ips, ports]
    ring
  dsimp only
  rw [whole]
  refine ⟨?_, ?_, ?_, ?_⟩
  · rw [FlowIdExt.srcIp, ← addr_of_octets srcIp]
    congr 1
    rw [addr_of_octets]
    omega
  · apply UInt16.toNat_inj.mp
    rw [FlowIdExt.srcPort, UInt16.toNat_ofNat']
    omega
  · rw [FlowIdExt.dstIp, ← addr_of_octets dstIp]
    congr 1
    rw [addr_of_octets]
    omega
  · apply UInt16.toNat_inj.mp
    rw [FlowIdExt.dstPort, UInt16.toNat_ofNat']
    omega

end Parts

end FlowIdExt

/-! ## What a built packet gives back -/

/-- What is read from a packet is what its builder was given. -/
structure ReadsBack (packet : Packet) (srcIp : Ipv4Addr) (srcPort : UInt16) (dstIp : Ipv4Addr)
    (dstPort : UInt16) (losslessMeta : Option LosslessTransportMeta) (payload : List Byte) :
    Prop where
  flowId : packet.flowId = Packet.flowIdFromParts srcIp srcPort dstIp dstPort
  srcIp : FlowIdExt.srcIp packet.flowId = srcIp
  srcPort : FlowIdExt.srcPort packet.flowId = srcPort
  dstIp : FlowIdExt.dstIp packet.flowId = dstIp
  dstPort : FlowIdExt.dstPort packet.flowId = dstPort
  transport : PacketAccess.losslessTransportMeta packet = .ok losslessMeta
  session : PacketAccess.losslessSessionId packet =
    .ok (losslessMeta.map fun transport => transport.sessionId)
  tree : PacketAccess.losslessFecTreeId packet =
    .ok (losslessMeta.bind fun transport => transport.treeId)
  payload : PacketAccess.tcpPayload packet = .ok (some payload)

theorem built_reads_back (srcIp dstIp : Ipv4Addr) (srcPort dstPort : UInt16)
    (losslessMeta : Option LosslessTransportMeta) (payload : List Byte)
    (fits : Packet.ipHlen + Packet.tcpHlen losslessMeta + payload.length ≤ maxFramedPacketSize) :
    ReadsBack
      (.buildIpv4TcpPacketWithLosslessMeta srcIp srcPort dstIp dstPort losslessMeta payload)
      srcIp srcPort dstIp dstPort losslessMeta payload := by
  have whole : PacketAccess.Whole (.buildIpv4TcpPacketWithLosslessMeta srcIp srcPort dstIp dstPort
      losslessMeta payload) := PacketAccess.whole_new _ _
  have flowId := Packet.built_flow_id srcIp dstIp srcPort dstPort losslessMeta payload
  obtain ⟨fromIp, fromPort, toIp, toPort⟩ := FlowIdExt.flow_id_parts srcIp dstIp srcPort dstPort
  have transport := PacketAccess.lossless_transport_meta_ok whole
  rw [Packet.built_transport_meta] at transport
  have payloadRead := PacketAccess.tcp_payload_ok whole
  rw [Packet.built_tcp_payload _ _ _ _ _ _ fits] at payloadRead
  clear whole
  generalize Packet.buildIpv4TcpPacketWithLosslessMeta srcIp srcPort dstIp dstPort losslessMeta
    payload = packet at *
  refine ⟨flowId, ?_, ?_, ?_, ?_, transport, ?_, ?_, payloadRead⟩
  · rwa [flowId]
  · rwa [flowId]
  · rwa [flowId]
  · rwa [flowId]
  · rw [PacketAccess.losslessSessionId, transport]
    rfl
  · rw [PacketAccess.losslessFecTreeId, transport]
    rfl

/-- Wrapped bytes of any kind are read without a panic, and a built packet that fits the length
field of its header gives back what it was built from. -/
theorem accessors_safe_and_inverse :
    (∀ (packetSize : Nat) (buffer : List Byte), ∃ packet,
      PacketAccess.new packetSize buffer = .ok packet ∧ PacketAccess.AccessorsSafe packet) ∧
    (∀ (srcIp dstIp : Ipv4Addr) (srcPort dstPort : UInt16)
      (losslessMeta : Option LosslessTransportMeta) (payload : List Byte),
      Packet.ipHlen + Packet.tcpHlen losslessMeta + payload.length ≤ maxFramedPacketSize →
      ReadsBack
        (.buildIpv4TcpPacketWithLosslessMeta srcIp srcPort dstIp dstPort losslessMeta payload)
        srcIp srcPort dstIp dstPort losslessMeta payload) ∧
    ∀ (srcIp dstIp : Ipv4Addr) (srcPort dstPort : UInt16) (payload : List Byte),
      Packet.ipHlen + Packet.tcpBaseHlen + payload.length ≤ maxFramedPacketSize →
      ReadsBack (.buildIpv4TcpPacket srcIp srcPort dstIp dstPort payload)
        srcIp srcPort dstIp dstPort none payload := by
  refine ⟨?_, ?_, ?_⟩
  · intro packetSize buffer
    exact ⟨_, PacketAccess.new_ok packetSize buffer,
      PacketAccess.accessors_safe (PacketAccess.whole_new packetSize buffer)⟩
  · intro srcIp dstIp srcPort dstPort losslessMeta payload fits
    exact built_reads_back srcIp dstIp srcPort dstPort losslessMeta payload fits
  · intro srcIp dstIp srcPort dstPort payload fits
    exact built_reads_back srcIp dstIp srcPort dstPort none payload fits

theorem lossless_frame_reads_back :
    Packet.ipHlen + Packet.tcpHlen (some ⟨17, some 4⟩) + 3 ≤ maxFramedPacketSize ∧
      ReadsBack
        (.buildIpv4TcpPacketWithLosslessMeta ⟨10, 0, 0, 1⟩ 4000 ⟨10, 0, 0, 2⟩ 5000
          (some ⟨17, some 4⟩) [1, 2, 3])
        ⟨10, 0, 0, 1⟩ 4000 ⟨10, 0, 0, 2⟩ 5000 (some ⟨17, some 4⟩) [1, 2, 3] := by
  refine ⟨by decide, ?_⟩
  exact accessors_safe_and_inverse.2.1 ⟨10, 0, 0, 1⟩ ⟨10, 0, 0, 2⟩ 4000 5000 (some ⟨17, some 4⟩)
    [1, 2, 3] (by decide)

end Nextmini.Packets
