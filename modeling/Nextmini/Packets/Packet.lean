import Nextmini.Library.BigEndian

/-!
# Packet envelope

An IPv4/TCP packet around one payload, with the session and the tree of a lossless frame in a TCP
option, and what is read back from its bytes. Checksums are omitted, and the buffer pool is left
out: a buffer is the bytes it holds.
-/

namespace Nextmini.Packets

open Nextmini.Library.BigEndian

set_option autoImplicit false

/-- Maximum serialized IPv4 packet size supported by the packet envelope. -/
def maxFramedPacketSize : Nat := 65535

def invalidFlowId : Nat := 2 ^ 128 - 1

structure Ipv4Addr where
  a : Byte
  b : Byte
  c : Byte
  d : Byte
  deriving DecidableEq, Repr

def Ipv4Addr.octets (addr : Ipv4Addr) : List Byte := [addr.a, addr.b, addr.c, addr.d]

structure LosslessTransportMeta where
  sessionId : UInt64
  treeId : Option UInt16
  deriving DecidableEq, Repr

structure Packet where
  flowId : Nat
  packetSize : Nat
  buffer : List Byte
  deriving DecidableEq, Repr

namespace Packet

def ipHlen : Nat := 20
def tcpBaseHlen : Nat := 20
def losslessMetaOptionKind : Byte := 30
def losslessMetaOptionLen : Nat := 16

/-- `buf[index]`; every use comes after a length check. -/
def byteAt (buf : List Byte) (index : Nat) : Byte := buf.getD index 0

/-- The version is in the high half of the first byte, the header length in words in the low one. -/
def ipVersion (buf : List Byte) : Nat := (byteAt buf 0).toNat / 16
def ipHeaderLen (buf : List Byte) : Nat := (byteAt buf 0).toNat % 16 * 4

def tcpHeaderLen (buf : List Byte) (tcpOffset : Nat) : Nat :=
  (byteAt buf (tcpOffset + 12)).toNat / 16 * 4

def getFlowIdFromBuf (buf : List Byte) : Nat :=
  if buf.length < 20 ∨ ipVersion buf ≠ 4 then invalidFlowId
  else if ipHeaderLen buf < 20 ∨ buf.length < ipHeaderLen buf + 4 then invalidFlowId
  else
    decodeBE (slice buf 12 20) * 2 ^ 64 +
      decodeBE (slice buf (ipHeaderLen buf) (ipHeaderLen buf + 4)) * 2 ^ 32

def new (packetSize : Nat) (buffer : List Byte) : Packet :=
  let buffer := buffer.take packetSize
  let actualSize := min buffer.length packetSize
  { flowId := if buffer = [] then invalidFlowId else getFlowIdFromBuf (buffer.take actualSize)
    packetSize := actualSize
    buffer := buffer }

def fromVec (vec : List Byte) : Packet := new vec.length vec

def bytes (packet : Packet) : List Byte := packet.buffer.take packet.packetSize

/-! ## Reading -/

def tcpPayloadBounds (packet : Packet) : Option (Nat × Nat) :=
  let buf := packet.bytes
  if packet.packetSize < 20 ∨ ipVersion buf ≠ 4 then none
  else if byteAt buf 9 ≠ 6 then none
  else
    let ipHeaderLen := ipHeaderLen buf
    if packet.packetSize < ipHeaderLen + 20 then none
    else
      let totalLength := min (decode16 (slice buf 2 4)).toNat packet.packetSize
      if packet.packetSize ≤ ipHeaderLen + 12 then none
      else
        let tcpHeaderLen := tcpHeaderLen buf ipHeaderLen
        if tcpHeaderLen < 20 ∨ totalLength < ipHeaderLen + tcpHeaderLen then none
        else some (ipHeaderLen + tcpHeaderLen, totalLength)

def tcpPayload (packet : Packet) : Option (List Byte) :=
  packet.tcpPayloadBounds.map fun (start, stop) => slice packet.bytes start stop

/-- The loop over the TCP options from `position` to `stop`. -/
def findMetaOption (buf : List Byte) (stop position : Nat) : Option LosslessTransportMeta :=
  if position < stop then
    let kind := byteAt buf position
    if kind = 0 then none
    else if kind = 1 then findMetaOption buf stop (position + 1)
    else if stop ≤ position + 1 then none
    else
      let len := (byteAt buf (position + 1)).toNat
      if len < 2 ∨ stop < position + len then none
      else if kind = losslessMetaOptionKind ∧ len = losslessMetaOptionLen then
        some
          { sessionId := decode64 (slice buf (position + 4) (position + 12))
            treeId :=
              if (byteAt buf (position + 2)).toNat % 2 ≠ 0 then
                some (decode16 (slice buf (position + 12) (position + 14)))
              else none }
      else findMetaOption buf stop (position + len)
  else none
termination_by stop - position

def losslessTransportMeta (packet : Packet) : Option LosslessTransportMeta :=
  let buf := packet.bytes
  if packet.packetSize < ipHlen ∨ ipVersion buf ≠ 4 ∨ byteAt buf 9 ≠ 6 then none
  else
    let tcpOff := ipHeaderLen buf
    if packet.packetSize < tcpOff + tcpBaseHlen then none
    else
      let tcpHeaderLen := tcpHeaderLen buf tcpOff
      if tcpHeaderLen < tcpBaseHlen ∨ packet.packetSize < tcpOff + tcpHeaderLen then none
      else findMetaOption buf (tcpOff + tcpHeaderLen) (tcpOff + tcpBaseHlen)

/-! ## Building -/

def metaOption (transport : LosslessTransportMeta) : List Byte :=
  [losslessMetaOptionKind, UInt8.ofNat losslessMetaOptionLen,
      if transport.treeId.isSome then 1 else 0, 0] ++
    encode64 transport.sessionId ++ encode16 (transport.treeId.getD 0) ++ encode16 0

def tcpHlen (losslessMeta : Option LosslessTransportMeta) : Nat :=
  tcpBaseHlen + if losslessMeta.isSome then losslessMetaOptionLen else 0

/-- The bytes of the header in the order in which they stand; what the code does not write is zero.
The total length is cut to 16 bits. -/
def ipv4TcpHeader (srcIp : Ipv4Addr) (srcPort : UInt16) (dstIp : Ipv4Addr) (dstPort : UInt16)
    (losslessMeta : Option LosslessTransportMeta) (payloadLen : Nat) : List Byte :=
  [0x45, 0] ++ encode16 (UInt16.ofNat (ipHlen + tcpHlen losslessMeta + payloadLen)) ++
    [0, 0, 0, 0, 64, 6, 0, 0] ++ srcIp.octets ++ dstIp.octets ++
    encode16 srcPort ++ encode16 dstPort ++ [0, 0, 0, 0, 0, 0, 0, 0] ++
    [UInt8.ofNat (tcpHlen losslessMeta / 4 * 16), 0x18, 0, 0, 0, 0, 0, 0] ++
    (losslessMeta.map metaOption).getD []

def buildIpv4TcpPacketWithLosslessMeta (srcIp : Ipv4Addr) (srcPort : UInt16) (dstIp : Ipv4Addr)
    (dstPort : UInt16) (losslessMeta : Option LosslessTransportMeta) (payload : List Byte) :
    Packet :=
  fromVec (ipv4TcpHeader srcIp srcPort dstIp dstPort losslessMeta payload.length ++ payload)

def buildIpv4TcpPacket (srcIp : Ipv4Addr) (srcPort : UInt16) (dstIp : Ipv4Addr) (dstPort : UInt16)
    (payload : List Byte) : Packet :=
  buildIpv4TcpPacketWithLosslessMeta srcIp srcPort dstIp dstPort none payload

/-- Compute the flow identifier directly from the IPv4+TCP tuple. -/
def flowIdFromParts (srcIp : Ipv4Addr) (srcPort : UInt16) (dstIp : Ipv4Addr) (dstPort : UInt16) :
    Nat :=
  decodeBE (srcIp.octets ++ dstIp.octets) * 2 ^ 64 +
    decodeBE (encode16 srcPort ++ encode16 dstPort) * 2 ^ 32

/-! ## What a built packet gives back -/

@[simp] theorem bytes_from_vec (vec : List Byte) : (fromVec vec).bytes = vec := by
  simp [fromVec, new, bytes]

@[simp] theorem packet_size_from_vec (vec : List Byte) : (fromVec vec).packetSize = vec.length := by
  simp [fromVec, new]

theorem flow_id_from_vec (vec : List Byte) : (fromVec vec).flowId = getFlowIdFromBuf vec := by
  cases vec with
  | nil => rfl
  | cons byte rest => simp [fromVec, new]

section Built

variable (srcIp dstIp : Ipv4Addr) (srcPort dstPort : UInt16)
  (losslessMeta : Option LosslessTransportMeta) (payload : List Byte)

/-- The length of the headers in front of the payload of a lossless frame. -/
def losslessHeaderLen : Nat := ipHlen + tcpBaseHlen + losslessMetaOptionLen

theorem header_length (payloadLen : Nat) :
    (ipv4TcpHeader srcIp srcPort dstIp dstPort losslessMeta payloadLen).length =
      ipHlen + tcpHlen losslessMeta := by
  cases losslessMeta with
  | none => rfl
  | some transport => rfl

theorem built_packet_size :
    (buildIpv4TcpPacketWithLosslessMeta srcIp srcPort dstIp dstPort losslessMeta
      payload).packetSize = ipHlen + tcpHlen losslessMeta + payload.length := by
  rw [buildIpv4TcpPacketWithLosslessMeta, packet_size_from_vec, List.length_append, header_length]

theorem header_fields (payloadLen : Nat) (rest : List Byte) :
    let buf := ipv4TcpHeader srcIp srcPort dstIp dstPort losslessMeta payloadLen ++ rest
    ipVersion buf = 4 ∧ ipHeaderLen buf = ipHlen ∧ byteAt buf 9 = 6 ∧
      tcpHeaderLen buf ipHlen = tcpHlen losslessMeta ∧
      slice buf 2 4 = encode16 (UInt16.ofNat (ipHlen + tcpHlen losslessMeta + payloadLen)) := by
  have first : byteAt (ipv4TcpHeader srcIp srcPort dstIp dstPort losslessMeta payloadLen ++ rest)
      0 = 0x45 := rfl
  refine ⟨?_, ?_, rfl, ?_, rfl⟩
  · rw [ipVersion, first]
    rfl
  · rw [ipHeaderLen, first]
    rfl
  have words : byteAt (ipv4TcpHeader srcIp srcPort dstIp dstPort losslessMeta payloadLen ++ rest)
      (ipHlen + 12) = UInt8.ofNat (tcpHlen losslessMeta / 4 * 16) := rfl
  rw [tcpHeaderLen, words]
  cases losslessMeta with
  | none => rfl
  | some transport =>
    rw [show tcpHlen (some transport) = 36 from rfl]
    rfl

theorem built_flow_id :
    (buildIpv4TcpPacketWithLosslessMeta srcIp srcPort dstIp dstPort losslessMeta payload).flowId =
      flowIdFromParts srcIp srcPort dstIp dstPort := by
  obtain ⟨version, headerLen, -⟩ :=
    header_fields srcIp dstIp srcPort dstPort losslessMeta payload.length payload
  have length := built_packet_size srcIp dstIp srcPort dstPort losslessMeta payload
  have base : 20 ≤ tcpHlen losslessMeta := Nat.le_add_right _ _
  have ip : ipHlen = 20 := rfl
  rw [buildIpv4TcpPacketWithLosslessMeta, packet_size_from_vec] at length
  rw [buildIpv4TcpPacketWithLosslessMeta, flow_id_from_vec, getFlowIdFromBuf, version, headerLen,
    if_neg (by omega), if_neg (by omega)]
  rfl

/-- The loop over the options of a built packet ends with what the builder was given. -/
theorem built_option (payloadLen : Nat) :
    findMetaOption
      (ipv4TcpHeader srcIp srcPort dstIp dstPort losslessMeta payloadLen ++ payload)
      (ipHlen + tcpHlen losslessMeta) (ipHlen + tcpBaseHlen) = losslessMeta := by
  generalize whole : ipv4TcpHeader srcIp srcPort dstIp dstPort losslessMeta payloadLen ++ payload =
    buf
  cases losslessMeta with
  | none =>
    have done : ¬ ipHlen + tcpBaseHlen < ipHlen + tcpHlen none := Nat.lt_irrefl _
    rw [findMetaOption, if_neg done]
  | some transport =>
    have kind : byteAt buf 40 = 30 := by rw [← whole]; rfl
    have len : byteAt buf 41 = 16 := by rw [← whole]; rfl
    have flags : byteAt buf 42 = if transport.treeId.isSome then 1 else 0 := by rw [← whole]; rfl
    have session : slice buf 44 52 = encode64 transport.sessionId := by rw [← whole]; rfl
    have tree : slice buf 52 54 = encode16 (transport.treeId.getD 0) := by rw [← whole]; rfl
    rw [findMetaOption]
    simp only [ipHlen, tcpHlen, Option.isSome_some, if_true, tcpBaseHlen, losslessMetaOptionLen,
      losslessMetaOptionKind, kind, len, flags, session, tree, decode64_encode, decode16_encode]
    obtain ⟨sessionId, treeId⟩ := transport
    cases treeId with
    | none => rfl
    | some treeId => rfl

theorem tcp_base_hlen_le : tcpBaseHlen ≤ tcpHlen losslessMeta := Nat.le_add_right _ _

/-- The metadata is found, or found missing, whatever the payload. -/
theorem built_transport_meta :
    (buildIpv4TcpPacketWithLosslessMeta srcIp srcPort dstIp dstPort losslessMeta
      payload).losslessTransportMeta = losslessMeta := by
  have size := built_packet_size srcIp dstIp srcPort dstPort losslessMeta payload
  obtain ⟨version, headerLen, protocol, tcpLen, -⟩ :=
    header_fields srcIp dstIp srcPort dstPort losslessMeta payload.length payload
  have found := built_option srcIp dstIp srcPort dstPort losslessMeta payload payload.length
  have base := tcp_base_hlen_le losslessMeta
  unfold losslessTransportMeta
  rw [size]
  simp only [buildIpv4TcpPacketWithLosslessMeta, bytes_from_vec, version, headerLen, protocol, tcpLen,
    found, ne_eq, not_true_eq_false, or_false]
  rw [if_neg (by omega), if_neg (by omega), if_neg (by omega)]

/-- The payload is read back from a packet that the envelope supports. -/
theorem built_tcp_payload
    (fits : ipHlen + tcpHlen losslessMeta + payload.length ≤ maxFramedPacketSize) :
    (buildIpv4TcpPacketWithLosslessMeta srcIp srcPort dstIp dstPort losslessMeta
      payload).tcpPayload = some payload := by
  have size := built_packet_size srcIp dstIp srcPort dstPort losslessMeta payload
  obtain ⟨version, headerLen, protocol, tcpLen, total⟩ :=
    header_fields srcIp dstIp srcPort dstPort losslessMeta payload.length payload
  have base : 20 ≤ tcpHlen losslessMeta := tcp_base_hlen_le losslessMeta
  have ip : ipHlen = 20 := rfl
  have bounds : (buildIpv4TcpPacketWithLosslessMeta srcIp srcPort dstIp dstPort losslessMeta
      payload).tcpPayloadBounds =
        some (ipHlen + tcpHlen losslessMeta, ipHlen + tcpHlen losslessMeta + payload.length) := by
    have written : (UInt16.ofNat (ipHlen + tcpHlen losslessMeta + payload.length)).toNat =
        ipHlen + tcpHlen losslessMeta + payload.length := by
      apply UInt16.toNat_ofNat_of_lt'
      exact Nat.lt_succ_of_le fits
    unfold tcpPayloadBounds
    rw [size]
    simp only [buildIpv4TcpPacketWithLosslessMeta, bytes_from_vec, version, headerLen, protocol, tcpLen,
      total, decode16_encode, written, Nat.min_self, ne_eq, not_true_eq_false, or_false, if_false]
    rw [if_neg (by omega), if_neg (by omega), if_neg (by omega), if_neg (by omega)]
  rw [tcpPayload, bounds]
  simp only [Option.map_some, buildIpv4TcpPacketWithLosslessMeta, bytes_from_vec]
  rw [slice, ← header_length srcIp dstIp srcPort dstPort losslessMeta payload.length,
    ← List.length_append, List.take_length, List.drop_left]

end Built

end Packet

end Nextmini.Packets
