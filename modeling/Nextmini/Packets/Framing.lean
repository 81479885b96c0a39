import Nextmini.Library.ByteStream
import Nextmini.Packets.Packet

/-!
# Framing of packets on a stream

Packets are written to a stream with their lengths in front of them and read back one by one. The
reader checks the length against the size of the envelope; the writer does not.
-/

namespace Nextmini.Packets

open Nextmini.Library.BigEndian Nextmini.Library.ByteStream

set_option autoImplicit false

def frameLenBytes : Nat := 4

/-- The packet and the rest of the stream; `none` is an error: the length is out of bounds, or the
stream ends too early. -/
def readPacket (stream : List Byte) : Option (Packet × List Byte) := do
  let (lenBuf, rest) ← readExact frameLenBytes stream
  let msgLen := (decode32 lenBuf).toNat
  if msgLen < 20 ∨ maxFramedPacketSize < msgLen then none
  else do
    let (buf, rest) ← readExact msgLen rest
    some (.new msgLen buf, rest)

def packetSlices (packet : Packet) : List (List Byte) :=
  [encode32 (UInt32.ofNat packet.packetSize), packet.bytes]

/-- `taken` is what the single calls of the writer take; `none` is an error of the writer. -/
def writePackets (taken : List Nat) (packets : List Packet) : Option (List Byte) :=
  if packets = [] then some [] else writeVectored taken (packets.flatMap packetSlices)

def readPackets : Nat → List Byte → Option (List Packet × List Byte)
  | 0, stream => some ([], stream)
  | count + 1, stream => do
      let (packet, rest) ← readPacket stream
      let (packets, rest) ← readPackets count rest
      some (packet :: packets, rest)

theorem write_packets_some {taken : List Nat} {packets : List Packet} {stream : List Byte}
    (written : writePackets taken packets = some stream) :
    stream = (packets.flatMap packetSlices).flatten := by
  rw [writePackets] at written
  split_ifs at written with none
  · subst none
    exact (Option.some.inj written).symm
  · exact write_vectored_some written

theorem write_packets_whole (packets : List Packet) : ∃ taken,
    writePackets taken packets = some (packets.flatMap packetSlices).flatten := by
  cases packets with
  | nil => exact ⟨[], rfl⟩
  | cons packet rest =>
    refine ⟨_, write_vectored_whole _ ?_⟩
    intro empty
    have length := congrArg List.length empty
    rw [List.flatMap_cons, packetSlices, List.flatten_append, List.flatten_cons, List.length_append,
      List.length_append, encode32_length] at length
    simp at length

theorem read_packet_framed {vec : List Byte} (minimum : 20 ≤ vec.length)
    (fits : vec.length ≤ maxFramedPacketSize) (rest : List Byte) :
    readPacket ((packetSlices (.fromVec vec)).flatten ++ rest) = some (.fromVec vec, rest) := by
  have small : vec.length < 2 ^ 32 := by
    simp only [maxFramedPacketSize] at fits
    omega
  have length : (UInt32.ofNat vec.length).toNat = vec.length := UInt32.toNat_ofNat_of_lt' small
  have stream : (packetSlices (.fromVec vec)).flatten ++ rest =
      encode32 (UInt32.ofNat vec.length) ++ (vec ++ rest) := by
    simp [packetSlices]
  have head := read_exact_append (encode32 (UInt32.ofNat vec.length)) (vec ++ rest)
  rw [encode32_length] at head
  rw [readPacket, stream, frameLenBytes, head]
  simp only [Option.bind_eq_bind, Option.bind_some, decode32_encode, length]
  rw [if_neg (by omega), read_exact_append]
  rfl

theorem read_packet_size {stream rest : List Byte} {packet : Packet}
    (read : readPacket stream = some (packet, rest)) : packet.packetSize ≤ maxFramedPacketSize := by
  obtain ⟨⟨lenBuf, later⟩, _, read⟩ := Option.bind_eq_some_iff.mp read
  simp only at read
  split_ifs at read with bounds
  obtain ⟨⟨buf, last⟩, _, same⟩ := Option.bind_eq_some_iff.mp read
  cases same
  simp only [Packet.new]
  omega

theorem read_packets_cons {stream rest : List Byte} {packet : Packet} {packets : List Packet} :
    readPackets (packet :: packets).length stream = some (packet :: packets, rest) ↔
      ∃ middle, readPacket stream = some (packet, middle) ∧
        readPackets packets.length middle = some (packets, rest) := by
  rw [List.length_cons, readPackets]
  constructor
  · intro read
    rcases Option.bind_eq_some_iff.mp read with ⟨⟨first, middle⟩, head, tail⟩
    rcases Option.bind_eq_some_iff.mp tail with ⟨⟨others, last⟩, later, same⟩
    cases same
    exact ⟨middle, head, later⟩
  · rintro ⟨middle, head, tail⟩
    simp only [Option.bind_eq_bind, head, Option.bind_some, tail]

/-- What was written is read back exactly when every packet fits the envelope. -/
theorem read_packets_iff {packets : List Packet}
    (whole : ∀ packet ∈ packets, ∃ vec, packet = .fromVec vec ∧ 20 ≤ vec.length) :
    readPackets packets.length (packets.flatMap packetSlices).flatten = some (packets, []) ↔
      ∀ packet ∈ packets, packet.packetSize ≤ maxFramedPacketSize := by
  constructor
  · intro read
    generalize (packets.flatMap packetSlices).flatten = stream at read
    generalize ([] : List Byte) = rest at read
    clear whole
    induction packets generalizing stream with
    | nil => simp
    | cons packet later induction =>
      rcases read_packets_cons.mp read with ⟨middle, head, tail⟩
      intro other member
      rcases List.mem_cons.mp member with here | there
      · rw [here]
        exact read_packet_size head
      · exact induction middle tail other there
  · intro fits
    induction packets with
    | nil => rfl
    | cons packet later induction =>
      obtain ⟨vec, rfl, minimum⟩ := whole packet (List.mem_cons_self ..)
      have size : vec.length ≤ maxFramedPacketSize := by
        have own := fits _ (List.mem_cons_self ..)
        rwa [Packet.packet_size_from_vec] at own
      have rest := induction (fun other member => whole other (List.mem_cons_of_mem _ member))
        (fun other member => fits other (List.mem_cons_of_mem _ member))
      rw [List.flatMap_cons, List.flatten_append]
      exact read_packets_cons.mpr ⟨_, read_packet_framed minimum size _, rest⟩

end Nextmini.Packets
