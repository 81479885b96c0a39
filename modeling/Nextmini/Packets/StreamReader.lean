import Nextmini.Packets.Framing

/-!
# Read loops on framed streams

The loops that read packets from a peer, over TCP or QUIC, and hand them on. A stream arrives in
pieces and ends with a close or with an error, and every read after its end ends the same way. A read
that fails hands nothing on, and the loop goes on with what is left of the stream; no result of a
read leaves the loop.
-/

namespace Nextmini.Packets

open Nextmini.Library.BigEndian Nextmini.Library.ByteStream

set_option autoImplicit false

inductive StreamEnd where
  | eof
  | error
  deriving DecidableEq, Repr

structure PeerStream where
  pieces : List (List Byte)
  ending : StreamEnd
  deriving DecidableEq, Repr

def PeerStream.bytes (stream : PeerStream) : List Byte := stream.pieces.flatten

inductive ReadError where
  | unexpectedEof
  | broken
  | invalidLength (msgLen : Nat)
  deriving DecidableEq, Repr

namespace PeerStream

def readExact (count : Nat) (stream : PeerStream) : Except ReadError (List Byte) × PeerStream :=
  let (items, rest) := readPieces count stream.pieces
  let left : PeerStream := { stream with pieces := rest }
  match items with
  | some items => (.ok items, left)
  | none =>
      match stream.ending with
      | .eof => (.error .unexpectedEof, left)
      | .error => (.error .broken, left)

/-- `read_packet` on a stream in pieces, with the stream as it is left after an error, too. -/
def readPacket (stream : PeerStream) : Except ReadError Packet × PeerStream :=
  match stream.readExact frameLenBytes with
  | (.error reason, rest) => (.error reason, rest)
  | (.ok lenBuf, rest) =>
      let msgLen := (decode32 lenBuf).toNat
      if msgLen < 20 ∨ maxFramedPacketSize < msgLen then (.error (.invalidLength msgLen), rest)
      else
        match rest.readExact msgLen with
        | (.error reason, rest) => (.error reason, rest)
        | (.ok buf, rest) => (.ok (.new msgLen buf), rest)

end PeerStream

inductive Destination where
  | processors
  | probe
  deriving DecidableEq, Repr

def probeFlowId : Nat := 0x7F00_0001_7F00_0002_0000_0000_0000_0000

def tcpDestination (packet : Packet) : Destination :=
  if packet.flowId = probeFlowId then .probe else .processors

structure StreamReader where
  stream : PeerStream
  delivered : List (Packet × Destination)
  running : Bool
  deriving DecidableEq, Repr

namespace StreamReader

def start (stream : PeerStream) : StreamReader where
  stream := stream
  delivered := []
  running := true

def turn (destination : Packet → Destination) (reader : StreamReader) : StreamReader :=
  if reader.running then
    match reader.stream.readPacket with
    | (.ok packet, rest) =>
        { reader with
          stream := rest
          delivered := reader.delivered ++ [(packet, destination packet)] }
    | (.error _, rest) => { reader with stream := rest }
  else reader

def after (destination : Packet → Destination) (turns : Nat) (reader : StreamReader) :
    StreamReader :=
  (turn destination)^[turns] reader

def packets (reader : StreamReader) : List Packet := reader.delivered.map Prod.fst

end StreamReader

/-- The packets are those of the longest prefix of the stream that is a sequence of frames. -/
def LongestFramed (stream : List Byte) (packets : List Packet) (rest : List Byte) : Prop :=
  readPackets packets.length stream = some (packets, rest) ∧ readPacket rest = none

/-- In the end exactly the packets of the longest framed prefix are delivered. -/
def DeliversFramed (destination : Packet → Destination) (stream : PeerStream) : Prop :=
  ∃ packets rest, LongestFramed stream.bytes packets rest ∧ ∃ turns, ∀ later, turns ≤ later →
    (StreamReader.after destination later (.start stream)).packets = packets

def Terminates (destination : Packet → Destination) (stream : PeerStream) : Prop :=
  ∃ turns, (StreamReader.after destination turns (.start stream)).running = false

/-! ## What a turn reads -/

/-- The stream after a read that fails: past the length when that was refused, else at its end. -/
def resumed (stream : List Byte) : List Byte :=
  match readExact frameLenBytes stream with
  | none => []
  | some (lenBuf, rest) =>
      if (decode32 lenBuf).toNat < 20 ∨ maxFramedPacketSize < (decode32 lenBuf).toNat then rest else []

theorem read_exact_cases (count : Nat) (stream : PeerStream) :
    (stream.readExact count).2.bytes = stream.bytes.drop count ∧
      ((∃ front, readExact count stream.bytes = some (front, stream.bytes.drop count) ∧
          (stream.readExact count).1 = .ok front) ∨
        readExact count stream.bytes = none ∧ stream.bytes.drop count = [] ∧
          ∃ reason, (stream.readExact count).1 = .error reason) := by
  have flat := read_pieces_flatten count stream.pieces
  rcases pieces : readPieces count stream.pieces with ⟨items, rest⟩
  rw [pieces] at flat
  rcases flat with ⟨read, left⟩
  simp only [PeerStream.readExact, pieces]
  cases exact : readExact count stream.bytes with
  | none =>
    have short : stream.bytes.length < count := by
      rw [readExact] at exact
      split_ifs at exact with short
      exact short
    have none : items = none := by
      rw [PeerStream.bytes] at exact
      rw [exact] at read
      exact read
    subst none
    constructor
    · cases stream.ending <;> exact left
    · refine .inr ⟨rfl, List.drop_of_length_le (Nat.le_of_lt short), ?_⟩
      cases stream.ending with
      | eof => exact ⟨.unexpectedEof, rfl⟩
      | error => exact ⟨.broken, rfl⟩
  | some both =>
    rcases both with ⟨front, after⟩
    have rest := (read_exact_rest exact).2
    have some : items = some front := by
      rw [PeerStream.bytes] at exact
      rw [exact] at read
      exact read
    subst some rest
    exact ⟨left, .inl ⟨front, rfl, rfl⟩⟩

theorem read_packet_shorter {stream rest : List Byte} {packet : Packet}
    (read : readPacket stream = some (packet, rest)) : rest.length < stream.length := by
  rcases Option.bind_eq_some_iff.mp read with ⟨⟨lenBuf, later⟩, header, body⟩
  simp only at body
  split_ifs at body
  rcases Option.bind_eq_some_iff.mp body with ⟨⟨buf, last⟩, frame, same⟩
  cases same
  rcases read_exact_rest header with ⟨enough, rfl⟩
  rcases read_exact_rest frame with ⟨_, rfl⟩
  simp only [frameLenBytes, List.length_drop] at enough ⊢
  omega

theorem resumed_shorter {stream : List Byte} (present : stream ≠ []) :
    (resumed stream).length < stream.length := by
  have positive := List.length_pos_of_ne_nil present
  rw [resumed]
  split
  next => exact positive
  next lenBuf rest header =>
    split_ifs
    · rcases read_exact_rest header with ⟨_, rfl⟩
      simp only [frameLenBytes, List.length_drop]
      omega
    · exact positive

theorem read_packet_cases (stream : PeerStream) :
    (∃ packet, (stream.readPacket).1 = .ok packet ∧
        readPacket stream.bytes = some (packet, (stream.readPacket).2.bytes)) ∨
      (∃ reason, (stream.readPacket).1 = .error reason) ∧ readPacket stream.bytes = none ∧
        (stream.readPacket).2.bytes = resumed stream.bytes := by
  rcases read_exact_cases frameLenBytes stream with
    ⟨left, ⟨lenBuf, header, ok⟩ | ⟨header, empty, reason, failed⟩⟩
  · rcases first : stream.readExact frameLenBytes with ⟨result, rest⟩
    rw [first] at left ok
    obtain rfl : result = .ok lenBuf := ok
    simp only [PeerStream.readPacket, first, readPacket, resumed, header, Option.bind_eq_bind,
      Option.bind_some]
    split_ifs with refused
    · exact .inr ⟨⟨_, rfl⟩, rfl, left⟩
    · rcases read_exact_cases (decode32 lenBuf).toNat rest with
        ⟨after, ⟨buf, frame, ok⟩ | ⟨frame, empty, reason, failed⟩⟩
      · rcases second : rest.readExact (decode32 lenBuf).toNat with ⟨result, last⟩
        rw [second] at after ok
        obtain rfl : result = .ok buf := ok
        left
        refine ⟨_, rfl, ?_⟩
        have stop : last.bytes = rest.bytes.drop (decode32 lenBuf).toNat := after
        rw [← left, frame, stop]
        rfl
      · rcases second : rest.readExact (decode32 lenBuf).toNat with ⟨result, last⟩
        rw [second] at after failed
        obtain rfl : result = .error reason := failed
        right
        refine ⟨⟨_, rfl⟩, ?_, after.trans empty⟩
        rw [← left, frame]
        rfl
  · rcases first : stream.readExact frameLenBytes with ⟨result, rest⟩
    rw [first] at left failed
    obtain rfl : result = .error reason := failed
    simp only [PeerStream.readPacket, first, readPacket, resumed, header]
    exact .inr ⟨⟨_, rfl⟩, rfl, left.trans empty⟩

def takenPackets (stream : List Byte) : List Packet :=
  if _present : stream = [] then []
  else
    match _read : readPacket stream with
    | some (packet, rest) => packet :: takenPackets rest
    | none => takenPackets (resumed stream)
termination_by stream.length
decreasing_by
  · exact read_packet_shorter _read
  · exact resumed_shorter _present

theorem taken_packets_read {stream rest : List Byte} {packet : Packet}
    (read : readPacket stream = some (packet, rest)) :
    takenPackets stream = packet :: takenPackets rest := by
  have present : stream ≠ [] := by
    rintro rfl
    exact absurd (read_packet_shorter read) (Nat.not_lt_zero _)
  rw [takenPackets, dif_neg present]
  split
  next other later same =>
    rw [read] at same
    cases same
    rfl
  next none =>
    rw [read] at none
    cases none

theorem taken_packets_failed {stream : List Byte} (failed : readPacket stream = none) :
    takenPackets stream = takenPackets (resumed stream) := by
  by_cases empty : stream = []
  · subst empty
    rfl
  · rw [takenPackets, dif_neg empty]
    split
    next packet rest read =>
      rw [failed] at read
      cases read
    next => rfl

/-! ## The longest framed prefix -/

theorem longest_framed_exists (stream : List Byte) :
    ∃ packets rest, LongestFramed stream packets rest := by
  induction length : stream.length using Nat.strong_induction_on generalizing stream with
  | _ count induction =>
    subst length
    cases read : readPacket stream with
    | none => exact ⟨[], stream, rfl, read⟩
    | some both =>
      rcases both with ⟨packet, later⟩
      rcases induction later.length (read_packet_shorter read) later rfl with
        ⟨packets, rest, framed, stopped⟩
      exact ⟨packet :: packets, rest, read_packets_cons.mpr ⟨later, read, framed⟩, stopped⟩

/-- The longest prefix is taken first, and then what is read behind the first error. -/
theorem taken_packets_longest {stream rest : List Byte} {packets : List Packet}
    (longest : LongestFramed stream packets rest) :
    takenPackets stream = packets ++ takenPackets (resumed rest) := by
  rcases longest with ⟨framed, stopped⟩
  induction packets generalizing stream with
  | nil =>
    cases framed
    exact taken_packets_failed stopped
  | cons packet later induction =>
    rcases read_packets_cons.mp framed with ⟨middle, read, framed⟩
    rw [taken_packets_read read, induction framed, List.cons_append]

theorem longest_framed_unique {stream rest otherRest : List Byte} {packets others : List Packet}
    (longest : LongestFramed stream packets rest) (other : LongestFramed stream others otherRest) :
    others = packets ∧ otherRest = rest := by
  rcases longest with ⟨framed, stopped⟩
  rcases other with ⟨otherFramed, otherStopped⟩
  induction packets generalizing stream others with
  | nil =>
    cases framed
    cases others with
    | nil =>
      cases otherFramed
      exact ⟨rfl, rfl⟩
    | cons first later =>
      rcases read_packets_cons.mp otherFramed with ⟨_, read, _⟩
      rw [stopped] at read
      cases read
  | cons packet later induction =>
    rcases read_packets_cons.mp framed with ⟨middle, read, framed⟩
    cases others with
    | nil =>
      cases otherFramed
      rw [otherStopped] at read
      cases read
    | cons second following =>
      rcases read_packets_cons.mp otherFramed with ⟨_, again, otherFramed⟩
      rw [read] at again
      cases again
      rcases induction framed otherFramed with ⟨rfl, rfl⟩
      exact ⟨rfl, rfl⟩

/-! ## Turn after turn -/

section Turns

variable (destination : Packet → Destination)

theorem turn_running {reader : StreamReader} (running : reader.running = true) :
    (reader.turn destination).running = true := by
  rw [StreamReader.turn, if_pos running]
  split <;> exact running

theorem after_running (turns : Nat) (stream : PeerStream) :
    (StreamReader.after destination turns (.start stream)).running = true := by
  induction turns with
  | zero => rfl
  | succ turns induction =>
    rw [StreamReader.after, Function.iterate_succ_apply']
    exact turn_running destination induction

/-- A turn moves the first of the packets to come from the stream to the delivered ones, or leaves
both as they are and comes nearer to the end of the stream. -/
theorem turn_takes {reader : StreamReader} (running : reader.running = true) :
    (reader.turn destination).packets ++ takenPackets (reader.turn destination).stream.bytes =
        reader.packets ++ takenPackets reader.stream.bytes ∧
      (reader.stream.bytes ≠ [] →
        (reader.turn destination).stream.bytes.length < reader.stream.bytes.length) ∧
      (reader.stream.bytes = [] → (reader.turn destination).stream.bytes = []) := by
  rw [StreamReader.turn, if_pos running]
  rcases read_packet_cases reader.stream with
    ⟨packet, ok, read⟩ | ⟨⟨reason, failed⟩, none, resumes⟩
  · rcases result : reader.stream.readPacket with ⟨outcome, rest⟩
    rw [result] at ok read
    obtain rfl : outcome = .ok packet := ok
    have shorter := read_packet_shorter read
    refine ⟨?_, fun _ => shorter, ?_⟩
    · simp only [StreamReader.packets, List.map_append, List.map_cons, List.map_nil,
        taken_packets_read read, List.append_assoc, List.cons_append, List.nil_append]
    · intro empty
      rw [empty] at shorter
      exact absurd shorter (Nat.not_lt_zero _)
  · rcases result : reader.stream.readPacket with ⟨outcome, rest⟩
    rw [result] at failed resumes
    obtain rfl : outcome = .error reason := failed
    simp only at resumes
    refine ⟨?_, ?_, ?_⟩
    · simp only [StreamReader.packets, resumes, taken_packets_failed none]
    · intro present
      simp only [resumes]
      exact resumed_shorter present
    · intro empty
      simp only [resumes, empty]
      rfl

/-- From some turn on the stream is at its end, and all its packets are delivered. -/
theorem turns_exhaust {reader : StreamReader} (running : reader.running = true) :
    ∃ turns, ∀ later, turns ≤ later →
      (reader.after destination later).stream.bytes = [] ∧
        (reader.after destination later).packets =
          reader.packets ++ takenPackets reader.stream.bytes := by
  induction length : reader.stream.bytes.length using Nat.strong_induction_on
    generalizing reader with
  | _ count induction =>
    subst length
    rcases turn_takes destination running with ⟨taken, nearer, ended⟩
    by_cases empty : reader.stream.bytes = []
    · refine ⟨0, ?_⟩
      intro later _
      have still : ∀ turns, (reader.after destination turns).running = true ∧
          (reader.after destination turns).stream.bytes = [] ∧
            (reader.after destination turns).packets = reader.packets := by
        intro turns
        induction turns with
        | zero => exact ⟨running, empty, rfl⟩
        | succ turns induction =>
          rcases induction with ⟨running, empty, same⟩
          rcases turn_takes destination running with ⟨taken, _, ended⟩
          rw [ended empty, empty, List.append_cancel_right_eq, same] at taken
          rw [StreamReader.after, Function.iterate_succ_apply']
          exact ⟨turn_running destination running, ended empty, taken⟩
      rcases still later with ⟨_, ended, same⟩
      refine ⟨ended, ?_⟩
      rw [same, empty, takenPackets, dif_pos rfl, List.append_nil]
    · rcases induction _ (nearer empty) (turn_running destination running) rfl with
        ⟨turns, settled⟩
      refine ⟨turns + 1, ?_⟩
      intro later enough
      cases later with
      | zero => exact absurd enough (Nat.not_succ_le_zero _)
      | succ later =>
        rcases settled later (Nat.le_of_succ_le_succ enough) with ⟨ended, delivered⟩
        rw [StreamReader.after, Function.iterate_succ_apply]
        exact ⟨ended, delivered.trans taken⟩

end Turns

/-- No stream makes the loop stop. It delivers what it should exactly when, going on behind the first
error, it comes to no further packet. -/
theorem read_loop_never_stops (destination : Packet → Destination) (stream : PeerStream) :
    ¬(DeliversFramed destination stream ∧ Terminates destination stream) ∧
      (DeliversFramed destination stream ↔ ∀ packets rest,
        LongestFramed stream.bytes packets rest → takenPackets (resumed rest) = []) := by
  have running : (StreamReader.start stream).running = true := rfl
  rcases turns_exhaust destination running with ⟨turns, settled⟩
  constructor
  · rintro ⟨_, ended, stopped⟩
    rw [after_running] at stopped
    cases stopped
  · constructor
    · rintro ⟨packets, rest, longest, enough, delivered⟩ others otherRest other
      rcases longest_framed_unique longest other with ⟨rfl, rfl⟩
      have final := (settled _ (Nat.le_max_left turns enough)).2
      rw [delivered _ (Nat.le_max_right turns enough)] at final
      have whole : others = [] ++ takenPackets stream.bytes := final
      rw [List.nil_append, taken_packets_longest longest] at whole
      exact List.append_right_eq_self.mp whole.symm
    · intro none
      rcases longest_framed_exists stream.bytes with ⟨packets, rest, longest⟩
      refine ⟨packets, rest, longest, turns, ?_⟩
      intro later enough
      have final := (settled later enough).2
      rw [taken_packets_longest, none packets rest longest, List.append_nil] at final
      · exact final
      · exact longest

/-- A length of zero and behind it a frame of twenty bytes, cut in the middle. -/
def refusedLength : PeerStream where
  pieces := [[0, 0, 0, 0, 0, 0], [0, 20] ++ List.replicate 20 69]
  ending := .eof

/-- The frame behind the refused length is delivered, and the loop runs on at the end of the stream. -/
theorem refused_length_passed_over :
    LongestFramed refusedLength.bytes [] refusedLength.bytes ∧
      (StreamReader.after tcpDestination 2 (.start refusedLength)).packets =
        [.fromVec (List.replicate 20 69)] ∧
      ¬(DeliversFramed tcpDestination refusedLength ∧ Terminates tcpDestination refusedLength) := by
  refine ⟨⟨rfl, by decide⟩, by decide, ?_⟩
  rintro ⟨_, ended, stopped⟩
  rw [after_running] at stopped
  cases stopped

end Nextmini.Packets
