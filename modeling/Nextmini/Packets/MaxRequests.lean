import Nextmini.Library.ByteStream
import Nextmini.Packets.PacketAccess

/-!
# Requests on Max connections

The first bytes on a connection to a node's Max server: the flow id that the node before it sends, or
the SOCKS5 request of an external client. The server reads them in a few exact reads and answers some
of them; whatever comes behind the request is left on the connection. Writes succeed.
-/

namespace Nextmini.Packets

open Nextmini.Library.BigEndian Nextmini.Library.ByteStream

set_option autoImplicit false

inductive PeerAddr where
  | v4 (ip : Ipv4Addr) (port : UInt16)
  | v6
  deriving DecidableEq, Repr

/-- What `connect` writes in front of a flow's packets. -/
def maxRequest (flowId : Nat) : List Byte := 6 :: encodeBE 16 flowId

/-- The reads of `start_listening`, `handle_tcp_max_request` and `handle_socks5_request`; the address
and the port of the server are one read here. -/
inductive RequestRead where
  | firstByte
  | flowId
  | nmethods
  | methods (count : Nat)
  | requestHeader
  | serverAddress
  deriving DecidableEq, Repr

def RequestRead.needs : RequestRead → Nat
  | .firstByte => 1
  | .flowId => 16
  | .nmethods => 1
  | .methods count => count
  | .requestHeader => 4
  | .serverAddress => 6

inductive RequestOutcome where
  | waiting (read : RequestRead)
  | accepted (flowId : Nat)
  | refused
  deriving DecidableEq, Repr

def socks5FlowId (clientIp : Ipv4Addr) (clientPort : UInt16) (serverAddress : List Byte) : Nat :=
  decodeBE clientIp.octets <<< 96 ||| decodeBE (serverAddress.take 4) <<< 64 |||
    clientPort.toNat <<< 48 ||| decodeBE (serverAddress.drop 4) <<< 32

/-- What the server writes after a read and how it goes on. -/
def handleRead (peer : PeerAddr) (bytes : List Byte) :
    RequestRead → List Byte × RequestOutcome
  | .firstByte =>
      if Packet.byteAt bytes 0 = 0x05 then ([], .waiting .nmethods)
      else if Packet.byteAt bytes 0 = 0x06 then ([], .waiting .flowId)
      else ([], .refused)
  | .flowId => ([], .accepted (decodeBE bytes))
  | .nmethods => ([], .waiting (.methods (Packet.byteAt bytes 0).toNat))
  | .methods _ =>
      if 0 ∈ bytes then ([0x05, 0x00], .waiting .requestHeader) else ([0x05, 0xff], .refused)
  | .requestHeader =>
      if Packet.byteAt bytes 0 ≠ 0x05 then ([0x05, 0xff], .refused)
      else if Packet.byteAt bytes 1 ≠ 0x01 then ([0x05, 0x07, 0, 0x01, 0, 0, 0, 0, 0, 0], .refused)
      else if Packet.byteAt bytes 3 = 0x01 then ([], .waiting .serverAddress)
      else ([0x05, 0xff], .refused)
  | .serverAddress =>
      match peer with
      | .v4 clientIp clientPort =>
          ([0x05, 0, 0, 0x01, 0, 0, 0, 0, 0, 0], .accepted (socks5FlowId clientIp clientPort bytes))
      | .v6 => ([], .refused)

/-- The server on one connection: what it has answered, and the bytes it has not read yet. -/
structure RequestReader where
  replies : List Byte
  outcome : RequestOutcome
  rest : List Byte
  deriving DecidableEq, Repr

namespace RequestReader

def start (stream : List Byte) : RequestReader where
  replies := []
  outcome := .waiting .firstByte
  rest := stream

def step (peer : PeerAddr) (reader : RequestReader) : RequestReader :=
  match reader.outcome with
  | .waiting read =>
      match readExact read.needs reader.rest with
      | some (bytes, rest) =>
          { replies := reader.replies ++ (handleRead peer bytes read).1
            outcome := (handleRead peer bytes read).2
            rest := rest }
      | none => reader
  | _ => reader

def more (reader : RequestReader) (bytes : List Byte) : RequestReader :=
  { reader with rest := reader.rest ++ bytes }

/-- No request takes more than five reads. -/
def advance (peer : PeerAddr) (reader : RequestReader) : RequestReader := (step peer)^[5] reader

def receive (peer : PeerAddr) (reader : RequestReader) (piece : List Byte) : RequestReader :=
  advance peer (reader.more piece)

end RequestReader

/-- The state the server comes to on a stream after some reads. -/
def Reads (peer : PeerAddr) (stream : List Byte) (reader : RequestReader) : Prop :=
  ∃ count, (RequestReader.step peer)^[count] (.start stream) = reader

def socks5Request (methods : List Byte) (reserved : Byte) (serverIp : Ipv4Addr)
    (serverPort : UInt16) : List Byte :=
  0x05 :: UInt8.ofNat methods.length :: methods ++ 0x05 :: 0x01 :: reserved :: 0x01 ::
    serverIp.octets ++ encode16 serverPort

/-- The requests that are to be accepted, with the flow and the answers of each. -/
inductive Request (peer : PeerAddr) : List Byte → Nat → List Byte → Prop where
  | max {flowId : Nat} (fits : flowId < 2 ^ 128) : Request peer (maxRequest flowId) flowId []
  | socks5 {methods : List Byte} {reserved : Byte} {clientIp serverIp : Ipv4Addr}
      {clientPort serverPort : UInt16} (client : peer = .v4 clientIp clientPort)
      (count : methods.length < 256) (unauthenticated : 0 ∈ methods) :
      Request peer (socks5Request methods reserved serverIp serverPort)
        (Packet.flowIdFromParts clientIp clientPort serverIp serverPort)
        [0x05, 0x00, 0x05, 0, 0, 0x01, 0, 0, 0, 0, 0, 0]

/-! ## One read -/

section Steps

open RequestReader

variable {peer : PeerAddr} {before : List Byte} {read : RequestRead}

theorem step_reads {bytes : List Byte} (length : bytes.length = read.needs) (later : List Byte) :
    step peer ⟨before, .waiting read, bytes ++ later⟩ =
      ⟨before ++ (handleRead peer bytes read).1, (handleRead peer bytes read).2, later⟩ := by
  have exact : readExact read.needs (bytes ++ later) = some (bytes, later) :=
    read_exact_iff.mpr ⟨rfl, length⟩
  simp only [step, exact]

theorem step_accepted (flowId : Nat) (rest : List Byte) :
    step peer ⟨before, .accepted flowId, rest⟩ = ⟨before, .accepted flowId, rest⟩ := rfl

theorem step_refused (rest : List Byte) :
    step peer ⟨before, .refused, rest⟩ = ⟨before, .refused, rest⟩ := rfl

theorem step_cases (peer : PeerAddr) (reader : RequestReader) :
    step peer reader = reader ∨ ∃ before read bytes later,
      reader = ⟨before, .waiting read, bytes ++ later⟩ ∧ bytes.length = read.needs := by
  cases reader with
  | mk before outcome stream =>
    cases outcome with
    | waiting read =>
      cases exact : readExact read.needs stream with
      | none =>
        left
        simp only [step, exact]
      | some both =>
        right
        have split := read_exact_iff.mp exact
        exact ⟨before, read, both.1, both.2, by rw [← split.1], split.2⟩
    | accepted flowId => exact .inl rfl
    | refused => exact .inl rfl

theorem steps_still {reader : RequestReader} (still : step peer reader = reader) (count : Nat) :
    (step peer)^[count] reader = reader :=
  Function.iterate_fixed still count

/-- Bytes that come later do not change a read that was made before. -/
theorem steps_more (peer : PeerAddr) (reader : RequestReader) (bytes : List Byte) (count : Nat) :
    ∃ others, (step peer)^[others] (reader.more bytes) =
      ((step peer)^[count] reader).more bytes := by
  induction count generalizing reader with
  | zero => exact ⟨0, rfl⟩
  | succ count induction =>
    cases step_cases peer reader with
    | inl still =>
      rw [steps_still still]
      exact ⟨0, rfl⟩
    | inr reads =>
      rcases reads with ⟨before, read, front, later, rfl, length⟩
      have same : step peer (more ⟨before, .waiting read, front ++ later⟩ bytes) =
          (step peer ⟨before, .waiting read, front ++ later⟩).more bytes := by
        simp only [more, List.append_assoc, step_reads length]
      rcases induction (step peer ⟨before, .waiting read, front ++ later⟩) with ⟨others, reached⟩
      exists others + 1
      rw [Function.iterate_succ_apply, same, reached, Function.iterate_succ_apply]

/-! ## All reads there are bytes for -/

/-- The number of reads that may still follow. -/
def RequestOutcome.rank : RequestOutcome → Nat
  | .waiting .firstByte => 5
  | .waiting .nmethods => 4
  | .waiting (.methods _) => 3
  | .waiting .requestHeader => 2
  | .waiting .serverAddress => 1
  | .waiting .flowId => 1
  | .accepted _ => 0
  | .refused => 0

theorem rank_le (outcome : RequestOutcome) : outcome.rank ≤ 5 := by
  cases outcome with
  | waiting read => cases read <;> simp only [RequestOutcome.rank] <;> decide
  | accepted flowId => exact Nat.zero_le 5
  | refused => exact Nat.zero_le 5

theorem handle_read_rank (peer : PeerAddr) (bytes : List Byte) (read : RequestRead) :
    (handleRead peer bytes read).2.rank < (RequestOutcome.waiting read).rank := by
  cases read with
  | firstByte =>
    simp only [handleRead]
    split_ifs <;> decide
  | flowId => exact Nat.zero_lt_one
  | nmethods => exact Nat.lt_succ_self 3
  | methods count =>
    simp only [handleRead]
    split_ifs <;> simp only [RequestOutcome.rank] <;> decide
  | requestHeader =>
    simp only [handleRead]
    split_ifs <;> decide
  | serverAddress => cases peer <;> exact Nat.zero_lt_one

/-- After as many steps as the rank says there is nothing left to do. -/
theorem steps_settle (peer : PeerAddr) (reader : RequestReader) (count : Nat)
    (enough : reader.outcome.rank ≤ count) :
    step peer ((step peer)^[count] reader) = (step peer)^[count] reader := by
  induction count generalizing reader with
  | zero =>
    cases step_cases peer reader with
    | inl still => exact still
    | inr reads =>
      rcases reads with ⟨before, read, _, _, rfl, _⟩
      have positive := handle_read_rank peer [] read
      simp only at enough
      omega
  | succ count induction =>
    cases step_cases peer reader with
    | inl still => rw [steps_still still, still]
    | inr reads =>
      rcases reads with ⟨before, read, front, later, rfl, length⟩
      have lower := handle_read_rank peer front read
      rw [Function.iterate_succ_apply, step_reads length]
      apply induction
      simp only at enough ⊢
      omega

theorem advance_settled (peer : PeerAddr) (reader : RequestReader) :
    step peer (advance peer reader) = advance peer reader :=
  steps_settle peer reader 5 (rank_le reader.outcome)

theorem advance_steps (peer : PeerAddr) (reader : RequestReader) (count : Nat) :
    advance peer ((step peer)^[count] reader) = advance peer reader := by
  rw [advance, ← Function.iterate_add_apply, Nat.add_comm, Function.iterate_add_apply]
  exact steps_still (advance_settled peer reader) count

theorem receive_pieces (peer : PeerAddr) (stream : List Byte) (pieces : List (List Byte)) :
    pieces.foldl (receive peer) (advance peer (.start stream)) =
      advance peer (.start (stream ++ pieces.flatten)) := by
  induction pieces generalizing stream with
  | nil => rw [List.foldl_nil, List.flatten_nil, List.append_nil]
  | cons piece others induction =>
    have next : receive peer (advance peer (.start stream)) piece =
        advance peer (.start (stream ++ piece)) := by
      rcases steps_more peer (.start stream) piece 5 with ⟨count, reached⟩
      have steps := advance_steps peer ((RequestReader.start stream).more piece) count
      rw [reached] at steps
      exact steps
    rw [List.foldl_cons, next, induction, List.flatten_cons, List.append_assoc]

end Steps

/-! ## What is accepted -/

/-- From this state on the server accepts the flow, with these answers and these bytes left over. -/
def Accepts (peer : PeerAddr) (reader : RequestReader) (replies : List Byte) (flowId : Nat)
    (rest : List Byte) : Prop :=
  ∃ count, (RequestReader.step peer)^[count] reader = ⟨replies, .accepted flowId, rest⟩

section Accepted

variable {peer : PeerAddr} {before stream replies rest : List Byte} {flowId : Nat}

theorem accepts_accepted_iff {accepted : Nat} :
    Accepts peer ⟨before, .accepted accepted, stream⟩ replies flowId rest ↔
      before = replies ∧ accepted = flowId ∧ stream = rest := by
  have fixed : RequestReader.step peer ⟨before, .accepted accepted, stream⟩ =
      ⟨before, .accepted accepted, stream⟩ :=
    step_accepted accepted stream
  have still (count : Nat) := steps_still fixed count
  constructor
  · intro accepts
    rcases accepts with ⟨count, reached⟩
    rw [still count] at reached
    cases reached
    exact ⟨rfl, rfl, rfl⟩
  · intro same
    rcases same with ⟨rfl, rfl, rfl⟩
    exact ⟨0, rfl⟩

theorem refused_not_accepts : ¬Accepts peer ⟨before, .refused, stream⟩ replies flowId rest := by
  intro accepts
  rcases accepts with ⟨count, reached⟩
  rw [steps_still (step_refused stream)] at reached
  cases reached

/-- A read that is waited for has to be made. -/
theorem accepts_waiting_iff {read : RequestRead} :
    Accepts peer ⟨before, .waiting read, stream⟩ replies flowId rest ↔
      ∃ bytes later, stream = bytes ++ later ∧ bytes.length = read.needs ∧
        Accepts peer ⟨before ++ (handleRead peer bytes read).1, (handleRead peer bytes read).2, later⟩
          replies flowId rest := by
  constructor
  · intro accepts
    rcases accepts with ⟨count, reached⟩
    cases step_cases peer ⟨before, .waiting read, stream⟩ with
    | inl still =>
      rw [steps_still still] at reached
      cases reached
    | inr reads =>
      rcases reads with ⟨_, _, bytes, later, same, length⟩
      cases same
      cases count with
      | zero => cases reached
      | succ count =>
        rw [Function.iterate_succ_apply, step_reads length] at reached
        exact ⟨bytes, later, rfl, length, count, reached⟩
  · intro reads
    rcases reads with ⟨bytes, later, rfl, length, count, reached⟩
    exists count + 1
    rw [Function.iterate_succ_apply, step_reads length, reached]

theorem accepts_flow_id_iff :
    Accepts peer ⟨before, .waiting .flowId, stream⟩ replies flowId rest ↔
      replies = before ∧ flowId < 2 ^ 128 ∧ stream = encodeBE 16 flowId ++ rest := by
  have width : (256 : Nat) ^ 16 = 2 ^ 128 := by norm_num
  rw [accepts_waiting_iff]
  simp only [handleRead, List.append_nil, accepts_accepted_iff]
  constructor
  · intro reads
    rcases reads with ⟨bytes, later, rfl, sixteen, rfl, rfl, rfl⟩
    have length : bytes.length = 16 := sixteen
    have bounded := decode_be_lt bytes
    have written := encode_be_decode bytes
    rw [length] at bounded written
    exact ⟨rfl, bounded.trans_eq width, by rw [written]⟩
  · intro request
    rcases request with ⟨rfl, fits, rfl⟩
    exact ⟨encodeBE 16 flowId, rest, rfl, encode_be_length 16 flowId, rfl,
      decode_be_encode_of_lt 16 flowId (fits.trans_eq width.symm), rfl⟩

theorem socks5_flow_id_parts (clientIp serverIp : Ipv4Addr) (clientPort serverPort : UInt16) :
    socks5FlowId clientIp clientPort (serverIp.octets ++ encode16 serverPort) =
      Packet.flowIdFromParts clientIp clientPort serverIp serverPort := by
  have server : (serverIp.octets ++ encode16 serverPort).take 4 = serverIp.octets := rfl
  have port : decodeBE ((serverIp.octets ++ encode16 serverPort).drop 4) = serverPort.toNat :=
    decode_be_encode_of_lt 2 serverPort.toNat serverPort.toNat_lt
  have ips : decodeBE (clientIp.octets ++ serverIp.octets) =
      decodeBE clientIp.octets * 2 ^ 32 + decodeBE serverIp.octets := by
    rw [decode_be_append, FlowIdExt.octets_length]
    norm_num
  have ports : decodeBE (encode16 clientPort ++ encode16 serverPort) =
      clientPort.toNat * 2 ^ 16 + serverPort.toNat := by
    rw [decode_be_append, encode16_length, encode16, encode16,
      decode_be_encode_of_lt 2 _ clientPort.toNat_lt, decode_be_encode_of_lt 2 _ serverPort.toNat_lt]
    norm_num
  have parts := FlowIdExt.shifted_parts (decodeBE clientIp.octets) (FlowIdExt.octets_lt serverIp)
    clientPort.toNat_lt serverPort.toNat_lt (Nat.two_pow_pos 32)
  rw [Nat.or_zero] at parts
  rw [socks5FlowId, server, port, parts, Packet.flowIdFromParts, ips, ports]
  ring

theorem four_bytes (bytes : List Byte) (length : bytes.length = 4) :
    ∃ a b c d, bytes = [a, b, c, d] := by
  match bytes, length with
  | [a, b, c, d], _ => exact ⟨a, b, c, d, rfl⟩

theorem six_bytes (bytes : List Byte) (length : bytes.length = 6) :
    ∃ a b c d e f, bytes = [a, b, c, d, e, f] := by
  match bytes, length with
  | [a, b, c, d, e, f], _ => exact ⟨a, b, c, d, e, f, rfl⟩

theorem accepts_server_address_iff :
    Accepts peer ⟨before, .waiting .serverAddress, stream⟩ replies flowId rest ↔
      ∃ clientIp clientPort serverIp serverPort, peer = .v4 clientIp clientPort ∧
        replies = before ++ [0x05, 0, 0, 0x01, 0, 0, 0, 0, 0, 0] ∧
        flowId = Packet.flowIdFromParts clientIp clientPort serverIp serverPort ∧
        stream = serverIp.octets ++ encode16 serverPort ++ rest := by
  rw [accepts_waiting_iff]
  constructor
  · intro reads
    rcases reads with ⟨bytes, later, rfl, length, accepts⟩
    rcases six_bytes bytes length with ⟨a, b, c, d, e, f, rfl⟩
    cases peer with
    | v4 clientIp clientPort =>
      simp only [handleRead, accepts_accepted_iff] at accepts
      rcases accepts with ⟨rfl, rfl, rfl⟩
      have split : [a, b, c, d, e, f] =
          Ipv4Addr.octets ⟨a, b, c, d⟩ ++ encode16 (decode16 [e, f]) := by
        rw [encode16_decode [e, f] rfl]
        rfl
      rw [split, socks5_flow_id_parts]
      exact ⟨clientIp, clientPort, ⟨a, b, c, d⟩, decode16 [e, f], rfl, rfl, rfl, rfl⟩
    | v6 => exact absurd accepts refused_not_accepts
  · intro request
    rcases request with ⟨clientIp, clientPort, serverIp, serverPort, rfl, rfl, rfl, rfl⟩
    refine ⟨serverIp.octets ++ encode16 serverPort, rest, rfl, ?_, ?_⟩
    · rw [List.length_append, FlowIdExt.octets_length, encode16_length]
      rfl
    · simp only [handleRead, accepts_accepted_iff, socks5_flow_id_parts, and_self]

theorem accepts_request_header_iff :
    Accepts peer ⟨before, .waiting .requestHeader, stream⟩ replies flowId rest ↔
      ∃ reserved later, stream = 0x05 :: 0x01 :: reserved :: 0x01 :: later ∧
        Accepts peer ⟨before, .waiting .serverAddress, later⟩ replies flowId rest := by
  rw [accepts_waiting_iff]
  constructor
  · intro reads
    rcases reads with ⟨bytes, later, rfl, length, accepts⟩
    rcases four_bytes bytes length with ⟨version, command, reserved, kind, rfl⟩
    simp only [handleRead, Packet.byteAt, List.getD_cons_zero, List.getD_cons_succ] at accepts
    split_ifs at accepts with wrongVersion wrongCommand ipv4
    · exact absurd accepts refused_not_accepts
    · exact absurd accepts refused_not_accepts
    · obtain rfl := Decidable.not_not.mp wrongVersion
      obtain rfl := Decidable.not_not.mp wrongCommand
      subst ipv4
      rw [List.append_nil] at accepts
      exact ⟨reserved, later, rfl, accepts⟩
    · exact absurd accepts refused_not_accepts
  · intro request
    rcases request with ⟨reserved, later, rfl, accepts⟩
    refine ⟨[0x05, 0x01, reserved, 0x01], later, rfl, rfl, ?_⟩
    simpa [handleRead, Packet.byteAt] using accepts

theorem accepts_methods_iff {count : Nat} :
    Accepts peer ⟨before, .waiting (.methods count), stream⟩ replies flowId rest ↔
      ∃ methods later, stream = methods ++ later ∧ methods.length = count ∧ 0 ∈ methods ∧
        Accepts peer ⟨before ++ [0x05, 0x00], .waiting .requestHeader, later⟩ replies flowId
          rest := by
  rw [accepts_waiting_iff]
  constructor
  · intro reads
    rcases reads with ⟨methods, later, rfl, length, accepts⟩
    simp only [handleRead] at accepts
    split_ifs at accepts with offered
    · exact ⟨methods, later, rfl, length, offered, accepts⟩
    · exact absurd accepts refused_not_accepts
  · intro request
    rcases request with ⟨methods, later, rfl, length, offered, accepts⟩
    refine ⟨methods, later, rfl, length, ?_⟩
    simpa only [handleRead, if_pos offered] using accepts

theorem accepts_nmethods_iff :
    Accepts peer ⟨before, .waiting .nmethods, stream⟩ replies flowId rest ↔
      ∃ count later, stream = count :: later ∧
        Accepts peer ⟨before, .waiting (.methods count.toNat), later⟩ replies flowId rest := by
  rw [accepts_waiting_iff]
  constructor
  · intro reads
    rcases reads with ⟨bytes, later, rfl, length, accepts⟩
    rcases List.length_eq_one_iff.mp length with ⟨count, rfl⟩
    rw [handleRead, List.append_nil] at accepts
    exact ⟨count, later, rfl, accepts⟩
  · intro request
    rcases request with ⟨count, later, rfl, accepts⟩
    refine ⟨[count], later, rfl, rfl, ?_⟩
    rw [handleRead, List.append_nil]
    exact accepts

theorem accepts_first_byte_iff :
    Accepts peer ⟨before, .waiting .firstByte, stream⟩ replies flowId rest ↔
      (∃ later, stream = 0x05 :: later ∧
        Accepts peer ⟨before, .waiting .nmethods, later⟩ replies flowId rest) ∨
      ∃ later, stream = 0x06 :: later ∧
        Accepts peer ⟨before, .waiting .flowId, later⟩ replies flowId rest := by
  rw [accepts_waiting_iff]
  constructor
  · intro reads
    rcases reads with ⟨bytes, later, rfl, length, accepts⟩
    rcases List.length_eq_one_iff.mp length with ⟨byte, rfl⟩
    simp only [handleRead, Packet.byteAt, List.getD_cons_zero] at accepts
    split_ifs at accepts with socks5 max
    · subst socks5
      rw [List.append_nil] at accepts
      exact .inl ⟨later, rfl, accepts⟩
    · subst max
      rw [List.append_nil] at accepts
      exact .inr ⟨later, rfl, accepts⟩
    · exact absurd accepts refused_not_accepts
  · intro request
    cases request with
    | inl socks5 =>
      rcases socks5 with ⟨later, rfl, accepts⟩
      refine ⟨[0x05], later, rfl, rfl, ?_⟩
      simpa [handleRead, Packet.byteAt] using accepts
    | inr max =>
      rcases max with ⟨later, rfl, accepts⟩
      refine ⟨[0x06], later, rfl, rfl, ?_⟩
      simpa [handleRead, Packet.byteAt] using accepts

theorem accepts_iff :
    Accepts peer (.start stream) replies flowId rest ↔
      ∃ request, stream = request ++ rest ∧ Request peer request flowId replies := by
  rw [RequestReader.start, accepts_first_byte_iff]
  simp only [accepts_flow_id_iff, accepts_nmethods_iff, accepts_methods_iff,
    accepts_request_header_iff, accepts_server_address_iff]
  constructor
  · intro accepts
    cases accepts with
    | inl socks5 =>
      rcases socks5 with ⟨_, rfl, count, _, rfl, methods, _, rfl, length, offered, reserved, _, rfl,
        clientIp, clientPort, serverIp, serverPort, client, rfl, rfl, rfl⟩
      have byte : count = UInt8.ofNat methods.length := by rw [length, UInt8.ofNat_toNat]
      have short : methods.length < 256 := length.trans_lt count.toNat_lt
      refine ⟨socks5Request methods reserved serverIp serverPort, ?_, .socks5 client short offered⟩
      rw [byte, socks5Request]
      simp only [List.cons_append, List.append_assoc]
    | inr max =>
      rcases max with ⟨_, rfl, rfl, fits, rfl⟩
      exact ⟨maxRequest flowId, rfl, .max fits⟩
  · intro accepted
    rcases accepted with ⟨request, rfl, accepted⟩
    cases accepted with
    | max fits => exact .inr ⟨_, rfl, rfl, fits, rfl⟩
    | socks5 client count offered =>
      rename_i methods reserved clientIp serverIp clientPort serverPort
      left
      have length : (UInt8.ofNat methods.length).toNat = methods.length :=
        UInt8.toNat_ofNat_of_lt' count
      refine ⟨_, rfl, UInt8.ofNat methods.length, _, rfl, methods,
        0x05 :: 0x01 :: reserved :: 0x01 :: (serverIp.octets ++ encode16 serverPort ++ rest), ?_,
        length.symm, offered, reserved, _, rfl, clientIp, clientPort, serverIp, serverPort, client,
        rfl, rfl, rfl⟩
      simp only [List.append_eq, List.cons_append, List.append_assoc]

end Accepted

/-- Whatever pieces the bytes come in, the server accepts a flow exactly when they start with a request
for it. It has given that request's answers, and the bytes behind the request are left. -/
theorem request_accepted_iff (peer : PeerAddr) (pieces : List (List Byte)) (flowId : Nat)
    (replies rest : List Byte) :
    pieces.foldl (RequestReader.receive peer) (.start []) = ⟨replies, .accepted flowId, rest⟩ ↔
      ∃ request, pieces.flatten = request ++ rest ∧ Request peer request flowId replies := by
  have nothing : RequestReader.start [] = RequestReader.advance peer (.start []) := rfl
  rw [nothing, receive_pieces, List.nil_append, ← accepts_iff]
  constructor
  · intro reached
    exact ⟨5, reached⟩
  · intro accepts
    rcases accepts with ⟨count, reached⟩
    rw [← advance_steps peer (.start pieces.flatten) count, reached]
    exact steps_still (step_accepted flowId rest) 5

end Nextmini.Packets
