import Nextmini.Node.MaxConnector

/-!
# Tunnels through nodes in Max mode

The connections that one request leads through make up a tunnel: each is opened by the connector that
accepted the one before, for the same flow. What the first end writes behind its request comes out at
the last end, in order and without loss or doubles, and what the last end answers comes back.
-/

namespace Nextmini.Node

open Nextmini.Library Nextmini.Library.BigEndian Nextmini.Library.PipeChain Nextmini.Packets
open Nextmini.Routing (NodeId LocalConfig JumpSlot)

set_option autoImplicit false

/-! ## Frames and requests -/

theorem frames_append (front back : List FramedPacket) :
    frames (front ++ back) = frames front ++ frames back := by
  rw [frames, List.flatMap_append, List.flatten_append]
  rfl

theorem decode_slice_lt (buf : List Byte) (start width : Nat) :
    decodeBE (slice buf start (start + width)) < 256 ^ width := by
  have bounded := decode_be_lt (slice buf start (start + width))
  have short : (slice buf start (start + width)).length ≤ width := by
    rw [slice, List.length_drop, List.length_take]
    omega
  exact bounded.trans_le (Nat.pow_le_pow_right (by norm_num) short)

theorem framed_flow_id_lt (framed : FramedPacket) : framed.packet.flowId < 2 ^ 128 := by
  rw [FramedPacket.packet, Packet.flow_id_from_vec, Packet.getFlowIdFromBuf]
  split_ifs
  · decide
  · decide
  · have ips := decode_slice_lt framed.vec 12 8
    have ports := decode_slice_lt framed.vec (Packet.ipHeaderLen framed.vec) 4
    norm_num at ips ports ⊢
    omega

theorem request_flow_id_lt {peer : PeerAddr} {request replies : List Byte} {flowId : Nat}
    (accepted : Request peer request flowId replies) : flowId < 2 ^ 128 := by
  cases accepted with
  | max fits => exact fits
  | socks5 client count offered =>
    rename_i methods reserved clientIp serverIp clientPort serverPort
    have ips := decode_be_lt (clientIp.octets ++ serverIp.octets)
    have ports := decode_be_lt (encode16 clientPort ++ encode16 serverPort)
    have width : (clientIp.octets ++ serverIp.octets).length = 8 := rfl
    have portWidth : (encode16 clientPort ++ encode16 serverPort).length = 4 := by
      rw [List.length_append, encode16_length, encode16_length]
    rw [width] at ips
    rw [portWidth] at ports
    rw [Packet.flowIdFromParts]
    norm_num at ips ports ⊢
    omega

theorem reads_start (peer : PeerAddr) (stream : List Byte) : Reads peer stream (.start stream) := ⟨0, rfl⟩

/-- Bytes that are written later stand behind those left over. -/
theorem reads_more {peer : PeerAddr} {stream replies : List Byte} {outcome : RequestOutcome}
    {request : Nat} (reads : Reads peer stream ⟨replies, outcome, stream.drop request⟩)
    (inside : request ≤ stream.length) (bytes : List Byte) :
    Reads peer (stream ++ bytes) ⟨replies, outcome, (stream ++ bytes).drop request⟩ := by
  rcases reads with ⟨count, reached⟩
  rcases steps_more peer (.start stream) bytes count with ⟨others, more⟩
  exists others
  rw [List.drop_append_of_le_length inside]
  rw [reached] at more
  exact more

theorem reads_next {peer : PeerAddr} {stream replies bytes later : List Byte} {read : RequestRead}
    (reads : Reads peer stream ⟨replies, .waiting read, bytes ++ later⟩)
    (length : bytes.length = read.needs) :
    Reads peer stream
      ⟨replies ++ (handleRead peer bytes read).1, (handleRead peer bytes read).2, later⟩ := by
  rcases reads with ⟨count, reached⟩
  exists count + 1
  rw [Function.iterate_succ_apply', reached, step_reads length]

theorem reads_accepted {peer : PeerAddr} {stream replies : List Byte} {flowId request : Nat}
    (reads : Reads peer stream ⟨replies, .accepted flowId, stream.drop request⟩) :
    Request peer (stream.take request) flowId replies := by
  rcases accepts_iff.mp reads with ⟨bytes, split, accepted⟩
  have front : stream.take request = bytes :=
    List.append_cancel_right ((List.take_append_drop request stream).trans split)
  rw [front]
  exact accepted

/-- Behind the header of a node, the server accepts that node's flow and no answer is given. -/
theorem header_accepted {peer : PeerAddr} {replies rest : List Byte} {flowId accepted request : Nat}
    (reads : Reads peer (maxRequest flowId ++ rest)
      ⟨replies, .accepted accepted, (maxRequest flowId ++ rest).drop request⟩)
    (fits : flowId < 2 ^ 128) :
    accepted = flowId ∧ replies = [] ∧ (maxRequest flowId ++ rest).drop request = rest := by
  have own : Reads peer (maxRequest flowId ++ rest) ⟨[], .accepted flowId, rest⟩ :=
    accepts_iff.mpr ⟨maxRequest flowId, rfl, .max fits⟩
  rcases own with ⟨count, reached⟩
  rcases reads with ⟨others, other⟩
  have first := advance_steps peer (.start (maxRequest flowId ++ rest)) count
  have second := advance_steps peer (.start (maxRequest flowId ++ rest)) others
  rw [reached] at first
  rw [other, ← first] at second
  have same : (⟨replies, .accepted accepted, (maxRequest flowId ++ rest).drop request⟩ :
      RequestReader) = ⟨[], .accepted flowId, rest⟩ := second
  rw [RequestReader.mk.injEq, RequestOutcome.accepted.injEq] at same
  exact ⟨same.2.1, same.1, same.2.2⟩

/-! ## What holds of one connection -/

/-- Where the server is with the request. -/
def AcceptorStage.outcome : AcceptorStage → Option RequestOutcome
  | .backlog => some (.waiting .firstByte)
  | .reading read => some (.waiting read)
  | .requested flowId => some (.accepted flowId)
  | .destination flowId => some (.accepted flowId)
  | .relayed flowId _ => some (.accepted flowId)
  | .dropped => none
  | .server => none

/-- Nothing but the request has been read yet, and nothing but its answers written. -/
def AcceptorStage.asking : AcceptorStage → Bool
  | .backlog => true
  | .reading _ => true
  | .requested _ => true
  | _ => false

namespace MaxConnection

structure Sound (connection : MaxConnection) : Prop where
  started : connection.request ≤ connection.up.taken
  reads : ∀ outcome, connection.stage.outcome = some outcome →
    Reads connection.peer connection.up.written
      ⟨connection.replies, outcome, connection.up.written.drop connection.request⟩
  asking : connection.stage.asking = true → connection.up.taken = connection.request ∧
    connection.down.written = connection.replies ∧ connection.packetsDown = []
  outside : connection.stage = .server → connection.request = 0 ∧ connection.replies = []
  source : ∀ nodeId flowId, connection.opener = .source nodeId flowId →
    flowId < 2 ^ 128 ∧ connection.up.written = maxRequest flowId ++ frames connection.packetsUp ∧
      ∀ framed ∈ connection.packetsUp, framed.packet.flowId = flowId
  destination : ∀ flowId, connection.stage = .destination flowId →
    connection.down.written = connection.replies ++ frames connection.packetsDown ∧
      ∀ framed ∈ connection.packetsDown, framed.packet.flowId = FlowIdExt.reverse flowId

variable {connection : MaxConnection}

theorem Sound.request_inside (sound : connection.Sound) :
    connection.request ≤ connection.up.written.length :=
  sound.started.trans connection.up.inside

theorem opened_sound {listener : String → Option NodeId} {opener : Opener} {peer : PeerAddr}
    {address : String} {header : List Byte} {packets : List FramedPacket}
    (source : ∀ nodeId flowId, opener = .source nodeId flowId → flowId < 2 ^ 128 ∧
      header = maxRequest flowId ∧ ∀ framed ∈ packets, framed.packet.flowId = flowId) :
    (opened listener opener peer address header packets).Sound where
  started := Nat.zero_le _
  reads outcome reading := by
    have first : outcome = .waiting .firstByte := by
      simp only [opened] at reading
      split_ifs at reading <;> cases reading
      rfl
    subst first
    exact reads_start peer _
  asking _ := ⟨rfl, rfl, rfl⟩
  outside _ := ⟨rfl, rfl⟩
  source nodeId flowId opens := by
    rcases source nodeId flowId opens with ⟨fits, rfl, flows⟩
    exact ⟨fits, rfl, flows⟩
  destination flowId ends := by
    simp only [opened] at ends
    split_ifs at ends

/-- More bytes are written upwards, by a scheduler only as frames of its flow. -/
theorem Sound.write_up (sound : connection.Sound) {bytes : List Byte} {packets : List FramedPacket}
    (source : ∀ nodeId flowId, connection.opener = .source nodeId flowId →
      bytes = frames packets ∧ ∀ framed ∈ packets, framed.packet.flowId = flowId) :
    Sound { connection with
      up := connection.up.write bytes
      packetsUp := connection.packetsUp ++ packets } where
  started := sound.started
  reads outcome reading := reads_more (sound.reads outcome reading) sound.request_inside bytes
  asking := sound.asking
  outside := sound.outside
  source nodeId flowId opens := by
    rcases sound.source nodeId flowId opens with ⟨fits, written, flows⟩
    rcases source nodeId flowId opens with ⟨rfl, more⟩
    refine ⟨fits, ?_, ?_⟩
    · rw [Pipe.written_write, written, frames_append, List.append_assoc]
    · intro framed member
      exact (List.mem_append.mp member).elim (flows framed) (more framed)
  destination := sound.destination

/-- More bytes are written downwards, once the request is answered. -/
theorem Sound.write_down (sound : connection.Sound) {bytes : List Byte}
    {packets : List FramedPacket} (answered : connection.stage.asking = false)
    (destination : ∀ flowId, connection.stage = .destination flowId →
      bytes = frames packets ∧ ∀ framed ∈ packets, framed.packet.flowId = FlowIdExt.reverse flowId) :
    Sound { connection with
      down := connection.down.write bytes
      packetsDown := connection.packetsDown ++ packets } where
  started := sound.started
  reads := sound.reads
  asking asking := by
    rw [answered] at asking
    cases asking
  outside := sound.outside
  source := sound.source
  destination flowId ends := by
    rcases sound.destination flowId ends with ⟨written, flows⟩
    rcases destination flowId ends with ⟨rfl, more⟩
    constructor
    · rw [Pipe.written_write, written, frames_append, List.append_assoc]
    · intro framed member
      exact (List.mem_append.mp member).elim (flows framed) (more framed)

theorem Sound.take_up (sound : connection.Sound) (answered : connection.stage.asking = false)
    (count : Nat) : Sound { connection with up := connection.up.take count } where
  started := sound.started.trans (connection.up.taken_le_take count)
  reads := sound.reads
  asking asking := by
    rw [answered] at asking
    cases asking
  outside := sound.outside
  source := sound.source
  destination := sound.destination

theorem Sound.take_down (sound : connection.Sound) (count : Nat) :
    Sound { connection with down := connection.down.take count } where
  started := sound.started
  reads := sound.reads
  asking := sound.asking
  outside := sound.outside
  source := sound.source
  destination := sound.destination

theorem Sound.accept (sound : connection.Sound) (waiting : connection.stage = .backlog) :
    Sound { connection with stage := .reading .firstByte } where
  started := sound.started
  reads outcome reading := by
    cases reading
    exact sound.reads _ (by rw [waiting]; rfl)
  asking _ := sound.asking (by rw [waiting]; rfl)
  outside none := by cases none
  source := sound.source
  destination flowId ends := by cases ends

theorem Sound.handled (sound : connection.Sound) {read : RequestRead}
    (reading : connection.stage = .reading read)
    (arrived : read.needs ≤ connection.up.inFlight.length) : (connection.handled read).Sound := by
  rcases sound.asking (by rw [reading]; rfl) with ⟨taken, answered, unsent⟩
  have length : (connection.up.inFlight.take read.needs).length = read.needs :=
    List.length_take_of_le arrived
  have rest : connection.up.written.drop connection.request =
      connection.up.inFlight.take read.needs ++
        connection.up.written.drop (connection.request + read.needs) := by
    have front := List.take_append_drop read.needs connection.up.inFlight
    rw [Pipe.inFlight, List.drop_drop, taken] at front
    rw [Pipe.inFlight, taken]
    exact front.symm
  have before := sound.reads (.waiting read) (by rw [reading]; rfl)
  rw [rest] at before
  have next := reads_next before length
  constructor
  case started =>
    rw [MaxConnection.handled]
    simp only
    rw [Pipe.taken_take _ arrived, taken]
  case reads =>
    intro outcome now
    have same : outcome =
        (handleRead connection.peer (connection.up.inFlight.take read.needs) read).2 := by
      simp only [MaxConnection.handled] at now
      generalize (handleRead connection.peer (connection.up.inFlight.take read.needs) read).2 = result
        at now ⊢
      cases result <;> cases now <;> rfl
    rw [same]
    exact next
  case asking =>
    intro _
    refine ⟨(Pipe.taken_take _ arrived).trans (by rw [taken]; rfl), ?_, unsent⟩
    simp only [MaxConnection.handled, Pipe.written_write, answered]
  case outside =>
    intro none
    simp only [MaxConnection.handled] at none
    generalize (handleRead connection.peer (connection.up.inFlight.take read.needs) read).2 = result
      at none
    cases result <;> cases none
  case source => exact sound.source
  case destination =>
    intro flowId ends
    simp only [MaxConnection.handled] at ends
    generalize (handleRead connection.peer (connection.up.inFlight.take read.needs) read).2 = result
      at ends
    cases result <;> cases ends

theorem Sound.decide (sound : connection.Sound) {flowId : Nat}
    (asked : connection.stage = .requested flowId) {stage : AcceptorStage}
    (outcome : stage.outcome = some (.accepted flowId) ∨ stage = .dropped)
    (decided : stage.asking = false) : Sound { connection with stage := stage } where
  started := sound.started
  reads result reading := by
    cases outcome with
    | inl accepted =>
      have same := reading.symm.trans accepted
      cases same
      exact sound.reads _ (by rw [asked]; rfl)
    | inr dropped =>
      subst dropped
      cases reading
  asking asking := by
    simp only at asking
    rw [decided] at asking
    cases asking
  outside none := by
    simp only at none
    subst none
    cases outcome with
    | inl accepted => cases accepted
    | inr dropped => cases dropped
  source := sound.source
  destination flow ends := by
    rcases sound.asking (by rw [asked]; rfl) with ⟨_, answered, unsent⟩
    simp only
    rw [answered, unsent]
    refine ⟨(List.append_nil _).symm, ?_⟩
    intro framed member
    cases member

end MaxConnection

/-! ## What holds of the network -/

/-- The connection that the connector opened for an accepted one is filled from it, and back. -/
structure Joined (inbound outbound : MaxConnection) (flowId : Nat) (header : Bool) : Prop where
  up : outbound.up.written = (if header then maxRequest flowId else []) ++
    inbound.up.received.drop inbound.request
  down : inbound.down.written = inbound.replies ++ outbound.down.received
  address : header = false → outbound.address = externalServerAddr flowId

/-- Who a stored scheduler writes for. -/
structure SchedulersSound (connections : StreamId → Option MaxConnection) (nodeId : NodeId)
    (connector : Connector) : Prop where
  sends : ∀ flowId stream, connector.schedulers flowId = some (stream, .up) →
    ∃ connection, connections stream = some connection ∧ connection.opener = .source nodeId flowId
  answers : ∀ flowId stream, connector.schedulers flowId = some (stream, .down) →
    ∃ connection flow, connections stream = some connection ∧
      connection.stage = .destination flow ∧ flowId = FlowIdExt.reverse flow

namespace MaxNetwork

structure Sound (net : MaxNetwork) : Prop where
  unopened : ∀ stream, net.opened ≤ stream → net.connections stream = none
  each : ∀ stream connection, net.connections stream = some connection → connection.Sound
  fed : ∀ stream connection inbound header, net.connections stream = some connection →
    connection.opener = .relay inbound header → inbound < stream ∧ ∃ before flowId,
      net.connections inbound = some before ∧ before.stage = .relayed flowId stream ∧
        Joined before connection flowId header
  feeds : ∀ stream connection flowId next, net.connections stream = some connection →
    connection.stage = .relayed flowId next → ∃ header after,
      net.connections next = some after ∧ after.opener = .relay stream header
  schedulers : ∀ nodeId connector, net.connectors nodeId = some connector →
    SchedulersSound net.connections nodeId connector

variable {net : MaxNetwork}

@[simp] theorem set_connection_self (stream : StreamId) (connection : MaxConnection) :
    (net.setConnection stream connection).connections stream = some connection :=
  Function.update_self ..

theorem set_connection_ne {stream other : StreamId} (different : other ≠ stream)
    (connection : MaxConnection) :
    (net.setConnection stream connection).connections other = net.connections other :=
  Function.update_of_ne different ..

theorem set_connection_comm {stream other : StreamId} (different : other ≠ stream)
    (connection another : MaxConnection) :
    (net.setConnection other another).setConnection stream connection =
      (net.setConnection stream connection).setConnection other another := by
  simp only [setConnection, Function.update_comm different]

theorem found_set_connection {stream other : StreamId} {connection result : MaxConnection}
    (found : (net.setConnection stream connection).connections other = some result) :
    (other = stream ∧ result = connection) ∨
      (other ≠ stream ∧ net.connections other = some result) := by
  by_cases same : other = stream
  · subst same
    rw [set_connection_self] at found
    cases found
    exact .inl ⟨rfl, rfl⟩
  · rw [set_connection_ne same] at found
    exact .inr ⟨same, found⟩

end MaxNetwork

/-- What the neighbours of a connection in its tunnel rely on stays as it is. -/
structure MovesOn (before after : MaxConnection) : Prop where
  opener : after.opener = before.opener
  address : after.address = before.address
  fed : ∀ inbound header, before.opener = .relay inbound header →
    after.up.written = before.up.written ∧ after.down.received = before.down.received
  feeds : ∀ flowId next, before.stage = .relayed flowId next →
    after.request = before.request ∧ after.replies = before.replies ∧
      after.up.received = before.up.received ∧ after.down.written = before.down.written
  relayed : ∀ flowId next, after.stage = .relayed flowId next ↔ before.stage = .relayed flowId next
  ends : ∀ flowId, before.stage = .destination flowId → after.stage = .destination flowId

theorem Joined.outbound_moves {inbound before after : MaxConnection} {flowId : Nat}
    {header : Bool} {stream : StreamId} (joined : Joined inbound before flowId header)
    (moves : MovesOn before after) (opens : before.opener = .relay stream header) :
    Joined inbound after flowId header := by
  rcases moves.fed stream header opens with ⟨written, received⟩
  constructor
  case up => rw [written, joined.up]
  case down => rw [received, joined.down]
  case address => exact fun bare => moves.address.trans (joined.address bare)

theorem Joined.inbound_moves {before after outbound : MaxConnection} {flowId : Nat}
    {header : Bool} {next : StreamId} (joined : Joined before outbound flowId header)
    (moves : MovesOn before after) (relayed : before.stage = .relayed flowId next) :
    Joined after outbound flowId header := by
  rcases moves.feeds flowId next relayed with ⟨request, replies, received, written⟩
  constructor
  case up => rw [request, received, joined.up]
  case down => rw [replies, written, joined.down]
  case address => exact joined.address

theorem SchedulersSound.set_connection {net : MaxNetwork} {nodeId : NodeId} {connector : Connector}
    {stream : StreamId} {before after : MaxConnection}
    (sound : SchedulersSound net.connections nodeId connector)
    (found : net.connections stream = some before) (moves : MovesOn before after) :
    SchedulersSound (net.setConnection stream after).connections nodeId connector where
  sends flowId other stored := by
    rcases sound.sends flowId other stored with ⟨connection, foundOther, opens⟩
    by_cases same : other = stream
    · subst same
      rw [found] at foundOther
      cases foundOther
      exact ⟨after, MaxNetwork.set_connection_self .., moves.opener.trans opens⟩
    · exact ⟨connection, (MaxNetwork.set_connection_ne same after).trans foundOther, opens⟩
  answers flowId other stored := by
    rcases sound.answers flowId other stored with ⟨connection, flow, foundOther, ends, reversed⟩
    by_cases same : other = stream
    · subst same
      rw [found] at foundOther
      cases foundOther
      exact ⟨after, flow, MaxNetwork.set_connection_self .., moves.ends flow ends, reversed⟩
    · exact ⟨connection, flow, (MaxNetwork.set_connection_ne same after).trans foundOther, ends,
        reversed⟩

namespace MaxNetwork

variable {net : MaxNetwork}

/-- One connection moves on without disturbing its neighbours. -/
theorem Sound.set_connection (sound : net.Sound) {stream : StreamId}
    {before after : MaxConnection} (found : net.connections stream = some before)
    (moves : MovesOn before after) (own : after.Sound) :
    (net.setConnection stream after).Sound where
  unopened other beyond := by
    by_cases same : other = stream
    · subst same
      rw [sound.unopened other beyond] at found
      cases found
    · exact (set_connection_ne same after).trans (sound.unopened other beyond)
  each other connection foundOther := by
    cases found_set_connection foundOther with
    | inl here =>
      rw [here.2]
      exact own
    | inr there => exact sound.each other connection there.2
  fed other connection inbound header foundOther opens := by
    have link : ∃ earlier, net.connections other = some earlier ∧ earlier.opener = .relay inbound header ∧
        ∀ first flowId, Joined first earlier flowId header → Joined first connection flowId header := by
      cases found_set_connection foundOther with
      | inl here =>
        rcases here with ⟨rfl, rfl⟩
        have opened := moves.opener.symm.trans opens
        exact ⟨before, found, opened, fun _ _ joined => joined.outbound_moves moves opened⟩
      | inr there => exact ⟨connection, there.2, opens, fun _ _ joined => joined⟩
    rcases link with ⟨earlier, foundEarlier, opened, joins⟩
    rcases sound.fed other earlier inbound header foundEarlier opened with
      ⟨lower, first, flowId, foundFirst, relayed, joined⟩
    refine ⟨lower, ?_⟩
    by_cases same : inbound = stream
    · subst same
      rw [found] at foundFirst
      cases foundFirst
      exact ⟨after, flowId, set_connection_self .., (moves.relayed flowId other).mpr relayed,
        (joins _ flowId joined).inbound_moves moves relayed⟩
    · exact ⟨first, flowId, (set_connection_ne same after).trans foundFirst, relayed,
        joins _ flowId joined⟩
  feeds other connection flowId next foundOther relayed := by
    have link : ∃ earlier, net.connections other = some earlier ∧
        earlier.stage = .relayed flowId next := by
      cases found_set_connection foundOther with
      | inl here =>
        rcases here with ⟨rfl, rfl⟩
        exact ⟨before, found, (moves.relayed flowId next).mp relayed⟩
      | inr there => exact ⟨connection, there.2, relayed⟩
    rcases link with ⟨earlier, foundEarlier, relayedEarlier⟩
    rcases sound.feeds other earlier flowId next foundEarlier relayedEarlier with
      ⟨header, last, foundLast, opens⟩
    by_cases same : next = stream
    · subst same
      rw [found] at foundLast
      cases foundLast
      exact ⟨header, after, set_connection_self .., moves.opener.trans opens⟩
    · exact ⟨header, last, (set_connection_ne same after).trans foundLast, opens⟩
  schedulers nodeId connector running :=
    (sound.schedulers nodeId connector running).set_connection found moves

theorem Sound.set_connector (sound : net.Sound) (nodeId : NodeId) {connector : Option Connector}
    (own : ∀ running, connector = some running → SchedulersSound net.connections nodeId running) :
    (net.setConnector nodeId connector).Sound where
  unopened := sound.unopened
  each := sound.each
  fed := sound.fed
  feeds := sound.feeds
  schedulers other running found := by
    by_cases same : other = nodeId
    · subst same
      have now : (net.setConnector other connector).connectors other = connector :=
        Function.update_self ..
      exact own running (now.symm.trans found)
    · have still : (net.setConnector nodeId connector).connectors other = net.connectors other :=
        Function.update_of_ne same ..
      exact sound.schedulers other running (still.symm.trans found)

theorem Sound.fresh (sound : net.Sound) : net.connections net.opened = none :=
  sound.unopened net.opened (Nat.le_refl _)

theorem Sound.ne_opened (sound : net.Sound) {stream : StreamId} {connection : MaxConnection}
    (found : net.connections stream = some connection) : stream ≠ net.opened := by
  intro same
  rw [same, sound.fresh] at found
  cases found

theorem Sound.found_add (sound : net.Sound) {stream : StreamId} {connection : MaxConnection}
    (found : net.connections stream = some connection) (added : MaxConnection) :
    (net.addConnection added).connections stream = some connection :=
  (set_connection_ne (sound.ne_opened found) added).trans found

theorem Sound.schedulers_add (sound : net.Sound) {nodeId : NodeId} {connector : Connector}
    (own : SchedulersSound net.connections nodeId connector) (added : MaxConnection) :
    SchedulersSound (net.addConnection added).connections nodeId connector where
  sends flowId stream stored := by
    rcases own.sends flowId stream stored with ⟨connection, found, opens⟩
    exact ⟨connection, sound.found_add found added, opens⟩
  answers flowId stream stored := by
    rcases own.answers flowId stream stored with ⟨connection, flow, found, ends, reversed⟩
    exact ⟨connection, flow, sound.found_add found added, ends, reversed⟩

/-- A connection at the start of a tunnel. -/
theorem Sound.add_connection (sound : net.Sound) {added : MaxConnection} (own : added.Sound)
    (first : ∀ inbound header, added.opener ≠ .relay inbound header)
    (last : ∀ flowId next, added.stage ≠ .relayed flowId next) : (net.addConnection added).Sound where
  unopened other beyond := by
    have different : other ≠ net.opened := Nat.ne_of_gt (Nat.lt_of_succ_le beyond)
    exact (set_connection_ne different added).trans (sound.unopened other (Nat.le_of_succ_le beyond))
  each other connection found := by
    cases found_set_connection found with
    | inl here =>
      rw [here.2]
      exact own
    | inr there => exact sound.each other connection there.2
  fed other connection inbound header found opens := by
    cases found_set_connection found with
    | inl here =>
      rw [here.2] at opens
      exact absurd opens (first inbound header)
    | inr there =>
      rcases sound.fed other connection inbound header there.2 opens with
        ⟨lower, before, flowId, foundBefore, relayed, joined⟩
      exact ⟨lower, before, flowId, sound.found_add foundBefore added, relayed, joined⟩
  feeds other connection flowId next found relayed := by
    cases found_set_connection found with
    | inl here =>
      rw [here.2] at relayed
      exact absurd relayed (last flowId next)
    | inr there =>
      rcases sound.feeds other connection flowId next there.2 relayed with
        ⟨header, after, foundAfter, opens⟩
      exact ⟨header, after, sound.found_add foundAfter added, opens⟩
  schedulers nodeId connector running :=
    sound.schedulers_add (sound.schedulers nodeId connector running) added

theorem opened_not_relayed (listener : String → Option NodeId) (opener : Opener) (peer : PeerAddr)
    (address : String) (header : List Byte) (packets : List FramedPacket) (flowId : Nat)
    (next : StreamId) :
    (MaxConnection.opened listener opener peer address header packets).stage ≠
      .relayed flowId next := by
  intro relayed
  simp only [MaxConnection.opened] at relayed
  split_ifs at relayed

/-- The two connections that a connector joins, or that it copies bytes between. -/
structure Joins (net : MaxNetwork) (stream next : StreamId)
    (before inbound outbound : MaxConnection) : Prop where
  found : net.connections stream = some before
  lower : stream < next
  inboundSound : inbound.Sound
  outboundSound : outbound.Sound
  opener : inbound.opener = before.opener
  address : inbound.address = before.address
  fed : inbound.up.written = before.up.written ∧ inbound.down.received = before.down.received
  alone : ∀ flowId other, before.stage = .relayed flowId other → other = next
  passing : ∀ flowId, before.stage ≠ .destination flowId
  joined : ∃ flowId header, inbound.stage = .relayed flowId next ∧
    outbound.opener = .relay stream header ∧ Joined inbound outbound flowId header
  opens : ∀ after, net.connections next = some after → outbound.opener = after.opener
  feeds : ∀ after, net.connections next = some after → outbound.stage = after.stage ∧
    outbound.request = after.request ∧ outbound.replies = after.replies ∧
      outbound.up.received = after.up.received ∧ outbound.down.written = after.down.written
  new : net.connections next = none → ∀ flowId other, outbound.stage ≠ .relayed flowId other

/-- The network with both connections as they are then. -/
def join (net : MaxNetwork) (stream next : StreamId) (inbound outbound : MaxConnection)
    (opened : StreamId) : MaxNetwork :=
  { (net.setConnection stream inbound).setConnection next outbound with opened := opened }

section Joining

variable {stream next opened : StreamId} {before inbound outbound : MaxConnection}

theorem found_join {other : StreamId} {result : MaxConnection}
    (found : (net.join stream next inbound outbound opened).connections other = some result) :
    (other = next ∧ result = outbound) ∨ (other = stream ∧ result = inbound) ∨
      (other ≠ next ∧ other ≠ stream ∧ net.connections other = some result) := by
  have foundBoth : ((net.setConnection stream inbound).setConnection next outbound).connections other =
    some result := found
  cases found_set_connection foundBoth with
  | inl here => exact .inl here
  | inr there =>
    cases found_set_connection there.2 with
    | inl here => exact .inr (.inl here)
    | inr elsewhere => exact .inr (.inr ⟨there.1, elsewhere⟩)

theorem join_outbound : (net.join stream next inbound outbound opened).connections next = some outbound :=
  Function.update_self ..

theorem join_inbound (different : stream ≠ next) :
    (net.join stream next inbound outbound opened).connections stream = some inbound :=
  (set_connection_ne different outbound).trans (set_connection_self stream inbound)

theorem join_other {other : StreamId} (notNext : other ≠ next) (notStream : other ≠ stream) :
    (net.join stream next inbound outbound opened).connections other = net.connections other :=
  (set_connection_ne notNext outbound).trans (set_connection_ne notStream inbound)

theorem Sound.schedulers_join (joins : Joins net stream next before inbound outbound)
    {nodeId : NodeId} {connector : Connector}
    (own : SchedulersSound net.connections nodeId connector) :
    SchedulersSound (net.join stream next inbound outbound opened).connections nodeId
      connector where
  sends flowId other stored := by
    rcases own.sends flowId other stored with ⟨connection, found, source⟩
    by_cases isNext : other = next
    · subst isNext
      exact ⟨outbound, join_outbound, (joins.opens connection found).trans source⟩
    · by_cases isStream : other = stream
      · subst isStream
        rw [joins.found] at found
        cases found
        exact ⟨inbound, join_inbound isNext, joins.opener.trans source⟩
      · exact ⟨connection, (join_other isNext isStream).trans found, source⟩
  answers flowId other stored := by
    rcases own.answers flowId other stored with ⟨connection, flow, found, ends, reversed⟩
    by_cases isNext : other = next
    · subst isNext
      exact ⟨outbound, flow, join_outbound, (joins.feeds connection found).1.trans ends, reversed⟩
    · by_cases isStream : other = stream
      · subst isStream
        rw [joins.found] at found
        cases found
        exact absurd ends (joins.passing flow)
      · exact ⟨connection, flow, (join_other isNext isStream).trans found, ends, reversed⟩

theorem Sound.join (sound : net.Sound) (joins : Joins net stream next before inbound outbound)
    (above : next < opened) (grown : net.opened ≤ opened) :
    (net.join stream next inbound outbound opened).Sound := by
  rcases joins.joined with ⟨joinedFlow, joinedHeader, relayedNow, openedBy, joinedNow⟩
  have different : stream ≠ next := Nat.ne_of_lt joins.lower
  constructor
  case unopened =>
    intro other beyond
    have notNext : other ≠ next := Nat.ne_of_gt (above.trans_le beyond)
    have notStream : other ≠ stream := Nat.ne_of_gt (joins.lower.trans (above.trans_le beyond))
    rw [join_other notNext notStream]
    exact sound.unopened other (grown.trans beyond)
  case each =>
    intro other result found
    rcases found_join found with here | here | elsewhere
    · rw [here.2]
      exact joins.outboundSound
    · rw [here.2]
      exact joins.inboundSound
    · exact sound.each other result elsewhere.2.2
  case fed =>
    intro other result first header found opener
    rcases found_join found with here | here | elsewhere
    · rcases here with ⟨rfl, rfl⟩
      have same := openedBy.symm.trans opener
      cases same
      exact ⟨joins.lower, inbound, joinedFlow, join_inbound different, relayedNow, joinedNow⟩
    · rcases here with ⟨rfl, rfl⟩
      have openedBefore := joins.opener.symm.trans opener
      rcases sound.fed other before first header joins.found openedBefore with
        ⟨lower, earlier, flowId, foundFirst, relayed, joined⟩
      have notNext : first ≠ next := Nat.ne_of_lt (lower.trans joins.lower)
      refine ⟨lower, earlier, flowId, (join_other notNext (Nat.ne_of_lt lower)).trans foundFirst,
        relayed, ?_, ?_, ?_⟩
      · rw [joins.fed.1, joined.up]
      · rw [joins.fed.2, joined.down]
      · exact fun bare => joins.address.trans (joined.address bare)
    · rcases elsewhere with ⟨notNext, notStream, foundBefore⟩
      rcases sound.fed other result first header foundBefore opener with
        ⟨lower, earlier, flowId, foundFirst, relayed, joined⟩
      have notFirst : first ≠ stream := by
        intro same
        subst same
        rw [joins.found] at foundFirst
        cases foundFirst
        exact notNext (joins.alone flowId other relayed)
      by_cases isNext : first = next
      · subst isNext
        rcases joins.feeds earlier foundFirst with ⟨stage, request, replies, received, written⟩
        refine ⟨lower, outbound, flowId, join_outbound, stage.trans relayed, ?_, ?_, joined.address⟩
        · rw [request, received, joined.up]
        · rw [replies, written, joined.down]
      · exact ⟨lower, earlier, flowId, (join_other isNext notFirst).trans foundFirst, relayed, joined⟩
  case feeds =>
    intro other result flowId target found relayed
    rcases found_join found with here | here | elsewhere
    · rcases here with ⟨rfl, rfl⟩
      cases foundAfter : net.connections other with
      | none => exact absurd relayed (joins.new foundAfter flowId target)
      | some after =>
        have stage := (joins.feeds after foundAfter).1
        rcases sound.feeds other after flowId target foundAfter (stage.symm.trans relayed) with
          ⟨header, last, foundLast, opener⟩
        have later := (sound.fed target last other header foundLast opener).1
        have notNext : target ≠ other := Nat.ne_of_gt later
        have notStream : target ≠ stream := Nat.ne_of_gt (joins.lower.trans later)
        exact ⟨header, last, (join_other notNext notStream).trans foundLast, opener⟩
    · rcases here with ⟨rfl, rfl⟩
      have same := relayedNow.symm.trans relayed
      cases same
      exact ⟨joinedHeader, outbound, join_outbound, openedBy⟩
    · rcases elsewhere with ⟨notNext, notStream, foundBefore⟩
      rcases sound.feeds other result flowId target foundBefore relayed with
        ⟨header, last, foundLast, opener⟩
      by_cases isNext : target = next
      · subst isNext
        have stays := joins.opens last foundLast
        have same := stays.symm.trans openedBy
        rw [opener] at same
        cases same
        exact absurd rfl notStream
      · by_cases isStream : target = stream
        · subst isStream
          rw [joins.found] at foundLast
          cases foundLast
          exact ⟨header, inbound, join_inbound different, joins.opener.trans opener⟩
        · exact ⟨header, last, (join_other isNext isStream).trans foundLast, opener⟩
  case schedulers =>
    intro nodeId connector running
    exact Sound.schedulers_join joins (sound.schedulers nodeId connector running)

end Joining

/-! ## Every step -/

section Steps

variable {slot : JumpSlot} {listener : String → Option NodeId} {stream : StreamId}
  {connection : MaxConnection}

theorem Sound.lt_opened (sound : net.Sound) (found : net.connections stream = some connection) :
    stream < net.opened := by
  by_contra beyond
  rw [sound.unopened stream (Nat.le_of_not_lt beyond)] at found
  cases found

theorem Sound.relay (sound : net.Sound) (found : net.connections stream = some connection)
    {flowId : Nat} (asked : connection.stage = .requested flowId)
    (listener : String → Option NodeId) {header : Bool} (peer : PeerAddr) {address : String}
    (exit : header = false → address = externalServerAddr flowId) :
    ((net.setConnection stream
      { connection with stage := .relayed flowId net.opened }).addConnection
        (.opened listener (.relay stream header) peer address
          (if header then maxRequest flowId else []) [])).Sound := by
  have own := sound.each stream connection found
  rcases own.asking (by rw [asked]; rfl) with ⟨taken, answered, _⟩
  have lower := sound.lt_opened found
  have nothing : connection.up.received.drop connection.request = [] := by
    rw [← taken, ← connection.up.received_length, List.drop_length]
  have joins : Joins net stream net.opened connection
      { connection with stage := .relayed flowId net.opened }
      (.opened listener (.relay stream header) peer address
        (if header then maxRequest flowId else []) []) := by
    constructor
    case found => exact found
    case lower => exact lower
    case inboundSound => exact own.decide asked (.inl rfl) rfl
    case outboundSound =>
      apply MaxConnection.opened_sound
      intro _ _ opens
      cases opens
    case opener => rfl
    case address => rfl
    case fed => exact ⟨rfl, rfl⟩
    case alone =>
      intro flow other relayed
      rw [asked] at relayed
      cases relayed
    case passing =>
      intro flow ends
      rw [asked] at ends
      cases ends
    case joined =>
      refine ⟨flowId, header, rfl, rfl, ?_, ?_, exit⟩
      · rw [nothing]
        rfl
      · rw [answered]
        exact (List.append_nil _).symm
    case opens =>
      intro after foundAfter
      rw [sound.fresh] at foundAfter
      cases foundAfter
    case feeds =>
      intro after foundAfter
      rw [sound.fresh] at foundAfter
      cases foundAfter
    case new =>
      intro _ flow other
      apply opened_not_relayed
  exact sound.join joins (Nat.lt_succ_self _) (Nat.le_succ _)

theorem Sound.splice (sound : net.Sound) {next : StreamId} {inbound outbound : MaxConnection}
    {flowId : Nat} (found : net.connections stream = some inbound)
    (relayed : inbound.stage = .relayed flowId next)
    (foundNext : net.connections next = some outbound) :
    stream < next ∧ inbound.Sound ∧ outbound.Sound ∧
      ∃ header, outbound.opener = .relay stream header ∧ Joined inbound outbound flowId header := by
  rcases sound.feeds stream inbound flowId next found relayed with ⟨header, after, foundAfter, opens⟩
  rw [foundNext] at foundAfter
  cases foundAfter
  rcases sound.fed next outbound stream header foundNext opens with
    ⟨lower, before, flow, foundBefore, relayedBefore, joined⟩
  rw [found] at foundBefore
  cases foundBefore
  rw [relayed] at relayedBefore
  cases relayedBefore
  exact ⟨lower, sound.each _ _ found, sound.each _ _ foundNext, header, opens, joined⟩

theorem Sound.splice_up (sound : net.Sound) {next : StreamId} {inbound outbound : MaxConnection}
    {flowId : Nat} (count : Nat) (found : net.connections stream = some inbound)
    (relayed : inbound.stage = .relayed flowId next)
    (foundNext : net.connections next = some outbound) :
    ((net.setConnection stream { inbound with up := inbound.up.take count }).setConnection next
      { outbound with up := outbound.up.write (inbound.up.inFlight.take count) }).Sound := by
  rcases sound.splice found relayed foundNext with ⟨lower, own, ownNext, header, opens, joined⟩
  have started : inbound.request ≤ inbound.up.received.length :=
    own.started.trans_eq inbound.up.received_length.symm
  have written : (outbound.packetsUp ++ ([] : List FramedPacket)) = outbound.packetsUp :=
    List.append_nil _
  have outboundSound := @MaxConnection.Sound.write_up outbound ownNext
    (inbound.up.inFlight.take count) [] fun nodeId flow source => by
      rw [opens] at source
      cases source
  rw [written] at outboundSound
  have joins : Joins net stream next inbound { inbound with up := inbound.up.take count }
      { outbound with up := outbound.up.write (inbound.up.inFlight.take count) } := by
    constructor
    case found => exact found
    case lower => exact lower
    case inboundSound => exact own.take_up (by rw [relayed]; rfl) count
    case outboundSound => exact outboundSound
    case opener => rfl
    case address => rfl
    case fed => exact ⟨rfl, rfl⟩
    case alone =>
      intro flow other same
      rw [relayed] at same
      cases same
      rfl
    case passing =>
      intro flow ends
      rw [relayed] at ends
      cases ends
    case joined =>
      refine ⟨flowId, header, relayed, opens, ?_, joined.down, joined.address⟩
      rw [Pipe.written_write, Pipe.received_take, List.drop_append_of_le_length started,
        joined.up, List.append_assoc]
    case opens =>
      intro after foundAfter
      rw [foundNext] at foundAfter
      cases foundAfter
      rfl
    case feeds =>
      intro after foundAfter
      rw [foundNext] at foundAfter
      cases foundAfter
      exact ⟨rfl, rfl, rfl, Pipe.received_write _ _, rfl⟩
    case new =>
      intro none
      rw [foundNext] at none
      cases none
  exact sound.join joins (sound.lt_opened foundNext) (Nat.le_refl _)

theorem Sound.splice_down (sound : net.Sound) {next : StreamId} {inbound outbound : MaxConnection}
    {flowId : Nat} (count : Nat) (found : net.connections stream = some inbound)
    (relayed : inbound.stage = .relayed flowId next)
    (foundNext : net.connections next = some outbound) :
    ((net.setConnection next { outbound with down := outbound.down.take count }).setConnection stream
      { inbound with down := inbound.down.write (outbound.down.inFlight.take count) }).Sound := by
  rcases sound.splice found relayed foundNext with ⟨lower, own, ownNext, header, opens, joined⟩
  have inboundSound := @MaxConnection.Sound.write_down inbound own
    (outbound.down.inFlight.take count) [] (by rw [relayed]; rfl) fun flow ends => by
      rw [relayed] at ends
      cases ends
  have unsent : (inbound.packetsDown ++ ([] : List FramedPacket)) = inbound.packetsDown :=
    List.append_nil _
  rw [unsent] at inboundSound
  have joins : Joins net stream next inbound
      { inbound with down := inbound.down.write (outbound.down.inFlight.take count) }
      { outbound with down := outbound.down.take count } := by
    constructor
    case found => exact found
    case lower => exact lower
    case inboundSound => exact inboundSound
    case outboundSound => exact ownNext.take_down count
    case opener => rfl
    case address => rfl
    case fed => exact ⟨rfl, Pipe.received_write _ _⟩
    case alone =>
      intro flow other same
      rw [relayed] at same
      cases same
      rfl
    case passing =>
      intro flow ends
      rw [relayed] at ends
      cases ends
    case joined =>
      refine ⟨flowId, header, relayed, opens, joined.up, ?_, joined.address⟩
      rw [Pipe.written_write, Pipe.received_take, joined.down, List.append_assoc]
    case opens =>
      intro after foundAfter
      rw [foundNext] at foundAfter
      cases foundAfter
      rfl
    case feeds =>
      intro after foundAfter
      rw [foundNext] at foundAfter
      cases foundAfter
      exact ⟨rfl, rfl, rfl, rfl, rfl⟩
    case new =>
      intro none
      rw [foundNext] at none
      cases none
  rw [set_connection_comm (Nat.ne_of_gt lower)]
  exact sound.join joins (sound.lt_opened foundNext) (Nat.le_refl _)

theorem Sound.moves_up (sound : net.Sound) (found : net.connections stream = some connection)
    {bytes : List Byte} {packets : List FramedPacket}
    (source : ∀ nodeId flowId, connection.opener = .source nodeId flowId →
      bytes = frames packets ∧ ∀ framed ∈ packets, framed.packet.flowId = flowId)
    (starts : ∀ inbound header, connection.opener ≠ .relay inbound header) :
    (net.setConnection stream { connection with
      up := connection.up.write bytes
      packetsUp := connection.packetsUp ++ packets }).Sound := by
  apply sound.set_connection found _ ((sound.each stream connection found).write_up source)
  constructor
  case opener => rfl
  case address => rfl
  case fed => exact fun inbound header opens => absurd opens (starts inbound header)
  case feeds => exact fun _ _ _ => ⟨rfl, rfl, Pipe.received_write _ _, rfl⟩
  case relayed => exact fun _ _ => Iff.rfl
  case ends => exact fun _ ends => ends

theorem Sound.moves_down (sound : net.Sound) (found : net.connections stream = some connection)
    {bytes : List Byte} {packets : List FramedPacket} (answered : connection.stage.asking = false)
    (destination : ∀ flowId, connection.stage = .destination flowId →
      bytes = frames packets ∧ ∀ framed ∈ packets, framed.packet.flowId = FlowIdExt.reverse flowId)
    (ends : ∀ flowId next, connection.stage ≠ .relayed flowId next) :
    (net.setConnection stream { connection with
      down := connection.down.write bytes
      packetsDown := connection.packetsDown ++ packets }).Sound := by
  apply sound.set_connection found _
    ((sound.each stream connection found).write_down answered destination)
  constructor
  case opener => rfl
  case address => rfl
  case fed => exact fun _ _ _ => ⟨rfl, Pipe.received_write _ _⟩
  case feeds => exact fun flowId next relayed => absurd relayed (ends flowId next)
  case relayed => exact fun _ _ => Iff.rfl
  case ends => exact fun _ ends => ends

/-- While the request is read or decided on, nothing is passed on yet. -/
theorem Sound.moves_stage (sound : net.Sound) (found : net.connections stream = some connection)
    (asking : connection.stage.asking = true) {after : MaxConnection} (own : after.Sound)
    (opener : after.opener = connection.opener) (address : after.address = connection.address)
    (written : after.up.written = connection.up.written)
    (received : after.down.received = connection.down.received)
    (unrelayed : ∀ flowId next, after.stage ≠ .relayed flowId next) :
    (net.setConnection stream after).Sound := by
  have unpassed : ∀ flowId next, connection.stage ≠ .relayed flowId next := by
    intro flowId next relayed
    rw [relayed] at asking
    cases asking
  apply sound.set_connection found _ own
  constructor
  case opener => exact opener
  case address => exact address
  case fed => exact fun _ _ _ => ⟨written, received⟩
  case feeds => exact fun flowId next relayed => absurd relayed (unpassed flowId next)
  case relayed =>
    exact fun flowId next => iff_of_false (unrelayed flowId next) (unpassed flowId next)
  case ends =>
    intro flowId ends
    rw [ends] at asking
    cases asking

theorem Sound.drops (sound : net.Sound) (found : net.connections stream = some connection)
    {flowId : Nat} (asked : connection.stage = .requested flowId) :
    (net.setConnection stream { connection with stage := .dropped }).Sound := by
  have own : MaxConnection.Sound { connection with stage := .dropped } :=
    (sound.each _ _ found).decide asked (.inr rfl) rfl
  apply sound.moves_stage found (by rw [asked]; rfl) own rfl rfl rfl rfl
  intro flow next relayed
  cases relayed

end Steps

end MaxNetwork

/-! ## Stored schedulers -/

namespace Connector

variable {slot : JumpSlot} {pick : Finset NodeId → NodeId} {connector after : Connector} {flowId : Nat}

theorem handle_message_schedulers (message : ConnectorMessage) :
    (connector.handleMessage message).schedulers = connector.schedulers := by
  cases message <;> rfl

theorem next_hop_schedulers {hop : Except String NodeId}
    (looked : connector.nextHop slot pick flowId = some (after, hop)) :
    after.schedulers = connector.schedulers := by
  rcases Option.map_eq_some_iff.mp looked with ⟨answer, _, same⟩
  cases same
  rfl

theorem process_packet_cases {action : PacketAction}
    (handled : connector.processPacket slot pick flowId = some (after, action)) :
    after.schedulers = connector.schedulers ∧
      ∀ stream way, action = .send stream way → connector.schedulers flowId = some (stream, way) := by
  rw [processPacket] at handled
  cases stored : connector.schedulers flowId with
  | some scheduler =>
    rw [stored] at handled
    cases handled
    refine ⟨rfl, ?_⟩
    intro stream way same
    cases same
    rfl
  | none =>
    rw [stored] at handled
    rcases Option.map_eq_some_iff.mp handled with ⟨⟨looked, hop⟩, lookup, result⟩
    have same := next_hop_schedulers lookup
    cases hop with
    | error reason =>
      cases result
      exact ⟨same, fun _ _ sends => by cases sends⟩
    | ok nextHopId =>
      by_cases here : nextHopId = looked.localId
      · simp only [if_pos here] at result
        cases result
        exact ⟨same, fun _ _ sends => by cases sends⟩
      · cases address : looked.nodeAddresses nextHopId with
        | none =>
          simp only [if_neg here, address] at result
          cases result
          exact ⟨same, fun _ _ sends => by cases sends⟩
        | some remoteAddr =>
          simp only [if_neg here, address] at result
          split_ifs at result
          all_goals
            cases result
            exact ⟨same, fun _ _ sends => by cases sends⟩

theorem handle_inbound_schedulers {action : InboundAction}
    (handled : connector.handleInboundRequest slot pick flowId = some (after, action)) :
    after.schedulers = connector.schedulers := by
  rcases Option.bind_eq_some_iff.mp handled with ⟨⟨looked, hop⟩, lookup, result⟩
  have same := next_hop_schedulers lookup
  cases hop with
  | error reason =>
    cases result
    exact same
  | ok nextHopId =>
    simp only at result
    split_ifs at result
    · cases result
      exact same
    · cases address : looked.nodeAddresses nextHopId with
      | none =>
        simp only [address] at result
        cases result
        exact same
      | some remoteAddr =>
        simp only [address] at result
        cases result
        exact same

theorem handle_inbound_exit {address : String}
    (handled : connector.handleInboundRequest slot pick flowId = some (after, .relay address false)) :
    address = externalServerAddr flowId := by
  rcases Option.bind_eq_some_iff.mp handled with ⟨⟨looked, hop⟩, lookup, result⟩
  cases hop with
  | error reason => cases result
  | ok nextHopId =>
    simp only at result
    split_ifs at result
    · cases result
    · cases known : looked.nodeAddresses nextHopId with
      | none =>
        simp only [known] at result
        cases result
        rfl
      | some remoteAddr =>
        simp only [known] at result
        cases result

theorem found_store {flow : Nat} {stream : StreamId} {way : Way} {scheduler : StreamId × Way}
    (found : (connector.store flowId stream way).schedulers flow = some scheduler) :
    (flow = flowId ∧ scheduler = (stream, way)) ∨ connector.schedulers flow = some scheduler := by
  have updated : Function.update connector.schedulers flowId (some (stream, way)) flow =
    some scheduler := found
  by_cases same : flow = flowId
  · subst same
    rw [Function.update_self] at updated
    cases updated
    exact .inl ⟨rfl, rfl⟩
  · rw [Function.update_of_ne same] at updated
    exact .inr updated

end Connector

namespace SchedulersSound

variable {connections : StreamId → Option MaxConnection} {nodeId : NodeId}
  {connector after : Connector}

theorem congr (sound : SchedulersSound connections nodeId connector)
    (same : after.schedulers = connector.schedulers) : SchedulersSound connections nodeId after where
  sends flowId stream stored := sound.sends flowId stream (by rw [← same, stored])
  answers flowId stream stored := sound.answers flowId stream (by rw [← same, stored])

theorem store_up (sound : SchedulersSound connections nodeId connector) {flowId : Nat}
    {stream : StreamId} {connection : MaxConnection} (found : connections stream = some connection)
    (opens : connection.opener = .source nodeId flowId) :
    SchedulersSound connections nodeId (connector.store flowId stream .up) where
  sends flow other stored := by
    cases Connector.found_store stored with
    | inl new =>
      rcases new with ⟨rfl, same⟩
      cases same
      exact ⟨connection, found, opens⟩
    | inr old => exact sound.sends flow other old
  answers flow other stored := by
    cases Connector.found_store stored with
    | inl new => cases new.2
    | inr old => exact sound.answers flow other old

theorem store_down (sound : SchedulersSound connections nodeId connector) {flowId : Nat}
    {stream : StreamId} {connection : MaxConnection} (found : connections stream = some connection)
    (ends : connection.stage = .destination flowId) :
    SchedulersSound connections nodeId
      (connector.store (FlowIdExt.reverse flowId) stream .down) where
  sends flow other stored := by
    cases Connector.found_store stored with
    | inl new => cases new.2
    | inr old => exact sound.sends flow other old
  answers flow other stored := by
    cases Connector.found_store stored with
    | inl new =>
      rcases new with ⟨rfl, same⟩
      cases same
      exact ⟨connection, flowId, found, ends, rfl⟩
    | inr old => exact sound.answers flow other old

end SchedulersSound

/-! ## Runs -/

section Runs

variable {slot : JumpSlot} {listener : String → Option NodeId} {nodes : NodeId → Option LocalConfig}
  {net next : MaxNetwork} {label : MaxLabel} {nodeId : NodeId} {connector after : Connector}
  {pick : Finset NodeId → NodeId} {stream : StreamId} {connection : MaxConnection}

/-- A connector that went on with the schedulers it had. -/
theorem connector_kept (sound : net.Sound) (running : net.connectors nodeId = some connector)
    (same : after.schedulers = connector.schedulers) :
    (net.setConnector nodeId (some after)).Sound := by
  apply sound.set_connector
  intro current now
  cases now
  exact (sound.schedulers _ _ running).congr same

theorem connector_gone (sound : net.Sound) (nodeId : NodeId) : (net.setConnector nodeId none).Sound := by
  apply sound.set_connector
  intro connector none
  cases none

/-- A stored scheduler writes its packet where its flow goes on. -/
theorem packet_sent_sound (sound : net.Sound) (running : net.connectors nodeId = some connector)
    {packet : FramedPacket} {way : Way} (handled : connector.processPacket slot pick
      packet.packet.flowId = some (after, .send stream way))
    (found : net.connections stream = some connection) :
    ((net.setConnector nodeId (some after)).setConnection stream (connection.send packet way)).Sound := by
  rcases Connector.process_packet_cases handled with ⟨same, stored⟩
  have scheduler := stored stream way rfl
  have own := sound.schedulers _ _ running
  have moved := connector_kept sound running same
  cases way with
  | up =>
    rcases own.sends _ stream scheduler with ⟨_, foundSame, opens⟩
    rw [found] at foundSame
    cases foundSame
    apply moved.moves_up found
    · intro other flowId source
      rw [opens] at source
      cases source
      refine ⟨rfl, ?_⟩
      intro framed member
      rw [List.mem_singleton.mp member]
    · intro inbound header relay
      rw [opens] at relay
      cases relay
  | down =>
    rcases own.answers _ stream scheduler with ⟨_, flow, foundSame, ends, reversed⟩
    rw [found] at foundSame
    cases foundSame
    apply moved.moves_down found (by rw [ends]; rfl)
    · intro flowId destination
      rw [ends] at destination
      cases destination
      refine ⟨rfl, ?_⟩
      intro framed member
      rw [List.mem_singleton.mp member]
      exact reversed
    · intro flowId other relayed
      rw [ends] at relayed
      cases relayed

/-- A node opens a connection for a flow and stores its scheduler. -/
theorem connected_sound (sound : net.Sound) (running : net.connectors nodeId = some connector)
    {packet : FramedPacket} {packets : List FramedPacket} (peer : PeerAddr) (remoteAddr : String)
    (same : after.schedulers = connector.schedulers) (kept : packets = [packet] ∨ packets = []) :
    ((net.setConnector nodeId
      (some (after.store packet.packet.flowId net.opened .up))).addConnection
        (.opened listener (.source nodeId packet.packet.flowId) peer remoteAddr
          (maxRequest packet.packet.flowId) packets)).Sound := by
  have flows : ∀ framed ∈ packets, framed.packet.flowId = packet.packet.flowId := by
    intro framed member
    cases kept with
    | inl one =>
      rw [one] at member
      rw [List.mem_singleton.mp member]
    | inr none =>
      rw [none] at member
      cases member
  have added : (net.addConnection (.opened listener (.source nodeId packet.packet.flowId) peer
      remoteAddr (maxRequest packet.packet.flowId) packets)).Sound := by
    apply sound.add_connection
    · apply MaxConnection.opened_sound
      intro _ _ opens
      cases opens
      exact ⟨framed_flow_id_lt packet, rfl, flows⟩
    · intro inbound header opens
      cases opens
    · apply MaxNetwork.opened_not_relayed
  apply added.set_connector
  intro current now
  cases now
  apply SchedulersSound.store_up
  · exact (added.schedulers nodeId connector running).congr same
  · exact MaxNetwork.set_connection_self ..
  · rfl

/-- The server's next read of a request. -/
theorem request_read_sound (sound : net.Sound) {read : RequestRead}
    (found : net.connections stream = some connection) (reading : connection.stage = .reading read)
    (arrived : read.needs ≤ connection.up.inFlight.length) :
    (net.setConnection stream (connection.handled read)).Sound := by
  apply sound.moves_stage found (by rw [reading]; rfl)
    ((sound.each _ _ found).handled reading arrived) rfl rfl rfl (Pipe.received_write _ _)
  intro flowId next relayed
  simp only [MaxConnection.handled] at relayed
  generalize (handleRead connection.peer (connection.up.inFlight.take read.needs) read).2 = result
    at relayed
  cases result <;> cases relayed

/-- A node is the destination of the request and stores the scheduler of the way back. -/
theorem delivered_sound (sound : net.Sound) {flowId : Nat}
    (found : net.connections stream = some connection) (asked : connection.stage = .requested flowId)
    (running : net.connectors nodeId = some connector)
    (same : after.schedulers = connector.schedulers) :
    ((net.setConnector nodeId
      (some (after.store (FlowIdExt.reverse flowId) stream .down))).setConnection stream
        { connection with stage := .destination flowId }).Sound := by
  have decided : (net.setConnection stream
      { connection with stage := .destination flowId }).Sound := by
    have own : MaxConnection.Sound { connection with stage := .destination flowId } :=
      (sound.each _ _ found).decide asked (.inl rfl) rfl
    apply sound.moves_stage found (by rw [asked]; rfl) own rfl rfl rfl rfl
    intro flow next relayed
    cases relayed
  apply decided.set_connector
  intro current now
  cases now
  apply SchedulersSound.store_down
  · exact (decided.schedulers nodeId connector running).congr same
  · exact MaxNetwork.set_connection_self ..
  · rfl

/-- A destination or a server outside reads. -/
theorem taken_up_sound (sound : net.Sound) (count : Nat)
    (found : net.connections stream = some connection)
    (ends : (∃ flowId, connection.stage = .destination flowId) ∨ connection.stage = .server) :
    (net.setConnection stream { connection with up := connection.up.take count }).Sound := by
  have answered : connection.stage.asking = false := by
    cases ends with
    | inl destination =>
      rcases destination with ⟨flowId, ends⟩
      rw [ends]
      rfl
    | inr server =>
      rw [server]
      rfl
  apply sound.set_connection found _ ((sound.each _ _ found).take_up answered count)
  constructor
  case opener => rfl
  case address => rfl
  case fed => exact fun _ _ _ => ⟨rfl, rfl⟩
  case feeds =>
    intro flowId next relayed
    cases ends with
    | inl destination =>
      rcases destination with ⟨_, ends⟩
      rw [relayed] at ends
      cases ends
    | inr server =>
      rw [relayed] at server
      cases server
  case relayed => exact fun _ _ => Iff.rfl
  case ends => exact fun _ ends => ends

/-- A client or a source node reads. -/
theorem taken_down_sound (sound : net.Sound) (count : Nat)
    (found : net.connections stream = some connection)
    (starts : connection.opener = .client ∨
      ∃ nodeId flowId, connection.opener = .source nodeId flowId) :
    (net.setConnection stream { connection with down := connection.down.take count }).Sound := by
  have unrelayed : ∀ inbound header, connection.opener ≠ .relay inbound header := by
    intro inbound header relay
    rcases starts with client | ⟨nodeId, flowId, source⟩
    · rw [relay] at client
      cases client
    · rw [relay] at source
      cases source
  apply sound.set_connection found _ ((sound.each _ _ found).take_down count)
  constructor
  case opener => rfl
  case address => rfl
  case fed => exact fun inbound header relay => absurd relay (unrelayed inbound header)
  case feeds => exact fun _ _ _ => ⟨rfl, rfl, rfl, rfl⟩
  case relayed => exact fun _ _ => Iff.rfl
  case ends => exact fun _ ends => ends

theorem sound_step (sound : net.Sound) (step : MaxStep slot listener net label next) : next.Sound := by
  cases step with
  | control message running =>
    exact connector_kept sound running (Connector.handle_message_schedulers message)
  | sends running picks handled found => exact packet_sent_sound sound running handled found
  | connects peer packets running picks handled kept =>
    exact connected_sound sound running peer _ (Connector.process_packet_cases handled).1 kept
  | drops running picks handled unsent =>
    exact connector_kept sound running (Connector.process_packet_cases handled).1
  | fails running picks handled => exact connector_gone sound _
  | clientConnects peer address =>
    apply sound.add_connection
    · apply MaxConnection.opened_sound
      intro _ _ opens
      cases opens
    · intro inbound header opens
      cases opens
    · apply MaxNetwork.opened_not_relayed
  | clientWrites bytes found client =>
    rename_i stream connection
    have moved := @MaxNetwork.Sound.moves_up net stream connection sound found bytes []
      (fun _ _ source => by rw [client] at source; cases source)
      (fun _ _ relay => by rw [client] at relay; cases relay)
    rw [List.append_nil] at moved
    exact moved
  | accepts found server waiting free =>
    apply sound.moves_stage found (by rw [waiting]; rfl) ((sound.each _ _ found).accept waiting) rfl rfl
      rfl rfl
    intro flowId next relayed
    cases relayed
  | reads found reading arrived => exact request_read_sound sound found reading arrived
  | delivers found server asked running picks handled =>
    exact delivered_sound sound found asked running (Connector.handle_inbound_schedulers handled)
  | relays peer found server asked running picks handled =>
    have moved := connector_kept sound running (Connector.handle_inbound_schedulers handled)
    apply moved.relay found asked listener peer
    intro bare
    subst bare
    exact Connector.handle_inbound_exit handled
  | refuses found server asked running picks handled =>
    exact (connector_kept sound running (Connector.handle_inbound_schedulers handled)).drops found asked
  | inboundFails found server asked running picks handled =>
    exact (connector_gone sound _).drops found asked
  | splicesUp count found relayed foundNext => exact sound.splice_up count found relayed foundNext
  | splicesDown count found relayed foundNext => exact sound.splice_down count found relayed foundNext
  | takesUp count found ends => exact taken_up_sound sound count found ends
  | serverWrites bytes found server =>
    rename_i stream connection
    have moved := @MaxNetwork.Sound.moves_down net stream connection sound found bytes []
      (by rw [server]; rfl) (fun _ ends => by rw [server] at ends; cases ends)
      (fun _ _ relayed => by rw [server] at relayed; cases relayed)
    rw [List.append_nil] at moved
    exact moved
  | takesDown count found starts => exact taken_down_sound sound count found starts

theorem sound_of_reachable (reachable : (maxMode slot listener nodes).Reachable net) : net.Sound := by
  apply TransitionSystem.invariant_of_reachable _ _ reachable
  · intro start initial
    cases initial
    constructor
    case unopened => exact fun _ _ => rfl
    case each => exact fun _ _ none => by cases none
    case fed => exact fun _ _ _ _ none => by cases none
    case feeds => exact fun _ _ _ _ none => by cases none
    case schedulers =>
      intro nodeId connector running
      rcases Option.map_eq_some_iff.mp running with ⟨config, _, rfl⟩
      constructor
      · intro flowId stream stored
        cases stored
      · intro flowId stream stored
        cases stored
  · intro before label after sound step
    exact sound_step sound step

end Runs

end Nextmini.Node
