import Nextmini.Node.MaxTunnels

/-!
# Delivery through Max tunnels

What comes out of a tunnel at its far end is what went in behind the request, and what the near end
reads are the answers to its request and then what the far end writes. Of the packets that a source
node sends, its destination reads the first ones and no others, and all of them once nothing is in
flight.
-/

namespace Nextmini.Node

open Nextmini.Library Nextmini.Library.BigEndian Nextmini.Library.ByteStream
open Nextmini.Library.PipeChain Nextmini.Packets
open Nextmini.Routing (NodeId LocalConfig JumpSlot RoutingTable RoutingTableEntry RouteKey
  InstalledRoutes defaultConfig keyForFlow invalidNode hopsOfRoute copyNextHops selectUnicast)

set_option autoImplicit false

/-! ## Packets of a cut stream -/

theorem read_packet_append {stream rest : List Byte} {packet : Packet}
    (read : readPacket stream = some (packet, rest)) (more : List Byte) :
    readPacket (stream ++ more) = some (packet, rest ++ more) := by
  rcases Option.bind_eq_some_iff.mp read with ⟨⟨lenBuf, later⟩, header, body⟩
  simp only at body
  split_ifs at body with bounds
  rcases Option.bind_eq_some_iff.mp body with ⟨⟨buf, last⟩, frame, same⟩
  cases same
  have first := read_exact_iff.mp header
  have second := read_exact_iff.mp frame
  have headerAgain : readExact frameLenBytes (stream ++ more) = some (lenBuf, later ++ more) :=
    read_exact_iff.mpr ⟨by rw [first.1, List.append_assoc], first.2⟩
  have frameAgain : readExact (decode32 lenBuf).toNat (later ++ more) = some (buf, last ++ more) :=
    read_exact_iff.mpr ⟨by rw [second.1, List.append_assoc], second.2⟩
  rw [readPacket, headerAgain]
  simp only [Option.bind_eq_bind, Option.bind_some, if_neg bounds, frameAgain]

theorem frames_cons (framed : FramedPacket) (others : List FramedPacket) :
    frames (framed :: others) = (packetSlices framed.packet).flatten ++ frames others := by
  rw [frames, List.flatMap_cons, List.flatten_append]
  rfl

theorem read_frames (framed : FramedPacket) (others : List FramedPacket) :
    readPacket (frames (framed :: others)) = some (framed.packet, frames others) := by
  rw [frames_cons]
  exact read_packet_framed framed.minimum framed.fits (frames others)

theorem frames_cut (packets : List FramedPacket) {front back : List Byte}
    (cut : frames packets = front ++ back) : ∃ count rest,
      LongestFramed front ((packets.take count).map FramedPacket.packet) rest ∧
        (back = [] → count = packets.length ∧ rest = []) := by
  induction packets generalizing front with
  | nil =>
    rcases List.append_eq_nil_iff.mp cut.symm with ⟨rfl, rfl⟩
    exact ⟨0, [], ⟨rfl, rfl⟩, fun _ => ⟨rfl, rfl⟩⟩
  | cons framed others induction =>
    have whole := read_frames framed others
    cases read : readPacket front with
    | none =>
      refine ⟨0, front, ⟨rfl, read⟩, ?_⟩
      intro all
      rw [all, List.append_nil] at cut
      rw [cut, read] at whole
      cases whole
    | some both =>
      rcases both with ⟨packet, later⟩
      have again := read_packet_append read back
      rw [← cut, whole, Option.some.injEq, Prod.mk.injEq] at again
      rcases again with ⟨rfl, behind⟩
      rcases induction behind with ⟨count, rest, longest, drained⟩
      refine ⟨count + 1, rest, ⟨?_, longest.2⟩, ?_⟩
      · rw [List.take_succ_cons, List.map_cons]
        exact read_packets_cons.mpr ⟨later, read, longest.1⟩
      · intro all
        rcases drained all with ⟨rfl, empty⟩
        exact ⟨rfl, empty⟩

/-! ## Tunnels -/

def MaxConnection.upLeg (connection : MaxConnection) : Leg Byte := ⟨connection.up, connection.request⟩

def MaxConnection.downLeg (connection : MaxConnection) : Leg Byte :=
  ⟨connection.down, connection.replies.length⟩

/-- The second connection was opened for the first one, behind a header. -/
def Spliced (net : MaxNetwork) (flowId : Nat) (connection next : MaxConnection) : Prop :=
  ∃ stream target, net.connections stream = some connection ∧
    connection.stage = .relayed flowId target ∧ net.connections target = some next ∧
      next.opener = .relay stream true

/-- The connections a flow is led through, from where its bytes first stand behind a request. -/
structure Tunnel (net : MaxNetwork) (flowId : Nat) (connections : List MaxConnection)
    (first last : MaxConnection) : Prop where
  head : connections.head? = some first
  getLast : connections.getLast? = some last
  spliced : connections.IsChain (Spliced net flowId)
  accepted : ∀ connection ∈ connections, (∃ stream, net.connections stream = some connection) ∧
    connection.stage.outcome = some (.accepted flowId)
  start : ∀ inbound, first.opener ≠ .relay inbound true

section Tunnels

variable {net : MaxNetwork} {flowId : Nat} {connections : List MaxConnection}
  {first last : MaxConnection}

/-- A connection with a header was accepted for the flow of the connection it was opened for. -/
theorem spliced_feeds (sound : net.Sound) {stream inbound : StreamId}
    {connection : MaxConnection} {accepted : Nat} (found : net.connections stream = some connection)
    (outcome : connection.stage.outcome = some (.accepted accepted))
    (opens : connection.opener = .relay inbound true) :
    ∃ before, net.connections inbound = some before ∧
      before.stage = .relayed accepted stream ∧ connection.replies = [] ∧
        connection.up.written.drop connection.request =
          before.up.received.drop before.request ∧
        before.down.written = before.replies ++ connection.down.received ∧ inbound < stream := by
  rcases sound.fed stream connection inbound true found opens with
    ⟨lower, before, flow, foundBefore, relayed, joined⟩
  have ownBefore := sound.each inbound before foundBefore
  have own := sound.each stream connection found
  have fits : flow < 2 ^ 128 :=
    request_flow_id_lt (reads_accepted (ownBefore.reads _ (by rw [relayed]; rfl)))
  have reads := own.reads _ outcome
  have written : connection.up.written =
      maxRequest flow ++ before.up.received.drop before.request := joined.up
  rw [written] at reads
  rcases header_accepted reads fits with ⟨rfl, unanswered, behind⟩
  rw [← written] at behind
  exact ⟨before, foundBefore, relayed, unanswered, behind, joined.down, lower⟩

theorem tunnel_exists (sound : net.Sound) {stream : StreamId}
    (found : net.connections stream = some last)
    (outcome : last.stage.outcome = some (.accepted flowId)) :
    ∃ connections first, Tunnel net flowId connections first last := by
  induction stream using Nat.strong_induction_on generalizing last with
  | _ stream induction =>
    by_cases relayed : ∃ inbound, last.opener = .relay inbound true
    · rcases relayed with ⟨inbound, opens⟩
      rcases spliced_feeds sound found outcome opens with
        ⟨before, foundBefore, stage, _, _, _, lower⟩
      rcases induction inbound lower foundBefore (by rw [stage]; rfl) with
        ⟨connections, first, tunnel⟩
      refine ⟨connections ++ [last], first, ?_⟩
      constructor
      case head =>
        cases connections with
        | nil => cases tunnel.head
        | cons connection others => exact tunnel.head
      case getLast => exact List.getLast?_concat
      case spliced =>
        refine List.isChain_append.mpr ⟨tunnel.spliced, List.isChain_singleton last, ?_⟩
        intro connection final next single
        rw [tunnel.getLast] at final
        cases final
        cases single
        exact ⟨inbound, stream, foundBefore, stage, found, opens⟩
      case accepted =>
        intro connection member
        cases List.mem_append.mp member with
        | inl earlier => exact tunnel.accepted connection earlier
        | inr here =>
          rw [List.mem_singleton.mp here]
          exact ⟨⟨stream, found⟩, outcome⟩
      case start => exact tunnel.start
    · refine ⟨[last], last, ?_⟩
      constructor
      case head => rfl
      case getLast => rfl
      case spliced => exact List.isChain_singleton last
      case accepted =>
        intro connection member
        rw [List.mem_singleton.mp member]
        exact ⟨⟨stream, found⟩, outcome⟩
      case start => exact fun inbound opens => relayed ⟨inbound, opens⟩

theorem replies_first (sound : net.Sound) {stream : StreamId} {connection : MaxConnection}
    (found : net.connections stream = some connection) {accepted : Nat}
    (outcome : connection.stage.outcome = some (.accepted accepted)) :
    connection.replies ++ connection.downLeg.content = connection.down.written := by
  have own := sound.each stream connection found
  have front : ∃ rest, connection.down.written = connection.replies ++ rest := by
    cases stage : connection.stage with
    | requested flow => exact ⟨[], by rw [(own.asking (by rw [stage]; rfl)).2.1, List.append_nil]⟩
    | destination flow => exact ⟨_, (own.destination flow stage).1⟩
    | relayed flow next =>
      rcases sound.feeds stream connection flow next found stage with ⟨header, after, foundAfter, opens⟩
      rcases sound.fed next after stream header foundAfter opens with
        ⟨_, before, _, foundBefore, _, joined⟩
      rw [found] at foundBefore
      cases foundBefore
      exact ⟨_, joined.down⟩
    | backlog =>
      rw [stage] at outcome
      cases outcome
    | reading read =>
      rw [stage] at outcome
      cases outcome
    | dropped =>
      rw [stage] at outcome
      cases outcome
    | server =>
      rw [stage] at outcome
      cases outcome
  rcases front with ⟨rest, written⟩
  simp only [Leg.content, MaxConnection.downLeg, written, List.drop_left]

namespace Tunnel

variable (sound : net.Sound) (tunnel : Tunnel net flowId connections first last)

include sound tunnel

theorem feeds : connections.IsChain fun connection next =>
    Feeds connection.upLeg next.upLeg ∧ Feeds next.downLeg connection.downLeg := by
  apply List.IsChain.imp_of_mem_imp _ tunnel.spliced
  intro connection next member memberNext spliced
  rcases spliced with ⟨stream, target, found, relayed, foundNext, opens⟩
  have outcome := (tunnel.accepted next memberNext).2
  rcases spliced_feeds sound foundNext outcome opens with
    ⟨before, foundBefore, _, unanswered, behind, answered, _⟩
  rw [found] at foundBefore
  cases foundBefore
  have own := sound.each stream connection found
  refine ⟨⟨own.started, behind⟩, ⟨?_, ?_⟩⟩
  · rw [MaxConnection.downLeg, unanswered]
    exact Nat.zero_le _
  · simp only [Leg.content, Leg.passed, MaxConnection.downLeg, unanswered, answered]
    exact List.drop_left

/-- What went in behind the request has come out at the end or is in flight. -/
theorem up : first.upLeg.content = last.upLeg.passed ++
    connections.reverse.flatMap fun connection => connection.up.inFlight := by
  have split : connections = connections.dropLast ++ [last] :=
    (List.dropLast_append_getLast? last tunnel.getLast).symm
  have legs : connections.map MaxConnection.upLeg =
      connections.dropLast.map MaxConnection.upLeg ++ [last.upLeg] := by
    rw [← List.map_singleton, ← List.map_append, ← split]
  have chain : (connections.map MaxConnection.upLeg).IsChain Feeds :=
    (List.isChain_map _).mpr ((tunnel.feeds sound).imp fun _ _ both => both.1)
  have head : (connections.map MaxConnection.upLeg).head? = some first.upLeg := by
    rw [List.head?_map, tunnel.head]
    rfl
  rw [legs] at chain head
  have member : last ∈ connections := List.mem_of_getLast? tunnel.getLast
  rcases (tunnel.accepted last member).1 with ⟨stream, found⟩
  have started := (sound.each stream last found).started
  have along := content_along chain head
  rw [last.upLeg.content_eq started, ← List.map_reverse, List.flatMap_map] at along
  rw [along, List.append_assoc]
  congr 1
  conv_rhs => rw [split]
  rw [List.reverse_append, List.reverse_singleton, List.flatMap_append, List.flatMap_singleton]
  rfl

/-- What the near end has read or is in flight to it are its answers and what the far end wrote. -/
theorem down : first.replies ++ last.downLeg.content = first.down.received ++
    connections.flatMap fun connection => connection.down.inFlight := by
  have split : ∃ rest, connections = first :: rest := by
    cases connections with
    | nil => cases tunnel.head
    | cons connection rest =>
      cases tunnel.head
      exact ⟨rest, rfl⟩
  rcases split with ⟨rest, split⟩
  have legs : (connections.map MaxConnection.downLeg).reverse =
      (rest.map MaxConnection.downLeg).reverse ++ [first.downLeg] := by
    rw [split, List.map_cons, List.reverse_cons]
  have chain : (connections.map MaxConnection.downLeg).reverse.IsChain Feeds :=
    List.isChain_reverse.mpr
      ((List.isChain_map _).mpr ((tunnel.feeds sound).imp fun _ _ both => both.2))
  have head : (connections.map MaxConnection.downLeg).reverse.head? = some last.downLeg := by
    rw [List.head?_reverse, List.getLast?_map, tunnel.getLast]
    rfl
  rw [legs] at chain head
  have along := content_along chain head
  rw [List.reverse_reverse, List.flatMap_map] at along
  have member : first ∈ connections := List.mem_of_head? tunnel.head
  rcases tunnel.accepted first member with ⟨⟨stream, found⟩, outcome⟩
  rw [along, ← List.append_assoc, replies_first sound found outcome, ← first.down.received_in_flight,
    split, List.flatMap_cons, List.append_assoc]
  rfl

end Tunnel

end Tunnels

/-! ## A tunnel of two connections, and one that leads out -/

def wordFlow : Nat := 0x0a000001 <<< 96 ||| 0x0a000002 <<< 64

def directRoute : List RoutingTableEntry := [⟨1, [2], 1, 2⟩]

def routed (nodeId : NodeId) : Connector :=
  ((Connector.new nodeId defaultConfig).handleMessage
    (.updateRoutingTable directRoute)).handleMessage .connectTcpMaxClient

def addressed : Connector := (routed 1).handleMessage (.addNodeAddress 2 "b")

def sampleListener (address : String) : Option NodeId :=
  if address = "a" then some 1 else if address = "b" then some 2 else none

def soleFrame : FramedPacket where
  vec := [0x45, 0, 0, 0, 0, 0, 0, 0, 0, 6, 0, 0, 10, 0, 0, 1, 10, 0, 0, 2, 0, 0, 0, 0]
  minimum := by decide
  fits := by decide

def answerFrame : FramedPacket where
  vec := [0x45, 0, 0, 0, 0, 0, 0, 0, 0, 6, 0, 0, 10, 0, 0, 2, 10, 0, 0, 1, 0, 0, 0, 0]
  minimum := by decide
  fits := by decide

theorem answer_frame_flow : answerFrame.packet.flowId = FlowIdExt.reverse wordFlow := by decide

theorem direct_hop_found : ∃ table, (routed 1).routingTable.getNextHopByFlow (fun _ _ => 0)
    (BitVec.ofNat 128 wordFlow) = some (table, .ok [2].toFinset) := by
  have valid : BitVec.ofNat 128 wordFlow ≠ Nextmini.Routing.invalidFlowId := by decide
  have source : defaultConfig.ipToNodeId (Nextmini.Routing.srcIp (BitVec.ofNat 128 wordFlow)) = 1 := by
    decide
  have destination :
      defaultConfig.ipToNodeId (Nextmini.Routing.dstIp (BitVec.ofNat 128 wordFlow)) = 2 := by
    decide
  generalize tableIs : (routed 1).routingTable = table
  have key : keyForFlow table.config table.groupDir (BitVec.ofNat 128 wordFlow) none =
      some (.unicast 1 2) := by
    have unkeyed : keyForFlow defaultConfig ∅ (BitVec.ofNat 128 wordFlow) none =
        some (.unicast 1 2) := by
      simp [keyForFlow, valid, LocalConfig.tryExtractNodeIdsFromFlow, source, destination, invalidNode]
    rw [← tableIs]
    exact unkeyed
  have installed : table.installed.availableRoutes[RouteKey.unicast 1 2]? = some [1] ∧
      table.installed.routeNextHop[1]? = some [2] := by
    rw [← tableIs]
    simp [routed, Connector.handleMessage, Connector.new, directRoute, RoutingTable.installRoutes,
      RoutingTable.new, InstalledRoutes.installRoutes, InstalledRoutes.purge, InstalledRoutes.empty,
      InstalledRoutes.addRoute]
  have uncached : table.cache[BitVec.ofNat 128 wordFlow]? = none := by
    rw [← tableIs]
    simp [routed, Connector.handleMessage, Connector.new, RoutingTable.installRoutes,
      RoutingTable.new]
  have usable : invalidNode ∉ [2] := by decide
  exists { table with cache := table.cache.insert (BitVec.ofNat 128 wordFlow) 1 }
  simp only [RoutingTable.getNextHopByFlow, RoutingTable.getNextHopsByFlow,
    RoutingTable.getNextHopsByFlowAndTree, if_neg valid, key, RoutingTable.lookupKey,
    RoutingTable.cachedHops, uncached, RoutingTable.lookupSelected, RoutingTable.selectRouteForKey,
    selectUnicast, installed.1, hopsOfRoute, installed.2, copyNextHops, if_neg usable,
    Option.bind_eq_bind, Option.bind_none, Option.bind_some, Option.map_some]
  rfl

theorem picks_exist : ∃ pick : Finset NodeId → NodeId, Picks pick ∧ pick [2].toFinset = 2 := by
  classical
  have picks : Picks fun hops => if present : hops.Nonempty then present.choose else 0 := by
    intro hops present
    simp only [dif_pos present]
    exact present.choose_spec
  have present : [2].toFinset.Nonempty := ⟨2, by simp⟩
  exact ⟨_, picks, by simpa using picks [2].toFinset present⟩

theorem direct_next_hop {pick : Finset NodeId → NodeId} {table : RoutingTable}
    {connector : Connector} (same : connector.routingTable = (routed 1).routingTable)
    (looked : (routed 1).routingTable.getNextHopByFlow (fun _ _ => 0) (BitVec.ofNat 128 wordFlow) =
      some (table, .ok [2].toFinset)) (chosen : pick [2].toFinset = 2) :
    connector.nextHop (fun _ _ => 0) pick wordFlow =
      some ({ connector with routingTable := table }, .ok 2) := by
  rw [Connector.nextHop, same, looked]
  simp only [Option.map_some, Except.map, chosen]

theorem backlog_not_serving {net : MaxNetwork} {connection : MaxConnection}
    (alone : ∀ stream, net.connections stream = none) (waiting : connection.stage = .backlog)
    (nodeId : NodeId) : ¬(net.addConnection connection).Serving nodeId := by
  intro serving
  rcases serving with ⟨stream, other, read, found, _, reading⟩
  cases MaxNetwork.found_set_connection found with
  | inl here =>
    rw [here.2, waiting] at reading
    cases reading
  | inr there =>
    rw [alone stream] at there
    cases there.2

theorem stored_packet_sent {slot : JumpSlot} {pick : Finset NodeId → NodeId} {connector : Connector}
    {flowId : Nat} {stream : StreamId} {way : Way} :
    (connector.store flowId stream way).processPacket slot pick flowId =
      some (connector.store flowId stream way, .send stream way) := by
  have stored : (connector.store flowId stream way).schedulers flowId = some (stream, way) :=
    Function.update_self _ _ _
  rw [Connector.processPacket, stored]

/-- A client's packet goes over two connections to node 2, which answers it. -/
theorem two_hop_run : ∃ net last,
    (maxMode (fun _ _ => 0) sampleListener fun _ => some defaultConfig).Reachable net ∧
      net.connections 1 = some last ∧ last.stage = .destination wordFlow ∧
        last.opener = .relay 0 true ∧ last.up.received.drop last.request = frames [soleFrame] ∧
          last.packetsDown = [answerFrame] ∧
            ∀ stream first, net.connections stream = some first → first.opener ≠ .relay 0 true →
              first.down.received = frames [answerFrame] := by
  rcases direct_hop_found with ⟨table, looked⟩
  rcases picks_exist with ⟨pick, picks, chosen⟩
  have relays : addressed.handleInboundRequest (fun _ _ => 0) pick wordFlow =
      some ({ addressed with routingTable := table }, .relay "b" true) := by
    have address : addressed.nodeAddresses 2 = some "b" := rfl
    have away : (2 : NodeId) ≠ addressed.localId := by decide
    have client : addressed.tcpMaxClient = true := rfl
    have hop : addressed.nextHop (fun _ _ => 0) pick wordFlow = _ := direct_next_hop rfl looked chosen
    rw [Connector.handleInboundRequest, hop]
    simp only [Option.bind_some, if_pos client, if_neg away, address]
  have delivers : (routed 2).handleInboundRequest (fun _ _ => 0) pick wordFlow =
      some ({ routed 2 with routingTable := table }, .destination) := by
    have here : 2 = (routed 2).localId := rfl
    have client : (routed 2).tcpMaxClient = true := rfl
    have hop : (routed 2).nextHop (fun _ _ => 0) pick wordFlow = _ := direct_next_hop rfl looked chosen
    rw [Connector.handleInboundRequest, hop]
    simp only [Option.bind_some, if_pos client, if_pos here]
  have started : (maxMode (fun _ _ => 0) sampleListener fun _ => some defaultConfig).Reachable _ :=
    TransitionSystem.reachable_of_initial rfl
  have firstRoutes := started.step
    (show MaxStep _ _ _ (.control 1 (.updateRoutingTable directRoute)) _ from .control _ rfl)
  have firstClient := firstRoutes.step
    (show MaxStep _ _ _ (.control 1 .connectTcpMaxClient) _ from .control _ rfl)
  have firstAddress := firstClient.step
    (show MaxStep _ _ _ (.control 1 (.addNodeAddress 2 "b")) _ from .control _ rfl)
  have nextRoutes := firstAddress.step
    (show MaxStep _ _ _ (.control 2 (.updateRoutingTable directRoute)) _ from .control _ rfl)
  have nextClient := nextRoutes.step
    (show MaxStep _ _ _ (.control 2 .connectTcpMaxClient) _ from .control _ rfl)
  have opened := nextClient.step (show MaxStep _ _ _ (.client .v6 "a") _ from .clientConnects .v6 "a")
  have accepted := opened.step (show MaxStep _ _ _ (.accept 0) _ from
    .accepts (show _ = some _ from rfl) (show _ = some 1 from rfl) rfl
      (backlog_not_serving (fun _ => rfl) rfl 1))
  have written := accepted.step
    (show MaxStep _ _ _ (.write 0 (maxRequest wordFlow ++ frames [soleFrame])) _ from
      .clientWrites _ (show _ = some _ from rfl) rfl)
  have typed := written.step (show MaxStep _ _ _ (.request 0) _ from
    .reads (show _ = some _ from rfl) rfl (by decide))
  have named := typed.step (show MaxStep _ _ _ (.request 0) _ from
    .reads (show _ = some _ from rfl) (show _ = AcceptorStage.reading .flowId from rfl) (by decide))
  have relayed := named.step (show MaxStep _ _ _ (.inbound 0) _ from
    .relays .v6 (show _ = some _ from rfl) (show _ = some 1 from rfl)
      (show _ = AcceptorStage.requested wordFlow from by decide) (show _ = some addressed from rfl)
      picks relays)
  have nextAccepted := relayed.step (show MaxStep _ _ _ (.accept 1) _ from
    .accepts (show _ = some _ from rfl) (show _ = some 2 from rfl) rfl <| by
      rintro ⟨stream, connection, read, found, server, reading⟩
      match stream with
      | 0 =>
        cases found
        cases server
      | 1 =>
        cases found
        cases reading
      | stream + 2 => cases found)
  have nextTyped := nextAccepted.step (show MaxStep _ _ _ (.request 1) _ from
    .reads (show _ = some _ from rfl) rfl (by decide))
  have nextNamed := nextTyped.step (show MaxStep _ _ _ (.request 1) _ from
    .reads (show _ = some _ from rfl) (show _ = AcceptorStage.reading .flowId from rfl) (by decide))
  have delivered := nextNamed.step (show MaxStep _ _ _ (.inbound 1) _ from
    .delivers (show _ = some _ from rfl) (show _ = some 2 from rfl)
      (show _ = AcceptorStage.requested wordFlow from by decide) (show _ = some (routed 2) from rfl)
      picks delivers)
  have spliced := delivered.step (show MaxStep _ _ _ (.splice 0 .up 28) _ from
    .splicesUp 28 (show _ = some _ from rfl) rfl (show _ = some _ from rfl))
  have taken := spliced.step (show MaxStep _ _ _ (.take 1 .up 28) _ from
    .takesUp 28 (show _ = some _ from rfl) (.inl ⟨wordFlow, rfl⟩))
  have answered := taken.step (show MaxStep _ _ _ (.packet 2 answerFrame) _ from
    .sends (show _ = some _ from rfl) picks (by rw [answer_frame_flow]; exact stored_packet_sent)
      (show _ = some _ from rfl))
  have returned := answered.step (show MaxStep _ _ _ (.splice 0 .down 28) _ from
    .splicesDown 28 (show _ = some _ from rfl) rfl (show _ = some _ from rfl))
  have finished := returned.step (show MaxStep _ _ _ (.take 0 .down 28) _ from
    .takesDown 28 (show _ = some _ from rfl) (.inl rfl))
  refine ⟨_, _, finished, rfl, rfl, rfl, by decide, rfl, ?_⟩
  intro stream first found outer
  match stream with
  | 0 =>
    cases found
    decide
  | 1 =>
    cases found
    exact absurd rfl outer
  | stream + 2 => cases found

/-- A client asks node 1 for the flow, and node 1 knows no address of the next hop. -/
theorem exit_run : ∃ net exit,
    (maxMode (fun _ _ => 0) sampleListener fun _ => some defaultConfig).Reachable net ∧
      net.connections 1 = some exit ∧ exit.opener = .relay 0 false ∧
        exit.up.received = [1, 2, 3] ∧ exit.down.written = [9] := by
  rcases direct_hop_found with ⟨table, looked⟩
  rcases picks_exist with ⟨pick, picks, chosen⟩
  have relays : (routed 1).handleInboundRequest (fun _ _ => 0) pick wordFlow =
      some ({ routed 1 with routingTable := table }, .relay (externalServerAddr wordFlow) false) := by
    have away : (2 : NodeId) ≠ (routed 1).localId := by decide
    have unknown : (routed 1).nodeAddresses 2 = none := rfl
    have client : (routed 1).tcpMaxClient = true := rfl
    have hop : (routed 1).nextHop (fun _ _ => 0) pick wordFlow = _ := direct_next_hop rfl looked chosen
    rw [Connector.handleInboundRequest, hop]
    simp only [Option.bind_some, if_pos client, if_neg away, unknown]
  have started : (maxMode (fun _ _ => 0) sampleListener fun _ => some defaultConfig).Reachable _ :=
    TransitionSystem.reachable_of_initial rfl
  have routes := started.step
    (show MaxStep _ _ _ (.control 1 (.updateRoutingTable directRoute)) _ from .control _ rfl)
  have client := routes.step
    (show MaxStep _ _ _ (.control 1 .connectTcpMaxClient) _ from .control _ rfl)
  have opened := client.step
    (show MaxStep _ _ _ (.client .v6 "a") _ from .clientConnects .v6 "a")
  have accepted := opened.step (show MaxStep _ _ _ (.accept 0) _ from
    .accepts (show _ = some _ from rfl) (show _ = some 1 from rfl) rfl
      (backlog_not_serving (fun _ => rfl) rfl 1))
  have written := accepted.step (show MaxStep _ _ _ (.write 0 (maxRequest wordFlow ++ [1, 2, 3])) _ from
    .clientWrites _ (show _ = some _ from rfl) rfl)
  have typed := written.step (show MaxStep _ _ _ (.request 0) _ from
    .reads (show _ = some _ from rfl) rfl (by decide))
  have named := typed.step (show MaxStep _ _ _ (.request 0) _ from
    .reads (show _ = some _ from rfl) (show _ = AcceptorStage.reading .flowId from rfl) (by decide))
  have relayed := named.step (show MaxStep _ _ _ (.inbound 0) _ from
    .relays .v6 (show _ = some _ from rfl) (show _ = some 1 from rfl)
      (show _ = AcceptorStage.requested wordFlow from by decide) (show _ = some (routed 1) from rfl)
      picks relays)
  have spliced := relayed.step (show MaxStep _ _ _ (.splice 0 .up 3) _ from
    .splicesUp 3 (show _ = some _ from rfl) rfl (show _ = some _ from rfl))
  have taken := spliced.step (show MaxStep _ _ _ (.take 1 .up 3) _ from
    .takesUp 3 (show _ = some _ from rfl) (.inr (by decide)))
  have answered := taken.step (show MaxStep _ _ _ (.write 1 [9]) _ from
    .serverWrites [9] (show _ = some _ from rfl) (by decide))
  exact ⟨_, _, answered, rfl, rfl, by decide, rfl⟩

/-! ## Delivery -/

section Delivery

variable {slot : JumpSlot} {listener : String → Option NodeId} {nodes : NodeId → Option LocalConfig}
  {net : MaxNetwork} {stream : StreamId} {flowId : Nat} {last : MaxConnection}

/-- The near end of a tunnel at a source node has the flow's frames behind its header, and no answers. -/
theorem source_content {connection : MaxConnection} (sound : connection.Sound) {nodeId : NodeId}
    {flow accepted : Nat} (opens : connection.opener = .source nodeId flow)
    (outcome : connection.stage.outcome = some (.accepted accepted)) :
    flow = accepted ∧ connection.replies = [] ∧
      connection.up.written.drop connection.request = frames connection.packetsUp ∧
        ∀ framed ∈ connection.packetsUp, framed.packet.flowId = accepted := by
  rcases sound.source nodeId flow opens with ⟨fits, written, flows⟩
  have reads := sound.reads _ outcome
  rw [written] at reads
  rcases header_accepted reads fits with ⟨rfl, unanswered, behind⟩
  rw [← written] at behind
  exact ⟨rfl, unanswered, behind, flows⟩

/-- Every connection that ends at its destination is the last of a tunnel. What its node has read is
the front of what the first one was given behind its request, up to what is in flight; from a source
node these are the first packets of the flow, in order. -/
theorem tunnel_delivers (reachable : (maxMode slot listener nodes).Reachable net)
    (found : net.connections stream = some last) (ends : last.stage = .destination flowId) :
    ∃ connections first, Tunnel net flowId connections first last ∧
      Request first.peer (first.up.written.take first.request) flowId first.replies ∧
      first.up.written.drop first.request = last.up.received.drop last.request ++
        (connections.reverse.flatMap fun connection => connection.up.inFlight) ∧
      ∀ nodeId flow, first.opener = .source nodeId flow → flow = flowId ∧
        (∀ framed ∈ first.packetsUp, framed.packet.flowId = flowId) ∧
        ∃ count rest, LongestFramed (last.up.received.drop last.request)
            ((first.packetsUp.take count).map FramedPacket.packet) rest ∧
          ((∀ connection ∈ connections, connection.up.inFlight = []) →
            count = first.packetsUp.length ∧ rest = []) := by
  have sound := sound_of_reachable reachable
  have outcome : last.stage.outcome = some (.accepted flowId) := by
    rw [ends]
    rfl
  rcases tunnel_exists sound found outcome with ⟨connections, first, tunnel⟩
  rcases tunnel.accepted first (List.mem_of_head? tunnel.head) with ⟨⟨start, foundFirst⟩, accepted⟩
  have own := sound.each start first foundFirst
  have content := tunnel.up sound
  refine ⟨connections, first, tunnel, reads_accepted (own.reads _ accepted), content, ?_⟩
  intro nodeId flow opens
  rcases source_content own opens accepted with ⟨same, _, behind, flows⟩
  refine ⟨same, flows, ?_⟩
  rcases frames_cut first.packetsUp (behind.symm.trans content) with ⟨count, rest, longest, drained⟩
  refine ⟨count, rest, longest, ?_⟩
  intro empty
  apply drained
  rw [List.flatMap_eq_nil_iff]
  intro connection member
  exact empty connection (List.mem_reverse.mp member)

theorem relayed_packet_delivered : ∃ net last connections first,
    net.connections 1 = some last ∧ last.opener = .relay 0 true ∧
      Tunnel net wordFlow connections first last ∧
        first.up.written.drop first.request = frames [soleFrame] ++
          connections.reverse.flatMap fun connection => connection.up.inFlight := by
  rcases two_hop_run with ⟨net, last, reachable, found, ends, opens, read, _⟩
  rcases tunnel_delivers reachable found ends with ⟨connections, first, tunnel, _, content, _⟩
  rw [read] at content
  exact ⟨net, last, connections, first, found, opens, tunnel, content⟩

/-- What the first end of such a tunnel has read are the answers to its request and then, up to what
is in flight, what the destination writes: packets of the reverse flow, to a source node the first of
them in order. -/
theorem tunnel_answers (reachable : (maxMode slot listener nodes).Reachable net)
    (found : net.connections stream = some last) (ends : last.stage = .destination flowId) :
    (∀ framed ∈ last.packetsDown, FlowIdExt.reverse framed.packet.flowId = flowId) ∧
    ∃ connections first, Tunnel net flowId connections first last ∧
      first.replies ++ frames last.packetsDown = first.down.received ++
        (connections.flatMap fun connection => connection.down.inFlight) ∧
      ∀ nodeId flow, first.opener = .source nodeId flow →
        ∃ count rest, LongestFramed first.down.received
            ((last.packetsDown.take count).map FramedPacket.packet) rest ∧
          ((∀ connection ∈ connections, connection.down.inFlight = []) →
            count = last.packetsDown.length ∧ rest = []) := by
  have sound := sound_of_reachable reachable
  have outcome : last.stage.outcome = some (.accepted flowId) := by
    rw [ends]
    rfl
  have ownLast := sound.each stream last found
  have fits := request_flow_id_lt (reads_accepted (ownLast.reads _ outcome))
  rcases ownLast.destination flowId ends with ⟨written, flows⟩
  constructor
  · intro framed member
    rw [flows framed member, FlowIdExt.reverse_reverse fits]
  · rcases tunnel_exists sound found outcome with ⟨connections, first, tunnel⟩
    rcases tunnel.accepted first (List.mem_of_head? tunnel.head) with ⟨⟨start, foundFirst⟩, accepted⟩
    have content := tunnel.down sound
    have behind : last.downLeg.content = frames last.packetsDown := by
      simp only [Leg.content, MaxConnection.downLeg, written, List.drop_left]
    rw [behind] at content
    refine ⟨connections, first, tunnel, content, ?_⟩
    intro nodeId flow opens
    have unanswered := (source_content (sound.each start first foundFirst) opens accepted).2.1
    rw [unanswered, List.nil_append] at content
    rcases frames_cut last.packetsDown content with ⟨count, rest, longest, drained⟩
    refine ⟨count, rest, longest, ?_⟩
    intro empty
    apply drained
    rw [List.flatMap_eq_nil_iff]
    exact empty

theorem relayed_packet_answered : ∃ net last connections first,
    net.connections 1 = some last ∧ last.packetsDown = [answerFrame] ∧
      Tunnel net wordFlow connections first last ∧ first.down.received = frames [answerFrame] ∧
        first.replies ++ frames last.packetsDown = first.down.received ++
          connections.flatMap fun connection => connection.down.inFlight := by
  rcases two_hop_run with ⟨net, last, reachable, found, ends, opens, _, answers, outer⟩
  rcases (tunnel_answers reachable found ends).2 with ⟨connections, first, tunnel, content, _⟩
  rcases (tunnel.accepted first (List.mem_of_head? tunnel.head)).1 with ⟨stream, foundFirst⟩
  exact ⟨net, last, connections, first, found, answers, tunnel,
    outer stream first foundFirst (tunnel.start 0), content⟩

/-- A connection without a header leads out of a tunnel, to the server of its flow. It carries what the
first end writes behind its request and nothing else, and the server's bytes come back behind the
answers. -/
theorem tunnel_reaches_server (reachable : (maxMode slot listener nodes).Reachable net)
    {inbound : StreamId} {exit : MaxConnection} (found : net.connections stream = some exit)
    (opens : exit.opener = .relay inbound false) :
    ∃ flowId connections first last, net.connections inbound = some last ∧
      Tunnel net flowId connections first last ∧ exit.address = externalServerAddr flowId ∧
      Request first.peer (first.up.written.take first.request) flowId first.replies ∧
      first.up.written.drop first.request = exit.up.received ++ exit.up.inFlight ++
        (connections.reverse.flatMap fun connection => connection.up.inFlight) ∧
      first.replies ++ exit.down.written = first.down.received ++
        (connections.flatMap fun connection => connection.down.inFlight) ++
          exit.down.inFlight := by
  have sound := sound_of_reachable reachable
  rcases sound.fed stream exit inbound false found opens with
    ⟨_, last, flowId, foundLast, relayed, joined⟩
  have outcome : last.stage.outcome = some (.accepted flowId) := by
    rw [relayed]
    rfl
  rcases tunnel_exists sound foundLast outcome with ⟨connections, first, tunnel⟩
  rcases tunnel.accepted first (List.mem_of_head? tunnel.head) with ⟨⟨start, foundFirst⟩, accepted⟩
  have own := sound.each start first foundFirst
  have passed : exit.up.written = last.upLeg.passed := joined.up
  have returned : last.downLeg.content = exit.down.received := by
    simp only [Leg.content, MaxConnection.downLeg, joined.down, List.drop_left]
  refine ⟨flowId, connections, first, last, foundLast, tunnel, joined.address rfl,
    reads_accepted (own.reads _ accepted), ?_, ?_⟩
  · rw [exit.up.received_in_flight, passed]
    exact tunnel.up sound
  · rw [← exit.down.received_in_flight, ← returned, ← List.append_assoc, tunnel.down sound]

theorem client_reaches_server : ∃ net exit flowId connections first last,
    net.connections 1 = some exit ∧ exit.down.written = [9] ∧
      Tunnel net flowId connections first last ∧ exit.address = externalServerAddr flowId ∧
        first.up.written.drop first.request = [1, 2, 3] ++ exit.up.inFlight ++
          connections.reverse.flatMap fun connection => connection.up.inFlight := by
  rcases exit_run with ⟨net, exit, reachable, found, opens, read, answers⟩
  rcases tunnel_reaches_server reachable found opens with
    ⟨flowId, connections, first, last, _, tunnel, address, _, content, _⟩
  rw [read] at content
  exact ⟨net, exit, flowId, connections, first, last, found, answers, tunnel, address, content⟩

end Delivery

end Nextmini.Node
