import Nextmini.Controller.ConfiguredRoutes
import Nextmini.Node.RouteTraffic

/-!
# Traffic on configured routes

A route of the configuration file, written as the sequence of its nodes, from the file to the packets: it
is read, merged with the other routes, stored in a row and sent to the nodes, and the packets between
its ends follow it as long as no other row joins the two.
-/

namespace Nextmini.Node

open Nextmini.Library Nextmini.Routing Nextmini.Controller

set_option autoImplicit false

section Configured

variable {astar : Astar} {entries : List (Option RouteRepr)} {configured : List (List Edge)}
  {topology : Option (List Edge)} {protocol : Option RoutingProtocol} {merged : RouteCollection}
  {src dst : UInt32} {rest : List UInt32}

theorem sequence_row (read : entries.mapM readRoute = .ok configured)
    (merges : mergeAllRoutes astar configured topology protocol = some merged)
    (listed : some (.nodeSequence (src :: rest)) ∈ entries)
    (ends : (src :: rest).getLast? = some dst) (distinct : (src :: rest).Nodup)
    (small : ∀ node ∈ src :: rest, node < 2 ^ 31)
    (once : (merged.map fun route => (route.1, route.2.1)).count (src, dst) = 1) :
    ∃ row, row.srcNodeId = src ∧ row.dstNodeId = dst ∧ row.edges = (src :: rest).zip rest ∧
      SolePath (seedRoutes merged) row := by
  rcases mem_of_read read listed with ⟨edges, inside, sequence⟩
  have several : rest ≠ [] := by
    rintro rfl
    cases sequence
  have given : edges = (src :: rest).zip rest := by
    rcases List.exists_cons_of_ne_nil several with ⟨next, later, rfl⟩
    rw [readRoute, deserializeRouteEdges, if_neg (by simp)] at sequence
    exact (Except.ok.inj sequence).symm
  subst given
  have walk := sequence_path ends (List.Subset.refl _)
  have targets := sequence_targets src rest
  have along : (src :: ((src :: rest).zip rest).map Prod.snd).Nodup := by
    rw [targets]
    exact distinct
  have nonempty : (src :: rest).zip rest ≠ [] := by
    intro none
    rw [none] at targets
    exact several targets.symm
  have apart : src ≠ dst := by
    rintro rfl
    rcases List.exists_cons_of_ne_nil several with ⟨next, later, rfl⟩
    rw [List.getLast?_cons_cons] at ends
    exact (List.nodup_cons.mp distinct).1 (List.mem_of_getLast? ends)
  rcases mem_seed_rows 1 (mem_merged merges inside
    (custom_route_path walk along nonempty)) with ⟨row, member, rfl, rfl, stored⟩
  rw [stored_sequence small] at stored
  refine ⟨row, rfl, rfl, stored, ?_, ?_, ?_, apart⟩
  · apply filter_unique (fun row : Route => (row.srcNodeId, row.dstNodeId)) member
    rw [seed_rows_pairs]
    exact once
  · rw [stored]
    exact ⟨_, walk⟩
  · rw [stored]
    exact along

end Configured

/-! ## One link -/

def linkEntries : List (Option RouteRepr) :=
  [some (.nodeSequence [1, 2]), some (.nodeSequence [2, 1])]

theorem link_seeded : seedRoutes [(1, 2, [(1, 2)]), (2, 1, [(2, 1)])] = linkRoutes := rfl

end Nextmini.Node
