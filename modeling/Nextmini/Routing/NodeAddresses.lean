import Nextmini.Routing.RoutingTable

/-!
# Node ids and addresses

The address of a node is a base address plus the node id, cut to an address word and added with
wrapping; the table's configuration reads the id back from the address. The guard of the forward map
looks at the subnet only, so an id that runs over the end of the address space is not refused where
it lands in the same subnet again.
-/

namespace Nextmini.Routing

set_option autoImplicit false

/-- The address of a node, or nothing where the code panics. -/
def ipAddr (nodeId : NodeId) (baseAddr netMask : Ipv4Addr) : Option Ipv4Addr :=
  let newIp := baseAddr + UInt32.ofNat nodeId
  let network := baseAddr &&& netMask
  let newNetwork := newIp &&& netMask
  if network ≠ newNetwork then none else some newIp

namespace LocalConfig

def bases (config : LocalConfig) : List Ipv4Addr :=
  [config.virtualBaseAddr, config.userSpaceBaseAddr, config.externalBaseAddr]

def subnet (config : LocalConfig) (ip : Ipv4Addr) : Ipv4Addr := ip &&& config.localNetmask

/-- The three bases lie in three subnets. -/
structure SubnetsDistinct (config : LocalConfig) : Prop where
  userSpace : config.subnet config.virtualBaseAddr ≠ config.subnet config.userSpaceBaseAddr
  external : config.subnet config.virtualBaseAddr ≠ config.subnet config.externalBaseAddr
  outer : config.subnet config.userSpaceBaseAddr ≠ config.subnet config.externalBaseAddr

/-- Ids and addresses go back and forth, and no two of the ids share an address. -/
structure AddressesSound (config : LocalConfig) (ids : Set NodeId) : Prop where
  roundTrip : ∀ nodeId ∈ ids, ∀ base ∈ config.bases, ∀ ip,
    ipAddr nodeId base config.localNetmask = some ip → config.ipToNodeId ip = nodeId
  inverse : ∀ ip, config.ipToNodeId ip ≠ invalidNode → ∃ base ∈ config.bases,
    ipAddr (config.ipToNodeId ip) base config.localNetmask = some ip
  unshared : ∀ first ∈ ids, ∀ second ∈ ids, ∀ base ∈ config.bases, ∀ other ∈ config.bases, ∀ ip,
    ipAddr first base config.localNetmask = some ip →
      ipAddr second other config.localNetmask = some ip → first = second

/-- Where the sum lands in the subnet of its base it has not run over the end of the address space.
The invalid id is read back from an address outside, so it may. -/
def StaysInRange (config : LocalConfig) (ids : Set NodeId) : Prop :=
  ∀ nodeId ∈ ids, ∀ base ∈ config.bases,
    config.subnet base = config.subnet (base + UInt32.ofNat nodeId) →
      base.toNat + nodeId < 2 ^ 32 ∨ nodeId = invalidNode

variable {config : LocalConfig} {nodeId : NodeId} {base other ip : Ipv4Addr}

theorem ip_addr_eq_some : ipAddr nodeId base config.localNetmask = some ip ↔
    base + UInt32.ofNat nodeId = ip ∧ config.subnet base = config.subnet ip := by
  simp only [ipAddr, subnet]
  split_ifs with apart
  · constructor
    · intro found
      cases found
    · rintro ⟨rfl, same⟩
      exact absurd same apart
  · rw [Option.some.injEq]
    constructor
    · rintro rfl
      exact ⟨rfl, not_not.mp apart⟩
    · exact And.left

theorem SubnetsDistinct.same_base (distinct : config.SubnetsDistinct) (member : base ∈ config.bases)
    (otherMember : other ∈ config.bases) (same : config.subnet base = config.subnet other) :
    base = other := by
  rcases distinct with ⟨userSpace, external, outer⟩
  simp only [bases, List.mem_cons, List.not_mem_nil, or_false] at member otherMember
  grind

/-- In the subnet of a base, the address is read as an offset from that base. -/
theorem SubnetsDistinct.node_in_subnet (distinct : config.SubnetsDistinct)
    (member : base ∈ config.bases) (same : config.subnet base = config.subnet ip) :
    config.ipToNodeId ip = if base ≤ ip then (ip - base).toNat else invalidNode := by
  have inside (candidate : Ipv4Addr) (candidateMember : candidate ∈ config.bases) :
      config.inSubnet ip candidate = decide (candidate = base ∧ base ≤ ip) := by
    rw [inSubnet, decide_eq_decide]
    constructor
    · rintro ⟨network, reached⟩
      have equal := distinct.same_base candidateMember member (network.symm.trans same.symm)
      exact ⟨equal, equal ▸ reached⟩
    · rintro ⟨rfl, reached⟩
      exact ⟨same.symm, reached⟩
  have chosen := member
  simp only [bases, List.mem_cons, List.not_mem_nil, or_false] at chosen
  rw [ipToNodeId, inside _ (by simp [bases]), inside _ (by simp [bases]), inside _ (by simp [bases])]
  grind

theorem base_le_iff (base : Ipv4Addr) (nodeId : NodeId) :
    base ≤ base + UInt32.ofNat nodeId ↔ base.toNat + nodeId % 2 ^ 32 < 2 ^ 32 := by
  have below := base.toNat_lt
  rw [UInt32.le_iff_toNat_le, UInt32.toNat_add, UInt32.toNat_ofNat']
  omega

theorem offset_eq (base : Ipv4Addr) (nodeId : NodeId) :
    (base + UInt32.ofNat nodeId - base).toNat = nodeId % 2 ^ 32 := by
  rw [UInt32.add_comm, UInt32.add_sub_cancel, UInt32.toNat_ofNat']

/-- The invalid id is cut to the last word; with base zero that word is in no other subnet. -/
theorem SubnetsDistinct.last_apart (distinct : config.SubnetsDistinct)
    (same : config.subnet 0 = config.subnet (UInt32.ofNat invalidNode)) : False := by
  have last : UInt32.ofNat invalidNode = -1 := by decide
  have mask : config.localNetmask = 0 := by
    rw [last] at same
    simpa [subnet] using same.symm
  apply distinct.userSpace
  simp [subnet, mask]

theorem SubnetsDistinct.round_trip_iff (distinct : config.SubnetsDistinct)
    (member : base ∈ config.bases) (word : nodeId < 2 ^ 64)
    (found : ipAddr nodeId base config.localNetmask = some ip) :
    config.ipToNodeId ip = nodeId ↔ base.toNat + nodeId < 2 ^ 32 ∨ nodeId = invalidNode := by
  rcases ip_addr_eq_some.mp found with ⟨rfl, same⟩
  rw [distinct.node_in_subnet member same]
  simp only [base_le_iff, offset_eq]
  split_ifs with reached
  · constructor
    · intro kept
      rw [kept] at reached
      exact .inl reached
    · rintro (fits | rfl)
      · exact Nat.mod_eq_of_lt (by omega)
      · have zero : base = 0 := by
          rw [← UInt32.toNat_inj, UInt32.toNat_zero]
          rw [invalidNode] at reached
          omega
        rw [zero, UInt32.zero_add] at same
        exact (distinct.last_apart same).elim
  · constructor
    · intro invalid
      exact .inr invalid.symm
    · rintro (fits | rfl)
      · exact absurd (by omega) reached
      · rfl

theorem inverse_of_valid (valid : config.ipToNodeId ip ≠ invalidNode) :
    ∃ base ∈ config.bases, ipAddr (config.ipToNodeId ip) base config.localNetmask = some ip := by
  have inside (candidate : Ipv4Addr) (found : config.inSubnet ip candidate = true) :
      ipAddr (ip - candidate).toNat candidate config.localNetmask = some ip := by
    rw [inSubnet, decide_eq_true_eq] at found
    rw [ip_addr_eq_some, UInt32.ofNat_toNat, UInt32.add_comm, UInt32.sub_add_cancel]
    exact ⟨rfl, found.1.symm⟩
  rw [ipToNodeId] at valid ⊢
  split_ifs at valid ⊢ with virtual userSpace external
  · exact ⟨_, by simp [bases], inside _ virtual⟩
  · exact ⟨_, by simp [bases], inside _ userSpace⟩
  · exact ⟨_, by simp [bases], inside _ external⟩
  · exact absurd rfl valid

/-- Ids and addresses correspond exactly where no id runs over the end of the address space. -/
theorem addresses_sound_iff (distinct : config.SubnetsDistinct) (ids : Set NodeId)
    (words : ∀ nodeId ∈ ids, nodeId < 2 ^ 64) :
    config.AddressesSound ids ↔ config.StaysInRange ids := by
  constructor
  · intro sound nodeId listed base member same
    have found := ip_addr_eq_some.mpr ⟨rfl, same⟩
    have kept := sound.roundTrip nodeId listed base member _ found
    exact (distinct.round_trip_iff member (words nodeId listed) found).mp kept
  · intro inRange
    have roundTrip : ∀ nodeId ∈ ids, ∀ base ∈ config.bases, ∀ ip,
        ipAddr nodeId base config.localNetmask = some ip → config.ipToNodeId ip = nodeId := by
      intro nodeId listed base member ip found
      rcases ip_addr_eq_some.mp found with ⟨sum, same⟩
      rw [← sum] at same
      exact (distinct.round_trip_iff member (words nodeId listed) found).mpr
        (inRange nodeId listed base member same)
    refine ⟨roundTrip, fun ip valid => inverse_of_valid valid, ?_⟩
    intro first listed second otherListed base member other otherMember ip found otherFound
    rw [← roundTrip first listed base member ip found]
    exact roundTrip second otherListed other otherMember ip otherFound

theorem default_subnets_distinct : defaultConfig.SubnetsDistinct := by
  constructor <;> decide

/-- Under the default bases the ids below one hundred stay in range. -/
theorem default_addresses_sound : defaultConfig.AddressesSound {nodeId : Nat | nodeId < 100} := by
  refine (addresses_sound_iff default_subnets_distinct _ ?_).mpr ?_
  · intro nodeId small
    exact Nat.lt_trans small (by decide)
  · intro nodeId small base member _
    have low : ∀ base ∈ defaultConfig.bases, base.toNat ≤ 2 ^ 32 - 100 := by
      simp only [bases, defaultConfig, List.forall_mem_cons, List.not_mem_nil, UInt32.reduceToNat,
        Nat.reducePow, Nat.reduceSub, Nat.reduceLeDiff, false_implies, implies_true, and_self]
    have fits := Nat.add_lt_add_of_le_of_lt (low base member) small
    exact .inl fits

/-- Two to the thirty-two and five wraps to the address of node five and is read back as five. -/
theorem wrapped_id_shares_an_address :
    defaultConfig.SubnetsDistinct ∧
      ipAddr (2 ^ 32 + 5) defaultConfig.virtualBaseAddr defaultConfig.localNetmask =
        some 0x0a000005 ∧
      ipAddr 5 defaultConfig.virtualBaseAddr defaultConfig.localNetmask = some 0x0a000005 ∧
      defaultConfig.ipToNodeId 0x0a000005 = 5 ∧
      ¬defaultConfig.AddressesSound {nodeId : Nat | nodeId < 2 ^ 64} := by
  have found : ipAddr (2 ^ 32 + 5) defaultConfig.virtualBaseAddr defaultConfig.localNetmask =
      some 0x0a000005 := by decide
  refine ⟨default_subnets_distinct, found, by decide, by decide, fun sound => ?_⟩
  have kept := sound.roundTrip (2 ^ 32 + 5) (by simp) _ (by simp [bases]) _ found
  exact absurd kept (by decide)

end LocalConfig

end Nextmini.Routing
