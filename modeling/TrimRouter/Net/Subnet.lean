import TrimRouter.Net.Mask

/-!
# Networks as ranges of addresses

The networks of `ipnet` by the numbers of their addresses: a network is the block of `2 ^ h`
addresses around its address, where `h` is the number of host bits.
-/

namespace TrimRouter.Ipv4Net

/-- The number of addresses in the network. -/
def size (net : Ipv4Net) : Nat := 2 ^ (32 - net.prefixLen)

/-- A host address: neither the base nor the broadcast address of the network. -/
def IsHost (net : Ipv4Net) (ip : Ipv4Addr) : Prop := net.network < ip ∧ ip < net.broadcast
deriving Decidable

variable {net other : Ipv4Net} {ip : Ipv4Addr}

theorem size_pos : 0 < net.size := Nat.two_pow_pos _

/-- The upper part of the address times the size of the network. -/
theorem toNat_network : net.network.toNat = net.addr.toNat / net.size * net.size := by
  have masked : net.network = (net.addr >>> (32 - net.prefixLen)) <<< (32 - net.prefixLen) := by
    unfold network netmask
    ext i inside
    simp only [BitVec.getElem_and, BitVec.getElem_shiftLeft, BitVec.getElem_allOnes]
    by_cases low : i < 32 - net.prefixLen
    · simp [low]
    · have back : 32 - net.prefixLen + (i - (32 - net.prefixLen)) = i := by omega
      simp [low, back, BitVec.getLsbD_eq_getElem inside]
  have fits : net.addr.toNat / net.size * net.size < 2 ^ 32 :=
    (Nat.div_mul_le_self _ _).trans_lt net.addr.isLt
  rw [masked, BitVec.toNat_shiftLeft, BitVec.toNat_ushiftRight, Nat.shiftLeft_eq,
    Nat.shiftRight_eq_div_pow]
  exact Nat.mod_eq_of_lt fits

theorem toNat_hostmask : net.hostmask.toNat = net.size - 1 := by
  have whole : 2 ^ 32 = net.size * 2 ^ net.prefixLen := by
    rw [size, ← Nat.pow_add, Nat.sub_add_cancel net.prefixLen_le]
  unfold hostmask
  rw [BitVec.toNat_ushiftRight, BitVec.toNat_allOnes, Nat.shiftRight_eq_div_pow, whole]
  refine Nat.div_eq_of_lt_le ?_ ?_
  · have : 0 < 2 ^ net.prefixLen := Nat.two_pow_pos _
    have := Nat.sub_mul net.size 1 (2 ^ net.prefixLen)
    omega
  · have positive : 0 < net.size := size_pos
    have : 0 < 2 ^ net.prefixLen := Nat.two_pow_pos _
    have : 0 < net.size * 2 ^ net.prefixLen := Nat.mul_pos positive this
    rw [Nat.sub_add_cancel positive]
    omega

/-- The network part and the host mask have no bit in common. -/
theorem network_and_hostmask : net.network &&& net.hostmask = 0#32 := by
  unfold network netmask hostmask
  have := net.prefixLen_le
  ext i inside
  simp only [BitVec.getElem_and, BitVec.getElem_shiftLeft, BitVec.getElem_allOnes,
    BitVec.getElem_ushiftRight, BitVec.getLsbD_allOnes, BitVec.getElem_zero]
  by_cases low : i < 32 - net.prefixLen
  · simp [low]
  · have high : ¬ net.prefixLen + i < 32 := by omega
    simp [high]

theorem network_or_hostmask : net.network ||| net.hostmask = net.broadcast := by
  unfold broadcast network netmask hostmask
  have := net.prefixLen_le
  ext i inside
  simp only [BitVec.getElem_and, BitVec.getElem_or, BitVec.getElem_shiftLeft,
    BitVec.getElem_allOnes, BitVec.getElem_ushiftRight, BitVec.getLsbD_allOnes]
  by_cases low : i < 32 - net.prefixLen
  · have set : net.prefixLen + i < 32 := by omega
    simp [low, set]
  · simp [low]

theorem toNat_broadcast : net.broadcast.toNat = net.network.toNat + (net.size - 1) := by
  have whole : 2 ^ 32 = 2 ^ net.prefixLen * net.size := by
    rw [size, ← Nat.pow_add, Nat.add_sub_cancel' net.prefixLen_le]
  have below : net.addr.toNat / net.size < 2 ^ net.prefixLen :=
    Nat.div_lt_of_lt_mul (by rw [Nat.mul_comm, ← whole]; exact net.addr.isLt)
  have fits : net.network.toNat + net.size ≤ 2 ^ 32 := by
    rw [toNat_network, whole, ← Nat.succ_mul]
    exact Nat.mul_le_mul_right _ below
  have positive : 0 < net.size := size_pos
  rw [← network_or_hostmask, ← BitVec.add_eq_or_of_and_eq_zero _ _ network_and_hostmask,
    BitVec.toNat_add, toNat_hostmask]
  refine Nat.mod_eq_of_lt ?_
  omega

theorem contains_iff : net.contains ip = true ↔
    net.network.toNat ≤ ip.toNat ∧ ip.toNat ≤ net.broadcast.toNat := by
  unfold contains
  rw [Bool.and_eq_true, decide_eq_true_eq, decide_eq_true_eq, BitVec.le_def, BitVec.le_def]

/-- The address of a network is one of its own. -/
theorem contains_addr : net.contains net.addr = true := by
  have remainder := Nat.div_add_mod' net.addr.toNat net.size
  have small : net.addr.toNat % net.size < net.size := Nat.mod_lt _ size_pos
  rw [contains_iff, toNat_broadcast, toNat_network]
  omega

theorem disjoint_of_bases (left : net.contains other.network = false)
    (right : other.contains net.network = false) :
    ¬ (net.contains ip = true ∧ other.contains ip = true) := by
  intro ⟨inNet, inOther⟩
  rw [contains_iff] at inNet inOther
  have left : ¬ net.contains other.network = true := by simp [left]
  have right : ¬ other.contains net.network = true := by simp [right]
  rw [contains_iff] at left right
  omega

variable {addr : Ipv4Addr}

theorem network_withAddr (inside : net.contains addr = true) :
    ({ net with addr } : Ipv4Net).network = net.network := by
  rw [contains_iff, toNat_broadcast] at inside
  have positive : 0 < net.size := size_pos
  have same : ({ net with addr } : Ipv4Net).size = net.size := rfl
  rw [← BitVec.toNat_inj, toNat_network, toNat_network, same]
  have base : net.network.toNat = net.addr.toNat / net.size * net.size := toNat_network
  congr 1
  refine Nat.div_eq_of_lt_le ?_ ?_
  · exact base ▸ inside.1
  · rw [Nat.succ_mul, ← base]
    show addr.toNat < _
    omega

theorem broadcast_withAddr (inside : net.contains addr = true) :
    ({ net with addr } : Ipv4Net).broadcast = net.broadcast := by
  rw [← BitVec.toNat_inj, toNat_broadcast, toNat_broadcast, network_withAddr inside]
  rfl

/-- The addresses of the network: those with its network part. -/
def addresses (net : Ipv4Net) : Set Ipv4Addr := { ip | ip &&& net.netmask = net.network }

theorem mem_addresses : ip ∈ net.addresses ↔ net.contains ip = true := by
  constructor
  · intro inside
    have same : ({ net with addr := ip } : Ipv4Net).network = net.network := inside
    have own : ({ net with addr := ip } : Ipv4Net).contains ip = true := contains_addr
    rw [contains_iff, toNat_broadcast, same] at own
    rw [contains_iff, toNat_broadcast]
    exact own
  · intro inside
    exact network_withAddr inside

theorem network_mem_addresses : net.network ∈ net.addresses := by
  show net.addr &&& net.netmask &&& net.netmask = net.network
  rw [BitVec.and_assoc, BitVec.and_self]
  rfl

theorem maskToPrefixLen_netmask : maskToPrefixLen net.netmask = some net.prefixLen := by
  have same : net.netmask = prefixLenToMask net.prefixLen := by
    unfold prefixLenToMask netmask
    have := net.prefixLen_le
    split
    · have zero : net.prefixLen = 0 := by omega
      rw [zero]
      rfl
    · rfl
  rw [same, maskToPrefixLen_prefixLenToMask net.prefixLen_le]

/-- The hosts are listed from the lowest one up. -/
theorem hosts_sorted : net.hosts.Pairwise (· < ·) := by
  have top := net.broadcast.isLt
  simp only [hosts, List.pairwise_map]
  refine List.Pairwise.imp_of_mem ?_ List.pairwise_lt_range
  intro i j left right below
  rw [List.mem_range] at left right
  rw [BitVec.lt_def, BitVec.toNat_ofNat, BitVec.toNat_ofNat,
    Nat.mod_eq_of_lt (by split <;> split at left <;> omega),
    Nat.mod_eq_of_lt (by split <;> split at right <;> omega)]
  omega

end TrimRouter.Ipv4Net
