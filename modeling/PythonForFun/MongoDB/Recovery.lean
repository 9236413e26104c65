import PythonForFun.MongoDB.Partition

set_option relaxedAutoImplicit false
set_option autoImplicit false

/-!
# Healing a member that was cut off

`mock_network_partition_recovery` flushes the filter table of the member it resolves its
target to. After a call of `mock_network_partition` with the same explicit target this leaves
that member without any rule. With the target left at its default the two calls each ask the
replica set for its primary, and the recovery reaches the member that was cut off only if
that one is the primary both calls unpack.

## Main definitions

* `MongoDB.SameRules` — two filter tables with the same rule lists.
* `MongoDB.NoMemberBlocks` — no member has a rule against another member's address.
* `MongoDB.SamePrimary` — both calls unpack the same member as the primary.

## Main results

* `MongoDB.recovery_after_partition_empties` — cutting off and healing an explicit target
  empties its three chains and touches no other host.
* `MongoDB.recovery_heals_iff_samePrimary` — with default targets, the replica set is healed
  iff both calls unpack the same member as the primary.
-/

namespace PythonForFun.MongoDB

open Netfilter

/-- A recovery that returns resolved its target to a member and flushed that member's
table. -/
theorem mockNetworkPartitionRecovery_eq_ok {remote : ℕ → ProcResult} {c : Client}
    {rsInfo : RsInfo} {target : Option String} {w w' : World}
    (h : mockNetworkPartitionRecovery remote c rsInfo target w = (.ok (), w')) :
    ∃ t node info, resolveTarget c target = .ok t ∧ (node, info) ∈ rsInfo.items ∧
      t ∈ info.addresses ∧
      w'.filters = Function.update w.filters info.ip (w.filters info.ip).flush := by
  unfold mockNetworkPartitionRecovery at h
  obtain ⟨t, w₁, hres, h⟩ := Prog.bind_eq_ok_iff.mp h
  rw [Prog.ofExcept_apply] at hres
  obtain ⟨hok, rfl⟩ := Prod.mk.inj hres
  cases hn : findTargetNode rsInfo t with
  | none => simp [hn] at h
  | some node =>
    obtain ⟨info, hmem, haddr⟩ := mem_of_findTargetNode hn
    simp only [hn, (rsInfo.get?_eq_some_iff).mpr hmem] at h
    obtain ⟨r, w₂, hssh, hpure⟩ := Prog.bind_eq_ok_iff.mp h
    obtain ⟨-, f, hf, rfl⟩ := ssh_eq_ok hssh
    obtain ⟨-, rfl⟩ := Prod.mk.inj hpure
    simp only [Iptables.apply, Option.some.injEq] at hf
    exact ⟨t, node, info, hok, hmem, haddr, by rw [← hf]⟩

/-- A partition that returns resolved its target to a member, cut that member's table and
left the others. -/
theorem mockNetworkPartition_eq_ok {remote : ℕ → ProcResult} {c : Client} {rsInfo : RsInfo}
    {target : Option String} {incoming outcoming : Value} {w w' : World}
    (h : mockNetworkPartition remote c rsInfo target incoming outcoming w = (.ok (), w')) :
    ∃ t node info, resolveTarget c target = .ok t ∧ (node, info) ∈ rsInfo.items ∧
      t ∈ info.addresses ∧
      w'.filters = Function.update w.filters info.ip
        (cutFilter (peerIps rsInfo node) incoming outcoming (w.filters info.ip)) := by
  rcases mockNetworkPartition_cases h with ⟨⟨e, he⟩, -⟩ | ⟨t, node, info, hres, hmem, haddr, hcut⟩
  · cases he
  · exact ⟨t, node, info, hres, hmem, haddr, cutCommands_eq_ok hcut⟩

/-- An address names one member. -/
theorem eq_of_mem_addresses {rsInfo : RsInfo} (hd : AddressesDistinct rsInfo)
    {node node' : String} {info info' : NodeInfo} (hmem : (node, info) ∈ rsInfo.items)
    (hmem' : (node', info') ∈ rsInfo.items) {a : String} (ha : a ∈ info.addresses)
    (ha' : a ∈ info'.addresses) : node = node' ∧ info = info' := by
  simpa using hd _ hmem _ hmem' a ha ha'

/-! ## Explicit targets -/

/-- Two filter tables have the same `INPUT`, `OUTPUT` and `FORWARD` rule lists. -/
def SameRules (f g : FilterTable Packet) : Prop :=
  f.input.rules = g.input.rules ∧ f.output.rules = g.output.rules ∧
    f.forward.rules = g.forward.rules

/-- A filter table without any rule. -/
def NoRules (f : FilterTable Packet) : Prop :=
  f.input.rules = [] ∧ f.output.rules = [] ∧ f.forward.rules = []

/-- **Cutting off and healing the same explicit target** leaves that member's three chains
empty, which is as they were iff they were empty before, and every other host's table as it
was. -/
theorem recovery_after_partition_empties {remote : ℕ → ProcResult} {c₁ c₂ : Client}
    {rsInfo : RsInfo} (hd : AddressesDistinct rsInfo) {node : String} {info : NodeInfo}
    (hmem : (node, info) ∈ rsInfo.items) {target : String} (ht : target ∈ info.addresses)
    {incoming outcoming : Value} {w w₁ w₂ : World}
    (h₁ : mockNetworkPartition remote c₁ rsInfo (some target) incoming outcoming w =
      (.ok (), w₁))
    (h₂ : mockNetworkPartitionRecovery remote c₂ rsInfo (some target) w₁ = (.ok (), w₂)) :
    NoRules (w₂.filters info.ip) ∧
      (SameRules (w₂.filters info.ip) (w.filters info.ip) ↔ NoRules (w.filters info.ip)) ∧
      ∀ host, host ≠ info.ip → w₂.filters host = w.filters host := by
  obtain ⟨t₁, node₁, info₁, hres₁, hmem₁, ht₁, hw₁⟩ := mockNetworkPartition_eq_ok h₁
  obtain ⟨t₂, node₂, info₂, hres₂, hmem₂, ht₂, hw₂⟩ := mockNetworkPartitionRecovery_eq_ok h₂
  obtain rfl : target = t₁ := by simpa [resolveTarget] using hres₁
  obtain rfl : target = t₂ := by simpa [resolveTarget] using hres₂
  obtain ⟨rfl, rfl⟩ := eq_of_mem_addresses hd hmem₁ hmem ht₁ ht
  obtain ⟨rfl, rfl⟩ := eq_of_mem_addresses hd hmem₂ hmem₁ ht₂ ht₁
  have hempty : NoRules (w₂.filters info₂.ip) := by
    rw [hw₂, Function.update_self]
    exact ⟨rfl, rfl, rfl⟩
  refine ⟨hempty, ?_, fun host hne => ?_⟩
  · obtain ⟨hi, ho, hf⟩ := hempty
    unfold SameRules NoRules
    rw [hi, ho, hf]
    exact and_congr eq_comm (and_congr eq_comm eq_comm)
  · rw [hw₂, Function.update_of_ne hne, hw₁, Function.update_of_ne hne]

theorem recovery_after_partition_empties_threeMembers :
    ∃ w₁ w₂, mockNetworkPartition allSucceed (steadyPrimary "ec2-18-0-0-1") threeMembers
        (some "18.0.0.1") (.bool false) (.bool false) freshWorld = (.ok (), w₁) ∧
      mockNetworkPartitionRecovery allSucceed (steadyPrimary "ec2-18-0-0-1") threeMembers
        (some "18.0.0.1") w₁ = (.ok (), w₂) ∧ NoRules (w₂.filters "18.0.0.1") :=
  ⟨_, _, rfl, rfl, (@recovery_after_partition_empties allSucceed (steadyPrimary "ec2-18-0-0-1")
    (steadyPrimary "ec2-18-0-0-1") threeMembers (by decide) "mongo0"
    ⟨"18.0.0.1", "ec2-18-0-0-1", "172.31.0.1"⟩ (by decide) "18.0.0.1" (by decide) (.bool false)
    (.bool false) freshWorld _ _ rfl rfl).1⟩

/-- Hosts that accept established ssh traffic by a rule of their own. -/
def guardedWorld : World :=
  ⟨fun _ => ⟨⟨.drop, [⟨fun p => p.dport == 22, .verdict .accept⟩]⟩, ⟨.accept, []⟩,
    ⟨.accept, []⟩⟩, 0⟩

/-- Healing a member that had a rule of its own loses that rule. -/
theorem recovery_loses_prior_rule :
    ∃ w₁ w₂, mockNetworkPartition allSucceed (steadyPrimary "ec2-18-0-0-1") threeMembers
        (some "18.0.0.1") (.bool false) (.bool false) guardedWorld = (.ok (), w₁) ∧
      mockNetworkPartitionRecovery allSucceed (steadyPrimary "ec2-18-0-0-1") threeMembers
        (some "18.0.0.1") w₁ = (.ok (), w₂) ∧
      ¬ SameRules (w₂.filters "18.0.0.1") (guardedWorld.filters "18.0.0.1") := by
  refine ⟨_, _, rfl, rfl, ?_⟩
  rintro ⟨hinput, -⟩
  have hlen := congrArg List.length hinput
  revert hlen
  decide

/-! ## Default targets -/

/-- No member has a rule that drops packets from (on `INPUT`) or to (on `OUTPUT`) another
member's ip or private ip. -/
def NoMemberBlocks (rsInfo : RsInfo) (filters : String → FilterTable Packet) : Prop :=
  ∀ e ∈ rsInfo.items, ∀ p : Packet,
    (IsPeerIp rsInfo e.1 p.src → ¬ (filters e.2.ip).input.HasDropFor p) ∧
      (IsPeerIp rsInfo e.1 p.dst → ¬ (filters e.2.ip).output.HasDropFor p)

/-- Both calls unpack the same member as the primary. -/
def SamePrimary (rsInfo : RsInfo) (c₁ c₂ : Client) : Prop :=
  ∃ e ∈ rsInfo.items, ∃ host₁ host₂, UnpackedPrimary c₁ host₁ ∧ UnpackedPrimary c₂ host₂ ∧
    host₁ ∈ e.2.addresses ∧ host₂ ∈ e.2.addresses

/-- The unpacked primary is unique. -/
theorem unpackedPrimary_unique {c : Client} {host host' : String} (h : UnpackedPrimary c host)
    (h' : UnpackedPrimary c host') : host = host' := by
  rw [← defaultTarget_eq_ok_iff] at h h'
  rw [h] at h'
  exact Except.ok.inj h'

/-- A partition issued with default flags that returns has a peer to cut the member off
from. -/
theorem exists_peerIp_of_partition {remote : ℕ → ProcResult} {ip : String} {ips : List String}
    {w w' : World}
    (h : cutCommands remote ip ips (.bool false) (.bool false) w = (.ok (), w')) : ips ≠ [] := by
  obtain ⟨⟨⟩, w₁, h₁, -⟩ := Prog.bind_eq_ok_iff.mp h
  rcases sshUnless_eq_ok h₁ with ⟨hskip, -⟩ | ⟨-, -, f, hf, -⟩
  · cases hskip
  · rintro rfl
    simp [Iptables.apply] at hf

/-- **Healing by default target**: with no member blocking another before, and both calls
returning, the replica set is healed iff both calls unpack the same member as the primary.

**Proof sketch.** The first call cuts off the member it unpacks, and since it returned there
is a peer address it put a dropping rule for. The second call flushes the member it unpacks.
If that is the same member, its table is empty and the others are as before. If not, the
first member still has the rule, since the two members' hosts differ. -/
theorem recovery_heals_iff_samePrimary {remote : ℕ → ProcResult} {c₁ c₂ : Client}
    {rsInfo : RsInfo} (hd : AddressesDistinct rsInfo) {w w₁ w₂ : World}
    (hclear : NoMemberBlocks rsInfo w.filters)
    (h₁ : mockNetworkPartition remote c₁ rsInfo none (.bool false) (.bool false) w =
      (.ok (), w₁))
    (h₂ : mockNetworkPartitionRecovery remote c₂ rsInfo none w₁ = (.ok (), w₂)) :
    NoMemberBlocks rsInfo w₂.filters ↔ SamePrimary rsInfo c₁ c₂ := by
  rcases mockNetworkPartition_cases h₁ with
    ⟨⟨e, he⟩, -⟩ | ⟨t₁, node₁, info₁, hres₁, hmem₁, ht₁, hcut⟩
  · cases he
  obtain ⟨t₂, node₂, info₂, hres₂, hmem₂, ht₂, hw₂⟩ := mockNetworkPartitionRecovery_eq_ok h₂
  have hw₁ := cutCommands_eq_ok hcut
  have hp₁ : UnpackedPrimary c₁ t₁ := (defaultTarget_eq_ok_iff c₁ t₁).mp hres₁
  have hp₂ : UnpackedPrimary c₂ t₂ := (defaultTarget_eq_ok_iff c₂ t₂).mp hres₂
  have hsame : SamePrimary rsInfo c₁ c₂ ↔ info₁ = info₂ := by
    constructor
    · rintro ⟨e, he, host₁, host₂, hu₁, hu₂, ha₁, ha₂⟩
      obtain rfl := unpackedPrimary_unique hp₁ hu₁
      obtain rfl := unpackedPrimary_unique hp₂ hu₂
      exact (eq_of_mem_addresses hd hmem₁ he ht₁ ha₁).2.trans
        (eq_of_mem_addresses hd he hmem₂ ha₂ ht₂).2
    · rintro rfl
      exact ⟨_, hmem₁, t₁, t₂, hp₁, hp₂, ht₁, ht₂⟩
  rw [hsame]
  constructor
  · intro hhealed
    by_contra hne
    -- the hosts differ, so the first member's table is still the cut one
    have hip : info₁.ip ≠ info₂.ip := by
      intro hip
      refine hne (eq_of_mem_addresses hd hmem₁ hmem₂ (a := info₁.ip) ?_ ?_).2
      · simp [NodeInfo.addresses]
      · simp [NodeInfo.addresses, hip]
    obtain ⟨a, ha⟩ := List.exists_mem_of_ne_nil _ (exists_peerIp_of_partition hcut)
    have hpeer : IsPeerIp rsInfo node₁ a := (mem_peerIps rsInfo node₁ a).mp ha
    refine (hhealed _ hmem₁ ⟨a, "", "", 0⟩).1 hpeer ?_
    rw [hw₂, Function.update_of_ne hip, hw₁, Function.update_self]
    refine (Chain.hasDropFor_insertAll _ (by simp [dropSource]) _ _).mpr (Or.inl ?_)
    exact ⟨dropSource a, List.mem_map_of_mem ha, by simp [dropSource]⟩
  · rintro rfl
    intro e he p
    by_cases hip : e.2.ip = info₁.ip
    · rw [hw₂, hip, Function.update_self]
      exact ⟨fun _ => Chain.not_hasDropFor_of_rules_eq_nil rfl p,
        fun _ => Chain.not_hasDropFor_of_rules_eq_nil rfl p⟩
    · rw [hw₂, Function.update_of_ne hip, hw₁, Function.update_of_ne hip]
      exact hclear e he p

/-- Freshly started hosts block nobody. -/
theorem noMemberBlocks_freshWorld (rsInfo : RsInfo) :
    NoMemberBlocks rsInfo freshWorld.filters := by
  intro e _ p
  exact ⟨fun _ => Chain.not_hasDropFor_of_rules_eq_nil rfl p,
    fun _ => Chain.not_hasDropFor_of_rules_eq_nil rfl p⟩

theorem recovery_heals_iff_samePrimary_steady :
    ∃ w₁ w₂, mockNetworkPartition allSucceed (steadyPrimary "ec2-18-0-0-1") threeMembers none
        (.bool false) (.bool false) freshWorld = (.ok (), w₁) ∧
      mockNetworkPartitionRecovery allSucceed (steadyPrimary "ec2-18-0-0-1") threeMembers none
        w₁ = (.ok (), w₂) ∧
      (NoMemberBlocks threeMembers w₂.filters ↔ SamePrimary threeMembers
        (steadyPrimary "ec2-18-0-0-1") (steadyPrimary "ec2-18-0-0-1")) :=
  ⟨_, _, rfl, rfl, @recovery_heals_iff_samePrimary allSucceed (steadyPrimary "ec2-18-0-0-1")
    (steadyPrimary "ec2-18-0-0-1") threeMembers (by decide) freshWorld _ _
    (noMemberBlocks_freshWorld threeMembers) rfl rfl⟩

/-- While the first member is cut off, the others elect the second one; the recovery then
flushes the second member's table and the first one stays cut off. -/
theorem recovery_misses_deposed_primary :
    NoMemberBlocks threeMembers freshWorld.filters ∧
      ∃ w₁ w₂, mockNetworkPartition allSucceed (steadyPrimary "ec2-18-0-0-1") threeMembers none
        (.bool false) (.bool false) freshWorld = (.ok (), w₁) ∧
      mockNetworkPartitionRecovery allSucceed (steadyPrimary "ec2-18-0-0-2") threeMembers none
        w₁ = (.ok (), w₂) ∧ ¬ NoMemberBlocks threeMembers w₂.filters := by
  refine ⟨noMemberBlocks_freshWorld threeMembers, _, _, rfl, rfl, ?_⟩
  intro hhealed
  have hblocked := (hhealed ("mongo0", ⟨"18.0.0.1", "ec2-18-0-0-1", "172.31.0.1"⟩) (by decide)
    ⟨"172.31.0.2", "172.31.0.1", "tcp", 27017⟩).1 (by decide)
  exact hblocked ⟨dropSource "172.31.0.2", .tail _ (.tail _ (.tail _ (.head _))), rfl, by decide⟩

end PythonForFun.MongoDB
