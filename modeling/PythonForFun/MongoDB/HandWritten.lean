import PythonForFun.MongoDB.Commands
import PythonForFun.MongoDB.Recovery

set_option relaxedAutoImplicit false
set_option autoImplicit false

/-!
# The partition written out by hand

`test_network_partition` of `mongodb/replicaset/ut.py` does not call `mock_network_partition`:
it collects the other members' private and public addresses in two lists and inserts one rule
per address and direction. The helper selects its target by any of its addresses, collects the
addresses in one list and inserts them by two command lines. The chains come out in different
orders, with the same verdicts.

## Main definitions

* `MongoDB.collectMembers` — the loop over `rs_info`.
* `MongoDB.testNetworkPartition` — the test up to the end of its partition.

## Main results

* `MongoDB.testNetworkPartition_eq_ok_iff` — when the test's commands return, and the table
  they leave.
* `MongoDB.testNetworkPartition_agrees` — the test and the helper give every packet the same
  verdict.
-/

namespace PythonForFun.MongoDB

open Netfilter

/-- What the loop over `rs_info` has found so far; `orig_primary_ip` may not be bound yet. -/
structure Members where
  origPrimaryIp : Option String
  secondaryPrivateIps : List String
  secondaryPublicIps : List String

/-- One pass of the loop over `rs_info`. -/
def collectMember (origPrimaryDns : String) (m : Members) (e : String × NodeInfo) : Members :=
  if e.2.dns = origPrimaryDns then { m with origPrimaryIp := some e.2.ip }
  else { m with
    secondaryPrivateIps := m.secondaryPrivateIps ++ [e.2.privateIp]
    secondaryPublicIps := m.secondaryPublicIps ++ [e.2.ip] }

/-- The loop over `rs_info`. -/
def collectMembers (rsInfo : RsInfo) (origPrimaryDns : String) : Members :=
  rsInfo.items.foldl (collectMember origPrimaryDns) ⟨none, [], []⟩

/-- `test_network_partition` up to the end of its partition: the primary is read once. -/
def testNetworkPartition (remote : ℕ → ProcResult) (c : Client) (rsInfo : RsInfo) :
    Prog PyErr World Unit :=
  match c 0 with
  | none => Prog.raise .typeError
  | some (origPrimaryDns, _port) =>
    let m := collectMembers rsInfo origPrimaryDns
    match m.origPrimaryIp with
    | none => Prog.raise (.nameError "orig_primary_ip")
    | some origPrimaryIp => do
      forM m.secondaryPrivateIps fun secondaryPrivateIp => do
        let _ ← ssh remote origPrimaryIp (.insertInputSource [secondaryPrivateIp])
        let _ ← ssh remote origPrimaryIp (.insertOutputDestination [secondaryPrivateIp])
      forM m.secondaryPublicIps fun secondaryPublicIp => do
        let _ ← ssh remote origPrimaryIp (.insertInputSource [secondaryPublicIp])
        let _ ← ssh remote origPrimaryIp (.insertOutputDestination [secondaryPublicIp])

/-! ## What the loop collects -/

/-- The addresses of the members that are not the primary, the private ones first. -/
def secondaryIps (rsInfo : RsInfo) (origPrimaryDns : String) : List String :=
  (collectMembers rsInfo origPrimaryDns).secondaryPrivateIps ++
    (collectMembers rsInfo origPrimaryDns).secondaryPublicIps

/-- The loop keeps the last match in one place and appends the rest to the two lists.

**Proof sketch.** Induction on the items, for arbitrary findings so far. -/
theorem foldl_collectMember (dns : String) (l : List (String × NodeInfo)) (m : Members) :
    l.foldl (collectMember dns) m =
      ⟨l.foldl (fun ip e => if e.2.dns = dns then some e.2.ip else ip) m.origPrimaryIp,
        m.secondaryPrivateIps ++ (l.filter fun e => e.2.dns ≠ dns).map fun e => e.2.privateIp,
        m.secondaryPublicIps ++ (l.filter fun e => e.2.dns ≠ dns).map fun e => e.2.ip⟩ := by
  induction l generalizing m with
  | nil => simp
  | cons e l ih =>
    rw [List.foldl_cons, List.foldl_cons, ih]
    by_cases he : e.2.dns = dns
    · simp [collectMember, he]
    · simp [collectMember, he]

/-- The primary's public ip is found by its dns. -/
theorem origPrimaryIp_collectMembers {rsInfo : RsInfo} (hd : AddressesDistinct rsInfo)
    {node : String} {info : NodeInfo} (hmem : (node, info) ∈ rsInfo.items) :
    (collectMembers rsInfo info.dns).origPrimaryIp = some info.ip := by
  rw [collectMembers, foldl_collectMember]
  rcases foldl_last_match (fun e : String × NodeInfo => e.2.dns = info.dns) (fun e => e.2.ip)
    rsInfo.items none with ⟨-, hno⟩ | ⟨e, he, hdns, hlast⟩
  · exact absurd rfl (hno _ hmem)
  · obtain ⟨-, hinfo⟩ := eq_of_mem_addresses hd he hmem (a := info.dns)
      (by simp [NodeInfo.addresses, hdns]) (by simp [NodeInfo.addresses])
    rw [hlast, hinfo]

/-- The members with another dns than the primary are the other members, so both traversals
collect the same addresses. -/
theorem mem_secondaryIps {rsInfo : RsInfo} (hd : AddressesDistinct rsInfo) {node : String}
    {info : NodeInfo} (hmem : (node, info) ∈ rsInfo.items) (a : String) :
    a ∈ secondaryIps rsInfo info.dns ↔ a ∈ peerIps rsInfo node := by
  have hother : ∀ e ∈ rsInfo.items, e.2.dns ≠ info.dns ↔ e.1 ≠ node := by
    intro e he
    refine not_congr ⟨fun hdns => ?_, fun hnode => ?_⟩
    · exact (eq_of_mem_addresses hd he hmem (a := info.dns)
        (by simp [NodeInfo.addresses, hdns]) (by simp [NodeInfo.addresses])).1
    · rw [rsInfo.eq_of_key_eq he hmem hnode]
  have hmatch : a ∈ secondaryIps rsInfo info.dns ↔
      ∃ e ∈ rsInfo.items, e.2.dns ≠ info.dns ∧ (a = e.2.privateIp ∨ a = e.2.ip) := by
    simp only [secondaryIps, collectMembers, foldl_collectMember, List.nil_append,
      List.mem_append, List.mem_map, List.mem_filter, decide_eq_true_eq]
    constructor
    · rintro (⟨e, ⟨he, hne⟩, rfl⟩ | ⟨e, ⟨he, hne⟩, rfl⟩)
      · exact ⟨e, he, hne, Or.inl rfl⟩
      · exact ⟨e, he, hne, Or.inr rfl⟩
    · rintro ⟨e, he, hne, rfl | rfl⟩
      · exact Or.inl ⟨e, ⟨he, hne⟩, rfl⟩
      · exact Or.inr ⟨e, ⟨he, hne⟩, rfl⟩
  rw [hmatch, mem_peerIps]
  constructor
  · rintro ⟨e, he, hne, ha⟩
    exact ⟨e, he, (hother e he).mp hne, ha⟩
  · rintro ⟨e, he, hne, ha⟩
    exact ⟨e, he, (hother e he).mpr hne, ha⟩

/-! ## The two partitions -/

/-- The test returns when its commands exit with `0`, with the primary's host cut off from the
collected addresses. -/
theorem testNetworkPartition_eq_ok_iff {remote : ℕ → ProcResult} {c : Client} {rsInfo : RsInfo}
    (hd : AddressesDistinct rsInfo) {node : String} {info : NodeInfo}
    (hmem : (node, info) ∈ rsInfo.items) {port : ℕ} (hprimary : c 0 = some (info.dns, port))
    {w w' : World} :
    testNetworkPartition remote c rsInfo w = (.ok (), w') ↔
      (∀ i < (blockAddresses info.ip (secondaryIps rsInfo info.dns)).length,
        (remote (w.issued + i)).returncode = 0) ∧
        w' = ⟨Function.update w.filters info.ip (cutFilter (secondaryIps rsInfo info.dns)
            (.bool false) (.bool false) (w.filters info.ip)),
          w.issued + (blockAddresses info.ip (secondaryIps rsInfo info.dns)).length⟩ := by
  have hcmds : testNetworkPartition remote c rsInfo =
      sshAll remote (blockAddresses info.ip (secondaryIps rsInfo info.dns)) := by
    simp only [testNetworkPartition, hprimary, origPrimaryIp_collectMembers hd hmem,
      forM_blockAddress]
    rw [secondaryIps, blockAddresses_append, sshAll_append]
  rw [hcmds, sshAll_eq_ok_iff, foldlM_effect_blockAddresses]
  simp

/-- The helper, called for a member by any of its addresses, issues two command lines. -/
theorem mockNetworkPartition_eq_sshAll {remote : ℕ → ProcResult} {c : Client} {rsInfo : RsInfo}
    (hd : AddressesDistinct rsInfo) {node : String} {info : NodeInfo}
    (hmem : (node, info) ∈ rsInfo.items) {target : Option String} {t : String}
    (hres : resolveTarget c target = .ok t) (ht : t ∈ info.addresses) :
    mockNetworkPartition remote c rsInfo target (.bool false) (.bool false) =
      sshAll remote [(info.ip, .insertInputSource (peerIps rsInfo node)),
        (info.ip, .insertOutputDestination (peerIps rsInfo node))] := by
  rw [mockNetworkPartition_of_found hres (findTargetNode_of_mem hd hmem ht)
    (rsInfo.get?_eq_some_iff.mpr hmem)]
  simp only [cutCommands, sshUnless, Value.isFalse, if_true, sshAll, List.forM_cons,
    List.forM_nil, bind_assoc, pure_bind]

/-- The helper's command lines are accepted iff there is an address to cut the member off
from. -/
theorem foldlM_effect_peerIps (filters : String → FilterTable Packet) (ip : String)
    (ips : List String) :
    [(ip, Iptables.insertInputSource ips), (ip, .insertOutputDestination ips)].foldlM effect
        filters =
      if ips = [] then none
      else some (Function.update filters ip
        (cutFilter ips (.bool false) (.bool false) (filters ip))) := by
  by_cases hips : ips = []
  · simp [effect, Iptables.apply, hips]
  · simp [effect, Iptables.apply, hips, cutFilter, Value.isFalse]

/-- A call of the helper that returns, or one for a replica set of one, leaves the member's host
cut off from the other members' addresses: the latter are none, and the first of its two command
lines is refused. -/
theorem mockNetworkPartition_filters {remote : ℕ → ProcResult} {c : Client} {rsInfo : RsInfo}
    (hd : AddressesDistinct rsInfo) {node : String} {info : NodeInfo}
    (hmem : (node, info) ∈ rsInfo.items) {target : Option String} {t : String}
    (hres : resolveTarget c target = .ok t) (ht : t ∈ info.addresses) {w w' : World}
    {r : Except PyErr Unit}
    (h : mockNetworkPartition remote c rsInfo target (.bool false) (.bool false) w = (r, w'))
    (hr : r = .ok () ∨ ∀ e ∈ rsInfo.items, e.1 = node) :
    w'.filters = Function.update w.filters info.ip
      (cutFilter (peerIps rsInfo node) (.bool false) (.bool false) (w.filters info.ip)) := by
  rw [mockNetworkPartition_eq_sshAll hd hmem hres ht] at h
  by_cases hpeers : peerIps rsInfo node = []
  · have hrefused : effect w.filters (info.ip, .insertInputSource []) = none := rfl
    have hsame : cutFilter [] (.bool false) (.bool false) (w.filters info.ip) =
        w.filters info.ip := rfl
    rw [hpeers] at h
    rw [sshAll_of_refused hrefused h, hpeers, hsame, Function.update_eq_self]
  · have hok : r = .ok () := by
      rcases hr with hok | hno
      · exact hok
      · obtain ⟨e, he, hne⟩ := (peerIps_ne_nil_iff rsInfo node).mp hpeers
        exact absurd (hno e he) hne
    rw [hok, sshAll_eq_ok_iff, foldlM_effect_peerIps, if_neg hpeers] at h
    obtain ⟨-, filters, hsome, rfl⟩ := h
    exact (Option.some.inj hsome).symm

/-- Both partitions touched the host at `ip` only, and give every packet the same verdict
there. -/
structure SameVerdicts (ip : String) (before after₁ after₂ : String → FilterTable Packet) :
    Prop where
  input : ∀ p, (after₁ ip).input.verdict p = (after₂ ip).input.verdict p
  output : ∀ p, (after₁ ip).output.verdict p = (after₂ ip).output.verdict p
  forward : (after₁ ip).forward = (after₂ ip).forward
  other_hosts : ∀ host, host ≠ ip → after₁ host = before host ∧ after₂ host = before host

/-- Tables cut off from the same addresses, listed in whatever order, give the same verdicts. -/
theorem sameVerdicts_update {ips ips' : List String} (hsame : ∀ a, a ∈ ips ↔ a ∈ ips')
    (ip : String) (filters : String → FilterTable Packet) :
    SameVerdicts ip filters
      (Function.update filters ip (cutFilter ips (.bool false) (.bool false) (filters ip)))
      (Function.update filters ip
        (cutFilter ips' (.bool false) (.bool false) (filters ip))) := by
  have hverdict := fun (l : List String) (p : Packet) =>
    verdict_cutFilter l (.bool false) (.bool false) (filters ip) p
  constructor
  · intro p
    rw [Function.update_self, Function.update_self, (hverdict ips p).1, (hverdict ips' p).1]
    simp only [hsame]
  · intro p
    rw [Function.update_self, Function.update_self, (hverdict ips p).2, (hverdict ips' p).2]
    simp only [hsame]
  · rw [Function.update_self, Function.update_self]
    rfl
  · intro host hne
    exact ⟨Function.update_of_ne hne _ _, Function.update_of_ne hne _ _⟩

/-- **The partition by hand and the helper agree**: with the same primary, both cut the host of
the primary only, and give every packet the same verdict there. The test returns whenever its
commands succeed; so does the helper if there is another member, while for a replica set of one
its command line has no address to name, and both leave the tables alone.

**Proof sketch.** The test finds the primary by its dns, the helper by any of its addresses.
Each cuts the primary's host off from the members it did not find, in its own order, and the
verdicts depend on the set of addresses only (`sameVerdicts_update`). -/
theorem testNetworkPartition_agrees (remote₁ remote₂ : ℕ → ProcResult) {c₁ c₂ : Client}
    {rsInfo : RsInfo} (hd : AddressesDistinct rsInfo) {node : String} {info : NodeInfo}
    (hmem : (node, info) ∈ rsInfo.items) {port : ℕ} (hprimary : c₁ 0 = some (info.dns, port))
    {target : Option String} (hres : resolveTarget c₂ target = .ok info.dns) (w : World) :
    (∀ w₁ r w₂, testNetworkPartition remote₁ c₁ rsInfo w = (.ok (), w₁) →
        mockNetworkPartition remote₂ c₂ rsInfo target (.bool false) (.bool false) w = (r, w₂) →
        (r = .ok () ∨ ∀ e ∈ rsInfo.items, e.1 = node) →
        SameVerdicts info.ip w.filters w₁.filters w₂.filters) ∧
      ((∀ n, (remote₁ n).returncode = 0) →
        ∃ w₁, testNetworkPartition remote₁ c₁ rsInfo w = (.ok (), w₁)) ∧
      ((∀ n, (remote₂ n).returncode = 0) →
        ((∃ w₂, mockNetworkPartition remote₂ c₂ rsInfo target (.bool false) (.bool false) w =
            (.ok (), w₂)) ↔ ∃ e ∈ rsInfo.items, e.1 ≠ node)) := by
  have hdns : info.dns ∈ info.addresses := by simp [NodeInfo.addresses]
  have hreturn := fun w₁ => @testNetworkPartition_eq_ok_iff remote₁ c₁ rsInfo hd node info hmem
    port hprimary w w₁
  refine ⟨fun w₁ r w₂ h₁ h₂ hr => ?_, fun hcodes => ?_, fun hcodes => ?_⟩
  · obtain ⟨-, rfl⟩ := (hreturn w₁).mp h₁
    rw [mockNetworkPartition_filters hd hmem hres hdns h₂ hr]
    exact sameVerdicts_update (mem_secondaryIps hd hmem) info.ip w.filters
  · exact ⟨_, (hreturn _).mpr ⟨fun i _ => hcodes _, rfl⟩⟩
  · rw [← peerIps_ne_nil_iff, mockNetworkPartition_eq_sshAll hd hmem hres hdns]
    simp only [sshAll_eq_ok_iff, foldlM_effect_peerIps]
    constructor
    · rintro ⟨w₂, -, filters, hsome, -⟩ hnil
      rw [if_pos hnil] at hsome
      cases hsome
    · intro hne
      exact ⟨_, fun i _ => hcodes _, _, if_neg hne, rfl⟩

theorem testNetworkPartition_agrees_threeMembers :
    ∃ w₁ w₂, testNetworkPartition allSucceed (steadyPrimary "ec2-18-0-0-1") threeMembers
        guardedWorld = (.ok (), w₁) ∧
      mockNetworkPartition allSucceed (steadyPrimary "ec2-18-0-0-1") threeMembers none
        (.bool false) (.bool false) guardedWorld = (.ok (), w₂) ∧
      SameVerdicts "18.0.0.1" guardedWorld.filters w₁.filters w₂.filters := by
  obtain ⟨hsame, htest, hhelper⟩ := @testNetworkPartition_agrees allSucceed allSucceed
    (steadyPrimary "ec2-18-0-0-1") (steadyPrimary "ec2-18-0-0-1") threeMembers (by decide)
    "mongo0" ⟨"18.0.0.1", "ec2-18-0-0-1", "172.31.0.1"⟩ (by decide) 27017 rfl none rfl
    guardedWorld
  obtain ⟨w₁, h₁⟩ := htest fun _ => rfl
  obtain ⟨w₂, h₂⟩ := (hhelper fun _ => rfl).mpr (by decide)
  exact ⟨w₁, w₂, h₁, h₂, hsame w₁ (.ok ()) w₂ h₁ h₂ (Or.inl rfl)⟩

/-- **The rules of the two partitions**: the test puts those for the private addresses behind those
for the public ones, the helper keeps the two addresses of a member together. -/
theorem input_rules_of_partitions {remote₁ remote₂ : ℕ → ProcResult} {c₁ c₂ : Client}
    {rsInfo : RsInfo} (hd : AddressesDistinct rsInfo) {node : String} {info : NodeInfo}
    (hmem : (node, info) ∈ rsInfo.items) {port : ℕ} (hprimary : c₁ 0 = some (info.dns, port))
    {target : Option String} (hres : resolveTarget c₂ target = .ok info.dns) {w w₁ w₂ : World}
    (h₁ : testNetworkPartition remote₁ c₁ rsInfo w = (.ok (), w₁))
    (h₂ : mockNetworkPartition remote₂ c₂ rsInfo target (.bool false) (.bool false) w =
      (.ok (), w₂)) :
    (w₁.filters info.ip).input.rules =
        ((secondaryIps rsInfo info.dns).map dropSource).reverse ++
          (w.filters info.ip).input.rules ∧
      (w₂.filters info.ip).input.rules =
        ((peerIps rsInfo node).map dropSource).reverse ++ (w.filters info.ip).input.rules := by
  have hdns : info.dns ∈ info.addresses := by simp [NodeInfo.addresses]
  constructor
  · obtain ⟨-, rfl⟩ := (testNetworkPartition_eq_ok_iff hd hmem hprimary).mp h₁
    dsimp only
    rw [Function.update_self, input_rules_cutFilter]
  · rw [mockNetworkPartition_filters hd hmem hres hdns h₂ (Or.inl rfl), Function.update_self,
      input_rules_cutFilter]

/-- For three members the orders differ. -/
example {w₁ w₂ : World}
    (h₁ : testNetworkPartition allSucceed (steadyPrimary "ec2-18-0-0-1") threeMembers freshWorld =
      (.ok (), w₁))
    (h₂ : mockNetworkPartition allSucceed (steadyPrimary "ec2-18-0-0-1") threeMembers none
      (.bool false) (.bool false) freshWorld = (.ok (), w₂)) :
    (w₁.filters "18.0.0.1").input.rules =
        ["18.0.0.3", "18.0.0.2", "172.31.0.3", "172.31.0.2"].map dropSource ∧
      (w₂.filters "18.0.0.1").input.rules =
        ["18.0.0.3", "172.31.0.3", "18.0.0.2", "172.31.0.2"].map dropSource := by
  have hsecondary : secondaryIps threeMembers "ec2-18-0-0-1" =
      ["172.31.0.2", "172.31.0.3", "18.0.0.2", "18.0.0.3"] := by decide
  have hpeers : peerIps threeMembers "mongo0" =
      ["172.31.0.2", "18.0.0.2", "172.31.0.3", "18.0.0.3"] := by decide
  have hmem : ("mongo0", ⟨"18.0.0.1", "ec2-18-0-0-1", "172.31.0.1"⟩) ∈ threeMembers.items := by
    decide
  obtain ⟨hrules₁, hrules₂⟩ := input_rules_of_partitions (by decide) hmem rfl rfl h₁ h₂
  rw [hrules₁, hrules₂, hsecondary, hpeers]
  exact ⟨rfl, rfl⟩

end PythonForFun.MongoDB
