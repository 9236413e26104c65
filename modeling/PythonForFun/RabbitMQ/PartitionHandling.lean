import PythonForFun.RabbitMQ.Partition

set_option relaxedAutoImplicit false
set_option autoImplicit false

/-!
# Partitions in the tests of the handling strategies

`test_partition_handling_strategy_pause_minority` and
`test_partition_handling_strategy_pause_if_all_down` cut four nodes in two halves by eight command
lines written out one by one, where `test_recovering_from_partition_by_restarting_all_nodes` has
nested loops. They heal the hosts by flushing them, where that test deletes as many rules as it
has inserted.

## Main definitions

* `RabbitMQ.mockingNetworkFailure`, `RabbitMQ.mockingNetworkRestoration`.

## Main results

* `RabbitMQ.mockingNetworkFailure_eq_loops` — the eight lines are the loops.
* `RabbitMQ.flushed_iff_noRules` — flushing gives the old tables back iff they had no rules.
-/

namespace PythonForFun.RabbitMQ

open Netfilter
open MongoDB (World effect sshAll sshAll_eq_ok_iff blockAddresses forM_blockAddress NoRules)

/-- `run(f"ssh ... ec2-user@{ips[node]} sudo iptables ...")`. -/
def sshTo (remote : ℕ → ProcResult) (ips : Dict String String) (node : String) (cmd : Iptables) :
    Prog PyErr World Unit := do
  let ip ← Prog.ofExcept (getItem ips node)
  let _ ← ssh remote ip cmd

/-- "Mocking network failure" of the tests with four nodes. -/
def mockingNetworkFailure (remote : ℕ → ProcResult) (ips snames : Dict String String) :
    Prog PyErr World Unit := do
  let sname₁ ← Prog.ofExcept (getItem snames "rabbit1")
  let sname₂ ← Prog.ofExcept (getItem snames "rabbit2")
  let internalIpRabbit1 := internalIp sname₁
  let internalIpRabbit2 := internalIp sname₂
  sshTo remote ips "rabbit3" (.insertInputSource [internalIpRabbit1])
  sshTo remote ips "rabbit3" (.insertOutputDestination [internalIpRabbit1])
  sshTo remote ips "rabbit3" (.insertInputSource [internalIpRabbit2])
  sshTo remote ips "rabbit3" (.insertOutputDestination [internalIpRabbit2])
  sshTo remote ips "rabbit4" (.insertInputSource [internalIpRabbit1])
  sshTo remote ips "rabbit4" (.insertOutputDestination [internalIpRabbit1])
  sshTo remote ips "rabbit4" (.insertInputSource [internalIpRabbit2])
  sshTo remote ips "rabbit4" (.insertOutputDestination [internalIpRabbit2])

/-- "Mocking network restoration" of the same tests. -/
def mockingNetworkRestoration (remote : ℕ → ProcResult) (ips : Dict String String) :
    Prog PyErr World Unit := do
  sshTo remote ips "rabbit3" .flush
  sshTo remote ips "rabbit4" .flush

section

variable {remote : ℕ → ProcResult} {ips snames : Dict String String}
  {ip₃ ip₄ sname₁ sname₂ : String}

/-- **The eight lines are the loops.** -/
theorem mockingNetworkFailure_eq_loops (h₃ : ips.get? "rabbit3" = some ip₃)
    (h₄ : ips.get? "rabbit4" = some ip₄) (h₁ : snames.get? "rabbit1" = some sname₁)
    (h₂ : snames.get? "rabbit2" = some sname₂) :
    mockingNetworkFailure remote ips snames = mockNetworkFailureByAddress remote ips snames := by
  simp only [mockingNetworkFailure, mockNetworkFailureByAddress, sshTo, getItem_of_get? h₃,
    getItem_of_get? h₄, getItem_of_get? h₁, getItem_of_get? h₂,
    getItem_of_get? (get?_internalIps h₁), getItem_of_get? (get?_internalIps h₂),
    Prog.ofExcept_ok, pure_bind, List.forM_cons, List.forM_nil, bind_assoc]

/-- A host after it was flushed. -/
def flushHost (filters : String → FilterTable Packet) (ip : String) :
    String → FilterTable Packet :=
  Function.update filters ip (filters ip).flush

/-- The restoration returns when its two commands exit with `0`, with both hosts flushed. -/
theorem mockingNetworkRestoration_eq_ok_iff (h₃ : ips.get? "rabbit3" = some ip₃)
    (h₄ : ips.get? "rabbit4" = some ip₄) {w w' : World} :
    mockingNetworkRestoration remote ips w = (.ok (), w') ↔
      (∀ i < 2, (remote (w.issued + i)).returncode = 0) ∧
        w' = ⟨flushHost (flushHost w.filters ip₃) ip₄, w.issued + 2⟩ := by
  have hcmds : mockingNetworkRestoration remote ips =
      sshAll remote [(ip₃, .flush), (ip₄, .flush)] := by
    simp only [mockingNetworkRestoration, sshTo, getItem_of_get? h₃, getItem_of_get? h₄,
      Prog.ofExcept_ok, pure_bind, ssh_eq, sshAll, List.forM_cons, List.forM_nil, bind_assoc]
  rw [hcmds, sshAll_eq_ok_iff]
  simp [effect, Iptables.apply, flushHost]

/-- A flushed chain is the old one iff that had no rules. -/
theorem flush_chain_eq_iff (c : Chain Packet) : c.flush = c ↔ c.rules = [] := by
  constructor
  · intro h
    rw [← h]
    rfl
  · intro h
    rw [Chain.flush, ← h]

/-- A flushed table is the old one iff that had no rules. -/
theorem flush_eq_iff (f : FilterTable Packet) : f.flush = f ↔ NoRules f := by
  rw [NoRules, ← flush_chain_eq_iff, ← flush_chain_eq_iff, ← flush_chain_eq_iff]
  constructor
  · intro h
    exact ⟨congrArg FilterTable.input h, congrArg FilterTable.output h,
      congrArg FilterTable.forward h⟩
  · rintro ⟨hinput, houtput, hforward⟩
    rw [FilterTable.flush, hinput, houtput, hforward]

/-- Flushing forgets what a host was cut off from. -/
theorem flush_cutHost (addrs : List String) (filters : String → FilterTable Packet)
    (ip host : String) :
    (cutHost addrs filters ip host).flush = (filters host).flush := by
  by_cases h : host = ip
  · rw [cutHost, h, Function.update_self]
    simp [FilterTable.flush, Chain.flush, MongoDB.cutFilter, Value.isFalse]
  · rw [cutHost, Function.update_of_ne h]

/-- The tables after flushing two hosts. -/
theorem flushHost_flushHost (filters : String → FilterTable Packet) (ip ip' host : String) :
    flushHost (flushHost filters ip) ip' host =
      if host = ip ∨ host = ip' then (filters host).flush else filters host := by
  have hidem : ∀ f : FilterTable Packet, f.flush.flush = f.flush := fun _ => rfl
  unfold flushHost
  by_cases h' : host = ip'
  · rw [h', Function.update_self, if_pos (Or.inr rfl)]
    by_cases h : ip' = ip
    · rw [h, Function.update_self, hidem]
    · rw [Function.update_of_ne h]
  · rw [Function.update_of_ne h']
    by_cases h : host = ip
    · rw [h, Function.update_self, if_pos (Or.inl rfl)]
    · rw [Function.update_of_ne h, if_neg (not_or.mpr ⟨h, h'⟩)]

/-- **Failure and restoration of the handling tests**: the eight lines are the loops of the other
test, and the halves are cut off from each other exactly. The restoration empties the tables of
`rabbit3` and `rabbit4` and touches no other one. So it gives the old tables back, as the
deletions of the other test always do, iff both hosts had no rules before. -/
theorem flushed_iff_noRules (h₃ : ips.get? "rabbit3" = some ip₃)
    (h₄ : ips.get? "rabbit4" = some ip₄) (h₁ : snames.get? "rabbit1" = some sname₁)
    (h₂ : snames.get? "rabbit2" = some sname₂) {w w₁ : World}
    (hfailure : mockingNetworkFailure remote ips snames w = (.ok (), w₁)) :
    mockNetworkFailureByAddress remote ips snames w = (.ok (), w₁) ∧
      CutInHalves ip₃ ip₄ [internalIp sname₁, internalIp sname₂] w.filters w₁.filters ∧
      ∀ w₂ w₃, w₂.filters = w₁.filters → mockingNetworkRestoration remote ips w₂ = (.ok (), w₃) →
        (∀ host ∈ [ip₃, ip₄], NoRules (w₃.filters host)) ∧
        (∀ host ∉ [ip₃, ip₄], w₃.filters host = w.filters host) ∧
        (w₃.filters = w.filters ↔ NoRules (w.filters ip₃) ∧ NoRules (w.filters ip₄)) ∧
        ∀ w₄ w₅, w₄.filters = w₁.filters →
          mockNetworkRestoringByAddress remote ips w₄ = (.ok (), w₅) → w₅.filters = w.filters := by
  rw [mockingNetworkFailure_eq_loops h₃ h₄ h₁ h₂] at hfailure
  obtain ⟨-, rfl⟩ := (mockNetworkFailureByAddress_eq_ok_iff h₃ h₄ h₁ h₂).mp hfailure
  refine ⟨hfailure, cutInHalves_foldl ip₃ ip₄ _ w.filters, fun w₂ w₃ hw₂ hrestore => ?_⟩
  obtain ⟨-, rfl⟩ := (mockingNetworkRestoration_eq_ok_iff h₃ h₄).mp hrestore
  -- whatever was cut, a flushed host shows nothing of it
  have hhost : ∀ host, flushHost (flushHost w₂.filters ip₃) ip₄ host =
      if host = ip₃ ∨ host = ip₄ then (w.filters host).flush else w.filters host := by
    intro host
    rw [flushHost_flushHost, hw₂]
    simp only [List.foldl_cons, List.foldl_nil]
    split_ifs with h
    · rw [flush_cutHost, flush_cutHost]
    · rw [not_or] at h
      rw [cutHost, Function.update_of_ne h.2, cutHost, Function.update_of_ne h.1]
  refine ⟨fun host hmem => ?_, fun host hmem => ?_, ?_, fun w₄ w₅ hw₄ hdelete => ?_⟩
  · show NoRules (flushHost (flushHost w₂.filters ip₃) ip₄ host)
    rw [hhost, if_pos (by simpa using hmem)]
    exact ⟨rfl, rfl, rfl⟩
  · show flushHost (flushHost w₂.filters ip₃) ip₄ host = w.filters host
    rw [hhost, if_neg (by simpa using hmem)]
  · show flushHost (flushHost w₂.filters ip₃) ip₄ = w.filters ↔ _
    rw [funext_iff]
    simp only [hhost]
    constructor
    · intro h
      have hip₃ := h ip₃
      have hip₄ := h ip₄
      rw [if_pos (Or.inl rfl)] at hip₃
      rw [if_pos (Or.inr rfl)] at hip₄
      exact ⟨(flush_eq_iff _).mp hip₃, (flush_eq_iff _).mp hip₄⟩
    · rintro ⟨hip₃, hip₄⟩ host
      split_ifs with h
      · rcases h with rfl | rfl
        · exact (flush_eq_iff _).mpr hip₃
        · exact (flush_eq_iff _).mpr hip₄
      · rfl
  · obtain ⟨-, rfl⟩ := (mockNetworkRestoringByAddress_eq_ok_iff h₃ h₄ hw₄).mp hdelete
    rfl

end

theorem flushed_iff_noRules_guarded :
    ∃ w₁ w₃, mockingNetworkFailure MongoDB.allSucceed fourIps fourNames MongoDB.guardedWorld =
        (.ok (), w₁) ∧
      mockingNetworkRestoration MongoDB.allSucceed fourIps w₁ = (.ok (), w₃) ∧
      (w₃.filters = MongoDB.guardedWorld.filters ↔
        NoRules (MongoDB.guardedWorld.filters "18.0.0.3") ∧
          NoRules (MongoDB.guardedWorld.filters "18.0.0.4")) :=
  ⟨_, _, rfl, rfl, ((@flushed_iff_noRules MongoDB.allSucceed fourIps fourNames "18.0.0.3"
    "18.0.0.4" "ip-172-31-0-1" "ip-172-31-0-2" rfl rfl rfl rfl MongoDB.guardedWorld _ rfl).2.2 _ _
    rfl rfl).2.2.1⟩

end PythonForFun.RabbitMQ
