import PythonForFun.MongoDB.Commands
import PythonForFun.MongoDB.Recovery
import PythonForFun.RabbitMQ.Translate

set_option relaxedAutoImplicit false
set_option autoImplicit false

/-!
# Network partitions of a RabbitMQ cluster

The partition tests of `rabbitmq/cluster/ut.py` cut nodes off by `iptables` command lines on
their hosts and heal them by deleting rules again. The partition by port appends its two rules
at the end of the chains and later deletes the first rule of each; the partition of four nodes
in two halves inserts its rules at the head and deletes as many from there. The hosts' tables
are a `MongoDB.World`, as in the tests of the replica set.

## Main definitions

* `RabbitMQ.run`, `RabbitMQ.ssh` — `run` and a remote `iptables` command.
* `RabbitMQ.mockNetworkFailureByPort`, `RabbitMQ.mockNetworkRestoringByPort`.
* `RabbitMQ.mockNetworkFailureByAddress`, `RabbitMQ.mockNetworkRestoringByAddress`.

## Main results

* `RabbitMQ.portPartition_undone_iff` — when the partition by port is undone.
* `RabbitMQ.halvesPartition_cuts_and_restores` — the two halves are cut off from each other
  exactly, and every table is restored.
-/

namespace PythonForFun.RabbitMQ

open Netfilter
open MongoDB (World effect sshAll sshAll_eq_ok_iff forM_sshAll blockAddresses
  forM_blockAddress cutFilter)

/-! ## Remote commands -/

/-- `run(script, quiet, timeout, translation)` on the outcome of the script's process. -/
def run (proc : ProcResult) (quiet : Value := .bool false)
    (translation : Option (Dict String String) := none) : Except PyErr (String × String) :=
  let stdoutStr := rstripNewlines proc.stdout
  let stderrStr := rstripNewlines proc.stderr
  let (stdoutStr, stderrStr) := match translation with
    | none => (stdoutStr, stderrStr)
    | some translation => (translate stdoutStr translation, translate stderrStr translation)
  if quiet.isFalse ∧ proc.returncode ≠ 0 then
    .error (.commandFailed proc.returncode stderrStr)
  else .ok (stdoutStr, stderrStr)

/-- `run(f"ssh ... ec2-user@{ip} sudo iptables ...")`. The outcome of the `n`-th remote
command is `remote n`; a command `iptables` refuses exits non-zero whatever the remote side
would say. -/
def ssh (remote : ℕ → ProcResult) (ip : String) (cmd : Iptables) :
    Prog PyErr World (String × String) := fun w =>
  let proc := remote w.issued
  let w' : World := { w with issued := w.issued + 1 }
  match cmd.apply (w.filters ip) with
  | none => (run { proc with returncode := if proc.returncode = 0 then 2 else proc.returncode },
      w')
  | some f =>
    (run proc, if proc.returncode = 0 then
      { w' with filters := Function.update w.filters ip f } else w')

/-- A remote `iptables` command of these tests is one of the replica-set tests. -/
theorem ssh_eq (remote : ℕ → ProcResult) (ip : String) (cmd : Iptables) :
    ssh remote ip cmd = MongoDB.ssh remote ip cmd := rfl

/-! ## The partition by port -/

/-- "Mock network failure" of `test_partition_with_ha`, `test_partition_without_ha` and
`test_recovering_from_partition_by_restarting_nodes_in_untrust_partition`. -/
def mockNetworkFailureByPort (remote : ℕ → ProcResult) (ips : Dict String String) :
    Prog PyErr World Unit := do
  let ip ← Prog.ofExcept (getItem ips "rabbit2")
  let _ ← ssh remote ip (.appendInputDport 25672)
  let _ ← ssh remote ip (.appendOutputDport 25672)

/-- "Mock network restoring" ("Recovering network") of the same tests. -/
def mockNetworkRestoringByPort (remote : ℕ → ProcResult) (ips : Dict String String) :
    Prog PyErr World Unit := do
  let ip ← Prog.ofExcept (getItem ips "rabbit2")
  let _ ← ssh remote ip (.deleteInput 1)
  let _ ← ssh remote ip (.deleteOutput 1)

/-- A filter table that the two rules were appended to. -/
def portFilter (f : FilterTable Packet) : FilterTable Packet :=
  { f with input := f.input.append (dropDport 25672), output := f.output.append (dropDport 25672) }

/-- A filter table that the two rules were appended to and the two first rules were then
deleted from. -/
def portRestoredFilter (f : FilterTable Packet) : FilterTable Packet :=
  { f with
    input := { f.input with rules := (f.input.rules ++ [dropDport 25672]).tail }
    output := { f.output with rules := (f.output.rules ++ [dropDport 25672]).tail } }

section ByPort

variable {remote : ℕ → ProcResult} {ips : Dict String String} {ip : String}
  (hip : ips.get? "rabbit2" = some ip) {w w' : World}

include hip

/-- The failure returns when its two commands exit with `0`, with the rules appended. -/
theorem mockNetworkFailureByPort_eq_ok_iff :
    mockNetworkFailureByPort remote ips w = (.ok (), w') ↔
      (∀ i < 2, (remote (w.issued + i)).returncode = 0) ∧
        w' = ⟨Function.update w.filters ip (portFilter (w.filters ip)), w.issued + 2⟩ := by
  have hcmds : mockNetworkFailureByPort remote ips =
      sshAll remote [(ip, .appendInputDport 25672), (ip, .appendOutputDport 25672)] := by
    simp only [mockNetworkFailureByPort, getItem_of_get? hip, Prog.ofExcept_ok, pure_bind, ssh_eq,
      sshAll, List.forM_cons, List.forM_nil, bind_assoc]
  have heffect : [(ip, Iptables.appendInputDport 25672), (ip, .appendOutputDport 25672)].foldlM
      effect w.filters = some (Function.update w.filters ip (portFilter (w.filters ip))) := by
    simp [effect, Iptables.apply, portFilter]
  rw [hcmds, sshAll_eq_ok_iff, heffect]
  simp

/-- The restoring returns on an appended-to table when its two commands exit with `0`. -/
theorem mockNetworkRestoringByPort_eq_ok_iff {f : FilterTable Packet}
    (hf : w.filters ip = portFilter f) :
    mockNetworkRestoringByPort remote ips w = (.ok (), w') ↔
      (∀ i < 2, (remote (w.issued + i)).returncode = 0) ∧
        w' = ⟨Function.update w.filters ip (portRestoredFilter f), w.issued + 2⟩ := by
  have hcmds : mockNetworkRestoringByPort remote ips =
      sshAll remote [(ip, .deleteInput 1), (ip, .deleteOutput 1)] := by
    simp only [mockNetworkRestoringByPort, getItem_of_get? hip, Prog.ofExcept_ok, pure_bind,
      ssh_eq, sshAll, List.forM_cons, List.forM_nil, bind_assoc]
  have heffect : [(ip, Iptables.deleteInput 1), (ip, .deleteOutput 1)].foldlM effect w.filters =
      some (Function.update w.filters ip (portRestoredFilter f)) := by
    simp [effect, Iptables.apply, hf, portFilter, Chain.delete_one_append, portRestoredFilter]
  rw [hcmds, sshAll_eq_ok_iff, heffect]
  simp

end ByPort

/-- From `before` to `after`, the partition by port is undone: both rule lists are as they were,
and so is every verdict. -/
structure PortPartitionUndone (before after : FilterTable Packet) : Prop where
  input_rules : after.input.rules = before.input.rules
  output_rules : after.output.rules = before.output.rules
  input_verdict : ∀ p, after.input.verdict p = before.input.verdict p
  output_verdict : ∀ p, after.output.verdict p = before.output.verdict p

/-- Every rule of the chain is itself a `-p tcp --dport 25672 -j DROP`. -/
def OnlyPortDrops (c : Chain Packet) : Prop := ∀ r ∈ c.rules, r = dropDport 25672

/-- **When the partition by port is undone**: exactly when `INPUT` and `OUTPUT` of the host held
nothing but copies of the appended rule before, in particular when they were empty.

**Proof sketch.** The rule is appended at the end and the first rule is deleted, which gives the
list back iff it consists of copies of that rule (`Chain.tail_append_singleton_eq_iff`). -/
theorem portPartition_undone_iff {remote : ℕ → ProcResult} {ips : Dict String String}
    {ip : String} (hip : ips.get? "rabbit2" = some ip) {w w₁ w₂ w₃ : World}
    (h₁ : mockNetworkFailureByPort remote ips w = (.ok (), w₁))
    (hbetween : w₂.filters = w₁.filters)
    (h₂ : mockNetworkRestoringByPort remote ips w₂ = (.ok (), w₃)) :
    PortPartitionUndone (w.filters ip) (w₃.filters ip) ↔
      OnlyPortDrops (w.filters ip).input ∧ OnlyPortDrops (w.filters ip).output := by
  obtain ⟨-, rfl⟩ := (mockNetworkFailureByPort_eq_ok_iff hip).mp h₁
  have hcut : w₂.filters ip = portFilter (w.filters ip) := by
    rw [hbetween]
    exact Function.update_self ip _ w.filters
  obtain ⟨-, rfl⟩ := (mockNetworkRestoringByPort_eq_ok_iff hip hcut).mp h₂
  dsimp only
  rw [Function.update_self]
  unfold OnlyPortDrops
  rw [← Chain.tail_append_singleton_eq_iff, ← Chain.tail_append_singleton_eq_iff]
  constructor
  · intro h
    exact ⟨h.input_rules, h.output_rules⟩
  · rintro ⟨hinput, houtput⟩
    have hsame : portRestoredFilter (w.filters ip) = w.filters ip := by
      rw [portRestoredFilter, hinput, houtput]
    rw [hsame]
    exact ⟨rfl, rfl, fun _ => rfl, fun _ => rfl⟩

/-- The addresses of three instances. -/
def threeIps : Dict String String where
  items := [("rabbit1", "18.0.0.1"), ("rabbit2", "18.0.0.2"), ("rabbit3", "18.0.0.3")]
  nodup := by decide

theorem portPartition_undone_iff_fresh :
    ∃ w₁ w₃, mockNetworkFailureByPort MongoDB.allSucceed threeIps MongoDB.freshWorld =
        (.ok (), w₁) ∧
      mockNetworkRestoringByPort MongoDB.allSucceed threeIps w₁ = (.ok (), w₃) ∧
      (PortPartitionUndone (MongoDB.freshWorld.filters "18.0.0.2") (w₃.filters "18.0.0.2") ↔
        OnlyPortDrops (MongoDB.freshWorld.filters "18.0.0.2").input ∧
          OnlyPortDrops (MongoDB.freshWorld.filters "18.0.0.2").output) :=
  ⟨_, _, rfl, rfl, @portPartition_undone_iff MongoDB.allSucceed threeIps "18.0.0.2" rfl
    MongoDB.freshWorld _ _ _ rfl rfl rfl⟩

/-- **The wrong rule goes**: on a host that accepts ssh by a rule of its own, restoring deletes
that rule, and the packets between the nodes stay dropped. -/
theorem portPartition_loses_foreign_rule :
    ∃ w₁ w₃, mockNetworkFailureByPort MongoDB.allSucceed threeIps MongoDB.guardedWorld =
        (.ok (), w₁) ∧
      mockNetworkRestoringByPort MongoDB.allSucceed threeIps w₁ = (.ok (), w₃) ∧
      ¬ PortPartitionUndone (MongoDB.guardedWorld.filters "18.0.0.2")
        (w₃.filters "18.0.0.2") ∧
      (w₃.filters "18.0.0.2").input.rules = [dropDport 25672] := by
  refine ⟨_, _, rfl, rfl, fun h => ?_, rfl⟩
  -- an ssh packet was accepted by the rule that is gone
  have hverdict := h.input_verdict ⟨"", "", "tcp", 22⟩
  revert hverdict
  decide

/-! ## The partition in two halves -/

/-- `sname[3:].replace('-', '.')`: the internal address a short host name is made of. -/
def internalIp (sname : String) : String :=
  strReplace (String.ofList (sname.toList.drop 3)) "-" "."

/-- The loop of `test_recovering_from_partition_by_restarting_all_nodes` that fills
`internal_ips`. -/
def internalIps (snames : Dict String String) : Dict String String :=
  snames.items.foldl (fun internalIps e => internalIps.set e.1 (internalIp e.2)) Dict.empty

/-- "Mock network failure" of the same test: the nested insertion loops. -/
def mockNetworkFailureByAddress (remote : ℕ → ProcResult) (ips snames : Dict String String) :
    Prog PyErr World Unit := do
  let internalIps := internalIps snames
  let ip₃ ← Prog.ofExcept (getItem ips "rabbit3")
  let ip₄ ← Prog.ofExcept (getItem ips "rabbit4")
  forM [ip₃, ip₄] fun ip => do
    let internal₁ ← Prog.ofExcept (getItem internalIps "rabbit1")
    let internal₂ ← Prog.ofExcept (getItem internalIps "rabbit2")
    forM [internal₁, internal₂] fun internal => do
      let _ ← ssh remote ip (.insertInputSource [internal])
      let _ ← ssh remote ip (.insertOutputDestination [internal])

/-- "Mock network restoring" of the same test: the four deletions on each host. -/
def mockNetworkRestoringByAddress (remote : ℕ → ProcResult) (ips : Dict String String) :
    Prog PyErr World Unit := do
  let ip₃ ← Prog.ofExcept (getItem ips "rabbit3")
  let ip₄ ← Prog.ofExcept (getItem ips "rabbit4")
  forM [ip₃, ip₄] fun ip => do
    let _ ← ssh remote ip (.deleteInput 1)
    let _ ← ssh remote ip (.deleteInput 1)
    let _ ← ssh remote ip (.deleteOutput 1)
    let _ ← ssh remote ip (.deleteOutput 1)

/-- The internal address of a node. -/
theorem get?_internalIps {snames : Dict String String} {k sname : String}
    (h : snames.get? k = some sname) : (internalIps snames).get? k = some (internalIp sname) := by
  have hkeys : ((snames.items.map fun e => (e.1, internalIp e.2)).map Prod.fst).Nodup := by
    rw [List.map_map]
    exact snames.nodup
  have hfill : internalIps snames =
      Dict.ofItems (snames.items.map fun e => (e.1, internalIp e.2)) := by
    rw [Dict.ofItems, List.foldl_map]
    rfl
  rw [Dict.get?_eq_some_iff, hfill, Dict.items_ofItems hkeys]
  exact List.mem_map.mpr ⟨(k, sname), snames.get?_eq_some_iff.mp h, rfl⟩

/-- The tables after cutting the host at `ip` off from `addrs`. -/
def cutHost (addrs : List String) (filters : String → FilterTable Packet) (ip : String) :
    String → FilterTable Packet :=
  Function.update filters ip (cutFilter addrs (.bool false) (.bool false) (filters ip))

/-- The command lines that delete two rules from either chain of a host. -/
def unblockTwice (ip : String) : List (String × Iptables) :=
  [(ip, .deleteInput 1), (ip, .deleteInput 1), (ip, .deleteOutput 1), (ip, .deleteOutput 1)]

/-- **Deletion undoes insertion on one host**: after a host was cut off from two addresses, two
deletions from either chain give the old tables back. -/
theorem foldlM_effect_unblockTwice (filters : String → FilterTable Packet) (ip a b : String) :
    (unblockTwice ip).foldlM effect (cutHost [a, b] filters ip) = some filters := by
  have hchain : ∀ (c : Chain Packet) (r r' : Rule Packet),
      c.insertAll [r, r'] = (c.insert r).insert r' := fun _ _ _ => rfl
  simp [unblockTwice, effect, Iptables.apply, cutHost, cutFilter, Value.isFalse, hchain,
    Chain.delete_one_insert]

/-- The order in which two hosts are cut off does not matter. -/
theorem cutHost_comm (addrs : List String) (filters : String → FilterTable Packet)
    (x y : String) :
    cutHost addrs (cutHost addrs filters x) y = cutHost addrs (cutHost addrs filters y) x := by
  by_cases h : x = y
  · rw [h]
  · unfold cutHost
    rw [Function.update_of_ne (Ne.symm h), Function.update_of_ne h, Function.update_comm h]

section ByAddress

variable {remote : ℕ → ProcResult} {ips snames : Dict String String}
  {ip₃ ip₄ sname₁ sname₂ : String} {w w' : World}

/-- The insertion loops return when their eight commands exit with `0`, with both hosts cut off
from both addresses. -/
theorem mockNetworkFailureByAddress_eq_ok_iff (h₃ : ips.get? "rabbit3" = some ip₃)
    (h₄ : ips.get? "rabbit4" = some ip₄) (h₁ : snames.get? "rabbit1" = some sname₁)
    (h₂ : snames.get? "rabbit2" = some sname₂) :
    mockNetworkFailureByAddress remote ips snames w = (.ok (), w') ↔
      (∀ i < 8, (remote (w.issued + i)).returncode = 0) ∧
        w' = ⟨[ip₃, ip₄].foldl (cutHost [internalIp sname₁, internalIp sname₂]) w.filters,
          w.issued + 8⟩ := by
  let addrs := [internalIp sname₁, internalIp sname₂]
  have hcmds : mockNetworkFailureByAddress remote ips snames =
      sshAll remote ([ip₃, ip₄].flatMap fun ip => blockAddresses ip addrs) := by
    simp only [mockNetworkFailureByAddress, getItem_of_get? h₃, getItem_of_get? h₄,
      getItem_of_get? (get?_internalIps h₁), getItem_of_get? (get?_internalIps h₂),
      Prog.ofExcept_ok, pure_bind, ssh_eq, forM_blockAddress]
    rw [← forM_sshAll]
  have heffect : ([ip₃, ip₄].flatMap fun ip => blockAddresses ip addrs).foldlM effect w.filters =
      some ([ip₃, ip₄].foldl (cutHost addrs) w.filters) := by
    simp only [List.flatMap_cons, List.flatMap_nil, List.append_nil, List.foldlM_append,
      MongoDB.foldlM_effect_blockAddresses, Option.bind_eq_bind, Option.bind_some,
      List.foldl_cons, List.foldl_nil, cutHost]
  rw [hcmds, sshAll_eq_ok_iff, heffect]
  simp [addrs, blockAddresses]

/-- The deletion loop returns on two hosts that were cut off from two addresses when its eight
commands exit with `0`, with the tables they had before.

**Proof sketch.** The host that is restored first may be taken for the one that was cut last
(`cutHost_comm`). So each pass undoes the last cut, also where both names reach one host. -/
theorem mockNetworkRestoringByAddress_eq_ok_iff (h₃ : ips.get? "rabbit3" = some ip₃)
    (h₄ : ips.get? "rabbit4" = some ip₄) {a b : String}
    {filters : String → FilterTable Packet}
    (hcut : w.filters = [ip₃, ip₄].foldl (cutHost [a, b]) filters) :
    mockNetworkRestoringByAddress remote ips w = (.ok (), w') ↔
      (∀ i < 8, (remote (w.issued + i)).returncode = 0) ∧ w' = ⟨filters, w.issued + 8⟩ := by
  have hcmds : mockNetworkRestoringByAddress remote ips =
      sshAll remote ([ip₃, ip₄].flatMap unblockTwice) := by
    simp only [mockNetworkRestoringByAddress, getItem_of_get? h₃, getItem_of_get? h₄,
      Prog.ofExcept_ok, pure_bind]
    rw [← forM_sshAll]
    simp only [unblockTwice, ssh_eq, sshAll, List.forM_cons, List.forM_nil, bind_assoc, pure_bind]
  have heffect : ([ip₃, ip₄].flatMap unblockTwice).foldlM effect w.filters = some filters := by
    rw [hcut, List.foldl_cons, List.foldl_cons, List.foldl_nil, cutHost_comm]
    simp only [List.flatMap_cons, List.flatMap_nil, List.append_nil, List.foldlM_append,
      foldlM_effect_unblockTwice, Option.bind_eq_bind, Option.bind_some]
  rw [hcmds, sshAll_eq_ok_iff, heffect]
  simp [unblockTwice]

end ByAddress

/-- From `before` to `after`, the hosts `ip₃` and `ip₄` are cut off from `addrs` in both
directions: packets from these addresses are dropped on `INPUT`, packets to them on `OUTPUT`.
Every other packet keeps its verdict, and every other host its table. -/
structure CutInHalves (ip₃ ip₄ : String) (addrs : List String)
    (before after : String → FilterTable Packet) : Prop where
  input_verdict : ∀ ip ∈ [ip₃, ip₄], ∀ p, (after ip).input.verdict p =
    if p.src ∈ addrs then .drop else (before ip).input.verdict p
  output_verdict : ∀ ip ∈ [ip₃, ip₄], ∀ p, (after ip).output.verdict p =
    if p.dst ∈ addrs then .drop else (before ip).output.verdict p
  forward : ∀ ip, (after ip).forward = (before ip).forward
  other_hosts : ∀ ip ∉ [ip₃, ip₄], after ip = before ip

/-- The verdicts and the forward chain after a host was cut off. -/
theorem cutHost_self (addrs : List String) (filters : String → FilterTable Packet) (ip : String)
    (p : Packet) :
    (cutHost addrs filters ip ip).input.verdict p =
        (if p.src ∈ addrs then .drop else (filters ip).input.verdict p) ∧
      (cutHost addrs filters ip ip).output.verdict p =
        (if p.dst ∈ addrs then .drop else (filters ip).output.verdict p) ∧
      (cutHost addrs filters ip ip).forward = (filters ip).forward := by
  rw [cutHost, Function.update_self]
  obtain ⟨hinput, houtput⟩ :=
    MongoDB.verdict_cutFilter addrs (.bool false) (.bool false) (filters ip) p
  exact ⟨by simpa using hinput, by simpa using houtput, rfl⟩

/-- Cutting both hosts off, one after the other, cuts the halves off from each other. -/
theorem cutInHalves_foldl (ip₃ ip₄ : String) (addrs : List String)
    (filters : String → FilterTable Packet) :
    CutInHalves ip₃ ip₄ addrs filters ([ip₃, ip₄].foldl (cutHost addrs) filters) := by
  rw [List.foldl_cons, List.foldl_cons, List.foldl_nil]
  have hother : ∀ (g : String → FilterTable Packet) {ip host : String}, host ≠ ip →
      cutHost addrs g ip host = g host := fun g _ _ hne => Function.update_of_ne hne _ g
  -- a host is cut by the first pass, by the second one, or by both
  have hverdicts : ∀ ip ∈ [ip₃, ip₄], ∀ p,
      (cutHost addrs (cutHost addrs filters ip₃) ip₄ ip).input.verdict p =
          (if p.src ∈ addrs then .drop else (filters ip).input.verdict p) ∧
        (cutHost addrs (cutHost addrs filters ip₃) ip₄ ip).output.verdict p =
          (if p.dst ∈ addrs then .drop else (filters ip).output.verdict p) ∧
        (cutHost addrs (cutHost addrs filters ip₃) ip₄ ip).forward = (filters ip).forward := by
    intro ip hip p
    by_cases hip₄ : ip = ip₄
    · subst hip₄
      obtain ⟨hinput, houtput, hforward⟩ := cutHost_self addrs (cutHost addrs filters ip₃) ip p
      by_cases hip₃ : ip = ip₃
      · subst hip₃
        obtain ⟨hinput', houtput', hforward'⟩ := cutHost_self addrs filters ip p
        refine ⟨hinput.trans ?_, houtput.trans ?_, hforward.trans hforward'⟩
        · rw [hinput']
          split <;> rfl
        · rw [houtput']
          split <;> rfl
      · rw [hother filters hip₃] at hinput houtput hforward
        exact ⟨hinput, houtput, hforward⟩
    · have hip₃ : ip = ip₃ := by simpa [hip₄] using hip
      rw [hother _ hip₄, hip₃]
      exact cutHost_self addrs filters ip₃ p
  refine ⟨fun ip hip p => (hverdicts ip hip p).1, fun ip hip p => (hverdicts ip hip p).2.1,
    fun ip => ?_, fun ip hip => ?_⟩
  · by_cases hip : ip ∈ [ip₃, ip₄]
    · exact (hverdicts ip hip ⟨"", "", "", 0⟩).2.2
    · simp only [List.mem_cons, List.not_mem_nil, or_false, not_or] at hip
      rw [hother _ hip.2, hother _ hip.1]
  · simp only [List.mem_cons, List.not_mem_nil, or_false, not_or] at hip
    rw [hother _ hip.2, hother _ hip.1]

/-- **The partition in two halves cuts and restores exactly**: the insertion loops return when
their commands succeed, and then cut `rabbit3` and `rabbit4` off from the internal addresses of
`rabbit1` and `rabbit2` and from nothing else. The deletion loop, run on these tables, returns
when its commands succeed, and then every table is the initial one. -/
theorem halvesPartition_cuts_and_restores (remote : ℕ → ProcResult)
    {ips snames : Dict String String} {ip₃ ip₄ sname₁ sname₂ : String}
    (h₃ : ips.get? "rabbit3" = some ip₃) (h₄ : ips.get? "rabbit4" = some ip₄)
    (h₁ : snames.get? "rabbit1" = some sname₁) (h₂ : snames.get? "rabbit2" = some sname₂)
    (w : World) :
    ((∃ w₁, mockNetworkFailureByAddress remote ips snames w = (.ok (), w₁)) ↔
        ∀ i < 8, (remote (w.issued + i)).returncode = 0) ∧
      ∀ w₁, mockNetworkFailureByAddress remote ips snames w = (.ok (), w₁) →
        CutInHalves ip₃ ip₄ [internalIp sname₁, internalIp sname₂] w.filters w₁.filters ∧
          ∀ w₂, w₂.filters = w₁.filters →
            ((∃ w₃, mockNetworkRestoringByAddress remote ips w₂ = (.ok (), w₃)) ↔
                ∀ i < 8, (remote (w₂.issued + i)).returncode = 0) ∧
              ∀ w₃, mockNetworkRestoringByAddress remote ips w₂ = (.ok (), w₃) →
                w₃.filters = w.filters := by
  have hfailure := fun w₁ =>
    @mockNetworkFailureByAddress_eq_ok_iff remote _ _ _ _ _ _ w w₁ h₃ h₄ h₁ h₂
  refine ⟨⟨fun ⟨w₁, h⟩ => ((hfailure w₁).mp h).1, fun h => ⟨_, (hfailure _).mpr ⟨h, rfl⟩⟩⟩, ?_⟩
  intro w₁ hreturn
  obtain ⟨-, rfl⟩ := (hfailure w₁).mp hreturn
  refine ⟨cutInHalves_foldl ip₃ ip₄ _ w.filters, fun w₂ hbetween => ?_⟩
  have hrestoring := fun w₃ =>
    @mockNetworkRestoringByAddress_eq_ok_iff remote _ _ _ w₂ w₃ h₃ h₄ _ _ w.filters hbetween
  refine ⟨⟨fun ⟨w₃, h⟩ => ((hrestoring w₃).mp h).1, fun h => ⟨_, (hrestoring _).mpr ⟨h, rfl⟩⟩⟩, ?_⟩
  intro w₃ h
  rw [((hrestoring w₃).mp h).2]

/-- The public addresses of four instances. -/
def fourIps : Dict String String where
  items := [("rabbit1", "18.0.0.1"), ("rabbit2", "18.0.0.2"), ("rabbit3", "18.0.0.3"),
    ("rabbit4", "18.0.0.4")]
  nodup := by decide

/-- The short host names of four instances. -/
def fourNames : Dict String String where
  items := [("rabbit1", "ip-172-31-0-1"), ("rabbit2", "ip-172-31-0-2"),
    ("rabbit3", "ip-172-31-0-3"), ("rabbit4", "ip-172-31-0-4")]
  nodup := by decide

theorem halvesPartition_cuts_and_restores_fourInstances :
    ∃ w₁, mockNetworkFailureByAddress MongoDB.allSucceed fourIps fourNames
        MongoDB.guardedWorld = (.ok (), w₁) ∧
      CutInHalves "18.0.0.3" "18.0.0.4" ["172.31.0.1", "172.31.0.2"]
        MongoDB.guardedWorld.filters w₁.filters ∧
      ∃ w₃, mockNetworkRestoringByAddress MongoDB.allSucceed fourIps w₁ = (.ok (), w₃) ∧
        w₃.filters = MongoDB.guardedWorld.filters := by
  have h := @halvesPartition_cuts_and_restores MongoDB.allSucceed fourIps fourNames "18.0.0.3"
    "18.0.0.4" "ip-172-31-0-1" "ip-172-31-0-2" rfl rfl rfl rfl MongoDB.guardedWorld
  obtain ⟨w₁, hreturn⟩ := h.1.mpr fun _ _ => rfl
  obtain ⟨hcut, hrestore⟩ := h.2 w₁ hreturn
  obtain ⟨hreturns, hsame⟩ := hrestore w₁ rfl
  obtain ⟨w₃, hreturn₃⟩ := hreturns.mpr fun _ _ => rfl
  have h₁ : internalIp "ip-172-31-0-1" = "172.31.0.1" := by decide
  have h₂ : internalIp "ip-172-31-0-2" = "172.31.0.2" := by decide
  rw [h₁, h₂] at hcut
  exact ⟨w₁, hreturn, hcut, w₃, hreturn₃, hsame w₃ hreturn₃⟩

end PythonForFun.RabbitMQ
