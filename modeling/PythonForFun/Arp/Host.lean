import Mathlib.Data.List.Basic
import PythonForFun.Lib.Script

set_option relaxedAutoImplicit false
set_option autoImplicit false

/-!
# The host of the ARP lab

The part of a Linux host that the scripts of `linux/arp` change: the policy rules, routing
table 100, four sysctls of each interface, the rules of three `iptables` tables, the veth pair
and whether `lo` is up. A command that fails leaves the host as it is.

The names listed in `Host.conf` are those of the directory `/proc/sys/net/ipv4/conf`: the
interfaces, and the two entries `all` and `default`. The pair `veth0`/`veth1` exists when its
names are listed.

## Main definitions

* `Arp.Host`, `Arp.Cmd`, `Arp.exec` — the state of a host, the commands, and their effect.
* `Arp.Boot` — the states the lab starts in.

## Main results

* `Arp.apply_ruleAdd` and the lemmas after it — the effect of each command, failure included.
-/

namespace PythonForFun.Arp

/-! ## The state of a host -/

/-- The routing tables a policy rule looks up. -/
inductive RouteTable
  | loc
  | main
  | default
  | num (n : ℕ)
  deriving DecidableEq

/-- What a policy rule matches on: every packet, a firewall mark, or a destination. -/
inductive Selector
  | all
  | fwmark (mark : ℕ)
  | to (dst : String)
  deriving DecidableEq

/-- A policy rule. -/
structure PolicyRule where
  prio : ℕ
  sel : Selector
  table : RouteTable
  deriving DecidableEq

/-- A route of table 100. -/
structure Route where
  dst : String
  dev : String
  deriving DecidableEq

/-- The sysctls of an interface that the scripts write. -/
inductive SysctlKey
  | arpIgnore
  | acceptLocal
  | arpAnnounce
  | rpFilter
  deriving DecidableEq

/-- The values of these sysctls. -/
structure Sysctl where
  arpIgnore : ℕ
  acceptLocal : ℕ
  arpAnnounce : ℕ
  rpFilter : ℕ
  deriving DecidableEq

/-- Writing one sysctl. -/
def Sysctl.set (v : Sysctl) (n : ℕ) : SysctlKey → Sysctl
  | .arpIgnore => { v with arpIgnore := n }
  | .acceptLocal => { v with acceptLocal := n }
  | .arpAnnounce => { v with arpAnnounce := n }
  | .rpFilter => { v with rpFilter := n }

/-- The `iptables` tables of the scripts. -/
inductive Table
  | filter
  | nat
  | mangle
  deriving DecidableEq

/-- The built-in chains. -/
inductive Hook
  | prerouting
  | input
  | forward
  | output
  | postrouting
  deriving DecidableEq

/-- The state of a host. -/
structure Host where
  rules : List PolicyRule
  table100 : List Route
  conf : List (String × Sysctl)
  chains : Table → Hook → List String
  loUp : Bool

/-- The names listed in `/proc/sys/net/ipv4/conf`. -/
def Host.names (s : Host) : List String := s.conf.map Prod.fst

/-- The names `*default` matches. -/
def isDefault (f : String) : Bool := "default".toList.isSuffixOf f.toList

/-- The two ends of the veth pair. -/
def isVeth (f : String) : Bool := f == "veth0" || f == "veth1"

/-! ## Policy rules -/

/-- The rules of a booted host. -/
def bootRules : List PolicyRule :=
  [⟨0, .all, .loc⟩, ⟨32766, .all, .main⟩, ⟨32767, .all, .default⟩]

/-- A new rule goes behind the rules of the same priority. -/
def insertRule (r : PolicyRule) : List PolicyRule → List PolicyRule
  | [] => [r]
  | q :: qs => if r.prio < q.prio then r :: q :: qs else q :: insertRule r qs

/-- Some rule looks up table `local` for every packet. -/
def HasLocal (rules : List PolicyRule) : Prop := ∃ r ∈ rules, r.sel = .all ∧ r.table = .loc

instance (rules : List PolicyRule) : Decidable (HasLocal rules) :=
  inferInstanceAs (Decidable (∃ r ∈ rules, r.sel = .all ∧ r.table = .loc))

/-! ## Commands -/

/-- The commands of the scripts. -/
inductive Cmd
  /-- `echo v > /proc/sys/net/ipv4/conf/f/key` -/
  | echo (v : ℕ) (f : String) (key : SysctlKey)
  /-- `ip link add veth0 type veth peer name veth1` -/
  | linkAddVeth
  /-- `if [[ -d /proc/sys/net/ipv4/conf/veth0 ]]; then ip link del dev veth0; fi` -/
  | linkDelVeth
  /-- `ip link set lo up` or `down` -/
  | linkSetLo (up : Bool)
  /-- `iptables -t t -F` -/
  | iptablesFlush (t : Table)
  /-- `iptables -t t -I h rule` -/
  | iptablesInsert (t : Table) (h : Hook) (rule : String)
  /-- `iptables -t t -A h rule` -/
  | iptablesAppend (t : Table) (h : Hook) (rule : String)
  /-- `ip rule add` -/
  | ruleAdd (r : PolicyRule)
  /-- `ip rule del pref n` -/
  | ruleDelPrio (n : ℕ)
  /-- `ip rule del table t` -/
  | ruleDelTable (t : RouteTable)
  /-- `ip route add dst dev dev tab 100` -/
  | routeAdd (r : Route)
  /-- A command that changes nothing of the modelled state: `ip neigh flush all`, `ip a a`,
  `ip link set veth0 up`, `sleep 1`, `ping`, `info`. -/
  | other (line : String)
  deriving DecidableEq

/-- The chains with `f` applied to one of them. -/
def updateChain (chains : Table → Hook → List String) (t : Table) (h : Hook)
    (f : List String → List String) : Table → Hook → List String :=
  fun t' h' => if t' = t ∧ h' = h then f (chains t' h') else chains t' h'

/-- An entry of `/proc/sys/net/ipv4/conf` after a sysctl of `f` was written. -/
def setEntry (v : ℕ) (f : String) (key : SysctlKey) (e : String × Sysctl) : String × Sysctl :=
  if e.1 = f then (e.1, e.2.set v key) else e

/-- The values a new interface starts with: those of the entry `default`. -/
def Host.defaultSysctl (s : Host) : Sysctl := (s.conf.lookup "default").getD ⟨0, 0, 0, 0⟩

/-- The effect of a command; `none` when it fails. -/
def exec : Cmd → Host → Option Host
  | .echo v f key, s =>
    if f ∈ s.names then
      some { s with conf := s.conf.map (setEntry v f key) }
    else none
  | .linkAddVeth, s =>
    if "veth0" ∈ s.names ∨ "veth1" ∈ s.names then none
    else some { s with
      conf := s.conf ++ [("veth0", s.defaultSysctl), ("veth1", s.defaultSysctl)] }
  | .linkDelVeth, s =>
    if "veth0" ∈ s.names then
      some { s with
        conf := s.conf.filter fun e => !isVeth e.1
        table100 := s.table100.filter fun r => !isVeth r.dev }
    else some s
  | .linkSetLo up, s => some { s with loUp := up }
  | .iptablesFlush t, s =>
    some { s with chains := fun t' h => if t' = t then [] else s.chains t' h }
  | .iptablesInsert t h rule, s =>
    some { s with chains := updateChain s.chains t h (rule :: ·) }
  | .iptablesAppend t h rule, s =>
    some { s with chains := updateChain s.chains t h (· ++ [rule]) }
  | .ruleAdd r, s =>
    if r ∈ s.rules then none else some { s with rules := insertRule r s.rules }
  | .ruleDelPrio n, s =>
    if s.rules.any (·.prio == n) then some { s with rules := s.rules.eraseP (·.prio == n) }
    else none
  | .ruleDelTable t, s =>
    if s.rules.any (·.table == t) then some { s with rules := s.rules.eraseP (·.table == t) }
    else none
  | .routeAdd r, s =>
    if r.dev ∈ s.names ∧ r.dst ∉ s.table100.map Route.dst then
      some { s with table100 := s.table100 ++ [r] }
    else none
  | .other _, s => some s

/-- The state after a command, failed or not. -/
abbrev apply (s : Host) (c : Cmd) : Host := Script.apply exec s c

/-- The states the lab starts in: the boot rules, no route in table 100 and no veth pair. -/
structure Boot (s : Host) : Prop where
  rules_eq : s.rules = bootRules
  table100_eq : s.table100 = []
  noVeth : ∀ f ∈ s.names, isVeth f = false

/-- The device under test of the lab, booted. -/
def dut : Host where
  rules := bootRules
  table100 := []
  conf :=
    ["all", "default", "eth0", "eth1", "eth2", "lo"].map fun f => (f, ⟨0, 0, 0, 1⟩)
  chains := fun _ _ => []
  loUp := true

/-- The device under test starts in a state of the lab. -/
theorem boot_dut : Boot dut := ⟨rfl, rfl, by decide⟩

/-! ## The effect of each command -/

/-- `ip rule add` inserts the rule unless it is there. -/
theorem apply_ruleAdd (s : Host) (r : PolicyRule) :
    apply s (.ruleAdd r) =
      { s with rules := if r ∈ s.rules then s.rules else insertRule r s.rules } := by
  simp only [apply, Script.apply, exec]
  split_ifs <;> rfl

/-- `ip rule del pref` erases the first rule of the priority, if there is one. -/
theorem apply_ruleDelPrio (s : Host) (n : ℕ) :
    apply s (.ruleDelPrio n) = { s with rules := s.rules.eraseP (·.prio == n) } := by
  simp only [apply, Script.apply, exec]
  split_ifs with h
  · rfl
  · have hnone : ∀ r ∈ s.rules, ¬ (r.prio == n) = true := by
      intro r hr hp
      exact h (List.any_eq_true.mpr ⟨r, hr, hp⟩)
    rw [List.eraseP_of_forall_not hnone]
    rfl

/-- `ip rule del table` erases the first rule of the table, if there is one. -/
theorem apply_ruleDelTable (s : Host) (t : RouteTable) :
    apply s (.ruleDelTable t) = { s with rules := s.rules.eraseP (·.table == t) } := by
  simp only [apply, Script.apply, exec]
  split_ifs with h
  · rfl
  · have hnone : ∀ r ∈ s.rules, ¬ (r.table == t) = true := by
      intro r hr ht
      exact h (List.any_eq_true.mpr ⟨r, hr, ht⟩)
    rw [List.eraseP_of_forall_not hnone]
    rfl

/-- Writing a sysctl keeps the name of the entry. -/
theorem setEntry_fst (v : ℕ) (f : String) (key : SysctlKey) (e : String × Sysctl) :
    (setEntry v f key e).1 = e.1 := by
  unfold setEntry
  split_ifs <;> rfl

/-- Writing a sysctl changes the entry of the interface, if there is one. -/
theorem apply_echo (s : Host) (v : ℕ) (f : String) (key : SysctlKey) :
    apply s (.echo v f key) = { s with conf := s.conf.map (setEntry v f key) } := by
  simp only [apply, Script.apply, exec]
  split_ifs with h
  · rfl
  · have hid : ∀ e ∈ s.conf, setEntry v f key e = e := by
      intro e he
      have hne : e.1 ≠ f := by
        rintro rfl
        exact h (List.mem_map_of_mem he)
      rw [setEntry, if_neg hne]
    rw [List.map_congr_left hid, List.map_id']
    rfl

/-- Writing a sysctl lists the same names. -/
theorem names_apply_echo (s : Host) (v : ℕ) (f : String) (key : SysctlKey) :
    (apply s (.echo v f key)).names = s.names := by
  rw [apply_echo, Host.names, Host.names, List.map_map]
  exact List.map_congr_left fun e _ => setEntry_fst v f key e

/-- Flushing a table empties its chains. -/
theorem apply_iptablesFlush (s : Host) (t : Table) :
    apply s (.iptablesFlush t) =
      { s with chains := fun t' h => if t' = t then [] else s.chains t' h } :=
  rfl

/-- Setting `lo`. -/
theorem apply_linkSetLo (s : Host) (up : Bool) :
    apply s (.linkSetLo up) = { s with loUp := up } :=
  rfl

/-- A command without a modelled effect. -/
theorem apply_other (s : Host) (line : String) : apply s (.other line) = s :=
  rfl

/-- Deleting the veth pair when it exists. -/
theorem apply_linkDelVeth_of_mem {s : Host} (h : "veth0" ∈ s.names) :
    apply s .linkDelVeth =
      { s with
        conf := s.conf.filter fun e => !isVeth e.1
        table100 := s.table100.filter fun r => !isVeth r.dev } := by
  simp only [apply, Script.apply, exec]
  rw [if_pos h]
  rfl

/-- Deleting the veth pair when it does not exist. -/
theorem apply_linkDelVeth_of_notMem {s : Host} (h : "veth0" ∉ s.names) :
    apply s .linkDelVeth = s := by
  simp only [apply, Script.apply, exec]
  rw [if_neg h]
  rfl

end PythonForFun.Arp
