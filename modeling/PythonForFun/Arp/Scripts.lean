import PythonForFun.Arp.Host

set_option relaxedAutoImplicit false
set_option autoImplicit false

/-!
# The scripts of the ARP lab

`reset.sh`, the two tests that are run on the host itself, and what the four functions of
`test.sh` do to the host. Every test starts with `reset.sh`. `reset.sh` goes on after a
failure, the tests run under `set -e`. A ping, and whatever a test makes of its outcome, has
no effect on the modelled state: a test that fails there is a run cut short there.

## Main definitions

* `Arp.reset` — the lines of `reset.sh`, the glob expanded on the host it starts on.
* `Arp.LabScript`, `Arp.script` — the scripts, and their lines.
* `Arp.trace` — the commands a history of runs gets through.
* `Arp.CutVersion` — the commands of a run that was cut short somewhere.

## Main results

* `Arp.trace_eq_flatten` — a trace is a concatenation of runs cut short.
-/

namespace PythonForFun.Arp

/-! ## reset.sh -/

/-- The body of the loop over `/proc/sys/net/ipv4/conf/*`. -/
def resetConfOf (f : String) : List Cmd :=
  [.echo 0 f .arpIgnore, .echo 0 f .acceptLocal, .echo 0 f .arpAnnounce, .echo 1 f .rpFilter]

/-- The loop over `/proc/sys/net/ipv4/conf/*`, which skips `*default`. -/
def resetConf (names : List String) : List Cmd :=
  (names.filter fun f => !isDefault f).flatMap resetConfOf

/-- The commands after the loop. -/
def resetTail : List Cmd :=
  [.linkDelVeth,
   .other "ip neigh flush all",
   .iptablesFlush .nat,
   .iptablesFlush .mangle,
   .iptablesFlush .filter,
   .ruleDelTable (.num 100),
   .ruleDelPrio 1000,
   .ruleDelPrio 100,
   .ruleAdd ⟨0, .all, .loc⟩,
   .linkSetLo true]

/-- The commands of `reset.sh`. -/
def resetCommands (s : Host) : List Cmd := resetConf s.names ++ resetTail

/-- The lines of `reset.sh`: a failure does not end the script. -/
def reset (s : Host) : List (Script.Line Cmd) := (resetCommands s).map (⟨·, false⟩)

/-- The state after a whole run of `reset.sh`. -/
def runReset (s : Host) : Host := Script.runAll exec s (resetCommands s)

/-! ## The tests -/

/-- The rules `-I ... -j LOG` that the two veth tests insert. -/
def insertLogs : List Cmd :=
  [.iptablesInsert .nat .prerouting
     "! -d 10.0.2.0/24 -j LOG --log-prefix \"nat@PREROUTING: \" --log-level 4",
   .iptablesInsert .mangle .postrouting
     "! -d 10.0.2.0/24 -j LOG --log-prefix \"mangle@POSTROUTING: \" --log-level 4",
   .iptablesInsert .filter .input
     "! -d 10.0.2.0/24 -j LOG --log-prefix \"filter@INPUT: \" --log-level 4",
   .iptablesInsert .filter .output
     "! -d 10.0.2.0/24 -j LOG --log-prefix \"filter@OUTPUT: \" --log-level 4"]

/-- The sysctls that the two veth tests set. -/
def vethSysctls : List Cmd :=
  [.echo 1 "veth1" .acceptLocal,
   .echo 1 "veth0" .acceptLocal,
   .echo 0 "all" .rpFilter,
   .echo 0 "veth0" .rpFilter,
   .echo 0 "veth1" .rpFilter]

/-- `test_ping_veth.sh` after its reset. -/
def testPingVethBody : List Cmd :=
  [.linkAddVeth,
   .other "ip link set veth0 up",
   .other "ip link set veth1 up",
   .other "ip a a 192.168.1.2/24 dev veth0",
   .other "ip a a 192.168.1.3/24 dev veth1",
   .linkSetLo false] ++
  vethSysctls ++ insertLogs ++
  [.ruleAdd ⟨1000, .all, .loc⟩,
   .ruleDelPrio 0,
   .ruleAdd ⟨10, .fwmark 100, .num 100⟩,
   .routeAdd ⟨"192.168.1.2/32", "veth1"⟩,
   .routeAdd ⟨"192.168.1.3/32", "veth0"⟩,
   .iptablesAppend .mangle .output "-d 192.168.1.0/24 -j MARK --set-mark 100",
   .other "ping -I veth0 192.168.1.3 -c 1 -W 1 || fail",
   .echo 0 "veth1" .acceptLocal,
   .other "ping -I veth0 192.168.1.3 -c 1 -W 1 && fail",
   .echo 1 "veth1" .acceptLocal,
   .echo 1 "veth1" .rpFilter,
   .other "ping -I veth0 192.168.1.3 -c 1 -W 1 && fail",
   .echo 0 "veth1" .rpFilter,
   .other "ping -I veth0 192.168.1.3 -c 1 -W 1 || fail",
   .other "info SUCCESS"]

/-- `test_add_rule.sh` after its reset. -/
def testAddRuleBody : List Cmd :=
  [.linkAddVeth,
   .other "ip link set veth0 up",
   .other "ip link set veth1 up",
   .linkSetLo false,
   .other "ip a a 192.168.1.2/24 dev veth0",
   .other "ip a a 192.168.1.3/24 dev veth1",
   .other "sleep 1"] ++
  vethSysctls ++ insertLogs ++
  [.ruleAdd ⟨10, .to "192.168.1.2/32", .num 100⟩,
   .routeAdd ⟨"192.168.1.2/32", "veth1"⟩,
   .other "ping -I veth0 192.168.1.3 -c 1 -W 1 && fail",
   .other "info SUCCESS"]

/-- The scripts that are run on the host. -/
inductive LabScript
  | reset
  | testPingVeth
  | testAddRule
  | testArpIgnore0
  | testArpIgnore1
  | testArpAnnounce0
  | testArpAnnounce2
  deriving DecidableEq

/-- What a script does to the host after its reset. -/
def body : LabScript → List Cmd
  | .reset => []
  | .testPingVeth => testPingVethBody
  | .testAddRule => testAddRuleBody
  | .testArpIgnore0 => []
  | .testArpIgnore1 => [.echo 1 "eth2" .arpIgnore]
  | .testArpAnnounce0 => [.echo 0 "all" .rpFilter, .echo 0 "eth2" .rpFilter]
  | .testArpAnnounce2 => [.echo 0 "all" .rpFilter, .echo 0 "eth2" .rpFilter]

/-- The lines of a script: the reset, and a body under `set -e`. -/
def script (i : LabScript) (s : Host) : List (Script.Line Cmd) :=
  reset s ++ (body i).map (⟨·, true⟩)

/-- The commands of a script. -/
theorem commands_script (i : LabScript) (s : Host) :
    Script.commands (script i s) = resetCommands s ++ body i := by
  simp [Script.commands, script, reset, List.map_map, Function.comp_def]

/-! ## Histories -/

/-- The commands a history gets through: each entry is a script and the number of commands
after which its run is cut short. -/
def trace (history : List (LabScript × ℕ)) (s : Host) : List Cmd :=
  Script.trace exec script history s

/-- The state after a history. -/
def runHistory (history : List (LabScript × ℕ)) (s : Host) : Host :=
  Script.runAll exec s (trace history s)

/-- The commands of some script on some host, cut short somewhere. -/
def CutVersion (t : List Cmd) : Prop := ∃ i s, t <+: resetCommands s ++ body i

/-- A trace is a concatenation of runs cut short. -/
theorem trace_eq_flatten (history : List (LabScript × ℕ)) (s : Host) :
    ∃ ts : List (List Cmd), trace history s = ts.flatten ∧ ∀ t ∈ ts, CutVersion t := by
  obtain ⟨ts, hts, hpre⟩ := Script.exists_runs_of_trace exec script history s
  refine ⟨ts, hts, fun t ht => ?_⟩
  obtain ⟨i, s', hpre'⟩ := hpre t ht
  rw [commands_script] at hpre'
  exact ⟨i, s', hpre'⟩

/-! ## The commands that occur -/

/-- What every command of the scripts has in common: sysctls are written on interfaces the
reset does not skip, rules are added and deleted at known places, and routes go through the
veth pair. -/
def Cmd.Lab : Cmd → Prop
  | .echo _ f _ => isDefault f = false
  | .ruleAdd r =>
    r = ⟨0, .all, .loc⟩ ∨ r = ⟨1000, .all, .loc⟩ ∨ (r.prio = 10 ∧ r.table = .num 100)
  | .ruleDelPrio n => n = 0 ∨ n = 100 ∨ n = 1000
  | .ruleDelTable t => t = .num 100
  | .routeAdd r => isVeth r.dev = true
  | _ => True

instance : DecidablePred Cmd.Lab
  | .echo _ f _ => inferInstanceAs (Decidable (isDefault f = false))
  | .ruleAdd r => inferInstanceAs (Decidable (r = _ ∨ r = _ ∨ (r.prio = 10 ∧ r.table = _)))
  | .ruleDelPrio n => inferInstanceAs (Decidable (n = 0 ∨ n = 100 ∨ n = 1000))
  | .ruleDelTable t => inferInstanceAs (Decidable (t = .num 100))
  | .routeAdd r => inferInstanceAs (Decidable (isVeth r.dev = true))
  | .linkAddVeth | .linkDelVeth | .linkSetLo _ | .iptablesFlush _ | .iptablesInsert _ _ _
  | .iptablesAppend _ _ _ | .other _ => inferInstanceAs (Decidable True)

/-- The loop of `reset.sh` only writes sysctls, on interfaces it does not skip. -/
theorem echo_of_mem_resetConf {names : List String} {c : Cmd} (h : c ∈ resetConf names) :
    ∃ v f key, c = .echo v f key ∧ isDefault f = false := by
  obtain ⟨f, hf, hc⟩ := List.mem_flatMap.mp h
  have hskip : isDefault f = false := by
    simpa using (List.mem_filter.mp hf).2
  simp only [resetConfOf, List.mem_cons, List.not_mem_nil, or_false] at hc
  rcases hc with rfl | rfl | rfl | rfl <;> exact ⟨_, f, _, rfl, hskip⟩

/-- The commands of a reset are commands of the lab. -/
theorem lab_of_mem_resetCommands {s : Host} {c : Cmd} (h : c ∈ resetCommands s) : c.Lab := by
  rcases List.mem_append.mp h with h | h
  · obtain ⟨v, f, key, rfl, hskip⟩ := echo_of_mem_resetConf h
    exact hskip
  · have hall : ∀ c ∈ resetTail, c.Lab := by decide
    exact hall c h

/-- The commands of a test are commands of the lab. -/
theorem lab_of_mem_body {i : LabScript} {c : Cmd} (h : c ∈ body i) : c.Lab := by
  have hall : ∀ c ∈ body i, c.Lab := by
    cases i <;> decide
  exact hall c h

/-- The commands of a run are commands of the lab. -/
theorem CutVersion.lab {t : List Cmd} (h : CutVersion t) {c : Cmd} (hc : c ∈ t) : c.Lab := by
  obtain ⟨i, s, hpre⟩ := h
  rcases List.mem_append.mp (hpre.subset hc) with hc | hc
  · exact lab_of_mem_resetCommands hc
  · exact lab_of_mem_body hc

/-- The commands of a history are commands of the lab. -/
theorem lab_of_mem_trace {history : List (LabScript × ℕ)} {s : Host} {c : Cmd}
    (h : c ∈ trace history s) : c.Lab := by
  obtain ⟨ts, hts, hcut⟩ := trace_eq_flatten history s
  rw [hts] at h
  obtain ⟨t, ht, hc⟩ := List.mem_flatten.mp h
  exact (hcut t ht).lab hc

end PythonForFun.Arp
