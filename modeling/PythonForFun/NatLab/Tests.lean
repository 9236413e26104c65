import PythonForFun.NatLab.Hosts
import PythonForFun.Lib.Script

set_option relaxedAutoImplicit false
set_option autoImplicit false

/-!
# The tests of the iptables lab

`test.sh` runs under `set -e`. Each of its tests flushes the tables of the three hosts, checks what
can be reached, adds one rule on one host, and checks again. A check that does not find what it
has to find ends the script, as a run may end anywhere. No test takes its rule away: the flush of
the next one does.

## Main definitions

* `NatLab.Cmd`, `NatLab.Cmd.exec` — the commands and their effect.
* `NatLab.script`, `NatLab.testSh` — the lines of a test, and of the tests of a run.
* `NatLab.installed` — the tables with the rule of a test and no other.
* `NatLab.Cmd.keep` — the rules that commands of the flush leave.

## Main results

* `NatLab.runAll_flush`, `NatLab.runAll_flushed` — what the flush and parts of it take away.
* `NatLab.runAll_take_body` — what a test adds after its flush.
-/

namespace PythonForFun.NatLab

open Netfilter
open PodNetwork (Addr ip Net)

/-! ## Commands -/

/-- The commands of the tests. -/
inductive Cmd
  /-- `iptables -F` -/
  | flushFilter (h : HostId)
  /-- `iptables -t nat -F` -/
  | flushNat (h : HostId)
  /-- `iptables -I INPUT -s src -p tcp -j REJECT` -/
  | insertReject (h : HostId) (src : Addr)
  /-- `iptables -I INPUT -p tcp --dport port -j LOG` -/
  | insertLog (h : HostId) (port : ℕ)
  /-- `iptables -t nat -A POSTROUTING -s net -j SNAT --to-source toSource` -/
  | appendSnat (h : HostId) (net : Net) (toSource : Addr)
  /-- `iptables -t nat -I PREROUTING -d dst -p tcp --dport port -j DNAT --to-destination toDest` -/
  | insertDnat (h : HostId) (dst : Addr) (port : ℕ) (toDest : Addr × ℕ)
  /-- `iptables -t nat -A PREROUTING -d dst -p tcp --dport port -j REDIRECT --to-port toPort` -/
  | appendRedirect (h : HostId) (dst : Addr) (port toPort : ℕ)
  /-- `curl name:port || fail`, or `&& fail` where it must not be accessible -/
  | curl (h name : HostId) (port : ℕ) (accessible : Bool)
  /-- `ping name -c 1 || fail` -/
  | ping (h name : HostId)
  /-- A command that neither edits the tables nor checks them. -/
  | other (h : HostId) (line : String)
  deriving DecidableEq

/-- The state with the input chain of a host changed. -/
def State.editInput (s : State) (h : HostId) (f : Chain Packet → Chain Packet) : State :=
  Function.update s h { s h with filter := { (s h).filter with input := f (s h).filter.input } }

/-- The state with a chain of the `nat` table of a host changed. -/
def State.editNat (s : State) (h : HostId) (k : NatHook)
    (f : List (NatRule Packet) → List (NatRule Packet)) : State :=
  Function.update s h { s h with nat := Function.update (s h).nat k (f ((s h).nat k)) }

/-- What a command does to the tables. A packet that a `REDIRECT` rule for one of the host's
addresses hits came in through the interface with that address, so only its port is rewritten. -/
def Cmd.edit : Cmd → State → State
  | .flushFilter h, s => Function.update s h { s h with filter := (s h).filter.flush }
  | .flushNat h, s => Function.update s h { s h with nat := fun _ => [] }
  | .insertReject h src, s =>
    s.editInput h (·.insert ⟨fun p => p.src == src && p.proto == .tcp, .verdict .reject⟩)
  | .insertLog h port, s =>
    s.editInput h (·.insert ⟨fun p => p.proto == .tcp && p.dport == port, .pass⟩)
  | .appendSnat h net toSource, s =>
    s.editNat h .postrouting
      (· ++ [⟨fun p => net.covers p.src, fun p => { p with src := toSource }⟩])
  | .insertDnat h dst port toDest, s =>
    s.editNat h .prerouting
      (⟨fun p => p.dst == dst && p.proto == .tcp && p.dport == port,
        fun p => { p with dst := toDest.1, dport := toDest.2 }⟩ :: ·)
  | .appendRedirect h dst port toPort, s =>
    s.editNat h .prerouting
      (· ++ [⟨fun p => p.dst == dst && p.proto == .tcp && p.dport == port,
        fun p => { p with dport := toPort }⟩])
  | .curl .., s => s
  | .ping .., s => s
  | .other .., s => s

/-- What a check asks of the lab. -/
def Cmd.passes (lab : Lab) : Cmd → State → Bool
  | .curl h name port accessible, s =>
    ((h.etcHosts name).any fun a => connects lab s h .tcp a port) == accessible
  | .ping h name, s => (h.etcHosts name).any fun a => connects lab s h .icmp a 0
  | _, _ => true

/-- The effect of a command; `none` when it is a check that fails. -/
def Cmd.exec (lab : Lab) (c : Cmd) (s : State) : Option State :=
  if c.passes lab s then some (c.edit s) else none

/-! ## The tests -/

/-- What `flush` runs on a host. The first of the two commands may fail. -/
def flushHost (h : HostId) : List (Script.Line Cmd) :=
  [⟨.flushFilter h, false⟩, ⟨.flushNat h, true⟩]

/-- `flush`, with its argument if there is one. -/
def flush : Option HostId → List (Script.Line Cmd)
  | none => [HostId.outside, .gateway, .internal].flatMap flushHost
  | some h => flushHost h

/-- `test_protocol` after its flush. -/
def testProtocol : List Cmd :=
  [.curl .gateway .outside 8080 true,
   .insertReject .outside (ip 10 0 1 3),
   .other .outside "sudo iptables -L -vn --line",
   .curl .gateway .outside 8080 false,
   .ping .gateway .outside]

/-- `test_log` after its flush. -/
def testLog : List Cmd :=
  [.other .outside "sudo tee /etc/rsyslog.d/iptables.conf; sudo systemctl restart rsyslog",
   .insertLog .outside 8081,
   .curl .gateway .outside 8081 true,
   .other .outside "sudo tail /var/log/iptables$term.log"]

/-- `test_snat` after its flush. -/
def testSnat : List Cmd :=
  [.curl .internal .outside 8080 false,
   .appendSnat .gateway ⟨ip 172 0 1 0, 24⟩ (ip 10 0 1 3),
   .curl .internal .outside 8080 true,
   .other .gateway "sudo conntrack -L -s 172.0.1.2"]

/-- `test_dnat` after its flush. -/
def testDnat : List Cmd :=
  [.curl .outside .gateway 8080 false,
   .insertDnat .gateway (ip 10 0 1 3) 8080 (ip 172 0 1 2, 8080),
   .curl .outside .gateway 8080 true,
   .other .gateway "sudo conntrack -L -d 10.0.1.3"]

/-- `test_redirect` after its flush. -/
def testRedirect : List Cmd :=
  [.curl .gateway .outside 48080 false,
   .appendRedirect .outside (ip 10 0 1 2) 48080 8080,
   .curl .gateway .outside 48080 true]

/-- The tests. -/
inductive LabTest
  | protocol
  | log
  | snat
  | dnat
  | redirect
  deriving DecidableEq

/-- What a test does after its flush. -/
def body : LabTest → List Cmd
  | .protocol => testProtocol
  | .log => testLog
  | .snat => testSnat
  | .dnat => testDnat
  | .redirect => testRedirect

/-- The lines of a test. -/
def script (t : LabTest) : List (Script.Line Cmd) := flush none ++ (body t).map (⟨·, true⟩)

/-- The lines that `test.sh` runs, for the tests it calls. -/
def testSh (ts : List LabTest) : List (Script.Line Cmd) := ts.flatMap script

/-- The tests that `test.sh` calls. Its copy in the LVS lab calls the last one only. -/
def allTests : List LabTest := [.protocol, .log, .snat, .dnat, .redirect]

/-- The commands a history gets through: each entry is a run of `test.sh` for some tests, and the
number of commands after which it is cut short. -/
def trace (lab : Lab) (history : List (List LabTest × ℕ)) (s : State) : List Cmd :=
  Script.trace (Cmd.exec lab) (fun ts _ => testSh ts) history s

/-- The state after a history. -/
def runHistory (lab : Lab) (history : List (List LabTest × ℕ)) (s : State) : State :=
  Script.runAll (Cmd.exec lab) s (trace lab history s)

/-! ## The rule of a test -/

/-- The rule that a test adds. -/
def LabTest.rule : LabTest → Cmd
  | .protocol => .insertReject .outside (ip 10 0 1 3)
  | .log => .insertLog .outside 8081
  | .snat => .appendSnat .gateway ⟨ip 172 0 1 0, 24⟩ (ip 10 0 1 3)
  | .dnat => .insertDnat .gateway (ip 10 0 1 3) 8080 (ip 172 0 1 2, 8080)
  | .redirect => .appendRedirect .outside (ip 10 0 1 2) 48080 8080

/-- The tables without any rule. -/
def blank : State := fun _ =>
  { filter := ⟨⟨.accept, []⟩, ⟨.accept, []⟩, ⟨.accept, []⟩⟩
    nat := fun _ => [] }

/-- The tables with the rule of a test and no other, or without any. -/
def installed : Option LabTest → State
  | none => blank
  | some t => t.rule.edit blank

/-- The policies of a table accept. -/
structure AllAccept (f : FilterTable Packet) : Prop where
  input : f.input.policy = .accept
  output : f.output.policy = .accept
  forward : f.forward.policy = .accept

/-- The tables the lab starts with: whatever rules there are, the policies accept. -/
def Boot (s : State) : Prop := ∀ h, AllAccept (s h).filter

/-! ## Single commands -/

variable (lab : Lab)

/-- A check changes nothing, whether it fails or not. -/
theorem apply_exec (s : State) (c : Cmd) : Script.apply (Cmd.exec lab) s c = c.edit s := by
  rw [Script.apply, Cmd.exec]
  by_cases h : c.passes lab s
  · rw [if_pos h, Option.getD_some]
  · rw [if_neg h, Option.getD_none]
    cases c with
    | curl => rfl
    | ping => rfl
    | _ => exact absurd rfl h

/-- What a list of commands does to the tables. -/
theorem runAll_exec (s : State) (cmds : List Cmd) :
    Script.runAll (Cmd.exec lab) s cmds = cmds.foldl (fun s c => c.edit s) s := by
  induction cmds generalizing s with
  | nil => rfl
  | cons c cmds ih =>
    rw [List.foldl_cons, ← ih, ← apply_exec lab]
    rfl

/-- No command changes a policy. -/
theorem Boot.edit {s : State} (hs : Boot s) (c : Cmd) : Boot (c.edit s) := by
  have hupdate : ∀ (h : HostId) (tables : Tables), AllAccept tables.filter →
      Boot (Function.update s h tables) := by
    intro h tables htables h'
    rcases eq_or_ne h' h with rfl | hne
    · rwa [Function.update_self]
    · rw [Function.update_of_ne hne]
      exact hs h'
  cases c with
  | curl => exact hs
  | ping => exact hs
  | other => exact hs
  | _ => exact hupdate _ _ ⟨(hs _).input, (hs _).output, (hs _).forward⟩

/-- The tables of a test have the policies the lab starts with. -/
theorem boot_installed (i : Option LabTest) : Boot (installed i) := by
  have hblank : Boot blank := fun h => ⟨rfl, rfl, rfl⟩
  cases i with
  | none => exact hblank
  | some t => exact hblank.edit t.rule

/-! ## The flush -/

/-- **The flush leaves no rule**, whatever rules there were. -/
theorem runAll_flush {s : State} (h : Boot s) :
    Script.runAll (Cmd.exec lab) s (Script.commands (flush none)) = blank := by
  have hflushed : ∀ h₀, (s h₀).filter.flush = (blank h₀).filter := by
    intro h₀
    show (⟨⟨_, []⟩, ⟨_, []⟩, ⟨_, []⟩⟩ : FilterTable Packet) = _
    rw [(h h₀).input, (h h₀).output, (h h₀).forward]
    rfl
  rw [runAll_exec]
  funext h₀
  cases h₀ with
  | internal => exact congrArg (Tables.mk · fun _ => []) (hflushed .internal)
  | gateway => exact congrArg (Tables.mk · fun _ => []) (hflushed .gateway)
  | outside => exact congrArg (Tables.mk · fun _ => []) (hflushed .outside)

/-- None of its commands fails. -/
theorem runStrict_flush {s : State} (h : Boot s) :
    Script.runStrict (Cmd.exec lab) s (Script.commands (flush none)) = some blank := by
  have hrun := runAll_flush lab h
  rw [runAll_exec] at hrun
  exact congrArg some hrun

/-- The command of the flush that takes away the rule of a test. -/
def LabTest.flushedBy : LabTest → Cmd
  | .protocol | .log => .flushFilter .outside
  | .redirect => .flushNat .outside
  | .snat | .dnat => .flushNat .gateway

/-- The tests whose rule stays when the commands are run. -/
def Cmd.keep (cmds : List Cmd) (i : Option LabTest) : Option LabTest :=
  i.filter fun t => decide (t.flushedBy ∉ cmds)

/-- After one command that changes nothing a test adds its rule, and changes nothing more. -/
theorem body_split (t : LabTest) :
    ∃ c after, body t = c :: t.rule :: after ∧ ∀ c' ∈ c :: after, ∀ s, c'.edit s = s := by
  cases t with
  | protocol => exact ⟨_, [_, _, _], rfl, by simp [Cmd.edit]⟩
  | log => exact ⟨_, [_, _], rfl, by simp [Cmd.edit]⟩
  | snat => exact ⟨_, [_, _], rfl, by simp [Cmd.edit]⟩
  | dnat => exact ⟨_, [_, _], rfl, by simp [Cmd.edit]⟩
  | redirect => exact ⟨_, [_], rfl, by simp [Cmd.edit]⟩

/-- The commands of a test. -/
theorem commands_script (t : LabTest) :
    Script.commands (script t) = Script.commands (flush none) ++ body t := by
  rw [script, Script.commands, List.map_append, ← Script.commands, ← Script.commands,
    Script.commands_map]

/-- The commands of several tests. -/
theorem commands_testSh_cons (t : LabTest) (ts : List LabTest) :
    Script.commands (testSh (t :: ts)) =
      Script.commands (script t) ++ Script.commands (testSh ts) := by
  rw [testSh, List.flatMap_cons, Script.commands, List.map_append]
  rfl

end PythonForFun.NatLab
