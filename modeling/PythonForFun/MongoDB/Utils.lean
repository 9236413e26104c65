import Mathlib.Logic.Function.Basic
import PythonForFun.Lib.Prog
import PythonForFun.Python
import PythonForFun.Iptables

set_option relaxedAutoImplicit false
set_option autoImplicit false

/-!
# The MongoDB replica-set helpers

`mongodb/mongodb_utils.py`: running a command, waiting for a value, and cutting one member of
a replica set off from the others and healing it again. The helpers reach the hosts by ssh at
their public ip; a host is known by that address and carries a filter table. A remote command
takes effect when its exit status is `0`, and has no effect otherwise. The replica set's
elections are a history of what the client property `primary` answers at successive reads.

## Main definitions

* `MongoDB.run`, `MongoDB.waitUntil` — `run` and `wait_until`.
* `MongoDB.NodeInfo`, `MongoDB.RsInfo` — the dictionary `rs_info`.
* `MongoDB.World`, `MongoDB.ssh` — the hosts' filter tables and a remote command.
* `MongoDB.mockNetworkPartition`, `MongoDB.mockNetworkPartitionRecovery`.

## Main results

* `MongoDB.defaultTarget_eq_ok_iff` — the default target in terms of the reads.
* `MongoDB.findTargetNode_of_mem`, `MongoDB.mem_of_findTargetNode` — the target loop finds
  the member an address belongs to.
* `MongoDB.mem_peerIps` — the accumulated addresses are those of the other members.
-/

namespace PythonForFun.MongoDB

open Netfilter

/-! ## Running a command -/

/-- `run(script, quiet, timeout, translation)` on the outcome of the script's process. The
module defines no `translate`, so any translation raises a `NameError`. -/
def run (proc : ProcResult) (quiet : Value := .bool false)
    (translation : Option (Dict String String) := none) : Except PyErr (String × String) :=
  let stdoutStr := rstripNewlines proc.stdout
  let stderrStr := rstripNewlines proc.stderr
  if translation.isSome then .error (.nameError "translate")
  else if quiet.isFalse ∧ proc.returncode ≠ 0 then
    .error (.commandFailed proc.returncode stderrStr)
  else .ok (stdoutStr, stderrStr)

/-- Without a translation and not quiet, `run` returns iff the exit status is `0`. -/
theorem run_eq_ok_iff (proc : ProcResult) :
    (∃ r, run proc = .ok r) ↔ proc.returncode = 0 := by
  unfold run
  by_cases h : proc.returncode = 0 <;> simp [h, Value.isFalse]

/-! ## Waiting for a value -/

/-- `wait_until(func, expect, desc, delay, tries)`, where `func` answers `func k` at its
`k`-th call and `str` prints a value; the result comes with the number of calls made. The
loop runs while `tries >= 0`, so once more than `tries` says. -/
def waitUntil {α : Type} [DecidableEq α] (str : α → String) (func : ℕ → α) (expect : α)
    (desc : String) : (tries k : ℕ) → Except PyErr Unit × ℕ
  | tries, k =>
    if func k = expect then (.ok (), k + 1)
    else match tries with
      | 0 => (.error (.exception s!"actual[{str (func k)}] != expected[{str expect}] ({desc})"),
          k + 1)
      | tries + 1 => waitUntil str func expect desc tries (k + 1)

/-- The text Python prints for a truth value. -/
def strBool (b : Bool) : String := if b then "True" else "False"

/-- What `c.primary` answers at successive reads: nobody, or a member's host and port. -/
abbrev Client : Type := ℕ → Option (String × ℕ)

/-- The default target: wait until the client knows a primary, then read it once more and
unpack host and port. -/
def defaultTarget (c : Client) : Except PyErr String :=
  match waitUntil strBool (fun k => (c k).isSome) true "None" 10 0 with
  | (.error e, _) => .error e
  | (.ok (), k) =>
    match c k with
    | none => .error .typeError
    | some (target, _port) => .ok target

/-! ## The members of the replica set -/

/-- One member's addresses. -/
structure NodeInfo where
  ip : String
  dns : String
  privateIp : String
  deriving DecidableEq

/-- The three addresses a member can be named by. -/
def NodeInfo.addresses (info : NodeInfo) : List String := [info.ip, info.privateIp, info.dns]

/-- The dictionary `rs_info` from node names to addresses. -/
abbrev RsInfo : Type := Dict String NodeInfo

/-- No two members share an address. -/
def AddressesDistinct (rsInfo : RsInfo) : Prop :=
  ∀ e ∈ rsInfo.items, ∀ e' ∈ rsInfo.items, ∀ a ∈ e.2.addresses, a ∈ e'.2.addresses → e = e'

instance (rsInfo : RsInfo) : Decidable (AddressesDistinct rsInfo) :=
  inferInstanceAs (Decidable (∀ e ∈ rsInfo.items, ∀ e' ∈ rsInfo.items,
    ∀ a ∈ e.2.addresses, a ∈ e'.2.addresses → e = e'))

/-- The loop that looks the target up; the last match wins. -/
def findTargetNode (rsInfo : RsInfo) (target : String) : Option String :=
  rsInfo.items.foldl (fun targetNode e =>
    if e.2.ip = target ∨ e.2.privateIp = target ∨ e.2.dns = target then some e.1
    else targetNode) none

/-- The loop that collects the addresses of the other members. -/
def peerIps (rsInfo : RsInfo) (targetNode : String) : List String :=
  rsInfo.items.foldl (fun ips e =>
    if e.1 ≠ targetNode then ips ++ [e.2.privateIp] ++ [e.2.ip] else ips) []

/-! ## Remote commands -/

/-- The filter tables of the hosts, by public ip, and the number of remote commands issued. -/
structure World where
  filters : String → FilterTable Packet
  issued : ℕ

/-- `run(f"ssh ... ec2-user@{ip} sudo iptables ...")`. The outcome of the `n`-th remote
command is `remote n`; a usage error exits non-zero whatever the remote side would say. -/
def ssh (remote : ℕ → ProcResult) (ip : String) (cmd : Iptables) :
    Prog PyErr World (String × String) := fun w =>
  let proc := remote w.issued
  let w' : World := { w with issued := w.issued + 1 }
  match cmd.apply (w.filters ip) with
  | none => (run { proc with returncode := if proc.returncode = 0 then 2 else proc.returncode },
      w')
  | some f =>
    (run proc, if proc.returncode = 0 then
      { w' with filters := Function.update w.filters ip f } else w')

/-! ## Cutting a member off and healing it -/

/-- The target both helpers work on: the caller's, or the primary when there is none. -/
def resolveTarget (c : Client) : Option String → Except PyErr String
  | none => defaultTarget c
  | some target => .ok target

/-- `mock_network_partition(rs_info, target, incoming, outcoming)`. -/
def mockNetworkPartition (remote : ℕ → ProcResult) (c : Client) (rsInfo : RsInfo)
    (target : Option String := none) (incoming outcoming : Value := .bool false) :
    Prog PyErr World Unit := do
  let target ← Prog.ofExcept (resolveTarget c target)
  match findTargetNode rsInfo target with
  | none => Prog.raise .assertionError
  | some targetNode =>
    match rsInfo.get? targetNode with
    | none => Prog.raise (.keyError targetNode)
    | some info =>
      let ips := peerIps rsInfo targetNode
      if incoming.isFalse then
        let _ ← ssh remote info.ip (.insertInputSource ips)
      if outcoming.isFalse then
        let _ ← ssh remote info.ip (.insertOutputDestination ips)

/-- `mock_network_partition_recovery(rs_info, target)`. -/
def mockNetworkPartitionRecovery (remote : ℕ → ProcResult) (c : Client) (rsInfo : RsInfo)
    (target : Option String := none) : Prog PyErr World Unit := do
  let target ← Prog.ofExcept (resolveTarget c target)
  match findTargetNode rsInfo target with
  | none => Prog.raise .assertionError
  | some targetNode =>
    match rsInfo.get? targetNode with
    | none => Prog.raise (.keyError targetNode)
    | some info =>
      let _ ← ssh remote info.ip .flush

/-! ## What each part does -/

section WaitUntil

variable {α : Type} {func : ℕ → α} {expect : α} {tries k k' : ℕ}

/-- The first call answers: it is the first one to do so. -/
theorem exists_first_of_eq (hk : func k = expect) :
    (∃ j ≤ tries, (∀ i < j, func (k + i) ≠ expect) ∧ func (k + j) = expect ∧ k' = k + j + 1) ↔
      k' = k + 1 := by
  constructor
  · rintro ⟨j, -, hno, -, rfl⟩
    obtain rfl : j = 0 := by
      by_contra hj
      exact hno 0 (by omega) hk
    rfl
  · intro hk'
    exact ⟨0, by omega, fun i hi => absurd hi (by omega), hk, hk'⟩

/-- The first call does not answer: the first one to do so comes after it. -/
theorem exists_first_of_ne (hk : func k ≠ expect) :
    (∃ j ≤ tries + 1, (∀ i < j, func (k + i) ≠ expect) ∧ func (k + j) = expect ∧
        k' = k + j + 1) ↔
      ∃ j ≤ tries, (∀ i < j, func (k + 1 + i) ≠ expect) ∧ func (k + 1 + j) = expect ∧
        k' = k + 1 + j + 1 := by
  have hshift : ∀ i, k + (i + 1) = k + 1 + i := fun i => by omega
  constructor
  · rintro ⟨j, hj, hno, hf, rfl⟩
    cases j with
    | zero => exact absurd hf hk
    | succ j =>
      rw [hshift] at hf
      refine ⟨j, by omega, fun i hi => ?_, hf, by omega⟩
      rw [← hshift]
      exact hno (i + 1) (by omega)
  · rintro ⟨j, hj, hno, hf, rfl⟩
    rw [← hshift] at hf
    refine ⟨j + 1, by omega, fun i hi => ?_, hf, by omega⟩
    cases i with
    | zero => exact hk
    | succ i =>
      rw [hshift]
      exact hno i (by omega)

/-- **The wait loop** returns iff one of its `tries + 1` calls answers the expected value, and
then stops at the first such call.

**Proof sketch.** Induction on `tries`: either the call at `k` answers, or the loop goes on
from `k + 1` with one try less. -/
theorem waitUntil_eq_ok_iff {α : Type} [DecidableEq α] (str : α → String) (func : ℕ → α)
    (expect : α) (desc : String) (tries k k' : ℕ) :
    waitUntil str func expect desc tries k = (.ok (), k') ↔
      ∃ j ≤ tries, (∀ i < j, func (k + i) ≠ expect) ∧ func (k + j) = expect ∧
        k' = k + j + 1 := by
  have hreturn : ∀ n, ((.ok (), n) : Except PyErr Unit × ℕ) = (.ok (), k') ↔ k' = n := by
    simp [eq_comm]
  induction tries generalizing k with
  | zero =>
    unfold waitUntil
    by_cases hk : func k = expect
    · rw [if_pos hk, exists_first_of_eq hk, hreturn]
    · rw [if_neg hk]
      constructor
      · intro h
        exact absurd (Prod.mk.inj h).1 (by simp)
      · rintro ⟨j, hj, -, hf, -⟩
        obtain rfl : j = 0 := by omega
        exact absurd hf hk
  | succ tries ih =>
    unfold waitUntil
    by_cases hk : func k = expect
    · rw [if_pos hk, exists_first_of_eq hk, hreturn]
    · rw [if_neg hk, exists_first_of_ne hk]
      exact ih (k + 1)

end WaitUntil

/-- The host a default target is unpacked from: the one answered by the read that follows the
first of at most eleven reads to answer a member. -/
def UnpackedPrimary (c : Client) (host : String) : Prop :=
  ∃ j ≤ 10, (∀ i < j, c i = none) ∧ c j ≠ none ∧ ∃ port, c (j + 1) = some (host, port)

/-- The wait for a primary returns after the first read to answer a member, among eleven. -/
theorem waitForPrimary_eq_ok_iff (c : Client) (k : ℕ) :
    waitUntil strBool (fun k => (c k).isSome) true "None" 10 0 = (.ok (), k) ↔
      ∃ j ≤ 10, (∀ i < j, c i = none) ∧ c j ≠ none ∧ k = j + 1 := by
  simp [waitUntil_eq_ok_iff, Option.isSome_iff_ne_none]

/-- The default target is the unpacked primary. -/
theorem defaultTarget_eq_ok_iff (c : Client) (host : String) :
    defaultTarget c = .ok host ↔ UnpackedPrimary c host := by
  unfold defaultTarget
  rcases hw : waitUntil strBool (fun k => (c k).isSome) true "None" 10 0 with ⟨r, k⟩
  cases r with
  | error e =>
    constructor
    · intro h
      simp at h
    · rintro ⟨j, hj, hno, hsome, -⟩
      have hok := (waitForPrimary_eq_ok_iff c (j + 1)).mpr ⟨j, hj, hno, hsome, rfl⟩
      rw [hw] at hok
      simp at hok
  | ok u =>
    obtain ⟨j, hj, hfirst, hne, rfl⟩ := (waitForPrimary_eq_ok_iff c k).mp hw
    constructor
    · intro h
      refine ⟨j, hj, hfirst, hne, ?_⟩
      cases hc : c (j + 1) with
      | none => simp [hc] at h
      | some hp =>
        obtain ⟨h', port⟩ := hp
        simp only [hc, Except.ok.injEq] at h
        exact ⟨port, by rw [h]⟩
    · rintro ⟨j', hj', hno', hne', port, hport⟩
      have hjj : j' = j := by
        rcases Nat.lt_trichotomy j' j with h | h | h
        · exact absurd (hfirst j' h) hne'
        · exact h
        · exact absurd (hno' j h) hne
      subst hjj
      simp [hport]

/-- A loop that remembers the last match ends with its initial value or with a match, and
with a match if there is one.

**Proof sketch.** Induction on the list, for an arbitrary value remembered so far. -/
theorem foldl_last_match {α β : Type} (p : α → Prop) [DecidablePred p] (g : α → β)
    (l : List α) (init : Option β) :
    (l.foldl (fun acc a => if p a then some (g a) else acc) init = init ∧ ∀ a ∈ l, ¬ p a) ∨
      ∃ a ∈ l, p a ∧ l.foldl (fun acc a => if p a then some (g a) else acc) init = some (g a) := by
  induction l generalizing init with
  | nil => simp
  | cons a l ih =>
    rw [List.foldl_cons]
    by_cases ha : p a
    · rw [if_pos ha]
      rcases ih (some (g a)) with ⟨h, -⟩ | ⟨b, hb, hpb, h⟩
      · exact Or.inr ⟨a, List.mem_cons_self, ha, h⟩
      · exact Or.inr ⟨b, List.mem_cons_of_mem a hb, hpb, h⟩
    · rw [if_neg ha]
      rcases ih init with ⟨h, hno⟩ | ⟨b, hb, hpb, h⟩
      · exact Or.inl ⟨h, List.forall_mem_cons.mpr ⟨ha, hno⟩⟩
      · exact Or.inr ⟨b, List.mem_cons_of_mem a hb, hpb, h⟩

/-- The condition of the target loop says that the target is one of the member's addresses. -/
theorem mem_addresses_iff (info : NodeInfo) (target : String) :
    target ∈ info.addresses ↔
      info.ip = target ∨ info.privateIp = target ∨ info.dns = target := by
  simp [NodeInfo.addresses, eq_comm]

/-- The target loop ends empty-handed when no member has the address, and with a member that
has it otherwise. -/
theorem findTargetNode_cases (rsInfo : RsInfo) (target : String) :
    (findTargetNode rsInfo target = none ∧ ∀ e ∈ rsInfo.items, target ∉ e.2.addresses) ∨
      ∃ e ∈ rsInfo.items, target ∈ e.2.addresses ∧ findTargetNode rsInfo target = some e.1 := by
  simp only [mem_addresses_iff]
  exact foldl_last_match (fun e : String × NodeInfo =>
    e.2.ip = target ∨ e.2.privateIp = target ∨ e.2.dns = target) Prod.fst rsInfo.items none

/-- The target loop ends with a member the target is an address of. -/
theorem mem_of_findTargetNode {rsInfo : RsInfo} {target node : String}
    (h : findTargetNode rsInfo target = some node) :
    ∃ info, (node, info) ∈ rsInfo.items ∧ target ∈ info.addresses := by
  rcases findTargetNode_cases rsInfo target with ⟨hnone, -⟩ | ⟨e, he, ht, hsome⟩
  · rw [hnone] at h
    cases h
  · rw [hsome] at h
    cases h
    exact ⟨e.2, he, ht⟩

/-- The target loop finds the member an address belongs to. -/
theorem findTargetNode_of_mem {rsInfo : RsInfo} (hd : AddressesDistinct rsInfo)
    {node : String} {info : NodeInfo} (he : (node, info) ∈ rsInfo.items) {target : String}
    (ht : target ∈ info.addresses) : findTargetNode rsInfo target = some node := by
  rcases findTargetNode_cases rsInfo target with ⟨-, hno⟩ | ⟨e, he', ht', hsome⟩
  · exact absurd ht (hno _ he)
  · have heq : e = (node, info) := hd e he' _ he target ht' ht
    rw [hsome, heq]

/-- `a` is the ip or private ip of a member other than `node`. -/
def IsPeerIp (rsInfo : RsInfo) (node a : String) : Prop :=
  ∃ e ∈ rsInfo.items, e.1 ≠ node ∧ (a = e.2.privateIp ∨ a = e.2.ip)

/-- The accumulated addresses are exactly the ips and private ips of the other members.

**Proof sketch.** Induction on the items, for an arbitrary list accumulated so far. -/
theorem mem_peerIps (rsInfo : RsInfo) (node a : String) :
    a ∈ peerIps rsInfo node ↔ IsPeerIp rsInfo node a := by
  have haux : ∀ (l : List (String × NodeInfo)) (ips : List String),
      a ∈ l.foldl (fun ips e =>
        if e.1 ≠ node then ips ++ [e.2.privateIp] ++ [e.2.ip] else ips) ips ↔
        a ∈ ips ∨ ∃ e ∈ l, e.1 ≠ node ∧ (a = e.2.privateIp ∨ a = e.2.ip) := by
    intro l
    induction l with
    | nil => simp
    | cons e l ih =>
      intro ips
      rw [List.foldl_cons, ih]
      by_cases hne : e.1 = node
      · simp [hne]
      · simp [hne, or_assoc]
  have h := haux rsInfo.items []
  simpa [peerIps, IsPeerIp] using h

instance (rsInfo : RsInfo) (node a : String) : Decidable (IsPeerIp rsInfo node a) :=
  decidable_of_iff _ (mem_peerIps rsInfo node a)

end PythonForFun.MongoDB
