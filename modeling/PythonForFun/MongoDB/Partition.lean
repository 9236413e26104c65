import PythonForFun.MongoDB.Utils

set_option relaxedAutoImplicit false
set_option autoImplicit false

/-!
# Cutting one member off

What `mock_network_partition` leaves on the hosts, on the returning and on the raising path:
the filter table of the target member with the dropping rules for its peers in front, and
every other host's table as it was.

## Main definitions

* `MongoDB.cutFilter` — a filter table with the rules of a call in front.
* `MongoDB.OnlySecondFails`, `MongoDB.HalfDone` — a call of whose two commands only the second one
  fails, and what it leaves behind.

## Main results

* `MongoDB.mockNetworkPartition_finds` — a call fails before its commands, or finds a member.
* `MongoDB.cutCommands_eq_ok`, `MongoDB.cutCommands_eq_error` — the tables after the commands.
* `MongoDB.mockNetworkPartition_cuts_exactly` — a returning call drops exactly the packets from
  and to the other members that it is asked to drop.
* `MongoDB.mockNetworkPartition_error_trace` — when a raising call leaves something behind, and
  what.
-/

namespace PythonForFun.MongoDB

open Netfilter

/-! ## One remote command -/

/-- A remote command that returns was well-formed, exited with `0` and took effect. -/
theorem ssh_eq_ok {remote : ℕ → ProcResult} {ip : String} {cmd : Iptables} {w w' : World}
    {r : String × String} (h : ssh remote ip cmd w = (.ok r, w')) :
    (remote w.issued).returncode = 0 ∧ ∃ f, cmd.apply (w.filters ip) = some f ∧
      w' = ⟨Function.update w.filters ip f, w.issued + 1⟩ := by
  unfold ssh at h
  cases hf : cmd.apply (w.filters ip) with
  | none =>
    simp only [hf, Prod.mk.injEq] at h
    have hcode := (run_eq_ok_iff _).mp ⟨r, h.1⟩
    by_cases h0 : (remote w.issued).returncode = 0 <;> simp [h0] at hcode
  | some f =>
    simp only [hf, Prod.mk.injEq] at h
    have hcode := (run_eq_ok_iff _).mp ⟨r, h.1⟩
    refine ⟨hcode, f, rfl, ?_⟩
    rw [← h.2, if_pos hcode]

/-- A remote command that raises was a usage error or exited with another status than `0`,
and had no effect. -/
theorem ssh_eq_error {remote : ℕ → ProcResult} {ip : String} {cmd : Iptables} {w w' : World}
    {e : PyErr} (h : ssh remote ip cmd w = (.error e, w')) :
    (cmd.apply (w.filters ip) = none ∨ (remote w.issued).returncode ≠ 0) ∧
      w' = ⟨w.filters, w.issued + 1⟩ := by
  unfold ssh at h
  cases hf : cmd.apply (w.filters ip) with
  | none =>
    simp only [hf, Prod.mk.injEq] at h
    exact ⟨Or.inl rfl, h.2.symm⟩
  | some f =>
    simp only [hf, Prod.mk.injEq] at h
    have hcode : (remote w.issued).returncode ≠ 0 := by
      intro h0
      obtain ⟨r, hr⟩ := (run_eq_ok_iff _).mpr h0
      rw [hr] at h
      cases h.1
    refine ⟨Or.inr hcode, ?_⟩
    rw [← h.2, if_neg hcode]

/-- A remote command issued when `flag is False`. -/
def sshUnless (flag : Value) (remote : ℕ → ProcResult) (ip : String) (cmd : Iptables) :
    Prog PyErr World Unit :=
  if flag.isFalse then ssh remote ip cmd >>= fun _ => pure () else pure ()

/-- A guarded command that returns was skipped, or it took effect. -/
theorem sshUnless_eq_ok {flag : Value} {remote : ℕ → ProcResult} {ip : String} {cmd : Iptables}
    {w w' : World} (h : sshUnless flag remote ip cmd w = (.ok (), w')) :
    (flag.isFalse = false ∧ w' = w) ∨
      (flag.isFalse = true ∧ (remote w.issued).returncode = 0 ∧
        ∃ f, cmd.apply (w.filters ip) = some f ∧
          w' = ⟨Function.update w.filters ip f, w.issued + 1⟩) := by
  unfold sshUnless at h
  cases hflag : flag.isFalse with
  | false =>
    simp only [hflag, Bool.false_eq_true, if_false, Prog.pure_apply, Prod.mk.injEq] at h
    exact Or.inl ⟨rfl, h.2.symm⟩
  | true =>
    simp only [hflag, if_true] at h
    obtain ⟨r, w₁, hssh, hpure⟩ := Prog.bind_eq_ok_iff.mp h
    simp only [Prog.pure_apply, Prod.mk.injEq] at hpure
    obtain ⟨hcode, f, hf, hw⟩ := ssh_eq_ok hssh
    exact Or.inr ⟨rfl, hcode, f, hf, by rw [← hpure.2, hw]⟩

/-- A guarded command that raises was issued, and raised. -/
theorem ssh_of_sshUnless_error {flag : Value} {remote : ℕ → ProcResult} {ip : String}
    {cmd : Iptables} {w w' : World} {e : PyErr}
    (h : sshUnless flag remote ip cmd w = (.error e, w')) :
    flag.isFalse = true ∧ ssh remote ip cmd w = (.error e, w') := by
  unfold sshUnless at h
  cases hflag : flag.isFalse with
  | false =>
    simp only [hflag, Bool.false_eq_true, if_false, Prog.pure_apply, Prod.mk.injEq] at h
    cases h.1
  | true =>
    simp only [hflag, if_true] at h
    rcases Prog.bind_eq_error_iff.mp h with hssh | ⟨r, w₁, -, hpure⟩
    · exact ⟨rfl, hssh⟩
    · simp only [Prog.pure_apply, Prod.mk.injEq] at hpure
      cases hpure.1

/-- A guarded command that raises was issued, and had no effect. -/
theorem sshUnless_eq_error {flag : Value} {remote : ℕ → ProcResult} {ip : String}
    {cmd : Iptables} {w w' : World} {e : PyErr}
    (h : sshUnless flag remote ip cmd w = (.error e, w')) :
    flag.isFalse = true ∧
      (cmd.apply (w.filters ip) = none ∨ (remote w.issued).returncode ≠ 0) ∧
      w' = ⟨w.filters, w.issued + 1⟩ := by
  obtain ⟨hflag, hssh⟩ := ssh_of_sshUnless_error h
  exact ⟨hflag, ssh_eq_error hssh⟩

/-! ## The whole call -/

/-- A filter table with the rules of a call in front, for the peers' addresses `ips`. -/
def cutFilter (ips : List String) (incoming outcoming : Value) (f : FilterTable Packet) :
    FilterTable Packet :=
  { f with
    input := if incoming.isFalse then f.input.insertAll (ips.map dropSource) else f.input
    output := if outcoming.isFalse then f.output.insertAll (ips.map dropDestination)
      else f.output }

/-- The rules of a chain that is cut off from some addresses: the last address comes first. -/
theorem input_rules_cutFilter (ips : List String) (outcoming : Value) (f : FilterTable Packet) :
    (cutFilter ips (.bool false) outcoming f).input.rules =
      (ips.map dropSource).reverse ++ f.input.rules :=
  Chain.rules_insertAll _ _

/-- The two guarded commands of a call, on the host of the target member. -/
def cutCommands (remote : ℕ → ProcResult) (ip : String) (ips : List String)
    (incoming outcoming : Value) : Prog PyErr World Unit :=
  sshUnless incoming remote ip (.insertInputSource ips) >>= fun _ =>
    sshUnless outcoming remote ip (.insertOutputDestination ips)

/-- The commands returned: the target host's table is cut as asked, the others are unchanged.

**Proof sketch.** Four cases, for the two guards. When both commands run, the second meets the
table the first one left, so the two updates of the host's table compose. -/
theorem cutCommands_eq_ok {remote : ℕ → ProcResult} {ip : String} {ips : List String}
    {incoming outcoming : Value} {w w' : World}
    (h : cutCommands remote ip ips incoming outcoming w = (.ok (), w')) :
    w'.filters =
      Function.update w.filters ip (cutFilter ips incoming outcoming (w.filters ip)) := by
  obtain ⟨⟨⟩, w₁, h₁, h₂⟩ := Prog.bind_eq_ok_iff.mp h
  rcases sshUnless_eq_ok h₁ with ⟨hi, rfl⟩ | ⟨hi, -, f₁, hf₁, rfl⟩ <;>
    rcases sshUnless_eq_ok h₂ with ⟨ho, rfl⟩ | ⟨ho, -, f₂, hf₂, rfl⟩
  · simp [cutFilter, hi, ho]
  · simp only [Iptables.apply, Option.ite_none_left_eq_some, Option.some.injEq] at hf₂
    simp [cutFilter, hi, ho, ← hf₂.2]
  · simp only [Iptables.apply, Option.ite_none_left_eq_some, Option.some.injEq] at hf₁
    simp [cutFilter, hi, ho, ← hf₁.2]
  · simp only [Iptables.apply, Option.ite_none_left_eq_some, Option.some.injEq,
      Function.update_self] at hf₁ hf₂
    simp [cutFilter, hi, ho, ← hf₂.2, ← hf₁.2]

/-- The commands are refused iff they name no address. -/
theorem apply_insert_eq_none_iff (ips : List String) (f : FilterTable Packet) :
    ((Iptables.insertInputSource ips).apply f = none ↔ ips = []) ∧
      ((Iptables.insertOutputDestination ips).apply f = none ↔ ips = []) := by
  constructor
  · simp [Iptables.apply]
  · simp [Iptables.apply]

/-- **The commands raised**: no table changed, but for the rules of the `INPUT` command when this
one took effect and the `OUTPUT` command failed.

**Proof sketch.** If the first command raises, it was refused or failed, and had no effect. If the
second raises, the first was skipped, or took effect; then it named an address, so that the second
cannot have been refused. -/
theorem cutCommands_eq_error {remote : ℕ → ProcResult} {ip : String} {ips : List String}
    {incoming outcoming : Value} {w w' : World} {e : PyErr}
    (h : cutCommands remote ip ips incoming outcoming w = (.error e, w')) :
    w'.filters =
      if incoming.isFalse = true ∧ outcoming.isFalse = true ∧ ips ≠ [] ∧
          (remote w.issued).returncode = 0 ∧ (remote (w.issued + 1)).returncode ≠ 0 then
        Function.update w.filters ip (cutFilter ips incoming (.bool true) (w.filters ip))
      else w.filters := by
  rcases Prog.bind_eq_error_iff.mp h with h₁ | ⟨⟨⟩, w₁, h₁, h₂⟩
  · obtain ⟨-, hfail, rfl⟩ := sshUnless_eq_error h₁
    rw [(apply_insert_eq_none_iff ips _).1] at hfail
    rw [if_neg fun hcond => hfail.elim hcond.2.2.1 fun hcode => hcode hcond.2.2.2.1]
  · obtain ⟨ho, hfail, rfl⟩ := sshUnless_eq_error h₂
    rw [(apply_insert_eq_none_iff ips _).2] at hfail
    rcases sshUnless_eq_ok h₁ with ⟨hi, rfl⟩ | ⟨hi, hcode, f₁, hf₁, rfl⟩
    · rw [if_neg fun hcond => absurd (hi.symm.trans hcond.1) (by decide)]
    · simp only [Iptables.apply, Option.ite_none_left_eq_some, Option.some.injEq] at hf₁
      have hskip : (Value.bool true).isFalse = false := rfl
      rw [if_pos ⟨hi, ho, hf₁.1, hcode, hfail.resolve_left hf₁.1⟩]
      simp [cutFilter, hi, hskip, ← hf₁.2]

/-- A call that finds its member issues the guarded commands on that member's host. -/
theorem mockNetworkPartition_of_found {remote : ℕ → ProcResult} {c : Client} {rsInfo : RsInfo}
    {target : Option String} {t node : String} {info : NodeInfo}
    (ht : resolveTarget c target = .ok t) (hn : findTargetNode rsInfo t = some node)
    (hget : rsInfo.get? node = some info) (incoming outcoming : Value) :
    mockNetworkPartition remote c rsInfo target incoming outcoming =
      cutCommands remote info.ip (peerIps rsInfo node) incoming outcoming := by
  simp only [mockNetworkPartition, ht, Prog.ofExcept_ok, pure_bind, hn, hget]
  unfold cutCommands sshUnless
  cases incoming.isFalse <;> cases outcoming.isFalse <;> simp

/-- The target of a call is this member. -/
def Finds (c : Client) (rsInfo : RsInfo) (target : Option String) (node : String)
    (info : NodeInfo) : Prop :=
  ∃ t, resolveTarget c target = .ok t ∧ findTargetNode rsInfo t = some node ∧
    rsInfo.get? node = some info

/-- A call fails before any command, or it finds a member and issues the guarded commands on that
member's host. -/
theorem mockNetworkPartition_finds {remote : ℕ → ProcResult} {c : Client} {rsInfo : RsInfo}
    {target : Option String} {incoming outcoming : Value} {w w' : World} {r : Except PyErr Unit}
    (h : mockNetworkPartition remote c rsInfo target incoming outcoming w = (r, w')) :
    ((∃ e, r = .error e) ∧ w' = w) ∨
      ∃ node info, Finds c rsInfo target node info ∧
        cutCommands remote info.ip (peerIps rsInfo node) incoming outcoming w = (r, w') := by
  cases ht : resolveTarget c target with
  | error e =>
    rw [mockNetworkPartition, Prog.bind_of_error (by rw [Prog.ofExcept_apply, ht])] at h
    cases h
    exact Or.inl ⟨⟨e, rfl⟩, rfl⟩
  | ok t =>
    cases hn : findTargetNode rsInfo t with
    | none =>
      rw [mockNetworkPartition, Prog.bind_of_ok (by rw [Prog.ofExcept_apply, ht])] at h
      simp only [hn, Prog.raise_apply] at h
      cases h
      exact Or.inl ⟨⟨_, rfl⟩, rfl⟩
    | some node =>
      obtain ⟨info, hmem, -⟩ := mem_of_findTargetNode hn
      have hget := rsInfo.get?_eq_some_iff.mpr hmem
      rw [mockNetworkPartition_of_found ht hn hget] at h
      exact Or.inr ⟨node, info, ⟨t, ht, hn, hget⟩, h⟩

/-- A call fails before any command, or it resolves its target to a member and issues the
guarded commands on that member's host. -/
theorem mockNetworkPartition_cases {remote : ℕ → ProcResult} {c : Client} {rsInfo : RsInfo}
    {target : Option String} {incoming outcoming : Value} {w w' : World} {r : Except PyErr Unit}
    (h : mockNetworkPartition remote c rsInfo target incoming outcoming w = (r, w')) :
    ((∃ e, r = .error e) ∧ w' = w) ∨
      ∃ t node info, resolveTarget c target = .ok t ∧ (node, info) ∈ rsInfo.items ∧
        t ∈ info.addresses ∧
        cutCommands remote info.ip (peerIps rsInfo node) incoming outcoming w = (r, w') := by
  rcases mockNetworkPartition_finds h with hsame | ⟨node, info, ⟨t, ht, hn, hget⟩, hcut⟩
  · exact Or.inl hsame
  · obtain ⟨info', hmem, haddr⟩ := mem_of_findTargetNode hn
    obtain rfl : info' = info :=
      Option.some.inj ((rsInfo.get?_eq_some_iff.mpr hmem).symm.trans hget)
    exact Or.inr ⟨t, node, info', ht, hmem, haddr, hcut⟩

/-- Naming the target by another of its addresses makes no difference. -/
theorem mockNetworkPartition_congr_target (remote : ℕ → ProcResult) (c : Client)
    {rsInfo : RsInfo} (hd : AddressesDistinct rsInfo) {node : String} {info : NodeInfo}
    (hmem : (node, info) ∈ rsInfo.items) {t t' : String} (ht : t ∈ info.addresses)
    (ht' : t' ∈ info.addresses) (incoming outcoming : Value) :
    mockNetworkPartition remote c rsInfo (some t) incoming outcoming =
      mockNetworkPartition remote c rsInfo (some t') incoming outcoming := by
  have hfind := findTargetNode_of_mem hd hmem ht
  have hfind' := findTargetNode_of_mem hd hmem ht'
  simp only [mockNetworkPartition, resolveTarget, Prog.ofExcept_ok, pure_bind, hfind, hfind']

/-! ## A returning call cuts exactly what it is asked to cut -/

/-- From `before` to `after`, exactly the links a call is asked to cut are cut: on the host of
`node`, the packets from (to) the other members' ips and private ips are dropped on `INPUT`
(`OUTPUT`) when the flag is `False`; every other packet keeps its verdict and every other
host its table. -/
structure CutsExactly (rsInfo : RsInfo) (node : String) (info : NodeInfo)
    (incoming outcoming : Value) (before after : String → FilterTable Packet) : Prop where
  input_drop : ∀ p, (after info.ip).input.verdict p = .drop ↔
    (before info.ip).input.verdict p = .drop ∨
      (incoming = .bool false ∧ IsPeerIp rsInfo node p.src)
  output_drop : ∀ p, (after info.ip).output.verdict p = .drop ↔
    (before info.ip).output.verdict p = .drop ∨
      (outcoming = .bool false ∧ IsPeerIp rsInfo node p.dst)
  input_other : ∀ p, ¬ (incoming = .bool false ∧ IsPeerIp rsInfo node p.src) →
    (after info.ip).input.verdict p = (before info.ip).input.verdict p
  output_other : ∀ p, ¬ (outcoming = .bool false ∧ IsPeerIp rsInfo node p.dst) →
    (after info.ip).output.verdict p = (before info.ip).output.verdict p
  other_hosts : ∀ host, host ≠ info.ip → after host = before host

/-- The verdict of a chain that is cut by rules for `ips` when a flag says so. -/
theorem verdict_cut_eq (flag : Value) (c c' : Chain Packet) (ips : List String) (a : String)
    (p : Packet)
    (hcut : flag.isFalse = true → c'.verdict p = if a ∈ ips then .drop else c.verdict p)
    (hkeep : flag.isFalse = false → c' = c) :
    c'.verdict p = if flag = .bool false ∧ a ∈ ips then .drop else c.verdict p := by
  cases hflag : flag.isFalse with
  | false =>
    have hne : flag ≠ .bool false := by
      rintro rfl
      cases hflag
    rw [hkeep hflag, if_neg fun h => hne h.1]
  | true =>
    have heq : flag = .bool false := (Value.isFalse_eq_true_iff flag).mp hflag
    rw [hcut hflag]
    simp [heq]

/-- The verdicts of a cut filter table. -/
theorem verdict_cutFilter (ips : List String) (incoming outcoming : Value) (f : FilterTable Packet)
    (p : Packet) :
    (cutFilter ips incoming outcoming f).input.verdict p =
        (if incoming = .bool false ∧ p.src ∈ ips then .drop else f.input.verdict p) ∧
      (cutFilter ips incoming outcoming f).output.verdict p =
        if outcoming = .bool false ∧ p.dst ∈ ips then .drop else f.output.verdict p := by
  constructor
  · refine verdict_cut_eq incoming _ _ ips p.src p (fun h => ?_) (fun h => ?_)
    · rw [← verdict_insertAll_dropSource]
      simp [cutFilter, h]
    · simp [cutFilter, h]
  · refine verdict_cut_eq outcoming _ _ ips p.dst p (fun h => ?_) (fun h => ?_)
    · rw [← verdict_insertAll_dropDestination]
      simp [cutFilter, h]
    · simp [cutFilter, h]

/-- Replacing the table of the target's host by its cut version cuts exactly the links. -/
theorem cutsExactly_update (rsInfo : RsInfo) (node : String) (info : NodeInfo)
    (incoming outcoming : Value) (filters : String → FilterTable Packet) :
    CutsExactly rsInfo node info incoming outcoming filters
      (Function.update filters info.ip
        (cutFilter (peerIps rsInfo node) incoming outcoming (filters info.ip))) := by
  have hin := fun p => (verdict_cutFilter (peerIps rsInfo node) incoming outcoming
    (filters info.ip) p).1
  have hout := fun p => (verdict_cutFilter (peerIps rsInfo node) incoming outcoming
    (filters info.ip) p).2
  simp only [mem_peerIps] at hin hout
  constructor
  · intro p
    rw [Function.update_self, hin]
    by_cases h : incoming = .bool false ∧ IsPeerIp rsInfo node p.src <;> simp [h]
  · intro p
    rw [Function.update_self, hout]
    by_cases h : outcoming = .bool false ∧ IsPeerIp rsInfo node p.dst <;> simp [h]
  · intro p h
    rw [Function.update_self, hin, if_neg h]
  · intro p h
    rw [Function.update_self, hout, if_neg h]
  · intro host h
    rw [Function.update_of_ne h]

/-- **A returning call cuts exactly the links it is asked to cut**, whatever rules the host had
before, and does so whichever of the member's three addresses names the target.

**Proof sketch.** The target loop resolves the target to the member whose address it is, and
only to that one since no two members share an address. The two commands then put the
dropping rules in front of the host's chains (`cutCommands_eq_ok`), whose verdicts are those
of `verdict_cutFilter`. -/
theorem mockNetworkPartition_cuts_exactly (remote : ℕ → ProcResult) (c : Client)
    {rsInfo : RsInfo} (hd : AddressesDistinct rsInfo) {node : String} {info : NodeInfo}
    (hmem : (node, info) ∈ rsInfo.items) {target : String} (ht : target ∈ info.addresses)
    (incoming outcoming : Value) {w w' : World}
    (h : mockNetworkPartition remote c rsInfo (some target) incoming outcoming w =
      (.ok (), w')) :
    CutsExactly rsInfo node info incoming outcoming w.filters w'.filters ∧
      ∀ target' ∈ info.addresses,
        mockNetworkPartition remote c rsInfo (some target') incoming outcoming w =
          (.ok (), w') := by
  constructor
  · rcases mockNetworkPartition_cases h with
      ⟨⟨e, he⟩, -⟩ | ⟨t, node', info', hres, hmem', ht', hcut⟩
    · cases he
    · obtain rfl : target = t := by simpa [resolveTarget] using hres
      obtain ⟨rfl, rfl⟩ : node' = node ∧ info' = info := by
        simpa using hd _ hmem' _ hmem target ht' ht
      rw [cutCommands_eq_ok hcut]
      exact cutsExactly_update rsInfo node' info' incoming outcoming w.filters
  · intro target' ht'
    rw [mockNetworkPartition_congr_target remote c hd hmem ht' ht]
    exact h

/-! ## A replica set of three -/

/-- A replica set of three members. -/
def threeMembers : RsInfo where
  items :=
    [("mongo0", ⟨"18.0.0.1", "ec2-18-0-0-1", "172.31.0.1"⟩),
      ("mongo1", ⟨"18.0.0.2", "ec2-18-0-0-2", "172.31.0.2"⟩),
      ("mongo2", ⟨"18.0.0.3", "ec2-18-0-0-3", "172.31.0.3"⟩)]
  nodup := by decide

/-- Freshly started hosts: accepting policies, no rules. -/
def freshWorld : World := ⟨fun _ => ⟨⟨.accept, []⟩, ⟨.accept, []⟩, ⟨.accept, []⟩⟩, 0⟩

/-- Every remote command succeeds. -/
def allSucceed : ℕ → ProcResult := fun _ => ⟨"", "", 0⟩

/-- A history of reads that always answers the same member. -/
def steadyPrimary (host : String) : Client := fun _ => some (host, 27017)

theorem mockNetworkPartition_cuts_exactly_threeMembers :
    ∃ w', mockNetworkPartition allSucceed (steadyPrimary "ec2-18-0-0-1") threeMembers
        (some "172.31.0.1") (.bool true) (.bool false) freshWorld = (.ok (), w') ∧
      CutsExactly threeMembers "mongo0" ⟨"18.0.0.1", "ec2-18-0-0-1", "172.31.0.1"⟩ (.bool true)
        (.bool false) freshWorld.filters w'.filters :=
  ⟨_, rfl, (@mockNetworkPartition_cuts_exactly allSucceed (steadyPrimary "ec2-18-0-0-1")
    threeMembers (by decide) "mongo0" ⟨"18.0.0.1", "ec2-18-0-0-1", "172.31.0.1"⟩ (by decide)
    "172.31.0.1" (by decide) _ _ _ _ rfl).1⟩

/-! ## What a raising call leaves behind -/

/-- Of a call for this member both commands are issued, and only the second one fails: the first
one names the address of another member and exits with `0`, the second one does not. -/
structure OnlySecondFails (remote : ℕ → ProcResult) (c : Client) (rsInfo : RsInfo)
    (target : Option String) (incoming outcoming : Value) (w : World) (node : String)
    (info : NodeInfo) : Prop where
  finds : Finds c rsInfo target node info
  incoming_false : incoming = .bool false
  outcoming_false : outcoming = .bool false
  peers : ∃ e ∈ rsInfo.items, e.1 ≠ node
  first_succeeds : (remote w.issued).returncode = 0
  second_fails : (remote (w.issued + 1)).returncode ≠ 0

/-- A call for this member is half done: its `INPUT` chain carries the dropping rules for its
peers in front of its old rules; everything else is as it was. -/
structure HalfDone (rsInfo : RsInfo) (node : String) (info : NodeInfo) (w w' : World) : Prop where
  input_rules : (w'.filters info.ip).input.rules =
    ((peerIps rsInfo node).map dropSource).reverse ++ (w.filters info.ip).input.rules
  input_policy : (w'.filters info.ip).input.policy = (w.filters info.ip).input.policy
  output : (w'.filters info.ip).output = (w.filters info.ip).output
  forward : (w'.filters info.ip).forward = (w.filters info.ip).forward
  other_hosts : ∀ host, host ≠ info.ip → w'.filters host = w.filters host

/-- There are peer addresses iff there is another member. -/
theorem peerIps_ne_nil_iff (rsInfo : RsInfo) (node : String) :
    peerIps rsInfo node ≠ [] ↔ ∃ e ∈ rsInfo.items, e.1 ≠ node := by
  constructor
  · intro h
    obtain ⟨a, ha⟩ := List.exists_mem_of_ne_nil _ h
    obtain ⟨e, he, hne, -⟩ := (mem_peerIps rsInfo node a).mp ha
    exact ⟨e, he, hne⟩
  · rintro ⟨e, he, hne⟩
    exact List.ne_nil_of_mem
      ((mem_peerIps rsInfo node e.2.ip).mpr ⟨e, he, hne, Or.inr rfl⟩)

section RaisingCall

variable {remote : ℕ → ProcResult} {c : Client} {rsInfo : RsInfo} {target : Option String}
  {incoming outcoming : Value} {w w' : World} {e : PyErr} {node : String} {info : NodeInfo}

/-- A call whose second command fails is half done when it raises. -/
theorem halfDone_of_onlySecondFails
    (h : mockNetworkPartition remote c rsInfo target incoming outcoming w = (.error e, w'))
    (hsecond : OnlySecondFails remote c rsInfo target incoming outcoming w node info) :
    HalfDone rsInfo node info w w' := by
  obtain ⟨⟨t, ht, hn, hget⟩, hi, ho, hpeers, hzero, hfail⟩ := hsecond
  subst hi ho
  have htrue : (Value.bool false).isFalse = true := rfl
  have hskip : (Value.bool true).isFalse = false := rfl
  rw [mockNetworkPartition_of_found ht hn hget] at h
  have hfilters := cutCommands_eq_error h
  rw [if_pos ⟨htrue, htrue, (peerIps_ne_nil_iff rsInfo node).mpr hpeers, hzero, hfail⟩]
    at hfilters
  constructor
  · rw [hfilters, Function.update_self, input_rules_cutFilter]
  · rw [hfilters, Function.update_self]
    exact Chain.policy_insertAll _ _
  · rw [hfilters, Function.update_self]
    simp [cutFilter, hskip]
  · rw [hfilters, Function.update_self]
    rfl
  · intro host hne
    rw [hfilters, Function.update_of_ne hne]

/-- A call that is half done has left its rules. -/
theorem HalfDone.filters_ne (h : HalfDone rsInfo node info w w')
    (hpeers : ∃ e ∈ rsInfo.items, e.1 ≠ node) : w'.filters ≠ w.filters := by
  intro hsame
  have hrules := h.input_rules
  rw [hsame, List.self_eq_append_left, List.reverse_eq_nil_iff, List.map_eq_nil_iff] at hrules
  exact (peerIps_ne_nil_iff rsInfo node).mpr hpeers hrules

/-- A raising call whose second command was not issued, or not the one that failed, has changed
no table. -/
theorem filters_eq_of_not_onlySecondFails
    (h : mockNetworkPartition remote c rsInfo target incoming outcoming w = (.error e, w'))
    (hnot : ¬ ∃ node info, OnlySecondFails remote c rsInfo target incoming outcoming w node info) :
    w'.filters = w.filters := by
  rcases mockNetworkPartition_finds h with ⟨-, rfl⟩ | ⟨node, info, hfinds, hcut⟩
  · rfl
  · have hfilters := cutCommands_eq_error hcut
    rwa [if_neg] at hfilters
    rintro ⟨hi, ho, hpeers, hzero, hfail⟩
    exact hnot ⟨node, info, hfinds, (Value.isFalse_eq_true_iff _).mp hi,
      (Value.isFalse_eq_true_iff _).mp ho, (peerIps_ne_nil_iff rsInfo node).mp hpeers, hzero, hfail⟩

end RaisingCall

/-- The second remote command exits with `255`, the others succeed. -/
def secondFails : ℕ → ProcResult := fun n => ⟨"", "", if n = 1 then 255 else 0⟩

/-- A call whose second command fails raises, with the rules of its first command left on the
target's `INPUT` chain. -/
theorem mockNetworkPartition_raises_half_done :
    ∃ e w', mockNetworkPartition secondFails (steadyPrimary "ec2-18-0-0-1") threeMembers
        (some "18.0.0.1") (.bool false) (.bool false) freshWorld = (.error e, w') ∧
      (w'.filters "18.0.0.1").input.rules ≠ (freshWorld.filters "18.0.0.1").input.rules := by
  refine ⟨_, _, rfl, ?_⟩
  intro h
  have hlen := congrArg List.length h
  revert hlen
  decide

/-- **What a call that raises leaves behind**: every table is as it was, except when both commands
were issued and only the second one failed, and then the target's `INPUT` chain has the rules of
the first one in front.

**Proof sketch.** A call that fails before its commands changes nothing
(`mockNetworkPartition_finds`). Of the two commands, one that fails has no effect, so what is left
is the effect of the first one, if it succeeded (`cutCommands_eq_error`). -/
theorem mockNetworkPartition_error_trace {remote : ℕ → ProcResult} {c : Client}
    {rsInfo : RsInfo} {target : Option String} {incoming outcoming : Value} {w w' : World}
    {e : PyErr}
    (h : mockNetworkPartition remote c rsInfo target incoming outcoming w = (.error e, w')) :
    (w'.filters = w.filters ↔
        ¬ ∃ node info, OnlySecondFails remote c rsInfo target incoming outcoming w node info) ∧
      ∀ node info, OnlySecondFails remote c rsInfo target incoming outcoming w node info →
        HalfDone rsInfo node info w w' := by
  refine ⟨⟨?_, filters_eq_of_not_onlySecondFails h⟩, fun _ _ => halfDone_of_onlySecondFails h⟩
  rintro hsame ⟨node, info, hsecond⟩
  exact (halfDone_of_onlySecondFails h hsecond).filters_ne hsecond.peers hsame

theorem mockNetworkPartition_error_trace_threeMembers :
    ∃ e w', mockNetworkPartition secondFails (steadyPrimary "ec2-18-0-0-1") threeMembers
        (some "18.0.0.1") (.bool false) (.bool false) freshWorld = (.error e, w') ∧
      HalfDone threeMembers "mongo0" ⟨"18.0.0.1", "ec2-18-0-0-1", "172.31.0.1"⟩ freshWorld w' := by
  have hsecond : OnlySecondFails secondFails (steadyPrimary "ec2-18-0-0-1") threeMembers
      (some "18.0.0.1") (.bool false) (.bool false) freshWorld "mongo0"
      ⟨"18.0.0.1", "ec2-18-0-0-1", "172.31.0.1"⟩ :=
    ⟨⟨"18.0.0.1", rfl, by decide, by decide⟩, rfl, rfl, by decide, by decide, by decide⟩
  exact ⟨_, _, rfl, (mockNetworkPartition_error_trace rfl).2 _ _ hsecond⟩

end PythonForFun.MongoDB
