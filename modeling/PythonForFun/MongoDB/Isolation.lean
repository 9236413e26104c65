import Mathlib.Data.List.Induction
import PythonForFun.MongoDB.Commands
import PythonForFun.MongoDB.Recovery

set_option relaxedAutoImplicit false
set_option autoImplicit false

/-!
# Runs of partitions and recoveries

A test may cut several members off and heal them again, in any order, with any flags, and any
of its remote commands may fail half-way. What such a run leaves of the network is told by three
bits for each member: whether packets from the others still come in, whether packets to them
still go out, and whether the member's own rules are gone. The filter tables refine these bits
in every run.

## Main definitions

* `MongoDB.Call`, `MongoDB.afterCalls` — the calls of the two helpers, and a run of them.
* `MongoDB.Cut`, `MongoDB.Links` — the abstract state of one member and of the replica set.
* `MongoDB.Links.afterCalls` — what a run does to it.
* `MongoDB.Refines` — the filter tables show the links.
* `MongoDB.BlockedSince` — a deed was done to a member and not healed since.

## Main results

* `MongoDB.afterCalls_refines` — every run, whichever of its commands fail, refines the links.
* `MongoDB.delivered_iff_not_blockedSince` — who reaches whom after a run.
-/

namespace PythonForFun.MongoDB

open Netfilter

/-! ## Runs -/

/-- A call of one of the two helpers. Each call makes its own reads of `c.primary`. -/
inductive Call where
  | partition (c : Client) (target : Option String) (incoming outcoming : Value)
  | recovery (c : Client) (target : Option String)

/-- What a call does. -/
def Call.run (remote : ℕ → ProcResult) (rsInfo : RsInfo) : Call → Prog PyErr World Unit
  | partition c target incoming outcoming =>
    mockNetworkPartition remote c rsInfo target incoming outcoming
  | recovery c target => mockNetworkPartitionRecovery remote c rsInfo target

/-- The world after some calls. A call that raises leaves what it did, and the next one is
made all the same. -/
def afterCalls (remote : ℕ → ProcResult) (rsInfo : RsInfo) (w : World) (calls : List Call) :
    World :=
  calls.foldl (fun w call => (call.run remote rsInfo w).2) w

/-! ## The links of the members -/

/-- What is cut of one member: the packets coming in from the other members, those going out to
them, and the rules it had before. -/
structure Cut where
  inbound : Bool
  outbound : Bool
  flushed : Bool
  deriving DecidableEq

/-- What one remote command does to a member. -/
inductive Deed where
  | blockInput
  | blockOutput
  | heal
  deriving DecidableEq

/-- A member after a deed. -/
def Cut.after (cut : Cut) : Deed → Cut
  | .blockInput => { cut with inbound := true }
  | .blockOutput => { cut with outbound := true }
  | .heal => ⟨false, false, true⟩

/-- The members' links, by node name. -/
abbrev Links : Type := String → Cut

/-- Nothing is cut. -/
def Links.whole : Links := fun _ => ⟨false, false, false⟩

/-- The member a call works on, if it finds one. -/
def Call.member (rsInfo : RsInfo) : Call → Option String
  | partition c target _ _ => (resolveTarget c target).toOption.bind (findTargetNode rsInfo)
  | recovery c target => (resolveTarget c target).toOption.bind (findTargetNode rsInfo)

/-- The deeds a call sets out to do. -/
def Call.deeds : Call → List Deed
  | partition _ _ incoming outcoming =>
    (if incoming.isFalse then [.blockInput] else []) ++
      if outcoming.isFalse then [.blockOutput] else []
  | recovery _ _ => [.heal]

/-- A deed that is refused: there is nobody to block. -/
def Deed.refused (deed : Deed) (rsInfo : RsInfo) (node : String) : Prop :=
  deed ≠ .heal ∧ ∀ e ∈ rsInfo.items, e.1 = node

instance (deed : Deed) (rsInfo : RsInfo) (node : String) :
    Decidable (deed.refused rsInfo node) :=
  inferInstanceAs (Decidable (deed ≠ .heal ∧ ∀ e ∈ rsInfo.items, e.1 = node))

/-- Deeds are done one after another, until one is refused or its command fails. The second
component counts the commands. -/
def Links.perform (rsInfo : RsInfo) (succeeds : ℕ → Bool) (node : String) :
    List Deed → Links × ℕ → Links × ℕ
  | [], s => s
  | deed :: deeds, (links, issued) =>
    if succeeds issued = true ∧ ¬ deed.refused rsInfo node then
      perform rsInfo succeeds node deeds
        (Function.update links node ((links node).after deed), issued + 1)
    else (links, issued + 1)

/-- The links after some calls. -/
def Links.afterCalls (rsInfo : RsInfo) (succeeds : ℕ → Bool) (s : Links × ℕ)
    (calls : List Call) : Links × ℕ :=
  calls.foldl (fun s call => match call.member rsInfo with
    | none => s
    | some node => Links.perform rsInfo succeeds node call.deeds s) s

/-- One call more. -/
theorem Links.afterCalls_append_singleton (rsInfo : RsInfo) (succeeds : ℕ → Bool) (s : Links × ℕ)
    (calls : List Call) (call : Call) :
    Links.afterCalls rsInfo succeeds s (calls ++ [call]) =
      match call.member rsInfo with
      | none => Links.afterCalls rsInfo succeeds s calls
      | some node =>
        Links.perform rsInfo succeeds node call.deeds
          (Links.afterCalls rsInfo succeeds s calls) := by
  rw [Links.afterCalls, List.foldl_append]
  rfl

/-- The verdict of a chain that was `c` before, when the packets of the peers are blocked and
when its own rules are gone. -/
def maskedVerdict (blocked flushed peer : Bool) (c : Chain Packet) (p : Packet) : Verdict :=
  if blocked = true ∧ peer = true then .drop else if flushed then c.policy else c.verdict p

/-- The filter table of a member shows its links: what was cut is dropped, and everything else
meets the rules the member had before, or no rule. -/
structure TableRefines (rsInfo : RsInfo) (node : String) (cut : Cut)
    (before after : FilterTable Packet) : Prop where
  input : ∀ p, after.input.verdict p =
    maskedVerdict cut.inbound cut.flushed (decide (IsPeerIp rsInfo node p.src)) before.input p
  output : ∀ p, after.output.verdict p =
    maskedVerdict cut.outbound cut.flushed (decide (IsPeerIp rsInfo node p.dst)) before.output p
  forward : after.forward = if cut.flushed then before.forward.flush else before.forward
  policies : after.input.policy = before.input.policy ∧ after.output.policy = before.output.policy

/-- The hosts' filter tables show the links of the members; no other host is touched. -/
structure Refines (rsInfo : RsInfo) (links : Links) (before after : String → FilterTable Packet) :
    Prop where
  members : ∀ e ∈ rsInfo.items,
    TableRefines rsInfo e.1 (links e.1) (before e.2.ip) (after e.2.ip)
  others : ∀ host, (∀ e ∈ rsInfo.items, e.2.ip ≠ host) → after host = before host

/-! ## A call is a sequence of remote commands -/

/-- The command that does a deed. -/
def Deed.command (ips : List String) : Deed → Iptables
  | blockInput => .insertInputSource ips
  | blockOutput => .insertOutputDestination ips
  | heal => .flush

/-- A guarded command is a sequence of at most one command. -/
theorem sshUnless_eq_sshAll (flag : Value) (remote : ℕ → ProcResult) (ip : String)
    (cmd : Iptables) :
    sshUnless flag remote ip cmd = sshAll remote (if flag.isFalse then [(ip, cmd)] else []) := by
  cases hflag : flag.isFalse with
  | false =>
    rw [sshUnless, hflag]
    rfl
  | true =>
    rw [sshUnless, hflag, if_pos rfl, if_pos rfl, sshAll, List.forM_cons, List.forM_nil, bind_assoc]
    rfl

/-- The guarded commands of a partition are those of its deeds. -/
theorem cutCommands_eq_sshAll (remote : ℕ → ProcResult) (c : Client) (target : Option String)
    (ip : String) (ips : List String) (incoming outcoming : Value) :
    cutCommands remote ip ips incoming outcoming =
      sshAll remote ((Call.partition c target incoming outcoming).deeds.map fun deed =>
        (ip, deed.command ips)) := by
  have hguard : ∀ (flag : Value) (deed : Deed),
      (if flag.isFalse then [deed] else []).map (fun deed => (ip, deed.command ips)) =
        if flag.isFalse then [(ip, deed.command ips)] else [] := by
    intro flag deed
    cases flag.isFalse <;> rfl
  rw [Call.deeds, List.map_append, hguard, hguard, sshAll_append, ← sshUnless_eq_sshAll,
    ← sshUnless_eq_sshAll]
  rfl

/-- **A call** that finds no member changes nothing; otherwise it issues the commands of its
deeds on that member's host. -/
theorem Call.run_cases (remote : ℕ → ProcResult) (rsInfo : RsInfo) (call : Call) (w : World) :
    (call.member rsInfo = none ∧ (call.run remote rsInfo w).2 = w) ∨
      ∃ node info, call.member rsInfo = some node ∧ (node, info) ∈ rsInfo.items ∧
        call.run remote rsInfo = sshAll remote (call.deeds.map fun deed =>
          (info.ip, deed.command (peerIps rsInfo node))) := by
  cases call with
  | partition c target incoming outcoming =>
    cases ht : resolveTarget c target with
    | error e =>
      refine Or.inl ⟨by rw [Call.member, ht]; rfl, ?_⟩
      rw [Call.run, mockNetworkPartition, ht]
      rfl
    | ok t =>
      cases hn : findTargetNode rsInfo t with
      | none =>
        refine Or.inl ⟨by rw [Call.member, ht]; exact hn, ?_⟩
        rw [Call.run, mockNetworkPartition, ht, Prog.ofExcept_ok, pure_bind, hn]
        rfl
      | some node =>
        obtain ⟨info, hmem, -⟩ := mem_of_findTargetNode hn
        refine Or.inr ⟨node, info, by rw [Call.member, ht]; exact hn, hmem, ?_⟩
        rw [Call.run, mockNetworkPartition_of_found ht hn (rsInfo.get?_eq_some_iff.mpr hmem)]
        exact cutCommands_eq_sshAll remote c target info.ip _ incoming outcoming
  | recovery c target =>
    cases ht : resolveTarget c target with
    | error e =>
      refine Or.inl ⟨by rw [Call.member, ht]; rfl, ?_⟩
      rw [Call.run, mockNetworkPartitionRecovery, ht]
      rfl
    | ok t =>
      cases hn : findTargetNode rsInfo t with
      | none =>
        refine Or.inl ⟨by rw [Call.member, ht]; exact hn, ?_⟩
        rw [Call.run, mockNetworkPartitionRecovery, ht, Prog.ofExcept_ok, pure_bind, hn]
        rfl
      | some node =>
        obtain ⟨info, hmem, -⟩ := mem_of_findTargetNode hn
        refine Or.inr ⟨node, info, by rw [Call.member, ht]; exact hn, hmem, ?_⟩
        rw [Call.run, mockNetworkPartitionRecovery, ht, Prog.ofExcept_ok, pure_bind, hn]
        simp only [rsInfo.get?_eq_some_iff.mpr hmem, Call.deeds, List.map_cons, List.map_nil,
          sshAll, List.forM_cons, List.forM_nil, Deed.command, bind_assoc, pure_bind]

/-! ## One command -/

section Command

variable {remote : ℕ → ProcResult} {cmd : String × Iptables} {cmds : List (String × Iptables)}
  {w : World}

/-- A sequence goes on after a command that succeeds. -/
theorem sshAll_cons_of_effect {filters : String → FilterTable Packet}
    (hcode : (remote w.issued).returncode = 0) (heffect : effect w.filters cmd = some filters) :
    sshAll remote (cmd :: cmds) w = sshAll remote cmds ⟨filters, w.issued + 1⟩ := by
  obtain ⟨r, hr⟩ := ssh_eq_ok_iff.mpr ⟨hcode, filters, heffect, rfl⟩
  have hfirst : (do
      let _ ← ssh remote cmd.1 cmd.2 : Prog PyErr World Unit) w =
        (.ok (), ⟨filters, w.issued + 1⟩) := Prog.bind_of_ok hr
  rw [sshAll, List.forM_cons, Prog.bind_of_ok hfirst]
  rfl

/-- A sequence ends at a command that fails or is refused. -/
theorem sshAll_cons_of_failed
    (h : (remote w.issued).returncode ≠ 0 ∨ effect w.filters cmd = none) :
    (sshAll remote (cmd :: cmds) w).2 = ⟨w.filters, w.issued + 1⟩ := by
  rcases hssh : ssh remote cmd.1 cmd.2 w with ⟨r, w₁⟩
  cases r with
  | ok out =>
    obtain ⟨hcode, filters, heffect, -⟩ := ssh_eq_ok_iff.mp ⟨out, hssh⟩
    rcases h with h | h
    · exact absurd hcode h
    · rw [heffect] at h
      exact absurd h (Option.some_ne_none filters)
  | error e =>
    have hfirst : (do
        let _ ← ssh remote cmd.1 cmd.2 : Prog PyErr World Unit) w = (.error e, w₁) :=
      Prog.bind_of_error hssh
    rw [sshAll, List.forM_cons, Prog.bind_of_error hfirst]
    exact (ssh_eq_error hssh).2

end Command

/-- A member without a peer: there is no address to block. -/
theorem peerIps_eq_nil_iff (rsInfo : RsInfo) (node : String) :
    peerIps rsInfo node = [] ↔ ∀ e ∈ rsInfo.items, e.1 = node := by
  rw [List.eq_nil_iff_forall_not_mem]
  simp only [mem_peerIps]
  constructor
  · intro h e he
    by_contra hne
    exact h e.2.ip ⟨e, he, hne, Or.inr rfl⟩
  · rintro h a ⟨e, he, hne, -⟩
    exact hne (h e he)

/-- The command of a deed is refused when there is nobody to block. -/
theorem effect_deed_eq_none_iff (rsInfo : RsInfo) (node ip : String) (deed : Deed)
    (filters : String → FilterTable Packet) :
    effect filters (ip, deed.command (peerIps rsInfo node)) = none ↔ deed.refused rsInfo node := by
  rw [Deed.refused, ← peerIps_eq_nil_iff]
  cases deed with
  | blockInput => simp [effect, Deed.command, Iptables.apply]
  | blockOutput => simp [effect, Deed.command, Iptables.apply]
  | heal => simp [effect, Deed.command, Iptables.apply]

/-! ## The tables show the links -/

/-- The verdict of a chain that dropping rules for the peers were inserted into. -/
theorem maskedVerdict_block (blocked flushed peer : Bool) (c : Chain Packet) (p : Packet) :
    (if peer = true then Verdict.drop else maskedVerdict blocked flushed peer c p) =
      maskedVerdict true flushed peer c p := by
  cases peer <;> simp [maskedVerdict]

/-- **A deed changes the table of its member** as it changes the links. -/
theorem TableRefines.after {rsInfo : RsInfo} {node : String} {cut : Cut}
    {before after f : FilterTable Packet} (h : TableRefines rsInfo node cut before after)
    {deed : Deed} (hf : (deed.command (peerIps rsInfo node)).apply after = some f) :
    TableRefines rsInfo node (cut.after deed) before f := by
  cases deed with
  | blockInput =>
    simp only [Deed.command, Iptables.apply, Option.ite_none_left_eq_some, Option.some.injEq]
      at hf
    obtain ⟨-, rfl⟩ := hf
    refine ⟨fun p => ?_, h.output, h.forward, ?_⟩
    · rw [verdict_insertAll_dropSource, h.input p, Cut.after, ← maskedVerdict_block cut.inbound]
      simp only [mem_peerIps, decide_eq_true_eq]
    · simpa only [Chain.policy_insertAll] using h.policies
  | blockOutput =>
    simp only [Deed.command, Iptables.apply, Option.ite_none_left_eq_some, Option.some.injEq]
      at hf
    obtain ⟨-, rfl⟩ := hf
    refine ⟨h.input, fun p => ?_, h.forward, ?_⟩
    · rw [verdict_insertAll_dropDestination, h.output p, Cut.after,
        ← maskedVerdict_block cut.outbound]
      simp only [mem_peerIps, decide_eq_true_eq]
    · simpa only [Chain.policy_insertAll] using h.policies
  | heal =>
    obtain rfl : after.flush = f := Option.some.inj hf
    refine ⟨fun p => ?_, fun p => ?_, ?_, h.policies⟩
    · show after.input.policy = _
      rw [h.policies.1]
      rfl
    · show after.output.policy = _
      rw [h.policies.2]
      rfl
    · show after.forward.flush = _
      rw [h.forward]
      cases cut.flushed <;> rfl

/-- Before any call nothing is cut. -/
theorem refines_whole (rsInfo : RsInfo) (filters : String → FilterTable Packet) :
    Refines rsInfo Links.whole filters filters where
  members e _ := by
    refine ⟨fun p => ?_, fun p => ?_, rfl, rfl, rfl⟩
    · simp [maskedVerdict, Links.whole]
    · simp [maskedVerdict, Links.whole]
  others _ _ := rfl

/-- A deed on one member's host leaves the tables of the others as they were. -/
theorem Refines.after {rsInfo : RsInfo} (hd : AddressesDistinct rsInfo) {links : Links}
    {before filters filters' : String → FilterTable Packet}
    (h : Refines rsInfo links before filters)
    {node : String} {info : NodeInfo} (hmem : (node, info) ∈ rsInfo.items) {deed : Deed}
    (heffect : effect filters (info.ip, deed.command (peerIps rsInfo node)) = some filters') :
    Refines rsInfo (Function.update links node ((links node).after deed)) before filters' := by
  obtain ⟨f, hf, rfl⟩ := Option.map_eq_some_iff.mp heffect
  refine ⟨fun e he => ?_, fun host hhost => ?_⟩
  · by_cases hnode : e.1 = node
    · obtain rfl : e = (node, info) := rsInfo.eq_of_key_eq he hmem hnode
      rw [Function.update_self, Function.update_self]
      exact (h.members _ he).after hf
    · have hip : e.2.ip ≠ info.ip := by
        intro hip
        refine hnode (eq_of_mem_addresses hd he hmem (a := e.2.ip) ?_ ?_).1
        · simp [NodeInfo.addresses]
        · simp [NodeInfo.addresses, hip]
      rw [Function.update_of_ne hnode, Function.update_of_ne hip]
      exact h.members e he
  · rw [Function.update_of_ne (hhost _ hmem).symm]
    exact h.others host hhost

/-- Whether the exit status of a command is `0`. -/
def exitsWithZero (remote : ℕ → ProcResult) (n : ℕ) : Bool := decide ((remote n).returncode = 0)

section Runs

variable (remote : ℕ → ProcResult) {rsInfo : RsInfo} (hd : AddressesDistinct rsInfo)
  {before : String → FilterTable Packet}

include hd

/-- **The deeds of one call**: the commands issued for them and the links stay together.

**Proof sketch.** Induction on the deeds. A deed whose command fails or is refused ends both,
with one command more counted; any other one changes the member's table and links alike. -/
theorem perform_refines {node : String} {info : NodeInfo} (hmem : (node, info) ∈ rsInfo.items)
    (deeds : List Deed) {links : Links} {w : World} (h : Refines rsInfo links before w.filters) :
    let s := Links.perform rsInfo (exitsWithZero remote) node deeds (links, w.issued)
    let w' := (sshAll remote (deeds.map fun deed =>
      (info.ip, deed.command (peerIps rsInfo node))) w).2
    Refines rsInfo s.1 before w'.filters ∧ s.2 = w'.issued := by
  induction deeds generalizing links w with
  | nil => exact ⟨h, rfl⟩
  | cons deed deeds ih =>
    rw [List.map_cons, Links.perform]
    split_ifs with hdone
    · obtain ⟨hcode, hrefused⟩ := hdone
      rw [← effect_deed_eq_none_iff rsInfo node info.ip deed w.filters] at hrefused
      obtain ⟨filters, heffect⟩ := Option.ne_none_iff_exists'.mp hrefused
      rw [sshAll_cons_of_effect (of_decide_eq_true hcode) heffect]
      have hnext := ih (w := ⟨filters, w.issued + 1⟩) (h.after hd hmem heffect)
      exact hnext
    · have hfailed : (remote w.issued).returncode ≠ 0 ∨
          effect w.filters (info.ip, deed.command (peerIps rsInfo node)) = none := by
        rw [effect_deed_eq_none_iff]
        by_contra hboth
        rw [not_or, not_not] at hboth
        exact hdone ⟨decide_eq_true hboth.1, hboth.2⟩
      rw [sshAll_cons_of_failed hfailed]
      exact ⟨h, rfl⟩

/-- **Every run refines the links**: after any calls of the two helpers, with any flags, targets
and elections, and whichever of the remote commands fail, each member's chains drop what the
links say is cut and treat every other packet as before, or as without rules where the member
was healed. No host outside the replica set is touched, and the links count the commands. -/
theorem afterCalls_refines (w : World) (calls : List Call) :
    let s := Links.afterCalls rsInfo (exitsWithZero remote) (Links.whole, w.issued) calls
    let w' := afterCalls remote rsInfo w calls
    Refines rsInfo s.1 w.filters w'.filters ∧ s.2 = w'.issued := by
  suffices hrun : ∀ (links : Links) (w' : World), Refines rsInfo links w.filters w'.filters →
      let s := Links.afterCalls rsInfo (exitsWithZero remote) (links, w'.issued) calls
      Refines rsInfo s.1 w.filters (afterCalls remote rsInfo w' calls).filters ∧
        s.2 = (afterCalls remote rsInfo w' calls).issued by
    exact hrun Links.whole w (refines_whole rsInfo w.filters)
  induction calls with
  | nil => exact fun links w' h => ⟨h, rfl⟩
  | cons call calls ih =>
    intro links w' h
    rw [Links.afterCalls, List.foldl_cons, afterCalls, List.foldl_cons]
    rcases call.run_cases remote rsInfo w' with ⟨hmember, hrun⟩ | ⟨node, info, hmember, hmem, hrun⟩
    · rw [hmember, hrun]
      exact ih links w' h
    · obtain ⟨hrefines, hissued⟩ := perform_refines remote hd hmem call.deeds h
      rw [hmember, hrun]
      have hnext := ih _ _ hrefines
      rw [← hissued] at hnext
      exact hnext

end Runs

/-- Partitions of two members and a recovery of the first one. -/
def overlappingCalls : List Call :=
  [.partition (steadyPrimary "ec2-18-0-0-1") none (.bool false) (.bool true),
    .partition (steadyPrimary "ec2-18-0-0-1") (some "172.31.0.2") (.bool false) (.bool false),
    .recovery (steadyPrimary "ec2-18-0-0-1") (some "18.0.0.1")]

theorem afterCalls_refines_overlapping :
    Refines threeMembers
      (Links.afterCalls threeMembers (exitsWithZero secondFails) (Links.whole, 0)
        overlappingCalls).1
      guardedWorld.filters
      (afterCalls secondFails threeMembers guardedWorld overlappingCalls).filters :=
  (@afterCalls_refines secondFails threeMembers (by decide) guardedWorld overlappingCalls).1

/-! ## Who reaches whom -/

/-- A call does a deed to a member. -/
def Call.Does (rsInfo : RsInfo) (node : String) (deed : Deed) (call : Call) : Prop :=
  call.member rsInfo = some node ∧ deed ∈ call.deeds

/-- Some call did the deed to the member, and no later one healed the member. -/
def BlockedSince (rsInfo : RsInfo) (node : String) (deed : Deed) (calls : List Call) : Prop :=
  ∃ earlier call later, calls = earlier ++ call :: later ∧ call.Does rsInfo node deed ∧
    ∀ call' ∈ later, ¬ call'.Does rsInfo node .heal

/-- A packet from one member leaves it and is let in by another one. -/
def Delivered (filters : String → FilterTable Packet) (a b : NodeInfo) (p : Packet) : Prop :=
  (filters a.ip).output.verdict p = .accept ∧ (filters b.ip).input.verdict p = .accept

/-- A chain that accepts every packet, also without its rules. -/
def OpenChain (c : Chain Packet) : Prop := c.policy = .accept ∧ ∀ p, c.verdict p = .accept

/-- After one call more: that call did the deed, or an earlier one did and it does not heal. -/
theorem blockedSince_append_singleton (rsInfo : RsInfo) (node : String) (deed : Deed)
    (calls : List Call) (call : Call) :
    BlockedSince rsInfo node deed (calls ++ [call]) ↔
      call.Does rsInfo node deed ∨
        BlockedSince rsInfo node deed calls ∧ ¬ call.Does rsInfo node .heal := by
  constructor
  · rintro ⟨earlier, call', later, hsplit, hdoes, hlater⟩
    rcases List.eq_nil_or_concat later with rfl | ⟨later, last, rfl⟩
    · obtain ⟨-, hlast⟩ := List.append_inj' hsplit rfl
      obtain rfl : call = call' := by simpa using hlast
      exact Or.inl hdoes
    · rw [List.concat_eq_append, ← List.cons_append, ← List.append_assoc] at hsplit
      obtain ⟨rfl, hlast⟩ := List.append_inj' hsplit rfl
      obtain rfl : call = last := by simpa using hlast
      rw [List.concat_eq_append] at hlater
      refine Or.inr ⟨⟨earlier, call', later, rfl, hdoes, fun c hc => ?_⟩, ?_⟩
      · exact hlater c (List.mem_append_left _ hc)
      · exact hlater call (List.mem_append_right _ (List.mem_singleton_self call))
  · rintro (hdoes | ⟨⟨earlier, call', later, rfl, hdoes, hlater⟩, hlast⟩)
    · exact ⟨calls, call, [], rfl, hdoes, fun c hc => absurd hc List.not_mem_nil⟩
    · refine ⟨earlier, call', later ++ [call], by simp, hdoes, fun c hc => ?_⟩
      rcases List.mem_append.mp hc with hc | hc
      · exact hlater c hc
      · rw [List.mem_singleton.mp hc]
        exact hlast

/-- **A member after the deeds of one call**: what the call blocks is blocked, and what was
blocked stays so unless the call heals. -/
theorem Call.foldl_after (call : Call) (cut : Cut) :
    ((call.deeds.foldl Cut.after cut).inbound = true ↔
        .blockInput ∈ call.deeds ∨ cut.inbound = true ∧ .heal ∉ call.deeds) ∧
      ((call.deeds.foldl Cut.after cut).outbound = true ↔
        .blockOutput ∈ call.deeds ∨ cut.outbound = true ∧ .heal ∉ call.deeds) := by
  cases call with
  | partition c target incoming outcoming =>
    rw [Call.deeds]
    cases incoming.isFalse <;> cases outcoming.isFalse <;> simp [Cut.after]
  | recovery c target => simp [Call.deeds, Cut.after]

section AllSucceed

variable {rsInfo : RsInfo}

/-- With somebody to block, all deeds of a call are done. -/
theorem perform_of_succeeds {node : String} (hpeer : ∃ e ∈ rsInfo.items, e.1 ≠ node)
    (deeds : List Deed) (links : Links) (issued : ℕ) :
    Links.perform rsInfo (fun _ => true) node deeds (links, issued) =
      (Function.update links node (deeds.foldl Cut.after (links node)),
        issued + deeds.length) := by
  induction deeds generalizing links issued with
  | nil => simp [Links.perform]
  | cons deed deeds ih =>
    have hdone : ¬ deed.refused rsInfo node := by
      rintro ⟨-, hall⟩
      obtain ⟨e, he, hne⟩ := hpeer
      exact hne (hall e he)
    rw [Links.perform, if_pos ⟨rfl, hdone⟩, ih, Function.update_idem, Function.update_self,
      List.foldl_cons, List.length_cons, Nat.add_assoc, Nat.add_comm 1]

/-- **The links of a run whose commands all succeed**: a member's side is cut iff it was
blocked by a call and not healed by a later one.

**Proof sketch.** Induction on the calls from the end: the last one decides, or leaves the
member as the calls before it did. -/
theorem afterCalls_cut_iff (hpeer : ∀ node, ∃ e ∈ rsInfo.items, e.1 ≠ node) (issued : ℕ)
    (calls : List Call) (node : String) :
    let links := (Links.afterCalls rsInfo (fun _ => true) (Links.whole, issued) calls).1
    ((links node).inbound = true ↔ BlockedSince rsInfo node .blockInput calls) ∧
      ((links node).outbound = true ↔ BlockedSince rsInfo node .blockOutput calls) := by
  induction calls using List.reverseRecOn with
  | nil =>
    have hnone : ∀ deed, ¬ BlockedSince rsInfo node deed [] := by
      rintro deed ⟨earlier, call, later, hsplit, -⟩
      simp at hsplit
    simp [Links.afterCalls, Links.whole, hnone]
  | append_singleton calls call ih =>
    rw [Links.afterCalls_append_singleton, blockedSince_append_singleton,
      blockedSince_append_singleton]
    rcases hs : Links.afterCalls rsInfo (fun _ => true) (Links.whole, issued) calls with ⟨links, n⟩
    rw [hs] at ih
    obtain ⟨hin, hout⟩ := ih
    simp only at hin hout
    rw [← hin, ← hout]
    cases hmember : call.member rsInfo with
    | none => simp [Call.Does, hmember]
    | some node' =>
      simp only
      rw [perform_of_succeeds (hpeer node')]
      by_cases hnode : node = node'
      · subst hnode
        obtain ⟨hin', hout'⟩ := call.foldl_after (links node)
        simp only [Function.update_self, hin', hout', Call.Does, hmember, true_and]
      · have hother : node' ≠ node := Ne.symm hnode
        simp [Function.update_of_ne hnode, Call.Does, hmember, hother]

/-- **Who reaches whom**: in a replica set whose chains accept everything, after any calls whose
remote commands all succeed, a packet from one member to another is delivered iff neither the
sender's `OUTPUT` was blocked nor the receiver's `INPUT` was, each since it was last healed. -/
theorem delivered_iff_not_blockedSince {remote : ℕ → ProcResult}
    (hremote : ∀ n, (remote n).returncode = 0) (hd : AddressesDistinct rsInfo) {w : World}
    (hopen : ∀ e ∈ rsInfo.items,
      OpenChain (w.filters e.2.ip).input ∧ OpenChain (w.filters e.2.ip).output)
    (calls : List Call) {a b : String × NodeInfo} (ha : a ∈ rsInfo.items) (hb : b ∈ rsInfo.items)
    (hne : a ≠ b) {p : Packet} (hsrc : p.src = a.2.privateIp ∨ p.src = a.2.ip)
    (hdst : p.dst = b.2.privateIp ∨ p.dst = b.2.ip) :
    Delivered (afterCalls remote rsInfo w calls).filters a.2 b.2 p ↔
      ¬ BlockedSince rsInfo a.1 .blockOutput calls ∧
        ¬ BlockedSince rsInfo b.1 .blockInput calls := by
  have hkeys : a.1 ≠ b.1 := fun h => hne (rsInfo.eq_of_key_eq ha hb h)
  have hpeer : ∀ node, ∃ e ∈ rsInfo.items, e.1 ≠ node := by
    intro node
    by_cases hnode : a.1 = node
    · exact ⟨b, hb, fun h => hkeys (hnode.trans h.symm)⟩
    · exact ⟨a, ha, hnode⟩
  have hcodes : exitsWithZero remote = fun _ => true := by
    funext n
    exact decide_eq_true (hremote n)
  obtain ⟨hrefines, -⟩ := afterCalls_refines remote hd w calls
  rw [hcodes] at hrefines
  obtain ⟨-, hout⟩ := afterCalls_cut_iff hpeer w.issued calls a.1
  obtain ⟨hin, -⟩ := afterCalls_cut_iff hpeer w.issued calls b.1
  have hmasked : ∀ {c : Chain Packet}, OpenChain c → ∀ blocked flushed,
      (maskedVerdict blocked flushed true c p = .accept ↔ ¬ blocked = true) := by
    rintro c ⟨hpolicy, hverdict⟩ blocked flushed
    cases blocked <;> cases flushed <;> simp [maskedVerdict, hpolicy, hverdict]
  have hto : IsPeerIp rsInfo a.1 p.dst := ⟨b, hb, hkeys.symm, hdst⟩
  have hfrom : IsPeerIp rsInfo b.1 p.src := ⟨a, ha, hkeys, hsrc⟩
  rw [Delivered, (hrefines.members a ha).output, (hrefines.members b hb).input,
    decide_eq_true hto, decide_eq_true hfrom, hmasked (hopen a ha).2, hmasked (hopen b hb).1,
    hout, hin]

end AllSucceed

theorem delivered_iff_not_blockedSince_overlapping :
    let filters := (afterCalls allSucceed threeMembers freshWorld overlappingCalls).filters
    Delivered filters ⟨"18.0.0.3", "ec2-18-0-0-3", "172.31.0.3"⟩
        ⟨"18.0.0.2", "ec2-18-0-0-2", "172.31.0.2"⟩ ⟨"172.31.0.3", "172.31.0.2", "tcp", 27017⟩ ↔
      ¬ BlockedSince threeMembers "mongo2" .blockOutput overlappingCalls ∧
        ¬ BlockedSince threeMembers "mongo1" .blockInput overlappingCalls :=
  @delivered_iff_not_blockedSince threeMembers allSucceed (fun _ => rfl) (by decide) freshWorld
    (fun _ _ => ⟨⟨rfl, fun _ => rfl⟩, ⟨rfl, fun _ => rfl⟩⟩) overlappingCalls
    ("mongo2", ⟨"18.0.0.3", "ec2-18-0-0-3", "172.31.0.3"⟩)
    ("mongo1", ⟨"18.0.0.2", "ec2-18-0-0-2", "172.31.0.2"⟩) (by decide) (by decide) (by decide)
    ⟨"172.31.0.3", "172.31.0.2", "tcp", 27017⟩ (Or.inl rfl) (Or.inl rfl)

end PythonForFun.MongoDB
