import PythonForFun.MongoDB.Partition

set_option relaxedAutoImplicit false
set_option autoImplicit false

/-!
# Sequences of remote command lines

The tests cut nodes off and heal them by long sequences of remote `iptables` command lines,
written out or issued in loops. A sequence that returns is the same as its command lines run
one after another on the hosts' filter tables.

## Main definitions

* `MongoDB.sshAll` — a sequence of remote command lines.
* `MongoDB.effect` — what one of them does to the filter tables.
* `MongoDB.blockAddresses` — the command lines that cut a host off from some addresses.

## Main results

* `MongoDB.sshAll_eq_ok_iff` — when a sequence returns, and with which tables.
* `MongoDB.foldlM_effect_blockAddresses` — the tables after cutting a host off.
-/

namespace PythonForFun.MongoDB

open Netfilter

/-- The effect of a remote command line on the hosts' filter tables, or `none` when it is
refused. -/
def effect (filters : String → FilterTable Packet) (cmd : String × Iptables) :
    Option (String → FilterTable Packet) :=
  (cmd.2.apply (filters cmd.1)).map (Function.update filters cmd.1)

/-- Issue remote command lines, each given by the host's public ip and the command, one after
another. -/
def sshAll (remote : ℕ → ProcResult) (cmds : List (String × Iptables)) : Prog PyErr World Unit :=
  forM cmds fun cmd => do
    let _ ← ssh remote cmd.1 cmd.2

/-- A remote command returns iff it is not refused and exits with `0`. -/
theorem ssh_eq_ok_iff {remote : ℕ → ProcResult} {ip : String} {cmd : Iptables} {w w' : World} :
    (∃ r, ssh remote ip cmd w = (.ok r, w')) ↔
      (remote w.issued).returncode = 0 ∧
        ∃ filters, effect w.filters (ip, cmd) = some filters ∧ w' = ⟨filters, w.issued + 1⟩ := by
  constructor
  · rintro ⟨r, h⟩
    obtain ⟨hcode, f, hf, hw⟩ := ssh_eq_ok h
    exact ⟨hcode, _, by rw [effect, hf, Option.map_some], hw⟩
  · rintro ⟨hcode, filters, heffect, rfl⟩
    obtain ⟨f, hf, rfl⟩ := Option.map_eq_some_iff.mp heffect
    obtain ⟨r, hr⟩ := (run_eq_ok_iff (remote w.issued)).mpr hcode
    refine ⟨r, ?_⟩
    simp only [ssh, hf, hr, hcode, if_true]

/-- A sequence returns iff its first command and the rest do. -/
theorem sshAll_cons_eq_ok_iff {remote : ℕ → ProcResult} {cmd : String × Iptables}
    {cmds : List (String × Iptables)} {w w' : World} :
    sshAll remote (cmd :: cmds) w = (.ok (), w') ↔
      ∃ w₁, (∃ r, ssh remote cmd.1 cmd.2 w = (.ok r, w₁)) ∧
        sshAll remote cmds w₁ = (.ok (), w') := by
  rw [sshAll, List.forM_cons, Prog.bind_eq_ok_iff]
  constructor
  · rintro ⟨u, w₁, h₁, hrest⟩
    obtain ⟨r, w₂, hssh, hpure⟩ := Prog.bind_eq_ok_iff.mp h₁
    cases hpure
    exact ⟨_, ⟨r, hssh⟩, hrest⟩
  · rintro ⟨w₁, ⟨r, hssh⟩, hrest⟩
    exact ⟨(), w₁, Prog.bind_eq_ok_iff.mpr ⟨r, w₁, hssh, rfl⟩, hrest⟩

/-- **When a sequence of remote commands returns**: when each of them exits with `0` and none
is refused, and then their effects took place one after another.

**Proof sketch.** Induction on the commands, for an arbitrary world they start in. -/
theorem sshAll_eq_ok_iff {remote : ℕ → ProcResult} {cmds : List (String × Iptables)}
    {w w' : World} :
    sshAll remote cmds w = (.ok (), w') ↔
      (∀ i < cmds.length, (remote (w.issued + i)).returncode = 0) ∧
        ∃ filters, cmds.foldlM effect w.filters = some filters ∧
          w' = ⟨filters, w.issued + cmds.length⟩ := by
  induction cmds generalizing w with
  | nil =>
    constructor
    · intro h
      exact ⟨fun i hi => absurd hi (Nat.not_lt_zero i), w.filters, rfl, (Prod.mk.inj h).2.symm⟩
    · rintro ⟨-, filters, hfilters, rfl⟩
      cases hfilters
      rfl
  | cons cmd cmds ih =>
    rw [sshAll_cons_eq_ok_iff]
    constructor
    · rintro ⟨w₁, hfirst, hrest⟩
      obtain ⟨hcode, filters₁, heffect, rfl⟩ := ssh_eq_ok_iff.mp hfirst
      obtain ⟨hcodes, filters, hfilters, rfl⟩ := ih.mp hrest
      refine ⟨fun i hi => ?_, filters, ?_, ?_⟩
      · cases i with
        | zero => exact hcode
        | succ i =>
          have := hcodes i (by simpa using hi)
          rwa [Nat.add_assoc, Nat.add_comm 1 i] at this
      · rw [List.foldlM_cons, heffect]
        exact hfilters
      · rw [List.length_cons, Nat.add_assoc, Nat.add_comm 1]
    · rintro ⟨hcodes, filters, hfilters, rfl⟩
      rw [List.foldlM_cons] at hfilters
      obtain ⟨filters₁, heffect, hrest⟩ := Option.bind_eq_some_iff.mp hfilters
      refine ⟨⟨filters₁, w.issued + 1⟩, ssh_eq_ok_iff.mpr
        ⟨hcodes 0 (by simp), filters₁, heffect, rfl⟩, ih.mpr ⟨fun i hi => ?_, filters, hrest, ?_⟩⟩
      · have := hcodes (i + 1) (by simpa using hi)
        rwa [← Nat.add_assoc, Nat.add_right_comm] at this
      · rw [List.length_cons, Nat.add_assoc, Nat.add_comm 1]

/-- A sequence whose first command is refused changes no table. -/
theorem sshAll_of_refused {remote : ℕ → ProcResult} {cmd : String × Iptables}
    {cmds : List (String × Iptables)} {w w' : World} {r : Except PyErr Unit}
    (hrefused : effect w.filters cmd = none) (h : sshAll remote (cmd :: cmds) w = (r, w')) :
    w'.filters = w.filters := by
  have happly : cmd.2.apply (w.filters cmd.1) = none := Option.map_eq_none_iff.mp hrefused
  rw [sshAll, List.forM_cons, Prog.bind_apply, Prog.bind_apply] at h
  rcases hssh : ssh remote cmd.1 cmd.2 w with ⟨r', w₁⟩
  rw [hssh] at h
  cases r' with
  | ok s =>
    obtain ⟨-, f, hf, -⟩ := ssh_eq_ok hssh
    rw [happly] at hf
    cases hf
  | error e =>
    obtain ⟨-, rfl⟩ := ssh_eq_error hssh
    exact (congrArg (fun x => x.2.filters) h).symm

/-- Two sequences in a row are one sequence. -/
theorem sshAll_append (remote : ℕ → ProcResult) (cmds cmds' : List (String × Iptables)) :
    sshAll remote (cmds ++ cmds') = sshAll remote cmds >>= fun _ => sshAll remote cmds' :=
  List.forM_append

/-- A nested loop of commands issues the commands of its passes one after another. -/
theorem forM_sshAll {ι : Type} (remote : ℕ → ProcResult) (items : List ι)
    (cmds : ι → List (String × Iptables)) :
    (forM items fun i => sshAll remote (cmds i)) = sshAll remote (items.flatMap cmds) := by
  induction items with
  | nil => rfl
  | cons i items ih =>
    rw [List.forM_cons, ih, List.flatMap_cons, sshAll, sshAll, sshAll, List.forM_append]

/-! ## Cutting a host off from some addresses -/

/-- The command lines that cut the host at `ip` off from `addrs`, one address after another. -/
def blockAddresses (ip : String) (addrs : List String) : List (String × Iptables) :=
  addrs.flatMap fun a => [(ip, .insertInputSource [a]), (ip, .insertOutputDestination [a])]

/-- The loop that cuts a host off issues these command lines. -/
theorem forM_blockAddress (remote : ℕ → ProcResult) (ip : String) (addrs : List String) :
    (forM addrs fun a => do
      let _ ← ssh remote ip (.insertInputSource [a])
      let _ ← ssh remote ip (.insertOutputDestination [a])) =
    sshAll remote (blockAddresses ip addrs) := by
  rw [blockAddresses, ← forM_sshAll]
  simp only [sshAll, List.forM_cons, List.forM_nil, bind_assoc, pure_bind]

/-- Cutting a host off from two lists of addresses, one after the other. -/
theorem blockAddresses_append (ip : String) (addrs addrs' : List String) :
    blockAddresses ip (addrs ++ addrs') = blockAddresses ip addrs ++ blockAddresses ip addrs' :=
  List.flatMap_append

/-- The effect of cutting a host off from one address. -/
theorem foldlM_effect_blockAddress (filters : String → FilterTable Packet) (ip a : String) :
    [(ip, Iptables.insertInputSource [a]), (ip, .insertOutputDestination [a])].foldlM effect
        filters =
      some (Function.update filters ip
        (cutFilter [a] (.bool false) (.bool false) (filters ip))) := by
  simp [effect, Iptables.apply, cutFilter, Value.isFalse]

/-- Cutting off from one address, and then from others. -/
theorem cutFilter_cons (a : String) (addrs : List String) (f : FilterTable Packet) :
    cutFilter addrs (.bool false) (.bool false)
        (cutFilter [a] (.bool false) (.bool false) f) =
      cutFilter (a :: addrs) (.bool false) (.bool false) f := by
  simp [cutFilter, Value.isFalse, Chain.insertAll]

/-- **Cutting a host off address by address** leaves its table as one call of the helper with
these addresses would.

**Proof sketch.** Induction on the addresses, for arbitrary tables to start from. -/
theorem foldlM_effect_blockAddresses (filters : String → FilterTable Packet) (ip : String)
    (addrs : List String) :
    (blockAddresses ip addrs).foldlM effect filters =
      some (Function.update filters ip
        (cutFilter addrs (.bool false) (.bool false) (filters ip))) := by
  induction addrs generalizing filters with
  | nil => simp [blockAddresses, cutFilter, Value.isFalse, Chain.insertAll]
  | cons a addrs ih =>
    rw [blockAddresses, List.flatMap_cons, List.foldlM_append, foldlM_effect_blockAddress]
    refine (ih _).trans ?_
    rw [Function.update_idem, Function.update_self, cutFilter_cons]

end PythonForFun.MongoDB
