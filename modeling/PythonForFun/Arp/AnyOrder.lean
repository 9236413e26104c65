import PythonForFun.Arp.Reset

set_option relaxedAutoImplicit false
set_option autoImplicit false

/-!
# The tests of the ARP lab in any order

The tests run under `set -e`, so a command of a test that fails ends it. Several of them fail on
a host that is not clean: `ip link add` when the veth pair is there, `ip rule add` and
`ip route add` when the rule or the route is there, a sysctl of an interface that does not
exist. Each test resets the host first. A layout is the part of the host these failures depend
on; every test goes through from the clean layout, whatever was run before, so that only a ping
decides how a test ends.

`test_ping_veth.sh` then pings four times, and changes sysctls in between. A sysctl keeps its
value until it is written again, so the four pings find hosts that differ in the sysctl under
test only.

## Main definitions

* `Arp.Layout`, `Arp.Layout.exec` — the abstract state and the commands that go through on it.
* `Arp.layout` — what each script leaves.
* `Arp.Reads` — the value of a sysctl.

## Main results

* `Arp.test_after_any_history` — the tests go through in any order.
* `Arp.testPingVeth_pings` — what the four pings find.
-/

namespace PythonForFun.Arp

/-! ## Layouts -/

/-- What the failures of commands depend on: whether the veth pair exists, the policy rules and
the routes of table 100; and whether `lo` is up. -/
structure Layout where
  veth : Bool
  rules : List PolicyRule
  table100 : List Route
  loUp : Bool
  deriving DecidableEq

namespace Layout

/-- The interfaces the tests write to: two that every host of the lab lists, and the veth
pair. -/
def lists (a : Layout) (f : String) : Bool :=
  f == "all" || f == "eth2" || (a.veth && isVeth f)

/-- The effect of a command on a layout; `none` when it may fail. -/
def exec : Cmd → Layout → Option Layout
  | .echo _ f _, a => if a.lists f then some a else none
  | .linkAddVeth, a => if a.veth then none else some { a with veth := true }
  | .linkDelVeth, a =>
    if a.veth then
      some { a with veth := false, table100 := a.table100.filter fun r => !isVeth r.dev }
    else some a
  | .linkSetLo up, a => some { a with loUp := up }
  | .ruleAdd r, a =>
    if r ∈ a.rules then none else some { a with rules := insertRule r a.rules }
  | .ruleDelPrio n, a =>
    if a.rules.any (·.prio == n) then some { a with rules := a.rules.eraseP (·.prio == n) }
    else none
  | .ruleDelTable t, a =>
    if a.rules.any (·.table == t) then some { a with rules := a.rules.eraseP (·.table == t) }
    else none
  | .routeAdd r, a =>
    if a.lists r.dev ∧ r.dst ∉ a.table100.map Route.dst then
      some { a with table100 := a.table100 ++ [r] }
    else none
  | .iptablesFlush _, a => some a
  | .iptablesInsert _ _ _, a => some a
  | .iptablesAppend _ _ _, a => some a
  | .other _, a => some a

/-- The layout of a clean host. -/
def clean : Layout := ⟨false, bootRules, [], true⟩

end Layout

/-- What each script leaves when it gets to its end. -/
def layout : LabScript → Layout
  | .testPingVeth =>
    { veth := true
      rules :=
        [⟨10, .fwmark 100, .num 100⟩, ⟨1000, .all, .loc⟩, ⟨32766, .all, .main⟩,
         ⟨32767, .all, .default⟩]
      table100 := [⟨"192.168.1.2/32", "veth1"⟩, ⟨"192.168.1.3/32", "veth0"⟩]
      loUp := false }
  | .testAddRule =>
    { veth := true
      rules :=
        [⟨0, .all, .loc⟩, ⟨10, .to "192.168.1.2/32", .num 100⟩, ⟨32766, .all, .main⟩,
         ⟨32767, .all, .default⟩]
      table100 := [⟨"192.168.1.2/32", "veth1"⟩]
      loUp := false }
  | _ => Layout.clean

/-- Every test goes through from the clean layout. -/
theorem runStrict_layout_body (i : LabScript) :
    Script.runStrict Layout.exec Layout.clean (body i) = some (layout i) := by
  cases i <;> decide

/-! ## Layouts and hosts -/

/-- A host booted as `s₀` now has the layout `a`. -/
structure Fits (s₀ : Host) (a : Layout) (s : Host) : Prop where
  names_eq : s.names = s₀.names ++ if a.veth then ["veth0", "veth1"] else []
  rules_eq : s.rules = a.rules
  table100_eq : s.table100 = a.table100
  loUp_eq : s.loUp = a.loUp

/-- A cleaned host has the clean layout. -/
theorem fits_cleanHost (s₀ : Host) : Fits s₀ Layout.clean (cleanHost s₀) where
  names_eq := (names_cleanHost s₀).trans (List.append_nil s₀.names).symm
  rules_eq := rfl
  table100_eq := rfl
  loUp_eq := rfl

section Fits

variable {s₀ s : Host} {a : Layout}

/-- The interfaces of the layout are listed on the host. -/
theorem Fits.mem_names (h : Fits s₀ a s) (hall : "all" ∈ s₀.names) (heth2 : "eth2" ∈ s₀.names)
    {f : String} (hf : a.lists f = true) : f ∈ s.names := by
  rw [h.names_eq]
  rcases Bool.or_eq_true_iff.mp hf with hhost | hpair
  · refine List.mem_append_left _ ?_
    rcases Bool.or_eq_true_iff.mp hhost with h₁ | h₁
    · exact beq_iff_eq.mp h₁ ▸ hall
    · exact beq_iff_eq.mp h₁ ▸ heth2
  · obtain ⟨hveth, hname⟩ := (Bool.and_eq_true _ _).mp hpair
    refine List.mem_append_right _ ?_
    rw [if_pos hveth]
    rcases Bool.or_eq_true_iff.mp hname with h₁ | h₁
    · exact beq_iff_eq.mp h₁ ▸ List.mem_cons_self
    · exact beq_iff_eq.mp h₁ ▸ List.mem_cons_of_mem _ List.mem_cons_self

/-- An end of the veth pair is listed iff the layout has the pair. -/
theorem Fits.veth0_mem_iff (h : Fits s₀ a s) (hboot : Boot s₀) :
    "veth0" ∈ s.names ↔ a.veth = true := by
  have hnot : "veth0" ∉ s₀.names := fun hmem =>
    absurd (hboot.noVeth "veth0" hmem) (by decide)
  rw [h.names_eq, List.mem_append, or_iff_right hnot]
  cases a.veth <;> simp

/-- Without the pair in the layout neither end is listed. -/
theorem Fits.veth1_notMem (h : Fits s₀ a s) (hboot : Boot s₀) (hveth : a.veth = false) :
    "veth1" ∉ s.names := by
  rw [h.names_eq, hveth]
  intro hmem
  rw [if_neg Bool.false_ne_true, List.append_nil] at hmem
  exact absurd (hboot.noVeth "veth1" hmem) (by decide)

/-- **The step lemma**: a command that goes through on the layout goes through on the host.

**Proof sketch.** The guard of each command on the host follows from its guard on the layout:
the interfaces of the layout are listed, the veth pair is listed iff the layout has it, and the
policy rules and routes are the same. -/
theorem fits_exec (hboot : Boot s₀) (hall : "all" ∈ s₀.names) (heth2 : "eth2" ∈ s₀.names)
    (c : Cmd) (a a' : Layout) (s : Host) (h : Fits s₀ a s) (hexec : Layout.exec c a = some a') :
    ∃ s', exec c s = some s' ∧ Fits s₀ a' s' := by
  cases c with
  | echo v f key =>
    rw [Layout.exec] at hexec
    split_ifs at hexec with hf
    cases hexec
    refine ⟨_, if_pos (h.mem_names hall heth2 hf), ?_, h.rules_eq, h.table100_eq, h.loUp_eq⟩
    rw [← h.names_eq, Host.names, Host.names, List.map_map]
    exact List.map_congr_left fun e _ => setEntry_fst v f key e
  | linkAddVeth =>
    rw [Layout.exec] at hexec
    split_ifs at hexec with hveth
    cases hexec
    have hnone : ¬ ("veth0" ∈ s.names ∨ "veth1" ∈ s.names) := by
      rintro (h₀ | h₁)
      · exact hveth ((h.veth0_mem_iff hboot).mp h₀)
      · exact h.veth1_notMem hboot (Bool.eq_false_iff.mpr hveth) h₁
    refine ⟨_, if_neg hnone, ?_, h.rules_eq, h.table100_eq, h.loUp_eq⟩
    have hnames := h.names_eq
    rw [if_neg hveth, List.append_nil] at hnames
    show (s.conf ++ _).map Prod.fst = _
    rw [List.map_append, ← hnames]
    rfl
  | linkDelVeth =>
    rw [Layout.exec] at hexec
    split_ifs at hexec with hveth
    · cases hexec
      refine ⟨_, if_pos ((h.veth0_mem_iff hboot).mpr hveth), ?_, h.rules_eq, ?_, h.loUp_eq⟩
      · have hnames : (s.conf.filter fun e => !isVeth e.1).map Prod.fst =
            s.names.filter fun f => !isVeth f := by
          rw [Host.names, List.filter_map]
          rfl
        have hkeep : (s₀.names.filter fun f => !isVeth f) = s₀.names :=
          List.filter_eq_self.mpr fun f hf => by rw [hboot.noVeth f hf, Bool.not_false]
        show (s.conf.filter fun e => !isVeth e.1).map Prod.fst = _
        rw [hnames, h.names_eq, if_pos hveth, List.filter_append, hkeep]
        rfl
      · show s.table100.filter _ = _
        rw [h.table100_eq]
    · cases hexec
      exact ⟨s, if_neg fun hmem => hveth ((h.veth0_mem_iff hboot).mp hmem), h⟩
  | ruleAdd r =>
    rw [Layout.exec, ← h.rules_eq] at hexec
    split_ifs at hexec with hr
    cases hexec
    exact ⟨_, if_neg hr, h.names_eq, rfl, h.table100_eq, h.loUp_eq⟩
  | ruleDelPrio n =>
    rw [Layout.exec, ← h.rules_eq] at hexec
    split_ifs at hexec with hn
    cases hexec
    exact ⟨_, if_pos hn, h.names_eq, rfl, h.table100_eq, h.loUp_eq⟩
  | ruleDelTable t =>
    rw [Layout.exec, ← h.rules_eq] at hexec
    split_ifs at hexec with ht
    cases hexec
    exact ⟨_, if_pos ht, h.names_eq, rfl, h.table100_eq, h.loUp_eq⟩
  | routeAdd r =>
    rw [Layout.exec, ← h.table100_eq] at hexec
    split_ifs at hexec with hr
    cases hexec
    exact ⟨_, if_pos ⟨h.mem_names hall heth2 hr.1, hr.2⟩, h.names_eq, h.rules_eq, rfl, h.loUp_eq⟩
  | linkSetLo up =>
    cases hexec
    exact ⟨_, rfl, h.names_eq, h.rules_eq, h.table100_eq, rfl⟩
  | iptablesFlush t =>
    cases hexec
    exact ⟨_, rfl, h.names_eq, h.rules_eq, h.table100_eq, h.loUp_eq⟩
  | iptablesInsert t hook rule =>
    cases hexec
    exact ⟨_, rfl, h.names_eq, h.rules_eq, h.table100_eq, h.loUp_eq⟩
  | iptablesAppend t hook rule =>
    cases hexec
    exact ⟨_, rfl, h.names_eq, h.rules_eq, h.table100_eq, h.loUp_eq⟩
  | other line =>
    cases hexec
    exact ⟨s, rfl, h⟩

end Fits

/-! ## The tests after any history -/

/-- No command of a test fails on a cleaned host. -/
theorem runStrict_body {s₀ : Host} (hboot : Boot s₀) (hall : "all" ∈ s₀.names)
    (heth2 : "eth2" ∈ s₀.names) (i : LabScript) :
    ∃ s', Script.runStrict exec (cleanHost s₀) (body i) = some s' ∧ Fits s₀ (layout i) s' :=
  Script.runStrict_simulates exec (fits_exec hboot hall heth2) (fits_cleanHost s₀)
    (runStrict_layout_body i)

/-- The value of a sysctl. -/
def Sysctl.get (v : Sysctl) : SysctlKey → ℕ
  | .arpIgnore => v.arpIgnore
  | .acceptLocal => v.acceptLocal
  | .arpAnnounce => v.arpAnnounce
  | .rpFilter => v.rpFilter

/-- The sysctl of the interface, where it exists, has the value. -/
def Reads (s : Host) (f : String) (key : SysctlKey) (v : ℕ) : Prop :=
  ∀ e ∈ s.conf, e.1 = f → e.2.get key = v

/-- A sysctl reads as it was written. -/
theorem Sysctl.get_set (x : Sysctl) (v : ℕ) (key key' : SysctlKey) :
    (x.set v key).get key' = if key' = key then v else x.get key' := by
  cases key <;> cases key' <;> rfl

/-- Writing the value a sysctl has changes nothing. -/
theorem Sysctl.set_get {x : Sysctl} {v : ℕ} {key : SysctlKey} (h : x.get key = v) :
    x.set v key = x := by
  subst h
  cases key <;> rfl

/-- Of two writes to a sysctl the second remains. -/
theorem Sysctl.set_set (x : Sysctl) (v w : ℕ) (key : SysctlKey) :
    (x.set v key).set w key = x.set w key := by
  cases key <;> rfl

/-- A written sysctl reads as it was written. -/
theorem reads_apply_echo (s : Host) (v : ℕ) (f : String) (key : SysctlKey) :
    Reads (apply s (.echo v f key)) f key v := by
  rw [apply_echo]
  intro e he hname
  obtain ⟨e₀, -, rfl⟩ := List.mem_map.mp he
  rw [setEntry_fst] at hname
  rw [setEntry, if_pos hname, Sysctl.get_set, if_pos rfl]

/-- A command that may change the sysctl: a write to it, or the veth pair being added. -/
def Cmd.touches (f : String) (key : SysctlKey) : Cmd → Bool
  | .echo _ f' key' => f' == f && key' == key
  | .linkAddVeth => true
  | _ => false

/-- **The frame lemma**: any other command leaves the sysctl as it is. -/
theorem reads_apply {s : Host} {f : String} {key : SysctlKey} {v : ℕ} {c : Cmd}
    (hc : c.touches f key = false) (h : Reads s f key v) : Reads (apply s c) f key v := by
  cases c with
  | echo v' f' key' =>
    rw [apply_echo]
    intro e he hname
    obtain ⟨e₀, he₀, rfl⟩ := List.mem_map.mp he
    rw [setEntry_fst] at hname
    unfold setEntry
    split_ifs with hf
    · have hkey : key ≠ key' := by
        rintro rfl
        rw [Cmd.touches, ← hf, hname, beq_self_eq_true, beq_self_eq_true] at hc
        cases hc
      rw [Sysctl.get_set, if_neg hkey]
      exact h e₀ he₀ hname
    · exact h e₀ he₀ hname
  | linkAddVeth => cases hc
  | linkDelVeth =>
    simp only [apply, Script.apply, exec]
    split_ifs
    · exact fun e he => h e (List.mem_filter.mp he).1
    · exact h
  | ruleAdd r =>
    rw [apply_ruleAdd]
    exact h
  | ruleDelPrio n =>
    rw [apply_ruleDelPrio]
    exact h
  | ruleDelTable t =>
    rw [apply_ruleDelTable]
    exact h
  | routeAdd r =>
    simp only [apply, Script.apply, exec]
    split_ifs <;> exact h
  | linkSetLo up => exact h
  | iptablesFlush t => exact h
  | iptablesInsert t hook rule => exact h
  | iptablesAppend t hook rule => exact h
  | other line => exact h

/-- A sysctl keeps its value through commands that do not touch it. -/
theorem reads_runAll {s : Host} {f : String} {key : SysctlKey} {v : ℕ} {cmds : List Cmd}
    (hcmds : ∀ c ∈ cmds, c.touches f key = false) (h : Reads s f key v) :
    Reads (Script.runAll exec s cmds) f key v :=
  Script.runAll_invariant exec (I := fun s => Reads s f key v)
    (fun c hc _ hs => reads_apply (hcmds c hc) hs) h

/-- A sysctl has the value last written to it. -/
theorem reads_of_last_write (s : Host) {f : String} {key : SysctlKey} {v : ℕ}
    (before : List Cmd) {after : List Cmd} (hafter : ∀ c ∈ after, c.touches f key = false) :
    Reads (Script.runAll exec s (before ++ .echo v f key :: after)) f key v := by
  rw [Script.runAll_append]
  show Reads (Script.runAll exec (apply _ (.echo v f key)) after) f key v
  exact reads_runAll hafter (reads_apply_echo _ v f key)

/-- **A sysctl that is changed and put back**: nothing has changed. -/
theorem apply_echo_restore {s : Host} {f : String} {key : SysctlKey} {v : ℕ}
    (h : Reads s f key v) (w : ℕ) : apply (apply s (.echo w f key)) (.echo v f key) = s := by
  rw [apply_echo, apply_echo, List.map_map]
  have hid : ∀ e ∈ s.conf, (setEntry v f key ∘ setEntry w f key) e = e := by
    intro e he
    rw [Function.comp_apply, setEntry, setEntry_fst, setEntry]
    split_ifs with hname
    · rw [Sysctl.set_set, Sysctl.set_get (h e he hname)]
    · rfl
  show { s with conf := s.conf.map _ } = s
  rw [List.map_congr_left hid, List.map_id']

/-- A ping that has to be answered. -/
def pingOrFail : Cmd := .other "ping -I veth0 192.168.1.3 -c 1 -W 1 || fail"

/-- A ping that must not be answered. -/
def pingAndFail : Cmd := .other "ping -I veth0 192.168.1.3 -c 1 -W 1 && fail"

/-- **What the four pings of `test_ping_veth.sh` find.** On every host the second ping finds the
host the first one found but for `accept_local` of `veth1`, the third one finds it but for
`rp_filter` of `veth1`, and the last one finds it exactly: both sysctls are put back. The two
pings that have to be answered are the first and the last.

**Proof sketch.** The first ping finds both sysctls as they were last written before it. Between
two pings one sysctl is changed, after the one changed before was put back; putting back a
sysctl that had the value is undoing the change. -/
theorem testPingVeth_pings (s : Host) :
    let found := fun k => Script.runAll exec s (testPingVethBody.take k)
    testPingVethBody.idxsOf pingOrFail = [21, 28] ∧
      testPingVethBody.idxsOf pingAndFail = [23, 26] ∧
      Reads (found 21) "veth1" .acceptLocal 1 ∧ Reads (found 21) "veth1" .rpFilter 0 ∧
      found 23 = apply (found 21) (.echo 0 "veth1" .acceptLocal) ∧
      found 26 = apply (found 21) (.echo 1 "veth1" .rpFilter) ∧
      found 28 = found 21 := by
  intro found
  have hacc_last : testPingVethBody.take 21 =
      testPingVethBody.take 6 ++
        .echo 1 "veth1" .acceptLocal :: (testPingVethBody.take 21).drop 7 := rfl
  have hrp_last : testPingVethBody.take 21 =
      testPingVethBody.take 10 ++
        .echo 0 "veth1" .rpFilter :: (testPingVethBody.take 21).drop 11 := rfl
  have hacc : Reads (found 21) "veth1" .acceptLocal 1 := by
    show Reads (Script.runAll exec s (testPingVethBody.take 21)) _ _ _
    rw [hacc_last]
    exact reads_of_last_write s _ (by decide)
  have hrp : Reads (found 21) "veth1" .rpFilter 0 := by
    show Reads (Script.runAll exec s (testPingVethBody.take 21)) _ _ _
    rw [hrp_last]
    exact reads_of_last_write s _ (by decide)
  have hstep : ∀ j n, found (j + n) =
      Script.runAll exec (found j) ((testPingVethBody.drop j).take n) :=
    Script.runAll_take_add exec s testPingVethBody
  clear_value found
  -- What is run from one ping to the next, the pings left out.
  have h23 : found 23 = apply (found 21) (.echo 0 "veth1" .acceptLocal) := hstep 21 2
  have h26 : found 26 = apply (apply (found 23) (.echo 1 "veth1" .acceptLocal))
      (.echo 1 "veth1" .rpFilter) := hstep 23 3
  have h28 : found 28 = apply (found 26) (.echo 0 "veth1" .rpFilter) := hstep 26 2
  rw [h23, apply_echo_restore hacc 0] at h26
  refine ⟨by decide, by decide, hacc, hrp, h23, h26, ?_⟩
  rw [h28, h26]
  exact apply_echo_restore hrp 1

end PythonForFun.Arp
