import PythonForFun.Arp.Rules

set_option relaxedAutoImplicit false
set_option autoImplicit false

/-!
# What a whole run of `reset.sh` leaves

`reset.sh` deletes one rule for table 100 only, and it deletes the routes of table 100 only by
deleting the veth pair. Two invariants of the histories make this enough: at the end of a run
at most one rule for table 100 is left, and every route of table 100 goes through the veth
pair, whose two ends exist together.

## Main definitions

* `Arp.cleanHost` — the state a reset leaves, as a function of the booted host.
* `Arp.Env` — the invariant of the interfaces and routes.

## Main results

* `Arp.tbl_length_trace` — the bound on the rules for table 100.
* `Arp.env_runAll` — the invariant of the interfaces and routes.
* `Arp.runReset_erases_history` — a reset leaves the same state after every history.
-/

namespace PythonForFun.Arp

/-! ## The rules for table 100 -/

/-- A command that adds a rule for table 100. -/
def Cmd.addsTbl : Cmd → Bool
  | .ruleAdd r => r.table == .num 100
  | _ => false

/-- A command that adds no rule for table 100 adds none to the abstract state. -/
theorem tbl_length_apply_le {a : RuleState} {c : Cmd} (hlab : c.Lab) (h : c.addsTbl = false) :
    (a.apply c).tbl.length ≤ a.tbl.length := by
  cases c with
  | ruleAdd r =>
    rcases hlab with rfl | rfl | ⟨-, htable⟩
    · exact Nat.le_refl _
    · exact Nat.le_refl _
    · rw [Cmd.addsTbl, htable] at h
      cases h
  | ruleDelPrio n =>
    simp only [RuleState.apply]
    split_ifs <;> exact Nat.le_refl _
  | ruleDelTable t =>
    show a.tbl.tail.length ≤ a.tbl.length
    rw [List.length_tail]
    exact Nat.sub_le _ _
  | _ => exact Nat.le_refl _

/-- A command adds at most one rule for table 100. -/
theorem tbl_length_apply_le_succ {a : RuleState} {c : Cmd} (hlab : c.Lab) :
    (a.apply c).tbl.length ≤ a.tbl.length + 1 := by
  cases h : c.addsTbl with
  | false => exact Nat.le_trans (tbl_length_apply_le hlab h) (Nat.le_succ _)
  | true =>
    cases c with
    | ruleAdd r =>
      simp only [RuleState.apply]
      split_ifs
      · exact Nat.le_succ _
      · exact Nat.le_succ _
      · exact Nat.le_succ _
      · show (a.tbl ++ [r.sel]).length ≤ a.tbl.length + 1
        rw [List.length_append, List.length_singleton]
    | _ => cases h

/-- A list of commands adds at most as many rules for table 100 as it has commands for it. -/
theorem tbl_length_foldl_le {cmds : List Cmd} (hlab : ∀ c ∈ cmds, c.Lab) (a : RuleState) :
    (cmds.foldl RuleState.apply a).tbl.length ≤ a.tbl.length + cmds.countP Cmd.addsTbl := by
  induction cmds generalizing a with
  | nil => exact Nat.le_refl _
  | cons c cmds ih =>
    have hc : c.Lab := hlab c List.mem_cons_self
    have hrest := ih (fun c' hc' => hlab c' (List.mem_cons_of_mem c hc')) (a.apply c)
    rw [List.foldl_cons, List.countP_cons]
    cases h : c.addsTbl with
    | false =>
      have hle := tbl_length_apply_le (a := a) hc h
      simp only [Bool.false_eq_true, if_false]
      omega
    | true =>
      have hle := tbl_length_apply_le_succ (a := a) hc
      simp only [if_true]
      omega

/-- The loop of `reset.sh` does not touch the policy rules. -/
theorem foldl_resetConf (a : RuleState) (names : List String) :
    (resetConf names).foldl RuleState.apply a = a := by
  refine List.foldlRecOn (resetConf names) RuleState.apply (motive := (· = a)) rfl ?_
  intro a' ha' c hc
  obtain ⟨v, f, key, rfl, -⟩ := echo_of_mem_resetConf hc
  exact ha'

/-- A whole reset puts the rule for table `local` back, deletes the moved one, and deletes one
rule for table 100. -/
theorem foldl_resetCommands (a : RuleState) (s : Host) :
    (resetCommands s).foldl RuleState.apply a = ⟨true, a.tbl.tail, false⟩ := by
  rw [resetCommands, List.foldl_append, foldl_resetConf]
  rfl

/-- A reset has no command that adds a rule for table 100. -/
theorem countP_addsTbl_resetCommands (s : Host) : (resetCommands s).countP Cmd.addsTbl = 0 := by
  rw [List.countP_eq_zero]
  intro c hc
  rcases List.mem_append.mp hc with hc | hc
  · obtain ⟨v, f, key, rfl, -⟩ := echo_of_mem_resetConf hc
    exact Bool.false_ne_true
  · have hall : ∀ c ∈ resetTail, ¬ c.addsTbl = true := by decide
    exact hall c hc

/-- A body has at most one command that adds a rule for table 100. -/
theorem countP_addsTbl_body (i : LabScript) : (body i).countP Cmd.addsTbl ≤ 1 := by
  cases i <;> decide

/-- **The run lemma for table 100**: a run that finds at most one rule for table 100 leaves at
most one, wherever it is cut short.

**Proof sketch.** A run cut short within its reset adds none. A run that gets past its reset
has deleted the one that was there, and its body adds at most one. -/
theorem tbl_length_run {t : List Cmd} (ht : CutVersion t) {a : RuleState}
    (h : a.tbl.length ≤ 1) : (t.foldl RuleState.apply a).tbl.length ≤ 1 := by
  obtain ⟨i, s, hpre⟩ := id ht
  rcases Script.prefix_append_cases hpre with hreset | ⟨u, hu, rfl⟩
  · have hle := tbl_length_foldl_le (fun c hc => ht.lab hc) a
    have hzero : t.countP Cmd.addsTbl ≤ 0 := by
      rw [← countP_addsTbl_resetCommands s]
      exact hreset.sublist.countP_le
    omega
  · rw [List.foldl_append, foldl_resetCommands]
    have hlab : ∀ c ∈ u, c.Lab := fun c hc => lab_of_mem_body (hu.subset hc)
    have hle := tbl_length_foldl_le hlab ⟨true, a.tbl.tail, false⟩
    rw [show (RuleState.mk true a.tbl.tail false).tbl = a.tbl.tail from rfl] at hle
    have hone : u.countP Cmd.addsTbl ≤ 1 :=
      Nat.le_trans hu.sublist.countP_le (countP_addsTbl_body i)
    have hnil : a.tbl.tail.length = 0 := by
      rw [List.length_tail]
      omega
    omega

/-- Every history leaves at most one rule for table 100. -/
theorem tbl_length_trace (history : List (LabScript × ℕ)) (s : Host) :
    ((trace history s).foldl RuleState.apply .boot).tbl.length ≤ 1 := by
  obtain ⟨ts, hts, hcut⟩ := trace_eq_flatten history s
  rw [hts]
  have hboot : RuleState.boot.tbl.length ≤ 1 := Nat.zero_le 1
  generalize RuleState.boot = a at hboot
  clear hts
  induction ts generalizing a with
  | nil => exact hboot
  | cons t ts ih =>
    rw [List.flatten_cons, List.foldl_append]
    refine ih (fun t' ht' => hcut t' (List.mem_cons_of_mem t ht')) _ ?_
    exact tbl_length_run (hcut t List.mem_cons_self) hboot

/-! ## Interfaces and routes -/

/-- The sysctls `reset.sh` writes. -/
def cleanSysctl : Sysctl := ⟨0, 0, 0, 1⟩

/-- An entry after the loop of `reset.sh`. -/
def cleanEntry (e : String × Sysctl) : String × Sysctl :=
  if isDefault e.1 then e else (e.1, cleanSysctl)

/-- The entries after the loop of `reset.sh`, those of the veth pair left out. -/
def cleanConf (conf : List (String × Sysctl)) : List (String × Sysctl) :=
  (conf.filter fun e => !isVeth e.1).map cleanEntry

/-- The state a reset leaves on a host booted as `s₀`. -/
def cleanHost (s₀ : Host) : Host where
  rules := bootRules
  table100 := []
  conf := s₀.conf.map cleanEntry
  chains := fun _ _ => []
  loUp := true

/-- The invariant of the interfaces and routes: apart from the veth pair the entries are those
of the booted host up to what the loop of `reset.sh` overwrites, the two ends of the pair exist
together, and every route of table 100 goes through an existing end. -/
structure Env (s₀ s : Host) : Prop where
  conf_eq : cleanConf s.conf = cleanConf s₀.conf
  pair : "veth0" ∈ s.names ↔ "veth1" ∈ s.names
  routes : ∀ r ∈ s.table100, isVeth r.dev = true ∧ r.dev ∈ s.names

/-- A booted host satisfies the invariant. -/
theorem Boot.env {s₀ : Host} (h : Boot s₀) : Env s₀ s₀ where
  conf_eq := rfl
  pair := by
    constructor
    · intro h0
      exact absurd (h.noVeth "veth0" h0) (by decide)
    · intro h1
      exact absurd (h.noVeth "veth1" h1) (by decide)
  routes := by
    rw [h.table100_eq]
    intro r hr
    cases hr

/-- The loop keeps the name of an entry. -/
theorem cleanEntry_fst (e : String × Sysctl) : (cleanEntry e).1 = e.1 := by
  unfold cleanEntry
  split_ifs <;> rfl

/-- The loop does not change an entry twice. -/
theorem cleanEntry_cleanEntry (e : String × Sysctl) : cleanEntry (cleanEntry e) = cleanEntry e := by
  rw [cleanEntry, cleanEntry_fst]
  unfold cleanEntry
  split_ifs <;> rfl

/-- Writing a sysctl on an interface that the loop does not skip is overwritten by it. -/
theorem cleanEntry_setEntry {f : String} (hf : isDefault f = false) (v : ℕ) (key : SysctlKey)
    (e : String × Sysctl) : cleanEntry (setEntry v f key e) = cleanEntry e := by
  unfold setEntry
  split_ifs with he
  · simp only [cleanEntry, he, hf, Bool.false_eq_true, if_false]
  · rfl

/-- Selecting entries by their names, before or after a change that keeps the names. -/
theorem filter_veth_map {g : String × Sysctl → String × Sysctl} (hname : ∀ e, (g e).1 = e.1)
    (conf : List (String × Sysctl)) :
    ((conf.map g).filter fun e => !isVeth e.1) = (conf.filter fun e => !isVeth e.1).map g := by
  rw [List.filter_map]
  refine congrArg (List.map g) (List.filter_congr fun e _ => ?_)
  show (!isVeth (g e).1) = _
  rw [hname]

/-- A change that the loop overwrites. -/
theorem cleanConf_map {g : String × Sysctl → String × Sysctl} (hname : ∀ e, (g e).1 = e.1)
    (hclean : ∀ e, cleanEntry (g e) = cleanEntry e) (conf : List (String × Sysctl)) :
    cleanConf (conf.map g) = cleanConf conf := by
  rw [cleanConf, filter_veth_map hname, List.map_map, cleanConf]
  exact List.map_congr_left fun e _ => hclean e

/-- Adding the veth pair adds nothing else. -/
theorem cleanConf_append_veth (conf : List (String × Sysctl)) (v : Sysctl) :
    cleanConf (conf ++ [("veth0", v), ("veth1", v)]) = cleanConf conf := by
  rw [cleanConf, List.filter_append]
  show List.map cleanEntry (_ ++ []) = _
  rw [List.append_nil]
  rfl

/-- Deleting the veth pair deletes nothing else. -/
theorem cleanConf_filter_veth (conf : List (String × Sysctl)) :
    cleanConf (conf.filter fun e => !isVeth e.1) = cleanConf conf := by
  simp only [cleanConf, List.filter_filter, Bool.and_self]

/-- No name of the veth pair is left once it is deleted. -/
theorem notMem_names_filter_veth {conf : List (String × Sysctl)} {f : String}
    (hf : isVeth f = true) : f ∉ (conf.filter fun e => !isVeth e.1).map Prod.fst := by
  intro h
  obtain ⟨e, he, rfl⟩ := List.mem_map.mp h
  have hnot := (List.mem_filter.mp he).2
  rw [hf] at hnot
  cases hnot

/-- **The step lemma for interfaces and routes.**

**Proof sketch.** Only writing sysctls, adding and deleting the veth pair, and adding a route
touch them; a route is added only where its device exists. -/
theorem env_apply {s₀ s : Host} {c : Cmd} (hc : c.Lab) (h : Env s₀ s) : Env s₀ (apply s c) := by
  cases c with
  | echo v f key =>
    have hnames := names_apply_echo s v f key
    refine ⟨?_, ?_, ?_⟩
    · rw [apply_echo]
      have hsame : cleanConf (s.conf.map (setEntry v f key)) = cleanConf s.conf :=
        cleanConf_map (setEntry_fst v f key) (cleanEntry_setEntry hc v key) s.conf
      exact hsame.trans h.conf_eq
    · rw [hnames]
      exact h.pair
    · rw [hnames, apply_echo]
      exact h.routes
  | linkAddVeth =>
    simp only [apply, Script.apply, exec]
    split_ifs with hex
    · exact h
    · refine ⟨?_, ?_, ?_⟩
      · exact (cleanConf_append_veth s.conf s.defaultSysctl).trans h.conf_eq
      · simp [Host.names]
      · intro r hr
        obtain ⟨hveth, hdev⟩ := h.routes r hr
        refine ⟨hveth, ?_⟩
        show r.dev ∈ (s.conf ++ _).map Prod.fst
        rw [List.map_append]
        exact List.mem_append_left _ hdev
  | linkDelVeth =>
    by_cases hex : "veth0" ∈ s.names
    · rw [apply_linkDelVeth_of_mem hex]
      refine ⟨?_, ?_, ?_⟩
      · exact (cleanConf_filter_veth s.conf).trans h.conf_eq
      · exact iff_of_false (notMem_names_filter_veth (by decide))
          (notMem_names_filter_veth (by decide))
      · intro r hr
        obtain ⟨hr, hnot⟩ := List.mem_filter.mp hr
        rw [(h.routes r hr).1] at hnot
        cases hnot
    · rw [apply_linkDelVeth_of_notMem hex]
      exact h
  | routeAdd r =>
    simp only [apply, Script.apply, exec]
    split_ifs with hex
    · refine ⟨h.conf_eq, h.pair, ?_⟩
      intro r' hr'
      rcases List.mem_append.mp hr' with hr' | hr'
      · exact h.routes r' hr'
      · rw [List.mem_singleton] at hr'
        rw [hr']
        exact ⟨hc, hex.1⟩
    · exact h
  | ruleAdd r =>
    rw [apply_ruleAdd]
    exact ⟨h.conf_eq, h.pair, h.routes⟩
  | ruleDelPrio n =>
    rw [apply_ruleDelPrio]
    exact ⟨h.conf_eq, h.pair, h.routes⟩
  | ruleDelTable t =>
    rw [apply_ruleDelTable]
    exact ⟨h.conf_eq, h.pair, h.routes⟩
  | linkSetLo up => exact ⟨h.conf_eq, h.pair, h.routes⟩
  | iptablesFlush t => exact ⟨h.conf_eq, h.pair, h.routes⟩
  | iptablesInsert t hook rule => exact ⟨h.conf_eq, h.pair, h.routes⟩
  | iptablesAppend t hook rule => exact ⟨h.conf_eq, h.pair, h.routes⟩
  | other line => exact h

/-- The invariant holds after any commands of the lab. -/
theorem env_runAll {s₀ s : Host} {cmds : List Cmd} (hlab : ∀ c ∈ cmds, c.Lab)
    (h : Env s₀ s) : Env s₀ (Script.runAll exec s cmds) :=
  Script.runAll_invariant exec (I := Env s₀) (fun c hc _ hs => env_apply (hlab c hc) hs) h

/-! ## The effect of a whole reset -/

/-- The loop body sets the four sysctls of the interface. -/
theorem runAll_resetConfOf (s : Host) (f : String) :
    Script.runAll exec s (resetConfOf f) =
      { s with conf := s.conf.map fun e => if e.1 = f then (e.1, cleanSysctl) else e } := by
  simp only [Script.runAll, resetConfOf, List.foldl_cons, List.foldl_nil, apply_echo,
    List.map_map]
  congr 1
  refine List.map_congr_left fun e _ => ?_
  by_cases he : e.1 = f <;> simp [setEntry, he, Sysctl.set, cleanSysctl]

/-- The loop sets the four sysctls of every listed interface it does not skip.

**Proof sketch.** Induction on the names; one round sets the sysctls of its interface, and the
later rounds leave it as it is or set it again. -/
theorem runAll_resetConf (names : List String) (s : Host) :
    Script.runAll exec s (resetConf names) =
      { s with conf := s.conf.map fun e => if e.1 ∈ names then cleanEntry e else e } := by
  induction names generalizing s with
  | nil => simp [resetConf, Script.runAll]
  | cons f names ih =>
    have hsplit : resetConf (f :: names) =
        (if isDefault f then [] else resetConfOf f) ++ resetConf names := by
      cases hf : isDefault f <;> simp [resetConf, hf]
    rw [hsplit, Script.runAll_append]
    have hother : ∀ e : String × Sysctl, e.1 ≠ f → (e.1 ∈ f :: names ↔ e.1 ∈ names) := by
      intro e he
      rw [List.mem_cons, or_iff_right he]
    cases hf : isDefault f with
    | true =>
      rw [if_pos rfl, ih]
      show Host.mk _ _ (List.map _ s.conf) _ _ = _
      congr 1
      refine List.map_congr_left fun e _ => ?_
      by_cases he : e.1 = f
      · have hself : cleanEntry e = e := by
          rw [cleanEntry, he, hf]
          rfl
        rw [hself, ite_self, ite_self]
      · simp only [hother e he]
    | false =>
      rw [if_neg Bool.false_ne_true, runAll_resetConfOf, ih]
      simp only [List.map_map]
      congr 1
      refine List.map_congr_left fun e _ => ?_
      by_cases he : e.1 = f
      · have hclean : (e.1, cleanSysctl) = cleanEntry e := by
          rw [cleanEntry, he, hf]
          rfl
        have hmem : e.1 ∈ f :: names := List.mem_cons.mpr (Or.inl he)
        rw [if_pos hmem, Function.comp_apply, if_pos he, hclean, cleanEntry_cleanEntry, ite_self]
      · rw [Function.comp_apply, if_neg he]
        simp only [hother e he]

/-- The whole loop, its glob expanded where it starts. -/
theorem runAll_resetConf_names (s : Host) :
    Script.runAll exec s (resetConf s.names) = { s with conf := s.conf.map cleanEntry } := by
  rw [runAll_resetConf]
  congr 1
  refine List.map_congr_left fun e he => ?_
  have hmem : e.1 ∈ s.names := List.mem_map_of_mem he
  rw [if_pos hmem]

/-- With the invariant, deleting the veth pair where it exists leaves no end of it and an empty
table 100. -/
theorem Env.apply_linkDelVeth {s₀ s : Host} (h : Env s₀ s) :
    apply s .linkDelVeth =
      { s with conf := s.conf.filter fun e => !isVeth e.1, table100 := [] } := by
  by_cases hex : "veth0" ∈ s.names
  · rw [apply_linkDelVeth_of_mem hex]
    congr 1
    refine List.filter_eq_nil_iff.mpr fun r hr => ?_
    rw [(h.routes r hr).1]
    decide
  · have hnone : ∀ f ∈ s.names, isVeth f = false := by
      intro f hf
      cases hv : isVeth f with
      | false => rfl
      | true =>
        rcases Bool.or_eq_true_iff.mp hv with h0 | h1
        · exact absurd (beq_iff_eq.mp h0 ▸ hf) hex
        · exact absurd (h.pair.mpr (beq_iff_eq.mp h1 ▸ hf)) hex
    have hconf : (s.conf.filter fun e => !isVeth e.1) = s.conf := by
      refine List.filter_eq_self.mpr fun e he => ?_
      rw [hnone e.1 (List.mem_map_of_mem he)]
      rfl
    have hroutes : s.table100 = [] := by
      refine List.eq_nil_iff_forall_not_mem.mpr fun r hr => ?_
      obtain ⟨hveth, hdev⟩ := h.routes r hr
      rw [hnone r.dev hdev] at hveth
      cases hveth
    rw [apply_linkDelVeth_of_notMem hex, hconf, ← hroutes]

/-- What the rest of a reset leaves, apart from the policy rules. -/
theorem runAll_resetTail {s₀ s : Host} (h : Env s₀ s) :
    Script.runAll exec s resetTail =
      { rules := (Script.runAll exec s resetTail).rules
        table100 := []
        conf := s.conf.filter fun e => !isVeth e.1
        chains := fun _ _ => []
        loUp := true } := by
  have hchains : (Script.runAll exec s resetTail).chains = fun _ _ => [] := by
    simp only [Script.runAll, resetTail, List.foldl_cons, List.foldl_nil, h.apply_linkDelVeth,
      apply_other, apply_iptablesFlush, apply_ruleDelTable, apply_ruleDelPrio, apply_ruleAdd,
      apply_linkSetLo]
    funext t hook
    cases t <;> rfl
  rw [← hchains]
  simp only [Script.runAll, resetTail, List.foldl_cons, List.foldl_nil, h.apply_linkDelVeth,
    apply_other, apply_iptablesFlush, apply_ruleDelTable, apply_ruleDelPrio, apply_ruleAdd,
    apply_linkSetLo]

/-- On a booted host the veth pair need not be left out. -/
theorem Boot.cleanConf_eq {s₀ : Host} (h : Boot s₀) :
    cleanConf s₀.conf = s₀.conf.map cleanEntry := by
  have hconf : (s₀.conf.filter fun e => !isVeth e.1) = s₀.conf := by
    refine List.filter_eq_self.mpr fun e he => ?_
    rw [h.noVeth e.1 (List.mem_map_of_mem he)]
    rfl
  rw [cleanConf, hconf]

/-- **A reset cleans every host that satisfies the invariants.** -/
theorem runReset_eq_cleanHost {s₀ s : Host} {a : RuleState} (hboot : Boot s₀) (henv : Env s₀ s)
    (hrules : s.rules = a.rules) (htbl : a.tbl.length ≤ 1) : runReset s = cleanHost s₀ := by
  have hlab : ∀ c ∈ resetConf s.names, c.Lab := fun c hc =>
    lab_of_mem_resetCommands (List.mem_append_left _ hc)
  have henv₁ : Env s₀ (Script.runAll exec s (resetConf s.names)) := env_runAll hlab henv
  have hfinal : (runReset s).rules = bootRules := by
    have htail : a.tbl.tail = [] := by
      rw [← List.length_eq_zero_iff, List.length_tail]
      omega
    rw [runReset, rules_runAll (fun c hc => lab_of_mem_resetCommands hc) hrules,
      foldl_resetCommands, htail]
    rfl
  have hsplit : runReset s =
      Script.runAll exec (Script.runAll exec s (resetConf s.names)) resetTail :=
    Script.runAll_append exec s _ _
  rw [hsplit] at hfinal ⊢
  rw [runAll_resetTail henv₁, hfinal, runAll_resetConf_names]
  show Host.mk _ _ ((s.conf.map cleanEntry).filter _) _ _ = _
  rw [filter_veth_map cleanEntry_fst]
  show Host.mk _ _ (cleanConf s.conf) _ _ = _
  rw [henv.conf_eq, hboot.cleanConf_eq]
  rfl

/-- A cleaned host lists the names it listed at boot. -/
theorem names_cleanHost (s₀ : Host) : (cleanHost s₀).names = s₀.names := by
  show (s₀.conf.map cleanEntry).map Prod.fst = s₀.conf.map Prod.fst
  rw [List.map_map]
  exact List.map_congr_left fun e _ => cleanEntry_fst e

/-- A cleaned host satisfies the invariant. -/
theorem env_cleanHost {s₀ : Host} (hboot : Boot s₀) : Env s₀ (cleanHost s₀) := by
  refine ⟨?_, ?_, ?_⟩
  · exact cleanConf_map cleanEntry_fst cleanEntry_cleanEntry s₀.conf
  · rw [names_cleanHost]
    exact hboot.env.pair
  · intro r hr
    cases hr

/-- **`reset.sh` erases history**: after every history of runs, each cut short anywhere, a
reset leaves the boot rules, an empty table 100, the four sysctls at 0/0/0/1 on every interface
that its glob does not skip, empty chains, no veth pair and `lo` up. The state is the same for
all histories, and a second reset leaves it as it is. -/
theorem runReset_erases_history {s₀ : Host} (hboot : Boot s₀)
    (history : List (LabScript × ℕ)) :
    let s := runReset (runHistory history s₀)
    s = cleanHost s₀ ∧
      s.rules = bootRules ∧
      s.table100 = [] ∧
      s.names = s₀.names ∧
      (∀ e ∈ s.conf, isDefault e.1 = false → e.2 = ⟨0, 0, 0, 1⟩) ∧
      (∀ t hook, s.chains t hook = []) ∧
      (∀ f ∈ s.names, isVeth f = false) ∧
      s.loUp = true ∧
      runReset s = s := by
  have hlab : ∀ c ∈ trace history s₀, c.Lab := fun c hc => lab_of_mem_trace hc
  have hrules : s₀.rules = RuleState.boot.rules := hboot.rules_eq.trans rules_boot.symm
  have hclean : runReset (runHistory history s₀) = cleanHost s₀ :=
    runReset_eq_cleanHost hboot (env_runAll hlab hboot.env) (rules_runAll hlab hrules)
      (tbl_length_trace history s₀)
  have hagain : runReset (cleanHost s₀) = cleanHost s₀ :=
    runReset_eq_cleanHost hboot (env_cleanHost hboot) (a := .boot) rfl (Nat.zero_le 1)
  intro s
  have hs : s = cleanHost s₀ := hclean
  rw [hs]
  refine ⟨rfl, rfl, rfl, names_cleanHost s₀, ?_, fun _ _ => rfl, ?_, rfl, hagain⟩
  · intro e he hskip
    obtain ⟨e₀, -, rfl⟩ := List.mem_map.mp he
    rw [cleanEntry_fst] at hskip
    simp only [cleanEntry, hskip, Bool.false_eq_true, if_false]
    rfl
  · rw [names_cleanHost]
    exact hboot.noVeth

/-- A ping test cut short after its rule for table 100, then an add-rule test cut short within
its own reset. -/
theorem runReset_erases_history_dut :
    Boot dut ∧
      runReset (runHistory [(.testPingVeth, 49), (.testAddRule, 20)] dut) = cleanHost dut :=
  ⟨boot_dut, (runReset_erases_history boot_dut [(.testPingVeth, 49), (.testAddRule, 20)]).1⟩

end PythonForFun.Arp
