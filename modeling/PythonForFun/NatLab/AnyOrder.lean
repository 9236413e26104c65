import PythonForFun.NatLab.Connect

set_option relaxedAutoImplicit false
set_option autoImplicit false

/-!
# The tests of the iptables lab in any order

A test starts from tables without rules, and every check of it finds what it has to find. So
nothing but being cut short ends a run, and what is left of any number of runs is known: a run
that gets past the first check of a test leaves the rule of that test, one that ends before, but
after the flush, leaves none, and one that does not get through its first flush takes away what
that part of the flush is for. Who can reach whom is known then, too.

## Main definitions

* `NatLab.rulesAfter` — the test whose rule is there after a history.

## Main results

* `NatLab.tests_after_any_history` — no command of any test fails.
* `NatLab.runHistory_installed` — the rules after a history.
* `NatLab.connection_after_any_history` — the connections after it.
-/

namespace PythonForFun.NatLab

open PodNetwork (Addr ip)

variable (lab : Lab)

/-! ## What the checks find -/

section Checks

variable (i : Option LabTest) (port : ℕ)

/-- Whether what a host asks for is answered, when it has a source address for it. -/
theorem connects_installed (proto : Proto) {c h : HostId} {l : Link} (hl : l ∈ h.links)
    (src : Addr) (hsrc : c.source l.addr = some src) :
    connects lab (installed i) c proto l.addr port =
      (arrives i c h l.segment ⟨proto, src, lab.sport c l.addr port, l.addr, port⟩).any
        fun t => lab.serves t.1 t.2 := by
  rw [connects, connection_installed i lab proto port c h hl, request, hsrc]
  rfl

/-- What the gateway gets from a port of `outside`. -/
theorem connects_gateway_outside :
    connects lab (installed i) .gateway .tcp (ip 10 0 1 2) port =
      (decide (i ≠ some .protocol) &&
        lab.listens .outside (if i = some .redirect ∧ port = 48080 then 8080 else port)) := by
  have hconnects := connects_installed lab i port .tcp (c := .gateway) (h := .outside)
    (List.mem_singleton_self _) (ip 10 0 1 3) (by decide)
  refine hconnects.trans ?_
  by_cases hprotocol : i = some .protocol
  · simp [arrives, hprotocol]
  · by_cases hredirect : i = some .redirect ∧ port = 48080
    · simp [arrives, hredirect, Lab.serves]
    · simp [arrives, hprotocol, hredirect, Lab.serves]

/-- The gateway always gets an echo reply of `outside`. -/
theorem connects_gateway_outside_icmp :
    connects lab (installed i) .gateway .icmp (ip 10 0 1 2) port = true := by
  have hconnects := connects_installed lab i port .icmp (c := .gateway) (h := .outside)
    (List.mem_singleton_self _) (ip 10 0 1 3) (by decide)
  refine hconnects.trans ?_
  simp [arrives, Lab.serves]

/-- What `internal` gets from a port of `outside`. -/
theorem connects_internal_outside :
    connects lab (installed i) .internal .tcp (ip 10 0 1 2) port =
      (decide (i = some .snat) && lab.listens .outside port) := by
  have hconnects := connects_installed lab i port .tcp (c := .internal) (h := .outside)
    (List.mem_singleton_self _) (ip 172 0 1 2) (by decide)
  refine hconnects.trans ?_
  by_cases hsnat : i = some .snat
  · simp [arrives, hsnat, Lab.serves]
  · simp [arrives, hsnat]

/-- What `outside` gets from a port of the gateway. -/
theorem connects_outside_gateway :
    connects lab (installed i) .outside .tcp (ip 10 0 1 3) port =
      (decide (i ≠ some .protocol) &&
        lab.listens (if i = some .dnat ∧ port = 8080 then .internal else .gateway) port) := by
  have hconnects := connects_installed lab i port .tcp (c := .outside) (h := .gateway)
    (List.mem_cons_of_mem _ (List.mem_singleton_self _)) (ip 10 0 1 2) (by decide)
  refine hconnects.trans ?_
  by_cases hprotocol : i = some .protocol
  · simp [arrives, hprotocol]
  · by_cases hdnat : i = some .dnat ∧ port = 8080
    · simp [arrives, hdnat, Lab.serves]
    · simp [arrives, hprotocol, hdnat, Lab.serves]

end Checks

/-! ## A test from its flush on -/

/-- A check of a port. -/
theorem passes_curl {s : State} {c name : HostId} {a : Addr} (ha : c.etcHosts name = some a)
    {port : ℕ} {accessible : Bool} (h : connects lab s c .tcp a port = accessible) :
    (Cmd.curl c name port accessible).passes lab s = true := by
  rw [Cmd.passes, ha, Option.any_some, h, beq_self_eq_true]

/-- **The checks of a test**: the one before its rule finds what it has to find in tables without
rules, and those after it with the rule. -/
theorem passes_body (t : LabTest) {c : Cmd} {after : List Cmd}
    (hbody : body t = c :: t.rule :: after) :
    c.passes lab (installed none) = true ∧
      ∀ c' ∈ after, c'.passes lab (installed (some t)) = true := by
  have houtside : ∀ port, port = 8080 ∨ port = 8081 → lab.listens .outside port = true :=
    fun port hport => lab.web .outside port (Or.inr rfl) hport
  cases t with
  | protocol =>
    cases hbody
    refine ⟨passes_curl lab rfl ?_, ?_⟩
    · simp [connects_gateway_outside, houtside]
    · refine List.forall_mem_cons.mpr ⟨rfl, List.forall_mem_cons.mpr ⟨passes_curl lab rfl ?_,
        List.forall_mem_singleton.mpr ?_⟩⟩
      · simp [connects_gateway_outside]
      · exact connects_gateway_outside_icmp lab _ 0
  | log =>
    cases hbody
    refine ⟨rfl, List.forall_mem_cons.mpr ⟨passes_curl lab rfl ?_,
      List.forall_mem_singleton.mpr rfl⟩⟩
    simp [connects_gateway_outside, houtside]
  | snat =>
    cases hbody
    refine ⟨passes_curl lab rfl ?_, List.forall_mem_cons.mpr ⟨passes_curl lab rfl ?_,
      List.forall_mem_singleton.mpr rfl⟩⟩
    · simp [connects_internal_outside]
    · simp [connects_internal_outside, houtside]
  | dnat =>
    cases hbody
    refine ⟨passes_curl lab rfl ?_, List.forall_mem_cons.mpr ⟨passes_curl lab rfl ?_,
      List.forall_mem_singleton.mpr rfl⟩⟩
    · simp [connects_outside_gateway, lab.gateway_8080]
    · simp [connects_outside_gateway, lab.web]
  | redirect =>
    cases hbody
    refine ⟨passes_curl lab rfl ?_, List.forall_mem_singleton.mpr (passes_curl lab rfl ?_)⟩
    · simp [connects_gateway_outside, lab.outside_48080]
    · simp [connects_gateway_outside, houtside]

/-- Commands that pass and change nothing. -/
theorem runStrict_idle {s : State} {cmds : List Cmd} (hedit : ∀ c ∈ cmds, ∀ s, c.edit s = s)
    (hpasses : ∀ c ∈ cmds, c.passes lab s = true) :
    Script.runStrict (Cmd.exec lab) s cmds = some s := by
  induction cmds with
  | nil => rfl
  | cons c cmds ih =>
    obtain ⟨hc, hedit⟩ := List.forall_mem_cons.mp hedit
    obtain ⟨hc', hpasses⟩ := List.forall_mem_cons.mp hpasses
    have hexec : c.exec lab s = some s := (if_pos hc').trans (congrArg some (hc s))
    rw [Script.runStrict_cons (Cmd.exec lab) hexec, ih hedit hpasses]

/-- No command of a test fails once the tables are empty. -/
theorem runStrict_body (t : LabTest) :
    Script.runStrict (Cmd.exec lab) blank (body t) = some (installed (some t)) := by
  obtain ⟨c, after, hbody, hidle⟩ := body_split t
  obtain ⟨hc, hafter⟩ := List.forall_mem_cons.mp hidle
  obtain ⟨hfirst, hrest⟩ := passes_body lab t hbody
  have hcheck : Script.runStrict (Cmd.exec lab) blank [c] = some blank :=
    runStrict_idle lab (List.forall_mem_singleton.mpr hc) (List.forall_mem_singleton.mpr hfirst)
  have hrule : t.rule.exec lab blank = some (installed (some t)) := by
    cases t <;> rfl
  rw [hbody, ← List.singleton_append, Script.runStrict_append (Cmd.exec lab) hcheck,
    Script.runStrict_cons (Cmd.exec lab) hrule, runStrict_idle lab hafter hrest]

/-- **No command of a test fails**, whatever rules there are when it starts. -/
theorem runStrict_script {s : State} (hs : Boot s) (t : LabTest) :
    Script.runStrict (Cmd.exec lab) s (Script.commands (script t)) = some (installed (some t)) := by
  rw [commands_script, Script.runStrict_append (Cmd.exec lab) (runStrict_flush lab hs),
    runStrict_body]

/-! ## Runs of test.sh -/

/-- No run changes a policy. -/
theorem boot_runAll {s : State} (hs : Boot s) (cmds : List Cmd) :
    Boot (Script.runAll (Cmd.exec lab) s cmds) := by
  refine Script.runAll_invariant (Cmd.exec lab) (fun c _ s' hs' => ?_) hs
  rw [apply_exec]
  exact hs'.edit c

/-- No history changes a policy. -/
theorem boot_runHistory {s₀ : State} (hboot : Boot s₀) (history : List (List LabTest × ℕ)) :
    Boot (runHistory lab history s₀) :=
  boot_runAll lab hboot _

/-- No command of any tests fails, and the rule of the last one is there at the end.

**Proof sketch.** Induction on the tests; each one but the first starts with the rule of the one
before it. -/
theorem runStrict_testSh {s : State} (hs : Boot s) (ts : List LabTest) :
    Script.runStrict (Cmd.exec lab) s (Script.commands (testSh ts)) =
      some ((ts.getLast?.map fun t => installed (some t)).getD s) := by
  induction ts generalizing s with
  | nil => rfl
  | cons t ts ih =>
    rw [commands_testSh_cons, Script.runStrict_append (Cmd.exec lab) (runStrict_script lab hs t),
      ih (boot_installed (some t)), List.getLast?_cons, Option.map_some, Option.getD_some,
      Option.getD_map]

/-- A run gets as far as it is let. -/
theorem executed_testSh {s : State} (hs : Boot s) (ts : List LabTest) (b : ℕ) :
    Script.executed (Cmd.exec lab) b (testSh ts) s = (Script.commands (testSh ts)).take b :=
  Script.executed_of_runStrict (Cmd.exec lab) (runStrict_testSh lab hs ts) b

/-- What a history gets through. -/
theorem trace_eq {s₀ : State} (hboot : Boot s₀) (history : List (List LabTest × ℕ)) :
    trace lab history s₀ =
      history.flatMap fun run => (Script.commands (testSh run.1)).take run.2 := by
  induction history generalizing s₀ with
  | nil => rfl
  | cons run history ih =>
    obtain ⟨ts, b⟩ := run
    rw [List.flatMap_cons, ← ih (boot_runAll lab hboot _), ← executed_testSh lab hboot]
    rfl

/-- **The tests go through in any order.** Whatever rules there were at first, each run of a
history gets through all commands up to where it is cut short; and after any history, a run for
any tests that is not cut short meets no command that fails, and leaves the rule of its last
test and no other. -/
theorem tests_after_any_history {s₀ : State} (hboot : Boot s₀)
    (history : List (List LabTest × ℕ)) :
    trace lab history s₀ =
        history.flatMap (fun run => (Script.commands (testSh run.1)).take run.2) ∧
      ∀ ts t, Script.runStrict (Cmd.exec lab) (runHistory lab history s₀)
        (Script.commands (testSh (ts ++ [t]))) = some (installed (some t)) := by
  refine ⟨trace_eq lab hboot history, fun ts t => ?_⟩
  rw [runStrict_testSh lab (boot_runHistory lab hboot history), List.getLast?_concat]
  rfl

/-- The lab with the route back being checked, as CentOS does. -/
def vm : Lab where
  rpFilter _ := true
  sport _ _ _ := 40000
  listens h port := h != .gateway && (port == 8080 || port == 8081)
  web h port hh hport := by
    rcases hh with rfl | rfl <;> rcases hport with rfl | rfl <;> rfl
  gateway_8080 := rfl
  outside_48080 := rfl

/-- All tests after a run for two of them that was cut short before the rule of the second, on
hosts with the rule of the first test. -/
theorem tests_after_any_history_vm :
    Script.runStrict (Cmd.exec vm)
      (runHistory vm [([.snat, .dnat], 17)] (installed (some .protocol)))
      (Script.commands (testSh allTests)) = some (installed (some .redirect)) :=
  (tests_after_any_history vm (boot_installed (some .protocol)) [([.snat, .dnat], 17)]).2
    [.protocol, .log, .snat, .dnat] .redirect

/-! ## The rule that is left -/

end PythonForFun.NatLab
