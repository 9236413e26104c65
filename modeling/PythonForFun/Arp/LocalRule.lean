import PythonForFun.Arp.Rules

set_option relaxedAutoImplicit false
set_option autoImplicit false

/-!
# Whether the host keeps its local routing lookup

`test_ping_veth.sh` adds the moved rule for table `local` before it deletes the one at priority
0. `reset.sh` goes the other way: it deletes the moved rule first and adds the one at priority
0 two commands later. So the host is without a rule for table `local` as soon as a reset
deletes at priority 1000 what a ping test moved there, and only then.

## Main results

* `Arp.localRuleKept_iff` — the histories that keep a rule for table `local` throughout.
* `Arp.reset_drops_local_rule` — a ping test and the reset after it do not.
-/

namespace PythonForFun.Arp

open RuleState

/-! ## Which commands come right after which -/

/-- The loop of `reset.sh` has no command about policy rules. -/
theorem notMem_resetConf {names : List String} {c : Cmd} (h : ∀ v f key, c ≠ .echo v f key) :
    c ∉ resetConf names := by
  intro hc
  obtain ⟨v, f, key, heq, -⟩ := echo_of_mem_resetConf hc
  exact h v f key heq

/-- What comes right after `pre` in the rest of a reset and in every body does so in every
history. -/
theorem preceded_trace {pre : List Cmd} {c : Cmd} (hecho : ∀ v f key, c ≠ .echo v f key)
    (htail : Script.Preceded pre c resetTail) (hbody : ∀ i, Script.Preceded pre c (body i))
    (history : List (LabScript × ℕ)) (s : Host) : Script.Preceded pre c (trace history s) := by
  obtain ⟨ts, hts, hcut⟩ := trace_eq_flatten history s
  rw [hts]
  refine Script.Preceded.flatten fun t ht => ?_
  obtain ⟨i, s', hpre⟩ := hcut t ht
  have hconf : Script.Preceded pre c (resetConf s'.names) :=
    Script.preceded_of_notMem (notMem_resetConf hecho)
  exact ((hconf.append htail).append (hbody i)).of_isPrefix hpre

/-- The rule at priority 0 is deleted right after the moved rule was added. -/
theorem preceded_ruleDelPrio_zero (history : List (LabScript × ℕ)) (s : Host) :
    Script.Preceded [.ruleAdd movedRule] (.ruleDelPrio 0) (trace history s) := by
  refine preceded_trace (fun _ _ _ => Cmd.noConfusion) (by decide) ?_ history s
  intro i
  cases i <;> decide

/-- The rule at priority 0 is added right after priorities 1000 and 100 were deleted. -/
theorem preceded_ruleAdd_home (history : List (LabScript × ℕ)) (s : Host) :
    Script.Preceded [.ruleDelPrio 1000, .ruleDelPrio 100] (.ruleAdd homeRule)
      (trace history s) := by
  refine preceded_trace (fun _ _ _ => Cmd.noConfusion) (by decide) ?_ history s
  intro i
  cases i <;> decide

/-! ## What keeps each of the two rules -/

/-- Only a deletion at priority 0 takes the rule away from its boot place. -/
theorem home_apply {a : RuleState} {c : Cmd} (hc : c ≠ .ruleDelPrio 0) (ha : a.home = true) :
    (a.apply c).home = true := by
  cases c with
  | ruleAdd r =>
    simp only [RuleState.apply]
    split_ifs <;> first | rfl | exact ha
  | ruleDelPrio n =>
    have hn : n ≠ 0 := fun hn => hc (hn ▸ rfl)
    simp only [RuleState.apply, if_neg hn]
    split_ifs <;> exact ha
  | _ => exact ha

/-- Only a deletion at priority 1000 takes the moved rule away. -/
theorem moved_apply {a : RuleState} {c : Cmd} (hc : c ≠ .ruleDelPrio 1000)
    (ha : a.moved = true) : (a.apply c).moved = true := by
  cases c with
  | ruleAdd r =>
    simp only [RuleState.apply]
    split_ifs <;> first | rfl | exact ha
  | ruleDelPrio n =>
    have hn : n ≠ 1000 := fun hn => hc (hn ▸ rfl)
    simp only [RuleState.apply, if_neg hn]
    split_ifs <;> exact ha
  | _ => exact ha

/-- Only adding the rule at priority 0 puts it back. -/
theorem not_home_apply {a : RuleState} {c : Cmd} (hc : c ≠ .ruleAdd homeRule)
    (ha : a.home = false) : (a.apply c).home = false := by
  cases c with
  | ruleAdd r =>
    have hr : r ≠ homeRule := fun hr => hc (hr ▸ rfl)
    simp only [RuleState.apply, if_neg hr]
    split_ifs <;> exact ha
  | ruleDelPrio n =>
    simp only [RuleState.apply]
    split_ifs <;> first | rfl | exact ha
  | _ => exact ha

/-- What only the command `c₀` can break holds at the end of a list without it. -/
theorem foldl_of_notMem {I : RuleState → Prop} {c₀ : Cmd}
    (hstep : ∀ {a : RuleState} {c : Cmd}, c ≠ c₀ → I a → I (a.apply c)) {cmds : List Cmd}
    (h : c₀ ∉ cmds) {a : RuleState} (ha : I a) : I (cmds.foldl RuleState.apply a) := by
  refine List.foldlRecOn cmds RuleState.apply ha fun a ha c hc => ?_
  have hne : c ≠ c₀ := fun he => h (he ▸ hc)
  exact hstep hne ha

/-! ## The exact condition -/

/-- **The two deletions in this order lose the local lookup**: some state on the way has no
rule for table `local`.

**Proof sketch.** Take the first deletion at priority 1000 after a deletion at priority 0.
Between the two the rule at priority 0 is not added, since right before that a reset deletes
at priority 1000. So the second deletion leaves neither rule. -/
theorem exists_prefix_without_local {T : List Cmd}
    (hadd : Script.Preceded [.ruleDelPrio 1000, .ruleDelPrio 100] (.ruleAdd homeRule) T)
    (h : List.Sublist [.ruleDelPrio 0, .ruleDelPrio 1000] T) :
    ∃ P, P <+: T ∧ (P.foldl RuleState.apply .boot).home = false ∧
      (P.foldl RuleState.apply .boot).moved = false := by
  obtain ⟨T₁, T₂, rfl, h0, h1⟩ := List.cons_sublist_iff.mp h
  obtain ⟨A, R, rfl⟩ := List.append_of_mem h0
  have hmem : .ruleDelPrio 1000 ∈ R ++ T₂ :=
    List.mem_append_right R (List.singleton_sublist.mp h1)
  obtain ⟨B, C, hBC, hB⟩ := List.eq_append_cons_of_mem hmem
  have hT : A ++ .ruleDelPrio 0 :: R ++ T₂ =
      A ++ .ruleDelPrio 0 :: (B ++ .ruleDelPrio 1000 :: C) := by
    rw [List.append_assoc, List.cons_append, hBC]
  rw [hT] at hadd ⊢
  have hnotAdd : .ruleAdd homeRule ∉ B := by
    intro hmem
    obtain ⟨B₁, B₂, rfl⟩ := List.append_of_mem hmem
    have hsplit :
        A ++ .ruleDelPrio 0 :: (B₁ ++ .ruleAdd homeRule :: B₂ ++ .ruleDelPrio 1000 :: C) =
          (A ++ .ruleDelPrio 0 :: B₁) ++ .ruleAdd homeRule :: (B₂ ++ .ruleDelPrio 1000 :: C) := by
      simp only [List.append_assoc, List.cons_append]
    rw [hsplit] at hadd
    have hsuf := Script.suffix_of_suffix_append_cons hadd.suffix (by decide)
    exact hB (List.mem_append_left _ (hsuf.subset List.mem_cons_self))
  refine ⟨A ++ .ruleDelPrio 0 :: (B ++ [.ruleDelPrio 1000]), ?_, ?_, ?_⟩
  · refine ⟨C, ?_⟩
    simp only [List.append_assoc, List.cons_append, List.nil_append]
  · rw [List.foldl_append, List.foldl_cons, List.foldl_append]
    exact foldl_of_notMem (I := fun a => a.home = false) not_home_apply hnotAdd rfl
  · rw [List.foldl_append, List.foldl_cons, List.foldl_append]
    rfl

/-- **Otherwise the local lookup is kept**: one of the two rules is there after every prefix.

**Proof sketch.** Before a deletion at priority 0 the rule is at its boot place. Right before
that deletion the moved rule was added, and it stays until a deletion at priority 1000. -/
theorem home_or_moved_of_isPrefix {T P : List Cmd}
    (hdel : Script.Preceded [.ruleAdd movedRule] (.ruleDelPrio 0) T)
    (h : ¬ List.Sublist [.ruleDelPrio 0, .ruleDelPrio 1000] T) (hP : P <+: T) :
    (P.foldl RuleState.apply .boot).home = true ∨
      (P.foldl RuleState.apply .boot).moved = true := by
  by_cases h0 : .ruleDelPrio 0 ∈ P
  · right
    obtain ⟨A, B, rfl⟩ := List.append_of_mem h0
    obtain ⟨A', rfl⟩ := (hdel.of_isPrefix hP).suffix
    have hB : .ruleDelPrio 1000 ∉ B := by
      intro hmem
      refine h (List.Sublist.trans ?_ hP.sublist)
      refine List.Sublist.trans ?_ (List.sublist_append_right _ _)
      exact (List.singleton_sublist.mpr hmem).cons_cons _
    rw [List.foldl_append, List.foldl_append, List.foldl_cons]
    exact foldl_of_notMem (I := fun a => a.moved = true) moved_apply hB rfl
  · left
    exact foldl_of_notMem (I := fun a => a.home = true) home_apply h0 rfl

/-- **When the host keeps its local routing lookup**: every state passed through has a rule for
table `local` iff no reset deletes at priority 1000 after a ping test deleted at priority 0. -/
theorem localRuleKept_iff {s₀ : Host} (hboot : Boot s₀) (history : List (LabScript × ℕ)) :
    (∀ P, P <+: trace history s₀ → HasLocal (Script.runAll exec s₀ P).rules) ↔
      ¬ List.Sublist [.ruleDelPrio 0, .ruleDelPrio 1000] (trace history s₀) := by
  have hrules : ∀ P, P <+: trace history s₀ →
      (Script.runAll exec s₀ P).rules = (P.foldl RuleState.apply .boot).rules := by
    intro P hP
    have hboot' : s₀.rules = RuleState.boot.rules := hboot.rules_eq.trans rules_boot.symm
    exact rules_runAll (fun c hc => lab_of_mem_trace (hP.subset hc)) hboot'
  constructor
  · intro hkept hdel
    obtain ⟨P, hP, hhome, hmoved⟩ :=
      exists_prefix_without_local (preceded_ruleAdd_home history s₀) hdel
    have hlocal := hkept P hP
    rw [hrules P hP, hasLocal_rules_iff, hhome, hmoved] at hlocal
    simp at hlocal
  · intro hdel P hP
    rw [hrules P hP, hasLocal_rules_iff]
    exact home_or_moved_of_isPrefix (preceded_ruleDelPrio_zero history s₀) hdel hP

/-- An add-rule test and the reset after it keep the rule for table `local`. -/
theorem localRuleKept_iff_dut :
    Boot dut ∧ ∀ P, P <+: trace [(.testAddRule, 100), (.reset, 100)] dut →
      HasLocal (Script.runAll exec dut P).rules :=
  ⟨boot_dut, (localRuleKept_iff boot_dut [(.testAddRule, 100), (.reset, 100)]).mpr
    (by decide +kernel)⟩

/-- **A reset after a ping test loses the local lookup**: it is gone once the reset has deleted
at priority 1000, its 35th command on a host with the veth pair. -/
theorem reset_drops_local_rule :
    Boot dut ∧ ¬ HasLocal (runHistory [(.testPingVeth, 100), (.reset, 35)] dut).rules := by
  refine ⟨boot_dut, ?_⟩
  decide +kernel

end PythonForFun.Arp
