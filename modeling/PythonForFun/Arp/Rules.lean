import PythonForFun.Arp.Scripts

set_option relaxedAutoImplicit false
set_option autoImplicit false

/-!
# The policy rules under the scripts

Under the commands of the lab the policy rules keep one shape: perhaps the boot rule for
table `local` at priority 0, then rules for table 100 at priority 10, perhaps the moved rule
for table `local` at priority 1000, and the boot rules for `main` and `default`. The three
varying parts are the abstract state on which histories are reasoned about.

## Main definitions

* `Arp.RuleState`, `Arp.RuleState.apply` — the abstract state and the effect of a command.

## Main results

* `Arp.rules_runAll` — the policy rules of the host follow the abstract state.
* `Arp.hasLocal_rules_iff` — when a rule for table `local` is left.
-/

namespace PythonForFun.Arp

/-- The varying part of the policy rules: whether the rule for table `local` is at its boot
place, the selectors of the rules for table 100, and whether the moved rule is there. -/
structure RuleState where
  home : Bool
  tbl : List Selector
  moved : Bool
  deriving DecidableEq

namespace RuleState

/-- The rule for table `local` at its boot place. -/
def homeRule : PolicyRule := ⟨0, .all, .loc⟩

/-- The moved rule for table `local`. -/
def movedRule : PolicyRule := ⟨1000, .all, .loc⟩

/-- A rule for table 100. -/
def tblRule (sel : Selector) : PolicyRule := ⟨10, sel, .num 100⟩

/-- The rule for table `main`. -/
def mainRule : PolicyRule := ⟨32766, .all, .main⟩

/-- The rule for table `default`. -/
def defaultRule : PolicyRule := ⟨32767, .all, .default⟩

/-- The rules from the moved rule on. -/
def lowRules (moved : Bool) : List PolicyRule :=
  if moved then [movedRule, mainRule, defaultRule] else [mainRule, defaultRule]

/-- The policy rules of an abstract state. -/
def rules (a : RuleState) : List PolicyRule :=
  (if a.home then [homeRule] else []) ++ (a.tbl.map tblRule ++ lowRules a.moved)

/-- The abstract state of a booted host. -/
def boot : RuleState := ⟨true, [], false⟩

/-- The effect of a command on the abstract state. -/
def apply (a : RuleState) : Cmd → RuleState
  | .ruleAdd r =>
    if r = homeRule then { a with home := true }
    else if r = movedRule then { a with moved := true }
    else if r.sel ∈ a.tbl then a
    else { a with tbl := a.tbl ++ [r.sel] }
  | .ruleDelPrio n =>
    if n = 0 then { a with home := false }
    else if n = 1000 then { a with moved := false }
    else a
  | .ruleDelTable _ => { a with tbl := a.tbl.tail }
  | _ => a

end RuleState

open RuleState

/-! ## Inserting and erasing -/

/-- A rule goes past rules that do not come after it. -/
theorem insertRule_append {r : PolicyRule} {as : List PolicyRule} (bs : List PolicyRule)
    (h : ∀ q ∈ as, q.prio ≤ r.prio) : insertRule r (as ++ bs) = as ++ insertRule r bs := by
  induction as with
  | nil => rfl
  | cons q as ih =>
    have hq : ¬ r.prio < q.prio := Nat.not_lt.mpr (h q List.mem_cons_self)
    have has : ∀ q' ∈ as, q'.prio ≤ r.prio := fun q' hq' => h q' (List.mem_cons_of_mem q hq')
    rw [List.cons_append, insertRule, if_neg hq, ih has, List.cons_append]

/-- A rule goes before a rule that comes after it. -/
theorem insertRule_cons {r q : PolicyRule} (qs : List PolicyRule) (h : r.prio < q.prio) :
    insertRule r (q :: qs) = r :: q :: qs := by
  rw [insertRule, if_pos h]

/-- The rules for table 100 have priority 10. -/
theorem prio_of_mem_tblRules {sels : List Selector} {q : PolicyRule}
    (h : q ∈ sels.map tblRule) : q.prio = 10 := by
  obtain ⟨sel, -, rfl⟩ := List.mem_map.mp h
  rfl

/-- The rules for table 100 look up table 100. -/
theorem table_of_mem_tblRules {sels : List Selector} {q : PolicyRule}
    (h : q ∈ sels.map tblRule) : q.table = .num 100 := by
  obtain ⟨sel, -, rfl⟩ := List.mem_map.mp h
  rfl

/-- Erasing past the rules for table 100. -/
theorem eraseP_tblRules_append (p : PolicyRule → Bool) (sels : List Selector)
    (bs : List PolicyRule) (h : ∀ sel, p (tblRule sel) = false) :
    (sels.map tblRule ++ bs).eraseP p = sels.map tblRule ++ bs.eraseP p := by
  refine List.eraseP_append_right bs fun q hq => ?_
  obtain ⟨sel, -, rfl⟩ := List.mem_map.mp hq
  simp [h sel]

/-! ## One command -/

/-- Adding the rule for table `local` back at its boot place. -/
theorem rules_ruleAdd_home (a : RuleState) :
    (if homeRule ∈ a.rules then a.rules else insertRule homeRule a.rules) =
      { a with home := true }.rules := by
  obtain ⟨home, tbl, moved⟩ := a
  cases home with
  | true => simp [rules]
  | false =>
    have hne : homeRule ∉ rules ⟨false, tbl, moved⟩ := by
      simp only [rules, Bool.false_eq_true, if_false, List.nil_append, List.mem_append, not_or]
      refine ⟨fun h => absurd (prio_of_mem_tblRules h) (by decide), ?_⟩
      cases moved <;> decide
    rw [if_neg hne]
    simp only [rules, Bool.false_eq_true, if_false, if_true, List.nil_append, List.cons_append]
    cases tbl with
    | nil => cases moved <;> exact insertRule_cons _ (by decide)
    | cons sel tbl => exact insertRule_cons _ (by decide : 0 < 10)

/-- The rules above the moved rule have smaller priorities. -/
theorem prio_high_le {home : Bool} {tbl : List Selector} {q : PolicyRule}
    (h : q ∈ (if home then [homeRule] else []) ++ tbl.map tblRule) : q.prio ≤ 10 := by
  rcases List.mem_append.mp h with h | h
  · cases home with
    | true =>
      rw [if_pos rfl, List.mem_singleton] at h
      rw [h]
      decide
    | false => cases h
  · rw [prio_of_mem_tblRules h]

/-- Adding the moved rule for table `local`. -/
theorem rules_ruleAdd_moved (a : RuleState) :
    (if movedRule ∈ a.rules then a.rules else insertRule movedRule a.rules) =
      { a with moved := true }.rules := by
  obtain ⟨home, tbl, moved⟩ := a
  cases moved with
  | true => simp [rules, lowRules]
  | false =>
    have hhigh : ∀ q ∈ (if home then [homeRule] else []) ++ tbl.map tblRule,
        q.prio ≤ movedRule.prio := fun q hq => Nat.le_trans (prio_high_le hq) (by decide)
    have hlow : movedRule ∉ lowRules false := by decide
    have hne : movedRule ∉ rules ⟨home, tbl, false⟩ := by
      rw [rules, ← List.append_assoc]
      intro h
      rcases List.mem_append.mp h with h | h
      · exact absurd (prio_high_le h) (by decide)
      · exact hlow h
    rw [if_neg hne, rules, rules, ← List.append_assoc, ← List.append_assoc,
      insertRule_append _ hhigh]
    rfl

/-- Adding a rule for table 100. -/
theorem rules_ruleAdd_tbl (a : RuleState) (sel : Selector) :
    (if tblRule sel ∈ a.rules then a.rules else insertRule (tblRule sel) a.rules) =
      (if sel ∈ a.tbl then a else { a with tbl := a.tbl ++ [sel] }).rules := by
  obtain ⟨home, tbl, moved⟩ := a
  have hmem : tblRule sel ∈ rules ⟨home, tbl, moved⟩ ↔ sel ∈ tbl := by
    cases home <;> cases moved <;>
      simp [rules, lowRules, tblRule, homeRule, movedRule, mainRule, defaultRule]
  by_cases h : sel ∈ tbl
  · rw [if_pos (hmem.mpr h), if_pos h]
  · rw [if_neg fun h' => h (hmem.mp h'), if_neg h]
    have hhigh : ∀ q ∈ (if home then [homeRule] else []) ++ tbl.map tblRule,
        q.prio ≤ (tblRule sel).prio := fun q hq => prio_high_le hq
    have hlow : insertRule (tblRule sel) (lowRules moved) = tblRule sel :: lowRules moved := by
      cases moved with
      | true => exact insertRule_cons _ (by decide : 10 < 1000)
      | false => exact insertRule_cons _ (by decide : 10 < 32766)
    rw [rules, rules, ← List.append_assoc, insertRule_append _ hhigh, hlow]
    simp

/-- Deleting at priority 0. -/
theorem rules_ruleDelPrio_zero (a : RuleState) :
    a.rules.eraseP (·.prio == 0) = { a with home := false }.rules := by
  obtain ⟨home, tbl, moved⟩ := a
  have hlow : (lowRules moved).eraseP (·.prio == 0) = lowRules moved := by
    cases moved <;> rfl
  have htbl := eraseP_tblRules_append (·.prio == 0) tbl (lowRules moved) fun _ => rfl
  cases home with
  | true => rfl
  | false => exact htbl.trans (congrArg (tbl.map tblRule ++ ·) hlow)

/-- Deleting at a priority no rule above the moved rule has. -/
theorem rules_eraseP_low (a : RuleState) {n : ℕ} (h0 : n ≠ 0) (h10 : n ≠ 10) :
    a.rules.eraseP (·.prio == n) =
      (if a.home then [homeRule] else []) ++
        (a.tbl.map tblRule ++ (lowRules a.moved).eraseP (·.prio == n)) := by
  have hhome : ∀ q ∈ (if a.home then [homeRule] else []), ¬ (q.prio == n) = true := by
    intro q hq hp
    cases hh : a.home with
    | true =>
      rw [hh, if_pos rfl, List.mem_singleton] at hq
      rw [hq] at hp
      exact h0 (beq_iff_eq.mp hp).symm
    | false =>
      rw [hh] at hq
      cases hq
  have htbl : ∀ sel, ((tblRule sel).prio == n) = false := fun sel =>
    beq_eq_false_iff_ne.mpr fun h => h10 h.symm
  rw [rules, List.eraseP_append_right _ hhome, eraseP_tblRules_append _ _ _ htbl]

/-- No rule from the moved rule on has priority 100. -/
theorem lowRules_eraseP_hundred (moved : Bool) :
    (lowRules moved).eraseP (·.prio == 100) = lowRules moved := by
  cases moved <;> rfl

/-- The moved rule is the one at priority 1000. -/
theorem lowRules_eraseP_thousand (moved : Bool) :
    (lowRules moved).eraseP (·.prio == 1000) = lowRules false := by
  cases moved <;> rfl

/-- Deleting the first rule for table 100. -/
theorem rules_ruleDelTable (a : RuleState) :
    a.rules.eraseP (·.table == .num 100) = { a with tbl := a.tbl.tail }.rules := by
  obtain ⟨home, tbl, moved⟩ := a
  have hhome : ∀ q ∈ (if home then [homeRule] else []),
      ¬ (q.table == RouteTable.num 100) = true := by
    cases home <;> decide
  have hrest : (tbl.map tblRule ++ lowRules moved).eraseP (·.table == .num 100) =
      tbl.tail.map tblRule ++ lowRules moved := by
    cases tbl with
    | nil => cases moved <;> decide
    | cons sel tbl => rfl
  show ((if home then [homeRule] else []) ++ _).eraseP _ = _
  rw [List.eraseP_append_right _ hhome, hrest]
  rfl

/-- **The step lemma**: a command of the lab keeps the host's policy rules in the shape of
the abstract state.

**Proof sketch.** Each kind of rule that is added and each place a rule is deleted from has
its own lemma above; the other commands leave the rules as they are. -/
theorem rules_apply {a : RuleState} {s : Host} {c : Cmd} (hc : c.Lab) (h : s.rules = a.rules) :
    (apply s c).rules = (a.apply c).rules := by
  cases c with
  | ruleAdd r =>
    rw [apply_ruleAdd]
    show (if r ∈ s.rules then s.rules else insertRule r s.rules) = _
    rw [h]
    rcases hc with rfl | rfl | ⟨hprio, htable⟩
    · exact rules_ruleAdd_home a
    · exact rules_ruleAdd_moved a
    · have hr : r = tblRule r.sel := by
        obtain ⟨prio, sel, table⟩ := r
        rw [tblRule, ← hprio, ← htable]
      have hhome : r ≠ homeRule := by
        rintro rfl
        cases hprio
      have hmoved : r ≠ movedRule := by
        rintro rfl
        cases hprio
      rw [RuleState.apply, if_neg hhome, if_neg hmoved]
      conv_lhs => rw [hr]
      exact rules_ruleAdd_tbl a r.sel
  | ruleDelPrio n =>
    rw [apply_ruleDelPrio]
    show s.rules.eraseP _ = _
    rw [h]
    rcases hc with rfl | rfl | rfl
    · exact rules_ruleDelPrio_zero a
    · rw [rules_eraseP_low a (by decide) (by decide), lowRules_eraseP_hundred]
      rfl
    · rw [rules_eraseP_low a (by decide) (by decide), lowRules_eraseP_thousand]
      rfl
  | ruleDelTable t =>
    rw [apply_ruleDelTable]
    show s.rules.eraseP _ = _
    rw [h, hc]
    exact rules_ruleDelTable a
  | echo v f key =>
    rw [apply_echo]
    exact h
  | linkAddVeth =>
    simp only [apply, Script.apply, exec]
    split_ifs <;> exact h
  | linkDelVeth =>
    simp only [apply, Script.apply, exec]
    split_ifs <;> exact h
  | routeAdd r =>
    simp only [apply, Script.apply, exec]
    split_ifs <;> exact h
  | linkSetLo up => exact h
  | iptablesFlush t => exact h
  | iptablesInsert t hook rule => exact h
  | iptablesAppend t hook rule => exact h
  | other line => exact h

/-- **The policy rules follow the abstract state** through any commands of the lab. -/
theorem rules_runAll {a : RuleState} {s : Host} {cmds : List Cmd} (hlab : ∀ c ∈ cmds, c.Lab)
    (h : s.rules = a.rules) :
    (Script.runAll exec s cmds).rules = (cmds.foldl RuleState.apply a).rules :=
  Script.runAll_simulates (R := fun (a : RuleState) s => s.rules = a.rules) exec
    (fun c hc _ _ h => rules_apply (hlab c hc) h) h

/-- The policy rules of a booted host. -/
theorem rules_boot : RuleState.boot.rules = bootRules := rfl

/-- A rule for table `local` is left iff it is at its boot place or was moved. -/
theorem hasLocal_rules_iff (a : RuleState) :
    HasLocal a.rules ↔ a.home = true ∨ a.moved = true := by
  obtain ⟨home, tbl, moved⟩ := a
  constructor
  · rintro ⟨r, hr, hsel, htable⟩
    have hlow : ¬ HasLocal (lowRules false) := by decide
    cases home with
    | true => exact Or.inl rfl
    | false =>
      cases moved with
      | true => exact Or.inr rfl
      | false =>
        rcases List.mem_append.mp hr with hr | hr
        · cases hr
        · rcases List.mem_append.mp hr with hr | hr
          · rw [table_of_mem_tblRules hr] at htable
            cases htable
          · exact absurd ⟨r, hr, hsel, htable⟩ hlow
  · rintro (rfl | rfl)
    · exact ⟨homeRule, List.mem_append_left _ List.mem_cons_self, rfl, rfl⟩
    · refine ⟨movedRule, ?_, rfl, rfl⟩
      exact List.mem_append_right _ (List.mem_append_right _ List.mem_cons_self)

end PythonForFun.Arp
