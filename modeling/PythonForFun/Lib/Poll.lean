import Mathlib.Logic.Basic
import Mathlib.Data.Nat.Notation
import Mathlib.Tactic.Common

set_option relaxedAutoImplicit false
set_option autoImplicit false

/-!
# Bounded polling

A waiter asks a question again and again, at most `budget` times. Each answer says that the
wait is over, that it goes on, or that asking itself failed. The answers are numbered over a
whole run, so a wait starts at some number `k` and its outcome comes with the number of the
next question.

## Main definitions

* `Poll.wait` — the waiter.
* `Poll.Reaches` — the waiter gets from question `k` to question `j`.

## Main results

* `Poll.wait_eq_ok_iff` — when a wait returns, and after how many questions.
-/

namespace Poll

variable {ε : Type}

/-- Ask at most `budget` times, starting with question `k`. -/
def wait (timeout : ε) (answer : ℕ → Except ε Bool) : (budget k : ℕ) → Except ε Unit × ℕ
  | 0, k => (.error timeout, k)
  | budget + 1, k =>
    match answer k with
    | .ok true => (.ok (), k + 1)
    | .ok false => wait timeout answer budget (k + 1)
    | .error e => (.error e, k + 1)

/-- Every question from `k` on and before `j` is answered by going on. -/
def Reaches (answer : ℕ → Except ε Bool) (k j : ℕ) : Prop :=
  k ≤ j ∧ ∀ i, k ≤ i → i < j → answer i = .ok false

/-- A wait reaches the question it starts with. -/
theorem reaches_self (answer : ℕ → Except ε Bool) (k : ℕ) : Reaches answer k k :=
  ⟨Nat.le_refl k, fun _ hki hik => absurd hik (Nat.not_lt.mpr hki)⟩

/-- Reaching a question, in terms of what an answer of going on stands for. -/
theorem reaches_iff {answer : ℕ → Except ε Bool} {P : ℕ → Prop}
    (h : ∀ i, answer i = .ok false ↔ P i) {k j : ℕ} :
    Reaches answer k j ↔ k ≤ j ∧ ∀ i, k ≤ i → i < j → P i := by
  have hbefore : (∀ i, k ≤ i → i < j → answer i = .ok false) ↔ ∀ i, k ≤ i → i < j → P i :=
    forall_congr' fun i => imp_congr_right fun _ => imp_congr_right fun _ => h i
  exact and_congr_right fun _ => hbefore

/-- Going on once. -/
theorem reaches_of_succ {answer : ℕ → Except ε Bool} {k j : ℕ} (hk : answer k = .ok false)
    (h : Reaches answer (k + 1) j) : Reaches answer k j := by
  refine ⟨Nat.le_of_succ_le h.1, fun i hki hij => ?_⟩
  rcases Nat.eq_or_lt_of_le hki with rfl | hlt
  · exact hk
  · exact h.2 i hlt hij

/-- Whoever gets further went on once. -/
theorem Reaches.succ {answer : ℕ → Except ε Bool} {k j : ℕ} (h : Reaches answer k j)
    (hne : j ≠ k) : answer k = .ok false ∧ Reaches answer (k + 1) j := by
  have hlt : k < j := Nat.lt_of_le_of_ne h.1 fun he => hne he.symm
  refine ⟨h.2 k (Nat.le_refl k) hlt, hlt, fun i hki hij => ?_⟩
  exact h.2 i (by omega) hij

/-- The questions of a wait are asked one after another. -/
theorem le_wait (timeout : ε) (answer : ℕ → Except ε Bool) (budget k : ℕ) :
    k ≤ (wait timeout answer budget k).2 := by
  induction budget generalizing k with
  | zero => exact Nat.le_refl k
  | succ budget ih =>
    unfold wait
    split
    · exact Nat.le_succ k
    · exact Nat.le_trans (Nat.le_succ k) (ih (k + 1))
    · exact Nat.le_succ k

/-- **When a wait returns**: at the first answer that does not ask to go on, if that answer
says the wait is over and is within the budget.

**Proof sketch.** Induction on the budget, by cases on the first answer. -/
theorem wait_eq_ok_iff {timeout : ε} {answer : ℕ → Except ε Bool} {budget k m : ℕ} :
    wait timeout answer budget k = (.ok (), m) ↔
      ∃ j, j < k + budget ∧ Reaches answer k j ∧ answer j = .ok true ∧ m = j + 1 := by
  induction budget generalizing k with
  | zero =>
    constructor
    · intro h
      cases congrArg Prod.fst h
    · rintro ⟨j, hlt, hreach, -, -⟩
      exact absurd hreach.1 (Nat.not_le.mpr hlt)
  | succ budget ih =>
    have hstop : answer k ≠ .ok false →
        ((∃ j, j < k + (budget + 1) ∧ Reaches answer k j ∧ answer j = .ok true ∧ m = j + 1) ↔
          answer k = .ok true ∧ m = k + 1) := by
      intro hk
      constructor
      · rintro ⟨j, -, hreach, hj, hm⟩
        by_cases hjk : j = k
        · rw [hjk] at hj hm
          exact ⟨hj, hm⟩
        · exact absurd (hreach.succ hjk).1 hk
      · rintro ⟨hk', hm⟩
        exact ⟨k, by omega, reaches_self answer k, hk', hm⟩
    cases hk : answer k with
    | error e =>
      rw [hstop (by simp [hk])]
      simp [wait, hk]
    | ok b =>
      cases b with
      | true =>
        rw [hstop (by simp [hk])]
        simp [wait, hk, eq_comm]
      | false =>
        have hwait : wait timeout answer (budget + 1) k = wait timeout answer budget (k + 1) := by
          simp [wait, hk]
        rw [hwait, ih]
        constructor
        · rintro ⟨j, hlt, hreach, hj, hm⟩
          exact ⟨j, by omega, reaches_of_succ hk hreach, hj, hm⟩
        · rintro ⟨j, hlt, hreach, hj, hm⟩
          have hjk : j ≠ k := by
            rintro rfl
            rw [hk] at hj
            cases hj
          exact ⟨j, by omega, (hreach.succ hjk).2, hj, hm⟩

end Poll
