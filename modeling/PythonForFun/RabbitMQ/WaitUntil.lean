import Mathlib.Data.Nat.Find
import PythonForFun.MongoDB.Utils

set_option relaxedAutoImplicit false
set_option autoImplicit false

/-!
# The two copies of the waiter

`wait_until` of the MongoDB helpers and `_wait_until` of the RabbitMQ cluster tests are copies
of one loop. It runs while `tries >= 0`, so it makes one call more than `tries` says. The copies
differ in how they fail: one raises an `Exception` with the last value, the other is to fail the
test with it, but the text it prints names a variable that does not exist.

## Main definitions

* `RabbitMQ.waitUntil` — `_wait_until`.
* `RabbitMQ.HonoursBudget` — what a waiter with a budget of `tries` calls owes its caller.

## Main results

* `RabbitMQ.waitUntil_eq` — the copies make the same calls, and return or fail together.
* `RabbitMQ.waitUntil_honoursBudget_iff` — they honour the budget iff one of the first `tries`
  values is the expected one.
-/

namespace PythonForFun.RabbitMQ

variable {α : Type} [DecidableEq α]

/-- `_wait_until(func, expect, desc, delay, tries)`, where `func` answers `func k` at its `k`-th
call; the result comes with the number of calls made. -/
def waitUntil (func : ℕ → α) (expect : α) : (tries k : ℕ) → Except PyErr Unit × ℕ
  | tries, k =>
    if func k = expect then (.ok (), k + 1)
    else match tries with
      -- the text for `self.fail` reads `expected`; the parameter is called `expect`
      | 0 => (.error (.nameError "expected"), k + 1)
      | tries + 1 => waitUntil func expect tries (k + 1)

/-- The text a waiter fails with when `actual` was the last value it saw. -/
def waitFailure (str : α → String) (expect : α) (desc : String) (actual : α) : String :=
  s!"actual[{str actual}] != expected[{str expect}] ({desc})"

/-- **The exhausted budget**: if none of the `tries + 1` calls answers the expected value, all of
them are made, and the failure carries the last one.

**Proof sketch.** Induction on `tries`, for an arbitrary number of calls before. -/
theorem waitUntil_eq_error (str : α → String) (func : ℕ → α) (expect : α) (desc : String)
    {tries k : ℕ} (hno : ∀ i ≤ tries, func (k + i) ≠ expect) :
    MongoDB.waitUntil str func expect desc tries k =
        (.error (.exception (waitFailure str expect desc (func (k + tries)))), k + tries + 1) := by
  induction tries generalizing k with
  | zero =>
    have hk : func k ≠ expect := hno 0 (Nat.le_refl 0)
    rw [MongoDB.waitUntil, if_neg hk]
    rfl
  | succ tries ih =>
    have hk : func k ≠ expect := hno 0 (Nat.zero_le _)
    have hrest : ∀ i ≤ tries, func (k + 1 + i) ≠ expect := by
      intro i hi
      have := hno (i + 1) (by omega)
      rwa [show k + (i + 1) = k + 1 + i by omega] at this
    rw [MongoDB.waitUntil, if_neg hk, ih hrest, show k + 1 + tries = k + (tries + 1) by omega]

/-- **The copies make the same calls**, and on the same values they return or fail together.

**Proof sketch.** Induction on `tries`. -/
theorem waitUntil_eq (str : α → String) (func : ℕ → α) (expect : α) (desc : String)
    (tries k : ℕ) :
    waitUntil func expect tries k =
      ((MongoDB.waitUntil str func expect desc tries k).1.mapError
          fun _ => .nameError "expected",
        (MongoDB.waitUntil str func expect desc tries k).2) := by
  induction tries generalizing k with
  | zero =>
    rw [waitUntil, MongoDB.waitUntil]
    by_cases hk : func k = expect
    · rw [if_pos hk, if_pos hk]
      rfl
    · rw [if_neg hk, if_neg hk]
      rfl
  | succ tries ih =>
    rw [waitUntil, MongoDB.waitUntil]
    by_cases hk : func k = expect
    · rw [if_pos hk, if_pos hk]
      rfl
    · rw [if_neg hk, if_neg hk]
      exact ih (k + 1)

/-! ## The budget -/

/-- What a waiter with a budget of `tries` calls owes its caller, when it ended in `outcome`: it
calls `func` at most `tries` times, it returns iff one of the first `tries` values is the
expected one, it makes no call after the first such value, and otherwise it fails with the last
value it saw. -/
structure HonoursBudget (func : ℕ → α) (expect : α) (tries : ℕ) (failure : α → PyErr)
    (outcome : Except PyErr Unit × ℕ) : Prop where
  calls_le : outcome.2 ≤ tries
  returns_iff : outcome.1 = .ok () ↔ ∃ i < tries, func i = expect
  stops : outcome.1 = .ok () → ∃ j, outcome.2 = j + 1 ∧ func j = expect ∧ ∀ i < j, func i ≠ expect
  fails : outcome.1 ≠ .ok () →
    ∃ j, outcome.2 = j + 1 ∧ outcome.1 = .error (failure (func j))

/-- If none of the first `tries` values is the expected one, one call more is made, whatever it
answers. -/
theorem calls_waitUntil (str : α → String) (func : ℕ → α) (expect : α) (desc : String)
    {tries : ℕ} (hno : ∀ i < tries, func i ≠ expect) :
    (MongoDB.waitUntil str func expect desc tries 0).2 = tries + 1 := by
  by_cases hlast : func tries = expect
  · have hreturn : MongoDB.waitUntil str func expect desc tries 0 = (.ok (), tries + 1) :=
      (MongoDB.waitUntil_eq_ok_iff _ _ _ _ _ _ _).mpr ⟨tries, Nat.le_refl _,
        fun i hi => by simpa using hno i hi, by simpa using hlast, by omega⟩
    rw [hreturn]
  · have hnone : ∀ i ≤ tries, func (0 + i) ≠ expect := by
      intro i hi
      rw [Nat.zero_add]
      rcases Nat.lt_or_eq_of_le hi with hlt | rfl
      · exact hno i hlt
      · exact hlast
    rw [waitUntil_eq_error str func expect desc hnone]
    omega

/-- Whatever it fails with, a waiter that makes the calls of `wait_until` and returns when that
does honours the budget iff one of the first `tries` values is the expected one. -/
theorem honoursBudget_iff (str : α → String) (func : ℕ → α) (expect : α) (desc : String)
    (tries : ℕ) {failure : α → PyErr} {outcome : Except PyErr Unit × ℕ}
    (hok : outcome.1 = .ok () ↔
      (MongoDB.waitUntil str func expect desc tries 0).1 = .ok ())
    (hcalls : outcome.2 = (MongoDB.waitUntil str func expect desc tries 0).2) :
    HonoursBudget func expect tries failure outcome ↔ ∃ i < tries, func i = expect := by
  constructor
  · intro h
    by_contra hno
    have hcalls' := calls_waitUntil str func expect desc fun i hi hfunc => hno ⟨i, hi, hfunc⟩
    have hle := h.calls_le
    omega
  · intro hex
    -- the first of the expected values ends the wait
    obtain ⟨j, ⟨hj, hfunc⟩, hfirst⟩ : ∃ j, (j < tries ∧ func j = expect) ∧
        ∀ i < j, func i ≠ expect := by
      refine ⟨Nat.find hex, Nat.find_spec hex, fun i hi hfunc => ?_⟩
      exact Nat.find_min hex hi ⟨Nat.lt_trans hi (Nat.find_spec hex).1, hfunc⟩
    have hreturn : MongoDB.waitUntil str func expect desc tries 0 = (.ok (), j + 1) :=
      (MongoDB.waitUntil_eq_ok_iff _ _ _ _ _ _ _).mpr ⟨j, Nat.le_of_lt hj,
        fun i hi => by simpa using hfirst i hi, by simpa using hfunc, by omega⟩
    rw [hreturn] at hok hcalls
    have hok' : outcome.1 = .ok () := hok.mpr rfl
    refine ⟨by rw [hcalls]; exact hj, ⟨fun _ => hex, fun _ => hok'⟩,
      fun _ => ⟨j, hcalls, hfunc, hfirst⟩, fun hne => absurd hok' hne⟩

/-- **The waiters honour their budget exactly when one of the first `tries` values is the
expected one**: otherwise they make one call too many. On the same values both copies return
or fail together, after the same number of calls. When all `tries + 1` values are others, one
fails with the last value, the other with a `NameError`. -/
theorem waitUntil_honoursBudget_iff (str : α → String) (func : ℕ → α) (expect : α)
    (desc : String) (tries : ℕ) :
    (HonoursBudget func expect tries (fun a => .exception (waitFailure str expect desc a))
        (MongoDB.waitUntil str func expect desc tries 0) ↔ ∃ i < tries, func i = expect) ∧
      (HonoursBudget func expect tries (fun a => .testFailure (waitFailure str expect desc a))
        (waitUntil func expect tries 0) ↔ ∃ i < tries, func i = expect) ∧
      ((MongoDB.waitUntil str func expect desc tries 0).1 = .ok () ↔
        (waitUntil func expect tries 0).1 = .ok ()) ∧
      (MongoDB.waitUntil str func expect desc tries 0).2 = (waitUntil func expect tries 0).2 ∧
      ((∀ i ≤ tries, func i ≠ expect) →
        MongoDB.waitUntil str func expect desc tries 0 =
            (.error (.exception (waitFailure str expect desc (func tries))), tries + 1) ∧
          waitUntil func expect tries 0 = (.error (.nameError "expected"), tries + 1)) := by
  have hsame : (waitUntil func expect tries 0).1 = .ok () ↔
      (MongoDB.waitUntil str func expect desc tries 0).1 = .ok () := by
    rw [waitUntil_eq str func expect desc]
    cases (MongoDB.waitUntil str func expect desc tries 0).1 with
    | ok u => exact ⟨fun _ => rfl, fun _ => rfl⟩
    | error e => exact ⟨nofun, nofun⟩
  have hcalls : (waitUntil func expect tries 0).2 =
      (MongoDB.waitUntil str func expect desc tries 0).2 := by
    rw [waitUntil_eq str func expect desc]
  refine ⟨honoursBudget_iff str func expect desc tries Iff.rfl rfl,
    honoursBudget_iff str func expect desc tries hsame hcalls, hsame.symm, hcalls.symm,
    fun hno => ?_⟩
  have hno' : ∀ i ≤ tries, func (0 + i) ≠ expect := by
    intro i hi
    rw [Nat.zero_add]
    exact hno i hi
  have herror := waitUntil_eq_error str func expect desc hno'
  rw [Nat.zero_add] at herror
  refine ⟨herror, ?_⟩
  rw [waitUntil_eq str func expect desc, herror]
  rfl

/-- **One call too many, and a text that cannot be printed**: with `tries = 10`, a value that is
the expected one from the eleventh call on makes both waiters return, after eleven calls; and
one that never is makes the copy raise a `NameError`. -/
theorem waitUntil_eleventh_call :
    MongoDB.waitUntil MongoDB.strBool (fun k => decide (10 ≤ k)) true "None" 10 0 =
        (.ok (), 11) ∧
      waitUntil (fun k => decide (10 ≤ k)) true 10 0 = (.ok (), 11) ∧
      (∀ failure, ¬ HonoursBudget (fun k => decide (10 ≤ k)) true 10 failure (.ok (), 11)) ∧
      waitUntil (fun _ => false) true 10 0 = (.error (.nameError "expected"), 11) := by
  refine ⟨rfl, rfl, fun failure h => ?_, rfl⟩
  have hle : 11 ≤ 10 := h.calls_le
  omega

end PythonForFun.RabbitMQ
