import Mathlib.Data.Nat.Notation
import Mathlib.Logic.Function.Iterate
import PythonForFun.Lib.Prog

set_option relaxedAutoImplicit false
set_option autoImplicit false

/-!
# Waiters that count their tries

A waiter asks a question of the world; an answer ends the wait, and without one the waiter
pauses and starts over with `tries + 1`. Once `tries` exceeds a limit it does something else
once: it raises, or asks a last time. Whether the waiter is written as a recursion or as a
loop, and whether the limit is tested before or after the question, is a matter of which steps
it is shown to make.

## Main definitions

* `Retry.Question` — what asking finds, and what asking and pausing do to the world.
* `Retry.Steps` — the steps of a waiter with a counter.
* `Retry.FirstAt` — the first answer of a sequence.

## Main results

* `Retry.Steps.wait_eq_of_found` — a waiter that gets an answer in time returns it.
* `Retry.Steps.wait_eq_last` — a waiter that gets none comes to its last step.
-/

namespace Retry

variable {ε σ β : Type}

/-- A question of the world: the answer it finds, if any, the world after asking, and the world
after a pause. -/
structure Question (σ β : Type) where
  found : σ → Option β
  polled : σ → σ
  paused : σ → σ

/-- The world after a round without an answer. -/
def Question.round (q : Question σ β) (s : σ) : σ := q.paused (q.polled s)

/-- The steps of a waiter that asks `q` while its counter is at most `limit`, and does `last`
when it exceeds it. -/
structure Steps (wait : ℕ → Prog ε σ β) (limit : ℕ) (q : Question σ β) (last : Prog ε σ β) :
    Prop where
  exhausted : ∀ tries s, limit < tries → wait tries s = last s
  done : ∀ tries s b, tries ≤ limit → q.found s = some b → wait tries s = (.ok b, q.polled s)
  again : ∀ tries s, tries ≤ limit → q.found s = none →
    wait tries s = wait (tries + 1) (q.round s)

section Steps

variable {wait : ℕ → Prog ε σ β} {limit : ℕ} {q : Question σ β} {last : Prog ε σ β}
  {tries : ℕ} {s : σ}

/-- Rounds without an answer only move the counter and the world. -/
theorem Steps.wait_eq_wait_add (h : Steps wait limit q last) {j : ℕ}
    (hj : tries + j ≤ limit + 1) (hnone : ∀ i < j, q.found (q.round^[i] s) = none) :
    wait tries s = wait (tries + j) (q.round^[j] s) := by
  induction j with
  | zero => rfl
  | succ j ih =>
    have hagain := h.again (tries + j) (q.round^[j] s) (by omega) (hnone j (by omega))
    rw [ih (by omega) fun i hi => hnone i (by omega), hagain, Function.iterate_succ_apply']
    rfl

/-- **A waiter that gets an answer in time returns it**, after the rounds before it. -/
theorem Steps.wait_eq_of_found (h : Steps wait limit q last) {j : ℕ} {b : β}
    (hj : tries + j ≤ limit) (hnone : ∀ i < j, q.found (q.round^[i] s) = none)
    (hfound : q.found (q.round^[j] s) = some b) :
    wait tries s = (.ok b, q.polled (q.round^[j] s)) := by
  rw [h.wait_eq_wait_add (by omega) hnone]
  exact h.done (tries + j) _ b hj hfound

/-- **A waiter that gets no answer comes to its last step**, after all its rounds. -/
theorem Steps.wait_eq_last (h : Steps wait limit q last)
    (hnone : ∀ i < limit + 1 - tries, q.found (q.round^[i] s) = none) :
    wait tries s = last (q.round^[limit + 1 - tries] s) := by
  by_cases hle : tries ≤ limit
  · rw [h.wait_eq_wait_add (by omega) hnone]
    exact h.exhausted _ _ (by omega)
  · have hzero : limit + 1 - tries = 0 := by omega
    rw [hzero]
    exact h.exhausted tries s (by omega)

end Steps

/-! ## The first answer -/

/-- The first answer of a sequence is `b`, at `j`. -/
def FirstAt (found : ℕ → Option β) (j : ℕ) (b : β) : Prop :=
  found j = some b ∧ ∀ i < j, found i = none

/-- A sequence without a first answer before `budget` has no answer before it. -/
theorem eq_none_of_firstAt_ge {found : ℕ → Option β} {budget : ℕ}
    (h : ∀ j b, FirstAt found j b → budget ≤ j) : ∀ i < budget, found i = none := by
  intro i
  induction i using Nat.strongRecOn with
  | ind i ih =>
    intro hi
    cases hfound : found i with
    | none => rfl
    | some b =>
      have hfirst : FirstAt found i b := ⟨hfound, fun i' hi' => ih i' hi' (by omega)⟩
      have hge := h i b hfirst
      omega

/-- A sequence with an answer before `budget` has a first one before it. -/
theorem exists_firstAt_lt {found : ℕ → Option β} {budget i : ℕ} {b : β} (hi : i < budget)
    (hfound : found i = some b) : ∃ j b', FirstAt found j b' ∧ j < budget := by
  by_contra hno
  have hge : ∀ j b', FirstAt found j b' → budget ≤ j := by
    intro j b' hfirst
    by_contra hlt
    exact hno ⟨j, b', hfirst, by omega⟩
  rw [eq_none_of_firstAt_ge hge i hi] at hfound
  cases hfound

end Retry
