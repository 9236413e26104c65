import PythonForFun.K8s.Session

set_option relaxedAutoImplicit false
set_option autoImplicit false

/-!
# Waiting for a number of replicas

`ensure_replicas` of `k8s/k8s_utils.py` reads one number through a `jsonpath` and compares it
with the number it waits for. Unlike the other waiters it tests the limit after the poll, and it
skips a poll that prints nothing, which is what a count of 0 prints.

## Main definitions

* `K8s.Timed.ensureReplicas` — the waiter.
* `K8s.printed` — what the call prints for a number of ready replicas.
* `K8s.HonoursBudget` — the waiter returns iff one of the first 60 counts is the number, and
  raises after 60 polls otherwise.

## Main results

* `K8s.ensureReplicas_run` — the waiter polls 61 times, and never accepts 0.
* `K8s.ensureReplicas_honoursBudget_iff` — it honours the budget iff it waits for a number other
  than 0 that one of the first 60 counts is.
-/

namespace PythonForFun.K8s

/-- `stdout and int(stdout) == ready_replicas`, of the text the call prints: an empty one is not
read as a number. -/
def hasReplicas (kubectl : ℕ → Outcome String) (cmd : Kubectl) (readyReplicas : ℤ) :
    Prog PyErr Issued Bool := do
  let stdout ← runText kubectl cmd
  if stdout = "" then pure false
  else
    let ready ← Prog.ofExcept (pyInt stdout)
    pure (ready == readyReplicas)

/-- `ensure_replicas(name, ready_replicas, type_, ns, tries)`. -/
def Timed.ensureReplicas (kubectl : ℕ → Outcome String) (name : String) (readyReplicas : ℤ)
    (type_ : String := "deploy") (ns : String := "default") (tries : ℕ := 1) :
    Prog PyErr Session Unit := do
  if ← awake (hasReplicas kubectl (.getReadyReplicas type_ name ns) readyReplicas) then pure ()
  else if tries > 60 then
    Prog.raise
      (.exception s!"Exceed max tries to ensure {type_} {name}'s replicas: {readyReplicas}")
  else
    sleep 10
    Timed.ensureReplicas kubectl name readyReplicas type_ ns (tries + 1)
termination_by 61 - tries

/-! ## The counts and their texts -/

/-- What the call prints for a workload with `ready` ready replicas: the API server omits a count
of 0, and the `jsonpath` of an omitted field prints nothing. -/
def printed (ready : ℕ) : Outcome String :=
  ⟨if ready = 0 then none else some (toString ready), 0⟩

/-- A count ends the wait for `n`. -/
def countFound (n ready : ℕ) : Option Unit := if ready ≠ 0 ∧ ready = n then some () else none

theorem countFound_eq_some_iff {n ready : ℕ} {u : Unit} :
    countFound n ready = some u ↔ ready ≠ 0 ∧ ready = n := by
  simp [countFound]

theorem countFound_eq_none_iff {n ready : ℕ} :
    countFound n ready = none ↔ ready = 0 ∨ ready ≠ n := by
  rw [countFound, ite_eq_right_iff]
  simp only [reduceCtorEq, imp_false, not_and_or, not_not]

/-- The text of a number is not empty. -/
theorem toString_ne_empty (n : ℕ) : toString n ≠ "" := by
  intro h
  have hlist := congrArg String.toList h
  rw [Nat.toString_eq_ofList_toDigits, String.toList_ofList] at hlist
  exact Nat.toDigits_ne_nil hlist

/-- **One poll on the true counts**: it ends the wait on a count that is the number and not 0. -/
theorem hasReplicas_apply (count : ℕ → ℕ) (cmd : Kubectl) (n : ℕ) (issued : Issued) :
    hasReplicas (fun k => printed (count k)) cmd n issued =
      (.ok (countFound n (count issued.length)).isSome, issued ++ [cmd]) := by
  rw [hasReplicas, Prog.bind_apply, runText_apply]
  by_cases hzero : count issued.length = 0
  · simp [printed, countFound, hzero]
  · have hne := toString_ne_empty (count issued.length)
    simp only [printed, hzero, if_false, Option.getD_some, hne]
    rw [pyInt_toString, Prog.ofExcept_ok, pure_bind, Prog.pure_apply]
    by_cases heq : count issued.length = n
    · have hsome : countFound n (count issued.length) = some () :=
        countFound_eq_some_iff.mpr ⟨hzero, heq⟩
      rw [hsome, heq, beq_self_eq_true]
      rfl
    · have hint : ((count issued.length : ℤ) == (n : ℤ)) = false :=
        beq_eq_false_iff_ne.mpr fun h => heq (Int.ofNat.inj h)
      rw [countFound_eq_none_iff.mpr (Or.inr heq), hint]
      rfl

/-! ## The run of the waiter -/

section Run

variable (count : ℕ → ℕ) (name type_ ns : String) (n : ℕ)

/-- The exception the waiter raises. -/
def replicasTimeout : PyErr :=
  .exception s!"Exceed max tries to ensure {type_} {name}'s replicas: {(n : ℤ)}"

/-- The last poll: the limit is tested after it. -/
def lastPoll : Prog PyErr Session Unit := fun s =>
  (if countFound n (count s.issued.length) = none then .error (replicasTimeout name type_ n)
    else .ok (),
    { s with issued := s.issued ++ [.getReadyReplicas type_ name ns] })

/-- The waiter makes the steps of a retry that ends with one more poll. -/
theorem ensureReplicas_steps :
    Retry.Steps
      (fun tries => Timed.ensureReplicas (fun k => printed (count k)) name n type_ ns tries) 60
      (question (fun k => countFound n (count k)) (.getReadyReplicas type_ name ns) 10)
      (lastPoll count name type_ ns n) where
  exhausted tries s hgt := by
    rw [Timed.ensureReplicas, Prog.bind_apply, awake_apply, hasReplicas_apply, lastPoll]
    cases hfound : countFound n (count s.issued.length) with
    | none => simp [hgt, replicasTimeout]
    | some u => simp
  done tries s u hle hfound := by
    have hsome : countFound n (count s.issued.length) = some u := hfound
    rw [Timed.ensureReplicas, Prog.bind_apply, awake_apply, hasReplicas_apply, hsome]
    rfl
  again tries s hle hfound := by
    have hnone : countFound n (count s.issued.length) = none := hfound
    rw [Timed.ensureReplicas, Prog.bind_apply, awake_apply, hasReplicas_apply, hnone]
    simp only [Option.isSome_none, Bool.false_eq_true, if_false, if_neg (Nat.not_lt.mpr hle)]
    rfl

/-- **The run of the waiter**: it returns at the first of 60 counts that ends the wait; if there
is none it polls a 61st time, and returns or raises by that. -/
theorem ensureReplicas_run (s : Session) :
    (∀ j u, Retry.FirstAt (fun i => countFound n (count (s.issued.length + i))) j u → j < 60 →
      Timed.ensureReplicas (fun k => printed (count k)) name n type_ ns 1 s =
        (.ok (), s.after (.getReadyReplicas type_ name ns) 10 (j + 1) j)) ∧
    ((∀ i < 60, countFound n (count (s.issued.length + i)) = none) →
      Timed.ensureReplicas (fun k => printed (count k)) name n type_ ns 1 s =
        (if countFound n (count (s.issued.length + 60)) = none then
            .error (replicasTimeout name type_ n)
          else .ok (),
          s.after (.getReadyReplicas type_ name ns) 10 61 60)) := by
  have hsteps := ensureReplicas_steps count name type_ ns n
  let q := question (fun k => countFound n (count k)) (.getReadyReplicas type_ name ns) 10
  have hfound : ∀ j, q.found (q.round^[j] s) = countFound n (count (s.issued.length + j)) := by
    intro j
    rw [question_round_iterate, question_found_after]
  constructor
  · intro j u hfirst hj
    rw [hsteps.wait_eq_of_found (by omega) (fun i hi => (hfound i).trans (hfirst.2 i hi))
      ((hfound j).trans hfirst.1), question_round_iterate, question_polled_after]
  · intro hnone
    rw [hsteps.wait_eq_last fun i hi => (hfound i).trans (hnone i hi), question_round_iterate,
      lastPoll]
    simp [Session.after, List.replicate_succ']

end Run

/-! ## The budget -/

/-- The waiter returns iff one of the first 60 counts is the number, and raises after 60 polls
otherwise. -/
def HonoursBudget (wait : Prog PyErr Session Unit) (count : ℕ → ℕ) (n : ℕ) (timeout : PyErr)
    (s : Session) : Prop :=
  ((∃ s', wait s = (.ok (), s')) ↔ ∃ i < 60, count (s.issued.length + i) = n) ∧
    ((∀ i < 60, count (s.issued.length + i) ≠ n) →
      ∃ s', wait s = (.error timeout, s') ∧ s'.issued.length = s.issued.length + 60)

/-- A waiter that gets none of 60 answers has polled 61 times. -/
theorem ensureReplicas_polls (count : ℕ → ℕ) (name type_ ns : String) (n : ℕ) (s : Session)
    (hnone : ∀ i < 60, countFound n (count (s.issued.length + i)) = none) :
    (Timed.ensureReplicas (fun k => printed (count k)) name n type_ ns 1 s).2.issued.length =
      s.issued.length + 61 := by
  rw [(ensureReplicas_run count name type_ ns n s).2 hnone]
  simp [Session.after]

/-- **The waiter honours the budget exactly when it waits for a number other than 0 that one of
the first 60 counts is.**

**Proof sketch.** If one of them is, the waiter returns at the first such. If not, or if the
number is 0, none of the first 60 polls ends the wait. Then there is a 61st, so it does not
raise after 60; and if it waits for 0, it does not return. -/
theorem ensureReplicas_honoursBudget_iff (count : ℕ → ℕ) (name type_ ns : String) (n : ℕ)
    (s : Session) :
    HonoursBudget (Timed.ensureReplicas (fun k => printed (count k)) name n type_ ns 1) count n
        (replicasTimeout name type_ n) s ↔
      n ≠ 0 ∧ ∃ i < 60, count (s.issued.length + i) = n := by
  obtain ⟨hreturns, hlast⟩ := ensureReplicas_run count name type_ ns n s
  constructor
  · rintro ⟨hiff, hraises⟩
    by_contra hcond
    have hnone : ∀ i < 60, countFound n (count (s.issued.length + i)) = none := by
      intro i hi
      rw [countFound_eq_none_iff]
      by_contra hsome
      rw [not_or, not_not] at hsome
      exact hcond ⟨hsome.2 ▸ hsome.1, i, hi, hsome.2⟩
    by_cases hmet : ∃ i < 60, count (s.issued.length + i) = n
    · have hzero : n = 0 := by
        by_contra hne
        exact hcond ⟨hne, hmet⟩
      have hlast' : countFound n (count (s.issued.length + 60)) = none := by
        rw [countFound_eq_none_iff, hzero]
        exact or_not
      obtain ⟨s', hok⟩ := hiff.mpr hmet
      rw [hlast hnone, if_pos hlast'] at hok
      cases congrArg Prod.fst hok
    · obtain ⟨s', herr, hlen⟩ := hraises fun i hi heq => hmet ⟨i, hi, heq⟩
      have hpolls := ensureReplicas_polls count name type_ ns n s hnone
      rw [herr] at hpolls
      simp only at hpolls
      omega
  · rintro ⟨hne, i, hi, heq⟩
    have hfound : countFound n (count (s.issued.length + i)) = some () :=
      countFound_eq_some_iff.mpr ⟨heq ▸ hne, heq⟩
    obtain ⟨j, u, hfirst, hj⟩ := @Retry.exists_firstAt_lt _
      (fun i => countFound n (count (s.issued.length + i))) 60 i () hi hfound
    refine ⟨⟨fun _ => ⟨i, hi, heq⟩, fun _ => ⟨_, hreturns j u hfirst hj⟩⟩, ?_⟩
    intro hall
    exact absurd heq (hall i hi)

/-- A deployment that is scaled to 0 and has no ready replica from the second poll on. -/
def scaledToZero (k : ℕ) : ℕ := if k = 0 then 1 else 0

/-- **A wait for 0 replicas never ends well**: the second count is 0, but the waiter raises, and
it does so after 61 polls. -/
theorem ensureReplicas_scaleToZero :
    Timed.ensureReplicas (fun k => printed (scaledToZero k)) "kubia" 0 "deploy" "pod-test" 1
          ⟨[], []⟩ =
        (.error (.exception "Exceed max tries to ensure deploy kubia's replicas: 0"),
          Session.after ⟨[], []⟩ (.getReadyReplicas "deploy" "kubia" "pod-test") 10 61 60) ∧
      ¬ HonoursBudget
        (Timed.ensureReplicas (fun k => printed (scaledToZero k)) "kubia" 0 "deploy" "pod-test" 1)
        scaledToZero 0 (replicasTimeout "kubia" "deploy" 0) ⟨[], []⟩ := by
  have hnone : ∀ i, countFound 0 (scaledToZero i) = none := by
    intro i
    rw [countFound_eq_none_iff]
    exact Classical.em _
  have hlast := (ensureReplicas_run scaledToZero "kubia" "deploy" "pod-test" 0 ⟨[], []⟩).2
    fun i _ => hnone _
  rw [if_pos (hnone _)] at hlast
  refine ⟨hlast, ?_⟩
  rintro ⟨hiff, -⟩
  obtain ⟨s', hok⟩ := hiff.mpr ⟨1, by decide, rfl⟩
  have hok' := hlast.symm.trans hok
  cases congrArg Prod.fst hok'

end PythonForFun.K8s
