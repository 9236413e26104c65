import PythonForFun.K8s.Session

set_option relaxedAutoImplicit false
set_option autoImplicit false

/-!
# Waiting for a replication controller

`ensure_rc_ready` of `k8s/k8s_utils.py` is a copy of `ensure_deploy_ready` that passes a third
argument, `quiet`, to its readiness test. `is_deploy_ready` takes one; `is_rc_ready` takes only a
name and a namespace, so the call raises before it issues anything.

## Main definitions

* `K8s.callIsRcReady` — a call of `is_rc_ready` with a list of positional arguments.
* `K8s.Timed.ensureRcReady` — the waiter.
* `K8s.EndAlike` — two waits end in the same way.

## Main results

* `K8s.endAlike_of_recurs` — the two readiness tests agree: a wait for a replication controller
  that called its test with a name and a namespace would end like the one for a deployment.
* `K8s.ensureRcReady_endAlike_iff` — the waiter ends like the one for a deployment iff its tries
  have run out before it starts.
-/

namespace PythonForFun.K8s

/-- `is_rc_ready(*args)`: of the positional arguments the first is the name, the second the
namespace, and there is no third. -/
def callIsRcReady (kubectl : ℕ → Outcome WorkloadDoc) :
    List Value → Prog PyErr Issued Bool
  | [name] => isRcReady kubectl name.format
  | [name, ns] => isRcReady kubectl name.format ns.format
  | _ => Prog.raise .typeError

/-- `ensure_rc_ready(name, ns, tries)`. -/
def Timed.ensureRcReady (kubectl : ℕ → Outcome WorkloadDoc) (name : String)
    (ns : String := "default") (tries : ℕ := 1) : Prog PyErr Session Unit :=
  if tries > 60 then
    Prog.raise (.exception s!"Exceed max tries to ensure rc {name} ready")
  else do
    let quiet := if tries > 20 then false else true
    if ← awake (callIsRcReady kubectl [.str name, .str ns, .bool quiet]) then pure ()
    else
      sleep 3
      Timed.ensureRcReady kubectl name ns (tries + 1)
termination_by 61 - tries

/-- Two waits end in the same way: both return after as many polls, or both raise `timeout`. -/
def EndAlike (timeout : PyErr) (rc deploy : Except PyErr Unit × Session) : Prop :=
  (rc.1 = .ok () ∧ deploy.1 = .ok () ∧ rc.2.issued.length = deploy.2.issued.length) ∨
    rc.1 = .error timeout ∧ deploy.1 = .error timeout

/-- Bounded polls of the same answers end in the same way, whatever commands they ask by.

**Proof sketch.** Either there is a first answer within the budget, and both return it, or there
is none, and both raise. -/
theorem BoundedPoll.endAlike {wait wait' : Prog PyErr Session Unit} {answer : ℕ → Option Unit}
    {cmd cmd' : Kubectl} {budget : ℕ} {timeout : PyErr}
    (h : BoundedPoll wait answer cmd budget timeout)
    (h' : BoundedPoll wait' answer cmd' budget timeout) (s : Session) :
    EndAlike timeout (wait s) (wait' s) := by
  by_cases hfirst : ∃ j b,
      Retry.FirstAt (fun i => answer (s.issued.length + i)) j b ∧ j < budget
  · obtain ⟨j, b, hjb, hj⟩ := hfirst
    left
    rw [(h s).1 j b hjb hj, (h' s).1 j b hjb hj]
    simp [Session.after]
  · have hge : ∀ j b, Retry.FirstAt (fun i => answer (s.issued.length + i)) j b → budget ≤ j := by
      intro j b hjb
      by_contra hlt
      exact hfirst ⟨j, b, hjb, by omega⟩
    right
    rw [(h s).2 hge, (h' s).2 hge]
    exact ⟨rfl, rfl⟩

section Waits

variable {kubectl : ℕ → Outcome WorkloadDoc} {name ns : String}

/-- **The readiness tests agree**: a wait that calls `is_rc_ready` with a name and a namespace
ends like the one for a deployment, on outcomes that print nothing or something well-formed. -/
theorem endAlike_of_recurs {wait : ℕ → Prog PyErr Session Unit}
    (hwait : Recurs wait (.exception s!"Exceed max tries to ensure rc {name} ready")
      (callIsRcReady kubectl [.str name, .str ns]))
    (hkubectl : ∀ k doc, (kubectl k).stdout = some doc → doc.WellFormed) (tries : ℕ)
    (s : Session) :
    EndAlike (.exception s!"Exceed max tries to ensure rc {name} ready") (wait tries s)
      (Timed.ensureDeployReady kubectl name ns tries s) := by
  have hready : ∀ k, ∃ b, readyAnswer (kubectl k) = .ok b :=
    fun k => readyAnswer_eq_ok (hkubectl k)
  have hrc : ∀ issued, callIsRcReady kubectl [.str name, .str ns] issued =
      (readyAnswer (kubectl issued.length), issued ++ [.getRc name ns]) :=
    isWorkloadReady_apply kubectl (.getRc name ns)
  have hdeploy : ∀ issued, isDeployReady kubectl name ns (.bool true) issued =
      (readyAnswer (kubectl issued.length), issued ++ [.getDeploy name ns]) :=
    isWorkloadReady_apply kubectl (.getDeploy name ns)
  have hrcPoll := boundedPoll_of_steps (hwait.steps hrc hready) tries
  have hdeployPoll := boundedPoll_of_steps
    ((Timed.ensureDeployReady_recurs name ns kubectl).steps hdeploy hready) tries
  exact hrcPoll.endAlike hdeployPoll s

/-- With tries left the waiter raises at once: its readiness test takes no third argument. -/
theorem ensureRcReady_eq_typeError {tries : ℕ} (hle : tries ≤ 60) (s : Session) :
    Timed.ensureRcReady kubectl name ns tries s = (.error .typeError, s) := by
  rw [Timed.ensureRcReady, if_neg (by omega)]
  rfl

end Waits

/-- **The waiter ends like the one for a deployment exactly when no tries are left.** -/
theorem ensureRcReady_endAlike_iff (kubectl : ℕ → Outcome WorkloadDoc) (name ns : String)
    (tries : ℕ) (s : Session) :
    EndAlike (.exception s!"Exceed max tries to ensure rc {name} ready")
        (Timed.ensureRcReady kubectl name ns tries s)
        (Timed.ensureDeployReady kubectl name ns tries s) ↔
      tries > 60 := by
  constructor
  · intro h
    by_contra hgt
    rw [ensureRcReady_eq_typeError (by omega)] at h
    rcases h with ⟨hok, -⟩ | ⟨herr, -⟩
    · cases hok
    · cases herr
  · intro hgt
    right
    rw [Timed.ensureRcReady, Timed.ensureDeployReady, if_pos hgt, if_pos hgt]
    exact ⟨rfl, rfl⟩

/-- **A controller that is ready**: the wait for it raises without asking, the one for a
deployment returns at its first poll. -/
theorem ensureRcReady_ready :
    let ready : ℕ → Outcome WorkloadDoc := fun _ => ⟨some ⟨⟨3⟩, some ⟨some 3, some 3⟩⟩, 0⟩
    Timed.ensureRcReady ready "kubia" "default" 1 ⟨[], []⟩ = (.error .typeError, ⟨[], []⟩) ∧
      Timed.ensureDeployReady ready "kubia" "default" 1 ⟨[], []⟩ =
        (.ok (), ⟨[.getDeploy "kubia" "default"], []⟩) ∧
      ¬ EndAlike (.exception "Exceed max tries to ensure rc kubia ready")
        (Timed.ensureRcReady ready "kubia" "default" 1 ⟨[], []⟩)
        (Timed.ensureDeployReady ready "kubia" "default" 1 ⟨[], []⟩) := by
  intro ready
  have hrc : Timed.ensureRcReady ready "kubia" "default" 1 ⟨[], []⟩ =
      (.error .typeError, ⟨[], []⟩) := ensureRcReady_eq_typeError (by decide) _
  have hdeploy : Timed.ensureDeployReady ready "kubia" "default" 1 ⟨[], []⟩ =
      (.ok (), ⟨[.getDeploy "kubia" "default"], []⟩) := by
    rw [Timed.ensureDeployReady, if_neg (by decide), Prog.bind_apply, awake_apply]
    rfl
  refine ⟨hrc, hdeploy, ?_⟩
  rw [hrc]
  rintro (⟨hok, -⟩ | ⟨herr, -⟩)
  · cases hok
  · cases herr

end PythonForFun.K8s
