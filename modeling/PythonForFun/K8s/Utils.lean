import PythonForFun.Lib.Prog
import PythonForFun.Lib.Poll
import PythonForFun.Python

set_option relaxedAutoImplicit false
set_option autoImplicit false

/-!
# The Kubernetes helpers

`k8s/k8s_utils.py`: running `kubectl`, the readiness tests, and the waiters, which call
themselves with `tries + 1` until a poll succeeds or `tries` exceeds 60. What a `-o json` call
prints is modelled by the document that `json.loads` makes of it; a call that prints nothing
leaves an empty string. The calls of a run are numbered in the order they are issued, and
`kubectl k` is the outcome of the `k`-th one.

## Main definitions

* `K8s.run`, `K8s.sh` — `run`, on the outcome of a call and as a program that issues one.
* `K8s.waitTries` — the recursion the waiters share.
* `K8s.isRcReady`, `K8s.isDeployReady`, `K8s.ensureDeployReady`.
* `K8s.ensureNamespacePhase`, `K8s.ensurePodPhase`, `K8s.initTestEnv`.

## Main results

* `K8s.waitTries_apply` — a waiter is a bounded poll with a budget of `61 - tries` calls.
* `K8s.waitTries_sound_iff` — what a returning waiter tells about its last poll.
-/

namespace PythonForFun.K8s

/-! ## Running kubectl -/

/-- The commands the helpers issue. -/
inductive Kubectl
  /-- `kubectl get pods {name} -n {ns} -o json` -/
  | getPods (name ns : String)
  /-- `kubectl get ns {name} -o json` -/
  | getNs (name : String)
  /-- `kubectl get rc {name} -o json -n {ns}` -/
  | getRc (name ns : String)
  /-- `kubectl get deploy {name} -o json -n {ns}` -/
  | getDeploy (name ns : String)
  /-- `kubectl delete ns {ns}` -/
  | deleteNs (ns : String)
  /-- `kubectl create ns {ns}` -/
  | createNs (ns : String)
  /-- `kubectl get ing {name} -o jsonpath='{.status.loadBalancer.ingress[0].ip}'` -/
  | getIngressIp (name : String)
  /-- `kubectl get {type_} {name} -n {ns} -o jsonpath='{.status.readyReplicas}'` -/
  | getReadyReplicas (type_ name ns : String)
  deriving DecidableEq

/-- The outcome of a call: what it printed, `none` for nothing, and its exit status. -/
structure Outcome (α : Type) where
  stdout : Option α
  returncode : ℤ
  deriving DecidableEq

variable {α : Type}

/-- `run(script, quiet)` on the outcome of the script's process. -/
def run (proc : Outcome α) (quiet : Value := .bool false) : Except PyErr (Option α) :=
  if quiet.isFalse ∧ proc.returncode ≠ 0 then
    .error (.exception ("Exit Code: " ++ toString proc.returncode))
  else .ok proc.stdout

/-- A quiet `run` returns what was printed, whatever the exit status. -/
theorem run_quiet (proc : Outcome α) : run proc (.bool true) = .ok proc.stdout := by
  simp [run, Value.isFalse]

/-- The commands issued so far. -/
abbrev Issued : Type := List Kubectl

/-- Issue a command and pass its outcome through `run`. -/
def sh (kubectl : ℕ → Outcome α) (cmd : Kubectl) (quiet : Value) :
    Prog PyErr Issued (Option α) :=
  fun issued => (run (kubectl issued.length) quiet, issued ++ [cmd])

/-! ## The recursion of the waiters -/

/-- `if tries > 60: raise`, `if poll: return`, `time.sleep`, and the call with `tries + 1`. -/
def waitTries {σ : Type} (timeout : PyErr) (poll : Prog PyErr σ Bool) (tries : ℕ) :
    Prog PyErr σ Unit :=
  if tries > 60 then Prog.raise timeout
  else do
    if ← poll then pure () else waitTries timeout poll (tries + 1)
termination_by 61 - tries

section WaitTries

variable {timeout : PyErr} {poll : Prog PyErr Issued Bool} {answer : ℕ → Except PyErr Bool}
  {cmd : Kubectl}

/-- **A waiter is a bounded poll**: if one poll issues the command `cmd` once and answers by its
outcome, the waiter issues nothing but `cmd`, at most `61 - tries` times.

**Proof sketch.** Induction on the budget `61 - tries`, by cases on the first answer. -/
theorem waitTries_apply
    (hpoll : ∀ issued, poll issued = (answer issued.length, issued ++ [cmd]))
    (tries : ℕ) (issued : Issued) :
    let w := Poll.wait timeout answer (61 - tries) issued.length
    waitTries timeout poll tries issued =
      (w.1, issued ++ List.replicate (w.2 - issued.length) cmd) := by
  induction hb : 61 - tries generalizing tries issued with
  | zero =>
    have hgt : tries > 60 := by omega
    rw [waitTries, if_pos hgt]
    simp [Poll.wait]
  | succ budget ih =>
    have hle : ¬ tries > 60 := by omega
    have hrest := ih (tries + 1) (issued ++ [cmd]) (by omega)
    rw [waitTries, if_neg hle, Prog.bind_apply, hpoll]
    simp only [Poll.wait]
    cases answer issued.length with
    | error e => simp
    | ok b =>
      cases b with
      | true => simp
      | false =>
        rw [List.length_append, List.length_singleton] at hrest
        simp only [Bool.false_eq_true, if_false]
        rw [hrest, List.append_assoc]
        have hlt := Poll.le_wait timeout answer budget (issued.length + 1)
        generalize Poll.wait timeout answer budget (issued.length + 1) = w at hlt
        have hsub : w.2 - issued.length = w.2 - (issued.length + 1) + 1 := by omega
        rw [hsub, List.replicate_succ]
        rfl

/-- **When a waiter returns**: at the first poll that does not ask to go on, if that poll
succeeds and is within the budget. -/
theorem waitTries_eq_ok_iff
    (hpoll : ∀ issued, poll issued = (answer issued.length, issued ++ [cmd]))
    {tries : ℕ} {issued issued' : Issued} :
    waitTries timeout poll tries issued = (.ok (), issued') ↔
      ∃ j, j < issued.length + (61 - tries) ∧ Poll.Reaches answer issued.length j ∧
        answer j = .ok true ∧ issued' = issued ++ List.replicate (j + 1 - issued.length) cmd := by
  rw [waitTries_apply hpoll, Prod.mk.injEq]
  constructor
  · rintro ⟨hok, hissued⟩
    have hw : Poll.wait timeout answer (61 - tries) issued.length =
        (.ok (), (Poll.wait timeout answer (61 - tries) issued.length).2) := by
      rw [← hok]
    obtain ⟨j, hlt, hreach, hj, hm⟩ := Poll.wait_eq_ok_iff.mp hw
    rw [hm] at hissued
    exact ⟨j, hlt, hreach, hj, hissued.symm⟩
  · rintro ⟨j, hlt, hreach, hj, hissued⟩
    have hw : Poll.wait timeout answer (61 - tries) issued.length = (.ok (), j + 1) :=
      Poll.wait_eq_ok_iff.mpr ⟨j, hlt, hreach, hj, rfl⟩
    rw [hw]
    exact ⟨rfl, hissued.symm⟩

/-- **What a returning waiter tells**: a property holds of the last poll of every returning
wait iff it holds of every poll that can end one. -/
theorem waitTries_sound_iff
    (hpoll : ∀ issued, poll issued = (answer issued.length, issued ++ [cmd]))
    (tries : ℕ) (issued : Issued) {P : ℕ → Prop} :
    (∀ issued', waitTries timeout poll tries issued = (.ok (), issued') →
        P (issued'.length - 1)) ↔
      ∀ j, j < issued.length + (61 - tries) → Poll.Reaches answer issued.length j →
        answer j = .ok true → P j := by
  have hlast : ∀ j, issued.length ≤ j →
      (issued ++ List.replicate (j + 1 - issued.length) cmd).length - 1 = j := by
    intro j hle
    rw [List.length_append, List.length_replicate]
    omega
  constructor
  · intro h j hlt hreach hj
    have hP := h _ ((waitTries_eq_ok_iff hpoll).mpr ⟨j, hlt, hreach, hj, rfl⟩)
    rwa [hlast j hreach.1] at hP
  · intro h issued' h'
    obtain ⟨j, hlt, hreach, hj, rfl⟩ := (waitTries_eq_ok_iff hpoll).mp h'
    rw [hlast j hreach.1]
    exact h j hlt hreach hj

end WaitTries

/-! ## The documents kubectl prints -/

/-- The `status` of a pod or a namespace. -/
structure PhaseStatus where
  phase : Option String
  deriving DecidableEq

/-- The document of a pod or a namespace. -/
structure PhaseDoc where
  status : Option PhaseStatus
  deriving DecidableEq

/-- `doc['status']['phase']`. -/
def PhaseDoc.phase (doc : PhaseDoc) : Except PyErr String :=
  match doc.status with
  | none => .error (.keyError "status")
  | some status =>
    match status.phase with
    | none => .error (.keyError "phase")
    | some phase => .ok phase

/-- The `spec` of a deployment or a replication controller: what the user asked for. -/
structure WorkloadSpec where
  replicas : ℕ
  deriving DecidableEq

/-- The `status` of a deployment or a replication controller: what the controller last
reported. -/
structure WorkloadStatus where
  replicas : Option ℕ
  readyReplicas : Option ℕ
  deriving DecidableEq

/-- The document of a deployment or a replication controller. -/
structure WorkloadDoc where
  spec : WorkloadSpec
  status : Option WorkloadStatus
  deriving DecidableEq

/-- The answer the readiness tests read off a document. -/
def WorkloadDoc.isReady (doc : WorkloadDoc) : Except PyErr Bool :=
  match doc.status with
  | none => .error .attributeError
  | some status =>
    match status.readyReplicas with
    | none => .ok false
    | some ready =>
      if ready = 0 then .ok false
      else match status.replicas with
        | none => .error (.keyError "replicas")
        | some replicas => .ok (replicas == ready)

/-! ## Readiness -/

/-- The body `is_rc_ready` and `is_deploy_ready` share. -/
def isWorkloadReady (kubectl : ℕ → Outcome WorkloadDoc) (cmd : Kubectl) (quiet : Value) :
    Prog PyErr Issued Bool := do
  match ← sh kubectl cmd quiet with
  | none => pure false
  | some doc => Prog.ofExcept doc.isReady

/-- `is_rc_ready(name, ns)`. -/
def isRcReady (kubectl : ℕ → Outcome WorkloadDoc) (name : String) (ns : String := "default") :
    Prog PyErr Issued Bool :=
  isWorkloadReady kubectl (.getRc name ns) (.bool true)

/-- `is_deploy_ready(name, ns, quiet)`. -/
def isDeployReady (kubectl : ℕ → Outcome WorkloadDoc) (name : String)
    (ns : String := "default") (quiet : Value := .bool true) : Prog PyErr Issued Bool :=
  isWorkloadReady kubectl (.getDeploy name ns) quiet

/-- `ensure_deploy_ready(name, ns, tries)`. -/
def ensureDeployReady (kubectl : ℕ → Outcome WorkloadDoc) (name : String)
    (ns : String := "default") (tries : ℕ := 1) : Prog PyErr Issued Unit :=
  waitTries (.exception s!"Exceed max tries to ensure rc {name} ready")
    (isDeployReady kubectl name ns) tries

/-! ## Phases -/

/-- One poll of the phase waiters. -/
def isInPhase (kubectl : ℕ → Outcome PhaseDoc) (cmd : Kubectl) (expectedPhase : String) :
    Prog PyErr Issued Bool := do
  match ← sh kubectl cmd (.bool true) with
  | none => pure (expectedPhase == "Deleted")
  | some doc =>
    let phase ← Prog.ofExcept doc.phase
    pure (phase == expectedPhase)

/-- `ensure_namespace_phase(name, expected_phase, tries)`. -/
def ensureNamespacePhase (kubectl : ℕ → Outcome PhaseDoc) (name : String)
    (expectedPhase : String := "Active") (tries : ℕ := 1) : Prog PyErr Issued Unit :=
  waitTries
    (.exception s!"Exceed max tries to ensure namespace {name}'s status ({expectedPhase})")
    (isInPhase kubectl (.getNs name) expectedPhase) tries

/-- `ensure_pod_phase(name, expected_phase, ns, tries)`. -/
def ensurePodPhase (kubectl : ℕ → Outcome PhaseDoc) (name : String)
    (expectedPhase : String := "Running") (ns : String := "default") (tries : ℕ := 1) :
    Prog PyErr Issued Unit :=
  waitTries (.exception s!"Exceed max tries to ensure pod {name}'s phase ({expectedPhase})")
    (isInPhase kubectl (.getPods name ns) expectedPhase) tries

/-- `init_test_env(ns)`. -/
def initTestEnv (kubectl : ℕ → Outcome PhaseDoc) (ns : String) : Prog PyErr Issued Unit := do
  let _ ← sh kubectl (.deleteNs ns) (.bool true)
  ensureNamespacePhase kubectl ns "Deleted"
  let _ ← sh kubectl (.createNs ns) (.bool true)
  pure ()

/-! ## One poll -/

/-- The answer of one poll of the readiness waiter. -/
def readyAnswer (proc : Outcome WorkloadDoc) : Except PyErr Bool :=
  match proc.stdout with
  | none => .ok false
  | some doc => doc.isReady

/-- The answer of one poll of a phase waiter. -/
def phaseAnswer (expectedPhase : String) (proc : Outcome PhaseDoc) : Except PyErr Bool :=
  match proc.stdout with
  | none => .ok (expectedPhase == "Deleted")
  | some doc => doc.phase.map (· == expectedPhase)

/-- A quiet readiness test issues one command and answers by its outcome. -/
theorem isWorkloadReady_apply (kubectl : ℕ → Outcome WorkloadDoc) (cmd : Kubectl)
    (issued : Issued) :
    isWorkloadReady kubectl cmd (.bool true) issued =
      (readyAnswer (kubectl issued.length), issued ++ [cmd]) := by
  rw [isWorkloadReady, Prog.bind_apply, sh, run_quiet]
  unfold readyAnswer
  cases (kubectl issued.length).stdout with
  | none => rfl
  | some doc => rfl

/-- A poll of a phase waiter issues one command and answers by its outcome. -/
theorem isInPhase_apply (kubectl : ℕ → Outcome PhaseDoc) (cmd : Kubectl)
    (expectedPhase : String) (issued : Issued) :
    isInPhase kubectl cmd expectedPhase issued =
      (phaseAnswer expectedPhase (kubectl issued.length), issued ++ [cmd]) := by
  rw [isInPhase, Prog.bind_apply, sh, run_quiet]
  unfold phaseAnswer
  cases (kubectl issued.length).stdout with
  | none => rfl
  | some doc =>
    simp only [Prog.bind_apply, Prog.ofExcept_apply]
    cases doc.phase with
    | error e => rfl
    | ok phase => rfl

end PythonForFun.K8s
