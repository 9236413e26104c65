import PythonForFun.Lib.Retry
import PythonForFun.K8s.Utils

set_option relaxedAutoImplicit false
set_option autoImplicit false

/-!
# The Kubernetes waiters as bounded polls

The waiters of `k8s/k8s_utils.py` once more, now with the seconds they sleep: three of them call
themselves with `tries + 1`, `get_ingress_address` counts `tries` in a `while` loop. All ask at
most `61 - tries` times and sleep between two questions.

## Main definitions

* `K8s.Session` — the commands issued and the seconds slept.
* `K8s.Timed.ensureDeployReady`, `K8s.Timed.ensureNamespacePhase`, `K8s.Timed.ensurePodPhase`,
  `K8s.Timed.getIngressAddress` — the waiters.
* `K8s.BoundedPoll` — what a waiter does on a sequence of outcomes.

## Main results

* `K8s.waiters_boundedPoll` — the recursive and the iterative waiters are bounded polls.
* `K8s.Timed.waiters_issued` — without their sleeps they are the waiters of `K8s.Utils`.
-/

namespace PythonForFun.K8s

/-- The commands issued so far, and the sleeps in seconds. -/
structure Session where
  issued : Issued
  slept : List ℕ
  deriving DecidableEq

/-- `time.sleep(seconds)`. -/
def sleep (seconds : ℕ) : Prog PyErr Session Unit :=
  fun s => (.ok (), { s with slept := s.slept ++ [seconds] })

variable {α β : Type}

/-- A program that does not sleep. -/
def awake (x : Prog PyErr Issued α) : Prog PyErr Session α :=
  fun s => ((x s.issued).1, { s with issued := (x s.issued).2 })

@[simp] theorem awake_apply (x : Prog PyErr Issued α) (s : Session) :
    awake x s = ((x s.issued).1, { s with issued := (x s.issued).2 }) := rfl

/-- `run` of a command that prints a text; one that prints nothing leaves the empty one. -/
def runText (kubectl : ℕ → Outcome String) (cmd : Kubectl) : Prog PyErr Issued String := do
  let stdout ← sh kubectl cmd (.bool true)
  pure (stdout.getD "")

theorem runText_apply (kubectl : ℕ → Outcome String) (cmd : Kubectl) (issued : Issued) :
    runText kubectl cmd issued =
      (.ok ((kubectl issued.length).stdout.getD ""), issued ++ [cmd]) := by
  rw [runText, Prog.bind_apply, sh, run_quiet]
  rfl

/-! ## The waiters -/

namespace Timed

/-- `ensure_deploy_ready(name, ns, tries)`. -/
def ensureDeployReady (kubectl : ℕ → Outcome WorkloadDoc) (name : String)
    (ns : String := "default") (tries : ℕ := 1) : Prog PyErr Session Unit :=
  if tries > 60 then
    Prog.raise (.exception s!"Exceed max tries to ensure rc {name} ready")
  else do
    if ← awake (isDeployReady kubectl name ns) then pure ()
    else
      sleep 3
      ensureDeployReady kubectl name ns (tries + 1)
termination_by 61 - tries

/-- `ensure_namespace_phase(name, expected_phase, tries)`. -/
def ensureNamespacePhase (kubectl : ℕ → Outcome PhaseDoc) (name : String)
    (expectedPhase : String := "Active") (tries : ℕ := 1) : Prog PyErr Session Unit :=
  if tries > 60 then
    Prog.raise
      (.exception s!"Exceed max tries to ensure namespace {name}'s status ({expectedPhase})")
  else do
    if ← awake (isInPhase kubectl (.getNs name) expectedPhase) then pure ()
    else
      sleep 3
      ensureNamespacePhase kubectl name expectedPhase (tries + 1)
termination_by 61 - tries

/-- `ensure_pod_phase(name, expected_phase, ns, tries)`. -/
def ensurePodPhase (kubectl : ℕ → Outcome PhaseDoc) (name : String)
    (expectedPhase : String := "Running") (ns : String := "default") (tries : ℕ := 1) :
    Prog PyErr Session Unit :=
  if tries > 60 then
    Prog.raise (.exception s!"Exceed max tries to ensure pod {name}'s phase ({expectedPhase})")
  else do
    if ← awake (isInPhase kubectl (.getPods name ns) expectedPhase) then pure ()
    else
      sleep 3
      ensurePodPhase kubectl name expectedPhase ns (tries + 1)
termination_by 61 - tries

/-- `get_ingress_address(name, tries)`. A pass of the `while` loop that does not leave it ends
with `tries += 1`. -/
def getIngressAddress (kubectl : ℕ → Outcome String) (name : String) (tries : ℕ := 1) :
    Prog PyErr Session String :=
  if tries > 60 then Prog.raise (.exception s!"Exceed max tries to get ing {name}'s IP")
  else do
    let ipAddr ← awake (runText kubectl (.getIngressIp name))
    if ipAddr ≠ "" then pure ipAddr
    else
      sleep 3
      getIngressAddress kubectl name (tries + 1)
termination_by 61 - tries

end Timed

/-! ## What an outcome tells a waiter -/

/-- The document has a `status`, with the number of replicas if one of them is ready. -/
def WorkloadDoc.WellFormed (doc : WorkloadDoc) : Prop :=
  ∃ status, doc.status = some status ∧
    (status.readyReplicas.getD 0 ≠ 0 → ∃ replicas, status.replicas = some replicas)

/-- The document has a `status` with a `phase`. -/
def PhaseDoc.WellFormed (doc : PhaseDoc) : Prop :=
  ∃ status phase, doc.status = some status ∧ status.phase = some phase

/-- What a successful answer tells: the wait is over, or it goes on. -/
def waitOver : Except PyErr Bool → Option Unit
  | .ok true => some ()
  | _ => none

/-- The readiness waiter is done with an outcome: a document that counts as ready. -/
def readyFound (proc : Outcome WorkloadDoc) : Option Unit := waitOver (readyAnswer proc)

/-- A phase waiter is done with an outcome: a document with the expected phase, or nothing if the
expected phase is `Deleted`. -/
def phaseFound (expectedPhase : String) (proc : Outcome PhaseDoc) : Option Unit :=
  waitOver (phaseAnswer expectedPhase proc)

/-- The address an outcome gives, if it is not empty. -/
def addressFound (proc : Outcome String) : Option String := proc.stdout.filter (· ≠ "")

/-- Nothing, or a well-formed document, is answered without an exception. -/
theorem readyAnswer_eq_ok {proc : Outcome WorkloadDoc}
    (h : ∀ doc, proc.stdout = some doc → doc.WellFormed) : ∃ b, readyAnswer proc = .ok b := by
  unfold readyAnswer
  cases hdoc : proc.stdout with
  | none => exact ⟨false, rfl⟩
  | some doc =>
    obtain ⟨status, hstatus, hreplicas⟩ := h doc hdoc
    simp only [WorkloadDoc.isReady, hstatus]
    cases hready : status.readyReplicas with
    | none => exact ⟨false, rfl⟩
    | some ready =>
      rw [hready, Option.getD_some] at hreplicas
      by_cases hzero : ready = 0
      · exact ⟨false, if_pos hzero⟩
      · obtain ⟨replicas, hsome⟩ := hreplicas hzero
        simp only [hzero, hsome, if_false]
        exact ⟨_, rfl⟩

/-- The same of the phase waiters. -/
theorem phaseAnswer_eq_ok {proc : Outcome PhaseDoc} (expectedPhase : String)
    (h : ∀ doc, proc.stdout = some doc → doc.WellFormed) :
    ∃ b, phaseAnswer expectedPhase proc = .ok b := by
  unfold phaseAnswer
  cases hdoc : proc.stdout with
  | none => exact ⟨_, rfl⟩
  | some doc =>
    obtain ⟨status, phase, hstatus, hphase⟩ := h doc hdoc
    simp only [PhaseDoc.phase, hstatus, hphase]
    exact ⟨_, rfl⟩

/-! ## The rounds of a wait -/

/-- The session after `polls` times `cmd` and `sleeps` sleeps more. -/
def Session.after (s : Session) (cmd : Kubectl) (seconds polls sleeps : ℕ) : Session :=
  ⟨s.issued ++ List.replicate polls cmd, s.slept ++ List.replicate sleeps seconds⟩

/-- The question a waiter asks with `cmd`, pausing some seconds between two. -/
def question (answer : ℕ → Option β) (cmd : Kubectl) (seconds : ℕ) :
    Retry.Question Session β where
  found s := answer s.issued.length
  polled s := { s with issued := s.issued ++ [cmd] }
  paused s := { s with slept := s.slept ++ [seconds] }

/-- A number of rounds issue `cmd` and sleep as many times. -/
theorem question_round_iterate (answer : ℕ → Option β) (cmd : Kubectl) (seconds j : ℕ)
    (s : Session) :
    (question answer cmd seconds).round^[j] s = s.after cmd seconds j j := by
  induction j with
  | zero => simp [Session.after]
  | succ j ih =>
    rw [Function.iterate_succ_apply', ih]
    simp only [Retry.Question.round, question, Session.after, List.append_assoc,
      List.replicate_succ']

/-- What a question finds after some rounds. -/
theorem question_found_after (answer : ℕ → Option β) (cmd : Kubectl) (seconds j : ℕ)
    (s : Session) :
    (question answer cmd seconds).found (s.after cmd seconds j j) =
      answer (s.issued.length + j) := by
  simp [question, Session.after]

/-- One more question after some rounds. -/
theorem question_polled_after (answer : ℕ → Option β) (cmd : Kubectl) (seconds j : ℕ)
    (s : Session) :
    (question answer cmd seconds).polled (s.after cmd seconds j j) =
      s.after cmd seconds (j + 1) j := by
  simp [question, Session.after, List.replicate_succ']

/-- **A bounded poll**: if the answer that is first, after `j` without one, comes within the
budget, the waiter returns it after `j + 1` questions and `j` sleeps; if there is none within the
budget, it raises `timeout` after `budget` questions. -/
def BoundedPoll (wait : Prog PyErr Session β) (answer : ℕ → Option β) (cmd : Kubectl)
    (budget : ℕ) (timeout : PyErr) : Prop :=
  ∀ s : Session,
    (∀ j b, Retry.FirstAt (fun i => answer (s.issued.length + i)) j b → j < budget →
      wait s = (.ok b, s.after cmd 3 (j + 1) j)) ∧
    ((∀ j b, Retry.FirstAt (fun i => answer (s.issued.length + i)) j b → budget ≤ j) →
      wait s = (.error timeout, s.after cmd 3 budget budget))

/-- **A waiter that makes the steps of a retry is a bounded poll.** -/
theorem boundedPoll_of_steps {wait : ℕ → Prog PyErr Session β} {answer : ℕ → Option β}
    {cmd : Kubectl} {timeout : PyErr}
    (h : Retry.Steps wait 60 (question answer cmd 3) (Prog.raise timeout)) (tries : ℕ) :
    BoundedPoll (wait tries) answer cmd (61 - tries) timeout := by
  intro s
  have hfound : ∀ j, (question answer cmd 3).found ((question answer cmd 3).round^[j] s) =
      answer (s.issued.length + j) := by
    intro j
    rw [question_round_iterate, question_found_after]
  constructor
  · intro j b hfirst hj
    rw [h.wait_eq_of_found (by omega) (fun i hi => (hfound i).trans (hfirst.2 i hi))
      ((hfound j).trans hfirst.1), question_round_iterate, question_polled_after]
  · intro hnone
    rw [h.wait_eq_last fun i hi => (hfound i).trans (Retry.eq_none_of_firstAt_ge hnone i hi),
      question_round_iterate, Prog.raise_apply]

/-! ## The steps of the waiters -/

/-- The recursion that three of the waiters share. -/
def Recurs (wait : ℕ → Prog PyErr Session Unit) (timeout : PyErr)
    (poll : Prog PyErr Issued Bool) : Prop :=
  ∀ tries, wait tries =
    if tries > 60 then Prog.raise timeout
    else do
      if ← awake poll then pure ()
      else
        sleep 3
        wait (tries + 1)

section Recurs

variable {wait : ℕ → Prog PyErr Session Unit} {timeout : PyErr} {poll : Prog PyErr Issued Bool}
  {answer : ℕ → Except PyErr Bool} {cmd : Kubectl}

/-- The recursion makes the steps of a retry, if its polls ask by `cmd` and do not fail. -/
theorem Recurs.steps (h : Recurs wait timeout poll)
    (hpoll : ∀ issued, poll issued = (answer issued.length, issued ++ [cmd]))
    (hanswer : ∀ k, ∃ b, answer k = .ok b) :
    Retry.Steps wait 60 (question (fun k => waitOver (answer k)) cmd 3) (Prog.raise timeout) where
  exhausted tries s hgt := by rw [h tries, if_pos hgt]
  done tries s b hle hfound := by
    have hok : answer s.issued.length = .ok true := by
      obtain ⟨b', hb'⟩ := hanswer s.issued.length
      cases b' with
      | true => exact hb'
      | false => simp [question, hb', waitOver] at hfound
    rw [h tries, if_neg (by omega), Prog.bind_apply, awake_apply, hpoll, hok]
    rfl
  again tries s hle hfound := by
    have hok : answer s.issued.length = .ok false := by
      obtain ⟨b', hb'⟩ := hanswer s.issued.length
      cases b' with
      | true => simp [question, hb', waitOver] at hfound
      | false => exact hb'
    rw [h tries, if_neg (by omega), Prog.bind_apply, awake_apply, hpoll, hok]
    rfl

/-- Forgetting its sleeps, the recursion is the one without them.

**Proof sketch.** Induction on the budget `61 - tries`, by cases on the first poll. -/
theorem Recurs.issued (h : Recurs wait timeout poll) (tries : ℕ) (s : Session) :
    ((wait tries s).1, (wait tries s).2.issued) = waitTries timeout poll tries s.issued := by
  induction hb : 61 - tries generalizing tries s with
  | zero =>
    have hgt : tries > 60 := by omega
    rw [h tries, waitTries, if_pos hgt, if_pos hgt]
    rfl
  | succ budget ih =>
    have hle : ¬ tries > 60 := by omega
    rw [h tries, waitTries, if_neg hle, if_neg hle, Prog.bind_apply, Prog.bind_apply, awake_apply]
    rcases poll s.issued with ⟨r, issued'⟩
    cases r with
    | error e => rfl
    | ok b =>
      cases b with
      | true => rfl
      | false => exact ih (tries + 1) ⟨issued', s.slept ++ [3]⟩ (by omega)

end Recurs

namespace Timed

variable (name ns expectedPhase : String)

theorem ensureDeployReady_recurs (kubectl : ℕ → Outcome WorkloadDoc) :
    Recurs (fun tries => ensureDeployReady kubectl name ns tries)
      (.exception s!"Exceed max tries to ensure rc {name} ready")
      (isDeployReady kubectl name ns) := by
  intro tries
  change ensureDeployReady kubectl name ns tries = _
  rw [ensureDeployReady]

theorem ensureNamespacePhase_recurs (kubectl : ℕ → Outcome PhaseDoc) :
    Recurs (fun tries => ensureNamespacePhase kubectl name expectedPhase tries)
      (.exception s!"Exceed max tries to ensure namespace {name}'s status ({expectedPhase})")
      (isInPhase kubectl (.getNs name) expectedPhase) := by
  intro tries
  change ensureNamespacePhase kubectl name expectedPhase tries = _
  rw [ensureNamespacePhase]

theorem ensurePodPhase_recurs (kubectl : ℕ → Outcome PhaseDoc) :
    Recurs (fun tries => ensurePodPhase kubectl name expectedPhase ns tries)
      (.exception s!"Exceed max tries to ensure pod {name}'s phase ({expectedPhase})")
      (isInPhase kubectl (.getPods name ns) expectedPhase) := by
  intro tries
  change ensurePodPhase kubectl name expectedPhase ns tries = _
  rw [ensurePodPhase]

/-- The loop of `get_ingress_address` makes the steps of a retry. -/
theorem getIngressAddress_steps (kubectl : ℕ → Outcome String) :
    Retry.Steps (fun tries => getIngressAddress kubectl name tries) 60
      (question (fun k => addressFound (kubectl k)) (.getIngressIp name) 3)
      (Prog.raise (.exception s!"Exceed max tries to get ing {name}'s IP")) where
  exhausted tries s hgt := by rw [getIngressAddress, if_pos hgt]
  done tries s ip hle hfound := by
    obtain ⟨hip, hne⟩ : (kubectl s.issued.length).stdout = some ip ∧ ip ≠ "" := by
      simpa [question, addressFound, Option.filter_eq_some_iff] using hfound
    rw [getIngressAddress, if_neg (by omega), Prog.bind_apply, awake_apply, runText_apply, hip]
    simp only [Option.getD_some, if_pos hne]
    rfl
  again tries s hle hfound := by
    have hempty : (kubectl s.issued.length).stdout.getD "" = "" := by
      cases hip : (kubectl s.issued.length).stdout with
      | none => rfl
      | some ip => simpa [question, addressFound, hip] using hfound
    rw [getIngressAddress, if_neg (by omega), Prog.bind_apply, awake_apply, runText_apply, hempty]
    rfl

/-- **Without their sleeps the waiters are the ones that only count their polls.** -/
theorem waiters_issued (workloads : ℕ → Outcome WorkloadDoc) (phases : ℕ → Outcome PhaseDoc)
    (tries : ℕ) (s : Session) :
    let issued := fun x : Except PyErr Unit × Session => (x.1, x.2.issued)
    issued (ensureDeployReady workloads name ns tries s) =
        K8s.ensureDeployReady workloads name ns tries s.issued ∧
      issued (ensureNamespacePhase phases name expectedPhase tries s) =
        K8s.ensureNamespacePhase phases name expectedPhase tries s.issued ∧
      issued (ensurePodPhase phases name expectedPhase ns tries s) =
        K8s.ensurePodPhase phases name expectedPhase ns tries s.issued :=
  ⟨(ensureDeployReady_recurs name ns workloads).issued tries s,
    (ensureNamespacePhase_recurs name expectedPhase phases).issued tries s,
    (ensurePodPhase_recurs name ns expectedPhase phases).issued tries s⟩

end Timed

/-! ## The waiters are the same bounded poll -/

/-- **The recursive and the iterative waiters are bounded polls** with a budget of `61 - tries`
questions, on every sequence of outcomes that print nothing or something well-formed. -/
theorem waiters_boundedPoll (name ns expectedPhase : String) (tries : ℕ)
    {workloads : ℕ → Outcome WorkloadDoc} {phases : ℕ → Outcome PhaseDoc}
    (addresses : ℕ → Outcome String)
    (hworkloads : ∀ k doc, (workloads k).stdout = some doc → doc.WellFormed)
    (hphases : ∀ k doc, (phases k).stdout = some doc → doc.WellFormed) :
    BoundedPoll (Timed.ensureDeployReady workloads name ns tries)
        (fun k => readyFound (workloads k)) (.getDeploy name ns) (61 - tries)
        (.exception s!"Exceed max tries to ensure rc {name} ready") ∧
      BoundedPoll (Timed.ensureNamespacePhase phases name expectedPhase tries)
        (fun k => phaseFound expectedPhase (phases k)) (.getNs name) (61 - tries)
        (.exception s!"Exceed max tries to ensure namespace {name}'s status ({expectedPhase})") ∧
      BoundedPoll (Timed.ensurePodPhase phases name expectedPhase ns tries)
        (fun k => phaseFound expectedPhase (phases k)) (.getPods name ns) (61 - tries)
        (.exception s!"Exceed max tries to ensure pod {name}'s phase ({expectedPhase})") ∧
      BoundedPoll (Timed.getIngressAddress addresses name tries)
        (fun k => addressFound (addresses k)) (.getIngressIp name) (61 - tries)
        (.exception s!"Exceed max tries to get ing {name}'s IP") := by
  have hready : ∀ k, ∃ b, readyAnswer (workloads k) = .ok b :=
    fun k => readyAnswer_eq_ok (hworkloads k)
  have hphase : ∀ k, ∃ b, phaseAnswer expectedPhase (phases k) = .ok b :=
    fun k => phaseAnswer_eq_ok expectedPhase (hphases k)
  refine ⟨?_, ?_, ?_, ?_⟩
  · have hpoll : ∀ issued, isDeployReady workloads name ns (.bool true) issued =
        (readyAnswer (workloads issued.length), issued ++ [.getDeploy name ns]) :=
      isWorkloadReady_apply workloads (.getDeploy name ns)
    exact boundedPoll_of_steps
      ((Timed.ensureDeployReady_recurs name ns workloads).steps hpoll hready) tries
  · have hpoll := isInPhase_apply phases (.getNs name) expectedPhase
    exact boundedPoll_of_steps
      ((Timed.ensureNamespacePhase_recurs name expectedPhase phases).steps hpoll hphase) tries
  · have hpoll := isInPhase_apply phases (.getPods name ns) expectedPhase
    exact boundedPoll_of_steps
      ((Timed.ensurePodPhase_recurs name ns expectedPhase phases).steps hpoll hphase) tries
  · exact boundedPoll_of_steps (Timed.getIngressAddress_steps name addresses) tries

/-- A deployment that is not there at the first call, and is ready from then on. -/
def comesUp (k : ℕ) : Outcome WorkloadDoc :=
  if k = 0 then ⟨none, 1⟩ else ⟨some ⟨⟨3⟩, some ⟨some 3, some 3⟩⟩, 0⟩

/-- A pod that stays pending. -/
def staysPending (_k : ℕ) : Outcome PhaseDoc := ⟨some ⟨some ⟨some "Pending"⟩⟩, 0⟩

/-- With two polls left, one waiter returns at the second and the other raises after it. -/
theorem waiters_boundedPoll_twoLeft :
    Timed.ensureDeployReady comesUp "kubia" "pod-test" 59 ⟨[], []⟩ =
        (.ok (), ⟨[.getDeploy "kubia" "pod-test", .getDeploy "kubia" "pod-test"], [3]⟩) ∧
      Timed.ensurePodPhase staysPending "kubia" "Running" "pod-test" 59 ⟨[], []⟩ =
        (.error (.exception "Exceed max tries to ensure pod kubia's phase (Running)"),
          ⟨[.getPods "kubia" "pod-test", .getPods "kubia" "pod-test"], [3, 3]⟩) := by
  have hready : ∀ k doc, (comesUp k).stdout = some doc → doc.WellFormed := by
    intro k doc hdoc
    by_cases hk : k = 0
    · simp [comesUp, hk] at hdoc
    · simp only [comesUp, hk, if_false, Option.some.injEq] at hdoc
      exact ⟨⟨some 3, some 3⟩, by rw [← hdoc], fun _ => ⟨3, rfl⟩⟩
  have hphase : ∀ k doc, (staysPending k).stdout = some doc → doc.WellFormed := by
    intro k doc hdoc
    simp only [staysPending, Option.some.injEq] at hdoc
    exact ⟨⟨some "Pending"⟩, "Pending", by rw [← hdoc], rfl⟩
  obtain ⟨hdeploy, -, hpod, -⟩ := waiters_boundedPoll "kubia" "pod-test" "Running" 59
    (fun _ => ⟨none, 0⟩) hready hphase
  refine ⟨(hdeploy ⟨[], []⟩).1 1 () ⟨rfl, ?_⟩ (by decide), (hpod ⟨[], []⟩).2 ?_⟩
  · intro i hi
    have hzero : i = 0 := by omega
    rw [hzero]
    rfl
  · rintro j b ⟨hj, -⟩
    cases hj

end PythonForFun.K8s
