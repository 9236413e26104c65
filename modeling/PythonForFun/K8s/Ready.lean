import PythonForFun.K8s.Utils

set_option relaxedAutoImplicit false
set_option autoImplicit false

/-!
# What readiness says about the desired state

The readiness tests compare two numbers of the `status`, which the controller reported, and
never look at `spec.replicas`, which the user asked for. While the controller has not caught
up with the `spec`, both reported numbers may agree on an older one.

## Main definitions

* `K8s.WorkloadDoc.readyCount` — the number of ready replicas, an omitted one being 0.
* `K8s.WorkloadDoc.Settled` — the snapshots on which readiness speaks about the `spec`.

## Main results

* `K8s.ready_sound_iff` — the tests and the waiter are right exactly on these.
* `K8s.ensureDeployReady_too_early` — a deployment scaled from 3 to 5 counts as ready at 3.
-/

namespace PythonForFun.K8s

/-- The number of ready replicas the controller reported; the field is omitted when it is 0. -/
def WorkloadDoc.readyCount (doc : WorkloadDoc) : ℕ :=
  (doc.status.bind WorkloadStatus.readyReplicas).getD 0

/-- The controller reports the replicas the `spec` asks for, or none that is ready, or not all
of those it reports as ready. -/
def WorkloadDoc.Settled (doc : WorkloadDoc) : Prop :=
  ∀ status, doc.status = some status →
    status.replicas = some doc.spec.replicas ∨ status.readyReplicas.getD 0 = 0 ∨
      status.replicas ≠ status.readyReplicas

/-- The controller reports no ready replica, or fewer or more replicas than ready ones. -/
def WorkloadDoc.Pending (doc : WorkloadDoc) : Prop :=
  ∃ status, doc.status = some status ∧
    (status.readyReplicas.getD 0 = 0 ∨
      ∃ replicas, status.replicas = some replicas ∧ status.readyReplicas ≠ some replicas)

/-! ## The answer read off a document -/

/-- A document counts as ready when its two reported numbers agree and are not 0. -/
theorem isReady_eq_done_iff (doc : WorkloadDoc) :
    doc.isReady = .ok true ↔
      ∃ status ready, doc.status = some status ∧ status.readyReplicas = some ready ∧
        ready ≠ 0 ∧ status.replicas = some ready := by
  obtain ⟨spec, status⟩ := doc
  cases status with
  | none => simp [WorkloadDoc.isReady]
  | some status =>
    obtain ⟨replicas, readyReplicas⟩ := status
    cases readyReplicas with
    | none => simp [WorkloadDoc.isReady]
    | some ready =>
      by_cases hzero : ready = 0
      · simp [WorkloadDoc.isReady, hzero]
      · cases replicas with
        | none => simp [WorkloadDoc.isReady, hzero]
        | some replicas => simp [WorkloadDoc.isReady, hzero]

/-- A document asks to go on when it is pending. -/
theorem isReady_eq_again_iff (doc : WorkloadDoc) : doc.isReady = .ok false ↔ doc.Pending := by
  obtain ⟨spec, status⟩ := doc
  cases status with
  | none => simp [WorkloadDoc.isReady, WorkloadDoc.Pending]
  | some status =>
    obtain ⟨replicas, readyReplicas⟩ := status
    cases readyReplicas with
    | none => simp [WorkloadDoc.isReady, WorkloadDoc.Pending]
    | some ready =>
      by_cases hzero : ready = 0
      · simp [WorkloadDoc.isReady, WorkloadDoc.Pending, hzero]
      · cases replicas with
        | none => simp [WorkloadDoc.isReady, WorkloadDoc.Pending, hzero]
        | some replicas =>
          have hcomm : ¬ replicas = ready ↔ ¬ ready = replicas := ne_comm
          simp [WorkloadDoc.isReady, WorkloadDoc.Pending, hzero, hcomm]

/-- **Readiness of a snapshot is right exactly when the snapshot is settled.**

**Proof sketch.** A document that counts as ready reports one number twice. It is the number
the `spec` asks for iff the document is settled, since the other two ways of being settled are
excluded. -/
theorem isReady_sound_iff (doc : WorkloadDoc) :
    (doc.isReady = .ok true → doc.readyCount = doc.spec.replicas) ↔ doc.Settled := by
  rw [isReady_eq_done_iff]
  constructor
  · intro h status hstatus
    by_cases hzero : status.readyReplicas.getD 0 = 0
    · exact Or.inr (Or.inl hzero)
    · by_cases hsame : status.replicas = status.readyReplicas
      · left
        cases hready : status.readyReplicas with
        | none =>
          rw [hready] at hzero
          exact absurd rfl hzero
        | some ready =>
          rw [hready] at hzero hsame
          have hcount := h ⟨status, ready, hstatus, hready, hzero, hsame⟩
          rw [WorkloadDoc.readyCount, hstatus, Option.bind_some, hready] at hcount
          rw [hsame, ← hcount]
          rfl
      · exact Or.inr (Or.inr hsame)
  · rintro h ⟨status, ready, hstatus, hready, hzero, hreplicas⟩
    rw [WorkloadDoc.readyCount, hstatus, Option.bind_some, hready]
    rcases h status hstatus with hspec | hnone | hdiff
    · rw [hspec] at hreplicas
      exact (Option.some.inj hreplicas).symm
    · rw [hready] at hnone
      exact absurd hnone hzero
    · rw [hready] at hdiff
      exact absurd hreplicas hdiff

/-! ## The tests and the waiter -/

/-- A readiness test answers by the document `run` returned, if any. -/
theorem isWorkloadReady_eq_done_iff {kubectl : ℕ → Outcome WorkloadDoc} {cmd : Kubectl}
    {quiet : Value} {issued : Issued} :
    (∃ issued', isWorkloadReady kubectl cmd quiet issued = (.ok true, issued')) ↔
      ∃ doc, run (kubectl issued.length) quiet = .ok (some doc) ∧ doc.isReady = .ok true := by
  rw [isWorkloadReady, Prog.bind_apply, sh]
  cases run (kubectl issued.length) quiet with
  | error e => simp
  | ok stdout =>
    cases stdout with
    | none => simp
    | some doc => simp

/-- **A readiness test is right exactly when the document it reads is settled.** -/
theorem isWorkloadReady_sound_iff (kubectl : ℕ → Outcome WorkloadDoc) (cmd : Kubectl)
    (quiet : Value) (issued : Issued) :
    ((∃ issued', isWorkloadReady kubectl cmd quiet issued = (.ok true, issued')) →
        ∃ doc, run (kubectl issued.length) quiet = .ok (some doc) ∧
          doc.readyCount = doc.spec.replicas) ↔
      ∀ doc, run (kubectl issued.length) quiet = .ok (some doc) → doc.Settled := by
  rw [isWorkloadReady_eq_done_iff]
  constructor
  · intro h doc hdoc
    refine (isReady_sound_iff doc).mp fun hready => ?_
    obtain ⟨doc', hdoc', hcount⟩ := h ⟨doc, hdoc, hready⟩
    rw [hdoc] at hdoc'
    cases hdoc'
    exact hcount
  · rintro h ⟨doc, hdoc, hready⟩
    exact ⟨doc, hdoc, (isReady_sound_iff doc).mpr (h doc hdoc) hready⟩

/-- The waiter goes on after a call: nothing was printed, or a pending document. -/
def Outcome.Pending (proc : Outcome WorkloadDoc) : Prop :=
  ∀ doc, proc.stdout = some doc → doc.Pending

/-- A poll asks to go on when its outcome is pending. -/
theorem readyAnswer_eq_again_iff (proc : Outcome WorkloadDoc) :
    readyAnswer proc = .ok false ↔ proc.Pending := by
  obtain ⟨stdout, returncode⟩ := proc
  cases stdout with
  | none => simp [readyAnswer, Outcome.Pending]
  | some doc => simp [readyAnswer, Outcome.Pending, isReady_eq_again_iff]

/-- **The readiness waiter is right exactly when it ends on a settled document.** -/
theorem ensureDeployReady_sound_iff (kubectl : ℕ → Outcome WorkloadDoc) (name ns : String)
    (tries : ℕ) (issued : Issued) :
    (∀ issued', ensureDeployReady kubectl name ns tries issued = (.ok (), issued') →
        ∃ doc, (kubectl (issued'.length - 1)).stdout = some doc ∧
          doc.readyCount = doc.spec.replicas) ↔
      ∀ j, issued.length ≤ j → j < issued.length + (61 - tries) →
        (∀ i, issued.length ≤ i → i < j → (kubectl i).Pending) →
        ∀ doc, (kubectl j).stdout = some doc → doc.Settled := by
  have hpoll := isWorkloadReady_apply kubectl (.getDeploy name ns)
  have hsound := @waitTries_sound_iff
    (.exception s!"Exceed max tries to ensure rc {name} ready") _
    (fun k => readyAnswer (kubectl k)) _ hpoll tries issued
    (fun j => ∃ doc, (kubectl j).stdout = some doc ∧ doc.readyCount = doc.spec.replicas)
  have hreaches : ∀ j, Poll.Reaches (fun k => readyAnswer (kubectl k)) issued.length j ↔
      issued.length ≤ j ∧ ∀ i, issued.length ≤ i → i < j → (kubectl i).Pending :=
    fun j => Poll.reaches_iff fun i => readyAnswer_eq_again_iff (kubectl i)
  refine hsound.trans ?_
  constructor
  · intro h j hkj hlt hbefore doc hdoc
    refine (isReady_sound_iff doc).mp fun hready => ?_
    have hdone : readyAnswer (kubectl j) = .ok true := by
      rw [readyAnswer, hdoc]
      exact hready
    obtain ⟨doc', hdoc', hcount⟩ := h j hlt ((hreaches j).mpr ⟨hkj, hbefore⟩) hdone
    rw [hdoc] at hdoc'
    cases hdoc'
    exact hcount
  · intro h j hlt hreach hdone
    obtain ⟨hkj, hbefore⟩ := (hreaches j).mp hreach
    cases hdoc : (kubectl j).stdout with
    | none =>
      rw [readyAnswer, hdoc] at hdone
      cases hdone
    | some doc =>
      rw [readyAnswer, hdoc] at hdone
      have hsettled := h j hkj hlt hbefore doc hdoc
      exact ⟨doc, rfl, (isReady_sound_iff doc).mpr hsettled hdone⟩

/-! ## The exact condition -/

/-- **Readiness is sound exactly on settled snapshots**: whenever a readiness test returns
`True`, or the waiter returns, the number of ready replicas is the one the `spec` asks for, iff
the document that is read, or that ends the wait, is settled. -/
theorem ready_sound_iff (kubectl : ℕ → Outcome WorkloadDoc) (name ns : String) (quiet : Value)
    (tries : ℕ) (issued : Issued) :
    (((∃ issued', isDeployReady kubectl name ns quiet issued = (.ok true, issued')) →
          ∃ doc, run (kubectl issued.length) quiet = .ok (some doc) ∧
            doc.readyCount = doc.spec.replicas) ↔
        ∀ doc, run (kubectl issued.length) quiet = .ok (some doc) → doc.Settled) ∧
      (((∃ issued', isRcReady kubectl name ns issued = (.ok true, issued')) →
          ∃ doc, (kubectl issued.length).stdout = some doc ∧
            doc.readyCount = doc.spec.replicas) ↔
        ∀ doc, (kubectl issued.length).stdout = some doc → doc.Settled) ∧
      ((∀ issued', ensureDeployReady kubectl name ns tries issued = (.ok (), issued') →
          ∃ doc, (kubectl (issued'.length - 1)).stdout = some doc ∧
            doc.readyCount = doc.spec.replicas) ↔
        ∀ j, issued.length ≤ j → j < issued.length + (61 - tries) →
          (∀ i, issued.length ≤ i → i < j → (kubectl i).Pending) →
          ∀ doc, (kubectl j).stdout = some doc → doc.Settled) := by
  refine ⟨?_, ?_, ?_⟩
  · exact isWorkloadReady_sound_iff kubectl (.getDeploy name ns) quiet issued
  · have hrc := isWorkloadReady_sound_iff kubectl (.getRc name ns) (.bool true) issued
    simp only [run_quiet, Except.ok.injEq] at hrc
    exact hrc
  · exact ensureDeployReady_sound_iff kubectl name ns tries issued

/-- A deployment scaled from 3 to 5 replicas, before its controller has seen the new `spec`. -/
def scaledUp : WorkloadDoc := ⟨⟨5⟩, some ⟨some 3, some 3⟩⟩

/-- **A wait that ends too early**: the test and the waiter take the scaled deployment for
ready although 3 replicas are ready and the `spec` asks for 5. -/
theorem ensureDeployReady_too_early :
    isDeployReady (fun _ => ⟨some scaledUp, 0⟩) "frontend" "pod-test" (.bool true) [] =
        (.ok true, [.getDeploy "frontend" "pod-test"]) ∧
      ensureDeployReady (fun _ => ⟨some scaledUp, 0⟩) "frontend" "pod-test" 1 [] =
        (.ok (), [.getDeploy "frontend" "pod-test"]) ∧
      scaledUp.readyCount = 3 ∧ scaledUp.spec.replicas = 5 := by
  have hpoll := isWorkloadReady_apply (fun _ => ⟨some scaledUp, 0⟩)
    (.getDeploy "frontend" "pod-test")
  refine ⟨hpoll [], ?_, rfl, rfl⟩
  have happly := @waitTries_apply
    (.exception "Exceed max tries to ensure rc frontend ready") _
    (fun _ => readyAnswer ⟨some scaledUp, 0⟩) _ hpoll 1 []
  exact happly

end PythonForFun.K8s
