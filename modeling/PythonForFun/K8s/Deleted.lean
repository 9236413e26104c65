import PythonForFun.K8s.Utils

set_option relaxedAutoImplicit false
set_option autoImplicit false

/-!
# Waiting for deletion

A phase waiter that waits for `Deleted` takes an empty output for the absence of the object.
The output is empty as well when the call failed for any other reason, since a quiet `run`
drops the exit status. So such a wait is right as long as the poll it ends on did not fail
while the object was there.

## Main definitions

* `K8s.Observation` — what happened at one poll, and whether the object existed then.
* `K8s.NotMisled` — the histories on which a wait for deletion is not misled.

## Main results

* `K8s.ensureDeleted_sound_iff` — the waiters and `init_test_env` are right exactly on these.
* `K8s.ensurePodPhase_misled` — a call that fails once makes the waiter return early.
-/

namespace PythonForFun.K8s

/-! ## What a poll sees -/

/-- What happened at one poll. -/
inductive Observation
  /-- The object was printed. -/
  | printed (doc : PhaseDoc)
  /-- The object is absent, and the call said so on its error stream. -/
  | absent
  /-- The call failed for another reason, whether the object exists or not. -/
  | failed (objectExists : Bool) (returncode : ℤ)
  deriving DecidableEq

/-- What `kubectl` printed, and its exit status. -/
def Observation.outcome : Observation → Outcome PhaseDoc
  | .printed doc => ⟨some doc, 0⟩
  | .absent => ⟨none, 1⟩
  | .failed _ returncode => ⟨none, returncode⟩

/-- Whether the object existed at the poll. -/
def Observation.objectExists : Observation → Bool
  | .printed _ => true
  | .absent => false
  | .failed objectExists _ => objectExists

/-- The object was printed with a phase other than `Deleted`. -/
def Observation.Pending : Observation → Prop
  | .printed doc =>
    match doc.phase with
    | .ok phase => phase ≠ "Deleted"
    | .error _ => False
  | _ => False

/-- The call failed while the object existed, or it printed an object whose phase is
`Deleted`, which no pod or namespace has. -/
def Observation.Misleading : Observation → Prop
  | .printed doc => doc.phase = .ok "Deleted"
  | .absent => False
  | .failed objectExists _ => objectExists = true

/-- What `kubectl` answers in a history of observations. -/
def outcomes (obs : ℕ → Observation) : ℕ → Outcome PhaseDoc := fun k => (obs k).outcome

/-- The answer of one poll, by whether the object was printed. -/
theorem phaseAnswer_eq_again_iff (o : Observation) :
    phaseAnswer "Deleted" o.outcome = .ok false ↔ o.Pending := by
  cases o with
  | absent => simp [phaseAnswer, Observation.outcome, Observation.Pending]
  | failed objectExists returncode =>
    simp [phaseAnswer, Observation.outcome, Observation.Pending]
  | printed doc =>
    simp only [phaseAnswer, Observation.outcome, Observation.Pending]
    cases doc.phase with
    | error e => simp [Except.map]
    | ok phase => simp [Except.map]

/-- A poll that ends the wait although the object exists is a misleading one. -/
theorem misleading_iff (o : Observation) :
    o.Misleading ↔ phaseAnswer "Deleted" o.outcome = .ok true ∧ o.objectExists = true := by
  cases o with
  | absent => simp [Observation.objectExists, Observation.Misleading]
  | failed objectExists returncode =>
    simp [phaseAnswer, Observation.outcome, Observation.objectExists, Observation.Misleading]
  | printed doc =>
    simp only [phaseAnswer, Observation.outcome, Observation.objectExists,
      Observation.Misleading]
    cases doc.phase with
    | error e => simp [Except.map]
    | ok phase => simp [Except.map]

/-! ## When a wait is not misled -/

/-- Within the budget of `tries`, the first poll from `k` on that does not print the object
with another phase is not misleading. -/
def NotMisled (obs : ℕ → Observation) (k tries : ℕ) : Prop :=
  ∀ j, k ≤ j → j < k + (61 - tries) → (∀ i, k ≤ i → i < j → (obs i).Pending) →
    ¬ (obs j).Misleading

/-- **A wait for deletion is right exactly when it is not misled.** -/
theorem waitDeleted_sound_iff (timeout : PyErr) (cmd : Kubectl) (obs : ℕ → Observation)
    (tries : ℕ) (issued : Issued) :
    (∀ issued', waitTries timeout (isInPhase (outcomes obs) cmd "Deleted") tries issued =
          (.ok (), issued') →
        (obs (issued'.length - 1)).objectExists = false) ↔
      NotMisled obs issued.length tries := by
  have hpoll := isInPhase_apply (outcomes obs) cmd "Deleted"
  have hsound := @waitTries_sound_iff timeout _
    (fun k => phaseAnswer "Deleted" (outcomes obs k)) cmd hpoll tries issued
    (fun j => (obs j).objectExists = false)
  rw [hsound]
  have hreaches : ∀ j, Poll.Reaches (fun k => phaseAnswer "Deleted" (outcomes obs k))
      issued.length j ↔ issued.length ≤ j ∧ ∀ i, issued.length ≤ i → i < j → (obs i).Pending :=
    fun j => Poll.reaches_iff fun i => phaseAnswer_eq_again_iff (obs i)
  constructor
  · intro h j hkj hlt hbefore hmis
    obtain ⟨hdone, hexists⟩ := (misleading_iff (obs j)).mp hmis
    have habsent := h j hlt ((hreaches j).mpr ⟨hkj, hbefore⟩) hdone
    rw [hexists] at habsent
    cases habsent
  · intro h j hlt hreach hdone
    cases hexists : (obs j).objectExists with
    | false => rfl
    | true =>
      obtain ⟨hkj, hbefore⟩ := (hreaches j).mp hreach
      have hmis := (misleading_iff (obs j)).mpr ⟨hdone, hexists⟩
      exact absurd hmis (h j hkj hlt hbefore)

/-- `ensure_pod_phase(name, 'Deleted', ns, tries)`. -/
theorem ensurePodPhase_deleted_sound_iff (obs : ℕ → Observation) (name ns : String)
    (tries : ℕ) (issued : Issued) :
    (∀ issued', ensurePodPhase (outcomes obs) name "Deleted" ns tries issued =
          (.ok (), issued') →
        (obs (issued'.length - 1)).objectExists = false) ↔
      NotMisled obs issued.length tries :=
  waitDeleted_sound_iff _ (.getPods name ns) obs tries issued

/-- `ensure_namespace_phase(name, 'Deleted', tries)`. -/
theorem ensureNamespacePhase_deleted_sound_iff (obs : ℕ → Observation) (name : String)
    (tries : ℕ) (issued : Issued) :
    (∀ issued', ensureNamespacePhase (outcomes obs) name "Deleted" tries issued =
          (.ok (), issued') →
        (obs (issued'.length - 1)).objectExists = false) ↔
      NotMisled obs issued.length tries :=
  waitDeleted_sound_iff _ (.getNs name) obs tries issued

/-! ## Preparing a namespace -/

/-- `init_test_env` deletes the namespace, waits, and creates it if the wait returned. -/
theorem initTestEnv_apply (kubectl : ℕ → Outcome PhaseDoc) (ns : String) (issued : Issued) :
    initTestEnv kubectl ns issued =
      match ensureNamespacePhase kubectl ns "Deleted" 1 (issued ++ [.deleteNs ns]) with
      | (.ok (), issued') => (.ok (), issued' ++ [.createNs ns])
      | (.error e, issued') => (.error e, issued') := by
  rw [initTestEnv, Prog.bind_apply, sh, run_quiet]
  simp only [Prog.bind_apply, sh, run_quiet]
  generalize ensureNamespacePhase kubectl ns "Deleted" 1 (issued ++ [.deleteNs ns]) = w
  obtain ⟨r, issued'⟩ := w
  cases r with
  | error e => rfl
  | ok u => rfl

/-- The wait of `init_test_env` issues nothing but its polls. -/
theorem ensureNamespacePhase_issued (kubectl : ℕ → Outcome PhaseDoc) (ns phase : String)
    (tries : ℕ) (issued : Issued) :
    ∃ m, (ensureNamespacePhase kubectl ns phase tries issued).2 =
      issued ++ List.replicate m (.getNs ns) := by
  have hpoll := isInPhase_apply kubectl (.getNs ns) phase
  rw [ensureNamespacePhase, @waitTries_apply _ _ (fun k => phaseAnswer phase (kubectl k)) _ hpoll]
  exact ⟨_, rfl⟩

/-- **`init_test_env` creates the namespace only when the old one is gone, exactly when its
wait is not misled.** The last poll is the last command but one. -/
theorem initTestEnv_sound_iff (obs : ℕ → Observation) (ns : String) (issued : Issued) :
    (∀ r issued', initTestEnv (outcomes obs) ns issued = (r, issued') →
        .createNs ns ∈ issued'.drop issued.length →
        (obs (issued'.length - 2)).objectExists = false) ↔
      NotMisled obs (issued.length + 1) 1 := by
  have hlen : (issued ++ [Kubectl.deleteNs ns]).length = issued.length + 1 := by
    rw [List.length_append, List.length_singleton]
  rw [← hlen, ← ensureNamespacePhase_deleted_sound_iff obs ns 1]
  have hinit := initTestEnv_apply (outcomes obs) ns issued
  obtain ⟨m, hm⟩ :=
    ensureNamespacePhase_issued (outcomes obs) ns "Deleted" 1 (issued ++ [.deleteNs ns])
  have hdrop : ((issued ++ [Kubectl.deleteNs ns]) ++ List.replicate m (Kubectl.getNs ns)).drop
      issued.length = .deleteNs ns :: List.replicate m (.getNs ns) := by
    rw [List.append_assoc, List.drop_left]
    rfl
  constructor
  · intro h issued' hwait
    rw [hwait] at hinit hm
    have hissued : issued' = (issued ++ [.deleteNs ns]) ++ List.replicate m (.getNs ns) := hm
    have hcreate :
        Kubectl.createNs ns ∈ (issued' ++ [Kubectl.createNs ns]).drop issued.length := by
      have hle : issued.length ≤ issued'.length := by
        rw [hissued, List.append_assoc, List.length_append]
        exact Nat.le_add_right _ _
      rw [List.drop_append_of_le_length hle]
      exact List.mem_append_right _ List.mem_cons_self
    have habsent := h (.ok ()) (issued' ++ [.createNs ns]) hinit hcreate
    rwa [List.length_append] at habsent
  · intro h r issued' hrun hcreate
    rw [hinit] at hrun
    rcases hwait : ensureNamespacePhase (outcomes obs) ns "Deleted" 1
      (issued ++ [.deleteNs ns]) with ⟨r', w⟩
    rw [hwait] at hrun hm
    cases r' with
    | ok u =>
      have hissued : issued' = w ++ [.createNs ns] := (congrArg Prod.snd hrun).symm
      rw [hissued, List.length_append]
      exact h w hwait
    | error e =>
      have hissued : issued' = (issued ++ [.deleteNs ns]) ++ List.replicate m (.getNs ns) :=
        (congrArg Prod.snd hrun).symm.trans hm
      rw [hissued, hdrop] at hcreate
      rcases List.mem_cons.mp hcreate with hcreate | hcreate
      · cases hcreate
      · cases List.eq_of_mem_replicate hcreate

/-! ## The exact condition -/

/-- **Waiting for deletion is sound exactly when it is not misled**: the two waiters return
only when the object did not exist at their last poll, and `init_test_env` creates the
namespace only when the old one did not exist at the last poll before, iff within the budget
the first poll that does not print the object with another phase is not misleading. -/
theorem ensureDeleted_sound_iff (obs : ℕ → Observation) (name ns : String) (tries : ℕ)
    (issued : Issued) :
    ((∀ issued', ensurePodPhase (outcomes obs) name "Deleted" ns tries issued =
            (.ok (), issued') →
          (obs (issued'.length - 1)).objectExists = false) ↔
        NotMisled obs issued.length tries) ∧
      ((∀ issued', ensureNamespacePhase (outcomes obs) name "Deleted" tries issued =
            (.ok (), issued') →
          (obs (issued'.length - 1)).objectExists = false) ↔
        NotMisled obs issued.length tries) ∧
      ((∀ r issued', initTestEnv (outcomes obs) ns issued = (r, issued') →
          .createNs ns ∈ issued'.drop issued.length →
          (obs (issued'.length - 2)).objectExists = false) ↔
        NotMisled obs (issued.length + 1) 1) :=
  ⟨ensurePodPhase_deleted_sound_iff obs name ns tries issued,
    ensureNamespacePhase_deleted_sound_iff obs name tries issued,
    initTestEnv_sound_iff obs ns issued⟩

/-- A pod that keeps running while the API server cannot be reached at the first poll. -/
def unreachableOnce : ℕ → Observation
  | 0 => .failed true 1
  | _ + 1 => .printed ⟨some ⟨some "Running"⟩⟩

/-- **A wait that is misled**: the waiter takes the failed call for the pod's deletion, and
returns after its first poll while the pod exists. -/
theorem ensurePodPhase_misled :
    ensurePodPhase (outcomes unreachableOnce) "requests-pod-2" "Deleted"
        "computational-resource-test" 1 [] =
      (.ok (), [.getPods "requests-pod-2" "computational-resource-test"]) ∧
    (unreachableOnce 0).objectExists = true := by
  refine ⟨?_, rfl⟩
  have hpoll := isInPhase_apply (outcomes unreachableOnce)
    (.getPods "requests-pod-2" "computational-resource-test") "Deleted"
  rw [ensurePodPhase, @waitTries_apply _ _
    (fun k => phaseAnswer "Deleted" (outcomes unreachableOnce k)) _ hpoll]
  rfl

end PythonForFun.K8s
