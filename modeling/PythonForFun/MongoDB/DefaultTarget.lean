import PythonForFun.MongoDB.Recovery

set_option relaxedAutoImplicit false
set_option autoImplicit false

/-!
# Elections and the default target

Both helpers take the primary for their target when the caller names none. They wait until a
read of the client's `primary` answers a member, and then unpack another read. An election may
begin between the two reads, and the second one then answers `None`.

## Main definitions

* `MongoDB.ReadsMembers` — the client answers nobody or a member.
* `MongoDB.PrimaryStays` — no election begins between the two reads.
* `MongoDB.SafeDefault` — a call without a target acts on a primary once its wait returned.

## Main results

* `MongoDB.defaultTarget_safe_iff` — both helpers are safe exactly on such read histories.
* `MongoDB.defaultTarget_unpacks_none` — the primary steps down between the two reads.
-/

namespace PythonForFun.MongoDB

/-- The wait of a call without a target. -/
def waitForPrimary (c : Client) : Except PyErr Unit × ℕ :=
  waitUntil strBool (fun k => (c k).isSome) true "None" 10 0

/-- Every read answers nobody or a member, by one of its addresses. -/
def ReadsMembers (rsInfo : RsInfo) (c : Client) : Prop :=
  ∀ k host port, c k = some (host, port) → ∃ e ∈ rsInfo.items, host ∈ e.2.addresses

/-- The read after the first one to answer a member, within eleven reads, answers one as
well. -/
def PrimaryStays (c : Client) : Prop :=
  ∀ j ≤ 10, (∀ i < j, c i = none) → c j ≠ none → c (j + 1) ≠ none

/-- The host belongs to a member that was the primary at some read up to number `k`. -/
def WasPrimary (rsInfo : RsInfo) (c : Client) (k : ℕ) (host : String) : Prop :=
  (∃ i ≤ k, ∃ port, c i = some (host, port)) ∧ ∃ e ∈ rsInfo.items, host ∈ e.2.addresses

/-- Once its wait returned, a call without a target does not raise by unpacking, and goes on as
if the caller had named a member that was the primary at some read of the call. The wait made
the reads before `k`, and the read that is unpacked has the number `k`. -/
def SafeDefault (rsInfo : RsInfo) (c : Client) (call : Option String → Prog PyErr World Unit)
    (w : World) : Prop :=
  ∀ k, waitForPrimary c = (.ok (), k) →
    (call none w).1 ≠ .error .typeError ∧
      ∃ host, WasPrimary rsInfo c k host ∧ call none w = call (some host) w

/-- After the wait, the default target is unpacked from the next read. -/
theorem resolveTarget_none {c : Client} {k : ℕ} (h : waitForPrimary c = (.ok (), k)) :
    resolveTarget c none =
      match c k with
      | none => .error .typeError
      | some (host, _port) => .ok host := by
  rw [waitForPrimary] at h
  cases hk : c k with
  | none => simp [resolveTarget, defaultTarget, h, hk]
  | some primary => simp [resolveTarget, defaultTarget, h, hk]

/-! ## The only `TypeError` of a call is the unpacking -/

/-- A remote command that raises raises by its exit status. -/
theorem ssh_error {remote : ℕ → ProcResult} {ip : String} {cmd : Iptables} {w w' : World}
    {e : PyErr} (h : ssh remote ip cmd w = (.error e, w')) :
    ∃ errCode errMsg, e = .commandFailed errCode errMsg := by
  have hrun : ∀ (proc : ProcResult), run proc = .error e →
      ∃ errCode errMsg, e = .commandFailed errCode errMsg := by
    intro proc hproc
    simp only [run, Option.isSome_none, Bool.false_eq_true, if_false] at hproc
    split at hproc
    · exact ⟨_, _, (Except.error.inj hproc).symm⟩
    · cases hproc
  rw [ssh] at h
  cases hf : cmd.apply (w.filters ip) with
  | none =>
    rw [hf] at h
    exact hrun _ (Prod.mk.inj h).1
  | some f =>
    rw [hf] at h
    exact hrun _ (Prod.mk.inj h).1

/-- A named member is found, and `rs_info` has its entry. -/
theorem exists_found {rsInfo : RsInfo} {host : String}
    (hhost : ∃ e ∈ rsInfo.items, host ∈ e.2.addresses) :
    ∃ node info, findTargetNode rsInfo host = some node ∧ rsInfo.get? node = some info := by
  obtain ⟨e, he, haddr⟩ := hhost
  rcases findTargetNode_cases rsInfo host with ⟨-, hno⟩ | ⟨e', he', -, hfind⟩
  · exact absurd haddr (hno e he)
  · exact ⟨e'.1, e'.2, hfind, rsInfo.get?_eq_some_iff.mpr he'⟩

/-- A partition of a named member does not raise a `TypeError`. -/
theorem mockNetworkPartition_ne_typeError (remote : ℕ → ProcResult) (c : Client)
    {rsInfo : RsInfo} {host : String} (hhost : ∃ e ∈ rsInfo.items, host ∈ e.2.addresses)
    (incoming outcoming : Value) (w : World) :
    (mockNetworkPartition remote c rsInfo (some host) incoming outcoming w).1 ≠
      .error .typeError := by
  intro h
  obtain ⟨node, info, hfind, hget⟩ := exists_found hhost
  rw [mockNetworkPartition_of_found rfl hfind hget] at h
  rcases hrun : cutCommands remote info.ip (peerIps rsInfo node) incoming outcoming w
    with ⟨r, w'⟩
  rw [hrun] at h
  obtain rfl : r = .error .typeError := h
  rcases Prog.bind_eq_error_iff.mp hrun with hfirst | ⟨u, w₁, -, hsecond⟩
  · obtain ⟨errCode, errMsg, hfailed⟩ := ssh_error (ssh_of_sshUnless_error hfirst).2
    cases hfailed
  · obtain ⟨errCode, errMsg, hfailed⟩ := ssh_error (ssh_of_sshUnless_error hsecond).2
    cases hfailed

/-- A recovery of a named member does not raise a `TypeError`. -/
theorem mockNetworkPartitionRecovery_ne_typeError (remote : ℕ → ProcResult) (c : Client)
    {rsInfo : RsInfo} {host : String} (hhost : ∃ e ∈ rsInfo.items, host ∈ e.2.addresses)
    (w : World) :
    (mockNetworkPartitionRecovery remote c rsInfo (some host) w).1 ≠ .error .typeError := by
  intro h
  obtain ⟨node, info, hfind, hget⟩ := exists_found hhost
  simp only [mockNetworkPartitionRecovery, resolveTarget, Prog.ofExcept_ok, pure_bind, hfind,
    hget] at h
  rcases hssh : ssh remote info.ip .flush w with ⟨r, w'⟩
  rw [Prog.bind_apply, hssh] at h
  cases r with
  | ok r => cases h
  | error e =>
    obtain ⟨errCode, errMsg, rfl⟩ := ssh_error hssh
    cases h

/-! ## The exact condition -/

/-- A call that resolves its target first and depends on it only is safe without a target iff
the primary stays.

**Proof sketch.** The wait ends on the first read `j` to answer a member. If the next one
answers one too, the call goes on with it; if not, unpacking it raises. -/
theorem safeDefault_iff {rsInfo : RsInfo} {c : Client} (hc : ReadsMembers rsInfo c)
    {call : Option String → Prog PyErr World Unit} (body : String → Prog PyErr World Unit)
    (hbody : ∀ target, call target = Prog.ofExcept (resolveTarget c target) >>= body) {w : World}
    (hnamed : ∀ host, (∃ e ∈ rsInfo.items, host ∈ e.2.addresses) →
      (call (some host) w).1 ≠ .error .typeError) :
    SafeDefault rsInfo c call w ↔ PrimaryStays c := by
  constructor
  · intro hsafe j hj hno hsome hnext
    have hwait : waitForPrimary c = (.ok (), j + 1) :=
      (waitForPrimary_eq_ok_iff c (j + 1)).mpr ⟨j, hj, hno, hsome, rfl⟩
    refine (hsafe (j + 1) hwait).1 ?_
    rw [hbody, resolveTarget_none hwait, hnext]
    rfl
  · intro hstays k hwait
    obtain ⟨j, hj, hno, hsome, rfl⟩ := (waitForPrimary_eq_ok_iff c k).mp hwait
    obtain ⟨⟨host, port⟩, hread⟩ := Option.ne_none_iff_exists'.mp (hstays j hj hno hsome)
    have hmember := hc (j + 1) host port hread
    have hsame : call none w = call (some host) w := by
      rw [hbody, hbody, resolveTarget_none hwait, hread]
      rfl
    rw [hsame]
    exact ⟨hnamed host hmember, host, ⟨⟨j + 1, Nat.le_refl _, port, hread⟩, hmember⟩, rfl⟩

/-- **The default target is safe exactly when the primary stays**: whatever the client answers
at its reads, once the wait returned the two helpers do not raise by unpacking, and act on a
member that was the primary at some read of the call, iff the read after the first one to
answer a member answers one as well. -/
theorem defaultTarget_safe_iff (remote : ℕ → ProcResult) {rsInfo : RsInfo} {c : Client}
    (hc : ReadsMembers rsInfo c) (incoming outcoming : Value) (w : World) :
    (SafeDefault rsInfo c
        (fun target => mockNetworkPartition remote c rsInfo target incoming outcoming) w ↔
      PrimaryStays c) ∧
    (SafeDefault rsInfo c (fun target => mockNetworkPartitionRecovery remote c rsInfo target) w ↔
      PrimaryStays c) := by
  constructor
  · exact safeDefault_iff hc _ (fun _ => rfl) fun host hhost =>
      mockNetworkPartition_ne_typeError remote c hhost incoming outcoming w
  · exact safeDefault_iff hc _ (fun _ => rfl) fun host hhost =>
      mockNetworkPartitionRecovery_ne_typeError remote c hhost w

theorem defaultTarget_safe_iff_steady :
    SafeDefault threeMembers (steadyPrimary "ec2-18-0-0-1")
        (fun target => mockNetworkPartition allSucceed (steadyPrimary "ec2-18-0-0-1")
          threeMembers target (.bool false) (.bool false)) freshWorld ↔
      PrimaryStays (steadyPrimary "ec2-18-0-0-1") := by
  have hc : ReadsMembers threeMembers (steadyPrimary "ec2-18-0-0-1") := by
    intro k host port h
    obtain ⟨rfl, rfl⟩ : "ec2-18-0-0-1" = host ∧ 27017 = port := by
      simpa [steadyPrimary] using h
    exact ⟨_, List.mem_cons_self, by decide⟩
  exact (defaultTarget_safe_iff allSucceed hc (.bool false) (.bool false) freshWorld).1

/-- The first member is the primary at the first read, and steps down before the second. -/
def stepsDown : Client := fun k => if k = 0 then some ("ec2-18-0-0-1", 27017) else none

/-- **The unpacking raises**: the wait returns on the first read, the second one answers
`None`, and both helpers end with a `TypeError`. -/
theorem defaultTarget_unpacks_none :
    ReadsMembers threeMembers stepsDown ∧ waitForPrimary stepsDown = (.ok (), 1) ∧
      mockNetworkPartition allSucceed stepsDown threeMembers none (.bool false) (.bool false)
        freshWorld = (.error .typeError, freshWorld) ∧
      mockNetworkPartitionRecovery allSucceed stepsDown threeMembers none freshWorld =
        (.error .typeError, freshWorld) ∧
      ¬ SafeDefault threeMembers stepsDown (fun target => mockNetworkPartition allSucceed stepsDown
        threeMembers target (.bool false) (.bool false)) freshWorld := by
  refine ⟨fun k host port h => ?_, rfl, rfl, rfl, fun hsafe => (hsafe 1 rfl).1 rfl⟩
  unfold stepsDown at h
  split at h
  · obtain ⟨rfl, rfl⟩ : "ec2-18-0-0-1" = host ∧ 27017 = port := by simpa using h
    exact ⟨_, List.mem_cons_self, by decide⟩
  · cases h

end PythonForFun.MongoDB
