import PythonForFun.RabbitMQ.Partition

set_option relaxedAutoImplicit false
set_option autoImplicit false

/-!
# The two copies of `run`

`run` stands in `rabbitmq/rabbitmq_utils.py` and, copied, in `mongodb/mongodb_utils.py`. Both
translate the two streams when a translation is given, but the helper `translate` came along
with the first file only. The copies agree on every outcome of a script as long as no
translation is passed, and on no outcome when one is, the empty dictionary included.

## Main definitions

* `RabbitMQ.errAttributes` — the attributes `err_code` and `err_msg` of an exception.
* `RabbitMQ.RunsAgree` — the two copies do the same, and raise exactly on a reported failure.

## Main results

* `RabbitMQ.runsAgree_iff` — the copies agree iff no translation is given.
-/

namespace PythonForFun.RabbitMQ

/-- The attributes `err_code` and `err_msg` of an exception that has them. -/
def errAttributes : PyErr → Option (ℤ × String)
  | .commandFailed errCode errMsg => some (errCode, errMsg)
  | _ => none

/-- Both calls return the same pair, or both raise with the same `err_code` and `err_msg`. -/
def SameOutcome : (r r' : Except PyErr (String × String)) → Prop
  | .ok out, .ok out' => out = out'
  | .error e, .error e' => (errAttributes e).isSome ∧ errAttributes e = errAttributes e'
  | _, _ => False

/-- A call raises. -/
def Raises (r : Except PyErr (String × String)) : Prop := ∃ e, r = .error e

/-- The copies of `run` agree on a script's outcome, and raise iff `quiet` is `False` and the
exit status is not `0`. -/
structure RunsAgree (proc : ProcResult) (quiet : Value)
    (translation : Option (Dict String String)) : Prop where
  same : SameOutcome (run proc quiet translation) (MongoDB.run proc quiet translation)
  raises : Raises (run proc quiet translation) ↔ quiet.isFalse ∧ proc.returncode ≠ 0
  raises' : Raises (MongoDB.run proc quiet translation) ↔ quiet.isFalse ∧ proc.returncode ≠ 0

/-- Without a translation the two bodies are the same. -/
theorem run_none (proc : ProcResult) (quiet : Value) :
    run proc quiet none = MongoDB.run proc quiet none := rfl

/-- With a translation the copy in `mongodb_utils.py` stops at the name `translate`. -/
theorem mongoRun_some (proc : ProcResult) (quiet : Value) (translation : Dict String String) :
    MongoDB.run proc quiet (some translation) = .error (.nameError "translate") := rfl

/-- Whatever the translation, the copy in `rabbitmq_utils.py` raises exactly on a reported
failure, and then with the exit status. -/
theorem raises_run_iff (proc : ProcResult) (quiet : Value)
    (translation : Option (Dict String String)) :
    Raises (run proc quiet translation) ↔ quiet.isFalse ∧ proc.returncode ≠ 0 := by
  unfold Raises run
  by_cases h : quiet.isFalse = true ∧ proc.returncode ≠ 0
  · simp [h]
  · simp only [h, if_false, reduceCtorEq, exists_false]

/-- The call of `rabbitmq_utils.py` raises nothing but a failed command's exception. -/
theorem sameOutcome_run_self (proc : ProcResult) (quiet : Value)
    (translation : Option (Dict String String)) :
    SameOutcome (run proc quiet translation) (run proc quiet translation) := by
  unfold run
  by_cases h : quiet.isFalse = true ∧ proc.returncode ≠ 0
  · simp [h, SameOutcome, errAttributes]
  · simp only [if_neg h, SameOutcome]

/-- No outcome is the same as a missing name: that exception carries neither attribute. -/
theorem not_sameOutcome_nameError (r : Except PyErr (String × String)) (name : String) :
    ¬ SameOutcome r (.error (.nameError name)) := by
  cases r with
  | ok out => exact id
  | error e =>
    rintro ⟨hsome, heq⟩
    rw [heq] at hsome
    cases hsome

/-- The copies of `run` agree iff no translation is given. -/
theorem runsAgree_iff (proc : ProcResult) (quiet : Value)
    (translation : Option (Dict String String)) :
    RunsAgree proc quiet translation ↔ translation = none := by
  constructor
  · intro h
    cases translation with
    | none => rfl
    | some translation =>
      have hsame := h.same
      rw [mongoRun_some] at hsame
      exact absurd hsame (not_sameOutcome_nameError _ _)
  · rintro rfl
    exact ⟨sameOutcome_run_self proc quiet none, raises_run_iff proc quiet none,
      raises_run_iff proc quiet none⟩

/-- A script that prints `rabbit@ip-10-0-0-7` and exits with `0`, with a translation of that
host name: one copy returns the alias, the other raises a `NameError`. -/
theorem run_differs_on_translation :
    let proc : ProcResult := ⟨"rabbit@ip-10-0-0-7\n", "", 0⟩
    let translation := Dict.ofItems [("ip-10-0-0-7", "rabbit1")]
    run proc (.bool false) (some translation) = .ok ("rabbit@rabbit1", "") ∧
      MongoDB.run proc (.bool false) (some translation) = .error (.nameError "translate") ∧
      ¬ RunsAgree proc (.bool false) (some translation) := by
  intro proc translation
  refine ⟨by decide, mongoRun_some _ _ _, fun h => ?_⟩
  have hsame := h.same
  rw [mongoRun_some] at hsame
  exact not_sameOutcome_nameError _ _ hsame

end PythonForFun.RabbitMQ
