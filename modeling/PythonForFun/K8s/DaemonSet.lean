import Mathlib.Algebra.Ring.Nat
import PythonForFun.Lib.Regex

set_option relaxedAutoImplicit false
set_option autoImplicit false

/-!
# The checks on a DaemonSet with a node selector

`k8s/daemonset/test_daemonset_with_nodeSelector.sh` reads the five counters of the DaemonSet
`ssd-monitor` off the table of `kubectl get ds` by two regular expressions, five times the
digit `0` and five times the digit `1` with anything in between. The expressions are not bound
to the columns: every `0` or `1` in the row counts, also within a longer number and in the age.

## Main definitions

* `K8s.DaemonSetRow`, `K8s.kubectlGetDs` — the row of the DaemonSet and the printed table.
* `K8s.noPodCheck`, `K8s.allPodsCheck` — the first and the final check of the script.
* `K8s.ChecksExact` — the checks accept exactly all counters `0` and all counters `1`.

## Main results

* `K8s.noPodCheck_iff`, `K8s.allPodsCheck_iff` — what the checks accept.
* `K8s.checksExact_iff` — the rows on which the checks are exact.
-/

namespace PythonForFun.K8s

/-! ## The table and the checks -/

/-- The row of the DaemonSet: its counters and its age. -/
structure DaemonSetRow where
  desired : ℕ
  current : ℕ
  ready : ℕ
  upToDate : ℕ
  available : ℕ
  age : String

namespace DaemonSetRow

/-- The five counters, in the order of their columns. -/
def counters (row : DaemonSetRow) : List ℕ :=
  [row.desired, row.current, row.ready, row.upToDate, row.available]

/-- The cells of the row. -/
def cells (row : DaemonSetRow) : List String :=
  ["ssd-monitor"] ++ row.counters.map toString ++ ["disk=ssd", row.age]

/-- How often the letter `c` occurs in the counters and the age. -/
def occurrences (row : DaemonSetRow) (c : Char) : ℕ :=
  (row.counters.map fun n => (toString n).toList.count c).sum + row.age.toList.count c

end DaemonSetRow

/-- The column titles. -/
def header : List String :=
  ["NAME", "DESIRED", "CURRENT", "READY", "UP-TO-DATE", "AVAILABLE", "NODE SELECTOR", "AGE"]

/-- A line of the table: the cells, with `gaps i + 1` blanks behind the `i`-th of them. -/
def tableLine (gaps : ℕ → ℕ) : ℕ → List String → List Char
  | _, [] => []
  | _, [cell] => cell.toList
  | i, cell :: cells => cell.toList ++ List.replicate (gaps i + 1) ' ' ++
      tableLine gaps (i + 1) cells

/-- The lines `kubectl get ds` prints in the fresh namespace of the script. -/
def kubectlGetDs (gaps gaps' : ℕ → ℕ) (row : DaemonSetRow) : List (List Char) :=
  [tableLine gaps 0 header, tableLine gaps' 0 row.cells]

/-- `grep`: the lines in which the expression is found. -/
def grep (r : Regex Char) (lines : List (List Char)) : List (List Char) :=
  lines.filter r.search

/-- `kubectl get ds | grep ssd-monitor | grep -q -E '0.*0.*0.*0.*0'` succeeds. -/
def noPodCheck (lines : List (List Char)) : Bool :=
  !(grep (.spaced ['0', '0', '0', '0', '0']) (grep (.literal "ssd-monitor".toList) lines)).isEmpty

/-- `kubectl get ds | grep 'ssd-monitor' | grep -E '1.*1.*1.*1.*1'` succeeds. -/
def allPodsCheck (lines : List (List Char)) : Bool :=
  !(grep (.spaced ['1', '1', '1', '1', '1']) (grep (.literal "ssd-monitor".toList) lines)).isEmpty

/-- The checks accept the table iff all counters are `0`, and iff all counters are `1`. -/
structure ChecksExact (lines : List (List Char)) (row : DaemonSetRow) : Prop where
  noPod : noPodCheck lines = true ↔ ∀ n ∈ row.counters, n = 0
  allPods : allPodsCheck lines = true ↔ ∀ n ∈ row.counters, n = 1

/-! ## What the checks accept -/

/-- Letters other than blanks are counted cell by cell. -/
theorem count_tableLine (gaps : ℕ → ℕ) {c : Char} (hc : c ≠ ' ') (i : ℕ) (cells : List String) :
    (tableLine gaps i cells).count c = (cells.map fun cell => cell.toList.count c).sum := by
  induction cells generalizing i with
  | nil => rfl
  | cons cell cells ih =>
    cases cells with
    | nil => simp [tableLine]
    | cons cell' cells =>
      have hblank : (List.replicate (gaps i + 1) ' ').count c = 0 :=
        List.count_eq_zero.mpr fun h => hc (List.eq_of_mem_replicate h)
      show (cell.toList ++ List.replicate (gaps i + 1) ' ' ++
        tableLine gaps (i + 1) (cell' :: cells)).count c = _
      rw [List.count_append, List.count_append, hblank, ih, Nat.add_zero]
      rfl

/-- The titles contain no small `s`. -/
theorem search_name_header (gaps : ℕ → ℕ) :
    (Regex.literal "ssd-monitor".toList).search (tableLine gaps 0 header) = false := by
  rw [Bool.eq_false_iff, ne_eq, Regex.search_literal_iff]
  intro h
  have hs : 's' ∈ tableLine gaps 0 header := h.subset (by decide)
  rw [← List.one_le_count_iff, count_tableLine gaps (by decide)] at hs
  exact absurd hs (by decide)

/-- The row starts with the name. -/
theorem search_name_row (gaps : ℕ → ℕ) (row : DaemonSetRow) :
    (Regex.literal "ssd-monitor".toList).search (tableLine gaps 0 row.cells) = true := by
  rw [Regex.search_literal_iff]
  refine List.IsPrefix.isInfix ?_
  show _ <+: "ssd-monitor".toList ++ _ ++ _
  rw [List.append_assoc]
  exact List.prefix_append _ _

/-- A second `grep` for a digit five times sees the row only, and counts the digit in its
counters and its age. -/
theorem grep_digit_iff (gaps gaps' : ℕ → ℕ) (row : DaemonSetRow) {d : Char}
    (hname : "ssd-monitor".toList.count d = 0) (hselector : "disk=ssd".toList.count d = 0)
    (hd : d ≠ ' ') :
    (!(grep (.spaced (List.replicate 5 d)) (grep (.literal "ssd-monitor".toList)
        (kubectlGetDs gaps gaps' row))).isEmpty) = true ↔ 5 ≤ row.occurrences d := by
  have hrow : grep (.literal "ssd-monitor".toList) (kubectlGetDs gaps gaps' row) =
      [tableLine gaps' 0 row.cells] := by
    rw [grep, kubectlGetDs, List.filter_cons_of_neg (by simp only [search_name_header,
      Bool.false_eq_true, not_false_iff]), List.filter_cons_of_pos (search_name_row gaps' row),
      List.filter_nil]
  have hcount : (tableLine gaps' 0 row.cells).count d = row.occurrences d := by
    rw [count_tableLine gaps' hd, DaemonSetRow.cells, DaemonSetRow.occurrences]
    simp only [List.map_append, List.map_cons, List.map_nil, List.map_map, List.sum_append,
      List.sum_cons, List.sum_nil, hname, hselector, Nat.zero_add, Nat.add_zero]
    rfl
  rw [hrow, ← hcount, ← Regex.search_spaced_replicate_iff]
  simp [grep]

/-- The first check accepts the rows with five zeros in the counters and the age. -/
theorem noPodCheck_iff (gaps gaps' : ℕ → ℕ) (row : DaemonSetRow) :
    noPodCheck (kubectlGetDs gaps gaps' row) = true ↔ 5 ≤ row.occurrences '0' :=
  grep_digit_iff gaps gaps' row (by decide) (by decide) (by decide)

/-- The final check accepts the rows with five ones in the counters and the age. -/
theorem allPodsCheck_iff (gaps gaps' : ℕ → ℕ) (row : DaemonSetRow) :
    allPodsCheck (kubectlGetDs gaps gaps' row) = true ↔ 5 ≤ row.occurrences '1' :=
  grep_digit_iff gaps gaps' row (by decide) (by decide) (by decide)

/-- Five counters of one digit are five occurrences of it. -/
theorem five_le_occurrences (row : DaemonSetRow) {d : ℕ} {c : Char}
    (hd : (toString d).toList.count c = 1) (h : ∀ n ∈ row.counters, n = d) :
    5 ≤ row.occurrences c := by
  have hcounters : row.counters = List.replicate 5 d :=
    List.eq_replicate_iff.mpr ⟨rfl, h⟩
  rw [DaemonSetRow.occurrences, hcounters, List.map_replicate, hd]
  exact Nat.le_add_right 5 _

/-- A check that accepts from five occurrences on is exact iff the counters are as wanted, or
there are fewer occurrences. -/
theorem exact_iff {accepts wanted : Prop} {n : ℕ} (h : accepts ↔ 5 ≤ n) (hw : wanted → 5 ≤ n) :
    (accepts ↔ wanted) ↔ wanted ∨ n < 5 := by
  rw [h]
  by_cases hwanted : wanted
  · simp [hwanted, hw hwanted]
  · simp [hwanted]

/-- The checks are exact on the rows whose counters are all `0`, or that have fewer than five
zeros in counters and age, and the same for ones. -/
theorem checksExact_iff (gaps gaps' : ℕ → ℕ) (row : DaemonSetRow) :
    ChecksExact (kubectlGetDs gaps gaps' row) row ↔
      ((∀ n ∈ row.counters, n = 0) ∨ row.occurrences '0' < 5) ∧
        ((∀ n ∈ row.counters, n = 1) ∨ row.occurrences '1' < 5) := by
  rw [← exact_iff (noPodCheck_iff gaps gaps' row) (five_le_occurrences row (by decide)),
    ← exact_iff (allPodsCheck_iff gaps gaps' row) (five_le_occurrences row (by decide))]
  exact ⟨fun h => ⟨h.noPod, h.allPods⟩, fun h => ⟨h.1, h.2⟩⟩

/-- On ten nodes with the label every counter is `10`: the check for no pod at all accepts, and
so does the check for one pod. -/
theorem checks_accept_ten_pods :
    let row : DaemonSetRow := ⟨10, 10, 10, 10, 10, "7s"⟩
    let lines := kubectlGetDs (fun _ => 2) (fun _ => 2) row
    noPodCheck lines = true ∧ allPodsCheck lines = true ∧ ¬ ChecksExact lines row := by
  intro row lines
  have hnoPod : noPodCheck lines = true := (noPodCheck_iff _ _ row).mpr (by decide)
  have hallPods : allPodsCheck lines = true := (allPodsCheck_iff _ _ row).mpr (by decide)
  refine ⟨hnoPod, hallPods, fun h => ?_⟩
  exact absurd (h.noPod.mp hnoPod) (by decide)

end PythonForFun.K8s
