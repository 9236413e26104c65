import Mathlib.Data.List.Nodup
import Mathlib.Logic.Basic

set_option relaxedAutoImplicit false
set_option autoImplicit false

/-!
# Removing duplicated rows

The test in `pandas/cleaning.py` prints the rows it is about to remove, those marked by
`duplicated(subset='Name')`, and then removes duplicates by `drop_duplicates(subset='Name',
keep='last')`. The first call spares the first row of each name, the second one the last.

## Main definitions

* `Pandas.Library` — what is assumed of the two calls.
* `Pandas.testDeletingDuplication` — the rows printed as removed, and the rows left.
* `Pandas.Partitions` — the two lists share out the table, and each name is left once.

## Main results

* `Pandas.Library.mem_removed_iff`, `Pandas.Library.mem_left_iff` — what is in the two lists.
* `Pandas.partitions_iff` — they share out the table iff no name comes twice.
-/

namespace PythonForFun.Pandas

/-! ## Occurrences in a list -/

section Occurrences

variable {α : Type} {l : List α}

/-- What occurs in a list has a last occurrence. -/
theorem exists_last_occurrence {a : α} (ha : a ∈ l) :
    ∃ i, l[i]? = some a ∧ a ∉ l.drop (i + 1) := by
  induction l with
  | nil => simp at ha
  | cons b l ih =>
    by_cases hal : a ∈ l
    · obtain ⟨i, hi, hlast⟩ := ih hal
      exact ⟨i + 1, by simpa using hi, by simpa using hlast⟩
    · obtain rfl : a = b := by simpa [hal] using ha
      exact ⟨0, by simp, by simpa using hal⟩

/-- What stands at an index stands before every later index, and behind every earlier one. -/
theorem mem_take_and_mem_drop {i j : ℕ} {a : α} (hij : i < j) (hi : l[i]? = some a) :
    a ∈ l.take j ∧ ∀ b, l[j]? = some b → b ∈ l.drop (i + 1) := by
  constructor
  · refine List.mem_of_getElem? (i := i) ?_
    rw [List.getElem?_take_of_lt hij, hi]
  · intro b hb
    refine List.mem_of_getElem? (i := j - (i + 1)) ?_
    rw [List.getElem?_drop, ← hb]
    congr 1
    omega

/-- In a list without repetition nothing stands before or behind itself. -/
theorem notMem_take_and_notMem_drop (hl : l.Nodup) {i : ℕ} {a : α} (hi : l[i]? = some a) :
    a ∉ l.take i ∧ a ∉ l.drop (i + 1) := by
  obtain ⟨hlt, rfl⟩ := List.getElem?_eq_some_iff.mp hi
  have hsplit : l.take i ++ l[i] :: l.drop (i + 1) = l := by
    rw [← List.drop_eq_getElem_cons hlt, List.take_append_drop]
  have hnodup : (l.take i ++ l[i] :: l.drop (i + 1)).Nodup := by
    rwa [hsplit]
  obtain ⟨-, htail, hdisjoint⟩ := List.nodup_append.mp hnodup
  exact ⟨fun ha => hdisjoint _ ha _ List.mem_cons_self rfl, (List.nodup_cons.mp htail).1⟩

end Occurrences

/-! ## The test -/

section Cleaning

variable {ρ κ : Type} (name : ρ → κ)

/-- What is assumed of the two calls, for rows `ρ` with their names: `duplicated` marks every row
whose name stands in a row before it, and `drop_duplicates` with `keep='last'` leaves, in order
and under their old index, the rows whose name stands in no row behind them. -/
structure Library where
  duplicated : List ρ → List Bool
  dropDuplicatesLast : List ρ → List (ρ × ℕ)
  length_duplicated : ∀ rows, (duplicated rows).length = rows.length
  duplicated_iff : ∀ rows i r, rows[i]? = some r →
    ((duplicated rows)[i]? = some true ↔ name r ∈ (rows.map name).take i)
  sublist : ∀ rows, (dropDuplicatesLast rows).Sublist rows.zipIdx
  mem_dropDuplicatesLast_iff : ∀ rows i r, rows[i]? = some r →
    ((r, i) ∈ dropDuplicatesLast rows ↔ name r ∉ (rows.map name).drop (i + 1))

/-- What the test prints: the rows found to be removed, and the rows left. -/
structure Printed (ρ : Type) where
  removed : List (ρ × ℕ)
  left : List (ρ × ℕ)

/-- `dupe[dupe == True].index`, with the default row index. -/
def trueIndex (dupe : List Bool) : List ℕ := (dupe.zipIdx.filter fun e => e.1).map Prod.snd

/-- `students.iloc[index]`; a position out of range is an error. -/
def iloc (students : List ρ) (index : List ℕ) : Option (List (ρ × ℕ)) :=
  index.mapM fun i => students[i]?.map fun r => (r, i)

variable {name}

/-- `test_deleting_duplication`, on the table that is read. -/
def testDeletingDuplication (pd : Library name) (students : List ρ) : Option (Printed ρ) := do
  let removed ← iloc students (trueIndex (pd.duplicated students))
  pure ⟨removed, pd.dropDuplicatesLast students⟩

variable (name) in
/-- The rows printed as removed and the rows left share out the table, and every name is left
once. -/
structure Partitions (students : List ρ) (out : Printed ρ) : Prop where
  only : ∀ e, e ∈ out.removed ∨ e ∈ out.left → e ∈ students.zipIdx
  exactlyOne : ∀ e ∈ students.zipIdx, Xor (e ∈ out.removed) (e ∈ out.left)
  once : (out.left.map fun e => name e.1).Nodup
  every : ∀ r ∈ students, name r ∈ out.left.map fun e => name e.1

/-! ## The two lists -/

variable {students : List ρ} {out : Printed ρ}

theorem mem_trueIndex_iff (dupe : List Bool) (i : ℕ) :
    i ∈ trueIndex dupe ↔ dupe[i]? = some true := by
  simp [trueIndex, List.mem_zipIdx_iff_getElem?]

/-- Positions in range are found. -/
theorem iloc_eq_some {index : List ℕ} (hindex : ∀ i ∈ index, i < students.length) :
    ∃ found, iloc students index = some found ∧
      ∀ e, e ∈ found ↔ e.2 ∈ index ∧ students[e.2]? = some e.1 := by
  induction index with
  | nil => exact ⟨[], rfl, by simp⟩
  | cons i index ih =>
    obtain ⟨found, hfound, hmem⟩ := ih fun j hj => hindex j (List.mem_cons_of_mem i hj)
    obtain ⟨s, hi⟩ : ∃ s, students[i]? = some s :=
      ⟨_, List.getElem?_eq_getElem (hindex i List.mem_cons_self)⟩
    refine ⟨(s, i) :: found, ?_, fun e => ?_⟩
    · rw [iloc] at hfound ⊢
      rw [List.mapM_cons, hfound, hi]
      rfl
    · obtain ⟨r, j⟩ := e
      simp only [List.mem_cons, Prod.mk.injEq, hmem]
      constructor
      · rintro (⟨rfl, rfl⟩ | ⟨hj, hr⟩)
        · exact ⟨Or.inl rfl, hi⟩
        · exact ⟨Or.inr hj, hr⟩
      · rintro ⟨rfl | hj, hr⟩
        · rw [hi] at hr
          exact Or.inl ⟨(Option.some.inj hr).symm, rfl⟩
        · exact Or.inr ⟨hj, hr⟩

/-- **The rows printed as removed** are those whose name stands in a row before them. -/
theorem Library.mem_removed_iff (pd : Library name) (students : List ρ) :
    ∃ out, testDeletingDuplication pd students = some out ∧
      out.left = pd.dropDuplicatesLast students ∧
      ∀ r i, (r, i) ∈ out.removed ↔
        students[i]? = some r ∧ name r ∈ (students.map name).take i := by
  have hindex : ∀ i ∈ trueIndex (pd.duplicated students), i < students.length := by
    intro i hi
    obtain ⟨hlt, -⟩ := List.getElem?_eq_some_iff.mp ((mem_trueIndex_iff _ i).mp hi)
    rwa [pd.length_duplicated] at hlt
  obtain ⟨removed, hremoved, hmem⟩ := iloc_eq_some hindex
  refine ⟨⟨removed, pd.dropDuplicatesLast students⟩, ?_, rfl, fun r i => ?_⟩
  · rw [testDeletingDuplication, hremoved]
    rfl
  · rw [hmem, mem_trueIndex_iff]
    constructor
    · rintro ⟨hdupe, hr⟩
      exact ⟨hr, (pd.duplicated_iff students i r hr).mp hdupe⟩
    · rintro ⟨hr, hbefore⟩
      exact ⟨(pd.duplicated_iff students i r hr).mpr hbefore, hr⟩

/-- **The rows left** are those whose name stands in no row behind them. -/
theorem Library.mem_left_iff (pd : Library name) (students : List ρ) (r : ρ) (i : ℕ) :
    (r, i) ∈ pd.dropDuplicatesLast students ↔
      students[i]? = some r ∧ name r ∉ (students.map name).drop (i + 1) := by
  constructor
  · intro h
    have hr := List.mem_zipIdx_iff_getElem?.mp ((pd.sublist students).subset h)
    exact ⟨hr, (pd.mem_dropDuplicatesLast_iff students i r hr).mp h⟩
  · rintro ⟨hr, hlast⟩
    exact (pd.mem_dropDuplicatesLast_iff students i r hr).mpr hlast

/-- The name of the row at an index. -/
theorem getElem?_map_name {i : ℕ} {r : ρ} (hr : students[i]? = some r) :
    (students.map name)[i]? = some (name r) := by
  rw [List.getElem?_map, hr]
  rfl

/-- Every name is left once, whatever the table.

**Proof sketch.** Of two rows left with one name the earlier one would have it behind itself. The
last row of a name is left. -/
theorem Library.left_names (pd : Library name) (students : List ρ) :
    ((pd.dropDuplicatesLast students).map fun e => name e.1).Nodup ∧
      ∀ r ∈ students, name r ∈ (pd.dropDuplicatesLast students).map fun e => name e.1 := by
  constructor
  · have hrows : students.zipIdx.Nodup :=
      List.Nodup.of_map Prod.snd (by simp [List.nodup_range'])
    refine List.Nodup.map_on ?_ ((pd.sublist students).nodup hrows)
    rintro ⟨r, i⟩ hi ⟨r', j⟩ hj hname
    obtain ⟨hr, hlast⟩ := (pd.mem_left_iff students r i).mp hi
    obtain ⟨hr', hlast'⟩ := (pd.mem_left_iff students r' j).mp hj
    have hnames : (students.map name)[i]? = some (name r) := getElem?_map_name hr
    have hnames' : (students.map name)[j]? = some (name r') := getElem?_map_name hr'
    rcases Nat.lt_trichotomy i j with hij | rfl | hij
    · have hbehind := (mem_take_and_mem_drop hij hnames).2 _ hnames'
      exact absurd (hname ▸ hbehind) hlast
    · rw [Option.some.inj (hr.symm.trans hr')]
    · have hbehind := (mem_take_and_mem_drop hij hnames').2 _ hnames
      exact absurd (hname ▸ hbehind) hlast'
  · intro r hr
    obtain ⟨i, hi, hlast⟩ := exists_last_occurrence (List.mem_map_of_mem (f := name) hr)
    rw [List.getElem?_map] at hi
    obtain ⟨r', hr', hname⟩ := Option.map_eq_some_iff.mp hi
    refine List.mem_map.mpr ⟨(r', i), (pd.mem_left_iff students r' i).mpr ⟨hr', ?_⟩, hname⟩
    rwa [hname]

/-- **The rows shown are the rows removed** iff no name comes twice.

**Proof sketch.** If a name comes twice, its last row has the name before itself and not behind
itself: it is both printed as removed and left. If no name comes twice, no row is printed as
removed and all are left. -/
theorem partitions_iff (pd : Library name) (students : List ρ) :
    (∃ out, testDeletingDuplication pd students = some out ∧ Partitions name students out) ↔
      (students.map name).Nodup := by
  obtain ⟨out, hout, hleft, hremoved⟩ := pd.mem_removed_iff students
  obtain ⟨honce, hevery⟩ := pd.left_names students
  constructor
  · rintro ⟨out', hout', h⟩
    obtain rfl : out = out' := Option.some.inj (hout.symm.trans hout')
    refine List.nodup_iff_getElem?_ne_getElem?.mpr fun i j hij hj heq => ?_
    -- the last row of a name that stands in two rows is in both lists
    obtain ⟨k, hk⟩ : ∃ k, (students.map name)[j]? = some k :=
      ⟨_, List.getElem?_eq_getElem hj⟩
    obtain ⟨m, hm, hlast⟩ := exists_last_occurrence (List.mem_of_getElem? hk)
    have hjm : j ≤ m := by
      by_contra hlt
      exact hlast ((mem_take_and_mem_drop (by omega) hm).2 k hk)
    have hbefore : k ∈ (students.map name).take m :=
      (mem_take_and_mem_drop (by omega) (heq.trans hk)).1
    rw [List.getElem?_map] at hm
    obtain ⟨r, hr, rfl⟩ := Option.map_eq_some_iff.mp hm
    have hshown : (r, m) ∈ out.removed := (hremoved r m).mpr ⟨hr, hbefore⟩
    have hkept : (r, m) ∈ out.left := by
      rw [hleft]
      exact (pd.mem_left_iff students r m).mpr ⟨hr, hlast⟩
    rcases h.exactlyOne (r, m) (List.mem_zipIdx_iff_getElem?.mpr hr) with ⟨-, hnot⟩ | ⟨-, hnot⟩
    · exact hnot hkept
    · exact hnot hshown
  · intro hnodup
    refine ⟨out, hout, ?_, ?_, by rwa [hleft], by rwa [hleft]⟩
    · rintro ⟨r, i⟩ (h | h)
      · exact List.mem_zipIdx_iff_getElem?.mpr ((hremoved r i).mp h).1
      · rw [hleft, pd.mem_left_iff] at h
        exact List.mem_zipIdx_iff_getElem?.mpr h.1
    · rintro ⟨r, i⟩ he
      have hr := List.mem_zipIdx_iff_getElem?.mp he
      obtain ⟨hbefore, hbehind⟩ := notMem_take_and_notMem_drop hnodup (getElem?_map_name hr)
      refine Or.inr ⟨?_, fun h => hbefore ((hremoved r i).mp h).2⟩
      rw [hleft, pd.mem_left_iff]
      exact ⟨hr, hbehind⟩

/-- The two calls, computed row by row. -/
def Library.rowByRow [DecidableEq κ] (name : ρ → κ) : Library name where
  duplicated rows := rows.mapIdx fun i r => decide (name r ∈ (rows.map name).take i)
  dropDuplicatesLast rows :=
    rows.zipIdx.filter fun e => decide (name e.1 ∉ (rows.map name).drop (e.2 + 1))
  length_duplicated rows := List.length_mapIdx
  duplicated_iff rows i r hr := by simp [hr]
  sublist rows := List.filter_sublist
  mem_dropDuplicatesLast_iff rows i r hr := by simp [List.mem_zipIdx_iff_getElem?, hr]

end Cleaning

/-- Ann stands in the first and in the last of three rows. The last row is printed as removed and
is left; the first one is gone without being printed. -/
theorem removed_row_is_left :
    let students : List (String × ℕ) := [("Ann", 90), ("Bob", 75), ("Ann", 62)]
    let out : Printed (String × ℕ) :=
      ⟨[(("Ann", 62), 2)], [(("Bob", 75), 1), (("Ann", 62), 2)]⟩
    testDeletingDuplication (Library.rowByRow Prod.fst) students = some out ∧
      ¬ Partitions Prod.fst students out := by
  intro students out
  refine ⟨by rfl, fun h => ?_⟩
  rcases h.exactlyOne (("Ann", 90), 0) (by decide) with ⟨hremoved, -⟩ | ⟨hleft, -⟩
  · exact absurd hremoved (by decide)
  · exact absurd hleft (by decide)

end PythonForFun.Pandas
