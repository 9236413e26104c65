import Mathlib.Data.List.Sort

set_option relaxedAutoImplicit false
set_option autoImplicit false

/-!
# The last element of a stable sort

A stable sort by a key keeps elements with the same key in their order. Its last element is
therefore the last of the elements with the greatest key, whichever algorithm does the sorting.

## Main definitions

* `StableSort.SortsStably` — a list is a stable sort of another one by a key.
* `StableSort.sorted` — an executable stable sort.
* `StableSort.LastMax` — the last of the elements with the greatest key.

## Main results

* `StableSort.sortsStably_sorted` — `sorted` is a stable sort.
* `StableSort.SortsStably.getLast?_eq_some_iff` — a stable sort ends in the last maximum.
-/

namespace StableSort

variable {α κ : Type} [LinearOrder κ] (key : α → κ)

/-- `l'` is a stable sort of `l` by `key`. -/
structure SortsStably (l l' : List α) : Prop where
  perm : l'.Perm l
  sorted : l'.Pairwise fun a b => key a ≤ key b
  stable : ∀ k, l'.filter (key · = k) = l.filter (key · = k)

/-- A stable sort by insertion. -/
def sorted (l : List α) : List α := l.insertionSort fun a b => key a ≤ key b

/-- `m` is the last of the elements of `l` with the greatest key. -/
structure LastMax (l : List α) (m : α) : Prop where
  max : ∀ a ∈ l, key a ≤ key m
  last : (l.filter (key · = key m)).getLast? = some m

/-- `sorted` is a stable sort. -/
theorem sortsStably_sorted (l : List α) : SortsStably key l (sorted key l) := by
  have : Std.Total fun a b : α => key a ≤ key b := ⟨fun a b => le_total (key a) (key b)⟩
  have : IsTrans α fun a b => key a ≤ key b := ⟨fun _ _ _ => le_trans⟩
  have hperm : (sorted key l).Perm l := List.perm_insertionSort _ l
  refine ⟨hperm, List.pairwise_insertionSort _ l, fun k => ?_⟩
  -- the elements with one key are sorted already, so they survive as a sublist
  have hsub : (l.filter (key · = k)).Sublist (sorted key l) := by
    refine List.sublist_insertionSort (List.pairwise_of_forall_mem_list fun a ha b hb => ?_)
      List.filter_sublist
    have ha' : key a = k := by simpa using (List.mem_filter.mp ha).2
    have hb' : key b = k := by simpa using (List.mem_filter.mp hb).2
    exact (ha'.trans hb'.symm).le
  have hsub' := hsub.filter (key · = k)
  simp only [List.filter_filter, Bool.and_self] at hsub'
  exact (hsub'.eq_of_length (hperm.filter _).length_eq.symm).symm

variable {key} {l l' : List α} {m m' : α}

/-- There is one last maximum. -/
theorem LastMax.unique (h : LastMax key l m) (h' : LastMax key l m') : m = m' := by
  have hm : m ∈ l := (List.mem_filter.mp (List.mem_of_getLast? h.last)).1
  have hm' : m' ∈ l := (List.mem_filter.mp (List.mem_of_getLast? h'.last)).1
  have hkey : key m = key m' := le_antisymm (h'.max m hm) (h.max m' hm')
  have hlast := h.last
  rw [hkey, h'.last] at hlast
  exact (Option.some_inj.mp hlast).symm

/-- The last element of a stable sort is the last maximum. -/
theorem SortsStably.lastMax (h : SortsStably key l l') (hm : l'.getLast? = some m) :
    LastMax key l m := by
  obtain ⟨front, rfl⟩ := List.getLast?_eq_some_iff.mp hm
  constructor
  · intro a ha
    rcases List.mem_append.mp (h.perm.mem_iff.mpr ha) with ha | ha
    · exact (List.pairwise_append.mp h.sorted).2.2 a ha m (List.mem_singleton_self m)
    · exact (congrArg key (List.mem_singleton.mp ha)).le
  · rw [← h.stable (key m), List.filter_append]
    simp

/-- A stable sort ends in the last maximum, and a list without one is empty. -/
theorem SortsStably.getLast?_eq_some_iff (h : SortsStably key l l') :
    l'.getLast? = some m ↔ LastMax key l m := by
  refine ⟨h.lastMax, fun hm => ?_⟩
  have hne : l' ≠ [] := by
    rintro rfl
    have hl : l = [] := h.perm.symm.eq_nil
    simpa [hl] using hm.last
  have hlast := List.getLast?_eq_some_getLast hne
  rw [hlast, (h.lastMax hlast).unique hm]

end StableSort
