import Mathlib.Data.List.Dedup
import Mathlib.Data.List.Duplicate
import Mathlib.Data.List.Perm.Basic

set_option relaxedAutoImplicit false
set_option autoImplicit false

/-!
# Grouping neighbours by a key

Scripting languages group a sequence by joining neighbours with the same key. The groups are the
classes of elements with one key only if no element of another key stands between two elements
of that key.

## Main definitions

* `Runs.groupby` — the groups of neighbours, with their keys.
* `Runs.Together` — elements with the same key stand together.

## Main results

* `Runs.nodup_keys_iff` — no key comes twice iff the elements stand together.
* `Runs.map_groupby_perm_iff` — reading something off each group gives one reading per key, off
  all elements with that key, iff they stand together.
* `Runs.together_of_perm_iff` — when the elements stand together in every order.
-/

namespace Runs

variable {α κ : Type} [DecidableEq κ] (key : α → κ)

/-- The groups of neighbours with the same key, in order, each with its key. -/
def groupby : List α → List (κ × List α)
  | [] => []
  | a :: l =>
    match groupby l with
    | [] => [(key a, [a])]
    | (k, g) :: gs => if key a = k then (k, a :: g) :: gs else (key a, [a]) :: (k, g) :: gs

/-- Elements with the same key stand together: what stands between two of them has their key. -/
def Together (l : List α) : Prop :=
  ∀ x z y, [x, z, y].Sublist l → key x = key y → key z = key x

/-! ## The groups of a list -/

/-- The first group starts with the first element and has its key. -/
theorem groupby_cons (a : α) (l : List α) :
    ∃ g gs, groupby key (a :: l) = (key a, a :: g) :: gs := by
  rw [groupby]
  rcases groupby key l with - | ⟨⟨k, g⟩, gs⟩
  · exact ⟨[], [], rfl⟩
  · by_cases h : key a = k
    · exact ⟨g, gs, by simp [h]⟩
    · exact ⟨[], (k, g) :: gs, by simp [h]⟩

/-- The element `a` before the element `b`: it joins the group of `b` or starts one. -/
theorem groupby_cons_cons (a b : α) (l : List α) :
    ∃ g gs, groupby key (b :: l) = (key b, b :: g) :: gs ∧
      groupby key (a :: b :: l) =
        if key a = key b then (key b, a :: b :: g) :: gs
        else (key a, [a]) :: (key b, b :: g) :: gs := by
  obtain ⟨g, gs, h⟩ := groupby_cons key b l
  exact ⟨g, gs, h, by rw [groupby, h]⟩

variable {key}

/-- The keys of the groups are the keys of the elements. -/
theorem mem_keys_groupby (l : List α) (k : κ) :
    k ∈ (groupby key l).map Prod.fst ↔ k ∈ l.map key := by
  induction l with
  | nil => rfl
  | cons a l ih =>
    cases l with
    | nil => simp [groupby]
    | cons b l =>
      obtain ⟨g, gs, hb, hab⟩ := groupby_cons_cons key a b l
      rw [List.map_cons, List.mem_cons, ← ih, hb, hab]
      by_cases h : key a = key b
      · simp [h]
      · simp [h]

/-- The elements with one key are those of the groups with that key. -/
theorem filter_eq_flatMap (l : List α) (k : κ) :
    (l.filter fun a => key a = k) = ((groupby key l).filter fun g => g.1 = k).flatMap Prod.snd := by
  induction l with
  | nil => rfl
  | cons a l ih =>
    cases l with
    | nil => by_cases h : key a = k <;> simp [groupby, h]
    | cons b l =>
      obtain ⟨g, gs, hb, hab⟩ := groupby_cons_cons key a b l
      rw [List.filter_cons, ih, hb, hab]
      by_cases h : key a = key b
      · by_cases hk : key b = k <;> simp [h, hk]
      · rw [if_neg h]
        by_cases hk : key a = k <;> simp [hk]

/-- The groups in a row are the list. -/
theorem flatMap_groupby (l : List α) : (groupby key l).flatMap Prod.snd = l := by
  induction l with
  | nil => rfl
  | cons a l ih =>
    cases l with
    | nil => rfl
    | cons b l =>
      obtain ⟨g, gs, hb, hab⟩ := groupby_cons_cons key a b l
      rw [hb] at ih
      rw [hab]
      by_cases h : key a = key b
      · simpa [h] using ih
      · simpa [h] using ih

/-- If no key comes twice, a group has all elements with its key. -/
theorem eq_filter_of_mem {l : List α} (hnodup : ((groupby key l).map Prod.fst).Nodup) {k : κ}
    {g : List α} (hg : (k, g) ∈ groupby key l) : g = l.filter fun a => key a = k := by
  have honly : ((groupby key l).filter fun g => g.1 = k) = [(k, g)] := by
    have hsub : ((groupby key l).filter fun g => g.1 = k).Nodup :=
      (List.Nodup.of_map Prod.fst hnodup).filter _
    refine List.perm_singleton.mp ((List.perm_ext_iff_of_nodup hsub (List.nodup_singleton _)).mpr
      fun e => ?_)
    simp only [List.mem_filter, decide_eq_true_eq, List.mem_singleton]
    constructor
    · rintro ⟨he, hk⟩
      exact List.inj_on_of_nodup_map hnodup he hg hk
    · rintro rfl
      exact ⟨hg, rfl⟩
  rw [filter_eq_flatMap, honly]
  simp

/-! ## When the groups are the classes -/

/-- The elements of `a :: b :: l` stand together iff those of `b :: l` do, and `a` has the key
of `b` or a new one. -/
theorem together_cons_cons (a b : α) (l : List α) :
    Together key (a :: b :: l) ↔
      Together key (b :: l) ∧ (key a = key b ∨ key a ∉ (b :: l).map key) := by
  constructor
  · intro h
    refine ⟨fun x z y hsub => h x z y (hsub.cons a), ?_⟩
    by_cases hab : key a = key b
    · exact Or.inl hab
    · refine Or.inr fun hmem => ?_
      obtain ⟨y, hy, hkey⟩ := List.mem_map.mp hmem
      rcases List.mem_cons.mp hy with rfl | hy
      · exact hab hkey.symm
      · have hsub : [a, b, y].Sublist (a :: b :: l) :=
          ((List.singleton_sublist.mpr hy).cons_cons b).cons_cons a
        exact hab (h a b y hsub hkey.symm).symm
  · rintro ⟨h, hfirst⟩ x z y hsub hkey
    cases hsub with
    | cons _ hsub => exact h x z y hsub hkey
    | cons_cons _ hsub =>
      -- `a` is the first of the three
      have hy : y ∈ b :: l := hsub.subset (List.mem_cons_of_mem z List.mem_cons_self)
      rcases hfirst with hab | hnew
      · cases hsub with
        | cons _ hsub =>
          have hthree : [b, z, y].Sublist (b :: l) := hsub.cons_cons b
          rw [hab]
          exact h b z y hthree (hab.symm.trans hkey)
        | cons_cons _ hsub => exact hab.symm
      · exact absurd (List.mem_map.mpr ⟨y, hy, hkey.symm⟩) hnew

/-- **No key comes twice iff the elements stand together.**

**Proof sketch.** Induction on the list: an element before another one joins its group when it
has the same key, and otherwise starts a group whose key must be new. -/
theorem nodup_keys_iff (l : List α) :
    ((groupby key l).map Prod.fst).Nodup ↔ Together key l := by
  induction l with
  | nil =>
    refine ⟨fun _ x z y hsub => ?_, fun _ => List.nodup_nil⟩
    cases hsub
  | cons a l ih =>
    cases l with
    | nil =>
      refine ⟨fun _ x z y hsub => ?_, fun _ => by simp [groupby]⟩
      have hlen := hsub.length_le
      simp at hlen
    | cons b l =>
      obtain ⟨g, gs, hb, hab⟩ := groupby_cons_cons key a b l
      rw [together_cons_cons, ← ih, ← mem_keys_groupby, hb, hab]
      by_cases h : key a = key b
      · simp [h]
      · simp [h, and_comm]

/-- **Grouping neighbours groups by key iff the elements stand together**: whatever `f` reads
off a group, it is read once for each key, off all elements with that key.

**Proof sketch.** If no key comes twice, each group is the class of its key. If there are as
many groups as keys, no key comes twice. -/
theorem map_groupby_perm_iff {β : Type} (f : List α → β) (l : List α) :
    ((groupby key l).map fun g => f g.2).Perm
        ((l.map key).dedup.map fun k => f (l.filter fun a => key a = k)) ↔
      Together key l := by
  have hkeys : ∀ k, k ∈ (groupby key l).map Prod.fst ↔ k ∈ (l.map key).dedup := by
    intro k
    rw [mem_keys_groupby, List.mem_dedup]
  rw [← nodup_keys_iff]
  constructor
  · intro h
    have hlen : ((groupby key l).map Prod.fst).length = (l.map key).dedup.length := by
      simpa using h.length_eq
    have hdedup : ((groupby key l).map Prod.fst).dedup.Perm (l.map key).dedup :=
      (List.perm_ext_iff_of_nodup (List.nodup_dedup _) (List.nodup_dedup _)).mpr fun k => by
        rw [List.mem_dedup, hkeys]
    have heq := (List.dedup_sublist ((groupby key l).map Prod.fst)).eq_of_length
      (hdedup.length_eq.trans hlen.symm)
    rw [← heq]
    exact List.nodup_dedup _
  · intro hnodup
    have hread : (groupby key l).map (fun g => f g.2) =
        ((groupby key l).map Prod.fst).map fun k => f (l.filter fun a => key a = k) := by
      rw [List.map_map]
      refine List.map_congr_left fun g hg => ?_
      rw [Function.comp_apply, ← eq_filter_of_mem hnodup hg]
    rw [hread]
    exact ((List.perm_ext_iff_of_nodup hnodup (List.nodup_dedup _)).mpr hkeys).map _

/-- There are at least as many groups as keys. -/
theorem length_dedup_le_groupby (l : List α) :
    (l.map key).dedup.length ≤ (groupby key l).length := by
  have hsub : (l.map key).dedup ⊆ (groupby key l).map Prod.fst := by
    intro k hk
    exact (mem_keys_groupby l k).mpr (List.mem_dedup.mp hk)
  have hle := (List.nodup_dedup (l.map key)).length_le_of_subset hsub
  rwa [List.length_map] at hle

/-- There are as many groups as keys iff the elements stand together. -/
theorem length_groupby_eq_iff (l : List α) :
    (groupby key l).length = (l.map key).dedup.length ↔ Together key l := by
  rw [← nodup_keys_iff]
  have hkeys : ((groupby key l).map Prod.fst).dedup.Perm (l.map key).dedup :=
    (List.perm_ext_iff_of_nodup (List.nodup_dedup _) (List.nodup_dedup _)).mpr fun k => by
      rw [List.mem_dedup, List.mem_dedup, mem_keys_groupby]
  constructor
  · intro h
    have hlength : ((groupby key l).map Prod.fst).dedup.length =
        ((groupby key l).map Prod.fst).length := by
      rw [hkeys.length_eq, List.length_map, h]
    exact List.dedup_eq_self.mp ((List.dedup_sublist _).eq_of_length hlength)
  · intro h
    rw [← hkeys.length_eq, h.dedup, List.length_map]

/-! ## All orders -/

omit [DecidableEq κ] in
/-- The elements stand together if no two of them have the same key. -/
theorem together_of_nodup {l : List α} (h : (l.map key).Nodup) : Together key l := by
  intro x z y hsub hkey
  have hthree : ([x, z, y].map key).Nodup := (hsub.map key).nodup h
  simp [hkey] at hthree

/-- A third element can be put between two others. -/
theorem exists_perm_separated {l : List α} {x y z : α} (htwo : [x, y].Sublist l) (hz : z ∈ l)
    (hzx : z ≠ x) (hzy : z ≠ y) : ∃ rest, (x :: z :: y :: rest).Perm l := by
  obtain ⟨rest, hrest⟩ := htwo.exists_perm_append
  have hzrest : z ∈ rest := by
    rcases List.mem_append.mp (hrest.mem_iff.mp hz) with hmem | hmem
    · rcases List.mem_pair.mp hmem with rfl | rfl
      · exact absurd rfl hzx
      · exact absurd rfl hzy
    · exact hmem
  obtain ⟨pre, post, rfl⟩ := List.append_of_mem hzrest
  refine ⟨pre ++ post, List.Perm.trans ?_ hrest.symm⟩
  refine List.Perm.cons x ?_
  exact (List.Perm.swap y z (pre ++ post)).trans (List.Perm.cons y List.perm_middle.symm)

/-- **The elements stand together in every order** iff no two have the same key, or all have.

**Proof sketch.** Two elements with one key and a third one with another key can be put in an
order that separates the two. -/
theorem together_of_perm_iff (l : List α) :
    (∀ l', l'.Perm l → Together key l') ↔
      (l.map key).Nodup ∨ ∀ x ∈ l, ∀ y ∈ l, key x = key y := by
  constructor
  · intro h
    by_contra hneither
    rw [not_or] at hneither
    obtain ⟨hdup, hdiff⟩ := hneither
    obtain ⟨k, hk⟩ := List.exists_duplicate_iff_not_nodup.mpr hdup
    obtain ⟨two, htwo, hmap⟩ := List.sublist_map_iff.mp (List.duplicate_iff_sublist.mp hk)
    obtain ⟨x, y, rfl, hx, hy⟩ : ∃ x y, two = [x, y] ∧ key x = k ∧ key y = k := by
      rcases two with - | ⟨x, - | ⟨y, - | ⟨z, two⟩⟩⟩ <;> simp at hmap
      exact ⟨x, y, rfl, hmap.1.symm, hmap.2.symm⟩
    obtain ⟨z, hz, hzk⟩ : ∃ z ∈ l, key z ≠ k := by
      by_contra hall
      refine hdiff fun u hu v hv => ?_
      have hkey : ∀ u ∈ l, key u = k := fun u hu => by
        by_contra hne
        exact hall ⟨u, hu, hne⟩
      rw [hkey u hu, hkey v hv]
    obtain ⟨rest, hperm⟩ := exists_perm_separated htwo hz (fun h => hzk (h ▸ hx))
      (fun h => hzk (h ▸ hy))
    have hsub : [x, z, y].Sublist (x :: z :: y :: rest) :=
      (((List.nil_sublist rest).cons_cons y).cons_cons z).cons_cons x
    have hsame := h _ hperm x z y hsub (hx.trans hy.symm)
    exact hzk (hsame.trans hx)
  · rintro (hnodup | hall) l' hperm
    · exact together_of_nodup ((hperm.map key).nodup_iff.mpr hnodup)
    · intro x z y hsub _
      have hmem : ∀ u ∈ [x, z, y], u ∈ l := fun u hu => hperm.subset (hsub.subset hu)
      exact hall z (hmem z (by simp)) x (hmem x (by simp))

end Runs
