import Mathlib.Data.List.Basic

set_option relaxedAutoImplicit false
set_option autoImplicit false

/-!
# Positions in a tree, and what pruning does to them

A tree is given by the labelled children of each node, in order; a position is the list of child
indices that leads to a node. Pruning drops the children that are not to be kept, at every node.
A node that survives with all its ancestors is found again at a position that is computed from
its old one: every index is lowered by the number of siblings dropped before it.

## Main definitions

* `Positions.get?`, `Positions.labels` — the node at a position and the labels on the way to it.
* `Positions.Survives` — a position with nothing dropped on the way to it.
* `Positions.shift` — the position after the pruning.
* `Positions.Prunes` — a function that prunes every tree of a domain.

## Main results

* `Positions.Prunes.get?_shift`, `Positions.Prunes.labels_shift` — what survives is found again,
  under the same labels.
* `Positions.exists_shift_siblings` — surviving siblings keep their order.
* `Positions.Prunes.exists_of_get?` — nothing else is found.
-/

namespace Positions

variable {τ κ : Type} (entries : τ → List (κ × τ)) (keep : τ → Bool)

/-- The node at a position. -/
def get? : List ℕ → τ → Option τ
  | [], v => some v
  | i :: p, v => (entries v)[i]?.bind fun e => get? p e.2

/-- The labels on the way to a position. -/
def labels : List ℕ → τ → List κ
  | [], _ => []
  | i :: p, v =>
    match (entries v)[i]? with
    | none => []
    | some e => e.1 :: labels p e.2

/-- The position exists, and every node on the way to it, the node itself included, is kept. The
root is not asked for. -/
def Survives : List ℕ → τ → Prop
  | [], _ => True
  | i :: p, v => ∃ e, (entries v)[i]? = some e ∧ keep e.2 = true ∧ Survives p e.2

/-- How many of the first `i` children are kept. -/
def rank (v : τ) (i : ℕ) : ℕ := ((entries v).take i).countP fun e => keep e.2

/-- The position after the children that are not kept have been dropped everywhere. -/
def shift : List ℕ → τ → List ℕ
  | [], _ => []
  | i :: p, v =>
    match (entries v)[i]? with
    | none => i :: p
    | some e => rank entries keep v i :: shift p e.2

/-- `f` drops the children that are not kept from every tree of the domain, at every depth. -/
structure Prunes (domain : τ → Prop) (f : τ → τ) : Prop where
  domain_entries : ∀ v, domain v → ∀ e ∈ entries v, domain e.2
  entries_eq : ∀ v, domain v →
    entries (f v) = ((entries v).filter fun e => keep e.2).map fun e => (e.1, f e.2)

/-! ## Filtered lists -/

section Filter

variable {α : Type} (p : α → Bool)

/-- A kept element stands in the filtered list behind the kept ones before it. -/
theorem getElem?_filter_countP {l : List α} {i : ℕ} {a : α} (ha : l[i]? = some a)
    (hp : p a = true) : (l.filter p)[(l.take i).countP p]? = some a := by
  induction l generalizing i with
  | nil => simp at ha
  | cons b l ih =>
    cases i with
    | zero =>
      obtain rfl : b = a := by simpa using ha
      simp [hp]
    | succ i =>
      have hrest := ih (by simpa using ha)
      by_cases hb : p b = true
      · simpa [hb] using hrest
      · simpa [hb] using hrest

/-- Every element of the filtered list is a kept one, with as many kept ones before it. -/
theorem exists_of_getElem?_filter {l : List α} {j : ℕ} {a : α} (ha : (l.filter p)[j]? = some a) :
    ∃ i, l[i]? = some a ∧ p a = true ∧ (l.take i).countP p = j := by
  induction l generalizing j with
  | nil => simp at ha
  | cons b l ih =>
    by_cases hb : p b = true
    · cases j with
      | zero =>
        obtain rfl : b = a := by simpa [hb] using ha
        exact ⟨0, rfl, hb, rfl⟩
      | succ j =>
        obtain ⟨i, hi, hpa, hcount⟩ := ih (j := j) (by simpa [hb] using ha)
        exact ⟨i + 1, by simpa using hi, hpa, by simp [hb, hcount]⟩
    · obtain ⟨i, hi, hpa, hcount⟩ := ih (j := j) (by simpa [hb] using ha)
      exact ⟨i + 1, by simpa using hi, hpa, by simp [hb, hcount]⟩

/-- A kept element counts among those before every later index. -/
theorem countP_take_lt {l : List α} {i j : ℕ} {a : α} (hij : i < j) (ha : l[i]? = some a)
    (hp : p a = true) : (l.take i).countP p < (l.take j).countP p := by
  have hnext : (l.take (i + 1)).countP p = (l.take i).countP p + 1 := by
    rw [List.take_add_one, ha, List.countP_append]
    simp [hp]
  have hle : (l.take (i + 1)).countP p ≤ (l.take j).countP p :=
    (List.take_sublist_take_left (by omega)).countP_le
  omega

end Filter

/-! ## What pruning does to the positions -/

variable {entries keep}

/-- A survivor below the root is kept itself. -/
theorem Survives.keep_of_get? {p : List ℕ} {v x : τ} (hp : Survives entries keep p v)
    (hne : p ≠ []) (hx : get? entries p v = some x) : keep x = true := by
  induction p generalizing v with
  | nil => exact absurd rfl hne
  | cons i p ih =>
    obtain ⟨e, he, hkeep, hrest⟩ := hp
    simp only [get?, he, Option.bind_some] at hx
    cases p with
    | nil =>
      obtain rfl : e.2 = x := Option.some.inj hx
      exact hkeep
    | cons j p => exact ih hrest (List.cons_ne_nil j p) hx

/-- **Siblings keep their order**: what survives in one node is found again in one node, in the
same order.

**Proof sketch.** Induction on the position of the node. In the node itself, the earlier child is
a kept one, so it counts among those before the later one. -/
theorem exists_shift_siblings {p : List ℕ} {i j : ℕ} {v : τ}
    (hi : Survives entries keep (p ++ [i]) v) (hj : Survives entries keep (p ++ [j]) v)
    (hij : i < j) :
    ∃ i' j', shift entries keep (p ++ [i]) v = shift entries keep p v ++ [i'] ∧
      shift entries keep (p ++ [j]) v = shift entries keep p v ++ [j'] ∧ i' < j' := by
  induction p generalizing v with
  | nil =>
    obtain ⟨e, he, hkeep, -⟩ := hi
    obtain ⟨e', he', -, -⟩ := hj
    refine ⟨rank entries keep v i, rank entries keep v j, ?_, ?_, ?_⟩
    · simp [shift, he]
    · simp [shift, he']
    · exact countP_take_lt (fun e : κ × τ => keep e.2) hij he hkeep
  | cons k p ih =>
    obtain ⟨e, he, -, hrest⟩ := hi
    obtain ⟨e', he', -, hrest'⟩ := hj
    obtain rfl : e = e' := Option.some.inj (he.symm.trans he')
    obtain ⟨i', j', hshift, hshift', hlt⟩ := ih hrest hrest'
    refine ⟨i', j', ?_, ?_, hlt⟩
    · simp [shift, he, hshift]
    · simp [shift, he, hshift']

namespace Prunes

variable {domain : τ → Prop} {f : τ → τ}

/-- A kept child is found among the children of the pruned tree, pruned itself and under its
label. -/
theorem entries_rank (h : Prunes entries keep domain f) {v : τ} (hv : domain v) {i : ℕ}
    {e : κ × τ} (he : (entries v)[i]? = some e) (hkeep : keep e.2 = true) :
    (entries (f v))[rank entries keep v i]? = some (e.1, f e.2) := by
  rw [h.entries_eq v hv, List.getElem?_map, rank, getElem?_filter_countP _ he hkeep]
  rfl

/-- A child found by its index belongs to the domain. -/
theorem domain_of_getElem? (h : Prunes entries keep domain f) {v : τ} (hv : domain v) {i : ℕ}
    {e : κ × τ} (he : (entries v)[i]? = some e) : domain e.2 :=
  h.domain_entries v hv e (List.mem_of_getElem? he)

/-- **What survives is found again**, pruned itself, at the shifted position. -/
theorem get?_shift (h : Prunes entries keep domain f) {p : List ℕ} {v : τ} (hv : domain v)
    (hp : Survives entries keep p v) :
    get? entries (shift entries keep p v) (f v) = (get? entries p v).map f := by
  induction p generalizing v with
  | nil => rfl
  | cons i p ih =>
    obtain ⟨e, he, hkeep, hrest⟩ := hp
    simp only [shift, get?, he, h.entries_rank hv he hkeep, Option.bind_some]
    exact ih (h.domain_of_getElem? hv he) hrest

/-- The labels on the way to a survivor are the same as before. -/
theorem labels_shift (h : Prunes entries keep domain f) {p : List ℕ} {v : τ} (hv : domain v)
    (hp : Survives entries keep p v) :
    labels entries (shift entries keep p v) (f v) = labels entries p v := by
  induction p generalizing v with
  | nil => rfl
  | cons i p ih =>
    obtain ⟨e, he, hkeep, hrest⟩ := hp
    simp only [shift, labels, he, h.entries_rank hv he hkeep]
    rw [ih (h.domain_of_getElem? hv he) hrest]

/-- **Nothing else is found** in the pruned tree: every position of it is the shifted one of a
survivor.

**Proof sketch.** Induction on the position; the child it starts in comes from a kept child of
the tree before. -/
theorem exists_of_get? (h : Prunes entries keep domain f) {q : List ℕ} {v y : τ} (hv : domain v)
    (hq : get? entries q (f v) = some y) :
    ∃ p x, Survives entries keep p v ∧ get? entries p v = some x ∧
      shift entries keep p v = q ∧ y = f x := by
  induction q generalizing v with
  | nil => exact ⟨[], v, trivial, rfl, rfl, (Option.some.inj hq).symm⟩
  | cons j q ih =>
    obtain ⟨e', he', hget⟩ := Option.bind_eq_some_iff.mp hq
    rw [h.entries_eq v hv, List.getElem?_map] at he'
    obtain ⟨e, he, rfl⟩ := Option.map_eq_some_iff.mp he'
    obtain ⟨i, hi, hkeep, hrank⟩ := exists_of_getElem?_filter _ he
    obtain ⟨p, x, hp, hx, hshift, hy⟩ := ih (h.domain_of_getElem? hv hi) hget
    refine ⟨i :: p, x, ⟨e, hi, hkeep, hp⟩, ?_, ?_, hy⟩
    · simp only [get?, hi, Option.bind_some, hx]
    · simp only [shift, hi, rank, hrank, hshift]

/-- A node of the pruned tree below its root is a kept one. -/
theorem exists_keep_of_get? (h : Prunes entries keep domain f) {q : List ℕ} {v y : τ}
    (hv : domain v) (hne : q ≠ []) (hq : get? entries q (f v) = some y) :
    ∃ x, keep x = true ∧ y = f x := by
  obtain ⟨p, x, hp, hx, rfl, rfl⟩ := h.exists_of_get? hv hq
  have hpne : p ≠ [] := by
    intro hnil
    exact hne (by rw [hnil]; rfl)
  exact ⟨x, hp.keep_of_get? hpne hx, rfl⟩

end Prunes

end Positions
