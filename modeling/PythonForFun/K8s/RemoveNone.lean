import PythonForFun.Lib.Positions
import PythonForFun.Object

set_option relaxedAutoImplicit false
set_option autoImplicit false

/-!
# Pruning the Nones of a document

`k8s/deployment/ut.py` prints the objects of the Kubernetes client as YAML, after `_remove_none`
has dropped the fields that are not set. The function filters a container before it goes down
into what is left of it, and builds a new container of the same type.

## Main definitions

* `K8s.removeNone` — `_remove_none`.
* `K8s.Document` — values of lists, tuples and dictionaries with plain keys, such as strings.
* `K8s.entries` — the children of a value with the container they are in and their key.
* `K8s.NoneFree` — no `None` stands in a container at any depth.
* `K8s.PrunedTo` — what is left of a document, position by position.

## Main results

* `K8s.prunes_removeNone` — on documents the function is a pruning in the sense of `Positions`.
* `K8s.removeNone_prunes_exactly` — it drops exactly the Nones.
-/

namespace PythonForFun.K8s

variable {σ : Type} [DecidableEq σ]

mutual

/-- `_remove_none(obj)`. -/
def removeNone : Obj σ → Obj σ
  | .seq kind xs => Obj.build kind (removeNoneList xs)
  | .dict items => Obj.dictOf (removeNoneItems items)
  | .none => .none
  | .scalar s => .scalar s

/-- `_remove_none(x) for x in obj if x is not None`. -/
def removeNoneList : List (Obj σ) → List (Obj σ)
  | [] => []
  | x :: xs => if x.isNotNone then removeNone x :: removeNoneList xs else removeNoneList xs

/-- `(_remove_none(k), _remove_none(v)) for k, v in obj.items() if k is not None and v is not
None`. -/
def removeNoneItems : List (Obj σ × Obj σ) → List (Obj σ × Obj σ)
  | [] => []
  | (k, v) :: items =>
    if k.isNotNone && v.isNotNone then (removeNone k, removeNone v) :: removeNoneItems items
    else removeNoneItems items

end

/-! ## What the function does to one container -/

/-- The elements: a filter, then the function on each of them. -/
theorem removeNoneList_eq (xs : List (Obj σ)) :
    removeNoneList xs = (xs.filter Obj.isNotNone).map removeNone := by
  induction xs with
  | nil => simp [removeNoneList]
  | cons x xs ih =>
    by_cases hx : x.isNotNone = true
    · simp [removeNoneList, hx, ih]
    · simp [removeNoneList, hx, ih]

/-- The items: a filter on keys and values, then the function on both. -/
theorem removeNoneItems_eq (items : List (Obj σ × Obj σ)) :
    removeNoneItems items = (items.filter fun e => e.1.isNotNone && e.2.isNotNone).map
      fun e => (removeNone e.1, removeNone e.2) := by
  induction items with
  | nil => simp [removeNoneItems]
  | cons e items ih =>
    by_cases he : (e.1.isNotNone && e.2.isNotNone) = true
    · simp only [removeNoneItems, he, if_true, List.filter_cons_of_pos, List.map_cons, ih]
    · simp only [removeNoneItems, he, List.filter_cons, ih]
      rfl

theorem removeNone_none : removeNone (.none : Obj σ) = .none := by
  rw [removeNone]

@[simp] theorem removeNone_scalar (s : σ) : removeNone (.scalar s) = .scalar s := by
  rw [removeNone]

theorem removeNone_seq (kind : Kind) (xs : List (Obj σ)) :
    removeNone (.seq kind xs) = Obj.build kind ((xs.filter Obj.isNotNone).map removeNone) := by
  rw [removeNone, removeNoneList_eq]

theorem removeNone_dict (items : List (Obj σ × Obj σ)) :
    removeNone (.dict items) = Obj.dictOf ((items.filter fun e => e.1.isNotNone &&
      e.2.isNotNone).map fun e => (removeNone e.1, removeNone e.2)) := by
  rw [removeNone, removeNoneItems_eq]

/-- **The type of a value is kept.** -/
theorem type_removeNone (v : Obj σ) : (removeNone v).type = v.type := by
  cases v with
  | none => rw [removeNone_none]
  | scalar s => rw [removeNone_scalar]
  | seq kind xs =>
    rw [removeNone_seq]
    cases kind <;> rfl
  | dict items =>
    rw [removeNone_dict]
    rfl

/-- No fresh `None` comes out of anything else. -/
theorem removeNone_eq_none_iff (v : Obj σ) : removeNone v = .none ↔ v = .none := by
  have htype := type_removeNone v
  constructor
  · intro h
    rw [h] at htype
    cases v <;> simp_all [Obj.type]
  · rintro rfl
    exact removeNone_none

/-! ## Documents -/

/-- A value built from `None`, scalars, lists, tuples and dictionaries whose keys are scalars, as
strings are. -/
inductive Document : Obj σ → Prop
  | none : Document .none
  | scalar (s : σ) : Document (.scalar s)
  | seq {kind : Kind} {xs : List (Obj σ)} (hkind : kind ≠ .set) (h : ∀ x ∈ xs, Document x) :
      Document (.seq kind xs)
  | dict {items : List (Obj σ × Obj σ)} (h : ∀ e ∈ items, Document e.2)
      (hkeys : ∀ e ∈ items, ∃ s, e.1 = .scalar s) (hnodup : (items.map Prod.fst).Nodup) :
      Document (.dict items)

/-- How a value is held: as an element of a list, tuple or set, or under a key. -/
inductive Held (σ : Type)
  | element (kind : Kind)
  | value (key : Obj σ)

/-- What a container holds, in order. -/
def entries : Obj σ → List (Held σ × Obj σ)
  | .none => []
  | .scalar _ => []
  | .seq kind xs => xs.map fun x => (.element kind, x)
  | .dict items => items.map fun e => (.value e.1, e.2)

/-- A list or tuple is filtered. -/
theorem removeNone_seq_of_ne {kind : Kind} (hkind : kind ≠ .set) (xs : List (Obj σ)) :
    removeNone (.seq kind xs) = .seq kind ((xs.filter Obj.isNotNone).map removeNone) := by
  rw [removeNone_seq]
  cases kind with
  | list => rfl
  | tuple => rfl
  | set => exact absurd rfl hkind

/-- A dictionary with plain keys is filtered by its values and keeps its keys. -/
theorem removeNone_dict_of_scalar {items : List (Obj σ × Obj σ)}
    (hkeys : ∀ e ∈ items, ∃ s, e.1 = .scalar s) (hnodup : (items.map Prod.fst).Nodup) :
    removeNone (.dict items) =
      .dict ((items.filter fun e => e.2.isNotNone).map fun e => (e.1, removeNone e.2)) := by
  have hfilter : (items.filter fun e => e.1.isNotNone && e.2.isNotNone) =
      items.filter fun e => e.2.isNotNone := by
    refine List.filter_congr fun e he => ?_
    obtain ⟨s, hs⟩ := hkeys e he
    simp [hs, Obj.isNotNone]
  have hmap : (items.filter fun e => e.2.isNotNone).map
        (fun e => (removeNone e.1, removeNone e.2)) =
      (items.filter fun e => e.2.isNotNone).map fun e => (e.1, removeNone e.2) := by
    refine List.map_congr_left fun e he => ?_
    obtain ⟨s, hs⟩ := hkeys e (List.mem_of_mem_filter he)
    rw [hs, removeNone_scalar]
  have hkept : (((items.filter fun e => e.2.isNotNone).map
      fun e => (e.1, removeNone e.2)).map Prod.fst).Nodup := by
    rw [List.map_map]
    exact hnodup.sublist (List.filter_sublist.map Prod.fst)
  rw [removeNone_dict, hfilter, hmap, Obj.dictOf_of_nodup hkept]

/-- The function takes documents to documents. -/
theorem document_removeNone {v : Obj σ} (hv : Document v) : Document (removeNone v) := by
  induction v with
  | none => rwa [removeNone_none]
  | scalar s => rwa [removeNone_scalar]
  | seq kind xs ih =>
    obtain _ | _ | ⟨hkind, h⟩ | _ := hv
    rw [removeNone_seq_of_ne hkind]
    refine .seq hkind fun y hy => ?_
    obtain ⟨x, hx, rfl⟩ := List.mem_map.mp hy
    have hmem := List.mem_of_mem_filter hx
    exact ih x hmem (h x hmem)
  | dict items ih =>
    obtain _ | _ | _ | ⟨h, hkeys, hnodup⟩ := hv
    rw [removeNone_dict_of_scalar hkeys hnodup]
    refine .dict (fun e' he' => ?_) (fun e' he' => ?_) ?_
    · obtain ⟨e, he, rfl⟩ := List.mem_map.mp he'
      have hmem := List.mem_of_mem_filter he
      exact (ih e hmem).2 (h e hmem)
    · obtain ⟨e, he, rfl⟩ := List.mem_map.mp he'
      exact hkeys e (List.mem_of_mem_filter he)
    · rw [List.map_map]
      exact hnodup.sublist (List.filter_sublist.map Prod.fst)

/-- **On documents the function is a pruning**: every container keeps what is not `None`, in
order, and each of it is pruned in turn. -/
theorem prunes_removeNone :
    Positions.Prunes entries Obj.isNotNone Document (removeNone : Obj σ → Obj σ) where
  domain_entries := by
    intro v hv e he
    obtain _ | _ | ⟨-, h⟩ | ⟨h, -, -⟩ := hv
    · simp [entries] at he
    · simp [entries] at he
    · obtain ⟨x, hx, rfl⟩ := List.mem_map.mp he
      exact h x hx
    · obtain ⟨e', he', rfl⟩ := List.mem_map.mp he
      exact h e' he'
  entries_eq := by
    intro v hv
    obtain _ | _ | ⟨hkind, -⟩ | ⟨-, hkeys, hnodup⟩ := hv
    · rw [removeNone_none]
      rfl
    · rw [removeNone_scalar]
      rfl
    · rw [removeNone_seq_of_ne hkind]
      simp [entries, List.filter_map, Function.comp_def]
    · rw [removeNone_dict_of_scalar hkeys hnodup]
      simp [entries, List.filter_map, Function.comp_def]

/-! ## Documents without a None -/

/-- No `None` is a list element, tuple element or dictionary value at any depth. -/
def NoneFree (v : Obj σ) : Prop := ∀ p ≠ [], Positions.get? entries p v ≠ some .none

omit [DecidableEq σ] in
/-- What a document without a `None` holds is not `None`, and without one. -/
theorem NoneFree.of_mem_entries {v : Obj σ} (hv : NoneFree v) {e : Held σ × Obj σ}
    (he : e ∈ entries v) : e.2 ≠ .none ∧ NoneFree e.2 := by
  obtain ⟨i, hi⟩ := List.mem_iff_getElem?.mp he
  have hchild : ∀ p, Positions.get? entries (i :: p) v = Positions.get? entries p e.2 := by
    intro p
    simp [Positions.get?, hi]
  constructor
  · intro hnone
    exact hv [i] (List.cons_ne_nil i []) (by rw [hchild, Positions.get?, hnone])
  · intro p _
    rw [← hchild]
    exact hv (i :: p) (List.cons_ne_nil i p)

/-- The function leaves no `None`. -/
theorem noneFree_removeNone {v : Obj σ} (hv : Document v) : NoneFree (removeNone v) := by
  intro p hp hnone
  obtain ⟨x, hx, hy⟩ := prunes_removeNone.exists_keep_of_get? hv hp hnone
  rw [Obj.isNotNone_eq_true_iff] at hx
  exact hx ((removeNone_eq_none_iff x).mp hy.symm)

/-- A document without a `None` is left as it is.

**Proof sketch.** Induction on the nesting: the filter drops nothing, and what is held is left
as it is. -/
theorem removeNone_of_noneFree {v : Obj σ} (hv : Document v) (hfree : NoneFree v) :
    removeNone v = v := by
  induction v with
  | none => exact removeNone_none
  | scalar s => exact removeNone_scalar s
  | seq kind xs ih =>
    obtain _ | _ | ⟨hkind, h⟩ | _ := hv
    have helem : ∀ x ∈ xs, x ≠ .none ∧ NoneFree x := fun x hx =>
      hfree.of_mem_entries (e := (.element kind, x)) (List.mem_map_of_mem hx)
    have hfilter : xs.filter Obj.isNotNone = xs :=
      List.filter_eq_self.mpr fun x hx => (Obj.isNotNone_eq_true_iff x).mpr (helem x hx).1
    have hmap : xs.map removeNone = xs := by
      refine (List.map_congr_left fun x hx => ?_).trans (List.map_id' xs)
      exact ih x hx (h x hx) (helem x hx).2
    rw [removeNone_seq_of_ne hkind, hfilter, hmap]
  | dict items ih =>
    obtain _ | _ | _ | ⟨h, hkeys, hnodup⟩ := hv
    have hvalue : ∀ e ∈ items, e.2 ≠ .none ∧ NoneFree e.2 := fun e he =>
      hfree.of_mem_entries (e := (.value e.1, e.2)) (List.mem_map_of_mem he)
    have hfilter : items.filter (fun e => e.2.isNotNone) = items :=
      List.filter_eq_self.mpr fun e he => (Obj.isNotNone_eq_true_iff e.2).mpr (hvalue e he).1
    have hmap : items.map (fun e => (e.1, removeNone e.2)) = items := by
      refine (List.map_congr_left fun e he => ?_).trans (List.map_id' items)
      rw [(ih e he).2 (h e he) (hvalue e he).2]
    rw [removeNone_dict_of_scalar hkeys hnodup, hfilter, hmap]

/-! ## Exactly the Nones are dropped -/

/-- `w` is what is left of `v` when the Nones are dropped. A node survives when neither it nor an
ancestor below the root is `None`; its position then says where it stands in `w`. -/
structure PrunedTo (v w : Obj σ) : Prop where
  noneFree : NoneFree w
  kept : ∀ p x, Positions.Survives entries Obj.isNotNone p v →
    Positions.get? entries p v = some x →
    ∃ y, Positions.get? entries (Positions.shift entries Obj.isNotNone p v) w = some y ∧
      y.type = x.type ∧ ∀ s, x = .scalar s → y = .scalar s
  held : ∀ p, Positions.Survives entries Obj.isNotNone p v →
    Positions.labels entries (Positions.shift entries Obj.isNotNone p v) w =
      Positions.labels entries p v
  siblings : ∀ p i j, Positions.Survives entries Obj.isNotNone (p ++ [i]) v →
    Positions.Survives entries Obj.isNotNone (p ++ [j]) v → i < j →
    ∃ i' j', Positions.shift entries Obj.isNotNone (p ++ [i]) v =
        Positions.shift entries Obj.isNotNone p v ++ [i'] ∧
      Positions.shift entries Obj.isNotNone (p ++ [j]) v =
        Positions.shift entries Obj.isNotNone p v ++ [j'] ∧ i' < j'
  only : ∀ q y, Positions.get? entries q w = some y →
    ∃ p, Positions.Survives entries Obj.isNotNone p v ∧
      Positions.shift entries Obj.isNotNone p v = q

/-- The function leaves of a document what is left without its Nones. -/
theorem prunedTo_removeNone {v : Obj σ} (hv : Document v) : PrunedTo v (removeNone v) where
  noneFree := noneFree_removeNone hv
  kept := by
    intro p x hp hx
    refine ⟨removeNone x, ?_, type_removeNone x, ?_⟩
    · rw [prunes_removeNone.get?_shift hv hp, hx]
      rfl
    · rintro s rfl
      exact removeNone_scalar s
  held := fun p hp => prunes_removeNone.labels_shift hv hp
  siblings := fun p i j hi hj hij => Positions.exists_shift_siblings hi hj hij
  only := by
    intro q y hq
    obtain ⟨p, -, hp, -, hshift, -⟩ := prunes_removeNone.exists_of_get? hv hq
    exact ⟨p, hp, hshift⟩

/-- **Exactly the Nones are dropped**: of every document, `_remove_none` leaves what is left of it
without its Nones, changes only a document with a `None`, and nothing the second time. -/
theorem removeNone_prunes_exactly {v : Obj σ} (hv : Document v) (hne : v ≠ .none) :
    removeNone v ≠ .none ∧ PrunedTo v (removeNone v) ∧
      (removeNone v = v ↔ NoneFree v) ∧ removeNone (removeNone v) = removeNone v := by
  have hfree := noneFree_removeNone hv
  refine ⟨?_, prunedTo_removeNone hv, ⟨?_, removeNone_of_noneFree hv⟩, ?_⟩
  · rwa [Ne, removeNone_eq_none_iff]
  · intro h
    exact h ▸ hfree
  · exact removeNone_of_noneFree (document_removeNone hv) hfree

/-- A deployment without labels, with a `None` among its arguments. -/
theorem removeNone_prunes_exactly_deployment :
    let v : Obj String := .dict [(.scalar "labels", .none), (.scalar "args",
      .seq .list [.none, .scalar "-c", .seq .tuple [.scalar "luksa", .none]])]
    removeNone v = .dict [(.scalar "args",
        .seq .list [.scalar "-c", .seq .tuple [.scalar "luksa"]])] ∧
      removeNone v ≠ .none ∧ PrunedTo v (removeNone v) ∧ (removeNone v = v ↔ NoneFree v) ∧
      removeNone (removeNone v) = removeNone v := by
  intro v
  have hargs :
      Document (.seq .list [.none, .scalar "-c", .seq .tuple [.scalar "luksa", .none]]) := by
    refine .seq (by decide) ?_
    simp only [List.forall_mem_cons]
    refine ⟨.none, .scalar _, .seq (by decide) ?_, by simp⟩
    simp only [List.forall_mem_cons]
    exact ⟨.scalar _, .none, by simp⟩
  have hv : Document v := by
    refine .dict ?_ ?_ (by decide)
    · simp only [List.forall_mem_cons]
      exact ⟨.none, hargs, by simp⟩
    · simp
  exact ⟨by decide, removeNone_prunes_exactly hv (by decide)⟩

end PythonForFun.K8s
