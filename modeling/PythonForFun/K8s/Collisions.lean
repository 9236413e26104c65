import PythonForFun.K8s.RemoveNone

set_option relaxedAutoImplicit false
set_option autoImplicit false

/-!
# Keys that collide when the Nones are pruned

`_remove_none` rewrites the keys of a dictionary and the elements of a set like everything else.
A key may be a tuple with a `None` in it, and two such keys may differ in their Nones only: then
the entry of the first is replaced by that of the second.

## Main definitions

* `K8s.Reaches` — the values met on the way down, past what is dropped.
* `K8s.LosesNothing` — every container reached keeps all its entries.
* `K8s.SameButNones` — two keys differ in their Nones only.
* `K8s.CollisionFree` — no container reached has two such keys.

## Main results

* `K8s.removeNone_eq_iff` — the keys that become one.
* `K8s.losesNothing_iff` — nothing is lost iff no two keys differ in their Nones only.
-/

namespace PythonForFun.K8s

variable {σ : Type}

/-! ## What is kept of a container -/

/-- The values the function goes down into, the value itself first. -/
inductive Reaches : Obj σ → Obj σ → Prop
  | refl (v : Obj σ) : Reaches v v
  | element {kind : Kind} {xs : List (Obj σ)} {x w : Obj σ} (hx : x ∈ xs) (hne : x ≠ .none)
      (h : Reaches x w) : Reaches (.seq kind xs) w
  | key {items : List (Obj σ × Obj σ)} {e : Obj σ × Obj σ} {w : Obj σ} (he : e ∈ items)
      (hkey : e.1 ≠ .none) (hvalue : e.2 ≠ .none) (h : Reaches e.1 w) : Reaches (.dict items) w
  | value {items : List (Obj σ × Obj σ)} {e : Obj σ × Obj σ} {w : Obj σ} (he : e ∈ items)
      (hkey : e.1 ≠ .none) (hvalue : e.2 ≠ .none) (h : Reaches e.2 w) : Reaches (.dict items) w

/-- The elements of a container that are not `None`. -/
def keptElements (xs : List (Obj σ)) : List (Obj σ) := xs.filter Obj.isNotNone

/-- The entries of a dictionary whose key and value are both not `None`. -/
def keptItems (items : List (Obj σ × Obj σ)) : List (Obj σ × Obj σ) :=
  items.filter fun e => e.1.isNotNone && e.2.isNotNone

/-- How many entries or elements a container has that are not to be dropped. -/
def keptLen : Obj σ → ℕ
  | .none => 0
  | .scalar _ => 0
  | .seq _ xs => (keptElements xs).length
  | .dict items => (keptItems items).length

/-- What has to stay distinct: the elements of a set and the keys of a dictionary, of those that
are kept. -/
def keptKeys : Obj σ → List (Obj σ)
  | .seq .set xs => keptElements xs
  | .dict items => (keptItems items).map Prod.fst
  | _ => []

theorem mem_keptElements (xs : List (Obj σ)) (x : Obj σ) :
    x ∈ keptElements xs ↔ x ∈ xs ∧ x ≠ .none := by
  simp [keptElements]

theorem mem_keptItems (items : List (Obj σ × Obj σ)) (e : Obj σ × Obj σ) :
    e ∈ keptItems items ↔ e ∈ items ∧ e.1 ≠ .none ∧ e.2 ≠ .none := by
  simp [keptItems]

/-! ## Keys that differ in their Nones only -/

mutual

/-- Two scalars or tuples are the same when the Nones in them are passed over. -/
inductive SameButNones : Obj σ → Obj σ → Prop
  | scalar (s : σ) : SameButNones (.scalar s) (.scalar s)
  | tuple {xs ys : List (Obj σ)} (h : SameListButNones xs ys) :
      SameButNones (.seq .tuple xs) (.seq .tuple ys)

/-- Two lists are the same when the Nones in them are passed over. -/
inductive SameListButNones : List (Obj σ) → List (Obj σ) → Prop
  | nil : SameListButNones [] []
  | left {xs ys : List (Obj σ)} (h : SameListButNones xs ys) : SameListButNones (.none :: xs) ys
  | right {xs ys : List (Obj σ)} (h : SameListButNones xs ys) : SameListButNones xs (.none :: ys)
  | cons {x y : Obj σ} {xs ys : List (Obj σ)} (hx : SameButNones x y)
      (h : SameListButNones xs ys) : SameListButNones (x :: xs) (y :: ys)

end

/-- No two keys or elements kept in one container differ in their Nones only. -/
def CollisionFree (v : Obj σ) : Prop :=
  ∀ w, Reaches v w → (keptKeys w).Pairwise fun a b => ¬ SameButNones a b

/-- A key that differs in its Nones only is not `None` itself. -/
theorem SameButNones.isNotNone {a b : Obj σ} (h : SameButNones a b) :
    a.isNotNone = true ∧ b.isNotNone = true := by
  cases h <;> exact ⟨rfl, rfl⟩

variable [DecidableEq σ]

/-- Every container on the way down is found again in the result, with all the entries it had
that were not to be dropped. -/
def LosesNothing (v : Obj σ) : Prop :=
  ∀ w, Reaches v w → Reaches (removeNone v) (removeNone w) ∧ (removeNone w).len = keptLen w

mutual

/-- Keys that differ in their Nones only become one. -/
theorem SameButNones.removeNone_eq {a b : Obj σ} :
    SameButNones a b → removeNone a = removeNone b
  | .scalar _ => rfl
  | .tuple h => by rw [removeNone_seq, removeNone_seq, h.map_removeNone_eq]

/-- So do the elements of lists that differ in their Nones only. -/
theorem SameListButNones.map_removeNone_eq {xs ys : List (Obj σ)} :
    SameListButNones xs ys →
      (xs.filter Obj.isNotNone).map removeNone = (ys.filter Obj.isNotNone).map removeNone
  | .nil => rfl
  | .left h => by simpa [Obj.isNotNone] using h.map_removeNone_eq
  | .right h => by simpa [Obj.isNotNone] using h.map_removeNone_eq
  | .cons hx h => by
    obtain ⟨hleft, hright⟩ := hx.isNotNone
    simp only [List.filter_cons, hleft, hright, if_true, List.map_cons, hx.removeNone_eq,
      h.map_removeNone_eq]

end

/-- Lists with the same pruned elements differ in their Nones only, if that is so of their
elements.

**Proof sketch.** Induction on the first list, and on the second one for a fixed first element
that is not `None`: Nones are passed over on either side, and the first elements left belong
together. -/
theorem sameListButNones_of_map_eq {xs ys : List (Obj σ)}
    (hsame : ∀ x ∈ xs, x ≠ .none → ∀ y ∈ ys, y ≠ .none → removeNone x = removeNone y →
      SameButNones x y)
    (h : (xs.filter Obj.isNotNone).map removeNone = (ys.filter Obj.isNotNone).map removeNone) :
    SameListButNones xs ys := by
  induction xs generalizing ys with
  | nil =>
    induction ys with
    | nil => exact .nil
    | cons y ys ih =>
      by_cases hy : y = .none
      · subst hy
        exact .right (ih (by simp) (by simpa [Obj.isNotNone] using h))
      · simp [hy] at h
  | cons x xs ih =>
    by_cases hx : x = .none
    · subst hx
      refine .left (ih (fun a ha => hsame a (List.mem_cons_of_mem _ ha)) ?_)
      simpa [Obj.isNotNone] using h
    · induction ys with
      | nil => simp [hx] at h
      | cons y ys ihys =>
        by_cases hy : y = .none
        · subst hy
          refine .right (ihys (fun a ha hane b hb => hsame a ha hane b ?_) ?_)
          · exact List.mem_cons_of_mem _ hb
          · simpa [Obj.isNotNone] using h
        · simp only [List.filter_cons, (Obj.isNotNone_eq_true_iff x).mpr hx,
            (Obj.isNotNone_eq_true_iff y).mpr hy, if_true, List.map_cons,
            List.cons.injEq] at h
          refine .cons (hsame x List.mem_cons_self hx y List.mem_cons_self hy h.1) ?_
          refine ih (fun a ha hane b hb => ?_) h.2
          exact hsame a (List.mem_cons_of_mem _ ha) hane b (List.mem_cons_of_mem _ hb)

/-- **The keys that become one** are those that differ in their Nones only.

**Proof sketch.** Induction on the nesting of the first key. A scalar is left as it is; a tuple
becomes a tuple, so both keys are tuples whose elements have been pruned to the same list. -/
theorem removeNone_eq_iff {a b : Obj σ} (ha : a.Hashable) (hb : b.Hashable) (hane : a ≠ .none)
    (hbne : b ≠ .none) : removeNone a = removeNone b ↔ SameButNones a b := by
  refine ⟨fun h => ?_, SameButNones.removeNone_eq⟩
  have htype : a.type = b.type := by
    rw [← type_removeNone a, h, type_removeNone b]
  induction a generalizing b with
  | none => exact absurd rfl hane
  | scalar s =>
    cases hb with
    | none => exact absurd rfl hbne
    | scalar t =>
      simp only [removeNone_scalar, Obj.scalar.injEq] at h
      subst h
      exact .scalar s
    | tuple hys => simp [Obj.type] at htype
  | seq kind xs ih =>
    obtain _ | _ | hxs := ha
    cases hb with
    | none => exact absurd rfl hbne
    | scalar t => simp [Obj.type] at htype
    | tuple hys =>
      rw [removeNone_seq_of_ne (by decide), removeNone_seq_of_ne (by decide)] at h
      refine .tuple (sameListButNones_of_map_eq ?_ (Obj.seq.inj h).2)
      intro x hx hxne y hy hyne hxy
      refine ih x hx (hxs x hx) (hys y hy) hxne hyne hxy ?_
      rw [← type_removeNone x, hxy, type_removeNone y]
  | dict items ih => cases ha

/-! ## When nothing is lost -/

omit [DecidableEq σ] in
/-- A key is well-formed. -/
theorem wellFormed_of_hashable {v : Obj σ} (hv : v.Hashable) : v.WellFormed := by
  induction hv with
  | none => exact .none
  | scalar s => exact .scalar s
  | tuple _ ih => exact .seq ih (by simp)

omit [DecidableEq σ] in
/-- What is reached in a well-formed value is well-formed. -/
theorem Reaches.wellFormed {v w : Obj σ} (h : Reaches v w) (hv : v.WellFormed) :
    w.WellFormed := by
  induction h with
  | refl v => exact hv
  | element hx _ _ ih =>
    obtain _ | _ | ⟨h, -⟩ | _ := hv
    exact ih (h _ hx)
  | key he _ _ _ ih =>
    obtain _ | _ | _ | ⟨-, hkeys, -⟩ := hv
    exact ih (wellFormed_of_hashable (hkeys _ he))
  | value he _ _ _ ih =>
    obtain _ | _ | _ | ⟨h, -, -⟩ := hv
    exact ih (h _ he)

omit [DecidableEq σ] in
/-- The keys and set elements that are kept are hashable and not `None`. -/
theorem hashable_of_mem_keptKeys {w : Obj σ} (hw : w.WellFormed) {a : Obj σ}
    (ha : a ∈ keptKeys w) : a.Hashable ∧ a ≠ .none := by
  cases hw with
  | none => simp [keptKeys] at ha
  | scalar s => simp [keptKeys] at ha
  | @seq kind xs h hset =>
    cases kind with
    | list => simp [keptKeys] at ha
    | tuple => simp [keptKeys] at ha
    | set =>
      obtain ⟨hmem, hne⟩ := (mem_keptElements xs a).mp ha
      exact ⟨(hset rfl).1 a hmem, hne⟩
  | @dict items h hkeys hnodup =>
    obtain ⟨e, he, rfl⟩ := List.mem_map.mp ha
    obtain ⟨hmem, hne, -⟩ := (mem_keptItems items e).mp he
    exact ⟨hkeys e hmem, hne⟩

/-- A container keeps all it should iff its keys are still distinct when pruned. -/
theorem len_removeNone_iff_nodup (w : Obj σ) :
    (removeNone w).len = keptLen w ↔ ((keptKeys w).map removeNone).Nodup := by
  cases w with
  | none => simp [removeNone_none, Obj.len, keptLen, keptKeys]
  | scalar s => simp [Obj.len, keptLen, keptKeys]
  | seq kind xs =>
    have hlen := Obj.len_build_iff kind ((keptElements xs).map removeNone)
    rw [List.length_map] at hlen
    rw [removeNone_seq, keptLen]
    refine hlen.trans ?_
    cases kind with
    | list => simp [keptKeys]
    | tuple => simp [keptKeys]
    | set => simp [keptKeys]
  | dict items =>
    have hlen := Obj.len_dictOf_iff
      ((keptItems items).map fun e => (removeNone e.1, removeNone e.2))
    rw [List.length_map, List.map_map] at hlen
    rw [removeNone_dict, keptLen, keptKeys, List.map_map]
    exact hlen

/-- A container keeps all it should iff no two of its keys differ in their Nones only. -/
theorem len_removeNone_iff {w : Obj σ} (hw : w.WellFormed) :
    (removeNone w).len = keptLen w ↔
      (keptKeys w).Pairwise fun a b => ¬ SameButNones a b := by
  rw [len_removeNone_iff_nodup, List.Nodup, List.pairwise_map]
  refine List.Pairwise.iff_of_mem fun {a b} ha hb => not_congr ?_
  obtain ⟨hahash, hane⟩ := hashable_of_mem_keptKeys hw ha
  obtain ⟨hbhash, hbne⟩ := hashable_of_mem_keptKeys hw hb
  exact removeNone_eq_iff hahash hbhash hane hbne

/-- A dictionary without a collision holds its kept items, pruned. -/
theorem removeNone_dict_of_collisionFree {items : List (Obj σ × Obj σ)}
    (hv : (Obj.dict items).WellFormed) (hfree : CollisionFree (.dict items)) :
    removeNone (.dict items) =
      .dict ((keptItems items).map fun e => (removeNone e.1, removeNone e.2)) := by
  have hnodup : ((keptKeys (.dict items)).map removeNone).Nodup := by
    rw [← len_removeNone_iff_nodup, len_removeNone_iff hv]
    exact hfree _ (.refl _)
  rw [keptKeys, List.map_map] at hnodup
  rw [removeNone_dict]
  refine Obj.dictOf_of_nodup ?_
  rw [List.map_map]
  exact hnodup

/-- An item that is kept is found, pruned, in a dictionary without a collision. -/
theorem exists_item_removeNone {items : List (Obj σ × Obj σ)} (hv : (Obj.dict items).WellFormed)
    (hfree : CollisionFree (.dict items)) {e : Obj σ × Obj σ} (he : e ∈ items)
    (hkey : e.1 ≠ .none) (hvalue : e.2 ≠ .none) :
    ∃ items', removeNone (.dict items) = .dict items' ∧
      (removeNone e.1, removeNone e.2) ∈ items' ∧ removeNone e.1 ≠ .none ∧
        removeNone e.2 ≠ .none := by
  refine ⟨_, removeNone_dict_of_collisionFree hv hfree, ?_, ?_, ?_⟩
  · exact List.mem_map.mpr ⟨e, (mem_keptItems items e).mpr ⟨he, hkey, hvalue⟩, rfl⟩
  · rwa [Ne, removeNone_eq_none_iff]
  · rwa [Ne, removeNone_eq_none_iff]

/-- What is reached without a collision on the way is found again in the result.

**Proof sketch.** Induction on the way down. An element of a list, tuple or set is pruned into an
element of the new one; the items of a dictionary are those pruned, as long as their keys stay
distinct. -/
theorem Reaches.reaches_removeNone {v w : Obj σ} (h : Reaches v w) (hv : v.WellFormed)
    (hfree : CollisionFree v) : Reaches (removeNone v) (removeNone w) := by
  induction h with
  | refl v => exact .refl _
  | @element kind xs x w hx hne h ih =>
    have hrest := ih ((Reaches.element hx hne (.refl x)).wellFormed hv)
      fun w' hw' => hfree w' (.element hx hne hw')
    obtain ⟨ys, hys, hmem⟩ := Obj.exists_build_eq kind ((xs.filter Obj.isNotNone).map removeNone)
    have hx' : removeNone x ∈ ys :=
      (hmem _).mpr (List.mem_map_of_mem ((mem_keptElements xs x).mpr ⟨hx, hne⟩))
    rw [removeNone_seq, hys]
    exact .element hx' (by rwa [Ne, removeNone_eq_none_iff]) hrest
  | @key items e w he hkey hvalue h ih =>
    have hrest := ih ((Reaches.key he hkey hvalue (.refl e.1)).wellFormed hv)
      fun w' hw' => hfree w' (.key he hkey hvalue hw')
    obtain ⟨items', hdict, he', hkey', hvalue'⟩ := exists_item_removeNone hv hfree he hkey hvalue
    rw [hdict]
    exact .key he' hkey' hvalue' hrest
  | @value items e w he hkey hvalue h ih =>
    have hrest := ih ((Reaches.value he hkey hvalue (.refl e.2)).wellFormed hv)
      fun w' hw' => hfree w' (.value he hkey hvalue hw')
    obtain ⟨items', hdict, he', hkey', hvalue'⟩ := exists_item_removeNone hv hfree he hkey hvalue
    rw [hdict]
    exact .value he' hkey' hvalue' hrest

/-- **Nothing is lost** of a value iff no container reached in it has two keys or two set elements
that differ in their Nones only. -/
theorem losesNothing_iff {v : Obj σ} (hv : v.WellFormed) : LosesNothing v ↔ CollisionFree v := by
  constructor
  · intro h w hw
    exact (len_removeNone_iff (hw.wellFormed hv)).mp (h w hw).2
  · intro h w hw
    exact ⟨hw.reaches_removeNone hv h, (len_removeNone_iff (hw.wellFormed hv)).mpr (h w hw)⟩

/-- A dictionary with two tuples as keys. -/
theorem wellFormed_twoTuples {xs ys : List (Obj ℕ)} (hxs : ∀ x ∈ xs, x.Hashable)
    (hys : ∀ y ∈ ys, y.Hashable) (hne : xs ≠ ys) (s t : ℕ) :
    (Obj.dict [(.seq .tuple xs, .scalar s), (.seq .tuple ys, .scalar t)]).WellFormed := by
  refine .dict ?_ ?_ ?_
  · simp only [List.forall_mem_cons]
    exact ⟨.scalar s, .scalar t, by simp⟩
  · simp only [List.forall_mem_cons]
    exact ⟨.tuple hxs, .tuple hys, by simp⟩
  · simpa using hne

/-- The tuples `(1, None)` and `(2,)` stay distinct keys. -/
theorem losesNothing_iff_distinctKeys :
    let v : Obj ℕ := .dict [(.seq .tuple [.scalar 1, .none], .scalar 10),
      (.seq .tuple [.scalar 2], .scalar 20)]
    v.WellFormed ∧ (removeNone v).len = keptLen v ∧ (LosesNothing v ↔ CollisionFree v) := by
  intro v
  have hv : v.WellFormed :=
    wellFormed_twoTuples (by simp [Obj.Hashable.scalar, Obj.Hashable.none])
      (by simp [Obj.Hashable.scalar]) (by decide) 10 20
  exact ⟨hv, by decide, losesNothing_iff hv⟩

/-- The tuples `(1, None)` and `(1,)` become one key, and the entry of the first is lost. -/
theorem removeNone_merges_keys :
    let v : Obj ℕ := .dict [(.seq .tuple [.scalar 1, .none], .scalar 10),
      (.seq .tuple [.scalar 1], .scalar 20)]
    v.WellFormed ∧ removeNone v = .dict [(.seq .tuple [.scalar 1], .scalar 20)] ∧
      ¬ LosesNothing v := by
  intro v
  have hv : v.WellFormed :=
    wellFormed_twoTuples (by simp [Obj.Hashable.scalar, Obj.Hashable.none])
      (by simp [Obj.Hashable.scalar]) (by decide) 10 20
  refine ⟨hv, by decide, fun h => ?_⟩
  exact absurd (h v (.refl v)).2 (by decide)

end PythonForFun.K8s
