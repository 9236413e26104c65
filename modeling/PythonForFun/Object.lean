import Mathlib.Data.List.Dedup
import PythonForFun.Lib.Dict

set_option relaxedAutoImplicit false
set_option autoImplicit false

/-!
# Nested Python values

Values built from `None`, scalars, lists, tuples, sets and dictionaries, to any depth. The
scalars are left open: of them only the comparison matters that sets and dictionaries make.

## Main definitions

* `Obj` — the values; `Obj.dictOf` and `Obj.build` are the constructors `dict(…)`, `list(…)`,
  `tuple(…)` and `set(…)` applied to what a generator yields.
* `Obj.Hashable`, `Obj.WellFormed` — what may be an element of a set or a key of a dictionary,
  and the values in which all elements and keys are so, and distinct.

## Main results

* `Obj.induction` — induction on the nesting.
* `Obj.len_build_iff`, `Obj.len_dictOf_iff` — when building a container loses nothing.
-/

namespace PythonForFun

/-- The types with one constructor for what a generator yields. -/
inductive Kind
  | list
  | tuple
  | set
  deriving DecidableEq

/-- Nested values over the scalars `σ`. A set lists its elements in some order, a dictionary its
items in the order of insertion. -/
inductive Obj (σ : Type)
  | none
  | scalar (s : σ)
  | seq (kind : Kind) (xs : List (Obj σ))
  | dict (items : List (Obj σ × Obj σ))

namespace Obj

variable {σ : Type}

/-- The test `obj is not None`. -/
def isNotNone : Obj σ → Bool
  | none => false
  | _ => true

/-- The type of a value. -/
inductive PyType
  | noneType
  | scalar
  | seq (kind : Kind)
  | dict
  deriving DecidableEq

/-- `type(obj)`, all scalars taken together. -/
def type : Obj σ → PyType
  | none => .noneType
  | scalar _ => .scalar
  | seq kind _ => .seq kind
  | dict _ => .dict

@[simp] theorem isNotNone_eq_true_iff (v : Obj σ) : v.isNotNone = true ↔ v ≠ none := by
  cases v <;> simp [isNotNone]

@[simp] theorem isNotNone_eq_false_iff (v : Obj σ) : v.isNotNone = false ↔ v = none := by
  cases v <;> simp [isNotNone]

/-- **Induction on the nesting**: a property of a container may be proved from that of what it
holds, the keys of a dictionary included. -/
@[elab_as_elim, induction_eliminator]
theorem induction {motive : Obj σ → Prop} (none : motive none)
    (scalar : ∀ s, motive (scalar s))
    (seq : ∀ kind xs, (∀ x ∈ xs, motive x) → motive (seq kind xs))
    (dict : ∀ items, (∀ e ∈ items, motive e.1 ∧ motive e.2) → motive (dict items))
    (v : Obj σ) : motive v :=
  @Obj.rec σ motive (fun xs => ∀ x ∈ xs, motive x)
    (fun items => ∀ e ∈ items, motive e.1 ∧ motive e.2) (fun e => motive e.1 ∧ motive e.2)
    none scalar seq dict
    (fun _ h => absurd h List.not_mem_nil)
    (fun _ _ hx hxs => List.forall_mem_cons.mpr ⟨hx, hxs⟩)
    (fun _ h => absurd h List.not_mem_nil)
    (fun _ _ he hitems => List.forall_mem_cons.mpr ⟨he, hitems⟩)
    (fun _ _ hk hv => ⟨hk, hv⟩) v

/-! ## Comparing values -/

section DecEq

variable [DecidableEq σ]

mutual

/-- Whether two values are the same. -/
def decEq : (v w : Obj σ) → Decidable (v = w)
  | none, none => isTrue rfl
  | scalar s, scalar t => decidable_of_iff (s = t) (by simp)
  | seq kind xs, seq kind' ys =>
    have := decEqList xs ys
    decidable_of_iff (kind = kind' ∧ xs = ys) (by simp)
  | dict items, dict items' =>
    have := decEqItems items items'
    decidable_of_iff (items = items') (by simp)
  | none, scalar _ | none, seq _ _ | none, dict _ => isFalse nofun
  | scalar _, none | scalar _, seq _ _ | scalar _, dict _ => isFalse nofun
  | seq _ _, none | seq _ _, scalar _ | seq _ _, dict _ => isFalse nofun
  | dict _, none | dict _, scalar _ | dict _, seq _ _ => isFalse nofun

/-- Whether two lists of values are the same. -/
def decEqList : (xs ys : List (Obj σ)) → Decidable (xs = ys)
  | [], [] => isTrue rfl
  | x :: xs, y :: ys =>
    have := decEq x y
    have := decEqList xs ys
    decidable_of_iff (x = y ∧ xs = ys) (by simp)
  | [], _ :: _ | _ :: _, [] => isFalse nofun

/-- Whether two lists of items are the same. -/
def decEqItems : (xs ys : List (Obj σ × Obj σ)) → Decidable (xs = ys)
  | [], [] => isTrue rfl
  | (k, v) :: xs, (k', v') :: ys =>
    have := decEq k k'
    have := decEq v v'
    have := decEqItems xs ys
    decidable_of_iff (k = k' ∧ v = v' ∧ xs = ys) (by simp [and_assoc])
  | [], _ :: _ | _ :: _, [] => isFalse nofun

end

instance : DecidableEq (Obj σ) := decEq

end DecEq

/-! ## Building containers -/

section Build

variable [DecidableEq σ]

/-- `dict(…)` of the pairs a generator yields: of two pairs with one key the second replaces
the first. -/
def dictOf (items : List (Obj σ × Obj σ)) : Obj σ := dict (Dict.ofItems items).items

/-- `list(…)`, `tuple(…)` or `set(…)` of what a generator yields; a set takes equal elements
once. -/
def build : Kind → List (Obj σ) → Obj σ
  | .list, xs => seq .list xs
  | .tuple, xs => seq .tuple xs
  | .set, xs => seq .set xs.dedup

/-- A container holds what is put into it. -/
theorem exists_build_eq (kind : Kind) (xs : List (Obj σ)) :
    ∃ ys, build kind xs = seq kind ys ∧ ∀ x, x ∈ ys ↔ x ∈ xs := by
  cases kind with
  | list => exact ⟨xs, rfl, fun x => Iff.rfl⟩
  | tuple => exact ⟨xs, rfl, fun x => Iff.rfl⟩
  | set => exact ⟨xs.dedup, rfl, fun x => List.mem_dedup⟩

/-- A dictionary of pairs with distinct keys holds the pairs as they are. -/
theorem dictOf_of_nodup {items : List (Obj σ × Obj σ)} (h : (items.map Prod.fst).Nodup) :
    dictOf items = dict items := by
  rw [dictOf, Dict.items_ofItems h]

/-- `len(obj)`; `None` and scalars have none. -/
def len : Obj σ → ℕ
  | none => 0
  | scalar _ => 0
  | seq _ xs => xs.length
  | dict items => items.length

/-- A set or dictionary loses an element exactly when two of them are equal. -/
theorem len_build_iff (kind : Kind) (xs : List (Obj σ)) :
    (build kind xs).len = xs.length ↔ (kind = .set → xs.Nodup) := by
  cases kind with
  | list => simp [build, len]
  | tuple => simp [build, len]
  | set =>
    simp only [build, len, true_implies]
    rw [← List.dedup_eq_self]
    exact ⟨xs.dedup_sublist.eq_of_length, congrArg List.length⟩

/-- A dictionary loses an item exactly when two of them have one key. -/
theorem len_dictOf_iff (items : List (Obj σ × Obj σ)) :
    (dictOf items).len = items.length ↔ (items.map Prod.fst).Nodup := by
  simp only [dictOf, len]
  exact Dict.length_ofItems_iff items

end Build

/-! ## Well-formed values -/

/-- What may be an element of a set or a key of a dictionary. -/
inductive Hashable : Obj σ → Prop
  | none : Hashable none
  | scalar (s : σ) : Hashable (scalar s)
  | tuple {xs : List (Obj σ)} (h : ∀ x ∈ xs, Hashable x) : Hashable (seq .tuple xs)

/-- The values Python can build: set elements and dictionary keys are hashable and distinct. -/
inductive WellFormed : Obj σ → Prop
  | none : WellFormed none
  | scalar (s : σ) : WellFormed (scalar s)
  | seq {kind : Kind} {xs : List (Obj σ)} (h : ∀ x ∈ xs, WellFormed x)
      (hset : kind = .set → (∀ x ∈ xs, Hashable x) ∧ xs.Nodup) : WellFormed (seq kind xs)
  | dict {items : List (Obj σ × Obj σ)} (h : ∀ e ∈ items, WellFormed e.2)
      (hkeys : ∀ e ∈ items, Hashable e.1) (hnodup : (items.map Prod.fst).Nodup) :
      WellFormed (dict items)

end Obj

end PythonForFun
