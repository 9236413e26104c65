import Mathlib.Data.List.Dedup
import Mathlib.Data.List.Nodup

set_option relaxedAutoImplicit false
set_option autoImplicit false

/-!
# Insertion-ordered dictionaries

A dictionary as scripting languages have it: iteration follows the order in which the keys
were first inserted, and no key occurs twice. The second fact is a field of the structure,
so a dictionary with a repeated key cannot be built.

## Main definitions

* `Dict` — a list of items with pairwise distinct keys.
* `Dict.get?`, `Dict.set` — lookup and assignment of a key.
* `Dict.ofItems` — the dictionary filled by a sequence of assignments.

## Main results

* `Dict.get?_eq_some_iff` — lookup finds exactly the items.
* `Dict.get?_set_self`, `Dict.get?_set_of_ne` — lookup after an assignment.
* `Dict.items_ofItems` — filling with distinct keys keeps the order of the assignments.
* `Dict.length_ofItems_iff` — filling keeps the number of items iff the keys are distinct.
-/

/-- A dictionary: its items in insertion order, no key twice. -/
structure Dict (κ α : Type) where
  /-- The items, in insertion order. -/
  items : List (κ × α)
  /-- No key occurs twice. -/
  nodup : (items.map Prod.fst).Nodup

namespace Dict

variable {κ α : Type}

@[ext] theorem ext {d e : Dict κ α} (h : d.items = e.items) : d = e := by
  cases d; cases e; cases h; rfl

/-- The keys, in insertion order. -/
def keys (d : Dict κ α) : List κ := d.items.map Prod.fst

/-- The values, in insertion order of their keys. -/
def values (d : Dict κ α) : List α := d.items.map Prod.snd

/-- The empty dictionary. -/
def empty : Dict κ α := ⟨[], List.nodup_nil⟩

/-- Two items with the same key are the same item. -/
theorem eq_of_key_eq (d : Dict κ α) {e e' : κ × α} (he : e ∈ d.items) (he' : e' ∈ d.items)
    (h : e.1 = e'.1) : e = e' :=
  List.inj_on_of_nodup_map d.nodup he he' h

variable [DecidableEq κ]

/-- The value of a key, if the key is present. -/
def get? (d : Dict κ α) (k : κ) : Option α := (d.items.find? fun e => e.1 = k).map Prod.snd

/-- Lookup finds exactly the items. -/
theorem get?_eq_some_iff (d : Dict κ α) {k : κ} {v : α} :
    d.get? k = some v ↔ (k, v) ∈ d.items := by
  unfold get?
  constructor
  · intro h
    obtain ⟨e, he, rfl⟩ := Option.map_eq_some_iff.mp h
    have hk : e.1 = k := by simpa using List.find?_some he
    exact hk ▸ List.mem_of_find?_eq_some he
  · intro h
    cases hf : d.items.find? fun e => e.1 = k with
    | none =>
      have := List.find?_eq_none.mp hf (k, v) h
      simp at this
    | some e =>
      have hk : e.1 = k := by simpa using List.find?_some hf
      have he := d.eq_of_key_eq (List.mem_of_find?_eq_some hf) h hk
      rw [he, Option.map_some]

/-- The items after assigning `v` to `k`: the value is replaced in place when the key is
there, and the item is appended when it is not. -/
def setItems (l : List (κ × α)) (k : κ) (v : α) : List (κ × α) :=
  if k ∈ l.map Prod.fst then l.map fun e => if e.1 = k then (k, v) else e else l ++ [(k, v)]

theorem nodup_setItems {l : List (κ × α)} (h : (l.map Prod.fst).Nodup) (k : κ) (v : α) :
    ((setItems l k v).map Prod.fst).Nodup := by
  unfold setItems
  split_ifs with hk
  · have hkeys : (l.map fun e => if e.1 = k then (k, v) else e).map Prod.fst =
        l.map Prod.fst := by
      rw [List.map_map]
      refine List.map_congr_left fun e _ => ?_
      by_cases he : e.1 = k <;> simp [he]
    rw [hkeys]
    exact h
  · rw [List.map_append]
    exact List.Nodup.append h (List.nodup_singleton _) (by simpa using hk)

/-- Assign `v` to the key `k`. -/
def set (d : Dict κ α) (k : κ) (v : α) : Dict κ α :=
  ⟨setItems d.items k v, nodup_setItems d.nodup k v⟩

/-- Assigning to a new key appends the item. -/
theorem items_set_of_notMem (d : Dict κ α) {k : κ} (v : α) (h : k ∉ d.keys) :
    (d.set k v).items = d.items ++ [(k, v)] :=
  if_neg h

/-- The items after an assignment: the assigned one and those of the other keys. -/
theorem mem_items_set (d : Dict κ α) (k : κ) (v : α) (e : κ × α) :
    e ∈ (d.set k v).items ↔ e = (k, v) ∨ e.1 ≠ k ∧ e ∈ d.items := by
  unfold set setItems
  by_cases hk : k ∈ d.items.map Prod.fst
  · simp only [hk, if_true, List.mem_map]
    constructor
    · rintro ⟨e', he', rfl⟩
      by_cases h : e'.1 = k
      · exact Or.inl (by rw [if_pos h])
      · exact Or.inr (by rw [if_neg h]; exact ⟨h, he'⟩)
    · rintro (rfl | ⟨hne, he⟩)
      · obtain ⟨e', he', hk'⟩ := List.mem_map.mp hk
        exact ⟨e', he', by rw [if_pos hk']⟩
      · exact ⟨e, he, by rw [if_neg hne]⟩
  · simp only [hk, if_false, List.mem_append, List.mem_singleton]
    constructor
    · rintro (he | rfl)
      · exact Or.inr ⟨fun h => hk (List.mem_map.mpr ⟨e, he, h⟩), he⟩
      · exact Or.inl rfl
    · rintro (rfl | ⟨-, he⟩)
      · exact Or.inr rfl
      · exact Or.inl he

/-- Lookup of the key just assigned. -/
theorem get?_set_self (d : Dict κ α) (k : κ) (v : α) : (d.set k v).get? k = some v := by
  rw [get?_eq_some_iff, mem_items_set]
  exact Or.inl rfl

/-- Lookup of another key than the one just assigned. -/
theorem get?_set_of_ne (d : Dict κ α) {k k' : κ} (v : α) (h : k' ≠ k) :
    (d.set k v).get? k' = d.get? k' := by
  refine Option.ext fun w => ?_
  rw [get?_eq_some_iff, get?_eq_some_iff, mem_items_set]
  simp [h]

/-- The dictionary filled by assigning the items of a list one after another. -/
def ofItems (l : List (κ × α)) : Dict κ α := l.foldl (fun d e => d.set e.1 e.2) empty

/-- Filling a dictionary with further items whose keys are new appends them in order.

**Proof sketch.** Induction on the items; each assignment meets a new key and appends. -/
theorem items_foldl_set (l : List (κ × α)) (d : Dict κ α)
    (h : (d.keys ++ l.map Prod.fst).Nodup) :
    (l.foldl (fun d e => d.set e.1 e.2) d).items = d.items ++ l := by
  induction l generalizing d with
  | nil => simp
  | cons e l ih =>
    have hne : e.1 ∉ d.keys := by
      intro he
      have := (List.nodup_append.mp h).2.2 e.1 he e.1 (by simp)
      exact this rfl
    have hitems : (d.set e.1 e.2).items = d.items ++ [e] := d.items_set_of_notMem e.2 hne
    rw [List.foldl_cons, ih, hitems, List.append_assoc, List.singleton_append]
    rw [keys, hitems, List.map_append, List.map_singleton, List.append_assoc]
    exact h

/-- Filling an empty dictionary with distinct keys keeps the items and their order. -/
theorem items_ofItems {l : List (κ × α)} (h : (l.map Prod.fst).Nodup) :
    (ofItems l).items = l := by
  have := items_foldl_set l (empty : Dict κ α) (by simpa [keys, empty] using h)
  simpa [ofItems, empty] using this

/-- The keys of a filled dictionary are those of the items, and the ones it had before. -/
theorem mem_keys_foldl_set (l : List (κ × α)) (d : Dict κ α) (k : κ) :
    k ∈ (l.foldl (fun d e => d.set e.1 e.2) d).keys ↔ k ∈ d.keys ∨ k ∈ l.map Prod.fst := by
  induction l generalizing d with
  | nil => simp
  | cons e l ih =>
    have hset : k ∈ (d.set e.1 e.2).keys ↔ k ∈ d.keys ∨ k = e.1 := by
      simp only [keys, List.mem_map, mem_items_set]
      constructor
      · rintro ⟨e', rfl | ⟨-, he'⟩, rfl⟩
        · exact Or.inr rfl
        · exact Or.inl ⟨e', he', rfl⟩
      · rintro (⟨e', he', rfl⟩ | rfl)
        · by_cases hkey : e'.1 = e.1
          · exact ⟨(e.1, e.2), Or.inl rfl, hkey.symm⟩
          · exact ⟨e', Or.inr ⟨hkey, he'⟩, rfl⟩
        · exact ⟨(e.1, e.2), Or.inl rfl, rfl⟩
    rw [List.foldl_cons, ih, hset, List.map_cons, List.mem_cons, or_assoc]

/-- **Filling keeps the number of items** exactly when no key comes twice. -/
theorem length_ofItems_iff (l : List (κ × α)) :
    (ofItems l).items.length = l.length ↔ (l.map Prod.fst).Nodup := by
  constructor
  · intro h
    have hperm : (ofItems l).keys.Perm (l.map Prod.fst).dedup := by
      refine (List.perm_ext_iff_of_nodup (ofItems l).nodup (List.nodup_dedup _)).mpr fun k => ?_
      have hkeys := mem_keys_foldl_set l (empty : Dict κ α) k
      simpa [keys, empty, ofItems] using hkeys
    have hlength : (l.map Prod.fst).dedup.length = (l.map Prod.fst).length := by
      rw [← hperm.length_eq, List.length_map, ← h, keys, List.length_map]
    exact List.dedup_eq_self.mp ((List.dedup_sublist _).eq_of_length hlength)
  · intro h
    rw [items_ofItems h]

end Dict
