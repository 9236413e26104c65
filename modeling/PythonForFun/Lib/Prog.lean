import Mathlib.Logic.Basic
import Mathlib.Tactic.Common

set_option relaxedAutoImplicit false
set_option autoImplicit false

/-!
# Programs with a state and exceptions

The meaning of a sequential program that reads and writes a world of type `σ` and either
returns a value or raises an exception of type `ε`. Effects made before an exception stay:
the state is threaded through the failure, as it is in a scripting language and on the
machines such a script commands.

## Main definitions

* `Prog` — a program: a function from the state before to the outcome and the state after.
* `Prog.raise`, `Prog.ofExcept` — the primitive programs besides `pure` and `bind`.
* `Prog.Ends` — the triple with two postconditions, one for the value and state at a regular
  end, one for the state an exception leaves.
* `Prog.Returns` — the total-correctness triple: from every state satisfying the
  precondition the program returns, and the postcondition holds of its value and state.

## Main results

* `Prog.bind_eq_ok_iff`, `Prog.bind_eq_error_iff` — inversion of a sequence.
* `Prog.Ends.bind`, `Prog.Ends.foldlM` — the sequencing rule and the loop rule, this with an
  invariant that may name the items already processed.
* `Prog.Ends.forM`, `Prog.Ends.foldlM_range'` — the loop rule for an invariant of the world, and
  for a range of numbers.
* `Prog.Returns.bind`, `Prog.Returns.foldlM_range'`, `Prog.Returns.forM_range'` — the same for
  programs that do not raise.
-/

/-- A program over the world `σ` that returns an `α` or raises an `ε`. -/
def Prog (ε σ α : Type) : Type := σ → Except ε α × σ

namespace Prog

variable {ε σ α β ι : Type}

instance : Monad (Prog ε σ) where
  pure a := fun s => (.ok a, s)
  bind x f := fun s =>
    match x s with
    | (.ok a, s') => f a s'
    | (.error e, s') => (.error e, s')

/-- Raise an exception, leaving the world as it is. -/
def raise (e : ε) : Prog ε σ α := fun s => (.error e, s)

/-- Lift a computation that only returns or raises. -/
def ofExcept (r : Except ε α) : Prog ε σ α := fun s => (r, s)

instance : LawfulMonad (Prog ε σ) :=
  LawfulMonad.mk' _
    (fun x => by
      funext s
      change (match x s with
        | (.ok a, s') => (.ok a, s')
        | (.error e, s') => (.error e, s')) = x s
      rcases x s with ⟨r, s'⟩
      cases r <;> rfl)
    (fun _ _ => rfl)
    (fun x f g => by
      funext s
      change (match (match x s with
        | (.ok a, s') => f a s'
        | (.error e, s') => (.error e, s')) with
        | (.ok b, s') => g b s'
        | (.error e, s') => (.error e, s')) = match x s with
        | (.ok a, s') => (f a >>= g) s'
        | (.error e, s') => (.error e, s')
      rcases x s with ⟨r, s'⟩
      cases r <;> rfl)

/-! ## Equations and inversion -/

@[simp] theorem pure_apply (a : α) (s : σ) : (pure a : Prog ε σ α) s = (.ok a, s) := rfl

@[simp] theorem raise_apply (e : ε) (s : σ) : (raise e : Prog ε σ α) s = (.error e, s) := rfl

@[simp] theorem ofExcept_apply (r : Except ε α) (s : σ) :
    (ofExcept r : Prog ε σ α) s = (r, s) := rfl

theorem ofExcept_ok (a : α) : (ofExcept (.ok a) : Prog ε σ α) = pure a := rfl

theorem bind_apply (x : Prog ε σ α) (f : α → Prog ε σ β) (s : σ) :
    (x >>= f) s = match x s with
      | (.ok a, s') => f a s'
      | (.error e, s') => (.error e, s') := rfl

/-- A sequence whose first part returns runs on into the second. -/
theorem bind_of_ok {x : Prog ε σ α} {f : α → Prog ε σ β} {s s' : σ} {a : α}
    (h : x s = (.ok a, s')) : (x >>= f) s = f a s' := by
  rw [bind_apply, h]

/-- A sequence whose first part raises raises. -/
theorem bind_of_error {x : Prog ε σ α} {f : α → Prog ε σ β} {s s' : σ} {e : ε}
    (h : x s = (.error e, s')) : (x >>= f) s = (.error e, s') := by
  rw [bind_apply, h]

/-- **Inversion of a returning sequence**: both parts returned. -/
theorem bind_eq_ok_iff {x : Prog ε σ α} {f : α → Prog ε σ β} {s s'' : σ} {b : β} :
    (x >>= f) s = (.ok b, s'') ↔ ∃ a s', x s = (.ok a, s') ∧ f a s' = (.ok b, s'') := by
  rw [bind_apply]
  constructor
  · intro h
    rcases hx : x s with ⟨r, s'⟩
    rw [hx] at h
    cases r with
    | error e => simp at h
    | ok a => exact ⟨a, s', rfl, h⟩
  · rintro ⟨a, s', hx, hf⟩
    rw [hx]
    exact hf

/-- **Inversion of a raising sequence**: the first part raised, or it returned and the
second part raised. -/
theorem bind_eq_error_iff {x : Prog ε σ α} {f : α → Prog ε σ β} {s s'' : σ} {e : ε} :
    (x >>= f) s = (.error e, s'') ↔
      x s = (.error e, s'') ∨ ∃ a s', x s = (.ok a, s') ∧ f a s' = (.error e, s'') := by
  rw [bind_apply]
  constructor
  · intro h
    rcases hx : x s with ⟨r, s'⟩
    rw [hx] at h
    cases r with
    | error e' =>
      simp only [Prod.mk.injEq, Except.error.injEq] at h
      exact Or.inl (by rw [h.1, h.2])
    | ok a => exact Or.inr ⟨a, s', rfl, h⟩
  · rintro (hx | ⟨a, s', hx, hf⟩)
    · rw [hx]
    · rw [hx]
      exact hf

/-! ## Ends with or without an exception -/

/-- **The triple with two ends**: from every state satisfying `P`, the program returns and `Q`
holds of its value and state, or it raises and `E` holds of its state. -/
def Ends (P : σ → Prop) (x : Prog ε σ α) (Q : α → σ → Prop) (E : σ → Prop) : Prop :=
  ∀ s, P s → (∃ a s', x s = (.ok a, s') ∧ Q a s') ∨ ∃ e s', x s = (.error e, s') ∧ E s'

/-- The sequencing rule: an exception of either part is one of the whole. -/
theorem Ends.bind {P : σ → Prop} {x : Prog ε σ α} {f : α → Prog ε σ β} {R : α → σ → Prop}
    {Q : β → σ → Prop} {E : σ → Prop} (hx : Ends P x R E) (hf : ∀ a, Ends (R a) (f a) Q E) :
    Ends P (x >>= f) Q E := by
  intro s hs
  rcases hx s hs with ⟨a, s', hxs, hR⟩ | ⟨e, s', hxs, hE⟩
  · rw [bind_of_ok hxs]
    exact hf a s' hR
  · exact Or.inr ⟨e, s', bind_of_error hxs, hE⟩

/-- The rule of consequence. -/
theorem Ends.conseq {P P' : σ → Prop} {x : Prog ε σ α} {Q Q' : α → σ → Prop} {E E' : σ → Prop}
    (h : Ends P x Q E) (hP : ∀ s, P' s → P s) (hQ : ∀ a s, Q a s → Q' a s)
    (hE : ∀ s, E s → E' s) : Ends P' x Q' E' := by
  intro s hs
  rcases h s (hP s hs) with ⟨a, s', hxs, hq⟩ | ⟨e, s', hxs, he⟩
  · exact Or.inl ⟨a, s', hxs, hQ a s' hq⟩
  · exact Or.inr ⟨e, s', hxs, hE s' he⟩

/-- A weaker postcondition of the exceptions. -/
theorem Ends.weaken {P : σ → Prop} {x : Prog ε σ α} {Q : α → σ → Prop} {E E' : σ → Prop}
    (h : Ends P x Q E) (hE : ∀ s, E s → E' s) : Ends P x Q E' :=
  h.conseq (fun _ hs => hs) (fun _ _ hq => hq) hE

/-- **The loop rule** for `for i in items` with loop-carried locals of type `β`: an invariant
`I` over the items already processed, the locals and the world, which one pass of the body
extends by the next item or gives up for `E`, holds of all items at a regular end.

**Proof sketch.** Induction on the items still to come, for an arbitrary list of items already
processed. -/
theorem Ends.foldlM {body : β → ι → Prog ε σ β} {I : List ι → β → σ → Prop} {E : σ → Prop}
    {items : List ι}
    (hbody : ∀ pre i post b, items = pre ++ i :: post →
      Ends (I pre b) (body b i) (fun b' => I (pre ++ [i]) b') E)
    (b : β) : Ends (I [] b) (items.foldlM body b) (fun b' => I items b') E := by
  suffices h : ∀ (todo pre : List ι) (b : β), items = pre ++ todo →
      Ends (I pre b) (todo.foldlM body b) (fun b' => I items b') E by
    exact h items [] b rfl
  intro todo
  induction todo with
  | nil =>
    intro pre b hsplit s hs
    refine Or.inl ⟨b, s, rfl, ?_⟩
    rw [hsplit, List.append_nil]
    exact hs
  | cons i todo ih =>
    intro pre b hsplit
    rw [List.foldlM_cons]
    refine Ends.bind (hbody pre i todo b hsplit) fun b' => ?_
    exact ih (pre ++ [i]) b' (by rw [hsplit, List.append_assoc]; rfl)

/-- A loop without loop-carried locals is a loop with trivial ones. -/
theorem forM_eq_foldlM (body : ι → Prog ε σ Unit) (items : List ι) :
    forM items body = items.foldlM (fun _ i => body i) () := by
  induction items with
  | nil => rfl
  | cons i items ih =>
    rw [List.forM_cons, List.foldlM_cons, ih]

/-- The loop rule for a body without loop-carried locals that keeps an invariant of the world. -/
theorem Ends.forM {body : ι → Prog ε σ Unit} {I E : σ → Prop} {items : List ι}
    (hbody : ∀ i ∈ items, Ends I (body i) (fun _ => I) E) :
    Ends I (forM items body) (fun _ => I) E := by
  rw [forM_eq_foldlM]
  refine Ends.foldlM (I := fun _ _ => I) (fun pre i post _ hsplit => hbody i ?_) ()
  rw [hsplit]
  exact List.mem_append_right pre List.mem_cons_self

/-- An item of `range(s, s + m)` is told by the number of items before it. -/
theorem eq_of_range'_eq {s m i : ℕ} {pre post : List ℕ}
    (h : List.range' s m = pre ++ i :: post) : i = s + pre.length ∧ pre.length < m := by
  have hlen : (List.range' s m).length = pre.length + (post.length + 1) := by
    rw [h, List.length_append, List.length_cons]
  rw [List.length_range'] at hlen
  have hlt : pre.length < m := by omega
  have hget : (List.range' s m)[pre.length]? = some i := by
    rw [h, List.getElem?_append_right (Nat.le_refl _), Nat.sub_self]
    rfl
  rw [List.getElem?_range' hlt, Nat.one_mul] at hget
  exact ⟨(Option.some.inj hget).symm, hlt⟩

/-- The loop rule for `for i in range(s, s + m)`: the invariant speaks of the number of passes
made. -/
theorem Ends.foldlM_range' {body : β → ℕ → Prog ε σ β} {I : ℕ → β → σ → Prop} {E : σ → Prop}
    {s m : ℕ} (hbody : ∀ k < m, ∀ b, Ends (I k b) (body b (s + k)) (I (k + 1)) E) (b : β) :
    Ends (I 0 b) ((List.range' s m).foldlM body b) (I m) E := by
  have hloop : Ends (I 0 b) ((List.range' s m).foldlM body b) (I (List.range' s m).length) E := by
    refine Ends.foldlM (I := fun pre b => I pre.length b) (fun pre i post b' hsplit => ?_) b
    obtain ⟨rfl, hlt⟩ := eq_of_range'_eq hsplit
    rw [List.length_append, List.length_singleton]
    exact hbody pre.length hlt b'
  rwa [List.length_range'] at hloop

/-- The loop rule for `for i in range(n)`. -/
theorem Ends.foldlM_range {body : β → ℕ → Prog ε σ β} {I : ℕ → β → σ → Prop} {E : σ → Prop}
    {n : ℕ} (hbody : ∀ i < n, ∀ b, Ends (I i b) (body b i) (I (i + 1)) E) (b : β) :
    Ends (I 0 b) ((List.range n).foldlM body b) (I n) E := by
  rw [List.range_eq_range']
  refine Ends.foldlM_range' (fun k hk b' => ?_) b
  rw [Nat.zero_add]
  exact hbody k hk b'

/-! ## Total correctness -/

/-- **The total-correctness triple**: from every state satisfying `P`, the program returns a
value and a state related by `Q`; it does not raise. -/
def Returns (P : σ → Prop) (x : Prog ε σ α) (Q : α → σ → Prop) : Prop :=
  ∀ s, P s → ∃ a s', x s = (.ok a, s') ∧ Q a s'

/-- A program returns if no state is left by an exception. -/
theorem returns_iff_ends {P : σ → Prop} {x : Prog ε σ α} {Q : α → σ → Prop} :
    Returns P x Q ↔ Ends P x Q fun _ => False := by
  constructor
  · intro h s hs
    exact Or.inl (h s hs)
  · intro h s hs
    rcases h s hs with hok | ⟨_, _, _, hfalse⟩
    · exact hok
    · exact hfalse.elim

/-- The sequencing rule. -/
theorem Returns.bind {P : σ → Prop} {x : Prog ε σ α} {f : α → Prog ε σ β}
    {R : α → σ → Prop} {Q : β → σ → Prop}
    (hx : Returns P x R) (hf : ∀ a, Returns (R a) (f a) Q) : Returns P (x >>= f) Q :=
  returns_iff_ends.mpr <|
    (returns_iff_ends.mp hx).bind fun a => returns_iff_ends.mp (hf a)

/-- The rule of consequence. -/
theorem Returns.conseq {P P' : σ → Prop} {x : Prog ε σ α} {Q Q' : α → σ → Prop}
    (h : Returns P x Q) (hP : ∀ s, P' s → P s) (hQ : ∀ a s, Q a s → Q' a s) :
    Returns P' x Q' :=
  returns_iff_ends.mpr <| (returns_iff_ends.mp h).conseq hP hQ fun _ hfalse => hfalse

/-- The loop rule for `for i in range(s, s + m)` with loop-carried locals, without an exception. -/
theorem Returns.foldlM_range' {body : β → ℕ → Prog ε σ β} {I : ℕ → β → σ → Prop} {s m : ℕ}
    (hbody : ∀ k < m, ∀ b, Returns (I k b) (body b (s + k)) (I (k + 1))) (b : β) :
    Returns (I 0 b) ((List.range' s m).foldlM body b) (I m) :=
  returns_iff_ends.mpr <|
    Ends.foldlM_range' (fun k hk b' => returns_iff_ends.mp (hbody k hk b')) b

/-- The loop rule for `for i in range(s, s + m)` without loop-carried locals. -/
theorem Returns.forM_range' {body : ℕ → Prog ε σ Unit} {I : ℕ → σ → Prop} {s m : ℕ}
    (hbody : ∀ k < m, Returns (I k) (body (s + k)) (fun _ => I (k + 1))) :
    Returns (I 0) (forM (List.range' s m) body) (fun _ => I m) := by
  rw [forM_eq_foldlM]
  exact Returns.foldlM_range' (I := fun k _ => I k) (fun k hk _ => hbody k hk) ()

end Prog
