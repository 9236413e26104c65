import Mathlib.Data.List.Basic
import Mathlib.Data.Nat.Notation

set_option relaxedAutoImplicit false
set_option autoImplicit false

/-!
# Packet filters: chains of rules with first-match semantics

A chain is an ordered list of rules under a policy. A packet meets the rules from the head
on; the first rule that hits it and has a terminating target decides, a rule whose target
only looks at the packet (a log or a mark) lets it go on, and a packet that leaves the list
gets the policy. What a rule hits is an arbitrary predicate on packets, so a chain of this
file stands for any prior content of a real one.

## Main definitions

* `Netfilter.Rule`, `Netfilter.Chain`, `Netfilter.FilterTable` — a rule, a chain with its policy,
  and the three chains of a filter table.
* `Netfilter.Chain.verdict` — the first-match verdict of a chain on a packet.
* `Netfilter.Chain.insertAll` — insertion of several rules at the head, one after another.
* `Netfilter.Chain.append`, `Netfilter.Chain.delete` — a rule added at the end, and the rule
  with a given number removed.
* `Netfilter.FilterTable.flush` — removal of every rule of every chain.
* `Netfilter.NatRule`, `Netfilter.translate` — rules that rewrite packets, and what the first
  one that hits makes of a packet.

## Main results

* `Netfilter.Chain.verdict_insertAll_drop` — dropping rules in front of a chain drop exactly
  the packets they hit and leave every other verdict alone.
* `Netfilter.Chain.delete_one_insert` — deleting the first rule undoes an insertion.
* `Netfilter.Chain.tail_append_singleton_eq_iff` — it undoes an appended rule only in a chain
  of copies of that rule.
-/

namespace Netfilter

/-- How the traversal of a chain ends for a packet. -/
inductive Verdict
  | accept
  | drop
  | reject
  deriving DecidableEq

/-- The target of a rule: a verdict, or a target the packet passes on from. -/
inductive Target
  | verdict (v : Verdict)
  | pass
  deriving DecidableEq

/-- A rule over packets of type `π`. -/
structure Rule (π : Type) where
  /-- The packets the rule's match accepts. -/
  hits : π → Bool
  /-- What happens to them. -/
  target : Target

/-- A chain: the policy and the rules, head first. -/
structure Chain (π : Type) where
  policy : Verdict
  rules : List (Rule π)

/-- The built-in chains of the filter table. -/
structure FilterTable (π : Type) where
  input : Chain π
  output : Chain π
  forward : Chain π

variable {π : Type}

/-- Traverse a rule list, ending with the policy. -/
def traverse (policy : Verdict) : List (Rule π) → π → Verdict
  | [], _ => policy
  | r :: rs, p =>
    if r.hits p then
      match r.target with
      | .verdict v => v
      | .pass => traverse policy rs p
    else traverse policy rs p

namespace Chain

/-- The verdict of a chain on a packet. -/
def verdict (c : Chain π) (p : π) : Verdict := traverse c.policy c.rules p

/-- Insert a rule at the head. -/
def insert (c : Chain π) (r : Rule π) : Chain π := { c with rules := r :: c.rules }

/-- Insert several rules at the head, one after another: the last one ends up first. -/
def insertAll (c : Chain π) (rs : List (Rule π)) : Chain π := rs.foldl insert c

/-- Add a rule at the end. -/
def append (c : Chain π) (r : Rule π) : Chain π := { c with rules := c.rules ++ [r] }

/-- Remove the rule with number `n`, counted from 1; there must be one. -/
def delete (c : Chain π) (n : ℕ) : Option (Chain π) :=
  if 0 < n ∧ n ≤ c.rules.length then some { c with rules := c.rules.eraseIdx (n - 1) } else none

/-- Remove every rule; the policy stays. -/
def flush (c : Chain π) : Chain π := { c with rules := [] }

/-- Some rule of the chain drops the packet `p`, whether or not an earlier rule decides. -/
def HasDropFor (c : Chain π) (p : π) : Prop :=
  ∃ r ∈ c.rules, r.target = .verdict .drop ∧ r.hits p = true

/-- The rules after inserting several: the inserted ones, last first, then the old ones. -/
theorem rules_insertAll (rs : List (Rule π)) (c : Chain π) :
    (c.insertAll rs).rules = rs.reverse ++ c.rules := by
  unfold insertAll
  induction rs generalizing c with
  | nil => rfl
  | cons r rs ih => rw [List.foldl_cons, ih, List.reverse_cons]; simp [insert]

/-- Inserting rules leaves the policy alone. -/
@[simp] theorem policy_insertAll (rs : List (Rule π)) (c : Chain π) :
    (c.insertAll rs).policy = c.policy := by
  unfold insertAll
  induction rs generalizing c with
  | nil => rfl
  | cons r rs ih => rw [List.foldl_cons, ih, insert]

/-- The verdict after inserting one dropping rule. -/
theorem verdict_insert_drop {r : Rule π} (hr : r.target = .verdict .drop) (c : Chain π) (p : π) :
    (c.insert r).verdict p = if r.hits p then .drop else c.verdict p := by
  simp only [verdict, insert, traverse, hr]

/-- **Inserted dropping rules cut exactly the packets they hit**: after inserting rules that
all drop, a packet hit by one of them is dropped and every other packet gets its old verdict.

**Proof sketch.** Induction on the inserted rules, for an arbitrary chain underneath: the
rule inserted first lies right above that chain. -/
theorem verdict_insertAll_drop (rs : List (Rule π)) (hrs : ∀ r ∈ rs, r.target = .verdict .drop)
    (c : Chain π) (p : π) :
    (c.insertAll rs).verdict p = if rs.any (·.hits p) then .drop else c.verdict p := by
  induction rs generalizing c with
  | nil => simp [insertAll]
  | cons r rs ih =>
    have hstep : c.insertAll (r :: rs) = (c.insert r).insertAll rs := rfl
    rw [hstep, ih fun r' hr' => hrs r' (List.mem_cons_of_mem r hr'),
      verdict_insert_drop (hrs r List.mem_cons_self)]
    cases hr : r.hits p <;> cases hrest : rs.any (·.hits p) <;> simp [hr, hrest]

/-- A packet for which some inserted or old rule is a dropping one. -/
theorem hasDropFor_insertAll (rs : List (Rule π)) (hrs : ∀ r ∈ rs, r.target = .verdict .drop)
    (c : Chain π) (p : π) :
    (c.insertAll rs).HasDropFor p ↔ (∃ r ∈ rs, r.hits p = true) ∨ c.HasDropFor p := by
  unfold HasDropFor
  rw [rules_insertAll]
  constructor
  · rintro ⟨r, hr, ht, hp⟩
    rcases List.mem_append.mp hr with hr | hr
    · exact Or.inl ⟨r, List.mem_reverse.mp hr, hp⟩
    · exact Or.inr ⟨r, hr, ht, hp⟩
  · rintro (⟨r, hr, hp⟩ | ⟨r, hr, ht, hp⟩)
    · exact ⟨r, List.mem_append_left _ (List.mem_reverse.mpr hr), hrs r hr, hp⟩
    · exact ⟨r, List.mem_append_right _ hr, ht, hp⟩

/-- Deleting the first rule undoes an insertion at the head. -/
theorem delete_one_insert (c : Chain π) (r : Rule π) : (c.insert r).delete 1 = some c := by
  have hpos : 1 ≤ (r :: c.rules).length := Nat.succ_le_of_lt (List.length_pos_of_ne_nil (by simp))
  rw [delete, if_pos ⟨Nat.one_pos, hpos⟩]
  rfl

/-- Deleting the first rule of a chain that a rule was appended to. -/
theorem delete_one_append (c : Chain π) (r : Rule π) :
    (c.append r).delete 1 = some { c with rules := (c.rules ++ [r]).tail } := by
  have hpos : 1 ≤ (c.rules ++ [r]).length := by
    rw [List.length_append, List.length_singleton]
    exact Nat.le_add_left 1 _
  rw [delete, if_pos ⟨Nat.one_pos, hpos⟩]
  simp only [append, Nat.sub_self, List.eraseIdx_zero]

/-- **Appending at one end and deleting at the other** gives a rule list back iff all its rules
are copies of the appended one.

**Proof sketch.** If the list starts with `x`, its rest with the rule appended is the list
itself, so `x` is the rule or the head of the rest: induction carries this to the end. -/
theorem tail_append_singleton_eq_iff (l : List (Rule π)) (r : Rule π) :
    (l ++ [r]).tail = l ↔ ∀ x ∈ l, x = r := by
  induction l with
  | nil => simp
  | cons x l ih =>
    rw [List.cons_append, List.tail_cons]
    constructor
    · intro h
      cases l with
      | nil =>
        obtain rfl : r = x := by simpa using h
        simp
      | cons y l =>
        obtain ⟨rfl, hrest⟩ : y = x ∧ l ++ [r] = y :: l := by simpa using h
        have hall := ih.mp hrest
        exact List.forall_mem_cons.mpr ⟨hall y List.mem_cons_self, hall⟩
    · intro h
      obtain ⟨rfl, hall⟩ := List.forall_mem_cons.mp h
      rw [List.eq_replicate_of_mem hall, ← List.replicate_succ, ← List.replicate_succ']

/-- A chain without rules drops nothing by a rule. -/
theorem not_hasDropFor_of_rules_eq_nil {c : Chain π} (h : c.rules = []) (p : π) :
    ¬ c.HasDropFor p := by
  rintro ⟨r, hr, -⟩
  rw [h] at hr
  exact List.not_mem_nil hr

end Chain

/-- Remove every rule of the three chains. -/
def FilterTable.flush (f : FilterTable π) : FilterTable π :=
  ⟨f.input.flush, f.output.flush, f.forward.flush⟩

/-! ## Address translation -/

/-- A rule of a chain that rewrites packets. -/
structure NatRule (π : Type) where
  /-- The packets the rule's match accepts. -/
  hits : π → Bool
  /-- What they are rewritten to. -/
  rewrite : π → π

/-- What a list of rules makes of a packet: the first one that hits decides. -/
def translate : List (NatRule π) → π → π
  | [], p => p
  | r :: rs, p => if r.hits p then r.rewrite p else translate rs p

/-- Without rules a packet stays as it is. -/
@[simp] theorem translate_nil (p : π) : translate [] p = p := rfl

/-- A single rule. -/
@[simp] theorem translate_singleton (r : NatRule π) (p : π) :
    translate [r] p = if r.hits p then r.rewrite p else p := rfl

end Netfilter
