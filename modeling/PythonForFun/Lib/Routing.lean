import Mathlib.Data.List.Basic

set_option relaxedAutoImplicit false
set_option autoImplicit false

/-!
# Routing tables and forwarding

A routing table is a list of routes; the route for an address is the most specific one that
covers it. A packet is forwarded place by place: at each place it is either sent to the next
one or stays for good, and its time to live bounds the places it is seen at. Destinations,
addresses, devices and places are arbitrary types.

## Main definitions

* `Routing.Route`, `Routing.lookup` — routes, and the most specific route for an address.
* `Routing.Step`, `Routing.forward` — what happens at a place, and to a packet in the end.

## Main results

* `Routing.lookup_eq_some` — the route that is more specific than the others is taken.
* `Routing.forward_mono` — a packet that gets somewhere does so with any longer time to live.
* `Routing.exists_forward_of_rank` — a rank that falls with every hop rules out loops.
-/

namespace Routing

variable {κ α δ π ω : Type}

/-- A route: the destinations it is for, the next hop where that is not the destination itself,
and the device. -/
structure Route (κ α δ : Type) where
  dst : κ
  via : Option α
  dev : δ
  deriving DecidableEq

/-! ## The most specific route -/

section Lookup

variable (covers : κ → α → Bool) (len : κ → ℕ)

/-- The most specific route of a table for an address. -/
def lookup : List (Route κ α δ) → α → Option (Route κ α δ)
  | [], _ => none
  | r :: rs, a =>
    match lookup rs a with
    | none => if covers r.dst a then some r else none
    | some q => if covers r.dst a ∧ len q.dst ≤ len r.dst then some r else some q

variable {rs : List (Route κ α δ)} {r : Route κ α δ} {a : α}

/-- The route for an address is a route of the table that covers it. -/
theorem lookup_mem (h : lookup covers len rs a = some r) :
    r ∈ rs ∧ covers r.dst a = true := by
  induction rs with
  | nil => cases h
  | cons x xs ih =>
    rw [lookup] at h
    split at h
    case h_1 heq =>
      split_ifs at h with hx
      cases h
      exact ⟨List.mem_cons_self, hx⟩
    case h_2 q heq =>
      split_ifs at h with hx
      · cases h
        exact ⟨List.mem_cons_self, hx.1⟩
      · cases h
        obtain ⟨hmem, hcov⟩ := ih heq
        exact ⟨List.mem_cons_of_mem x hmem, hcov⟩

/-- **The most specific route is taken**: a route that covers the address is the one for it when
every other route that covers it is less specific.

**Proof sketch.** Induction on the table. Where the route comes first, whatever the rest of the
table has for the address is the route itself or less specific; where it comes later it is the
one the rest of the table has. -/
theorem lookup_eq_some (hmem : r ∈ rs) (hcov : covers r.dst a = true)
    (hmost : ∀ q ∈ rs, covers q.dst a = true → q = r ∨ len q.dst < len r.dst) :
    lookup covers len rs a = some r := by
  induction rs with
  | nil => cases hmem
  | cons x xs ih =>
    have hrest : ∀ q ∈ xs, covers q.dst a = true → q = r ∨ len q.dst < len r.dst :=
      fun q hq => hmost q (List.mem_cons_of_mem x hq)
    rw [lookup]
    by_cases hr : r ∈ xs
    · rw [ih hr hrest]
      show (if covers x.dst a = true ∧ len r.dst ≤ len x.dst then some x else some r) = some r
      split_ifs with hx
      · rcases hmost x List.mem_cons_self hx.1 with hxr | hlt
        · rw [hxr]
        · exact absurd hx.2 (Nat.not_le.mpr hlt)
      · rfl
    · obtain rfl : r = x := (List.mem_cons.mp hmem).resolve_right hr
      cases hl : lookup covers len xs a with
      | none => exact if_pos hcov
      | some q =>
        obtain ⟨hq, hqcov⟩ := lookup_mem covers len hl
        have hle : len q.dst ≤ len r.dst := by
          rcases hrest q hq hqcov with rfl | hlt
          · exact Nat.le_refl _
          · exact Nat.le_of_lt hlt
        exact if_pos ⟨hcov, hle⟩

end Lookup

/-! ## Forwarding -/

/-- What happens to a packet at a place: it goes on to another place, or it ends. -/
inductive Step (π ω : Type)
  | hop (p : π)
  | stop (o : ω)

/-- How a packet ends that is seen at `ttl` places at most; `none` when it expires. -/
def forward (step : π → Step π ω) : ℕ → π → Option ω
  | 0, _ => none
  | ttl + 1, p =>
    match step p with
    | .hop q => forward step ttl q
    | .stop o => some o

section Forward

variable {step : π → Step π ω} {p q : π} {o : ω}

/-- A packet that stops. -/
theorem forward_stop (h : step p = .stop o) (ttl : ℕ) : forward step (ttl + 1) p = some o := by
  rw [forward, h]

/-- A packet that goes on. -/
theorem forward_hop (h : step p = .hop q) (ttl : ℕ) :
    forward step (ttl + 1) p = forward step ttl q := by
  rw [forward, h]

/-- **A longer time to live** does not change how a packet ends. -/
theorem forward_mono {ttl ttl' : ℕ} (h : forward step ttl p = some o) (hle : ttl ≤ ttl') :
    forward step ttl' p = some o := by
  induction ttl generalizing p ttl' with
  | zero => cases h
  | succ ttl ih =>
    obtain ⟨k, rfl⟩ : ∃ k, ttl' = k + 1 := ⟨ttl' - 1, by omega⟩
    cases hp : step p with
    | stop o' =>
      rw [forward_stop hp] at h ⊢
      exact h
    | hop q =>
      rw [forward_hop hp] at h ⊢
      exact ih h (Nat.le_of_succ_le_succ hle)

/-- A packet ends where it stops at some place. -/
theorem exists_stop_of_forward {ttl : ℕ} (h : forward step ttl p = some o) :
    ∃ q, step q = .stop o := by
  induction ttl generalizing p with
  | zero => cases h
  | succ ttl ih =>
    cases hp : step p with
    | stop o' =>
      rw [forward_stop hp] at h
      cases h
      exact ⟨p, hp⟩
    | hop q =>
      rw [forward_hop hp] at h
      exact ih h

/-- **No loops**: where a rank falls with every hop from a place that satisfies an invariant,
and hops keep the invariant, a packet ends within as many places as its rank. -/
theorem exists_forward_of_rank {I : π → Prop} (rank : π → ℕ)
    (hstep : ∀ p q, I p → step p = .hop q → I q ∧ rank q < rank p) {ttl : ℕ} (hp : I p)
    (hrank : rank p < ttl) : ∃ o, forward step ttl p = some o := by
  induction ttl generalizing p with
  | zero => exact absurd hrank (Nat.not_lt_zero _)
  | succ ttl ih =>
    cases h : step p with
    | stop o => exact ⟨o, forward_stop h ttl⟩
    | hop q =>
      obtain ⟨hq, hlt⟩ := hstep p q hp h
      rw [forward_hop h]
      exact ih hq (by omega)

end Forward

end Routing
