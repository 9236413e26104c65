import Mathlib.Order.Interval.Finset.Nat
import Mathlib.Algebra.BigOperators.Group.List.Basic
import Mathlib.Algebra.Order.Group.Nat
import Mathlib.Algebra.Ring.Int.Defs
import PythonForFun.Lib.Runs

set_option relaxedAutoImplicit false
set_option autoImplicit false

/-!
# Slot accounting in the rebalance checks

`test_AFTER_AUTO_REBALANCE` and `test_AFTER_WEIGHTED_REBALANCE` of
`redis/cluster/automation/verifications.py` compute how many slots each master serves from the
reply to `CLUSTER SLOTS`. They group the ranges by `itertools.groupby`, which joins neighbours
only, so a master gets an entry for each of its runs in the reply.

## Main definitions

* `Redis.SlotRange`, `Redis.ClusterSlots` — a range of slots with its master, and a reply.
* `Redis.allocation` — the list both tests compute.
* `Redis.Accounts` — one entry per master, equal to the number of slots it serves.

## Main results

* `Redis.sum_allocation` — the entries sum to the number of assigned slots in every order.
* `Redis.allocation_accounts_iff` — the list accounts for the masters iff the ranges of each
  master are neighbours in the reply.
* `Redis.allocation_splits_master` — a master whose ranges are listed apart counts twice.
-/

namespace PythonForFun.Redis

/-- A node in an entry of the reply: `[ip, port, id]`. -/
structure NodeEntry where
  ip : String
  port : ℕ
  id : String
  deriving DecidableEq

/-- An entry of the reply: the first and the last slot of a range, and its master. -/
structure SlotRange where
  start : ℕ
  stop : ℕ
  master : NodeEntry
  start_le_stop : start ≤ stop
  deriving DecidableEq

/-- The slots of a range. -/
def SlotRange.slots (slot : SlotRange) : Finset ℕ := Finset.Icc slot.start slot.stop

/-- The slots of some ranges. -/
def slotsOf (ranges : List SlotRange) : Finset ℕ :=
  ranges.foldr (fun slot slots => slot.slots ∪ slots) ∅

/-- A reply to `CLUSTER SLOTS`: no slot is in two ranges. -/
structure ClusterSlots where
  ranges : List SlotRange
  disjoint : ranges.Pairwise fun slot slot' => Disjoint slot.slots slot'.slots

/-- `slot[2][2]`, the key of the grouping. -/
def masterId (slot : SlotRange) : String := slot.master.id

/-- `sum(slot[1] - slot[0] + 1 for slot in nodeSlotsInfo[1])`. -/
def slotCount (ranges : List SlotRange) : ℤ :=
  (ranges.map fun slot => (slot.stop : ℤ) - (slot.start : ℤ) + 1).sum

/-- The list `allocation` of both tests. -/
def allocation (slotsInfo : List SlotRange) : List ℤ :=
  (Runs.groupby masterId slotsInfo).map fun nodeSlotsInfo => slotCount nodeSlotsInfo.2

/-- The distinct masters of a reply. -/
def ClusterSlots.masters (reply : ClusterSlots) : List String := (reply.ranges.map masterId).dedup

/-- The slots that a master serves. -/
def ClusterSlots.served (reply : ClusterSlots) (id : String) : Finset ℕ :=
  slotsOf (reply.ranges.filter fun slot => masterId slot = id)

/-- The list `allocation` has exactly one entry per distinct master, equal to the number of
slots that master serves, up to order. -/
def Accounts (reply : ClusterSlots) : Prop :=
  (allocation reply.ranges).Perm (reply.masters.map fun id => ((reply.served id).card : ℤ))

/-! ## Counting slots -/

/-- A range that shares no slot with any of some ranges shares none with their union. -/
theorem disjoint_slotsOf {slot : SlotRange} {ranges : List SlotRange}
    (h : ∀ slot' ∈ ranges, Disjoint slot.slots slot'.slots) :
    Disjoint slot.slots (slotsOf ranges) := by
  induction ranges with
  | nil => exact Finset.disjoint_empty_right _
  | cons slot' ranges ih =>
    obtain ⟨hfirst, hrest⟩ := List.forall_mem_cons.mp h
    exact Finset.disjoint_union_right.mpr ⟨hfirst, ih hrest⟩

/-- The sum of the tests counts the slots of disjoint ranges. -/
theorem slotCount_eq_card {ranges : List SlotRange}
    (h : ranges.Pairwise fun slot slot' => Disjoint slot.slots slot'.slots) :
    slotCount ranges = ((slotsOf ranges).card : ℤ) := by
  induction ranges with
  | nil => rfl
  | cons slot ranges ih =>
    obtain ⟨hfirst, hrest⟩ := List.pairwise_cons.mp h
    have hcons : slotCount (slot :: ranges) =
        ((slot.stop : ℤ) - (slot.start : ℤ) + 1) + slotCount ranges := by
      rw [slotCount, List.map_cons, List.sum_cons]
      rfl
    have hcard : (slotsOf (slot :: ranges)).card = slot.slots.card + (slotsOf ranges).card :=
      Finset.card_union_of_disjoint (disjoint_slotsOf hfirst)
    have hslot : slot.slots.card = slot.stop + 1 - slot.start := Nat.card_Icc _ _
    have hle := slot.start_le_stop
    rw [hcons, ih hrest, hcard, hslot]
    omega

/-- The number of slots of a master, as the tests would count it over all its ranges. -/
theorem card_served (reply : ClusterSlots) (id : String) :
    ((reply.served id).card : ℤ) =
      slotCount (reply.ranges.filter fun slot => masterId slot = id) :=
  (slotCount_eq_card (reply.disjoint.sublist List.filter_sublist)).symm

/-- **The entries sum to the number of assigned slots**, in whatever order the ranges are
listed. -/
theorem sum_allocation (reply : ClusterSlots) :
    (allocation reply.ranges).sum = ((slotsOf reply.ranges).card : ℤ) := by
  have hsum : ∀ groups : List (String × List SlotRange),
      (groups.map fun g => slotCount g.2).sum = slotCount (groups.flatMap Prod.snd) := by
    intro groups
    induction groups with
    | nil => rfl
    | cons g groups ih =>
      rw [List.map_cons, List.sum_cons, ih, List.flatMap_cons]
      simp only [slotCount, List.map_append, List.sum_append]
  rw [allocation, hsum, Runs.flatMap_groupby, slotCount_eq_card reply.disjoint]

/-! ## One entry per master -/

/-- The list accounts for the masters iff the ranges of each master stand together. -/
theorem accounts_iff (reply : ClusterSlots) :
    Accounts reply ↔ Runs.Together masterId reply.ranges := by
  have hserved : (reply.masters.map fun id => ((reply.served id).card : ℤ)) =
      reply.masters.map fun id =>
        slotCount (reply.ranges.filter fun slot => masterId slot = id) :=
    List.map_congr_left fun id _ => card_served reply id
  rw [Accounts, hserved]
  exact Runs.map_groupby_perm_iff slotCount reply.ranges

/-- What the masters serve does not depend on the order of the ranges. -/
theorem map_card_served_perm {reply reply' : ClusterSlots}
    (hperm : reply'.ranges.Perm reply.ranges) :
    (reply'.masters.map fun id => ((reply'.served id).card : ℤ)).Perm
      (reply.masters.map fun id => ((reply.served id).card : ℤ)) := by
  have hsame : ∀ id, ((reply'.served id).card : ℤ) = ((reply.served id).card : ℤ) := by
    intro id
    rw [card_served, card_served]
    exact ((hperm.filter _).map _).sum_eq
  simp only [hsame]
  exact ((hperm.map masterId).dedup).map _

/-- A reply with the ranges in another order. -/
def ClusterSlots.reorder (reply : ClusterSlots) {ranges : List SlotRange}
    (hperm : ranges.Perm reply.ranges) : ClusterSlots where
  ranges := ranges
  disjoint := (hperm.pairwise_iff fun h => h.symm).mpr reply.disjoint

/-- **The slot accounting holds exactly when the ranges of each master are neighbours**: then,
and only then, `allocation` has one entry per distinct master, equal to the number of slots it
serves. From such an order, another one permutes `allocation` iff it keeps the ranges of each
master together as well. It holds in every order iff no master has two ranges or there is one
master only. The entries sum to the number of assigned slots in any case. -/
theorem allocation_accounts_iff (reply : ClusterSlots) :
    (Accounts reply ↔ Runs.Together masterId reply.ranges) ∧
      (allocation reply.ranges).sum = ((slotsOf reply.ranges).card : ℤ) ∧
      (∀ reply' : ClusterSlots, reply'.ranges.Perm reply.ranges →
        Runs.Together masterId reply.ranges →
        ((allocation reply'.ranges).Perm (allocation reply.ranges) ↔
          Runs.Together masterId reply'.ranges)) ∧
      ((∀ reply' : ClusterSlots, reply'.ranges.Perm reply.ranges → Accounts reply') ↔
        (reply.ranges.map masterId).Nodup ∨
          ∀ slot ∈ reply.ranges, ∀ slot' ∈ reply.ranges, masterId slot = masterId slot') := by
  refine ⟨accounts_iff reply, sum_allocation reply, fun reply' hperm htogether => ?_, ?_⟩
  · have hreply : Accounts reply := (accounts_iff reply).mpr htogether
    rw [← accounts_iff]
    constructor
    · intro h
      exact (h.trans hreply).trans (map_card_served_perm hperm).symm
    · intro h
      exact (h.trans (map_card_served_perm hperm)).trans hreply.symm
  · rw [← Runs.together_of_perm_iff]
    constructor
    · intro h ranges hperm
      exact (accounts_iff (reply.reorder hperm)).mp (h (reply.reorder hperm) hperm)
    · intro h reply' hperm
      exact (accounts_iff reply').mpr (h reply'.ranges hperm)

/-- Two masters, with the ranges of the first one listed apart. -/
def interleaved : ClusterSlots where
  ranges :=
    [⟨0, 4095, ⟨"192.168.33.11", 6379, "m1"⟩, by decide⟩,
      ⟨4096, 12287, ⟨"192.168.33.12", 6379, "m2"⟩, by decide⟩,
      ⟨12288, 16383, ⟨"192.168.33.11", 6379, "m1"⟩, by decide⟩]
  disjoint := by
    have hdisjoint : ∀ {a b c d : ℕ}, b < c → Disjoint (Finset.Icc a b) (Finset.Icc c d) := by
      intro a b c d h
      refine Finset.disjoint_left.mpr fun n hn hn' => ?_
      have hle := (Finset.mem_Icc.mp hn).2
      have hge := (Finset.mem_Icc.mp hn').1
      omega
    refine List.pairwise_cons.mpr ⟨?_, List.pairwise_cons.mpr ⟨?_, List.pairwise_singleton _ _⟩⟩
    · intro slot hslot
      rcases List.mem_pair.mp hslot with rfl | rfl <;> exact hdisjoint (by decide)
    · intro slot hslot
      rw [List.mem_singleton.mp hslot]
      exact hdisjoint (by decide)

/-- **A master counts twice**: both masters serve half of the slots, but the list has three
entries. -/
theorem allocation_splits_master :
    allocation interleaved.ranges = [4096, 8192, 4096] ∧ ¬ Accounts interleaved := by
  refine ⟨by decide, fun h => ?_⟩
  have hlen := h.length_eq
  revert hlen
  simp only [List.length_map]
  decide

end PythonForFun.Redis
