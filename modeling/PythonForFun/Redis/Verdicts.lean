import PythonForFun.Redis.Allocation

set_option relaxedAutoImplicit false
set_option autoImplicit false

/-!
# What the slot checks say about the cluster

The checks of `redis/cluster/automation/verifications.py` read a reply to `CLUSTER SLOTS`.
`test_AFTER_AUTO_REBALANCE` counts the groups of the reply, of which there are as many as masters
only if the ranges of each master stand together. `test_AFTER_RESHARD` looks at the first range of
one master only, and `test_AFTER_MOVE_ALL_SLOTS_IN_MASTER4` and `test_AFTER_ONE_MASTER_ADDED` ask
that there be none.

## Main definitions

* `Redis.afterAutoRebalance`, `Redis.afterReshard`, `Redis.noSlots` — the checks.
* `Redis.Balanced` — four masters that serve equally many slots.
* `Redis.InSlotOrder` — the ranges of each master in the order of the slots, none touching
  another one.

## Main results

* `Redis.afterAutoRebalance_verdict` — when the verdict on the balance is right.
* `Redis.afterReshard_iff` — what the first range of a master tells about its slots.
-/

namespace PythonForFun.Redis

/-! ## The checks -/

/-- The assertions of `test_AFTER_AUTO_REBALANCE`: four entries, all the same. -/
def afterAutoRebalance (slotsInfo : List SlotRange) : Bool :=
  (allocation slotsInfo).length == 4 && (allocation slotsInfo).dedup.length == 1

/-- `next((slot for slot in slotsInfo if slot[2][2] == master4Id), None)`. -/
def slotOfMaster4 (slotsInfo : List SlotRange) (master4Id : String) : Option SlotRange :=
  slotsInfo.find? fun slot => masterId slot == master4Id

/-- The assertions of `test_AFTER_RESHARD`. -/
def afterReshard (slotsInfo : List SlotRange) (master4Id : String) : Bool :=
  match slotOfMaster4 slotsInfo master4Id with
  | none => false
  | some slot => slot.start == 0 && slot.stop == 9

/-- The assertion of `test_AFTER_MOVE_ALL_SLOTS_IN_MASTER4`, and the last one of
`test_AFTER_ONE_MASTER_ADDED`. -/
def noSlots (slotsInfo : List SlotRange) (master4Id : String) : Bool :=
  (slotOfMaster4 slotsInfo master4Id).isNone

/-! ## The balance -/

/-- Four masters that serve equally many slots. -/
def Balanced (reply : ClusterSlots) : Prop :=
  reply.masters.length = 4 ∧ ∃ n, ∀ id ∈ reply.masters, (reply.served id).card = n

/-- The check passes iff there are four entries, equal to one another. -/
theorem afterAutoRebalance_iff (slotsInfo : List SlotRange) :
    afterAutoRebalance slotsInfo = true ↔
      (allocation slotsInfo).length = 4 ∧ ∃ n, ∀ entry ∈ allocation slotsInfo, entry = n := by
  rw [afterAutoRebalance, Bool.and_eq_true, beq_iff_eq, beq_iff_eq]
  refine and_congr_right fun hlength => ?_
  constructor
  · intro h
    obtain ⟨n, hn⟩ := List.length_eq_one_iff.mp h
    refine ⟨n, fun entry hentry => ?_⟩
    have hmem := List.mem_dedup.mpr hentry
    rw [hn] at hmem
    exact List.mem_singleton.mp hmem
  · rintro ⟨n, hn⟩
    have hreplicate : allocation slotsInfo = List.replicate 4 n :=
      List.eq_replicate_iff.mpr ⟨hlength, hn⟩
    rw [hreplicate, List.replicate_dedup (by decide)]
    rfl

/-- The reply has at least as many entries as masters. -/
theorem length_masters_le (reply : ClusterSlots) :
    reply.masters.length ≤ (allocation reply.ranges).length := by
  rw [allocation, List.length_map]
  exact Runs.length_dedup_le_groupby reply.ranges

/-- The reply has as many entries as masters iff the ranges of each master stand together. -/
theorem length_allocation_eq_iff (reply : ClusterSlots) :
    (allocation reply.ranges).length = reply.masters.length ↔
      Runs.Together masterId reply.ranges := by
  rw [allocation, List.length_map]
  exact Runs.length_groupby_eq_iff reply.ranges

/-- If the ranges of each master stand together, the check says whether the cluster is
balanced. -/
theorem afterAutoRebalance_iff_balanced (reply : ClusterSlots)
    (htogether : Runs.Together masterId reply.ranges) :
    afterAutoRebalance reply.ranges = true ↔ Balanced reply := by
  have hperm : (allocation reply.ranges).Perm
      (reply.masters.map fun id => ((reply.served id).card : ℤ)) :=
    (accounts_iff reply).mpr htogether
  rw [afterAutoRebalance_iff, (length_allocation_eq_iff reply).mpr htogether, Balanced]
  refine and_congr_right fun hfour => ?_
  constructor
  · rintro ⟨n, hn⟩
    refine ⟨n.toNat, fun id hid => ?_⟩
    have hcard := hn _ (hperm.mem_iff.mpr (List.mem_map_of_mem hid))
    omega
  · rintro ⟨n, hn⟩
    refine ⟨n, fun entry hentry => ?_⟩
    obtain ⟨id, hid, rfl⟩ := List.mem_map.mp (hperm.mem_iff.mp hentry)
    rw [hn id hid]

/-- **When the verdict on the balance is right**: if the ranges of each master stand together,
the check passes exactly when four masters serve equally many slots. If they do not, it fails on
every balanced cluster, and when it passes there are fewer than four masters. In any case the
entries of a passing check are the quarter of the assigned slots.

**Proof sketch.** There are at least as many entries as masters, and as many iff the ranges of
each master stand together. Four equal entries sum to the number of assigned slots. -/
theorem afterAutoRebalance_verdict (reply : ClusterSlots) :
    (Runs.Together masterId reply.ranges →
        (afterAutoRebalance reply.ranges = true ↔ Balanced reply)) ∧
      (¬ Runs.Together masterId reply.ranges →
        (Balanced reply → afterAutoRebalance reply.ranges = false) ∧
          (afterAutoRebalance reply.ranges = true → reply.masters.length < 4)) ∧
      (afterAutoRebalance reply.ranges = true →
        ∀ entry ∈ allocation reply.ranges, 4 * entry = ((slotsOf reply.ranges).card : ℤ)) := by
  have hle := length_masters_le reply
  refine ⟨afterAutoRebalance_iff_balanced reply, fun hapart => ?_, fun hpass => ?_⟩
  · have hne : (allocation reply.ranges).length ≠ reply.masters.length :=
      fun heq => hapart ((length_allocation_eq_iff reply).mp heq)
    refine ⟨fun hbalanced => ?_, fun hpass => ?_⟩
    · rw [← Bool.not_eq_true, afterAutoRebalance_iff]
      have hfour := hbalanced.1
      omega
    · have hfour := ((afterAutoRebalance_iff _).mp hpass).1
      omega
  · obtain ⟨hfour, n, hn⟩ := (afterAutoRebalance_iff _).mp hpass
    have hreplicate : allocation reply.ranges = List.replicate 4 n :=
      List.eq_replicate_iff.mpr ⟨hfour, hn⟩
    have hsum := sum_allocation reply
    rw [hreplicate, List.sum_replicate] at hsum
    intro entry hentry
    rw [hn entry hentry, ← hsum]
    exact (nsmul_eq_mul 4 n).symm

/-- Ranges one of which ends before the other one starts share no slot. -/
theorem SlotRange.disjoint_of_apart {slot slot' : SlotRange}
    (h : slot.stop < slot'.start ∨ slot'.stop < slot.start) : Disjoint slot.slots slot'.slots := by
  refine Finset.disjoint_left.mpr fun n hn hn' => ?_
  have hin := Finset.mem_Icc.mp hn
  have hin' := Finset.mem_Icc.mp hn'
  omega

/-- Two masters with two ranges of 4000 slots each, listed by turns. -/
def alternating : ClusterSlots where
  ranges :=
    [⟨0, 3999, ⟨"192.168.33.11", 6379, "m1"⟩, by decide⟩,
      ⟨4000, 7999, ⟨"192.168.33.12", 6379, "m2"⟩, by decide⟩,
      ⟨8000, 11999, ⟨"192.168.33.11", 6379, "m1"⟩, by decide⟩,
      ⟨12000, 15999, ⟨"192.168.33.12", 6379, "m2"⟩, by decide⟩]
  disjoint := List.Pairwise.imp SlotRange.disjoint_of_apart (by decide)

example : afterAutoRebalance alternating.ranges = true ∧ alternating.masters.length = 2 := by
  decide

/-! ## The first range of a master -/

/-- A reply with the ranges of each master in the order of the slots, no two of them touching. The
masters may come in any order. -/
structure InSlotOrder (reply : ClusterSlots) : Prop where
  sorted : reply.ranges.Pairwise fun slot slot' =>
    masterId slot = masterId slot' → slot.stop < slot'.start
  maximal : ∀ slot ∈ reply.ranges, ∀ slot' ∈ reply.ranges,
    masterId slot = masterId slot' → slot.stop + 1 ≠ slot'.start

/-- A slot of some ranges is in one of them. -/
theorem mem_slotsOf {ranges : List SlotRange} {n : ℕ} :
    n ∈ slotsOf ranges ↔ ∃ slot ∈ ranges, slot.start ≤ n ∧ n ≤ slot.stop := by
  induction ranges with
  | nil => simp [slotsOf]
  | cons slot ranges ih =>
    have hcons : n ∈ slotsOf (slot :: ranges) ↔ n ∈ slot.slots ∨ n ∈ slotsOf ranges :=
      Finset.mem_union
    rw [hcons, ih, SlotRange.slots, Finset.mem_Icc]
    simp

/-- A master serves the slots of its ranges. -/
theorem mem_served {reply : ClusterSlots} {id : String} {n : ℕ} :
    n ∈ reply.served id ↔
      ∃ slot ∈ reply.ranges, masterId slot = id ∧ slot.start ≤ n ∧ n ≤ slot.stop := by
  rw [ClusterSlots.served, mem_slotsOf]
  simp [and_assoc]

/-- A master has no range in the reply iff it serves no slot. -/
theorem noSlots_iff (reply : ClusterSlots) (id : String) :
    noSlots reply.ranges id = true ↔ reply.served id = ∅ := by
  rw [noSlots, slotOfMaster4, Option.isNone_iff_eq_none, List.find?_eq_none,
    Finset.eq_empty_iff_forall_notMem]
  constructor
  · intro h n hn
    obtain ⟨slot, hslot, hid, -⟩ := mem_served.mp hn
    exact h slot hslot (beq_iff_eq.mpr hid)
  · intro h slot hslot hid
    exact h slot.start (mem_served.mpr
      ⟨slot, hslot, beq_iff_eq.mp hid, Nat.le_refl _, slot.start_le_stop⟩)

section InSlotOrder

variable {reply : ClusterSlots}

/-- Ranges with a slot in common are the same. -/
theorem eq_of_mem_of_mem {slot slot' : SlotRange} (hslot : slot ∈ reply.ranges)
    (hslot' : slot' ∈ reply.ranges) {n : ℕ} (hn : slot.start ≤ n ∧ n ≤ slot.stop)
    (hn' : slot'.start ≤ n ∧ n ≤ slot'.stop) : slot = slot' := by
  by_contra hne
  have hsymm : Std.Symm fun slot slot' : SlotRange => Disjoint slot.slots slot'.slots :=
    ⟨fun _ _ h => h.symm⟩
  have hdisjoint := reply.disjoint.forall hslot hslot' hne
  exact Finset.disjoint_left.mp hdisjoint (Finset.mem_Icc.mpr hn) (Finset.mem_Icc.mpr hn')

/-- A range that starts with slot 0 is the first one of its master. -/
theorem InSlotOrder.slotOfMaster4_of_start_zero (h : InSlotOrder reply) {slot : SlotRange}
    (hslot : slot ∈ reply.ranges) (hzero : slot.start = 0) :
    slotOfMaster4 reply.ranges (masterId slot) = some slot := by
  obtain ⟨before, after, hsplit⟩ := List.append_of_mem hslot
  refine List.find?_eq_some_iff_append.mpr ⟨beq_self_eq_true _, before, after, hsplit, ?_⟩
  intro slot' hslot'
  rw [Bool.not_eq_true', beq_eq_false_iff_ne]
  intro hid
  have hsorted := h.sorted
  rw [hsplit] at hsorted
  have hlt := (List.pairwise_append.mp hsorted).2.2 slot' hslot' slot List.mem_cons_self hid
  omega

/-- The slots of a range go on as far as the master's do.

**Proof sketch.** The range of the next slot would touch the range. -/
theorem InSlotOrder.stop_eq (h : InSlotOrder reply) {slot : SlotRange}
    (hslot : slot ∈ reply.ranges) {m : ℕ} (hstart : slot.start ≤ m)
    (hall : ∀ n, slot.start ≤ n → n ≤ m → n ∈ reply.served (masterId slot))
    (hnext : m + 1 ∉ reply.served (masterId slot)) : slot.stop = m := by
  have hle : slot.stop ≤ m := by
    by_contra hlt
    exact hnext (mem_served.mpr ⟨slot, hslot, rfl, by omega, by omega⟩)
  by_contra hne
  have hbound := slot.start_le_stop
  obtain ⟨slot', hslot', hid, hfrom, hto⟩ :=
    mem_served.mp (hall (slot.stop + 1) (by omega) (by omega))
  have htouch : slot.stop + 1 ≠ slot'.start := h.maximal slot hslot slot' hslot' hid.symm
  have hsame : slot = slot' :=
    eq_of_mem_of_mem hslot hslot' ⟨hbound, Nat.le_refl _⟩ ⟨by omega, by omega⟩
  rw [hsame] at hto
  omega

/-- **What the first range of a master tells**: if the ranges of each master come in the order of
the slots, the check after the resharding passes iff the master serves the slots 0 to 9 and not
slot 10. It says nothing about the slots behind.

**Proof sketch.** Slot 0 can only be in the first range of its master. That range goes on up to
the first slot the master does not serve, since a range from there on would touch it. -/
theorem afterReshard_iff (h : InSlotOrder reply) (id : String) :
    afterReshard reply.ranges id = true ↔
      (∀ n ≤ 9, n ∈ reply.served id) ∧ 10 ∉ reply.served id := by
  constructor
  · intro hpass
    unfold afterReshard at hpass
    cases hfind : slotOfMaster4 reply.ranges id with
    | none =>
      rw [hfind] at hpass
      cases hpass
    | some slot =>
      rw [hfind] at hpass
      have hslot : slot ∈ reply.ranges := List.mem_of_find?_eq_some hfind
      have hid : masterId slot = id := by
        have hbeq := List.find?_some hfind
        exact beq_iff_eq.mp hbeq
      obtain ⟨hstart, hstop⟩ : slot.start = 0 ∧ slot.stop = 9 := by
        simpa using hpass
      refine ⟨fun n hn => mem_served.mpr ⟨slot, hslot, hid, by omega, by omega⟩, fun hten => ?_⟩
      obtain ⟨slot', hslot', hid', hfrom, hto⟩ := mem_served.mp hten
      have htouch := h.maximal slot hslot slot' hslot' (hid.trans hid'.symm)
      have hsame : slot = slot' :=
        eq_of_mem_of_mem hslot hslot' ⟨by omega, Nat.le_of_eq hstop.symm⟩ ⟨by omega, by omega⟩
      rw [← hsame] at hto
      omega
  · rintro ⟨hall, hten⟩
    obtain ⟨slot, hslot, rfl, hfrom, -⟩ := mem_served.mp (hall 0 (Nat.zero_le 9))
    have hzero : slot.start = 0 := Nat.le_zero.mp hfrom
    have hstop := h.stop_eq hslot (by omega)
      (fun n _ hn => hall n hn) hten
    rw [afterReshard, h.slotOfMaster4_of_start_zero hslot hzero]
    simp [hzero, hstop]

end InSlotOrder

/-- The reply after the first ten slots have gone to the fourth master. -/
def resharded : ClusterSlots where
  ranges :=
    [⟨10, 5460, ⟨"192.168.33.11", 6379, "m1"⟩, by decide⟩,
      ⟨5461, 10922, ⟨"192.168.33.12", 6379, "m2"⟩, by decide⟩,
      ⟨10923, 16383, ⟨"192.168.33.13", 6379, "m3"⟩, by decide⟩,
      ⟨0, 9, ⟨"192.168.33.14", 6379, "m4"⟩, by decide⟩]
  disjoint := List.Pairwise.imp SlotRange.disjoint_of_apart (by decide)

/-- The check passes on this reply, and so the fourth master serves the slots 0 to 9. -/
theorem afterReshard_iff_resharded :
    (∀ n ≤ 9, n ∈ resharded.served "m4") ∧ 10 ∉ resharded.served "m4" :=
  (afterReshard_iff ⟨by decide, by decide⟩ "m4").mp (by decide)

end PythonForFun.Redis
