import PythonForFun.Raid.Arrays

set_option relaxedAutoImplicit false
set_option autoImplicit false

/-!
# How far the RAID test gets

After `_reset` the tests hand the free disks out in the order of the glob: each array takes the
first ones left, and the disk that `test_raid0 verify_redundancy` makes vanish is one that its
own array has taken. So a sequence of tests goes through iff there are as many disks as its
arrays ask for together, and otherwise it ends at the first array there are too few disks for.
`_find_disk_for_raid` itself does not fail there; the words of its alert make `mdadm -C` fail.

## Main definitions

* `Raid.Machine.freeDisks` — the disks that are still to be handed out.
* `Raid.Event.order`, `Raid.allot` — the array a test asks for, and the arrays a sequence gets.
* `Raid.mainSequence` — the calls at the end of the script.

## Main results

* `Raid.run_of_enough`, `Raid.run_of_short` — one test.
* `Raid.testSh_allots` — a sequence of tests after `_reset`.
* `Raid.mainSequence_eq_ok_iff` — the script needs eleven disks.
-/

namespace PythonForFun.Raid

open Shell (words substitute)

/-! ## What is asked for -/

/-- The disks that are still to be handed out, in the order of the glob. -/
def Machine.freeDisks (m : Machine) : List Device :=
  m.listing.devices.filter (eligible m.verdict)

/-- An array that is asked for: `-l` and `-n` of `mdadm -C`. -/
structure Order where
  md : Md
  level : ℕ
  num : ℕ
  deriving DecidableEq

/-- The array a test asks for. -/
def Event.order : Event → Option Order
  | raid0 _ _ => some ⟨.md0, 0, 2⟩
  | raid1 _ _ => some ⟨.md1, 1, 2⟩
  | raid5 _ => some ⟨.md5, 5, 3⟩
  | raid6 _ => some ⟨.md6, 6, 4⟩
  | vanish _ => none

/-- A test in which every command succeeds and the file on the array is readable as long as the
test expects. -/
def Event.Goes : Event → Prop
  | raid0 verifyRedundancy env => env.Succeeds ∧
    (verifyRedundancy = true → env.hello = true ∧ everMissing env.lsFails 30 = true)
  | raid1 verifyRedundancy env => env.Succeeds ∧
    (verifyRedundancy = true → env.hello = true ∧ everMissing env.lsFails 10 = false)
  | raid5 env => env.Succeeds
  | raid6 env => env.Succeeds
  | vanish _ => False

/-- The arrays that are made of the disks `free`: each takes the first ones left, until there
are too few. -/
def allot : List Device → List Order → List Creation
  | _, [] => []
  | free, o :: orders =>
    if o.num ≤ free.length then
      ⟨o.md, o.level, o.num, free.take o.num⟩ :: allot (free.drop o.num) orders
    else []

/-- The calls at the end of the script. -/
def mainSequence (mdadm : Mdadm) (scans : List Listing) (env₀ env₁ env₅ env₆ : Env) :
    Prog ℕ Machine Unit :=
  testSh mdadm scans [.raid0 true env₀, .raid1 true env₁, .raid5 env₅, .raid6 env₆]

/-- Whether the devices beside `sda` are whole disks: no name ends in a digit. -/
def WholeDisks (devices : List Device) : Prop :=
  ∀ d ∈ devices, ¬ NamesSda d.name → d.name.getLast?.any Char.isDigit = false

/-! ## One test -/

/-- A list without the elements of its beginning is its rest. -/
theorem filter_notMem_take {α : Type} [DecidableEq α] {l : List α} (hl : l.Nodup) (n : ℕ) :
    (l.filter fun a => !decide (a ∈ l.take n)) = l.drop n := by
  have htake : ((l.take n).filter fun a => !decide (a ∈ l.take n)) = [] := by
    rw [List.filter_eq_nil_iff]
    intro a ha
    simp [ha]
  have hdrop : ((l.drop n).filter fun a => !decide (a ∈ l.take n)) = l.drop n := by
    rw [List.filter_eq_self]
    intro a ha
    have hout : a ∉ l.take n := fun h => List.disjoint_take_drop hl (Nat.le_refl n) h ha
    simp [hout]
  calc (l.filter fun a => !decide (a ∈ l.take n))
      = (l.take n ++ l.drop n).filter fun a => !decide (a ∈ l.take n) := by
        rw [List.take_append_drop]
    _ = l.drop n := by rw [List.filter_append, htake, hdrop, List.nil_append]

/-- The disks left after an array was made are those it did not take. -/
theorem freeDisks_withArray (m : Machine) (o : Order) :
    (m.withArray ⟨o.md, o.level, o.num, m.freeDisks.take o.num⟩).freeDisks =
      m.freeDisks.drop o.num := by
  have heligible : ∀ d,
      eligible (m.withArray ⟨o.md, o.level, o.num, m.freeDisks.take o.num⟩).verdict d =
        (!decide (d ∈ m.freeDisks.take o.num) && eligible m.verdict d) := by
    intro d
    by_cases hd : d ∈ m.freeDisks.take o.num
    · simp [eligible, Machine.verdict, Machine.withArray, hd]
    · simp [eligible, Machine.verdict, Machine.withArray, hd]
  have hnodup : m.freeDisks.Nodup := m.listing.nodup.filter _
  have hfilter : (m.withArray ⟨o.md, o.level, o.num, m.freeDisks.take o.num⟩).freeDisks =
      m.freeDisks.filter fun d => !decide (d ∈ m.freeDisks.take o.num) := by
    conv_rhs => rw [Machine.freeDisks, List.filter_filter]
    exact List.filter_congr fun d _ => heligible d
  rw [hfilter, filter_notMem_take hnodup]

/-- From `m` to `m'` an array was made of the first disks left, and nothing else was taken. -/
structure Takes (o : Order) (m m' : Machine) : Prop where
  created : m'.created = m.created ++ [⟨o.md, o.level, o.num, m.freeDisks.take o.num⟩]
  freeDisks : m'.freeDisks = m.freeDisks.drop o.num
  subset : ∀ d ∈ m'.listing.devices, d ∈ m.listing.devices

/-- With enough disks left the array is made of the first of them. -/
theorem createRaid_takes (mdadm : Mdadm) {env : Env} (henv : env.Succeeds) {o : Order}
    (hnum : 1 ≤ o.num) {m : Machine} (henough : o.num ≤ m.freeDisks.length) :
    ∃ disks m', words isBlank disks = (m.freeDisks.take o.num).map Device.name ∧
      createRaid mdadm env o.md o.level o.num m = (.ok disks, m') ∧ m'.listing = m.listing ∧
      Takes o m m' := by
  obtain ⟨disks, hwords, hcreate⟩ := createRaid_of_enough mdadm henv o.md o.level hnum henough
  refine ⟨disks, _, hwords, hcreate, rfl, rfl, ?_, fun d hd => hd⟩
  exact freeDisks_withArray m o

/-- With too few disks left the words given to `mdadm -C` are those of an alert: it fails. -/
theorem createRaid_of_short (mdadm : Mdadm) (env : Env) {o : Order} (hnum : 1 ≤ o.num)
    {m : Machine} (hshort : m.freeDisks.length < o.num) :
    createRaid mdadm env o.md o.level o.num m = (.error 1, m) := by
  let o' := findDiskForRaid mdadm env.time m.listing m.verdict o.num
  have hstatus : o'.status = 0 := by
    show (findDiskForRaid mdadm env.time m.listing m.verdict o.num).status = 0
    rw [findDiskForRaid_eq mdadm env.time m.listing m.verdict hnum, ← Machine.freeDisks,
      if_neg (Nat.not_le_of_lt hshort)]
    rfl
  have hfind : findDisks mdadm env.time o.num m = (.ok (substitute '\n' o'.text), m) := by
    simp only [findDisks, o', hstatus, if_true]
  have hnames : ¬ ∀ w ∈ words isBlank (substitute '\n' o'.text),
      (m.listing.device? w).isSome := by
    intro h
    exact Nat.not_le_of_lt hshort (words_findDisks mdadm env.time m hnum h).1
  have hcreate : mdadmCreate o.md o.level o.num (words isBlank (substitute '\n' o'.text))
      env.create m = (.error 1, m) := by
    rw [mdadmCreate, if_neg fun h => hnames h.2.2]
  rw [createRaid, Prog.bind_of_ok hfind, Prog.bind_of_error hcreate]

/-- **The disk that `test_raid0` makes vanish** is none of those left: nothing else vanishes with
a whole disk. -/
theorem deleteDisk_of_taken {m : Machine} (hwhole : WholeDisks m.listing.devices) {d : Device}
    (hd : d ∈ m.listing.devices) (hname : ¬ NamesSda d.name) (htaken : d ∉ m.freeDisks) :
    ∃ m', deleteDisk d.name m = (.ok (), m') ∧ m'.created = m.created ∧
      m'.freeDisks = m.freeDisks ∧ ∀ d' ∈ m'.listing.devices, d' ∈ m.listing.devices := by
  have hthere : (m.listing.device? d.name).isSome := by
    rw [Listing.device?_name hd]
    rfl
  refine ⟨{ m with listing := m.listing.filter fun d' => !onDisk d.name d'.name }, ?_, rfl, ?_,
    fun d' hd' => (List.mem_filter.mp hd').1⟩
  · rw [deleteDisk, if_pos ⟨hthere, hwhole d hd hname⟩]
  · have hkept : ∀ d' ∈ m.freeDisks, onDisk d.name d'.name = false := by
      intro d' hd'
      obtain ⟨hlisted, heligible⟩ := List.mem_filter.mp hd'
      have hname' := ((eligible_eq_true_iff m.verdict d').mp heligible).1
      by_contra hon
      simp only [onDisk, Bool.not_eq_false, Bool.and_eq_true, List.isPrefixOf_iff_prefix] at hon
      obtain ⟨⟨rest, hrest⟩, hdigits⟩ := hon
      rw [← hrest, List.drop_left] at hdigits
      cases hlast : rest.getLast? with
      | none =>
        rw [List.getLast?_eq_none_iff] at hlast
        rw [hlast, List.append_nil] at hrest
        exact htaken (Device.ext hrest ▸ hd')
      | some c =>
        have hdigit := hwhole d' hlisted hname'
        rw [← hrest, List.getLast?_append, hlast] at hdigit
        have hc := List.all_eq_true.mp hdigits c (List.mem_of_getLast? hlast)
        rw [Option.some_or, Option.any_some, hc] at hdigit
        exact Bool.noConfusion hdigit
    have hswap : (m.listing.devices.filter fun d' => !onDisk d.name d'.name).filter
        (eligible m.verdict) = m.freeDisks.filter fun d' => !onDisk d.name d'.name := by
      rw [Machine.freeDisks, List.filter_filter, List.filter_filter]
      exact List.filter_congr fun d' _ => Bool.and_comm _ _
    have hall : (m.freeDisks.filter fun d' => !onDisk d.name d'.name) = m.freeDisks := by
      rw [List.filter_eq_self]
      intro d' hd'
      rw [hkept d' hd']
      rfl
    exact hswap.trans hall

/-- **A test with enough disks** goes through and takes the first ones left. -/
theorem run_of_enough (mdadm : Mdadm) {e : Event} (hgoes : e.Goes) {o : Order}
    (ho : e.order = some o) {m : Machine} (hwhole : WholeDisks m.listing.devices)
    (henough : o.num ≤ m.freeDisks.length) :
    ∃ m', e.run mdadm m = (.ok (), m') ∧ Takes o m m' := by
  cases e with
  | raid0 verifyRedundancy env =>
    cases ho
    obtain ⟨henv, hverify⟩ := hgoes
    obtain ⟨disks, m₁, hwords, hcreate, hlisting, htakes⟩ :=
      createRaid_takes mdadm henv (by decide : 1 ≤ 2) henough
    rw [Event.run, testRaid0, Prog.bind_of_ok hcreate]
    cases verifyRedundancy with
    | false => exact ⟨m₁, rfl, htakes⟩
    | true =>
      obtain ⟨hhello, hmissing⟩ := hverify rfl
      -- the disk that vanishes is the first one of the array
      obtain ⟨d, rest, hfirst⟩ := List.exists_cons_of_length_pos (l := m.freeDisks) (by
        have : 2 ≤ m.freeDisks.length := henough
        omega)
      have hname : (words isBlank disks).headD [] = d.name := by
        rw [hwords, hfirst]
        rfl
      have hfree : d ∈ m.freeDisks := hfirst ▸ List.mem_cons_self
      obtain ⟨hlisted, heligible⟩ := List.mem_filter.mp hfree
      have hsda := ((eligible_eq_true_iff m.verdict d).mp heligible).1
      have htaken : d ∉ m₁.freeDisks := by
        have hnodup : m.freeDisks.Nodup := m.listing.nodup.filter _
        rw [htakes.freeDisks]
        refine fun h => List.disjoint_take_drop hnodup (Nat.le_refl 2) ?_ h
        rw [hfirst]
        exact List.mem_cons_self
      obtain ⟨m₂, hdelete, hcreated, hsame, hsubset⟩ :=
        deleteDisk_of_taken (hlisting ▸ hwhole) (hlisting ▸ hlisted) hsda htaken
      refine ⟨m₂, ?_, hcreated.trans htakes.created, hsame.trans htakes.freeDisks,
        fun d' hd' => htakes.subset d' (hsubset d' hd')⟩
      have hcommand : command env.hello m₁ = (.ok (), m₁) := by
        rw [hhello]
        rfl
      simp only [if_true, hname]
      rw [Prog.bind_of_ok hcommand, Prog.bind_of_ok hdelete, hmissing]
      rfl
  | raid1 verifyRedundancy env =>
    cases ho
    obtain ⟨henv, hverify⟩ := hgoes
    obtain ⟨disks, m₁, -, hcreate, -, htakes⟩ :=
      createRaid_takes mdadm henv (by decide : 1 ≤ 2) henough
    refine ⟨m₁, ?_, htakes⟩
    rw [Event.run, testRaid1, Prog.bind_of_ok hcreate]
    cases verifyRedundancy with
    | false => rfl
    | true =>
      obtain ⟨hhello, hmissing⟩ := hverify rfl
      have hcommand : command env.hello m₁ = (.ok (), m₁) := by
        rw [hhello]
        rfl
      simp only [if_true]
      rw [Prog.bind_of_ok hcommand, hmissing]
      rfl
  | raid5 env =>
    cases ho
    obtain ⟨disks, m₁, -, hcreate, -, htakes⟩ :=
      createRaid_takes mdadm hgoes (by decide : 1 ≤ 3) henough
    refine ⟨m₁, ?_, htakes⟩
    rw [Event.run, testRaid5, Prog.bind_of_ok hcreate]
    rfl
  | raid6 env =>
    cases ho
    obtain ⟨disks, m₁, -, hcreate, -, htakes⟩ :=
      createRaid_takes mdadm hgoes (by decide : 1 ≤ 4) henough
    refine ⟨m₁, ?_, htakes⟩
    rw [Event.run, testRaid6, Prog.bind_of_ok hcreate]
    rfl
  | vanish gone => cases ho

/-- **A test with too few disks** ends the script, and changes nothing. -/
theorem run_of_short (mdadm : Mdadm) {e : Event} {o : Order} (ho : e.order = some o) {m : Machine}
    (hshort : m.freeDisks.length < o.num) : e.run mdadm m = (.error 1, m) := by
  cases e with
  | raid0 verifyRedundancy env =>
    cases ho
    exact Prog.bind_of_error (createRaid_of_short mdadm env (by decide : 1 ≤ 2) hshort)
  | raid1 verifyRedundancy env =>
    cases ho
    exact Prog.bind_of_error (createRaid_of_short mdadm env (by decide : 1 ≤ 2) hshort)
  | raid5 env =>
    cases ho
    exact Prog.bind_of_error (createRaid_of_short mdadm env (by decide : 1 ≤ 3) hshort)
  | raid6 env =>
    cases ho
    exact Prog.bind_of_error (createRaid_of_short mdadm env (by decide : 1 ≤ 4) hshort)
  | vanish gone => cases ho

/-! ## A sequence of tests -/

/-- The arrays some tests ask for. -/
def orders (events : List Event) : List Order := events.filterMap Event.order

/-- The number of disks some arrays ask for together. -/
def demand : List Order → ℕ
  | [] => 0
  | o :: os => o.num + demand os

/-- A test asks for an array. -/
theorem Event.Goes.exists_order {e : Event} (h : e.Goes) : ∃ o, e.order = some o := by
  cases e with
  | vanish gone => exact absurd h (by simp [Event.Goes])
  | _ => exact ⟨_, rfl⟩

/-- **A sequence of tests** hands the disks out one array after the other, and goes through iff
there are as many as all arrays ask for.

**Proof sketch.** Induction on the tests, for an arbitrary machine. A test with enough disks
leaves the rest of them to the tests after it; one with too few ends the sequence. -/
theorem forM_run_allots (mdadm : Mdadm) (events : List Event) (hgoes : ∀ e ∈ events, e.Goes)
    {m : Machine} (hwhole : WholeDisks m.listing.devices) :
    (forM events (Event.run mdadm) m).1 =
        (if demand (orders events) ≤ m.freeDisks.length then .ok () else .error 1) ∧
      (forM events (Event.run mdadm) m).2.created =
        m.created ++ allot m.freeDisks (orders events) := by
  induction events generalizing m with
  | nil => exact ⟨rfl, (List.append_nil _).symm⟩
  | cons e events ih =>
    obtain ⟨hfirst, hrest⟩ := List.forall_mem_cons.mp hgoes
    obtain ⟨o, ho⟩ := hfirst.exists_order
    have horders : orders (e :: events) = o :: orders events := List.filterMap_cons_some ho
    rw [horders, List.forM_cons, demand]
    by_cases henough : o.num ≤ m.freeDisks.length
    · obtain ⟨m', hrun, htakes⟩ := run_of_enough mdadm hfirst ho hwhole henough
      obtain ⟨hresult, hcreated⟩ := ih hrest fun d hd => hwhole d (htakes.subset d hd)
      have hlength : m'.freeDisks.length = m.freeDisks.length - o.num := by
        rw [htakes.freeDisks, List.length_drop]
      rw [Prog.bind_of_ok hrun, hresult, hcreated, htakes.created, htakes.freeDisks]
      refine ⟨if_congr ?_ rfl rfl, ?_⟩
      · rw [List.length_drop]
        omega
      · simp only [allot, if_pos henough, List.append_assoc, List.singleton_append]
    · rw [Prog.bind_of_error (run_of_short mdadm ho (Nat.lt_of_not_le henough)),
        if_neg fun h => henough (Nat.le_trans (Nat.le_add_right _ _) h)]
      refine ⟨rfl, ?_⟩
      simp only [allot, if_neg henough, List.append_nil]

/-! ## The whole script -/

/-- The first loop of `_reset` ends with the devices of the last scan. -/
theorem forM_rescan {scans : List Listing} (hsome : ∀ found ∈ scans, found.devices ≠ [])
    (m : Machine) :
    forM scans rescan m = (.ok (), { m with listing := scans.getLastD m.listing }) := by
  induction scans generalizing m with
  | nil => rfl
  | cons found scans ih =>
    obtain ⟨hfirst, hrest⟩ := List.forall_mem_cons.mp hsome
    have hscan : rescan found m = (.ok (), { m with listing := found }) := by
      rw [rescan, if_neg hfirst]
    rw [List.forM_cons, Prog.bind_of_ok hscan, ih hrest]
    cases scans <;> rfl

/-- After `_reset` the disks to be handed out are all those without `sda` in their names. -/
theorem reset_freeDisks {scans : List Listing} (hscans : scans ≠ [])
    (hsome : ∀ found ∈ scans, found.devices ≠ []) (hardware : Hardware) :
    ∃ m, reset scans ⟨hardware, []⟩ = (.ok (), m) ∧ m.created = [] ∧
      m.listing = scans.getLast hscans ∧
      m.freeDisks = m.listing.devices.filter fun d => !decide (NamesSda d.name) := by
  have hlast : scans.getLastD hardware.listing = scans.getLast hscans := by
    rw [List.getLastD_eq_getLast?, List.getLast?_eq_some_getLast hscans, Option.getD_some]
  have hrun : reset scans ⟨hardware, []⟩ =
      clear ⟨{ hardware with listing := scans.getLast hscans }, []⟩ := by
    rw [reset_of_ne_nil hscans, Prog.bind_of_ok (forM_rescan hsome ⟨hardware, []⟩), ← hlast]
  have hlisting := (cleaner_runAll ⟨{ hardware with listing := scans.getLast hscans }, []⟩
    (stopCommands ++ zeroCommands (scans.getLast hscans).devices)).listing
  rcases reset_ends hscans ⟨hardware, []⟩ rfl with
    ⟨u, m, hok, hcreated, hfresh⟩ | ⟨e, m, herr, -⟩
  · rw [hrun] at hok
    obtain rfl := (Prod.mk.inj hok).2
    refine ⟨_, hrun, hcreated, hlisting, List.filter_congr fun d hd => ?_⟩
    rw [Bool.eq_iff_iff, eligible_iff, Bool.not_eq_true', decide_eq_false_iff_not]
    exact ⟨fun h => h.2, fun h => ⟨hfresh d hd h, h⟩⟩
  · rw [hrun] at herr
    cases (Prod.mk.inj herr).1

/-- **Any tests after `_reset`**: on whole disks, with SCSI hosts whose scans each find a device,
whatever superblocks and whatever arrays of the script the machine starts with, tests whose commands
all succeed go through iff the disks without `sda` in their names are as many as the arrays ask for
together, and otherwise the script ends with status 1; in any case the arrays made are those that
are allotted out of these disks in the order of the glob. -/
theorem testSh_allots (mdadm : Mdadm) (hardware : Hardware) {scans : List Listing}
    (hscans : scans ≠ []) (hsome : ∀ found ∈ scans, found.devices ≠ []) {events : List Event}
    (hgoes : ∀ e ∈ events, e.Goes) (hwhole : WholeDisks (scans.getLast hscans).devices) :
    let free := (scans.getLast hscans).devices.filter fun d => !decide (NamesSda d.name)
    (testSh mdadm scans events ⟨hardware, []⟩).1 =
        (if demand (orders events) ≤ free.length then .ok () else .error 1) ∧
      (testSh mdadm scans events ⟨hardware, []⟩).2.created = allot free (orders events) := by
  obtain ⟨m, hreset, hcreated, hlisting, hfree⟩ := reset_freeDisks hscans hsome hardware
  obtain ⟨hresult, harrays⟩ := forM_run_allots mdadm events hgoes (m := m) (hlisting ▸ hwhole)
  rw [hfree, hlisting] at hresult harrays
  rw [hcreated, List.nil_append] at harrays
  rw [testSh, Prog.bind_of_ok hreset]
  exact ⟨hresult, harrays⟩

/-- **The script needs eleven disks** beside `sda`: two for each of the first two arrays, three
for the third, four for the last. -/
theorem mainSequence_eq_ok_iff (mdadm : Mdadm) (hardware : Hardware) {scans : List Listing}
    (hscans : scans ≠ []) (hsome : ∀ found ∈ scans, found.devices ≠ [])
    {env₀ env₁ env₅ env₆ : Env} (h₀ : (Event.raid0 true env₀).Goes)
    (h₁ : (Event.raid1 true env₁).Goes) (h₅ : (Event.raid5 env₅).Goes)
    (h₆ : (Event.raid6 env₆).Goes) (hwhole : WholeDisks (scans.getLast hscans).devices) :
    (mainSequence mdadm scans env₀ env₁ env₅ env₆ ⟨hardware, []⟩).1 = .ok () ↔
      11 ≤ ((scans.getLast hscans).devices.filter fun d => !decide (NamesSda d.name)).length := by
  have hgoes : ∀ e ∈ [Event.raid0 true env₀, .raid1 true env₁, .raid5 env₅, .raid6 env₆],
      e.Goes := by
    simp only [List.mem_cons, List.not_mem_nil, or_false]
    rintro e (rfl | rfl | rfl | rfl) <;> assumption
  obtain ⟨hresult, -⟩ := testSh_allots mdadm hardware hscans hsome hgoes hwhole
  rw [mainSequence, hresult]
  have hdemand : demand (orders [Event.raid0 true env₀, .raid1 true env₁, .raid5 env₅,
      .raid6 env₆]) = 11 := rfl
  rw [hdemand]
  split_ifs with h
  · exact ⟨fun _ => h, fun _ => rfl⟩
  · constructor
    · intro h'
      cases h'
    · intro h'
      exact absurd h' h

/-- Every command succeeds, and the file is missing from the start or not at all. -/
def willing (missing : Bool) : Env :=
  ⟨"12:00:00".toList, true, true, true, true, true, true, true, fun _ => missing⟩

theorem testSh_allots_usedDisks :
    (testSh mdadmMessages [usedDisks.listing] [.raid0 true (willing true), .raid5 (willing false)]
        ⟨usedDisks, []⟩).1 = .error 1 ∧
      (testSh mdadmMessages [usedDisks.listing] [.raid0 true (willing true),
        .raid5 (willing false)] ⟨usedDisks, []⟩).2.created =
          [⟨.md0, 0, 2, [disk 'b' rfl, disk 'c' rfl]⟩] :=
  @testSh_allots mdadmMessages usedDisks [usedDisks.listing] (by simp) (by decide)
    [.raid0 true (willing true), .raid5 (willing false)] (by
      simp only [List.mem_cons, List.not_mem_nil, or_false]
      rintro e (rfl | rfl)
      · exact ⟨⟨rfl, rfl, rfl, rfl, rfl, rfl⟩, fun _ => ⟨rfl, by decide⟩⟩
      · exact ⟨rfl, rfl, rfl, rfl, rfl, rfl⟩) (by unfold WholeDisks; decide)

end PythonForFun.Raid
