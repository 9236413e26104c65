import Mathlib.Data.List.Pairwise
import Mathlib.Logic.Function.Basic
import PythonForFun.Lib.Prog
import PythonForFun.Lib.Script
import PythonForFun.Raid.FindDisk

set_option relaxedAutoImplicit false
set_option autoImplicit false

/-!
# The arrays of the RAID test

`linux/raid/test.sh` stops all arrays and clears all superblocks, and then makes one array after
another of the disks `_find_disk_for_raid` picks. That no disk gets into two arrays is checked
nowhere. It holds since the members of an array have a superblock from its creation on, and no
command after `_reset` clears one.

## Main definitions

* `Raid.Machine` — the devices with their superblocks and arrays, and the arrays made so far.
* `Raid.reset` — `_reset`, on a machine in any state.
* `Raid.testRaid0`, `Raid.testRaid1`, `Raid.testRaid5`, `Raid.testRaid6` — the tests.
* `Raid.Event` — a test, or disks that vanish.
* `Raid.Separate` — the arrays made have no disk in common, as many as ordered, and not `sda`.

## Main results

* `Raid.reset_ends` — after `_reset` every device without `sda` in its name is free.
* `Raid.createRaid_of_enough` — a test that finds enough devices makes its array.
* `Raid.no_disk_in_two_arrays` — in every run the arrays are separate.
-/

namespace PythonForFun.Raid

open Shell (words substitute)

/-! ## The machine -/

/-- The arrays of the script. -/
inductive Md where
  | md0
  | md1
  | md5
  | md6
  deriving DecidableEq

/-- `0 1 5 6`. -/
def Md.all : List Md := [.md0, .md1, .md5, .md6]

/-- An array made by `mdadm -C`: its level, the number of devices given by `-n`, its members. -/
structure Creation where
  md : Md
  level : ℕ
  num : ℕ
  members : List Device

/-- The devices that are there, which of them have a superblock, the running array each belongs
to, and the arrays that are mounted. No array runs but those of the script. -/
structure Hardware where
  listing : Listing
  superblock : Device → Bool
  arrayOf : Device → Option Md
  mounted : Md → Bool

/-- A machine, with the arrays made on it so far. -/
structure Machine extends Hardware where
  created : List Creation

/-- What `mdadm --examine` says about a device. -/
def Machine.verdict (m : Machine) (d : Device) : Verdict :=
  if (m.arrayOf d).isSome then .busy else if m.superblock d then .superblock else .noSuperblock

/-- Some of the devices. -/
def Listing.filter (listing : Listing) (p : Device → Bool) : Listing where
  devices := listing.devices.filter p
  nodup := listing.nodup.filter p

/-! ## `_reset` -/

/-- The commands of `_reset` whose failure is ignored. -/
inductive ResetCommand where
  | umount (i : Md)
  | stop (i : Md)
  | zeroSuperblock (d : Device)

/-- The effect of a command; it is undefined where the command fails. `mdadm -S` fails on a
mounted array and `mdadm --zero-superblock` on a busy device. -/
def ResetCommand.exec : ResetCommand → Machine → Option Machine
  | umount i, m =>
    if m.mounted i then some { m with mounted := Function.update m.mounted i false } else none
  | stop i, m =>
    -- on an array that does not run this has no effect, as the failing command has none
    if m.mounted i then none
    else some { m with arrayOf := fun d => if m.arrayOf d = some i then none else m.arrayOf d }
  | zeroSuperblock d, m =>
    if (m.arrayOf d).isSome then none
    else some { m with superblock := Function.update m.superblock d false }

/-- The loop over the arrays. -/
def stopCommands : List ResetCommand := Md.all.flatMap fun i => [.umount i, .stop i]

/-- The loop over the devices. -/
def zeroCommands (devices : List Device) : List ResetCommand :=
  (devices.filter fun d => !decide (NamesSda d.name)).map .zeroSuperblock

/-- One host of the first loop: the devices found by its scan are there, and `ls /dev/sd*` ends
the script if none is. -/
def rescan (found : Listing) : Prog ℕ Machine Unit := fun m =>
  (if found.devices = [] then .error 2 else .ok (), { m with listing := found })

/-- The loops of `_reset` over the arrays and over the devices. -/
def clear : Prog ℕ Machine Unit := fun m =>
  (.ok (), Script.runAll ResetCommand.exec m (stopCommands ++ zeroCommands m.listing.devices))

/-- `_reset`, with the devices that are there after the scan of each SCSI host. -/
def reset (scans : List Listing) : Prog ℕ Machine Unit := do
  -- without a host the glob stays as it is, and `tee` fails to open a file below it
  if scans.isEmpty then Prog.raise 1
  forM scans rescan
  clear

/-! ## The tests -/

/-- What the commands of one test do whose outcome is open: the time `date` prints, whether each
command succeeds, and whether the file on the array is missing in each pass of the loop. -/
structure Env where
  time : List Char
  create : Bool
  mkfs : Bool
  mkdir : Bool
  mount : Bool
  detail : Bool
  stat : Bool
  hello : Bool
  lsFails : ℕ → Bool

/-- A command that changes nothing modelled; its failure ends the script. -/
def command (succeeds : Bool) : Prog ℕ Machine Unit := fun m =>
  (if succeeds then .ok () else .error 1, m)

/-- `disks=$( _find_disk_for_raid num )`. -/
def findDisks (mdadm : Mdadm) (time : List Char) (num : ℕ) : Prog ℕ Machine (List Char) := fun m =>
  let o := findDiskForRaid mdadm time m.listing m.verdict num
  (if o.status = 0 then .ok (substitute '\n' o.text) else .error o.status, m)

/-- The machine with one array more: its members get a superblock and are busy. -/
def Machine.withArray (m : Machine) (c : Creation) : Machine :=
  { m with
    superblock := fun d => m.superblock d || decide (d ∈ c.members)
    arrayOf := fun d => if d ∈ c.members then some c.md else m.arrayOf d
    created := m.created ++ [c] }

@[simp] theorem Machine.withArray_superblock (m : Machine) (c : Creation) (d : Device) :
    (m.withArray c).superblock d = (m.superblock d || decide (d ∈ c.members)) := rfl

/-- `mdadm -C md -l level -n num args`. It fails unless `args` are `num` names of devices, and it
may fail for another reason. -/
def mdadmCreate (md : Md) (level num : ℕ) (args : List (List Char)) (accepts : Bool) :
    Prog ℕ Machine Unit := fun m =>
  if accepts ∧ args.length = num ∧ ∀ w ∈ args, (m.listing.device? w).isSome then
    (.ok (), m.withArray ⟨md, level, num, args.filterMap m.listing.device?⟩)
  else (.error 1, m)

/-- `mount`. -/
def mount (md : Md) (succeeds : Bool) : Prog ℕ Machine Unit := fun m =>
  if succeeds then (.ok (), { m with mounted := Function.update m.mounted md true })
  else (.error 1, m)

/-- What the tests have in common: making the array and mounting it. -/
def createRaid (mdadm : Mdadm) (env : Env) (md : Md) (level num : ℕ) :
    Prog ℕ Machine (List Char) := do
  let disks ← findDisks mdadm env.time num
  mdadmCreate md level num (words isBlank disks) env.create
  command env.mkfs
  command env.mkdir
  mount md env.mount
  command env.detail
  command env.stat
  return disks

/-- `echo 1 > /sys/block/…/device/delete`: a disk vanishes with its partitions. A partition has
no such file. -/
def deleteDisk (name : List Char) : Prog ℕ Machine Unit := fun m =>
  if (m.listing.device? name).isSome ∧ (name.getLast?.any Char.isDigit) = false then
    (.ok (), { m with listing := m.listing.filter fun d => !onDisk name d.name })
  else (.error 1, m)

/-- Whether the file is missing in some pass of `while (( i < n ))`, which starts at 1. -/
def everMissing (lsFails : ℕ → Bool) (n : ℕ) : Bool := (List.range' 1 (n - 1)).any lsFails

/-- `test_raid0`. With the argument the first member is deleted, and the test fails if the file
stays readable. -/
def testRaid0 (mdadm : Mdadm) (verifyRedundancy : Bool) (env : Env) : Prog ℕ Machine Unit := do
  let disks ← createRaid mdadm env .md0 0 2
  if verifyRedundancy then
    let diskToCorrupt := (words isBlank disks).headD []
    command env.hello
    deleteDisk diskToCorrupt
    if everMissing env.lsFails 30 then pure () else Prog.raise 1

/-- `test_raid1`. With the argument it is only announced that a disk is deleted, and the test
fails if the file gets lost. -/
def testRaid1 (mdadm : Mdadm) (verifyRedundancy : Bool) (env : Env) : Prog ℕ Machine Unit := do
  let _disks ← createRaid mdadm env .md1 1 2
  if verifyRedundancy then
    command env.hello
    if everMissing env.lsFails 10 then Prog.raise 1 else pure ()

/-- `test_raid5`. -/
def testRaid5 (mdadm : Mdadm) (env : Env) : Prog ℕ Machine Unit := do
  let _disks ← createRaid mdadm env .md5 5 3

/-- `test_raid6`. -/
def testRaid6 (mdadm : Mdadm) (env : Env) : Prog ℕ Machine Unit := do
  let _disks ← createRaid mdadm env .md6 6 4

/-- A call of a test, or disks that vanish between the calls. -/
inductive Event where
  | raid0 (verifyRedundancy : Bool) (env : Env)
  | raid1 (verifyRedundancy : Bool) (env : Env)
  | raid5 (env : Env)
  | raid6 (env : Env)
  | vanish (gone : Device → Bool)

/-- What happens in an event. -/
def Event.run (mdadm : Mdadm) : Event → Prog ℕ Machine Unit
  | raid0 verifyRedundancy env => testRaid0 mdadm verifyRedundancy env
  | raid1 verifyRedundancy env => testRaid1 mdadm verifyRedundancy env
  | raid5 env => testRaid5 mdadm env
  | raid6 env => testRaid6 mdadm env
  | vanish gone => fun m => (.ok (), { m with listing := m.listing.filter fun d => !gone d })

/-- A run of the script: `_reset`, and then any calls. -/
def testSh (mdadm : Mdadm) (scans : List Listing) (events : List Event) : Prog ℕ Machine Unit := do
  reset scans
  forM events (Event.run mdadm)

/-! ## After `_reset` -/

/-- No mounted array, no member and no superblock comes up, and nothing is made. -/
structure Cleaner (m m' : Machine) : Prop where
  listing : m'.listing = m.listing
  created : m'.created = m.created
  mounted : ∀ i, m'.mounted i = true → m.mounted i = true
  arrayOf : ∀ d i, m'.arrayOf d = some i → m.arrayOf d = some i
  superblock : ∀ d, m'.superblock d = true → m.superblock d = true

theorem Cleaner.refl (m : Machine) : Cleaner m m :=
  ⟨rfl, rfl, fun _ h => h, fun _ _ h => h, fun _ h => h⟩

theorem Cleaner.trans {m m' m'' : Machine} (h : Cleaner m m') (h' : Cleaner m' m'') :
    Cleaner m m'' where
  listing := h'.listing.trans h.listing
  created := h'.created.trans h.created
  mounted i hi := h.mounted i (h'.mounted i hi)
  arrayOf d i hd := h.arrayOf d i (h'.arrayOf d i hd)
  superblock d hd := h.superblock d (h'.superblock d hd)

/-- A function that is cleared at one place is set where it was set before. -/
theorem update_false_of_eq_true {α : Type} [DecidableEq α] {f : α → Bool} {a a' : α}
    (h : Function.update f a false a' = true) : f a' = true := by
  rw [Function.update_apply] at h
  split_ifs at h
  exact h

/-- **What a command of `_reset` does**: it only clears. -/
theorem cleaner_apply (m : Machine) (c : ResetCommand) :
    Cleaner m (Script.apply ResetCommand.exec m c) := by
  cases c with
  | umount i =>
    rw [Script.apply, ResetCommand.exec]
    split_ifs
    · exact { Cleaner.refl m with mounted := fun _ h => update_false_of_eq_true h }
    · exact Cleaner.refl m
  | stop i =>
    rw [Script.apply, ResetCommand.exec]
    split_ifs
    · exact Cleaner.refl m
    · refine { Cleaner.refl m with arrayOf := fun d j h => ?_ }
      simp only [Option.getD_some] at h
      split_ifs at h
      exact h
  | zeroSuperblock d =>
    rw [Script.apply, ResetCommand.exec]
    split_ifs
    · exact Cleaner.refl m
    · exact { Cleaner.refl m with superblock := fun _ h => update_false_of_eq_true h }

/-- A list of commands of `_reset` only clears. -/
theorem cleaner_runAll (m : Machine) (cmds : List ResetCommand) :
    Cleaner m (Script.runAll ResetCommand.exec m cmds) :=
  Script.runAll_invariant ResetCommand.exec (I := Cleaner m)
    (fun c _ m' h => h.trans (cleaner_apply m' c)) (Cleaner.refl m)

/-- An array that is unmounted and stopped has no member. -/
theorem arrayOf_stop_umount (m : Machine) (i : Md) (d : Device) :
    (Script.runAll ResetCommand.exec m [.umount i, .stop i]).arrayOf d ≠ some i := by
  have hmounted : (Script.apply ResetCommand.exec m (.umount i)).mounted i = false := by
    rw [Script.apply, ResetCommand.exec]
    split_ifs with h
    · exact Function.update_self i false m.mounted
    · exact Bool.eq_false_iff.mpr h
  show (Script.apply ResetCommand.exec (Script.apply ResetCommand.exec m (.umount i))
    (.stop i)).arrayOf d ≠ some i
  rw [Script.apply, ResetCommand.exec, if_neg (by simp [hmounted])]
  simp only [Option.getD_some]
  split_ifs with h
  · exact fun h => Option.some_ne_none i h.symm
  · exact h

/-- **After the loop over the arrays no device is a member of one.** -/
theorem arrayOf_stopCommands (m : Machine) (d : Device) :
    (Script.runAll ResetCommand.exec m stopCommands).arrayOf d = none := by
  refine Option.eq_none_iff_forall_ne_some.mpr fun i hi => ?_
  have hall : i ∈ Md.all := by cases i <;> decide
  obtain ⟨before, after, hsplit⟩ := List.append_of_mem hall
  have hcommands : stopCommands = (before.flatMap fun i => [.umount i, .stop i]) ++
      ([.umount i, .stop i] ++ after.flatMap fun i => [.umount i, .stop i]) := by
    rw [stopCommands, hsplit, List.flatMap_append, List.flatMap_cons]
  rw [hcommands, Script.runAll_append, Script.runAll_append] at hi
  exact arrayOf_stop_umount _ i d ((cleaner_runAll _ _).arrayOf d i hi)

/-- After the loop over the devices those it goes through have no superblock, if none of them
is busy. -/
theorem superblock_zeroCommands {m : Machine} (hfree : ∀ d, m.arrayOf d = none)
    {devices : List Device} {d : Device} (hd : d ∈ devices) (hname : ¬ NamesSda d.name) :
    (Script.runAll ResetCommand.exec m (zeroCommands devices)).superblock d = false := by
  have hmem : ResetCommand.zeroSuperblock d ∈ zeroCommands devices :=
    List.mem_map_of_mem (List.mem_filter.mpr ⟨hd, by simp [hname]⟩)
  obtain ⟨before, after, hsplit⟩ := List.append_of_mem hmem
  rw [hsplit, Script.runAll_append]
  refine Bool.eq_false_iff.mpr fun h => ?_
  have hnone : ((Script.runAll ResetCommand.exec m before).arrayOf d).isSome = false := by
    cases harray : (Script.runAll ResetCommand.exec m before).arrayOf d with
    | none => rfl
    | some i => exact absurd ((cleaner_runAll m before).arrayOf d i harray) (by simp [hfree])
  have hzero := (cleaner_runAll (Script.apply ResetCommand.exec
    (Script.runAll ResetCommand.exec m before) (.zeroSuperblock d)) after).superblock d h
  rw [Script.apply, ResetCommand.exec, if_neg (by simp [hnone])] at hzero
  simp at hzero

/-- Every device without `sda` in its name is free. -/
def Fresh (m : Machine) : Prop :=
  ∀ d ∈ m.listing.devices, ¬ NamesSda d.name → free m.verdict d = true

/-- A device outside `sda` that is in no array and has no superblock is free. -/
theorem free_of_clean {m : Machine} {d : Device} (hname : ¬ NamesSda d.name)
    (harray : m.arrayOf d = none) (hsuper : m.superblock d = false) :
    free m.verdict d = true := by
  have hsda : d.onSda = false :=
    Bool.eq_false_iff.mpr fun h => hname (Device.namesSda_of_onSda h)
  simp [free, hsda, Machine.verdict, harray, hsuper]

/-- Without a SCSI host `_reset` ends the script and changes nothing. -/
theorem reset_nil (m : Machine) : reset [] m = (.error 1, m) := rfl

/-- With a SCSI host `_reset` goes through its loops. -/
theorem reset_of_ne_nil {scans : List Listing} (hscans : scans ≠ []) :
    reset scans = forM scans rescan >>= fun _ => clear := by
  cases scans with
  | nil => exact absurd rfl hscans
  | cons found scans => rfl

/-- **After `_reset`**, whatever the state of the machine was, every device without `sda` in its
name is free; no array is made. Without any device the script ends. -/
theorem reset_ends {scans : List Listing} (hscans : scans ≠ []) :
    Prog.Ends (fun m => m.created = []) (reset scans) (fun _ m => m.created = [] ∧ Fresh m)
      (fun m => m.created = [] ∧ Fresh m) := by
  rw [reset_of_ne_nil hscans]
  refine Prog.Ends.bind (R := fun _ m => m.created = []) (Prog.Ends.forM fun found _ => ?_) ?_
  · intro m hm
    by_cases hnone : found.devices = []
    · refine Or.inr ⟨2, { m with listing := found }, by rw [rescan, if_pos hnone], hm, ?_⟩
      intro d hd
      rw [show found.devices = [] from hnone] at hd
      exact absurd hd List.not_mem_nil
    · exact Or.inl ⟨(), { m with listing := found }, by rw [rescan, if_neg hnone], hm⟩
  · intro _ m hm
    refine Or.inl ⟨(), _, rfl, ?_, ?_⟩
    · rw [(cleaner_runAll m _).created, hm]
    · intro d hd hname
      rw [(cleaner_runAll m _).listing] at hd
      rw [Script.runAll_append]
      refine free_of_clean hname ?_ ?_
      · refine Option.eq_none_iff_forall_ne_some.mpr fun i hi => ?_
        have harray := (cleaner_runAll _ _).arrayOf d i hi
        rw [arrayOf_stopCommands m d] at harray
        exact Option.some_ne_none i harray.symm
      · exact superblock_zeroCommands (arrayOf_stopCommands m) hd hname

/-! ## The disks of an array -/

/-- **The words given to `mdadm -C`**: if they are names of devices, they are the names of the
first eligible devices, and there are enough of these.

**Proof sketch.** Otherwise they are the words of the alert, and the lone `-` among them is the
name of no device. -/
theorem words_findDisks (mdadm : Mdadm) (time : List Char) (m : Machine) {num : ℕ} (hnum : 1 ≤ num)
    (hdevices : ∀ w ∈ words isBlank (substitute '\n'
      (findDiskForRaid mdadm time m.listing m.verdict num).text), (m.listing.device? w).isSome) :
    num ≤ (m.listing.devices.filter (eligible m.verdict)).length ∧
      words isBlank (substitute '\n' (findDiskForRaid mdadm time m.listing m.verdict num).text) =
        (picked m.listing m.verdict num).map Device.name := by
  rw [findDiskForRaid_eq mdadm time m.listing m.verdict hnum] at hdevices ⊢
  split_ifs at hdevices ⊢ with henough
  · exact ⟨henough, words_echo_names _⟩
  · have hdash := hdevices _ (dash_mem_words_alert time s!"Can not find {num} free device".toList)
    obtain ⟨d, hd⟩ := Option.isSome_iff_exists.mp hdash
    have hname : (d.name == ['-']) = true :=
      List.find?_some (p := fun d : Device => d.name == ['-']) hd
    exact absurd (eq_of_beq hname) d.name_ne_dash

/-- Names of listed devices name these devices. -/
theorem filterMap_device?_names {listing : Listing} {ds : List Device}
    (hds : ∀ d ∈ ds, d ∈ listing.devices) :
    (ds.map Device.name).filterMap listing.device? = ds := by
  rw [List.filterMap_map]
  induction ds with
  | nil => rfl
  | cons d ds ih =>
    have hd : (listing.device? ∘ Device.name) d = some d :=
      Listing.device?_name (hds d List.mem_cons_self)
    rw [List.filterMap_cons_some hd, ih fun d' hd' => hds d' (List.mem_cons_of_mem d hd')]

/-- An eligible device has no superblock. -/
theorem superblock_of_eligible {m : Machine} {d : Device} (hd : eligible m.verdict d = true) :
    m.superblock d = false := by
  have hverdict := Option.some.inj ((eligible_eq_true_iff m.verdict d).mp hd).2
  rw [Machine.verdict] at hverdict
  split_ifs at hverdict with harray hsuper
  exact Bool.eq_false_iff.mpr hsuper

/-- Every command of a test succeeds. -/
structure Env.Succeeds (env : Env) : Prop where
  create : env.create = true
  mkfs : env.mkfs = true
  mkdir : env.mkdir = true
  mount : env.mount = true
  detail : env.detail = true
  stat : env.stat = true

/-- `mdadm -C` makes an array of devices that are there, if it gets as many as ordered. -/
theorem mdadmCreate_names (md : Md) (level : ℕ) {num : ℕ} {m : Machine} {ds : List Device}
    (hds : ∀ d ∈ ds, d ∈ m.listing.devices) (hlength : ds.length = num) :
    mdadmCreate md level num (ds.map Device.name) true m =
      (.ok (), m.withArray ⟨md, level, num, ds⟩) := by
  have hlisted : ∀ w ∈ ds.map Device.name, (m.listing.device? w).isSome := by
    intro w hw
    obtain ⟨d, hd, rfl⟩ := List.mem_map.mp hw
    rw [Listing.device?_name (hds d hd)]
    rfl
  have hnames : (ds.map Device.name).length = num := by
    rw [List.length_map, hlength]
  rw [mdadmCreate, if_pos ⟨rfl, hnames, hlisted⟩, filterMap_device?_names hds]

/-- **With enough eligible devices a test makes its array** of the first of them and mounts it,
if no command fails. -/
theorem createRaid_of_enough (mdadm : Mdadm) {env : Env} (henv : env.Succeeds) (md : Md)
    (level : ℕ) {num : ℕ} (hnum : 1 ≤ num) {m : Machine}
    (henough : num ≤ (m.listing.devices.filter (eligible m.verdict)).length) :
    ∃ disks, words isBlank disks = (picked m.listing m.verdict num).map Device.name ∧
      createRaid mdadm env md level num m =
        (.ok disks, { m.withArray ⟨md, level, num, picked m.listing m.verdict num⟩ with
          mounted := Function.update m.mounted md true }) := by
  have hfind : findDisks mdadm env.time num m =
      (.ok (substitute '\n' (echo ((picked m.listing m.verdict num).map Device.name))), m) := by
    simp only [findDisks, findDiskForRaid_eq mdadm env.time m.listing m.verdict hnum,
      if_pos henough, if_true]
  have hcreate := mdadmCreate_names md level (fun d hd => (mem_picked hd).1)
    (length_picked henough)
  refine ⟨substitute '\n' (echo ((picked m.listing m.verdict num).map Device.name)),
    words_echo_names _, ?_⟩
  rw [createRaid, Prog.bind_of_ok hfind, words_echo_names, henv.create, Prog.bind_of_ok hcreate,
    henv.mkfs, henv.mkdir, henv.mount, henv.detail, henv.stat]
  rfl

/-! ## The arrays stay separate -/

/-- **The arrays are separate**: no device is in two of them, each has as many as `-n` says, and
none has `sda` or a partition of it. -/
structure Separate (created : List Creation) : Prop where
  disjoint : created.Pairwise fun c c' => c.members.Disjoint c'.members
  nodup : ∀ c ∈ created, c.members.Nodup
  length : ∀ c ∈ created, c.members.length = c.num
  notSda : ∀ c ∈ created, ∀ d ∈ c.members, d.onSda = false

/-- **The invariant**: the arrays are separate, and their members have superblocks. -/
structure Inv (m : Machine) : Prop where
  separate : Separate m.created
  marked : ∀ c ∈ m.created, ∀ d ∈ c.members, m.superblock d = true

/-- Without an array the invariant holds. -/
theorem inv_of_created_eq_nil {m : Machine} (h : m.created = []) : Inv m := by
  refine ⟨⟨?_, ?_, ?_, ?_⟩, ?_⟩
  · rw [h]
    exact List.Pairwise.nil
  all_goals
    intro c hc
    rw [h] at hc
    exact absurd hc List.not_mem_nil

/-- The invariant depends on the arrays made and the superblocks only. -/
theorem Inv.congr {m m' : Machine} (h : Inv m) (hcreated : m'.created = m.created)
    (hsuper : m'.superblock = m.superblock) : Inv m' := by
  refine ⟨hcreated ▸ h.separate, fun c hc d hd => ?_⟩
  rw [hsuper]
  exact h.marked c (hcreated ▸ hc) d hd

/-- **Making an array of picked devices keeps the arrays separate**: they have no superblock, so
none of them is in an array already. -/
theorem Inv.withArray {m : Machine} (h : Inv m) (md : Md) (level : ℕ) {num : ℕ}
    (henough : num ≤ (m.listing.devices.filter (eligible m.verdict)).length) :
    Inv (m.withArray ⟨md, level, num, picked m.listing m.verdict num⟩) := by
  have hall : ∀ {P : Creation → Prop}, (∀ c ∈ m.created, P c) →
      P ⟨md, level, num, picked m.listing m.verdict num⟩ →
      ∀ c ∈ (m.withArray ⟨md, level, num, picked m.listing m.verdict num⟩).created, P c := by
    intro P hold hnew c hc
    rcases List.mem_append.mp hc with hc | hc
    · exact hold c hc
    · rw [List.mem_singleton.mp hc]
      exact hnew
  refine ⟨⟨?_, hall h.separate.nodup ?_, hall h.separate.length ?_, hall h.separate.notSda ?_⟩,
    hall (fun c hc d hd => ?_) fun d hd => ?_⟩
  · refine List.pairwise_append.mpr ⟨h.separate.disjoint, List.pairwise_singleton _ _, ?_⟩
    intro c hc c' hc' d hd hd'
    rw [List.mem_singleton.mp hc'] at hd'
    have hfree := superblock_of_eligible (mem_picked hd').2
    rw [h.marked c hc d hd] at hfree
    exact absurd hfree (by decide)
  · exact nodup_picked m.listing m.verdict num
  · exact length_picked henough
  · intro d hd
    have hname := ((eligible_eq_true_iff m.verdict d).mp (mem_picked hd).2).1
    exact Bool.eq_false_iff.mpr fun hsda => hname (Device.namesSda_of_onSda hsda)
  · rw [Machine.withArray_superblock, h.marked c hc d hd, Bool.true_or]
  · rw [Machine.withArray_superblock, decide_eq_true hd, Bool.or_true]

/-! ## The calls keep the invariant -/

/-- A program that keeps the invariant, also when it ends the script. -/
abbrev Keeps {α : Type} (x : Prog ℕ Machine α) : Prop := Prog.Ends Inv x (fun _ => Inv) Inv

theorem keeps_pure {α : Type} (a : α) : Keeps (pure a : Prog ℕ Machine α) :=
  fun m hm => Or.inl ⟨a, m, rfl, hm⟩

theorem keeps_raise {α : Type} (status : ℕ) : Keeps (Prog.raise status : Prog ℕ Machine α) :=
  fun m hm => Or.inr ⟨status, m, rfl, hm⟩

theorem keeps_command (succeeds : Bool) : Keeps (command succeeds) := by
  intro m hm
  cases succeeds with
  | true => exact Or.inl ⟨(), m, rfl, hm⟩
  | false => exact Or.inr ⟨1, m, rfl, hm⟩

theorem keeps_mount (md : Md) (succeeds : Bool) : Keeps (mount md succeeds) := by
  intro m hm
  cases succeeds with
  | true => exact Or.inl ⟨(), _, rfl, hm.congr rfl rfl⟩
  | false => exact Or.inr ⟨1, m, rfl, hm⟩

theorem keeps_deleteDisk (name : List Char) : Keeps (deleteDisk name) := by
  intro m hm
  unfold deleteDisk
  split_ifs with h
  · exact Or.inl ⟨(), _, rfl, hm.congr rfl rfl⟩
  · exact Or.inr ⟨1, m, rfl, hm⟩

/-- **Making an array of the disks found** keeps the invariant: `mdadm -C` either makes it of the
picked devices or fails. -/
theorem keeps_mdadmCreate (mdadm : Mdadm) (time : List Char) (md : Md) (level : ℕ) {num : ℕ}
    (hnum : 1 ≤ num) (accepts : Bool) (disks : List Char) :
    Prog.Ends (fun m => Inv m ∧
        disks = substitute '\n' (findDiskForRaid mdadm time m.listing m.verdict num).text)
      (mdadmCreate md level num (words isBlank disks) accepts) (fun _ => Inv) Inv := by
  rintro m ⟨hm, rfl⟩
  unfold mdadmCreate
  split_ifs with h
  · obtain ⟨henough, hwords⟩ := words_findDisks mdadm time m hnum h.2.2
    rw [hwords, filterMap_device?_names fun d hd => (mem_picked hd).1]
    exact Or.inl ⟨(), _, rfl, hm.withArray md level henough⟩
  · exact Or.inr ⟨1, m, rfl, hm⟩

/-- What the tests have in common keeps the invariant. -/
theorem keeps_createRaid (mdadm : Mdadm) (env : Env) (md : Md) (level : ℕ) {num : ℕ}
    (hnum : 1 ≤ num) : Keeps (createRaid mdadm env md level num) := by
  have hfind : Prog.Ends Inv (findDisks mdadm env.time num) (fun disks m => Inv m ∧
      disks = substitute '\n' (findDiskForRaid mdadm env.time m.listing m.verdict num).text)
      Inv := by
    intro m hm
    simp only [findDisks]
    split_ifs
    · exact Or.inl ⟨_, m, rfl, hm, rfl⟩
    · exact Or.inr ⟨_, m, rfl, hm⟩
  refine hfind.bind fun disks => ?_
  refine (keeps_mdadmCreate mdadm env.time md level hnum env.create disks).bind fun _ => ?_
  refine (keeps_command env.mkfs).bind fun _ => ?_
  refine (keeps_command env.mkdir).bind fun _ => ?_
  refine (keeps_mount md env.mount).bind fun _ => ?_
  refine (keeps_command env.detail).bind fun _ => ?_
  exact (keeps_command env.stat).bind fun _ => keeps_pure disks

/-- **Every event keeps the invariant.** -/
theorem keeps_run (mdadm : Mdadm) (e : Event) : Keeps (e.run mdadm) := by
  cases e with
  | raid0 verifyRedundancy env =>
    refine (keeps_createRaid mdadm env .md0 0 (by decide)).bind fun disks => ?_
    cases verifyRedundancy with
    | false => exact keeps_pure ()
    | true =>
      refine (keeps_command env.hello).bind fun _ => (keeps_deleteDisk _).bind fun _ => ?_
      cases everMissing env.lsFails 30 with
      | true => exact keeps_pure ()
      | false => exact keeps_raise 1
  | raid1 verifyRedundancy env =>
    refine (keeps_createRaid mdadm env .md1 1 (by decide)).bind fun disks => ?_
    cases verifyRedundancy with
    | false => exact keeps_pure ()
    | true =>
      refine (keeps_command env.hello).bind fun _ => ?_
      cases everMissing env.lsFails 10 with
      | true => exact keeps_raise 1
      | false => exact keeps_pure ()
  | raid5 env => exact (keeps_createRaid mdadm env .md5 5 (by decide)).bind fun _ => keeps_pure ()
  | raid6 env => exact (keeps_createRaid mdadm env .md6 6 (by decide)).bind fun _ => keeps_pure ()
  | vanish gone => exact fun m hm => Or.inl ⟨(), _, rfl, hm.congr rfl rfl⟩

/-- A run of the script keeps the arrays separate, from any state of the machine.

**Proof sketch.** `_reset` makes no array, and every event keeps the invariant. -/
theorem testSh_ends (mdadm : Mdadm) (scans : List Listing) (events : List Event) :
    Prog.Ends (fun m => m.created = []) (testSh mdadm scans events) (fun _ => Inv) Inv := by
  have hreset : Prog.Ends (fun m => m.created = []) (reset scans) (fun _ => Inv) Inv := by
    by_cases hscans : scans = []
    · subst hscans
      exact fun m hm => Or.inr ⟨1, m, reset_nil m, inv_of_created_eq_nil hm⟩
    · exact (reset_ends hscans).conseq (fun _ h => h) (fun _ m h => inv_of_created_eq_nil h.1)
        fun m h => inv_of_created_eq_nil h.1
  exact hreset.bind fun _ => Prog.Ends.forM fun e _ => keeps_run mdadm e

/-- **No disk is put into two arrays**: whatever devices, superblocks, running and mounted arrays
the machine starts with, after `_reset` every device without `sda` in its name is free, unless
that ended with status 1 since there is no SCSI host; and when calls of the tests and vanishing
disks follow in any order, the arrays made are separate, whether the script goes through or ends
early. -/
theorem no_disk_in_two_arrays (mdadm : Mdadm) (hardware : Hardware) (scans : List Listing)
    (events : List Event) :
    ((reset scans ⟨hardware, []⟩).1 ≠ .error 1 → Fresh (reset scans ⟨hardware, []⟩).2) ∧
      Separate (testSh mdadm scans events ⟨hardware, []⟩).2.created := by
  constructor
  · intro hstatus
    have hscans : scans ≠ [] := by
      rintro rfl
      exact hstatus rfl
    rcases reset_ends hscans ⟨hardware, []⟩ rfl with ⟨_, m, hrun, -, h⟩ | ⟨_, m, hrun, -, h⟩
    · rwa [hrun]
    · rwa [hrun]
  · rcases testSh_ends mdadm scans events ⟨hardware, []⟩ rfl with ⟨_, m, hrun, h⟩ | ⟨_, m, hrun, h⟩
    · rw [hrun]
      exact h.separate
    · rw [hrun]
      exact h.separate

/-- The disks `sda`, `sdb` and `sdc`, with an array running on the last two of them. -/
def usedDisks : Hardware where
  listing := ⟨[disk 'a' rfl, disk 'b' rfl, disk 'c' rfl], by decide⟩
  superblock d := decide (d = disk 'b' rfl ∨ d = disk 'c' rfl)
  arrayOf d := if d = disk 'b' rfl ∨ d = disk 'c' rfl then some .md1 else none
  mounted := fun _ => true

/-- `_reset` with one SCSI host, on a machine with a running array. -/
theorem no_disk_in_two_arrays_usedDisks :
    Fresh (reset [usedDisks.listing] ⟨usedDisks, []⟩).2 :=
  (no_disk_in_two_arrays mdadmMessages usedDisks [usedDisks.listing] []).1 (by decide)

end PythonForFun.Raid
