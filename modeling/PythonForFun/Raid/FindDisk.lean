import PythonForFun.Lib.Regex
import PythonForFun.Lib.Shell
import PythonForFun.Python

set_option relaxedAutoImplicit false
set_option autoImplicit false

/-!
# Finding free disks for a RAID

`linux/raid/test.sh` picks the disks of an array by `_find_disk_for_raid`: a loop over the names
`/dev/sd*` leaves out those that contain `sda`, asks `mdadm --examine` about the others, and
prints the first ones without a superblock as soon as it has enough. The callers capture what it
prints and give the words to `mdadm -C`. When the disks run short the function prints an alert and
ends with status 0, and the words of the alert are captured instead. A disk such as `/dev/sdaa` is
left out although it is not `sda`.

## Main definitions

* `Raid.Device`, `Raid.Listing` — a name the glob `/dev/sd*` gives, and all of them.
* `Raid.Mdadm` — the messages of `mdadm --examine`.
* `Raid.findLoop`, `Raid.findDiskForRaid` — the loop and the function.
* `Raid.HandsOutFree` — as many free devices as asked for are captured, or nothing is.

## Main results

* `Raid.findDiskForRaid_eq` — what the function prints.
* `Raid.handsOutFree_iff` — free devices are handed out iff there are enough of them without
  `sda` in the name.
-/

namespace PythonForFun.Raid

open Shell (words IsWord unwords substitute)

/-! ## The shell -/

/-- The white space between fields. -/
def isBlank (c : Char) : Bool := c == ' ' || c == '\t' || c == '\n'

/-- What `echo` prints. -/
def echo (args : List (List Char)) : List Char := unwords ' ' args ++ ['\n']

/-- `echo args | grep -q pattern`, for a pattern without special characters. -/
def echoGrep (args : List (List Char)) (pattern : String) : Bool :=
  (Regex.literal pattern.toList).search (unwords ' ' args)

/-- What a function prints and its exit status. -/
structure Output where
  text : List Char
  status : ℕ
  deriving DecidableEq

/-- `alert message`, at the time `date` prints. -/
def alert (time message : List Char) : Output where
  text := echo (words isBlank time ++ [['-'], "\x1b[0;31m".toList ++ message ++ "\x1b[0m".toList])
  status := 0

/-- The fields of what `echo` prints are the fields of its arguments. -/
theorem words_echo (args : List (List Char)) :
    words isBlank (echo args) = args.flatMap (words isBlank) := by
  rw [echo, Shell.words_concat rfl, Shell.words_unwords rfl]

/-! ## Devices -/

/-- A character a name keeps when the shell expands it: neither white space nor one of a glob. -/
def isPlain (c : Char) : Bool := !isBlank c && c != '*' && c != '?' && c != '[' && c != '\\'

/-- A device: a name the glob `/dev/sd*` gives. -/
structure Device where
  name : List Char
  globbed : "/dev/sd".toList <+: name
  plain : name.all isPlain = true
  deriving DecidableEq

/-- The devices the glob gives, each once. -/
structure Listing where
  devices : List Device
  nodup : devices.Nodup

/-- `/dev/sd*`: a glob that matches nothing stays as it is. -/
def Listing.glob (listing : Listing) : List (List Char) :=
  if listing.devices = [] then ["/dev/sd*".toList] else listing.devices.map Device.name

/-- The device with a name. -/
def Listing.device? (listing : Listing) (name : List Char) : Option Device :=
  listing.devices.find? fun d => d.name == name

/-- The test `*sda*`. -/
def NamesSda (name : List Char) : Prop := "sda".toList <:+: name

instance (name : List Char) : Decidable (NamesSda name) :=
  inferInstanceAs (Decidable ("sda".toList <:+: name))

/-- The disk itself or one of its partitions, whose names add digits. -/
def onDisk (disk name : List Char) : Bool :=
  disk.isPrefixOf name && (name.drop disk.length).all Char.isDigit

/-- The disk `sda` or a partition of it. -/
def Device.onSda (d : Device) : Bool := onDisk "/dev/sda".toList d.name

@[ext] theorem Device.ext {d d' : Device} (h : d.name = d'.name) : d = d' := by
  cases d
  cases d'
  subst h
  rfl

/-- The name of a device is one field. -/
theorem Device.isWord (d : Device) : IsWord isBlank d.name := by
  constructor
  · intro h
    have hprefix := d.globbed
    rw [h] at hprefix
    exact absurd (List.prefix_nil.mp hprefix) (by decide)
  · intro c hc
    have hplain := List.all_eq_true.mp d.plain c hc
    simp only [isPlain, Bool.and_eq_true, Bool.not_eq_true'] at hplain
    exact hplain.1.1.1.1

/-- The names of devices are fields. -/
theorem isWord_of_mem_names {ds : List Device} {w : List Char} (hw : w ∈ ds.map Device.name) :
    IsWord isBlank w := by
  obtain ⟨d, -, rfl⟩ := List.mem_map.mp hw
  exact d.isWord

/-- `sda` and its partitions have `sda` in their names. -/
theorem Device.namesSda_of_onSda {d : Device} (h : d.onSda = true) : NamesSda d.name := by
  simp only [Device.onSda, onDisk, Bool.and_eq_true, List.isPrefixOf_iff_prefix] at h
  exact (show "sda".toList <:+: "/dev/sda".toList by decide).trans h.1.isInfix

/-! ## What `mdadm` says about a device -/

/-- The verdict of `mdadm --examine`. -/
inductive Verdict where
  | busy
  | noSuperblock
  | superblock
  deriving DecidableEq

/-- The messages of `mdadm --examine` about a name, on both outputs; a name without a device has
no verdict. The message about a busy device says so, and of the others only the one about a
device without a superblock says that. -/
structure Mdadm where
  examine : Option Verdict → List Char → List Char
  busy_iff : ∀ v name, IsWord isBlank name →
    (echoGrep (words isBlank (examine v name)) "Device or resource busy" = true ↔ v = some .busy)
  noSuperblock_iff : ∀ v name, IsWord isBlank name → v ≠ some .busy →
    (echoGrep (words isBlank (examine v name)) "No md superblock detected" = true ↔
      v = some .noSuperblock)

/-! ### The messages of a real `mdadm` -/

/-- The words of a message about a name, before and behind the name with its punctuation mark. -/
structure Message where
  front : List String
  mark : Char
  back : List String

/-- What `mdadm --examine` says; of a superblock the first line. -/
def message : Option Verdict → Message
  | none => ⟨["mdadm:", "cannot", "open"], ':', ["No", "such", "file", "or", "directory"]⟩
  | some .busy => ⟨["mdadm:", "cannot", "open"], ':', ["Device", "or", "resource", "busy"]⟩
  | some .noSuperblock => ⟨["mdadm:", "No", "md", "superblock", "detected", "on"], '.', []⟩
  | some .superblock => ⟨[], ':', ["Magic", ":", "a92b4efc"]⟩

/-- The fields of a message. -/
def Message.fields (msg : Message) (name : List Char) : List (List Char) :=
  msg.front.map String.toList ++ (name ++ [msg.mark]) :: msg.back.map String.toList

/-- The fields of the messages are words. -/
theorem isWord_of_mem_fields (v : Option Verdict) {name w : List Char}
    (hname : IsWord isBlank name) (hw : w ∈ (message v).fields name) : IsWord isBlank w := by
  have hfixed : ∀ w ∈ ((message v).front ++ (message v).back).map String.toList,
      IsWord isBlank w := by
    rcases v with - | ⟨- | - | -⟩ <;> decide
  have hmark : isBlank (message v).mark = false := by
    rcases v with - | ⟨- | - | -⟩ <;> rfl
  rw [List.map_append] at hfixed
  rcases List.mem_append.mp hw with hw | hw
  · exact hfixed w (List.mem_append_left _ hw)
  · rcases List.mem_cons.mp hw with rfl | hw
    · refine ⟨List.append_ne_nil_of_left_ne_nil hname.1 _, fun c hc => ?_⟩
      rcases List.mem_append.mp hc with hc | hc
      · exact hname.2 c hc
      · rw [List.mem_singleton.mp hc, hmark]
    · exact hfixed w (List.mem_append_right _ hw)

/-- The fields are what the shell makes of the printed message. -/
theorem words_echo_fields (v : Option Verdict) {name : List Char} (hname : IsWord isBlank name) :
    words isBlank (echo ((message v).fields name)) = (message v).fields name := by
  rw [words_echo, Shell.flatMap_words fun w hw => isWord_of_mem_fields v hname hw]

/-- A phrase found in a message has its middle word among the fixed words of the message. -/
theorem mem_fixed_of_echoGrep (v : Option Verdict) {name : List Char}
    (hname : IsWord isBlank name) {phrase : String} (front middle back : List Char)
    (hphrase : phrase.toList = front ++ ' ' :: (middle ++ ' ' :: back))
    (hmiddle : IsWord isBlank middle) (hmark : (message v).mark ∉ middle)
    (h : echoGrep ((message v).fields name) phrase = true) :
    middle ∈ ((message v).front ++ (message v).back).map String.toList := by
  rw [echoGrep, Regex.search_literal_iff, hphrase] at h
  have hfield : middle ∈ (message v).fields name :=
    Shell.mem_of_infix_unwords rfl (fun w hw => isWord_of_mem_fields v hname hw) hmiddle h
  rw [List.map_append, List.mem_append]
  rcases List.mem_append.mp hfield with hfield | hfield
  · exact Or.inl hfield
  · rcases List.mem_cons.mp hfield with rfl | hfield
    · exact absurd (List.mem_append_right name List.mem_cons_self) hmark
    · exact Or.inr hfield

/-- The words of a phrase that are neighbours in a message are found as the phrase. -/
theorem echoGrep_of_infix (phrase : List (List Char)) {fields : List (List Char)}
    {pattern : String} (hpattern : pattern.toList = unwords ' ' phrase) (h : phrase <:+: fields) :
    echoGrep fields pattern = true := by
  rw [echoGrep, Regex.search_literal_iff, hpattern]
  exact Shell.unwords_infix_of_infix ' ' h

/-- **The messages of `mdadm`** are told apart by the two phrases. -/
def mdadmMessages : Mdadm where
  examine v name := echo ((message v).fields name)
  busy_iff := by
    intro v name hname
    rw [words_echo_fields v hname]
    constructor
    · intro h
      have hmem := mem_fixed_of_echoGrep v hname "Device or".toList "resource".toList
        "busy".toList (by decide) (by decide) (by rcases v with - | ⟨- | - | -⟩ <;> decide) h
      rcases v with - | ⟨- | - | -⟩
      · exact absurd hmem (by decide)
      · rfl
      · exact absurd hmem (by decide)
      · exact absurd hmem (by decide)
    · rintro rfl
      refine echoGrep_of_infix (["Device", "or", "resource", "busy"].map String.toList)
        (by decide) ?_
      exact ((List.suffix_cons _ _).trans (List.suffix_append _ _)).isInfix
  noSuperblock_iff := by
    intro v name hname _
    rw [words_echo_fields v hname]
    constructor
    · intro h
      have hmem := mem_fixed_of_echoGrep v hname "No".toList "md".toList
        "superblock detected".toList (by decide) (by decide)
        (by rcases v with - | ⟨- | - | -⟩ <;> decide) h
      rcases v with - | ⟨- | - | -⟩
      · exact absurd hmem (by decide)
      · exact absurd hmem (by decide)
      · rfl
      · exact absurd hmem (by decide)
    · rintro rfl
      refine echoGrep_of_infix (["No", "md", "superblock", "detected"].map String.toList)
        (by decide) ?_
      exact ⟨["mdadm:".toList], ["on".toList, name ++ ['.']], rfl⟩

/-- A device is free: not `sda` or a partition of it, not busy, and without a superblock. -/
def free (verdict : Device → Verdict) (d : Device) : Bool :=
  !d.onSda && verdict d == .noSuperblock

/-! ## The function -/

/-- The loop of `_find_disk_for_raid` over the names still to come, with its variables `result`
and `found`: what it prints when it returns, `none` when it runs through all names. -/
def findLoop (examine : List Char → List Char) (num : ℕ) :
    List (List Char) → (result : List Char) → (found : ℕ) → Option (List Char)
  | [], _, _ => none
  | d :: ds, result, found =>
    if NamesSda d then findLoop examine num ds result found
    else
      let checkResult := substitute '\n' (examine d)
      if echoGrep (words isBlank checkResult) "Device or resource busy" then
        findLoop examine num ds result found
      else if echoGrep (words isBlank checkResult) "No md superblock detected" then
        let result := result ++ ' ' :: d
        let found := found + 1
        if toString found = toString num then some (echo (words isBlank result))
        else findLoop examine num ds result found
      else findLoop examine num ds result found

/-- `mdadm --examine` of a name, on a machine with these devices. -/
def Mdadm.examineName (mdadm : Mdadm) (listing : Listing) (verdict : Device → Verdict)
    (name : List Char) : List Char :=
  mdadm.examine ((listing.device? name).map verdict) name

/-- `_find_disk_for_raid num`. -/
def findDiskForRaid (mdadm : Mdadm) (time : List Char) (listing : Listing)
    (verdict : Device → Verdict) (num : ℕ) : Output :=
  match findLoop (mdadm.examineName listing verdict) num listing.glob [] 0 with
  | some text => ⟨text, 0⟩
  | none => alert time s!"Can not find {num} free device".toList

/-- **Free devices are handed out**: if there are as many as asked for, that many different ones
are captured, and otherwise the function fails or nothing is captured. -/
def HandsOutFree (listing : Listing) (verdict : Device → Verdict) (num : ℕ) (o : Output) : Prop :=
  if num ≤ (listing.devices.filter (free verdict)).length then
    ∃ ds : List Device, words isBlank (substitute '\n' o.text) = ds.map Device.name ∧
      ds.length = num ∧ ds.Nodup ∧ ∀ d ∈ ds, d ∈ listing.devices ∧ free verdict d = true
  else o.status ≠ 0 ∨ substitute '\n' o.text = []

/-! ## What the function prints -/

/-- A device the loop takes: without a superblock, and without `sda` in its name. -/
def eligible (verdict : Device → Verdict) (d : Device) : Bool :=
  !decide (NamesSda d.name) && verdict d == .noSuperblock

/-- The devices handed out when there are enough: the first ones the loop takes. -/
def picked (listing : Listing) (verdict : Device → Verdict) (num : ℕ) : List Device :=
  (listing.devices.filter (eligible verdict)).take num

/-- A picked device is there, and the loop takes it. -/
theorem mem_picked {listing : Listing} {verdict : Device → Verdict} {num : ℕ} {d : Device}
    (hd : d ∈ picked listing verdict num) : d ∈ listing.devices ∧ eligible verdict d = true :=
  List.mem_filter.mp (List.mem_of_mem_take hd)

/-- No device is picked twice. -/
theorem nodup_picked (listing : Listing) (verdict : Device → Verdict) (num : ℕ) :
    (picked listing verdict num).Nodup :=
  (listing.nodup.filter _).sublist (List.take_sublist _ _)

/-- As many are picked as asked for, if there are enough. -/
theorem length_picked {listing : Listing} {verdict : Device → Verdict} {num : ℕ}
    (henough : num ≤ (listing.devices.filter (eligible verdict)).length) :
    (picked listing verdict num).length = num :=
  List.length_take_of_le henough

/-- When the loop takes a device, by its verdict. -/
theorem eligible_eq_true_iff (verdict : Device → Verdict) (d : Device) :
    eligible verdict d = true ↔ ¬ NamesSda d.name ∧ some (verdict d) = some .noSuperblock := by
  simp [eligible]

/-- The devices the loop takes are the free ones without `sda` in their names. -/
theorem eligible_iff (verdict : Device → Verdict) (d : Device) :
    eligible verdict d = true ↔ free verdict d = true ∧ ¬ NamesSda d.name := by
  simp only [eligible, free, Bool.and_eq_true, Bool.not_eq_true', decide_eq_false_iff_not]
  constructor
  · rintro ⟨hname, hverdict⟩
    exact ⟨⟨Bool.eq_false_iff.mpr fun h => hname (Device.namesSda_of_onSda h), hverdict⟩, hname⟩
  · rintro ⟨⟨-, hverdict⟩, hname⟩
    exact ⟨hname, hverdict⟩

/-- A name of the listing is the name of its device. -/
theorem Listing.device?_name {listing : Listing} {d : Device} (hd : d ∈ listing.devices) :
    listing.device? d.name = some d := by
  cases hfind : listing.device? d.name with
  | none =>
    have hnone := List.find?_eq_none.mp hfind d hd
    exact absurd (beq_self_eq_true d.name) hnone
  | some d' =>
    have hname : (d'.name == d.name) = true :=
      List.find?_some (p := fun d' : Device => d'.name == d.name) hfind
    rw [Device.ext (eq_of_beq hname)]

/-- One pass of the loop, by the verdict about the name: the name is taken iff it does not
contain `sda` and belongs to a device without a superblock. -/
theorem findLoop_cons (mdadm : Mdadm) {examine : List Char → List Char} {v : Option Verdict}
    {name : List Char} (hname : IsWord isBlank name)
    (hexamine : examine name = mdadm.examine v name) (num : ℕ) (ds : List (List Char))
    (result : List Char) (found : ℕ) :
    findLoop examine num (name :: ds) result found =
      if ¬ NamesSda name ∧ v = some .noSuperblock then
        if found + 1 = num then some (echo (words isBlank (result ++ ' ' :: name)))
        else findLoop examine num ds (result ++ ' ' :: name) (found + 1)
      else findLoop examine num ds result found := by
  have hbusy := mdadm.busy_iff v name hname
  have hdetected := mdadm.noSuperblock_iff v name hname
  have hwords : words isBlank (substitute '\n' (examine name)) =
      words isBlank (mdadm.examine v name) := by
    rw [Shell.words_substitute rfl, hexamine]
  have hnum : toString (found + 1) = toString num ↔ found + 1 = num :=
    ⟨fun h => append_toString_inj (s := "") (by rw [h]), fun h => by rw [h]⟩
  rw [findLoop]
  simp only [hwords, hnum]
  by_cases hsda : NamesSda name
  · rw [if_pos hsda, if_neg fun h => h.1 hsda]
  · rw [if_neg hsda]
    by_cases hv : v = some .busy
    · rw [if_pos (hbusy.mpr hv), if_neg fun h => Verdict.noConfusion (Option.some.inj (hv ▸ h.2))]
    · rw [if_neg fun h => hv (hbusy.mp h)]
      by_cases hv' : v = some .noSuperblock
      · have htaken : ¬ NamesSda name ∧ v = some .noSuperblock := ⟨hsda, hv'⟩
        rw [if_pos ((hdetected hv).mpr hv'), if_pos htaken]
      · rw [if_neg fun h => hv' ((hdetected hv).mp h), if_neg fun h => hv' h.2]

/-- What is asked about a listed device is its verdict. -/
theorem Mdadm.examineName_name (mdadm : Mdadm) {listing : Listing} (verdict : Device → Verdict)
    {d : Device} (hd : d ∈ listing.devices) :
    mdadm.examineName listing verdict d.name = mdadm.examine (some (verdict d)) d.name := by
  rw [Mdadm.examineName, Listing.device?_name hd]
  rfl

/-- The fields of `result` are the names put into it. -/
theorem words_result (picked : List Device) :
    words isBlank (picked.flatMap fun d => ' ' :: d.name) = picked.map Device.name := by
  have hresult : words isBlank ((picked.map Device.name).flatMap (' ' :: ·)) =
      (picked.map Device.name).flatMap (words isBlank) := Shell.words_flatMap_cons rfl _
  rw [List.flatMap_map, Shell.flatMap_words fun w hw => isWord_of_mem_names hw] at hresult
  exact hresult

/-- **What the loop prints**: with some devices picked before, it prints the first `num` of these
and the eligible ones still to come, if there are so many.

**Proof sketch.** Induction on the devices still to come, for arbitrary devices picked before. -/
theorem findLoop_eq (mdadm : Mdadm) {listing : Listing} (verdict : Device → Verdict) {num : ℕ}
    {ds : List Device} (hds : ∀ d ∈ ds, d ∈ listing.devices) {picked : List Device}
    (hpicked : picked.length < num) :
    findLoop (mdadm.examineName listing verdict) num (ds.map Device.name)
        (picked.flatMap fun d => ' ' :: d.name) picked.length =
      if num ≤ (picked ++ ds.filter (eligible verdict)).length then
        some (echo (((picked ++ ds.filter (eligible verdict)).take num).map Device.name))
      else none := by
  induction ds generalizing picked with
  | nil =>
    rw [List.filter_nil, List.append_nil, if_neg (by omega)]
    rfl
  | cons d ds ih =>
    have hrest : ∀ d' ∈ ds, d' ∈ listing.devices := fun d' h => hds d' (List.mem_cons_of_mem d h)
    have hexamine := mdadm.examineName_name verdict (hds d List.mem_cons_self)
    rw [List.map_cons, findLoop_cons mdadm d.isWord hexamine]
    by_cases hd : eligible verdict d = true
    · have hsnoc : picked ++ (d :: ds).filter (eligible verdict) =
          (picked ++ [d]) ++ ds.filter (eligible verdict) := by
        rw [List.filter_cons_of_pos hd, List.append_assoc]
        rfl
      have hresult : (picked.flatMap fun d => ' ' :: d.name) ++ ' ' :: d.name =
          (picked ++ [d]).flatMap fun d => ' ' :: d.name := by
        rw [List.flatMap_append, List.flatMap_singleton]
      have hlength : (picked ++ [d]).length = picked.length + 1 := List.length_append
      rw [if_pos ((eligible_eq_true_iff verdict d).mp hd), hresult, hsnoc, ← hlength]
      split_ifs with hlast hmany hmany
      · rw [words_result, ← hlast, List.take_left]
      · rw [List.length_append] at hmany
        omega
      · rw [ih hrest (by omega), if_pos hmany]
      · rw [ih hrest (by omega), if_neg hmany]
    · rw [if_neg fun h => hd ((eligible_eq_true_iff verdict d).mpr h), List.filter_cons_of_neg hd]
      exact ih hrest hpicked

/-- The pattern `/dev/sd*` itself, left when no device is there, is not taken. -/
theorem findLoop_pattern (mdadm : Mdadm) {listing : Listing} (verdict : Device → Verdict)
    (num : ℕ) (hnone : listing.devices = []) :
    findLoop (mdadm.examineName listing verdict) num ["/dev/sd*".toList] [] 0 = none := by
  have hexamine : mdadm.examineName listing verdict "/dev/sd*".toList =
      mdadm.examine none "/dev/sd*".toList := by
    rw [Mdadm.examineName, Listing.device?, hnone]
    rfl
  rw [findLoop_cons mdadm (by decide) hexamine, if_neg (by simp)]
  rfl

/-- **What the function prints**: the first `num` eligible devices, or the alert. -/
theorem findDiskForRaid_eq (mdadm : Mdadm) (time : List Char) (listing : Listing)
    (verdict : Device → Verdict) {num : ℕ} (hnum : 1 ≤ num) :
    findDiskForRaid mdadm time listing verdict num =
      if num ≤ (listing.devices.filter (eligible verdict)).length then
        ⟨echo ((picked listing verdict num).map Device.name), 0⟩
      else alert time s!"Can not find {num} free device".toList := by
  by_cases hnone : listing.devices = []
  · rw [findDiskForRaid, Listing.glob, if_pos hnone, findLoop_pattern mdadm verdict num hnone,
      hnone, List.filter_nil, List.length_nil, if_neg (by omega)]
  · have hnil : ([] : List Device).length < num := hnum
    have hloop := findLoop_eq mdadm verdict (fun d (hd : d ∈ listing.devices) => hd) hnil
    rw [List.nil_append, List.flatMap_nil, List.length_nil] at hloop
    rw [findDiskForRaid, Listing.glob, if_neg hnone, hloop]
    split_ifs <;> rfl

/-- Names that `echo` prints are captured as they are. -/
theorem words_echo_names (ds : List Device) :
    words isBlank (substitute '\n' (echo (ds.map Device.name))) = ds.map Device.name := by
  rw [Shell.words_substitute rfl, words_echo,
    Shell.flatMap_words fun w hw => isWord_of_mem_names hw]

/-- Of an alert a lone `-` is captured, among other words. -/
theorem dash_mem_words_alert (time message : List Char) :
    ['-'] ∈ words isBlank (substitute '\n' (alert time message).text) := by
  rw [Shell.words_substitute rfl, alert, words_echo, List.flatMap_append, List.flatMap_cons]
  refine List.mem_append_right _ (List.mem_append_left _ ?_)
  exact List.mem_singleton.mpr rfl

/-- A lone `-` names no device. -/
theorem Device.name_ne_dash (d : Device) : d.name ≠ ['-'] := by
  intro h
  have hprefix := d.globbed
  rw [h] at hprefix
  exact absurd hprefix (by decide)

/-- Enough eligible devices are handed out. -/
theorem handsOutFree_of_enough (mdadm : Mdadm) (time : List Char) (listing : Listing)
    (verdict : Device → Verdict) {num : ℕ} (hnum : 1 ≤ num)
    (henough : num ≤ (listing.devices.filter (eligible verdict)).length) :
    HandsOutFree listing verdict num (findDiskForRaid mdadm time listing verdict num) := by
  have hfree : (listing.devices.filter (eligible verdict)).length ≤
      (listing.devices.filter (free verdict)).length := by
    refine List.Sublist.length_le (List.monotone_filter_right listing.devices fun d hd => ?_)
    exact ((eligible_iff verdict d).mp hd).1
  rw [findDiskForRaid_eq mdadm time listing verdict hnum, if_pos henough, HandsOutFree,
    if_pos (by omega)]
  refine ⟨picked listing verdict num, words_echo_names _, length_picked henough,
    nodup_picked listing verdict num, fun d hd => ?_⟩
  obtain ⟨hlisted, hd⟩ := mem_picked hd
  exact ⟨hlisted, ((eligible_iff verdict d).mp hd).1⟩

/-- When the eligible devices run short, the alert is handed out. -/
theorem not_handsOutFree_of_short (mdadm : Mdadm) (time : List Char) (listing : Listing)
    (verdict : Device → Verdict) {num : ℕ} (hnum : 1 ≤ num)
    (hshort : (listing.devices.filter (eligible verdict)).length < num) :
    ¬ HandsOutFree listing verdict num (findDiskForRaid mdadm time listing verdict num) := by
  have hdash := dash_mem_words_alert time s!"Can not find {num} free device".toList
  rw [findDiskForRaid_eq mdadm time listing verdict hnum, if_neg (by omega), HandsOutFree]
  intro h
  split_ifs at h with hfree
  · -- the lone `-` would name a device
    obtain ⟨ds, hwords, -⟩ := h
    rw [hwords] at hdash
    obtain ⟨d, -, hname⟩ := List.mem_map.mp hdash
    exact d.name_ne_dash hname
  · rcases h with hstatus | htext
    · exact hstatus rfl
    · rw [htext] at hdash
      exact absurd hdash List.not_mem_nil

/-- **Free devices are handed out iff there are enough of them without `sda` in the name.**

**Proof sketch.** With enough of them the names of the first ones are printed, and these are free.
Otherwise the function prints the alert and does not fail, and the lone `-` of the alert is the
name of no device. -/
theorem handsOutFree_iff (mdadm : Mdadm) (time : List Char) (listing : Listing)
    (verdict : Device → Verdict) {num : ℕ} (hnum : 1 ≤ num) :
    HandsOutFree listing verdict num (findDiskForRaid mdadm time listing verdict num) ↔
      num ≤ (listing.devices.filter fun d =>
        free verdict d && !decide (NamesSda d.name)).length := by
  have hfilter : (listing.devices.filter fun d => free verdict d && !decide (NamesSda d.name)) =
      listing.devices.filter (eligible verdict) := by
    refine List.filter_congr fun d _ => ?_
    rw [Bool.eq_iff_iff, eligible_iff, Bool.and_eq_true, Bool.not_eq_true',
      decide_eq_false_iff_not]
  rw [hfilter]
  constructor
  · intro h
    by_contra hshort
    exact not_handsOutFree_of_short mdadm time listing verdict hnum (by omega) h
  · exact handsOutFree_of_enough mdadm time listing verdict hnum

/-- The disk with a letter. -/
def disk (letter : Char) (h : isPlain letter = true) : Device where
  name := "/dev/sd".toList ++ [letter]
  globbed := List.prefix_append _ _
  plain := by
    rw [List.all_append, List.all_cons, h]
    rfl

/-- The disks `sda`, `sdb` and `sdc` without superblocks: two are free. -/
theorem handsOutFree_iff_threeDisks :
    let listing : Listing := ⟨[disk 'a' rfl, disk 'b' rfl, disk 'c' rfl], by decide⟩
    1 ≤ 2 ∧ (HandsOutFree listing (fun _ => .noSuperblock) 2
      (findDiskForRaid mdadmMessages "12:00:00".toList listing (fun _ => .noSuperblock) 2) ↔
        2 ≤ (listing.devices.filter fun d =>
          free (fun _ => .noSuperblock) d && !decide (NamesSda d.name)).length) :=
  ⟨by decide, handsOutFree_iff _ _ _ _ (by decide)⟩

/-- With one spare disk beside `sda` a call for two captures the alert. -/
theorem alert_is_captured :
    let listing : Listing := ⟨[disk 'a' rfl, disk 'b' rfl], by decide⟩
    ¬ HandsOutFree listing (fun _ => .noSuperblock) 2
      (findDiskForRaid mdadmMessages "12:00:00".toList listing (fun _ => .noSuperblock) 2) := by
  intro listing
  exact not_handsOutFree_of_short _ _ _ _ (by decide) (by decide)

end PythonForFun.Raid
