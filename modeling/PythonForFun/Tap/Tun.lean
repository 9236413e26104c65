import Mathlib.Data.List.Basic
import PythonForFun.Lib.CString
import PythonForFun.Lib.Prog

set_option relaxedAutoImplicit false
set_option autoImplicit false

/-!
# Reading from a TUN device

`linux/tap/tun.c` opens the TUN device that its argument names and reads from it until a read
fails. It copies the argument into an array of `IFNAMSIZ` bytes with `strcpy`, without looking
at its length. What the kernel answers to the system calls is a parameter.

## Main definitions

* `Tap.Kernel` — the answers of the kernel, within what the system calls promise.
* `Tap.Process` — the open descriptors and the output.
* `Tap.tunAlloc`, `Tap.readRound`, `Tap.main` — the program, its endless loop up to a number of
  rounds.

## Main results

* `Tap.tunAlloc_of_granted`, `Tap.readLoop_of_some`, `Tap.readLoop_of_none` — what the two parts
  do, for every kernel.
* `Tap.main_defined_iff` — when the program has no undefined behaviour.
* `Tap.main_ends` — when the program ends, and that it leaves no descriptor open.
-/

namespace PythonForFun.Tap

open CString

/-! ## The kernel and the process -/

/-- `IFNAMSIZ`. -/
def ifnamsiz : ℕ := 16

/-- `IFF_TUN | IFF_NO_PI`. -/
def iffTunNoPi : ℕ := 0x0001 ||| 0x1000

/-- The name of a network device: with its zero byte it fits into `IFNAMSIZ` bytes. -/
structure DeviceName extends Bytes where
  length_lt : bytes.length < ifnamsiz

/-- The answers of the kernel. A failed system call is `none`. -/
structure Kernel where
  /-- `open("/dev/net/tun", O_RDWR)`, with the descriptors that are open. -/
  openClone : List ℕ → Option ℕ
  /-- `ioctl(fd, TUNSETIFF, &ifr)`, with `ifr_name` and `ifr_flags`. -/
  tunSetIff : Buffer → ℕ → Option DeviceName
  /-- What `read` number `i` returns when it is asked for up to `count` bytes. -/
  read : (i count : ℕ) → Option (List UInt8)
  openClone_new : ∀ fds fd, openClone fds = some fd → fd ∉ fds
  read_le : ∀ i count data, read i count = some data → data.length ≤ count

/-- A line that the program prints. -/
inductive Message
  /-- `Too many arguments supplied.` -/
  | tooManyArguments
  /-- `Tun device name expected.` -/
  | nameExpected
  /-- `Open tun device: %s for reading...` -/
  | openTun (name : List UInt8)
  /-- `Read %d bytes from tun device %s` -/
  | readBytes (nread : ℕ) (name : List UInt8)
  /-- The text of `perror` in front of the error. -/
  | perror (text : String)
  deriving DecidableEq

/-- The descriptors a process has open, and what it has printed. -/
structure Process where
  fds : List ℕ
  output : List Message

/-- Why a run stops. -/
inductive Stop
  /-- The behaviour of the program is undefined from here on. -/
  | undefined
  /-- A system call with a descriptor that is not open. -/
  | badDescriptor
  /-- `exit(status)`. -/
  | exit (status : ℕ)
  deriving DecidableEq

/-! ## The functions the program calls -/

/-- What `<string.h>` leaves undefined stops the run. -/
def defined {α : Type} : Option α → Prog Stop Process α
  | some a => pure a
  | none => Prog.raise .undefined

/-- `printf` or `perror`. -/
def print (line : Message) : Prog Stop Process Unit := fun p =>
  (.ok (), { p with output := p.output ++ [line] })

/-- `printf` of a line with the string of an array. -/
def printStr (buf : Buffer) (line : List UInt8 → Message) : Prog Stop Process Unit := do
  let s ← defined (str buf)
  print (line s)

section Syscalls

variable (kernel : Kernel)

/-- `open(clonedev, O_RDWR)`. -/
def openClone : Prog Stop Process (Option ℕ) := fun p =>
  match kernel.openClone p.fds with
  | none => (.ok none, p)
  | some fd => (.ok (some fd), { p with fds := fd :: p.fds })

/-- `ioctl(fd, TUNSETIFF, (void *) &ifr)`: the kernel writes the name of the device to
`ifr_name`. -/
def tunSetIff (fd : ℕ) (ifrName : Buffer) (ifrFlags : ℕ) : Prog Stop Process (Option Buffer) :=
  fun p =>
    if fd ∈ p.fds then
      match kernel.tunSetIff ifrName ifrFlags with
      | none => (.ok none, p)
      | some device => (some <$> defined (write ifrName (device.bytes ++ [0]))) p
    else (.error .badDescriptor, p)

/-- `read(fd, buffer, sizeof(buffer))`: the number of bytes, and the array they are in. -/
def read (i fd : ℕ) (buffer : Buffer) : Prog Stop Process (Option (ℕ × Buffer)) :=
  fun p =>
    if fd ∈ p.fds then
      match kernel.read i buffer.length with
      | none => (.ok none, p)
      | some data => ((fun buffer => some (data.length, buffer)) <$> defined (write buffer data)) p
    else (.error .badDescriptor, p)

/-- `close(fd)`. -/
def close (fd : ℕ) : Prog Stop Process Unit := fun p =>
  if fd ∈ p.fds then (.ok (), { p with fds := p.fds.erase fd }) else (.error .badDescriptor, p)

end Syscalls

/-! ## The program -/

section Program

variable (kernel : Kernel)

/-- `if (*dev) strncpy(ifr.ifr_name, dev, IFNAMSIZ)`. -/
def copyName (ifrName dev : Buffer) : Prog Stop Process Buffer := do
  let first ← defined (deref dev)
  if first = 0 then pure ifrName else defined (strncpy ifrName dev ifnamsiz)

/-- `tun_alloc(dev, flags)`: the descriptor, `none` standing for a negative one, and what is in
`dev` afterwards. -/
def tunAlloc (dev : Buffer) (flags : ℕ) : Prog Stop Process (Option ℕ × Buffer) := do
  match ← openClone kernel with
  | none => pure (none, dev)
  | some fd => do
    let ifrName := memset (uninitialized ifnamsiz) 0
    let ifrName ← copyName ifrName dev
    match ← tunSetIff kernel fd ifrName flags with
    | none => do
      close fd
      pure (none, dev)
    | some ifrName => do
      let dev ← defined (strcpy dev ifrName)
      printStr ifrName .openTun
      pure (some fd, dev)

/-- One round of the endless loop of `main`. -/
def readRound (tunFd : ℕ) (tunName buffer : Buffer) (i : ℕ) : Prog Stop Process Buffer := do
  match ← read kernel i tunFd buffer with
  | none => do
    print (.perror "Reading from interface")
    close tunFd
    Prog.raise (.exit 1)
  | some (nread, buffer) => do
    printStr tunName (.readBytes nread)
    pure buffer

/-- The arguments of the program: the name that is in `tun_name` afterwards. -/
def parseArgs (tunName : Buffer) : List Bytes → Prog Stop Process Buffer
  | [_, name] => defined (strcpy tunName (literal name))
  | _ :: _ :: _ :: _ => do
    print .tooManyArguments
    Prog.raise (.exit 1)
  | _ => do
    print .nameExpected
    Prog.raise (.exit 1)

/-- `main`, up to `rounds` rounds of its loop. It returns when it is still in the loop then. -/
def main (argv : List Bytes) (rounds : ℕ) : Prog Stop Process Unit := do
  let tunName ← parseArgs (uninitialized ifnamsiz) argv
  let (tunFd, tunName) ← tunAlloc kernel tunName iffTunNoPi
  match tunFd with
  | none => do
    print (.perror "Allocating interface")
    Prog.raise (.exit 1)
  | some tunFd => do
    let _ ← (List.range rounds).foldlM (readRound kernel tunFd tunName) (uninitialized 1500)

end Program

/-! ## Allocating the device -/

section Alloc

variable {kernel : Kernel} {p : Process} {dev : Buffer} {name : Bytes}

/-- What is defined returns. -/
theorem defined_some {α : Type} (a : α) (p : Process) : defined (some a) p = (.ok a, p) := rfl

/-- What the kernel grants a process that asks for the device of a name: a descriptor, and the
name of the device. -/
def Kernel.grants (kernel : Kernel) (fds : List ℕ) (name : Bytes) : Option (ℕ × DeviceName) := do
  let fd ← kernel.openClone fds
  let device ← kernel.tunSetIff (padded name.bytes ifnamsiz) iffTunNoPi
  pure (fd, device)

/-- The `ioctl` with an open descriptor, when the kernel refuses. -/
theorem tunSetIff_of_none {fd flags : ℕ} {ifrName : Buffer} (hfd : fd ∈ p.fds)
    (h : kernel.tunSetIff ifrName flags = none) :
    tunSetIff kernel fd ifrName flags p = (.ok none, p) := by
  simp only [tunSetIff, if_pos hfd, h]

/-- The `ioctl` with an open descriptor, when the kernel grants a device. -/
theorem tunSetIff_of_some {fd flags : ℕ} {ifrName : Buffer} {device : DeviceName}
    (hfd : fd ∈ p.fds) (hlength : ifrName.length = ifnamsiz)
    (h : kernel.tunSetIff ifrName flags = some device) :
    ∃ ifrName', tunSetIff kernel fd ifrName flags p = (.ok (some ifrName'), p) ∧
      str ifrName' = some device.bytes := by
  have hfits : (device.bytes ++ [0]).length ≤ ifrName.length := by
    have hlt := device.length_lt
    rw [List.length_append, List.length_singleton]
    omega
  obtain ⟨ifrName', hwrite⟩ : ∃ b, write ifrName (device.bytes ++ [0]) = some b := by
    rw [write, if_pos hfits]
    exact ⟨_, rfl⟩
  refine ⟨ifrName', ?_, str_write device.ne_zero hwrite⟩
  simp only [tunSetIff, if_pos hfd, h, hwrite]
  rfl

/-- The array that is set to zero holds the name afterwards, filled up with zeros. -/
theorem copyName_of_str (hdev : str dev = some name.bytes) (hlength : dev.length = ifnamsiz)
    (p : Process) :
    copyName (memset (uninitialized ifnamsiz) 0) dev p = (.ok (padded name.bytes ifnamsiz), p) := by
  have hzeros : memset (uninitialized ifnamsiz) 0 = padded [] ifnamsiz := memset_zero _
  obtain ⟨first, hfirst, hempty⟩ := deref_of_str hdev
  rw [copyName, hfirst, Prog.bind_of_ok (defined_some first p), hzeros]
  by_cases hzero : first = 0
  · rw [if_pos hzero, hempty.mp hzero]
    rfl
  · have hlt : name.bytes.length < (padded [] ifnamsiz).length := by
      rw [length_padded (Nat.zero_le _), ← hlength]
      exact length_lt_of_str hdev
    have hcopy := strncpy_of_lt hdev hlt
    rw [length_padded (Nat.zero_le _)] at hcopy
    rw [if_neg hzero, hcopy]
    rfl

/-- **`tun_alloc` when the kernel grants nothing**: no descriptor is left open. -/
theorem tunAlloc_of_refused (hdev : str dev = some name.bytes) (hlength : dev.length = ifnamsiz)
    (h : kernel.grants p.fds name = none) :
    tunAlloc kernel dev iffTunNoPi p = (.ok (none, dev), p) := by
  rw [tunAlloc]
  cases hopen : kernel.openClone p.fds with
  | none =>
    have hrun : openClone kernel p = (.ok none, p) := by
      rw [openClone, hopen]
    rw [Prog.bind_of_ok hrun]
    rfl
  | some fd =>
    have hrun : openClone kernel p = (.ok (some fd), { p with fds := fd :: p.fds }) := by
      rw [openClone, hopen]
    have hrefused : kernel.tunSetIff (padded name.bytes ifnamsiz) iffTunNoPi = none := by
      cases hset : kernel.tunSetIff (padded name.bytes ifnamsiz) iffTunNoPi with
      | none => rfl
      | some device => simp [Kernel.grants, hopen, hset] at h
    have hcopy := copyName_of_str hdev hlength { p with fds := fd :: p.fds }
    have hset := @tunSetIff_of_none kernel { p with fds := fd :: p.fds } fd iffTunNoPi _
      List.mem_cons_self hrefused
    rw [Prog.bind_of_ok hrun]
    dsimp only
    rw [Prog.bind_of_ok hcopy, Prog.bind_of_ok hset]
    dsimp only
    have hclose : close fd { p with fds := fd :: p.fds } = (.ok (), p) := by
      simp [close]
    rw [Prog.bind_of_ok hclose]
    rfl

/-- **`tun_alloc` when the kernel grants a device**: the descriptor stays open, and `dev` holds
the name of the device. -/
theorem tunAlloc_of_granted {fd : ℕ} {device : DeviceName} (hdev : str dev = some name.bytes)
    (hlength : dev.length = ifnamsiz) (h : kernel.grants p.fds name = some (fd, device)) :
    ∃ dev', tunAlloc kernel dev iffTunNoPi p =
        (.ok (some fd, dev'), ⟨fd :: p.fds, p.output ++ [.openTun device.bytes]⟩) ∧
      str dev' = some device.bytes := by
  obtain ⟨fd', hopen, hrest⟩ := Option.bind_eq_some_iff.mp h
  obtain ⟨device', hgranted, hpair⟩ := Option.bind_eq_some_iff.mp hrest
  cases hpair
  have hrun : openClone kernel p = (.ok (some fd), { p with fds := fd :: p.fds }) := by
    rw [openClone, hopen]
  have hcopy := copyName_of_str hdev hlength { p with fds := fd :: p.fds }
  have hfits : name.bytes.length ≤ ifnamsiz := by
    rw [← hlength]
    exact Nat.le_of_lt (length_lt_of_str hdev)
  obtain ⟨ifrName, hset, hdevice⟩ := @tunSetIff_of_some kernel { p with fds := fd :: p.fds } fd
    iffTunNoPi _ device List.mem_cons_self (length_padded hfits) hgranted
  obtain ⟨dev', hdev'⟩ : ∃ dev', strcpy dev ifrName = some dev' := by
    refine (strcpy_eq_some_iff dev ifrName).mpr ⟨device.bytes, hdevice, ?_⟩
    rw [hlength]
    exact device.length_lt
  refine ⟨dev', ?_, ?_⟩
  · rw [tunAlloc, Prog.bind_of_ok hrun]
    dsimp only
    rw [Prog.bind_of_ok hcopy, Prog.bind_of_ok hset]
    dsimp only
    rw [hdev', printStr, hdevice]
    rfl
  · rw [(str_strcpy hdev').1, hdevice]

end Alloc

/-! ## The loop -/

section Loop

variable {kernel : Kernel} {p : Process} {tunName buffer : Buffer} {device : List UInt8} {fd : ℕ}

/-- The line that round `i` prints. -/
def Kernel.line (kernel : Kernel) (device : List UInt8) (i : ℕ) : Message :=
  .readBytes ((kernel.read i 1500).getD []).length device

/-- A round whose read returns prints how much was read. -/
theorem readRound_of_some (hname : str tunName = some device) (hfd : fd ∈ p.fds)
    (hbuffer : buffer.length = 1500) {i : ℕ} (hread : kernel.read i 1500 ≠ none) :
    ∃ buffer', readRound kernel fd tunName buffer i p =
        (.ok buffer', { p with output := p.output ++ [kernel.line device i] }) ∧
      buffer'.length = 1500 := by
  obtain ⟨data, hdata⟩ := Option.ne_none_iff_exists'.mp hread
  have hfits : data.length ≤ buffer.length := by
    rw [hbuffer]
    exact kernel.read_le i 1500 data hdata
  obtain ⟨buffer', hwrite⟩ : ∃ b, write buffer data = some b := by
    rw [write, if_pos hfits]
    exact ⟨_, rfl⟩
  have hrun : read kernel i fd buffer p = (.ok (some (data.length, buffer')), p) := by
    simp only [read, if_pos hfd, hbuffer, hdata, hwrite]
    rfl
  refine ⟨buffer', ?_, (length_write hwrite).trans hbuffer⟩
  rw [readRound, Prog.bind_of_ok hrun, Kernel.line, hdata]
  dsimp only
  rw [printStr, hname]
  rfl

/-- A round whose read fails closes the descriptor and ends the program. -/
theorem readRound_of_none (hfd : fd ∈ p.fds) (hbuffer : buffer.length = 1500) {i : ℕ}
    (hread : kernel.read i 1500 = none) :
    readRound kernel fd tunName buffer i p =
      (.error (.exit 1), ⟨p.fds.erase fd, p.output ++ [.perror "Reading from interface"]⟩) := by
  have hrun : read kernel i fd buffer p = (.ok none, p) := by
    simp only [read, if_pos hfd, hbuffer, hread]
  have hclose : close fd { p with output := p.output ++ [.perror "Reading from interface"] } =
      (.ok (), ⟨p.fds.erase fd, p.output ++ [.perror "Reading from interface"]⟩) := by
    simp only [close, if_pos hfd]
  rw [readRound, Prog.bind_of_ok hrun]
  dsimp only
  rw [Prog.bind_of_ok (show print (.perror "Reading from interface") p = (.ok (), _) from rfl),
    Prog.bind_of_ok hclose]
  rfl

/-- **Rounds whose reads return**: the program is still in the loop. -/
theorem readLoop_of_some (hname : str tunName = some device) (hfd : fd ∈ p.fds)
    (hbuffer : buffer.length = 1500) {rounds : ℕ}
    (hreads : ∀ i < rounds, kernel.read i 1500 ≠ none) :
    ∃ buffer', (List.range rounds).foldlM (readRound kernel fd tunName) buffer p =
        (.ok buffer', { p with output := p.output ++ (List.range rounds).map (kernel.line device) })
      ∧ buffer'.length = 1500 := by
  induction rounds with
  | zero =>
    refine ⟨buffer, ?_, hbuffer⟩
    rw [List.range_zero, List.map_nil, List.append_nil]
    rfl
  | succ rounds ih =>
    obtain ⟨buffer₁, hloop, hlength⟩ := ih fun i hi => hreads i (by omega)
    obtain ⟨buffer₂, hround, hlength'⟩ := readRound_of_some
      (p := { p with output := p.output ++ (List.range rounds).map (kernel.line device) })
      hname hfd hlength (hreads rounds (by omega))
    refine ⟨buffer₂, ?_, hlength'⟩
    rw [List.range_succ, List.foldlM_append, Prog.bind_of_ok hloop, List.map_append,
      ← List.append_assoc, List.foldlM_cons, Prog.bind_of_ok hround]
    rfl

/-- **A round whose read fails**: the first such round ends the program. -/
theorem readLoop_of_none (hname : str tunName = some device) (hfd : fd ∈ p.fds)
    (hbuffer : buffer.length = 1500) {rounds : ℕ}
    (hreads : ∃ i < rounds, kernel.read i 1500 = none) :
    ∃ output, (List.range rounds).foldlM (readRound kernel fd tunName) buffer p =
      (.error (.exit 1), ⟨p.fds.erase fd, output⟩) := by
  induction rounds with
  | zero =>
    obtain ⟨i, hi, -⟩ := hreads
    omega
  | succ rounds ih =>
    rw [List.range_succ, List.foldlM_append]
    by_cases hearlier : ∃ i < rounds, kernel.read i 1500 = none
    · obtain ⟨output, hloop⟩ := ih hearlier
      exact ⟨output, Prog.bind_of_error hloop⟩
    · obtain ⟨i, hi, hnone⟩ := hreads
      have hsome : ∀ j < rounds, kernel.read j 1500 ≠ none :=
        fun j hj h => hearlier ⟨j, hj, h⟩
      obtain rfl : i = rounds := by
        by_contra hne
        exact hsome i (by omega) hnone
      obtain ⟨buffer₁, hloop, hlength⟩ := readLoop_of_some hname hfd hbuffer hsome
      have hround := @readRound_of_none kernel
        { p with output := p.output ++ (List.range i).map (kernel.line device) } tunName buffer₁ fd
        hfd hlength i hnone
      rw [Prog.bind_of_ok hloop, List.foldlM_cons]
      exact ⟨_, Prog.bind_of_error hround⟩

end Loop

/-! ## The program -/

section Main

variable {kernel : Kernel} {p : Process}

/-- The name fits into `tun_name`. -/
theorem parseArgs_of_lt {name : Bytes} (hname : name.strlen < ifnamsiz) (program : Bytes)
    (p : Process) :
    ∃ tunName, parseArgs (uninitialized ifnamsiz) [program, name] p = (.ok tunName, p) ∧
      str tunName = some name.bytes ∧ tunName.length = ifnamsiz := by
  obtain ⟨tunName, hcopy⟩ : ∃ b, strcpy (uninitialized ifnamsiz) (literal name) = some b := by
    refine (strcpy_eq_some_iff _ _).mpr ⟨name.bytes, str_literal name, ?_⟩
    rw [uninitialized, List.length_replicate]
    exact hname
  obtain ⟨hstr, hlength⟩ := str_strcpy hcopy
  refine ⟨tunName, ?_, hstr.trans (str_literal name), ?_⟩
  · rw [parseArgs, hcopy]
    rfl
  · rw [hlength, uninitialized, List.length_replicate]

/-- A name that does not fit into `tun_name` is copied all the same. -/
theorem parseArgs_of_le {name : Bytes} (hname : ifnamsiz ≤ name.strlen) (program : Bytes)
    (p : Process) :
    parseArgs (uninitialized ifnamsiz) [program, name] p = (.error .undefined, p) := by
  have hnone : strcpy (uninitialized ifnamsiz) (literal name) = none := by
    refine Option.eq_none_iff_forall_ne_some.mpr fun b hb => ?_
    obtain ⟨s, hs, hlt⟩ := (strcpy_eq_some_iff _ _).mp ⟨b, hb⟩
    rw [str_literal] at hs
    cases hs
    rw [uninitialized, List.length_replicate] at hlt
    exact Nat.not_lt.mpr hname hlt
  rw [parseArgs, hnone]
  rfl

/-- Without exactly one argument the program ends before the first system call. -/
theorem main_of_args {argv : List Bytes} (hargs : ∀ program name, argv ≠ [program, name])
    (rounds : ℕ) :
    ∃ output, main kernel argv rounds p = (.error (.exit 1), ⟨p.fds, output⟩) := by
  match argv, hargs with
  | [], _ => exact ⟨_, rfl⟩
  | [_], _ => exact ⟨_, rfl⟩
  | [program, name], hargs => exact absurd rfl (hargs program name)
  | _ :: _ :: _ :: _, _ => exact ⟨_, rfl⟩

/-- When the kernel grants nothing, the program ends. -/
theorem main_of_refused {name : Bytes} (hname : name.strlen < ifnamsiz) (program : Bytes)
    (h : kernel.grants p.fds name = none) (rounds : ℕ) :
    ∃ output, main kernel [program, name] rounds p = (.error (.exit 1), ⟨p.fds, output⟩) := by
  obtain ⟨tunName, hargs, hstr, hlength⟩ := parseArgs_of_lt hname program p
  rw [main, Prog.bind_of_ok hargs, Prog.bind_of_ok (tunAlloc_of_refused hstr hlength h)]
  exact ⟨_, rfl⟩

/-- When the kernel grants a device, the program is in its loop until a read fails. -/
theorem main_of_granted {name : Bytes} (hname : name.strlen < ifnamsiz) (program : Bytes)
    {fd : ℕ} {device : DeviceName} (h : kernel.grants p.fds name = some (fd, device))
    (rounds : ℕ) :
    ((∀ i < rounds, kernel.read i 1500 ≠ none) →
      main kernel [program, name] rounds p = (.ok (), ⟨fd :: p.fds, p.output ++
        .openTun device.bytes :: (List.range rounds).map (kernel.line device.bytes)⟩)) ∧
    ((∃ i < rounds, kernel.read i 1500 = none) →
      ∃ output, main kernel [program, name] rounds p = (.error (.exit 1), ⟨p.fds, output⟩)) := by
  obtain ⟨tunName, hargs, hstr, hlength⟩ := parseArgs_of_lt hname program p
  obtain ⟨dev, halloc, hdevice⟩ := tunAlloc_of_granted hstr hlength h
  have hbuffer : (uninitialized 1500).length = 1500 := List.length_replicate
  have hloop : main kernel [program, name] rounds p =
      ((List.range rounds).foldlM (readRound kernel fd dev) (uninitialized 1500) >>=
        fun _ => pure ()) ⟨fd :: p.fds, p.output ++ [.openTun device.bytes]⟩ := by
    rw [main, Prog.bind_of_ok hargs, Prog.bind_of_ok halloc]
  constructor
  · intro hreads
    obtain ⟨buffer, hrun, -⟩ := readLoop_of_some
      (p := ⟨fd :: p.fds, p.output ++ [.openTun device.bytes]⟩) hdevice List.mem_cons_self
      hbuffer hreads
    rw [hloop, Prog.bind_of_ok hrun, List.append_assoc, List.singleton_append]
    rfl
  · intro hreads
    obtain ⟨output, hrun⟩ := readLoop_of_none
      (p := ⟨fd :: p.fds, p.output ++ [.openTun device.bytes]⟩) hdevice List.mem_cons_self
      hbuffer hreads
    refine ⟨output, ?_⟩
    rw [hloop, Prog.bind_of_error hrun, List.erase_cons_head]

/-- The argument names a device, the kernel grants one, and every read of the first rounds
returns. -/
def Reading (kernel : Kernel) (argv : List Bytes) (fds : List ℕ) (rounds : ℕ) : Prop :=
  ∃ program name granted, argv = [program, name] ∧ kernel.grants fds name = some granted ∧
    ∀ i < rounds, kernel.read i 1500 ≠ none

/-- **The outcomes of the program** for an argument that fits. -/
theorem main_cases (kernel : Kernel) {argv : List Bytes}
    (hargv : ∀ program name, argv = [program, name] → name.strlen < ifnamsiz) (p : Process)
    (rounds : ℕ) :
    (Reading kernel argv p.fds rounds ∧ ∃ fd output, fd ∉ p.fds ∧
        main kernel argv rounds p = (.ok (), ⟨fd :: p.fds, output⟩)) ∨
      (¬ Reading kernel argv p.fds rounds ∧ ∃ output,
        main kernel argv rounds p = (.error (.exit 1), ⟨p.fds, output⟩)) := by
  by_cases hargs : ∃ program name, argv = [program, name]
  · obtain ⟨program, name, rfl⟩ := hargs
    have hname := hargv program name rfl
    cases hgrants : kernel.grants p.fds name with
    | none =>
      right
      refine ⟨?_, main_of_refused hname program hgrants rounds⟩
      rintro ⟨program', name', granted, hsame, hgranted, -⟩
      cases hsame
      rw [hgrants] at hgranted
      cases hgranted
    | some granted =>
      obtain ⟨fd, device⟩ := granted
      obtain ⟨hstays, hends⟩ := main_of_granted hname program hgrants rounds
      by_cases hreads : ∃ i < rounds, kernel.read i 1500 = none
      · right
        refine ⟨?_, hends hreads⟩
        rintro ⟨-, -, -, -, -, hall⟩
        obtain ⟨i, hi, hnone⟩ := hreads
        exact hall i hi hnone
      · left
        have hall : ∀ i < rounds, kernel.read i 1500 ≠ none := fun i hi h => hreads ⟨i, hi, h⟩
        obtain ⟨fd', hopen, hrest⟩ := Option.bind_eq_some_iff.mp hgrants
        obtain ⟨device', -, hpair⟩ := Option.bind_eq_some_iff.mp hrest
        cases hpair
        exact ⟨⟨program, name, _, rfl, hgrants, hall⟩, fd, _, kernel.openClone_new p.fds fd hopen,
          hstays hall⟩
  · right
    refine ⟨?_, main_of_args (fun program name h => hargs ⟨program, name, h⟩) rounds⟩
    rintro ⟨program, name, -, hsame, -, -⟩
    exact hargs ⟨program, name, hsame⟩

/-- **When the program has no undefined behaviour**: whatever the kernel answers and however long
the program runs, iff the one argument, if there is exactly one, is shorter than `IFNAMSIZ`
bytes. No run passes a descriptor that is not open to a system call.

**Proof sketch.** A longer name does not fit into `tun_name`. A shorter one does, so `tun_name`
holds a string; `ifr_name` then holds one with room for the zero byte, the name of a device fits
back into `tun_name`, and `read` is asked for no more than `buffer` holds. -/
theorem main_defined_iff (kernel : Kernel) (argv : List Bytes) (p : Process) :
    ((∀ rounds, (main kernel argv rounds p).1 ≠ .error .undefined) ↔
        ∀ program name, argv = [program, name] → name.strlen < ifnamsiz) ∧
      ∀ rounds, (main kernel argv rounds p).1 ≠ .error .badDescriptor := by
  by_cases hargv : ∀ program name, argv = [program, name] → name.strlen < ifnamsiz
  · have hruns : ∀ rounds, (main kernel argv rounds p).1 = .ok () ∨
        (main kernel argv rounds p).1 = .error (.exit 1) := by
      intro rounds
      rcases main_cases kernel hargv p rounds with ⟨-, fd, output, -, hrun⟩ | ⟨-, output, hrun⟩
      · exact Or.inl (congrArg Prod.fst hrun)
      · exact Or.inr (congrArg Prod.fst hrun)
    refine ⟨iff_of_true (fun rounds => ?_) hargv, fun rounds => ?_⟩
    · rcases hruns rounds with h | h <;> simp [h]
    · rcases hruns rounds with h | h <;> simp [h]
  · obtain ⟨program, name, rfl, hname⟩ : ∃ program name, argv = [program, name] ∧
        ¬ name.strlen < ifnamsiz := by
      by_contra hnone
      exact hargv fun program name hsame => by
        by_contra hname
        exact hnone ⟨program, name, hsame, hname⟩
    have hrun : ∀ rounds, (main kernel [program, name] rounds p).1 = .error .undefined := by
      intro rounds
      rw [main, Prog.bind_of_error (parseArgs_of_le (Nat.not_lt.mp hname) program p)]
    refine ⟨iff_of_false (fun h => h 0 (hrun 0)) hargv, fun rounds => ?_⟩
    rw [hrun rounds]
    simp

/-- **When the program ends**: for an argument that fits it is in its loop after some rounds iff
there is exactly one argument, the kernel has granted a device and every read so far has
returned. Then exactly the descriptor of the device is open besides those from before. Otherwise
it has ended with status 1, never with another one, and has left no descriptor open. -/
theorem main_ends (kernel : Kernel) (argv : List Bytes)
    (hargv : ∀ program name, argv = [program, name] → name.strlen < ifnamsiz) (p : Process)
    (rounds : ℕ) :
    ((main kernel argv rounds p).1 = .ok () ↔ Reading kernel argv p.fds rounds) ∧
      ((main kernel argv rounds p).1 = .ok () →
        ∃ fd, fd ∉ p.fds ∧ (main kernel argv rounds p).2.fds = fd :: p.fds) ∧
      ((main kernel argv rounds p).1 ≠ .ok () →
        (main kernel argv rounds p).1 = .error (.exit 1) ∧
          (main kernel argv rounds p).2.fds = p.fds) := by
  rcases main_cases kernel hargv p rounds with ⟨hreading, fd, output, hnew, hrun⟩ |
    ⟨hnot, output, hrun⟩
  · rw [hrun]
    exact ⟨iff_of_true rfl hreading, fun _ => ⟨fd, hnew, rfl⟩, fun h => absurd rfl h⟩
  · rw [hrun]
    have hne : (Except.error (.exit 1) : Except Stop Unit) ≠ .ok () := by simp
    exact ⟨iff_of_false hne hnot, fun h => absurd h hne, fun _ => ⟨rfl, rfl⟩⟩

end Main

/-- The name `tun0`. -/
def tun0 : DeviceName where
  bytes := [116, 117, 110, 48]
  ne_zero := by simp
  length_lt := by decide

/-- A kernel that opens the device `tun0` as descriptor 3 and has one packet of 84 bytes for it. -/
def onePacket : Kernel where
  openClone := fun fds => if 3 ∈ fds then none else some 3
  tunSetIff := fun _ _ => some tun0
  read := fun i count => if i = 0 then some (List.replicate (min 84 count) 0) else none
  openClone_new := by
    intro fds fd h
    split_ifs at h with hmem
    cases h
    exact hmem
  read_le := by
    intro i count data h
    split_ifs at h
    cases h
    rw [List.length_replicate]
    exact Nat.min_le_right 84 count

/-- The second read fails: after two rounds the program has ended and closed the device. -/
theorem main_ends_onePacket :
    (main onePacket [tun0.toBytes, tun0.toBytes] 2 ⟨[0, 1, 2], []⟩).1 = .error (.exit 1) ∧
      (main onePacket [tun0.toBytes, tun0.toBytes] 2 ⟨[0, 1, 2], []⟩).2.fds = [0, 1, 2] := by
  have hargv : ∀ program name : Bytes, [tun0.toBytes, tun0.toBytes] = [program, name] →
      name.strlen < ifnamsiz := by
    intro program name h
    cases h
    decide
  obtain ⟨hiff, -, hended⟩ := main_ends onePacket _ hargv ⟨[0, 1, 2], []⟩ 2
  refine hended fun h => ?_
  obtain ⟨-, -, -, -, -, hreads⟩ := hiff.mp h
  exact hreads 1 (by decide) rfl

end PythonForFun.Tap
