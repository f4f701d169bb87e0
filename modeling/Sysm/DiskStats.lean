import Sysm.IodevRuns
import Sysm.Lib.Scanf

namespace Sysm
open CString

/-- `ENXIO` -/
def ENXIO : Int := 6

/-- What `errno` holds behind a call that has failed. -/
abbrev Errno := { errno : Int // errno ≠ 0 }

/-- `ST_MAJOR` -/
def stMajor (sb : Stat) : UInt64 := ((sb.rdev >>> 8) &&& (0xfff : UInt64)) ||| ((sb.rdev >>> 32) &&& (0xfffff000 : UInt64))

/-- `ST_MINOR` -/
def stMinor (sb : Stat) : UInt64 := (sb.rdev &&& (0xff : UInt64)) ||| ((sb.rdev >>> 12) &&& (0xffffff00 : UInt64))

/-- `SYSM_DISK_STATS_INIT` -/
def SysmDiskUsage.init : SysmDiskUsage where
  reads := -1
  writes := -1
  writeBytes := -1
  readBytes := -1
  rtime := -1
  wtime := -1
  qtime := -1
  time := -1
  snaptime := 0
  serviceTime := -1
  util := -1

/-- What the body of the loop of `get_iostat_proc_dstat` stores when `sscanf`
has brought these numbers. A variable without one holds what is in the memory. -/
def SysmDiskUsage.storeNumbers (disk : SysmDiskUsage) (numbers : List UInt64) (memory : Nat → UInt64) : SysmDiskUsage :=
  let stored k := numbers.getD k (memory k)
  let disk :=
    if numbers.length = 11 then { disk with rtime := stored 3, wtime := stored 7, time := stored 9, qtime := stored 10 }
    else if numbers.length = 4 then { disk with time := -1, qtime := -1 }
    else disk
  let (rsect, wio, wsect) :=
    if numbers.length = 4 then (stored 1, stored 2, stored 3) else (stored 2, stored 4, stored 6)
  { disk with reads := stored 0, writes := wio, readBytes := rsect * 512, writeBytes := wsect * 512 }

/-- The status, `disk` and `device_usage`. -/
structure Dstat where
  status : Int
  disk : SysmDiskUsage
  deviceUsage : SysmDiskUsage
deriving Repr, DecidableEq

/-- The loop of `get_iostat_proc_dstat` over the lines of `/proc/diskstats`.
What is in the memory may differ from line to line. -/
def dstatLoop (sb : Stat) (memory : List Text → Nat → UInt64) : Dstat → List Text → Dstat
  | state, [] => state
  | state, line :: lines =>
    let (major, ptr) := strtoul 10 line
    let (minor, ptr) := strtoul 10 ptr
    if major = stMajor sb ∧ (minor = stMinor sb ∨ minor = 0) then
      let numbers := scanUnsigned 11 (sysmSkipToken ptr)
      let status := if numbers.length = 11 ∨ numbers.length = 4 then state.status else ENOENT
      let disk := state.disk.storeNumbers numbers (memory (line :: lines))
      if minor = stMinor sb then { state with status := 0, disk }
      else if minor = 0 then dstatLoop sb memory { status, disk, deviceUsage := disk } lines
      else dstatLoop sb memory { state with status, disk } lines
    else dstatLoop sb memory state lines

/-- `/proc/diskstats`, and `errno` where opening it or `stat` fails. -/
structure DstatFiles where
  diskstats : Except Errno (List UInt8)
  statErrno : Errno

section Get

variable (sysm : SysmT) (disks : Disks) (created : UInt64) (clock : Clock) (files : DstatFiles)
  (memory : List Text → Nat → UInt64)

/-- `get_iostat_proc_dstat`, with the `iodev` that is found and its entry. -/
def getIostatProcDstat (dirname : Text) (disk : SysmDiskUsage) :
    Option ((Dstat × Option (Nat × SysmIodev)) × SysmT) := do
  let (found, sysm) ← sysmIodevGet sysm disks created clock dirname
  let result := match found with
    | none => ⟨ ENXIO, disk, .init⟩
    | some (_, iodev) =>
      match disks.stat iodev.name with
      | none => ⟨files.statErrno, disk, .init⟩
      | some sb =>
        match files.diskstats with
        | .error errno => ⟨errno, disk, .init⟩
        | .ok text => dstatLoop sb memory ⟨ENOENT, disk, .init⟩ (fgetsAll 1025 text)
  return ((result, found), sysm)

end Get

/-- A row of `/proc/diskstats`: the device and the numbers behind its name. -/
structure DiskRow where
  major : UInt64
  minor : UInt64
  numbers : List UInt64
deriving Repr, DecidableEq

def diskRow (line : Text) : DiskRow :=
  let (major, ptr) := strtoul 10 line
  let (minor, ptr) := strtoul 10 ptr
  ⟨major, minor, numbersOf (sysmSkipToken ptr)⟩

/-- Completed reads and writes, and the bytes read and written. -/
structure DiskCounters where
  reads : UInt64
  writes : UInt64
  readBytes : UInt64
  writeBytes : UInt64
deriving Repr, DecidableEq

def SysmDiskUsage.counters (disk : SysmDiskUsage) : DiskCounters :=
  ⟨disk.reads, disk.writes, disk.readBytes, disk.writeBytes⟩

namespace DiskRow

variable (row : DiskRow)

/-- The row is that of the device. -/
def IsFor (sb : Stat) : Prop := row.major = stMajor sb ∧ row.minor = stMinor sb

instance (sb : Stat) : Decidable (row.IsFor sb) := inferInstanceAs (Decidable (_ ∧ _))

/-- Eleven numbers or more, or the four of a partition. -/
def Good : Prop := 11 ≤ row.numbers.length ∨ row.numbers.length = 4

instance : Decidable row.Good := inferInstanceAs (Decidable (_ ∨ _))

/-- A partition has had reads, sectors read, writes and sectors written only. -/
def counters : DiskCounters :=
  let number k := row.numbers.getD k 0
  if row.numbers.length = 4 then ⟨number 0, number 2, 512 * number 1, 512 * number 3⟩
  else ⟨number 0, number 4, 512 * number 2, 512 * number 6⟩

/-- The loop takes the row for that of the whole disk. -/
def TakenForDisk (sb : Stat) : Prop := row.major = stMajor sb ∧ row.minor = 0

instance (sb : Stat) : Decidable (row.TakenForDisk sb) := inferInstanceAs (Decidable (_ ∧ _))

variable {row}

/-- What is stored for a good row. -/
theorem Good.storeNumbers_eq (good : row.Good) (disk : SysmDiskUsage) (memory : Nat → UInt64) :
    disk.storeNumbers (row.numbers.take 11) memory =
      let number k := row.numbers.getD k 0
      if row.numbers.length = 4 then
        { disk with
          time := -1
          qtime := -1
          reads := number 0
          readBytes := 512 * number 1
          writes := number 2
          writeBytes := 512 * number 3 }
      else
        { disk with
          reads := number 0
          readBytes := 512 * number 2
          rtime := number 3
          writes := number 4
          writeBytes := 512 * number 6
          wtime := number 7
          time := number 9
          qtime := number 10 } := by
  have inRow (k : Nat) (inside : k < row.numbers.length) (few : k < 11) :
      (row.numbers.take 11).getD k (memory k) = row.numbers.getD k 0 := by
    rw [List.getD_eq_getElem?_getD, List.getD_eq_getElem?_getD, List.getElem?_take_of_lt few,
      List.getElem?_eq_getElem inside, Option.getD_some, Option.getD_some]
  rcases good with long | four
  · have eleven : (row.numbers.take 11).length = 11 := by rw [List.length_take]; omega
    have notFour : ¬row.numbers.length = 4 := by omega
    simp (disch := omega) only [SysmDiskUsage.storeNumbers, eleven, notFour, inRow, UInt64.mul_comm, if_true, if_false,
      Nat.reduceEqDiff]
  · have still : (row.numbers.take 11).length = 4 := by rw [List.length_take]; omega
    simp (disch := omega) only [SysmDiskUsage.storeNumbers, still, four, inRow, UInt64.mul_comm, if_true, if_false,
      Nat.reduceEqDiff]

theorem Good.counters_eq (good : row.Good) (disk : SysmDiskUsage) (memory : Nat → UInt64) :
    (disk.storeNumbers (row.numbers.take 11) memory).counters = row.counters := by
  rw [good.storeNumbers_eq]
  simp only [SysmDiskUsage.counters, DiskRow.counters]
  split_ifs <;> rfl

end DiskRow

/-- What the loop keeps of a row it takes for that of the whole disk. -/
def Dstat.keepDisk (state : Dstat) (row : DiskRow) (memory : Nat → UInt64) : Dstat where
  status := if row.Good then state.status else ENOENT
  disk := state.disk.storeNumbers (row.numbers.take 11) memory
  deviceUsage := state.disk.storeNumbers (row.numbers.take 11) memory

/-- What the loop ends with at the row of the device. -/
def Dstat.finish (state : Dstat) (row : DiskRow) (memory : Nat → UInt64) : Dstat :=
  { state with status := 0, disk := state.disk.storeNumbers (row.numbers.take 11) memory }

section Loop

variable {sb : Stat} {memory : List Text → Nat → UInt64} {line : Text}

/-- One step of the loop. -/
theorem dstatLoop_cons (state : Dstat) (line : Text) (lines : List Text) :
    dstatLoop sb memory state (line :: lines) =
      if (diskRow line).IsFor sb then state.finish (diskRow line) (memory (line :: lines))
      else if (diskRow line).TakenForDisk sb then
        dstatLoop sb memory (state.keepDisk (diskRow line) (memory (line :: lines))) lines
      else dstatLoop sb memory state lines := by
  have good (numbers : List UInt64) : (numbers.take 11).length = 11 ∨ (numbers.take 11).length = 4 ↔
      11 ≤ numbers.length ∨ numbers.length = 4 := by
    rw [List.length_take]
    omega
  have body : dstatLoop sb memory state (line :: lines) =
      if (diskRow line).major = stMajor sb ∧ ((diskRow line).minor = stMinor sb ∨ (diskRow line).minor = 0) then
        if (diskRow line).minor = stMinor sb then state.finish (diskRow line) (memory (line :: lines))
        else if (diskRow line).minor = 0 then
          dstatLoop sb memory (state.keepDisk (diskRow line) (memory (line :: lines))) lines
        else
          let kept := state.keepDisk (diskRow line) (memory (line :: lines))
          dstatLoop sb memory { kept with deviceUsage := state.deviceUsage } lines
      else dstatLoop sb memory state lines := by
    simp only [dstatLoop, scanUnsigned_eq_take, good, diskRow, Dstat.finish, Dstat.keepDisk, DiskRow.Good]
    rfl
  rw [body]
  by_cases major : (diskRow line).major = stMajor sb
  · by_cases here : (diskRow line).minor = stMinor sb
    · simp [DiskRow.IsFor, major, here]
    · by_cases zero : (diskRow line).minor = 0
      · simp [DiskRow.IsFor, DiskRow.TakenForDisk, major, zero]
      · simp [DiskRow.IsFor, DiskRow.TakenForDisk, major, here, zero]
  · simp [DiskRow.IsFor, DiskRow.TakenForDisk, major]

theorem keepDisk_status {state : Dstat} (start : state.status = ENOENT) (row : DiskRow) (memory : Nat → UInt64) :
    (state.keepDisk row memory).status = ENOENT := by
  unfold Dstat.keepDisk
  split_ifs
  · exact start
  · rfl

end Loop

theorem counters_storeNumbers (disk disk' : SysmDiskUsage) (numbers : List UInt64) (memory : Nat → UInt64) :
    (disk.storeNumbers numbers memory).counters = (disk'.storeNumbers numbers memory).counters := by
  unfold SysmDiskUsage.storeNumbers SysmDiskUsage.counters
  split_ifs <;> rfl

/-- The status is `SYSM_OK` for the devices with a good row, whose counters are
in `disk` then. -/
structure Dstat.Answers (result : Dstat) (sb : Stat) (lines : List Text) : Prop where
  found : result.status = 0 ↔ ∃ line ∈ lines, (diskRow line).IsFor sb ∧ (diskRow line).Good
  counters : result.status = 0 →
    ∃ line ∈ lines, (diskRow line).IsFor sb ∧ (diskRow line).Good ∧ result.disk.counters = (diskRow line).counters

/-- The first row of the device is good, or a good one behind it has what the
variables hold when `sscanf` has failed. -/
def FirstRowServes (sb : Stat) (memory : List Text → Nat → UInt64) : List Text → Prop
  | [] => True
  | line :: lines =>
    if (diskRow line).IsFor sb then
      (diskRow line).Good ∨ ∃ later ∈ lines, (diskRow later).IsFor sb ∧ (diskRow later).Good ∧
        (SysmDiskUsage.init.storeNumbers ((diskRow line).numbers.take 11) (memory (line :: lines))).counters =
          (diskRow later).counters
    else FirstRowServes sb memory lines

section Answers

variable {sb : Stat} {memory : List Text → Nat → UInt64} {line : Text} {lines : List Text}

/-- The rows of other devices do not matter. -/
theorem answers_cons_other (other : ¬(diskRow line).IsFor sb) (result : Dstat) :
    result.Answers sb (line :: lines) ↔ result.Answers sb lines := by
  have same (p : Text → Prop) : (∃ found ∈ line :: lines, (diskRow found).IsFor sb ∧ p found) ↔
      ∃ found ∈ lines, (diskRow found).IsFor sb ∧ p found := by
    simp [other]
  constructor
  · rintro ⟨found, counters⟩
    exact ⟨found.trans (same _), fun ok => (same _).mp (counters ok)⟩
  · rintro ⟨found, counters⟩
    exact ⟨found.trans (same _).symm, fun ok => (same _).mpr (counters ok)⟩

/-- At the first row of the device all is decided. -/
theorem finish_answers_iff (device : (diskRow line).IsFor sb) (state : Dstat) (memory : Nat → UInt64) :
    (state.finish (diskRow line) memory).Answers sb (line :: lines) ↔
      (diskRow line).Good ∨ ∃ later ∈ lines, (diskRow later).IsFor sb ∧ (diskRow later).Good ∧
        (SysmDiskUsage.init.storeNumbers ((diskRow line).numbers.take 11) memory).counters = (diskRow later).counters := by
  have stored := counters_storeNumbers state.disk .init ((diskRow line).numbers.take 11) memory
  constructor
  · intro answers
    obtain ⟨found, member, isFor, good, counters⟩ := answers.counters rfl
    rcases List.mem_cons.mp member with here | behind
    · subst here
      exact Or.inl good
    · exact Or.inr ⟨found, behind, isFor, good, stored.symm.trans counters⟩
  · intro serves
    have found : ∃ found ∈ line :: lines, (diskRow found).IsFor sb ∧ (diskRow found).Good ∧
        (state.finish (diskRow line) memory).disk.counters = (diskRow found).counters := by
      rcases serves with good | ⟨later, behind, isFor, good, counters⟩
      · exact ⟨line, by simp, device, good, good.counters_eq state.disk memory⟩
      · exact ⟨later, by simp [behind], isFor, good, stored.trans counters⟩
    refine ⟨⟨fun _ => ?_, fun _ => rfl⟩, fun _ => found⟩
    obtain ⟨row, member, isFor, good, _⟩ := found
    exact ⟨row, member, isFor, good⟩

theorem dstatLoop_answers_iff {state : Dstat} (start : state.status = ENOENT) (lines : List Text) :
    (dstatLoop sb memory state lines).Answers sb lines ↔ FirstRowServes sb memory lines := by
  induction lines generalizing state with
  | nil =>
    have failed : state.status ≠ 0 := by
      rw [start]
      decide
    have answers : state.Answers sb [] := ⟨by simp [failed], fun ok => absurd ok failed⟩
    simpa [dstatLoop, FirstRowServes] using answers
  | cons line lines ih =>
    rw [dstatLoop_cons, FirstRowServes]
    by_cases device : (diskRow line).IsFor sb
    · rw [if_pos device, if_pos device, finish_answers_iff device]
    · rw [if_neg device, if_neg device, answers_cons_other device]
      split_ifs
      · exact ih (keepDisk_status start _ _)
      · exact ih start

end Answers

section Get

variable {sysm sysm' : SysmT} {disks : Disks} {created : UInt64} {clock : Clock} {files : DstatFiles} {dirname : Text}
  {entry : Nat} {iodev : SysmIodev} {sb : Stat} {text : List UInt8}

/-- With a device and a file, the answer is that of the loop. -/
theorem getIostatProcDstat_eq (found : sysmIodevGet sysm disks created clock dirname = some (some (entry, iodev), sysm'))
    (device : disks.stat iodev.name = some sb) (opened : files.diskstats = .ok text)
    (memory : List Text → Nat → UInt64) (disk : SysmDiskUsage) :
    getIostatProcDstat sysm disks created clock files memory dirname disk =
      some ((dstatLoop sb memory ⟨ENOENT, disk, .init⟩ (fgetsAll 1025 text), some (entry, iodev)), sysm') := by
  simp [getIostatProcDstat, found, device, opened]

/-- The answer about a device is right exactly if its first row is good, or
by chance. -/
theorem getIostatProcDstat_iff (found : sysmIodevGet sysm disks created clock dirname = some (some (entry, iodev), sysm'))
    (device : disks.stat iodev.name = some sb) (opened : files.diskstats = .ok text)
    (memory : List Text → Nat → UInt64) (disk : SysmDiskUsage) :
    (∃ result, getIostatProcDstat sysm disks created clock files memory dirname disk =
      some ((result, some (entry, iodev)), sysm') ∧ result.Answers sb (fgetsAll 1025 text)) ↔
      FirstRowServes sb memory (fgetsAll 1025 text) := by
  have answers := @dstatLoop_answers_iff sb memory ⟨ENOENT, disk, .init⟩ rfl (fgetsAll 1025 text)
  rw [getIostatProcDstat_eq found device opened, ← answers]
  simp

end Get

/-- The numbers of a row, each after a blank. -/
def printedNumbers (numbers : List UInt64) : Text := numbers.flatMap fun number => 32 :: decimal number.toNat

theorem printedNumbers_stops (numbers : List UInt64) :
    Stops (fun c => digitVal c < 10) (printedNumbers numbers ++ [10]) ∧
      Stops (fun c => !isSpace c) (printedNumbers numbers ++ [10]) := by
  cases numbers with
  | nil => simp [printedNumbers, digitVal, isDigit, isUpper, isLower, isSpace]
  | cons number numbers => simp [printedNumbers, digitVal, isDigit, isUpper, isLower, isSpace]

/-- A row for the first partition that ends early. -/
def shortRow : DstatFiles := ⟨.ok (ofString "   8       1 sda1 5 6 7\n"), 2, by decide⟩

/-- `SYSM_OK`, and what is in the memory for the number of writes. -/
theorem getIostatProcDstat_shortRow :
    (getIostatProcDstat openedSysm rootDisks 0 (fun _ => 0) shortRow (fun _ _ => 7) (ofString "/dev/sda1") .init).map
      (fun result => (result.1.1.status, result.1.1.disk.writes)) = some (0, 7) ∧
    ∀ line ∈ fgetsAll 1025 (ofString "   8       1 sda1 5 6 7\n"), ¬(diskRow line).Good := by
  decide +kernel

/-- Rows of a disk and of its partition. -/
def twoRows : List UInt8 :=
  ofString "   8       0 sda 1 2 3 4 5 6 7 8 0 9 10\n   8       1 sda1 1 2 3 4 5 6 7 8 0 9 10 0 0 0\n"

/-- The first partition is found by the name of its node. -/
theorem sysmIodevGet_sda1 : ∃ entry iodev sysm',
    sysmIodevGet openedSysm rootDisks 0 (fun _ => 0) (ofString "/dev/sda1") = some (some (entry, iodev), sysm') ∧
      rootDisks.stat iodev.name = some ⟨true, 0x801, 300, 5⟩ := by
  have named : (sysmIodevGet openedSysm rootDisks 0 (fun _ => 0) (ofString "/dev/sda1")).bind (fun result =>
      result.1.bind fun found => rootDisks.stat found.2.name) = some ⟨true, 0x801, 300, 5⟩ := by decide +kernel
  obtain ⟨⟨found, sysm'⟩, run, named⟩ := Option.bind_eq_some_iff.mp named
  obtain ⟨⟨entry, iodev⟩, rfl, device⟩ := Option.bind_eq_some_iff.mp named
  exact ⟨entry, iodev, sysm', run, device⟩

theorem getIostatProcDstat_iff_twoRows : ∃ entry iodev sysm',
    (∃ result, getIostatProcDstat openedSysm rootDisks 0 (fun _ => 0) ⟨.ok twoRows, 2, by decide⟩ (fun _ _ => 7)
      (ofString "/dev/sda1") .init = some ((result, some (entry, iodev)), sysm') ∧
        result.Answers ⟨true, 0x801, 300, 5⟩ (fgetsAll 1025 twoRows)) ↔
      FirstRowServes ⟨true, 0x801, 300, 5⟩ (fun _ _ => 7) (fgetsAll 1025 twoRows) := by
  obtain ⟨entry, iodev, sysm', run, device⟩ := sysmIodevGet_sda1
  exact ⟨entry, iodev, sysm', getIostatProcDstat_iff run device rfl (fun _ _ => 7) .init⟩

end Sysm
