import Sysm.DiskStats

namespace Sysm
open CString

namespace DiskRow

variable (row : DiskRow)

/-- The number of the device. -/
def device : UInt64 × UInt64 := (row.major, row.minor)

/-- The counters of a row. The row of a partition may have no times. -/
def usage : SysmDiskUsage :=
  let number k := row.numbers.getD k 0
  if row.numbers.length = 4 then
    { SysmDiskUsage.init with
      reads := number 0
      readBytes := 512 * number 1
      writes := number 2
      writeBytes := 512 * number 3 }
  else
    { SysmDiskUsage.init with
      reads := number 0
      readBytes := 512 * number 2
      rtime := number 3
      writes := number 4
      writeBytes := 512 * number 6
      wtime := number 7
      time := number 9
      qtime := number 10 }

variable {row}

theorem isFor_iff {sb : Stat} : row.IsFor sb ↔ row.device = (stMajor sb, stMinor sb) := by
  rw [device, Prod.mk.injEq]
  rfl

theorem takenForDisk_iff {sb : Stat} : row.TakenForDisk sb ↔ row.device = (stMajor sb, 0) := by
  rw [device, Prod.mk.injEq]
  rfl

theorem Good.usage_eq (good : row.Good) (memory : Nat → UInt64) :
    SysmDiskUsage.init.storeNumbers (row.numbers.take 11) memory = row.usage := by
  rw [good.storeNumbers_eq, usage]
  rfl

/-- The bytes read are a multiple of 512, and the placeholder is odd. -/
theorem usage_ne_init : row.usage ≠ .init := by
  intro same
  have multiple (n : UInt64) : 512 * n ≠ -1 := by
    intro minus
    have numbers := congrArg UInt64.toNat minus
    have all : (-1 : UInt64).toNat = 2 ^ 64 - 1 := rfl
    have factor : (512 : UInt64).toNat = 512 := rfl
    rw [UInt64.toNat_mul, all, factor] at numbers
    omega
  have bytes := congrArg SysmDiskUsage.readBytes same
  unfold usage at bytes
  split_ifs at bytes
  · exact multiple _ bytes
  · exact multiple _ bytes

end DiskRow

/-- The table of the kernel: each device has one row, and each row is good. -/
structure IsDiskTable (lines : List Text) : Prop where
  good : ∀ line ∈ lines, (diskRow line).Good
  distinct : (lines.map fun line => (diskRow line).device).Nodup

theorem isDiskTable_of_rows {lines : List Text} {rows : List DiskRow} (parsed : lines.map diskRow = rows)
    (good : ∀ row ∈ rows, row.Good) (distinct : (rows.map DiskRow.device).Nodup) : IsDiskTable lines := by
  subst parsed
  rw [List.map_map] at distinct
  exact ⟨fun line member => good _ (List.mem_map_of_mem member), distinct⟩

/-- With the status `SYSM_OK`, `device_usage` holds the counters of the whole
disk, if its row stands at or before that of the device. -/
def Dstat.HoldsWholeDisk (result : Dstat) (sb : Stat) (whole : UInt64 × UInt64) (lines : List Text) : Prop :=
  result.status = 0 → ∀ (i j : Nat) disk own, lines[i]? = some disk → lines[j]? = some own → (diskRow disk).device = whole →
    (diskRow own).IsFor sb → i ≤ j → result.deviceUsage = (diskRow disk).usage

section Loop

variable {sb : Stat} {memory : List Text → Nat → UInt64} {lines : List Text}

theorem IsDiskTable.unique (table : IsDiskTable lines) {a b : Nat} {first second : Text} (atFirst : lines[a]? = some first)
    (atSecond : lines[b]? = some second) (same : (diskRow first).device = (diskRow second).device) : a = b := by
  have inside : a < (lines.map fun line => (diskRow line).device).length := by
    rw [List.length_map]
    exact (List.getElem?_eq_some_iff.mp atFirst).1
  refine (List.getElem?_inj inside table.distinct).mp ?_
  rw [List.getElem?_map, List.getElem?_map, atFirst, atSecond, Option.map_some, Option.map_some, same]

/-- Rows that are neither of the device nor taken for its disk are passed over. -/
theorem dstatLoop_skip {before : List Text}
    (others : ∀ line ∈ before, ¬(diskRow line).IsFor sb ∧ ¬(diskRow line).TakenForDisk sb) (state : Dstat) (rest : List Text) :
    dstatLoop sb memory state (before ++ rest) = dstatLoop sb memory state rest := by
  induction before with
  | nil => rfl
  | cons line before ih =>
    have here := others line (by simp)
    rw [List.cons_append, dstatLoop_cons, if_neg here.1, if_neg here.2]
    exact ih fun other member => others other (by simp [member])

theorem split_at {j : Nat} {own : Text} (atOwn : lines[j]? = some own) :
    lines = lines.take j ++ own :: lines.drop (j + 1) := by
  obtain ⟨inside, rfl⟩ := List.getElem?_eq_some_iff.mp atOwn
  rw [← List.drop_eq_getElem_cons inside, List.take_append_drop]

theorem exists_of_mem_take {j : Nat} {line : Text} (member : line ∈ lines.take j) : ∃ a < j, lines[a]? = some line := by
  obtain ⟨a, atLine⟩ := List.mem_iff_getElem?.mp member
  have inside := (List.getElem?_eq_some_iff.mp atLine).1
  rw [List.length_take] at inside
  exact ⟨a, by omega, by rwa [List.getElem?_take_of_lt (by omega)] at atLine⟩

/-- What the scan leaves in `device_usage` for a device with a row. -/
theorem dstatLoop_deviceUsage (table : IsDiskTable lines) {j : Nat} {own : Text} (atOwn : lines[j]? = some own)
    (device : (diskRow own).IsFor sb) :
    let result := dstatLoop sb memory ⟨ENOENT, .init, .init⟩ lines
    result.status = 0 ∧
      ((∃ k zero, k < j ∧ lines[k]? = some zero ∧ (diskRow zero).TakenForDisk sb ∧
          result.deviceUsage = (diskRow zero).usage) ∨
        (∀ k zero, k < j → lines[k]? = some zero → ¬(diskRow zero).TakenForDisk sb) ∧ result.deviceUsage = .init) := by
  have notBefore : ∀ line ∈ lines.take j, ¬(diskRow line).IsFor sb := by
    intro line member isFor
    obtain ⟨a, before, atLine⟩ := exists_of_mem_take member
    have same := table.unique atLine atOwn ((DiskRow.isFor_iff.mp isFor).trans (DiskRow.isFor_iff.mp device).symm)
    omega
  have split := split_at atOwn
  cases first : (lines.take j).find? fun line => decide ((diskRow line).TakenForDisk sb) with
  | none =>
    have absent : ∀ line ∈ lines.take j, ¬(diskRow line).TakenForDisk sb := by
      intro line member
      simpa using List.find?_eq_none.mp first line member
    have ends : dstatLoop sb memory ⟨ENOENT, .init, .init⟩ lines =
        Dstat.finish ⟨ENOENT, .init, .init⟩ (diskRow own) (memory (own :: lines.drop (j + 1))) := by
      conv_lhs => rw [split]
      rw [dstatLoop_skip fun line member => ⟨notBefore line member, absent line member⟩, dstatLoop_cons, if_pos device]
    rw [ends]
    refine ⟨rfl, Or.inr ⟨fun k zero before atZero => ?_, rfl⟩⟩
    exact absent zero (List.mem_of_getElem? (by rwa [List.getElem?_take_of_lt before]))
  | some zero =>
    obtain ⟨takenBool, before, between, parts, absent⟩ := List.find?_eq_some_iff_append.mp first
    have taken : (diskRow zero).TakenForDisk sb := by simpa using takenBool
    have here : zero ∈ lines.take j := by simp [parts]
    obtain ⟨k, earlier, atZero⟩ := exists_of_mem_take here
    have good := table.good zero (List.mem_of_getElem? atZero)
    have once : ∀ line ∈ between, ¬(diskRow line).TakenForDisk sb := by
      intro line member takenToo
      have distinct := table.distinct
      rw [split, parts, List.append_assoc, List.map_append, List.nodup_append] at distinct
      have apart := (List.nodup_cons.mp distinct.2.1).1
      have same := (DiskRow.takenForDisk_iff.mp takenToo).trans (DiskRow.takenForDisk_iff.mp taken).symm
      exact apart (List.mem_map.mpr ⟨line, List.mem_append_left _ member, same⟩)
    have skipFirst : ∀ line ∈ before, ¬(diskRow line).IsFor sb ∧ ¬(diskRow line).TakenForDisk sb := by
      intro line member
      exact ⟨notBefore line (by simp [parts, member]), by simpa using absent line member⟩
    have skipSecond : ∀ line ∈ between, ¬(diskRow line).IsFor sb ∧ ¬(diskRow line).TakenForDisk sb := by
      intro line member
      exact ⟨notBefore line (by simp [parts, member]), once line member⟩
    have ends : dstatLoop sb memory ⟨ENOENT, .init, .init⟩ lines =
        Dstat.finish (Dstat.keepDisk ⟨ENOENT, .init, .init⟩ (diskRow zero)
          (memory (zero :: (between ++ own :: lines.drop (j + 1))))) (diskRow own) (memory (own :: lines.drop (j + 1))) := by
      conv_lhs => rw [split, parts, List.append_assoc]
      rw [dstatLoop_skip skipFirst, List.cons_append, dstatLoop_cons, if_neg (notBefore zero here), if_pos taken,
        dstatLoop_skip skipSecond, dstatLoop_cons, if_pos device]
    rw [ends]
    exact ⟨rfl, Or.inl ⟨k, zero, earlier, atZero, taken, good.usage_eq _⟩⟩

/-- The scan serves a device exactly if a row before its own is taken for that
of a disk, and has the counters of the whole disk. -/
theorem dstatLoop_holdsWholeDisk_iff (table : IsDiskTable lines) (whole : UInt64 × UInt64) :
    (dstatLoop sb memory ⟨ENOENT, .init, .init⟩ lines).HoldsWholeDisk sb whole lines ↔
      ∀ (i j : Nat) disk own, lines[i]? = some disk → lines[j]? = some own → (diskRow disk).device = whole →
        (diskRow own).IsFor sb → i ≤ j → ∃ k zero, k < j ∧ lines[k]? = some zero ∧ (diskRow zero).TakenForDisk sb ∧
          (diskRow zero).usage = (diskRow disk).usage := by
  constructor
  · intro holds i j disk own atDisk atOwn isWhole device order
    obtain ⟨ok, left⟩ := @dstatLoop_deviceUsage sb memory lines table j own atOwn device
    have same := holds ok i j disk own atDisk atOwn isWhole device order
    rcases left with ⟨k, zero, earlier, atZero, taken, stored⟩ | ⟨_, nothing⟩
    · exact ⟨k, zero, earlier, atZero, taken, stored.symm.trans same⟩
    · exact absurd (same.symm.trans nothing) DiskRow.usage_ne_init
  · intro served _ i j disk own atDisk atOwn isWhole device order
    obtain ⟨k, zero, earlier, atZero, taken, counters⟩ := served i j disk own atDisk atOwn isWhole device order
    obtain ⟨_, left⟩ := @dstatLoop_deviceUsage sb memory lines table j own atOwn device
    rcases left with ⟨k', zero', _, atZero', taken', stored⟩ | ⟨absent, _⟩
    · have sameRow := table.unique atZero atZero'
        ((DiskRow.takenForDisk_iff.mp taken).trans (DiskRow.takenForDisk_iff.mp taken').symm)
      subst sameRow
      cases Option.some.inj (atZero.symm.trans atZero')
      rw [stored, counters]
    · exact absurd taken (absent k zero earlier atZero)

/-- A partition is served by the first disk of its major number, if it is on
that disk. -/
theorem holdsWholeDisk_firstDisk (table : IsDiskTable lines) (partition : stMinor sb ≠ 0) :
    (dstatLoop sb memory ⟨ENOENT, .init, .init⟩ lines).HoldsWholeDisk sb (stMajor sb, 0) lines := by
  refine (dstatLoop_holdsWholeDisk_iff table _).mpr ?_
  intro i j disk own atDisk atOwn isWhole device order
  have taken := DiskRow.takenForDisk_iff.mpr isWhole
  have apart : i ≠ j := by
    rintro rfl
    cases Option.some.inj (atDisk.symm.trans atOwn)
    exact partition (device.2.symm.trans taken.2)
  exact ⟨i, disk, by omega, atDisk, taken, rfl⟩

/-- A device that is a whole disk itself is never served. -/
theorem not_holdsWholeDisk_self (table : IsDiskTable lines) {j : Nat} {own : Text} (atOwn : lines[j]? = some own)
    (device : (diskRow own).IsFor sb) (alone : ∀ k zero, k < j → lines[k]? = some zero → ¬(diskRow zero).TakenForDisk sb) :
    ¬(dstatLoop sb memory ⟨ENOENT, .init, .init⟩ lines).HoldsWholeDisk sb (stMajor sb, stMinor sb) lines := by
  intro holds
  obtain ⟨k, zero, earlier, atZero, taken, _⟩ := (dstatLoop_holdsWholeDisk_iff table _).mp holds j j own own atOwn atOwn
    (DiskRow.isFor_iff.mp device) device (Nat.le_refl j)
  exact alone k zero earlier atZero taken

end Loop

section Get

variable {sysm sysm' : SysmT} {disks : Disks} {created : UInt64} {clock : Clock} {files : DstatFiles} {dirname : Text}
  {entry : Nat} {iodev : SysmIodev} {sb : Stat} {text : List UInt8}

theorem getIostatProcDstat_holdsWholeDisk_iff
    (found : sysmIodevGet sysm disks created clock dirname = some (some (entry, iodev), sysm'))
    (device : disks.stat iodev.name = some sb) (opened : files.diskstats = .ok text)
    (table : IsDiskTable (fgetsAll 1025 text)) (memory : List Text → Nat → UInt64) (whole : UInt64 × UInt64) :
    (∃ result, getIostatProcDstat sysm disks created clock files memory dirname .init =
      some ((result, some (entry, iodev)), sysm') ∧ result.HoldsWholeDisk sb whole (fgetsAll 1025 text)) ↔
      ∀ (i j : Nat) disk own, (fgetsAll 1025 text)[i]? = some disk → (fgetsAll 1025 text)[j]? = some own →
        (diskRow disk).device = whole → (diskRow own).IsFor sb → i ≤ j →
          ∃ k zero, k < j ∧ (fgetsAll 1025 text)[k]? = some zero ∧ (diskRow zero).TakenForDisk sb ∧
            (diskRow zero).usage = (diskRow disk).usage := by
  have served := @dstatLoop_holdsWholeDisk_iff sb memory _ table whole
  rw [getIostatProcDstat_eq found device opened, ← served]
  simp

end Get

theorem getIostatProcDstat_holdsWholeDisk_iff_twoRows : ∃ entry iodev sysm',
    (∃ result, getIostatProcDstat openedSysm rootDisks 0 (fun _ => 0) ⟨.ok twoRows, 2, by decide⟩ (fun _ _ => 7)
      (ofString "/dev/sda1") .init = some ((result, some (entry, iodev)), sysm') ∧
        result.HoldsWholeDisk ⟨true, 0x801, 300, 5⟩ (8, 0) (fgetsAll 1025 twoRows)) ↔
      ∀ (i j : Nat) disk own, (fgetsAll 1025 twoRows)[i]? = some disk → (fgetsAll 1025 twoRows)[j]? = some own →
        (diskRow disk).device = (8, 0) → (diskRow own).IsFor ⟨true, 0x801, 300, 5⟩ → i ≤ j →
          ∃ k zero, k < j ∧ (fgetsAll 1025 twoRows)[k]? = some zero ∧ (diskRow zero).TakenForDisk ⟨true, 0x801, 300, 5⟩ ∧
            (diskRow zero).usage = (diskRow disk).usage := by
  obtain ⟨entry, iodev, sysm', run, device⟩ := sysmIodevGet_sda1
  have rows : (fgetsAll 1025 twoRows).map diskRow =
      [⟨8, 0, [1, 2, 3, 4, 5, 6, 7, 8, 0, 9, 10]⟩, ⟨8, 1, [1, 2, 3, 4, 5, 6, 7, 8, 0, 9, 10, 0, 0, 0]⟩] := by decide +kernel
  have table := isDiskTable_of_rows rows (by decide) (by decide)
  exact ⟨entry, iodev, sysm', getIostatProcDstat_holdsWholeDisk_iff run device rfl table (fun _ _ => 7) (8, 0)⟩

/-- A machine with two disks of one major number. -/
def twoDisks : Disks where
  stat path := if path = ofString "/dev/sdb1" then some ⟨true, 0x811, 310, 5⟩ else none
  fileSystems := .ok []

def twoDisksText : List UInt8 :=
  ofString "   8       0 sda 1 0 8 1 1 0 8 1 0 2 2\n   8      16 sdb 101 0 808 9 101 0 808 9 0 18 18\n   8      17 sdb1 100 0 800 8 100 0 800 8 0 16 16\n"

theorem diskRow_twoDisks : (fgetsAll 1025 twoDisksText).map diskRow =
    [⟨8, 0, [1, 0, 8, 1, 1, 0, 8, 1, 0, 2, 2]⟩, ⟨8, 16, [101, 0, 808, 9, 101, 0, 808, 9, 0, 18, 18]⟩,
      ⟨8, 17, [100, 0, 800, 8, 100, 0, 800, 8, 0, 16, 16]⟩] := by
  decide +kernel

/-- The partition of the second disk is served with the counters of the first. -/
theorem getIostatProcDstat_otherDisk : IsDiskTable (fgetsAll 1025 twoDisksText) ∧
    ((fgetsAll 1025 twoDisksText).map fun line => ((diskRow line).device, (diskRow line).usage.reads)) =
      [((8, 0), 1), ((8, 16), 101), ((8, 17), 100)] ∧
    (getIostatProcDstat openedSysm twoDisks 0 (fun _ => 0) ⟨.ok twoDisksText, 2, by decide⟩ (fun _ _ => 7)
      (ofString "/dev/sdb1") .init).map (fun result => (result.1.1.status, result.1.1.deviceUsage.reads)) = some (0, 1) := by
  refine ⟨isDiskTable_of_rows diskRow_twoDisks (by decide) (by decide), ?_, by decide +kernel⟩
  have reads := congrArg (List.map fun row : DiskRow => (row.device, row.usage.reads)) diskRow_twoDisks
  rw [List.map_map] at reads
  exact reads

end Sysm
