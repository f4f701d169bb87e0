import Mathlib.Algebra.Order.Field.Rat
import Mathlib.Tactic.Positivity
import Sysm.IostatSys

namespace Sysm
open CString

/-- `HZ` -/
def HZ : Nat := 100

/-- The member `iostat` of `sysm_t`, as `sysm_os_open` sets it. -/
inductive Iostat where
  | none
  | partitions
  | diskstats
  | sys
deriving Repr, DecidableEq

/-- What `get_iostat_procp` takes from the row of the device. -/
def SysmDiskUsage.storePartition (disk : SysmDiskUsage) (ptr : Text) : SysmDiskUsage :=
  let ptr := sysmSkipToken ptr
  let ptr := sysmSkipToken ptr
  let (reads, ptr) := strtoul 10 ptr
  let ptr := sysmSkipToken ptr
  let (readBytes, ptr) := strtoul 10 ptr
  let (rtime, ptr) := strtoul 10 ptr
  let (writes, ptr) := strtoul 10 ptr
  let ptr := sysmSkipToken ptr
  let (writeBytes, ptr) := strtoul 10 ptr
  let (wtime, ptr) := strtoul 10 ptr
  let ptr := sysmSkipToken ptr
  let (time, ptr) := strtoul 10 ptr
  let (qtime, _) := strtoul 10 ptr
  { disk with reads, readBytes := readBytes * 512, rtime, writes, writeBytes := writeBytes * 512, wtime, time, qtime }

/-- The loop of `get_iostat_procp`. -/
def procpLoop (sb : Stat) (disk : SysmDiskUsage) : List Text → Int × SysmDiskUsage
  | [] => (ENOENT, disk)
  | line :: lines =>
    let (major, ptr) := strtoul 10 line
    let (minor, ptr) := strtoul 10 ptr
    if major = stMajor sb ∧ minor = stMinor sb then (0, disk.storePartition ptr) else procpLoop sb disk lines

/-- The files that `sysm_disk_usage_get` reads, and what `sysm_uptime_get`
leaves in `uptime`. -/
structure UsageFiles where
  dstat : DstatFiles
  partitions : Except Errno (List UInt8)
  block : Text → FileRead
  uptime : Rat

/-- `(sysm_uint64_t) uptime` -/
def wholeSeconds (uptime : Rat) : UInt64 := UInt64.ofNat uptime.floor.toNat

section Times

variable (disk old : SysmDiskUsage) (interval : UInt64)

/-- The service time for the counters in `disk`, where `old` are those of the
call before. A division by an interval of zero is a fault. -/
def SysmDiskUsage.serviceTimeSince : Option Rat :=
  let ios := (disk.reads - old.reads) + (disk.writes - old.writes)
  let busy := disk.time - old.time
  if disk.time = -1 then some (-1)
  else if interval = 0 then none
  else
    let tput : Rat := ios.toNat * HZ / interval.toNat
    let util : Rat := busy.toNat / interval.toNat * HZ
    some (if tput ≠ 0 then util / tput else 0)

def SysmDiskUsage.utilSince : Option Rat :=
  let busy := disk.time - old.time
  if disk.qtime = -1 then some (-1)
  else if interval = 0 then none
  else
    let util : Rat := busy.toNat / interval.toNat
    some (util / 1000)

end Times

/-- The seconds that `sysm_disk_usage_get` takes to have passed. -/
def SysmDiskUsage.interval (old : SysmDiskUsage) (uptime : Rat) : UInt64 :=
  if old.snaptime ≠ 0 then wholeSeconds uptime - old.snaptime else wholeSeconds uptime

/-- What `sysm_disk_usage_get` adds to the counters. -/
def SysmDiskUsage.measure (disk old : SysmDiskUsage) (uptime : Rat) : Option SysmDiskUsage := do
  let interval := old.interval uptime
  let serviceTime ← disk.serviceTimeSince old interval
  let util ← disk.utilSince old interval
  return { disk with snaptime := wholeSeconds uptime, serviceTime, util }

section Get

variable (sysm : SysmT) (iostat : Iostat) (disks : Disks) (created : UInt64) (clock : Clock) (files : UsageFiles)
  (memory : List Text → Nat → UInt64)

/-- `get_iostat_procp`. The header of the file is skipped. -/
def getIostatProcp (dirname : Text) (disk : SysmDiskUsage) :
    Option ((Int × SysmDiskUsage × Option (Nat × SysmIodev)) × SysmT) := do
  let (found, sysm) ← sysmIodevGet sysm disks created clock dirname
  let result : Int × SysmDiskUsage := match found with
    | none => ( ENXIO, disk)
    | some (_, iodev) =>
      match disks.stat iodev.name with
      | none => (files.dstat.statErrno, disk)
      | some sb =>
        match files.partitions with
        | .error errno => (errno, disk)
        | .ok text => procpLoop sb disk (fgetsAll 1025 text).tail
  return ((result.1, result.2, found), sysm)

/-- The switch of `sysm_disk_usage_get`: the status, `disk`, `device_usage` and
the `iodev`. Only `get_iostat_proc_dstat` sets `device_usage`. -/
def iostatGet (name : Text) : Option ((Dstat × Option (Nat × SysmIodev)) × SysmT) :=
  match iostat with
  | .sys => (getIostatSys sysm disks created clock files.block name .init).map fun result =>
    ((⟨result.1.1, result.1.2.1, .init⟩, result.1.2.2), result.2)
  | .diskstats => getIostatProcDstat sysm disks created clock files.dstat memory name .init
  | .partitions => (getIostatProcp sysm disks created clock files name .init).map fun result =>
    ((⟨result.1.1, result.1.2.1, .init⟩, result.1.2.2), result.2)
  | .none => some ((⟨ENOENT, .init, .init⟩, none), sysm)

/-- `sysm_disk_usage_get`. The counters of this call are kept in the `iodev`. -/
def sysmDiskUsageGet (name : Text) : Option ((Int × SysmDiskUsage) × SysmT) := do
  let ((result, found), sysm) ← iostatGet sysm iostat disks created clock files memory name
  match found with
  | none => return ((result.status, result.disk), sysm)
  | some (entry, iodev) =>
    if result.status = 0 then
      -- 2.6 kernels do not have per-partition times
      let partition := iodev.isPartition && iostat == .diskstats
      let usage ← (if partition then result.deviceUsage else result.disk).measure iodev.disk files.uptime
      let table ← (← sysm.fsdev).store entry (some { iodev with disk := usage })
      let disk :=
        if partition then { result.disk with serviceTime := usage.serviceTime, util := usage.util } else usage
      return ((0, disk), { sysm with fsdev := some table })
    else return ((result.status, result.disk), sysm)

end Get

/-- The answer is a time and a fraction of one. -/
structure SysmDiskUsage.InRange (usage : SysmDiskUsage) : Prop where
  serviceTime : 0 ≤ usage.serviceTime
  util : 0 ≤ usage.util ∧ usage.util ≤ 1

section Measure

variable {disk old usage : SysmDiskUsage} {interval : UInt64} {uptime : Rat}

/-- The counters stay, and the time of the call goes with them. -/
theorem measure_keeps (run : disk.measure old uptime = some usage) :
    usage.reads = disk.reads ∧ usage.writes = disk.writes ∧ usage.time = disk.time ∧
      usage.snaptime = wholeSeconds uptime := by
  obtain ⟨serviceTime, _, run⟩ := Option.bind_eq_some_iff.mp run
  obtain ⟨util, _, run⟩ := Option.bind_eq_some_iff.mp run
  cases run
  exact ⟨rfl, rfl, rfl, rfl⟩

/-- There is a service time exactly if it is not asked for over no time. -/
theorem serviceTimeSince_iff : (∃ time, disk.serviceTimeSince old interval = some time ∧ 0 ≤ time) ↔
    disk.time ≠ -1 ∧ interval ≠ 0 := by
  unfold SysmDiskUsage.serviceTimeSince
  by_cases noTime : disk.time = -1
  · simp [noTime]
  · by_cases zero : interval = 0
    · simp [noTime, zero]
    · simp only [noTime, zero, if_false, Option.some.injEq, exists_eq_left', ne_eq, not_false_eq_true, and_self, iff_true]
      split_ifs <;> positivity

/-- The busy time over the interval, in milliseconds. -/
theorem busy_le_iff {busy interval : Nat} (positive : 0 < interval) :
    (busy : Rat) / interval / 1000 ≤ 1 ↔ busy ≤ 1000 * interval := by
  have interval_pos : (0 : Rat) < interval := by exact_mod_cast positive
  rw [div_div, div_le_one (by positivity), mul_comm]
  exact_mod_cast Iff.rfl

theorem utilSince_iff : (∃ util, disk.utilSince old interval = some util ∧ 0 ≤ util ∧ util ≤ 1) ↔
    disk.qtime ≠ -1 ∧ interval ≠ 0 ∧ (disk.time - old.time).toNat ≤ 1000 * interval.toNat := by
  unfold SysmDiskUsage.utilSince
  by_cases noQueue : disk.qtime = -1
  · simp [noQueue]
  · by_cases zero : interval = 0
    · simp [noQueue, zero]
    · have positive : 0 < interval.toNat := by
        have := UInt64.toNat_inj.not.mpr zero
        simp at this
        omega
      have nonneg : (0 : Rat) ≤ ((disk.time - old.time).toNat : Rat) / interval.toNat / 1000 := by positivity
      have most := @busy_le_iff (disk.time - old.time).toNat interval.toNat positive
      simp only [noQueue, zero, if_false, Option.some.injEq, exists_eq_left', ne_eq, not_false_eq_true, true_and, nonneg, most]

/-- An answer is in range exactly if whole seconds have passed, with no more
busy milliseconds than they have, and the two times are not taken for
placeholders. -/
theorem measure_inRange_iff : (∃ usage, disk.measure old uptime = some usage ∧ usage.InRange) ↔
    disk.time ≠ -1 ∧ disk.qtime ≠ -1 ∧ old.interval uptime ≠ 0 ∧
      (disk.time - old.time).toNat ≤ 1000 * (old.interval uptime).toNat := by
  have service := @serviceTimeSince_iff disk old (old.interval uptime)
  have util := @utilSince_iff disk old (old.interval uptime)
  constructor
  · rintro ⟨usage, run, range⟩
    obtain ⟨serviceTime, atService, run⟩ := Option.bind_eq_some_iff.mp run
    obtain ⟨fraction, atUtil, run⟩ := Option.bind_eq_some_iff.mp run
    cases run
    obtain ⟨noTime, _⟩ := service.mp ⟨serviceTime, atService, range.serviceTime⟩
    obtain ⟨noQueue, later, busy⟩ := util.mp ⟨fraction, atUtil, range.util⟩
    exact ⟨noTime, noQueue, later, busy⟩
  · rintro ⟨noTime, noQueue, later, busy⟩
    obtain ⟨serviceTime, atService, nonneg⟩ := service.mpr ⟨noTime, later⟩
    obtain ⟨fraction, atUtil, inRange⟩ := util.mpr ⟨noQueue, later, busy⟩
    refine ⟨{ disk with snaptime := wholeSeconds uptime, serviceTime := serviceTime, util := fraction }, ?_, nonneg, inRange⟩
    simp only [SysmDiskUsage.measure, atService, atUtil, Option.bind_eq_bind, Option.bind_some, Option.pure_def]

end Measure

/-- The times of a partition are those of `device_usage`. -/
theorem sysmDiskUsageGet_partition {sysm sysm' sysm'' : SysmT} {disks : Disks} {created : UInt64} {clock : Clock}
    {files : UsageFiles} {memory : List Text → Nat → UInt64} {name : Text} {result : Dstat} {entry : Nat}
    {iodev : SysmIodev} {status : Int} {disk : SysmDiskUsage}
    (scan : getIostatProcDstat sysm disks created clock files.dstat memory name .init = some ((result, some (entry, iodev)), sysm'))
    (partition : iodev.isPartition = true) (ok : result.status = 0)
    (run : sysmDiskUsageGet sysm .diskstats disks created clock files memory name = some ((status, disk), sysm'')) :
    ∃ usage, result.deviceUsage.measure iodev.disk files.uptime = some usage ∧ disk.serviceTime = usage.serviceTime ∧
      disk.util = usage.util := by
  simp only [sysmDiskUsageGet, iostatGet, scan, ok, partition, Option.bind_eq_bind, Option.bind_some, if_true,
    beq_self_eq_true, Bool.and_self] at run
  obtain ⟨usage, measured, run⟩ := Option.bind_eq_some_iff.mp run
  obtain ⟨table, _, run⟩ := Option.bind_eq_some_iff.mp run
  obtain ⟨table', _, run⟩ := Option.bind_eq_some_iff.mp run
  cases run
  exact ⟨usage, measured, rfl, rfl⟩

end Sysm
