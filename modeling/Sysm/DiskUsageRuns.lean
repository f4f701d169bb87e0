import Sysm.DiskUsage
import Sysm.Lib.Machine
import Sysm.WholeDisk

namespace Sysm
open CString

/-- Fields that no row of the table has. -/
structure SysmDiskUsage.Blank (disk : SysmDiskUsage) : Prop where
  snaptime : disk.snaptime = 0
  serviceTime : disk.serviceTime = -1
  util : disk.util = -1

theorem SysmDiskUsage.Blank.storeNumbers {disk : SysmDiskUsage} (blank : disk.Blank) (numbers : List UInt64)
    (memory : Nat → UInt64) : (disk.storeNumbers numbers memory).Blank := by
  unfold SysmDiskUsage.storeNumbers
  split_ifs <;> exact ⟨blank.snaptime, blank.serviceTime, blank.util⟩

/-- A long row of the device brings all its counters, whatever the rows before it have left. -/
theorem dstatLoop_found {sb : Stat} {memory : List Text → Nat → UInt64} {lines : List Text} {row : DiskRow}
    (shown : (lines.map diskRow).find? (fun row => decide (row.IsFor sb)) = some row) (long : 11 ≤ row.numbers.length)
    {state : Dstat} (blank : state.disk.Blank) :
    (dstatLoop sb memory state lines).status = 0 ∧ (dstatLoop sb memory state lines).disk = row.usage := by
  induction lines generalizing state with
  | nil => cases shown
  | cons line lines ih =>
    rw [List.map_cons, List.find?_cons] at shown
    rw [dstatLoop_cons]
    by_cases device : (diskRow line).IsFor sb
    · simp only [device, decide_true, Option.some.injEq] at shown
      subst shown
      have good : (diskRow line).Good := Or.inl long
      have notFour : ¬(diskRow line).numbers.length = 4 := by omega
      rw [if_pos device]
      refine ⟨rfl, ?_⟩
      simp only [Dstat.finish, good.storeNumbers_eq, DiskRow.usage, notFour, if_false]
      rw [blank.snaptime, blank.serviceTime, blank.util]
      rfl
    · simp only [device, decide_false] at shown
      rw [if_neg device]
      split_ifs
      · exact ih shown (blank.storeNumbers _ _)
      · exact ih shown blank

/-- A call of `sysm_disk_usage_get` for a device whose row is long. -/
structure UsageCall (sb : Stat) where
  clock : Clock
  files : UsageFiles
  memory : List Text → Nat → UInt64
  text : List UInt8
  opened : files.dstat.diskstats = .ok text
  row : DiskRow
  shown : ((fgetsAll 1025 text).map diskRow).find? (fun row => decide (row.IsFor sb)) = some row
  long : 11 ≤ row.numbers.length
  started : 0 ≤ files.uptime
  bounded : files.uptime < 2 ^ 64

namespace UsageCall

variable {sb : Stat} (call : UsageCall sb)

/-- The whole seconds since the machine was started. -/
def seconds : Nat := call.files.uptime.floor.toNat

theorem toNat_wholeSeconds : (wholeSeconds call.files.uptime).toNat = call.seconds := by
  have below : call.files.uptime.floor < 2 ^ 64 := by
    rw [Rat.floor_lt_iff]
    exact_mod_cast call.bounded
  rw [wholeSeconds, UInt64.toNat_ofNat', seconds]
  omega

end UsageCall

section Device

variable {disks : Disks} {created : UInt64} {dirname path : Text} {sb : Stat}

/-- What the table of devices holds for a whole disk, or would hold if it were
made: the counters of the call before. -/
def SysmT.HasDisk (sysm : SysmT) (sb : Stat) (path : Text) (old : SysmDiskUsage) : Prop :=
  sysm.fsdev = none ∧ old = .zero ∨
    ∃ table entry, sysm.fsdev = some table ∧ table.Binds (sysmFsdevId sb) entry (some ⟨path, false, old⟩)

/-- The `iodev` of a device that is asked for by its own path. -/
theorem SysmT.HasDisk.iodevGet {sysm : SysmT} {old : SysmDiskUsage} (has : sysm.HasDisk sb path old)
    (isDev : iodevPath dirname = (path, true)) (device : disks.stat path = some sb) (fits : path.length < iodevNameLen)
    (created : UInt64) (clock : Clock) :
    ∃ table entry, sysmIodevGet sysm disks created clock dirname =
      some (some (entry, ⟨path, false, old⟩), { sysm with fsdev := some table }) ∧
        table.Binds (sysmFsdevId sb) entry (some ⟨path, false, old⟩) := by
  rcases has with ⟨noTable, rfl⟩ | ⟨table, entry, atTable, binds⟩
  · obtain ⟨made, entry, get, binds⟩ :=
      @Cache.binds_new SysmIodev 15 (by decide) created (sysmFsdevId sb) (clock 0) (clock 1)
    obtain ⟨filled, store, binds'⟩ := binds.store (some ⟨path, false, .zero⟩)
    refine ⟨filled, entry, ?_, binds'⟩
    simp only [sysmIodevGet, isDev, device, noTable, Option.getD_none, get, binds.atValue, iodevFind, iodevNew, fits,
      store, if_true, Option.bind_eq_bind, Option.bind_some, Option.pure_def]
  · obtain ⟨touched, get, binds'⟩ := binds.get (clock 0) (clock 1)
    refine ⟨touched, entry, ?_, binds'⟩
    simp only [sysmIodevGet, isDev, device, atTable, Option.getD_some, get, binds'.atValue, Option.bind_eq_bind,
      Option.bind_some, Option.pure_def]

/-- A call answers with what it measures since the call before, and keeps it. -/
theorem SysmT.HasDisk.usageGet {sysm : SysmT} {old : SysmDiskUsage} (has : sysm.HasDisk sb path old)
    (isDev : iodevPath dirname = (path, true)) (device : disks.stat path = some sb) (fits : path.length < iodevNameLen)
    (created : UInt64) (call : UsageCall sb) :
    (call.row.usage.measure old call.files.uptime = none ∧
        sysmDiskUsageGet sysm .diskstats disks created call.clock call.files call.memory dirname = none) ∨
      ∃ usage sysm', call.row.usage.measure old call.files.uptime = some usage ∧
        sysmDiskUsageGet sysm .diskstats disks created call.clock call.files call.memory dirname =
          some ((0, usage), sysm') ∧ sysm'.HasDisk sb path usage := by
  obtain ⟨table, entry, find, binds⟩ := has.iodevGet isDev device fits created call.clock
  have scan := getIostatProcDstat_eq find device call.opened call.memory .init
  obtain ⟨ok, counters⟩ := @dstatLoop_found sb call.memory (fgetsAll 1025 call.text) call.row call.shown call.long
    ⟨ENOENT, .init, .init⟩ ⟨rfl, rfl, rfl⟩
  cases measured : call.row.usage.measure old call.files.uptime with
  | none =>
    left
    refine ⟨rfl, ?_⟩
    simp only [sysmDiskUsageGet, iostatGet, scan, ok, counters, measured, Option.bind_eq_bind, Option.bind_some,
      Option.bind_none, if_true, Bool.false_and, Bool.false_eq_true, if_false]
  | some usage =>
    right
    obtain ⟨kept, store, binds'⟩ := binds.store (some ⟨path, false, usage⟩)
    refine ⟨usage, { sysm with fsdev := some kept }, rfl, ?_, Or.inr ⟨kept, entry, rfl, binds'⟩⟩
    simp only [sysmDiskUsageGet, iostatGet, scan, ok, counters, measured, store, Option.bind_eq_bind, Option.bind_some,
      if_true, Bool.false_and, Bool.false_eq_true, if_false, Option.pure_def]

end Device

section Runs

variable {sb : Stat}

/-- Real calls, one after the other: neither the clock nor a counter goes back,
and the disk is not busy for longer than time passes. -/
def Steady : Rat → SysmDiskUsage → List (UsageCall sb) → Prop
  | _, _, [] => True
  | uptime, usage, call :: calls =>
    uptime ≤ call.files.uptime ∧ usage.reads ≤ call.row.usage.reads ∧ usage.writes ≤ call.row.usage.writes ∧
      usage.time ≤ call.row.usage.time ∧
      (call.row.usage.time.toNat - usage.time.toNat : Rat) ≤ 1000 * (call.files.uptime - uptime) ∧
      Steady call.files.uptime call.row.usage calls

/-- From each call to the next a second begins, the disk is not busy for longer
than the whole seconds between them, and no counter looks like a placeholder. -/
def Paced : Nat → Nat → List (UsageCall sb) → Prop
  | _, _, [] => True
  | second, time, call :: calls =>
    second < call.seconds ∧ call.row.usage.time.toNat - time ≤ 1000 * (call.seconds - second) ∧
      call.row.usage.time ≠ -1 ∧ call.row.usage.qtime ≠ -1 ∧ Paced call.seconds call.row.usage.time.toNat calls

/-- Calls for one device with all answers in range. -/
def UsagesInRange (disks : Disks) (created : UInt64) (dirname : Text) (opened : SysmT) (calls : List (UsageCall sb)) : Prop :=
  ∃ answers final, Machine.run (fun sysm call =>
      sysmDiskUsageGet sysm .diskstats disks created call.clock call.files call.memory dirname) opened calls =
    some (answers, final) ∧ ∀ answer ∈ answers, answer.1 = 0 ∧ answer.2.InRange

/-- What one call needs, in whole seconds. -/
theorem UsageCall.measure_iff {call : UsageCall sb} {old : SysmDiskUsage} (later : old.snaptime.toNat ≤ call.seconds)
    (more : old.time ≤ call.row.usage.time) :
    (∃ usage, call.row.usage.measure old call.files.uptime = some usage ∧ usage.InRange) ↔
      old.snaptime.toNat < call.seconds ∧
        call.row.usage.time.toNat - old.time.toNat ≤ 1000 * (call.seconds - old.snaptime.toNat) ∧
        call.row.usage.time ≠ -1 ∧ call.row.usage.qtime ≠ -1 := by
  have seconds := call.toNat_wholeSeconds
  have interval : (old.interval call.files.uptime).toNat = call.seconds - old.snaptime.toNat := by
    unfold SysmDiskUsage.interval
    split_ifs with kept
    · have order : old.snaptime ≤ wholeSeconds call.files.uptime := by
        rw [UInt64.le_iff_toNat_le, seconds]
        exact later
      rw [UInt64.toNat_sub_of_le _ _ order, seconds]
    · have zero : old.snaptime = 0 := by simpa using kept
      rw [zero, seconds]
      rfl
  have passed : old.interval call.files.uptime ≠ 0 ↔ old.snaptime.toNat < call.seconds := by
    rw [ne_eq, ← UInt64.toNat_inj, interval]
    have isZero : (0 : UInt64).toNat = 0 := rfl
    omega
  rw [measure_inRange_iff, passed, interval, UInt64.toNat_sub_of_le _ _ more]
  constructor
  · rintro ⟨noTime, noQueue, first, busy⟩
    exact ⟨first, busy, noTime, noQueue⟩
  · rintro ⟨first, busy, noTime, noQueue⟩
    exact ⟨noTime, noQueue, first, busy⟩

/-- Only the counters of the call before matter. -/
theorem Steady.congr {uptime : Rat} {usage other : SysmDiskUsage} {calls : List (UsageCall sb)}
    (steady : Steady uptime usage calls) (reads : other.reads = usage.reads) (writes : other.writes = usage.writes)
    (time : other.time = usage.time) : Steady uptime other calls := by
  cases calls with
  | nil => trivial
  | cons call calls =>
    rw [Steady, reads, writes, time]
    exact steady

variable {disks : Disks} {dirname path : Text}

/-- The first answer of a run, and the others. -/
theorem usagesInRange_cons {created : UInt64} {sysm sysm' : SysmT} {call : UsageCall sb} {usage : SysmDiskUsage}
    (run : sysmDiskUsageGet sysm .diskstats disks created call.clock call.files call.memory dirname = some ((0, usage), sysm'))
    (calls : List (UsageCall sb)) :
    UsagesInRange disks created dirname sysm (call :: calls) ↔
      usage.InRange ∧ UsagesInRange disks created dirname sysm' calls := by
  constructor
  · rintro ⟨answers, final, all, inRange⟩
    obtain ⟨answer, next, others, first, later, rfl⟩ := Machine.run_cons_iff.mp all
    cases run.symm.trans first
    exact ⟨(inRange _ (List.mem_cons_self ..)).2, others, final, later, fun answer member =>
      inRange answer (List.mem_cons_of_mem _ member)⟩
  · rintro ⟨here, answers, final, all, inRange⟩
    refine ⟨(0, usage) :: answers, final, Machine.run_cons_iff.mpr ⟨_, _, _, run, all, rfl⟩, ?_⟩
    intro answer member
    rcases List.mem_cons.mp member with first | later
    · rw [first]
      exact ⟨rfl, here⟩
    · exact inRange answer later

theorem usagesInRange_iff (isDev : iodevPath dirname = (path, true)) (device : disks.stat path = some sb)
    (fits : path.length < iodevNameLen) (created : UInt64) {calls : List (UsageCall sb)} {sysm : SysmT}
    {old : SysmDiskUsage} (has : sysm.HasDisk sb path old) {uptime : Rat} (second : old.snaptime.toNat = uptime.floor.toNat)
    (steady : Steady uptime old calls) :
    UsagesInRange disks created dirname sysm calls ↔ Paced old.snaptime.toNat old.time.toNat calls := by
  induction calls generalizing sysm old uptime with
  | nil =>
    refine iff_of_true ⟨[], sysm, rfl, ?_⟩ trivial
    simp
  | cons call calls ih =>
    obtain ⟨clock, _, _, busy, _, others⟩ := steady
    have later : old.snaptime.toNat ≤ call.seconds := by
      have order := Rat.floor_monotone clock
      rw [second, UsageCall.seconds]
      omega
    have here := UsageCall.measure_iff later busy
    rw [Paced]
    rcases has.usageGet isDev device fits created call with ⟨measured, fault⟩ | ⟨usage, sysm', measured, run, has'⟩
    · refine iff_of_false ?_ ?_
      · rintro ⟨answers, final, all, _⟩
        obtain ⟨_, _, _, first, _⟩ := Machine.run_cons_iff.mp all
        rw [fault] at first
        cases first
      · rintro ⟨first, busy', noTime, noQueue, _⟩
        obtain ⟨usage, some_usage, _⟩ := here.mpr ⟨first, busy', noTime, noQueue⟩
        rw [measured] at some_usage
        cases some_usage
    · obtain ⟨reads, writes, time, snaptime⟩ := measure_keeps measured
      have second' : usage.snaptime.toNat = call.seconds := by
        rw [snaptime, call.toNat_wholeSeconds]
      have rest := ih has' second' (others.congr reads writes time)
      rw [second', time] at rest
      have range : usage.InRange ↔ ∃ answer, call.row.usage.measure old call.files.uptime = some answer ∧ answer.InRange := by
        simp [measured]
      rw [usagesInRange_cons run, rest, range, here]
      simp only [and_assoc]

end Runs

section Fresh

variable {sb : Stat} {disks : Disks} {dirname path : Text} {memory opened : SysmT} {getpagesize : Nat} {ticks : UInt64}
  {procStat : Except Int (List UInt8)}

/-- On a fresh library the answers are in range exactly if whole seconds pass
between the calls, with no more busy milliseconds than they have. -/
theorem sysmDiskUsageGet_inRange_iff (open_ok : sysmOpen memory getpagesize ticks procStat = .ok opened)
    (isDev : iodevPath dirname = (path, true)) (device : disks.stat path = some sb) (fits : path.length < iodevNameLen)
    (created : UInt64) {calls : List (UsageCall sb)} (steady : Steady 0 .zero calls) :
    UsagesInRange disks created dirname opened calls ↔ Paced 0 0 calls := by
  obtain ⟨-, -, noTable⟩ := sysmOpen_fresh open_ok
  exact usagesInRange_iff isDev device fits created (Or.inl ⟨noTable, rfl⟩) (by rfl) steady

end Fresh

/-- The table of a machine with one disk that has been busy for so long. -/
def busyTable (time : UInt64) : List UInt8 :=
  ofString "   8       1 sda1 10 0 80 40 10 0 80 40 0 " ++ decimal time.toNat ++ ofString " 80\n"

def busyRow (time : UInt64) : DiskRow := ⟨8, 1, [10, 0, 80, 40, 10, 0, 80, 40, 0, time, 80]⟩

theorem enoent_ne_zero : ENOENT ≠ 0 := by decide

def busyFiles (time : UInt64) (uptime : Rat) : UsageFiles where
  dstat := ⟨.ok (busyTable time), ENOENT, enoent_ne_zero⟩
  partitions := .error ⟨ENOENT, enoent_ne_zero⟩
  block := fun _ => .missing
  uptime := uptime

theorem uptime_busyFiles (time : UInt64) (uptime : Rat) : (busyFiles time uptime).uptime = uptime := rfl

/-- The first call 100 seconds after the start. -/
def firstUsage : UsageCall ⟨true, 0x801, 300, 5⟩ where
  clock := fun _ => 0
  files := busyFiles 50 100
  memory := fun _ _ => 0
  text := busyTable 50
  opened := rfl
  row := busyRow 50
  shown := by decide +kernel
  long := by decide
  started := by norm_num [uptime_busyFiles]
  bounded := by norm_num [uptime_busyFiles]

/-- Half a second later the disk has been busy for 7 milliseconds more. -/
def soonUsage : UsageCall ⟨true, 0x801, 300, 5⟩ where
  clock := fun _ => 0
  files := busyFiles 57 (201 / 2)
  memory := fun _ _ => 0
  text := busyTable 57
  opened := rfl
  row := busyRow 57
  shown := by decide +kernel
  long := by decide
  started := by norm_num [uptime_busyFiles]
  bounded := by norm_num [uptime_busyFiles]

/-- Two seconds later it has been busy for no more than these. -/
def laterUsage : UsageCall ⟨true, 0x801, 300, 5⟩ where
  clock := fun _ => 0
  files := busyFiles 57 102
  memory := fun _ _ => 0
  text := busyTable 57
  opened := rfl
  row := busyRow 57
  shown := by decide +kernel
  long := by decide
  started := by norm_num [uptime_busyFiles]
  bounded := by norm_num [uptime_busyFiles]

theorem steady_firstUsage {calls : List (UsageCall ⟨true, 0x801, 300, 5⟩)}
    (steady : Steady 100 (busyRow 50).usage calls) : Steady 0 .zero (firstUsage :: calls) := by
  refine ⟨?_, by decide, by decide, by decide, ?_, steady⟩
  · show (0 : Rat) ≤ 100
    norm_num
  · show ((50 : Nat) - (0 : Nat) : Rat) ≤ 1000 * (100 - 0)
    norm_num

theorem steady_soonUsage : Steady 100 (busyRow 50).usage [soonUsage] := by
  refine ⟨?_, by decide, by decide, by decide, ?_, trivial⟩
  · show (100 : Rat) ≤ 201 / 2
    norm_num
  · show ((57 : Nat) - (50 : Nat) : Rat) ≤ 1000 * (201 / 2 - 100)
    norm_num

theorem steady_laterUsage : Steady 100 (busyRow 50).usage [laterUsage] := by
  refine ⟨?_, by decide, by decide, by decide, ?_, trivial⟩
  · show (100 : Rat) ≤ 102
    norm_num
  · show ((57 : Nat) - (50 : Nat) : Rat) ≤ 1000 * (102 - 100)
    norm_num

theorem isDev_sda1 : iodevPath (ofString "/dev/sda1") = (ofString "/dev/sda1", true) := by decide

theorem stat_sda1 : rootDisks.stat (ofString "/dev/sda1") = some ⟨true, 0x801, 300, 5⟩ := by decide

theorem fits_sda1 : (ofString "/dev/sda1").length < iodevNameLen := by decide

theorem sysmDiskUsageGet_inRange_iff_twice :
    UsagesInRange rootDisks 0 (ofString "/dev/sda1") openedSysm [firstUsage, laterUsage] ↔
      Paced 0 0 [firstUsage, laterUsage] := by
  have open_ok : sysmOpen .zero 4096 100 (.ok []) = .ok openedSysm := rfl
  exact sysmDiskUsageGet_inRange_iff open_ok isDev_sda1 stat_sda1 fits_sda1 0 (steady_firstUsage steady_laterUsage)

/-- The second call within a second divides by zero. -/
theorem sysmDiskUsageGet_withinSecond : Steady 0 .zero [firstUsage, soonUsage] ∧
    ¬UsagesInRange rootDisks 0 (ofString "/dev/sda1") openedSysm [firstUsage, soonUsage] := by
  have steady := steady_firstUsage steady_soonUsage
  refine ⟨steady, ?_⟩
  have noTable : openedSysm.HasDisk ⟨true, 0x801, 300, 5⟩ (ofString "/dev/sda1") .zero := Or.inl ⟨rfl, rfl⟩
  rw [usagesInRange_iff isDev_sda1 stat_sda1 fits_sda1 0 noTable (by rfl) steady]
  rintro ⟨_, _, _, _, later, _⟩
  have first : firstUsage.seconds = 100 := by
    show (100 : Rat).floor.toNat = 100
    rfl
  have second : soonUsage.seconds = 100 := by
    have most : (201 / 2 : Rat).floor < 101 := Rat.floor_lt_iff.mpr (by norm_num)
    have least : 100 ≤ (201 / 2 : Rat).floor := Rat.le_floor_iff.mpr (by norm_num)
    show (201 / 2 : Rat).floor.toNat = 100
    omega
  omega

end Sysm
