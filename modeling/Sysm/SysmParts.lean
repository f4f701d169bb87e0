import Sysm.CpuFolding
import Sysm.DiskUsage
import Sysm.Lib.Components
import Sysm.Memory
import Sysm.NetListenAddress
import Sysm.ProcCalls
import Sysm.ProcCounts
import Sysm.ProcEnv

namespace Sysm
open CString Machine

/-- The members of `sysm_t` that the calls about processes and processors use. -/
structure ProcessPart where
  cpuListCores : Int32
  lcpu : Int32
  ncpu : UInt32
  bootTime : UInt64
  ticks : UInt64
  pids : Option (GrowList Int32)
  pagesize : UInt64
  procSignalOffset : Int32
  hasNptl : Bool
  lastProcStat : LinuxProcStat
  procCpu : Option (Cache SysmProcCpu)

def processMember : Member SysmT ProcessPart where
  get sysm := ⟨sysm.cpuListCores, sysm.lcpu, sysm.ncpu, sysm.bootTime, sysm.ticks, sysm.pids, sysm.pagesize,
    sysm.procSignalOffset, sysm.hasNptl, sysm.lastProcStat, sysm.procCpu⟩
  put part sysm := { sysm with
    cpuListCores := part.cpuListCores
    lcpu := part.lcpu
    ncpu := part.ncpu
    bootTime := part.bootTime
    ticks := part.ticks
    pids := part.pids
    pagesize := part.pagesize
    procSignalOffset := part.procSignalOffset
    hasNptl := part.hasNptl
    lastProcStat := part.lastProcStat
    procCpu := part.procCpu }
  get_put _ _ := rfl
  put_get _ := rfl
  put_put _ _ _ := rfl

def mtrrMember : Member SysmT Int32 where
  get := SysmT.mtrr
  put mtrr sysm := { sysm with mtrr }
  get_put _ _ := rfl
  put_get _ := rfl
  put_put _ _ _ := rfl

def pidMember : Member SysmT Int32 where
  get := SysmT.pid
  put pid sysm := { sysm with pid }
  get_put _ _ := rfl
  put_get _ := rfl
  put_put _ _ _ := rfl

def fsdevMember : Member SysmT (Option (Cache SysmIodev)) where
  get := SysmT.fsdev
  put fsdev sysm := { sysm with fsdev }
  get_put _ _ := rfl
  put_get _ := rfl
  put_put _ _ _ := rfl

def netListenMember : Member SysmT (Option (Cache SysmNetAddress)) where
  get := SysmT.netListen
  put netListen sysm := { sysm with netListen }
  get_put _ _ := rfl
  put_get _ := rfl
  put_put _ _ _ := rfl

/-- `sysm_cpu_get`, which takes the whole file for its first line -/
def sysmCpuGet (sysm : SysmT) (stat : FileRead) : Option (Except Int SysmCpu) := do
  match ← sysmFile2str BUFSIZ stat with
  | .error status => return .error status
  | .ok buffer => return .ok (getCpuMetrics sysm.ticks .zero buffer)

theorem sysmCpuGet_confines (stat : FileRead) :
    processMember.Confines fun sysm => (sysmCpuGet sysm stat).map fun result => (result, sysm) := by
  intro sysm other
  have same : sysmCpuGet (processMember.put (processMember.get sysm) other) stat = sysmCpuGet sysm stat := rfl
  simp only [same, Option.map_map]
  rfl

section Fields

variable (part : ProcessPart) (sysm : SysmT)

@[simp] theorem put_cpuListCores : (processMember.put part sysm).cpuListCores = part.cpuListCores := rfl
@[simp] theorem put_lcpu : (processMember.put part sysm).lcpu = part.lcpu := rfl
@[simp] theorem put_ncpu : (processMember.put part sysm).ncpu = part.ncpu := rfl
@[simp] theorem put_bootTime : (processMember.put part sysm).bootTime = part.bootTime := rfl
@[simp] theorem put_ticks : (processMember.put part sysm).ticks = part.ticks := rfl
@[simp] theorem put_pids : (processMember.put part sysm).pids = part.pids := rfl
@[simp] theorem put_pagesize : (processMember.put part sysm).pagesize = part.pagesize := rfl
@[simp] theorem put_procSignalOffset : (processMember.put part sysm).procSignalOffset = part.procSignalOffset := rfl
@[simp] theorem put_hasNptl : (processMember.put part sysm).hasNptl = part.hasNptl := rfl
@[simp] theorem put_lastProcStat : (processMember.put part sysm).lastProcStat = part.lastProcStat := rfl
@[simp] theorem put_procCpu : (processMember.put part sysm).procCpu = part.procCpu := rfl
@[simp] theorem get_cpuListCores : (processMember.get sysm).cpuListCores = sysm.cpuListCores := rfl
@[simp] theorem get_lcpu : (processMember.get sysm).lcpu = sysm.lcpu := rfl
@[simp] theorem get_ncpu : (processMember.get sysm).ncpu = sysm.ncpu := rfl
@[simp] theorem get_bootTime : (processMember.get sysm).bootTime = sysm.bootTime := rfl
@[simp] theorem get_ticks : (processMember.get sysm).ticks = sysm.ticks := rfl
@[simp] theorem get_pids : (processMember.get sysm).pids = sysm.pids := rfl
@[simp] theorem get_pagesize : (processMember.get sysm).pagesize = sysm.pagesize := rfl
@[simp] theorem get_procSignalOffset : (processMember.get sysm).procSignalOffset = sysm.procSignalOffset := rfl
@[simp] theorem get_hasNptl : (processMember.get sysm).hasNptl = sysm.hasNptl := rfl
@[simp] theorem get_lastProcStat : (processMember.get sysm).lastProcStat = sysm.lastProcStat := rfl
@[simp] theorem get_procCpu : (processMember.get sysm).procCpu = sysm.procCpu := rfl

end Fields

theorem storeStatFields_congr {sysm other : SysmT} (ticks : other.ticks = sysm.ticks)
    (bootTime : other.bootTime = sysm.bootTime) (pagesize : other.pagesize = sysm.pagesize)
    (pstat : other.lastProcStat = sysm.lastProcStat) (name : Text) (state : UInt8) (ptr : Text) :
    other.storeStatFields name state ptr = sysm.storeStatFields name state ptr := by
  unfold SysmT.storeStatFields
  simp only [ticks, bootTime, pagesize, pstat]

theorem loadProcStat_congr {sysm other : SysmT} (ticks : other.ticks = sysm.ticks)
    (bootTime : other.bootTime = sysm.bootTime) (pagesize : other.pagesize = sysm.pagesize)
    (pstat : other.lastProcStat = sysm.lastProcStat) (stat : FileRead) :
    other.loadProcStat stat = sysm.loadProcStat stat := by
  unfold SysmT.loadProcStat SysmT.parseProcStat
  simp only [storeStatFields_congr ticks bootTime pagesize pstat]

theorem procStatRead_confines (pid : Int32) (timenow : Int) (stat : FileRead) :
    processMember.Confines fun sysm => procStatRead sysm pid timenow stat := by
  intro sysm other
  show procStatRead (processMember.put (processMember.get sysm) other) pid timenow stat =
    (procStatRead sysm pid timenow stat).map _
  unfold procStatRead
  by_cases hit : sysm.procStatHit pid timenow = true
  · rw [if_pos hit]
    exact if_pos hit
  · have same := @loadProcStat_congr (sysm.stamp pid timenow)
      ((processMember.put (processMember.get sysm) other).stamp pid timenow) rfl rfl rfl rfl stat
    rw [if_neg hit]
    refine (if_neg hit).trans ?_
    simp only [same]
    cases (sysm.stamp pid timenow).loadProcStat stat with
    | none => rfl
    | some result =>
      cases result with
      | error status => rfl
      | ok pstat => rfl

theorem sysmProcTimeGet_confines (pid : Int32) (timenow : Int) (stat : FileRead) :
    processMember.Confines fun sysm => sysmProcTimeGet sysm pid timenow stat := by
  intro sysm other
  have read := procStatRead_confines pid timenow stat sysm other
  simp only [sysmProcTimeGet, read]
  cases procStatRead sysm pid timenow stat with
  | none => rfl
  | some result =>
    by_cases bad : result.1 ≠ 0
    · simp only [Option.map_some, Option.bind_eq_bind, Option.bind_some, if_pos bad]
      rfl
    · simp only [Option.map_some, Option.bind_eq_bind, Option.bind_some, if_neg bad]
      rfl

theorem sysmProcMemGet_confines (pid : Int32) (timenow : Int) (stat statm : FileRead) :
    processMember.Confines fun sysm => sysmProcMemGet sysm pid timenow stat statm := by
  intro sysm other
  have read := procStatRead_confines pid timenow stat sysm other
  simp only [sysmProcMemGet, read]
  cases procStatRead sysm pid timenow stat with
  | none => rfl
  | some result =>
    simp only [Option.map_some, Option.bind_eq_bind, Option.bind_some]
    cases sysmProcFile2str BUFSIZ statm with
    | none => rfl
    | some file =>
      cases file with
      | error status => rfl
      | ok ptr => rfl

theorem sysmCpuCoreRollup_confines (cpuid : UInt32 → SysmCpuid) :
    processMember.Confines fun sysm => some (sysmCpuCoreRollup sysm cpuid) := by
  intro sysm other
  simp only [sysmCpuCoreRollup, sysmCpuCoreCount_eq, Option.map_some]
  rfl

/-- The decision does not depend on the rest, either. -/
theorem sysmCpuCoreRollup_put (cpuid : UInt32 → SysmCpuid) (sysm other : SysmT) :
    sysmCpuCoreRollup (processMember.put (processMember.get sysm) other) cpuid =
      ((sysmCpuCoreRollup sysm cpuid).1, processMember.put (processMember.get (sysmCpuCoreRollup sysm cpuid).2) other) :=
  Option.some.inj (sysmCpuCoreRollup_confines cpuid sysm other)

theorem sysmProcStateGet_confines (cpuid : UInt32 → SysmCpuid) (pid : Int32) (timenow : Int) (stat status : FileRead) :
    processMember.Confines fun sysm => sysmProcStateGet sysm cpuid pid timenow stat status := by
  intro sysm other
  have read := procStatRead_confines pid timenow stat sysm other
  simp only [sysmProcStateGet, read]
  cases procStatRead sysm pid timenow stat with
  | none => rfl
  | some result =>
    simp only [Option.map_some, Option.bind_eq_bind, Option.bind_some]
    by_cases bad : result.1 ≠ 0
    · simp only [if_pos bad]
      rfl
    · simp only [if_neg bad, sysmCpuCoreRollup_put]
      cases procStatusGet status with
      | none => rfl
      | some answer =>
        cases answer with
        | error code => rfl
        | ok threads => rfl

theorem sysmProcCpuGet_confines (pid : Int32) (procCpu : SysmProcCpu) (clock : CpuClock) (stat : FileRead) :
    processMember.Confines fun sysm => sysmProcCpuGet sysm pid procCpu clock stat := by
  intro sysm other
  have entry : (processMember.put (processMember.get sysm) other).procCpuEntry pid clock = sysm.procCpuEntry pid clock := rfl
  simp only [sysmProcCpuGet, entry]
  cases sysm.procCpuEntry pid clock with
  | none => rfl
  | some found =>
    simp only [Option.bind_eq_bind, Option.bind_some]
    cases found.1.store found.2.1 (some { found.2.2 with lastTime := clock.timeNow }) with
    | none => rfl
    | some table =>
      simp only [Option.bind_some]
      split
      · rfl
      · have read := sysmProcTimeGet_confines pid clock.seconds stat { sysm with procCpu := some table } other
        have same : processMember.put (processMember.get { sysm with procCpu := some table }) other =
            { processMember.put (processMember.get sysm) other with procCpu := some table } := rfl
        rw [same] at read
        simp only [read]
        cases sysmProcTimeGet { sysm with procCpu := some table } pid clock.seconds stat with
        | none => rfl
        | some result =>
          obtain ⟨answer, next⟩ := result
          simp only [Option.map_some, Option.bind_some]
          cases answer with
          | error status => rfl
          | ok time =>
            simp only [Option.map_bind]
            rfl

theorem cpuListLines_congr {sysm other : SysmT} (ticks : other.ticks = sysm.ticks) (lcpu : other.lcpu = sysm.lcpu)
    (coreRollup : Bool) (memory : Nat → SysmCpu) (i : Nat) (cpuList : GrowList SysmCpu) (lines : List Text) :
    cpuListLines other coreRollup memory i cpuList lines = cpuListLines sysm coreRollup memory i cpuList lines := by
  induction lines generalizing i cpuList with
  | nil => rfl
  | cons line lines ih => simp only [cpuListLines, cpuListLine, ticks, lcpu, ih]

theorem sysmCpuListGet_confines (cpuid : UInt32 → SysmCpuid) (memory : Nat → SysmCpu) (stat : Except Int (List UInt8)) :
    processMember.Confines fun sysm => sysmCpuListGet sysm cpuid memory stat := by
  intro sysm other
  simp only [sysmCpuListGet, sysmCpuCoreRollup_put]
  generalize sysmCpuCoreRollup sysm cpuid = rolled
  cases stat with
  | error errno => rfl
  | ok stream =>
    have same := @cpuListLines_congr rolled.2 (processMember.put (processMember.get rolled.2) other) rfl rfl
    simp only [same]
    cases cpuListLines rolled.2 rolled.1 memory 0 (.create sysmCpuMax memory) (fgetsAll BUFSIZ stream).tail with
    | none => rfl
    | some cpuList =>
      simp only [Option.bind_eq_bind, Option.bind_some]
      split
      · cases (fgetsAll BUFSIZ stream).head? with
        | none => rfl
        | some cpuTotal =>
          simp only [Option.bind_some, put_ticks, get_ticks]
          cases cpuList.write 0 (getCpuMetrics rolled.2.ticks .zero cpuTotal) with
          | none => rfl
          | some _ => rfl
      · rfl

theorem cpuInfoRounds_congr {sysm other : SysmT} (lcpu : other.lcpu = sysm.lcpu) (ncpu : other.ncpu = sysm.ncpu)
    (coreRollup : Bool) (files : Text → FileRead) (memory : Nat → SysmCpuInfo) (rounds i : Nat)
    (cpuInfos : GrowList SysmCpuInfo) (lines : List Text) :
    cpuInfoRounds other coreRollup files memory rounds i cpuInfos lines =
      cpuInfoRounds sysm coreRollup files memory rounds i cpuInfos lines := by
  induction rounds generalizing i cpuInfos lines with
  | zero => rfl
  | succ rounds ih => simp only [cpuInfoRounds, cpuInfoDescribe, sysmCpuSocketCount, lcpu, ncpu, ih]

theorem sysmCpuInfoListGet_confines (cpuid : UInt32 → SysmCpuid) (conf : UInt32) (files : Text → FileRead)
    (memory : Nat → SysmCpuInfo) (cpuinfo : Except Int (List UInt8)) :
    processMember.Confines fun sysm => sysmCpuInfoListGet sysm cpuid conf files memory cpuinfo := by
  intro sysm other
  simp only [sysmCpuInfoListGet, sysmCpuCoreRollup_put]
  generalize sysmCpuCoreRollup sysm cpuid = rolled
  cases cpuinfo with
  | error errno => rfl
  | ok stream =>
    have same := @cpuInfoRounds_congr { rolled.2 with ncpu := conf }
      { processMember.put (processMember.get rolled.2) other with ncpu := conf } rfl rfl
    simp only [same]
    cases cpuInfoRounds { rolled.2 with ncpu := conf } rolled.1 files memory ((fgetsAll BUFSIZ stream).length + 1) 0
        (.create sysmCpuMax memory) (fgetsAll BUFSIZ stream) with
    | none => rfl
    | some cpuInfos => rfl

theorem procListEntries_congr {sysm other : SysmT} (hasNptl : other.hasNptl = sysm.hasNptl)
    (offset : other.procSignalOffset = sysm.procSignalOffset) (stat : Text → FileRead) (memory : Nat → Int32)
    (procList : GrowList Int32) (names : List Text) :
    procListEntries other stat memory procList names = procListEntries sysm stat memory procList names := by
  induction names generalizing procList with
  | nil => rfl
  | cons name names ih => simp only [procListEntries, procListEntry, SysmT.takenForThread, hasNptl, offset, ih]

theorem sysmOsProcListGet_confines (proc : ProcFiles) (memory : Nat → Int32) (procList : GrowList Int32) :
    processMember.Confines fun sysm => sysmOsProcListGet sysm proc memory procList := by
  intro sysm other
  simp only [sysmOsProcListGet]
  cases proc.names with
  | error errno => rfl
  | ok names =>
    have scan (at' : SysmT) :
        ((procListEntries (processMember.put (processMember.get at') other) proc.stat memory procList names).bind
          fun procList => some (((0 : Int), procList), processMember.put (processMember.get at') other)) =
        ((procListEntries at' proc.stat memory procList names).bind fun procList => some (((0 : Int), procList), at')).map
          fun result => (result.1, processMember.put (processMember.get result.2) other) := by
      rw [@procListEntries_congr at' (processMember.put (processMember.get at') other) rfl rfl, Option.map_bind]
      rfl
    by_cases unknown : (!sysm.hasNptl && sysm.procSignalOffset == -1) = true
    · have unknown' : (!(processMember.put (processMember.get sysm) other).hasNptl &&
          (processMember.put (processMember.get sysm) other).procSignalOffset == -1) = true := unknown
      simp only [if_pos unknown, if_pos unknown']
      cases getProcSignalOffset proc.self with
      | none => rfl
      | some offset => exact scan { sysm with procSignalOffset := offset }
    · have unknown' : ¬ (!(processMember.put (processMember.get sysm) other).hasNptl &&
          (processMember.put (processMember.get sysm) other).procSignalOffset == -1) = true := unknown
      simp only [if_neg unknown, if_neg unknown']
      exact scan sysm

theorem sysmProcListGet_confines (withList : Bool) (proc : ProcFiles) (memory : Nat → Int32) :
    processMember.Confines fun sysm => sysmProcListGet sysm withList proc memory := by
  intro sysm other
  simp only [sysmProcListGet]
  split
  · exact sysmOsProcListGet_confines proc memory _ sysm other
  · have stores (kept : GrowList Int32) :
        ((sysmOsProcListGet (processMember.put (processMember.get sysm) other) proc memory kept).bind fun result =>
          some ((result.1.1, result.1.2), { result.2 with pids := some result.1.2 })) =
        ((sysmOsProcListGet sysm proc memory kept).bind fun result =>
          some ((result.1.1, result.1.2), { result.2 with pids := some result.1.2 })).map
            fun result => (result.1, processMember.put (processMember.get result.2) other) := by
      have read := sysmOsProcListGet_confines proc memory kept sysm other
      simp only [read]
      cases sysmOsProcListGet sysm proc memory kept with
      | none => rfl
      | some result => rfl
    exact stores _

theorem procStatLoop_confines (cpuid : UInt32 → SysmCpuid) (pids : GrowList Int32) (reads : Nat → ProcRead)
    (procStat : SysmProcStat) (places : List Nat) :
    processMember.Confines fun sysm => procStatLoop cpuid pids reads procStat sysm places := by
  induction places generalizing procStat with
  | nil =>
    intro sysm other
    rfl
  | cons i places ih =>
    intro sysm other
    simp only [procStatLoop, procStateAt]
    cases pids.read i with
    | none => rfl
    | some pid =>
      have read := sysmProcStateGet_confines cpuid pid (reads i).timenow (reads i).stat (reads i).status sysm other
      simp only [Option.bind_eq_bind, Option.bind_some, read]
      cases sysmProcStateGet sysm cpuid pid (reads i).timenow (reads i).stat (reads i).status with
      | none => rfl
      | some result =>
        obtain ⟨answer, next⟩ := result
        cases answer with
        | error code => exact ih procStat next other
        | ok state => exact ih (procStat.addState state) next other

theorem sysmProcStatGet_confines (cpuid : UInt32 → SysmCpuid) (proc : ProcFiles) (memory : Nat → Int32)
    (reads : Nat → ProcRead) : processMember.Confines fun sysm => sysmProcStatGet sysm cpuid proc memory reads := by
  intro sysm other
  have listed := sysmProcListGet_confines false proc memory sysm other
  simp only [sysmProcStatGet, listed]
  cases sysmProcListGet sysm false proc memory with
  | none => rfl
  | some result =>
    obtain ⟨⟨status, pids⟩, next⟩ := result
    simp only [Option.map_some, Option.bind_eq_bind, Option.bind_some]
    split
    · rfl
    · have loop := procStatLoop_confines cpuid pids reads
        { total := UInt64.ofNat pids.number, sleeping := 0, running := 0, zombie := 0, stopped := 0, idle := 0, threads := -1 }
        (List.range pids.number) next other
      simp only [loop]
      cases procStatLoop cpuid pids reads _ next (List.range pids.number) with
      | none => rfl
      | some _ => rfl

theorem getMtrr_confines (memory : SysmMemory) (file : FileRead) :
    mtrrMember.Confines fun sysm => getMtrr sysm memory file := by
  intro sysm other
  have same : (mtrrMember.put (mtrrMember.get sysm) other).mtrr = sysm.mtrr := rfl
  simp only [getMtrr, same]
  split
  · rfl
  · split
    · rfl
    · cases file with
      | missing => rfl
      | failed errno real => rfl
      | bytes stream =>
        simp only []
        cases mtrrSum 0 (fgetsAll BUFSIZ stream) with
        | none => rfl
        | some mtrr => rfl

theorem sysmMemoryGet_confines (memory : SysmMemory) (meminfo mtrr : FileRead) :
    mtrrMember.Confines fun sysm => sysmMemoryGet sysm memory meminfo mtrr := by
  intro sysm other
  simp only [sysmMemoryGet]
  cases sysmFile2str BUFSIZ meminfo with
  | none => rfl
  | some result =>
    cases result with
    | error status => rfl
    | ok buffer => exact getMtrr_confines (memory.ofMeminfo buffer) mtrr sysm other

theorem sysmPidGet_confines (machine : EnvMachine) : pidMember.Confines fun sysm => some (sysmPidGet sysm machine) :=
  fun _ _ => rfl

theorem sysmIodevGet_confines (disks : Disks) (created : UInt64) (clock : Clock) (dirname : Text) :
    fsdevMember.Confines fun sysm => sysmIodevGet sysm disks created clock dirname := by
  intro sysm other
  have same : (fsdevMember.put (fsdevMember.get sysm) other).fsdev = sysm.fsdev := rfl
  simp only [sysmIodevGet, same]
  cases disks.stat (iodevPath dirname).1 with
  | none => rfl
  | some sb =>
    simp only []
    cases sysmCacheGet (sysm.fsdev.getD (sysmCacheNew _ 15 created)) (sysmFsdevId sb) (clock 0) (clock 1) with
    | none => rfl
    | some found =>
      obtain ⟨fsdev, entry⟩ := found
      simp only [Option.bind_eq_bind, Option.bind_some]
      cases fsdev.value entry with
      | none => rfl
      | some value =>
        cases value with
        | some iodev => rfl
        | none =>
          simp only [Option.bind_some]
          cases iodevFind fsdev entry disks clock.later (iodevPath dirname).1 (iodevPath dirname).2 with
          | none => rfl
          | some _ => rfl

theorem getIostatSys_confines (disks : Disks) (created : UInt64) (clock : Clock) (block : Text → FileRead)
    (dirname : Text) (disk : SysmDiskUsage) :
    fsdevMember.Confines fun sysm => getIostatSys sysm disks created clock block dirname disk := by
  intro sysm other
  have get := sysmIodevGet_confines disks created clock dirname sysm other
  simp only [getIostatSys, get]
  cases sysmIodevGet sysm disks created clock dirname with
  | none => rfl
  | some result =>
    obtain ⟨found, next⟩ := result
    simp only [Option.map_some, Option.bind_eq_bind, Option.bind_some]
    cases found with
    | none => rfl
    | some pair =>
      obtain ⟨entry, iodev⟩ := pair
      simp only []
      have same : (fsdevMember.put (fsdevMember.get next) other).fsdev = next.fsdev := rfl
      split
      · rfl
      · rw [same]
        cases next.fsdev with
        | none => rfl
        | some fsdev =>
          simp only [Option.bind_some]
          cases fsdev.store entry (some { iodev with name := cutName iodev.name }) with
          | none => rfl
          | some table =>
            simp only [Option.bind_some]
            cases sysmFile2str 1025 (block (sysBlockPath iodev.name)) with
            | none => rfl
            | some file =>
              cases file with
              | error status => rfl
              | ok dev => rfl

theorem iostatGet_confines (iostat : Iostat) (disks : Disks) (created : UInt64) (clock : Clock) (files : UsageFiles)
    (memory : List Text → Nat → UInt64) (name : Text) :
    fsdevMember.Confines fun sysm => iostatGet sysm iostat disks created clock files memory name := by
  intro sysm other
  have get := sysmIodevGet_confines disks created clock name sysm other
  cases iostat with
  | none => rfl
  | sys =>
    have sys := getIostatSys_confines disks created clock files.block name .init sysm other
    simp only [iostatGet, sys, Option.map_map]
    rfl
  | diskstats =>
    simp only [iostatGet, getIostatProcDstat, get]
    cases sysmIodevGet sysm disks created clock name with
    | none => rfl
    | some _ => rfl
  | partitions =>
    simp only [iostatGet, getIostatProcp, get]
    cases sysmIodevGet sysm disks created clock name with
    | none => rfl
    | some _ => rfl

theorem sysmDiskUsageGet_confines (iostat : Iostat) (disks : Disks) (created : UInt64) (clock : Clock)
    (files : UsageFiles) (memory : List Text → Nat → UInt64) (name : Text) :
    fsdevMember.Confines fun sysm => sysmDiskUsageGet sysm iostat disks created clock files memory name := by
  intro sysm other
  have get := iostatGet_confines iostat disks created clock files memory name sysm other
  simp only [sysmDiskUsageGet, get]
  cases iostatGet sysm iostat disks created clock files memory name with
  | none => rfl
  | some answer =>
    obtain ⟨⟨result, found⟩, next⟩ := answer
    simp only [Option.map_some, Option.bind_eq_bind, Option.bind_some]
    cases found with
    | none => rfl
    | some pair =>
      obtain ⟨entry, iodev⟩ := pair
      have same : (fsdevMember.put (fsdevMember.get next) other).fsdev = next.fsdev := rfl
      simp only [same]
      by_cases good : result.status = 0
      · simp only [if_pos good]
        cases (if (iodev.isPartition && iostat == .diskstats) = true then result.deviceUsage
            else result.disk).measure iodev.disk files.uptime with
        | none => rfl
        | some usage =>
          simp only [Option.bind_some]
          cases next.fsdev with
          | none => rfl
          | some fsdev =>
            simp only [Option.bind_some]
            cases fsdev.store entry (some { iodev with disk := usage }) with
            | none => rfl
            | some table => rfl
      · simp only [if_neg good]
        rfl

theorem sysmNetStatGet_confines (flags : UInt32) (created : UInt64) (clock : Clock) (files : NetFiles) :
    netListenMember.Confines fun sysm => sysmNetStatGet sysm flags created clock files := by
  intro sysm other
  have same : (netListenMember.put (netListenMember.get sysm) other).netListen = sysm.netListen := rfl
  simp only [sysmNetStatGet, same]
  cases sysmNetConnectionWalk netStatWalker flags files
      ⟨sysm.netListen.getD (sysmCacheNew _ 32 created), .zero, clock⟩ with
  | none => rfl
  | some _ => rfl

theorem netListenRefresh_confines (known : Bool) (created : UInt64) (clock : Clock) (files : NetFiles) :
    netListenMember.Confines fun sysm => netListenRefresh sysm known created clock files := by
  intro sysm other
  cases known with
  | true => rfl
  | false =>
    have walk := sysmNetStatGet_confines (netconnServer ||| netconnTcp) created clock files sysm other
    simp only [netListenRefresh, Bool.false_eq_true, if_false, walk, Option.map_map]
    rfl

theorem sysmNetListenAddressGet_confines (port : UInt64) (address : SysmNetAddress) (created : UInt64)
    (before during after : Clock) (files : NetFiles) : netListenMember.Confines fun sysm =>
      sysmNetListenAddressGet sysm port address created before during after files := by
  intro sysm other
  have same : (netListenMember.put (netListenMember.get sysm) other).netListen = sysm.netListen := rfl
  simp only [sysmNetListenAddressGet, same]
  cases netListenFind sysm.netListen port before with
  | none => rfl
  | some found =>
    obtain ⟨known, netListen⟩ := found
    have refreshed := netListenRefresh_confines known created during files { sysm with netListen } other
    have moved : netListenMember.put (netListenMember.get { sysm with netListen }) other =
        { netListenMember.put (netListenMember.get sysm) other with netListen } := rfl
    rw [moved] at refreshed
    simp only [Option.bind_eq_bind, Option.bind_some, refreshed]
    cases netListenRefresh { sysm with netListen } known created during files with
    | none => rfl
    | some answer =>
      obtain ⟨status, next⟩ := answer
      simp only [Option.map_some, Option.bind_some]
      split
      · rfl
      · have same : (netListenMember.put (netListenMember.get next) other).netListen = next.netListen := rfl
        rw [same]
        cases next.netListen with
        | none => rfl
        | some table =>
          simp only [Option.bind_some]
          cases sysmCacheFind table port (after 0) (after 1) with
          | none => rfl
          | some looked =>
            obtain ⟨table, found⟩ := looked
            cases found with
            | none => rfl
            | some entry =>
              simp only [Option.bind_some]
              cases sysmCacheGet table port (after 2) (after 3) with
              | none => rfl
              | some got =>
                obtain ⟨table, entry⟩ := got
                simp only [Option.bind_some]
                cases table.value entry with
                | none => rfl
                | some value =>
                  cases value with
                  | none => rfl
                  | some address => rfl

end Sysm
