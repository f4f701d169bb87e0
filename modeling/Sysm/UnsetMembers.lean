import Sysm.Lib.Simulation
import Sysm.SysmCalls

namespace Sysm
open CString Machine

/-- The two members of `last_proc_stat` that are never stored. -/
def LinuxProcStat.withPriorities (pri ni : Int32) (pstat : LinuxProcStat) : LinuxProcStat := { pstat with pri, ni }

/-- The same state with other values in the members that `sysm_open` does not set. -/
def SysmT.refill (fill : LinuxProcStat → LinuxProcStat) (ncpu : UInt32) (sysm : SysmT) : SysmT :=
  { sysm with lastProcStat := fill sysm.lastProcStat, ncpu }

/-- The operation takes the same course if these members have other values. It may
store `ncpu`, as `sysm_cpu_info_list_get` does before it reads it. -/
def Refills {α : Type} (fill : LinuxProcStat → LinuxProcStat) (op : SysmT → Option (α × SysmT)) : Prop :=
  ∀ sysm ncpu, ∃ ncpu', op (sysm.refill fill ncpu) = (op sysm).map fun result => (result.1, result.2.refill fill ncpu')

section Unread

variable {α β : Type} {fill : LinuxProcStat → LinuxProcStat}

theorem Refills.map {op : SysmT → Option (α × SysmT)} (refills : Refills fill op) (f : α → β) :
    Refills fill fun sysm => (op sysm).map fun result => (f result.1, result.2) := by
  intro sysm ncpu
  obtain ⟨ncpu', same⟩ := refills sysm ncpu
  refine ⟨ncpu', ?_⟩
  simp only [same, Option.map_map]
  rfl

/-- An operation on another part of `sysm_t` -/
theorem Refills.of_confines {op : SysmT → Option (α × SysmT)} {part : SysmPart} (confines : part.member.Confines op)
    (other : part ≠ .processes) : Refills fill op := by
  intro sysm ncpu
  refine ⟨ncpu, ?_⟩
  have moved := confines sysm (sysm.refill fill ncpu)
  have own (at' : SysmT) : part.member.put (part.member.get at') (at'.refill fill ncpu) = at'.refill fill ncpu := by
    cases part with
    | processes => exact absurd rfl other
    | memory | disks | sockets | self => rfl
  rw [own] at moved
  rw [moved]
  cases ran : op sysm with
  | none => rfl
  | some result =>
    obtain ⟨answer, next⟩ := result
    have frame := confines.next ran
    have last : part.member.put (part.member.get next) (sysm.refill fill ncpu) = next.refill fill ncpu := by
      rw [frame]
      cases part with
      | processes => exact absurd rfl other
      | memory | disks | sockets | self => rfl
    rw [Option.map_some, Option.map_some, last]

theorem sysmCpuCoreRollup_refill (cpuid : UInt32 → SysmCpuid) (sysm : SysmT) (ncpu : UInt32) :
    sysmCpuCoreRollup (sysm.refill fill ncpu) cpuid =
      ((sysmCpuCoreRollup sysm cpuid).1, (sysmCpuCoreRollup sysm cpuid).2.refill fill ncpu) := by
  simp only [sysmCpuCoreRollup, sysmCpuCoreCount_eq]
  rfl

theorem sysmCpuGet_refills (stat : FileRead) :
    Refills fill fun sysm => (sysmCpuGet sysm stat).map fun result => (result, sysm) := by
  intro sysm ncpu
  refine ⟨ncpu, ?_⟩
  have same : sysmCpuGet (sysm.refill fill ncpu) stat = sysmCpuGet sysm stat := rfl
  simp only [same, Option.map_map]
  rfl

theorem sysmCpuListGet_refills (cpuid : UInt32 → SysmCpuid) (memory : Nat → SysmCpu) (stat : Except Int (List UInt8)) :
    Refills fill fun sysm => sysmCpuListGet sysm cpuid memory stat := by
  intro sysm ncpu
  refine ⟨ncpu, ?_⟩
  simp only [sysmCpuListGet, sysmCpuCoreRollup_refill]
  generalize sysmCpuCoreRollup sysm cpuid = rolled
  cases stat with
  | error errno => rfl
  | ok stream =>
    have same := @cpuListLines_congr rolled.2 (rolled.2.refill fill ncpu) rfl rfl
    have ticks : (rolled.2.refill fill ncpu).ticks = rolled.2.ticks := rfl
    simp only [same, ticks]
    cases cpuListLines rolled.2 rolled.1 memory 0 (.create sysmCpuMax memory) (fgetsAll BUFSIZ stream).tail with
    | none => rfl
    | some cpuList =>
      simp only [Option.bind_eq_bind, Option.bind_some]
      by_cases empty : cpuList.number = 0
      · simp only [if_pos empty]
        cases (fgetsAll BUFSIZ stream).head? with
        | none => rfl
        | some cpuTotal =>
          simp only [Option.bind_some]
          cases cpuList.write 0 (getCpuMetrics rolled.2.ticks .zero cpuTotal) with
          | none => rfl
          | some _ => rfl
      · simp only [if_neg empty]
        rfl

theorem sysmCpuInfoListGet_refills (cpuid : UInt32 → SysmCpuid) (conf : UInt32) (files : Text → FileRead)
    (memory : Nat → SysmCpuInfo) (cpuinfo : Except Int (List UInt8)) :
    Refills fill fun sysm => sysmCpuInfoListGet sysm cpuid conf files memory cpuinfo := by
  intro sysm ncpu
  simp only [sysmCpuInfoListGet, sysmCpuCoreRollup_refill]
  generalize sysmCpuCoreRollup sysm cpuid = rolled
  cases cpuinfo with
  | error errno => exact ⟨ncpu, rfl⟩
  | ok stream =>
    refine ⟨conf, ?_⟩
    have same := @cpuInfoRounds_congr { rolled.2 with ncpu := conf } { rolled.2.refill fill ncpu with ncpu := conf } rfl rfl
    simp only [same]
    cases cpuInfoRounds { rolled.2 with ncpu := conf } rolled.1 files memory ((fgetsAll BUFSIZ stream).length + 1) 0
        (.create sysmCpuMax memory) (fgetsAll BUFSIZ stream) with
    | none => rfl
    | some cpuInfos => rfl

theorem sysmOsProcListGet_refill (proc : ProcFiles) (memory : Nat → Int32) (procList : GrowList Int32) (sysm : SysmT)
    (ncpu : UInt32) : sysmOsProcListGet (sysm.refill fill ncpu) proc memory procList =
      (sysmOsProcListGet sysm proc memory procList).map fun result => (result.1, result.2.refill fill ncpu) := by
  simp only [sysmOsProcListGet]
  cases proc.names with
  | error errno => rfl
  | ok names =>
    have scan (at' : SysmT) :
        ((procListEntries (at'.refill fill ncpu) proc.stat memory procList names).bind
          fun procList => some (((0 : Int), procList), at'.refill fill ncpu)) =
        ((procListEntries at' proc.stat memory procList names).bind fun procList => some (((0 : Int), procList), at')).map
          fun result => (result.1, result.2.refill fill ncpu) := by
      rw [@procListEntries_congr at' (at'.refill fill ncpu) rfl rfl, Option.map_bind]
      rfl
    by_cases unknown : (!sysm.hasNptl && sysm.procSignalOffset == -1) = true
    · have unknown' : (!(sysm.refill fill ncpu).hasNptl && (sysm.refill fill ncpu).procSignalOffset == -1) = true := unknown
      simp only [if_pos unknown, if_pos unknown']
      cases getProcSignalOffset proc.self with
      | none => rfl
      | some offset => exact scan { sysm with procSignalOffset := offset }
    · have unknown' : ¬ (!(sysm.refill fill ncpu).hasNptl && (sysm.refill fill ncpu).procSignalOffset == -1) = true := unknown
      simp only [if_neg unknown, if_neg unknown']
      exact scan sysm

theorem sysmProcListGet_refill (withList : Bool) (proc : ProcFiles) (memory : Nat → Int32) (sysm : SysmT) (ncpu : UInt32) :
    sysmProcListGet (sysm.refill fill ncpu) withList proc memory =
      (sysmProcListGet sysm withList proc memory).map fun result => (result.1, result.2.refill fill ncpu) := by
  simp only [sysmProcListGet]
  cases withList with
  | true => exact sysmOsProcListGet_refill proc memory _ sysm ncpu
  | false =>
    have stores (kept : GrowList Int32) :
        ((sysmOsProcListGet (sysm.refill fill ncpu) proc memory kept).bind fun result =>
          some ((result.1.1, result.1.2), { result.2 with pids := some result.1.2 })) =
        ((sysmOsProcListGet sysm proc memory kept).bind fun result =>
          some ((result.1.1, result.1.2), { result.2 with pids := some result.1.2 })).map
            fun result => (result.1, result.2.refill fill ncpu) := by
      rw [sysmOsProcListGet_refill proc memory kept sysm ncpu]
      cases sysmOsProcListGet sysm proc memory kept with
      | none => rfl
      | some result => rfl
    exact stores _

end Unread

section Read

variable {pri ni : Int32} {a b sysm sysm' loaded : SysmT} {pid : Int32} {now : Int} {stat : FileRead} {ncpu : UInt32}

/-- Two states with one key and time stamp load the same fields, but for the two that are not stored. -/
theorem storeStatFields_priorities (ticks : b.ticks = a.ticks) (bootTime : b.bootTime = a.bootTime)
    (pagesize : b.pagesize = a.pagesize) (key : b.lastProcStat.pid = a.lastProcStat.pid)
    (mtime : b.lastProcStat.mtime = a.lastProcStat.mtime) (name : Text) (state : UInt8) (ptr : Text) :
    b.storeStatFields name state ptr =
      (a.storeStatFields name state ptr).map (·.withPriorities b.lastProcStat.pri b.lastProcStat.ni) := by
  unfold SysmT.storeStatFields
  simp only [ticks, bootTime, pagesize]
  by_cases zero : a.ticks = 0
  · rw [if_pos zero, if_pos zero, Option.map_none]
  · rw [if_neg zero, if_neg zero, Option.map_some, LinuxProcStat.withPriorities, key, mtime]

theorem loadProcStat_priorities (ticks : b.ticks = a.ticks) (bootTime : b.bootTime = a.bootTime)
    (pagesize : b.pagesize = a.pagesize) (key : b.lastProcStat.pid = a.lastProcStat.pid)
    (mtime : b.lastProcStat.mtime = a.lastProcStat.mtime) (stat : FileRead) :
    b.loadProcStat stat = (a.loadProcStat stat).map fun result =>
      result.map (·.withPriorities b.lastProcStat.pri b.lastProcStat.ni) := by
  have stored := storeStatFields_priorities ticks bootTime pagesize key mtime
  unfold SysmT.loadProcStat
  cases sysmProcFile2str BUFSIZ stat with
  | none => rfl
  | some file =>
    simp only [Option.bind_eq_bind, Option.bind_some]
    cases file with
    | error status => rfl
    | ok buffer =>
      simp only [SysmT.parseProcStat]
      cases strchr 40 buffer with
      | none => rfl
      | some opening =>
        simp only []
        cases strrchr 41 opening.tail with
        | none => rfl
        | some closing =>
          simp only []
          cases skipSpace closing.tail with
          | nil => rfl
          | cons state ptr =>
            simp only [stored, Option.map_map]
            rfl

theorem procStatRead_priorities (pri ni : Int32) (sysm : SysmT) (ncpu : UInt32) (pid : Int32) (now : Int) (stat : FileRead) :
    procStatRead (sysm.refill (·.withPriorities pri ni) ncpu) pid now stat =
      (procStatRead sysm pid now stat).map fun result => (result.1, result.2.refill (·.withPriorities pri ni) ncpu) := by
  unfold procStatRead
  by_cases hit : sysm.procStatHit pid now = true
  · have hit' : (sysm.refill (·.withPriorities pri ni) ncpu).procStatHit pid now = true := hit
    rw [if_pos hit, if_pos hit', Option.map_some]
  · have miss : ¬ (sysm.refill (·.withPriorities pri ni) ncpu).procStatHit pid now = true := hit
    have load := @loadProcStat_priorities (sysm.stamp pid now) ((sysm.refill (·.withPriorities pri ni) ncpu).stamp pid now)
      rfl rfl rfl rfl rfl stat
    rw [if_neg hit, if_neg miss]
    simp only [load]
    cases (sysm.stamp pid now).loadProcStat stat with
    | none => rfl
    | some result =>
      cases result with
      | error status => rfl
      | ok pstat => rfl

/-- The first file that can be read replaces what the block held, but for the two. -/
theorem procStatRead_first {block : LinuxProcStat} (other : sysm.lastProcStat.pid ≠ pid) (other' : block.pid ≠ pid)
    (read : procStatRead sysm pid now stat = some (0, loaded)) :
    procStatRead (sysm.refill (fun _ => block) ncpu) pid now stat =
      some (0, loaded.refill (·.withPriorities block.pri block.ni) ncpu) := by
  have miss : ¬ sysm.procStatHit pid now = true := by simp [SysmT.procStatHit, other]
  have miss' : ¬ (sysm.refill (fun _ => block) ncpu).procStatHit pid now = true := by
    simp [SysmT.procStatHit, SysmT.refill, other']
  have load := @loadProcStat_priorities (sysm.stamp pid now) ((sysm.refill (fun _ => block) ncpu).stamp pid now)
    rfl rfl rfl rfl rfl stat
  unfold procStatRead at read ⊢
  rw [if_neg miss] at read
  rw [if_neg miss']
  simp only [load]
  obtain ⟨result, got, read⟩ := Option.bind_eq_some_iff.mp read
  rw [got]
  cases result with
  | error status =>
    obtain ⟨zero, _⟩ := Prod.mk.inj (Option.some.inj read)
    exact absurd zero (loadProcStat_error got)
  | ok pstat =>
    cases read
    rfl

def SysmProcState.withPriorities (pri ni : Int32) (procState : SysmProcState) : SysmProcState :=
  { procState with priority := pri, nice := ni }

/-- The rest of a call keeps what `proc_stat_read` keeps. -/
theorem sysmProcTimeGet_of_read (read : procStatRead sysm' pid now stat = (procStatRead sysm pid now stat).map fun result =>
      (result.1, result.2.refill (·.withPriorities pri ni) ncpu)) :
    sysmProcTimeGet sysm' pid now stat = (sysmProcTimeGet sysm pid now stat).map fun result =>
      (result.1, result.2.refill (·.withPriorities pri ni) ncpu) := by
  simp only [sysmProcTimeGet, read]
  cases procStatRead sysm pid now stat with
  | none => rfl
  | some result =>
    by_cases bad : result.1 ≠ 0
    · simp only [Option.map_some, Option.bind_eq_bind, Option.bind_some, if_pos bad]
      rfl
    · simp only [Option.map_some, Option.bind_eq_bind, Option.bind_some, if_neg bad]
      rfl

theorem sysmProcMemGet_of_read (statm : FileRead)
    (read : procStatRead sysm' pid now stat = (procStatRead sysm pid now stat).map fun result =>
      (result.1, result.2.refill (·.withPriorities pri ni) ncpu)) :
    sysmProcMemGet sysm' pid now stat statm = (sysmProcMemGet sysm pid now stat statm).map fun result =>
      (result.1, result.2.refill (·.withPriorities pri ni) ncpu) := by
  simp only [sysmProcMemGet, read]
  cases procStatRead sysm pid now stat with
  | none => rfl
  | some result =>
    simp only [Option.map_some, Option.bind_eq_bind, Option.bind_some]
    cases sysmProcFile2str BUFSIZ statm with
    | none => rfl
    | some file =>
      cases file with
      | error status => rfl
      | ok ptr => rfl

theorem sysmProcStateGet_of_read (cpuid : UInt32 → SysmCpuid) (status : FileRead)
    (read : procStatRead sysm' pid now stat = (procStatRead sysm pid now stat).map fun result =>
      (result.1, result.2.refill (·.withPriorities pri ni) ncpu)) :
    sysmProcStateGet sysm' cpuid pid now stat status = (sysmProcStateGet sysm cpuid pid now stat status).map fun result =>
      (result.1.map (·.withPriorities pri ni), result.2.refill (·.withPriorities pri ni) ncpu) := by
  simp only [sysmProcStateGet, read]
  cases procStatRead sysm pid now stat with
  | none => rfl
  | some result =>
    simp only [Option.map_some, Option.bind_eq_bind, Option.bind_some]
    by_cases bad : result.1 ≠ 0
    · simp only [if_pos bad]
      rfl
    · simp only [if_neg bad, sysmCpuCoreRollup_refill]
      cases procStatusGet status with
      | none => rfl
      | some answer =>
        cases answer with
        | error code => rfl
        | ok threads => rfl

theorem sysmProcCpuGet_priorities (pri ni : Int32) (sysm : SysmT) (ncpu : UInt32) (pid : Int32) (procCpu : SysmProcCpu)
    (clock : CpuClock) (stat : FileRead) :
    sysmProcCpuGet (sysm.refill (·.withPriorities pri ni) ncpu) pid procCpu clock stat =
      (sysmProcCpuGet sysm pid procCpu clock stat).map fun result =>
        (result.1, result.2.refill (·.withPriorities pri ni) ncpu) := by
  have entry : (sysm.refill (·.withPriorities pri ni) ncpu).procCpuEntry pid clock = sysm.procCpuEntry pid clock := rfl
  simp only [sysmProcCpuGet, entry]
  cases sysm.procCpuEntry pid clock with
  | none => rfl
  | some found =>
    simp only [Option.bind_eq_bind, Option.bind_some]
    cases found.1.store found.2.1 (some { found.2.2 with lastTime := clock.timeNow }) with
    | none => rfl
    | some table =>
      simp only [Option.bind_some]
      by_cases again : clock.timeNow - found.2.2.lastTime = 0
      · simp only [if_pos again]
        rfl
      · simp only [if_neg again]
        have read := sysmProcTimeGet_of_read
          (procStatRead_priorities pri ni { sysm with procCpu := some table } ncpu pid clock.seconds stat)
        have same : SysmT.refill (·.withPriorities pri ni) ncpu { sysm with procCpu := some table } =
            { sysm.refill (·.withPriorities pri ni) ncpu with procCpu := some table } := rfl
        rw [same] at read
        simp only [read]
        cases sysmProcTimeGet { sysm with procCpu := some table } pid clock.seconds stat with
        | none => rfl
        | some result =>
          obtain ⟨answer, next⟩ := result
          simp only [Option.map_some, Option.bind_some]
          cases answer with
          | error status => rfl
          | ok time =>
            simp only [Option.map_bind]
            rfl

theorem procStatLoop_priorities (pri ni : Int32) (ncpu : UInt32) (cpuid : UInt32 → SysmCpuid) (pids : GrowList Int32)
    (reads : Nat → ProcRead) (procStat : SysmProcStat) (sysm : SysmT) (places : List Nat) :
    procStatLoop cpuid pids reads procStat (sysm.refill (·.withPriorities pri ni) ncpu) places =
      (procStatLoop cpuid pids reads procStat sysm places).map fun result =>
        (result.1, result.2.refill (·.withPriorities pri ni) ncpu) := by
  induction places generalizing procStat sysm with
  | nil => rfl
  | cons i places ih =>
    simp only [procStatLoop, procStateAt]
    cases pids.read i with
    | none => rfl
    | some pid =>
      have read := sysmProcStateGet_of_read cpuid (reads i).status
        (procStatRead_priorities pri ni sysm ncpu pid (reads i).timenow (reads i).stat)
      simp only [Option.bind_eq_bind, Option.bind_some, read]
      cases sysmProcStateGet sysm cpuid pid (reads i).timenow (reads i).stat (reads i).status with
      | none => rfl
      | some result =>
        obtain ⟨answer, next⟩ := result
        cases answer with
        | error code => exact ih procStat next
        -- the counters do not look at the priority and the nice value
        | ok state => exact ih (procStat.addState state) next

theorem sysmProcStatGet_priorities (pri ni : Int32) (sysm : SysmT) (ncpu : UInt32) (cpuid : UInt32 → SysmCpuid)
    (proc : ProcFiles) (memory : Nat → Int32) (reads : Nat → ProcRead) :
    sysmProcStatGet (sysm.refill (·.withPriorities pri ni) ncpu) cpuid proc memory reads =
      (sysmProcStatGet sysm cpuid proc memory reads).map fun result =>
        (result.1, result.2.refill (·.withPriorities pri ni) ncpu) := by
  simp only [sysmProcStatGet, sysmProcListGet_refill]
  cases sysmProcListGet sysm false proc memory with
  | none => rfl
  | some result =>
    obtain ⟨⟨status, pids⟩, next⟩ := result
    simp only [Option.map_some, Option.bind_eq_bind, Option.bind_some]
    by_cases bad : status ≠ 0
    · simp only [if_pos bad]
      rfl
    · simp only [if_neg bad, procStatLoop_priorities]
      cases procStatLoop cpuid pids reads _ next (List.range pids.number) with
      | none => rfl
      | some _ => rfl

end Read

def ProcReply.withPriorities (pri ni : Int32) : ProcReply → ProcReply
  | .state result => .state (result.map (·.withPriorities pri ni))
  | reply => reply

def FoldReply.withPriorities (pri ni : Int32) : FoldReply → FoldReply
  | .state result => .state (result.map (·.withPriorities pri ni))
  | reply => reply

/-- The reply with another priority and nice value, if it is that of `sysm_proc_state_get`. -/
def SysmReply.withPriorities (pri ni : Int32) : SysmReply → SysmReply
  | .proc reply => .proc (reply.withPriorities pri ni)
  | .cpus (reply, decision) => .cpus (reply.withPriorities pri ni, decision)
  | reply => reply

section Step

variable {pri ni : Int32}

theorem procStep_priorities (pri ni : Int32) (sysm : SysmT) (ncpu : UInt32) (event : ProcEvent) :
    procStep (sysm.refill (·.withPriorities pri ni) ncpu) event = (procStep sysm event).map fun result =>
      (result.1.withPriorities pri ni, result.2.refill (·.withPriorities pri ni) ncpu) := by
  obtain ⟨pid, now, stat, call⟩ := event
  have read := procStatRead_priorities pri ni sysm ncpu pid now stat
  cases call with
  | time =>
    simp only [procStep, sysmProcTimeGet_of_read read, Option.map_map]
    rfl
  | state cpuid status =>
    simp only [procStep, sysmProcStateGet_of_read cpuid status read, Option.map_map]
    rfl
  | mem statm =>
    simp only [procStep, sysmProcMemGet_of_read statm read, Option.map_map]
    rfl
  | cpu procCpu clock =>
    simp only [procStep, sysmProcCpuGet_priorities, Option.map_map]
    rfl

theorem foldStep_priorities (pri ni : Int32) (machine : CpuMachine) (sysm : SysmT) (ncpu : UInt32) (call : FoldCall) :
    ∃ ncpu', foldStep machine (sysm.refill (·.withPriorities pri ni) ncpu) call = (foldStep machine sysm call).map fun result =>
      ((result.1.1.withPriorities pri ni, result.1.2), result.2.refill (·.withPriorities pri ni) ncpu') := by
  cases call with
  | list memory =>
    obtain ⟨ncpu', same⟩ := @sysmCpuListGet_refills (·.withPriorities pri ni) machine.cpuid memory machine.stat sysm ncpu
    refine ⟨ncpu', ?_⟩
    simp only [foldStep, FoldCall.result, FoldCall.decision, same, sysmCpuCoreRollup_refill, Option.map_map]
    rfl
  | infoList memory =>
    obtain ⟨ncpu', same⟩ := @sysmCpuInfoListGet_refills (·.withPriorities pri ni) machine.cpuid machine.conf machine.cpuFiles
      memory machine.cpuinfo sysm ncpu
    refine ⟨ncpu', ?_⟩
    simp only [foldStep, FoldCall.result, FoldCall.decision, same, sysmCpuCoreRollup_refill, Option.map_map]
    rfl
  | state pid timenow =>
    have read := procStatRead_priorities pri ni sysm ncpu pid timenow (machine.procStat pid)
    refine ⟨ncpu, ?_⟩
    have decision : FoldCall.decision machine (sysm.refill (·.withPriorities pri ni) ncpu) (.state pid timenow) =
        FoldCall.decision machine sysm (.state pid timenow) := by
      simp only [FoldCall.decision, read]
      cases procStatRead sysm pid timenow (machine.procStat pid) with
      | none => rfl
      | some result => simp only [Option.map_some, Option.bind_eq_bind, Option.bind_some, sysmCpuCoreRollup_refill]
    simp only [foldStep, FoldCall.result, sysmProcStateGet_of_read machine.cpuid (machine.procStatus pid) read, decision,
      Option.map_map]
    rfl

/-- The call goes through `proc_stat_read`. -/
def SysmCall.readsStat : SysmCall → Bool
  | .proc _ => true
  | .cpus _ (.state _ _) => true
  | .procStat _ _ _ _ => true
  | _ => false

/-- Any other call has nothing to do with `last_proc_stat`. -/
theorem sysmStep_unread (pri ni : Int32) (fill : LinuxProcStat → LinuxProcStat) {call : SysmCall}
    (unread : call.readsStat = false) (sysm : SysmT) (ncpu : UInt32) :
    ∃ ncpu', sysmStep (sysm.refill fill ncpu) call = (sysmStep sysm call).map fun result =>
      (result.1.withPriorities pri ni, result.2.refill fill ncpu') := by
  have shown {α : Type} {op : SysmT → Option (α × SysmT)} (refills : Refills fill op) (reply : α → SysmReply)
      (plain : ∀ result, (reply result).withPriorities pri ni = reply result) :
      ∃ ncpu', (op (sysm.refill fill ncpu)).map (fun result => (reply result.1, result.2)) =
        ((op sysm).map fun result => (reply result.1, result.2)).map fun result =>
          (result.1.withPriorities pri ni, result.2.refill fill ncpu') := by
    obtain ⟨ncpu', same⟩ := refills sysm ncpu
    refine ⟨ncpu', ?_⟩
    simp only [same, Option.map_map]
    refine congrArg (fun f => (op sysm).map f) (funext fun result => ?_)
    simp only [Function.comp_apply, plain]
  cases call with
  | proc | procStat => cases unread
  | cpu stat => exact shown (sysmCpuGet_refills stat) SysmReply.cpu fun _ => rfl
  | cpus machine call =>
    cases call with
    | state => cases unread
    | list memory =>
      obtain ⟨ncpu', same⟩ := @sysmCpuListGet_refills fill machine.cpuid memory machine.stat sysm ncpu
      refine ⟨ncpu', ?_⟩
      simp only [sysmStep, foldStep, FoldCall.result, FoldCall.decision, same, sysmCpuCoreRollup_refill, Option.map_map]
      rfl
    | infoList memory =>
      obtain ⟨ncpu', same⟩ := @sysmCpuInfoListGet_refills fill machine.cpuid machine.conf machine.cpuFiles memory
        machine.cpuinfo sysm ncpu
      refine ⟨ncpu', ?_⟩
      simp only [sysmStep, foldStep, FoldCall.result, FoldCall.decision, same, sysmCpuCoreRollup_refill, Option.map_map]
      rfl
  | procList withList proc memory =>
    have refills : Refills fill fun sysm => sysmProcListGet sysm withList proc memory :=
      fun sysm ncpu => ⟨ncpu, sysmProcListGet_refill withList proc memory sysm ncpu⟩
    exact shown refills SysmReply.procList fun _ => rfl
  | memory memory files =>
    exact shown (@Refills.of_confines _ _ _ .memory (sysmMemoryGet_confines memory files.meminfo files.mtrr) (by decide))
      SysmReply.memory fun _ => rfl
  | diskUsage iostat disks created clock files memory name =>
    exact shown (@Refills.of_confines _ _ _ .disks
      (sysmDiskUsageGet_confines iostat disks created clock files memory name) (by decide)) SysmReply.diskUsage fun _ => rfl
  | netStat flags created clock files =>
    exact shown (@Refills.of_confines _ _ _ .sockets (sysmNetStatGet_confines flags created clock files) (by decide))
      SysmReply.netStat fun _ => rfl
  | netListenAddress port address created before during after files =>
    exact shown (@Refills.of_confines _ _ _ .sockets
      (sysmNetListenAddressGet_confines port address created before during after files) (by decide))
        SysmReply.netListenAddress fun _ => rfl
  | pid machine =>
    exact shown (@Refills.of_confines _ _ _ .self (sysmPidGet_confines machine) (by decide)) SysmReply.pid fun _ => rfl

theorem sysmStep_priorities (pri ni : Int32) (call : SysmCall) (sysm : SysmT) (ncpu : UInt32) :
    ∃ ncpu', sysmStep (sysm.refill (·.withPriorities pri ni) ncpu) call = (sysmStep sysm call).map fun result =>
      (result.1.withPriorities pri ni, result.2.refill (·.withPriorities pri ni) ncpu') := by
  cases reads : call.readsStat with
  | false => exact sysmStep_unread pri ni (·.withPriorities pri ni) reads sysm ncpu
  | true =>
    cases call with
    | proc event =>
      refine ⟨ncpu, ?_⟩
      simp only [sysmStep, procStep_priorities, Option.map_map]
      rfl
    | cpus machine call =>
      obtain ⟨ncpu', same⟩ := foldStep_priorities pri ni machine sysm ncpu call
      refine ⟨ncpu', ?_⟩
      simp only [sysmStep, same, Option.map_map]
      rfl
    | procStat cpuid proc memory reads =>
      refine ⟨ncpu, ?_⟩
      simp only [sysmStep, sysmProcStatGet_priorities, Option.map_map]
      rfl
    | cpu | procList | memory | diskUsage | netStat | netListenAddress | pid => cases reads

/-- A call that does not go through `proc_stat_read` leaves `last_proc_stat` as it is. -/
theorem sysmStep_lastProcStat {call : SysmCall} (unread : call.readsStat = false) {sysm next : SysmT} {reply : SysmReply}
    (stepped : sysmStep sysm call = some (reply, next)) : next.lastProcStat = sysm.lastProcStat := by
  obtain ⟨ncpu', same⟩ := sysmStep_unread 0 0 (fun _ => sysm.lastProcStat) unread sysm sysm.ncpu
  have self : sysm.refill (fun _ => sysm.lastProcStat) sysm.ncpu = sysm := rfl
  rw [self, stepped, Option.map_some] at same
  have equal : next = next.refill (fun _ => sysm.lastProcStat) ncpu' := congrArg Prod.snd (Option.some.inj same)
  rw [equal]
  rfl

/-- A call that goes to `proc_stat_read` at once. -/
def ProcCall.readsAtOnce : ProcCall → Bool
  | .cpu _ _ => false
  | _ => true

theorem procStep_first {event : ProcEvent} (atOnce : event.call.readsAtOnce = true) {sysm loaded : SysmT} {block : LinuxProcStat}
    (other : sysm.lastProcStat.pid ≠ event.pid) (other' : block.pid ≠ event.pid)
    (read : procStatRead sysm event.pid event.now event.stat = some (0, loaded)) (ncpu : UInt32) :
    procStep (sysm.refill (fun _ => block) ncpu) event = (procStep sysm event).map fun result =>
      (result.1.withPriorities block.pri block.ni, result.2.refill (·.withPriorities block.pri block.ni) ncpu) := by
  obtain ⟨pid, now, stat, call⟩ := event
  have both : procStatRead (sysm.refill (fun _ => block) ncpu) pid now stat =
      (procStatRead sysm pid now stat).map fun result =>
        (result.1, result.2.refill (·.withPriorities block.pri block.ni) ncpu) := by
    have first := @procStatRead_first _ _ _ _ _ ncpu _ other other' read
    have here : procStatRead sysm pid now stat = some (0, loaded) := read
    rw [here]
    exact first
  cases call with
  | time =>
    simp only [procStep, sysmProcTimeGet_of_read both, Option.map_map]
    rfl
  | state cpuid status =>
    simp only [procStep, sysmProcStateGet_of_read cpuid status both, Option.map_map]
    rfl
  | mem statm =>
    simp only [procStep, sysmProcMemGet_of_read statm both, Option.map_map]
    rfl
  | cpu => cases atOnce

end Step

section Run

variable {memory memory' opened opened' : SysmT} {release : Text} {getpagesize : Nat} {ticks : UInt64}
  {procStat : Except Int (List UInt8)} {calls : List SysmCall} {pri ni : Int32}

/-- The states before the first successful read. -/
def OverBlock (block : LinuxProcStat) (sysm sysm' : SysmT) : Prop :=
  sysm.lastProcStat.pid = -1 ∧ ∃ ncpu, sysm' = sysm.refill (fun _ => block) ncpu

/-- And those after it. -/
def OverPriorities (pri ni : Int32) (sysm sysm' : SysmT) : Prop := ∃ ncpu, sysm' = sysm.refill (·.withPriorities pri ni) ncpu

theorem run_overBlock {block : LinuxProcStat} (unread : ∀ call ∈ calls, call.readsStat = false)
    (related : OverBlock block opened opened') :
    Agree (OverBlock block) ((run sysmStep opened calls).map fun result =>
      (result.1.map (SysmReply.withPriorities block.pri block.ni), result.2)) (run sysmStep opened' calls) := by
  rw [← run_map_answers]
  refine run_agree_of_mem (fun call member sysm sysm' related => ?_) related
  obtain ⟨key, ncpu, rfl⟩ := related
  obtain ⟨ncpu', same⟩ := sysmStep_unread block.pri block.ni (fun _ => block) (unread call member) sysm ncpu
  refine Agree.of_map same fun answer next stepped => ⟨?_, ncpu', rfl⟩
  rw [sysmStep_lastProcStat (unread call member) stepped]
  exact key

theorem run_overPriorities (related : OverPriorities pri ni opened opened') :
    Agree (OverPriorities pri ni) ((run sysmStep opened calls).map fun result =>
      (result.1.map (SysmReply.withPriorities pri ni), result.2)) (run sysmStep opened' calls) := by
  rw [← run_map_answers]
  refine run_agree (fun sysm sysm' call related => ?_) calls related
  obtain ⟨ncpu, rfl⟩ := related
  obtain ⟨ncpu', same⟩ := sysmStep_priorities pri ni call sysm ncpu
  exact Agree.of_map same fun _ _ _ => ⟨ncpu', rfl⟩

/-- What `sysm_open` leaves of the block that malloc returns. -/
theorem sysmOpenOn_overBlock (open_ok : sysmOpenOn release memory getpagesize ticks procStat = .ok opened)
    (open_ok' : sysmOpenOn release memory' getpagesize ticks procStat = .ok opened') :
    OverBlock { memory'.lastProcStat with pid := -1 } opened opened' := by
  unfold sysmOpenOn sysmOpen at open_ok open_ok'
  cases boot : sysmBootTimeGet procStat with
  | error errno =>
    rw [boot] at open_ok
    cases open_ok
  | ok bootTime =>
    rw [boot] at open_ok open_ok'
    cases open_ok
    cases open_ok'
    exact ⟨rfl, memory'.ncpu, rfl⟩

variable {before after : List SysmCall} {first : ProcEvent} {done : List SysmReply} {middle loaded : SysmT}

theorem run_shown {block : LinuxProcStat} (key : block.pid = -1) (related : OverBlock block opened opened')
    (unread : ∀ call ∈ before, call.readsStat = false) (ran : run sysmStep opened before = some (done, middle))
    (atOnce : first.call.readsAtOnce = true) (pid : first.pid ≠ -1)
    (read : procStatRead middle first.pid first.now first.stat = some (0, loaded)) :
    (run sysmStep opened' (before ++ .proc first :: after)).map Prod.fst =
      (run sysmStep opened (before ++ .proc first :: after)).map
        fun result => result.1.map (SysmReply.withPriorities block.pri block.ni) := by
  have agree := @run_overBlock _ _ before _ unread related
  rw [ran, Option.map_some] at agree
  obtain ⟨middle', ran', key', ncpu, rfl⟩ := agree.next_left
  have apart : middle.lastProcStat.pid ≠ first.pid := by
    rw [key']
    exact Ne.symm pid
  have apart' : block.pid ≠ first.pid := by
    rw [key]
    exact Ne.symm pid
  have step : sysmStep (middle.refill (fun _ => block) ncpu) (.proc first) =
      (sysmStep middle (.proc first)).map fun result =>
        (result.1.withPriorities block.pri block.ni, result.2.refill (·.withPriorities block.pri block.ni) ncpu) := by
    simp only [sysmStep, procStep_first atOnce apart apart' read ncpu, Option.map_map]
    rfl
  rw [run_append, run_append, ran, ran', Option.bind_some, Option.bind_some]
  simp only [run, step]
  cases sysmStep middle (.proc first) with
  | none => rfl
  | some result =>
    obtain ⟨answer, next⟩ := result
    have later := @run_overPriorities next (next.refill (·.withPriorities block.pri block.ni) ncpu) after block.pri block.ni
      ⟨ncpu, rfl⟩
    simp only [Option.map_some, Option.bind_eq_bind, Option.bind_some, Option.pure_def]
    cases rest : run sysmStep next after with
    | none =>
      rw [rest] at later
      rw [later.stuck_left]
      rfl
    | some result =>
      rw [rest, Option.map_some] at later
      obtain ⟨final', rest', _⟩ := later.next_left
      rw [rest']
      simp only [Option.bind_some, Option.map_some, List.map_append, List.map_cons]

/-- From the first stat file on that is read with success, nothing that `malloc` left
in the block of `sysm_t` gets to a caller, but for two members that are never stored:
the priority and the nice value of every process are those bytes of the block. The
calls before it must not go through `proc_stat_read`. -/
theorem sysmOpen_unset (open_ok : sysmOpenOn release memory getpagesize ticks procStat = .ok opened)
    (open_ok' : sysmOpenOn release memory' getpagesize ticks procStat = .ok opened')
    (unread : ∀ call ∈ before, call.readsStat = false) (ran : run sysmStep opened before = some (done, middle))
    (atOnce : first.call.readsAtOnce = true) (pid : first.pid ≠ -1)
    (read : procStatRead middle first.pid first.now first.stat = some (0, loaded)) :
    (run sysmStep opened' (before ++ .proc first :: after)).map Prod.fst =
        (run sysmStep opened (before ++ .proc first :: after)).map
          (fun result => result.1.map (SysmReply.withPriorities memory'.lastProcStat.pri memory'.lastProcStat.ni)) ∧
      ∀ answers final, run sysmStep opened (before ++ .proc first :: after) = some (answers, final) →
        ∀ answer ∈ answers, answer.withPriorities memory.lastProcStat.pri memory.lastProcStat.ni = answer := by
  constructor
  · have shown := @run_shown _ _ _ after _ _ _ _ _ rfl (sysmOpenOn_overBlock open_ok open_ok') unread ran atOnce pid read
    exact shown
  · intro answers final whole
    have same := @run_shown _ _ _ after _ _ _ _ _ rfl (sysmOpenOn_overBlock open_ok open_ok) unread ran atOnce pid read
    rw [whole, Option.map_some, Option.map_some] at same
    have all : answers.map (SysmReply.withPriorities memory.lastProcStat.pri memory.lastProcStat.ni) = answers :=
      (Option.some.inj same).symm
    exact List.map_inj_left.mp (all.trans (List.map_id answers).symm)

end Run

/-- A block in which malloc has left something. -/
def usedBlock : SysmT := { SysmT.zero with ncpu := 3, lastProcStat := { SysmT.zero.lastProcStat with pri := 7, ni := 9, ppid := 5 } }

/-- A call for the state of the process 1 -/
def askInit (now : Int) : ProcEvent := ⟨1, now, .bytes silentStat, .state noCpuid (.bytes oneThread)⟩

theorem sysmOpen_unset_usedBlock : ∃ opened opened' : SysmT,
    sysmOpenOn kernel2632.text .zero 4096 100 (.ok []) = .ok opened ∧
      sysmOpenOn kernel2632.text usedBlock 4096 100 (.ok []) = .ok opened' ∧
      (run sysmStep opened' [.pid firstProcess, .proc (askInit 100), .proc (askInit 101)]).map Prod.fst =
        (run sysmStep opened [.pid firstProcess, .proc (askInit 100), .proc (askInit 101)]).map
          (fun result => result.1.map (SysmReply.withPriorities 7 9)) ∧
      ∀ answers final, run sysmStep opened [.pid firstProcess, .proc (askInit 100), .proc (askInit 101)] = some (answers, final) →
        ∀ answer ∈ answers, answer.withPriorities 0 0 = answer := by
  have status : (procStatRead { openedOn kernel2632 with pid := 1 } 1 100 (.bytes silentStat)).map Prod.fst = some 0 := by
    decide +kernel
  obtain ⟨⟨code, loaded⟩, read, rfl⟩ := Option.map_eq_some_iff.mp status
  refine ⟨openedOn kernel2632, { openedOn kernel2632 with ncpu := 3, lastProcStat := { usedBlock.lastProcStat with pid := -1 } },
    rfl, rfl, ?_⟩
  exact @sysmOpen_unset .zero usedBlock _ _ kernel2632.text 4096 100 (.ok []) [.pid firstProcess] [.proc (askInit 101)]
    (askInit 100) [.pid 1] _ loaded rfl rfl (by decide) rfl rfl (by decide) read

end Sysm
