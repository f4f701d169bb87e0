import Sysm.Lib.Machine
import Sysm.ProcCpu
import Sysm.ProcState

namespace Sysm

/-- The entry points that go through `proc_stat_read`, with what else they
read. `procCpu` is what the record of the caller holds before the call. -/
inductive ProcCall where
  | time
  | state (cpuid : UInt32 → SysmCpuid) (status : FileRead)
  | mem (statm : FileRead)
  | cpu (procCpu : SysmProcCpu) (clock : CpuClock)

/-- A call for a process at a time in seconds, when its stat file is `stat`. -/
structure ProcEvent where
  pid : Int32
  now : Int
  stat : FileRead
  call : ProcCall

inductive ProcReply where
  | time (result : Except Int SysmProcTime)
  | state (result : Except Int SysmProcState)
  | mem (result : Except Int SysmProcMem)
  | cpu (status : Int) (procCpu : SysmProcCpu)

def procStep (sysm : SysmT) (event : ProcEvent) : Option (ProcReply × SysmT) :=
  match event.call with
  | .time => (sysmProcTimeGet sysm event.pid event.now event.stat).map fun (result, sysm) => (.time result, sysm)
  | .state cpuid status =>
    (sysmProcStateGet sysm cpuid event.pid event.now event.stat status).map fun (result, sysm) => (.state result, sysm)
  | .mem statm =>
    (sysmProcMemGet sysm event.pid event.now event.stat statm).map fun (result, sysm) => (.mem result, sysm)
  | .cpu procCpu clock =>
    (sysmProcCpuGet sysm event.pid procCpu { clock with seconds := event.now } event.stat).map
      fun ((status, procCpu), sysm) => (.cpu status procCpu, sysm)

/-- A call of `sysm_proc_cpu_get` within the millisecond of the last one for
the process does not get to `proc_stat_read`. -/
def ProcEvent.callsProcStatRead (event : ProcEvent) (sysm : SysmT) : Bool :=
  match event.call with
  | .cpu _ clock => (sysm.procCpuEntry event.pid { clock with seconds := event.now }).any
      fun (_, _, prev) => clock.timeNow - prev.lastTime ≠ 0
  | _ => true

/-- The call reads the stat file. -/
def ProcEvent.reads (event : ProcEvent) (sysm : SysmT) : Bool :=
  event.callsProcStatRead sysm && !sysm.procStatHit event.pid event.now

/-- The library together with the call that was the last to read a stat file. -/
structure Watched where
  sysm : SysmT
  lastRead : Option ProcEvent

def Watched.step (w : Watched) (event : ProcEvent) : Option (ProcReply × Watched) :=
  (procStep w.sysm event).map fun (reply, sysm) =>
    (reply, ⟨sysm, if event.reads w.sysm then some event else w.lastRead⟩)

end Sysm
