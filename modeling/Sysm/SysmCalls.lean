import Sysm.SysmParts

namespace Sysm
open CString Machine

/-- Entry points that use what `sysm_t` keeps from one call to the next, with all
that they read of the machine. Three that do are not among them: the two that use
`ifconf_buf`, and `sysm_proc_env_get`; nor is `sysm_strerror`, which uses `errbuf`. -/
inductive SysmCall where
  | proc (event : ProcEvent)
  | cpu (stat : FileRead)
  | cpus (machine : CpuMachine) (call : FoldCall)
  | procList (withList : Bool) (proc : ProcFiles) (memory : Nat → Int32)
  | procStat (cpuid : UInt32 → SysmCpuid) (proc : ProcFiles) (memory : Nat → Int32) (reads : Nat → ProcRead)
  | memory (memory : SysmMemory) (files : MemoryFiles)
  | diskUsage (iostat : Iostat) (disks : Disks) (created : UInt64) (clock : Clock) (files : UsageFiles)
      (memory : List Text → Nat → UInt64) (name : Text)
  | netStat (flags : UInt32) (created : UInt64) (clock : Clock) (files : NetFiles)
  | netListenAddress (port : UInt64) (address : SysmNetAddress) (created : UInt64) (before during after : Clock)
      (files : NetFiles)
  | pid (machine : EnvMachine)

inductive SysmReply where
  | proc (reply : ProcReply)
  | cpu (result : Except Int SysmCpu)
  | cpus (reply : FoldReply × Option Bool)
  | procList (result : Int × GrowList Int32)
  | procStat (result : Int × SysmProcStat)
  | memory (result : Int × SysmMemory)
  | diskUsage (result : Int × SysmDiskUsage)
  | netStat (result : Int × SysmNetStat)
  | netListenAddress (result : Int × SysmNetAddress)
  | pid (pid : Int32)

def sysmStep (sysm : SysmT) : SysmCall → Option (SysmReply × SysmT)
  | .proc event => (procStep sysm event).map fun (reply, sysm) => (.proc reply, sysm)
  | .cpu stat => ((sysmCpuGet sysm stat).map fun result => (result, sysm)).map fun (result, sysm) => (.cpu result, sysm)
  | .cpus machine call => (foldStep machine sysm call).map fun (reply, sysm) => (.cpus reply, sysm)
  | .procList withList proc memory =>
    (sysmProcListGet sysm withList proc memory).map fun (result, sysm) => (.procList result, sysm)
  | .procStat cpuid proc memory reads =>
    (sysmProcStatGet sysm cpuid proc memory reads).map fun (result, sysm) => (.procStat result, sysm)
  | .memory memory files => (memoryStep files sysm memory).map fun (result, sysm) => (.memory result, sysm)
  | .diskUsage iostat disks created clock files memory name =>
    (sysmDiskUsageGet sysm iostat disks created clock files memory name).map fun (result, sysm) => (.diskUsage result, sysm)
  | .netStat flags created clock files =>
    (sysmNetStatGet sysm flags created clock files).map fun (result, sysm) => (.netStat result, sysm)
  | .netListenAddress port address created before during after files =>
    (sysmNetListenAddressGet sysm port address created before during after files).map
      fun (result, sysm) => (.netListenAddress result, sysm)
  | .pid machine => (some (sysmPidGet sysm machine)).map fun (pid, sysm) => (.pid pid, sysm)

/-- The parts of `sysm_t`. -/
inductive SysmPart where
  | processes
  | memory
  | disks
  | sockets
  | self
deriving Repr, DecidableEq

/-- The part that a call uses. -/
def SysmCall.part : SysmCall → SysmPart
  | .proc _ => .processes
  | .cpu _ => .processes
  | .cpus _ _ => .processes
  | .procList _ _ _ => .processes
  | .procStat _ _ _ _ => .processes
  | .memory _ _ => .memory
  | .diskUsage _ _ _ _ _ _ _ => .disks
  | .netStat _ _ _ _ => .sockets
  | .netListenAddress _ _ _ _ _ _ _ => .sockets
  | .pid _ => .self

def SysmPart.Content : SysmPart → Type
  | .processes => ProcessPart
  | .memory => Int32
  | .disks => Option (Cache SysmIodev)
  | .sockets => Option (Cache SysmNetAddress)
  | .self => Int32

def SysmPart.member : (part : SysmPart) → Member SysmT part.Content
  | .processes => processMember
  | .memory => mtrrMember
  | .disks => fsdevMember
  | .sockets => netListenMember
  | .self => pidMember

/-- The parts have no member of `sysm_t` in common. -/
theorem SysmPart.apart (j k : SysmPart) (different : k ≠ j) (content : j.Content) (sysm : SysmT) :
    k.member.get (j.member.put content sysm) = k.member.get sysm := by
  cases j with
  | processes =>
    cases k with
    | processes => exact absurd rfl different
    | memory | disks | sockets | self => rfl
  | memory =>
    cases k with
    | memory => exact absurd rfl different
    | processes | disks | sockets | self => rfl
  | disks =>
    cases k with
    | disks => exact absurd rfl different
    | processes | memory | sockets | self => rfl
  | sockets =>
    cases k with
    | sockets => exact absurd rfl different
    | processes | memory | disks | self => rfl
  | self =>
    cases k with
    | self => exact absurd rfl different
    | processes | memory | disks | sockets => rfl

/-- Together they are all of it. -/
theorem SysmT.ext_parts {sysm sysm' : SysmT} (same : ∀ part : SysmPart, part.member.get sysm' = part.member.get sysm) :
    sysm' = sysm := by
  have processes : processMember.get sysm' = processMember.get sysm := same .processes
  have mtrr : sysm'.mtrr = sysm.mtrr := same .memory
  have fsdev : sysm'.fsdev = sysm.fsdev := same .disks
  have netListen : sysm'.netListen = sysm.netListen := same .sockets
  have pid : sysm'.pid = sysm.pid := same .self
  rw [← processMember.put_get sysm', processes]
  show ({ sysm with mtrr := sysm'.mtrr, fsdev := sysm'.fsdev, netListen := sysm'.netListen, pid := sysm'.pid } : SysmT) = sysm
  rw [mtrr, fsdev, netListen, pid]

theorem procStep_confines (event : ProcEvent) : processMember.Confines fun sysm => procStep sysm event := by
  obtain ⟨pid, now, stat, call⟩ := event
  cases call with
  | time => exact (sysmProcTimeGet_confines pid now stat).map ProcReply.time
  | state cpuid status => exact (sysmProcStateGet_confines cpuid pid now stat status).map ProcReply.state
  | mem statm => exact (sysmProcMemGet_confines pid now stat statm).map ProcReply.mem
  | cpu procCpu clock =>
    exact (sysmProcCpuGet_confines pid procCpu { clock with seconds := now } stat).map
      fun result => ProcReply.cpu result.1 result.2

theorem foldCall_result_confines (machine : CpuMachine) (call : FoldCall) :
    processMember.Confines fun sysm => call.result machine sysm := by
  cases call with
  | list memory => exact (sysmCpuListGet_confines machine.cpuid memory machine.stat).map FoldReply.list
  | infoList memory =>
    exact (sysmCpuInfoListGet_confines machine.cpuid machine.conf machine.cpuFiles memory machine.cpuinfo).map
      FoldReply.infoList
  | state pid timenow =>
    exact (sysmProcStateGet_confines machine.cpuid pid timenow (machine.procStat pid) (machine.procStatus pid)).map
      FoldReply.state

theorem foldCall_decision_put (machine : CpuMachine) (call : FoldCall) (sysm other : SysmT) :
    call.decision machine (processMember.put (processMember.get sysm) other) = call.decision machine sysm := by
  cases call with
  | list memory => simp only [FoldCall.decision, sysmCpuCoreRollup_put]
  | infoList memory => simp only [FoldCall.decision, sysmCpuCoreRollup_put]
  | state pid timenow =>
    have read := procStatRead_confines pid timenow (machine.procStat pid) sysm other
    simp only [FoldCall.decision, read]
    cases procStatRead sysm pid timenow (machine.procStat pid) with
    | none => rfl
    | some result => simp only [Option.map_some, Option.bind_eq_bind, Option.bind_some, sysmCpuCoreRollup_put]

theorem foldStep_confines (machine : CpuMachine) (call : FoldCall) :
    processMember.Confines fun sysm => foldStep machine sysm call := by
  intro sysm other
  have result := foldCall_result_confines machine call sysm other
  simp only [foldStep, result, foldCall_decision_put, Option.map_map]
  rfl

theorem sysmStep_confines (call : SysmCall) : call.part.member.Confines fun sysm => sysmStep sysm call := by
  cases call with
  | proc event => exact (procStep_confines event).map SysmReply.proc
  | cpu stat => exact (sysmCpuGet_confines stat).map SysmReply.cpu
  | cpus machine call => exact (foldStep_confines machine call).map SysmReply.cpus
  | procList withList proc memory => exact (sysmProcListGet_confines withList proc memory).map SysmReply.procList
  | procStat cpuid proc memory reads => exact (sysmProcStatGet_confines cpuid proc memory reads).map SysmReply.procStat
  | memory memory files => exact (sysmMemoryGet_confines memory files.meminfo files.mtrr).map SysmReply.memory
  | diskUsage iostat disks created clock files memory name =>
    exact (sysmDiskUsageGet_confines iostat disks created clock files memory name).map SysmReply.diskUsage
  | netStat flags created clock files => exact (sysmNetStatGet_confines flags created clock files).map SysmReply.netStat
  | netListenAddress port address created before during after files =>
    exact (sysmNetListenAddressGet_confines port address created before during after files).map SysmReply.netListenAddress
  | pid machine => exact (sysmPidGet_confines machine).map SysmReply.pid

theorem sysmStep_separated : Separated sysmStep SysmCall.part fun part => part.member.get :=
  separated_of_confines SysmPart.member SysmPart.apart sysmStep_confines

/-- In any interleaving of calls, those of one part of the library go through
and are answered as if no others were made. -/
theorem sysmStep_alone (opened : SysmT) (calls : List SysmCall) :
    ((run sysmStep opened calls).isSome = true ↔
      ∀ part, (run sysmStep opened (inputsOf SysmCall.part part calls)).isSome = true) ∧
    ∀ answers final, run sysmStep opened calls = some (answers, final) → ∀ part, ∃ alone,
      run sysmStep opened (inputsOf SysmCall.part part calls) = some (answersOf SysmCall.part part calls answers, alone) ∧
        part.member.get alone = part.member.get final :=
  ⟨sysmStep_separated.run_isSome_iff, fun _ _ ran part => sysmStep_separated.run_part ran part rfl⟩

/-- How calls that use different parts are interleaved makes no difference to
any answer, nor to what `sysm_t` holds in the end. -/
theorem sysmStep_interleaved (opened : SysmT) (calls calls' : List SysmCall)
    (same : ∀ part, inputsOf SysmCall.part part calls' = inputsOf SysmCall.part part calls) :
    (run sysmStep opened calls').map Prod.snd = (run sysmStep opened calls).map Prod.snd ∧
      ∀ answers answers' final, run sysmStep opened calls = some (answers, final) →
        run sysmStep opened calls' = some (answers', final) →
          ∀ part, answersOf SysmCall.part part calls' answers' = answersOf SysmCall.part part calls answers := by
  constructor
  · cases ran : run sysmStep opened calls with
    | some result =>
      obtain ⟨answers', final', ran', agree⟩ := sysmStep_separated.run_interleaved ran same
      rw [ran', Option.map_some, Option.map_some, SysmT.ext_parts fun part => (agree part).2]
    | none =>
      cases ran' : run sysmStep opened calls' with
      | none => rfl
      | some result =>
        obtain ⟨answers, final, again, _⟩ := sysmStep_separated.run_interleaved ran' fun part => (same part).symm
        cases ran.symm.trans again
  · intro answers answers' final ran ran' part
    obtain ⟨replies, last, again, agree⟩ := sysmStep_separated.run_interleaved ran same
    cases Option.some.inj (ran'.symm.trans again)
    exact (agree part).1

def firstProcess : EnvMachine := ⟨1, [], fun _ => .ok none⟩

/-- Two calls for the state of process 1, and between them one for the own process
and one for the memory, which is asked for once more in the end. -/
def askedInTurn : List SysmCall :=
  let init : SysmCall := .proc ⟨1, 100, .bytes silentStat, .time⟩
  let range : SysmCall := .memory ⟨0, 0, 0, 0, 0, 0, none, none⟩ uncachedRange
  [init, .pid firstProcess, range, init, range]

/-- The same calls, the memory before the own process. -/
def askedInOtherTurn : List SysmCall :=
  let init : SysmCall := .proc ⟨1, 100, .bytes silentStat, .time⟩
  let range : SysmCall := .memory ⟨0, 0, 0, 0, 0, 0, none, none⟩ uncachedRange
  [init, range, .pid firstProcess, init, range]

theorem sysmStep_swapped : ∃ answers answers' final, run sysmStep openedSysm askedInTurn = some (answers, final) ∧
    run sysmStep openedSysm askedInOtherTurn = some (answers', final) ∧
      ∀ part, answersOf SysmCall.part part askedInOtherTurn answers' = answersOf SysmCall.part part askedInTurn answers := by
  have runs : (run sysmStep openedSysm askedInTurn).isSome = true := by decide +kernel
  obtain ⟨⟨answers, final⟩, ran⟩ := Option.isSome_iff_exists.mp runs
  obtain ⟨same, alike⟩ := sysmStep_interleaved openedSysm askedInTurn askedInOtherTurn fun part => by
    cases part with
    | processes | memory | disks | sockets | self => rfl
  rw [ran] at same
  obtain ⟨⟨answers', last⟩, ran', rfl⟩ := Option.map_eq_some_iff.mp same
  exact ⟨answers, answers', last, ran, ran', alike answers answers' last ran ran'⟩

end Sysm
