import Mathlib.Data.List.ReduceOption
import Sysm.Lib.Machine
import Sysm.CpuInfo
import Sysm.StatFile

namespace Sysm
open CString

/-- The files of a machine, which stay the same, and its processor. -/
structure CpuMachine where
  cpuid : UInt32 → SysmCpuid
  stat : Except Int (List UInt8)
  cpuinfo : Except Int (List UInt8)
  conf : UInt32
  cpuFiles : Text → FileRead
  procStat : Int32 → FileRead
  procStatus : Int32 → FileRead

/-- The entry points that fold logical processors, with what the memory for
their list holds. -/
inductive FoldCall where
  | list (memory : Nat → SysmCpu)
  | infoList (memory : Nat → SysmCpuInfo)
  | state (pid : Int32) (timenow : Int)

inductive FoldReply where
  | list (result : Except Int (GrowList SysmCpu))
  | infoList (result : Except Int (GrowList SysmCpuInfo))
  | state (result : Except Int SysmProcState)

/-- What `sysm_cpu_core_rollup` answers in the call, if it is called. -/
def FoldCall.decision (machine : CpuMachine) (sysm : SysmT) : FoldCall → Option Bool
  | .list _ => some (sysmCpuCoreRollup sysm machine.cpuid).1
  | .infoList _ => some (sysmCpuCoreRollup sysm machine.cpuid).1
  | .state pid timenow => do
    let (status, sysm) ← procStatRead sysm pid timenow (machine.procStat pid)
    if status ≠ 0 then none
    return (sysmCpuCoreRollup sysm machine.cpuid).1

def FoldCall.result (machine : CpuMachine) (sysm : SysmT) : FoldCall → Option (FoldReply × SysmT)
  | .list memory => (sysmCpuListGet sysm machine.cpuid memory machine.stat).map fun (result, sysm) => (.list result, sysm)
  | .infoList memory =>
    (sysmCpuInfoListGet sysm machine.cpuid machine.conf machine.cpuFiles memory machine.cpuinfo).map
      fun (result, sysm) => (.infoList result, sysm)
  | .state pid timenow =>
    (sysmProcStateGet sysm machine.cpuid pid timenow (machine.procStat pid) (machine.procStatus pid)).map
      fun (result, sysm) => (.state result, sysm)

/-- A call answers with its result and the decision it has taken. -/
def foldStep (machine : CpuMachine) (sysm : SysmT) (call : FoldCall) : Option ((FoldReply × Option Bool) × SysmT) :=
  (call.result machine sysm).map fun (reply, sysm') => ((reply, call.decision machine sysm), sysm')

/-- The answers of `sysm_cpu_core_rollup` in a run, in order. -/
def decisions (replies : List (FoldReply × Option Bool)) : List Bool := replies.filterMap Prod.snd

/-- Both files list the same number of processors. -/
def CpuMachine.SameProcessors (machine : CpuMachine) : Prop :=
  ∃ stat cpuinfo, machine.stat = .ok stat ∧ machine.cpuinfo = .ok cpuinfo ∧ statProcessors stat = infoProcessors cpuinfo

/-- Folding is decided on once and for all. -/
structure FoldsAlike (machine : CpuMachine) (replies : List (FoldReply × Option Bool)) : Prop where
  decision : ∀ first ∈ decisions replies, ∀ second ∈ decisions replies, first = second
  lengths : ∀ first second, FoldReply.list (.ok first) ∈ replies.map Prod.fst →
    FoldReply.list (.ok second) ∈ replies.map Prod.fst → first.number = second.number
  infoLengths : machine.SameProcessors → ∀ cpuList cpuInfos, FoldReply.list (.ok cpuList) ∈ replies.map Prod.fst →
    FoldReply.infoList (.ok cpuInfos) ∈ replies.map Prod.fst → cpuInfos.number = cpuList.number
  processors : ∀ cpuList procState, FoldReply.list (.ok cpuList) ∈ replies.map Prod.fst →
    FoldReply.state (.ok procState) ∈ replies.map Prod.fst →
      0 ≤ procState.processor.toInt ∧ procState.processor.toInt < cpuList.number

/-- What `last_proc_stat` has of the process that was read last. -/
structure LastStat where
  pid : Int32
  mtime : Int
  processor : Int32

def SysmT.lastStat (sysm : SysmT) : LastStat :=
  ⟨sysm.lastProcStat.pid, sysm.lastProcStat.mtime, sysm.lastProcStat.processor⟩

/-- Whether a call gets to `sysm_cpu_core_rollup`, as far as the files say. A call
for the state of a process does if its stat file can be read, or need not be read
again, and it shows the number of a processor if the status file can be read. -/
def FoldCall.visit (machine : CpuMachine) (last : LastStat) : FoldCall → Option (Option Int32) × LastStat
  | .list _ => (some none, last)
  | .infoList _ => (some none, last)
  | .state pid timenow =>
    let shown (processor : Int32) := if (machine.procStatus pid).isRead then some processor else none
    if last.pid = pid ∧ timenow - last.mtime < lastProcExpire then (some (shown last.processor), last)
    else
      match statProcessor (machine.procStat pid) with
      | some processor => (some (shown processor), ⟨pid, timenow, processor⟩)
      | none => (none, { last with pid, mtime := timenow })

/-- The calls that get to `sysm_cpu_core_rollup`, with the processors they show. -/
def visits (machine : CpuMachine) : LastStat → List FoldCall → List (Option Int32)
  | _, [] => []
  | last, call :: calls => (call.visit machine last).1.toList ++ visits machine (call.visit machine last).2 calls

/-- There is nothing to fold, and the files and the calls fit together: if both
lists are asked for and both files have the same number of processors, they have
one, and a number that is shown is that of a place in the list. -/
structure CpuMachine.Fits (machine : CpuMachine) (last : LastStat) (calls : List FoldCall) : Prop where
  single : cpuidLcpu machine.cpuid ≤ 1
  nonempty : ∀ stat cpuinfo, machine.stat = .ok stat → machine.cpuinfo = .ok cpuinfo →
    statProcessors stat = infoProcessors cpuinfo → (∃ memory, .list memory ∈ calls) → (∃ memory, .infoList memory ∈ calls) →
      statProcessors stat ≠ 0
  listed : ∀ stat, machine.stat = .ok stat → (∃ memory, .list memory ∈ calls) →
    ∀ processor, some processor ∈ visits machine last calls →
      0 ≤ processor.toInt ∧ processor.toInt < (max (statProcessors stat) 1 : Nat)

/-- No more than the one member is stored. -/
structure FoldFrame (cpuid : UInt32 → SysmCpuid) (decision : Option Bool) (sysm sysm' : SysmT) : Prop where
  cores : sysm'.cpuListCores = 0
  lcpu : sysm'.lcpu = if decision.isSome then probedLcpu sysm.lcpu cpuid else sysm.lcpu
  taken : ∀ answer ∈ decision, answer = (sysm.lcpu == -1 && 1 < cpuidLcpu cpuid)

variable {machine : CpuMachine} {sysm sysm' : SysmT} {call : FoldCall} {reply : FoldReply} {decision : Option Bool}

theorem foldStep_iff : foldStep machine sysm call = some ((reply, decision), sysm') ↔
    call.result machine sysm = some (reply, sysm') ∧ decision = call.decision machine sysm := by
  rw [foldStep, Option.map_eq_some_iff]
  constructor
  · rintro ⟨⟨answer, next⟩, result, same⟩
    cases same
    exact ⟨result, rfl⟩
  · rintro ⟨result, same⟩
    exact ⟨(reply, sysm'), result, by rw [same]⟩

theorem procStatRead_decides (cores : sysm.cpuListCores = 0) {pid : Int32} {timenow : Int} {stat : FileRead} {status : Int}
    {middle : SysmT} (read : procStatRead sysm pid timenow stat = some (status, middle)) :
    middle.cpuListCores = 0 ∧ middle.lcpu = sysm.lcpu := by
  have frame := procStatRead_frame read
  have sameCores : middle.cpuListCores = sysm.cpuListCores := by rw [frame]
  have sameLcpu : middle.lcpu = sysm.lcpu := by rw [frame]
  exact ⟨sameCores.trans cores, sameLcpu⟩

theorem foldStep_frame (cores : sysm.cpuListCores = 0)
    (step : foldStep machine sysm call = some ((reply, decision), sysm')) :
    FoldFrame machine.cpuid decision sysm sysm' := by
  obtain ⟨result, rfl⟩ := foldStep_iff.mp step
  have rollup := sysmCpuCoreRollup_eq cores machine.cpuid
  cases call with
  | list memory =>
    obtain ⟨⟨listed, next⟩, run, same⟩ := Option.map_eq_some_iff.mp result
    cases same
    rw [sysmCpuListGet_sysm run, FoldCall.decision, rollup]
    exact ⟨cores, rfl, fun answer same => (Option.mem_some_iff.mp same).symm⟩
  | infoList memory =>
    obtain ⟨⟨listed, next⟩, run, same⟩ := Option.map_eq_some_iff.mp result
    cases same
    obtain ⟨ncpu, same⟩ := sysmCpuInfoListGet_sysm run
    rw [same, FoldCall.decision, rollup]
    exact ⟨cores, rfl, fun answer same => (Option.mem_some_iff.mp same).symm⟩
  | state pid timenow =>
    obtain ⟨⟨procState, next⟩, run, same⟩ := Option.map_eq_some_iff.mp result
    cases same
    obtain ⟨status, middle, read, failed | succeeded⟩ := sysmProcStateGet_cases run
    · obtain ⟨cores', lcpu⟩ := procStatRead_decides cores read
      obtain ⟨nonzero, _, same⟩ := failed
      have silent : FoldCall.decision machine sysm (.state pid timenow) = none := by
        simp [FoldCall.decision, read, nonzero]
      rw [silent, same]
      exact ⟨cores', lcpu, by simp⟩
    · obtain ⟨cores', lcpu⟩ := procStatRead_decides cores read
      obtain ⟨zero, same, _⟩ := succeeded
      have rollup' := sysmCpuCoreRollup_eq cores' machine.cpuid
      have taken : FoldCall.decision machine sysm (.state pid timenow) = some (sysmCpuCoreRollup middle machine.cpuid).1 := by
        simp [FoldCall.decision, read, zero]
      rw [taken, same, rollup', lcpu]
      exact ⟨cores', rfl, fun answer same => (Option.mem_some_iff.mp same).symm⟩

/-- Without folding there is an entry for each processor in either list. -/
def FoldReply.Flat (machine : CpuMachine) : FoldReply → Prop
  | .list (.ok cpuList) => ∃ stat, machine.stat = .ok stat ∧ cpuList.number = max (statProcessors stat) 1
  | .infoList (.ok cpuInfos) => ∃ cpuinfo, machine.cpuinfo = .ok cpuinfo ∧ cpuInfos.number = infoProcessors cpuinfo
  | _ => True

theorem foldStep_flat (step : foldStep machine sysm call = some ((reply, decision), sysm'))
    (off : ∀ answer ∈ decision, answer = false) : reply.Flat machine := by
  obtain ⟨result, rfl⟩ := foldStep_iff.mp step
  cases call with
  | list memory =>
    obtain ⟨⟨answer, next⟩, run, same⟩ := Option.map_eq_some_iff.mp result
    cases same
    cases answer with
    | error status => exact trivial
    | ok cpuList =>
      cases atStat : machine.stat with
      | error errno =>
        rw [atStat] at run
        cases run
      | ok stat =>
        rw [atStat] at run
        exact ⟨stat, atStat, sysmCpuListGet_flat (off _ rfl) run⟩
  | infoList memory =>
    obtain ⟨⟨answer, next⟩, run, same⟩ := Option.map_eq_some_iff.mp result
    cases same
    cases answer with
    | error status => exact trivial
    | ok cpuInfos =>
      cases atInfo : machine.cpuinfo with
      | error errno =>
        rw [atInfo] at run
        cases run
      | ok cpuinfo =>
        rw [atInfo] at run
        exact ⟨cpuinfo, atInfo, sysmCpuInfoListGet_flat (off _ rfl) run⟩
  | state pid timenow =>
    obtain ⟨⟨answer, next⟩, run, same⟩ := Option.map_eq_some_iff.mp result
    cases same
    cases answer <;> exact trivial

/-- The number of a processor that a reply shows. -/
def FoldReply.processor : FoldReply → Option Int32
  | .state (.ok procState) => some procState.processor
  | _ => none

theorem sysmProcStateGet_isOk {cpuid : UInt32 → SysmCpuid} {pid : Int32} {timenow : Int} {stat status : FileRead}
    {result : Except Int SysmProcState} {middle : SysmT} (read : procStatRead sysm pid timenow stat = some (0, middle))
    (run : sysmProcStateGet sysm cpuid pid timenow stat status = some (result, sysm')) : result.isOk = status.isRead := by
  simp only [sysmProcStateGet, read, Option.bind_eq_bind, Option.bind_some, ne_eq, not_true_eq_false, if_false] at run
  obtain ⟨threads, got, run⟩ := Option.bind_eq_some_iff.mp run
  rw [← procStatusGet_isOk got]
  cases threads with
  | error code =>
    cases run
    rfl
  | ok threads =>
    cases run
    rfl

/-- What a call for the state of a process does once its stat file has been read. -/
theorem stateStep_read {pid : Int32} {timenow : Int} {middle : SysmT} {result : Except Int SysmProcState}
    (read : procStatRead sysm pid timenow (machine.procStat pid) = some (0, middle))
    (run : sysmProcStateGet sysm machine.cpuid pid timenow (machine.procStat pid) (machine.procStatus pid) =
      some (result, sysm')) : sysm'.lastStat = middle.lastStat ∧
      FoldCall.decision machine sysm (.state pid timenow) = some (sysmCpuCoreRollup middle machine.cpuid).1 ∧
      ((sysmCpuCoreRollup middle machine.cpuid).1 = false → (FoldReply.state result).processor =
        if (machine.procStatus pid).isRead then some middle.lastProcStat.processor else none) := by
  have isOk := sysmProcStateGet_isOk read run
  obtain ⟨status, middle', read', ⟨nonzero, _⟩ | ⟨zero, same, shows⟩⟩ := sysmProcStateGet_cases run
  · cases read.symm.trans read'
    exact absurd rfl nonzero
  · cases read.symm.trans read'
    obtain ⟨_, record⟩ := sysmCpuCoreRollup_same middle machine.cpuid
    refine ⟨?_, by simp [FoldCall.decision, read], fun off => ?_⟩
    · rw [SysmT.lastStat, same, record]
      rfl
    · cases result with
      | error code =>
        rw [← isOk]
        rfl
      | ok procState =>
        have processor := shows procState rfl
        rw [off, if_neg Bool.false_ne_true] at processor
        rw [← isOk, FoldReply.processor, processor]
        rfl

theorem visit_state_hit {pid : Int32} {timenow : Int} (hit : sysm.procStatHit pid timenow = true) :
    FoldCall.visit machine sysm.lastStat (.state pid timenow) =
      (some (if (machine.procStatus pid).isRead then some sysm.lastProcStat.processor else none), sysm.lastStat) := by
  have again : sysm.lastStat.pid = pid ∧ timenow - sysm.lastStat.mtime < lastProcExpire := by
    simpa [SysmT.procStatHit, SysmT.lastStat] using hit
  exact if_pos again

section Anew

variable {pid : Int32} {timenow : Int} (hit : sysm.procStatHit pid timenow = false)

include hit

theorem lastStat_anew : ¬(sysm.lastStat.pid = pid ∧ timenow - sysm.lastStat.mtime < lastProcExpire) := by
  intro again
  have hit' : sysm.procStatHit pid timenow = true := by simpa [SysmT.procStatHit, SysmT.lastStat] using again
  rw [hit] at hit'
  cases hit'

theorem visit_state_read {processor : Int32} (shown : statProcessor (machine.procStat pid) = some processor) :
    FoldCall.visit machine sysm.lastStat (.state pid timenow) =
      (some (if (machine.procStatus pid).isRead then some processor else none), ⟨pid, timenow, processor⟩) := by
  simp only [FoldCall.visit, if_neg (lastStat_anew hit), shown]

theorem visit_state_unread (nowhere : statProcessor (machine.procStat pid) = none) :
    FoldCall.visit machine sysm.lastStat (.state pid timenow) = (none, { sysm.lastStat with pid, mtime := timenow }) := by
  simp only [FoldCall.visit, if_neg (lastStat_anew hit), nowhere]

end Anew

/-- What a call decides on and shows is told by the files. -/
theorem foldStep_visit (step : foldStep machine sysm call = some ((reply, decision), sysm')) :
    (call.visit machine sysm.lastStat).2 = sysm'.lastStat ∧
      decision.isSome = (call.visit machine sysm.lastStat).1.isSome ∧
      (decision ≠ some true → reply.processor = (call.visit machine sysm.lastStat).1.join) := by
  obtain ⟨result, rfl⟩ := foldStep_iff.mp step
  have rollup := fun sysm => (sysmCpuCoreRollup_same sysm machine.cpuid).2
  cases call with
  | list memory =>
    obtain ⟨⟨listed, next⟩, run, same⟩ := Option.map_eq_some_iff.mp result
    cases same
    refine ⟨?_, rfl, fun _ => rfl⟩
    rw [sysmCpuListGet_sysm run, SysmT.lastStat, SysmT.lastStat, rollup]
    rfl
  | infoList memory =>
    obtain ⟨⟨listed, next⟩, run, same⟩ := Option.map_eq_some_iff.mp result
    cases same
    refine ⟨?_, rfl, fun _ => rfl⟩
    obtain ⟨ncpu, same⟩ := sysmCpuInfoListGet_sysm run
    rw [same, SysmT.lastStat, SysmT.lastStat]
    show LastStat.mk sysm.lastProcStat.pid sysm.lastProcStat.mtime sysm.lastProcStat.processor =
      ⟨(sysmCpuCoreRollup sysm machine.cpuid).2.lastProcStat.pid, (sysmCpuCoreRollup sysm machine.cpuid).2.lastProcStat.mtime,
        (sysmCpuCoreRollup sysm machine.cpuid).2.lastProcStat.processor⟩
    rw [rollup]
  | state pid timenow =>
    obtain ⟨⟨procState, next⟩, run, same⟩ := Option.map_eq_some_iff.mp result
    cases same
    cases hit : sysm.procStatHit pid timenow with
    | true =>
      have read : procStatRead sysm pid timenow (machine.procStat pid) = some (0, sysm) := by rw [procStatRead, if_pos hit]
      obtain ⟨last, taken, shows⟩ := stateStep_read read run
      rw [visit_state_hit hit, taken]
      exact ⟨last.symm, rfl, fun off => shows (by simpa using off)⟩
    | false =>
      rcases procStatRead_miss hit (machine.procStat pid) with ⟨_, faults⟩ |
        ⟨_, status, middle, read, machine', atPid, atTime, ⟨nonzero, behind⟩ | ⟨zero, _, processor⟩⟩
      · obtain ⟨_, _, read, _⟩ := sysmProcStateGet_cases run
        rw [faults] at read
        cases read
      · obtain ⟨status', middle', read', ⟨_, failed, same⟩ | ⟨zero, _⟩⟩ := sysmProcStateGet_cases run
        · cases read.symm.trans read'
          have nowhere : statProcessor (machine.procStat pid) = none := by rw [statProcessor, behind]; rfl
          have kept : middle.lastProcStat.processor = sysm.lastProcStat.processor := by
            rcases procStatRead_cases read with ⟨_, zero, _⟩ | ⟨_, _, _, same⟩ | ⟨_, zero, _⟩
            · exact absurd zero nonzero
            · rw [same]
              rfl
            · exact absurd zero nonzero
          rw [visit_state_unread hit nowhere, failed, same]
          refine ⟨?_, by simp [FoldCall.decision, read, nonzero], fun _ => rfl⟩
          rw [SysmT.lastStat, SysmT.lastStat, atPid, atTime, kept]
        · cases read.symm.trans read'
          exact absurd zero nonzero
      · subst zero
        obtain ⟨last, taken, shows⟩ := stateStep_read read run
        rw [visit_state_read hit processor, taken]
        refine ⟨?_, rfl, fun off => shows (by simpa using off)⟩
        show LastStat.mk pid timenow middle.lastProcStat.processor = sysm'.lastStat
        rw [last, SysmT.lastStat, atPid, atTime]

section Run

variable {opened final : SysmT} {calls : List FoldCall} {replies : List (FoldReply × Option Bool)}

/-- The first decision is the only one that can be for folding. -/
theorem decisions_run (cores : opened.cpuListCores = 0) (unknown : opened.lcpu = -1)
    (run : Machine.run (foldStep machine) opened calls = some (replies, final)) :
    final.cpuListCores = 0 ∧ ((decisions replies = [] ∧ final.lcpu = -1) ∨
      ∃ n, decisions replies = decide (1 < cpuidLcpu machine.cpuid) :: List.replicate n false ∧
        final.lcpu = cpuidLcpu machine.cpuid) := by
  induction calls using List.reverseRecOn generalizing replies final with
  | nil =>
    cases Option.some.inj run
    exact ⟨cores, Or.inl ⟨rfl, unknown⟩⟩
  | append_singleton calls call ih =>
    obtain ⟨before, middle, ⟨reply, decision⟩, done, step, rfl⟩ := Machine.run_snoc_iff.mp run
    obtain ⟨cores', state⟩ := ih done
    have frame := foldStep_frame cores' step
    refine ⟨frame.cores, ?_⟩
    have lcpu := frame.lcpu
    have snoc : decisions (before ++ [(reply, decision)]) = decisions before ++ decision.toList := by
      cases decision with
      | none => simp [decisions]
      | some answer => simp [decisions]
    rw [snoc]
    cases decision with
    | none =>
      rw [Option.toList_none, List.append_nil, lcpu]
      exact state
    | some answer =>
      have taken := frame.taken answer rfl
      rw [Option.isSome_some, if_pos rfl, probedLcpu] at lcpu
      rw [Option.toList_some]
      rcases state with ⟨empty, isUnknown⟩ | ⟨n, earlier, known⟩
      · rw [isUnknown, if_pos rfl] at lcpu
        rw [isUnknown, beq_self_eq_true, Bool.true_and] at taken
        exact Or.inr ⟨0, by rw [empty, taken]; rfl, lcpu⟩
      · have probed := cpuidLcpu_ne machine.cpuid
        rw [known, if_neg probed] at lcpu
        rw [known, beq_eq_false_iff_ne.mpr probed, Bool.false_and] at taken
        exact Or.inr ⟨n + 1, by rw [earlier, taken, List.cons_append, List.replicate_succ'], lcpu⟩

/-- If at most one call of a run takes a decision, no two calls do. -/
theorem sole_decision (sole : (decisions replies).length ≤ 1) {first second : FoldReply × Option Bool}
    (atFirst : first ∈ replies) (atSecond : second ∈ replies) (one : first.2.isSome = true)
    (other : second.2.isSome = true) : first = second := by
  have length : (replies.filter fun reply => reply.2.isSome).length = (decisions replies).length := by
    rw [decisions, List.length_filterMap_eq_countP, List.countP_eq_length_filter]
  have inFirst : first ∈ replies.filter fun reply => reply.2.isSome := List.mem_filter.mpr ⟨atFirst, one⟩
  have inSecond : second ∈ replies.filter fun reply => reply.2.isSome := List.mem_filter.mpr ⟨atSecond, other⟩
  obtain ⟨i, bound, rfl⟩ := List.mem_iff_getElem.mp inFirst
  obtain ⟨j, bound', rfl⟩ := List.mem_iff_getElem.mp inSecond
  have same : i = j := by omega
  simp only [same]

/-- The reply has a list or the state of a process. -/
def FoldReply.brings : FoldReply → Bool
  | .list (.ok _) => true
  | .infoList (.ok _) => true
  | .state (.ok _) => true
  | _ => false

theorem foldStep_decides (step : foldStep machine sysm call = some ((reply, decision), sysm'))
    (brings : reply.brings = true) : decision.isSome = true := by
  obtain ⟨result, rfl⟩ := foldStep_iff.mp step
  cases call with
  | list memory => rfl
  | infoList memory => rfl
  | state pid timenow =>
    obtain ⟨⟨answer, next⟩, run, same⟩ := Option.map_eq_some_iff.mp result
    cases same
    obtain ⟨status, middle, read, ⟨nonzero, failed, _⟩ | ⟨zero, _⟩⟩ := sysmProcStateGet_cases run
    · rw [failed] at brings
      cases brings
    · simp [FoldCall.decision, read, zero]

/-- In a run with one decision at most one reply brings anything. -/
theorem sole_reply (run : Machine.run (foldStep machine) opened calls = some (replies, final))
    (sole : (decisions replies).length ≤ 1) {first second : FoldReply} (atFirst : first ∈ replies.map Prod.fst)
    (atSecond : second ∈ replies.map Prod.fst) (brings : first.brings = true) (others : second.brings = true) :
    first = second := by
  obtain ⟨one, inFirst, rfl⟩ := List.mem_map.mp atFirst
  obtain ⟨other, inSecond, rfl⟩ := List.mem_map.mp atSecond
  obtain ⟨_, _, _, _, _, _, _, _, step⟩ := Machine.exists_step_of_mem run inFirst
  obtain ⟨_, _, _, _, _, _, _, _, step'⟩ := Machine.exists_step_of_mem run inSecond
  rw [sole_decision sole inFirst inSecond (foldStep_decides step brings) (foldStep_decides step' others)]

/-- With one processor in a package every decision is against folding. -/
theorem decisions_single (cores : opened.cpuListCores = 0) (unknown : opened.lcpu = -1)
    (single : cpuidLcpu machine.cpuid ≤ 1) (run : Machine.run (foldStep machine) opened calls = some (replies, final))
    {answer : Bool} (member : answer ∈ decisions replies) : answer = false := by
  have noFolding : ¬ 1 < cpuidLcpu machine.cpuid := Int32.not_lt.mpr single
  rcases (decisions_run cores unknown run).2 with ⟨empty, _⟩ | ⟨n, taken, _⟩
  · simp [empty] at member
  · rw [taken, decide_eq_false noFolding, ← List.replicate_succ] at member
    exact List.eq_of_mem_replicate member

/-- In a run that never folds every reply is flat. -/
theorem flat_of_run (off : ∀ answer ∈ decisions replies, answer = false)
    (run : Machine.run (foldStep machine) opened calls = some (replies, final)) {reply : FoldReply}
    (member : reply ∈ replies.map Prod.fst) : reply.Flat machine := by
  obtain ⟨⟨_, decision⟩, inReplies, rfl⟩ := List.mem_map.mp member
  obtain ⟨_, _, _, _, _, _, _, _, step⟩ := Machine.exists_step_of_mem run inReplies
  refine foldStep_flat step fun answer taken => off answer ?_
  exact List.mem_filterMap.mpr ⟨_, inReplies, taken⟩

/-- The decisions of a run and the processors that it shows, as the files have them. -/
theorem visits_run (run : Machine.run (foldStep machine) opened calls = some (replies, final)) :
    (decisions replies).length = (visits machine opened.lastStat calls).length ∧
      ((∀ answer ∈ decisions replies, answer = false) →
        replies.filterMap (fun reply => reply.1.processor) = (visits machine opened.lastStat calls).reduceOption) := by
  induction calls generalizing opened replies with
  | nil =>
    cases Option.some.inj run
    exact ⟨rfl, fun _ => rfl⟩
  | cons call calls ih =>
    obtain ⟨⟨reply, decision⟩, next, others, step, later, rfl⟩ := Machine.run_cons_iff.mp run
    obtain ⟨last, decides, shows⟩ := foldStep_visit step
    obtain ⟨length, processors⟩ := ih later
    rw [visits, last, List.length_append, ← length, List.reduceOption_append]
    have split : decisions ((reply, decision) :: others) = decision.toList ++ decisions others := by
      cases decision <;> rfl
    rw [split]
    constructor
    · rw [List.length_append]
      congr 1
      cases decision with
      | none => rw [Option.isSome_none, eq_comm, Option.isSome_eq_false_iff, Option.isNone_iff_eq_none] at decides; rw [decides]; rfl
      | some answer =>
        obtain ⟨shown, here⟩ := Option.isSome_iff_exists.mp decides.symm
        rw [here]
        rfl
    · intro off
      rw [← processors fun answer member => off answer (List.mem_append_right _ member)]
      have against : decision ≠ some true := by
        rintro rfl
        exact absurd (off true (by simp)) (by decide)
      have here := shows against
      rw [List.filterMap_cons, here]
      cases (call.visit machine opened.lastStat).1 with
      | none => rfl
      | some shown => cases shown <;> rfl

/-- A call for the list of the processors is answered with one, if there is the file. -/
theorem list_reply {stat : List UInt8} (run : Machine.run (foldStep machine) opened calls = some (replies, final))
    (atStat : machine.stat = .ok stat) {memory : Nat → SysmCpu} (member : .list memory ∈ calls) :
    ∃ cpuList, FoldReply.list (.ok cpuList) ∈ replies.map Prod.fst := by
  obtain ⟨⟨reply, decision⟩, inReplies, _, _, _, middle, next, _, _, step⟩ := Machine.exists_answer_of_mem run member
  obtain ⟨⟨⟨answer, last⟩, got, same⟩, _⟩ := (foldStep_iff.mp step).imp_left Option.map_eq_some_iff.mp
  cases same
  have there : FoldReply.list answer ∈ replies.map Prod.fst := List.mem_map_of_mem (f := Prod.fst) inReplies
  rw [atStat] at got
  cases answer with
  | ok cpuList => exact ⟨cpuList, there⟩
  | error status =>
    obtain ⟨listed, _, got⟩ := Option.bind_eq_some_iff.mp got
    by_cases empty : listed.number = 0
    · rw [if_pos empty] at got
      obtain ⟨total, _, got⟩ := Option.bind_eq_some_iff.mp got
      obtain ⟨written, _, got⟩ := Option.bind_eq_some_iff.mp got
      cases got
    · rw [if_neg empty] at got
      cases got

/-- The same of the list with what is known about them. -/
theorem infoList_reply {cpuinfo : List UInt8} (run : Machine.run (foldStep machine) opened calls = some (replies, final))
    (atInfo : machine.cpuinfo = .ok cpuinfo) {memory : Nat → SysmCpuInfo} (member : .infoList memory ∈ calls) :
    ∃ cpuInfos, FoldReply.infoList (.ok cpuInfos) ∈ replies.map Prod.fst := by
  obtain ⟨⟨reply, decision⟩, inReplies, _, _, _, middle, next, _, _, step⟩ := Machine.exists_answer_of_mem run member
  obtain ⟨⟨⟨answer, last⟩, got, same⟩, _⟩ := (foldStep_iff.mp step).imp_left Option.map_eq_some_iff.mp
  cases same
  have there : FoldReply.infoList answer ∈ replies.map Prod.fst := List.mem_map_of_mem (f := Prod.fst) inReplies
  rw [atInfo] at got
  cases answer with
  | ok cpuInfos => exact ⟨cpuInfos, there⟩
  | error status =>
    obtain ⟨rounds, _, got⟩ := Option.bind_eq_some_iff.mp got
    cases got

/-- A list in a reply was asked for, and its file is there. -/
theorem list_asked {cpuList : GrowList SysmCpu} (run : Machine.run (foldStep machine) opened calls = some (replies, final))
    (member : FoldReply.list (.ok cpuList) ∈ replies.map Prod.fst) : ∃ memory, .list memory ∈ calls := by
  obtain ⟨⟨reply, decision⟩, inReplies, rfl⟩ := List.mem_map.mp member
  obtain ⟨before, call, after, _, _, _, rfl, _, step⟩ := Machine.exists_step_of_mem run inReplies
  obtain ⟨result, _⟩ := foldStep_iff.mp step
  cases call with
  | list memory => exact ⟨memory, by simp⟩
  | infoList memory =>
    obtain ⟨_, _, same⟩ := Option.map_eq_some_iff.mp result
    cases same
  | state pid timenow =>
    obtain ⟨_, _, same⟩ := Option.map_eq_some_iff.mp result
    cases same

theorem infoList_asked {cpuInfos : GrowList SysmCpuInfo}
    (run : Machine.run (foldStep machine) opened calls = some (replies, final))
    (member : FoldReply.infoList (.ok cpuInfos) ∈ replies.map Prod.fst) : ∃ memory, .infoList memory ∈ calls := by
  obtain ⟨⟨reply, decision⟩, inReplies, rfl⟩ := List.mem_map.mp member
  obtain ⟨before, call, after, _, _, _, rfl, _, step⟩ := Machine.exists_step_of_mem run inReplies
  obtain ⟨result, _⟩ := foldStep_iff.mp step
  cases call with
  | infoList memory => exact ⟨memory, by simp⟩
  | list memory =>
    obtain ⟨_, _, same⟩ := Option.map_eq_some_iff.mp result
    cases same
  | state pid timenow =>
    obtain ⟨_, _, same⟩ := Option.map_eq_some_iff.mp result
    cases same

/-- The processors of the replies are those that are shown. -/
theorem mem_visits_iff (off : ∀ answer ∈ decisions replies, answer = false)
    (run : Machine.run (foldStep machine) opened calls = some (replies, final)) {processor : Int32} :
    some processor ∈ visits machine opened.lastStat calls ↔
      ∃ procState, FoldReply.state (.ok procState) ∈ replies.map Prod.fst ∧ procState.processor = processor := by
  rw [← List.reduceOption_mem_iff, ← (visits_run run).2 off, List.mem_filterMap]
  constructor
  · rintro ⟨⟨reply, decision⟩, member, shown⟩
    have there := List.mem_map_of_mem (f := Prod.fst) member
    cases reply with
    | list result => cases shown
    | infoList result => cases shown
    | state result =>
      cases result with
      | error code => cases shown
      | ok procState => exact ⟨procState, there, Option.some.inj shown⟩
  · rintro ⟨procState, member, rfl⟩
    obtain ⟨reply, inReplies, same⟩ := List.mem_map.mp member
    exact ⟨reply, inReplies, by rw [same]; rfl⟩

/-- With nothing to fold, all agree exactly if the files and the calls fit together. -/
theorem foldsAlike_iff_fits (cores : opened.cpuListCores = 0) (unknown : opened.lcpu = -1)
    (single : cpuidLcpu machine.cpuid ≤ 1) (run : Machine.run (foldStep machine) opened calls = some (replies, final)) :
    FoldsAlike machine replies ↔ machine.Fits opened.lastStat calls := by
  have off := fun answer => @decisions_single machine opened final calls replies cores unknown single run answer
  have flat (reply : FoldReply) := @flat_of_run machine opened final calls replies off run reply
  have length {stat : List UInt8} (atStat : machine.stat = .ok stat) {cpuList : GrowList SysmCpu}
      (member : FoldReply.list (.ok cpuList) ∈ replies.map Prod.fst) : cpuList.number = max (statProcessors stat) 1 := by
    obtain ⟨other, atOther, number⟩ := flat _ member
    cases Except.ok.inj (atStat.symm.trans atOther)
    exact number
  have infoLength {cpuinfo : List UInt8} (atInfo : machine.cpuinfo = .ok cpuinfo) {cpuInfos : GrowList SysmCpuInfo}
      (member : FoldReply.infoList (.ok cpuInfos) ∈ replies.map Prod.fst) : cpuInfos.number = infoProcessors cpuinfo := by
    obtain ⟨other, atOther, number⟩ := flat _ member
    cases Except.ok.inj (atInfo.symm.trans atOther)
    exact number
  constructor
  · intro alike
    refine ⟨single, ?_, ?_⟩
    · rintro stat cpuinfo atStat atInfo same ⟨memory, asked⟩ ⟨memory', asked'⟩ zero
      obtain ⟨cpuList, inList⟩ := list_reply run atStat asked
      obtain ⟨cpuInfos, inInfos⟩ := infoList_reply run atInfo asked'
      have equal := alike.infoLengths ⟨stat, cpuinfo, atStat, atInfo, same⟩ cpuList cpuInfos inList inInfos
      rw [length atStat inList, infoLength atInfo inInfos, ← same, zero] at equal
      omega
    · rintro stat atStat ⟨memory, asked⟩ processor shown
      obtain ⟨cpuList, inList⟩ := list_reply run atStat asked
      obtain ⟨procState, inState, rfl⟩ := (mem_visits_iff off run).mp shown
      rw [← length atStat inList]
      exact alike.processors cpuList procState inList inState
  · intro fits
    refine ⟨fun first inFirst second inSecond => ?_, fun first second atFirst atSecond => ?_, ?_, ?_⟩
    · rw [off first inFirst, off second inSecond]
    · obtain ⟨stat, atStat, number⟩ := flat _ atFirst
      rw [number, length atStat atSecond]
    · rintro ⟨stat, cpuinfo, atStat, atInfo, same⟩ cpuList cpuInfos atList atInfos
      have nonempty := fits.nonempty stat cpuinfo atStat atInfo same (list_asked run atList) (infoList_asked run atInfos)
      rw [length atStat atList, infoLength atInfo atInfos, ← same]
      omega
    · intro cpuList procState atList atState
      obtain ⟨stat, atStat, number⟩ := flat _ atList
      rw [number]
      exact fits.listed stat atStat (list_asked run atList) _ ((mem_visits_iff off run).mpr ⟨procState, atState, rfl⟩)

/-- One decision agrees with itself. -/
theorem foldsAlike_of_sole (sole : (decisions replies).length ≤ 1)
    (run : Machine.run (foldStep machine) opened calls = some (replies, final)) : FoldsAlike machine replies := by
  refine ⟨fun first inFirst second inSecond => ?_, fun first second atFirst atSecond => ?_, ?_, ?_⟩
  · obtain ⟨i, bound, rfl⟩ := List.mem_iff_getElem.mp inFirst
    obtain ⟨j, bound', rfl⟩ := List.mem_iff_getElem.mp inSecond
    have same : i = j := by omega
    simp only [same]
  · cases sole_reply run sole atFirst atSecond rfl rfl
    rfl
  · intro _ cpuList cpuInfos atList atInfos
    cases sole_reply run sole atList atInfos rfl rfl
  · intro cpuList procState atList atState
    cases sole_reply run sole atList atState rfl rfl

/-- Where there are processors to fold, the first decision is for folding and
the second is against it. -/
theorem FoldsAlike.few (cores : opened.cpuListCores = 0) (unknown : opened.lcpu = -1)
    (run : Machine.run (foldStep machine) opened calls = some (replies, final)) (alike : FoldsAlike machine replies) :
    cpuidLcpu machine.cpuid ≤ 1 ∨ (decisions replies).length ≤ 1 := by
  by_contra many
  obtain ⟨more, several⟩ := not_or.mp many
  have folding : 1 < cpuidLcpu machine.cpuid := Int32.not_le.mp more
  rcases (decisions_run cores unknown run).2 with ⟨empty, _⟩ | ⟨n, taken, _⟩
  · rw [empty] at several
    exact several (Nat.zero_le 1)
  · rw [taken, List.length_cons, List.length_replicate] at several
    have first : true ∈ decisions replies := by simp [taken, folding]
    have later : false ∈ decisions replies := by simp [taken, show n ≠ 0 by omega]
    exact absurd (alike.decision true first false later) (by decide)

/-- Folding is a fixed decision exactly if at most one call takes it, or if there
is nothing to fold and the files and the calls fit together. -/
theorem foldsAlike_iff (machine : CpuMachine) (cores : opened.cpuListCores = 0) (unknown : opened.lcpu = -1)
    (run : Machine.run (foldStep machine) opened calls = some (replies, final)) :
    FoldsAlike machine replies ↔
      (visits machine opened.lastStat calls).length ≤ 1 ∨ machine.Fits opened.lastStat calls := by
  rw [← (visits_run run).1]
  constructor
  · intro alike
    rcases alike.few cores unknown run with single | sole
    · exact Or.inr ((foldsAlike_iff_fits cores unknown single run).mp alike)
    · exact Or.inl sole
  · rintro (sole | fits)
    · exact foldsAlike_of_sole sole run
    · exact (foldsAlike_iff_fits cores unknown fits.single run).mpr fits

end Run

/-- A processor of a package with `lcpu` logical ones. -/
def packageOf (lcpu : UInt32) (request : UInt32) : SysmCpuid :=
  if request = 0 then ⟨1, INTEL_ID, 0, 0⟩ else ⟨0, lcpu <<< 16, 0, 0x10000000⟩

/-- A machine with two processors. -/
def twoProcessors (lcpu : UInt32) : CpuMachine where
  cpuid := packageOf lcpu
  stat := .ok (ofString "cpu  2 2 2 2\ncpu0 1 1 1 1\ncpu1 1 1 1 1\nbtime 0\n")
  cpuinfo := .ok (ofString "processor\t: 0\n\nprocessor\t: 1\n\n")
  conf := 2
  cpuFiles := fun _ => .missing
  procStat := fun _ => .bytes (ofString "1 (init) S 0 1 1 0 -1 0 0 0 0 0 0 0 0 0 20 0 1 0 8 0 0 0 0 0 0 0 0 0 0 0 0 0 0 0 0 0 0")
  procStatus := fun _ => .bytes []

def freshCpu : Nat → SysmCpu := fun _ => .zero

def freshCpuInfo : Nat → SysmCpuInfo := fun _ => ⟨Vector.replicate 128 0, Vector.replicate 128 0, 0, 0, 0, 0, 0, 0, 0⟩

/-- Each list has an entry for either processor. -/
theorem foldsAlike_single : ∃ replies final, Machine.run (foldStep (twoProcessors 1)) openedSysm
    [.list freshCpu, .infoList freshCpuInfo, .state 1 0] = some (replies, final) ∧
      FoldsAlike (twoProcessors 1) replies := by
  have completes : (Machine.run (foldStep (twoProcessors 1)) openedSysm
      [.list freshCpu, .infoList freshCpuInfo, .state 1 0]).isSome = true := by decide +kernel
  obtain ⟨⟨replies, final⟩, run⟩ := Option.isSome_iff_exists.mp completes
  have shown : visits (twoProcessors 1) openedSysm.lastStat [.list freshCpu, .infoList freshCpuInfo, .state 1 0] =
      [none, none, some 0] := by decide +kernel
  refine ⟨replies, final, run, (foldsAlike_iff (twoProcessors 1) rfl rfl run).mpr (Or.inr ⟨by decide +kernel, ?_, ?_⟩)⟩
  · intro stat cpuinfo atStat _ _ _ _
    cases atStat
    decide +kernel
  · intro stat atStat _ processor member
    cases atStat
    rw [shown] at member
    have zero : processor = 0 := by simpa using member
    subst zero
    decide +kernel

/-- The first of two calls folds the two processors, the second one does not. -/
theorem sysmCpuCoreRollup_changes_answer :
    ¬ ∀ memory opened getpagesize ticks procStat machine calls replies final,
      sysmOpen memory getpagesize ticks procStat = .ok opened →
        Machine.run (foldStep machine) opened calls = some (replies, final) → FoldsAlike machine replies := by
  intro claim
  have answers : (Machine.run (foldStep (twoProcessors 2)) openedSysm [.list freshCpu, .list freshCpu]).map
      (fun result => decisions result.1) = some [true, false] := by decide +kernel
  obtain ⟨⟨replies, final⟩, run, answers⟩ := Option.map_eq_some_iff.mp answers
  have alike := claim .zero openedSysm 4096 100 (.ok []) _ _ replies final rfl run
  have same := alike.decision true (by simp [answers]) false (by simp [answers])
  cases same

end Sysm
