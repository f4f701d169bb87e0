import Sysm.CpuRollup
import Sysm.ProcStat

namespace Sysm
open CString

/-- `sysm_proc_state_t` -/
structure SysmProcState where
  name : Text
  state : UInt8
  ppid : Int32
  tty : Int32
  priority : Int32
  nice : Int32
  processor : Int32
  threads : UInt64
deriving Repr, DecidableEq

/-- `proc_status_get`, which sets `threads` only. -/
def procStatusGet (status : FileRead) : Option (Except Int UInt64) := do
  match ← sysmProcFile2str BUFSIZ status with
  | .error status => return .error status
  | .ok buffer =>
    match strstr (ofString "\nThread:") buffer with
    | some ptr => return .ok (strtoul 10 (sysmSkipToken ptr)).1
    | none => return .ok (-1)

/-- `sysm_proc_state_get`, where `stat` and `status` are the files of the process. -/
def sysmProcStateGet (sysm : SysmT) (cpuid : UInt32 → SysmCpuid) (pid : Int32) (timenow : Int)
    (stat status : FileRead) : Option (Except Int SysmProcState × SysmT) := do
  let (result, sysm) ← procStatRead sysm pid timenow stat
  let pstat := sysm.lastProcStat
  if result ≠ 0 then return (.error result, sysm)
  let (rollup, sysm) := sysmCpuCoreRollup sysm cpuid
  match ← procStatusGet status with
  | .error result => return (.error result, sysm)
  | .ok threads =>
    return (.ok {
      name := pstat.name
      state := pstat.state
      ppid := pstat.ppid
      tty := pstat.tty
      priority := pstat.pri
      nice := pstat.ni
      processor := if rollup then pstat.processor / sysm.lcpu else pstat.processor
      threads }, sysm)

/-- The answer of `sysm_proc_state_get` is the status of `proc_stat_read`, or
the decision about the cores is asked for. -/
theorem sysmProcStateGet_cases {sysm sysm' : SysmT} {cpuid : UInt32 → SysmCpuid} {pid : Int32} {timenow : Int}
    {stat status : FileRead} {result : Except Int SysmProcState}
    (run : sysmProcStateGet sysm cpuid pid timenow stat status = some (result, sysm')) :
    ∃ read middle, procStatRead sysm pid timenow stat = some (read, middle) ∧
      ((read ≠ 0 ∧ result = .error read ∧ sysm' = middle) ∨
        (read = 0 ∧ sysm' = (sysmCpuCoreRollup middle cpuid).2 ∧
          ∀ procState, result = .ok procState → procState.processor =
            if (sysmCpuCoreRollup middle cpuid).1 then middle.lastProcStat.processor / sysm'.lcpu
            else middle.lastProcStat.processor)) := by
  obtain ⟨⟨read, middle⟩, atRead, run⟩ := Option.bind_eq_some_iff.mp run
  refine ⟨read, middle, atRead, ?_⟩
  by_cases failed : read = 0
  · simp only [failed, ne_eq, not_true_eq_false, if_false] at run
    obtain ⟨threads, _, run⟩ := Option.bind_eq_some_iff.mp run
    refine Or.inr ⟨failed, ?_⟩
    cases threads with
    | error code =>
      cases run
      exact ⟨rfl, fun procState same => by cases same⟩
    | ok threads =>
      cases run
      refine ⟨rfl, fun procState same => ?_⟩
      cases same
      rfl
  · simp only [failed, ne_eq, not_false_eq_true, if_true] at run
    cases run
    exact Or.inl ⟨failed, rfl, rfl⟩

end Sysm
