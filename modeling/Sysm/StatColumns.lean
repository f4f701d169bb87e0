import Sysm.ProcState
import Sysm.StatLine

namespace Sysm

/-- The processor number that stands for a logical processor when the cores
of a package are folded. -/
def foldProcessor (sysm : SysmT) (cpuid : UInt32 → SysmCpuid) (processor : Int32) : Int32 :=
  let (rollup, sysm) := sysmCpuCoreRollup sysm cpuid
  if rollup then processor / sysm.lcpu else processor

namespace StatLine

variable (line : StatLine) (sysm : SysmT)

/-- The record holds the fields of the line that its members are named for. -/
structure NamedIn (pstat : LinuxProcStat) : Prop where
  pri : pstat.pri = toInt (line.field 18)
  ni : pstat.ni = toInt (line.field 19)
  startTime : pstat.startTime = line.startTime sysm 22
  vsize : pstat.vsize = line.field 23
  rss : pstat.rss = line.field 24 <<< sysm.pagesize
  processor : pstat.processor = toInt (line.field 39)

/-- A successful read of the line leaves the named fields in `last_proc_stat`,
and they are the ones reported of the process. -/
structure Reported (pid : Int32) (timenow : Int) : Prop where
  read : ∀ sysm', procStatRead sysm pid timenow (.bytes line.text) = some (0, sysm') →
    line.NamedIn sysm sysm'.lastProcStat
  time : ∀ answer sysm', sysmProcTimeGet sysm pid timenow (.bytes line.text) = some (.ok answer, sysm') →
    answer.startTime = line.startTime sysm 22
  state : ∀ cpuid status answer sysm',
    sysmProcStateGet sysm cpuid pid timenow (.bytes line.text) status = some (.ok answer, sysm') →
      answer.priority = toInt (line.field 18) ∧ answer.nice = toInt (line.field 19) ∧
        answer.processor = foldProcessor sysm cpuid (toInt (line.field 39))

/-- Each column that is read has the value of the column that is meant, and the
two members that are never assigned have the values of theirs by chance. -/
structure ColumnsCoincide : Prop where
  pri : sysm.lastProcStat.pri = toInt (line.field 18)
  ni : sysm.lastProcStat.ni = toInt (line.field 19)
  startTime : line.startTime sysm 18 = line.startTime sysm 22
  vsize : line.field 19 = line.field 23
  rss : line.field 20 <<< sysm.pagesize = line.field 24 <<< sysm.pagesize
  processor : toInt (line.field 35) = toInt (line.field 39)

variable {line sysm} {sysm' : SysmT} {pid : Int32} {timenow : Int}

/-- What a read of the line leaves in the members that are in question. -/
theorem procStatRead_line (miss : sysm.procStatHit pid timenow = false)
    (run : procStatRead sysm pid timenow (.bytes line.text) = some (0, sysm')) :
    sysm'.lastProcStat.pri = sysm.lastProcStat.pri ∧ sysm'.lastProcStat.ni = sysm.lastProcStat.ni ∧
      sysm'.lastProcStat.startTime = line.startTime sysm 18 ∧ sysm'.lastProcStat.vsize = line.field 19 ∧
      sysm'.lastProcStat.rss = line.field 20 <<< sysm.pagesize ∧
      sysm'.lastProcStat.processor = toInt (line.field 35) := by
  rcases procStatRead_cases run with ⟨hit, _, _⟩ | ⟨_, code, _, _⟩ | ⟨_, _, pstat, loaded, same⟩
  · rw [hit] at miss
    cases miss
  · exact absurd rfl code
  · have short : line.text.length < BUFSIZ := by
      by_contra long
      simp [SysmT.loadProcStat, sysmProcFile2str, sysmFile2str, long] at loaded
    rw [line.loadProcStat_line _ short, line.storeStatFields_line] at loaded
    split at loaded
    · cases loaded
    · cases loaded
      subst same
      exact ⟨rfl, rfl, rfl, rfl, rfl, rfl⟩

theorem namedIn_iff (miss : sysm.procStatHit pid timenow = false)
    (run : procStatRead sysm pid timenow (.bytes line.text) = some (0, sysm')) :
    line.NamedIn sysm sysm'.lastProcStat ↔ line.ColumnsCoincide sysm := by
  obtain ⟨pri, ni, startTime, vsize, rss, processor⟩ := procStatRead_line miss run
  constructor
  · intro named
    exact ⟨pri.symm.trans named.pri, ni.symm.trans named.ni, startTime.symm.trans named.startTime,
      vsize.symm.trans named.vsize, rss.symm.trans named.rss, processor.symm.trans named.processor⟩
  · intro same
    exact ⟨pri.trans same.pri, ni.trans same.ni, startTime.trans same.startTime, vsize.trans same.vsize,
      rss.trans same.rss, processor.trans same.processor⟩

theorem NamedIn.time (named : ∀ sysm', procStatRead sysm pid timenow (.bytes line.text) = some (0, sysm') →
      line.NamedIn sysm sysm'.lastProcStat) {answer : SysmProcTime}
    (run : sysmProcTimeGet sysm pid timenow (.bytes line.text) = some (.ok answer, sysm')) :
    answer.startTime = line.startTime sysm 22 := by
  obtain ⟨⟨status, mid⟩, read, run⟩ := Option.bind_eq_some_iff.mp run
  by_cases zero : status = 0
  · simp only [zero, ne_eq, not_true_eq_false, if_false, Option.pure_def, Option.some.injEq, Prod.mk.injEq,
      Except.ok.injEq] at run
    rw [zero] at read
    rw [← run.1]
    exact (named mid read).startTime
  · simp [zero] at run

theorem NamedIn.state (named : ∀ sysm', procStatRead sysm pid timenow (.bytes line.text) = some (0, sysm') →
      line.NamedIn sysm sysm'.lastProcStat) {cpuid : UInt32 → SysmCpuid} {status : FileRead} {answer : SysmProcState}
    (run : sysmProcStateGet sysm cpuid pid timenow (.bytes line.text) status = some (.ok answer, sysm')) :
    answer.priority = toInt (line.field 18) ∧ answer.nice = toInt (line.field 19) ∧
      answer.processor = foldProcessor sysm cpuid (toInt (line.field 39)) := by
  obtain ⟨⟨result, mid⟩, read, run⟩ := Option.bind_eq_some_iff.mp run
  by_cases zero : result = 0
  · simp only [zero, ne_eq, not_true_eq_false, if_false] at run
    rw [zero] at read
    have fields := named mid read
    have frame := procStatRead_frame read
    obtain ⟨rollup, lcpu⟩ := @sysmCpuCoreRollup_congr mid sysm (by rw [frame]) (by rw [frame]) cpuid
    obtain ⟨threads, _, run⟩ := Option.bind_eq_some_iff.mp run
    cases threads with
    | error code => cases run
    | ok threads =>
      cases run
      refine ⟨fields.pri, fields.ni, ?_⟩
      simp only [foldProcessor, rollup, lcpu, fields.processor]
  · simp [zero] at run

/-- A successful read leaves and reports the fields that its members are named
for exactly on the lines whose neighbouring columns coincide. -/
theorem reported_iff_columnsCoincide (miss : sysm.procStatHit pid timenow = false)
    (run : procStatRead sysm pid timenow (.bytes line.text) = some (0, sysm')) :
    line.Reported sysm pid timenow ↔ line.ColumnsCoincide sysm := by
  constructor
  · intro reported
    exact (namedIn_iff miss run).mp (reported.read sysm' run)
  · intro coincide
    have named : ∀ sysm', procStatRead sysm pid timenow (.bytes line.text) = some (0, sysm') →
        line.NamedIn sysm sysm'.lastProcStat := fun sysm' run => (namedIn_iff miss run).mpr coincide
    exact ⟨named, fun _ _ => NamedIn.time named, fun _ _ _ _ => NamedIn.state named⟩

/-- On the line of the process 1 the start time is off. -/
theorem reported_initLine :
    initLine.Reported openedSysm 1 0 ↔ initLine.ColumnsCoincide openedSysm := by
  have runs : ((procStatRead openedSysm 1 0 (.bytes initLine.text)).map Prod.fst) = some 0 := by decide +kernel
  obtain ⟨⟨status, sysm'⟩, run, zero⟩ := Option.map_eq_some_iff.mp runs
  rw [show status = 0 from zero] at run
  exact reported_iff_columnsCoincide (by decide +kernel) run

/-- The priority of process 1 is 20, and 0 is left in `last_proc_stat`. -/
theorem procStatRead_loses_priority :
    ¬ ∀ (line : StatLine) (sysm sysm' : SysmT) (pid : Int32) (timenow : Int), sysm.procStatHit pid timenow = false →
      procStatRead sysm pid timenow (.bytes line.text) = some (0, sysm') → line.Reported sysm pid timenow := by
  intro claim
  have runs : (procStatRead openedSysm 1 0 (.bytes initLine.text)).map (fun result =>
      (result.1, result.2.lastProcStat.pri)) = some (0, 0) := by decide +kernel
  obtain ⟨⟨status, sysm'⟩, run, same⟩ := Option.map_eq_some_iff.mp runs
  obtain ⟨zero, pri⟩ : status = 0 ∧ sysm'.lastProcStat.pri = 0 := Prod.mk.inj same
  rw [zero] at run
  have named := (claim initLine openedSysm sysm' 1 0 (by decide +kernel) run).read sysm' run
  rw [named.pri] at pri
  exact absurd pri (by decide +kernel)

end StatLine

end Sysm
