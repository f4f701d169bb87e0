import Sysm.ProcCalls

namespace Sysm

/-- The two records agree on all that `proc_stat_read` loads from a file. -/
structure LinuxProcStat.SameFields (a b : LinuxProcStat) : Prop where
  name : a.name = b.name
  state : a.state = b.state
  ppid : a.ppid = b.ppid
  tty : a.tty = b.tty
  minorFaults : a.minorFaults = b.minorFaults
  majorFaults : a.majorFaults = b.majorFaults
  utime : a.utime = b.utime
  stime : a.stime = b.stime
  startTime : a.startTime = b.startTime
  vsize : a.vsize = b.vsize
  rss : a.rss = b.rss
  processor : a.processor = b.processor

/-- What `proc_stat_read` takes from the state besides `last_proc_stat`. -/
structure SysmT.SameMachine (a b : SysmT) : Prop where
  ticks : a.ticks = b.ticks
  bootTime : a.bootTime = b.bootTime
  pagesize : a.pagesize = b.pagesize

theorem SysmT.SameMachine.trans {a b c : SysmT} (first : a.SameMachine b) (second : b.SameMachine c) : a.SameMachine c :=
  ⟨first.ticks.trans second.ticks, first.bootTime.trans second.bootTime, first.pagesize.trans second.pagesize⟩

theorem SysmT.SameMachine.symm {a b : SysmT} (same : a.SameMachine b) : b.SameMachine a :=
  ⟨same.ticks.symm, same.bootTime.symm, same.pagesize.symm⟩

/-- Reading the file loads these fields, whatever was in `last_proc_stat` before. -/
def SysmT.StatFields (sysm : SysmT) (stat : FileRead) (fields : LinuxProcStat) : Prop :=
  ∀ other : SysmT, other.SameMachine sysm →
    ∃ pstat, other.loadProcStat stat = some (.ok pstat) ∧ pstat.SameFields fields

theorem SysmT.StatFields.machine {sysm sysm' : SysmT} {stat : FileRead} {fields : LinuxProcStat}
    (parsed : sysm.StatFields stat fields) (same : sysm'.SameMachine sysm) : sysm'.StatFields stat fields := by
  intro other atOther
  exact parsed other (atOther.trans same)

theorem storeStatFields_other {sysm other : SysmT} {name ptr : CString.Text} {state : UInt8} {pstat : LinuxProcStat}
    (stored : sysm.storeStatFields name state ptr = some pstat) (same : other.SameMachine sysm) :
    ∃ pstat', other.storeStatFields name state ptr = some pstat' ∧ pstat'.SameFields pstat := by
  unfold SysmT.storeStatFields at stored ⊢
  simp only [same.ticks, same.bootTime, same.pagesize] at stored ⊢
  split at stored
  · cases stored
  · rename_i ticks
    cases stored
    exact ⟨_, if_neg ticks, ⟨rfl, rfl, rfl, rfl, rfl, rfl, rfl, rfl, rfl, rfl, rfl, rfl⟩⟩

theorem storeStatFields_stamp {sysm : SysmT} {name ptr : CString.Text} {state : UInt8} {pstat : LinuxProcStat}
    (stored : sysm.storeStatFields name state ptr = some pstat) :
    pstat.pid = sysm.lastProcStat.pid ∧ pstat.mtime = sysm.lastProcStat.mtime := by
  unfold SysmT.storeStatFields at stored
  simp only at stored
  split at stored
  · cases stored
  · cases stored
    exact ⟨rfl, rfl⟩

/-- Where the fields of a loaded file start. -/
theorem loadProcStat_ok_iff {sysm : SysmT} {stat : FileRead} {pstat : LinuxProcStat} :
    sysm.loadProcStat stat = some (.ok pstat) ↔ ∃ buffer opening closing state ptr,
      sysmProcFile2str BUFSIZ stat = some (.ok buffer) ∧ CString.strchr 40 buffer = some opening ∧
        CString.strrchr 41 opening.tail = some closing ∧ skipSpace closing.tail = state :: ptr ∧
          sysm.storeStatFields (opening.tail.take (if procNameLen ≤ opening.tail.length - closing.length
            then procNameLen - 1 else opening.tail.length - closing.length)) state ptr = some pstat := by
  constructor
  · intro loaded
    obtain ⟨result, read, parsed⟩ := Option.bind_eq_some_iff.mp loaded
    cases result with
    | error status => cases parsed
    | ok buffer =>
      unfold SysmT.parseProcStat at parsed
      cases atOpening : CString.strchr 40 buffer with
      | none => simp [atOpening] at parsed
      | some opening =>
        cases atClosing : CString.strrchr 41 opening.tail with
        | none => simp [atOpening, atClosing] at parsed
        | some closing =>
          simp only [atOpening, atClosing] at parsed
          cases atState : skipSpace closing.tail with
          | nil => simp [atState] at parsed
          | cons state ptr =>
            rw [atState] at parsed
            obtain ⟨fields, stored, same⟩ := Option.map_eq_some_iff.mp parsed
            cases same
            exact ⟨buffer, opening, closing, state, ptr, read, atOpening, atClosing, atState, stored⟩
  · rintro ⟨buffer, opening, closing, state, ptr, read, atOpening, atClosing, atState, stored⟩
    simp only [SysmT.loadProcStat, read, Option.bind_eq_bind, Option.bind_some, SysmT.parseProcStat, atOpening,
      atClosing, atState, stored, Option.map_some]

theorem loadProcStat_stamp {sysm : SysmT} {stat : FileRead} {pstat : LinuxProcStat}
    (loaded : sysm.loadProcStat stat = some (.ok pstat)) :
    pstat.pid = sysm.lastProcStat.pid ∧ pstat.mtime = sysm.lastProcStat.mtime := by
  obtain ⟨_, _, _, _, _, _, _, _, _, stored⟩ := loadProcStat_ok_iff.mp loaded
  exact storeStatFields_stamp stored

theorem loadProcStat_fields {sysm : SysmT} {stat : FileRead} {pstat : LinuxProcStat}
    (loaded : sysm.loadProcStat stat = some (.ok pstat)) : sysm.StatFields stat pstat := by
  intro other same
  obtain ⟨buffer, opening, closing, state, ptr, read, atOpening, atClosing, atState, stored⟩ :=
    loadProcStat_ok_iff.mp loaded
  obtain ⟨pstat', stored', fields⟩ := storeStatFields_other stored same
  exact ⟨pstat', loadProcStat_ok_iff.mpr ⟨buffer, opening, closing, state, ptr, read, atOpening, atClosing, atState,
    stored'⟩, fields⟩

theorem loadProcStat_stamp_fields {sysm : SysmT} {pid : Int32} {now : Int} {stat : FileRead} {pstat : LinuxProcStat}
    (loaded : (sysm.stamp pid now).loadProcStat stat = some (.ok pstat)) :
    sysm.StatFields stat pstat ∧ pstat.pid = pid ∧ pstat.mtime = now :=
  ⟨(loadProcStat_fields loaded).machine ⟨rfl, rfl, rfl⟩, loadProcStat_stamp loaded⟩

/-- The effect of a `proc_stat_read` that returns `status`. -/
structure ReadEffect (sysm : SysmT) (pid : Int32) (now : Int) (stat : FileRead) (status : Int) (sysm' : SysmT) :
    Prop where
  machine : sysm'.SameMachine sysm
  hit : sysm.procStatHit pid now = true → status = 0 ∧ sysm'.lastProcStat = sysm.lastProcStat
  loaded : sysm.procStatHit pid now = false → status = 0 → sysm.StatFields stat sysm'.lastProcStat ∧
    sysm'.lastProcStat.pid = pid ∧ sysm'.lastProcStat.mtime = now
  failed : sysm.procStatHit pid now = false → status ≠ 0 →
    (∀ other : SysmT, other.loadProcStat stat = some (.error status)) ∧
      sysm'.lastProcStat = { sysm.lastProcStat with pid, mtime := now }

theorem ReadEffect.stamped {sysm sysm' : SysmT} {pid : Int32} {now : Int} {stat : FileRead} {status : Int}
    (effect : ReadEffect sysm pid now stat status sysm') (miss : sysm.procStatHit pid now = false) :
    sysm'.lastProcStat.pid = pid ∧ sysm'.lastProcStat.mtime = now := by
  by_cases zero : status = 0
  · exact (effect.loaded miss zero).2
  · rw [(effect.failed miss zero).2]
    exact ⟨rfl, rfl⟩

/-- A read that fails is made, and stamps the fields that were there. -/
theorem ReadEffect.of_failed {sysm sysm' : SysmT} {pid : Int32} {now : Int} {stat : FileRead} {status : Int}
    (effect : ReadEffect sysm pid now stat status sysm') (code : status ≠ 0) :
    sysm'.lastProcStat = { sysm.lastProcStat with pid, mtime := now } := by
  cases hit : sysm.procStatHit pid now with
  | true => exact absurd (effect.hit hit).1 code
  | false => exact (effect.failed hit code).2

/-- A file whose read fails has no fields. -/
theorem ReadEffect.no_fields {sysm sysm' : SysmT} {pid : Int32} {now : Int} {stat : FileRead} {status : Int}
    (effect : ReadEffect sysm pid now stat status sysm') (miss : sysm.procStatHit pid now = false)
    (code : status ≠ 0) (fields : LinuxProcStat) : ¬ sysm.StatFields stat fields := by
  intro parsed
  obtain ⟨pstat, ok, _⟩ := parsed sysm ⟨rfl, rfl, rfl⟩
  have error := (effect.failed miss code).1 sysm
  cases ok.symm.trans error

theorem parseProcStat_error_other {sysm other : SysmT} {buffer : CString.Text} {status : Int}
    (failed : sysm.parseProcStat buffer = some (.error status)) :
    other.parseProcStat buffer = some (.error status) := by
  unfold SysmT.parseProcStat at failed ⊢
  cases atOpening : CString.strchr 40 buffer with
  | none => simpa [atOpening] using failed
  | some opening =>
    cases atClosing : CString.strrchr 41 opening.tail with
    | none => simpa [atOpening, atClosing] using failed
    | some closing =>
      simp only [atOpening, atClosing] at failed
      cases atState : skipSpace closing.tail with
      | nil => simp [atState] at failed
      | cons state ptr => simp [atState] at failed

theorem loadProcStat_error_other {sysm other : SysmT} {stat : FileRead} {status : Int}
    (failed : sysm.loadProcStat stat = some (.error status)) : other.loadProcStat stat = some (.error status) := by
  obtain ⟨result, read, failed⟩ := Option.bind_eq_some_iff.mp failed
  cases result with
  | error code =>
    cases failed
    simp only [SysmT.loadProcStat, read, Option.bind_eq_bind, Option.bind_some, Option.pure_def]
  | ok buffer =>
    simp only [SysmT.loadProcStat, read, Option.bind_eq_bind, Option.bind_some]
    exact parseProcStat_error_other failed

theorem procStatRead_effect {sysm base sysm' : SysmT} {pid : Int32} {now : Int} {stat : FileRead} {status : Int}
    (same : base.SameMachine sysm) (record : base.lastProcStat = sysm.lastProcStat)
    (run : procStatRead base pid now stat = some (status, sysm')) : ReadEffect sysm pid now stat status sysm' := by
  have hits : base.procStatHit pid now = sysm.procStatHit pid now := by
    simp only [SysmT.procStatHit, record]
  have back : sysm.SameMachine base := same.symm
  rcases procStatRead_cases run with ⟨hit, zero, unchanged⟩ | ⟨miss, code, loaded, stamped⟩ |
    ⟨miss, zero, pstat, loaded, stored⟩
  · rw [hits] at hit
    subst unchanged
    exact ⟨same, fun _ => ⟨zero, record⟩, by simp [hit], by simp [hit]⟩
  · rw [hits] at miss
    subst stamped
    refine ⟨⟨same.ticks, same.bootTime, same.pagesize⟩, by simp [miss], fun _ zero => absurd zero code, ?_⟩
    intro _ _
    refine ⟨fun _ => loadProcStat_error_other loaded, ?_⟩
    rw [← record]
    rfl
  · rw [hits] at miss
    subst stored
    obtain ⟨fields, atPid, atTime⟩ := loadProcStat_stamp_fields loaded
    exact ⟨⟨same.ticks, same.bootTime, same.pagesize⟩, by simp [miss], fun _ _ => ⟨fields.machine back, atPid, atTime⟩,
      fun _ code => absurd zero code⟩

/-- The reply is a successful answer of one of the two calls that report the
fields of the stat file. -/
def ProcReply.reports : ProcReply → Bool
  | .time (.ok _) => true
  | .state (.ok _) => true
  | _ => false

/-- The fields that the reply reports are those of the record. -/
def ProcReply.ReportsFields (reply : ProcReply) (fields : LinuxProcStat) : Prop :=
  match reply with
  | .time (.ok answer) =>
    answer.user = fields.utime ∧ answer.sys = fields.stime ∧ answer.total = fields.utime + fields.stime ∧
      answer.startTime = fields.startTime
  | .state (.ok answer) =>
    answer.name = fields.name ∧ answer.state = fields.state ∧ answer.ppid = fields.ppid ∧ answer.tty = fields.tty
  | _ => True

theorem sysmProcTimeGet_effect {sysm base sysm' : SysmT} {pid : Int32} {now : Int} {stat : FileRead}
    {result : Except Int SysmProcTime} (same : base.SameMachine sysm)
    (record : base.lastProcStat = sysm.lastProcStat)
    (run : sysmProcTimeGet base pid now stat = some (result, sysm')) :
    ∃ status, ReadEffect sysm pid now stat status sysm' ∧ ((ProcReply.time result).reports = true → status = 0 ∧
      (ProcReply.time result).ReportsFields sysm'.lastProcStat) := by
  obtain ⟨status, read, failed | answered⟩ := sysmProcTimeGet_cases run
  · obtain ⟨code, rfl⟩ := failed
    exact ⟨status, procStatRead_effect same record read, fun reports => by cases reports⟩
  · obtain ⟨zero, rfl⟩ := answered
    exact ⟨status, procStatRead_effect same record read, fun _ => ⟨zero, rfl, rfl, rfl, rfl⟩⟩

theorem sysmCpuCoreRollup_same (sysm : SysmT) (cpuid : UInt32 → SysmCpuid) :
    (sysmCpuCoreRollup sysm cpuid).2.SameMachine sysm ∧
      (sysmCpuCoreRollup sysm cpuid).2.lastProcStat = sysm.lastProcStat := by
  unfold sysmCpuCoreRollup sysmCpuCoreCount
  simp only
  split
  · split
    · exact ⟨⟨rfl, rfl, rfl⟩, rfl⟩
    · exact ⟨⟨rfl, rfl, rfl⟩, rfl⟩
  · exact ⟨⟨rfl, rfl, rfl⟩, rfl⟩

theorem ReadEffect.congr {sysm mid sysm' : SysmT} {pid : Int32} {now : Int} {stat : FileRead} {status : Int}
    (effect : ReadEffect sysm pid now stat status mid) (same : sysm'.SameMachine mid)
    (record : sysm'.lastProcStat = mid.lastProcStat) : ReadEffect sysm pid now stat status sysm' where
  machine := same.trans effect.machine
  hit := by rw [record]; exact effect.hit
  loaded := by rw [record]; exact effect.loaded
  failed := by rw [record]; exact effect.failed

theorem sysmProcStateGet_effect {sysm sysm' : SysmT} {event : ProcEvent} {cpuid : UInt32 → SysmCpuid}
    {file : FileRead} {result : Except Int SysmProcState}
    (run : sysmProcStateGet sysm cpuid event.pid event.now event.stat file = some (result, sysm')) :
    ∃ status, ReadEffect sysm event.pid event.now event.stat status sysm' ∧ ((ProcReply.state result).reports = true → status = 0 ∧
      (ProcReply.state result).ReportsFields sysm'.lastProcStat) := by
  obtain ⟨⟨status, mid⟩, read, run⟩ := Option.bind_eq_some_iff.mp run
  have effect := procStatRead_effect ⟨rfl, rfl, rfl⟩ rfl read
  obtain ⟨machine, record⟩ := sysmCpuCoreRollup_same mid cpuid
  by_cases zero : status = 0
  · simp only [zero, ne_eq, not_true_eq_false, if_false] at run
    obtain ⟨answer, _, run⟩ := Option.bind_eq_some_iff.mp run
    cases answer with
    | error code =>
      cases run
      exact ⟨status, effect.congr machine record, fun reports => by cases reports⟩
    | ok threads =>
      cases run
      refine ⟨status, effect.congr machine record, fun _ => ⟨zero, ?_⟩⟩
      rw [record]
      exact ⟨rfl, rfl, rfl, rfl⟩
  · simp only [zero, ne_eq, not_false_eq_true, if_true, Option.pure_def, Option.some.injEq, Prod.mk.injEq] at run
    obtain ⟨rfl, rfl⟩ := run
    exact ⟨status, effect, fun reports => by cases reports⟩

theorem sysmProcMemGet_effect {sysm sysm' : SysmT} {event : ProcEvent} {statm : FileRead}
    {result : Except Int SysmProcMem}
    (run : sysmProcMemGet sysm event.pid event.now event.stat statm = some (result, sysm')) :
    ∃ status, ReadEffect sysm event.pid event.now event.stat status sysm' := by
  obtain ⟨⟨status, mid⟩, read, run⟩ := Option.bind_eq_some_iff.mp run
  obtain ⟨answer, _, run⟩ := Option.bind_eq_some_iff.mp run
  have effect := procStatRead_effect ⟨rfl, rfl, rfl⟩ rfl read
  cases answer with
  | error code =>
    cases run
    exact ⟨status, effect⟩
  | ok buffer =>
    cases run
    exact ⟨status, effect⟩

theorem sysmProcCpuGet_effect {sysm sysm' : SysmT} {event : ProcEvent} {procCpu record : SysmProcCpu}
    {clock : CpuClock} {status : Int} (isCpu : event.call = .cpu procCpu clock)
    (run : sysmProcCpuGet sysm event.pid procCpu { clock with seconds := event.now } event.stat =
      some ((status, record), sysm')) :
    (event.callsProcStatRead sysm = false ∧ sysm'.SameMachine sysm ∧ sysm'.lastProcStat = sysm.lastProcStat) ∨
      (event.callsProcStatRead sysm = true ∧ ∃ code, ReadEffect sysm event.pid event.now event.stat code sysm') := by
  obtain ⟨⟨table, entry, prev⟩, found, run⟩ := Option.bind_eq_some_iff.mp run
  obtain ⟨table', stored, run⟩ := Option.bind_eq_some_iff.mp run
  have calls : event.callsProcStatRead sysm = decide (clock.timeNow - prev.lastTime ≠ 0) := by
    simp only [ProcEvent.callsProcStatRead, isCpu, found, Option.any_some]
  by_cases same : clock.timeNow - prev.lastTime = 0
  · simp only [same, if_true, Option.pure_def, Option.some.injEq, Prod.mk.injEq] at run
    rw [← run.2]
    exact Or.inl ⟨by simp [calls, same], ⟨rfl, rfl, rfl⟩, rfl⟩
  · simp only [same, if_false] at run
    refine Or.inr ⟨by simp [calls, same], ?_⟩
    obtain ⟨⟨result, mid⟩, read, run⟩ := Option.bind_eq_some_iff.mp run
    have machine : SysmT.SameMachine { sysm with procCpu := some table' } sysm := ⟨rfl, rfl, rfl⟩
    obtain ⟨code, effect, _⟩ := sysmProcTimeGet_effect machine rfl read
    cases result with
    | error failure =>
      cases run
      exact ⟨code, effect⟩
    | ok time =>
      obtain ⟨table'', _, run⟩ := Option.bind_eq_some_iff.mp run
      cases run
      exact ⟨code, effect.congr ⟨rfl, rfl, rfl⟩ rfl⟩

/-- A step either stays away from `last_proc_stat` or has the effect of one
call of `proc_stat_read`; what it reports is then in `last_proc_stat`. -/
theorem procStep_cases {sysm sysm' : SysmT} {event : ProcEvent} {reply : ProcReply}
    (step : procStep sysm event = some (reply, sysm')) :
    (event.callsProcStatRead sysm = false ∧ reply.reports = false ∧ sysm'.SameMachine sysm ∧
        sysm'.lastProcStat = sysm.lastProcStat) ∨
      (event.callsProcStatRead sysm = true ∧ ∃ status, ReadEffect sysm event.pid event.now event.stat status sysm' ∧
        (reply.reports = true → status = 0 ∧ reply.ReportsFields sysm'.lastProcStat)) := by
  unfold procStep at step
  cases call : event.call with
  | time =>
    rw [call] at step
    obtain ⟨⟨result, next⟩, run, same⟩ := Option.map_eq_some_iff.mp step
    cases same
    exact Or.inr ⟨by simp [ProcEvent.callsProcStatRead, call], sysmProcTimeGet_effect ⟨rfl, rfl, rfl⟩ rfl run⟩
  | state cpuid file =>
    rw [call] at step
    obtain ⟨⟨result, next⟩, run, same⟩ := Option.map_eq_some_iff.mp step
    cases same
    exact Or.inr ⟨by simp [ProcEvent.callsProcStatRead, call], sysmProcStateGet_effect run⟩
  | mem statm =>
    rw [call] at step
    obtain ⟨⟨result, next⟩, run, same⟩ := Option.map_eq_some_iff.mp step
    cases same
    obtain ⟨status, effect⟩ := sysmProcMemGet_effect run
    exact Or.inr ⟨by simp [ProcEvent.callsProcStatRead, call], status, effect, fun reports => by cases reports⟩
  | cpu procCpu clock =>
    rw [call] at step
    obtain ⟨⟨⟨status, record⟩, next⟩, run, same⟩ := Option.map_eq_some_iff.mp step
    cases same
    rcases sysmProcCpuGet_effect call run with ⟨away, machine, kept⟩ | ⟨calls, code, effect⟩
    · exact Or.inl ⟨away, rfl, machine, kept⟩
    · exact Or.inr ⟨calls, code, effect, fun reports => by cases reports⟩

end Sysm
