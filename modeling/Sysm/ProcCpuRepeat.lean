import Sysm.ProcCpuRate

namespace Sysm

variable {opened sysm sysm' : SysmT} {first second : CpuCall} {record : SysmProcCpu}

/-- What the callers of `sysm_proc_cpu_get` take from the record. -/
structure SysmProcCpu.SameAnswer (a b : SysmProcCpu) : Prop where
  startTime : a.startTime = b.startTime
  user : a.user = b.user
  sys : a.sys = b.sys
  total : a.total = b.total
  percent : a.percent = b.percent

/-- A call in the millisecond of the last successful one succeeds with the same record. -/
def RepeatsAnswers (opened : SysmT) (calls : List CpuCall) : Prop :=
  ∀ before first between second after, calls = before ++ first :: (between ++ second :: after) →
    second.clock.timeNow = first.clock.timeNow →
      ∀ replies sysm record sysm₁ failed sysm₂ reply sysm₃,
        Machine.run cpuStep opened before = some (replies, sysm) → cpuStep sysm first = some ((0, record), sysm₁) →
          Machine.run cpuStep sysm₁ between = some (failed, sysm₂) → (∀ answer ∈ failed, answer.1 ≠ 0) →
            cpuStep sysm₂ second = some (reply, sysm₃) → reply.1 = 0 ∧ reply.2.SameAnswer record

/-- If the call reads the times anew, then the record of the caller has in its
`percent`, before the call, the growth of the total over the time since the
record in the table, or 0 where there is no growth. -/
def CpuCall.Foresees (call : CpuCall) (sysm : SysmT) : Prop :=
  ∀ prev sysm', sysm.procCpuPrev call.pid call.clock = some prev → call.clock.timeNow - prev.lastTime ≠ 0 →
    ReadEffect sysm call.pid call.clock.seconds call.stat 0 sysm' →
      call.procCpu.percent =
        cpuPercent prev call.clock.timeNow (sysm'.lastProcStat.utime + sysm'.lastProcStat.stime)

/-- The second of two calls finds what the first has left: `sysm` and `sysm'` are
the states before them. -/
structure CpuCall.RepeatedBy (first second : CpuCall) (sysm sysm' : SysmT) : Prop where
  foreseen : first.Foresees sysm
  stays : sysm'.cpuResizes second.pid second.clock = false
  alive : second.clock.sweep - first.clock.access ≤ pidCacheEntryExpirePeriod

/-- The condition on the calls of a run: the clock is not set back, and it holds of
each two successive calls of one millisecond. -/
structure EachRepeat (opened : SysmT) (calls : List CpuCall) : Prop where
  ordered : calls.Pairwise fun earlier later => earlier.clock.timeNow ≤ later.clock.timeNow
  repeated : ∀ before first second after, calls = before ++ first :: second :: after →
    second.clock.timeNow = first.clock.timeNow → ∀ replies sysm reply sysm',
      Machine.run cpuStep opened before = some (replies, sysm) → cpuStep sysm first = some (reply, sysm') →
        first.RepeatedBy second sysm sysm'

/-- What a successful call answers is, then, what the table keeps. -/
theorem CpuAnswer.record_eq_kept {pid : Int32} {procCpu prev kept : SysmProcCpu} {clock : CpuClock} {stat : FileRead}
    (foreseen : CpuCall.Foresees ⟨pid, procCpu, clock, stat⟩ sysm) (entry : sysm.procCpuPrev pid clock = some prev)
    (answer : CpuAnswer sysm pid procCpu clock stat prev kept 0 record sysm') : record = kept := by
  cases answer with
  | again => rfl
  | failed _ code => exact absurd rfl code
  | answered passed effect =>
    have percent : procCpu.percent = _ := foreseen prev sysm' entry passed effect
    rw [← percent]
    rfl

/-- A record of the same millisecond is answered as it is. -/
theorem CpuAnswer.again_of_same_time {pid : Int32} {procCpu prev kept : SysmProcCpu} {clock : CpuClock} {stat : FileRead}
    {status : Int} (same : clock.timeNow = prev.lastTime)
    (answer : CpuAnswer sysm pid procCpu clock stat prev kept status record sysm') :
    status = 0 ∧ record.SameAnswer prev := by
  have zero : clock.timeNow - prev.lastTime = 0 := by rw [same, UInt64.sub_self]
  cases answer with
  | again => exact ⟨rfl, rfl, rfl, rfl, rfl, rfl⟩
  | failed passed => exact absurd zero passed
  | answered passed => exact absurd zero passed

theorem cpuStep_sound {call : CpuCall} {reply : Int × SysmProcCpu} (sound : sysm.CpuSound)
    (step : cpuStep sysm call = some (reply, sysm')) : sysm'.CpuSound := by
  obtain ⟨status, record⟩ := reply
  obtain ⟨prev, kept, change, _⟩ := sysmProcCpuGet_spec sound step
  exact change.sound

/-- Two successive calls of one millisecond. -/
theorem cpuStep_again {sysm₁ sysm₂ : SysmT} {reply : Int × SysmProcCpu} (sound : sysm.CpuSound)
    (samePid : second.pid = first.pid) (sameTime : second.clock.timeNow = first.clock.timeNow)
    (repeated : first.RepeatedBy second sysm sysm₁) (step : cpuStep sysm first = some ((0, record), sysm₁))
    (next : cpuStep sysm₁ second = some (reply, sysm₂)) : reply.1 = 0 ∧ reply.2.SameAnswer record := by
  obtain ⟨status, again⟩ := reply
  obtain ⟨prev, kept, change, answer⟩ := sysmProcCpuGet_spec sound step
  obtain ⟨prev', kept', change', answer'⟩ := sysmProcCpuGet_spec change.sound next
  have same : record = kept := answer.record_eq_kept repeated.foreseen change.entry
  have found : prev' = kept :=
    (change'.keeps repeated.stays first.pid kept _ change.has (UInt64.not_lt.mpr repeated.alive)).1 samePid.symm
  have time : kept.lastTime = first.clock.timeNow := answer.lastTime
  rw [same, ← found]
  exact answer'.again_of_same_time (by rw [found, time, sameTime])

/-- In every run whose calls meet the condition a call in the millisecond of the
last successful one repeats its answer. -/
theorem repeatsAnswers_of_eachRepeat (opened : SysmT) (noTable : opened.procCpu = none) (pid : Int32)
    (calls : List CpuCall) (onePid : ∀ call ∈ calls, call.pid = pid) (each : EachRepeat opened calls) :
    RepeatsAnswers opened calls := by
  intro before first between second after split sameTime replies sysm record sysm₁ failed sysm₂ reply sysm₃ run step
    others code next
  have start : opened.CpuSound := by
    intro table atTable
    cases noTable.symm.trans atTable
  have sound : sysm.CpuSound :=
    Machine.run_invariant (fun _ _ _ _ sound step => cpuStep_sound sound step) start run
  have own : ∀ call ∈ first :: (between ++ second :: after), call.pid = pid := by
    intro call member
    apply onePid
    rw [split]
    exact List.mem_append_right _ member
  cases between with
  | nil =>
    cases Option.some.inj others
    have repeated := each.repeated before first second after split sameTime replies sysm _ sysm₁ run step
    have samePid : second.pid = first.pid := (own second (by simp)).trans (own first (by simp)).symm
    exact cpuStep_again sound samePid sameTime repeated step next
  | cons middle between =>
    -- the call in between has the same millisecond, so it would have succeeded
    have ordered := each.ordered
    rw [split, List.pairwise_append, List.pairwise_cons, List.cons_append, List.pairwise_cons] at ordered
    have early := ordered.2.1.1 middle (by simp)
    have late := ordered.2.1.2.1 second (by simp)
    rw [sameTime] at late
    have middleTime : middle.clock.timeNow = first.clock.timeNow := UInt64.le_antisymm late early
    obtain ⟨answer, sysm', rest, one, later, rfl⟩ := Machine.run_cons_iff.mp others
    have repeated := each.repeated before first middle (between ++ second :: after) split middleTime replies sysm _ sysm₁
      run step
    have samePid : middle.pid = first.pid := (own middle (by simp)).trans (own first (by simp)).symm
    have again := cpuStep_again sound samePid middleTime repeated step one
    exact absurd again.1 (code answer (by simp))

/-- A process that is asked for twice at the first second, first with a cleared record. -/
def askedTwice : List CpuCall := [callAt 1 1000 (.bytes (busyLine 50).text), callAt 1 1000 .missing]

theorem repeatsAnswers_askedTwice : RepeatsAnswers openedSysm askedTwice := by
  refine repeatsAnswers_of_eachRepeat openedSysm rfl 1 askedTwice (by simp [askedTwice, callAt]) ⟨by simp [askedTwice, callAt], ?_⟩
  intro before first second after split _ replies sysm reply sysm' run step
  have alone : before = [] := by
    have lengths := congrArg List.length split
    simp only [askedTwice, List.length_append, List.length_cons, List.length_nil] at lengths
    exact List.eq_nil_of_length_eq_zero (by omega)
  subst alone
  cases split
  cases Option.some.inj run
  refine ⟨?_, ?_, by decide⟩
  · intro prev sysm' entry _ _
    have zero : (openedSysm.procCpuPrev 1 (callAt 1 1000 .missing).clock).map SysmProcCpu.total = some 0 := by
      decide +kernel
    rw [show openedSysm.procCpuPrev 1 (callAt 1 1000 .missing).clock = some prev from entry] at zero
    rw [cpuPercent_of_no_total (Option.some.inj zero)]
    rfl
  · have stays : (cpuStep openedSysm (callAt 1 1000 (.bytes (busyLine 50).text))).map (fun result =>
        result.2.cpuResizes 1 (callAt 1 1000 .missing).clock) = some false := by decide +kernel
    rw [step, Option.map_some] at stays
    exact Option.some.inj stays

/-- The second answer has the percentage that the memory of the first caller held. -/
theorem sysmProcCpuGet_keeps_old_percent :
    ¬ ∀ memory opened getpagesize ticks procStat calls pid,
      sysmOpen memory getpagesize ticks procStat = .ok opened →
      (∀ call ∈ calls, call.pid = pid ∧ call.clock.Steady ∧ call.clock.seconds = call.clock.wholeSeconds) →
      calls.Pairwise (fun earlier later : CpuCall => earlier.clock.timeNow ≤ later.clock.timeNow) →
      RepeatsAnswers opened calls := by
  intro claim
  let first : CpuCall := { callAt 1 1000 (.bytes (busyLine 50).text) with procCpu := ⟨0, 0, 0, 0, 0, 7⟩ }
  let second : CpuCall := callAt 1 1000 (.bytes (busyLine 50).text)
  have steady : ∀ call ∈ [first, second], call.pid = 1 ∧ call.clock.Steady ∧
      call.clock.seconds = call.clock.wholeSeconds := by
    simp only [List.mem_cons, List.not_mem_nil, or_false, forall_eq_or_imp, forall_eq]
    have steady := callAt_steady 1 1000 (.bytes (busyLine 50).text)
    exact ⟨⟨rfl, steady⟩, rfl, steady⟩
  have repeats := claim .zero openedSysm 4096 100 (.ok []) [first, second] 1 rfl steady (by simp [first, second, callAt])
  have ran : (Machine.run cpuStep openedSysm [first, second]).map (fun result =>
      result.1.map fun reply => (reply.1, reply.2.percent)) = some [(0, 0), (0, 7)] := by
    decide +kernel
  obtain ⟨⟨replies, sysm⟩, run, answers⟩ := Option.map_eq_some_iff.mp ran
  obtain ⟨one, sysm₁, others, step, later, rfl⟩ := Machine.run_cons_iff.mp run
  obtain ⟨two, sysm₂, rest, next, noMore, rfl⟩ := Machine.run_cons_iff.mp later
  cases Option.some.inj noMore
  simp only [List.map_cons, List.map_nil, List.cons.injEq, Prod.mk.injEq, and_true] at answers
  obtain ⟨⟨ok, zero⟩, _, seven⟩ := answers
  obtain ⟨status, record⟩ := one
  cases ok
  have same := (repeats [] first [] second [] rfl rfl [] openedSysm record sysm₁ [] sysm₁ two _ rfl step rfl (by simp)
    next).2.percent
  rw [seven, zero] at same
  exact absurd same (by decide)

end Sysm
