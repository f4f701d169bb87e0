import Mathlib.Algebra.Order.Field.Rat
import Mathlib.Tactic.Linarith
import Mathlib.Tactic.NormNum
import Sysm.ProcCpuStep

namespace Sysm

/-- The call reads the stat file and can parse it. -/
def CpuCall.ReadsAnew (call : CpuCall) (sysm : SysmT) : Prop :=
  sysm.procStatHit call.pid call.clock.seconds = false ∧ ∃ fields, sysm.StatFields call.stat fields

/-- The call finds an earlier total of the process in the table. -/
def CpuCall.FindsTotal (call : CpuCall) (sysm : SysmT) : Prop :=
  ∃ prev, sysm.procCpuPrev call.pid call.clock = some prev ∧ prev.total ≠ 0

/-- The CPU total of the process at each millisecond. It grows by at most `c`
in a millisecond, and the stat files show it exactly. -/
structure TrueTotal (opened : SysmT) (calls : List CpuCall) (total : Nat → Nat) (c : Rat) : Prop where
  monotone : ∀ earlier later, earlier ≤ later → total earlier ≤ total later
  rate : ∀ earlier later, earlier ≤ later → (total later : Rat) - total earlier ≤ c * (later - earlier)
  exact : ∀ call ∈ calls, ∀ fields, opened.StatFields call.stat fields →
    (fields.utime + fields.stime).toNat = total call.clock.timeNow.toNat

/-- Every percentage that the calls report is at most `c`. -/
def PercentsAtMost (opened : SysmT) (calls : List CpuCall) (c : Rat) : Prop :=
  ∀ replies sysm, Machine.run cpuStep opened calls = some (replies, sysm) →
    ∀ status record, (status, record) ∈ replies → status = 0 → record.percent ≤ c

theorem TrueTotal.nonneg {opened : SysmT} {calls : List CpuCall} {total : Nat → Nat} {c : Rat}
    (truth : TrueTotal opened calls total c) : 0 ≤ c := by
  have grows : (total 0 : Rat) ≤ total 1 := by exact_mod_cast truth.monotone 0 1 (by omega)
  have bound := truth.rate 0 1 (by omega)
  simp only [Nat.cast_one, Nat.cast_zero, sub_zero, mul_one] at bound
  linarith

theorem TrueTotal.initial {opened : SysmT} {calls rest : List CpuCall} {total : Nat → Nat} {c : Rat}
    (truth : TrueTotal opened (calls ++ rest) total c) : TrueTotal opened calls total c where
  monotone := truth.monotone
  rate := truth.rate
  exact := fun call member => truth.exact call (List.mem_append_left _ member)

/-- With both totals true and both times those of the totals, the quotient is at most `c`. -/
theorem cpuPercent_le {prev : SysmProcCpu} {timeNow now : UInt64} {total : Nat → Nat} {c : Rat}
    (rate : (total timeNow.toNat : Rat) - total prev.lastTime.toNat ≤ c * (timeNow.toNat - prev.lastTime.toNat))
    (grows : total prev.lastTime.toNat ≤ total timeNow.toNat) (later : prev.lastTime < timeNow) (positive : 0 ≤ c)
    (before : prev.total.toNat = total prev.lastTime.toNat) (after : now.toNat = total timeNow.toNat) :
    cpuPercent prev timeNow now ≤ c := by
  have above : ¬ now < prev.total := by
    rw [UInt64.lt_iff_toNat_lt]
    omega
  rw [cpuPercent, if_neg above]
  by_cases first : prev.total = 0
  · rw [if_pos first]
    exact positive
  · rw [if_neg first]
    have earlier := UInt64.lt_iff_toNat_lt.mp later
    have spent : (now - prev.total).toNat = now.toNat - prev.total.toNat :=
      UInt64.toNat_sub_of_le _ _ (UInt64.not_lt.mp above)
    have passed : (timeNow - prev.lastTime).toNat = timeNow.toNat - prev.lastTime.toNat :=
      UInt64.toNat_sub_of_le _ _ (UInt64.le_iff_toNat_le.mpr (by omega))
    have passing : (0 : Rat) < ((timeNow - prev.lastTime).toNat : Rat) := by
      rw [passed]
      exact_mod_cast (by omega : 0 < timeNow.toNat - prev.lastTime.toNat)
    rw [div_le_iff₀ passing, spent, passed, before, after, Nat.cast_sub grows, Nat.cast_sub earlier.le]
    exact rate

/-- What the table holds after the calls `done`: the record of the process has
the time of the last call, and no total but that in `last_proc_stat`. -/
structure CpuFollows (opened : SysmT) (pid : Int32) (done : List CpuCall) (sysm : SysmT) : Prop where
  machine : sysm.SameMachine opened
  sound : sysm.CpuSound
  record : ∀ record accessed, sysm.CpuHas pid record accessed →
    (∃ last, done.getLast? = some last ∧ record.lastTime = last.clock.timeNow) ∧
      (record.total = 0 ∨ record.total = sysm.lastProcStat.utime + sysm.lastProcStat.stime)

theorem CpuFollows.start {opened : SysmT} (noTable : opened.procCpu = none) (pid : Int32) :
    CpuFollows opened pid [] opened where
  machine := ⟨rfl, rfl, rfl⟩
  sound := by
    intro table atTable
    cases noTable.symm.trans atTable
  record := by
    rintro record accessed ⟨table, _, atTable, _⟩
    cases noTable.symm.trans atTable

theorem CpuAnswer.lastTime {sysm sysm' : SysmT} {pid : Int32} {procCpu prev kept record : SysmProcCpu}
    {clock : CpuClock} {stat : FileRead} {status : Int}
    (answer : CpuAnswer sysm pid procCpu clock stat prev kept status record sysm') : kept.lastTime = clock.timeNow := by
  cases answer with
  | again | failed | answered => rfl

/-- The total that a call keeps is again none or that in `last_proc_stat`. -/
theorem CpuAnswer.total {sysm sysm' : SysmT} {pid : Int32} {procCpu prev kept record : SysmProcCpu}
    {clock : CpuClock} {stat : FileRead} {status : Int}
    (answer : CpuAnswer sysm pid procCpu clock stat prev kept status record sysm')
    (before : prev.total = 0 ∨ prev.total = sysm.lastProcStat.utime + sysm.lastProcStat.stime) :
    kept.total = 0 ∨ kept.total = sysm'.lastProcStat.utime + sysm'.lastProcStat.stime := by
  cases answer with
  | again _ _ same =>
    rw [same]
    exact before
  | failed _ code effect =>
    rw [effect.of_failed code]
    exact before
  | answered => exact Or.inr rfl

/-- The record that a call finds is one of the two kinds that the table can hold. -/
theorem CpuFollows.found {opened sysm sysm' : SysmT} {pid : Int32} {done : List CpuCall} {clock : CpuClock}
    {prev kept : SysmProcCpu} (follows : CpuFollows opened pid done sysm)
    (step : CpuStep sysm pid clock prev kept sysm') :
    prev = .zero ∨ (∃ last, done.getLast? = some last ∧ prev.lastTime = last.clock.timeNow) ∧
      (prev.total = 0 ∨ prev.total = sysm.lastProcStat.utime + sysm.lastProcStat.stime) := by
  rcases step.found with fresh | ⟨accessed, has⟩
  · exact Or.inl fresh
  · exact Or.inr (follows.record prev accessed has)

theorem CpuFollows.step {opened sysm sysm' : SysmT} {pid : Int32} {done : List CpuCall}
    (follows : CpuFollows opened pid done sysm) {call : CpuCall} (samePid : call.pid = pid)
    {reply : Int × SysmProcCpu} (step : cpuStep sysm call = some (reply, sysm')) :
    CpuFollows opened pid (done ++ [call]) sysm' := by
  obtain ⟨prev, kept, change, answer⟩ := sysmProcCpuGet_spec follows.sound step
  rw [samePid] at change answer
  have before : prev.total = 0 ∨ prev.total = sysm.lastProcStat.utime + sysm.lastProcStat.stime := by
    rcases follows.found change with fresh | ⟨_, total⟩
    · rw [fresh]
      exact Or.inl rfl
    · exact total
  refine ⟨answer.machine.trans follows.machine, change.sound, ?_⟩
  intro record accessed has
  have same : record = kept := (has.unique change.has).1
  rw [same]
  exact ⟨⟨call, by simp, answer.lastTime⟩, answer.total before⟩

theorem CpuFollows.run {opened : SysmT} (noTable : opened.procCpu = none) {pid : Int32} {calls : List CpuCall}
    (onePid : ∀ call ∈ calls, call.pid = pid) {replies : List (Int × SysmProcCpu)} {sysm : SysmT}
    (run : Machine.run cpuStep opened calls = some (replies, sysm)) : CpuFollows opened pid calls sysm := by
  induction calls using List.reverseRecOn generalizing replies sysm with
  | nil =>
    cases Option.some.inj run
    exact .start noTable pid
  | append_singleton calls call ih =>
    obtain ⟨before, middle, reply, ran, step, _⟩ := Machine.run_snoc_iff.mp run
    have follows := ih (fun earlier member => onePid earlier (List.mem_append_left _ member)) ran
    exact follows.step (onePid call (by simp)) step

/-- After a call that has read the stat file, `last_proc_stat` has the total of that moment. -/
theorem CpuAnswer.read_total {opened sysm sysm' : SysmT} {calls : List CpuCall} {call : CpuCall}
    {prev kept record : SysmProcCpu} {status : Int} {total : Nat → Nat} {c : Rat}
    (truth : TrueTotal opened calls total c) (member : call ∈ calls) (machine : sysm.SameMachine opened)
    (answer : CpuAnswer sysm call.pid call.procCpu call.clock call.stat prev kept status record sysm')
    (anew : call.ReadsAnew sysm) (reads : call.clock.timeNow - prev.lastTime ≠ 0) :
    (sysm'.lastProcStat.utime + sysm'.lastProcStat.stime).toNat = total call.clock.timeNow.toNat := by
  obtain ⟨miss, fields, parsed⟩ := anew
  cases answer with
  | again same => exact absurd same reads
  | failed _ code effect => exact absurd parsed (effect.no_fields miss code fields)
  | answered _ effect => exact truth.exact call member _ ((effect.loaded miss rfl).1.machine machine.symm)

/-- A call that reads the stat file anew, and finds an earlier total of the
process, comes right after a call that has read it too. -/
def CpuCall.AfterRead (opened : SysmT) (done : List CpuCall) (call : CpuCall) : Prop :=
  ∀ replies sysm, Machine.run cpuStep opened done = some (replies, sysm) → call.ReadsAnew sysm → call.FindsTotal sysm →
    ∃ before last replies' middle, done = before ++ [last] ∧
      Machine.run cpuStep opened before = some (replies', middle) ∧ last.ReadsAnew middle

/-- A call in the millisecond of the time in the record can only be the first
for the process, at time 0. -/
theorem CpuFollows.fresh_of_same_time {opened sysm sysm' : SysmT} {pid : Int32} {done : List CpuCall}
    {clock : CpuClock} {prev kept : SysmProcCpu} (follows : CpuFollows opened pid done sysm)
    (step : CpuStep sysm pid clock prev kept sysm')
    (later : ∀ last, done.getLast? = some last → last.clock.timeNow < clock.timeNow)
    (same : clock.timeNow - prev.lastTime = 0) : prev = .zero := by
  rcases follows.found step with fresh | ⟨⟨last, atLast, time⟩, _⟩
  · exact fresh
  · have before := UInt64.lt_iff_toNat_lt.mp (later last atLast)
    have passed : (clock.timeNow - prev.lastTime).toNat = clock.timeNow.toNat - last.clock.timeNow.toNat := by
      rw [time]
      exact UInt64.toNat_sub_of_le _ _ (UInt64.le_iff_toNat_le.mpr (by omega))
    rw [same, UInt64.toNat_zero] at passed
    omega

theorem cpuPercent_of_no_total {prev : SysmProcCpu} (first : prev.total = 0) (timeNow total : UInt64) :
    cpuPercent prev timeNow total = 0 := by
  rw [cpuPercent, first]
  simp

theorem cpuPercent_of_same_total {prev : SysmProcCpu} {total : UInt64} (same : prev.total = total) (timeNow : UInt64) :
    cpuPercent prev timeNow total = 0 := by
  rw [cpuPercent, same, if_neg (UInt64.lt_irrefl total), UInt64.sub_self]
  simp

section OneProcess

variable {opened : SysmT} {pid : Int32} {total : Nat → Nat} {c : Rat} (noTable : opened.procCpu = none)

theorem increasing_last {done : List CpuCall} {call : CpuCall}
    (increasing : (done ++ [call]).Pairwise fun earlier later => earlier.clock.timeNow < later.clock.timeNow) :
    ∀ last, done.getLast? = some last → last.clock.timeNow < call.clock.timeNow := by
  intro last atLast
  exact (List.pairwise_append.mp increasing).2.2 last (List.mem_of_getLast? atLast) call (by simp)

include noTable

/-- The total that a call finds in the table is the true one at the time of the
call before, if that one has read the stat file. -/
theorem found_total_after_read {before : List CpuCall} {last : CpuCall} {replies : List (Int × SysmProcCpu)}
    {middle sysm sysm' : SysmT} {reply : Int × SysmProcCpu} {clock : CpuClock} {prev kept : SysmProcCpu}
    (onePid : ∀ other ∈ before ++ [last], other.pid = pid)
    (increasing : (before ++ [last]).Pairwise fun earlier later => earlier.clock.timeNow < later.clock.timeNow)
    (truth : TrueTotal opened (before ++ [last]) total c)
    (ran : Machine.run cpuStep opened before = some (replies, middle)) (step : cpuStep middle last = some (reply, sysm))
    (anew : last.ReadsAnew middle) (change : CpuStep sysm pid clock prev kept sysm') (known : prev.total ≠ 0) :
    prev.lastTime = last.clock.timeNow ∧ prev.total.toNat = total last.clock.timeNow.toNat := by
  obtain ⟨status, record⟩ := reply
  have follows := CpuFollows.run noTable (fun other member => onePid other (List.mem_append_left _ member)) ran
  have samePid : last.pid = pid := onePid last (by simp)
  have after := follows.step samePid step
  obtain ⟨older, stored, earlier, answer⟩ := sysmProcCpuGet_spec follows.sound step
  have isStored : prev = stored := by
    rcases change.found with fresh | ⟨accessed, has⟩
    · rw [fresh] at known
      exact absurd rfl known
    · rw [samePid] at earlier
      exact (has.unique earlier.has).1
  have reads : last.clock.timeNow - older.lastTime ≠ 0 := by
    intro same
    have fresh := follows.fresh_of_same_time (samePid ▸ earlier) (increasing_last increasing) same
    cases answer with
    | again =>
      rw [isStored, fresh] at known
      exact known rfl
    | failed passed => exact passed same
    | answered passed => exact passed same
  rcases follows.step samePid step |>.found change with fresh | ⟨⟨other, atOther, time⟩, unloaded | loaded⟩
  · rw [fresh] at known
    exact absurd rfl known
  · exact absurd unloaded known
  · rw [List.getLast?_concat] at atOther
    cases Option.some.inj atOther
    refine ⟨time, ?_⟩
    rw [loaded]
    exact answer.read_total truth (by simp) follows.machine anew reads

theorem percent_le_step {sysm sysm' : SysmT} {done : List CpuCall} {call : CpuCall}
    {replies : List (Int × SysmProcCpu)} {status : Int} {record : SysmProcCpu}
    (onePid : ∀ other ∈ done ++ [call], other.pid = pid)
    (increasing : (done ++ [call]).Pairwise fun earlier later => earlier.clock.timeNow < later.clock.timeNow)
    (truth : TrueTotal opened (done ++ [call]) total c) (afterRead : call.AfterRead opened done)
    (run : Machine.run cpuStep opened done = some (replies, sysm))
    (step : cpuStep sysm call = some ((status, record), sysm')) (ok : status = 0) : record.percent ≤ c := by
  have positive := truth.nonneg
  have follows := CpuFollows.run noTable (fun other member => onePid other (List.mem_append_left _ member)) run
  obtain ⟨prev, kept, change, answer⟩ := sysmProcCpuGet_spec follows.sound step
  have samePid : call.pid = pid := onePid call (by simp)
  have later := increasing_last increasing
  cases answer with
  | again same =>
    rw [follows.fresh_of_same_time (samePid ▸ change) later same]
    exact positive
  | failed _ code => exact absurd ok code
  | answered passed effect =>
    by_cases first : prev.total = 0
    · rw [cpuPercent_of_no_total first]
      exact positive
    cases hit : sysm.procStatHit call.pid call.clock.seconds with
    | true =>
      have kept : prev.total = sysm'.lastProcStat.utime + sysm'.lastProcStat.stime := by
        rw [(effect.hit hit).2]
        rcases follows.found (samePid ▸ change) with fresh | ⟨_, known⟩
        · rw [fresh] at first
          exact absurd rfl first
        · exact known.resolve_left first
      rw [cpuPercent_of_same_total kept]
      exact positive
    | false =>
      have parsed := (effect.loaded hit rfl).1
      obtain ⟨before, last, replies', middle, split, ran, anew⟩ :=
        afterRead replies sysm run ⟨hit, _, parsed⟩ ⟨prev, change.entry, first⟩
      subst split
      obtain ⟨_, middle', reply, ran', stepped, _⟩ := Machine.run_snoc_iff.mp run
      cases Option.some.inj (ran.symm.trans ran')
      obtain ⟨time, atLast⟩ := found_total_after_read noTable
        (fun other member => onePid other (List.mem_append_left _ member)) (List.pairwise_append.mp increasing).1
        truth.initial ran stepped anew (samePid ▸ change) first
      have atCall := truth.exact call (by simp) _ (parsed.machine follows.machine.symm)
      have earlier := later last List.getLast?_concat
      have before := UInt64.lt_iff_toNat_lt.mp earlier
      rw [← time] at atLast earlier before
      exact cpuPercent_le (truth.rate _ _ before.le) (truth.monotone _ _ before.le) earlier positive atLast atCall

/-- Where no reading of the stat file follows a call without one, no percentage
is above the rate at which the process uses the CPU. -/
theorem percentsAtMost_of_reads_in_turn {calls : List CpuCall} (onePid : ∀ call ∈ calls, call.pid = pid)
    (increasing : calls.Pairwise fun earlier later => earlier.clock.timeNow < later.clock.timeNow)
    (truth : TrueTotal opened calls total c)
    (afterRead : ∀ done call rest, calls = done ++ call :: rest → call.AfterRead opened done) :
    PercentsAtMost opened calls c := by
  induction calls using List.reverseRecOn with
  | nil =>
    intro replies sysm run status record member
    cases Option.some.inj run
    cases member
  | append_singleton calls call ih =>
    intro replies sysm run status record member ok
    obtain ⟨before, middle, reply, ran, step, same⟩ := Machine.run_snoc_iff.mp run
    rw [same, List.mem_append, List.mem_singleton] at member
    rcases member with earlier | here
    · refine ih (fun other inside => onePid other (List.mem_append_left _ inside))
        (List.pairwise_append.mp increasing).1 truth.initial ?_ before middle ran status record earlier ok
      intro done other rest split
      exact afterRead done other (rest ++ [call]) (by rw [split]; simp)
    · rw [← here] at step
      exact percent_le_step noTable onePid increasing truth (afterRead calls call [] rfl) ran step ok

end OneProcess

theorem SysmT.StatFields.cpuTotal {sysm : SysmT} {stat : FileRead} {fields : LinuxProcStat}
    (parsed : sysm.StatFields stat fields) :
    ((sysm.loadProcStat stat).bind Except.toOption).map (fun pstat => pstat.utime + pstat.stime) =
      some (fields.utime + fields.stime) := by
  obtain ⟨pstat, loaded, same⟩ := parsed sysm ⟨rfl, rfl, rfl⟩
  rw [loaded, ← same.utime, ← same.stime]
  rfl

/-- The total of `busyLine` in milliseconds, at 100 ticks a second. -/
theorem busyLine_total : ∀ ticks, ticks = 50 ∨ ticks = 150 →
    ((openedSysm.loadProcStat (.bytes (busyLine ticks).text)).bind Except.toOption).map
      (fun pstat => (pstat.utime + pstat.stime).toNat) = some (20 * ticks.toNat) := by
  rintro ticks (rfl | rfl)
  · decide +kernel
  · decide +kernel

theorem busyLine_read {ticks : UInt32} (known : ticks = 50 ∨ ticks = 150) :
    ∃ fields, openedSysm.StatFields (.bytes (busyLine ticks).text) fields := by
  have total := busyLine_total ticks known
  obtain ⟨pstat, loaded, _⟩ := Option.map_eq_some_iff.mp total
  obtain ⟨result, atResult, ok⟩ := Option.bind_eq_some_iff.mp loaded
  cases result with
  | error status => cases ok
  | ok fields => exact ⟨fields, loadProcStat_fields atResult⟩

/-- A process that uses one core all the time. -/
theorem trueTotal_busy {calls : List CpuCall} (shown : ∀ call ∈ calls, call.stat = .missing ∨ ∃ ticks,
    (ticks = 50 ∨ ticks = 150) ∧ call.stat = .bytes (busyLine ticks).text ∧
      call.clock.timeNow.toNat = 20 * ticks.toNat) : TrueTotal openedSysm calls id 1 where
  monotone := fun _ _ le => le
  rate := by
    intro earlier later _
    simp
  exact := by
    intro call member fields parsed
    have total := parsed.cpuTotal
    rcases shown call member with gone | ⟨ticks, known, stat, time⟩
    · rw [gone] at total
      cases total
    · have expected := busyLine_total ticks known
      rw [stat] at total
      obtain ⟨pstat, loaded, same⟩ := Option.map_eq_some_iff.mp total
      rw [loaded, Option.map_some] at expected
      rw [time, id_eq, ← same]
      exact Option.some.inj expected

/-- A process on one core, read at the first and at the third second, is reported at 100%. -/
theorem percentsAtMost_read_twice :
    PercentsAtMost openedSysm [callAt 1 1000 (.bytes (busyLine 50).text),
      callAt 1 3000 (.bytes (busyLine 150).text)] 1 := by
  have busy : TrueTotal openedSysm [callAt 1 1000 (.bytes (busyLine 50).text),
      callAt 1 3000 (.bytes (busyLine 150).text)] id 1 := by
    apply trueTotal_busy
    simp only [List.mem_cons, List.not_mem_nil, or_false, forall_eq_or_imp, forall_eq]
    exact ⟨Or.inr ⟨50, Or.inl rfl, rfl, rfl⟩, Or.inr ⟨150, Or.inr rfl, rfl, rfl⟩⟩
  have onePid : ∀ call ∈ [callAt 1 1000 (.bytes (busyLine 50).text), callAt 1 3000 (.bytes (busyLine 150).text)],
      call.pid = 1 := by
    simp [callAt]
  refine percentsAtMost_of_reads_in_turn rfl onePid (by simp [callAt]) busy ?_
  intro done call rest split replies sysm run anew finds
  rcases done with _ | ⟨first, _ | ⟨second, _ | ⟨third, others⟩⟩⟩
  · cases split
    cases run
    obtain ⟨prev, found, known⟩ := finds
    have zero : (openedSysm.procCpuPrev 1 (callAt 1 1000 .missing).clock).map SysmProcCpu.total = some 0 := by
      decide +kernel
    rw [show openedSysm.procCpuPrev 1 (callAt 1 1000 .missing).clock = some prev from found] at zero
    exact absurd (Option.some.inj zero) known
  · cases split
    exact ⟨[], _, [], openedSysm, rfl, rfl, by decide, busyLine_read (Or.inl rfl)⟩
  · cases split
  · cases split

/-- The total is read at 1000 ms. A call at 2999 ms is answered from `last_proc_stat`,
and the next one divides the growth of two seconds by one millisecond. -/
theorem sysmProcCpuGet_divides_by_last_call :
    ¬ ∀ memory opened getpagesize ticks procStat calls pid total c,
      sysmOpen memory getpagesize ticks procStat = .ok opened →
      (∀ call ∈ calls, call.pid = pid ∧ call.clock.Steady ∧ call.clock.seconds = call.clock.wholeSeconds) →
      calls.Pairwise (fun earlier later : CpuCall => earlier.clock.timeNow < later.clock.timeNow) →
      TrueTotal opened calls total c → PercentsAtMost opened calls c := by
  intro claim
  let calls : List CpuCall := [callAt 1 1000 (.bytes (busyLine 50).text), callAt 1 2999 .missing,
    callAt 1 3000 (.bytes (busyLine 150).text)]
  have busy : TrueTotal openedSysm calls id 1 := by
    apply trueTotal_busy
    simp only [calls, List.mem_cons, List.not_mem_nil, or_false, forall_eq_or_imp, forall_eq]
    exact ⟨Or.inr ⟨50, Or.inl rfl, rfl, rfl⟩, Or.inl rfl, Or.inr ⟨150, Or.inr rfl, rfl, rfl⟩⟩
  have steady : ∀ call ∈ calls, call.pid = 1 ∧ call.clock.Steady ∧
      call.clock.seconds = call.clock.wholeSeconds := by
    simp only [calls, List.mem_cons, List.not_mem_nil, or_false, forall_eq_or_imp, forall_eq]
    exact ⟨⟨rfl, callAt_steady _ _ _⟩, ⟨rfl, callAt_steady _ _ _⟩, rfl, callAt_steady _ _ _⟩
  have bounded := claim .zero openedSysm 4096 100 (.ok []) calls 1 id 1 rfl steady (by simp [calls, callAt]) busy
  have ran : (Machine.run cpuStep openedSysm calls).map (fun result =>
      result.1.map fun reply => (reply.1, reply.2.percent)) = some [(0, 0), (0, 0), (0, 2000)] := by
    decide +kernel
  obtain ⟨⟨replies, sysm⟩, run, percents⟩ := Option.map_eq_some_iff.mp ran
  have reported : ((0 : Int), (2000 : Rat)) ∈ replies.map fun reply => (reply.1, reply.2.percent) := by
    rw [percents]
    simp
  obtain ⟨⟨status, record⟩, member, same⟩ := List.mem_map.mp reported
  obtain ⟨ok, percent⟩ := Prod.mk.inj same
  have atMost := bounded replies sysm run status record member ok
  rw [percent] at atMost
  norm_num at atMost

end Sysm
