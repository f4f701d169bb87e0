import Mathlib.Data.List.Chain
import Sysm.ProcCpuStep

namespace Sysm

theorem LinuxProcStat.SameFields.refl (a : LinuxProcStat) : a.SameFields a :=
  ⟨rfl, rfl, rfl, rfl, rfl, rfl, rfl, rfl, rfl, rfl, rfl, rfl⟩

theorem LinuxProcStat.SameFields.symm {a b : LinuxProcStat} (same : a.SameFields b) : b.SameFields a :=
  ⟨same.name.symm, same.state.symm, same.ppid.symm, same.tty.symm, same.minorFaults.symm, same.majorFaults.symm,
    same.utime.symm, same.stime.symm, same.startTime.symm, same.vsize.symm, same.rss.symm, same.processor.symm⟩

theorem LinuxProcStat.SameFields.trans {a b c : LinuxProcStat} (first : a.SameFields b) (second : b.SameFields c) :
    a.SameFields c :=
  ⟨first.name.trans second.name, first.state.trans second.state, first.ppid.trans second.ppid,
    first.tty.trans second.tty, first.minorFaults.trans second.minorFaults,
    first.majorFaults.trans second.majorFaults, first.utime.trans second.utime, first.stime.trans second.stime,
    first.startTime.trans second.startTime, first.vsize.trans second.vsize, first.rss.trans second.rss,
    first.processor.trans second.processor⟩

theorem SysmT.StatFields.unique {sysm : SysmT} {stat : FileRead} {fields other : LinuxProcStat}
    (parsed : sysm.StatFields stat fields) (parsed' : sysm.StatFields stat other) : fields.SameFields other := by
  obtain ⟨pstat, loaded, same⟩ := parsed sysm ⟨rfl, rfl, rfl⟩
  obtain ⟨pstat', loaded', same'⟩ := parsed' sysm ⟨rfl, rfl, rfl⟩
  have equal : pstat = pstat' := by simpa using loaded.symm.trans loaded'
  rw [equal] at same
  exact same.symm.trans same'

/-- The call gets as far as `proc_stat_read`. -/
def CpuCall.asks (call : CpuCall) (sysm : SysmT) : Bool :=
  (sysm.procCpuPrev call.pid call.clock).any fun prev => call.clock.timeNow - prev.lastTime ≠ 0

/-- The call is answered from `last_proc_stat`. -/
def CpuCall.hits (call : CpuCall) (sysm : SysmT) : Bool :=
  call.asks sysm && sysm.procStatHit call.pid call.clock.seconds

/-- The call puts the fields of its stat file into `last_proc_stat`. -/
def CpuCall.loads (call : CpuCall) (sysm : SysmT) : Bool :=
  call.asks sysm && !sysm.procStatHit call.pid call.clock.seconds &&
    ((sysm.loadProcStat call.stat).bind Except.toOption).isSome

/-- The library together with the process whose fields are in `last_proc_stat`. -/
structure CpuWatched where
  sysm : SysmT
  owner : Option Int32

def CpuWatched.step (w : CpuWatched) (call : CpuCall) : Option ((Int × SysmProcCpu) × CpuWatched) :=
  (cpuStep w.sysm call).map fun (reply, sysm) =>
    (reply, ⟨sysm, if call.loads w.sysm then some call.pid else w.owner⟩)

theorem CpuWatched.step_iff {w w' : CpuWatched} {call : CpuCall} {reply : Int × SysmProcCpu} :
    w.step call = some (reply, w') ↔ cpuStep w.sysm call = some (reply, w'.sysm) ∧
      w'.owner = if call.loads w.sysm then some call.pid else w.owner := by
  constructor
  · intro step
    obtain ⟨⟨answer, sysm⟩, one, same⟩ := Option.map_eq_some_iff.mp step
    cases same
    exact ⟨one, rfl⟩
  · rintro ⟨one, owner⟩
    rw [CpuWatched.step, one, Option.map_some, ← owner]

theorem run_cpuWatched {calls : List CpuCall} {w : CpuWatched} {replies : List (Int × SysmProcCpu)} {sysm : SysmT} :
    Machine.run cpuStep w.sysm calls = some (replies, sysm) ↔
      ∃ owner, Machine.run CpuWatched.step w calls = some (replies, ⟨sysm, owner⟩) := by
  have steps : ∀ (w : CpuWatched) call,
      (w.step call).map (fun result => (result.1, result.2.sysm)) = cpuStep w.sysm call := by
    intro w call
    rw [CpuWatched.step, Option.map_map]
    exact congrFun Option.map_id (cpuStep w.sysm call)
  have same := Machine.run_project CpuWatched.sysm steps w calls
  rw [← same, Option.map_eq_some_iff]
  constructor
  · rintro ⟨⟨answers, watched⟩, run, equal⟩
    cases equal
    exact ⟨watched.owner, run⟩
  · rintro ⟨owner, run⟩
    exact ⟨_, run, rfl⟩

section Answers

variable {sysm sysm' alone alone' : SysmT} {pid : Int32} {procCpu prev kept record kept' record' : SysmProcCpu}
  {clock : CpuClock} {stat : FileRead} {status status' : Int}

/-- A call leaves `last_proc_stat` alone, unless it comes to `proc_stat_read`
and misses there. Then it stamps it. -/
theorem CpuAnswer.stamped (answer : CpuAnswer sysm pid procCpu clock stat prev kept status record sysm') :
    (clock.timeNow - prev.lastTime = 0 ∨ sysm.procStatHit pid clock.seconds = true) ∧
        sysm'.lastProcStat = sysm.lastProcStat ∨
      (clock.timeNow - prev.lastTime ≠ 0 ∧ sysm.procStatHit pid clock.seconds = false) ∧
        sysm'.lastProcStat.pid = pid ∧ sysm'.lastProcStat.mtime = clock.seconds := by
  cases answer with
  | again early _ same => exact Or.inl ⟨Or.inl early, same⟩
  | failed passed _ effect | answered passed effect =>
    cases hit : sysm.procStatHit pid clock.seconds with
    | true => exact Or.inl ⟨Or.inr rfl, (effect.hit hit).2⟩
    | false => exact Or.inr ⟨⟨passed, rfl⟩, effect.stamped hit⟩

/-- A call that loads nothing leaves the fields in `last_proc_stat` as they are. -/
theorem CpuAnswer.keeps_fields
    (answer : CpuAnswer sysm pid procCpu clock stat prev kept status record sysm')
    (entry : sysm.procCpuPrev pid clock = some prev) (unloaded : CpuCall.loads ⟨pid, procCpu, clock, stat⟩ sysm = false) :
    sysm'.lastProcStat.SameFields sysm.lastProcStat := by
  cases answer with
  | again _ _ same =>
    rw [same]
    exact .refl _
  | failed _ code effect =>
    rw [effect.of_failed code]
    exact ⟨rfl, rfl, rfl, rfl, rfl, rfl, rfl, rfl, rfl, rfl, rfl, rfl⟩
  | answered passed effect =>
    cases hit : sysm.procStatHit pid clock.seconds with
    | true =>
      rw [(effect.hit hit).2]
      exact .refl _
    | false =>
      obtain ⟨pstat, loaded, _⟩ := (effect.loaded hit rfl).1 sysm ⟨rfl, rfl, rfl⟩
      simp [CpuCall.loads, CpuCall.asks, entry, passed, hit, loaded] at unloaded
      cases unloaded

theorem ReadEffect.alike (machine : alone.SameMachine sysm)
    (effect : ReadEffect sysm pid clock.seconds stat status sysm')
    (effect' : ReadEffect alone pid clock.seconds stat status' alone')
    (hits : sysm.procStatHit pid clock.seconds = alone.procStatHit pid clock.seconds)
    (fields : sysm.procStatHit pid clock.seconds = true → sysm.lastProcStat.SameFields alone.lastProcStat) :
    status = status' ∧ (status = 0 → sysm'.lastProcStat.SameFields alone'.lastProcStat) := by
  cases hit : sysm.procStatHit pid clock.seconds with
  | true =>
    obtain ⟨zero, same⟩ := effect.hit hit
    obtain ⟨zero', same'⟩ := effect'.hit (hits ▸ hit)
    rw [same, same']
    exact ⟨zero.trans zero'.symm, fun _ => fields hit⟩
  | false =>
    have miss : alone.procStatHit pid clock.seconds = false := hits ▸ hit
    by_cases zero : status = 0
    · have parsed := (effect.loaded hit zero).1
      have zero' : status' = 0 := by
        by_contra code
        exact effect'.no_fields miss code _ (parsed.machine machine)
      have parsed' := (effect'.loaded miss zero').1
      exact ⟨zero.trans zero'.symm, fun _ => parsed.unique (parsed'.machine machine.symm)⟩
    · have code' : status' ≠ 0 := by
        intro zero'
        exact effect.no_fields hit zero _ ((effect'.loaded miss zero').1.machine machine.symm)
      have error := (effect.failed hit zero).1 sysm
      have error' := (effect'.failed miss code').1 sysm
      have same : status = status' := by simpa using error.symm.trans error'
      exact ⟨same, fun zero' => absurd zero' zero⟩

/-- Two calls that find the same record answer the same, if both or none are
answered from `last_proc_stat` and the same fields are in there. -/
theorem CpuAnswer.alike (machine : alone.SameMachine sysm)
    (answer : CpuAnswer sysm pid procCpu clock stat prev kept status record sysm')
    (answer' : CpuAnswer alone pid procCpu clock stat prev kept' status' record' alone')
    (hits : clock.timeNow - prev.lastTime ≠ 0 →
      sysm.procStatHit pid clock.seconds = alone.procStatHit pid clock.seconds)
    (fields : clock.timeNow - prev.lastTime ≠ 0 → sysm.procStatHit pid clock.seconds = true →
      sysm.lastProcStat.SameFields alone.lastProcStat) :
    status = status' ∧ record = record' ∧ kept = kept' := by
  cases answer with
  | again same =>
    cases answer' with
    | again => exact ⟨rfl, rfl, rfl⟩
    | failed passed | answered passed => exact absurd same passed
  | failed passed code effect =>
    cases answer' with
    | again same => exact absurd same passed
    | failed _ _ effect' => exact ⟨(effect.alike machine effect' (hits passed) (fields passed)).1, rfl, rfl⟩
    | answered _ effect' => exact absurd (effect.alike machine effect' (hits passed) (fields passed)).1 code
  | answered passed effect =>
    cases answer' with
    | again same => exact absurd same passed
    | failed _ code effect' => exact absurd (effect.alike machine effect' (hits passed) (fields passed)).1.symm code
    | answered _ effect' =>
      have same := (effect.alike machine effect' (hits passed) (fields passed)).2 rfl
      simp only [SysmProcCpu.answer, same.startTime, same.utime, same.stime, and_self]

/-- Under the same conditions the same fields are in `last_proc_stat` after
the calls, if they were before or if the calls have loaded them. -/
theorem CpuAnswer.alike_fields (machine : alone.SameMachine sysm)
    (answer : CpuAnswer sysm pid procCpu clock stat prev kept status record sysm')
    (answer' : CpuAnswer alone pid procCpu clock stat prev kept' status' record' alone')
    (entry : sysm.procCpuPrev pid clock = some prev)
    (hits : clock.timeNow - prev.lastTime ≠ 0 →
      sysm.procStatHit pid clock.seconds = alone.procStatHit pid clock.seconds)
    (fields : CpuCall.loads ⟨pid, procCpu, clock, stat⟩ sysm = false →
      sysm.lastProcStat.SameFields alone.lastProcStat) :
    sysm'.lastProcStat.SameFields alone'.lastProcStat := by
  have onHit (hit : sysm.procStatHit pid clock.seconds = true) : sysm.lastProcStat.SameFields alone.lastProcStat :=
    fields (by simp [CpuCall.loads, hit])
  cases answer with
  | again same _ unread =>
    cases answer' with
    | again _ _ unread' =>
      rw [unread, unread']
      exact fields (by simp [CpuCall.loads, CpuCall.asks, entry, same])
    | failed passed | answered passed => exact absurd same passed
  | failed passed code effect =>
    cases answer' with
    | again same => exact absurd same passed
    | answered _ effect' =>
      exact absurd (effect.alike machine effect' (hits passed) onHit).1 code
    | failed _ code' effect' =>
      have miss : sysm.procStatHit pid clock.seconds = false := by
        by_contra hit
        exact code (effect.hit (by simpa using hit)).1
      have error := (effect.failed miss code).1 sysm
      have same := fields (by simp [CpuCall.loads, error, Except.toOption])
      rw [(effect.failed miss code).2, (effect'.failed (hits passed ▸ miss) code').2]
      exact ⟨same.name, same.state, same.ppid, same.tty, same.minorFaults, same.majorFaults, same.utime, same.stime,
        same.startTime, same.vsize, same.rss, same.processor⟩
  | answered passed effect =>
    cases answer' with
    | again same => exact absurd same passed
    | failed _ code' effect' => exact absurd (effect.alike machine effect' (hits passed) onHit).1.symm code'
    | answered _ effect' => exact (effect.alike machine effect' (hits passed) onHit).2 rfl

end Answers

/-- The calls for one process. -/
def callsFor (pid : Int32) (calls : List CpuCall) : List CpuCall := calls.filter fun call => call.pid == pid

/-- The library after the calls `done` and after those among them that are for
one process: what concerns the process is the same in both. -/
structure CpuAlike (opened : SysmT) (pid : Int32) (done : List CpuCall) (w : CpuWatched) (alone : SysmT) : Prop where
  machine : alone.SameMachine w.sysm
  sound : w.sysm.CpuSound
  soundAlone : alone.CpuSound
  fewer : ∀ record accessed, w.sysm.CpuHas pid record accessed → alone.CpuHas pid record accessed
  accessed : ∀ record accessed, alone.CpuHas pid record accessed →
    ∃ last, (callsFor pid done).getLast? = some last ∧ accessed = last.clock.access
  kept : ∀ now, (∀ call ∈ done, call.clock.sweep ≤ now) → ∀ record accessed, alone.CpuHas pid record accessed →
    now - accessed ≤ pidCacheEntryExpirePeriod → w.sysm.CpuHas pid record accessed
  stamp : w.sysm.lastProcStat.pid = pid → alone.lastProcStat.pid = w.sysm.lastProcStat.pid ∧
    alone.lastProcStat.mtime = w.sysm.lastProcStat.mtime
  fields : (∀ owner, w.owner = some owner → owner = pid) → w.sysm.lastProcStat.SameFields alone.lastProcStat

theorem CpuAlike.start {opened : SysmT} (noTable : opened.procCpu = none) (pid : Int32) :
    CpuAlike opened pid [] ⟨opened, none⟩ opened where
  machine := ⟨rfl, rfl, rfl⟩
  sound := by
    intro table atTable
    cases noTable.symm.trans atTable
  soundAlone := by
    intro table atTable
    cases noTable.symm.trans atTable
  fewer := fun _ _ has => has
  accessed := by
    rintro record accessed ⟨table, _, atTable, _⟩
    cases noTable.symm.trans atTable
  kept := fun _ _ _ _ has _ => has
  stamp := fun _ => ⟨rfl, rfl⟩
  fields := fun _ => .refl _

/-- The call is no disturbance for the process. If it is for another one, it
does not resize the table while the process is in there. If it is for the
process, it resizes the table that has its record in both runs or in neither,
and it is answered from `last_proc_stat` in the run of the process alone only
if it is in the other run too, where the fields are those of the process. -/
structure CpuCall.Spares (call : CpuCall) (pid : Int32) (w : CpuWatched) (alone : SysmT) : Prop where
  other : call.pid ≠ pid → w.sysm.cpuResizes call.pid call.clock = true → ∀ record accessed,
    ¬ w.sysm.CpuHas pid record accessed
  own : call.pid = pid → (∃ record accessed, alone.CpuHas pid record accessed) →
    w.sysm.cpuResizes call.pid call.clock = alone.cpuResizes call.pid call.clock
  stat : call.pid = pid → call.hits alone = true →
    call.hits w.sysm = true ∧ ∀ owner, w.owner = some owner → owner = pid

theorem sub_le_sub {a b c : UInt64} (first : a ≤ b) (second : b ≤ c) : b - a ≤ c - a := by
  have low := UInt64.le_iff_toNat_le.mp first
  have high := UInt64.le_iff_toNat_le.mp second
  rw [UInt64.le_iff_toNat_le, UInt64.toNat_sub_of_le _ _ first,
    UInt64.toNat_sub_of_le _ _ (UInt64.le_trans first second)]
  omega

section Step

variable {opened : SysmT} {pid : Int32} {done : List CpuCall} {w w' : CpuWatched} {alone alone' : SysmT}
  {call : CpuCall} {reply reply' : Int × SysmProcCpu}

/-- A call for another process. -/
theorem CpuAlike.other (alike : CpuAlike opened pid done w alone) (different : call.pid ≠ pid)
    (spares : call.Spares pid w alone)
    (ordered : ∀ earlier ∈ done, earlier.clock.access ≤ call.clock.sweep)
    (step : w.step call = some (reply, w')) : CpuAlike opened pid (done ++ [call]) w' alone := by
  obtain ⟨one, owner⟩ := CpuWatched.step_iff.mp step
  obtain ⟨status, record⟩ := reply
  obtain ⟨prev, kept, change, answer⟩ := sysmProcCpuGet_spec alike.sound one
  have skipped : callsFor pid (done ++ [call]) = callsFor pid done := by
    simp [callsFor, different]
  refine ⟨?_, change.sound, alike.soundAlone, ?_, ?_, ?_, ?_, ?_⟩
  · exact alike.machine.trans answer.machine.symm
  · intro other accessed has
    exact alike.fewer other accessed (change.others pid other accessed different.symm has)
  · rw [skipped]
    exact alike.accessed
  · intro now swept other accessed has alive
    have inDone : ∀ earlier ∈ done, earlier.clock.sweep ≤ now :=
      fun earlier member => swept earlier (List.mem_append_left _ member)
    have before := alike.kept now inDone other accessed has alive
    have stays : w.sysm.cpuResizes call.pid call.clock = false := by
      by_contra resized
      exact spares.other different (by simpa using resized) other accessed before
    obtain ⟨last, atLast, time⟩ := alike.accessed other accessed has
    have member : last ∈ done := List.mem_of_mem_filter (List.mem_of_getLast? atLast)
    have early : accessed ≤ call.clock.sweep := time ▸ ordered last member
    have young := UInt64.le_trans (sub_le_sub early (swept call (by simp))) alive
    exact (change.keeps stays pid other accessed before (UInt64.not_lt.mpr young)).2 different.symm
  · intro atPid
    rcases answer.stamped with ⟨_, same⟩ | ⟨_, stamped, _⟩
    · rw [same] at atPid ⊢
      exact alike.stamp atPid
    · exact absurd (stamped.symm.trans atPid) different
  · intro owned
    cases loads : call.loads w.sysm with
    | true =>
      rw [loads, if_pos rfl] at owner
      exact absurd (owned call.pid owner) different
    | false =>
      rw [loads, if_neg (by decide)] at owner
      rw [owner] at owned
      exact (answer.keeps_fields change.entry loads).trans (alike.fields owned)

/-- Both runs find the same record of the process. -/
theorem CpuAlike.prev_eq {prev prev' kept kept' : SysmProcCpu} (alike : CpuAlike opened pid done w alone)
    (own : call.pid = pid) (spares : call.Spares pid w alone)
    (ordered : ∀ earlier ∈ done, earlier.clock.sweep ≤ call.clock.sweep)
    (gap : ∀ last, (callsFor pid done).getLast? = some last →
      call.clock.sweep - last.clock.access ≤ pidCacheEntryExpirePeriod)
    (change : CpuStep w.sysm call.pid call.clock prev kept w'.sysm)
    (change' : CpuStep alone call.pid call.clock prev' kept' alone') : prev = prev' := by
  by_cases present : ∃ record accessed, alone.CpuHas pid record accessed
  · have resizes := spares.own own present
    obtain ⟨record, accessed, has⟩ := present
    obtain ⟨last, atLast, time⟩ := alike.accessed record accessed has
    have young : call.clock.sweep - accessed ≤ pidCacheEntryExpirePeriod := time ▸ gap last atLast
    have inBoth := alike.kept call.clock.sweep ordered record accessed has young
    cases stays : alone.cpuResizes call.pid call.clock with
    | true => rw [change.lost (resizes.trans stays), change'.lost stays]
    | false =>
      have here := change.keeps (resizes.trans stays) pid record accessed inBoth (UInt64.not_lt.mpr young)
      have there := change'.keeps stays pid record accessed has (UInt64.not_lt.mpr young)
      rw [here.1 own.symm, there.1 own.symm]
  · have fresh : prev = .zero := by
      rcases change.found with fresh | ⟨accessed, has⟩
      · exact fresh
      · rw [own] at has
        exact absurd ⟨prev, accessed, alike.fewer prev accessed has⟩ present
    have fresh' : prev' = .zero := by
      rcases change'.found with fresh' | ⟨accessed, has⟩
      · exact fresh'
      · rw [own] at has
        exact absurd ⟨prev', accessed, has⟩ present
    rw [fresh, fresh']

/-- A call for the process itself, which both runs make. -/
theorem CpuAlike.own (alike : CpuAlike opened pid done w alone) (own : call.pid = pid)
    (spares : call.Spares pid w alone)
    (ordered : ∀ earlier ∈ done, earlier.clock.sweep ≤ call.clock.sweep)
    (gap : ∀ last, (callsFor pid done).getLast? = some last →
      call.clock.sweep - last.clock.access ≤ pidCacheEntryExpirePeriod)
    (step : w.step call = some (reply, w')) (step' : cpuStep alone call = some (reply', alone')) :
    reply = reply' ∧ CpuAlike opened pid (done ++ [call]) w' alone' := by
  obtain ⟨one, owner⟩ := CpuWatched.step_iff.mp step
  obtain ⟨status, record⟩ := reply
  obtain ⟨status', record'⟩ := reply'
  obtain ⟨prev, kept, change, answer⟩ := sysmProcCpuGet_spec alike.sound one
  obtain ⟨prev', kept', change', answer'⟩ := sysmProcCpuGet_spec alike.soundAlone step'
  have samePrev : prev = prev' := alike.prev_eq own spares ordered gap change change'
  subst samePrev
  have last : callsFor pid (done ++ [call]) = callsFor pid done ++ [call] := by
    simp [callsFor, own]
  have hitsAlone (passed : call.clock.timeNow - prev.lastTime ≠ 0)
      (hit : alone.procStatHit call.pid call.clock.seconds = true) : call.hits alone = true := by
    simp [CpuCall.hits, CpuCall.asks, change'.entry, passed, hit]
  have hits (passed : call.clock.timeNow - prev.lastTime ≠ 0) :
      w.sysm.procStatHit call.pid call.clock.seconds = alone.procStatHit call.pid call.clock.seconds := by
    cases hit : alone.procStatHit call.pid call.clock.seconds with
    | true =>
      have answered := (spares.stat own (hitsAlone passed hit)).1
      simp only [CpuCall.hits, Bool.and_eq_true] at answered
      exact answered.2
    | false =>
      by_contra other
      simp only [Bool.not_eq_false, SysmT.procStatHit, Bool.and_eq_true, beq_iff_eq] at other
      obtain ⟨atPid, atTime⟩ := alike.stamp (other.1.trans own)
      simp only [SysmT.procStatHit, atPid, atTime, other.1, other.2, beq_self_eq_true, Bool.and_self] at hit
      cases hit
  have fields (passed : call.clock.timeNow - prev.lastTime ≠ 0)
      (hit : w.sysm.procStatHit call.pid call.clock.seconds = true) :
      w.sysm.lastProcStat.SameFields alone.lastProcStat :=
    alike.fields (spares.stat own (hitsAlone passed (hits passed ▸ hit))).2
  obtain ⟨rfl, rfl, rfl⟩ := answer.alike alike.machine answer' hits fields
  refine ⟨rfl, ?_, change.sound, change'.sound, ?_, ?_, ?_, ?_, ?_⟩
  · exact (answer'.machine.trans alike.machine).trans answer.machine.symm
  · intro other accessed has
    rw [← own] at has ⊢
    obtain ⟨rfl, rfl⟩ := has.unique change.has
    exact change'.has
  · intro other accessed has
    rw [← own] at has
    obtain ⟨_, rfl⟩ := has.unique change'.has
    exact ⟨call, by rw [last, List.getLast?_concat], rfl⟩
  · intro now _ other accessed has _
    rw [← own] at has ⊢
    obtain ⟨rfl, rfl⟩ := has.unique change'.has
    exact change.has
  · intro atPid
    rcases answer.stamped with ⟨stays, same⟩ | ⟨⟨passed, miss⟩, stamped, time⟩
    · rcases answer'.stamped with ⟨_, same'⟩ | ⟨⟨passed, miss⟩, _⟩
      · rw [same] at atPid ⊢
        rw [same']
        exact alike.stamp atPid
      · rw [hits passed] at stays
        simp [passed, miss] at stays
    · rcases answer'.stamped with ⟨stays, _⟩ | ⟨_, stamped', time'⟩
      · rw [← hits passed] at stays
        simp [passed, miss] at stays
      · rw [stamped, time, stamped', time']
        exact ⟨rfl, rfl⟩
  · intro owned
    refine answer.alike_fields alike.machine answer' change.entry hits fun unloaded => ?_
    rw [if_neg (by simp [unloaded])] at owner
    exact alike.fields (owner ▸ owned)

end Step

/-- What a reply says of the process, when there is no error. -/
def cpuAnswer (reply : Int × SysmProcCpu) : Int × Option (UInt64 × Rat) :=
  (reply.1, if reply.1 = 0 then some (reply.2.total, reply.2.percent) else none)

/-- The answers for one process, in the order of its calls. -/
def answersFor (pid : Int32) (calls : List CpuCall) (replies : List (Int × SysmProcCpu)) :
    List (Int × Option (UInt64 × Rat)) :=
  ((calls.zip replies).filter fun (call, _) => call.pid == pid).map fun (_, reply) => cpuAnswer reply

/-- The calls for other processes have no influence on the answers for `pid`. -/
def Isolated (opened : SysmT) (pid : Int32) (calls : List CpuCall) : Prop :=
  ∀ replies sysm replies' alone, Machine.run cpuStep opened calls = some (replies, sysm) →
    Machine.run cpuStep opened (callsFor pid calls) = some (replies', alone) →
      answersFor pid calls replies = replies'.map cpuAnswer

/-- The clock readings of a run: each call begins when the one before has ended. -/
def Timed (calls : List CpuCall) : Prop :=
  (∀ call ∈ calls, call.clock.Steady) ∧
    calls.Pairwise fun earlier later => earlier.clock.access ≤ later.clock.timeNow

/-- The calls for the process follow each other within the time after which an
entry expires. -/
def NoLongGap (pid : Int32) (calls : List CpuCall) : Prop :=
  (callsFor pid calls).IsChain fun earlier later =>
    later.clock.sweep - earlier.clock.access ≤ pidCacheEntryExpirePeriod

theorem Timed.last {done : List CpuCall} {call : CpuCall} (timed : Timed (done ++ [call])) :
    Timed done ∧ ∀ earlier ∈ done, earlier.clock.access ≤ call.clock.sweep ∧ earlier.clock.sweep ≤ call.clock.sweep := by
  obtain ⟨steady, ordered⟩ := timed
  obtain ⟨before, _, across⟩ := List.pairwise_append.mp ordered
  refine ⟨⟨fun earlier member => steady earlier (List.mem_append_left _ member), before⟩, ?_⟩
  intro earlier member
  have own := steady call (by simp)
  have start : earlier.clock.access ≤ call.clock.sweep :=
    UInt64.le_trans (across earlier member call (by simp)) (UInt64.le_trans own.created own.sweep)
  exact ⟨start, UInt64.le_trans (steady earlier (List.mem_append_left _ member)).access start⟩

theorem NoLongGap.last {pid : Int32} {done : List CpuCall} {call : CpuCall} (gaps : NoLongGap pid (done ++ [call])) :
    NoLongGap pid done ∧ (call.pid = pid → ∀ last, (callsFor pid done).getLast? = some last →
      call.clock.sweep - last.clock.access ≤ pidCacheEntryExpirePeriod) := by
  unfold NoLongGap callsFor at *
  rw [List.filter_append, List.isChain_append] at gaps
  refine ⟨gaps.1, ?_⟩
  intro own last atLast
  exact gaps.2.2 last atLast call (by simp [own])

/-- In both runs up to here, the next call spares the process. -/
def CpuCall.SparesAfter (call : CpuCall) (opened : SysmT) (pid : Int32) (done : List CpuCall) : Prop :=
  ∀ replies w replies' alone, Machine.run CpuWatched.step ⟨opened, none⟩ done = some (replies, w) →
    Machine.run cpuStep opened (callsFor pid done) = some (replies', alone) → call.Spares pid w alone

theorem CpuAlike.run {opened : SysmT} (noTable : opened.procCpu = none) {pid : Int32} {calls : List CpuCall}
    (timed : Timed calls) (gaps : NoLongGap pid calls)
    (spares : ∀ done call rest, calls = done ++ call :: rest → call.SparesAfter opened pid done)
    {replies replies' : List (Int × SysmProcCpu)} {w : CpuWatched} {alone : SysmT}
    (run : Machine.run CpuWatched.step ⟨opened, none⟩ calls = some (replies, w))
    (run' : Machine.run cpuStep opened (callsFor pid calls) = some (replies', alone)) :
    CpuAlike opened pid calls w alone ∧ answersFor pid calls replies = replies'.map cpuAnswer := by
  induction calls using List.reverseRecOn generalizing replies replies' w alone with
  | nil =>
    cases Option.some.inj run
    cases Option.some.inj run'
    exact ⟨.start noTable pid, rfl⟩
  | append_singleton done call ih =>
    obtain ⟨before, middle, reply, ran, step, rfl⟩ := Machine.run_snoc_iff.mp run
    have length := Machine.run_length ran
    obtain ⟨earlier, ordered⟩ := timed.last
    obtain ⟨short, gap⟩ := gaps.last
    have sparing := spares done call [] rfl
    have ih := @ih earlier short (fun first other rest split =>
      spares first other (rest ++ [call]) (by rw [split]; simp)) before
    have answers : answersFor pid (done ++ [call]) (before ++ [reply]) =
        answersFor pid done before ++ (if call.pid = pid then [cpuAnswer reply] else []) := by
      rw [answersFor, answersFor, List.zip_append length.symm, List.filter_append, List.map_append]
      by_cases own : call.pid = pid
      · simp [own]
      · simp [own]
    rw [answers]
    by_cases own : call.pid = pid
    · have split : callsFor pid (done ++ [call]) = callsFor pid done ++ [call] := by simp [callsFor, own]
      rw [split] at run'
      obtain ⟨before', middle', reply', ran', step', rfl⟩ := Machine.run_snoc_iff.mp run'
      obtain ⟨alike, same⟩ := ih ran ran'
      obtain ⟨equal, alike'⟩ := alike.own own (sparing before middle before' middle' ran ran')
        (fun other member => (ordered other member).2) (gap own) step step'
      refine ⟨alike', ?_⟩
      rw [if_pos own, same, equal, List.map_append]
      rfl
    · have split : callsFor pid (done ++ [call]) = callsFor pid done := by simp [callsFor, own]
      rw [split] at run'
      obtain ⟨alike, same⟩ := ih ran run'
      have alike' := alike.other own (sparing before middle replies' alone ran run')
        (fun other member => (ordered other member).1) step
      refine ⟨alike', ?_⟩
      rw [if_neg own, List.append_nil, same]

/-- Where no call disturbs the process, its answers are those of the run with
the calls for other processes left out. -/
theorem isolated_of_spared (opened : SysmT) (noTable : opened.procCpu = none) (pid : Int32) (calls : List CpuCall)
    (timed : Timed calls) (gaps : NoLongGap pid calls)
    (spares : ∀ done call rest, calls = done ++ call :: rest → call.SparesAfter opened pid done) :
    Isolated opened pid calls := by
  intro replies sysm replies' alone run run'
  let start : CpuWatched := ⟨opened, none⟩
  obtain ⟨owner, watched⟩ := (@run_cpuWatched calls start replies sysm).mp run
  exact (CpuAlike.run noTable timed gaps spares watched run').2

/-- A call that resizes no table and is not answered from `last_proc_stat`
when the process is alone spares it. -/
theorem sparesAfter_of_calm {opened : SysmT} {pid : Int32} {done : List CpuCall} {call : CpuCall}
    (calm : ((Machine.run CpuWatched.step ⟨opened, none⟩ done).bind fun result =>
      (Machine.run cpuStep opened (callsFor pid done)).map fun result' =>
        result.2.sysm.cpuResizes call.pid call.clock || result'.2.cpuResizes call.pid call.clock ||
          call.hits result'.2) = some false) : call.SparesAfter opened pid done := by
  intro replies w replies' alone run run'
  rw [run, Option.bind_some, run', Option.map_some, Option.some_inj, Bool.or_eq_false_iff,
    Bool.or_eq_false_iff] at calm
  obtain ⟨⟨stays, stays'⟩, miss⟩ := calm
  exact {
    other := fun _ resized => by rw [stays] at resized; cases resized
    own := fun _ _ => stays.trans stays'.symm
    stat := fun _ hit => by rw [miss] at hit; cases hit }

/-- Process 2 is looked for while process 1 is monitored, in vain and without consequences. -/
theorem isolated_from_missing_process :
    Isolated openedSysm 1 [callAt 1 1000 (.bytes (busyLine 50).text), callAt 2 1500 .missing,
      callAt 1 4000 (.bytes (busyLine 150).text)] := by
  refine isolated_of_spared openedSysm rfl 1 _ ?_ ?_ ?_
  · refine ⟨?_, by simp [callAt]⟩
    simp only [List.mem_cons, List.not_mem_nil, or_false, forall_eq_or_imp, forall_eq]
    exact ⟨(callAt_steady _ _ _).1, (callAt_steady _ _ _).1, (callAt_steady _ _ _).1⟩
  · simp [NoLongGap, callsFor, callAt, pidCacheEntryExpirePeriod]
  · intro done call rest split
    apply sparesAfter_of_calm
    rcases done with _ | ⟨first, _ | ⟨second, _ | ⟨third, _ | ⟨fourth, others⟩⟩⟩⟩
    · cases split
      decide +kernel
    · cases split
      decide +kernel
    · cases split
      decide +kernel
    · cases split
    · cases split

/-- Process 2 is called for after ten minutes. The cleanup finds the table
nearly empty and resizes it, and the record of process 1 is gone. -/
theorem sysmProcCpuGet_loses_record :
    ¬ ∀ memory opened getpagesize ticks procStat pid calls,
      sysmOpen memory getpagesize ticks procStat = .ok opened → Timed calls →
      (∀ call ∈ calls, call.clock.seconds = call.clock.wholeSeconds) → NoLongGap pid calls →
      Isolated opened pid calls := by
  intro claim
  let calls : List CpuCall := [callAt 2 1 .missing, callAt 1 500000 (.bytes (busyLine 50).text),
    callAt 2 601001 .missing, callAt 1 700000 (.bytes (busyLine 150).text)]
  have timed : Timed calls := by
    refine ⟨?_, by simp [calls, callAt]⟩
    simp only [calls, List.mem_cons, List.not_mem_nil, or_false, forall_eq_or_imp, forall_eq]
    exact ⟨(callAt_steady _ _ _).1, (callAt_steady _ _ _).1, (callAt_steady _ _ _).1, (callAt_steady _ _ _).1⟩
  have seconds : ∀ call ∈ calls, call.clock.seconds = call.clock.wholeSeconds := by
    simp only [calls, List.mem_cons, List.not_mem_nil, or_false, forall_eq_or_imp, forall_eq]
    exact ⟨(callAt_steady _ _ _).2, (callAt_steady _ _ _).2, (callAt_steady _ _ _).2, (callAt_steady _ _ _).2⟩
  have gaps : NoLongGap 1 calls := by
    simp [NoLongGap, calls, callsFor, callAt, pidCacheEntryExpirePeriod]
  have ran : (Machine.run cpuStep openedSysm calls).map (fun result => answersFor 1 calls result.1) =
      some [(0, some (1000, 0)), (0, some (3000, 0))] := by decide +kernel
  have ran' : (Machine.run cpuStep openedSysm (callsFor 1 calls)).map (fun result => result.1.map cpuAnswer) =
      some [(0, some (1000, 0)), (0, some (3000, 1 / 100))] := by decide +kernel
  obtain ⟨⟨replies, sysm⟩, run, answers⟩ := Option.map_eq_some_iff.mp ran
  obtain ⟨⟨replies', alone⟩, run', answers'⟩ := Option.map_eq_some_iff.mp ran'
  have same := claim .zero openedSysm 4096 100 (.ok []) 1 calls rfl timed seconds gaps replies sysm replies' alone run run'
  rw [answers, answers'] at same
  exact absurd same (by decide +kernel)

end Sysm
