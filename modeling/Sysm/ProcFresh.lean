import Sysm.ProcEffect
import Sysm.StatLine

namespace Sysm

/-- After the calls `done`, the last reading among them is the one that has
stamped `last_proc_stat`, and if it could be parsed its fields are in there. -/
structure Watched.Tracks (opened : SysmT) (done : List ProcEvent) (w : Watched) : Prop where
  machine : w.sysm.SameMachine opened
  member : ∀ reading, w.lastRead = some reading → reading ∈ done
  pid : ∀ reading, w.lastRead = some reading → w.sysm.lastProcStat.pid = reading.pid
  mtime : ∀ reading, w.lastRead = some reading → w.sysm.lastProcStat.mtime = reading.now
  fields : ∀ reading fields, w.lastRead = some reading → opened.StatFields reading.stat fields →
    opened.StatFields reading.stat w.sysm.lastProcStat

theorem Watched.Tracks.start (opened : SysmT) : Watched.Tracks opened [] ⟨opened, none⟩ :=
  ⟨⟨rfl, rfl, rfl⟩, by simp, by simp, by simp, by simp⟩

theorem Watched.step_iff {w w' : Watched} {event : ProcEvent} {reply : ProcReply} :
    w.step event = some (reply, w') ↔ procStep w.sysm event = some (reply, w'.sysm) ∧
      w'.lastRead = if event.reads w.sysm then some event else w.lastRead := by
  constructor
  · intro step
    obtain ⟨⟨answer, sysm⟩, one, same⟩ := Option.map_eq_some_iff.mp step
    cases same
    exact ⟨one, rfl⟩
  · rintro ⟨one, last⟩
    rw [Watched.step, one, Option.map_some, ← last]

theorem Watched.Tracks.unread {opened : SysmT} {done : List ProcEvent} {w w' : Watched} (tracks : w.Tracks opened done)
    (event : ProcEvent) (machine : w'.sysm.SameMachine w.sysm) (record : w'.sysm.lastProcStat = w.sysm.lastProcStat)
    (last : w'.lastRead = w.lastRead) : w'.Tracks opened (done ++ [event]) where
  machine := machine.trans tracks.machine
  member := fun reading atReading => List.mem_append_left _ (tracks.member reading (by rw [← last, atReading]))
  pid := fun reading atReading => by rw [record, tracks.pid reading (by rw [← last, atReading])]
  mtime := fun reading atReading => by rw [record, tracks.mtime reading (by rw [← last, atReading])]
  fields := fun reading fields atReading parsed => by
    rw [record]
    exact tracks.fields reading fields (by rw [← last, atReading]) parsed

theorem Watched.Tracks.step {opened : SysmT} {done : List ProcEvent} {w w' : Watched} (tracks : w.Tracks opened done)
    {event : ProcEvent} {reply : ProcReply} (step : w.step event = some (reply, w')) :
    w'.Tracks opened (done ++ [event]) := by
  obtain ⟨one, last⟩ := Watched.step_iff.mp step
  rcases procStep_cases one with ⟨away, _, machine, record⟩ | ⟨calls, status, effect, _⟩
  · rw [ProcEvent.reads, away, Bool.false_and, if_neg (by decide)] at last
    exact tracks.unread event machine record last
  · rw [ProcEvent.reads, calls, Bool.true_and] at last
    cases hit : w.sysm.procStatHit event.pid event.now with
    | true =>
      rw [hit, Bool.not_true, if_neg (by decide)] at last
      exact tracks.unread event effect.machine (effect.hit hit).2 last
    | false =>
      rw [hit, Bool.not_false, if_pos rfl] at last
      have isEvent : ∀ reading, w'.lastRead = some reading → reading = event := by
        intro reading atReading
        exact Option.some.inj (atReading.symm.trans last)
      refine ⟨effect.machine.trans tracks.machine, ?_, ?_, ?_, ?_⟩
      · intro reading atReading
        simp [isEvent reading atReading]
      · intro reading atReading
        rw [isEvent reading atReading, (effect.stamped hit).1]
      · intro reading atReading
        rw [isEvent reading atReading, (effect.stamped hit).2]
      · intro reading fields atReading parsed
        have back : w.sysm.SameMachine opened := tracks.machine
        rw [isEvent reading atReading] at parsed ⊢
        have zero : status = 0 := by
          by_contra code
          exact effect.no_fields hit code fields (parsed.machine back)
        exact (effect.loaded hit zero).1.machine back.symm

theorem Watched.tracks_run {opened : SysmT} {events : List ProcEvent} {w : Watched} {replies : List ProcReply}
    (run : Machine.run Watched.step ⟨opened, none⟩ events = some (replies, w)) : w.Tracks opened events := by
  induction events using List.reverseRecOn generalizing w replies with
  | nil =>
    cases Option.some.inj run
    exact .start opened
  | append_singleton events event ih =>
    obtain ⟨before, middle, reply, ran, step, _⟩ := Machine.run_snoc_iff.mp run
    exact (ih ran).step step

/-- The two calls that report the fields of the stat file. -/
def ProcCall.reports : ProcCall → Bool
  | .time => true
  | .state .. => true
  | _ => false

theorem procStep_reports {sysm sysm' : SysmT} {event : ProcEvent} {reply : ProcReply}
    (step : procStep sysm event = some (reply, sysm')) (reports : reply.reports = true) : event.call.reports = true := by
  unfold procStep at step
  cases call : event.call with
  | time => rfl
  | state => rfl
  | mem statm =>
    rw [call] at step
    obtain ⟨⟨_, _⟩, _, same⟩ := Option.map_eq_some_iff.mp step
    cases same
    cases reports
  | cpu procCpu clock =>
    rw [call] at step
    obtain ⟨⟨⟨_, _⟩, _⟩, _, same⟩ := Option.map_eq_some_iff.mp step
    cases same
    cases reports

/-- A call of `sysm_proc_time_get` or `sysm_proc_state_get` that is answered
from `last_proc_stat` finds there what a successful read has left. -/
def ProcEvent.HitsGoodRead (event : ProcEvent) (w : Watched) : Prop :=
  event.call.reports = true → w.sysm.procStatHit event.pid event.now = true →
  ∃ reading fields, w.lastRead = some reading ∧ w.sysm.StatFields reading.stat fields

/-- The reply reports what a call for the same process, among the calls
`done`, has read less than `SYSM_LAST_PROC_EXPIRE` seconds before. -/
def ProcReply.Fresh (reply : ProcReply) (event : ProcEvent) (done : List ProcEvent) (w : Watched) : Prop :=
  ∃ reading fields, w.lastRead = some reading ∧ reading ∈ done ∧ reading.pid = event.pid ∧
    reading.now ≤ event.now ∧ event.now - reading.now < lastProcExpire ∧
      w.sysm.StatFields reading.stat fields ∧ reply.ReportsFields fields

theorem Watched.Tracks.fresh {opened : SysmT} {done : List ProcEvent} {w w' : Watched} (tracks : w.Tracks opened done)
    {event : ProcEvent} {reply : ProcReply} (ordered : ∀ earlier ∈ done, earlier.now ≤ event.now)
    (good : event.HitsGoodRead w) (step : w.step event = some (reply, w')) (reports : reply.reports = true) :
    reply.Fresh event (done ++ [event]) w' := by
  obtain ⟨one, last⟩ := Watched.step_iff.mp step
  have tracks' := tracks.step step
  rcases procStep_cases one with ⟨_, silent, _, _⟩ | ⟨calls, status, effect, answer⟩
  · rw [silent] at reports
    cases reports
  · obtain ⟨zero, fields⟩ := answer reports
    rw [ProcEvent.reads, calls, Bool.true_and] at last
    cases hit : w.sysm.procStatHit event.pid event.now with
    | true =>
      obtain ⟨reading, parsed, atReading, readable⟩ := good (procStep_reports one reports) hit
      rw [hit, Bool.not_true, if_neg (by decide), atReading] at last
      have atPid := tracks.pid reading atReading
      have atTime := tracks.mtime reading atReading
      have member := tracks.member reading atReading
      simp only [SysmT.procStatHit, Bool.and_eq_true, beq_iff_eq, decide_eq_true_eq] at hit
      have back := tracks.machine
      have loaded := tracks.fields reading parsed atReading
        (readable.machine back.symm)
      have record := tracks'.fields reading _ last loaded
      exact ⟨reading, w'.sysm.lastProcStat, last, List.mem_append_left _ member, atPid.symm.trans hit.1,
        ordered reading member, by rw [← atTime]; exact hit.2, record.machine tracks'.machine, fields⟩
    | false =>
      rw [hit, Bool.not_false, if_pos rfl] at last
      exact ⟨event, w'.sysm.lastProcStat, last, by simp, rfl, by omega, by simp [lastProcExpire],
        (effect.loaded hit zero).1.machine effect.machine, fields⟩

/-- Whenever `sysm_proc_time_get` or `sysm_proc_state_get` succeeds in a run,
it reports fields that were read for its process a moment ago. -/
def ReportsFresh (opened : SysmT) (events : List ProcEvent) : Prop :=
  ∀ done event rest, events = done ++ event :: rest → ∀ replies w reply w',
    Machine.run Watched.step ⟨opened, none⟩ done = some (replies, w) → w.step event = some (reply, w') →
      reply.reports = true → reply.Fresh event (done ++ [event]) w'

/-- In a run in which no answer is taken from the stamp of a failed read,
every answer is fresh. -/
theorem reportsFresh_of_good_reads (opened : SysmT) (events : List ProcEvent)
    (ordered : events.Pairwise fun earlier later => earlier.now ≤ later.now)
    (good : ∀ done event rest, events = done ++ event :: rest → ∀ replies w,
      Machine.run Watched.step ⟨opened, none⟩ done = some (replies, w) → event.HitsGoodRead w) :
    ReportsFresh opened events := by
  intro done event rest split replies w reply w' run step reports
  have before : ∀ earlier ∈ done, earlier.now ≤ event.now := by
    rw [split] at ordered
    intro earlier member
    exact (List.pairwise_append.mp ordered).2.2 earlier member event (by simp)
  exact (Watched.tracks_run run).fresh before (good done event rest split replies w run) step reports

/-- The second answer is taken from `last_proc_stat`, the stat file being gone. -/
theorem reportsFresh_answered_twice :
    ReportsFresh openedSysm [⟨1, 0, (.bytes initLine.text), .time⟩, ⟨1, 1, .missing, .time⟩] := by
  refine reportsFresh_of_good_reads openedSysm _ (by simp) ?_
  intro done event rest split replies w run
  rcases done with _ | ⟨first, _ | ⟨second, _ | ⟨third, others⟩⟩⟩
  · cases run
    cases split
    intro _ hit
    exact absurd hit (by decide +kernel)
  · cases split
    intro _ _
    have loaded : ((Machine.run Watched.step ⟨openedSysm, none⟩ [⟨1, 0, (.bytes initLine.text), .time⟩]).map fun (_, w) =>
        (w.lastRead.map ProcEvent.stat, (w.sysm.loadProcStat (.bytes initLine.text)).map fun result => result.toBool)) =
        some (some (.bytes initLine.text), some true) := by decide +kernel
    rw [run, Option.map_some] at loaded
    obtain ⟨last, parsed⟩ := Prod.mk.inj (Option.some.inj loaded)
    obtain ⟨reading, atReading, stat⟩ := Option.map_eq_some_iff.mp last
    obtain ⟨result, atResult, isOk⟩ := Option.map_eq_some_iff.mp parsed
    cases result with
    | error status => cases isOk
    | ok fields => exact ⟨reading, fields, atReading, stat ▸ loadProcStat_fields atResult⟩
  · cases split
  · cases split

/-- Process 2 is gone, but one second after the failed read of its stat file
the times of process 1 are reported for it. -/
theorem sysmProcTimeGet_after_failed_read :
    ¬ ∀ memory opened getpagesize ticks procStat events, sysmOpen memory getpagesize ticks procStat = .ok opened →
      events.Pairwise (fun earlier later : ProcEvent => earlier.now ≤ later.now) → ReportsFresh opened events := by
  intro claim
  let first : ProcEvent := ⟨1, 0, (.bytes initLine.text), .time⟩
  let failed : ProcEvent := ⟨2, 0, .missing, .time⟩
  let again : ProcEvent := ⟨2, 1, .missing, .time⟩
  have ordered : [first, failed, again].Pairwise (fun earlier later : ProcEvent => earlier.now ≤ later.now) := by
    simp [first, failed, again]
  have ran : ((Machine.run Watched.step ⟨openedSysm, none⟩ [first, failed]).bind fun (_, w) =>
      (w.step again).map fun (reply, w) => (reply.reports, w.lastRead.map ProcEvent.stat)) =
      some (true, some .missing) := by decide +kernel
  obtain ⟨⟨replies, w⟩, run, ran⟩ := Option.bind_eq_some_iff.mp ran
  obtain ⟨⟨reply, w'⟩, step, same⟩ := Option.map_eq_some_iff.mp ran
  obtain ⟨reports, stale⟩ := Prod.mk.inj same
  obtain ⟨reading, fields, last, _, _, _, _, parsed, _⟩ := claim .zero openedSysm 4096 100 (.ok []) _ rfl ordered
    [first, failed] again [] rfl replies w reply w' run step reports
  rw [last] at stale
  obtain ⟨pstat, loaded, _⟩ := parsed w'.sysm ⟨rfl, rfl, rfl⟩
  rw [Option.some.inj stale] at loaded
  cases loaded

end Sysm
