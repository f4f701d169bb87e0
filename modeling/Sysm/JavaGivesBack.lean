import Sysm.SysmService

namespace Sysm
open CString LinkedHeap Machine

theorem JniSysm.object_ne_closed (jsysm : JniSysm) : jsysm.object ≠ .closed := by
  rw [JniSysm.object]
  by_cases ok : jsysm.openStatus = 0
  · rw [if_pos ok]
    exact SysmObject.noConfusion
  · rw [if_neg ok]
    exact SysmObject.noConfusion

/-- All has been given back, both blocks and global references, exactly if the
object is closed and none has been lost. -/
theorem Jvm.Only.empty_iff {jvm : Jvm} {lost : Bool} {obj : Nat} {object : SysmObject} (only : jvm.Only lost obj object) :
    ((∀ pointer, read jvm.handles pointer = none) ∧ ∀ ref, read jvm.globals ref = none) ↔
      object = .closed ∧ lost = false := by
  constructor
  · rintro ⟨empty, _⟩
    have shut (other : Nat) : jvm.object other = .closed := by
      rw [Jvm.object, empty]
      rfl
    refine ⟨only.here.symm.trans (shut obj), ?_⟩
    by_contra lost
    obtain ⟨other, _, kept⟩ := only.others.mp (eq_true_of_ne_false lost)
    exact kept (shut other)
  · rintro ⟨rfl, found⟩
    have empty : ∀ pointer, read jvm.handles pointer = none := by
      intro pointer
      by_contra allocated
      obtain ⟨owner, rfl⟩ := only.kept pointer allocated
      obtain ⟨jsysm, atHandle⟩ := Option.ne_none_iff_exists'.mp allocated
      have unshut : jvm.object owner ≠ .closed := by
        rw [Jvm.object_of_read atHandle]
        exact jsysm.object_ne_closed
      have other : owner ≠ obj := by
        rintro rfl
        exact unshut only.here
      have lost := only.others.mpr ⟨owner, other, unshut⟩
      exact Bool.false_ne_true (found.symm.trans lost)
    exact ⟨empty, only.sound.owns.no_cells empty⟩

/-- The library is never opened, or it is opened with success and closed later. -/
def GivesBack : List JavaCall → Prop
  | [] => True
  | .getInstance machine :: calls => (∃ sysm, machine.sysmOpen = .ok sysm) ∧ JavaCall.close ∈ calls
  | _ :: calls => GivesBack calls

section Service

variable {env : JniEnv} {call : JavaCall} {calls : List JavaCall} {answer : JavaResult} {answers : List JavaResult}
  {service next final : SysmService}

theorem serviceStep_closed (step : serviceStep env .closed call = some (answer, next)) : next = .closed := by
  cases call with
  | getInstance | close =>
    cases step
    rfl
  | fetch | getNetStat | getCpuPercentage | getCpuPercentages =>
    obtain ⟨thrown, _, step⟩ := Option.map_eq_some_iff.mp step
    cases step
    rfl

theorem serviceStep_failed {status : Int} {errbuf : Text}
    (step : serviceStep env (.failed status errbuf) call = some (answer, next)) :
    ∃ errbuf', next = .failed status errbuf' := by
  cases call with
  | getInstance | close =>
    cases step
    exact ⟨errbuf, rfl⟩
  | fetch | getNetStat | getCpuPercentage | getCpuPercentages =>
    obtain ⟨thrown, _, step⟩ := Option.map_eq_some_iff.mp step
    cases step
    exact ⟨_, rfl⟩

theorem OpenLibrary.throwing_opened {library : OpenLibrary} {err : Int}
    (step : library.throwing env err = some (answer, next)) : ∃ library', next = .opened library' := by
  obtain ⟨thrown, _, step⟩ := Option.map_eq_some_iff.mp step
  cases step
  exact ⟨_, rfl⟩

/-- Only `close` closes. -/
theorem OpenLibrary.step_opened {library : OpenLibrary} (step : library.step env call = some (answer, next))
    (other : call ≠ .close) : ∃ library', next = .opened library' := by
  cases call with
  | getInstance machine =>
    cases step
    exact ⟨library, rfl⟩
  | close => exact absurd rfl other
  | fetch fields call =>
    obtain ⟨⟨reply, sysm⟩, _, step⟩ := Option.bind_eq_some_iff.mp step
    dsimp only at step
    by_cases failed : reply.status ≠ 0
    · rw [if_pos failed] at step
      exact OpenLibrary.throwing_opened step
    · rw [if_neg failed] at step
      cases step
      exact ⟨_, rfl⟩
  | getNetStat args =>
    obtain ⟨⟨⟨status, netStat⟩, sysm⟩, _, step⟩ := Option.bind_eq_some_iff.mp step
    dsimp only at step
    by_cases failed : status ≠ 0
    · rw [if_pos failed] at step
      exact OpenLibrary.throwing_opened step
    · rw [if_neg failed] at step
      cases step
      exact ⟨_, rfl⟩
  | getCpuPercentage first second =>
    obtain ⟨⟨perc, lastCpu⟩, _, step⟩ := Option.bind_eq_some_iff.mp step
    cases perc with
    | error status => exact OpenLibrary.throwing_opened step
    | ok perc =>
      cases step
      exact ⟨_, rfl⟩
  | getCpuPercentages machine first second real =>
    obtain ⟨⟨perc, java⟩, _, step⟩ := Option.bind_eq_some_iff.mp step
    cases perc with
    | error status => exact OpenLibrary.throwing_opened step
    | ok perc =>
      cases step
      exact ⟨_, rfl⟩

/-- An object that is there stays. -/
theorem serviceStep_present (here : service ≠ .absent) (step : serviceStep env service call = some (answer, next)) :
    next ≠ .absent := by
  cases service with
  | absent => exact absurd rfl here
  | failed status errbuf =>
    obtain ⟨errbuf', rfl⟩ := serviceStep_failed step
    exact SysmService.noConfusion
  | closed =>
    rw [serviceStep_closed step]
    exact SysmService.noConfusion
  | opened library =>
    by_cases close : call = .close
    · subst close
      cases step
      exact SysmService.noConfusion
    · obtain ⟨library', rfl⟩ := OpenLibrary.step_opened step close
      exact SysmService.noConfusion

theorem run_closed (ran : run (serviceStep env) .closed calls = some (answers, final)) : final = .closed := by
  refine @run_invariant _ _ _ _ _ _ _ _ (· = SysmService.closed) ?_ rfl ran
  rintro service call answer next rfl step
  exact serviceStep_closed step

theorem run_failed {status : Int} {errbuf : Text}
    (ran : run (serviceStep env) (.failed status errbuf) calls = some (answers, final)) :
    ∃ errbuf', final = .failed status errbuf' := by
  refine @run_invariant _ _ _ _ _ _ _ _ (fun service => ∃ errbuf', service = .failed status errbuf') ?_ ⟨errbuf, rfl⟩ ran
  rintro service call answer next ⟨errbuf', rfl⟩ step
  exact serviceStep_failed step

theorem run_opened_iff {library : OpenLibrary}
    (ran : run (serviceStep env) (.opened library) calls = some (answers, final)) :
    final = .closed ↔ JavaCall.close ∈ calls := by
  induction calls generalizing library answers with
  | nil =>
    cases ran
    simp
  | cons call calls ih =>
    obtain ⟨answer, next, others, first, later, rfl⟩ := run_cons_iff.mp ran
    by_cases close : call = .close
    · subst close
      cases first
      exact iff_of_true (run_closed later) List.mem_cons_self
    · obtain ⟨library', rfl⟩ := OpenLibrary.step_opened first close
      rw [ih later, List.mem_cons, or_iff_right (Ne.symm close)]

end Service

section Watched

variable {env : JniEnv} {calls : List JavaCall} {answers : List JavaResult} {service : SysmService} {lost : Bool}
  {final : SysmService × Bool}

/-- Nothing is lost once there is an object. -/
theorem watchedRun_present (here : service ≠ .absent)
    (ran : run (watchedStep env) (service, lost) calls = some (answers, final)) : final.1 ≠ .absent ∧ final.2 = lost := by
  refine @run_invariant _ _ _ _ _ _ _ _ (fun watched => watched.1 ≠ .absent ∧ watched.2 = lost) ?_ ⟨here, rfl⟩ ran
  rintro ⟨service, lost⟩ call answer next ⟨here, rfl⟩ step
  rw [watchedStep_kept env here] at step
  obtain ⟨⟨answer, service'⟩, stepped, equal⟩ := Option.map_eq_some_iff.mp step
  cases equal
  exact ⟨serviceStep_present here stepped, rfl⟩

theorem watchedRun_lost (ran : run (watchedStep env) (service, true) calls = some (answers, final)) : final.2 = true := by
  refine @run_invariant _ _ _ _ _ _ _ _ (fun watched => watched.2 = true) ?_ rfl ran
  rintro ⟨service, lost⟩ call answer next rfl step
  obtain ⟨_, _, equal⟩ := Option.map_eq_some_iff.mp step
  cases equal
  rfl

theorem watchedRun_ran (ran : run (watchedStep env) (service, lost) calls = some (answers, final)) :
    run (serviceStep env) service calls = some (answers, final.1) := by
  rw [← watchedRun_service env (service, lost), ran]
  rfl

theorem watchedRun_absent_iff (ran : run (watchedStep env) (.absent, false) calls = some (answers, final)) :
    (final.1 = .absent ∨ final.1 = .closed) ∧ final.2 = false ↔ GivesBack calls := by
  induction calls generalizing answers with
  | nil =>
    cases ran
    exact iff_of_true ⟨Or.inl rfl, rfl⟩ trivial
  | cons call calls ih =>
    obtain ⟨answer, next, others, first, later, rfl⟩ := run_cons_iff.mp ran
    cases call with
    | close | fetch | getNetStat | getCpuPercentage | getCpuPercentages =>
      cases first
      exact ih later
    | getInstance machine =>
      cases opens : machine.sysmOpen with
      | ok sysm =>
        simp only [watchedStep, serviceStep, opens, Option.map_some, Option.some.injEq, Prod.mk.injEq] at first
        obtain ⟨rfl, rfl⟩ := first
        obtain ⟨present, found⟩ := watchedRun_present SysmService.noConfusion later
        rw [GivesBack, ← run_opened_iff (watchedRun_ran later), or_iff_right present, opens]
        constructor
        · rintro ⟨closed, _⟩
          exact ⟨⟨sysm, rfl⟩, closed⟩
        · rintro ⟨_, closed⟩
          exact ⟨closed, found⟩
      | error status =>
        have never : ¬ GivesBack (.getInstance machine :: calls) := by simp [GivesBack, opens]
        refine iff_of_false ?_ never
        rintro ⟨shut, found⟩
        simp only [watchedStep, serviceStep, opens, Option.map_map] at first
        obtain ⟨⟨thrown, errbuf⟩, _, equal⟩ := Option.map_eq_some_iff.mp first
        dsimp only [Function.comp_apply] at equal
        by_cases caught : env.isSysmException thrown.className
        · rw [if_pos caught] at equal
          cases equal
          obtain ⟨errbuf', failed⟩ := run_failed (watchedRun_ran later)
          rw [failed] at shut
          rcases shut with absent | closed
          · cases absent
          · cases closed
        · rw [if_neg caught] at equal
          cases equal
          exact Bool.false_ne_true (found.symm.trans (watchedRun_lost later))

end Watched

/-- After any program the handle and all global references are given back
exactly if the library has been opened with success and closed. One that could
not be opened leaves its handle for good. Nothing is freed twice: `close` can
always be called again. -/
theorem sysmJava_gives_back {env : JniEnv} {calls : List JavaCall} {answers : List JavaResult} {final : SysmClass}
    (ran : run (javaStep env) .start calls = some (answers, final)) :
    (((∀ pointer, read final.jvm.handles pointer = none) ∧ ∀ ref, read final.jvm.globals ref = none) ↔
      GivesBack calls) ∧
    ∃ answer next, javaStep env final .close = some (answer, next) := by
  have agree := javaRun_agree env calls
  rw [ran] at agree
  obtain ⟨⟨service, lost⟩, served, serves⟩ := agree.next_left
  constructor
  · rw [← watchedRun_absent_iff served]
    cases service with
    | absent =>
      rw [serves.2.empty_iff]
      simp
    | failed status errbuf =>
      obtain ⟨obj, _, only⟩ := serves
      rw [only.empty_iff]
      simp
    | opened library =>
      obtain ⟨obj, cpuKnown, _, only, _⟩ := serves
      rw [only.empty_iff]
      simp
    | closed =>
      obtain ⟨obj, lastCpu, lastCpuList, _, only⟩ := serves
      rw [only.empty_iff]
      simp
  · have closes := javaStep_agree env serves .close
    have completes : ∃ answer next, watchedStep env (service, lost) .close = some (answer, next) := by
      cases service with
      | absent | failed | opened | closed => exact ⟨_, _, rfl⟩
    obtain ⟨answer, watched, completes⟩ := completes
    rw [completes] at closes
    generalize javaStep env final .close = closed at closes
    cases closes with
    | next _ => exact ⟨_, _, rfl⟩

/-- A machine whose `/proc/stat` is empty. -/
def plainMachine : OpenMachine := ⟨.zero, [], 4096, 100, .ok []⟩

/-- The classes of the exceptions, which are all in one package. -/
def exceptionClasses : List String :=
  ["SysmException", "SysmFileNotFoundException", "SysmNotImplException", "SysmPermissionDeniedException"].map
    ("edu/scut/cs/sysm/exception/" ++ ·)

def plainEnv : JniEnv where
  strerrorR _ := []
  finds className := exceptionClasses.contains className
  findsNotImpl := by decide +kernel
  isSysmException className := exceptionClasses.contains className
  otherError _ := (by decide +kernel : exceptionClasses.contains "java/lang/NoClassDefFoundError" = false)
  goesOn := true

/-- A program that asks for a process that is gone, and closes. -/
def askAndClose : List JavaCall := [.getInstance plainMachine, .fetch (some .proccpu) (askGoneProcess 7 5), .close]

theorem sysmJava_askAndClose : ∃ answers final, run (javaStep plainEnv) .start askAndClose = some (answers, final) ∧
    (((∀ pointer, read final.jvm.handles pointer = none) ∧ ∀ ref, read final.jvm.globals ref = none) ↔
      GivesBack askAndClose) ∧
    ∃ answer next, javaStep plainEnv final .close = some (answer, next) := by
  have completes : (run (javaStep plainEnv) .start askAndClose).isSome = true := by decide +kernel
  obtain ⟨⟨answers, final⟩, ran⟩ := Option.isSome_iff_exists.mp completes
  exact ⟨answers, final, ran, sysmJava_gives_back ran⟩

end Sysm
