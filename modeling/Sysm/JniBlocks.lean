import Sysm.JniRefinement

namespace Sysm
open CString LinkedHeap Machine

/-- The same blocks are allocated, and pointed to by the same objects. -/
structure Jvm.SameBlocks (jvm jvm' : Jvm) : Prop where
  wrapper : jvm'.wrapper = jvm.wrapper
  allocated : ∀ pointer, read jvm'.handles pointer ≠ none ↔ read jvm.handles pointer ≠ none

/-- Every block that is allocated is that of an object. -/
def Jvm.Kept (jvm : Jvm) : Prop := ∀ pointer, read jvm.handles pointer ≠ none → ∃ obj, jvm.wrapper obj = pointer

namespace Jvm

variable {env : JniEnv} {jvm jvm' jvm'' : Jvm} {pointer obj : Nat}

theorem SameBlocks.refl (jvm : Jvm) : jvm.SameBlocks jvm := ⟨rfl, fun _ => Iff.rfl⟩

theorem SameBlocks.trans (first : jvm.SameBlocks jvm') (second : jvm'.SameBlocks jvm'') : jvm.SameBlocks jvm'' :=
  ⟨second.wrapper.trans first.wrapper, fun pointer => (second.allocated pointer).trans (first.allocated pointer)⟩

theorem SameBlocks.kept (same : jvm.SameBlocks jvm') (kept : jvm.Kept) : jvm'.Kept := by
  intro pointer allocated
  rw [same.wrapper]
  exact kept pointer ((same.allocated pointer).mp allocated)

theorem SameBlocks.write {old : JniSysm} (atHandle : read jvm.handles pointer = some old) (new : JniSysm)
    (globals : Heap GlobalRef) : jvm.SameBlocks ⟨LinkedHeap.write jvm.handles pointer new, globals, jvm.wrapper⟩ := by
  refine ⟨rfl, fun other => ?_⟩
  by_cases here : other = pointer
  · subst here
    simp [read_write_self new atHandle, atHandle]
  · rw [read_write_other new here]

theorem sysmThrowError_blocks {err : Int} {thrown : Throwable}
    (ran : sysmThrowError env jvm pointer err = some (thrown, jvm')) : jvm.SameBlocks jvm' := by
  obtain ⟨jsysm, atHandle, ran⟩ := Option.bind_eq_some_iff.mp ran
  by_cases notimpl : err = sysmEnotimpl
  · rw [if_pos notimpl] at ran
    cases cached : jsysm.notImpl with
    | none =>
      rw [cached] at ran
      cases ran
      exact .write atHandle _ _
    | some ref =>
      rw [cached] at ran
      obtain ⟨found, _, ran⟩ := Option.bind_eq_some_iff.mp ran
      cases ran
      exact .refl jvm
  · rw [if_neg notimpl] at ran
    obtain ⟨made, _, ran⟩ := Option.bind_eq_some_iff.mp ran
    cases ran
    exact .write atHandle _ _

theorem sysmGetJpointer_blocks {handle : Except Throwable Nat}
    (ran : sysmGetJpointer env jvm obj = some (handle, jvm')) : jvm.SameBlocks jvm' := by
  unfold sysmGetJpointer at ran
  by_cases zero : jvm.wrapper obj = 0
  · rw [if_pos zero] at ran
    obtain ⟨thrown, _, ran⟩ := Option.bind_eq_some_iff.mp ran
    cases ran
    exact .refl jvm
  · rw [if_neg zero] at ran
    obtain ⟨jsysm, _, ran⟩ := Option.bind_eq_some_iff.mp ran
    by_cases failed : jsysm.openStatus ≠ 0
    · rw [if_pos failed] at ran
      obtain ⟨⟨thrown, next⟩, threw, ran⟩ := Option.bind_eq_some_iff.mp ran
      cases ran
      exact sysmThrowError_blocks threw
    · rw [if_neg failed] at ran
      cases ran
      exact .refl jvm

theorem throwAndReturn_blocks {err : Int} {result : NativeResult}
    (ran : throwAndReturn env jvm pointer err = some (result, jvm')) : jvm.SameBlocks jvm' := by
  obtain ⟨⟨thrown, next⟩, threw, ran⟩ := Option.bind_eq_some_iff.mp ran
  cases ran
  exact sysmThrowError_blocks threw

theorem setFields_blocks {bean : JsysmFields} {given result : NativeResult}
    (ran : setFields jvm pointer bean given = some (result, jvm')) : jvm.SameBlocks jvm' := by
  obtain ⟨next, looked, ran⟩ := Option.bind_eq_some_iff.mp ran
  obtain ⟨ref, _, ran⟩ := Option.bind_eq_some_iff.mp ran
  cases ran
  obtain ⟨jsysm, atHandle, looked⟩ := Option.bind_eq_some_iff.mp looked
  obtain ⟨place, _, looked⟩ := Option.bind_eq_some_iff.mp looked
  cases place with
  | some ref =>
    cases looked
    exact .refl jvm
  | none =>
    cases looked
    exact .write atHandle _ _

theorem dSysm_blocks {body : Nat → Jvm → Option (NativeResult × Jvm)} {result : NativeResult}
    (keeps : ∀ pointer jvm result jvm', body pointer jvm = some (result, jvm') → jvm.SameBlocks jvm')
    (ran : dSysm env body jvm obj = some (result, jvm')) : jvm.SameBlocks jvm' := by
  obtain ⟨⟨handle, next⟩, got, ran⟩ := Option.bind_eq_some_iff.mp ran
  cases handle with
  | error thrown =>
    cases ran
    exact sysmGetJpointer_blocks got
  | ok pointer => exact (sysmGetJpointer_blocks got).trans (keeps pointer next result jvm' ran)

theorem gather_blocks {fields : Option JsysmFields} {call : SysmCall} {result : NativeResult}
    (ran : gather env fields call jvm obj = some (result, jvm')) : jvm.SameBlocks jvm' := by
  refine dSysm_blocks (fun pointer jvm result jvm' ran => ?_) ran
  obtain ⟨jsysm, atHandle, ran⟩ := Option.bind_eq_some_iff.mp ran
  obtain ⟨⟨reply, sysm⟩, _, ran⟩ := Option.bind_eq_some_iff.mp ran
  have written := SameBlocks.write atHandle { jsysm with sysm } jvm.globals
  dsimp only at ran
  by_cases failed : reply.status ≠ 0
  · rw [if_pos failed] at ran
    exact written.trans (throwAndReturn_blocks ran)
  · rw [if_neg failed] at ran
    cases fields with
    | none =>
      cases ran
      exact written
    | some bean => exact written.trans (setFields_blocks ran)

theorem cpuPercentageGather_blocks {prev curr : SysmCpu} {result : NativeResult}
    (ran : cpuPercentageGather env prev curr jvm obj = some (result, jvm')) : jvm.SameBlocks jvm' := by
  refine dSysm_blocks (fun pointer jvm result jvm' ran => ?_) ran
  obtain ⟨ref, _, ran⟩ := Option.bind_eq_some_iff.mp ran
  exact setFields_blocks ran

theorem netStatStat_blocks {args : NetStatArgs} {result : NativeResult}
    (ran : netStatStat env args jvm obj = some (result, jvm')) : jvm.SameBlocks jvm' := by
  refine dSysm_blocks (fun pointer jvm result jvm' ran => ?_) ran
  obtain ⟨jsysm, atHandle, ran⟩ := Option.bind_eq_some_iff.mp ran
  obtain ⟨⟨⟨status, netStat⟩, sysm⟩, _, ran⟩ := Option.bind_eq_some_iff.mp ran
  have written := SameBlocks.write atHandle { jsysm with sysm } jvm.globals
  dsimp only at ran
  by_cases failed : status ≠ 0
  · rw [if_pos failed] at ran
    exact written.trans (throwAndReturn_blocks ran)
  · rw [if_neg failed] at ran
    exact written.trans (setFields_blocks ran)

theorem nativeClose_kept {result : NativeResult} (kept : jvm.Kept)
    (ran : nativeClose env jvm obj = some (result, jvm')) : jvm'.Kept := by
  obtain ⟨⟨handle, next⟩, got, ran⟩ := Option.bind_eq_some_iff.mp ran
  have between := (sysmGetJpointer_blocks got).kept kept
  cases handle with
  | error thrown =>
    cases ran
    exact between
  | ok pointer =>
    have same : pointer = next.wrapper obj := by
      have wrapper := (sysmGetJpointer_blocks got).wrapper
      unfold sysmGetJpointer at got
      by_cases zero : jvm.wrapper obj = 0
      · rw [if_pos zero] at got
        obtain ⟨thrown, _, got⟩ := Option.bind_eq_some_iff.mp got
        cases got
      · rw [if_neg zero] at got
        obtain ⟨jsysm, _, got⟩ := Option.bind_eq_some_iff.mp got
        by_cases failed : jsysm.openStatus ≠ 0
        · rw [if_pos failed] at got
          obtain ⟨thrown, _, got⟩ := Option.bind_eq_some_iff.mp got
          cases got
        · rw [if_neg failed] at got
          cases got
          rfl
    obtain ⟨jsysm, _, ran⟩ := Option.bind_eq_some_iff.mp ran
    obtain ⟨closed, _, ran⟩ := Option.bind_eq_some_iff.mp ran
    obtain ⟨globals, _, ran⟩ := Option.bind_eq_some_iff.mp ran
    cases ran
    intro other allocated
    dsimp only at allocated ⊢
    have different : other ≠ pointer := by
      rintro rfl
      exact allocated (read_free_self _ _)
    rw [read_free_other different] at allocated
    obtain ⟨owner, points⟩ := between other allocated
    refine ⟨owner, ?_⟩
    rw [Function.update_of_ne]
    · exact points
    · rintro rfl
      exact different (points.symm.trans same.symm)

/-- A block that `nativeOpen` makes for an object without one. -/
theorem nativeOpen_kept {machine : OpenMachine} {result : NativeResult} (kept : jvm.Kept) (sound : jvm.Sound)
    (zero : jvm.wrapper obj = 0) (ran : nativeOpen env machine jvm obj = some (result, jvm')) : jvm'.Kept := by
  have grown (jsysm : JniSysm) :
      Kept ⟨alloc jvm.handles jsysm, jvm.globals, Function.update jvm.wrapper obj jvm.handles.length⟩ := by
    intro pointer allocated
    dsimp only at allocated ⊢
    by_cases last : pointer = jvm.handles.length
    · exact ⟨obj, by rw [last, Function.update_self]⟩
    · have bound : pointer < jvm.handles.length := by
        obtain ⟨found, there⟩ := Option.ne_none_iff_exists'.mp allocated
        have bound := read_lt there
        rw [length_alloc] at bound
        omega
      rw [read_alloc_lt jsysm bound] at allocated
      obtain ⟨owner, points⟩ := kept pointer allocated
      refine ⟨owner, ?_⟩
      rw [Function.update_of_ne]
      · exact points
      · rintro rfl
        rw [← points, zero] at allocated
        exact allocated sound.null
  unfold nativeOpen at ran
  cases opens : machine.sysmOpen with
  | ok sysm =>
    rw [opens] at ran
    cases ran
    exact grown _
  | error status =>
    rw [opens] at ran
    exact (throwAndReturn_blocks ran).kept (grown _)

end Jvm

/-- No native method loses a block, unless it is `nativeOpen` on an object that
has one. -/
theorem nativeStep_kept {env : JniEnv} {jvm jvm' : Jvm} {obj : Nat} {call : NativeCall} {result : NativeResult}
    (kept : jvm.Kept) (sound : jvm.Sound) (fresh : (∀ machine, call ≠ .nativeOpen machine) ∨ jvm.wrapper obj = 0)
    (ran : nativeStep env jvm (obj, call) = some (result, jvm')) : jvm'.Kept := by
  cases call with
  | nativeOpen machine =>
    rcases fresh with later | zero
    · exact absurd rfl (later machine)
    · exact Jvm.nativeOpen_kept kept sound zero ran
  | nativeClose => exact Jvm.nativeClose_kept kept ran
  | gather fields call => exact (Jvm.gather_blocks ran).kept kept
  | cpuPercentage prev curr => exact (Jvm.cpuPercentageGather_blocks ran).kept kept
  | netStat args => exact (Jvm.netStatStat_blocks ran).kept kept

end Sysm
