import Mathlib.Data.List.ReduceOption
import Sysm.JniHandles
import Sysm.Lib.Simulation

namespace Sysm
open CString LinkedHeap Machine

section Objects

variable (env : JniEnv)

/-- `nativeOpen` on an object that has, or has not, been opened before. -/
def OpenMachine.object (machine : OpenMachine) : Option (NativeResult × SysmObject) :=
  match machine.sysmOpen with
  | .ok sysm => some (.done, .opened sysm machine.errbuf false)
  | .error status =>
    (errorThrown env machine.errbuf status).map fun (thrown, errbuf) => (.thrown thrown, .failed status errbuf)

/-- A method that throws for an error leaves the library open. -/
def SysmObject.throwing (sysm : SysmT) (errbuf : Text) (cpuKnown : Bool) (err : Int) : Option (NativeResult × SysmObject) :=
  (errorThrown env errbuf err).map fun (thrown, errbuf) => (.thrown thrown, .opened sysm errbuf cpuKnown)

/-- A call as it is to the user of the object. Nothing is pointed to here. -/
def SysmObject.step : SysmObject → NativeCall → Option (NativeResult × SysmObject)
  | _, .nativeOpen machine => machine.object env
  | .closed, _ => (sysmThrowException env (ofString "sysm has been closed")).map fun thrown => (.thrown thrown, .closed)
  | .failed status errbuf, _ =>
    (errorThrown env errbuf status).map fun (thrown, errbuf) => (.thrown thrown, .failed status errbuf)
  | .opened _ _ _, .nativeClose => some (.status 0, .closed)
  | .opened sysm errbuf cpuKnown, .gather fields call => do
    let (reply, sysm) ← sysmStep sysm call
    if reply.status ≠ 0 then SysmObject.throwing env sysm errbuf cpuKnown reply.status
    else return (.reply reply, .opened sysm errbuf (decide (fields = some .cpu) || cpuKnown))
  | .opened sysm errbuf cpuKnown, .cpuPercentage prev curr =>
    if cpuKnown then some (.percentage (sysmCpuPercCal prev curr), .opened sysm errbuf true) else none
  | .opened sysm errbuf cpuKnown, .netStat args => do
    let ((status, netStat), sysm) ← args.call sysm
    if status ≠ 0 then SysmObject.throwing env sysm errbuf cpuKnown args.flags.toInt
    else
      return (.netStat netStat.tcpInboundTotal netStat.tcpOutboundTotal netStat.allInboundTotal netStat.allOutboundTotal,
        .opened sysm errbuf cpuKnown)

/-- A call on one of the objects. -/
def objectsStep (objects : Nat → SysmObject) (input : Nat × NativeCall) : Option (NativeResult × (Nat → SysmObject)) :=
  ((objects input.1).step env input.2).map fun (result, object) => (result, Function.update objects input.1 object)

end Objects

/-- The handles are in order, and these are the objects. -/
def Jvm.Shows (jvm : Jvm) (objects : Nat → SysmObject) : Prop := jvm.Sound ∧ jvm.object = objects

theorem sysmBootTimeGet_ok (content : List UInt8) : ∃ bootTime, sysmBootTimeGet (.ok content) = .ok bootTime := by
  cases line : fgets BUFSIZ content with
  | none => exact ⟨0, by simp only [sysmBootTimeGet, bind, Except.bind, line]; rfl⟩
  | some found => exact ⟨_, by simp only [sysmBootTimeGet, bind, Except.bind, line]; rfl⟩

theorem OpenMachine.sysmOpen_status (machine : OpenMachine) {status : Int} (failed : machine.sysmOpen = .error status) :
    status ≠ 0 := by
  unfold OpenMachine.sysmOpen Sysm.sysmOpen at failed
  cases file : machine.procStat with
  | error errno =>
    rw [file] at failed
    cases failed
    exact errno.property
  | ok content =>
    obtain ⟨bootTime, boot⟩ := sysmBootTimeGet_ok content
    rw [file, Except.mapError, boot] at failed
    cases failed

theorem NetStatArgs.call_used (args : NetStatArgs) {sysm sysm' : SysmT} {result : Int × SysmNetStat}
    (used : sysm.TablesUsed) (called : args.call sysm = some (result, sysm')) : sysm'.TablesUsed := by
  unfold NetStatArgs.call at called
  by_cases hasPort : args.jport ≠ -1
  · rw [if_pos hasPort] at called
    obtain ⟨jaddress, _, called⟩ := Option.bind_eq_some_iff.mp called
    obtain ⟨address, _, called⟩ := Option.bind_eq_some_iff.mp called
    cases address with
    | error status =>
      cases Option.some.inj called
      exact used
    | ok address =>
      obtain ⟨counted, _, called⟩ := Option.bind_eq_some_iff.mp called
      cases Option.some.inj called
      exact used
  · rw [if_neg hasPort] at called
    refine @sysmStep_used sysm sysm' (.netStat args.flags.toUInt32 args.created args.clock args.files) (.netStat result)
      used ?_
    rw [sysmStep, called]
    rfl

namespace Jvm

variable {env : JniEnv} {jvm : Jvm} {pointer obj : Nat} {old : JniSysm}

theorem Updates.shows {jvm' : Jvm} {jsysm : JniSysm} (updates : jvm.Updates jvm' (jvm.wrapper obj) jsysm)
    (sound : jvm.Sound) (nonzero : jvm.wrapper obj ≠ 0) : jvm'.Shows (Function.update jvm.object obj jsysm.object) :=
  ⟨updates.sound, updates.object sound nonzero⟩

theorem Updates.shows_at {jvm' : Jvm} {jsysm : JniSysm} (updates : jvm.Updates jvm' pointer jsysm) (sound : jvm.Sound)
    (here : jvm.wrapper obj = pointer) (nonzero : pointer ≠ 0) :
    jvm'.Shows (Function.update jvm.object obj jsysm.object) := by
  subst here
  exact updates.shows sound nonzero

/-- The handle of an object is not there, or of no use, or the library's. -/
theorem Sound.object_cases (sound : jvm.Sound) (obj : Nat) :
    (jvm.wrapper obj = 0 ∧ jvm.object obj = .closed) ∨
    jvm.wrapper obj ≠ 0 ∧ ∃ jsysm, read jvm.handles (jvm.wrapper obj) = some jsysm ∧ jvm.object obj = jsysm.object := by
  by_cases zero : jvm.wrapper obj = 0
  · exact Or.inl ⟨zero, sound.object_of_null zero⟩
  · obtain ⟨jsysm, atHandle⟩ := sound.pointed obj zero
    exact Or.inr ⟨zero, jsysm, atHandle, object_of_read atHandle⟩

theorem Sound.throwAndReturn_spec (env : JniEnv) (sound : jvm.Sound) (atHandle : read jvm.handles pointer = some old)
    (err : Int) : (errorThrown env old.errbuf err = none ∧ throwAndReturn env jvm pointer err = none) ∨
    ∃ thrown errbuf jvm' notImpl, errorThrown env old.errbuf err = some (thrown, errbuf) ∧
      throwAndReturn env jvm pointer err = some (.thrown thrown, jvm') ∧
      jvm.Updates jvm' pointer { old with errbuf, notImpl } := by
  rcases sound.sysmThrowError_spec env atHandle err with ⟨silent, fault⟩ | ⟨thrown, errbuf, jvm', notImpl, made, threw, updates⟩
  · exact Or.inl ⟨silent, by rw [throwAndReturn, fault]; rfl⟩
  · exact Or.inr ⟨thrown, errbuf, jvm', notImpl, made, by rw [throwAndReturn, threw]; rfl, updates⟩

/-- What is done behind the macros need only be right for the library. -/
theorem Sound.dSysm_agree (sound : jvm.Sound) {body : Nat → Jvm → Option (NativeResult × Jvm)} {call : NativeCall}
    (later : ∀ machine, call ≠ .nativeOpen machine)
    (opened : ∀ jsysm, jvm.wrapper obj ≠ 0 → read jvm.handles (jvm.wrapper obj) = some jsysm → jsysm.openStatus = 0 →
      Agree Shows (body (jvm.wrapper obj) jvm) (objectsStep env jvm.object (obj, call))) :
    Agree Shows (dSysm env body jvm obj) (objectsStep env jvm.object (obj, call)) := by
  rcases sound.object_cases obj with ⟨zero, closed⟩ | ⟨nonzero, jsysm, atHandle, same⟩
  · have step : objectsStep env jvm.object (obj, call) =
        (sysmThrowException env (ofString "sysm has been closed")).map fun thrown => (.thrown thrown, jvm.object) := by
      have kept : Function.update jvm.object obj .closed = jvm.object := by
        rw [← closed, Function.update_eq_self]
      cases call with
      | nativeOpen machine => exact absurd rfl (later machine)
      | nativeClose | gather | cpuPercentage | netStat =>
        simp only [objectsStep, closed, SysmObject.step, Option.map_map, Function.comp_def, kept]
    rw [step, dSysm, sysmGetJpointer, if_pos zero]
    cases sysmThrowException env (ofString "sysm has been closed") with
    | none => exact .stuck
    | some thrown => exact .next ⟨sound, rfl⟩
  · by_cases ok : jsysm.openStatus = 0
    · have get : sysmGetJpointer env jvm obj = some (.ok (jvm.wrapper obj), jvm) := by
        simp only [sysmGetJpointer, if_neg nonzero, atHandle, ok, Option.bind_eq_bind, Option.bind_some, Option.pure_def,
          ne_eq, not_true_eq_false, if_false]
      rw [dSysm, get]
      exact opened jsysm nonzero atHandle ok
    · have failed : jvm.object obj = .failed jsysm.openStatus jsysm.errbuf := by
        rw [same, JniSysm.object, if_neg ok]
      have step : objectsStep env jvm.object (obj, call) = (errorThrown env jsysm.errbuf jsysm.openStatus).map
          fun (thrown, errbuf) => (.thrown thrown, Function.update jvm.object obj (.failed jsysm.openStatus errbuf)) := by
        cases call with
        | nativeOpen machine => exact absurd rfl (later machine)
        | nativeClose | gather | cpuPercentage | netStat =>
          simp only [objectsStep, failed, SysmObject.step, Option.map_map, Function.comp_def]
      rcases sound.sysmThrowError_spec env atHandle jsysm.openStatus with
        ⟨silent, fault⟩ | ⟨thrown, errbuf, jvm', notImpl, made, threw, updates⟩
      · have get : sysmGetJpointer env jvm obj = none := by
          simp only [sysmGetJpointer, if_neg nonzero, atHandle, ne_eq, ok, not_false_eq_true, if_true, fault,
            Option.bind_eq_bind, Option.bind_some, Option.bind_none]
        rw [step, silent, dSysm, get]
        exact .stuck
      · have get : sysmGetJpointer env jvm obj = some (.error thrown, jvm') := by
          simp only [sysmGetJpointer, if_neg nonzero, atHandle, ne_eq, ok, not_false_eq_true, if_true, threw,
            Option.bind_eq_bind, Option.bind_some, Option.pure_def]
        have shows := updates.shows sound nonzero
        rw [JniSysm.object, if_neg ok] at shows
        rw [step, made, dSysm, get]
        exact .next shows

theorem object_opened (ok : old.openStatus = 0) :
    old.object = .opened old.sysm old.errbuf (old.fields[JsysmFields.cpu.index]?.join).isSome := by
  rw [JniSysm.object, if_pos ok]

/-- The library has been called with the `sysm_t` of the handle. -/
theorem Sound.called (sound : jvm.Sound) (atHandle : read jvm.handles pointer = some old) {sysm : SysmT}
    (used : sysm.TablesUsed) : jvm.Updates (jvm.write pointer { old with sysm }) pointer { old with sysm } := by
  have kept : JniSysm.Sound { old with sysm } := ⟨(sound.handles pointer old atHandle).sized, fun _ => used⟩
  refine sound.write atHandle kept fun k => ?_
  cases k with
  | none => rfl
  | some index => rfl

/-- A method that throws after it has called the library. -/
theorem Updates.throwing_agree {jvm₀ : Jvm} (updates : jvm₀.Updates jvm (jvm₀.wrapper obj) old) (sound : jvm₀.Sound)
    (nonzero : jvm₀.wrapper obj ≠ 0) (ok : old.openStatus = 0) (err : Int) :
    Agree Shows (throwAndReturn env jvm (jvm₀.wrapper obj) err)
      ((SysmObject.throwing env old.sysm old.errbuf (old.fields[JsysmFields.cpu.index]?.join).isSome err).map
        fun (result, object) => (result, Function.update jvm₀.object obj object)) := by
  rw [SysmObject.throwing]
  rcases updates.sound.throwAndReturn_spec env updates.here err with
    ⟨silent, fault⟩ | ⟨thrown, errbuf, jvm', notImpl, made, threw, later⟩
  · rw [silent, fault]
    exact .stuck
  · have shows := (updates.trans later).shows sound nonzero
    rw [JniSysm.object, if_pos ok] at shows
    rw [made, threw]
    exact .next shows

/-- A method that hands over a bean at its end. -/
theorem Updates.setFields_agree {jvm₀ : Jvm} (updates : jvm₀.Updates jvm (jvm₀.wrapper obj) old) (sound : jvm₀.Sound)
    (nonzero : jvm₀.wrapper obj ≠ 0) (ok : old.openStatus = 0) (bean : JsysmFields) (result : NativeResult) :
    Agree Shows (setFields jvm (jvm₀.wrapper obj) bean result)
      (some (result, Function.update jvm₀.object obj (.opened old.sysm old.errbuf
        (decide (bean = .cpu) || (old.fields[JsysmFields.cpu.index]?.join).isSome)))) := by
  obtain ⟨jvm', fields, ref, done, found, later, known⟩ := updates.sound.setFields_spec updates.here bean
  have shows := (updates.trans later).shows sound nonzero
  rw [JniSysm.object, if_pos ok, known] at shows
  simp only [setFields, done, found, Option.bind_eq_bind, Option.bind_some, Option.pure_def]
  exact .next shows

theorem Sound.gather_agree (sound : jvm.Sound) (fields : Option JsysmFields) (call : SysmCall) :
    Agree Shows (gather env fields call jvm obj) (objectsStep env jvm.object (obj, .gather fields call)) := by
  refine sound.dSysm_agree (by simp) fun jsysm nonzero atHandle ok => ?_
  have used := (sound.handles _ _ atHandle).used ok
  simp only [objectsStep, object_of_read atHandle, object_opened ok, SysmObject.step, atHandle, Option.bind_eq_bind,
    Option.bind_some, Option.pure_def]
  cases stepped : sysmStep jsysm.sysm call with
  | none => exact .stuck
  | some result =>
    obtain ⟨reply, sysm⟩ := result
    have updates := sound.called atHandle (sysmStep_used used stepped)
    simp only [Option.bind_some]
    by_cases fine : reply.status = 0
    · simp only [fine, ne_eq, not_true_eq_false, if_false, Option.map_some]
      cases fields with
      | none =>
        have shows := updates.shows sound nonzero
        rw [JniSysm.object, if_pos ok] at shows
        exact .next shows
      | some bean =>
        have agree := updates.setFields_agree sound nonzero ok bean (.reply reply)
        simpa only [Option.some.injEq] using agree
    · simp only [ne_eq, fine, not_false_eq_true, if_true]
      exact updates.throwing_agree sound nonzero ok reply.status

theorem Sound.cpuPercentageGather_agree (sound : jvm.Sound) (prev curr : SysmCpu) :
    Agree Shows (cpuPercentageGather env prev curr jvm obj)
      (objectsStep env jvm.object (obj, .cpuPercentage prev curr)) := by
  refine sound.dSysm_agree (by simp) fun jsysm nonzero atHandle ok => ?_
  simp only [objectsStep, object_of_read atHandle, object_opened ok, SysmObject.step, useFields_eq atHandle,
    Option.bind_eq_bind]
  cases known : jsysm.fields[JsysmFields.cpu.index]?.join with
  | none => exact .stuck
  | some ref =>
    have agree := (Updates.refl sound atHandle).setFields_agree sound nonzero ok .cpupercentage
      (.percentage (sysmCpuPercCal prev curr))
    rw [known] at agree
    exact agree

theorem Sound.netStatStat_agree (sound : jvm.Sound) (args : NetStatArgs) :
    Agree Shows (netStatStat env args jvm obj) (objectsStep env jvm.object (obj, .netStat args)) := by
  refine sound.dSysm_agree (by simp) fun jsysm nonzero atHandle ok => ?_
  have used := (sound.handles _ _ atHandle).used ok
  simp only [objectsStep, object_of_read atHandle, object_opened ok, SysmObject.step, atHandle, Option.bind_eq_bind,
    Option.bind_some, Option.pure_def]
  cases called : args.call jsysm.sysm with
  | none => exact .stuck
  | some result =>
    obtain ⟨⟨status, netStat⟩, sysm⟩ := result
    have updates := sound.called atHandle (args.call_used used called)
    simp only [Option.bind_some]
    by_cases fine : status = 0
    · simp only [fine, ne_eq, not_true_eq_false, if_false, Option.map_some]
      exact updates.setFields_agree sound nonzero ok .netstat _
    · simp only [ne_eq, fine, not_false_eq_true, if_true]
      exact updates.throwing_agree sound nonzero ok args.flags.toInt

/-- A new handle is seen in the object that it is given to. -/
theorem Sound.opened_object (sound : jvm.Sound) (new : JniSysm) (obj : Nat) :
    Jvm.object ⟨alloc jvm.handles new, jvm.globals, Function.update jvm.wrapper obj jvm.handles.length⟩ =
      Function.update jvm.object obj new.object := by
  funext other
  by_cases mine : other = obj
  · subst mine
    rw [Function.update_self, Jvm.object]
    dsimp only
    rw [Function.update_self, read_alloc_new]
    rfl
  · have bound : jvm.wrapper other < jvm.handles.length := by
      by_cases zero : jvm.wrapper other = 0
      · rw [zero]
        exact sound.reserved
      · obtain ⟨jsysm, atHandle⟩ := sound.pointed other zero
        exact read_lt atHandle
    rw [Function.update_of_ne mine, Jvm.object]
    dsimp only
    rw [Function.update_of_ne mine, read_alloc_lt new bound]
    rfl

theorem fresh_slot (memory : SysmT) (errbuf : Text) (openStatus : Int) (k : Option Nat) :
    JniSysm.slot ⟨memory, errbuf, List.replicate jsysmFieldsMax none, openStatus, none⟩ k = none := by
  cases k with
  | none => rfl
  | some index =>
    by_cases bound : index < jsysmFieldsMax
    · simp [JniSysm.slot, bound]
    · simp [JniSysm.slot, bound]

theorem Sound.nativeOpen_agree (sound : jvm.Sound) (machine : OpenMachine) :
    Agree Shows (nativeOpen env machine jvm obj) (objectsStep env jvm.object (obj, .nativeOpen machine)) := by
  simp only [nativeOpen, objectsStep, SysmObject.step, OpenMachine.object]
  cases opens : machine.sysmOpen with
  | ok sysm =>
    have good : JniSysm.Sound ⟨sysm, machine.errbuf, List.replicate jsysmFieldsMax none, 0, none⟩ :=
      ⟨List.length_replicate, fun _ => sysmOpen_used opens⟩
    refine .next ⟨sound.opened good (fresh_slot _ _ _) obj, ?_⟩
    rw [sound.opened_object]
    rfl
  | error status =>
    have failed := machine.sysmOpen_status opens
    have good : JniSysm.Sound ⟨machine.memory, machine.errbuf, List.replicate jsysmFieldsMax none, status, none⟩ :=
      ⟨List.length_replicate, fun ok => absurd ok failed⟩
    have between := sound.opened good (fresh_slot _ _ _) obj
    have atHandle := read_alloc_new jvm.handles
      (⟨machine.memory, machine.errbuf, List.replicate jsysmFieldsMax none, status, none⟩ : JniSysm)
    have here : Function.update jvm.wrapper obj jvm.handles.length obj = jvm.handles.length := Function.update_self ..
    dsimp only
    rcases between.throwAndReturn_spec env atHandle status with
      ⟨silent, fault⟩ | ⟨thrown, errbuf, jvm', notImpl, made, threw, updates⟩
    · dsimp only at silent
      rw [silent, fault]
      exact .stuck
    · have shows := updates.shows_at between here (Nat.ne_of_gt sound.reserved)
      rw [JniSysm.object, if_neg failed, sound.opened_object, Function.update_idem] at shows
      dsimp only at made
      rw [made, threw]
      exact .next shows

theorem held_nodup (sound : jvm.Sound) (atHandle : read jvm.handles pointer = some old) :
    (old.notImpl.toList ++ old.fields.reduceOption).Nodup := by
  have apart {k k' : Option Nat} {ref : Nat} (first : old.slot k = some ref) (second : old.slot k' = some ref) : k = k' :=
    (sound.owns.once ⟨old, atHandle, first⟩ ⟨old, atHandle, second⟩).2
  have place {ref : Nat} (member : ref ∈ old.fields.reduceOption) : ∃ index, old.slot (some index) = some ref := by
    obtain ⟨index, found⟩ := List.mem_iff_getElem?.mp (List.reduceOption_mem_iff.mp member)
    exact ⟨index, by rw [JniSysm.slot, found]; rfl⟩
  refine List.nodup_append.mpr ⟨?_, ?_, ?_⟩
  · cases old.notImpl with
    | none => exact List.nodup_nil
    | some ref => exact List.nodup_singleton ref
  · refine List.pairwise_filterMap.mpr (List.pairwise_iff_getElem.mpr fun i j boundI boundJ less => ?_)
    intro ref first ref' second same
    subst same
    have inFirst : old.slot (some i) = some ref := by
      rw [JniSysm.slot, List.getElem?_eq_getElem boundI]
      exact first
    have inSecond : old.slot (some j) = some ref := by
      rw [JniSysm.slot, List.getElem?_eq_getElem boundJ]
      exact second
    have equal := Option.some.inj (apart inFirst inSecond)
    omega
  · intro ref inException ref' inFields same
    subst same
    obtain ⟨index, found⟩ := place inFields
    have exception : old.slot none = some ref := Option.mem_toList.mp inException
    cases apart exception found

theorem mem_held {ref : Nat} : ref ∈ old.notImpl.toList ++ old.fields.reduceOption ↔ ∃ k, old.slot k = some ref := by
  rw [List.mem_append, Option.mem_toList, List.reduceOption_mem_iff, List.mem_iff_getElem?]
  constructor
  · rintro (exception | ⟨index, found⟩)
    · exact ⟨none, exception⟩
    · exact ⟨some index, by rw [JniSysm.slot, found]; rfl⟩
  · rintro ⟨k, inSlot⟩
    cases k with
    | none => exact Or.inl inSlot
    | some index => exact Or.inr ⟨index, Option.join_eq_some_iff.mp inSlot⟩

/-- What a handle holds can be given back, and nothing else is touched. -/
theorem Sound.release_spec (sound : jvm.Sound) (nonzero : jvm.wrapper obj ≠ 0)
    (atHandle : read jvm.handles (jvm.wrapper obj) = some old) : ∃ globals,
      freeAll jvm.globals (old.notImpl.toList ++ old.fields.reduceOption) = some globals ∧
      Shows ⟨free jvm.handles (jvm.wrapper obj), globals, Function.update jvm.wrapper obj 0⟩
        (Function.update jvm.object obj .closed) := by
  have live : ∀ ref ∈ old.notImpl.toList ++ old.fields.reduceOption, read jvm.globals ref ≠ none := by
    intro ref member
    obtain ⟨k, inSlot⟩ := mem_held.mp member
    exact sound.owns.allocated ⟨old, atHandle, inSlot⟩
  obtain ⟨globals, freed, gone, kept⟩ := freeAll_spec (held_nodup sound atHandle) live
  have owns : Owns JniSysm.slot (free jvm.handles (jvm.wrapper obj)) globals :=
    sound.owns.release atHandle (fun ref held => gone ref (mem_held.mpr held))
      fun ref outside => kept ref fun member => by
        obtain ⟨k, inSlot⟩ := mem_held.mp member
        exact outside k inSlot
  refine ⟨globals, freed, sound.closed nonzero atHandle owns, ?_⟩
  funext other
  by_cases mine : other = obj
  · subst mine
    rw [Function.update_self, Jvm.object]
    dsimp only
    rw [Function.update_self, read_free_other nonzero.symm, sound.null]
    rfl
  · rw [Function.update_of_ne mine, Jvm.object]
    dsimp only
    rw [Function.update_of_ne mine]
    have different : jvm.wrapper other ≠ jvm.wrapper obj := by
      intro same
      exact mine (sound.apart obj other nonzero same.symm).symm
    rw [read_free_other different]
    rfl

theorem Sound.nativeClose_agree (sound : jvm.Sound) :
    Agree Shows (nativeClose env jvm obj) (objectsStep env jvm.object (obj, .nativeClose)) := by
  refine sound.dSysm_agree (by simp) fun jsysm nonzero atHandle ok => ?_
  obtain ⟨closed, closes, _⟩ := ((sound.handles _ _ atHandle).used ok).close
  obtain ⟨globals, freed, shows⟩ := sound.release_spec nonzero atHandle
  simp only [objectsStep, object_of_read atHandle, object_opened ok, SysmObject.step, atHandle, closes, freed,
    Option.bind_eq_bind, Option.bind_some, Option.pure_def, Option.map_some]
  exact .next shows

end Jvm

theorem nativeStep_agree {env : JniEnv} {jvm : Jvm} {objects : Nat → SysmObject} (input : Nat × NativeCall)
    (shows : jvm.Shows objects) : Agree Jvm.Shows (nativeStep env jvm input) (objectsStep env objects input) := by
  obtain ⟨sound, rfl⟩ := shows
  obtain ⟨obj, call⟩ := input
  cases call with
  | nativeOpen machine => exact sound.nativeOpen_agree machine
  | nativeClose => exact sound.nativeClose_agree
  | gather fields call => exact sound.gather_agree fields call
  | cpuPercentage prev curr => exact sound.cpuPercentageGather_agree prev curr
  | netStat args => exact sound.netStatStat_agree args

/-- Any calls of native methods, on any objects and in any order, are answered
as by objects that have no pointers, and leave these objects: no handle and no
global reference is used after it has gone, or given back twice. -/
theorem nativeStep_refines (env : JniEnv) (calls : List (Nat × NativeCall)) :
    (run (nativeStep env) Jvm.start calls).map (fun result => (result.1, result.2.object)) =
      run (objectsStep env) (fun _ => .closed) calls ∧
    ∀ answers jvm, run (nativeStep env) Jvm.start calls = some (answers, jvm) → jvm.Sound := by
  have start : Jvm.start.Shows fun _ => .closed := ⟨Jvm.start_sound, rfl⟩
  have agree := run_agree (fun _ _ input shows => @nativeStep_agree env _ _ input shows) calls start
  cases ran : run (nativeStep env) Jvm.start calls with
  | none =>
    rw [ran] at agree
    exact ⟨agree.stuck_left.symm, by simp⟩
  | some result =>
    obtain ⟨answers, jvm⟩ := result
    rw [ran] at agree
    obtain ⟨objects, same, sound, rfl⟩ := agree.next_left
    refine ⟨same.symm, fun _ _ given => ?_⟩
    cases given
    exact sound

end Sysm
