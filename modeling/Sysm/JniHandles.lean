import Sysm.Jni

namespace Sysm
open CString LinkedHeap

/-- What an object of `Sysm` is to Java: closed, or one that could not be
opened, or the library. For the library it is known whether the fields of
`Cpu` have been looked up. -/
inductive SysmObject where
  | closed
  | failed (status : Int) (errbuf : Text)
  | opened (sysm : SysmT) (errbuf : Text) (cpuKnown : Bool)

def JniSysm.object (jsysm : JniSysm) : SysmObject :=
  if jsysm.openStatus = 0 then
    .opened jsysm.sysm jsysm.errbuf (jsysm.fields[JsysmFields.cpu.index]?.join).isSome
  else .failed jsysm.openStatus jsysm.errbuf

def Jvm.object (jvm : Jvm) (obj : Nat) : SysmObject :=
  ((read jvm.handles (jvm.wrapper obj)).map JniSysm.object).getD .closed

/-- The exception that an error is turned into, and what `errbuf` holds then. -/
def errorThrown (env : JniEnv) (errbuf : Text) (err : Int) : Option (Throwable × Text) :=
  if err = sysmEnotimpl then some (notImplInstance, errbuf)
  else (env.throwNew (errorClass err) (sysmStrerror env.strerrorR errbuf err).1).map fun thrown =>
    (thrown, (sysmStrerror env.strerrorR errbuf err).2)

/-- The places of a handle for global references: that of the exception, and
those of the beans. -/
def JniSysm.slot (jsysm : JniSysm) : Option Nat → Option Nat
  | none => jsysm.notImpl
  | some index => jsysm.fields[index]?.join

structure JniSysm.Sound (jsysm : JniSysm) : Prop where
  sized : jsysm.fields.length = jsysmFieldsMax
  used : jsysm.openStatus = 0 → jsysm.sysm.TablesUsed

/-- No object points to a block that has been freed, and no two to the same. A
global reference that has not been deleted is in one place of one handle. -/
structure Jvm.Sound (jvm : Jvm) : Prop where
  reserved : 0 < jvm.handles.length
  null : read jvm.handles 0 = none
  pointed : ∀ obj, jvm.wrapper obj ≠ 0 → ∃ jsysm, read jvm.handles (jvm.wrapper obj) = some jsysm
  apart : ∀ obj obj', jvm.wrapper obj ≠ 0 → jvm.wrapper obj = jvm.wrapper obj' → obj = obj'
  handles : ∀ pointer jsysm, read jvm.handles pointer = some jsysm → jsysm.Sound
  owns : Owns JniSysm.slot jvm.handles jvm.globals

theorem Jvm.start_sound : Jvm.start.Sound where
  reserved := by decide
  null := rfl
  pointed obj nonzero := absurd rfl nonzero
  apart obj obj' nonzero := absurd rfl nonzero
  handles pointer jsysm atHandle := by
    have bound := read_lt atHandle
    have first : pointer = 0 := by simpa [Jvm.start] using bound
    subst first
    cases atHandle
  owns := by
    refine ⟨?_, ?_, ?_⟩
    · rintro pointer k ref ⟨jsysm, atHandle, _⟩
      have first : pointer = 0 := by simpa [Jvm.start] using read_lt atHandle
      subst first
      cases atHandle
    · rintro pointer k pointer' k' ref ⟨jsysm, atHandle, _⟩
      have first : pointer = 0 := by simpa [Jvm.start] using read_lt atHandle
      subst first
      cases atHandle
    · intro ref live
      exact absurd rfl live

theorem JsysmFields.index_lt (bean : JsysmFields) : bean.index < jsysmFieldsMax := by
  cases bean <;> decide

theorem JsysmFields.index_inj {bean bean' : JsysmFields} (same : bean.index = bean'.index) : bean = bean' := by
  have back := congrArg JsysmFields.ofNat same
  rwa [JsysmFields.index, JsysmFields.index, JsysmFields.ofNat_ctorIdx, JsysmFields.ofNat_ctorIdx] at back

namespace Jvm

/-- Of the blocks only that at the pointer has changed, and it is this now. -/
structure Updates (jvm jvm' : Jvm) (pointer : Nat) (jsysm : JniSysm) : Prop where
  sound : jvm'.Sound
  wrapper : jvm'.wrapper = jvm.wrapper
  here : read jvm'.handles pointer = some jsysm
  others : ∀ other, other ≠ pointer → read jvm'.handles other = read jvm.handles other

variable {jvm jvm' jvm'' : Jvm} {pointer obj : Nat} {old new : JniSysm}

theorem Updates.refl (sound : jvm.Sound) (atHandle : read jvm.handles pointer = some old) :
    jvm.Updates jvm pointer old := ⟨sound, rfl, atHandle, fun _ _ => rfl⟩

theorem Updates.trans {jsysm jsysm' : JniSysm} (first : jvm.Updates jvm' pointer jsysm)
    (second : jvm'.Updates jvm'' pointer jsysm') : jvm.Updates jvm'' pointer jsysm' where
  sound := second.sound
  wrapper := second.wrapper.trans first.wrapper
  here := second.here
  others other different := (second.others other different).trans (first.others other different)

namespace Sound

theorem pointer_ne_zero (sound : jvm.Sound) (atHandle : read jvm.handles pointer = some old) : pointer ≠ 0 := by
  rintro rfl
  rw [sound.null] at atHandle
  cases atHandle

/-- A write into a handle, where the references are in order afterwards. -/
theorem written (sound : jvm.Sound) (atHandle : read jvm.handles pointer = some old) (good : new.Sound)
    {globals : Heap GlobalRef} (owns : Owns JniSysm.slot (LinkedHeap.write jvm.handles pointer new) globals) :
    jvm.Updates ⟨LinkedHeap.write jvm.handles pointer new, globals, jvm.wrapper⟩ pointer new where
  sound := by
    refine ⟨?_, ?_, ?_, sound.apart, ?_, owns⟩
    · simpa using sound.reserved
    · rw [read_write_other new (sound.pointer_ne_zero atHandle).symm]
      exact sound.null
    · intro obj nonzero
      by_cases here : jvm.wrapper obj = pointer
      · exact ⟨new, by rw [here, read_write_self new atHandle]⟩
      · obtain ⟨jsysm, there⟩ := sound.pointed obj nonzero
        exact ⟨jsysm, (read_write_other new here).trans there⟩
    · intro other jsysm there
      by_cases here : other = pointer
      · subst here
        rw [read_write_self new atHandle] at there
        cases there
        exact good
      · rw [read_write_other new here] at there
        exact sound.handles other jsysm there
  wrapper := rfl
  here := read_write_self new atHandle
  others other different := read_write_other new different

theorem write (sound : jvm.Sound) (atHandle : read jvm.handles pointer = some old) (good : new.Sound)
    (same : ∀ k, new.slot k = old.slot k) : jvm.Updates (jvm.write pointer new) pointer new :=
  sound.written atHandle good (sound.owns.write atHandle same)

/-- A new global reference is made for an empty place of the handle. -/
theorem acquire (sound : jvm.Sound) (atHandle : read jvm.handles pointer = some old) (good : new.Sound)
    {k : Option Nat} (empty : old.slot k = none) (inSlot : new.slot k = some jvm.globals.length)
    (others : ∀ k', k' ≠ k → new.slot k' = old.slot k') (ref : GlobalRef) :
    jvm.Updates { jvm.write pointer new with globals := alloc jvm.globals ref } pointer new :=
  sound.written atHandle good (sound.owns.acquire atHandle empty inSlot others ref)

/-- A new block is given to an object. -/
theorem opened (sound : jvm.Sound) (good : new.Sound) (empty : ∀ k, new.slot k = none) (obj : Nat) :
    Sound ⟨alloc jvm.handles new, jvm.globals, Function.update jvm.wrapper obj jvm.handles.length⟩ where
  reserved := by simp
  null := by
    rw [read_alloc_lt new sound.reserved]
    exact sound.null
  pointed other nonzero := by
    dsimp only at nonzero ⊢
    by_cases mine : other = obj
    · subst mine
      exact ⟨new, by rw [Function.update_self, read_alloc_new]⟩
    · rw [Function.update_of_ne mine] at nonzero ⊢
      obtain ⟨jsysm, there⟩ := sound.pointed other nonzero
      exact ⟨jsysm, read_alloc_old new there⟩
  apart first second nonzero same := by
    dsimp only at nonzero same
    by_cases mine : first = obj
    · by_cases mine' : second = obj
      · rw [mine, mine']
      · rw [mine, Function.update_self, Function.update_of_ne mine'] at same
        have nonzero' : jvm.wrapper second ≠ 0 := by
          have bound := sound.reserved
          omega
        obtain ⟨jsysm, there⟩ := sound.pointed second nonzero'
        have bound := read_lt there
        omega
    · by_cases mine' : second = obj
      · rw [mine', Function.update_self, Function.update_of_ne mine] at same
        rw [Function.update_of_ne mine] at nonzero
        obtain ⟨jsysm, there⟩ := sound.pointed first nonzero
        have bound := read_lt there
        omega
      · rw [Function.update_of_ne mine] at nonzero same
        rw [Function.update_of_ne mine'] at same
        exact sound.apart first second nonzero same
  handles other jsysm there := by
    have bound := read_lt there
    by_cases last : other = jvm.handles.length
    · subst last
      rw [read_alloc_new] at there
      cases there
      exact good
    · simp only [length_alloc] at bound
      rw [read_alloc_lt new (by omega)] at there
      exact sound.handles other jsysm there
  owns := sound.owns.alloc empty

/-- The handle of an object is freed, and its references are deleted. -/
theorem closed (sound : jvm.Sound) (nonzero : jvm.wrapper obj ≠ 0)
    (atHandle : read jvm.handles (jvm.wrapper obj) = some old) {globals : Heap GlobalRef}
    (owns : Owns JniSysm.slot (free jvm.handles (jvm.wrapper obj)) globals) :
    Sound ⟨free jvm.handles (jvm.wrapper obj), globals, Function.update jvm.wrapper obj 0⟩ where
  reserved := by simpa using sound.reserved
  null := by
    rw [read_free_other nonzero.symm]
    exact sound.null
  pointed other nonzero' := by
    dsimp only at nonzero' ⊢
    by_cases mine : other = obj
    · subst mine
      rw [Function.update_self] at nonzero'
      exact absurd rfl nonzero'
    · rw [Function.update_of_ne mine] at nonzero' ⊢
      have different : jvm.wrapper other ≠ jvm.wrapper obj := fun same => mine (sound.apart other obj nonzero' same)
      rw [read_free_other different]
      exact sound.pointed other nonzero'
  apart first second nonzero' same := by
    dsimp only at nonzero' same
    by_cases mine : first = obj
    · rw [mine, Function.update_self] at nonzero'
      exact absurd rfl nonzero'
    · rw [Function.update_of_ne mine] at nonzero' same
      by_cases mine' : second = obj
      · rw [mine', Function.update_self] at same
        exact absurd same nonzero'
      · rw [Function.update_of_ne mine'] at same
        exact sound.apart first second nonzero' same
  handles other jsysm there := by
    by_cases here : other = jvm.wrapper obj
    · subst here
      rw [read_free_self] at there
      cases there
    · rw [read_free_other here] at there
      exact sound.handles other jsysm there
  owns := owns

end Sound

/-- A change of the handle of an object is seen in that object alone. -/
theorem Updates.object (updates : jvm.Updates jvm' (jvm.wrapper obj) new) (sound : jvm.Sound)
    (nonzero : jvm.wrapper obj ≠ 0) : jvm'.object = Function.update jvm.object obj new.object := by
  funext other
  by_cases mine : other = obj
  · subst mine
    rw [Function.update_self, Jvm.object, updates.wrapper, updates.here]
    rfl
  · have different : jvm.wrapper other ≠ jvm.wrapper obj := by
      intro same
      exact mine (sound.apart obj other nonzero same.symm).symm
    rw [Function.update_of_ne mine, Jvm.object, updates.wrapper, updates.others _ different]
    rfl

theorem object_of_read (atHandle : read jvm.handles (jvm.wrapper obj) = some old) : jvm.object obj = old.object := by
  rw [Jvm.object, atHandle]
  rfl

theorem Sound.object_of_null (sound : jvm.Sound) (zero : jvm.wrapper obj = 0) : jvm.object obj = .closed := by
  rw [Jvm.object, zero, sound.null]
  rfl

/-- The library throws one exception for an error, whether it is the first
time or not, or it does not return. -/
theorem Sound.sysmThrowError_spec (env : JniEnv) (sound : jvm.Sound) (atHandle : read jvm.handles pointer = some old) (err : Int) :
    (errorThrown env old.errbuf err = none ∧ sysmThrowError env jvm pointer err = none) ∨
    ∃ thrown errbuf jvm' notImpl, errorThrown env old.errbuf err = some (thrown, errbuf) ∧
      sysmThrowError env jvm pointer err = some (thrown, jvm') ∧
      jvm.Updates jvm' pointer { old with errbuf, notImpl } := by
  have good := sound.handles pointer old atHandle
  by_cases notimpl : err = sysmEnotimpl
  · refine Or.inr ⟨notImplInstance, old.errbuf, ?_⟩
    cases cached : old.notImpl with
    | none =>
      refine ⟨{ jvm.write pointer { old with notImpl := some jvm.globals.length } with
        globals := alloc jvm.globals .notImpl }, some jvm.globals.length, if_pos notimpl, ?_, ?_⟩
      · simp only [sysmThrowError, atHandle, if_pos notimpl, cached, Option.bind_eq_bind, Option.bind_some, Option.pure_def]
      · have kept : JniSysm.Sound { old with notImpl := some jvm.globals.length } := ⟨good.sized, good.used⟩
        refine sound.acquire (k := none) atHandle kept cached rfl ?_ .notImpl
        intro k different
        cases k with
        | none => exact absurd rfl different
        | some index => rfl
    | some ref =>
      have holds : Holds JniSysm.slot jvm.handles pointer none ref := ⟨old, atHandle, cached⟩
      obtain ⟨found, live⟩ := Option.ne_none_iff_exists'.mp (sound.owns.allocated holds)
      refine ⟨jvm, some ref, if_pos notimpl, ?_, ?_⟩
      · simp only [sysmThrowError, atHandle, if_pos notimpl, cached, live, Option.bind_eq_bind, Option.bind_some,
          Option.pure_def]
      · rw [← cached]
        exact .refl sound atHandle
  · rw [errorThrown, if_neg notimpl]
    simp only [sysmThrowError, atHandle, if_neg notimpl, Option.bind_eq_bind, Option.bind_some, Option.pure_def]
    cases env.throwNew (errorClass err) (sysmStrerror env.strerrorR old.errbuf err).1 with
    | none => exact Or.inl ⟨rfl, rfl⟩
    | some thrown =>
      refine Or.inr ⟨thrown, _, _, old.notImpl, rfl, rfl, ?_⟩
      refine sound.write atHandle ⟨good.sized, good.used⟩ fun k => ?_
      cases k with
      | none => rfl
      | some index => rfl

/-- Once the fields of a bean have been looked up, they are there. -/
theorem Sound.initFields_spec (sound : jvm.Sound) (atHandle : read jvm.handles pointer = some old) (bean : JsysmFields) :
    ∃ jvm' fields, initFields jvm pointer bean = some jvm' ∧ jvm.Updates jvm' pointer { old with fields } ∧
      ∀ other : JsysmFields, (fields[other.index]?.join).isSome =
        (decide (other = bean) || (old.fields[other.index]?.join).isSome) := by
  have good := sound.handles pointer old atHandle
  have bound : bean.index < old.fields.length := by
    rw [good.sized]
    exact bean.index_lt
  have inside := List.getElem?_eq_getElem bound
  cases known : old.fields[bean.index] with
  | some ref =>
    refine ⟨jvm, old.fields, ?_, .refl sound atHandle, fun other => ?_⟩
    · simp only [initFields, atHandle, inside, known, Option.bind_eq_bind, Option.bind_some, Option.pure_def]
    · by_cases same : other = bean
      · subst same
        simp [known, bound]
      · simp [same]
  | none =>
    refine ⟨{ jvm.write pointer { old with fields := old.fields.set bean.index (some jvm.globals.length) } with
      globals := alloc jvm.globals (.beanClass bean) }, old.fields.set bean.index (some jvm.globals.length),
      ?_, ?_, fun other => ?_⟩
    · simp only [initFields, atHandle, inside, known, Option.bind_eq_bind, Option.bind_some, Option.pure_def]
    · have kept : JniSysm.Sound { old with fields := old.fields.set bean.index (some jvm.globals.length) } :=
        ⟨by simpa using good.sized, good.used⟩
      refine sound.acquire (k := some bean.index) atHandle kept ?_ ?_ ?_ (.beanClass bean)
      · simp only [JniSysm.slot, inside, known, Option.join_some]
      · simp [JniSysm.slot, bound]
      · intro k different
        cases k with
        | none => rfl
        | some index =>
          have apart : bean.index ≠ index := fun same => different (congrArg some same.symm)
          simp [JniSysm.slot, apart]
    · by_cases same : other = bean
      · subst same
        simp [bound]
      · have apart : bean.index ≠ other.index := fun equal => same (JsysmFields.index_inj equal).symm
        simp [same, apart]

theorem useFields_eq (atHandle : read jvm.handles pointer = some old) (bean : JsysmFields) :
    useFields jvm pointer bean = old.fields[bean.index]?.join := by
  simp only [useFields, atHandle, Option.bind_eq_bind, Option.bind_some]

/-- The macros of a bean one after the other. -/
theorem Sound.setFields_spec (sound : jvm.Sound) (atHandle : read jvm.handles pointer = some old) (bean : JsysmFields) :
    ∃ jvm' fields ref, initFields jvm pointer bean = some jvm' ∧ useFields jvm' pointer bean = some ref ∧
      jvm.Updates jvm' pointer { old with fields } ∧ (fields[JsysmFields.cpu.index]?.join).isSome =
        (decide (bean = .cpu) || (old.fields[JsysmFields.cpu.index]?.join).isSome) := by
  obtain ⟨jvm', fields, done, updates, known⟩ := sound.initFields_spec atHandle bean
  have here : (fields[bean.index]?.join).isSome = true := by
    rw [known bean]
    simp
  obtain ⟨ref, found⟩ := Option.isSome_iff_exists.mp here
  refine ⟨jvm', fields, ref, done, ?_, updates, ?_⟩
  · rw [useFields_eq updates.here]
    exact found
  · rw [known .cpu]
    simp only [eq_comm]

end Jvm

end Sysm
