import Sysm.JniBlocks
import Sysm.SysmJava

namespace Sysm
open CString LinkedHeap Machine

/-- The library as it is to the user of the class `Sysm`. -/
structure OpenLibrary where
  sysm : SysmT
  errbuf : Text
  lastCpu : Option SysmCpu
  lastCpuList : Option (List SysmCpu)

/-- The class `Sysm` to its user. There are no handles, no field caches and no
global references here. -/
inductive SysmService where
  | absent
  | failed (status : Int) (errbuf : Text)
  | opened (library : OpenLibrary)
  | closed

/-- The percentage since a sample, and the sample for the next call. -/
def percentageFrom (sysm : SysmT) (lastCpu : Option SysmCpu) (oldCpu : SysmCpu) (second : FileRead) :
    Option (Except Int (Option SysmCpuPrec) × Option SysmCpu) := do
  match ← sysmCpuGet sysm second with
  | .error status => return (.error status, lastCpu)
  | .ok newCpu => return (.ok (sysmCpuPercCal oldCpu newCpu), some newCpu)

/-- The percentage of the processor from the sample of the last call, or from
one that is taken first. -/
def getCpuPercentage (sysm : SysmT) (lastCpu : Option SysmCpu) (first second : FileRead) :
    Option (Except Int (Option SysmCpuPrec) × Option SysmCpu) := do
  let oldCpu ← match lastCpu with
    | none => sysmCpuGet sysm first
    | some lastCpu => some (.ok lastCpu)
  match oldCpu with
  | .error status => return (.error status, lastCpu)
  | .ok oldCpu => percentageFrom sysm lastCpu oldCpu second

/-- What `getCpuPercentages` does from the list that it starts with. -/
def percentagesFrom (java : JavaSysm) (cpuid : UInt32 → SysmCpuid) (oldCpuList : List SysmCpu) (second : CpuListRead) :
    Option (Except Int (List (Option SysmCpuPrec)) × JavaSysm) := do
  let (lastCpuList, native) ← getCpus java.native cpuid second
  match lastCpuList with
  | .error status => return (.error status, { java with native })
  | .ok lastCpuList => return (.ok (List.zipWith sysmCpuPercCal oldCpuList lastCpuList), ⟨native, some lastCpuList⟩)

section Service

variable (env : JniEnv)

/-- A method that throws for an error. -/
def OpenLibrary.throwing (library : OpenLibrary) (err : Int) : Option (JavaResult × SysmService) :=
  (errorThrown env library.errbuf err).map fun (thrown, errbuf) =>
    (.native (.thrown thrown), .opened { library with errbuf })

def OpenLibrary.percentage (library : OpenLibrary) (result : Except Int (Option SysmCpuPrec) × Option SysmCpu) :
    Option (JavaResult × SysmService) :=
  match result.1 with
  | .error status => OpenLibrary.throwing env library status
  | .ok perc => some (.native (.percentage perc), .opened { library with lastCpu := result.2 })

def OpenLibrary.percentages (library : OpenLibrary)
    (result : Except Int (List (Option SysmCpuPrec)) × JavaSysm) : Option (JavaResult × SysmService) :=
  let library := { library with sysm := result.2.native }
  match result.1 with
  | .error status => OpenLibrary.throwing env library status
  | .ok perc => some (.percentages perc, .opened { library with lastCpuList := result.2.lastCpuList })

def OpenLibrary.step (library : OpenLibrary) : JavaCall → Option (JavaResult × SysmService)
  | .getInstance _ => some (.object, .opened library)
  | .close => some (.done, .closed)
  | .fetch _ call => do
    let (reply, sysm) ← sysmStep library.sysm call
    if reply.status ≠ 0 then OpenLibrary.throwing env { library with sysm } reply.status
    else return (.native (.reply reply), .opened { library with sysm })
  | .getNetStat args => do
    let ((status, netStat), sysm) ← args.call library.sysm
    if status ≠ 0 then OpenLibrary.throwing env { library with sysm } args.flags.toInt
    else
      return (.native (.netStat netStat.tcpInboundTotal netStat.tcpOutboundTotal netStat.allInboundTotal
        netStat.allOutboundTotal), .opened { library with sysm })
  | .getCpuPercentage first second => do
    let result ← getCpuPercentage library.sysm library.lastCpu first second
    library.percentage env result
  | .getCpuPercentages machine first second _ => do
    let result ← getCpuPercentages ⟨library.sysm, library.lastCpuList⟩ machine.cpuid first second
    library.percentages env result

/-- An object that could not be opened is kept if its constructor catches the
exception. -/
def serviceStep (service : SysmService) (call : JavaCall) : Option (JavaResult × SysmService) :=
  match service, call with
  | .absent, .getInstance machine =>
    match machine.sysmOpen with
    | .ok sysm => some (.object, .opened ⟨sysm, machine.errbuf, none, none⟩)
    | .error status =>
      (errorThrown env machine.errbuf status).map fun (thrown, errbuf) =>
        if env.isSysmException thrown.className then (.object, .failed status errbuf)
        else (.native (.thrown thrown), .absent)
  | .absent, _ => some (.noObject, .absent)
  | .opened library, call => library.step env call
  | service, .getInstance _ => some (.object, service)
  | service, .close => some (.done, service)
  | .failed status errbuf, _ =>
    (errorThrown env errbuf status).map fun (thrown, errbuf) => (.native (.thrown thrown), .failed status errbuf)
  | .closed, _ => (sysmThrowException env (ofString "sysm has been closed")).map fun thrown => (.native (.thrown thrown), .closed)

/-- An error that no one catches loses the object that has been made. -/
def SysmService.loses : SysmService → JavaResult → Bool
  | .absent, .native _ => true
  | _, _ => false

/-- The service, with whether an object has been lost. -/
def watchedStep (watched : SysmService × Bool) (call : JavaCall) : Option (JavaResult × (SysmService × Bool)) :=
  (serviceStep env watched.1 call).map fun (answer, service) => (answer, service, watched.2 || watched.1.loses answer)

end Service

/-- The object that is in use, or is made next, and the others: none is made
later, and `lost` says whether one of them has kept a block. No block is lost to
all of them. -/
structure Jvm.Only (jvm : Jvm) (lost : Bool) (obj : Nat) (object : SysmObject) : Prop where
  sound : jvm.Sound
  here : jvm.object obj = object
  unmade : ∀ other, obj < other → jvm.object other = .closed
  others : lost = true ↔ ∃ other, other ≠ obj ∧ jvm.object other ≠ .closed
  kept : jvm.Kept

/-- The class with its handle does the service. The fields of `Cpu` have been
looked up wherever there is a sample of an earlier call. -/
def SysmClass.Serves (lost : Bool) (java : SysmClass) : SysmService → Prop
  | .absent => java.singleton = none ∧ java.jvm.Only lost java.made .closed
  | .failed status errbuf => ∃ obj, java.singleton = some ⟨obj, false, none, none⟩ ∧
      java.jvm.Only lost obj (.failed status errbuf)
  | .opened library => ∃ obj cpuKnown, java.singleton = some ⟨obj, true, library.lastCpu, library.lastCpuList⟩ ∧
      java.jvm.Only lost obj (.opened library.sysm library.errbuf cpuKnown) ∧
      (library.lastCpu ≠ none ∨ library.lastCpuList ≠ none → cpuKnown = true)
  | .closed => ∃ obj lastCpu lastCpuList, java.singleton = some ⟨obj, false, lastCpu, lastCpuList⟩ ∧
      java.jvm.Only lost obj .closed

section Opened

variable (env : JniEnv) {sysm sysm' : SysmT} (errbuf : Text) (cpuKnown : Bool)

theorem step_netStat {args : NetStatArgs} {status : Int} {netStat : SysmNetStat}
    (called : args.call sysm = some ((status, netStat), sysm')) :
    (SysmObject.opened sysm errbuf cpuKnown).step env (.netStat args) =
      if status ≠ 0 then SysmObject.throwing env sysm' errbuf cpuKnown args.flags.toInt
      else some (.netStat netStat.tcpInboundTotal netStat.tcpOutboundTotal netStat.allInboundTotal netStat.allOutboundTotal,
        .opened sysm' errbuf cpuKnown) := by
  simp only [SysmObject.step, called, Option.bind_eq_bind, Option.bind_some, Option.pure_def]

theorem step_netStat_none {args : NetStatArgs} (faults : args.call sysm = none) :
    (SysmObject.opened sysm errbuf cpuKnown).step env (.netStat args) = none := by
  simp only [SysmObject.step, faults, Option.bind_eq_bind, Option.bind_none]

end Opened

section Steps

variable (env : JniEnv) {jvm : Jvm} {lost : Bool} {obj made : Nat}

theorem Jvm.Only.fresh {object : SysmObject} {call : NativeCall} (only : jvm.Only lost obj object)
    (fresh : (∀ machine, call ≠ .nativeOpen machine) ∨ object = .closed) :
    (∀ machine, call ≠ .nativeOpen machine) ∨ jvm.wrapper obj = 0 := by
  rcases fresh with later | rfl
  · exact Or.inl later
  · refine Or.inr ?_
    by_contra nonzero
    obtain ⟨jsysm, atHandle⟩ := only.sound.pointed obj nonzero
    have shown := Jvm.object_of_read atHandle
    rw [only.here, JniSysm.object] at shown
    by_cases ok : jsysm.openStatus = 0
    · rw [if_pos ok] at shown
      cases shown
    · rw [if_neg ok] at shown
      cases shown

/-- A native method of the object leaves the others as they are. -/
theorem nativeStep_only {object : SysmObject} {call : NativeCall} (only : jvm.Only lost obj object)
    (fresh : (∀ machine, call ≠ .nativeOpen machine) ∨ object = .closed) :
    Agree (Jvm.Only · lost obj ·) (nativeStep env jvm (obj, call)) (object.step env call) := by
  have agree := @nativeStep_agree env _ _ (obj, call) ⟨only.sound, rfl⟩
  simp only [objectsStep, only.here] at agree
  cases ran : nativeStep env jvm (obj, call) with
  | none =>
    rw [ran] at agree
    cases stepped : object.step env call with
    | none => exact .stuck
    | some next =>
      rw [stepped] at agree
      cases agree
  | some next =>
    obtain ⟨result, jvm'⟩ := next
    rw [ran] at agree
    obtain ⟨objects, stepped, sound, same⟩ := agree.next_left
    obtain ⟨⟨answer, object'⟩, whole, equal⟩ := Option.map_eq_some_iff.mp stepped
    cases equal
    have apart (other : Nat) (different : other ≠ obj) : jvm'.object other = jvm.object other := by
      rw [same, Function.update_of_ne different]
    rw [whole]
    refine .next ⟨sound, by rw [same, Function.update_self], fun other behind => ?_, only.others.trans ?_,
      nativeStep_kept only.kept only.sound (only.fresh fresh) ran⟩
    · rw [apart other (Nat.ne_of_gt behind), only.unmade other behind]
    · exact exists_congr fun other => and_congr_right fun different => by rw [apart other different]

theorem nativeStep_some {object object' : SysmObject} {call : NativeCall} {result : NativeResult} (only : jvm.Only lost obj object)
    (fresh : (∀ machine, call ≠ .nativeOpen machine) ∨ object = .closed)
    (stepped : object.step env call = some (result, object')) :
    ∃ jvm', nativeStep env jvm (obj, call) = some (result, jvm') ∧ jvm'.Only lost obj object' := by
  have agree := nativeStep_only env only fresh
  rw [stepped] at agree
  generalize nativeStep env jvm (obj, call) = result at agree
  cases agree with
  | next only => exact ⟨_, rfl, only⟩

theorem nativeStep_none {object : SysmObject} {call : NativeCall} (only : jvm.Only lost obj object)
    (fresh : (∀ machine, call ≠ .nativeOpen machine) ∨ object = .closed)
    (stepped : object.step env call = none) : nativeStep env jvm (obj, call) = none := by
  have agree := nativeStep_only env only fresh
  rw [stepped] at agree
  generalize nativeStep env jvm (obj, call) = result at agree
  cases agree
  rfl

theorem sysmCpuGet_error {sysm : SysmT} {stat : FileRead} {status : Int}
    (failed : sysmCpuGet sysm stat = some (.error status)) : status ≠ 0 := by
  cases stat with
  | missing =>
    cases failed
    decide
  | failed errno real =>
    cases failed
    exact real
  | bytes content =>
    by_cases fits : content.length < BUFSIZ
    · simp [sysmCpuGet, sysmFile2str, fits] at failed
    · simp [sysmCpuGet, sysmFile2str, fits] at failed

theorem sysmCpuListGet_error {sysm sysm' : SysmT} {cpuid : UInt32 → SysmCpuid} {read : CpuListRead} {status : Int}
    (real : read.stat ≠ .error 0)
    (failed : sysmCpuListGet sysm cpuid read.memory read.stat = some (.error status, sysm')) : status ≠ 0 := by
  rintro rfl
  cases file : read.stat with
  | error errno =>
    simp only [sysmCpuListGet, file, Option.some.injEq, Prod.mk.injEq, Except.error.injEq] at failed
    exact real (by rw [file, failed.1])
  | ok stream =>
    simp only [sysmCpuListGet, file] at failed
    obtain ⟨cpuList, _, failed⟩ := Option.bind_eq_some_iff.mp failed
    by_cases empty : cpuList.number = 0
    · rw [if_pos empty] at failed
      obtain ⟨cpuTotal, _, failed⟩ := Option.bind_eq_some_iff.mp failed
      obtain ⟨written, _, failed⟩ := Option.bind_eq_some_iff.mp failed
      cases failed
    · rw [if_neg empty] at failed
      cases failed

variable {sysm : SysmT} {errbuf : Text} {cpuKnown : Bool}

/-- A native method that gathers a bean, when the library faults, when it fails
and nothing comes to be thrown, when that is thrown, and when the library answers. -/
theorem nativeGather_cases (only : jvm.Only lost obj (.opened sysm errbuf cpuKnown)) (fields : Option JsysmFields)
    (call : SysmCall) :
    (sysmStep sysm call = none ∧ nativeStep env jvm (obj, .gather fields call) = none) ∨
    (∃ reply sysm', sysmStep sysm call = some (reply, sysm') ∧ reply.status ≠ 0 ∧
      errorThrown env errbuf reply.status = none ∧ nativeStep env jvm (obj, .gather fields call) = none) ∨
    (∃ reply sysm' thrown errbuf' jvm', sysmStep sysm call = some (reply, sysm') ∧ reply.status ≠ 0 ∧
      errorThrown env errbuf reply.status = some (thrown, errbuf') ∧
      nativeStep env jvm (obj, .gather fields call) = some (.thrown thrown, jvm') ∧
      jvm'.Only lost obj (.opened sysm' errbuf' cpuKnown)) ∨
    ∃ reply sysm' jvm', sysmStep sysm call = some (reply, sysm') ∧ reply.status = 0 ∧
      nativeStep env jvm (obj, .gather fields call) = some (.reply reply, jvm') ∧
      jvm'.Only lost obj (.opened sysm' errbuf (decide (fields = some .cpu) || cpuKnown)) := by
  cases called : sysmStep sysm call with
  | none =>
    have stepped : (SysmObject.opened sysm errbuf cpuKnown).step env (.gather fields call) = none := by
      simp only [SysmObject.step, called, Option.bind_eq_bind, Option.bind_none]
    exact Or.inl ⟨rfl, nativeStep_none env only (Or.inl (by simp)) stepped⟩
  | some result =>
    obtain ⟨reply, sysm'⟩ := result
    by_cases fine : reply.status = 0
    · have stepped : (SysmObject.opened sysm errbuf cpuKnown).step env (.gather fields call) =
          some (.reply reply, .opened sysm' errbuf (decide (fields = some .cpu) || cpuKnown)) := by
        simp only [SysmObject.step, called, Option.bind_eq_bind, Option.bind_some, fine, ne_eq, not_true_eq_false, if_false,
          Option.pure_def]
      obtain ⟨jvm', ran, only'⟩ := nativeStep_some env only (Or.inl (by simp)) stepped
      exact Or.inr (Or.inr (Or.inr ⟨reply, sysm', jvm', rfl, fine, ran, only'⟩))
    · have stepped : (SysmObject.opened sysm errbuf cpuKnown).step env (.gather fields call) =
          SysmObject.throwing env sysm' errbuf cpuKnown reply.status := by
        simp only [SysmObject.step, called, Option.bind_eq_bind, Option.bind_some, if_pos fine]
      rw [SysmObject.throwing] at stepped
      cases made : errorThrown env errbuf reply.status with
      | none =>
        rw [made, Option.map_none] at stepped
        exact Or.inr (Or.inl ⟨reply, sysm', rfl, fine, made, nativeStep_none env only (Or.inl (by simp)) stepped⟩)
      | some found =>
        rw [made, Option.map_some] at stepped
        obtain ⟨jvm', ran, only'⟩ := nativeStep_some env only (Or.inl (by simp)) stepped
        exact Or.inr (Or.inr (Or.inl ⟨reply, sysm', found.1, found.2, jvm', rfl, fine, made, ran, only'⟩))

/-- `getCpu` of an open library. -/
theorem javaGetCpu_cases (only : jvm.Only lost obj (.opened sysm errbuf cpuKnown)) (stat : FileRead) :
    (sysmCpuGet sysm stat = none ∧ javaGetCpu env obj jvm stat = none) ∨
    (∃ status, sysmCpuGet sysm stat = some (.error status) ∧ errorThrown env errbuf status = none ∧
      javaGetCpu env obj jvm stat = none) ∨
    (∃ status thrown errbuf' jvm', sysmCpuGet sysm stat = some (.error status) ∧
      errorThrown env errbuf status = some (thrown, errbuf') ∧
      javaGetCpu env obj jvm stat = some (.error thrown, jvm') ∧
      jvm'.Only lost obj (.opened sysm errbuf' cpuKnown)) ∨
    ∃ cpu jvm', sysmCpuGet sysm stat = some (.ok cpu) ∧ javaGetCpu env obj jvm stat = some (.ok cpu, jvm') ∧
      jvm'.Only lost obj (.opened sysm errbuf true) := by
  have step : sysmStep sysm (.cpu stat) = (sysmCpuGet sysm stat).map fun result => (.cpu result, sysm) := by
    simp only [sysmStep, Option.map_map, Function.comp_def]
  rw [javaGetCpu, NativeCall.cpuGather]
  rcases nativeGather_cases env only (some .cpu) (.cpu stat) with
    ⟨faults, ran⟩ | ⟨reply, sysm', called, failed, silent, ran⟩ |
    ⟨reply, sysm', thrown, errbuf', jvm', called, failed, made, ran, only'⟩ | ⟨reply, sysm', jvm', called, fine, ran, only'⟩
  · rw [step, Option.map_eq_none_iff] at faults
    exact Or.inl ⟨faults, by rw [ran]; rfl⟩
  · obtain ⟨result, got, same⟩ := Option.map_eq_some_iff.mp (step.symm.trans called)
    cases same
    cases result with
    | ok cpu => exact absurd rfl failed
    | error status => exact Or.inr (Or.inl ⟨status, got, silent, by rw [ran]; rfl⟩)
  · obtain ⟨result, got, same⟩ := Option.map_eq_some_iff.mp (step.symm.trans called)
    cases same
    cases result with
    | ok cpu => exact absurd rfl failed
    | error status => exact Or.inr (Or.inr (Or.inl ⟨status, thrown, errbuf', jvm', got, made, by rw [ran]; rfl, only'⟩))
  · obtain ⟨result, got, same⟩ := Option.map_eq_some_iff.mp (step.symm.trans called)
    cases same
    cases result with
    | ok cpu => exact Or.inr (Or.inr (Or.inr ⟨cpu, jvm', got, by rw [ran]; rfl, only'⟩))
    | error status => exact absurd fine (sysmCpuGet_error got)

/-- `getCpus` of an open library. -/
theorem javaGetCpus_cases (only : jvm.Only lost obj (.opened sysm errbuf cpuKnown)) (machine : CpuMachine)
    {read : CpuListRead} (real : read.stat ≠ .error 0) :
    (getCpus sysm machine.cpuid read = none ∧ javaGetCpus env obj jvm machine read = none) ∨
    (∃ status sysm', getCpus sysm machine.cpuid read = some (.error status, sysm') ∧
      errorThrown env errbuf status = none ∧ javaGetCpus env obj jvm machine read = none) ∨
    (∃ status thrown errbuf' sysm' jvm', getCpus sysm machine.cpuid read = some (.error status, sysm') ∧
      errorThrown env errbuf status = some (thrown, errbuf') ∧
      javaGetCpus env obj jvm machine read = some (.error thrown, jvm') ∧
      jvm'.Only lost obj (.opened sysm' errbuf' cpuKnown)) ∨
    ∃ cpus sysm' jvm', getCpus sysm machine.cpuid read = some (.ok cpus, sysm') ∧
      javaGetCpus env obj jvm machine read = some (.ok cpus, jvm') ∧
      jvm'.Only lost obj (.opened sysm' errbuf true) := by
  have step : sysmStep sysm (.cpus { machine with stat := read.stat } (.list read.memory)) =
      (sysmCpuListGet sysm machine.cpuid read.memory read.stat).map fun result =>
        (.cpus (.list result.1, some (sysmCpuCoreRollup sysm machine.cpuid).1), result.2) := by
    simp only [sysmStep, foldStep, FoldCall.result, FoldCall.decision, Option.map_map, Function.comp_def]
  rw [javaGetCpus, NativeCall.getCpusNative, getCpus]
  rcases nativeGather_cases env only (some .cpu) (.cpus { machine with stat := read.stat } (.list read.memory)) with
    ⟨faults, ran⟩ | ⟨reply, sysm', called, failed, silent, ran⟩ |
    ⟨reply, sysm', thrown, errbuf', jvm', called, failed, made, ran, only'⟩ | ⟨reply, sysm', jvm', called, fine, ran, only'⟩
  · rw [step, Option.map_eq_none_iff] at faults
    exact Or.inl ⟨by rw [faults]; rfl, by rw [ran]; rfl⟩
  · obtain ⟨⟨result, next⟩, got, same⟩ := Option.map_eq_some_iff.mp (step.symm.trans called)
    cases same
    cases result with
    | ok cpuList => exact absurd rfl failed
    | error status => exact Or.inr (Or.inl ⟨status, next, by rw [got]; rfl, silent, by rw [ran]; rfl⟩)
  · obtain ⟨⟨result, next⟩, got, same⟩ := Option.map_eq_some_iff.mp (step.symm.trans called)
    cases same
    cases result with
    | ok cpuList => exact absurd rfl failed
    | error status =>
      exact Or.inr (Or.inr (Or.inl ⟨status, thrown, errbuf', next, jvm', by rw [got]; rfl, made, by rw [ran]; rfl, only'⟩))
  · obtain ⟨⟨result, next⟩, got, same⟩ := Option.map_eq_some_iff.mp (step.symm.trans called)
    cases same
    cases result with
    | ok cpuList =>
      exact Or.inr (Or.inr (Or.inr ⟨cpuList.items, next, jvm', by rw [got]; rfl, by rw [ran]; rfl, only'⟩))
    | error status => exact absurd fine (sysmCpuListGet_error real got)

theorem cpuPercentage_known (only : jvm.Only lost obj (.opened sysm errbuf true)) (prev curr : SysmCpu) :
    ∃ jvm', nativeStep env jvm (obj, .cpuPercentage prev curr) = some (.percentage (sysmCpuPercCal prev curr), jvm') ∧
      jvm'.Only lost obj (.opened sysm errbuf true) :=
  nativeStep_some env only (Or.inl (by simp)) (by simp only [SysmObject.step, if_true])

theorem javaFetchAll_known (only : jvm.Only lost obj (.opened sysm errbuf true)) (pairs : List (SysmCpu × SysmCpu)) :
    ∃ jvm', javaFetchAll env obj jvm pairs =
        some (.ok (pairs.map fun pair => sysmCpuPercCal pair.1 pair.2), jvm') ∧
      jvm'.Only lost obj (.opened sysm errbuf true) := by
  induction pairs generalizing jvm with
  | nil => exact ⟨jvm, rfl, only⟩
  | cons pair pairs ih =>
    obtain ⟨oldCpu, lastCpu⟩ := pair
    obtain ⟨between, first, only⟩ := cpuPercentage_known env only oldCpu lastCpu
    obtain ⟨jvm', later, only⟩ := ih only
    refine ⟨jvm', ?_, only⟩
    simp only [javaFetchAll, first, later, Option.bind_eq_bind, Option.bind_some, Option.pure_def, List.map_cons]
    rfl

theorem javaNative_some {object object' : SysmObject} {call : NativeCall} {result : NativeResult} (java : SysmJava)
    (only : jvm.Only lost java.object object) (later : ∀ machine, call ≠ .nativeOpen machine)
    (stepped : object.step env call = some (result, object')) :
    ∃ jvm', javaNative env java made jvm call = some (.native result, ⟨some java, made, jvm'⟩) ∧
      jvm'.Only lost java.object object' := by
  obtain ⟨jvm', ran, only⟩ := nativeStep_some env only (Or.inl later) stepped
  exact ⟨jvm', by rw [javaNative, ran]; rfl, only⟩

theorem javaNative_none {object : SysmObject} {call : NativeCall} (java : SysmJava)
    (only : jvm.Only lost java.object object) (later : ∀ machine, call ≠ .nativeOpen machine)
    (stepped : object.step env call = none) : javaNative env java made jvm call = none := by
  rw [javaNative, nativeStep_none env only (Or.inl later) stepped]
  rfl

/-- A native method of the open library that throws, or does not come to it. -/
theorem javaNative_throws {library : OpenLibrary} {call : NativeCall} {sysm' : SysmT} {err : Int}
    (only : jvm.Only lost obj (.opened library.sysm library.errbuf cpuKnown))
    (known : library.lastCpu ≠ none ∨ library.lastCpuList ≠ none → cpuKnown = true)
    (later : ∀ machine, call ≠ .nativeOpen machine)
    (stepped : (SysmObject.opened library.sysm library.errbuf cpuKnown).step env call =
      SysmObject.throwing env sysm' library.errbuf cpuKnown err) :
    Agree (SysmClass.Serves lost) (javaNative env ⟨obj, true, library.lastCpu, library.lastCpuList⟩ made jvm call)
      (OpenLibrary.throwing env { library with sysm := sysm' } err) := by
  rw [OpenLibrary.throwing]
  rw [SysmObject.throwing] at stepped
  cases thrown : errorThrown env library.errbuf err with
  | none =>
    rw [thrown, Option.map_none] at stepped
    rw [javaNative_none env _ only later stepped]
    exact .stuck
  | some found =>
    rw [thrown, Option.map_some] at stepped
    obtain ⟨jvm', ran, only'⟩ :=
      javaNative_some env ⟨obj, true, library.lastCpu, library.lastCpuList⟩ only later stepped
    rw [ran]
    exact .next ⟨obj, cpuKnown, rfl, only', known⟩

variable {library : OpenLibrary}

/-- A method of the open library that gathers a bean. -/
theorem fetch_agree (only : jvm.Only lost obj (.opened library.sysm library.errbuf cpuKnown))
    (known : library.lastCpu ≠ none ∨ library.lastCpuList ≠ none → cpuKnown = true) (fields : Option JsysmFields)
    (call : SysmCall) :
    Agree (SysmClass.Serves lost)
      (javaNative env ⟨obj, true, library.lastCpu, library.lastCpuList⟩ made jvm (.gather fields call))
      (library.step env (.fetch fields call)) := by
  simp only [OpenLibrary.step, javaNative, Option.bind_eq_bind, Option.pure_def]
  rcases nativeGather_cases env only fields call with
    ⟨faults, ran⟩ | ⟨reply, sysm', called, failed, silent, ran⟩ |
    ⟨reply, sysm', thrown, errbuf', jvm', called, failed, made, ran, only'⟩ | ⟨reply, sysm', jvm', called, fine, ran, only'⟩
  · rw [faults, ran]
    exact .stuck
  · rw [called, ran]
    simp only [Option.bind_some, Option.bind_none, if_pos failed, OpenLibrary.throwing, silent, Option.map_none]
    exact .stuck
  · rw [called, ran]
    simp only [Option.bind_some, if_pos failed, OpenLibrary.throwing, made, Option.map_some]
    exact .next ⟨obj, cpuKnown, rfl, only', known⟩
  · rw [called, ran]
    simp only [Option.bind_some, if_neg (not_not.mpr fine)]
    exact .next ⟨obj, _, rfl, only', fun samples => by rw [known samples, Bool.or_true]⟩

theorem getNetStat_agree (only : jvm.Only lost obj (.opened library.sysm library.errbuf cpuKnown))
    (known : library.lastCpu ≠ none ∨ library.lastCpuList ≠ none → cpuKnown = true) (args : NetStatArgs) :
    Agree (SysmClass.Serves lost)
      (javaNative env ⟨obj, true, library.lastCpu, library.lastCpuList⟩ made jvm (.netStat args))
      (library.step env (.getNetStat args)) := by
  simp only [OpenLibrary.step, Option.bind_eq_bind]
  cases called : args.call library.sysm with
  | none =>
    rw [javaNative_none env _ only (by simp) (step_netStat_none env library.errbuf cpuKnown called)]
    exact .stuck
  | some result =>
    obtain ⟨⟨status, netStat⟩, sysm'⟩ := result
    have stepped := step_netStat env library.errbuf cpuKnown called
    by_cases fine : status = 0
    · rw [if_neg (not_not.mpr fine)] at stepped
      obtain ⟨jvm', ran, only'⟩ := javaNative_some env ⟨obj, true, library.lastCpu, library.lastCpuList⟩ only (by simp) stepped
      rw [ran]
      simp only [Option.bind_some, fine, ne_eq, not_true_eq_false, if_false, Option.pure_def]
      exact .next ⟨obj, cpuKnown, rfl, only', known⟩
    · rw [if_pos fine] at stepped
      simp only [Option.bind_some, ne_eq, fine, not_false_eq_true, if_true]
      exact javaNative_throws env only known (by simp) stepped

/-- The second half of `getCpuPercentage`, from a sample of any time. -/
theorem percentageFrom_agree (only : jvm.Only lost obj (.opened library.sysm library.errbuf true)) (oldCpu : SysmCpu)
    (second : FileRead) :
    Agree (SysmClass.Serves lost)
      (javaPercentageFrom env ⟨obj, true, library.lastCpu, library.lastCpuList⟩ made jvm oldCpu second)
      ((percentageFrom library.sysm library.lastCpu oldCpu second).bind fun result => library.percentage env result) := by
  simp only [javaPercentageFrom, percentageFrom, Option.bind_eq_bind, Option.pure_def]
  rcases javaGetCpu_cases env only second with
    ⟨got, faults⟩ | ⟨status, got, silent, faults⟩ | ⟨status, thrown, errbuf', jvm', got, made, ran, only'⟩ |
    ⟨newCpu, jvm', got, ran, only'⟩
  · rw [got, faults]
    exact .stuck
  · rw [got, faults]
    simp only [Option.bind_some, Option.bind_none, OpenLibrary.percentage, OpenLibrary.throwing, silent, Option.map_none]
    exact .stuck
  · rw [got, ran]
    simp only [Option.bind_some, OpenLibrary.percentage, OpenLibrary.throwing, made, Option.map_some]
    exact .next ⟨obj, true, rfl, only', fun _ => rfl⟩
  · obtain ⟨jvm'', perc, only''⟩ := cpuPercentage_known env only' oldCpu newCpu
    rw [got, ran]
    dsimp only [Option.bind_some]
    rw [perc]
    exact .next ⟨obj, true, rfl, only'', fun _ => rfl⟩

theorem getCpuPercentage_agree (only : jvm.Only lost obj (.opened library.sysm library.errbuf cpuKnown))
    (known : library.lastCpu ≠ none ∨ library.lastCpuList ≠ none → cpuKnown = true) (first second : FileRead) :
    Agree (SysmClass.Serves lost)
      (javaGetCpuPercentage env ⟨obj, true, library.lastCpu, library.lastCpuList⟩ made jvm first second)
      (library.step env (.getCpuPercentage first second)) := by
  simp only [OpenLibrary.step, Option.bind_eq_bind]
  cases sample : library.lastCpu with
  | some oldCpu =>
    rw [known (Or.inl (by simp [sample]))] at only
    have agree := @percentageFrom_agree env jvm lost obj made library only oldCpu second
    rw [sample] at agree
    exact agree
  | none =>
    simp only [javaGetCpuPercentage, getCpuPercentage, Option.bind_eq_bind, Option.pure_def]
    rcases javaGetCpu_cases env only first with
      ⟨got, faults⟩ | ⟨status, got, silent, faults⟩ | ⟨status, thrown, errbuf', jvm', got, made, ran, only'⟩ |
      ⟨oldCpu, jvm', got, ran, only'⟩
    · rw [got, faults]
      exact .stuck
    · rw [got, faults]
      simp only [Option.bind_some, Option.bind_none, OpenLibrary.percentage, OpenLibrary.throwing, silent, Option.map_none]
      exact .stuck
    · rw [got, ran]
      simp only [Option.bind_some, OpenLibrary.percentage, OpenLibrary.throwing, made, Option.map_some]
      refine .next ⟨obj, cpuKnown, ?_, only', known⟩
      rw [sample]
    · rw [got, ran]
      have agree := @percentageFrom_agree env jvm' lost obj made library only' oldCpu second
      rw [sample] at agree
      exact agree

/-- The second half of `getCpuPercentages`, from a list of any time. -/
theorem percentagesFrom_agree (only : jvm.Only lost obj (.opened sysm library.errbuf true)) (machine : CpuMachine)
    (oldCpuList : List SysmCpu) (second : CpuListRead) (real : second.stat ≠ .error 0) :
    Agree (SysmClass.Serves lost)
      (javaPercentagesFrom env ⟨obj, true, library.lastCpu, library.lastCpuList⟩ made jvm machine oldCpuList second)
      ((percentagesFrom ⟨sysm, library.lastCpuList⟩ machine.cpuid oldCpuList second).bind fun result =>
        library.percentages env result) := by
  simp only [javaPercentagesFrom, percentagesFrom, Option.bind_eq_bind, Option.pure_def]
  rcases javaGetCpus_cases env only machine real with
    ⟨got, faults⟩ | ⟨status, sysm', got, silent, faults⟩ |
    ⟨status, thrown, errbuf', sysm', jvm', got, made, ran, only'⟩ | ⟨newCpus, sysm', jvm', got, ran, only'⟩
  · rw [got, faults]
    exact .stuck
  · rw [got, faults]
    simp only [Option.bind_some, Option.bind_none, OpenLibrary.percentages, OpenLibrary.throwing, silent, Option.map_none]
    exact .stuck
  · rw [got, ran]
    simp only [Option.bind_some, OpenLibrary.percentages, OpenLibrary.throwing, made, Option.map_some]
    exact .next ⟨obj, true, rfl, only', fun _ => rfl⟩
  · obtain ⟨jvm'', fetched, only''⟩ := javaFetchAll_known env only' (oldCpuList.zip newCpus)
    rw [got, ran]
    dsimp only [Option.bind_some]
    rw [fetched]
    have zipped : (oldCpuList.zip newCpus).map (fun pair => sysmCpuPercCal pair.1 pair.2) =
        List.zipWith sysmCpuPercCal oldCpuList newCpus := List.map_zip_eq_zipWith ..
    rw [zipped]
    exact .next ⟨obj, true, rfl, only'', fun _ => rfl⟩

theorem getCpuPercentages_agree (only : jvm.Only lost obj (.opened library.sysm library.errbuf cpuKnown))
    (known : library.lastCpu ≠ none ∨ library.lastCpuList ≠ none → cpuKnown = true) (machine : CpuMachine)
    (first second : CpuListRead) (real : first.stat ≠ .error 0 ∧ second.stat ≠ .error 0) :
    Agree (SysmClass.Serves lost)
      (javaGetCpuPercentages env ⟨obj, true, library.lastCpu, library.lastCpuList⟩ made jvm machine first second)
      (library.step env (.getCpuPercentages machine first second real)) := by
  simp only [OpenLibrary.step, Option.bind_eq_bind]
  cases samples : library.lastCpuList with
  | some oldCpuList =>
    rw [known (Or.inr (by simp [samples]))] at only
    have agree :=
      @percentagesFrom_agree env jvm lost obj made library.sysm library only machine oldCpuList second real.2
    rw [samples] at agree
    exact agree
  | none =>
    simp only [javaGetCpuPercentages, getCpuPercentages, Option.bind_eq_bind, Option.pure_def]
    rcases javaGetCpus_cases env only machine real.1 with
      ⟨got, faults⟩ | ⟨status, sysm', got, silent, faults⟩ |
      ⟨status, thrown, errbuf', sysm', jvm', got, made, ran, only'⟩ | ⟨oldCpus, sysm', jvm', got, ran, only'⟩
    · rw [got, faults]
      exact .stuck
    · rw [got, faults]
      simp only [Option.bind_some, Option.bind_none, OpenLibrary.percentages, OpenLibrary.throwing, silent, Option.map_none]
      exact .stuck
    · rw [got, ran]
      simp only [Option.bind_some, OpenLibrary.percentages, OpenLibrary.throwing, made, Option.map_some]
      refine .next ⟨obj, cpuKnown, ?_, only', known⟩
      rw [samples]
    · rw [got, ran]
      have agree :=
        @percentagesFrom_agree env jvm' lost obj made sysm' library only' machine oldCpus second real.2
      rw [samples] at agree
      exact agree

theorem javaClose_agree (only : jvm.Only lost obj (.opened library.sysm library.errbuf cpuKnown)) :
    Agree (SysmClass.Serves lost) (javaClose env ⟨obj, true, library.lastCpu, library.lastCpuList⟩ made jvm)
      (some (JavaResult.done, SysmService.closed)) := by
  have stepped : (SysmObject.opened library.sysm library.errbuf cpuKnown).step env .nativeClose =
      some (.status 0, .closed) := rfl
  obtain ⟨jvm', ran, only'⟩ := nativeStep_some env only (Or.inl (by simp)) stepped
  simp only [javaClose, if_true, ran, Option.bind_eq_bind, Option.bind_some, Option.pure_def]
  exact .next ⟨obj, library.lastCpu, library.lastCpuList, rfl, only'⟩

/-- The next object is one that has not been made. -/
theorem Jvm.Only.lose {object : SysmObject} (only : jvm.Only lost obj object) (other : object ≠ .closed) :
    jvm.Only true (obj + 1) .closed where
  sound := only.sound
  here := only.unmade (obj + 1) (Nat.lt_succ_self obj)
  unmade later behind := only.unmade later (Nat.lt_of_succ_lt behind)
  others := iff_of_true rfl ⟨obj, Nat.ne_of_lt (Nat.lt_succ_self obj), by rwa [only.here]⟩
  kept := only.kept

theorem javaGetInstance_agree (only : jvm.Only lost made .closed) (machine : OpenMachine) :
    Agree (fun java watched => java.Serves watched.2 watched.1) (javaGetInstance env ⟨none, made, jvm⟩ machine)
      (watchedStep env (.absent, lost) (.getInstance machine)) := by
  have kept : (lost || SysmService.loses .absent .object) = lost := Bool.or_false lost
  simp only [javaGetInstance, watchedStep, serviceStep, Option.bind_eq_bind, Option.pure_def]
  cases opens : machine.sysmOpen with
  | ok sysm =>
    have stepped : SysmObject.closed.step env (.nativeOpen machine) = some (.done, .opened sysm machine.errbuf false) := by
      simp only [SysmObject.step, OpenMachine.object, opens]
    obtain ⟨jvm', ran, only'⟩ := nativeStep_some env only (Or.inr rfl) stepped
    rw [ran]
    refine .next ⟨made, false, rfl, ?_, by simp⟩
    dsimp only
    rwa [kept]
  | error status =>
    have stepped : SysmObject.closed.step env (.nativeOpen machine) =
        (errorThrown env machine.errbuf status).map fun (thrown, errbuf) => (.thrown thrown, .failed status errbuf) := by
      simp only [SysmObject.step, OpenMachine.object, opens]
    dsimp only
    cases thrown : errorThrown env machine.errbuf status with
    | none =>
      rw [thrown, Option.map_none] at stepped
      rw [nativeStep_none env only (Or.inr rfl) stepped]
      exact .stuck
    | some found =>
      obtain ⟨exception, errbuf'⟩ := found
      rw [thrown, Option.map_some] at stepped
      obtain ⟨jvm', ran, only'⟩ := nativeStep_some env only (Or.inr rfl) stepped
      rw [ran]
      simp only [Option.bind_some, Option.map_some]
      by_cases caught : env.isSysmException exception.className
      · rw [if_pos caught, if_pos caught]
        refine .next ⟨made, rfl, ?_⟩
        dsimp only
        rwa [kept]
      · rw [if_neg caught, if_neg caught]
        refine .next ⟨rfl, ?_⟩
        rw [SysmService.loses, Bool.or_true]
        exact only'.lose SysmObject.noConfusion

/-- Whether or not there are samples of earlier calls, a method begins with one
of the native methods, and ends there if this throws. -/
theorem javaStep_begins (java : SysmJava) (made : Nat) (jvm : Jvm) (call : JavaCall) :
    (∃ machine, call = .getInstance machine) ∨ call = .close ∨
    ∃ native : NativeCall, (∀ machine, native ≠ .nativeOpen machine) ∧
      (nativeStep env jvm (java.object, native) = none → javaStep env ⟨some java, made, jvm⟩ call = none) ∧
      ∀ exception jvm', nativeStep env jvm (java.object, native) = some (.thrown exception, jvm') →
        javaStep env ⟨some java, made, jvm⟩ call = some (.native (.thrown exception), ⟨some java, made, jvm'⟩) := by
  cases call with
  | getInstance machine => exact Or.inl ⟨machine, rfl⟩
  | close => exact Or.inr (Or.inl rfl)
  | fetch fields call =>
    refine Or.inr (Or.inr ⟨.gather fields call, by simp, fun faults => ?_, fun exception jvm' ran => ?_⟩)
    · simp only [javaStep, javaNative, faults, Option.bind_eq_bind, Option.bind_none]
    · simp only [javaStep, javaNative, ran, Option.bind_eq_bind, Option.bind_some, Option.pure_def]
  | getNetStat args =>
    refine Or.inr (Or.inr ⟨.netStat args, by simp, fun faults => ?_, fun exception jvm' ran => ?_⟩)
    · simp only [javaStep, javaNative, faults, Option.bind_eq_bind, Option.bind_none]
    · simp only [javaStep, javaNative, ran, Option.bind_eq_bind, Option.bind_some, Option.pure_def]
  | getCpuPercentage first second =>
    cases sample : java.lastCpu with
    | none =>
      refine Or.inr (Or.inr ⟨.cpuGather first, by simp [NativeCall.cpuGather], fun faults => ?_, fun exception jvm' ran => ?_⟩)
      · simp only [javaStep, javaGetCpuPercentage, sample, javaGetCpu, faults, Option.bind_eq_bind, Option.bind_none]
      · simp only [javaStep, javaGetCpuPercentage, sample, javaGetCpu, ran, Option.bind_eq_bind, Option.bind_some,
          Option.pure_def]
    | some lastCpu =>
      refine Or.inr (Or.inr ⟨.cpuGather second, by simp [NativeCall.cpuGather], fun faults => ?_, fun exception jvm' ran => ?_⟩)
      · simp only [javaStep, javaGetCpuPercentage, sample, javaPercentageFrom, javaGetCpu, faults, Option.bind_eq_bind,
          Option.bind_some, Option.bind_none]
      · simp only [javaStep, javaGetCpuPercentage, sample, javaPercentageFrom, javaGetCpu, ran, Option.bind_eq_bind,
          Option.bind_some, Option.pure_def]
  | getCpuPercentages machine first second real =>
    cases samples : java.lastCpuList with
    | none =>
      refine Or.inr (Or.inr ⟨.getCpusNative { machine with stat := first.stat } first.memory,
        by simp [NativeCall.getCpusNative], fun faults => ?_, fun exception jvm' ran => ?_⟩)
      · simp only [javaStep, javaGetCpuPercentages, samples, javaGetCpus, faults, Option.bind_eq_bind, Option.bind_none]
      · simp only [javaStep, javaGetCpuPercentages, samples, javaGetCpus, ran, Option.bind_eq_bind, Option.bind_some,
          Option.pure_def]
    | some lastCpuList =>
      refine Or.inr (Or.inr ⟨.getCpusNative { machine with stat := second.stat } second.memory,
        by simp [NativeCall.getCpusNative], fun faults => ?_, fun exception jvm' ran => ?_⟩)
      · simp only [javaStep, javaGetCpuPercentages, samples, javaPercentagesFrom, javaGetCpus, faults, Option.bind_eq_bind,
          Option.bind_some, Option.bind_none]
      · simp only [javaStep, javaGetCpuPercentages, samples, javaPercentagesFrom, javaGetCpus, ran, Option.bind_eq_bind,
          Option.bind_some, Option.pure_def]

/-- So an object without a library throws the same from all of them. -/
theorem javaStep_throws {object : SysmObject} {thrown : Option (Throwable × SysmObject)} (java : SysmJava)
    (only : jvm.Only lost java.object object) (throws : ∀ call : NativeCall, (∀ machine, call ≠ .nativeOpen machine) →
      object.step env call = thrown.map fun (exception, object) => (.thrown exception, object)) (call : JavaCall) :
    (∃ machine, call = .getInstance machine) ∨ call = .close ∨
    (thrown = none ∧ javaStep env ⟨some java, made, jvm⟩ call = none) ∨
    ∃ exception object' jvm', thrown = some (exception, object') ∧
      javaStep env ⟨some java, made, jvm⟩ call = some (.native (.thrown exception), ⟨some java, made, jvm'⟩) ∧
      jvm'.Only lost java.object object' := by
  rcases javaStep_begins env java made jvm call with opens | closes | ⟨native, later, faults, ends⟩
  · exact Or.inl opens
  · exact Or.inr (Or.inl closes)
  · have stepped := throws native later
    cases thrown with
    | none => exact Or.inr (Or.inr (Or.inl ⟨rfl, faults (nativeStep_none env only (Or.inl later) stepped)⟩))
    | some found =>
      obtain ⟨exception, object'⟩ := found
      obtain ⟨jvm', ran, only'⟩ := nativeStep_some env only (Or.inl later) stepped
      exact Or.inr (Or.inr (Or.inr ⟨exception, object', jvm', rfl, ends exception jvm' ran, only'⟩))

/-- Only a class without an object can lose one. -/
theorem watchedStep_kept {service : SysmService} (here : service ≠ .absent) (call : JavaCall) :
    watchedStep env (service, lost) call =
      (serviceStep env service call).map fun (answer, service) => (answer, service, lost) := by
  have never (answer : JavaResult) : service.loses answer = false := by
    cases service with
    | absent => exact absurd rfl here
    | failed | opened | closed => rfl
  simp only [watchedStep, never, Bool.or_false]

theorem Agree.watched {service : SysmService} (here : service ≠ .absent) {call : JavaCall}
    {result : Option (JavaResult × SysmClass)} (agree : Agree (SysmClass.Serves lost) result (serviceStep env service call)) :
    Agree (fun java watched => java.Serves watched.2 watched.1) result (watchedStep env (service, lost) call) := by
  rw [watchedStep_kept env here]
  generalize serviceStep env service call = served at agree
  cases agree with
  | stuck => exact .stuck
  | next serves => exact .next serves

theorem javaStep_failed {status : Int} {errbuf : Text} (only : jvm.Only lost obj (.failed status errbuf)) (call : JavaCall) :
    Agree (SysmClass.Serves lost) (javaStep env ⟨some ⟨obj, false, none, none⟩, made, jvm⟩ call)
      (serviceStep env (.failed status errbuf) call) := by
  have throws : ∀ native : NativeCall, (∀ machine, native ≠ .nativeOpen machine) →
      (SysmObject.failed status errbuf).step env native = ((errorThrown env errbuf status).map fun (thrown, errbuf) =>
        (thrown, SysmObject.failed status errbuf)).map fun (exception, object) => (.thrown exception, object) := by
    intro native later
    rw [Option.map_map]
    cases native with
    | nativeOpen machine => exact absurd rfl (later machine)
    | nativeClose | gather | cpuPercentage | netStat => rfl
  rcases javaStep_throws env ⟨obj, false, none, none⟩ only throws call with
    ⟨machine, rfl⟩ | rfl | ⟨silent, faults⟩ | ⟨exception, object', jvm', thrown, ran, only'⟩
  · exact .next ⟨obj, rfl, only⟩
  · exact .next ⟨obj, rfl, only⟩
  · rw [Option.map_eq_none_iff] at silent
    rw [faults]
    cases call with
    | getInstance | close => cases faults
    | fetch | getNetStat | getCpuPercentage | getCpuPercentages =>
      simp only [serviceStep, silent, Option.map_none]
      exact .stuck
  · obtain ⟨⟨_, errbuf'⟩, made, equal⟩ := Option.map_eq_some_iff.mp thrown
    cases equal
    rw [ran]
    cases call with
    | getInstance | close => cases ran
    | fetch | getNetStat | getCpuPercentage | getCpuPercentages =>
      simp only [serviceStep, made, Option.map_some]
      exact .next ⟨obj, rfl, only'⟩

theorem javaStep_closed {lastCpu : Option SysmCpu} {lastCpuList : Option (List SysmCpu)} (only : jvm.Only lost obj .closed)
    (call : JavaCall) :
    Agree (SysmClass.Serves lost) (javaStep env ⟨some ⟨obj, false, lastCpu, lastCpuList⟩, made, jvm⟩ call)
      (serviceStep env .closed call) := by
  have throws : ∀ native : NativeCall, (∀ machine, native ≠ .nativeOpen machine) →
      SysmObject.closed.step env native = ((sysmThrowException env (ofString "sysm has been closed")).map fun thrown =>
        (thrown, SysmObject.closed)).map fun (exception, object) => (.thrown exception, object) := by
    intro native later
    rw [Option.map_map]
    cases native with
    | nativeOpen machine => exact absurd rfl (later machine)
    | nativeClose | gather | cpuPercentage | netStat => rfl
  rcases javaStep_throws env ⟨obj, false, lastCpu, lastCpuList⟩ only throws call with
    ⟨machine, rfl⟩ | rfl | ⟨silent, faults⟩ | ⟨exception, object', jvm', thrown, ran, only'⟩
  · exact .next ⟨obj, lastCpu, lastCpuList, rfl, only⟩
  · exact .next ⟨obj, lastCpu, lastCpuList, rfl, only⟩
  · rw [Option.map_eq_none_iff] at silent
    rw [faults]
    cases call with
    | getInstance | close => cases faults
    | fetch | getNetStat | getCpuPercentage | getCpuPercentages =>
      simp only [serviceStep, silent, Option.map_none]
      exact .stuck
  · obtain ⟨_, made, equal⟩ := Option.map_eq_some_iff.mp thrown
    cases equal
    rw [ran]
    cases call with
    | getInstance | close => cases ran
    | fetch | getNetStat | getCpuPercentage | getCpuPercentages =>
      simp only [serviceStep, made, Option.map_some]
      exact .next ⟨obj, lastCpu, lastCpuList, rfl, only'⟩

theorem javaStep_opened {library : OpenLibrary} (only : jvm.Only lost obj (.opened library.sysm library.errbuf cpuKnown))
    (known : library.lastCpu ≠ none ∨ library.lastCpuList ≠ none → cpuKnown = true) (call : JavaCall) :
    Agree (SysmClass.Serves lost)
      (javaStep env ⟨some ⟨obj, true, library.lastCpu, library.lastCpuList⟩, made, jvm⟩ call) (library.step env call) := by
  cases call with
  | getInstance machine => exact .next ⟨obj, cpuKnown, rfl, only, known⟩
  | close => exact javaClose_agree env only
  | fetch fields call => exact fetch_agree env only known fields call
  | getNetStat args => exact getNetStat_agree env only known args
  | getCpuPercentage first second => exact getCpuPercentage_agree env only known first second
  | getCpuPercentages machine first second real =>
    exact getCpuPercentages_agree env only known machine first second real

theorem javaStep_agree {java : SysmClass} {service : SysmService} (serves : java.Serves lost service) (call : JavaCall) :
    Agree (fun java watched => java.Serves watched.2 watched.1) (javaStep env java call)
      (watchedStep env (service, lost) call) := by
  obtain ⟨singleton, made, jvm⟩ := java
  cases service with
  | absent =>
    obtain ⟨rfl, only⟩ := serves
    have kept : (lost || SysmService.loses .absent .noObject) = lost := Bool.or_false lost
    cases call with
    | getInstance machine => exact javaGetInstance_agree env only machine
    | close | fetch | getNetStat | getCpuPercentage | getCpuPercentages =>
      exact .next ⟨rfl, by rwa [kept]⟩
  | opened library =>
    obtain ⟨obj, cpuKnown, rfl, only, known⟩ := serves
    exact Agree.watched env SysmService.noConfusion (javaStep_opened env only known call)
  | failed status errbuf =>
    obtain ⟨obj, rfl, only⟩ := serves
    exact Agree.watched env SysmService.noConfusion (javaStep_failed env only call)
  | closed =>
    obtain ⟨obj, lastCpu, lastCpuList, rfl, only⟩ := serves
    exact Agree.watched env SysmService.noConfusion (javaStep_closed env only call)

end Steps

theorem Jvm.start_only : Jvm.start.Only false 0 .closed where
  sound := Jvm.start_sound
  here := rfl
  unmade _ _ := rfl
  others := iff_of_false Bool.false_ne_true fun ⟨_, _, kept⟩ => kept rfl
  kept pointer allocated := by
    obtain ⟨found, there⟩ := Option.ne_none_iff_exists'.mp allocated
    exact ⟨0, (Nat.lt_one_iff.mp (read_lt there)).symm⟩

theorem javaRun_agree (env : JniEnv) (calls : List JavaCall) :
    Agree (fun java watched => java.Serves watched.2 watched.1) (run (javaStep env) .start calls)
      (run (watchedStep env) (.absent, false) calls) :=
  run_agree (fun java watched input serves => @javaStep_agree env watched.2 java watched.1 serves input) calls
    ⟨rfl, Jvm.start_only⟩

theorem watchedRun_service (env : JniEnv) (watched : SysmService × Bool) (calls : List JavaCall) :
    (run (watchedStep env) watched calls).map (fun result => (result.1, result.2.1)) =
      run (serviceStep env) watched.1 calls := by
  refine run_project Prod.fst (fun watched call => ?_) watched calls
  simp only [watchedStep, Option.map_map, Function.comp_def, Option.map_id']

end Sysm
