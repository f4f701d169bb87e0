import Sysm.JniRefinement

namespace Sysm
open CString LinkedHeap Machine

/-- An object of `Sysm`, the wrapper of which is that of `object`. -/
structure SysmJava where
  object : Nat
  isOpen : Bool
  lastCpu : Option SysmCpu
  lastCpuList : Option (List SysmCpu)

/-- The class `Sysm`, whose native library has been loaded, with the number of
objects that it has made. -/
structure SysmClass where
  singleton : Option SysmJava
  made : Nat
  jvm : Jvm

def SysmClass.start : SysmClass := ⟨none, 0, .start⟩

/-- The calls of a program, with what they find. -/
inductive JavaCall where
  | getInstance (machine : OpenMachine)
  | close
  | fetch (fields : Option JsysmFields) (call : SysmCall)
  | getNetStat (args : NetStatArgs)
  | getCpuPercentage (first second : FileRead)
  | getCpuPercentages (machine : CpuMachine) (first second : CpuListRead)
      (real : first.stat ≠ .error 0 ∧ second.stat ≠ .error 0)

/-- What a call returns or throws. Without an object there is nothing to call. -/
inductive JavaResult where
  | noObject
  | object
  | done
  | native (result : NativeResult)
  | percentages (perc : List (Option SysmCpuPrec))

section Methods

variable (env : JniEnv)

/-- `getCpu`, with the bean or the exception that is thrown. -/
def javaGetCpu (obj : Nat) (jvm : Jvm) (stat : FileRead) : Option (Except Throwable SysmCpu × Jvm) := do
  let (result, jvm) ← nativeStep env jvm (obj, .cpuGather stat)
  match result with
  | .reply (.cpu (.ok cpu)) => return (.ok cpu, jvm)
  | .thrown exception => return (.error exception, jvm)
  | _ => none

/-- `getCpus` -/
def javaGetCpus (obj : Nat) (jvm : Jvm) (machine : CpuMachine) (read : CpuListRead) :
    Option (Except Throwable (List SysmCpu) × Jvm) := do
  let (result, jvm) ← nativeStep env jvm (obj, .getCpusNative { machine with stat := read.stat } read.memory)
  match result with
  | .reply (.cpus (.list (.ok list), _)) => return (.ok list.items, jvm)
  | .thrown exception => return (.error exception, jvm)
  | _ => none

/-- `getCpuPercentage` from the sample that it starts with -/
def javaPercentageFrom (java : SysmJava) (made : Nat) (jvm : Jvm) (oldCpu : SysmCpu) (second : FileRead) :
    Option (JavaResult × SysmClass) := do
  let (lastCpu, jvm) ← javaGetCpu env java.object jvm second
  match lastCpu with
  | .error exception => return (.native (.thrown exception), ⟨some java, made, jvm⟩)
  | .ok lastCpu =>
    let (result, jvm) ← nativeStep env jvm (java.object, .cpuPercentage oldCpu lastCpu)
    return (.native result, ⟨some { java with lastCpu := some lastCpu }, made, jvm⟩)

/-- `getCpuPercentage` of the object -/
def javaGetCpuPercentage (java : SysmJava) (made : Nat) (jvm : Jvm) (first second : FileRead) : Option (JavaResult × SysmClass) := do
  let (oldCpu, jvm) ← match java.lastCpu with
    | none => javaGetCpu env java.object jvm first
    | some lastCpu => some (.ok lastCpu, jvm)
  match oldCpu with
  | .error exception => return (.native (.thrown exception), ⟨some java, made, jvm⟩)
  | .ok oldCpu => javaPercentageFrom env java made jvm oldCpu second

/-- A percentage for each of the pairs. -/
def javaFetchAll (obj : Nat) (jvm : Jvm) : List (SysmCpu × SysmCpu) → Option (Except Throwable (List (Option SysmCpuPrec)) × Jvm)
  | [] => some (.ok [], jvm)
  | (oldCpu, lastCpu) :: pairs => do
    let (result, jvm) ← nativeStep env jvm (obj, .cpuPercentage oldCpu lastCpu)
    match result with
    | .percentage perc =>
      let (others, jvm) ← javaFetchAll obj jvm pairs
      return (others.map fun others => perc :: others, jvm)
    | .thrown exception => return (.error exception, jvm)
    | _ => none

/-- `getCpuPercentages` from the list that it starts with -/
def javaPercentagesFrom (java : SysmJava) (made : Nat) (jvm : Jvm) (machine : CpuMachine) (oldCpuList : List SysmCpu)
    (second : CpuListRead) : Option (JavaResult × SysmClass) := do
  let (lastCpuList, jvm) ← javaGetCpus env java.object jvm machine second
  match lastCpuList with
  | .error exception => return (.native (.thrown exception), ⟨some java, made, jvm⟩)
  | .ok lastCpuList =>
    let (perc, jvm) ← javaFetchAll env java.object jvm (oldCpuList.zip lastCpuList)
    let java := { java with lastCpuList := some lastCpuList }
    match perc with
    | .error exception => return (.native (.thrown exception), ⟨some java, made, jvm⟩)
    | .ok perc => return (.percentages perc, ⟨some java, made, jvm⟩)

/-- `getCpuPercentages` of the object -/
def javaGetCpuPercentages (java : SysmJava) (made : Nat) (jvm : Jvm) (machine : CpuMachine) (first second : CpuListRead) :
    Option (JavaResult × SysmClass) := do
  let (oldCpuList, jvm) ← match java.lastCpuList with
    | none => javaGetCpus env java.object jvm machine first
    | some lastCpuList => some (.ok lastCpuList, jvm)
  match oldCpuList with
  | .error exception => return (.native (.thrown exception), ⟨some java, made, jvm⟩)
  | .ok oldCpuList => javaPercentagesFrom env java made jvm machine oldCpuList second

/-- `getInstance`. What the constructor catches is only logged. Another error of
it leaves the class without an object, and the one that was made is lost. -/
def javaGetInstance (java : SysmClass) (machine : OpenMachine) : Option (JavaResult × SysmClass) := do
  match java.singleton with
  | some _ => return (.object, java)
  | none =>
    let (result, jvm) ← nativeStep env java.jvm (java.made, .nativeOpen machine)
    match result with
    | .thrown exception =>
      if env.isSysmException exception.className then
        return (.object, ⟨some ⟨java.made, false, none, none⟩, java.made + 1, jvm⟩)
      else return (.native (.thrown exception), ⟨none, java.made + 1, jvm⟩)
    | _ => return (.object, ⟨some ⟨java.made, true, none, none⟩, java.made + 1, jvm⟩)

/-- `close` of the object -/
def javaClose (java : SysmJava) (made : Nat) (jvm : Jvm) : Option (JavaResult × SysmClass) := do
  if java.isOpen then
    let (result, jvm) ← nativeStep env jvm (java.object, .nativeClose)
    match result with
    | .thrown exception => return (.native (.thrown exception), ⟨some java, made, jvm⟩)
    | _ => return (.done, ⟨some { java with isOpen := false }, made, jvm⟩)
  else return (.done, ⟨some java, made, jvm⟩)

def javaNative (java : SysmJava) (made : Nat) (jvm : Jvm) (call : NativeCall) : Option (JavaResult × SysmClass) := do
  let (result, jvm) ← nativeStep env jvm (java.object, call)
  return (.native result, ⟨some java, made, jvm⟩)

def javaStep (java : SysmClass) (call : JavaCall) : Option (JavaResult × SysmClass) :=
  match call, java.singleton with
  | .getInstance machine, _ => javaGetInstance env java machine
  | _, none => some (.noObject, java)
  | .close, some object => javaClose env object java.made java.jvm
  | .fetch fields call, some object => javaNative env object java.made java.jvm (.gather fields call)
  | .getNetStat args, some object => javaNative env object java.made java.jvm (.netStat args)
  | .getCpuPercentage first second, some object => javaGetCpuPercentage env object java.made java.jvm first second
  | .getCpuPercentages machine first second _, some object =>
    javaGetCpuPercentages env object java.made java.jvm machine first second

end Methods

end Sysm
