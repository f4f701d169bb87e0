import Sysm.CpuPairing
import Sysm.NetStatPort
import Sysm.NetRouteRows
import Sysm.SysmClose
import Sysm.Lib.Ownership

namespace Sysm
open CString LinkedHeap

def EACCES : Int := 13

def sysmStartError : Int := 20000

/-- `SYSM_ENOTIMPL` -/
def sysmEnotimpl : Int := sysmStartError + 1

def sysmErrorStr (err : Int) : Text :=
  if err = sysmEnotimpl then ofString "This method has not been implemented yet"
  else ofString "Error string not specified yet"

/-- `sysm_strerror`, with what `errbuf` holds afterwards. The texts of
`strerror_r` are `strerrorR`. -/
def sysmStrerror (strerrorR : Int → Text) (errbuf : Text) (err : Int) : Text × Text :=
  if err < 0 then (errbuf, errbuf)
  else if sysmStartError < err then (sysmErrorStr err, errbuf)
  else (strerrorR err, strerrorR err)

/-- An exception, with the class that is looked up for it. -/
structure Throwable where
  className : String
  message : Text
deriving Repr, DecidableEq

/-- `SysmNotImplException.INSTANCE` -/
def notImplInstance : Throwable :=
  ⟨"edu/scut/cs/sysm/exception/SysmNotImplException", ofString "This method has not been implemented yet"⟩

/-- What is pending after `FindClass` if there is no such class. -/
def noClassDefFound (className : String) : Throwable := ⟨"java/lang/NoClassDefFoundError", ofString className⟩

/-- What the native methods find: the texts of the C library, and the classes of
the exceptions. That of `INSTANCE` is there, as those of the beans are: they are
used without a look at the answer of `FindClass`. -/
structure JniEnv where
  strerrorR : Int → Text
  /-- Whether `FindClass` finds the class. -/
  finds : String → Bool
  findsNotImpl : finds notImplInstance.className = true
  /-- Whether the class is `SysmException` or extends it. -/
  isSysmException : String → Bool
  otherError (className : String) : isSysmException (noClassDefFound className).className = false
  /-- Whether `ThrowNew` returns if it is given no class. -/
  goesOn : Bool

/-- `FindClass` and `ThrowNew`. Without the class the error of `FindClass` is
still pending, if the second call returns. -/
def JniEnv.throwNew (env : JniEnv) (className : String) (message : Text) : Option Throwable :=
  if env.finds className then some ⟨className, message⟩
  else if env.goesOn then some (noClassDefFound className)
  else none

/-- `sysm_throw_exception` -/
def sysmThrowException (env : JniEnv) (msg : Text) : Option Throwable :=
  env.throwNew "edu/scut/cs/sysm/exception/SysmException" msg

/-- The class of the exception that is made for an error. -/
def errorClass (err : Int) : String :=
  if err = ENOENT then "edu/scut/cs/sysm/SysmFileNotFoundException"
  else if err = EACCES then "edu/scut/cs/sysm/SysmPermissionDeniedException"
  else "edu/scut/cs/sysm/exception/SysmException"

/-- The beans that have a place in `fields`. -/
inductive JsysmFields where
  | memory
  | swap
  | cpu
  | cpuinfo
  | cpupercentage
  | uptime
  | proccpu
  | procexe
  | procmem
  | procown
  | procowner
  | procstat
  | procstate
  | proctime
  | resourcelimit
  | diskusage
  | netstat
  | netinfo
  | netinterfaceconfig
  | netinterfacestat
  | netroute
  | netconnection
  | who
deriving Repr, DecidableEq

/-- Their places are counted in the order of the definitions. -/
def JsysmFields.index (bean : JsysmFields) : Nat := bean.ctorIdx

def jsysmFieldsMax : Nat := 40

/-- What a global reference refers to. -/
inductive GlobalRef where
  | beanClass (bean : JsysmFields)
  | notImpl
deriving Repr, DecidableEq

/-- `jni_sysm_t`, together with the block of `sysm_t` that only it points to.
Of a field cache it has the global reference to the class. -/
structure JniSysm where
  sysm : SysmT
  errbuf : Text
  fields : List (Option Nat)
  openStatus : Int
  notImpl : Option Nat

/-- The handles, the global references and what each object of `Sysm` has in
its wrapper. The first block is not at the null pointer. -/
structure Jvm where
  handles : Heap JniSysm
  globals : Heap GlobalRef
  wrapper : Nat → Nat

def Jvm.start : Jvm := ⟨[none], [], fun _ => 0⟩

def Jvm.write (jvm : Jvm) (pointer : Nat) (jsysm : JniSysm) : Jvm :=
  { jvm with handles := LinkedHeap.write jvm.handles pointer jsysm }

section Errors

variable (env : JniEnv)

def sysmThrowError (jvm : Jvm) (pointer : Nat) (err : Int) : Option (Throwable × Jvm) := do
  let jsysm ← read jvm.handles pointer
  if err = sysmEnotimpl then
    match jsysm.notImpl with
    | none =>
      let cached := jvm.write pointer { jsysm with notImpl := some jvm.globals.length }
      return (notImplInstance, { cached with globals := alloc jvm.globals .notImpl })
    | some ref =>
      let _ ← read jvm.globals ref
      return (notImplInstance, jvm)
  else
    let (message, errbuf) := sysmStrerror env.strerrorR jsysm.errbuf err
    let thrown ← env.throwNew (errorClass err) message
    return (thrown, jvm.write pointer { jsysm with errbuf })

/-- `sysm_get_jpointer`, with the exception that is pending where it returns null. -/
def sysmGetJpointer (jvm : Jvm) (obj : Nat) : Option (Except Throwable Nat × Jvm) := do
  let pointer := jvm.wrapper obj
  if pointer = 0 then
    let thrown ← sysmThrowException env (ofString "sysm has been closed")
    return (.error thrown, jvm)
  let jsysm ← read jvm.handles pointer
  if jsysm.openStatus ≠ 0 then
    let (thrown, jvm) ← sysmThrowError env jvm pointer jsysm.openStatus
    return (.error thrown, jvm)
  return (.ok pointer, jvm)

end Errors

/-- The macro that looks up the fields of a bean, unless that has been done. -/
def initFields (jvm : Jvm) (pointer : Nat) (bean : JsysmFields) : Option Jvm := do
  let jsysm ← read jvm.handles pointer
  match ← jsysm.fields[bean.index]? with
  | some _ => return jvm
  | none =>
    let cached := jvm.write pointer { jsysm with fields := jsysm.fields.set bean.index (some jvm.globals.length) }
    return { cached with globals := alloc jvm.globals (.beanClass bean) }

/-- The macros that read or write the fields of a bean, which must have been
looked up. -/
def useFields (jvm : Jvm) (pointer : Nat) (bean : JsysmFields) : Option Nat := do
  let jsysm ← LinkedHeap.read jvm.handles pointer
  jsysm.fields[bean.index]?.join

/-- The status that the library has returned. -/
def SysmReply.status : SysmReply → Int
  | .proc (.time (.error status)) => status
  | .proc (.state (.error status)) => status
  | .proc (.mem (.error status)) => status
  | .proc (.cpu status _) => status
  | .proc _ => 0
  | .cpu (.error status) => status
  | .cpu (.ok _) => 0
  | .cpus (.list (.error status), _) => status
  | .cpus (.infoList (.error status), _) => status
  | .cpus (.state (.error status), _) => status
  | .cpus _ => 0
  | .procList result => result.1
  | .procStat result => result.1
  | .memory result => result.1
  | .diskUsage result => result.1
  | .netStat result => result.1
  | .netListenAddress result => result.1
  | .pid _ => 0

/-- What a native method leaves to Java. The states of TCP are not handed
over: the test of `ExceptionCheck`, which is not called, always succeeds. -/
inductive NativeResult where
  | done
  | status (status : Int)
  | reply (reply : SysmReply)
  | netStat (tcpInboundTotal tcpOutboundTotal allInboundTotal allOutboundTotal : UInt32)
  | percentage (perc : Option SysmCpuPrec)
  | thrown (exception : Throwable)

/-- What `nativeOpen` finds: the memory of the two blocks and the machine. -/
structure OpenMachine where
  memory : SysmT
  errbuf : Text
  getpagesize : Nat
  ticks : UInt64
  procStat : Except Errno (List UInt8)

def OpenMachine.sysmOpen (machine : OpenMachine) : Except Int SysmT :=
  Sysm.sysmOpen machine.memory machine.getpagesize machine.ticks (machine.procStat.mapError Subtype.val)

/-- The bytes of an address are copied into a union of sixteen. -/
def jbyteArrayToSysmNetAddress (jaddress : List UInt8) : Option (Except Int SysmNetAddress) :=
  if 16 < jaddress.length then none
  else match jaddress with
    | [a, b, c, d] => some (.ok (.inet (Octets.mk a b c d).word))
    | [a, b, c, d, e, f, g, h, i, j, k, l, m, n, o, p] =>
      some (.ok (.inet6 ((Octets.mk a b c d).word, (Octets.mk e f g h).word, (Octets.mk i j k l).word, (Octets.mk m n o p).word)))
    | _ => some (.error EINVAL)

/-- The arguments of `NetStat_stat` and what it finds. -/
structure NetStatArgs where
  flags : Int32
  jaddress : Option (List UInt8)
  jport : Int64
  created : UInt64
  clock : Clock
  files : NetFiles

/-- The call of the library in `NetStat_stat`. -/
def NetStatArgs.call (args : NetStatArgs) (sysm : SysmT) : Option ((Int × SysmNetStat) × SysmT) :=
  if args.jport ≠ -1 then do
    match ← jbyteArrayToSysmNetAddress (← args.jaddress) with
    | .error status => return ((status, .zero), sysm)
    | .ok address => return (← sysmNetStatPortGet args.flags.toUInt32 address args.jport.toUInt64 args.files, sysm)
  else sysmNetStatGet sysm args.flags.toUInt32 args.created args.clock args.files

section Natives

variable (env : JniEnv)

/-- `sysm_throw_error` as the last call of a native method. -/
def throwAndReturn (jvm : Jvm) (pointer : Nat) (err : Int) : Option (NativeResult × Jvm) := do
  let (thrown, jvm) ← sysmThrowError env jvm pointer err
  return (.thrown thrown, jvm)

def nativeOpen (machine : OpenMachine) (jvm : Jvm) (obj : Nat) : Option (NativeResult × Jvm) := do
  let pointer := jvm.handles.length
  let cleared : JniSysm := ⟨machine.memory, machine.errbuf, List.replicate jsysmFieldsMax none, 0, none⟩
  let wrapped := { jvm with wrapper := Function.update jvm.wrapper obj pointer }
  match machine.sysmOpen with
  | .ok sysm => return (.done, { wrapped with handles := alloc jvm.handles { cleared with sysm } })
  | .error status =>
    let failed := { wrapped with handles := alloc jvm.handles { cleared with openStatus := status } }
    throwAndReturn env failed pointer status

/-- The macros at the start of the native methods: what follows is done with
the handle, or else the method returns with the exception pending. -/
def dSysm (body : Nat → Jvm → Option (NativeResult × Jvm)) (jvm : Jvm) (obj : Nat) : Option (NativeResult × Jvm) := do
  let (handle, jvm) ← sysmGetJpointer env jvm obj
  match handle with
  | .error thrown => return (.thrown thrown, jvm)
  | .ok pointer => body pointer jvm

/-- `nativeClose`, which deletes the global references and frees both blocks. -/
def nativeClose (jvm : Jvm) (obj : Nat) : Option (NativeResult × Jvm) :=
  dSysm env (fun pointer jvm => do
    let jsysm ← read jvm.handles pointer
    let _ ← sysmClose jsysm.sysm
    let globals ← freeAll jvm.globals (jsysm.notImpl.toList ++ jsysm.fields.reduceOption)
    return (.status 0, ⟨free jvm.handles pointer, globals, Function.update jvm.wrapper obj 0⟩)) jvm obj

/-- The macros for a bean, at the end of a native method. -/
def setFields (jvm : Jvm) (pointer : Nat) (bean : JsysmFields) (result : NativeResult) : Option (NativeResult × Jvm) := do
  let jvm ← initFields jvm pointer bean
  let _ ← useFields jvm pointer bean
  return (result, jvm)

/-- The common course of the native methods that call the library: an error is
thrown, else the reply is written into a bean or an array of beans. -/
def gather (fields : Option JsysmFields) (call : SysmCall) : Jvm → Nat → Option (NativeResult × Jvm) :=
  dSysm env fun pointer jvm => do
    let jsysm ← read jvm.handles pointer
    let (reply, sysm) ← sysmStep jsysm.sysm call
    let jvm := jvm.write pointer { jsysm with sysm }
    if reply.status ≠ 0 then throwAndReturn env jvm pointer reply.status
    else
      match fields with
      | none => return (.reply reply, jvm)
      | some bean => setFields jvm pointer bean (.reply reply)

/-- `CpuPercentage_gather` reads two beans of `Cpu` without looking up their fields. -/
def cpuPercentageGather (prev curr : SysmCpu) : Jvm → Nat → Option (NativeResult × Jvm) :=
  dSysm env fun pointer jvm => do
    let _ ← useFields jvm pointer .cpu
    setFields jvm pointer .cpupercentage (.percentage (sysmCpuPercCal prev curr))

/-- `NetStat_stat` throws for its flags where the others throw for the status. -/
def netStatStat (args : NetStatArgs) : Jvm → Nat → Option (NativeResult × Jvm) :=
  dSysm env fun pointer jvm => do
    let jsysm ← read jvm.handles pointer
    let ((status, netStat), sysm) ← args.call jsysm.sysm
    let jvm := jvm.write pointer { jsysm with sysm }
    if status ≠ 0 then throwAndReturn env jvm pointer args.flags.toInt
    else
      setFields jvm pointer .netstat (.netStat netStat.tcpInboundTotal netStat.tcpOutboundTotal
        netStat.allInboundTotal netStat.allOutboundTotal)

end Natives

/-- A call of a native method. -/
inductive NativeCall where
  | nativeOpen (machine : OpenMachine)
  | nativeClose
  | gather (fields : Option JsysmFields) (call : SysmCall)
  | cpuPercentage (prev curr : SysmCpu)
  | netStat (args : NetStatArgs)

namespace NativeCall

def memoryGather (memory : SysmMemory) (files : MemoryFiles) : NativeCall := .gather (some .memory) (.memory memory files)

def processTimeGather (pid : Int64) (now : Int) (stat : FileRead) : NativeCall :=
  .gather (some .proctime) (.proc ⟨pid.toInt32, now, stat, .time⟩)

def processStateGather (pid : Int64) (now : Int) (cpuid : UInt32 → SysmCpuid) (stat status : FileRead) : NativeCall :=
  .gather (some .procstate) (.proc ⟨pid.toInt32, now, stat, .state cpuid status⟩)

def processMemGather (pid : Int64) (now : Int) (stat statm : FileRead) : NativeCall :=
  .gather (some .procmem) (.proc ⟨pid.toInt32, now, stat, .mem statm⟩)

def processCpuGather (pid : Int64) (procCpu : SysmProcCpu) (clock : CpuClock) (stat : FileRead) : NativeCall :=
  .gather (some .proccpu) (.proc ⟨pid.toInt32, clock.seconds, stat, .cpu procCpu clock⟩)

def processStatGather (cpuid : UInt32 → SysmCpuid) (proc : ProcFiles) (memory : Nat → Int32) (reads : Nat → ProcRead) :
    NativeCall := .gather (some .procstat) (.procStat cpuid proc memory reads)

def diskUsageGather (iostat : Iostat) (disks : Disks) (created : UInt64) (clock : Clock) (files : UsageFiles)
    (memory : List Text → Nat → UInt64) (jname : Text) : NativeCall :=
  .gather (some .diskusage) (.diskUsage iostat disks created clock files memory jname)

def cpuGather (stat : FileRead) : NativeCall := .gather (some .cpu) (.cpu stat)

def getCpusNative (machine : CpuMachine) (memory : Nat → SysmCpu) : NativeCall :=
  .gather (some .cpu) (.cpus machine (.list memory))

def getCpuInfos (machine : CpuMachine) (memory : Nat → SysmCpuInfo) : NativeCall :=
  .gather (some .cpuinfo) (.cpus machine (.infoList memory))

def getProcesses (proc : ProcFiles) (memory : Nat → Int32) : NativeCall := .gather none (.procList true proc memory)

def getNetListenAddress (port : Int64) (address : SysmNetAddress) (created : UInt64) (before during after : Clock)
    (files : NetFiles) : NativeCall :=
  .gather none (.netListenAddress port.toUInt64 address created before during after files)

def getPid (machine : EnvMachine) : NativeCall := .gather none (.pid machine)

end NativeCall

/-- A native method is called on an object of `Sysm`. -/
def nativeStep (env : JniEnv) (jvm : Jvm) (input : Nat × NativeCall) : Option (NativeResult × Jvm) :=
  match input.2 with
  | .nativeOpen machine => nativeOpen env machine jvm input.1
  | .nativeClose => nativeClose env jvm input.1
  | .gather fields call => gather env fields call jvm input.1
  | .cpuPercentage prev curr => cpuPercentageGather env prev curr jvm input.1
  | .netStat args => netStatStat env args jvm input.1

end Sysm
