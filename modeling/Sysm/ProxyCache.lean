import Sysm.Lib.JavaString
import Sysm.ReferenceMap

namespace Sysm
open JavaString

inductive JavaType
  | int
  | long
  | string
  | byteArray
deriving Repr, DecidableEq

/-- An argument that is not `null`. An array has the hash code of its identity. -/
inductive Arg
  | int (value : Int32)
  | long (value : Int64)
  | string (value : JString)
  | byteArray (identity : Int32) (content : List UInt8)
deriving Repr, DecidableEq

namespace Arg

def type : Arg → JavaType
  | .int _ => .int
  | .long _ => .long
  | .string _ => .string
  | .byteArray _ _ => .byteArray

def hashCode : Arg → Int32
  | .int value => value
  | .long value => (value.toUInt64 ^^^ (value.toUInt64 >>> 32)).toUInt32.toInt32
  | .string value => value.foldl (fun hash c => 31 * hash + c.toUInt32.toInt32) 0
  | .byteArray identity _ => identity

def toJString : Arg → JString
  | .int value => literal (toString value.toInt)
  | .long value => literal (toString value.toInt)
  | .string value => value
  | .byteArray identity _ => literal (String.ofList ("[B@".toList ++ Nat.toDigits 16 identity.toUInt32.toNat))

/-- Arrays are equal arguments if they have the same content. -/
def content : Arg → Arg
  | .byteArray _ content => .byteArray 0 content
  | arg => arg

end Arg

structure Method where
  name : String
  parameterTypes : List JavaType
deriving Repr, DecidableEq

/-- The methods of `SysmProxy` -/
def sysmProxy : List Method :=
  [⟨"getPid", []⟩, ⟨"getMem", []⟩, ⟨"getSwap", []⟩, ⟨"getCpu", []⟩, ⟨"getCpuPercentage", []⟩, ⟨"getCpuInfos", []⟩,
    ⟨"getCpus", []⟩, ⟨"getCpuPercentages", []⟩, ⟨"getUptime", []⟩, ⟨"getResourceLimit", []⟩, ⟨"getLoadAverage", []⟩,
    ⟨"getProcesses", []⟩, ⟨"getProcessStat", []⟩, ⟨"getProcessMem", [.long]⟩, ⟨"getMultiProcessMem", [.string]⟩,
    ⟨"getProcessState", [.long]⟩, ⟨"getMultiProcessState", [.string]⟩, ⟨"getProcessTime", [.long]⟩,
    ⟨"getProcessCpu", [.long]⟩, ⟨"getMultiProcessCpu", [.string]⟩, ⟨"getProcessOwn", [.long]⟩,
    ⟨"getProcessOwner", [.long]⟩, ⟨"getProcessExe", [.long]⟩, ⟨"getProcessArgs", [.long]⟩, ⟨"getProcessEnv", [.long]⟩,
    ⟨"getProcessEnv", [.long, .string]⟩, ⟨"getProcessPort", [.int, .long]⟩, ⟨"getDiskUsage", [.string]⟩,
    ⟨"getNetInfo", []⟩, ⟨"getNetStat", []⟩, ⟨"getNetStat", [.byteArray, .long]⟩, ⟨"getNetRoutes", []⟩,
    ⟨"getNetInterfaceConfig", []⟩, ⟨"getNetInterfaceConfig", [.string]⟩, ⟨"getNetInterfaceStat", [.string]⟩,
    ⟨"getNetInterfaces", []⟩, ⟨"getNetConnections", [.int]⟩, ⟨"getNetListenAddress", [.long]⟩, ⟨"getWhos", []⟩]

/-- A method and its arguments as the proxy hands them over. It hands over `null`
for no arguments. -/
structure Invocation where
  method : Method
  args : List Arg
  declared : method ∈ sysmProxy
  typed : args.map Arg.type = method.parameterTypes
deriving DecidableEq

/-- Calls of one method with equal arguments. -/
def Invocation.Same (first second : Invocation) : Prop :=
  first.method = second.method ∧ first.args.map Arg.content = second.args.map Arg.content

inductive ExceptionClass
  | sysm
  | notImpl
  | permissionDenied
  | fileNotFound
  | other (name : JString)
deriving Repr, DecidableEq

structure Thrown where
  exceptionClass : ExceptionClass
  message : Option JString
deriving Repr, DecidableEq

/-- What comes of `method.invoke`: the method returns or throws, or cannot be invoked. -/
inductive Outcome (ν : Type)
  | returned (retval : Option ν)
  | target (exception : Thrown)
  | failed (name : JString) (message : Option JString)
deriving Repr, DecidableEq

inductive ProxyResult (ν : Type)
  | returned (retval : Option ν)
  | thrown (exception : Thrown)
deriving Repr, DecidableEq

/-- What `invoke` returns or throws, and whether it has invoked the method for it. -/
structure ProxyReply (ν : Type) where
  result : ProxyResult ν
  asked : Bool
deriving Repr, DecidableEq

structure SysmCacheObject (ν : Type) where
  timestamp : Int := 0
  value : Option ν := none
deriving Repr, DecidableEq

/-- The cache has an object for a method without parameters and a map for another. -/
inductive CacheValue (ν : Type)
  | object (cacheVal : SysmCacheObject ν)
  | argMap (argMap : ReferenceMap Arg (SysmCacheObject ν))

/-- Objects and maps are held by value here, and a change of one is written back
to the reference through which it was found. -/
structure SysmProxyCache (ν : Type) where
  cache : ReferenceMap Method (CacheValue ν)
  expire : Int32

/-- `argKey`, where several arguments are put together by their hash codes -/
def argKey : List Arg → Arg
  | [arg] => arg
  | args => .int (args.foldl (fun hashCode arg => hashCode ^^^ arg.hashCode) 0)

def getDebugArgs (args : List Arg) (argKey : Arg) : JString :=
  let dargs := (args.map Arg.toJString).intersperse (literal ",") |>.flatten
  if dargs = argKey.toJString then dargs else dargs ++ literal "/" ++ argKey.toJString

def messageText (message : Option JString) : JString := message.getD (literal "null")

/-- What is added to a message if there are arguments. -/
def messageArgs (args : List Arg) : JString :=
  if args = [] then [] else literal ": " ++ getDebugArgs args (argKey args)

/-- What `invoke` throws for the exception of the method. -/
def rethrown (args : List Arg) (exception : Thrown) : Thrown :=
  let msg := messageText exception.message ++ messageArgs args
  match exception.exceptionClass with
  | .notImpl => ⟨.notImpl, some msg⟩
  | .permissionDenied => ⟨.permissionDenied, some msg⟩
  | .other name => ⟨.sysm, some (name ++ literal ": " ++ msg)⟩
  | _ => ⟨.sysm, some msg⟩

namespace SysmCacheObject

variable {ν : Type} (cacheVal : SysmCacheObject ν)

/-- The value is dropped when it is out of time. -/
def checked (timeNow : Int) (expire : Int32) : SysmCacheObject ν :=
  if cacheVal.value.isSome ∧ timeNow - cacheVal.timestamp > expire.toInt then { cacheVal with value := none } else cacheVal

/-- The reply, and the object as it is to be stored if the method has returned. -/
def settle (timeNow : Int) (args : List Arg) (sysm : Outcome ν) : ProxyReply ν × Option (SysmCacheObject ν) :=
  match cacheVal.value with
  | some retval => (⟨.returned (some retval), false⟩, none)
  | none =>
    match sysm with
    | .returned retval => (⟨.returned retval, true⟩, some { timestamp := timeNow, value := retval })
    | .target exception => (⟨.thrown (rethrown args exception), true⟩, none)
    | .failed name message =>
      let msg := name ++ literal ": " ++ messageText message ++ messageArgs args
      (⟨.thrown ⟨.sysm, some msg⟩, true⟩, none)

end SysmCacheObject

namespace SysmProxyCache

variable {ν : Type} (proxy : SysmProxyCache ν)

def newInstance (expire : Int32) : SysmProxyCache ν := ⟨ReferenceMap.newInstance, expire⟩

/-- `invoke` for a method without parameters. Something else than an object in the
cache cannot be cast. -/
def invokePlain (method : Method) (timeNow : Int) (sysm : Outcome ν) : Option (ProxyReply ν × SysmProxyCache ν) := do
  let (found, cache) := proxy.cache.get method
  let found ← match found with
    | none => some none
    | some (.object cacheVal) => some (some cacheVal)
    | some (.argMap _) => none
  let cacheVal := (found.getD {}).checked timeNow proxy.expire
  let cache := cache.rewrite method (.object cacheVal)
  match cacheVal.settle timeNow [] sysm with
  | (reply, none) => return (reply, { proxy with cache })
  | (reply, some stored) => return (reply, { proxy with cache := (cache.put method (some (.object stored))).2 })

def invokeArgs (method : Method) (args : List Arg) (timeNow : Int) (sysm : Outcome ν) :
    Option (ProxyReply ν × SysmProxyCache ν) := do
  let (found, cache) := proxy.cache.get method
  let found ← match found with
    | none => some none
    | some (.argMap argMap) => some (some argMap)
    | some (.object _) => none
  let (found, argMap) := (found.getD ReferenceMap.newInstance).get (argKey args)
  let cacheVal := (found.getD {}).checked timeNow proxy.expire
  let argMap := argMap.rewrite (argKey args) cacheVal
  let cache := cache.rewrite method (.argMap argMap)
  match cacheVal.settle timeNow args sysm with
  | (reply, none) => return (reply, { proxy with cache })
  | (reply, some stored) =>
    let argMap := (argMap.put (argKey args) (some stored)).2
    return (reply, { proxy with cache := (cache.put method (some (.argMap argMap))).2 })

/-- `invoke` at `timeNow`, where `sysm` is what comes of invoking the method -/
def invoke (call : Invocation) (timeNow : Int) (sysm : Outcome ν) : Option (ProxyReply ν × SysmProxyCache ν) :=
  match call.args with
  | [] => proxy.invokePlain call.method timeNow sysm
  | args => proxy.invokeArgs call.method args timeNow sysm

end SysmProxyCache

end Sysm
