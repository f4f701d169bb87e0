import Sysm.JarFinder
import Sysm.LibFinder

namespace Sysm.Jni
open JavaString

/-- `toString` of a path -/
def JavaPath.toString (path : JavaPath) : JString :=
  (if path.absolute then [47] else []) ++ [47].intercalate path.names

theorem JavaPath.getParent_length {path parent : JavaPath} (above : path.getParent = some parent) :
    parent.names.length < path.names.length := by
  obtain ⟨absolute, names⟩ := path
  cases names with
  | nil => cases above
  | cons name names =>
    cases names with
    | nil =>
      obtain ⟨-, same⟩ := Option.ite_none_right_eq_some.mp above
      cases same
      exact Nat.zero_lt_one
    | cons second names =>
      cases above
      simp

/-- The loop of `findBesideJar` that leaves the jars. -/
def aboveJars (path : JavaPath) : Option JavaPath :=
  if contains path.toString dotJar then
    match _above : path.getParent with
    | some parent => aboveJars parent
    | none => none
  else some path
termination_by path.names.length
decreasing_by exact JavaPath.getParent_length _above

/-- `find`, which takes no empty name -/
def find (tree : FileTree) (path libName : JString) : Except JavaException (Option JavaPath) := do
  let libName ← requireLibName (some libName)
  if path = [] then return none
  let absPath := tree.toAbsolutePath (← JavaPath.parse path)
  search tree (some absPath) libName 1

/-- The path of the jar in `findBesideJar`, with the name that is in the builder then. -/
def jarPathOf (loader : ClassLoader) (resPath jarName : JString) : Except JavaException (Option JavaPath × JString) := do
  match loader.getResource resPath with
  | some url =>
    let (found, jarName') ← isJarUrl (some url) (some jarName)
    return (if found then url2Path (some url) else none, jarName'.getD jarName)
  | none =>
    let (jarPath, jarName') ← findJarPath (some loader) (some jarName)
    return (jarPath, jarName'.getD jarName)

/-- `findBesideJar` with the name that is in the builder after the call. -/
def findBesideJar (tree : FileTree) (libName : JString) (loader : Option ClassLoader) (resPath jarName : JString) :
    Except JavaException (Option JavaPath × JString) := do
  let libName ← requireLibName (some libName)
  let some loader := loader | throw .nullPointer
  let (jarPath, jarName) ← jarPathOf loader resPath jarName
  let lib ← search tree (jarPath.bind aboveJars) libName 1
  return (lib, jarName)

/-- What `System.load` or `System.loadLibrary` is asked for. -/
inductive LoadRequest where
  | file (path : JavaPath)
  | library (libName : JString)
  deriving DecidableEq

inductive LoadThrown where
  | archNotSupported (message : JString)
  | archLoader (message : JString)
  | unsatisfiedLink
  deriving DecidableEq

/-- What `load` asks for, and what it throws. -/
structure LoadReply where
  request : Option LoadRequest
  thrown : Option LoadThrown
  deriving DecidableEq

/-- What a call of `load` finds: the properties, `useDmalloc` of `ArchName`, the
files, the class loader of the class, and the requests that the virtual machine
can fulfil. -/
structure JavaSystem where
  getProperty : JString → Option JString
  useDmalloc : Bool
  tree : FileTree
  classLoader : Option ClassLoader
  links : LoadRequest → Bool

/-- What is thrown in `loadLib`. -/
inductive LoadError where
  | java (exception : JavaException)
  | archNotSupported (message : JString)
  deriving DecidableEq

/-- `getArchName` of `ArchName`. A property that is not set is a null pointer. -/
def getArchName (system : JavaSystem) : Except LoadError JString := do
  let name := system.getProperty (literal "os.name")
  let version := system.getProperty (literal "os.version")
  let some arch := system.getProperty (literal "os.arch") | throw (.java .nullPointer)
  let arch := if endsWith arch (literal "86") then literal "x86" else arch
  let some name := name | throw (.java .nullPointer)
  if name = literal "Linux" then return arch ++ literal "-linux"
  let desc := arch ++ literal "-" ++ name ++ literal "-" ++ version.getD (literal "null")
  throw (.archNotSupported (literal "platform (" ++ desc ++ literal ") not supported"))

/-- `getName` of `ArchName` -/
def archName (system : JavaSystem) : Except LoadError JString := do
  let name ← getArchName system
  return if system.useDmalloc then name ++ literal "-dmalloc" else name

inductive LoaderClass where
  | archLoader
  | sysmLoader

/-- An `ArchLoader` that was made for a class. -/
structure ArchLoader where
  kind : LoaderClass
  loaded : Bool
  name : JString
  packageName : JString
  jarName : JString
  libName : Option JString
  resourcePath : JString
  version : Option JString

namespace ArchLoader

/-- The constructor, with the name of the class. A class in no package has no
name to cut. -/
def new (kind : LoaderClass) (className : JString) : Option ArchLoader := do
  let dot ← lastIndexOf [46] className
  let packageName := className.take dot
  let name := match lastIndexOf [46] packageName with
    | some dot => packageName.drop (dot + 1)
    | none => packageName
  return {
    kind
    loaded := false
    name
    packageName
    jarName := name ++ dotJar
    libName := none
    resourcePath := packageName.map fun c => if c = 46 then 47 else c
    version := none }

variable (loader : ArchLoader) (system : JavaSystem)

/-- `getJarName`, which `SysmLoader` overrides. -/
def getJarName : JString :=
  match loader.kind with
  | .archLoader => loader.jarName
  | .sysmLoader => (system.getProperty (literal "sysm.jar.name")).getD loader.jarName

def getArchLibName : Except LoadError JString := do
  return loader.name ++ literal "-" ++ (← archName system)

/-- The property that `getDefaultLibName` looks up. -/
def libNameProperty : JString :=
  match loader.kind with
  | .archLoader => loader.packageName ++ literal ".lib.name"
  | .sysmLoader => literal "sysm.lib.name"

/-- `getDefaultLibName`. The default is computed before the property is looked up. -/
def getDefaultLibName : Except LoadError JString := do
  let default := literal "hbdc" ++ (← loader.getArchLibName system)
  return (system.getProperty loader.libNameProperty).getD default

/-- `ensureLibName`, with the name that the loader has then. -/
def ensureLibName : Except LoadError JString :=
  match loader.libName with
  | none => loader.getDefaultLibName system
  | some libName => if libName = [] then loader.getDefaultLibName system else .ok libName

end ArchLoader

/-- `getLibPrefix() + libName + getLibExtension()` -/
def libFileName (libName : JString) : JString := literal "lib" ++ libName ++ literal ".so"

namespace ArchLoader

variable (loader : ArchLoader) (system : JavaSystem)

def getLibName : Except LoadError (JString × ArchLoader) := do
  let libName ← loader.ensureLibName system
  return (libFileName libName, { loader with libName := some libName })

/-- `getVersionedLibName`, which is null without a version. -/
def getVersionedLibName : Except LoadError (Option JString × ArchLoader) := do
  let libName ← loader.ensureLibName system
  let loader := { loader with libName := some libName }
  match loader.version with
  | none => return (none, loader)
  | some version =>
    if version = [] then return (none, loader)
    else return (some (libFileName (libName ++ literal "-" ++ version)), loader)

end ArchLoader

/-- A search for the name of the library and, if it finds nothing, for the name
with the version. -/
def findEither (finder : JString → Except JavaException (Option JavaPath)) (libName : JString) (versioned : Option JString) :
    Except JavaException (Option JavaPath) := do
  match ← finder libName, versioned with
  | none, some versioned => finder versioned
  | lib, _ => return lib

/-- The two searches beside the jar, of which the second one starts with the
name that the first one leaves. -/
def eitherBesideJar (system : JavaSystem) (resPath libName : JString) (versioned : Option JString) (jarName : JString) :
    Except JavaException (Option JavaPath × JString) := do
  let (lib, jarName) ← findBesideJar system.tree libName system.classLoader resPath jarName
  match lib, versioned with
  | none, some versioned => findBesideJar system.tree versioned system.classLoader resPath jarName
  | lib, _ => return (lib, jarName)

/-- The searches that follow if there is nothing beside the jar. -/
def searchPlaces (system : JavaSystem) (resPath libName : JString) (versioned : Option JString) (lib : Option JavaPath) :
    Except JavaException (Option JavaPath) := do
  let libraryPath := (system.getProperty (literal "java.library.path")).getD []
  let lib ← match lib with
    | none => findEither (fun name => findInClasspath system.tree (some name) system.classLoader resPath) libName versioned
    | some lib => pure (some lib)
  let lib ← match lib with
    | none => findEither (fun name => findBesideClasspath system.tree (some name) system.classLoader) libName versioned
    | some lib => pure (some lib)
  match lib with
  | none => findEither (findInJavaLibPath system.tree libraryPath) libName versioned
  | some lib => return some lib

/-- `System.load` and `System.loadLibrary` -/
def JavaSystem.load (system : JavaSystem) (request : LoadRequest) : LoadReply :=
  ⟨some request, if system.links request then none else some .unsatisfiedLink⟩

namespace ArchLoader

variable (loader : ArchLoader)

/-- What `loadLib` throws for an exception. Those of the finders that may be
caught have the name of the library as their message. -/
def fail (error : LoadError) : LoadReply × ArchLoader :=
  match error with
  | .archNotSupported message => (⟨none, some (.archNotSupported message)⟩, loader)
  | .java (.archLoader message) => (⟨none, some (.archLoader message)⟩, loader)
  | .java _ =>
    (⟨none, some (.archLoader (literal "Fail to load " ++ loader.libName.getD (literal "null")))⟩, loader)

/-- The end of `loadLib` -/
def loadFound (system : JavaSystem) (libName : JString) (nativeLibrary : Except JavaException (Option JavaPath)) :
    LoadReply × ArchLoader :=
  match nativeLibrary with
  | .error exception => loader.fail (.java exception)
  | .ok (some path) => (system.load (.file path), loader)
  | .ok none => (system.load (.library libName), loader)

/-- `loadLib`. A path of `-` is for a library that is there already. -/
def loadLib (path : Option JString) (system : JavaSystem) : LoadReply × ArchLoader :=
  match loader.getLibName system with
  | .error error => loader.fail error
  | .ok (libName, loader) =>
    match loader.getVersionedLibName system with
    | .error error => loader.fail error
    | .ok (versioned, loader) =>
      let path := if path.getD [] = [] then system.getProperty (loader.packageName ++ literal ".path") else path
      match path with
      | some path =>
        if path = literal "-" then (⟨none, none⟩, loader)
        else loader.loadFound system libName (findEither (find system.tree path) libName versioned)
      | none =>
        match eitherBesideJar system loader.resourcePath libName versioned (loader.getJarName system) with
        | .error exception => loader.fail (.java exception)
        | .ok (lib, jarName) =>
          { loader with jarName }.loadFound system libName (searchPlaces system loader.resourcePath libName versioned lib)

/-- `load`, which does nothing once it has returned. -/
def load (path : Option JString) (system : JavaSystem) : LoadReply × ArchLoader :=
  if loader.loaded then (⟨none, none⟩, loader)
  else
    let (reply, loader) := loader.loadLib path system
    (reply, { loader with loaded := reply.thrown.isNone })

end ArchLoader

inductive LoaderCall where
  | load (path : Option JString) (system : JavaSystem)
  | setVersion (version : Option JString)

def loaderStep (loader : ArchLoader) : LoaderCall → LoadReply × ArchLoader
  | .load path system => loader.load path system
  | .setVersion version => (⟨none, none⟩, { loader with version })

/-- The loader after a run of calls. -/
def loaderAfter (loader : ArchLoader) (calls : List LoaderCall) : ArchLoader :=
  calls.foldl (fun loader call => (loaderStep loader call).2) loader

end Sysm.Jni
