import Sysm.LoaderNames

namespace Sysm.Jni
open JavaString

/-- The request is for the library of this name: for a file of the name, or of
the name with the version, or for the name itself. -/
def LoadRequest.Names (libName : JString) (version : Option JString) : LoadRequest → Prop
  | .file path => HasFileName (libFileName libName) path ∨ ∃ number, version = some number ∧ number ≠ [] ∧
      HasFileName (libFileName (libName ++ literal "-" ++ number)) path
  | .library name => name = libFileName libName

/-- A name that has been decided for stays. -/
def ArchLoader.Decided (loader loader' : ArchLoader) : Prop :=
  ∀ libName, libName ≠ [] → loader.libName = some libName → loader'.libName = some libName

/-- What a call of `loadLib` does to the loader, and which name it asks for. -/
structure ArchLoader.Loads (loader : ArchLoader) (request : Option LoadRequest) (loader' : ArchLoader) : Prop where
  decided : loader.Decided loader'
  version : loader'.version = loader.version
  names : ∀ asked, request = some asked → ∃ libName, loader'.libName = some libName ∧ asked.Names libName loader.version

section Load

variable {loader loader' : ArchLoader} {system : JavaSystem}

theorem ArchLoader.fail_spec (loader : ArchLoader) (error : LoadError) :
    (loader.fail error).1.request = none ∧ (loader.fail error).2 = loader ∧ (loader.fail error).1.thrown ≠ none := by
  cases error with
  | archNotSupported message => exact ⟨rfl, rfl, by simp [ArchLoader.fail]⟩
  | java exception => cases exception <;> exact ⟨rfl, rfl, by simp [ArchLoader.fail]⟩

theorem ArchLoader.fail_loads (decided : loader.Decided loader') (version : loader'.version = loader.version) (error : LoadError) :
    loader.Loads (loader'.fail error).1.request (loader'.fail error).2 := by
  obtain ⟨failed, same, -⟩ := loader'.fail_spec error
  rw [failed, same]
  exact ⟨decided, version, by simp⟩

/-- The name that is decided for is the one that the loader has had, unless that is empty. -/
theorem ensureLibName_decided {libName : JString} (ensured : loader.ensureLibName system = .ok libName) :
    loader.Decided { loader with libName := some libName } := by
  intro old letters known
  rw [ArchLoader.ensureLibName, known] at ensured
  simp only [if_neg letters] at ensured
  cases ensured
  rfl

/-- Asked again, the loader has the same name. -/
theorem ensureLibName_again {libName : JString} (ensured : loader.ensureLibName system = .ok libName) :
    { loader with libName := some libName }.ensureLibName system = .ok libName := by
  by_cases letters : libName = []
  · subst letters
    have default : loader.getDefaultLibName system = .ok [] := by
      rw [ArchLoader.ensureLibName] at ensured
      cases known : loader.libName with
      | none =>
        rw [known] at ensured
        exact ensured
      | some old =>
        rw [known] at ensured
        by_cases empty : old = []
        · simp only [if_pos empty] at ensured
          exact ensured
        · simp only [if_neg empty] at ensured
          cases ensured
          exact absurd rfl empty
    exact default
  · exact if_neg letters

/-- The name with the version, if there is one. -/
theorem getVersionedLibName_ok {libName : JString} (ensured : loader.ensureLibName system = .ok libName)
    (known : loader.libName = some libName) : ∃ versioned,
      loader.getVersionedLibName system = .ok (versioned, loader) ∧
      ∀ name ∈ versioned, ∃ number, loader.version = some number ∧ number ≠ [] ∧
        name = libFileName (libName ++ literal "-" ++ number) := by
  have same : { loader with libName := some libName } = loader := by rw [← known]
  rw [ArchLoader.getVersionedLibName, ensured]
  simp only [bind, Except.bind, same]
  cases here : loader.version with
  | none => exact ⟨none, rfl, by simp⟩
  | some number =>
    by_cases empty : number = []
    · exact ⟨none, if_pos empty, by simp⟩
    · refine ⟨some (libFileName (libName ++ literal "-" ++ number)), if_neg empty, ?_⟩
      rintro name ⟨⟩
      exact ⟨number, rfl, empty, rfl⟩

theorem loadFound_loads {libName : JString} {versioned : Option JString} {nativeLibrary : Except JavaException (Option JavaPath)}
    (decided : loader.Decided loader') (version : loader'.version = loader.version) (known : loader'.libName = some libName)
    (numbered : ∀ name ∈ versioned, ∃ number, loader.version = some number ∧ number ≠ [] ∧
      name = libFileName (libName ++ literal "-" ++ number))
    (yields : Yields (HasEither (libFileName libName) versioned) nativeLibrary) :
    loader.Loads (loader'.loadFound system (libFileName libName) nativeLibrary).1.request
      (loader'.loadFound system (libFileName libName) nativeLibrary).2 := by
  cases nativeLibrary with
  | error exception => exact ArchLoader.fail_loads decided version _
  | ok found =>
    cases found with
    | none =>
      refine ⟨decided, version, ?_⟩
      rintro asked ⟨⟩
      exact ⟨libName, known, rfl⟩
    | some path =>
      refine ⟨decided, version, ?_⟩
      rintro asked ⟨⟩
      refine ⟨libName, known, ?_⟩
      rcases yields path rfl with plain | ⟨name, member, named⟩
      · exact Or.inl plain
      · obtain ⟨number, here, nonempty, rfl⟩ := numbered name member
        exact Or.inr ⟨number, here, nonempty, named⟩

theorem ArchLoader.loadLib_loads (loader : ArchLoader) (path : Option JString) (system : JavaSystem) :
    loader.Loads (loader.loadLib path system).1.request (loader.loadLib path system).2 := by
  have same : loader.Decided loader := fun _ _ known => known
  rw [ArchLoader.loadLib]
  cases first : loader.getLibName system with
  | error error => exact ArchLoader.fail_loads same rfl error
  | ok result =>
    obtain ⟨libName, ensured, known⟩ := bind_eq_ok.mp first
    cases known
    have decided := ensureLibName_decided ensured
    obtain ⟨versioned, second, numbered⟩ := getVersionedLibName_ok (ensureLibName_again ensured) rfl
    have files : ∀ name ∈ versioned, ∃ base, name = libFileName base := by
      intro name member
      obtain ⟨number, -, -, rfl⟩ := numbered name member
      exact ⟨_, rfl⟩
    simp only [second]
    cases (if path.getD [] = [] then system.getProperty (loader.packageName ++ literal ".path") else path) with
    | some path =>
      by_cases there : path = literal "-"
      · simp only [if_pos there]
        exact ⟨decided, rfl, by simp⟩
      · simp only [if_neg there]
        exact loadFound_loads decided rfl rfl numbered
          (findEither_yields files fun base => find_yields system.tree base path)
    | none =>
      simp only
      cases jar : eitherBesideJar system loader.resourcePath (libFileName libName) versioned
          ({ loader with libName := some libName }.getJarName system) with
      | error exception => exact ArchLoader.fail_loads decided rfl _
      | ok result =>
        obtain ⟨lib, jarName⟩ := result
        refine loadFound_loads decided rfl rfl numbered (searchPlaces_yields files system _ fun path found => ?_)
        subst found
        exact eitherBesideJar_named files jar

theorem ArchLoader.load_loaded (loaded : loader.loaded = true) (path : Option JString) (system : JavaSystem) :
    loader.load path system = (⟨none, none⟩, loader) := if_pos loaded

theorem ArchLoader.load_returned {path : Option JString} (returned : (loader.load path system).1.thrown = none) :
    (loader.load path system).2.loaded = true := by
  by_cases done : loader.loaded = true
  · rw [ArchLoader.load_loaded done]
    exact done
  · rw [ArchLoader.load, if_neg done] at returned ⊢
    exact Option.isNone_iff_eq_none.mpr returned

/-- `load` asks as `loadLib` does, or not at all. -/
theorem ArchLoader.load_loads (loader : ArchLoader) (path : Option JString) (system : JavaSystem) :
    loader.Loads (loader.load path system).1.request (loader.load path system).2 := by
  rw [ArchLoader.load]
  by_cases done : loader.loaded = true
  · rw [if_pos done]
    exact ⟨fun _ _ known => known, rfl, by simp⟩
  · rw [if_neg done]
    obtain ⟨decided, version, names⟩ := loader.loadLib_loads path system
    exact ⟨decided, version, names⟩

theorem loaderStep_decided (loader : ArchLoader) (call : LoaderCall) : loader.Decided (loaderStep loader call).2 := by
  cases call with
  | load path system => exact (loader.load_loads path system).decided
  | setVersion version => exact fun _ _ known => known

theorem loaderAfter_decided (loader : ArchLoader) (calls : List LoaderCall) : loader.Decided (loaderAfter loader calls) := by
  induction calls generalizing loader with
  | nil => exact fun _ _ known => known
  | cons call calls ih =>
    exact fun libName letters known => ih _ libName letters (loaderStep_decided loader call libName letters known)

/-- After `load` has returned, no call of it has anything to do. -/
theorem loaderAfter_loaded {loader : ArchLoader} (loaded : loader.loaded = true) (calls : List LoaderCall) :
    (loaderAfter loader calls).loaded = true := by
  induction calls generalizing loader with
  | nil => exact loaded
  | cons call calls ih =>
    refine ih ?_
    cases call with
    | load path system =>
      have same := ArchLoader.load_loaded loaded path system
      exact (congrArg (fun result => result.2.loaded) same).trans loaded
    | setVersion version => exact loaded

theorem loaderAfter_append (loader : ArchLoader) (calls later : List LoaderCall) :
    loaderAfter loader (calls ++ later) = loaderAfter (loaderAfter loader calls) later := List.foldl_append

end Load

/-- `System.mapLibraryName` of Linux, which `System.loadLibrary` looks for. -/
def mapLibraryName (libName : JString) : JString := literal "lib" ++ libName ++ literal ".so"

/-- The loader of `Sysm` -/
def sysmLoader : ArchLoader where
  kind := .sysmLoader
  loaded := false
  name := literal "sysm"
  packageName := literal "edu.scut.cs.hbdc.sysm"
  jarName := literal "sysm.jar"
  libName := none
  resourcePath := literal "edu/scut/cs/hbdc/sysm"
  version := none

example : (ArchLoader.new .sysmLoader (literal "edu.scut.cs.hbdc.sysm.Sysm")).map ArchLoader.jarName = some sysmLoader.jarName := by
  decide +kernel

def optTree : FileTree where
  workDir := []
  entries path := if path = ⟨true, [literal "opt"]⟩ then some [literal "libhbdcsysm-amd64-linux.so"] else none
  isDirectory path := decide (path = ⟨true, [literal "opt"]⟩)

/-- Linux on amd64, with the library in `/opt`. -/
def linuxSystem : JavaSystem where
  getProperty key :=
    if key = literal "os.name" then some (literal "Linux") else if key = literal "os.arch" then some (literal "amd64") else none
  useDmalloc := false
  tree := optTree
  classLoader := none
  links _ := true

def loadOpt : LoaderCall := .load (some (literal "/opt")) linuxSystem

end Sysm.Jni
