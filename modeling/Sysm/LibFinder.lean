import Sysm.Finder

namespace Sysm.Jni
open JavaString

/-- The files: the working directory, the names in each directory, which is no
link, and the paths that lead to a directory if links are followed. -/
structure FileTree where
  workDir : List JString
  entries : JavaPath → Option (List JString)
  isDirectory : JavaPath → Bool

def FileTree.toAbsolutePath (tree : FileTree) (path : JavaPath) : JavaPath :=
  if path.absolute then path else ⟨true, tree.workDir ++ path.names⟩

/-- `Files.walk` from a path that is visited itself. -/
def FileTree.walk (tree : FileTree) : Nat → JavaPath → List JavaPath
  | 0, root => [root]
  | maxDepth + 1, root => root :: ((tree.entries root).getD []).flatMap fun name => tree.walk maxDepth (root.resolve name)

/-- `path.getFileName().endsWith(libName)`. A file name is a path of one name. -/
def endsWithLib (libName : JString) (path : JavaPath) : Except JavaException Bool := do
  let some fileName := path.getFileName | throw .nullPointer
  let other ← JavaPath.parse libName
  return JavaPath.endsWith ⟨false, [fileName].filter (· != [])⟩ other

/-- The filter of the visited paths. -/
def filterLibs (libName : JString) : List JavaPath → Except JavaException (List JavaPath)
  | [] => return []
  | path :: paths => do
    let ends ← endsWithLib libName path
    let res ← filterLibs libName paths
    return if ends then path :: res else res

def search (tree : FileTree) (root : Option JavaPath) (libName : JString) (maxDepth : Nat) :
    Except JavaException (Option JavaPath) := do
  let some root := root | return none
  if (tree.entries root).isNone then return none
  match ← filterLibs libName (tree.walk maxDepth root) with
  | [] => return none
  | [lib] => return some (tree.toAbsolutePath lib)
  | _ => throw (.archLoader (literal "There is duplicate native lib " ++ libName))

/-- The check of the library's name in the methods that search for it. -/
def requireLibName (libName : Option JString) : Except JavaException JString :=
  match libName with
  | none => throw (.illegalArgument (literal "The libName is null or empty"))
  | some libName =>
    if libName = [] then throw (.illegalArgument (literal "The libName is null or empty")) else return libName

/-- How `findInClasspath` searches the directory of the resource. -/
def searchResource (tree : FileTree) (libName : JString) : Option Url → Except JavaException (Option JavaPath)
  | none => return none
  | some url =>
    if url.protocol = literal "file" then search tree (some (.get url.path)) libName 1
    else return none

/-- The loop of `findInClasspath` over the URLs. -/
def searchURLs (tree : FileTree) (libName : JString) (lib : Option JavaPath) : List Url →
    Except JavaException (Option JavaPath)
  | [] => return lib
  | tmp :: urls => do
    let classpath := (JavaPath.get tmp.path).getParent
    let lib ← search tree classpath libName 1
    searchURLs tree libName lib urls

def findInClasspath (tree : FileTree) (libName : Option JString) (loader : Option ClassLoader) (resPath : JString) :
    Except JavaException (Option JavaPath) := do
  let libName ← requireLibName libName
  let some loader := loader | throw .nullPointer
  let lib ← searchResource tree libName (loader.getResource resPath)
  let lib ← match lib, loader.getURLs with
    | none, some urls => searchURLs tree libName lib urls
    | _, _ => pure lib
  match lib, loader.getResource [] with
  | none, some url => search tree (some (.get url.path)) libName 1
  | _, _ => return lib

/-- The search at the directory and below its subdirectories. -/
def searchBeside (tree : FileTree) (libName : JString) (lib : Option JavaPath) (classpath : Option JavaPath) :
    Except JavaException (Option JavaPath) := do
  let lib ← if classpath.isSome then search tree classpath libName 1 else pure lib
  match lib with
  | none => search tree classpath libName 2
  | some lib => return some lib

/-- The loop of `findBesideClasspath` over the URLs. -/
def searchBesideURLs (tree : FileTree) (libName : JString) (lib : Option JavaPath) : List Url →
    Except JavaException (Option JavaPath)
  | [] => return lib
  | tmp :: urls => do
    let classpath := (JavaPath.get tmp.path).getParent
    let lib ← searchBeside tree libName lib classpath
    searchBesideURLs tree libName lib urls

def findBesideClasspath (tree : FileTree) (libName : Option JString) (loader : Option ClassLoader) :
    Except JavaException (Option JavaPath) := do
  let libName ← requireLibName libName
  let some loader := loader | throw .nullPointer
  let lib ← match loader.getResource [] with
    | some url =>
      let classpath := JavaPath.get url.path
      if tree.isDirectory classpath then searchBeside tree libName none classpath.getParent else pure none
    | none => pure none
  match lib, loader.getURLs with
  | none, some urls => searchBesideURLs tree libName lib urls
  | _, _ => return lib

/-- The loop of `findInJavaLibPath` over the tokens of the property, which ends
with the first library. -/
def searchTokens (tree : FileTree) (libName : JString) : List JString → Except JavaException (Option JavaPath)
  | [] => return none
  | path :: tokens => do
    let root ← JavaPath.parse path
    let lib ← search tree (some root) libName 1
    if lib.isSome then return lib
    searchTokens tree libName tokens

def findInJavaLibPath (tree : FileTree) (libraryPath libName : JString) : Except JavaException (Option JavaPath) :=
  searchTokens tree libName ((libraryPath.splitOn 58).filter (· != []))

/-- The path has the name of the library. -/
def isLib (libName : JString) (path : JavaPath) : Bool :=
  path.getFileName.any fun fileName => JavaPath.endsWith ⟨false, [fileName].filter (· != [])⟩ (.get libName)

/-- The library is in the directory, as deep as it is searched. -/
def Contains (tree : FileTree) (libName : JString) (maxDepth : Nat) (dir : JavaPath) : Prop :=
  (tree.entries dir).isSome ∧ ∃ path ∈ tree.walk maxDepth dir, isLib libName path

/-- The search of the directory ends with an exception: the directory is the
root, which has no file name, no path has the name, or there are duplicates. -/
def Fails (tree : FileTree) (libName : JString) (maxDepth : Nat) (dir : JavaPath) : Prop :=
  (tree.entries dir).isSome ∧
    (dir.getFileName = none ∨ 0 ∈ libName ∨ 2 ≤ ((tree.walk maxDepth dir).filter (isLib libName)).length)

section Search

variable {tree : FileTree} {libName : JString} {maxDepth : Nat} {dir : JavaPath}

theorem getFileName_resolve (dir : JavaPath) (name : JString) : (dir.resolve name).getFileName = some name := by
  have names : dir.names ++ [name] ≠ [] := by simp
  rw [JavaPath.getFileName, JavaPath.resolve, if_neg names, List.getLast?_concat]

/-- Only the path that the walk starts from may have no file name. -/
theorem walk_fileName (named : dir.getFileName ≠ none) : ∀ path ∈ tree.walk maxDepth dir, path.getFileName ≠ none := by
  induction maxDepth generalizing dir with
  | zero =>
    intro path member
    rw [FileTree.walk, List.mem_singleton] at member
    rwa [member]
  | succ maxDepth ih =>
    intro path member
    rw [FileTree.walk, List.mem_cons, List.mem_flatMap] at member
    rcases member with rfl | ⟨name, -, below⟩
    · exact named
    · refine ih ?_ path below
      rw [getFileName_resolve]
      exact Option.some_ne_none name

theorem walk_starts (tree : FileTree) (maxDepth : Nat) (dir : JavaPath) : ∃ below, tree.walk maxDepth dir = dir :: below := by
  cases maxDepth with
  | zero => exact ⟨[], rfl⟩
  | succ maxDepth => exact ⟨_, rfl⟩

theorem endsWithLib_eq {path : JavaPath} (named : path.getFileName ≠ none) (plain : 0 ∉ libName) :
    endsWithLib libName path = .ok (isLib libName path) := by
  obtain ⟨fileName, same⟩ := Option.ne_none_iff_exists'.mp named
  simp only [endsWithLib, same, JavaPath.parse, if_neg plain, isLib, Option.any_some]
  rfl

theorem filterLibs_eq {paths : List JavaPath} (named : ∀ path ∈ paths, path.getFileName ≠ none) (plain : 0 ∉ libName) :
    filterLibs libName paths = .ok (paths.filter (isLib libName)) := by
  induction paths with
  | nil => rfl
  | cons path paths ih =>
    have rest := ih fun path member => named path (List.mem_cons_of_mem _ member)
    rw [filterLibs, endsWithLib_eq (named path (List.mem_cons_self ..)) plain, rest, List.filter_cons]
    rfl

theorem search_missing (no : (tree.entries dir).isSome = false) : search tree (some dir) libName maxDepth = .ok none := by
  rw [Option.isSome_eq_false_iff] at no
  simp only [search, no, if_true]
  rfl

theorem search_directory (directory : (tree.entries dir).isSome = true) :
    search tree (some dir) libName maxDepth = filterLibs libName (tree.walk maxDepth dir) >>= fun
      | [] => .ok none
      | [lib] => .ok (some (tree.toAbsolutePath lib))
      | _ => .error (.archLoader (literal "There is duplicate native lib " ++ libName)) := by
  have there : (tree.entries dir).isNone = false := by rw [Option.isNone_eq_false_iff, directory]
  simp only [search, there, Bool.false_eq_true, if_false]
  rfl

/-- Without an exception the search tells whether the library is there. -/
theorem search_ok (fine : ¬Fails tree libName maxDepth dir) :
    ∃ lib, search tree (some dir) libName maxDepth = .ok lib ∧ (lib.isSome ↔ Contains tree libName maxDepth dir) := by
  cases directory : (tree.entries dir).isSome with
  | false => exact ⟨none, search_missing directory, by simp [Contains, directory]⟩
  | true =>
    have clean := not_or.mp fun fails => fine ⟨directory, fails⟩
    obtain ⟨plain, few⟩ := not_or.mp clean.2
    have contains : Contains tree libName maxDepth dir ↔ (tree.walk maxDepth dir).filter (isLib libName) ≠ [] := by
      simp only [Contains, directory, true_and, ne_eq, List.filter_eq_nil_iff, not_forall, not_not, exists_prop]
    rw [search_directory directory, filterLibs_eq (walk_fileName clean.1) plain, contains]
    cases found : (tree.walk maxDepth dir).filter (isLib libName) with
    | nil => exact ⟨none, rfl, by simp⟩
    | cons lib others =>
      cases others with
      | nil => exact ⟨some (tree.toAbsolutePath lib), rfl, by simp⟩
      | cons other others =>
        rw [found, List.length_cons, List.length_cons] at few
        omega

theorem search_error (fails : Fails tree libName maxDepth dir) :
    ∃ exception, search tree (some dir) libName maxDepth = .error exception := by
  obtain ⟨directory, reason⟩ := fails
  rw [search_directory directory]
  obtain ⟨below, starts⟩ := walk_starts tree maxDepth dir
  cases name : dir.getFileName with
  | none =>
    refine ⟨.nullPointer, ?_⟩
    rw [starts, filterLibs]
    simp only [endsWithLib, name]
    rfl
  | some fileName =>
    have named : dir.getFileName ≠ none := by simp [name]
    by_cases plain : 0 ∈ libName
    · refine ⟨.invalidPath, ?_⟩
      rw [starts, filterLibs]
      simp only [endsWithLib, name, JavaPath.parse, if_pos plain]
      rfl
    · have many : 2 ≤ ((tree.walk maxDepth dir).filter (isLib libName)).length := by simpa [name, plain] using reason
      rw [filterLibs_eq (walk_fileName named) plain]
      cases found : (tree.walk maxDepth dir).filter (isLib libName) with
      | nil => simp [found] at many
      | cons lib others =>
        cases others with
        | nil => simp [found] at many
        | cons other others => exact ⟨_, rfl⟩

variable {classpath : Option JavaPath}

/-- There is nothing to search without a directory. -/
theorem search_classpath_ok (fine : ∀ dir ∈ classpath, ¬Fails tree libName maxDepth dir) :
    ∃ lib, search tree classpath libName maxDepth = .ok lib ∧
      (lib.isSome ↔ ∃ dir ∈ classpath, Contains tree libName maxDepth dir) := by
  cases classpath with
  | none => exact ⟨none, rfl, by simp⟩
  | some dir =>
    obtain ⟨lib, run, iff⟩ := search_ok (fine dir rfl)
    exact ⟨lib, run, by simpa using iff⟩

theorem search_classpath_error (fails : ∃ dir ∈ classpath, Fails tree libName maxDepth dir) :
    ∃ exception, search tree classpath libName maxDepth = .error exception := by
  obtain ⟨dir, rfl, fails⟩ := fails
  exact search_error fails

/-- A name without slashes is the name of the file that is found. -/
theorem isLib_iff (single : JavaPath.get libName = ⟨false, [libName]⟩) (path : JavaPath) :
    isLib libName path = true ↔ path.getFileName = some libName := by
  have letters : libName ≠ [] := by
    rintro rfl
    exact absurd single (by decide)
  rw [isLib, single]
  cases path.getFileName with
  | none => simp
  | some fileName =>
    simp only [Option.any_some, JavaPath.endsWith, List.cons_ne_nil, decide_false, Bool.false_and, Bool.false_eq_true, if_false,
      decide_eq_true_eq, Option.some.injEq]
    by_cases empty : fileName = []
    · simp [empty, letters.symm]
    · have kept : [fileName].filter (· != []) = [fileName] := by simp [empty]
      rw [kept]
      constructor
      · intro suffix
        exact (List.singleton_inj.mp (suffix.eq_of_length rfl)).symm
      · rintro rfl
        exact List.suffix_refl _

end Search

/-- The directory beside an URL of the class path. -/
def urlDir (url : Url) : Option JavaPath := (JavaPath.get url.path).getParent

section URLs

variable {tree : FileTree} {libName : JString} {urls : List Url}

/-- The loop returns what the search beside the last URL brings. -/
theorem searchURLs_ok (fine : ∀ url ∈ urls, ∀ dir ∈ urlDir url, ¬Fails tree libName 1 dir) (lib : Option JavaPath) :
    ∃ lib', searchURLs tree libName lib urls = .ok lib' ∧
      (lib'.isSome ↔ (∃ url ∈ urls.getLast?, ∃ dir ∈ urlDir url, Contains tree libName 1 dir) ∨ (urls = [] ∧ lib.isSome)) := by
  induction urls generalizing lib with
  | nil => exact ⟨lib, rfl, by simp⟩
  | cons url urls ih =>
    obtain ⟨here, run, found⟩ := search_classpath_ok (fine url (List.mem_cons_self ..))
    obtain ⟨lib', loop, last⟩ := ih (fun url member => fine url (List.mem_cons_of_mem _ member)) here
    refine ⟨lib', ?_, ?_⟩
    · change (search tree (urlDir url) libName 1 >>= fun lib => searchURLs tree libName lib urls) = _
      rw [run]
      exact loop
    · rw [last, found]
      cases urls with
      | nil => simp
      | cons next urls => simp [List.getLast?_cons_cons]

theorem searchURLs_error (fails : ∃ url ∈ urls, ∃ dir ∈ urlDir url, Fails tree libName 1 dir) (lib : Option JavaPath) :
    ∃ exception, searchURLs tree libName lib urls = .error exception := by
  induction urls generalizing lib with
  | nil =>
    obtain ⟨url, member, -⟩ := fails
    cases member
  | cons url urls ih =>
    change ∃ exception, (search tree (urlDir url) libName 1 >>= fun lib => searchURLs tree libName lib urls) = _
    by_cases here : ∃ dir ∈ urlDir url, Fails tree libName 1 dir
    · obtain ⟨exception, run⟩ := search_classpath_error here
      exact ⟨exception, by rw [run]; rfl⟩
    · obtain ⟨lib, run, -⟩ := search_classpath_ok fun dir member failed => here ⟨dir, member, failed⟩
      obtain ⟨there, member, failed⟩ := fails
      rw [run]
      rcases List.mem_cons.mp member with rfl | later
      · exact absurd failed here
      · exact ih ⟨there, later, failed⟩ lib

end URLs

section Beside

variable {tree : FileTree} {libName : JString} {urls : List Url} {dir : JavaPath} {lib : Option JavaPath}

/-- The library is in the directory or in one of its subdirectories. -/
def ContainsBeside (tree : FileTree) (libName : JString) (dir : JavaPath) : Prop :=
  Contains tree libName 1 dir ∨ Contains tree libName 2 dir

/-- One of the searches of the directory ends with an exception. There is only
one if it finds the library. -/
def FailsBeside (tree : FileTree) (libName : JString) (dir : JavaPath) : Prop :=
  Fails tree libName 1 dir ∨ (¬Contains tree libName 1 dir ∧ Fails tree libName 2 dir)

theorem searchBeside_ok (fine : ¬FailsBeside tree libName dir) :
    ∃ lib', searchBeside tree libName lib (some dir) = .ok lib' ∧ (lib'.isSome ↔ ContainsBeside tree libName dir) := by
  obtain ⟨fineHere, fineBelow⟩ := not_or.mp fine
  obtain ⟨here, run, found⟩ := search_ok fineHere
  cases here with
  | some path =>
    have contains := found.mp rfl
    refine ⟨some path, ?_, by simp [ContainsBeside, contains]⟩
    rw [searchBeside, Option.isSome_some, if_pos rfl, run]
    rfl
  | none =>
    have absent : ¬Contains tree libName 1 dir := by simpa using found
    obtain ⟨below, run', found'⟩ := search_ok fun fails => fineBelow ⟨absent, fails⟩
    refine ⟨below, ?_, by simp [ContainsBeside, absent, found']⟩
    rw [searchBeside, Option.isSome_some, if_pos rfl, run]
    exact run'

theorem searchBeside_error (fails : FailsBeside tree libName dir) :
    ∃ exception, searchBeside tree libName lib (some dir) = .error exception := by
  rw [searchBeside, Option.isSome_some, if_pos rfl]
  by_cases failsHere : Fails tree libName 1 dir
  · obtain ⟨exception, run⟩ := search_error failsHere
    exact ⟨exception, by rw [run]; rfl⟩
  · obtain ⟨here, run, found⟩ := search_ok failsHere
    obtain ⟨absent, failsBelow⟩ := fails.resolve_left failsHere
    have nothing : here = none := by
      rw [← Option.not_isSome_iff_eq_none, found]
      exact absent
    rw [run, nothing]
    exact search_error failsBelow

/-- Beside an URL without a parent nothing is searched that could be found. -/
theorem searchBeside_none (lib : Option JavaPath) : searchBeside tree libName lib none = .ok lib := by
  cases lib <;> rfl

/-- The loop returns what the searches beside the last URL with a parent bring. -/
theorem searchBesideURLs_ok (fine : ∀ dir ∈ urls.filterMap urlDir, ¬FailsBeside tree libName dir) (lib : Option JavaPath) :
    ∃ lib', searchBesideURLs tree libName lib urls = .ok lib' ∧
      (lib'.isSome ↔ (∃ dir ∈ (urls.filterMap urlDir).getLast?, ContainsBeside tree libName dir) ∨
        (urls.filterMap urlDir = [] ∧ lib.isSome)) := by
  induction urls generalizing lib with
  | nil => exact ⟨lib, rfl, by simp⟩
  | cons url urls ih =>
    have step : searchBesideURLs tree libName lib (url :: urls) =
        searchBeside tree libName lib (urlDir url) >>= fun lib => searchBesideURLs tree libName lib urls := rfl
    cases parent : urlDir url with
    | none =>
      have same : (url :: urls).filterMap urlDir = urls.filterMap urlDir := List.filterMap_cons_none parent
      rw [same] at fine ⊢
      rw [step, parent, searchBeside_none]
      exact ih fine lib
    | some dir =>
      have more : (url :: urls).filterMap urlDir = dir :: urls.filterMap urlDir := List.filterMap_cons_some parent
      rw [more] at fine ⊢
      obtain ⟨here, run, found⟩ := @searchBeside_ok tree libName dir lib (fine dir (List.mem_cons_self ..))
      obtain ⟨lib', loop, last⟩ := ih (fun dir member => fine dir (List.mem_cons_of_mem _ member)) here
      refine ⟨lib', ?_, ?_⟩
      · rw [step, parent, run]
        exact loop
      · rw [last, found]
        cases urls.filterMap urlDir with
        | nil => simp
        | cons next dirs => simp [List.getLast?_cons_cons]

theorem searchBesideURLs_error (fails : ∃ dir ∈ urls.filterMap urlDir, FailsBeside tree libName dir) (lib : Option JavaPath) :
    ∃ exception, searchBesideURLs tree libName lib urls = .error exception := by
  induction urls generalizing lib with
  | nil =>
    obtain ⟨dir, member, -⟩ := fails
    cases member
  | cons url urls ih =>
    have step : searchBesideURLs tree libName lib (url :: urls) =
        searchBeside tree libName lib (urlDir url) >>= fun lib => searchBesideURLs tree libName lib urls := rfl
    obtain ⟨there, member, failed⟩ := fails
    cases parent : urlDir url with
    | none =>
      rw [List.filterMap_cons_none parent] at member
      rw [step, parent, searchBeside_none]
      exact ih ⟨there, member, failed⟩ lib
    | some dir =>
      rw [List.filterMap_cons_some parent] at member
      rw [step, parent]
      by_cases here : FailsBeside tree libName dir
      · obtain ⟨exception, run⟩ := @searchBeside_error tree libName dir lib here
        exact ⟨exception, by rw [run]; rfl⟩
      · obtain ⟨lib', run, -⟩ := @searchBeside_ok tree libName dir lib here
        rw [run]
        rcases List.mem_cons.mp member with rfl | later
        · exact absurd failed here
        · exact ih ⟨there, later, failed⟩ lib'

end Beside

/-- The directory of the resource, if it is a file. -/
def resourceDir (url : Option Url) : Option JavaPath :=
  url.bind fun url => if url.protocol = literal "file" then some (.get url.path) else none

/-- The root of the class path. -/
def rootDir (loader : ClassLoader) : Option JavaPath := (loader.getResource []).map fun url => .get url.path

/-- All directories that `findInClasspath` may search. -/
def classpathDirs (loader : ClassLoader) (resPath : JString) : List JavaPath :=
  (resourceDir (loader.getResource resPath)).toList ++ (loader.getURLs.getD []).filterMap urlDir ++ (rootDir loader).toList

/-- A library is returned exactly if one of the directories has it. -/
def FindsInClasspath (tree : FileTree) (libName : JString) (loader : ClassLoader) (resPath : JString) : Prop :=
  ∃ lib, findInClasspath tree (some libName) (some loader) resPath = .ok lib ∧
    (lib.isSome ↔ ∃ dir ∈ classpathDirs loader resPath, Contains tree libName 1 dir)

/-- The same of the loop of `findBesideClasspath`. -/
def FindsBeside (tree : FileTree) (libName : JString) (urls : List Url) : Prop :=
  ∃ lib, searchBesideURLs tree libName none urls = .ok lib ∧
    (lib.isSome ↔ ∃ dir ∈ urls.filterMap urlDir, ContainsBeside tree libName dir)

section Laws

variable {tree : FileTree} {libName : JString}

/-- The three stages, each for what the one before did not find. -/
theorem findInClasspath_stages (name : libName ≠ []) (loader : ClassLoader) (resPath : JString) :
    findInClasspath tree (some libName) (some loader) resPath =
      search tree (resourceDir (loader.getResource resPath)) libName 1 >>= fun lib =>
        if lib.isSome then .ok lib else searchURLs tree libName none (loader.getURLs.getD []) >>= fun lib =>
          if lib.isSome then .ok lib else search tree (rootDir loader) libName 1 := by
  have required : requireLibName (some libName) = .ok libName := if_neg name
  have resource : ∀ url, searchResource tree libName url = search tree (resourceDir url) libName 1 := by
    intro url
    cases url with
    | none => rfl
    | some url =>
      rw [searchResource, resourceDir, Option.bind_some]
      by_cases file : url.protocol = literal "file"
      · rw [if_pos file, if_pos file]
      · rw [if_neg file, if_neg file]
        rfl
  rw [findInClasspath, required, rootDir]
  simp only [bind, Except.bind, resource]
  cases search tree (resourceDir (loader.getResource resPath)) libName 1 with
  | error exception => rfl
  | ok lib =>
    cases lib with
    | some lib => rfl
    | none =>
      cases loader.getURLs with
      | none => cases loader.getResource [] <;> rfl
      | some urls =>
        simp only [Option.getD_some]
        cases searchURLs tree libName none urls with
        | error exception => rfl
        | ok lib =>
          cases lib with
          | some lib => rfl
          | none => cases loader.getResource [] <;> rfl

section Stages

variable {result rest : Except JavaException (Option JavaPath)} {there found : Prop} {lib : Option JavaPath}

theorem not_finds_of_error (fails : ∃ exception, result = .error exception) :
    ¬∃ lib, result = .ok lib ∧ (lib.isSome ↔ there) := by
  rintro ⟨lib, returned, -⟩
  obtain ⟨exception, run⟩ := fails
  rw [run] at returned
  cases returned

/-- A call that returns is right if what it found is what is there. -/
theorem finds_iff (run : result = .ok lib) (iff : lib.isSome ↔ found) :
    (∃ lib, result = .ok lib ∧ (lib.isSome ↔ there)) ↔ (found ↔ there) := by
  rw [run, ← iff]
  constructor
  · rintro ⟨lib', same, law⟩
    cases same
    exact law
  · exact fun law => ⟨lib, rfl, law⟩

/-- A stage that ends with an exception ends all. -/
theorem not_finds_orElse (fails : ∃ exception, result = .error exception) :
    ¬∃ lib, (result >>= fun lib => if lib.isSome then .ok lib else rest) = .ok lib ∧ (lib.isSome ↔ there) := by
  obtain ⟨exception, run⟩ := fails
  exact not_finds_of_error ⟨exception, by rw [run]; rfl⟩

/-- The next stage is for what a stage did not find. -/
theorem finds_orElse_iff (run : result = .ok lib) (iff : lib.isSome ↔ found) :
    (∃ lib, (result >>= fun lib => if lib.isSome then .ok lib else rest) = .ok lib ∧ (lib.isSome ↔ there)) ↔
      (found ∧ there) ∨ (¬found ∧ ∃ lib, rest = .ok lib ∧ (lib.isSome ↔ there)) := by
  rw [run, ← iff]
  cases lib with
  | none =>
    simp only [Option.isSome_none, Bool.false_eq_true, false_and, not_false_iff, true_and, false_or]
    rfl
  | some path =>
    have ends : (Except.ok (some path) >>= fun lib => if lib.isSome then .ok lib else rest) = .ok (some path) := rfl
    rw [finds_iff ends Iff.rfl]
    simp only [Option.isSome_some, true_and, not_true, false_and, or_false, true_iff]

theorem search_finds_iff {classpath : Option JavaPath} {maxDepth : Nat} :
    (∃ lib, search tree classpath libName maxDepth = .ok lib ∧ (lib.isSome ↔ there)) ↔
      (∀ dir ∈ classpath, ¬Fails tree libName maxDepth dir) ∧
        ((∃ dir ∈ classpath, Contains tree libName maxDepth dir) ↔ there) := by
  by_cases fails : ∃ dir ∈ classpath, Fails tree libName maxDepth dir
  · refine iff_of_false (not_finds_of_error (search_classpath_error fails)) fun holds => ?_
    obtain ⟨dir, member, failed⟩ := fails
    exact holds.1 dir member failed
  · have fine : ∀ dir ∈ classpath, ¬Fails tree libName maxDepth dir := by simpa using fails
    obtain ⟨lib, run, iff⟩ := search_classpath_ok fine
    rw [finds_iff run iff, and_iff_right fine]

/-- The last element decides for all if it is one that counts, or none is. -/
theorem last_decides_iff {α : Type} {p : α → Prop} {l : List α} :
    ((∃ x ∈ l.getLast?, p x) ↔ ∃ x ∈ l, p x) ↔ (∃ x ∈ l.getLast?, p x) ∨ ∀ x ∈ l, ¬p x := by
  have listed : (∃ x ∈ l.getLast?, p x) → ∃ x ∈ l, p x := by
    rintro ⟨x, last, holds⟩
    exact ⟨x, List.mem_of_getLast? last, holds⟩
  have nowhere : (∀ x ∈ l, ¬p x) ↔ ¬∃ x ∈ l, p x := by simp only [not_exists, not_and]
  rw [nowhere]
  constructor
  · intro iff
    rw [iff]
    exact em _
  · rintro (last | absent)
    · exact iff_of_true last (listed last)
    · exact iff_of_false (mt listed absent) absent

/-- What the three stages come to, if the last URL is one of the URLs. -/
theorem stages_iff {resource last listed root fine : Prop} (member : last → listed) :
    (resource ∧ (resource ∨ listed ∨ root)) ∨ (¬resource ∧ ((last ∧ (resource ∨ listed ∨ root)) ∨
      (¬last ∧ fine ∧ (root ↔ resource ∨ listed ∨ root)))) ↔ resource ∨ (last ∨ (fine ∧ (root ∨ ¬listed))) := by
  by_cases here : resource
  · simp only [here, true_or, and_true, not_true, false_and, or_false]
  · by_cases final : last
    · simp only [here, final, member final, true_or, or_true, and_true, not_true, not_false_iff, false_and, or_false]
    · have rest : (root ↔ listed ∨ root) ↔ root ∨ ¬listed := by
        by_cases found : root
        · simp only [found, or_true, true_or]
        · simp only [found, or_false, false_or, false_iff]
      simp only [here, final, rest, false_and, false_or, not_false_iff, true_and]

end Stages

theorem mem_classpathDirs {loader : ClassLoader} {resPath : JString} {p : JavaPath → Prop} :
    (∃ dir ∈ classpathDirs loader resPath, p dir) ↔ (∃ dir ∈ resourceDir (loader.getResource resPath), p dir) ∨
      (∃ url ∈ loader.getURLs.getD [], ∃ dir ∈ urlDir url, p dir) ∨ ∃ dir ∈ rootDir loader, p dir := by
  constructor
  · rintro ⟨dir, member, holds⟩
    simp only [classpathDirs, List.mem_append, Option.mem_toList, List.mem_filterMap] at member
    rcases member with (resource | ⟨url, listed, parent⟩) | root
    · exact Or.inl ⟨dir, resource, holds⟩
    · exact Or.inr (Or.inl ⟨url, listed, dir, parent, holds⟩)
    · exact Or.inr (Or.inr ⟨dir, root, holds⟩)
  · simp only [classpathDirs, List.mem_append, Option.mem_toList, List.mem_filterMap]
    rintro (⟨dir, resource, holds⟩ | ⟨url, listed, dir, parent, holds⟩ | ⟨dir, root, holds⟩)
    · exact ⟨dir, Or.inl (Or.inl resource), holds⟩
    · exact ⟨dir, Or.inl (Or.inr ⟨url, listed, parent⟩), holds⟩
    · exact ⟨dir, Or.inr root, holds⟩

theorem findsInClasspath_iff {loader : ClassLoader} {resPath : JString} : FindsInClasspath tree libName loader resPath ↔
    libName ≠ [] ∧ (∀ dir ∈ resourceDir (loader.getResource resPath), ¬Fails tree libName 1 dir) ∧
      ((∃ dir ∈ resourceDir (loader.getResource resPath), Contains tree libName 1 dir) ∨
        (∀ url ∈ loader.getURLs.getD [], ∀ dir ∈ urlDir url, ¬Fails tree libName 1 dir) ∧
          ((∃ url ∈ (loader.getURLs.getD []).getLast?, ∃ dir ∈ urlDir url, Contains tree libName 1 dir) ∨
            (∀ dir ∈ rootDir loader, ¬Fails tree libName 1 dir) ∧
              ((∃ dir ∈ rootDir loader, Contains tree libName 1 dir) ∨
                ∀ url ∈ loader.getURLs.getD [], ∀ dir ∈ urlDir url, ¬Contains tree libName 1 dir))) := by
  by_cases name : libName = []
  · refine iff_of_false ?_ fun holds => holds.1 name
    rintro ⟨lib, returned, -⟩
    rw [name] at returned
    cases returned
  rw [FindsInClasspath, findInClasspath_stages name, mem_classpathDirs]
  by_cases failsResource : ∃ dir ∈ resourceDir (loader.getResource resPath), Fails tree libName 1 dir
  · refine iff_of_false (not_finds_orElse (search_classpath_error failsResource)) fun holds => ?_
    obtain ⟨dir, member, failed⟩ := failsResource
    exact holds.2.1 dir member failed
  have fineResource : ∀ dir ∈ resourceDir (loader.getResource resPath), ¬Fails tree libName 1 dir := by
    simpa only [not_exists, not_and] using failsResource
  obtain ⟨lib, run, found⟩ := search_classpath_ok fineResource
  rw [finds_orElse_iff run found]
  -- what is left is about the URLs, where the last one decides
  by_cases failsURLs : ∃ url ∈ loader.getURLs.getD [], ∃ dir ∈ urlDir url, Fails tree libName 1 dir
  · have ends := @not_finds_orElse _ (search tree (rootDir loader) libName 1)
      ((∃ dir ∈ resourceDir (loader.getResource resPath), Contains tree libName 1 dir) ∨
        (∃ url ∈ loader.getURLs.getD [], ∃ dir ∈ urlDir url, Contains tree libName 1 dir) ∨
          ∃ dir ∈ rootDir loader, Contains tree libName 1 dir) (searchURLs_error failsURLs none)
    have notFine : ¬∀ url ∈ loader.getURLs.getD [], ∀ dir ∈ urlDir url, ¬Fails tree libName 1 dir := by
      simpa only [not_forall, not_not, exists_prop] using failsURLs
    rw [iff_false_intro ends, and_false, or_false, and_iff_right name, and_iff_right fineResource, iff_false_intro notFine,
      false_and, or_false]
    exact and_iff_left_of_imp Or.inl
  have fineURLs : ∀ url ∈ loader.getURLs.getD [], ∀ dir ∈ urlDir url, ¬Fails tree libName 1 dir := by
    simpa only [not_exists, not_and] using failsURLs
  obtain ⟨lib', run', last⟩ := searchURLs_ok fineURLs none
  simp only [Option.isSome_none, Bool.false_eq_true, and_false, or_false] at last
  have listed : (∃ url ∈ (loader.getURLs.getD []).getLast?, ∃ dir ∈ urlDir url, Contains tree libName 1 dir) →
      ∃ url ∈ loader.getURLs.getD [], ∃ dir ∈ urlDir url, Contains tree libName 1 dir := by
    rintro ⟨url, member, contains⟩
    exact ⟨url, List.mem_of_getLast? member, contains⟩
  have nowhere : (∀ url ∈ loader.getURLs.getD [], ∀ dir ∈ urlDir url, ¬Contains tree libName 1 dir) ↔
      ¬∃ url ∈ loader.getURLs.getD [], ∃ dir ∈ urlDir url, Contains tree libName 1 dir := by
    simp only [not_exists, not_and]
  rw [finds_orElse_iff run' last, search_finds_iff, nowhere, and_iff_right name, and_iff_right fineResource,
    and_iff_right fineURLs]
  exact stages_iff listed

theorem findsBeside_iff {urls : List Url} : FindsBeside tree libName urls ↔
    (∀ dir ∈ urls.filterMap urlDir, ¬FailsBeside tree libName dir) ∧
      ((∃ dir ∈ (urls.filterMap urlDir).getLast?, ContainsBeside tree libName dir) ∨
        ∀ dir ∈ urls.filterMap urlDir, ¬ContainsBeside tree libName dir) := by
  by_cases fails : ∃ dir ∈ urls.filterMap urlDir, FailsBeside tree libName dir
  · refine iff_of_false (not_finds_of_error (searchBesideURLs_error fails none)) fun holds => ?_
    obtain ⟨dir, member, failed⟩ := fails
    exact holds.1 dir member failed
  · have fine : ∀ dir ∈ urls.filterMap urlDir, ¬FailsBeside tree libName dir := by
      intro dir member failed
      exact fails ⟨dir, member, failed⟩
    obtain ⟨lib, run, last⟩ := searchBesideURLs_ok fine none
    have found : lib.isSome ↔ ∃ dir ∈ (urls.filterMap urlDir).getLast?, ContainsBeside tree libName dir := by simpa using last
    rw [FindsBeside, finds_iff run found, and_iff_right fine]
    exact last_decides_iff

/-- Where a library that is in one of the directories is returned, and none
else: no search that is made fails, and unless the directory of the resource has
the library, the one beside the last URL has it, or the root of the class path
does, or none beside an URL. Beside the class path the last URL with a parent
decides alone. -/
theorem libFinder_laws (tree : FileTree) (libName : JString) :
    (∀ loader resPath, FindsInClasspath tree libName loader resPath ↔
      libName ≠ [] ∧ (∀ dir ∈ resourceDir (loader.getResource resPath), ¬Fails tree libName 1 dir) ∧
        ((∃ dir ∈ resourceDir (loader.getResource resPath), Contains tree libName 1 dir) ∨
          (∀ url ∈ loader.getURLs.getD [], ∀ dir ∈ urlDir url, ¬Fails tree libName 1 dir) ∧
            ((∃ url ∈ (loader.getURLs.getD []).getLast?, ∃ dir ∈ urlDir url, Contains tree libName 1 dir) ∨
              (∀ dir ∈ rootDir loader, ¬Fails tree libName 1 dir) ∧
                ((∃ dir ∈ rootDir loader, Contains tree libName 1 dir) ∨
                  ∀ url ∈ loader.getURLs.getD [], ∀ dir ∈ urlDir url, ¬Contains tree libName 1 dir)))) ∧
    ∀ urls, FindsBeside tree libName urls ↔
      (∀ dir ∈ urls.filterMap urlDir, ¬FailsBeside tree libName dir) ∧
        ((∃ dir ∈ (urls.filterMap urlDir).getLast?, ContainsBeside tree libName dir) ∨
          ∀ dir ∈ urls.filterMap urlDir, ¬ContainsBeside tree libName dir) :=
  ⟨fun _ _ => findsInClasspath_iff, fun _ => findsBeside_iff⟩

/-- Two directories of which the first has the library. -/
def twoDirs : FileTree where
  workDir := []
  entries := fun dir =>
    if dir = ⟨true, [literal "lib"]⟩ then some [literal "libsysm.so"]
    else if dir = ⟨true, [literal "app"]⟩ then some []
    else none
  isDirectory := fun dir => dir = ⟨true, [literal "lib"]⟩ || dir = ⟨true, [literal "app"]⟩

theorem plain_lib : (0 : UInt16) ∉ literal "/lib/sysm.jar" := by decide

theorem plain_app : (0 : UInt16) ∉ literal "/app/main.jar" := by decide

def libUrl : Url := ⟨literal "file", literal "/lib/sysm.jar", plain_lib⟩

def appUrl : Url := ⟨literal "file", literal "/app/main.jar", plain_app⟩

theorem urlDir_lib : urlDir libUrl = some ⟨true, [literal "lib"]⟩ := by decide +kernel

theorem contains_lib : Contains twoDirs (literal "libsysm.so") 1 ⟨true, [literal "lib"]⟩ := by
  refine ⟨by decide +kernel, ⟨true, [literal "lib", literal "libsysm.so"]⟩, ?_, ?_⟩
  · decide +kernel
  · decide +kernel

/-- The library beside the first URL is lost in both loops. -/
theorem not_finds_twoDirs :
    ¬FindsInClasspath twoDirs (literal "libsysm.so") ⟨fun _ => none, some [libUrl, appUrl]⟩ [] ∧
      ¬FindsBeside twoDirs (literal "libsysm.so") [libUrl, appUrl] := by
  constructor
  · rintro ⟨lib, run, iff⟩
    have lost : findInClasspath twoDirs (some (literal "libsysm.so")) (some ⟨fun _ => none, some [libUrl, appUrl]⟩) [] =
        .ok none := by decide +kernel
    rw [lost] at run
    cases run
    have member : (⟨true, [literal "lib"]⟩ : JavaPath) ∈ classpathDirs ⟨fun _ => none, some [libUrl, appUrl]⟩ [] := by
      decide +kernel
    exact absurd (iff.mpr ⟨_, member, contains_lib⟩) (by simp)
  · rintro ⟨lib, run, iff⟩
    have lost : searchBesideURLs twoDirs (literal "libsysm.so") none [libUrl, appUrl] = .ok none := by decide +kernel
    rw [lost] at run
    cases run
    have member : (⟨true, [literal "lib"]⟩ : JavaPath) ∈ [libUrl, appUrl].filterMap urlDir :=
      List.mem_filterMap.mpr ⟨libUrl, List.mem_cons_self .., urlDir_lib⟩
    exact absurd (iff.mpr ⟨_, member, Or.inl contains_lib⟩) (by simp)

end Laws

/-- `findInJavaLibPath` stops at the first library, so that none is lost. -/
theorem searchTokens_finds {tree : FileTree} {libName : JString} {tokens : List JString}
    (fine : ∀ path ∈ tokens, 0 ∉ path ∧ ¬Fails tree libName 1 (.get path)) :
    ∃ lib, searchTokens tree libName tokens = .ok lib ∧ (lib.isSome ↔ ∃ path ∈ tokens, Contains tree libName 1 (.get path)) := by
  induction tokens with
  | nil => exact ⟨none, rfl, by simp⟩
  | cons first tokens ih =>
    obtain ⟨plain, clean⟩ := fine first (List.mem_cons_self ..)
    obtain ⟨here, run, found⟩ := search_ok clean
    have parsed : JavaPath.parse first = .ok (.get first) := if_neg plain
    have step : searchTokens tree libName (first :: tokens) =
        (search tree (some (.get first)) libName 1 >>= fun lib => if lib.isSome then .ok lib else searchTokens tree libName tokens) := by
      rw [searchTokens, parsed]
      rfl
    rw [step, finds_orElse_iff run found]
    by_cases contains : Contains tree libName 1 (.get first)
    · exact Or.inl ⟨contains, first, List.mem_cons_self .., contains⟩
    · obtain ⟨lib, loop, later⟩ := ih fun path member => fine path (List.mem_cons_of_mem _ member)
      refine Or.inr ⟨contains, lib, loop, ?_⟩
      simp only [later, List.mem_cons, or_and_right, exists_or, exists_eq_left, contains, false_or]

end Sysm.Jni
