import Sysm.ArchLoader

namespace Sysm.Jni
open JavaString

/-- What a search may bring. -/
def Yields (good : JavaPath → Prop) (result : Except JavaException (Option JavaPath)) : Prop :=
  ∀ path, result = .ok (some path) → good path

/-- An absolute path of a file with this name. -/
def HasFileName (libName : JString) (path : JavaPath) : Prop := path.absolute = true ∧ path.getFileName = some libName

section Search

variable {good other : JavaPath → Prop} {tree : FileTree}

theorem Yields.nothing (good : JavaPath → Prop) : Yields good (.ok none) := by
  intro path found
  cases found

theorem Yields.thrown (good : JavaPath → Prop) (exception : JavaException) : Yields good (.error exception) := by
  intro path found
  cases found

theorem Yields.found {path : JavaPath} (holds : good path) : Yields good (.ok (some path)) := by
  rintro _ ⟨⟩
  exact holds

theorem Yields.mono {result : Except JavaException (Option JavaPath)} (yields : Yields good result)
    (weaker : ∀ path, good path → other path) : Yields other result :=
  fun path found => weaker path (yields path found)

/-- Only what is behind a bind brings a path. -/
theorem Yields.andThen {α : Type} {first : Except JavaException α} {next : α → Except JavaException (Option JavaPath)}
    (later : ∀ a, first = .ok a → Yields good (next a)) : Yields good (first >>= next) := by
  cases done : first with
  | error exception => exact Yields.thrown good exception
  | ok a => exact later a done

theorem bind_eq_ok {ε α β : Type} {first : Except ε α} {next : α → Except ε β} {b : β} :
    (first >>= next) = .ok b ↔ ∃ a, first = .ok a ∧ next a = .ok b := by
  constructor
  · intro done
    cases first with
    | error exception => cases done
    | ok a => exact ⟨a, rfl, done⟩
  · rintro ⟨a, rfl, done⟩
    exact done

/-- A part between slashes has every other letter. -/
theorem mem_splitOn {s : JString} {slash c : UInt16} (letter : c ∈ s) (apart : c ≠ slash) :
    ∃ part ∈ s.splitOn slash, c ∈ part := by
  induction s with
  | nil => cases letter
  | cons first s ih =>
    rw [List.splitOn_cons_eq_if_modifyHead]
    by_cases cut : (first == slash) = true
    · have later : c ∈ s := by
        rcases List.mem_cons.mp letter with rfl | later
        · exact absurd (beq_iff_eq.mp cut) apart
        · exact later
      obtain ⟨part, member, inside⟩ := ih later
      rw [if_pos cut]
      exact ⟨part, List.mem_cons_of_mem _ member, inside⟩
    · rw [if_neg cut]
      obtain ⟨front, parts, split⟩ := List.exists_cons_of_ne_nil (List.splitOn_ne_nil slash s)
      rw [split, List.modifyHead_cons]
      rcases List.mem_cons.mp letter with rfl | later
      · exact ⟨c :: front, List.mem_cons_self .., List.mem_cons_self ..⟩
      · obtain ⟨part, member, inside⟩ := ih later
        rw [split] at member
        rcases List.mem_cons.mp member with rfl | behind
        · exact ⟨first :: part, List.mem_cons_self .., List.mem_cons_of_mem _ inside⟩
        · exact ⟨part, List.mem_cons_of_mem _ behind, inside⟩

theorem names_ne_nil {s : JString} {c : UInt16} (letter : c ∈ s) (apart : c ≠ 47) : 0 < ((s.splitOn 47).filter (· != [])).length := by
  obtain ⟨part, member, inside⟩ := mem_splitOn letter apart
  have kept : part ∈ (s.splitOn 47).filter (· != []) := by
    refine List.mem_filter.mpr ⟨member, ?_⟩
    simp [List.ne_nil_of_mem inside]
  exact List.length_pos_of_mem kept

/-- A string that neither starts nor ends with a slash is a path of one name, or
of more than one if there is a slash inside. -/
theorem get_name {s : JString} {first last : UInt16} (starts : s.head? = some first) (begins : first ≠ 47)
    (ends : s.getLast? = some last) (closes : last ≠ 47) :
    JavaPath.get s = ⟨false, [s]⟩ ∨ 2 ≤ (JavaPath.get s).names.length := by
  by_cases slash : (47 : UInt16) ∈ s
  · right
    obtain ⟨front, back, rfl⟩ := List.append_of_mem slash
    have inFront : first ∈ front := by
      cases front with
      | nil => exact absurd (Option.some.inj starts).symm begins
      | cons c front =>
        cases Option.some.inj starts
        exact List.mem_cons_self ..
    have inBack : last ∈ back := by
      rw [List.getLast?_append_cons] at ends
      cases back with
      | nil => exact absurd (Option.some.inj ends).symm closes
      | cons c back =>
        rw [List.getLast?_cons_cons] at ends
        exact List.mem_of_getLast? ends
    have before := names_ne_nil inFront begins
    have behind := names_ne_nil inBack closes
    rw [JavaPath.get, List.splitOn_append_cons_self, List.filter_append, List.length_append]
    exact Nat.add_le_add before behind
  · left
    have letters : s ≠ [] := by
      rintro rfl
      cases starts
    have single : (s.splitOn 47).filter (· != []) = [s] := by
      rw [List.splitOn_eq_singleton slash]
      simp [letters]
    rw [JavaPath.get, single, starts]
    simp [begins]

/-- The file that is found has the name of the library. -/
theorem isLib_libFileName {libName : JString} {path : JavaPath} (found : isLib (libFileName libName) path = true) :
    path.getFileName = some (libFileName libName) ∧ path.names ≠ [] := by
  have starts : (libFileName libName).head? = some 108 := rfl
  have ends : (libFileName libName).getLast? = some 111 := by
    have letter : (literal ".so").getLast? = some 111 := rfl
    rw [libFileName, List.getLast?_append, letter, Option.some_or]
  rcases get_name starts (by decide) ends (by decide) with single | slashes
  · have name := (isLib_iff single path).mp found
    refine ⟨name, ?_⟩
    intro empty
    rw [JavaPath.getFileName, if_pos empty] at name
    obtain ⟨-, same⟩ := Option.ite_none_left_eq_some.mp name
    rw [← Option.some.inj same] at starts
    cases starts
  · obtain ⟨fileName, -, ended⟩ := (Option.any_eq_true _ _).mp found
    have few : ([fileName].filter (· != [])).length ≤ 1 := List.length_filter_le ..
    have relative : (JavaPath.get (libFileName libName)).absolute = false := by
      rw [JavaPath.get, starts]
      rfl
    have nonempty : (JavaPath.get (libFileName libName)).names ≠ [] := List.ne_nil_of_length_pos (by omega)
    simp only [JavaPath.endsWith, nonempty, relative, decide_false, Bool.false_and, Bool.false_eq_true, if_false,
      decide_eq_true_eq] at ended
    have suffix := ended.length_le.trans few
    omega

theorem toAbsolutePath_hasFileName (tree : FileTree) {path : JavaPath} {libName : JString} (named : path.names ≠ [])
    (fileName : path.getFileName = some libName) : HasFileName libName (tree.toAbsolutePath path) := by
  rw [FileTree.toAbsolutePath]
  by_cases absolute : path.absolute = true
  · rw [if_pos absolute]
    exact ⟨absolute, fileName⟩
  · rw [if_neg absolute]
    refine ⟨rfl, ?_⟩
    have long : tree.workDir ++ path.names ≠ [] := by simp [named]
    rw [JavaPath.getFileName, if_neg long, List.getLast?_append_of_ne_nil _ named]
    rwa [JavaPath.getFileName, if_neg named] at fileName

theorem filterLibs_isLib {libName : JString} {paths libs : List JavaPath} (filtered : filterLibs libName paths = .ok libs) :
    ∀ path ∈ libs, isLib libName path = true := by
  induction paths generalizing libs with
  | nil =>
    cases filtered
    simp
  | cons path paths ih =>
    cases name : path.getFileName with
    | none =>
      simp only [filterLibs, endsWithLib, name] at filtered
      cases filtered
    | some fileName =>
      by_cases plain : 0 ∈ libName
      · simp only [filterLibs, endsWithLib, name, JavaPath.parse, if_pos plain] at filtered
        cases filtered
      · rw [filterLibs, endsWithLib_eq (by simp [name]) plain] at filtered
        cases rest : filterLibs libName paths with
        | error exception =>
          rw [rest] at filtered
          cases filtered
        | ok res =>
          rw [rest] at filtered
          cases filtered
          have behind := ih rest
          cases ends : isLib libName path with
          | false => exact behind
          | true => exact List.forall_mem_cons.mpr ⟨ends, behind⟩

/-- A search brings nothing but a file of the name. -/
theorem search_yields (tree : FileTree) (root : Option JavaPath) (libName : JString) (maxDepth : Nat) :
    Yields (HasFileName (libFileName libName)) (search tree root (libFileName libName) maxDepth) := by
  cases root with
  | none => exact .nothing _
  | some dir =>
    cases directory : (tree.entries dir).isSome with
    | false =>
      rw [search_missing directory]
      exact .nothing _
    | true =>
      rw [search_directory directory]
      refine .andThen fun libs filtered => ?_
      cases libs with
      | nil => exact .nothing _
      | cons lib libs =>
        cases libs with
        | nil =>
          obtain ⟨fileName, named⟩ := isLib_libFileName (filterLibs_isLib filtered lib (List.mem_singleton_self lib))
          exact .found (toAbsolutePath_hasFileName tree named fileName)
        | cons second libs => exact .thrown _ _

section Finders

variable (tree : FileTree) (loader : Option ClassLoader) (resPath libName : JString)

theorem requireLibName_file : requireLibName (some (libFileName libName)) = .ok (libFileName libName) := by
  have letters : libFileName libName ≠ [] := List.cons_ne_nil _ _
  rw [requireLibName, if_neg letters]
  rfl

theorem find_yields (path : JString) : Yields (HasFileName (libFileName libName)) (find tree path (libFileName libName)) := by
  rw [find, requireLibName_file]
  refine .andThen fun _ required => ?_
  cases required
  by_cases empty : path = []
  · rw [if_pos empty]
    exact .nothing _
  · rw [if_neg empty]
    exact .andThen fun absPath _ => search_yields tree _ libName 1

/-- What is found beside the jar. -/
theorem findBesideJar_hasFileName {jarName jarName' : JString} {lib : JavaPath}
    (found : findBesideJar tree (libFileName libName) loader resPath jarName = .ok (some lib, jarName')) :
    HasFileName (libFileName libName) lib := by
  rw [findBesideJar, requireLibName_file] at found
  cases loader with
  | none => cases found
  | some loader =>
    obtain ⟨_, required, found⟩ := bind_eq_ok.mp found
    cases required
    obtain ⟨⟨jarPath, name⟩, -, found⟩ := bind_eq_ok.mp found
    obtain ⟨lib', searched, same⟩ := bind_eq_ok.mp found
    cases same
    exact search_yields tree _ libName 1 lib searched

theorem searchURLs_yields {lib : Option JavaPath} (before : Yields (HasFileName (libFileName libName)) (.ok lib)) (urls : List Url) :
    Yields (HasFileName (libFileName libName)) (searchURLs tree (libFileName libName) lib urls) := by
  induction urls generalizing lib with
  | nil => exact before
  | cons url urls ih =>
    refine .andThen fun lib searched => ih ?_
    rw [← searched]
    exact search_yields tree _ libName 1

theorem findInClasspath_yields : Yields (HasFileName (libFileName libName))
    (findInClasspath tree (some (libFileName libName)) loader resPath) := by
  cases loader with
  | none =>
    rw [findInClasspath, requireLibName_file]
    exact .thrown _ _
  | some loader =>
    have letters : libFileName libName ≠ [] := List.cons_ne_nil _ _
    rw [findInClasspath_stages letters]
    refine .andThen fun lib resource => ?_
    cases lib with
    | some lib =>
      rw [Option.isSome_some, if_pos rfl, ← resource]
      exact search_yields tree _ libName 1
    | none =>
      refine .andThen fun lib listed => ?_
      cases lib with
      | some lib =>
        rw [Option.isSome_some, if_pos rfl, ← listed]
        exact searchURLs_yields tree libName (.nothing _) _
      | none => exact search_yields tree _ libName 1

theorem searchBeside_yields {lib : Option JavaPath} (before : Yields (HasFileName (libFileName libName)) (.ok lib))
    (classpath : Option JavaPath) :
    Yields (HasFileName (libFileName libName)) (searchBeside tree (libFileName libName) lib classpath) := by
  cases classpath with
  | none =>
    rw [searchBeside_none]
    exact before
  | some dir =>
    simp only [searchBeside, Option.isSome_some, if_true]
    refine .andThen fun lib found => ?_
    cases lib with
    | none => exact search_yields tree _ libName 2
    | some lib =>
      have here := search_yields tree (some dir) libName 1
      rw [found] at here
      exact here

theorem searchBesideURLs_yields {lib : Option JavaPath} (before : Yields (HasFileName (libFileName libName)) (.ok lib))
    (urls : List Url) :
    Yields (HasFileName (libFileName libName)) (searchBesideURLs tree (libFileName libName) lib urls) := by
  induction urls generalizing lib with
  | nil => exact before
  | cons url urls ih =>
    refine .andThen fun lib searched => ih ?_
    rw [← searched]
    exact searchBeside_yields tree libName before _

theorem findBesideClasspath_yields : Yields (HasFileName (libFileName libName))
    (findBesideClasspath tree (some (libFileName libName)) loader) := by
  rw [findBesideClasspath, requireLibName_file]
  refine .andThen fun _ required => ?_
  cases required
  cases loader with
  | none => exact .thrown _ _
  | some loader =>
    have listed : ∀ urls, Yields (HasFileName (libFileName libName)) (searchBesideURLs tree (libFileName libName) none urls) :=
      searchBesideURLs_yields tree libName (.nothing _)
    cases resource : loader.getResource [] with
    | none =>
      simp only [resource]
      cases loader.getURLs with
      | none => exact .nothing _
      | some urls => exact listed urls
    | some url =>
      simp only [resource]
      by_cases directory : tree.isDirectory (.get url.path) = true
      · simp only [if_pos directory]
        refine .andThen fun lib beside => ?_
        have first : Yields (HasFileName (libFileName libName)) (.ok lib) := by
          rw [← beside]
          exact searchBeside_yields tree libName (.nothing _) _
        cases lib with
        | some lib => exact first
        | none =>
          cases loader.getURLs with
          | none => exact .nothing _
          | some urls => exact listed urls
      · simp only [if_neg directory]
        cases loader.getURLs with
        | none => exact .nothing _
        | some urls => exact listed urls

theorem searchTokens_yields (tokens : List JString) :
    Yields (HasFileName (libFileName libName)) (searchTokens tree (libFileName libName) tokens) := by
  induction tokens with
  | nil => exact .nothing _
  | cons token tokens ih =>
    refine .andThen fun root _ => .andThen fun lib searched => ?_
    cases lib with
    | none => exact ih
    | some lib =>
      have found := search_yields tree (some root) libName 1 lib searched
      exact .found found

end Finders

/-- A file of the name, or of the other name if there is one. -/
def HasEither (libName : JString) (versioned : Option JString) (path : JavaPath) : Prop :=
  HasFileName libName path ∨ ∃ name ∈ versioned, HasFileName name path

section Either

variable {libName : JString} {versioned : Option JString} (files : ∀ name ∈ versioned, ∃ base, name = libFileName base)
include files

theorem findEither_yields {finder : JString → Except JavaException (Option JavaPath)}
    (each : ∀ base, Yields (HasFileName (libFileName base)) (finder (libFileName base))) :
    Yields (HasEither (libFileName libName) versioned) (findEither finder (libFileName libName) versioned) := by
  refine .andThen fun lib found => ?_
  cases lib with
  | some lib => exact .found (Or.inl (each libName lib found))
  | none =>
    cases versioned with
    | none => exact .nothing _
    | some name =>
      obtain ⟨base, rfl⟩ := files name rfl
      exact (each base).mono fun path named => Or.inr ⟨_, rfl, named⟩

theorem eitherBesideJar_named {system : JavaSystem} {resPath jarName jarName' : JString} {lib : JavaPath}
    (found : eitherBesideJar system resPath (libFileName libName) versioned jarName = .ok (some lib, jarName')) :
    HasEither (libFileName libName) versioned lib := by
  obtain ⟨⟨first, between⟩, searched, found⟩ := bind_eq_ok.mp found
  cases first with
  | some first =>
    cases found
    exact Or.inl (findBesideJar_hasFileName _ _ _ _ searched)
  | none =>
    cases versioned with
    | none => cases found
    | some name =>
      obtain ⟨base, rfl⟩ := files name rfl
      exact Or.inr ⟨_, rfl, findBesideJar_hasFileName _ _ _ _ found⟩

theorem searchPlaces_yields (system : JavaSystem) (resPath : JString) {lib : Option JavaPath}
    (before : ∀ path, lib = some path → HasEither (libFileName libName) versioned path) :
    Yields (HasEither (libFileName libName) versioned) (searchPlaces system resPath (libFileName libName) versioned lib) := by
  cases lib with
  | some lib => exact .found (before lib rfl)
  | none =>
    refine .andThen fun lib inClasspath => ?_
    cases lib with
    | some lib =>
      have yields := @findEither_yields libName versioned files
        (fun name => findInClasspath system.tree (some name) system.classLoader resPath)
        (findInClasspath_yields system.tree system.classLoader resPath)
      exact .found (yields lib inClasspath)
    | none =>
      refine .andThen fun lib beside => ?_
      cases lib with
      | some lib =>
        have yields := @findEither_yields libName versioned files
          (fun name => findBesideClasspath system.tree (some name) system.classLoader)
          (findBesideClasspath_yields system.tree system.classLoader)
        exact .found (yields lib beside)
      | none => exact findEither_yields files fun base => searchTokens_yields system.tree base _

end Either

end Search

end Sysm.Jni
