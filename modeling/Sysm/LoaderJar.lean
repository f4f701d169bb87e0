import Sysm.LoaderRuns

namespace Sysm.Jni
open JavaString

/-- The name that is left is that of a jar. -/
def KeepsJar (name path : JString) : Prop := name <:+: path ∨ (versionedStem name <:+: path ∧ dotJar <:+: path)

section Name

variable {name path : JString}

theorem letter_of_stands {pattern s : JString} {i j : Nat} (here : pattern <+: s.drop i) (inside : j < pattern.length) :
    s[i + j]? = pattern[j]? := by
  obtain ⟨rest, same⟩ := here
  rw [← List.getElem?_drop, ← same, List.getElem?_append_left inside]

/-- The dash of the stem is no letter of `.jar`, so that the version in between is whole. -/
theorem dash_before_jar {stem : JString} {i k : Nat} (stands : (stem ++ literal "-") <+: path.drop i)
    (jar : dotJar <+: path.drop k) (order : (stem ++ literal "-").length + i ≤ k + 4) :
    (stem ++ literal "-").length + i ≤ k := by
  have length : (stem ++ literal "-").length = stem.length + 1 := by rw [List.length_append]; rfl
  rw [length] at order ⊢
  by_contra inside
  have dash : path[i + stem.length]? = some 45 := by
    rw [letter_of_stands stands (by omega), List.getElem?_append_right (Nat.le_refl _), Nat.sub_self]
    rfl
  have letter := letter_of_stands jar (by show i + stem.length - k < 4; omega)
  have same : k + (i + stem.length - k) = i + stem.length := by omega
  rw [same, dash] at letter
  have all : ∀ j < 4, dotJar[j]? ≠ some 45 := by decide
  exact all _ (by omega) letter.symm

theorem lastIndexOf_eq_none_iff {pattern s : JString} : lastIndexOf pattern s = none ↔ ¬pattern <:+: s := by
  induction s with
  | nil => simp [lastIndexOf]
  | cons c s ih =>
    rw [lastIndexOf, List.infix_cons_iff]
    cases later : lastIndexOf pattern s with
    | some i =>
      have inside : pattern <:+: s := by
        by_contra absent
        rw [ih.mpr absent] at later
        cases later
      simp [inside]
    | none => simp [ih.mp later]

theorem nextName_live_iff (live : dotJar <:+ name) (fine : ¬Reversed name path) :
    dotJar <:+ nextName name path ↔ KeepsJar name path := by
  by_cases here : name <:+: path
  · rw [nextName_of_present here]
    exact iff_of_true live (Or.inl here)
  · rw [nextName, if_pos ⟨live, here⟩, KeepsJar]
    cases first : indexOf (versionedStem name) path with
    | none =>
      have absent := indexOf_eq_none_iff.mp first
      exact iff_of_false (versionedStem_dead name) (by simp [here, absent])
    | some i =>
      cases last : lastIndexOf dotJar path with
      | none =>
        have absent := lastIndexOf_eq_none_iff.mp last
        exact iff_of_false (versionedStem_dead name) (by simp [here, absent])
      | some k =>
        have stands := indexOf_some first
        have jar := lastIndexOf_some last
        have order : (versionedStem name).length + i ≤ k + 4 := by
          by_contra reversed
          exact fine ⟨live, here, i, k, first, last, by omega⟩
        have before : (versionedStem name).length + i ≤ k := dash_before_jar stands jar order
        have stem : versionedStem name <:+: path := stands.isInfix.trans (List.drop_suffix ..).isInfix
        refine iff_of_true ?_ (Or.inr ⟨stem, jar.isInfix.trans (List.drop_suffix ..).isInfix⟩)
        have whole : (path.take (k + 4)).drop k = dotJar := by
          have taken := List.prefix_iff_eq_take.mp jar
          rw [List.drop_take, Nat.add_sub_cancel_left]
          exact taken.symm
        refine List.IsSuffix.trans ?_ (List.suffix_append ..)
        rw [← whole]
        have split : k = (versionedStem name).length + i + (k - ((versionedStem name).length + i)) := by omega
        rw [split, ← List.drop_drop, ← split]
        exact List.drop_suffix ..

end Name

/-- The replies to a run of calls. -/
def loaderReplies (loader : ArchLoader) : List LoaderCall → List LoadReply
  | [] => []
  | call :: calls => (loaderStep loader call).1 :: loaderReplies (loaderStep loader call).2 calls

/-- No property has another name for the jar. -/
def OwnJarName : LoaderCall → Prop
  | .load _ system => system.getProperty (literal "sysm.jar.name") = none
  | .setVersion _ => True

section Lost

variable {jarName : JString}

/-- Without the name of a jar there is nothing beside it, and the name stays. -/
theorem jarPathOf_lost (lost : ¬dotJar <:+ jarName) (loader : ClassLoader) (resPath : JString) :
    jarPathOf loader resPath jarName = .ok (none, jarName) := by
  rw [jarPathOf]
  cases loader.getResource resPath with
  | some url =>
    simp only [isJarUrl_dead lost]
    rfl
  | none =>
    cases listed : loader.getURLs with
    | none =>
      simp only [findJarPath, listed]
      rfl
    | some urls =>
      simp only [findJarPath, listed, findJarUrl_dead lost]
      rfl

theorem not_jar_nil : ¬dotJar <:+ ([] : JString) := by decide

theorem findBesideJar_lost (lost : ¬dotJar <:+ jarName) (tree : FileTree) (libName : JString) (loader : Option ClassLoader)
    (resPath : JString) : findBesideJar tree libName loader resPath jarName =
      (findBesideJar tree libName loader resPath []).map fun _ => (none, jarName) := by
  rw [findBesideJar, findBesideJar]
  cases requireLibName (some libName) with
  | error exception => rfl
  | ok libName =>
    cases loader with
    | none => rfl
    | some loader =>
      simp only [jarPathOf_lost lost, jarPathOf_lost not_jar_nil]
      rfl

theorem eitherBesideJar_lost (lost : ¬dotJar <:+ jarName) (system : JavaSystem) (resPath libName : JString)
    (versioned : Option JString) : eitherBesideJar system resPath libName versioned jarName =
      (eitherBesideJar system resPath libName versioned []).map fun _ => (none, jarName) := by
  have empty := findBesideJar_lost not_jar_nil system.tree libName system.classLoader resPath
  rw [eitherBesideJar, eitherBesideJar, findBesideJar_lost lost]
  cases first : findBesideJar system.tree libName system.classLoader resPath [] with
  | error exception => rfl
  | ok result =>
    rw [first] at empty
    obtain rfl : result = (none, []) := Except.ok.inj empty
    cases versioned with
    | none => rfl
    | some name => exact findBesideJar_lost lost system.tree name system.classLoader resPath

variable {loader : ArchLoader} {system : JavaSystem}

theorem getJarName_own (own : system.getProperty (literal "sysm.jar.name") = none) (loader : ArchLoader) :
    loader.getJarName system = loader.jarName := by
  rw [ArchLoader.getJarName]
  cases kind : loader.kind with
  | archLoader => rfl
  | sysmLoader =>
    simp only [own]
    rfl

/-- What is thrown, what is asked for and what is left in the other fields does
not depend on the name of the jar. -/
theorem fail_jarName (loader : ArchLoader) (error : LoadError) (other : JString) :
    { loader with jarName := other }.fail error = ((loader.fail error).1, { (loader.fail error).2 with jarName := other }) := by
  cases error with
  | archNotSupported message => rfl
  | java exception => cases exception <;> rfl

theorem loadFound_jarName (loader : ArchLoader) (system : JavaSystem) (libName : JString)
    (nativeLibrary : Except JavaException (Option JavaPath)) (other : JString) :
    { loader with jarName := other }.loadFound system libName nativeLibrary =
      ((loader.loadFound system libName nativeLibrary).1,
        { (loader.loadFound system libName nativeLibrary).2 with jarName := other }) := by
  cases nativeLibrary with
  | error exception => exact fail_jarName loader _ other
  | ok found => cases found <;> rfl

theorem fail_reply (loader : ArchLoader) (error : LoadError) (other : JString) :
    ({ loader with jarName := other }.fail error).1 = (loader.fail error).1 := by
  rw [fail_jarName]

theorem loadFound_reply (loader : ArchLoader) (system : JavaSystem) (libName : JString)
    (nativeLibrary : Except JavaException (Option JavaPath)) (other : JString) :
    ({ loader with jarName := other }.loadFound system libName nativeLibrary).1 =
      (loader.loadFound system libName nativeLibrary).1 := by
  rw [loadFound_jarName]

theorem getLibName_jarName (loader : ArchLoader) (system : JavaSystem) (other : JString) :
    { loader with jarName := other }.getLibName system =
      (loader.getLibName system).map fun result => (result.1, { result.2 with jarName := other }) := by
  have same : { loader with jarName := other }.ensureLibName system = loader.ensureLibName system := rfl
  rw [ArchLoader.getLibName, ArchLoader.getLibName, same]
  cases loader.ensureLibName system <;> rfl

theorem getVersionedLibName_jarName (loader : ArchLoader) (system : JavaSystem) (other : JString) :
    { loader with jarName := other }.getVersionedLibName system =
      (loader.getVersionedLibName system).map fun result => (result.1, { result.2 with jarName := other }) := by
  have same : { loader with jarName := other }.ensureLibName system = loader.ensureLibName system := rfl
  rw [ArchLoader.getVersionedLibName, ArchLoader.getVersionedLibName, same]
  cases loader.ensureLibName system with
  | error error => rfl
  | ok libName =>
    simp only [bind, Except.bind]
    cases loader.version with
    | none => rfl
    | some version =>
      by_cases empty : version = []
      · simp only [if_pos empty]
        rfl
      · simp only [if_neg empty]
        rfl

theorem loadFound_state (loader : ArchLoader) (system : JavaSystem) (libName : JString)
    (nativeLibrary : Except JavaException (Option JavaPath)) : (loader.loadFound system libName nativeLibrary).2 = loader := by
  cases nativeLibrary with
  | error exception => exact (loader.fail_spec _).2.1
  | ok found => cases found <;> rfl

/-- A call does the same with any name of the jar, or it looks beside the jar. -/
theorem loadLib_looks (loader : ArchLoader) (path : Option JString) (system : JavaSystem) :
    (∀ other, { loader with jarName := other }.loadLib path system =
      ((loader.loadLib path system).1, { (loader.loadLib path system).2 with jarName := other })) ∨
    ∃ libName versioned, ∀ other, { loader with jarName := other }.loadLib path system =
      match eitherBesideJar system loader.resourcePath (libFileName libName) versioned
        ({ loader with jarName := other }.getJarName system) with
      | .error exception => { loader with libName := some libName, jarName := other }.fail (.java exception)
      | .ok (lib, jarName) => { loader with libName := some libName, jarName }.loadFound system (libFileName libName)
        (searchPlaces system loader.resourcePath (libFileName libName) versioned lib) := by
  cases ensured : loader.ensureLibName system with
  | error error =>
    have first : loader.getLibName system = .error error := by
      rw [ArchLoader.getLibName, ensured]
      rfl
    refine Or.inl fun other => ?_
    rw [ArchLoader.loadLib, ArchLoader.loadLib, getLibName_jarName, first]
    exact fail_jarName loader error other
  | ok libName =>
    have first : loader.getLibName system = .ok (libFileName libName, { loader with libName := some libName }) := by
      rw [ArchLoader.getLibName, ensured]
      rfl
    obtain ⟨versioned, second, -⟩ := getVersionedLibName_ok (ensureLibName_again ensured) rfl
    have start (other : JString) : { loader with jarName := other }.getLibName system =
        .ok (libFileName libName, { loader with libName := some libName, jarName := other }) := by
      rw [getLibName_jarName, first]
      rfl
    have next (other : JString) : { loader with libName := some libName, jarName := other }.getVersionedLibName system =
        .ok (versioned, { loader with libName := some libName, jarName := other }) := by
      have same := getVersionedLibName_jarName { loader with libName := some libName } system other
      rw [second] at same
      exact same
    cases place : (if path.getD [] = [] then system.getProperty (loader.packageName ++ literal ".path") else path) with
    | some path =>
      refine Or.inl fun other => ?_
      rw [ArchLoader.loadLib, ArchLoader.loadLib, start, first]
      simp only [next, place]
      by_cases there : path = literal "-"
      · simp only [if_pos there]
      · simp only [if_neg there]
        exact loadFound_jarName { loader with libName := some libName } system _ _ other
    | none =>
      refine Or.inr ⟨libName, versioned, fun other => ?_⟩
      rw [ArchLoader.loadLib, start]
      simp only [next, place]
      rfl

/-- The name that is looked for is the one of the loader, or it is that of a property. -/
theorem getJarName_cases (loader : ArchLoader) (system : JavaSystem) :
    (∀ other, { loader with jarName := other }.getJarName system = other) ∨
      ∃ name, ∀ other, { loader with jarName := other }.getJarName system = name := by
  obtain ⟨kind, -, -, -, -, -, -, -⟩ := loader
  cases kind with
  | archLoader => exact Or.inl fun _ => rfl
  | sysmLoader =>
    cases property : system.getProperty (literal "sysm.jar.name") with
    | none => exact Or.inl fun other => getJarName_own property _
    | some name =>
      refine Or.inr ⟨name, fun other => ?_⟩
      simp only [ArchLoader.getJarName, property]
      rfl

/-- The other loader has no name of a jar either, and is the same in all else. -/
def ArchLoader.Lost (loader loader' : ArchLoader) : Prop :=
  ¬dotJar <:+ loader.jarName ∧ ¬dotJar <:+ loader'.jarName ∧ loader' = { loader with jarName := loader'.jarName }

/-- Two loaders without the name of a jar do the same. If there is a property for
the name, then they are one loader after that. -/
theorem loadLib_lost {loader' : ArchLoader} (lost : loader.Lost loader') (path : Option JString) (system : JavaSystem) :
    (loader'.loadLib path system).1 = (loader.loadLib path system).1 ∧
      ((loader'.loadLib path system).2 = (loader.loadLib path system).2 ∨
        (loader.loadLib path system).2.Lost (loader'.loadLib path system).2) := by
  obtain ⟨dead, dead', same⟩ := lost
  generalize loader'.jarName = other at dead' same
  subst same
  rcases loadLib_looks loader path system with alike | ⟨libName, versioned, looks⟩
  · have own : (loader.loadLib path system).2.jarName = loader.jarName :=
      congrArg (fun result => result.2.jarName) (alike loader.jarName)
    rw [alike other]
    refine ⟨rfl, Or.inr ⟨?_, dead', rfl⟩⟩
    rwa [own]
  · have here : loader.loadLib path system = _ := looks loader.jarName
    rcases getJarName_cases loader system with kept | ⟨name, named⟩
    · rw [kept, eitherBesideJar_lost dead] at here
      rw [here, looks other, kept, eitherBesideJar_lost dead']
      cases eitherBesideJar system loader.resourcePath (libFileName libName) versioned [] with
      | error exception =>
        simp only [Except.map, (ArchLoader.fail_spec _ _).2.1]
        refine ⟨fail_reply { loader with libName := some libName } _ other, Or.inr ?_⟩
        exact ⟨dead, dead', rfl⟩
      | ok result =>
        simp only [Except.map, loadFound_state]
        refine ⟨?_, Or.inr ⟨dead, dead', rfl⟩⟩
        exact loadFound_reply { loader with libName := some libName } system _ _ other
    · rw [named] at here
      rw [here, looks other, named]
      cases eitherBesideJar system loader.resourcePath (libFileName libName) versioned name with
      | error exception =>
        simp only [(ArchLoader.fail_spec _ _).2.1]
        refine ⟨fail_reply { loader with libName := some libName } _ other, Or.inr ?_⟩
        exact ⟨dead, dead', rfl⟩
      | ok result => exact ⟨rfl, Or.inl rfl⟩

/-- With no property for it, the name that is left stays as it is. -/
theorem loadLib_keeps (dead : ¬dotJar <:+ loader.jarName) (own : system.getProperty (literal "sysm.jar.name") = none)
    (path : Option JString) : (loader.loadLib path system).2.jarName = loader.jarName := by
  rcases loadLib_looks loader path system with alike | ⟨libName, versioned, looks⟩
  · exact congrArg (fun result => result.2.jarName) (alike loader.jarName)
  · have here : loader.loadLib path system = _ := looks loader.jarName
    rw [getJarName_own own, eitherBesideJar_lost dead] at here
    rw [here]
    cases eitherBesideJar system loader.resourcePath (libFileName libName) versioned [] with
    | error exception => simp only [Except.map, (ArchLoader.fail_spec _ _).2.1]
    | ok result => simp only [Except.map, loadFound_state]

theorem loaderStep_lost {loader' : ArchLoader} (lost : loader.Lost loader') (call : LoaderCall) :
    (loaderStep loader' call).1 = (loaderStep loader call).1 ∧
      ((loaderStep loader' call).2 = (loaderStep loader call).2 ∨ (loaderStep loader call).2.Lost (loaderStep loader' call).2) := by
  cases call with
  | setVersion version =>
    obtain ⟨dead, dead', same⟩ := lost
    refine ⟨rfl, Or.inr ⟨dead, dead', ?_⟩⟩
    show { loader' with version } = _
    rw [same]
    rfl
  | load path system =>
    have loaded : loader'.loaded = loader.loaded := by rw [lost.2.2]
    obtain ⟨reply, left⟩ := loadLib_lost lost path system
    simp only [loaderStep, ArchLoader.load, loaded, reply]
    by_cases done : loader.loaded = true
    · simp only [if_pos done]
      exact ⟨trivial, Or.inr lost⟩
    · simp only [if_neg done]
      refine ⟨trivial, ?_⟩
      rcases left with one | ⟨dead, dead', same⟩
      · exact Or.inl (by rw [one])
      · refine Or.inr ⟨dead, dead', ?_⟩
        rw [same]

/-- The name that is left stays as it is. -/
theorem loaderStep_keeps (dead : ¬dotJar <:+ loader.jarName) {call : LoaderCall} (own : OwnJarName call) :
    (loaderStep loader call).2.jarName = loader.jarName := by
  cases call with
  | setVersion version => rfl
  | load path system =>
    simp only [loaderStep, ArchLoader.load]
    by_cases done : loader.loaded = true
    · rw [if_pos done]
    · rw [if_neg done]
      exact loadLib_keeps dead own path

theorem loaderReplies_lost {loader' : ArchLoader} (lost : loader.Lost loader') (calls : List LoaderCall) :
    loaderReplies loader' calls = loaderReplies loader calls := by
  induction calls generalizing loader loader' with
  | nil => rfl
  | cons call calls ih =>
    obtain ⟨reply, left⟩ := loaderStep_lost lost call
    rw [loaderReplies, loaderReplies, reply]
    rcases left with one | lost'
    · rw [one]
    · exact congrArg _ (ih lost')

theorem loaderAfter_keeps (lost : ¬dotJar <:+ loader.jarName) {calls : List LoaderCall} (own : ∀ call ∈ calls, OwnJarName call) :
    (loaderAfter loader calls).jarName = loader.jarName := by
  induction calls generalizing loader with
  | nil => rfl
  | cons call calls ih =>
    obtain ⟨here, later⟩ := List.forall_mem_cons.mp own
    have keeps := loaderStep_keeps lost here
    exact (ih (by rwa [keeps]) later).trans keeps

end Lost

/-- A call that looks beside the jar, where the class loader has a resource at
this URL. -/
structure LooksBesideJar (loader : ArchLoader) (path : Option JString) (system : JavaSystem) (url : Url) : Prop where
  fresh : loader.loaded = false
  named : ∃ libName, loader.ensureLibName system = .ok libName
  noPath : path.getD [] = []
  noProperty : system.getProperty (loader.packageName ++ literal ".path") = none
  own : system.getProperty (literal "sysm.jar.name") = none
  resource : ∃ classLoader, system.classLoader = some classLoader ∧ classLoader.getResource loader.resourcePath = some url
  live : dotJar <:+ loader.jarName
  fine : ¬Reversed loader.jarName url.path

section Looks

variable {loader : ArchLoader} {path : Option JString} {system : JavaSystem} {url : Url} {classLoader : ClassLoader}
  {resPath jarName : JString}

/-- A resource is a hit or a miss, and the name in the builder is changed after it. -/
theorem jarPathOf_resource (resource : classLoader.getResource resPath = some url) (fine : ¬Reversed jarName url.path) :
    ∃ jarPath, jarPathOf classLoader resPath jarName = .ok (jarPath, nextName jarName url.path) ∧
      (¬Hit jarName url.path → jarPath = none) := by
  obtain ⟨answer, call, hit⟩ := isJarUrl_answers fine
  refine ⟨if answer then url2Path (some url) else none, ?_, ?_⟩
  · rw [jarPathOf, resource]
    simp only [call]
    rfl
  · intro miss
    have no : ¬answer = true := fun yes => miss (hit.mp yes).2
    exact if_neg no

theorem findBesideJar_resource (there : system.classLoader = some classLoader) (resource : classLoader.getResource resPath = some url)
    (fine : ¬Reversed jarName url.path) (libName : JString) :
    (∀ lib jarName', findBesideJar system.tree (libFileName libName) system.classLoader resPath jarName = .ok (lib, jarName') →
      jarName' = nextName jarName url.path) ∧
    (¬Hit jarName url.path → findBesideJar system.tree (libFileName libName) system.classLoader resPath jarName =
      .ok (none, nextName jarName url.path)) := by
  obtain ⟨jarPath, beside, miss⟩ := jarPathOf_resource resource fine
  rw [findBesideJar, requireLibName_file, there]
  constructor
  · intro lib jarName' found
    obtain ⟨_, required, found⟩ := bind_eq_ok.mp found
    obtain ⟨⟨path, name⟩, jar, found⟩ := bind_eq_ok.mp found
    obtain ⟨lib, -, same⟩ := bind_eq_ok.mp found
    rw [beside] at jar
    cases jar
    cases same
    rfl
  · intro absent
    have nowhere := miss absent
    subst nowhere
    simp only [beside]
    rfl

theorem keepsJar_hit {name path : JString} (keeps : KeepsJar name path) : Hit name path := keeps.imp id And.left

/-- The name that is kept is one that stands in the URL, and ends in `.jar`. -/
theorem nextName_keeps {name path : JString} (live : dotJar <:+ name) (fine : ¬Reversed name path) (keeps : KeepsJar name path) :
    nextName name path <:+: path ∧ dotJar <:+ nextName name path := by
  refine ⟨?_, (nextName_live_iff live fine).mpr keeps⟩
  by_cases here : name <:+: path
  · rwa [nextName_of_present here]
  · exact nextName_present ((keepsJar_hit keeps).resolve_left here) fine live here

/-- The name that the two searches beside the jar leave. -/
theorem eitherBesideJar_resource (there : system.classLoader = some classLoader)
    (resource : classLoader.getResource resPath = some url) (live : dotJar <:+ jarName) (fine : ¬Reversed jarName url.path)
    (libName : JString) {versioned : Option JString} (files : ∀ name ∈ versioned, ∃ base, name = libFileName base) :
    (KeepsJar jarName url.path → ∀ lib jarName',
      eitherBesideJar system resPath (libFileName libName) versioned jarName = .ok (lib, jarName') →
        jarName' = nextName jarName url.path) ∧
    (¬Hit jarName url.path →
      eitherBesideJar system resPath (libFileName libName) versioned jarName = .ok (none, versionedStem jarName)) := by
  obtain ⟨name, missed⟩ := findBesideJar_resource there resource fine libName
  constructor
  · intro keeps lib jarName' found
    obtain ⟨⟨first, between⟩, searched, found⟩ := bind_eq_ok.mp found
    obtain rfl := name first between searched
    cases first with
    | some first =>
      cases found
      rfl
    | none =>
      cases versioned with
      | none =>
        cases found
        rfl
      | some number =>
        obtain ⟨base, rfl⟩ := files number rfl
        have present := (nextName_keeps live fine keeps).1
        have again := (findBesideJar_resource there resource (fun reversed => reversed.2.1 present) base).1 _ _ found
        rw [again, nextName_of_present present]
  · intro miss
    have first := missed miss
    rw [nextName_of_miss live miss] at first
    rw [eitherBesideJar, first]
    cases versioned with
    | none => rfl
    | some number =>
      obtain ⟨base, rfl⟩ := files number rfl
      have lost := versionedStem_dead jarName
      have second : findBesideJar system.tree (libFileName base) system.classLoader resPath (versionedStem jarName) =
          .ok (none, versionedStem jarName) := by
        rw [findBesideJar, requireLibName_file, there]
        simp only [jarPathOf_lost lost]
        rfl
      exact second

/-- `loadLib` stores the name that the searches leave, if none of them throws. -/
theorem loadLib_jarName (looks : LooksBesideJar loader path system url) : ∃ libName versioned,
    (∀ name ∈ versioned, ∃ base, name = libFileName base) ∧
    (∀ exception, eitherBesideJar system loader.resourcePath (libFileName libName) versioned loader.jarName = .error exception →
      (loader.loadLib path system).2.jarName = loader.jarName) ∧
    ∀ lib jarName, eitherBesideJar system loader.resourcePath (libFileName libName) versioned loader.jarName = .ok (lib, jarName) →
      (loader.loadLib path system).2.jarName = jarName := by
  obtain ⟨libName, ensured⟩ := looks.named
  obtain ⟨versioned, second, numbered⟩ := getVersionedLibName_ok (ensureLibName_again ensured) rfl
  have first : loader.getLibName system = .ok (libFileName libName, { loader with libName := some libName }) := by
    rw [ArchLoader.getLibName, ensured]
    rfl
  have name : { loader with libName := some libName }.getJarName system = loader.jarName := getJarName_own looks.own _
  refine ⟨libName, versioned, ?_, ?_, ?_⟩
  · intro number member
    obtain ⟨_, -, -, rfl⟩ := numbered number member
    exact ⟨_, rfl⟩
  · intro exception threw
    rw [ArchLoader.loadLib, first]
    simp only [second, if_pos looks.noPath, looks.noProperty, name, threw]
    rw [(ArchLoader.fail_spec _ _).2.1]
  · intro lib jarName found
    rw [ArchLoader.loadLib, first]
    simp only [second, if_pos looks.noPath, looks.noProperty, name, found]
    rw [loadFound_state]

/-- The name after the call, if the resource says that there is a jar, and if not.
A search that throws leaves the old one. -/
theorem loaderStep_jarName (looks : LooksBesideJar loader path system url) :
    (KeepsJar loader.jarName url.path → (loaderStep loader (.load path system)).2.jarName = loader.jarName ∨
      (loaderStep loader (.load path system)).2.jarName = nextName loader.jarName url.path) ∧
    (¬Hit loader.jarName url.path → (loaderStep loader (.load path system)).2.jarName = versionedStem loader.jarName) := by
  obtain ⟨libName, versioned, files, threw, returned⟩ := loadLib_jarName looks
  obtain ⟨classLoader, there, resource⟩ := looks.resource
  obtain ⟨kept, missed⟩ := eitherBesideJar_resource there resource looks.live looks.fine libName files
  have load : (loaderStep loader (.load path system)).2.jarName = (loader.loadLib path system).2.jarName := by
    have fresh : ¬loader.loaded = true := by simp [looks.fresh]
    simp only [loaderStep, ArchLoader.load, if_neg fresh]
  rw [load]
  constructor
  · intro keeps
    cases searched : eitherBesideJar system loader.resourcePath (libFileName libName) versioned loader.jarName with
    | error exception => exact Or.inl (threw exception searched)
    | ok result =>
      obtain ⟨lib, jarName⟩ := result
      rw [returned lib jarName searched]
      exact Or.inr (kept keeps lib jarName searched)
  · intro miss
    exact returned none _ (missed miss)

end Looks

/-- A loader keeps the name of a jar for its later calls if the resource of the
class comes from such a jar: its own name, or the one with the version that
stands in the URL. If the resource is found elsewhere, then the name is lost:
whatever the class path and the properties are later on, each reply of every run
of calls is the one of a loader that has no name for a jar at all. -/
theorem archLoader_jar_lost (loader : ArchLoader) (path : Option JString) (system : JavaSystem) (url : Url)
    (later : List LoaderCall) (looks : LooksBesideJar loader path system url) :
    (KeepsJar loader.jarName url.path → dotJar <:+ (loaderStep loader (.load path system)).2.jarName ∧
      ((loaderStep loader (.load path system)).2.jarName = loader.jarName ∨
        ((loaderStep loader (.load path system)).2.jarName = nextName loader.jarName url.path ∧
          nextName loader.jarName url.path <:+: url.path))) ∧
    (¬Hit loader.jarName url.path →
      loaderReplies { (loaderStep loader (.load path system)).2 with jarName := [] } later =
        loaderReplies (loaderStep loader (.load path system)).2 later ∧
      ((∀ call ∈ later, OwnJarName call) → ¬dotJar <:+ (loaderAfter loader (.load path system :: later)).jarName)) := by
  obtain ⟨kept, missed⟩ := loaderStep_jarName looks
  constructor
  · intro keeps
    obtain ⟨present, alive⟩ := nextName_keeps looks.live looks.fine keeps
    rcases kept keeps with same | next
    · rw [same]
      exact ⟨looks.live, Or.inl rfl⟩
    · rw [next]
      exact ⟨alive, Or.inr ⟨rfl, present⟩⟩
  · intro miss
    have lost : ¬dotJar <:+ (loaderStep loader (.load path system)).2.jarName := by
      rw [missed miss]
      exact versionedStem_dead _
    refine ⟨loaderReplies_lost ⟨lost, not_jar_nil, rfl⟩ later, fun own => ?_⟩
    have stays : (loaderAfter loader (.load path system :: later)).jarName = (loaderStep loader (.load path system)).2.jarName :=
      loaderAfter_keeps lost own
    rw [stays]
    exact lost

theorem plain_classes : (0 : UInt16) ∉ literal "/home/classes/edu/scut/cs/hbdc/sysm" := by decide

theorem plain_jar : (0 : UInt16) ∉ literal "file:/m2/sysm.jar!/edu/scut/cs/hbdc/sysm" := by decide

def classesUrl : Url := ⟨literal "file", literal "/home/classes/edu/scut/cs/hbdc/sysm", plain_classes⟩

def jarUrl : Url := ⟨literal "jar", literal "file:/m2/sysm.jar!/edu/scut/cs/hbdc/sysm", plain_jar⟩

/-- A class path with the package at an URL, and no library to be found. -/
def packageAt (url : Url) : JavaSystem :=
  { linuxSystem with
    classLoader := some ⟨fun name => if name = sysmLoader.resourcePath then some url else none, none⟩
    links := fun _ => false }

/-- After a first call with the classes of a build, the jar of the second call is not looked at. -/
theorem archLoader_jar_lost_classes :
    loaderReplies { (loaderStep sysmLoader (.load none (packageAt classesUrl))).2 with jarName := [] }
        [.load none (packageAt jarUrl)] =
      loaderReplies (loaderStep sysmLoader (.load none (packageAt classesUrl))).2 [.load none (packageAt jarUrl)] ∧
      ¬dotJar <:+ (loaderAfter sysmLoader [.load none (packageAt classesUrl), .load none (packageAt jarUrl)]).jarName := by
  have reversed : ¬Reversed sysmLoader.jarName classesUrl.path := by
    rintro ⟨-, -, i, k, here, -⟩
    have absent : indexOf (versionedStem sysmLoader.jarName) classesUrl.path = none := by decide +kernel
    rw [absent] at here
    cases here
  have looks : LooksBesideJar sysmLoader none (packageAt classesUrl) classesUrl := by
    refine ⟨rfl, ⟨literal "hbdcsysm-amd64-linux", by decide +kernel⟩, rfl, by decide +kernel, by decide +kernel, ⟨_, rfl, ?_⟩,
      by decide +kernel, reversed⟩
    show (if sysmLoader.resourcePath = sysmLoader.resourcePath then some classesUrl else none) = some classesUrl
    exact if_pos rfl
  have miss : ¬Hit sysmLoader.jarName classesUrl.path := by
    rw [Hit]
    decide +kernel
  have lost := (archLoader_jar_lost sysmLoader none (packageAt classesUrl) classesUrl [.load none (packageAt jarUrl)] looks).2 miss
  refine ⟨lost.1, lost.2 ?_⟩
  intro call member
  obtain rfl := List.mem_singleton.mp member
  show (packageAt jarUrl).getProperty (literal "sysm.jar.name") = none
  decide +kernel

end Sysm.Jni
