import Sysm.Finder

namespace Sysm.Jni
open JavaString

/-- `".jar"` -/
def dotJar : JString := literal ".jar"

/-- What `isJarUrl` makes of the name if the path does not contain it: the name
with the version in the path. -/
def versionedName (path jarName : JString) : Except JavaException JString := do
  let start ← (indexOf dotJar jarName).getDM (throw .stringIndexOutOfBounds)
  let jarName := jarName.take start
  let jarName := jarName ++ literal "-"
  match indexOf jarName path with
  | none => return jarName
  | some i =>
    let j := jarName.length + i
    match lastIndexOf dotJar path with
    | none => return jarName
    | some i => do
      let version ← (substring path j (i + 4)).getDM (throw .stringIndexOutOfBounds)
      return jarName ++ version

/-- `isJarUrl` with the name that is in the builder after the call. -/
def isJarUrl (url : Option Url) (jarName : Option JString) : Except JavaException (Bool × Option JString) :=
  match url, jarName with
  | none, jarName => return (false, jarName)
  | _, none => return (false, none)
  | some url, some jarName => do
    if jarName.length = 0 || !endsWith jarName dotJar then return (false, some jarName)
    else
      let path := url.path
      let jarName ← if !contains path jarName then versionedName path jarName else pure jarName
      return (contains path jarName, some jarName)

/-- The loop of `findJarPath` over the URLs, with the last one that was found. -/
def findJarUrl (url : Option Url) (jarName : Option JString) : List Url → Except JavaException (Option Url × Option JString)
  | [] => return (url, jarName)
  | tmp :: urls => do
    let (found, jarName) ← isJarUrl (some tmp) jarName
    findJarUrl (if found then some tmp else url) jarName urls

def findJarPath (loader : Option ClassLoader) (jarName : Option JString) :
    Except JavaException (Option JavaPath × Option JString) := do
  let some loader := loader | throw .nullPointer
  let (url, jarName) ← match loader.getURLs with
    | some urls => findJarUrl none jarName urls
    | none => return (none, jarName)
  return (url2Path url, jarName)

/-- What is left of the name, and the dash. -/
def versionedStem (name : JString) : JString := name.take ((indexOf dotJar name).getD name.length) ++ literal "-"

/-- The path has the name, or the stem that a version may follow. -/
def Hit (name path : JString) : Prop := name <:+: path ∨ versionedStem name <:+: path

/-- The last `.jar` of the path ends before the first stem does, so that the
substring between them does not exist. -/
def Reversed (name path : JString) : Prop :=
  dotJar <:+ name ∧ ¬name <:+: path ∧ ∃ i k, indexOf (versionedStem name) path = some i ∧ lastIndexOf dotJar path = some k ∧
    k + 4 < (versionedStem name).length + i

/-- The name that the builder has after the path. -/
def nextName (name path : JString) : JString :=
  if dotJar <:+ name ∧ ¬name <:+: path then
    match indexOf (versionedStem name) path, lastIndexOf dotJar path with
    | some i, some k => versionedStem name ++ (path.take (k + 4)).drop ((versionedStem name).length + i)
    | _, _ => versionedStem name
  else name

/-- No substring is reversed, with the names one path after the other leaves. -/
def NeverReversed : JString → List JString → Prop
  | _, [] => True
  | name, path :: paths => ¬Reversed name path ∧ NeverReversed (nextName name path) paths

section Names

variable {name path : JString}

/-- A name that was cut down is no name of a jar any more. -/
theorem versionedStem_dead (name : JString) : ¬dotJar <:+ versionedStem name := by
  rintro ⟨front, same⟩
  have last := congrArg List.getLast? same
  have letters : dotJar.getLast? = some 114 ∧ (literal "-").getLast? = some 45 := ⟨rfl, rfl⟩
  rw [versionedStem, List.getLast?_append, List.getLast?_append, letters.1, letters.2] at last
  cases last

/-- Only a name that is not in the path is changed. -/
theorem nextName_of_present (here : name <:+: path) : nextName name path = name :=
  if_neg fun absent => absent.2 here

theorem nextName_of_dead (dead : ¬dotJar <:+ name) : nextName name path = name :=
  if_neg fun live => dead live.1

/-- Without a hit the stem stays in the builder. -/
theorem nextName_of_miss (live : dotJar <:+ name) (miss : ¬Hit name path) : nextName name path = versionedStem name := by
  obtain ⟨absent, noStem⟩ := not_or.mp miss
  rw [nextName, if_pos ⟨live, absent⟩, indexOf_eq_none_iff.mpr noStem]

theorem versionedName_eq (live : dotJar <:+ name) (absent : ¬name <:+: path) :
    (Reversed name path → versionedName path name = .error .stringIndexOutOfBounds) ∧
      (¬Reversed name path → versionedName path name = .ok (nextName name path)) := by
  obtain ⟨start, found⟩ := Option.ne_none_iff_exists'.mp (mt indexOf_eq_none_iff.mp (not_not.mpr live.isInfix))
  have stem : name.take start ++ literal "-" = versionedStem name := by rw [versionedStem, found, Option.getD_some]
  have unfolded : versionedName path name = match indexOf (versionedStem name) path with
      | none => .ok (versionedStem name)
      | some i => match lastIndexOf dotJar path with
        | none => .ok (versionedStem name)
        | some k => (substring path ((versionedStem name).length + i) (k + 4)).getDM (.error .stringIndexOutOfBounds) >>=
            fun version => .ok (versionedStem name ++ version) := by
    rw [← stem, versionedName, found]
    rfl
  rw [unfolded, nextName, if_pos ⟨live, absent⟩]
  cases first : indexOf (versionedStem name) path with
  | none =>
    refine ⟨?_, fun _ => rfl⟩
    rintro ⟨-, -, i, k, here, -⟩
    rw [first] at here
    cases here
  | some i =>
    cases last : lastIndexOf dotJar path with
    | none =>
      refine ⟨?_, fun _ => rfl⟩
      rintro ⟨-, -, i, k, -, here, -⟩
      rw [last] at here
      cases here
    | some k =>
      have inside : k + 4 ≤ path.length := place_add_length_le (by decide) (lastIndexOf_some last)
      constructor
      · rintro ⟨-, -, i', k', here, there, reversed⟩
        rw [first] at here
        rw [last] at there
        cases here
        cases there
        have no : substring path ((versionedStem name).length + i) (k + 4) = none := if_neg (by omega)
        simp only [no]
        rfl
      · intro fine
        have order : (versionedStem name).length + i ≤ k + 4 := by
          by_contra reversed
          exact fine ⟨live, absent, i, k, first, last, by omega⟩
        have range : substring path ((versionedStem name).length + i) (k + 4) =
            some ((path.take (k + 4)).drop ((versionedStem name).length + i)) := if_pos ⟨order, inside⟩
        simp only [range]
        rfl

/-- The stem and its version are taken from the path. -/
theorem nextName_present (stem : versionedStem name <:+: path) (fine : ¬Reversed name path) (live : dotJar <:+ name)
    (absent : ¬name <:+: path) : nextName name path <:+: path := by
  rw [nextName, if_pos ⟨live, absent⟩]
  cases first : indexOf (versionedStem name) path with
  | none => exact absurd stem (indexOf_eq_none_iff.mp first)
  | some i =>
    cases last : lastIndexOf dotJar path with
    | none => exact stem
    | some k =>
      have order : i + (versionedStem name).length ≤ k + 4 := by
        by_contra reversed
        exact fine ⟨live, absent, i, k, first, last, by omega⟩
      have stands := append_substring_present (indexOf_some first) order
      rw [Nat.add_comm i] at stands
      exact stands

end Names

section Call

variable {url : Url} {name : JString}

theorem isJarUrl_dead (dead : ¬dotJar <:+ name) : isJarUrl (some url) (some name) = .ok (false, some name) := by
  simp only [isJarUrl, endsWith_eq_false dead, Bool.not_false, Bool.or_true, if_true]
  rfl

theorem isJarUrl_live (live : dotJar <:+ name) :
    isJarUrl (some url) (some name) =
      (if !contains url.path name then versionedName url.path name else .ok name) >>= fun name =>
        .ok (contains url.path name, some name) := by
  have ends : endsWith name dotJar = true := endsWith_iff.mpr live
  have letters : name.length ≠ 0 := by
    have length := live.length_le
    have four : dotJar.length = 4 := rfl
    omega
  simp only [isJarUrl, ends, decide_eq_false letters, Bool.not_true, Bool.or_false, Bool.false_eq_true, if_false]
  cases contains url.path name <;> rfl

/-- A call asks for a reversed substring, or it answers whether there is a hit. -/
theorem isJarUrl_reversed (reversed : Reversed name url.path) :
    isJarUrl (some url) (some name) = .error .stringIndexOutOfBounds := by
  rw [isJarUrl_live reversed.1, contains_eq_false reversed.2.1, Bool.not_false, if_pos rfl, (versionedName_eq reversed.1 reversed.2.1).1 reversed]
  rfl

theorem isJarUrl_answers (fine : ¬Reversed name url.path) :
    ∃ answer, isJarUrl (some url) (some name) = .ok (answer, some (nextName name url.path)) ∧
      (answer = true ↔ dotJar <:+ name ∧ Hit name url.path) := by
  by_cases live : dotJar <:+ name
  · refine ⟨contains url.path (nextName name url.path), ?_, ?_⟩
    · rw [isJarUrl_live live]
      by_cases here : name <:+: url.path
      · rw [contains_iff.mpr here, nextName_of_present here]
        rfl
      · rw [contains_eq_false here, Bool.not_false, if_pos rfl, (versionedName_eq live here).2 fine]
        rfl
    · rw [contains_iff]
      by_cases here : name <:+: url.path
      · simp only [nextName_of_present here, here, live, Hit, true_or, and_self]
      · by_cases stem : versionedStem name <:+: url.path
        · simp only [nextName_present stem fine live here, live, Hit, stem, or_true, and_self]
        · have miss : ¬Hit name url.path := not_or.mpr ⟨here, stem⟩
          simp only [nextName_of_miss live miss, stem, live, miss, and_false]
  · refine ⟨false, ?_, ?_⟩
    · rw [nextName_of_dead live]
      exact isJarUrl_dead live
    · simp only [Bool.false_eq_true, live, false_and]

end Call

section Loop

variable {found : Option Url} {name : JString} {urls : List Url}

/-- With a name that was cut down no URL is found any more. -/
theorem findJarUrl_dead (dead : ¬dotJar <:+ name) : findJarUrl found (some name) urls = .ok (found, some name) := by
  induction urls with
  | nil => rfl
  | cons url urls ih =>
    rw [findJarUrl, isJarUrl_dead dead]
    exact ih

/-- The loop ends if no substring is reversed, and keeps what it has found. -/
theorem findJarUrl_ends (fine : NeverReversed name (urls.map Url.path)) :
    ∃ found' name', findJarUrl found (some name) urls = .ok (found', some name') ∧ (found.isSome → found'.isSome) := by
  induction urls generalizing found name with
  | nil => exact ⟨found, name, rfl, id⟩
  | cons url urls ih =>
    obtain ⟨here, later⟩ := fine
    obtain ⟨answer, call, -⟩ := isJarUrl_answers here
    obtain ⟨found', name', loop, keeps⟩ := @ih (if answer then some url else found) _ later
    refine ⟨found', name', ?_, ?_⟩
    · rw [findJarUrl, call]
      exact loop
    · intro before
      apply keeps
      cases answer with
      | true => rfl
      | false => exact before

theorem findJarUrl_reversed (reversed : ¬NeverReversed name (urls.map Url.path)) :
    findJarUrl found (some name) urls = .error .stringIndexOutOfBounds := by
  induction urls generalizing found name with
  | nil => exact absurd trivial reversed
  | cons url urls ih =>
    by_cases here : Reversed name url.path
    · rw [findJarUrl, isJarUrl_reversed here]
      rfl
    · obtain ⟨answer, call, -⟩ := isJarUrl_answers here
      rw [findJarUrl, call]
      exact ih fun later => reversed ⟨here, later⟩

/-- Nothing is reversed if the first path is no hit. -/
theorem neverReversed_of_miss {path : JString} {paths : List JString} (live : dotJar <:+ name) (miss : ¬Hit name path) :
    NeverReversed name (path :: paths) := by
  have dead : ∀ paths, NeverReversed (versionedStem name) paths := by
    intro paths
    induction paths with
    | nil => trivial
    | cons path paths ih =>
      refine ⟨fun reversed => versionedStem_dead name reversed.1, ?_⟩
      rw [nextName_of_dead (versionedStem_dead name)]
      exact ih
  refine ⟨?_, ?_⟩
  · rintro ⟨-, -, i, k, first, -⟩
    have absent := indexOf_eq_none_iff.mpr (not_or.mp miss).2
    rw [first] at absent
    cases absent
  · rw [nextName_of_miss live miss]
    exact dead paths

/-- The first URL decides whether a path is returned. -/
theorem findJarUrl_first {url : Url} (live : dotJar <:+ name) (fine : NeverReversed name ((url :: urls).map Url.path)) :
    ∃ found name', findJarUrl none (some name) (url :: urls) = .ok (found, some name') ∧
      (found.isSome ↔ Hit name url.path) := by
  obtain ⟨here, later⟩ := fine
  obtain ⟨answer, call, iff⟩ := isJarUrl_answers here
  by_cases hit : Hit name url.path
  · obtain ⟨found, name', loop, keeps⟩ := @findJarUrl_ends (some url) _ urls later
    refine ⟨found, name', ?_, ⟨fun _ => hit, fun _ => keeps rfl⟩⟩
    rw [findJarUrl, call, iff.mpr ⟨live, hit⟩]
    exact loop
  · have no : answer = false := by
      rw [← Bool.not_eq_true, iff]
      exact fun answered => hit answered.2
    refine ⟨none, nextName name url.path, ?_, by simp [hit]⟩
    rw [findJarUrl, call, no, nextName_of_miss live hit]
    exact findJarUrl_dead (versionedStem_dead name)

end Loop

/-- The path has the jar, or the jar with a version. -/
def HasJar (isVersion : JString → Prop) (b path : JString) : Prop :=
  b ++ dotJar <:+: path ∨ ∃ version, isVersion version ∧ b ++ literal "-" ++ version ++ dotJar <:+: path

/-- In every order of the URLs a path is returned exactly if one of them has the jar. -/
def FindsJar (isVersion : JString → Prop) (b : JString) (urls : List Url) : Prop :=
  ∀ loader urls', loader.getURLs = some urls' → urls'.Perm urls →
    ∃ path jarName, findJarPath (some loader) (some (b ++ dotJar)) = .ok (path, jarName) ∧
      (path.isSome ↔ ∃ url ∈ urls, HasJar isVersion b url.path)

/-- A call that answers false leaves the name as it is. -/
def KeepsName (url : Option Url) (jarName : Option JString) : Prop :=
  ∀ jarName', isJarUrl url jarName = .ok (false, jarName') → jarName' = jarName

section Laws

variable {isVersion : JString → Prop} {b : JString} {urls : List Url}

theorem findJarPath_eq (loader : ClassLoader) {urls : List Url} (listed : loader.getURLs = some urls) (jarName : Option JString) :
    findJarPath (some loader) jarName = (findJarUrl none jarName urls).map fun (url, jarName) => (url2Path url, jarName) := by
  simp only [findJarPath, listed]
  cases findJarUrl none jarName urls <;> rfl

/-- No substring is reversed in an order in which the law holds, and its first
URL decides. -/
theorem findsJar_order (finds : FindsJar isVersion b urls) {urls' : List Url} (order : urls'.Perm urls) :
    NeverReversed (b ++ dotJar) (urls'.map Url.path) := by
  obtain ⟨path, jarName, run, -⟩ := finds ⟨fun _ => none, some urls'⟩ urls' rfl order
  by_contra reversed
  rw [findJarPath_eq _ rfl, findJarUrl_reversed reversed] at run
  cases run

theorem findsJar_first (finds : FindsJar isVersion b urls) {url : Url} (member : url ∈ urls) :
    Hit (b ++ dotJar) url.path ↔ ∃ url ∈ urls, HasJar isVersion b url.path := by
  obtain ⟨before, behind, rfl⟩ := List.append_of_mem member
  have order : (url :: (before ++ behind)).Perm (before ++ url :: behind) := List.perm_middle.symm
  obtain ⟨found, name, loop, iff⟩ := findJarUrl_first (List.suffix_append b dotJar) (findsJar_order finds order)
  obtain ⟨path, jarName, run, law⟩ := finds ⟨fun _ => none, some _⟩ _ rfl order
  rw [findJarPath_eq _ rfl, loop] at run
  cases run
  rw [← iff, ← url2Path_isSome]
  exact law

/-- If the first URL decides rightly, the law holds in its order. -/
theorem findJarPath_first {loader : ClassLoader} {url : Url} {urls' : List Url} (listed : loader.getURLs = some (url :: urls'))
    (fine : NeverReversed (b ++ dotJar) ((url :: urls').map Url.path))
    (decides : Hit (b ++ dotJar) url.path ↔ ∃ url ∈ urls, HasJar isVersion b url.path) :
    ∃ path jarName, findJarPath (some loader) (some (b ++ dotJar)) = .ok (path, jarName) ∧
      (path.isSome ↔ ∃ url ∈ urls, HasJar isVersion b url.path) := by
  obtain ⟨found, name, loop, iff⟩ := findJarUrl_first (List.suffix_append b dotJar) fine
  refine ⟨url2Path found, some name, ?_, ?_⟩
  · rw [findJarPath_eq loader listed, loop]
    rfl
  · rw [url2Path_isSome, iff, decides]

theorem findsJar_iff : FindsJar isVersion b urls ↔
    (∀ url ∈ urls, ¬Hit (b ++ dotJar) url.path ∧ ¬HasJar isVersion b url.path) ∨
      ((∃ url ∈ urls, HasJar isVersion b url.path) ∧ (∀ url ∈ urls, Hit (b ++ dotJar) url.path) ∧
        ∀ urls' : List Url, urls'.Perm urls → NeverReversed (b ++ dotJar) (urls'.map Url.path)) := by
  constructor
  · intro finds
    by_cases there : ∃ url ∈ urls, HasJar isVersion b url.path
    · exact Or.inr ⟨there, fun url member => (findsJar_first finds member).mpr there, fun urls' => findsJar_order finds⟩
    · refine Or.inl fun url member => ⟨fun hit => there ((findsJar_first finds member).mp hit), ?_⟩
      exact fun jar => there ⟨url, member, jar⟩
  · rintro (nowhere | ⟨there, hits, fine⟩) loader urls' listed order
    · have absent : ¬∃ url ∈ urls, HasJar isVersion b url.path := by
        rintro ⟨url, member, jar⟩
        exact (nowhere url member).2 jar
      cases urls' with
      | nil =>
        refine ⟨none, some (b ++ dotJar), ?_, by simp [absent]⟩
        rw [findJarPath_eq loader listed]
        rfl
      | cons url urls' =>
        have miss := (nowhere url (order.subset (List.mem_cons_self ..))).1
        exact findJarPath_first listed (neverReversed_of_miss (List.suffix_append b dotJar) miss) (by simp only [miss, absent])
    · cases urls' with
      | nil =>
        obtain ⟨url, member, -⟩ := there
        exact absurd (order.symm.subset member) (List.not_mem_nil)
      | cons url urls' =>
        have hit := hits url (order.subset (List.mem_cons_self ..))
        exact findJarPath_first listed (fine _ order) (by simp only [hit, there])

theorem keepsName_iff {url : Option Url} {jarName : Option JString} : KeepsName url jarName ↔
    ∀ there name, url = some there → jarName = some name → dotJar <:+ name → Hit name there.path := by
  constructor
  · rintro keeps there name rfl rfl live
    by_contra miss
    have fine : NeverReversed name [there.path] := neverReversed_of_miss live miss
    obtain ⟨answer, call, iff⟩ := isJarUrl_answers fine.1
    have no : answer = false := by
      rw [← Bool.not_eq_true, iff]
      exact fun answered => miss answered.2
    rw [no, nextName_of_miss live miss] at call
    have same := Option.some.inj (keeps _ call)
    rw [← same] at live
    exact versionedStem_dead name live
  · intro hits jarName' call
    cases url with
    | none =>
      cases call
      rfl
    | some there =>
      cases jarName with
      | none =>
        cases call
        rfl
      | some name =>
        by_cases live : dotJar <:+ name
        · by_cases reversed : Reversed name there.path
          · rw [isJarUrl_reversed reversed] at call
            cases call
          · obtain ⟨answer, answers, iff⟩ := isJarUrl_answers reversed
            rw [iff.mpr ⟨live, hits there name rfl rfl live⟩, call] at answers
            cases answers
        · rw [isJarUrl_dead live] at call
          cases call
          rfl

/-- Where `findJarPath` and `isJarUrl` keep to what they are for: no path has
the name or its stem, or all of them have and one has the jar, and no order
reverses a substring; and every name that is tried is in the path, or its stem is. -/
theorem jarFinder_laws (isVersion : JString → Prop) :
    (∀ b urls, FindsJar isVersion b urls ↔
      (∀ url ∈ urls, ¬Hit (b ++ dotJar) url.path ∧ ¬HasJar isVersion b url.path) ∨
        ((∃ url ∈ urls, HasJar isVersion b url.path) ∧ (∀ url ∈ urls, Hit (b ++ dotJar) url.path) ∧
          ∀ urls' : List Url, urls'.Perm urls → NeverReversed (b ++ dotJar) (urls'.map Url.path))) ∧
    ∀ url jarName, KeepsName url jarName ↔
      ∀ there name, url = some there → jarName = some name → dotJar <:+ name → Hit name there.path :=
  ⟨fun _ _ => findsJar_iff, fun _ _ => keepsName_iff⟩

theorem plain_hamcrest : (0 : UInt16) ∉ literal "/m2/hamcrest.jar" := by decide

theorem plain_junit : (0 : UInt16) ∉ literal "/m2/junit.jar" := by decide

def hamcrestUrl : Url := ⟨literal "file", literal "/m2/hamcrest.jar", plain_hamcrest⟩

def junitUrl : Url := ⟨literal "file", literal "/m2/junit.jar", plain_junit⟩

/-- The jar before `junit.jar` cuts the name down, and `junit.jar` is not found. -/
theorem not_findsJar_junit :
    ¬FindsJar (fun _ => True) (literal "junit") [hamcrestUrl, junitUrl] ∧
      ¬KeepsName (some hamcrestUrl) (some (literal "junit.jar")) := by
  constructor
  · intro finds
    obtain ⟨path, jarName, run, iff⟩ := finds ⟨fun _ => none, some [hamcrestUrl, junitUrl]⟩ _ rfl (List.Perm.refl _)
    have lost : findJarPath (some ⟨fun _ => none, some [hamcrestUrl, junitUrl]⟩) (some (literal "junit" ++ dotJar)) =
        .ok (none, some (literal "junit-")) := rfl
    have jar : HasJar (fun _ => True) (literal "junit") junitUrl.path := Or.inl (by decide +kernel)
    rw [lost] at run
    cases run
    exact absurd (iff.mpr ⟨junitUrl, by simp, jar⟩) (by decide)
  · intro keeps
    have call : isJarUrl (some hamcrestUrl) (some (literal "junit.jar")) = .ok (false, some (literal "junit-")) := rfl
    exact absurd (keeps _ call) (by decide +kernel)

end Laws

end Sysm.Jni
