import Sysm.ProcEnv

namespace Sysm
open CString

variable {J : Type} [DecidableEq J] (strings : JavaStrings J) (entries : List EnvEntry)

/-- The value of the first entry with these bytes as its key. -/
def firstValue (name : Text) : Option J :=
  (entries.find? fun entry => entry.key == name).map fun entry => strings.newStringUTF entry.value

/-- The value of the last entry whose key becomes this string. -/
def lastValue (key : J) : Option J :=
  (entries.reverse.find? fun entry => strings.newStringUTF entry.key == key).map fun entry =>
    strings.newStringUTF entry.value

/-- The process has this environment, which is also the one that `getenv`
looks at in the process itself. -/
structure EnvMachine.HasEnv (machine : EnvMachine) (pid : Int32) (entries : List EnvEntry) : Prop where
  real : pid ≠ 0
  block : machine.procEnviron pid = .ok (some (envBlock entries))
  own : pid = machine.getpid → machine.environ = entries.map EnvEntry.text

/-- The two queries agree on the key, whether `sysm_pid_get` has been called or not. -/
def EnvQueriesAgree (opened : SysmT) (machine : EnvMachine) (pid : Int32) (key : J) : Prop :=
  ∃ map, ∀ sysm ∈ [opened, (sysmPidGet opened machine).2],
    processEnvGetAll strings sysm machine pid = some (.ok map) ∧
      processEnvGetValue strings sysm machine pid key = some (.ok (map.lookup key))

/-- What the code needs for that. For the own process `getenv` finds nothing
for an empty name, and takes a name with an `=` in it for the begin of an entry. -/
structure EnvKeyPlain (machine : EnvMachine) (pid : Int32) (key : J) : Prop where
  fits : (envBlock entries).length < argMax
  once : firstValue strings entries (strings.getStringUTFChars key) = lastValue strings entries key
  named : pid = machine.getpid → strings.getStringUTFChars key = [] → ∀ entry ∈ entries, entry.key ≠ []
  whole : pid = machine.getpid → 61 ∈ strings.getStringUTFChars key →
    ∀ entry ∈ entries, ¬ (strings.getStringUTFChars key ++ [61]) <+: entry.text

theorem eachEntry_getall (map : AList fun _ : J => J) (key : J) :
    (eachEntry (jniEnvGetall strings) entries map).lookup key = (lastValue strings entries key).or (map.lookup key) := by
  induction entries generalizing map with
  | nil => rfl
  | cons entry entries ih =>
    have later := ih (map.insert (strings.newStringUTF entry.key) (strings.newStringUTF entry.value))
    have step : eachEntry (jniEnvGetall strings) (entry :: entries) map =
        eachEntry (jniEnvGetall strings) entries
          (map.insert (strings.newStringUTF entry.key) (strings.newStringUTF entry.value)) := rfl
    have last : lastValue strings (entry :: entries) key = (lastValue strings entries key).or
        (if strings.newStringUTF entry.key = key then some (strings.newStringUTF entry.value) else none) := by
      simp only [lastValue, List.reverse_cons, List.find?_append, Option.map_or]
      by_cases same : strings.newStringUTF entry.key = key
      · simp [same]
      · simp [same]
    rw [step, later, last, Option.or_assoc]
    by_cases same : strings.newStringUTF entry.key = key
    · rw [if_pos same, same, AList.lookup_insert, Option.some_or]
    · rw [if_neg same, AList.lookup_insert_ne (Ne.symm same), Option.none_or]

omit [DecidableEq J] in
theorem eachEntry_getvalue (name : Text) (val : Option J) :
    (eachEntry (jniEnvGetvalue strings) entries ⟨name, name.length, val⟩).val =
      (firstValue strings entries name).or val := by
  induction entries with
  | nil => rfl
  | cons entry entries ih =>
    by_cases same : entry.key = name
    · subst same
      simp [eachEntry, jniEnvGetvalue, firstValue]
    · have other : ¬ (name.length = entry.key.length ∧ name = entry.key) := fun both => same both.2.symm
      have skip : firstValue strings (entry :: entries) name = firstValue strings entries name := by
        simp [firstValue, same]
      rw [skip, ← ih]
      simp [eachEntry, jniEnvGetvalue, if_neg other]

variable {entries}

/-- An entry begins with a name that has no `=` exactly if it is the entry of this name. -/
theorem isPrefix_text {name : Text} (plain : 61 ∉ name) (entry : EnvEntry) :
    (name ++ [61]) <+: entry.text ↔ entry.key = name := by
  constructor
  · rintro ⟨rest, same⟩
    have noSign : ∀ c ∈ name, (c != 61) = true := fun c member => by
      have other : c ≠ 61 := fun sign => plain (sign ▸ member)
      simpa using other
    have noSign' : ∀ c ∈ entry.key, (c != 61) = true := fun c member => by simpa using (entry.keyed.2 c member).2
    have first := takeWhile_stop noSign (by simp : Stops (fun c => c != 61) (61 :: rest))
    have second := takeWhile_stop noSign' (by simp : Stops (fun c => c != 61) (61 :: entry.value))
    rw [EnvEntry.text, List.append_assoc, List.singleton_append] at same
    rw [← second, ← same, first]
  · rintro rfl
    exact ⟨entry.value, by simp [EnvEntry.text]⟩

omit [DecidableEq J] in
/-- `getenv` finds the first entry of an ordinary name. -/
theorem getenv_text {name : Text} (nonempty : name ≠ []) (plain : 61 ∉ name) :
    (getenv (entries.map EnvEntry.text) name).map strings.newStringUTF = firstValue strings entries name := by
  have test : ((fun string => (name ++ [61]).isPrefixOf string) ∘ EnvEntry.text) = fun entry => entry.key == name := by
    funext entry
    rw [Bool.eq_iff_iff, Function.comp_apply, List.isPrefixOf_iff_prefix, isPrefix_text plain, beq_iff_eq]
  rw [getenv, if_neg nonempty, List.find?_map, test, firstValue]
  cases found : entries.find? fun entry => entry.key == name with
  | none => rfl
  | some entry =>
    have key : entry.key = name := by simpa using List.find?_some found
    have value : entry.text.drop (name.length + 1) = entry.value := by
      have shape : entry.text = (entry.key ++ [61]) ++ entry.value := by simp [EnvEntry.text]
      rw [shape, List.drop_left' (by simp [key])]
    simp only [Option.map_some, value]

omit [DecidableEq J] in
theorem firstValue_eq_none {name : Text} :
    firstValue strings entries name = none ↔ ∀ entry ∈ entries, entry.key ≠ name := by
  simp [firstValue]

omit [DecidableEq J] in
/-- `getenv` and the loop over the entries differ on no other names. -/
theorem getenv_eq_firstValue {name : Text} :
    (getenv (entries.map EnvEntry.text) name).map strings.newStringUTF = firstValue strings entries name ↔
      (name = [] → ∀ entry ∈ entries, entry.key ≠ []) ∧
        (61 ∈ name → ∀ entry ∈ entries, ¬ (name ++ [61]) <+: entry.text) := by
  by_cases empty : name = []
  · subst empty
    rw [getenv, if_pos rfl, Option.map_none, eq_comm, firstValue_eq_none]
    simp
  · by_cases sign : 61 ∈ name
    · have noKey : firstValue strings entries name = none := by
        rw [firstValue_eq_none]
        intro entry _ same
        exact (entry.keyed.2 61 (same ▸ sign)).2 rfl
      rw [noKey, getenv, if_neg empty, Option.map_eq_none_iff, Option.map_eq_none_iff, List.find?_eq_none]
      simp [empty, sign]
    · rw [getenv_text strings empty sign]
      simp [empty, sign]

section Queries

variable {strings} {machine : EnvMachine} {pid : Int32} (hasEnv : machine.HasEnv pid entries) (sysm : SysmT)
include hasEnv

theorem processEnvGetAll_env : processEnvGetAll strings sysm machine pid =
    if (envBlock entries).length < argMax then some (.ok (eachEntry (jniEnvGetall strings) entries ∅)) else none := by
  have scan := envLoop_block (jniEnvGetall strings) entries (Nat.le_refl _) ∅
  simp only [processEnvGetAll, sysmProcEnvGet, hasEnv.block, reduceCtorEq, false_and, if_false, scan]
  split
  · rfl
  · rfl

omit [DecidableEq J] in
theorem processEnvGetValue_scan {sysm : SysmT} (other : pid ≠ sysm.pid) (key : J) :
    processEnvGetValue strings sysm machine pid key =
      if (envBlock entries).length < argMax then
        some (.ok (firstValue strings entries (strings.getStringUTFChars key)))
      else none := by
  have scan := envLoop_block (jniEnvGetvalue strings) entries (Nat.le_refl _)
    ⟨strings.getStringUTFChars key, (strings.getStringUTFChars key).length, none⟩
  have value := eachEntry_getvalue strings entries (strings.getStringUTFChars key) none
  rw [Option.or_none] at value
  simp only [processEnvGetValue, sysmProcEnvGet, hasEnv.block, other, and_false, if_false, scan]
  split
  · simp only [Option.map_some, ne_eq, not_true_eq_false, if_false, value]
  · rfl

omit [DecidableEq J] in
theorem processEnvGetValue_own {sysm : SysmT} (own : pid = sysm.pid) (me : pid = machine.getpid) (key : J) :
    processEnvGetValue strings sysm machine pid key = some (.ok
      ((getenv (entries.map EnvEntry.text) (strings.getStringUTFChars key)).map strings.newStringUTF)) := by
  simp only [processEnvGetValue, sysmProcEnvGet, ← own, and_self, if_true, hasEnv.own me]
  cases getenv (entries.map EnvEntry.text) (strings.getStringUTFChars key) with
  | none => rfl
  | some value => simp [jniEnvGetvalue]

end Queries

/-- The queries agree on a key exactly if the environment fits into the buffer,
the first and the last entry of the key have the same value, and `getenv` is
asked for nothing but a name. -/
theorem envQueriesAgree_iff {opened : SysmT} (fresh : opened.pid = 0) {machine : EnvMachine} {pid : Int32}
    (hasEnv : machine.HasEnv pid entries) (key : J) :
    EnvQueriesAgree strings opened machine pid key ↔ EnvKeyPlain strings entries machine pid key := by
  have other : pid ≠ opened.pid := fresh ▸ hasEnv.real
  have all (sysm : SysmT) := @processEnvGetAll_env J _ strings entries machine pid hasEnv sysm
  have lookup := eachEntry_getall strings entries ∅ key
  rw [AList.lookup_empty, Option.or_none] at lookup
  have scan := @processEnvGetValue_scan J strings entries machine pid hasEnv opened other key
  have called : processEnvGetValue strings (sysmPidGet opened machine).2 machine pid key =
      if pid = machine.getpid then some (.ok
        ((getenv (entries.map EnvEntry.text) (strings.getStringUTFChars key)).map strings.newStringUTF))
      else if (envBlock entries).length < argMax then
        some (.ok (firstValue strings entries (strings.getStringUTFChars key)))
      else none := by
    by_cases me : pid = machine.getpid
    · rw [if_pos me]
      exact processEnvGetValue_own hasEnv me me key
    · rw [if_neg me]
      exact processEnvGetValue_scan hasEnv me key
  constructor
  · rintro ⟨map, agree⟩
    obtain ⟨getAll, getValue⟩ := agree opened (by simp)
    obtain ⟨_, getValue'⟩ := agree (sysmPidGet opened machine).2 (by simp)
    rw [all] at getAll
    obtain ⟨fits, same⟩ := Option.ite_none_right_eq_some.mp getAll
    cases same
    rw [scan, if_pos fits, lookup] at getValue
    have once : firstValue strings entries (strings.getStringUTFChars key) = lastValue strings entries key :=
      Except.ok.inj (Option.some.inj getValue)
    rw [called, lookup, ← once] at getValue'
    have names (me : pid = machine.getpid) := by
      rw [if_pos me] at getValue'
      exact (getenv_eq_firstValue strings).mp (Except.ok.inj (Option.some.inj getValue'))
    exact ⟨fits, once, fun me => (names me).1, fun me => (names me).2⟩
  · intro plain
    refine ⟨eachEntry (jniEnvGetall strings) entries ∅, ?_⟩
    simp only [List.forall_mem_cons, List.not_mem_nil, false_implies, implies_true, and_true, all, if_pos plain.fits,
      lookup, ← plain.once, scan, called, true_and]
    by_cases me : pid = machine.getpid
    · rw [if_pos me, (getenv_eq_firstValue strings).mpr ⟨plain.named me, plain.whole me⟩]
    · rw [if_neg me]

/-- An entry with a short key and value. -/
def letterEntry (key value : UInt8) (plain : key ≠ 0 ∧ key ≠ 61 ∧ value ≠ 0) : EnvEntry where
  key := [key]
  value := [value]
  keyed := ⟨by simp, by simpa using ⟨plain.1, plain.2.1⟩⟩
  valued := by simpa using plain.2.2

/-- A process with this environment that looks at itself. -/
def selfMachine (entries : List EnvEntry) : EnvMachine :=
  ⟨7, entries.map EnvEntry.text, fun _ => .ok (some (envBlock entries))⟩

/-- Strings whose characters are bytes. -/
def byteStrings : JavaStrings Text := ⟨id, id⟩

theorem selfMachine_hasEnv (entries : List EnvEntry) : (selfMachine entries).HasEnv 7 entries :=
  ⟨by decide, rfl, fun _ => rfl⟩

/-- `A=1` and `B=2` -/
def distinctKeys : List EnvEntry := [letterEntry 65 49 (by decide), letterEntry 66 50 (by decide)]

/-- `A=1` and `A=2` -/
def repeatedKey : List EnvEntry := [letterEntry 65 49 (by decide), letterEntry 65 50 (by decide)]

theorem envQueriesAgree_distinct : EnvQueriesAgree byteStrings openedSysm (selfMachine distinctKeys) 7 [65] := by
  refine (@envQueriesAgree_iff Text _ byteStrings distinctKeys openedSysm rfl _ 7
    (selfMachine_hasEnv distinctKeys) [65]).mpr ⟨by decide, by decide, ?_, ?_⟩
  · intro _ empty
    cases empty
  · intro _ sign
    exact absurd sign (by decide)

/-- The map has the last value of the key, and the query for the key finds the first one. -/
theorem processEnvGetValue_repeated :
    ¬ ∀ memory opened getpagesize ticks procStat machine pid entries key,
      sysmOpen memory getpagesize ticks procStat = .ok opened → machine.HasEnv pid entries →
        EnvQueriesAgree byteStrings opened machine pid key := by
  intro claim
  obtain ⟨map, agree⟩ := claim .zero openedSysm 4096 100 (.ok []) _ 7 repeatedKey [65] rfl (selfMachine_hasEnv repeatedKey)
  obtain ⟨getAll, getValue⟩ := agree openedSysm (by simp)
  have last : (processEnvGetAll byteStrings openedSysm (selfMachine repeatedKey) 7).map (fun result =>
      (result.toOption.bind fun map => map.lookup [65])) = some (some [50]) := by decide +kernel
  have first : (processEnvGetValue byteStrings openedSysm (selfMachine repeatedKey) 7 [65]).map (fun result =>
      result.toOption) = some (some (some [49])) := by decide +kernel
  rw [getAll, Option.map_some, Except.toOption, Option.bind_some] at last
  rw [getValue, Option.map_some, Except.toOption, Option.some.inj last] at first
  cases first

end Sysm
