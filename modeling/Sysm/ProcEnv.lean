import Mathlib.Data.List.AList
import Sysm.Lib.CNumbers
import Sysm.State

namespace Sysm
open CString

/-- `ARG_MAX` -/
def argMax : Nat := 131072

/-- `SYSM_PROC_ENV` -/
inductive SysmProcEnvType where
  | all
  | key
deriving Repr, DecidableEq

/-- `sysm_proc_env_t`. The key is not set for `SYSM_PROC_ENV_ALL`. The getter
takes the data, the key and its length, and the value and its length. -/
structure SysmProcEnv (σ : Type) where
  data : σ
  type : SysmProcEnvType
  key : Text
  klen : Nat
  envGetter : σ → Text → Nat → Text → Nat → Int × σ

/-- The process that calls, and what opening and reading `/proc/<pid>/environ`
brings for each process. -/
structure EnvMachine where
  getpid : Int32
  environ : List Text
  procEnviron : Int32 → Except Int (Option (List UInt8))

/-- `getenv`: the first string that has the name before its `=`. No string is
looked at for an empty name. -/
def getenv (environ : List Text) (name : Text) : Option Text :=
  if name = [] then none
  else (environ.find? fun string => (name ++ [61]).isPrefixOf string).map fun string => string.drop (name.length + 1)

section Get

variable {σ : Type}

/-- The loop of `sysm_proc_env_get` over the bytes from `ptr` to `end`. A key
that does not fit into its buffer is a fault. -/
def envLoop (envGetter : σ → Text → Nat → Text → Nat → Int × σ) : Nat → List UInt8 → σ → Option σ
  | 0, _, data => some data
  | rounds + 1, rest, data =>
    if rest = [] then some data
    else
      let ptr := ofBuffer rest
      match strchr 61 ptr with
      -- not key=val format
      | none => some data
      | some val =>
        let klen := ptr.length - val.length
        if 128 ≤ klen then none
        else
          let key := ptr.take klen
          let val := val.tail
          let vlen := val.length
          let (status, data) := envGetter data key klen val vlen
          if status ≠ 0 then some data else envLoop envGetter rounds (rest.drop (klen + 1 + vlen + 1)) data

/-- `sysm_proc_env_get`. Each round of the loop takes a byte at least. Behind a
`read` that fails or fills the buffer the NUL is written out of the buffer. -/
def sysmProcEnvGet (sysm : SysmT) (machine : EnvMachine) (pid : Int32) (procEnv : SysmProcEnv σ) : Option (Int × σ) :=
  if procEnv.type = .key ∧ pid = sysm.pid then
    match getenv machine.environ procEnv.key with
    | some value => some (0, (procEnv.envGetter procEnv.data procEnv.key procEnv.klen value value.length).2)
    | none => some (0, procEnv.data)
  else
    match machine.procEnviron pid with
    | .error errno => some (if errno = ENOENT then ESRCH else errno, procEnv.data)
    | .ok none => none
    | .ok (some buffer) =>
      if buffer.length < argMax then (envLoop procEnv.envGetter buffer.length buffer procEnv.data).map fun data => (0, data)
      else none

end Get

def sysmPidGet (sysm : SysmT) (machine : EnvMachine) : Int32 × SysmT :=
  (machine.getpid, { sysm with pid := machine.getpid })

/-- The two conversions between the strings of Java and those of C. -/
structure JavaStrings (J : Type) where
  newStringUTF : Text → J
  getStringUTFChars : J → Text

section Java

variable {J : Type} [DecidableEq J] (strings : JavaStrings J)

/-- The data are the `HashMap`. Nothing is thrown by its `put`. -/
def jniEnvGetall (map : AList fun _ : J => J) (key : Text) (_klen : Nat) (val : Text) (_vlen : Nat) :
    Int × AList fun _ : J => J :=
  (0, map.insert (strings.newStringUTF key) (strings.newStringUTF val))

/-- `ProcessEnv_getAll`, with the status that is thrown or the map. -/
def processEnvGetAll (sysm : SysmT) (machine : EnvMachine) (pid : Int32) :
    Option (Except Int (AList fun _ : J => J)) :=
  (sysmProcEnvGet sysm machine pid ⟨∅, .all, [], 0, jniEnvGetall strings⟩).map fun (status, map) =>
    if status ≠ 0 then .error status else .ok map

/-- `jni_env_get_t` -/
structure JniEnvGet (J : Type) where
  key : Text
  klen : Nat
  val : Option J

def jniEnvGetvalue (get : JniEnvGet J) (key : Text) (klen : Nat) (val : Text) (_vlen : Nat) : Int × JniEnvGet J :=
  if get.klen = klen ∧ get.key = key then (1, { get with val := some (strings.newStringUTF val) }) else (0, get)

/-- `ProcessEnv_getValue`, with the status that is thrown or the value, which may be null. -/
def processEnvGetValue (sysm : SysmT) (machine : EnvMachine) (pid : Int32) (key : J) : Option (Except Int (Option J)) :=
  let chars := strings.getStringUTFChars key
  let get : JniEnvGet J := ⟨chars, chars.length, none⟩
  (sysmProcEnvGet sysm machine pid ⟨get, .key, chars, chars.length, jniEnvGetvalue strings⟩).map fun (status, get) =>
    if status ≠ 0 then .error status else .ok get.val

end Java

/-- An entry of an environment. -/
structure EnvEntry where
  key : Text
  value : Text
  keyed : key.length < 128 ∧ ∀ c ∈ key, c ≠ 0 ∧ c ≠ 61
  valued : ∀ c ∈ value, c ≠ 0

def EnvEntry.text (entry : EnvEntry) : Text := entry.key ++ 61 :: entry.value

/-- The block of these entries. -/
def envBlock (entries : List EnvEntry) : List UInt8 := entries.flatMap fun entry => entry.text ++ [0]

section Entries

variable {σ : Type} (envGetter : σ → Text → Nat → Text → Nat → Int × σ)

/-- Hands the entries to the getter until it answers with anything but `SYSM_OK`. -/
def eachEntry : List EnvEntry → σ → σ
  | [], data => data
  | entry :: entries, data =>
    let (status, data) := envGetter data entry.key entry.key.length entry.value entry.value.length
    if status ≠ 0 then data else eachEntry entries data

/-- One round of the loop, at the start of an entry. -/
theorem envLoop_round {rounds : Nat} {key value : Text} {rest : List UInt8} (keyed : ∀ c ∈ key, c ≠ 0 ∧ c ≠ 61)
    (valued : ∀ c ∈ value, c ≠ 0) (data : σ) :
    envLoop envGetter (rounds + 1) (key ++ 61 :: (value ++ 0 :: rest)) data =
      if 128 ≤ key.length then none
      else
        let (status, data) := envGetter data key key.length value value.length
        if status ≠ 0 then some data else envLoop envGetter rounds rest data := by
  have ptr : ofBuffer (key ++ 61 :: (value ++ 0 :: rest)) = key ++ 61 :: value := by
    have plain : ∀ c ∈ key ++ 61 :: value, (c != 0) = true := by
      intro c member
      rcases List.mem_append.mp member with inKey | inRest
      · simpa using (keyed c inKey).1
      · rcases List.mem_cons.mp inRest with rfl | inValue
        · rfl
        · simpa using valued c inValue
    have shape : key ++ 61 :: (value ++ 0 :: rest) = (key ++ 61 :: value) ++ 0 :: rest := by simp
    rw [ofBuffer, shape]
    exact takeWhile_stop plain (by simp)
  have found : strchr 61 (key ++ 61 :: value) = some (61 :: value) := strchr_append fun c member => (keyed c member).2
  have klen : (key ++ 61 :: value).length - (61 :: value).length = key.length := by simp
  have taken : (key ++ 61 :: value).take key.length = key := List.take_left
  have behind : (key ++ 61 :: (value ++ 0 :: rest)).drop (key.length + 1 + value.length + 1) = rest := by
    have shape : key ++ 61 :: (value ++ 0 :: rest) = (key ++ 61 :: value ++ [0]) ++ rest := by simp
    rw [shape, List.drop_left' (by simp; omega)]
  rw [envLoop, if_neg (by simp)]
  simp only [ptr, found, klen, taken, List.tail_cons, behind]

theorem envLoop_block {rounds : Nat} (entries : List EnvEntry) (enough : (envBlock entries).length ≤ rounds) (data : σ) :
    envLoop envGetter rounds (envBlock entries) data = some (eachEntry envGetter entries data) := by
  induction entries generalizing rounds data with
  | nil =>
    cases rounds with
    | zero => rfl
    | succ rounds => rfl
  | cons entry entries ih =>
    have block : envBlock (entry :: entries) = entry.key ++ 61 :: (entry.value ++ 0 :: envBlock entries) := by
      simp [envBlock, EnvEntry.text]
    rw [block] at enough ⊢
    simp only [List.length_append, List.length_cons] at enough
    obtain ⟨rounds, rfl⟩ : ∃ others, rounds = others + 1 := ⟨rounds - 1, by omega⟩
    have others := fun data => ih (by omega : (envBlock entries).length ≤ rounds) data
    have fits := entry.keyed.1
    rw [envLoop_round envGetter entry.keyed.2 entry.valued]
    simp only [if_neg (by omega : ¬ 128 ≤ entry.key.length), others, eachEntry]
    split
    · rfl
    · rfl

end Entries

end Sysm
