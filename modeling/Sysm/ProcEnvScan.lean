import Sysm.ProcEnv

namespace Sysm
open CString

/-- A `key=value` entry of an environment, with a key of any length. -/
structure EnvPair where
  key : Text
  value : Text
  keyed : ∀ c ∈ key, c ≠ 0 ∧ c ≠ 61
  valued : ∀ c ∈ value, c ≠ 0

def EnvPair.text (pair : EnvPair) : Text := pair.key ++ 61 :: pair.value

/-- The block of these pairs, each ended by a NUL. -/
def pairBlock (pairs : List EnvPair) : List UInt8 := pairs.flatMap fun pair => pair.text ++ [0]

/-- The arguments of one call of `env_getter`. -/
structure EnvCall where
  key : Text
  klen : Nat
  val : Text
  vlen : Nat
deriving DecidableEq

/-- The call that is due for a pair. -/
def EnvPair.call (pair : EnvPair) : EnvCall := ⟨pair.key, pair.key.length, pair.value, pair.value.length⟩

section Scan

variable {σ : Type} (envGetter : σ → Text → Nat → Text → Nat → Int × σ)

/-- A getter that answers as the given one and keeps the arguments of its calls. -/
def recorded (data : σ × List EnvCall) (key : Text) (klen : Nat) (val : Text) (vlen : Nat) : Int × (σ × List EnvCall) :=
  let (status, next) := envGetter data.1 key klen val vlen
  (status, (next, data.2 ++ [⟨key, klen, val, vlen⟩]))

/-- The pairs up to and including the first for which the getter asks to stop. -/
def untilStop : List EnvPair → σ → List EnvPair
  | [], _ => []
  | pair :: pairs, data =>
    let (status, data) := envGetter data pair.key pair.key.length pair.value pair.value.length
    pair :: if status ≠ 0 then [] else untilStop pairs data

/-- The loop over a block of pairs. It faults at the first key that does not
fit into the buffer, if the getter lets it come there. -/
theorem envLoop_pairs {rounds : Nat} (pairs : List EnvPair) (enough : (pairBlock pairs).length ≤ rounds) (data : σ)
    (calls : List EnvCall) :
    if ∀ pair ∈ untilStop envGetter pairs data, pair.key.length < 128 then
      ∃ final, envLoop (recorded envGetter) rounds (pairBlock pairs) (data, calls) =
        some (final, calls ++ (untilStop envGetter pairs data).map EnvPair.call)
    else envLoop (recorded envGetter) rounds (pairBlock pairs) (data, calls) = none := by
  induction pairs generalizing rounds data calls with
  | nil =>
    have ended : envLoop (recorded envGetter) rounds (pairBlock []) (data, calls) = some (data, calls) := by
      cases rounds with
      | zero => rfl
      | succ rounds => rfl
    rw [if_pos (by simp [untilStop])]
    exact ⟨data, by simp [ended, untilStop]⟩
  | cons pair pairs ih =>
    have block : pairBlock (pair :: pairs) = pair.key ++ 61 :: (pair.value ++ 0 :: pairBlock pairs) := by
      simp [pairBlock, EnvPair.text]
    rw [block] at enough ⊢
    simp only [List.length_append, List.length_cons] at enough
    obtain ⟨rounds, rfl⟩ : ∃ others, rounds = others + 1 := ⟨rounds - 1, by omega⟩
    rw [envLoop_round (recorded envGetter) pair.keyed pair.valued]
    by_cases long : 128 ≤ pair.key.length
    · have tooLong : ¬ ∀ visited ∈ untilStop envGetter (pair :: pairs) data, visited.key.length < 128 := by
        intro short
        have here := short pair (by rw [untilStop]; exact List.mem_cons_self ..)
        omega
      rw [if_neg tooLong, if_pos long]
    · rw [if_neg long, untilStop]
      cases answer : envGetter data pair.key pair.key.length pair.value pair.value.length with
      | mk status next =>
        simp only [recorded, answer]
        by_cases stop : status ≠ 0
        · simp only [if_pos stop]
          rw [if_pos (by simpa using Nat.lt_of_not_le long)]
          exact ⟨next, rfl⟩
        · simp only [if_neg stop]
          have later := ih (by omega : (pairBlock pairs).length ≤ rounds) next
            (calls ++ [⟨pair.key, pair.key.length, pair.value, pair.value.length⟩])
          have here : (∀ visited ∈ pair :: untilStop envGetter pairs next, visited.key.length < 128) ↔
              ∀ visited ∈ untilStop envGetter pairs next, visited.key.length < 128 := by
            rw [List.forall_mem_cons, and_iff_right (Nat.lt_of_not_le long)]
          simp only [here]
          simpa only [List.map_cons, EnvPair.call, List.append_assoc, List.cons_append, List.nil_append] using later

/-- The getter is called with the pairs of the block, and with nothing else. -/
def HandsOver (sysm : SysmT) (machine : EnvMachine) (pid : Int32) (procEnv : SysmProcEnv σ) (pairs : List EnvPair) :
    Prop :=
  ∃ final, sysmProcEnvGet sysm machine pid
      ⟨(procEnv.data, []), procEnv.type, procEnv.key, procEnv.klen, recorded procEnv.envGetter⟩ =
    some (0, (final, (untilStop procEnv.envGetter pairs procEnv.data).map EnvPair.call))

/-- The scan hands over the pairs exactly if none of them has a key of 128
bytes or more, up to the one where the getter stops. -/
theorem handsOver_iff {sysm : SysmT} {machine : EnvMachine} {pid : Int32} (procEnv : SysmProcEnv σ) {pairs : List EnvPair}
    (file : machine.procEnviron pid = .ok (some (pairBlock pairs))) (short : (pairBlock pairs).length < argMax)
    (scan : ¬ (procEnv.type = .key ∧ pid = sysm.pid)) :
    HandsOver sysm machine pid procEnv pairs ↔
      ∀ pair ∈ untilStop procEnv.envGetter pairs procEnv.data, pair.key.length < 128 := by
  have loop := envLoop_pairs procEnv.envGetter pairs (Nat.le_refl _) procEnv.data []
  rw [HandsOver, sysmProcEnvGet, if_neg scan]
  simp only [file, if_pos short]
  constructor
  · rintro ⟨final, run⟩
    by_contra long
    rw [if_neg long] at loop
    rw [loop] at run
    cases run
  · intro fits
    rw [if_pos fits] at loop
    obtain ⟨final, run⟩ := loop
    exact ⟨final, by rw [run]; rfl⟩

end Scan

/-- A getter that stops at the key `B`. -/
def stopAtB (count : Nat) (key : Text) (_klen : Nat) (_val : Text) (_vlen : Nat) : Int × Nat :=
  (if key = [66] then 1 else 0, count + 1)

/-- A pair with a key of this many letters. -/
def letterPair (length : Nat) (letter : UInt8) (plain : letter ≠ 0 ∧ letter ≠ 61) : EnvPair where
  key := List.replicate length letter
  value := [61, 49]
  keyed := fun c member => (List.eq_of_mem_replicate member).symm ▸ plain
  valued := by decide +kernel

theorem letterA_plain : (65 : UInt8) ≠ 0 ∧ (65 : UInt8) ≠ 61 := by decide

theorem letterB_plain : (66 : UInt8) ≠ 0 ∧ (66 : UInt8) ≠ 61 := by decide

/-- The key `B` comes before a key that is too long. -/
def stoppedPairs : List EnvPair := [letterPair 1 65 letterA_plain, letterPair 1 66 letterB_plain, letterPair 128 65 letterA_plain]

/-- The only key is too long. -/
def longPairs : List EnvPair := [letterPair 128 65 letterA_plain]

/-- Process 7 has this environment. -/
def pairMachine (pairs : List EnvPair) : EnvMachine where
  getpid := 7
  environ := pairs.map EnvPair.text
  procEnviron := fun _ => .ok (some (pairBlock pairs))

def allEnv : SysmProcEnv Nat := ⟨0, .all, [], 0, stopAtB⟩

theorem handsOver_stopped : HandsOver openedSysm (pairMachine stoppedPairs) 7 allEnv stoppedPairs :=
  (handsOver_iff allEnv rfl (by decide +kernel) (by simp [allEnv])).mpr (by decide)

/-- The NUL behind a key of 128 bytes is written out of the buffer. -/
theorem handsOver_long :
    ¬ ∀ machine pid (procEnv : SysmProcEnv Nat) pairs, machine.procEnviron pid = .ok (some (pairBlock pairs)) →
      (pairBlock pairs).length < argMax → ¬ (procEnv.type = .key ∧ pid = openedSysm.pid) →
        HandsOver openedSysm machine pid procEnv pairs := by
  intro claim
  obtain ⟨final, run⟩ := claim (pairMachine longPairs) 7 allEnv longPairs rfl (by decide +kernel) (by simp [allEnv])
  have fault : sysmProcEnvGet openedSysm (pairMachine longPairs) 7 ⟨(0, []), .all, [], 0, recorded stopAtB⟩ = none := by
    decide +kernel
  rw [allEnv, fault] at run
  cases run

end Sysm
