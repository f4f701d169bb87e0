import Mathlib.Data.UInt
import Sysm.ProcList
import Sysm.StatFile

namespace Sysm
open CString

def sysmProcStateSleep : UInt8 := 83
def sysmProcStateRun : UInt8 := 82
def sysmProcStateStop : UInt8 := 84
def sysmProcStateZombie : UInt8 := 90
def sysmProcStateIdle : UInt8 := 68

/-- `sysm_proc_stat_t` -/
structure SysmProcStat where
  total : UInt64
  sleeping : UInt64
  running : UInt64
  zombie : UInt64
  stopped : UInt64
  idle : UInt64
  threads : UInt64
deriving Repr, DecidableEq

/-- What `time` and reading the two files bring for one process of the list. -/
structure ProcRead where
  timenow : Int
  stat : FileRead
  status : FileRead

/-- The switch over the state of a process. -/
def SysmProcStat.countState (procStat : SysmProcStat) (state : UInt8) : SysmProcStat :=
  if state = sysmProcStateIdle then { procStat with idle := procStat.idle + 1 }
  else if state = sysmProcStateRun then { procStat with running := procStat.running + 1 }
  else if state = sysmProcStateSleep then { procStat with sleeping := procStat.sleeping + 1 }
  else if state = sysmProcStateStop then { procStat with stopped := procStat.stopped + 1 }
  else if state = sysmProcStateZombie then { procStat with zombie := procStat.zombie + 1 }
  else procStat

def SysmProcStat.addState (procStat : SysmProcStat) (state : SysmProcState) : SysmProcStat :=
  let procStat :=
    if state.threads ≠ -1 then { procStat with threads := procStat.threads + state.threads } else procStat
  procStat.countState state.state

section Get

variable (cpuid : UInt32 → SysmCpuid) (pids : GrowList Int32) (reads : Nat → ProcRead)

/-- The call of `sysm_proc_state_get` for one place of the list. -/
def procStateAt (sysm : SysmT) (i : Nat) : Option (Except Int SysmProcState × SysmT) := do
  let pid ← pids.read i
  sysmProcStateGet sysm cpuid pid (reads i).timenow (reads i).stat (reads i).status

/-- The loop of `sysm_proc_stat_get` over the places of the list. -/
def procStatLoop : SysmProcStat → SysmT → List Nat → Option (SysmProcStat × SysmT)
  | procStat, sysm, [] => some (procStat, sysm)
  | procStat, sysm, i :: places => do
    let (state, sysm) ← procStateAt cpuid pids reads sysm i
    match state with
    | .error _ => procStatLoop procStat sysm places
    | .ok state => procStatLoop (procStat.addState state) sysm places

end Get

/-- `sysm_proc_stat_get` -/
def sysmProcStatGet (sysm : SysmT) (cpuid : UInt32 → SysmCpuid) (proc : ProcFiles) (memory : Nat → Int32)
    (reads : Nat → ProcRead) : Option ((Int × SysmProcStat) × SysmT) := do
  let procStat : SysmProcStat := { total := 0, sleeping := 0, running := 0, zombie := 0, stopped := 0, idle := 0, threads := -1 }
  let ((status, pids), sysm) ← sysmProcListGet sysm false proc memory
  if status ≠ 0 then return ((status, procStat), sysm)
  let procStat := { procStat with total := UInt64.ofNat pids.number }
  let (procStat, sysm) ← procStatLoop cpuid pids reads procStat sysm (List.range pids.number)
  return ((0, procStat), sysm)

/-- The number on the `Threads:` line of a status file. -/
def threadsLine (status : FileRead) : UInt64 :=
  match status with
  | .bytes content =>
    match ((ofBuffer content).splitOn 10).find? fun line => (ofString "Threads:").isPrefixOf line with
    | some line => (strtoul 10 (line.drop 8)).1
    | none => 0
  | _ => 0

/-- The number that stands behind a line start `Thread:` in a status file, which
counts for nothing if it is that of the marker. -/
def threadLine : FileRead → UInt64
  | .bytes content =>
    match strstr (ofString "\nThread:") (ofBuffer content) with
    | some ptr => if (strtoul 10 (sysmSkipToken ptr)).1 = -1 then 0 else (strtoul 10 (sysmSkipToken ptr)).1
    | none => 0
  | _ => 0

namespace ProcRead

variable (read : ProcRead)

/-- The state of the process is read: the stat file has a letter for it, and the
status file can be read. -/
def readable : Bool := (stateLetter read.stat).isSome && read.status.isRead

/-- The state is read, and this is its letter. -/
def inState (letter : UInt8) : Bool := read.readable && stateLetter read.stat == some letter

/-- Both files are read without a fault, the status file if there is a letter. -/
structure TakenIn (ticks : UInt64) : Prop where
  stat : read.stat.TakenIn ticks
  status : (stateLetter read.stat).isSome = true → read.status.Fits

end ProcRead

/-- What the counters of an answer are about: the letters of the states that are
read from the stat files. -/
structure SysmProcStat.Counts (procStat : SysmProcStat) (reads : List ProcRead) : Prop where
  idle : procStat.idle.toNat = reads.countP fun read => read.inState sysmProcStateIdle
  running : procStat.running.toNat = reads.countP fun read => read.inState sysmProcStateRun
  sleeping : procStat.sleeping.toNat = reads.countP fun read => read.inState sysmProcStateSleep
  stopped : procStat.stopped.toNat = reads.countP fun read => read.inState sysmProcStateStop
  zombie : procStat.zombie.toNat = reads.countP fun read => read.inState sysmProcStateZombie
  atMost : procStat.idle.toNat + procStat.running.toNat + procStat.sleeping.toNat + procStat.stopped.toNat +
    procStat.zombie.toNat ≤ procStat.total.toNat

/-- The numbers of the processes whose state is read. -/
def sumOfRead (number : FileRead → UInt64) (reads : List ProcRead) : UInt64 :=
  ((reads.filter ProcRead.readable).map fun read => number read.status).sum

/-- A call is for another process than the one before, or comes two seconds later. -/
def Anew (last next : Int32 × Int) : Prop := next.1 = last.1 → lastProcExpire ≤ next.2 - last.2

/-- The process that is asked for at a place of the list, and when. -/
def procCall (pids : GrowList Int32) (reads : Nat → ProcRead) (i : Nat) : Int32 × Int :=
  ((pids.read i).getD 0, (reads i).timenow)

theorem procStatusGet_cases (status : FileRead) :
    (¬status.Fits ∧ procStatusGet status = none) ∨
    (status.Fits ∧ status.isRead = false ∧ ∃ code, procStatusGet status = some (.error code)) ∨
    (status.Fits ∧ status.isRead = true ∧ ∃ threads, procStatusGet status = some (.ok threads) ∧
      (if threads = -1 then 0 else threads) = threadLine status) := by
  cases status with
  | missing => exact Or.inr (Or.inl ⟨trivial, rfl, _, rfl⟩)
  | failed errno real => exact Or.inr (Or.inl ⟨trivial, rfl, _, rfl⟩)
  | bytes content =>
    by_cases short : content.length < BUFSIZ
    · refine Or.inr (Or.inr ⟨short, rfl, ?_⟩)
      simp only [procStatusGet, sysmProcFile2str, sysmFile2str, if_pos short, Option.bind_eq_bind, Option.bind_some,
        Option.pure_def, threadLine]
      cases strstr (ofString "\nThread:") (ofBuffer content) with
      | none => exact ⟨_, rfl, if_pos rfl⟩
      | some ptr => exact ⟨_, rfl, rfl⟩
    · refine Or.inl ⟨short, ?_⟩
      simp only [procStatusGet, sysmProcFile2str, sysmFile2str, if_neg short, Option.bind_eq_bind, Option.bind_none]

/-- The counters with one more process, as its files have it. -/
def SysmProcStat.addRead (procStat : SysmProcStat) (read : ProcRead) : SysmProcStat :=
  match stateLetter read.stat with
  | some letter =>
    if read.status.isRead then { procStat with threads := procStat.threads + threadLine read.status }.countState letter
    else procStat
  | none => procStat

section Loop

variable {cpuid : UInt32 → SysmCpuid} {pids : GrowList Int32} {reads : Nat → ProcRead} {sysm : SysmT}

/-- A call that is not answered from `last_proc_stat` faults, or it leaves the
counters with what is in the files. -/
theorem procStateAt_cases {i : Nat} (used : pids.read i ≠ none)
    (anew : Anew (sysm.lastProcStat.pid, sysm.lastProcStat.mtime) (procCall pids reads i)) :
    (¬(reads i).TakenIn sysm.ticks ∧ procStateAt cpuid pids reads sysm i = none) ∨
    ((reads i).TakenIn sysm.ticks ∧ ∃ state sysm', procStateAt cpuid pids reads sysm i = some (state, sysm') ∧
      sysm'.SameMachine sysm ∧ (sysm'.lastProcStat.pid, sysm'.lastProcStat.mtime) = procCall pids reads i ∧
      ∀ procStat : SysmProcStat, procStat.addRead (reads i) =
        match state with
        | .error _ => procStat
        | .ok state => procStat.addState state) := by
  obtain ⟨pid, atPid⟩ := Option.ne_none_iff_exists'.mp used
  have call : procCall pids reads i = (pid, (reads i).timenow) := by rw [procCall, atPid, Option.getD_some]
  rw [call] at anew ⊢
  have miss : sysm.procStatHit pid (reads i).timenow = false := by
    rw [SysmT.procStatHit, Bool.and_eq_false_imp]
    intro same
    have late := anew (beq_iff_eq.mp same).symm
    simpa using late
  have step : procStateAt cpuid pids reads sysm i =
      sysmProcStateGet sysm cpuid pid (reads i).timenow (reads i).stat (reads i).status := by
    rw [procStateAt, atPid]
    rfl
  rw [step, sysmProcStateGet]
  rcases procStatRead_miss miss (reads i).stat with ⟨fault, read⟩ |
    ⟨taken, status, middle, read, machine, atLast, atTime, found⟩
  · exact Or.inl ⟨fun both => fault both.stat, by rw [read]; rfl⟩
  · simp only [read, Option.bind_eq_bind, Option.bind_some, Option.pure_def]
    rcases found with ⟨failed, behind⟩ | ⟨zero, letter, -⟩
    · have noLetter : stateLetter (reads i).stat = none := by rw [stateLetter, behind]; rfl
      rw [if_pos failed]
      refine Or.inr ⟨⟨taken, by simp [noLetter]⟩, _, _, rfl, machine, by rw [atLast, atTime], fun procStat => ?_⟩
      simp only [SysmProcStat.addRead, noLetter]
    · obtain ⟨rolled, record⟩ := sysmCpuCoreRollup_same middle cpuid
      rw [if_neg (by simp [zero])]
      rcases procStatusGet_cases (reads i).status with ⟨unfit, got⟩ | ⟨fits, unread, code, got⟩ |
        ⟨fits, isRead, threads, got, number⟩
      · exact Or.inl ⟨fun both => unfit (both.status (by simp [letter])), by simp only [got, Option.bind_none]⟩
      · simp only [got, Option.bind_some]
        refine Or.inr ⟨⟨taken, fun _ => fits⟩, _, _, rfl, rolled.trans machine, by rw [record, atLast, atTime], fun procStat => ?_⟩
        simp only [SysmProcStat.addRead, letter, unread, Bool.false_eq_true, if_false]
      · simp only [got, Option.bind_some]
        refine Or.inr ⟨⟨taken, fun _ => fits⟩, _, _, rfl, rolled.trans machine, by rw [record, atLast, atTime], fun procStat => ?_⟩
        simp only [SysmProcStat.addRead, letter, isRead, if_true, SysmProcStat.addState, ← number]
        by_cases marker : threads = -1
        · simp [marker]
        · simp [marker]

/-- The loop goes through exactly if no file makes it fault, and counts what is
in the files. -/
theorem procStatLoop_cases (places : List Nat) (used : ∀ i ∈ places, pids.read i ≠ none)
    (anew : ((sysm.lastProcStat.pid, sysm.lastProcStat.mtime) :: places.map (procCall pids reads)).IsChain Anew)
    (procStat : SysmProcStat) :
    ((∀ i ∈ places, (reads i).TakenIn sysm.ticks) → ∃ sysm', procStatLoop cpuid pids reads procStat sysm places =
      some ((places.map reads).foldl SysmProcStat.addRead procStat, sysm')) ∧
    ((∃ i ∈ places, ¬(reads i).TakenIn sysm.ticks) → procStatLoop cpuid pids reads procStat sysm places = none) := by
  induction places generalizing procStat sysm with
  | nil => exact ⟨fun _ => ⟨sysm, rfl⟩, by simp⟩
  | cons i places ih =>
    obtain ⟨first, others⟩ := List.forall_mem_cons.mp used
    rw [List.map_cons, List.isChain_cons_cons] at anew
    rcases @procStateAt_cases cpuid _ _ _ _ first anew.1 with ⟨fault, step⟩ |
      ⟨taken, state, sysm', step, machine, last, counted⟩
    · refine ⟨fun all => absurd (all i (by simp)) fault, fun _ => ?_⟩
      simp only [procStatLoop, step, Option.bind_eq_bind, Option.bind_none]
    · have later := anew.2
      rw [← last] at later
      obtain ⟨goesOn, faults⟩ := ih others later (procStat.addRead (reads i))
      rw [machine.ticks] at goesOn faults
      have run : procStatLoop cpuid pids reads procStat sysm (i :: places) =
          procStatLoop cpuid pids reads (procStat.addRead (reads i)) sysm' places := by
        simp only [procStatLoop, step, Option.bind_eq_bind, Option.bind_some, counted procStat]
        cases state <;> rfl
      rw [run]
      refine ⟨fun all => goesOn fun j member => all j (by simp [member]), ?_⟩
      rintro ⟨j, member, fault⟩
      rcases List.mem_cons.mp member with rfl | member
      · exact absurd taken fault
      · exact faults ⟨j, member, fault⟩

end Loop

namespace SysmProcStat

variable (procStat : SysmProcStat)

/-- A field that each process adds an amount to holds their sum in the end. -/
theorem foldl_field {field : SysmProcStat → UInt64} {amount : ProcRead → UInt64}
    (step : ∀ procStat read, field (addRead procStat read) = field procStat + amount read) (reads : List ProcRead) :
    field (reads.foldl addRead procStat) = field procStat + (reads.map amount).sum := by
  induction reads generalizing procStat with
  | nil => simp
  | cons read reads ih => rw [List.foldl_cons, ih, step, List.map_cons, List.sum_cons, add_assoc]

theorem sum_ones (p : ProcRead → Bool) (reads : List ProcRead) :
    (reads.map fun read => if p read then (1 : UInt64) else 0).sum = UInt64.ofNat (reads.countP p) := by
  induction reads with
  | nil => rfl
  | cons read reads ih =>
    rw [List.map_cons, List.sum_cons, ih, List.countP_cons]
    by_cases counted : p read = true
    · simp [counted, add_comm]
    · simp [counted]

theorem sum_filter (number : FileRead → UInt64) (reads : List ProcRead) :
    (reads.map fun read => if read.readable then number read.status else 0).sum = sumOfRead number reads := by
  induction reads with
  | nil => rfl
  | cons read reads ih =>
    rw [sumOfRead] at ih ⊢
    rw [List.map_cons, List.sum_cons, ih]
    by_cases counted : read.readable = true
    · rw [if_pos counted, List.filter_cons_of_pos counted, List.map_cons, List.sum_cons]
    · rw [if_neg counted, List.filter_cons_of_neg counted, zero_add]

theorem countState_others (letter : UInt8) : (procStat.countState letter).threads = procStat.threads ∧
    (procStat.countState letter).total = procStat.total := by
  unfold countState
  split_ifs <;> exact ⟨rfl, rfl⟩

/-- A process counts, with its letter, or nothing is counted. -/
theorem addRead_cases (read : ProcRead) :
    (read.readable = true ∧ ∃ letter, stateLetter read.stat = some letter ∧ procStat.addRead read =
      { procStat with threads := procStat.threads + threadLine read.status }.countState letter) ∨
    (read.readable = false ∧ procStat.addRead read = procStat) := by
  rw [addRead, ProcRead.readable]
  cases stateLetter read.stat with
  | none => exact Or.inr ⟨rfl, rfl⟩
  | some letter =>
    cases read.status.isRead with
    | false => exact Or.inr ⟨rfl, rfl⟩
    | true => exact Or.inl ⟨rfl, letter, rfl, rfl⟩

theorem addRead_threads (read : ProcRead) :
    (procStat.addRead read).threads = procStat.threads + if read.readable then threadLine read.status else 0 := by
  rcases procStat.addRead_cases read with ⟨readable, letter, _, added⟩ | ⟨unread, added⟩
  · rw [added, (countState_others _ letter).1, if_pos readable]
  · rw [added, if_neg (by simp [unread]), add_zero]

theorem addRead_total (read : ProcRead) : (procStat.addRead read).total = procStat.total := by
  rcases procStat.addRead_cases read with ⟨_, letter, _, added⟩ | ⟨_, added⟩
  · rw [added, (countState_others _ letter).2]
  · rw [added]

theorem foldl_total (reads : List ProcRead) : (reads.foldl addRead procStat).total = procStat.total := by
  induction reads generalizing procStat with
  | nil => rfl
  | cons read reads ih => rw [List.foldl_cons, ih, addRead_total]

/-- One counter goes up by one with its state. -/
theorem countState_counters (state : UInt8) :
    (procStat.countState state).idle = procStat.idle + (if state == sysmProcStateIdle then 1 else 0) ∧
      (procStat.countState state).running = procStat.running + (if state == sysmProcStateRun then 1 else 0) ∧
      (procStat.countState state).sleeping = procStat.sleeping + (if state == sysmProcStateSleep then 1 else 0) ∧
      (procStat.countState state).stopped = procStat.stopped + (if state == sysmProcStateStop then 1 else 0) ∧
      (procStat.countState state).zombie = procStat.zombie + (if state == sysmProcStateZombie then 1 else 0) := by
  by_cases idle : state = sysmProcStateIdle
  · subst idle
    simp [countState, sysmProcStateIdle, sysmProcStateRun, sysmProcStateSleep, sysmProcStateStop, sysmProcStateZombie]
  by_cases running : state = sysmProcStateRun
  · subst running
    simp [countState, sysmProcStateIdle, sysmProcStateRun, sysmProcStateSleep, sysmProcStateStop, sysmProcStateZombie]
  by_cases sleeping : state = sysmProcStateSleep
  · subst sleeping
    simp [countState, sysmProcStateIdle, sysmProcStateRun, sysmProcStateSleep, sysmProcStateStop, sysmProcStateZombie]
  by_cases stopped : state = sysmProcStateStop
  · subst stopped
    simp [countState, sysmProcStateIdle, sysmProcStateRun, sysmProcStateSleep, sysmProcStateStop, sysmProcStateZombie]
  by_cases zombie : state = sysmProcStateZombie
  · subst zombie
    simp [countState, sysmProcStateIdle, sysmProcStateRun, sysmProcStateSleep, sysmProcStateStop, sysmProcStateZombie]
  simp [countState, idle, running, sleeping, stopped, zombie]

theorem addRead_counters (read : ProcRead) :
    (procStat.addRead read).idle = procStat.idle + (if read.inState sysmProcStateIdle then 1 else 0) ∧
      (procStat.addRead read).running = procStat.running + (if read.inState sysmProcStateRun then 1 else 0) ∧
      (procStat.addRead read).sleeping = procStat.sleeping + (if read.inState sysmProcStateSleep then 1 else 0) ∧
      (procStat.addRead read).stopped = procStat.stopped + (if read.inState sysmProcStateStop then 1 else 0) ∧
      (procStat.addRead read).zombie = procStat.zombie + (if read.inState sysmProcStateZombie then 1 else 0) := by
  rcases procStat.addRead_cases read with ⟨readable, letter, atLetter, added⟩ | ⟨unread, added⟩
  · have counters := countState_counters { procStat with threads := procStat.threads + threadLine read.status } letter
    rw [added]
    simpa only [ProcRead.inState, readable, atLetter, Bool.true_and, Option.some_beq_some] using counters
  · rw [added]
    simp [ProcRead.inState, unread]

/-- No process is in two of the five states. -/
theorem counters_le_length (reads : List ProcRead) :
    (reads.countP fun read => read.inState sysmProcStateIdle) + (reads.countP fun read => read.inState sysmProcStateRun) +
      (reads.countP fun read => read.inState sysmProcStateSleep) + (reads.countP fun read => read.inState sysmProcStateStop) +
      (reads.countP fun read => read.inState sysmProcStateZombie) ≤ reads.length := by
  induction reads with
  | nil => simp
  | cons read reads ih =>
    have one : (if read.inState sysmProcStateIdle then 1 else 0) + (if read.inState sysmProcStateRun then 1 else 0) +
        (if read.inState sysmProcStateSleep then 1 else 0) + (if read.inState sysmProcStateStop then 1 else 0) +
        (if read.inState sysmProcStateZombie then 1 else 0) ≤ 1 := by
      simp only [ProcRead.inState, sysmProcStateIdle, sysmProcStateRun, sysmProcStateSleep, sysmProcStateStop,
        sysmProcStateZombie, Bool.and_eq_true, beq_iff_eq]
      split_ifs <;> simp_all
    simp only [List.countP_cons, List.length_cons]
    omega

/-- What the loop of `sysm_proc_stat_get` makes of the files. -/
theorem foldl_counts {reads : List ProcRead} (small : reads.length < 2 ^ 64) :
    Counts (reads.foldl addRead ⟨UInt64.ofNat reads.length, 0, 0, 0, 0, 0, -1⟩) reads := by
  have field (count : SysmProcStat → UInt64) (letter : UInt8) (start : count ⟨UInt64.ofNat reads.length, 0, 0, 0, 0, 0, -1⟩ = 0)
      (step : ∀ (procStat : SysmProcStat) (read : ProcRead),
        count (procStat.addRead read) = count procStat + (if read.inState letter then 1 else 0)) :
      (count (reads.foldl addRead ⟨UInt64.ofNat reads.length, 0, 0, 0, 0, 0, -1⟩)).toNat =
        reads.countP fun read => read.inState letter := by
    have most := @List.countP_le_length _ (fun read : ProcRead => read.inState letter) reads
    rw [foldl_field _ step, start, zero_add, sum_ones fun read => read.inState letter, UInt64.toNat_ofNat',
      Nat.mod_eq_of_lt (by omega)]
  have total : (reads.foldl addRead ⟨UInt64.ofNat reads.length, 0, 0, 0, 0, 0, -1⟩).total.toNat = reads.length := by
    rw [foldl_total, UInt64.toNat_ofNat', Nat.mod_eq_of_lt small]
  have idle := field idle sysmProcStateIdle rfl fun procStat read => (addRead_counters procStat read).1
  have running := field running sysmProcStateRun rfl fun procStat read => (addRead_counters procStat read).2.1
  have sleeping := field sleeping sysmProcStateSleep rfl fun procStat read => (addRead_counters procStat read).2.2.1
  have stopped := field stopped sysmProcStateStop rfl fun procStat read => (addRead_counters procStat read).2.2.2.1
  have zombie := field zombie sysmProcStateZombie rfl fun procStat read => (addRead_counters procStat read).2.2.2.2
  have apart := counters_le_length reads
  exact ⟨idle, running, sleeping, stopped, zombie, by rw [idle, running, sleeping, stopped, zombie, total]; omega⟩

end SysmProcStat

section ThreadCount

variable {cpuid : UInt32 → SysmCpuid} {proc : ProcFiles} {memory : Nat → Int32} {reads : Nat → ProcRead}
  {sysm listing : SysmT} {pids : GrowList Int32}

theorem procListEntries_inBounds {stat : Text → FileRead} {names : List Text} {procList procList' : GrowList Int32}
    (bound : procList.InBounds) (run : procListEntries sysm stat memory procList names = some procList') :
    procList'.InBounds := by
  induction names generalizing procList with
  | nil =>
    cases run
    exact bound
  | cons name names ih =>
    obtain ⟨next, entry, later⟩ := Option.bind_eq_some_iff.mp run
    refine ih ?_ later
    rw [procListEntry] at entry
    by_cases digit : name.head?.any isDigit = true
    · rw [digit, Bool.not_true, if_neg Bool.false_ne_true] at entry
      obtain ⟨thread, -, rest⟩ := Option.bind_eq_some_iff.mp entry
      cases thread with
      | true =>
        cases rest
        exact bound
      | false =>
        obtain ⟨pushed, push, bound', _⟩ := GrowList.push_some bound (by decide : 0 < sysmProcListMax) memory
          (toInt (strtoul 10 name).1)
        cases rest.symm.trans push
        exact bound'
    · rw [Bool.not_eq_true] at digit
      rw [digit, Bool.not_false, if_pos rfl] at entry
      cases entry
      exact bound

theorem sysmOsProcListGet_frame {procList : GrowList Int32} {status : Int} (bound : procList.InBounds)
    (walked : sysmOsProcListGet sysm proc memory procList = some ((status, pids), listing)) :
    pids.InBounds ∧ listing.ticks = sysm.ticks ∧ listing.lastProcStat = sysm.lastProcStat := by
  unfold sysmOsProcListGet at walked
  cases atNames : proc.names with
  | error errno =>
    rw [atNames] at walked
    cases walked
    exact ⟨bound, rfl, rfl⟩
  | ok names =>
    rw [atNames] at walked
    have scan {middle : SysmT} (run : (procListEntries middle proc.stat memory procList names).bind
        (fun procList => some ((0, procList), middle)) = some ((status, pids), listing)) :
        pids.InBounds ∧ listing = middle := by
      obtain ⟨listed, entries, run⟩ := Option.bind_eq_some_iff.mp run
      cases run
      exact ⟨procListEntries_inBounds bound entries, rfl⟩
    by_cases unknown : (!sysm.hasNptl && sysm.procSignalOffset == -1) = true
    · simp only [if_pos unknown] at walked
      obtain ⟨middle, offset, walked⟩ := Option.bind_eq_some_iff.mp walked
      obtain ⟨_, _, rfl⟩ := Option.map_eq_some_iff.mp offset
      obtain ⟨bound', rfl⟩ := scan walked
      exact ⟨bound', rfl, rfl⟩
    · simp only [if_neg unknown] at walked
      obtain ⟨bound', rfl⟩ := scan walked
      exact ⟨bound', rfl, rfl⟩

/-- The list that is kept in the library is in order, and nothing else has changed
that matters for the stat files. -/
theorem sysmProcListGet_frame {status : Int} (listed : sysmProcListGet sysm false proc memory = some ((status, pids), listing)) :
    pids.InBounds ∧ listing.ticks = sysm.ticks ∧ listing.lastProcStat = sysm.lastProcStat := by
  obtain ⟨⟨⟨status', pids'⟩, listing'⟩, walked, same⟩ := Option.bind_eq_some_iff.mp listed
  cases same
  have frame := sysmOsProcListGet_frame (by
    cases sysm.pids with
    | none => exact Nat.zero_le _
    | some pids => exact Nat.zero_le _) walked
  exact frame

/-- A call goes through exactly if no file makes it fault. It counts the states
right then, and its threads are those behind `Thread:`, less one. -/
theorem sysmProcStatGet_eq (listed : sysmProcListGet sysm false proc memory = some ((0, pids), listing))
    (small : pids.number < 2 ^ 64) (anew : ((sysm.lastProcStat.pid, sysm.lastProcStat.mtime) ::
      (List.range pids.number).map (procCall pids reads)).IsChain Anew) :
    ((∀ i < pids.number, (reads i).TakenIn sysm.ticks) → ∃ procStat sysm',
      sysmProcStatGet sysm cpuid proc memory reads = some ((0, procStat), sysm') ∧
        procStat.Counts ((List.range pids.number).map reads) ∧
        procStat.threads = -1 + sumOfRead threadLine ((List.range pids.number).map reads)) ∧
    ((∃ i < pids.number, ¬(reads i).TakenIn sysm.ticks) → sysmProcStatGet sysm cpuid proc memory reads = none) := by
  obtain ⟨bound, ticks, record⟩ := sysmProcListGet_frame listed
  have used : ∀ i ∈ List.range pids.number, pids.read i ≠ none := by
    intro i member
    have inside : i < pids.cells.length := Nat.lt_of_lt_of_le (List.mem_range.mp member) bound
    simp [GrowList.read, inside]
  rw [← record] at anew
  obtain ⟨goesOn, faults⟩ := @procStatLoop_cases cpuid pids reads listing (List.range pids.number) used anew
    ⟨UInt64.ofNat pids.number, 0, 0, 0, 0, 0, -1⟩
  rw [ticks] at goesOn faults
  constructor
  · intro taken
    obtain ⟨sysm', run⟩ := goesOn fun i member => taken i (List.mem_range.mp member)
    have length : ((List.range pids.number).map reads).length = pids.number := by rw [List.length_map, List.length_range]
    have counts := @SysmProcStat.foldl_counts ((List.range pids.number).map reads) (by rwa [length])
    rw [length] at counts
    refine ⟨_, sysm', by simp [sysmProcStatGet, listed, run], counts, ?_⟩
    rw [SysmProcStat.foldl_field _ SysmProcStat.addRead_threads, SysmProcStat.sum_filter]
  · rintro ⟨i, inside, fault⟩
    simp [sysmProcStatGet, listed, faults ⟨i, List.mem_range.mpr inside, fault⟩]

/-- The answer of `sysm_proc_stat_get` is right exactly if all the files can be
taken in and the numbers behind `Thread:` make one more than those behind
`Threads:`. -/
theorem sysmProcStatGet_iff (listed : sysmProcListGet sysm false proc memory = some ((0, pids), listing))
    (small : pids.number < 2 ^ 64) (anew : ((sysm.lastProcStat.pid, sysm.lastProcStat.mtime) ::
      (List.range pids.number).map (procCall pids reads)).IsChain Anew) :
    (∃ procStat sysm', sysmProcStatGet sysm cpuid proc memory reads = some ((0, procStat), sysm') ∧
      procStat.Counts ((List.range pids.number).map reads) ∧
      procStat.threads = sumOfRead threadsLine ((List.range pids.number).map reads)) ↔
      (∀ i < pids.number, (reads i).TakenIn sysm.ticks) ∧
        sumOfRead threadLine ((List.range pids.number).map reads) =
          sumOfRead threadsLine ((List.range pids.number).map reads) + 1 := by
  obtain ⟨goesOn, faults⟩ := @sysmProcStatGet_eq cpuid proc memory reads sysm listing pids listed small anew
  constructor
  · rintro ⟨procStat, sysm', run, _, threads⟩
    have taken : ∀ i < pids.number, (reads i).TakenIn sysm.ticks := by
      by_contra fault
      push Not at fault
      rw [faults fault] at run
      cases run
    obtain ⟨answer, after, same, _, found⟩ := goesOn taken
    cases run.symm.trans same
    refine ⟨taken, ?_⟩
    rw [← threads, found]
    grind
  · rintro ⟨taken, sums⟩
    obtain ⟨answer, after, run, counts, found⟩ := goesOn taken
    refine ⟨answer, after, run, counts, ?_⟩
    rw [found, sums]
    grind

end ThreadCount

section Lines

variable {word line : Text}

/-- A word without newlines stands at the start of a line or not. -/
theorem prefix_line_iff (plain : ∀ c ∈ word, c ≠ 10) (rest : Text) : word <+: line ++ 10 :: rest ↔ word <+: line := by
  induction word generalizing line with
  | nil => simp
  | cons w word ih =>
    have notNewline := plain w (by simp)
    have later := fun line => @ih line fun c member => plain c (by simp [member])
    cases line with
    | nil => simp [notNewline]
    | cons c line => rw [List.cons_append, List.cons_prefix_cons, List.cons_prefix_cons, later]

/-- A newline and a word are looked for at the end of each line. -/
theorem strstr_line (plain : ∀ c ∈ line, c ≠ 10) (rest : Text) :
    strstr (10 :: word) (line ++ 10 :: rest) =
      if word.isPrefixOf rest then some (10 :: rest) else strstr (10 :: word) rest := by
  induction line with
  | nil => simp [strstr, List.isPrefixOf]
  | cons c line ih =>
    have notNewline : ((10 : UInt8) == c) = false := by simpa using (plain c (by simp)).symm
    rw [List.cons_append, strstr, List.isPrefixOf, notNewline, Bool.false_and, if_neg Bool.false_ne_true,
      ih fun d member => plain d (by simp [member])]

theorem strstr_lines (some_word : word ≠ []) (plain : ∀ c ∈ word, c ≠ 10) {lines : List Text}
    (lines_plain : ∀ line ∈ lines, ∀ c ∈ line, c ≠ 10) (absent : ∀ line ∈ lines, ¬word <+: line) :
    strstr (10 :: word) (lines.flatMap fun line => line ++ [10]) = none ∧
      ¬word <+: lines.flatMap fun line => line ++ [10] := by
  induction lines with
  | nil => exact ⟨by simp [strstr], by simpa using some_word⟩
  | cons line lines ih =>
    obtain ⟨later, notHere⟩ := ih (fun other member => lines_plain other (by simp [member])) fun other member =>
      absent other (by simp [member])
    have notPrefix : word.isPrefixOf (lines.flatMap fun line => line ++ [10]) = false := by
      rw [Bool.eq_false_iff, ne_eq, List.isPrefixOf_iff_prefix]
      exact notHere
    rw [List.flatMap_cons, List.append_assoc, List.singleton_append, strstr_line (lines_plain line (by simp)), notPrefix,
      if_neg Bool.false_ne_true, prefix_line_iff plain]
    exact ⟨later, absent line (by simp)⟩

end Lines

/-- The lines of `/proc/<pid>/status` as the kernel writes them: one begins with
`Threads:`, and none with `Thread:`. -/
structure StatusText where
  before : List Text
  threads : UInt64
  after : List Text
  plain : ∀ line ∈ before ++ after, ∀ c ∈ line, c ≠ 10 ∧ c ≠ 0
  others : ∀ line ∈ before ++ after, ¬ofString "Thread:" <+: line ∧ ¬ofString "Threads:" <+: line

namespace StatusText

variable (text : StatusText)

def numberLine : Text := ofString "Threads:\t" ++ decimal text.threads.toNat

def lines : List Text := text.before ++ text.numberLine :: text.after

def content : List UInt8 := text.lines.flatMap fun line => line ++ [10]

theorem lines_plain {line : Text} (member : line ∈ text.lines) : ∀ c ∈ line, c ≠ 10 ∧ c ≠ 0 := by
  have others := text.plain line
  rcases List.mem_append.mp member with inside | inside
  · exact others (List.mem_append_left _ inside)
  · rcases List.mem_cons.mp inside with here | behind
    · subst here
      intro c byte
      rcases List.mem_append.mp byte with word | digit
      · have plain : ∀ c ∈ ofString "Threads:\t", c ≠ 10 ∧ c ≠ 0 := List.all_iff_forall_prop.mp (by decide)
        exact plain c word
      · have plain := decimal_plain digit
        exact ⟨plain.2.1, plain.1⟩
    · exact others (List.mem_append_right _ behind)

theorem content_noNul : ∀ c ∈ text.content, c ≠ 0 := by
  intro c member
  obtain ⟨line, atLine, byte⟩ := List.mem_flatMap.mp member
  rcases List.mem_append.mp byte with inside | newline
  · exact (text.lines_plain atLine c inside).2
  · rw [List.mem_singleton.mp newline]
    decide

/-- No line starts with `Thread:`. -/
theorem threadLine_content : threadLine (.bytes text.content) = 0 := by
  have absent : ∀ line ∈ text.lines, ¬ofString "Thread:" <+: line := by
    intro line member
    rcases List.mem_append.mp member with inside | inside
    · exact (text.others line (List.mem_append_left _ inside)).1
    · rcases List.mem_cons.mp inside with here | behind
      · subst here
        simp [numberLine, ofString]
      · exact (text.others line (List.mem_append_right _ behind)).1
  have nowhere := (@strstr_lines (ofString "Thread:") (by decide) (List.all_iff_forall_prop.mp (by decide)) text.lines
    (fun line member c byte => (text.lines_plain member c byte).1) absent).1
  have pattern : ofString "\nThread:" = 10 :: ofString "Thread:" := rfl
  rw [← content] at nowhere
  simp only [threadLine, ofBuffer_of_no_nul text.content_noNul, pattern, nowhere]

theorem splitOn_lines {lines : List Text} (plain : ∀ line ∈ lines, ∀ c ∈ line, c ≠ 10) :
    (lines.flatMap fun line => line ++ [10]).splitOn 10 = lines ++ [[]] := by
  induction lines with
  | nil => simp
  | cons line lines ih =>
    have absent : (10 : UInt8) ∉ line := fun member => plain line (by simp) 10 member rfl
    rw [List.flatMap_cons, List.append_assoc, List.singleton_append, List.splitOn_append_cons_self_of_not_mem absent,
      ih fun other member => plain other (by simp [member]), List.cons_append]

/-- The number on the line is the number of threads. -/
theorem threadsLine_content : threadsLine (.bytes text.content) = text.threads := by
  have lines : text.content.splitOn 10 = text.lines ++ [[]] :=
    splitOn_lines fun line member c byte => (text.lines_plain member c byte).1
  have before : text.before.find? (fun line => (ofString "Threads:").isPrefixOf line) = none := by
    rw [List.find?_eq_none]
    intro line member
    rw [List.isPrefixOf_iff_prefix]
    exact (text.others line (List.mem_append_left _ member)).2
  have here : (ofString "Threads:").isPrefixOf text.numberLine = true := by
    rw [List.isPrefixOf_iff_prefix]
    exact ⟨9 :: decimal text.threads.toNat, by simp [numberLine, ofString]⟩
  have value : (strtoul 10 (text.numberLine.drop 8)).1 = text.threads := by
    have number : text.numberLine.drop 8 = [9] ++ decimal text.threads.toNat ++ [] := by simp [numberLine, ofString]
    rw [number, strtoul_decimal (by simp [isSpace]) text.threads.toNat_lt stops_nil, UInt64.ofNat_toNat]
  simp only [threadsLine, ofBuffer_of_no_nul text.content_noNul, lines, StatusText.lines, List.append_assoc,
    List.find?_append, before, List.cons_append, List.find?_cons, here, Option.none_or, value]

end StatusText

section Kernel

variable {cpuid : UInt32 → SysmCpuid} {proc : ProcFiles} {memory : Nat → Int32} {reads : Nat → ProcRead}
  {sysm listing : SysmT} {pids : GrowList Int32}

/-- Over the files of the kernel the answer has no number of threads at all,
whatever processes there are. -/
theorem threads_kernel {texts : Nat → StatusText} (kernel : ∀ i, (reads i).status = .bytes (texts i).content)
    (listed : sysmProcListGet sysm false proc memory = some ((0, pids), listing)) (small : pids.number < 2 ^ 64)
    (anew : ((sysm.lastProcStat.pid, sysm.lastProcStat.mtime) ::
      (List.range pids.number).map (procCall pids reads)).IsChain Anew)
    (taken : ∀ i < pids.number, (reads i).TakenIn sysm.ticks) :
    ∃ procStat sysm', sysmProcStatGet sysm cpuid proc memory reads = some ((0, procStat), sysm') ∧
      procStat.threads = -1 := by
  obtain ⟨procStat, sysm', run, _, threads⟩ := (@sysmProcStatGet_eq cpuid _ _ _ _ _ _ listed small anew).1 taken
  refine ⟨procStat, sysm', run, ?_⟩
  have zeros : ∀ places : List Nat, sumOfRead threadLine (places.map reads) = 0 := by
    intro places
    induction places with
    | nil => rfl
    | cons i places ih =>
      rw [← SysmProcStat.sum_filter] at ih ⊢
      rw [List.map_cons, List.map_cons, List.sum_cons, ih, kernel, StatusText.threadLine_content, ite_self, add_zero]
  rw [threads, zeros, add_zero]

end Kernel

/-- The status file of a process with a thread. -/
def oneThread : Text := ofString "Name:\tinit\nThreads:\t1\n"

def silentRead : ProcRead := ⟨100, .bytes silentStat, .bytes oneThread⟩

def noCpuid : UInt32 → SysmCpuid := fun _ => ⟨0, 0, 0, 0⟩

/-- A library on a kernel with NPTL. -/
def nptlSysm : SysmT := { openedSysm with hasNptl := true }

def silentPids : GrowList Int32 := ⟨1, 1 :: List.replicate 255 0⟩

theorem sysmProcListGet_silent : sysmProcListGet nptlSysm false silentProc.files (fun _ => 0) =
    some ((0, silentPids), { nptlSysm with pids := some silentPids }) := by
  have entries : (procListEntries nptlSysm silentProc.stat (fun _ => 0) (.create sysmProcListMax fun _ => 0)
      (silentProc.entries.map ProcEntry.name)).map (fun list => (list.number, list.cells)) =
        some (silentPids.number, silentPids.cells) := by decide +kernel
  obtain ⟨⟨number, cells⟩, run, same⟩ := Option.map_eq_some_iff.mp entries
  cases same
  have nptl : nptlSysm.hasNptl = true ∧ nptlSysm.pids = none := ⟨rfl, rfl⟩
  simp only [sysmProcListGet, sysmOsProcListGet, ProcContent.files, nptl.1, nptl.2, run, Bool.not_true, Bool.false_and,
    Bool.false_eq_true, if_false, Option.pure_def, Option.bind_eq_bind, Option.bind_some]
  rfl

theorem sysmProcStatGet_iff_silent :
    (∃ procStat sysm', sysmProcStatGet nptlSysm noCpuid silentProc.files (fun _ => 0) (fun _ => silentRead) =
        some ((0, procStat), sysm') ∧ procStat.Counts [silentRead] ∧ procStat.threads = sumOfRead threadsLine [silentRead]) ↔
      (∀ i < 1, silentRead.TakenIn nptlSysm.ticks) ∧
        sumOfRead threadLine [silentRead] = sumOfRead threadsLine [silentRead] + 1 := by
  refine sysmProcStatGet_iff sysmProcListGet_silent (by decide) ?_
  refine List.isChain_cons_cons.mpr ⟨?_, .singleton _⟩
  intro same
  exact absurd same (by decide)

/-- The one thread of the one process is not counted. -/
theorem sysmProcStatGet_oneThread : threadsLine silentRead.status = 1 ∧
    (sysmProcStatGet nptlSysm noCpuid silentProc.files (fun _ => 0) fun _ => silentRead).map
      (fun result => (result.1.1, result.1.2.sleeping, result.1.2.threads)) = some (0, 1, 18446744073709551615) := by
  decide +kernel

end Sysm
