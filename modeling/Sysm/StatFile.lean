import Sysm.ProcEffect

namespace Sysm
open CString

/-- What stands behind the name in a stat file, from the first byte on that is
no blank. -/
def behindName : FileRead → Option Text
  | .bytes content => do
    let opening ← strchr 40 (ofBuffer content)
    let closing ← strrchr 41 opening.tail
    return skipSpace closing.tail
  | _ => none

/-- The letter of the state in a stat file -/
def stateLetter (stat : FileRead) : Option UInt8 := (behindName stat).bind List.head?

/-- The number that the fields behind the state are left with, which is taken
for that of the processor. -/
def processorColumn (ptr : Text) : Int32 :=
  let ptr := skipSpace ptr
  let (_, ptr) := strtoul 10 ptr
  let ptr := sysmSkipToken (sysmSkipToken ptr)
  let (_, ptr) := strtoul 10 ptr
  let ptr := sysmSkipToken (sysmSkipToken ptr)
  let (_, ptr) := strtoul 10 ptr
  let ptr := sysmSkipToken ptr
  let (_, ptr) := strtoul 10 ptr
  let ptr := sysmSkipToken ptr
  let (_, ptr) := strtoul 10 ptr
  let (_, ptr) := strtoul 10 ptr
  let ptr := sysmSkipToken (sysmSkipToken ptr)
  let (_, ptr) := strtoul 10 ptr
  let (_, ptr) := strtoul 10 ptr
  let (_, ptr) := strtoul 10 ptr
  toInt (strtoul 10 (sysmSkipMultipleToken ptr 14)).1

def statProcessor (stat : FileRead) : Option Int32 := (behindName stat).map fun text => processorColumn text.tail

/-- The file leaves room for a terminator in a buffer of `BUFSIZ` bytes. -/
def FileRead.Fits : FileRead → Prop
  | .bytes content => content.length < BUFSIZ
  | _ => True

/-- The file can be opened and read. -/
def FileRead.isRead : FileRead → Bool
  | .bytes _ => true
  | _ => false

/-- The stat file is read without a fault: it fits, it does not end behind the
name, and the ticks of the clock are not zero, by which it is divided. -/
structure FileRead.TakenIn (stat : FileRead) (ticks : UInt64) : Prop where
  fits : stat.Fits
  goesOn : behindName stat ≠ some []
  ticks : behindName stat ≠ none → ticks ≠ 0

section Load

variable {sysm : SysmT} {stat : FileRead}

theorem storeStatFields_columns {name ptr : Text} {state : UInt8} {pstat : LinuxProcStat}
    (stored : sysm.storeStatFields name state ptr = some pstat) :
    pstat.state = state ∧ pstat.processor = processorColumn ptr := by
  unfold SysmT.storeStatFields at stored
  simp only at stored
  split at stored
  · cases stored
  · cases stored
    simp only [processorColumn, and_self]

theorem storeStatFields_some {name ptr : Text} {state : UInt8} (ticks : sysm.ticks ≠ 0) :
    ∃ pstat, sysm.storeStatFields name state ptr = some pstat := by
  unfold SysmT.storeStatFields
  simp only [if_neg ticks]
  exact ⟨_, rfl⟩

theorem storeStatFields_none {name ptr : Text} {state : UInt8} (ticks : sysm.ticks = 0) :
    sysm.storeStatFields name state ptr = none := by
  unfold SysmT.storeStatFields
  simp only [if_pos ticks]

/-- A stat file is not taken in, or nothing is found in it, or it is loaded. -/
theorem loadProcStat_cases (sysm : SysmT) (stat : FileRead) :
    (¬stat.TakenIn sysm.ticks ∧ sysm.loadProcStat stat = none) ∨
    (stat.TakenIn sysm.ticks ∧ behindName stat = none ∧ ∃ status, sysm.loadProcStat stat = some (.error status)) ∨
    (stat.TakenIn sysm.ticks ∧ ∃ pstat, sysm.loadProcStat stat = some (.ok pstat) ∧
      stateLetter stat = some pstat.state ∧ statProcessor stat = some pstat.processor) := by
  cases stat with
  | missing => exact Or.inr (Or.inl ⟨⟨trivial, by simp [behindName], by simp [behindName]⟩, rfl, _, rfl⟩)
  | failed errno real => exact Or.inr (Or.inl ⟨⟨trivial, by simp [behindName], by simp [behindName]⟩, rfl, _, rfl⟩)
  | bytes content =>
    by_cases short : content.length < BUFSIZ
    · have load : sysm.loadProcStat (.bytes content) = sysm.parseProcStat (ofBuffer content) := by
        simp only [SysmT.loadProcStat, sysmProcFile2str, sysmFile2str, if_pos short, Option.bind_eq_bind, Option.bind_some,
          Option.pure_def]
      rw [load, SysmT.parseProcStat]
      have fits : (FileRead.bytes content).Fits := short
      cases atOpening : strchr 40 (ofBuffer content) with
      | none =>
        have behind : behindName (.bytes content) = none := by simp [behindName, atOpening]
        exact Or.inr (Or.inl ⟨⟨fits, by simp [behind], by simp [behind]⟩, behind, _, rfl⟩)
      | some opening =>
        cases atClosing : strrchr 41 opening.tail with
        | none =>
          have behind : behindName (.bytes content) = none := by simp [behindName, atOpening, atClosing]
          refine Or.inr (Or.inl ⟨⟨fits, by simp [behind], by simp [behind]⟩, behind, EINVAL, ?_⟩)
          simp only [atClosing]
        | some closing =>
          have behind : behindName (.bytes content) = some (skipSpace closing.tail) := by
            simp [behindName, atOpening, atClosing]
          simp only [atClosing]
          cases atState : skipSpace closing.tail with
          | nil =>
            rw [atState] at behind
            exact Or.inl ⟨fun taken => taken.goesOn behind, rfl⟩
          | cons state ptr =>
            rw [atState] at behind
            by_cases ticks : sysm.ticks = 0
            · refine Or.inl ⟨fun taken => taken.ticks (by simp [behind]) ticks, ?_⟩
              simp only [storeStatFields_none ticks, Option.map_none]
            · obtain ⟨pstat, stored⟩ := @storeStatFields_some sysm
                (opening.tail.take (if procNameLen ≤ opening.tail.length - closing.length then procNameLen - 1
                  else opening.tail.length - closing.length)) ptr state ticks
              obtain ⟨letter, processor⟩ := storeStatFields_columns stored
              refine Or.inr (Or.inr ⟨⟨fits, by simp [behind], fun _ => ticks⟩, pstat, ?_, ?_, ?_⟩)
              · simp only [stored, Option.map_some]
              · rw [stateLetter, behind, letter]
                rfl
              · rw [statProcessor, behind, processor]
                rfl
    · refine Or.inl ⟨fun taken => short taken.fits, ?_⟩
      simp only [SysmT.loadProcStat, sysmProcFile2str, sysmFile2str, if_neg short, Option.bind_eq_bind, Option.bind_none]

/-- A read that is not answered from `last_proc_stat` brings what is in the file. -/
theorem procStatRead_miss {pid : Int32} {timenow : Int} (miss : sysm.procStatHit pid timenow = false) (stat : FileRead) :
    (¬stat.TakenIn sysm.ticks ∧ procStatRead sysm pid timenow stat = none) ∨
    (stat.TakenIn sysm.ticks ∧ ∃ status sysm', procStatRead sysm pid timenow stat = some (status, sysm') ∧
      sysm'.SameMachine sysm ∧ sysm'.lastProcStat.pid = pid ∧ sysm'.lastProcStat.mtime = timenow ∧
      ((status ≠ 0 ∧ behindName stat = none) ∨
        (status = 0 ∧ stateLetter stat = some sysm'.lastProcStat.state ∧
          statProcessor stat = some sysm'.lastProcStat.processor))) := by
  simp only [procStatRead, miss, Bool.false_eq_true, if_false, Option.bind_eq_bind, Option.pure_def]
  rcases loadProcStat_cases (sysm.stamp pid timenow) stat with ⟨fault, load⟩ | ⟨taken, behind, status, load⟩ |
    ⟨taken, pstat, load, letter, processor⟩
  · exact Or.inl ⟨fault, by rw [load, Option.bind_none]⟩
  · refine Or.inr ⟨taken, status, sysm.stamp pid timenow, by rw [load, Option.bind_some], ⟨rfl, rfl, rfl⟩, rfl, rfl, ?_⟩
    exact Or.inl ⟨loadProcStat_error load, behind⟩
  · obtain ⟨atPid, atTime⟩ := loadProcStat_stamp load
    refine Or.inr ⟨taken, 0, { sysm.stamp pid timenow with lastProcStat := pstat }, by rw [load, Option.bind_some],
      ⟨rfl, rfl, rfl⟩, atPid, atTime, Or.inr ⟨rfl, letter, processor⟩⟩

end Load

/-- A number of threads is found in a status file, even if none stands there. -/
theorem procStatusGet_isOk {status : FileRead} {result : Except Int UInt64} (got : procStatusGet status = some result) :
    result.isOk = status.isRead := by
  cases status with
  | missing =>
    cases got
    rfl
  | failed errno real =>
    cases got
    rfl
  | bytes content =>
    obtain ⟨file, read, got⟩ := Option.bind_eq_some_iff.mp got
    by_cases short : content.length < BUFSIZ
    · simp only [sysmProcFile2str, sysmFile2str, if_pos short, Option.bind_eq_bind, Option.bind_some, Option.pure_def,
        Option.some.injEq] at read
      subst read
      simp only at got
      split at got
      · cases got
        rfl
      · cases got
        rfl
    · simp only [sysmProcFile2str, sysmFile2str, if_neg short, Option.bind_eq_bind, Option.bind_none] at read
      cases read


end Sysm
