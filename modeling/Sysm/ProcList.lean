import Sysm.StatLine

namespace Sysm
open CString

/-- `SYSM_PROC_LIST_MAX` -/
def sysmProcListMax : Nat := 256

/-- `PROC_SIGNAL_IX` -/
def procSignalIx : Int := 38

/-- What `/proc` holds: the names in the directory, the stat file of the
process that reads it and those of all processes by their names. -/
structure ProcFiles where
  names : Except Int (List Text)
  self : FileRead
  stat : Text → FileRead

/-- `has_nptl` as `sysm_os_open` infers it from the release of the kernel. -/
def hasNptl (release : Text) : Bool := 6 ≤ (atoi (release.drop 2)).toInt

/-- `sysm_open` on a kernel of this release. -/
def sysmOpenOn (release : Text) (memory : SysmT) (getpagesize : Nat) (ticks : UInt64)
    (procStat : Except Int (List UInt8)) : Except Int SysmT := do
  let sysm ← sysmOpen memory getpagesize ticks procStat
  return { sysm with hasNptl := hasNptl release }

def getProcSignalOffset (self : FileRead) : Option Int32 := do
  match ← sysmFile2str BUFSIZ self with
  | .error _ => return 1
  | .ok buffer => return Int32.ofInt (buffer.count 32 - procSignalIx + 1)

/-- `while ((n > 0) && !p(buffer[n--])) ;` -/
def scanBack (p : UInt8 → Bool) (buffer : List UInt8) : Nat → Nat
  | 0 => 0
  | n + 1 => if p (buffer.getD (n + 1) 0) then n else scanBack p buffer n

/-- The loop of `proc_isthread` that skips a number and what stands before it. -/
def skipFieldsBack (buffer : List UInt8) : Nat → Nat → Nat
  | 0, n => n
  | offset + 1, n => skipFieldsBack buffer offset (scanBack isDigit buffer (scanBack (fun c => !isDigit c) buffer n))

/-- `proc_isthread`. An index below zero is as good as zero. A file that fills
the buffer has its terminator written behind it, which is a fault. -/
def procIsThread (offset : Int32) : FileRead → Option Bool
  | .missing => some false
  | .failed _ _ => some false
  | .bytes content =>
    if content.length < BUFSIZ then
      let n := scanBack isDigit content (content.length - 1)
      let n := skipFieldsBack content offset.toInt.toNat n
      some (3 ≤ n && (content.drop n).take 3 != ofString "17 ")
    else none

/-- `threadbadhack && proc_isthread(sysm, ent->d_name, strlen(ent->d_name))` -/
def SysmT.takenForThread (sysm : SysmT) (stat : Text → FileRead) (name : Text) : Option Bool :=
  if sysm.hasNptl then some false else procIsThread sysm.procSignalOffset (stat name)

section List

variable (sysm : SysmT) (stat : Text → FileRead) (memory : Nat → Int32)

/-- The body of the loop of `sysm_os_proc_list_get` for one name. -/
def procListEntry (procList : GrowList Int32) (name : Text) : Option (GrowList Int32) :=
  if !name.head?.any isDigit then some procList
  else do
    if ← sysm.takenForThread stat name then return procList
    procList.push sysmProcListMax memory (toInt (strtoul 10 name).1)

def procListEntries : GrowList Int32 → List Text → Option (GrowList Int32)
  | procList, [] => some procList
  | procList, name :: names => do
    let procList ← procListEntry sysm stat memory procList name
    procListEntries procList names

end List

/-- `sysm_os_proc_list_get` -/
def sysmOsProcListGet (sysm : SysmT) (proc : ProcFiles) (memory : Nat → Int32) (procList : GrowList Int32) :
    Option ((Int × GrowList Int32) × SysmT) :=
  match proc.names with
  | .error errno => some ((errno, procList), sysm)
  | .ok names => do
    let sysm ← if !sysm.hasNptl && sysm.procSignalOffset == -1 then
        (getProcSignalOffset proc.self).map fun offset => { sysm with procSignalOffset := offset }
      else pure sysm
    let procList ← procListEntries sysm proc.stat memory procList names
    return ((0, procList), sysm)

/-- `sysm_proc_list_get`. A caller without a list gets the one that is kept. -/
def sysmProcListGet (sysm : SysmT) (withList : Bool) (proc : ProcFiles) (memory : Nat → Int32) :
    Option ((Int × GrowList Int32) × SysmT) := do
  let fresh := GrowList.create sysmProcListMax memory
  if withList then sysmOsProcListGet sysm proc memory fresh
  else
    let kept := match sysm.pids with
      | none => fresh
      | some pids => { pids with number := 0 }
    let ((status, procList), sysm) ← sysmOsProcListGet sysm proc memory kept
    return ((status, procList), { sysm with pids := some procList })

/-- An entry of `/proc`: a process, or anything whose name does not begin with a digit. -/
inductive ProcEntry where
  | process (pid : Int32) (positive : 0 < pid.toInt)
  | other (name : Text) (noDigit : name.head?.any isDigit = false)

namespace ProcEntry

def name : ProcEntry → Text
  | process pid _ => decimalInt pid.toInt
  | other name _ => name

def pid? : ProcEntry → Option Int32
  | process pid _ => some pid
  | other _ _ => none

end ProcEntry

/-- What `/proc` holds as far as processes are concerned. -/
structure ProcContent where
  entries : List ProcEntry
  self : FileRead
  stat : Text → FileRead

namespace ProcContent

variable (proc : ProcContent)

def files : ProcFiles := ⟨.ok (proc.entries.map ProcEntry.name), proc.self, proc.stat⟩

/-- The processes, in the order of the directory. -/
def pids : List Int32 := proc.entries.filterMap ProcEntry.pid?

/-- No process is taken for a thread. -/
def NoThreads : Prop :=
  ∃ offset, getProcSignalOffset proc.self = some offset ∧
    ∀ pid ∈ proc.pids, procIsThread offset (proc.stat (decimalInt pid.toInt)) = some false

end ProcContent

/-- `X.Y` and whatever follows, from version 2.6 on. -/
structure KernelRelease where
  major : Nat
  minor : Nat
  rest : Text
  recent : 2 < major ∨ major = 2 ∧ 6 ≤ minor
  ended : Stops (fun c => digitVal c < 10) rest

def KernelRelease.text (release : KernelRelease) : Text :=
  decimal release.major ++ 46 :: (decimal release.minor ++ release.rest)

/-- The list has all the processes and nothing else. -/
def ListsProcesses (opened : SysmT) (withList : Bool) (proc : ProcContent) (memory : Nat → Int32) : Prop :=
  ∃ procList sysm, sysmProcListGet opened withList proc.files memory = some ((0, procList), sysm) ∧
    procList.items = proc.pids

theorem ProcEntry.name_process {pid : Int32} (positive : 0 < pid.toInt) : (decimalInt pid.toInt).head?.any isDigit = true := by
  obtain ⟨first, others, same⟩ := List.exists_cons_of_ne_nil (decimal_ne_nil pid.toInt.natAbs)
  rw [decimalInt, if_neg (by omega), same, List.head?_cons, Option.any_some]
  exact isDigit_of_decimal (n := pid.toInt.natAbs) (by simp [same])

/-- The name of a process is read back as its pid. -/
theorem toInt_decimalInt (pid : Int32) : toInt (strtoul 10 (decimalInt pid.toInt)).1 = pid := by
  have lower := pid.le_toInt
  have upper := pid.toInt_lt
  have read := @strtoul_decimalInt [] [] (by simp) pid.toInt (by omega) (stops_nil)
  rw [List.nil_append, List.append_nil] at read
  rw [read, toInt_ofInt]

section Listing

variable {sysm : SysmT} {stat : Text → FileRead} {memory : Nat → Int32} {procList procList' : GrowList Int32}

theorem procListEntry_process (bound : procList.InBounds) {pid : Int32} (positive : 0 < pid.toInt) :
    (sysm.takenForThread stat (decimalInt pid.toInt) = none ∧ procListEntry sysm stat memory procList (decimalInt pid.toInt) = none) ∨
      (sysm.takenForThread stat (decimalInt pid.toInt) = some true ∧
        procListEntry sysm stat memory procList (decimalInt pid.toInt) = some procList) ∨
      (sysm.takenForThread stat (decimalInt pid.toInt) = some false ∧ ∃ procList',
        procListEntry sysm stat memory procList (decimalInt pid.toInt) = some procList' ∧ procList'.InBounds ∧
          procList'.items = procList.items ++ [pid]) := by
  have digit := ProcEntry.name_process positive
  have room : 0 < sysmProcListMax := by decide
  obtain ⟨pushed, push, bound', _, items⟩ := GrowList.push_some bound room memory pid
  simp only [procListEntry, digit, Bool.not_true, Bool.false_eq_true, if_false, toInt_decimalInt, push]
  cases sysm.takenForThread stat (decimalInt pid.toInt) with
  | none => exact Or.inl ⟨rfl, rfl⟩
  | some thread =>
    cases thread with
    | true => exact Or.inr (Or.inl ⟨rfl, rfl⟩)
    | false => exact Or.inr (Or.inr ⟨rfl, pushed, rfl, bound', items⟩)

theorem procListEntry_other {name : Text} (noDigit : name.head?.any isDigit = false) :
    procListEntry sysm stat memory procList name = some procList := by
  simp [procListEntry, noDigit]

/-- The loop leaves out what is taken for a thread. -/
theorem procListEntries_items (bound : procList.InBounds) {entries : List ProcEntry}
    (run : procListEntries sysm stat memory procList (entries.map ProcEntry.name) = some procList') :
    (∀ pid ∈ entries.filterMap ProcEntry.pid?, ∃ thread, sysm.takenForThread stat (decimalInt pid.toInt) = some thread) ∧
      procList'.items = procList.items ++
        (entries.filterMap ProcEntry.pid?).filter fun pid => sysm.takenForThread stat (decimalInt pid.toInt) != some true := by
  induction entries generalizing procList with
  | nil =>
    cases Option.some.inj run
    simp
  | cons entry entries ih =>
    obtain ⟨next, step, later⟩ := Option.bind_eq_some_iff.mp run
    cases entry with
    | other name noDigit =>
      rw [ProcEntry.name, procListEntry_other noDigit] at step
      cases step
      exact ih bound later
    | process pid positive =>
      rw [ProcEntry.name] at step
      have pids : (ProcEntry.process pid positive :: entries).filterMap ProcEntry.pid? =
          pid :: entries.filterMap ProcEntry.pid? := rfl
      rcases @procListEntry_process sysm stat memory procList bound pid positive with
        ⟨_, absent⟩ | ⟨thread, hidden⟩ | ⟨shown, pushed, push, bound', items⟩
      · rw [absent] at step
        cases step
      · rw [hidden] at step
        cases step
        obtain ⟨defined, items⟩ := ih bound later
        rw [pids, List.filter_cons_of_neg (by simp [thread]), items]
        exact ⟨List.forall_mem_cons.mpr ⟨⟨true, thread⟩, defined⟩, rfl⟩
      · rw [push] at step
        cases step
        obtain ⟨defined, items'⟩ := ih bound' later
        rw [pids, List.filter_cons_of_pos (by simp [shown]), items', items, List.append_assoc]
        exact ⟨List.forall_mem_cons.mpr ⟨⟨false, shown⟩, defined⟩, rfl⟩

theorem procListEntries_all (bound : procList.InBounds) {entries : List ProcEntry}
    (shown : ∀ pid ∈ entries.filterMap ProcEntry.pid?, sysm.takenForThread stat (decimalInt pid.toInt) = some false) :
    ∃ procList', procListEntries sysm stat memory procList (entries.map ProcEntry.name) = some procList' := by
  induction entries generalizing procList with
  | nil => exact ⟨procList, rfl⟩
  | cons entry entries ih =>
    cases entry with
    | other name noDigit =>
      obtain ⟨procList', run⟩ := ih bound shown
      refine ⟨procList', ?_⟩
      rw [List.map_cons, ProcEntry.name, procListEntries, procListEntry_other noDigit]
      exact run
    | process pid positive =>
      have here := shown pid (List.mem_cons_self ..)
      rcases @procListEntry_process sysm stat memory procList bound pid positive with
        ⟨absent, _⟩ | ⟨thread, _⟩ | ⟨_, pushed, push, bound', _⟩
      · rw [absent] at here
        cases here
      · rw [thread] at here
        cases here
      · obtain ⟨procList', run⟩ := ih bound' fun other member => shown other (List.mem_cons_of_mem _ member)
        refine ⟨procList', ?_⟩
        rw [List.map_cons, ProcEntry.name, procListEntries, push]
        exact run

/-- The loop lists all the processes exactly if none is left out. -/
theorem procListEntries_iff (proc : ProcContent) (memory : Nat → Int32) :
    (∃ procList, procListEntries sysm proc.stat memory (.create sysmProcListMax memory)
      (proc.entries.map ProcEntry.name) = some procList ∧ procList.items = proc.pids) ↔
      ∀ pid ∈ proc.pids, sysm.takenForThread proc.stat (decimalInt pid.toInt) = some false := by
  have bound : (GrowList.create sysmProcListMax memory).InBounds := Nat.zero_le _
  have empty : (GrowList.create sysmProcListMax memory).items = [] := List.take_zero
  constructor
  · rintro ⟨procList, run, all⟩ pid member
    obtain ⟨defined, items⟩ := procListEntries_items bound run
    obtain ⟨thread, taken⟩ := defined pid member
    rw [all, empty, List.nil_append] at items
    have kept := List.filter_eq_self.mp items.symm pid member
    cases thread with
    | true => simp [taken] at kept
    | false => exact taken
  · intro shown
    obtain ⟨procList, run⟩ := procListEntries_all bound shown
    obtain ⟨_, items⟩ := procListEntries_items bound run
    refine ⟨procList, run, ?_⟩
    rw [items, empty, List.nil_append, ProcContent.pids]
    refine List.filter_eq_self.mpr fun pid member => ?_
    rw [shown pid member]
    rfl

end Listing

theorem sysmOpenOn_fresh {release : Text} {memory opened : SysmT} {getpagesize : Nat} {ticks : UInt64}
    {procStat : Except Int (List UInt8)} (open_ok : sysmOpenOn release memory getpagesize ticks procStat = .ok opened) :
    opened.hasNptl = hasNptl release ∧ opened.procSignalOffset = -1 ∧ opened.pids = none := by
  unfold sysmOpenOn at open_ok
  cases opens : sysmOpen memory getpagesize ticks procStat with
  | error errno =>
    rw [opens] at open_ok
    cases open_ok
  | ok sysm =>
    rw [opens] at open_ok
    cases open_ok
    obtain ⟨noPids, noOffset, -⟩ := sysmOpen_fresh opens
    exact ⟨rfl, noOffset, noPids⟩

/-- On a fresh library the list is made from nothing, with or without one of the caller. -/
theorem sysmProcListGet_fresh {opened : SysmT} (noPids : opened.pids = none) (withList : Bool) (proc : ProcFiles)
    (memory : Nat → Int32) :
    (sysmProcListGet opened withList proc memory).map Prod.fst =
      (sysmOsProcListGet opened proc memory (.create sysmProcListMax memory)).map Prod.fst := by
  cases withList with
  | true => rfl
  | false =>
    simp only [sysmProcListGet, noPids, Bool.false_eq_true, if_false]
    cases sysmOsProcListGet opened proc memory (.create sysmProcListMax memory) with
    | none => rfl
    | some result => rfl

/-- With one digit before the dot the inference is about the number behind it:
it fails for 3.0 and for 5.4. -/
theorem hasNptl_oneDigit {release : KernelRelease} (oneDigit : release.major < 10) (small : release.minor < 2 ^ 31) :
    hasNptl release.text = decide (6 ≤ release.minor) := by
  have length : (decimal release.major).length = 1 := by
    interval_cases release.major <;> rfl
  obtain ⟨digit, same⟩ := List.length_eq_one_iff.mp length
  have behind : release.text.drop 2 = decimal release.minor ++ release.rest := by
    rw [KernelRelease.text, same]
    rfl
  have value : (Int32.ofInt (release.minor : Int)).toInt = release.minor := Int32.toInt_ofInt_of_le (by omega) (by omega)
  rw [hasNptl, behind, atoi, strtol_decimal (by omega) release.ended, value]
  simp

/-- The processes of a kernel from 2.6 on are all listed exactly if the number
that its release has behind two characters is 6 or more, or none of them is
taken for a thread. -/
theorem listsProcesses_iff (release : KernelRelease) {memory opened : SysmT} {getpagesize : Nat} {ticks : UInt64}
    {procStat : Except Int (List UInt8)}
    (open_ok : sysmOpenOn release.text memory getpagesize ticks procStat = .ok opened) (withList : Bool)
    (proc : ProcContent) (block : Nat → Int32) :
    ListsProcesses opened withList proc block ↔ 6 ≤ (atoi (release.text.drop 2)).toInt ∨ proc.NoThreads := by
  obtain ⟨nptl, offset, noPids⟩ := sysmOpenOn_fresh open_ok
  have same := sysmProcListGet_fresh noPids withList proc.files block
  have walked : ListsProcesses opened withList proc block ↔ ∃ procList,
      (sysmOsProcListGet opened proc.files block (.create sysmProcListMax block)).map Prod.fst = some (0, procList) ∧
        procList.items = proc.pids := by
    rw [← same, ListsProcesses]
    constructor
    · rintro ⟨procList, sysm, run, items⟩
      exact ⟨procList, by rw [run, Option.map_some], items⟩
    · rintro ⟨procList, run, items⟩
      obtain ⟨⟨_, sysm⟩, run, rfl⟩ := Option.map_eq_some_iff.mp run
      exact ⟨procList, sysm, run, items⟩
  have entries (sysm : SysmT) (procList : GrowList Int32) : ((procListEntries sysm proc.stat block
      (.create sysmProcListMax block) (proc.entries.map ProcEntry.name)).bind fun procList =>
        some (((0 : Int), procList), sysm)).map Prod.fst = some (0, procList) ↔
      procListEntries sysm proc.stat block (.create sysmProcListMax block) (proc.entries.map ProcEntry.name) =
        some procList := by
    cases procListEntries sysm proc.stat block (.create sysmProcListMax block) (proc.entries.map ProcEntry.name) with
    | none => simp
    | some other => simp
  rw [walked]
  by_cases new : 6 ≤ (atoi (release.text.drop 2)).toInt
  · have has : opened.hasNptl = true := nptl.trans (decide_eq_true new)
    simp only [sysmOsProcListGet, ProcContent.files, has, Bool.not_true, Bool.false_and, Bool.false_eq_true, if_false,
      Option.pure_def, Option.bind_eq_bind, Option.bind_some, entries]
    rw [procListEntries_iff]
    refine iff_of_true (fun pid _ => ?_) (Or.inl new)
    rw [SysmT.takenForThread, if_pos has]
  · have hasNot : opened.hasNptl = false := nptl.trans (decide_eq_false new)
    simp only [sysmOsProcListGet, ProcContent.files, hasNot, offset, Bool.not_false, beq_self_eq_true, Bool.and_self,
      if_true, Option.pure_def, Option.bind_eq_bind, new, false_or, ProcContent.NoThreads]
    cases getProcSignalOffset proc.self with
    | none => simp
    | some found =>
      simp only [Option.map_some, Option.bind_some, entries, Option.some.injEq, exists_eq_left']
      rw [procListEntries_iff]
      have taken (pid : Int32) : SysmT.takenForThread { opened with procSignalOffset := found } proc.stat
          (decimalInt pid.toInt) = procIsThread found (proc.stat (decimalInt pid.toInt)) := by
        simp [SysmT.takenForThread, hasNot]
      simp only [hasNot] at taken
      simp only [taken]

/-- A process that tells its parent nothing when it ends. -/
def silentStat : Text := ofString "1 (init) S 0 1 1 0 -1 0 0 0 0 0 0 0 0 0 20 0 1 0 8 0 0 0 0 0 0 0 0 0 0 0 0 0 0 0 0 0 0 0 0 0 0 0 0 0 0 0 0 0 0 0 0\n"

def silentProc : ProcContent where
  entries := [.process 1 (by decide), .other (ofString "stat") (by decide)]
  self := .bytes silentStat
  stat := fun _ => .bytes silentStat

def kernel2632 : KernelRelease := ⟨2, 6, ofString ".32", by decide, by simp [ofString, Stops, digitVal, isDigit, isUpper, isLower]⟩

def kernel540 : KernelRelease := ⟨5, 4, ofString ".0", by decide, by simp [ofString, Stops, digitVal, isDigit, isUpper, isLower]⟩

/-- The library opened on this kernel. -/
def openedOn (release : KernelRelease) : SysmT := { openedSysm with hasNptl := hasNptl release.text }

/-- Linux 2.6.32 lists the process. -/
theorem listsProcesses_2632 : ListsProcesses (openedOn kernel2632) true silentProc fun _ => 0 := by
  have open_ok : sysmOpenOn kernel2632.text .zero 4096 100 (.ok []) = .ok (openedOn kernel2632) := rfl
  exact (listsProcesses_iff kernel2632 open_ok true silentProc fun _ => 0).mpr (Or.inl (by decide))

/-- Linux 5.4.0 has NPTL, but it is inferred from the 4 that it has not. -/
theorem sysmProcListGet_hides_process :
    ¬ ∀ (release : KernelRelease) memory opened getpagesize ticks procStat withList proc block,
      sysmOpenOn release.text memory getpagesize ticks procStat = .ok opened →
        ListsProcesses opened withList proc block := by
  intro claim
  have empty : (sysmProcListGet (openedOn kernel540) true silentProc.files fun _ => 0).map
      (fun result => result.1.2.items) = some [] := by decide +kernel
  obtain ⟨procList, sysm, run, items⟩ := claim kernel540 .zero (openedOn kernel540) 4096 100 (.ok []) true silentProc
    (fun _ => 0) rfl
  rw [run, Option.map_some, items] at empty
  cases Option.some.inj empty

end Sysm
