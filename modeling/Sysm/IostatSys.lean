import Sysm.DiskStats
import Sysm.ProcStat

namespace Sysm
open CString

/-- `SYS_BLOCK` -/
def sysBlock : Text := ofString "/sys/block"

/-- `strtoul(s, NULL, 0)`: the prefix of the number says what its base is. -/
def strtoulAnyBase (s : Text) : UInt64 :=
  let body := (readSign (s.dropWhile isSpace)).2
  if skipHexPrefix body ≠ body then (strtoul 16 s).1
  else if body.head? = some 48 then (strtoul 8 s).1
  else (strtoul 10 s).1

/-- `*fsdev = '\0'` at the first digit of a name -/
def cutName (name : Text) : Text := name.takeWhile fun c => !isDigit c

/-- The file that `get_iostat_sys` reads for a cached name, which is cut
before the path is printed. -/
def sysBlockPath (name : Text) : Text :=
  let partition := toInt (strtoulAnyBase (name.dropWhile fun c => !isDigit c))
  let name := if sysmNameIsDev name then (cutName name).drop sysmDevPrefix.length else cutName name
  (sysBlock ++ ofString "/" ++ name ++ ofString "/" ++ name ++ decimalInt partition.toInt ++ ofString "/stat").take 1024

/-- What `get_iostat_sys` takes from the file. -/
def SysmDiskUsage.storeSys (disk : SysmDiskUsage) (dev : Text) : SysmDiskUsage :=
  let ptr := sysmSkipToken dev
  let (reads, ptr) := strtoul 10 ptr
  let ptr := sysmSkipToken ptr
  let (writes, _) := strtoul 10 ptr
  { disk with reads, writes, readBytes := -1, writeBytes := -1, util := -1 }

section Get

variable (sysm : SysmT) (disks : Disks) (created : UInt64) (clock : Clock) (block : Text → FileRead)

/-- `get_iostat_sys`, with the `iodev` as the call leaves it and its entry. The
scan for a digit runs out of a name that has none, which is a fault. -/
def getIostatSys (dirname : Text) (disk : SysmDiskUsage) :
    Option ((Int × SysmDiskUsage × Option (Nat × SysmIodev)) × SysmT) := do
  let (found, sysm) ← sysmIodevGet sysm disks created clock dirname
  match found with
  | none => return (( ENXIO, disk, none), sysm)
  | some (entry, iodev) =>
    if iodev.name.dropWhile (fun c => !isDigit c) = [] then none
    else
      let cut := { iodev with name := cutName iodev.name }
      let table ← (← sysm.fsdev).store entry (some cut)
      let sysm := { sysm with fsdev := some table }
      match ← sysmFile2str 1025 (block (sysBlockPath iodev.name)) with
      | .error status => return ((status, disk, some (entry, cut)), sysm)
      | .ok dev => return ((0, disk.storeSys dev, some (entry, cut)), sysm)

end Get

/-- The name that is cached in an entry. -/
def SysmT.cachedName (sysm : SysmT) (entry : Nat) : Option Text := do
  let table ← sysm.fsdev
  let iodev ← ← table.value entry
  return iodev.name

theorem Cache.value_store {α : Type} {table table' : Cache α} {entry : Nat} {value : Option α}
    (run : table.store entry value = some table') : table'.value entry = some value := by
  obtain ⟨cell, atCell, _⟩ := Option.bind_eq_some_iff.mp run
  obtain ⟨stored, run', update⟩ := Cache.store_updated atCell value
  cases run.symm.trans run'
  rw [Cache.value, update.here]
  rfl

/-- A name with a digit does not stay as it is. -/
theorem cutName_ne {name : Text} (digit : name.dropWhile (fun c => !isDigit c) ≠ []) : cutName name ≠ name := by
  intro same
  have parts := congrArg List.length (@List.takeWhile_append_dropWhile _ (fun c => !isDigit c) name)
  have positive := List.length_pos_iff.mpr digit
  have whole := congrArg List.length same
  rw [List.length_append] at parts
  rw [cutName] at whole
  omega

section Runs

variable {sysm sysm' sysm'' : SysmT} {disks : Disks} {created : UInt64} {clock : Clock} {block : Text → FileRead}
  {dirname : Text} {disk : SysmDiskUsage} {entry : Nat} {iodev : SysmIodev}

/-- A call that finds a device faults, or cuts its name. -/
theorem getIostatSys_cuts (found : sysmIodevGet sysm disks created clock dirname = some (some (entry, iodev), sysm'))
    {answer : Int × SysmDiskUsage × Option (Nat × SysmIodev)}
    (run : getIostatSys sysm disks created clock block dirname disk = some (answer, sysm'')) :
    iodev.name.dropWhile (fun c => !isDigit c) ≠ [] ∧ sysm''.cachedName entry = some (cutName iodev.name) := by
  simp only [getIostatSys, found, Option.bind_eq_bind, Option.bind_some] at run
  split at run
  · cases run
  · rename_i digit
    refine ⟨digit, ?_⟩
    obtain ⟨table, _, run⟩ := Option.bind_eq_some_iff.mp run
    obtain ⟨table', stored, run⟩ := Option.bind_eq_some_iff.mp run
    obtain ⟨content, _, run⟩ := Option.bind_eq_some_iff.mp run
    have value := Cache.value_store stored
    cases content with
    | error status =>
      cases run
      simp [SysmT.cachedName, value]
    | ok dev =>
      cases run
      simp [SysmT.cachedName, value]

end Runs

theorem sysmSkipToken_printedNumbers (number : UInt64) (numbers : List UInt64) :
    sysmSkipToken (printedNumbers (number :: numbers) ++ [10]) = printedNumbers numbers ++ [10] := by
  have shape : printedNumbers (number :: numbers) ++ [10] =
      32 :: (decimal number.toNat ++ (printedNumbers numbers ++ [10])) := by
    simp [printedNumbers]
  have visible : ∀ c ∈ decimal number.toNat, isSpace c = false := fun c member =>
    isDigit_visible (isDigit_of_decimal member)
  have start : Stops isSpace (decimal number.toNat ++ (printedNumbers numbers ++ [10])) := by
    obtain ⟨c, others, digits⟩ := List.exists_cons_of_ne_nil (decimal_ne_nil number.toNat)
    rw [digits, List.cons_append, stops_cons]
    exact visible c (by simp [digits])
  have blank := @dropWhile_stop isSpace [32] _ (by simp [isSpace]) start
  have token := @dropWhile_stop (fun c => !isSpace c) _ _ (by simpa using visible) (printedNumbers_stops numbers).2
  rw [shape, sysmSkipToken, ← List.singleton_append, blank, token]

theorem strtoul_printedNumbers (number : UInt64) (numbers : List UInt64) :
    strtoul 10 (printedNumbers (number :: numbers) ++ [10]) = (number, printedNumbers numbers ++ [10]) := by
  have read := @strtoul_decimal (printedNumbers numbers ++ [10]) [32] (by simp [isSpace]) _ number.toNat_lt
    (printedNumbers_stops numbers).1
  have shape : printedNumbers (number :: numbers) ++ [10] =
      [32] ++ decimal number.toNat ++ (printedNumbers numbers ++ [10]) := by
    simp [printedNumbers]
  rw [shape, read, UInt64.ofNat_toNat]

/-- The second column, reads merged, and the fourth, the time spent reading,
are taken for reads and writes. -/
theorem storeSys_printed (disk : SysmDiskUsage) (reads merged sectors ticks : UInt64) (columns : List UInt64) :
    (disk.storeSys (printedNumbers (reads :: merged :: sectors :: ticks :: columns) ++ [10])).reads = merged ∧
      (disk.storeSys (printedNumbers (reads :: merged :: sectors :: ticks :: columns) ++ [10])).writes = ticks := by
  simp only [SysmDiskUsage.storeSys, sysmSkipToken_printedNumbers, strtoul_printedNumbers, and_self]

/-- Completed reads are the first column of the file, completed writes the fifth. -/
def SysmDiskUsage.HasCompleted (disk : SysmDiskUsage) (file : FileRead) : Prop :=
  ∀ columns : List UInt64, 11 ≤ columns.length → file = .bytes (printedNumbers columns ++ [10]) →
    columns[0]? = some disk.reads ∧ columns[4]? = some disk.writes

/-- A call of `get_iostat_sys`. The files may be others at each call. -/
structure SysCall where
  clock : Clock
  block : Text → FileRead
  disk : SysmDiskUsage

section Calls

variable (disks : Disks) (created : UInt64) (dirname : Text)

/-- Calls for one device, each of which returns, leaves the name that is cached
in an entry as it is, and has the right columns. -/
def ServesCalls (entry : Nat) (name : Text) : SysmT → List SysCall → Prop
  | _, [] => True
  | sysm, call :: calls => ∃ answer sysm',
      getIostatSys sysm disks created call.clock call.block dirname call.disk = some (answer, sysm') ∧
        sysm'.cachedName entry = some name ∧
        (answer.1 = 0 → answer.2.1.HasCompleted (call.block (sysBlockPath name))) ∧ ServesCalls entry name sysm' calls

variable {disks created dirname}

/-- No call for a device that is found keeps its name, whatever the name is. -/
theorem not_servesCalls {sysm sysm' : SysmT} {entry : Nat} {iodev : SysmIodev} {call : SysCall}
    (found : sysmIodevGet sysm disks created call.clock dirname = some (some (entry, iodev), sysm')) (calls : List SysCall) :
    ¬ServesCalls disks created dirname entry iodev.name sysm (call :: calls) := by
  rintro ⟨answer, sysm'', run, kept, _⟩
  obtain ⟨digit, cut⟩ := getIostatSys_cuts found run
  exact cutName_ne digit (Option.some.inj (cut.symm.trans kept))

end Calls

/-- `/sys/block` of a machine with one partition. -/
def sdaBlock : Text → FileRead := fun path =>
  if path = ofString "/sys/block/sda/sda1/stat" then .bytes (ofString "      90 5 7 2 40 1 9 3 0 4 5\n") else .missing

def sdaCall : SysCall := ⟨fun _ => 0, sdaBlock, .init⟩

theorem not_servesCalls_sda1 : ∃ entry iodev sysm',
    sysmIodevGet openedSysm rootDisks 0 (fun _ => 0) (ofString "/dev/sda1") = some (some (entry, iodev), sysm') ∧
      ¬ServesCalls rootDisks 0 (ofString "/dev/sda1") entry iodev.name openedSysm [sdaCall] := by
  obtain ⟨entry, iodev, sysm', run, _⟩ := sysmIodevGet_sda1
  have fails := @not_servesCalls rootDisks 0 (ofString "/dev/sda1") openedSysm sysm' entry iodev sdaCall run []
  exact ⟨entry, iodev, sysm', run, fails⟩

/-- The first call answers with the merged reads and a time, and leaves the
name `/dev/sda`; in the second one the scan runs out of that. -/
theorem getIostatSys_twice :
    (getIostatSys openedSysm rootDisks 0 (fun _ => 0) sdaBlock (ofString "/dev/sda1") .init).map (fun result =>
      (result.1.1, result.1.2.1.reads, result.1.2.1.writes, result.1.2.2.map fun found => found.2.name)) =
        some (0, 5, 2, some (ofString "/dev/sda")) ∧
    ((getIostatSys openedSysm rootDisks 0 (fun _ => 0) sdaBlock (ofString "/dev/sda1") .init).bind fun result =>
      (getIostatSys result.2 rootDisks 0 (fun _ => 0) sdaBlock (ofString "/dev/sda1") .init).map fun result => result.1.1) =
        none := by
  decide +kernel

end Sysm
