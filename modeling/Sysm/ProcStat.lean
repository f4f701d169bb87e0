import Sysm.Lib.Binary64
import Sysm.State

namespace Sysm
open CString

/-- `SYSM_LAST_PROC_EXPIRE`, in seconds -/
def lastProcExpire : Int := 2

/-- `SYSM_PROC_NAME_LEN` -/
def procNameLen : Nat := 128

/-- The conversion of an `unsigned long` to `int` or `pid_t`. -/
def toInt (x : UInt64) : Int32 := x.toUInt32.toInt32

/-- An `int` survives the way through an `unsigned long`. -/
theorem toInt_ofInt (x : Int32) : toInt (UInt64.ofInt x.toInt) = x := by
  have word : (UInt64.ofInt x.toInt).toUInt32 = x.toUInt32 := by
    have bound := x.toUInt32.toNat_lt
    have value : x.toInt = if 2 * x.toUInt32.toNat < 2 ^ 32 then (x.toUInt32.toNat : Int)
        else (x.toUInt32.toNat : Int) - (2 ^ 32 : Nat) := BitVec.toInt_eq_toNat_cond x.toBitVec
    rw [← UInt32.toNat_inj, UInt64.toNat_toUInt32, UInt64.ofInt, UInt64.toNat_ofNat']
    split at value
    · omega
    · omega
  rw [toInt, word, Int32.toInt32_toUInt32]

/-- `(sysm_uint64_t) SYSM_TICK2MSEC(s)`. The product is a double; x86-64
compilers convert one that is out of range to 0. -/
def tick2msec (ticks s : UInt64) : UInt64 :=
  let msec := Binary64.Dyadic.mul (.ofNat s.toNat) (.div (.ofNat 1000) (.ofNat ticks.toNat))
  if msec.trunc < 2 ^ 64 then UInt64.ofNat msec.trunc else 0

/-- `last_proc_stat` is still good for this process. -/
def SysmT.procStatHit (sysm : SysmT) (pid : Int32) (timenow : Int) : Bool :=
  sysm.lastProcStat.pid == pid && timenow - sysm.lastProcStat.mtime < lastProcExpire

/-- The fields that `proc_stat_read` finds behind the state. With no clock
ticks it divides by zero. -/
def SysmT.storeStatFields (sysm : SysmT) (name : Text) (state : UInt8) (ptr : Text) : Option LinuxProcStat :=
  let ptr := skipSpace ptr
  let (ppid, ptr) := strtoul 10 ptr
  let ptr := sysmSkipToken ptr
  let ptr := sysmSkipToken ptr
  let (tty, ptr) := strtoul 10 ptr
  let ptr := sysmSkipToken ptr
  let ptr := sysmSkipToken ptr
  let (minorFaults, ptr) := strtoul 10 ptr
  let ptr := sysmSkipToken ptr
  let (majorFaults, ptr) := strtoul 10 ptr
  let ptr := sysmSkipToken ptr
  let (utime, ptr) := strtoul 10 ptr
  let (stime, ptr) := strtoul 10 ptr
  -- nothing is skipped for the fields 16 to 19 of the file
  let ptr := sysmSkipToken ptr
  let ptr := sysmSkipToken ptr
  let (startTime, ptr) := strtoul 10 ptr
  let (vsize, ptr) := strtoul 10 ptr
  let (rss, ptr) := strtoul 10 ptr
  -- fourteen calls of `sysm_skip_token`
  let ptr := sysmSkipMultipleToken ptr 14
  let (processor, _) := strtoul 10 ptr
  if sysm.ticks = 0 then none
  else some { sysm.lastProcStat with
    name
    state
    ppid := toInt ppid
    tty := toInt tty
    minorFaults
    majorFaults
    utime := tick2msec sysm.ticks utime
    stime := tick2msec sysm.ticks stime
    startTime := (startTime / sysm.ticks + sysm.bootTime) * 1000
    vsize
    rss := rss <<< sysm.pagesize
    processor := toInt processor }

/-- The part of `proc_stat_read` that takes the buffer apart. Without a state
after the name it reads past the end of the string. -/
def SysmT.parseProcStat (sysm : SysmT) (buffer : Text) : Option (Except Int LinuxProcStat) :=
  match strchr 40 buffer with
  | none => some (.error EINVAL)
  | some opening =>
    let ptr := opening.tail
    match strrchr 41 ptr with
    | none => some (.error EINVAL)
    | some tmp =>
      let len := ptr.length - tmp.length
      let name := ptr.take (if procNameLen ≤ len then procNameLen - 1 else len)
      match skipSpace tmp.tail with
      | [] => none
      | state :: ptr => (sysm.storeStatFields name state ptr).map .ok

/-- The key and the time stamp of `last_proc_stat`. -/
def SysmT.stamp (sysm : SysmT) (pid : Int32) (timenow : Int) : SysmT :=
  { sysm with lastProcStat := { sysm.lastProcStat with pid, mtime := timenow } }

/-- The file read and taken apart. -/
def SysmT.loadProcStat (sysm : SysmT) (stat : FileRead) : Option (Except Int LinuxProcStat) := do
  match ← sysmProcFile2str BUFSIZ stat with
  | .error status => return .error status
  | .ok buffer => sysm.parseProcStat buffer

/-- `proc_stat_read`, where `stat` is the stat file of the process. The new
key and time stamp are stored before the file is read. -/
def procStatRead (sysm : SysmT) (pid : Int32) (timenow : Int) (stat : FileRead) : Option (Int × SysmT) :=
  if sysm.procStatHit pid timenow then some (0, sysm)
  else do
    let sysm := sysm.stamp pid timenow
    match ← sysm.loadProcStat stat with
    | .error status => return (status, sysm)
    | .ok pstat => return (0, { sysm with lastProcStat := pstat })

/-- `sysm_proc_time_t` -/
structure SysmProcTime where
  startTime : UInt64
  user : UInt64
  sys : UInt64
  total : UInt64
deriving Repr, DecidableEq

def sysmProcTimeGet (sysm : SysmT) (pid : Int32) (timenow : Int) (stat : FileRead) :
    Option (Except Int SysmProcTime × SysmT) := do
  let (status, sysm) ← procStatRead sysm pid timenow stat
  let pstat := sysm.lastProcStat
  if status ≠ 0 then return (.error status, sysm)
  return (.ok {
    user := pstat.utime
    sys := pstat.stime
    total := pstat.utime + pstat.stime
    startTime := pstat.startTime }, sysm)

/-- `sysm_proc_mem_t` -/
structure SysmProcMem where
  size : UInt64
  resident : UInt64
  share : UInt64
  minorFaults : UInt64
  majorFaults : UInt64
  pageFaults : UInt64
deriving Repr, DecidableEq

/-- The status of `proc_stat_read` is overwritten by that of the second file. -/
def sysmProcMemGet (sysm : SysmT) (pid : Int32) (timenow : Int) (stat statm : FileRead) :
    Option (Except Int SysmProcMem × SysmT) := do
  let (_, sysm) ← procStatRead sysm pid timenow stat
  let pstat := sysm.lastProcStat
  match ← sysmProcFile2str BUFSIZ statm with
  | .error status => return (.error status, sysm)
  | .ok ptr =>
    let (size, ptr) := strtoul 10 ptr
    let (resident, ptr) := strtoul 10 ptr
    let (share, _) := strtoul 10 ptr
    return (.ok {
      size := size <<< sysm.pagesize
      resident := resident <<< sysm.pagesize
      share := share <<< sysm.pagesize
      minorFaults := pstat.minorFaults
      majorFaults := pstat.majorFaults
      pageFaults := pstat.minorFaults + pstat.majorFaults }, sysm)

theorem parseProcStat_error {sysm : SysmT} {buffer : Text} {status : Int}
    (failed : sysm.parseProcStat buffer = some (.error status)) : status = EINVAL := by
  unfold SysmT.parseProcStat at failed
  split at failed
  · cases failed
    rfl
  · simp only at failed
    split at failed
    · cases failed
      rfl
    · split at failed
      · cases failed
      · simp at failed

theorem sysmProcFile2str_error {buflen : Nat} {file : FileRead} {status : Int}
    (failed : sysmProcFile2str buflen file = some (.error status)) : status ≠ 0 := by
  cases file with
  | missing =>
    cases Option.some.inj failed
    decide
  | failed errno real =>
    have atStatus : (if errno = ENOENT then ESRCH else errno) = status := by
      simpa [sysmProcFile2str, sysmFile2str] using failed
    by_cases missing : errno = ENOENT
    · rw [if_pos missing] at atStatus
      subst atStatus
      decide
    · rw [if_neg missing] at atStatus
      rwa [← atStatus]
  | bytes content =>
    by_cases short : content.length < buflen
    · simp [sysmProcFile2str, sysmFile2str, short] at failed
    · simp [sysmProcFile2str, sysmFile2str, short] at failed

theorem loadProcStat_error {sysm : SysmT} {stat : FileRead} {status : Int}
    (failed : sysm.loadProcStat stat = some (.error status)) : status ≠ 0 := by
  obtain ⟨result, read, failed⟩ := Option.bind_eq_some_iff.mp failed
  cases result with
  | error code =>
    cases failed
    exact sysmProcFile2str_error read
  | ok buffer =>
    rw [parseProcStat_error failed]
    decide

/-- What a call of `proc_stat_read` can do: find the process in
`last_proc_stat`, fail with the new stamp in place, or load the file. -/
theorem procStatRead_cases {sysm sysm' : SysmT} {pid : Int32} {timenow : Int} {stat : FileRead} {status : Int}
    (run : procStatRead sysm pid timenow stat = some (status, sysm')) :
    (sysm.procStatHit pid timenow = true ∧ status = 0 ∧ sysm' = sysm) ∨
      (sysm.procStatHit pid timenow = false ∧ status ≠ 0 ∧
        (sysm.stamp pid timenow).loadProcStat stat = some (.error status) ∧ sysm' = sysm.stamp pid timenow) ∨
      (sysm.procStatHit pid timenow = false ∧ status = 0 ∧ ∃ pstat,
        (sysm.stamp pid timenow).loadProcStat stat = some (.ok pstat) ∧
          sysm' = { sysm.stamp pid timenow with lastProcStat := pstat }) := by
  unfold procStatRead at run
  cases hit : sysm.procStatHit pid timenow with
  | true =>
    rw [hit, if_pos rfl] at run
    cases run
    exact Or.inl ⟨rfl, rfl, rfl⟩
  | false =>
    rw [hit, if_neg (by decide)] at run
    obtain ⟨result, loaded, run⟩ := Option.bind_eq_some_iff.mp run
    cases result with
    | error code =>
      cases run
      exact Or.inr (Or.inl ⟨rfl, loadProcStat_error loaded, loaded, rfl⟩)
    | ok pstat =>
      cases run
      exact Or.inr (Or.inr ⟨rfl, rfl, pstat, loaded, rfl⟩)

/-- A read of the stat file leaves all but `last_proc_stat` as it was. -/
theorem procStatRead_frame {sysm sysm' : SysmT} {pid : Int32} {timenow : Int} {stat : FileRead} {status : Int}
    (run : procStatRead sysm pid timenow stat = some (status, sysm')) :
    sysm' = { sysm with lastProcStat := sysm'.lastProcStat } := by
  rcases procStatRead_cases run with ⟨_, _, same⟩ | ⟨_, _, _, same⟩ | ⟨_, _, pstat, _, same⟩
  · rw [same]
  · rw [same]
    rfl
  · rw [same]
    rfl

/-- The answer of `sysm_proc_time_get` is the status of `proc_stat_read` or
what is then in `last_proc_stat`. -/
theorem sysmProcTimeGet_cases {sysm sysm' : SysmT} {pid : Int32} {timenow : Int} {stat : FileRead}
    {result : Except Int SysmProcTime} (run : sysmProcTimeGet sysm pid timenow stat = some (result, sysm')) :
    ∃ status, procStatRead sysm pid timenow stat = some (status, sysm') ∧
      ((status ≠ 0 ∧ result = .error status) ∨
        (status = 0 ∧ result = .ok {
          user := sysm'.lastProcStat.utime
          sys := sysm'.lastProcStat.stime
          total := sysm'.lastProcStat.utime + sysm'.lastProcStat.stime
          startTime := sysm'.lastProcStat.startTime })) := by
  obtain ⟨⟨status, mid⟩, read, run⟩ := Option.bind_eq_some_iff.mp run
  by_cases zero : status = 0
  · simp only [zero, ne_eq, not_true_eq_false, if_false, Option.pure_def, Option.some.injEq, Prod.mk.injEq] at run
    obtain ⟨rfl, rfl⟩ := run
    exact ⟨status, read, Or.inr ⟨zero, rfl⟩⟩
  · simp only [zero, ne_eq, not_false_eq_true, if_true, Option.pure_def, Option.some.injEq, Prod.mk.injEq] at run
    obtain ⟨rfl, rfl⟩ := run
    exact ⟨status, read, Or.inl ⟨zero, rfl⟩⟩

end Sysm
