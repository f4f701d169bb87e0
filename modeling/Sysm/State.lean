import Mathlib.Data.Rat.Defs
import Sysm.Lib.CString
import Sysm.Lib.GrowList
import Sysm.Cache

namespace Sysm
open CString

def ENOENT : Int := 2
def ESRCH : Int := 3
def EINVAL : Int := 22

/-- `BUFSIZ` of glibc -/
def BUFSIZ : Nat := 8192

/-- `linux_proc_stat_t` -/
structure LinuxProcStat where
  pid : Int32
  ppid : Int32
  mtime : Int
  vsize : UInt64
  rss : UInt64
  minorFaults : UInt64
  majorFaults : UInt64
  tty : Int32
  pri : Int32
  ni : Int32
  startTime : UInt64
  utime : UInt64
  stime : UInt64
  name : Text
  state : UInt8
  processor : Int32
deriving Repr, DecidableEq

/-- `sysm_proc_cpu_t`. The quotient of two integers that the source keeps in
`percent` as a double is exact here. -/
structure SysmProcCpu where
  startTime : UInt64
  user : UInt64
  sys : UInt64
  total : UInt64
  lastTime : UInt64
  percent : Rat
deriving Repr, DecidableEq

/-- `sysm_net_address_t`, the union together with the family that says which
of its members is meant. -/
inductive SysmNetAddress where
  | unspec
  | inet (addr : UInt32)
  | inet6 (addr : UInt32 × UInt32 × UInt32 × UInt32)
  | link (mac : List UInt8)
deriving Repr, DecidableEq

/-- `sysm_disk_usage_t` -/
structure SysmDiskUsage where
  reads : UInt64
  writes : UInt64
  writeBytes : UInt64
  readBytes : UInt64
  rtime : UInt64
  wtime : UInt64
  qtime : UInt64
  time : UInt64
  snaptime : UInt64
  serviceTime : Rat
  util : Rat
deriving Repr, DecidableEq

/-- `sysm_iodev_t` -/
structure SysmIodev where
  name : Text
  isPartition : Bool
  disk : SysmDiskUsage
deriving Repr, DecidableEq

/-- `sysm_t` -/
structure SysmT where
  cpuListCores : Int32
  lcpu : Int32
  ncpu : UInt32
  bootTime : UInt64
  ticks : UInt64
  pid : Int32
  pids : Option (GrowList Int32)
  pagesize : UInt64
  mtrr : Int32
  procSignalOffset : Int32
  hasNptl : Bool
  lastProcStat : LinuxProcStat
  procCpu : Option (Cache SysmProcCpu)
  fsdev : Option (Cache SysmIodev)
  netListen : Option (Cache SysmNetAddress)

/-- A block of zero bytes. -/
def SysmT.zero : SysmT where
  cpuListCores := 0
  lcpu := 0
  ncpu := 0
  bootTime := 0
  ticks := 0
  pid := 0
  pids := none
  pagesize := 0
  mtrr := 0
  procSignalOffset := 0
  hasNptl := false
  lastProcStat := ⟨0, 0, 0, 0, 0, 0, 0, 0, 0, 0, 0, 0, 0, [], 0, 0⟩
  procCpu := none
  fsdev := none
  netListen := none

/-- What opening and reading a file brings: no such file, a failing `read`,
or the bytes that `read` finds. -/
inductive FileRead where
  | missing
  | failed (errno : Int) (real : errno ≠ 0)
  | bytes (content : List UInt8)
deriving DecidableEq

/-- `sysm_file2str`, with the status or the string in the buffer. A file that
fills the buffer has its terminator written behind it, which is a fault. -/
def sysmFile2str (buflen : Nat) : FileRead → Option (Except Int Text)
  | .missing => some (.error ENOENT)
  | .failed errno _ => some (.error errno)
  | .bytes content => if content.length < buflen then some (.ok (ofBuffer content)) else none

def sysmProcFile2str (buflen : Nat) (file : FileRead) : Option (Except Int Text) := do
  match ← sysmFile2str buflen file with
  | .error status => return .error (if status = ENOENT then ESRCH else status)
  | .ok buffer => return .ok buffer

/-- Skips a combination of space and non-space bytes. -/
def sysmSkipToken (p : Text) : Text := (p.dropWhile isSpace).dropWhile (fun c => !isSpace c)

def sysmSkipMultipleToken (p : Text) : Nat → Text
  | 0 => p
  | count + 1 => sysmSkipMultipleToken (sysmSkipToken p) count

/-- `SYSM_SKIP_SPACE` -/
def skipSpace (p : Text) : Text := p.dropWhile isSpace

/-- `sysm_boot_time_get`: the loop over the lines of `/proc/stat` is left
after the first one. -/
def sysmBootTimeGet (file : Except Int (List UInt8)) : Except Int UInt64 := do
  match fgets BUFSIZ (← file) with
  | some (ptr, _) => return if (ofString "btime").isPrefixOf ptr then (strtoul 10 (sysmSkipToken ptr)).1 else 0
  | none => return 0

/-- `sysm_open`. The rest of the block that malloc returns is not initialised. -/
def sysmOpen (memory : SysmT) (getpagesize : Nat) (ticks : UInt64) (procStat : Except Int (List UInt8)) :
    Except Int SysmT := do
  let bootTime ← sysmBootTimeGet procStat
  return { memory with
    cpuListCores := 0
    lcpu := -1
    bootTime
    ticks
    pid := 0
    pids := none
    pagesize := UInt64.ofNat (Nat.log2 getpagesize)
    mtrr := -1
    procSignalOffset := -1
    lastProcStat := { memory.lastProcStat with pid := -1 }
    procCpu := none
    fsdev := none
    netListen := none }

theorem sysmOpen_fresh {memory opened : SysmT} {getpagesize : Nat} {ticks : UInt64} {procStat : Except Int (List UInt8)}
    (open_ok : sysmOpen memory getpagesize ticks procStat = .ok opened) :
    opened.pids = none ∧ opened.procSignalOffset = -1 ∧ opened.fsdev = none := by
  unfold sysmOpen at open_ok
  cases boot : sysmBootTimeGet procStat with
  | error errno =>
    rw [boot] at open_ok
    cases open_ok
  | ok bootTime =>
    rw [boot] at open_ok
    cases open_ok
    exact ⟨rfl, rfl, rfl⟩

/-- A machine with 100 clock ticks a second. -/
def openedSysm : SysmT := ((sysmOpen .zero 4096 100 (.ok [])).toOption).getD .zero

end Sysm
