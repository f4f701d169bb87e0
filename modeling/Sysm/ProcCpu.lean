import Sysm.ProcStat

namespace Sysm

/-- `PID_CACHE_CLEANUP_PERIOD`, in milliseconds -/
def pidCacheCleanupPeriod : UInt64 := 1000 * 60 * 10

/-- `PID_CACHE_ENTRY_EXPIRE_PERIOD`, in milliseconds -/
def pidCacheEntryExpirePeriod : UInt64 := 1000 * 60 * 20

/-- The readings of the clock during one call of `sysm_proc_cpu_get`: its own,
that of a new table, and the two of `sysm_cache_get` in milliseconds, and
`time()` in seconds. -/
structure CpuClock where
  timeNow : UInt64
  created : UInt64
  sweep : UInt64
  access : UInt64
  seconds : Int
deriving Repr, DecidableEq

/-- A record that `SYSM_ZERO` has cleared. -/
def SysmProcCpu.zero : SysmProcCpu := ⟨0, 0, 0, 0, 0, 0⟩

/-- The table of `sysm_proc_cpu_get`, made by the first call. -/
def SysmT.procCpuTable (sysm : SysmT) (created : UInt64) : Cache SysmProcCpu :=
  sysm.procCpu.getD (sysmExpiredCacheNew _ 128 pidCacheCleanupPeriod pidCacheEntryExpirePeriod created)

/-- The cache key of a process, `(sysm_uint64_t) pid`. -/
def pidKey (pid : Int32) : UInt64 := pid.toInt64.toUInt64

/-- The part of `sysm_proc_cpu_get` that looks the process up. It returns the
table, the entry and the record `prev` in it. -/
def SysmT.procCpuEntry (sysm : SysmT) (pid : Int32) (clock : CpuClock) :
    Option (Cache SysmProcCpu × Nat × SysmProcCpu) := do
  let (table, entry) ← sysmCacheGet (sysm.procCpuTable clock.created) (pidKey pid) clock.sweep clock.access
  let value ← table.value entry
  return (table, entry, value.getD .zero)

/-- `sysm_proc_cpu_get` with the status and the record `procCpu` of the
caller, which is also what is copied into the cache. -/
def sysmProcCpuGet (sysm : SysmT) (pid : Int32) (procCpu : SysmProcCpu) (clock : CpuClock) (stat : FileRead) :
    Option ((Int × SysmProcCpu) × SysmT) := do
  let (table, entry, prev) ← sysm.procCpuEntry pid clock
  let timeDiff := clock.timeNow - prev.lastTime
  let prev := { prev with lastTime := clock.timeNow }
  let procCpu := { procCpu with lastTime := clock.timeNow }
  let table ← table.store entry (some prev)
  let sysm := { sysm with procCpu := some table }
  if timeDiff = 0 then return ((0, prev), sysm)
  let otime := prev.total
  match ← sysmProcTimeGet sysm pid clock.seconds stat with
  | (.error status, sysm) => return ((status, procCpu), sysm)
  | (.ok time, sysm) =>
    let procCpu := { procCpu with
      startTime := time.startTime
      user := time.user
      sys := time.sys
      total := time.total }
    let table ← table.store entry (some procCpu)
    let sysm := { sysm with procCpu := some table }
    let otime := if procCpu.total < otime then 0 else otime
    let totalDiff := procCpu.total - otime
    -- the first time called there is no earlier total
    let percent : Rat := if otime = 0 then 0 else totalDiff.toNat / timeDiff.toNat
    return ((0, { procCpu with percent }), sysm)

end Sysm
