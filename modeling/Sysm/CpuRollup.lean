import Sysm.State

namespace Sysm

/-- `sysm_cpuid_t` -/
structure SysmCpuid where
  eax : UInt32
  ebx : UInt32
  ecx : UInt32
  edx : UInt32
deriving Repr, DecidableEq

def INTEL_ID : UInt32 := 0x756e6547
def AMD_ID : UInt32 := 0x68747541

/-- `sysm_cpu_core_count`: the number of logical processors of a package is
asked for once. `cpuid` answers the requests on the machine. -/
def sysmCpuCoreCount (sysm : SysmT) (cpuid : UInt32 → SysmCpuid) : SysmT :=
  if sysm.lcpu = -1 then
    let vendor := (cpuid 0).ebx
    let id := cpuid 1
    if (vendor = INTEL_ID ∨ vendor = AMD_ID) ∧ (id.edx &&& 0x10000000) ≠ 0 then
      { sysm with lcpu := ((id.ebx &&& 0x00FF0000) >>> 16).toInt32 }
    else { sysm with lcpu := 1 }
  else sysm

def sysmCpuCoreRollup (sysm : SysmT) (cpuid : UInt32 → SysmCpuid) : Bool × SysmT :=
  let rollup := sysm.lcpu == -1
  let sysm := sysmCpuCoreCount sysm cpuid
  (sysm.cpuListCores == 0 && rollup && 1 < sysm.lcpu, sysm)

/-- The number of logical processors of a package, as the first request finds it. -/
def cpuidLcpu (cpuid : UInt32 → SysmCpuid) : Int32 := (sysmCpuCoreCount { SysmT.zero with lcpu := -1 } cpuid).lcpu

/-- The member `lcpu` after a decision. -/
def probedLcpu (lcpu : Int32) (cpuid : UInt32 → SysmCpuid) : Int32 := if lcpu = -1 then cpuidLcpu cpuid else lcpu

theorem sysmCpuCoreCount_eq (sysm : SysmT) (cpuid : UInt32 → SysmCpuid) :
    sysmCpuCoreCount sysm cpuid = { sysm with lcpu := probedLcpu sysm.lcpu cpuid } := by
  unfold sysmCpuCoreCount probedLcpu cpuidLcpu sysmCpuCoreCount
  by_cases unknown : sysm.lcpu = -1
  · simp only [if_pos unknown]
    split
    · rfl
    · rfl
  · simp only [if_neg unknown]

/-- Folding is decided on when CPUID is asked, and only then. -/
theorem sysmCpuCoreRollup_eq {sysm : SysmT} (cores : sysm.cpuListCores = 0) (cpuid : UInt32 → SysmCpuid) :
    sysmCpuCoreRollup sysm cpuid =
      (sysm.lcpu == -1 && 1 < cpuidLcpu cpuid, { sysm with lcpu := probedLcpu sysm.lcpu cpuid }) := by
  have count := sysmCpuCoreCount_eq sysm cpuid
  by_cases unknown : sysm.lcpu = -1
  · simp [sysmCpuCoreRollup, count, cores, unknown, probedLcpu]
  · have known : (sysm.lcpu == -1) = false := beq_eq_false_iff_ne.mpr unknown
    simp only [sysmCpuCoreRollup, count, known, Bool.and_false, Bool.false_and]

/-- The number that CPUID gives never looks like one that is not known yet. -/
theorem cpuidLcpu_ne (cpuid : UInt32 → SysmCpuid) : cpuidLcpu cpuid ≠ -1 := by
  unfold cpuidLcpu sysmCpuCoreCount
  rw [if_pos rfl]
  dsimp only
  split
  · have shifted : (((cpuid 1).ebx &&& 0x00FF0000) >>> 16).toNat = ((cpuid 1).ebx &&& 0x00FF0000).toNat / 2 ^ 16 := by
      rw [UInt32.toNat_shiftRight, Nat.shiftRight_eq_div_pow]
      rfl
    have bound := ((cpuid 1).ebx &&& 0x00FF0000).toNat_lt
    intro same
    have all : (((cpuid 1).ebx &&& 0x00FF0000) >>> 16).toInt32.toUInt32 = 0xFFFFFFFF := congrArg Int32.toUInt32 same
    rw [UInt32.toUInt32_toInt32, ← UInt32.toNat_inj, shifted] at all
    have value : (0xFFFFFFFF : UInt32).toNat = 4294967295 := rfl
    omega
  · decide

/-- After a decision the number is known, and nothing is folded. -/
theorem sysmCpuCoreRollup_again (sysm : SysmT) (cpuid : UInt32 → SysmCpuid) :
    (sysmCpuCoreRollup (sysmCpuCoreRollup sysm cpuid).2 cpuid).1 = false := by
  have known : (sysmCpuCoreRollup sysm cpuid).2.lcpu ≠ -1 := by
    rw [sysmCpuCoreRollup, sysmCpuCoreCount_eq]
    show probedLcpu sysm.lcpu cpuid ≠ -1
    unfold probedLcpu
    split
    · exact cpuidLcpu_ne cpuid
    · assumption
  have decided : ((sysmCpuCoreRollup sysm cpuid).2.lcpu == -1) = false := beq_eq_false_iff_ne.mpr known
  rw [sysmCpuCoreRollup, decided, Bool.and_false, Bool.false_and]

/-- The decision depends on two members of the state. -/
theorem sysmCpuCoreRollup_congr {a b : SysmT} (cores : a.cpuListCores = b.cpuListCores) (lcpu : a.lcpu = b.lcpu)
    (cpuid : UInt32 → SysmCpuid) :
    (sysmCpuCoreRollup a cpuid).1 = (sysmCpuCoreRollup b cpuid).1 ∧
      (sysmCpuCoreRollup a cpuid).2.lcpu = (sysmCpuCoreRollup b cpuid).2.lcpu := by
  simp only [sysmCpuCoreRollup, sysmCpuCoreCount_eq, cores, lcpu, and_self]

end Sysm
