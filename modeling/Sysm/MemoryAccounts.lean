import Mathlib.Tactic.FieldSimp
import Mathlib.Tactic.Linarith
import Mathlib.Tactic.Positivity
import Sysm.Meminfo

namespace Sysm
open CString

theorem memTotalKey_plain : ∀ c ∈ ofString "MemTotal", c ≠ 0 ∧ c ≠ 10 ∧ c ≠ 58 := List.all_iff_forall_prop.mp (by decide)

theorem memFreeKey_plain : ∀ c ∈ ofString "MemFree", c ≠ 0 ∧ c ≠ 10 ∧ c ≠ 58 := List.all_iff_forall_prop.mp (by decide)

theorem buffersKey_plain : ∀ c ∈ ofString "Buffers", c ≠ 0 ∧ c ≠ 10 ∧ c ≠ 58 := List.all_iff_forall_prop.mp (by decide)

/-- `/proc/meminfo` as the kernel lays it out. No key between `MemFree` and
`Buffers` ends like the two that follow; the text behind `Cached` is free. -/
structure KernelMeminfo where
  memTotal : Nat
  memFree : Nat
  between : List MeminfoLine
  buffers : Nat
  cached : Nat
  further : List UInt8
  others : ∀ line ∈ between, ¬ ofString "Buffers" <:+ line.key ∧ ¬ ofString "Cached" <:+ line.key
  positive : 1 ≤ memTotal
  small : memTotal < 2 ^ 47
  parts : memFree + buffers + cached ≤ memTotal

/-- The operations of `sysm_memory_get` on what `sysm_meminfo` finds: no difference
is negative, and no sum, product or signed total is too large. -/
def NoWrapAround (buffer : Text) : Prop :=
  let total := sysmMeminfo buffer (ofString "MemTotal:")
  let free := sysmMeminfo buffer (ofString "MemFree:")
  let buffers := sysmMeminfo buffer (ofString "Buffers:")
  let cached := sysmMeminfo buffer (ofString "Cached:")
  let kern := buffers + cached
  let actualFree := free + kern
  let actualUsed := total - free - kern
  let kilobytes := total / 1024
  (free ≤ total ∧ buffers.toNat + cached.toNat < 2 ^ 64 ∧ free.toNat + kern.toNat < 2 ^ 64 ∧ kern ≤ total - free) ∧
    kilobytes.toNat < 2 ^ 63 ∧
    (actualFree / 1024 ≤ kilobytes ∧ (kilobytes - actualFree / 1024).toNat * 100 < 2 ^ 64) ∧
    actualUsed / 1024 ≤ kilobytes ∧ (kilobytes - actualUsed / 1024).toNat * 100 < 2 ^ 64

/-- The record has the exact values of the numbers of the file, in bytes and per cent. -/
structure SysmMemory.CountedFrom (memory : SysmMemory) (info : KernelMeminfo) : Prop where
  total : memory.total.toNat = info.memTotal * 1024
  free : memory.free.toNat = info.memFree * 1024
  used : memory.used.toNat = (info.memTotal - info.memFree) * 1024
  actualFree : memory.actualFree.toNat = (info.memFree + (info.buffers + info.cached)) * 1024
  actualUsed : memory.actualUsed.toNat = (info.memTotal - (info.memFree + (info.buffers + info.cached))) * 1024
  usedPercent : memory.usedPercent =
    some (((info.memTotal - (info.memFree + (info.buffers + info.cached)) : Nat) : Rat) * 100 / info.memTotal)
  freePercent : memory.freePercent =
    some (((info.memFree + (info.buffers + info.cached) : Nat) : Rat) * 100 / info.memTotal)

/-- The accounts of the memory balance. -/
structure SysmMemory.Balanced (memory : SysmMemory) : Prop where
  total : memory.used.toNat + memory.free.toNat = memory.total.toNat
  actual : memory.actualUsed.toNat + memory.actualFree.toNat = memory.total.toNat
  used : memory.actualUsed ≤ memory.used
  percents : ∃ used free, memory.usedPercent = some used ∧ memory.freePercent = some free ∧
    (0 ≤ used ∧ used ≤ 100) ∧ (0 ≤ free ∧ free ≤ 100) ∧ used + free = 100

namespace KernelMeminfo

variable (info : KernelMeminfo)

def lines : List MeminfoLine :=
  kernelLine memTotalKey_plain info.memTotal :: kernelLine memFreeKey_plain info.memFree ::
    (info.between ++ [kernelLine buffersKey_plain info.buffers, kernelLine cachedKey_plain info.cached])

def content : List UInt8 := meminfoText info.lines ++ info.further

end KernelMeminfo

theorem MeminfoLine.text_noNul (line : MeminfoLine) : ∀ c ∈ line.text, c ≠ 0 := by
  intro c member
  simp only [MeminfoLine.text, MeminfoLine.behind, MeminfoLine.tail, List.mem_append, List.mem_cons] at member
  rcases member with key | rfl | ((blank | digit) | blank | unit) | newline
  · exact (line.keyPlain c key).1
  · decide
  · rw [(List.mem_replicate.mp blank).2]
    decide
  · rintro rfl
    exact absurd (line.isDigits 0 digit) (by decide)
  · rw [(List.mem_replicate.mp blank).2]
    decide
  · exact (line.unitPlain c unit).1
  · rw [newline.resolve_right (List.not_mem_nil)]
    decide

theorem meminfoText_noNul (lines : List MeminfoLine) : ∀ c ∈ meminfoText lines, c ≠ 0 := by
  intro c member
  obtain ⟨line, _, byte⟩ := List.mem_flatMap.mp member
  exact line.text_noNul c byte

/-- A line of the kernel is found behind lines with other keys. -/
theorem sysmMeminfo_kernelLine {before after : List MeminfoLine} {key : Text} (plain : ∀ c ∈ key, c ≠ 0 ∧ c ≠ 10 ∧ c ≠ 58)
    {kilobytes : Nat} (small : kilobytes < 2 ^ 54) (others : ∀ line ∈ before, ¬ key <:+ line.key) (rest : Text) :
    (sysmMeminfo (meminfoText (before ++ kernelLine plain kilobytes :: after) ++ rest) (key ++ [58])).toNat =
      kilobytes * 1024 := by
  have parts : meminfoText (before ++ kernelLine plain kilobytes :: after) ++ rest =
      meminfoText before ++ ((kernelLine plain kilobytes).text ++ (meminfoText after ++ rest)) := by
    simp [meminfoText]
  have ends : key <:+ (kernelLine plain kilobytes).key := List.suffix_refl key
  have found := strstr_taken (word_plain plain) others ends (meminfoText after ++ rest)
  rw [parts, ← kernelLine_value plain kilobytes]
  exact (MeminfoLine.sysmMeminfo_value_iff found).mpr (kernelLine_plain plain kilobytes small)

namespace KernelMeminfo

variable (info : KernelMeminfo)

theorem ofBuffer_content : ofBuffer info.content = meminfoText info.lines ++ ofBuffer info.further := by
  refine List.takeWhile_append_of_pos fun c member => ?_
  simpa using meminfoText_noNul info.lines c member

/-- What the four lookups find. -/
theorem lookups (rest : Text) :
    (sysmMeminfo (meminfoText info.lines ++ rest) (ofString "MemTotal:")).toNat = info.memTotal * 1024 ∧
    (sysmMeminfo (meminfoText info.lines ++ rest) (ofString "MemFree:")).toNat = info.memFree * 1024 ∧
    (sysmMeminfo (meminfoText info.lines ++ rest) (ofString "Buffers:")).toNat = info.buffers * 1024 ∧
    (sysmMeminfo (meminfoText info.lines ++ rest) (ofString "Cached:")).toNat = info.cached * 1024 := by
  have small := info.small
  have parts := info.parts
  have splitBuffers : info.lines = (kernelLine memTotalKey_plain info.memTotal ::
      kernelLine memFreeKey_plain info.memFree :: info.between) ++
        kernelLine buffersKey_plain info.buffers :: [kernelLine cachedKey_plain info.cached] := rfl
  have splitCached : info.lines = (kernelLine memTotalKey_plain info.memTotal ::
      kernelLine memFreeKey_plain info.memFree :: (info.between ++ [kernelLine buffersKey_plain info.buffers])) ++
        kernelLine cachedKey_plain info.cached :: [] := by
    simp [lines]
  refine ⟨?_, ?_, ?_, ?_⟩
  · exact @sysmMeminfo_kernelLine [] _ _ memTotalKey_plain info.memTotal (by omega) (by simp) rest
  · refine @sysmMeminfo_kernelLine [_] _ _ memFreeKey_plain info.memFree (by omega) ?_ rest
    intro line member
    rw [List.mem_singleton.mp member]
    show ¬ ofString "MemFree" <:+ ofString "MemTotal"
    decide
  · rw [splitBuffers]
    refine sysmMeminfo_kernelLine buffersKey_plain (by omega) ?_ rest
    intro line member
    simp only [List.mem_cons] at member
    rcases member with rfl | rfl | inside
    · show ¬ ofString "Buffers" <:+ ofString "MemTotal"
      decide
    · show ¬ ofString "Buffers" <:+ ofString "MemFree"
      decide
    · exact (info.others line inside).1
  · rw [splitCached]
    refine sysmMeminfo_kernelLine cachedKey_plain (by omega) ?_ rest
    intro line member
    simp only [List.mem_cons, List.mem_append, List.not_mem_nil, or_false] at member
    rcases member with rfl | rfl | inside | rfl
    · show ¬ ofString "Cached" <:+ ofString "MemTotal"
      decide
    · show ¬ ofString "Cached" <:+ ofString "MemFree"
      decide
    · exact (info.others line inside).2
    · show ¬ ofString "Cached" <:+ ofString "Buffers"
      decide

end KernelMeminfo

/-- Four numbers of bytes that are `t`, `f`, `b` and `c` kilobytes of one memory. -/
structure InKilobytes (total free buffers cached : UInt64) (t f b c : Nat) : Prop where
  total : total.toNat = t * 1024
  free : free.toNat = f * 1024
  buffers : buffers.toNat = b * 1024
  cached : cached.toNat = c * 1024
  small : t < 2 ^ 47
  parts : f + b + c ≤ t

namespace InKilobytes

variable {total free buffers cached : UInt64} {t f b c : Nat} (bytes : InKilobytes total free buffers cached t f b c)

include bytes

theorem kern_toNat : (buffers + cached).toNat = (b + c) * 1024 := by
  obtain ⟨_, _, buffers, cached, small, parts⟩ := bytes
  rw [UInt64.toNat_add]
  omega

theorem used_toNat : (total - free).toNat = (t - f) * 1024 := by
  obtain ⟨total, free, _, _, small, parts⟩ := bytes
  rw [UInt64.toNat_sub]
  omega

theorem actualFree_toNat : (free + (buffers + cached)).toNat = (f + (b + c)) * 1024 := by
  have kern := bytes.kern_toNat
  obtain ⟨_, free, _, _, small, parts⟩ := bytes
  rw [UInt64.toNat_add]
  omega

theorem actualUsed_toNat : (total - free - (buffers + cached)).toNat = (t - (f + (b + c))) * 1024 := by
  have kern := bytes.kern_toNat
  have used := bytes.used_toNat
  have parts := bytes.parts
  have small := bytes.small
  rw [UInt64.toNat_sub]
  omega

theorem kilobytes_toNat : (total / 1024).toNat = t := by
  have division : (total / 1024).toNat = total.toNat / 1024 := UInt64.toNat_div total 1024
  have total := bytes.total
  omega

theorem actualFree_kilobytes : ((free + (buffers + cached)) / 1024).toNat = f + (b + c) := by
  have division : ((free + (buffers + cached)) / 1024).toNat = (free + (buffers + cached)).toNat / 1024 :=
    UInt64.toNat_div _ 1024
  have actualFree := bytes.actualFree_toNat
  omega

theorem actualUsed_kilobytes : ((total - free - (buffers + cached)) / 1024).toNat = t - (f + (b + c)) := by
  have division : ((total - free - (buffers + cached)) / 1024).toNat =
      (total - free - (buffers + cached)).toNat / 1024 := UInt64.toNat_div _ 1024
  have actualUsed := bytes.actualUsed_toNat
  omega

theorem usedDiff_toNat : (total / 1024 - (free + (buffers + cached)) / 1024).toNat = t - (f + (b + c)) := by
  have kilobytes := bytes.kilobytes_toNat
  have actualFree := bytes.actualFree_kilobytes
  have parts := bytes.parts
  have small := bytes.small
  rw [UInt64.toNat_sub]
  omega

theorem freeDiff_toNat : (total / 1024 - (total - free - (buffers + cached)) / 1024).toNat = f + (b + c) := by
  have kilobytes := bytes.kilobytes_toNat
  have actualUsed := bytes.actualUsed_kilobytes
  have parts := bytes.parts
  have small := bytes.small
  rw [UInt64.toNat_sub]
  omega

end InKilobytes

/-- A percentage of a part is exact while the product does not wrap around. -/
theorem memoryPercent_eq {total diff : UInt64} (positive : 0 < total.toNat) (small : diff.toNat * 100 < 2 ^ 64) :
    memoryPercent total diff = some ((diff.toNat : Rat) * 100 / total.toNat) := by
  have other : total ≠ 0 := by
    rintro rfl
    exact absurd positive (by decide)
  have product : (diff * 100).toNat = diff.toNat * 100 := by
    have wrapped : (diff * 100).toNat = diff.toNat * 100 % 2 ^ 64 := UInt64.toNat_mul diff 100
    omega
  rw [memoryPercent, if_neg other, product]
  push_cast
  rfl

/-- Two parts of a positive total have percentages that add up to 100. -/
theorem percents_add {part other total : Nat} (positive : 0 < total) (sum : part + other = total) :
    (0 ≤ (part : Rat) * 100 / total ∧ (part : Rat) * 100 / total ≤ 100) ∧
      (part : Rat) * 100 / total + (other : Rat) * 100 / total = 100 := by
  have above : (0 : Rat) < total := Nat.cast_pos.mpr positive
  have whole : (part : Rat) + other = total := by rw [← Nat.cast_add, sum]
  have rest : (0 : Rat) ≤ other := Nat.cast_nonneg other
  refine ⟨⟨by positivity, ?_⟩, ?_⟩
  · rw [div_le_iff₀ above]
    linarith
  · rw [← add_div, ← add_mul, whole]
    field_simp

namespace KernelMeminfo

variable (info : KernelMeminfo) (rest : Text)

theorem inKilobytes : InKilobytes (sysmMeminfo (meminfoText info.lines ++ rest) (ofString "MemTotal:"))
    (sysmMeminfo (meminfoText info.lines ++ rest) (ofString "MemFree:"))
    (sysmMeminfo (meminfoText info.lines ++ rest) (ofString "Buffers:"))
    (sysmMeminfo (meminfoText info.lines ++ rest) (ofString "Cached:"))
    info.memTotal info.memFree info.buffers info.cached := by
  obtain ⟨total, free, buffers, cached⟩ := info.lookups rest
  have parts := info.parts
  exact ⟨total, free, buffers, cached, info.small, by omega⟩

theorem noWrapAround : NoWrapAround (meminfoText info.lines ++ rest) := by
  have bytes := info.inKilobytes rest
  have parts := bytes.parts
  have small := bytes.small
  refine ⟨⟨?_, ?_, ?_, ?_⟩, ?_, ⟨?_, ?_⟩, ?_, ?_⟩
  · rw [UInt64.le_iff_toNat_le, bytes.total, bytes.free]
    omega
  · rw [bytes.buffers, bytes.cached]
    omega
  · rw [bytes.free, bytes.kern_toNat]
    omega
  · rw [UInt64.le_iff_toNat_le, bytes.kern_toNat, bytes.used_toNat]
    omega
  · rw [bytes.kilobytes_toNat]
    omega
  · rw [UInt64.le_iff_toNat_le, bytes.actualFree_kilobytes, bytes.kilobytes_toNat]
    omega
  · rw [bytes.usedDiff_toNat]
    omega
  · rw [UInt64.le_iff_toNat_le, bytes.actualUsed_kilobytes, bytes.kilobytes_toNat]
    omega
  · rw [bytes.freeDiff_toNat]
    omega

theorem countedFrom (memory : SysmMemory) : (memory.ofMeminfo (meminfoText info.lines ++ rest)).CountedFrom info := by
  have bytes := info.inKilobytes rest
  have parts := bytes.parts
  have small := bytes.small
  have positive : 0 < info.memTotal := info.positive
  have kilobytes := bytes.kilobytes_toNat
  simp only [SysmMemory.ofMeminfo]
  refine ⟨bytes.total, bytes.free, bytes.used_toNat, bytes.actualFree_toNat, bytes.actualUsed_toNat, ?_, ?_⟩
  · rw [memoryPercent_eq (by omega) (by rw [bytes.usedDiff_toNat]; omega), bytes.usedDiff_toNat, kilobytes]
  · show memoryPercent _ _ = some _
    rw [memoryPercent_eq (by omega) (by rw [bytes.freeDiff_toNat]; omega), bytes.freeDiff_toNat, kilobytes]

end KernelMeminfo

/-- The sum of the ranges is no part of the accounts. -/
theorem SysmMemory.CountedFrom.withMtrr {memory : SysmMemory} {info : KernelMeminfo} (counted : memory.CountedFrom info)
    (mtrr : UInt64) : ({ memory with mtrr } : SysmMemory).CountedFrom info :=
  ⟨counted.total, counted.free, counted.used, counted.actualFree, counted.actualUsed, counted.usedPercent, counted.freePercent⟩

/-- The numbers of one file balance. -/
theorem SysmMemory.CountedFrom.balanced {memory : SysmMemory} {info : KernelMeminfo} (counted : memory.CountedFrom info) :
    memory.Balanced := by
  obtain ⟨total, free, used, actualFree, actualUsed, usedPercent, freePercent⟩ := counted
  have parts := info.parts
  have split : info.memTotal - (info.memFree + (info.buffers + info.cached)) +
      (info.memFree + (info.buffers + info.cached)) = info.memTotal := by omega
  obtain ⟨usedRange, sum⟩ := percents_add info.positive split
  obtain ⟨freeRange, _⟩ := percents_add info.positive ((Nat.add_comm _ _).trans split)
  refine ⟨by omega, by omega, ?_, _, _, usedPercent, freePercent, usedRange, freeRange, sum⟩
  rw [UInt64.le_iff_toNat_le]
  omega

/-- `get_mtrr` leaves the rest of the record alone. -/
theorem getMtrr_memory {sysm sysm' : SysmT} {memory : SysmMemory} {file : FileRead} {reply : Int × SysmMemory}
    (run : getMtrr sysm memory file = some (reply, sysm')) : ∃ mtrr, reply.2 = { memory with mtrr } := by
  unfold getMtrr at run
  split at run
  · cases run
    exact ⟨_, rfl⟩
  · split at run
    · cases run
      exact ⟨memory.mtrr, rfl⟩
    · split at run
      · cases run
        exact ⟨memory.mtrr, rfl⟩
      · cases run
        exact ⟨memory.mtrr, rfl⟩
      · obtain ⟨mtrr, _, run⟩ := Option.bind_eq_some_iff.mp run
        cases run
        exact ⟨_, rfl⟩

/-- In the layout of the kernel nothing wraps around: what a call leaves in the
record are the exact values of the numbers of the file, and the accounts balance. -/
theorem sysmMemoryGet_balanced (info : KernelMeminfo) (sysm : SysmT) (memory : SysmMemory) (mtrr : FileRead) :
    NoWrapAround (ofBuffer info.content) ∧
      ((memory.ofMeminfo (ofBuffer info.content)).CountedFrom info ∧ (memory.ofMeminfo (ofBuffer info.content)).Balanced) ∧
      (info.content.length < BUFSIZ → sysmMemoryGet sysm memory (.bytes info.content) mtrr =
        getMtrr sysm (memory.ofMeminfo (ofBuffer info.content)) mtrr) ∧
      ∀ reply sysm', sysmMemoryGet sysm memory (.bytes info.content) mtrr = some (reply, sysm') →
        reply.2.CountedFrom info ∧ reply.2.Balanced := by
  rw [info.ofBuffer_content]
  have counted := info.countedFrom (ofBuffer info.further) memory
  have run (short : info.content.length < BUFSIZ) : sysmMemoryGet sysm memory (.bytes info.content) mtrr =
      getMtrr sysm (memory.ofMeminfo (meminfoText info.lines ++ ofBuffer info.further)) mtrr := by
    rw [← info.ofBuffer_content, sysmMemoryGet, sysmFile2str, if_pos short]
    rfl
  refine ⟨info.noWrapAround _, ⟨counted, counted.balanced⟩, run, ?_⟩
  intro reply sysm' answers
  by_cases short : info.content.length < BUFSIZ
  · rw [run short] at answers
    obtain ⟨range, same⟩ := getMtrr_memory answers
    have left : reply.2.CountedFrom info := by
      rw [same]
      exact counted.withMtrr range
    exact ⟨left, left.balanced⟩
  · rw [sysmMemoryGet, sysmFile2str, if_neg short] at answers
    cases answers

theorem memAvailableKey_plain : ∀ c ∈ ofString "MemAvailable", c ≠ 0 ∧ c ≠ 10 ∧ c ≠ 58 :=
  List.all_iff_forall_prop.mp (by decide)

/-- A file of a machine with one gigabyte. -/
def gigabyteMeminfo : KernelMeminfo where
  memTotal := 1048576
  memFree := 262144
  between := [kernelLine memAvailableKey_plain 524288]
  buffers := 1024
  cached := 131072
  further := ofString "SwapCached:            0 kB\nActive:           4096 kB\n"
  others := by
    intro line member
    rw [List.mem_singleton.mp member]
    show ¬ ofString "Buffers" <:+ ofString "MemAvailable" ∧ ¬ ofString "Cached" <:+ ofString "MemAvailable"
    decide
  positive := by decide
  small := by decide
  parts := by decide

theorem sysmMemoryGet_balanced_gigabyte : ∃ reply,
    sysmMemoryGet .zero ⟨0, 0, 0, 0, 0, 0, none, none⟩ (.bytes gigabyteMeminfo.content) .missing = some (reply, .zero) ∧
      reply.2.CountedFrom gigabyteMeminfo ∧ reply.2.Balanced ∧ reply.2.actualUsed.toNat = 654336 * 1024 := by
  have short : gigabyteMeminfo.content.length < BUFSIZ := by decide +kernel
  obtain ⟨_, _, run, balanced⟩ := sysmMemoryGet_balanced gigabyteMeminfo .zero ⟨0, 0, 0, 0, 0, 0, none, none⟩ .missing
  have answer := run short
  obtain ⟨counted, accounts⟩ := balanced _ _ answer
  exact ⟨_, answer, counted, accounts, counted.actualUsed⟩

end Sysm
