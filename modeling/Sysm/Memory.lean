import Sysm.Lib.Machine
import Sysm.State

namespace Sysm
open CString

/-- `sysm_memory_t`. A percentage is the exact quotient, and has no value when
it divides by zero. -/
structure SysmMemory where
  total : UInt64
  mtrr : UInt64
  used : UInt64
  free : UInt64
  actualUsed : UInt64
  actualFree : UInt64
  usedPercent : Option Rat
  freePercent : Option Rat
deriving Repr, DecidableEq

/-- `strtoull(s, &s, 0)`: the prefix tells the base. -/
def strtoullAny (s : Text) : UInt64 × Text :=
  match (readSign (s.dropWhile isSpace)).2 with
  | 48 :: x :: digit :: _ => if (x = 120 ∨ x = 88) ∧ digitVal digit < 16 then strtoul 16 s else strtoul 8 s
  | 48 :: _ => strtoul 8 s
  | _ => strtoul 10 s

/-- `sysm_meminfo`, where `attr` has the colon -/
def sysmMeminfo (buffer attr : Text) : UInt64 :=
  match strstr attr buffer with
  | none => 0
  | some ptr =>
    let (val, tok) := strtoullAny (ptr.drop attr.length)
    match tok.dropWhile (· == 32) with
    | c :: _ =>
      if c = 107 ∨ c = 75 then val * 1024
      else if c = 77 ∨ c = 109 then val * (1024 * 1024)
      else val
    | [] => val

/-- The size that `get_mtrr` takes from a line, if the line is for a range that is written back. -/
def mtrrSize (line : Text) : Option Int32 :=
  match strstr (ofString "size=") line with
  | none => none
  | some ptr => if strstr (ofString "write-back") ptr = none then none else some (atoi (skipSpace (ptr.drop 5)))

/-- The sum of the sizes. It must not get out of the range of an `int`. -/
def mtrrSum : Int32 → List Text → Option Int32
  | mtrr, [] => some mtrr
  | mtrr, line :: lines =>
    match mtrrSize line with
    | none => mtrrSum mtrr lines
    | some size => if (mtrr + size).toInt = mtrr.toInt + size.toInt then mtrrSum (mtrr + size) lines else none

/-- The conversion of an `int` to an unsigned 64-bit integer. -/
def signExtend (x : Int32) : UInt64 := UInt64.ofInt x.toInt

/-- `get_mtrr`, where `file` is `/proc/mtrr` -/
def getMtrr (sysm : SysmT) (memory : SysmMemory) (file : FileRead) : Option ((Int × SysmMemory) × SysmT) :=
  if 0 < sysm.mtrr then some ((0, { memory with mtrr := signExtend sysm.mtrr }), sysm)
  -- init value is -1, see `sysmOpen`
  else if sysm.mtrr = 0 then some ((ENOENT, memory), sysm)
  else match file with
    | .missing => some ((ENOENT, memory), sysm)
    | .failed errno _ => some ((errno, memory), sysm)
    | .bytes stream => do
      let mtrr ← mtrrSum 0 (fgetsAll BUFSIZ stream)
      return ((0, { memory with mtrr := signExtend mtrr }), { sysm with mtrr })

/-- `(double) (diff * 100) / total` -/
def memoryPercent (total diff : UInt64) : Option Rat :=
  if total = 0 then none else some (((diff * 100).toNat : Rat) / total.toNat)

/-- What `sysm_memory_get` takes from `/proc/meminfo`. -/
def SysmMemory.ofMeminfo (memory : SysmMemory) (buffer : Text) : SysmMemory :=
  let total := sysmMeminfo buffer (ofString "MemTotal:")
  let free := sysmMeminfo buffer (ofString "MemFree:")
  let used := total - free
  let kern := sysmMeminfo buffer (ofString "Buffers:") + sysmMeminfo buffer (ofString "Cached:")
  let actualFree := free + kern
  let actualUsed := used - kern
  let kilobytes := total / 1024
  { memory with
    total
    free
    used
    actualFree
    actualUsed
    usedPercent := memoryPercent kilobytes (kilobytes - actualFree / 1024)
    freePercent := memoryPercent kilobytes (kilobytes - actualUsed / 1024) }

/-- `sysm_memory_get`, where `meminfo` and `mtrr` are the files that it reads -/
def sysmMemoryGet (sysm : SysmT) (memory : SysmMemory) (meminfo mtrr : FileRead) :
    Option ((Int × SysmMemory) × SysmT) := do
  match ← sysmFile2str BUFSIZ meminfo with
  | .error status => return ((status, memory), sysm)
  | .ok buffer => getMtrr sysm (memory.ofMeminfo buffer) mtrr

/-- The two files, which stay the same. -/
structure MemoryFiles where
  meminfo : FileRead
  mtrr : FileRead

/-- A call of `sysm_memory_get` with the record of the caller. -/
def memoryStep (files : MemoryFiles) (sysm : SysmT) (memory : SysmMemory) : Option ((Int × SysmMemory) × SysmT) :=
  sysmMemoryGet sysm memory files.meminfo files.mtrr

/-- The status, and the sum of the ranges if the call has succeeded. -/
def mtrrAnswer (reply : Int × SysmMemory) : Int × Option UInt64 :=
  (reply.1, if reply.1 = 0 then some reply.2.mtrr else none)

/-- Any number of calls, whatever their records hold before, have one answer. -/
def Repeatable (files : MemoryFiles) (sysm : SysmT) : Prop :=
  ∀ memories replies final, Machine.run (memoryStep files) sysm memories = some (replies, final) →
    ∀ first ∈ replies, ∀ second ∈ replies, mtrrAnswer first = mtrrAnswer second

namespace MemoryFiles

variable (files : MemoryFiles)

/-- The memory can be read, and so can the ranges, but none of them is written back. -/
def SumsToZero : Prop :=
  (∃ buffer, sysmFile2str BUFSIZ files.meminfo = some (.ok buffer)) ∧
    ∃ stream, files.mtrr = .bytes stream ∧ mtrrSum 0 (fgetsAll BUFSIZ stream) = some 0

/-- Nothing has been stored, or a sum that is not zero. -/
def Stores (sysm : SysmT) : Prop :=
  sysm.mtrr = -1 ∨ ∃ stream mtrr, files.mtrr = .bytes stream ∧ mtrrSum 0 (fgetsAll BUFSIZ stream) = some mtrr ∧
    mtrr ≠ 0 ∧ sysm.mtrr = mtrr

/-- The answer to all calls. -/
def answer : Option (Int × Option UInt64) :=
  match files.meminfo, files.mtrr with
  | .missing, _ => some (ENOENT, none)
  | .failed errno _, _ => some (errno, none)
  | .bytes _, .missing => some (ENOENT, none)
  | .bytes _, .failed errno _ => some (errno, none)
  | .bytes _, .bytes stream => (mtrrSum 0 (fgetsAll BUFSIZ stream)).map fun mtrr => (0, some (signExtend mtrr))

end MemoryFiles

variable {files : MemoryFiles} {sysm sysm' : SysmT} {memory : SysmMemory} {reply : Int × SysmMemory}

/-- The sum that is stored is the one that would be read again. -/
theorem getMtrr_answers {content : List UInt8} (meminfo : files.meminfo = .bytes content) {buffer : Text}
    (short : sysmFile2str BUFSIZ files.meminfo = some (.ok buffer)) (notZero : ¬ files.SumsToZero)
    (stores : files.Stores sysm) (run : getMtrr sysm memory files.mtrr = some (reply, sysm')) :
    files.Stores sysm' ∧ some (mtrrAnswer reply) = files.answer := by
  unfold getMtrr at run
  by_cases positive : 0 < sysm.mtrr
  · rw [if_pos positive] at run
    cases run
    rcases stores with unread | ⟨stream, mtrr, file, sum, other, stored⟩
    · rw [unread] at positive
      exact absurd positive (by decide)
    · refine ⟨Or.inr ⟨stream, mtrr, file, sum, other, stored⟩, ?_⟩
      simp [MemoryFiles.answer, meminfo, file, sum, mtrrAnswer, stored]
  · have unequal : sysm.mtrr ≠ 0 := by
      rcases stores with unread | ⟨_, mtrr, _, _, other, stored⟩
      · rw [unread]
        decide
      · rwa [stored]
    rw [if_neg positive, if_neg unequal] at run
    cases file : files.mtrr with
    | missing =>
      rw [file] at run
      cases run
      exact ⟨stores, by simp [MemoryFiles.answer, meminfo, file, mtrrAnswer, ENOENT]⟩
    | failed errno real =>
      rw [file] at run
      cases run
      exact ⟨stores, by simp [MemoryFiles.answer, meminfo, file, mtrrAnswer, real]⟩
    | bytes stream =>
      rw [file] at run
      obtain ⟨mtrr, sum, run⟩ := Option.bind_eq_some_iff.mp run
      cases run
      refine ⟨Or.inr ⟨stream, mtrr, file, sum, ?_, rfl⟩, by simp [MemoryFiles.answer, meminfo, file, sum, mtrrAnswer]⟩
      intro zero
      rw [zero] at sum
      exact notZero ⟨⟨buffer, short⟩, stream, file, sum⟩

theorem memoryStep_answers (notZero : ¬ files.SumsToZero) (stores : files.Stores sysm)
    (step : memoryStep files sysm memory = some (reply, sysm')) :
    files.Stores sysm' ∧ some (mtrrAnswer reply) = files.answer := by
  obtain ⟨result, read, step⟩ := Option.bind_eq_some_iff.mp step
  cases meminfo : files.meminfo with
  | missing =>
    rw [meminfo] at read
    cases read
    cases step
    exact ⟨stores, by simp [MemoryFiles.answer, meminfo, mtrrAnswer, ENOENT]⟩
  | failed errno real =>
    rw [meminfo] at read
    cases read
    cases step
    exact ⟨stores, by simp [MemoryFiles.answer, meminfo, mtrrAnswer, real]⟩
  | bytes content =>
    cases result with
    | error status =>
      rw [meminfo, sysmFile2str] at read
      split at read
      · cases read
      · cases read
    | ok buffer => exact getMtrr_answers meminfo read notZero stores step

/-- A machine with one range that is not written back. -/
def uncachedRange : MemoryFiles where
  meminfo := .bytes (ofString "MemTotal: 2048 kB\nMemFree: 1024 kB\nBuffers: 0 kB\nCached: 0 kB\n")
  mtrr := .bytes (ofString "reg00: base=0x0c0000000 ( 3072MB), size= 1024MB, count=1: uncachable\n")

end Sysm
