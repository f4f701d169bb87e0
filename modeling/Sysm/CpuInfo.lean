import Sysm.Lib.GrowList
import Sysm.CpuList

namespace Sysm
open CString

/-- `sysm_cpu_info_t` -/
structure SysmCpuInfo where
  vendor : Vector UInt8 128
  model : Vector UInt8 128
  mhz : Int32
  mhzMax : Int32
  mhzMin : Int32
  cacheSize : UInt64
  totalSockets : Int32
  totalCores : Int32
  coresPerSocket : Int32
deriving DecidableEq

/-- `sizeof(info->vendor)` and `sizeof(info->model)` -/
def cpuInfoLen : Nat := 128

namespace SysmCpuInfo

variable (info : SysmCpuInfo)

/-- The bytes of the record up to `mhz`. -/
def bytes : List UInt8 :=
  info.vendor.toList ++ info.model.toList ++
    (List.range 4).map fun i => (info.mhz.toUInt32 >>> (8 * UInt32.ofNat i)).toUInt8

/-- A byte written at an offset into the record: behind `vendor` comes `model`,
and behind it `mhz`. Nothing is written in front of the record. -/
def store (offset : Int) (c : UInt8) : Option SysmCpuInfo :=
  if offset < 0 then none
  else
    let index := offset.toNat
    if inVendor : index < 128 then some { info with vendor := info.vendor.set index c inVendor }
    else if inModel : index - 128 < 128 then some { info with model := info.model.set (index - 128) c inModel }
    else if index < 260 then
      let shift := 8 * UInt32.ofNat (index - 256)
      let others := info.mhz.toUInt32 &&& ~~~(0xFF <<< shift)
      some { info with mhz := (others ||| c.toUInt32 <<< shift).toInt32 }
    else none

def storeAll : SysmCpuInfo → Nat → List UInt8 → Option SysmCpuInfo
  | info, _, [] => some info
  | info, offset, c :: text => do
    let info ← info.store offset c
    storeAll info (offset + 1) text

/-- `strncpy` to the field at this offset. -/
def strncpy (offset : Nat) (ptr : Text) : Option SysmCpuInfo :=
  let text := ptr.take cpuInfoLen
  info.storeAll offset (text ++ List.replicate (cpuInfoLen - text.length) 0)

/-- `strcmp(info->vendor, text) == 0` -/
def vendorIs (text : Text) : Bool := (text ++ [0]).isPrefixOf info.bytes

/-- The string that starts at `vendor`, a fault if it does not end. -/
def vendorText : Option Text := if 0 ∈ info.bytes then some (ofBuffer info.bytes) else none

end SysmCpuInfo

/-- The offset of `model` in the record. -/
def modelOffset : Nat := 128

def cpuInfoStrval (ptr : Text) : Option Text := (strchr 58 ptr).map fun ptr => ptr.tail.dropWhile isSpace

/-- `cpu_info_strcpy`, where `buf` is the field at this offset. -/
def cpuInfoStrcpy (ptr : Text) (info : SysmCpuInfo) (buf : Nat) : Option SysmCpuInfo :=
  match cpuInfoStrval ptr with
  | none => some info
  | some ptr => do
    let slen := ptr.length
    let info ← info.strncpy buf ptr
    let info ← info.store (buf + cpuInfoLen) 0
    -- make \n to \0
    if slen < cpuInfoLen then info.store (buf + slen - 1) 0 else return info

/-- `cpu_models`: what to search for and what to put in its place. -/
def cpuModels : List (Text × Text) :=
  [("Xeon", "Xeon"), ("XEON", "Xeon"), ("Pentium III", "Pentium III"), ("Pentium II", "Pentium II"),
    ("Pentium(R) III", "Pentium III"), ("Pentium(R) 4", "Pentium 4"), ("Pentium(R) M", "Pentium M"),
    ("Pentium Pro", "Pentium Pro"), ("Celeron", "Celeron"), ("Opteron", "Opteron"), ("Athlon", "Athlon"),
    ("Duron", "Duron"), ("K6(tm)-III", "K6 III"), ("K6(tm) 3D+", "K6 3D+")].map fun (name, rname) =>
      (ofString name, ofString rname)

/-- `while (*p == ' ') ++p` -/
def skipBlanks (p : Text) : Text := p.dropWhile (· == 32)

/-- `sysm_cpu_model_adjust`. The copy of the model must end with a NUL, and the
blanks at its end are only looked for behind some other byte. -/
def sysmCpuModelAdjust (info : SysmCpuInfo) : Option SysmCpuInfo := do
  let model := info.model.toList
  if 0 ∉ model then none
  let text := ofBuffer model
  if text.all (· == 32) then none
  let ptr := skipBlanks (skipBlanks text.reverse).reverse
  let vendor ← info.vendorText
  let ptr := if vendor.isPrefixOf ptr then
      let ptr := ptr.drop vendor.length
      let ptr := if (ofString "(R)").isPrefixOf ptr then ptr.drop 3 else ptr
      skipBlanks ptr
    else ptr
  let ptr := if ptr.head? = some 45 then ptr.tail else ptr
  match cpuModels.find? fun (name, _) => name.isPrefixOf ptr with
  | some (_, rname) => info.storeAll modelOffset (rname ++ [0])
  | none => info.storeAll modelOffset (ptr ++ [0])

/-- The line gives the number of a processor. -/
def isProcessorLine (line : Text) : Bool := (ofString "processor").isPrefixOf line

def cpuInfoVendor (info : SysmCpuInfo) (line : Text) : Option SysmCpuInfo := do
  let info ← cpuInfoStrcpy line info 0
  if info.vendorIs (ofString "GenuineIntel") then (← info.strncpy 0 (ofString "Intel")).store cpuInfoLen 0
  else if info.vendorIs (ofString "AuthenticAMD") then (← info.strncpy 0 (ofString "AMD")).store cpuInfoLen 0
  else return info

def cpuInfoModel (info : SysmCpuInfo) (line : Text) : Option SysmCpuInfo := do
  sysmCpuModelAdjust (← cpuInfoStrcpy line info modelOffset)

/-- The cases of `get_cpu_info` that fill the record. A number without a colon
before it is read from a null pointer. -/
def cpuInfoLine (info : SysmCpuInfo) (line : Text) : Option SysmCpuInfo :=
  if (ofString "vendor").isPrefixOf line then cpuInfoVendor info line
  else if (ofString "family").isPrefixOf line then cpuInfoModel info line
  else if (ofString "model name").isPrefixOf line then cpuInfoModel info line
  else if (ofString "cpu MHz").isPrefixOf line then
    (cpuInfoStrval line).map fun ptr => { info with mhz := Int32.ofInt (strtol 10 ptr) }
  else if (ofString "cache size").isPrefixOf line then
    (cpuInfoStrval line).map fun ptr => { info with cacheSize := UInt64.ofInt (strtol 10 ptr) }
  else some info

/-- The loop of `get_cpu_info`, with the lines that it leaves. -/
def cpuInfoLines : Bool → SysmCpuInfo → List Text → Option (Bool × SysmCpuInfo × List Text)
  | found, info, [] => some (found, info, [])
  | found, info, line :: lines =>
    -- lone \n means end of info for this processor
    if line.head? = some 10 then some (found, info, lines)
    else do
      let info ← cpuInfoLine info line
      cpuInfoLines (found || isProcessorLine line) info lines

def getCpuInfo (info : SysmCpuInfo) (lines : List Text) : Option (Bool × SysmCpuInfo × List Text) :=
  cpuInfoLines false { info with mhz := 0, cacheSize := 0 } lines

/-- What is read from the cpufreq file of a processor. The last byte of the
buffer is left for the terminator. -/
def cpuFreq : FileRead → Int32
  | .bytes content => atoi (ofBuffer (content.take 4095)) / 1000
  | _ => -1

/-- The files that `get_cpuinfo_max_freq` and `get_cpuinfo_mim_freq` read. -/
def cpuFreqFile (num : Nat) (name : String) : Text :=
  ofString "/sys/devices/system/cpu/cpu" ++ decimal num ++ ofString "/cpufreq/" ++ ofString name

/-- `sysm_cpu_socket_count`, a fault when it divides by zero. -/
def sysmCpuSocketCount (sysm : SysmT) : Option UInt32 :=
  let lcpu := sysm.lcpu.toUInt32
  if sysm.ncpu < lcpu then some sysm.ncpu else if lcpu = 0 then none else some (sysm.ncpu / lcpu)

section List

variable (sysm : SysmT) (coreRollup : Bool) (files : Text → FileRead) (memory : Nat → SysmCpuInfo)

/-- The fields that do not come from `/proc/cpuinfo`. -/
def cpuInfoDescribe (num : Nat) (info : SysmCpuInfo) : Option SysmCpuInfo := do
  let sockets ← sysmCpuSocketCount sysm
  return { info with
    mhzMax := cpuFreq (files (cpuFreqFile num "cpuinfo_max_freq"))
    mhzMin := cpuFreq (files (cpuFreqFile num "cpuinfo_min_freq"))
    totalCores := sysm.ncpu.toInt32
    coresPerSocket := sysm.lcpu
    totalSockets := sockets.toInt32 }

/-- The rounds of the loop of `sysm_cpu_info_list_get`. -/
def cpuInfoRounds : Nat → Nat → GrowList SysmCpuInfo → List Text → Option (GrowList SysmCpuInfo)
  | 0, _, _, _ => none
  | rounds + 1, i, cpuInfos, lines => do
    let (found, info, lines) ← getCpuInfo (← cpuInfos.read cpuInfos.number) lines
    let cpuInfos ← cpuInfos.write cpuInfos.number info
    if !found then return cpuInfos
    if coreRollup ∧ Int.tmod i sysm.lcpu.toInt ≠ 0 then cpuInfoRounds rounds (i + 1) cpuInfos lines
    else
      let info ← cpuInfoDescribe sysm files cpuInfos.number info
      let cpuInfos ← cpuInfos.write cpuInfos.number info
      let cpuInfos := { cpuInfos with number := cpuInfos.number + 1 }
      cpuInfoRounds rounds (if coreRollup then i + 1 else i) (cpuInfos.growFull sysmCpuMax memory) lines

end List

/-- `sysm_cpu_info_list_get`, where `cpuinfo` is what opening `/proc/cpuinfo`
brings and `conf` the number of configured processors. Each round but the last
one takes a line at least. -/
def sysmCpuInfoListGet (sysm : SysmT) (cpuid : UInt32 → SysmCpuid) (conf : UInt32) (files : Text → FileRead)
    (memory : Nat → SysmCpuInfo) (cpuinfo : Except Int (List UInt8)) :
    Option (Except Int (GrowList SysmCpuInfo) × SysmT) :=
  let (coreRollup, sysm) := sysmCpuCoreRollup sysm cpuid
  match cpuinfo with
  | .error errno => some (.error errno, sysm)
  | .ok stream => do
    let sysm := { sysm with ncpu := conf }
    let lines := fgetsAll BUFSIZ stream
    let cpuInfos ← cpuInfoRounds sysm coreRollup files memory (lines.length + 1) 0 (.create sysmCpuMax memory) lines
    return (.ok cpuInfos, sysm)

/-- The number of blocks for a processor, up to the first block for none. -/
def processorBlocks : Bool → List Text → Nat
  | found, [] => if found then 1 else 0
  | found, line :: lines =>
    if line.head? = some 10 then if found then 1 + processorBlocks false lines else 0
    else processorBlocks (found || isProcessorLine line) lines

/-- The processors that the file lists. -/
def infoProcessors (stream : List UInt8) : Nat := processorBlocks false (fgetsAll BUFSIZ stream)

theorem cpuInfoLines_blocks {found found' : Bool} {info info' : SysmCpuInfo} {lines rest : List Text}
    (run : cpuInfoLines found info lines = some (found', info', rest)) :
    processorBlocks found lines = (if found' then 1 + processorBlocks false rest else 0) ∧
      rest.length ≤ lines.length ∧ (found = false → found' = true → rest.length < lines.length) := by
  induction lines generalizing found info with
  | nil =>
    cases run
    refine ⟨by simp [processorBlocks], le_rfl, fun no yes => ?_⟩
    rw [no] at yes
    cases yes
  | cons line lines ih =>
    by_cases lone : line.head? = some 10
    · rw [cpuInfoLines, if_pos lone] at run
      cases run
      refine ⟨by rw [processorBlocks, if_pos lone], by simp, fun no yes => ?_⟩
      rw [no] at yes
      cases yes
    · rw [cpuInfoLines, if_neg lone] at run
      obtain ⟨filled, _, run⟩ := Option.bind_eq_some_iff.mp run
      obtain ⟨blocks, shorter, _⟩ := ih run
      rw [processorBlocks, if_neg lone]
      have length : (line :: lines).length = lines.length + 1 := rfl
      exact ⟨blocks, by omega, fun _ _ => by omega⟩

section Flat

variable {sysm : SysmT} {files : Text → FileRead} {memory : Nat → SysmCpuInfo}

/-- Without folding there is an entry for each block. -/
theorem cpuInfoRounds_flat {rounds i : Nat} {cpuInfos cpuInfos' : GrowList SysmCpuInfo} {lines : List Text}
    (run : cpuInfoRounds sysm false files memory rounds i cpuInfos lines = some cpuInfos') :
    cpuInfos'.number = cpuInfos.number + processorBlocks false lines := by
  induction rounds generalizing i cpuInfos lines with
  | zero => cases run
  | succ rounds ih =>
    obtain ⟨slot, _, run⟩ := Option.bind_eq_some_iff.mp run
    obtain ⟨⟨found, info, rest⟩, read, run⟩ := Option.bind_eq_some_iff.mp run
    obtain ⟨written, write, run⟩ := Option.bind_eq_some_iff.mp run
    have same := GrowList.write_number write
    obtain ⟨blocks, _, _⟩ := cpuInfoLines_blocks read
    cases found with
    | false =>
      cases run
      rw [blocks, same]
      rfl
    | true =>
      simp only [Bool.not_true, Bool.false_eq_true, if_false, false_and] at run
      obtain ⟨described, _, run⟩ := Option.bind_eq_some_iff.mp run
      obtain ⟨written', write', run⟩ := Option.bind_eq_some_iff.mp run
      have same' := GrowList.write_number write'
      rw [ih run, blocks, GrowList.growFull_number, if_pos rfl]
      show written'.number + 1 + processorBlocks false rest = cpuInfos.number + (1 + processorBlocks false rest)
      omega

theorem sysmCpuInfoListGet_flat {cpuid : UInt32 → SysmCpuid} {conf : UInt32}
    (off : (sysmCpuCoreRollup sysm cpuid).1 = false) {stream : List UInt8} {cpuInfos : GrowList SysmCpuInfo} {sysm' : SysmT}
    (run : sysmCpuInfoListGet sysm cpuid conf files memory (.ok stream) = some (.ok cpuInfos, sysm')) :
    cpuInfos.number = infoProcessors stream := by
  simp only [sysmCpuInfoListGet, off] at run
  obtain ⟨listed, rounds, run⟩ := Option.bind_eq_some_iff.mp run
  cases run
  rw [cpuInfoRounds_flat rounds, GrowList.create_number, Nat.zero_add, infoProcessors]

end Flat

/-- The number of processors is stored, and the decision about the cores is
left behind. -/
theorem sysmCpuInfoListGet_sysm {sysm sysm' : SysmT} {cpuid : UInt32 → SysmCpuid} {conf : UInt32}
    {files : Text → FileRead} {memory : Nat → SysmCpuInfo} {cpuinfo : Except Int (List UInt8)}
    {result : Except Int (GrowList SysmCpuInfo)}
    (run : sysmCpuInfoListGet sysm cpuid conf files memory cpuinfo = some (result, sysm')) :
    ∃ ncpu, sysm' = { (sysmCpuCoreRollup sysm cpuid).2 with ncpu } := by
  cases cpuinfo with
  | error errno =>
    cases run
    exact ⟨_, rfl⟩
  | ok stream =>
    obtain ⟨listed, _, run⟩ := Option.bind_eq_some_iff.mp run
    cases run
    exact ⟨conf, rfl⟩

section Rounds

variable {sysm : SysmT} {coreRollup : Bool} {files : Text → FileRead} {memory : Nat → SysmCpuInfo}

/-- There are enough rounds: more of them change nothing. -/
theorem cpuInfoRounds_stable {rounds others i : Nat} {cpuInfos : GrowList SysmCpuInfo} {lines : List Text}
    (enough : lines.length < rounds) (more : lines.length < others) :
    cpuInfoRounds sysm coreRollup files memory rounds i cpuInfos lines =
      cpuInfoRounds sysm coreRollup files memory others i cpuInfos lines := by
  induction rounds generalizing others i cpuInfos lines with
  | zero => omega
  | succ rounds ih =>
    obtain ⟨others, rfl⟩ : ∃ n, others = n + 1 := ⟨others - 1, by omega⟩
    cases atSlot : cpuInfos.read cpuInfos.number with
    | none => simp only [cpuInfoRounds, atSlot, Option.bind_eq_bind, Option.bind_none]
    | some slot =>
      cases read : getCpuInfo slot lines with
      | none => simp only [cpuInfoRounds, atSlot, read, Option.bind_eq_bind, Option.bind_some, Option.bind_none]
      | some result =>
        obtain ⟨found, info, rest⟩ := result
        obtain ⟨_, _, shorter⟩ := cpuInfoLines_blocks read
        cases found with
        | false => simp only [cpuInfoRounds, atSlot, read, Option.bind_eq_bind, Option.bind_some, Bool.not_false, if_true]
        | true =>
          have less := shorter rfl rfl
          have same (i : Nat) (cpuInfos : GrowList SysmCpuInfo) :=
            @ih others i cpuInfos rest (by omega) (by omega)
          simp only [cpuInfoRounds, atSlot, read, Option.bind_eq_bind, Option.bind_some, same]

end Rounds

end Sysm
