import Sysm.CpuInfoFrame
import Sysm.CpuSums
import Sysm.Lib.FoldOption

namespace Sysm
open CString Groups FoldOption

/-- A text of `/proc/cpuinfo`. Its lines end with a newline, and a line for a
field has a value, which may be empty. -/
structure Cpuinfo where
  stream : List UInt8
  ended : ∀ line ∈ fgetsAll BUFSIZ stream, line.getLast? = some 10
  valued : ∀ line ∈ fgetsAll BUFSIZ stream, lineField line ≠ none → 58 ∈ line

/-- Such a line -/
structure InfoLine (line : Text) : Prop where
  noNul : ∀ c ∈ line, c ≠ 0
  ended : line.getLast? = some 10
  valued : lineField line ≠ none → 58 ∈ line

/-- The line belongs to the block that is read. -/
def inBlock (line : Text) : Bool := line.head? != some 10

/-- The lines that the calls of `get_cpu_info` read, where the first list has
been read already. The last call finds no processor. -/
def readBlocks (block : List Text) : List Text → List (List Text)
  | [] => if block.any isProcessorLine then [block, []] else [block]
  | line :: lines =>
    if inBlock line then readBlocks (block ++ [line]) lines
    else if block.any isProcessorLine then block :: readBlocks [] lines
    else [block]

/-- The line brings no empty text, and no model that is too long for its field. -/
def readableLine (line : Text) : Bool :=
  match lineField line, cpuInfoStrval line with
  | some .vendor, some value => value != []
  | some .model, some value => value != [] && decide (value.length < cpuInfoLen)
  | _, _ => true

namespace Cpuinfo

variable (cpuinfo : Cpuinfo)

def lines : List Text := fgetsAll BUFSIZ cpuinfo.stream

theorem wellFormed {line : Text} (member : line ∈ cpuinfo.lines) : InfoLine line :=
  ⟨fgetsAll_noNul member, cpuinfo.ended line member, cpuinfo.valued line member⟩

/-- What is read of the file, block by block. -/
def read : List (List Text) := readBlocks [] cpuinfo.lines

/-- The blocks of the processors. -/
def blocks : List (List Text) := cpuinfo.read.dropLast

end Cpuinfo

/-- A record with nothing in it. -/
def SysmCpuInfo.zero : SysmCpuInfo := ⟨Vector.replicate 128 0, Vector.replicate 128 0, 0, 0, 0, 0, 0, 0, 0⟩

/-- The entry has what the block says. -/
structure SysmCpuInfo.ComesFrom (entry : SysmCpuInfo) (block : List Text) : Prop where
  parsed : ∃ info, block.foldlM cpuInfoLine .zero = some info ∧
    ofBuffer entry.vendor.toList = ofBuffer info.vendor.toList ∧
    ofBuffer entry.model.toList = ofBuffer info.model.toList ∧
    entry.mhz = info.mhz ∧ entry.cacheSize = info.cacheSize

/-- The entry has the frequencies of this processor. -/
structure SysmCpuInfo.RunsAt (entry : SysmCpuInfo) (files : Text → FileRead) (processor : Nat) : Prop where
  max : entry.mhzMax = cpuFreq (files (cpuFreqFile processor "cpuinfo_max_freq"))
  min : entry.mhzMin = cpuFreq (files (cpuFreqFile processor "cpuinfo_min_freq"))

/-- Each entry describes the first one of the processors that are folded into it. -/
structure Cpuinfo.FoldedIn (cpuinfo : Cpuinfo) (files : Text → FileRead) (lcpu : Nat) (cpuInfos : GrowList SysmCpuInfo) :
    Prop where
  inBounds : cpuInfos.InBounds
  number : cpuInfos.number = count lcpu cpuinfo.blocks.length
  described : ∀ k entry, cpuInfos.items[k]? = some entry → ∃ block, cpuinfo.blocks[k * lcpu]? = some block ∧
    entry.ComesFrom block ∧ entry.RunsAt files (k * lcpu)

/-- The files of both processors give the same frequencies. -/
def SameFrequencies (files : Text → FileRead) (first second : Nat) : Prop :=
  ∀ name ∈ ["cpuinfo_max_freq", "cpuinfo_min_freq"],
    cpuFreq (files (cpuFreqFile first name)) = cpuFreq (files (cpuFreqFile second name))

/-- Every line that is read can be stored, a block that gets an entry names its
vendor, and the processor with the number of the entry runs as fast as the one
that is described. -/
structure Cpuinfo.Foldable (cpuinfo : Cpuinfo) (files : Text → FileRead) (lcpu : Nat) : Prop where
  readable : ∀ block ∈ cpuinfo.read, ∀ line ∈ block, readableLine line = true
  vendors : ∀ k block, cpuinfo.blocks[k * lcpu]? = some block → ∃ line ∈ block, lineField line = some .vendor
  frequencies : ∀ k, k * lcpu < cpuinfo.blocks.length → SameFrequencies files k (k * lcpu)

section Line

variable {line value : Text} {info : SysmCpuInfo}

/-- A value of a line that ends with a newline has a byte in front of it. -/
theorem length_strval (ended : line.getLast? = some 10) (read : cpuInfoStrval line = some value) (nonempty : value ≠ []) :
    2 ≤ value.length := by
  have visible := strval_visible read
  obtain ⟨before, split⟩ := strval_suffix read
  have last : value.getLast? = Option.some 10 := by
    rw [← split, List.getLast?_append_of_ne_nil _ nonempty] at ended
    exact ended
  obtain ⟨c, others, rfl⟩ := List.exists_cons_of_ne_nil nonempty
  cases others with
  | nil =>
    have newline : c = 10 := Option.some.inj last
    have blank := visible c rfl
    rw [newline] at blank
    exact absurd blank (by decide)
  | cons d others =>
    rw [List.length_cons, List.length_cons]
    omega

theorem readableLine_vendor (isVendor : lineField line = some .vendor) (read : cpuInfoStrval line = some value) :
    readableLine line = true ↔ value ≠ [] := by
  simp [readableLine, isVendor, read]

theorem readableLine_model (isModel : lineField line = some .model) (read : cpuInfoStrval line = some value) :
    readableLine line = true ↔ value ≠ [] ∧ value.length < cpuInfoLen := by
  simp [readableLine, isModel, read]

/-- A line that brings a value is read exactly if the value can be stored. -/
theorem cpuInfoLine_isSome (wellFormed : InfoLine line) (info : SysmCpuInfo) :
    (∃ next, cpuInfoLine info line = some next) ↔ readableLine line = true := by
  rcases lineField_cases info line with ⟨isVendor, run⟩ | ⟨isModel, run⟩ | ⟨isMhz, run⟩ | ⟨isCache, run⟩ | ⟨isNone, run⟩
  · obtain ⟨value, read⟩ := strval_some (wellFormed.valued (by simp [isVendor]))
    rw [run, cpuInfoVendor_eq read, readableLine_vendor isVendor read]
    by_cases empty : value = []
    · simp [empty]
    · simp [empty]
  · obtain ⟨value, read⟩ := strval_some (wellFormed.valued (by simp [isModel]))
    rw [run, cpuInfoModel_eq read wellFormed.noNul, readableLine_model isModel read]
    by_cases empty : value = []
    · simp [empty]
    · have length := length_strval wellFormed.ended read empty
      by_cases short : value.length < cpuInfoLen
      · simp [length, short, empty]
      · simp [short]
  · obtain ⟨value, read⟩ := strval_some (wellFormed.valued (by simp [isMhz]))
    simp [run, read, readableLine, isMhz]
  · obtain ⟨value, read⟩ := strval_some (wellFormed.valued (by simp [isCache]))
    simp [run, read, readableLine, isCache]
  · simp [run, readableLine, isNone]

/-- The vendor that a line brings is not empty. -/
theorem vendorName_copiedField (noNul : ∀ c ∈ value, c ≠ 0) (length : 2 ≤ value.length) :
    (vendorName (copiedField value)).toList.head? ≠ some 0 := by
  have copied : (copiedField value).toList.head? = value.head? := by
    obtain ⟨c, others, rfl⟩ : ∃ c others, value = c :: others := List.exists_cons_of_length_pos (by omega)
    have bytes : (fieldOf (c :: others)).toList.head? = some c := by
      rw [toList_fieldOf]
      rfl
    have behind : (c :: others).length - 1 ≠ 0 := by omega
    rw [copiedField]
    split
    · rw [Vector.toList_setIfInBounds, List.head?_eq_getElem?, List.getElem?_set_ne behind, ← List.head?_eq_getElem?, bytes,
        List.head?_cons]
    · exact bytes
  have nonzero : value.head? ≠ some 0 := fun zero => noNul 0 (List.mem_of_head? zero) rfl
  unfold vendorName
  split_ifs
  · rw [toList_fieldOf]
    decide
  · rw [toList_fieldOf]
    decide
  · rw [copied]
    exact nonzero

/-- A line for something else leaves the vendor. -/
theorem cpuInfoLine_vendor (wellFormed : InfoLine line)
    (other : lineField line ≠ some .vendor) {next : SysmCpuInfo} (run : cpuInfoLine info line = some next) :
    next.vendor = info.vendor := by
  by_cases isModel : lineField line = some .model
  · obtain ⟨value, read⟩ := strval_some (wellFormed.valued (by simp [isModel]))
    rw [cpuInfoLine_of_model isModel, cpuInfoModel_eq read wellFormed.noNul] at run
    obtain ⟨_, same⟩ := Option.ite_none_right_eq_some.mp run
    cases same
    rfl
  · rw [cpuInfoLine_number other isModel wellFormed.valued] at run
    cases run
    rfl

/-- A vendor that is not empty stays so. -/
theorem cpuInfoLine_keeps_vendor (wellFormed : InfoLine line) (kept : info.vendor.toList.head? ≠ some 0)
    {next : SysmCpuInfo} (run : cpuInfoLine info line = some next) : next.vendor.toList.head? ≠ some 0 := by
  by_cases isVendor : lineField line = some .vendor
  · obtain ⟨value, read⟩ := strval_some (wellFormed.valued (by simp [isVendor]))
    rw [cpuInfoLine_of_vendor isVendor, cpuInfoVendor_eq read] at run
    obtain ⟨nonempty, same⟩ := Option.ite_none_left_eq_some.mp run
    cases same
    exact vendorName_copiedField (fun c member => wellFormed.noNul c (strval_mem read member))
      (length_strval wellFormed.ended read nonempty)
  · rw [cpuInfoLine_vendor wellFormed isVendor run]
    exact kept

end Line

/-- Two records are the same in what a block sets, the texts if there was a
vendor. -/
structure SameReading (named : Prop) (first second : SysmCpuInfo) : Prop where
  mhz : first.mhz = second.mhz
  cacheSize : first.cacheSize = second.cacheSize
  vendor : named → first.vendor = second.vendor
  model : named → ofBuffer first.model.toList = ofBuffer second.model.toList

section Reading

variable {named : Prop} {first second : SysmCpuInfo}

/-- A vendor empties the model in front of it. -/
theorem ofBuffer_emptied (field : FieldBytes) : ofBuffer (field.setIfInBounds 0 0).toList = [] := by
  have length : field.toList.length = 128 := Vector.length_toList
  obtain ⟨c, others, bytes⟩ := List.exists_cons_of_length_pos (l := field.toList) (by omega)
  rw [Vector.toList_setIfInBounds, bytes]
  rfl

theorem SameReading.line (same : SameReading named first second) {line : Text} (wellFormed : InfoLine line)
    (readable : readableLine line = true) : ∃ next other, cpuInfoLine first line = some next ∧
      cpuInfoLine second line = some other ∧ SameReading (named ∨ lineField line = some .vendor) next other := by
  by_cases isVendor : lineField line = some .vendor
  · obtain ⟨value, read⟩ := strval_some (wellFormed.valued (by simp [isVendor]))
    have nonempty := (readableLine_vendor isVendor read).mp readable
    rw [cpuInfoLine_of_vendor isVendor, cpuInfoLine_of_vendor isVendor, cpuInfoVendor_eq read, cpuInfoVendor_eq read, if_neg nonempty, if_neg nonempty]
    refine ⟨_, _, rfl, rfl, same.mhz, same.cacheSize, fun _ => rfl, fun _ => ?_⟩
    rw [ofBuffer_emptied, ofBuffer_emptied]
  · by_cases isModel : lineField line = some .model
    · obtain ⟨value, read⟩ := strval_some (wellFormed.valued (by simp [isModel]))
      obtain ⟨nonempty, short⟩ := (readableLine_model isModel read).mp readable
      have length := length_strval wellFormed.ended read nonempty
      rw [cpuInfoLine_of_model isModel, cpuInfoLine_of_model isModel, cpuInfoModel_eq read wellFormed.noNul, cpuInfoModel_eq read wellFormed.noNul, if_pos ⟨length, short⟩,
        if_pos ⟨length, short⟩]
      have earlier : named ∨ lineField line = Option.some .vendor → named := fun either => either.resolve_right isVendor
      refine ⟨_, _, rfl, rfl, ?_, same.cacheSize, fun either => same.vendor (earlier either), fun either => ?_⟩
      · simp only [same.mhz]
      · simp only [same.vendor (earlier either)]
    · rw [cpuInfoLine_number isVendor isModel wellFormed.valued, cpuInfoLine_number isVendor isModel wellFormed.valued]
      have earlier : named ∨ lineField line = some .vendor → named := fun either => either.resolve_right isVendor
      refine ⟨_, _, rfl, rfl, ?_, ?_, fun either => same.vendor (earlier either), fun either => same.model (earlier either)⟩
      · simp only [same.mhz]
      · simp only [same.cacheSize]

/-- From the vendor on it does not matter what was in the record. -/
theorem SameReading.block (same : SameReading named first second) {block : List Text}
    (wellFormed : ∀ line ∈ block, InfoLine line) (readable : ∀ line ∈ block, readableLine line = true) :
    ∃ info other, block.foldlM cpuInfoLine first = some info ∧ block.foldlM cpuInfoLine second = some other ∧
      SameReading (named ∨ ∃ line ∈ block, lineField line = some .vendor) info other := by
  induction block generalizing named first second with
  | nil => exact ⟨first, second, rfl, rfl, by simpa using same⟩
  | cons line block ih =>
    obtain ⟨next, next', run, run', reading⟩ :=
      same.line (wellFormed line (List.mem_cons_self ..)) (readable line (List.mem_cons_self ..))
    obtain ⟨info, other, runs, runs', reading⟩ := ih reading (fun line member => wellFormed line (List.mem_cons_of_mem _ member))
      fun line member => readable line (List.mem_cons_of_mem _ member)
    refine ⟨info, other, foldlM_cons_iff.mpr ⟨next, run, runs⟩, foldlM_cons_iff.mpr ⟨next', run', runs'⟩, ?_⟩
    simpa [or_assoc] using reading

end Reading

section Blocks

/-- The lines of the next block, and what is behind them. -/
def nextBlock (lines : List Text) : List Text × List Text :=
  (lines.takeWhile inBlock, (lines.dropWhile inBlock).tail)

theorem readBlocks_next (block lines : List Text) :
    readBlocks block lines =
      if (block ++ (nextBlock lines).1).any isProcessorLine then
        (block ++ (nextBlock lines).1) :: readBlocks [] (nextBlock lines).2
      else [block ++ (nextBlock lines).1] := by
  induction lines generalizing block with
  | nil =>
    simp only [readBlocks, nextBlock, List.takeWhile_nil, List.dropWhile_nil, List.tail_nil, List.append_nil, List.any_nil,
      Bool.false_eq_true, if_false]
  | cons line lines ih =>
    by_cases inside : inBlock line = true
    · rw [readBlocks, if_pos inside, ih]
      simp only [nextBlock, List.takeWhile_cons_of_pos inside, List.dropWhile_cons_of_pos inside, List.append_assoc,
        List.singleton_append]
    · simp only [readBlocks, nextBlock, inside, List.takeWhile_cons, List.dropWhile_cons, List.append_nil, List.tail_cons,
        Bool.false_eq_true, if_false]

theorem readBlocks_ne_nil (block lines : List Text) : readBlocks block lines ≠ [] := by
  rw [readBlocks_next]
  split
  · exact List.cons_ne_nil _ _
  · exact List.cons_ne_nil _ _

theorem getCpuInfo_next (info : SysmCpuInfo) (lines : List Text) :
    getCpuInfo info lines = ((nextBlock lines).1.foldlM cpuInfoLine info.started).map fun info =>
      ((nextBlock lines).1.any isProcessorLine, info, (nextBlock lines).2) := by
  have inside : ∀ line ∈ lines.takeWhile inBlock, line.head? ≠ some 10 := by
    intro line member
    simpa [inBlock] using List.mem_takeWhile_imp member
  have behind : lines.dropWhile inBlock = [] ∨
      ∃ lone later, lines.dropWhile inBlock = lone :: later ∧ lone.head? = some 10 := by
    cases rest : lines.dropWhile inBlock with
    | nil => exact Or.inl rfl
    | cons lone later =>
      have outside := List.head?_dropWhile_not inBlock lines
      rw [rest] at outside
      exact Or.inr ⟨lone, later, rfl, by simpa [inBlock] using outside⟩
  have read := cpuInfoLines_block inside behind false info.started
  rw [List.takeWhile_append_dropWhile] at read
  simp only [Bool.false_or] at read
  exact read

theorem nextBlock_subset (lines : List Text) :
    (∀ line ∈ (nextBlock lines).1, line ∈ lines) ∧ ∀ line ∈ (nextBlock lines).2, line ∈ lines := by
  refine ⟨fun line member => (List.takeWhile_prefix _).subset member, fun line member => ?_⟩
  exact (List.dropWhile_suffix _).subset (List.mem_of_mem_tail member)

theorem mem_readBlocks {before block : List Text} {lines : List Text} (member : block ∈ readBlocks before lines) :
    ∀ line ∈ block, line ∈ before ∨ line ∈ lines := by
  induction lines generalizing before with
  | nil =>
    intro line inside
    unfold readBlocks at member
    split at member
    · rcases List.mem_cons.mp member with same | last
      · exact Or.inl (same ▸ inside)
      · rw [List.mem_singleton.mp last] at inside
        cases inside
    · exact Or.inl (List.mem_singleton.mp member ▸ inside)
  | cons first lines ih =>
    intro line inside
    unfold readBlocks at member
    split_ifs at member
    · rcases ih member line inside with here | later
      · rcases List.mem_append.mp here with old | new
        · exact Or.inl old
        · exact Or.inr (List.mem_singleton.mp new ▸ List.mem_cons_self ..)
      · exact Or.inr (List.mem_cons_of_mem _ later)
    · rcases List.mem_cons.mp member with same | later
      · exact Or.inl (same ▸ inside)
      · rcases ih later line inside with absent | behind
        · cases absent
        · exact Or.inr (List.mem_cons_of_mem _ behind)
    · exact Or.inl (List.mem_singleton.mp member ▸ inside)

end Blocks

/-- What the rounds make of the blocks that are left: they go on with the list,
and a new entry is the description of the block that is parsed for it, whatever
is in its place before. -/
structure FoldRun (kept : FieldBytes → Prop) (sysm : SysmT) (files : Text → FileRead) (width done : Nat)
    (blocks : List (List Text)) (cpuInfos final : GrowList SysmCpuInfo) : Prop where
  inBounds : final.InBounds
  number : final.number = count width (done + blocks.length)
  earlier : ∀ k < cpuInfos.number, final.read k = cpuInfos.read k
  later : ∀ k, cpuInfos.number ≤ k → k < final.number →
    ∃ (slot info entry : SysmCpuInfo) (block : List Text), kept slot.vendor ∧ done ≤ k * width ∧
      blocks[k * width - done]? = some block ∧ block.foldlM cpuInfoLine slot.started = some info ∧
      cpuInfoDescribe sysm files k info = some entry ∧ final.read k = some entry

/-- Behind the first block the others are one place further on. -/
theorem getElem?_behind {β : Type} {first x : β} {xs : List β} {done n : Nat} (bound : done + 1 ≤ n)
    (atX : xs[n - (done + 1)]? = some x) : (first :: xs)[n - done]? = some x := by
  rw [show n - done = n - (done + 1) + 1 by omega, List.getElem?_cons_succ, atX]

section Run

variable {kept : FieldBytes → Prop} {sysm : SysmT} {files : Text → FileRead} {width done : Nat} {block : List Text}
  {blocks : List (List Text)} {cpuInfos written next final : GrowList SysmCpuInfo} {slot info entry : SysmCpuInfo}

/-- The block of a processor that gets no entry -/
theorem FoldRun.folded (positive : 0 < width) (number : cpuInfos.number = count width done) (folds : done % width ≠ 0)
    (write : cpuInfos.write cpuInfos.number info = some written)
    (run : FoldRun kept sysm files width (done + 1) blocks written final) :
    FoldRun kept sysm files width done (block :: blocks) cpuInfos final := by
  have same := GrowList.write_number write
  have groups := count_of_not_dvd positive folds
  have parts := Nat.div_add_mod done width
  have less := Nat.mod_lt done positive
  refine ⟨run.inBounds, ?_, fun k old => ?_, fun k new used => ?_⟩
  · rw [run.number, List.length_cons, Nat.add_assoc, Nat.add_comm 1]
  · rw [run.earlier k (by omega), GrowList.read_write write, if_neg (by omega)]
  · obtain ⟨slot, info, entry, block', atSlot, bound, atBlock, parsed, described, read⟩ := run.later k (by omega) used
    exact ⟨slot, info, entry, block', atSlot, by omega, getElem?_behind bound atBlock, parsed, described, read⟩

/-- The block of a processor that gets an entry -/
theorem FoldRun.opened (positive : 0 < width) (number : cpuInfos.number = count width done) (first : done % width = 0)
    (inSlot : kept slot.vendor) (parsed : block.foldlM cpuInfoLine slot.started = some info)
    (described : cpuInfoDescribe sysm files cpuInfos.number info = some entry)
    (count : next.number = cpuInfos.number + 1)
    (others : ∀ k < cpuInfos.number, next.read k = cpuInfos.read k) (stored : next.read cpuInfos.number = some entry)
    (run : FoldRun kept sysm files width (done + 1) blocks next final) :
    FoldRun kept sysm files width done (block :: blocks) cpuInfos final := by
  have groups := count_of_dvd positive first
  have parts := Nat.div_add_mod done width
  have start : cpuInfos.number * width = done := by
    rw [number, groups, Nat.mul_comm]
    omega
  refine ⟨run.inBounds, ?_, fun k old => ?_, fun k new used => ?_⟩
  · rw [run.number, List.length_cons, Nat.add_assoc, Nat.add_comm 1]
  · rw [run.earlier k (by omega), others k old]
  · by_cases here : k = cpuInfos.number
    · subst here
      refine ⟨slot, info, _, block, inSlot, by omega, ?_, parsed, described, ?_⟩
      · rw [start, Nat.sub_self, List.getElem?_cons_zero]
      · rw [run.earlier _ (by omega), stored]
    · obtain ⟨slot, info, entry, block', atSlot, bound, atBlock, parsed, described, read⟩ := run.later k (by omega) used
      exact ⟨slot, info, entry, block', atSlot, by omega, getElem?_behind bound atBlock, parsed, described, read⟩

/-- There is no division by zero with processors to fold. -/
theorem cpuInfoDescribe_some (more : 1 < sysm.lcpu) (files : Text → FileRead) (num : Nat) (info : SysmCpuInfo) :
    ∃ entry, cpuInfoDescribe sysm files num info = some entry := by
  have above : (1 : Int) < sysm.lcpu.toInt := Int32.lt_iff_toInt_lt.mp more
  have nonzero : sysm.lcpu.toUInt32 ≠ 0 := by
    intro zero
    have noCpu : sysm.lcpu = 0 := by rw [← Int32.toInt32_toUInt32 sysm.lcpu, zero]; rfl
    rw [noCpu] at above
    exact absurd above (by decide)
  have sockets : ∃ sockets, sysmCpuSocketCount sysm = Option.some sockets := by
    by_cases fewer : sysm.ncpu < sysm.lcpu.toUInt32
    · exact ⟨_, by rw [sysmCpuSocketCount, if_pos fewer]⟩
    · exact ⟨_, by rw [sysmCpuSocketCount, if_neg fewer, if_neg nonzero]⟩
  obtain ⟨sockets, counted⟩ := sockets
  exact ⟨_, by rw [cpuInfoDescribe, counted]; rfl⟩

/-- The description leaves what the block says, and looks for the frequencies of
the processor with the number of the entry. -/
theorem cpuInfoDescribe_frame {num : Nat} (described : cpuInfoDescribe sysm files num info = some entry) :
    entry.vendor = info.vendor ∧ entry.model = info.model ∧ entry.mhz = info.mhz ∧ entry.cacheSize = info.cacheSize ∧
      entry.RunsAt files num := by
  obtain ⟨sockets, _, same⟩ := Option.bind_eq_some_iff.mp described
  cases same
  exact ⟨rfl, rfl, rfl, rfl, rfl, rfl⟩

theorem nextBlock_less {lines : List Text} (found : (nextBlock lines).1.any isProcessorLine = true) :
    (nextBlock lines).2.length < lines.length := by
  obtain ⟨line, member, _⟩ := List.any_eq_true.mp found
  have positive : 0 < (lines.takeWhile inBlock).length := List.length_pos_of_mem member
  have parts := congrArg List.length (@List.takeWhile_append_dropWhile _ inBlock lines)
  rw [List.length_append] at parts
  rw [nextBlock, List.length_tail]
  omega

/-- The list between two rounds: the cell for the next block is there, and no
cell has a vendor that is not kept. -/
structure BetweenRounds (kept : FieldBytes → Prop) (width done : Nat) (cpuInfos : GrowList SysmCpuInfo) : Prop where
  room : cpuInfos.number < cpuInfos.size
  cells : ∀ index cell, cpuInfos.read index = some cell → kept cell.vendor
  number : cpuInfos.number = count width done

/-- A block that gets no entry changes the next cell. -/
theorem BetweenRounds.folded (between : BetweenRounds kept width done cpuInfos) (positive : 0 < width)
    (folds : done % width ≠ 0) (infoKept : kept info.vendor) (write : cpuInfos.write cpuInfos.number info = some written) :
    BetweenRounds kept width (done + 1) written := by
  obtain ⟨other, write', same, size⟩ := GrowList.write_some between.room info
  cases Option.some.inj (write.symm.trans write')
  have room := between.room
  refine ⟨by omega, fun index cell atCell => ?_, ?_⟩
  · rw [GrowList.read_write write] at atCell
    split at atCell
    · exact Option.some.inj atCell ▸ infoKept
    · exact between.cells index cell atCell
  · rw [same, between.number, count_succ positive, count_of_not_dvd positive folds]

/-- A block that gets an entry goes to the end of the list. -/
theorem BetweenRounds.opened (between : BetweenRounds kept width done cpuInfos) (positive : 0 < width)
    (first : done % width = 0) {memory : Nat → SysmCpuInfo} (inMemory : ∀ i, kept (memory i).vendor)
    (infoKept : kept info.vendor) (entryKept : kept entry.vendor)
    (write : cpuInfos.write cpuInfos.number info = some written) :
    ∃ stored, written.write cpuInfos.number entry = some stored ∧
      ∃ next, next = ({ stored with number := stored.number + 1 } : GrowList SysmCpuInfo).growFull sysmCpuMax memory ∧
        BetweenRounds kept width (done + 1) next ∧ next.number = cpuInfos.number + 1 ∧
          (∀ k < cpuInfos.number, next.read k = cpuInfos.read k) ∧ next.read cpuInfos.number = some entry := by
  obtain ⟨other, write', same, size⟩ := GrowList.write_some between.room info
  cases Option.some.inj (write.symm.trans write')
  have room := between.room
  obtain ⟨stored, store, next, atNext, counted, nextRoom, others, atEntry, origin⟩ :=
    GrowList.write_growFull (by omega : written.number < written.size) (by decide : 0 < sysmCpuMax) memory entry
  rw [same] at store counted others atEntry
  refine ⟨stored, store, next, atNext, ⟨nextRoom, fun index cell atCell => ?_, ?_⟩, counted, fun k old => ?_, atEntry⟩
  · rcases origin index cell atCell with new | old | ⟨i, fresh⟩
    · exact new ▸ entryKept
    · rw [GrowList.read_write write] at old
      split at old
      · exact Option.some.inj old ▸ infoKept
      · exact between.cells index cell old
    · exact fresh ▸ inMemory i
  · rw [counted, between.number, count_succ positive, count_of_dvd positive first]
  · rw [others k old, GrowList.read_write write, if_neg (by omega)]

/-- The last call finds no processor, and leaves the list as it is. -/
theorem FoldRun.last (between : BetweenRounds kept width done cpuInfos)
    (write : cpuInfos.write cpuInfos.number info = some written) : FoldRun kept sysm files width done [] cpuInfos written := by
  obtain ⟨other, write', same, size⟩ := GrowList.write_some between.room info
  cases Option.some.inj (write.symm.trans write')
  have room := between.room
  refine ⟨?_, ?_, fun k old => ?_, fun k new used => ?_⟩
  · show written.number ≤ written.size
    omega
  · rw [same, between.number, List.length_nil, Nat.add_zero]
  · rw [GrowList.read_write write, if_neg (by omega)]
  · omega

/-- The rounds go through all blocks if every line can be read, whatever is in
the memory. -/
theorem cpuInfoRounds_blocks {lcpu : Int32} (atLcpu : sysm.lcpu = lcpu) (more : 1 < lcpu)
    {memory : Nat → SysmCpuInfo} (inMemory : ∀ i, kept (memory i).vendor) {rounds : Nat} {lines : List Text}
    (stored : ∀ block ∈ readBlocks [] lines, ∀ line ∈ block, ∀ info, kept info.vendor →
      ∃ next, cpuInfoLine info line = some next ∧ kept next.vendor)
    (enough : lines.length < rounds) (between : BetweenRounds kept (foldWidth true lcpu) done cpuInfos) :
    ∃ final, cpuInfoRounds sysm true files memory rounds done cpuInfos lines = some final ∧
      FoldRun kept sysm files (foldWidth true lcpu) done (readBlocks [] lines).dropLast cpuInfos final := by
  have positive : 0 < foldWidth true lcpu := foldWidth_pos fun _ => more
  induction rounds generalizing lines done cpuInfos with
  | zero => omega
  | succ rounds ih =>
    have next := readBlocks_next [] lines
    rw [List.nil_append] at next
    have first : (nextBlock lines).1 ∈ readBlocks [] lines := by
      rw [next]
      split
      · exact List.mem_cons_self ..
      · exact List.mem_cons_self ..
    -- the block is parsed over what is in the cell
    obtain ⟨slot, atSlot⟩ : ∃ slot, cpuInfos.read cpuInfos.number = some slot := ⟨_, List.getElem?_eq_getElem between.room⟩
    have inSlot := between.cells _ _ atSlot
    obtain ⟨info, parsed, infoKept⟩ := foldlM_total (stored _ first) (show kept slot.started.vendor from inSlot)
    have read := getCpuInfo_next slot lines
    rw [parsed, Option.map_some] at read
    obtain ⟨written, write, same, _⟩ := GrowList.write_some between.room info
    by_cases found : (nextBlock lines).1.any isProcessorLine = true
    · rw [if_pos found] at next
      rw [next] at stored
      rw [next, List.dropLast_cons_of_ne_nil (readBlocks_ne_nil _ _)]
      rw [found] at read
      have less := nextBlock_less found
      have later (i : Nat) (cpuInfos : GrowList SysmCpuInfo) := @ih i cpuInfos (nextBlock lines).2
        (fun block member => stored block (List.mem_cons_of_mem _ member)) (by omega)
      have folds := @folds_iff true lcpu (fun _ => more) done
      by_cases opens : done % foldWidth true lcpu = 0
      · have first : ¬ (True ∧ Int.tmod done lcpu.toInt ≠ 0) := fun both => folds.mp ⟨rfl, both.2⟩ opens
        obtain ⟨entry, described⟩ := cpuInfoDescribe_some (atLcpu ▸ more : 1 < sysm.lcpu) files cpuInfos.number info
        have entryKept : kept entry.vendor := (cpuInfoDescribe_frame described).1 ▸ infoKept
        obtain ⟨stored', store, next, atNext, between', counted, others, atEntry⟩ :=
          between.opened positive opens inMemory infoKept entryKept write
        obtain ⟨final, run, result⟩ := later (done + 1) next between'
        refine ⟨final, ?_, result.opened positive between.number opens inSlot parsed described counted others atEntry⟩
        rw [atNext] at run
        simp only [cpuInfoRounds, atSlot, read, write, atLcpu, if_neg first, same, described, store, Option.bind_eq_bind,
          Option.bind_some, Bool.not_true, Bool.false_eq_true, if_false, if_true]
        exact run
      · have fold : True ∧ Int.tmod done lcpu.toInt ≠ 0 := ⟨trivial, (folds.mpr opens).2⟩
        obtain ⟨final, run, result⟩ := later (done + 1) written (between.folded positive opens infoKept write)
        refine ⟨final, ?_, result.folded positive between.number opens write⟩
        simp only [cpuInfoRounds, atSlot, read, write, atLcpu, if_pos fold, Option.bind_eq_bind, Option.bind_some,
          Bool.not_true, Bool.false_eq_true, if_false]
        exact run
    · rw [if_neg found] at next
      rw [next, List.dropLast_singleton]
      rw [Bool.not_eq_true] at found
      refine ⟨written, ?_, FoldRun.last between write⟩
      simp only [cpuInfoRounds, atSlot, read, write, found, Option.bind_eq_bind, Option.bind_some, Bool.not_false, if_true,
        Option.pure_def]

end Run

section Folding

variable {cpuinfo : Cpuinfo} {sysm : SysmT} {cpuid : UInt32 → SysmCpuid} {conf : UInt32} {files : Text → FileRead}

theorem readable_of_foldlM {lines : List Text} (wellFormed : ∀ line ∈ lines, InfoLine line) {info next : SysmCpuInfo}
    (run : lines.foldlM cpuInfoLine info = some next) : ∀ line ∈ lines, readableLine line = true := by
  intro line member
  obtain ⟨before, after, here⟩ := foldlM_step run member
  exact (cpuInfoLine_isSome (wellFormed line member) before).mp ⟨after, here⟩

/-- A call that returns has read every line. -/
theorem readable_of_rounds {memory : Nat → SysmCpuInfo} {rounds i : Nat} {cpuInfos final : GrowList SysmCpuInfo}
    {lines : List Text} (wellFormed : ∀ line ∈ lines, InfoLine line)
    (run : cpuInfoRounds sysm true files memory rounds i cpuInfos lines = some final) :
    ∀ block ∈ readBlocks [] lines, ∀ line ∈ block, readableLine line = true := by
  induction rounds generalizing i cpuInfos lines with
  | zero => cases run
  | succ rounds ih =>
    obtain ⟨inLines, inRest⟩ := nextBlock_subset lines
    obtain ⟨slot, _, run⟩ := Option.bind_eq_some_iff.mp run
    obtain ⟨⟨found, info, rest⟩, read, run⟩ := Option.bind_eq_some_iff.mp run
    obtain ⟨written, _, run⟩ := Option.bind_eq_some_iff.mp run
    rw [getCpuInfo_next] at read
    obtain ⟨_, parsed, same⟩ := Option.map_eq_some_iff.mp read
    cases same
    have readable := readable_of_foldlM (fun line member => wellFormed line (inLines line member)) parsed
    have next := readBlocks_next [] lines
    rw [List.nil_append] at next
    rw [next]
    by_cases found : (nextBlock lines).1.any isProcessorLine = true
    · have later : ∃ i cpuInfos, cpuInfoRounds sysm true files memory rounds i cpuInfos (nextBlock lines).2 = some final := by
        simp only [found, Bool.not_true, Bool.false_eq_true, if_false] at run
        split at run
        · exact ⟨_, _, run⟩
        · obtain ⟨_, _, run⟩ := Option.bind_eq_some_iff.mp run
          obtain ⟨_, _, run⟩ := Option.bind_eq_some_iff.mp run
          exact ⟨_, _, run⟩
      obtain ⟨i, cpuInfos, later⟩ := later
      rw [if_pos found]
      intro block member
      rcases List.mem_cons.mp member with same | behind
      · exact same ▸ readable
      · exact ih (fun line inside => wellFormed line (inRest line inside)) later block behind
    · rw [if_neg found]
      intro block member
      exact List.mem_singleton.mp member ▸ readable

/-- With folding, each entry of the list describes one processor whatever is in
the memory. -/
def Cpuinfo.Folds (cpuinfo : Cpuinfo) (sysm : SysmT) (cpuid : UInt32 → SysmCpuid) (conf : UInt32)
    (files : Text → FileRead) : Prop :=
  ∀ memory, ∃ cpuInfos sysm', sysmCpuInfoListGet sysm cpuid conf files memory (.ok cpuinfo.stream) =
    some (.ok cpuInfos, sysm') ∧ cpuinfo.FoldedIn files sysm'.lcpu.toInt.toNat cpuInfos

/-- The memory is kept as long as all lines can be read. -/
theorem cpuInfoRounds_start (more : 1 < sysm.lcpu) {kept : FieldBytes → Prop} {memory : Nat → SysmCpuInfo}
    (inMemory : ∀ i, kept (memory i).vendor)
    (stored : ∀ block ∈ cpuinfo.read, ∀ line ∈ block, ∀ info, kept info.vendor →
      ∃ next, cpuInfoLine info line = some next ∧ kept next.vendor) :
    ∃ final, cpuInfoRounds sysm true files memory (cpuinfo.lines.length + 1) 0 (.create sysmCpuMax memory) cpuinfo.lines =
      some final ∧ FoldRun kept sysm files sysm.lcpu.toInt.toNat 0 cpuinfo.blocks (.create sysmCpuMax memory) final := by
  have positive : 0 < foldWidth true sysm.lcpu := foldWidth_pos fun _ => more
  refine cpuInfoRounds_blocks rfl more inMemory stored (Nat.lt_succ_self _) ⟨?_, ?_, ?_⟩
  · rw [GrowList.create_size]
    exact (by decide : 0 < sysmCpuMax)
  · intro index cell atCell
    have atCell : ((List.range sysmCpuMax).map memory)[index]? = some cell := atCell
    rw [List.getElem?_map] at atCell
    obtain ⟨i, _, same⟩ := Option.map_eq_some_iff.mp atCell
    exact same ▸ inMemory i
  · rw [count_zero positive]
    rfl

theorem sysmCpuInfoListGet_folds (on : (sysmCpuCoreRollup sysm cpuid).1 = true) (memory : Nat → SysmCpuInfo) :
    sysmCpuInfoListGet sysm cpuid conf files memory (.ok cpuinfo.stream) =
      (cpuInfoRounds { (sysmCpuCoreRollup sysm cpuid).2 with ncpu := conf } true files memory (cpuinfo.lines.length + 1) 0
        (.create sysmCpuMax memory) cpuinfo.lines).map fun cpuInfos =>
          (.ok cpuInfos, { (sysmCpuCoreRollup sysm cpuid).2 with ncpu := conf }) := by
  simp only [sysmCpuInfoListGet, on, Cpuinfo.lines, Option.bind_eq_bind, Option.pure_def, Option.map_eq_bind,
    Function.comp_def]

/-- An entry comes from its block if the block names its vendor. -/
theorem comesFrom_of_run {block : List Text} (wellFormed : ∀ line ∈ block, InfoLine line)
    (readable : ∀ line ∈ block, readableLine line = true) (vendor : ∃ line ∈ block, lineField line = some .vendor)
    {slot info entry : SysmCpuInfo} {num : Nat} (parsed : block.foldlM cpuInfoLine slot.started = some info)
    (described : cpuInfoDescribe sysm files num info = some entry) : entry.ComesFrom block := by
  have start : SameReading False slot.started .zero := ⟨rfl, rfl, fun no => no.elim, fun no => no.elim⟩
  obtain ⟨first, second, run, run', same⟩ := start.block wellFormed readable
  cases Option.some.inj (parsed.symm.trans run)
  obtain ⟨sameVendor, sameModel, sameMhz, sameCache, _⟩ := cpuInfoDescribe_frame described
  refine ⟨second, run', ?_, ?_, sameMhz.trans same.mhz, sameCache.trans same.cacheSize⟩
  · rw [sameVendor, same.vendor (Or.inr vendor)]
  · rw [sameModel, same.model (Or.inr vendor)]

theorem Cpuinfo.wellFormed_read (cpuinfo : Cpuinfo) {block : List Text} (member : block ∈ cpuinfo.read) :
    ∀ line ∈ block, InfoLine line := by
  intro line inside
  rcases mem_readBlocks member line inside with absent | inLines
  · cases absent
  · exact cpuinfo.wellFormed inLines

theorem Cpuinfo.mem_blocks {block : List Text} (member : block ∈ cpuinfo.blocks) :
    block ∈ cpuinfo.read ∧ ∀ line ∈ block, InfoLine line :=
  ⟨List.mem_of_mem_dropLast member, cpuinfo.wellFormed_read (List.mem_of_mem_dropLast member)⟩

theorem folds_of_foldable (on : (sysmCpuCoreRollup sysm cpuid).1 = true)
    (foldable : cpuinfo.Foldable files (sysmCpuCoreRollup sysm cpuid).2.lcpu.toInt.toNat) :
    cpuinfo.Folds sysm cpuid conf files := by
  intro memory
  have more : 1 < ({ (sysmCpuCoreRollup sysm cpuid).2 with ncpu := conf } : SysmT).lcpu := rollup_more on
  obtain ⟨final, run, result⟩ := @cpuInfoRounds_start cpuinfo _ files more (fun _ => True) memory (fun _ => trivial)
    fun block member line inside info _ => by
      obtain ⟨next, read⟩ := (cpuInfoLine_isSome (cpuinfo.wellFormed_read member line inside) info).mpr
        (foldable.readable block member line inside)
      exact ⟨next, read, trivial⟩
  refine ⟨final, _, by rw [sysmCpuInfoListGet_folds on, run, Option.map_some], result.inBounds, ?_, fun k entry atEntry => ?_⟩
  · rw [result.number, Nat.zero_add]
  · obtain ⟨used, _⟩ := List.getElem?_eq_some_iff.mp atEntry
    rw [GrowList.length_items result.inBounds] at used
    obtain ⟨slot, info, entry', block, _, _, atBlock, parsed, described, read⟩ := result.later k (Nat.zero_le _) used
    rw [GrowList.items_getElem? used, read] at atEntry
    cases atEntry
    rw [Nat.sub_zero] at atBlock
    obtain ⟨inRead, wellFormed⟩ := Cpuinfo.mem_blocks (List.mem_of_getElem? atBlock)
    obtain ⟨inside, _⟩ := List.getElem?_eq_some_iff.mp atBlock
    have same := foldable.frequencies k inside
    have frame := (cpuInfoDescribe_frame described).2.2.2.2
    refine ⟨block, atBlock, comesFrom_of_run wellFormed (foldable.readable block inRead)
      (foldable.vendors k block atBlock) parsed described, ?_, ?_⟩
    · rw [frame.max]
      exact same _ (by simp)
    · rw [frame.min]
      exact same _ (by simp)

theorem foldlM_vendor {lines : List Text} (wellFormed : ∀ line ∈ lines, InfoLine line)
    (noVendor : ∀ line ∈ lines, lineField line ≠ some .vendor) {info next : SysmCpuInfo}
    (run : lines.foldlM cpuInfoLine info = some next) : next.vendor = info.vendor := by
  refine foldlM_invariant (P := fun state => state.vendor = info.vendor) (fun line member state other same step => ?_) rfl run
  show other.vendor = info.vendor
  rw [cpuInfoLine_vendor (wellFormed line member) (noVendor line member) step, same]

/-- With something in the memory, no entry is without a vendor, so each one has
one from its block. -/
theorem foldable_of_folds (on : (sysmCpuCoreRollup sysm cpuid).1 = true) (folds : cpuinfo.Folds sysm cpuid conf files) :
    cpuinfo.Foldable files (sysmCpuCoreRollup sysm cpuid).2.lcpu.toInt.toNat := by
  have more : 1 < ({ (sysmCpuCoreRollup sysm cpuid).2 with ncpu := conf } : SysmT).lcpu := rollup_more on
  obtain ⟨cpuInfos, sysm', returned, foldedIn⟩ := folds fun _ => { SysmCpuInfo.zero with vendor := Vector.replicate 128 1 }
  rw [sysmCpuInfoListGet_folds on] at returned
  obtain ⟨listed, run, same⟩ := Option.map_eq_some_iff.mp returned
  cases same
  have readable := readable_of_rounds (fun line member => cpuinfo.wellFormed member) run
  obtain ⟨final, run', result⟩ := @cpuInfoRounds_start cpuinfo _ files more (fun field => field.toList.head? ≠ some 0)
    (fun _ => { SysmCpuInfo.zero with vendor := Vector.replicate 128 1 }) (fun _ => by decide)
    fun block member line inside info kept => by
      have wellFormed := cpuinfo.wellFormed_read member line inside
      obtain ⟨next, read⟩ := (cpuInfoLine_isSome wellFormed info).mpr (readable block member line inside)
      exact ⟨next, read, cpuInfoLine_keeps_vendor wellFormed kept read⟩
  cases Option.some.inj (run.symm.trans run')
  have positive : 0 < (sysmCpuCoreRollup sysm cpuid).2.lcpu.toInt.toNat := @foldWidth_pos true _ fun _ => more
  -- what the entry for a block shows
  have entry : ∀ k, k * (sysmCpuCoreRollup sysm cpuid).2.lcpu.toInt.toNat < cpuinfo.blocks.length →
      ∃ (slot info entry : SysmCpuInfo) (block : List Text), slot.vendor.toList.head? ≠ some 0 ∧
        cpuinfo.blocks[k * (sysmCpuCoreRollup sysm cpuid).2.lcpu.toInt.toNat]? = some block ∧
          block.foldlM cpuInfoLine slot.started = some info ∧
            cpuInfoDescribe { (sysmCpuCoreRollup sysm cpuid).2 with ncpu := conf } files k info = some entry ∧
              entry.ComesFrom block ∧ entry.RunsAt files (k * (sysmCpuCoreRollup sysm cpuid).2.lcpu.toInt.toNat) := by
    intro k inside
    have used : k < cpuInfos.number := by
      rw [foldedIn.number]
      exact (lt_count_iff positive).mpr inside
    obtain ⟨slot, info, entry, block, kept, _, atBlock, parsed, described, read⟩ := result.later k (Nat.zero_le _) used
    rw [Nat.sub_zero] at atBlock
    obtain ⟨block', atBlock', comes, runs⟩ := foldedIn.described k entry (by rw [GrowList.items_getElem? used, read])
    cases Option.some.inj (atBlock.symm.trans atBlock')
    exact ⟨slot, info, entry, block, kept, atBlock, parsed, described, comes, runs⟩
  refine ⟨readable, fun k block atBlock => ?_, fun k inside => ?_⟩
  · obtain ⟨inside, _⟩ := List.getElem?_eq_some_iff.mp atBlock
    obtain ⟨slot, info, entry, block', kept, atBlock', parsed, described, comes, _⟩ := entry k inside
    cases Option.some.inj (atBlock.symm.trans atBlock')
    by_contra none
    have noVendor : ∀ line ∈ block, lineField line ≠ some .vendor := fun line member isVendor => none ⟨line, member, isVendor⟩
    have wellFormed := (Cpuinfo.mem_blocks (List.mem_of_getElem? atBlock)).2
    obtain ⟨alone, parsedAlone, vendor, _⟩ := comes.parsed
    have empty : alone.vendor = Vector.replicate 128 0 := foldlM_vendor wellFormed noVendor parsedAlone
    have through := foldlM_vendor wellFormed noVendor parsed
    have left : entry.vendor = slot.vendor := (cpuInfoDescribe_frame described).1.trans through
    have length : slot.vendor.toList.length = 128 := Vector.length_toList
    obtain ⟨c, others, bytes⟩ := List.exists_cons_of_length_pos (l := slot.vendor.toList) (by omega)
    have nothing : ofBuffer (Vector.replicate 128 (0 : UInt8)).toList = [] := by decide
    rw [bytes, List.head?_cons] at kept
    have other : c ≠ 0 := fun zero => kept (congrArg some zero)
    rw [left, empty, nothing, bytes, ofBuffer, List.takeWhile_cons_of_pos (by simpa using other)] at vendor
    cases vendor
  · obtain ⟨slot, info, entry, block, _, _, _, described, _, runs⟩ := entry k inside
    have frame := (cpuInfoDescribe_frame described).2.2.2.2
    intro name member
    rcases List.mem_cons.mp member with same | other
    · rw [same, ← frame.max, runs.max]
    · rw [List.mem_singleton.mp other, ← frame.min, runs.min]

end Folding

/-- The blocks of four processors -/
def fourBlocks : List UInt8 :=
  (List.range 4).flatMap fun i => ofString "processor\t: " ++ decimal i ++ 10 :: (intelLines.tail.flatten ++ [10])

theorem fourBlocks_ended : ∀ line ∈ fgetsAll BUFSIZ fourBlocks, line.getLast? = some 10 := by decide +kernel

theorem fourBlocks_valued : ∀ line ∈ fgetsAll BUFSIZ fourBlocks, lineField line ≠ none → 58 ∈ line := by decide +kernel

def fourProcessors : Cpuinfo := ⟨fourBlocks, fourBlocks_ended, fourBlocks_valued⟩

/-- The files of processors that are alike. -/
def evenFiles : Text → FileRead := fun _ => .bytes (ofString "3000000\n")

/-- The first two of four processors run faster than the others. -/
def mixedFiles (path : Text) : FileRead :=
  if path = cpuFreqFile 0 "cpuinfo_max_freq" ∨ path = cpuFreqFile 1 "cpuinfo_max_freq" then .bytes (ofString "3000000\n")
  else .bytes (ofString "2000000\n")

end Sysm
