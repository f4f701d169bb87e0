import Sysm.CpuInfoFields

namespace Sysm
open CString

/-- The fields that `get_cpu_info` sets. -/
inductive CpuInfoField where
  | vendor | model | mhz | cacheSize
deriving Repr, DecidableEq

/-- The field that a line is for. -/
def lineField (line : Text) : Option CpuInfoField :=
  if (ofString "vendor").isPrefixOf line then some .vendor
  else if (ofString "family").isPrefixOf line then some .model
  else if (ofString "model name").isPrefixOf line then some .model
  else if (ofString "cpu MHz").isPrefixOf line then some .mhz
  else if (ofString "cache size").isPrefixOf line then some .cacheSize
  else none

def withoutNewline (line : Text) : Text := if line.getLast? = some 10 then line.dropLast else line

/-- The lines of a block, as `fgets` brings them one after the other. A line for
a field has a value, which may be empty, and no field has two lines. -/
structure CpuInfoBlock where
  lines : List Text
  noNul : ∀ line ∈ lines, ∀ c ∈ line, c ≠ 0
  started : ∀ line ∈ lines, ∃ c, line.head? = some c ∧ c ≠ 10
  valued : ∀ line ∈ lines, lineField line ≠ none → 58 ∈ line
  once : ∀ field, (lines.filter fun line => lineField line == some field).length ≤ 1

/-- The indices into the field with which `cpu_info_strcpy` writes. -/
def copyIndices (value : Text) : List Int :=
  (List.range cpuInfoLen).map Int.ofNat ++ [(cpuInfoLen : Int)] ++
    if value.length < cpuInfoLen then [(value.length : Int) - 1] else []

/-- The indices into the copy of the model with which `sysm_cpu_model_adjust`
looks for its end and for the blanks at its end. -/
def trimIndices (text : Text) : List Int :=
  (List.range (text.length + 1)).map Int.ofNat ++
    (List.range ((text.reverse.takeWhile (· == 32)).length + 1)).map fun i => (text.length : Int) - 1 - i

/-- The indices with which a line accesses the field that it sets. -/
def fieldIndices (info : SysmCpuInfo) (line : Text) : List Int :=
  match lineField line, cpuInfoStrval line with
  | some .vendor, some value => copyIndices value
  | some .model, some value =>
    let text := ofBuffer (copiedField value).toList
    let adjusted := adjustedModel (ofBuffer (info.vendor.toList ++ (copiedField value).toList)) text
    copyIndices value ++ trimIndices text ++ (List.range (adjusted.length + 1)).map Int.ofNat
  | _, _ => []

/-- No line for the model is before one for the vendor. -/
def VendorFirst (lines : List Text) : Prop :=
  ∀ before line after, lines = before ++ line :: after → lineField line = some .model →
    ∀ other ∈ after, lineField other ≠ some .vendor

/-- The record as `get_cpu_info` starts with it. -/
def SysmCpuInfo.started (info : SysmCpuInfo) : SysmCpuInfo := { info with mhz := 0, cacheSize := 0 }

/-- The line is read with this record. -/
def CpuInfoBlock.ReadsWith (block : CpuInfoBlock) (info : SysmCpuInfo) (line : Text) (state : SysmCpuInfo) : Prop :=
  ∃ before after, block.lines = before ++ line :: after ∧ before.foldlM cpuInfoLine info.started = some state

/-- Each line of the block leaves the other fields alone. -/
structure CpuInfoBlock.StaysInFields (block : CpuInfoBlock) (info : SysmCpuInfo) : Prop where
  vendorFrame : ∀ line state next, block.ReadsWith info line state → lineField line = some .vendor →
    cpuInfoLine state line = some next → next.model = state.model
  modelFrame : ∀ line state next, block.ReadsWith info line state → lineField line = some .model →
    cpuInfoLine state line = some next → next.mhz = state.mhz
  inside : ∀ line state, block.ReadsWith info line state → ∀ index ∈ fieldIndices state line, 0 ≤ index ∧ index < cpuInfoLen
  permuted : ∀ lines, (lines.map withoutNewline).Perm (block.lines.map withoutNewline) →
    (VendorFirst block.lines → VendorFirst lines) → getCpuInfo info lines = getCpuInfo info block.lines

/-- The lines of a block are read one after the other up to its end. -/
theorem cpuInfoLines_block {lines rest : List Text} (started : ∀ line ∈ lines, line.head? ≠ some 10)
    (ended : rest = [] ∨ ∃ lone later, rest = lone :: later ∧ lone.head? = some 10) (found : Bool) (info : SysmCpuInfo) :
    cpuInfoLines found info (lines ++ rest) =
      (lines.foldlM cpuInfoLine info).map fun info => (found || lines.any isProcessorLine, info, rest.tail) := by
  induction lines generalizing found info with
  | nil =>
    rcases ended with nothing | ⟨lone, later, atRest, newline⟩
    · simp [nothing, cpuInfoLines]
    · simp [atRest, cpuInfoLines, newline]
  | cons line lines ih =>
    have inLine := started line (List.mem_cons_self ..)
    have later := fun found info => ih (fun other member => started other (List.mem_cons_of_mem _ member)) found info
    rw [List.cons_append, cpuInfoLines, if_neg inLine, List.foldlM_cons]
    cases cpuInfoLine info line with
    | none => rfl
    | some next =>
      simp only [Option.bind_eq_bind, Option.bind_some, later, List.any_cons, Bool.or_assoc]

theorem lineField_cases (info : SysmCpuInfo) (line : Text) :
    (lineField line = some .vendor ∧ cpuInfoLine info line = cpuInfoVendor info line) ∨
      (lineField line = some .model ∧ cpuInfoLine info line = cpuInfoModel info line) ∨
      (lineField line = some .mhz ∧ cpuInfoLine info line =
        (cpuInfoStrval line).map fun ptr => { info with mhz := Int32.ofInt (strtol 10 ptr) }) ∨
      (lineField line = some .cacheSize ∧ cpuInfoLine info line =
        (cpuInfoStrval line).map fun ptr => { info with cacheSize := UInt64.ofInt (strtol 10 ptr) }) ∨
      (lineField line = none ∧ cpuInfoLine info line = some info) := by
  unfold lineField cpuInfoLine
  split_ifs
  · exact Or.inl ⟨rfl, rfl⟩
  · exact Or.inr (Or.inl ⟨rfl, rfl⟩)
  · exact Or.inr (Or.inl ⟨rfl, rfl⟩)
  · exact Or.inr (Or.inr (Or.inl ⟨rfl, rfl⟩))
  · exact Or.inr (Or.inr (Or.inr (Or.inl ⟨rfl, rfl⟩)))
  · exact Or.inr (Or.inr (Or.inr (Or.inr ⟨rfl, rfl⟩)))

theorem cpuInfoLine_of_vendor {line : Text} (isVendor : lineField line = some .vendor) (info : SysmCpuInfo) :
    cpuInfoLine info line = cpuInfoVendor info line := by
  rcases lineField_cases info line with ⟨_, run⟩ | ⟨isModel, _⟩ | ⟨isMhz, _⟩ | ⟨isCache, _⟩ | ⟨isNone, _⟩
  · exact run
  · simp [isVendor] at isModel
  · simp [isVendor] at isMhz
  · simp [isVendor] at isCache
  · simp [isVendor] at isNone

theorem cpuInfoLine_of_model {line : Text} (isModel : lineField line = some .model) (info : SysmCpuInfo) :
    cpuInfoLine info line = cpuInfoModel info line := by
  rcases lineField_cases info line with ⟨isVendor, _⟩ | ⟨_, run⟩ | ⟨isMhz, _⟩ | ⟨isCache, _⟩ | ⟨isNone, _⟩
  · simp [isModel] at isVendor
  · exact run
  · simp [isModel] at isMhz
  · simp [isModel] at isCache
  · simp [isModel] at isNone

/-- A line with a colon has a value. -/
theorem strval_some {line : Text} (colon : 58 ∈ line) : ∃ value, cpuInfoStrval line = some value := by
  obtain ⟨before, after, rfl, plain⟩ := List.eq_append_cons_of_mem colon
  have before : ∀ c ∈ before, c ≠ 58 := fun c member same => plain (same ▸ member)
  exact ⟨_, by rw [cpuInfoStrval, strchr_append before, Option.map_some]⟩

section Newline

variable {line other key : Text}

theorem withoutNewline_eq (line : Text) : line = withoutNewline line ∨ line = withoutNewline line ++ [10] := by
  unfold withoutNewline
  split
  · next last => exact Or.inr (List.dropLast_append_getLast? 10 last).symm
  · exact Or.inl rfl

theorem isPrefixOf_newline (plain : 10 ∉ key) (line : Text) : key.isPrefixOf (line ++ [10]) = key.isPrefixOf line := by
  rw [Bool.eq_iff_iff, List.isPrefixOf_iff_prefix, List.isPrefixOf_iff_prefix, List.prefix_concat_iff]
  refine ⟨fun either => either.resolve_left fun whole => plain ?_, Or.inr⟩
  rw [whole]
  simp

theorem lineField_newline (line : Text) : lineField (line ++ [10]) = lineField line := by
  simp only [lineField, isPrefixOf_newline (by decide : 10 ∉ ofString "vendor"),
    isPrefixOf_newline (by decide : 10 ∉ ofString "family"), isPrefixOf_newline (by decide : 10 ∉ ofString "model name"),
    isPrefixOf_newline (by decide : 10 ∉ ofString "cpu MHz"), isPrefixOf_newline (by decide : 10 ∉ ofString "cache size")]

theorem isProcessorLine_newline (line : Text) : isProcessorLine (line ++ [10]) = isProcessorLine line :=
  isPrefixOf_newline (by decide) line

theorem readSign_newline {s : Text} (nonempty : s ≠ []) : readSign (s ++ [10]) = ((readSign s).1, (readSign s).2 ++ [10]) := by
  obtain ⟨c, rest, rfl⟩ := List.exists_cons_of_ne_nil nonempty
  by_cases minus : c = 45
  · subst minus
    rfl
  · by_cases plus : c = 43
    · subst plus
      rfl
    · have noSign (rest : Text) : readSign (c :: rest) = (false, c :: rest) := by
        unfold readSign
        split
        · next same => exact absurd (List.cons.inj same).1 minus
        · next same => exact absurd (List.cons.inj same).1 plus
        · rfl
      rw [List.cons_append, noSign, noSign, List.cons_append]

/-- A newline behind a number does not matter. -/
theorem strtol_newline (s : Text) : strtol 10 (s ++ [10]) = strtol 10 s := by
  have digits (body : Text) : (body ++ [10]).takeWhile (fun c => decide (digitVal c < 10)) =
      body.takeWhile fun c => decide (digitVal c < 10) := by
    have stops : [(10 : UInt8)].takeWhile (fun c => decide (digitVal c < 10)) = [] := by decide
    rw [List.takeWhile_append, stops, List.append_nil]
    split
    · next whole => exact ((List.takeWhile_prefix _).eq_of_length whole).symm
    · rfl
  have blank : [(10 : UInt8)].dropWhile isSpace = [] := by decide
  simp only [strtol, List.dropWhile_append, blank]
  by_cases empty : s.dropWhile isSpace = []
  · simp only [empty, List.isEmpty_nil, if_true]
  · have visible : (s.dropWhile isSpace).isEmpty = false := by simpa using empty
    simp only [visible, Bool.false_eq_true, if_false, readSign_newline empty, show ¬ (10 = 16) by omega, digits]

theorem strval_none (absent : 58 ∉ line) : cpuInfoStrval line = none := by
  have all : line.dropWhile (· != 58) = [] := by
    rw [List.dropWhile_eq_nil_iff]
    intro c member
    have other : c ≠ 58 := fun same => absent (same ▸ member)
    simpa using other
  simp only [cpuInfoStrval, strchr, all, Option.map_none]

theorem strval_newline (line : Text) :
    cpuInfoStrval (line ++ [10]) = (cpuInfoStrval line).map fun value => if value = [] then [] else value ++ [10] := by
  by_cases colon : 58 ∈ line
  · obtain ⟨before, after, rfl, plain⟩ := List.eq_append_cons_of_mem colon
    have apart : ∀ c ∈ before, c ≠ 58 := fun c member same => plain (same ▸ member)
    have blank : [(10 : UInt8)].dropWhile isSpace = [] := by decide
    rw [List.append_assoc, List.cons_append, cpuInfoStrval, strchr_append apart, Option.map_some, List.tail_cons,
      List.dropWhile_append, blank, cpuInfoStrval, strchr_append apart, Option.map_some, List.tail_cons, Option.map_some]
    simp only [List.isEmpty_iff]
  · have still : 58 ∉ line ++ [10] := by simpa using colon
    rw [strval_none colon, strval_none still, Option.map_none]

/-- What a line sets `mhz` to. -/
def mhzValue (line : Text) : Option Int32 :=
  if lineField line = some .mhz then (cpuInfoStrval line).map fun ptr => Int32.ofInt (strtol 10 ptr) else none

/-- What a line sets `cache_size` to. -/
def cacheValue (line : Text) : Option UInt64 :=
  if lineField line = some .cacheSize then (cpuInfoStrval line).map fun ptr => UInt64.ofInt (strtol 10 ptr) else none

theorem lineField_of_mhzValue (line : Text) (set : mhzValue line ≠ none) : lineField line = some .mhz := by
  by_contra other
  exact set (if_neg other)

theorem lineField_of_cacheValue (line : Text) (set : cacheValue line ≠ none) : lineField line = some .cacheSize := by
  by_contra other
  exact set (if_neg other)

theorem strtol_strval_newline (line : Text) :
    (cpuInfoStrval (line ++ [10])).map (strtol 10) = (cpuInfoStrval line).map (strtol 10) := by
  rw [strval_newline, Option.map_map]
  refine congrFun (congrArg _ (funext fun value => ?_)) _
  by_cases empty : value = []
  · simp [empty]
  · simp [empty, strtol_newline]

theorem mhzValue_newline (line : Text) : mhzValue (line ++ [10]) = mhzValue line := by
  have same := congrArg (Option.map Int32.ofInt) (strtol_strval_newline line)
  rw [Option.map_map, Option.map_map] at same
  simp only [mhzValue, lineField_newline]
  exact if_congr Iff.rfl same rfl

theorem cacheValue_newline (line : Text) : cacheValue (line ++ [10]) = cacheValue line := by
  have same := congrArg (Option.map UInt64.ofInt) (strtol_strval_newline line)
  rw [Option.map_map, Option.map_map] at same
  simp only [cacheValue, lineField_newline]
  exact if_congr Iff.rfl same rfl

/-- What does not depend on a newline at the end. -/
theorem withoutNewline_of_newline {β : Type} {f : Text → β} (same : ∀ line, f (line ++ [10]) = f line) (line : Text) :
    f (withoutNewline line) = f line := by
  rcases withoutNewline_eq line with kept | cut
  · rw [← kept]
  · conv_rhs => rw [cut, same]

theorem started_withoutNewline (line : Text) :
    (∃ c, (withoutNewline line).head? = some c ∧ c ≠ 10) ↔ ∃ c, line.head? = some c ∧ c ≠ 10 := by
  rcases withoutNewline_eq line with kept | newlined
  · rw [← kept]
  · conv_rhs => rw [newlined]
    cases withoutNewline line with
    | nil => simp
    | cons first rest => simp

/-- What is asked of each line, whether or not it ends with a newline, can be
asked of the same lines in any order. -/
theorem forall_of_perm {P : Text → Prop} (same : ∀ line, P (withoutNewline line) ↔ P line) {lines lines' : List Text}
    (perm : (lines'.map withoutNewline).Perm (lines.map withoutNewline)) (all : ∀ line ∈ lines, P line) :
    ∀ line ∈ lines', P line := by
  intro line member
  obtain ⟨own, inside, cut⟩ := List.mem_map.mp (perm.mem_iff.mp (List.mem_map_of_mem member))
  have here := (same own).mpr (all own inside)
  rw [cut] at here
  exact (same line).mp here

end Newline

section Block

variable {info : SysmCpuInfo} {lines lines' : List Text}

/-- A line for neither of the two texts sets a number or nothing. -/
theorem cpuInfoLine_number {line : Text} (vendor : lineField line ≠ some .vendor) (model : lineField line ≠ some .model)
    (valued : lineField line ≠ none → 58 ∈ line) (info : SysmCpuInfo) :
    cpuInfoLine info line = some { info with
      mhz := (mhzValue line).getD info.mhz
      cacheSize := (cacheValue line).getD info.cacheSize } := by
  rcases lineField_cases info line with ⟨isVendor, _⟩ | ⟨isModel, _⟩ | ⟨isMhz, run⟩ | ⟨isCache, run⟩ | ⟨isNone, run⟩
  · exact absurd isVendor vendor
  · exact absurd isModel model
  · obtain ⟨value, read⟩ := strval_some (valued (by simp [isMhz]))
    simp [run, read, mhzValue, cacheValue, isMhz]
  · obtain ⟨value, read⟩ := strval_some (valued (by simp [isCache]))
    simp [run, read, mhzValue, cacheValue, isCache]
  · simp [run, mhzValue, cacheValue, isNone]

theorem getLast?_filterMap_cons {β : Type} (f : Text → Option β) (line : Text) (lines : List Text) (start : β) :
    ((line :: lines).filterMap f).getLast?.getD start = (lines.filterMap f).getLast?.getD ((f line).getD start) := by
  cases value : f line with
  | none => rw [List.filterMap_cons_none value, Option.getD_none]
  | some found => rw [List.filterMap_cons_some value, List.getLast?_cons, Option.getD_some, Option.getD_some]

/-- Such lines set each number to the last value for it. -/
theorem foldlM_numbers (numbers : ∀ line ∈ lines, lineField line ≠ some .vendor ∧ lineField line ≠ some .model)
    (valued : ∀ line ∈ lines, lineField line ≠ none → 58 ∈ line) (info : SysmCpuInfo) :
    lines.foldlM cpuInfoLine info = some { info with
      mhz := (lines.filterMap mhzValue).getLast?.getD info.mhz
      cacheSize := (lines.filterMap cacheValue).getLast?.getD info.cacheSize } := by
  induction lines generalizing info with
  | nil => rfl
  | cons line lines ih =>
    have first := numbers line (List.mem_cons_self ..)
    have step := cpuInfoLine_number first.1 first.2 (valued line (List.mem_cons_self ..)) info
    rw [List.foldlM_cons, step, Option.bind_eq_bind, Option.bind_some,
      ih (fun other member => numbers other (List.mem_cons_of_mem _ member))
        (fun other member => valued other (List.mem_cons_of_mem _ member)), getLast?_filterMap_cons,
      getLast?_filterMap_cons]

/-- A field with one line at most does not depend on the order of the lines. -/
theorem filterMap_perm {β : Type} {f : Text → Option β} {field : CpuInfoField}
    (only : ∀ line, f line ≠ none → lineField line = some field) (same : ∀ line, f (line ++ [10]) = f line)
    (perm : (lines'.map withoutNewline).Perm (lines.map withoutNewline))
    (once : (lines.filter fun line => lineField line == some field).length ≤ 1) :
    lines'.filterMap f = lines.filterMap f := by
  have cut : (fun line => f (withoutNewline line)) = f := funext (withoutNewline_of_newline same)
  have values := perm.filterMap f
  rw [List.filterMap_map, List.filterMap_map] at values
  have values : (lines'.filterMap f).Perm (lines.filterMap f) := by
    have values' := values
    simp only [Function.comp_def, cut] at values'
    exact values'
  have ofField : (lines.filter fun line => lineField line == some field).filterMap f = lines.filterMap f := by
    rw [List.filterMap_filter]
    refine congrFun (congrArg _ (funext fun line => ?_)) _
    by_cases isField : lineField line = some field
    · simp [isField]
    · have unset : f line = none := by
        by_contra set
        exact isField (only line set)
      simp [unset]
  have few : (lines.filterMap f).length ≤ 1 := by
    rw [← ofField]
    exact (List.length_filterMap_le _ _).trans once
  rcases Nat.lt_or_ge 0 (lines.filterMap f).length with one | nothing
  · obtain ⟨value, isOne⟩ := List.length_eq_one_iff.mp (by omega : (lines.filterMap f).length = 1)
    rw [isOne] at values ⊢
    exact values.eq_singleton
  · have isNil := List.length_eq_zero_iff.mp (by omega : (lines.filterMap f).length = 0)
    rw [isNil] at values ⊢
    exact values.eq_nil

end Block

namespace CpuInfoBlock

variable {block : CpuInfoBlock} {info : SysmCpuInfo}

/-- Some line of the block is for the vendor or for the model. -/
def HasText (block : CpuInfoBlock) : Prop :=
  ∃ line ∈ block.lines, lineField line = some .vendor ∨ lineField line = some .model

/-- The NUL behind a copied value is always stored behind the field. -/
theorem mem_fieldIndices {line : Text} {value : Text} (read : cpuInfoStrval line = some value)
    (text : lineField line = some .vendor ∨ lineField line = some .model) (state : SysmCpuInfo) :
    (cpuInfoLen : Int) ∈ fieldIndices state line := by
  rcases text with vendor | model
  · simp [fieldIndices, vendor, read, copyIndices]
  · simp [fieldIndices, model, read, copyIndices]

theorem not_hasText_of_staysInFields (stays : block.StaysInFields info) : ¬ block.HasText := by
  rintro ⟨line, member, text⟩
  -- the first of such lines is read with some record
  let isText := fun line => decide (lineField line = some .vendor ∨ lineField line = some .model)
  have found : (block.lines.find? isText).isSome = true :=
    List.find?_isSome.mpr ⟨line, member, decide_eq_true text⟩
  obtain ⟨first, atFirst⟩ := Option.isSome_iff_exists.mp found
  obtain ⟨isFirst, before, after, split, others⟩ := List.find?_eq_some_iff_append.mp atFirst
  have inBefore : ∀ other ∈ before, other ∈ block.lines := fun other here => by
    rw [split]
    exact List.mem_append_left _ here
  have inBlock : first ∈ block.lines := List.mem_of_find?_eq_some atFirst
  have isText' : lineField first = some .vendor ∨ lineField first = some .model := of_decide_eq_true isFirst
  have numbers : ∀ other ∈ before, lineField other ≠ some .vendor ∧ lineField other ≠ some .model := by
    intro other here
    have absent := others other here
    simpa [isText, not_or] using absent
  have run := foldlM_numbers numbers (fun other here => block.valued other (inBefore other here)) info.started
  have recognised : lineField first ≠ none := by
    rcases isText' with vendor | model
    · simp [vendor]
    · simp [model]
  obtain ⟨value, read⟩ := strval_some (block.valued first inBlock recognised)
  have outside := stays.inside first _ ⟨before, after, split, run⟩ _ (mem_fieldIndices read isText' _)
  omega

theorem getCpuInfo_perm (numbers : ∀ line ∈ block.lines, lineField line ≠ some .vendor ∧ lineField line ≠ some .model)
    {lines : List Text} (perm : (lines.map withoutNewline).Perm (block.lines.map withoutNewline)) :
    getCpuInfo info lines = getCpuInfo info block.lines := by
  have field := withoutNewline_of_newline lineField_newline
  have colon := @withoutNewline_of_newline Prop (fun line => 58 ∈ line) fun line => by simp
  have numbers' : ∀ line ∈ lines, lineField line ≠ some .vendor ∧ lineField line ≠ some .model :=
    forall_of_perm (P := fun line => lineField line ≠ some .vendor ∧ lineField line ≠ some .model)
      (fun line => by simp only [field]) perm numbers
  have valued' : ∀ line ∈ lines, lineField line ≠ none → 58 ∈ line :=
    forall_of_perm (P := fun line => lineField line ≠ none → 58 ∈ line) (fun line => by simp only [field, colon]) perm
      block.valued
  have started' : ∀ line ∈ lines, ∃ c, line.head? = some c ∧ c ≠ 10 :=
    forall_of_perm (P := fun line => ∃ c, line.head? = some c ∧ c ≠ 10) started_withoutNewline perm block.started
  have inLine {lines : List Text} (started : ∀ line ∈ lines, ∃ c, line.head? = some c ∧ c ≠ 10) :
      ∀ line ∈ lines, line.head? ≠ some 10 := by
    intro line member newline
    obtain ⟨c, head, other⟩ := started line member
    exact other (Option.some.inj (head.symm.trans newline))
  have mhz := filterMap_perm lineField_of_mhzValue mhzValue_newline perm (block.once .mhz)
  have cache := filterMap_perm lineField_of_cacheValue cacheValue_newline perm (block.once .cacheSize)
  have processor : isProcessorLine ∘ withoutNewline = isProcessorLine :=
    funext (withoutNewline_of_newline isProcessorLine_newline)
  have processors : lines.any isProcessorLine = block.lines.any isProcessorLine := by
    have any := perm.any_eq (f := isProcessorLine)
    rwa [List.any_map, List.any_map, processor] at any
  have read := cpuInfoLines_block (inLine started') (Or.inl rfl) false info.started
  have read' := cpuInfoLines_block (inLine block.started) (Or.inl rfl) false info.started
  rw [List.append_nil, foldlM_numbers numbers' valued', mhz, cache, processors] at read
  rw [List.append_nil, foldlM_numbers numbers block.valued] at read'
  exact read.trans read'.symm

theorem staysInFields_of_not_hasText (noText : ¬ block.HasText) : block.StaysInFields info := by
  have numbers : ∀ line ∈ block.lines, lineField line ≠ some .vendor ∧ lineField line ≠ some .model :=
    fun line member => ⟨fun vendor => noText ⟨line, member, Or.inl vendor⟩, fun model => noText ⟨line, member, Or.inr model⟩⟩
  have inBlock {line : Text} {state : SysmCpuInfo} (reads : block.ReadsWith info line state) : line ∈ block.lines := by
    obtain ⟨before, after, split, _⟩ := reads
    rw [split]
    simp
  refine ⟨?_, ?_, ?_, fun lines perm _ => getCpuInfo_perm numbers perm⟩
  · intro line state next reads vendor
    exact absurd vendor (numbers line (inBlock reads)).1
  · intro line state next reads model
    exact absurd model (numbers line (inBlock reads)).2
  · intro line state reads index member
    obtain ⟨vendor, model⟩ := numbers line (inBlock reads)
    have nothing : fieldIndices state line = [] := by
      unfold fieldIndices
      split
      · next isVendor _ => exact absurd isVendor vendor
      · next isModel _ => exact absurd isModel model
      · rfl
    rw [nothing] at member
    cases member

/-- A block is read inside of its fields exactly if it has neither a vendor nor a
model. -/
theorem staysInFields_iff (block : CpuInfoBlock) (info : SysmCpuInfo) : block.StaysInFields info ↔ ¬ block.HasText :=
  ⟨not_hasText_of_staysInFields, staysInFields_of_not_hasText⟩

end CpuInfoBlock

/-- Some lines of a block as the kernel writes it -/
def intelLines : List Text :=
  ["processor\t: 0\n", "vendor_id\t: GenuineIntel\n", "model name\t: Intel(R) Xeon(R) CPU\n", "cpu MHz\t\t: 2400.000\n",
    "cache size\t: 8192 KB\n"].map ofString

theorem intelLines_plain : ∀ line ∈ intelLines, ∀ c ∈ line, c ≠ 0 := by decide +kernel

theorem intelLines_started : ∀ line ∈ intelLines, ∃ c, line.head? = some c ∧ c ≠ 10 := by
  intro line member
  have other := (List.all_iff_forall_prop.mp (by decide) :
    ∀ line ∈ intelLines, line.head?.isSome = true ∧ line.head? ≠ some 10) line member
  obtain ⟨c, head⟩ := Option.isSome_iff_exists.mp other.1
  exact ⟨c, head, fun same => other.2 (same ▸ head)⟩

theorem intelLines_once (field : CpuInfoField) : (intelLines.filter fun line => lineField line == some field).length ≤ 1 := by
  cases field with
  | vendor => decide
  | model => decide
  | mhz => decide
  | cacheSize => decide

def intelBlock : CpuInfoBlock where
  lines := intelLines
  noNul := intelLines_plain
  started := intelLines_started
  valued := List.all_iff_forall_prop.mp (by decide)
  once := intelLines_once

/-- The terminator of the vendor is stored in the model. -/
theorem not_staysInFields_intelBlock : ¬ ∀ (block : CpuInfoBlock) info, block.StaysInFields info := by
  intro claim
  refine CpuInfoBlock.not_hasText_of_staysInFields (claim intelBlock ⟨Vector.replicate 128 0, Vector.replicate 128 0, 0, 0, 0, 0, 0, 0, 0⟩) ?_
  exact ⟨ofString "vendor_id\t: GenuineIntel\n", by decide, Or.inl (by decide)⟩

end Sysm
