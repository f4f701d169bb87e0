import Mathlib.Data.List.Infix
import Sysm.CpuInfo
import Sysm.Lib.ByteBuffer

namespace Sysm
open CString

/-- The bytes of a field -/
abbrev FieldBytes := Vector UInt8 128

/-- A field with some bytes written over it from an index on. -/
def overwrite (field : FieldBytes) (index : Nat) : List UInt8 → FieldBytes
  | [] => field
  | c :: text => overwrite (field.setIfInBounds index c) (index + 1) text

theorem toList_overwrite {field : FieldBytes} {index : Nat} {text : List UInt8} (fits : index + text.length ≤ 128) :
    (overwrite field index text).toList = field.toList.take index ++ (text ++ field.toList.drop (index + text.length)) := by
  induction text generalizing field index with
  | nil => simp [overwrite]
  | cons c text ih =>
    rw [List.length_cons] at fits
    have length : field.toList.length = 128 := Vector.length_toList
    have before : (field.toList.set index c).take (index + 1) = field.toList.take index ++ [c] := by
      rw [List.take_add_one, List.take_set_of_le (Nat.le_refl _), List.getElem?_set_self (by omega), Option.toList_some]
    rw [overwrite, ih (by omega), Vector.toList_setIfInBounds, before, List.drop_set_of_lt (by omega), List.append_assoc,
      List.singleton_append, List.cons_append, List.length_cons, show index + (text.length + 1) = index + 1 + text.length by omega]

/-- Nothing is left of a field that is written over as a whole. -/
theorem toList_overwrite_whole (field : FieldBytes) {text : List UInt8} (whole : text.length = 128) :
    (overwrite field 0 text).toList = text := by
  have length : field.toList.length = 128 := Vector.length_toList
  rw [toList_overwrite (by omega), List.take_zero, List.drop_of_length_le (by omega), List.append_nil, List.nil_append]

namespace SysmCpuInfo

variable (info : SysmCpuInfo)

theorem set_eq (field : FieldBytes) {index other : Nat} (inside : other < 128) (same : other = index) (c : UInt8) :
    field.set other c inside = field.setIfInBounds index c := by
  subst same
  exact Vector.toList_inj.mp (by rw [Vector.toList_set, Vector.toList_setIfInBounds])

theorem store_vendor {index : Nat} (inside : index < 128) (c : UInt8) :
    info.store (index : Int) c = some { info with vendor := info.vendor.setIfInBounds index c } := by
  have natural : ((index : Nat) : Int).toNat = index := Int.toNat_natCast index
  rw [store, if_neg (by omega)]
  dsimp only
  rw [dif_pos (by omega), set_eq info.vendor _ natural]

theorem store_model {index : Nat} (inside : index < 128) (c : UInt8) :
    info.store ((modelOffset + index : Nat) : Int) c =
      some { info with model := info.model.setIfInBounds index c } := by
  have natural : ((modelOffset + index : Nat) : Int).toNat = 128 + index := Int.toNat_natCast _
  rw [store, if_neg (by omega)]
  dsimp only
  rw [dif_neg (by omega), dif_pos (by omega), set_eq info.model _ (by omega : _ = index)]

theorem storeAll_vendor {index : Nat} {text : List UInt8} (fits : index + text.length ≤ 128) :
    info.storeAll index text = some { info with vendor := overwrite info.vendor index text } := by
  induction text generalizing info index with
  | nil => rfl
  | cons c text ih =>
    rw [List.length_cons] at fits
    rw [storeAll, store_vendor info (by omega), Option.bind_eq_bind, Option.bind_some, ih _ (by omega)]
    rfl

theorem storeAll_model {index : Nat} {text : List UInt8} (fits : index + text.length ≤ 128) :
    info.storeAll (modelOffset + index) text = some { info with model := overwrite info.model index text } := by
  induction text generalizing info index with
  | nil => rfl
  | cons c text ih =>
    rw [List.length_cons] at fits
    rw [storeAll, store_model info (by omega), Option.bind_eq_bind, Option.bind_some, Nat.add_assoc, ih _ (by omega)]
    rfl

end SysmCpuInfo

/-- The bytes that `strncpy` stores. -/
def padded (value : Text) : List UInt8 :=
  value.take cpuInfoLen ++ List.replicate (cpuInfoLen - (value.take cpuInfoLen).length) 0

theorem length_padded (value : Text) : (padded value).length = 128 := by
  have taken : (value.take cpuInfoLen).length ≤ 128 := by
    rw [List.length_take]
    exact Nat.min_le_left _ _
  rw [padded, List.length_append, List.length_replicate]
  unfold cpuInfoLen at *
  omega

/-- A field with the value as `strncpy` leaves it. -/
def fieldOf (value : Text) : FieldBytes := overwrite (Vector.replicate 128 0) 0 (padded value)

theorem toList_fieldOf (value : Text) : (fieldOf value).toList = padded value :=
  toList_overwrite_whole _ (length_padded value)

theorem overwrite_padded (field : FieldBytes) (value : Text) : overwrite field 0 (padded value) = fieldOf value :=
  Vector.toList_inj.mp (by rw [toList_overwrite_whole _ (length_padded value), toList_fieldOf])

/-- A field as `cpu_info_strcpy` leaves it: the last byte, a newline, is cut off. -/
def copiedField (value : Text) : FieldBytes :=
  if value.length < cpuInfoLen then (fieldOf value).setIfInBounds (value.length - 1) 0 else fieldOf value

/-- The lowest byte of `mhz` is overwritten with a NUL. -/
def clearLow (mhz : Int32) : Int32 := (mhz.toUInt32 &&& 0xFFFFFF00).toInt32

section Copy

variable {info : SysmCpuInfo} {line value : Text}

theorem strncpy_vendor (info : SysmCpuInfo) (value : Text) :
    info.strncpy 0 value = some { info with vendor := fieldOf value } := by
  have length := length_padded value
  have stored := @SysmCpuInfo.storeAll_vendor info 0 (padded value) (by omega)
  rw [overwrite_padded] at stored
  exact stored

theorem strncpy_model (info : SysmCpuInfo) (value : Text) :
    info.strncpy modelOffset value = some { info with model := fieldOf value } := by
  have length := length_padded value
  have stored := @SysmCpuInfo.storeAll_model info 0 (padded value) (by omega)
  rw [overwrite_padded] at stored
  exact stored

/-- Behind `vendor` there is `model`. -/
theorem store_behind_vendor (info : SysmCpuInfo) :
    info.store (cpuInfoLen : Int) 0 = some { info with model := info.model.setIfInBounds 0 0 } :=
  info.store_model (by omega : 0 < 128) 0

/-- Behind `model` there is `mhz`. -/
theorem store_behind_model (info : SysmCpuInfo) :
    info.store ((modelOffset : Int) + cpuInfoLen) 0 = some { info with mhz := clearLow info.mhz } := by
  have mask : ~~~(0xFF <<< (8 * UInt32.ofNat 0)) = (0xFFFFFF00 : UInt32) := by decide
  have nothing : (0 : UInt8).toUInt32 <<< (8 * UInt32.ofNat 0) = 0 := by decide
  have stored : info.store ((modelOffset : Int) + cpuInfoLen) 0 =
      some { info with mhz := (info.mhz.toUInt32 &&& ~~~(0xFF <<< (8 * UInt32.ofNat 0)) |||
        (0 : UInt8).toUInt32 <<< (8 * UInt32.ofNat 0)).toInt32 } := rfl
  rw [stored, mask, nothing, UInt32.or_zero]
  rfl

theorem cpuInfoStrcpy_vendor (read : cpuInfoStrval line = some value) (info : SysmCpuInfo) : cpuInfoStrcpy line info 0 =
    if value = [] then none
    else some { info with vendor := copiedField value, model := info.model.setIfInBounds 0 0 } := by
  simp only [cpuInfoStrcpy, read, strncpy_vendor, Option.bind_eq_bind, Option.bind_some]
  have behind := store_behind_vendor { info with vendor := fieldOf value }
  have offset : ((0 : Nat) : Int) + cpuInfoLen = (cpuInfoLen : Int) := by omega
  rw [offset, behind, Option.bind_some]
  by_cases empty : value = []
  · rw [if_pos empty, empty]
    rfl
  · have nonempty : 0 < value.length := List.length_pos_iff.mpr empty
    rw [if_neg empty, copiedField]
    by_cases short : value.length < cpuInfoLen
    · have index : ((0 : Nat) : Int) + value.length - 1 = ((value.length - 1 : Nat) : Int) := by omega
      have inside : value.length - 1 < 128 := by
        unfold cpuInfoLen at short
        omega
      rw [if_pos short, if_pos short, index, SysmCpuInfo.store_vendor _ inside]
    · rw [if_neg short, if_neg short]
      rfl

theorem cpuInfoStrcpy_model (read : cpuInfoStrval line = some value) (nonempty : value ≠ []) (info : SysmCpuInfo) :
    cpuInfoStrcpy line info modelOffset =
      Option.some { info with model := copiedField value, mhz := clearLow info.mhz } := by
  have positive : 0 < value.length := List.length_pos_iff.mpr nonempty
  simp only [cpuInfoStrcpy, read, strncpy_model, Option.bind_eq_bind, Option.bind_some, store_behind_model, copiedField]
  by_cases short : value.length < cpuInfoLen
  · have index : (modelOffset : Int) + value.length - 1 = ((modelOffset + (value.length - 1) : Nat) : Int) := by omega
    have inside : value.length - 1 < 128 := by
      unfold cpuInfoLen at short
      omega
    rw [if_pos short, if_pos short, index, SysmCpuInfo.store_model _ inside]
  · rw [if_neg short, if_neg short]
    rfl

/-- The names of two vendors are shortened. -/
def vendorName (field : FieldBytes) : FieldBytes :=
  if (ofString "GenuineIntel" ++ [0]).isPrefixOf field.toList then fieldOf (ofString "Intel")
  else if (ofString "AuthenticAMD" ++ [0]).isPrefixOf field.toList then fieldOf (ofString "AMD")
  else field

theorem vendorIs_eq (info : SysmCpuInfo) {text : Text} (short : text.length < 128) :
    info.vendorIs text = (text ++ [0]).isPrefixOf info.vendor.toList := by
  have length : info.vendor.toList.length = 128 := Vector.length_toList
  have fits : (text ++ [0]).length ≤ info.vendor.toList.length := by
    rw [List.length_append, List.length_singleton]
    omega
  rw [Bool.eq_iff_iff, SysmCpuInfo.vendorIs, SysmCpuInfo.bytes, List.isPrefixOf_iff_prefix, List.isPrefixOf_iff_prefix,
    List.append_assoc, List.isPrefix_append_of_length fits]

theorem setIfInBounds_twice (field : FieldBytes) (c : UInt8) :
    (field.setIfInBounds 0 c).setIfInBounds 0 c = field.setIfInBounds 0 c :=
  Vector.toList_inj.mp (by simp)

/-- A line with a vendor sets the vendor and empties the model. -/
theorem cpuInfoVendor_eq (read : cpuInfoStrval line = some value) (info : SysmCpuInfo) : cpuInfoVendor info line =
    if value = [] then none
    else some { info with vendor := vendorName (copiedField value), model := info.model.setIfInBounds 0 0 } := by
  rw [cpuInfoVendor, cpuInfoStrcpy_vendor read]
  by_cases empty : value = []
  · rw [if_pos empty, if_pos empty]
    rfl
  · have intel := vendorIs_eq { info with vendor := copiedField value, model := info.model.setIfInBounds 0 0 }
      (by decide : (ofString "GenuineIntel").length < 128)
    have amd := vendorIs_eq { info with vendor := copiedField value, model := info.model.setIfInBounds 0 0 }
      (by decide : (ofString "AuthenticAMD").length < 128)
    simp only [if_neg empty, Option.bind_eq_bind, Option.bind_some, intel, amd, vendorName, strncpy_vendor,
      store_behind_vendor, setIfInBounds_twice]
    split_ifs with isIntel isAmd
    · rfl
    · rfl
    · rfl

end Copy

/-- A model without the blanks around it and the vendor in front of it. -/
def strippedModel (vendor text : Text) : Text :=
  let ptr := skipBlanks (skipBlanks text.reverse).reverse
  let ptr := if vendor.isPrefixOf ptr then
      let ptr := ptr.drop vendor.length
      let ptr := if (ofString "(R)").isPrefixOf ptr then ptr.drop 3 else ptr
      skipBlanks ptr
    else ptr
  if ptr.head? = some 45 then ptr.tail else ptr

/-- What `sysm_cpu_model_adjust` makes of a model. -/
def adjustedModel (vendor text : Text) : Text :=
  match cpuModels.find? fun (name, _) => name.isPrefixOf (strippedModel vendor text) with
  | some (_, rname) => rname
  | none => strippedModel vendor text

/-- The bytes up to the first NUL of the record -/
def SysmCpuInfo.vendorString (info : SysmCpuInfo) : Text := ofBuffer info.bytes

theorem length_skipBlanks (p : Text) : (skipBlanks p).length ≤ p.length := (List.dropWhile_suffix _).length_le

theorem length_rname {name rname : Text} (member : (name, rname) ∈ cpuModels) : rname.length ≤ 12 :=
  (List.all_iff_forall_prop.mp (by decide) : ∀ model ∈ cpuModels, model.2.length ≤ 12) _ member

theorem length_strippedModel (vendor text : Text) : (strippedModel vendor text).length ≤ text.length := by
  have front := length_skipBlanks (skipBlanks text.reverse).reverse
  have back := length_skipBlanks text.reverse
  rw [List.length_reverse] at front back
  have noDash : ∀ ptr : Text, (if ptr.head? = some 45 then ptr.tail else ptr).length ≤ ptr.length := by
    intro ptr
    split
    · rw [List.length_tail]
      omega
    · exact Nat.le_refl _
  refine (noDash _).trans ?_
  split
  · refine (length_skipBlanks _).trans ?_
    split
    · rw [List.length_drop, List.length_drop]
      omega
    · rw [List.length_drop]
      omega
  · omega

theorem length_adjustedModel {vendor text : Text} (short : text.length ≤ 127) : (adjustedModel vendor text).length ≤ 127 := by
  have stripped := length_strippedModel vendor text
  rw [adjustedModel]
  split
  · next name rname found =>
      have rname := length_rname (List.mem_of_find?_eq_some found)
      omega
  · omega

/-- A string that ends inside of a field is shorter than it. -/
theorem length_ofBuffer {field : FieldBytes} (ended : 0 ∈ field.toList) : (ofBuffer field.toList).length ≤ 127 := by
  have length : field.toList.length = 128 := Vector.length_toList
  have shorter := length_ofBuffer_lt ended
  omega

/-- The model is put in the place of the old one, if it ends with a NUL and has a byte that is not blank. -/
theorem sysmCpuModelAdjust_eq (info : SysmCpuInfo) : sysmCpuModelAdjust info =
    if 0 ∈ info.model.toList ∧ (ofBuffer info.model.toList).all (· == 32) = false then
      some { info with
        model := overwrite info.model 0 (adjustedModel info.vendorString (ofBuffer info.model.toList) ++ [0]) }
    else none := by
  by_cases ended : 0 ∈ info.model.toList
  · by_cases blank : (ofBuffer info.model.toList).all (· == 32) = true
    · rw [if_neg fun both => Bool.false_ne_true (both.2.symm.trans blank), sysmCpuModelAdjust, if_pos blank]
      simp
    · have text : (ofBuffer info.model.toList).all (· == 32) = false := by simpa using blank
      have inBytes : 0 ∈ info.bytes := by
        rw [SysmCpuInfo.bytes]
        exact List.mem_append_left _ (List.mem_append_right _ ended)
      have vendor : info.vendorText = some info.vendorString := if_pos inBytes
      have room := @length_adjustedModel info.vendorString _ (length_ofBuffer ended)
      have stored := @SysmCpuInfo.storeAll_model info 0
        (adjustedModel info.vendorString (ofBuffer info.model.toList) ++ [0])
        (by rw [List.length_append, List.length_singleton]; omega)
      rw [if_pos ⟨ended, text⟩, ← stored, sysmCpuModelAdjust, if_neg (not_not_intro ended), if_neg blank]
      simp only [vendor, Option.bind_eq_bind, Option.bind_some, adjustedModel, strippedModel, Nat.add_zero]
      split
      · next found => simp only [found]
      · next found => simp only [found]
  · rw [if_neg fun both => ended both.1, sysmCpuModelAdjust, if_pos ended]
    rfl

section Model

variable {info : SysmCpuInfo} {line value : Text}

theorem strval_visible (read : cpuInfoStrval line = some value) : Stops isSpace value := by
  obtain ⟨ptr, _, same⟩ := Option.map_eq_some_iff.mp read
  intro c member
  rw [← same] at member
  exact Bool.eq_false_iff.mpr fun space => by
    have visible := List.head?_dropWhile_not isSpace ptr.tail
    rw [member] at visible
    simp [space] at visible

theorem strval_suffix (read : cpuInfoStrval line = some value) : value <:+ line := by
  obtain ⟨ptr, found, same⟩ := Option.map_eq_some_iff.mp read
  have inPtr : value <:+ ptr := by
    rw [← same]
    exact (List.dropWhile_suffix _).trans (List.tail_suffix _)
  refine inPtr.trans ?_
  unfold strchr at found
  split at found
  · cases found
  · rw [← Option.some.inj found]
    exact List.dropWhile_suffix _

theorem strval_mem (read : cpuInfoStrval line = some value) {c : UInt8} (member : c ∈ value) : c ∈ line :=
  (strval_suffix read).subset member

/-- A value that fits is followed by NULs. -/
theorem toList_copiedField (nonempty : value ≠ []) (short : value.length < cpuInfoLen) :
    ∃ rest, (copiedField value).toList = value.dropLast ++ 0 :: rest := by
  have positive : 0 < value.length := List.length_pos_iff.mpr nonempty
  have whole : value.take cpuInfoLen = value := List.take_of_length_le (Nat.le_of_lt short)
  have bytes : (copiedField value).toList = (value ++ List.replicate (cpuInfoLen - value.length) 0).set (value.length - 1) 0 := by
    rw [copiedField, if_pos short, Vector.toList_setIfInBounds, toList_fieldOf, padded, whole]
  have last : value.set (value.length - 1) 0 = value.dropLast ++ [0] := by
    rw [List.set_eq_take_append_cons_drop, if_pos (by omega), List.dropLast_eq_take, List.drop_of_length_le (by omega)]
  refine ⟨List.replicate (cpuInfoLen - value.length) 0, ?_⟩
  rw [bytes, List.set_append_left _ _ (by omega), last, List.append_assoc, List.singleton_append]

theorem ofBuffer_copiedField (plain : ∀ c ∈ value, c ≠ 0) (nonempty : value ≠ []) (short : value.length < cpuInfoLen) :
    0 ∈ (copiedField value).toList ∧ ofBuffer (copiedField value).toList = value.dropLast := by
  obtain ⟨rest, bytes⟩ := toList_copiedField nonempty short
  rw [bytes]
  refine ⟨by simp, ?_⟩
  rw [ByteBuffer.ofBuffer_append_nul, ofBuffer_of_no_nul fun c member => plain c (List.mem_of_mem_dropLast member)]

/-- A value that does not fit has no NUL behind it. -/
theorem copiedField_long (plain : ∀ c ∈ value, c ≠ 0) (long : ¬ value.length < cpuInfoLen) : 0 ∉ (copiedField value).toList := by
  have length : (value.take cpuInfoLen).length = cpuInfoLen := by
    rw [List.length_take]
    exact Nat.min_eq_left (Nat.le_of_not_lt long)
  rw [copiedField, if_neg long, toList_fieldOf, padded, length, Nat.sub_self, List.replicate_zero, List.append_nil]
  intro member
  exact plain 0 (List.mem_of_mem_take member) rfl

/-- The model for a value, with the vendor taken from where it is stored. -/
def modelField (vendor : FieldBytes) (value : Text) : FieldBytes :=
  overwrite (copiedField value) 0
    (adjustedModel (ofBuffer (vendor.toList ++ (copiedField value).toList)) value.dropLast ++ [0])

/-- A line with a model sets the model and clears the low byte of `mhz`. -/
theorem cpuInfoModel_eq (read : cpuInfoStrval line = some value) (plain : ∀ c ∈ line, c ≠ 0) (info : SysmCpuInfo) :
    cpuInfoModel info line =
      if 2 ≤ value.length ∧ value.length < cpuInfoLen then
        some { info with model := modelField info.vendor value, mhz := clearLow info.mhz }
      else none := by
  have noNul : ∀ c ∈ value, c ≠ 0 := fun c member => plain c (strval_mem read member)
  by_cases empty : value = []
  · rw [if_neg (by simp [empty])]
    simp only [cpuInfoModel, cpuInfoStrcpy, read, empty, strncpy_model, Option.bind_eq_bind, Option.bind_some,
      store_behind_model]
    have noText : ofBuffer (fieldOf []).toList = [] := by
      rw [toList_fieldOf]
      rfl
    have back : ((modelOffset : Nat) : Int) + (([] : Text).length : Int) - 1 = ((127 : Nat) : Int) := by decide
    rw [if_pos (by decide), back, SysmCpuInfo.store_vendor _ (by omega), Option.bind_some, sysmCpuModelAdjust_eq,
      if_neg (by simp [noText])]
  · rw [cpuInfoModel, cpuInfoStrcpy_model read empty, Option.bind_eq_bind, Option.bind_some, sysmCpuModelAdjust_eq]
    by_cases short : value.length < cpuInfoLen
    · obtain ⟨ended, text⟩ := ofBuffer_copiedField noNul empty short
      have vendor : SysmCpuInfo.vendorString { info with model := copiedField value, mhz := clearLow info.mhz } =
          ofBuffer (info.vendor.toList ++ (copiedField value).toList) := by
        obtain ⟨rest, bytes⟩ := toList_copiedField empty short
        rw [SysmCpuInfo.vendorString, SysmCpuInfo.bytes]
        simp only [bytes, List.append_assoc, List.cons_append]
        rw [← List.append_assoc, ByteBuffer.ofBuffer_append_nul, ← List.append_assoc, ByteBuffer.ofBuffer_append_nul]
      have first : value.head? ≠ some 32 := by
        intro blank
        have visible := strval_visible read 32 blank
        exact absurd visible (by decide)
      have blank : value.dropLast.all (· == 32) = false ↔ 2 ≤ value.length := by
        obtain ⟨c, others, rfl⟩ := List.exists_cons_of_ne_nil empty
        have other : c ≠ 32 := fun same => first (by rw [same]; rfl)
        cases others with
        | nil => simp
        | cons d others => simp [other]
      simp only [ended, text, vendor, true_and, blank, modelField, short, and_true]
    · rw [if_neg fun both => copiedField_long noNul short both.1, if_neg fun both => short both.2]

end Model

end Sysm
