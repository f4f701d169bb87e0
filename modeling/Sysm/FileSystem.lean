import Sysm.Lib.CNumbers
import Sysm.Lib.FoldOption
import Sysm.Lib.StructArray

namespace Sysm
open CString StructArray

/-- `struct mntent`: the strings of an entry of the mount table. They are parts
of a buffer of 1025 bytes. -/
structure Mntent where
  mntFsname : Text
  mntDir : Text
  mntType : Text
  mntOpts : Text
  noNul : ∀ text ∈ [mntFsname, mntDir, mntType, mntOpts], ∀ c ∈ text, c ≠ 0
  fits : mntFsname.length + mntDir.length + mntType.length + mntOpts.length < 1025

/-- `sizeof(sysm_file_system_t)` -/
def sizeofFileSystem : Nat := 8976

/-- `SYSM_FS_MAX` -/
def sysmFsMax : Nat := 10

namespace FileSystem

def dirName : Member := ⟨0, 4096⟩
def devName : Member := ⟨4096, 4096⟩
def typeName : Member := ⟨8192, 256⟩
def sysTypeName : Member := ⟨8448, 256⟩
def options : Member := ⟨8704, 256⟩
def type : Member := ⟨8960, 4⟩

/-- Four bytes of padding are before the flags. -/
def flags : Member := ⟨8968, 8⟩

end FileSystem

section FsType

def sysmFstypeUnknown : Nat := 0
def sysmFstypeNone : Nat := 1
def sysmFstypeLocalDisk : Nat := 2
def sysmFstypeNetwork : Nat := 3
def sysmFstypeCdrom : Nat := 5
def sysmFstypeSwap : Nat := 6
def sysmFstypeMax : Nat := 7

/-- `fstype_names` -/
def fstypeNames : List Text := ["unknown", "none", "local", "remote", "ram", "cdrom", "swap"].map ofString

/-- `strncmp(type, word, strlen(word)) == 0` -/
def startsWith (word : String) (type : Text) : Bool := (ofString word).isPrefixOf type

def sysmCommonFsTypeGet (fsType : Nat) (type : Text) : Nat :=
  match type.head? with
  | some 110 => if startsWith "nfs" type then sysmFstypeNetwork else fsType
  | some 115 =>
    if type = ofString "smbfs" then sysmFstypeNetwork
    else if type = ofString "swap" then sysmFstypeSwap
    else fsType
  | some 97 => if type = ofString "afs" then sysmFstypeNetwork else fsType
  | some 105 => if type = ofString "iso9660" then sysmFstypeCdrom else fsType
  | some 99 =>
    if type = ofString "cvfs" then sysmFstypeLocalDisk
    else if type = ofString "cifs" then sysmFstypeNetwork
    else fsType
  | some 109 => if type = ofString "msdos" ∨ type = ofString "minix" then sysmFstypeLocalDisk else fsType
  | some 104 => if type = ofString "hpfs" then sysmFstypeLocalDisk else fsType
  | some 118 =>
    if type = ofString "vxfs" then sysmFstypeLocalDisk
    else if type = ofString "vfat" then sysmFstypeLocalDisk
    else fsType
  | some 122 => if type = ofString "zfs" then sysmFstypeLocalDisk else fsType
  | _ => fsType

def sysmOsFsTypeGet (fsType : Nat) (type : Text) : Nat :=
  match type.head? with
  | some 101 => if startsWith "ext" type then sysmFstypeLocalDisk else fsType
  | some 103 => if type = ofString "gfs" then sysmFstypeLocalDisk else fsType
  | some 104 => if type = ofString "hpfs" then sysmFstypeLocalDisk else fsType
  | some 106 => if startsWith "jfs" type then sysmFstypeLocalDisk else fsType
  | some 111 => if startsWith "ocfs" type then sysmFstypeLocalDisk else fsType
  | some 112 => if startsWith "psfs" type then sysmFstypeLocalDisk else fsType
  | some 114 => if type = ofString "reiserfs" then sysmFstypeLocalDisk else fsType
  | some 118 => if type = ofString "vzfs" then sysmFstypeLocalDisk else fsType
  | some 120 => if type = ofString "xfs" ∨ type = ofString "xiafs" then sysmFstypeLocalDisk else fsType
  | _ => fsType

/-- The type of the first test that finds one: one that is already set, the os
specifics, then the common ones. -/
def fsTypeFound (fsType : Nat) (type : Text) : Nat :=
  if fsType ≠ sysmFstypeUnknown then fsType
  else if sysmOsFsTypeGet fsType type ≠ sysmFstypeUnknown then sysmOsFsTypeGet fsType type
  else if sysmCommonFsTypeGet fsType type ≠ sysmFstypeUnknown then sysmCommonFsTypeGet fsType type
  else sysmFstypeNone

/-- The type that `sysm_fs_type_get` leaves in `fsp->type`. -/
def fsTypeOf (fsType : Nat) (type : Text) : Nat :=
  if sysmFstypeMax ≤ fsTypeFound fsType type then sysmFstypeNone else fsTypeFound fsType type

example : (["ext4", "nfs4", "swap", "overlay"].map fun type => fsTypeOf sysmFstypeUnknown (ofString type)) = [2, 3, 6, 1] := by
  decide

theorem fsTypeOf_lt (fsType : Nat) (type : Text) : fsTypeOf fsType type < sysmFstypeMax := by
  rw [fsTypeOf]
  by_cases outside : sysmFstypeMax ≤ fsTypeFound fsType type
  · rw [if_pos outside]
    decide
  · rw [if_neg outside]
    omega

/-- `fstype_names[fsp->type]` is a name. -/
theorem fstypeNames_short (fsType : Nat) : (fstypeNames.getD fsType []).length < 256 ∧ ∀ c ∈ fstypeNames.getD fsType [], c ≠ 0 := by
  have all : ∀ name ∈ [] :: fstypeNames, name.length < 256 ∧ ∀ c ∈ name, c ≠ 0 := by decide +kernel
  refine all _ ?_
  rw [List.getD_eq_getElem?_getD]
  cases there : fstypeNames[fsType]? with
  | none => exact List.mem_cons_self ..
  | some name => exact List.mem_cons_of_mem _ (List.mem_of_getElem? there)

end FsType

open FileSystem

/-- `strcpy` into the memory of the list. -/
def strcpyTo (data : List UInt8) (place : Nat) (text : Text) : Option (List UInt8) := ByteBuffer.copyString data place [text]

/-- The type and the name of the type are what is in the memory of the element by then. -/
def sysmFsTypeGet (data : List UInt8) (fsp : Nat) : Option (List UInt8) := do
  let fsType := fsTypeOf (valueOf (type.of (data.drop fsp))) (ofBuffer (data.drop (fsp + sysTypeName.offset)))
  let data ← ByteBuffer.copy data (fsp + type.offset) (bytesOf 4 fsType)
  strcpyTo data (fsp + typeName.offset) (fstypeNames.getD fsType [])

/-- What is written to the element at `fsp`. -/
def mountInto (data : List UInt8) (fsp : Nat) (ent : Mntent) : Option (List UInt8) := do
  let data ← ByteBuffer.copy data (fsp + type.offset) (bytesOf 4 sysmFstypeUnknown)
  let data ← strcpyTo data (fsp + dirName.offset) ent.mntDir
  let data ← strcpyTo data (fsp + devName.offset) ent.mntFsname
  let data ← strcpyTo data (fsp + sysTypeName.offset) ent.mntType
  let data ← strcpyTo data (fsp + options.offset) ent.mntOpts
  sysmFsTypeGet data fsp

/-- One round of `sysm_file_system_list_get`. -/
def mountEntry (memory : Nat → UInt8) (fslist : StructArray) (ent : Mntent) : Option StructArray := do
  let fslist := fslist.growFull sizeofFileSystem sysmFsMax memory
  let data ← mountInto fslist.data (sizeofFileSystem * fslist.number) ent
  return { fslist with number := fslist.number + 1, data }

/-- `mounted` are the entries of the mount table if it can be opened, and `memory`
what is in the memory for the list. -/
def sysmFileSystemListGet (memory : Nat → UInt8) (mounted : Except Int (List Mntent)) : Option (Except Int StructArray) :=
  match mounted with
  | .error errno => some (.error errno)
  | .ok entries => do
    let fslist ← entries.foldlM (mountEntry memory) (.create sizeofFileSystem sysmFsMax memory)
    return .ok fslist

/-- The string is in the field with its NUL. -/
def Terminated (bytes : List UInt8) (text : Text) : Prop := ∃ rest, bytes = text ++ 0 :: rest

/-- The element at `fsp` has the strings of the entry, the type that they mean,
and flags that nothing was written to. -/
structure StoresMount (memory : Nat → UInt8) (fsp : Nat) (element : List UInt8) (ent : Mntent) : Prop where
  dirName : Terminated (dirName.of element) ent.mntDir
  devName : Terminated (devName.of element) ent.mntFsname
  sysTypeName : Terminated (sysTypeName.of element) ent.mntType
  options : Terminated (options.of element) ent.mntOpts
  type : valueOf (type.of element) = fsTypeOf sysmFstypeUnknown ent.mntType
  typeName : Terminated (typeName.of element) (fstypeNames.getD (fsTypeOf sysmFstypeUnknown ent.mntType) [])
  flags : flags.of element = fresh memory (fsp + flags.offset) flags.width

/-- The list has one element for each mount in order, and the memory behind is as it was. -/
def StoresMounts (memory : Nat → UInt8) (entries : List Mntent) : Prop :=
  ∃ fslist, sysmFileSystemListGet memory (.ok entries) = some (.ok fslist) ∧ fslist.number = entries.length ∧
    (∀ (i : Nat) (ent : Mntent), entries[i]? = some ent →
      StoresMount memory (sizeofFileSystem * i) (fslist.element sizeofFileSystem i) ent) ∧
    fslist.data.drop (sizeofFileSystem * fslist.number) = fresh memory (sizeofFileSystem * fslist.number)
      (fslist.data.length - sizeofFileSystem * fslist.number)

section Store

/-- The bytes of an element, field by field. -/
structure Fields where
  dirName : List UInt8
  devName : List UInt8
  typeName : List UInt8
  sysTypeName : List UInt8
  options : List UInt8
  type : List UInt8
  padding : List UInt8
  flags : List UInt8

namespace Fields

def pieces (fields : Fields) : List (List UInt8) :=
  [fields.dirName, fields.devName, fields.typeName, fields.sysTypeName, fields.options, fields.type, fields.padding, fields.flags]

structure Sized (fields : Fields) : Prop where
  dirName : fields.dirName.length = 4096
  devName : fields.devName.length = 4096
  typeName : fields.typeName.length = 256
  sysTypeName : fields.sysTypeName.length = 256
  options : fields.options.length = 256
  type : fields.type.length = 4
  padding : fields.padding.length = 4
  flags : fields.flags.length = 8

/-- The fields after a mount whose strings find room. -/
def store (fields : Fields) (ent : Mntent) : Fields :=
  { fields with
    dirName := stored ent.mntDir fields.dirName
    devName := stored ent.mntFsname fields.devName
    typeName := stored (fstypeNames.getD (fsTypeOf sysmFstypeUnknown ent.mntType) []) fields.typeName
    sysTypeName := stored ent.mntType fields.sysTypeName
    options := stored ent.mntOpts fields.options
    type := bytesOf 4 (fsTypeOf sysmFstypeUnknown ent.mntType) }

theorem Sized.length_flatten {fields : Fields} (sized : fields.Sized) : fields.pieces.flatten.length = sizeofFileSystem := by
  simp only [pieces, List.length_flatten, List.map_cons, List.map_nil, sized.dirName, sized.devName, sized.typeName,
    sized.sysTypeName, sized.options, sized.type, sized.padding, sized.flags]
  rfl

variable {fields : Fields} {ent : Mntent}

theorem Sized.store (sized : fields.Sized) (shortType : ent.mntType.length < 256) (shortOpts : ent.mntOpts.length < 256) :
    (fields.store ent).Sized := by
  have fits := ent.fits
  have name := (fstypeNames_short (fsTypeOf sysmFstypeUnknown ent.mntType)).1
  exact {
    dirName := (length_stored (by rw [sized.dirName]; omega)).trans sized.dirName
    devName := (length_stored (by rw [sized.devName]; omega)).trans sized.devName
    typeName := (length_stored (by rw [sized.typeName]; exact name)).trans sized.typeName
    sysTypeName := (length_stored (by rw [sized.sysTypeName]; exact shortType)).trans sized.sysTypeName
    options := (length_stored (by rw [sized.options]; exact shortOpts)).trans sized.options
    type := length_bytesOf 4 _
    padding := sized.padding
    flags := sized.flags }

/-- Where the fields are. -/
theorem Sized.offsets (sized : fields.Sized) (index : Nat) :
    ((fields.pieces.take index).map List.length).sum = (([4096, 4096, 256, 256, 256, 4, 4, 8] : List Nat).take index).sum := by
  have lengths : fields.pieces.map List.length = [4096, 4096, 256, 256, 256, 4, 4, 8] := by
    simp only [pieces, List.map_cons, List.map_nil, sized.dirName, sized.devName, sized.typeName,
      sized.sysTypeName, sized.options, sized.type, sized.padding, sized.flags]
  rw [List.map_take, lengths]

/-- A string that finds room in its field. -/
theorem strcpyTo_field (sized : fields.Sized) (index : Nat) {piece : List UInt8} (there : fields.pieces[index]? = some piece)
    (member : Member) (offset : member.offset = (([4096, 4096, 256, 256, 256, 4, 4, 8] : List Nat).take index).sum)
    {text : Text} (short : text.length < piece.length) {fsp : Nat} {before : List UInt8} (place : fsp = before.length)
    (behind : List UInt8) :
    strcpyTo (before ++ (fields.pieces.flatten ++ behind)) (fsp + member.offset) text =
      some (before ++ ((fields.pieces.set index (stored text piece)).flatten ++ behind)) :=
  copyString_piece there (by rw [place, offset, sized.offsets]) short behind

theorem copy_type (sized : fields.Sized) (value : Nat) {fsp : Nat} {before : List UInt8} (place : fsp = before.length)
    (behind : List UInt8) :
    ByteBuffer.copy (before ++ (fields.pieces.flatten ++ behind)) (fsp + FileSystem.type.offset) (bytesOf 4 value) =
      some (before ++ (({ fields with type := bytesOf 4 value } : Fields).pieces.flatten ++ behind)) := by
  have length : (bytesOf 4 value).length = fields.type.length := (length_bytesOf 4 value).trans sized.type.symm
  have there : fields.pieces[5]? = some fields.type := rfl
  exact copy_piece there (by rw [place, sized.offsets]; rfl) length behind

/-- The type and its name are set. -/
theorem sysmFsTypeGet_fields (sized : fields.Sized) {text : Text} (noNul : ∀ c ∈ text, c ≠ 0) {stretch : List UInt8}
    (name : fields.sysTypeName = stored text stretch) {value : Nat} (small : value < 256 ^ 4)
    (typed : fields.type = bytesOf 4 value) {fsp : Nat} {before : List UInt8} (place : fsp = before.length) (behind : List UInt8) :
    sysmFsTypeGet (before ++ (fields.pieces.flatten ++ behind)) fsp = some (before ++ (({ fields with
      type := bytesOf 4 (fsTypeOf value text)
      typeName := stored (fstypeNames.getD (fsTypeOf value text) []) fields.typeName } : Fields).pieces.flatten ++ behind)) := by
  have atType : fields.pieces[5]? = some fields.type := rfl
  have atName : fields.pieces[3]? = some fields.sysTypeName := rfl
  have readType : FileSystem.type.of ((before ++ (fields.pieces.flatten ++ behind)).drop fsp) = fields.type := by
    rw [Member.of, List.drop_drop, drop_piece atType (by rw [place, sized.offsets]; rfl)]
    exact List.take_left' sized.type
  have readName : ofBuffer ((before ++ (fields.pieces.flatten ++ behind)).drop (fsp + FileSystem.sysTypeName.offset)) = text := by
    rw [drop_piece atName (by rw [place, sized.offsets]; rfl), name, ofBuffer_stored noNul]
  have set := copy_type sized (fsTypeOf value text) place behind
  have sized' : ({ fields with type := bytesOf 4 (fsTypeOf value text) } : Fields).Sized :=
    { sized with type := length_bytesOf 4 _ }
  have short : (fstypeNames.getD (fsTypeOf value text) []).length < fields.typeName.length := by
    rw [sized.typeName]
    exact (fstypeNames_short _).1
  have written := strcpyTo_field sized' 2 rfl FileSystem.typeName rfl short place behind
  rw [sysmFsTypeGet, readType, readName, typed, valueOf_bytesOf, Nat.mod_eq_of_lt small]
  simp only [set, Option.bind_eq_bind, Option.bind_some]
  exact written

/-- All the strings find room, and nothing else is written to. -/
theorem mountInto_fields (sized : fields.Sized) (shortType : ent.mntType.length < 256) (shortOpts : ent.mntOpts.length < 256)
    {fsp : Nat} {before : List UInt8} (place : fsp = before.length) (behind : List UInt8) :
    mountInto (before ++ (fields.pieces.flatten ++ behind)) fsp ent =
      some (before ++ ((fields.store ent).pieces.flatten ++ behind)) := by
  have fits := ent.fits
  have noNul := ent.noNul ent.mntType (by simp)
  have shortDir : ent.mntDir.length < fields.dirName.length := by rw [sized.dirName]; omega
  have shortDev : ent.mntFsname.length < fields.devName.length := by rw [sized.devName]; omega
  have shortType : ent.mntType.length < fields.sysTypeName.length := by rw [sized.sysTypeName]; exact shortType
  have shortOpts : ent.mntOpts.length < fields.options.length := by rw [sized.options]; exact shortOpts
  -- the fields after each of the writes
  let typed : Fields := { fields with type := bytesOf 4 sysmFstypeUnknown }
  let dir : Fields := { typed with dirName := stored ent.mntDir fields.dirName }
  let dev : Fields := { dir with devName := stored ent.mntFsname fields.devName }
  let sys : Fields := { dev with sysTypeName := stored ent.mntType fields.sysTypeName }
  let opts : Fields := { sys with options := stored ent.mntOpts fields.options }
  have typedSized : typed.Sized := { sized with type := length_bytesOf 4 _ }
  have dirSized : dir.Sized := { typedSized with dirName := (length_stored shortDir).trans sized.dirName }
  have devSized : dev.Sized := { dirSized with devName := (length_stored shortDev).trans sized.devName }
  have sysSized : sys.Sized := { devSized with sysTypeName := (length_stored shortType).trans sized.sysTypeName }
  have optsSized : opts.Sized := { sysSized with options := (length_stored shortOpts).trans sized.options }
  have first : ByteBuffer.copy (before ++ (fields.pieces.flatten ++ behind)) (fsp + FileSystem.type.offset)
      (bytesOf 4 sysmFstypeUnknown) = some (before ++ (typed.pieces.flatten ++ behind)) :=
    copy_type sized sysmFstypeUnknown place behind
  have second : strcpyTo (before ++ (typed.pieces.flatten ++ behind)) (fsp + FileSystem.dirName.offset) ent.mntDir =
      some (before ++ (dir.pieces.flatten ++ behind)) :=
    strcpyTo_field typedSized 0 rfl FileSystem.dirName rfl shortDir place behind
  have third : strcpyTo (before ++ (dir.pieces.flatten ++ behind)) (fsp + FileSystem.devName.offset) ent.mntFsname =
      some (before ++ (dev.pieces.flatten ++ behind)) :=
    strcpyTo_field dirSized 1 rfl FileSystem.devName rfl shortDev place behind
  have fourth : strcpyTo (before ++ (dev.pieces.flatten ++ behind)) (fsp + FileSystem.sysTypeName.offset) ent.mntType =
      some (before ++ (sys.pieces.flatten ++ behind)) :=
    strcpyTo_field devSized 3 rfl FileSystem.sysTypeName rfl shortType place behind
  have fifth : strcpyTo (before ++ (sys.pieces.flatten ++ behind)) (fsp + FileSystem.options.offset) ent.mntOpts =
      some (before ++ (opts.pieces.flatten ++ behind)) :=
    strcpyTo_field sysSized 4 rfl FileSystem.options rfl shortOpts place behind
  have last := sysmFsTypeGet_fields optsSized noNul rfl (by decide : sysmFstypeUnknown < 256 ^ 4) rfl place behind
  simp only [mountInto, first, second, third, fourth, fifth, last, Option.bind_eq_bind, Option.bind_some]
  rfl

/-- The fields of an element that nothing was written to. -/
def untouched (memory : Nat → UInt8) (fsp : Nat) : Fields where
  dirName := fresh memory fsp 4096
  devName := fresh memory (fsp + 4096) 4096
  typeName := fresh memory (fsp + 8192) 256
  sysTypeName := fresh memory (fsp + 8448) 256
  options := fresh memory (fsp + 8704) 256
  type := fresh memory (fsp + 8960) 4
  padding := fresh memory (fsp + 8964) 4
  flags := fresh memory (fsp + 8968) 8

variable {memory : Nat → UInt8} {fsp : Nat}

theorem sized_untouched : (untouched memory fsp).Sized := by
  constructor
  all_goals exact length_fresh _ _

theorem untouched_bytes : fresh memory fsp sizeofFileSystem = (untouched memory fsp).pieces.flatten := by
  have split : sizeofFileSystem = 4096 + (4096 + (256 + (256 + (256 + (4 + (4 + 8)))))) := rfl
  rw [split, fresh_add, fresh_add, fresh_add, fresh_add, fresh_add, fresh_add, fresh_add]
  simp only [untouched, pieces, List.flatten_cons, List.flatten_nil, List.append_nil, Nat.add_assoc, Nat.reduceAdd]

/-- What the element has then. -/
theorem storesMount_store (shortType : ent.mntType.length < 256) (shortOpts : ent.mntOpts.length < 256) :
    StoresMount memory fsp ((untouched memory fsp).store ent).pieces.flatten ent := by
  have sized := (@sized_untouched memory fsp).store shortType shortOpts
  have member (index : Nat) {piece : List UInt8} (there : ((untouched memory fsp).store ent).pieces[index]? = some piece)
      (member : Member) (offset : member.offset = (([4096, 4096, 256, 256, 256, 4, 4, 8] : List Nat).take index).sum)
      (width : piece.length = member.width) : member.of ((untouched memory fsp).store ent).pieces.flatten = piece :=
    Member.of_pieces there (offset.trans (sized.offsets index).symm) width
  have small : fsTypeOf sysmFstypeUnknown ent.mntType < 256 ^ 4 :=
    Nat.lt_trans (fsTypeOf_lt sysmFstypeUnknown ent.mntType) (by decide)
  exact {
    dirName := ⟨_, member 0 rfl FileSystem.dirName rfl sized.dirName⟩
    devName := ⟨_, member 1 rfl FileSystem.devName rfl sized.devName⟩
    sysTypeName := ⟨_, member 3 rfl FileSystem.sysTypeName rfl sized.sysTypeName⟩
    options := ⟨_, member 4 rfl FileSystem.options rfl sized.options⟩
    type := by
      rw [member 5 rfl FileSystem.type rfl sized.type]
      exact (valueOf_bytesOf 4 _).trans (Nat.mod_eq_of_lt small)
    typeName := ⟨_, member 2 rfl FileSystem.typeName rfl sized.typeName⟩
    flags := member 7 rfl FileSystem.flags rfl sized.flags }

end Fields

end Store

section Mounts

variable {memory : Nat → UInt8} {fslist : StructArray} {elements : List (List UInt8)} {done : List Mntent}

/-- The elements are those of the mounts. -/
def MountsStored (memory : Nat → UInt8) (elements : List (List UInt8)) (mounts : List Mntent) : Prop :=
  Matches (fun i element ent => StoresMount memory (sizeofFileSystem * i) element ent) elements mounts

/-- One round. -/
theorem mountEntry_holds (holds : fslist.Holds sizeofFileSystem memory elements) {ent : Mntent}
    (shortType : ent.mntType.length < 256) (shortOpts : ent.mntOpts.length < 256) :
    ∃ fslist' element, mountEntry memory fslist ent = some fslist' ∧
      fslist'.Holds sizeofFileSystem memory (elements ++ [element]) ∧
      StoresMount memory (sizeofFileSystem * elements.length) element ent := by
  have positive : 0 < sysmFsMax := by decide
  obtain ⟨spare, number, size, data⟩ := holds.growFull positive
  have sized := (@Fields.sized_untouched memory (sizeofFileSystem * elements.length)).store shortType shortOpts
  have place := (length_flatten holds.sized).symm
  have written := Fields.mountInto_fields (@Fields.sized_untouched memory (sizeofFileSystem * elements.length)) shortType
    shortOpts place (fresh memory (sizeofFileSystem * (elements.length + 1)) (sizeofFileSystem * spare))
  rw [← Fields.untouched_bytes, ← data] at written
  refine ⟨_, _, ?_, holds.push sized.length_flatten spare, Fields.storesMount_store shortType shortOpts⟩
  simp only [mountEntry, number, written, Option.bind_eq_bind, Option.bind_some, size, Option.pure_def]

/-- The loop. -/
theorem mountEntries_holds {entries : List Mntent} (holds : fslist.Holds sizeofFileSystem memory elements)
    (stored : MountsStored memory elements done) (short : ∀ ent ∈ entries, ent.mntType.length < 256 ∧ ent.mntOpts.length < 256) :
    ∃ fslist' elements', entries.foldlM (mountEntry memory) fslist = some fslist' ∧
      fslist'.Holds sizeofFileSystem memory elements' ∧ MountsStored memory elements' (done ++ entries) := by
  induction entries generalizing fslist elements done with
  | nil => exact ⟨fslist, elements, rfl, holds, by rwa [List.append_nil]⟩
  | cons ent entries ih =>
    obtain ⟨shortType, shortOpts⟩ := short ent (List.mem_cons_self ..)
    obtain ⟨next, element, step, holds', last⟩ := mountEntry_holds holds shortType shortOpts
    obtain ⟨fslist', elements', run, holds'', stored'⟩ :=
      ih holds' (Matches.push stored last) fun other member => short other (List.mem_cons_of_mem _ member)
    rw [List.append_assoc, List.singleton_append] at stored'
    exact ⟨fslist', elements', FoldOption.foldlM_cons_iff.mpr ⟨next, step, run⟩, holds'', stored'⟩

theorem Terminated.short {bytes : List UInt8} {text : Text} (terminated : Terminated bytes text) : text.length < bytes.length := by
  obtain ⟨rest, same⟩ := terminated
  rw [same, List.length_append, List.length_cons]
  omega

theorem Member.length_of_le (member : Member) (element : List UInt8) : (member.of element).length ≤ member.width :=
  List.length_take_le _ _

theorem StoresMounts.short {entries : List Mntent} (stores : StoresMounts memory entries) :
    ∀ ent ∈ entries, ent.mntType.length < 256 ∧ ent.mntOpts.length < 256 := by
  intro ent member
  obtain ⟨fslist, _, _, each, _⟩ := stores
  obtain ⟨i, there⟩ := List.mem_iff_getElem?.mp member
  have stored := each i ent there
  exact ⟨Nat.lt_of_lt_of_le stored.sysTypeName.short (Member.length_of_le _ _),
    Nat.lt_of_lt_of_le stored.options.short (Member.length_of_le _ _)⟩

/-- The mounts are stored as they are if and only if no type and no options are
longer than the field for them. -/
theorem storesMounts_iff (memory : Nat → UInt8) (entries : List Mntent) :
    StoresMounts memory entries ↔ ∀ ent ∈ entries, ent.mntType.length < 256 ∧ ent.mntOpts.length < 256 := by
  constructor
  · exact StoresMounts.short
  · intro short
    obtain ⟨fslist, elements, run, holds, stored⟩ :=
      mountEntries_holds (@create_holds sizeofFileSystem sysmFsMax memory) Matches.nil short
    rw [List.nil_append] at stored
    refine ⟨fslist, ?_, holds.number.trans stored.length, fun i ent there => ?_, holds.behind⟩
    · simp only [sysmFileSystemListGet, run, Option.bind_eq_bind, Option.bind_some, Option.pure_def]
    · obtain ⟨element, atElement, storesMount⟩ := stored.each i ent there
      rwa [holds.element atElement]

/-- An overlay mount, whose options name the directories below it. -/
def overlayMount : Mntent where
  mntFsname := ofString "overlay"
  mntDir := ofString "/merged"
  mntType := ofString "overlay"
  mntOpts := ofString "rw,lowerdir=/" ++ List.replicate 300 108
  noNul := by decide +kernel
  fits := by decide +kernel

/-- Its options run on into the type, the flags and the next element. -/
theorem not_storesMounts_overlay : ¬∀ (memory : Nat → UInt8) (entries : List Mntent), StoresMounts memory entries := by
  intro all
  have short := (all (fun _ => 0) [overlayMount]).short overlayMount (List.mem_singleton_self _)
  exact absurd short.2 (by decide +kernel)

end Mounts

end Sysm
