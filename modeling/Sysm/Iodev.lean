import Sysm.State

namespace Sysm
open CString

/-- `SYSM_DEV_PREFIX` -/
def sysmDevPrefix : Text := ofString "/dev/"

/-- `SYSM_FS_NAME_LEN` -/
def sysmFsNameLen : Nat := 4096

/-- The size of the name in `sysm_iodev_t` -/
def iodevNameLen : Nat := 256

/-- What `SYSM_FSDEV_ID` reads of a `struct stat` -/
structure Stat where
  isBlk : Bool
  rdev : UInt64
  ino : UInt64
  dev : UInt64
deriving Repr, DecidableEq

/-- `SYSM_FSDEV_ID` -/
def sysmFsdevId (sb : Stat) : UInt64 := if sb.isBlk then sb.rdev else sb.ino + sb.dev

/-- `sysm_file_system_type_e` -/
inductive SysmFstype where
  | unknown
  | none
  | localDisk
  | network
  | ramDisk
  | cdrom
  | swap
deriving Repr, DecidableEq

/-- `sysm_file_system_t` -/
structure SysmFileSystem where
  dirName : Text
  devName : Text
  type : SysmFstype
deriving Repr, DecidableEq

/-- What `stat` brings for each path, and `sysm_file_system_list_get`. -/
structure Disks where
  stat : Text → Option Stat
  fileSystems : Except Int (List SysmFileSystem)

/-- `SYSM_NAME_IS_DEV` -/
def sysmNameIsDev (dev : Text) : Bool := sysmDevPrefix.isPrefixOf dev

/-- What `SYSM_ZERO` leaves of the counters of a disk. -/
def SysmDiskUsage.zero : SysmDiskUsage := ⟨0, 0, 0, 0, 0, 0, 0, 0, 0, 0, 0⟩

/-- The value of an entry that has none is made, with this name. A name that
does not fit is a fault. -/
def iodevNew (fsdev : Cache SysmIodev) (entry : Nat) (name : Text) (isPartition : Bool) :
    Option (Cache SysmIodev × SysmIodev) :=
  if name.length < iodevNameLen then do
    let iodev : SysmIodev := ⟨name, isPartition, .zero⟩
    return (← fsdev.store entry (some iodev), iodev)
  else none

/-- The body of the loop of `sysm_iodev_get` for a file system whose directory is there. -/
def iodevMount (fsdev : Cache SysmIodev) (clock : Clock) (fsp : SysmFileSystem) (sb : Stat) : Option (Cache SysmIodev) := do
  let (fsdev, ent) ← sysmCacheGet fsdev (sysmFsdevId sb) (clock 0) (clock 1)
  match ← fsdev.value ent with
  -- already cached
  | some _ => return fsdev
  | none =>
    if sysmNameIsDev fsp.devName then
      let (fsdev, _) ← iodevNew fsdev ent fsp.devName true
      return fsdev
    else return fsdev

/-- The loop of `sysm_iodev_get` over the file systems. -/
def iodevMounts (stat : Text → Option Stat) : Cache SysmIodev → Clock → List SysmFileSystem → Option (Cache SysmIodev)
  | fsdev, _, [] => some fsdev
  | fsdev, clock, fsp :: fslist =>
    if fsp.type = .localDisk then
      match stat fsp.dirName with
      -- cant cache w/o inode
      | none => iodevMounts stat fsdev clock fslist
      | some sb => do
        let fsdev ← iodevMount fsdev clock fsp sb
        iodevMounts stat fsdev clock.later fslist
    else iodevMounts stat fsdev clock fslist

/-- The path that is looked at, and whether it is that of a device. -/
def iodevPath (dirname : Text) : Text × Bool :=
  if dirname.head? = some 47 then (dirname, sysmNameIsDev dirname)
  else ((sysmDevPrefix ++ dirname).take (sysmFsNameLen - 1), true)

/-- What `sysm_iodev_get` does when the entry of the path has no value. -/
def iodevFind (fsdev : Cache SysmIodev) (entry : Nat) (disks : Disks) (clock : Clock) (dirname : Text) (isDev : Bool) :
    Option (Option (Nat × SysmIodev) × Cache SysmIodev) :=
  if isDev then do
    let (fsdev, iodev) ← iodevNew fsdev entry dirname false
    return (some (entry, iodev), fsdev)
  else
    match disks.fileSystems with
    | .error _ => some (none, fsdev)
    | .ok fslist => do
      let fsdev ← iodevMounts disks.stat fsdev clock fslist
      match ← fsdev.value entry with
      | some iodev => return (if iodev.name ≠ [] then some (entry, iodev) else none, fsdev)
      | none => return (none, fsdev)

/-- `sysm_iodev_get`, with the `sysm_iodev_t` and the entry that points to it.
The first call makes the table, at the time `created`. -/
def sysmIodevGet (sysm : SysmT) (disks : Disks) (created : UInt64) (clock : Clock) (dirname : Text) :
    Option (Option (Nat × SysmIodev) × SysmT) := do
  let fsdev := sysm.fsdev.getD (sysmCacheNew _ 15 created)
  let (dirname, isDev) := iodevPath dirname
  match disks.stat dirname with
  | none => return (none, { sysm with fsdev := some fsdev })
  | some sb =>
    let (fsdev, entry) ← sysmCacheGet fsdev (sysmFsdevId sb) (clock 0) (clock 1)
    match ← fsdev.value entry with
    | some iodev => return (some (entry, iodev), { sysm with fsdev := some fsdev })
    | none =>
      let (found, fsdev) ← iodevFind fsdev entry disks clock.later dirname isDev
      return (found, { sysm with fsdev := some fsdev })

end Sysm
