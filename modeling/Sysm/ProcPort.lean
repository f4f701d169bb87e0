import Sysm.FileBuffer
import Sysm.NetConnection

namespace Sysm
open CString

/-- What kind of file `st_mode` tells. -/
inductive FileKind where
  | regular | directory | socket | other
deriving Repr, DecidableEq

/-- `struct stat` -/
structure FileStat where
  uid : UInt32
  inode : UInt64
  kind : FileKind
deriving Repr, DecidableEq

/-- The names that a directory lists, and what `stat` brings for a path. It
follows links, so for a descriptor it brings the file that is open. -/
structure FileTree where
  opendir : Text → Except Int (List Text)
  stat : Text → Option FileStat

/-- `pid_name` -/
def pidName (ent : Text) : Text := procFsRoot ++ ofString "/" ++ ent

/-- `fd_name` -/
def fdName (ent : Text) : Text := pidName ent ++ ofString "/fd"

/-- `fd_ent_name` -/
def fdEntName (ent fdEnt : Text) : Text := fdName ent ++ ofString "/" ++ fdEnt

section Loops

variable (tree : FileTree) (netconn : SysmNetConnection)

/-- The inner loop of `sysm_proc_port_get`, which tells whether it returns. -/
def procPortFds (ent : Text) : List Text → Bool
  | [] => false
  | fdEnt :: fdEnts =>
    -- it is the name of the process that is tested here
    if !ent.head?.any isDigit then procPortFds ent fdEnts
    else match tree.stat (fdEntName ent fdEnt) with
      | none => procPortFds ent fdEnts
      | some sb => if sb.inode = netconn.inode then true else procPortFds ent fdEnts

/-- The outer loop, with what is left in `*pid`. -/
def procPortEntries : List Text → Int32
  | [] => 0
  | ent :: ents =>
    if !ent.head?.any isDigit then procPortEntries ents
    else match tree.stat (pidName ent) with
      | none => procPortEntries ents
      | some sb =>
        if sb.uid ≠ netconn.uid.toUInt32 then procPortEntries ents
        else match tree.opendir (fdName ent) with
          | .error _ => procPortEntries ents
          | .ok fdEnts =>
            if procPortFds tree netconn ent fdEnts then toInt (strtoul 10 ent).1 else procPortEntries ents

end Loops

/-- `sysm_proc_port_get` -/
def sysmProcPortGet (protocol : UInt32) (port : UInt64) (files : NetFiles) (tree : FileTree) : Option (Int × Int32) := do
  let (status, netconn) ← sysmNetConnectionGet .zero port (netconnServer ||| protocol) files
  if status ≠ 0 then return (status, 0)
  if netconn.loPort ≠ port then return (0, 0)
  match tree.opendir procFsRoot with
  | .error errno => return (errno, 0)
  | .ok ents => return (0, procPortEntries tree netconn ents)

section Owner

variable (tree : FileTree) (netconn : SysmNetConnection)

/-- The process is one of the user of the record, and it lists these descriptors. -/
def ReadableFor (ent : Text) (fdEnts : List Text) : Prop :=
  (∃ sb, tree.stat (pidName ent) = some sb ∧ sb.uid = netconn.uid.toUInt32) ∧ tree.opendir (fdName ent) = .ok fdEnts

/-- One of its descriptors is the socket of the record. -/
def OwnsSocket (ent : Text) : Prop :=
  ∃ fdEnts, ReadableFor tree netconn ent fdEnts ∧ ∃ fdEnt ∈ fdEnts, fdEnt ≠ [] ∧ (∀ c ∈ fdEnt, isDigit c = true) ∧
    ∃ sb, tree.stat (fdEntName ent fdEnt) = some sb ∧ sb.kind = .socket ∧ sb.inode = netconn.inode

/-- Something in the directory of its descriptors has the number of the record,
whatever it is and whatever its name. -/
def hasInode (ent : Text) : Bool :=
  match tree.stat (pidName ent), tree.opendir (fdName ent) with
  | some sb, .ok fdEnts => sb.uid == netconn.uid.toUInt32 &&
      fdEnts.any fun fdEnt => (tree.stat (fdEntName ent fdEnt)).any fun sb => sb.inode == netconn.inode
  | _, _ => false

/-- The pid is that of an owner of the socket, and it is there if there is an
owner. -/
structure IsOwner (pids : List Int32) (pid : Int32) : Prop where
  sound : pid ≠ 0 → pid ∈ pids ∧ OwnsSocket tree netconn (decimalInt pid.toInt)
  complete : ∀ owner ∈ pids, OwnsSocket tree netconn (decimalInt owner.toInt) → pid ≠ 0

/-- The first process that has something with the number of the record has the
socket. -/
def FirstOwns (pids : List Int32) : Prop :=
  ∀ pid, pids.find? (fun pid => hasInode tree netconn (decimalInt pid.toInt)) = some pid →
    OwnsSocket tree netconn (decimalInt pid.toInt)

end Owner

/-- The processes of a directory, in its order. -/
def processes (entries : List ProcEntry) : List Int32 := entries.filterMap ProcEntry.pid?

variable {tree : FileTree} {netconn : SysmNetConnection} {ent : Text} {entries : List ProcEntry}

theorem OwnsSocket.hasInode (owns : OwnsSocket tree netconn ent) : hasInode tree netconn ent = true := by
  obtain ⟨fdEnts, ⟨⟨owner, atPid, uid⟩, opened⟩, fdEnt, member, _, _, sb, atFd, _, inode⟩ := owns
  simp only [Sysm.hasInode, atPid, opened, uid, beq_self_eq_true, Bool.true_and, List.any_eq_true]
  exact ⟨fdEnt, member, by simp [atFd, inode]⟩

/-- The inner loop does not look at the names of the descriptors. -/
theorem procPortFds_eq (digit : ent.head?.any isDigit = true) (fdEnts : List Text) :
    procPortFds tree netconn ent fdEnts =
      fdEnts.any fun fdEnt => (tree.stat (fdEntName ent fdEnt)).any fun sb => sb.inode == netconn.inode := by
  induction fdEnts with
  | nil => rfl
  | cons fdEnt fdEnts ih =>
    rw [procPortFds, digit, Bool.not_true, if_neg Bool.false_ne_true, List.any_cons, ih]
    cases tree.stat (fdEntName ent fdEnt) with
    | none => simp
    | some sb =>
      by_cases same : sb.inode = netconn.inode
      · simp [same]
      · simp [same]

theorem procPortEntries_process {pid : Int32} (positive : 0 < pid.toInt) (ents : List Text) :
    procPortEntries tree netconn (decimalInt pid.toInt :: ents) =
      if hasInode tree netconn (decimalInt pid.toInt) then pid else procPortEntries tree netconn ents := by
  have digit := ProcEntry.name_process positive
  rw [procPortEntries, digit, Bool.not_true, if_neg Bool.false_ne_true, toInt_decimalInt]
  cases atPid : tree.stat (pidName (decimalInt pid.toInt)) with
  | none => simp [hasInode, atPid]
  | some sb =>
    cases atFds : tree.opendir (fdName (decimalInt pid.toInt)) with
    | error errno => simp [hasInode, atPid, atFds]
    | ok fdEnts =>
      by_cases owned : sb.uid = netconn.uid.toUInt32
      · simp [hasInode, atPid, atFds, owned, procPortFds_eq digit]
      · simp [hasInode, atPid, atFds, owned]

/-- The outer loop stops at the first process that has something with the
number. -/
theorem procPortEntries_eq (entries : List ProcEntry) :
    procPortEntries tree netconn (entries.map ProcEntry.name) =
      ((processes entries).find? fun pid => hasInode tree netconn (decimalInt pid.toInt)).getD 0 := by
  induction entries with
  | nil => rfl
  | cons entry entries ih =>
    cases entry with
    | other name noDigit =>
      rw [List.map_cons, ProcEntry.name, procPortEntries, noDigit, Bool.not_false, if_pos rfl, ih]
      rfl
    | process pid positive =>
      have pids : processes (ProcEntry.process pid positive :: entries) = pid :: processes entries := rfl
      rw [List.map_cons, ProcEntry.name, procPortEntries_process positive, ih, pids, List.find?_cons]
      cases hasInode tree netconn (decimalInt pid.toInt) with
      | true => rfl
      | false => rfl

theorem ne_zero_of_mem_processes {pid : Int32} (member : pid ∈ processes entries) : pid ≠ 0 := by
  obtain ⟨entry, _, same⟩ := List.mem_filterMap.mp member
  cases entry with
  | other name noDigit => cases same
  | process other positive =>
    cases same
    intro zero
    rw [zero] at positive
    exact absurd positive (by decide)

theorem isOwner_iff (entries : List ProcEntry) :
    IsOwner tree netconn (processes entries) (procPortEntries tree netconn (entries.map ProcEntry.name)) ↔
      FirstOwns tree netconn (processes entries) := by
  rw [procPortEntries_eq, FirstOwns]
  cases found : (processes entries).find? fun pid => hasInode tree netconn (decimalInt pid.toInt) with
  | none =>
    refine ⟨fun _ _ never => (by cases never), fun _ => ⟨fun other => absurd rfl other, fun owner member owns => ?_⟩⟩
    exact absurd owns.hasInode (List.find?_eq_none.mp found owner member)
  | some pid =>
    have member := List.mem_of_find?_eq_some found
    have nonzero := ne_zero_of_mem_processes member
    constructor
    · intro isOwner pid' same
      cases same
      exact (isOwner.sound nonzero).2
    · intro firstOwns
      exact ⟨fun _ => ⟨member, firstOwns pid rfl⟩, fun _ _ _ => nonzero⟩

/-- With a record for the port, the process that is answered owns its socket
exactly if the first process with something of its number does. -/
theorem sysmProcPortGet_isOwner_iff {protocol : UInt32} {port : UInt64} {files : NetFiles}
    (selected : sysmNetConnectionGet .zero port (netconnServer ||| protocol) files = some (0, netconn))
    (listens : netconn.loPort = port) (listed : tree.opendir procFsRoot = .ok (entries.map ProcEntry.name)) :
    (∃ pid, sysmProcPortGet protocol port files tree = some (0, pid) ∧ IsOwner tree netconn (processes entries) pid) ↔
      FirstOwns tree netconn (processes entries) := by
  have answered : sysmProcPortGet protocol port files tree =
      some (0, procPortEntries tree netconn (entries.map ProcEntry.name)) := by
    simp only [sysmProcPortGet, selected, listens, listed, Option.bind_eq_bind, Option.bind_some, ne_eq, not_true_eq_false,
      if_false, Option.pure_def]
  rw [← isOwner_iff, answered]
  constructor
  · rintro ⟨pid, same, isOwner⟩
    cases same
    exact isOwner
  · intro isOwner
    exact ⟨_, rfl, isOwner⟩

/-- A process whose only descriptor is a socket -/
def oneProcess (directory socket : UInt64) : FileTree where
  opendir path :=
    if path = procFsRoot then .ok [ofString "self", ofString "7"]
    else if path = fdName (ofString "7") then .ok [ofString ".", ofString "..", ofString "0"]
    else .error ENOENT
  stat path :=
    if path = fdEntName (ofString "7") (ofString "0") then some ⟨0, socket, .socket⟩
    else if path = fdEntName (ofString "7") (ofString ".") then some ⟨0, directory, .directory⟩
    else some ⟨0, 1, .directory⟩

theorem seven_positive : 0 < (7 : Int32).toInt := by decide

theorem self_noDigit : (ofString "self").head?.any isDigit = false := by decide

def oneEntry : List ProcEntry := [.other (ofString "self") self_noDigit, .process 7 seven_positive]

/-- The record of the server on port 80 -/
def anyServer : SysmNetConnection := { stateRow 80 0 10 with inode := 17 : NetRow }.connection netconnTcp

theorem anyServer_selected : sysmNetConnectionGet .zero 80 (netconnServer ||| netconnTcp)
    { noFiles with tcp := .ok anyTable.bytes } = some (0, anyServer) := by decide +kernel

theorem oneEntry_listed (directory socket : UInt64) :
    (oneProcess directory socket).opendir procFsRoot = .ok (oneEntry.map ProcEntry.name) := rfl

/-- The process with the socket is found. -/
theorem sysmProcPortGet_oneProcess : ∃ pid,
    sysmProcPortGet netconnTcp 80 { noFiles with tcp := .ok anyTable.bytes } (oneProcess 18 17) = some (0, pid) ∧
      IsOwner (oneProcess 18 17) anyServer (processes oneEntry) pid := by
  refine (sysmProcPortGet_isOwner_iff anyServer_selected rfl (oneEntry_listed 18 17)).mpr fun pid found => ?_
  have member := List.mem_of_find?_eq_some found
  have seven : pid = 7 := List.mem_singleton.mp member
  subst seven
  refine ⟨_, ⟨⟨_, rfl, by decide⟩, rfl⟩, ofString "0", by decide +kernel, by decide, by decide +kernel, _, rfl, rfl, rfl⟩

/-- The directory of the descriptors has the number of a socket that no process
owns. -/
theorem sysmProcPortGet_differs : ¬ ∀ protocol port files tree netconn entries,
    sysmNetConnectionGet .zero port (netconnServer ||| protocol) files = some (0, netconn) → netconn.loPort = port →
      tree.opendir procFsRoot = .ok (entries.map ProcEntry.name) →
        ∃ pid, sysmProcPortGet protocol port files tree = some (0, pid) ∧ IsOwner tree netconn (processes entries) pid := by
  intro claim
  obtain ⟨pid, answered, isOwner⟩ := claim netconnTcp 80 _ (oneProcess 17 18) anyServer oneEntry anyServer_selected rfl
    (oneEntry_listed 17 18)
  have seven : sysmProcPortGet netconnTcp 80 { noFiles with tcp := .ok anyTable.bytes } (oneProcess 17 18) = some (0, 7) := by
    decide +kernel
  cases Option.some.inj (answered.symm.trans seven)
  obtain ⟨_, fdEnts, ⟨_, opened⟩, fdEnt, member, _, digits, sb, atFd, _, inode⟩ := isOwner.sound (by decide)
  have listed : (oneProcess 17 18).opendir (fdName (ofString "7")) = .ok [ofString ".", ofString "..", ofString "0"] := by
    decide
  have numeric : ∀ fdEnt ∈ [ofString ".", ofString "..", ofString "0"], (∀ c ∈ fdEnt, isDigit c = true) →
      fdEnt = ofString "0" := by decide +kernel
  have socket : (oneProcess 17 18).stat (fdEntName (ofString "7") (ofString "0")) = some ⟨0, 18, .socket⟩ := rfl
  have name : decimalInt (7 : Int32).toInt = ofString "7" := by decide
  rw [name] at opened atFd
  cases Except.ok.inj (opened.symm.trans listed)
  rw [numeric fdEnt member digits, socket] at atFd
  cases atFd
  exact absurd inode (by decide)

end Sysm
