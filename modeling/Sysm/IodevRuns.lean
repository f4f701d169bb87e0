import Sysm.CacheValues
import Sysm.Iodev
import Sysm.Lib.Machine

namespace Sysm
open CString

namespace Disks

variable (disks : Disks)

/-- The file systems on local disks. -/
def localDisks : List SysmFileSystem :=
  match disks.fileSystems with
  | .ok fslist => fslist.filter fun fsp => fsp.type = .localDisk
  | .error _ => []

/-- The name is that of the device of the path: a node with the same device
number, or what is mounted from a local disk on this directory. -/
def OwnDevice (dirname name : Text) : Prop :=
  ∃ sb, disks.stat (iodevPath dirname).1 = some sb ∧
    (((iodevPath dirname).2 = true ∨ sb.isBlk = true) ∧
        (∃ sb', disks.stat name = some sb' ∧ sb'.rdev = sb.rdev) ∨
      (iodevPath dirname).2 = false ∧ ∃ fsp ∈ disks.localDisks, fsp.devName = name ∧
        ∃ sb', disks.stat fsp.dirName = some sb' ∧ sb'.dev = sb.dev ∧ sb'.ino = sb.ino)

/-- The names that the calls for these paths can have brought to the table: a
device by its own path, and those of all mounts with any other path. -/
inductive Named (asked : List Text) : UInt64 → Text → Prop
  | path {dirname : Text} {sb : Stat} : dirname ∈ asked → (iodevPath dirname).2 = true →
      disks.stat (iodevPath dirname).1 = some sb → Named asked (sysmFsdevId sb) (iodevPath dirname).1
  | mount {dirname : Text} {fsp : SysmFileSystem} {sb : Stat} : dirname ∈ asked → (iodevPath dirname).2 = false →
      fsp ∈ disks.localDisks → sysmNameIsDev fsp.devName = true → disks.stat fsp.dirName = some sb →
      Named asked (sysmFsdevId sb) fsp.devName

/-- A call for a path after those for others: the names that it can bring fit
into the record, and no other device has come to the table under its number. -/
structure Apart (asked : List Text) (dirname : Text) : Prop where
  fits : ∀ key name, disks.Named [dirname] key name → name.length < iodevNameLen
  own : ∀ sb name, disks.stat (iodevPath dirname).1 = some sb →
    disks.Named (asked ++ [dirname]) (sysmFsdevId sb) name → disks.OwnDevice dirname name

end Disks

/-- A call of `sysm_iodev_get`. -/
structure IodevCall where
  dirname : Text
  created : UInt64
  clock : Clock

def iodevStep (disks : Disks) (sysm : SysmT) (call : IodevCall) : Option (Option (Nat × SysmIodev) × SysmT) :=
  sysmIodevGet sysm disks call.created call.clock call.dirname

/-- Every call of a run gets its own device, and no two calls for different
devices the same `sysm_iodev_t`. -/
def IodevsOwn (disks : Disks) (opened : SysmT) (calls : List IodevCall) : Prop :=
  ∃ answers final, Machine.run (iodevStep disks) opened calls = some (answers, final) ∧
    (∀ call entry iodev, (call, some (entry, iodev)) ∈ calls.zip answers → disks.OwnDevice call.dirname iodev.name) ∧
    ∀ call call' entry iodev iodev', (call, some (entry, iodev)) ∈ calls.zip answers →
      (call', some (entry, iodev')) ∈ calls.zip answers →
        ∃ name, disks.OwnDevice call.dirname name ∧ disks.OwnDevice call'.dirname name

variable {disks : Disks}

theorem Disks.Named.mono {asked others : List Text} (sub : asked ⊆ others) {key : UInt64} {name : Text}
    (named : disks.Named asked key name) : disks.Named others key name := by
  cases named with
  | path member isDev atPath => exact .path (sub member) isDev atPath
  | mount member isDir isMount isDev atDir => exact .mount (sub member) isDir isMount isDev atDir

section Get

variable {suits : UInt64 → SysmIodev → Prop} {fsdev : Cache SysmIodev} {entry : Nat} {key : UInt64}

theorem iodevNew_spec (sound : fsdev.Sound suits) (held : heldAt fsdev.cells entry = some (key, none)) {name : Text}
    (fits : name.length < iodevNameLen) {isPartition : Bool} (suit : suits key ⟨name, isPartition, .zero⟩) :
    ∃ fsdev', iodevNew fsdev entry name isPartition = some (fsdev', ⟨name, isPartition, .zero⟩) ∧ fsdev'.Sound suits ∧
      fsdev.Persists fsdev' ∧ heldAt fsdev'.cells entry = some (key, some ⟨name, isPartition, .zero⟩) := by
  obtain ⟨fsdev', store, sound', persists, held'⟩ := sound.fill held suit
  refine ⟨fsdev', ?_, sound', persists, held'⟩
  rw [iodevNew, if_pos fits]
  simp only [store, Option.bind_eq_bind, Option.bind_some, Option.pure_def]

theorem iodevMount_spec (sound : fsdev.Sound suits) (clock : Clock) {fsp : SysmFileSystem} {sb : Stat}
    (new : sysmNameIsDev fsp.devName = true →
      fsp.devName.length < iodevNameLen ∧ suits (sysmFsdevId sb) ⟨fsp.devName, true, .zero⟩) :
    ∃ fsdev', iodevMount fsdev clock fsp sb = some fsdev' ∧ fsdev'.Sound suits ∧ fsdev.Persists fsdev' := by
  obtain ⟨got, ent, value, get, sound', persists, held⟩ := sound.get (sysmFsdevId sb) (clock 0) (clock 1)
  have atValue := Cache.value_of_heldAt held
  simp only [iodevMount, get, atValue, Option.bind_eq_bind, Option.bind_some]
  cases value with
  | some iodev => exact ⟨got, rfl, sound', persists⟩
  | none =>
    cases isDev : sysmNameIsDev fsp.devName with
    | false => exact ⟨got, rfl, sound', persists⟩
    | true =>
      obtain ⟨fits, suit⟩ := new isDev
      obtain ⟨fsdev', made, sound'', persists', _⟩ := iodevNew_spec sound' held fits suit
      refine ⟨fsdev', ?_, sound'', persists.trans persists'⟩
      simp only [if_true, made, Option.bind_some, Option.pure_def]

theorem iodevMounts_spec (stat : Text → Option Stat) (sound : fsdev.Sound suits) (clock : Clock)
    (fslist : List SysmFileSystem)
    (new : ∀ fsp ∈ fslist, fsp.type = .localDisk → ∀ sb, stat fsp.dirName = some sb → sysmNameIsDev fsp.devName = true →
      fsp.devName.length < iodevNameLen ∧ suits (sysmFsdevId sb) ⟨fsp.devName, true, .zero⟩) :
    ∃ fsdev', iodevMounts stat fsdev clock fslist = some fsdev' ∧ fsdev'.Sound suits ∧ fsdev.Persists fsdev' := by
  induction fslist generalizing fsdev clock with
  | nil => exact ⟨fsdev, rfl, sound, .refl fsdev⟩
  | cons fsp fslist ih =>
    have later := fun other member => new other (List.mem_cons_of_mem fsp member)
    by_cases isLocal : fsp.type = .localDisk
    · cases atDir : stat fsp.dirName with
      | none =>
        obtain ⟨fsdev', run, rest⟩ := ih sound clock later
        exact ⟨fsdev', by simp only [iodevMounts, isLocal, if_true, atDir, run], rest⟩
      | some sb =>
        obtain ⟨middle, step, sound₁, persists₁⟩ :=
          iodevMount_spec sound clock (new fsp (List.mem_cons_self ..) isLocal sb atDir)
        obtain ⟨fsdev', run, sound₂, persists₂⟩ := ih sound₁ clock.later later
        refine ⟨fsdev', ?_, sound₂, persists₁.trans persists₂⟩
        simp only [iodevMounts, isLocal, if_true, atDir, step, run, Option.bind_eq_bind, Option.bind_some]
    · obtain ⟨fsdev', run, rest⟩ := ih sound clock later
      exact ⟨fsdev', by simp only [iodevMounts, isLocal, if_false, run], rest⟩

end Get

/-- The table of devices, which is empty as long as it has not been made. -/
def SysmT.iodevs (sysm : SysmT) (created : UInt64) : Cache SysmIodev := sysm.fsdev.getD (sysmCacheNew _ 15 created)

/-- The names in the table are those that the calls for these paths have brought. -/
def SysmT.IodevsNamed (sysm : SysmT) (disks : Disks) (asked : List Text) : Prop :=
  ∀ created, (sysm.iodevs created).Sound fun key iodev => disks.Named asked key iodev.name

theorem mem_localDisks {fslist : List SysmFileSystem} (atList : disks.fileSystems = .ok fslist) (fsp : SysmFileSystem) :
    fsp ∈ disks.localDisks ↔ fsp ∈ fslist ∧ fsp.type = .localDisk := by
  simp [Disks.localDisks, atList]

theorem sysmIodevGet_spec {sysm : SysmT} {asked : List Text} (named : sysm.IodevsNamed disks asked) (created : UInt64)
    (clock : Clock) {dirname : Text} (member : dirname ∈ asked)
    (fits : ∀ key name, disks.Named [dirname] key name → name.length < iodevNameLen) :
    ∃ reply table, sysmIodevGet sysm disks created clock dirname = some (reply, { sysm with fsdev := some table }) ∧
      (table.Sound fun key iodev => disks.Named asked key iodev.name) ∧ (sysm.iodevs created).Persists table ∧
      ∀ entry iodev, reply = some (entry, iodev) → ∃ sb, disks.stat (iodevPath dirname).1 = some sb ∧
        heldAt table.cells entry = some (sysmFsdevId sb, some iodev) := by
  have sound := named created
  unfold SysmT.iodevs at sound ⊢
  simp only [sysmIodevGet]
  cases atPath : disks.stat (iodevPath dirname).1 with
  | none => exact ⟨none, _, rfl, sound, .refl _, by simp⟩
  | some sb =>
    obtain ⟨got, entry, value, get, sound₁, persists₁, held⟩ := sound.get (sysmFsdevId sb) (clock 0) (clock 1)
    have atValue := Cache.value_of_heldAt held
    simp only [get, atValue, Option.bind_eq_bind, Option.bind_some]
    cases value with
    | some iodev =>
      refine ⟨_, _, rfl, sound₁, persists₁, ?_⟩
      intro other found same
      cases same
      exact ⟨sb, rfl, held⟩
    | none =>
      cases isDev : (iodevPath dirname).2 with
      | true =>
        obtain ⟨table, made, sound₂, persists₂, held'⟩ := @iodevNew_spec _ got entry (sysmFsdevId sb) sound₁ held
          (iodevPath dirname).1 (fits _ _ (.path (List.mem_singleton_self _) isDev atPath)) false
          (.path member isDev atPath)
        simp only [iodevFind, if_true, made, Option.bind_eq_bind, Option.bind_some, Option.pure_def]
        refine ⟨_, _, rfl, sound₂, persists₁.trans persists₂, ?_⟩
        intro other found same
        cases same
        exact ⟨sb, rfl, held'⟩
      | false =>
        simp only [iodevFind, Bool.false_eq_true, if_false]
        cases atList : disks.fileSystems with
        | error errno => exact ⟨none, got, rfl, sound₁, persists₁, by simp⟩
        | ok fslist =>
          obtain ⟨table, run, sound₂, persists₂⟩ := iodevMounts_spec disks.stat sound₁ clock.later fslist
            (fun fsp inList isLocal sb atDir mountDev => by
              have isMount := (mem_localDisks atList fsp).mpr ⟨inList, isLocal⟩
              exact ⟨fits _ _ (.mount (List.mem_singleton_self _) isDev isMount mountDev atDir),
                .mount member isDev isMount mountDev atDir⟩)
          obtain ⟨value, held', _⟩ := persists₂ entry _ none held
          have atValue' := Cache.value_of_heldAt held'
          simp only [run, atValue', Option.bind_eq_bind, Option.bind_some]
          cases value with
          | none => exact ⟨none, table, rfl, sound₂, persists₁.trans persists₂, by simp⟩
          | some iodev =>
            refine ⟨_, table, rfl, sound₂, persists₁.trans persists₂, ?_⟩
            intro other found same
            obtain ⟨_, pair⟩ := Option.ite_none_right_eq_some.mp same
            cases pair
            exact ⟨sb, rfl, held'⟩

/-- What a run of calls has brought: names that are accounted for, and an entry
for each answer that goes on to hold it. -/
theorem iodevRun_spec {opened : SysmT} (noTable : opened.fsdev = none) (calls : List IodevCall)
    (apart : ∀ before call after, calls = before ++ call :: after →
      disks.Apart (before.map IodevCall.dirname) call.dirname) :
    ∃ answers final, Machine.run (iodevStep disks) opened calls = some (answers, final) ∧
      final.IodevsNamed disks (calls.map IodevCall.dirname) ∧
      ∀ call entry iodev, (call, some (entry, iodev)) ∈ calls.zip answers →
        disks.OwnDevice call.dirname iodev.name ∧
          ∃ key, ∀ created, heldAt (final.iodevs created).cells entry = some (key, some iodev) := by
  induction calls using List.reverseRecOn with
  | nil =>
    refine ⟨[], opened, rfl, ?_, by simp⟩
    intro created
    rw [SysmT.iodevs, noTable]
    exact Cache.sound_new (by decide) created _
  | append_singleton done call ih =>
    obtain ⟨answers, middle, run, named, held⟩ := ih fun before other after split =>
      apart before other (after ++ [call]) (by rw [split, List.append_assoc, List.cons_append])
    have here := apart done call [] rfl
    have asked : (done ++ [call]).map IodevCall.dirname = done.map IodevCall.dirname ++ [call.dirname] := by simp
    have named' : middle.IodevsNamed disks (done.map IodevCall.dirname ++ [call.dirname]) := fun created =>
      (named created).mono fun key iodev => Disks.Named.mono (List.subset_append_left ..)
    obtain ⟨reply, table, step, sound, persists, answered⟩ :=
      sysmIodevGet_spec named' call.created call.clock (List.mem_append_right _ (List.mem_singleton_self _)) here.fits
    refine ⟨answers ++ [reply], { middle with fsdev := some table },
      Machine.run_snoc_iff.mpr ⟨answers, middle, reply, run, step, rfl⟩, by rw [asked]; exact fun _ => sound, ?_⟩
    intro other entry iodev member
    rw [List.zip_append (Machine.run_length run).symm, List.mem_append] at member
    rcases member with old | new
    · obtain ⟨own, key, kept⟩ := held other entry iodev old
      obtain ⟨value, later, same⟩ := persists entry key (some iodev) (kept call.created)
      refine ⟨own, key, fun _ => ?_⟩
      rw [same iodev rfl] at later
      exact later
    · cases List.mem_singleton.mp new
      obtain ⟨sb, atPath, atEntry⟩ := answered entry iodev rfl
      exact ⟨here.own sb iodev.name atPath (sound.values entry _ iodev atEntry), sysmFsdevId sb, fun _ => atEntry⟩

/-- As long as no device comes to the table under the number of another one,
every path gets its own device. -/
theorem iodevsOwn_of_apart (disks : Disks) (opened : SysmT) (noTable : opened.fsdev = none) (calls : List IodevCall)
    (apart : ∀ before call after, calls = before ++ call :: after →
      disks.Apart (before.map IodevCall.dirname) call.dirname) : IodevsOwn disks opened calls := by
  obtain ⟨answers, final, run, _, held⟩ := iodevRun_spec noTable calls apart
  refine ⟨answers, final, run, fun call entry iodev member => (held call entry iodev member).1, ?_⟩
  intro call call' entry iodev iodev' member member'
  obtain ⟨own, key, atEntry⟩ := held call entry iodev member
  obtain ⟨own', key', atEntry'⟩ := held call' entry iodev' member'
  have same : iodev = iodev' := by
    have both := (atEntry 0).symm.trans (atEntry' 0)
    simp only [Option.some.injEq, Prod.mk.injEq] at both
    exact both.2
  exact ⟨iodev.name, own, same ▸ own'⟩

/-- A machine with `/` on the first partition of its disk. The root directory
of a file system like `ext4` is inode 2. -/
def rootDisks : Disks where
  stat path :=
    if path = ofString "/" then some ⟨false, 0, 2, 0x801⟩
    else if path = ofString "/dev/sda1" then some ⟨true, 0x801, 300, 5⟩
    else if path = ofString "/dev/sda3" then some ⟨true, 0x803, 302, 5⟩
    else none
  fileSystems := .ok [⟨ofString "/", ofString "/dev/sda1", .localDisk⟩]

def askIodev (path : String) : IodevCall := ⟨ofString path, 0, fun _ => 0⟩

theorem iodevsOwn_root : IodevsOwn rootDisks openedSysm [askIodev "/", askIodev "/dev/sda1"] := by
  refine iodevsOwn_of_apart rootDisks openedSysm rfl _ fun before call after split => ?_
  have sda1 (asked : List Text) (onlyRoot : asked ⊆ [ofString "/", ofString "/dev/sda1"]) (key : UInt64) (name : Text)
      (named : rootDisks.Named asked key name) : name = ofString "/dev/sda1" := by
    cases named with
    | path member isDev atPath =>
      rcases List.mem_cons.mp (onlyRoot member) with rfl | last
      · exact absurd isDev (by decide)
      · rw [List.mem_singleton.mp last]
        decide
    | mount member isDir isMount isDev atDir =>
      rw [mem_localDisks rfl, List.mem_singleton] at isMount
      rw [isMount.1]
  have fits : (ofString "/dev/sda1").length < iodevNameLen := by decide
  have ownDir : rootDisks.OwnDevice (ofString "/") (ofString "/dev/sda1") :=
    ⟨⟨false, 0, 2, 0x801⟩, by decide, Or.inr ⟨by decide, ⟨ofString "/", ofString "/dev/sda1", .localDisk⟩,
      (mem_localDisks rfl _).mpr ⟨List.mem_singleton_self _, rfl⟩, rfl, ⟨false, 0, 2, 0x801⟩, by decide, rfl, rfl⟩⟩
  have ownNode : rootDisks.OwnDevice (ofString "/dev/sda1") (ofString "/dev/sda1") :=
    ⟨⟨true, 0x801, 300, 5⟩, by decide, Or.inl ⟨Or.inl (by decide), ⟨true, 0x801, 300, 5⟩, by decide, rfl⟩⟩
  obtain _ | ⟨first, _ | ⟨second, others⟩⟩ := before
  · cases split
    constructor
    · intro key name named
      rw [sda1 _ (by simp [askIodev]) key name named]
      exact fits
    · intro sb name _ named
      rw [sda1 _ (by simp [askIodev]) _ name named]
      exact ownDir
  · cases split
    constructor
    · intro key name named
      rw [sda1 _ (by simp [askIodev]) key name named]
      exact fits
    · intro sb name _ named
      rw [sda1 _ (by simp [askIodev]) _ name named]
      exact ownNode
  · simp at split

/-- The number of the directory `/` is that of the third partition, which gets
the record of the first one. -/
theorem sysmIodevGet_collides :
    ¬ ∀ memory opened getpagesize ticks procStat disks calls, sysmOpen memory getpagesize ticks procStat = .ok opened →
      IodevsOwn disks opened calls := by
  intro claim
  obtain ⟨answers, final, run, own, _⟩ :=
    claim .zero openedSysm 4096 100 (.ok []) rootDisks [askIodev "/", askIodev "/dev/sda3"] rfl
  have replied : (Machine.run (iodevStep rootDisks) openedSysm [askIodev "/", askIodev "/dev/sda3"]).map (fun result =>
      result.1[1]?.bind fun reply => reply.map fun found => found.2.name) = some (some (ofString "/dev/sda1")) := by
    decide +kernel
  rw [run, Option.map_some, Option.some_inj] at replied
  obtain ⟨reply, second, found⟩ := Option.bind_eq_some_iff.mp replied
  obtain ⟨⟨entry, iodev⟩, rfl, name⟩ := Option.map_eq_some_iff.mp found
  have member : (askIodev "/dev/sda3", some (entry, iodev)) ∈ [askIodev "/", askIodev "/dev/sda3"].zip answers :=
    List.mem_of_getElem? (List.getElem?_zip_eq_some.mpr ⟨rfl, second⟩)
  obtain ⟨sb, atPath, ⟨_, sb', atName, sameNode⟩ | ⟨isDir, _⟩⟩ := own _ entry iodev member
  · rw [show iodev.name = ofString "/dev/sda1" from name] at atName
    have third : rootDisks.stat (iodevPath (askIodev "/dev/sda3").dirname).1 = some ⟨true, 0x803, 302, 5⟩ := by decide
    have first : rootDisks.stat (ofString "/dev/sda1") = some ⟨true, 0x801, 300, 5⟩ := by decide
    cases third.symm.trans atPath
    cases first.symm.trans atName
    exact absurd sameNode (by decide)
  · exact absurd isDir (by decide)

end Sysm
