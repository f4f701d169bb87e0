import Sysm.CacheHas
import Sysm.ProcEffect
import Sysm.StatLine

namespace Sysm

theorem pidKey_injective {pid other : Int32} (same : pidKey pid = pidKey other) : pid = other := by
  unfold pidKey at same
  have signed : pid.toInt64 = other.toInt64 := by
    exact congrArg Int64.ofUInt64 same
  have value := congrArg Int64.toInt signed
  rw [Int32.toInt_toInt64, Int32.toInt_toInt64] at value
  exact Int32.toInt_inj.mp value

/-- The table of `sysm_proc_cpu_get` holds this record for the process. -/
def SysmT.CpuHas (sysm : SysmT) (pid : Int32) (record : SysmProcCpu) (accessed : UInt64) : Prop :=
  ∃ table chains, sysm.procCpu = some table ∧ table.Repr chains ∧
    table.Has chains (pidKey pid) (some record) accessed

/-- The table, if there is one, is well formed and has a record in each entry. -/
def SysmT.CpuSound (sysm : SysmT) : Prop :=
  ∀ table, sysm.procCpu = some table → ∃ chains, table.Repr chains ∧
    table.entryExpirePeriod = pidCacheEntryExpirePeriod ∧ ∀ key value accessed,
      table.Has chains key value accessed → value ≠ none

theorem SysmT.cpuHas_iff {sysm : SysmT} {table : Cache SysmProcCpu} {chains : List (List Nat)}
    (atTable : sysm.procCpu = some table) (repr : table.Repr chains) (pid : Int32) (record : SysmProcCpu)
    (accessed : UInt64) :
    sysm.CpuHas pid record accessed ↔ table.Has chains (pidKey pid) (some record) accessed := by
  constructor
  · rintro ⟨table', chains', atTable', repr', has⟩
    cases Option.some.inj (atTable.symm.trans atTable')
    rwa [repr.unique repr']
  · intro has
    exact ⟨table, chains, atTable, repr, has⟩

theorem SysmT.CpuHas.unique {sysm : SysmT} {pid : Int32} {record other : SysmProcCpu} {accessed accessed' : UInt64}
    (has : sysm.CpuHas pid record accessed) (has' : sysm.CpuHas pid other accessed') :
    record = other ∧ accessed = accessed' := by
  obtain ⟨table, chains, atTable, repr, here⟩ := has
  have here' := (SysmT.cpuHas_iff atTable repr pid other accessed').mp has'
  obtain ⟨value, time⟩ := repr.has_unique here here'
  exact ⟨Option.some.inj value, time⟩

/-- The call resizes the table of `sysm_proc_cpu_get`. -/
def SysmT.cpuResizes (sysm : SysmT) (pid : Int32) (clock : CpuClock) : Bool :=
  (sysm.procCpuTable clock.created).getResizes (pidKey pid) clock.sweep

/-- The record of a successful answer, apart from the percentage: the fields
of `last_proc_stat` written over what the caller passed in. -/
def SysmProcCpu.answer (procCpu : SysmProcCpu) (timeNow : UInt64) (pstat : LinuxProcStat) : SysmProcCpu :=
  { procCpu with
    startTime := pstat.startTime
    user := pstat.utime
    sys := pstat.stime
    total := pstat.utime + pstat.stime
    lastTime := timeNow }

/-- The percentage reported for a total, given the record of the call before. -/
def cpuPercent (prev : SysmProcCpu) (timeNow total : UInt64) : Rat :=
  let otime := if total < prev.total then 0 else prev.total
  if otime = 0 then 0 else (total - otime).toNat / (timeNow - prev.lastTime).toNat

/-- The three ways a call of `sysm_proc_cpu_get` can go once it has found the
record `prev`: the record that is then in the table, the status and the record
that are returned, and the state. -/
inductive CpuAnswer (sysm : SysmT) (pid : Int32) (procCpu : SysmProcCpu) (clock : CpuClock) (stat : FileRead)
    (prev : SysmProcCpu) : SysmProcCpu → Int → SysmProcCpu → SysmT → Prop
  | again {sysm'} : clock.timeNow - prev.lastTime = 0 → sysm'.SameMachine sysm →
      sysm'.lastProcStat = sysm.lastProcStat →
      CpuAnswer sysm pid procCpu clock stat prev { prev with lastTime := clock.timeNow } 0
        { prev with lastTime := clock.timeNow } sysm'
  | failed {status sysm'} : clock.timeNow - prev.lastTime ≠ 0 → status ≠ 0 →
      ReadEffect sysm pid clock.seconds stat status sysm' →
      CpuAnswer sysm pid procCpu clock stat prev { prev with lastTime := clock.timeNow } status
        { procCpu with lastTime := clock.timeNow } sysm'
  | answered {sysm'} : clock.timeNow - prev.lastTime ≠ 0 →
      ReadEffect sysm pid clock.seconds stat 0 sysm' →
      CpuAnswer sysm pid procCpu clock stat prev (procCpu.answer clock.timeNow sysm'.lastProcStat) 0
        { procCpu.answer clock.timeNow sysm'.lastProcStat with
          percent := cpuPercent prev clock.timeNow (sysm'.lastProcStat.utime + sysm'.lastProcStat.stime) } sysm'

theorem CpuAnswer.machine {sysm sysm' : SysmT} {pid : Int32} {procCpu prev kept record : SysmProcCpu}
    {clock : CpuClock} {stat : FileRead} {status : Int}
    (answer : CpuAnswer sysm pid procCpu clock stat prev kept status record sysm') : sysm'.SameMachine sysm := by
  cases answer with
  | again _ same _ => exact same
  | failed _ _ effect => exact effect.machine
  | answered _ effect => exact effect.machine

/-- The record that a call of `sysm_proc_cpu_get` finds. -/
def SysmT.procCpuPrev (sysm : SysmT) (pid : Int32) (clock : CpuClock) : Option SysmProcCpu :=
  (sysm.procCpuEntry pid clock).map fun (_, _, prev) => prev

/-- What a call of `sysm_proc_cpu_get` does to the records in the table. -/
structure CpuStep (sysm : SysmT) (pid : Int32) (clock : CpuClock) (prev kept : SysmProcCpu) (sysm' : SysmT) : Prop where
  entry : sysm.procCpuPrev pid clock = some prev
  sound : sysm'.CpuSound
  has : sysm'.CpuHas pid kept clock.access
  found : prev = .zero ∨ ∃ accessed, sysm.CpuHas pid prev accessed
  others : ∀ other record accessed, other ≠ pid → sysm'.CpuHas other record accessed →
    sysm.CpuHas other record accessed
  keeps : sysm.cpuResizes pid clock = false → ∀ other record accessed, sysm.CpuHas other record accessed →
    ¬ pidCacheEntryExpirePeriod < clock.sweep - accessed →
      (other = pid → prev = record) ∧ (other ≠ pid → sysm'.CpuHas other record accessed)
  lost : sysm.cpuResizes pid clock = true → prev = .zero

theorem SysmT.CpuSound.table {sysm : SysmT} (sound : sysm.CpuSound) (created : UInt64) :
    ∃ chains, (sysm.procCpuTable created).Repr chains ∧
      (sysm.procCpuTable created).entryExpirePeriod = pidCacheEntryExpirePeriod ∧
      (∀ key value accessed, (sysm.procCpuTable created).Has chains key value accessed → value ≠ none) ∧
      ∀ pid record accessed, sysm.CpuHas pid record accessed ↔
        (sysm.procCpuTable created).Has chains (pidKey pid) (some record) accessed := by
  cases atTable : sysm.procCpu with
  | none =>
    simp only [SysmT.procCpuTable, atTable, Option.getD_none]
    refine ⟨_, sysmExpiredCacheNew_repr 128 _ _ created (by decide), rfl, ?_, ?_⟩
    · intro key value accessed has
      exact absurd has (Cache.has_nil _ _ _ _ _)
    · intro pid record accessed
      constructor
      · rintro ⟨table, _, here, _⟩
        cases atTable.symm.trans here
      · intro has
        exact absurd has (Cache.has_nil _ _ _ _ _)
  | some table =>
    obtain ⟨chains, repr, expire, filled⟩ := sound table atTable
    simp only [SysmT.procCpuTable, atTable, Option.getD_some]
    exact ⟨chains, repr, expire, filled, SysmT.cpuHas_iff atTable repr⟩

/-- A store into the entry of the process makes a sound state out of the table
that the lookup has left, whatever else the state holds. -/
theorem cpuStep_of_stored {sysm sysm' : SysmT} {pid : Int32} {clock : CpuClock} {table stored : Cache SysmProcCpu}
    {entry : Nat} {value : Option SysmProcCpu} {chains chains' : List (List Nat)} {kept : SysmProcCpu}
    (atPrev : sysm.procCpuPrev pid clock = some (value.getD .zero))
    (filled : ∀ key value accessed, (sysm.procCpuTable clock.created).Has chains key value accessed → value ≠ none)
    (had : ∀ pid record accessed, sysm.CpuHas pid record accessed ↔
      (sysm.procCpuTable clock.created).Has chains (pidKey pid) (some record) accessed)
    (expire : (sysm.procCpuTable clock.created).entryExpirePeriod = pidCacheEntryExpirePeriod)
    (got : (sysm.procCpuTable clock.created).Got chains (pidKey pid) clock.sweep clock.access table entry value chains')
    (repr : stored.Repr chains') (period : stored.entryExpirePeriod = table.entryExpirePeriod)
    (has : stored.Has chains' (pidKey pid) (some kept) clock.access)
    (others : ∀ key v t, key ≠ pidKey pid → (stored.Has chains' key v t ↔ table.Has chains' key v t))
    (atTable : sysm'.procCpu = some stored) : CpuStep sysm pid clock (value.getD .zero) kept sysm' where
  entry := atPrev
  sound := by
    intro found atFound
    cases Option.some.inj (atTable.symm.trans atFound)
    refine ⟨chains', repr, period.trans (got.expire.trans expire), ?_⟩
    intro key v t here
    by_cases same : key = pidKey pid
    · rw [same] at here
      rw [(repr.has_unique here has).1]
      exact Option.some_ne_none kept
    · exact filled key v t (got.others key v t same ((others key v t same).mp here))
  has := (SysmT.cpuHas_iff atTable repr pid kept clock.access).mpr has
  found := by
    rcases got.found with fresh | ⟨accessed, old⟩
    · rw [fresh]
      exact Or.inl rfl
    · obtain ⟨record, present⟩ := Option.ne_none_iff_exists'.mp (filled _ _ _ old)
      rw [present] at old ⊢
      exact Or.inr ⟨accessed, (had pid record accessed).mpr old⟩
  others := by
    intro other record accessed different here
    have apart : pidKey other ≠ pidKey pid := fun same => different (pidKey_injective same)
    have inTable := (others _ _ _ apart).mp ((SysmT.cpuHas_iff atTable repr other record accessed).mp here)
    exact (had other record accessed).mpr (got.others _ _ _ apart inTable)
  keeps := by
    intro stays other record accessed here alive
    rw [← expire] at alive
    have kept := got.keeps stays _ _ _ ((had other record accessed).mp here) alive
    constructor
    · intro same
      rw [kept.1 (by rw [same]), Option.getD_some]
    · intro different
      have apart : pidKey other ≠ pidKey pid := fun same => different (pidKey_injective same)
      exact (SysmT.cpuHas_iff atTable repr other record accessed).mpr ((others _ _ _ apart).mpr (kept.2 apart))
  lost := by
    intro resized
    rw [got.lost resized]
    rfl

theorem sysmProcCpuGet_spec {sysm sysm' : SysmT} {pid : Int32} {procCpu record : SysmProcCpu} {clock : CpuClock}
    {stat : FileRead} {status : Int} (sound : sysm.CpuSound)
    (run : sysmProcCpuGet sysm pid procCpu clock stat = some ((status, record), sysm')) :
    ∃ prev kept, CpuStep sysm pid clock prev kept sysm' ∧
      CpuAnswer sysm pid procCpu clock stat prev kept status record sysm' := by
  obtain ⟨chains, repr, expire, filled, had⟩ := sound.table clock.created
  obtain ⟨table, entry, value, chains', get, got⟩ := repr.sysmCacheGet_spec (pidKey pid) clock.sweep clock.access
  have found : sysm.procCpuEntry pid clock = some (table, entry, value.getD .zero) := by
    simp only [SysmT.procCpuEntry, get, got.atValue, Option.bind_eq_bind, Option.bind_some, Option.pure_def]
  let prev := value.getD SysmProcCpu.zero
  have atPrev : sysm.procCpuPrev pid clock = some prev := by rw [SysmT.procCpuPrev, found, Option.map_some]
  obtain ⟨first, store₁, repr₁, expire₁, holds₁, has₁, others₁⟩ :=
    got.repr.store_has got.holds got.has (some { prev with lastTime := clock.timeNow })
  have step₁ : ∀ state : SysmT, state.procCpu = some first →
      CpuStep sysm pid clock prev { prev with lastTime := clock.timeNow } state :=
    fun state atTable => cpuStep_of_stored atPrev filled had expire got repr₁ expire₁ has₁ others₁ atTable
  simp only [sysmProcCpuGet, found, Option.bind_eq_bind, Option.bind_some] at run
  rw [store₁, Option.bind_some] at run
  by_cases same : clock.timeNow - prev.lastTime = 0
  · rw [if_pos same] at run
    cases run
    exact ⟨prev, _, step₁ _ rfl, .again same ⟨rfl, rfl, rfl⟩ rfl⟩
  · rw [if_neg same] at run
    obtain ⟨⟨result, mid⟩, read, run⟩ := Option.bind_eq_some_iff.mp run
    have machine : SysmT.SameMachine { sysm with procCpu := some first } sysm := ⟨rfl, rfl, rfl⟩
    obtain ⟨code, readStat, answer⟩ := sysmProcTimeGet_cases read
    have effect := procStatRead_effect machine rfl readStat
    have atTable : mid.procCpu = some first := by rw [procStatRead_frame readStat]
    rcases answer with ⟨failed, rfl⟩ | ⟨zero, rfl⟩
    · cases run
      exact ⟨prev, _, step₁ _ atTable, .failed same failed effect⟩
    · let kept := procCpu.answer clock.timeNow mid.lastProcStat
      obtain ⟨second, store₂, repr₂, expire₂, _, has₂, others₂⟩ := repr₁.store_has holds₁ has₁ (some kept)
      have others : ∀ key v t, key ≠ pidKey pid → (second.Has chains' key v t ↔ table.Has chains' key v t) :=
        fun key v t different => (others₂ key v t different).trans (others₁ key v t different)
      have step₂ : CpuStep sysm pid clock prev kept { mid with procCpu := some second } :=
        cpuStep_of_stored atPrev filled had expire got repr₂ (expire₂.trans expire₁) has₂ others rfl
      obtain ⟨third, stored, run⟩ := Option.bind_eq_some_iff.mp run
      cases run
      cases Option.some.inj (store₂.symm.trans stored)
      rw [zero] at effect
      have stored : ReadEffect sysm pid clock.seconds stat 0 { mid with procCpu := some second } :=
        effect.congr ⟨rfl, rfl, rfl⟩ rfl
      exact ⟨prev, kept, step₂, .answered same stored⟩

/-- A call of `sysm_proc_cpu_get`. `procCpu` is what the record of the caller
holds before the call, and `stat` the stat file of the process. -/
structure CpuCall where
  pid : Int32
  procCpu : SysmProcCpu
  clock : CpuClock
  stat : FileRead

/-- The clock does not go back during a call. -/
structure CpuClock.Steady (clock : CpuClock) : Prop where
  created : clock.timeNow ≤ clock.created
  sweep : clock.created ≤ clock.sweep
  access : clock.sweep ≤ clock.access

/-- The whole seconds of the clock, which are what `time()` returns. -/
def CpuClock.wholeSeconds (clock : CpuClock) : Int := clock.timeNow.toNat / 1000

def cpuStep (sysm : SysmT) (call : CpuCall) : Option ((Int × SysmProcCpu) × SysmT) :=
  sysmProcCpuGet sysm call.pid call.procCpu call.clock call.stat

/-- A call at one moment. -/
def callAt (pid : Int32) (millis : UInt64) (stat : FileRead) : CpuCall :=
  ⟨pid, .zero, ⟨millis, millis, millis, millis, (millis.toNat / 1000 : Nat)⟩, stat⟩

theorem callAt_steady (pid : Int32) (millis : UInt64) (stat : FileRead) : (callAt pid millis stat).clock.Steady ∧
      (callAt pid millis stat).clock.seconds = (callAt pid millis stat).clock.wholeSeconds :=
  ⟨⟨UInt64.le_refl _, UInt64.le_refl _, UInt64.le_refl _⟩, rfl⟩

end Sysm
