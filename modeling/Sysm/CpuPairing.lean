import Sysm.Lib.CNumbers
import Sysm.CpuPerc

namespace Sysm
open CString

/-- The members of the object of `Sysm` that `getCpuPercentages` uses. -/
structure JavaSysm where
  native : SysmT
  lastCpuList : Option (List SysmCpu)

/-- What `getCpus` finds when it is called. -/
structure CpuListRead where
  memory : Nat → SysmCpu
  stat : Except Int (List UInt8)

/-- `getCpus`, which makes an array of the list or throws its status -/
def getCpus (sysm : SysmT) (cpuid : UInt32 → SysmCpuid) (read : CpuListRead) :
    Option (Except Int (List SysmCpu) × SysmT) :=
  (sysmCpuListGet sysm cpuid read.memory read.stat).map fun (result, sysm) => (result.map GrowList.items, sysm)

/-- `getCpuPercentages`. The first list is read only if there is none of an
earlier call. A percentage that is not a number is `none`. -/
def getCpuPercentages (java : JavaSysm) (cpuid : UInt32 → SysmCpuid) (first second : CpuListRead) :
    Option (Except Int (List (Option SysmCpuPrec)) × JavaSysm) := do
  let (oldCpuList, native) ← match java.lastCpuList with
    | none => getCpus java.native cpuid first
    | some lastCpuList => some (.ok lastCpuList, java.native)
  match oldCpuList with
  | .error status => return (.error status, { java with native })
  | .ok oldCpuList =>
    let (lastCpuList, native) ← getCpus native cpuid second
    match lastCpuList with
    | .error status => return (.error status, { java with native })
    | .ok lastCpuList =>
      return (.ok (List.zipWith sysmCpuPercCal oldCpuList lastCpuList), ⟨native, some lastCpuList⟩)

/-- A line of `/proc/stat` for a processor, with its counters as text. -/
structure StatCpuLine where
  number : Nat
  counters : Text
  plain : ∀ c ∈ counters, c ≠ 10 ∧ c ≠ 0
  fits : (ofString "cpu" ++ decimal number ++ 32 :: counters).length + 1 < BUFSIZ

def StatCpuLine.text (line : StatCpuLine) : Text := ofString "cpu" ++ decimal line.number ++ 32 :: line.counters

/-- A snapshot of `/proc/stat`: the line of the totals, those of the processors
that are online, and the rest of the file. -/
structure StatSnapshot where
  total : Text
  cpus : List StatCpuLine
  others : List UInt8
  plain : ∀ c ∈ total, c ≠ 10 ∧ c ≠ 0
  fits : total.length + 1 < BUFSIZ
  increasing : (cpus.map StatCpuLine.number).Pairwise (· < ·)
  noCpu : ∀ line ∈ (fgetsAll BUFSIZ others).head?, isCpuLine line = false

namespace StatSnapshot

variable (snapshot : StatSnapshot)

def bytes : List UInt8 :=
  snapshot.total ++ 10 :: (snapshot.cpus.flatMap (fun line => line.text ++ [10]) ++ snapshot.others)

/-- The lines that samples are taken of, with the number of the processor if the
line is that of one. -/
def lines : List (Option Nat × Text) :=
  if snapshot.cpus = [] then [(none, snapshot.total ++ [10])]
  else snapshot.cpus.map fun line => (some line.number, line.text ++ [10])

/-- The samples in the order in which they are taken. -/
def samples (ticks : UInt64) : List (Option Nat × SysmCpu) :=
  snapshot.lines.map fun (processor, line) => (processor, getCpuMetrics ticks .zero line)

def processors : List Nat := snapshot.cpus.map StatCpuLine.number

end StatSnapshot

/-- After a call that has read the one snapshot, each percentage of a call that
reads the other is calculated from two samples of one processor. -/
def PairsSameProcessor (earlier later : StatSnapshot) : Prop :=
  ∀ (java java' java'' : JavaSysm) (cpuid : UInt32 → SysmCpuid) (first second first' second' : CpuListRead)
    (before percentages : List (Option SysmCpuPrec)),
    (sysmCpuCoreRollup java.native cpuid).1 = false →
    second.stat = .ok earlier.bytes → getCpuPercentages java cpuid first second = some (.ok before, java') →
    second'.stat = .ok later.bytes → getCpuPercentages java' cpuid first' second' = some (.ok percentages, java'') →
    ∀ (i : Nat) (perc : Option SysmCpuPrec), percentages[i]? = some perc → ∃ n prev curr,
      (earlier.samples java.native.ticks)[i]? = some (some n, prev) ∧
      (later.samples java.native.ticks)[i]? = some (some n, curr) ∧ perc = sysmCpuPercCal prev curr

theorem StatCpuLine.text_plain (line : StatCpuLine) : ∀ c ∈ line.text, c ≠ 10 ∧ c ≠ 0 := by
  intro c member
  simp only [StatCpuLine.text, List.append_assoc, List.mem_append, List.mem_cons] at member
  rcases member with prefixed | digit | blank | counter
  · have plain : ∀ c ∈ ofString "cpu", c ≠ 10 ∧ c ≠ 0 := List.all_iff_forall_prop.mp (by decide)
    exact plain c prefixed
  · have plain := decimal_plain digit
    exact ⟨plain.2.1, plain.1⟩
  · rw [blank]
    decide
  · exact line.plain c counter

theorem StatCpuLine.isCpuLine_text (line : StatCpuLine) : isCpuLine (line.text ++ [10]) = true := by
  rw [isCpuLine, List.isPrefixOf_iff_prefix, StatCpuLine.text, List.append_assoc, List.append_assoc]
  exact List.prefix_append _ _

namespace StatSnapshot

variable (snapshot : StatSnapshot)

theorem fgetsAll_cpus (cpus : List StatCpuLine) (others : List UInt8) :
    fgetsAll BUFSIZ (cpus.flatMap (fun line => line.text ++ [10]) ++ others) =
      cpus.map (fun line => line.text ++ [10]) ++ fgetsAll BUFSIZ others := by
  induction cpus with
  | nil => rfl
  | cons line cpus ih =>
    have first := @fgetsAll_line BUFSIZ line.text (cpus.flatMap (fun line => line.text ++ [10]) ++ others)
      line.text_plain line.fits
    rw [List.flatMap_cons, List.append_assoc, List.append_assoc, List.singleton_append, first, ih, List.map_cons,
      List.cons_append]

/-- The lines of processors are those behind the first one. -/
theorem takeWhile_cpus :
    (snapshot.cpus.map (fun line => line.text ++ [10]) ++ fgetsAll BUFSIZ snapshot.others).takeWhile isCpuLine =
      snapshot.cpus.map fun line => line.text ++ [10] := by
  have all : ∀ line ∈ snapshot.cpus.map (fun line => line.text ++ [10]), isCpuLine line = true := by
    intro text member
    obtain ⟨line, _, rfl⟩ := List.mem_map.mp member
    exact line.isCpuLine_text
  rw [List.takeWhile_append_of_pos all]
  have noCpus : (fgetsAll BUFSIZ snapshot.others).takeWhile isCpuLine = [] := by
    cases lines : fgetsAll BUFSIZ snapshot.others with
    | nil => rfl
    | cons line rest =>
      have other := snapshot.noCpu line (by rw [lines]; rfl)
      rw [List.takeWhile_cons_of_neg (by rw [other]; decide)]
  rw [noCpus, List.append_nil]

/-- The list has the samples, without the numbers of the processors. -/
theorem getCpus_items {sysm : SysmT} {cpuid : UInt32 → SysmCpuid} (off : (sysmCpuCoreRollup sysm cpuid).1 = false)
    {read : CpuListRead} (stat : read.stat = .ok snapshot.bytes) :
    getCpus sysm cpuid read =
      some (.ok ((snapshot.samples (sysmCpuCoreRollup sysm cpuid).2.ticks).map Prod.snd),
        (sysmCpuCoreRollup sysm cpuid).2) := by
  have lines : fgetsAll BUFSIZ snapshot.bytes = (snapshot.total ++ [10]) ::
      (snapshot.cpus.map (fun line => line.text ++ [10]) ++ fgetsAll BUFSIZ snapshot.others) := by
    rw [bytes, fgetsAll_line snapshot.plain snapshot.fits, fgetsAll_cpus]
  obtain ⟨cpuList, run, items⟩ := @sysmCpuListGet_items sysm read.memory cpuid off _ _ _ lines
  rw [getCpus, stat, run, Option.map_some]
  have same : cpuList.items = (snapshot.samples (sysmCpuCoreRollup sysm cpuid).2.ticks).map Prod.snd := by
    rw [items, snapshot.takeWhile_cpus]
    unfold samples StatSnapshot.lines
    by_cases empty : snapshot.cpus = []
    · simp [empty]
    · have nonempty : snapshot.cpus.map (fun line => line.text ++ [10]) ≠ [] := fun isNil => empty (List.map_eq_nil_iff.mp isNil)
      rw [if_neg nonempty, if_neg empty]
      simp
  rw [← same]
  rfl

end StatSnapshot

theorem getCpus_sysm {sysm sysm' : SysmT} {cpuid : UInt32 → SysmCpuid} {read : CpuListRead}
    {result : Except Int (List SysmCpu)} (run : getCpus sysm cpuid read = some (result, sysm')) :
    sysm' = (sysmCpuCoreRollup sysm cpuid).2 := by
  obtain ⟨⟨listed, next⟩, get, same⟩ := Option.map_eq_some_iff.mp run
  cases same
  exact sysmCpuListGet_sysm get

theorem sysmCpuCoreRollup_ticks (sysm : SysmT) (cpuid : UInt32 → SysmCpuid) :
    (sysmCpuCoreRollup sysm cpuid).2.ticks = sysm.ticks := by
  rw [sysmCpuCoreRollup, sysmCpuCoreCount_eq]

variable {java java' java'' : JavaSysm} {cpuid : UInt32 → SysmCpuid} {first second first' second' : CpuListRead}
  {before percentages : List (Option SysmCpuPrec)}

/-- The list kept of the last call, or one that is read first, is paired with the samples. -/
theorem getCpuPercentages_pairs (snapshot : StatSnapshot) (off : (sysmCpuCoreRollup java.native cpuid).1 = false)
    (stat : second.stat = .ok snapshot.bytes)
    (run : getCpuPercentages java cpuid first second = some (.ok percentages, java')) :
    (∀ oldCpuList, java.lastCpuList = some oldCpuList →
      percentages = List.zipWith sysmCpuPercCal oldCpuList ((snapshot.samples java.native.ticks).map Prod.snd)) ∧
    java'.lastCpuList = some ((snapshot.samples java.native.ticks).map Prod.snd) ∧
    java'.native.ticks = java.native.ticks ∧ (sysmCpuCoreRollup java'.native cpuid).1 = false := by
  have again := sysmCpuCoreRollup_again
  have ticks := sysmCpuCoreRollup_ticks
  cases last : java.lastCpuList with
  | some oldCpuList =>
    simp only [getCpuPercentages, last, Option.bind_eq_bind, Option.bind_some, snapshot.getCpus_items off stat, ticks] at run
    cases run
    exact ⟨fun _ same => by rw [Option.some.inj same], rfl, ticks _ _, again _ _⟩
  | none =>
    simp only [getCpuPercentages, last, Option.bind_eq_bind] at run
    obtain ⟨⟨oldCpuList, native⟩, read, run⟩ := Option.bind_eq_some_iff.mp run
    have same := getCpus_sysm read
    cases oldCpuList with
    | error status => cases run
    | ok oldCpuList =>
      have flat : (sysmCpuCoreRollup native cpuid).1 = false := by
        rw [same]
        exact again _ _
      have sameTicks : native.ticks = java.native.ticks := by
        rw [same]
        exact ticks _ _
      simp only [snapshot.getCpus_items flat stat, ticks, sameTicks, Option.bind_some] at run
      cases run
      exact ⟨fun _ never => (nomatch never), rfl, (ticks _ _).trans sameTicks, again _ _⟩

theorem StatSnapshot.samples_processors (snapshot : StatSnapshot) (ticks : UInt64) :
    (snapshot.samples ticks).map Prod.fst = if snapshot.cpus = [] then [none] else snapshot.processors.map some := by
  unfold StatSnapshot.samples StatSnapshot.lines StatSnapshot.processors
  by_cases empty : snapshot.cpus = []
  · simp [empty]
  · rw [if_neg empty, if_neg empty]
    simp

/-- The number of a sample is that of the processor at its place. -/
theorem StatSnapshot.sample_processor {snapshot : StatSnapshot} {ticks : UInt64} {i : Nat} {processor : Option Nat}
    {sample : SysmCpu} (atPlace : (snapshot.samples ticks)[i]? = some (processor, sample)) :
    (snapshot.cpus ≠ [] ∧ ∃ n, processor = some n ∧ snapshot.processors[i]? = some n) ∨
      (snapshot.cpus = [] ∧ processor = none) := by
  have number : ((snapshot.samples ticks).map Prod.fst)[i]? = some processor := by
    rw [List.getElem?_map, atPlace, Option.map_some]
  rw [snapshot.samples_processors ticks] at number
  by_cases empty : snapshot.cpus = []
  · rw [if_pos empty] at number
    have one := List.mem_singleton.mp (List.mem_of_getElem? number)
    exact Or.inr ⟨empty, one⟩
  · rw [if_neg empty, List.getElem?_map] at number
    obtain ⟨n, atN, same⟩ := Option.map_eq_some_iff.mp number
    exact Or.inl ⟨empty, n, same.symm, atN⟩

theorem StatSnapshot.sample_of_processor {snapshot : StatSnapshot} (ticks : UInt64) {i n : Nat}
    (atPlace : snapshot.processors[i]? = some n) : ∃ sample, (snapshot.samples ticks)[i]? = some (some n, sample) := by
  have listed : snapshot.cpus ≠ [] := by
    intro empty
    simp [StatSnapshot.processors, empty] at atPlace
  have number : ((snapshot.samples ticks).map Prod.fst)[i]? = some (some n) := by
    rw [snapshot.samples_processors, if_neg listed, List.getElem?_map, atPlace, Option.map_some]
  rw [List.getElem?_map] at number
  obtain ⟨⟨processor, sample⟩, atSample, same⟩ := Option.map_eq_some_iff.mp number
  cases same
  exact ⟨sample, atSample⟩

theorem StatSnapshot.first_sample (snapshot : StatSnapshot) (ticks : UInt64) :
    ∃ sample, (snapshot.samples ticks)[0]? = some sample := by
  unfold StatSnapshot.samples StatSnapshot.lines
  split
  · exact ⟨_, rfl⟩
  · next listed =>
      obtain ⟨line, lines, same⟩ := List.exists_cons_of_ne_nil listed
      rw [same]
      exact ⟨_, rfl⟩

/-- Two calls that find these snapshots. -/
theorem pairs_of_snapshots {earlier later : StatSnapshot} (pairs : PairsSameProcessor earlier later) {i : Nat}
    {prev curr : Option Nat × SysmCpu} (atPrev : (earlier.samples 100)[i]? = some prev)
    (atCurr : (later.samples 100)[i]? = some curr) : ∃ n, prev.1 = some n ∧ curr.1 = some n := by
  let native : SysmT := { SysmT.zero with lcpu := 1, ticks := 100 }
  let cpuid : UInt32 → SysmCpuid := fun _ => ⟨0, 0, 0, 0⟩
  let java : JavaSysm := ⟨native, some []⟩
  let first : CpuListRead := ⟨fun _ => .zero, .ok earlier.bytes⟩
  let second : CpuListRead := ⟨fun _ => .zero, .ok later.bytes⟩
  have off : (sysmCpuCoreRollup native cpuid).1 = false := by decide
  have read : getCpus native cpuid first = some (.ok ((earlier.samples 100).map Prod.snd), native) :=
    earlier.getCpus_items off rfl
  have read' : getCpus native cpuid second = some (.ok ((later.samples 100).map Prod.snd), native) :=
    later.getCpus_items off rfl
  have run : getCpuPercentages java cpuid first first =
      some (.ok [], ⟨native, some ((earlier.samples 100).map Prod.snd)⟩) := by
    simp only [getCpuPercentages, java, Option.bind_eq_bind, Option.bind_some, read, List.zipWith_nil_left]
    rfl
  have run' : getCpuPercentages ⟨native, some ((earlier.samples 100).map Prod.snd)⟩ cpuid second second =
      some (.ok (List.zipWith sysmCpuPercCal ((earlier.samples 100).map Prod.snd) ((later.samples 100).map Prod.snd)),
        ⟨native, some ((later.samples 100).map Prod.snd)⟩) := by
    simp only [getCpuPercentages, Option.bind_eq_bind, Option.bind_some, read']
    rfl
  have atPerc : (List.zipWith sysmCpuPercCal ((earlier.samples 100).map Prod.snd)
      ((later.samples 100).map Prod.snd))[i]? = some (sysmCpuPercCal prev.2 curr.2) := by
    rw [List.getElem?_zipWith, List.getElem?_map, List.getElem?_map, atPrev, atCurr]
    rfl
  obtain ⟨n, prevSample, currSample, ownPrev, ownCurr, _⟩ :=
    pairs java _ _ cpuid first first second second _ _ off rfl run rfl run' i _ atPerc
  refine ⟨n, ?_, ?_⟩
  · exact congrArg Prod.fst (Option.some.inj (atPrev.symm.trans ownPrev))
  · exact congrArg Prod.fst (Option.some.inj (atCurr.symm.trans ownCurr))

/-- Each percentage is calculated from samples of one processor exactly if both
snapshots list a processor, and the same ones up to the end of the shorter list. -/
theorem pairsSameProcessor_iff (earlier later : StatSnapshot) :
    PairsSameProcessor earlier later ↔
      earlier.cpus ≠ [] ∧ later.cpus ≠ [] ∧ ∀ pair ∈ earlier.processors.zip later.processors, pair.1 = pair.2 := by
  constructor
  · intro pairs
    obtain ⟨prev, atPrev⟩ := earlier.first_sample 100
    obtain ⟨curr, atCurr⟩ := later.first_sample 100
    obtain ⟨n, ownPrev, ownCurr⟩ := pairs_of_snapshots pairs atPrev atCurr
    refine ⟨?_, ?_, ?_⟩
    · rcases StatSnapshot.sample_processor atPrev with ⟨listed, _⟩ | ⟨_, absent⟩
      · exact listed
      · rw [absent] at ownPrev
        cases ownPrev
    · rcases StatSnapshot.sample_processor atCurr with ⟨listed, _⟩ | ⟨_, absent⟩
      · exact listed
      · rw [absent] at ownCurr
        cases ownCurr
    · rintro ⟨a, b⟩ member
      obtain ⟨i, atPair⟩ := List.mem_iff_getElem?.mp member
      obtain ⟨atA, atB⟩ := List.getElem?_zip_eq_some.mp atPair
      obtain ⟨sample, atSample⟩ := StatSnapshot.sample_of_processor 100 atA
      obtain ⟨sample', atSample'⟩ := StatSnapshot.sample_of_processor 100 atB
      obtain ⟨n, ownA, ownB⟩ := pairs_of_snapshots pairs atSample atSample'
      exact Option.some.inj (ownA.trans ownB.symm)
  · rintro ⟨listed, listedLater, agree⟩ java java' java'' cpuid first second first' second' before percentages off stat
      run stat' run' i perc atPerc
    obtain ⟨_, last, ticks, off'⟩ := getCpuPercentages_pairs earlier off stat run
    obtain ⟨pairs, _⟩ := getCpuPercentages_pairs later off' stat' run'
    rw [pairs _ last, ticks] at atPerc
    obtain ⟨prev, curr, atPrev, atCurr, same⟩ := List.getElem?_zipWith_eq_some.mp atPerc
    rw [List.getElem?_map] at atPrev atCurr
    obtain ⟨⟨a, prevSample⟩, atA, ownPrev⟩ := Option.map_eq_some_iff.mp atPrev
    obtain ⟨⟨b, currSample⟩, atB, ownCurr⟩ := Option.map_eq_some_iff.mp atCurr
    rcases StatSnapshot.sample_processor atA with ⟨_, n, sameA, atN⟩ | ⟨empty, _⟩
    · rcases StatSnapshot.sample_processor atB with ⟨_, m, sameB, atM⟩ | ⟨empty, _⟩
      · have equal : n = m := agree (n, m) (List.mem_of_getElem? (List.getElem?_zip_eq_some.mpr ⟨atN, atM⟩))
        subst sameA sameB equal
        exact ⟨n, prevSample, currSample, atA, atB, by rw [← same, ← ownPrev, ← ownCurr]⟩
      · exact absurd empty listedLater
    · exact absurd empty listed

/-- The line of a processor that has been busy and idle for so many ticks. -/
def busyCpu (number : Fin 8) (user idle : Fin 10) : StatCpuLine where
  number
  counters := [48 + UInt8.ofNat user, 32, 48, 32, 48, 32, 48 + UInt8.ofNat idle]
  plain := List.all_iff_forall_prop.mp (by revert user idle; decide)
  fits := by decide +revert +kernel

def busySnapshot (cpus : List StatCpuLine) (increasing : (cpus.map StatCpuLine.number).Pairwise (· < ·)) : StatSnapshot where
  total := ofString "cpu 9 0 0 9"
  cpus
  others := ofString "intr 1\n"
  plain := List.all_iff_forall_prop.mp (by decide)
  fits := by decide
  increasing
  noCpu := by decide

/-- When the processor 1 is taken offline, the processor 2 is paired with it. -/
theorem getCpuPercentages_mixes_processors :
    ¬ ∀ earlier later : StatSnapshot, earlier.cpus ≠ [] → later.cpus ≠ [] → PairsSameProcessor earlier later := by
  intro claim
  let earlier := busySnapshot [busyCpu 0 1 1, busyCpu 1 5 2, busyCpu 2 3 4] (by decide)
  let later := busySnapshot [busyCpu 0 2 1, busyCpu 2 4 4] (by decide)
  have pairs := claim earlier later (by decide) (by decide)
  obtain ⟨n, atEarlier, atLater⟩ := @pairs_of_snapshots earlier later pairs 1
    (some 1, getCpuMetrics 100 .zero ((busyCpu 1 5 2).text ++ [10]))
    (some 2, getCpuMetrics 100 .zero ((busyCpu 2 4 4).text ++ [10])) rfl rfl
  cases atEarlier
  cases atLater

end Sysm
