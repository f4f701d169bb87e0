import Sysm.Lib.Shares
import Sysm.CpuList

namespace Sysm

/-- `sysm_cpu_prec_t`, with exact quotients for the doubles -/
structure SysmCpuPrec where
  user : Rat
  sys : Rat
  nice : Rat
  idle : Rat
  wait : Rat
  hi : Rat
  si : Rat
  steal : Rat
  combined : Rat
deriving Repr, DecidableEq

/-- `diff = curr - prev; diff = diff < 0 ? 0 : diff`, where the difference is
one of unsigned integers -/
def cpuDiff (prev curr : UInt64) : Rat :=
  let diff : Rat := (curr - prev).toNat
  if diff < 0 then 0 else diff

/-- `sysm_cpu_perc_cal`. There is no result when it divides by zero. -/
def sysmCpuPercCal (prev curr : SysmCpu) : Option SysmCpuPrec :=
  let diffUser := cpuDiff prev.user curr.user
  let diffSys := cpuDiff prev.sys curr.sys
  let diffNice := cpuDiff prev.nice curr.nice
  let diffIdle := cpuDiff prev.idle curr.idle
  let diffWait := cpuDiff prev.wait curr.wait
  let diffHi := cpuDiff prev.hi curr.hi
  let diffSi := cpuDiff prev.si curr.si
  let diffSteal := cpuDiff prev.steal curr.steal
  let diffTotal := diffUser + diffSys + diffNice + diffIdle + diffWait + diffHi + diffSi + diffSteal
  if diffTotal = 0 then none
  else some {
    user := diffUser / diffTotal
    sys := diffSys / diffTotal
    nice := diffNice / diffTotal
    idle := diffIdle / diffTotal
    wait := diffWait / diffTotal
    hi := diffHi / diffTotal
    si := diffSi / diffTotal
    steal := diffSteal / diffTotal
    combined := diffUser / diffTotal + diffSys / diffTotal + diffNice / diffTotal + diffWait / diffTotal }

/-- The eight counters of a sample. -/
def SysmCpu.counters (cpu : SysmCpu) : List UInt64 :=
  [cpu.user, cpu.sys, cpu.nice, cpu.idle, cpu.wait, cpu.hi, cpu.si, cpu.steal]

/-- The eight percentages. -/
def SysmCpuPrec.parts (perc : SysmCpuPrec) : List Rat :=
  [perc.user, perc.sys, perc.nice, perc.idle, perc.wait, perc.hi, perc.si, perc.steal]

/-- The counters in pairs, the earlier one first. -/
def counterPairs (prev curr : SysmCpu) : List (UInt64 × UInt64) := prev.counters.zip curr.counters

/-- By how much a counter has gone up. -/
def increase (pair : UInt64 × UInt64) : Rat := max 0 ((pair.2.toNat : Rat) - pair.1.toNat)

def increases (prev curr : SysmCpu) : List Rat := (counterPairs prev curr).map increase

/-- The percentages are the shares of the counters in the time that has passed. -/
structure SysmCpuPrec.SharesOf (perc : SysmCpuPrec) (prev curr : SysmCpu) : Prop where
  parts : perc.parts = (increases prev curr).map (· / (increases prev curr).sum)
  bounded : ∀ part ∈ perc.parts, 0 ≤ part ∧ part ≤ 1
  sum : perc.parts.sum = 1
  combined : 0 ≤ perc.combined ∧ perc.combined ≤ 1

/-- What the percentages of two samples are for. -/
structure CalculatesShares (prev curr : SysmCpu) : Prop where
  shares : 0 < (increases prev curr).sum → ∃ perc, sysmCpuPercCal prev curr = some perc ∧ perc.SharesOf prev curr
  noDivision : (increases prev curr).sum = 0 → sysmCpuPercCal prev curr ≠ none

/-- Some counter has gone up. -/
def GoesUp (prev curr : SysmCpu) : Prop := ∃ pair ∈ counterPairs prev curr, pair.1 < pair.2

/-- Some counter has gone down. -/
def GoesDown (prev curr : SysmCpu) : Prop := ∃ pair ∈ counterPairs prev curr, pair.2 < pair.1

/-- The differences that the percentages are calculated from. -/
def cpuDiffs (prev curr : SysmCpu) : List Rat := (counterPairs prev curr).map fun pair => cpuDiff pair.1 pair.2

variable {prev curr : SysmCpu}

/-- No difference of unsigned integers is negative. -/
theorem cpuDiff_eq (p c : UInt64) : cpuDiff p c = ((c - p).toNat : Rat) := by
  have nonneg : ¬ ((c - p).toNat : Rat) < 0 := not_lt.mpr (Nat.cast_nonneg _)
  exact if_neg nonneg

theorem cpuDiffs_nonneg : ∀ diff ∈ cpuDiffs prev curr, 0 ≤ diff := by
  intro diff member
  obtain ⟨pair, _, rfl⟩ := List.mem_map.mp member
  rw [cpuDiff_eq]
  exact Nat.cast_nonneg _

theorem increases_nonneg : ∀ diff ∈ increases prev curr, 0 ≤ diff := by
  intro diff member
  obtain ⟨pair, _, rfl⟩ := List.mem_map.mp member
  exact le_max_left 0 _

theorem increase_pos_iff (pair : UInt64 × UInt64) : 0 < increase pair ↔ pair.1 < pair.2 := by
  rw [increase, lt_max_iff, sub_pos, Nat.cast_lt, UInt64.lt_iff_toNat_lt]
  simp

/-- A counter that has not gone down has its increase for the difference. -/
theorem cpuDiff_eq_increase {p c : UInt64} (up : p ≤ c) : cpuDiff p c = increase (p, c) := by
  have bound := UInt64.le_iff_toNat_le.mp up
  have cast : ((p.toNat : Rat) ≤ c.toNat) := Nat.cast_le.mpr bound
  rw [cpuDiff_eq, UInt64.toNat_sub_of_le _ _ up, Nat.cast_sub bound, increase, max_eq_right (sub_nonneg.mpr cast)]

theorem cpuDiff_pos_iff (p c : UInt64) : 0 < cpuDiff p c ↔ p ≠ c := by
  have lower := p.toNat_lt
  have upper := c.toNat_lt
  rw [cpuDiff_eq, Nat.cast_pos, UInt64.toNat_sub, ne_eq, ← UInt64.toNat_inj]
  omega

/-- What is calculated are the shares of the unsigned differences. -/
theorem sysmCpuPercCal_cases (prev curr : SysmCpu) :
    ((cpuDiffs prev curr).sum = 0 ∧ sysmCpuPercCal prev curr = none) ∨
      (0 < (cpuDiffs prev curr).sum ∧ ∃ perc, sysmCpuPercCal prev curr = some perc ∧
        perc.parts = Shares.shares (cpuDiffs prev curr) ∧
          perc.combined = perc.user + perc.sys + perc.nice + perc.wait) := by
  have total : cpuDiff prev.user curr.user + cpuDiff prev.sys curr.sys + cpuDiff prev.nice curr.nice +
      cpuDiff prev.idle curr.idle + cpuDiff prev.wait curr.wait + cpuDiff prev.hi curr.hi + cpuDiff prev.si curr.si +
        cpuDiff prev.steal curr.steal = (cpuDiffs prev curr).sum := by
    simp only [cpuDiffs, counterPairs, SysmCpu.counters, List.zip_cons_cons, List.zip_nil_right, List.map_cons,
      List.map_nil, List.sum_cons, List.sum_nil]
    ring
  have nonneg := List.sum_nonneg (@cpuDiffs_nonneg prev curr)
  rcases nonneg.eq_or_lt with zero | positive
  · refine Or.inl ⟨zero.symm, ?_⟩
    simp only [sysmCpuPercCal, total, ← zero, if_true]
  · refine Or.inr ⟨positive, ?_⟩
    simp only [sysmCpuPercCal, total, if_neg positive.ne']
    exact ⟨_, rfl, rfl, rfl⟩

/-- The shares of the differences, if these are the increases. -/
theorem sharesOf_of_eq {perc : SysmCpuPrec} (same : cpuDiffs prev curr = increases prev curr)
    (positive : 0 < (increases prev curr).sum) (parts : perc.parts = Shares.shares (cpuDiffs prev curr))
    (combined : perc.combined = perc.user + perc.sys + perc.nice + perc.wait) : perc.SharesOf prev curr := by
  rw [same] at parts
  have sublist : [perc.user, perc.sys, perc.nice, perc.wait].Sublist (Shares.shares (increases prev curr)) := by
    rw [← parts, SysmCpuPrec.parts]
    simp
  have bounds := Shares.sum_sublist_shares sublist increases_nonneg positive
  simp only [List.sum_cons, List.sum_nil, add_zero, ← add_assoc] at bounds
  refine ⟨parts, fun part member => ?_, ?_, ?_⟩
  · rw [parts] at member
    exact ⟨Shares.shares_nonneg increases_nonneg part member, Shares.shares_le_one increases_nonneg positive part member⟩
  · rw [parts, Shares.sum_shares positive]
  · rw [combined]
    exact bounds

theorem increases_pos_iff : 0 < (increases prev curr).sum ↔ GoesUp prev curr := by
  rw [Shares.sum_pos_iff increases_nonneg]
  constructor
  · rintro ⟨diff, member, positive⟩
    obtain ⟨pair, inPairs, rfl⟩ := List.mem_map.mp member
    exact ⟨pair, inPairs, (increase_pos_iff pair).mp positive⟩
  · rintro ⟨pair, inPairs, up⟩
    exact ⟨increase pair, List.mem_map_of_mem inPairs, (increase_pos_iff pair).mpr up⟩

/-- A counter that has gone down gets a share that is not its own. -/
theorem CalculatesShares.not_down (calculates : CalculatesShares prev curr) (up : GoesUp prev curr) :
    ¬ GoesDown prev curr := by
  intro down
  obtain ⟨perc, result, shares⟩ := calculates.shares (increases_pos_iff.mpr up)
  rcases sysmCpuPercCal_cases prev curr with ⟨_, undefined⟩ | ⟨positive, other, same, parts, _⟩
  · rw [undefined] at result
    cases result
  · cases Option.some.inj (same.symm.trans result)
    obtain ⟨pair, inPairs, fallen⟩ := down
    have maps := parts.symm.trans shares.parts
    rw [Shares.shares, increases, cpuDiffs, List.map_map, List.map_map, List.map_inj_left] at maps
    -- the counter that has gone down has a share
    have share := div_pos ((cpuDiff_pos_iff pair.1 pair.2).mpr (UInt64.ne_of_lt fallen).symm) positive
    have noShare : increase pair = 0 := by
      have notUp : ¬ 0 < increase pair := fun rising => UInt64.lt_asymm fallen ((increase_pos_iff pair).mp rising)
      exact le_antisymm (not_lt.mp notUp) (le_max_left 0 _)
    have same := maps pair inPairs
    simp only [Function.comp_apply, noShare, zero_div] at same
    exact share.ne' same

/-- Without any change there is a division by zero. -/
theorem CalculatesShares.up (calculates : CalculatesShares prev curr) (noDown : ¬ GoesDown prev curr) :
    GoesUp prev curr := by
  by_contra noUp
  have zero : (increases prev curr).sum = 0 := by
    have notPositive := mt increases_pos_iff.mp noUp
    exact le_antisymm (not_lt.mp notPositive) (List.sum_nonneg increases_nonneg)
  rcases sysmCpuPercCal_cases prev curr with ⟨_, undefined⟩ | ⟨positive, _⟩
  · exact calculates.noDivision zero undefined
  · obtain ⟨diff, member, rises⟩ := (Shares.sum_pos_iff cpuDiffs_nonneg).mp positive
    obtain ⟨pair, inPairs, rfl⟩ := List.mem_map.mp member
    have other := (cpuDiff_pos_iff pair.1 pair.2).mp rises
    rcases UInt64.lt_or_lt_of_ne other with up | down
    · exact noUp ⟨pair, inPairs, up⟩
    · exact noDown ⟨pair, inPairs, down⟩

theorem calculatesShares_of_oneWay (oneWay : GoesUp prev curr ↔ ¬ GoesDown prev curr) : CalculatesShares prev curr := by
  constructor
  · intro positive
    have noDown := oneWay.mp (increases_pos_iff.mp positive)
    have same : cpuDiffs prev curr = increases prev curr := by
      refine List.map_congr_left fun pair inPairs => cpuDiff_eq_increase ?_
      by_contra fallen
      exact noDown ⟨pair, inPairs, UInt64.not_le.mp fallen⟩
    rcases sysmCpuPercCal_cases prev curr with ⟨zero, _⟩ | ⟨_, perc, result, parts, combined⟩
    · rw [same] at zero
      exact absurd zero positive.ne'
    · exact ⟨perc, result, sharesOf_of_eq same positive parts combined⟩
  · intro zero absent
    have noUp : ¬ GoesUp prev curr := fun up => absurd zero (increases_pos_iff.mpr up).ne'
    obtain ⟨pair, inPairs, fallen⟩ := not_not.mp (mt oneWay.mpr noUp)
    have rises : 0 < (cpuDiffs prev curr).sum := by
      refine (Shares.sum_pos_iff cpuDiffs_nonneg).mpr ⟨_, List.mem_map_of_mem inPairs, ?_⟩
      exact (cpuDiff_pos_iff pair.1 pair.2).mpr (UInt64.ne_of_lt fallen).symm
    rcases sysmCpuPercCal_cases prev curr with ⟨noTotal, _⟩ | ⟨_, perc, result, _⟩
    · exact absurd noTotal rises.ne'
    · rw [absent] at result
      cases result

/-- The percentages are right exactly if counters have changed, all of them in
the same direction. -/
theorem calculatesShares_iff (prev curr : SysmCpu) :
    CalculatesShares prev curr ↔ (GoesUp prev curr ↔ ¬ GoesDown prev curr) := by
  constructor
  · intro calculates
    exact ⟨calculates.not_down, calculates.up⟩
  · exact calculatesShares_of_oneWay

/-- The counter for waiting has gone down by one, and takes all the shares. -/
theorem sysmCpuPercCal_after_decrease : ¬ ∀ prev curr, CalculatesShares prev curr := by
  intro claim
  let prev : SysmCpu := { SysmCpu.zero with wait := 1 }
  let curr : SysmCpu := { SysmCpu.zero with user := 60, idle := 40 }
  obtain ⟨perc, result, shares⟩ := (claim prev curr).shares (by decide +kernel)
  have user : (sysmCpuPercCal prev curr).map (fun perc => decide (perc.parts =
      (increases prev curr).map (· / (increases prev curr).sum))) = some false := by decide +kernel
  rw [result, Option.map_some, decide_eq_true shares.parts] at user
  cases user

end Sysm
