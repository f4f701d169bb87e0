import Sysm.StatLine

namespace Sysm
open CString

/-- A stat file of a process whose name may be anything. Its fields have the
types that the kernel prints them from, and whatever follows `stime` is kept
apart from it. -/
structure StatHead where
  pid : Nat
  name : Text
  state : UInt8
  ppid : Int32
  pgrp : Int32
  session : Int32
  tty : Int32
  tpgid : Int32
  flags : UInt32
  minflt : UInt64
  cminflt : UInt64
  majflt : UInt64
  cmajflt : UInt64
  utime : UInt64
  stime : UInt64
  rest : Text
  named : ∀ c ∈ name, c ≠ 0
  letter : isUpper state = true ∨ isLower state = true
  apart : Stops (fun c => !isSpace c) rest
  plain : ∀ c ∈ rest, c ≠ 0 ∧ c ≠ 41

namespace StatHead

variable (head : StatHead)

/-- The fields 4 to 15. -/
def numbers : List Int :=
  [head.ppid.toInt, head.pgrp.toInt, head.session.toInt, head.tty.toInt, head.tpgid.toInt, (head.flags.toNat : Int),
    (head.minflt.toNat : Int), (head.cminflt.toNat : Int), (head.majflt.toNat : Int), (head.cmajflt.toNat : Int),
    (head.utime.toNat : Int), (head.stime.toNat : Int)]

def text : Text := statText head.pid head.name head.state (printed head.numbers ++ head.rest)

/-- The fields of the file are in the record. Times are in milliseconds: the
product of doubles that they are computed by is exact as long as a tick is a
whole number of milliseconds and the time has no more than 53 bits. -/
structure RecoveredIn (ticks : UInt64) (pstat : LinuxProcStat) : Prop where
  name : pstat.name = head.name.take 127
  state : pstat.state = head.state
  ppid : pstat.ppid = head.ppid
  tty : pstat.tty = head.tty
  minorFaults : pstat.minorFaults = head.minflt
  majorFaults : pstat.majorFaults = head.majflt
  utime : pstat.utime = tick2msec ticks head.utime
  stime : pstat.stime = tick2msec ticks head.stime
  utimeExact : ticks.toNat ∣ 1000 → head.utime.toNat * 1000 < 2 ^ 53 →
    pstat.utime.toNat = head.utime.toNat * 1000 / ticks.toNat
  stimeExact : ticks.toNat ∣ 1000 → head.stime.toNat * 1000 < 2 ^ 53 →
    pstat.stime.toNat = head.stime.toNat * 1000 / ticks.toNat

theorem numbers_small : ∀ z ∈ head.numbers, z.natAbs < 2 ^ 64 := by
  have int (x : Int32) : x.toInt.natAbs < 2 ^ 64 := by
    have lower := x.le_toInt
    have upper := x.toInt_lt
    omega
  have long (x : UInt64) : ((x.toNat : Int)).natAbs < 2 ^ 64 := by
    have upper := x.toNat_lt
    omega
  have flags : ((head.flags.toNat : Int)).natAbs < 2 ^ 64 := by
    have upper := head.flags.toNat_lt
    omega
  simp only [numbers, List.forall_mem_cons]
  exact ⟨int _, int _, int _, int _, int _, flags, long _, long _, long _, long _, long _, long _, by simp⟩

theorem behind_plain : ∀ c ∈ printed head.numbers ++ head.rest, c ≠ 0 ∧ c ≠ 41 := by
  intro c member
  rcases List.mem_append.mp member with inNumbers | inRest
  · exact printed_plain inNumbers
  · exact head.plain c inRest

theorem keptName_eq (name : Text) : keptName name = name.take 127 := by
  unfold keptName procNameLen
  split
  · rfl
  · rw [List.take_of_length_le le_rfl, List.take_of_length_le (by omega)]

/-- A tick of `q` milliseconds -/
theorem tick2msec_whole {ticks s : UInt64} {q : Nat} (product : ticks.toNat * q = 1000) (small : s.toNat * q < 2 ^ 53) :
    (tick2msec ticks s).toNat = s.toNat * q := by
  have positive : 0 < ticks.toNat := Nat.pos_of_ne_zero fun zero => by simp [zero] at product
  have qPositive : 0 < q := Nat.pos_of_ne_zero fun zero => by simp [zero] at product
  have factor : s.toNat ≤ s.toNat * q := Nat.le_mul_of_pos_right _ qPositive
  have value := Binary64.trunc_mul_div product positive (by omega : s.toNat < 2 ^ 53) (by omega) small
  rw [tick2msec, value, if_pos (by omega), UInt64.toNat_ofNat', Nat.mod_eq_of_lt (by omega)]

theorem tick2msec_exact {ticks s : UInt64} (exact : ticks.toNat ∣ 1000) (small : s.toNat * 1000 < 2 ^ 53) :
    (tick2msec ticks s).toNat = s.toNat * 1000 / ticks.toNat := by
  obtain ⟨q, product⟩ := exact
  have positive : 0 < ticks.toNat := Nat.pos_of_ne_zero fun zero => by simp [zero] at product
  have quotientLe : q ≤ 1000 := product ▸ Nat.le_mul_of_pos_left q positive
  have smallProduct : s.toNat * q ≤ s.toNat * 1000 := Nat.mul_le_mul_left _ quotientLe
  have quotient : s.toNat * 1000 / ticks.toNat = s.toNat * q := by
    rw [product, Nat.mul_left_comm, Nat.mul_div_cancel_left _ positive]
  rw [quotient, tick2msec_whole product.symm (by omega)]

theorem storeStatFields_head {sysm : SysmT} (ticks : sysm.ticks ≠ 0) :
    ∃ pstat, sysm.storeStatFields (keptName head.name) head.state (printed head.numbers ++ head.rest) = some pstat ∧
      head.RecoveredIn sysm.ticks pstat := by
  have small := head.numbers_small
  simp only [numbers, List.forall_mem_cons] at small
  obtain ⟨ppid, _, _, tty, _, _, minflt, _, majflt, _, utime, stime, _⟩ := small
  have apart := head.apart
  unfold SysmT.storeStatFields
  simp only [numbers, strtoul_skipSpace_printed apart ppid, strtoul_printed apart tty, strtoul_printed apart minflt,
    strtoul_printed apart majflt, strtoul_printed apart utime, strtoul_printed apart stime, sysmSkipToken_printed apart,
    if_neg ticks]
  have long (x : UInt64) : UInt64.ofInt (x.toNat : Int) = x := by rw [ofInt_natCast, UInt64.ofNat_toNat]
  have time (x : UInt64) : tick2msec sysm.ticks (UInt64.ofInt (x.toNat : Int)) = tick2msec sysm.ticks x := by rw [long]
  have exactTime (x : UInt64) (exact : sysm.ticks.toNat ∣ 1000) (small : x.toNat * 1000 < 2 ^ 53) :
      (tick2msec sysm.ticks (UInt64.ofInt (x.toNat : Int))).toNat = x.toNat * 1000 / sysm.ticks.toNat := by
    rw [time, tick2msec_exact exact small]
  exact ⟨_, rfl, keptName_eq _, rfl, toInt_ofInt _, toInt_ofInt _, long _, long _, time _, time _, exactTime _,
    exactTime _⟩

/-- No name shifts a field behind it. -/
theorem procStatRead_recovers {sysm : SysmT} {pid : Int32} {timenow : Int} (miss : sysm.procStatHit pid timenow = false)
    (ticks : sysm.ticks ≠ 0) (short : head.text.length < BUFSIZ) :
    ∃ sysm', procStatRead sysm pid timenow (.bytes head.text) = some (0, sysm') ∧
      head.RecoveredIn sysm.ticks sysm'.lastProcStat := by
  have loaded := loadProcStat_statText (sysm.stamp pid timenow) head.named head.letter head.behind_plain short
  obtain ⟨pstat, stored, recovered⟩ := @storeStatFields_head head (sysm.stamp pid timenow) ticks
  refine ⟨{ sysm.stamp pid timenow with lastProcStat := pstat }, ?_, recovered⟩
  rw [procStatRead, miss, if_neg Bool.false_ne_true, text]
  simp only [loaded, stored, Option.map_some, Option.bind_eq_bind, Option.bind_some, Option.pure_def]

end StatHead

/-- The state `S` of a process that sleeps. -/
theorem sleeping_letter : isUpper 83 = true ∨ isLower 83 = true := by decide

/-- A process that has given itself the name of another one, with a state and
numbers behind it. -/
def spoofedHead : StatHead where
  pid := 7
  name := ofString "init) R 1 (x"
  state := 83
  ppid := 6
  pgrp := 7
  session := 7
  tty := -1
  tpgid := -1
  flags := 0
  minflt := 3
  cminflt := 0
  majflt := 4
  cmajflt := 0
  utime := 50
  stime := 60
  rest := [10]
  named := List.all_iff_forall_prop.mp (by decide)
  letter := sleeping_letter
  apart := newline_apart
  plain := List.all_iff_forall_prop.mp (by decide)

theorem procStatRead_spoofed : ∃ sysm', procStatRead openedSysm 7 0 (.bytes spoofedHead.text) = some (0, sysm') ∧
    spoofedHead.RecoveredIn 100 sysm'.lastProcStat :=
  StatHead.procStatRead_recovers spoofedHead (by decide +kernel) (by decide) (by decide +kernel)

end Sysm
