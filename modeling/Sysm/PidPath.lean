import Sysm.FileBuffer

namespace Sysm
open CString ByteBuffer

/-- `UITOA_BUFFER_SIZE` -/
def uitoaBufferSize : Nat := 13

/-- The loop of `sysm_uitoa`: the buffer, the place of `start` and `*len`. No
byte can be stored before the buffer. -/
def uitoaLoop (buffer : List UInt8) : Nat → UInt32 → Nat → Option (List UInt8 × Nat × Nat)
  | 0, _, _ => none
  | start + 1, n, len => do
    let buffer ← put buffer start (UInt8.ofNat (48 + (n % 10).toNat))
    if n / 10 = 0 then return (buffer, start, len + 1)
    else uitoaLoop buffer start (n / 10) (len + 1)

def sysmUitoa (buffer : List UInt8) (n : UInt32) (len : Nat) : Option (List UInt8 × Nat × Nat) := do
  let start := uitoaBufferSize - 1
  let buffer ← put buffer start 0
  uitoaLoop buffer start n len

/-- `len` bytes from `start` on, which have to be in the buffer. -/
def bytesAt (buffer : List UInt8) (start len : Nat) : Option (List UInt8) :=
  if start + len ≤ buffer.length then some ((buffer.drop start).take len) else none

/-- `sysm_proc_filename`, with `pidBuf` for what is in `pid_buf` before. A failing
assertion ends the program. -/
def sysmProcFilenameInto (buffer pidBuf : List UInt8) (pid : Int32) (fname : Text) : Option (List UInt8) := do
  let (pidBuf, pidStr, len) ← sysmUitoa pidBuf pid.toUInt32 0
  if buffer.length < procFsRoot.length + uitoaBufferSize + fname.length + 1 then none
  else
    let buffer ← copy buffer 0 procFsRoot
    let ptr := procFsRoot.length
    let digits ← bytesAt pidBuf pidStr len
    let buffer ← copy buffer ptr digits
    let ptr := ptr + len
    let buffer ← copy buffer ptr fname
    let ptr := ptr + fname.length
    put buffer ptr 0

section Digits

/-- The digit of a number below ten. -/
theorem digitChar_byte {d : Nat} (small : d < 10) : UInt8.ofNat d.digitChar.toNat = UInt8.ofNat (48 + d) := by
  interval_cases d <;> rfl

theorem decimal_of_lt {n : Nat} (small : n < 10) : decimal n = [UInt8.ofNat (48 + n)] := by
  rw [decimal, Nat.toDigits_of_lt_base small, List.map_singleton, digitChar_byte small]

/-- The last digit of a longer number stands behind the others. -/
theorem decimal_of_le {n : Nat} (big : 10 ≤ n) : decimal n = decimal (n / 10) ++ [UInt8.ofNat (48 + n % 10)] := by
  rw [decimal, Nat.toDigits_of_base_le (by omega) big, List.map_append, List.map_singleton, digitChar_byte (by omega)]
  rfl

/-- No digit stands before the others for nothing. -/
theorem decimal_canonical {n : Nat} (zero : (decimal n).head? = some 48) : decimal n = [48] := by
  have nothing : n = 0 := by
    by_contra some
    exact head_decimal (by omega) zero
  rw [nothing]
  rfl

end Digits

section Uitoa

variable {buffer : List UInt8}

theorem put_drop {start : Nat} (inside : start < buffer.length) (byte : UInt8) :
    ∃ buffer', put buffer start byte = some buffer' ∧ buffer'.length = buffer.length ∧
      buffer'.drop start = byte :: buffer.drop (start + 1) := by
  refine ⟨_, put_some inside byte, List.length_set, ?_⟩
  have here : start < (buffer.set start byte).length := by
    rw [List.length_set]
    exact inside
  rw [List.drop_eq_getElem_cons here, List.getElem_set_self, List.drop_set_of_lt (Nat.lt_succ_self start)]

/-- The digits come to stand before what is in the buffer, as long as there is
room for them, and each is counted. -/
theorem uitoaLoop_digits {start : Nat} {n : UInt32} (room : (decimal n.toNat).length ≤ start) (inside : start ≤ buffer.length)
    (len : Nat) :
    ∃ buffer' place, uitoaLoop buffer start n len = some (buffer', place, len + (decimal n.toNat).length) ∧
      place + (decimal n.toNat).length = start ∧ buffer'.length = buffer.length ∧
        buffer'.drop place = decimal n.toNat ++ buffer.drop start := by
  induction start generalizing n buffer len with
  | zero =>
    have positive := List.length_pos_of_ne_nil (decimal_ne_nil n.toNat)
    omega
  | succ start ih =>
    obtain ⟨stored, put, length, behind⟩ := put_drop (by omega : start < buffer.length) (UInt8.ofNat (48 + (n % 10).toNat))
    have rest : (n % 10).toNat = n.toNat % 10 := UInt32.toNat_mod n 10
    have quotient : (n / 10).toNat = n.toNat / 10 := UInt32.toNat_div n 10
    rw [uitoaLoop, put]
    simp only [Option.bind_eq_bind, Option.bind_some]
    by_cases last : n / 10 = 0
    · have small : n.toNat < 10 := by
        have isZero := congrArg UInt32.toNat last
        rw [quotient, UInt32.toNat_zero] at isZero
        omega
      have digit : decimal n.toNat = [UInt8.ofNat (48 + (n % 10).toNat)] := by
        rw [decimal_of_lt small, rest, Nat.mod_eq_of_lt small]
      rw [if_pos last, digit]
      exact ⟨stored, start, rfl, rfl, length, behind⟩
    · have big : 10 ≤ n.toNat := by
        by_contra small
        apply last
        rw [← UInt32.toNat_inj, quotient, UInt32.toNat_zero]
        omega
      have digits : decimal n.toNat = decimal (n / 10).toNat ++ [UInt8.ofNat (48 + (n % 10).toNat)] := by
        rw [decimal_of_le big, rest, quotient]
      have more : (decimal n.toNat).length = (decimal (n / 10).toNat).length + 1 := by
        rw [digits, List.length_append, List.length_singleton]
      obtain ⟨buffer', place, loop, before, length', behind'⟩ :=
        @ih stored (n / 10) (by omega) (by omega) (len + 1)
      refine ⟨buffer', place, ?_, by omega, length'.trans length, ?_⟩
      · rw [if_neg last, loop, more]
        congr 3
        omega
      · rw [behind', behind, digits, List.append_assoc, List.singleton_append]

/-- All the digits and the NUL fit into the buffer. -/
theorem sysmUitoa_digits (size : buffer.length = uitoaBufferSize) (n : UInt32) :
    ∃ buffer' place, sysmUitoa buffer n 0 = some (buffer', place, (decimal n.toNat).length) ∧
      buffer'.length = uitoaBufferSize ∧ buffer'.drop place = decimal n.toNat ++ [0] ∧
        place + (decimal n.toNat).length + 1 = buffer'.length := by
  have whole : uitoaBufferSize = 13 := rfl
  obtain ⟨ended, put, length, behind⟩ := put_drop (by omega : uitoaBufferSize - 1 < buffer.length) 0
  have room := length_decimal_uint32 n
  obtain ⟨buffer', place, loop, before, length', behind'⟩ :=
    @uitoaLoop_digits ended (uitoaBufferSize - 1) n (by omega) (by omega) 0
  rw [Nat.zero_add] at loop
  refine ⟨buffer', place, ?_, by omega, ?_, by omega⟩
  · simp only [sysmUitoa, put, loop, Option.bind_eq_bind, Option.bind_some]
  · rw [behind', behind, List.drop_of_length_le (by omega)]

end Uitoa

/-- A decimal as it is printed: digits, and no zero in front of others. -/
structure CanonicalDecimal (digits : Text) : Prop where
  written : digits ≠ []
  digit : ∀ c ∈ digits, isDigit c = true
  leading : digits.head? = some 48 → digits = [48]

/-- The name of a file of the process, with the pid as an unsigned number. -/
def procPath (pid : Int32) (fname : Text) : Text := procFsRoot ++ (decimal pid.toUInt32.toNat ++ fname)

theorem canonicalDecimal_decimal (n : Nat) : CanonicalDecimal (decimal n) :=
  ⟨decimal_ne_nil n, fun _ member => isDigit_of_decimal member, decimal_canonical⟩

/-- The digits are read back as `proc_list_entry` reads the name of a process. -/
theorem toInt_decimal_pid (pid : Int32) : toInt (strtoul 10 (decimal pid.toUInt32.toNat)).1 = pid := by
  have small := pid.toUInt32.toNat_lt
  have read := @strtoul_decimal [] [] (by simp) pid.toUInt32.toNat (by omega) stops_nil
  rw [List.nil_append, List.append_nil] at read
  have word : (UInt64.ofNat pid.toUInt32.toNat).toUInt32 = pid.toUInt32 := by
    rw [← UInt32.toNat_inj, UInt64.toNat_toUInt32, UInt64.toNat_ofNat', Nat.mod_eq_of_lt (by omega : _ < 2 ^ 64),
      Nat.mod_eq_of_lt small]
  rw [read, toInt, word, Int32.toInt32_toUInt32]

/-- The digits of two paths are the same, if none of their names goes on with digits. -/
theorem procPath_injective {pid pid' : Int32} {fname fname' : Text}
    (apart : fname = fname' ∨ (Stops isDigit fname ∧ Stops isDigit fname'))
    (same : procPath pid fname = procPath pid' fname') : pid = pid' := by
  have tails := List.append_cancel_left same
  have digits : decimal pid.toUInt32.toNat = decimal pid'.toUInt32.toNat := by
    rcases apart with rfl | ⟨stop, stop'⟩
    · exact List.append_cancel_right tails
    · have read := takeWhile_stop (fun c member => @isDigit_of_decimal pid.toUInt32.toNat c member) stop
      rw [tails, takeWhile_stop (fun c member => @isDigit_of_decimal pid'.toUInt32.toNat c member) stop'] at read
      exact read.symm
  rw [← toInt_decimal_pid pid, digits, toInt_decimal_pid]

section Filename

variable {buffer pidBuf : List UInt8} {fname : Text}

/-- Behind the assertion the name is put together from its three parts. -/
theorem sysmProcFilenameInto_eq (size : pidBuf.length = uitoaBufferSize)
    (asserted : procFsRoot.length + uitoaBufferSize + fname.length + 1 ≤ buffer.length) (pid : Int32) :
    sysmProcFilenameInto buffer pidBuf pid fname = sysmProcFilename buffer pid fname := by
  obtain ⟨filled, place, run, -, behind, ends⟩ := sysmUitoa_digits size pid.toUInt32
  have digits : bytesAt filled place (decimal pid.toUInt32.toNat).length = some (decimal pid.toUInt32.toNat) := by
    rw [bytesAt, if_pos (by omega), behind, List.take_left]
  simp only [sysmProcFilenameInto, run, Option.bind_eq_bind, Option.bind_some, if_neg (Nat.not_lt.mpr asserted), digits,
    sysmProcFilename, copyString, Nat.zero_add]

/-- The path and its NUL stand at the start of the buffer then. -/
theorem sysmProcFilename_path (asserted : procFsRoot.length + uitoaBufferSize + fname.length + 1 ≤ buffer.length)
    (pid : Int32) :
    (procPath pid fname).length < buffer.length ∧
      sysmProcFilename buffer pid fname = some (procPath pid fname ++ 0 :: buffer.drop ((procPath pid fname).length + 1)) := by
  have digits := length_decimal_uint32 pid.toUInt32
  have whole : uitoaBufferSize = 13 := rfl
  have length : (procPath pid fname).length =
      0 + ([procFsRoot, decimal pid.toUInt32.toNat, fname].map List.length).sum := by
    simp only [procPath, List.length_append, List.map_cons, List.map_nil, List.sum_cons, List.sum_nil]
    omega
  have room : (procPath pid fname).length < buffer.length := by
    simp only [procPath, List.length_append]
    omega
  refine ⟨room, ?_⟩
  rw [sysmProcFilename, copyString_eq (length ▸ room), ← length]
  simp only [List.take_zero, List.nil_append, List.flatten_cons, List.flatten_nil, List.append_nil, procPath]

/-- What `sysm_proc_filename` writes: the digits of the pid inside of `pid_buf`,
each counted, and the whole path with its NUL inside of the buffer. The pid is
read back from the digits, and no other pid has this path. -/
theorem sysmProcFilename_writes (size : pidBuf.length = uitoaBufferSize)
    (asserted : procFsRoot.length + uitoaBufferSize + fname.length + 1 ≤ buffer.length) (pid : Int32) :
    (∃ filled pidStr, sysmUitoa pidBuf pid.toUInt32 0 = some (filled, pidStr, (decimal pid.toUInt32.toNat).length) ∧
      filled.length = uitoaBufferSize ∧ filled.drop pidStr = decimal pid.toUInt32.toNat ++ [0]) ∧
    (procPath pid fname).length < buffer.length ∧
    sysmProcFilenameInto buffer pidBuf pid fname =
      some (procPath pid fname ++ 0 :: buffer.drop ((procPath pid fname).length + 1)) ∧
    CanonicalDecimal (decimal pid.toUInt32.toNat) ∧ digitsVal 10 (decimal pid.toUInt32.toNat) = pid.toUInt32.toNat ∧
    toInt (strtoul 10 (decimal pid.toUInt32.toNat)).1 = pid ∧
    ∀ pid' fname', pid ≠ pid' → (fname = fname' ∨ (Stops isDigit fname ∧ Stops isDigit fname')) →
      procPath pid fname ≠ procPath pid' fname' := by
  obtain ⟨filled, pidStr, run, length, behind, -⟩ := sysmUitoa_digits size pid.toUInt32
  obtain ⟨room, writes⟩ := sysmProcFilename_path asserted pid
  rw [← sysmProcFilenameInto_eq size asserted pid] at writes
  refine ⟨⟨filled, pidStr, run, length, behind⟩, room, writes, canonicalDecimal_decimal _, digitsVal_decimal _,
    toInt_decimal_pid pid, ?_⟩
  intro pid' fname' different apart same
  exact different (procPath_injective apart same)

end Filename

/-- The path of `/proc/42/stat` in a buffer of 32 bytes. -/
theorem sysmProcFilename_writes_stat :
    sysmProcFilenameInto (List.replicate 32 1) (List.replicate 13 7) 42 procPstat =
        some (ofString "/proc/42/stat" ++ 0 :: List.replicate 18 1) ∧
      procPath 42 procPstat ≠ procPath (-1) procPstat := by
  have size : (List.replicate 13 (7 : UInt8)).length = uitoaBufferSize := List.length_replicate
  have asserted : procFsRoot.length + uitoaBufferSize + procPstat.length + 1 ≤ (List.replicate 32 (1 : UInt8)).length := by
    decide
  obtain ⟨-, -, writes, -, -, -, apart⟩ := sysmProcFilename_writes size asserted 42
  exact ⟨writes, apart (-1) procPstat (by decide) (Or.inl rfl)⟩

end Sysm
