import Sysm.Lib.ByteBuffer
import Sysm.ProcEnv
import Sysm.ProcList

namespace Sysm
open CString ByteBuffer

/-- `PROC_FS_ROOT` -/
def procFsRoot : Text := ofString "/proc/"

/-- `PROC_PSTAT` -/
def procPstat : Text := ofString "/stat"

/-- What opening a file and reading it once brings: a failing `open`, -1 from
`read`, or the bytes that `read` stores. -/
inductive OpenRead where
  | missing (errno : Int)
  | failed (errno : Int) (real : errno ≠ 0)
  | stored (bytes : List UInt8)

namespace OpenRead

/-- The value of `read`, if it is called. -/
def count : OpenRead → Option Int
  | missing _ => none
  | failed _ _ => some (-1)
  | stored bytes => some bytes.length

/-- The file as `sysm_file2str` sees it. -/
def file : OpenRead → FileRead
  | missing _ => .missing
  | failed errno real => .failed errno real
  | stored bytes => .bytes bytes

end OpenRead

/-- `sysm_file2str` with a buffer of `buflen` bytes. -/
def sysmFile2strInto (buffer : List UInt8) : OpenRead → Option (Int × List UInt8)
  | .missing _ => some (ENOENT, buffer)
  | .failed errno _ => some (errno, buffer)
  | .stored bytes => do
    let buffer ← storeString buffer bytes
    return (0, buffer)

def sysmProcFilename (buffer : List UInt8) (pid : Int32) (fname : Text) : Option (List UInt8) :=
  copyString buffer 0 [procFsRoot, decimal pid.toUInt32.toNat, fname]

/-- `sysm_proc_file2str`. The name of the file stands in the buffer before its content. -/
def sysmProcFile2strInto (buffer : List UInt8) (pid : Int32) (fname : Text) (file : OpenRead) :
    Option (Int × List UInt8) := do
  let buffer ← sysmProcFilename buffer pid fname
  let (retval, buffer) ← sysmFile2strInto buffer file
  return (if retval = ENOENT then ESRCH else retval, buffer)

/-- `proc_isthread` with its buffer. -/
def procIsThreadInto (buffer : List UInt8) (offset : Int32) (pidstr : Text) (file : OpenRead) : Option Bool := do
  let buffer ← copyString buffer 0 [procFsRoot, pidstr, procPstat]
  match file with
  | .missing _ => return false
  | .failed _ _ => return false
  | .stored bytes =>
    let buffer ← storeString buffer bytes
    let n := scanBack isDigit buffer (bytes.length - 1)
    let n := skipFieldsBack buffer offset.toInt.toNat n
    return 3 ≤ n && (buffer.drop n).take 3 != ofString "17 "

/-- How `sysm_proc_env_get` reads the file: the bytes from `buffer` to `end`.
With -1 from `read` the index is the largest `size_t`. -/
def procEnvironInto (buffer : List UInt8) : OpenRead → Option (Except Int (List UInt8))
  | .missing errno => some (.error (if errno = ENOENT then ESRCH else errno))
  | .failed _ _ => do
    let buffer ← put buffer (2 ^ 64 - 1) 0
    return .ok buffer
  | .stored bytes => do
    let buffer ← storeString buffer bytes
    return .ok (buffer.take bytes.length)

/-- A file that is read into a buffer of a fixed size: by `sysm_file2str` with
any buffer, by `sysm_proc_file2str` as far as its assertion allows, by
`proc_isthread` for a name in `/proc`, or by `sysm_proc_env_get`. -/
inductive BufferUse where
  | file2str (buffer : List UInt8)
  | procFile2str (buffer : List UInt8) (pid : Int32) (fname : Text) (asserted : 6 + 13 + fname.length + 1 ≤ buffer.length)
  | isThread (buffer : List UInt8) (size : buffer.length = BUFSIZ) (offset : Int32) (pidstr : Text)
      (short : pidstr.length ≤ 255)
  | procEnv (buffer : List UInt8) (size : buffer.length = argMax)

namespace BufferUse

def size : BufferUse → Nat
  | file2str buffer => buffer.length
  | procFile2str buffer _ _ _ => buffer.length
  | isThread buffer _ _ _ _ => buffer.length
  | procEnv buffer _ => buffer.length

/-- All that is written lands in the buffer. -/
def WritesInside (file : OpenRead) : BufferUse → Prop
  | file2str buffer => ∃ result, sysmFile2strInto buffer file = some result
  | procFile2str buffer pid fname _ => ∃ result, sysmProcFile2strInto buffer pid fname file = some result
  | isThread buffer _ offset pidstr _ => ∃ result, procIsThreadInto buffer offset pidstr file = some result
  | procEnv buffer _ => ∃ result, procEnvironInto buffer file = some result

/-- `sysm_proc_env_get` takes whatever `read` returns for a place in the buffer. -/
def checksRead : BufferUse → Bool
  | procEnv _ _ => false
  | _ => true

end BufferUse

theorem length_decimal_uint32 (n : UInt32) : (decimal n.toNat).length ≤ 10 := by
  have small : n.toNat < 10 ^ 10 := by
    have := n.toNat_lt
    omega
  rw [decimal, List.length_map]
  exact (Nat.length_toDigits_le_iff (by omega) (by omega)).mpr small

theorem sysmProcFilename_some {buffer : List UInt8} {fname : Text} (asserted : 6 + 13 + fname.length + 1 ≤ buffer.length)
    (pid : Int32) : ∃ named, sysmProcFilename buffer pid fname = some named ∧ named.length = buffer.length := by
  have digits := length_decimal_uint32 pid.toUInt32
  have root : procFsRoot.length = 6 := rfl
  have room : 0 + ([procFsRoot, decimal pid.toUInt32.toNat, fname].map List.length).sum < buffer.length := by
    simp only [List.map_cons, List.map_nil, List.sum_cons, List.sum_nil]
    omega
  exact copyString_some room

theorem sysmFile2strInto_some_iff {buffer : List UInt8} {file : OpenRead} :
    (∃ result, sysmFile2strInto buffer file = some result) ↔
      ∀ bytes, file = .stored bytes → bytes.length < buffer.length := by
  cases file with
  | missing errno => simp [sysmFile2strInto]
  | failed errno real => simp [sysmFile2strInto]
  | stored bytes => simp [sysmFile2strInto, Option.bind_eq_some_iff, storeString_some_iff]

theorem procIsThreadInto_some_iff {buffer : List UInt8} (size : buffer.length = BUFSIZ) {pidstr : Text}
    (short : pidstr.length ≤ 255) {offset : Int32} {file : OpenRead} :
    (∃ result, procIsThreadInto buffer offset pidstr file = some result) ↔
      ∀ bytes, file = .stored bytes → bytes.length < buffer.length := by
  have lengths : procFsRoot.length = 6 ∧ procPstat.length = 5 := ⟨rfl, rfl⟩
  have room : 0 + ([procFsRoot, pidstr, procPstat].map List.length).sum < buffer.length := by
    simp only [List.map_cons, List.map_nil, List.sum_cons, List.sum_nil, size, BUFSIZ]
    omega
  obtain ⟨named, name, length⟩ := copyString_some room
  cases file with
  | missing errno => simp [procIsThreadInto, name]
  | failed errno real => simp [procIsThreadInto, name]
  | stored bytes =>
    simp only [procIsThreadInto, name, Option.bind_eq_bind, Option.bind_some, OpenRead.stored.injEq, forall_eq']
    rw [← length, ← storeString_some_iff]
    constructor
    · rintro ⟨result, run⟩
      obtain ⟨final, stored, -⟩ := Option.bind_eq_some_iff.mp run
      exact ⟨final, stored⟩
    · rintro ⟨final, stored⟩
      rw [stored]
      exact ⟨_, rfl⟩

theorem procEnvironInto_some_iff {buffer : List UInt8} (size : buffer.length = argMax) {file : OpenRead} :
    (∃ result, procEnvironInto buffer file = some result) ↔
      file.count ≠ some (-1) ∧ ∀ bytes, file = .stored bytes → bytes.length < buffer.length := by
  cases file with
  | missing errno => simp [procEnvironInto, OpenRead.count]
  | failed errno real =>
    have outside : put buffer (2 ^ 64 - 1) 0 = none := put_outside (by rw [size, argMax]; omega) 0
    have fault : procEnvironInto buffer (.failed errno real) = none := by
      simp only [procEnvironInto, outside, Option.bind_eq_bind, Option.bind_none]
    simp [fault, OpenRead.count]
  | stored bytes =>
    have counted : (OpenRead.stored bytes).count ≠ some (-1) := by
      simp only [OpenRead.count, ne_eq, Option.some.injEq]
      omega
    simp [procEnvironInto, Option.bind_eq_some_iff, storeString_some_iff, counted]

/-- A string that is read is the one of `sysm_file2str` over an abstract file,
and the fault is its fault. -/
theorem sysmFile2strInto_file {buffer : List UInt8} (file : OpenRead) :
    (sysmFile2strInto buffer file).map (fun result => if result.1 = 0 then Except.ok (ofBuffer result.2) else .error result.1) =
      sysmFile2str buffer.length file.file := by
  cases file with
  | missing errno => rfl
  | failed errno real => simp [sysmFile2strInto, sysmFile2str, OpenRead.file, real]
  | stored bytes =>
    simp only [sysmFile2str, OpenRead.file]
    by_cases fits : bytes.length < buffer.length
    · simp [sysmFile2strInto, storeString_some fits, fits, ofBuffer_append_nul]
    · simp [sysmFile2strInto, storeString_eq_none (Nat.le_of_not_lt fits), fits]

/-- What `sysm_proc_env_get` walks over is the content of the file. -/
theorem procEnvironInto_stored {buffer bytes : List UInt8} (fits : bytes.length < buffer.length) :
    procEnvironInto buffer (.stored bytes) = some (.ok bytes) := by
  simp [procEnvironInto, storeString_some fits]

namespace BufferUse

variable {use : BufferUse} {file : OpenRead}

theorem writesInside_iff_length :
    use.WritesInside file ↔ (use.checksRead = false → file.count ≠ some (-1)) ∧
      ∀ bytes, file = .stored bytes → bytes.length < use.size := by
  cases use with
  | file2str buffer =>
    simp only [WritesInside, checksRead, size, sysmFile2strInto_some_iff, Bool.true_eq_false, false_implies, true_and]
  | procFile2str buffer pid fname asserted =>
    obtain ⟨named, name, length⟩ := sysmProcFilename_some asserted pid
    have same : (∃ result, sysmProcFile2strInto buffer pid fname file = some result) ↔
        ∃ result, sysmFile2strInto named file = some result := by
      simp only [sysmProcFile2strInto, name, Option.bind_eq_bind, Option.bind_some]
      cases sysmFile2strInto named file <;> simp
    simp only [WritesInside, checksRead, size, same, sysmFile2strInto_some_iff, length, Bool.true_eq_false, false_implies,
      true_and]
  | isThread buffer full offset pidstr short =>
    simp only [WritesInside, checksRead, size, procIsThreadInto_some_iff full short, Bool.true_eq_false, false_implies,
      true_and]
  | procEnv buffer full => simp only [WritesInside, checksRead, size, procEnvironInto_some_iff full, true_implies]

/-- What is written lands in the buffer, but for a file that fills it and for
the failing `read` that `sysm_proc_env_get` does not look at. -/
theorem writesInside_iff (requested : ∀ bytes, file = .stored bytes → bytes.length ≤ use.size) :
    use.WritesInside file ↔ file.count ≠ some (use.size : Int) ∧ (use.checksRead = false → file.count ≠ some (-1)) := by
  rw [writesInside_iff_length, and_comm]
  have same : (∀ bytes, file = .stored bytes → bytes.length < use.size) ↔ file.count ≠ some (use.size : Int) := by
    cases file with
    | missing errno => simp [OpenRead.count]
    | failed errno real =>
      have below : (-1 : Int) ≠ use.size := by omega
      simp [OpenRead.count, below]
    | stored bytes =>
      have most := requested bytes rfl
      simp only [OpenRead.count, OpenRead.stored.injEq, forall_eq', ne_eq, Option.some.injEq]
      omega
  rw [same]

/-- An `environ` of one variable. -/
theorem writesInside_iff_environ :
    WritesInside (.stored (ofString "HOME=/")) (.procEnv (List.replicate argMax 0) List.length_replicate) ↔
      (OpenRead.stored (ofString "HOME=/")).count ≠ some (argMax : Int) ∧
        (false = false → (OpenRead.stored (ofString "HOME=/")).count ≠ some (-1)) := by
  have bound : ∀ bytes, OpenRead.stored (ofString "HOME=/") = .stored bytes → bytes.length ≤ argMax := by
    intro bytes same
    cases same
    decide
  have iff := @writesInside_iff (.procEnv (List.replicate argMax 0) List.length_replicate) (.stored (ofString "HOME=/"))
    (by simpa only [size, List.length_replicate] using bound)
  simpa only [size, List.length_replicate, checksRead] using iff

/-- `sysm_cpu_get` over a `/proc/stat` of 8192 bytes and more. -/
theorem not_writesInside_long_stat :
    ¬WritesInside (.stored (List.replicate BUFSIZ 32)) (.file2str (List.replicate BUFSIZ 0)) := by
  intro inside
  have fits := (writesInside_iff_length.mp inside).2 _ rfl
  simp only [size, List.length_replicate] at fits
  omega

end BufferUse

end Sysm
