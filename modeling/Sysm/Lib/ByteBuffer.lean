import Sysm.Lib.CNumbers

namespace ByteBuffer

/-- `buffer[index] = byte`. A write outside of the block of bytes is a fault. -/
def put (buffer : List UInt8) (index : Nat) (byte : UInt8) : Option (List UInt8) :=
  if index < buffer.length then some (buffer.set index byte) else none

/-- `memcpy(buffer + offset, bytes, n)`, also what `read` does -/
def copy (buffer : List UInt8) (offset : Nat) (bytes : List UInt8) : Option (List UInt8) :=
  if offset + bytes.length ≤ buffer.length then
    some (buffer.take offset ++ bytes ++ buffer.drop (offset + bytes.length))
  else none

/-- Copies the pieces one behind the other and ends the string with a NUL. -/
def copyString (buffer : List UInt8) : Nat → List (List UInt8) → Option (List UInt8)
  | offset, [] => put buffer offset 0
  | offset, piece :: pieces => do
    let buffer ← copy buffer offset piece
    copyString buffer (offset + piece.length) pieces

/-- Bytes at the start of the buffer and `buffer[len] = '\0'` behind them. -/
def storeString (buffer bytes : List UInt8) : Option (List UInt8) := do
  let buffer ← copy buffer 0 bytes
  put buffer bytes.length 0

variable {buffer buffer' : List UInt8} {index offset : Nat} {byte : UInt8} {bytes : List UInt8}

theorem length_copy (run : copy buffer offset bytes = some buffer') : buffer'.length = buffer.length := by
  obtain ⟨fits, same⟩ := Option.ite_none_right_eq_some.mp run
  cases same
  simp only [List.length_append, List.length_take, List.length_drop]
  omega

theorem put_some (inside : index < buffer.length) (byte : UInt8) : put buffer index byte = some (buffer.set index byte) :=
  if_pos inside

theorem put_outside (outside : buffer.length ≤ index) (byte : UInt8) : put buffer index byte = none :=
  if_neg (by omega)

/-- What is before a buffer does not matter. -/
theorem put_append (before buffer : List UInt8) (index : Nat) (byte : UInt8) :
    put (before ++ buffer) (before.length + index) byte = (put buffer index byte).map (before ++ ·) := by
  rw [put, put, List.length_append]
  by_cases inside : index < buffer.length
  · rw [if_pos (by omega), if_pos inside, Option.map_some, List.set_append_right _ _ (Nat.le_add_right ..),
      Nat.add_sub_cancel_left]
  · rw [if_neg (by omega), if_neg inside, Option.map_none]

theorem copy_append (before buffer : List UInt8) (offset : Nat) (bytes : List UInt8) :
    copy (before ++ buffer) (before.length + offset) bytes = (copy buffer offset bytes).map (before ++ ·) := by
  rw [copy, copy, List.length_append]
  by_cases fits : offset + bytes.length ≤ buffer.length
  · rw [if_pos (by omega), if_pos fits, Option.map_some, Nat.add_assoc, List.take_length_add_append, List.drop_length_add_append]
    simp only [List.append_assoc]
  · rw [if_neg (by omega), if_neg fits, Option.map_none]

/-- The pieces stand one behind the other then, if all of them and the NUL find room. -/
theorem copyString_eq {pieces : List (List UInt8)} (room : offset + (pieces.map List.length).sum < buffer.length) :
    copyString buffer offset pieces = some (buffer.take offset ++ pieces.flatten ++
      0 :: buffer.drop (offset + (pieces.map List.length).sum + 1)) := by
  induction pieces generalizing buffer offset with
  | nil =>
    have inside : offset < buffer.length := by simpa using room
    rw [copyString, put_some inside, List.set_eq_take_append_cons_drop, if_pos inside]
    simp
  | cons piece pieces ih =>
    rw [List.map_cons, List.sum_cons] at room ⊢
    have fits : offset + piece.length ≤ buffer.length := by omega
    have front : (buffer.take offset ++ piece).length = offset + piece.length := by
      rw [List.length_append, List.length_take]
      omega
    have run : copy buffer offset piece = some (buffer.take offset ++ piece ++ buffer.drop (offset + piece.length)) := if_pos fits
    have length := length_copy run
    have rest := @ih (buffer.take offset ++ piece ++ buffer.drop (offset + piece.length)) (offset + piece.length) (by omega)
    have behind : (buffer.take offset ++ piece ++ buffer.drop (offset + piece.length)).drop
        (offset + piece.length + (pieces.map List.length).sum + 1) =
          buffer.drop (offset + (piece.length + (pieces.map List.length).sum) + 1) := by
      rw [List.drop_append, List.drop_of_length_le (by omega), List.nil_append, List.drop_drop, front]
      congr 1
      omega
    rw [behind, List.take_left' front] at rest
    simp only [copyString, run, Option.bind_eq_bind, Option.bind_some]
    rw [rest, List.flatten_cons]
    simp only [List.append_assoc]

theorem copyString_some {pieces : List (List UInt8)} (room : offset + (pieces.map List.length).sum < buffer.length) :
    ∃ buffer', copyString buffer offset pieces = some buffer' ∧ buffer'.length = buffer.length := by
  refine ⟨_, copyString_eq room, ?_⟩
  simp only [List.length_append, List.length_take, List.length_cons, List.length_drop, List.length_flatten]
  omega

/-- Bytes copied over a stretch of their length leave what is before and behind it. -/
theorem copy_middle {before stretch behind : List UInt8} (place : offset = before.length) (same : bytes.length = stretch.length) :
    copy (before ++ (stretch ++ behind)) offset bytes = some (before ++ (bytes ++ behind)) := by
  have fits : offset + bytes.length ≤ (before ++ (stretch ++ behind)).length := by
    rw [List.length_append, List.length_append]
    omega
  rw [copy, if_pos fits, place, List.take_left, List.drop_append, List.drop_of_length_le (by omega), List.nil_append,
    Nat.add_sub_cancel_left, same, List.drop_left, List.append_assoc]

/-- So does a string that is shorter than the stretch. -/
theorem copyString_middle {before stretch behind : List UInt8} (place : offset = before.length)
    (short : bytes.length < stretch.length) :
    copyString (before ++ (stretch ++ behind)) offset [bytes] =
      some (before ++ ((bytes ++ 0 :: stretch.drop (bytes.length + 1)) ++ behind)) := by
  have split : stretch = stretch.take bytes.length ++ stretch[bytes.length] :: stretch.drop (bytes.length + 1) := by
    rw [List.getElem_cons_drop, List.take_append_drop]
  have copied : copy (before ++ (stretch ++ behind)) offset bytes =
      some (before ++ (bytes ++ (stretch[bytes.length] :: stretch.drop (bytes.length + 1) ++ behind))) := by
    nth_rewrite 1 [split]
    rw [List.append_assoc]
    exact copy_middle place (by rw [List.length_take]; omega)
  have inside : offset + bytes.length <
      (before ++ (bytes ++ (stretch[bytes.length] :: stretch.drop (bytes.length + 1) ++ behind))).length := by
    simp only [List.length_append, List.length_cons]
    omega
  simp only [copyString, copied, Option.bind_eq_bind, Option.bind_some, put_some inside, Option.some.injEq]
  rw [place, List.set_append_right _ _ (Nat.le_add_right ..), Nat.add_sub_cancel_left,
    List.set_append_right _ _ (Nat.le_refl _), Nat.sub_self, List.cons_append, List.set_cons_zero, List.append_assoc,
    List.cons_append]

/-- What is behind the NUL does not belong to the string. -/
theorem ofBuffer_append_nul (bytes rest : List UInt8) : CString.ofBuffer (bytes ++ 0 :: rest) = CString.ofBuffer bytes := by
  induction bytes with
  | nil => rfl
  | cons c bytes ih =>
    simp only [CString.ofBuffer] at ih
    simp only [CString.ofBuffer, List.cons_append, List.takeWhile_cons, ih]

theorem storeString_some (fits : bytes.length < buffer.length) :
    storeString buffer bytes = some (bytes ++ 0 :: buffer.drop (bytes.length + 1)) := by
  have copied : copy buffer 0 bytes = some (bytes ++ buffer.drop bytes.length) := by
    rw [copy, if_pos (by omega), List.take_zero, List.nil_append, Nat.zero_add]
  have behind : buffer.drop bytes.length = buffer[bytes.length] :: buffer.drop (bytes.length + 1) :=
    List.drop_eq_getElem_cons fits
  have inside : bytes.length < (bytes ++ buffer.drop bytes.length).length := by
    rw [List.length_append, List.length_drop]
    omega
  simp only [storeString, copied, Option.bind_eq_bind, Option.bind_some, put_some inside, Option.some.injEq]
  rw [behind, List.set_append_right _ _ (Nat.le_refl _), Nat.sub_self, List.set_cons_zero]

theorem storeString_some_iff : (∃ final, storeString buffer bytes = some final) ↔ bytes.length < buffer.length := by
  constructor
  · rintro ⟨final, run⟩
    obtain ⟨copied, stored, ended⟩ := Option.bind_eq_some_iff.mp run
    have inside := (Option.ite_none_right_eq_some.mp ended).1
    have length := length_copy stored
    omega
  · intro fits
    exact ⟨_, storeString_some fits⟩

theorem storeString_eq_none (long : buffer.length ≤ bytes.length) : storeString buffer bytes = none := by
  rw [Option.eq_none_iff_forall_ne_some]
  intro final run
  have fits := storeString_some_iff.mp ⟨final, run⟩
  omega

/-- What is stored is a string there. -/
theorem ofBuffer_storeString {final : List UInt8} (run : storeString buffer bytes = some final) :
    CString.ofBuffer final = CString.ofBuffer bytes := by
  rw [storeString_some (storeString_some_iff.mp ⟨final, run⟩)] at run
  cases run
  exact ofBuffer_append_nul bytes _

end ByteBuffer
