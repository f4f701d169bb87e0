import Sysm.State

namespace Sysm
open CString

/-- `SYSM_PROC_ARGS_MAX` -/
def sysmProcArgsMax : Nat := 12

/-- The loop of `sysm_os_proc_args_get` that puts the pieces of the file one behind
the other. `total`, the length of `buf`, is an `int`, and so is the size for
`realloc`, which has one byte more. -/
def readArgs : List UInt8 → List (List UInt8) → Option (List UInt8)
  | buf, [] => some buf
  | buf, buffer :: reads =>
    if buffer = [] then some buf
    else if buf.length + buffer.length + 1 < 2 ^ 31 then readArgs (buf ++ buffer) reads
    else none

/-- The loop of `sysm_os_proc_args_get` over the bytes from `ptr` to the NUL behind
the buffer. `strlen` must not run out of them. The memory of a grown array is
not initialised. -/
def splitArgs (memory : Nat → Text) : Nat → Int → List UInt8 → GrowList Text → Option (GrowList Text)
  | 0, total, _, procArgs => if total ≤ 0 then some procArgs else none
  | rounds + 1, total, ptr, procArgs =>
    if total ≤ 0 then some procArgs
    else if 0 ∈ ptr then do
      let arg := ofBuffer ptr
      let alen := arg.length + 1
      let procArgs ← procArgs.push sysmProcArgsMax memory arg
      let total := total - alen
      splitArgs memory rounds total (if 0 < total then ptr.drop alen else ptr) procArgs
    else none

/-- `sysm_os_proc_args_get`, where `reads` are the bytes that the calls of `read`
bring one after the other. -/
def sysmOsProcArgsGet (memory : Nat → Text) (reads : Except Int (List (List UInt8))) (procArgs : GrowList Text) :
    Option (Int × GrowList Text) :=
  match reads with
  | .error errno => some (if errno = ENOENT then ESRCH else errno, procArgs)
  | .ok reads => do
    let buf ← readArgs [] reads
    if buf = [] then return (0, { procArgs with number := 0 })
    else
      let procArgs ← splitArgs memory buf.length buf.length (buf ++ [0]) procArgs
      return (0, procArgs)

/-- `sysm_proc_args_get`. The array of a call that fails is freed. -/
def sysmProcArgsGet (memory : Nat → Text) (reads : Except Int (List (List UInt8))) : Option (Int × GrowList Text) := do
  let (status, procArgs) ← sysmOsProcArgsGet memory reads (.create sysmProcArgsMax memory)
  if status ≠ 0 then return (status, ⟨0, []⟩) else return (status, procArgs)

/-- The content is made of these arguments, each with a NUL behind it; behind the
last one it may be missing. -/
structure ArgsOf (content : List UInt8) (args : List Text) : Prop where
  noNul : ∀ arg ∈ args, ∀ c ∈ arg, c ≠ 0
  joined : args.flatMap (fun arg => arg ++ [0]) =
    if content = [] ∨ content.getLast? = some 0 then content else content ++ [0]

/-- The calls of `read` bring the content in pieces that fit into the buffer. -/
structure ReadsOf (content : List UInt8) (reads : List (List UInt8)) : Prop where
  whole : reads.flatten = content
  pieces : ∀ buffer ∈ reads, buffer ≠ [] ∧ buffer.length ≤ BUFSIZ - 1

/-- However the content is read, the arguments are the same. -/
def SplitsAlike (content : List UInt8) : Prop :=
  ∃ args, ArgsOf content args ∧ ∀ memory reads, ReadsOf content reads →
    ∃ procArgs, sysmOsProcArgsGet memory (.ok reads) (.create sysmProcArgsMax memory) = some (0, procArgs) ∧
      procArgs.items = args

variable {memory : Nat → Text} {content buf : List UInt8} {reads : List (List UInt8)}

/-- All the pieces are put together, unless the size gets out of the range of an `int`. -/
theorem readArgs_eq (pieces : ∀ buffer ∈ reads, buffer ≠ []) (small : buf.length + 1 < 2 ^ 31) :
    readArgs buf reads = if (buf ++ reads.flatten).length + 1 < 2 ^ 31 then some (buf ++ reads.flatten) else none := by
  induction reads generalizing buf with
  | nil =>
    rw [List.flatten_nil, List.append_nil, if_pos small]
    rfl
  | cons buffer reads ih =>
    have full := pieces buffer (List.mem_cons_self ..)
    have later := fun other member => pieces other (List.mem_cons_of_mem _ member)
    rw [readArgs, if_neg full, List.flatten_cons, ← List.append_assoc]
    by_cases fits : buf.length + buffer.length + 1 < 2 ^ 31
    · rw [if_pos fits]
      exact ih later (by rw [List.length_append]; omega)
    · rw [if_neg fits, if_neg]
      simp only [List.length_append]
      omega

theorem splitArgs_stop (rounds : Nat) {total : Int} (exhausted : total ≤ 0) (ptr : List UInt8) (procArgs : GrowList Text) :
    splitArgs memory rounds total ptr procArgs = some procArgs := by
  cases rounds with
  | zero => rw [splitArgs, if_pos exhausted]
  | succ rounds => rw [splitArgs, if_pos exhausted]

/-- One round takes the bytes up to the next NUL. -/
theorem splitArgs_round {arg rest : List UInt8} (plain : ∀ c ∈ arg, c ≠ 0) (rounds : Nat) {total : Int}
    (more : 0 < total) {procArgs : GrowList Text} (bound : procArgs.InBounds) :
    ∃ next, next.InBounds ∧ next.items = procArgs.items ++ [arg] ∧
      splitArgs memory (rounds + 1) total (arg ++ 0 :: rest) procArgs =
        splitArgs memory rounds (total - (arg.length + 1))
          (if 0 < total - (arg.length + 1) then rest else arg ++ 0 :: rest) next := by
  obtain ⟨next, push, inBounds, _, items⟩ := GrowList.push_some bound (by decide : 0 < sysmProcArgsMax) memory arg
  have string : ofBuffer (arg ++ 0 :: rest) = arg := by
    rw [ofBuffer, List.takeWhile_append_of_pos (by simpa using plain)]
    simp
  have dropped : (arg ++ 0 :: rest).drop (arg.length + 1) = rest := by
    rw [← List.drop_drop, List.drop_left]
    rfl
  have inside : (0 : UInt8) ∈ arg ++ 0 :: rest := by simp
  refine ⟨next, inBounds, items, ?_⟩
  rw [splitArgs, if_neg (by omega), if_pos inside, string]
  simp only [push, dropped, Option.bind_eq_bind, Option.bind_some, Nat.cast_add, Nat.cast_one]

/-- The rounds of the loop bring the arguments of the content. -/
theorem splitArgs_spec (rounds : Nat) (content : List UInt8) (some_byte : content ≠ []) (enough : content.length ≤ rounds) :
    ∃ args, ArgsOf content args ∧ ∀ memory (procArgs : GrowList Text), procArgs.InBounds →
      ∃ result, splitArgs memory rounds content.length (content ++ [0]) procArgs = some result ∧
        result.items = procArgs.items ++ args := by
  induction rounds generalizing content with
  | zero => exact absurd (List.eq_nil_of_length_eq_zero (by omega)) some_byte
  | succ rounds ih =>
    have positive : 0 < content.length := List.length_pos_of_ne_nil some_byte
    by_cases terminated : 0 ∈ content
    · obtain ⟨arg, rest, rfl, plain⟩ := List.eq_append_cons_of_mem terminated
      have plain : ∀ c ∈ arg, c ≠ 0 := by
        rintro c member rfl
        exact plain member
      have left : (((arg ++ 0 :: rest).length : Nat) : Int) - (arg.length + 1) = rest.length := by
        simp only [List.length_append, List.length_cons]
        omega
      by_cases last : rest = []
      · refine ⟨[arg], ⟨by simpa using plain, by simp [last]⟩, ?_⟩
        intro memory procArgs bound
        obtain ⟨next, _, items, round⟩ := @splitArgs_round memory arg (rest ++ [0]) plain rounds _
          (Int.natCast_pos.mpr positive) procArgs bound
        refine ⟨next, ?_, items⟩
        rw [List.append_assoc, List.cons_append, round, left]
        exact splitArgs_stop rounds (by simp [last]) _ next
      · have shorter : rest.length ≤ rounds := by
          simp only [List.length_append, List.length_cons] at enough
          omega
        obtain ⟨args, argsOf, later⟩ := ih rest last shorter
        have ends : (arg ++ 0 :: rest).getLast? = rest.getLast? := by
          rw [List.getLast?_append_of_ne_nil _ (List.cons_ne_nil 0 rest), List.getLast?_cons_of_ne_nil last]
        refine ⟨arg :: args, ⟨?_, ?_⟩, ?_⟩
        · intro other member
          rcases List.mem_cons.mp member with rfl | inArgs
          · exact plain
          · exact argsOf.noNul other inArgs
        · rw [List.flatMap_cons, argsOf.joined, ends]
          by_cases closed : rest.getLast? = some 0
          · simp [closed]
          · simp [closed, last]
        · intro memory procArgs bound
          obtain ⟨next, inBounds, items, round⟩ := @splitArgs_round memory arg (rest ++ [0]) plain rounds _
            (Int.natCast_pos.mpr positive) procArgs bound
          obtain ⟨result, run, same⟩ := later memory next inBounds
          have more : (0 : Int) < rest.length := Int.natCast_pos.mpr (List.length_pos_of_ne_nil last)
          refine ⟨result, ?_, by rw [same, items, List.append_assoc, List.singleton_append]⟩
          rw [List.append_assoc, List.cons_append, round, left, if_pos more]
          exact run
    · -- behind the last argument `total` is -1
      have plain : ∀ c ∈ content, c ≠ 0 := by
        rintro c member rfl
        exact terminated member
      have open_end : content.getLast? ≠ some 0 := fun last => terminated (List.mem_of_getLast? last)
      refine ⟨[content], ⟨by simpa using plain, by simp [some_byte, open_end]⟩, ?_⟩
      intro memory procArgs bound
      obtain ⟨next, _, items, round⟩ := @splitArgs_round memory content [] plain rounds _
        (Int.natCast_pos.mpr positive) procArgs bound
      refine ⟨next, ?_, items⟩
      rw [round]
      exact splitArgs_stop rounds (by omega) _ next

theorem ReadsOf.readArgs_content (readsOf : ReadsOf content reads) :
    readArgs [] reads = if content.length + 1 < 2 ^ 31 then some content else none := by
  have whole := readArgs_eq (fun buffer member => (readsOf.pieces buffer member).1) (by decide : [].length + 1 < 2 ^ 31)
  rwa [List.nil_append, readsOf.whole] at whole

/-- Every content can be read byte by byte. -/
theorem readsOf_bytes (content : List UInt8) : ReadsOf content (content.map fun c => [c]) where
  whole := by
    induction content with
    | nil => rfl
    | cons c content ih => rw [List.map_cons, List.flatten_cons, ih, List.singleton_append]
  pieces := by
    intro buffer member
    obtain ⟨c, _, rfl⟩ := List.mem_map.mp member
    exact ⟨List.cons_ne_nil c [], by rw [List.length_singleton]; decide⟩

/-- A content that is too long makes `total` get out of its range. -/
theorem not_splitsAlike_of_long (long : ¬ content.length + 1 < 2 ^ 31) : ¬ SplitsAlike content := by
  rintro ⟨args, _, alike⟩
  have readsOf := readsOf_bytes content
  obtain ⟨procArgs, run, _⟩ := alike (fun _ => []) _ readsOf
  have buf := readsOf.readArgs_content
  rw [if_neg long] at buf
  simp only [sysmOsProcArgsGet, buf, Option.bind_eq_bind, Option.bind_none] at run
  cases run

theorem splitsAlike_of_short (short : content.length + 1 < 2 ^ 31) : SplitsAlike content := by
  have fresh (memory : Nat → Text) : (GrowList.create sysmProcArgsMax memory).items = [] := rfl
  by_cases empty : content = []
  · refine ⟨[], ⟨by simp, by simp [empty]⟩, ?_⟩
    intro memory reads readsOf
    have buf := readsOf.readArgs_content
    rw [if_pos short, empty] at buf
    refine ⟨{ GrowList.create sysmProcArgsMax memory with number := 0 }, ?_, rfl⟩
    simp only [sysmOsProcArgsGet, buf, Option.bind_eq_bind, Option.bind_some, if_true, Option.pure_def]
  · obtain ⟨args, argsOf, split⟩ := splitArgs_spec content.length content empty (Nat.le_refl _)
    refine ⟨args, argsOf, ?_⟩
    intro memory reads readsOf
    have buf := readsOf.readArgs_content
    rw [if_pos short] at buf
    obtain ⟨result, run, items⟩ := split memory (.create sysmProcArgsMax memory) (Nat.zero_le _)
    refine ⟨result, ?_, by rw [items, fresh, List.nil_append]⟩
    simp only [sysmOsProcArgsGet, buf, Option.bind_eq_bind, Option.bind_some, if_neg empty, run, Option.pure_def]

/-- The arguments come out whole, whatever the pieces are, exactly if the content
and its NUL can be counted in an `int`. -/
theorem splitsAlike_iff (content : List UInt8) : SplitsAlike content ↔ content.length + 1 < 2 ^ 31 := by
  constructor
  · intro alike
    by_contra long
    exact not_splitsAlike_of_long long alike
  · exact splitsAlike_of_short

/-- The caller gets the arguments of a process too. -/
theorem sysmProcArgsGet_args (short : content.length + 1 < 2 ^ 31) (readsOf : ReadsOf content reads) :
    ∃ procArgs, sysmProcArgsGet memory (.ok reads) = some (0, procArgs) ∧ ArgsOf content procArgs.items := by
  obtain ⟨args, argsOf, alike⟩ := splitsAlike_of_short short
  obtain ⟨procArgs, run, items⟩ := alike memory reads readsOf
  refine ⟨procArgs, ?_, by rwa [items]⟩
  simp only [sysmProcArgsGet, run, Option.bind_eq_bind, Option.bind_some]
  rfl

example : (sysmProcArgsGet (fun _ => []) (.ok [ofString "ls", [0, 45], [108, 0, 0]])).map (fun reply => reply.2.items) =
    some [ofString "ls", ofString "-l", []] := by decide

/-- A command line of two gigabytes. -/
theorem not_splitsAlike_twoGigabytes : ¬ ∀ content, SplitsAlike content := by
  intro claim
  refine not_splitsAlike_of_long ?_ (claim (List.replicate (2 ^ 31 - 1) 65))
  rw [List.length_replicate]
  decide

end Sysm
