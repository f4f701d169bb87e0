import Sysm.InterfaceList

namespace Sysm

/-- Where the process that uses a `sysm_t` is: between two calls, in the loop
of `sysm_net_interface_list_get`, or behind `sysm_close`. -/
inductive IfconfPhase where
  | idle
  | looping (lastlen : Nat)
  | closed
  | fault

structure IfconfState where
  conf : Ifconf
  phase : IfconfPhase

/-- `sysm_net_interface_list_get` is called, with what `socket` brings; the
kernel answers in its loop; `sysm_close` is called. -/
inductive IfconfEvent where
  | call (socket : Except Int Unit)
  | ioctl (answer : IoctlAnswer)
  | close

namespace IfconfState

/-- A `sysm_t` behind `sysm_open`. -/
def opened : IfconfState := ⟨openedIfconf, .idle⟩

section Step

variable (requests : Nat → Ifreq)

/-- What an event does, if it can happen. A call that has left its loop with the
buffer filled reads the buffer. -/
def step (state : IfconfState) (event : IfconfEvent) : Option IfconfState :=
  match state.phase, event with
  | .idle, .call (.error _) => some state
  | .idle, .call (.ok _) => some { state with phase := .looping 0 }
  | .looping lastlen, .ioctl answer =>
    match state.conf.round requests lastlen answer with
    | none => some { state with phase := .fault }
    | some (conf, .again lastlen) => some ⟨conf, .looping lastlen⟩
    | some (conf, .ended ifcLen) => some ⟨conf, if (conf.requests ifcLen).isSome then .idle else .fault⟩
    | some (conf, .failed _) => some ⟨conf, .idle⟩
  | .idle, .close =>
    match state.conf.free with
    | none => some { state with phase := .fault }
    | some conf => some ⟨conf, .closed⟩
  | _, _ => none

/-- The pointer is null or that of a block of `ifconf_len` bytes that is
allocated. Behind `sysm_close` there was one block at most, and it is free. To
use a block that is not allocated, or to free it, is a fault. -/
structure Usable (state : IfconfState) : Prop where
  noFault : state.phase ≠ .fault
  buffer : state.phase ≠ .closed → ∀ address, state.conf.ifconfBuf = some address →
    ∃ cells, LinkedHeap.read state.conf.blocks address = some cells ∧ sizeofIfreq * cells.length = state.conf.ifconfLen
  freed : state.phase = .closed → state.conf.blocks.length ≤ 1 ∧ ∀ block ∈ state.conf.blocks, block = none

/-- All the states that a run comes through are usable. -/
def UsableThroughout (state : IfconfState) : List IfconfEvent → Prop
  | [] => state.Usable
  | event :: events => state.Usable ∧ ∀ next, state.step requests event = some next → next.UsableThroughout events

/-- The kernel fails with no error but `EINVAL`, and the buffer does not have to
become longer than an `int` can say. -/
def Tolerated (state : IfconfState) (event : IfconfEvent) : Prop :=
  ∀ lastlen answer, state.phase = .looping lastlen → event = .ioctl answer →
    state.conf.nextLen lastlen < 2 ^ 31 ∧ ∀ errno, answer = .fails errno → errno = EINVAL

def ToleratedThroughout (state : IfconfState) : List IfconfEvent → Prop
  | [] => True
  | event :: events => state.Tolerated event ∧ ∀ next, state.step requests event = some next → next.ToleratedThroughout events

/-- What the steps keep as long as they are tolerated. -/
inductive Sound : IfconfState → Prop
  | idle {conf : Ifconf} : conf.Owned → Sound ⟨conf, .idle⟩
  | looping {conf : Ifconf} {lastlen : Nat} : conf.Owned → lastlen = 0 ∨ lastlen = conf.ifconfLen →
      Sound ⟨conf, .looping lastlen⟩
  | closed {conf : Ifconf} : conf.blocks.length ≤ 1 → (∀ block ∈ conf.blocks, block = none) → Sound ⟨conf, .closed⟩

end Step

theorem owned_usable {conf : Ifconf} (owned : conf.Owned) {phase : IfconfPhase} (noFault : phase ≠ .fault)
    (closed : phase ≠ .closed) : Usable ⟨conf, phase⟩ := by
  refine ⟨noFault, fun _ address atBuffer => ?_, fun isClosed => absurd isClosed closed⟩
  cases owned with
  | empty => cases atBuffer
  | buffer cells growths grown small length =>
    cases atBuffer
    exact ⟨cells, rfl, rfl⟩

theorem Sound.usable {state : IfconfState} (sound : Sound state) : state.Usable := by
  cases sound with
  | idle owned => exact owned_usable owned (by simp) (by simp)
  | looping owned _ => exact owned_usable owned (by simp) (by simp)
  | closed one freed => exact ⟨by simp, fun isOpen => absurd rfl isOpen, fun _ => ⟨one, freed⟩⟩

section Step

variable {requests : Nat → Ifreq} {conf : Ifconf} {lastlen : Nat}

/-- A length from an earlier round is shorter than the buffer is in the next one. -/
theorem lastlen_lt_nextLen (owned : conf.Owned) (before : lastlen = 0 ∨ lastlen = conf.ifconfLen) :
    lastlen < conf.nextLen lastlen := by
  have ifreq : sizeofIfreq = 40 := rfl
  have twenty : sysmNetIflistMax = 20 := rfl
  by_cases again : lastlen = 0
  · cases owned with
    | empty =>
      have first : openedIfconf.ifconfBuf = none ∨ lastlen ≠ 0 := Or.inl rfl
      rw [Ifconf.nextLen, if_pos first, again]
      decide
    | buffer cells growths grown small length =>
      have still : ¬ ((some 0 : Option Nat) = none ∨ lastlen ≠ 0) := by simp [again]
      have nonempty : 0 < cells.length := by
        rw [length, twenty]
        omega
      rw [Ifconf.nextLen, if_neg still, again]
      exact Nat.mul_pos (by decide) nonempty
  · rw [Ifconf.nextLen, if_pos (Or.inr again), ifreq, twenty]
    omega

theorem requests_isSome {cells : List Ifreq} {ifcLen : Nat} (inside : ifcLen ≤ sizeofIfreq * cells.length) :
    ((Ifconf.withCells cells).requests ifcLen).isSome = true := by
  have ifreq : sizeofIfreq = 40 := rfl
  have cell : LinkedHeap.read (Ifconf.withCells cells).blocks 0 = some cells := rfl
  have buffer : (Ifconf.withCells cells).ifconfBuf = some 0 := rfl
  rw [ifreq] at inside
  have number : ¬ cells.length < (ifcLen + sizeofIfreq - 1) / sizeofIfreq := by
    rw [ifreq]
    omega
  simp only [Ifconf.requests, buffer, Option.bind_eq_bind, Option.bind_some, cell, if_neg number, Option.pure_def,
    Option.isSome_some]

/-- A round that does not end the call with an error. -/
theorem step_round {answer : IoctlAnswer} {cells : List Ifreq} {ifcLen : Nat} (owned : (Ifconf.withCells cells).Owned)
    (inside : ifcLen ≤ sizeofIfreq * cells.length)
    (round : conf.round requests lastlen answer =
      some (Ifconf.withCells cells, (Ifconf.withCells cells).compare lastlen ifcLen)) :
    ∃ next, step requests ⟨conf, .looping lastlen⟩ (.ioctl answer) = some next ∧ Sound next := by
  by_cases room : ifcLen < (Ifconf.withCells cells).ifconfLen
  · rw [Ifconf.compare, if_pos room] at round
    exact ⟨⟨Ifconf.withCells cells, .idle⟩, by simp only [step, round, requests_isSome inside, if_true], .idle owned⟩
  · have whole : (Ifconf.withCells cells).ifconfLen = sizeofIfreq * cells.length := rfl
    by_cases more : ifcLen ≠ lastlen
    · rw [Ifconf.compare, if_neg room, if_pos more] at round
      exact ⟨⟨Ifconf.withCells cells, .looping ifcLen⟩, by simp only [step, round], .looping owned (Or.inr (by omega))⟩
    · rw [Ifconf.compare, if_neg room, if_neg more] at round
      exact ⟨⟨Ifconf.withCells cells, .idle⟩, by simp only [step, round, requests_isSome inside, if_true], .idle owned⟩

/-- A tolerated answer. -/
theorem step_ioctl (owned : conf.Owned) (before : lastlen = 0 ∨ lastlen = conf.ifconfLen)
    (fits : conf.nextLen lastlen < 2 ^ 31) {answer : IoctlAnswer} (noError : ∀ errno, answer = .fails errno → errno = EINVAL) :
    ∃ next, step requests ⟨conf, .looping lastlen⟩ (.ioctl answer) = some next ∧ Sound next := by
  cases answer with
  | reports addresses =>
    obtain ⟨cells, round, owned', _⟩ := @Ifconf.round_reports requests conf lastlen owned fits addresses
    exact step_round owned' (Nat.mul_le_mul_left _ (Nat.min_le_left _ _)) round
  | fails errno =>
    obtain ⟨cells, round, owned', next, _⟩ := @Ifconf.round_fails requests conf lastlen owned fits errno
    have shorter := lastlen_lt_nextLen owned before
    have goesOn : ¬ (errno ≠ EINVAL ∨ lastlen = sizeofIfreq * cells.length) := by
      rintro (other | same)
      · exact other (noError errno rfl)
      · omega
    rw [if_neg goesOn] at round
    exact step_round owned' (Nat.le_refl _) round

/-- Behind an error the pointer is that of a block that is free. -/
theorem step_error (owned : conf.Owned) (fits : conf.nextLen lastlen < 2 ^ 31) {errno : Int} (error : errno ≠ EINVAL) :
    ∃ ifconfLen, step requests ⟨conf, .looping lastlen⟩ (.ioctl (.fails errno)) =
      some ⟨⟨some 0, ifconfLen, [none]⟩, .idle⟩ := by
  obtain ⟨cells, round, _⟩ := @Ifconf.round_fails requests conf lastlen owned fits errno
  rw [if_pos (Or.inl error)] at round
  exact ⟨sizeofIfreq * cells.length, by simp only [step, round]⟩

theorem not_usable_freed (ifconfLen : Nat) : ¬ Usable ⟨⟨some 0, ifconfLen, [none]⟩, .idle⟩ := by
  intro usable
  obtain ⟨cells, allocated, _⟩ := usable.buffer (by simp) 0 rfl
  cases allocated

theorem step_close (owned : conf.Owned) : ∃ next, step requests ⟨conf, .idle⟩ .close = some next ∧ Sound next := by
  cases owned with
  | empty => exact ⟨_, rfl, .closed (by decide) (by simp [openedIfconf])⟩
  | buffer cells growths grown small length => exact ⟨⟨⟨some 0, _, [none]⟩, .closed⟩, rfl, .closed (by simp) (by simp)⟩

/-- A step from a sound state leads to a sound one if it is tolerated, and to
one that is not usable otherwise. -/
theorem step_spec {state next : IfconfState} {event : IfconfEvent} (sound : Sound state)
    (run : step requests state event = some next) :
    (state.Tolerated event → Sound next) ∧ (next.Usable → state.Tolerated event) := by
  cases sound with
  | @idle conf owned =>
    have tolerated : Tolerated ⟨conf, .idle⟩ event := fun lastlen answer phase _ => by cases phase
    refine ⟨fun _ => ?_, fun _ => tolerated⟩
    cases event with
    | call socket =>
      cases socket with
      | error errno =>
        cases run
        exact .idle owned
      | ok done =>
        cases run
        exact .looping owned (Or.inl rfl)
    | ioctl answer => cases run
    | close =>
      obtain ⟨closed, stepped, sound⟩ := @step_close requests conf owned
      cases run.symm.trans stepped
      exact sound
  | @looping conf lastlen owned before =>
    cases event with
    | call socket => cases run
    | close => cases run
    | ioctl answer =>
      constructor
      · intro tolerated
        obtain ⟨fits, noError⟩ := tolerated lastlen answer rfl rfl
        obtain ⟨reached, stepped, sound⟩ := @step_ioctl requests conf lastlen owned before fits answer noError
        cases run.symm.trans stepped
        exact sound
      · intro usable lastlen' answer' phase same
        cases phase
        cases same
        by_cases fits : conf.nextLen lastlen < 2 ^ 31
        · refine ⟨fits, fun errno failed => ?_⟩
          by_contra error
          obtain ⟨ifconfLen, stepped⟩ := @step_error requests conf lastlen owned fits errno error
          rw [failed] at run
          cases run.symm.trans stepped
          exact not_usable_freed ifconfLen usable
        · have fault : step requests ⟨conf, .looping lastlen⟩ (.ioctl answer) = some ⟨conf, .fault⟩ := by
            simp only [step, Ifconf.round_overflow owned (Nat.le_of_not_lt fits)]
          cases run.symm.trans fault
          exact absurd rfl usable.noFault
  | closed one freed => cases run

/-- What cannot happen is tolerated. -/
theorem tolerated_of_none {state : IfconfState} {event : IfconfEvent} (sound : Sound state)
    (stuck : step requests state event = none) : state.Tolerated event := by
  intro lastlen answer phase same
  subst same
  cases sound with
  | idle owned => cases phase
  | closed one freed => cases phase
  | @looping conf lastlen' owned before =>
    simp only [step] at stuck
    split at stuck
    all_goals cases stuck

theorem usableThroughout_of_sound (events : List IfconfEvent) {state : IfconfState} (sound : Sound state) :
    state.UsableThroughout requests events ↔ state.ToleratedThroughout requests events := by
  induction events generalizing state with
  | nil => exact iff_of_true sound.usable trivial
  | cons event events ih =>
    rw [UsableThroughout, ToleratedThroughout, and_iff_right sound.usable]
    cases run : step requests state event with
    | none => exact iff_of_true (by simp) ⟨tolerated_of_none sound run, by simp⟩
    | some next =>
      obtain ⟨keeps, only⟩ := step_spec sound run
      simp only [Option.some.injEq, forall_eq']
      constructor
      · intro usable
        have here : next.Usable := by
          cases events with
          | nil => exact usable
          | cons event events => exact usable.1
        exact ⟨only here, (ih (keeps (only here))).mp usable⟩
      · rintro ⟨here, later⟩
        exact (ih (keeps here)).mpr later

end Step

/-- The buffer is owned throughout a run exactly if no `ioctl` in it fails with
an error other than `EINVAL`, and no length passes `INT_MAX`. -/
theorem usableThroughout_iff (requests : Nat → Ifreq) (events : List IfconfEvent) :
    opened.UsableThroughout requests events ↔ opened.ToleratedThroughout requests events :=
  usableThroughout_of_sound events (.idle .empty)

/-- `EFAULT` -/
def EFAULT : Int := 14

/-- A call fails, and the pointer to the block that it frees stays. -/
theorem not_usableThroughout_error :
    ¬ ∀ requests events, opened.UsableThroughout requests events := by
  intro claim
  have usable := claim noRequests [.call (.ok ()), .ioctl (.fails EFAULT)]
  obtain ⟨ifconfLen, failed⟩ := @step_error noRequests openedIfconf 0 .empty (by decide) EFAULT (by decide)
  exact not_usable_freed ifconfLen ((usable.2 ⟨openedIfconf, .looping 0⟩ rfl).2 _ failed)

end IfconfState

end Sysm
