import Eros.ModeExclusion

/-!
# Recovery of a whole group

The machines of a protected mode answer a shared error each from its own state.
An error reaches all of them when they are all in their SYNC state, and after
that they move on shared conditions, except for the halt acknowledges of a dual
recovery, which each hart gives and withdraws on its own.
-/

set_option autoImplicit false

namespace Eros

/-- The states of the software recovery of triple redundancy. -/
def CtrlTmrFsm.recovers : CtrlTmrFsm → Bool
  | .syncIntc | .swSync => true
  | _ => false

/-- A dual recovery before the hart has acknowledged its halt. -/
def CtrlDmrFsm.stopped : CtrlDmrFsm → Bool
  | .stop | .intcRecovery => true
  | _ => false

def CtrlDmrFsm.recovers : CtrlDmrFsm → Bool
  | .stop | .intcRecovery | .recovery => true
  | _ => false

/-- One machine in recovery means the group in recovery. -/
structure RecoveryGrouped (fsm : SafeFsm) (inp : FsmIn) : Prop where
  tmr : ∀ hart other, (fsm.ctrlTmr hart).recovers = true → (fsm.ctrlTmr other).recovers = true
  dmr : ∀ hart other, inp.dmrMask hart = true → inp.dmrMask other = true →
    (fsm.ctrlDmr hart).stopped = true → (fsm.ctrlDmr other).recovers = true

/-- The TMR machine of `hart` takes the error of this cycle. -/
def TmrTakesError (fsm : SafeFsm) (inp : FsmIn) (hart : Hart) : Prop :=
  fsm.ctrlTmr hart = .sync ∧ SafeFsm.tmrEnds inp = false ∧ fsm.tmrErrorS inp = true

def DmrTakesError (fsm : SafeFsm) (inp : FsmIn) (hart : Hart) : Prop :=
  fsm.ctrlDmr hart = .sync ∧ inp.hartWfi.all = false ∧ SafeFsm.dmrErrorS inp = true

instance (fsm : SafeFsm) (inp : FsmIn) (hart : Hart) : Decidable (TmrTakesError fsm inp hart) :=
  inferInstanceAs (Decidable (_ ∧ _ ∧ _))

instance (fsm : SafeFsm) (inp : FsmIn) (hart : Hart) : Decidable (DmrTakesError fsm inp hart) :=
  inferInstanceAs (Decidable (_ ∧ _ ∧ _))

/-- An error is taken by the whole group, and no hart of a pair leaves its
recovery while the other still waits for its halt. -/
structure RecoveryShared (fsm : SafeFsm) (inp : FsmIn) : Prop where
  tmr : ∀ hart other, TmrTakesError fsm inp hart → fsm.ctrlTmr other = .sync
  dmr : ∀ hart other, inp.dmrMask hart = true → inp.dmrMask other = true →
    DmrTakesError fsm inp hart →
    fsm.ctrlDmr other = .sync ∨ (fsm.ctrlDmr other).stopped = true ∨
      (fsm.ctrlDmr other = .recovery ∧ inp.haltAck other = true)
  returns : ∀ hart other, inp.dmrMask hart = true → inp.dmrMask other = true →
    fsm.ctrlDmr hart = .stop ∨ (fsm.ctrlDmr hart = .intcRecovery ∧ inp.haltAck hart = false) →
    fsm.ctrlDmr other = .recovery → inp.haltAck other = true

/-- The mask stays while a DMR machine is outside RESET and IDLE. -/
def MaskFixed (inputs : Nat → FsmIn) : Prop :=
  ∀ cycle hart, (safeFsm.run inputs (cycle + 1)).ctrlDmr hart ≠ .reset →
    (safeFsm.run inputs (cycle + 1)).ctrlDmr hart ≠ .idle →
    (inputs (cycle + 1)).dmrMask = (inputs cycle).dmrMask

section Tmr
variable {fsm : SafeFsm} {inp : FsmIn} {hart : Hart}

theorem ctrlTmrNext_syncIntc (after : fsm.ctrlTmrNext inp hart = .syncIntc) :
    TmrTakesError fsm inp hart ∨
      (fsm.ctrlTmr hart = .syncIntc ∧ inp.hartIntcAck.all = false) := by
  cases state : fsm.ctrlTmr hart with
  | reset | toSingle => simp [SafeFsm.ctrlTmrNext, state] at after
  | sync =>
    refine Or.inl ⟨state, ?_⟩
    simp only [SafeFsm.ctrlTmrNext, state] at after
    split_ifs at after with ends leaves error
    refine ⟨?_, error⟩
    cases asleep : inp.hartWfi.all <;> simp_all [SafeFsm.tmrEnds]
  | syncIntc =>
    simp only [SafeFsm.ctrlTmrNext, state] at after
    split_ifs at after with acked
    exact Or.inr ⟨rfl, by simpa using acked⟩
  | idle | start | boot | shHalt | waitSh | msIntrSync | endSync | swSync =>
    simp only [SafeFsm.ctrlTmrNext, state] at after
    split_ifs at after

theorem ctrlTmrNext_swSync (after : fsm.ctrlTmrNext inp hart = .swSync) :
    (fsm.ctrlTmr hart = .syncIntc ∧ inp.hartIntcAck.all = true) ∨
      (fsm.ctrlTmr hart = .swSync ∧ inp.hartIntcAck.none = false) := by
  cases state : fsm.ctrlTmr hart with
  | reset | toSingle => simp [SafeFsm.ctrlTmrNext, state] at after
  | syncIntc =>
    simp only [SafeFsm.ctrlTmrNext, state] at after
    split_ifs at after with acked
    exact Or.inl ⟨rfl, acked⟩
  | swSync =>
    simp only [SafeFsm.ctrlTmrNext, state] at after
    split_ifs at after with released
    exact Or.inr ⟨rfl, by simpa using released⟩
  | idle | start | boot | shHalt | waitSh | msIntrSync | endSync | sync =>
    simp only [SafeFsm.ctrlTmrNext, state] at after
    split_ifs at after

theorem TmrTakesError.next (takes : TmrTakesError fsm inp hart) :
    fsm.ctrlTmrNext inp hart = .syncIntc := by
  obtain ⟨sync, running, error⟩ := takes
  cases asleep : inp.hartWfi.all <;> cases ended : inp.endSwRoutine <;>
    simp_all [SafeFsm.ctrlTmrNext, SafeFsm.tmrEnds]

end Tmr

section Dmr
variable {fsm : SafeFsm} {inp : FsmIn} {hart : Hart}

theorem DmrTakesError.next (takes : DmrTakesError fsm inp hart) :
    fsm.ctrlDmrNext inp hart = .stop := by
  obtain ⟨sync, awake, error⟩ := takes
  simp [SafeFsm.ctrlDmrNext, sync, awake, error]

theorem ctrlDmrNext_recovers :
    (fsm.ctrlDmrNext inp hart).recovers = true ↔
      DmrTakesError fsm inp hart ∨ (fsm.ctrlDmr hart).stopped = true ∨
        (fsm.ctrlDmr hart = .recovery ∧ inp.haltAck hart = true) := by
  cases state : fsm.ctrlDmr hart with
  | reset | toSingle =>
    simp [SafeFsm.ctrlDmrNext, state, DmrTakesError, CtrlDmrFsm.recovers, CtrlDmrFsm.stopped]
  | sync =>
    cases asleep : inp.hartWfi.all <;> cases ended : inp.endSwRoutine <;>
      cases error : SafeFsm.dmrErrorS inp <;>
        simp [SafeFsm.ctrlDmrNext, state, DmrTakesError, CtrlDmrFsm.recovers, CtrlDmrFsm.stopped,
          asleep, ended, error, dmr_configuration_test]
  | recovery =>
    cases acked : inp.haltAck hart <;>
      simp [SafeFsm.ctrlDmrNext, state, DmrTakesError, CtrlDmrFsm.recovers, CtrlDmrFsm.stopped,
        acked]
  | idle | start | boot | shHalt | waitSh | msIntrSync | endSync | stop | intcRecovery =>
    simp only [SafeFsm.ctrlDmrNext, state, DmrTakesError, CtrlDmrFsm.stopped]
    split_ifs <;> simp [CtrlDmrFsm.recovers]

theorem ctrlDmrNext_stopped :
    (fsm.ctrlDmrNext inp hart).stopped = true ↔
      DmrTakesError fsm inp hart ∨ fsm.ctrlDmr hart = .stop ∨
        (fsm.ctrlDmr hart = .intcRecovery ∧ inp.haltAck hart = false) := by
  cases state : fsm.ctrlDmr hart with
  | reset | toSingle =>
    simp [SafeFsm.ctrlDmrNext, state, DmrTakesError, CtrlDmrFsm.stopped]
  | sync =>
    cases asleep : inp.hartWfi.all <;> cases ended : inp.endSwRoutine <;>
      cases error : SafeFsm.dmrErrorS inp <;>
        simp [SafeFsm.ctrlDmrNext, state, DmrTakesError, CtrlDmrFsm.stopped, asleep, ended, error,
          dmr_configuration_test]
  | intcRecovery =>
    cases acked : inp.haltAck hart <;>
      simp [SafeFsm.ctrlDmrNext, state, DmrTakesError, CtrlDmrFsm.stopped, acked]
  | idle | start | boot | shHalt | waitSh | msIntrSync | endSync | stop | recovery =>
    simp only [SafeFsm.ctrlDmrNext, state, DmrTakesError]
    split_ifs <;> simp [CtrlDmrFsm.stopped]

theorem recovers_iff {state : CtrlDmrFsm} :
    state.recovers = true ↔ state.stopped = true ∨ state = .recovery := by
  cases state <;> simp [CtrlDmrFsm.stopped, CtrlDmrFsm.recovers]

end Dmr

/-! ## One step -/

/-- The three TMR machines of a group in recovery are in the same state. -/
def TmrInStep (fsm : SafeFsm) : Prop :=
  ∀ hart other, (fsm.ctrlTmr hart).recovers = true → fsm.ctrlTmr other = fsm.ctrlTmr hart

theorem tmrInStep_next {fsm : SafeFsm} {inp : FsmIn} (inStep : TmrInStep fsm)
    (shared : ∀ hart other, TmrTakesError fsm inp hart → fsm.ctrlTmr other = .sync) :
    TmrInStep (fsm.next inp) := by
  intro hart other recovers
  change fsm.ctrlTmrNext inp other = fsm.ctrlTmrNext inp hart
  change (fsm.ctrlTmrNext inp hart).recovers = true at recovers
  -- the condition of each step in recovery is the same for the three machines
  have together : (fsm.ctrlTmr hart).recovers = true →
      fsm.ctrlTmrNext inp other = fsm.ctrlTmrNext inp hart := by
    intro before
    have same := inStep hart other before
    cases state : fsm.ctrlTmr hart <;> simp_all [CtrlTmrFsm.recovers, SafeFsm.ctrlTmrNext]
  cases after : fsm.ctrlTmrNext inp hart with
  | syncIntc =>
    rcases ctrlTmrNext_syncIntc after with takes | ⟨before, _⟩
    · have otherTakes : TmrTakesError fsm inp other := ⟨shared hart other takes, takes.2⟩
      exact otherTakes.next
    · rw [together (by simp [before, CtrlTmrFsm.recovers]), after]
  | swSync =>
    rcases ctrlTmrNext_swSync after with ⟨before, _⟩ | ⟨before, _⟩
    · rw [together (by simp [before, CtrlTmrFsm.recovers]), after]
    · rw [together (by simp [before, CtrlTmrFsm.recovers]), after]
  | reset | idle | start | boot | shHalt | waitSh | msIntrSync | sync | endSync | toSingle =>
    simp [after, CtrlTmrFsm.recovers] at recovers

/-- The two halves of the pair, under the mask of the cycle. -/
def DmrGrouped (fsm : SafeFsm) (mask : HartWires) : Prop :=
  ∀ hart other, mask hart = true → mask other = true →
    (fsm.ctrlDmr hart).stopped = true → (fsm.ctrlDmr other).recovers = true

theorem dmrGrouped_next {fsm : SafeFsm} {inp : FsmIn} (grouped : DmrGrouped fsm inp.dmrMask)
    (shared : RecoveryShared fsm inp) : DmrGrouped (fsm.next inp) inp.dmrMask := by
  intro hart other masked otherMasked stopped
  have before := ctrlDmrNext_stopped.mp stopped
  refine ctrlDmrNext_recovers.mpr ?_
  rcases before with takes | waits
  · rcases shared.dmr hart other masked otherMasked takes with sync | recovers
    · exact Or.inl ⟨sync, takes.2⟩
    · exact Or.inr recovers
  · have hartStopped : (fsm.ctrlDmr hart).stopped = true := by
      rcases waits with stop | ⟨waiting, _⟩
      · simp [stop, CtrlDmrFsm.stopped]
      · simp [waiting, CtrlDmrFsm.stopped]
    rcases recovers_iff.mp (grouped hart other masked otherMasked hartStopped) with
      otherStopped | recovery
    · exact Or.inr (Or.inl otherStopped)
    · exact Or.inr (Or.inr ⟨recovery, shared.returns hart other masked otherMasked waits recovery⟩)

/-! ## Runs -/

theorem tmrInStep_run (inputs : Nat → FsmIn)
    (shared : ∀ cycle, RecoveryShared (safeFsm.run inputs cycle) (inputs cycle)) (cycle : Nat) :
    TmrInStep (safeFsm.run inputs cycle) := by
  induction cycle with
  | zero =>
    intro hart other recovers
    rfl
  | succ cycle ih => exact tmrInStep_next ih (shared cycle).tmr

theorem dmrGrouped_run (inputs : Nat → FsmIn) (fixed : MaskFixed inputs)
    (shared : ∀ cycle, RecoveryShared (safeFsm.run inputs cycle) (inputs cycle)) (cycle : Nat) :
    DmrGrouped (safeFsm.run inputs cycle) (inputs cycle).dmrMask := by
  induction cycle with
  | zero =>
    intro hart other _ _ stopped
    simp [safeFsm, SafeFsm.reset, CtrlDmrFsm.stopped] at stopped
  | succ cycle ih =>
    intro hart other masked otherMasked stopped
    have mask : (inputs (cycle + 1)).dmrMask = (inputs cycle).dmrMask := by
      apply fixed cycle hart
      · intro state
        simp [state, CtrlDmrFsm.stopped] at stopped
      · intro state
        simp [state, CtrlDmrFsm.stopped] at stopped
    rw [mask] at masked otherMasked
    exact dmrGrouped_next ih (shared cycle) hart other masked otherMasked stopped

/-- In every run from reset with the mask fixed, recovery is a group action if
and only if every error is taken, and every recovery left, by the whole group. -/
theorem recovery_grouped_iff (inputs : Nat → FsmIn) (fixed : MaskFixed inputs) :
    (∀ cycle, RecoveryGrouped (safeFsm.run inputs cycle) (inputs cycle)) ↔
      ∀ cycle, RecoveryShared (safeFsm.run inputs cycle) (inputs cycle) := by
  constructor
  · intro grouped cycle
    have nextGrouped := grouped (cycle + 1)
    -- a machine in recovery after the step keeps the mask
    have keeps : ∀ hart, ((safeFsm.run inputs cycle).ctrlDmrNext (inputs cycle) hart).stopped =
        true → (inputs (cycle + 1)).dmrMask = (inputs cycle).dmrMask := by
      intro hart stopped
      apply fixed cycle hart
      · intro state
        change (safeFsm.run inputs cycle).ctrlDmrNext (inputs cycle) hart = .reset at state
        simp [state, CtrlDmrFsm.stopped] at stopped
      · intro state
        change (safeFsm.run inputs cycle).ctrlDmrNext (inputs cycle) hart = .idle at state
        simp [state, CtrlDmrFsm.stopped] at stopped
    have follows : ∀ hart other, (inputs cycle).dmrMask hart = true →
        (inputs cycle).dmrMask other = true →
        ((safeFsm.run inputs cycle).ctrlDmrNext (inputs cycle) hart).stopped = true →
        ((safeFsm.run inputs cycle).ctrlDmrNext (inputs cycle) other).recovers = true := by
      intro hart other masked otherMasked stopped
      have mask := keeps hart stopped
      exact nextGrouped.dmr hart other (by rw [mask]; exact masked)
        (by rw [mask]; exact otherMasked) stopped
    constructor
    · intro hart other takes
      have recovers : ((safeFsm.run inputs cycle).ctrlTmrNext (inputs cycle) other).recovers =
          true := by
        apply nextGrouped.tmr hart other
        change ((safeFsm.run inputs cycle).ctrlTmrNext (inputs cycle) hart).recovers = true
        simp [takes.next, CtrlTmrFsm.recovers]
      -- the other machine was not in recovery, or this one would have been
      have fresh : ((safeFsm.run inputs cycle).ctrlTmr other).recovers = false := by
        rw [← Bool.not_eq_true]
        intro before
        have both := (grouped cycle).tmr other hart before
        simp [takes.1, CtrlTmrFsm.recovers] at both
      cases after : (safeFsm.run inputs cycle).ctrlTmrNext (inputs cycle) other with
      | syncIntc =>
        rcases ctrlTmrNext_syncIntc after with otherTakes | ⟨before, _⟩
        · exact otherTakes.1
        · simp [before, CtrlTmrFsm.recovers] at fresh
      | swSync =>
        rcases ctrlTmrNext_swSync after with ⟨before, _⟩ | ⟨before, _⟩
        · simp [before, CtrlTmrFsm.recovers] at fresh
        · simp [before, CtrlTmrFsm.recovers] at fresh
      | reset | idle | start | boot | shHalt | waitSh | msIntrSync | sync | endSync | toSingle =>
        simp [after, CtrlTmrFsm.recovers] at recovers
    · intro hart other masked otherMasked takes
      have stopped := ctrlDmrNext_stopped.mpr (Or.inl takes)
      rcases ctrlDmrNext_recovers.mp (follows hart other masked otherMasked stopped) with
        otherTakes | before
      · exact Or.inl otherTakes.1
      · exact Or.inr before
    · intro hart other masked otherMasked waits recovery
      have stopped := ctrlDmrNext_stopped.mpr (Or.inr waits)
      rcases ctrlDmrNext_recovers.mp (follows hart other masked otherMasked stopped) with
        otherTakes | otherStopped | ⟨_, acked⟩
      · have sync := otherTakes.1
        simp [recovery] at sync
      · simp [recovery, CtrlDmrFsm.stopped] at otherStopped
      · exact acked
  · intro shared cycle
    constructor
    · intro hart other recovers
      rw [tmrInStep_run inputs shared cycle hart other recovers]
      exact recovers
    · exact dmrGrouped_run inputs fixed shared cycle

/-! ## A pair that recovers, and a hart that is late -/

/-- A running pair stops on an error in cycle 6, sleeps, acknowledges its halt
together in cycle 8 and runs again from cycle 10. -/
def pairRecovers : Nat → FsmIn
  | 0 | 2 | 3 | 5 => pairIn 0b10#2
  | 1 | 7 => { pairIn 0b10#2 with hartWfi := fun _ => true }
  | 4 | 8 => { pairIn 0b10#2 with haltAck := fun hart => decide (hart ≠ 2) }
  | 6 => { pairIn 0b10#2 with dmrError := fun _ => true }
  | _ => pairIn 0b10#2

set_option maxRecDepth 8000 in
theorem pairRecovers_sync (later : Nat) :
    let fsm := safeFsm.run pairRecovers (later + 10)
    fsm.ctrlSafe = .dmrMode ∧ fsm.ctrlTmr = (fun _ => .idle) ∧
      fsm.ctrlDmr = fun hart => if hart = 2 then .idle else .sync := by
  induction later with
  | zero =>
    refine ⟨by decide, ?_, ?_⟩
    · funext hart
      fin_cases hart <;> rfl
    · funext hart
      fin_cases hart <;> rfl
  | succ later ih =>
    intro fsm
    have step : fsm = (safeFsm.run pairRecovers (later + 10)).next (pairIn 0b10#2) := rfl
    generalize safeFsm.run pairRecovers (later + 10) = before at ih step
    obtain ⟨top, tmr, dmr⟩ := ih
    rw [step]
    refine ⟨?_, ?_, ?_⟩
    · simp [SafeFsm.next, SafeFsm.ctrlSafeNext, top, dmr, pairIn, HartWires.all, HartWires.any,
        SafeFsm.switchDmrToSingle, SafeFsm.dmr, dmrOut, DmrOut.default]
    · funext hart
      simp [SafeFsm.next, SafeFsm.ctrlTmrNext, top, tmr]
    · funext hart
      fin_cases hart <;>
        simp [SafeFsm.next, SafeFsm.ctrlDmrNext, top, dmr, pairIn, HartWires.all, SafeFsm.dmrErrorS]

set_option maxRecDepth 8000 in
theorem pairRecovers_grouped :
    (safeFsm.run pairRecovers 7).ctrlDmr 0 = .stop ∧
      ∀ cycle, RecoveryGrouped (safeFsm.run pairRecovers cycle) (pairRecovers cycle) := by
  have fixed : MaskFixed pairRecovers := by
    intro cycle _ _ _
    have mask : ∀ index, (pairRecovers index).dmrMask = (pairIn 0b10#2).dmrMask := by
      intro index
      unfold pairRecovers
      split <;> rfl
    rw [mask, mask]
  refine ⟨by decide, (recovery_grouped_iff pairRecovers fixed).mpr ?_⟩
  intro cycle
  match cycle with
  | 0 | 1 | 2 | 3 | 4 | 5 | 6 | 7 | 8 | 9 =>
    exact ⟨by decide, by decide, by decide⟩
  | later + 10 =>
    obtain ⟨_, tmr, dmr⟩ := pairRecovers_sync later
    have quiet : SafeFsm.dmrErrorS (pairRecovers (later + 10)) = false := rfl
    constructor
    · rintro hart other ⟨sync, _⟩
      simp [tmr] at sync
    · rintro hart other _ _ ⟨_, _, error⟩
      simp [quiet] at error
    · intro hart other _ _ _ recovery
      fin_cases other <;> simp [dmr] at recovery

/-- Three harts enter triple redundancy, hart 1 still halted when the other two
run, and the voter reports an error in that cycle. -/
def lateHart : Nat → FsmIn
  | 1 => { trioIn 0b01#2 with hartWfi := fun _ => true }
  | 4 => { trioIn 0b01#2 with haltAck := fun _ => true }
  | 5 => { trioIn 0b01#2 with haltAck := oneHot 1 }
  | 6 => { trioIn 0b01#2 with haltAck := oneHot 1, tmrError := true }
  | _ => trioIn 0b01#2

set_option maxRecDepth 8000 in
theorem late_hart_misses_recovery :
    ¬∀ inputs : Nat → FsmIn, (∀ cycle, ∃ master, (inputs cycle).masterCore = oneHot master) →
      MaskFixed inputs →
      ∀ cycle, RecoveryGrouped (safeFsm.run inputs cycle) (inputs cycle) := by
  intro claimed
  have oneMaster : ∀ cycle, ∃ master, (lateHart cycle).masterCore = oneHot master := by
    intro cycle
    refine ⟨0, ?_⟩
    unfold lateHart
    split <;> rfl
  have fixed : MaskFixed lateHart := by
    intro cycle _ _ _
    have mask : ∀ index, (lateHart index).dmrMask = fun _ => false := by
      intro index
      unfold lateHart
      split <;> rfl
    rw [mask, mask]
  have grouped := (claimed lateHart oneMaster fixed 7).tmr 0 1
  exact absurd (grouped (by decide)) (by decide)

end Eros
