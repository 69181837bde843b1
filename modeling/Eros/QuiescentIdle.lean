import Eros.ModeExclusion

/-!
# What the top machine leaves behind in IDLE

Each return of the top machine to IDLE looks at the machines of one kind.  The
others are at rest as long as `Start` is not withdrawn while the single machine
is still at work in a protected mode, and SINGLE_MODE is not left while a
protected machine is still on its way out.
-/

set_option autoImplicit false

namespace Eros

/-- Every machine below the top one is in its IDLE state. -/
structure Quiescent (fsm : SafeFsm) : Prop where
  single : fsm.ctrlSingle = .idle
  tmr : ∀ hart, fsm.ctrlTmr hart = .idle
  dmr : ∀ hart, fsm.ctrlDmr hart = .idle

/-- With the machines of a protected mode in IDLE, `Start` stays up until the
single machine has handed over. -/
def StartKept (fsm : SafeFsm) (inp : FsmIn) : Prop :=
  ((fsm.ctrlSafe = .tmrMode ∧ ∀ hart, fsm.ctrlTmr hart = .idle) ∨
      (fsm.ctrlSafe = .dmrMode ∧ ∀ hart, fsm.ctrlDmr hart = .idle)) →
    inp.start = false → fsm.ctrlSingle = .idle

/-- SINGLE_MODE is left, by withdrawing `Start` or by configuring a protected
mode, only once no protected machine is outside its IDLE state. -/
def LeavesSingleSettled (fsm : SafeFsm) (inp : FsmIn) : Prop :=
  fsm.ctrlSafe = .singleMode →
    (inp.start = false ∧ fsm.ctrlSingle = .idle) ∨
      (inp.start = true ∧ inp.safeConfiguration ≠ 0b00#2) →
    (∀ hart, fsm.ctrlTmr hart = .idle) ∧ ∀ hart, fsm.ctrlDmr hart = .idle

section Step
variable {fsm : SafeFsm} {inp : FsmIn} {hart : Hart}

theorem ctrlTmrNext_of_otherMode (idle : fsm.ctrlTmr hart = .idle)
    (mode : fsm.ctrlSafe ≠ .tmrMode) : fsm.ctrlTmrNext inp hart = .idle :=
  ctrlTmrNext_of_idle idle (by simp [SafeFsm.tmrStarts, mode])

theorem ctrlDmrNext_of_otherMode (idle : fsm.ctrlDmr hart = .idle)
    (mode : fsm.ctrlSafe ≠ .dmrMode) : fsm.ctrlDmrNext inp hart = .idle :=
  ctrlDmrNext_of_idle idle (by simp [SafeFsm.dmrStarts, mode])

theorem ctrlTmrNext_of_stopped (idle : fsm.ctrlTmr hart = .idle) (stopped : inp.start = false) :
    fsm.ctrlTmrNext inp hart = .idle :=
  ctrlTmrNext_of_idle idle (by simp [SafeFsm.tmrStarts, stopped])

theorem ctrlDmrNext_of_stopped (idle : fsm.ctrlDmr hart = .idle) (stopped : inp.start = false) :
    fsm.ctrlDmrNext inp hart = .idle :=
  ctrlDmrNext_of_idle idle (by simp [SafeFsm.dmrStarts, stopped])

theorem ctrlSingleNext_of_idle (idle : fsm.ctrlSingle = .idle)
    (rests : fsm.ctrlSafe ≠ .singleMode ∨ inp.start = false) :
    fsm.ctrlSingleNext inp = .idle := by
  rcases rests with mode | stopped
  · simp [SafeFsm.ctrlSingleNext, idle, mode]
  · simp [SafeFsm.ctrlSingleNext, idle, stopped]

end Step

/-! ## The invariant -/

/-- What is at rest in each state of the top machine. -/
def Rests (fsm : SafeFsm) : Prop :=
  match fsm.ctrlSafe with
  | .reset => fsm = .reset
  | .boot | .idle => Quiescent fsm
  | .singleMode => True
  | .tmrMode => ∀ hart, fsm.ctrlDmr hart = .idle
  | .dmrMode => ∀ hart, fsm.ctrlTmr hart = .idle

theorem Quiescent.next {fsm : SafeFsm} {inp : FsmIn} (quiescent : Quiescent fsm)
    (single : fsm.ctrlSafe ≠ .singleMode) (triple : fsm.ctrlSafe ≠ .tmrMode)
    (dual : fsm.ctrlSafe ≠ .dmrMode) : Quiescent (fsm.next inp) where
  single := ctrlSingleNext_of_idle quiescent.single (Or.inl single)
  tmr hart := ctrlTmrNext_of_otherMode (quiescent.tmr hart) triple
  dmr hart := ctrlDmrNext_of_otherMode (quiescent.dmr hart) dual

theorem Quiescent.next_of_stopped {fsm : SafeFsm} {inp : FsmIn} (quiescent : Quiescent fsm)
    (stopped : inp.start = false) : Quiescent (fsm.next inp) where
  single := ctrlSingleNext_of_idle quiescent.single (Or.inr stopped)
  tmr hart := ctrlTmrNext_of_stopped (quiescent.tmr hart) stopped
  dmr hart := ctrlDmrNext_of_stopped (quiescent.dmr hart) stopped

theorem Quiescent.rests {fsm : SafeFsm} (quiescent : Quiescent fsm)
    (released : fsm.ctrlSafe ≠ .reset) : Rests fsm := by
  unfold Rests
  cases mode : fsm.ctrlSafe with
  | reset => exact absurd mode released
  | boot | idle => exact quiescent
  | singleMode => trivial
  | tmrMode => exact quiescent.dmr
  | dmrMode => exact quiescent.tmr

theorem ctrlSafeNext_ne_reset (fsm : SafeFsm) (inp : FsmIn) : fsm.ctrlSafeNext inp ≠ .reset := by
  cases mode : fsm.ctrlSafe with
  | reset => simp [SafeFsm.ctrlSafeNext, mode]
  | boot | idle | singleMode | tmrMode | dmrMode =>
    simp only [SafeFsm.ctrlSafeNext, mode]
    split_ifs <;> simp

theorem Rests.next {fsm : SafeFsm} {inp : FsmIn} (rests : Rests fsm)
    (kept : StartKept fsm inp) (settled : LeavesSingleSettled fsm inp) :
    Rests (fsm.next inp) := by
  have released : (fsm.next inp).ctrlSafe ≠ .reset := ctrlSafeNext_ne_reset fsm inp
  cases mode : fsm.ctrlSafe with
  | reset =>
    have start : fsm = .reset := by simpa [Rests, mode] using rests
    subst start
    exact Quiescent.rests ⟨rfl, fun _ => rfl, fun _ => rfl⟩ released
  | boot | idle =>
    have quiescent : Quiescent fsm := by simpa [Rests, mode] using rests
    exact (quiescent.next (by simp [mode]) (by simp [mode]) (by simp [mode])).rests released
  | singleMode =>
    rcases ctrlSafeNext_of_singleMode inp mode with ⟨_, stopped, single⟩ | ⟨started, other, left⟩ | stays
    · obtain ⟨tmr, dmr⟩ := settled mode (Or.inl ⟨stopped, single⟩)
      exact (Quiescent.next_of_stopped ⟨single, tmr, dmr⟩ stopped).rests released
    · obtain ⟨tmr, dmr⟩ := settled mode (Or.inr ⟨started, other⟩)
      have tmrIdle : ∀ hart, (fsm.next inp).ctrlTmr hart = .idle :=
        fun hart => ctrlTmrNext_of_otherMode (tmr hart) (by simp [mode])
      have dmrIdle : ∀ hart, (fsm.next inp).ctrlDmr hart = .idle :=
        fun hart => ctrlDmrNext_of_otherMode (dmr hart) (by simp [mode])
      rcases left with triple | dual
      · simpa [Rests, SafeFsm.next, triple] using dmrIdle
      · simpa [Rests, SafeFsm.next, dual] using tmrIdle
    · simp [Rests, SafeFsm.next, stays]
  | tmrMode =>
    have dmr : ∀ hart, fsm.ctrlDmr hart = .idle := by simpa [Rests, mode] using rests
    have dmrIdle : ∀ hart, (fsm.next inp).ctrlDmr hart = .idle :=
      fun hart => ctrlDmrNext_of_otherMode (dmr hart) (by simp [mode])
    rcases ctrlSafeNext_of_tmrMode inp mode with ⟨_, stopped, tmr⟩ | ⟨left, _⟩ | stays
    · have single := kept (Or.inl ⟨mode, tmr⟩) stopped
      exact (Quiescent.next_of_stopped ⟨single, tmr, dmr⟩ stopped).rests released
    · simp [Rests, SafeFsm.next, left]
    · simpa [Rests, SafeFsm.next, stays] using dmrIdle
  | dmrMode =>
    have tmr : ∀ hart, fsm.ctrlTmr hart = .idle := by simpa [Rests, mode] using rests
    have tmrIdle : ∀ hart, (fsm.next inp).ctrlTmr hart = .idle :=
      fun hart => ctrlTmrNext_of_otherMode (tmr hart) (by simp [mode])
    rcases ctrlSafeNext_of_dmrMode inp mode with ⟨_, stopped, dmr⟩ | ⟨left, _⟩ | stays
    · have single := kept (Or.inr ⟨mode, dmr⟩) stopped
      exact (Quiescent.next_of_stopped ⟨single, tmr, dmr⟩ stopped).rests released
    · simp [Rests, SafeFsm.next, left]
    · simpa [Rests, SafeFsm.next, stays] using tmrIdle

/-- In every run from reset in which `Start` is kept and SINGLE_MODE is left
settled, the top machine in IDLE finds every other machine in IDLE. -/
theorem idle_quiescent_when_start_kept (inputs : Nat → FsmIn)
    (kept : ∀ cycle, StartKept (safeFsm.run inputs cycle) (inputs cycle))
    (settled : ∀ cycle, LeavesSingleSettled (safeFsm.run inputs cycle) (inputs cycle))
    (cycle : Nat) (idle : (safeFsm.run inputs cycle).ctrlSafe = .idle) :
    Quiescent (safeFsm.run inputs cycle) := by
  have rests : Rests (safeFsm.run inputs cycle) := by
    clear idle
    induction cycle with
    | zero => rfl
    | succ cycle ih => exact ih.next (kept cycle) (settled cycle)
  simpa [Rests, idle] using rests

/-! ## `Start` withdrawn during the switch out of single mode -/

/-- Power-on in single mode, hart 0 acknowledging in cycle 4; from cycle 6 on
the configuration is `configuration` and from cycle 8 on `Start` is 0. -/
def soloStopped (configuration : BitVec 2) : Nat → FsmIn
  | 0 | 2 | 3 | 5 => trioIn 0b00#2
  | 1 => { trioIn 0b00#2 with hartWfi := fun _ => true }
  | 4 => { trioIn 0b00#2 with haltAck := oneHot 0 }
  | 6 | 7 => trioIn configuration
  | _ => { trioIn configuration with start := false }

set_option maxRecDepth 8000 in
theorem soloStopped_idle (later : Nat) :
    (safeFsm.run (soloStopped 0b00#2) (later + 11)).ctrlSafe = .idle := by
  induction later with
  | zero => decide
  | succ later ih =>
    rw [Nat.add_right_comm, Synchronous.Machine.run_succ]
    generalize safeFsm.run (soloStopped 0b00#2) (later + 11) = fsm at ih ⊢
    simp [safeFsm, SafeFsm.next, SafeFsm.ctrlSafeNext, ih, soloStopped, trioIn]

set_option maxRecDepth 8000 in
/-- Stopped from outside in single mode, every machine is at rest in IDLE. -/
theorem soloStopped_quiescent : Quiescent (safeFsm.run (soloStopped 0b00#2) 11) := by
  refine idle_quiescent_when_start_kept (soloStopped 0b00#2) ?_ ?_ 11 (soloStopped_idle 0)
  · intro cycle
    match cycle with
    | 0 | 1 | 2 | 3 | 4 | 5 | 6 | 7 => exact fun _ stopped => by simp [soloStopped, trioIn] at stopped
    | 8 | 9 | 10 =>
      rintro (⟨mode, _⟩ | ⟨mode, _⟩) _
      · exact absurd mode (by decide)
      · exact absurd mode (by decide)
    | later + 11 =>
      rintro (⟨mode, _⟩ | ⟨mode, _⟩) _ <;> simp [soloStopped_idle later] at mode
  · intro cycle
    match cycle with
    | 0 | 1 | 2 | 3 | 4 | 5 | 6 | 7 =>
      rintro _ (⟨stopped, _⟩ | ⟨_, other⟩)
      · simp [soloStopped, trioIn] at stopped
      · simp [soloStopped, trioIn] at other
    | 8 | 9 =>
      rintro _ (⟨_, single⟩ | ⟨_, other⟩)
      · exact absurd single (by decide)
      · simp [soloStopped, trioIn] at other
    | 10 =>
      intro _ _
      constructor
      · intro hart
        fin_cases hart <;> rfl
      · intro hart
        fin_cases hart <;> rfl
    | later + 11 =>
      intro mode
      simp [soloStopped_idle later] at mode

set_option maxRecDepth 8000 in
/-- `Start` withdrawn while the single machine hands over to triple redundancy:
it is still in SINGLE_TO_TMR when the top machine is back in IDLE. -/
theorem idle_with_switch_pending :
    ¬∀ (inputs : Nat → FsmIn) (cycle : Nat), (safeFsm.run inputs cycle).ctrlSafe = .idle →
      Quiescent (safeFsm.run inputs cycle) := by
  intro claimed
  have quiescent := claimed (soloStopped 0b01#2) 9 (by decide)
  exact absurd quiescent.single (by decide)

end Eros
