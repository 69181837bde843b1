import Eros.FsmPhases
import Eros.ModeExclusion

/-!
# Stopping single mode from outside

Withdrawing `Start` in SINGLE_RUN takes the single machine to SINGLE_SYNC_OFF,
which waits for `Hart_wfi_i == 3'b000`.  The stop by software waits for
`3'b111`.  Of the two, only the second can come about in single mode, where the
two harts that are not the master sleep.
-/

set_option autoImplicit false

namespace Eros

theorem HartWires.none_eq_false_of {wires : HartWires} (hart : Hart)
    (high : wires hart = true) : wires.none = false := by
  have some : wires.any = true := (HartWires.any_eq_true_iff wires).mpr ⟨hart, high⟩
  simp [HartWires.none, some]

/-- Single mode stopped from outside in cycle `stop`: the other harts sleep, and
from cycle `asleep` on the master sleeps too. -/
structure StoppedOutside (inputs : Nat → FsmIn) (master : Hart) (stop asleep : Nat) : Prop where
  after : stop + 1 ≤ asleep
  masterCore : ∀ cycle, (inputs cycle).masterCore = oneHot master
  othersSleep : ∀ cycle, stop ≤ cycle → ∀ hart, hart ≠ master → (inputs cycle).hartWfi hart = true
  masterSleeps : ∀ cycle, asleep ≤ cycle → (inputs cycle).hartWfi master = true
  start : ∀ cycle, stop ≤ cycle → (inputs cycle).start = false
  endSwRoutine : ∀ cycle, stop ≤ cycle → (inputs cycle).endSwRoutine = false
  haltAck : ∀ cycle, stop ≤ cycle → (inputs cycle).haltAck = fun _ => false
  safeConfiguration : ∀ cycle, stop ≤ cycle → (inputs cycle).safeConfiguration = 0b00#2

section Step
variable {fsm : SafeFsm} {inp : FsmIn}

theorem ctrlSingleNext_of_stop (running : fsm.ctrlSingle = .run) (stopped : inp.start = false)
    (released : inp.haltAck = fun _ => false) (unfinished : inp.endSwRoutine = false) :
    fsm.ctrlSingleNext inp = .syncOff := by
  simp [SafeFsm.ctrlSingleNext, running, stopped, released, unfinished, HartWires.none,
    HartWires.any]

theorem ctrlSingleNext_of_syncOff (waiting : fsm.ctrlSingle = .syncOff) (hart : Hart)
    (sleeps : inp.hartWfi hart = true) : fsm.ctrlSingleNext inp = .syncOff := by
  simp [SafeFsm.ctrlSingleNext, waiting, HartWires.none_eq_false_of hart sleeps]

theorem ctrlSafeNext_of_stop (mode : fsm.ctrlSafe = .singleMode) (busy : fsm.ctrlSingle ≠ .idle)
    (stopped : inp.start = false) : fsm.ctrlSafeNext inp = .singleMode := by
  simp [SafeFsm.ctrlSafeNext, mode, busy, stopped]

end Step

/-- From the cycle after the stop on, the single machine waits for the sleeping
harts to wake and the top machine waits for the single machine. -/
theorem stopped_outside_waits {inputs : Nat → FsmIn} {master : Hart} {stop asleep : Nat}
    (mode : (safeFsm.run inputs stop).ctrlSafe = .singleMode)
    (running : (safeFsm.run inputs stop).ctrlSingle = .run)
    (stopped : StoppedOutside inputs master stop asleep) (later : Nat) :
    (safeFsm.run inputs (stop + 1 + later)).ctrlSafe = .singleMode ∧
      (safeFsm.run inputs (stop + 1 + later)).ctrlSingle = .syncOff := by
  induction later with
  | zero =>
    have quiet := stopped.start stop le_rfl
    have busy : (safeFsm.run inputs stop).ctrlSingle ≠ .idle := by
      rw [running]
      decide
    constructor
    · exact ctrlSafeNext_of_stop mode busy quiet
    · exact ctrlSingleNext_of_stop running quiet (stopped.haltAck stop le_rfl)
        (stopped.endSwRoutine stop le_rfl)
  | succ later ih =>
    obtain ⟨top, single⟩ := ih
    obtain ⟨other, distinct⟩ := exists_ne master
    have past : stop ≤ stop + 1 + later := by omega
    have busy : (safeFsm.run inputs (stop + 1 + later)).ctrlSingle ≠ .idle := by
      rw [single]
      decide
    constructor
    · exact ctrlSafeNext_of_stop top busy (stopped.start _ past)
    · exact ctrlSingleNext_of_syncOff single other (stopped.othersSleep _ past other distinct)

/-- Stopped from outside, the controller does not come back: in no run do the
single and the top machine reach their IDLE states for good, in fact they stay
in SINGLE_SYNC_OFF and SINGLE_MODE. -/
theorem external_stop_never_returns (inputs : Nat → FsmIn) (master : Hart) (stop asleep : Nat)
    (mode : (safeFsm.run inputs stop).ctrlSafe = .singleMode)
    (running : (safeFsm.run inputs stop).ctrlSingle = .run)
    (stopped : StoppedOutside inputs master stop asleep) :
    (¬∀ cycle, asleep + 3 ≤ cycle → (safeFsm.run inputs cycle).ctrlSingle = .idle ∧
        (safeFsm.run inputs cycle).ctrlSafe = .idle) ∧
      ∀ cycle, stop < cycle → (safeFsm.run inputs cycle).ctrlSingle = .syncOff ∧
        (safeFsm.run inputs cycle).ctrlSafe = .singleMode := by
  have waits : ∀ cycle, stop < cycle → (safeFsm.run inputs cycle).ctrlSingle = .syncOff ∧
      (safeFsm.run inputs cycle).ctrlSafe = .singleMode := by
    intro cycle past
    obtain ⟨later, rfl⟩ := Nat.exists_eq_add_of_le past
    exact (stopped_outside_waits mode running stopped later).symm
  refine ⟨fun returns => ?_, waits⟩
  have back := (returns (asleep + 3) le_rfl).1
  have after := stopped.after
  have stuck := (waits (asleep + 3) (by omega)).1
  rw [stuck] at back
  cases back

/-- Power-on into single mode with harts 1 and 2 asleep throughout: hart 0
acknowledges its halt in cycle 4, `Start` is withdrawn in cycle 5 and hart 0
sleeps from cycle 6 on. -/
def soloSleeps : Nat → FsmIn
  | 0 | 2 | 3 => { trioIn 0b00#2 with hartWfi := fun hart => !oneHot 0 hart }
  | 1 => { trioIn 0b00#2 with hartWfi := fun _ => true }
  | 4 => { trioIn 0b00#2 with hartWfi := fun hart => !oneHot 0 hart, haltAck := oneHot 0 }
  | 5 => { trioIn 0b00#2 with hartWfi := fun hart => !oneHot 0 hart, start := false }
  | _ => { trioIn 0b00#2 with hartWfi := fun _ => true, start := false }

theorem soloSleeps_stopped : StoppedOutside soloSleeps 0 5 6 where
  after := le_rfl
  masterCore cycle := by
    match cycle with
    | 0 | 1 | 2 | 3 | 4 | 5 | _ + 6 => rfl
  othersSleep cycle from_ hart other := by
    match cycle with
    | 5 => simp [soloSleeps, oneHot_of_ne other]
    | _ + 6 => rfl
  masterSleeps cycle from_ := by
    match cycle with
    | _ + 6 => rfl
  start cycle from_ := by
    match cycle with
    | 5 | _ + 6 => rfl
  endSwRoutine cycle from_ := by
    match cycle with
    | 5 | _ + 6 => rfl
  haltAck cycle from_ := by
    match cycle with
    | 5 | _ + 6 => rfl
  safeConfiguration cycle from_ := by
    match cycle with
    | 5 | _ + 6 => rfl

set_option maxRecDepth 4000 in
theorem soloSleeps_never_returns :
    (safeFsm.run soloSleeps 5).ctrlSingle = .run ∧
      ∀ cycle, 5 < cycle → (safeFsm.run soloSleeps cycle).ctrlSingle = .syncOff ∧
        (safeFsm.run soloSleeps cycle).ctrlSafe = .singleMode :=
  ⟨by decide,
    (external_stop_never_returns soloSleeps 0 5 6 (by decide) (by decide) soloSleeps_stopped).2⟩

set_option maxRecDepth 4000 in
theorem sleeping_solo_stays_in_single_mode :
    ¬∀ (inputs : Nat → FsmIn) (master : Hart) (stop asleep : Nat),
      (safeFsm.run inputs stop).ctrlSafe = .singleMode →
      (safeFsm.run inputs stop).ctrlSingle = .run →
      StoppedOutside inputs master stop asleep →
      ∀ cycle, asleep + 3 ≤ cycle → (safeFsm.run inputs cycle).ctrlSingle = .idle ∧
        (safeFsm.run inputs cycle).ctrlSafe = .idle := by
  intro claimed
  have back := (claimed soloSleeps 0 5 6 (by decide) (by decide) soloSleeps_stopped 9 le_rfl).2
  have stuck :=
    (stopped_outside_waits (by decide) (by decide) soloSleeps_stopped 3).1
  rw [stuck] at back
  cases back

end Eros
