import Eros.Handshake
import Eros.Lib.Outstanding

/-!
# The completion interrupt

A rising edge of `END_SW_ROUTINE` sets `STATUS_INTERRUPT`; once every hart
sleeps, `interrupt_o` gives one pulse and `flag_intc` keeps it from repeating
until the status is cleared.  As long as software only clears the status, each
status set is one edge, and a set status without the flag is one pulse still to
be given.
-/

set_option autoImplicit false

namespace Eros

open Outstanding (tally)

instance (value : Nat → Bool) (cycle : Nat) : Decidable (Rises value cycle) :=
  inferInstanceAs (Decidable (_ ∧ _))

def CtrlIn.allAsleep (inp : CtrlIn) : Bool :=
  inp.sleep.getLsbD 0 && inp.sleep.getLsbD 1 && inp.sleep.getLsbD 2

/-- Software does not set the status in this cycle. -/
def CtrlIn.OnlyClears (inp : CtrlIn) : Prop :=
  inp.req.writes CtrlOffset.interruptControler = true → inp.req.bit 1 = false

/-! ## One cycle -/

namespace SafeWrapperCtrl
variable {ctrl : SafeWrapperCtrl} {inp : CtrlIn}

/-- A pulse is due: the status is set and has not been reported. -/
def due (ctrl : SafeWrapperCtrl) : Bool := ctrl.statusInterrupt && !ctrl.flagIntc

theorem loadIntc_iff : ctrl.loadIntc inp = true ↔
    ctrl.due = true ∧ ctrl.enableInterrupt = true ∧ inp.allAsleep = true ∧
      ctrl.enSwRoutineFf = true := by
  simp only [loadIntc, due, CtrlIn.allAsleep, Bool.and_eq_true]
  tauto

theorem interruptO_next : (ctrl.next inp).interruptO = ctrl.loadIntc inp := by
  cases status : ctrl.statusInterrupt with
  | false => simp [next, loadIntc, status]
  | true => simp [next, status]

theorem statusInterrupt_next_of_written
    (written : inp.req.writes CtrlOffset.interruptControler = true) :
    (ctrl.next inp).statusInterrupt = inp.req.bit 1 := by
  simp [next, written, subregRw]

theorem statusInterrupt_next_of_unwritten
    (unwritten : inp.req.writes CtrlOffset.interruptControler = false) :
    (ctrl.next inp).statusInterrupt = (ctrl.endEdge || ctrl.statusInterrupt) := by
  cases edge : ctrl.endEdge <;> simp [next, unwritten, subregRw, edge]

theorem flagIntc_next : (ctrl.next inp).flagIntc =
    (ctrl.statusInterrupt && (ctrl.loadIntc inp || ctrl.flagIntc)) := by
  cases status : ctrl.statusInterrupt <;> cases load : ctrl.loadIntc inp <;>
    simp [next, status, load]

theorem statusInterrupt_of_next (clears : inp.OnlyClears)
    (after : (ctrl.next inp).statusInterrupt = true) :
    ctrl.endEdge = true ∨ ctrl.statusInterrupt = true := by
  cases written : inp.req.writes CtrlOffset.interruptControler with
  | true =>
    rw [statusInterrupt_next_of_written written, clears written] at after
    cases after
  | false =>
    rw [statusInterrupt_next_of_unwritten written, Bool.or_eq_true] at after
    exact after

theorem due_of_next (clears : inp.OnlyClears) (after : (ctrl.next inp).due = true) :
    ctrl.endEdge = true ∨ (ctrl.due = true ∧ ctrl.loadIntc inp = false) := by
  rw [due, Bool.and_eq_true, Bool.not_eq_true'] at after
  obtain ⟨status, unflagged⟩ := after
  rcases statusInterrupt_of_next clears status with edge | before
  · exact Or.inl edge
  · rw [flagIntc_next, before, Bool.true_and, Bool.or_eq_false_iff] at unflagged
    exact Or.inr ⟨by simp [due, before, unflagged.2], unflagged.1⟩

/-- Each pulse and each pulse still due is paid for by an edge. -/
theorem pulse_credit (clears : inp.OnlyClears) :
    (ctrl.loadIntc inp).toNat + (ctrl.next inp).due.toNat ≤
      ctrl.due.toNat + ctrl.endEdge.toNat := by
  cases load : ctrl.loadIntc inp with
  | true =>
    have wasDue := (loadIntc_iff.mp load).1
    cases after : (ctrl.next inp).due with
    | false => simp [wasDue]
    | true =>
      rcases due_of_next clears after with edge | ⟨_, unloaded⟩
      · simp [wasDue, edge]
      · simp [load] at unloaded
  | false =>
    cases after : (ctrl.next inp).due with
    | false => simp
    | true =>
      rcases due_of_next clears after with edge | ⟨wasDue, _⟩
      · simp [edge]
      · simp [wasDue]

end SafeWrapperCtrl

/-! ## Runs -/

section Run
variable {inputs : Nat → CtrlIn}

def interruptPulse (inputs : Nat → CtrlIn) (cycle : Nat) : Bool :=
  (safeWrapperCtrl.run inputs cycle).interruptO

def endRises (inputs : Nat → CtrlIn) (cycle : Nat) : Bool :=
  decide (Rises (fun index => (safeWrapperCtrl.run inputs index).endSwRoutine) cycle)

theorem endEdge_eq_endRises (cycle : Nat) :
    (safeWrapperCtrl.run inputs cycle).endEdge = endRises inputs cycle := by
  rw [Bool.eq_iff_iff, endRises, decide_eq_true_eq]
  constructor
  · intro edge
    simp only [SafeWrapperCtrl.endEdge, Bool.and_eq_true, Bool.not_eq_true'] at edge
    refine ⟨edge.2, ?_⟩
    cases cycle with
    | zero => exact Or.inl rfl
    | succ cycle => exact Or.inr edge.1
  · exact endEdge_of_rises inputs

theorem interruptPulse_succ (cycle : Nat) :
    interruptPulse inputs (cycle + 1) =
      (safeWrapperCtrl.run inputs cycle).loadIntc (inputs cycle) :=
  SafeWrapperCtrl.interruptO_next

theorem pulses_paid (clears : ∀ cycle, (inputs cycle).OnlyClears) (cycle : Nat) :
    tally (interruptPulse inputs) (cycle + 1) + (safeWrapperCtrl.run inputs cycle).due.toNat ≤
      tally (endRises inputs) cycle := by
  induction cycle with
  | zero => exact le_rfl
  | succ cycle ih =>
    have credit : (interruptPulse inputs (cycle + 1)).toNat +
        (safeWrapperCtrl.run inputs (cycle + 1)).due.toNat ≤
          (safeWrapperCtrl.run inputs cycle).due.toNat + (endRises inputs cycle).toNat := by
      rw [interruptPulse_succ, ← endEdge_eq_endRises]
      exact SafeWrapperCtrl.pulse_credit (clears cycle)
    rw [Outstanding.tally_succ, Outstanding.tally_succ (endRises inputs)]
    omega

theorem pulse_once {cycle : Nat} (pulse : interruptPulse inputs cycle = true) :
    interruptPulse inputs (cycle + 1) = false := by
  cases cycle with
  | zero => cases pulse
  | succ cycle =>
    rw [interruptPulse_succ] at pulse
    have status : (safeWrapperCtrl.run inputs cycle).statusInterrupt = true := by
      have due := (SafeWrapperCtrl.loadIntc_iff.mp pulse).1
      simp only [SafeWrapperCtrl.due, Bool.and_eq_true] at due
      exact due.1
    have flag : (safeWrapperCtrl.run inputs (cycle + 1)).flagIntc = true := by
      rw [Synchronous.Machine.run_succ]
      exact SafeWrapperCtrl.flagIntc_next.trans (by rw [status, pulse]; rfl)
    rw [interruptPulse_succ]
    simp [SafeWrapperCtrl.loadIntc, flag]

/-- The edge of a completion in cycle `edge`, the status clear then, and what
holds up to `asleep`, the first later cycle in which all harts sleep. -/
structure Completion (inputs : Nat → CtrlIn) (edge asleep : Nat) : Prop where
  rises : endRises inputs edge = true
  clear : (safeWrapperCtrl.run inputs edge).statusInterrupt = false
  unwritten : (inputs edge).req.writes CtrlOffset.interruptControler = false
  later : edge < asleep
  sleeps : (inputs asleep).allAsleep = true
  awake : ∀ cycle, edge < cycle → cycle < asleep → (inputs cycle).allAsleep = false
  enabled : ∀ cycle, edge < cycle → cycle ≤ asleep →
    (safeWrapperCtrl.run inputs cycle).enableInterrupt = true
  ended : ∀ cycle, edge < cycle → cycle ≤ asleep →
    (safeWrapperCtrl.run inputs cycle).endSwRoutine = true
  kept : ∀ cycle, edge + 1 < cycle → cycle ≤ asleep →
    (safeWrapperCtrl.run inputs cycle).statusInterrupt = true

namespace Completion
variable {edge asleep : Nat}

theorem status (completion : Completion inputs edge asleep) {cycle : Nat} (after : edge < cycle)
    (upto : cycle ≤ asleep) : (safeWrapperCtrl.run inputs cycle).statusInterrupt = true := by
  by_cases first : cycle = edge + 1
  · subst first
    rw [Synchronous.Machine.run_succ]
    refine (SafeWrapperCtrl.statusInterrupt_next_of_unwritten completion.unwritten).trans ?_
    rw [endEdge_eq_endRises, completion.rises]
    rfl
  · exact completion.kept cycle (by omega) upto

theorem quiet_before (completion : Completion inputs edge asleep) {cycle : Nat}
    (after : edge < cycle) (upto : cycle ≤ asleep) : interruptPulse inputs cycle = false := by
  obtain ⟨later, rfl⟩ := Nat.exists_eq_add_of_lt after
  rw [interruptPulse_succ, ← Bool.not_eq_true, SafeWrapperCtrl.loadIntc_iff]
  rintro ⟨due, _, sleeps, _⟩
  cases later with
  | zero => simp [SafeWrapperCtrl.due, completion.clear] at due
  | succ later =>
    rw [completion.awake (edge + (later + 1)) (by omega) (by omega)] at sleeps
    cases sleeps

theorem unflagged (completion : Completion inputs edge asleep) (later : Nat)
    (upto : edge + 1 + later ≤ asleep) :
    (safeWrapperCtrl.run inputs (edge + 1 + later)).flagIntc = false := by
  induction later with
  | zero =>
    rw [Nat.add_zero, Synchronous.Machine.run_succ]
    exact SafeWrapperCtrl.flagIntc_next.trans (by rw [completion.clear]; rfl)
  | succ later ih =>
    have before := ih (by omega)
    have quiet := completion.quiet_before (by omega : edge < edge + 1 + later + 1) upto
    rw [interruptPulse_succ] at quiet
    rw [← Nat.add_assoc, Synchronous.Machine.run_succ]
    exact SafeWrapperCtrl.flagIntc_next.trans (by rw [quiet, before]; simp)

theorem pulse (completion : Completion inputs edge asleep) :
    interruptPulse inputs (asleep + 1) = true := by
  have later := completion.later
  obtain ⟨wait, rfl⟩ := Nat.exists_eq_add_of_le (Nat.succ_le_of_lt later)
  have due : (safeWrapperCtrl.run inputs (edge + 1 + wait)).due = true := by
    have status := completion.status later le_rfl
    have unflagged := completion.unflagged wait le_rfl
    simp only [SafeWrapperCtrl.due, Nat.succ_eq_add_one] at status ⊢
    rw [status, unflagged]
    rfl
  have follows : (safeWrapperCtrl.run inputs (edge + 1 + wait)).enSwRoutineFf = true := by
    cases wait with
    | zero =>
      have rises := completion.rises
      rw [endRises, decide_eq_true_eq] at rises
      exact rises.1
    | succ wait => exact completion.ended (edge + 1 + wait) (by omega) (by simp)
  rw [interruptPulse_succ]
  exact SafeWrapperCtrl.loadIntc_iff.mpr
    ⟨due, completion.enabled _ later le_rfl, completion.sleeps, follows⟩

theorem settled (completion : Completion inputs edge asleep)
    (clears : ∀ cycle, (inputs cycle).OnlyClears) (later : Nat)
    (noEdge : ∀ cycle, edge < cycle → cycle < asleep + 1 + later →
      endRises inputs cycle = false) :
    (safeWrapperCtrl.run inputs (asleep + 1 + later)).due = false := by
  induction later with
  | zero =>
    have load := completion.pulse
    rw [interruptPulse_succ] at load
    have quiet := noEdge asleep completion.later (by omega)
    rw [← endEdge_eq_endRises] at quiet
    rw [← Bool.not_eq_true]
    intro due
    rw [Nat.add_zero, Synchronous.Machine.run_succ] at due
    rcases SafeWrapperCtrl.due_of_next (clears asleep) due with rises | ⟨_, unloaded⟩
    · rw [quiet] at rises
      cases rises
    · rw [load] at unloaded
      cases unloaded
  | succ later ih =>
    have before := ih fun cycle after upto => noEdge cycle after (by omega)
    have started := completion.later
    have quiet := noEdge (asleep + 1 + later) (by omega) (by omega)
    rw [← endEdge_eq_endRises] at quiet
    rw [← Bool.not_eq_true]
    intro due
    rw [← Nat.add_assoc, Synchronous.Machine.run_succ] at due
    rcases SafeWrapperCtrl.due_of_next (clears _) due with rises | ⟨still, _⟩
    · rw [quiet] at rises
      cases rises
    · rw [before] at still
      cases still

theorem quiet_after (completion : Completion inputs edge asleep)
    (clears : ∀ cycle, (inputs cycle).OnlyClears) {cycle : Nat} (past : asleep + 1 < cycle)
    (noEdge : ∀ between, edge < between → between < cycle → endRises inputs between = false) :
    interruptPulse inputs cycle = false := by
  obtain ⟨later, rfl⟩ := Nat.exists_eq_add_of_lt past
  have settled := completion.settled clears later fun between after upto =>
    noEdge between after (by omega)
  rw [interruptPulse_succ, ← Bool.not_eq_true, SafeWrapperCtrl.loadIntc_iff, settled]
  rintro ⟨due, _⟩
  cases due

end Completion

/-- When software only clears the status, there are never more pulses than
edges, no pulse lasts two cycles, and a completion gives exactly one, in the
cycle after all harts are asleep, up to the next edge. -/
theorem one_interrupt_per_completion (clears : ∀ cycle, (inputs cycle).OnlyClears) :
    (∀ cycle, tally (interruptPulse inputs) (cycle + 1) ≤ tally (endRises inputs) cycle) ∧
      (∀ cycle, interruptPulse inputs cycle = true →
        interruptPulse inputs (cycle + 1) = false) ∧
      ∀ edge asleep, Completion inputs edge asleep →
        interruptPulse inputs (asleep + 1) = true ∧
          ∀ cycle, edge < cycle → cycle ≠ asleep + 1 →
            (∀ between, edge < between → between < cycle → endRises inputs between = false) →
            interruptPulse inputs cycle = false := by
  refine ⟨fun cycle => ?_, fun cycle => pulse_once, fun edge asleep completion => ?_⟩
  · have paid := pulses_paid clears cycle
    omega
  · refine ⟨completion.pulse, fun cycle after other noEdge => ?_⟩
    rcases Nat.lt_or_gt_of_ne other with before | past
    · exact completion.quiet_before after (by omega)
    · exact completion.quiet_after clears past noEdge

end Run

/-- The interrupt is enabled in cycle 0, the routine ends in cycle 1 and the
harts sleep from cycle 4 on. -/
def enabledRoutine : Nat → CtrlIn
  | 0 => regWrite CtrlOffset.interruptControler 1
  | 1 => regWrite CtrlOffset.endSwRoutine 1
  | 2 | 3 => { regWrite 0 0 with req := ⟨false, false, 0, 0, 0⟩ }
  | _ => { regWrite 0 0 with req := ⟨false, false, 0, 0, 0⟩, sleep := 0b111 }

theorem enabledRoutine_interrupts :
    interruptPulse enabledRoutine 5 = true ∧ interruptPulse enabledRoutine 6 = false := by
  have clears : ∀ cycle, (enabledRoutine cycle).OnlyClears := by
    intro cycle written
    match cycle with
    | 0 => rfl
    | 1 | 2 | 3 => cases written
    | _ + 4 => cases written
  have completion : Completion enabledRoutine 2 4 := by
    refine ⟨by decide, by decide, by decide, by omega, by decide, ?_, ?_, ?_, ?_⟩
    · intro cycle after upto
      obtain rfl : cycle = 3 := by omega
      rfl
    · intro cycle after upto
      obtain rfl | rfl : cycle = 3 ∨ cycle = 4 := by omega
      · decide
      · decide
    · intro cycle after upto
      obtain rfl | rfl : cycle = 3 ∨ cycle = 4 := by omega
      · decide
      · decide
    · intro cycle after upto
      obtain rfl : cycle = 4 := by omega
      decide
  have once := one_interrupt_per_completion clears
  have pulse := (once.2.2 2 4 completion).1
  exact ⟨pulse, once.2.1 5 pulse⟩

end Eros
