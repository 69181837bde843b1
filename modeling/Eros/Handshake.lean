import Eros.SafeWrapperCtrl

/-!
# The start/end handshake

A rising edge of `END_SW_ROUTINE` clears `START` and sets `STATUS_INTERRUPT`
one cycle later, and one of `START` clears `END_SW_ROUTINE` two cycles later.
Each update is a one-cycle hardware pulse, and a software write to the same
register in the cycle of the pulse has priority over it.
-/

set_option autoImplicit false

namespace Eros

section Subreg
variable {α : Type} (wd d q : α)

theorem subregRw_software (de : Bool) : subregRw true wd de d q = wd := rfl
theorem subregRw_hardware : subregRw false wd true d q = d := rfl

theorem subregRw_pulse (we : Bool) : subregRw we wd true d q = if we then wd else d := by
  cases we
  · exact subregRw_hardware wd d q
  · exact subregRw_software wd d q true

end Subreg

/-- `value` is 0 in one cycle and 1 in the next, which is `cycle`. -/
def Rises (value : Nat → Bool) (cycle : Nat) : Prop :=
  value cycle = true ∧ (cycle = 0 ∨ value (cycle - 1) = false)

theorem Rises.previous_low {value : Nat → Bool} {cycle : Nat} (rises : Rises value cycle)
    (previous : Nat → Bool) (start : previous 0 = false)
    (follows : ∀ index, previous (index + 1) = value index) : previous cycle = false := by
  cases cycle with
  | zero => exact start
  | succ index =>
    rw [follows]
    rcases rises.2 with first | low
    · exact absurd first (by omega)
    · exact low

section Run
variable (inputs : Nat → CtrlIn)

theorem startEdge_of_rises {cycle : Nat}
    (rises : Rises (fun index => (safeWrapperCtrl.run inputs index).start) cycle) :
    (safeWrapperCtrl.run inputs cycle).startEdge = true := by
  have before : (safeWrapperCtrl.run inputs cycle).startFf = false :=
    rises.previous_low (fun index => (safeWrapperCtrl.run inputs index).startFf) rfl
      fun _ => rfl
  have high : (safeWrapperCtrl.run inputs cycle).start = true := rises.1
  unfold SafeWrapperCtrl.startEdge
  rw [before, high]
  rfl

theorem endEdge_of_rises {cycle : Nat}
    (rises : Rises (fun index => (safeWrapperCtrl.run inputs index).endSwRoutine) cycle) :
    (safeWrapperCtrl.run inputs cycle).endEdge = true := by
  have before : (safeWrapperCtrl.run inputs cycle).enSwRoutineFf = false :=
    rises.previous_low (fun index => (safeWrapperCtrl.run inputs index).enSwRoutineFf) rfl
      fun _ => rfl
  have high : (safeWrapperCtrl.run inputs cycle).endSwRoutine = true := rises.1
  unfold SafeWrapperCtrl.endEdge
  rw [before, high]
  rfl

/-- Every pulse reaches its register, except that a software write to that very
register in the cycle of the pulse wins with the bit it writes. -/
theorem handshake_pulse_or_software_write (cycle : Nat) :
    let run := safeWrapperCtrl.run inputs
    (Rises (fun index => (run index).endSwRoutine) cycle →
        (run (cycle + 1)).start =
            (if (inputs cycle).req.writes CtrlOffset.start then (inputs cycle).req.bit 0
              else false) ∧
          (run (cycle + 1)).statusInterrupt =
            (if (inputs cycle).req.writes CtrlOffset.interruptControler then
              (inputs cycle).req.bit 1 else true)) ∧
      (Rises (fun index => (run index).start) cycle →
        (run (cycle + 2)).endSwRoutine =
          (if (inputs (cycle + 1)).req.writes CtrlOffset.endSwRoutine then
            (inputs (cycle + 1)).req.bit 0 else false)) := by
  intro run
  constructor
  · intro rises
    have pulse : (run cycle).endEdge = true := endEdge_of_rises inputs rises
    have step : run (cycle + 1) = (run cycle).next (inputs cycle) := rfl
    rw [step]
    simp only [SafeWrapperCtrl.next, pulse, subregRw_pulse, and_self]
  · intro rises
    have edge : (run cycle).startEdge = true := startEdge_of_rises inputs rises
    have flag : (run (cycle + 1)).startFlag = true := edge
    have step : run (cycle + 2) = (run (cycle + 1)).next (inputs (cycle + 1)) := rfl
    rw [step]
    simp only [SafeWrapperCtrl.next, flag, subregRw_pulse]

end Run

/-! ## A write that wins over the pulse -/

def regWrite (addr : BitVec 6) (wdata : Word) : CtrlIn where
  req := ⟨true, true, addr, wdata, 0b1111⟩
  startBoot := false
  enExtDebug := false
  dmrRec := false
  debugMode := 0
  sleep := 0
  enableInterruptDe := false
  enableInterruptD := false

/-- A hart ends the routine in cycle 0 and the host starts the next one in
cycle 1, the cycle of the hardware update. -/
def startOverEnd : Nat → CtrlIn
  | 0 => regWrite CtrlOffset.endSwRoutine 1
  | _ => regWrite CtrlOffset.start 1

theorem start_survives_end_edge :
    ¬∀ (inputs : Nat → CtrlIn) (cycle : Nat),
      (Rises (fun index => (safeWrapperCtrl.run inputs index).endSwRoutine) cycle →
        (safeWrapperCtrl.run inputs (cycle + 1)).start = false ∧
          (safeWrapperCtrl.run inputs (cycle + 1)).statusInterrupt = true) ∧
      (Rises (fun index => (safeWrapperCtrl.run inputs index).start) cycle →
        (safeWrapperCtrl.run inputs (cycle + 2)).endSwRoutine = false) := by
  intro claimed
  have rises : Rises (fun index => (safeWrapperCtrl.run startOverEnd index).endSwRoutine) 1 := by
    exact ⟨by decide, Or.inr (by decide)⟩
  have cleared := ((claimed startOverEnd 1).1 rises).1
  exact absurd cleared (by decide)

end Eros
