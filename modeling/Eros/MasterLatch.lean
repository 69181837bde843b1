import Eros.FsmPhases
import Eros.SafeSystem

/-!
# The latched master in a protected run

`master_core_ff` takes the master register whenever every hart sleeps, also
inside a protected mode: a trio may sleep with its mode still configured, and a
stopped pair sleeps before its recovery.
-/

set_option autoImplicit false

namespace Eros

/-- The synchronised states of triple redundancy. -/
def CtrlTmrFsm.synchronised : CtrlTmrFsm → Bool
  | .sync | .syncIntc | .swSync => true
  | _ => false

/-- The synchronised states of dual redundancy, its recovery included. -/
def CtrlDmrFsm.synchronised : CtrlDmrFsm → Bool
  | .sync | .stop | .intcRecovery | .recovery => true
  | _ => false

def TmrProtected (fsm : SafeFsm) : Prop := ∃ hart, (fsm.ctrlTmr hart).synchronised = true
def DmrProtected (fsm : SafeFsm) : Prop := ∃ hart, (fsm.ctrlDmr hart).synchronised = true

/-- The TMR machine of `hart` is synchronised in the next cycle. -/
def TmrStays (fsm : SafeFsm) (inp : FsmIn) (hart : Hart) : Prop :=
  match fsm.ctrlTmr hart with
  | .sync => SafeFsm.tmrEnds inp = false
  | .syncIntc | .swSync => True
  | .boot => inp.haltAck hart = false
  | .msIntrSync => inp.hartIntcAck.all = true
  | _ => False

def DmrStays (fsm : SafeFsm) (inp : FsmIn) (hart : Hart) : Prop :=
  match fsm.ctrlDmr hart with
  | .sync => inp.hartWfi.all = false
  | .stop | .intcRecovery | .recovery => True
  | .boot => inp.haltAck hart = false
  | .msIntrSync => inp.hartIntcAck hart = true
  | _ => False

section Step
variable {fsm : SafeFsm} {inp : FsmIn} {hart : Hart}

theorem ctrlTmrNext_synchronised :
    (fsm.ctrlTmrNext inp hart).synchronised = true ↔ TmrStays fsm inp hart := by
  cases state : fsm.ctrlTmr hart with
  | reset | toSingle =>
    simp [SafeFsm.ctrlTmrNext, TmrStays, state, CtrlTmrFsm.synchronised]
  | sync =>
    simp only [SafeFsm.ctrlTmrNext, TmrStays, state, SafeFsm.tmrEnds]
    cases asleep : inp.hartWfi.all <;> cases ended : inp.endSwRoutine <;>
      cases configured : inp.safeConfiguration != 0b01#2 <;>
        cases error : fsm.tmrErrorS inp <;> simp [CtrlTmrFsm.synchronised]
  | idle | start | boot | shHalt | waitSh | msIntrSync | endSync | syncIntc | swSync =>
    simp only [SafeFsm.ctrlTmrNext, TmrStays, state]
    split_ifs <;> simp_all [CtrlTmrFsm.synchronised]

theorem ctrlDmrNext_synchronised :
    (fsm.ctrlDmrNext inp hart).synchronised = true ↔ DmrStays fsm inp hart := by
  cases state : fsm.ctrlDmr hart with
  | reset | toSingle =>
    simp [SafeFsm.ctrlDmrNext, DmrStays, state, CtrlDmrFsm.synchronised]
  | sync =>
    simp only [SafeFsm.ctrlDmrNext, DmrStays, state, dmr_configuration_test]
    cases asleep : inp.hartWfi.all <;> cases ended : inp.endSwRoutine <;>
      cases error : SafeFsm.dmrErrorS inp <;> simp [CtrlDmrFsm.synchronised]
  | idle | start | boot | shHalt | waitSh | msIntrSync | endSync | stop | intcRecovery
  | recovery =>
    simp only [SafeFsm.ctrlDmrNext, DmrStays, state]
    split_ifs <;> simp_all [CtrlDmrFsm.synchronised]

end Step

/-- The protected run of either kind goes on over this cycle. -/
def ProtectedOver (fsm : SafeFsm) (inp : FsmIn) : Prop :=
  (TmrProtected fsm ∧ ∃ hart, TmrStays fsm inp hart) ∨
    (DmrProtected fsm ∧ ∃ hart, DmrStays fsm inp hart)

theorem protectedOver_iff (fsm : SafeFsm) (inp : FsmIn) :
    (TmrProtected fsm ∧ TmrProtected (fsm.next inp)) ∨
        (DmrProtected fsm ∧ DmrProtected (fsm.next inp)) ↔
      ProtectedOver fsm inp := by
  have tmr : TmrProtected (fsm.next inp) ↔ ∃ hart, TmrStays fsm inp hart :=
    exists_congr fun _ => ctrlTmrNext_synchronised
  have dmr : DmrProtected (fsm.next inp) ↔ ∃ hart, DmrStays fsm inp hart :=
    exists_congr fun _ => ctrlDmrNext_synchronised
  rw [tmr, dmr, ProtectedOver]

/-- In every run from reset, the latched master is the same throughout every
protected run if and only if software has no other master in the register in
any cycle of it, before its last one, in which all three harts sleep. -/
theorem latched_master_fixed_iff (n : Nat) (inputs : Nat → SystemIn) :
    let run := (safeSystem n).run inputs
    (∀ cycle,
        (TmrProtected (run cycle).fsm ∧ TmrProtected (run (cycle + 1)).fsm) ∨
          (DmrProtected (run cycle).fsm ∧ DmrProtected (run (cycle + 1)).fsm) →
        (run (cycle + 1)).wrapper.masterCoreFf = (run cycle).wrapper.masterCoreFf) ↔
      ∀ cycle, ProtectedOver (run cycle).fsm ((run cycle).fsmIn (inputs cycle)) →
        (inputs cycle).sleep = (fun _ => true) →
        (inputs cycle).masterCore = (run cycle).wrapper.masterCoreFf := by
  intro run
  refine forall_congr' fun cycle => ?_
  have step : (run (cycle + 1)).fsm =
      (run cycle).fsm.next ((run cycle).fsmIn (inputs cycle)) := rfl
  have latch : (run (cycle + 1)).wrapper.masterCoreFf =
      if (inputs cycle).sleep = fun _ => true then (inputs cycle).masterCore
        else (run cycle).wrapper.masterCoreFf := rfl
  rw [step, latch, protectedOver_iff]
  refine imp_congr_right fun _ => ?_
  split_ifs with asleep
  · simp [asleep]
  · simp [asleep]

/-- The pair stops on a mismatch in cycle 6, and sleeps in cycle 7 with hart 1
written to the master register. -/
def masterWrittenInStop : Nat → SystemIn :=
  enterPairThen 0b10#2 fun later =>
    if later = 0 then
      { pairSystemIn 0b10#2 with
        hartReq := fun hart => if hart = 0 then fetching 0x100 else ⟨.zero, .zero, .zero⟩ }
    else { pairSystemIn 0b10#2 with sleep := fun _ => true, masterCore := oneHot 1 }

set_option maxRecDepth 8000 in
theorem master_changes_in_recovery :
    ¬∀ (n : Nat) (inputs : Nat → SystemIn) (cycle : Nat),
      (TmrProtected ((safeSystem n).run inputs cycle).fsm ∧
          TmrProtected ((safeSystem n).run inputs (cycle + 1)).fsm) ∨
        (DmrProtected ((safeSystem n).run inputs cycle).fsm ∧
          DmrProtected ((safeSystem n).run inputs (cycle + 1)).fsm) →
      ((safeSystem n).run inputs (cycle + 1)).wrapper.masterCoreFf =
        ((safeSystem n).run inputs cycle).wrapper.masterCoreFf := by
  intro claimed
  have fixed := claimed 1 masterWrittenInStop 7
    (Or.inr ⟨⟨0, by decide⟩, ⟨0, by decide⟩⟩)
  exact absurd (congrFun fixed 0) (by decide)

end Eros
