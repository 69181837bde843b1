import Eros.FsmPhases
import Eros.ModeCycle
import Eros.SafeSystem

/-!
# From the comparator to the state machine

The bus is gated by the comparator of the latched master, while `dmr_error_s`
takes the comparator that the master register names in the same cycle.
-/

set_option autoImplicit false

namespace Eros

/-- The comparator `dmr_error_s` listens to. -/
def namedComparator (masterCore : HartWires) : Hart :=
  if masterCore = oneHot 0 then 0 else if masterCore = oneHot 1 then 1 else 2

theorem dmrErrorS_eq (inp : FsmIn) :
    SafeFsm.dmrErrorS inp = inp.dmrError (namedComparator inp.masterCore) := by
  unfold SafeFsm.dmrErrorS namedComparator
  split_ifs <;> rfl

theorem oneHot_injective {left right : Hart} (same : oneHot left = oneHot right) :
    left = right := by
  have bit := congrFun same left
  simpa [oneHot] using bit.symm

theorem namedComparator_oneHot (master : Hart) : namedComparator (oneHot master) = master := by
  unfold namedComparator
  split_ifs with zero one
  · exact (oneHot_injective zero).symm
  · exact (oneHot_injective one).symm
  · fin_cases master
    · exact absurd rfl zero
    · exact absurd rfl one
    · rfl

section Silent
variable {n : Nat} {regs : WrapperRegs n} {inp : WrapperIn} {master index : Hart}

theorem dmrError_of_other (latched : regs.masterCoreFf = oneHot master)
    (comparing : inp.mode.dualMode = true) (direct : inp.mode.delayed = false)
    (other : index ≠ master) : regs.dmrError inp index = false := by
  have column : ∀ (request : Hart → ObiReq) (source : Hart),
      upperMux regs.masterCoreFf inp.mode request source index = .zero := by
    intro request source
    rw [latched, upperMux_of_protected _ _ _ _ _ (by simp [comparing]), if_neg other]
  have idle : ∀ request : Hart → ObiReq,
      dmrCoreReq inp.mode.dmrConfig (upperMux regs.masterCoreFf inp.mode request) index =
        ⟨.zero, .zero⟩ := by
    intro request
    fin_cases index <;> simp only [dmrCoreReq, ReqPair.mk.injEq] <;>
      exact ⟨column request _, by split_ifs <;> exact column request _⟩
  refine (dmrComparator_error_eq_false_iff _ _).mpr ?_
  constructor <;> refine (comparatorMismatch_eq_false_iff _).mp (comparatorMismatch_of_eq _ ?_)
  · simp [WrapperRegs.presentedInstr, lockstepMux, comparing, direct, WrapperRegs.dmrInstr,
      WrapperRegs.upperInstr, idle]
  · simp [WrapperRegs.presentedData, lockstepMux, comparing, direct, WrapperRegs.dmrData,
      WrapperRegs.upperData, idle]

end Silent

theorem ctrlDmrNext_of_sync {fsm : SafeFsm} {inp : FsmIn} {hart : Hart}
    (sync : fsm.ctrlDmr hart = .sync) (awake : inp.hartWfi.all = false) :
    fsm.ctrlDmrNext inp hart = if SafeFsm.dmrErrorS inp then .stop else .sync := by
  simp [SafeFsm.ctrlDmrNext, sync, awake]

/-- In every cycle of every run with two machines in DMR_SYNC, some hart awake
and a mismatch at the latched master's comparator, both stop if and only if the
comparator that the master register names reports a mismatch too; without delay
that is the case exactly when the register names the latched master. -/
theorem comparator_error_stops_pair_iff (n : Nat) (inputs : Nat → SystemIn) (cycle : Nat)
    (first second master : Hart) :
    let run := (safeSystem n).run inputs
    let wrapperIn := (run cycle).wrapperIn (inputs cycle)
    let named := namedComparator (inputs cycle).masterCore
    (run cycle).fsm.ctrlDmr first = .sync → (run cycle).fsm.ctrlDmr second = .sync →
      (inputs cycle).sleep.all = false → (run cycle).wrapper.masterCoreFf = oneHot master →
      (run cycle).wrapper.dmrError wrapperIn master = true →
      (((run (cycle + 1)).fsm.ctrlDmr first = .stop ∧
            (run (cycle + 1)).fsm.ctrlDmr second = .stop) ↔
          (run cycle).wrapper.dmrError wrapperIn named = true) ∧
        (wrapperIn.mode.delayed = false →
          (((run (cycle + 1)).fsm.ctrlDmr first = .stop ∧
              (run (cycle + 1)).fsm.ctrlDmr second = .stop) ↔ named = master)) := by
  intro run wrapperIn named firstSync secondSync awake latched raised
  have next : ∀ hart, (run cycle).fsm.ctrlDmr hart = .sync →
      ((run (cycle + 1)).fsm.ctrlDmr hart = .stop ↔
        (run cycle).wrapper.dmrError wrapperIn named = true) := by
    intro hart sync
    change (run cycle).fsm.ctrlDmrNext ((run cycle).fsmIn (inputs cycle)) hart = .stop ↔ _
    rw [ctrlDmrNext_of_sync sync awake, dmrErrorS_eq]
    change (if (run cycle).wrapper.dmrError wrapperIn named = true then CtrlDmrFsm.stop
      else .sync) = .stop ↔ _
    split_ifs with error <;> simp [error]
  have both : ((run (cycle + 1)).fsm.ctrlDmr first = .stop ∧
      (run (cycle + 1)).fsm.ctrlDmr second = .stop) ↔
        (run cycle).wrapper.dmrError wrapperIn named = true := by
    rw [next first firstSync, next second secondSync, and_self]
  refine ⟨both, fun direct => both.trans ?_⟩
  constructor
  · intro error
    by_contra other
    have comparing : wrapperIn.mode.dualMode = true :=
      dmrComparatorEnableO_of_machine first (by simp [SafeFsm.dmr, firstSync, dmrOut])
    rw [dmrError_of_other latched comparing direct other] at error
    simp at error
  · intro same
    rw [same]
    exact raised

/-- Hart 0 alone fetches in cycle 6, with `masterCore` in the master register. -/
def mismatchUnder (masterCore : HartWires) : Nat → SystemIn :=
  enterPairThen 0b10#2 fun _ =>
    { pairSystemIn 0b10#2 with
      masterCore := masterCore
      hartReq := fun hart => if hart = 0 then fetching 0x100 else ⟨.zero, .zero, .zero⟩ }

set_option maxRecDepth 8000 in
/-- With the master register untouched the pair stops. -/
theorem mismatch_stops_pair :
    ((safeSystem 1).run (mismatchUnder (oneHot 0)) 7).fsm.ctrlDmr 0 = .stop ∧
      ((safeSystem 1).run (mismatchUnder (oneHot 0)) 7).fsm.ctrlDmr 1 = .stop := by
  have stops := comparator_error_stops_pair_iff 1 (mismatchUnder (oneHot 0)) 6 0 1 0 (by decide)
    (by decide) (by decide) (by decide) (by decide)
  exact (stops.2 (by decide)).mpr (namedComparator_oneHot 0)

set_option maxRecDepth 8000 in
/-- With hart 1 already written to the register it runs on. -/
theorem renamed_master_hides_error :
    ¬∀ (n : Nat) (inputs : Nat → SystemIn) (cycle : Nat) (first second master : Hart),
      first ≠ second → (inputs cycle).dmrMask first = true →
      (inputs cycle).dmrMask second = true →
      ((safeSystem n).run inputs cycle).fsm.ctrlDmr first = .sync →
      ((safeSystem n).run inputs cycle).fsm.ctrlDmr second = .sync →
      (inputs cycle).sleep.all = false →
      ((safeSystem n).run inputs cycle).wrapper.masterCoreFf = oneHot master →
      ((safeSystem n).run inputs cycle).wrapper.dmrError
        (((safeSystem n).run inputs cycle).wrapperIn (inputs cycle)) master = true →
      ((safeSystem n).run inputs (cycle + 1)).fsm.ctrlDmr first = .stop ∧
        ((safeSystem n).run inputs (cycle + 1)).fsm.ctrlDmr second = .stop := by
  intro claimed
  have stopped := claimed 1 (mismatchUnder (oneHot 1)) 6 0 1 0 (by decide) (by decide) (by decide)
    (by decide) (by decide) (by decide) (by decide) (by decide)
  exact absurd stopped.1 (by decide)

end Eros
