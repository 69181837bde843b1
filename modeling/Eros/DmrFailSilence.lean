import Eros.ModeCycle

/-!
# DMR is fail-silent

In a comparing mode the pair's requests meet in the comparator of the master's
index.  Whatever the third hart does, the master's port carries a request only
when the two presented requests agree on both buses, and any disagreement
silences both buses and raises the error.
-/

set_option autoImplicit false

namespace Eros

/-! ## The third hart -/

/-- The same inputs with another request from hart `third`. -/
def WrapperIn.withRequest (inp : WrapperIn) (third : Hart) (request : HartReq) : WrapperIn :=
  { inp with hartReq := Function.update inp.hartReq third request }

/-- The registers the outputs of a pair depend on. -/
def SameGroup {n : Nat} (master : Hart) (left right : WrapperRegs n) : Prop :=
  left.masterCoreFf = right.masterCoreFf ∧ left.lockstep master = right.lockstep master

section ThirdHart
variable {n : Nat} {master slave third : Hart} {left right : WrapperRegs n} {inp : WrapperIn}

theorem DmrCycle.withRequest (cycle : DmrCycle master slave left inp)
    (same : SameGroup master left right) (request : HartReq) :
    DmrCycle master slave right (inp.withRequest third request) where
  latched := same.1.symm.trans cycle.latched
  comparing := cycle.comparing
  notVoting := cycle.notVoting
  paired := cycle.paired
  awake := cycle.awake

theorem dmrReq_withRequest (cycle : DmrCycle master slave left inp) (distinct : slave ≠ master)
    (notMaster : third ≠ master) (notSlave : third ≠ slave)
    (same : SameGroup master left right) (request : HartReq) :
    right.dmrInstr (inp.withRequest third request) master = left.dmrInstr inp master ∧
      right.dmrData (inp.withRequest third request) master = left.dmrData inp master := by
  have noisy : DmrCycle master slave right (inp.withRequest third request) :=
    cycle.withRequest same request
  have ofMaster : (inp.withRequest third request).hartReq master = inp.hartReq master :=
    Function.update_of_ne notMaster.symm _ _
  have ofSlave : (inp.withRequest third request).hartReq slave = inp.hartReq slave :=
    Function.update_of_ne notSlave.symm _ _
  constructor
  · rw [noisy.dmrInstr_eq distinct, cycle.dmrInstr_eq distinct, ofMaster, ofSlave]
  · rw [noisy.dmrData_eq distinct, cycle.dmrData_eq distinct, ofMaster, ofSlave]

theorem comparator_withRequest (cycle : DmrCycle master slave left inp)
    (distinct : slave ≠ master) (notMaster : third ≠ master) (notSlave : third ≠ slave)
    (same : SameGroup master left right) (request : HartReq) :
    right.comparator (inp.withRequest third request) master = left.comparator inp master := by
  obtain ⟨instr, data⟩ := dmrReq_withRequest cycle distinct notMaster notSlave same request
  unfold WrapperRegs.comparator WrapperRegs.presentedInstr WrapperRegs.presentedData
  rw [instr, data, same.2]
  rfl

theorem sameGroup_next (cycle : DmrCycle master slave left inp) (distinct : slave ≠ master)
    (notMaster : third ≠ master) (notSlave : third ≠ slave)
    (same : SameGroup master left right) (request : HartReq) :
    SameGroup master (left.next inp) (right.next (inp.withRequest third request)) := by
  obtain ⟨instr, data⟩ := dmrReq_withRequest cycle distinct notMaster notSlave same request
  constructor
  · simp only [WrapperRegs.next, same.1]
    rfl
  · simp only [WrapperRegs.next]
    rw [instr, data, same.2]
    rfl

end ThirdHart

/-- Fail-silence and non-interference of a pair, cycle by cycle over a run:
the run is compared with one in which the third hart's requests are replaced by
an arbitrary stream. -/
theorem dmr_fails_silent_and_ignores_third_hart {n : Nat} {master slave third : Hart}
    (distinct : slave ≠ master) (notMaster : third ≠ master) (notSlave : third ≠ slave)
    (start : WrapperRegs n) (inputs : Nat → WrapperIn) (noise : Nat → HartReq) (cycle : Nat)
    (pair : ∀ earlier, earlier ≤ cycle → DmrCycle master slave
      ((wrapperMachine n).runFrom start inputs earlier) (inputs earlier)) :
    let inp := inputs cycle
    let regs := (wrapperMachine n).runFrom start inputs cycle
    let noisyInputs := fun index => (inputs index).withRequest third (noise index)
    let noisyRegs := (wrapperMachine n).runFrom start noisyInputs cycle
    let instr := regs.presentedInstr inp master
    let data := regs.presentedData inp master
    (instr = ⟨if inp.mode.delayed then (regs.lockstep master).instrReq.head
          else (inp.hartReq master).instr, (inp.hartReq slave).instr⟩ ∧
        data = if inp.mode.delayed then
            ⟨(regs.lockstep master).dataReq.head, (inp.hartReq slave).data.gateWe⟩
          else ⟨(inp.hartReq master).data, (inp.hartReq slave).data⟩) ∧
      ((regs.coreInstrReqO inp master).req = true ∨ (regs.coreDataReqO inp master).req = true →
        instr.Agree ∧ data.Agree) ∧
      (∀ port, port ≠ master → (regs.coreInstrReqO inp port).req = false ∧
        (regs.coreDataReqO inp port).req = false) ∧
      (¬(instr.Agree ∧ data.Agree) → regs.coreInstrReqO inp master = .zero ∧
        regs.coreDataReqO inp master = .zero ∧ regs.dmrError inp master = true) ∧
      (instr.master = instr.slave → data.master = data.slave →
        regs.dmrError inp master = false) ∧
      (∀ port, noisyRegs.coreInstrReqO (noisyInputs cycle) port = regs.coreInstrReqO inp port ∧
        noisyRegs.coreDataReqO (noisyInputs cycle) port = regs.coreDataReqO inp port) ∧
      noisyRegs.dmrError (noisyInputs cycle) master = regs.dmrError inp master := by
  intro inp regs noisyInputs noisyRegs instr data
  have here : DmrCycle master slave regs inp := pair cycle le_rfl
  have same : ∀ elapsed, elapsed ≤ cycle → SameGroup master
      ((wrapperMachine n).runFrom start inputs elapsed)
      ((wrapperMachine n).runFrom start noisyInputs elapsed) := by
    refine Synchronous.Machine.runFrom_simulation _ _ (SameGroup master) start start inputs
      noisyInputs cycle ⟨rfl, rfl⟩ ?_
    intro elapsed before related
    exact sameGroup_next (pair elapsed (by omega)) distinct notMaster notSlave related _
  have sameHere : SameGroup master regs noisyRegs := same cycle le_rfl
  have noisy : DmrCycle master slave noisyRegs (noisyInputs cycle) :=
    here.withRequest sameHere _
  have comparator : noisyRegs.comparator (noisyInputs cycle) master =
      regs.comparator inp master :=
    comparator_withRequest here distinct notMaster notSlave sameHere _
  refine ⟨⟨here.presentedInstr_eq distinct, here.presentedData_eq distinct⟩,
    here.agree_of_drives, ?_, here.silent_of_disagreement, ?_, ?_, ?_⟩
  · intro port other
    obtain ⟨instrZero, dataZero⟩ := here.coreReqO_other port other
    rw [instrZero, dataZero]
    exact ⟨rfl, rfl⟩
  · intro instrEqual dataEqual
    have instrQuiet := comparatorMismatch_of_eq instr instrEqual
    have dataQuiet := comparatorMismatch_of_eq data dataEqual
    change (comparatorMismatch instr || comparatorMismatch data) = false
    rw [instrQuiet, dataQuiet]
    rfl
  · intro port
    by_cases other : port = master
    · subst other
      obtain ⟨noisyInstr, noisyData⟩ := noisy.coreReqO_master
      obtain ⟨cleanInstr, cleanData⟩ := here.coreReqO_master
      rw [noisyInstr, noisyData, cleanInstr, cleanData, comparator]
      exact ⟨rfl, rfl⟩
    · obtain ⟨noisyInstr, noisyData⟩ := noisy.coreReqO_other port other
      obtain ⟨cleanInstr, cleanData⟩ := here.coreReqO_other port other
      rw [noisyInstr, noisyData, cleanInstr, cleanData]
      exact ⟨rfl, rfl⟩
  · unfold WrapperRegs.dmrError
    rw [comparator]

/-! ## A concrete pair -/

/-- Harts 2 and 0 paired under master 2 and disagreeing in the address of a
write; hart 1 is outside the pair and free to request anything. -/
def splitPairInputs (_cycle : Nat) : WrapperIn where
  mode := ⟨false, true, false, pairMask 2 0, fun _ => false⟩
  hartReq hart :=
    { instr := .zero, coreData := .zero, data := ⟨true, true, 0xf, 16 * BitVec.ofNat 32 hart.val, 7⟩ }
  instrResp _ := .zero
  dataResp _ := .zero
  intr _ := 0
  debugReq _ := false
  masterCore := oneHot 2
  sleep _ := false

def splitPairStart : WrapperRegs 1 := { WrapperRegs.reset 1 with masterCoreFf := oneHot 2 }

theorem splitPair_cycle (cycle : Nat) :
    DmrCycle 2 0 ((wrapperMachine 1).runFrom splitPairStart splitPairInputs cycle)
      (splitPairInputs cycle) := by
  exact ⟨masterCoreFf_runFrom _ _ rfl (fun _ => rfl) cycle, rfl, rfl, rfl, rfl⟩

theorem dmr_silences_split_pair :
    let regs := (wrapperMachine 1).runFrom splitPairStart splitPairInputs 3
    regs.coreDataReqO (splitPairInputs 3) 2 = .zero ∧ regs.dmrError (splitPairInputs 3) 2 = true := by
  intro regs
  obtain ⟨⟨_, dataEq⟩, _, _, silent, _⟩ :=
    @dmr_fails_silent_and_ignores_third_hart 1 2 0 1 (by decide) (by decide) (by decide)
      splitPairStart splitPairInputs (fun _ => ⟨.zero, .zero, .zero⟩) 3
      (fun earlier _ => splitPair_cycle earlier)
  have disagree : ¬((regs.presentedInstr (splitPairInputs 3) 2).Agree ∧
      (regs.presentedData (splitPairInputs 3) 2).Agree) := by
    rintro ⟨_, _, _, _, address, _⟩
    rw [dataEq] at address
    exact absurd (address rfl) (by decide)
  exact (silent disagree).2

end Eros
