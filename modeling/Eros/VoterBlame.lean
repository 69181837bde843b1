import Eros.ModeCycle

/-!
# Whom the voters blame

Only the voter of the latched master is enabled, and it sees the requests of the
three harts.  Address and write data are compared under the accused hart's own
`req` and `we`; a hart that hides a difference behind them differs in `req` or
`we` instead.
-/

set_option autoImplicit false

namespace Eros

/-! ## One voter -/

/-- A difference that matters under a voted request. -/
def Deviates (voted request : ObiReq) : Prop :=
  request.req ≠ voted.req ∨ request.we ≠ voted.we ∨ request.be ≠ voted.be ∨
    request.addr ≠ voted.addr ∨ (voted.we = true ∧ request.wdata ≠ voted.wdata)

instance (voted request : ObiReq) : Decidable (Deviates voted request) := by
  unfold Deviates; infer_instance

theorem voterDisagrees_self (voted : ObiReq) (enable : Bool) :
    voterDisagrees voted voted enable = false := by
  simp [voterDisagrees]

theorem voterDisagrees_disabled (voted request : ObiReq) :
    voterDisagrees voted request false = false := by
  simp [voterDisagrees]

theorem voterDisagrees_of_deviates {voted request : ObiReq} (requests : voted.req = true)
    (deviates : Deviates voted request) : voterDisagrees voted request true = true := by
  by_cases sameReq : request.req = voted.req
  · by_cases sameWe : request.we = voted.we
    · rcases deviates with req | we | be | addr | ⟨writes, wdata⟩
      · exact absurd sameReq req
      · exact absurd sameWe we
      · simp [voterDisagrees, be.symm]
      · simp [voterDisagrees, addr.symm, sameReq, requests]
      · simp [voterDisagrees, wdata.symm, sameWe, writes]
    · have differs : (voted.we != request.we) = true := bne_iff_ne.mpr (Ne.symm sameWe)
      simp [voterDisagrees, differs]
  · have differs : (voted.req != request.req) = true := bne_iff_ne.mpr (Ne.symm sameReq)
    simp [voterDisagrees, differs]

theorem tmrVoter_disabled (instr data : Hart → ObiReq) :
    (tmrVoter instr data false).error = false ∧
      ∀ hart, (tmrVoter instr data false).errorId hart = false := by
  simp [tmrVoter, voterDisagrees_disabled]

section Agreement
variable {instr data : Hart → ObiReq} {odd : Hart} {agreedInstr agreedData : ObiReq}
  (agreeInstr : ∀ hart, hart ≠ odd → instr hart = agreedInstr)
  (agreeData : ∀ hart, hart ≠ odd → data hart = agreedData)
include agreeInstr agreeData

theorem tmrVoter_errorId (enable : Bool) (hart : Hart) :
    (tmrVoter instr data enable).errorId hart =
      (voterDisagrees agreedInstr (instr hart) enable ||
        voterDisagrees agreedData (data hart) enable) := by
  simp only [tmrVoter, votedReq_of_agreement instr agreedInstr odd agreeInstr,
    votedReq_of_agreement data agreedData odd agreeData]

theorem tmrVoter_error (enable : Bool) :
    (tmrVoter instr data enable).error =
      ((voterDisagrees agreedInstr (instr odd) enable && agreedInstr.req) ||
        (voterDisagrees agreedData (data odd) enable && agreedData.req)) := by
  simp only [tmrVoter, votedReq_of_agreement instr agreedInstr odd agreeInstr,
    votedReq_of_agreement data agreedData odd agreeData]
  have quietInstr : ∀ hart, hart ≠ odd →
      voterDisagrees agreedInstr (instr hart) enable = false := by
    intro hart other
    rw [agreeInstr hart other, voterDisagrees_self]
  have quietData : ∀ hart, hart ≠ odd →
      voterDisagrees agreedData (data hart) enable = false := by
    intro hart other
    rw [agreeData hart other, voterDisagrees_self]
  fin_cases odd
  · simp [quietInstr 1, quietInstr 2, quietData 1, quietData 2]
  · simp [quietInstr 0, quietInstr 2, quietData 0, quietData 2]
  · simp [quietInstr 0, quietInstr 1, quietData 0, quietData 1]

theorem tmrVoter_spares (enable : Bool) {hart : Hart} (healthy : hart ≠ odd) :
    (tmrVoter instr data enable).errorId hart = false := by
  rw [tmrVoter_errorId agreeInstr agreeData, agreeInstr hart healthy, agreeData hart healthy,
    voterDisagrees_self, voterDisagrees_self, Bool.or_false]

end Agreement

/-! ## The three voters -/

/-- A cycle in which the voter of the latched master is on and no comparator. -/
structure VotingCycle {n : Nat} (master : Hart) (regs : WrapperRegs n) (inp : WrapperIn) :
    Prop where
  latched : regs.masterCoreFf = oneHot master
  voting : inp.mode.tmrVoterEnable = true
  notComparing : inp.mode.dualMode = false

namespace VotingCycle
variable {n : Nat} {master : Hart} {regs : WrapperRegs n} {inp : WrapperIn}

theorem voter_master (cycle : VotingCycle master regs inp) :
    regs.voter inp master =
      tmrVoter (fun hart => (inp.hartReq hart).instr) (fun hart => (inp.hartReq hart).data)
        true := by
  have steered : (inp.mode.dualMode || inp.mode.tmrVoterEnable) = true := by
    simp [cycle.voting]
  simp [WrapperRegs.voter, WrapperRegs.upperInstr, WrapperRegs.upperData, cycle.latched,
    upperMux_of_protected _ _ _ _ _ steered, cycle.voting]

theorem voter_other (cycle : VotingCycle master regs inp) {index : Hart}
    (other : index ≠ master) :
    (regs.voter inp index).error = false ∧
      ∀ hart, (regs.voter inp index).errorId hart = false := by
  have disabled : (inp.mode.tmrVoterEnable && regs.masterCoreFf index) = false := by
    simp [cycle.latched, oneHot_of_ne other]
  unfold WrapperRegs.voter
  rw [disabled]
  exact tmrVoter_disabled _ _

theorem combined (cycle : VotingCycle master regs inp) :
    regs.tmrError inp = (regs.voter inp master).error ∧
      regs.tmrErrorId inp = (regs.voter inp master).errorId := by
  have quiet : ∀ index, index ≠ master → (regs.voter inp index).error = false ∧
      ∀ hart, (regs.voter inp index).errorId hart = false :=
    fun index other => cycle.voter_other other
  unfold WrapperRegs.tmrError WrapperRegs.tmrErrorId
  constructor
  · fin_cases master
    · simp [quiet 1, quiet 2]
    · simp [quiet 0, quiet 2]
    · simp [quiet 0, quiet 1]
  · funext hart
    fin_cases master
    · simp [quiet 1, quiet 2]
    · simp [quiet 0, quiet 2]
    · simp [quiet 0, quiet 1]

end VotingCycle

/-- With at most one hart differing from the others, no healthy hart is named;
a difference that matters under a voted request on either bus is reported and
names exactly the odd hart; without differences nothing is reported; and the
other two voters are silent. -/
theorem voters_blame_exactly_the_odd_hart {n : Nat} {master : Hart} {regs : WrapperRegs n}
    {inp : WrapperIn} (odd : Hart) (cycle : VotingCycle master regs inp) (instr data : ObiReq)
    (agreeInstr : ∀ hart, hart ≠ odd → (inp.hartReq hart).instr = instr)
    (agreeData : ∀ hart, hart ≠ odd → (inp.hartReq hart).data = data) :
    (∀ hart, hart ≠ odd → regs.tmrErrorId inp hart = false) ∧
      ((regs.voter inp master).instr.req = true →
        Deviates instr (inp.hartReq odd).instr →
        regs.tmrError inp = true ∧ ∀ hart, regs.tmrErrorId inp hart = decide (hart = odd)) ∧
      ((regs.voter inp master).data.req = true →
        Deviates data (inp.hartReq odd).data →
        regs.tmrError inp = true ∧ ∀ hart, regs.tmrErrorId inp hart = decide (hart = odd)) ∧
      ((inp.hartReq odd).instr = instr → (inp.hartReq odd).data = data →
        regs.tmrError inp = false ∧ ∀ hart, regs.tmrErrorId inp hart = false) ∧
      ∀ index, index ≠ master → (regs.voter inp index).error = false ∧
        ∀ hart, (regs.voter inp index).errorId hart = false := by
  obtain ⟨error, errorId⟩ := cycle.combined
  have voted := cycle.voter_master
  have spares : ∀ hart, hart ≠ odd → regs.tmrErrorId inp hart = false := by
    intro hart healthy
    rw [errorId, voted]
    exact tmrVoter_spares agreeInstr agreeData true healthy
  have names : regs.tmrErrorId inp odd = true →
      ∀ hart, regs.tmrErrorId inp hart = decide (hart = odd) := by
    intro named hart
    by_cases same : hart = odd
    · simp [same, named]
    · simp [same, spares hart same]
  have flagged : regs.tmrErrorId inp odd =
      (voterDisagrees instr (inp.hartReq odd).instr true ||
        voterDisagrees data (inp.hartReq odd).data true) := by
    rw [errorId, voted]
    exact tmrVoter_errorId agreeInstr agreeData true odd
  have raised : regs.tmrError inp =
      ((voterDisagrees instr (inp.hartReq odd).instr true && instr.req) ||
        (voterDisagrees data (inp.hartReq odd).data true && data.req)) := by
    rw [error, voted]
    exact tmrVoter_error agreeInstr agreeData true
  have instrVote : (regs.voter inp master).instr = instr := by
    rw [voted]
    exact votedReq_of_agreement _ instr odd agreeInstr
  have dataVote : (regs.voter inp master).data = data := by
    rw [voted]
    exact votedReq_of_agreement _ data odd agreeData
  refine ⟨spares, ?_, ?_, ?_, fun index other => cycle.voter_other other⟩
  · intro requests deviates
    rw [instrVote] at requests
    have disagrees := voterDisagrees_of_deviates requests deviates
    exact ⟨by simp [raised, disagrees, requests], names (by simp [flagged, disagrees])⟩
  · intro requests deviates
    rw [dataVote] at requests
    have disagrees := voterDisagrees_of_deviates requests deviates
    exact ⟨by simp [raised, disagrees, requests], names (by simp [flagged, disagrees])⟩
  · intro sameInstr sameData
    rw [sameInstr, sameData, voterDisagrees_self, voterDisagrees_self] at flagged raised
    refine ⟨raised, fun hart => ?_⟩
    by_cases same : hart = odd
    · rw [same]
      exact flagged
    · exact spares hart same

/-- Three harts write, hart 1 another value than the others, and idle on the
instruction bus. -/
def oddWrite : WrapperIn where
  mode := ⟨true, false, false, fun _ => false, fun _ => false⟩
  hartReq hart :=
    { instr := .zero
      coreData := .zero
      data := ⟨true, true, 0xF, 0x100, if hart = 1 then 7 else 5⟩ }
  instrResp := fun _ => .zero
  dataResp := fun _ => .zero
  intr := fun _ => 0
  debugReq := fun _ => false
  masterCore := oneHot 0
  sleep := fun _ => false

theorem oddWrite_blamed :
    (WrapperRegs.reset 0).tmrError oddWrite = true ∧
      ∀ hart, (WrapperRegs.reset 0).tmrErrorId oddWrite hart = decide (hart = 1) := by
  have cycle : VotingCycle 0 (WrapperRegs.reset 0) oddWrite := ⟨rfl, rfl, rfl⟩
  have blamed := voters_blame_exactly_the_odd_hart 1 cycle .zero
    ⟨true, true, 0xF, 0x100, 5⟩ (fun _ _ => rfl) (fun hart other => by simp [oddWrite, other])
  exact blamed.2.2.1 rfl (by decide)

end Eros
