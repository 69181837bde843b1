import Eros.HartMachine

/-!
# One cycle of a protected mode

What the muxes of the wrapper are in a protected mode with a one-hot latched
master.  Every hart is steered to the master's column; a voted cycle drives the
vote from the master's port and answers every hart from it; a compared cycle
drives the comparator of the master's index, which sees the two harts of the
mask.
-/

set_option autoImplicit false

namespace Eros

/-! ## Steering with a one-hot master -/

theorem upperMux_of_protected (mode : ModeSignals) (request : Hart → ObiReq)
    (master source target : Hart) (protected_ : (mode.dualMode || mode.tmrVoterEnable) = true) :
    upperMux (oneHot master) mode request source target =
      if target = master then request source else .zero := by
  fin_cases master <;> simp [upperMux, oneHot, protected_]

theorem upperRespMux_of_undelayed (mode : ModeSignals) (isolated : ObiResp)
    (direct : Hart → ObiResp) (delayedResp : Hart → RespPair) (master hart : Hart)
    (awake : mode.dmrWfi hart = false) (undelayed : mode.delayed = false)
    (grouped : (mode.tmrVoterEnable || (mode.dualMode && mode.dmrConfig hart)) = true) :
    upperRespMux (oneHot master) mode isolated direct delayedResp hart = direct master := by
  have groupedTrue : (mode.tmrVoterEnable = true ∨
      (mode.dualMode = true ∧ mode.dmrConfig hart = true)) := by simpa using grouped
  fin_cases master <;> simp [upperRespMux, oneHot, awake, undelayed, groupedTrue]

/-! ## The TMR cycle -/

/-- One cycle of triple modular redundancy with latched master `master`. -/
structure TmrCycle {n : Nat} (master : Hart) (regs : WrapperRegs n) (inp : WrapperIn) : Prop where
  latched : regs.masterCoreFf = oneHot master
  voting : inp.mode.tmrVoterEnable = true
  notComparing : inp.mode.dualMode = false
  undelayed : inp.mode.delayed = false
  awake : inp.mode.dmrWfi = fun _ => false

namespace TmrCycle
variable {n : Nat} {master : Hart} {regs : WrapperRegs n} {inp : WrapperIn}

theorem upperInstr (cycle : TmrCycle master regs inp) (source target : Hart) :
    regs.upperInstr inp source target =
      if target = master then (inp.hartReq source).instr else .zero := by
  unfold WrapperRegs.upperInstr
  rw [cycle.latched]
  exact upperMux_of_protected _ _ _ _ _ (by simp [cycle.voting])

theorem upperData (cycle : TmrCycle master regs inp) (source target : Hart) :
    regs.upperData inp source target =
      if target = master then (inp.hartReq source).data else .zero := by
  unfold WrapperRegs.upperData
  rw [cycle.latched]
  exact upperMux_of_protected _ _ _ _ _ (by simp [cycle.voting])

theorem coreReqO_master (cycle : TmrCycle master regs inp) :
    regs.coreInstrReqO inp master = votedReq (fun hart => (inp.hartReq hart).instr) ∧
      regs.coreDataReqO inp master = votedReq (fun hart => (inp.hartReq hart).data) := by
  constructor <;>
    simp [WrapperRegs.coreInstrReqO, WrapperRegs.coreDataReqO, lowerMux, WrapperRegs.voter,
      tmrVoter, cycle.upperInstr, cycle.upperData, cycle.latched, cycle.voting,
      cycle.notComparing]

theorem coreReqO_other (cycle : TmrCycle master regs inp) (port : Hart) (other : port ≠ master) :
    regs.coreInstrReqO inp port = .zero ∧ regs.coreDataReqO inp port = .zero := by
  constructor <;>
    simp [WrapperRegs.coreInstrReqO, WrapperRegs.coreDataReqO, lowerMux, cycle.upperInstr,
      cycle.upperData, cycle.latched, oneHot_of_ne other, other]

theorem hartIn_eq (cycle : TmrCycle master regs inp) (hart : Hart) :
    regs.hartIn inp hart =
      ⟨inp.instrResp master, inp.dataResp master, inp.intr hart, inp.debugReq hart⟩ := by
  have awake : inp.mode.dmrWfi hart = false := by rw [cycle.awake]
  have instrResp : regs.coreInstrResp inp hart = inp.instrResp master := by
    unfold WrapperRegs.coreInstrResp
    rw [cycle.latched, upperRespMux_of_undelayed _ _ _ _ _ _ awake cycle.undelayed
      (by simp [cycle.voting])]
    simp [lowerRespDirect, cycle.undelayed]
  have dataResp : regs.muxCoreDataResp inp hart = inp.dataResp master := by
    unfold WrapperRegs.muxCoreDataResp
    rw [cycle.latched, upperRespMux_of_undelayed _ _ _ _ _ _ awake cycle.undelayed
      (by simp [cycle.voting])]
    simp [lowerRespDirect, cycle.undelayed]
  simp [WrapperRegs.hartIn, instrResp, dataResp, WrapperRegs.coreIntr, WrapperRegs.coreDebugReq,
    WrapperRegs.signalMux, cycle.undelayed]

end TmrCycle

/-! ## The DMR cycle -/

/-- The pair mask of two harts. -/
def pairMask (master slave : Hart) : HartWires :=
  fun hart => decide (hart = master) || decide (hart = slave)

/-- One cycle of dual modular redundancy, delayed or not, with latched master
`master` and checker `slave`. -/
structure DmrCycle {n : Nat} (master slave : Hart) (regs : WrapperRegs n) (inp : WrapperIn) :
    Prop where
  latched : regs.masterCoreFf = oneHot master
  comparing : inp.mode.dualMode = true
  notVoting : inp.mode.tmrVoterEnable = false
  paired : inp.mode.dmrConfig = pairMask master slave
  awake : inp.mode.dmrWfi = fun _ => false

/-- For each of the three masters and either partner, comparator `master` is
wired to column `master` of the two harts of the mask. -/
theorem dmrCoreReq_of_pair {master slave : Hart} (distinct : slave ≠ master)
    (upper : Hart → Hart → ObiReq) :
    dmrCoreReq (pairMask master slave) upper master =
      ⟨upper master master, upper slave master⟩ := by
  fin_cases master <;> fin_cases slave <;> first | exact absurd rfl distinct | rfl

namespace DmrCycle
variable {n : Nat} {master slave : Hart} {regs : WrapperRegs n} {inp : WrapperIn}

theorem upper_mux (cycle : DmrCycle master slave regs inp) (request : Hart → ObiReq)
    (source target : Hart) :
    upperMux regs.masterCoreFf inp.mode request source target =
      if target = master then request source else .zero := by
  rw [cycle.latched]
  exact upperMux_of_protected _ _ _ _ _ (by simp [cycle.comparing])

theorem dmrInstr_eq (cycle : DmrCycle master slave regs inp) (distinct : slave ≠ master) :
    regs.dmrInstr inp master = ⟨(inp.hartReq master).instr, (inp.hartReq slave).instr⟩ := by
  unfold WrapperRegs.dmrInstr WrapperRegs.upperInstr
  rw [cycle.paired, dmrCoreReq_of_pair distinct, cycle.upper_mux, cycle.upper_mux]
  simp

theorem dmrData_eq (cycle : DmrCycle master slave regs inp) (distinct : slave ≠ master) :
    regs.dmrData inp master = ⟨(inp.hartReq master).data, (inp.hartReq slave).data⟩ := by
  unfold WrapperRegs.dmrData WrapperRegs.upperData
  rw [cycle.paired, dmrCoreReq_of_pair distinct, cycle.upper_mux, cycle.upper_mux]
  simp

theorem presentedInstr_eq (cycle : DmrCycle master slave regs inp) (distinct : slave ≠ master) :
    regs.presentedInstr inp master =
      ⟨if inp.mode.delayed then (regs.lockstep master).instrReq.head
        else (inp.hartReq master).instr, (inp.hartReq slave).instr⟩ := by
  unfold WrapperRegs.presentedInstr lockstepMux
  rw [cycle.dmrInstr_eq distinct]
  by_cases delayed : inp.mode.delayed = true
  · simp [delayed, cycle.comparing, LockstepReg.instrReqO, ObiPipelinedDelay.reqO_eq_head]
  · simp [delayed, cycle.comparing]

theorem presentedData_eq (cycle : DmrCycle master slave regs inp) (distinct : slave ≠ master) :
    regs.presentedData inp master =
      if inp.mode.delayed then
        ⟨(regs.lockstep master).dataReq.head, (inp.hartReq slave).data.gateWe⟩
      else ⟨(inp.hartReq master).data, (inp.hartReq slave).data⟩ := by
  unfold WrapperRegs.presentedData lockstepMux
  rw [cycle.dmrData_eq distinct]
  by_cases delayed : inp.mode.delayed = true
  · simp [delayed, cycle.comparing, LockstepReg.dataReqO, ObiPipelinedDelay.reqO_eq_head]
  · simp [delayed, cycle.comparing]

theorem coreReqO_master (cycle : DmrCycle master slave regs inp) :
    regs.coreInstrReqO inp master = (regs.comparator inp master).instr ∧
      regs.coreDataReqO inp master = (regs.comparator inp master).data := by
  constructor <;>
    simp [WrapperRegs.coreInstrReqO, WrapperRegs.coreDataReqO, lowerMux, cycle.latched,
      cycle.notVoting, cycle.comparing]

theorem coreReqO_other (cycle : DmrCycle master slave regs inp) (port : Hart)
    (other : port ≠ master) :
    regs.coreInstrReqO inp port = .zero ∧ regs.coreDataReqO inp port = .zero := by
  have instr : regs.upperInstr inp port port = .zero := by
    unfold WrapperRegs.upperInstr
    rw [cycle.upper_mux, if_neg other]
  have data : regs.upperData inp port port = .zero := by
    unfold WrapperRegs.upperData
    rw [cycle.upper_mux, if_neg other]
  constructor <;>
    simp [WrapperRegs.coreInstrReqO, WrapperRegs.coreDataReqO, lowerMux, cycle.latched,
      oneHot_of_ne other, instr, data]

theorem agree_of_drives (cycle : DmrCycle master slave regs inp)
    (drives : (regs.coreInstrReqO inp master).req = true ∨
      (regs.coreDataReqO inp master).req = true) :
    (regs.presentedInstr inp master).Agree ∧ (regs.presentedData inp master).Agree := by
  obtain ⟨instr, data⟩ := cycle.coreReqO_master
  rw [instr, data] at drives
  have quiet := dmrComparator_error_of_req _ _ drives
  exact (dmrComparator_error_eq_false_iff _ _).mp quiet

theorem silent_of_disagreement (cycle : DmrCycle master slave regs inp)
    (disagree : ¬((regs.presentedInstr inp master).Agree ∧
      (regs.presentedData inp master).Agree)) :
    regs.coreInstrReqO inp master = .zero ∧ regs.coreDataReqO inp master = .zero ∧
      regs.dmrError inp master = true := by
  have raised : (regs.comparator inp master).error = true := by
    rw [← Bool.not_eq_false]
    intro quiet
    exact disagree ((dmrComparator_error_eq_false_iff _ _).mp quiet)
  obtain ⟨instr, data⟩ := cycle.coreReqO_master
  obtain ⟨instrZero, dataZero⟩ := dmrComparator_silent _ _ raised
  exact ⟨instr.trans instrZero, data.trans dataZero, raised⟩

/-! ### Delayed lockstep

With `Delayed_o` the pair is answered through the lockstep registers of the
master's index. -/

theorem upperRespMux_master (cycle : DmrCycle master slave regs inp)
    (delayed : inp.mode.delayed = true) (isolated : ObiResp) (direct : Hart → ObiResp)
    (delayedResp : Hart → RespPair) :
    upperRespMux regs.masterCoreFf inp.mode isolated direct delayedResp master =
      (delayedResp master).master := by
  simp [upperRespMux, cycle.awake, cycle.latched, cycle.comparing, delayed]

theorem upperRespMux_slave (cycle : DmrCycle master slave regs inp) (distinct : slave ≠ master)
    (delayed : inp.mode.delayed = true) (isolated : ObiResp) (direct : Hart → ObiResp)
    (delayedResp : Hart → RespPair) :
    upperRespMux regs.masterCoreFf inp.mode isolated direct delayedResp slave =
      (delayedResp master).slave := by
  have grouped : pairMask master slave slave = true := by simp [pairMask]
  simp only [upperRespMux, cycle.awake, cycle.latched, cycle.comparing, delayed, cycle.paired,
    grouped, oneHot_of_ne distinct]
  fin_cases master <;> simp [oneHot]

theorem signalMux_master {α : Type} (cycle : DmrCycle master slave regs inp)
    (direct : Hart → α) (late : α) : regs.signalMux inp direct late master = direct master := by
  simp [WrapperRegs.signalMux, cycle.latched]

theorem signalMux_slave {α : Type} (cycle : DmrCycle master slave regs inp)
    (distinct : slave ≠ master) (delayed : inp.mode.delayed = true)
    (direct : Hart → α) (late : α) : regs.signalMux inp direct late slave = late := by
  have grouped : pairMask master slave slave = true := by simp [pairMask]
  simp only [WrapperRegs.signalMux, cycle.latched, cycle.comparing, delayed, cycle.paired, grouped,
    oneHot_of_ne distinct]
  fin_cases master <;> simp [oneHot]

theorem delayedSignal_eq {α : Type} (cycle : DmrCycle master slave regs inp)
    (distinct : slave ≠ master) (delayed : inp.mode.delayed = true)
    (direct : Hart → α) (idle : α) : regs.delayedSignal inp direct idle = direct slave := by
  simp only [WrapperRegs.delayedSignal, cycle.latched, cycle.comparing, delayed, cycle.paired]
  fin_cases master <;> fin_cases slave <;> first | exact absurd rfl distinct | rfl

theorem lowerRespDelayed_eq (cycle : DmrCycle master slave regs inp)
    (delayed : inp.mode.delayed = true) (resp : ObiResp) :
    lowerRespDelayed inp.mode resp = resp := by
  simp [lowerRespDelayed, cycle.comparing, delayed]

theorem hartIn_master (cycle : DmrCycle master slave regs inp) (distinct : slave ≠ master)
    (delayed : inp.mode.delayed = true) :
    regs.hartIn inp master =
      { instrResp := ⟨(regs.lockstep master).instrReq.gntO (inp.hartReq master).instr
          (inp.instrResp master).gnt, (inp.instrResp master).rvalid, (inp.instrResp master).rdata⟩
        dataResp := ⟨(regs.lockstep master).dataReq.gntO (inp.hartReq master).data
          (inp.dataResp master).gnt, (inp.dataResp master).rvalid, (inp.dataResp master).rdata⟩
        intr := inp.intr master
        debugReq := inp.debugReq master } := by
  unfold WrapperRegs.hartIn WrapperRegs.coreInstrResp WrapperRegs.muxCoreDataResp
    WrapperRegs.coreIntr WrapperRegs.coreDebugReq WrapperRegs.delayedInstrResp
    WrapperRegs.delayedDataResp
  rw [cycle.upperRespMux_master delayed, cycle.upperRespMux_master delayed,
    cycle.signalMux_master, cycle.signalMux_master, cycle.lowerRespDelayed_eq delayed,
    cycle.lowerRespDelayed_eq delayed, cycle.dmrInstr_eq distinct, cycle.dmrData_eq distinct]
  rfl

theorem hartIn_slave (cycle : DmrCycle master slave regs inp) (distinct : slave ≠ master)
    (delayed : inp.mode.delayed = true) :
    regs.hartIn inp slave =
      { instrResp := ⟨(inp.instrResp master).gnt, (regs.lockstep master).instrRvalid (Fin.last n),
          (regs.lockstep master).instrRdata (Fin.last n)⟩
        dataResp := ⟨(inp.dataResp master).gnt, (regs.lockstep master).dataRvalid (Fin.last n),
          (regs.lockstep master).dataRdata (Fin.last n)⟩
        intr := regs.intrFf (Fin.last n)
        debugReq := regs.debugReqFf (Fin.last n) } := by
  unfold WrapperRegs.hartIn WrapperRegs.coreInstrResp WrapperRegs.muxCoreDataResp
    WrapperRegs.coreIntr WrapperRegs.coreDebugReq WrapperRegs.delayedInstrResp
    WrapperRegs.delayedDataResp
  rw [cycle.upperRespMux_slave distinct delayed, cycle.upperRespMux_slave distinct delayed,
    cycle.signalMux_slave distinct delayed, cycle.signalMux_slave distinct delayed,
    cycle.lowerRespDelayed_eq delayed, cycle.lowerRespDelayed_eq delayed]
  rfl

theorem next_lockstep (cycle : DmrCycle master slave regs inp) (distinct : slave ≠ master)
    (delayed : inp.mode.delayed = true) :
    (regs.next inp).lockstep master =
      (regs.lockstep master).next true
        ⟨(inp.hartReq master).instr, (inp.hartReq slave).instr⟩
        ⟨(inp.hartReq master).data, (inp.hartReq slave).data⟩
        (inp.instrResp master) (inp.dataResp master) := by
  change (regs.lockstep master).next
      (inp.mode.delayed && inp.mode.dualMode && !inp.mode.dmrWfi master)
      (regs.dmrInstr inp master) (regs.dmrData inp master)
      (lowerRespDelayed inp.mode (inp.instrResp master))
      (lowerRespDelayed inp.mode (inp.dataResp master)) = _
  rw [cycle.dmrInstr_eq distinct, cycle.dmrData_eq distinct, cycle.lowerRespDelayed_eq delayed,
    cycle.lowerRespDelayed_eq delayed, delayed, cycle.comparing, cycle.awake]
  rfl

theorem next_signals (cycle : DmrCycle master slave regs inp) (distinct : slave ≠ master)
    (delayed : inp.mode.delayed = true) :
    (regs.next inp).intrFf = DelayLine.shift (inp.intr slave) regs.intrFf ∧
      (regs.next inp).debugReqFf = DelayLine.shift (inp.debugReq slave) regs.debugReqFf := by
  simp only [WrapperRegs.next]
  rw [cycle.delayedSignal_eq distinct delayed, cycle.delayedSignal_eq distinct delayed, delayed,
    cycle.comparing]
  exact ⟨rfl, rfl⟩

end DmrCycle

end Eros
