import Eros.DelayFifo
import Eros.Lib.Outstanding
import Eros.ModeCycle
import Eros.SafeSystem
import Mathlib.Algebra.BigOperators.Fin

/-!
# Where a hart's responses come from

In each cycle the response mux of a hart selects one of four lines: a bus port,
the two ends of the lockstep registers of an index, or the isolation stub.  The
instruction and the data network are the same circuit, seen here through one
structure with the wires and registers that grants and `rvalid` depend on.
-/

set_option autoImplicit false

namespace Eros

open Outstanding

/-- One network of the wrapper in one cycle. -/
structure Network (n : Nat) where
  master : HartWires
  mode : ModeSignals
  /-- the request of the core, before the private crossbar -/
  coreReq : Hart → ObiReq
  /-- the request on the network -/
  request : Hart → ObiReq
  /-- what the bus ports drive -/
  busReq : Hart → ObiReq
  busResp : Hart → ObiResp
  isolate : Hart → IsolateRegs
  delayLine : Hart → ObiPipelinedDelay (n + 1)
  answerLine : Hart → Fin (n + 1) → Bool

namespace WrapperRegs
variable {n : Nat} (regs : WrapperRegs n) (inp : WrapperIn)

def instrNetwork : Network n where
  master := regs.masterCoreFf
  mode := inp.mode
  coreReq := fun hart => (inp.hartReq hart).instr
  request := fun hart => (inp.hartReq hart).instr
  busReq := regs.coreInstrReqO inp
  busResp := inp.instrResp
  isolate := regs.instrIsolate
  delayLine := fun index => (regs.lockstep index).instrReq
  answerLine := fun index => (regs.lockstep index).instrRvalid

def dataNetwork : Network n where
  master := regs.masterCoreFf
  mode := inp.mode
  coreReq := fun hart => (inp.hartReq hart).coreData
  request := fun hart => (inp.hartReq hart).data
  busReq := regs.coreDataReqO inp
  busResp := inp.dataResp
  isolate := regs.dataIsolate
  delayLine := fun index => (regs.lockstep index).dataReq
  answerLine := fun index => (regs.lockstep index).dataRvalid

end WrapperRegs

inductive ResponseLine
  | port (port : Hart)
  | lead (index : Hart)
  | trail (index : Hart)
  | stub
  deriving DecidableEq, Repr

namespace Network
variable {n : Nat} (net : Network n) (hart : Hart)

/-- The line `eros_upper_mux_obi_resp` selects for `hart`. -/
def line : ResponseLine :=
  if net.mode.dmrWfi hart then .stub
  else if net.master 0 && !net.mode.delayed &&
      (net.mode.tmrVoterEnable || (net.mode.dualMode && net.mode.dmrConfig hart)) then .port 0
  else if net.master 1 && !net.mode.delayed &&
      (net.mode.tmrVoterEnable || (net.mode.dualMode && net.mode.dmrConfig hart)) then .port 1
  else if net.master 2 && !net.mode.delayed &&
      (net.mode.tmrVoterEnable || (net.mode.dualMode && net.mode.dmrConfig hart)) then .port 2
  else if net.master hart && net.mode.dualMode && net.mode.delayed then .lead hart
  else if !net.master hart && net.mode.dualMode && net.mode.delayed && net.mode.dmrConfig hart then
    if net.master 0 then .trail 0 else if net.master 1 then .trail 1 else .trail 2
  else .port hart

/-- The request that column `index` presents to its own delay line. -/
def column (index : Hart) : ObiReq := upperMux net.master net.mode net.request index index

def gnt : Bool :=
  match net.line hart with
  | .port port => (lowerRespDirect net.mode (net.busResp port)).gnt
  | .lead index =>
      (net.delayLine index).gntO (net.column index)
        (lowerRespDelayed net.mode (net.busResp index)).gnt
  | .trail index => (lowerRespDelayed net.mode (net.busResp index)).gnt
  | .stub => (net.coreReq hart).req

def rvalid : Bool :=
  match net.line hart with
  | .port port => (lowerRespDirect net.mode (net.busResp port)).rvalid
  | .lead index => (lowerRespDelayed net.mode (net.busResp index)).rvalid
  | .trail index => net.answerLine index (Fin.last n)
  | .stub => (net.isolate hart).validQ || (net.isolate hart).expectedRvalid

def granted : Bool := (net.request hart).req && net.gnt hart

def busGranted (port : Hart) : Bool := (net.busReq port).req && (net.busResp port).gnt

/-- `enable_i` of the lockstep registers of `index`. -/
def lockstepEnable (index : Hart) : Bool :=
  net.mode.delayed && net.mode.dualMode && !net.mode.dmrWfi index

/-- The registers of the network after the cycle. -/
structure Steps (after : Network n) : Prop where
  isolate : ∀ hart,
    after.isolate hart =
      if net.mode.dmrWfi hart then ⟨(net.coreReq hart).req, false⟩
      else ⟨false, ((net.coreReq hart).req && net.gnt hart) ||
        ((net.isolate hart).expectedRvalid && !net.rvalid hart)⟩
  delayLine : ∀ index,
    after.delayLine index =
      (net.delayLine index).next (net.column index)
        (lowerRespDelayed net.mode (net.busResp index)).gnt (!net.lockstepEnable index)
  answerLine : ∀ index,
    after.answerLine index =
      if net.lockstepEnable index then
        DelayLine.shift (lowerRespDelayed net.mode (net.busResp index)).rvalid
          (net.answerLine index)
      else net.answerLine index

end Network

/-! ## The two networks of the wrapper -/

section Wrapper
variable {n : Nat} (regs : WrapperRegs n) (inp : WrapperIn)

theorem dmrCoreReq_master (dmrConfig : HartWires) (upper : Hart → Hart → ObiReq) (index : Hart) :
    (dmrCoreReq dmrConfig upper index).master = upper index index := by
  fin_cases index <;> rfl

theorem upperRespMux_eq_line (net : Network n) (isolated : ObiResp) (direct : Hart → ObiResp)
    (delayedResp : Hart → RespPair) (hart : Hart) :
    upperRespMux net.master net.mode isolated direct delayedResp hart =
      match net.line hart with
      | .port port => direct port
      | .lead index => (delayedResp index).master
      | .trail index => (delayedResp index).slave
      | .stub => isolated := by
  unfold upperRespMux Network.line
  by_cases isolated : net.mode.dmrWfi hart = true
  · rw [if_pos isolated, if_pos isolated]
  rw [if_neg isolated, if_neg isolated]
  split_ifs <;> rfl

/-- A response mux gives `gnt` and `rvalid` of a network whose stub and lockstep
registers it reads. -/
theorem upperRespMux_network (net : Network n) {isolated : ObiResp}
    {delayedResp : Hart → RespPair} {hart : Hart}
    (stub : isolated.gnt = (net.coreReq hart).req ∧
      isolated.rvalid = ((net.isolate hart).validQ || (net.isolate hart).expectedRvalid))
    (lead : ∀ index,
      (delayedResp index).master.gnt = (net.delayLine index).gntO (net.column index)
          (lowerRespDelayed net.mode (net.busResp index)).gnt ∧
        (delayedResp index).master.rvalid = (lowerRespDelayed net.mode (net.busResp index)).rvalid)
    (trail : ∀ index,
      (delayedResp index).slave.gnt = (lowerRespDelayed net.mode (net.busResp index)).gnt ∧
        (delayedResp index).slave.rvalid = net.answerLine index (Fin.last n)) :
    let muxed := upperRespMux net.master net.mode isolated
      (fun port => lowerRespDirect net.mode (net.busResp port)) delayedResp hart
    muxed.gnt = net.gnt hart ∧ muxed.rvalid = net.rvalid hart := by
  intro muxed
  have line : muxed = _ := upperRespMux_eq_line net isolated _ delayedResp hart
  rw [line]
  unfold Network.gnt Network.rvalid
  cases net.line hart with
  | port port => exact ⟨rfl, rfl⟩
  | lead index => exact lead index
  | trail index => exact trail index
  | stub => exact stub

theorem coreInstrResp_network (hart : Hart) :
    (regs.coreInstrResp inp hart).gnt = (regs.instrNetwork inp).gnt hart ∧
      (regs.coreInstrResp inp hart).rvalid = (regs.instrNetwork inp).rvalid hart := by
  apply upperRespMux_network (regs.instrNetwork inp) ⟨rfl, rfl⟩
  · intro index
    simp only [WrapperRegs.delayedInstrResp, LockstepReg.instrRespO, WrapperRegs.dmrInstr,
      dmrCoreReq_master]
    exact ⟨rfl, rfl⟩
  · exact fun _ => ⟨rfl, rfl⟩

theorem muxCoreDataResp_network (hart : Hart) :
    (regs.muxCoreDataResp inp hart).gnt = (regs.dataNetwork inp).gnt hart ∧
      (regs.muxCoreDataResp inp hart).rvalid = (regs.dataNetwork inp).rvalid hart := by
  apply upperRespMux_network (regs.dataNetwork inp) ⟨rfl, rfl⟩
  · intro index
    simp only [WrapperRegs.delayedDataResp, LockstepReg.dataRespO, WrapperRegs.dmrData,
      dmrCoreReq_master]
    exact ⟨rfl, rfl⟩
  · exact fun _ => ⟨rfl, rfl⟩

theorem instrNetwork_steps (inp' : WrapperIn) :
    (regs.instrNetwork inp).Steps ((regs.next inp).instrNetwork inp') where
  isolate hart := by
    obtain ⟨gnt, rvalid⟩ := coreInstrResp_network regs inp hart
    rw [← gnt, ← rvalid]
    rfl
  delayLine index := by
    change (regs.lockstep index).instrReq.next (regs.dmrInstr inp index).master _ _ = _
    rw [WrapperRegs.dmrInstr, dmrCoreReq_master]
    rfl
  answerLine _ := rfl

theorem dataNetwork_steps (inp' : WrapperIn) :
    (regs.dataNetwork inp).Steps ((regs.next inp).dataNetwork inp') where
  isolate hart := by
    obtain ⟨gnt, rvalid⟩ := muxCoreDataResp_network regs inp hart
    rw [← gnt, ← rvalid]
    rfl
  delayLine index := by
    change (regs.lockstep index).dataReq.next (regs.dmrData inp index).master _ _ = _
    rw [WrapperRegs.dmrData, dmrCoreReq_master]
    rfl
  answerLine _ := rfl

end Wrapper

/-! ## The networks of a run -/

namespace SafeSystem
variable {n : Nat} (sys : SafeSystem n) (inp : SystemIn)

def instrNetwork : Network n := sys.wrapper.instrNetwork (sys.wrapperIn inp)
def dataNetwork : Network n := sys.wrapper.dataNetwork (sys.wrapperIn inp)

def instrGranted (hart : Hart) : Bool :=
  (inp.hartReq hart).instr.req && (sys.wrapper.coreInstrResp (sys.wrapperIn inp) hart).gnt

def instrRvalid (hart : Hart) : Bool :=
  (sys.wrapper.coreInstrResp (sys.wrapperIn inp) hart).rvalid

def dataGranted (hart : Hart) : Bool :=
  (inp.hartReq hart).data.req && (sys.wrapper.muxCoreDataResp (sys.wrapperIn inp) hart).gnt

def dataRvalid (hart : Hart) : Bool :=
  (sys.wrapper.muxCoreDataResp (sys.wrapperIn inp) hart).rvalid

theorem instrGranted_eq (hart : Hart) :
    sys.instrGranted inp hart = (sys.instrNetwork inp).granted hart := by
  unfold instrGranted
  rw [(coreInstrResp_network sys.wrapper (sys.wrapperIn inp) hart).1]
  rfl

theorem instrRvalid_eq (hart : Hart) :
    sys.instrRvalid inp hart = (sys.instrNetwork inp).rvalid hart :=
  (coreInstrResp_network sys.wrapper (sys.wrapperIn inp) hart).2

theorem dataGranted_eq (hart : Hart) :
    sys.dataGranted inp hart = (sys.dataNetwork inp).granted hart := by
  unfold dataGranted
  rw [(muxCoreDataResp_network sys.wrapper (sys.wrapperIn inp) hart).1]
  rfl

theorem dataRvalid_eq (hart : Hart) :
    sys.dataRvalid inp hart = (sys.dataNetwork inp).rvalid hart :=
  (muxCoreDataResp_network sys.wrapper (sys.wrapperIn inp) hart).2

end SafeSystem

section Run
variable (n : Nat) (inputs : Nat → SystemIn)

/-- The two networks along a run of the whole wrapper. -/
def instrNetworks (cycle : Nat) : Network n :=
  ((safeSystem n).run inputs cycle).instrNetwork (inputs cycle)

def dataNetworks (cycle : Nat) : Network n :=
  ((safeSystem n).run inputs cycle).dataNetwork (inputs cycle)

theorem instrNetworks_steps (cycle : Nat) :
    (instrNetworks n inputs cycle).Steps (instrNetworks n inputs (cycle + 1)) :=
  instrNetwork_steps _ _ _

theorem dataNetworks_steps (cycle : Nat) :
    (dataNetworks n inputs cycle).Steps (dataNetworks n inputs (cycle + 1)) :=
  dataNetwork_steps _ _ _

end Run

/-! ## The buses -/

/-- One response for each granted request, at least one cycle later. -/
def BusAnswers {n : Nat} (net : Nat → Network n) : Prop :=
  ∀ port, Answered (fun index => (net index).busGranted port)
    fun index => ((net index).busResp port).rvalid

theorem busAnswers_of_silent {n : Nat} {net : Nat → Network n}
    (silent : ∀ cycle, (net cycle).busResp = fun _ => .zero) : BusAnswers net := by
  intro port cycle answered
  have never : ((net cycle).busResp port).rvalid = false := by
    rw [silent cycle]
    rfl
  exact absurd (never.symm.trans answered) (by simp)

end Eros
