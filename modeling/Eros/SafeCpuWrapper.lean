import Eros.LockstepReg
import Eros.TmrVoter

/-!
# `safe_cpu_wrapper`: request and response steering

The muxes between the three harts and the three bus port pairs, the voters, the
comparators with their lockstep registers, the isolation stub and the delay of
the checker's interrupt and debug lines.  The instruction and the data network
are the same circuit; each mux is one definition used for both.

The steering signals come from `safe_FSM`; the requests of a hart are those of
its core (`core_instr_req`, `core_data_req`) and the system side of its private
data crossbar (`mux_core_data_req_i`).  The registers are those of the wrapper
itself; harts, bus and state machine are outside.
-/

set_option autoImplicit false

namespace Eros

/-- The outputs of `safe_FSM` that steer the muxes. -/
structure ModeSignals where
  tmrVoterEnable : Bool
  dualMode : Bool
  delayed : Bool
  dmrConfig : HartWires
  dmrWfi : HartWires

structure HartReq where
  instr : ObiReq
  /-- `core_data_req`, before the private crossbar -/
  coreData : ObiReq
  /-- `mux_core_data_req_i`, the system side of the private crossbar -/
  data : ObiReq

/-- Everything the wrapper's registers and muxes see in one cycle. -/
structure WrapperIn where
  mode : ModeSignals
  hartReq : Hart → HartReq
  instrResp : Hart → ObiResp
  dataResp : Hart → ObiResp
  intr : Hart → Word
  debugReq : HartWires
  masterCore : HartWires
  sleep : HartWires

/-- The two registers of one isolation stub. -/
structure IsolateRegs where
  validQ : Bool
  expectedRvalid : Bool

/-- The registers of the wrapper with `NCYCLES = n + 1`. -/
structure WrapperRegs (n : Nat) where
  masterCoreFf : HartWires
  sleepFf : HartWires
  instrIsolate : Hart → IsolateRegs
  dataIsolate : Hart → IsolateRegs
  lockstep : Hart → LockstepReg n
  intrFf : Fin (n + 1) → Word
  debugReqFf : Fin (n + 1) → Bool

/-! ## Request muxes -/

/-- `eros_upper_demux`: output `target` of hart `source`'s demux.  In a
protected mode every hart is steered to the latched master's column, otherwise
to its own. -/
def upperMux (master : HartWires) (mode : ModeSignals) (request : Hart → ObiReq)
    (source target : Hart) : ObiReq :=
  if master 2 && (mode.dualMode || mode.tmrVoterEnable) then
    if target = 2 then request source else .zero
  else if master 1 && (mode.dualMode || mode.tmrVoterEnable) then
    if target = 1 then request source else .zero
  else if master 0 && (mode.dualMode || mode.tmrVoterEnable) then
    if target = 0 then request source else .zero
  else
    if target = source then request source else .zero

/-- The two inputs of comparator `index`. -/
def dmrCoreReq (dmrConfig : HartWires) (upper : Hart → Hart → ObiReq) (index : Hart) : ReqPair :=
  match index with
  | 0 => ⟨upper 0 0, if dmrConfig 1 then upper 1 0 else upper 2 0⟩
  | 1 => ⟨upper 1 1, if dmrConfig 0 then upper 0 1 else upper 2 1⟩
  | 2 => ⟨upper 2 2, if dmrConfig 1 then upper 1 2 else upper 0 2⟩

/-- `eros_lockstep_mux_reg`. -/
def lockstepMux (mode : ModeSignals) (delayedPair directPair : ReqPair) : ReqPair :=
  if mode.delayed && mode.dualMode then delayedPair
  else if mode.dualMode then directPair
  else ⟨.zero, .zero⟩

/-- `eros_lower_mux_obi_req`: what bus port `port` drives. -/
def lowerMux (master : HartWires) (mode : ModeSignals) (voted compared own : ObiReq)
    (port : Hart) : ObiReq :=
  if master port && mode.tmrVoterEnable && !mode.dualMode then voted
  else if master port && !mode.tmrVoterEnable && mode.dualMode then compared
  else own

/-! ## Response muxes -/

/-- `eros_lower_mux_obi_resp`, output 0: straight to the harts. -/
def lowerRespDirect (mode : ModeSignals) (resp : ObiResp) : ObiResp :=
  if mode.delayed && mode.dualMode then .zero else resp

/-- `eros_lower_mux_obi_resp`, output 1: to the lockstep registers. -/
def lowerRespDelayed (mode : ModeSignals) (resp : ObiResp) : ObiResp :=
  if mode.delayed && mode.dualMode then resp else .zero

/-- `eros_upper_mux_obi_resp` for hart `hart`. -/
def upperRespMux (master : HartWires) (mode : ModeSignals) (isolated : ObiResp)
    (direct : Hart → ObiResp) (delayedResp : Hart → RespPair) (hart : Hart) : ObiResp :=
  if mode.dmrWfi hart then isolated
  else if master 0 && !mode.delayed &&
      (mode.tmrVoterEnable || (mode.dualMode && mode.dmrConfig hart)) then direct 0
  else if master 1 && !mode.delayed &&
      (mode.tmrVoterEnable || (mode.dualMode && mode.dmrConfig hart)) then direct 1
  else if master 2 && !mode.delayed &&
      (mode.tmrVoterEnable || (mode.dualMode && mode.dmrConfig hart)) then direct 2
  else if master hart && mode.dualMode && mode.delayed then (delayedResp hart).master
  else if !master hart && mode.dualMode && mode.delayed && mode.dmrConfig hart then
    if master 0 then (delayedResp 0).slave
    else if master 1 then (delayedResp 1).slave
    else (delayedResp 2).slave
  else direct hart

/-- `isolate_core_*_resp`: every request is granted and answered. -/
def isolateResp (regs : IsolateRegs) (request : ObiReq) (rdata : Word) : ObiResp where
  gnt := request.req
  rvalid := regs.validQ || regs.expectedRvalid
  rdata := rdata

/-- `isolate_obi_bus_*`: outside isolation the stub remembers a granted request
whose answer is still due. -/
def isolateNext (regs : IsolateRegs) (wfi : Bool) (request : ObiReq) (resp : ObiResp) :
    IsolateRegs :=
  if wfi then ⟨request.req, false⟩
  else ⟨false, (request.req && resp.gnt) || (regs.expectedRvalid && !resp.rvalid)⟩

/-! ## The wrapper -/

namespace WrapperRegs
variable {n : Nat} (regs : WrapperRegs n) (inp : WrapperIn)

def reset (n : Nat) : WrapperRegs n where
  masterCoreFf := oneHot 0
  sleepFf := fun _ => false
  instrIsolate := fun _ => ⟨false, false⟩
  dataIsolate := fun _ => ⟨false, false⟩
  lockstep := fun _ => .reset n
  intrFf := fun _ => 0
  debugReqFf := fun _ => false

def upperInstr : Hart → Hart → ObiReq :=
  upperMux regs.masterCoreFf inp.mode fun hart => (inp.hartReq hart).instr

def upperData : Hart → Hart → ObiReq :=
  upperMux regs.masterCoreFf inp.mode fun hart => (inp.hartReq hart).data

/-- `tmr_voter0_i` to `tmr_voter2_i`. -/
def voter (index : Hart) : VoterOut :=
  tmrVoter (fun source => regs.upperInstr inp source index)
    (fun source => regs.upperData inp source index)
    (inp.mode.tmrVoterEnable && regs.masterCoreFf index)

def dmrInstr (index : Hart) : ReqPair := dmrCoreReq inp.mode.dmrConfig (regs.upperInstr inp) index
def dmrData (index : Hart) : ReqPair := dmrCoreReq inp.mode.dmrConfig (regs.upperData inp) index

def presentedInstr (index : Hart) : ReqPair :=
  lockstepMux inp.mode ((regs.lockstep index).instrReqO (regs.dmrInstr inp index))
    (regs.dmrInstr inp index)

def presentedData (index : Hart) : ReqPair :=
  lockstepMux inp.mode ((regs.lockstep index).dataReqO (regs.dmrData inp index))
    (regs.dmrData inp index)

def comparator (index : Hart) : ComparatorOut :=
  dmrComparator (regs.presentedInstr inp index) (regs.presentedData inp index)

def coreInstrReqO (port : Hart) : ObiReq :=
  lowerMux regs.masterCoreFf inp.mode (regs.voter inp port).instr (regs.comparator inp port).instr
    (regs.upperInstr inp port port) port

def coreDataReqO (port : Hart) : ObiReq :=
  lowerMux regs.masterCoreFf inp.mode (regs.voter inp port).data (regs.comparator inp port).data
    (regs.upperData inp port port) port

def tmrError : Bool :=
  (regs.voter inp 0).error || (regs.voter inp 1).error || (regs.voter inp 2).error

def tmrErrorId : HartWires := fun hart =>
  (regs.voter inp 0).errorId hart || (regs.voter inp 1).errorId hart ||
    (regs.voter inp 2).errorId hart

def dmrError : HartWires := fun index => (regs.comparator inp index).error

def delayedInstrResp (index : Hart) : RespPair :=
  (regs.lockstep index).instrRespO (regs.dmrInstr inp index)
    (lowerRespDelayed inp.mode (inp.instrResp index))

def delayedDataResp (index : Hart) : RespPair :=
  (regs.lockstep index).dataRespO (regs.dmrData inp index)
    (lowerRespDelayed inp.mode (inp.dataResp index))

/-- `core_instr_resp`.  The isolation stub answers every fetch with `wfi`. -/
def coreInstrResp (hart : Hart) : ObiResp :=
  upperRespMux regs.masterCoreFf inp.mode
    (isolateResp (regs.instrIsolate hart) (inp.hartReq hart).instr 0x10500073#32)
    (fun port => lowerRespDirect inp.mode (inp.instrResp port)) (regs.delayedInstrResp inp) hart

def muxCoreDataResp (hart : Hart) : ObiResp :=
  upperRespMux regs.masterCoreFf inp.mode
    (isolateResp (regs.dataIsolate hart) (inp.hartReq hart).coreData 0#32)
    (fun port => lowerRespDirect inp.mode (inp.dataResp port)) (regs.delayedDataResp inp) hart

/-- `eros_signals_mux_reg`: a line of the checker comes out of the delay. -/
def signalMux {α : Type} (direct : Hart → α) (late : α) (hart : Hart) : α :=
  if inp.mode.delayed && inp.mode.dualMode then
    if regs.masterCoreFf hart then direct hart
    else if inp.mode.dmrConfig hart && regs.masterCoreFf 0 then late
    else if inp.mode.dmrConfig hart && regs.masterCoreFf 1 then late
    else if inp.mode.dmrConfig hart && regs.masterCoreFf 2 then late
    else direct hart
  else direct hart

/-- `eros_lockstep_input_signals_mux_reg`: the checker's line enters the delay. -/
def delayedSignal {α : Type} (direct : Hart → α) (idle : α) : α :=
  if inp.mode.delayed && inp.mode.dualMode then
    if !regs.masterCoreFf 0 && inp.mode.dmrConfig 0 then direct 0
    else if !regs.masterCoreFf 1 && inp.mode.dmrConfig 1 then direct 1
    else direct 2
  else idle

def coreIntr (hart : Hart) : Word := regs.signalMux inp inp.intr (regs.intrFf (Fin.last n)) hart

def coreDebugReq (hart : Hart) : Bool :=
  regs.signalMux inp inp.debugReq (regs.debugReqFf (Fin.last n)) hart

/-- The clock edge of every register of the wrapper. -/
def next : WrapperRegs n where
  masterCoreFf :=
    if inp.sleep = fun _ => true then inp.masterCore else regs.masterCoreFf
  sleepFf := inp.sleep
  instrIsolate := fun hart =>
    isolateNext (regs.instrIsolate hart) (inp.mode.dmrWfi hart) (inp.hartReq hart).instr
      (regs.coreInstrResp inp hart)
  dataIsolate := fun hart =>
    isolateNext (regs.dataIsolate hart) (inp.mode.dmrWfi hart) (inp.hartReq hart).coreData
      (regs.muxCoreDataResp inp hart)
  lockstep := fun index =>
    (regs.lockstep index).next
      (inp.mode.delayed && inp.mode.dualMode && !inp.mode.dmrWfi index)
      (regs.dmrInstr inp index) (regs.dmrData inp index)
      (lowerRespDelayed inp.mode (inp.instrResp index))
      (lowerRespDelayed inp.mode (inp.dataResp index))
  intrFf :=
    if inp.mode.delayed && inp.mode.dualMode then
      DelayLine.shift (regs.delayedSignal inp inp.intr 0) regs.intrFf
    else regs.intrFf
  debugReqFf :=
    if inp.mode.delayed && inp.mode.dualMode then
      DelayLine.shift (regs.delayedSignal inp inp.debugReq false) regs.debugReqFf
    else regs.debugReqFf

end WrapperRegs

end Eros
