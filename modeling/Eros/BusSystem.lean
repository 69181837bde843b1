import Eros.CsrPath
import Eros.DataRuns
import Eros.HartMachine
import Eros.PrivateRegs
import Eros.SystemXbar

/-!
# `bus_system` between the harts and their targets

The demuxes of the harts, the system crossbar with memory and peripherals and the way
to the control registers, wired as in `bus_system`.  Joined to the private crossbars of
the harts, as the wrapper joins them in single mode, its targets grant only what is
requested of them, and a granted access does what the software takes it to do.
-/

set_option autoImplicit false

namespace Eros

open ErosPkg ByteMemory SharedMemory

/-! ## Wires -/

def coreDataIdx : Hart → Fin 7
  | 0 => 1
  | 1 => 3
  | 2 => 5

structure BusSystem (S : Type*) where
  demux : Hart → XbarVarlat 1 2
  xbar : SystemXbar S 7
  csr : CsrPath

structure BusSystemIn where
  coreInstrReqI : Hart → ObiReq
  coreDataReqI : Hart → ObiReq
  extMasterReqI : ObiReq
  extSlaveRespI : ObiResp
  extCsrRegReqI : RegBusReq
  hardware : CtrlIn

namespace BusSystemIn
variable (inp : BusSystemIn) (demuxReq : Hart → Fin 2 → ObiReq)

def intMasterReq : Fin 7 → ObiReq
  | 0 => inp.coreInstrReqI 0
  | 1 => demuxReq 0 demuxIntXbarIdx
  | 2 => inp.coreInstrReqI 1
  | 3 => demuxReq 1 demuxIntXbarIdx
  | 4 => inp.coreInstrReqI 2
  | 5 => demuxReq 2 demuxIntXbarIdx
  | 6 => inp.extMasterReqI

theorem intMasterReq_coreDataIdx (hart : Hart) :
    inp.intMasterReq demuxReq (coreDataIdx hart) = demuxReq hart demuxIntXbarIdx :=
  match hart with
  | 0 => rfl
  | 1 => rfl
  | 2 => rfl

/-- Nothing is assigned to the response of the error slave. -/
def xbarIn : SystemXbarIn 7 := ⟨inp.intMasterReq demuxReq, .zero, inp.extSlaveRespI⟩

def csrIn : CsrPathIn :=
  ⟨fun hart => demuxReq hart demuxSafeCpuRegisterIdx, inp.extCsrRegReqI, inp.hardware⟩

end BusSystemIn

namespace BusSystem
variable {S : Type*} (sram : SramMacro S) (bus : BusSystem S) (inp : BusSystemIn)

/-- `demux_core_data_resp`, while the demuxes request `demuxReq`. -/
def demuxCoreDataResp (demuxReq : Hart → Fin 2 → ObiReq) (hart : Hart) : Fin 2 → ObiResp
  | 0 => bus.xbar.masterRespO sram (inp.xbarIn demuxReq) (coreDataIdx hart)
  | 1 => bus.csr.hartRespO (inp.csrIn demuxReq) hart

def demuxIn (demuxReq : Hart → Fin 2 → ObiReq) (hart : Hart) : XbarVarlatIn 1 2 :=
  oneToN (inp.coreDataReqI hart) (demuxIdx (inp.coreDataReqI hart).addr)
    (bus.demuxCoreDataResp sram inp demuxReq hart)

/-- `demux_core_data_req`: the answers do not depend on the requests of the cycle, and
the requests not on its grants. -/
def demuxCoreDataReq (hart : Hart) (slave : Fin 2) : ObiReq :=
  (bus.demux hart).slaveReqO (bus.demuxIn sram inp (fun _ _ => .zero) hart) slave

def systemIn : SystemXbarIn 7 := inp.xbarIn (bus.demuxCoreDataReq sram inp)

def csrPathIn : CsrPathIn := inp.csrIn (bus.demuxCoreDataReq sram inp)

def coreDataRespO (hart : Hart) : ObiResp :=
  (bus.demux hart).masterRespO (bus.demuxIn sram inp (bus.demuxCoreDataReq sram inp) hart) 0

def next : BusSystem S where
  demux hart := (bus.demux hart).next (bus.demuxIn sram inp (bus.demuxCoreDataReq sram inp) hart)
  xbar := bus.xbar.next sram (bus.systemIn sram inp)
  csr := bus.csr.next (bus.csrPathIn sram inp)

end BusSystem

def busSystem {S : Type*} (sram : SramMacro S) (start : Fin 2 → S) :
    Synchronous.Machine (BusSystem S) BusSystemIn where
  init := ⟨fun _ => .reset 1 2, (systemXbar 7 sram start).init, .reset⟩
  next := BusSystem.next sram

/-! ## The path of a hart -/

section Path
variable {S : Type*} (sram : SramMacro S) (regs : HartRegs) (regsIn : HartRegsIn)
  (bus : BusSystem S) (busIn : BusSystemIn) (hart : Hart)

def dataPathOf : DataPath :=
  ⟨regs.xbar.onlyPort, (bus.demux hart).onlyPort, bus.xbar.xbar.ports (coreDataIdx hart)⟩

def systemSlaveResp (slave : Fin 5) : ObiResp :=
  bus.xbar.intSlaveResp sram (bus.systemIn sram busIn) (bus.xbar.gnt sram (bus.systemIn sram busIn))
    slave

def dataPathIn : DataPathIn where
  req := regsIn.request.req
  addr := regsIn.request.addr
  cpuRegResp := regs.xbarCoreDataResp regsIn (regs.bridgeGnt regsIn) cpuRegIdx
  csrResp := bus.csr.hartRespO (bus.csrPathIn sram busIn) hart
  arbiterGnt slave :=
    bus.xbar.xbar.slGnt (bus.xbar.xbarIn sram (bus.systemIn sram busIn)) slave (coreDataIdx hart)
  peripheralSlaveResp := systemSlaveResp sram bus busIn peripheralIdx
  extSlaveResp := systemSlaveResp sram bus busIn externalPeripheralIdx
  ramResp0 := systemSlaveResp sram bus busIn memoryRam0Idx
  ramResp1 := systemSlaveResp sram bus busIn memoryRam1Idx

/-- The private crossbar of the hart and its port of the bus are wired to each other. -/
structure Joined : Prop where
  request : busIn.coreDataReqI hart = regs.xbarCoreDataReq regsIn erosSystemIdx
  response : regsIn.systemResp = bus.coreDataRespO sram busIn hart

end Path

section Cycle
variable {S : Type*} {sram : SramMacro S} {regs : HartRegs} {regsIn : HartRegsIn}
  {bus : BusSystem S} {busIn : BusSystemIn} {hart : Hart}

/-! Answers come up from the targets, whatever is requested in the cycle. -/

theorem systemXbar_vldI (demuxReq : Hart → Fin 2 → ObiReq) :
    (bus.xbar.xbarIn sram (busIn.xbarIn demuxReq)).vldI =
      DataPath.systemVldI (dataPathIn sram regs regsIn bus busIn hart) := by
  funext slave
  fin_cases slave <;> rfl

theorem systemXbar_rdataI (slave : Fin 5) :
    (bus.xbar.xbarIn sram (bus.systemIn sram busIn)).rdataI slave =
      ((dataPathIn sram regs regsIn bus busIn hart).intSlaveResp slave).rdata := by
  fin_cases slave <;> rfl

variable (regs regsIn) in
theorem demux_rvalid (demuxReq : Hart → Fin 2 → ObiReq) :
    (fun slave => (bus.demuxCoreDataResp sram busIn demuxReq hart slave).rvalid) =
      (dataPathOf regs bus hart).demuxVldI (dataPathIn sram regs regsIn bus busIn hart) := by
  funext slave
  match slave with
  | 0 => exact congrArg (bus.xbar.xbar.ports (coreDataIdx hart)).vldO (systemXbar_vldI demuxReq)
  | 1 => rfl

theorem systemXbar_gntI (slave : Fin 5) :
    (bus.xbar.xbarIn sram (bus.systemIn sram busIn)).gntI slave =
      ((dataPathIn sram regs regsIn bus busIn hart).intSlaveResp slave).gnt := by
  fin_cases slave <;> rfl

theorem systemGntI_eq :
    DataPath.systemGntI (dataPathIn sram regs regsIn bus busIn hart) = fun slave =>
      bus.xbar.xbar.slGnt (bus.xbar.xbarIn sram (bus.systemIn sram busIn)) slave
        (coreDataIdx hart) := by
  funext slave
  change (bus.xbar.xbar.slGnt (bus.xbar.xbarIn sram (bus.systemIn sram busIn)) slave
    (coreDataIdx hart) && ((dataPathIn sram regs regsIn bus busIn hart).intSlaveResp slave).gnt) = _
  rw [← systemXbar_gntI]
  cases granted : bus.xbar.xbar.slGnt (bus.xbar.xbarIn sram (bus.systemIn sram busIn)) slave
      (coreDataIdx hart) with
  | false => rfl
  | true =>
    have passed := slaveGranted_of_slGnt (by decide) granted
    rw [Bool.true_and]
    exact (Bool.and_eq_true_iff.mp passed).2

variable (regs regsIn) in
theorem demux_gnt :
    (fun slave => (bus.demuxCoreDataResp sram busIn (bus.demuxCoreDataReq sram busIn) hart
        slave).gnt) =
      (dataPathOf regs bus hart).demuxGntI (dataPathIn sram regs regsIn bus busIn hart) := by
  funext slave
  match slave with
  | 0 =>
    rw [DataPath.demuxGntI, systemGntI_eq, ← systemXbar_vldI (bus.demuxCoreDataReq sram busIn)]
    rfl
  | 1 => rfl

theorem demux_rdata :
    (bus.demuxCoreDataResp sram busIn (bus.demuxCoreDataReq sram busIn) hart
        (bus.demux hart).onlyPort.bankSelQ).rdata =
      (dataPathOf regs bus hart).demuxRdata (dataPathIn sram regs regsIn bus busIn hart) := by
  rw [DataPath.demuxRdata,
    show (dataPathOf regs bus hart).demuxPort = (bus.demux hart).onlyPort from rfl]
  generalize (bus.demux hart).onlyPort.bankSelQ = slave
  fin_cases slave
  · exact systemXbar_rdataI _
  · rfl

theorem coreDataRespO_eq :
    bus.coreDataRespO sram busIn hart =
      ⟨(dataPathOf regs bus hart).privateGntI (dataPathIn sram regs regsIn bus busIn hart) 0,
        (dataPathOf regs bus hart).privateVldI (dataPathIn sram regs regsIn bus busIn hart) 0,
        (dataPathOf regs bus hart).demuxRdata (dataPathIn sram regs regsIn bus busIn hart)⟩ := by
  rw [BusSystem.coreDataRespO, BusSystem.demuxIn, XbarVarlat.oneToN_masterRespO, demux_gnt regs
    regsIn, demux_rvalid regs regsIn, demux_rdata]
  rfl

variable (joined : Joined sram regs regsIn bus busIn hart)
include joined

/-! The responses of the private crossbar. -/

theorem Joined.vldI :
    regs.vldI regsIn =
      (dataPathOf regs bus hart).privateVldI (dataPathIn sram regs regsIn bus busIn hart) := by
  funext slave
  match slave with
  | 0 =>
    change regsIn.systemResp.rvalid = _
    rw [joined.response, coreDataRespO_eq]
  | 1 => rfl

theorem Joined.gntI :
    (fun slave => (regs.xbarCoreDataResp regsIn (regs.bridgeGnt regsIn) slave).gnt) =
      (dataPathOf regs bus hart).privateGntI (dataPathIn sram regs regsIn bus busIn hart) := by
  funext slave
  match slave with
  | 0 =>
    change regsIn.systemResp.gnt = _
    rw [joined.response, coreDataRespO_eq]
  | 1 => rfl

theorem Joined.coreDataResp :
    regs.coreDataResp regsIn =
      ⟨(dataPathOf regs bus hart).hartGnt (dataPathIn sram regs regsIn bus busIn hart),
        (dataPathOf regs bus hart).hartRvalid (dataPathIn sram regs regsIn bus busIn hart),
        (dataPathOf regs bus hart).hartRdata (dataPathIn sram regs regsIn bus busIn hart)⟩ := by
  have data : (regs.xbarCoreDataResp regsIn (regs.bridgeGnt regsIn)
      regs.xbar.onlyPort.bankSelQ).rdata =
      (dataPathOf regs bus hart).hartRdata (dataPathIn sram regs regsIn bus busIn hart) := by
    change _ = match regs.xbar.onlyPort.bankSelQ with
      | 0 => _
      | 1 => _
    match regs.xbar.onlyPort.bankSelQ with
    | 0 =>
      change regsIn.systemResp.rdata = _
      rw [joined.response, coreDataRespO_eq]
    | 1 => rfl
  rw [HartRegs.coreDataResp, HartRegs.xbarIn, XbarVarlat.oneToN_masterRespO, joined.gntI, vldI_eq,
    joined.vldI, data]
  rfl

/-! Requests go down to the targets. -/

theorem Joined.privateReq (slave : Fin 2) :
    regs.xbarCoreDataReq regsIn slave =
      { regsIn.request with
        req := (dataPathOf regs bus hart).privateReqO
          (dataPathIn sram regs regsIn bus busIn hart) slave } := by
  rw [HartRegs.xbarCoreDataReq, HartRegs.xbarIn, XbarVarlat.oneToN_slaveReqO, vldI_eq, joined.vldI]
  rfl

theorem Joined.demuxReq (slave : Fin 2) :
    bus.demuxCoreDataReq sram busIn hart slave =
      { regsIn.request with
        req := (dataPathOf regs bus hart).demuxReqO
          (dataPathIn sram regs regsIn bus busIn hart) slave } := by
  rw [BusSystem.demuxCoreDataReq, BusSystem.demuxIn, XbarVarlat.oneToN_slaveReqO,
    demux_rvalid regs regsIn, joined.request, joined.privateReq]
  rfl

theorem Joined.masterReq :
    (bus.systemIn sram busIn).masterReqI (coreDataIdx hart) =
      { regsIn.request with
        req := (dataPathOf regs bus hart).demuxReqO
          (dataPathIn sram regs regsIn bus busIn hart) demuxIntXbarIdx } :=
  (busIn.intMasterReq_coreDataIdx _ hart).trans (joined.demuxReq _)

theorem Joined.systemReqO (slave : Fin 5) :
    bus.xbar.xbar.slReq (bus.xbar.xbarIn sram (bus.systemIn sram busIn)) slave
        (coreDataIdx hart) =
      (dataPathOf regs bus hart).systemReqO (dataPathIn sram regs regsIn bus busIn hart) slave := by
  change (bus.xbar.xbar.ports (coreDataIdx hart)).reqO
    ((bus.systemIn sram busIn).masterReqI (coreDataIdx hart)).req
    (portSel ((bus.systemIn sram busIn).masterReqI (coreDataIdx hart)).addr) _ slave = _
  rw [joined.masterReq, DataPath.systemReqO, ← systemXbar_vldI]
  rfl

theorem Joined.targetReq (target : DataTarget) :
    (dataPathOf regs bus hart).targetReq (dataPathIn sram regs regsIn bus busIn hart) target =
      match target with
      | .cpuReg => (regs.xbarCoreDataReq regsIn cpuRegIdx).req
      | .safeCpuRegister => (bus.demuxCoreDataReq sram busIn hart demuxSafeCpuRegisterIdx).req
      | .slave idx => bus.xbar.xbar.slReq (bus.xbar.xbarIn sram (bus.systemIn sram busIn)) idx
          (coreDataIdx hart) := by
  cases target with
  | cpuReg => exact (congrArg ObiReq.req (joined.privateReq _)).symm
  | safeCpuRegister => exact (congrArg ObiReq.req (joined.demuxReq _)).symm
  | slave idx => exact (joined.systemReqO idx).symm

/-- The targets grant the hart only what it requests of them. -/
theorem Joined.grantsRequested :
    GrantsRequested (dataPathOf regs bus hart) (dataPathIn sram regs regsIn bus busIn hart) := by
  intro target granted
  rw [joined.targetReq]
  cases target with
  | cpuReg => exact bridgeGnt_eq.symm.trans granted
  | safeCpuRegister =>
    have arbitrated : (bus.csr.hartsIn (bus.csrPathIn sram busIn)).arbiter.gntO
        (bus.csr.xbar.slReq (bus.csr.hartsIn (bus.csrPathIn sram busIn))) _ hart = true := granted
    exact OneOutput.reqI_of_reqO (sound.granted _ _ _ arbitrated).1
  | slave idx =>
    rw [DataPathIn.targetGnt, Bool.and_eq_true] at granted
    exact slReq_of_slGnt (by decide) granted.1

theorem Joined.path_next :
    dataPathOf (regs.next regsIn) (bus.next sram busIn) hart =
      (dataPathOf regs bus hart).next (dataPathIn sram regs regsIn bus busIn hart) := by
  have first : (regs.next regsIn).xbar.onlyPort = _ := xbar_next
  have second : ((bus.demux hart).next (bus.demuxIn sram busIn (bus.demuxCoreDataReq sram busIn)
      hart)).onlyPort = _ := XbarVarlat.oneToN_next _ _ _ _
  rw [joined.gntI, joined.vldI] at first
  rw [demux_gnt regs regsIn, demux_rvalid regs regsIn] at second
  have third : (bus.xbar.next sram (bus.systemIn sram busIn)).xbar.ports (coreDataIdx hart) =
      (bus.xbar.xbar.ports (coreDataIdx hart)).next
        ⟨((bus.systemIn sram busIn).masterReqI (coreDataIdx hart)).req,
          portSel ((bus.systemIn sram busIn).masterReqI (coreDataIdx hart)).addr,
          DataPath.systemGntI (dataPathIn sram regs regsIn bus busIn hart),
          DataPath.systemVldI (dataPathIn sram regs regsIn bus busIn hart)⟩ := by
    rw [systemGntI_eq, ← systemXbar_vldI (bus.demuxCoreDataReq sram busIn)]
    rfl
  rw [joined.request, joined.privateReq] at second
  rw [joined.masterReq] at third
  rw [DataPath.next, DataPath.mk.injEq]
  exact ⟨first, second, third⟩

theorem Joined.granted {held : Option DataTarget}
    (holds : PathHolds (dataPathOf regs bus hart) held) (granted : regs.granted regsIn = true) :
    (dataPathIn sram regs regsIn bus busIn hart).targetGnt (dataTarget regsIn.request.addr) =
        true ∧
      Owes (dataPathOf (regs.next regsIn) (bus.next sram busIn) hart)
        (dataTarget regsIn.request.addr) := by
  rw [HartRegs.granted, joined.coreDataResp, Bool.and_eq_true] at granted
  rw [joined.path_next]
  exact holds.granted joined.grantsRequested granted.2 granted.1

theorem Joined.answered {target : DataTarget} (owes : Owes (dataPathOf regs bus hart) target) :
    (regs.coreDataResp regsIn).rvalid =
        (dataPathIn sram regs regsIn bus busIn hart).targetRvalid target ∧
      (regs.coreDataResp regsIn).rdata =
        (dataPathIn sram regs regsIn bus busIn hart).targetRdata target := by
  rw [joined.coreDataResp]
  exact ⟨owes.hartRvalid, owes.hartRdata⟩

end Cycle

/-! ## The targets of a granted access -/

theorem dataTarget_of_inSafeCsr {addr : Word} (inCsr : InSafeCsr addr) :
    dataTarget addr = .safeCpuRegister := by
  have outside : ¬InPrivate addr := fun window => not_safe_of_private window inCsr
  rw [dataTarget, if_neg (mt (privateIdx_iff addr).mp outside),
    if_pos ((demuxIdx_iff addr).mpr inCsr)]

theorem InRam.inMemory {addr : Word} (inRam : InRam addr) : InMemory addr := by
  unfold InRam at inRam
  unfold InMemory InPrivate InSafeCsr
  omega

theorem dataTarget_of_inRam {addr : Word} (inRam : InRam addr) :
    dataTarget addr = .slave (portSel addr) := by
  rw [dataTarget, if_neg (mt (privateIdx_iff addr).mp inRam.inMemory.1),
    if_neg (mt (demuxIdx_iff addr).mp inRam.inMemory.2)]

section Targets
variable {S : Type*} {sram : SramMacro S} {regs : HartRegs} {regsIn : HartRegsIn}
  {bus : BusSystem S} {busIn : BusSystemIn} {hart : Hart}
  (joined : Joined sram regs regsIn bus busIn hart) (requests : regsIn.request.req = true)
include joined requests

theorem Joined.slave_granted {idx : Fin 5}
    (granted : (dataPathIn sram regs regsIn bus busIn hart).targetGnt (.slave idx) = true) :
    bus.xbar.masterGranted sram (bus.systemIn sram busIn) (coreDataIdx hart) = true ∧
      (bus.systemIn sram busIn).masterReqI (coreDataIdx hart) = regsIn.request := by
  rw [DataPathIn.targetGnt, Bool.and_eq_true] at granted
  have given : bus.xbar.xbar.slGnt (bus.xbar.xbarIn sram (bus.systemIn sram busIn)) idx
      (coreDataIdx hart) = true := granted.1
  have handshake := ((slGnt_iff (by decide)).mp given).1
  have request := joined.masterReq
  have asks : ((bus.systemIn sram busIn).masterReqI (coreDataIdx hart)).req = true :=
    (Bool.and_eq_true_iff.mp handshake).1
  rw [request] at asks
  rw [show (dataPathOf regs bus hart).demuxReqO _ _ = true from asks] at request
  exact ⟨handshake, request.trans (ObiReq.with_req requests)⟩

theorem Joined.csr_granted
    (granted : (dataPathIn sram regs regsIn bus busIn hart).targetGnt .safeCpuRegister = true) :
    bus.csr.served (bus.csrPathIn sram busIn) (.hart hart) = true ∧
      (bus.csrPathIn sram busIn).hartReqI hart = regsIn.request := by
  have asks := joined.grantsRequested .safeCpuRegister granted
  have request : (bus.csrPathIn sram busIn).hartReqI hart = _ := joined.demuxReq _
  rw [show (dataPathOf regs bus hart).demuxReqO _ _ = true from asks,
    ObiReq.with_req requests] at request
  refine ⟨?_, request⟩
  change (((bus.csrPathIn sram busIn).hartReqI hart).req && _) = true
  rw [request, requests, Bool.true_and]
  exact granted

end Targets

/-! ## Runs of the whole -/

/-- The harts' side and the bus of `eros_top` with the wrapper between them. -/
structure TopRun where
  wrapperIn : Nat → WrapperIn
  regsIn : Hart → Nat → HartRegsIn
  busIn : Nat → BusSystemIn

section Run
variable {S : Type*} (n : Nat) (sram : SramMacro S) (start : Fin 2 → S) (top : TopRun)

def TopRun.wrapper : Nat → WrapperRegs n := (wrapperMachine n).run top.wrapperIn

def TopRun.bus : Nat → BusSystem S := (busSystem sram start).run top.busIn

/-- The wires of a cycle between the wrapper, the private crossbars and the bus. -/
structure Wired (cycle : Nat) : Prop where
  coreData : ∀ hart, ((top.wrapperIn cycle).hartReq hart).coreData = (top.regsIn hart cycle).request
  data : ∀ hart, ((top.wrapperIn cycle).hartReq hart).data =
    (regsAt (top.regsIn hart) cycle).xbarCoreDataReq (top.regsIn hart cycle) erosSystemIdx
  dataResp : ∀ hart, (top.wrapperIn cycle).dataResp hart =
    (top.bus sram start cycle).coreDataRespO sram (top.busIn cycle) hart
  systemResp : ∀ hart, (top.regsIn hart cycle).systemResp =
    (top.wrapper n cycle).muxCoreDataResp (top.wrapperIn cycle) hart
  coreDataReq : ∀ hart, (top.busIn cycle).coreDataReqI hart =
    (top.wrapper n cycle).coreDataReqO (top.wrapperIn cycle) hart

structure SingleFor (mode : ModeSignals) (hart : Hart) : Prop where
  unvoted : mode.tmrVoterEnable = false
  single : mode.dualMode = false
  awake : mode.dmrWfi hart = false

def TopRun.systemIn (cycle : Nat) : SystemXbarIn 7 :=
  (top.bus sram start cycle).systemIn sram (top.busIn cycle)

def TopRun.csrIn (cycle : Nat) : CsrPathIn :=
  (top.bus sram start cycle).csrPathIn sram (top.busIn cycle)

/-- What the software of a hart takes the system for, on a memory that begins as
`mem`. -/
def TopRun.view (mem : Mem) (hart : Hart) (cycle : Nat) : HartView where
  ram := serialMemory sram start (top.systemIn sram start) mem cycle
  ctrl := (top.bus sram start cycle).csr.ctrl
  priv := (regsAt (top.regsIn hart) cycle).priv

variable {n sram start top} {hart : Hart} {cycle : Nat}

theorem top_xbar (cycle : Nat) :
    (top.bus sram start cycle).xbar = busAt sram start (top.systemIn sram start) cycle := by
  induction cycle with
  | zero => rfl
  | succ cycle ih =>
    rw [busAt_succ, ← ih]
    rfl

theorem top_csr (cycle : Nat) :
    (top.bus sram start cycle).csr = csrAt (top.csrIn sram start) cycle := by
  induction cycle with
  | zero => rfl
  | succ cycle ih =>
    change (top.bus sram start cycle).csr.next (top.csrIn sram start cycle) = _
    rw [ih]
    rfl

/-- In single mode the wrapper joins the private crossbar to the bus. -/
theorem Wired.joined (wired : Wired n sram start top cycle)
    (single : SingleFor (top.wrapperIn cycle).mode hart) :
    Joined sram (regsAt (top.regsIn hart) cycle) (top.regsIn hart cycle)
      (top.bus sram start cycle) (top.busIn cycle) hart := by
  obtain ⟨down, up⟩ := single_mode_data_port (top.wrapper n cycle) (top.wrapperIn cycle) hart
    single.unvoted single.single single.awake
  exact ⟨(wired.coreDataReq hart).trans (down.trans (wired.data hart)),
    (wired.systemResp hart).trans (up.trans (wired.dataResp hart))⟩

section Granted
variable (joined : ∀ earlier, earlier ≤ cycle + 1 →
    Joined sram (regsAt (top.regsIn hart) earlier) (top.regsIn hart earlier)
      (top.bus sram start earlier) (top.busIn earlier) hart)
include joined

theorem exists_pathHolds {earlier : Nat} (before : earlier ≤ cycle) :
    ∃ held, PathHolds (dataPathOf (regsAt (top.regsIn hart) earlier) (top.bus sram start earlier)
      hart) held := by
  induction earlier with
  | zero => exact ⟨none, rfl, rfl, rfl⟩
  | succ earlier ih =>
    obtain ⟨held, holds⟩ := ih (by omega)
    have now := joined earlier (by omega)
    have moved : dataPathOf (regsAt (top.regsIn hart) (earlier + 1))
        (top.bus sram start (earlier + 1)) hart = _ := now.path_next
    rw [moved]
    exact ⟨_, holds.next now.grantsRequested⟩

variable (granted : hartGrantedAt (top.regsIn hart) cycle = true)
include granted

theorem top_granted :
    (dataPathIn sram (regsAt (top.regsIn hart) cycle) (top.regsIn hart cycle)
        (top.bus sram start cycle) (top.busIn cycle) hart).targetGnt
          (dataTarget (top.regsIn hart cycle).request.addr) = true ∧
      (coreDataRespAt (top.regsIn hart) (cycle + 1)).rvalid =
        (dataPathIn sram (regsAt (top.regsIn hart) (cycle + 1)) (top.regsIn hart (cycle + 1))
          (top.bus sram start (cycle + 1)) (top.busIn (cycle + 1)) hart).targetRvalid
            (dataTarget (top.regsIn hart cycle).request.addr) ∧
      (coreDataRespAt (top.regsIn hart) (cycle + 1)).rdata =
        (dataPathIn sram (regsAt (top.regsIn hart) (cycle + 1)) (top.regsIn hart (cycle + 1))
          (top.bus sram start (cycle + 1)) (top.busIn (cycle + 1)) hart).targetRdata
            (dataTarget (top.regsIn hart cycle).request.addr) := by
  obtain ⟨held, holds⟩ := exists_pathHolds joined le_rfl
  obtain ⟨given, owes⟩ := (joined cycle (by omega)).granted holds granted
  exact ⟨given, (joined (cycle + 1) le_rfl).answered owes⟩

theorem csr_answers (inCsr : InSafeCsr (top.regsIn hart cycle).request.addr) :
    (coreDataRespAt (top.regsIn hart) (cycle + 1)).rvalid = true ∧
      (coreDataRespAt (top.regsIn hart) (cycle + 1)).rdata =
        (top.bus sram start cycle).csr.ctrl.rdata
          ((top.regsIn hart cycle).request.addr.truncate 6) := by
  obtain ⟨given, valid, data⟩ := top_granted joined granted
  rw [dataTarget_of_inSafeCsr inCsr] at given valid data
  have requests := (Bool.and_eq_true_iff.mp granted).1
  obtain ⟨served, request⟩ := (joined cycle (by omega)).csr_granted requests given
  rw [top_csr] at served
  rw [valid, data, ← request, top_csr]
  have moved : (top.bus sram start (cycle + 1)).csr = _ := top_csr (cycle + 1)
  constructor
  · have answered := (@hart_rvalid_iff_served (top.csrIn sram start) cycle hart).mpr served
    rw [← moved] at answered
    exact answered
  · have word := @hart_rdata_of_served (top.csrIn sram start) cycle hart served
    rw [← moved] at word
    exact word

theorem ram_answers {bank : Fin 2}
    (inRam : InRam (top.regsIn hart cycle).request.addr)
    (selected : portSel (top.regsIn hart cycle).request.addr = ramIdx bank) :
    (coreDataRespAt (top.regsIn hart) (cycle + 1)).rvalid = true ∧
      ∀ {mem : Mem}, sram.Lawful → Holds sram start mem →
        (top.regsIn hart cycle).request.we = false →
        (coreDataRespAt (top.regsIn hart) (cycle + 1)).rdata =
          load (top.view sram start mem hart cycle).ram
            (wordOf (top.regsIn hart cycle).request.addr) := by
  obtain ⟨given, valid, data⟩ := top_granted joined granted
  rw [dataTarget_of_inRam inRam, selected] at given valid data
  have requests := (Bool.and_eq_true_iff.mp granted).1
  obtain ⟨handshake, request⟩ := (joined cycle (by omega)).slave_granted requests given
  have place : portSel ((top.systemIn sram start cycle).masterReqI (coreDataIdx hart)).addr =
      ramIdx bank := by
    rw [← selected, ← request]
    rfl
  refine ⟨?_, fun lawful holds reads => ?_⟩
  · have answers : (top.bus sram start (cycle + 1)).xbar.validQ (ramIdx bank) = true :=
      validQ_of_slGnt (by decide) (prompt_ramIdx bank)
        (slGnt_of_masterGranted (by decide) handshake place)
    rw [valid, ← answers]
    match bank with
    | 0 => rfl
    | 1 => rfl
  · rw [top_xbar] at handshake
    have word := rdata_of_ram_read (by decide) lawful holds handshake place
      ((congrArg ObiReq.we request).trans reads)
    rw [← top_xbar] at word
    rw [data, ← request]
    exact (systemXbar_rdataI _).symm.trans word

theorem ram_stores {mem : Mem} {bank : Fin 2}
    (inRam : InRam (top.regsIn hart cycle).request.addr)
    (selected : portSel (top.regsIn hart cycle).request.addr = ramIdx bank)
    (aligned : (top.regsIn hart cycle).request.addr.toNat % 4 = 0)
    (writes : (top.regsIn hart cycle).request.we = true)
    (whole : (top.regsIn hart cycle).request.be = 0b1111) (index : BitVec 13) :
    wordAt bank index (top.view sram start mem hart (cycle + 1)).ram =
      wordAt bank index (hartBus.store (top.view sram start mem hart cycle)
        (top.regsIn hart cycle).request.addr (top.regsIn hart cycle).request.wdata).ram := by
  obtain ⟨given, -, -⟩ := top_granted joined granted
  rw [dataTarget_of_inRam inRam, selected] at given
  have requests := (Bool.and_eq_true_iff.mp granted).1
  obtain ⟨handshake, request⟩ := (joined cycle (by omega)).slave_granted requests given
  rw [top_xbar] at handshake
  have member : (coreDataIdx hart, (top.regsIn hart cycle).request) ∈
      (busAt sram start (top.systemIn sram start) cycle).granted sram
        (top.systemIn sram start cycle) :=
    mem_granted.mpr ⟨handshake, request.symm, inRam⟩
  have stored := access_word (top.view sram start mem hart cycle).ram
    (coreDataIdx hart, (top.regsIn hart cycle).request) writes whole aligned
  rw [hartBus_store_memory _ _ inRam.inMemory, ← stored]
  change wordAt bank index (serialMemory sram start (top.systemIn sram start) mem (cycle + 1)) = _
  rw [serialMemory, serve_history_succ]
  exact wordAt_serve_granted (by decide) _ member selected index

theorem csr_stores (inCsr : InSafeCsr (top.regsIn hart cycle).request.addr)
    (writes : (top.regsIn hart cycle).request.we = true)
    (whole : (top.regsIn hart cycle).request.be = 0b1111) :
    (top.bus sram start (cycle + 1)).csr.ctrl =
      (top.bus sram start cycle).csr.ctrl.next
        { (top.busIn cycle).hardware with
          req := softwareReq ((top.regsIn hart cycle).request.addr.truncate 6)
            (top.regsIn hart cycle).request.wdata } := by
  obtain ⟨given, -, -⟩ := top_granted joined granted
  rw [dataTarget_of_inSafeCsr inCsr] at given
  have requests := (Bool.and_eq_true_iff.mp granted).1
  obtain ⟨served, request⟩ := (joined cycle (by omega)).csr_granted requests given
  rw [top_csr] at served
  have access := csrReqO_of_served served
  rw [← top_csr] at access
  have word : ((top.bus sram start cycle).csr.csrReqO (top.csrIn sram start cycle)).regReq =
      softwareReq ((top.regsIn hart cycle).request.addr.truncate 6)
        (top.regsIn hart cycle).request.wdata := by
    rw [access]
    change (PeriphToReg.regReqO ((top.csrIn sram start cycle).hartReqI hart)).regReq = _
    rw [show (top.csrIn sram start cycle).hartReqI hart = _ from request]
    simp only [PeriphToReg.regReqO, RegBusReq.regReq, requests, writes, whole]
    rfl
  rw [← word]
  rfl

/-! The hart is answered as its software expects, whatever the target. -/

theorem known_answers {mem : Mem} (lawful : sram.Lawful) (holds : Holds sram start mem)
    (aligned : (top.regsIn hart cycle).request.addr.toNat % 4 = 0)
    (known : InPrivate (top.regsIn hart cycle).request.addr ∨
      InSafeCsr (top.regsIn hart cycle).request.addr ∨
      InRam (top.regsIn hart cycle).request.addr) :
    (coreDataRespAt (top.regsIn hart) (cycle + 1)).rvalid = true ∧
      ((top.regsIn hart cycle).request.we = false →
        (coreDataRespAt (top.regsIn hart) (cycle + 1)).rdata =
          hartBus.load (top.view sram start mem hart cycle)
            (top.regsIn hart cycle).request.addr) := by
  rcases known with inPrivate | inCsr | inRam
  · have served : servedAt (top.regsIn hart) cycle = true := by
      rw [servedAt, HartRegs.served, decide_eq_true inPrivate, Bool.true_and]
      exact granted
    obtain ⟨valid, data⟩ := coreDataResp_of_served served
    refine ⟨valid, fun _ => ?_⟩
    rw [data, hartBus_load_private _ inPrivate]
    rfl
  · obtain ⟨valid, data⟩ := csr_answers joined granted inCsr
    refine ⟨valid, fun _ => ?_⟩
    rw [data, hartBus_load_safeCsr _ inCsr]
    rfl
  · obtain ⟨bank, selected⟩ := (inRam_iff _).mp inRam
    obtain ⟨valid, data⟩ := ram_answers joined granted inRam selected
    refine ⟨valid, fun reads => (data lawful holds reads).trans ?_⟩
    rw [wordOf_of_aligned aligned, hartBus_load_memory _ inRam.inMemory]

end Granted

end Run

/-! ## The software's view -/

/-- What a word store of the software leaves behind, as far as it is the store's: the
bank of its word, the private registers but the identity of the hart, and the control
registers but the flags of the hardware, if that writes none of the others. -/
structure StoredBy (view later : HartView) (hardware : CtrlIn) (addr wdata : Word) : Prop where
  ram : InRam addr → ∀ other, portSel other = portSel addr → other.toNat % 4 = 0 →
    load later.ram other = load (hartBus.store view addr wdata).ram other
  priv : InPrivate addr → { later.priv with coreId := view.priv.coreId } =
    (hartBus.store view addr wdata).priv
  ctrl : InSafeCsr addr → view.ctrl.endEdge = false → view.ctrl.startFlag = false →
    hardware.enableInterruptDe = false →
    { later.ctrl with
      externalDebugReq := view.ctrl.externalDebugReq, coresSleep := view.ctrl.coresSleep
      coresDebugMode := view.ctrl.coresDebugMode, dmrRec := view.ctrl.dmrRec
      startFf := view.ctrl.startFf, startFlag := view.ctrl.startFlag
      enSwRoutineFf := view.ctrl.enSwRoutineFf, interruptO := view.ctrl.interruptO
      flagIntc := view.ctrl.flagIntc } = (hartBus.store view addr wdata).ctrl

/-- The access of a hart: hart 0 loads a word of the RAM in cycle 0. -/
def loadOnceReq (hart : Hart) (cycle : Nat) : ObiReq :=
  if hart = 0 ∧ cycle = 0 then ⟨true, false, 0b1111, 0xf0028008, 0⟩ else .zero

def loadOnceResp (hart : Hart) (cycle : Nat) : ObiResp :=
  ⟨decide (hart = 0 ∧ cycle = 0), decide (hart = 0 ∧ cycle = 1), 0⟩

def loadOnce : TopRun where
  wrapperIn cycle :=
    { mode := ⟨false, false, false, fun _ => false, fun _ => false⟩
      hartReq := fun hart => ⟨.zero, loadOnceReq hart cycle, loadOnceReq hart cycle⟩
      instrResp := fun _ => .zero
      dataResp := fun hart => loadOnceResp hart cycle
      intr := fun _ => 0
      debugReq := fun _ => false
      masterCore := oneHot 0
      sleep := fun _ => false }
  regsIn hart cycle := ⟨loadOnceReq hart cycle, 0b001, loadOnceResp hart cycle⟩
  busIn cycle :=
    { coreInstrReqI := fun _ => .zero
      coreDataReqI := fun hart => loadOnceReq hart cycle
      extMasterReqI := .zero
      extSlaveRespI := .zero
      extCsrRegReqI := .zero
      hardware := ⟨RegBusReq.zero.regReq, false, false, false, 0, 0, false, false⟩ }

theorem loadOnce_wired {cycle : Nat} (upto : cycle ≤ 0 + 1) :
    Wired 0 tcSram blankBanks loadOnce cycle := by
  obtain rfl | rfl : cycle = 0 ∨ cycle = 1 := by omega
  · exact ⟨by decide +kernel, by decide +kernel, by decide +kernel, by decide +kernel,
      by decide +kernel⟩
  · exact ⟨by decide +kernel, by decide +kernel, by decide +kernel, by decide +kernel,
      by decide +kernel⟩

end Eros
