import Eros.DataRoute
import Eros.RegBus
import Eros.XbarVarlat

/-!
# The private registers of a hart

The private crossbar of a hart, its bridge `periph_to_reg` and `cpu_private_reg`.  Behind
the crossbar nothing else of the system reaches the registers, so that they are to the
hart what the software takes them for, in every mode: the system side of the crossbar
may grant and answer as it likes.
-/

set_option autoImplicit false

namespace Eros

open ErosPkg
open Outstanding (tally)

/-! ## `cpu_private_reg_top` -/

/-- `reg_intf_req`, the address cut to its width. -/
structure PrivReq where
  valid : Bool
  write : Bool
  addr : BitVec 4
  wdata : Word
  wstrb : BitVec 4

def RegBusReq.privReq (request : RegBusReq) : PrivReq where
  valid := request.valid
  write := request.write
  addr := request.addr.truncate 4
  wdata := request.wdata
  wstrb := request.wstrb

/-- `CPU_PRIVATE_PERMIT` beside the offsets. -/
def privPermit : List (BitVec 4 × BitVec 4) :=
  [(CpuPrivateReg.coreIdOffset, 0b0001), (CpuPrivateReg.hartIntcAckOffset, 0b0001),
    (CpuPrivateReg.breakpointSimOffset, 0b0001)]

namespace PrivReq
variable (req : PrivReq)

def regWe : Bool := req.valid && req.write
def regRe : Bool := req.valid && !req.write

def addrMiss : Bool := (req.regRe || req.regWe) && !privPermit.any fun entry => req.addr == entry.1

def wrErr : Bool :=
  req.regWe && privPermit.any fun entry =>
    req.addr == entry.1 && decide (entry.2 &&& ~~~req.wstrb ≠ 0)

/-- `reg_error` with `devmode_i = 1`. -/
def regError : Bool := req.addrMiss || req.wrErr

def writes (offset : BitVec 4) : Bool := req.addr == offset && req.regWe && !req.regError

theorem writes_of_invalid (invalid : req.valid = false) (offset : BitVec 4) :
    req.writes offset = false := by
  simp [writes, regWe, invalid]

end PrivReq

namespace CpuPrivateReg
variable (priv : CpuPrivateReg)

def reset : CpuPrivateReg := ⟨0, false, false⟩

/-- `core_id` takes `Core_id_i` in every cycle. -/
def next (req : PrivReq) (coreIdI : BitVec 3) : CpuPrivateReg where
  coreId := subregRo true coreIdI priv.coreId
  hartIntcAck :=
    subregRw (req.writes hartIntcAckOffset) (req.wdata.getLsbD 0) false false priv.hartIntcAck
  breakpointSim :=
    subregRw (req.writes breakpointSimOffset) (req.wdata.getLsbD 0) false false priv.breakpointSim

def regRspO (req : PrivReq) : RegBusRsp where
  error := req.regError
  ready := true
  rdata := priv.rdata req.addr

theorem writes_word (addr offset : BitVec 4) (wdata : Word)
    (known : (privPermit.any fun entry => offset == entry.1) = true) :
    PrivReq.writes ⟨true, true, addr, wdata, 0b1111⟩ offset = decide (addr = offset) := by
  by_cases same : addr = offset
  · simp [PrivReq.writes, PrivReq.regWe, PrivReq.regRe, PrivReq.regError, PrivReq.addrMiss,
      PrivReq.wrErr, same, known]
  · simp [PrivReq.writes, same]

theorem next_eq_softwareWrite (addr : BitVec 4) (wdata : Word) :
    priv.next ⟨true, true, addr, wdata, 0b1111⟩ priv.coreId = priv.softwareWrite addr wdata := by
  rw [next, softwareWrite, writes_word addr _ wdata rfl, writes_word addr _ wdata rfl]
  simp only [subregRw_quiet, decide_eq_true_eq]
  rfl

theorem next_of_invalid {req : PrivReq} (invalid : req.valid = false) (coreIdI : BitVec 3) :
    priv.next req coreIdI = { priv with coreId := coreIdI } := by
  rw [next, req.writes_of_invalid invalid, req.writes_of_invalid invalid]
  simp only [subregRw_quiet, Bool.false_eq_true, if_false]
  rfl

end CpuPrivateReg

def cpuPrivateReg : Synchronous.Machine CpuPrivateReg (PrivReq × BitVec 3) where
  init := .reset
  next priv inp := priv.next inp.1 inp.2

/-! ## The hart's side of the wrapper -/

/-- `priv_reg[i]` -/
structure HartRegs where
  xbar : XbarVarlat 1 2
  bridge : PeriphToReg
  priv : CpuPrivateReg

/-- The hart's data request and its identity, and what the wrapper answers on the system
side of the crossbar. -/
structure HartRegsIn where
  request : ObiReq
  coreIdI : BitVec 3
  systemResp : ObiResp

namespace HartRegs
variable (regs : HartRegs) (inp : HartRegsIn)

/-- `xbar_core_data_resp[i]` under the grant `gnt` of the bridge. -/
def xbarCoreDataResp (gnt : Bool) : Fin 2 → ObiResp
  | 0 => inp.systemResp
  | 1 => ⟨gnt, regs.bridge.rValidQ, regs.bridge.rRdataQ⟩

def xbarIn (gnt : Bool) : XbarVarlatIn 1 2 :=
  oneToN inp.request (privateIdx inp.request.addr) (regs.xbarCoreDataResp inp gnt)

/-- `xbar_core_data_req[i]`, which does not depend on the grant. -/
def xbarCoreDataReq (slave : Fin 2) : ObiReq := regs.xbar.slaveReqO (regs.xbarIn inp false) slave

def cpuRegReq : RegBusReq := PeriphToReg.regReqO (regs.xbarCoreDataReq inp cpuRegIdx)

def cpuRegRsp : RegBusRsp := regs.priv.regRspO (regs.cpuRegReq inp).privReq

def bridgeGnt : Bool :=
  PeriphToReg.gntO (regs.xbarCoreDataReq inp cpuRegIdx) (regs.cpuRegRsp inp)

def coreDataResp : ObiResp := regs.xbar.masterRespO (regs.xbarIn inp (regs.bridgeGnt inp)) 0

def next : HartRegs where
  xbar := regs.xbar.next (regs.xbarIn inp (regs.bridgeGnt inp))
  bridge := PeriphToReg.next (regs.xbarCoreDataReq inp cpuRegIdx) (regs.cpuRegRsp inp)
  priv := regs.priv.next (regs.cpuRegReq inp).privReq inp.coreIdI

def granted : Bool := inp.request.req && (regs.coreDataResp inp).gnt

/-- The hart's request is granted, and it is one for its private registers. -/
def served : Bool := decide (InPrivate inp.request.addr) && regs.granted inp

end HartRegs

def hartRegs : Synchronous.Machine HartRegs HartRegsIn where
  init := ⟨.reset 1 2, .reset, .reset⟩
  next := HartRegs.next

/-! ## One cycle -/

section Cycle
variable {regs : HartRegs} {inp : HartRegsIn}

def HartRegs.vldI (regs : HartRegs) (inp : HartRegsIn) : Fin 2 → Bool := fun slave =>
  (regs.xbarCoreDataResp inp false slave).rvalid

theorem vldI_eq (gnt : Bool) :
    (fun slave => (regs.xbarCoreDataResp inp gnt slave).rvalid) = regs.vldI inp := by
  funext slave
  match slave with
  | 0 => rfl
  | 1 => rfl

theorem granted_eq :
    regs.granted inp = (inp.request.req && regs.xbar.onlyPort.gntO
      (fun slave => (regs.xbarCoreDataResp inp (regs.bridgeGnt inp) slave).gnt)
      (regs.vldI inp)) := by
  rw [HartRegs.granted, HartRegs.coreDataResp, HartRegs.xbarIn, XbarVarlat.oneToN_masterRespO,
    vldI_eq]

theorem coreDataResp_rvalid :
    (regs.coreDataResp inp).rvalid = regs.xbar.onlyPort.vldO (regs.vldI inp) := by
  rw [HartRegs.coreDataResp, HartRegs.xbarIn, XbarVarlat.oneToN_masterRespO, vldI_eq]

theorem xbar_next :
    (regs.next inp).xbar.onlyPort = regs.xbar.onlyPort.next
      ⟨inp.request.req, privateIdx inp.request.addr,
        fun slave => (regs.xbarCoreDataResp inp (regs.bridgeGnt inp) slave).gnt,
        regs.vldI inp⟩ := by
  have moved : (regs.next inp).xbar.onlyPort = _ := XbarVarlat.oneToN_next _ _ _ _
  rw [moved, vldI_eq]

theorem regs_inflight_next :
    (regs.next inp).xbar.onlyPort.validInflightQ.toNat + (regs.coreDataResp inp).rvalid.toNat =
      regs.xbar.onlyPort.validInflightQ.toNat + (regs.granted inp).toNat := by
  rw [xbar_next, coreDataResp_rvalid, granted_eq]
  exact SeveralOutputs.inflight_next _ _

theorem privateReq_req :
    (regs.xbarCoreDataReq inp cpuRegIdx).req =
      (regs.xbar.onlyPort.passes (regs.vldI inp) &&
        (inp.request.req && decide (InPrivate inp.request.addr))) := by
  have decoded : decide (cpuRegIdx = privateIdx inp.request.addr) =
      decide (InPrivate inp.request.addr) := by
    rw [decide_eq_decide, ← privateIdx_iff, eq_comm]
  rw [HartRegs.xbarCoreDataReq, HartRegs.xbarIn, XbarVarlat.oneToN_slaveReqO, ← decoded]
  change (if regs.xbar.onlyPort.passes (regs.vldI inp) = true then _ else _) = _
  cases regs.xbar.onlyPort.passes (regs.vldI inp) with
  | false => rfl
  | true => rfl

theorem bridgeGnt_eq : regs.bridgeGnt inp = (regs.xbarCoreDataReq inp cpuRegIdx).req :=
  Bool.and_true _

/-- The grant of a private access is the bridge's, whatever the system side grants. -/
theorem served_eq : regs.served inp = (regs.xbarCoreDataReq inp cpuRegIdx).req := by
  rw [HartRegs.served, granted_eq, ← Bool.and_assoc, Bool.and_comm (decide _)]
  cases wants : (inp.request.req && decide (InPrivate inp.request.addr)) with
  | false => rw [privateReq_req, wants, Bool.and_false, Bool.false_and]
  | true =>
    rw [privateReq_req, wants, Bool.and_true, Bool.true_and, SeveralOutputs.gntO]
    cases passing : regs.xbar.onlyPort.passes (regs.vldI inp) with
    | false => rfl
    | true =>
      have bridge : regs.bridgeGnt inp = true := by
        rw [bridgeGnt_eq, privateReq_req, wants, passing]
        rfl
      rw [if_pos rfl, decide_eq_true_eq]
      exact ⟨cpuRegIdx, bridge⟩

theorem privateReq_of_served (served : regs.served inp = true) :
    regs.xbarCoreDataReq inp cpuRegIdx = inp.request := by
  have requests : inp.request.req = true := by
    rw [HartRegs.served, HartRegs.granted] at served
    exact (Bool.and_eq_true_iff.mp (Bool.and_eq_true_iff.mp served).2).1
  have reaches := served_eq.symm.trans served
  rw [HartRegs.xbarCoreDataReq, HartRegs.xbarIn, XbarVarlat.oneToN_slaveReqO] at reaches ⊢
  rw [show regs.xbar.onlyPort.reqO _ _ _ _ = true from reaches]
  exact ObiReq.with_req requests

theorem priv_next :
    (regs.next inp).priv =
      if regs.served inp then
        regs.priv.next (PeriphToReg.regReqO inp.request).privReq inp.coreIdI
      else { regs.priv with coreId := inp.coreIdI } := by
  split_ifs with served
  · rw [HartRegs.next, HartRegs.cpuRegReq, privateReq_of_served served]
  · apply CpuPrivateReg.next_of_invalid
    change (regs.xbarCoreDataReq inp cpuRegIdx).req = false
    rw [← served_eq]
    exact (Bool.not_eq_true _).mp served

theorem next_of_served (served : regs.served inp = true) :
    (regs.next inp).xbar.onlyPort = ⟨true, cpuRegIdx⟩ ∧ (regs.next inp).bridge.rValidQ = true ∧
      (regs.next inp).bridge.rRdataQ = regs.priv.rdata (inp.request.addr.truncate 4) := by
  have parts := served
  rw [HartRegs.served, Bool.and_eq_true, granted_eq, Bool.and_eq_true, decide_eq_true_eq] at parts
  obtain ⟨inPrivate, requests, granted⟩ := parts
  refine ⟨?_, ?_, ?_⟩
  · rw [xbar_next, ← (privateIdx_iff _).mpr inPrivate]
    exact (SeveralOutputs.next_of_granted requests granted).1
  · change regs.bridgeGnt inp = true
    rw [bridgeGnt_eq, ← served_eq]
    exact served
  · change (regs.cpuRegRsp inp).rdata = _
    rw [HartRegs.cpuRegRsp, HartRegs.cpuRegReq, privateReq_of_served served]
    rfl

theorem coreDataResp_of_waiting (waits : regs.xbar.onlyPort = ⟨true, cpuRegIdx⟩)
    (answers : regs.bridge.rValidQ = true) :
    (regs.coreDataResp inp).rvalid = true ∧
      (regs.coreDataResp inp).rdata = regs.bridge.rRdataQ := by
  rw [HartRegs.coreDataResp, HartRegs.xbarIn, XbarVarlat.oneToN_masterRespO, waits]
  refine ⟨?_, rfl⟩
  rw [SeveralOutputs.vldO, Bool.and_true]
  exact answers

end Cycle

/-! ## Runs -/

section Run
variable (inputs : Nat → HartRegsIn)

def regsAt : Nat → HartRegs := hartRegs.run inputs

def coreDataRespAt (cycle : Nat) : ObiResp := (regsAt inputs cycle).coreDataResp (inputs cycle)

def hartGrantedAt (cycle : Nat) : Bool := (regsAt inputs cycle).granted (inputs cycle)

def hartAnsweredAt (cycle : Nat) : Bool := (coreDataRespAt inputs cycle).rvalid

def servedAt (cycle : Nat) : Bool := (regsAt inputs cycle).served (inputs cycle)

/-- The access at hand, as it comes on the register bus. -/
def privAccess (cycle : Nat) : PrivReq := (PeriphToReg.regReqO (inputs cycle).request).privReq

/-- The inputs of the registers when they see the accesses served and nothing else. -/
def privInputs (cycle : Nat) : PrivReq × BitVec 3 :=
  (if servedAt inputs cycle then privAccess inputs cycle else ⟨false, false, 0, 0, 0⟩,
    (inputs cycle).coreIdI)

/-- The hart writes this value to `HART_INTC_ACK`. -/
def acksAt (value : Bool) (cycle : Nat) : Bool :=
  servedAt inputs cycle && (privAccess inputs cycle).writes CpuPrivateReg.hartIntcAckOffset &&
    (privAccess inputs cycle).wdata.getLsbD 0 == value

variable {inputs}

theorem regs_priv_succ (cycle : Nat) :
    (regsAt inputs (cycle + 1)).priv =
      if servedAt inputs cycle then
        (regsAt inputs cycle).priv.next (privAccess inputs cycle) (inputs cycle).coreIdI
      else { (regsAt inputs cycle).priv with coreId := (inputs cycle).coreIdI } :=
  priv_next

theorem regs_priv_run (cycle : Nat) :
    (regsAt inputs cycle).priv = cpuPrivateReg.run (privInputs inputs) cycle := by
  induction cycle with
  | zero => rfl
  | succ cycle ih =>
    rw [regs_priv_succ, Synchronous.Machine.run_succ, ← ih, privInputs]
    split_ifs with served
    · rfl
    · exact (CpuPrivateReg.next_of_invalid _ rfl _).symm

theorem hartIntcAck_eq_latch (cycle : Nat) :
    (regsAt inputs cycle).priv.hartIntcAck =
      Synchronous.latch (acksAt inputs false) (acksAt inputs true) cycle := by
  induction cycle with
  | zero => rfl
  | succ cycle ih =>
    rw [regs_priv_succ, Synchronous.latch, ← ih, acksAt, acksAt]
    cases served : servedAt inputs cycle with
    | false => rfl
    | true =>
      simp only [if_true, CpuPrivateReg.next, subregRw_quiet, Bool.true_and]
      cases (privAccess inputs cycle).writes CpuPrivateReg.hartIntcAckOffset with
      | false => rfl
      | true =>
        cases (privAccess inputs cycle).wdata.getLsbD 0 with
        | false => rfl
        | true => rfl

theorem tally_hartGrantedAt (cycle : Nat) :
    tally (hartGrantedAt inputs) cycle =
      tally (hartAnsweredAt inputs) cycle +
        (regsAt inputs cycle).xbar.onlyPort.validInflightQ.toNat := by
  induction cycle with
  | zero => rfl
  | succ cycle ih =>
    have account : (regsAt inputs (cycle + 1)).xbar.onlyPort.validInflightQ.toNat +
        (hartAnsweredAt inputs cycle).toNat =
          (regsAt inputs cycle).xbar.onlyPort.validInflightQ.toNat +
            (hartGrantedAt inputs cycle).toNat := regs_inflight_next
    rw [Outstanding.tally_succ, Outstanding.tally_succ, ih]
    omega

/-- A private access is served as soon as the one before it is answered. -/
theorem servedAt_of_settled {cycle : Nat} (requests : (inputs cycle).request.req = true)
    (inPrivate : InPrivate (inputs cycle).request.addr)
    (settled : tally (hartGrantedAt inputs) cycle = tally (hartAnsweredAt inputs) cycle ∨
      hartAnsweredAt inputs cycle = true) : servedAt inputs cycle = true := by
  have answers : hartAnsweredAt inputs cycle = _ := coreDataResp_rvalid
  rw [servedAt, served_eq, privateReq_req, requests, decide_eq_true inPrivate, Bool.and_true,
    Bool.and_true, SeveralOutputs.passes]
  rw [tally_hartGrantedAt] at settled
  cases inflight : (regsAt inputs cycle).xbar.onlyPort.validInflightQ with
  | false => rfl
  | true =>
    rw [inflight, Bool.toNat_true] at settled
    rcases settled with counted | answered
    · omega
    · rw [Bool.not_true, if_neg (by simp), ← answers]
      exact answered

theorem coreDataResp_of_served {cycle : Nat} (served : servedAt inputs cycle = true) :
    (coreDataRespAt inputs (cycle + 1)).rvalid = true ∧
      (coreDataRespAt inputs (cycle + 1)).rdata =
        (regsAt inputs cycle).priv.rdata ((inputs cycle).request.addr.truncate 4) := by
  obtain ⟨waits, answers, data⟩ := next_of_served served
  obtain ⟨valid, same⟩ : (coreDataRespAt inputs (cycle + 1)).rvalid = true ∧ _ :=
    coreDataResp_of_waiting waits answers
  exact ⟨valid, same.trans data⟩

theorem regs_priv_of_store {cycle : Nat} (served : servedAt inputs cycle = true)
    (writes : (inputs cycle).request.we = true) (whole : (inputs cycle).request.be = 0b1111) :
    { (regsAt inputs (cycle + 1)).priv with coreId := (regsAt inputs cycle).priv.coreId } =
      (regsAt inputs cycle).priv.softwareWrite ((inputs cycle).request.addr.truncate 4)
        (inputs cycle).request.wdata := by
  have requests : (inputs cycle).request.req = true := by
    rw [servedAt, HartRegs.served, HartRegs.granted] at served
    exact (Bool.and_eq_true_iff.mp (Bool.and_eq_true_iff.mp served).2).1
  have word : privAccess inputs cycle =
      ⟨true, true, (inputs cycle).request.addr.truncate 4, (inputs cycle).request.wdata,
        0b1111⟩ := by
    simp only [privAccess, PeriphToReg.regReqO, RegBusReq.privReq, requests, writes, whole]
    rfl
  rw [regs_priv_succ, if_pos served, word, ← CpuPrivateReg.next_eq_softwareWrite]
  rfl

end Run

/-- The private registers are to their hart what its software takes them for, in every
mode and whatever the system side does: an access to them is served as soon as the one
before it is answered, and answered in the next cycle with the word that the software
reads; a word stored is the store of the software; nothing else writes them; and the
acknowledgement that the state machine sees is the one stored last. -/
theorem private_registers_serve_their_hart (inputs : Nat → HartRegsIn) (cycle : Nat) :
    ((inputs cycle).request.req = true → InPrivate (inputs cycle).request.addr →
      (tally (hartGrantedAt inputs) cycle = tally (hartAnsweredAt inputs) cycle ∨
        hartAnsweredAt inputs cycle = true) → servedAt inputs cycle = true) ∧
    (∀ view : HartView, view.priv = (regsAt inputs cycle).priv → servedAt inputs cycle = true →
      hartAnsweredAt inputs (cycle + 1) = true ∧
      (coreDataRespAt inputs (cycle + 1)).rdata = hartBus.load view (inputs cycle).request.addr ∧
      ((inputs cycle).request.we = true → (inputs cycle).request.be = 0b1111 →
        { (regsAt inputs (cycle + 1)).priv with coreId := view.priv.coreId } =
          (hartBus.store view (inputs cycle).request.addr (inputs cycle).request.wdata).priv)) ∧
    (regsAt inputs cycle).priv = cpuPrivateReg.run (privInputs inputs) cycle ∧
    ((regsAt inputs cycle).priv.hartIntcAck = true ↔
      ∃ origin, origin < cycle ∧ acksAt inputs true origin = true ∧
        ∀ between, origin ≤ between → between < cycle → acksAt inputs false between = false) := by
  refine ⟨servedAt_of_settled, fun view same served => ?_, regs_priv_run cycle, ?_⟩
  · have inPrivate : InPrivate (inputs cycle).request.addr :=
      of_decide_eq_true (Bool.and_eq_true_iff.mp served).1
    obtain ⟨valid, data⟩ := coreDataResp_of_served served
    refine ⟨valid, ?_, fun writes whole => ?_⟩
    · rw [data, ← same, hartBus_load_private view inPrivate]
    · rw [hartBus_store_private view _ inPrivate, same]
      exact regs_priv_of_store served writes whole
  · rw [hartIntcAck_eq_latch]
    exact Synchronous.latch_eq_true_iff _ _ cycle

/-- A hart acknowledges an interrupt in every cycle; the system side grants and answers
everything. -/
def acknowledges (_cycle : Nat) : HartRegsIn where
  request := ⟨true, true, 0b1111, 0xf0000004, 1⟩
  coreIdI := 0b001
  systemResp := ⟨true, true, 0⟩

theorem acknowledges_served :
    servedAt acknowledges 0 = true ∧ hartAnsweredAt acknowledges 1 = true :=
  have serve := private_registers_serve_their_hart acknowledges 0
  have served := serve.1 rfl (by decide) (Or.inl rfl)
  ⟨served, (serve.2.1 ⟨⟨fun _ => 0, .reset⟩, .reset⟩ rfl served).1⟩

end Eros
