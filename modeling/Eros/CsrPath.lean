import Eros.ArbiterRuns
import Eros.RegBus
import Eros.SafeWrapperCtrl

/-!
# The way to the control registers

The harts' accesses to `safe_wrapper_ctrl` meet in `eros_xbar_varlat_n_to_one`, cross
`periph_to_reg` and share the register bus with the host in `reg_mux`.  The
register file is always ready, so each cycle serves one access whole.
-/

set_option autoImplicit false

namespace Eros

/-- The ports of `reg_mux_i`. -/
def hostPort : Fin 2 := 0
def hartPort : Fin 2 := 1

/-- `reg_intf_req` of `safe_wrapper_ctrl_reg_top`, the address cut to its width. -/
def RegBusReq.regReq (request : RegBusReq) : RegReq where
  valid := request.valid
  write := request.write
  addr := request.addr.truncate 6
  wdata := request.wdata
  wstrb := request.wstrb

/-- `reg_rsp_o` of `safe_wrapper_ctrl`. -/
def SafeWrapperCtrl.regRspO (ctrl : SafeWrapperCtrl) (request : RegBusReq) : RegBusRsp where
  error := request.regReq.regError
  ready := true
  rdata := ctrl.rdata request.regReq.addr

structure CsrPath where
  xbar : NToOneXbar 3
  arb : RrArb 3
  bridge : PeriphToReg
  mux : RegMux 2
  ctrl : SafeWrapperCtrl

/-- The harts' requests for the CSR window, the host's request, and what the state
machine and the harts show the registers; `hardware.req` is not used. -/
structure CsrPathIn where
  hartReqI : Fin 3 → ObiReq
  hostReqI : RegBusReq
  hardware : CtrlIn

namespace CsrPath
variable (path : CsrPath) (inp : CsrPathIn)

def reset : CsrPath := ⟨.reset 3, .reset 3, .reset, .reset 2, .reset⟩

/-- The crossbar of the harts under the grant `gnt` of the bridge. -/
def xbarIn (gnt : Bool) : NToOneIn 3 where
  masterReqI := inp.hartReqI
  slaveRespI := ⟨gnt, path.bridge.rValidQ, path.bridge.rRdataQ⟩
  arbiter := path.arb.tree

/-- `int_wrapper_csr_req`, which does not depend on the grant. -/
def wrapperCsrReq : ObiReq := path.xbar.slaveReqO (path.xbarIn inp false)

def intReq : Fin 2 → RegBusReq
  | 0 => inp.hostReqI
  | 1 => PeriphToReg.regReqO (path.wrapperCsrReq inp)

/-- `wrapper_csr_req_o`; the arbiter passes its choice on whatever the answer is. -/
def csrReqO : RegBusReq := path.mux.outReqO (path.intReq inp) .zero

def csrRsp : RegBusRsp := path.ctrl.regRspO (path.csrReqO inp)

def intRsp (port : Fin 2) : RegBusRsp := path.mux.inRspO (path.intReq inp) (path.csrRsp inp) port

/-- `int_wrapper_csr_resp.gnt` -/
def bridgeGnt : Bool := PeriphToReg.gntO (path.wrapperCsrReq inp) (path.intRsp inp hartPort)

def hartsIn : NToOneIn 3 := path.xbarIn inp (path.bridgeGnt inp)

def arbIn : RrArbIn ObiReq 3 where
  reqI := path.xbar.slReq (path.hartsIn inp)
  dataI := inp.hartReqI
  gntI := path.xbar.gntOutstanding (path.hartsIn inp)

def next : CsrPath where
  xbar := path.xbar.next (path.hartsIn inp)
  arb := path.arb.next xbarParams (path.arbIn inp)
  bridge := PeriphToReg.next (path.wrapperCsrReq inp) (path.intRsp inp hartPort)
  mux := path.mux.next (path.intReq inp) (path.csrRsp inp)
  ctrl := path.ctrl.next { inp.hardware with req := (path.csrReqO inp).regReq }

/-! What the host and the harts see. -/

/-- `ext_csr_reg_resp_o` -/
def hostRspO : RegBusRsp := path.intRsp inp hostPort

def hartRespO (hart : Fin 3) : ObiResp := path.xbar.masterRespO (path.hartsIn inp) hart

def hostServed : Bool := inp.hostReqI.valid && (path.hostRspO inp).ready

def hartServed (hart : Fin 3) : Bool := (inp.hartReqI hart).req && (path.hartRespO inp hart).gnt

end CsrPath

def csrPath : Synchronous.Machine CsrPath CsrPathIn where
  init := .reset
  next := CsrPath.next

/-! ## One cycle -/

/-- Every access of the cycle before is answered in this one, the lock of the
register bus is open, and the counters are in range. -/
structure CsrReady (path : CsrPath) : Prop where
  ports : ∀ hart, (path.xbar.ports hart).validInflightQ = true → path.bridge.rValidQ = true
  state : path.xbar.stateQ = .outstandingWaitforValid → path.bridge.rValidQ = true
  unlocked : path.mux.arbiter.lockQ = false
  muxCounter : path.mux.arbiter.rrQ < 2
  arbCounter : path.arb.rrQ < 3

/-- Who accesses the control registers. -/
inductive CsrMaster
  | host
  | hart (index : Fin 3)
  deriving DecidableEq, Repr

namespace CsrPath
variable (path : CsrPath) (inp : CsrPathIn)

def served : CsrMaster → Bool
  | .host => path.hostServed inp
  | .hart index => path.hartServed inp index

end CsrPath

def CsrPathIn.csrAccess (inp : CsrPathIn) : CsrMaster → RegBusReq
  | .host => inp.hostReqI
  | .hart index => PeriphToReg.regReqO (inp.hartReqI index)

section Cycle
variable {path : CsrPath} {inp : CsrPathIn}

theorem harts_slaveGranted :
    path.xbar.slaveGranted (path.hartsIn inp) =
      ((path.wrapperCsrReq inp).req && (path.intRsp inp hartPort).ready) := by
  change ((path.wrapperCsrReq inp).req && path.bridgeGnt inp) = _
  unfold CsrPath.bridgeGnt PeriphToReg.gntO
  rw [← Bool.and_assoc, Bool.and_self]

theorem sound : (path.hartsIn inp).arbiter.Sound := path.arb.tree_sound (by decide)

variable (ready : CsrReady path)
include ready

theorem CsrReady.free : PortsFree path.xbar (path.hartsIn inp) := ready.ports

theorem CsrReady.unblocked : path.xbar.unblocked (path.hartsIn inp) = true := by
  unfold NToOneXbar.unblocked
  cases state : path.xbar.stateQ with
  | outstandingReq => rfl
  | outstandingWaitforValid => exact ready.state state

theorem CsrReady.reqD (request : Fin 2 → RegBusReq) (answer : RegBusRsp) :
    path.mux.arbiter.reqD streamArbiterParams (RegMux.arbIn request answer) =
      fun port => (request port).valid := by
  unfold RrArb.reqD
  rw [ready.unlocked]
  rfl

theorem CsrReady.pick {port : Fin 2} (valid : (path.intReq inp port).valid = true) :
    ∃ pick, (path.intReq inp pick).valid = true ∧
      path.csrReqO inp = path.intReq inp pick ∧
      (∀ other, (path.intRsp inp other).ready = decide (other = pick)) ∧
      (∀ other : Fin 2, path.mux.arbiter.rrQ = other → (path.intReq inp other).valid = true →
        pick = other) := by
  have requests : path.mux.arbiter.reqD streamArbiterParams
      (RegMux.arbIn (path.intReq inp) (path.csrRsp inp)) port = true := by
    rw [ready.reqD]
    exact valid
  obtain ⟨pick, picks⟩ := RrArb.exists_picks (by decide) requests
  have chosen : (path.intReq inp pick).valid = true := by
    have asks := picks.requests
    rw [ready.reqD] at asks
    exact asks
  refine ⟨pick, chosen, ?_, fun other => ?_, fun other turn asks => ?_⟩
  · have data := picks.dataO RegBusReq.zero
    have valid : path.mux.arbiter.reqO streamArbiterParams
        (RegMux.arbIn (path.intReq inp) .zero) = true := picks.reqO
    have same : path.mux.arbiter.dataO streamArbiterParams
        (RegMux.arbIn (path.intReq inp) .zero) .zero = path.intReq inp pick := data
    unfold CsrPath.csrReqO RegMux.outReqO
    rw [same, valid]
    cases request : path.intReq inp pick
    rw [request] at chosen
    cases chosen
    rfl
  · have granted := picks.gntO other
    unfold CsrPath.intRsp RegMux.inRspO
    exact granted.trans (Bool.true_and _)
  · refine picks.turn other turn ?_
    rw [ready.reqD]
    exact asks

theorem CsrReady.hart_of_pick (valid : (path.intReq inp hartPort).valid = true)
    (taken : (path.intRsp inp hartPort).ready = true) :
    ∃ hart, (∀ other, path.hartServed inp other = decide (other = hart)) ∧
      path.wrapperCsrReq inp = inp.hartReqI hart := by
  have granted : path.xbar.slaveGranted (path.hartsIn inp) = true := by
    rw [harts_slaveGranted, taken, Bool.and_true]
    exact valid
  exact ready.free.slaveGranted sound granted

theorem CsrReady.port_of_hart {hart : Fin 3} (served : path.hartServed inp hart = true) :
    (path.intReq inp hartPort).valid = true ∧ (path.intRsp inp hartPort).ready = true := by
  have granted : path.xbar.slaveGranted (path.hartsIn inp) = true :=
    ready.free.slaveGranted_of_master sound served
  rw [harts_slaveGranted, Bool.and_eq_true] at granted
  exact granted

/-- A cycle serves nobody and writes nothing, or serves one master its access. -/
theorem CsrReady.served_cases :
    ((∀ who, path.served inp who = false) ∧ (path.csrReqO inp).valid = false) ∨
      ∃ who, (∀ other, path.served inp other = decide (other = who)) ∧
        path.csrReqO inp = inp.csrAccess who := by
  by_cases some : ∃ port, (path.intReq inp port).valid = true
  · obtain ⟨port, valid⟩ := some
    obtain ⟨pick, chosen, passed, taken, -⟩ := ready.pick valid
    right
    have ports : pick = hostPort ∨ pick = hartPort := by
      unfold hostPort hartPort
      omega
    rcases ports with rfl | rfl
    · refine ⟨.host, fun other => ?_, passed⟩
      cases other with
      | host =>
        have asks : inp.hostReqI.valid = true := chosen
        have given : (path.hostRspO inp).ready = true := (taken hostPort).trans (by simp)
        simp [CsrPath.served, CsrPath.hostServed, asks, given]
      | hart index =>
        rw [decide_eq_false (by simp), ← Bool.not_eq_true]
        intro served
        have given := (ready.port_of_hart served).2
        rw [taken] at given
        exact absurd given (by decide)
    · have given : (path.intRsp inp hartPort).ready = true := (taken hartPort).trans (by simp)
      obtain ⟨hart, alone, request⟩ := ready.hart_of_pick chosen given
      refine ⟨.hart hart, fun other => ?_, ?_⟩
      · cases other with
        | host =>
          have lost : (path.hostRspO inp).ready = false := (taken hostPort).trans (by decide)
          simp [CsrPath.served, CsrPath.hostServed, lost]
        | hart index =>
          have same := alone index
          simpa [CsrPath.served] using same
      · rw [passed]
        exact congrArg PeriphToReg.regReqO request
  · left
    have none : ∀ port, (path.intReq inp port).valid = false := by
      intro port
      rw [← Bool.not_eq_true]
      exact fun valid => some ⟨port, valid⟩
    constructor
    · intro who
      cases who with
      | host =>
        have quiet : inp.hostReqI.valid = false := none hostPort
        simp [CsrPath.served, CsrPath.hostServed, quiet]
      | hart index =>
        rw [← Bool.not_eq_true]
        intro served
        have valid := (ready.port_of_hart served).1
        rw [none] at valid
        cases valid
    · rw [← Bool.not_eq_true]
      intro valid
      have requested : path.mux.arbiter.reqO streamArbiterParams
          (RegMux.arbIn (path.intReq inp) .zero) = true := valid
      obtain ⟨port, asks⟩ := (RrArb.reqO_iff (by decide)).mp requested
      rw [ready.reqD] at asks
      exact some ⟨port, asks⟩

theorem CsrReady.next : CsrReady (path.next inp) where
  ports hart inflight := by
    have granted := (ready.free.next hart).symm.trans inflight
    have passed : path.xbar.slaveGranted (path.hartsIn inp) = true :=
      ready.free.slaveGranted_of_master sound granted
    rw [harts_slaveGranted] at passed
    exact passed
  state waiting := by
    have moved : (path.xbar.next (path.hartsIn inp)).stateQ = _ :=
      stateQ_next_of_unblocked ready.unblocked
    have granted : path.xbar.slaveGranted (path.hartsIn inp) = true := by
      by_contra quiet
      rw [if_neg quiet] at moved
      have still : (path.xbar.next (path.hartsIn inp)).stateQ = .outstandingWaitforValid := waiting
      rw [moved] at still
      cases still
    rw [harts_slaveGranted] at granted
    exact granted
  unlocked := by
    change (path.mux.arbiter.reqO streamArbiterParams
      (RegMux.arbIn (path.intReq inp) (path.csrRsp inp)) && !true) = false
    exact Bool.and_false _
  muxCounter := rrQ_next_lt (by decide) streamArbiterParams _ ready.muxCounter
  arbCounter := rrQ_next_lt (by decide) xbarParams _ ready.arbCounter

omit ready in
theorem CsrReady.init : CsrReady .reset where
  ports hart inflight := by cases inflight
  state waiting := by cases waiting
  unlocked := rfl
  muxCounter := by decide
  arbCounter := by decide

end Cycle

/-! ## The registers over a run -/

section Run
variable (inputs : Nat → CsrPathIn)

def csrAt : Nat → CsrPath := csrPath.run inputs

theorem csrReady_run (cycle : Nat) : CsrReady (csrAt inputs cycle) := by
  induction cycle with
  | zero => exact CsrReady.init
  | succ cycle ih => exact ih.next

/-- The inputs of the registers when the masters come one at a time in `order`. -/
def serialInputs (order : Nat → Option CsrMaster) (cycle : Nat) : CtrlIn :=
  { (inputs cycle).hardware with
    req :=
      match order cycle with
      | none => RegBusReq.zero.regReq
      | some who => ((inputs cycle).csrAccess who).regReq }

def ServedInOrder (order : Nat → Option CsrMaster) : Prop :=
  ∀ cycle who, (csrAt inputs cycle).served (inputs cycle) who = true ↔ order cycle = some who

theorem exists_servedInOrder : ∃ order, ServedInOrder inputs order := by
  have choice : ∀ cycle, ∃ one : Option CsrMaster, ∀ who,
      (csrAt inputs cycle).served (inputs cycle) who = true ↔ one = some who := by
    intro cycle
    have cases_ : (∀ who, (csrAt inputs cycle).served (inputs cycle) who = false) ∧ _ ∨ _ :=
      (csrReady_run inputs cycle).served_cases
    rcases cases_ with ⟨nobody, -⟩ | ⟨one, alone, -⟩
    · exact ⟨none, fun who => by simp [nobody who]⟩
    · exact ⟨some one, fun who => by simp [alone who, eq_comm]⟩
  exact ⟨fun cycle => (choice cycle).choose, fun cycle => (choice cycle).choose_spec⟩

end Run

theorem ctrl_next_of_invalid (ctrl : SafeWrapperCtrl) (hardware : CtrlIn) {left right : RegReq}
    (leftInvalid : left.valid = false) (rightInvalid : right.valid = false) :
    ctrl.next { hardware with req := left } = ctrl.next { hardware with req := right } := by
  have quiet : ∀ (req : RegReq), req.valid = false → ∀ offset, req.writes offset = false := by
    intro req invalid offset
    simp [RegReq.writes, RegReq.regWe, invalid]
  simp only [SafeWrapperCtrl.next, quiet left leftInvalid, quiet right rightInvalid, subregRw,
    Bool.false_or, Bool.false_eq_true, if_false]
  rfl

section Served
variable {inputs : Nat → CsrPathIn} {cycle : Nat}

theorem csrReqO_of_served {who : CsrMaster}
    (served : (csrAt inputs cycle).served (inputs cycle) who = true) :
    (csrAt inputs cycle).csrReqO (inputs cycle) = (inputs cycle).csrAccess who := by
  rcases (csrReady_run inputs cycle).served_cases with ⟨nobody, -⟩ | ⟨one, alone, request⟩
  · rw [nobody] at served
    cases served
  · rw [alone, decide_eq_true_eq] at served
    rw [request, served]

theorem hart_rvalid_iff_served (hart : Fin 3) :
    ((csrAt inputs (cycle + 1)).hartRespO (inputs (cycle + 1)) hart).rvalid = true ↔
      (csrAt inputs cycle).served (inputs cycle) (.hart hart) = true := by
  have inflight : (((csrAt inputs (cycle + 1)).xbar.ports hart).validInflightQ) =
      (csrAt inputs cycle).hartServed (inputs cycle) hart :=
    (csrReady_run inputs cycle).free.next hart
  have valid : ((csrAt inputs (cycle + 1)).hartRespO (inputs (cycle + 1)) hart).rvalid =
      ((csrAt inputs (cycle + 1)).bridge.rValidQ &&
        ((csrAt inputs (cycle + 1)).xbar.ports hart).validInflightQ) := rfl
  rw [valid, Bool.and_eq_true, inflight]
  refine ⟨fun both => both.2, fun served => ⟨?_, served⟩⟩
  exact (csrReady_run inputs (cycle + 1)).ports hart (inflight.trans served)

theorem hart_rdata_of_served {hart : Fin 3}
    (served : (csrAt inputs cycle).served (inputs cycle) (.hart hart) = true) :
    ((csrAt inputs (cycle + 1)).hartRespO (inputs (cycle + 1)) hart).rdata =
      (csrAt inputs cycle).ctrl.rdata (((inputs cycle).hartReqI hart).addr.truncate 6) := by
  have data : ((csrAt inputs (cycle + 1)).hartRespO (inputs (cycle + 1)) hart).rdata =
      (csrAt inputs cycle).ctrl.rdata
        ((csrAt inputs cycle).csrReqO (inputs cycle)).regReq.addr := rfl
  rw [data, csrReqO_of_served served]
  rfl

end Served

section Serial
variable {inputs : Nat → CsrPathIn} {order : Nat → Option CsrMaster}
  (inOrder : ServedInOrder inputs order)
include inOrder

theorem csrReqO_of_order {cycle : Nat} {who : CsrMaster} (turn : order cycle = some who) :
    (csrAt inputs cycle).csrReqO (inputs cycle) = (inputs cycle).csrAccess who :=
  csrReqO_of_served ((inOrder cycle who).mpr turn)

theorem csrReqO_invalid_of_order {cycle : Nat} (turn : order cycle = none) :
    ((csrAt inputs cycle).csrReqO (inputs cycle)).valid = false := by
  rcases (csrReady_run inputs cycle).served_cases with ⟨-, invalid⟩ | ⟨one, alone, -⟩
  · exact invalid
  · have served := (alone one).trans (decide_eq_true rfl)
    rw [inOrder, turn] at served
    cases served

theorem ctrl_of_order (cycle : Nat) :
    (csrAt inputs cycle).ctrl = safeWrapperCtrl.run (serialInputs inputs order) cycle := by
  induction cycle with
  | zero => rfl
  | succ cycle ih =>
    have moved : (csrAt inputs (cycle + 1)).ctrl = (csrAt inputs cycle).ctrl.next
        { (inputs cycle).hardware with
          req := ((csrAt inputs cycle).csrReqO (inputs cycle)).regReq } := rfl
    rw [Synchronous.Machine.run_succ, ← ih, moved]
    cases turn : order cycle with
    | none =>
      have serial : serialInputs inputs order cycle =
          { (inputs cycle).hardware with req := RegBusReq.zero.regReq } := by
        simp only [serialInputs, turn]
      rw [serial]
      exact ctrl_next_of_invalid _ _ (csrReqO_invalid_of_order inOrder turn) rfl
    | some who =>
      have serial : serialInputs inputs order cycle =
          { (inputs cycle).hardware with req := ((inputs cycle).csrAccess who).regReq } := by
        simp only [serialInputs, turn]
      rw [serial, csrReqO_of_order inOrder turn]
      rfl

end Serial

/-- Host and harts access the control registers one at a time: there is an order of
the accesses such that the registers run as if each cycle brought its access
alone, the host reads the registers in the cycle it is served, and a hart gets in
the next cycle what it read in the cycle it was served, and no other hart does. -/
theorem csr_accesses_are_serial (inputs : Nat → CsrPathIn) :
    ∃ order : Nat → Option CsrMaster, ServedInOrder inputs order ∧ ∀ cycle,
      (csrAt inputs cycle).ctrl = safeWrapperCtrl.run (serialInputs inputs order) cycle ∧
      (order cycle = some .host →
        (csrAt inputs cycle).hostRspO (inputs cycle) =
          (csrAt inputs cycle).ctrl.regRspO (inputs cycle).hostReqI) ∧
      ∀ hart,
        (((csrAt inputs (cycle + 1)).hartRespO (inputs (cycle + 1)) hart).rvalid = true ↔
          order cycle = some (.hart hart)) ∧
        (order cycle = some (.hart hart) →
          ((csrAt inputs (cycle + 1)).hartRespO (inputs (cycle + 1)) hart).rdata =
            (csrAt inputs cycle).ctrl.rdata
              (((inputs cycle).hartReqI hart).addr.truncate 6)) := by
  obtain ⟨order, inOrder⟩ := exists_servedInOrder inputs
  refine ⟨order, inOrder, fun cycle => ⟨ctrl_of_order inOrder cycle, fun turn => ?_,
    fun hart => ⟨?_, fun turn => ?_⟩⟩⟩
  · have request := csrReqO_of_order inOrder turn
    have served := (inOrder cycle .host).mpr turn
    unfold CsrPath.served CsrPath.hostServed at served
    rw [Bool.and_eq_true] at served
    have access : (inputs cycle).csrAccess .host = (inputs cycle).hostReqI := rfl
    rw [access] at request
    have parts : (csrAt inputs cycle).hostRspO (inputs cycle) =
        { (csrAt inputs cycle).csrRsp (inputs cycle) with
          ready := ((csrAt inputs cycle).hostRspO (inputs cycle)).ready } := rfl
    rw [parts, served.2, CsrPath.csrRsp, request]
    rfl
  · rw [hart_rvalid_iff_served, inOrder]
  · exact hart_rdata_of_served ((inOrder cycle (.hart hart)).mpr turn)

/-! ## Waiting -/

def CsrPathIn.requests (inp : CsrPathIn) : CsrMaster → Bool
  | .host => inp.hostReqI.valid
  | .hart index => (inp.hartReqI index).req

/-- The services a master lets pass: a hart shares the bus with the host, one way
in two, and its port with the other harts. -/
def CsrPath.patience (path : CsrPath) : CsrMaster → Nat
  | .host => RoundRobin.distance 2 path.mux.arbiter.rrQ hostPort
  | .hart index =>
      2 * RoundRobin.distance 3 path.arb.rrQ index +
        RoundRobin.distance 2 path.mux.arbiter.rrQ hartPort

def CsrMaster.bound : CsrMaster → Nat
  | .host => 2
  | .hart _ => 6

section Waiting
variable {path : CsrPath} {inp : CsrPathIn} (ready : CsrReady path)
include ready

theorem CsrReady.patience_lt (who : CsrMaster) : path.patience who < who.bound := by
  cases who with
  | host => exact RoundRobin.distance_lt ready.muxCounter (by decide)
  | hart index =>
    have near := RoundRobin.distance_lt ready.arbCounter index.isLt
    have turn := RoundRobin.distance_lt ready.muxCounter (by decide : (hartPort : Nat) < 2)
    change 2 * _ + _ < 6
    omega

theorem CsrReady.bus_nearer {port : Fin 2} (valid : (path.intReq inp port).valid = true)
    (lost : (path.intRsp inp port).ready = false) :
    RoundRobin.distance 2 (path.next inp).mux.arbiter.rrQ port <
      RoundRobin.distance 2 path.mux.arbiter.rrQ port := by
  let busIn := RegMux.arbIn (path.intReq inp) (path.csrRsp inp)
  have asks : path.mux.arbiter.reqD streamArbiterParams busIn port = true := by
    rw [ready.reqD]
    exact valid
  have requested : path.mux.arbiter.reqO streamArbiterParams busIn = true :=
    (RrArb.reqO_iff (by decide)).mpr ⟨port, asks⟩
  have serves : path.mux.arbiter.serves streamArbiterParams busIn = true := by
    rw [RrArb.serves, requested]
    rfl
  have moved : (path.next inp).mux.arbiter.rrQ =
      path.mux.arbiter.nextIdx streamArbiterParams busIn := if_pos serves
  rw [moved]
  exact RrArb.nearer_of_waits (by decide) ready.muxCounter rfl asks lost

theorem CsrReady.hart_reqD (index : Fin 3) :
    path.arb.reqD xbarParams (path.arbIn inp) index = (inp.hartReqI index).req :=
  ready.free.slReq index

theorem CsrReady.hartPort_valid {index : Fin 3} (requests : (inp.hartReqI index).req = true) :
    (path.intReq inp hartPort).valid = true := by
  have asks : path.xbar.slReq (path.hartsIn inp) index = true :=
    (ready.free.slReq index).trans requests
  have passed : path.xbar.xbarSlaveReqReq (path.hartsIn inp) = true :=
    ((sound : (path.hartsIn inp).arbiter.Sound).requests _).mpr ⟨index, asks⟩
  have request : (path.xbar.slaveReqO (path.hartsIn inp)).req = true :=
    (if_pos ready.unblocked).trans passed
  exact request

theorem CsrReady.gntI {index : Fin 3} (requests : (inp.hartReqI index).req = true) :
    (path.arbIn inp).gntI = (path.intRsp inp hartPort).ready := by
  have request := ready.hartPort_valid requests
  have granted : path.bridgeGnt inp = (path.intRsp inp hartPort).ready :=
    (congrArg (· && (path.intRsp inp hartPort).ready) request).trans (Bool.true_and _)
  exact (if_pos ready.unblocked).trans granted

theorem CsrReady.patience_next {who : CsrMaster} (requests : inp.requests who = true)
    (waits : path.served inp who = false) :
    (path.next inp).patience who < path.patience who := by
  cases who with
  | host =>
    have valid : (path.intReq inp hostPort).valid = true := requests
    refine ready.bus_nearer valid ?_
    have asks : inp.hostReqI.valid = true := requests
    unfold CsrPath.served CsrPath.hostServed at waits
    rwa [asks, Bool.true_and] at waits
  | hart index =>
    have asks : (inp.hartReqI index).req = true := requests
    have valid := ready.hartPort_valid asks
    have given := ready.gntI asks
    cases taken : (path.intRsp inp hartPort).ready with
    | false =>
      -- the host goes first and the counter of the harts stays
      have nearer := ready.bus_nearer valid taken
      have idle : path.arb.serves xbarParams (path.arbIn inp) = false := by
        rw [RrArb.serves, given, taken, Bool.false_and]
      have still : (path.next inp).arb.rrQ = path.arb.rrQ :=
        if_neg (by rw [idle]; exact Bool.false_ne_true)
      simp only [CsrPath.patience, still]
      omega
    | true =>
      -- another hart goes first
      have reqD := (ready.hart_reqD index).trans asks
      have lost : path.arb.gntO xbarParams (path.arbIn inp) index = false := by
        have waiting : ((inp.hartReqI index).req && (path.hartRespO inp index).gnt) = false := waits
        rw [asks, Bool.true_and] at waiting
        exact waiting
      have passed : path.arb.reqO xbarParams (path.arbIn inp) = true :=
        (RrArb.reqO_iff (by decide)).mpr ⟨index, reqD⟩
      have serves : path.arb.serves xbarParams (path.arbIn inp) = true := by
        rw [RrArb.serves, given, taken, passed]
        rfl
      have moved : (path.next inp).arb.rrQ = path.arb.nextIdx xbarParams (path.arbIn inp) :=
        if_pos serves
      have nearer := RrArb.nearer_of_waits (by decide) ready.arbCounter (given.trans taken) reqD lost
      have later : CsrReady (path.next inp) := ready.next
      have turn := RoundRobin.distance_lt later.muxCounter (by decide : (hartPort : Nat) < 2)
      simp only [CsrPath.patience, moved]
      omega

end Waiting

/-- A master that requests for as many cycles as its patience is served in one of
them. -/
theorem served_within_patience (inputs : Nat → CsrPathIn) (who : CsrMaster) :
    ∀ patience start, (csrAt inputs start).patience who ≤ patience →
      (∀ cycle, start ≤ cycle → cycle ≤ start + patience →
        (inputs cycle).requests who = true) →
      ∃ cycle, start ≤ cycle ∧ cycle ≤ start + patience ∧
        (csrAt inputs cycle).served (inputs cycle) who = true := by
  intro patience
  induction patience with
  | zero =>
    intro start least asks
    refine ⟨start, le_rfl, le_rfl, ?_⟩
    by_contra waits
    have less := (csrReady_run inputs start).patience_next (asks start le_rfl le_rfl)
      (Bool.not_eq_true _ ▸ waits)
    omega
  | succ patience ih =>
    intro start least asks
    by_cases served : (csrAt inputs start).served (inputs start) who = true
    · exact ⟨start, le_rfl, by omega, served⟩
    · have less : (csrAt inputs (start + 1)).patience who < (csrAt inputs start).patience who :=
        (csrReady_run inputs start).patience_next (asks start le_rfl (by omega))
          (Bool.not_eq_true _ ▸ served)
      obtain ⟨cycle, later, soon, served⟩ := ih (start + 1) (by omega)
        fun cycle from_ upto => asks cycle (by omega) (by omega)
      exact ⟨cycle, by omega, by omega, served⟩

/-- A master that keeps requesting is served: the host within two cycles, a hart
within six, whatever the others request. -/
theorem csr_serves_every_master (inputs : Nat → CsrPathIn) (who : CsrMaster) (start : Nat)
    (asks : ∀ cycle, start ≤ cycle → cycle < start + who.bound →
      (inputs cycle).requests who = true) :
    ∃ cycle, start ≤ cycle ∧ cycle < start + who.bound ∧
      (csrAt inputs cycle).served (inputs cycle) who = true := by
  have least := (csrReady_run inputs start).patience_lt who
  obtain ⟨cycle, from_, upto, served⟩ := served_within_patience inputs who (who.bound - 1) start
    (by omega) fun cycle from_ upto => asks cycle from_ (by omega)
  exact ⟨cycle, from_, by omega, served⟩

/-- Host and harts all request in every cycle. -/
def busyCsr (_ : Nat) : CsrPathIn where
  hartReqI hart := ⟨true, false, 0xF, BitVec.ofNat 32 (4 * hart), 0⟩
  hostReqI := ⟨true, false, 0xF, 0x8, 0⟩
  hardware := ⟨RegBusReq.zero.regReq, false, false, false, 0, 0, false, false⟩

theorem busyCsr_served : ∃ cycle, 0 ≤ cycle ∧ cycle < 0 + 6 ∧
    (csrAt busyCsr cycle).served (busyCsr cycle) (.hart 2) = true :=
  csr_serves_every_master busyCsr (.hart 2) 0 fun _ _ _ => rfl

end Eros
