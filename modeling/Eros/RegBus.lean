import Eros.RrArb

/-!
# The register bus

`reg_req_t` and `reg_rsp_t`, the bridge `periph_to_reg` from OBI, `reg_demux`, and
`reg_mux` with the arbiter of `stream_arbiter`.  The bridge grants when the
register side is ready and answers in the next cycle; error and identifier of the
answer are not connected.
-/

set_option autoImplicit false

namespace Eros

structure RegBusReq where
  valid : Bool
  write : Bool
  wstrb : BitVec 4
  addr : Word
  wdata : Word
  deriving DecidableEq, Repr

structure RegBusRsp where
  error : Bool
  ready : Bool
  rdata : Word
  deriving DecidableEq, Repr

def RegBusReq.zero : RegBusReq := ⟨false, false, 0, 0, 0⟩
def RegBusRsp.zero : RegBusRsp := ⟨false, false, 0⟩

/-! ## `periph_to_reg` -/

structure PeriphToReg where
  rValidQ : Bool
  rRdataQ : Word

namespace PeriphToReg
variable (bridge : PeriphToReg) (request : ObiReq) (regRspI : RegBusRsp)

def reset : PeriphToReg := ⟨false, 0⟩

/-- `wen_i` is connected to the inverted write enable and inverted again. -/
def regReqO : RegBusReq where
  valid := request.req
  write := !(!request.we)
  wstrb := request.be
  addr := request.addr
  wdata := request.wdata

def gntO : Bool := request.req && regRspI.ready

def slaveRespO : ObiResp where
  gnt := gntO request regRspI
  rvalid := bridge.rValidQ
  rdata := bridge.rRdataQ

def next : PeriphToReg where
  rValidQ := gntO request regRspI
  rRdataQ := regRspI.rdata

end PeriphToReg

/-! ## `reg_demux` -/

def regDemuxReq {ports : Nat} (inSelectI : Fin ports) (inReqI : RegBusReq) :
    Fin ports → RegBusReq :=
  fun port => if port = inSelectI then inReqI else .zero

def regDemuxRsp {ports : Nat} (inSelectI : Fin ports) (outRspI : Fin ports → RegBusRsp) :
    RegBusRsp :=
  outRspI inSelectI

/-! ## `reg_mux` -/

/-- The state of its `stream_arbiter`. -/
structure RegMux (ports : Nat) where
  arbiter : RrArb ports

namespace RegMux
variable {ports : Nat} (mux : RegMux ports) (inReqI : Fin ports → RegBusReq)
  (outRspI : RegBusRsp)

def reset (ports : Nat) : RegMux ports := ⟨.reset ports⟩

def arbIn : RrArbIn RegBusReq ports where
  reqI port := (inReqI port).valid
  dataI := inReqI
  gntI := outRspI.ready

def outReqO : RegBusReq :=
  { mux.arbiter.dataO streamArbiterParams (arbIn inReqI outRspI) .zero with
    valid := mux.arbiter.reqO streamArbiterParams (arbIn inReqI outRspI) }

def inRspO (port : Fin ports) : RegBusRsp where
  ready := mux.arbiter.gntO streamArbiterParams (arbIn inReqI outRspI) port
  rdata := outRspI.rdata
  error := outRspI.error

def next : RegMux ports := ⟨mux.arbiter.next streamArbiterParams (arbIn inReqI outRspI)⟩

end RegMux

end Eros
