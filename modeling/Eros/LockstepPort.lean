import Eros.DelayFifo

/-!
# One port of `lockstep_reg`

The two buses of a `lockstep_reg` run side by side.  A port is one of them: the
pair of requests on it, its response, its line and its response registers.  The
fetch bus carries no writes, so that the missing `we` gate of its second output
makes no difference.
-/

set_option autoImplicit false

namespace Eros

inductive LockstepPort
  | instr
  | data
  deriving DecidableEq

namespace LockstepReg
variable {n : Nat} (reg : LockstepReg n) (port : LockstepPort)

def line : ObiPipelinedDelay (n + 1) :=
  match port with
  | .instr => reg.instrReq
  | .data => reg.dataReq

def rvalidFf : Fin (n + 1) → Bool :=
  match port with
  | .instr => reg.instrRvalid
  | .data => reg.dataRvalid

def rdataFf : Fin (n + 1) → Word :=
  match port with
  | .instr => reg.instrRdata
  | .data => reg.dataRdata

def portReqO (pair : ReqPair) : ReqPair :=
  match port with
  | .instr => reg.instrReqO pair
  | .data => reg.dataReqO pair

def portRespO (pair : ReqPair) (resp : ObiResp) : RespPair :=
  match port with
  | .instr => reg.instrRespO pair resp
  | .data => reg.dataRespO pair resp

/-- One cycle with `enable_i = 1`; `other` is what the other bus sees. -/
def portNext (pair : ReqPair) (resp : ObiResp) (other : ReqPair) (otherResp : ObiResp) :
    LockstepReg n :=
  match port with
  | .instr => reg.next true pair other resp otherResp
  | .data => reg.next true other pair otherResp resp

variable (pair other : ReqPair) (resp otherResp : ObiResp)

theorem portReqO_master : (reg.portReqO port pair).master = (reg.line port).head := by
  cases port
  · exact reg.instrReq.reqO_eq_head pair.master
  · exact reg.dataReq.reqO_eq_head pair.master

theorem portReqO_slave (fetches : port = .instr → pair.slave.we = false) :
    (reg.portReqO port pair).slave = pair.slave.gateWe := by
  cases port
  · exact (ObiReq.gateWe_of_not_we _ (fetches rfl)).symm
  · rfl

theorem portRespO_master :
    (reg.portRespO port pair resp).master =
      ⟨(reg.line port).gntO pair.master resp.gnt, resp.rvalid, resp.rdata⟩ := by
  cases port <;> rfl

theorem portRespO_slave :
    (reg.portRespO port pair resp).slave =
      ⟨resp.gnt, reg.rvalidFf port (Fin.last n), reg.rdataFf port (Fin.last n)⟩ := by
  cases port <;> rfl

theorem portNext_line :
    (reg.portNext port pair resp other otherResp).line port =
      (reg.line port).next pair.master resp.gnt false := by
  cases port <;> rfl

theorem portNext_rvalidFf :
    (reg.portNext port pair resp other otherResp).rvalidFf port =
      DelayLine.shift resp.rvalid (reg.rvalidFf port) := by
  cases port <;> rfl

theorem portNext_rdataFf :
    (reg.portNext port pair resp other otherResp).rdataFf port =
      DelayLine.shift resp.rdata (reg.rdataFf port) := by
  cases port <;> rfl

end LockstepReg

/-- What `dmr_comparator` lets through on one bus while the other agrees. -/
def comparedReq (pair : ReqPair) : ObiReq := if comparatorMismatch pair then .zero else pair.master

/-! ## The line with its last register apart -/

theorem ObiReq.gateWe_of_req {request : ObiReq} (requests : request.req = true) :
    request.gateWe = request := by
  obtain ⟨req, we, be, addr, wdata⟩ := request
  cases requests
  simp [ObiReq.gateWe]

theorem sngregNext_idle {request held : ObiReq} (idle : request.req = false)
    (empty : held.req = false) (gntIn : Bool) :
    sngregNext request held gntIn false = request.gateWe := by
  simp [sngregNext, sngregClear, ObiReq.gateWe, idle, empty]

/-- While the last register waits for its grant, idle requests move up behind it. -/
theorem chainNext_stalled {front : List ObiReq} {head : ObiReq} (full : head.req = true)
    {request : ObiReq} (idle : ∀ sent ∈ request :: front, sent.req = false) :
    chainNext request false false (front ++ [head]) =
      ((request :: front).dropLast).map ObiReq.gateWe ++ [head] := by
  induction front generalizing request with
  | nil =>
    have kept := sngregNext_stalled request head full
    simpa [chainNext, chainGnt] using kept
  | cons held rest ih =>
    have behind := ih fun sent member => idle sent (List.mem_cons_of_mem _ member)
    have moved := sngregNext_idle (idle request List.mem_cons_self)
      (idle held (List.mem_cons_of_mem _ List.mem_cons_self))
      (chainGnt held false (rest ++ [head]))
    rw [List.cons_append, chainNext, behind, moved]
    rfl

theorem chainGnt_of_empty {request : ObiReq} (requests : request.req = true)
    {stages : List ObiReq} (nonempty : stages ≠ []) (empty : chainHeld stages = []) (gntIn : Bool) :
    chainGnt request gntIn stages = true := by
  cases stages with
  | nil => exact absurd rfl nonempty
  | cons held rest =>
    obtain ⟨_, first⟩ := List.append_eq_nil_iff.mp empty
    have idle : held.req = false := by
      by_contra full
      simp [occupied, Bool.eq_true_of_not_eq_false full] at first
    simp [chainGnt, sngregGnt, requests, idle]

theorem chainHeld_pos {stages : List ObiReq} {held : ObiReq} (member : held ∈ stages)
    (full : held.req = true) : 0 < (chainHeld stages).length := by
  induction stages with
  | nil => exact absurd member List.not_mem_nil
  | cons first rest ih =>
    rw [chainHeld, List.length_append]
    rcases List.mem_cons.mp member with rfl | later
    · simp [occupied, full]
    · have behind := ih later
      omega

theorem chainHeld_eq_nil {stages : List ObiReq} (idle : ∀ held ∈ stages, held.req = false) :
    chainHeld stages = [] := by
  induction stages with
  | nil => rfl
  | cons first rest ih =>
    rw [chainHeld, ih fun held member => idle held (List.mem_cons_of_mem _ member)]
    simp [occupied, idle first List.mem_cons_self]

theorem transfer_gateWe (request : ObiReq) (gnt : Bool) :
    transfer request.gateWe gnt = transfer request gnt := by
  cases requests : request.req with
  | false => simp [transfer, requests]
  | true => rw [ObiReq.gateWe_of_req requests]

end Eros
