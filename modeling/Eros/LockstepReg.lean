import Eros.DmrComparator
import Eros.Lib.DelayLine

/-!
# `obi_sngreg`, `obi_pipelined_delay` and `lockstep_reg`

The delay element of delayed lockstep.  The master's requests pass through a
chain of `NCYCLES` single-register stages that grant early; its responses are
handed back at once.  The checker's requests pass straight through, its grant
comes from the bus, and its `rvalid` and `rdata` come `NCYCLES` registers late.

`obi_pipelined_delay` instantiates its stages without the request type; the
chain below is the one over `obi_req_t`.  `NCYCLES = 1` is the single
`obi_sngreg`, so a chain of any positive length covers both generate branches.
The register count is written `n + 1`.
-/

set_option autoImplicit false

namespace Eros

/-! ## One stage -/

/-- `core_instr_resp_gnt_o` of `obi_sngreg`. -/
def sngregGnt (request held : ObiReq) (gntIn : Bool) : Bool :=
  (request.req && !held.req) || (gntIn && request.req)

def sngregClear (request held : ObiReq) (gntIn clearPipeline : Bool) : Bool :=
  (!request.req && gntIn) || (!request.req && !held.req) || clearPipeline

def sngregLoad (request held : ObiReq) (gntIn : Bool) : Bool :=
  (request.req && !held.req) || (request.req && gntIn)

/-- The five register processes of `obi_sngreg`.  In each of them the clear
branch is the last assignment, so it wins over the load. -/
def sngregNext (request held : ObiReq) (gntIn clearPipeline : Bool) : ObiReq :=
  if sngregClear request held gntIn clearPipeline then
    { req := false, we := false, be := request.be, addr := request.addr, wdata := request.wdata }
  else if sngregLoad request held gntIn then request
  else held

theorem map_gateWe_gateWe (requests : List ObiReq) :
    (requests.map ObiReq.gateWe).map ObiReq.gateWe = requests.map ObiReq.gateWe := by
  rw [List.map_map]
  exact List.map_congr_left fun request _ => request.gateWe_gateWe

/-- A stage whose register is granted whenever it requests takes whatever is
presented to it, with the write enable of an idle request dropped. -/
theorem sngregNext_unstalled (request held : ObiReq) :
    sngregNext request held held.req false = request.gateWe := by
  obtain ⟨req, we, be, addr, wdata⟩ := request
  obtain ⟨hreq, hwe, hbe, haddr, hwdata⟩ := held
  cases req <;> cases hreq <;> simp [sngregNext, sngregClear, sngregLoad, ObiReq.gateWe]

theorem sngregGnt_unstalled (request held : ObiReq) :
    sngregGnt request held held.req = request.req := by
  cases hr : request.req <;> cases hh : held.req <;> simp [sngregGnt, hr, hh]

/-! ## The chain of stages

`held` lists the stage registers from the input side. -/

/-- The grant returned to the requester by the first stage of the chain. -/
def chainGnt (request : ObiReq) (gntIn : Bool) : List ObiReq → Bool
  | [] => gntIn
  | held :: rest => sngregGnt request held (chainGnt held gntIn rest)

/-- `core_instr_req_o`: the register of the last stage. -/
def chainOut (request : ObiReq) : List ObiReq → ObiReq
  | [] => request
  | held :: rest => chainOut held rest

def chainNext (request : ObiReq) (gntIn clearPipeline : Bool) : List ObiReq → List ObiReq
  | [] => []
  | held :: rest =>
      sngregNext request held (chainGnt held gntIn rest) clearPipeline ::
        chainNext held gntIn clearPipeline rest

@[simp] theorem chainNext_length (request : ObiReq) (gntIn clearPipeline : Bool) :
    ∀ stages : List ObiReq,
      (chainNext request gntIn clearPipeline stages).length = stages.length := by
  intro stages
  induction stages generalizing request with
  | nil => rfl
  | cons held rest ih => simp [chainNext, ih]

theorem chainGnt_unstalled (request : ObiReq) :
    ∀ stages : List ObiReq,
      chainGnt request (chainOut request stages).req stages = request.req := by
  intro stages
  induction stages generalizing request with
  | nil => rfl
  | cons held rest ih =>
    simp only [chainGnt, chainOut]
    rw [ih held, sngregGnt_unstalled]

theorem chainNext_unstalled (request : ObiReq) :
    ∀ stages : List ObiReq,
      chainNext request (chainOut request stages).req false stages =
        ((request :: stages).dropLast).map ObiReq.gateWe := by
  intro stages
  induction stages generalizing request with
  | nil => rfl
  | cons held rest ih =>
    simp only [chainNext, chainOut, List.dropLast_cons_cons, List.map_cons]
    rw [chainGnt_unstalled, sngregNext_unstalled, ih held]

/-- `obi_sngreg` for one stage, `obi_pipelined_delay` above: a chain of exactly
`depth` request registers. -/
structure ObiPipelinedDelay (depth : Nat) where
  stages : List ObiReq
  length_eq : stages.length = depth

namespace ObiPipelinedDelay
variable {depth : Nat}

def fill (depth : Nat) (request : ObiReq) : ObiPipelinedDelay depth :=
  ⟨List.replicate depth request, List.length_replicate⟩

def reqO (line : ObiPipelinedDelay depth) (request : ObiReq) : ObiReq :=
  chainOut request line.stages

def gntO (line : ObiPipelinedDelay depth) (request : ObiReq) (gntIn : Bool) : Bool :=
  chainGnt request gntIn line.stages

def next (line : ObiPipelinedDelay depth) (request : ObiReq) (gntIn clearPipeline : Bool) :
    ObiPipelinedDelay depth :=
  ⟨chainNext request gntIn clearPipeline line.stages, by rw [chainNext_length, line.length_eq]⟩

theorem chainOut_eq_getLastD (request : ObiReq) (stages : List ObiReq) :
    chainOut request stages = stages.getLastD request := by
  induction stages generalizing request with
  | nil => rfl
  | cons held rest ih =>
    rw [List.getLastD_cons]
    exact ih held

theorem stages_ne_nil (line : ObiPipelinedDelay (depth + 1)) : line.stages ≠ [] := by
  intro empty
  have length := line.length_eq
  rw [empty] at length
  exact absurd length (by simp)

def head (line : ObiPipelinedDelay (depth + 1)) : ObiReq :=
  line.stages.getLast line.stages_ne_nil

theorem reqO_eq_head (line : ObiPipelinedDelay (depth + 1)) (request : ObiReq) :
    line.reqO request = line.head := by
  unfold reqO head
  rw [chainOut_eq_getLastD, List.getLastD_eq_getLast?, List.getLast?_eq_some_getLast
    line.stages_ne_nil, Option.getD_some]

theorem gntO_idle (line : ObiPipelinedDelay (depth + 1)) {request : ObiReq}
    (idle : request.req = false) (gntIn : Bool) : line.gntO request gntIn = false := by
  obtain ⟨stages, length⟩ := line
  cases stages with
  | nil => exact absurd length (by simp)
  | cons held rest => simp [gntO, chainGnt, sngregGnt, idle]

section Unstalled
variable (line : ObiPipelinedDelay (depth + 1)) (request : ObiReq)

theorem gntO_unstalled : line.gntO request line.head.req = request.req := by
  rw [← line.reqO_eq_head request]
  exact chainGnt_unstalled request line.stages

theorem next_unstalled :
    (line.next request line.head.req false).stages =
      ((request :: line.stages).dropLast).map ObiReq.gateWe := by
  rw [← line.reqO_eq_head request]
  exact chainNext_unstalled request line.stages

/-! A chain that holds what `emit` sends in the states of a run's history. -/

variable {line} {State : Type*} {emit : State → ObiReq} {idle : State} {stream : Nat → State}
  {cycle : Nat}

theorem head_of_history
    (holds : line.stages = (DelayLine.historyList idle stream (depth + 1) cycle).map
      fun state => (emit state).gateWe) :
    line.head = (emit (DelayLine.delayed idle stream (depth + 1) cycle)).gateWe := by
  have nonempty : DelayLine.historyList idle stream (depth + 1) cycle ≠ [] := by
    intro empty
    rw [empty] at holds
    exact line.stages_ne_nil holds
  unfold head
  rw [List.getLast_congr _ (by simpa using nonempty) holds, List.getLast_map,
    DelayLine.getLast_historyList]

theorem next_of_history
    (holds : line.stages = (DelayLine.historyList idle stream (depth + 1) cycle).map
      fun state => (emit state).gateWe) :
    (line.next (emit (stream cycle)) line.head.req false).stages =
      (DelayLine.historyList idle stream (depth + 1) (cycle + 1)).map
        fun state => (emit state).gateWe := by
  have gated : ∀ states : List State,
      (states.map fun state => (emit state).gateWe).map ObiReq.gateWe =
        states.map fun state => (emit state).gateWe := by
    intro states
    rw [← Function.comp_def, ← List.map_map]
    exact map_gateWe_gateWe (states.map emit)
  rw [line.next_unstalled, holds, List.map_dropLast, List.map_cons, gated,
    ← DelayLine.dropLast_cons_historyList, List.map_dropLast, List.map_cons]

end Unstalled

end ObiPipelinedDelay

/-! ## `lockstep_reg` -/

/-- The registers of one `lockstep_reg` with `NCYCLES = n + 1`. -/
structure LockstepReg (n : Nat) where
  instrReq : ObiPipelinedDelay (n + 1)
  dataReq : ObiPipelinedDelay (n + 1)
  instrRvalid : Fin (n + 1) → Bool
  instrRdata : Fin (n + 1) → Word
  dataRvalid : Fin (n + 1) → Bool
  dataRdata : Fin (n + 1) → Word

/-- `core_instr_resp_o` or `core_data_resp_o`: index 0 and index 1. -/
structure RespPair where
  master : ObiResp
  slave : ObiResp

namespace LockstepReg
variable {n : Nat}

def reset (n : Nat) : LockstepReg n where
  instrReq := .fill (n + 1) .zero
  dataReq := .fill (n + 1) .zero
  instrRvalid := fun _ => false
  instrRdata := fun _ => 0
  dataRvalid := fun _ => false
  dataRdata := fun _ => 0

def instrReqO (reg : LockstepReg n) (instr : ReqPair) : ReqPair where
  master := reg.instrReq.reqO instr.master
  slave := instr.slave

/-- On the data bus the checker's write enable is qualified by its request,
because a granted stage of the master's chain drops its write enable. -/
def dataReqO (reg : LockstepReg n) (data : ReqPair) : ReqPair where
  master := reg.dataReq.reqO data.master
  slave := data.slave.gateWe

def instrRespO (reg : LockstepReg n) (instr : ReqPair) (resp : ObiResp) : RespPair where
  master := ⟨reg.instrReq.gntO instr.master resp.gnt, resp.rvalid, resp.rdata⟩
  slave := ⟨resp.gnt, reg.instrRvalid (Fin.last n), reg.instrRdata (Fin.last n)⟩

def dataRespO (reg : LockstepReg n) (data : ReqPair) (resp : ObiResp) : RespPair where
  master := ⟨reg.dataReq.gntO data.master resp.gnt, resp.rvalid, resp.rdata⟩
  slave := ⟨resp.gnt, reg.dataRvalid (Fin.last n), reg.dataRdata (Fin.last n)⟩

def next (reg : LockstepReg n) (enable : Bool) (instr data : ReqPair)
    (instrResp dataResp : ObiResp) : LockstepReg n where
  instrReq := reg.instrReq.next instr.master instrResp.gnt (!enable)
  dataReq := reg.dataReq.next data.master dataResp.gnt (!enable)
  instrRvalid := if enable then DelayLine.shift instrResp.rvalid reg.instrRvalid
    else reg.instrRvalid
  instrRdata := if enable then DelayLine.shift instrResp.rdata reg.instrRdata
    else reg.instrRdata
  dataRvalid := if enable then DelayLine.shift dataResp.rvalid reg.dataRvalid
    else reg.dataRvalid
  dataRdata := if enable then DelayLine.shift dataResp.rdata reg.dataRdata
    else reg.dataRdata

end LockstepReg

end Eros
