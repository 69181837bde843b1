import Eros.Lib.Majority
import Eros.Obi

/-!
# `tmr_voter`

The voter takes the instruction and data requests of the three harts, drives
the field-by-field majority of each bus, and names the harts that disagree with
it.  A disagreement in the address counts while the hart requests, one in the
write data while it writes; byte enables, write enable and request always count.
-/

set_option autoImplicit false

namespace Eros

/-- The field-by-field majority of `voted_core_*_req_s`. -/
def votedReq (request : Hart → ObiReq) : ObiReq where
  req := Majority.bit (request 0).req (request 1).req (request 2).req
  we := Majority.bit (request 0).we (request 1).we (request 2).we
  be := Majority.bits (request 0).be (request 1).be (request 2).be
  addr := Majority.bits (request 0).addr (request 1).addr (request 2).addr
  wdata := Majority.bits (request 0).wdata (request 1).wdata (request 2).wdata

/-- One iteration of a bus checker loop. -/
def voterDisagrees (voted request : ObiReq) (enable : Bool) : Bool :=
  ((decide (voted.addr ≠ request.addr) && request.req) ||
    (decide (voted.wdata ≠ request.wdata) && request.we) ||
    decide (voted.be ≠ request.be) || (voted.we != request.we) ||
    (voted.req != request.req)) && enable

structure VoterOut where
  instr : ObiReq
  data : ObiReq
  error : Bool
  errorId : HartWires

def tmrVoter (instr data : Hart → ObiReq) (enable : Bool) : VoterOut :=
  let votedInstr := votedReq instr
  let votedData := votedReq data
  let instrError : HartWires := fun hart => voterDisagrees votedInstr (instr hart) enable
  let dataError : HartWires := fun hart => voterDisagrees votedData (data hart) enable
  { instr := votedInstr
    data := votedData
    -- an error is issued only under a voted request
    error := ((instrError 0 || instrError 1 || instrError 2) && votedInstr.req) ||
      ((dataError 0 || dataError 1 || dataError 2) && votedData.req)
    errorId := fun hart => instrError hart || dataError hart }

theorem votedReq_of_agreement (request : Hart → ObiReq) (agreed : ObiReq) (odd : Hart)
    (agree : ∀ hart, hart ≠ odd → request hart = agreed) : votedReq request = agreed := by
  fin_cases odd
  · have one := agree 1 (by decide)
    have two := agree 2 (by decide)
    simp [votedReq, one, two, Majority.bit_right, Majority.bits_right]
  · have zero := agree 0 (by decide)
    have two := agree 2 (by decide)
    simp [votedReq, zero, two, Majority.bit_outer, Majority.bits_outer]
  · have zero := agree 0 (by decide)
    have one := agree 1 (by decide)
    simp [votedReq, zero, one, Majority.bit_left, Majority.bits_left]

end Eros
