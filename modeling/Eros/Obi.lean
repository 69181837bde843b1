import Mathlib.Data.Fintype.Pi
import Mathlib.Tactic.Common
import Mathlib.Tactic.FinCases

/-!
# OBI signals

The request and response structs of `obi_pkg`, the hart index, and the
per-hart wire vectors (`logic [NHARTS-1:0]` with `NHARTS = 3`) used by every
module of the wrapper.
-/

set_option autoImplicit false

namespace Eros

abbrev Word := BitVec 32

/-- A hart number, `NHARTS = 3`. -/
abbrev Hart := Fin 3

/-! Constants for the index types of the harts and of the crossbar ports, so that a
literal index means the same term in every module. -/

instance neZero_one : @NeZero Nat Zero.ofOfNat0 1 := ⟨by decide⟩
instance neZero_two : @NeZero Nat Zero.ofOfNat0 2 := ⟨by decide⟩
instance neZero_three : @NeZero Nat Zero.ofOfNat0 3 := ⟨by decide⟩
instance neZero_five : @NeZero Nat Zero.ofOfNat0 5 := ⟨by decide⟩

/-- One wire for each hart. -/
abbrev HartWires := Hart → Bool

structure ObiReq where
  req : Bool
  we : Bool
  be : BitVec 4
  addr : Word
  wdata : Word
  deriving DecidableEq, Repr

structure ObiResp where
  gnt : Bool
  rvalid : Bool
  rdata : Word
  deriving DecidableEq, Repr

namespace ObiReq

/-- The all-zero struct, written `'0` in the source. -/
def zero : ObiReq := ⟨false, false, 0, 0, 0⟩

@[simp] theorem zero_req : zero.req = false := rfl
@[simp] theorem zero_we : zero.we = false := rfl

/-- The request with its write enable qualified by `req`. -/
def gateWe (request : ObiReq) : ObiReq := { request with we := request.we && request.req }

@[simp] theorem gateWe_req (request : ObiReq) : request.gateWe.req = request.req := rfl
@[simp] theorem gateWe_be (request : ObiReq) : request.gateWe.be = request.be := rfl
@[simp] theorem gateWe_addr (request : ObiReq) : request.gateWe.addr = request.addr := rfl
@[simp] theorem gateWe_wdata (request : ObiReq) : request.gateWe.wdata = request.wdata := rfl
@[simp] theorem gateWe_we (request : ObiReq) :
    request.gateWe.we = (request.we && request.req) := rfl

@[simp] theorem gateWe_gateWe (request : ObiReq) : request.gateWe.gateWe = request.gateWe := by
  simp [gateWe]

theorem gateWe_of_not_we (request : ObiReq) (reads : request.we = false) :
    request.gateWe = request := by
  cases request
  simp_all [gateWe]

end ObiReq

def ObiResp.zero : ObiResp := ⟨false, false, 0⟩

def oneHot (master : Hart) : HartWires := fun hart => decide (hart = master)

@[simp] theorem oneHot_self (master : Hart) : oneHot master master = true := by simp [oneHot]

theorem oneHot_of_ne {master hart : Hart} (other : hart ≠ master) :
    oneHot master hart = false := by
  simp [oneHot, other]

end Eros
