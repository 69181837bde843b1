import Mathlib.Data.Fintype.Basic
import Mathlib.Tactic.Common

/-!
# `addr_dec_resp_mux_varlat`

The port of one master on a crossbar.  One request at a time is in flight: the
next one is kept from the targets until the answer of the first comes back, and
may leave in the cycle of that answer.  With several targets the grant is held
back together with the request and the answer is taken from the target that was
granted last; with a single target only the request is held back, the grant of
the target passes straight through.
-/

set_option autoImplicit false

namespace Eros

/-- `valid_inflight_d`, the same in both cases: `vldO` is the answer that frees
the port. -/
def validInflightNext (inflight vldO reqI gntO : Bool) : Bool :=
  if !inflight then reqI && gntO
  else if vldO then reqI && gntO
  else inflight

@[simp] theorem validInflightNext_idle (vldO reqI gntO : Bool) :
    validInflightNext false vldO reqI gntO = (reqI && gntO) := rfl

/-- `gen_several_outputs` with `NumOut = outs` and `AggregateGnt = 1`. -/
structure SeveralOutputs (outs : Nat) where
  validInflightQ : Bool
  bankSelQ : Fin outs

/-- What one port sees in a cycle: its master's request with the decoded target,
and the grants and answers of all targets. -/
structure RespMuxIn (outs : Nat) where
  reqI : Bool
  addI : Fin outs
  gntI : Fin outs → Bool
  vldI : Fin outs → Bool

namespace SeveralOutputs
variable {outs : Nat} (port : SeveralOutputs outs) (inp : RespMuxIn outs)

def vldO (vldI : Fin outs → Bool) : Bool := vldI port.bankSelQ && port.validInflightQ

/-- A request of this cycle reaches its target and may be granted. -/
def passes (vldI : Fin outs → Bool) : Bool :=
  if !port.validInflightQ then true else port.vldO vldI

def reqO (reqI : Bool) (addI : Fin outs) (vldI : Fin outs → Bool) : Fin outs → Bool :=
  fun target => if port.passes vldI then reqI && decide (target = addI) else false

def gntO (gntI vldI : Fin outs → Bool) : Bool :=
  if port.passes vldI then decide (∃ target, gntI target = true) else false

def next : SeveralOutputs outs where
  validInflightQ :=
    validInflightNext port.validInflightQ (port.vldO inp.vldI) inp.reqI
      (port.gntO inp.gntI inp.vldI)
  bankSelQ := if inp.reqI && port.gntO inp.gntI inp.vldI then inp.addI else port.bankSelQ

section Idle
variable {port} {inp} (idle : port.validInflightQ = false)
include idle

theorem passes_of_idle (vldI : Fin outs → Bool) : port.passes vldI = true := by
  simp [passes, idle]

theorem reqO_of_idle (reqI : Bool) (addI : Fin outs) (vldI : Fin outs → Bool)
    (target : Fin outs) : port.reqO reqI addI vldI target = (reqI && decide (target = addI)) := by
  simp [reqO, passes_of_idle idle]

theorem gntO_of_idle (gntI vldI : Fin outs → Bool) :
    port.gntO gntI vldI = decide (∃ target, gntI target = true) := by
  simp [gntO, passes_of_idle idle]

theorem next_idle (ungranted : port.gntO inp.gntI inp.vldI = false) :
    (port.next inp).validInflightQ = false := by
  simp [next, idle, ungranted]

theorem next_granted (requests : inp.reqI = true)
    (granted : port.gntO inp.gntI inp.vldI = true) : port.next inp = ⟨true, inp.addI⟩ := by
  simp [next, idle, requests, granted]

end Idle

theorem waits {vldI : Fin outs → Bool} (inflight : port.validInflightQ = true)
    (unanswered : vldI port.bankSelQ = false) :
    port.vldO vldI = false ∧ port.passes vldI = false := by
  simp [passes, vldO, inflight, unanswered]

theorem next_waiting (inflight : port.validInflightQ = true)
    (unanswered : inp.vldI port.bankSelQ = false) : port.next inp = port := by
  obtain ⟨quiet, blocked⟩ := port.waits inflight unanswered
  cases port
  simp_all [next, gntO, validInflightNext]

end SeveralOutputs

/-- `gen_one_output`: the register of a port with a single target. -/
structure OneOutput where
  validInflightQ : Bool

namespace OneOutput
variable (port : OneOutput)

def vldO (vldI : Bool) : Bool := vldI && port.validInflightQ

def reqO (reqI vldI : Bool) : Bool :=
  if !port.validInflightQ then reqI
  else if port.vldO vldI then (if reqI then reqI else false)
  else false

/-- The grant passes through, also to a master whose request is held back. -/
def gntO (gntI : Bool) : Bool := gntI

def next (reqI gntI vldI : Bool) : OneOutput where
  validInflightQ :=
    validInflightNext port.validInflightQ (port.vldO vldI) reqI (gntO gntI)

variable {port} in
theorem reqI_of_reqO {reqI vldI : Bool} (requests : port.reqO reqI vldI = true) : reqI = true := by
  unfold reqO at requests
  split_ifs at requests
  · exact requests
  · exact requests

end OneOutput

end Eros
