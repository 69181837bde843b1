import Eros.Obi

/-!
# `dmr_comparator`

Two requests of each bus, the first one the master's.  Any mismatch on either
bus gates both outputs to zero and raises the error.
-/

set_option autoImplicit false

namespace Eros

/-- The two requests a comparator sees on one bus: index 0 and index 1. -/
structure ReqPair where
  master : ObiReq
  slave : ObiReq

/-- The mismatch condition of one bus: the address counts when both request,
the write data when both write. -/
def comparatorMismatch (pair : ReqPair) : Bool :=
  (decide (pair.master.addr ≠ pair.slave.addr) && pair.master.req && pair.slave.req) ||
    (decide (pair.master.wdata ≠ pair.slave.wdata) && pair.master.we && pair.slave.we) ||
    decide (pair.master.be ≠ pair.slave.be) || (pair.master.we != pair.slave.we) ||
    (pair.master.req != pair.slave.req)

structure ComparatorOut where
  instr : ObiReq
  data : ObiReq
  error : Bool

def dmrComparator (instr data : ReqPair) : ComparatorOut :=
  let error := comparatorMismatch instr || comparatorMismatch data
  { instr := if error then .zero else instr.master
    data := if error then .zero else data.master
    error := error }

/-- What a silent comparator has checked on one bus. -/
def ReqPair.Agree (pair : ReqPair) : Prop :=
  pair.master.req = pair.slave.req ∧ pair.master.we = pair.slave.we ∧
    pair.master.be = pair.slave.be ∧
    (pair.master.req = true → pair.master.addr = pair.slave.addr) ∧
    (pair.master.we = true → pair.master.wdata = pair.slave.wdata)

theorem comparatorMismatch_eq_false_iff (pair : ReqPair) :
    comparatorMismatch pair = false ↔ pair.Agree := by
  obtain ⟨⟨mreq, mwe, mbe, maddr, mwdata⟩, ⟨sreq, swe, sbe, saddr, swdata⟩⟩ := pair
  cases mreq <;> cases sreq <;> cases mwe <;> cases swe <;>
    simp [comparatorMismatch, ReqPair.Agree] <;> tauto

theorem comparatorMismatch_of_eq (pair : ReqPair) (equal : pair.master = pair.slave) :
    comparatorMismatch pair = false := by
  unfold comparatorMismatch
  rw [equal]
  simp

theorem dmrComparator_error_eq_false_iff (instr data : ReqPair) :
    (dmrComparator instr data).error = false ↔ instr.Agree ∧ data.Agree := by
  simp [dmrComparator, comparatorMismatch_eq_false_iff]

theorem dmrComparator_error_of_req (instr data : ReqPair)
    (drives : (dmrComparator instr data).instr.req = true ∨
      (dmrComparator instr data).data.req = true) :
    (dmrComparator instr data).error = false := by
  by_contra raised
  have mismatch : (comparatorMismatch instr || comparatorMismatch data) = true :=
    Bool.not_eq_false _ ▸ raised
  simp [dmrComparator, mismatch] at drives

theorem dmrComparator_silent (instr data : ReqPair)
    (raised : (dmrComparator instr data).error = true) :
    (dmrComparator instr data).instr = .zero ∧ (dmrComparator instr data).data = .zero := by
  have mismatch : (comparatorMismatch instr || comparatorMismatch data) = true := raised
  simp [dmrComparator, mismatch]

theorem dmrComparator_of_agree (instr data : ReqPair) (instrAgree : instr.Agree)
    (dataAgree : data.Agree) :
    dmrComparator instr data = ⟨instr.master, data.master, false⟩ := by
  have instrQuiet := (comparatorMismatch_eq_false_iff instr).mpr instrAgree
  have dataQuiet := (comparatorMismatch_eq_false_iff data).mpr dataAgree
  simp [dmrComparator, instrQuiet, dataQuiet]

end Eros
