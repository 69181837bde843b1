import Eros.Lib.Synchronous
import Eros.SafeCpuWrapper

/-!
# Harts attached to the wrapper

A hart is a deterministic synchronous machine: core, private data crossbar and
private registers together.  Its requests may depend on the inputs of the same
cycle, as they do through the private crossbar.  `Drives` says that the request
wires of one hart of a wrapper run are those of such a machine fed with what
the wrapper returns to that hart.
-/

set_option autoImplicit false

namespace Eros

/-- What a hart receives in one cycle. -/
structure HartIn where
  instrResp : ObiResp
  dataResp : ObiResp
  intr : Word
  debugReq : Bool

structure HartMachine (State : Type*) where
  request : State → HartIn → HartReq
  next : State → HartIn → State

def wrapperMachine (n : Nat) : Synchronous.Machine (WrapperRegs n) WrapperIn where
  init := .reset n
  next := WrapperRegs.next

def WrapperRegs.hartIn {n : Nat} (regs : WrapperRegs n) (inp : WrapperIn) (hart : Hart) : HartIn where
  instrResp := regs.coreInstrResp inp hart
  dataResp := regs.muxCoreDataResp inp hart
  intr := regs.coreIntr inp hart
  debugReq := regs.coreDebugReq inp hart

/-- Hart `hart` of the run is `machine`, in state `state cycle` at each cycle. -/
def HartMachine.Drives {State : Type*} {n : Nat} (machine : HartMachine State) (hart : Hart)
    (start : WrapperRegs n) (inputs : Nat → WrapperIn) (state : Nat → State) : Prop :=
  ∀ cycle,
    let received := ((wrapperMachine n).runFrom start inputs cycle).hartIn (inputs cycle) hart
    (inputs cycle).hartReq hart = machine.request (state cycle) received ∧
      state (cycle + 1) = machine.next (state cycle) received

theorem masterCoreFf_runFrom {n : Nat} {master : Hart} (start : WrapperRegs n)
    (inputs : Nat → WrapperIn) (latched : start.masterCoreFf = oneHot master)
    (offered : ∀ cycle, (inputs cycle).masterCore = oneHot master) (cycle : Nat) :
    ((wrapperMachine n).runFrom start inputs cycle).masterCoreFf = oneHot master := by
  apply (wrapperMachine n).runFrom_invariant (fun inp => inp.masterCore = oneHot master)
    (fun regs => regs.masterCoreFf = oneHot master) start inputs latched offered
  intro regs inp latched offered
  change (if inp.sleep = fun _ => true then inp.masterCore else regs.masterCoreFf) = oneHot master
  split_ifs
  · exact offered
  · exact latched

end Eros
