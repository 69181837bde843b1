import Eros.HartMachine
import Eros.SafeFsm

/-!
# The wrapper under its state machine

`safe_cpu_wrapper` as it is wired: the outputs of `safe_FSM` steer the muxes,
and the errors of the voters and comparators go back to it.  The control
registers are inputs, written by software at any time, and so are the harts and
the buses.
-/

set_option autoImplicit false

namespace Eros

structure SystemIn where
  hartReq : Hart → HartReq
  instrResp : Hart → ObiResp
  dataResp : Hart → ObiResp
  sleep : HartWires
  debugMode : HartWires
  hartIntcAck : HartWires
  /-- `debug_req_i`, the external debugger -/
  debugReq : Bool
  masterCore : HartWires
  dmrMask : HartWires
  safeConfiguration : BitVec 2
  criticalSection : Bool
  initialSyncMaster : Bool
  start : Bool
  endSwRoutine : Bool

structure SafeSystem (n : Nat) where
  wrapper : WrapperRegs n
  fsm : SafeFsm

namespace SafeSystem
variable {n : Nat} (sys : SafeSystem n) (inp : SystemIn)

def reset (n : Nat) : SafeSystem n where
  wrapper := .reset n
  fsm := .reset

/-- The inputs of `safe_FSM` with the two error inputs at 0: its outputs do not
depend on them. -/
def fsmWires (inp : SystemIn) : FsmIn where
  dmrMask := inp.dmrMask
  tmrCriticalSection := inp.criticalSection
  safeConfiguration := inp.safeConfiguration
  initialSyncMaster := inp.initialSyncMaster
  haltAck := inp.debugMode
  hartWfi := inp.sleep
  hartIntcAck := inp.hartIntcAck
  masterCore := inp.masterCore
  tmrError := false
  dmrError := fun _ => false
  start := inp.start
  endSwRoutine := inp.endSwRoutine

def mode : ModeSignals where
  tmrVoterEnable := sys.fsm.tmrVoterEnableO (fsmWires inp)
  dualMode := sys.fsm.dmrComparatorEnableO (fsmWires inp)
  delayed := sys.fsm.delayedO (fsmWires inp)
  dmrConfig := sys.fsm.dmrConfigO (fsmWires inp)
  dmrWfi := sys.fsm.wfiDmrO (fsmWires inp)

/-- `intr[hart]`: bit 17 is the synchronisation interrupt, bit 16 the one of the
software recovery. -/
def intr (hart : Hart) : Word :=
  (BitVec.ofBool (sys.fsm.interruptSyncO (fsmWires inp) hart) ++
    BitVec.ofBool (sys.fsm.interruptSwResyncO (fsmWires inp) hart) ++ 0#16).zeroExtend 32

def debugReq : HartWires := fun hart =>
  (inp.debugReq && sys.fsm.enExtDebugReqO && inp.masterCore hart) ||
    sys.fsm.interruptHaltO (fsmWires inp) hart

def wrapperIn : WrapperIn where
  mode := sys.mode inp
  hartReq := inp.hartReq
  instrResp := inp.instrResp
  dataResp := inp.dataResp
  intr := sys.intr inp
  debugReq := sys.debugReq inp
  masterCore := inp.masterCore
  sleep := inp.sleep

def fsmIn : FsmIn :=
  { fsmWires inp with
    tmrError := sys.wrapper.tmrError (sys.wrapperIn inp)
    dmrError := sys.wrapper.dmrError (sys.wrapperIn inp) }

def next : SafeSystem n where
  wrapper := sys.wrapper.next (sys.wrapperIn inp)
  fsm := sys.fsm.next (sys.fsmIn inp)

end SafeSystem

/-- The wrapper with `NCYCLES = n + 1` and its state machine, from reset. -/
def safeSystem (n : Nat) : Synchronous.Machine (SafeSystem n) SystemIn where
  init := .reset n
  next := SafeSystem.next

/-! ## A pair entering dual redundancy -/

/-- Harts 0 and 1 configured as a pair under `configuration`, hart 2 asleep, no
requests and a silent bus. -/
def pairSystemIn (configuration : BitVec 2) : SystemIn where
  hartReq := fun _ => ⟨.zero, .zero, .zero⟩
  instrResp := fun _ => .zero
  dataResp := fun _ => .zero
  sleep := fun hart => decide (hart = 2)
  debugMode := fun _ => false
  hartIntcAck := fun _ => false
  debugReq := false
  masterCore := oneHot 0
  dmrMask := fun hart => decide (hart ≠ 2)
  safeConfiguration := configuration
  criticalSection := false
  initialSyncMaster := false
  start := true
  endSwRoutine := false

/-- Every hart sleeps in cycle 1 and the pair acknowledges its halt in cycle 4.
It is in DMR_SYNC from cycle 6 on, where `running` takes over. -/
def enterPairThen (configuration : BitVec 2) (running : Nat → SystemIn) : Nat → SystemIn
  | 0 | 2 | 3 | 5 => pairSystemIn configuration
  | 1 => { pairSystemIn configuration with sleep := fun _ => true }
  | 4 => { pairSystemIn configuration with debugMode := fun hart => decide (hart ≠ 2) }
  | later + 6 => running later

/-- A hart that fetches from `addr`. -/
def fetching (addr : Word) : HartReq where
  instr := ⟨true, false, 0b1111, addr, 0⟩
  coreData := .zero
  data := .zero

/-- The bus grants (`gnt`) or answers (`rvalid`) at port 0 only. -/
def portZero (gnt rvalid : Bool) : Hart → ObiResp := fun port =>
  if port = 0 then ⟨gnt, rvalid, 0⟩ else .zero

end Eros
