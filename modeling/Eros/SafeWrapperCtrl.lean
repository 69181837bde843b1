import Eros.Lib.Synchronous
import Eros.Obi

/-!
# `safe_wrapper_ctrl` and its register file

The control registers the host and the harts write, with the hardware updates of
the start/end handshake and of the completion interrupt.  A register of the
generated register file takes the software's data when both sides write it.

The hardware write enable and data of `ENABLE_INTERRUPT` have no driver in the
source and are inputs here.
-/

set_option autoImplicit false

namespace Eros

/-! ## The register primitive -/

/-- `prim_subreg` with `SWACCESS = "RW"`: software has the higher priority. -/
def subregRw {α : Type} (we : Bool) (wd : α) (de : Bool) (d q : α) : α :=
  if we || de then (if we then wd else d) else q

/-- `prim_subreg` with `SWACCESS = "RO"`. -/
def subregRo {α : Type} (de : Bool) (d q : α) : α := if de then d else q

/-! ## The register interface -/

structure RegReq where
  valid : Bool
  write : Bool
  addr : BitVec 6
  wdata : Word
  wstrb : BitVec 4

namespace CtrlOffset
def safeConfiguration : BitVec 6 := 0x00
def dmrMask : BitVec 6 := 0x04
def masterCore : BitVec 6 := 0x08
def criticalSection : BitVec 6 := 0x0c
def start : BitVec 6 := 0x10
def bootAddress : BitVec 6 := 0x14
def externalDebugReq : BitVec 6 := 0x18
def initialSyncMaster : BitVec 6 := 0x1c
def endSwRoutine : BitVec 6 := 0x20
def entryAddress : BitVec 6 := 0x24
def safeCopyAddress : BitVec 6 := 0x28
def interruptControler : BitVec 6 := 0x2c
def cbHeepStatus : BitVec 6 := 0x30
def dmrRec : BitVec 6 := 0x34
def initialStackAddr : BitVec 6 := 0x38
end CtrlOffset

/-- `SAFE_WRAPPER_CTRL_PERMIT` beside the offsets. -/
def ctrlPermit : List (BitVec 6 × BitVec 4) :=
  [(CtrlOffset.safeConfiguration, 0b0001), (CtrlOffset.dmrMask, 0b0001),
    (CtrlOffset.masterCore, 0b0001), (CtrlOffset.criticalSection, 0b0001),
    (CtrlOffset.start, 0b0001), (CtrlOffset.bootAddress, 0b1111),
    (CtrlOffset.externalDebugReq, 0b0001), (CtrlOffset.initialSyncMaster, 0b0001),
    (CtrlOffset.endSwRoutine, 0b0001), (CtrlOffset.entryAddress, 0b1111),
    (CtrlOffset.safeCopyAddress, 0b1111), (CtrlOffset.interruptControler, 0b0001),
    (CtrlOffset.cbHeepStatus, 0b0001), (CtrlOffset.dmrRec, 0b0001),
    (CtrlOffset.initialStackAddr, 0b1111)]

namespace RegReq
variable (req : RegReq)

def regWe : Bool := req.valid && req.write
def regRe : Bool := req.valid && !req.write

def addrMiss : Bool := (req.regRe || req.regWe) && !ctrlPermit.any fun entry => req.addr == entry.1

/-- A write must enable every byte lane the register has. -/
def wrErr : Bool :=
  req.regWe && ctrlPermit.any fun entry =>
    req.addr == entry.1 && decide (entry.2 &&& ~~~req.wstrb ≠ 0)

/-- `reg_error` with `devmode_i = 1`. -/
def regError : Bool := req.addrMiss || req.wrErr

/-- The software write enable of the register at `offset`. -/
def writes (offset : BitVec 6) : Bool := req.addr == offset && req.regWe && !req.regError

def bit (index : Nat) : Bool := req.wdata.getLsbD index

end RegReq

/-! ## The module -/

structure CtrlIn where
  req : RegReq
  startBoot : Bool
  enExtDebug : Bool
  dmrRec : Bool
  debugMode : BitVec 3
  sleep : BitVec 3
  enableInterruptDe : Bool
  enableInterruptD : Bool

structure SafeWrapperCtrl where
  safeConfiguration : BitVec 2
  dmrMask : BitVec 3
  masterCore : BitVec 3
  criticalSection : Bool
  start : Bool
  bootAddress : Word
  externalDebugReq : BitVec 2
  initialSyncMaster : Bool
  endSwRoutine : Bool
  entryAddress : Word
  safeCopyAddress : Word
  enableInterrupt : Bool
  statusInterrupt : Bool
  coresSleep : BitVec 3
  coresDebugMode : BitVec 3
  dmrRec : Bool
  initialStackAddr : Word
  startFf : Bool
  startFlag : Bool
  enSwRoutineFf : Bool
  interruptO : Bool
  flagIntc : Bool

namespace SafeWrapperCtrl

def reset : SafeWrapperCtrl where
  safeConfiguration := 0
  dmrMask := 0
  masterCore := 1
  criticalSection := false
  start := false
  bootAddress := 0
  externalDebugReq := 0
  initialSyncMaster := false
  endSwRoutine := false
  entryAddress := 0
  safeCopyAddress := 0xf0029000
  enableInterrupt := false
  statusInterrupt := false
  coresSleep := 0
  coresDebugMode := 0
  dmrRec := false
  initialStackAddr := 0
  startFf := false
  startFlag := false
  enSwRoutineFf := false
  interruptO := false
  flagIntc := false

variable (ctrl : SafeWrapperCtrl) (inp : CtrlIn)

/-- `enable`: `START` is 1 for the first cycle. -/
def startEdge : Bool := !ctrl.startFf && ctrl.start

/-- `enable_endSW`: `END_SW_ROUTINE` is 1 for the first cycle. -/
def endEdge : Bool := !ctrl.enSwRoutineFf && ctrl.endSwRoutine

def loadIntc : Bool :=
  ctrl.enableInterrupt && ctrl.statusInterrupt && inp.sleep.getLsbD 0 && inp.sleep.getLsbD 1 &&
    inp.sleep.getLsbD 2 && ctrl.enSwRoutineFf && !ctrl.flagIntc

def next : SafeWrapperCtrl where
  safeConfiguration := subregRw (inp.req.writes CtrlOffset.safeConfiguration)
    (inp.req.wdata.truncate 2) false 0 ctrl.safeConfiguration
  dmrMask := subregRw (inp.req.writes CtrlOffset.dmrMask) (inp.req.wdata.truncate 3) false 0
    ctrl.dmrMask
  masterCore := subregRw (inp.req.writes CtrlOffset.masterCore) (inp.req.wdata.truncate 3) false 0
    ctrl.masterCore
  criticalSection := subregRw (inp.req.writes CtrlOffset.criticalSection) (inp.req.bit 0) false
    false ctrl.criticalSection
  start := subregRw (inp.req.writes CtrlOffset.start) (inp.req.bit 0) ctrl.endEdge false ctrl.start
  bootAddress := subregRw (inp.req.writes CtrlOffset.bootAddress) inp.req.wdata false 0
    ctrl.bootAddress
  externalDebugReq := subregRo true (BitVec.ofBool inp.startBoot ++ BitVec.ofBool inp.enExtDebug)
    ctrl.externalDebugReq
  initialSyncMaster := subregRw (inp.req.writes CtrlOffset.initialSyncMaster) (inp.req.bit 0) false
    false ctrl.initialSyncMaster
  endSwRoutine := subregRw (inp.req.writes CtrlOffset.endSwRoutine) (inp.req.bit 0) ctrl.startFlag
    false ctrl.endSwRoutine
  entryAddress := subregRw (inp.req.writes CtrlOffset.entryAddress) inp.req.wdata false 0
    ctrl.entryAddress
  safeCopyAddress := subregRw (inp.req.writes CtrlOffset.safeCopyAddress) inp.req.wdata false 0
    ctrl.safeCopyAddress
  enableInterrupt := subregRw (inp.req.writes CtrlOffset.interruptControler) (inp.req.bit 0)
    inp.enableInterruptDe inp.enableInterruptD ctrl.enableInterrupt
  statusInterrupt := subregRw (inp.req.writes CtrlOffset.interruptControler) (inp.req.bit 1)
    ctrl.endEdge true ctrl.statusInterrupt
  coresSleep := subregRo true inp.sleep ctrl.coresSleep
  coresDebugMode := subregRo true inp.debugMode ctrl.coresDebugMode
  dmrRec := subregRo true inp.dmrRec ctrl.dmrRec
  initialStackAddr := subregRw (inp.req.writes CtrlOffset.initialStackAddr) inp.req.wdata false 0
    ctrl.initialStackAddr
  startFf := ctrl.start
  startFlag := ctrl.startEdge
  enSwRoutineFf := ctrl.endSwRoutine
  interruptO := ctrl.statusInterrupt && ctrl.loadIntc inp
  flagIntc :=
    if !ctrl.statusInterrupt then false else if ctrl.loadIntc inp then true else ctrl.flagIntc

def rdata (addr : BitVec 6) : Word :=
  if addr = CtrlOffset.safeConfiguration then ctrl.safeConfiguration.zeroExtend 32
  else if addr = CtrlOffset.dmrMask then ctrl.dmrMask.zeroExtend 32
  else if addr = CtrlOffset.masterCore then ctrl.masterCore.zeroExtend 32
  else if addr = CtrlOffset.criticalSection then (BitVec.ofBool ctrl.criticalSection).zeroExtend 32
  else if addr = CtrlOffset.start then (BitVec.ofBool ctrl.start).zeroExtend 32
  else if addr = CtrlOffset.bootAddress then ctrl.bootAddress
  else if addr = CtrlOffset.externalDebugReq then ctrl.externalDebugReq.zeroExtend 32
  else if addr = CtrlOffset.initialSyncMaster then
    (BitVec.ofBool ctrl.initialSyncMaster).zeroExtend 32
  else if addr = CtrlOffset.endSwRoutine then (BitVec.ofBool ctrl.endSwRoutine).zeroExtend 32
  else if addr = CtrlOffset.entryAddress then ctrl.entryAddress
  else if addr = CtrlOffset.safeCopyAddress then ctrl.safeCopyAddress
  else if addr = CtrlOffset.interruptControler then
    (BitVec.ofBool ctrl.statusInterrupt ++ BitVec.ofBool ctrl.enableInterrupt).zeroExtend 32
  else if addr = CtrlOffset.cbHeepStatus then
    (ctrl.coresDebugMode ++ ctrl.coresSleep).zeroExtend 32
  else if addr = CtrlOffset.dmrRec then (BitVec.ofBool ctrl.dmrRec).zeroExtend 32
  else if addr = CtrlOffset.initialStackAddr then ctrl.initialStackAddr
  else BitVec.allOnes 32

@[simp] theorem rdata_safeConfiguration :
    ctrl.rdata CtrlOffset.safeConfiguration = ctrl.safeConfiguration.zeroExtend 32 := rfl

@[simp] theorem rdata_safeCopyAddress :
    ctrl.rdata CtrlOffset.safeCopyAddress = ctrl.safeCopyAddress := rfl

@[simp] theorem rdata_dmrRec :
    ctrl.rdata CtrlOffset.dmrRec = (BitVec.ofBool ctrl.dmrRec).zeroExtend 32 := rfl

@[simp] theorem rdata_initialStackAddr :
    ctrl.rdata CtrlOffset.initialStackAddr = ctrl.initialStackAddr := rfl

end SafeWrapperCtrl

def safeWrapperCtrl : Synchronous.Machine SafeWrapperCtrl CtrlIn where
  init := .reset
  next := SafeWrapperCtrl.next

end Eros
