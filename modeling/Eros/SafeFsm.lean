import Eros.Lib.Synchronous
import Eros.Obi

/-!
# `safe_FSM`

The mode controller: one top machine, one machine for single mode, and for each
hart one machine for triple and one for dual redundancy, all clocked together
and reading each other's present states and outputs.  The states, their outputs
and the priority of the transitions are those of the source.

The state types of the four machines share the names of the source without the
machine's prefix (`TMR_SYNC` is `CtrlTmrFsm.sync`).  `voter_id_error` is an
input that nothing reads and is left out.
-/

set_option autoImplicit false

namespace Eros

/-! ## States and inputs -/

inductive CtrlSafeFsm
  | reset | boot | idle | singleMode | tmrMode | dmrMode
  deriving DecidableEq, Repr

inductive CtrlSingleFsm
  | reset | idle | start | run | toTmr | toDmr | syncOff
  deriving DecidableEq, Repr

inductive CtrlTmrFsm
  | reset | idle | start | boot | shHalt | waitSh | msIntrSync | sync | endSync | toSingle
  | syncIntc | swSync
  deriving DecidableEq, Repr

inductive CtrlDmrFsm
  | reset | idle | start | boot | shHalt | waitSh | msIntrSync | sync | endSync | toSingle
  | stop | intcRecovery | recovery
  deriving DecidableEq, Repr

structure FsmIn where
  dmrMask : HartWires
  tmrCriticalSection : Bool
  safeConfiguration : BitVec 2
  initialSyncMaster : Bool
  haltAck : HartWires
  hartWfi : HartWires
  hartIntcAck : HartWires
  masterCore : HartWires
  tmrError : Bool
  dmrError : HartWires
  start : Bool
  endSwRoutine : Bool

/-- The registers of `safe_FSM`. -/
structure SafeFsm where
  ctrlSafe : CtrlSafeFsm
  ctrlSingle : CtrlSingleFsm
  ctrlTmr : Hart → CtrlTmrFsm
  ctrlDmr : Hart → CtrlDmrFsm
  delayFf : Bool
  tmrErrorFf0 : Bool
  tmrErrorFf1 : Bool

def HartWires.all (wires : HartWires) : Bool := wires 0 && wires 1 && wires 2
def HartWires.any (wires : HartWires) : Bool := wires 0 || wires 1 || wires 2
def HartWires.none (wires : HartWires) : Bool := !wires.any

/-- `Safe_configuration_i==2'b10 | Safe_configuration_i==2'b11`. -/
def dualConfigured (configuration : BitVec 2) : Bool :=
  configuration == 0b10#2 || configuration == 0b11#2

/-! ## Outputs of the machines -/

structure SafeOut where
  enSafeExtDebugReq : Bool
  singleBoot : Bool
  generalBoot : Bool

def safeOut : CtrlSafeFsm → SafeOut
  | .idle => ⟨true, false, false⟩
  | .boot => ⟨false, false, true⟩
  | .singleMode => ⟨false, true, false⟩
  | _ => ⟨false, false, false⟩

structure SingleOut where
  singleHaltRequest : HartWires
  enableSwitch : Bool

def singleOut (masterCore : HartWires) : CtrlSingleFsm → SingleOut
  | .start => ⟨masterCore, false⟩
  | .toTmr => ⟨fun _ => false, true⟩
  | .toDmr => ⟨fun _ => false, true⟩
  | _ => ⟨fun _ => false, false⟩

/-- The outputs of one TMR machine. -/
structure TmrOut where
  dbgHaltReqGeneral : Bool
  dbgHaltReq : Bool
  interruptSync : Bool
  interruptSwResync : Bool
  singleBus : Bool
  voterEnable : Bool
  boot : Bool
  switchSingleToTmr : Bool
  switchTmrToSingle : Bool

def TmrOut.zero : TmrOut := ⟨false, false, false, false, false, false, false, false, false⟩

/-- `isMaster` is the hart's bit of `Master_Core_i`. -/
def tmrOut (isMaster : Bool) : CtrlTmrFsm → TmrOut
  | .start =>
      { TmrOut.zero with
        dbgHaltReqGeneral := true, singleBus := true, voterEnable := true, boot := true }
  | .boot => { TmrOut.zero with singleBus := true, voterEnable := true, boot := true }
  | .shHalt =>
      { TmrOut.zero with
        switchSingleToTmr := true, singleBus := true, voterEnable := true
        dbgHaltReq := isMaster, dbgHaltReqGeneral := !isMaster }
  | .waitSh => { TmrOut.zero with singleBus := true, voterEnable := true }
  | .msIntrSync => { TmrOut.zero with interruptSync := true, singleBus := true, voterEnable := true }
  | .sync => { TmrOut.zero with singleBus := true, voterEnable := true }
  | .endSync => { TmrOut.zero with interruptSync := isMaster, switchTmrToSingle := isMaster }
  | .syncIntc =>
      { TmrOut.zero with interruptSwResync := true, singleBus := true, voterEnable := true }
  | .swSync =>
      { TmrOut.zero with interruptSwResync := true, singleBus := true, voterEnable := true }
  | _ => .zero

/-- The outputs of one DMR machine. -/
structure DmrOut where
  dbgHaltReqGeneral : Bool
  dbgHaltReq : Bool
  dbgHaltRecovery : Bool
  interruptSync : Bool
  single : Bool
  boot : Bool
  dualMode : Bool
  dmrConfig : Bool
  wfiDmr : Bool
  delayed : Bool
  dmrRec : Bool
  switchSingleToDmr : Bool
  switchDmrToSingle : Bool

/-- `dmr_dmr_config_s` is the one output that defaults to 1. -/
def DmrOut.default : DmrOut :=
  ⟨false, false, false, false, false, false, false, true, false, false, false, false, false⟩

/-- `lockstep` says that the configuration is `11`. -/
def dmrOut (isMaster lockstep : Bool) : CtrlDmrFsm → DmrOut
  | .idle => { DmrOut.default with dmrConfig := false }
  | .start =>
      { DmrOut.default with
        dualMode := true, dbgHaltReqGeneral := true, single := true, boot := true
        delayed := lockstep }
  | .boot =>
      { DmrOut.default with dualMode := true, single := true, boot := true, delayed := lockstep }
  | .shHalt =>
      { DmrOut.default with
        switchSingleToDmr := true, dbgHaltReq := isMaster, dbgHaltReqGeneral := !isMaster }
  | .msIntrSync =>
      { DmrOut.default with
        interruptSync := true, single := true, dualMode := true, delayed := lockstep }
  | .sync => { DmrOut.default with dualMode := true, single := true, delayed := lockstep }
  | .endSync => { DmrOut.default with interruptSync := isMaster, switchDmrToSingle := isMaster }
  | .stop => { DmrOut.default with dualMode := true, single := true, wfiDmr := true }
  | .intcRecovery =>
      { DmrOut.default with
        dualMode := true, single := true, dbgHaltRecovery := true, dmrRec := true
        delayed := lockstep }
  | .recovery =>
      { DmrOut.default with dualMode := true, single := true, dmrRec := true, delayed := lockstep }
  | _ => .default

namespace SafeFsm
variable (fsm : SafeFsm) (inp : FsmIn)

def reset : SafeFsm where
  ctrlSafe := .reset
  ctrlSingle := .reset
  ctrlTmr := fun _ => .reset
  ctrlDmr := fun _ => .reset
  delayFf := false
  tmrErrorFf0 := false
  tmrErrorFf1 := false

def tmr (hart : Hart) : TmrOut := tmrOut (inp.masterCore hart) (fsm.ctrlTmr hart)

def dmr (hart : Hart) : DmrOut :=
  dmrOut (inp.masterCore hart) (inp.safeConfiguration == 0b11#2) (fsm.ctrlDmr hart)

def single : SingleOut := singleOut inp.masterCore fsm.ctrlSingle

def switchTmrToSingle : HartWires := fun hart => (fsm.tmr inp hart).switchTmrToSingle
def switchDmrToSingle : HartWires := fun hart => (fsm.dmr inp hart).switchDmrToSingle
def switchSingleToTmr : HartWires := fun hart => (fsm.tmr inp hart).switchSingleToTmr
def switchSingleToDmr : HartWires := fun hart => (fsm.dmr inp hart).switchSingleToDmr

def haltReq : Bool :=
  HartWires.any (fun hart => (fsm.tmr inp hart).dbgHaltReq) ||
    HartWires.any (fun hart => (fsm.dmr inp hart).dbgHaltReq)

/-- `dmr_error_s`: the error of the comparator the master register names. -/
def dmrErrorS : Bool :=
  if inp.masterCore = oneHot 0 then inp.dmrError 0
  else if inp.masterCore = oneHot 1 then inp.dmrError 1
  else inp.dmrError 2

def tmrErrorS : Bool :=
  (!inp.tmrCriticalSection && (inp.tmrError || fsm.tmrErrorFf1)) ||
    (inp.tmrCriticalSection && !fsm.tmrErrorFf0 && fsm.tmrErrorFf1 && inp.tmrError)

/-! ## Next states -/

def ctrlSafeNext : CtrlSafeFsm :=
  match fsm.ctrlSafe with
  | .reset => .boot
  | .boot => if inp.hartWfi.all then .idle else .boot
  | .idle =>
      if inp.safeConfiguration == 0b01#2 && inp.start then .tmrMode
      else if dualConfigured inp.safeConfiguration && inp.start then .dmrMode
      else if inp.safeConfiguration == 0b00#2 && inp.start then .singleMode
      else .idle
  | .singleMode =>
      if !inp.start && decide (fsm.ctrlSingle = .idle) then .idle
      else if inp.start && inp.safeConfiguration == 0b01#2 then .tmrMode
      else if inp.start && dualConfigured inp.safeConfiguration then .dmrMode
      else .singleMode
  | .tmrMode =>
      if HartWires.all (fun hart => decide (fsm.ctrlTmr hart = .idle)) && !inp.start then .idle
      else if (fsm.switchTmrToSingle inp).any then .singleMode
      else .tmrMode
  | .dmrMode =>
      if HartWires.all (fun hart => decide (fsm.ctrlDmr hart = .idle)) && !inp.start then .idle
      else if (fsm.switchDmrToSingle inp).any then .singleMode
      else .dmrMode

def ctrlSingleNext : CtrlSingleFsm :=
  match fsm.ctrlSingle with
  | .reset => .idle
  | .idle =>
      let entered := decide (fsm.ctrlSafe = .singleMode) && inp.start && !inp.endSwRoutine
      if entered && (fsm.switchTmrToSingle inp).none && (fsm.switchDmrToSingle inp).none then .start
      else if entered && (fsm.switchTmrToSingle inp).any then .run
      else if entered && (fsm.switchDmrToSingle inp).any then .run
      else .idle
  | .start => if inp.haltAck = inp.masterCore then .run else .start
  | .run =>
      if inp.endSwRoutine && inp.hartWfi.all then .idle
      else if !inp.start && inp.haltAck.none && !inp.endSwRoutine then .syncOff
      else if inp.haltAck.none && inp.safeConfiguration == 0b01#2 then .toTmr
      else if inp.haltAck.none && dualConfigured inp.safeConfiguration then .toDmr
      else .run
  | .toTmr => if (fsm.switchSingleToTmr inp).all then .idle else .toTmr
  | .toDmr =>
      let switch := fsm.switchSingleToDmr inp
      if (switch 0 && switch 1 && !switch 2) || (switch 0 && !switch 1 && switch 2) ||
          (!switch 0 && switch 1 && switch 2) then .idle
      else .toDmr
  | .syncOff => if inp.hartWfi.none then .idle else .syncOff

/-- The switch from single mode into a protected one, as the TMR and the DMR
machine of a hart test it: the master once it sleeps, another hart once the
master's machine requests the halt. -/
def switchesIn (hart : Hart) : Bool :=
  (inp.masterCore hart && inp.hartWfi hart && inp.initialSyncMaster && inp.start) ||
    (!inp.masterCore hart && fsm.haltReq inp && inp.start)

def ctrlTmrNext (hart : Hart) : CtrlTmrFsm :=
  match fsm.ctrlTmr hart with
  | .reset => .idle
  | .idle =>
      if decide (fsm.ctrlSafe = .tmrMode) && inp.start && !(fsm.single inp).enableSwitch then .start
      else if decide (fsm.ctrlSafe = .tmrMode) && inp.start && (fsm.single inp).enableSwitch then
        if fsm.switchesIn inp hart then .shHalt else .idle
      else .idle
  | .start => if inp.haltAck hart then .boot else .start
  | .boot => if inp.haltAck hart then .boot else .sync
  | .shHalt =>
      if inp.masterCore hart && ((inp.haltAck 0 && inp.haltAck 1) ||
          (inp.haltAck 1 && inp.haltAck 2) || (inp.haltAck 0 && inp.haltAck 2)) then .waitSh
      else if !inp.masterCore hart && inp.haltAck hart then .waitSh
      else .shHalt
  | .waitSh => if inp.hartWfi.all then .msIntrSync else .waitSh
  | .msIntrSync => if inp.hartIntcAck.all then .sync else .msIntrSync
  | .sync =>
      if inp.hartWfi.all && inp.endSwRoutine then .idle
      else if inp.hartWfi.all && inp.safeConfiguration != 0b01#2 then .endSync
      else if fsm.tmrErrorS inp then .syncIntc
      else .sync
  | .endSync =>
      if inp.hartIntcAck hart && inp.masterCore hart then .idle
      else if inp.hartWfi hart && !inp.masterCore hart then .idle
      else .endSync
  | .syncIntc => if inp.hartIntcAck.all then .swSync else .syncIntc
  | .swSync => if inp.hartIntcAck.none then .sync else .swSync
  | .toSingle => .idle

def ctrlDmrNext (hart : Hart) : CtrlDmrFsm :=
  match fsm.ctrlDmr hart with
  | .reset => .idle
  | .idle =>
      if decide (fsm.ctrlSafe = .dmrMode) && inp.start && !(fsm.single inp).enableSwitch &&
          inp.dmrMask hart then .start
      else if decide (fsm.ctrlSafe = .dmrMode) && inp.start && (fsm.single inp).enableSwitch &&
          inp.dmrMask hart then
        if fsm.switchesIn inp hart then .shHalt else .idle
      else .idle
  | .start => if inp.haltAck hart then .boot else .start
  | .boot => if inp.haltAck hart then .boot else .sync
  | .shHalt =>
      if inp.masterCore hart &&
          decide (inp.haltAck = fun other => inp.dmrMask other ^^ inp.masterCore other) then .waitSh
      else if !inp.masterCore hart && inp.haltAck hart then .waitSh
      else .shHalt
  | .waitSh => if inp.hartWfi.all then .msIntrSync else .waitSh
  | .msIntrSync => if inp.hartIntcAck hart then .sync else .msIntrSync
  | .sync =>
      if inp.hartWfi.all && inp.endSwRoutine then .idle
      else if inp.hartWfi.all &&
          (inp.safeConfiguration != 0b10#2 || inp.safeConfiguration != 0b11#2) then .endSync
      else if dmrErrorS inp then .stop
      else .sync
  | .stop => if inp.hartWfi.all then .intcRecovery else .stop
  | .intcRecovery => if inp.haltAck hart then .recovery else .intcRecovery
  | .recovery => if inp.haltAck hart then .recovery else .sync
  | .endSync =>
      if inp.hartIntcAck hart && inp.masterCore hart then .idle
      else if inp.hartWfi hart && !inp.masterCore hart then .idle
      else .endSync
  | .toSingle => .idle

/-! ## The lockstep flag and the error history -/

/-- `set` of `delay_ff`: some DMR machine runs delayed. -/
def delaySet : Bool := HartWires.any fun hart => (fsm.dmr inp hart).delayed

/-- `clear` of `delay_ff`: all harts asleep with the configuration `00`. -/
def delayClear : Bool :=
  inp.hartWfi.all && !inp.safeConfiguration.getLsbD 0 && !inp.safeConfiguration.getLsbD 1

def next : SafeFsm where
  ctrlSafe := fsm.ctrlSafeNext inp
  ctrlSingle := fsm.ctrlSingleNext inp
  ctrlTmr := fsm.ctrlTmrNext inp
  ctrlDmr := fsm.ctrlDmrNext inp
  delayFf :=
    if delayClear inp then false else if fsm.delaySet inp then true else fsm.delayFf
  tmrErrorFf0 :=
    if HartWires.any (fun hart => decide (fsm.ctrlTmr hart = .sync)) && inp.tmrError &&
        !fsm.tmrErrorFf0 then inp.tmrError
    else if HartWires.any (fun hart => decide (fsm.ctrlTmr hart ≠ .sync)) then false
    else inp.tmrError
  tmrErrorFf1 :=
    if HartWires.any (fun hart => decide (fsm.ctrlTmr hart = .sync)) && inp.tmrError &&
        !fsm.tmrErrorFf0 then !fsm.tmrErrorFf1
    else if HartWires.any (fun hart => decide (fsm.ctrlTmr hart ≠ .sync)) then false
    else fsm.tmrErrorFf1

/-! ## Module outputs -/

def interruptSyncO : HartWires := fun hart =>
  (fsm.tmr inp hart).interruptSync || (fsm.dmr inp hart).interruptSync

def interruptSwResyncO : HartWires := fun hart => (fsm.tmr inp hart).interruptSwResync

def interruptHaltO : HartWires := fun hart =>
  (fsm.tmr inp hart).dbgHaltReqGeneral || (fsm.single inp).singleHaltRequest hart ||
    (fsm.dmr inp hart).dbgHaltReqGeneral || (fsm.dmr inp hart).dbgHaltRecovery

def singleBusO : Bool :=
  HartWires.any (fun hart => (fsm.tmr inp hart).singleBus) ||
    HartWires.any (fun hart => (fsm.dmr inp hart).single) || (safeOut fsm.ctrlSafe).generalBoot

def dmrConfigO : HartWires := fun hart => (fsm.dmr inp hart).dmrConfig

def delayedO : Bool := fsm.delayFf || fsm.delaySet inp

def tmrVoterEnableO : Bool :=
  HartWires.any (fun hart => (fsm.tmr inp hart).voterEnable) || (safeOut fsm.ctrlSafe).generalBoot

def dmrComparatorEnableO : Bool := HartWires.any fun hart => (fsm.dmr inp hart).dualMode

def wfiDmrO : HartWires := fun hart => (fsm.dmr inp hart).wfiDmr

def startBootO : Bool :=
  (safeOut fsm.ctrlSafe).singleBoot || HartWires.any (fun hart => (fsm.tmr inp hart).boot) ||
    HartWires.any (fun hart => (fsm.dmr inp hart).boot)

def dmrRecO : Bool := HartWires.any fun hart => (fsm.dmr inp hart).dmrRec

def enExtDebugReqO : Bool := (safeOut fsm.ctrlSafe).enSafeExtDebugReq

end SafeFsm

def safeFsm : Synchronous.Machine SafeFsm FsmIn where
  init := .reset
  next := SafeFsm.next

end Eros
