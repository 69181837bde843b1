import Eros.Platform

/-!
# `CB_Safety.c`

The inline assembly of the safety routines, instruction by instruction, without
a compiler prologue.  A run of `sw`, `lw` or `csrr`/`sw` pairs off one base is
written as a table in source order.  Branch offsets are those of the source's
labels; `li` stands for its one-instruction expansion and `la` is written out.
-/

set_option autoImplicit false

namespace Eros

open Rv32

/-- A control register offset as an immediate. -/
def ctrlImm (offset : BitVec 6) : Word := offset.zeroExtend 32

def privImm (offset : BitVec 4) : Word := offset.zeroExtend 32

section Registers
variable {view : HartView} {pc : Word} {context : Context}

theorem performs_ctrlLoad (offset : BitVec 6) (rd base : Reg)
    (points : context.regs.read base = safeWrapperCtrlBase) :
    Performs hartBus pc [.lw rd (ctrlImm offset) base] context view []
      { context with regs := context.regs.write rd (view.ctrl.rdata offset) } :=
  performs_load (congrArg (· + ctrlImm offset) points) (hartBus_load_ctrl view offset)

theorem performs_ctrlStore (offset : BitVec 6) (rs base : Reg)
    (points : context.regs.read base = safeWrapperCtrlBase) :
    Performs hartBus pc [.sw rs (ctrlImm offset) base] context view
      [(ctrlAddr offset, context.regs.read rs)] context :=
  performs_store (congrArg (· + ctrlImm offset) points) rfl

theorem performs_privStore (offset : BitVec 4) (rs base : Reg)
    (points : context.regs.read base = privateRegBase) :
    Performs hartBus pc [.sw rs (privImm offset) base] context view
      [(privAddr offset, context.regs.read rs)] context :=
  performs_store (congrArg (· + privImm offset) points) rfl

end Registers

/-- Where the trap registers stand in the save area. -/
def csrArea : List (Csr × Word) :=
  [(.mstatus, 0), (.mie, 4), (.mtvec, 8), (.mepc, 12), (.mtval, 16)]

/-! ## `Store_Checkpoint` -/

def storeCheckpointPush : List Instr :=
  .addi .sp .sp (-28) ::
    saveRegs .sp [(.t2, 24), (.t3, 20), (.t4, 16), (.t5, 12), (.t6, 8)]

def storeCheckpointSetup : List Instr :=
  [.li .t5 safeWrapperCtrlBase,
    .lw .t4 (ctrlImm CtrlOffset.initialStackAddr) .t5,
    .lw .t5 (ctrlImm CtrlOffset.safeCopyAddress) .t5,
    .addi .sp .sp 28,
    .mv .t2 .sp,
    .fence]

/-- The branch to `_checkpoint_store_reg` and the loop `_checkpoint_store_stack`. -/
def storeCheckpointStack : List Instr :=
  [.beq .t2 .t4 32, .addi .t3 .t5 148] ++ copyLoop .t6 .t2 .t3 .t2 .t4 .t3 .t2 16

/-- From `_checkpoint_store_reg` to the store of `x4`. -/
def storeCheckpointHead : List Instr :=
  saveCsrs .t6 .t5 csrArea ++ saveRegs .t5 [(.ra, 20), (.sp, 24)] ++ [.addi .sp .sp (-28)]

def storeCheckpointRegs : List Instr :=
  saveRegs .t5 [(.gp, 28), (.tp, 32), (.t0, 36), (.t1, 40)] ++
    [.lw .t2 24 .sp] ++
    saveRegs .t5
      [(.t2, 44), (.s0, 48), (.s1, 52), (.a0, 56), (.a1, 60), (.a2, 64), (.a3, 68), (.a4, 72),
        (.a5, 76), (.a6, 80), (.a7, 84), (.s2, 88), (.s3, 92), (.s4, 96), (.s5, 100), (.s6, 104),
        (.s7, 108), (.s8, 112), (.s9, 116), (.s10, 120), (.s11, 124)] ++
    [.lw .t3 20 .sp, .sw .t3 128 .t5, .lw .t4 16 .sp, .sw .t4 132 .t5]

/-- The resume address and the two scratch registers. -/
def storeCheckpointTail : List Instr :=
  [.auipc .t6 0, .addi .t6 .t6 52, .sw .t6 144 .t5,
    .lw .t6 12 .sp, .sw .t6 136 .t5,
    .lw .t6 8 .sp, .sw .t6 140 .t5]

def storeCheckpointPop : List Instr :=
  restoreRegs .sp [(.t2, 24), (.t3, 20), (.t4, 16), (.t5, 12), (.t6, 8)] ++ [.addi .sp .sp 28]

/-- `_exit_Store_checkpoint` is the address after the routine. -/
def storeCheckpoint : List Instr :=
  storeCheckpointPush ++ storeCheckpointSetup ++ storeCheckpointStack ++ storeCheckpointHead ++
    storeCheckpointRegs ++ storeCheckpointTail ++ storeCheckpointPop

/-! ## `Safe_Activate` -/

def safeActivatePush : List Instr :=
  [.addi .sp .sp (-16), .sw .t5 12 .sp, .sw .t6 8 .sp]

/-- The configuration check; `bnez` goes to `_exit_Safe_Activate`. -/
def safeActivateConfigure : List Instr :=
  [.li .t5 safeWrapperCtrlBase,
    .lw .t6 (ctrlImm CtrlOffset.safeConfiguration) .t5,
    .bnez .t6 272,
    .sw .a0 (ctrlImm CtrlOffset.safeConfiguration) .t5,
    .li .t5 safeWrapperCtrlBase,
    .lw .t5 (ctrlImm CtrlOffset.safeCopyAddress) .t5]

def safeActivateSave : List Instr :=
  saveCsrs .t6 .t5 csrArea ++
    saveRegs .t5
      [(.ra, 20), (.sp, 24), (.gp, 28), (.tp, 32), (.t0, 36), (.t1, 40), (.t2, 44), (.s0, 48),
        (.s1, 52), (.a0, 56), (.a1, 60), (.a2, 64), (.a3, 68), (.a4, 72), (.a5, 76), (.a6, 80),
        (.a7, 84), (.s2, 88), (.s3, 92), (.s4, 96), (.s5, 100), (.s6, 104), (.s7, 108),
        (.s8, 112), (.s9, 116), (.s10, 120), (.s11, 124), (.t3, 128), (.t4, 132)]

def safeActivateScratch : List Instr :=
  [.sw .t5 12 .sp, .lw .t6 12 .sp, .sw .t5 136 .t5, .lw .t6 8 .sp, .sw .t6 140 .t5]

def safeActivateSync : List Instr :=
  [.li .t5 safeWrapperCtrlBase, .li .t6 1,
    .sw .t6 (ctrlImm CtrlOffset.initialSyncMaster) .t5,
    .li .t5 safeWrapperCtrlBase,
    .lw .t5 (ctrlImm CtrlOffset.safeCopyAddress) .t5]

/-- From the `auipc` whose address is saved as the resume address to the `wfi`. -/
def safeActivateSleep : List Instr :=
  [.auipc .t6 0, .sw .t6 144 .t5, .fence, .nop, .nop, .nop, .nop, .wfi]

/-- After the `wfi`, up to `_exit_Safe_Activate`. -/
def safeActivateRelease : List Instr :=
  [.nop, .nop, .nop,
    .li .t5 safeWrapperCtrlBase,
    .sw .zero (ctrlImm CtrlOffset.initialSyncMaster) .t5,
    .li .t5 privateRegBase,
    .sw .zero (privImm CpuPrivateReg.hartIntcAckOffset) .t5]

def safeActivateExit : List Instr :=
  [.lw .t6 8 .sp, .lw .t5 12 .sp, .addi .sp .sp 16]

def safeActivate : List Instr :=
  safeActivatePush ++ safeActivateConfigure ++ safeActivateSave ++ safeActivateScratch ++
    safeActivateSync ++ safeActivateSleep ++ safeActivateRelease ++ safeActivateExit

def handlerSafeFsm : List Instr :=
  [.addi .sp .sp (-16), .sw .t5 12 .sp, .sw .t6 8 .sp,
    .li .t5 privateRegBase, .li .t6 1,
    .sw .t6 (privImm CpuPrivateReg.hartIntcAckOffset) .t5,
    .sw .zero (privImm CpuPrivateReg.hartIntcAckOffset) .t5,
    .lw .t5 12 .sp, .lw .t6 8 .sp, .addi .sp .sp 16]

/-! ## `Check_RF` -/

def checkRamAddress : Word := 0xf002b000

def checkRfPush : List Instr :=
  .addi .sp .sp (-20) :: saveRegs .sp [(.t4, 16), (.t5, 12), (.t6, 8)]

def checkRfReload : List Instr := [.lw .a4 12 .sp, .lw .a5 8 .sp]

/-- `x1` and the stack pointer of the caller. -/
def checkRfHead : List Instr :=
  [.li .t6 checkRamAddress, .sw .ra 0 .t6, .addi .t5 .sp 20, .sw .t5 12 .t6]

def checkRfTable : List (Reg × Word) :=
  [(.gp, 8), (.tp, 12), (.t0, 16), (.t1, 20), (.t2, 24), (.s0, 28), (.s1, 32), (.a0, 36),
    (.a1, 40), (.a2, 44), (.a3, 48), (.a4, 52), (.a5, 56), (.a6, 60), (.a7, 64), (.s2, 68),
    (.s3, 72), (.s4, 76), (.s5, 80), (.s6, 84), (.s7, 88), (.s8, 92), (.s9, 96), (.s10, 100),
    (.s11, 104), (.t3, 108), (.t4, 112)]

/-- `x30` and `x31` out of the frame. -/
def checkRfTail : List Instr :=
  [.lw .t5 12 .sp, .sw .t5 116 .t6, .lw .t6 8 .sp, .li .t5 checkRamAddress, .sw .t6 120 .t5]

def checkRfPop : List Instr := [.lw .t5 12 .sp, .addi .sp .sp 20]

def checkRf : List Instr :=
  checkRfPush ++ checkRfReload ++ checkRfHead ++ saveRegs .t6 checkRfTable ++ checkRfTail ++
    checkRfPop

/-! ## `handler_tmr_recoverysync` -/

def recoveryEnter : List Instr :=
  [.addi .sp .sp (-16), .sw .a4 12 .sp, .sw .a5 8 .sp,
    .li .a4 1, .li .a5 privateRegBase,
    .sw .a4 (privImm CpuPrivateReg.hartIntcAckOffset) .a5,
    .lw .a4 12 .sp, .lw .a5 8 .sp]

def recoveryRegs : List (Reg × Word) :=
  [(.ra, -4), (.sp, -8), (.gp, -12), (.tp, -16), (.t0, -20), (.t1, -24), (.t2, -28), (.s0, -32),
    (.s1, -36), (.a0, -40), (.a1, -44), (.a2, -48), (.a3, -52), (.a4, -56), (.a5, -60),
    (.a6, -64), (.a7, -68), (.s2, -72), (.s3, -76), (.s4, -80), (.s5, -84), (.s6, -88),
    (.s7, -92), (.s8, -96), (.s9, -100), (.s10, -104), (.s11, -108), (.t3, -112), (.t4, -116),
    (.t5, -120), (.t6, -124)]

def recoveryCsrs : List (Csr × Word) :=
  [(.mstatus, -128), (.mie, -132), (.mtvec, -136), (.mepc, -140), (.mtval, -144)]

def recoveryLeave : List Instr :=
  [.li .a5 privateRegBase,
    .sw .zero (privImm CpuPrivateReg.hartIntcAckOffset) .a5,
    .lw .a5 8 .sp, .addi .sp .sp 16]

def handlerTmrRecoverysync : List Instr :=
  recoveryEnter ++ saveRegs .sp recoveryRegs ++ saveCsrs .t6 .sp recoveryCsrs ++
    restoreCsrs .t6 .sp recoveryCsrs ++ restoreRegs .sp recoveryRegs ++ recoveryLeave

end Eros
