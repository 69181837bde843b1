import Eros.CbSafety

/-!
# `CB_boot_rom.S`: `halt_boot`

The routine that restores a hart from the save area and resumes it by `dret`.
With `DMR_REC` non-zero it first copies the saved stack back.
-/

set_option autoImplicit false

namespace Eros

open Rv32

/-- The base of the save area and the trap registers. -/
def haltBootCsrs : List Instr :=
  [.li .t5 safeWrapperCtrlBase, .lw .t5 (ctrlImm CtrlOffset.safeCopyAddress) .t5] ++
    restoreCsrs .t6 .t5 csrArea

/-- Up to the test of `DMR_REC`; `bnez` goes to `store_stack`. -/
def haltBootHead : List Instr :=
  restoreRegs .t5 [(.ra, 20), (.sp, 24), (.gp, 28), (.tp, 32)] ++
    [.li .t0 safeWrapperCtrlBase, .lw .t1 (ctrlImm CtrlOffset.dmrRec) .t0, .fence]

/-- The registers of `load_register` before the resume address. -/
def loadRegisterTable : List (Reg × Word) :=
  [(.t0, 36), (.t1, 40), (.t2, 44), (.s0, 48), (.s1, 52), (.a0, 56), (.a1, 60), (.a2, 64),
    (.a3, 68), (.a4, 72), (.a5, 76), (.a6, 80), (.a7, 84), (.s2, 88), (.s3, 92), (.s4, 96),
    (.s5, 100), (.s6, 104), (.s7, 108), (.s8, 112), (.s9, 116), (.s10, 120), (.s11, 124),
    (.t3, 128), (.t4, 132)]

def loadRegister : List Instr :=
  restoreRegs .t5 loadRegisterTable ++
    [.lw .t6 144 .t5, .fence, .csrwDpc .t6, .lw .t6 140 .t5, .lw .t5 136 .t5]

/-- `store_stack` up to the branch back to `load_register`. -/
def storeStack : List Instr :=
  [.lw .t1 (ctrlImm CtrlOffset.initialStackAddr) .t0, .fence]

def loadStack : List Instr := copyLoop .t4 .t2 .sp .sp .t1 .t2 .sp 24

def haltBoot : List Instr :=
  haltBootCsrs ++ haltBootHead ++ [.bnez .t1 148] ++ loadRegister ++ [.dret] ++
    [.nop, .nop, .nop, .nop, .j (-220)] ++
    storeStack ++ [.beq .sp .t1 (-152), .addi .t2 .t5 148] ++ loadStack ++ [.nop, .nop] ++
    -- `restore_sp`
    [.lw .sp 24 .t5, .j (-196), .nop, .nop]

end Eros
