import Eros.CheckpointRecovery
import Eros.GenRom
import Eros.Lib.Rv32Decode

/-!
# The boot ROM as a halted hart fetches it

The words of `CB_boot_rom` at the start of the peripheral window, decoded.  A hart
enters at `DM_HALTADDRESS`; `debug_entry` saves two registers in the debug
scratch registers and goes by `EXTERNAL_DEBUG_REQ`: 0 is for `halt_boot`, 2 for
`single_boot`, anything else for the debug module of the host.
-/

set_option autoImplicit false

namespace Eros

open Rv32
open ByteMemory (Mem)

def romFetch (pc : Word) : Option Word :=
  if 0xf0010000 ≤ pc.toNat ∧ pc.toNat < 0xf0012000 then some (cbBootRom pc) else none

def dmHaltAddress : Word := 0xf0010050
def singleBootAddr : Word := 0xf0010020
def haltBootAddr : Word := 0xf0010088

def singleBoot : List Instr :=
  [.li .a0 safeWrapperCtrlBase, .lw .a0 (ctrlImm CtrlOffset.entryAddress) .a0, .csrwDpc .a0]

/-- `debug_entry` after the saving of the two registers. -/
def debugEntryLoad : List Instr :=
  [.li .a0 safeWrapperCtrlBase, .lw .a0 (ctrlImm CtrlOffset.externalDebugReq) .a0]

/-- The way to the debug module. -/
def debugEntryHost : List Instr :=
  [.fence, .li .a0 0x10000000, .li .s0 0x10001000, .addi .s0 .s0 (-2000)]

/-! ## The words -/

theorem haltBoot_placed : CodeAt (fetchDecode romFetch) haltBootAddr haltBoot :=
  codeAt_fetchDecode (by decide +kernel)

theorem singleBoot_placed : CodeAt (fetchDecode romFetch) singleBootAddr (singleBoot ++ [.dret]) :=
  codeAt_fetchDecode (by decide +kernel)

theorem debugEntryLoad_placed :
    CodeAt (fetchDecode romFetch) (dmHaltAddress + 8) (debugEntryLoad ++ [.beq .a0 .zero 40]) :=
  codeAt_fetchDecode (by decide +kernel)

theorem debugEntryTest_placed :
    CodeAt (fetchDecode romFetch) (dmHaltAddress + 24) [.bnez .a0 8, .j (-76)] :=
  codeAt_fetchDecode (by decide +kernel)

theorem debugEntryHost_placed :
    CodeAt (fetchDecode romFetch) (dmHaltAddress + 32) debugEntryHost :=
  codeAt_fetchDecode (by decide +kernel)

theorem debugEntry_words :
    (romFetch dmHaltAddress).bind decodeDebug = some (.csrwDscratch1 .a0) ∧
      (romFetch (dmHaltAddress + 4)).bind decodeDebug = some (.csrwDscratch0 .s0) ∧
      (romFetch (dmHaltAddress + 20)).bind decodeDebug = some (.xori .a0 .a0 2) ∧
      (romFetch (dmHaltAddress + 48)).bind decodeDebug = some (.jr .s0 0) := by
  decide +kernel

/-! ## The entry -/

section Entry
variable {view : HartView} {context : Context} {scratch0 scratch1 : Word}

def debugAt (context : Context) (pc : Word) (view : HartView) (scratch0 scratch1 : Word) :
    DebugState HartView :=
  ⟨⟨context.at pc, view⟩, scratch0, scratch1⟩

theorem debugAt_step {pc : Word} {instr : DebugInstr}
    (fetched : (romFetch pc).bind decodeDebug = some instr) :
    DebugReaches hartBus romFetch (debugAt context pc view scratch0 scratch1)
      (debugExec hartBus (debugAt context pc view scratch0 scratch1) instr) :=
  DebugReaches.single fetched

theorem debugEntry_head :
    DebugReaches hartBus romFetch (debugAt context dmHaltAddress view scratch0 scratch1)
      (debugAt { context with
          regs := context.regs.write .a0 (view.ctrl.rdata CtrlOffset.externalDebugReq) }
        (if view.ctrl.rdata CtrlOffset.externalDebugReq = 0 then haltBootAddr
          else dmHaltAddress + 20)
        view (context.regs.read .s0) (context.regs.read .a0)) := by
  obtain ⟨saveA0, saveS0, -, -⟩ := debugEntry_words
  have first : DebugReaches hartBus romFetch (debugAt context dmHaltAddress view scratch0 scratch1)
      (debugAt context (dmHaltAddress + 4) view scratch0 (context.regs.read .a0)) :=
    debugAt_step saveA0
  have second : DebugReaches hartBus romFetch
      (debugAt context (dmHaltAddress + 4) view scratch0 (context.regs.read .a0))
      (debugAt context (dmHaltAddress + 8) view (context.regs.read .s0)
        (context.regs.read .a0)) :=
    debugAt_step saveS0
  let based : Context := { context with regs := context.regs.write .a0 safeWrapperCtrlBase }
  let loaded : Context :=
    { context with regs := context.regs.write .a0 (view.ctrl.rdata CtrlOffset.externalDebugReq) }
  have once : { based with
      regs := based.regs.write .a0 (view.ctrl.rdata CtrlOffset.externalDebugReq) } = loaded := by
    simp only [based, loaded, RegFile.write_write]
  have load : Performs hartBus (dmHaltAddress + 8) debugEntryLoad context view [] loaded := by
    rw [← once]
    exact Performs.cons (performs_li .a0 safeWrapperCtrlBase)
      (performs_ctrlLoad CtrlOffset.externalDebugReq .a0 .a0 (by simp))
  obtain ⟨loadPlaced, testPlaced⟩ := codeAt_append.mp debugEntryLoad_placed
  have past : after (dmHaltAddress + 8) debugEntryLoad = dmHaltAddress + 16 := by decide
  have ran := load _ loadPlaced
  rw [past] at ran testPlaced
  have test := @executes_beq HartView hartBus _ (dmHaltAddress + 16) loaded view .a0 .zero 40
    testPlaced.1
  have read : loaded.regs.read .a0 = view.ctrl.rdata CtrlOffset.externalDebugReq := by
    simp [loaded]
  rw [read, loaded.regs.read_zero] at test
  exact (first.trans second).trans (debugReaches_of_executes (ran.trans test))

theorem rdata_externalDebugReq (ctrl : SafeWrapperCtrl) :
    ctrl.rdata CtrlOffset.externalDebugReq = ctrl.externalDebugReq.zeroExtend 32 := rfl

theorem rdata_entryAddress (ctrl : SafeWrapperCtrl) :
    ctrl.rdata CtrlOffset.entryAddress = ctrl.entryAddress := rfl

theorem debugEntry_halt (halts : view.ctrl.externalDebugReq = 0) :
    ∃ loaded, DebugReaches hartBus romFetch (debugAt context dmHaltAddress view scratch0 scratch1)
      (debugAt loaded haltBootAddr view (context.regs.read .s0) (context.regs.read .a0)) := by
  have head : DebugReaches hartBus romFetch (debugAt context dmHaltAddress view scratch0 scratch1)
      _ := debugEntry_head
  rw [if_pos (by rw [rdata_externalDebugReq, halts]; rfl)] at head
  exact ⟨_, head⟩

/-- Up to the test against 2, when the register is not 0. -/
theorem debugEntry_masked (boots : view.ctrl.externalDebugReq ≠ 0) :
    DebugReaches hartBus romFetch (debugAt context dmHaltAddress view scratch0 scratch1)
      (debugAt { context with
          regs := context.regs.write .a0 (view.ctrl.rdata CtrlOffset.externalDebugReq ^^^ 2) }
        (if view.ctrl.externalDebugReq = 2 then singleBootAddr else dmHaltAddress + 32)
        view (context.regs.read .s0) (context.regs.read .a0)) := by
  have value := rdata_externalDebugReq view.ctrl
  have head : DebugReaches hartBus romFetch (debugAt context dmHaltAddress view scratch0 scratch1)
      _ := debugEntry_head
  rw [if_neg (by rw [value]; revert boots; generalize view.ctrl.externalDebugReq = req;
                 revert req; decide)] at head
  obtain ⟨-, -, mask, -⟩ := debugEntry_words
  let loaded : Context :=
    { context with regs := context.regs.write .a0 (view.ctrl.rdata CtrlOffset.externalDebugReq) }
  let masked : Context :=
    { context with
      regs := context.regs.write .a0 (view.ctrl.rdata CtrlOffset.externalDebugReq ^^^ 2) }
  have once : loaded.regs.write .a0 (loaded.regs.read .a0 ^^^ 2) = masked.regs := by
    simp [loaded, masked, RegFile.write_write]
  have step : DebugReaches hartBus romFetch
      (debugAt loaded (dmHaltAddress + 20) view (context.regs.read .s0) (context.regs.read .a0))
      (debugAt masked (dmHaltAddress + 24) view (context.regs.read .s0)
        (context.regs.read .a0)) := by
    have made : DebugReaches hartBus romFetch _
        (debugAt { loaded with regs := loaded.regs.write .a0 (loaded.regs.read .a0 ^^^ 2) }
          (dmHaltAddress + 24) view (context.regs.read .s0) (context.regs.read .a0)) :=
      debugAt_step mask
    rw [once] at made
    exact made
  obtain ⟨testPlaced, jumpPlaced, -⟩ := debugEntryTest_placed
  have test := @executes_bnez HartView hartBus _ (dmHaltAddress + 24) masked view .a0 8 testPlaced
  have read : masked.regs.read .a0 = view.ctrl.rdata CtrlOffset.externalDebugReq ^^^ 2 := by
    simp [masked]
  rw [read, value] at test
  by_cases single : view.ctrl.externalDebugReq = 2
  · have clear : ¬view.ctrl.externalDebugReq.zeroExtend 32 ^^^ 2 ≠ 0 := by
      rw [single]
      decide
    rw [if_neg clear] at test
    have jump := @executes_j HartView hartBus _ (dmHaltAddress + 24 + 4) masked view (-76) jumpPlaced
    rw [show dmHaltAddress + 24 + 4 + -76 = singleBootAddr by decide] at jump
    rw [if_pos single]
    exact (head.trans step).trans (debugReaches_of_executes (test.trans jump))
  · have set : view.ctrl.externalDebugReq.zeroExtend 32 ^^^ 2 ≠ 0 := by
      revert single
      generalize view.ctrl.externalDebugReq = req
      revert req
      decide
    rw [if_pos set, show dmHaltAddress + 24 + 8 = dmHaltAddress + 32 by decide] at test
    rw [if_neg single]
    exact (head.trans step).trans (debugReaches_of_executes test)

theorem singleBoot_executes :
    Executes hartBus (fetchDecode romFetch) ⟨context.at singleBootAddr, view⟩ []
      ⟨Context.at { context with
          regs := context.regs.write .a0 view.ctrl.entryAddress
          dpc := view.ctrl.entryAddress } view.ctrl.entryAddress, view⟩ := by
  let based : Context := { context with regs := context.regs.write .a0 safeWrapperCtrlBase }
  let loaded : Context := { context with regs := context.regs.write .a0 view.ctrl.entryAddress }
  let aimed : Context := { loaded with dpc := view.ctrl.entryAddress }
  have load : Performs hartBus (singleBootAddr + 4)
      [.lw .a0 (ctrlImm CtrlOffset.entryAddress) .a0] based view [] loaded := by
    have read := @performs_ctrlLoad view (singleBootAddr + 4) based CtrlOffset.entryAddress .a0 .a0
      (by simp [based])
    rw [rdata_entryAddress] at read
    refine read.congr ?_
    simp only [based, loaded, RegFile.write_write]
  have aim : Performs hartBus (singleBootAddr + 4 + 4) [.csrwDpc .a0] loaded view [] aimed := by
    have written := @performs_csrwDpc HartView hartBus (singleBootAddr + 4 + 4) loaded view .a0
    refine written.congr ?_
    simp [aimed, loaded]
  obtain ⟨bootPlaced, retPlaced⟩ := codeAt_append.mp singleBoot_placed
  have boots : Performs hartBus singleBootAddr singleBoot context view [] aimed :=
    Performs.cons (performs_li .a0 safeWrapperCtrlBase) (Performs.cons load aim)
  exact (boots _ bootPlaced).trans (executes_dret retPlaced.1)

theorem debugEntryHost_reaches :
    DebugReaches hartBus romFetch
      (debugAt context (dmHaltAddress + 32) view scratch0 scratch1)
      (debugAt { context with
          regs := (context.regs.write .a0 0x10000000).write .s0 0x10000830 }
        0x10000830 view scratch0 scratch1) := by
  obtain ⟨-, -, -, leave⟩ := debugEntry_words
  let window : Context := { context with regs := context.regs.write .a0 0x10000000 }
  let upper : Context := { window with regs := window.regs.write .s0 0x10001000 }
  let aimed : Context := { window with regs := window.regs.write .s0 0x10000830 }
  have add : Performs hartBus (dmHaltAddress + 32 + 4 + 4 + 4) [.addi .s0 .s0 (-2000)] upper view []
      aimed := by
    have made := @performs_addi HartView hartBus (dmHaltAddress + 32 + 4 + 4 + 4) upper view .s0 .s0
      (-2000)
    refine made.congr ?_
    simp only [upper, aimed, RegFile.write_write]
    simp
  have goes : Performs hartBus (dmHaltAddress + 32) debugEntryHost context view [] aimed :=
    Performs.cons performs_fence (Performs.cons (performs_li .a0 0x10000000)
      (Performs.cons (performs_li .s0 0x10001000) add))
  have ran := goes _ debugEntryHost_placed
  rw [show after (dmHaltAddress + 32) debugEntryHost = dmHaltAddress + 48 by decide] at ran
  have last : DebugReaches hartBus romFetch
      (debugAt aimed (dmHaltAddress + 48) view scratch0 scratch1)
      (debugAt aimed 0x10000830 view scratch0 scratch1) := by
    have made : DebugReaches hartBus romFetch _
        (debugAt aimed ((aimed.regs.read .s0 + 0) &&& ~~~1#32) view scratch0 scratch1) :=
      debugAt_step leave
    have target : (aimed.regs.read .s0 + 0) &&& ~~~1#32 = 0x10000830 := by
      simp [aimed]
    rw [target] at made
    exact made
  exact (debugReaches_of_executes ran).trans last

/-- What a halted hart that runs the words of the boot ROM comes to: with
`EXTERNAL_DEBUG_REQ` 0 the context saved in the area, its stack copied back when
`DMR_REC` is set; with 2 `ENTRY_ADDRESS`, with its registers but `a0` kept; else
the debug module of the host.  `a0` and `s0` are in the debug scratch registers. -/
theorem boot_rom_serves_halted_hart (view : HartView) (context : Context)
    (scratch0 scratch1 : Word) :
    let image := areaImage view.ram view.ctrl.safeCopyAddress
    let stores := stackWrites (image (.reg .sp)) image
      (stackWords (image (.reg .sp)) view.ctrl.initialStackAddr)
    let Comes (after : Context) (pc : Word) (left : HartView) : Prop :=
      DebugReaches hartBus romFetch (debugAt context dmHaltAddress view scratch0 scratch1)
        (debugAt after pc left (context.regs.read .s0) (context.regs.read .a0))
    (view.ctrl.externalDebugReq = 0 → view.ctrl.dmrRec = false →
        AreaInMemory view.ctrl.safeCopyAddress → Comes image.context (image .resume) view) ∧
      (view.ctrl.externalDebugReq = 0 → view.ctrl.dmrRec = true →
        SaveSite view.ctrl.safeCopyAddress (image (.reg .sp)) view.ctrl.initialStackAddr →
          Comes image.context (image .resume)
            { view with ram := ByteMemory.storeAll view.ram stores }) ∧
      (view.ctrl.externalDebugReq = 2 →
        Comes { context with
            regs := context.regs.write .a0 view.ctrl.entryAddress
            dpc := view.ctrl.entryAddress } view.ctrl.entryAddress view) ∧
      (view.ctrl.externalDebugReq ≠ 0 → view.ctrl.externalDebugReq ≠ 2 →
        Comes { context with
            regs := (context.regs.write .a0 0x10000000).write .s0 0x10000830 }
          0x10000830 view) := by
  intro image stores Comes
  refine ⟨fun halts fresh memory => ?_, fun halts recovery site => ?_, fun boots => ?_,
    fun used other => ?_⟩
  · obtain ⟨loaded, entered⟩ := @debugEntry_halt view context scratch0 scratch1 halts
    have resumes := @haltBoot_resumes (fetchDecode romFetch) haltBootAddr view loaded
      haltBoot_placed memory fresh
    exact entered.trans (debugReaches_of_executes resumes)
  · obtain ⟨loaded, entered⟩ := @debugEntry_halt view context scratch0 scratch1 halts
    have recovers := @haltBoot_recovers (fetchDecode romFetch) haltBootAddr view loaded
      haltBoot_placed site recovery
    exact entered.trans (debugReaches_of_executes recovers)
  · have some : view.ctrl.externalDebugReq ≠ 0 := by
      rw [boots]
      decide
    have entered := @debugEntry_masked view context scratch0 scratch1 some
    rw [if_pos boots] at entered
    let masked : Context :=
      { context with
        regs := context.regs.write .a0 (view.ctrl.rdata CtrlOffset.externalDebugReq ^^^ 2) }
    have resumes := @singleBoot_executes view masked
    have once : masked.regs.write .a0 view.ctrl.entryAddress =
        context.regs.write .a0 view.ctrl.entryAddress := RegFile.write_write _ _ _ _
    rw [once] at resumes
    exact entered.trans (debugReaches_of_executes resumes)
  · have entered := @debugEntry_masked view context scratch0 scratch1 used
    rw [if_neg other] at entered
    let masked : Context :=
      { context with
        regs := context.regs.write .a0 (view.ctrl.rdata CtrlOffset.externalDebugReq ^^^ 2) }
    have leaves := @debugEntryHost_reaches view masked (context.regs.read .s0)
      (context.regs.read .a0)
    have once : masked.regs.write .a0 0x10000000 = context.regs.write .a0 0x10000000 :=
      RegFile.write_write _ _ _ _
    rw [once] at leaves
    exact entered.trans leaves

end Entry

/-- The area holds the checkpoint of a call, and `DMR_REC` asks for it. -/
def recoveringView : HartView :=
  { checkpointView with
    ram := ByteMemory.storeAll checkpointView.ram
      (checkpointWrites (numberedCall 0xfff0) checkpointView 0x8130)
    ctrl := { checkpointView.ctrl with dmrRec := true } }

theorem recoveringView_image {cell : Cell} (saved : cell ≠ .reg .zero) (fixed : cell.position < 37) :
    areaImage recoveringView.ram recoveringView.ctrl.safeCopyAddress cell =
      callImage (numberedCall 0xfff0) checkpointView.ram 0x8130 cell :=
  @areaImage_completed (numberedCall 0xfff0) checkpointView 0x8130 checkpointView_site cell saved
    (Nat.lt_add_right _ fixed)

/-- A hart halted before any checkpoint comes to the empty area; one halted to recover
comes back to where its checkpoint returned, with its registers. -/
theorem boot_rom_serves_numberedCall :
    DebugReaches hartBus romFetch
        (debugAt (numberedCall 0xfff0) dmHaltAddress checkpointView 0 0)
        (debugAt (areaImage checkpointView.ram 0x20000).context
          (areaImage checkpointView.ram 0x20000 .resume) checkpointView 8 10) ∧
      ∃ after left,
        DebugReaches hartBus romFetch
          (debugAt (numberedCall 0) dmHaltAddress recoveringView 0 0)
          (debugAt after 0x8130 left 8 10) ∧
        after.regs = numberedRegs 0xfff0 := by
  have stack := @recoveringView_image (.reg .sp) nofun (by decide)
  have resume := @recoveringView_image .resume nofun (by decide)
  have recovers := (boot_rom_serves_halted_hart recoveringView (numberedCall 0) 0 0).2.1 rfl rfl
    (by rw [stack]; exact checkpointView_site)
  rw [resume] at recovers
  refine ⟨(boot_rom_serves_halted_hart checkpointView (numberedCall 0xfff0) 0 0).1 rfl rfl
    checkpointView_site.areaInMemory, _, _, recovers, ?_⟩
  apply RegFile.ext
  funext reg
  by_cases zero : reg = .zero
  · rw [zero, RegFile.read_zero, RegFile.read_zero]
  · exact (Image.regs_of_ne _ zero).trans
      (recoveringView_image (fun same => zero (Cell.reg.inj same)) (Cell.position_reg_lt reg))

end Eros
