import Eros.BootRom
import Eros.Checkpoint

/-!
# What `halt_boot` restores

`halt_boot` leaves exactly the context of the image in the save area and resumes
at the saved address, after copying the saved stack back when `DMR_REC` is set.
-/

set_option autoImplicit false

namespace Eros

open Rv32
open ByteMemory (Mem Write InRegion Apart)

/-- The fixed part of the area lies in memory. -/
def AreaInMemory (area : Word) : Prop := ∀ byte, InRegion area 148 byte → InMemory byte

theorem SaveSite.areaInMemory {area sp top : Word} (site : SaveSite area sp top) :
    AreaInMemory area := by
  intro byte inside
  apply site.areaMemory
  unfold InRegion at *
  omega

section Loads
variable {view : HartView} {area : Word}

theorem AreaInMemory.cell (memory : AreaInMemory area) {cell : Cell} (fixed : cell.position < 37) :
    InMemory (cell.addr area) := by
  apply memory
  unfold Cell.addr Cell.offset InRegion
  bv_omega

theorem load_cell (memory : AreaInMemory area) {cell : Cell} (fixed : cell.position < 37) :
    hartBus.load view (cell.addr area) = areaImage view.ram area cell :=
  hartBus_load_memory view (memory.cell fixed)

theorem load_reg (memory : AreaInMemory area) {reg : Reg} (writable : reg ≠ .zero) :
    hartBus.load view (area + (Cell.reg reg).offset) = (areaImage view.ram area).regs.read reg := by
  rw [Image.regs_of_ne _ writable]
  exact load_cell memory (Cell.position_reg_lt reg)

theorem load_csr (memory : AreaInMemory area) (csr : Csr) :
    hartBus.load view (area + (Cell.csr csr).offset) = (areaImage view.ram area).csrs csr :=
  load_cell memory (Cell.position_csr_lt csr)

theorem load_resume (memory : AreaInMemory area) :
    hartBus.load view (area + Cell.resume.offset) = areaImage view.ram area .resume :=
  load_cell memory (by decide)

theorem restore_table (memory : AreaInMemory area) (table : List (Reg × Word))
    (slots : ∀ entry ∈ table, entry.2 = (Cell.reg entry.1).offset ∧ entry.1 ≠ .zero) (pc : Word)
    (context : Context) (base : context.regs.read .t5 = area)
    (notBase : .t5 ∉ table.map Prod.fst) :
    Performs hartBus pc (restoreRegs .t5 table) context view []
      { context with
        regs := context.regs.overlay (table.map Prod.fst) (areaImage view.ram area).regs } := by
  refine performs_restoreRegs .t5 table (areaImage view.ram area).regs pc context ?_ ?_
  · intro entry member
    obtain ⟨offset, writable⟩ := slots entry member
    rw [base, offset]
    exact load_reg memory writable
  · intro member
    exact absurd member notBase

end Loads

/-! ## The parts of the routine -/

section Parts
variable {view : HartView} {pc : Word} {context : Context}

theorem haltBootCsrs_performs (memory : AreaInMemory view.ctrl.safeCopyAddress) :
    ∃ value, Performs hartBus pc haltBootCsrs context view []
      { context with
        regs := (context.regs.write .t5 view.ctrl.safeCopyAddress).write .t6 value
        csrs := (areaImage view.ram view.ctrl.safeCopyAddress).csrs } := by
  let based : Context :=
    { context with regs := context.regs.write .t5 safeWrapperCtrlBase }
  let aimed : Context :=
    { context with regs := based.regs.write .t5 view.ctrl.safeCopyAddress }
  have aim : Performs hartBus pc
      [.li .t5 safeWrapperCtrlBase, .lw .t5 (ctrlImm CtrlOffset.safeCopyAddress) .t5]
      context view [] aimed :=
    Performs.cons (performs_li .t5 safeWrapperCtrlBase)
      (performs_ctrlLoad CtrlOffset.safeCopyAddress .t5 .t5 (by simp))
  have pointsAt : aimed.regs.read .t5 = view.ctrl.safeCopyAddress := by simp [aimed]
  obtain ⟨value, restored⟩ := @performs_restoreCsrs HartView hartBus view .t6 .t5 (by decide)
    (by decide) csrArea (areaImage view.ram view.ctrl.safeCopyAddress).csrs
    (after pc [.li .t5 safeWrapperCtrlBase, .lw .t5 (ctrlImm CtrlOffset.safeCopyAddress) .t5])
    aimed (by
      intro entry member
      have offset : entry.2 = (Cell.csr entry.1).offset := by
        revert entry
        decide
      rw [pointsAt, offset]
      exact load_csr memory entry.1)
  refine ⟨value, ?_⟩
  have all : overlayCsrs (csrArea.map Prod.fst) (areaImage view.ram view.ctrl.safeCopyAddress).csrs
      aimed.csrs = (areaImage view.ram view.ctrl.safeCopyAddress).csrs := by
    funext csr
    cases csr <;> rfl
  have once : aimed.regs = context.regs.write .t5 view.ctrl.safeCopyAddress := by
    apply RegFile.ext
    funext reg
    simp only [aimed, based, RegFile.read_write]
    split_ifs <;> rfl
  rw [all, once] at restored
  exact aim.append restored

theorem haltBootHead_performs {area : Word} (memory : AreaInMemory area)
    (base : context.regs.read .t5 = area) :
    Performs hartBus pc haltBootHead context view []
      { context with
        regs := ((context.regs.overlay [.ra, .sp, .gp, .tp] (areaImage view.ram area).regs).write .t0
          safeWrapperCtrlBase).write .t1 (view.ctrl.rdata CtrlOffset.dmrRec) } := by
  have restored := @restore_table view area memory [(.ra, 20), (.sp, 24), (.gp, 28), (.tp, 32)]
    (by decide) pc context base (by decide)
  refine restored.append (Performs.cons (performs_li .t0 safeWrapperCtrlBase)
    (Performs.cons (performs_ctrlLoad CtrlOffset.dmrRec .t1 .t0 ?_) performs_fence))
  simp

/-- `load_register` leaves the saved context when the registers before it are
already restored. -/
theorem loadRegister_performs {area : Word} (memory : AreaInMemory area)
    (base : context.regs.read .t5 = area)
    (early : ∀ reg ∈ [Reg.ra, .sp, .gp, .tp],
      context.regs.read reg = (areaImage view.ram area).regs.read reg)
    (trap : context.csrs = (areaImage view.ram area).csrs) :
    Performs hartBus pc loadRegister context view [] (areaImage view.ram area).context := by
  let saved := (areaImage view.ram area).regs
  let resume := areaImage view.ram area .resume
  let table : Context :=
    { context with regs := context.regs.overlay (loadRegisterTable.map Prod.fst) saved }
  let resumed : Context := { table with regs := table.regs.write .t6 resume }
  let aimed : Context := { resumed with dpc := resume }
  let last : Context := { aimed with regs := aimed.regs.write .t6 (saved.read .t6) }
  have tableBase : table.regs.read .t5 = area := base
  have aimedBase : aimed.regs.read .t5 = area := base
  have lastBase : last.regs.read .t5 = area := base
  have loaded : Performs hartBus pc (restoreRegs .t5 loadRegisterTable) context view [] table :=
    restore_table memory loadRegisterTable (by decide) pc context base (by decide)
  have complete : { last with regs := last.regs.write .t5 (saved.read .t5) } =
      (areaImage view.ram area).context := by
    have regs : last.regs.write .t5 (saved.read .t5) = saved := by
      apply RegFile.ext
      funext reg
      have cover : reg = .zero ∨ reg ∈ [Reg.ra, .sp, .gp, .tp] ∨
          reg ∈ loadRegisterTable.map Prod.fst ∨ reg = .t5 ∨ reg = .t6 := by
        cases reg <;> decide
      simp only [last, aimed, resumed, table, RegFile.read_write, RegFile.read_overlay]
      rcases cover with rfl | before | inTable | rfl | rfl
      · simp [saved.read_zero, context.regs.read_zero]
      · have here : context.regs.read reg = saved.read reg := early reg before
        split_ifs with five six
        · rw [five.1]
        · rw [six.1]
        · rfl
        · exact here
      · split_ifs with five six
        · rw [five.1]
        · rw [six.1]
        · rfl
      · rfl
      · rfl
    change Context.mk (last.regs.write .t5 (saved.read .t5)) context.csrs resume = _
    rw [regs, trap]
    rfl
  have tail : Performs hartBus (after pc (restoreRegs .t5 loadRegisterTable))
      [.lw .t6 144 .t5, .fence, .csrwDpc .t6, .lw .t6 140 .t5, .lw .t5 136 .t5] table view []
      { last with regs := last.regs.write .t5 (saved.read .t5) } := by
    have aim : Performs hartBus (after pc (restoreRegs .t5 loadRegisterTable) + 4 + 4)
        [.csrwDpc .t6] resumed view [] aimed := performs_csrwDpc .t6
    refine Performs.cons (performs_load (congrArg (· + 144) tableBase) (load_resume memory)) ?_
    refine Performs.cons performs_fence (Performs.cons aim ?_)
    refine Performs.cons (performs_load (congrArg (· + 140) aimedBase)
      (@load_reg view area memory .t6 (by decide))) ?_
    exact performs_load (congrArg (· + 136) lastBase) (@load_reg view area memory .t5 (by decide))
  rw [← complete]
  exact loaded.append tail

/-- What is restored at the test of `DMR_REC`. -/
structure FrontRestored (view : HartView) (area : Word) (context : Context) : Prop where
  base : context.regs.read .t5 = area
  early : ∀ reg ∈ [Reg.ra, .sp, .gp, .tp],
    context.regs.read reg = (areaImage view.ram area).regs.read reg
  trap : context.csrs = (areaImage view.ram area).csrs
  control : context.regs.read .t0 = safeWrapperCtrlBase
  recovery : context.regs.read .t1 = view.ctrl.rdata CtrlOffset.dmrRec

theorem haltBootFront_performs (memory : AreaInMemory view.ctrl.safeCopyAddress) :
    ∃ front, FrontRestored view view.ctrl.safeCopyAddress front ∧
      Performs hartBus pc (haltBootCsrs ++ haltBootHead) context view [] front := by
  obtain ⟨value, trapRestored⟩ := @haltBootCsrs_performs view pc context memory
  refine ⟨_, ⟨?_, ?_, ?_, ?_, ?_⟩, trapRestored.append (haltBootHead_performs memory rfl)⟩
  · rfl
  · intro reg member
    simp only [List.mem_cons, List.not_mem_nil, or_false] at member
    rcases member with rfl | rfl | rfl | rfl <;> rfl
  · rfl
  · rfl
  · rfl

end Parts

/-! ## The routine -/

section Routine
variable {code : Code} {base : Word} {view : HartView} {context : Context}

theorem haltBoot_labels (placed : CodeAt code base haltBoot) :
    CodeAt code base (haltBootCsrs ++ haltBootHead) ∧
      code (base + 76) = some (.bnez .t1 148) ∧ CodeAt code (base + 80) loadRegister ∧
      code (base + 200) = some .dret ∧ CodeAt code (base + 224) storeStack ∧
      code (base + 232) = some (.beq .sp .t1 (-152)) ∧
      code (base + 236) = some (.addi .t2 .t5 148) ∧ CodeAt code (base + 240) loadStack ∧
      code (base + 272) = some (.lw .sp 24 .t5) ∧ code (base + 276) = some (.j (-196)) := by
  unfold haltBoot at placed
  simp only [codeAt_append] at placed
  obtain ⟨⟨⟨⟨⟨⟨⟨⟨⟨⟨csrs, head⟩, test⟩, load⟩, ret⟩, _⟩, store⟩, branch⟩, copy⟩, _⟩, last⟩ := placed
  refine ⟨codeAt_append.mpr ⟨csrs, head⟩, test.1, load, ret.1, store, branch.1, ?_, copy, last.1, ?_⟩
  · rw [show base + 236 = base + 232 + 4 by bv_omega]
    exact branch.2.1
  · rw [show base + 276 = base + 272 + 4 by bv_omega]
    exact last.2.1

theorem haltBoot_front (placed : CodeAt code base haltBoot)
    (memory : AreaInMemory view.ctrl.safeCopyAddress) :
    ∃ front, FrontRestored view view.ctrl.safeCopyAddress front ∧
      Executes hartBus code ⟨context.at base, view⟩ [] ⟨front.at (base + 76), view⟩ := by
  obtain ⟨frontPlaced, _⟩ := haltBoot_labels placed
  obtain ⟨front, restored, performs⟩ := @haltBootFront_performs view base context memory
  exact ⟨front, restored, performs code frontPlaced⟩

theorem loadRegister_executes (placed : CodeAt code base haltBoot) {area : Word}
    (memory : AreaInMemory area) (front : context.regs.read .t5 = area)
    (early : ∀ reg ∈ [Reg.ra, .sp, .gp, .tp],
      context.regs.read reg = (areaImage view.ram area).regs.read reg)
    (trap : context.csrs = (areaImage view.ram area).csrs) :
    Executes hartBus code ⟨context.at (base + 80), view⟩ []
      ⟨(areaImage view.ram area).context.at (areaImage view.ram area .resume), view⟩ := by
  obtain ⟨_, _, loadPlaced, retPlaced, _⟩ := haltBoot_labels placed
  have loaded := @loadRegister_performs view (base + 80) context area memory front early trap code
    loadPlaced
  have past : after (base + 80) loadRegister = base + 200 := by
    rw [show base + 200 = base + 80 + 120 by bv_omega]
    rfl
  rw [past] at loaded
  exact loaded.trans (executes_dret retPlaced)

/-- Entered with `DMR_REC = 0` the routine resumes the context of the area and
changes nothing else. -/
theorem haltBoot_resumes (placed : CodeAt code base haltBoot)
    (memory : AreaInMemory view.ctrl.safeCopyAddress) (fresh : view.ctrl.dmrRec = false) :
    let image := areaImage view.ram view.ctrl.safeCopyAddress
    Executes hartBus code ⟨context.at base, view⟩ [] ⟨image.context.at (image .resume), view⟩ := by
  intro image
  obtain ⟨front, restored, ran⟩ := @haltBoot_front code base view context placed memory
  obtain ⟨_, testPlaced, _⟩ := haltBoot_labels placed
  have test := @executes_bnez HartView hartBus code (base + 76) front view .t1 148 testPlaced
  have clear : front.regs.read .t1 = 0 := by
    rw [restored.recovery, SafeWrapperCtrl.rdata_dmrRec, fresh]
    rfl
  rw [if_neg (not_not.mpr clear), show base + 76 + 4 = base + 80 by bv_omega] at test
  exact (ran.trans test).trans
    (loadRegister_executes placed memory restored.base restored.early restored.trap)

/-- `store_stack` up to the branch, when `DMR_REC` is set. -/
theorem haltBoot_storeStack (placed : CodeAt code base haltBoot)
    (memory : AreaInMemory view.ctrl.safeCopyAddress) (recovery : view.ctrl.dmrRec = true) :
    ∃ front : Context, front.regs.read .t5 = view.ctrl.safeCopyAddress ∧
      (∀ reg ∈ [Reg.ra, .sp, .gp, .tp], front.regs.read reg =
        (areaImage view.ram view.ctrl.safeCopyAddress).regs.read reg) ∧
      front.csrs = (areaImage view.ram view.ctrl.safeCopyAddress).csrs ∧
      front.regs.read .t1 = view.ctrl.initialStackAddr ∧
      Executes hartBus code ⟨context.at base, view⟩ [] ⟨front.at (base + 232), view⟩ := by
  obtain ⟨front, restored, ran⟩ := @haltBoot_front code base view context placed memory
  obtain ⟨_, testPlaced, _, _, storePlaced, _⟩ := haltBoot_labels placed
  have test := @executes_bnez HartView hartBus code (base + 76) front view .t1 148 testPlaced
  have set : front.regs.read .t1 ≠ 0 := by
    rw [restored.recovery, SafeWrapperCtrl.rdata_dmrRec, recovery]
    decide
  rw [if_pos set, show base + 76 + 148 = base + 224 by bv_omega] at test
  have load : Performs hartBus (base + 224) storeStack front view []
      { front with regs := front.regs.write .t1 view.ctrl.initialStackAddr } :=
    Performs.cons (performs_ctrlLoad CtrlOffset.initialStackAddr .t1 .t0 restored.control) performs_fence
  have loaded := load code storePlaced
  have past : after (base + 224) storeStack = base + 232 := by
    rw [show base + 232 = base + 224 + 8 by bv_omega]
    rfl
  rw [past] at loaded
  refine ⟨_, ?_, ?_, ?_, ?_, (ran.trans test).trans loaded⟩
  · exact restored.base
  · intro reg member
    have other : reg ≠ .t1 := by
      rintro rfl
      exact absurd member (by decide)
    rw [RegFile.read_write_ne _ _ other]
    exact restored.early reg member
  · exact restored.trap
  · simp

theorem loadStack_names : CopyRegs .t4 .t2 .sp .sp .t1 .t2 .sp := by
  constructor <;> simp

theorem loadStack_writes {area sp top : Word} (site : SaveSite area sp top) (used : sp ≠ top) :
    copyWrites hartBus view (area + 148) sp ((top - sp).toNat / 4 + 1) =
      stackWrites sp (areaImage view.ram area) (stackWords sp top) := by
  have words : stackWords sp top = (top - sp).toNat / 4 + 1 := if_neg used
  have fits : ∀ index, index < stackWords sp top →
      (Cell.stack index).position < 37 + stackWords sp top :=
    fun index inside => Nat.add_lt_add_left inside 37
  rw [← words, copyWrites_eq]
  · apply List.map_congr_left
    intro index member
    rw [stackCell_addr, hartBus_load_memory view (site.cell_memory (fits index (List.mem_range.mp member)))]
    rfl
  · intro dev value read written readInside writtenInside
    obtain ⟨here, room⟩ := site.stack_word writtenInside
    have memory := site.cell_memory (fits read readInside)
    rw [stackCell_addr, hartBus_store_memory dev value (site.stack_memory here room),
      hartBus_load_memory _ memory, hartBus_load_memory _ memory]
    exact ByteMemory.load_store_apart dev.ram value
      (site.cell_apart_stack (fits read readInside) here room).symm

theorem SaveSite.context_stackWrites {area sp top : Word} (site : SaveSite area sp top)
    (ram : Mem) (image : Image) :
    let copied := areaImage
      (ByteMemory.storeAll ram (stackWrites sp image (stackWords sp top))) area
    copied.context = (areaImage ram area).context ∧
      copied .resume = areaImage ram area .resume := by
  intro copied
  have same : ∀ cell, cell.position < 37 → copied cell = areaImage ram area cell :=
    fun cell fixed => site.areaImage_stackWrites ram image (Nat.lt_add_right _ fixed)
  refine ⟨?_, same .resume (by decide)⟩
  apply Image.context_congr
  · intro reg _
    exact same _ (Cell.position_reg_lt reg)
  · intro csr
    exact same _ (Cell.position_csr_lt csr)
  · exact same _ (by decide)

section LoadStack
variable {front : Context} (placed : CodeAt code base haltBoot)
  (site : SaveSite view.ctrl.safeCopyAddress
    (areaImage view.ram view.ctrl.safeCopyAddress (.reg .sp)) view.ctrl.initialStackAddr)
  (frontBase : front.regs.read .t5 = view.ctrl.safeCopyAddress)
  (sp : front.regs.read .sp = areaImage view.ram view.ctrl.safeCopyAddress (.reg .sp))
  (limit : front.regs.read .t1 = view.ctrl.initialStackAddr)
  (used : areaImage view.ram view.ctrl.safeCopyAddress (.reg .sp) ≠ view.ctrl.initialStackAddr)
include placed site frontBase sp limit used

/-- `load_stack` up to the end of its loop, with words to copy. -/
theorem loadStack_copies :
    let image := areaImage view.ram view.ctrl.safeCopyAddress
    let stores := stackWrites (image (.reg .sp)) image
      (stackWords (image (.reg .sp)) view.ctrl.initialStackAddr)
    ∃ regs : RegFile,
      (∀ reg, reg ≠ .t4 → reg ≠ .t2 → reg ≠ .sp → regs.read reg = front.regs.read reg) ∧
      Executes hartBus code ⟨front.at (base + 236), view⟩ stores
        ⟨{ front with regs }.at (base + 272),
          { view with ram := ByteMemory.storeAll view.ram stores }⟩ := by
  intro image stores
  obtain ⟨_, _, _, _, _, _, aimPlaced, copyPlaced, _⟩ := haltBoot_labels placed
  let aimed : Context :=
    { front with regs := front.regs.write .t2 (view.ctrl.safeCopyAddress + 148) }
  have aim : Performs hartBus (base + 236) [.addi .t2 .t5 148] front view [] aimed := by
    have step : Performs hartBus (base + 236) [.addi .t2 .t5 148] front view [] _ :=
      performs_addi .t2 .t5 148
    rw [frontBase] at step
    exact step
  have aimedAt := aim code ⟨aimPlaced, trivial⟩
  rw [show after (base + 236) [.addi .t2 .t5 148] = base + 240 by
    rw [after_cons, after_nil]; bv_omega] at aimedAt
  obtain ⟨copied, kept, copy⟩ := @copyLoop_executes HartView hartBus code .t4 .t2 .sp .sp .t1 .t2
    .sp 24 loadStack_names (base + 240) copyPlaced
    ((view.ctrl.initialStackAddr - image (.reg .sp)).toNat / 4) (by bv_omega) aimed view (by
      change front.regs.read .t1 = front.regs.read .sp + _
      rw [limit, sp]
      exact site.top_eq)
  have source : aimed.regs.read .t2 = view.ctrl.safeCopyAddress + 148 := by simp [aimed]
  have target : aimed.regs.read .sp = image (.reg .sp) := sp
  rw [source, target, loadStack_writes site used,
    show base + 240 + 8 + 24 = base + 272 by bv_omega,
    hartBus_storeAll_memory view _ fun write => site.stackWrites_memory image] at copy
  refine ⟨copied, fun reg notScratch notSource notSp => ?_, ?_⟩
  · rw [kept reg notScratch notSource notSp]
    exact RegFile.read_write_ne _ _ notSource
  · exact aimedAt.trans copy

/-- The whole of it: the loop has moved `sp`, which is read back from the area. -/
theorem loadStack_executes :
    let image := areaImage view.ram view.ctrl.safeCopyAddress
    let stores := stackWrites (image (.reg .sp)) image
      (stackWords (image (.reg .sp)) view.ctrl.initialStackAddr)
    ∃ regs : RegFile, regs.read .sp = image (.reg .sp) ∧
      (∀ reg, reg ≠ .t4 → reg ≠ .t2 → reg ≠ .sp → regs.read reg = front.regs.read reg) ∧
      Executes hartBus code ⟨front.at (base + 236), view⟩ stores
        ⟨{ front with regs }.at (base + 80),
          { view with ram := ByteMemory.storeAll view.ram stores }⟩ := by
  intro image stores
  obtain ⟨_, _, _, _, _, _, _, _, lastPlaced, backPlaced⟩ := haltBoot_labels placed
  obtain ⟨copied, kept, copy⟩ := loadStack_copies placed site frontBase sp limit used
  let looped : Context := { front with regs := copied }
  let restoredView : HartView := { view with ram := ByteMemory.storeAll view.ram stores }
  have loopedBase : looped.regs.read .t5 = view.ctrl.safeCopyAddress :=
    (kept .t5 (by decide) (by decide) (by decide)).trans frontBase
  have unwind : Performs hartBus (base + 272) [.lw .sp 24 .t5] looped restoredView []
      { looped with regs := copied.write .sp (image (.reg .sp)) } := by
    have saved : areaImage restoredView.ram view.ctrl.safeCopyAddress (.reg .sp) =
        image (.reg .sp) :=
      site.areaImage_stackWrites view.ram image (Nat.lt_add_right _ (Cell.position_reg_lt .sp))
    refine performs_load (congrArg (· + 24) loopedBase) ?_
    rw [← saved]
    exact @load_cell restoredView _ site.areaInMemory (.reg .sp) (Cell.position_reg_lt .sp)
  have unwoundAt := unwind code ⟨lastPlaced, trivial⟩
  rw [show after (base + 272) [.lw .sp 24 .t5] = base + 276 by
    rw [after_cons, after_nil]; bv_omega] at unwoundAt
  have back := @executes_j HartView hartBus code (base + 276)
    { looped with regs := copied.write .sp (image (.reg .sp)) } restoredView (-196) backPlaced
  rw [show base + 276 + -196 = base + 80 by bv_omega] at back
  refine ⟨copied.write .sp (image (.reg .sp)), by simp, ?_, ?_⟩
  · intro reg notScratch notSource notSp
    rw [RegFile.read_write_ne _ _ notSp, kept reg notScratch notSource notSp]
  · have whole := (copy.trans unwoundAt).trans back
    simp only [List.append_nil] at whole
    exact whole

end LoadStack

/-- Entered with `DMR_REC = 1` the routine copies the saved stack words back and
resumes the context of the area. -/
theorem haltBoot_recovers (placed : CodeAt code base haltBoot)
    (site : SaveSite view.ctrl.safeCopyAddress
      (areaImage view.ram view.ctrl.safeCopyAddress (.reg .sp)) view.ctrl.initialStackAddr)
    (recovery : view.ctrl.dmrRec = true) :
    let image := areaImage view.ram view.ctrl.safeCopyAddress
    let stores := stackWrites (image (.reg .sp)) image
      (stackWords (image (.reg .sp)) view.ctrl.initialStackAddr)
    Executes hartBus code ⟨context.at base, view⟩ stores
      ⟨image.context.at (image .resume),
        { view with ram := ByteMemory.storeAll view.ram stores }⟩ := by
  intro image stores
  have memory := site.areaInMemory
  obtain ⟨front, frontBase, early, trap, limit, ran⟩ :=
    @haltBoot_storeStack code base view context placed memory recovery
  obtain ⟨_, _, _, _, _, branchPlaced, _⟩ := haltBoot_labels placed
  have sp : front.regs.read .sp = image (.reg .sp) := early .sp (by decide)
  have branch := @executes_beq HartView hartBus code (base + 232) front view .sp .t1 (-152)
    branchPlaced
  rw [sp, limit] at branch
  by_cases empty : image (.reg .sp) = view.ctrl.initialStackAddr
  · rw [if_pos empty, show base + 232 + -152 = base + 80 by bv_omega] at branch
    have none : stores = [] := by
      change stackWrites _ image (stackWords _ _) = []
      rw [show stackWords (image (.reg .sp)) view.ctrl.initialStackAddr = 0 from if_pos empty]
      rfl
    rw [none]
    exact (ran.trans branch).trans (loadRegister_executes placed memory frontBase early trap)
  · rw [if_neg empty, show base + 232 + 4 = base + 236 by bv_omega] at branch
    obtain ⟨regs, unwound, kept, copy⟩ := loadStack_executes placed site frontBase sp limit empty
    obtain ⟨sameContext, sameResume⟩ := site.context_stackWrites view.ram image
    let restoredView : HartView := { view with ram := ByteMemory.storeAll view.ram stores }
    have last := @loadRegister_executes code base restoredView { front with regs } placed _ memory
      ((kept .t5 (by decide) (by decide) (by decide)).trans frontBase) (by
        intro reg member
        change _ = (areaImage restoredView.ram view.ctrl.safeCopyAddress).context.regs.read reg
        rw [sameContext]
        by_cases stackPointer : reg = .sp
        · rw [stackPointer]
          exact unwound
        · have others : reg ≠ .t4 ∧ reg ≠ .t2 := by
            constructor <;> (rintro rfl; exact absurd member (by decide))
          rw [kept reg others.1 others.2 stackPointer]
          exact early reg member) (by
        change _ = (areaImage restoredView.ram view.ctrl.safeCopyAddress).context.csrs
        rw [sameContext]
        exact trap)
    rw [sameContext, sameResume] at last
    have whole := ((ran.trans branch).trans copy).trans last
    simp only [List.nil_append, List.append_nil] at whole
    exact whole

end Routine

end Eros
