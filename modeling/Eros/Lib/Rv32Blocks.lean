import Eros.Lib.Rv32

/-!
# Blocks of instructions

`Performs` states a block by its effect on the context, wherever it is placed:
from its first instruction the hart runs to the one after it and makes the given
stores.  Blocks compose by `Performs.append`.  The blocks of context-switching
code are tables: save and restore sequences are stated once for every table,
and a word-copy loop for every number of words.
-/

set_option autoImplicit false

namespace Rv32

open ByteMemory (Word Addr Write)

/-- The address after a block placed at `pc`. -/
def after (pc : Word) (block : List Instr) : Word := pc + BitVec.ofNat 32 (4 * block.length)

def CodeAt (code : Code) : Word → List Instr → Prop
  | _, [] => True
  | pc, instr :: rest => code pc = some instr ∧ CodeAt code (pc + 4) rest

@[simp] theorem after_nil (pc : Word) : after pc [] = pc := by simp [after]

theorem after_cons (pc : Word) (instr : Instr) (rest : List Instr) :
    after pc (instr :: rest) = after (pc + 4) rest := by
  unfold after
  rw [List.length_cons]
  bv_omega

theorem after_append (pc : Word) (first second : List Instr) :
    after pc (first ++ second) = after (after pc first) second := by
  induction first generalizing pc with
  | nil => rw [List.nil_append, after_nil]
  | cons instr rest ih => rw [List.cons_append, after_cons, after_cons, ih]

theorem codeAt_append {code : Code} {pc : Word} {first second : List Instr} :
    CodeAt code pc (first ++ second) ↔ CodeAt code pc first ∧ CodeAt code (after pc first) second := by
  induction first generalizing pc with
  | nil => simp [CodeAt]
  | cons instr rest ih => simp only [List.cons_append, CodeAt, ih, after_cons, and_assoc]

/-- The code that holds one block. -/
def placeAt (base : Word) (block : List Instr) : Code := fun pc => block[(pc - base).toNat / 4]?

theorem codeAt_placeAt_drop (base : Word) (block before rest : List Instr)
    (split : block = before ++ rest) (small : 4 * block.length < 2 ^ 32) :
    CodeAt (placeAt base block) (base + BitVec.ofNat 32 (4 * before.length)) rest := by
  induction rest generalizing before with
  | nil => exact trivial
  | cons instr rest ih =>
    have total : block.length = before.length + (rest.length + 1) := by
      rw [split, List.length_append, List.length_cons]
    refine ⟨?_, ?_⟩
    · have index : (base + BitVec.ofNat 32 (4 * before.length) - base).toNat / 4 = before.length := by
        bv_omega
      unfold placeAt
      rw [index, split]
      simp
    · have next : base + BitVec.ofNat 32 (4 * before.length) + 4 =
          base + BitVec.ofNat 32 (4 * (before ++ [instr]).length) := by
        rw [List.length_append, List.length_singleton]
        bv_omega
      rw [next]
      exact ih (before ++ [instr]) (by rw [split, List.append_assoc]; rfl)

theorem codeAt_placeAt (base : Word) (block : List Instr) (small : 4 * block.length < 2 ^ 32) :
    CodeAt (placeAt base block) base block := by
  have placed := codeAt_placeAt_drop base block [] block rfl small
  rw [show base + BitVec.ofNat 32 (4 * ([] : List Instr).length) = base by simp] at placed
  exact placed

section Blocks
variable {σ : Type*} (bus : Bus σ)

/-- `block` at `pc` takes `context` and `dev` to `final`, storing `stores`. -/
def Performs (pc : Word) (block : List Instr) (context : Context) (dev : σ)
    (stores : List Write) (final : Context) : Prop :=
  ∀ code, CodeAt code pc block →
    Executes bus code ⟨context.at pc, dev⟩ stores ⟨final.at (after pc block), bus.storeAll dev stores⟩

variable {bus} {pc : Word} {context middle final : Context} {dev : σ}

theorem Performs.nil : Performs bus pc [] context dev [] context := by
  intro code _
  rw [after_nil]
  exact Executes.refl _

theorem Performs.congr {block : List Instr} {stores : List Write}
    (performs : Performs bus pc block context dev stores middle) (same : middle = final) :
    Performs bus pc block context dev stores final :=
  same ▸ performs

theorem Performs.append {first second : List Instr} {firstStores secondStores : List Write}
    (left : Performs bus pc first context dev firstStores middle)
    (right : Performs bus (after pc first) second middle (bus.storeAll dev firstStores)
      secondStores final) :
    Performs bus pc (first ++ second) context dev (firstStores ++ secondStores) final := by
  intro code placed
  obtain ⟨placedFirst, placedSecond⟩ := codeAt_append.mp placed
  rw [after_append, Bus.storeAll_append]
  exact (left code placedFirst).trans (right code placedSecond)

theorem Performs.cons {instr : Instr} {rest : List Instr} {firstStores secondStores : List Write}
    (left : Performs bus pc [instr] context dev firstStores middle)
    (right : Performs bus (pc + 4) rest middle (bus.storeAll dev firstStores) secondStores final) :
    Performs bus pc (instr :: rest) context dev (firstStores ++ secondStores) final := by
  have one : after pc [instr] = pc + 4 := by rw [after_cons, after_nil]
  rw [← one] at right
  exact left.append right

/-! ## Single instructions -/

theorem performs_straight {instr : Instr} (straight : instr.straight = true) :
    Performs bus pc [instr] context dev (writesOf (context.at pc) instr)
      (retire (context.at pc) (bus.response dev (access (context.at pc) instr)) instr).toContext := by
  intro code placed
  have step := @Executes.single σ bus code ⟨context.at pc, dev⟩ instr placed.1
  have next := retire_pc_of_straight (context.at pc)
    (bus.response dev (access (context.at pc) instr)) straight
  have one : after pc [instr] = pc + 4 := by rw [after_cons, after_nil]
  rw [one, ← effect_eq_storeAll]
  have landed : (retire (context.at pc) (bus.response dev (access (context.at pc) instr))
      instr).toContext.at (pc + 4) =
      retire (context.at pc) (bus.response dev (access (context.at pc) instr)) instr := by
    change { (retire (context.at pc) _ instr) with pc := (context.at pc).pc + 4 } = _
    rw [← next]
  rw [landed]
  exact step

theorem performs_addi (rd rs : Reg) (imm : Word) :
    Performs bus pc [.addi rd rs imm] context dev []
      { context with regs := context.regs.write rd (context.regs.read rs + imm) } :=
  performs_straight rfl

theorem performs_li (rd : Reg) (imm : Word) :
    Performs bus pc [.li rd imm] context dev [] { context with regs := context.regs.write rd imm } :=
  performs_straight rfl

theorem performs_mv (rd rs : Reg) :
    Performs bus pc [.mv rd rs] context dev []
      { context with regs := context.regs.write rd (context.regs.read rs) } :=
  performs_straight rfl

theorem performs_auipc (rd : Reg) (imm : Word) :
    Performs bus pc [.auipc rd imm] context dev []
      { context with regs := context.regs.write rd (pc + imm <<< 12) } :=
  performs_straight rfl

theorem performs_lw (rd : Reg) (offset : Word) (base : Reg) :
    Performs bus pc [.lw rd offset base] context dev []
      { context with
        regs := context.regs.write rd (bus.load dev (context.regs.read base + offset)) } :=
  performs_straight rfl

theorem performs_sw (rs : Reg) (offset : Word) (base : Reg) :
    Performs bus pc [.sw rs offset base] context dev
      [(context.regs.read base + offset, context.regs.read rs)] context :=
  performs_straight rfl

theorem performs_load {rd base : Reg} {offset addr value : Word}
    (points : context.regs.read base + offset = addr) (holds : bus.load dev addr = value) :
    Performs bus pc [.lw rd offset base] context dev []
      { context with regs := context.regs.write rd value } := by
  subst points holds
  exact performs_lw rd offset base

theorem performs_store {rs base : Reg} {offset addr value : Word}
    (points : context.regs.read base + offset = addr) (holds : context.regs.read rs = value) :
    Performs bus pc [.sw rs offset base] context dev [(addr, value)] context := by
  subst points holds
  exact performs_sw rs offset base

theorem performs_csrr (rd : Reg) (csr : Csr) :
    Performs bus pc [.csrr rd csr] context dev []
      { context with regs := context.regs.write rd (context.csrs csr) } :=
  performs_straight rfl

theorem performs_csrw (csr : Csr) (rs : Reg) :
    Performs bus pc [.csrw csr rs] context dev []
      { context with csrs := Function.update context.csrs csr (context.regs.read rs) } :=
  performs_straight rfl

theorem performs_csrwDpc (rs : Reg) :
    Performs bus pc [.csrwDpc rs] context dev [] { context with dpc := context.regs.read rs } :=
  performs_straight rfl

theorem performs_fence : Performs bus pc [.fence] context dev [] context :=
  performs_straight rfl

theorem performs_wfi : Performs bus pc [.wfi] context dev [] context :=
  performs_straight rfl

theorem performs_nop : Performs bus pc [.nop] context dev [] context := by
  have step : Performs bus pc [.nop] context dev []
      { context with regs := context.regs.write .zero (context.regs.read .zero + 0) } :=
    performs_addi .zero .zero 0
  have same : context.regs.read .zero + 0 = context.regs.read .zero := by bv_omega
  rw [same, RegFile.write_read_self] at step
  exact step

/-! ## Tables of registers -/

/-- One `sw` for each entry: the register and its offset from `base`. -/
def saveRegs (base : Reg) (table : List (Reg × Word)) : List Instr :=
  table.map fun entry => .sw entry.1 entry.2 base

def restoreRegs (base : Reg) (table : List (Reg × Word)) : List Instr :=
  table.map fun entry => .lw entry.1 entry.2 base

/-- `csrr` and `sw` through `scratch` for each entry. -/
def saveCsrs (scratch base : Reg) : List (Csr × Word) → List Instr
  | [] => []
  | entry :: rest => .csrr scratch entry.1 :: .sw scratch entry.2 base :: saveCsrs scratch base rest

/-- `lw` and `csrw` through `scratch` for each entry. -/
def restoreCsrs (scratch base : Reg) : List (Csr × Word) → List Instr
  | [] => []
  | entry :: rest =>
      .lw scratch entry.2 base :: .csrw entry.1 scratch :: restoreCsrs scratch base rest

theorem performs_saveRegs (base : Reg) (table : List (Reg × Word)) (pc : Word) (dev : σ) :
    Performs bus pc (saveRegs base table) context dev
      (table.map fun entry => (context.regs.read base + entry.2, context.regs.read entry.1))
      context := by
  induction table generalizing pc dev with
  | nil => exact Performs.nil
  | cons entry rest ih => exact Performs.cons (performs_sw _ _ _) (ih _ _)

theorem performs_push {size : Word} {table : List (Reg × Word)}
    (others : ∀ entry ∈ table, entry.1 ≠ .sp) :
    Performs bus pc (.addi .sp .sp (-size) :: saveRegs .sp table) context dev
      (table.map fun entry => (context.regs.read .sp - size + entry.2, context.regs.read entry.1))
      { context with regs := context.regs.write .sp (context.regs.read .sp - size) } := by
  let pushed : Context :=
    { context with regs := context.regs.write .sp (context.regs.read .sp - size) }
  have stack : pushed.regs.read .sp = context.regs.read .sp - size := by simp [pushed]
  have move : Performs bus pc [.addi .sp .sp (-size)] context dev [] pushed := by
    have step : Performs bus pc [.addi .sp .sp (-size)] context dev [] _ :=
      performs_addi .sp .sp (-size)
    rw [← BitVec.sub_eq_add_neg] at step
    exact step
  have same : (table.map fun entry =>
      (context.regs.read .sp - size + entry.2, context.regs.read entry.1)) =
      table.map fun entry => (pushed.regs.read .sp + entry.2, pushed.regs.read entry.1) := by
    apply List.map_congr_left
    intro entry member
    rw [stack]
    exact congrArg _ (RegFile.read_write_ne _ _ (others entry member)).symm
  rw [same]
  exact Performs.cons move (performs_saveRegs .sp table _ _)

/-- Loading a register file back, entry by entry, from words that hold it.  The
base may be among the registers when its word holds its own value. -/
theorem performs_restoreRegs (base : Reg) (table : List (Reg × Word)) (source : RegFile)
    (pc : Word) (context : Context)
    (holds : ∀ entry ∈ table,
      bus.load dev (context.regs.read base + entry.2) = source.read entry.1)
    (keepsBase : base ∈ table.map Prod.fst → source.read base = context.regs.read base) :
    Performs bus pc (restoreRegs base table) context dev []
      { context with regs := context.regs.overlay (table.map Prod.fst) source } := by
  induction table generalizing pc context with
  | nil =>
    rw [List.map_nil, RegFile.overlay_nil]
    exact Performs.nil
  | cons entry rest ih =>
    have loaded : Performs bus pc [.lw entry.1 entry.2 base] context dev []
        { context with regs := context.regs.write entry.1 (source.read entry.1) } := by
      have step : Performs bus pc [.lw entry.1 entry.2 base] context dev [] _ :=
        performs_lw entry.1 entry.2 base
      rw [holds entry List.mem_cons_self] at step
      exact step
    have baseKept : (context.regs.write entry.1 (source.read entry.1)).read base =
        context.regs.read base := by
      rw [RegFile.read_write]
      split_ifs with written
      · obtain ⟨same, _⟩ := written
        rw [← same]
        exact keepsBase (by rw [List.map_cons, same]; exact List.mem_cons_self)
      · rfl
    have others := ih (pc + 4)
      { context with regs := context.regs.write entry.1 (source.read entry.1) }
      (by
        intro later member
        rw [baseKept]
        exact holds later (List.mem_cons_of_mem _ member))
      (by
        intro member
        rw [baseKept]
        exact keepsBase (List.mem_cons_of_mem _ member))
    rw [List.map_cons, ← RegFile.overlay_cons]
    exact Performs.cons loaded others

theorem performs_saveCsrs (scratch base : Reg) (other : base ≠ scratch)
    (writable : scratch ≠ .zero) (table : List (Csr × Word)) (pc : Word) (dev : σ)
    (context : Context) :
    ∃ value, Performs bus pc (saveCsrs scratch base table) context dev
      (table.map fun entry => (context.regs.read base + entry.2, context.csrs entry.1))
      { context with regs := context.regs.write scratch value } := by
  induction table generalizing pc dev context with
  | nil =>
    refine ⟨context.regs.read scratch, ?_⟩
    rw [RegFile.write_read_self]
    exact Performs.nil
  | cons entry rest ih =>
    let read : Context :=
      { context with regs := context.regs.write scratch (context.csrs entry.1) }
    have saved : Performs bus (pc + 4) [.sw scratch entry.2 base] read dev
        [(context.regs.read base + entry.2, context.csrs entry.1)] read := by
      have step : Performs bus (pc + 4) [.sw scratch entry.2 base] read dev _ read :=
        performs_sw scratch entry.2 base
      rw [show read.regs.read base = context.regs.read base from
          RegFile.read_write_ne _ _ other,
        show read.regs.read scratch = context.csrs entry.1 from
          RegFile.read_write_same _ _ writable] at step
      exact step
    obtain ⟨value, others⟩ := ih (pc + 4 + 4)
      (bus.storeAll dev [(context.regs.read base + entry.2, context.csrs entry.1)]) read
    refine ⟨value, ?_⟩
    have overwritten : read.regs.write scratch value = context.regs.write scratch value :=
      RegFile.write_write _ _ _ _
    rw [overwritten, show read.regs.read base = context.regs.read base from
      RegFile.read_write_ne _ _ other] at others
    exact Performs.cons (performs_csrr _ _) (Performs.cons saved others)

/-- The CSRs of `keys` taken from `source`. -/
def overlayCsrs (keys : List Csr) (source csrs : Csr → Word) : Csr → Word :=
  fun csr => if csr ∈ keys then source csr else csrs csr

theorem performs_restoreCsrs (scratch base : Reg) (other : base ≠ scratch)
    (writable : scratch ≠ .zero) (table : List (Csr × Word)) (source : Csr → Word) (pc : Word)
    (context : Context)
    (holds : ∀ entry ∈ table, bus.load dev (context.regs.read base + entry.2) = source entry.1) :
    ∃ value, Performs bus pc (restoreCsrs scratch base table) context dev []
      { context with
        regs := context.regs.write scratch value
        csrs := overlayCsrs (table.map Prod.fst) source context.csrs } := by
  induction table generalizing pc context with
  | nil =>
    refine ⟨context.regs.read scratch, ?_⟩
    rw [RegFile.write_read_self]
    exact Performs.nil
  | cons entry rest ih =>
    let loaded : Context := { context with regs := context.regs.write scratch (source entry.1) }
    let written : Context :=
      { loaded with csrs := Function.update context.csrs entry.1 (source entry.1) }
    have load : Performs bus pc [.lw scratch entry.2 base] context dev [] loaded := by
      have step : Performs bus pc [.lw scratch entry.2 base] context dev [] _ :=
        performs_lw scratch entry.2 base
      rw [holds entry List.mem_cons_self] at step
      exact step
    have write : Performs bus (pc + 4) [.csrw entry.1 scratch] loaded dev [] written := by
      have step : Performs bus (pc + 4) [.csrw entry.1 scratch] loaded dev [] _ :=
        performs_csrw entry.1 scratch
      rw [show loaded.regs.read scratch = source entry.1 from
        RegFile.read_write_same _ _ writable] at step
      exact step
    have baseKept : written.regs.read base = context.regs.read base :=
      RegFile.read_write_ne _ _ other
    obtain ⟨value, others⟩ := ih (pc + 4 + 4) written (by
      intro later member
      rw [baseKept]
      exact holds later (List.mem_cons_of_mem _ member))
    refine ⟨value, ?_⟩
    have overwritten : written.regs.write scratch value = context.regs.write scratch value :=
      RegFile.write_write _ _ _ _
    have merged : overlayCsrs (rest.map Prod.fst) source written.csrs =
        overlayCsrs ((entry :: rest).map Prod.fst) source context.csrs := by
      funext csr
      simp only [overlayCsrs, written, List.map_cons, List.mem_cons, Function.update_apply]
      by_cases later : csr ∈ rest.map Prod.fst
      · simp [later]
      · by_cases same : csr = entry.1
        · simp [same]
        · simp [later, same]
    rw [overwritten, merged] at others
    exact Performs.cons load (Performs.cons write others)

end Blocks

end Rv32
