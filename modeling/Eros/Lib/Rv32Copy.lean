import Eros.Lib.Rv32Blocks

/-!
# Branches and the word-copy loop

A loop that copies words upwards from `src` to `dst` until its counter, one of
the two pointers, meets a limit; the word at the limit is copied as well.
-/

set_option autoImplicit false

namespace Rv32

open ByteMemory (Word Addr Write)

section Branches
variable {σ : Type*} {bus : Bus σ} {code : Code} {pc : Word} {context : Context} {dev : σ}

theorem executes_beq {rs1 rs2 : Reg} {offset : Word} (placed : code pc = some (.beq rs1 rs2 offset)) :
    Executes bus code ⟨context.at pc, dev⟩ []
      ⟨context.at (if context.regs.read rs1 = context.regs.read rs2 then pc + offset else pc + 4),
        dev⟩ :=
  @Executes.single σ bus code ⟨context.at pc, dev⟩ _ placed

theorem executes_bnez {rs : Reg} {offset : Word} (placed : code pc = some (.bnez rs offset)) :
    Executes bus code ⟨context.at pc, dev⟩ []
      ⟨context.at (if context.regs.read rs ≠ 0 then pc + offset else pc + 4), dev⟩ :=
  @Executes.single σ bus code ⟨context.at pc, dev⟩ _ placed

theorem executes_j {offset : Word} (placed : code pc = some (.j offset)) :
    Executes bus code ⟨context.at pc, dev⟩ [] ⟨context.at (pc + offset), dev⟩ :=
  @Executes.single σ bus code ⟨context.at pc, dev⟩ _ placed

theorem executes_dret (placed : code pc = some .dret) :
    Executes bus code ⟨context.at pc, dev⟩ [] ⟨context.at context.dpc, dev⟩ :=
  @Executes.single σ bus code ⟨context.at pc, dev⟩ _ placed

end Branches

/-! ## The copy loop -/

/-- `first` and `second` are the two pointers in the order in which the loop
advances them. -/
def copyLoop (data src dst counter limit first second : Reg) (exit : Word) : List Instr :=
  [.lw data 0 src, .sw data 0 dst, .beq counter limit exit, .addi first first 4,
    .addi second second 4, .j (-20)]

structure CopyRegs (data src dst counter limit first second : Reg) : Prop where
  dataWritable : data ≠ .zero
  srcWritable : src ≠ .zero
  dstWritable : dst ≠ .zero
  dataSrc : src ≠ data
  dataDst : dst ≠ data
  dataLimit : limit ≠ data
  srcDst : src ≠ dst
  limitSrc : limit ≠ src
  limitDst : limit ≠ dst
  counts : counter = src ∨ counter = dst
  advances : (first = src ∧ second = dst) ∨ (first = dst ∧ second = src)

section Loop
variable {σ : Type*} (bus : Bus σ)

/-- The stores of a copy of `count` words. -/
def copyWrites (dev : σ) (src dst : Addr) : Nat → List Write
  | 0 => []
  | count + 1 =>
      (dst, bus.load dev src) ::
        copyWrites (bus.store dev dst (bus.load dev src)) (src + 4) (dst + 4) count

variable {code : Code} {data src dst counter limit first second : Reg} {exit : Word}

theorem copyLoop_word (names : CopyRegs data src dst counter limit first second) {pc : Word}
    (placed : CodeAt code pc (copyLoop data src dst counter limit first second exit))
    (context : Context) (dev : σ) :
    let value := bus.load dev (context.regs.read src)
    Executes bus code ⟨context.at pc, dev⟩ [(context.regs.read dst, value)]
      ⟨{ context with regs := context.regs.write data value }.at (pc + 8),
        bus.store dev (context.regs.read dst) value⟩ := by
  intro value
  let loaded : Context := { context with regs := context.regs.write data value }
  have load : Performs bus pc [.lw data 0 src] context dev [] loaded := by
    have step : Performs bus pc [.lw data 0 src] context dev [] _ := performs_lw data 0 src
    rw [show context.regs.read src + 0 = context.regs.read src by bv_omega] at step
    exact step
  have save : Performs bus (pc + 4) [.sw data 0 dst] loaded dev
      [(context.regs.read dst, value)] loaded := by
    have step : Performs bus (pc + 4) [.sw data 0 dst] loaded dev _ loaded := performs_sw data 0 dst
    rw [show loaded.regs.read dst + 0 = context.regs.read dst by
        rw [show loaded.regs.read dst = context.regs.read dst from
          RegFile.read_write_ne _ _ names.dataDst]
        bv_omega,
      show loaded.regs.read data = value from RegFile.read_write_same _ _ names.dataWritable] at step
    exact step
  have both := (Performs.cons load save) code ⟨placed.1, placed.2.1, trivial⟩
  have past : after pc [.lw data 0 src, .sw data 0 dst] = pc + 8 := by
    unfold after
    simp
  rw [past] at both
  exact both

theorem copyLoop_advance (names : CopyRegs data src dst counter limit first second) {pc : Word}
    (placed : CodeAt code pc (copyLoop data src dst counter limit first second exit))
    (context : Context) (dev : σ)
    (goesOn : context.regs.read counter ≠ context.regs.read limit) :
    ∃ regs : RegFile, regs.read src = context.regs.read src + 4 ∧
      regs.read dst = context.regs.read dst + 4 ∧
      (∀ reg, reg ≠ src → reg ≠ dst → regs.read reg = context.regs.read reg) ∧
      Executes bus code ⟨context.at (pc + 8), dev⟩ [] ⟨{ context with regs := regs }.at pc, dev⟩ := by
  obtain ⟨_, _, test, addFirst, addSecond, jump, _⟩ := placed
  have different : second ≠ first := by
    rcases names.advances with ⟨rfl, rfl⟩ | ⟨rfl, rfl⟩
    · exact names.srcDst.symm
    · exact names.srcDst
  have writable : first ≠ .zero ∧ second ≠ .zero := by
    rcases names.advances with ⟨rfl, rfl⟩ | ⟨rfl, rfl⟩
    · exact ⟨names.srcWritable, names.dstWritable⟩
    · exact ⟨names.dstWritable, names.srcWritable⟩
  let one := context.regs.write first (context.regs.read first + 4)
  let two := one.write second (one.read second + 4)
  have firstMoved : two.read first = context.regs.read first + 4 := by
    rw [RegFile.read_write_ne _ _ different.symm, RegFile.read_write_same _ _ writable.1]
  have secondMoved : two.read second = context.regs.read second + 4 := by
    rw [RegFile.read_write_same _ _ writable.2, RegFile.read_write_ne _ _ different]
  have others : ∀ reg, reg ≠ first → reg ≠ second → two.read reg = context.regs.read reg := by
    intro reg notFirst notSecond
    rw [RegFile.read_write_ne _ _ notSecond, RegFile.read_write_ne _ _ notFirst]
  have branch : Executes bus code ⟨context.at (pc + 8), dev⟩ [] ⟨context.at (pc + 12), dev⟩ := by
    have step := @executes_beq σ bus code (pc + 8) context dev counter limit exit
      (by rw [show pc + 8 = pc + 4 + 4 by bv_omega]; exact test)
    rw [if_neg goesOn, show pc + 8 + 4 = pc + 12 by bv_omega] at step
    exact step
  have moves : Performs bus (pc + 12) [.addi first first 4, .addi second second 4] context dev []
      { context with regs := two } :=
    Performs.cons (performs_addi first first 4) (performs_addi second second 4)
  have moved := moves code
    ⟨by rw [show pc + 12 = pc + 4 + 4 + 4 by bv_omega]; exact addFirst,
      by rw [show pc + 12 + 4 = pc + 4 + 4 + 4 + 4 by bv_omega]; exact addSecond, trivial⟩
  have past : after (pc + 12) [.addi first first 4, .addi second second 4] = pc + 20 := by
    unfold after
    simp only [List.length_cons, List.length_nil]
    bv_omega
  have back := @executes_j σ bus code (pc + 20) { context with regs := two } dev (-20)
    (by rw [show pc + 20 = pc + 4 + 4 + 4 + 4 + 4 by bv_omega]; exact jump)
  rw [past] at moved
  rw [show pc + 20 + -20 = pc by bv_omega] at back
  have round := (branch.trans moved).trans back
  rcases names.advances with ⟨rfl, rfl⟩ | ⟨rfl, rfl⟩
  · exact ⟨two, firstMoved, secondMoved, others, round⟩
  · exact ⟨two, secondMoved, firstMoved, fun reg notSrc notDst => others reg notDst notSrc, round⟩

/-- The loop copies every word up to the limit, the word at the limit included,
and leaves by its exit. -/
theorem copyLoop_executes (names : CopyRegs data src dst counter limit first second) {pc : Word}
    (placed : CodeAt code pc (copyLoop data src dst counter limit first second exit))
    (count : Nat) (small : count < 2 ^ 30) (context : Context) (dev : σ)
    (distance : context.regs.read limit = context.regs.read counter + BitVec.ofNat 32 (4 * count)) :
    let stores := copyWrites bus dev (context.regs.read src) (context.regs.read dst) (count + 1)
    ∃ regs : RegFile,
      (∀ reg, reg ≠ data → reg ≠ src → reg ≠ dst → regs.read reg = context.regs.read reg) ∧
      Executes bus code ⟨context.at pc, dev⟩ stores
        ⟨{ context with regs := regs }.at (pc + 8 + exit), bus.storeAll dev stores⟩ := by
  induction count generalizing context dev with
  | zero =>
    intro stores
    let value := bus.load dev (context.regs.read src)
    let copied := context.regs.write data value
    have word := copyLoop_word bus names placed context dev
    have counterKept : copied.read counter = context.regs.read counter := by
      rcases names.counts with rfl | rfl
      · exact RegFile.read_write_ne _ _ names.dataSrc
      · exact RegFile.read_write_ne _ _ names.dataDst
    have limitKept : copied.read limit = context.regs.read limit :=
      RegFile.read_write_ne _ _ names.dataLimit
    have branch := @executes_beq σ bus code (pc + 8) { context with regs := copied }
      (bus.store dev (context.regs.read dst) value) counter limit exit
      (by rw [show pc + 8 = pc + 4 + 4 by bv_omega]; exact placed.2.2.1)
    have met : copied.read counter = copied.read limit := by
      rw [counterKept, limitKept, distance]
      bv_omega
    rw [if_pos met] at branch
    refine ⟨copied, ?_, word.trans branch⟩
    intro reg notData _ _
    exact RegFile.read_write_ne _ _ notData
  | succ count ih =>
    intro stores
    let value := bus.load dev (context.regs.read src)
    let copied : Context := { context with regs := context.regs.write data value }
    have word := copyLoop_word bus names placed context dev
    have srcKept : copied.regs.read src = context.regs.read src :=
      RegFile.read_write_ne _ _ names.dataSrc
    have dstKept : copied.regs.read dst = context.regs.read dst :=
      RegFile.read_write_ne _ _ names.dataDst
    have limitKept : copied.regs.read limit = context.regs.read limit :=
      RegFile.read_write_ne _ _ names.dataLimit
    have counterKept : copied.regs.read counter = context.regs.read counter := by
      rcases names.counts with rfl | rfl
      · exact srcKept
      · exact dstKept
    have goesOn : copied.regs.read counter ≠ copied.regs.read limit := by
      rw [counterKept, limitKept, distance]
      bv_omega
    obtain ⟨regs, srcMoved, dstMoved, others, advance⟩ :=
      copyLoop_advance bus names placed copied (bus.store dev (context.regs.read dst) value) goesOn
    have counterMoved : regs.read counter = context.regs.read counter + 4 := by
      rcases names.counts with rfl | rfl
      · rw [srcMoved, srcKept]
      · rw [dstMoved, dstKept]
    have remaining : regs.read limit = regs.read counter + BitVec.ofNat 32 (4 * count) := by
      rw [others limit names.limitSrc names.limitDst, limitKept, distance, counterMoved]
      bv_omega
    obtain ⟨final, kept, rest⟩ := ih (by omega) { copied with regs := regs }
      (bus.store dev (context.regs.read dst) value) remaining
    rw [srcMoved, dstMoved, srcKept, dstKept] at rest
    refine ⟨final, ?_, (word.trans advance).trans rest⟩
    intro reg notData notSrc notDst
    rw [kept reg notData notSrc notDst, others reg notSrc notDst]
    exact RegFile.read_write_ne _ _ notData

/-- When stores to the destination leave the source alone, the copy stores the
words the source held at the start. -/
theorem copyWrites_eq (count : Nat) (dev : σ) (src dst : Addr)
    (undisturbed : ∀ dev value read written, read < count → written < count →
      bus.load (bus.store dev (dst + BitVec.ofNat 32 (4 * written)) value)
          (src + BitVec.ofNat 32 (4 * read)) =
        bus.load dev (src + BitVec.ofNat 32 (4 * read))) :
    copyWrites bus dev src dst count =
      (List.range count).map fun index =>
        (dst + BitVec.ofNat 32 (4 * index), bus.load dev (src + BitVec.ofNat 32 (4 * index))) := by
  induction count generalizing dev src dst with
  | zero => rfl
  | succ count ih =>
    have next : ∀ (base : Addr) (index : Nat),
        base + 4 + BitVec.ofNat 32 (4 * index) = base + BitVec.ofNat 32 (4 * (index + 1)) := by
      intro base index
      bv_omega
    have start : ∀ base : Addr, base + BitVec.ofNat 32 (4 * 0) = base := by
      intro base
      bv_omega
    rw [List.range_succ_eq_map, List.map_cons, List.map_map, start, start]
    unfold copyWrites
    rw [ih _ (src + 4) (dst + 4) (by
      intro dev value read written readInside writtenInside
      rw [next, next]
      exact undisturbed dev value _ _ (by omega) (by omega))]
    congr 1
    apply List.map_congr_left
    intro index member
    have inside : index < count := List.mem_range.mp member
    have kept := undisturbed dev (bus.load dev src) (index + 1) 0 (by omega) (by omega)
    rw [start] at kept
    simp only [Function.comp_apply, next]
    rw [kept]

end Loop

end Rv32
