import Eros.Lib.ByteMemory

/-!
# A small RV32 machine

The integer registers, five machine-mode trap registers and the debug program
counter, with the instructions of context-switching code: word loads and stores,
register and CSR moves, branches, `fence`, `wfi` and `dret`.  An instruction is
split into the access it makes and its retirement with the loaded value, so that
one hart on a bus and several harts in step share one semantics.

The bus is a parameter.  A run is a finite number of steps; `Executes` also
records the stores in order, so that a run can be cut between any two of them.
-/

set_option autoImplicit false

namespace Rv32

open ByteMemory (Word Addr Write)

inductive Reg
  | zero | ra | sp | gp | tp | t0 | t1 | t2 | s0 | s1
  | a0 | a1 | a2 | a3 | a4 | a5 | a6 | a7
  | s2 | s3 | s4 | s5 | s6 | s7 | s8 | s9 | s10 | s11
  | t3 | t4 | t5 | t6
  deriving DecidableEq, Repr

/-- `xk` has number `k`. -/
def Reg.number : Reg → Nat
  | .zero => 0 | .ra => 1 | .sp => 2 | .gp => 3 | .tp => 4 | .t0 => 5 | .t1 => 6 | .t2 => 7
  | .s0 => 8 | .s1 => 9 | .a0 => 10 | .a1 => 11 | .a2 => 12 | .a3 => 13 | .a4 => 14 | .a5 => 15
  | .a6 => 16 | .a7 => 17 | .s2 => 18 | .s3 => 19 | .s4 => 20 | .s5 => 21 | .s6 => 22 | .s7 => 23
  | .s8 => 24 | .s9 => 25 | .s10 => 26 | .s11 => 27 | .t3 => 28 | .t4 => 29 | .t5 => 30 | .t6 => 31

theorem Reg.number_lt (reg : Reg) : reg.number < 32 := by
  cases reg <;> decide

theorem Reg.number_injective {left right : Reg} (same : left.number = right.number) :
    left = right := by
  cases left <;> cases right <;> first | rfl | cases same

inductive Csr
  | mstatus | mie | mtvec | mepc | mtval
  deriving DecidableEq, Repr

/-- The register file; `zero` is hard-wired. -/
@[ext] structure RegFile where
  read : Reg → Word
  read_zero : read .zero = 0

namespace RegFile
variable (regs : RegFile)

def write (rd : Reg) (value : Word) : RegFile where
  read reg := if reg = rd ∧ reg ≠ .zero then value else regs.read reg
  read_zero := by simp [regs.read_zero]

/-- `source` on the registers of `keys`, `regs` elsewhere. -/
def overlay (keys : List Reg) (source : RegFile) : RegFile where
  read reg := if reg ∈ keys then source.read reg else regs.read reg
  read_zero := by simp [regs.read_zero, source.read_zero]

theorem read_write (rd reg : Reg) (value : Word) :
    (regs.write rd value).read reg = if reg = rd ∧ reg ≠ .zero then value else regs.read reg := rfl

@[simp] theorem read_write_same {rd : Reg} (value : Word) (writable : rd ≠ .zero) :
    (regs.write rd value).read rd = value :=
  if_pos ⟨rfl, writable⟩

@[simp] theorem read_write_ne {rd reg : Reg} (value : Word) (other : reg ≠ rd) :
    (regs.write rd value).read reg = regs.read reg :=
  if_neg fun same => other same.1

theorem read_overlay (keys : List Reg) (source : RegFile) (reg : Reg) :
    (regs.overlay keys source).read reg = if reg ∈ keys then source.read reg else regs.read reg :=
  rfl

theorem write_read_self (reg : Reg) : regs.write reg (regs.read reg) = regs := by
  apply RegFile.ext
  funext other
  rw [read_write]
  split_ifs with same
  · rw [same.1]
  · rfl

theorem write_write (rd : Reg) (first second : Word) :
    (regs.write rd first).write rd second = regs.write rd second := by
  apply RegFile.ext
  funext reg
  simp only [read_write]
  split_ifs <;> rfl

theorem overlay_nil (source : RegFile) : regs.overlay [] source = regs := by
  apply RegFile.ext
  funext reg
  simp [read_overlay]

theorem overlay_cons (reg : Reg) (keys : List Reg) (source : RegFile) :
    (regs.write reg (source.read reg)).overlay keys source = regs.overlay (reg :: keys) source := by
  apply RegFile.ext
  funext other
  rw [read_overlay, read_overlay, read_write]
  by_cases later : other ∈ keys
  · simp [later]
  · by_cases same : other = reg
    · subst same
      by_cases fixed : other = .zero
      · subst fixed
        simp [later, regs.read_zero, source.read_zero]
      · simp [later, fixed]
    · simp [later, same]

/-- The two register files agree outside `keys`. -/
def SameExcept (keys : List Reg) (left right : RegFile) : Prop :=
  ∀ reg, reg ∉ keys → left.read reg = right.read reg

theorem SameExcept.write {keys : List Reg} {left right : RegFile}
    (same : SameExcept keys left right) {rd : Reg} (listed : rd ∈ keys) (value : Word) :
    SameExcept keys (left.write rd value) right := by
  intro reg outside
  have other : reg ≠ rd := by
    rintro rfl
    exact outside listed
  rw [read_write_ne _ _ other]
  exact same reg outside

end RegFile

inductive Instr
  | addi (rd rs : Reg) (imm : Word)
  | li (rd : Reg) (imm : Word)
  | mv (rd rs : Reg)
  | auipc (rd : Reg) (imm : Word)
  | lw (rd : Reg) (offset : Word) (base : Reg)
  | sw (rs : Reg) (offset : Word) (base : Reg)
  | csrr (rd : Reg) (csr : Csr)
  | csrw (csr : Csr) (rs : Reg)
  | csrwDpc (rs : Reg)
  | beq (rs1 rs2 : Reg) (offset : Word)
  | bnez (rs : Reg) (offset : Word)
  | j (offset : Word)
  | fence
  | wfi
  | dret
  deriving DecidableEq, Repr

def Instr.nop : Instr := .addi .zero .zero 0

/-- What a hart holds besides its program counter. -/
structure Context where
  regs : RegFile
  csrs : Csr → Word
  dpc : Word

structure Hart extends Context where
  pc : Word

def Context.at (context : Context) (pc : Word) : Hart := { context with pc := pc }

/-! ## One instruction -/

inductive Access
  | idle
  | load (addr : Addr)
  | store (addr : Addr) (value : Word)

def access (hart : Hart) : Instr → Access
  | .lw _ offset base => .load (hart.regs.read base + offset)
  | .sw rs offset base => .store (hart.regs.read base + offset) (hart.regs.read rs)
  | _ => .idle

/-- The hart after an instruction whose access returned `loaded`.  A `wfi`
retires when the hart is awake again. -/
def retire (hart : Hart) (loaded : Word) : Instr → Hart
  | .addi rd rs imm =>
      { hart with pc := hart.pc + 4, regs := hart.regs.write rd (hart.regs.read rs + imm) }
  | .li rd imm => { hart with pc := hart.pc + 4, regs := hart.regs.write rd imm }
  | .mv rd rs => { hart with pc := hart.pc + 4, regs := hart.regs.write rd (hart.regs.read rs) }
  | .auipc rd imm =>
      { hart with pc := hart.pc + 4, regs := hart.regs.write rd (hart.pc + imm <<< 12) }
  | .lw rd _ _ => { hart with pc := hart.pc + 4, regs := hart.regs.write rd loaded }
  | .sw _ _ _ => { hart with pc := hart.pc + 4 }
  | .csrr rd csr => { hart with pc := hart.pc + 4, regs := hart.regs.write rd (hart.csrs csr) }
  | .csrw csr rs =>
      { hart with pc := hart.pc + 4, csrs := Function.update hart.csrs csr (hart.regs.read rs) }
  | .csrwDpc rs => { hart with pc := hart.pc + 4, dpc := hart.regs.read rs }
  | .beq rs1 rs2 offset =>
      { hart with
        pc := if hart.regs.read rs1 = hart.regs.read rs2 then hart.pc + offset else hart.pc + 4 }
  | .bnez rs offset =>
      { hart with pc := if hart.regs.read rs ≠ 0 then hart.pc + offset else hart.pc + 4 }
  | .j offset => { hart with pc := hart.pc + offset }
  | .fence => { hart with pc := hart.pc + 4 }
  | .wfi => { hart with pc := hart.pc + 4 }
  | .dret => { hart with pc := hart.dpc }

/-- Instructions that go on with the next one. -/
def Instr.straight : Instr → Bool
  | .beq _ _ _ => false
  | .bnez _ _ => false
  | .j _ => false
  | .dret => false
  | _ => true

theorem retire_pc_of_straight (hart : Hart) (loaded : Word) {instr : Instr}
    (straight : instr.straight = true) : (retire hart loaded instr).pc = hart.pc + 4 := by
  cases instr <;> first | rfl | cases straight

/-! ## One hart on a bus -/

structure Bus (σ : Type*) where
  load : σ → Addr → Word
  store : σ → Addr → Word → σ

structure State (σ : Type*) where
  hart : Hart
  dev : σ

section Semantics
variable {σ : Type*} (bus : Bus σ)

def Bus.response (dev : σ) : Access → Word
  | .load addr => bus.load dev addr
  | _ => 0

def Bus.effect (dev : σ) : Access → σ
  | .store addr value => bus.store dev addr value
  | _ => dev

def Bus.storeAll (dev : σ) (writes : List Write) : σ :=
  writes.foldl (fun dev write => bus.store dev write.1 write.2) dev

def exec (state : State σ) (instr : Instr) : State σ where
  hart := retire state.hart (bus.response state.dev (access state.hart instr)) instr
  dev := bus.effect state.dev (access state.hart instr)

def writesOf (hart : Hart) (instr : Instr) : List Write :=
  match access hart instr with
  | .store addr value => [(addr, value)]
  | _ => []

theorem writesOf_length_le (hart : Hart) (instr : Instr) : (writesOf hart instr).length ≤ 1 := by
  unfold writesOf
  cases access hart instr <;> simp

theorem effect_eq_storeAll (dev : σ) (hart : Hart) (instr : Instr) :
    bus.effect dev (access hart instr) = bus.storeAll dev (writesOf hart instr) := by
  cases instr <;> rfl

theorem Bus.storeAll_append (dev : σ) (first second : List Write) :
    bus.storeAll dev (first ++ second) = bus.storeAll (bus.storeAll dev first) second :=
  List.foldl_append

/-- What the instruction fetch returns at each address. -/
abbrev Code := Word → Option Instr

variable (code : Code)

def run : Nat → State σ → Option (State σ)
  | 0, state => some state
  | count + 1, state =>
      match code state.hart.pc with
      | none => none
      | some instr => run count (exec bus state instr)

def writes : Nat → State σ → List Write
  | 0, _ => []
  | count + 1, state =>
      match code state.hart.pc with
      | none => []
      | some instr => writesOf state.hart instr ++ writes count (exec bus state instr)

theorem run_add (first second : Nat) (state : State σ) :
    run bus code (first + second) state =
      (run bus code first state).bind (run bus code second) := by
  induction first generalizing state with
  | zero => simp [run]
  | succ first ih =>
    rw [Nat.succ_add]
    simp only [run]
    cases code state.hart.pc with
    | none => rfl
    | some instr => exact ih _

theorem writes_add (first second : Nat) (state middle : State σ)
    (reached : run bus code first state = some middle) :
    writes bus code (first + second) state =
      writes bus code first state ++ writes bus code second middle := by
  induction first generalizing state with
  | zero =>
    cases Option.some.inj reached
    simp [writes]
  | succ first ih =>
    rw [Nat.succ_add]
    simp only [run] at reached
    simp only [writes]
    cases fetched : code state.hart.pc with
    | none =>
      rw [fetched] at reached
      exact absurd reached (by simp)
    | some instr =>
      rw [fetched] at reached
      simp only [ih _ reached, List.append_assoc]

theorem run_dev (count : Nat) (state final : State σ)
    (reached : run bus code count state = some final) :
    final.dev = bus.storeAll state.dev (writes bus code count state) := by
  induction count generalizing state with
  | zero =>
    cases Option.some.inj reached
    rfl
  | succ count ih =>
    simp only [run] at reached
    simp only [writes]
    cases fetched : code state.hart.pc with
    | none =>
      rw [fetched] at reached
      exact absurd reached (by simp)
    | some instr =>
      rw [fetched] at reached
      simp only
      rw [ih _ reached, Bus.storeAll_append, ← effect_eq_storeAll]
      rfl

/-- A run from `state` to `final` that makes exactly the stores `stores`. -/
def Executes (state : State σ) (stores : List Write) (final : State σ) : Prop :=
  ∃ count, run bus code count state = some final ∧ writes bus code count state = stores

variable {bus code}

theorem Executes.refl (state : State σ) : Executes bus code state [] state := ⟨0, rfl, rfl⟩

theorem Executes.trans {state middle final : State σ} {first second : List Write}
    (left : Executes bus code state first middle)
    (right : Executes bus code middle second final) :
    Executes bus code state (first ++ second) final := by
  obtain ⟨leftCount, leftRun, leftWrites⟩ := left
  obtain ⟨rightCount, rightRun, rightWrites⟩ := right
  refine ⟨leftCount + rightCount, ?_, ?_⟩
  · rw [run_add, leftRun]
    exact rightRun
  · rw [writes_add bus code leftCount rightCount state middle leftRun, leftWrites, rightWrites]

theorem Executes.single {state : State σ} {instr : Instr}
    (fetched : code state.hart.pc = some instr) :
    Executes bus code state (writesOf state.hart instr) (exec bus state instr) := by
  refine ⟨1, ?_, ?_⟩
  · simp [run, fetched]
  · simp [writes, fetched]

theorem Executes.dev_eq {state final : State σ} {stores : List Write}
    (executes : Executes bus code state stores final) :
    final.dev = bus.storeAll state.dev stores := by
  obtain ⟨count, reached, made⟩ := executes
  rw [run_dev bus code count state final reached, made]

theorem run_cut {state final : State σ} {total : Nat}
    (finished : run bus code total state = some final) {count : Nat} (inside : count ≤ total) :
    ∃ cut, run bus code count state = some cut ∧
      writes bus code count state =
        (writes bus code total state).take (writes bus code count state).length ∧
      cut.dev = bus.storeAll state.dev (writes bus code count state) := by
  obtain ⟨rest, rfl⟩ := Nat.exists_eq_add_of_le inside
  rw [run_add] at finished
  obtain ⟨cut, reached, _⟩ := Option.bind_eq_some_iff.mp finished
  refine ⟨cut, reached, ?_, run_dev bus code count state cut reached⟩
  rw [writes_add bus code count rest state cut reached, List.take_left]

theorem run_reaches_store {state final : State σ} {total : Nat}
    (finished : run bus code total state = some final) {done : Nat}
    (inside : done ≤ (writes bus code total state).length) :
    ∃ count, count ≤ total ∧ (writes bus code count state).length = done := by
  induction total generalizing final with
  | zero => exact ⟨0, Nat.le_refl _, (Nat.le_zero.mp inside).symm⟩
  | succ total ih =>
    obtain ⟨cut, reached, _⟩ := run_cut finished (Nat.le_succ total)
    by_cases earlier : done ≤ (writes bus code total state).length
    · obtain ⟨count, before, made⟩ := ih reached earlier
      exact ⟨count, Nat.le_succ_of_le before, made⟩
    · refine ⟨total + 1, Nat.le_refl _, ?_⟩
      have last : (writes bus code 1 cut).length ≤ 1 := by
        simp only [writes]
        cases code cut.hart.pc with
        | none => exact Nat.zero_le _
        | some instr =>
          simpa using writesOf_length_le cut.hart instr
      rw [writes_add bus code total 1 state cut reached, List.length_append] at inside ⊢
      omega

end Semantics

end Rv32
