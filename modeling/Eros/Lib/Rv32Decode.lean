import Eros.Lib.Rv32Copy

/-!
# Instruction words

The encodings of the instructions of `Instr`, read from a 32-bit word, and the
code a hart sees when it fetches words and decodes them.  Words of other
instructions decode to nothing.
-/

set_option autoImplicit false

namespace Rv32

open ByteMemory (Word)

def Reg.ofNumber (number : BitVec 5) : Reg :=
  [.zero, .ra, .sp, .gp, .tp, .t0, .t1, .t2, .s0, .s1, .a0, .a1, .a2, .a3, .a4, .a5, .a6, .a7,
    .s2, .s3, .s4, .s5, .s6, .s7, .s8, .s9, .s10, .s11, .t3, .t4, .t5, .t6].getD number.toNat .zero

def Csr.ofAddress (address : BitVec 12) : Option Csr :=
  if address = 0x300 then some .mstatus
  else if address = 0x304 then some .mie
  else if address = 0x305 then some .mtvec
  else if address = 0x341 then some .mepc
  else if address = 0x343 then some .mtval
  else none

/-! ## Fields -/

section Fields
variable (word : Word)

def opcode : BitVec 7 := word.extractLsb' 0 7
def funct3 : BitVec 3 := word.extractLsb' 12 3
def rd : Reg := .ofNumber (word.extractLsb' 7 5)
def rs1 : Reg := .ofNumber (word.extractLsb' 15 5)
def rs2 : Reg := .ofNumber (word.extractLsb' 20 5)
def csrAddress : BitVec 12 := word.extractLsb' 20 12

def immI : Word := (word.extractLsb' 20 12).signExtend 32
def immS : Word := (word.extractLsb' 25 7 ++ word.extractLsb' 7 5).signExtend 32
def immB : Word :=
  (word.extractLsb' 31 1 ++ word.extractLsb' 7 1 ++ word.extractLsb' 25 6 ++
    word.extractLsb' 8 4 ++ 0#1).signExtend 32
def immU : BitVec 20 := word.extractLsb' 12 20
def immJ : Word :=
  (word.extractLsb' 31 1 ++ word.extractLsb' 12 8 ++ word.extractLsb' 20 1 ++
    word.extractLsb' 21 10 ++ 0#1).signExtend 32

end Fields

/-! ## Decoding -/

def decodeSystem (word : Word) : Option Instr :=
  if word = 0x10500073 then some .wfi
  else if word = 0x7b200073 then some .dret
  else if funct3 word = 1 ∧ rd word = .zero then
    -- `csrrw` without a destination
    if csrAddress word = 0x7b1 then some (.csrwDpc (rs1 word))
    else (Csr.ofAddress (csrAddress word)).map fun csr => .csrw csr (rs1 word)
  else if funct3 word = 2 ∧ rs1 word = .zero then
    (Csr.ofAddress (csrAddress word)).map fun csr => .csrr (rd word) csr
  else none

def decode (word : Word) : Option Instr :=
  if opcode word = 0x13 then
    if funct3 word = 0 then some (.addi (rd word) (rs1 word) (immI word)) else none
  else if opcode word = 0x37 then some (.li (rd word) (immU word ++ 0#12))
  else if opcode word = 0x17 then some (.auipc (rd word) ((immU word).zeroExtend 32))
  else if opcode word = 0x03 then
    if funct3 word = 2 then some (.lw (rd word) (immI word) (rs1 word)) else none
  else if opcode word = 0x23 then
    if funct3 word = 2 then some (.sw (rs2 word) (immS word) (rs1 word)) else none
  else if opcode word = 0x63 then
    if funct3 word = 0 then some (.beq (rs1 word) (rs2 word) (immB word))
    else if funct3 word = 1 ∧ rs2 word = .zero then some (.bnez (rs1 word) (immB word))
    else none
  else if opcode word = 0x6f then
    if rd word = .zero then some (.j (immJ word)) else none
  else if opcode word = 0x0f then if funct3 word = 0 then some .fence else none
  else if opcode word = 0x73 then decodeSystem word
  else none

/-! ## Fetching -/

/-- A hart that fetches words and decodes them. -/
def fetchDecode (fetch : Word → Option Word) : Code := fun pc => (fetch pc).bind decode

def WordsAt (fetch : Word → Option Word) (pc : Word) : List Instr → Prop
  | [] => True
  | instr :: rest =>
      (fetch pc).bind decode = some instr ∧ WordsAt fetch (pc + 4) rest

theorem codeAt_fetchDecode {fetch : Word → Option Word} {pc : Word} {block : List Instr}
    (words : WordsAt fetch pc block) : CodeAt (fetchDecode fetch) pc block := by
  induction block generalizing pc with
  | nil => exact trivial
  | cons instr rest ih => exact ⟨words.1, ih words.2⟩

instance decidableWordsAt (fetch : Word → Option Word) :
    (pc : Word) → (block : List Instr) → Decidable (WordsAt fetch pc block)
  | _, [] => inferInstanceAs (Decidable True)
  | pc, instr :: rest =>
      have := decidableWordsAt fetch (pc + 4) rest
      inferInstanceAs (Decidable ((fetch pc).bind decode = some instr ∧ WordsAt fetch (pc + 4) rest))

/-! ## Debug mode -/

/-- The instructions of a debug routine, with the two scratch registers. -/
inductive DebugInstr
  | base (instr : Instr)
  | xori (rd rs : Reg) (imm : Word)
  | csrwDscratch0 (rs : Reg)
  | csrwDscratch1 (rs : Reg)
  | jr (rs : Reg) (offset : Word)
  deriving DecidableEq, Repr

def decodeDebug (word : Word) : Option DebugInstr :=
  match decode word with
  | some instr => some (.base instr)
  | none =>
      if opcode word = 0x13 ∧ funct3 word = 4 then some (.xori (rd word) (rs1 word) (immI word))
      else if opcode word = 0x67 ∧ funct3 word = 0 ∧ rd word = .zero then
        some (.jr (rs1 word) (immI word))
      else if opcode word = 0x73 ∧ funct3 word = 1 ∧ rd word = .zero ∧ csrAddress word = 0x7b2 then
        some (.csrwDscratch0 (rs1 word))
      else if opcode word = 0x73 ∧ funct3 word = 1 ∧ rd word = .zero ∧ csrAddress word = 0x7b3 then
        some (.csrwDscratch1 (rs1 word))
      else none

structure DebugState (σ : Type*) extends State σ where
  dscratch0 : Word
  dscratch1 : Word

section Debug
variable {σ : Type*} (bus : Bus σ) (fetch : Word → Option Word)

def debugExec (state : DebugState σ) : DebugInstr → DebugState σ
  | .base instr => { state with toState := exec bus state.toState instr }
  | .xori rd rs imm =>
      { state with
        hart :=
          { state.hart with
            pc := state.hart.pc + 4
            regs := state.hart.regs.write rd (state.hart.regs.read rs ^^^ imm) } }
  | .csrwDscratch0 rs =>
      { state with
        hart := { state.hart with pc := state.hart.pc + 4 }
        dscratch0 := state.hart.regs.read rs }
  | .csrwDscratch1 rs =>
      { state with
        hart := { state.hart with pc := state.hart.pc + 4 }
        dscratch1 := state.hart.regs.read rs }
  | .jr rs offset =>
      { state with
        hart := { state.hart with pc := (state.hart.regs.read rs + offset) &&& ~~~1#32 } }

def debugRun : Nat → DebugState σ → Option (DebugState σ)
  | 0, state => some state
  | count + 1, state =>
      match (fetch state.hart.pc).bind decodeDebug with
      | none => none
      | some instr => debugRun count (debugExec bus state instr)

def DebugReaches (state final : DebugState σ) : Prop :=
  ∃ count, debugRun bus fetch count state = some final

variable {bus fetch}

theorem DebugReaches.trans {state middle final : DebugState σ}
    (left : DebugReaches bus fetch state middle) (right : DebugReaches bus fetch middle final) :
    DebugReaches bus fetch state final := by
  obtain ⟨first, reached⟩ := left
  obtain ⟨second, reached'⟩ := right
  refine ⟨first + second, ?_⟩
  induction first generalizing state with
  | zero =>
    cases Option.some.inj reached
    rw [Nat.zero_add]
    exact reached'
  | succ first ih =>
    rw [Nat.succ_add]
    simp only [debugRun] at reached ⊢
    cases fetched : (fetch state.hart.pc).bind decodeDebug with
    | none =>
      rw [fetched] at reached
      cases reached
    | some instr =>
      rw [fetched] at reached
      exact ih reached

theorem DebugReaches.single {state : DebugState σ} {instr : DebugInstr}
    (fetched : (fetch state.hart.pc).bind decodeDebug = some instr) :
    DebugReaches bus fetch state (debugExec bus state instr) := by
  refine ⟨1, ?_⟩
  simp only [debugRun, fetched]

theorem decodeDebug_of_decode {pc : Word} {instr : Instr}
    (fetched : fetchDecode fetch pc = some instr) :
    (fetch pc).bind decodeDebug = some (.base instr) := by
  obtain ⟨word, here, decoded⟩ := Option.bind_eq_some_iff.mp fetched
  rw [here, Option.bind_some, decodeDebug, decoded]

theorem debugReaches_of_run {count : Nat} {state final : State σ} {scratch0 scratch1 : Word}
    (reached : run bus (fetchDecode fetch) count state = some final) :
    DebugReaches bus fetch ⟨state, scratch0, scratch1⟩ ⟨final, scratch0, scratch1⟩ := by
  induction count generalizing state with
  | zero =>
    cases Option.some.inj reached
    exact ⟨0, rfl⟩
  | succ count ih =>
    simp only [run] at reached
    cases fetched : fetchDecode fetch state.hart.pc with
    | none =>
      rw [fetched] at reached
      cases reached
    | some instr =>
      rw [fetched] at reached
      have step : DebugReaches bus fetch ⟨state, scratch0, scratch1⟩
          ⟨exec bus state instr, scratch0, scratch1⟩ :=
        DebugReaches.single (decodeDebug_of_decode fetched)
      exact step.trans (ih reached)

theorem debugReaches_of_executes {state final : State σ} {stores : List ByteMemory.Write}
    {scratch0 scratch1 : Word}
    (executes : Executes bus (fetchDecode fetch) state stores final) :
    DebugReaches bus fetch ⟨state, scratch0, scratch1⟩ ⟨final, scratch0, scratch1⟩ := by
  obtain ⟨count, reached, -⟩ := executes
  exact debugReaches_of_run reached

end Debug

end Rv32
