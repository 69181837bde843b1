import Eros.CbSafety
import Eros.VotedHarts

/-!
# `handler_tmr_recoverysync` on three harts

The handler in blocks.  The pair spills its registers and trap registers below
its stack pointer and reads them back.  The odd hart spills garbage, which the
voter drops, and reads back what the pair wrote: the trap registers and `ra`,
`sp` off the stack pointer it came with, the others off the one it has read.
-/

set_option autoImplicit false

namespace Eros

open ByteMemory (Write Apart InRegion)
open Rv32 (Access Instr Code Context Reg RegFile Csr CodeAt after)

/-! ## The frame -/

/-- The words of the frame: the offset from the lowered stack pointer and the value. -/
def frameWords (regs : RegFile) (csrs : Csr → Word) : List Write :=
  [(12, regs.read .a4), (8, regs.read .a5)] ++
    (recoveryRegs.map fun entry => (entry.2, regs.read entry.1)) ++
    recoveryCsrs.map fun entry => (entry.2, csrs entry.1)

def frameOffsets : List Word :=
  [12, 8] ++ recoveryRegs.map Prod.snd ++ recoveryCsrs.map Prod.snd

section Members
variable (regs : RegFile) (csrs : Csr → Word)

theorem mem_frame_a4 : (12, regs.read .a4) ∈ frameWords regs csrs := List.mem_cons_self

theorem mem_frame_a5 : (8, regs.read .a5) ∈ frameWords regs csrs :=
  List.mem_cons_of_mem _ List.mem_cons_self

theorem mem_frame_reg {entry : Reg × Word} (listed : entry ∈ recoveryRegs) :
    (entry.2, regs.read entry.1) ∈ frameWords regs csrs :=
  List.mem_append_left _ (List.mem_append_right _ (List.mem_map.mpr ⟨entry, listed, rfl⟩))

theorem mem_frame_csr {entry : Csr × Word} (listed : entry ∈ recoveryCsrs) :
    (entry.2, csrs entry.1) ∈ frameWords regs csrs :=
  List.mem_append_right _ (List.mem_map.mpr ⟨entry, listed, rfl⟩)

end Members

theorem frameWords_offsets (regs : RegFile) (csrs : Csr → Word) :
    (frameWords regs csrs).map Prod.fst = frameOffsets := rfl

theorem offset_of_word {regs : RegFile} {csrs : Csr → Word} {word : Write}
    (member : word ∈ frameWords regs csrs) : word.1 ∈ frameOffsets := by
  rw [← frameWords_offsets regs csrs]
  exact List.mem_map_of_mem member

/-- Two words of the frame, the upper one first; positions count from its end. -/
def FrameAbove (upper lower : Word) : Prop :=
  (lower + 144).toNat + 4 ≤ (upper + 144).toNat ∧ (upper + 144).toNat + 4 ≤ 160

instance : DecidableRel FrameAbove := fun _ _ => inferInstanceAs (Decidable (_ ∧ _))

instance : Trans FrameAbove FrameAbove FrameAbove where
  trans := by
    intro first second third above below
    unfold FrameAbove at *
    omega

theorem frameOffsets_apart : frameOffsets.Pairwise Apart := by
  have descends : frameOffsets.IsChain FrameAbove := by decide
  apply (List.isChain_iff_pairwise.mp descends).imp
  intro upper lower above
  unfold FrameAbove at above
  unfold Apart
  bv_omega

theorem frameOffsets_below : ∀ offset ∈ frameOffsets, (offset + 144).toNat + 4 ≤ 160 := by
  have checked : frameOffsets.all (fun offset => decide ((offset + 144).toNat + 4 ≤ 160)) = true := rfl
  intro offset listed
  exact of_decide_eq_true (List.all_eq_true.mp checked offset listed)

theorem frameWords_apart {regs : RegFile} {csrs : Csr → Word} {left right : Write}
    (leftMember : left ∈ frameWords regs csrs) (rightMember : right ∈ frameWords regs csrs)
    (different : left ≠ right) : Apart left.1 right.1 := by
  have pairwise : (frameWords regs csrs).Pairwise fun left right => Apart left.1 right.1 := by
    have offsets := frameOffsets_apart
    rw [← frameWords_offsets regs csrs, List.pairwise_map] at offsets
    exact offsets
  have symmetric : Std.Symm fun left right : Write => Apart left.1 right.1 :=
    ⟨fun _ _ apart => apart.symm⟩
  exact pairwise.forall leftMember rightMember different

/-- The frame of a stack pointer that has been lowered by 16. -/
def FrameInMemory (low : Word) : Prop := ∀ offset ∈ frameOffsets, InMemory (low + offset)

theorem frame_region {sp offset : Word} (listed : offset ∈ frameOffsets) {byte : Word}
    (inside : InRegion (sp + (-16) + offset) 4 byte) : InRegion (sp - 160) 160 byte := by
  have here : sp + (-16) + offset = sp - 160 + BitVec.ofNat 32 (offset + 144).toNat := by
    rw [BitVec.ofNat_toNat, BitVec.setWidth_eq]
    bv_omega
  exact ByteMemory.region_of_word here (frameOffsets_below offset listed) (by decide) inside

theorem frame_memory {sp : Word}
    (stack : ∀ byte, InRegion (sp - 160) 160 byte → InMemory byte) :
    FrameInMemory (sp + (-16)) := by
  intro offset listed
  apply stack
  apply frame_region listed
  unfold InRegion
  rw [BitVec.sub_self]
  decide

/-- What the handler stores: private registers and words of the frame. -/
def FrameWrite (low : Word) (regs : RegFile) (csrs : Csr → Word) (write : Write) : Prop :=
  InPrivate write.1 ∨ ∃ word ∈ frameWords regs csrs, write = (low + word.1, word.2)

theorem frame_holds {regs : RegFile} {csrs : Csr → Word} {low : Word} (view : HartView)
    {writes : List Write} (allowed : ∀ write ∈ writes, FrameWrite low regs csrs write)
    {word : Write} (member : word ∈ frameWords regs csrs) (memory : FrameInMemory low)
    (made : (low + word.1, word.2) ∈ writes) :
    hartBus.load (hartBus.storeAll view writes) (low + word.1) = word.2 := by
  apply hartBus_load_storeAll_written view writes word.2 (memory _ (offset_of_word member)) _ made
  intro write written inMemory
  obtain ⟨other, otherMember, rfl⟩ := (allowed write written).resolve_left inMemory.1
  by_cases same : other = word
  · left
    rw [same]
  · right
    exact (ByteMemory.apart_add_iff low other.1 word.1).mpr
      (frameWords_apart otherMember member same)

/-! ## The odd hart -/

/-- The odd hart addresses from `low` and has the trap registers of `keys` back. -/
structure CsrsBack (low : Word) (csrs : Csr → Word) (keys : List Csr) (stray : Context) :
    Prop where
  sp : stray.regs.read .sp = low
  back : ∀ csr ∈ keys, stray.csrs csr = csrs csr

/-- The odd hart has the trap registers and its registers of `keys` back. -/
structure RegsBack (source : RegFile) (csrs : Csr → Word) (keys : List Reg) (stray : Context) :
    Prop where
  csrs : ∀ csr, stray.csrs csr = csrs csr
  back : ∀ reg ∈ keys, stray.regs.read reg = source.read reg

section Odd
variable {low : Word} {csrs : Csr → Word} {source : RegFile} {stray : Context}

theorem CsrsBack.write {keys : List Csr} (back : CsrsBack low csrs keys stray) {rd : Reg}
    (other : .sp ≠ rd) (value : Word) :
    CsrsBack low csrs keys { stray with regs := stray.regs.write rd value } where
  sp := (RegFile.read_write_ne _ _ other).trans back.sp
  back := back.back

theorem CsrsBack.update {keys : List Csr} (back : CsrsBack low csrs keys stray) (csr : Csr) :
    CsrsBack low csrs (keys ++ [csr])
      { stray with csrs := Function.update stray.csrs csr (csrs csr) } where
  sp := back.sp
  back := by
    intro name listed
    change Function.update stray.csrs csr (csrs csr) name = csrs name
    by_cases same : name = csr
    · rw [same, Function.update_self]
    · rw [Function.update_of_ne same]
      rcases List.mem_append.mp listed with earlier | last
      · exact back.back name earlier
      · exact absurd (List.mem_singleton.mp last) same

theorem RegsBack.read {keys : List Reg} (back : RegsBack source csrs keys stray) (rd : Reg) :
    RegsBack source csrs (keys ++ [rd])
      { stray with regs := stray.regs.write rd (source.read rd) } where
  csrs := back.csrs
  back := by
    intro reg listed
    change (stray.regs.write rd (source.read rd)).read reg = source.read reg
    by_cases same : reg = rd
    · rw [same, RegFile.read_write]
      split_ifs with writable
      · rfl
      · have fixed : rd = .zero := by
          by_contra other
          exact writable ⟨rfl, other⟩
        rw [fixed, stray.regs.read_zero, source.read_zero]
    · rw [RegFile.read_write_ne _ _ same]
      rcases List.mem_append.mp listed with earlier | last
      · exact back.back reg earlier
      · exact absurd (List.mem_singleton.mp last) same

theorem RegsBack.write {keys : List Reg} (back : RegsBack source csrs keys stray) (rd : Reg)
    (value : Word) :
    RegsBack (source.write rd value) csrs keys
      { stray with regs := stray.regs.write rd value } where
  csrs := back.csrs
  back := by
    intro reg listed
    change (stray.regs.write rd value).read reg = (source.write rd value).read reg
    rw [RegFile.read_write, RegFile.read_write, back.back reg listed]

end Odd

/-! ## Stores -/

def ackAddr : Word := privAddr CpuPrivateReg.hartIntcAckOffset

theorem ackAddr_private : InPrivate ackAddr := (privAddr_decodes _).1

def enterWrites (regs : RegFile) : List Write :=
  [(regs.read .sp + 12, regs.read .a4), (regs.read .sp + 8, regs.read .a5), (ackAddr, 1)]

def spillWrites (regs : RegFile) (csrs : Csr → Word) : List Write :=
  (recoveryRegs.map fun entry => (regs.read .sp + entry.2, regs.read entry.1)) ++
    recoveryCsrs.map fun entry => (regs.read .sp + entry.2, csrs entry.1)

section Stores
variable {regs : RegFile} {csrs : Csr → Word} {write : Write}

theorem enterWrites_allowed (member : write ∈ enterWrites regs) :
    FrameWrite (regs.read .sp) regs csrs write := by
  simp only [enterWrites, List.mem_cons, List.not_mem_nil, or_false] at member
  rcases member with rfl | rfl | rfl
  · exact .inr ⟨_, mem_frame_a4 regs csrs, rfl⟩
  · exact .inr ⟨_, mem_frame_a5 regs csrs, rfl⟩
  · exact .inl ackAddr_private

theorem spillWrites_allowed (member : write ∈ spillWrites regs csrs) :
    FrameWrite (regs.read .sp) regs csrs write := by
  rcases List.mem_append.mp member with inRegs | inCsrs
  · obtain ⟨entry, listed, rfl⟩ := List.mem_map.mp inRegs
    exact .inr ⟨_, mem_frame_reg regs csrs listed, rfl⟩
  · obtain ⟨entry, listed, rfl⟩ := List.mem_map.mp inCsrs
    exact .inr ⟨_, mem_frame_csr regs csrs listed, rfl⟩

end Stores

/-! ## The handler in blocks -/

/-- The registers below the 16 bytes pushed on entry. -/
def lowered (regs : RegFile) : RegFile := regs.write .sp (regs.read .sp + (-16))

theorem lowered_sp (regs : RegFile) : (lowered regs).read .sp = regs.read .sp + (-16) :=
  RegFile.read_write_same _ _ (by simp)

theorem write_pair_back (source : RegFile) (first second : Reg) (one two : Word) :
    (((source.write first one).write second two).write first (source.read first)).write second
      (source.read second) = source := by
  apply RegFile.ext
  funext reg
  simp only [RegFile.read_write]
  split_ifs <;> simp_all

section Handler
variable {odd : Hart} {pc : Word} {regs : RegFile} {csrs : Csr → Word} {dpc : Word}
variable {view : HartView} {straySp : Word}

theorem together_recoveryEnter (memory : FrameInMemory ((lowered regs).read .sp)) :
    Together odd pc recoveryEnter ⟨regs, csrs, dpc⟩ (CsrsBack straySp csrs []) view
      (enterWrites (lowered regs)) ⟨lowered regs, csrs, dpc⟩
      (CsrsBack (straySp + (-16)) csrs []) := by
  let source := lowered regs
  let back := CsrsBack (straySp + (-16)) csrs []
  let acked := (source.write .a4 1).write .a5 privateRegBase
  have push : Together odd pc [.addi .sp .sp (-16)] ⟨regs, csrs, dpc⟩ (CsrsBack straySp csrs [])
      view [] ⟨source, csrs, dpc⟩ back := by
    apply together_addi
    intro stray before
    refine ⟨?_, before.back⟩
    rw [← before.sp]
    simp
  have spillA4 : Together odd (pc + 4) [.sw .a4 12 .sp] ⟨source, csrs, dpc⟩ back view
      [(source.read .sp + 12, source.read .a4)] ⟨source, csrs, dpc⟩ back := together_sw rfl rfl
  have spillA5 : ∀ view, Together odd (pc + 4 + 4) [.sw .a5 8 .sp] ⟨source, csrs, dpc⟩ back
      view [(source.read .sp + 8, source.read .a5)] ⟨source, csrs, dpc⟩ back :=
    fun _ => together_sw rfl rfl
  have one : ∀ view, Together odd (pc + 4 + 4 + 4) [.li .a4 1] ⟨source, csrs, dpc⟩ back
      view [] ⟨source.write .a4 1, csrs, dpc⟩ back :=
    fun _ => together_li _ _ fun _ before => before.write (by decide) _
  have window : ∀ view, Together odd (pc + 4 + 4 + 4 + 4) [.li .a5 privateRegBase]
      ⟨source.write .a4 1, csrs, dpc⟩ back view [] ⟨acked, csrs, dpc⟩ back :=
    fun _ => together_li _ _ fun _ before => before.write (by decide) _
  have acknowledge : ∀ view, Together odd (pc + 4 + 4 + 4 + 4 + 4)
      [.sw .a4 (privImm CpuPrivateReg.hartIntcAckOffset) .a5] ⟨acked, csrs, dpc⟩ back view
      [(ackAddr, 1)] ⟨acked, csrs, dpc⟩ back := by
    intro view
    have base : acked.read .a5 = privateRegBase := by simp [acked]
    have value : acked.read .a4 = 1 := by simp [acked]
    exact together_sw (congrArg (· + privImm CpuPrivateReg.hartIntcAckOffset) base) value
  have spills : Together odd pc
      [.addi .sp .sp (-16), .sw .a4 12 .sp, .sw .a5 8 .sp, .li .a4 1, .li .a5 privateRegBase,
        .sw .a4 (privImm CpuPrivateReg.hartIntcAckOffset) .a5]
      ⟨regs, csrs, dpc⟩ (CsrsBack straySp csrs []) view (enterWrites source)
      ⟨acked, csrs, dpc⟩ back :=
    push.cons (spillA4.cons ((spillA5 _).cons ((one _).cons ((window _).cons (acknowledge _)))))
  have ackedSp : acked.read .sp = source.read .sp :=
    (RegFile.read_write_ne _ _ (by decide)).trans (RegFile.read_write_ne _ _ (by decide))
  have popA4 : ∀ pc, Together odd pc [.lw .a4 12 .sp] ⟨acked, csrs, dpc⟩ back
      (hartBus.storeAll view (enterWrites source)) []
      ⟨acked.write .a4 (source.read .a4), csrs, dpc⟩ back := by
    intro pc
    have holds := frame_holds view (fun _ member => @enterWrites_allowed source csrs _ member)
      (mem_frame_a4 source csrs) memory List.mem_cons_self
    have shared := memory _ (offset_of_word (mem_frame_a4 source csrs))
    exact together_lw (congrArg (· + 12) ackedSp) holds shared.1
      fun _ _ before _ => before.write (by decide) _
  have popA5 : ∀ pc, Together odd pc [.lw .a5 8 .sp]
      ⟨acked.write .a4 (source.read .a4), csrs, dpc⟩ back
      (hartBus.storeAll view (enterWrites source)) [] ⟨source, csrs, dpc⟩ back := by
    intro pc
    have points : (acked.write .a4 (source.read .a4)).read .sp + 8 = source.read .sp + 8 :=
      congrArg (· + 8) ((RegFile.read_write_ne _ _ (by decide)).trans ackedSp)
    have holds := frame_holds view (fun _ member => @enterWrites_allowed source csrs _ member)
      (mem_frame_a5 source csrs) memory (List.mem_cons_of_mem _ List.mem_cons_self)
    have shared := memory _ (offset_of_word (mem_frame_a5 source csrs))
    have pop : Together odd pc [.lw .a5 8 .sp] ⟨acked.write .a4 (source.read .a4), csrs, dpc⟩
        back _ [] _ back :=
      together_lw points holds shared.1 fun _ _ before _ => before.write (by decide) _
    simp only [acked, write_pair_back] at pop
    exact pop
  exact spills.appendQuiet ((popA4 _).consQuiet (popA5 _))

theorem together_spill (source : RegFile) :
    ∃ value, Together odd pc (Rv32.saveRegs .sp recoveryRegs ++ Rv32.saveCsrs .t6 .sp recoveryCsrs)
      ⟨source, csrs, dpc⟩ (CsrsBack straySp csrs []) view (spillWrites source csrs)
      ⟨source.write .t6 value, csrs, dpc⟩ (CsrsBack straySp csrs []) := by
  have regs := @together_saveRegs odd ⟨source, csrs, dpc⟩ (CsrsBack straySp csrs []) .sp
    recoveryRegs pc view
  obtain ⟨value, trap⟩ := @together_saveCsrs odd (CsrsBack straySp csrs []) .t6 .sp (by decide)
    (by decide) (fun _ value before => before.write (by decide) value) recoveryCsrs
    (after pc (Rv32.saveRegs .sp recoveryRegs)) (hartBus.storeAll view _) ⟨source, csrs, dpc⟩
  exact ⟨value, regs.append trap⟩

/-- Memory holds the spilled registers and trap registers. -/
structure SpillHeld (source : RegFile) (csrs : Csr → Word) (view : HartView) : Prop where
  memory : FrameInMemory (source.read .sp)
  csrs : ∀ entry ∈ recoveryCsrs,
    hartBus.load view (source.read .sp + entry.2) = csrs entry.1
  regs : ∀ entry ∈ recoveryRegs,
    hartBus.load view (source.read .sp + entry.2) = source.read entry.1

theorem SpillHeld.shared_csr {source : RegFile} (held : SpillHeld source csrs view)
    {entry : Csr × Word} (listed : entry ∈ recoveryCsrs) :
    ¬InPrivate (source.read .sp + entry.2) :=
  (held.memory _ (offset_of_word (mem_frame_csr source csrs listed))).1

theorem SpillHeld.shared_reg {source : RegFile} (held : SpillHeld source csrs view)
    {entry : Reg × Word} (listed : entry ∈ recoveryRegs) :
    ¬InPrivate (source.read .sp + entry.2) :=
  (held.memory _ (offset_of_word (mem_frame_reg source csrs listed))).1

/-- The registers read back off the stack pointer the odd hart came with. -/
def baseRegs : List (Reg × Word) := [(.ra, -4), (.sp, -8)]

/-- The loads of the odd hart before its stack pointer is repaired. -/
def unrepairedLoads : List Word := recoveryCsrs.map Prod.snd ++ baseRegs.map Prod.snd

theorem together_readCsrs {source : RegFile} (held : SpillHeld source csrs view)
    (stage : List Csr → Context → Prop)
    (goes : ∀ keys, ∀ entry ∈ recoveryCsrs, ∀ stray loaded, stage keys stray →
      StrayAnswer (csrs entry.1) (.load (stray.regs.read .sp + entry.2)) loaded →
      stage (keys ++ [entry.1])
        { stray with
          regs := stray.regs.write .t6 loaded
          csrs := Function.update stray.csrs entry.1 loaded }) (value : Word) :
    ∃ value', Together odd pc (Rv32.restoreCsrs .t6 .sp recoveryCsrs)
      ⟨source.write .t6 value, csrs, dpc⟩ (stage []) view []
      ⟨source.write .t6 value', csrs, dpc⟩ (stage (recoveryCsrs.map Prod.fst)) := by
  have sp : (source.write .t6 value).read .sp = source.read .sp :=
    RegFile.read_write_ne _ _ (by decide)
  obtain ⟨value', restored⟩ := @together_restoreCsrs odd view .t6 .sp (by decide) (by decide) csrs
    stage recoveryCsrs [] pc ⟨source.write .t6 value, csrs, dpc⟩ rfl
    (by rw [sp]; exact held.csrs) (by rw [sp]; exact fun _ listed => held.shared_csr listed) goes
  rw [RegFile.write_write] at restored
  exact ⟨value', restored⟩

theorem together_readRegs {source : RegFile} (held : SpillHeld source csrs view)
    {table : List (Reg × Word)} (listed : ∀ entry ∈ table, entry ∈ recoveryRegs)
    (stage : List Reg → Context → Prop)
    (goes : ∀ keys, ∀ entry ∈ table, ∀ stray loaded, stage keys stray →
      StrayAnswer (source.read entry.1) (.load (stray.regs.read .sp + entry.2)) loaded →
      stage (keys ++ [entry.1]) { stray with regs := stray.regs.write entry.1 loaded })
    (context : RegFile) (same : context.read .sp = source.read .sp) :
    Together odd pc (Rv32.restoreRegs .sp table) ⟨context, csrs, dpc⟩ (stage []) view []
      ⟨context.overlay (table.map Prod.fst) source, csrs, dpc⟩ (stage (table.map Prod.fst)) :=
  together_restoreRegs stage table [] pc ⟨context, csrs, dpc⟩ same
    (fun entry member => held.regs entry (listed entry member))
    (fun entry member => held.shared_reg (listed entry member)) goes

theorem recoveryRegs_all {reg : Reg} (writable : reg ≠ .zero) :
    reg ∈ recoveryRegs.map Prod.fst := by
  cases reg <;> first | decide | exact absurd rfl writable

theorem overlay_recoveryRegs (context source : RegFile) :
    (context.overlay (baseRegs.map Prod.fst) source).overlay
      ((recoveryRegs.drop 2).map Prod.fst) source = source := by
  apply RegFile.ext
  funext reg
  rw [RegFile.read_overlay, RegFile.read_overlay]
  by_cases fixed : reg = .zero
  · rw [fixed, context.read_zero, source.read_zero]
    simp only [ite_self]
  · have listed := recoveryRegs_all fixed
    rw [← List.take_append_drop 2 recoveryRegs, List.map_append, List.mem_append] at listed
    rcases listed with base | rest
    · rw [if_pos (show reg ∈ baseRegs.map Prod.fst from base), ite_self]
    · rw [if_pos rest]

/-- The pair reads back what it holds.  The odd hart goes through three stages:
the trap registers, the registers off its own base, the others. -/
theorem together_readBack {source : RegFile} (held : SpillHeld source csrs view)
    (trap : List Csr → Context → Prop) (base rest : List Reg → Context → Prop)
    (trapGoes : ∀ keys, ∀ entry ∈ recoveryCsrs, ∀ stray loaded, trap keys stray →
      StrayAnswer (csrs entry.1) (.load (stray.regs.read .sp + entry.2)) loaded →
      trap (keys ++ [entry.1])
        { stray with
          regs := stray.regs.write .t6 loaded
          csrs := Function.update stray.csrs entry.1 loaded })
    (trapDone : ∀ stray, trap (recoveryCsrs.map Prod.fst) stray → base [] stray)
    (baseGoes : ∀ keys, ∀ entry ∈ baseRegs, ∀ stray loaded, base keys stray →
      StrayAnswer (source.read entry.1) (.load (stray.regs.read .sp + entry.2)) loaded →
      base (keys ++ [entry.1]) { stray with regs := stray.regs.write entry.1 loaded })
    (baseDone : ∀ stray, base (baseRegs.map Prod.fst) stray → rest [] stray)
    (restGoes : ∀ keys, ∀ entry ∈ recoveryRegs.drop 2, ∀ stray loaded, rest keys stray →
      StrayAnswer (source.read entry.1) (.load (stray.regs.read .sp + entry.2)) loaded →
      rest (keys ++ [entry.1]) { stray with regs := stray.regs.write entry.1 loaded })
    (value : Word) :
    Together odd pc (Rv32.restoreCsrs .t6 .sp recoveryCsrs ++ Rv32.restoreRegs .sp recoveryRegs)
      ⟨source.write .t6 value, csrs, dpc⟩ (trap []) view [] ⟨source, csrs, dpc⟩
      (rest ((recoveryRegs.drop 2).map Prod.fst)) := by
  obtain ⟨value', traps⟩ := @together_readCsrs odd pc csrs dpc view source held trap trapGoes value
  have baseListed : ∀ entry ∈ baseRegs, entry ∈ recoveryRegs := by decide
  have bases : ∀ pc, Together odd pc (Rv32.restoreRegs .sp baseRegs)
      ⟨source.write .t6 value', csrs, dpc⟩ (base []) view []
      ⟨(source.write .t6 value').overlay (baseRegs.map Prod.fst) source, csrs, dpc⟩ (rest []) :=
    fun _ => (together_readRegs held baseListed base baseGoes _
      (RegFile.read_write_ne _ _ (by decide))).weaken baseDone
  have rests : ∀ pc, Together odd pc (Rv32.restoreRegs .sp (recoveryRegs.drop 2))
      ⟨(source.write .t6 value').overlay (baseRegs.map Prod.fst) source, csrs, dpc⟩ (rest [])
      view [] ⟨source, csrs, dpc⟩ (rest ((recoveryRegs.drop 2).map Prod.fst)) := by
    intro pc
    have sp : ((source.write .t6 value').overlay (baseRegs.map Prod.fst) source).read .sp =
        source.read .sp := by
      rw [RegFile.read_overlay, if_pos (by decide)]
    have read := @together_readRegs odd pc csrs dpc view source held (recoveryRegs.drop 2)
      (fun _ member => List.mem_of_mem_drop member) rest restGoes _ sp
    rw [overlay_recoveryRegs] at read
    exact read
  exact (traps.weaken trapDone).appendQuiet ((bases _).appendQuiet (rests _))

theorem lowered_left (regs : RegFile) :
    (((lowered regs).write .a5 privateRegBase).write .a5 ((lowered regs).read .a5)).write .sp
      ((lowered regs).read .sp + 16) = regs := by
  have raised : (lowered regs).read .sp + 16 = regs.read .sp := by
    rw [lowered_sp]
    bv_omega
  rw [raised, RegFile.write_write, RegFile.write_read_self]
  unfold lowered
  rw [RegFile.write_write, RegFile.write_read_self]

/-- The end of the handler, for whatever the odd hart does with the same three writes. -/
theorem together_recoveryLeave {before later : Context → Prop}
    (holds : hartBus.load (hartBus.storeAll view [(ackAddr, 0)]) ((lowered regs).read .sp + 8) =
      (lowered regs).read .a5)
    (shared : ¬InPrivate ((lowered regs).read .sp + 8))
    (goes : ∀ stray loaded, before stray →
      StrayAnswer ((lowered regs).read .a5) (.load (stray.regs.read .sp + 8)) loaded →
      later { stray with
        regs := ((stray.regs.write .a5 privateRegBase).write .a5 loaded).write .sp
          (stray.regs.read .sp + 16) }) :
    Together odd pc recoveryLeave ⟨lowered regs, csrs, dpc⟩ before view [(ackAddr, 0)]
      ⟨regs, csrs, dpc⟩ later := by
  let source := lowered regs
  let Windowed (stray : Context) : Prop := ∃ earlier, before earlier ∧
    stray = { earlier with regs := earlier.regs.write .a5 privateRegBase }
  let Popped (stray : Context) : Prop := ∃ earlier loaded, before earlier ∧
    StrayAnswer (source.read .a5) (.load (earlier.regs.read .sp + 8)) loaded ∧
    stray = { earlier with
      regs := (earlier.regs.write .a5 privateRegBase).write .a5 loaded }
  have window : Together odd pc [.li .a5 privateRegBase] ⟨source, csrs, dpc⟩ before view []
      ⟨source.write .a5 privateRegBase, csrs, dpc⟩ Windowed :=
    together_li _ _ fun stray allowed => ⟨stray, allowed, rfl⟩
  have release : Together odd (pc + 4)
      [.sw .zero (privImm CpuPrivateReg.hartIntcAckOffset) .a5]
      ⟨source.write .a5 privateRegBase, csrs, dpc⟩ Windowed view [(ackAddr, 0)]
      ⟨source.write .a5 privateRegBase, csrs, dpc⟩ Windowed := by
    have base : (source.write .a5 privateRegBase).read .a5 = privateRegBase := by simp
    exact together_sw (congrArg (· + privImm CpuPrivateReg.hartIntcAckOffset) base)
      (RegFile.read_zero _)
  have pop : Together odd (pc + 4 + 4) [.lw .a5 8 .sp]
      ⟨source.write .a5 privateRegBase, csrs, dpc⟩ Windowed
      (hartBus.storeAll view [(ackAddr, 0)]) []
      ⟨(source.write .a5 privateRegBase).write .a5 (source.read .a5), csrs, dpc⟩ Popped := by
    have points : (source.write .a5 privateRegBase).read .sp + 8 = source.read .sp + 8 :=
      congrArg (· + 8) (RegFile.read_write_ne _ _ (by decide))
    refine together_lw points holds shared ?_
    rintro _ loaded ⟨earlier, allowed, rfl⟩ answered
    rw [RegFile.read_write_ne _ _ (by decide)] at answered
    exact ⟨earlier, loaded, allowed, answered, rfl⟩
  have base (held : RegFile) (value : Word) :
      ((held.write .a5 privateRegBase).write .a5 value).read .sp = held.read .sp :=
    (RegFile.read_write_ne _ _ (by decide)).trans (RegFile.read_write_ne _ _ (by decide))
  have raise : Together odd (pc + 4 + 4 + 4) [.addi .sp .sp 16]
      ⟨(source.write .a5 privateRegBase).write .a5 (source.read .a5), csrs, dpc⟩ Popped
      (hartBus.storeAll view [(ackAddr, 0)]) []
      ⟨((source.write .a5 privateRegBase).write .a5 (source.read .a5)).write .sp
        (((source.write .a5 privateRegBase).write .a5 (source.read .a5)).read .sp + 16),
        csrs, dpc⟩ later := by
    refine together_addi .sp .sp 16 ?_
    rintro _ ⟨earlier, loaded, allowed, answered, rfl⟩
    rw [base earlier.regs loaded]
    exact goes earlier loaded allowed answered
  rw [base source, lowered_left] at raise
  exact window.consQuiet (release.cons (pop.consQuiet raise))

def handlerWrites (regs : RegFile) (csrs : Csr → Word) : List Write :=
  enterWrites (lowered regs) ++ spillWrites (lowered regs) csrs ++ [(ackAddr, 0)]

theorem handlerWrites_allowed {write : Write} (member : write ∈ handlerWrites regs csrs) :
    FrameWrite ((lowered regs).read .sp) (lowered regs) csrs write := by
  rcases List.mem_append.mp member with earlier | last
  · rcases List.mem_append.mp earlier with inEnter | inSpill
    · exact enterWrites_allowed inEnter
    · exact spillWrites_allowed inSpill
  · rw [List.mem_singleton.mp last]
    exact .inl ackAddr_private

theorem frame_spilled (memory : FrameInMemory ((lowered regs).read .sp)) :
    SpillHeld (lowered regs) csrs
      (hartBus.storeAll view (enterWrites (lowered regs) ++ spillWrites (lowered regs) csrs)) := by
  have allowed : ∀ write ∈ enterWrites (lowered regs) ++ spillWrites (lowered regs) csrs,
      FrameWrite ((lowered regs).read .sp) (lowered regs) csrs write :=
    fun write member => handlerWrites_allowed (List.mem_append_left _ member)
  refine ⟨memory, ?_, ?_⟩
  · intro entry listed
    exact frame_holds view allowed (mem_frame_csr (lowered regs) csrs listed) memory
      (List.mem_append_right _ (List.mem_append_right _ (List.mem_map.mpr ⟨entry, listed, rfl⟩)))
  · intro entry listed
    exact frame_holds view allowed (mem_frame_reg (lowered regs) csrs listed) memory
      (List.mem_append_right _ (List.mem_append_left _ (List.mem_map.mpr ⟨entry, listed, rfl⟩)))

theorem together_handler (memory : FrameInMemory ((lowered regs).read .sp))
    {between later : Context → Prop}
    (restores : ∀ pc view value, SpillHeld (lowered regs) csrs view →
      Together odd pc (Rv32.restoreCsrs .t6 .sp recoveryCsrs ++ Rv32.restoreRegs .sp recoveryRegs)
        ⟨(lowered regs).write .t6 value, csrs, dpc⟩ (CsrsBack (straySp + (-16)) csrs []) view []
        ⟨lowered regs, csrs, dpc⟩ between)
    (goes : ∀ stray loaded, between stray →
      StrayAnswer ((lowered regs).read .a5) (.load (stray.regs.read .sp + 8)) loaded →
      later { stray with
        regs := ((stray.regs.write .a5 privateRegBase).write .a5 loaded).write .sp
          (stray.regs.read .sp + 16) }) :
    Together odd pc handlerTmrRecoverysync ⟨regs, csrs, dpc⟩ (CsrsBack straySp csrs []) view
      (handlerWrites regs csrs) ⟨regs, csrs, dpc⟩ later := by
  have enter := @together_recoveryEnter odd pc regs csrs dpc view straySp memory
  obtain ⟨value, spill⟩ := @together_spill odd (after pc recoveryEnter) csrs dpc
    (hartBus.storeAll view (enterWrites (lowered regs))) (straySp + (-16)) (lowered regs)
  have spilled := enter.append spill
  have read := spilled.appendQuiet (restores _ _ value (frame_spilled memory))
  have a5 := mem_frame_a5 (lowered regs) csrs
  have holds := frame_holds view (fun _ member => handlerWrites_allowed member) a5 memory
    (List.mem_append_left _ (List.mem_append_left _
      (List.mem_cons_of_mem _ List.mem_cons_self)))
  unfold handlerWrites at holds
  rw [Rv32.Bus.storeAll_append] at holds
  have whole := read.append (together_recoveryLeave holds (memory _ (offset_of_word a5)).1 goes)
  have parts : handlerTmrRecoverysync = recoveryEnter ++
      (Rv32.saveRegs .sp recoveryRegs ++ Rv32.saveCsrs .t6 .sp recoveryCsrs) ++
      (Rv32.restoreCsrs .t6 .sp recoveryCsrs ++ Rv32.restoreRegs .sp recoveryRegs) ++
      recoveryLeave := by
    simp only [handlerTmrRecoverysync, List.append_assoc]
  rw [parts]
  exact whole

end Handler

end Eros
