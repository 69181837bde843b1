import Eros.Checkpoint
import Eros.RecoveryHandler

/-!
# The recovery handler repairs one hart

A hart with any registers and trap registers leaves `handler_tmr_recoverysync`
with those of the other two.  Its stack pointer is the one thing it must not come
with at random: the loads it makes before it has the common one must not fall
into its private window, where the voter does not see them.
-/

set_option autoImplicit false

namespace Eros

open ByteMemory (Write InRegion)
open Rv32 (Access Code Context Reg RegFile Csr CodeAt after placeAt)

/-! ## What the odd hart reads back -/

section ReadBack
variable {odd : Hart} {pc : Word} {csrs : Csr → Word} {dpc : Word}
variable {view : HartView} {low : Word} {source : RegFile}

theorem recoveryCsrs_all (csr : Csr) : csr ∈ recoveryCsrs.map Prod.fst := by
  cases csr <;> decide

/-- The odd hart on the way to its stack pointer. -/
def BaseBack (low : Word) (source : RegFile) (csrs : Csr → Word) (keys : List Reg)
    (stray : Context) : Prop :=
  RegsBack source csrs keys stray ∧ (.sp ∉ keys → stray.regs.read .sp = low)

theorem BaseBack.read {keys : List Reg} {stray : Context} {loaded : Word}
    (held : SpillHeld source csrs view) (back : BaseBack low source csrs keys stray)
    {entry : Reg × Word} (member : entry ∈ baseRegs) (reached : ¬InPrivate (low + entry.2))
    (answered : StrayAnswer (source.read entry.1) (.load (stray.regs.read .sp + entry.2)) loaded) :
    BaseBack low source csrs (keys ++ [entry.1])
      { stray with regs := stray.regs.write entry.1 loaded } := by
  have listed : ∀ entry ∈ baseRegs, entry ∈ recoveryRegs := by decide
  have shared : ¬InPrivate (stray.regs.read .sp + entry.2) := by
    by_cases repaired : .sp ∈ keys
    · rw [back.1.back .sp repaired]
      exact held.shared_reg (listed entry member)
    · rw [back.2 repaired]
      exact reached
  rw [StrayAnswer, if_neg shared] at answered
  rw [answered]
  refine ⟨back.1.read entry.1, ?_⟩
  intro absent
  have other : .sp ≠ entry.1 :=
    fun same => absent (List.mem_append_right _ (List.mem_singleton.mpr same))
  rw [← back.2 fun earlier => absent (List.mem_append_left _ earlier)]
  exact RegFile.read_write_ne _ _ other

/-- Off a stack pointer whose loads are shared, the odd hart reads back everything. -/
theorem together_repaired (held : SpillHeld source csrs view)
    (reached : ∀ offset ∈ unrepairedLoads, ¬InPrivate (low + offset)) (value : Word) :
    Together odd pc (Rv32.restoreCsrs .t6 .sp recoveryCsrs ++ Rv32.restoreRegs .sp recoveryRegs)
      ⟨source.write .t6 value, csrs, dpc⟩ (CsrsBack low csrs []) view [] ⟨source, csrs, dpc⟩
      (RegsBack source csrs (recoveryRegs.map Prod.fst)) := by
  refine together_readBack held (CsrsBack low csrs) (BaseBack low source csrs)
    (fun keys => RegsBack source csrs (baseRegs.map Prod.fst ++ keys)) ?_ ?_ ?_ ?_ ?_ value
  · intro keys entry listed stray loaded back answered
    have shared := reached entry.2 (List.mem_append_left _ (List.mem_map_of_mem listed))
    rw [back.sp, StrayAnswer, if_neg shared] at answered
    rw [answered]
    exact (back.write (by decide) _).update entry.1
  · intro stray back
    refine ⟨⟨fun csr => back.back csr (recoveryCsrs_all csr), ?_⟩, fun _ => back.sp⟩
    exact fun _ absent => absurd absent List.not_mem_nil
  · intro keys entry member stray loaded back answered
    exact back.read held member
      (reached entry.2 (List.mem_append_right _ (List.mem_map_of_mem member))) answered
  · intro stray back
    exact back.1
  · intro keys entry member stray loaded back answered
    have repaired : stray.regs.read .sp = source.read .sp :=
      back.back .sp (List.mem_append_left _ (by decide))
    rw [repaired, StrayAnswer, if_neg (held.shared_reg (List.mem_of_mem_drop member))] at answered
    rw [answered, ← List.append_assoc]
    exact back.read entry.1

/-- The odd hart on the way to a stack pointer of all ones. -/
def BaseLost (low : Word) (keys : List Reg) (stray : Context) : Prop :=
  (keys = [] ∨ keys = [.ra] → stray.regs.read .sp = low) ∧
    (keys = [.ra, .sp] → stray.regs.read .sp = BitVec.allOnes 32)

theorem BaseLost.read {keys : List Reg} {stray : Context} {answer loaded : Word}
    (window : InPrivate (low + (-8))) (unmapped : (low + (-8)).truncate 4 = 0xc#4)
    (lost : BaseLost low keys stray) {entry : Reg × Word} (member : entry ∈ baseRegs)
    (answered : StrayAnswer answer (.load (stray.regs.read .sp + entry.2)) loaded) :
    BaseLost low (keys ++ [entry.1]) { stray with regs := stray.regs.write entry.1 loaded } := by
  simp only [baseRegs, List.mem_cons, List.not_mem_nil, or_false] at member
  rcases member with rfl | rfl
  · constructor
    · intro first
      have start : keys = [] := by
        rcases first with none | one
        · exact absurd none (by simp)
        · exact (List.append_inj' one rfl).1
      exact (RegFile.read_write_ne _ _ (by decide)).trans (lost.1 (.inl start))
    · intro both
      exact absurd (List.append_inj' (show keys ++ [.ra] = [.ra] ++ [.sp] from both) rfl).2
        (by decide)
  · constructor
    · intro first
      rcases first with none | one
      · exact absurd none (by simp)
      · exact absurd (List.append_inj' (show keys ++ [.sp] = [] ++ [.ra] from one) rfl).2
          (by decide)
    · intro both
      have start : keys = [.ra] :=
        (List.append_inj' (show keys ++ [.sp] = [.ra] ++ [.sp] from both) rfl).1
      rw [lost.1 (.inr start), StrayAnswer, if_pos window] at answered
      obtain ⟨priv, same⟩ := answered
      have ones : priv.rdata 0xc#4 = BitVec.allOnes 32 := rfl
      rw [unmapped, ones] at same
      rw [same]
      simp

/-- Off a stack pointer in the private window, the odd hart loads its next stack
pointer from an address without a register. -/
theorem together_lost (held : SpillHeld source csrs view) (window : InPrivate (low + (-8)))
    (unmapped : (low + (-8)).truncate 4 = 0xc#4) (value : Word) :
    Together odd pc (Rv32.restoreCsrs .t6 .sp recoveryCsrs ++ Rv32.restoreRegs .sp recoveryRegs)
      ⟨source.write .t6 value, csrs, dpc⟩ (CsrsBack low csrs []) view [] ⟨source, csrs, dpc⟩
      (fun stray => stray.regs.read .sp = BitVec.allOnes 32) := by
  refine together_readBack held (fun _ => CsrsBack low csrs []) (BaseLost low)
    (fun _ stray => stray.regs.read .sp = BitVec.allOnes 32) ?_ ?_ ?_ ?_ ?_ value
  · intro _ entry _ stray loaded back _
    refine ⟨(RegFile.read_write_ne _ _ (by decide)).trans back.sp, ?_⟩
    exact fun _ absent => absurd absent List.not_mem_nil
  · intro stray back
    exact ⟨fun _ => back.sp, fun both => absurd both (by decide)⟩
  · intro keys entry member stray loaded lost answered
    exact lost.read window unmapped member answered
  · intro stray lost
    exact lost.2 rfl
  · intro _ entry member stray loaded lost _
    have others : ∀ entry ∈ recoveryRegs.drop 2, .sp ≠ entry.1 := by decide
    exact (RegFile.read_write_ne _ _ (others entry member)).trans lost

end ReadBack

/-! ## Memory -/

section Memory
variable {regs : RegFile} {csrs : Csr → Word} (view : HartView)

theorem handler_keeps_memory {byte : Word} (outside : ¬InRegion (regs.read .sp - 160) 160 byte) :
    (hartBus.storeAll view (handlerWrites regs csrs)).ram byte = view.ram byte := by
  rw [hartBus_storeAll_ram]
  apply ByteMemory.storeAll_outside
  intro write member inside
  obtain ⟨made, memory⟩ := List.mem_filter.mp member
  rcases handlerWrites_allowed made with window | ⟨word, listed, rfl⟩
  · exact (of_decide_eq_true memory).1 window
  · rw [lowered_sp] at inside
    exact outside (frame_region (offset_of_word listed) inside)

theorem handler_keeps_ctrl (memory : FrameInMemory ((lowered regs).read .sp)) :
    (hartBus.storeAll view (handlerWrites regs csrs)).ctrl = view.ctrl := by
  apply hartBus_storeAll_ctrl
  intro write made safe
  rcases handlerWrites_allowed made with window | ⟨word, listed, rfl⟩
  · exact not_safe_of_private window safe
  · exact (memory _ (offset_of_word listed)).2 safe

end Memory

/-- Two harts hold `regs` and `csrs`, the third one anything.  After the handler
all three hold them, and only the frame below the stack pointer has changed. -/
theorem tmr_recovery_repairs_one_hart {code : Code} {pc : Word}
    (placed : CodeAt code pc handlerTmrRecoverysync) (state : VotedHarts) (odd : Hart)
    (regs : RegFile) (csrs : Csr → Word)
    (agree : ∀ hart, hart ≠ odd → (state.hart hart).regs = regs ∧ (state.hart hart).csrs = csrs)
    (inStep : ∀ hart, (state.hart hart).pc = pc)
    (stack : ∀ byte, InRegion (regs.read .sp - 160) 160 byte → InMemory byte)
    (reached : ∀ offset ∈ unrepairedLoads,
      ¬InPrivate ((state.hart odd).regs.read .sp + (-16) + offset)) :
    ∃ last, VotedHarts.run code handlerTmrRecoverysync.length state = some last ∧
      (∀ hart reg, (last.hart hart).regs.read reg = regs.read reg) ∧
      (∀ hart csr, (last.hart hart).csrs csr = csrs csr) ∧
      last.system.ctrl = state.system.ctrl ∧
      ∀ byte, ¬InRegion (regs.read .sp - 160) 160 byte →
        last.system.ram byte = state.system.ram byte := by
  let view : HartView := ⟨state.system, state.priv odd⟩
  have memory : FrameInMemory ((lowered regs).read .sp) := by
    rw [lowered_sp]
    exact frame_memory stack
  have handled := @together_handler odd pc regs csrs 0 view ((state.hart odd).regs.read .sp) memory
    _ (RegsBack regs csrs (recoveryRegs.map Prod.fst))
    (fun _ _ value held => together_repaired held reached value)
    (by
      intro stray loaded back answered
      have repaired : stray.regs.read .sp = (lowered regs).read .sp :=
        back.back .sp (recoveryRegs_all (by decide))
      have shared := memory _ (offset_of_word (mem_frame_a5 (lowered regs) csrs))
      rw [repaired, StrayAnswer, if_neg shared.1] at answered
      have left := ((back.write .a5 privateRegBase).write .a5 ((lowered regs).read .a5)).write .sp
        ((lowered regs).read .sp + 16)
      rw [lowered_left] at left
      rw [repaired, answered]
      exact left)
  have started : InStep odd pc ⟨regs, csrs, 0⟩
      (CsrsBack ((state.hart odd).regs.read .sp) csrs []) view.toSystem state := by
    refine ⟨?_, ?_, rfl⟩
    · intro hart other
      exact ⟨inStep hart, (agree hart other).1, (agree hart other).2⟩
    · refine ⟨(state.hart odd).toContext, ⟨rfl, ?_⟩, ⟨inStep odd, rfl, rfl⟩⟩
      exact fun _ absent => absurd absent List.not_mem_nil
  obtain ⟨last, reachedLast, final⟩ := handled code placed state started
  obtain ⟨stray, back, stands⟩ := final.odd
  refine ⟨last, reachedLast, ?_, ?_, ?_, ?_⟩
  · intro hart reg
    by_cases other : hart = odd
    · rw [other, stands.regs]
      by_cases fixed : reg = .zero
      · rw [fixed, stray.regs.read_zero, regs.read_zero]
      · exact back.back reg (recoveryRegs_all fixed)
    · rw [(final.pair hart other).regs]
  · intro hart csr
    by_cases other : hart = odd
    · rw [other, stands.csrs]
      exact back.csrs csr
    · rw [(final.pair hart other).csrs]
  · rw [final.system]
    exact handler_keeps_ctrl view memory
  · intro byte outside
    rw [final.system]
    exact handler_keeps_memory view outside

/-! ## A hart that comes with a random stack pointer -/

/-- A hart whose registers are all ones, but for its stack pointer. -/
def strayHart (sp : Word) : Rv32.Hart where
  regs :=
    { read reg := if reg = .zero then 0 else if reg = .sp then sp else BitVec.allOnes 32
      read_zero := rfl }
  csrs _ := 0
  dpc := 0
  pc := 0

def strayTrio (sp : Word) : VotedHarts where
  hart hart := if hart = 2 then strayHart sp else (numberedCall 0x10000).at 0
  priv hart := ⟨BitVec.ofNat 3 hart.val, false, false⟩
  system := checkpointView.toSystem

theorem strayTrio_agree (sp : Word) (hart : Hart) (other : hart ≠ 2) :
    (strayTrio sp).hart hart = (numberedCall 0x10000).at 0 :=
  if_neg other

theorem strayTrio_inStep (sp : Word) (hart : Hart) : ((strayTrio sp).hart hart).pc = 0 := by
  by_cases stray : hart = 2
  · rw [stray]
    rfl
  · rw [strayTrio_agree sp hart stray]
    rfl

theorem numberedStack_memory (byte : Word) (inside : InRegion (0x10000 - 160) 160 byte) :
    InMemory byte := by
  unfold InRegion at inside
  unfold InMemory InPrivate InSafeCsr
  bv_omega

theorem strayTrio_repaired :
    ∃ last, VotedHarts.run (placeAt 0 handlerTmrRecoverysync) handlerTmrRecoverysync.length
        (strayTrio 0xdeadbeef) = some last ∧
      (∀ hart reg, (last.hart hart).regs.read reg = (numberedRegs 0x10000).read reg) ∧
      (∀ hart csr, (last.hart hart).csrs csr = 0x1800) ∧
      last.system.ctrl = (strayTrio 0xdeadbeef).system.ctrl ∧
      ∀ byte, ¬InRegion (0x10000 - 160) 160 byte →
        last.system.ram byte = (strayTrio 0xdeadbeef).system.ram byte := by
  have placed := Rv32.codeAt_placeAt 0 handlerTmrRecoverysync (by decide)
  apply tmr_recovery_repairs_one_hart placed (strayTrio 0xdeadbeef) 2 (numberedRegs 0x10000)
    (fun _ => 0x1800)
  · intro hart other
    rw [strayTrio_agree _ hart other]
    exact ⟨rfl, rfl⟩
  · exact strayTrio_inStep _
  · exact numberedStack_memory
  · have checked : unrepairedLoads.all
        (fun offset => decide (¬InPrivate ((0xdeadbeef : Word) + (-16) + offset))) = true := rfl
    intro offset listed
    exact of_decide_eq_true (List.all_eq_true.mp checked offset listed)

/-- A stack pointer in the private window is not repaired. -/
theorem private_stack_pointer_is_lost :
    ∃ last, VotedHarts.run (placeAt 0 handlerTmrRecoverysync) handlerTmrRecoverysync.length
        (strayTrio 0xf0001014) = some last ∧
      (last.hart 0).regs.read .sp = 0x10000 ∧ (last.hart 2).regs.read .sp = 15 := by
  have memory : FrameInMemory ((lowered (numberedRegs 0x10000)).read .sp) := by
    rw [lowered_sp]
    exact frame_memory numberedStack_memory
  have handled := @together_handler 2 0 (numberedRegs 0x10000) (fun _ => 0x1800) 0 checkpointView
    0xf0001014 memory (fun stray => stray.regs.read .sp = BitVec.allOnes 32)
    (fun stray => stray.regs.read .sp = 15)
    (fun _ _ value held => together_lost held (by decide) (by decide) value)
    (by
      intro stray loaded lost _
      rw [lost]
      simp)
  obtain ⟨last, reachedLast, final⟩ := handled (placeAt 0 handlerTmrRecoverysync)
    (Rv32.codeAt_placeAt 0 handlerTmrRecoverysync (by decide)) (strayTrio 0xf0001014)
    (by
      refine ⟨?_, ?_, rfl⟩
      · intro hart other
        rw [strayTrio_agree _ hart other]
        exact ⟨rfl, rfl, rfl⟩
      · refine ⟨(strayHart 0xf0001014).toContext, ⟨rfl, ?_⟩, ⟨rfl, rfl, rfl⟩⟩
        exact fun _ absent => absurd absent List.not_mem_nil)
  obtain ⟨stray, lost, stands⟩ := final.odd
  refine ⟨last, reachedLast, ?_, ?_⟩
  · rw [(final.pair 0 (by decide)).regs]
    rfl
  · rw [stands.regs]
    exact lost

end Eros
