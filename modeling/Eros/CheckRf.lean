import Eros.Checkpoint

/-!
# What `Check_RF` dumps

The routine pushes three scratch registers, stores `x1` to `x31` one after the
other and pops its frame.  The caller's stack pointer goes to the slot of `x4`,
where `tp` overwrites it, and the slot of `x2` is never written.  The reload from
the frame goes to `a4` and `a5`, which are dumped and handed back with the
values of `t5` and `t6`.
-/

set_option autoImplicit false

namespace Eros

open Rv32
open ByteMemory (Mem Write InRegion Apart Disjoint)

/-! ## The dump -/

/-- The word in which `xk` is dumped. -/
def dumpSlot (reg : Reg) : Word := checkRamAddress + BitVec.ofNat 32 (4 * (reg.number - 1))

/-- A call dumps and keeps the register file and writes nothing else. -/
structure DumpsRegisterFile (call final : Context) (before after : HartView) : Prop where
  dumped : ∀ reg, reg ≠ .zero → hartBus.load after (dumpSlot reg) = call.regs.read reg
  kept : ∀ reg, final.regs.read reg = call.regs.read reg
  memory : ∀ byte, ¬InRegion (call.regs.read .sp - 20) 20 byte →
    ¬InRegion checkRamAddress 124 byte → after.ram byte = before.ram byte
  devices : after.ctrl = before.ctrl ∧ after.priv = before.priv

/-- The 20 bytes below the stack pointer are memory and apart from the dump. -/
structure DumpSite (sp : Word) : Prop where
  apart : Disjoint (sp - 20) 20 checkRamAddress 124
  memory : ∀ byte, InRegion (sp - 20) 20 byte → InMemory byte

/-! ## The stores -/

def checkRfFrame : List (Reg × Word) := [(.t4, 16), (.t5, 12), (.t6, 8)]

def checkRfFrameWrites (regs : RegFile) : List Write :=
  checkRfFrame.map fun entry => (regs.read .sp - 20 + entry.2, regs.read entry.1)

def checkRfRegs (regs : RegFile) : RegFile :=
  (regs.write .a4 (regs.read .t5)).write .a5 (regs.read .t6)

def checkRfReturn (call : Context) : Context := { call with regs := checkRfRegs call.regs }

/-- The entries of the dump after the one of the caller's stack pointer. -/
def checkRfDump : List (Reg × Word) := checkRfTable ++ [(.t5, 116), (.t6, 120)]

def checkRfHeadWrites (regs : RegFile) : List Write :=
  [(checkRamAddress, regs.read .ra), (checkRamAddress + 12, regs.read .sp)]

def dumpWrites (regs : RegFile) (table : List (Reg × Word)) : List Write :=
  table.map fun entry => (checkRamAddress + entry.2, (checkRfRegs regs).read entry.1)

def checkRfDumpWrites (regs : RegFile) : List Write :=
  checkRfHeadWrites regs ++ dumpWrites regs checkRfDump

def checkRfWrites (regs : RegFile) : List Write :=
  checkRfFrameWrites regs ++ checkRfDumpWrites regs

/-! ## Where they go -/

theorem dump_memory {offset : Word} (room : offset.toNat ≤ 120) :
    InMemory (checkRamAddress + offset) := by
  unfold InMemory InPrivate InSafeCsr checkRamAddress
  constructor
  · bv_omega
  · bv_omega

theorem checkRfDumpWrites_offset (regs : RegFile) {write : Write}
    (member : write ∈ checkRfDumpWrites regs) :
    ∃ offset : Word, offset.toNat ≤ 120 ∧ write.1 = checkRamAddress + offset := by
  rcases List.mem_append.mp member with head | dump
  · simp only [checkRfHeadWrites, List.mem_cons, List.not_mem_nil, or_false] at head
    rcases head with rfl | rfl
    · exact ⟨0, by decide, (BitVec.add_zero _).symm⟩
    · exact ⟨12, by decide, rfl⟩
  · obtain ⟨entry, inTable, rfl⟩ := List.mem_map.mp dump
    have small : ∀ entry ∈ checkRfDump, entry.2.toNat ≤ 120 := by decide
    exact ⟨entry.2, small entry inTable, rfl⟩

theorem checkRfFrame_offset {entry : Reg × Word} (member : entry ∈ checkRfFrame) :
    entry.2.toNat + 4 ≤ 20 := by
  revert entry
  decide

section Site
variable {sp : Word} (site : DumpSite sp)
include site

theorem DumpSite.frame_memory {offset : Word} (room : offset.toNat + 4 ≤ 20) :
    InMemory (sp - 20 + offset) := by
  apply site.memory
  apply ByteMemory.region_of_offset room (by decide)
  unfold InRegion
  rw [BitVec.sub_self]
  decide

theorem DumpSite.frame_apart {offset slot : Word} (room : offset.toNat + 4 ≤ 20)
    (fits : slot.toNat ≤ 120) : Apart (sp - 20 + offset) (checkRamAddress + slot) :=
  ByteMemory.apart_of_disjoint site.apart
    (fun _ inside => ByteMemory.region_of_offset room (by decide) inside)
    (fun _ inside => ByteMemory.region_of_offset (by omega) (by decide) inside)

end Site

/-! ## The frame -/

/-- The frame of a call still holds `t5` and `t6`. -/
def CheckRfFrameHeld (view : HartView) (regs : RegFile) : Prop :=
  hartBus.load view (regs.read .sp - 20 + 12) = regs.read .t5 ∧
    hartBus.load view (regs.read .sp - 20 + 8) = regs.read .t6

section Frame
variable {regs : RegFile} (site : DumpSite (regs.read .sp)) (view : HartView)
include site

theorem checkRf_pushed {entry : Reg × Word} (member : entry ∈ checkRfFrame) :
    hartBus.load (hartBus.storeAll view (checkRfFrameWrites regs))
      (regs.read .sp - 20 + entry.2) = regs.read entry.1 :=
  hartBus_load_saved view (by decide)
    (fun _ inFrame => site.frame_memory (checkRfFrame_offset inFrame)) member

theorem checkRfFrameHeld_pushed :
    CheckRfFrameHeld (hartBus.storeAll view (checkRfFrameWrites regs)) regs :=
  ⟨checkRf_pushed site view (by decide : (Reg.t5, (12 : Word)) ∈ checkRfFrame),
    checkRf_pushed site view (by decide : (Reg.t6, (8 : Word)) ∈ checkRfFrame)⟩

theorem CheckRfFrameHeld.dump {view : HartView} (held : CheckRfFrameHeld view regs)
    {writes : List Write} (part : ∀ write ∈ writes, write ∈ checkRfDumpWrites regs) :
    CheckRfFrameHeld (hartBus.storeAll view writes) regs := by
  have kept : ∀ offset : Word, offset.toNat + 4 ≤ 20 →
      hartBus.load (hartBus.storeAll view writes) (regs.read .sp - 20 + offset) =
        hartBus.load view (regs.read .sp - 20 + offset) := by
    intro offset room
    apply hartBus_load_storeAll_apart view _ (site.frame_memory room)
    intro write member _
    obtain ⟨slot, fits, here⟩ := checkRfDumpWrites_offset regs (part write member)
    rw [here]
    exact (site.frame_apart room fits).symm
  exact ⟨(kept 12 (by decide)).trans held.1, (kept 8 (by decide)).trans held.2⟩

end Frame

/-! ## The phases -/

section Phases
variable {call : Context} {pc : Word} {view : HartView}

def checkRfPushed (call : Context) : Context :=
  { call with regs := call.regs.write .sp (call.regs.read .sp - 20) }

/-- `a4` and `a5` hold the pushed `t5` and `t6`. -/
def checkRfReloaded (call : Context) : Context :=
  { call with regs := checkRfRegs (checkRfPushed call).regs }

/-- `t6` is the base of the dump, `t5` the caller's stack pointer. -/
def checkRfBased (call : Context) : Context :=
  { call with
    regs := ((checkRfReloaded call).regs.write .t6 checkRamAddress).write .t5 (call.regs.read .sp) }

theorem checkRfPush_performs :
    Performs hartBus pc checkRfPush call view (checkRfFrameWrites call.regs)
      (checkRfPushed call) := by
  have others : ∀ entry ∈ checkRfFrame, entry.1 ≠ .sp := by decide
  exact performs_push others

theorem checkRfReload_performs (held : CheckRfFrameHeld view call.regs) :
    Performs hartBus pc checkRfReload (checkRfPushed call) view [] (checkRfReloaded call) :=
  Performs.cons (performs_load rfl held.1) (performs_load rfl held.2)

theorem checkRfHead_performs :
    Performs hartBus pc checkRfHead (checkRfReloaded call) view (checkRfHeadWrites call.regs)
      (checkRfBased call) := by
  let based : Context :=
    { call with regs := (checkRfReloaded call).regs.write .t6 checkRamAddress }
  have caller : based.regs.read .sp + 20 = call.regs.read .sp := by
    change call.regs.read .sp - 20 + 20 = _
    bv_omega
  have first : Performs hartBus (pc + 4) [.sw .ra 0 .t6] based view
      [(checkRamAddress, call.regs.read .ra)] based :=
    performs_store (BitVec.add_zero _) rfl
  have raise : ∀ view, Performs hartBus (pc + 4 + 4) [.addi .t5 .sp 20] based view []
      (checkRfBased call) := by
    intro view
    have step : Performs hartBus (pc + 4 + 4) [.addi .t5 .sp 20] based view [] _ :=
      performs_addi .t5 .sp 20
    rw [caller] at step
    exact step
  have second : ∀ view, Performs hartBus (pc + 4 + 4 + 4) [.sw .t5 12 .t6] (checkRfBased call) view
      [(checkRamAddress + 12, call.regs.read .sp)] (checkRfBased call) :=
    fun view => performs_store rfl rfl
  exact Performs.cons (performs_li .t6 checkRamAddress)
    (Performs.cons first (Performs.cons (raise _) (second _)))

theorem checkRfTable_performs :
    Performs hartBus pc (saveRegs .t6 checkRfTable) (checkRfBased call) view
      (dumpWrites call.regs checkRfTable) (checkRfBased call) := by
  have same : dumpWrites call.regs checkRfTable = checkRfTable.map fun entry =>
      ((checkRfBased call).regs.read .t6 + entry.2, (checkRfBased call).regs.read entry.1) := by
    apply List.map_congr_left
    intro entry member
    have untouched : ∀ reg ∈ checkRfTable.map Prod.fst,
        (checkRfRegs call.regs).read reg = (checkRfBased call).regs.read reg := by
      intro reg listed
      revert listed
      cases reg <;> first | exact fun _ => rfl | exact fun listed => absurd listed (by decide)
    rw [untouched entry.1 (List.mem_map_of_mem member)]
    rfl
  rw [same]
  exact performs_saveRegs .t6 checkRfTable _ _

/-- `t5` is in place again, `t6` is back and `t5` is the base of the dump. -/
def checkRfRebased (call : Context) : Context :=
  { call with
    regs := (((checkRfBased call).regs.write .t5 (call.regs.read .t5)).write .t6
      (call.regs.read .t6)).write .t5 checkRamAddress }

theorem checkRfTail_performs (site : DumpSite (call.regs.read .sp))
    (held : CheckRfFrameHeld view call.regs) :
    Performs hartBus pc checkRfTail (checkRfBased call) view
      (dumpWrites call.regs [(.t5, 116), (.t6, 120)]) (checkRfRebased call) := by
  let restored : Context :=
    { call with regs := (checkRfBased call).regs.write .t5 (call.regs.read .t5) }
  let reloaded : Context := { call with regs := restored.regs.write .t6 (call.regs.read .t6) }
  have first : Performs hartBus (pc + 4) [.sw .t5 116 .t6] restored view
      [(checkRamAddress + 116, call.regs.read .t5)] restored := performs_store rfl rfl
  have part : ∀ write ∈ [(checkRamAddress + 116, call.regs.read .t5)],
      write ∈ checkRfDumpWrites call.regs := by
    intro write member
    rw [List.mem_singleton.mp member]
    have listed : (Reg.t5, (116 : Word)) ∈ checkRfDump := by decide
    exact List.mem_append_right _ (List.mem_map_of_mem listed)
  have stillHeld := held.dump site part
  have reload : Performs hartBus (pc + 4 + 4) [.lw .t6 8 .sp] restored
      (hartBus.storeAll view [(checkRamAddress + 116, call.regs.read .t5)]) [] reloaded :=
    performs_load rfl stillHeld.2
  have second : ∀ view, Performs hartBus (pc + 4 + 4 + 4 + 4) [.sw .t6 120 .t5] (checkRfRebased call)
      view [(checkRamAddress + 120, call.regs.read .t6)] (checkRfRebased call) :=
    fun view => performs_store rfl rfl
  exact Performs.cons (performs_load rfl held.1) (Performs.cons first
    (Performs.cons reload (Performs.cons (performs_li .t5 checkRamAddress) (second _))))

theorem checkRfPop_performs (held : CheckRfFrameHeld view call.regs) :
    Performs hartBus pc checkRfPop (checkRfRebased call) view [] (checkRfReturn call) := by
  let restored : Context :=
    { call with regs := (checkRfRebased call).regs.write .t5 (call.regs.read .t5) }
  have back : restored.regs.write .sp (restored.regs.read .sp + 20) = checkRfRegs call.regs := by
    apply RegFile.ext
    funext reg
    have stack : call.regs.read .sp - 20 + 20 = call.regs.read .sp := by bv_omega
    cases reg <;> first | rfl | exact stack
  have pop : Performs hartBus (pc + 4) [.addi .sp .sp 20] restored view [] _ :=
    performs_addi .sp .sp 20
  rw [back] at pop
  exact Performs.cons (performs_load rfl held.1) pop

theorem checkRf_performs (site : DumpSite (call.regs.read .sp)) :
    Performs hartBus pc checkRf call view (checkRfWrites call.regs) (checkRfReturn call) := by
  have pushed := checkRfFrameHeld_pushed site view
  have afterHead := pushed.dump site fun _ member =>
    List.mem_append_left (dumpWrites call.regs checkRfDump) member
  have tablePart : ∀ write ∈ dumpWrites call.regs checkRfTable,
      write ∈ checkRfDumpWrites call.regs := by
    intro write member
    apply List.mem_append_right
    unfold dumpWrites checkRfDump
    rw [List.map_append]
    exact List.mem_append_left _ member
  have afterTable := afterHead.dump site tablePart
  have tailPart : ∀ write ∈ dumpWrites call.regs [(.t5, 116), (.t6, 120)],
      write ∈ checkRfDumpWrites call.regs := by
    intro write member
    apply List.mem_append_right
    unfold dumpWrites checkRfDump
    rw [List.map_append]
    exact List.mem_append_right _ member
  have afterTail := afterTable.dump site tailPart
  have whole := (@checkRfPush_performs call pc view).append ((checkRfReload_performs pushed).append
    (checkRfHead_performs.append (checkRfTable_performs.append
      ((checkRfTail_performs site afterTable).append (checkRfPop_performs afterTail)))))
  simp only [List.nil_append, List.append_nil] at whole
  unfold checkRf checkRfWrites checkRfDumpWrites checkRfDump dumpWrites
  rw [List.map_append]
  simp only [List.append_assoc]
  exact whole

end Phases

/-! ## What is dumped -/

theorem dumpSlot_apart {left right : Reg} (leftSaved : left ≠ .zero) (rightSaved : right ≠ .zero)
    (different : left ≠ right) : Apart (dumpSlot left) (dumpSlot right) := by
  have numbered : ∀ reg : Reg, reg ≠ .zero → 1 ≤ reg.number := by
    intro reg saved
    cases reg
    · exact absurd rfl saved
    all_goals decide
  have leftNumber := numbered left leftSaved
  have rightNumber := numbered right rightSaved
  have leftBound := left.number_lt
  have rightBound := right.number_lt
  have apart : left.number ≠ right.number := fun same => different (Reg.number_injective same)
  unfold dumpSlot
  rw [ByteMemory.apart_add_iff]
  unfold Apart
  bv_omega

theorem checkRfDump_slot {entry : Reg × Word} (member : entry ∈ checkRfDump) :
    checkRamAddress + entry.2 = dumpSlot entry.1 ∧ entry.1 ∉ [Reg.zero, .ra, .sp] := by
  revert entry
  decide

theorem checkRfDump_complete (reg : Reg) (other : reg ∉ [Reg.zero, .ra, .sp]) :
    reg ∈ checkRfDump.map Prod.fst := by
  revert other
  cases reg <;> decide

section Dumped
variable {regs : RegFile} (view : HartView)

theorem dumpSlot_memory (reg : Reg) : InMemory (dumpSlot reg) := by
  have bound := reg.number_lt
  apply dump_memory
  bv_omega

theorem load_dumpWrites {reg : Reg} (listed : reg ∈ checkRfDump.map Prod.fst) :
    hartBus.load (hartBus.storeAll view (dumpWrites regs checkRfDump)) (dumpSlot reg) =
      (checkRfRegs regs).read reg := by
  obtain ⟨entry, member, rfl⟩ := List.mem_map.mp listed
  obtain ⟨here, saved⟩ := checkRfDump_slot member
  apply hartBus_load_storeAll_written view _ _ (dumpSlot_memory _)
  · intro write written _
    obtain ⟨other, inDump, rfl⟩ := List.mem_map.mp written
    obtain ⟨there, otherSaved⟩ := checkRfDump_slot inDump
    rw [there]
    by_cases same : other.1 = entry.1
    · rw [same]
      exact .inl rfl
    · refine .inr (dumpSlot_apart ?_ ?_ same)
      · rintro zero
        exact otherSaved (zero ▸ List.mem_cons_self)
      · rintro zero
        exact saved (zero ▸ List.mem_cons_self)
  · rw [← here]
    exact List.mem_map_of_mem member

theorem load_dumpWrites_other {reg : Reg} (saved : reg ≠ .zero)
    (unlisted : reg ∉ checkRfDump.map Prod.fst) :
    hartBus.load (hartBus.storeAll view (dumpWrites regs checkRfDump)) (dumpSlot reg) =
      hartBus.load view (dumpSlot reg) := by
  apply hartBus_load_storeAll_apart view _ (dumpSlot_memory reg)
  intro write written _
  obtain ⟨entry, member, rfl⟩ := List.mem_map.mp written
  obtain ⟨here, entrySaved⟩ := checkRfDump_slot member
  rw [here]
  refine dumpSlot_apart ?_ saved ?_
  · rintro zero
    exact entrySaved (zero ▸ List.mem_cons_self)
  · rintro rfl
    exact unlisted (List.mem_map_of_mem member)

theorem checkRfHeadWrites_slots :
    checkRfHeadWrites regs = [(dumpSlot .ra, regs.read .ra), (dumpSlot .tp, regs.read .sp)] := by
  have ra : checkRamAddress = dumpSlot .ra := by decide
  have tp : checkRamAddress + 12 = dumpSlot .tp := by decide
  unfold checkRfHeadWrites
  rw [tp, ← ra]

theorem load_head_ra :
    hartBus.load (hartBus.storeAll view (checkRfHeadWrites regs)) (dumpSlot .ra) =
      regs.read .ra := by
  rw [checkRfHeadWrites_slots]
  apply hartBus_load_storeAll_written view _ _ (dumpSlot_memory .ra)
  · intro write written _
    rcases List.mem_cons.mp written with rfl | later
    · exact .inl rfl
    · rw [List.mem_singleton.mp later]
      exact .inr (dumpSlot_apart (by decide) (by decide) (by decide))
  · exact List.mem_cons_self

theorem load_frame_head_sp (site : DumpSite (regs.read .sp)) :
    hartBus.load (hartBus.storeAll view (checkRfFrameWrites regs ++ checkRfHeadWrites regs))
      (dumpSlot .sp) = hartBus.load view (dumpSlot .sp) := by
  apply hartBus_load_storeAll_apart view _ (dumpSlot_memory .sp)
  intro write written _
  rcases List.mem_append.mp written with frame | head
  · obtain ⟨entry, member, rfl⟩ := List.mem_map.mp frame
    exact site.frame_apart (checkRfFrame_offset member) (by decide)
  · rw [checkRfHeadWrites_slots] at head
    rcases List.mem_cons.mp head with rfl | later
    · exact dumpSlot_apart (by decide) (by decide) (by decide)
    · rw [List.mem_singleton.mp later]
      exact dumpSlot_apart (by decide) (by decide) (by decide)

theorem load_checkRfWrites (site : DumpSite (regs.read .sp)) {reg : Reg} (saved : reg ≠ .zero) :
    hartBus.load (hartBus.storeAll view (checkRfWrites regs)) (dumpSlot reg) =
      if reg = .sp then hartBus.load view (dumpSlot .sp) else (checkRfRegs regs).read reg := by
  have split : checkRfWrites regs =
      checkRfFrameWrites regs ++ checkRfHeadWrites regs ++ dumpWrites regs checkRfDump :=
    (List.append_assoc _ _ _).symm
  rw [split, Bus.storeAll_append]
  by_cases listed : reg ∈ checkRfDump.map Prod.fst
  · rw [load_dumpWrites _ listed, if_neg]
    rintro rfl
    exact absurd listed (by decide)
  · rw [load_dumpWrites_other _ saved listed]
    have head : reg = .ra ∨ reg = .sp := by
      by_contra neither
      apply listed
      apply checkRfDump_complete
      simp only [List.mem_cons, List.not_mem_nil, or_false, not_or] at neither ⊢
      exact ⟨saved, neither⟩
    rcases head with rfl | rfl
    · rw [Bus.storeAll_append, load_head_ra, if_neg (by decide)]
      rfl
    · rw [load_frame_head_sp view site, if_pos rfl]

theorem checkRfWrites_memory (site : DumpSite (regs.read .sp)) :
    ∀ write ∈ checkRfWrites regs, InMemory write.1 := by
  intro write written
  rcases List.mem_append.mp written with frame | dump
  · obtain ⟨entry, member, rfl⟩ := List.mem_map.mp frame
    exact site.frame_memory (checkRfFrame_offset member)
  · obtain ⟨offset, room, here⟩ := checkRfDumpWrites_offset regs dump
    rw [here]
    exact dump_memory room

theorem checkRfWrites_outside (site : DumpSite (regs.read .sp)) {byte : Word}
    (offFrame : ¬InRegion (regs.read .sp - 20) 20 byte)
    (offDump : ¬InRegion checkRamAddress 124 byte) :
    (hartBus.storeAll view (checkRfWrites regs)).ram byte = view.ram byte := by
  rw [hartBus_storeAll_memory view _ (checkRfWrites_memory site)]
  apply ByteMemory.storeAll_outside
  intro write written inside
  rcases List.mem_append.mp written with frame | dump
  · obtain ⟨entry, member, rfl⟩ := List.mem_map.mp frame
    exact offFrame (ByteMemory.region_of_offset (checkRfFrame_offset member) (by decide) inside)
  · obtain ⟨offset, room, here⟩ := checkRfDumpWrites_offset regs dump
    rw [here] at inside
    exact offDump (ByteMemory.region_of_offset (by omega) (by decide) inside)

theorem checkRfRegs_kept_iff :
    (∀ reg, (checkRfRegs regs).read reg = regs.read reg) ↔
      regs.read .a4 = regs.read .t5 ∧ regs.read .a5 = regs.read .t6 := by
  constructor
  · intro kept
    exact ⟨(kept .a4).symm, (kept .a5).symm⟩
  · rintro ⟨four, five⟩ reg
    unfold checkRfRegs
    rw [← four, ← five, RegFile.write_read_self, RegFile.write_read_self]

end Dumped

/-! ## When the dump is faithful -/

/-- Of the 31 registers `a4` and `a5` come back as `t5` and `t6`, and the slot of
`x2` keeps what it held; everything else is dumped and kept. -/
theorem check_rf_dumps_iff (call : Context) (view : HartView) (pc : Word)
    (site : DumpSite (call.regs.read .sp)) :
    Performs hartBus pc checkRf call view (checkRfWrites call.regs) (checkRfReturn call) ∧
      (DumpsRegisterFile call (checkRfReturn call) view
          (hartBus.storeAll view (checkRfWrites call.regs)) ↔
        call.regs.read .a4 = call.regs.read .t5 ∧ call.regs.read .a5 = call.regs.read .t6 ∧
          hartBus.load view (dumpSlot .sp) = call.regs.read .sp) := by
  refine ⟨checkRf_performs site, ?_⟩
  constructor
  · intro faithful
    obtain ⟨four, five⟩ := checkRfRegs_kept_iff.mp faithful.kept
    have pointer := faithful.dumped .sp (by decide)
    rw [load_checkRfWrites view site (by decide), if_pos rfl] at pointer
    exact ⟨four, five, pointer⟩
  · rintro ⟨four, five, pointer⟩
    have kept := checkRfRegs_kept_iff.mpr ⟨four, five⟩
    refine ⟨?_, kept, fun byte => checkRfWrites_outside view site, ?_⟩
    · intro reg saved
      rw [load_checkRfWrites view site saved]
      split_ifs with stack
      · rw [pointer, stack]
      · exact kept reg
    · rw [hartBus_storeAll_memory view _ (checkRfWrites_memory site)]
      exact ⟨rfl, rfl⟩

theorem dumpSite_of_low {sp : Word} (above : 20 ≤ sp.toNat) (below : sp.toNat ≤ 0x20070000) :
    DumpSite sp where
  apart byte := by
    unfold InRegion checkRamAddress
    bv_omega
  memory byte := by
    unfold InRegion InMemory InPrivate InSafeCsr
    bv_omega

/-- A register file whose stack pointer already stands in its slot and whose
other registers agree. -/
def uniformCall : Context where
  regs := ⟨fun reg => if reg = .zero then 0 else 0x10101010, rfl⟩
  csrs _ := 0
  dpc := 0

def uniformView : HartView := { checkpointView with ram := fun _ => 0x10 }

theorem uniformCall_dumped :
    DumpsRegisterFile uniformCall (checkRfReturn uniformCall) uniformView
      (hartBus.storeAll uniformView (checkRfWrites uniformCall.regs)) := by
  have faithful := check_rf_dumps_iff uniformCall uniformView 0x8000
    (dumpSite_of_low (by decide) (by decide))
  refine faithful.2.mpr ⟨rfl, rfl, ?_⟩
  rw [hartBus_load_memory _ (dumpSlot_memory .sp)]
  decide

/-- With every register holding its own number, the caller gets 30 back in `a4`
and the word of `x2` stays 0. -/
theorem numberedCall_not_dumped :
    DumpSite 0x10000 ∧
      Performs hartBus 0x8000 checkRf (numberedCall 0x10000) checkpointView
        (checkRfWrites (numberedRegs 0x10000)) (checkRfReturn (numberedCall 0x10000)) ∧
      (numberedRegs 0x10000).read .a4 = 14 ∧
      (checkRfReturn (numberedCall 0x10000)).regs.read .a4 = 30 ∧
      hartBus.load (hartBus.storeAll checkpointView (checkRfWrites (numberedRegs 0x10000)))
        (dumpSlot .sp) = 0 ∧
      ¬DumpsRegisterFile (numberedCall 0x10000) (checkRfReturn (numberedCall 0x10000)) checkpointView
        (hartBus.storeAll checkpointView (checkRfWrites (numberedRegs 0x10000))) := by
  have site : DumpSite ((numberedRegs 0x10000).read .sp) :=
    dumpSite_of_low (by decide) (by decide)
  refine ⟨site, checkRf_performs site, by decide, by decide, ?_, ?_⟩
  · rw [load_checkRfWrites _ site (by decide), if_pos rfl,
      hartBus_load_memory _ (dumpSlot_memory .sp)]
    decide
  · intro faithful
    exact absurd (faithful.kept .a4) (by decide)

end Eros
