import Eros.Lib.Rv32Copy
import Eros.SafeWrapperCtrl

/-!
# What a hart sees on its data bus

The private crossbar takes the private register window to the hart's own
registers; the safe CSR window goes to `safe_wrapper_ctrl`; everything else is
memory here.  Software accesses are whole words.
-/

set_option autoImplicit false

namespace Eros

open ByteMemory (Mem)

/-! ## Address windows -/

def safeWrapperCtrlBase : Word := 0x20070000
def privateRegBase : Word := 0xf0000000

/-- `CPU_XBAR_ADDR_RULES` -/
def InPrivate (addr : Word) : Prop := 0xf0000000 ≤ addr.toNat ∧ addr.toNat < 0xf0010000

/-- `DEMUX_INT_SAFE_REG_ADDR_RULES` -/
def InSafeCsr (addr : Word) : Prop := 0x20070000 ≤ addr.toNat ∧ addr.toNat < 0x20070100

instance (addr : Word) : Decidable (InPrivate addr) := by unfold InPrivate; infer_instance
instance (addr : Word) : Decidable (InSafeCsr addr) := by unfold InSafeCsr; infer_instance

/-- Outside both register windows. -/
def InMemory (addr : Word) : Prop := ¬InPrivate addr ∧ ¬InSafeCsr addr

instance (addr : Word) : Decidable (InMemory addr) := by unfold InMemory; infer_instance

/-! ## `cpu_private_reg` -/

structure CpuPrivateReg where
  coreId : BitVec 3
  hartIntcAck : Bool
  breakpointSim : Bool

namespace CpuPrivateReg

def coreIdOffset : BitVec 4 := 0x0
def hartIntcAckOffset : BitVec 4 := 0x4
def breakpointSimOffset : BitVec 4 := 0x8

def rdata (priv : CpuPrivateReg) (addr : BitVec 4) : Word :=
  if addr = coreIdOffset then priv.coreId.zeroExtend 32
  else if addr = hartIntcAckOffset then (BitVec.ofBool priv.hartIntcAck).zeroExtend 32
  else if addr = breakpointSimOffset then (BitVec.ofBool priv.breakpointSim).zeroExtend 32
  else BitVec.allOnes 32

def softwareWrite (priv : CpuPrivateReg) (addr : BitVec 4) (wdata : Word) : CpuPrivateReg :=
  { priv with
    hartIntcAck := if addr = hartIntcAckOffset then wdata.getLsbD 0 else priv.hartIntcAck
    breakpointSim := if addr = breakpointSimOffset then wdata.getLsbD 0 else priv.breakpointSim }

end CpuPrivateReg

/-! ## The control registers under software -/

def softwareReq (addr : BitVec 6) (wdata : Word) : RegReq := ⟨true, true, addr, wdata, 0b1111⟩

/-- A word write with no hardware update in the same cycle. -/
def SafeWrapperCtrl.softwareWrite (ctrl : SafeWrapperCtrl) (addr : BitVec 6) (wdata : Word) :
    SafeWrapperCtrl :=
  let req := softwareReq addr wdata
  { ctrl with
    safeConfiguration := if req.writes CtrlOffset.safeConfiguration then wdata.truncate 2
      else ctrl.safeConfiguration
    dmrMask := if req.writes CtrlOffset.dmrMask then wdata.truncate 3 else ctrl.dmrMask
    masterCore := if req.writes CtrlOffset.masterCore then wdata.truncate 3 else ctrl.masterCore
    criticalSection := if req.writes CtrlOffset.criticalSection then wdata.getLsbD 0
      else ctrl.criticalSection
    start := if req.writes CtrlOffset.start then wdata.getLsbD 0 else ctrl.start
    bootAddress := if req.writes CtrlOffset.bootAddress then wdata else ctrl.bootAddress
    initialSyncMaster := if req.writes CtrlOffset.initialSyncMaster then wdata.getLsbD 0
      else ctrl.initialSyncMaster
    endSwRoutine := if req.writes CtrlOffset.endSwRoutine then wdata.getLsbD 0
      else ctrl.endSwRoutine
    entryAddress := if req.writes CtrlOffset.entryAddress then wdata else ctrl.entryAddress
    safeCopyAddress := if req.writes CtrlOffset.safeCopyAddress then wdata
      else ctrl.safeCopyAddress
    enableInterrupt := if req.writes CtrlOffset.interruptControler then wdata.getLsbD 0
      else ctrl.enableInterrupt
    statusInterrupt := if req.writes CtrlOffset.interruptControler then wdata.getLsbD 1
      else ctrl.statusInterrupt
    initialStackAddr := if req.writes CtrlOffset.initialStackAddr then wdata
      else ctrl.initialStackAddr }

theorem SafeWrapperCtrl.softwareWrite_safeCopyAddress (ctrl : SafeWrapperCtrl) {addr : BitVec 6}
    (other : addr ≠ CtrlOffset.safeCopyAddress) (wdata : Word) :
    (ctrl.softwareWrite addr wdata).safeCopyAddress = ctrl.safeCopyAddress := by
  have unwritten : (softwareReq addr wdata).writes CtrlOffset.safeCopyAddress = false := by
    unfold RegReq.writes softwareReq
    rw [beq_false_of_ne other]
    rfl
  unfold SafeWrapperCtrl.softwareWrite
  simp only [unwritten]
  rfl

theorem subregRw_quiet {α : Type} (we : Bool) (wd d q : α) :
    subregRw we wd false d q = if we then wd else q := by
  cases we <;> rfl

/-- The clocked register file does the same in a cycle without hardware updates. -/
theorem next_eq_softwareWrite (ctrl : SafeWrapperCtrl) (inp : CtrlIn) (addr : BitVec 6)
    (wdata : Word) (req : inp.req = softwareReq addr wdata) (noEnd : ctrl.endEdge = false)
    (noStart : ctrl.startFlag = false) (undriven : inp.enableInterruptDe = false) :
    { ctrl.next inp with
      externalDebugReq := ctrl.externalDebugReq, coresSleep := ctrl.coresSleep
      coresDebugMode := ctrl.coresDebugMode, dmrRec := ctrl.dmrRec, startFf := ctrl.startFf
      startFlag := ctrl.startFlag, enSwRoutineFf := ctrl.enSwRoutineFf
      interruptO := ctrl.interruptO, flagIntc := ctrl.flagIntc } =
      ctrl.softwareWrite addr wdata := by
  simp only [SafeWrapperCtrl.next, SafeWrapperCtrl.softwareWrite, noEnd, noStart, undriven,
    subregRw_quiet, req]
  rfl

/-! ## The buses -/

/-- Memory and control registers, behind the voters and comparators. -/
structure System where
  ram : Mem
  ctrl : SafeWrapperCtrl

def systemBus : Rv32.Bus System where
  load system addr :=
    if InSafeCsr addr then system.ctrl.rdata (addr.truncate 6) else ByteMemory.load system.ram addr
  store system addr value :=
    if InSafeCsr addr then
      { system with ctrl := system.ctrl.softwareWrite (addr.truncate 6) value }
    else { system with ram := ByteMemory.store system.ram addr value }

/-- The system as one hart sees it through its private crossbar. -/
structure HartView extends System where
  priv : CpuPrivateReg

def hartBus : Rv32.Bus HartView where
  load view addr :=
    if InPrivate addr then view.priv.rdata (addr.truncate 4)
    else systemBus.load view.toSystem addr
  store view addr value :=
    if InPrivate addr then { view with priv := view.priv.softwareWrite (addr.truncate 4) value }
    else { view with toSystem := systemBus.store view.toSystem addr value }

def ctrlAddr (offset : BitVec 6) : Word := safeWrapperCtrlBase + offset.zeroExtend 32

def privAddr (offset : BitVec 4) : Word := privateRegBase + offset.zeroExtend 32

section Accesses
variable (view : HartView) {addr : Word}

theorem not_safe_of_private (window : InPrivate addr) : ¬InSafeCsr addr := by
  unfold InPrivate at window
  unfold InSafeCsr
  omega

/-! Accesses by window. -/

theorem hartBus_load_private (window : InPrivate addr) :
    hartBus.load view addr = view.priv.rdata (addr.truncate 4) := if_pos window

theorem hartBus_store_private (value : Word) (window : InPrivate addr) :
    hartBus.store view addr value =
      { view with priv := view.priv.softwareWrite (addr.truncate 4) value } := if_pos window

theorem hartBus_load_safeCsr (window : InSafeCsr addr) :
    hartBus.load view addr = view.ctrl.rdata (addr.truncate 6) := by
  have outside : ¬InPrivate addr := fun inPrivate => not_safe_of_private inPrivate window
  change (if InPrivate addr then _ else if InSafeCsr addr then _ else _) = _
  rw [if_neg outside, if_pos window]

theorem hartBus_store_safeCsr (value : Word) (window : InSafeCsr addr) :
    hartBus.store view addr value =
      { view with ctrl := view.ctrl.softwareWrite (addr.truncate 6) value } := by
  have outside : ¬InPrivate addr := fun inPrivate => not_safe_of_private inPrivate window
  change (if InPrivate addr then _ else
    { view with toSystem := if InSafeCsr addr then _ else _ }) = _
  rw [if_neg outside, if_pos window]

theorem hartBus_load_memory (memory : InMemory addr) :
    hartBus.load view addr = ByteMemory.load view.ram addr := by
  change (if InPrivate addr then _ else if InSafeCsr addr then _ else _) = _
  rw [if_neg memory.1, if_neg memory.2]

theorem hartBus_store_memory (value : Word) (memory : InMemory addr) :
    hartBus.store view addr value = { view with ram := ByteMemory.store view.ram addr value } := by
  change (if InPrivate addr then _ else
    { view with toSystem := if InSafeCsr addr then _ else _ }) = _
  rw [if_neg memory.1, if_neg memory.2]

theorem hartBus_storeAll_memory (writes : List ByteMemory.Write)
    (memory : ∀ write ∈ writes, InMemory write.1) :
    hartBus.storeAll view writes =
      { view with ram := ByteMemory.storeAll view.ram writes } := by
  induction writes generalizing view with
  | nil => rfl
  | cons write rest ih =>
    have later : ∀ other ∈ rest, InMemory other.1 :=
      fun other member => memory other (List.mem_cons_of_mem _ member)
    change hartBus.storeAll (hartBus.store view write.1 write.2) rest = _
    rw [hartBus_store_memory view _ (memory write List.mem_cons_self), ih _ later]
    rfl

theorem hartBus_storeAll_ram (writes : List ByteMemory.Write) :
    (hartBus.storeAll view writes).ram =
      ByteMemory.storeAll view.ram (writes.filter fun write => InMemory write.1) := by
  induction writes generalizing view with
  | nil => rfl
  | cons write rest ih =>
    change (hartBus.storeAll (hartBus.store view write.1 write.2) rest).ram = _
    rw [ih]
    by_cases memory : InMemory write.1
    · rw [hartBus_store_memory view write.2 memory, List.filter_cons_of_pos (by simpa using memory)]
      rfl
    · rw [List.filter_cons_of_neg (by simpa using memory)]
      have kept : (hartBus.store view write.1 write.2).ram = view.ram := by
        change (if InPrivate write.1 then _ else
          { view with toSystem := if InSafeCsr write.1 then _ else _ } : HartView).ram = _
        unfold InMemory at memory
        split_ifs with private_ safe
        · rfl
        · rfl
        · exact absurd ⟨private_, safe⟩ memory
      rw [kept]

theorem hartBus_load_store_same (value : Word) (memory : InMemory addr) :
    hartBus.load (hartBus.store view addr value) addr = value := by
  rw [hartBus_store_memory view value memory, hartBus_load_memory _ memory]
  exact ByteMemory.load_store_same view.ram addr value

theorem hartBus_load_storeAll_written (writes : List ByteMemory.Write) (value : Word)
    (memory : InMemory addr)
    (only : ∀ write ∈ writes, InMemory write.1 →
      write = (addr, value) ∨ ByteMemory.Apart write.1 addr)
    (made : (addr, value) ∈ writes) :
    hartBus.load (hartBus.storeAll view writes) addr = value := by
  rw [hartBus_load_memory _ memory, hartBus_storeAll_ram]
  apply ByteMemory.load_storeAll_written
  · intro write member
    obtain ⟨inWrites, kept⟩ := List.mem_filter.mp member
    exact only write inWrites (of_decide_eq_true kept)
  · exact List.mem_filter.mpr ⟨made, decide_eq_true memory⟩

theorem hartBus_load_saved {κ : Type*} {table : List (κ × Word)} {base : Word} {held : κ → Word}
    (slots : table.Pairwise fun first second => ByteMemory.Apart first.2 second.2)
    (memory : ∀ entry ∈ table, InMemory (base + entry.2))
    {entry : κ × Word} (member : entry ∈ table) :
    hartBus.load (hartBus.storeAll view (table.map fun entry => (base + entry.2, held entry.1)))
      (base + entry.2) = held entry.1 := by
  have apart : (table.map fun entry => (base + entry.2, held entry.1)).Pairwise
      fun first second => ByteMemory.Apart first.1 second.1 := by
    rw [List.pairwise_map]
    exact slots.imp fun offsets => (ByteMemory.apart_add_iff _ _ _).mpr offsets
  have inMemory : ∀ write ∈ table.map fun entry => (base + entry.2, held entry.1),
      InMemory write.1 := by
    intro write written
    obtain ⟨other, inTable, rfl⟩ := List.mem_map.mp written
    exact memory other inTable
  rw [hartBus_storeAll_memory view _ inMemory, hartBus_load_memory _ (memory entry member)]
  exact @ByteMemory.load_storeAll_of_mem _ view.ram apart
    (base + entry.2, held entry.1) (List.mem_map_of_mem member)

theorem hartBus_load_storeAll_apart (writes : List ByteMemory.Write) (memory : InMemory addr)
    (apart : ∀ write ∈ writes, InMemory write.1 → ByteMemory.Apart write.1 addr) :
    hartBus.load (hartBus.storeAll view writes) addr = hartBus.load view addr := by
  rw [hartBus_load_memory _ memory, hartBus_load_memory _ memory, hartBus_storeAll_ram]
  apply ByteMemory.load_storeAll_apart
  intro write member
  obtain ⟨made, inMemory⟩ := List.mem_filter.mp member
  exact apart write made (by simpa using inMemory)

theorem ctrlAddr_decodes (offset : BitVec 6) :
    ¬InPrivate (ctrlAddr offset) ∧ InSafeCsr (ctrlAddr offset) ∧
      (ctrlAddr offset).truncate 6 = offset := by
  have bound := offset.isLt
  unfold InPrivate InSafeCsr ctrlAddr safeWrapperCtrlBase
  exact ⟨by bv_omega, by bv_omega, by bv_omega⟩

theorem ctrlAddr_not_memory (offset : BitVec 6) : ¬InMemory (ctrlAddr offset) :=
  fun memory => memory.2 (ctrlAddr_decodes offset).2.1

theorem hartBus_load_ctrl (offset : BitVec 6) :
    hartBus.load view (ctrlAddr offset) = view.ctrl.rdata offset := by
  obtain ⟨-, window, low⟩ := ctrlAddr_decodes offset
  rw [hartBus_load_safeCsr view window, low]

theorem hartBus_store_ctrl (offset : BitVec 6) (value : Word) :
    hartBus.store view (ctrlAddr offset) value =
      { view with ctrl := view.ctrl.softwareWrite offset value } := by
  obtain ⟨-, window, low⟩ := ctrlAddr_decodes offset
  rw [hartBus_store_safeCsr view value window, low]

theorem hartBus_storeAll_safeCopyAddress (writes : List ByteMemory.Write)
    (other : ∀ write ∈ writes, InSafeCsr write.1 →
      write.1.truncate 6 ≠ CtrlOffset.safeCopyAddress) :
    (hartBus.storeAll view writes).ctrl.safeCopyAddress = view.ctrl.safeCopyAddress := by
  induction writes generalizing view with
  | nil => rfl
  | cons write rest ih =>
    change (hartBus.storeAll (hartBus.store view write.1 write.2) rest).ctrl.safeCopyAddress = _
    rw [ih _ fun later member => other later (List.mem_cons_of_mem _ member)]
    change (if InPrivate write.1 then _ else
      { view with toSystem := if InSafeCsr write.1 then _ else _ } : HartView).ctrl.safeCopyAddress = _
    split_ifs with private_ safe
    · rfl
    · exact SafeWrapperCtrl.softwareWrite_safeCopyAddress _
        (other write List.mem_cons_self safe) write.2
    · rfl

theorem hartBus_storeAll_ctrl (writes : List ByteMemory.Write)
    (outside : ∀ write ∈ writes, ¬InSafeCsr write.1) :
    (hartBus.storeAll view writes).ctrl = view.ctrl := by
  induction writes generalizing view with
  | nil => rfl
  | cons write rest ih =>
    change (hartBus.storeAll (hartBus.store view write.1 write.2) rest).ctrl = _
    rw [ih _ fun later member => outside later (List.mem_cons_of_mem _ member)]
    change (if InPrivate write.1 then _ else
      { view with toSystem := if InSafeCsr write.1 then _ else _ } : HartView).ctrl = _
    rw [if_neg (outside write List.mem_cons_self)]
    split_ifs <;> rfl

theorem privAddr_decodes (offset : BitVec 4) :
    InPrivate (privAddr offset) ∧ (privAddr offset).truncate 4 = offset := by
  have bound := offset.isLt
  unfold InPrivate privAddr privateRegBase
  exact ⟨by bv_omega, by bv_omega⟩

theorem privAddr_not_memory (offset : BitVec 4) : ¬InMemory (privAddr offset) :=
  fun memory => memory.1 (privAddr_decodes offset).1

end Accesses

end Eros
