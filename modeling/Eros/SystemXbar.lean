import Eros.ArbiterRuns
import Eros.DataRoute
import Eros.GenRom
import Eros.Lib.SharedMemory
import Eros.RegBus
import Eros.XbarVarlat
import Mathlib.Data.List.Nodup

/-!
# The system crossbar with memory and boot ROM

The two banks of `memory_sys` and the boot ROM of `periph_system` grant every
request and answer it in the next cycle.  The macro in a bank is a parameter;
what is used of it are its read, its write by byte lanes, and that it keeps its
words otherwise.  External and error slave may answer anything at any time.
-/

set_option autoImplicit false

namespace Eros

open ErosPkg ByteMemory SharedMemory

/-! ## `memory_sys` -/

structure SramIn where
  reqI : Bool
  weI : Bool
  addrI : BitVec 13
  wdataI : Word
  beI : BitVec 4

/-- The macro of `sram_wrapper`: its clock edge, its output and the words it holds. -/
structure SramMacro (S : Type*) where
  next : S → SramIn → S
  rdataO : S → Word
  contents : S → BitVec 13 → Word

structure SramMacro.Lawful {S : Type*} (sram : SramMacro S) : Prop where
  keeps : ∀ state inp, (inp.reqI && inp.weI) = false →
    sram.contents (sram.next state inp) = sram.contents state
  reads : ∀ state inp, inp.reqI = true → inp.weI = false →
    sram.rdataO (sram.next state inp) = sram.contents state inp.addrI
  writes : ∀ state inp, inp.reqI = true → inp.weI = true →
    sram.contents (sram.next state inp) =
      Function.update (sram.contents state) inp.addrI
        (mergeLanes inp.beI (sram.contents state inp.addrI) inp.wdataI)

structure MemorySys (S : Type*) where
  ramValidQ : Fin 2 → Bool
  banks : Fin 2 → S

namespace MemorySys
variable {S : Type*} (sram : SramMacro S) (memory : MemorySys S) (ramReqI : Fin 2 → ObiReq)

def ramRespO (bank : Fin 2) : ObiResp where
  gnt := (ramReqI bank).req
  rvalid := memory.ramValidQ bank
  rdata := sram.rdataO (memory.banks bank)

def sramIn (bank : Fin 2) : SramIn where
  reqI := (ramReqI bank).req
  weI := (ramReqI bank).we
  addrI := (ramReqI bank).addr.extractLsb' 2 13
  wdataI := (ramReqI bank).wdata
  beI := (ramReqI bank).be

def next : MemorySys S where
  ramValidQ bank := (memory.ramRespO sram ramReqI bank).gnt
  banks bank := sram.next (memory.banks bank) (sramIn ramReqI bank)

end MemorySys

/-! ## `periph_system` -/

def debugBootromIdx : Fin 1 := ⟨0, Nat.one_pos⟩

def debugBootromStartAddress : Word := peripheralStartAddress globalBaseAddress
def debugBootromEndAddress : Word := debugBootromStartAddress + 0x1000

def peripheralsAddrRules : List (AddrMapRule (Fin 1)) :=
  [⟨debugBootromIdx, debugBootromStartAddress, debugBootromEndAddress⟩]

/-- The only peripheral is also taken for an address outside its rule. -/
def peripheralSelect (addr : Word) : Fin 1 := addrDecode peripheralsAddrRules debugBootromIdx addr

def cbBootRomRsp (regReqI : RegBusReq) : RegBusRsp := ⟨false, true, cbBootRom regReqI.addr⟩

def peripheralSlvRsp (slvReq : Fin 1 → RegBusReq) : Fin 1 → RegBusRsp
  | ⟨0, _⟩ => cbBootRomRsp (slvReq debugBootromIdx)

def peripheralRsp (peripheralReq : RegBusReq) : RegBusRsp :=
  regDemuxRsp (peripheralSelect peripheralReq.addr)
    (peripheralSlvRsp (regDemuxReq (peripheralSelect peripheralReq.addr) peripheralReq))

theorem peripheralRsp_eq (peripheralReq : RegBusReq) :
    peripheralRsp peripheralReq = ⟨false, true, cbBootRom peripheralReq.addr⟩ := by
  unfold peripheralRsp regDemuxRsp regDemuxReq
  rw [Subsingleton.elim (peripheralSelect peripheralReq.addr) debugBootromIdx]
  rfl

/-! ## The words of the banks -/

def ramIdx : Fin 2 → Fin 5
  | 0 => memoryRam0Idx
  | 1 => memoryRam1Idx

def InRam (addr : Word) : Prop := 0xf0020000 ≤ addr.toNat ∧ addr.toNat < 0xf0030000

instance (addr : Word) : Decidable (InRam addr) := by unfold InRam; infer_instance

def wordOf (addr : Word) : Word := addr >>> 2 <<< 2

def wordAddr (bank : Fin 2) (index : BitVec 13) : Word :=
  BitVec.ofNat 32 (0xf0020000 + 0x8000 * bank + 4 * index.toNat)

theorem portSel_ramIdx_iff (addr : Word) (bank : Fin 2) :
    portSel addr = ramIdx bank ↔
      0xf0020000 + 0x8000 * (bank : Nat) ≤ addr.toNat ∧
        addr.toNat < 0xf0028000 + 0x8000 * (bank : Nat) := by
  have banks : bank = 0 ∨ bank = 1 := by omega
  unfold portSel
  rw [xbarAddrRules_eq]
  simp only [addrDecode_cons, addrDecode_nil]
  split_ifs with error peripheral external ram0 ram1
  · rw [AddrMapRule.matches_iff_of_end _ _ (by decide)] at error
    obtain rfl | rfl := banks
    · exact iff_of_false (by decide) (by simp at error; omega)
    · exact iff_of_false (by decide) (by simp at error; omega)
  · rw [AddrMapRule.matches_iff_of_end _ _ (by decide)] at peripheral
    obtain rfl | rfl := banks
    · exact iff_of_false (by decide) (by simp at peripheral; omega)
    · exact iff_of_false (by decide) (by simp at peripheral; omega)
  · rw [AddrMapRule.matches_iff_of_end _ _ (by decide)] at external
    obtain rfl | rfl := banks
    · exact iff_of_false (by decide) (by simp at external; omega)
    · exact iff_of_false (by decide) (by simp at external; omega)
  · rw [AddrMapRule.matches_iff_of_end _ _ (by decide)] at ram0
    obtain rfl | rfl := banks
    · exact iff_of_true rfl (by simp at ram0; simp; omega)
    · exact iff_of_false (by decide) (by simp at ram0; simp; omega)
  · rw [AddrMapRule.matches_iff_of_end _ _ (by decide)] at ram1
    obtain rfl | rfl := banks
    · exact iff_of_false (by decide) (by simp at ram1; simp; omega)
    · exact iff_of_true rfl (by simp at ram1; simp; omega)
  · rw [AddrMapRule.matches_iff_of_end _ _ (by decide)] at ram0 ram1
    obtain rfl | rfl := banks
    · exact iff_of_false (by decide) (by simp at ram0; simp; omega)
    · exact iff_of_false (by decide) (by simp at ram1; simp; omega)

theorem inRam_iff (addr : Word) : InRam addr ↔ ∃ bank, portSel addr = ramIdx bank := by
  simp only [portSel_ramIdx_iff, Fin.exists_fin_two, InRam]
  simp only [Fin.val_zero, Fin.val_one]
  omega

theorem wordOf_toNat (addr : Word) : (wordOf addr).toNat = addr.toNat / 4 * 4 := by
  have bound := addr.isLt
  unfold wordOf
  rw [BitVec.toNat_shiftLeft, BitVec.toNat_ushiftRight, Nat.shiftRight_eq_div_pow,
    Nat.shiftLeft_eq, Nat.mod_eq_of_lt (by omega)]

theorem wordOf_of_aligned {addr : Word} (aligned : addr.toNat % 4 = 0) : wordOf addr = addr := by
  apply BitVec.eq_of_toNat_eq
  rw [wordOf_toNat]
  omega

theorem wordAddr_toNat (bank : Fin 2) (index : BitVec 13) :
    (wordAddr bank index).toNat = 0xf0020000 + 0x8000 * bank + 4 * index.toNat := by
  have bound := index.isLt
  unfold wordAddr
  rw [BitVec.toNat_ofNat, Nat.mod_eq_of_lt (by omega)]

theorem wordOf_eq {addr : Word} {bank : Fin 2} (selected : portSel addr = ramIdx bank) :
    wordOf addr = wordAddr bank (addr.extractLsb' 2 13) := by
  rw [portSel_ramIdx_iff] at selected
  apply BitVec.eq_of_toNat_eq
  rw [wordOf_toNat, wordAddr_toNat, BitVec.extractLsb'_toNat, Nat.shiftRight_eq_div_pow]
  omega

theorem wordAddr_apart {bank other : Fin 2} {index position : BitVec 13}
    (different : (bank, index) ≠ (other, position)) :
    Apart (wordAddr bank index) (wordAddr other position) := by
  have places : (bank : Nat) ≠ other ∨ index.toNat ≠ position.toNat := by
    by_contra same
    rw [not_or, not_not, not_not] at same
    exact different (Prod.ext (Fin.ext same.1) (BitVec.eq_of_toNat_eq same.2))
  have left := wordAddr_toNat bank index
  have right := wordAddr_toNat other position
  have bound := index.isLt
  have bound' := position.isLt
  unfold Apart
  constructor <;> (rw [BitVec.toNat_sub]; omega)

def wordAt (bank : Fin 2) (index : BitVec 13) (mem : Mem) : Word := load mem (wordAddr bank index)

/-! ## One access -/

/-- What a granted access does to the memory. -/
def access {Port : Type*} (mem : Mem) (op : Port × ObiReq) : Mem :=
  if op.2.we then storeLanes mem (wordOf op.2.addr) op.2.be op.2.wdata else mem

theorem wordAt_access {Port : Type*} (mem : Mem) (op : Port × ObiReq) {bank : Fin 2}
    (selected : portSel op.2.addr = ramIdx bank) (index : BitVec 13) :
    wordAt bank index (access mem op) =
      if op.2.we = true ∧ index = op.2.addr.extractLsb' 2 13 then
        mergeLanes op.2.be (wordAt bank index mem) op.2.wdata
      else wordAt bank index mem := by
  unfold access wordAt
  rw [wordOf_eq selected]
  by_cases writes : op.2.we = true
  · rw [if_pos writes]
    by_cases same : index = op.2.addr.extractLsb' 2 13
    · rw [if_pos ⟨writes, same⟩, same]
      exact load_storeLanes_same mem _ op.2.be op.2.wdata
    · rw [if_neg fun both => same both.2]
      refine load_storeLanes_apart mem op.2.be op.2.wdata (wordAddr_apart fun both => ?_)
      exact same (congrArg Prod.snd both).symm
  · rw [if_neg writes, if_neg fun both => writes both.1]

theorem access_local {Port : Type*} (op : Port × ObiReq) {bank : Fin 2}
    (selected : portSel op.2.addr = ramIdx bank) (index : BitVec 13) :
    Local access (wordAt bank index) op := by
  intro mem other same
  rw [wordAt_access mem op selected, wordAt_access other op selected, same]

theorem access_leaves {Port : Type*} (op : Port × ObiReq) {bank other : Fin 2}
    (selected : portSel op.2.addr = ramIdx other) (different : other ≠ bank) (index : BitVec 13) :
    Leaves access (wordAt bank index) op := by
  intro mem
  unfold access wordAt
  split_ifs with writes
  · rw [wordOf_eq selected]
    refine load_storeLanes_apart mem op.2.be op.2.wdata (wordAddr_apart fun both => ?_)
    exact different (congrArg Prod.fst both)
  · rfl

/-- A store of a whole aligned word is the store of the harts' memory. -/
theorem access_word {Port : Type*} (mem : Mem) (op : Port × ObiReq) (writes : op.2.we = true)
    (whole : op.2.be = 0b1111) (aligned : op.2.addr.toNat % 4 = 0) :
    access mem op = store mem op.2.addr op.2.wdata := by
  unfold access
  rw [if_pos writes, wordOf_of_aligned aligned, whole, storeLanes_all]

/-! ## The crossbar in front of them -/

structure SystemXbar (S : Type*) (masters : Nat) where
  xbar : XbarVarlat masters 5
  memory : MemorySys S
  periph : PeriphToReg

/-- The masters' requests and the other slaves; the error slave has no driver. -/
structure SystemXbarIn (masters : Nat) where
  masterReqI : Fin masters → ObiReq
  errorSlaveResp : ObiResp
  extSlaveResp : ObiResp

namespace SystemXbar
variable {S : Type*} {masters : Nat} (sram : SramMacro S) (bus : SystemXbar S masters)
  (inp : SystemXbarIn masters)

/-- `int_slave_resp`, with the grants `gnt` of memory and peripherals. -/
def intSlaveResp (gnt : Fin 5 → Bool) : Fin 5 → ObiResp
  | 0 => inp.errorSlaveResp
  | 1 => ⟨gnt 1, bus.periph.rValidQ, bus.periph.rRdataQ⟩
  | 2 => inp.extSlaveResp
  | 3 => ⟨gnt 3, bus.memory.ramValidQ 0, sram.rdataO (bus.memory.banks 0)⟩
  | 4 => ⟨gnt 4, bus.memory.ramValidQ 1, sram.rdataO (bus.memory.banks 1)⟩

/-- The wires of the crossbar under these grants. -/
def wires (gnt : Fin 5 → Bool) : XbarVarlatIn masters 5 where
  masterReqI := inp.masterReqI
  addI master := portSel (inp.masterReqI master).addr
  gntI slave := (bus.intSlaveResp sram inp gnt slave).gnt
  vldI slave := (bus.intSlaveResp sram inp gnt slave).rvalid
  rdataI slave := (bus.intSlaveResp sram inp gnt slave).rdata

/-- `int_slave_req`: the requests come before the grants of the cycle. -/
def intSlaveReq (slave : Fin 5) : ObiReq :=
  bus.xbar.slaveReqO (bus.wires sram inp fun _ => false) slave

def ramReq (bank : Fin 2) : ObiReq := bus.intSlaveReq sram inp (ramIdx bank)

def peripheralReq : ObiReq := bus.intSlaveReq sram inp peripheralIdx

/-- What the register side answers to the request at the bridge. -/
def regRsp : RegBusRsp := peripheralRsp (PeriphToReg.regReqO (bus.peripheralReq sram inp))

def gnt : Fin 5 → Bool
  | 1 => (bus.periph.slaveRespO (bus.peripheralReq sram inp) (bus.regRsp sram inp)).gnt
  | 3 => (bus.memory.ramRespO sram (bus.ramReq sram inp) 0).gnt
  | 4 => (bus.memory.ramRespO sram (bus.ramReq sram inp) 1).gnt
  | _ => false

def xbarIn : XbarVarlatIn masters 5 := bus.wires sram inp (bus.gnt sram inp)

def masterRespO (master : Fin masters) : ObiResp :=
  bus.xbar.masterRespO (bus.xbarIn sram inp) master

def next : SystemXbar S masters where
  xbar := bus.xbar.next (bus.xbarIn sram inp)
  memory := bus.memory.next sram (bus.ramReq sram inp)
  periph := PeriphToReg.next (bus.peripheralReq sram inp) (bus.regRsp sram inp)

def masterGranted (master : Fin masters) : Bool :=
  bus.xbar.masterGranted (bus.xbarIn sram inp) master

/-- The accesses to the banks that are granted in this cycle. -/
def granted : List (Fin masters × ObiReq) :=
  ((List.finRange masters).filter fun master =>
    bus.masterGranted sram inp master && decide (InRam (inp.masterReqI master).addr)).map
      fun master => (master, inp.masterReqI master)

/-- The answer registers of memory and peripherals. -/
def validQ : Fin 5 → Bool
  | 1 => bus.periph.rValidQ
  | 3 => bus.memory.ramValidQ 0
  | 4 => bus.memory.ramValidQ 1
  | _ => false

end SystemXbar

def systemXbar {S : Type*} (masters : Nat) (sram : SramMacro S) (start : Fin 2 → S) :
    Synchronous.Machine (SystemXbar S masters) (SystemXbarIn masters) where
  init := ⟨.reset masters 5, ⟨fun _ => false, start⟩, .reset⟩
  next := SystemXbar.next sram

/-- The slaves that grant every request and answer in the next cycle. -/
def Prompt (slave : Fin 5) : Prop := slave ≠ errorIdx ∧ slave ≠ externalPeripheralIdx

theorem prompt_ramIdx (bank : Fin 2) : Prompt (ramIdx bank) := by
  revert bank
  unfold Prompt
  decide

theorem prompt_peripheralIdx : Prompt peripheralIdx := by
  unfold Prompt
  decide

theorem Prompt.cases {slave : Fin 5} (prompt : Prompt slave) :
    slave = peripheralIdx ∨ slave = ramIdx 0 ∨ slave = ramIdx 1 := by
  revert prompt slave
  unfold Prompt
  decide

section Cycle
variable {S : Type*} {masters : Nat} {sram : SramMacro S} {bus : SystemXbar S masters}
  {inp : SystemXbarIn masters}

/-- The requests at the slaves do not depend on the grants. -/
theorem slaveReqO_eq (slave : Fin 5) :
    bus.xbar.slaveReqO (bus.xbarIn sram inp) slave = bus.intSlaveReq sram inp slave := by
  have answers : (bus.xbarIn sram inp).vldI = (bus.wires sram inp fun _ => false).vldI := by
    funext slave
    fin_cases slave <;> rfl
  have requests : (bus.xbarIn sram inp).masterReqI =
      (bus.wires sram inp fun _ => false).masterReqI := rfl
  exact slaveReqO_congr requests rfl answers _

theorem Prompt.gntI {slave : Fin 5} (prompt : Prompt slave) :
    (bus.xbarIn sram inp).gntI slave = (bus.intSlaveReq sram inp slave).req := by
  rcases prompt.cases with rfl | rfl | rfl
  · change ((bus.peripheralReq sram inp).req && (bus.regRsp sram inp).ready) = _
    rw [SystemXbar.regRsp, peripheralRsp_eq, Bool.and_true]
    rfl
  · rfl
  · rfl

theorem Prompt.vldI {slave : Fin 5} (prompt : Prompt slave) :
    (bus.xbarIn sram inp).vldI slave = bus.validQ slave := by
  rcases prompt.cases with rfl | rfl | rfl <;> rfl

theorem Prompt.validQ_next {slave : Fin 5} (prompt : Prompt slave) :
    (bus.next sram inp).validQ slave = (bus.intSlaveReq sram inp slave).req := by
  rcases prompt.cases with rfl | rfl | rfl
  · change ((bus.peripheralReq sram inp).req && (bus.regRsp sram inp).ready) = _
    rw [SystemXbar.regRsp, peripheralRsp_eq, Bool.and_true]
    rfl
  · rfl
  · rfl

theorem Prompt.slaveGranted {slave : Fin 5} (prompt : Prompt slave) :
    bus.xbar.slaveGranted (bus.xbarIn sram inp) slave =
      (bus.intSlaveReq sram inp slave).req := by
  unfold XbarVarlat.slaveGranted
  rw [slaveReqO_eq, prompt.gntI, Bool.and_self]

theorem rdataI_ramIdx (bank : Fin 2) :
    (bus.xbarIn sram inp).rdataI (ramIdx bank) = sram.rdataO (bus.memory.banks bank) := by
  fin_cases bank <;> rfl

theorem mem_granted {op : Fin masters × ObiReq} :
    op ∈ bus.granted sram inp ↔
      bus.masterGranted sram inp op.1 = true ∧ op.2 = inp.masterReqI op.1 ∧ InRam op.2.addr := by
  obtain ⟨master, request⟩ := op
  simp only [SystemXbar.granted, List.mem_map, List.mem_filter, List.mem_finRange, true_and,
    Bool.and_eq_true, decide_eq_true_eq, Prod.mk.injEq]
  constructor
  · rintro ⟨_, ⟨grants, inside⟩, rfl, rfl⟩
    exact ⟨grants, rfl, inside⟩
  · rintro ⟨grants, rfl, inside⟩
    exact ⟨master, ⟨grants, inside⟩, rfl, rfl⟩

theorem granted_nodup : (bus.granted sram inp).Nodup := by
  refine List.Nodup.map (fun left right same => congrArg Prod.fst same) ?_
  exact (List.nodup_finRange masters).filter _

variable (several : 2 ≤ masters)
include several

theorem slGnt_of_masterGranted {slave : Fin 5} {master : Fin masters}
    (granted : bus.masterGranted sram inp master = true)
    (selected : portSel (inp.masterReqI master).addr = slave) :
    bus.xbar.slGnt (bus.xbarIn sram inp) slave master = true :=
  (slGnt_iff several).mpr ⟨granted, selected.symm⟩

theorem intSlaveReq_of_slGnt {slave : Fin 5} {master : Fin masters}
    (granted : bus.xbar.slGnt (bus.xbarIn sram inp) slave master = true) :
    bus.intSlaveReq sram inp slave = inp.masterReqI master ∧
      (bus.intSlaveReq sram inp slave).req = true := by
  have passed := slaveGranted_of_slGnt several granted
  obtain ⟨owner, grants, request⟩ := exists_slGnt several passed
  rw [grants, decide_eq_true_eq] at granted
  rw [slaveReqO_eq] at request
  unfold XbarVarlat.slaveGranted at passed
  rw [slaveReqO_eq, Bool.and_eq_true] at passed
  refine ⟨?_, passed.1⟩
  rw [request, granted]
  rfl

theorem granted_unique {bank : Fin 2} {op other : Fin masters × ObiReq}
    (member : op ∈ bus.granted sram inp) (selected : portSel op.2.addr = ramIdx bank)
    (also : other ∈ bus.granted sram inp) (same : portSel other.2.addr = ramIdx bank) :
    other = op := by
  obtain ⟨first, request, -⟩ := mem_granted.mp member
  obtain ⟨second, request', -⟩ := mem_granted.mp also
  rw [request] at selected
  rw [request'] at same
  have wins := slGnt_of_masterGranted several first selected
  obtain ⟨master, grants, -⟩ := exists_slGnt several (slaveGranted_of_slGnt several wins)
  have wins' := slGnt_of_masterGranted several second same
  rw [grants, decide_eq_true_eq] at wins wins'
  exact Prod.ext (wins'.trans wins.symm) (by rw [request, request', wins, wins'])

theorem served_of_req {bank : Fin 2} (requested : (bus.ramReq sram inp bank).req = true) :
    ∃ op ∈ bus.granted sram inp, op.2 = bus.ramReq sram inp bank ∧
      portSel op.2.addr = ramIdx bank := by
  have passed : bus.xbar.slaveGranted (bus.xbarIn sram inp) (ramIdx bank) = true :=
    (prompt_ramIdx bank).slaveGranted.trans requested
  obtain ⟨master, grants, -⟩ := exists_slGnt several passed
  have wins : bus.xbar.slGnt (bus.xbarIn sram inp) (ramIdx bank) master = true := by
    rw [grants, decide_eq_true_eq]
  obtain ⟨handshake, target⟩ := (slGnt_iff several).mp wins
  have selected : portSel (inp.masterReqI master).addr = ramIdx bank := target.symm
  refine ⟨(master, inp.masterReqI master), ?_, (intSlaveReq_of_slGnt several wins).1.symm,
    selected⟩
  exact mem_granted.mpr ⟨handshake, rfl, (inRam_iff _).mpr ⟨bank, selected⟩⟩

/-- Of the accesses of a cycle the words of a bank see the one that it serves. -/
theorem wordAt_serve_granted (mem : Mem) {bank : Fin 2} {op : Fin masters × ObiReq}
    (member : op ∈ bus.granted sram inp) (selected : portSel op.2.addr = ramIdx bank)
    (index : BitVec 13) :
    wordAt bank index (serve access mem (bus.granted sram inp)) =
      wordAt bank index (access mem op) := by
  have left : ∀ other ∈ bus.granted sram inp, other ≠ op →
      Leaves access (wordAt bank index) other := by
    intro other inside different
    obtain ⟨place, elsewhere⟩ := (inRam_iff _).mp (mem_granted.mp inside).2.2
    refine access_leaves other elsewhere (fun same => different ?_) index
    exact granted_unique several member selected inside (same ▸ elsewhere)
  exact view_serve_of_one mem member (access_local op selected index) granted_nodup left

theorem not_served_of_quiet {bank : Fin 2} (quiet : (bus.ramReq sram inp bank).req = false)
    {op : Fin masters × ObiReq} (member : op ∈ bus.granted sram inp) :
    portSel op.2.addr ≠ ramIdx bank := by
  intro selected
  obtain ⟨handshake, request, -⟩ := mem_granted.mp member
  rw [request] at selected
  have asked := (intSlaveReq_of_slGnt several
    (slGnt_of_masterGranted several handshake selected)).2
  rw [← SystemXbar.ramReq, quiet] at asked
  cases asked

end Cycle

/-! ## The memory over a run -/

section Run
variable {S : Type*} {masters : Nat} (sram : SramMacro S) (start : Fin 2 → S)
  (inputs : Nat → SystemXbarIn masters)

def busAt : Nat → SystemXbar S masters := (systemXbar masters sram start).run inputs

/-- The accesses granted in the cycles before, in the order of their cycles, on a
memory that begins as `mem`. -/
def serialMemory (mem : Mem) (cycle : Nat) : Mem :=
  serve access mem (history (fun earlier => (busAt sram start inputs earlier).granted sram
    (inputs earlier)) cycle)

/-- The banks hold the words of the memory. -/
def Holds (banks : Fin 2 → S) (mem : Mem) : Prop :=
  ∀ bank index, sram.contents (banks bank) index = wordAt bank index mem

variable {sram start inputs} (lawful : sram.Lawful) (several : 2 ≤ masters)

theorem busAt_succ (cycle : Nat) :
    busAt sram start inputs (cycle + 1) =
      (busAt sram start inputs cycle).next sram (inputs cycle) := rfl

include lawful several

theorem holds_next {bus : SystemXbar S masters} {inp : SystemXbarIn masters} {mem : Mem}
    (holds : Holds sram bus.memory.banks mem) :
    Holds sram (bus.next sram inp).memory.banks (serve access mem (bus.granted sram inp)) := by
  intro bank index
  change sram.contents (sram.next (bus.memory.banks bank)
    (MemorySys.sramIn (bus.ramReq sram inp) bank)) index = _
  cases requested : (bus.ramReq sram inp bank).req with
  | true =>
    obtain ⟨op, member, request, selected⟩ := served_of_req several requested
    rw [wordAt_serve_granted several mem member selected, wordAt_access mem op selected, request]
    have req : (MemorySys.sramIn (bus.ramReq sram inp) bank).reqI = true := requested
    cases writes : (bus.ramReq sram inp bank).we with
    | true =>
      have we : (MemorySys.sramIn (bus.ramReq sram inp) bank).weI = true := writes
      have place : (MemorySys.sramIn (bus.ramReq sram inp) bank).addrI =
          (bus.ramReq sram inp bank).addr.extractLsb' 2 13 := rfl
      rw [lawful.writes _ _ req we, Function.update_apply, place]
      simp only [true_and]
      by_cases same : index = (bus.ramReq sram inp bank).addr.extractLsb' 2 13
      · rw [if_pos same, if_pos same, ← same, holds]
        rfl
      · rw [if_neg same, if_neg same, holds]
    | false =>
      have we : (MemorySys.sramIn (bus.ramReq sram inp) bank).weI = false := writes
      rw [lawful.keeps _ _ (by rw [we, Bool.and_false])]
      simpa using holds bank index
  | false =>
    have req : (MemorySys.sramIn (bus.ramReq sram inp) bank).reqI = false := requested
    have left : ∀ other ∈ bus.granted sram inp, Leaves access (wordAt bank index) other := by
      intro other inside
      obtain ⟨place, elsewhere⟩ := (inRam_iff _).mp (mem_granted.mp inside).2.2
      refine access_leaves other elsewhere (fun same => ?_) index
      exact not_served_of_quiet several requested inside (same ▸ elsewhere)
    rw [lawful.keeps _ _ (by rw [req, Bool.false_and]), view_serve_of_leaves mem left]
    exact holds bank index

theorem holds_run {mem : Mem} (holds : Holds sram start mem) (cycle : Nat) :
    Holds sram (busAt sram start inputs cycle).memory.banks
      (serialMemory sram start inputs mem cycle) := by
  induction cycle with
  | zero => exact holds
  | succ cycle ih =>
    unfold serialMemory
    rw [serve_history_succ]
    exact holds_next lawful several ih

end Run

/-! ## Answers -/

/-- The ports that wait for a prompt slave are answered in this cycle. -/
def PromptAnswers {S : Type*} {masters : Nat} (bus : SystemXbar S masters) : Prop :=
  ∀ slave master, Prompt slave → bus.xbar.waitsFor slave master = true →
    bus.validQ slave = true

section Answers
variable {S : Type*} {masters : Nat} {sram : SramMacro S} (several : 2 ≤ masters)
include several

section Step
variable {bus : SystemXbar S masters} {inp : SystemXbarIn masters} {slave : Fin 5}
  (prompt : Prompt slave)
include prompt

theorem waitsFor_prompt_next (answers : PromptAnswers bus) (master : Fin masters) :
    (bus.next sram inp).xbar.waitsFor slave master =
      bus.xbar.slGnt (bus.xbarIn sram inp) slave master := by
  have moved : (bus.next sram inp).xbar.waitsFor slave master = _ :=
    waitsFor_next several slave master
  rw [moved, prompt.vldI]
  cases waits : bus.xbar.waitsFor slave master with
  | false => simp
  | true => simp [answers slave master prompt waits]

theorem validQ_of_slGnt {master : Fin masters}
    (granted : bus.xbar.slGnt (bus.xbarIn sram inp) slave master = true) :
    (bus.next sram inp).validQ slave = true :=
  prompt.validQ_next.trans (intSlaveReq_of_slGnt several granted).2

omit prompt in
theorem promptAnswers_next (answers : PromptAnswers bus) :
    PromptAnswers (bus.next sram inp) := by
  intro slave master prompt waits
  rw [waitsFor_prompt_next several prompt answers] at waits
  exact validQ_of_slGnt several prompt waits

end Step

variable {start : Fin 2 → S} {inputs : Nat → SystemXbarIn masters}

theorem promptAnswers_run (cycle : Nat) : PromptAnswers (busAt sram start inputs cycle) := by
  induction cycle with
  | zero =>
    intro slave master _ waits
    cases waits
  | succ cycle ih => exact promptAnswers_next several ih

theorem answered_of_granted {slave : Fin 5} (prompt : Prompt slave) {master : Fin masters}
    {cycle : Nat}
    (granted : (busAt sram start inputs cycle).masterGranted sram (inputs cycle) master = true)
    (selected : portSel ((inputs cycle).masterReqI master).addr = slave) :
    (busAt sram start inputs cycle).intSlaveReq sram (inputs cycle) slave =
        (inputs cycle).masterReqI master ∧
      ((busAt sram start inputs cycle).intSlaveReq sram (inputs cycle) slave).req = true ∧
      ((busAt sram start inputs (cycle + 1)).masterRespO sram (inputs (cycle + 1))
        master).rvalid = true ∧
      ((busAt sram start inputs (cycle + 1)).masterRespO sram (inputs (cycle + 1))
        master).rdata =
          ((busAt sram start inputs (cycle + 1)).xbarIn sram (inputs (cycle + 1))).rdataI
            slave := by
  have answers : PromptAnswers (busAt sram start inputs cycle) := promptAnswers_run several cycle
  have given := slGnt_of_masterGranted several granted selected
  obtain ⟨request, requested⟩ := intSlaveReq_of_slGnt several given
  have waits : (busAt sram start inputs (cycle + 1)).xbar.waitsFor slave master = true :=
    (waitsFor_prompt_next several prompt answers master).trans given
  refine ⟨request, requested, ?_, rdata_of_waitsFor waits⟩
  unfold SystemXbar.masterRespO
  rw [rvalid_of_waitsFor waits, prompt.vldI]
  exact validQ_of_slGnt several prompt given

theorem waits_iff_granted {slave : Fin 5} (prompt : Prompt slave) (master : Fin masters)
    (cycle : Nat) :
    (busAt sram start inputs (cycle + 1)).xbar.waitsFor slave master = true ↔
      (busAt sram start inputs cycle).masterGranted sram (inputs cycle) master = true ∧
        portSel ((inputs cycle).masterReqI master).addr = slave := by
  have answers : PromptAnswers (busAt sram start inputs cycle) := promptAnswers_run several cycle
  rw [busAt_succ, waitsFor_prompt_next several prompt answers, slGnt_iff several]
  exact and_congr_right fun _ => eq_comm

/-- A read of a bank gets the word that all accesses granted in earlier cycles leave
behind. -/
theorem rdata_of_ram_read (lawful : sram.Lawful) {mem : Mem} (holds : Holds sram start mem)
    {master : Fin masters} {bank : Fin 2} {cycle : Nat}
    (granted : (busAt sram start inputs cycle).masterGranted sram (inputs cycle) master = true)
    (selected : portSel ((inputs cycle).masterReqI master).addr = ramIdx bank)
    (reads : ((inputs cycle).masterReqI master).we = false) :
    ((busAt sram start inputs (cycle + 1)).xbarIn sram (inputs (cycle + 1))).rdataI (ramIdx bank) =
      load (serialMemory sram start inputs mem cycle)
        (wordOf ((inputs cycle).masterReqI master).addr) := by
  have held : Holds sram (busAt sram start inputs cycle).memory.banks
      (serialMemory sram start inputs mem cycle) := holds_run lawful several holds cycle
  obtain ⟨request, requested, -, -⟩ :=
    answered_of_granted several (prompt_ramIdx bank) granted selected
  rw [rdataI_ramIdx, wordOf_eq selected]
  have read := lawful.reads ((busAt sram start inputs cycle).memory.banks bank)
    (MemorySys.sramIn ((busAt sram start inputs cycle).ramReq sram (inputs cycle)) bank)
    requested (by rw [← request] at reads; exact reads)
  exact read.trans ((held bank _).trans (by rw [← request]; rfl))

/-- Every granted access to the banks is answered in the next cycle, by its bank
alone, and a read with the word that all accesses granted in earlier cycles leave
behind; the banks hold the words of that memory throughout.  The other slaves do
not matter. -/
theorem bus_memory_is_serial (lawful : sram.Lawful) {mem : Mem} (holds : Holds sram start mem)
    (cycle : Nat) :
    Holds sram (busAt sram start inputs cycle).memory.banks
        (serialMemory sram start inputs mem cycle) ∧
      ∀ master bank,
        ((busAt sram start inputs (cycle + 1)).xbar.waitsFor (ramIdx bank) master = true ↔
          (busAt sram start inputs cycle).masterGranted sram (inputs cycle) master = true ∧
            portSel ((inputs cycle).masterReqI master).addr = ramIdx bank) ∧
        ((busAt sram start inputs cycle).masterGranted sram (inputs cycle) master = true →
          portSel ((inputs cycle).masterReqI master).addr = ramIdx bank →
            ((busAt sram start inputs (cycle + 1)).masterRespO sram (inputs (cycle + 1))
              master).rvalid = true ∧
            (((inputs cycle).masterReqI master).we = false →
              ((busAt sram start inputs (cycle + 1)).masterRespO sram (inputs (cycle + 1))
                  master).rdata =
                load (serialMemory sram start inputs mem cycle)
                  (wordOf ((inputs cycle).masterReqI master).addr))) := by
  refine ⟨holds_run lawful several holds cycle,
    fun master bank => ⟨waits_iff_granted several (prompt_ramIdx bank) master cycle,
      fun granted selected => ?_⟩⟩
  obtain ⟨-, -, valid, data⟩ :=
    answered_of_granted several (prompt_ramIdx bank) granted selected
  exact ⟨valid, fun reads =>
    data.trans (rdata_of_ram_read several lawful holds granted selected reads)⟩

theorem rdata_of_boot_rom {master : Fin masters} {cycle : Nat}
    (granted : (busAt sram start inputs cycle).masterGranted sram (inputs cycle) master = true)
    (selected : portSel ((inputs cycle).masterReqI master).addr = peripheralIdx) :
    ((busAt sram start inputs (cycle + 1)).xbarIn sram (inputs (cycle + 1))).rdataI
        peripheralIdx = cbBootRom ((inputs cycle).masterReqI master).addr := by
  obtain ⟨request, -, -, -⟩ := answered_of_granted several prompt_peripheralIdx granted selected
  have register : (busAt sram start inputs (cycle + 1)).periph.rRdataQ =
      ((busAt sram start inputs cycle).regRsp sram (inputs cycle)).rdata := rfl
  change (busAt sram start inputs (cycle + 1)).periph.rRdataQ = _
  have addr : (PeriphToReg.regReqO ((busAt sram start inputs cycle).peripheralReq sram
      (inputs cycle))).addr = ((inputs cycle).masterReqI master).addr :=
    congrArg ObiReq.addr request
  rw [register, SystemXbar.regRsp, peripheralRsp_eq, addr]

/-- Every granted access to the peripheral window is answered in the next cycle
with the word of the boot ROM at its address. -/
theorem bus_fetches_boot_rom {master : Fin masters} {cycle : Nat}
    (granted : (busAt sram start inputs cycle).masterGranted sram (inputs cycle) master = true)
    (selected : portSel ((inputs cycle).masterReqI master).addr = peripheralIdx) :
    ((busAt sram start inputs (cycle + 1)).masterRespO sram (inputs (cycle + 1))
        master).rvalid = true ∧
      ((busAt sram start inputs (cycle + 1)).masterRespO sram (inputs (cycle + 1))
        master).rdata = cbBootRom ((inputs cycle).masterReqI master).addr := by
  obtain ⟨-, -, valid, data⟩ :=
    answered_of_granted several prompt_peripheralIdx granted selected
  exact ⟨valid, data.trans (rdata_of_boot_rom several granted selected)⟩

/-! ## Waiting -/

/-- A master that requests a slave through a free port, and is not granted. -/
structure WaitsForSlave (sram : SramMacro S) (bus : SystemXbar S masters)
    (inp : SystemXbarIn masters) (slave : Fin 5) (master : Fin masters) : Prop where
  requests : (inp.masterReqI master).req = true
  selected : portSel (inp.masterReqI master).addr = slave
  passes : (bus.xbar.ports master).passes (bus.xbarIn sram inp).vldI = true
  ungranted : bus.masterGranted sram inp master = false

section Step
variable {bus : SystemXbar S masters} {inp : SystemXbarIn masters} {slave : Fin 5}
  {master : Fin masters}

omit several in
theorem WaitsForSlave.slReq (waits : WaitsForSlave sram bus inp slave master) :
    bus.xbar.slReq (bus.xbarIn sram inp) slave master = true :=
  slReq_iff.mpr ⟨waits.passes, waits.requests, waits.selected.symm⟩

omit several in
theorem WaitsForSlave.port_next (waits : WaitsForSlave sram bus inp slave master) :
    ((bus.next sram inp).xbar.ports master).validInflightQ = false := by
  have moved : ((bus.next sram inp).xbar.ports master).validInflightQ = _ :=
    (port_next_of_quiet waits.ungranted).1
  have passes := waits.passes
  rw [moved]
  unfold SeveralOutputs.passes SeveralOutputs.vldO at passes
  cases inflight : (bus.xbar.ports master).validInflightQ with
  | false => rfl
  | true =>
    simp only [inflight, Bool.not_true, Bool.false_eq_true, if_false, Bool.and_true] at passes
    simp [passes]

theorem WaitsForSlave.nearer (waits : WaitsForSlave sram bus inp slave master)
    (prompt : Prompt slave) (counter : (bus.xbar.arbs slave).rrQ < masters) :
    RoundRobin.distance masters ((bus.next sram inp).xbar.arbs slave).rrQ master <
      RoundRobin.distance masters (bus.xbar.arbs slave).rrQ master := by
  let arb := bus.xbar.arbs slave
  let arbIn := bus.xbar.arbIn (bus.xbarIn sram inp) slave
  have asks : arb.reqD xbarParams arbIn master = true := waits.slReq
  have requested : arb.reqO xbarParams arbIn = true :=
    (RrArb.reqO_iff several).mpr ⟨master, asks⟩
  have given : arbIn.gntI = true := by
    change (bus.xbarIn sram inp).gntI slave = true
    rw [prompt.gntI, ← slaveReqO_eq]
    exact (slaveReqO_req several slave).mpr ⟨master, waits.slReq⟩
  have loses : arb.gntO xbarParams arbIn master = false := by
    have ungranted : bus.xbar.slGnt (bus.xbarIn sram inp) slave master = false := by
      rw [← Bool.not_eq_true, slGnt_iff several]
      rintro ⟨granted, -⟩
      have lost := waits.ungranted
      rw [SystemXbar.masterGranted, granted] at lost
      cases lost
    unfold XbarVarlat.slGnt at ungranted
    rwa [if_neg (by omega)] at ungranted
  have serves : arb.serves xbarParams arbIn = true := by
    rw [RrArb.serves, given, requested, Bool.and_self]
  have moved : ((bus.next sram inp).xbar.arbs slave).rrQ = arb.nextIdx xbarParams arbIn :=
    if_pos serves
  rw [moved]
  exact RrArb.nearer_of_waits several counter given asks loses

theorem counter_lt_next (counter : (bus.xbar.arbs slave).rrQ < masters) :
    ((bus.next sram inp).xbar.arbs slave).rrQ < masters :=
  rrQ_next_lt several xbarParams (bus.xbar.arbIn (bus.xbarIn sram inp) slave) counter

end Step

theorem counter_lt (slave : Fin 5) (cycle : Nat) :
    ((busAt sram start inputs cycle).xbar.arbs slave).rrQ < masters := by
  induction cycle with
  | zero =>
    have first : ((busAt sram start inputs 0).xbar.arbs slave).rrQ = 0 := rfl
    omega
  | succ cycle ih => exact counter_lt_next several ih

/-- The master keeps its request at the slave until it is granted. -/
def KeepsRequestAt (sram : SramMacro S) (start : Fin 2 → S) (inputs : Nat → SystemXbarIn masters)
    (slave : Fin 5) (master : Fin masters) (first : Nat) : Prop :=
  ∀ cycle, first ≤ cycle →
    (∀ earlier, first ≤ earlier → earlier < cycle →
      (busAt sram start inputs earlier).masterGranted sram (inputs earlier) master = false) →
    ((inputs cycle).masterReqI master).req = true ∧
      portSel ((inputs cycle).masterReqI master).addr = slave

theorem distance_of_waiting {slave : Fin 5} (prompt : Prompt slave) {master : Fin masters}
    {first : Nat} (keeps : KeepsRequestAt sram start inputs slave master first)
    (free : ((busAt sram start inputs first).xbar.ports master).passes
      ((busAt sram start inputs first).xbarIn sram (inputs first)).vldI = true) (count : Nat)
    (ungranted : ∀ cycle, first ≤ cycle → cycle < first + count →
      (busAt sram start inputs cycle).masterGranted sram (inputs cycle) master = false) :
    RoundRobin.distance masters
        ((busAt sram start inputs (first + count)).xbar.arbs slave).rrQ master +
      count < masters ∧
    ((busAt sram start inputs (first + count)).xbar.ports master).passes
      ((busAt sram start inputs (first + count)).xbarIn sram (inputs (first + count))).vldI =
        true := by
  induction count with
  | zero =>
    exact ⟨RoundRobin.distance_lt (counter_lt several slave first) master.isLt, free⟩
  | succ count ih =>
    obtain ⟨near, passes⟩ := ih fun cycle from_ upto => ungranted cycle from_ (by omega)
    obtain ⟨requests, selected⟩ := keeps (first + count) (Nat.le_add_right _ _)
      fun earlier from_ upto => ungranted earlier from_ (by omega)
    have waits : WaitsForSlave sram (busAt sram start inputs (first + count))
        (inputs (first + count)) slave master :=
      ⟨requests, selected, passes, ungranted _ (Nat.le_add_right _ _) (by omega)⟩
    have nearer := waits.nearer several prompt (counter_lt several slave (first + count))
    have later : busAt sram start inputs (first + (count + 1)) =
        (busAt sram start inputs (first + count)).next sram (inputs (first + count)) := rfl
    rw [later]
    exact ⟨by omega, SeveralOutputs.passes_of_idle waits.port_next _⟩

/-- A master that requests memory or peripherals through a free port and keeps its
request is granted within as many cycles as there are masters, whatever the
others do, and answered in the cycle after. -/
theorem bus_serves_every_master {slave : Fin 5} (prompt : Prompt slave) {master : Fin masters}
    {first : Nat} (keeps : KeepsRequestAt sram start inputs slave master first)
    (free : ((busAt sram start inputs first).xbar.ports master).passes
      ((busAt sram start inputs first).xbarIn sram (inputs first)).vldI = true) :
    ∃ wait, wait < masters ∧
      (busAt sram start inputs (first + wait)).masterGranted sram (inputs (first + wait)) master =
        true ∧
      (∀ cycle, first ≤ cycle → cycle < first + wait →
        (busAt sram start inputs cycle).masterGranted sram (inputs cycle) master = false) ∧
      ((busAt sram start inputs (first + wait + 1)).masterRespO sram (inputs (first + wait + 1))
        master).rvalid = true := by
  have soon : ∃ cycle, first ≤ cycle ∧ cycle < first + masters ∧
      (busAt sram start inputs cycle).masterGranted sram (inputs cycle) master = true := by
    by_contra none
    have bound := (distance_of_waiting several prompt keeps free masters fun cycle from_ upto => by
      rw [← Bool.not_eq_true]
      exact fun granted => none ⟨cycle, from_, upto, granted⟩).1
    omega
  obtain ⟨some, from_, upto, granted⟩ := soon
  obtain ⟨wait, given, before⟩ := Synchronous.exists_first_event
    (fun cycle => (busAt sram start inputs cycle).masterGranted sram (inputs cycle) master) first
    ⟨some, from_, granted⟩
  have early : wait < masters := by
    by_contra late
    have missed := before some from_ (by omega)
    rw [granted] at missed
    cases missed
  have selected := (keeps (first + wait) (Nat.le_add_right _ _) before).2
  exact ⟨wait, early, given, before, (answered_of_granted several prompt given selected).2.2.1⟩

end Answers

/-! ## Two masters at one word -/

/-- A macro with its output register. -/
structure TcSram where
  words : BitVec 13 → Word
  rdataQ : Word

def tcSram : SramMacro TcSram where
  next state inp :=
    { words :=
        if inp.reqI && inp.weI then
          Function.update state.words inp.addrI
            (mergeLanes inp.beI (state.words inp.addrI) inp.wdataI)
        else state.words
      rdataQ := if inp.reqI && !inp.weI then state.words inp.addrI else state.rdataQ }
  rdataO := TcSram.rdataQ
  contents := TcSram.words

theorem tcSram_lawful : tcSram.Lawful where
  keeps state inp quiet := by
    simp only [tcSram, quiet]
    rfl
  reads state inp requests reads := by simp [tcSram, requests, reads]
  writes state inp requests writes := by simp [tcSram, requests, writes]

/-- The first master writes half a word in cycle 0, the second asks for the same
word from cycle 0 on and gets it in cycle 1. -/
def writeThenRead (cycle : Nat) : SystemXbarIn 2 where
  masterReqI master :=
    if master = 0 then ⟨decide (cycle = 0), true, 0b0011, 0xf0028008, 0x1234cafe⟩
    else ⟨decide (cycle ≤ 1), false, 0b1111, 0xf0028008, 0⟩
  errorSlaveResp := .zero
  extSlaveResp := ⟨true, true, 0⟩

def blankBanks : Fin 2 → TcSram := fun _ => ⟨fun _ => 0, 0⟩

theorem blankBanks_holds : Holds tcSram blankBanks fun _ => 0 := by
  intro bank index
  change (0 : Word) = (0#8 ++ 0#8 ++ 0#8 ++ 0#8 : BitVec 32)
  decide

theorem writeThenRead_serial :
    ((busAt tcSram blankBanks writeThenRead 2).masterRespO tcSram (writeThenRead 2) 1).rdata =
      load (serialMemory tcSram blankBanks writeThenRead (fun _ => 0) 1) 0xf0028008 :=
  (((bus_memory_is_serial le_rfl tcSram_lawful blankBanks_holds 1).2 1 1).2 (by decide)
    (by decide)).2 (by decide)

theorem writeThenRead_served :
    ∃ wait, wait < 2 ∧
      (busAt tcSram blankBanks writeThenRead (0 + wait)).masterGranted tcSram
        (writeThenRead (0 + wait)) 1 = true := by
  have keeps : KeepsRequestAt tcSram blankBanks writeThenRead (ramIdx 1) 1 0 := by
    intro cycle _ ungranted
    refine ⟨?_, (by decide : portSel 0xf0028008 = ramIdx 1)⟩
    by_contra quiet
    have late : 2 ≤ cycle := by
      by_contra early
      exact quiet (by simp [writeThenRead]; omega)
    have missed := ungranted 1 (by omega) (by omega)
    revert missed
    decide
  obtain ⟨wait, early, granted, -⟩ :=
    bus_serves_every_master le_rfl (prompt_ramIdx 1) keeps (by decide)
  exact ⟨wait, early, granted⟩

/-- The second master fetches the first word of `debug_entry` behind the first. -/
def fetchEntry (cycle : Nat) : SystemXbarIn 2 where
  masterReqI master := ⟨decide (cycle ≤ master), false, 0b1111, 0xf0010050, 0⟩
  errorSlaveResp := .zero
  extSlaveResp := .zero

theorem fetchEntry_word :
    ((busAt tcSram blankBanks fetchEntry 2).masterRespO tcSram (fetchEntry 2) 1).rdata =
      cbBootRom 0xf0010050 := by
  have granted : (busAt tcSram blankBanks fetchEntry 1).masterGranted tcSram (fetchEntry 1) 1 =
      true := by
    decide +kernel
  exact (bus_fetches_boot_rom le_rfl granted (by decide)).2

end Eros
