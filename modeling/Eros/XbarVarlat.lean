import Eros.RrArb
import Eros.Lib.Outstanding

/-!
# `xbar_varlat`

The crossbar with `AggregateGnt = 1`: each master has a port with one request in
flight and each slave an arbiter over the ports.  Nothing stands between a slave
and the ports whose requests it holds: an answer is taken by every port that
waits for that slave.  A slave that takes one request at a time is answered to
the right master, whatever the others do.
-/

set_option autoImplicit false

namespace Eros

open Outstanding (tally Answered)

structure XbarVarlat (masters slaves : Nat) where
  ports : Fin masters → SeveralOutputs slaves
  arbs : Fin slaves → RrArb masters

/-- The requests with their decoded targets, and the wires of the slaves. -/
structure XbarVarlatIn (masters slaves : Nat) where
  masterReqI : Fin masters → ObiReq
  addI : Fin masters → Fin slaves
  gntI : Fin slaves → Bool
  vldI : Fin slaves → Bool
  rdataI : Fin slaves → Word

namespace XbarVarlat
variable {masters slaves : Nat} (xbar : XbarVarlat masters slaves)
  (inp : XbarVarlatIn masters slaves)

def reset (masters slaves : Nat) [NeZero slaves] : XbarVarlat masters slaves :=
  ⟨fun _ => ⟨false, 0⟩, fun _ => .reset masters⟩

/-- `sl_req[k][j]`, which is `ma_req[j][k]`. -/
def slReq (slave : Fin slaves) : Fin masters → Bool := fun master =>
  (xbar.ports master).reqO (inp.masterReqI master).req (inp.addI master) inp.vldI slave

def arbIn (slave : Fin slaves) : RrArbIn ObiReq masters where
  reqI := xbar.slReq inp slave
  dataI := inp.masterReqI
  gntI := inp.gntI slave

/-- `sl_gnt[k][j]`; a single master has no arbiter. -/
def slGnt (slave : Fin slaves) : Fin masters → Bool :=
  if masters = 1 then fun _ => inp.gntI slave
  else (xbar.arbs slave).gntO xbarParams (xbar.arbIn inp slave)

theorem pos_of_single (single : masters = 1) : 0 < masters := by omega

/-- The only master. -/
def onlyMaster (single : masters = 1) : Fin masters := ⟨0, pos_of_single single⟩

/-- `req_o` and `wdata_o` of one slave. -/
def slaveReqO (slave : Fin slaves) : ObiReq :=
  if single : masters = 1 then
    { inp.masterReqI (onlyMaster single) with req := xbar.slReq inp slave (onlyMaster single) }
  else
    { (xbar.arbs slave).dataO xbarParams (xbar.arbIn inp slave) ObiReq.zero with
      req := (xbar.arbs slave).reqO xbarParams (xbar.arbIn inp slave) }

def masterGntO (master : Fin masters) : Bool :=
  (xbar.ports master).gntO (fun slave => xbar.slGnt inp slave master) inp.vldI

def masterRespO (master : Fin masters) : ObiResp where
  gnt := xbar.masterGntO inp master
  rvalid := (xbar.ports master).vldO inp.vldI
  rdata := inp.rdataI (xbar.ports master).bankSelQ

def next : XbarVarlat masters slaves where
  ports master := (xbar.ports master).next
    { reqI := (inp.masterReqI master).req
      addI := inp.addI master
      gntI := fun slave => xbar.slGnt inp slave master
      vldI := inp.vldI }
  arbs slave := (xbar.arbs slave).next xbarParams (xbar.arbIn inp slave)

/-! Handshakes of a cycle. -/

def slaveGranted (slave : Fin slaves) : Bool :=
  (xbar.slaveReqO inp slave).req && inp.gntI slave

def masterGranted (master : Fin masters) : Bool :=
  (inp.masterReqI master).req && xbar.masterGntO inp master

def waitsFor (slave : Fin slaves) (master : Fin masters) : Bool :=
  (xbar.ports master).validInflightQ && decide ((xbar.ports master).bankSelQ = slave)

end XbarVarlat

def xbarVarlat (masters slaves : Nat) [NeZero slaves] :
    Synchronous.Machine (XbarVarlat masters slaves) (XbarVarlatIn masters slaves) where
  init := .reset masters slaves
  next := XbarVarlat.next

/-! ## A port -/

namespace SeveralOutputs
variable {outs : Nat} {port : SeveralOutputs outs} {inp : RespMuxIn outs}

theorem next_of_granted (requests : inp.reqI = true)
    (granted : port.gntO inp.gntI inp.vldI = true) :
    port.next inp = ⟨true, inp.addI⟩ ∧
      (port.validInflightQ = true → inp.vldI port.bankSelQ = true) := by
  have passing : port.passes inp.vldI = true := by
    unfold gntO at granted
    split_ifs at granted with passing
    exact passing
  unfold next validInflightNext
  rw [requests, granted]
  unfold passes at passing
  cases inflight : port.validInflightQ with
  | false => simp
  | true =>
    have answered : port.vldO inp.vldI = true := by simpa [inflight] using passing
    refine ⟨by simp [answered], fun _ => ?_⟩
    simpa [vldO, inflight] using answered

theorem next_of_quiet (quiet : (inp.reqI && port.gntO inp.gntI inp.vldI) = false) :
    (port.next inp).validInflightQ = (port.validInflightQ && !inp.vldI port.bankSelQ) ∧
      (port.next inp).bankSelQ = port.bankSelQ := by
  simp only [next, validInflightNext, vldO, quiet]
  cases inflight : port.validInflightQ <;> cases answer : inp.vldI port.bankSelQ <;> simp

theorem inflight_next (port : SeveralOutputs outs) (inp : RespMuxIn outs) :
    (port.next inp).validInflightQ.toNat + (port.vldO inp.vldI).toNat =
      port.validInflightQ.toNat + (inp.reqI && port.gntO inp.gntI inp.vldI).toNat := by
  cases inflight : port.validInflightQ with
  | false => simp [next, vldO, inflight]
  | true =>
    cases answer : inp.vldI port.bankSelQ with
    | false => simp [next, validInflightNext, gntO, passes, vldO, inflight, answer]
    | true =>
      simp [next, validInflightNext, vldO, inflight, answer, Nat.add_comm]

end SeveralOutputs

/-! ## `eros_xbar_varlat_one_to_n` -/

/-- The request with the slave of its address, and the responses of the slaves. -/
def oneToN {slaves : Nat} (masterReqI : ObiReq) (slaveIdx : Fin slaves)
    (slaveRespI : Fin slaves → ObiResp) : XbarVarlatIn 1 slaves where
  masterReqI _ := masterReqI
  addI _ := slaveIdx
  gntI slave := (slaveRespI slave).gnt
  vldI slave := (slaveRespI slave).rvalid
  rdataI slave := (slaveRespI slave).rdata

namespace XbarVarlat
variable {slaves : Nat} (xbar : XbarVarlat 1 slaves) (masterReqI : ObiReq) (slaveIdx : Fin slaves)
  (slaveRespI : Fin slaves → ObiResp)

/-- The port of the only master, which is wired to the slaves. -/
def onlyPort : SeveralOutputs slaves := xbar.ports 0

theorem oneToN_slaveReqO (slave : Fin slaves) :
    xbar.slaveReqO (oneToN masterReqI slaveIdx slaveRespI) slave =
      { masterReqI with
        req := xbar.onlyPort.reqO masterReqI.req slaveIdx (fun slave => (slaveRespI slave).rvalid)
          slave } := rfl

theorem oneToN_masterRespO :
    xbar.masterRespO (oneToN masterReqI slaveIdx slaveRespI) 0 =
      ⟨xbar.onlyPort.gntO (fun slave => (slaveRespI slave).gnt)
          fun slave => (slaveRespI slave).rvalid,
        xbar.onlyPort.vldO fun slave => (slaveRespI slave).rvalid,
        (slaveRespI xbar.onlyPort.bankSelQ).rdata⟩ := rfl

theorem oneToN_next :
    (xbar.next (oneToN masterReqI slaveIdx slaveRespI)).onlyPort =
      xbar.onlyPort.next
        ⟨masterReqI.req, slaveIdx, fun slave => (slaveRespI slave).gnt,
          fun slave => (slaveRespI slave).rvalid⟩ := rfl

end XbarVarlat

/-! ## One cycle -/

section Cycle
variable {masters slaves : Nat} {xbar : XbarVarlat masters slaves}
  {inp : XbarVarlatIn masters slaves}

theorem slReq_iff {slave : Fin slaves} {master : Fin masters} :
    xbar.slReq inp slave master = true ↔
      (xbar.ports master).passes inp.vldI = true ∧ (inp.masterReqI master).req = true ∧
        slave = inp.addI master := by
  unfold XbarVarlat.slReq SeveralOutputs.reqO
  cases passing : (xbar.ports master).passes inp.vldI <;> simp

theorem slaveReqO_congr {other : XbarVarlatIn masters slaves}
    (requests : inp.masterReqI = other.masterReqI) (targets : inp.addI = other.addI)
    (answers : inp.vldI = other.vldI) (slave : Fin slaves) :
    xbar.slaveReqO inp slave = xbar.slaveReqO other slave := by
  cases inp
  cases other
  subst requests targets answers
  rfl

theorem rdata_of_waitsFor {slave : Fin slaves} {master : Fin masters}
    (waits : xbar.waitsFor slave master = true) :
    (xbar.masterRespO inp master).rdata = inp.rdataI slave := by
  simp only [XbarVarlat.waitsFor, Bool.and_eq_true, decide_eq_true_eq] at waits
  simp [XbarVarlat.masterRespO, waits.2]

theorem rvalid_of_waitsFor {slave : Fin slaves} {master : Fin masters}
    (waits : xbar.waitsFor slave master = true) :
    (xbar.masterRespO inp master).rvalid = inp.vldI slave := by
  simp only [XbarVarlat.waitsFor, Bool.and_eq_true, decide_eq_true_eq] at waits
  simp [XbarVarlat.masterRespO, SeveralOutputs.vldO, waits.1, waits.2]

theorem port_next_of_granted {master : Fin masters}
    (granted : xbar.masterGranted inp master = true) :
    (xbar.next inp).ports master = ⟨true, inp.addI master⟩ ∧
      ((xbar.ports master).validInflightQ = true →
        inp.vldI (xbar.ports master).bankSelQ = true) := by
  unfold XbarVarlat.masterGranted at granted
  rw [Bool.and_eq_true] at granted
  exact SeveralOutputs.next_of_granted granted.1 granted.2

theorem port_next_of_quiet {master : Fin masters}
    (quiet : xbar.masterGranted inp master = false) :
    ((xbar.next inp).ports master).validInflightQ =
        ((xbar.ports master).validInflightQ && !inp.vldI (xbar.ports master).bankSelQ) ∧
      ((xbar.next inp).ports master).bankSelQ = (xbar.ports master).bankSelQ :=
  SeveralOutputs.next_of_quiet quiet

variable (several : 2 ≤ masters)
include several

theorem slReq_of_slGnt {slave : Fin slaves} {master : Fin masters}
    (granted : xbar.slGnt inp slave master = true) : xbar.slReq inp slave master = true := by
  unfold XbarVarlat.slGnt at granted
  rw [if_neg (by omega)] at granted
  exact (xbar.arbs slave).gntO_requests granted

theorem slGnt_iff {slave : Fin slaves} {master : Fin masters} :
    xbar.slGnt inp slave master = true ↔
      xbar.masterGranted inp master = true ∧ slave = inp.addI master := by
  simp only [XbarVarlat.masterGranted, XbarVarlat.masterGntO, SeveralOutputs.gntO,
    Bool.and_eq_true]
  constructor
  · intro granted
    obtain ⟨passing, requests, target⟩ := slReq_iff.mp (slReq_of_slGnt several granted)
    refine ⟨⟨requests, ?_⟩, target⟩
    rw [if_pos passing, decide_eq_true_eq]
    exact ⟨slave, granted⟩
  · rintro ⟨⟨-, granted⟩, rfl⟩
    split_ifs at granted with passing
    obtain ⟨target, given⟩ := of_decide_eq_true granted
    rw [← (slReq_iff.mp (slReq_of_slGnt several given)).2.2]
    exact given

theorem slaveReqO_req (slave : Fin slaves) :
    (xbar.slaveReqO inp slave).req = true ↔ ∃ master, xbar.slReq inp slave master = true := by
  unfold XbarVarlat.slaveReqO
  rw [dif_neg (by omega)]
  exact RrArb.reqO_iff several

theorem exists_slGnt {slave : Fin slaves} (granted : xbar.slaveGranted inp slave = true) :
    ∃ master, (∀ other, xbar.slGnt inp slave other = decide (other = master)) ∧
      xbar.slaveReqO inp slave = inp.masterReqI master := by
  simp only [XbarVarlat.slaveGranted, Bool.and_eq_true] at granted
  obtain ⟨requested, given⟩ := granted
  obtain ⟨requester, asks⟩ := (slaveReqO_req several slave).mp requested
  obtain ⟨pick, picks⟩ :
      ∃ pick, RrArb.Picks xbarParams (xbar.arbs slave) (xbar.arbIn inp slave) pick :=
    RrArb.exists_picks several asks
  have grants : ∀ other, xbar.slGnt inp slave other = decide (other = pick) := by
    intro other
    unfold XbarVarlat.slGnt
    rw [if_neg (by omega), picks.gntO]
    simp [XbarVarlat.arbIn, given]
  refine ⟨pick, grants, ?_⟩
  have asksPick : (inp.masterReqI pick).req = true :=
    (slReq_iff.mp (slReq_of_slGnt several ((grants pick).trans (by simp)))).2.1
  unfold XbarVarlat.slaveReqO
  rw [dif_neg (by omega), picks.dataO, picks.reqO]
  exact ObiReq.with_req asksPick

theorem slaveGranted_of_slGnt {slave : Fin slaves} {master : Fin masters}
    (granted : xbar.slGnt inp slave master = true) : xbar.slaveGranted inp slave = true := by
  have requests := slReq_of_slGnt several granted
  unfold XbarVarlat.slGnt at granted
  rw [if_neg (by omega)] at granted
  have given : inp.gntI slave = true := (RrArb.gntO_hotOne granted granted).1
  unfold XbarVarlat.slaveGranted
  rw [(slaveReqO_req several slave).mpr ⟨master, requests⟩, Bool.true_and]
  exact given

theorem waitsFor_next (slave : Fin slaves) (master : Fin masters) :
    (xbar.next inp).waitsFor slave master =
      (xbar.slGnt inp slave master || xbar.waitsFor slave master && !inp.vldI slave) := by
  have grants : xbar.slGnt inp slave master = true ↔ _ := slGnt_iff several
  rw [Bool.eq_iff_iff, Bool.or_eq_true, grants]
  cases handshake : xbar.masterGranted inp master with
  | true =>
    obtain ⟨moved, answered⟩ := port_next_of_granted handshake
    simp only [XbarVarlat.waitsFor, moved, Bool.and_eq_true, decide_eq_true_eq, true_and,
      Bool.not_eq_true']
    constructor
    · exact fun target => Or.inl target.symm
    · rintro (target | ⟨⟨inflight, rfl⟩, silent⟩)
      · exact target.symm
      · rw [answered inflight] at silent
        cases silent
  | false =>
    obtain ⟨kept, same⟩ := port_next_of_quiet handshake
    simp only [XbarVarlat.waitsFor, kept, same, Bool.and_eq_true, decide_eq_true_eq,
      Bool.false_eq_true, false_and, false_or, Bool.not_eq_true']
    constructor
    · rintro ⟨⟨inflight, silent⟩, rfl⟩
      exact ⟨⟨inflight, rfl⟩, silent⟩
    · rintro ⟨⟨inflight, rfl⟩, silent⟩
      exact ⟨⟨inflight, silent⟩, rfl⟩

end Cycle

/-! ## Runs -/

section Run
variable {masters slaves : Nat} [NeZero slaves] (inputs : Nat → XbarVarlatIn masters slaves)

def xbarAt : Nat → XbarVarlat masters slaves := (xbarVarlat masters slaves).run inputs

def slaveGrantsAt (slave : Fin slaves) (cycle : Nat) : Bool :=
  (xbarAt inputs cycle).slaveGranted (inputs cycle) slave

def slaveAnswersAt (slave : Fin slaves) (cycle : Nat) : Bool := (inputs cycle).vldI slave

/-- The slave grants only when all it granted before is answered by the end of the
cycle. -/
def OneAtATime (slave : Fin slaves) : Prop :=
  ∀ cycle, slaveGrantsAt inputs slave cycle = true →
    tally (slaveGrantsAt inputs slave) cycle = tally (slaveAnswersAt inputs slave) (cycle + 1)

def takesAnswer (slave : Fin slaves) (master : Fin masters) (cycle : Nat) : Bool :=
  (xbarAt inputs cycle).waitsFor slave master && slaveAnswersAt inputs slave cycle

/-- The slave owes nothing before this cycle. -/
structure SlaveSettled (slave : Fin slaves) (cycle : Nat) : Prop where
  balance : tally (slaveGrantsAt inputs slave) cycle = tally (slaveAnswersAt inputs slave) cycle
  ports : ∀ master, (xbarAt inputs cycle).waitsFor slave master = false

/-- The slave owes the answer of `owner`, granted in cycle `origin`. -/
structure SlaveOwes (slave : Fin slaves) (cycle origin : Nat) (owner : Fin masters) : Prop where
  before : origin < cycle
  granted : ∀ master, (xbarAt inputs origin).slGnt (inputs origin) slave master =
    decide (master = owner)
  request : (xbarAt inputs origin).slaveReqO (inputs origin) slave =
    (inputs origin).masterReqI owner
  ordinal : tally (slaveGrantsAt inputs slave) origin = tally (slaveAnswersAt inputs slave) cycle
  balance : tally (slaveGrantsAt inputs slave) cycle =
    tally (slaveAnswersAt inputs slave) cycle + 1
  ports : ∀ master, (xbarAt inputs cycle).waitsFor slave master = decide (master = owner)

def SlaveRouted (slave : Fin slaves) (cycle : Nat) : Prop :=
  SlaveSettled inputs slave cycle ∨ ∃ origin owner, SlaveOwes inputs slave cycle origin owner

variable {inputs} (several : 2 ≤ masters)

theorem xbarAt_succ (cycle : Nat) :
    xbarAt inputs (cycle + 1) = (xbarAt inputs cycle).next (inputs cycle) := rfl

include several

theorem slaveOwed_of_granted {slave : Fin slaves} {cycle : Nat}
    (granted : slaveGrantsAt inputs slave cycle = true)
    (even : tally (slaveGrantsAt inputs slave) cycle =
      tally (slaveAnswersAt inputs slave) (cycle + 1))
    (answered : ∀ master, ((xbarAt inputs cycle).waitsFor slave master &&
      !(inputs cycle).vldI slave) = false) :
    ∃ owner, SlaveOwes inputs slave (cycle + 1) cycle owner := by
  obtain ⟨owner, grants, request⟩ := exists_slGnt several granted
  refine ⟨owner, ?_⟩
  exact {
    before := Nat.lt_succ_self cycle
    granted := grants
    request := request
    ordinal := even
    balance := by
      rw [Outstanding.tally_succ, granted, even]
      rfl
    ports := fun master => by
      rw [xbarAt_succ, waitsFor_next several, answered, Bool.or_false]
      exact grants master }

theorem slGnt_of_ungranted {slave : Fin slaves} {cycle : Nat}
    (ungranted : slaveGrantsAt inputs slave cycle = false) (master : Fin masters) :
    (xbarAt inputs cycle).slGnt (inputs cycle) slave master = false := by
  rw [← Bool.not_eq_true]
  intro granted
  have passed : slaveGrantsAt inputs slave cycle = true := slaveGranted_of_slGnt several granted
  rw [ungranted] at passed
  cases passed

theorem slaveSettled_of_ungranted {slave : Fin slaves} {cycle : Nat}
    (ungranted : slaveGrantsAt inputs slave cycle = false)
    (even : tally (slaveGrantsAt inputs slave) cycle =
      tally (slaveAnswersAt inputs slave) (cycle + 1))
    (answered : ∀ master, ((xbarAt inputs cycle).waitsFor slave master &&
      !(inputs cycle).vldI slave) = false) :
    SlaveSettled inputs slave (cycle + 1) where
  balance := by
    rw [Outstanding.tally_succ, ungranted, even]
    rfl
  ports master := by
    rw [xbarAt_succ, waitsFor_next several, answered, slGnt_of_ungranted several ungranted]
    rfl

theorem SlaveRouted.next {slave : Fin slaves} {cycle : Nat}
    (routed : SlaveRouted inputs slave cycle)
    (owed : Answered (slaveGrantsAt inputs slave) (slaveAnswersAt inputs slave))
    (single : slaveGrantsAt inputs slave cycle = true →
      tally (slaveGrantsAt inputs slave) cycle =
        tally (slaveAnswersAt inputs slave) (cycle + 1)) :
    SlaveRouted inputs slave (cycle + 1) := by
  rcases routed with free | ⟨origin, owner, owes⟩
  · have silent : slaveAnswersAt inputs slave cycle = false := by
      rw [← Bool.not_eq_true]
      intro answer
      have due := owed cycle answer
      have even := free.balance
      omega
    have even : tally (slaveGrantsAt inputs slave) cycle =
        tally (slaveAnswersAt inputs slave) (cycle + 1) := by
      rw [Outstanding.tally_succ, silent, free.balance]
      rfl
    have answered : ∀ master, ((xbarAt inputs cycle).waitsFor slave master &&
        !(inputs cycle).vldI slave) = false := by
      intro master
      rw [free.ports, Bool.false_and]
    cases granted : slaveGrantsAt inputs slave cycle with
    | true => exact Or.inr ⟨cycle, slaveOwed_of_granted several granted even answered⟩
    | false => exact Or.inl (slaveSettled_of_ungranted several granted even answered)
  · cases answer : slaveAnswersAt inputs slave cycle with
    | true =>
      have even : tally (slaveGrantsAt inputs slave) cycle =
          tally (slaveAnswersAt inputs slave) (cycle + 1) := by
        rw [Outstanding.tally_succ, answer, owes.balance]
        rfl
      have answered : ∀ master, ((xbarAt inputs cycle).waitsFor slave master &&
          !(inputs cycle).vldI slave) = false := by
        intro master
        rw [show (inputs cycle).vldI slave = true from answer, Bool.not_true, Bool.and_false]
      cases granted : slaveGrantsAt inputs slave cycle with
      | true => exact Or.inr ⟨cycle, slaveOwed_of_granted several granted even answered⟩
      | false => exact Or.inl (slaveSettled_of_ungranted several granted even answered)
    | false =>
      have same : tally (slaveAnswersAt inputs slave) (cycle + 1) =
          tally (slaveAnswersAt inputs slave) cycle := by
        rw [Outstanding.tally_succ, answer]
        rfl
      have ungranted : slaveGrantsAt inputs slave cycle = false := by
        rw [← Bool.not_eq_true]
        intro granted
        have even := single granted
        have ahead := owes.balance
        omega
      refine Or.inr ⟨origin, owner, ?_⟩
      exact { owes with
        before := Nat.lt_succ_of_lt owes.before
        ordinal := owes.ordinal.trans same.symm
        balance := by
          rw [Outstanding.tally_succ, ungranted, same, owes.balance]
          rfl
        ports := fun master => by
          rw [xbarAt_succ, waitsFor_next several, slGnt_of_ungranted several ungranted,
            show (inputs cycle).vldI slave = false from answer, owes.ports]
          simp }

theorem slaveRouted_run {slave : Fin slaves}
    (owed : Answered (slaveGrantsAt inputs slave) (slaveAnswersAt inputs slave))
    (single : OneAtATime inputs slave) (cycle : Nat) : SlaveRouted inputs slave cycle := by
  induction cycle with
  | zero => exact Or.inl ⟨rfl, fun _ => rfl⟩
  | succ cycle ih => exact ih.next several owed (single cycle)

omit several in
theorem SlaveRouted.waits_unique {slave : Fin slaves} {cycle : Nat}
    (routed : SlaveRouted inputs slave cycle) {left right : Fin masters}
    (waitsLeft : (xbarAt inputs cycle).waitsFor slave left = true)
    (waitsRight : (xbarAt inputs cycle).waitsFor slave right = true) : left = right := by
  rcases routed with free | ⟨origin, owner, owes⟩
  · rw [free.ports] at waitsLeft
    cases waitsLeft
  · rw [owes.ports, decide_eq_true_eq] at waitsLeft waitsRight
    exact waitsLeft.trans waitsRight.symm

/-- A slave that grants over an unanswered request has two ports waiting for it. -/
theorem even_of_waits_unique {slave : Fin slaves} {cycle : Nat}
    (routed : SlaveRouted inputs slave cycle)
    (owed : Answered (slaveGrantsAt inputs slave) (slaveAnswersAt inputs slave))
    (unique : ∀ left right, (xbarAt inputs (cycle + 1)).waitsFor slave left = true →
      (xbarAt inputs (cycle + 1)).waitsFor slave right = true → left = right)
    (granted : slaveGrantsAt inputs slave cycle = true) :
    tally (slaveGrantsAt inputs slave) cycle =
      tally (slaveAnswersAt inputs slave) (cycle + 1) := by
  rcases routed with free | ⟨origin, owner, owes⟩
  · have silent : slaveAnswersAt inputs slave cycle = false := by
      rw [← Bool.not_eq_true]
      intro answer
      have due := owed cycle answer
      have even := free.balance
      omega
    rw [Outstanding.tally_succ, silent, free.balance]
    rfl
  · cases answer : slaveAnswersAt inputs slave cycle with
    | true =>
      rw [Outstanding.tally_succ, answer, owes.balance]
      rfl
    | false =>
      obtain ⟨second, grants, -⟩ := exists_slGnt several granted
      have wins : (xbarAt inputs cycle).slGnt (inputs cycle) slave second = true := by
        rw [grants, decide_eq_true_eq]
      have waiting : (xbarAt inputs cycle).waitsFor slave owner = true := by
        rw [owes.ports, decide_eq_true_eq]
      have first : (xbarAt inputs (cycle + 1)).waitsFor slave owner = true := by
        rw [xbarAt_succ, waitsFor_next several, waiting,
          show (inputs cycle).vldI slave = false from answer]
        simp
      have again : (xbarAt inputs (cycle + 1)).waitsFor slave second = true := by
        rw [xbarAt_succ, waitsFor_next several, wins]
        rfl
      -- the port of the first master lets no request pass
      have passing := (slReq_iff.mp (slReq_of_slGnt several wins)).1
      rw [← unique owner second first again] at passing
      simp only [XbarVarlat.waitsFor, Bool.and_eq_true, decide_eq_true_eq] at waiting
      have silent : (inputs cycle).vldI ((xbarAt inputs cycle).ports owner).bankSelQ = false := by
        rw [waiting.2]
        exact answer
      rw [(SeveralOutputs.waits _ waiting.1 silent).2] at passing
      cases passing

/-- A slave that answers only what it granted is waited for by one master at a
time exactly when it takes one request at a time; then each of its answers is
taken by the master whose request it granted, and by no other. -/
theorem xbar_varlat_routes_answers {slave : Fin slaves}
    (owed : Answered (slaveGrantsAt inputs slave) (slaveAnswersAt inputs slave)) :
    (OneAtATime inputs slave ↔
        ∀ cycle left right, (xbarAt inputs cycle).waitsFor slave left = true →
          (xbarAt inputs cycle).waitsFor slave right = true → left = right) ∧
      (OneAtATime inputs slave → ∀ cycle, slaveAnswersAt inputs slave cycle = true →
        ∃ origin owner, origin < cycle ∧
          (xbarAt inputs origin).masterGranted (inputs origin) owner = true ∧
          (xbarAt inputs origin).slaveReqO (inputs origin) slave =
            (inputs origin).masterReqI owner ∧
          tally (slaveGrantsAt inputs slave) origin =
            tally (slaveAnswersAt inputs slave) cycle ∧
          ((xbarAt inputs cycle).masterRespO (inputs cycle) owner).rvalid = true ∧
          ((xbarAt inputs cycle).masterRespO (inputs cycle) owner).rdata =
            (inputs cycle).rdataI slave ∧
          ∀ other, takesAnswer inputs slave other cycle = decide (other = owner)) := by
  constructor
  · constructor
    · intro single cycle left right
      exact (slaveRouted_run several owed single cycle).waits_unique
    · intro unique
      have routed : ∀ cycle, SlaveRouted inputs slave cycle := by
        intro cycle
        induction cycle with
        | zero => exact Or.inl ⟨rfl, fun _ => rfl⟩
        | succ cycle ih =>
          exact ih.next several owed (even_of_waits_unique several ih owed (unique (cycle + 1)))
      exact fun cycle => even_of_waits_unique several (routed cycle) owed (unique (cycle + 1))
  · intro single cycle answer
    rcases slaveRouted_run several owed single cycle with free | ⟨origin, owner, owes⟩
    · have due := owed cycle answer
      have even := free.balance
      omega
    · have wins : (xbarAt inputs origin).slGnt (inputs origin) slave owner = true := by
        rw [owes.granted, decide_eq_true_eq]
      have waiting : (xbarAt inputs cycle).waitsFor slave owner = true := by
        rw [owes.ports, decide_eq_true_eq]
      refine ⟨origin, owner, owes.before, ((slGnt_iff several).mp wins).1, owes.request,
        owes.ordinal, (rvalid_of_waitsFor waiting).trans answer, rdata_of_waitsFor waiting,
        fun other => ?_⟩
      rw [takesAnswer, owes.ports, answer, Bool.and_true]

end Run

/-! ## Two masters at one slave -/

/-- Both masters request slave 1 in cycle 0, the second again in cycle 1; slave 1
answers in cycles 1 and 3. -/
def contendedInputs (cycle : Nat) : XbarVarlatIn 2 2 where
  masterReqI master :=
    { ObiReq.zero with
      req := decide (cycle = 0) || (decide (cycle = 1) && decide (master = 1))
      addr := if master = 0 then 0x100 else 0x200 }
  addI _ := 1
  gntI _ := true
  vldI slave := decide (slave = 1) && (decide (cycle = 1) || decide (cycle = 3))
  rdataI _ := 0

theorem contendedInputs_owed :
    Answered (slaveGrantsAt contendedInputs 1) (slaveAnswersAt contendedInputs 1) := by
  intro cycle answer
  have late : cycle = 1 ∨ cycle = 3 := by simpa [slaveAnswersAt, contendedInputs] using answer
  obtain rfl | rfl := late
  · decide
  · decide

theorem contendedInputs_single : OneAtATime contendedInputs 1 := by
  intro cycle granted
  obtain ⟨master, grants, -⟩ := exists_slGnt le_rfl granted
  have wins : (xbarAt contendedInputs cycle).slGnt (contendedInputs cycle) 1 master = true := by
    rw [grants, decide_eq_true_eq]
  have asks := (slReq_iff.mp (slReq_of_slGnt le_rfl wins)).2.1
  have early : cycle = 0 ∨ cycle = 1 := by
    simp only [contendedInputs, Bool.or_eq_true, Bool.and_eq_true, decide_eq_true_eq] at asks
    omega
  obtain rfl | rfl := early
  · decide
  · decide

theorem contendedInputs_routed :
    ∃ origin owner, origin < 3 ∧
      (xbarAt contendedInputs origin).masterGranted (contendedInputs origin) owner = true ∧
      ∀ other, takesAnswer contendedInputs 1 other 3 = decide (other = owner) := by
  obtain ⟨origin, owner, before, granted, -, -, -, -, takes⟩ :=
    (xbar_varlat_routes_answers le_rfl contendedInputs_owed).2 contendedInputs_single 3 (by decide)
  exact ⟨origin, owner, before, granted, takes⟩

end Eros
