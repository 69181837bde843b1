import Eros.AddrDecRespMux
import Eros.Lib.Outstanding
import Eros.Lib.Synchronous
import Eros.Obi

/-!
# `eros_xbar_varlat_n_to_one`

Several masters share one slave: each has a port that keeps one request in
flight, an arbiter picks among the ports, and a state machine in front of the
slave holds back request and grant while an answer is due.  The arbiter is
`rr_arb_tree`; a cycle takes it as given in its present round-robin state, and
what is used of it are the properties it asserts about itself.  A single master
has no arbiter: its port is wired to the slave.
-/

set_option autoImplicit false

namespace Eros

open Outstanding (tally pending Answered)

/-- `rr_arb_tree` in one round-robin state. -/
structure RrArbTree (masters : Nat) where
  reqO : (Fin masters → Bool) → Bool
  gntO : (Fin masters → Bool) → Bool → Fin masters → Bool
  dataO : (Fin masters → Bool) → (Fin masters → ObiReq) → ObiReq

/-- The assertions of `rr_arb_tree`: at most one grant, to a requester and under
the incoming grant, which is passed on when there is a request; the data are
those of the granted requester. -/
structure RrArbTree.Sound {masters : Nat} (arbiter : RrArbTree masters) : Prop where
  hotOne : ∀ req gnt master other, arbiter.gntO req gnt master = true →
    arbiter.gntO req gnt other = true → other = master
  granted : ∀ req gnt master, arbiter.gntO req gnt master = true →
    req master = true ∧ gnt = true
  passes : ∀ req, arbiter.reqO req = true → ∃ master, arbiter.gntO req true master = true
  requests : ∀ req, arbiter.reqO req = true ↔ ∃ master, req master = true
  forwards : ∀ req data gnt master, arbiter.gntO req gnt master = true →
    arbiter.dataO req data = data master

inductive OutstandingReqFsm
  | outstandingReq | outstandingWaitforValid
  deriving DecidableEq, Repr

structure NToOneXbar (masters : Nat) where
  ports : Fin masters → OneOutput
  stateQ : OutstandingReqFsm

structure NToOneIn (masters : Nat) where
  masterReqI : Fin masters → ObiReq
  slaveRespI : ObiResp
  arbiter : RrArbTree masters

namespace NToOneXbar
variable {masters : Nat} (xbar : NToOneXbar masters) (inp : NToOneIn masters)

def reset (masters : Nat) : NToOneXbar masters := ⟨fun _ => ⟨false⟩, .outstandingReq⟩

def slReq : Fin masters → Bool := fun master =>
  (xbar.ports master).reqO (inp.masterReqI master).req inp.slaveRespI.rvalid

/-- `xbar_slave_req_req`: `xbar_varlat` takes the arbiter only for several
masters. -/
def xbarSlaveReqReq : Bool :=
  if masters = 1 then decide (∃ master, xbar.slReq inp master = true)
  else inp.arbiter.reqO (xbar.slReq inp)

/-- Request and grant pass the state machine. -/
def unblocked : Bool :=
  match xbar.stateQ with
  | .outstandingReq => true
  | .outstandingWaitforValid => inp.slaveRespI.rvalid

def reqOutstanding : Bool := if xbar.unblocked inp then xbar.xbarSlaveReqReq inp else false
def gntOutstanding : Bool := if xbar.unblocked inp then inp.slaveRespI.gnt else false

def slGnt : Fin masters → Bool :=
  if masters = 1 then fun _ => xbar.gntOutstanding inp
  else inp.arbiter.gntO (xbar.slReq inp) (xbar.gntOutstanding inp)

def masterRespO : Fin masters → ObiResp := fun master =>
  { gnt := OneOutput.gntO (xbar.slGnt inp master)
    rvalid := (xbar.ports master).vldO inp.slaveRespI.rvalid
    rdata := inp.slaveRespI.rdata }

def xbarSlaveReqData : ObiReq :=
  if single : masters = 1 then inp.masterReqI ⟨0, by omega⟩
  else inp.arbiter.dataO (xbar.slReq inp) inp.masterReqI

def slaveReqO : ObiReq := { xbar.xbarSlaveReqData inp with req := xbar.reqOutstanding inp }

def stateN : OutstandingReqFsm :=
  match xbar.stateQ with
  | .outstandingReq =>
      if xbar.reqOutstanding inp && xbar.gntOutstanding inp then .outstandingWaitforValid
      else .outstandingReq
  | .outstandingWaitforValid =>
      if inp.slaveRespI.rvalid then
        if xbar.reqOutstanding inp && xbar.gntOutstanding inp then .outstandingWaitforValid
        else .outstandingReq
      else .outstandingWaitforValid

def next : NToOneXbar masters where
  ports := fun master =>
    (xbar.ports master).next (inp.masterReqI master).req (xbar.slGnt inp master)
      inp.slaveRespI.rvalid
  stateQ := xbar.stateN inp

/-! Handshakes of a cycle. -/

def slaveGranted : Bool := (xbar.slaveReqO inp).req && inp.slaveRespI.gnt

def masterGranted (master : Fin masters) : Bool :=
  (inp.masterReqI master).req && (xbar.masterRespO inp master).gnt

end NToOneXbar

def nToOneXbar (masters : Nat) : Synchronous.Machine (NToOneXbar masters) (NToOneIn masters) where
  init := .reset masters
  next := NToOneXbar.next

/-! ## One cycle -/

section Cycle
variable {masters : Nat} {xbar : NToOneXbar masters} {inp : NToOneIn masters}

/-- No port but those answered in this cycle has a request in flight. -/
def PortsFree (xbar : NToOneXbar masters) (inp : NToOneIn masters) : Prop :=
  ∀ master, (xbar.ports master).validInflightQ = true → inp.slaveRespI.rvalid = true

theorem PortsFree.slReq (free : PortsFree xbar inp) (master : Fin masters) :
    xbar.slReq inp master = (inp.masterReqI master).req := by
  unfold NToOneXbar.slReq OneOutput.reqO OneOutput.vldO
  cases inflight : (xbar.ports master).validInflightQ with
  | false => rfl
  | true =>
    have answered := free master inflight
    simp [answered]

theorem PortsFree.next (free : PortsFree xbar inp) (master : Fin masters) :
    ((xbar.next inp).ports master).validInflightQ = xbar.masterGranted inp master := by
  change validInflightNext (xbar.ports master).validInflightQ
    ((xbar.ports master).vldO inp.slaveRespI.rvalid) (inp.masterReqI master).req
    (xbar.slGnt inp master) = xbar.masterGranted inp master
  unfold OneOutput.vldO
  cases inflight : (xbar.ports master).validInflightQ with
  | false => rfl
  | true =>
    have answered := free master inflight
    simp only [answered]
    rfl

/-- A port with a request in flight keeps it while no grant and no answer comes;
a port without one takes none. -/
theorem ports_next_of_blocked (silent : inp.slaveRespI.rvalid = false) (master : Fin masters)
    (ungranted : xbar.slGnt inp master = false) :
    ((xbar.next inp).ports master).validInflightQ = (xbar.ports master).validInflightQ := by
  change validInflightNext (xbar.ports master).validInflightQ
    ((xbar.ports master).vldO inp.slaveRespI.rvalid) (inp.masterReqI master).req
    (xbar.slGnt inp master) = (xbar.ports master).validInflightQ
  unfold OneOutput.vldO
  cases inflight : (xbar.ports master).validInflightQ with
  | false => simp [ungranted]
  | true =>
    rw [silent]
    rfl

theorem gntOutstanding_of_slGnt (sound : inp.arbiter.Sound) {master : Fin masters}
    (granted : xbar.slGnt inp master = true) : xbar.gntOutstanding inp = true := by
  unfold NToOneXbar.slGnt at granted
  split_ifs at granted with single
  · exact granted
  · exact (sound.granted _ _ _ granted).2

theorem slGnt_of_blocked (sound : inp.arbiter.Sound) (blocked : xbar.unblocked inp = false)
    (master : Fin masters) : xbar.slGnt inp master = false := by
  rw [← Bool.not_eq_true]
  intro granted
  have passed := gntOutstanding_of_slGnt sound granted
  simp [NToOneXbar.gntOutstanding, blocked] at passed

theorem slaveGranted_iff : xbar.slaveGranted inp = true ↔
    xbar.unblocked inp = true ∧ xbar.xbarSlaveReqReq inp = true ∧ inp.slaveRespI.gnt = true := by
  cases passing : xbar.unblocked inp <;>
    simp [NToOneXbar.slaveGranted, NToOneXbar.slaveReqO, NToOneXbar.reqOutstanding, passing]

theorem ObiReq.with_req {request : ObiReq} (requests : request.req = true) :
    { request with req := true } = request := by
  cases request
  simp_all

theorem PortsFree.slaveGranted (free : PortsFree xbar inp) (sound : inp.arbiter.Sound)
    (granted : xbar.slaveGranted inp = true) :
    ∃ master, (∀ other, xbar.masterGranted inp other = decide (other = master)) ∧
      xbar.slaveReqO inp = inp.masterReqI master := by
  obtain ⟨passing, requested, grant⟩ := slaveGranted_iff.mp granted
  have gnt : xbar.gntOutstanding inp = true := by
    simp [NToOneXbar.gntOutstanding, passing, grant]
  have req : xbar.reqOutstanding inp = true := by
    simp [NToOneXbar.reqOutstanding, passing, requested]
  by_cases single : masters = 1
  · subst single
    simp only [NToOneXbar.xbarSlaveReqReq, if_true, decide_eq_true_eq] at requested
    obtain ⟨master, asks⟩ := requested
    rw [free.slReq] at asks
    refine ⟨master, fun other => ?_, ?_⟩
    · have same : other = master := Subsingleton.elim other master
      simp [NToOneXbar.masterGranted, NToOneXbar.masterRespO, NToOneXbar.slGnt,
        OneOutput.gntO, same, asks, gnt]
    · have same : (⟨0, by omega⟩ : Fin 1) = master := Subsingleton.elim _ master
      simp only [NToOneXbar.slaveReqO, NToOneXbar.xbarSlaveReqData, dif_pos, req, same]
      exact ObiReq.with_req asks
  · simp only [NToOneXbar.xbarSlaveReqReq, if_neg single] at requested
    obtain ⟨master, wins⟩ := sound.passes _ requested
    have asks : (inp.masterReqI master).req = true := by
      rw [← free.slReq]
      exact (sound.granted _ _ _ wins).1
    refine ⟨master, fun other => ?_, ?_⟩
    · simp only [NToOneXbar.masterGranted, NToOneXbar.masterRespO, NToOneXbar.slGnt,
        if_neg single, OneOutput.gntO, gnt]
      by_cases same : other = master
      · subst same
        simp [asks, wins]
      · have loses : inp.arbiter.gntO (xbar.slReq inp) true other = false := by
          rw [← Bool.not_eq_true]
          exact fun also => same (sound.hotOne _ _ _ _ wins also)
        simp [loses, same]
    · simp only [NToOneXbar.slaveReqO, NToOneXbar.xbarSlaveReqData, dif_neg single, req,
        sound.forwards _ inp.masterReqI _ _ wins]
      exact ObiReq.with_req asks

theorem PortsFree.slaveGranted_of_master (free : PortsFree xbar inp) (sound : inp.arbiter.Sound)
    {master : Fin masters} (granted : xbar.masterGranted inp master = true) :
    xbar.slaveGranted inp = true := by
  simp only [NToOneXbar.masterGranted, NToOneXbar.masterRespO, OneOutput.gntO,
    Bool.and_eq_true] at granted
  obtain ⟨asks, grants⟩ := granted
  have gnt := gntOutstanding_of_slGnt sound grants
  have passing : xbar.unblocked inp = true ∧ inp.slaveRespI.gnt = true := by
    simpa [NToOneXbar.gntOutstanding] using gnt
  refine slaveGranted_iff.mpr ⟨passing.1, ?_, passing.2⟩
  have reaches : xbar.slReq inp master = true := (free.slReq master).trans asks
  unfold NToOneXbar.xbarSlaveReqReq
  split_ifs with single
  · simpa using ⟨master, reaches⟩
  · exact (sound.requests _).mpr ⟨master, reaches⟩

theorem stateQ_next_of_unblocked (passing : xbar.unblocked inp = true) :
    (xbar.next inp).stateQ =
      if xbar.slaveGranted inp then .outstandingWaitforValid else .outstandingReq := by
  have handshake : (xbar.reqOutstanding inp && xbar.gntOutstanding inp) =
      xbar.slaveGranted inp := by
    simp [NToOneXbar.slaveGranted, NToOneXbar.slaveReqO, NToOneXbar.gntOutstanding, passing]
  unfold NToOneXbar.unblocked at passing
  change xbar.stateN inp = _
  cases state : xbar.stateQ with
  | outstandingReq => simp [NToOneXbar.stateN, state, handshake]
  | outstandingWaitforValid =>
    rw [state] at passing
    simp [NToOneXbar.stateN, state, handshake, passing]

theorem stateQ_next_of_blocked (blocked : xbar.unblocked inp = false) :
    (xbar.next inp).stateQ = .outstandingWaitforValid := by
  unfold NToOneXbar.unblocked at blocked
  change xbar.stateN inp = _
  cases state : xbar.stateQ with
  | outstandingReq => simp [state] at blocked
  | outstandingWaitforValid =>
    rw [state] at blocked
    simp [NToOneXbar.stateN, state, blocked]

end Cycle

/-! ## Runs -/

section Run
variable {masters : Nat} (inputs : Nat → NToOneIn masters)

def slaveGrants (cycle : Nat) : Bool :=
  ((nToOneXbar masters).run inputs cycle).slaveGranted (inputs cycle)

def slaveAnswers (cycle : Nat) : Bool := (inputs cycle).slaveRespI.rvalid

def masterGrants (master : Fin masters) (cycle : Nat) : Bool :=
  ((nToOneXbar masters).run inputs cycle).masterGranted (inputs cycle) master

def masterAnswers (master : Fin masters) (cycle : Nat) : Bool :=
  (((nToOneXbar masters).run inputs cycle).masterRespO (inputs cycle) master).rvalid

/-- Nothing is outstanding before this cycle. -/
structure XbarSettled (cycle : Nat) : Prop where
  state : ((nToOneXbar masters).run inputs cycle).stateQ = .outstandingReq
  ports : ∀ master,
    (((nToOneXbar masters).run inputs cycle).ports master).validInflightQ = false
  slave : tally (slaveGrants inputs) cycle = tally (slaveAnswers inputs) cycle
  balance : ∀ master,
    tally (masterGrants inputs master) cycle = tally (masterAnswers inputs master) cycle

/-- The request of `owner`, granted in cycle `origin`, is outstanding. -/
structure XbarOwes (cycle origin : Nat) (owner : Fin masters) : Prop where
  state : ((nToOneXbar masters).run inputs cycle).stateQ = .outstandingWaitforValid
  ports : ∀ master,
    (((nToOneXbar masters).run inputs cycle).ports master).validInflightQ =
      decide (master = owner)
  before : origin < cycle
  granted : slaveGrants inputs origin = true
  owns : masterGrants inputs owner origin = true
  request : ((nToOneXbar masters).run inputs origin).slaveReqO (inputs origin) =
    (inputs origin).masterReqI owner
  ordinal : tally (slaveGrants inputs) origin = tally (slaveAnswers inputs) cycle
  slave : tally (slaveGrants inputs) cycle = tally (slaveAnswers inputs) cycle + 1
  balance : ∀ master, tally (masterGrants inputs master) cycle =
    tally (masterAnswers inputs master) cycle + (decide (master = owner)).toNat

def Routed (cycle : Nat) : Prop :=
  XbarSettled inputs cycle ∨ ∃ origin owner, XbarOwes inputs cycle origin owner

variable {inputs}

/-- A cycle in which the state machine lets requests pass, all earlier requests
being answered by its end. -/
theorem routed_of_unblocked {cycle : Nat} (sound : (inputs cycle).arbiter.Sound)
    (passing : ((nToOneXbar masters).run inputs cycle).unblocked (inputs cycle) = true)
    (free : PortsFree ((nToOneXbar masters).run inputs cycle) (inputs cycle))
    (slave : tally (slaveGrants inputs) cycle = tally (slaveAnswers inputs) (cycle + 1))
    (balance : ∀ master, tally (masterGrants inputs master) cycle =
      tally (masterAnswers inputs master) (cycle + 1)) : Routed inputs (cycle + 1) := by
  have state := stateQ_next_of_unblocked passing
  by_cases granted : slaveGrants inputs cycle = true
  · obtain ⟨owner, owns, request⟩ := free.slaveGranted sound granted
    refine Or.inr ⟨cycle, owner, ?_⟩
    exact {
      state := state.trans (if_pos granted)
      ports := fun master => (free.next master).trans (owns master)
      before := Nat.lt_succ_self cycle
      granted := granted
      owns := (owns owner).trans (decide_eq_true rfl)
      request := request
      ordinal := slave
      slave := by rw [Outstanding.tally_succ, granted, slave, Bool.toNat_true]
      balance := fun master => by
        have won : masterGrants inputs master cycle = decide (master = owner) := owns master
        rw [Outstanding.tally_succ, balance, won] }
  · have none : ∀ master, masterGrants inputs master cycle = false := by
      intro master
      rw [← Bool.not_eq_true]
      exact fun won => granted (free.slaveGranted_of_master sound won)
    left
    exact {
      state := state.trans (if_neg granted)
      ports := fun master => (free.next master).trans (none master)
      slave := by
        rw [Outstanding.tally_succ, slave, (Bool.not_eq_true _).mp granted, Bool.toNat_false,
          Nat.add_zero]
      balance := fun master => by
        rw [Outstanding.tally_succ, balance, none, Bool.toNat_false, Nat.add_zero] }

theorem masterAnswers_eq (master : Fin masters) (cycle : Nat) :
    masterAnswers inputs master cycle =
      (slaveAnswers inputs cycle &&
        (((nToOneXbar masters).run inputs cycle).ports master).validInflightQ) := rfl

theorem XbarSettled.routed_next {cycle : Nat} (before : XbarSettled inputs cycle)
    (sound : (inputs cycle).arbiter.Sound)
    (answered : Answered (slaveGrants inputs) (slaveAnswers inputs)) :
    Routed inputs (cycle + 1) := by
  have silent : slaveAnswers inputs cycle = false := by
    rw [← Bool.not_eq_true]
    intro answer
    have owed := answered cycle answer
    have even := before.slave
    omega
  refine routed_of_unblocked sound ?_ ?_ ?_ fun master => ?_
  · simp [NToOneXbar.unblocked, before.state]
  · intro master inflight
    simp [before.ports master] at inflight
  · rw [Outstanding.tally_succ, silent, Bool.toNat_false, Nat.add_zero, before.slave]
  · rw [Outstanding.tally_succ, masterAnswers_eq, silent, Bool.false_and, Bool.toNat_false,
      Nat.add_zero, before.balance]

theorem XbarOwes.routed_next {cycle origin : Nat} {owner : Fin masters}
    (before : XbarOwes inputs cycle origin owner) (sound : (inputs cycle).arbiter.Sound) :
    Routed inputs (cycle + 1) := by
  by_cases answer : slaveAnswers inputs cycle = true
  · refine routed_of_unblocked sound ?_ ?_ ?_ fun master => ?_
    · simp only [NToOneXbar.unblocked, before.state]
      exact answer
    · exact fun _ _ => answer
    · rw [Outstanding.tally_succ, answer, Bool.toNat_true, before.slave]
    · rw [Outstanding.tally_succ, masterAnswers_eq, answer, Bool.true_and, before.ports,
        before.balance]
  · have silent : slaveAnswers inputs cycle = false := (Bool.not_eq_true _).mp answer
    have blocked : ((nToOneXbar masters).run inputs cycle).unblocked (inputs cycle) = false := by
      simp only [NToOneXbar.unblocked, before.state]
      exact silent
    have ungranted := slGnt_of_blocked sound blocked
    have noGrant : slaveGrants inputs cycle = false := by
      rw [← Bool.not_eq_true]
      intro granted
      simp [(slaveGranted_iff.mp granted).1] at blocked
    have noMaster : ∀ master, masterGrants inputs master cycle = false := by
      intro master
      simp [masterGrants, NToOneXbar.masterGranted, NToOneXbar.masterRespO, OneOutput.gntO,
        ungranted]
    refine Or.inr ⟨origin, owner, ?_⟩
    exact { before with
      state := stateQ_next_of_blocked blocked
      ports := fun master =>
        (ports_next_of_blocked silent master (ungranted master)).trans (before.ports master)
      before := Nat.lt_succ_of_lt before.before
      ordinal := by
        rw [Outstanding.tally_succ, silent, Bool.toNat_false, Nat.add_zero, before.ordinal]
      slave := by
        rw [Outstanding.tally_succ, Outstanding.tally_succ, silent, noGrant, before.slave]
        rfl
      balance := fun master => by
        rw [Outstanding.tally_succ, Outstanding.tally_succ, masterAnswers_eq, silent, noMaster,
          before.balance]
        simp }

theorem routed_run (sound : ∀ cycle, (inputs cycle).arbiter.Sound)
    (answered : Answered (slaveGrants inputs) (slaveAnswers inputs)) (cycle : Nat) :
    Routed inputs cycle := by
  induction cycle with
  | zero => exact Or.inl ⟨rfl, fun _ => rfl, rfl, fun _ => rfl⟩
  | succ cycle ih =>
    rcases ih with free | ⟨origin, owner, owed⟩
    · exact free.routed_next (sound cycle) answered
    · exact owed.routed_next (sound cycle)

/-- The state machine waits exactly while some master's request is outstanding. -/
theorem Routed.waits_iff {cycle : Nat} (routed : Routed inputs cycle) :
    ((nToOneXbar masters).run inputs cycle).stateQ = .outstandingWaitforValid ↔
      ∃ master, 0 < pending (masterGrants inputs master) (masterAnswers inputs master) cycle := by
  rcases routed with free | ⟨origin, owner, owed⟩
  · rw [free.state]
    refine iff_of_false (by decide) ?_
    rintro ⟨master, outstanding⟩
    have even := free.balance master
    unfold pending at outstanding
    omega
  · refine iff_of_true owed.state ⟨owner, ?_⟩
    have ahead := owed.balance owner
    simp only [decide_true, Bool.toNat_true] at ahead
    unfold pending
    omega

/-- Every answer of the slave goes to the master of the grant with the same
ordinal number, and to no other. -/
theorem xbar_routes_every_response (sound : ∀ cycle, (inputs cycle).arbiter.Sound)
    (answered : Answered (slaveGrants inputs) (slaveAnswers inputs)) (cycle : Nat) :
    tally (slaveGrants inputs) cycle ≤ tally (slaveAnswers inputs) cycle + 1 ∧
      (((nToOneXbar masters).run inputs cycle).stateQ = .outstandingWaitforValid ↔
        ∃ master,
          0 < pending (masterGrants inputs master) (masterAnswers inputs master) cycle) ∧
      (slaveAnswers inputs cycle = true →
        ∃ origin owner, origin < cycle ∧ slaveGrants inputs origin = true ∧
          tally (slaveGrants inputs) origin = tally (slaveAnswers inputs) cycle ∧
          masterGrants inputs owner origin = true ∧
          ((nToOneXbar masters).run inputs origin).slaveReqO (inputs origin) =
            (inputs origin).masterReqI owner ∧
          ∀ other, masterAnswers inputs other cycle = decide (other = owner)) ∧
      (slaveAnswers inputs cycle = false →
        ∀ master, masterAnswers inputs master cycle = false) := by
  have routed := routed_run sound answered cycle
  refine ⟨?_, routed.waits_iff, ?_, ?_⟩
  · rcases routed with free | ⟨origin, owner, owed⟩
    · rw [free.slave]
      omega
    · exact owed.slave.le
  · intro answer
    rcases routed with free | ⟨origin, owner, owed⟩
    · have even := free.slave
      have due := answered cycle answer
      omega
    · refine ⟨origin, owner, owed.before, owed.granted, owed.ordinal, owed.owns, owed.request,
        fun other => ?_⟩
      rw [masterAnswers_eq, answer, Bool.true_and, owed.ports]
  · intro silent master
    rw [masterAnswers_eq, silent, Bool.false_and]

end Run

/-! ## Two masters at once -/

/-- `rr_arb_tree` with two inputs and `rr_q = 0`. -/
def firstOfTwo : RrArbTree 2 where
  reqO req := req 0 || req 1
  gntO req gnt master := gnt && req master && decide (master = if req 0 then 0 else 1)
  dataO req data := if req 0 then data 0 else data 1

theorem firstOfTwo_sound : firstOfTwo.Sound where
  hotOne req gnt master other wins also := by
    simp only [firstOfTwo, Bool.and_eq_true, decide_eq_true_eq] at wins also
    rw [wins.2, also.2]
  granted req gnt master wins := by
    simp only [firstOfTwo, Bool.and_eq_true] at wins
    exact ⟨wins.1.2, wins.1.1⟩
  passes req requested := by
    cases first : req 0 with
    | true => exact ⟨0, by simp [firstOfTwo, first]⟩
    | false => exact ⟨1, by simpa [firstOfTwo, first] using requested⟩
  requests req := by simp [firstOfTwo, Fin.exists_fin_two]
  forwards req data gnt master wins := by
    simp only [firstOfTwo, Bool.and_eq_true, decide_eq_true_eq] at wins ⊢
    rw [wins.2]
    split_ifs <;> rfl

/-- Both masters request in cycle 0, the slave always grants; it answers the
first in cycle 1, when the second is still requesting, and the second in
cycle 3. -/
def twoRequests (cycle : Nat) : NToOneIn 2 where
  masterReqI master :=
    { ObiReq.zero with
      req := decide (cycle = 0) || (decide (cycle = 1) && decide (master = 1))
      addr := if master = 0 then 0x100 else 0x200 }
  slaveRespI := ⟨true, decide (cycle = 1) || decide (cycle = 3), 0⟩
  arbiter := firstOfTwo

theorem twoRequests_routed :
    ∃ origin owner, origin < 3 ∧ slaveGrants twoRequests origin = true ∧
      tally (slaveGrants twoRequests) origin = tally (slaveAnswers twoRequests) 3 ∧
      masterGrants twoRequests owner origin = true ∧
      ((nToOneXbar 2).run twoRequests origin).slaveReqO (twoRequests origin) =
        (twoRequests origin).masterReqI owner ∧
      ∀ other, masterAnswers twoRequests other 3 = decide (other = owner) := by
  have answered : Answered (slaveGrants twoRequests) (slaveAnswers twoRequests) := by
    intro cycle answer
    have late : cycle = 1 ∨ cycle = 3 := by simpa [slaveAnswers, twoRequests] using answer
    obtain rfl | rfl := late
    · decide
    · decide
  exact (xbar_routes_every_response (fun _ => firstOfTwo_sound) answered 3).2.2.1 rfl

end Eros
