import Eros.FsmPhases
import Eros.ResponseLines
import Mathlib.Algebra.Order.BigOperators.Group.Finset

/-!
# Responses nobody waits for

A response is steered by the mode in force when it arrives, not by the one in
force when its request was granted.  What a line still owes is counted against
the requests outstanding at the hart that listens to it: the count is kept as
long as the line stays, and has to be there when the hart is switched to it.
-/

set_option autoImplicit false

namespace Eros

open Outstanding

section Lines
variable {n : Nat} (net : Nat → Network n) (hart : Hart) (cycle : Nat)

def busPending (port : Hart) (cycle : Nat) : Nat :=
  pending (fun index => (net index).busGranted port)
    (fun index => ((net index).busResp port).rvalid) cycle

/-- The answers the stub gives next. -/
def stubOwes : Nat :=
  (((net cycle).isolate hart).validQ || ((net cycle).isolate hart).expectedRvalid).toNat

/-- The answers that are still to come on the line of `hart`. -/
def lineOwes : Nat :=
  match (net cycle).line hart with
  | .port port => busPending net port cycle
  | .lead index => busPending net index cycle + ((net cycle).delayLine index).held.length
  | .trail index => busPending net index cycle + ∑ stage, ((net cycle).answerLine index stage).toNat
  | .stub => stubOwes net hart cycle

/-- What the bus grants is granted to `hart` as well, or has been by its delay
line. -/
def GrantShared (net : Network n) (hart : Hart) : Prop :=
  match net.line hart with
  | .port port => net.busGranted port = true → net.granted hart = true
  | .lead index => net.busGranted index = true → (net.delayLine index).head.req = true
  | .trail index =>
      (net.busGranted index = true → net.granted hart = true) ∧ net.mode.dmrWfi index = false
  | .stub => True

/-- In `cycle` the grants are shared, a grant reaches no private access, and a
line that `hart` is switched to owes no more than `hart` has outstanding. -/
structure ResponsesCovered : Prop where
  shared : GrantShared (net cycle) hart
  onNetwork : (net cycle).gnt hart = true → ((net cycle).coreReq hart).req = true →
    ((net cycle).request hart).req = true
  switched : (net (cycle + 1)).line hart ≠ (net cycle).line hart →
    (net (cycle + 1)).line hart ≠ .stub →
    lineOwes net hart (cycle + 1) ≤
      pending (fun index => (net index).granted hart) (fun index => (net index).rvalid hart)
        (cycle + 1)

end Lines

/-! ## One cycle on a line -/

namespace Network
variable {n : Nat} {net : Network n} {hart index : Hart}

theorem mode_of_lead (selected : net.line hart = .lead index) :
    index = hart ∧ net.mode.delayed = true ∧ net.mode.dualMode = true ∧
      net.mode.dmrWfi hart = false := by
  unfold line at selected
  split_ifs at selected
  simp_all

theorem mode_of_trail (selected : net.line hart = .trail index) :
    net.mode.delayed = true ∧ net.mode.dualMode = true ∧ net.mode.dmrWfi hart = false := by
  unfold line at selected
  split_ifs at selected <;> simp_all

theorem column_eq (net : Network n) (hart : Hart) :
    net.column hart = net.request hart ∨ net.column hart = .zero := by
  unfold column upperMux
  split_ifs
  all_goals first
    | exact Or.inl rfl
    | exact Or.inr rfl

theorem lowerRespDelayed_eq {mode : ModeSignals} (delayed : mode.delayed = true)
    (comparing : mode.dualMode = true) (resp : ObiResp) : lowerRespDelayed mode resp = resp := by
  simp [lowerRespDelayed, delayed, comparing]

theorem granted_of_lead (selected : net.line hart = .lead hart) :
    net.granted hart =
      ((net.column hart).req &&
        (net.delayLine hart).gntO (net.column hart) (net.busResp hart).gnt) := by
  obtain ⟨-, delayed, comparing, -⟩ := mode_of_lead selected
  unfold granted gnt
  rw [selected]
  simp only [lowerRespDelayed_eq delayed comparing]
  rcases column_eq net hart with own | idle
  · rw [own]
  · rw [idle, (net.delayLine hart).gntO_idle rfl, Bool.and_false, Bool.and_false]

end Network

section Step
variable {n : Nat} {net : Nat → Network n} {hart : Hart} {cycle : Nat}

theorem busPending_succ (bus : BusAnswers net) (port : Hart) (cycle : Nat) :
    busPending net port (cycle + 1) + ((net cycle).busResp port).rvalid.toNat =
      busPending net port cycle + ((net cycle).busGranted port).toNat :=
  pending_succ (bus port) cycle

theorem toNat_le_of_implies {cause effect : Bool} (implies : cause = true → effect = true) :
    cause.toNat ≤ effect.toNat := by
  cases cause with
  | false => exact Nat.zero_le _
  | true => rw [implies rfl]

theorem portOwes_kept (bus : BusAnswers net) {port : Hart}
    (selected : (net cycle).line hart = .port port)
    (shared : (net cycle).busGranted port = true → (net cycle).granted hart = true) :
    busPending net port (cycle + 1) + ((net cycle).rvalid hart).toNat ≤
      busPending net port cycle + ((net cycle).granted hart).toNat := by
  have account := busPending_succ bus port cycle
  have granted := toNat_le_of_implies shared
  have answered : ((net cycle).rvalid hart).toNat ≤ ((net cycle).busResp port).rvalid.toNat := by
    apply toNat_le_of_implies
    unfold Network.rvalid
    rw [selected]
    simp only [lowerRespDirect]
    split_ifs
    · intro silent
      simp [ObiResp.zero] at silent
    · exact id
  omega

theorem leadOwes_kept (bus : BusAnswers net) (steps : (net cycle).Steps (net (cycle + 1)))
    (selected : (net cycle).line hart = .lead hart)
    (shared : (net cycle).busGranted hart = true →
      ((net cycle).delayLine hart).head.req = true) :
    busPending net hart (cycle + 1) + ((net (cycle + 1)).delayLine hart).held.length +
        ((net cycle).rvalid hart).toNat ≤
      busPending net hart cycle + ((net cycle).delayLine hart).held.length +
        ((net cycle).granted hart).toNat := by
  obtain ⟨-, delayed, comparing, free⟩ := Network.mode_of_lead selected
  have account := busPending_succ bus hart cycle
  have answered : (net cycle).rvalid hart = ((net cycle).busResp hart).rvalid := by
    unfold Network.rvalid
    rw [selected]
    simp only [Network.lowerRespDelayed_eq delayed comparing]
  have enabled : (net cycle).lockstepEnable hart = true := by
    simp [Network.lockstepEnable, delayed, comparing, free]
  have moved := ((net cycle).delayLine hart).held_length_next ((net cycle).column hart)
    ((net cycle).busResp hart).gnt
  rw [← Network.granted_of_lead selected] at moved
  -- the head leaves the line at least when the bus grants it
  have delivered : ((net cycle).busGranted hart).toNat ≤
      (((net cycle).delayLine hart).head.req && ((net cycle).busResp hart).gnt).toNat := by
    apply toNat_le_of_implies
    intro granted
    rw [shared granted, Bool.true_and]
    exact (Bool.and_eq_true_iff.mp granted).2
  rw [steps.delayLine hart, enabled, Network.lowerRespDelayed_eq delayed comparing, answered,
    Bool.not_true]
  omega

theorem trailOwes_kept (bus : BusAnswers net) (steps : (net cycle).Steps (net (cycle + 1)))
    {index : Hart} (selected : (net cycle).line hart = .trail index)
    (shared : (net cycle).busGranted index = true → (net cycle).granted hart = true)
    (free : (net cycle).mode.dmrWfi index = false) :
    busPending net index (cycle + 1) +
          (∑ stage, ((net (cycle + 1)).answerLine index stage).toNat) +
        ((net cycle).rvalid hart).toNat ≤
      busPending net index cycle + (∑ stage, ((net cycle).answerLine index stage).toNat) +
        ((net cycle).granted hart).toNat := by
  obtain ⟨delayed, comparing, -⟩ := Network.mode_of_trail selected
  have account := busPending_succ bus index cycle
  have granted := toNat_le_of_implies shared
  have answered : (net cycle).rvalid hart = (net cycle).answerLine index (Fin.last n) := by
    unfold Network.rvalid
    rw [selected]
  have enabled : (net cycle).lockstepEnable index = true := by
    simp [Network.lockstepEnable, delayed, comparing, free]
  have moved := DelayLine.sum_shift Bool.toNat ((net cycle).busResp index).rvalid
    ((net cycle).answerLine index)
  rw [steps.answerLine index, enabled, if_pos rfl,
    Network.lowerRespDelayed_eq delayed comparing, answered]
  omega

/-- What a line owes goes down with each answer and up with each grant of the
hart, as long as the hart stays on it. -/
theorem lineOwes_kept (bus : BusAnswers net)
    (steps : (net cycle).Steps (net (cycle + 1))) (shared : GrantShared (net cycle) hart)
    (same : (net (cycle + 1)).line hart = (net cycle).line hart)
    (onBus : (net cycle).line hart ≠ .stub) :
    lineOwes net hart (cycle + 1) + ((net cycle).rvalid hart).toNat ≤
      lineOwes net hart cycle + ((net cycle).granted hart).toNat := by
  unfold lineOwes
  unfold GrantShared at shared
  rw [same]
  cases selected : (net cycle).line hart with
  | port port =>
    rw [selected] at shared
    exact portOwes_kept bus selected shared
  | lead index =>
    obtain ⟨rfl, _⟩ := Network.mode_of_lead selected
    rw [selected] at shared
    exact leadOwes_kept bus steps selected shared
  | trail index =>
    rw [selected] at shared
    exact trailOwes_kept bus steps selected shared.1 shared.2
  | stub => exact absurd selected onBus

/-- The stub has one answer to give at most, for a request granted to the hart. -/
theorem stubOwes_succ (steps : (net cycle).Steps (net (cycle + 1)))
    (onNetwork : (net cycle).gnt hart = true → ((net cycle).coreReq hart).req = true →
      ((net cycle).request hart).req = true) :
    stubOwes net hart (cycle + 1) ≤ ((net cycle).granted hart).toNat ∨
      ((net cycle).mode.dmrWfi hart = false ∧ (net cycle).rvalid hart = false ∧
        stubOwes net hart (cycle + 1) ≤ stubOwes net hart cycle) := by
  unfold stubOwes
  rw [steps.isolate hart]
  cases isolated : (net cycle).mode.dmrWfi hart with
  | true =>
    left
    have stub : (net cycle).gnt hart = ((net cycle).coreReq hart).req := by
      unfold Network.gnt Network.line
      rw [if_pos isolated]
    cases requested : ((net cycle).coreReq hart).req with
    | false => simp
    | true =>
      have granted := onNetwork (stub.trans requested) requested
      simp [Network.granted, granted, stub, requested]
  | false =>
    cases tracked : ((net cycle).coreReq hart).req && (net cycle).gnt hart with
    | true =>
      left
      obtain ⟨requested, gnt⟩ := Bool.and_eq_true_iff.mp tracked
      simp [Network.granted, onNetwork gnt requested, gnt]
    | false =>
      cases answered : (net cycle).rvalid hart with
      | true =>
        left
        simp
      | false =>
        right
        cases ((net cycle).isolate hart).expectedRvalid <;>
          cases ((net cycle).isolate hart).validQ <;> simp

theorem lineOwes_pos (bus : BusAnswers net) (answered : (net cycle).rvalid hart = true) :
    0 < lineOwes net hart cycle := by
  have fromBus : ∀ port, ((net cycle).busResp port).rvalid = true → 0 < busPending net port cycle :=
    fun port arrived => pending_pos (bus port) arrived
  unfold lineOwes
  cases selected : (net cycle).line hart with
  | port port =>
    apply fromBus
    simp only [Network.rvalid, selected, lowerRespDirect] at answered
    split_ifs at answered
    · simp [ObiResp.zero] at answered
    · exact answered
  | lead index =>
    obtain ⟨-, delayed, comparing, -⟩ := Network.mode_of_lead selected
    simp only [Network.rvalid, selected, Network.lowerRespDelayed_eq delayed comparing] at answered
    exact Nat.add_pos_left (fromBus index answered) _
  | trail index =>
    simp only [Network.rvalid, selected] at answered
    have last := Finset.single_le_sum
      (fun stage _ => Nat.zero_le ((net cycle).answerLine index stage).toNat)
      (Finset.mem_univ (Fin.last n))
    rw [answered, Bool.toNat_true] at last
    exact Nat.add_pos_right _ last
  | stub =>
    simp only [Network.rvalid, selected] at answered
    simp [stubOwes, answered]

end Step

/-! ## Runs -/

section Run
variable {n : Nat} {net : Nat → Network n} {hart : Hart}

/-- The registers that answers come from hold none. -/
structure Network.AtRest (net : Network n) : Prop where
  isolate : ∀ hart, net.isolate hart = ⟨false, false⟩
  delayLine : ∀ index, (net.delayLine index).held = []
  answerLine : ∀ index, net.answerLine index = fun _ => false

/-- What is still to come to `hart`, on its line or from the stub, it has been
granted. -/
structure Accounted (net : Nat → Network n) (hart : Hart) (cycle : Nat) : Prop where
  line : tally (fun index => (net index).rvalid hart) cycle + lineOwes net hart cycle ≤
    tally (fun index => (net index).granted hart) cycle
  stub : tally (fun index => (net index).rvalid hart) cycle + stubOwes net hart cycle ≤
    tally (fun index => (net index).granted hart) cycle

theorem accounted_start (rest : (net 0).AtRest) : Accounted net hart 0 := by
  have stub : stubOwes net hart 0 = 0 := by simp [stubOwes, rest.isolate]
  have line : lineOwes net hart 0 = 0 := by
    unfold lineOwes busPending pending
    cases (net 0).line hart <;> simp [rest.delayLine, rest.answerLine, stub]
  exact ⟨by simp [line], by simp [stub]⟩

theorem accounted_succ (bus : BusAnswers net) {cycle : Nat}
    (steps : (net cycle).Steps (net (cycle + 1))) (covered : ResponsesCovered net hart cycle)
    (before : Accounted net hart cycle) : Accounted net hart (cycle + 1) := by
  have owed : ((net cycle).rvalid hart).toNat ≤ lineOwes net hart cycle := by
    cases answered : (net cycle).rvalid hart with
    | false => exact Nat.zero_le _
    | true => exact lineOwes_pos bus answered
  have line := before.line
  have stub := before.stub
  have stubAfter : tally (fun index => (net index).rvalid hart) (cycle + 1) +
      stubOwes net hart (cycle + 1) ≤
        tally (fun index => (net index).granted hart) (cycle + 1) := by
    rw [tally_succ, tally_succ]
    rcases stubOwes_succ steps covered.onNetwork with fresh | ⟨_, silent, kept⟩
    · omega
    · rw [silent, Bool.toNat_false]
      omega
  refine ⟨?_, stubAfter⟩
  by_cases isolated : (net (cycle + 1)).line hart = .stub
  · have same : lineOwes net hart (cycle + 1) = stubOwes net hart (cycle + 1) := by
      unfold lineOwes
      rw [isolated]
    rw [same]
    exact stubAfter
  by_cases same : (net (cycle + 1)).line hart = (net cycle).line hart
  · have kept := lineOwes_kept bus steps covered.shared same (same ▸ isolated)
    rw [tally_succ, tally_succ]
    omega
  · have switched := covered.switched same isolated
    unfold pending at switched
    rw [tally_succ, tally_succ] at switched ⊢
    omega

/-- A hart whose responses are covered in every cycle is answered only what it
was granted. -/
theorem answered_of_covered (rest : (net 0).AtRest) (bus : BusAnswers net)
    (steps : ∀ cycle, (net cycle).Steps (net (cycle + 1)))
    (covered : ∀ cycle, ResponsesCovered net hart cycle) :
    Answered (fun index => (net index).granted hart) fun index => (net index).rvalid hart := by
  have accounted : ∀ cycle, Accounted net hart cycle := by
    intro cycle
    induction cycle with
    | zero => exact accounted_start rest
    | succ cycle ih => exact accounted_succ bus (steps cycle) (covered cycle) ih
  exact answered_of_owed (lineOwes net hart) (fun cycle => (accounted cycle).line)
    fun cycle => lineOwes_pos bus

end Run

/-- A run of the wrapper in which the buses answer each grant once, and every
hart's responses are covered on both networks in every cycle: no hart is answered
more than it was granted. -/
theorem no_phantom_when_covered (n : Nat) (inputs : Nat → SystemIn)
    (instrBus : BusAnswers (instrNetworks n inputs))
    (dataBus : BusAnswers (dataNetworks n inputs))
    (covered : ∀ cycle hart, ResponsesCovered (instrNetworks n inputs) hart cycle ∧
      ResponsesCovered (dataNetworks n inputs) hart cycle) (hart : Hart) :
    let run := (safeSystem n).run inputs
    Answered (fun cycle => (run cycle).instrGranted (inputs cycle) hart)
        (fun cycle => (run cycle).instrRvalid (inputs cycle) hart) ∧
      Answered (fun cycle => (run cycle).dataGranted (inputs cycle) hart)
        (fun cycle => (run cycle).dataRvalid (inputs cycle) hart) := by
  intro run
  simp only [SafeSystem.instrRvalid_eq, SafeSystem.instrGranted_eq, SafeSystem.dataRvalid_eq,
    SafeSystem.dataGranted_eq]
  have instrRest : (instrNetworks n inputs 0).AtRest :=
    ⟨fun _ => rfl, fun _ => ObiPipelinedDelay.held_fill_zero (n + 1), fun _ => rfl⟩
  have dataRest : (dataNetworks n inputs 0).AtRest :=
    ⟨fun _ => rfl, fun _ => ObiPipelinedDelay.held_fill_zero (n + 1), fun _ => rfl⟩
  constructor
  · exact answered_of_covered instrRest instrBus (instrNetworks_steps n inputs)
      fun cycle => (covered cycle hart).1
  · exact answered_of_covered dataRest dataBus (dataNetworks_steps n inputs)
      fun cycle => (covered cycle hart).2

/-! ## A voted fetch, and a fetch that outlives isolation -/

def silentIn : SystemIn where
  hartReq := fun _ => ⟨.zero, .zero, .zero⟩
  instrResp := fun _ => .zero
  dataResp := fun _ => .zero
  sleep := fun _ => false
  debugMode := fun _ => false
  hartIntcAck := fun _ => false
  debugReq := false
  masterCore := oneHot 0
  dmrMask := fun _ => false
  safeConfiguration := 0
  criticalSection := false
  initialSyncMaster := false
  start := false
  endSwRoutine := false

/-- The three harts fetch in BOOT, where the voter is enabled, and the bus
answers two cycles later. -/
def votedFetch : Nat → SystemIn
  | 2 => { silentIn with hartReq := fun _ => fetching 0x180, instrResp := portZero true false }
  | 4 => { silentIn with instrResp := portZero false true }
  | _ => silentIn

/-- The wrapper in BOOT, with every other machine idle. -/
structure Booting {n : Nat} (sys : SafeSystem n) : Prop where
  safe : sys.fsm.ctrlSafe = .boot
  tmr : ∀ hart, sys.fsm.ctrlTmr hart = .idle
  dmr : ∀ hart, sys.fsm.ctrlDmr hart = .idle
  direct : sys.fsm.delayFf = false
  master : sys.wrapper.masterCoreFf = oneHot 0

theorem Booting.next {n : Nat} {sys : SafeSystem n} {inp : SystemIn} (booting : Booting sys)
    (awake : inp.sleep = fun _ => false) : Booting (sys.next inp) := by
  have asleep : (sys.fsmIn inp).hartWfi = fun _ => false := awake
  refine ⟨?_, ?_, ?_, ?_, ?_⟩
  · change sys.fsm.ctrlSafeNext (sys.fsmIn inp) = .boot
    simp [SafeFsm.ctrlSafeNext, booting.safe, asleep, HartWires.all]
  · intro hart
    change sys.fsm.ctrlTmrNext (sys.fsmIn inp) hart = .idle
    simp [SafeFsm.ctrlTmrNext, booting.tmr, booting.safe]
  · intro hart
    change sys.fsm.ctrlDmrNext (sys.fsmIn inp) hart = .idle
    simp [SafeFsm.ctrlDmrNext, booting.dmr, booting.safe]
  · change (if SafeFsm.delayClear (sys.fsmIn inp) then false
      else if sys.fsm.delaySet (sys.fsmIn inp) then true else sys.fsm.delayFf) = false
    simp [SafeFsm.delaySet, SafeFsm.dmr, booting.dmr, booting.direct, dmrOut, DmrOut.default,
      HartWires.any]
  · change (if (sys.wrapperIn inp).sleep = fun _ => true then _
      else sys.wrapper.masterCoreFf) = oneHot 0
    have notAll : ¬(sys.wrapperIn inp).sleep = fun _ => true := by
      change ¬inp.sleep = fun _ => true
      rw [awake]
      intro same
      exact absurd (congrFun same 0) (by simp)
    rw [if_neg notAll, booting.master]

theorem votedFetch_awake (cycle : Nat) : (votedFetch cycle).sleep = fun _ => false := by
  unfold votedFetch
  split <;> rfl

theorem votedFetch_booting (later : Nat) :
    Booting ((safeSystem 1).run votedFetch (later + 1)) := by
  induction later with
  | zero => exact ⟨rfl, fun _ => rfl, fun _ => rfl, rfl, rfl⟩
  | succ later ih => exact ih.next (votedFetch_awake (later + 1))

theorem Booting.line {n : Nat} {sys : SafeSystem n} (booting : Booting sys) (inp : SystemIn)
    (hart : Hart) : (sys.instrNetwork inp).line hart = .port 0 ∧
      (sys.dataNetwork inp).line hart = .port 0 := by
  have mode : (sys.mode inp).dmrWfi hart = false ∧ (sys.mode inp).tmrVoterEnable = true ∧
      (sys.mode inp).delayed = false := by
    refine ⟨?_, ?_, ?_⟩
    · simp [SafeSystem.mode, SafeFsm.wfiDmrO, SafeFsm.dmr, booting.dmr, dmrOut, DmrOut.default]
    · simp [SafeSystem.mode, SafeFsm.tmrVoterEnableO, booting.safe, safeOut]
    · simp [SafeSystem.mode, SafeFsm.delayedO, SafeFsm.delaySet, SafeFsm.dmr, booting.dmr,
        booting.direct, dmrOut, DmrOut.default, HartWires.any]
  obtain ⟨free, voting, direct⟩ := mode
  have selected : ∀ net : Network n, net.mode = sys.mode inp → net.master = oneHot 0 →
      net.line hart = .port 0 := by
    intro net sameMode sameMaster
    simp [Network.line, sameMode, sameMaster, free, voting, direct]
  exact ⟨selected _ rfl booting.master, selected _ rfl booting.master⟩

set_option maxRecDepth 8000 in
/-- Every cycle of `votedFetch` in which a wire of the buses is high. -/
theorem votedFetch_wires (cycle : Nat) :
    (∀ port, ((votedFetch cycle).instrResp port).gnt = true → cycle = 2 ∧ port = 0) ∧
      (∀ port, ((votedFetch cycle).instrResp port).rvalid = true → cycle = 4 ∧ port = 0) ∧
      (votedFetch cycle).dataResp = (fun _ => .zero) ∧
      ∀ hart, ((votedFetch cycle).hartReq hart).coreData = .zero := by
  match cycle with
  | 0 | 1 | 2 | 3 | 4 => decide
  | later + 5 =>
    refine ⟨?_, ?_, rfl, fun _ => rfl⟩
    · intro port granted
      exact absurd granted (by simp [votedFetch, silentIn, ObiResp.zero])
    · intro port answered
      exact absurd answered (by simp [votedFetch, silentIn, ObiResp.zero])

set_option maxRecDepth 8000 in
theorem votedFetch_bus : BusAnswers (instrNetworks 1 votedFetch) := by
  intro port cycle answered
  obtain ⟨rfl, rfl⟩ := (votedFetch_wires cycle).2.1 port answered
  decide

theorem covered_of_ports {n : Nat} {net : Nat → Network n} {hart : Hart} {cycle : Nat}
    {port port' : Hart} (now : (net cycle).line hart = .port port)
    (next : (net (cycle + 1)).line hart = .port port')
    (shared : (net cycle).busGranted port = true → (net cycle).granted hart = true)
    (onNetwork : ((net cycle).coreReq hart).req = true → ((net cycle).request hart).req = true)
    (idle : port' = port ∨ busPending net port' (cycle + 1) = 0) :
    ResponsesCovered net hart cycle := by
  refine ⟨?_, fun _ => onNetwork, ?_⟩
  · unfold GrantShared
    rw [now]
    exact shared
  · intro changed _
    rcases idle with same | nothing
    · exact absurd (by rw [next, now, same]) changed
    · have owes : lineOwes net hart (cycle + 1) = busPending net port' (cycle + 1) := by
        unfold lineOwes
        rw [next]
      rw [owes, nothing]
      exact Nat.zero_le _

set_option maxRecDepth 8000 in
theorem votedFetch_covered (cycle : Nat) (hart : Hart) :
    ResponsesCovered (instrNetworks 1 votedFetch) hart cycle ∧
      ResponsesCovered (dataNetworks 1 votedFetch) hart cycle := by
  have noData : ∀ port, (dataNetworks 1 votedFetch cycle).busGranted port = true →
      (dataNetworks 1 votedFetch cycle).granted hart = true := by
    intro port granted
    have gnt : ((votedFetch cycle).dataResp port).gnt = true := (Bool.and_eq_true_iff.mp granted).2
    rw [(votedFetch_wires cycle).2.2.1] at gnt
    exact absurd gnt (by simp [ObiResp.zero])
  have noAccess : ((dataNetworks 1 votedFetch cycle).coreReq hart).req = true →
      ((dataNetworks 1 votedFetch cycle).request hart).req = true := by
    intro requested
    change ((votedFetch cycle).hartReq hart).coreData.req = true at requested
    rw [(votedFetch_wires cycle).2.2.2 hart] at requested
    exact absurd requested (by simp)
  cases cycle with
  | zero =>
    obtain ⟨instrNext, dataNext⟩ := (votedFetch_booting 0).line (votedFetch 1) hart
    have own : (instrNetworks 1 votedFetch 0).line hart = .port hart ∧
        (dataNetworks 1 votedFetch 0).line hart = .port hart := by
      revert hart
      decide
    constructor
    · refine covered_of_ports own.1 instrNext ?_ id (Or.inr rfl)
      intro granted
      obtain ⟨second, -⟩ := (votedFetch_wires 0).1 hart (Bool.and_eq_true_iff.mp granted).2
      omega
    · exact covered_of_ports own.2 dataNext (noData hart) noAccess (Or.inr rfl)
  | succ later =>
    obtain ⟨instrNow, dataNow⟩ := (votedFetch_booting later).line (votedFetch (later + 1)) hart
    obtain ⟨instrNext, dataNext⟩ :=
      (votedFetch_booting (later + 1)).line (votedFetch (later + 2)) hart
    constructor
    · refine covered_of_ports instrNow instrNext ?_ id (Or.inl rfl)
      intro granted
      obtain ⟨second, -⟩ := (votedFetch_wires (later + 1)).1 0 (Bool.and_eq_true_iff.mp granted).2
      obtain rfl : later = 1 := by omega
      revert hart
      decide
    · exact covered_of_ports dataNow dataNext (noData 0) noAccess (Or.inl rfl)

/-- The answer of a voted fetch is hart 2's own as well. -/
theorem votedFetch_answered :
    Answered (fun cycle => ((safeSystem 1).run votedFetch cycle).instrGranted (votedFetch cycle) 2)
        (fun cycle => ((safeSystem 1).run votedFetch cycle).instrRvalid (votedFetch cycle) 2) ∧
      Answered (fun cycle => ((safeSystem 1).run votedFetch cycle).dataGranted (votedFetch cycle) 2)
        (fun cycle => ((safeSystem 1).run votedFetch cycle).dataRvalid (votedFetch cycle) 2) :=
  no_phantom_when_covered 1 votedFetch votedFetch_bus
    (busAnswers_of_silent fun cycle => (votedFetch_wires cycle).2.2.1) votedFetch_covered 2

/-- The pair fetches and is granted; hart 0 fetches on alone.  The isolated harts
are answered by the stub and fall asleep, and the bus answers the first fetch
when isolation is lifted. -/
def slowFetch : Nat → SystemIn
  | 0 =>
    { pairSystemIn 0b10#2 with
      hartReq := fun hart => if hart = 2 then ⟨.zero, .zero, .zero⟩ else fetching 0x100
      instrResp := portZero true false }
  | 1 | 2 =>
    { pairSystemIn 0b10#2 with
      hartReq := fun hart => if hart = 0 then fetching 0x104 else ⟨.zero, .zero, .zero⟩ }
  | 4 => { pairSystemIn 0b10#2 with sleep := fun _ => true }
  | 5 => { pairSystemIn 0b10#2 with instrResp := portZero false true }
  | _ => pairSystemIn 0b10#2

set_option maxRecDepth 8000 in
theorem slowFetch_wires (cycle : Nat) :
    (∀ port, ((enterPairThen 0b10#2 slowFetch cycle).instrResp port).rvalid = true →
        cycle = 11 ∧ port = 0) ∧
      (enterPairThen 0b10#2 slowFetch cycle).dataResp = fun _ => .zero := by
  match cycle with
  | 0 | 1 | 2 | 3 | 4 | 5 | 6 | 7 | 8 | 9 | 10 | 11 => decide
  | later + 12 =>
    refine ⟨?_, rfl⟩
    intro port answered
    exact absurd answered (by simp [enterPairThen, slowFetch, pairSystemIn, ObiResp.zero])

set_option maxRecDepth 8000 in
/-- The stub and the bus both answer the fetch. -/
theorem slow_fetch_answered_twice :
    ¬∀ (n : Nat) (inputs : Nat → SystemIn), BusAnswers (instrNetworks n inputs) →
      BusAnswers (dataNetworks n inputs) → ∀ hart,
        Answered (fun cycle =>
            ((safeSystem n).run inputs cycle).instrGranted (inputs cycle) hart)
          (fun cycle => ((safeSystem n).run inputs cycle).instrRvalid (inputs cycle) hart) ∧
        Answered (fun cycle =>
            ((safeSystem n).run inputs cycle).dataGranted (inputs cycle) hart)
          (fun cycle => ((safeSystem n).run inputs cycle).dataRvalid (inputs cycle) hart) := by
  intro claimed
  have bus : BusAnswers (instrNetworks 0 (enterPairThen 0b10#2 slowFetch)) := by
    intro port cycle answered
    obtain ⟨rfl, rfl⟩ := (slowFetch_wires cycle).1 port answered
    decide
  have dataBus : BusAnswers (dataNetworks 0 (enterPairThen 0b10#2 slowFetch)) :=
    busAnswers_of_silent fun cycle => (slowFetch_wires cycle).2
  have answered := (claimed 0 (enterPairThen 0b10#2 slowFetch) bus dataBus 0).1 11 (by decide)
  exact absurd answered (by decide)

end Eros
