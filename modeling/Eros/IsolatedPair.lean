import Eros.IsolationResponses
import Eros.PhantomResponses

/-!
# The bus under an isolated pair

Isolation replaces the responses of a stopped pair and leaves the requests to
the comparator.  Agreeing requests pass it, so that an access is performed by
the bus and answered by the stub; the master's delay line is cleared from the
first isolated cycle on.  An access that the bus has granted before the pair is
isolated is answered by the stub as well.
-/

set_option autoImplicit false

namespace Eros

open Outstanding

theorem dualMode_of_isolated {n : Nat} {sys : SafeSystem n} {inp : SystemIn} {hart : Hart}
    (isolated : (sys.mode inp).dmrWfi hart = true) : (sys.mode inp).dualMode = true := by
  have stop : sys.fsm.ctrlDmr hart = .stop := dmrOut_wfiDmr.mp isolated
  apply dmrComparatorEnableO_of_machine hart
  simp [SafeFsm.dmr, stop, dmrOut]

section Cycle
variable {n : Nat} {regs : WrapperRegs n} {inp : WrapperIn} {master : Hart}

def BusSilent (regs : WrapperRegs n) (inp : WrapperIn) : Prop :=
  ∀ port, (regs.coreInstrReqO inp port).req = false ∧ (regs.coreDataReqO inp port).req = false

/-- The comparator of `master` passes a request of the pair. -/
def PassesRequest (regs : WrapperRegs n) (inp : WrapperIn) (master : Hart) : Prop :=
  (regs.presentedInstr inp master).Agree ∧ (regs.presentedData inp master).Agree ∧
    ((regs.presentedInstr inp master).master.req = true ∨
      (regs.presentedData inp master).master.req = true)

theorem comparator_silent_iff (master : Hart) :
    ((regs.comparator inp master).instr.req = false ∧
        (regs.comparator inp master).data.req = false) ↔
      ¬PassesRequest regs inp master := by
  constructor
  · rintro ⟨instr, data⟩ ⟨instrAgree, dataAgree, requests⟩
    have passed : regs.comparator inp master =
        ⟨(regs.presentedInstr inp master).master, (regs.presentedData inp master).master, false⟩ :=
      dmrComparator_of_agree _ _ instrAgree dataAgree
    rw [passed] at instr data
    rcases requests with request | request
    · simp [request] at instr
    · simp [request] at data
  · intro blocked
    by_contra drives
    have requested : (regs.comparator inp master).instr.req = true ∨
        (regs.comparator inp master).data.req = true := by
      by_contra silent
      push Not at silent
      exact drives ⟨by simpa using silent.1, by simpa using silent.2⟩
    obtain ⟨instrAgree, dataAgree⟩ := (dmrComparator_error_eq_false_iff _ _).mp
      (dmrComparator_error_of_req _ _ requested)
    have passed : regs.comparator inp master =
        ⟨(regs.presentedInstr inp master).master, (regs.presentedData inp master).master, false⟩ :=
      dmrComparator_of_agree _ _ instrAgree dataAgree
    rw [passed] at requested
    exact blocked ⟨instrAgree, dataAgree, requested⟩

theorem coreReqO_of_otherPort (latched : regs.masterCoreFf = oneHot master)
    (comparing : inp.mode.dualMode = true) {port : Hart} (other : port ≠ master) :
    regs.coreInstrReqO inp port = .zero ∧ regs.coreDataReqO inp port = .zero := by
  have idle : ∀ request : Hart → ObiReq,
      upperMux (oneHot master) inp.mode request port port = .zero := by
    intro request
    rw [upperMux_of_protected _ _ _ _ _ (by simp [comparing]), if_neg other]
  constructor <;>
    simp [WrapperRegs.coreInstrReqO, WrapperRegs.coreDataReqO, lowerMux, latched,
      oneHot_of_ne other, WrapperRegs.upperInstr, WrapperRegs.upperData, idle]

/-- The master's port drives what the comparator passes, and the master's own
requests while the voter is enabled as well. -/
theorem coreReqO_of_masterPort (latched : regs.masterCoreFf = oneHot master)
    (comparing : inp.mode.dualMode = true) :
    regs.coreInstrReqO inp master =
        (if inp.mode.tmrVoterEnable then (inp.hartReq master).instr
          else (regs.comparator inp master).instr) ∧
      regs.coreDataReqO inp master =
        (if inp.mode.tmrVoterEnable then (inp.hartReq master).data
          else (regs.comparator inp master).data) := by
  have own : ∀ request : Hart → ObiReq,
      upperMux (oneHot master) inp.mode request master master = request master := by
    intro request
    rw [upperMux_of_protected _ _ _ _ _ (by simp [comparing]), if_pos rfl]
  cases voting : inp.mode.tmrVoterEnable <;>
    simp [WrapperRegs.coreInstrReqO, WrapperRegs.coreDataReqO, lowerMux, latched, comparing,
      voting, WrapperRegs.upperInstr, WrapperRegs.upperData, own]

/-- Nothing of the pair passes: the comparator blocks or sees no request, and
with the voter enabled as well the master does not request. -/
def NothingPasses (regs : WrapperRegs n) (inp : WrapperIn) (master : Hart) : Prop :=
  if inp.mode.tmrVoterEnable then
    (inp.hartReq master).instr.req = false ∧ (inp.hartReq master).data.req = false
  else ¬PassesRequest regs inp master

theorem busSilent_iff (latched : regs.masterCoreFf = oneHot master)
    (comparing : inp.mode.dualMode = true) :
    BusSilent regs inp ↔ NothingPasses regs inp master := by
  have masterPort : BusSilent regs inp ↔ (regs.coreInstrReqO inp master).req = false ∧
      (regs.coreDataReqO inp master).req = false := by
    constructor
    · exact fun silent => silent master
    · intro atMaster port
      by_cases other : port = master
      · rw [other]
        exact atMaster
      · obtain ⟨instr, data⟩ := coreReqO_of_otherPort latched comparing other
        simp [instr, data]
  obtain ⟨instr, data⟩ := coreReqO_of_masterPort latched comparing
  rw [masterPort, instr, data, NothingPasses]
  split_ifs with voting
  · exact Iff.rfl
  · exact comparator_silent_iff master

end Cycle

/-! ## The cleared delay line -/

theorem chainNext_cleared (request : ObiReq) (gntIn : Bool) (stages : List ObiReq) :
    ∀ stage ∈ chainNext request gntIn true stages, stage.req = false := by
  induction stages generalizing request with
  | nil => simp [chainNext]
  | cons held rest ih =>
    intro stage member
    rcases List.mem_cons.mp member with first | later
    · rw [first]
      simp [sngregNext, sngregClear]
    · exact ih held stage later

theorem head_of_cleared {depth : Nat} (line : ObiPipelinedDelay (depth + 1)) (request : ObiReq)
    (gntIn : Bool) : (line.next request gntIn true).head.req = false :=
  chainNext_cleared request gntIn line.stages _ (List.getLast_mem _)

/-- In delayed lockstep a master isolated in the cycle before passes nothing. -/
theorem delayed_pair_blocked {n : Nat} {regs : WrapperRegs n} {inp inp' : WrapperIn}
    {master : Hart} (isolated : inp.mode.dmrWfi master = true)
    (comparing : inp'.mode.dualMode = true) (delayed : inp'.mode.delayed = true) :
    ¬PassesRequest (regs.next inp) inp' master := by
  have cleared : ((regs.next inp).lockstep master).instrReq.head.req = false ∧
      ((regs.next inp).lockstep master).dataReq.head.req = false := by
    simp only [WrapperRegs.next, isolated, Bool.not_true, Bool.and_false, LockstepReg.next,
      Bool.not_false]
    exact ⟨head_of_cleared _ _ _, head_of_cleared _ _ _⟩
  rintro ⟨_, _, requests⟩
  simp [WrapperRegs.presentedInstr, WrapperRegs.presentedData, lockstepMux, comparing, delayed,
    LockstepReg.instrReqO, LockstepReg.dataReqO, ObiPipelinedDelay.reqO_eq_head, cleared]
    at requests

/-! ## The accesses of a hart

An access is named by the cycle in which the hart was granted it. -/

/-- The hart that comparator `index` compares with its own. -/
def checker (dmrConfig : HartWires) : Hart → Hart
  | 0 => if dmrConfig 1 then 1 else 2
  | 1 => if dmrConfig 0 then 0 else 2
  | 2 => if dmrConfig 1 then 1 else 0

namespace Network
variable {n : Nat} (net : Network n) (hart port index : Hart)

/-- What `port` drives is voted, compared or taken from the request that `hart`
makes in this cycle.  The master of delayed lockstep is compared by the head of
its delay line. -/
def presents : Bool :=
  decide (upperMux net.master net.mode net.request hart port = net.request hart) &&
    if net.master port && net.mode.tmrVoterEnable && !net.mode.dualMode then true
    else if net.master port && !net.mode.tmrVoterEnable && net.mode.dualMode then
      (decide (hart = port) && !net.mode.delayed) || decide (hart = checker net.mode.dmrConfig port)
    else decide (hart = port)

/-- Port `index` drives a request off the delay line. -/
def drivesHead : Bool :=
  net.master index && !net.mode.tmrVoterEnable && net.mode.dualMode && net.mode.delayed &&
    (net.delayLine index).head.req

def entersLine : Bool :=
  (net.column index).req &&
    (net.delayLine index).gntO (net.column index)
      (lowerRespDelayed net.mode (net.busResp index)).gnt

def leavesLine : Bool :=
  (net.delayLine index).head.req && (lowerRespDelayed net.mode (net.busResp index)).gnt

end Network

section Accesses
variable {n : Nat} (net : Nat → Network n) (hart : Hart)

/-- The accesses `hart` waits for; answers come in order. -/
def awaited : Nat → List Nat :=
  queued (fun cycle => (net cycle).granted hart) (fun cycle => (net cycle).rvalid hart)
    fun _ => false

/-- The accesses in the delay line of `index`. -/
def inLine (index : Hart) : Nat → List Nat :=
  queued (fun cycle => (net cycle).entersLine index) (fun cycle => (net cycle).leavesLine index)
    fun cycle => !(net cycle).lockstepEnable index

/-- The access of `hart` granted in `origin` is granted on the bus in `cycle`. -/
def PerformedIn (origin cycle : Nat) : Prop :=
  (origin = cycle ∧ ∃ port, (net cycle).presents hart port = true ∧
      (net cycle).busGranted port = true) ∨
    ((net cycle).drivesHead hart = true ∧ (net cycle).busGranted hart = true ∧
      (inLine net hart cycle).head? = some origin)

/-- The stub answers the access of `hart` granted in `origin`. -/
def StubAnswers (origin cycle : Nat) : Prop :=
  (net cycle).mode.dmrWfi hart = true ∧ (net cycle).rvalid hart = true ∧
    (awaited net hart cycle).head? = some origin

/-- What the stub answers in `cycle` is never performed by the bus. -/
def StubAlone (cycle : Nat) : Prop :=
  ∀ origin, StubAnswers net hart origin cycle → ∀ moment, ¬PerformedIn net hart origin moment

/-- The stub has an answer to give: `hart` was granted a request since its last
answer, or has sent one to the stub in the cycle before. -/
def StubDue (cycle : Nat) : Prop :=
  GrantedSinceAnswer net hart cycle ∨
    ∃ before, before + 1 = cycle ∧ (net before).mode.dmrWfi hart = true ∧
      ((net before).coreReq hart).req = true

/-- The access the stub has to answer in `cycle` is none that was granted before
`rise` and went out on the bus before `rise`. -/
def NoneOnBus (rise cycle : Nat) : Prop :=
  StubDue net hart cycle → ∀ origin, (awaited net hart cycle).head? = some origin →
    origin < rise → ∀ moment, moment < rise → ¬PerformedIn net hart origin moment

end Accesses

section StubRun
variable {n : Nat} {net : Nat → Network n} {hart : Hart} {origin cycle moment : Nat}

theorem stub_answers_iff (start : (net 0).isolate hart = ⟨false, false⟩)
    (steps : ∀ cycle, (net cycle).Steps (net (cycle + 1)))
    (isolated : (net cycle).mode.dmrWfi hart = true) :
    (net cycle).rvalid hart = true ↔ StubDue net hart cycle := by
  have answer : (net cycle).rvalid hart =
      (((net cycle).isolate hart).validQ || ((net cycle).isolate hart).expectedRvalid) := by
    unfold Network.rvalid
    rw [Network.line_of_isolated isolated]
  have sent : ((net cycle).isolate hart).validQ = true ↔
      ∃ before, before + 1 = cycle ∧ (net before).mode.dmrWfi hart = true ∧
        ((net before).coreReq hart).req = true := by
    cases cycle with
    | zero => simp [start]
    | succ before =>
      rw [(steps before).isolate hart]
      split_ifs with isolatedBefore
      · simp [isolatedBefore]
      · simp [isolatedBefore]
  rw [answer, Bool.or_eq_true, or_comm, expectedRvalid_iff start steps, sent]
  rfl

theorem not_performedIn_of_silent (silent : ∀ port, ((net moment).busReq port).req = false) :
    ¬PerformedIn net hart origin moment := by
  have noGrant : ∀ port, (net moment).busGranted port = false := by
    intro port
    simp [Network.busGranted, silent port]
  rintro (⟨-, port, -, granted⟩ | ⟨-, granted, -⟩)
  · exact absurd granted (by simp [noGrant])
  · exact absurd granted (by simp [noGrant])

theorem not_performedIn_of_cleared (isolated : (net cycle).mode.dmrWfi hart = true)
    (entered : origin ≤ cycle) (after : cycle < moment) : ¬PerformedIn net hart origin moment := by
  rintro (⟨same, -⟩ | ⟨-, -, first⟩)
  · omega
  · have cleared : (!(net cycle).lockstepEnable hart) = true := by
      simp [Network.lockstepEnable, isolated]
    have fresh := lt_of_mem_queued_cleared cleared after (List.mem_of_head? first)
    omega

theorem not_performedIn_before_grant (early : moment < origin) :
    ¬PerformedIn net hart origin moment := by
  rintro (⟨same, -⟩ | ⟨-, -, first⟩)
  · omega
  · have entered := lt_of_mem_queued (List.mem_of_head? first)
    omega

/-- Under a bus that is silent since `rise`, only what the hart was granted before
can have been performed. -/
theorem stubAlone_iff (start : (net 0).isolate hart = ⟨false, false⟩)
    (steps : ∀ cycle, (net cycle).Steps (net (cycle + 1)))
    (isolated : (net cycle).mode.dmrWfi hart = true) {rise : Nat}
    (silent : ∀ index, rise ≤ index → index ≤ cycle → ∀ port,
      ((net index).busReq port).req = false) :
    StubAlone net hart cycle ↔ NoneOnBus net hart rise cycle := by
  have due := stub_answers_iff start steps isolated
  constructor
  · intro alone owed origin first _ moment _
    exact alone origin ⟨isolated, due.mpr owed, first⟩ moment
  · rintro clear origin ⟨-, answered, first⟩ moment
    have granted : origin < cycle := lt_of_mem_queued (List.mem_of_head? first)
    by_cases after : cycle < moment
    · exact not_performedIn_of_cleared isolated granted.le after
    by_cases since : rise ≤ moment
    · exact not_performedIn_of_silent (silent moment since (by omega))
    by_cases before : origin < rise
    · exact clear (due.mp answered) origin first before moment (by omega)
    · exact not_performedIn_before_grant (by omega)

end StubRun

/-! ## Runs -/

section Run
variable (n : Nat) (inputs : Nat → SystemIn)

def SilentAt (cycle : Nat) : Prop :=
  BusSilent ((safeSystem n).run inputs cycle).wrapper
    (((safeSystem n).run inputs cycle).wrapperIn (inputs cycle))

def BlockedAt (master : Hart) (cycle : Nat) : Prop :=
  NothingPasses ((safeSystem n).run inputs cycle).wrapper
    (((safeSystem n).run inputs cycle).wrapperIn (inputs cycle)) master

def StubAloneAt (hart : Hart) (cycle : Nat) : Prop :=
  StubAlone (instrNetworks n inputs) hart cycle ∧ StubAlone (dataNetworks n inputs) hart cycle

def NoneOnBusAt (rise : Nat) (hart : Hart) (cycle : Nat) : Prop :=
  NoneOnBus (instrNetworks n inputs) hart rise cycle ∧
    NoneOnBus (dataNetworks n inputs) hart rise cycle

/-- Both harts are isolated, under a one-hot latched master. -/
structure PairIsolated (master first second : Hart) (cycle : Nat) : Prop where
  latched : ((safeSystem n).run inputs cycle).wrapper.masterCoreFf = oneHot master
  first : (((safeSystem n).run inputs cycle).wrapperIn (inputs cycle)).mode.dmrWfi first = true
  second : (((safeSystem n).run inputs cycle).wrapperIn (inputs cycle)).mode.dmrWfi second = true

variable {n inputs} {master first second : Hart} {rise cycle : Nat}

theorem PairIsolated.silentAt_iff (isolated : PairIsolated n inputs master first second cycle) :
    SilentAt n inputs cycle ↔ BlockedAt n inputs master cycle :=
  busSilent_iff isolated.latched (dualMode_of_isolated isolated.first)

theorem stubAloneAt_iff {hart : Hart}
    (stopped : (((safeSystem n).run inputs cycle).wrapperIn (inputs cycle)).mode.dmrWfi hart = true)
    (silent : ∀ index, rise ≤ index → index ≤ cycle → SilentAt n inputs index) :
    StubAloneAt n inputs hart cycle ↔ NoneOnBusAt n inputs rise hart cycle :=
  and_congr
    (stubAlone_iff rfl (instrNetworks_steps n inputs) stopped
      fun index late upto port => (silent index late upto port).1)
    (stubAlone_iff rfl (dataNetworks_steps n inputs) stopped
      fun index late upto port => (silent index late upto port).2)

theorem PairIsolated.silentAt_of_delayed
    (isolated : PairIsolated n inputs master first second (cycle + 1))
    (delayed : (((safeSystem n).run inputs (cycle + 1)).wrapperIn
      (inputs (cycle + 1))).mode.delayed = true)
    (notVoting : (((safeSystem n).run inputs (cycle + 1)).wrapperIn
      (inputs (cycle + 1))).mode.tmrVoterEnable = false)
    (before : (((safeSystem n).run inputs cycle).wrapperIn (inputs cycle)).mode.dmrWfi master =
      true) :
    SilentAt n inputs (cycle + 1) := by
  rw [isolated.silentAt_iff, BlockedAt, NothingPasses, notVoting, if_neg (by simp)]
  exact delayed_pair_blocked before (dualMode_of_isolated isolated.first) delayed

end Run

/-- Over any cycles of any run in which the two harts of a pair are isolated, each with
some one-hot latched master, the bus is silent and performs nothing that the stub
answers if and only if nothing of the pair passes and nothing that the stub has to
answer was on the bus before the isolation.  Silence alone is that nothing passes; in
delayed lockstep, voter off, that is so from the second isolated cycle of the master on. -/
theorem isolated_pair_silent_iff (n : Nat) (inputs : Nat → SystemIn) (master : Nat → Hart)
    (first second : Hart) (rise last : Nat)
    (isolated : ∀ cycle, rise ≤ cycle → cycle ≤ last →
      PairIsolated n inputs (master cycle) first second cycle) :
    ((∀ cycle, rise ≤ cycle → cycle ≤ last →
        SilentAt n inputs cycle ∧ StubAloneAt n inputs first cycle ∧
          StubAloneAt n inputs second cycle) ↔
      ∀ cycle, rise ≤ cycle → cycle ≤ last →
        BlockedAt n inputs (master cycle) cycle ∧ NoneOnBusAt n inputs rise first cycle ∧
          NoneOnBusAt n inputs rise second cycle) ∧
      ∀ cycle, rise ≤ cycle → cycle ≤ last →
        (SilentAt n inputs cycle ↔ BlockedAt n inputs (master cycle) cycle) ∧
          ∀ before, before + 1 = cycle →
            (((safeSystem n).run inputs cycle).wrapperIn (inputs cycle)).mode.delayed = true →
            (((safeSystem n).run inputs cycle).wrapperIn (inputs cycle)).mode.tmrVoterEnable =
              false →
            (((safeSystem n).run inputs before).wrapperIn (inputs before)).mode.dmrWfi
              (master cycle) = true →
            SilentAt n inputs cycle := by
  refine ⟨⟨fun quiet cycle since upto => ?_, fun clear cycle since upto => ?_⟩,
    fun cycle since upto => ⟨(isolated cycle since upto).silentAt_iff, ?_⟩⟩
  · have pair := isolated cycle since upto
    have silent : ∀ index, rise ≤ index → index ≤ cycle → SilentAt n inputs index :=
      fun index late early => (quiet index late (by omega)).1
    obtain ⟨now, aloneFirst, aloneSecond⟩ := quiet cycle since upto
    exact ⟨pair.silentAt_iff.mp now, (stubAloneAt_iff pair.first silent).mp aloneFirst,
      (stubAloneAt_iff pair.second silent).mp aloneSecond⟩
  · have pair := isolated cycle since upto
    have silent : ∀ index, rise ≤ index → index ≤ cycle → SilentAt n inputs index := by
      intro index late early
      exact (isolated index late (by omega)).silentAt_iff.mpr (clear index late (by omega)).1
    obtain ⟨-, offFirst, offSecond⟩ := clear cycle since upto
    exact ⟨silent cycle since le_rfl, (stubAloneAt_iff pair.first silent).mpr offFirst,
      (stubAloneAt_iff pair.second silent).mpr offSecond⟩
  · rintro before rfl delayed notVoting earlier
    exact (isolated _ since upto).silentAt_of_delayed delayed notVoting earlier

/-- The pair stops on a mismatch in cycle 6 and both harts fetch `fetched` in
cycle 7, in which they are isolated. -/
def fetchInStop (fetched : Hart → Word) : Nat → SystemIn :=
  enterPairThen 0b10#2 fun later =>
    { pairSystemIn 0b10#2 with
      hartReq := fun hart =>
        if later = 0 then if hart = 0 then fetching 0x100 else ⟨.zero, .zero, .zero⟩
        else if later = 1 then fetching (fetched hart) else ⟨.zero, .zero, .zero⟩ }

def splitFetches : Nat → SystemIn := fetchInStop fun hart => if hart = 0 then 0x104 else 0x200

set_option maxRecDepth 8000 in
/-- The stub owes nothing in cycle 7, and in cycle 8 each of the pair waits for the
fetch of cycle 7 only. -/
theorem splitFetches_awaited :
    (∀ hart, (awaited (instrNetworks 1 splitFetches) hart 7).head? = none) ∧
      (∀ hart, hart ≠ 2 → (awaited (instrNetworks 1 splitFetches) hart 8).head? = some 7) ∧
      (∀ hart, (awaited (dataNetworks 1 splitFetches) hart 7).head? = none) ∧
      ∀ hart, (awaited (dataNetworks 1 splitFetches) hart 8).head? = none := by
  decide +kernel

theorem splitFetches_offBus {hart : Hart} (inPair : hart ≠ 2) {cycle : Nat} (since : 7 ≤ cycle)
    (upto : cycle ≤ 8) : NoneOnBusAt 1 splitFetches 7 hart cycle := by
  obtain ⟨instr, instrLater, data, dataLater⟩ := splitFetches_awaited
  obtain rfl | rfl : cycle = 7 ∨ cycle = 8 := by omega
  · constructor
    · intro _ origin oldest
      rw [instr hart] at oldest
      cases oldest
    · intro _ origin oldest
      rw [data hart] at oldest
      cases oldest
  · constructor
    · intro _ origin oldest before
      rw [instrLater hart inPair] at oldest
      cases oldest
      omega
    · intro _ origin oldest
      rw [dataLater hart] at oldest
      cases oldest

set_option maxRecDepth 8000 in
theorem splitFetches_isolated {cycle : Nat} (since : 7 ≤ cycle) (upto : cycle ≤ 8) :
    PairIsolated 1 splitFetches 0 0 1 cycle := by
  obtain rfl | rfl : cycle = 7 ∨ cycle = 8 := by omega
  · exact ⟨by decide, by decide, by decide⟩
  · exact ⟨by decide, by decide, by decide⟩

set_option maxRecDepth 8000 in
theorem splitFetches_blocked {cycle : Nat} (since : 7 ≤ cycle) (upto : cycle ≤ 8) :
    BlockedAt 1 splitFetches 0 cycle := by
  obtain rfl | rfl : cycle = 7 ∨ cycle = 8 := by omega
  · rw [BlockedAt, NothingPasses, if_neg (by decide)]
    rintro ⟨instr, _⟩
    exact absurd (instr.2.2.2.1 (by decide)) (by decide)
  · rw [BlockedAt, NothingPasses, if_neg (by decide)]
    rintro ⟨_, _, requests⟩
    exact absurd requests (by decide)

set_option maxRecDepth 8000 in
/-- Different fetches of the isolated pair stay off the bus, and only the stub
answers them. -/
theorem split_fetches_silent :
    SilentAt 1 splitFetches 7 ∧ StubAnswers (instrNetworks 1 splitFetches) 0 7 8 ∧
      StubAloneAt 1 splitFetches 0 8 ∧ StubAloneAt 1 splitFetches 1 8 := by
  have quiet := (isolated_pair_silent_iff 1 splitFetches (fun _ => 0) 0 1 7 8
    fun _ since upto => splitFetches_isolated since upto).1.mpr fun cycle since upto =>
      ⟨splitFetches_blocked since upto, splitFetches_offBus (by decide) since upto,
        splitFetches_offBus (by decide) since upto⟩
  obtain ⟨-, aloneFirst, aloneSecond⟩ := quiet 8 (by omega) le_rfl
  exact ⟨(quiet 7 le_rfl (by omega)).1,
    ⟨by decide, by decide, splitFetches_awaited.2.1 0 (by decide)⟩, aloneFirst, aloneSecond⟩

set_option maxRecDepth 8000 in
/-- The same fetch of both is answered by the stub and driven on the bus.  And
where the bus is silent, the stub answers a fetch that the bus has granted
before. -/
theorem equal_fetches_reach_bus :
    (¬∀ (n : Nat) (inputs : Nat → SystemIn) (cycle : Nat) (master first second : Hart),
      first ≠ second → (inputs cycle).dmrMask first = true →
      (inputs cycle).dmrMask second = true →
      PairIsolated n inputs master first second cycle → SilentAt n inputs cycle) ∧
    ¬∀ (n : Nat) (inputs : Nat → SystemIn) (cycle : Nat) (master first second : Hart),
      first ≠ second → (inputs cycle).dmrMask first = true →
      (inputs cycle).dmrMask second = true →
      PairIsolated n inputs master first second cycle →
        StubAloneAt n inputs first cycle ∧ StubAloneAt n inputs second cycle := by
  constructor
  · intro claimed
    have silent := claimed 1 (fetchInStop fun _ => 0x104) 7 0 0 1 (by decide) (by decide)
      (by decide) ⟨by decide, by decide, by decide⟩
    exact absurd (silent 0).1 (by decide)
  · intro claimed
    have alone := (claimed 0 (enterPairThen 0b10#2 slowFetch) 8 0 0 1 (by decide) (by decide)
      (by decide) ⟨by decide, by decide, by decide⟩).1.1
    exact alone 6 ⟨by decide, by decide, by decide +kernel⟩ 6
      (Or.inl ⟨rfl, 0, by decide, by decide⟩)

end Eros
