import Eros.LockstepPort

/-!
# Delayed lockstep on a bus that stalls

Master and checker on one port of a `lockstep_reg`, a comparator, and a bus that
grants what the comparator presents whenever it likes and answers later.  The
line grants the master at once, so that the distance of the two cores grows by
the stall of every request; the response registers bring it back to `n + 1`
cycles.  The invariant says that the line holds the master's last requests with
the checker's request at its end, and that the checker is the master `n + 1`
cycles ago or still presents what the master waits for.
-/

set_option autoImplicit false

namespace Eros

open Fifo

/-! ## A core on one port -/

/-- A core that computes between transactions.  It waits from the grant of a
request to its answer, and requests nothing then. -/
structure PortCore (State : Type*) where
  request : State → ObiReq
  waiting : State → Bool
  compute : State → State
  accept : State → State
  answer : State → Word → State
  waiting_silent : ∀ state, waiting state = true → (request state).req = false
  compute_free : ∀ state, waiting state = false → (request state).req = false →
    waiting (compute state) = false
  accept_waits : ∀ state, (request state).req = true → waiting (accept state) = true
  answer_free : ∀ state data, waiting state = true → waiting (answer state data) = false

namespace PortCore
variable {State : Type*} (core : PortCore State)

/-- Frozen until granted, and from the grant to the answer. -/
def next (state : State) (resp : ObiResp) : State :=
  if core.waiting state then if resp.rvalid then core.answer state resp.rdata else state
  else if (core.request state).req then if resp.gnt then core.accept state else state
  else core.compute state

/-- The request handed over in a cycle. -/
def asks (state : State) (resp : ObiResp) : Option ObiReq := transfer (core.request state) resp.gnt

/-- The answer taken in a cycle. -/
def hears (state : State) (resp : ObiResp) : Option Word :=
  if core.waiting state && resp.rvalid then some resp.rdata else none

theorem not_waiting_of_req {state : State} (requests : (core.request state).req = true) :
    core.waiting state = false := by
  by_contra waits
  have silent := core.waiting_silent state (Bool.eq_true_of_not_eq_false waits)
  rw [silent] at requests
  exact absurd requests (by decide)

section Next
variable {state : State} {resp : ObiResp}

theorem next_of_unanswered (waits : core.waiting state = true) (none : resp.rvalid = false) :
    core.next state resp = state := by
  simp [next, waits, none]

theorem next_of_answered (waits : core.waiting state = true) (answered : resp.rvalid = true) :
    core.next state resp = core.answer state resp.rdata := by
  simp [next, waits, answered]

theorem next_of_granted (requests : (core.request state).req = true) (granted : resp.gnt = true) :
    core.next state resp = core.accept state := by
  simp [next, core.not_waiting_of_req requests, requests, granted]

theorem next_of_stalled (requests : (core.request state).req = true) (stalled : resp.gnt = false) :
    core.next state resp = state := by
  simp [next, core.not_waiting_of_req requests, requests, stalled]

theorem next_congr {other : ObiResp} (silent : (core.request state).req = false)
    (rvalid : resp.rvalid = other.rvalid) (rdata : resp.rdata = other.rdata) :
    core.next state resp = core.next state other := by
  simp [next, silent, rvalid, rdata]

end Next

end PortCore

/-! ## The closed system -/

structure PortIn where
  resp : ObiResp
  other : ReqPair
  otherResp : ObiResp

/-- `sleep` is the number of cycles until the checker starts, `owed` the number of
requests the bus has granted and not answered. -/
structure StalledPair (State : Type*) (n : Nat) where
  reg : LockstepReg n
  master : State
  checker : State
  sleep : Nat
  owed : Nat

section System
variable {State : Type*} {n : Nat} (core : PortCore State) (port : LockstepPort) (idle : ObiReq)

namespace StalledPair
variable (system : StalledPair State n) (inp : PortIn)

/-- Before its start the checker drives the idle lines. -/
def checkerReq : ObiReq := if system.sleep = 0 then core.request system.checker else idle

def pair : ReqPair := ⟨core.request system.master, system.checkerReq core idle⟩

/-- The two requests the comparator sees. -/
def compared : ReqPair := system.reg.portReqO port (system.pair core idle)

def resps : RespPair := system.reg.portRespO port (system.pair core idle) inp.resp

def next : StalledPair State n where
  reg := system.reg.portNext port (system.pair core idle) inp.resp inp.other inp.otherResp
  master := core.next system.master (system.resps core port idle inp).master
  checker :=
    if system.sleep = 0 then core.next system.checker (system.resps core port idle inp).slave
    else system.checker
  sleep := system.sleep - 1
  owed := system.owed + inp.resp.gnt.toNat - inp.resp.rvalid.toNat

/-- The bus grants only what the comparator presents and answers only what it
has granted in an earlier cycle. -/
structure BusAllowed : Prop where
  grants : inp.resp.gnt = true → (comparedReq (system.compared core port idle)).req = true
  answers : inp.resp.rvalid = true → 0 < system.owed

def masterAsks : Option ObiReq :=
  core.asks system.master (system.resps core port idle inp).master

def masterHears : Option Word :=
  core.hears system.master (system.resps core port idle inp).master

def checkerAsks : Option ObiReq :=
  if system.sleep = 0 then core.asks system.checker (system.resps core port idle inp).slave else none

def checkerHears : Option Word :=
  if system.sleep = 0 then core.hears system.checker (system.resps core port idle inp).slave else none

/-- The checker `n + 1` cycles before its start, in the master's state, and an
empty line. -/
structure Starts : Prop where
  same : system.checker = system.master
  sleep : system.sleep = n + 1
  owed : system.owed = 0
  line : (system.reg.line port).stages = List.replicate (n + 1) idle

end StalledPair

def stalledPair (start : StalledPair State n) : Synchronous.Machine (StalledPair State n) PortIn where
  init := start
  next := StalledPair.next core port idle

/-- The completed transactions of a stream of requests and a stream of answers. -/
def transactions (asked : Nat → Option ObiReq) (heard : Nat → Option Word) (cycle : Nat) :
    List (ObiReq × Word) :=
  (carried asked cycle).zip (carried heard cycle)

/-! ## One cycle -/

namespace StalledPair
variable {core port idle} {system : StalledPair State n} {inp : PortIn}

def held (system : StalledPair State n) (port : LockstepPort) : List ObiReq :=
  (system.reg.line port).held

theorem Starts.empty (starts : system.Starts port idle) (idleReq : idle.req = false) :
    system.held port = [] := by
  apply chainHeld_eq_nil
  intro held member
  rw [starts.line] at member
  rw [List.eq_of_mem_replicate member]
  exact idleReq

theorem resps_master :
    (system.resps core port idle inp).master =
      ⟨(system.reg.line port).gntO (core.request system.master) inp.resp.gnt, inp.resp.rvalid,
        inp.resp.rdata⟩ :=
  system.reg.portRespO_master port _ _

theorem resps_slave :
    (system.resps core port idle inp).slave =
      ⟨inp.resp.gnt, system.reg.rvalidFf port (Fin.last n), system.reg.rdataFf port (Fin.last n)⟩ :=
  system.reg.portRespO_slave port _ _

theorem master_answers (waits : core.waiting system.master = true)
    (answered : inp.resp.rvalid = true) :
    (system.next core port idle inp).master = core.answer system.master inp.resp.rdata := by
  have hears : (system.next core port idle inp).master = core.next system.master
      (system.resps core port idle inp).master := rfl
  rw [hears, resps_master]
  exact core.next_of_answered waits answered

theorem line_next :
    (system.next core port idle inp).reg.line port =
      (system.reg.line port).next (core.request system.master) inp.resp.gnt false :=
  system.reg.portNext_line port _ _ _ _

/-- The line and the bus together hold at most the one transaction the master
waits for. -/
def OneTransaction (core : PortCore State) (port : LockstepPort) (system : StalledPair State n) :
    Prop :=
  (system.held port).length + system.owed ≤ (core.waiting system.master).toNat

/-- The last register of the line shows the checker's request. -/
def HeadShown (core : PortCore State) (port : LockstepPort) (idle : ObiReq)
    (system : StalledPair State n) : Prop :=
  (system.reg.line port).head = (system.checkerReq core idle).gateWe

section Cycle
variable (shown : HeadShown core port idle system) (one : OneTransaction core port system)
  (fetches : port = .instr → (system.checkerReq core idle).we = false)

include shown fetches in
theorem compared_equal :
    (system.compared core port idle).master = (system.compared core port idle).slave := by
  unfold compared
  rw [system.reg.portReqO_master, system.reg.portReqO_slave port _ fetches]
  exact shown

include shown fetches in
theorem not_mismatched : comparatorMismatch (system.compared core port idle) = false :=
  comparatorMismatch_of_eq _ (compared_equal shown fetches)

include shown fetches in
theorem checkerReq_of_granted (allowed : system.BusAllowed core port idle inp)
    (granted : inp.resp.gnt = true) : (system.checkerReq core idle).req = true := by
  have presented := allowed.grants granted
  unfold comparedReq at presented
  rw [not_mismatched shown fetches, if_neg (by decide), compared_equal shown fetches] at presented
  unfold compared at presented
  rw [system.reg.portReqO_slave port _ fetches] at presented
  exact presented

include one in
theorem unanswered_of_held (full : 0 < (system.held port).length)
    (allowed : system.BusAllowed core port idle inp) :
    core.waiting system.master = true ∧ inp.resp.rvalid = false := by
  unfold OneTransaction at one
  have bound := Bool.toNat_le (core.waiting system.master)
  constructor
  · by_contra free
    rw [Bool.eq_false_of_not_eq_true free, Bool.toNat_false] at one
    omega
  · by_contra answered
    have owed := allowed.answers (Bool.eq_true_of_not_eq_false answered)
    omega

include one in
theorem waiting_of_owed (owed : 0 < system.owed) : core.waiting system.master = true := by
  unfold OneTransaction at one
  by_contra free
  rw [Bool.eq_false_of_not_eq_true free, Bool.toNat_false] at one
  omega

include one in
theorem empty_of_free (free : core.waiting system.master = false) :
    system.held port = [] ∧ system.owed = 0 := by
  unfold OneTransaction at one
  rw [free, Bool.toNat_false] at one
  exact ⟨List.eq_nil_of_length_eq_zero (by omega), by omega⟩

include one in
theorem master_granted (requests : (core.request system.master).req = true) :
    (system.reg.line port).gntO (core.request system.master) inp.resp.gnt = true := by
  obtain ⟨empty, _⟩ := empty_of_free one (core.not_waiting_of_req requests)
  exact chainGnt_of_empty requests (system.reg.line port).stages_ne_nil empty _

include one in
theorem master_accepts (requests : (core.request system.master).req = true) :
    (system.next core port idle inp).master = core.accept system.master := by
  refine core.next_of_granted requests ?_
  rw [resps_master]
  exact master_granted one requests

include one in
theorem master_waits (full : 0 < (system.held port).length)
    (allowed : system.BusAllowed core port idle inp) :
    (system.next core port idle inp).master = system.master := by
  obtain ⟨waits, unanswered⟩ := unanswered_of_held one full allowed
  refine core.next_of_unanswered waits ?_
  rw [resps_master]
  exact unanswered

include shown fetches in
theorem held_next (allowed : system.BusAllowed core port idle inp) :
    ((system.next core port idle inp).held port).length + inp.resp.gnt.toNat =
      (system.held port).length +
        ((core.request system.master).req &&
          (system.reg.line port).gntO (core.request system.master) inp.resp.gnt).toNat := by
  have passes := (system.reg.line port).held_length_next (core.request system.master) inp.resp.gnt
  have line : (system.next core port idle inp).held port =
      ((system.reg.line port).next (core.request system.master) inp.resp.gnt false).held :=
    congrArg ObiPipelinedDelay.held line_next
  have granted : ((system.reg.line port).head.req && inp.resp.gnt) = inp.resp.gnt := by
    cases grant : inp.resp.gnt with
    | false => exact Bool.and_false _
    | true =>
      have requests := checkerReq_of_granted shown fetches allowed grant
      rw [shown, ObiReq.gateWe_req, requests, Bool.and_true]
  rw [granted] at passes
  rw [line, Nat.add_comm]
  exact passes

include shown one fetches in
theorem oneTransaction_next (allowed : system.BusAllowed core port idle inp) :
    OneTransaction core port (system.next core port idle inp) := by
  have moved := held_next shown fetches allowed
  have owes : (system.next core port idle inp).owed =
      system.owed + inp.resp.gnt.toNat - inp.resp.rvalid.toNat := rfl
  cases waits : core.waiting system.master with
  | true =>
    have silent := core.waiting_silent system.master waits
    rw [silent, Bool.false_and, Bool.toNat_false] at moved
    unfold OneTransaction at one ⊢
    rw [waits, Bool.toNat_true] at one
    cases answered : inp.resp.rvalid with
    | true =>
      have owed := allowed.answers answered
      rw [answered, Bool.toNat_true] at owes
      omega
    | false =>
      have stays : (system.next core port idle inp).master = system.master := by
        refine core.next_of_unanswered waits ?_
        rw [resps_master]
        exact answered
      rw [answered, Bool.toNat_false] at owes
      rw [stays, waits, Bool.toNat_true]
      omega
  | false =>
    obtain ⟨empty, settled⟩ := empty_of_free one waits
    unfold OneTransaction
    rw [empty, List.length_nil] at moved
    cases requests : (core.request system.master).req with
    | true =>
      rw [master_accepts one requests, core.accept_waits _ requests, Bool.toNat_true]
      rw [requests, master_granted one requests, Bool.true_and, Bool.toNat_true] at moved
      omega
    | false =>
      rw [requests, Bool.false_and, Bool.toNat_false] at moved
      omega

end Cycle

end StalledPair

/-! ## Runs -/

section Runs
variable (start : StalledPair State n) (inputs : Nat → PortIn)

def stalledRun : Nat → StalledPair State n := (stalledPair core port idle start).run inputs

def masterAt (cycle : Nat) : State := (stalledRun core port idle start inputs cycle).master

def masterLines (cycle : Nat) : ObiReq := core.request (masterAt core port idle start inputs cycle)

/-- A run from an empty line on a bus that keeps its rules.  The fetch port never
writes. -/
structure RunsStalled : Prop where
  idleReq : idle.req = false
  idleWe : idle.we = false
  fetches : port = .instr → ∀ state, (core.request state).we = false
  starts : start.Starts port idle
  allowed : ∀ cycle,
    (stalledRun core port idle start inputs cycle).BusAllowed core port idle (inputs cycle)

/-- The checker is where the master was, or still presents the request whose
answer the master has been waiting for since. -/
structure Behind (origin : Nat) (checker : State) : Prop where
  level : (core.request checker).req = false → checker = masterAt core port idle start inputs origin
  stalled : (core.request checker).req = true →
    (masterAt core port idle start inputs origin = checker ∨
      masterAt core port idle start inputs origin = core.accept checker) ∧
    ∀ cycle, origin < cycle → cycle ≤ origin + (n + 1) →
      masterAt core port idle start inputs cycle = core.accept checker

/-- The invariant of a cycle. -/
structure Trails (cycle : Nat) : Prop where
  stages : ((stalledRun core port idle start inputs cycle).reg.line port).stages =
    (DelayLine.historyList idle (masterLines core port idle start inputs) n cycle).map
        ObiReq.gateWe ++
      [((stalledRun core port idle start inputs cycle).checkerReq core idle).gateWe]
  one : StalledPair.OneTransaction core port (stalledRun core port idle start inputs cycle)
  behind : ∀ origin, cycle = origin + (n + 1) →
    Behind core port idle start inputs origin
      (stalledRun core port idle start inputs cycle).checker

variable {core port idle start inputs}

theorem stalledRun_succ (cycle : Nat) :
    stalledRun core port idle start inputs (cycle + 1) =
      (stalledRun core port idle start inputs cycle).next core port idle (inputs cycle) := rfl

theorem RunsStalled.sleep (runs : RunsStalled core port idle start inputs) (cycle : Nat) :
    (stalledRun core port idle start inputs cycle).sleep = n + 1 - cycle := by
  induction cycle with
  | zero => exact runs.starts.sleep
  | succ cycle ih =>
    have counts : (stalledRun core port idle start inputs (cycle + 1)).sleep =
        (stalledRun core port idle start inputs cycle).sleep - 1 := rfl
    rw [counts, ih]
    omega

theorem RunsStalled.checker_asleep (runs : RunsStalled core port idle start inputs) (cycle : Nat)
    (asleep : cycle ≤ n + 1) :
    (stalledRun core port idle start inputs cycle).checker =
      masterAt core port idle start inputs 0 := by
  induction cycle with
  | zero => exact runs.starts.same
  | succ cycle ih =>
    have sleeps := runs.sleep cycle
    have stays : (stalledRun core port idle start inputs (cycle + 1)).checker =
        (stalledRun core port idle start inputs cycle).checker := by
      rw [stalledRun_succ]
      exact if_neg (by omega)
    rw [stays]
    exact ih (by omega)

theorem RunsStalled.checkerReq_asleep (runs : RunsStalled core port idle start inputs) {cycle : Nat}
    (asleep : cycle < n + 1) :
    (stalledRun core port idle start inputs cycle).checkerReq core idle = idle := by
  have sleeps := runs.sleep cycle
  exact if_neg (by omega)

theorem RunsStalled.checkerReq_awake (runs : RunsStalled core port idle start inputs) {cycle : Nat}
    (awake : n + 1 ≤ cycle) :
    (stalledRun core port idle start inputs cycle).checkerReq core idle =
      core.request (stalledRun core port idle start inputs cycle).checker := by
  have sleeps := runs.sleep cycle
  exact if_pos (by omega)

theorem RunsStalled.awake_of_req (runs : RunsStalled core port idle start inputs) {cycle : Nat}
    (requests : ((stalledRun core port idle start inputs cycle).checkerReq core idle).req = true) :
    ∃ origin, cycle = origin + (n + 1) ∧
      (core.request (stalledRun core port idle start inputs cycle).checker).req = true := by
  by_cases asleep : cycle < n + 1
  · rw [runs.checkerReq_asleep asleep, runs.idleReq] at requests
    exact absurd requests (by decide)
  · obtain ⟨origin, rfl⟩ := Nat.exists_eq_add_of_le' (Nat.le_of_not_lt asleep)
    rw [runs.checkerReq_awake (Nat.le_add_left _ _)] at requests
    exact ⟨origin, rfl, requests⟩

theorem RunsStalled.fetchOnly (runs : RunsStalled core port idle start inputs) (cycle : Nat)
    (fetch : port = .instr) :
    ((stalledRun core port idle start inputs cycle).checkerReq core idle).we = false := by
  unfold StalledPair.checkerReq
  split_ifs
  · exact runs.fetches fetch _
  · exact runs.idleWe

theorem Trails.shown {cycle : Nat} (trails : Trails core port idle start inputs cycle) :
    StalledPair.HeadShown core port idle (stalledRun core port idle start inputs cycle) := by
  unfold StalledPair.HeadShown ObiPipelinedDelay.head
  rw [List.getLast_congr _ (List.concat_ne_nil _ _) trails.stages, List.getLast_concat]

theorem trails_zero (runs : RunsStalled core port idle start inputs) :
    Trails core port idle start inputs 0 := by
  have gated : idle.gateWe = idle := ObiReq.gateWe_of_not_we idle runs.idleWe
  have line : ((stalledRun core port idle start inputs 0).reg.line port).stages =
      List.replicate (n + 1) idle := runs.starts.line
  refine ⟨?_, ?_, ?_⟩
  · rw [line, DelayLine.historyList_start, List.map_replicate,
      runs.checkerReq_asleep (Nat.succ_pos n), gated]
    exact List.replicate_succ'
  · have empty : (stalledRun core port idle start inputs 0).held port = [] :=
      runs.starts.empty runs.idleReq
    have settled : (stalledRun core port idle start inputs 0).owed = 0 := runs.starts.owed
    unfold StalledPair.OneTransaction
    rw [empty, settled]
    exact Nat.zero_le _
  · intro origin impossible
    omega
/-! ## The step of the invariant -/

/-- A request stays what the master waits for as long as the line may hold it. -/
theorem RunsStalled.master_waits_for (runs : RunsStalled core port idle start inputs) {origin : Nat}
    (trails : ∀ cycle, cycle ≤ origin + n → Trails core port idle start inputs cycle)
    (requests : (core.request (masterAt core port idle start inputs origin)).req = true)
    (later : Nat) (inside : later ≤ n) :
    masterAt core port idle start inputs (origin + later + 1) =
      core.accept (masterAt core port idle start inputs origin) := by
  induction later with
  | zero => exact StalledPair.master_accepts (trails origin (Nat.le_add_right _ _)).one requests
  | succ later ih =>
    have here := trails (origin + (later + 1)) (by omega)
    have member : (masterLines core port idle start inputs origin).gateWe ∈
        ((stalledRun core port idle start inputs (origin + (later + 1))).reg.line port).stages := by
      rw [here.stages]
      apply List.mem_append_left
      apply List.mem_map_of_mem
      exact DelayLine.stream_mem_historyList idle _ (by omega) (by omega)
    have full := chainHeld_pos member requests
    have waits := StalledPair.master_waits here.one full (runs.allowed (origin + (later + 1)))
    exact waits.trans (ih (Nat.le_of_succ_le inside))

/-- When the checker is level with the master at the next cycle, its lines are
what the line hands to its last register. -/
theorem RunsStalled.checkerReq_level (runs : RunsStalled core port idle start inputs) (cycle : Nat)
    (level : ∀ origin, cycle = origin + (n + 1) →
      (stalledRun core port idle start inputs cycle).checker =
        masterAt core port idle start inputs origin) :
    (stalledRun core port idle start inputs cycle).checkerReq core idle =
      DelayLine.delayed idle (masterLines core port idle start inputs) (n + 1) cycle := by
  unfold DelayLine.delayed
  split_ifs with asleep
  · exact runs.checkerReq_asleep asleep
  · obtain ⟨origin, rfl⟩ := Nat.exists_eq_add_of_le' (Nat.le_of_not_lt asleep)
    rw [runs.checkerReq_awake (Nat.le_add_left _ _), level origin rfl, Nat.add_sub_cancel]
    rfl

/-- The line moves on when its last register is idle or granted. -/
theorem RunsStalled.stages_moved (runs : RunsStalled core port idle start inputs) {cycle : Nat}
    (trails : Trails core port idle start inputs cycle)
    (moves : (inputs cycle).resp.gnt =
      ((stalledRun core port idle start inputs cycle).checkerReq core idle).req)
    (level : ∀ origin, cycle + 1 = origin + (n + 1) →
      (stalledRun core port idle start inputs (cycle + 1)).checker =
        masterAt core port idle start inputs origin) :
    ((stalledRun core port idle start inputs (cycle + 1)).reg.line port).stages =
      (DelayLine.historyList idle (masterLines core port idle start inputs) n (cycle + 1)).map
          ObiReq.gateWe ++
        [((stalledRun core port idle start inputs (cycle + 1)).checkerReq core idle).gateWe] := by
  have head : ((stalledRun core port idle start inputs cycle).reg.line port).head.req =
      (inputs cycle).resp.gnt := by
    rw [trails.shown, moves]
    rfl
  rw [stalledRun_succ, StalledPair.line_next, ← head, ObiPipelinedDelay.next_unstalled, trails.stages, ← List.cons_append,
    List.dropLast_concat, ← stalledRun_succ, runs.checkerReq_level (cycle + 1) level,
    List.map_cons, map_gateWe_gateWe, ← List.map_cons]
  change List.map ObiReq.gateWe (masterLines core port idle start inputs cycle :: _) = _
  rw [DelayLine.cons_historyList, List.map_append]
  rfl

theorem stages_stalled {origin : Nat}
    (trails : Trails core port idle start inputs (origin + (n + 1)))
    (idleReq : idle.req = false)
    (requests : ((stalledRun core port idle start inputs (origin + (n + 1))).checkerReq core
      idle).req = true)
    (stalled : (inputs (origin + (n + 1))).resp.gnt = false)
    (silent : ∀ cycle, origin < cycle → cycle ≤ origin + (n + 1) →
      (masterLines core port idle start inputs cycle).req = false) :
    ((stalledRun core port idle start inputs (origin + (n + 1) + 1)).reg.line port).stages =
      (DelayLine.historyList idle (masterLines core port idle start inputs) n
          (origin + (n + 1) + 1)).map ObiReq.gateWe ++
        [((stalledRun core port idle start inputs (origin + (n + 1))).checkerReq core
          idle).gateWe] := by
  have behind : ∀ sent ∈ masterLines core port idle start inputs (origin + (n + 1)) ::
      (DelayLine.historyList idle (masterLines core port idle start inputs) n
        (origin + (n + 1))).map ObiReq.gateWe, sent.req = false := by
    intro sent member
    rcases List.mem_cons.mp member with rfl | earlier
    · exact silent _ (by omega) (Nat.le_refl _)
    · obtain ⟨entered, inHistory, rfl⟩ := List.mem_map.mp earlier
      rcases DelayLine.mem_historyList inHistory with rfl | ⟨cycle, before, recent, rfl⟩
      · exact idleReq
      · exact silent cycle (by omega) (by omega)
  have full : ((stalledRun core port idle start inputs (origin + (n + 1))).checkerReq core
      idle).gateWe.req = true := requests
  have moved := chainNext_stalled full behind
  rw [stalledRun_succ, StalledPair.line_next, stalled]
  change chainNext (masterLines core port idle start inputs (origin + (n + 1))) false false _ = _
  rw [trails.stages, moved, List.map_dropLast, List.map_cons, map_gateWe_gateWe, ← List.map_cons,
    ← List.map_dropLast, DelayLine.dropLast_cons_historyList]

theorem slaveResp_late (origin : Nat) :
    ((stalledRun core port idle start inputs (origin + (n + 1))).resps core port idle
        (inputs (origin + (n + 1)))).slave =
      ⟨(inputs (origin + (n + 1))).resp.gnt, (inputs origin).resp.rvalid,
        (inputs origin).resp.rdata⟩ := by
  have rvalid := DelayLine.shift_entered
    (fun cycle => (stalledRun core port idle start inputs cycle).reg.rvalidFf port)
    (fun cycle => (inputs cycle).resp.rvalid)
    (fun cycle => LockstepReg.portNext_rvalidFf _ port _ _ _ _) origin (Fin.last n)
  have rdata := DelayLine.shift_entered
    (fun cycle => (stalledRun core port idle start inputs cycle).reg.rdataFf port)
    (fun cycle => (inputs cycle).resp.rdata)
    (fun cycle => LockstepReg.portNext_rdataFf _ port _ _ _ _) origin (Fin.last n)
  rw [StalledPair.resps_slave]
  exact congrArg₂ (ObiResp.mk _) rvalid rdata

theorem masterResp_rvalid (cycle : Nat) :
    ((stalledRun core port idle start inputs cycle).resps core port idle
        (inputs cycle)).master.rvalid = (inputs cycle).resp.rvalid ∧
      ((stalledRun core port idle start inputs cycle).resps core port idle
        (inputs cycle)).master.rdata = (inputs cycle).resp.rdata := by
  rw [StalledPair.resps_master]
  exact ⟨rfl, rfl⟩

theorem RunsStalled.checker_next (runs : RunsStalled core port idle start inputs) (origin : Nat) :
    (stalledRun core port idle start inputs (origin + (n + 1) + 1)).checker =
      core.next (stalledRun core port idle start inputs (origin + (n + 1))).checker
        ⟨(inputs (origin + (n + 1))).resp.gnt, (inputs origin).resp.rvalid,
          (inputs origin).resp.rdata⟩ := by
  have awake : (stalledRun core port idle start inputs (origin + (n + 1))).sleep = 0 := by
    rw [runs.sleep]
    omega
  rw [← @slaveResp_late State n core port idle start inputs origin]
  exact if_pos awake

theorem RunsStalled.checker_level (runs : RunsStalled core port idle start inputs) {cycle : Nat}
    (trails : Trails core port idle start inputs cycle)
    (moves : (inputs cycle).resp.gnt =
      ((stalledRun core port idle start inputs cycle).checkerReq core idle).req)
    (origin : Nat) (due : cycle + 1 = origin + (n + 1)) :
    (stalledRun core port idle start inputs (cycle + 1)).checker =
      masterAt core port idle start inputs origin := by
  cases origin with
  | zero => exact runs.checker_asleep (cycle + 1) (by omega)
  | succ origin =>
    obtain rfl : cycle = origin + (n + 1) := by omega
    have behind := trails.behind origin rfl
    rw [runs.checkerReq_awake (Nat.le_add_left _ _)] at moves
    rw [runs.checker_next]
    cases requests : (core.request
        (stalledRun core port idle start inputs (origin + (n + 1))).checker).req with
    | false =>
      obtain ⟨rvalid, rdata⟩ := @masterResp_rvalid State n core port idle start inputs origin
      rw [behind.level requests]
      rw [behind.level requests] at requests
      exact core.next_congr requests rvalid.symm rdata.symm
    | true =>
      rw [requests] at moves
      have waits := (behind.stalled requests).2 (origin + 1) (Nat.lt_succ_self _) (by omega)
      refine Eq.trans (core.next_of_granted requests ?_) waits.symm
      exact moves

theorem RunsStalled.behind_of_level (runs : RunsStalled core port idle start inputs) {origin : Nat}
    (trails : ∀ cycle, cycle ≤ origin + n → Trails core port idle start inputs cycle)
    {checker : State} (level : checker = masterAt core port idle start inputs origin) :
    Behind core port idle start inputs origin checker := by
  subst level
  refine ⟨fun _ => rfl, fun requests => ⟨.inl rfl, ?_⟩⟩
  intro cycle after_ upto
  obtain ⟨later, rfl⟩ := Nat.exists_eq_add_of_lt after_
  exact runs.master_waits_for trails requests later (by omega)

theorem RunsStalled.behind_of_stalled (runs : RunsStalled core port idle start inputs)
    {origin : Nat} (trails : Trails core port idle start inputs (origin + (n + 1)))
    (requests : (core.request
      (stalledRun core port idle start inputs (origin + (n + 1))).checker).req = true)
    (stalled : (inputs (origin + (n + 1))).resp.gnt = false) :
    (stalledRun core port idle start inputs (origin + (n + 1) + 1)).checker =
        (stalledRun core port idle start inputs (origin + (n + 1))).checker ∧
      Behind core port idle start inputs (origin + 1)
        (stalledRun core port idle start inputs (origin + (n + 1))).checker := by
  have waits := ((trails.behind origin rfl).stalled requests).2
  have stays : (stalledRun core port idle start inputs (origin + (n + 1) + 1)).checker =
      (stalledRun core port idle start inputs (origin + (n + 1))).checker := by
    rw [runs.checker_next]
    exact core.next_of_stalled requests stalled
  have member : ((stalledRun core port idle start inputs (origin + (n + 1))).checkerReq core
      idle).gateWe ∈
      ((stalledRun core port idle start inputs (origin + (n + 1))).reg.line port).stages := by
    rw [trails.stages]
    exact List.mem_append_right _ List.mem_cons_self
  have full := chainHeld_pos member (by
    rw [ObiReq.gateWe_req, runs.checkerReq_awake (Nat.le_add_left _ _)]
    exact requests)
  have still := StalledPair.master_waits trails.one full (runs.allowed (origin + (n + 1)))
  refine ⟨stays, fun silent => ?_, fun _ => ⟨.inr ?_, ?_⟩⟩
  · rw [requests] at silent
    exact absurd silent (by decide)
  · exact waits (origin + 1) (Nat.lt_succ_self _) (by omega)
  · intro cycle after_ upto
    by_cases last : cycle = origin + (n + 1) + 1
    · subst last
      exact still.trans (waits (origin + (n + 1)) (by omega) (Nat.le_refl _))
    · exact waits cycle (by omega) (by omega)

theorem RunsStalled.trails_succ (runs : RunsStalled core port idle start inputs) (cycle : Nat)
    (trails : ∀ earlier, earlier ≤ cycle → Trails core port idle start inputs earlier) :
    Trails core port idle start inputs (cycle + 1) := by
  have here := trails cycle (Nat.le_refl _)
  have one := StalledPair.oneTransaction_next here.shown here.one (runs.fetchOnly cycle)
    (runs.allowed cycle)
  by_cases moves : (inputs cycle).resp.gnt =
      ((stalledRun core port idle start inputs cycle).checkerReq core idle).req
  · have level := runs.checker_level here moves
    refine ⟨runs.stages_moved here moves level, one, ?_⟩
    intro origin due
    exact runs.behind_of_level (fun earlier before => trails earlier (by omega)) (level origin due)
  · -- a grant answers a request, so the request is the checker's and is not granted
    have stalled : (inputs cycle).resp.gnt = false := by
      by_contra granted
      have grants := Bool.eq_true_of_not_eq_false granted
      exact moves (grants.trans (StalledPair.checkerReq_of_granted here.shown
        (runs.fetchOnly cycle) (runs.allowed cycle) grants).symm)
    have presented : ((stalledRun core port idle start inputs cycle).checkerReq core
        idle).req = true := by
      by_contra silent
      exact moves (stalled.trans (Bool.eq_false_of_not_eq_true silent).symm)
    obtain ⟨origin, rfl, requests⟩ := runs.awake_of_req presented
    obtain ⟨stays, behind⟩ := runs.behind_of_stalled here requests stalled
    have waits := ((here.behind origin rfl).stalled requests).2
    have silent : ∀ cycle, origin < cycle → cycle ≤ origin + (n + 1) →
        (masterLines core port idle start inputs cycle).req = false := by
      intro cycle after_ upto
      unfold masterLines
      rw [waits cycle after_ upto]
      exact core.waiting_silent _ (core.accept_waits _ requests)
    have lines : (stalledRun core port idle start inputs (origin + (n + 1) + 1)).checkerReq core
        idle = (stalledRun core port idle start inputs (origin + (n + 1))).checkerReq core idle := by
      rw [runs.checkerReq_awake (by omega), runs.checkerReq_awake (by omega), stays]
    refine ⟨?_, one, ?_⟩
    · rw [lines]
      exact stages_stalled here runs.idleReq presented stalled silent
    · intro later due
      obtain rfl : later = origin + 1 := by omega
      rw [stays]
      exact behind

theorem RunsStalled.trails (runs : RunsStalled core port idle start inputs) (cycle : Nat) :
    Trails core port idle start inputs cycle := by
  induction cycle using Nat.strong_induction_on with
  | _ cycle ih =>
    cases cycle with
    | zero => exact trails_zero runs
    | succ cycle =>
      exact runs.trails_succ cycle fun earlier before => ih earlier (Nat.lt_succ_of_le before)

/-! ## The transactions of the two cores -/

section Streams
variable (core port idle start inputs)

def masterAsked (cycle : Nat) : Option ObiReq :=
  (stalledRun core port idle start inputs cycle).masterAsks core port idle (inputs cycle)

def masterHeard (cycle : Nat) : Option Word :=
  (stalledRun core port idle start inputs cycle).masterHears core port idle (inputs cycle)

def checkerAsked (cycle : Nat) : Option ObiReq :=
  (stalledRun core port idle start inputs cycle).checkerAsks core port idle (inputs cycle)

def checkerHeard (cycle : Nat) : Option Word :=
  (stalledRun core port idle start inputs cycle).checkerHears core port idle (inputs cycle)

end Streams

theorem RunsStalled.checkerAsked_eq (runs : RunsStalled core port idle start inputs) (cycle : Nat) :
    checkerAsked core port idle start inputs cycle =
      transfer ((stalledRun core port idle start inputs cycle).checkerReq core idle)
        (inputs cycle).resp.gnt := by
  unfold checkerAsked StalledPair.checkerAsks StalledPair.checkerReq PortCore.asks
  rw [StalledPair.resps_slave]
  split_ifs
  · rfl
  · simp [transfer, runs.idleReq]

/-- The line is the queue between the two cores. -/
theorem RunsStalled.asked_eq (runs : RunsStalled core port idle start inputs) (cycle : Nat) :
    carried (masterAsked core port idle start inputs) cycle =
      carried (checkerAsked core port idle start inputs) cycle ++
        (stalledRun core port idle start inputs cycle).held port := by
  refine @carried_eq_of_passes _ _ _
    (fun cycle => (stalledRun core port idle start inputs cycle).held port)
    (runs.starts.empty runs.idleReq) ?_ cycle
  intro cycle
  have passes := chain_passes (masterLines core port idle start inputs cycle)
    (inputs cycle).resp.gnt ((stalledRun core port idle start inputs cycle).reg.line port).stages
  have taken : masterAsked core port idle start inputs cycle =
      transfer (masterLines core port idle start inputs cycle)
        (chainGnt (masterLines core port idle start inputs cycle) (inputs cycle).resp.gnt
          ((stalledRun core port idle start inputs cycle).reg.line port).stages) := by
    unfold masterAsked StalledPair.masterAsks PortCore.asks
    rw [StalledPair.resps_master]
    rfl
  have given : checkerAsked core port idle start inputs cycle =
      transfer (chainOut (masterLines core port idle start inputs cycle)
        ((stalledRun core port idle start inputs cycle).reg.line port).stages)
        (inputs cycle).resp.gnt := by
    have head := ((stalledRun core port idle start inputs cycle).reg.line port).reqO_eq_head
      (masterLines core port idle start inputs cycle)
    unfold ObiPipelinedDelay.reqO at head
    rw [runs.checkerAsked_eq, head, (runs.trails cycle).shown, transfer_gateWe]
  have line : (stalledRun core port idle start inputs (cycle + 1)).held port =
      chainHeld (chainNext (masterLines core port idle start inputs cycle) (inputs cycle).resp.gnt
        false ((stalledRun core port idle start inputs cycle).reg.line port).stages) := by
    rw [stalledRun_succ]
    exact congrArg ObiPipelinedDelay.held StalledPair.line_next
  rw [taken, given, line]
  exact passes

theorem RunsStalled.heard_late (runs : RunsStalled core port idle start inputs) (cycle : Nat) :
    checkerHeard core port idle start inputs (cycle + (n + 1)) =
      masterHeard core port idle start inputs cycle := by
  have behind := (runs.trails (cycle + (n + 1))).behind cycle rfl
  have awake : (stalledRun core port idle start inputs (cycle + (n + 1))).sleep = 0 := by
    rw [runs.sleep]
    omega
  obtain ⟨rvalid, rdata⟩ := @masterResp_rvalid State n core port idle start inputs cycle
  unfold checkerHeard masterHeard StalledPair.checkerHears StalledPair.masterHears PortCore.hears
  rw [if_pos awake, slaveResp_late, rvalid, rdata]
  cases requests : (core.request
      (stalledRun core port idle start inputs (cycle + (n + 1))).checker).req with
  | false =>
    rw [behind.level requests]
    rfl
  | true =>
    obtain ⟨here, waits⟩ := behind.stalled requests
    rw [core.not_waiting_of_req requests, Bool.false_and, if_neg (by decide)]
    rcases here with asking | waiting
    · have busy : core.waiting (stalledRun core port idle start inputs cycle).master = false := by
        change core.waiting (masterAt core port idle start inputs cycle) = false
        rw [asking]
        exact core.not_waiting_of_req requests
      rw [busy, Bool.false_and, if_neg (by decide)]
    · -- an answer in this cycle would end a wait that lasts for another `n + 1` cycles
      have accepted := core.accept_waits _ requests
      have unanswered : (inputs cycle).resp.rvalid = false := by
        by_contra answered
        have ends : masterAt core port idle start inputs (cycle + 1) =
            core.answer (masterAt core port idle start inputs cycle) (inputs cycle).resp.rdata := by
          apply StalledPair.master_answers
          · change core.waiting (masterAt core port idle start inputs cycle) = true
            rw [waiting]
            exact accepted
          · exact Bool.eq_true_of_not_eq_false answered
        have free := core.answer_free _ (inputs cycle).resp.rdata (waiting ▸ accepted)
        rw [← ends, waits (cycle + 1) (Nat.lt_succ_self _) (by omega), accepted] at free
        exact absurd free (by decide)
      rw [unanswered, Bool.and_false, if_neg (by decide)]

theorem RunsStalled.heard_eq (runs : RunsStalled core port idle start inputs) (cycle : Nat) :
    carried (checkerHeard core port idle start inputs) (cycle + (n + 1)) =
      carried (masterHeard core port idle start inputs) cycle := by
  apply carried_of_late
  · intro early asleep
    have sleeps := runs.sleep early
    exact if_neg (by omega)
  · exact runs.heard_late

theorem RunsStalled.asked_length (runs : RunsStalled core port idle start inputs) (cycle : Nat) :
    (carried (masterAsked core port idle start inputs) cycle).length =
      (carried (masterHeard core port idle start inputs) cycle).length +
        ((stalledRun core port idle start inputs cycle).held port).length +
        (stalledRun core port idle start inputs cycle).owed := by
  induction cycle with
  | zero =>
    have empty : (stalledRun core port idle start inputs 0).held port = [] :=
      runs.starts.empty runs.idleReq
    have settled : (stalledRun core port idle start inputs 0).owed = 0 := runs.starts.owed
    rw [empty, settled]
    rfl
  | succ cycle ih =>
    have here := runs.trails cycle
    have allowed := runs.allowed cycle
    have moved : ((stalledRun core port idle start inputs (cycle + 1)).held port).length +
        (inputs cycle).resp.gnt.toNat =
          ((stalledRun core port idle start inputs cycle).held port).length +
            ((masterLines core port idle start inputs cycle).req &&
              ((stalledRun core port idle start inputs cycle).reg.line port).gntO
                (masterLines core port idle start inputs cycle) (inputs cycle).resp.gnt).toNat :=
      StalledPair.held_next here.shown (runs.fetchOnly cycle) allowed
    have owes : (stalledRun core port idle start inputs (cycle + 1)).owed =
        (stalledRun core port idle start inputs cycle).owed + (inputs cycle).resp.gnt.toNat -
          (inputs cycle).resp.rvalid.toNat := rfl
    have asked : (masterAsked core port idle start inputs cycle).toList.length =
        ((masterLines core port idle start inputs cycle).req &&
          ((stalledRun core port idle start inputs cycle).reg.line port).gntO
            (masterLines core port idle start inputs cycle) (inputs cycle).resp.gnt).toNat := by
      unfold masterAsked StalledPair.masterAsks PortCore.asks
      rw [StalledPair.resps_master]
      exact transfer_length _ _
    have heard : (masterHeard core port idle start inputs cycle).toList.length =
        (inputs cycle).resp.rvalid.toNat := by
      unfold masterHeard StalledPair.masterHears PortCore.hears
      rw [StalledPair.resps_master]
      cases answered : (inputs cycle).resp.rvalid with
      | false => simp
      | true =>
        have waits := StalledPair.waiting_of_owed here.one (allowed.answers answered)
        simp [waits]
    have owed : (inputs cycle).resp.rvalid.toNat ≤
        (stalledRun core port idle start inputs cycle).owed := by
      cases answered : (inputs cycle).resp.rvalid with
      | false => exact Nat.zero_le _
      | true => exact allowed.answers answered
    rw [carried, carried, List.length_append, List.length_append, asked, heard, ih, owes]
    omega

/-- Every answer of the checker follows its request. -/
theorem RunsStalled.transactions_eq (runs : RunsStalled core port idle start inputs) (cycle : Nat) :
    transactions (checkerAsked core port idle start inputs)
        (checkerHeard core port idle start inputs) (cycle + (n + 1)) =
      transactions (masterAsked core port idle start inputs)
        (masterHeard core port idle start inputs) cycle := by
  have queue := runs.asked_eq (cycle + (n + 1))
  have masterPart := carried_mono (masterAsked core port idle start inputs) cycle (n + 1)
  have checkerPart : carried (checkerAsked core port idle start inputs) (cycle + (n + 1)) <+:
      carried (masterAsked core port idle start inputs) (cycle + (n + 1)) := by
    rw [queue]
    exact List.prefix_append _ _
  have masterShort : (carried (masterHeard core port idle start inputs) cycle).length ≤
      (carried (masterAsked core port idle start inputs) cycle).length := by
    rw [runs.asked_length]
    omega
  have checkerShort : (carried (masterHeard core port idle start inputs) cycle).length ≤
      (carried (checkerAsked core port idle start inputs) (cycle + (n + 1))).length := by
    have total := runs.asked_length (cycle + (n + 1))
    have grows :=
      (carried_mono (masterHeard core port idle start inputs) cycle (n + 1)).length_le
    rw [queue, List.length_append] at total
    omega
  unfold transactions
  rw [runs.heard_eq, zip_of_longer masterPart masterShort, zip_of_longer checkerPart checkerShort]

/-- On a bus that stalls as it likes the comparator never errs, the checker asks
what the master has asked less what is still in the line, and `n + 1` cycles after
the master it has completed the same transactions. -/
theorem stalled_lockstep_equal (core : PortCore State) (port : LockstepPort) (idle : ObiReq)
    (start : StalledPair State n) (inputs : Nat → PortIn)
    (runs : RunsStalled core port idle start inputs) (cycle : Nat) :
    comparatorMismatch
        ((stalledRun core port idle start inputs cycle).compared core port idle) = false ∧
      carried (masterAsked core port idle start inputs) cycle =
        carried (checkerAsked core port idle start inputs) cycle ++
          (stalledRun core port idle start inputs cycle).held port ∧
      carried (checkerHeard core port idle start inputs) (cycle + (n + 1)) =
        carried (masterHeard core port idle start inputs) cycle ∧
      transactions (checkerAsked core port idle start inputs)
          (checkerHeard core port idle start inputs) (cycle + (n + 1)) =
        transactions (masterAsked core port idle start inputs)
          (masterHeard core port idle start inputs) cycle :=
  ⟨StalledPair.not_mismatched (runs.trails cycle).shown (runs.fetchOnly cycle),
    runs.asked_eq cycle, runs.heard_eq cycle, runs.transactions_eq cycle⟩

/-! ## A bus that follows the comparator -/

/-- The run on a bus that chooses its response from the cycle and the system. -/
def feedbackRun (core : PortCore State) (port : LockstepPort) (idle : ObiReq)
    (bus : Nat → StalledPair State n → PortIn) (start : StalledPair State n) :
    Nat → StalledPair State n
  | 0 => start
  | cycle + 1 =>
      (feedbackRun core port idle bus start cycle).next core port idle
        (bus cycle (feedbackRun core port idle bus start cycle))

theorem stalledRun_feedback (bus : Nat → StalledPair State n → PortIn) (cycle : Nat) :
    stalledRun core port idle start
        (fun cycle => bus cycle (feedbackRun core port idle bus start cycle)) cycle =
      feedbackRun core port idle bus start cycle := by
  induction cycle with
  | zero => rfl
  | succ cycle ih => rw [stalledRun_succ, ih, feedbackRun]

end Runs

end System

/-- A core that computes for one cycle, reads the word its last answer points at
and drives no byte enables between its requests. -/
def chasingCore : PortCore (Fin 3 × Word) where
  request state := ⟨decide (state.1 = 1), false, if state.1 = 1 then 0b1111 else 0, state.2, 0⟩
  waiting state := decide (state.1 = 2)
  compute state := (1, state.2)
  accept state := (2, state.2)
  answer _ data := (0, data)
  waiting_silent state waits := by simpa using (of_decide_eq_true waits) ▸ (by decide)
  compute_free _ _ _ := rfl
  accept_waits _ _ := rfl
  answer_free _ _ _ := rfl

def chasingStart : StalledPair (Fin 3 × Word) 1 := ⟨.reset 1, (0, 0x100), (0, 0x100), 2, 0⟩

/-- Grants every third cycle and answers every other one. -/
def thirdCycleBus (cycle : Nat) (system : StalledPair (Fin 3 × Word) 1) : PortIn where
  resp :=
    { gnt := (comparedReq (system.compared chasingCore .data .zero)).req && cycle % 3 == 0
      rvalid := decide (0 < system.owed) && cycle % 2 == 0
      rdata := BitVec.ofNat 32 (4 * cycle) }
  other := ⟨.zero, .zero⟩
  otherResp := .zero

def thirdCycleInputs (cycle : Nat) : PortIn :=
  thirdCycleBus cycle (feedbackRun chasingCore .data .zero thirdCycleBus chasingStart cycle)

theorem chasingCore_lockstep :
    comparatorMismatch ((stalledRun chasingCore .data .zero chasingStart thirdCycleInputs
        100).compared chasingCore .data .zero) = false ∧
      transactions (checkerAsked chasingCore .data .zero chasingStart thirdCycleInputs)
          (checkerHeard chasingCore .data .zero chasingStart thirdCycleInputs) 102 =
        transactions (masterAsked chasingCore .data .zero chasingStart thirdCycleInputs)
          (masterHeard chasingCore .data .zero chasingStart thirdCycleInputs) 100 := by
  have runs : RunsStalled chasingCore .data .zero chasingStart thirdCycleInputs :=
    { idleReq := rfl
      idleWe := rfl
      fetches := nofun
      starts := ⟨rfl, rfl, rfl, rfl⟩
      allowed := by
        intro cycle
        unfold thirdCycleInputs
        rw [stalledRun_feedback]
        constructor
        · intro granted
          exact (Bool.and_eq_true _ _ ▸ granted : _ ∧ _).1
        · intro answered
          exact of_decide_eq_true (Bool.and_eq_true _ _ ▸ answered : _ ∧ _).1 }
  have equal := stalled_lockstep_equal chasingCore .data .zero chasingStart thirdCycleInputs runs 100
  exact ⟨equal.1, equal.2.2.2⟩

end Eros
