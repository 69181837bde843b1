import Eros.FsmPhases
import Eros.ResponseLines

/-!
# Responses across isolation

The stub answers what a hart still waits for when it is isolated with a single
pulse, from the one bit `expected_rvalid`.  That is exact for a hart with one
outstanding request.  In delayed lockstep a hart may have two: the master's
requests are granted early by its delay line, and the checker's answers come
late.
-/

set_option autoImplicit false

namespace Eros

open Outstanding

namespace Network
variable {n : Nat} {net : Network n} {hart : Hart}

theorem line_of_isolated (isolated : net.mode.dmrWfi hart = true) : net.line hart = .stub := by
  unfold line
  rw [if_pos isolated]

/-- Neither a bus port nor an answer register puts an answer on the line of
`hart`. -/
def LineSilent (net : Network n) (hart : Hart) : Prop :=
  match net.line hart with
  | .port port => (lowerRespDirect net.mode (net.busResp port)).rvalid = false
  | .lead index => (lowerRespDelayed net.mode (net.busResp index)).rvalid = false
  | .trail index => net.answerLine index (Fin.last n) = false
  | .stub => True

theorem lineSilent_of_isolated (isolated : net.mode.dmrWfi hart = true) :
    net.LineSilent hart := by
  unfold LineSilent
  rw [line_of_isolated isolated]
  trivial

theorem lineSilent_iff (free : net.mode.dmrWfi hart = false) :
    net.LineSilent hart ↔ net.rvalid hart = false := by
  have notStub : net.line hart ≠ .stub := by
    unfold line
    rw [free]
    simp only [Bool.false_eq_true, if_false]
    split_ifs <;> simp
  unfold LineSilent rvalid
  cases selected : net.line hart with
  | port _ | lead _ | trail _ => exact Iff.rfl
  | stub => exact absurd selected notStub

end Network

section Run
variable {n : Nat} {net : Nat → Network n} {hart : Hart} {rise : Nat}

/-- `wfi_dmr` of `hart` rises in cycle `rise`. -/
def IsolationRises (net : Nat → Network n) (hart : Hart) (rise : Nat) : Prop :=
  (net rise).mode.dmrWfi hart = true ∧
    (rise = 0 ∨ (net (rise - 1)).mode.dmrWfi hart = false)

def QuietFrom (net : Nat → Network n) (hart : Hart) (rise : Nat) : Prop :=
  ∀ cycle, rise ≤ cycle →
    ((net cycle).coreReq hart).req = false ∧ ((net cycle).request hart).req = false

/-- A request of the core was granted, and since then it has seen no answer and
has not been isolated. -/
def GrantedSinceAnswer (net : Nat → Network n) (hart : Hart) (cycle : Nat) : Prop :=
  ∃ origin, origin < cycle ∧ (net origin).mode.dmrWfi hart = false ∧
    (((net origin).coreReq hart).req && (net origin).gnt hart) = true ∧
    ∀ between, origin < between → between < cycle →
      (net between).mode.dmrWfi hart = false ∧ (net between).rvalid hart = false

theorem grantedSinceAnswer_succ (cycle : Nat) :
    GrantedSinceAnswer net hart (cycle + 1) ↔
      (net cycle).mode.dmrWfi hart = false ∧
        ((((net cycle).coreReq hart).req && (net cycle).gnt hart) = true ∨
          (GrantedSinceAnswer net hart cycle ∧ (net cycle).rvalid hart = false)) := by
  constructor
  · rintro ⟨origin, before, free, granted, since⟩
    rcases Nat.lt_succ_iff_lt_or_eq.mp before with earlier | rfl
    · obtain ⟨freeNow, silentNow⟩ := since cycle earlier (by omega)
      refine ⟨freeNow, Or.inr ⟨⟨origin, earlier, free, granted, ?_⟩, silentNow⟩⟩
      intro between after upto
      exact since between after (by omega)
    · exact ⟨free, Or.inl granted⟩
  · rintro ⟨free, granted | ⟨⟨origin, before, freeThen, granted, since⟩, silent⟩⟩
    · refine ⟨cycle, by omega, free, granted, ?_⟩
      intro between after upto
      omega
    · refine ⟨origin, by omega, freeThen, granted, ?_⟩
      intro between after upto
      rcases Nat.lt_succ_iff_lt_or_eq.mp upto with earlier | rfl
      · exact since between after earlier
      · exact ⟨free, silent⟩

/-- `expected_rvalid` is set while the last grant has seen no answer: it does not
count. -/
theorem expectedRvalid_iff (start : (net 0).isolate hart = ⟨false, false⟩)
    (steps : ∀ cycle, (net cycle).Steps (net (cycle + 1))) (cycle : Nat) :
    ((net cycle).isolate hart).expectedRvalid = true ↔ GrantedSinceAnswer net hart cycle := by
  induction cycle with
  | zero =>
    rw [start]
    constructor
    · intro set_
      simp at set_
    · rintro ⟨origin, before, _⟩
      omega
  | succ cycle ih =>
    rw [grantedSinceAnswer_succ, (steps cycle).isolate hart, ← ih]
    cases free : (net cycle).mode.dmrWfi hart with
    | true => simp
    | false => simp

/-- The requests of `hart` outstanding in `cycle` are one granted since its last
answer, or none. -/
def StubCovers (net : Nat → Network n) (hart : Hart) (cycle : Nat) : Prop :=
  (GrantedSinceAnswer net hart cycle ∧
      tally (fun index => (net index).granted hart) cycle =
        tally (fun index => (net index).rvalid hart) cycle + 1) ∨
    (¬GrantedSinceAnswer net hart cycle ∧
      tally (fun index => (net index).granted hart) cycle =
        tally (fun index => (net index).rvalid hart) cycle)

theorem stubCovers_iff (start : (net 0).isolate hart = ⟨false, false⟩)
    (steps : ∀ cycle, (net cycle).Steps (net (cycle + 1))) (cycle : Nat) :
    StubCovers net hart cycle ↔
      tally (fun index => (net index).rvalid hart) cycle +
          ((net cycle).isolate hart).expectedRvalid.toNat =
        tally (fun index => (net index).granted hart) cycle := by
  unfold StubCovers
  rw [← expectedRvalid_iff start steps cycle]
  cases ((net cycle).isolate hart).expectedRvalid with
  | true => simp [eq_comm]
  | false => simp [eq_comm]

theorem isolate_after_rise (steps : ∀ cycle, (net cycle).Steps (net (cycle + 1)))
    (isolated : (net rise).mode.dmrWfi hart = true) (quiet : QuietFrom net hart rise)
    (later : Nat) : (net (rise + 1 + later)).isolate hart = ⟨false, false⟩ := by
  induction later with
  | zero =>
    rw [Nat.add_zero, (steps rise).isolate hart, if_pos isolated, (quiet rise le_rfl).1]
  | succ later ih =>
    rw [← Nat.add_assoc, (steps (rise + 1 + later)).isolate hart,
      (quiet (rise + 1 + later) (by omega)).1, ih]
    simp

theorem validQ_at_rise (start : (net 0).isolate hart = ⟨false, false⟩)
    (steps : ∀ cycle, (net cycle).Steps (net (cycle + 1)))
    (rises : IsolationRises net hart rise) : ((net rise).isolate hart).validQ = false := by
  obtain ⟨_, first | before⟩ := rises
  · rw [first, start]
  · cases rise with
    | zero => rw [start]
    | succ previous =>
      rw [Nat.add_sub_cancel] at before
      rw [(steps previous).isolate hart, before]
      rfl

/-- The answers a hart has seen by the end of an isolated cycle, and after it,
are those of the stub's one bit and of its line once isolation is lifted. -/
theorem isolation_answers_iff (start : (net 0).isolate hart = ⟨false, false⟩)
    (steps : ∀ cycle, (net cycle).Steps (net (cycle + 1)))
    (rises : IsolationRises net hart rise) (quiet : QuietFrom net hart rise) :
    (∀ cycle, rise < cycle →
        tally (fun index => (net index).rvalid hart) cycle =
          tally (fun index => (net index).granted hart) cycle) ↔
      StubCovers net hart rise ∧ ∀ cycle, rise < cycle → (net cycle).LineSilent hart := by
  rw [stubCovers_iff start steps rise]
  have noGrant : ∀ cycle, rise ≤ cycle → (net cycle).granted hart = false := by
    intro cycle after
    simp [Network.granted, (quiet cycle after).2]
  have grants : ∀ later, tally (fun index => (net index).granted hart) (rise + later) =
      tally (fun index => (net index).granted hart) rise := tally_quiet noGrant
  have firstAnswer : (net rise).rvalid hart = ((net rise).isolate hart).expectedRvalid := by
    unfold Network.rvalid
    rw [Network.line_of_isolated rises.1]
    change (((net rise).isolate hart).validQ || _) = _
    rw [validQ_at_rise start steps rises, Bool.false_or]
  -- while it is isolated the hart sees no answer after the first one
  have stubSilent : ∀ cycle, rise < cycle → (net cycle).mode.dmrWfi hart = true →
      (net cycle).rvalid hart = false := by
    intro cycle after isolated
    obtain ⟨later, rfl⟩ := Nat.exists_eq_add_of_lt after
    have registers := isolate_after_rise steps rises.1 quiet later
    rw [Nat.add_right_comm] at registers
    unfold Network.rvalid
    rw [Network.line_of_isolated isolated, registers]
    rfl
  have firstCount : tally (fun index => (net index).rvalid hart) (rise + 1) =
      tally (fun index => (net index).rvalid hart) rise +
        ((net rise).isolate hart).expectedRvalid.toNat := by
    rw [tally_succ, firstAnswer]
  constructor
  · intro equal
    constructor
    · rw [← firstCount, equal (rise + 1) (by omega), grants 1]
    · intro cycle after
      cases isolated : (net cycle).mode.dmrWfi hart with
      | true => exact Network.lineSilent_of_isolated isolated
      | false =>
      rw [Network.lineSilent_iff isolated]
      have now := grants (cycle - rise)
      have next := grants (cycle + 1 - rise)
      rw [Nat.add_sub_cancel' (by omega)] at now next
      have still : tally (fun index => (net index).rvalid hart) (cycle + 1) =
          tally (fun index => (net index).rvalid hart) cycle := by
        rw [equal (cycle + 1) (by omega), equal cycle after, next, now]
      exact quiet_of_tally still
  · rintro ⟨atRise, silent⟩ cycle after
    have noAnswer : ∀ index, rise + 1 ≤ index → (net index).rvalid hart = false := by
      intro index from_
      cases isolated : (net index).mode.dmrWfi hart with
      | true => exact stubSilent index from_ isolated
      | false => exact (Network.lineSilent_iff isolated).mp (silent index from_)
    obtain ⟨later, rfl⟩ := Nat.exists_eq_add_of_le (Nat.succ_le_of_lt after)
    rw [Nat.succ_eq_add_one, tally_quiet noAnswer later, firstCount, atRise, Nat.add_assoc, grants]

end Run

/-- In every run and for every hart that requests nothing from the cycle on in
which its isolation rises: on each bus it has seen, in every later cycle, as many
answers as it had grants if and only if it had at most one request outstanding at
the rise, granted since its last answer, and its line stays silent once isolation
is lifted. -/
theorem isolation_loses_no_response_iff (n : Nat) (inputs : Nat → SystemIn) (hart : Hart)
    (rise : Nat) :
    let run := (safeSystem n).run inputs
    ((run rise).mode (inputs rise)).dmrWfi hart = true →
      (rise = 0 ∨ ((run (rise - 1)).mode (inputs (rise - 1))).dmrWfi hart = false) →
      (∀ cycle, rise ≤ cycle → ((inputs cycle).hartReq hart).instr.req = false ∧
        ((inputs cycle).hartReq hart).coreData.req = false ∧
        ((inputs cycle).hartReq hart).data.req = false) →
      ((∀ cycle, rise < cycle →
            tally (fun index => (run index).instrRvalid (inputs index) hart) cycle =
              tally (fun index => (run index).instrGranted (inputs index) hart) cycle) ↔
          StubCovers (instrNetworks n inputs) hart rise ∧
            ∀ cycle, rise < cycle → (instrNetworks n inputs cycle).LineSilent hart) ∧
        ((∀ cycle, rise < cycle →
            tally (fun index => (run index).dataRvalid (inputs index) hart) cycle =
              tally (fun index => (run index).dataGranted (inputs index) hart) cycle) ↔
          StubCovers (dataNetworks n inputs) hart rise ∧
            ∀ cycle, rise < cycle → (dataNetworks n inputs cycle).LineSilent hart) := by
  intro run isolated before quiet
  simp only [SafeSystem.instrRvalid_eq, SafeSystem.instrGranted_eq, SafeSystem.dataRvalid_eq,
    SafeSystem.dataGranted_eq]
  constructor
  · exact isolation_answers_iff rfl (instrNetworks_steps n inputs)
      ⟨isolated, before⟩ fun cycle after => ⟨(quiet cycle after).1, (quiet cycle after).1⟩
  · exact isolation_answers_iff rfl (dataNetworks_steps n inputs)
      ⟨isolated, before⟩ fun cycle after => (quiet cycle after).2

/-! ## One outstanding fetch, and two -/

theorem stop_stays {n : Nat} {sys : SafeSystem n} {inp : SystemIn} {hart : Hart}
    (stop : sys.fsm.ctrlDmr hart = .stop) (awake : inp.sleep.all = false) :
    (sys.next inp).fsm.ctrlDmr hart = .stop := by
  change sys.fsm.ctrlDmrNext (sys.fsmIn inp) hart = .stop
  have asleep : (sys.fsmIn inp).hartWfi.all = false := awake
  simp [SafeFsm.ctrlDmrNext, stop, asleep]

/-- Both harts fetch and are granted, then hart 0 fetches alone, then the bus
answers. -/
def oneFetch : Nat → SystemIn
  | 0 =>
    { pairSystemIn 0b10#2 with
      hartReq := fun hart => if hart = 2 then ⟨.zero, .zero, .zero⟩ else fetching 0x100
      instrResp := portZero true false }
  | 1 =>
    { pairSystemIn 0b10#2 with
      hartReq := fun hart => if hart = 0 then fetching 0x104 else ⟨.zero, .zero, .zero⟩ }
  | 2 => { pairSystemIn 0b10#2 with instrResp := portZero false true }
  | _ => pairSystemIn 0b10#2

theorem oneFetch_awake (later : Nat) : (oneFetch later).sleep.all = false := by
  match later with
  | 0 | 1 | 2 => rfl
  | _ + 3 => rfl

set_option maxRecDepth 8000 in
theorem oneFetch_stop (later : Nat) :
    ((safeSystem 0).run (enterPairThen 0b10#2 oneFetch) (later + 8)).fsm.ctrlDmr 0 = .stop := by
  induction later with
  | zero => decide
  | succ later ih =>
    rw [Nat.add_right_comm, Synchronous.Machine.run_succ]
    exact stop_stays ih (oneFetch_awake (later + 2))

set_option maxRecDepth 8000 in
/-- The one outstanding fetch of hart 0 is answered by the stub, once. -/
theorem oneFetch_answered :
    tally (fun index => ((safeSystem 0).run (enterPairThen 0b10#2 oneFetch) index).instrRvalid
        (enterPairThen 0b10#2 oneFetch index) 0) 1000 =
      tally (fun index => ((safeSystem 0).run (enterPairThen 0b10#2 oneFetch) index).instrGranted
        (enterPairThen 0b10#2 oneFetch index) 0) 1000 := by
  refine (isolation_loses_no_response_iff 0 (enterPairThen 0b10#2 oneFetch) 0 8 (by decide)
    (by decide) ?_).1.mpr ⟨Or.inl ⟨⟨6, by omega, by decide, by decide, ?_⟩, by decide⟩, ?_⟩ 1000
      (by omega)
  · intro cycle after
    obtain ⟨later, rfl⟩ := Nat.exists_eq_add_of_le' after
    match later with
    | 0 => exact ⟨rfl, rfl, rfl⟩
    | _ + 1 => exact ⟨rfl, rfl, rfl⟩
  · intro between after before
    obtain rfl : between = 7 := by omega
    decide
  · intro cycle after
    obtain ⟨later, rfl⟩ := Nat.exists_eq_add_of_le' after.le
    apply Network.lineSilent_of_isolated
    exact dmrOut_wfiDmr.mpr (oneFetch_stop later)

/-- Hart 0 is granted a fetch by its delay line and another one while the first
is granted on the bus, for hart 1 as well.  Hart 1 does not follow with the
second, and the bus answers the first two cycles after its grant. -/
def twoFetches : Nat → SystemIn
  | 0 =>
    { pairSystemIn 0b11#2 with
      hartReq := fun hart => if hart = 0 then fetching 0x100 else ⟨.zero, .zero, .zero⟩ }
  | 1 =>
    { pairSystemIn 0b11#2 with
      hartReq := fun hart =>
        if hart = 0 then fetching 0x104 else if hart = 1 then fetching 0x100
          else ⟨.zero, .zero, .zero⟩
      instrResp := portZero true false }
  | 3 => { pairSystemIn 0b11#2 with instrResp := portZero false true }
  | _ => pairSystemIn 0b11#2

/-- Each port grants requests only, answers in a later cycle and has one
transaction outstanding at most. -/
structure OneOutstanding {n : Nat} (net : Nat → Network n) : Prop where
  onRequest : ∀ cycle port, ((net cycle).busResp port).gnt = true →
    ((net cycle).busReq port).req = true
  answered : BusAnswers net
  atMostOne : ∀ port cycle, tally (fun index => (net index).busGranted port) cycle ≤
    tally (fun index => ((net index).busResp port).rvalid) cycle + 1

/-- `hart` holds a request until it is granted and has two outstanding at most. -/
structure TwoOutstanding {n : Nat} (net : Nat → Network n) (hart : Hart) : Prop where
  holds : ∀ cycle, ((net cycle).request hart).req = true → (net cycle).granted hart = false →
    (net (cycle + 1)).request hart = (net cycle).request hart
  atMostTwo : ∀ cycle, tally (fun index => (net index).granted hart) cycle ≤
    tally (fun index => (net index).rvalid hart) cycle + 2

/-- Every cycle of `twoFetches` in which a wire of interest is high. -/
theorem twoFetches_wires (cycle : Nat) :
    (∀ port, ((enterPairThen 0b11#2 twoFetches cycle).instrResp port).gnt = true →
        cycle = 7 ∧ port = 0) ∧
      (∀ port, ((enterPairThen 0b11#2 twoFetches cycle).instrResp port).rvalid = true →
        cycle = 9 ∧ port = 0) ∧
      (((enterPairThen 0b11#2 twoFetches cycle).hartReq 0).instr.req = true →
        cycle = 6 ∨ cycle = 7) ∧
      (enterPairThen 0b11#2 twoFetches cycle).dataResp = (fun _ => .zero) ∧
      ((enterPairThen 0b11#2 twoFetches cycle).hartReq 0).data = .zero ∧
      ((enterPairThen 0b11#2 twoFetches cycle).hartReq 0).coreData = .zero := by
  match cycle with
  | 0 | 1 | 2 | 3 | 4 | 5 | 6 | 8 => decide
  | 7 | 9 => decide
  | later + 10 =>
    refine ⟨?_, ?_, ?_, rfl, rfl, rfl⟩
    · intro port granted
      exact absurd granted (by simp [enterPairThen, twoFetches, pairSystemIn, ObiResp.zero])
    · intro port answered
      exact absurd answered (by simp [enterPairThen, twoFetches, pairSystemIn, ObiResp.zero])
    · intro requested
      exact absurd requested (by simp [enterPairThen, twoFetches, pairSystemIn])

set_option maxRecDepth 8000 in
theorem twoFetches_oneOutstanding :
    OneOutstanding (instrNetworks 0 (enterPairThen 0b11#2 twoFetches)) where
  onRequest cycle port granted := by
    obtain ⟨rfl, rfl⟩ := (twoFetches_wires cycle).1 port granted
    decide
  answered port cycle answered := by
    obtain ⟨rfl, rfl⟩ := (twoFetches_wires cycle).2.1 port answered
    decide
  atMostOne port cycle := by
    have within : ∀ index, (instrNetworks 0 (enterPairThen 0b11#2 twoFetches) index).busGranted
        port = true → index ∈ ({7} : Finset Nat) := by
      intro index granted
      have gnt := (Bool.and_eq_true_iff.mp granted).2
      exact Finset.mem_singleton.mpr ((twoFetches_wires index).1 port gnt).1
    have once := tally_le_card within cycle
    rw [Finset.card_singleton] at once
    omega

set_option maxRecDepth 8000 in
theorem twoFetches_twoOutstanding :
    TwoOutstanding (instrNetworks 0 (enterPairThen 0b11#2 twoFetches)) 0 where
  holds cycle requested refused := by
    rcases (twoFetches_wires cycle).2.2.1 requested with rfl | rfl
    · exact absurd refused (by decide)
    · exact absurd refused (by decide)
  atMostTwo cycle := by
    have within : ∀ index, (instrNetworks 0 (enterPairThen 0b11#2 twoFetches) index).granted
        0 = true → index ∈ ({6, 7} : Finset Nat) := by
      intro index granted
      have requested := (Bool.and_eq_true_iff.mp granted).1
      rcases (twoFetches_wires index).2.2.1 requested with first | second
      · simp [first]
      · simp [second]
    have twice := tally_le_card within cycle
    rw [Finset.card_pair (by omega)] at twice
    omega

theorem twoFetches_data :
    OneOutstanding (dataNetworks 0 (enterPairThen 0b11#2 twoFetches)) ∧
      TwoOutstanding (dataNetworks 0 (enterPairThen 0b11#2 twoFetches)) 0 := by
  have silent : ∀ cycle, (enterPairThen 0b11#2 twoFetches cycle).dataResp = fun _ => .zero :=
    fun cycle => (twoFetches_wires cycle).2.2.2.1
  have quiet : ∀ cycle, ((enterPairThen 0b11#2 twoFetches cycle).hartReq 0).data = .zero :=
    fun cycle => (twoFetches_wires cycle).2.2.2.2.1
  have noGrant : ∀ cycle,
      (dataNetworks 0 (enterPairThen 0b11#2 twoFetches) cycle).granted 0 = false := by
    intro cycle
    change (((enterPairThen 0b11#2 twoFetches cycle).hartReq 0).data.req && _) = false
    rw [quiet cycle]
    rfl
  refine ⟨⟨?_, ?_, ?_⟩, ?_, ?_⟩
  · intro cycle port granted
    change ((enterPairThen 0b11#2 twoFetches cycle).dataResp port).gnt = true at granted
    rw [silent cycle] at granted
    exact absurd granted (by simp [ObiResp.zero])
  · exact busAnswers_of_silent silent
  · intro port cycle
    have within : ∀ index, (dataNetworks 0 (enterPairThen 0b11#2 twoFetches) index).busGranted
        port = true → index ∈ (∅ : Finset Nat) := by
      intro index granted
      have gnt := (Bool.and_eq_true_iff.mp granted).2
      change ((enterPairThen 0b11#2 twoFetches index).dataResp port).gnt = true at gnt
      rw [silent index] at gnt
      exact absurd gnt (by simp [ObiResp.zero])
    have never := tally_le_card within cycle
    rw [Finset.card_empty] at never
    omega
  · intro cycle requested _
    change ((enterPairThen 0b11#2 twoFetches cycle).hartReq 0).data.req = true at requested
    rw [quiet cycle] at requested
    exact absurd requested (by simp)
  · intro cycle
    have never := tally_quiet (fun index _ => noGrant index : ∀ index, 0 ≤ index → _) cycle
    rw [Nat.zero_add, tally_zero] at never
    omega

set_option maxRecDepth 8000 in
/-- In delayed lockstep the two fetches of hart 0 are answered once. -/
theorem two_fetches_lose_response :
    ¬∀ (n : Nat) (inputs : Nat → SystemIn) (hart : Hart) (rise : Nat),
      OneOutstanding (instrNetworks n inputs) → OneOutstanding (dataNetworks n inputs) →
      TwoOutstanding (instrNetworks n inputs) hart → TwoOutstanding (dataNetworks n inputs) hart →
      IsolationRises (instrNetworks n inputs) hart rise →
      QuietFrom (instrNetworks n inputs) hart rise → QuietFrom (dataNetworks n inputs) hart rise →
      ∀ cycle, rise < cycle →
        tally (fun index => (instrNetworks n inputs index).rvalid hart) cycle =
            tally (fun index => (instrNetworks n inputs index).granted hart) cycle ∧
          tally (fun index => (dataNetworks n inputs index).rvalid hart) cycle =
            tally (fun index => (dataNetworks n inputs index).granted hart) cycle := by
  intro claimed
  have equal := claimed 0 (enterPairThen 0b11#2 twoFetches) 0 9 twoFetches_oneOutstanding
    twoFetches_data.1 twoFetches_twoOutstanding twoFetches_data.2 ⟨by decide, by decide⟩ ?_ ?_ 10
    (by omega)
  · exact absurd equal.1 (by decide)
  · intro cycle after
    obtain ⟨later, rfl⟩ := Nat.exists_eq_add_of_le' after
    match later with
    | 0 => exact ⟨rfl, rfl⟩
    | _ + 1 => exact ⟨rfl, rfl⟩
  · intro cycle after
    obtain ⟨later, rfl⟩ := Nat.exists_eq_add_of_le' after
    match later with
    | 0 => exact ⟨rfl, rfl⟩
    | _ + 1 => exact ⟨rfl, rfl⟩

end Eros
