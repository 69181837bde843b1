import Eros.RecoveryReturn

/-!
# The switch from single mode to triple redundancy

The master asks for the mode and goes to sleep; the state machine then halts the two
other harts to take over its context.  The machine of the master goes on when it
sees two harts halted in one cycle, the machines of the others when their own hart
halts.
-/

set_option autoImplicit false

namespace Eros

open Progress (Throughout Soon LeadsTo)

def HartWires.two (wires : HartWires) : Bool :=
  (wires 0 && wires 1) || (wires 1 && wires 2) || (wires 0 && wires 2)

theorem HartWires.two_eq_true {wires : HartWires} {master : Hart} (both : wires.two = true)
    (running : wires master = false) : ∀ hart, hart ≠ master → wires hart = true := by
  intro hart other
  unfold HartWires.two at both
  fin_cases master <;> fin_cases hart <;> simp_all

section Step
variable {fsm : SafeFsm} {inp : FsmIn} {hart master : Hart}

theorem ctrlTmrNext_shHalt (state : fsm.ctrlTmr hart = .shHalt) :
    fsm.ctrlTmrNext inp hart =
      if inp.masterCore hart && inp.haltAck.two then .waitSh
      else if !inp.masterCore hart && inp.haltAck hart then .waitSh
      else .shHalt := by
  simp only [SafeFsm.ctrlTmrNext, state, HartWires.two]
  rfl

theorem ctrlTmrNext_waitSh (state : fsm.ctrlTmr hart = .waitSh) :
    fsm.ctrlTmrNext inp hart = if inp.hartWfi.all then .msIntrSync else .waitSh := by
  simp only [SafeFsm.ctrlTmrNext, state]

theorem ctrlTmrNext_msIntrSync (state : fsm.ctrlTmr hart = .msIntrSync) :
    fsm.ctrlTmrNext inp hart = if inp.hartIntcAck.all then .sync else .msIntrSync := by
  simp only [SafeFsm.ctrlTmrNext, state]

theorem ctrlTmrNext_switches (idle : fsm.ctrlTmr hart = .idle) (mode : fsm.ctrlSafe = .tmrMode)
    (started : inp.start = true) (single : fsm.ctrlSingle = .toTmr) :
    fsm.ctrlTmrNext inp hart = if fsm.switchesIn inp hart then .shHalt else .idle := by
  simp [SafeFsm.ctrlTmrNext, idle, mode, started, SafeFsm.single, singleOut, single]

theorem ctrlSingleNext_toTmr (state : fsm.ctrlSingle = .toTmr) :
    fsm.ctrlSingleNext inp = if (fsm.switchSingleToTmr inp).all then .idle else .toTmr := by
  simp only [SafeFsm.ctrlSingleNext, state]

end Step

/-! ## The phases of the switch -/

/-- The states of a machine that has let its hart go. -/
def CtrlTmrFsm.letsGo : CtrlTmrFsm → Bool
  | .waitSh | .msIntrSync | .sync | .syncIntc | .swSync => true
  | _ => false

/-- A hart that takes over: not yet halted, halted, or past its halt. -/
def TakesOver (fsm : SafeFsm) (inp : FsmIn) (hart : Hart) : Prop :=
  fsm.ctrlTmr hart = .shHalt ∨ (fsm.ctrlTmr hart = .waitSh ∧ inp.haltAck hart = true) ∨
    ((fsm.ctrlTmr hart).letsGo = true ∧ inp.haltAck hart = false)

theorem takesOver_of_waitSh {fsm : SafeFsm} {inp : FsmIn} {hart : Hart}
    (state : fsm.ctrlTmr hart = .waitSh) : TakesOver fsm inp hart := by
  cases acked : inp.haltAck hart with
  | true => exact Or.inr (Or.inl ⟨state, acked⟩)
  | false => exact Or.inr (Or.inr ⟨by rw [state]; rfl, acked⟩)

/-- The machine of the master waits for its hart to sleep. -/
structure AwaitsSleep (fsm : SafeFsm) (inp : FsmIn) : Prop where
  single : fsm.ctrlSingle = .toTmr
  tmr : ∀ hart, fsm.ctrlTmr hart = .idle
  running : ∀ hart, inp.haltAck hart = false

/-- It has asked first. -/
structure MasterAsks (master : Hart) (fsm : SafeFsm) (inp : FsmIn) : Prop where
  single : fsm.ctrlSingle = .toTmr
  tmr : ∀ hart, fsm.ctrlTmr hart = if hart = master then .shHalt else .idle
  running : ∀ hart, inp.haltAck hart = false

structure AllAsk (fsm : SafeFsm) (inp : FsmIn) : Prop where
  single : fsm.ctrlSingle = .toTmr
  tmr : ∀ hart, fsm.ctrlTmr hart = .shHalt
  running : ∀ hart, inp.haltAck hart = false

/-- The others halt while the machine of the master waits for two of them. -/
structure OthersHalt (master : Hart) (fsm : SafeFsm) (inp : FsmIn) : Prop where
  single : fsm.ctrlSingle = .idle
  asks : fsm.ctrlTmr master = .shHalt
  running : inp.haltAck master = false
  others : ∀ hart, hart ≠ master → TakesOver fsm inp hart

/-- A switch up to the cycle in which two harts are halted. -/
structure Switching (master : Hart) (fsm : SafeFsm) (inp : FsmIn) : Prop where
  mode : fsm.ctrlSafe = .tmrMode
  dmr : ∀ hart, fsm.ctrlDmr hart = .idle
  phase : AwaitsSleep fsm inp ∨ MasterAsks master fsm inp ∨ AllAsk fsm inp ∨
    OthersHalt master fsm inp

section Step
variable {fsm : SafeFsm} {inp later : FsmIn} {master hart : Hart}

theorem letsGo_next (state : (fsm.ctrlTmr hart).letsGo = true)
    (running : inp.endSwRoutine = false) (configured : inp.safeConfiguration = 0b01#2) :
    (fsm.ctrlTmrNext inp hart).letsGo = true := by
  cases at_ : fsm.ctrlTmr hart <;> rw [at_] at state <;> try cases state
  all_goals
    simp only [SafeFsm.ctrlTmrNext, at_, running, configured, bne_self_eq_false, Bool.and_false,
      Bool.false_eq_true, if_false]
    split_ifs <;> rfl

theorem Switching.interruptHaltO (switching : Switching master fsm inp)
    (named : inp.masterCore = oneHot master) :
    fsm.interruptHaltO inp hart = (decide (fsm.ctrlTmr hart = .shHalt) && decide (hart ≠ master)) := by
  have dmr := switching.dmr hart
  have solo : (fsm.single inp).singleHaltRequest hart = false := by
    rcases switching.phase with phase | phase | phase | phase <;>
      simp [SafeFsm.single, singleOut, phase.single]
  have states : fsm.ctrlTmr hart ≠ .start := by
    rcases switching.phase with phase | phase | phase | phase
    · simp [phase.tmr]
    · rw [phase.tmr]
      split_ifs <;> decide
    · simp [phase.tmr]
    · by_cases same : hart = master
      · rw [same, phase.asks]
        decide
      · intro start
        rcases phase.others hart same with state | ⟨state, -⟩ | ⟨state, -⟩
        · rw [start] at state
          cases state
        · rw [start] at state
          cases state
        · rw [start] at state
          cases state
  simp only [SafeFsm.interruptHaltO, solo, SafeFsm.dmr, dmr, dmrOut, DmrOut.default, SafeFsm.tmr,
    named, Bool.or_false]
  cases state : fsm.ctrlTmr hart <;> simp_all [tmrOut, TmrOut.zero, oneHot]

/-- What the harts do in a cycle of the switch: a hart halts only when asked, and is
awake while it is halted. -/
structure HaltsProperly (fsm : SafeFsm) (inp later : FsmIn) : Prop where
  asked : ∀ hart, later.haltAck hart = true →
    inp.haltAck hart = true ∨ fsm.interruptHaltO inp hart = true
  awake : ∀ hart, inp.haltAck hart = true → inp.hartWfi hart = false

theorem HaltsProperly.unasked (halts : HaltsProperly fsm inp later)
    (running : inp.haltAck hart = false) (unasked : fsm.interruptHaltO inp hart = false) :
    later.haltAck hart = false := by
  rw [← Bool.not_eq_true]
  intro acked
  rcases halts.asked hart acked with before | asked
  · rw [running] at before
    cases before
  · rw [unasked] at asked
    cases asked

theorem HaltsProperly.notAllAsleep (halts : HaltsProperly fsm inp later)
    (acked : inp.haltAck hart = true) : inp.hartWfi.all = false := by
  rw [← Bool.not_eq_true, HartWires.all_eq_true_iff]
  intro asleep
  have awake := halts.awake hart acked
  rw [asleep] at awake
  cases awake

theorem switchesIn_eq (named : inp.masterCore = oneHot master) (started : inp.start = true) :
    fsm.switchesIn inp hart =
      if hart = master then inp.hartWfi hart && inp.initialSyncMaster else fsm.haltReq inp := by
  unfold SafeFsm.switchesIn
  rw [named, started]
  by_cases same : hart = master <;> simp [oneHot, same]

theorem haltReq_eq (named : inp.masterCore = oneHot master) (dmr : ∀ hart, fsm.ctrlDmr hart = .idle) :
    fsm.haltReq inp = decide (fsm.ctrlTmr master = .shHalt) := by
  have dual : HartWires.any (fun hart => (fsm.dmr inp hart).dbgHaltReq) = false := by
    simp [HartWires.any, SafeFsm.dmr, dmr, dmrOut, DmrOut.default]
  have asks : ∀ hart, (fsm.tmr inp hart).dbgHaltReq =
      (decide (hart = master) && decide (fsm.ctrlTmr hart = .shHalt)) := by
    intro hart
    unfold SafeFsm.tmr
    rw [named]
    cases fsm.ctrlTmr hart <;> simp [tmrOut, TmrOut.zero, oneHot]
  unfold SafeFsm.haltReq
  rw [dual, Bool.or_false, Bool.eq_iff_iff, HartWires.any_eq_true_iff]
  simp only [asks, Bool.and_eq_true, decide_eq_true_eq]
  constructor
  · rintro ⟨hart, rfl, state⟩
    exact state
  · intro state
    exact ⟨master, rfl, state⟩

theorem switchSingleToTmr_eq (hart : Hart) :
    fsm.switchSingleToTmr inp hart = decide (fsm.ctrlTmr hart = .shHalt) := by
  unfold SafeFsm.switchSingleToTmr SafeFsm.tmr
  cases fsm.ctrlTmr hart <;> simp [tmrOut, TmrOut.zero]

end Step

/-! ## One cycle of the switch -/

section Cycle
variable {fsm : SafeFsm} {inp later : FsmIn} {master : Hart}
  (switching : Switching master fsm inp) (started : inp.start = true)
  (running : inp.endSwRoutine = false) (configured : inp.safeConfiguration = 0b01#2)
  (named : inp.masterCore = oneHot master) (halts : HaltsProperly fsm inp later)
include switching started named halts

theorem AwaitsSleep.next (phase : AwaitsSleep fsm inp) :
    AwaitsSleep (fsm.next inp) later ∨ MasterAsks master (fsm.next inp) later := by
  have unasked : ∀ hart, later.haltAck hart = false := by
    intro hart
    refine halts.unasked (phase.running hart) ?_
    rw [switching.interruptHaltO named, phase.tmr]
    rfl
  have quiet : fsm.haltReq inp = false := by
    rw [haltReq_eq named switching.dmr, phase.tmr]
    rfl
  have single : (fsm.next inp).ctrlSingle = .toTmr := by
    refine (ctrlSingleNext_toTmr phase.single).trans (if_neg ?_)
    rw [HartWires.all_eq_true_iff]
    intro all
    have asks := all master
    rw [switchSingleToTmr_eq, phase.tmr] at asks
    cases asks
  have moves : ∀ hart, (fsm.next inp).ctrlTmr hart =
      if fsm.switchesIn inp hart then .shHalt else .idle :=
    fun hart => ctrlTmrNext_switches (phase.tmr hart) switching.mode started phase.single
  by_cases sleeps : (inp.hartWfi master && inp.initialSyncMaster) = true
  · refine Or.inr ⟨single, fun hart => ?_, unasked⟩
    rw [moves, switchesIn_eq named started]
    by_cases same : hart = master
    · rw [if_pos same, if_pos same, same, if_pos sleeps]
    · rw [if_neg same, if_neg same, quiet]
      rfl
  · refine Or.inl ⟨single, fun hart => ?_, unasked⟩
    rw [moves, switchesIn_eq named started]
    by_cases same : hart = master
    · rw [if_pos same, same, if_neg sleeps]
    · rw [if_neg same, quiet]
      rfl

theorem MasterAsks.next (phase : MasterAsks master fsm inp) : AllAsk (fsm.next inp) later where
  single := by
    refine (ctrlSingleNext_toTmr phase.single).trans (if_neg ?_)
    rw [HartWires.all_eq_true_iff]
    intro all
    obtain ⟨other, different⟩ : ∃ other : Hart, other ≠ master := exists_ne master
    have asks := all other
    rw [switchSingleToTmr_eq, phase.tmr, if_neg different] at asks
    cases asks
  tmr hart := by
    change fsm.ctrlTmrNext inp hart = .shHalt
    by_cases same : hart = master
    · have asks := phase.tmr hart
      rw [if_pos same] at asks
      rw [ctrlTmrNext_shHalt asks]
      simp [HartWires.two, phase.running]
    · have idle := phase.tmr hart
      rw [if_neg same] at idle
      have asked : fsm.switchesIn inp hart = true := by
        rw [switchesIn_eq named started, if_neg same, haltReq_eq named switching.dmr, phase.tmr,
          if_pos rfl]
        rfl
      rw [ctrlTmrNext_switches idle switching.mode started phase.single, if_pos asked]
  running hart := by
    refine halts.unasked (phase.running hart) ?_
    rw [switching.interruptHaltO named, phase.tmr]
    by_cases same : hart = master <;> simp [same]

omit started in
theorem AllAsk.next (phase : AllAsk fsm inp) : OthersHalt master (fsm.next inp) later := by
  have waits : ∀ hart, (fsm.next inp).ctrlTmr hart = .shHalt := by
    intro hart
    change fsm.ctrlTmrNext inp hart = .shHalt
    rw [ctrlTmrNext_shHalt (phase.tmr hart)]
    simp [HartWires.two, phase.running]
  refine ⟨?_, waits master, ?_, fun hart _ => Or.inl (waits hart)⟩
  · refine (ctrlSingleNext_toTmr phase.single).trans (if_pos ?_)
    rw [HartWires.all_eq_true_iff]
    intro hart
    rw [switchSingleToTmr_eq, phase.tmr]
    rfl
  · refine halts.unasked (phase.running master) ?_
    rw [switching.interruptHaltO named]
    simp

include running configured

omit started in
theorem TakesOver.next {hart : Hart} (other : hart ≠ master) (takes : TakesOver fsm inp hart) :
    TakesOver (fsm.next inp) later hart := by
  have named_ : inp.masterCore hart = false := by simp [named, oneHot, other]
  rcases takes with waits | ⟨halted, acked⟩ | ⟨gone, released⟩
  · have moves : (fsm.next inp).ctrlTmr hart = if inp.haltAck hart then .waitSh else .shHalt := by
      change fsm.ctrlTmrNext inp hart = _
      rw [ctrlTmrNext_shHalt waits, named_]
      simp
    by_cases acks : inp.haltAck hart = true
    · rw [if_pos acks] at moves
      exact takesOver_of_waitSh moves
    · rw [if_neg acks] at moves
      exact Or.inl moves
  · have moves : (fsm.next inp).ctrlTmr hart = .waitSh :=
      (ctrlTmrNext_waitSh halted).trans (if_neg (by simp [halts.notAllAsleep acked]))
    exact takesOver_of_waitSh moves
  · refine Or.inr (Or.inr ⟨letsGo_next gone running configured, ?_⟩)
    refine halts.unasked released ?_
    rw [switching.interruptHaltO named]
    cases state : fsm.ctrlTmr hart <;> simp_all [CtrlTmrFsm.letsGo]

omit started in
theorem OthersHalt.next (phase : OthersHalt master fsm inp) (apart : inp.haltAck.two = false) :
    OthersHalt master (fsm.next inp) later where
  single := ctrlSingleNext_of_idle phase.single (Or.inl (by simp [switching.mode]))
  asks := by
    change fsm.ctrlTmrNext inp master = .shHalt
    rw [ctrlTmrNext_shHalt phase.asks, apart, named]
    simp [oneHot]
  running := by
    refine halts.unasked phase.running ?_
    rw [switching.interruptHaltO named]
    simp
  others hart other := (phase.others hart other).next switching running configured named halts other

omit running configured named halts in
theorem Switching.mode_next : (fsm.next inp).ctrlSafe = .tmrMode := by
  refine ctrlSafeNext_of_tmrKept switching.mode started fun hart ended => ?_
  rcases switching.phase with phase | phase | phase | phase
  · simp [phase.tmr] at ended
  · rw [phase.tmr] at ended
    split_ifs at ended
  · simp [phase.tmr] at ended
  · by_cases same : hart = master
    · rw [same, phase.asks] at ended
      cases ended
    · rcases phase.others hart same with state | ⟨state, -⟩ | ⟨state, -⟩
      · rw [ended] at state
        cases state
      · rw [ended] at state
        cases state
      · rw [ended] at state
        cases state

theorem Switching.next (apart : inp.haltAck.two = false) :
    Switching master (fsm.next inp) later where
  mode := switching.mode_next started
  dmr hart := ctrlDmrNext_of_otherMode (switching.dmr hart) (by simp [switching.mode])
  phase := by
    rcases switching.phase with phase | phase | phase | phase
    · rcases phase.next switching started named halts with stays | asks
      · exact Or.inl stays
      · exact Or.inr (Or.inl asks)
    · exact Or.inr (Or.inr (Or.inl (phase.next switching started named halts)))
    · exact Or.inr (Or.inr (Or.inr (phase.next switching named halts)))
    · exact Or.inr (Or.inr (Or.inr
        (phase.next switching running configured named halts apart)))

omit running configured halts in
/-- The machine of a master that sleeps after it has asked waits in SH_HALT, and leaves
it only when two harts are halted. -/
theorem Switching.waits_next (apart : inp.haltAck.two = false)
    (asks : fsm.ctrlTmr master = .shHalt ∨
      (inp.hartWfi master && inp.initialSyncMaster) = true) :
    (fsm.next inp).ctrlTmr master = .shHalt := by
  change fsm.ctrlTmrNext inp master = .shHalt
  have stays (waits : fsm.ctrlTmr master = .shHalt) : fsm.ctrlTmrNext inp master = .shHalt := by
    rw [ctrlTmrNext_shHalt waits, apart, named]
    simp [oneHot]
  rcases asks with waits | sleeps
  · exact stays waits
  · rcases switching.phase with phase | phase | phase | phase
    · rw [ctrlTmrNext_switches (phase.tmr master) switching.mode started phase.single,
        switchesIn_eq named started, if_pos rfl, if_pos sleeps]
    · exact stays ((phase.tmr master).trans (if_pos rfl))
    · exact stays (phase.tmr master)
    · exact stays phase.asks

omit started running configured in
theorem Switching.taken (both : inp.haltAck.two = true) :
    (fsm.next inp).ctrlSingle = .idle ∧ ∀ hart, (fsm.next inp).ctrlTmr hart = .waitSh := by
  have phase : OthersHalt master fsm inp := by
    have none : (∀ hart, inp.haltAck hart = false) → False := by
      intro running
      simp [HartWires.two, running] at both
    rcases switching.phase with phase | phase | phase | phase
    · exact (none phase.running).elim
    · exact (none phase.running).elim
    · exact (none phase.running).elim
    · exact phase
  refine ⟨ctrlSingleNext_of_idle phase.single (Or.inl (by simp [switching.mode])), fun hart => ?_⟩
  change fsm.ctrlTmrNext inp hart = .waitSh
  by_cases same : hart = master
  · rw [same, ctrlTmrNext_shHalt phase.asks, both, named]
    simp [oneHot]
  · have acked := HartWires.two_eq_true both phase.running hart same
    rcases phase.others hart same with waits | ⟨halted, -⟩ | ⟨-, released⟩
    · rw [ctrlTmrNext_shHalt waits, acked, named]
      simp [oneHot, same]
    · rw [ctrlTmrNext_waitSh halted, halts.notAllAsleep acked]
      rfl
    · rw [acked] at released
      cases released

end Cycle

/-! ## The whole switch -/

/-- Single mode runs and the harts are out of their halts. -/
structure SingleRuns (fsm : SafeFsm) (inp : FsmIn) : Prop where
  mode : fsm.ctrlSafe = .singleMode
  single : fsm.ctrlSingle = .run
  tmr : ∀ hart, fsm.ctrlTmr hart = .idle
  dmr : ∀ hart, fsm.ctrlDmr hart = .idle
  running : ∀ hart, inp.haltAck hart = false

theorem SingleRuns.next {fsm : SafeFsm} {inp later : FsmIn} (master : Hart)
    (runs : SingleRuns fsm inp) (started : inp.start = true) (running : inp.endSwRoutine = false)
    (configured : inp.safeConfiguration = 0b01#2) (halts : HaltsProperly fsm inp later) :
    Switching master (fsm.next inp) later := by
  have unhalted : inp.haltAck.none = true := by
    simp [HartWires.none, HartWires.any, runs.running]
  refine ⟨?_, fun hart => ctrlDmrNext_of_otherMode (runs.dmr hart) (by simp [runs.mode]),
    Or.inl ⟨?_, fun hart => ctrlTmrNext_of_otherMode (runs.tmr hart) (by simp [runs.mode]),
      fun hart => ?_⟩⟩
  · change fsm.ctrlSafeNext inp = .tmrMode
    simp [SafeFsm.ctrlSafeNext, runs.mode, started, configured]
  · change fsm.ctrlSingleNext inp = .toTmr
    simp [SafeFsm.ctrlSingleNext, runs.single, started, running, configured, unhalted]
  · refine halts.unasked (runs.running hart) ?_
    rw [interruptHaltO_of_solo runs.tmr runs.dmr, runs.single]
    rfl

/-- The trio in `state`, in the mode of its own, from cycle `first` on. -/
structure TrioAt (inputs : Nat → FsmIn) (first : Nat) (state : CtrlTmrFsm) (cycle : Nat) :
    Prop where
  since : first ≤ cycle
  mode : (safeFsm.run inputs cycle).ctrlSafe = .tmrMode
  single : (safeFsm.run inputs cycle).ctrlSingle = .idle
  all : TmrAll inputs state cycle

/-- Once the trio is taken over all harts go to sleep, and they take the interrupt
that wakes them, within `delay` cycles. -/
structure WakesTogether (inputs : Nat → FsmIn) (delay : Nat) : Prop where
  settles : ∀ cycle, Throughout delay cycle (TmrAll inputs .waitSh) →
    Soon delay cycle fun later => (inputs later).hartWfi.all
  acks : ∀ cycle, Throughout delay cycle (fun later => ∀ hart,
      (safeFsm.run inputs later).interruptSyncO (inputs later) hart = true) →
    Soon delay cycle fun later => (inputs later).hartIntcAck.all

section Run
variable {inputs : Nat → FsmIn} {delay first : Nat} {master : Hart}
  (kept : KeptRunning inputs 0b01#2 first)
include kept

theorem TrioAt.step {state target : CtrlTmrFsm} {cycle : Nat} (at_ : TrioAt inputs first state cycle)
    (inside : state ≠ .endSync)
    (moves : ∀ hart, (safeFsm.run inputs cycle).ctrlTmrNext (inputs cycle) hart = target) :
    TrioAt inputs first target (cycle + 1) where
  since := by
    have since := at_.since
    omega
  mode := ctrlSafeNext_of_tmrKept at_.mode (kept.start cycle at_.since)
    fun hart ended => inside ((at_.all hart).symm.trans ended)
  single := by
    have other : (safeFsm.run inputs cycle).ctrlSafe ≠ .singleMode := by
      rw [at_.mode]
      decide
    exact ctrlSingleNext_of_idle at_.single (Or.inl other)
  all := moves

theorem trio_waitSh_leadsTo_msIntrSync (wakes : WakesTogether inputs delay) :
    LeadsTo (delay + 1) (TrioAt inputs first .waitSh) (TrioAt inputs first .waitSh)
      (TrioAt inputs first .msIntrSync) := by
  refine LeadsTo.of_wait (fun cycle => (inputs cycle).hartWfi.all) ?_ ?_ ?_
  · intro cycle at_ awake
    refine at_.step kept (by decide) fun hart => ?_
    exact (ctrlTmrNext_waitSh (at_.all hart)).trans (if_neg (by simp [awake]))
  · intro cycle at_ asleep
    refine at_.step kept (by decide) fun hart => ?_
    exact (ctrlTmrNext_waitSh (at_.all hart)).trans (if_pos asleep)
  · intro cycle held
    exact wakes.settles cycle fun between since until_ => (held between since until_).all

theorem trio_msIntrSync_leadsTo_sync (wakes : WakesTogether inputs delay) :
    LeadsTo (delay + 1) (TrioAt inputs first .msIntrSync) (TrioAt inputs first .msIntrSync)
      (TrioAt inputs first .sync) := by
  refine LeadsTo.of_wait (fun cycle => (inputs cycle).hartIntcAck.all) ?_ ?_ ?_
  · intro cycle at_ waiting
    refine at_.step kept (by decide) fun hart => ?_
    exact (ctrlTmrNext_msIntrSync (at_.all hart)).trans (if_neg (by simp [waiting]))
  · intro cycle at_ acked
    refine at_.step kept (by decide) fun hart => ?_
    exact (ctrlTmrNext_msIntrSync (at_.all hart)).trans (if_pos acked)
  · intro cycle held
    refine wakes.acks cycle fun between since until_ hart => ?_
    have state := (held between since until_).all hart
    simp [SafeFsm.interruptSyncO, SafeFsm.tmr, tmrOut, state]

variable (runs : SingleRuns (safeFsm.run inputs first) (inputs first))
  (named : ∀ cycle, first ≤ cycle → (inputs cycle).masterCore = oneHot master)
  (asked : HaltsWhenAsked inputs)
  (awake : ∀ cycle hart, (inputs cycle).haltAck hart = true → (inputs cycle).hartWfi hart = false)
include runs named asked awake

/-- As long as no two harts have been halted together, the switch is on its way. -/
theorem switching_run (elapsed : Nat)
    (apart : ∀ cycle, first ≤ cycle → cycle < first + 1 + elapsed →
      (inputs cycle).haltAck.two = false) :
    Switching master (safeFsm.run inputs (first + 1 + elapsed)) (inputs (first + 1 + elapsed)) := by
  induction elapsed with
  | zero =>
    exact runs.next master (kept.start _ le_rfl) (kept.endSw _ le_rfl) (kept.configured _ le_rfl)
      ⟨fun hart => asked hart _, awake _⟩
  | succ elapsed ih =>
    have since : first ≤ first + 1 + elapsed := by omega
    have before := ih fun cycle from_ upto => apart cycle from_ (by omega)
    exact before.next (kept.start _ since) (kept.endSw _ since) (kept.configured _ since)
      (named _ since) ⟨fun hart => asked hart _, awake _⟩ (apart _ since (by omega))

/-- Without a common halt the machine of the master is in IDLE or in SH_HALT. -/
theorem waits_of_apart (apart : ∀ cycle, first ≤ cycle → (inputs cycle).haltAck.two = false)
    {cycle : Nat} (since : first ≤ cycle) :
    (safeFsm.run inputs cycle).ctrlTmr master = .idle ∨
      (safeFsm.run inputs cycle).ctrlTmr master = .shHalt := by
  rcases Nat.eq_or_lt_of_le since with rfl | after
  · exact Or.inl (runs.tmr master)
  · obtain ⟨elapsed, rfl⟩ := Nat.exists_eq_add_of_le after
    have switching := switching_run kept runs named asked awake elapsed
      fun cycle from_ _ => apart cycle from_
    rcases switching.phase with phase | phase | phase | phase
    · exact Or.inl (phase.tmr master)
    · exact Or.inr ((phase.tmr master).trans (if_pos rfl))
    · exact Or.inr (phase.tmr master)
    · exact Or.inr phase.asks

/-- Once the master has gone to sleep its machine waits in SH_HALT for ever. -/
theorem waits_forever_of_apart
    (apart : ∀ cycle, first ≤ cycle → (inputs cycle).haltAck.two = false) {asleep : Nat}
    (after : first < asleep)
    (sleeps : ((inputs asleep).hartWfi master && (inputs asleep).initialSyncMaster) = true)
    (later : Nat) : (safeFsm.run inputs (asleep + 1 + later)).ctrlTmr master = .shHalt := by
  have switching : ∀ cycle, first < cycle →
      Switching master (safeFsm.run inputs cycle) (inputs cycle) := by
    intro cycle past
    obtain ⟨elapsed, rfl⟩ := Nat.exists_eq_add_of_le past
    exact switching_run kept runs named asked awake elapsed fun cycle from_ _ => apart cycle from_
  induction later with
  | zero =>
    exact (switching asleep after).waits_next (kept.start _ after.le) (named _ after.le)
      (apart _ after.le) (Or.inr sleeps)
  | succ later ih =>
    have past : first < asleep + 1 + later := by omega
    exact (switching _ past).waits_next (kept.start _ past.le) (named _ past.le)
      (apart _ past.le) (Or.inl ih)

end Run

/-- The switch from single mode into triple redundancy completes when, and only
when, the two harts that take over are halted in a common cycle: from that cycle on
the trio is in SYNC within twice the delay of the harts.  Without it the machine of
the master stays in IDLE, and in SH_HALT for ever once the master has gone to sleep. -/
theorem mode_switch_completes_iff (inputs : Nat → FsmIn) (delay first : Nat) (master : Hart)
    (kept : KeptRunning inputs 0b01#2 first)
    (runs : SingleRuns (safeFsm.run inputs first) (inputs first))
    (named : ∀ cycle, first ≤ cycle → (inputs cycle).masterCore = oneHot master)
    (asked : HaltsWhenAsked inputs)
    (awake : ∀ cycle hart, (inputs cycle).haltAck hart = true →
      (inputs cycle).hartWfi hart = false)
    (wakes : WakesTogether inputs delay) :
    (∀ cycle, first ≤ cycle → (inputs cycle).haltAck.two = true →
      ∃ later, later ≤ cycle + 2 * delay + 3 ∧ TrioAt inputs first .sync later) ∧
    ((∀ cycle, first ≤ cycle → (inputs cycle).haltAck.two = false) →
      (∀ later, first ≤ later → (safeFsm.run inputs later).ctrlTmr master = .idle ∨
        (safeFsm.run inputs later).ctrlTmr master = .shHalt) ∧
      ∀ asleep, first < asleep →
        ((inputs asleep).hartWfi master && (inputs asleep).initialSyncMaster) = true →
        ∀ later, asleep < later → (safeFsm.run inputs later).ctrlTmr master = .shHalt) := by
  constructor
  · intro cycle since both
    obtain ⟨elapsed, first_, apart⟩ := Synchronous.exists_first_event
      (fun cycle => (inputs cycle).haltAck.two) first ⟨cycle, since, both⟩
    have least : first + elapsed ≤ cycle := by
      by_contra past
      have none := apart cycle since (by omega)
      rw [both] at none
      cases none
    -- no hart is halted in the first cycle
    obtain ⟨steps, rfl⟩ : ∃ steps, elapsed = 1 + steps := by
      refine Nat.exists_eq_add_of_le (Nat.pos_of_ne_zero fun zero => ?_)
      subst zero
      simp [HartWires.two, runs.running] at first_
    rw [← Nat.add_assoc] at first_ apart least
    have after : first ≤ first + 1 + steps := by omega
    have switching := switching_run kept runs named asked awake steps apart
    have halts : HaltsProperly (safeFsm.run inputs (first + 1 + steps))
        (inputs (first + 1 + steps)) (inputs (first + 1 + steps + 1)) :=
      ⟨fun hart => asked hart _, awake _⟩
    obtain ⟨single, all⟩ := switching.taken (named _ after) halts first_
    have taken : TrioAt inputs first .waitSh (first + 1 + steps + 1) :=
      ⟨by omega, switching.mode_next (kept.start _ after), single, all⟩
    have waits := (trio_waitSh_leadsTo_msIntrSync kept wakes).weaken le_rfl
      (fun _ _ => trivial : ∀ cycle, _ → True)
    have syncs := (trio_msIntrSync_leadsTo_sync kept wakes).weaken le_rfl fun _ _ => trivial
    obtain ⟨later, -, until_, synced, -⟩ := (waits.trans syncs) _ taken
    exact ⟨later, by omega, synced⟩
  · intro apart
    constructor
    · intro later since
      exact waits_of_apart kept runs named asked awake apart since
    · intro asleep after sleeps later past
      obtain ⟨elapsed, rfl⟩ := Nat.exists_eq_add_of_le (Nat.succ_le_of_lt past)
      exact waits_forever_of_apart kept runs named asked awake apart after sleeps elapsed

/-- Hart 0 runs alone from cycle 6 and asks for triple redundancy in cycle 7; it sleeps
in cycle 8, the others are halted in cycle 11, and all sleep in cycle 13 and take their
interrupt in cycle 15. -/
def trioSwitches : Nat → FsmIn
  | 0 | 2 | 3 | 4 | 6 => trioIn 0b00#2
  | 1 => { trioIn 0b00#2 with hartWfi := fun _ => true }
  | 5 => { trioIn 0b00#2 with haltAck := oneHot 0 }
  | 8 => { trioIn 0b01#2 with hartWfi := fun _ => true, initialSyncMaster := true }
  | 11 => { trioIn 0b01#2 with haltAck := fun hart => decide (hart ≠ 0) }
  | 13 => { trioIn 0b01#2 with hartWfi := fun _ => true }
  | 15 => { trioIn 0b01#2 with hartIntcAck := fun _ => true }
  | _ => trioIn 0b01#2

set_option maxRecDepth 8000 in
theorem trioSwitches_runs (later : Nat) : TmrBoots (safeFsm.run trioSwitches (later + 16)) ∧
    Synced (safeFsm.run trioSwitches (later + 16)) := by
  induction later with
  | zero => exact ⟨⟨by decide, by decide, by decide, by decide, by decide⟩, by decide⟩
  | succ later ih =>
    obtain ⟨boots, synced⟩ := ih
    exact ⟨boots.next rfl rfl rfl fun _ _ => rfl,
      fun hart => boots.sync_next (fun _ _ => rfl) rfl rfl (synced hart)⟩

theorem trioSwitches_acked {hart : Hart} {cycle : Nat}
    (acked : (trioSwitches cycle).haltAck hart = true) :
    (cycle = 5 ∧ hart = 0) ∨ (cycle = 11 ∧ hart ≠ 0) := by
  match cycle with
  | 0 | 1 | 2 | 3 | 4 | 6 | 7 | 8 | 9 | 10 => cases acked
  | 5 => exact Or.inl ⟨rfl, of_decide_eq_true acked⟩
  | 11 => exact Or.inr ⟨rfl, of_decide_eq_true acked⟩
  | 12 | 13 | 14 | 15 => cases acked
  | later + 16 => cases acked

set_option maxRecDepth 8000 in
theorem trioSwitches_asked : HaltsWhenAsked trioSwitches := by
  intro hart cycle acked
  right
  rcases trioSwitches_acked acked with ⟨at_, rfl⟩ | ⟨at_, other⟩
  · obtain rfl : cycle = 4 := by omega
    decide
  · obtain rfl : cycle = 10 := by omega
    revert hart
    decide

set_option maxRecDepth 8000 in
theorem trioSwitches_wakes : WakesTogether trioSwitches 1 where
  settles cycle held := by
    have waits : ∀ later, cycle ≤ later → later ≤ cycle + 1 → later = 12 ∨ later = 13 := by
      intro later since until_
      have state := held later since until_ 0
      match later with
      | 0 | 1 | 2 | 3 | 4 | 5 | 6 | 7 | 8 | 9 | 10 | 11 | 14 | 15 =>
        exact absurd state (by decide)
      | 12 => exact Or.inl rfl
      | 13 => exact Or.inr rfl
      | later + 16 =>
        rw [(trioSwitches_runs later).2 0] at state
        cases state
    have now := waits cycle le_rfl (by omega)
    have soon := waits (cycle + 1) (by omega) le_rfl
    exact ⟨13, by omega, by omega, rfl⟩
  acks cycle held := by
    have interrupted : ∀ later, cycle ≤ later → later ≤ cycle + 1 → later = 14 ∨ later = 15 := by
      intro later since until_
      have interrupts := held later since until_ 0
      match later with
      | 0 | 1 | 2 | 3 | 4 | 5 | 6 | 7 | 8 | 9 | 10 | 11 | 12 | 13 =>
        exact absurd interrupts (by decide)
      | 14 => exact Or.inl rfl
      | 15 => exact Or.inr rfl
      | later + 16 =>
        obtain ⟨boots, synced⟩ := trioSwitches_runs later
        simp [SafeFsm.interruptSyncO, SafeFsm.tmr, synced 0, tmrOut, TmrOut.zero, SafeFsm.dmr,
          boots.dmr, dmrOut, DmrOut.default] at interrupts
    have now := interrupted cycle le_rfl (by omega)
    have soon := interrupted (cycle + 1) (by omega) le_rfl
    exact ⟨15, by omega, by omega, rfl⟩

set_option maxRecDepth 8000 in
theorem trioSwitches_completes : ∃ later, later ≤ 16 ∧ TrioAt trioSwitches 7 .sync later := by
  have kept : KeptRunning trioSwitches 0b01#2 7 := by
    refine ⟨?_, ?_, ?_⟩
    all_goals
      intro cycle since
      obtain ⟨later, rfl⟩ := Nat.exists_eq_add_of_le since
      match later with
      | 0 | 1 | 2 | 3 | 4 | 5 | 6 | 7 | 8 => rfl
      | later + 9 => rw [show 7 + (later + 9) = later + 16 by omega]; rfl
  have named : ∀ cycle, 7 ≤ cycle → (trioSwitches cycle).masterCore = oneHot 0 := by
    intro cycle _
    unfold trioSwitches
    split <;> rfl
  have awake : ∀ cycle hart, (trioSwitches cycle).haltAck hart = true →
      (trioSwitches cycle).hartWfi hart = false := by
    intro cycle hart acked
    rcases trioSwitches_acked acked with ⟨rfl, -⟩ | ⟨rfl, -⟩ <;> rfl
  exact (mode_switch_completes_iff trioSwitches 1 7 0 kept
    ⟨by decide, by decide, by decide, by decide, by decide⟩ named trioSwitches_asked awake
    trioSwitches_wakes).1 11 (by decide) rfl

end Eros
