import Eros.ModeCycle

/-!
# Delayed lockstep is exact without stalls

The closed system of a lockstep pair: two copies of a core whose requests depend
on its state alone, the wrapper between them and a bus that grants exactly what
the master's port presents.  Response data and latency, the interrupt and debug
stream, the other ports and the third hart belong to the environment.

The invariant says what every register holds in terms of the master's past: the
checker is the master `n + 1` cycles late, and each register chain holds the
history of its input.  The chains then present equal requests to the comparator.
-/

set_option autoImplicit false

namespace Eros

/-- A core whose outputs depend on its state and whose fetch port never writes. -/
structure MooreCore (State : Type*) where
  request : State → HartReq
  next : State → HartIn → State
  fetches : ∀ state, (request state).instr.we = false

/-- A state that requests nothing and stays put while nothing is answered. -/
structure MooreCore.Quiescent {State : Type*} (core : MooreCore State) (state : State)
    (idle : HartIn) : Prop where
  noInstr : (core.request state).instr.req = false
  noData : (core.request state).data.req = false
  instrUngranted : idle.instrResp.gnt = false
  instrUnanswered : idle.instrResp.rvalid = false
  dataUngranted : idle.dataResp.gnt = false
  dataUnanswered : idle.dataResp.rvalid = false
  stays : core.next state idle = state

/-- The wrapper with the two cores of a lockstep pair. -/
structure LockstepSystem (State : Type*) (n : Nat) where
  regs : WrapperRegs n
  masterState : State
  checkerState : State

section System
variable {State : Type*} {n : Nat} (core : MooreCore State) (master slave : Hart)

namespace LockstepSystem

/-- The environment's inputs with the requests of the pair in place. -/
def requested (system : LockstepSystem State n) (env : WrapperIn) : WrapperIn :=
  { env with
    hartReq := Function.update (Function.update env.hartReq slave (core.request system.checkerState))
      master (core.request system.masterState) }

/-- The wrapper's inputs in one cycle: the master's port is granted exactly when
it requests. -/
def inputs (system : LockstepSystem State n) (env : WrapperIn) : WrapperIn :=
  let wires := system.requested core master slave env
  { wires with
    instrResp := Function.update env.instrResp master
      { env.instrResp master with gnt := (system.regs.coreInstrReqO wires master).req }
    dataResp := Function.update env.dataResp master
      { env.dataResp master with gnt := (system.regs.coreDataReqO wires master).req } }

def next (system : LockstepSystem State n) (env : WrapperIn) : LockstepSystem State n :=
  let inp := system.inputs core master slave env
  { regs := system.regs.next inp
    masterState := core.next system.masterState (system.regs.hartIn inp master)
    checkerState := core.next system.checkerState (system.regs.hartIn inp slave) }

@[simp] theorem next_regs (system : LockstepSystem State n) (env : WrapperIn) :
    (system.next core master slave env).regs =
      system.regs.next (system.inputs core master slave env) := rfl

@[simp] theorem next_checkerState (system : LockstepSystem State n) (env : WrapperIn) :
    (system.next core master slave env).checkerState =
      core.next system.checkerState
        (system.regs.hartIn (system.inputs core master slave env) slave) := rfl

def dmrError (system : LockstepSystem State n) (env : WrapperIn) : HartWires :=
  system.regs.dmrError (system.inputs core master slave env)

end LockstepSystem

def lockstepMachine (start : LockstepSystem State n) :
    Synchronous.Machine (LockstepSystem State n) WrapperIn where
  init := start
  next := LockstepSystem.next core master slave

/-- The delay registers of the pair hold the idle outputs of `state`, as a
request stage stores them, and the idle inputs. -/
structure HoldsIdle (state : State) (idle : HartIn) (regs : WrapperRegs n) : Prop where
  latched : regs.masterCoreFf = oneHot master
  instrReq : (regs.lockstep master).instrReq = .fill (n + 1) (core.request state).instr.gateWe
  dataReq : (regs.lockstep master).dataReq = .fill (n + 1) (core.request state).data.gateWe
  instrRvalid : (regs.lockstep master).instrRvalid = fun _ => idle.instrResp.rvalid
  instrRdata : (regs.lockstep master).instrRdata = fun _ => idle.instrResp.rdata
  dataRvalid : (regs.lockstep master).dataRvalid = fun _ => idle.dataResp.rvalid
  dataRdata : (regs.lockstep master).dataRdata = fun _ => idle.dataResp.rdata
  intr : regs.intrFf = fun _ => idle.intr
  debugReq : regs.debugReqFf = fun _ => idle.debugReq

end System

/-- What the state machine and the bus do around a lockstep pair. -/
structure LockstepEnv (master slave : Hart) (env : WrapperIn) : Prop where
  delayed : env.mode.delayed = true
  comparing : env.mode.dualMode = true
  notVoting : env.mode.tmrVoterEnable = false
  paired : env.mode.dmrConfig = pairMask master slave
  awake : env.mode.dmrWfi = fun _ => false
  offered : env.masterCore = oneHot master
  sameIntr : env.intr slave = env.intr master
  sameDebug : env.debugReq slave = env.debugReq master

/-- What the master receives in a cycle in which it is granted at once. -/
def unstalledIn {State : Type*} (core : MooreCore State) (master : Hart) (state : State)
    (env : WrapperIn) : HartIn where
  instrResp := { env.instrResp master with gnt := (core.request state).instr.req }
  dataResp := { env.dataResp master with gnt := (core.request state).data.req }
  intr := env.intr master
  debugReq := env.debugReq master

/-! ## One cycle from aligned chains -/

section Cycle
variable {State : Type*} {n : Nat} {core : MooreCore State} {master slave : Hart}
  {system : LockstepSystem State n} {env : WrapperIn}

theorem inputs_hartReq_master :
    (system.inputs core master slave env).hartReq master = core.request system.masterState :=
  Function.update_self _ _ _

theorem inputs_hartReq_slave (distinct : slave ≠ master) :
    (system.inputs core master slave env).hartReq slave = core.request system.checkerState := by
  change Function.update (Function.update env.hartReq slave (core.request system.checkerState))
    master (core.request system.masterState) slave = _
  rw [Function.update_of_ne distinct, Function.update_self]

theorem inputs_instrResp_master :
    (system.inputs core master slave env).instrResp master =
      { env.instrResp master with
        gnt := (system.regs.coreInstrReqO (system.inputs core master slave env) master).req } :=
  Function.update_self _ _ _

theorem inputs_dataResp_master :
    (system.inputs core master slave env).dataResp master =
      { env.dataResp master with
        gnt := (system.regs.coreDataReqO (system.inputs core master slave env) master).req } :=
  Function.update_self _ _ _

theorem LockstepEnv.dmrCycle (lockstep : LockstepEnv master slave env)
    (latched : system.regs.masterCoreFf = oneHot master) :
    DmrCycle master slave system.regs (system.inputs core master slave env) where
  latched := latched
  comparing := lockstep.comparing
  notVoting := lockstep.notVoting
  paired := lockstep.paired
  awake := lockstep.awake

/-- The heads of the two request chains are the checker's own requests. -/
structure Aligned (core : MooreCore State) (master : Hart) (system : LockstepSystem State n) :
    Prop where
  instr : (system.regs.lockstep master).instrReq.head =
    (core.request system.checkerState).instr.gateWe
  data : (system.regs.lockstep master).dataReq.head =
    (core.request system.checkerState).data.gateWe

theorem aligned_outputs (aligned : Aligned core master system) (distinct : slave ≠ master)
    (lockstep : LockstepEnv master slave env)
    (latched : system.regs.masterCoreFf = oneHot master) :
    system.dmrError core master slave env master = false ∧
      system.regs.coreInstrReqO (system.inputs core master slave env) master =
        (core.request system.checkerState).instr ∧
      system.regs.coreDataReqO (system.inputs core master slave env) master =
        (core.request system.checkerState).data.gateWe := by
  have cycle : DmrCycle master slave system.regs (system.inputs core master slave env) :=
    lockstep.dmrCycle latched
  have delayed : (system.inputs core master slave env).mode.delayed = true := lockstep.delayed
  have instr : system.regs.presentedInstr (system.inputs core master slave env) master =
      ⟨(core.request system.checkerState).instr, (core.request system.checkerState).instr⟩ := by
    rw [cycle.presentedInstr_eq distinct, if_pos delayed, inputs_hartReq_slave distinct,
      aligned.instr, ObiReq.gateWe_of_not_we _ (core.fetches _)]
  have data : system.regs.presentedData (system.inputs core master slave env) master =
      ⟨(core.request system.checkerState).data.gateWe,
        (core.request system.checkerState).data.gateWe⟩ := by
    rw [cycle.presentedData_eq distinct, if_pos delayed, inputs_hartReq_slave distinct,
      aligned.data]
  have quiet : system.regs.comparator (system.inputs core master slave env) master =
      ⟨(core.request system.checkerState).instr,
        (core.request system.checkerState).data.gateWe, false⟩ := by
    unfold WrapperRegs.comparator
    rw [instr, data]
    refine dmrComparator_of_agree _ _ ?_ ?_
    · exact (comparatorMismatch_eq_false_iff _).mp (comparatorMismatch_of_eq _ rfl)
    · exact (comparatorMismatch_eq_false_iff _).mp (comparatorMismatch_of_eq _ rfl)
  obtain ⟨instrOut, dataOut⟩ := cycle.coreReqO_master
  refine ⟨?_, ?_, ?_⟩
  · change (system.regs.comparator (system.inputs core master slave env) master).error = false
    rw [quiet]
  · rw [instrOut, quiet]
  · rw [dataOut, quiet]

theorem aligned_hartIn_master (aligned : Aligned core master system) (distinct : slave ≠ master)
    (lockstep : LockstepEnv master slave env)
    (latched : system.regs.masterCoreFf = oneHot master) :
    system.regs.hartIn (system.inputs core master slave env) master =
      unstalledIn core master system.masterState env := by
  obtain ⟨_, instrOut, dataOut⟩ := aligned_outputs aligned distinct lockstep latched
  have instrHead : (core.request system.checkerState).instr.req =
      (system.regs.lockstep master).instrReq.head.req := by
    rw [aligned.instr]
    rfl
  have dataHead : (core.request system.checkerState).data.gateWe.req =
      (system.regs.lockstep master).dataReq.head.req := by
    rw [aligned.data]
  rw [(lockstep.dmrCycle latched).hartIn_master distinct lockstep.delayed, inputs_instrResp_master,
    inputs_dataResp_master, inputs_hartReq_master, instrOut, dataOut, instrHead, dataHead,
    ObiPipelinedDelay.gntO_unstalled, ObiPipelinedDelay.gntO_unstalled]
  rfl

theorem aligned_hartIn_slave (aligned : Aligned core master system) (distinct : slave ≠ master)
    (lockstep : LockstepEnv master slave env)
    (latched : system.regs.masterCoreFf = oneHot master) :
    system.regs.hartIn (system.inputs core master slave env) slave =
      { instrResp := ⟨(core.request system.checkerState).instr.req,
          (system.regs.lockstep master).instrRvalid (Fin.last n),
          (system.regs.lockstep master).instrRdata (Fin.last n)⟩
        dataResp := ⟨(core.request system.checkerState).data.req,
          (system.regs.lockstep master).dataRvalid (Fin.last n),
          (system.regs.lockstep master).dataRdata (Fin.last n)⟩
        intr := system.regs.intrFf (Fin.last n)
        debugReq := system.regs.debugReqFf (Fin.last n) } := by
  obtain ⟨_, instrOut, dataOut⟩ := aligned_outputs aligned distinct lockstep latched
  rw [(lockstep.dmrCycle latched).hartIn_slave distinct lockstep.delayed, inputs_instrResp_master,
    inputs_dataResp_master, instrOut, dataOut]
  rfl

theorem aligned_next_lockstep (aligned : Aligned core master system) (distinct : slave ≠ master)
    (lockstep : LockstepEnv master slave env)
    (latched : system.regs.masterCoreFf = oneHot master) :
    (system.regs.next (system.inputs core master slave env)).lockstep master =
      { instrReq := (system.regs.lockstep master).instrReq.next
          (core.request system.masterState).instr
          (system.regs.lockstep master).instrReq.head.req false
        dataReq := (system.regs.lockstep master).dataReq.next
          (core.request system.masterState).data
          (system.regs.lockstep master).dataReq.head.req false
        instrRvalid := DelayLine.shift (env.instrResp master).rvalid
          (system.regs.lockstep master).instrRvalid
        instrRdata := DelayLine.shift (env.instrResp master).rdata
          (system.regs.lockstep master).instrRdata
        dataRvalid := DelayLine.shift (env.dataResp master).rvalid
          (system.regs.lockstep master).dataRvalid
        dataRdata := DelayLine.shift (env.dataResp master).rdata
          (system.regs.lockstep master).dataRdata } := by
  obtain ⟨_, instrOut, dataOut⟩ := aligned_outputs aligned distinct lockstep latched
  rw [(lockstep.dmrCycle latched).next_lockstep distinct lockstep.delayed, inputs_instrResp_master,
    inputs_dataResp_master, inputs_hartReq_master, instrOut, dataOut, aligned.instr, aligned.data]
  rfl

theorem lockstepEnv_masterCoreFf_next (lockstep : LockstepEnv master slave env)
    (latched : system.regs.masterCoreFf = oneHot master) :
    (system.regs.next (system.inputs core master slave env)).masterCoreFf = oneHot master := by
  change (if env.sleep = fun _ => true then env.masterCore else system.regs.masterCoreFf) = _
  rw [lockstep.offered, latched, ite_self]

end Cycle

/-! ## The run -/

section Run
variable {State : Type*} {n : Nat} (core : MooreCore State) (master slave : Hart) (idle : HartIn)
  (start : LockstepSystem State n) (envs : Nat → WrapperIn)

def lockstepRun : Nat → LockstepSystem State n :=
  (lockstepMachine core master slave start).run envs

theorem lockstepRun_succ (cycle : Nat) :
    lockstepRun core master slave start envs (cycle + 1) =
      (lockstepRun core master slave start envs cycle).next core master slave (envs cycle) := rfl

/-- The master's states, and what it receives while nothing stalls. -/
def masterStates (cycle : Nat) : State := (lockstepRun core master slave start envs cycle).masterState

def masterInputs (cycle : Nat) : HartIn :=
  unstalledIn core master (masterStates core master slave start envs cycle) (envs cycle)

def heardInputs (cycle : Nat) (stage : Fin (n + 1)) : HartIn :=
  DelayLine.history idle (masterInputs core master slave start envs) cycle stage.val

/-- Every register chain holds the history of its input, and the checker is the
master `n + 1` cycles late. -/
structure LockstepInvariant (cycle : Nat) (system : LockstepSystem State n) : Prop where
  latched : system.regs.masterCoreFf = oneHot master
  follows : ∀ earlier, earlier < cycle → masterStates core master slave start envs (earlier + 1) =
    core.next (masterStates core master slave start envs earlier)
      (masterInputs core master slave start envs earlier)
  checker : system.checkerState =
    DelayLine.delayed start.masterState (masterStates core master slave start envs) (n + 1) cycle
  instrReq : (system.regs.lockstep master).instrReq.stages =
    (DelayLine.historyList start.masterState (masterStates core master slave start envs) (n + 1)
      cycle).map fun state => (core.request state).instr.gateWe
  dataReq : (system.regs.lockstep master).dataReq.stages =
    (DelayLine.historyList start.masterState (masterStates core master slave start envs) (n + 1)
      cycle).map fun state => (core.request state).data.gateWe
  instrRvalid : (system.regs.lockstep master).instrRvalid = fun stage =>
    (heardInputs core master slave idle start envs cycle stage).instrResp.rvalid
  instrRdata : (system.regs.lockstep master).instrRdata = fun stage =>
    (heardInputs core master slave idle start envs cycle stage).instrResp.rdata
  dataRvalid : (system.regs.lockstep master).dataRvalid = fun stage =>
    (heardInputs core master slave idle start envs cycle stage).dataResp.rvalid
  dataRdata : (system.regs.lockstep master).dataRdata = fun stage =>
    (heardInputs core master slave idle start envs cycle stage).dataResp.rdata
  intr : system.regs.intrFf = fun stage => (heardInputs core master slave idle start envs cycle stage).intr
  debugReq : system.regs.debugReqFf = fun stage => (heardInputs core master slave idle start envs cycle stage).debugReq

variable {core master slave idle start envs} {cycle : Nat} {system : LockstepSystem State n}

theorem LockstepInvariant.aligned
    (invariant : LockstepInvariant core master slave idle start envs cycle system) :
    Aligned core master system := by
  constructor
  · rw [invariant.checker]
    exact ObiPipelinedDelay.head_of_history invariant.instrReq
  · rw [invariant.checker]
    exact ObiPipelinedDelay.head_of_history invariant.dataReq

theorem lockstepInvariant_start
    (holds : HoldsIdle core master start.masterState idle start.regs)
    (together : start.checkerState = start.masterState) :
    LockstepInvariant core master slave idle start envs 0 start where
  latched := holds.latched
  follows := fun _ before => absurd before (Nat.not_lt_zero _)
  checker := by
    rw [together]
    simp [DelayLine.delayed]
  instrReq := by
    rw [holds.instrReq, DelayLine.historyList_start, List.map_replicate]
    rfl
  dataReq := by
    rw [holds.dataReq, DelayLine.historyList_start, List.map_replicate]
    rfl
  instrRvalid := by simp [holds.instrRvalid, heardInputs]
  instrRdata := by simp [holds.instrRdata, heardInputs]
  dataRvalid := by simp [holds.dataRvalid, heardInputs]
  dataRdata := by simp [holds.dataRdata, heardInputs]
  intr := by simp [holds.intr, heardInputs]
  debugReq := by simp [holds.debugReq, heardInputs]

/-- What the checker hears is what the master heard `n + 1` cycles ago. -/
theorem LockstepInvariant.hartIn_slave
    (invariant : LockstepInvariant core master slave idle start envs cycle system)
    (quiet : core.Quiescent start.masterState idle) (distinct : slave ≠ master)
    (lockstep : LockstepEnv master slave (envs cycle)) :
    system.regs.hartIn (system.inputs core master slave (envs cycle)) slave =
      DelayLine.delayed idle (masterInputs core master slave start envs) (n + 1) cycle := by
  have granted : (core.request system.checkerState).instr.req =
      (DelayLine.delayed idle (masterInputs core master slave start envs) (n + 1)
        cycle).instrResp.gnt ∧
      (core.request system.checkerState).data.req =
      (DelayLine.delayed idle (masterInputs core master slave start envs) (n + 1)
        cycle).dataResp.gnt := by
    rw [invariant.checker]
    by_cases young : cycle < n + 1
    · simp only [DelayLine.delayed, if_pos young]
      exact ⟨quiet.noInstr.trans quiet.instrUngranted.symm,
        quiet.noData.trans quiet.dataUngranted.symm⟩
    · simp only [DelayLine.delayed, if_neg young]
      exact ⟨rfl, rfl⟩
  rw [aligned_hartIn_slave invariant.aligned distinct lockstep invariant.latched,
    invariant.instrRvalid, invariant.instrRdata, invariant.dataRvalid, invariant.dataRdata,
    invariant.intr, invariant.debugReq, granted.1, granted.2]
  simp only [heardInputs, Fin.val_last, DelayLine.history_last]

theorem masterStates_succ
    (invariant : LockstepInvariant core master slave idle start envs cycle
      (lockstepRun core master slave start envs cycle))
    (distinct : slave ≠ master) (lockstep : LockstepEnv master slave (envs cycle)) :
    masterStates core master slave start envs (cycle + 1) =
      core.next (masterStates core master slave start envs cycle)
        (masterInputs core master slave start envs cycle) := by
  have received := aligned_hartIn_master invariant.aligned distinct lockstep invariant.latched
  unfold masterStates masterInputs
  rw [lockstepRun_succ]
  exact congrArg _ received

theorem lockstepInvariant_succ
    (invariant : LockstepInvariant core master slave idle start envs cycle
      (lockstepRun core master slave start envs cycle))
    (quiet : core.Quiescent start.masterState idle) (distinct : slave ≠ master)
    (lockstep : LockstepEnv master slave (envs cycle)) :
    LockstepInvariant core master slave idle start envs (cycle + 1)
      (lockstepRun core master slave start envs (cycle + 1)) := by
  have follows : ∀ earlier, earlier ≤ cycle →
      masterStates core master slave start envs (earlier + 1) =
        core.next (masterStates core master slave start envs earlier)
          (masterInputs core master slave start envs earlier) := by
    intro earlier upto
    rcases Nat.lt_or_eq_of_le upto with before | rfl
    · exact invariant.follows earlier before
    · exact masterStates_succ invariant distinct lockstep
  have chains := aligned_next_lockstep invariant.aligned distinct lockstep invariant.latched
  have compared : DmrCycle master slave (lockstepRun core master slave start envs cycle).regs
      ((lockstepRun core master slave start envs cycle).inputs core master slave (envs cycle)) :=
    lockstep.dmrCycle invariant.latched
  obtain ⟨intrNext, debugNext⟩ := compared.next_signals distinct lockstep.delayed
  rw [lockstepRun_succ]
  exact
    { latched := lockstepEnv_masterCoreFf_next lockstep invariant.latched
      follows := fun earlier before => follows earlier (by omega)
      checker := by
        rw [LockstepSystem.next_checkerState, invariant.hartIn_slave quiet distinct lockstep, invariant.checker]
        exact (DelayLine.delayed_succ core.next idle (masterStates core master slave start envs)
          (masterInputs core master slave start envs) (n + 1) cycle quiet.stays follows).symm
      instrReq := by
        rw [LockstepSystem.next_regs, chains]
        exact ObiPipelinedDelay.next_of_history invariant.instrReq
      dataReq := by
        rw [LockstepSystem.next_regs, chains]
        exact ObiPipelinedDelay.next_of_history invariant.dataReq
      instrRvalid := by
        rw [LockstepSystem.next_regs, chains, invariant.instrRvalid]
        exact DelayLine.shift_history (fun heard : HartIn => heard.instrResp.rvalid) _ _ _
      instrRdata := by
        rw [LockstepSystem.next_regs, chains, invariant.instrRdata]
        exact DelayLine.shift_history (fun heard : HartIn => heard.instrResp.rdata) _ _ _
      dataRvalid := by
        rw [LockstepSystem.next_regs, chains, invariant.dataRvalid]
        exact DelayLine.shift_history (fun heard : HartIn => heard.dataResp.rvalid) _ _ _
      dataRdata := by
        rw [LockstepSystem.next_regs, chains, invariant.dataRdata]
        exact DelayLine.shift_history (fun heard : HartIn => heard.dataResp.rdata) _ _ _
      intr := by
        rw [LockstepSystem.next_regs, intrNext, invariant.intr]
        change DelayLine.shift ((envs cycle).intr slave) _ = _
        rw [lockstep.sameIntr]
        exact DelayLine.shift_history (fun heard : HartIn => heard.intr) _ _ _
      debugReq := by
        rw [LockstepSystem.next_regs, debugNext, invariant.debugReq]
        change DelayLine.shift ((envs cycle).debugReq slave) _ = _
        rw [lockstep.sameDebug]
        exact DelayLine.shift_history (fun heard : HartIn => heard.debugReq) _ _ _ }

/-- The checker repeats the master `n + 1` cycles later, and the comparator of
the pair stays silent. -/
theorem delayed_lockstep_exact (core : MooreCore State) (idle : HartIn)
    (start : LockstepSystem State n) (envs : Nat → WrapperIn) {master slave : Hart}
    (distinct : slave ≠ master) (quiet : core.Quiescent start.masterState idle)
    (together : start.checkerState = start.masterState)
    (holds : HoldsIdle core master start.masterState idle start.regs)
    (lockstep : ∀ cycle, LockstepEnv master slave (envs cycle)) (cycle : Nat) :
    let run := lockstepRun core master slave start envs
    (run (cycle + (n + 1))).checkerState = (run cycle).masterState ∧
      (run cycle).dmrError core master slave (envs cycle) master = false := by
  intro run
  have invariant : ∀ cycle, LockstepInvariant core master slave idle start envs cycle
      (run cycle) := by
    intro cycle
    induction cycle with
    | zero => exact lockstepInvariant_start holds together
    | succ cycle ih => exact lockstepInvariant_succ ih quiet distinct (lockstep cycle)
  constructor
  · rw [(invariant (cycle + (n + 1))).checker]
    exact DelayLine.delayed_late _ _ _ _
  · exact (aligned_outputs (invariant cycle).aligned distinct (lockstep cycle)
      (invariant cycle).latched).1

end Run

/-! ## A concrete pair -/

/-- Waits for an interrupt, then fetches words upwards from its number. -/
def wakingCore : MooreCore Word where
  request address :=
    { instr := if address = 0 then .zero else ⟨true, false, 0xf, address, 0⟩
      coreData := .zero
      data := .zero }
  next address received :=
    if address = 0 then received.intr
    else if received.instrResp.gnt then address + 4 else address
  fetches address := by
    change (if address = 0 then ObiReq.zero else ⟨true, false, 0xf, address, 0⟩).we = false
    split_ifs
    · rfl
    · rfl

/-- Hart 1 checks hart 0; interrupt 8 arrives and hart 2 writes all the time. -/
def wakingEnv (_cycle : Nat) : WrapperIn where
  mode := ⟨false, true, true, pairMask 0 1, fun _ => false⟩
  hartReq _ := { instr := .zero, coreData := .zero, data := ⟨true, true, 0xf, 4, 4⟩ }
  instrResp _ := ⟨false, true, 0x13⟩
  dataResp _ := .zero
  intr _ := 8
  debugReq _ := false
  masterCore := oneHot 0
  sleep _ := false

def wakingStart : LockstepSystem Word 1 := ⟨WrapperRegs.reset 1, 0, 0⟩

theorem wakingCore_lockstep :
    let run := lockstepRun wakingCore 0 1 wakingStart wakingEnv
    (run 6).checkerState = (run 4).masterState ∧
      (run 4).dmrError wakingCore 0 1 (wakingEnv 4) 0 = false :=
  @delayed_lockstep_exact Word 1 wakingCore ⟨.zero, .zero, 0, false⟩ wakingStart wakingEnv 0 1
    (by decide) ⟨rfl, rfl, rfl, rfl, rfl, rfl, rfl⟩ rfl
    ⟨rfl, rfl, rfl, rfl, rfl, rfl, rfl, rfl, rfl⟩
    (fun _ => ⟨rfl, rfl, rfl, rfl, rfl, rfl, rfl, rfl⟩) 4

end Eros
