import Eros.ModeCycle

/-!
# TMR masks one faulty hart

Two of the three harts are the same machine in the same state; the third one
drives arbitrary requests.  Every hart hears the master's port, so the two
healthy ones stay together and outvote the third, whether or not it is the
master whose port carries the traffic.
-/

set_option autoImplicit false

namespace Eros

namespace HartMachine
variable {State : Type*} (machine : HartMachine State)

/-- One hart on its own. -/
def toMachine (start : State) : Synchronous.Machine State HartIn where
  init := start
  next := machine.next

/-- The states of one fault-free hart fed with `received`. -/
def alone (start : State) (received : Nat → HartIn) : Nat → State :=
  (machine.toMachine start).run received

@[simp] theorem alone_zero (start : State) (received : Nat → HartIn) :
    machine.alone start received 0 = start := rfl

theorem alone_succ (start : State) (received : Nat → HartIn) (cycle : Nat) :
    machine.alone start received (cycle + 1) =
      machine.next (machine.alone start received cycle) (received cycle) := rfl

end HartMachine

/-- What a hart of the voted group receives: the answers of the master's port
and the interrupt and debug lines of the group. -/
def groupIn (master : Hart) (inputs : Nat → WrapperIn) (intr : Nat → Word)
    (debugReq : Nat → Bool) (cycle : Nat) : HartIn :=
  ⟨(inputs cycle).instrResp master, (inputs cycle).dataResp master, intr cycle, debugReq cycle⟩

section Masking
variable {State : Type*} {n : Nat} (machine : HartMachine State) {master odd : Hart}
  {start : WrapperRegs n} {inputs : Nat → WrapperIn} {state : Hart → Nat → State}
  {intr : Nat → Word} {debugReq : Nat → Bool} {first last : Nat}

theorem healthy_step {hart : Hart} {cycle : Nat}
    (drives : machine.Drives hart start inputs (state hart))
    (voted : TmrCycle master ((wrapperMachine n).runFrom start inputs cycle) (inputs cycle))
    (lines : (inputs cycle).intr hart = intr cycle ∧ (inputs cycle).debugReq hart = debugReq cycle) :
    (inputs cycle).hartReq hart =
        machine.request (state hart cycle) (groupIn master inputs intr debugReq cycle) ∧
      state hart (cycle + 1) =
        machine.next (state hart cycle) (groupIn master inputs intr debugReq cycle) := by
  have received : ((wrapperMachine n).runFrom start inputs cycle).hartIn (inputs cycle) hart =
      groupIn master inputs intr debugReq cycle := by
    rw [voted.hartIn_eq hart, lines.1, lines.2]
    rfl
  have step := drives cycle
  simp only [received] at step
  exact step

/-- The healthy harts follow the fault-free one over the whole interval. -/
theorem healthy_follow_reference (common : State)
    (drives : ∀ hart, hart ≠ odd → machine.Drives hart start inputs (state hart))
    (together : ∀ hart, hart ≠ odd → state hart first = common)
    (voted : ∀ cycle, first ≤ cycle → cycle < last →
      TmrCycle master ((wrapperMachine n).runFrom start inputs cycle) (inputs cycle))
    (lines : ∀ cycle, first ≤ cycle → cycle < last → ∀ hart, hart ≠ odd →
      (inputs cycle).intr hart = intr cycle ∧ (inputs cycle).debugReq hart = debugReq cycle)
    (hart : Hart) (healthy : hart ≠ odd) (elapsed : Nat) (within : first + elapsed ≤ last) :
    state hart (first + elapsed) =
      machine.alone common
        (fun cycle => groupIn master inputs intr debugReq (first + cycle)) elapsed := by
  induction elapsed with
  | zero => exact together hart healthy
  | succ elapsed ih =>
    have inside : first + elapsed < last := by omega
    obtain ⟨_, stepped⟩ := healthy_step machine (drives hart healthy)
      (voted _ (by omega) inside) (lines _ (by omega) inside hart healthy)
    rw [HartMachine.alone_succ, ← ih (by omega)]
    exact stepped

/-- The wrapper with one arbitrary hart is the wrapper of one fault-free hart:
in every cycle of a voted interval the master's port carries the requests of
that hart, the other ports carry none, and the healthy harts are in its state. -/
theorem tmr_masks_any_single_faulty_hart (common : State)
    (drives : ∀ hart, hart ≠ odd → machine.Drives hart start inputs (state hart))
    (together : ∀ hart, hart ≠ odd → state hart first = common)
    (voted : ∀ cycle, first ≤ cycle → cycle < last →
      TmrCycle master ((wrapperMachine n).runFrom start inputs cycle) (inputs cycle))
    (lines : ∀ cycle, first ≤ cycle → cycle < last → ∀ hart, hart ≠ odd →
      (inputs cycle).intr hart = intr cycle ∧ (inputs cycle).debugReq hart = debugReq cycle) :
    let reference := machine.alone common
      (fun cycle => groupIn master inputs intr debugReq (first + cycle))
    (∀ elapsed, first + elapsed < last →
      let cycle := first + elapsed
      let regs := (wrapperMachine n).runFrom start inputs cycle
      let request := machine.request (reference elapsed)
        (groupIn master inputs intr debugReq cycle)
      regs.coreInstrReqO (inputs cycle) master = request.instr ∧
        regs.coreDataReqO (inputs cycle) master = request.data ∧
        ∀ port, port ≠ master →
          (regs.coreInstrReqO (inputs cycle) port).req = false ∧
            (regs.coreDataReqO (inputs cycle) port).req = false) ∧
      ∀ hart, hart ≠ odd → ∀ elapsed, first + elapsed ≤ last →
        state hart (first + elapsed) = reference elapsed := by
  intro reference
  have follow : ∀ hart, hart ≠ odd → ∀ elapsed, first + elapsed ≤ last →
      state hart (first + elapsed) = reference elapsed := by
    intro hart healthy elapsed within
    exact healthy_follow_reference machine common drives together voted lines hart healthy
      elapsed within
  refine ⟨?_, follow⟩
  intro elapsed inside cycle regs request
  have votedCycle : TmrCycle master regs (inputs cycle) := voted cycle (by omega) inside
  have agreed : ∀ hart, hart ≠ odd → (inputs cycle).hartReq hart = request := by
    intro hart healthy
    obtain ⟨requested, _⟩ := healthy_step machine (drives hart healthy) votedCycle
      (lines cycle (by omega) inside hart healthy)
    rw [requested, follow hart healthy elapsed (by omega)]
  obtain ⟨votedInstr, votedData⟩ := votedCycle.coreReqO_master
  refine ⟨?_, ?_, ?_⟩
  · rw [votedInstr]
    exact votedReq_of_agreement _ _ odd fun hart healthy => by rw [agreed hart healthy]
  · rw [votedData]
    exact votedReq_of_agreement _ _ odd fun hart healthy => by rw [agreed hart healthy]
  · intro port other
    obtain ⟨instrZero, dataZero⟩ := votedCycle.coreReqO_other port other
    rw [instrZero, dataZero]
    exact ⟨rfl, rfl⟩

end Masking

/-! ## A concrete voted run -/

/-- A hart that counts its granted fetches and fetches the word at its count. -/
def countingHart : HartMachine Word where
  request count _ :=
    { instr := ⟨true, false, 0xf, count, 0⟩, coreData := .zero, data := .zero }
  next count received := if received.instrResp.gnt then count + 4 else count

/-- Hart 1 is the master and faulty: it writes to address 0 in every cycle. -/
def noisyMasterInputs (cycle : Nat) : WrapperIn where
  mode := ⟨true, false, false, fun _ => false, fun _ => false⟩
  hartReq hart :=
    if hart = 1 then
      { instr := .zero, coreData := ⟨true, true, 0xf, 0, 0xdead⟩, data := ⟨true, true, 0xf, 0, 0xdead⟩ }
    else countingHart.request (4 * BitVec.ofNat 32 cycle) ⟨.zero, .zero, 0, false⟩
  instrResp _ := ⟨true, false, 0⟩
  dataResp _ := .zero
  intr _ := 0
  debugReq _ := false
  masterCore := oneHot 1
  sleep _ := false

def noisyMasterStart : WrapperRegs 0 := { WrapperRegs.reset 0 with masterCoreFf := oneHot 1 }

theorem noisyMaster_voted (cycle : Nat) :
    TmrCycle 1 ((wrapperMachine 0).runFrom noisyMasterStart noisyMasterInputs cycle)
      (noisyMasterInputs cycle) := by
  exact ⟨masterCoreFf_runFrom _ _ rfl (fun _ => rfl) cycle, rfl, rfl, rfl, rfl⟩

theorem noisyMaster_drives (hart : Hart) (healthy : hart ≠ 1) :
    countingHart.Drives hart noisyMasterStart noisyMasterInputs
      (fun cycle => 4 * BitVec.ofNat 32 cycle) := by
  intro cycle received
  have heard : received = ⟨⟨true, false, 0⟩, .zero, 0, false⟩ :=
    (noisyMaster_voted cycle).hartIn_eq hart
  rw [heard]
  refine ⟨by simp [noisyMasterInputs, healthy, countingHart], ?_⟩
  change 4 * BitVec.ofNat 32 (cycle + 1) = 4 * BitVec.ofNat 32 cycle + 4
  rw [BitVec.ofNat_add]
  bv_omega

theorem tmr_masks_noisy_master :
    (((wrapperMachine 0).runFrom noisyMasterStart noisyMasterInputs 5).coreInstrReqO
      (noisyMasterInputs 5) 1).addr = 20 ∧
    ((wrapperMachine 0).runFrom noisyMasterStart noisyMasterInputs 5).coreDataReqO
      (noisyMasterInputs 5) 1 = .zero := by
  have masked := @tmr_masks_any_single_faulty_hart Word 0 countingHart 1 1 noisyMasterStart
    noisyMasterInputs (fun _ cycle => 4 * BitVec.ofNat 32 cycle) (fun _ => 0) (fun _ => false)
    0 6 0 noisyMaster_drives (fun _ _ => rfl) (fun cycle _ _ => noisyMaster_voted cycle)
    (fun _ _ _ _ _ => ⟨rfl, rfl⟩)
  obtain ⟨instr, data, _⟩ := masked.1 5 (by decide)
  have count := masked.2 0 (by decide) 5 (by decide)
  rw [Nat.zero_add] at instr data count
  rw [instr, data, ← count]
  exact ⟨rfl, rfl⟩

end Eros
