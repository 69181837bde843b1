import Eros.DataRoute
import Eros.Lib.Slot

/-!
# Runs of a hart's data path

The three ports in a row between a hart and its targets are one slot for the target of
the hart's access: over any run a target sees the hart's requests alone and in turn, and
each answer that the hart takes is the first one of its target behind the grant.
-/

set_option autoImplicit false

namespace Eros

open ErosPkg

/-! ## A port that passes -/

namespace SeveralOutputs
variable {outs : Nat} (port : SeveralOutputs outs)

def freed : SeveralOutputs outs := { port with validInflightQ := false }

variable {port} {vldI : Fin outs → Bool}

theorem freed_idle : port.freed.validInflightQ = false := rfl

theorem passes_of_answer (inflight : port.validInflightQ = true)
    (answer : vldI port.bankSelQ = true) : port.passes vldI = true := by
  simp [passes, vldO, inflight, answer]

section Passes
variable (passing : port.passes vldI = true)
include passing

/-- A port that passes is as good as one with nothing in flight, whatever answers that
one would see. -/
theorem reqO_of_passes (reqI : Bool) (addI : Fin outs) (vldI' : Fin outs → Bool) :
    port.reqO reqI addI vldI = port.freed.reqO reqI addI vldI' := by
  funext target
  rw [reqO_of_idle freed_idle, reqO, if_pos passing]

theorem gntO_of_passes (gntI vldI' : Fin outs → Bool) :
    port.gntO gntI vldI = port.freed.gntO gntI vldI' := by
  rw [gntO_of_idle freed_idle, gntO, if_pos passing]

theorem next_of_passes (reqI : Bool) (addI : Fin outs) (gntI vldI' : Fin outs → Bool) :
    port.next ⟨reqI, addI, gntI, vldI⟩ = port.freed.next ⟨reqI, addI, gntI, vldI'⟩ := by
  have same := gntO_of_passes passing gntI vldI'
  cases inflight : port.validInflightQ with
  | false => simp [next, validInflightNext, inflight, same, freed]
  | true =>
    have answer : port.vldO vldI = true := by
      rwa [passes, inflight] at passing
    simp [next, validInflightNext, inflight, answer, same, freed]

end Passes

theorem gntO_of_blocked (blocked : port.passes vldI = false) (gntI : Fin outs → Bool) :
    port.gntO gntI vldI = false := by
  rw [gntO, blocked]
  rfl

theorem reqO_of_blocked (blocked : port.passes vldI = false) (reqI : Bool) (addI : Fin outs) :
    port.reqO reqI addI vldI = fun _ => false := by
  funext target
  rw [reqO, blocked]
  rfl

theorem reqO_of_quiet (addI : Fin outs) : port.reqO false addI vldI = fun _ => false := by
  funext target
  rw [reqO]
  split_ifs
  · rfl
  · rfl

theorem next_of_unasked {inp : RespMuxIn outs} (idle : port.validInflightQ = false)
    (quiet : inp.reqI = false) : (port.next inp).validInflightQ = false := by
  simp [next, idle, quiet]

end SeveralOutputs

/-! ## The path as a slot -/

namespace DataPath

def freed (path : DataPath) : DataPath :=
  ⟨path.privatePort.freed, path.demuxPort.freed, path.systemPort.freed⟩

theorem freed_idle (path : DataPath) : PathIdle path.freed := ⟨rfl, rfl, rfl⟩

variable (path : DataPath) (inp : DataPathIn)

/-! The data of the answers, selected by the registers of the ports. -/

def systemRdata : Word := (inp.intSlaveResp path.systemPort.bankSelQ).rdata

def demuxRdata : Word :=
  match path.demuxPort.bankSelQ with
  | 0 => path.systemRdata inp
  | 1 => inp.csrResp.rdata

/-- `core_data_resp.rdata` -/
def hartRdata : Word :=
  match path.privatePort.bankSelQ with
  | 0 => path.demuxRdata inp
  | 1 => inp.cpuRegResp.rdata

end DataPath

def DataPathIn.targetRdata (inp : DataPathIn) : DataTarget → Word
  | .cpuReg => inp.cpuRegResp.rdata
  | .safeCpuRegister => inp.csrResp.rdata
  | .slave idx => (inp.intSlaveResp idx).rdata

/-- The offer of a cycle is the target that grants the access at hand. -/
def DataPathIn.slotIn (inp : DataPathIn) : Slot.SlotIn DataTarget where
  offers :=
    if inp.req && inp.targetGnt (dataTarget inp.addr) then some (dataTarget inp.addr) else none
  releases := inp.targetRvalid

/-- The ports behind the one that leads to the target have nothing in flight. -/
def IdleBeyond (path : DataPath) : DataTarget → Prop
  | .cpuReg => path.demuxPort.validInflightQ = false ∧ path.systemPort.validInflightQ = false
  | .safeCpuRegister => path.systemPort.validInflightQ = false
  | .slave _ => True

/-- The ports stand as a slot that holds this. -/
def PathHolds (path : DataPath) : Option DataTarget → Prop
  | none => PathIdle path
  | some target => Owes path target ∧ IdleBeyond path target

structure PathPasses (path : DataPath) (inp : DataPathIn) : Prop where
  privatePort : path.privatePort.passes (path.privateVldI inp) = true
  demuxPort : path.demuxPort.passes (path.demuxVldI inp) = true
  systemPort : path.systemPort.passes (DataPath.systemVldI inp) = true

section Cycle
variable {path : DataPath} {inp : DataPathIn}

theorem PathHolds.passes {held : Option DataTarget} (holds : PathHolds path held)
    (free : Slot.isFree held inp.slotIn = true) : PathPasses path inp := by
  cases held with
  | none =>
    have idle : PathIdle path := holds
    exact ⟨SeveralOutputs.passes_of_idle idle.privatePort _,
      SeveralOutputs.passes_of_idle idle.demuxPort _,
      SeveralOutputs.passes_of_idle idle.systemPort _⟩
  | some target =>
    obtain ⟨owes, beyond⟩ := holds
    have answer : inp.targetRvalid target = true := free
    have taken : path.hartRvalid inp = true := owes.hartRvalid.trans answer
    have inflight : path.privatePort.validInflightQ = true :=
      (Bool.and_eq_true_iff.mp taken).2
    refine ⟨SeveralOutputs.passes_of_answer inflight (Bool.and_eq_true_iff.mp taken).1, ?_, ?_⟩
    · cases target with
      | cpuReg => exact SeveralOutputs.passes_of_idle beyond.1 _
      | safeCpuRegister =>
        refine SeveralOutputs.passes_of_answer (by rw [owes.2]) ?_
        rw [owes.2]
        exact answer
      | slave idx =>
        refine SeveralOutputs.passes_of_answer (by rw [owes.2.1]) ?_
        have system : path.systemPort.vldO (DataPath.systemVldI inp) = true := by
          rw [SeveralOutputs.vldO, owes.2.2, Bool.and_true]
          exact answer
        rw [owes.2.1]
        exact system
    · cases target with
      | cpuReg => exact SeveralOutputs.passes_of_idle beyond.2 _
      | safeCpuRegister => exact SeveralOutputs.passes_of_idle beyond _
      | slave idx =>
        refine SeveralOutputs.passes_of_answer (by rw [owes.2.2]) ?_
        rw [owes.2.2]
        exact answer

/-! A path that passes does what the idle path does. -/

section Passes
variable (passing : PathPasses path inp)
include passing

theorem PathPasses.privateReqO : path.privateReqO inp = path.freed.privateReqO inp :=
  SeveralOutputs.reqO_of_passes passing.privatePort _ _ _

theorem PathPasses.demuxReqO : path.demuxReqO inp = path.freed.demuxReqO inp := by
  rw [DataPath.demuxReqO, DataPath.demuxReqO, passing.privateReqO]
  exact SeveralOutputs.reqO_of_passes passing.demuxPort _ _ _

theorem PathPasses.systemReqO : path.systemReqO inp = path.freed.systemReqO inp := by
  rw [DataPath.systemReqO, DataPath.systemReqO, passing.demuxReqO]
  exact SeveralOutputs.reqO_of_passes passing.systemPort _ _ _

theorem PathPasses.targetReq (target : DataTarget) :
    path.targetReq inp target = (inp.req && decide (target = dataTarget inp.addr)) := by
  rw [← (path.freed_idle).targetReq]
  cases target with
  | cpuReg => exact congrFun passing.privateReqO _
  | safeCpuRegister => exact congrFun passing.demuxReqO _
  | slave idx => exact congrFun passing.systemReqO _

theorem PathPasses.demuxGntI : path.demuxGntI inp = path.freed.demuxGntI inp := by
  funext idx
  match idx with
  | 0 => exact SeveralOutputs.gntO_of_passes passing.systemPort _ _
  | 1 => rfl

theorem PathPasses.privateGntI : path.privateGntI inp = path.freed.privateGntI inp := by
  funext idx
  match idx with
  | 0 =>
    rw [DataPath.privateGntI, DataPath.privateGntI, passing.demuxGntI]
    exact SeveralOutputs.gntO_of_passes passing.demuxPort _ _
  | 1 => rfl

theorem PathPasses.hartGnt : path.hartGnt inp = path.freed.hartGnt inp := by
  rw [DataPath.hartGnt, DataPath.hartGnt, passing.privateGntI]
  exact SeveralOutputs.gntO_of_passes passing.privatePort _ _

theorem PathPasses.next : path.next inp = path.freed.next inp := by
  rw [DataPath.next, DataPath.next, passing.privateGntI, passing.demuxGntI, passing.privateReqO,
    passing.demuxReqO]
  congr 1
  · exact SeveralOutputs.next_of_passes passing.privatePort _ _ _ _
  · exact SeveralOutputs.next_of_passes passing.demuxPort _ _ _ _
  · exact SeveralOutputs.next_of_passes passing.systemPort _ _ _ _

theorem PathPasses.requested (requested : GrantsRequested path inp) :
    GrantsRequested path.freed inp := by
  intro target granted
  rw [(path.freed_idle).targetReq, ← passing.targetReq]
  exact requested target granted

end Passes

/-! A path that waits shows the targets nothing. -/

theorem Owes.inflight {target : DataTarget} (owes : Owes path target) :
    path.privatePort.validInflightQ = true := by
  cases target with
  | cpuReg =>
    have first : path.privatePort = ⟨true, cpuRegIdx⟩ := owes
    rw [first]
  | safeCpuRegister => rw [owes.1]
  | slave idx => rw [owes.1]

theorem PathHolds.blocked {held : Option DataTarget} (holds : PathHolds path held)
    (busy : Slot.isFree held inp.slotIn = false) :
    path.privatePort.passes (path.privateVldI inp) = false := by
  cases held with
  | none => cases busy
  | some target =>
    have silent : path.hartRvalid inp = false := holds.1.hartRvalid.trans busy
    rw [SeveralOutputs.passes, holds.1.inflight]
    exact silent

section Blocked
variable (blocked : path.privatePort.passes (path.privateVldI inp) = false)
include blocked

theorem privateReqO_of_blocked (idx : Fin 2) : path.privateReqO inp idx = false :=
  congrFun (SeveralOutputs.reqO_of_blocked blocked _ _) idx

theorem demuxReqO_of_blocked (idx : Fin 2) : path.demuxReqO inp idx = false := by
  rw [DataPath.demuxReqO, privateReqO_of_blocked blocked, SeveralOutputs.reqO_of_quiet]

theorem targetReq_of_blocked (target : DataTarget) : path.targetReq inp target = false := by
  cases target with
  | cpuReg => exact privateReqO_of_blocked blocked _
  | safeCpuRegister => exact demuxReqO_of_blocked blocked _
  | slave idx =>
    change path.systemReqO inp idx = false
    rw [DataPath.systemReqO, demuxReqO_of_blocked blocked, SeveralOutputs.reqO_of_quiet]

theorem hartGnt_of_blocked : path.hartGnt inp = false :=
  SeveralOutputs.gntO_of_blocked blocked _

theorem IdleBeyond.next {target : DataTarget} (beyond : IdleBeyond path target) :
    IdleBeyond (path.next inp) target := by
  cases target with
  | cpuReg =>
    exact ⟨SeveralOutputs.next_of_unasked beyond.1 (privateReqO_of_blocked blocked _),
      SeveralOutputs.next_of_unasked beyond.2 (demuxReqO_of_blocked blocked _)⟩
  | safeCpuRegister =>
    exact SeveralOutputs.next_of_unasked beyond (demuxReqO_of_blocked blocked _)
  | slave idx => trivial

end Blocked

theorem PathIdle.idleBeyond_next (idle : PathIdle path) :
    IdleBeyond (path.next inp) (dataTarget inp.addr) := by
  unfold dataTarget
  split_ifs with toPrivate toCsr
  · have quiet : path.privateReqO inp erosSystemIdx = false := by
      rw [idle.privateReqO, toPrivate]
      exact Bool.and_false _
    have quietSystem : path.demuxReqO inp demuxIntXbarIdx = false := by
      rw [idle.demuxReqO, quiet, Bool.false_and]
    exact ⟨SeveralOutputs.next_of_unasked idle.demuxPort quiet,
      SeveralOutputs.next_of_unasked idle.systemPort quietSystem⟩
  · have quietSystem : path.demuxReqO inp demuxIntXbarIdx = false := by
      rw [idle.demuxReqO, toCsr]
      exact Bool.and_false _
    exact SeveralOutputs.next_of_unasked idle.systemPort quietSystem
  · trivial

/-! ## The path follows the slot -/

section Holds
variable {held : Option DataTarget} (holds : PathHolds path held)
include holds

theorem PathHolds.targetReq (target : DataTarget) :
    path.targetReq inp target =
      (Slot.isFree held inp.slotIn && (inp.req && decide (target = dataTarget inp.addr))) := by
  cases free : Slot.isFree held inp.slotIn with
  | true => exact (holds.passes free).targetReq target
  | false => exact targetReq_of_blocked (holds.blocked free) target

theorem PathHolds.hartRvalid :
    path.hartRvalid inp = Slot.released held inp.slotIn := by
  cases held with
  | none =>
    have idle : PathIdle path := holds
    rw [DataPath.hartRvalid, SeveralOutputs.vldO, idle.privatePort, Bool.and_false]
    rfl
  | some target => exact holds.1.hartRvalid

variable (requested : GrantsRequested path inp)
include requested

theorem PathHolds.hartGnt :
    path.hartGnt inp = (Slot.takes held inp.slotIn).isSome := by
  cases free : Slot.isFree held inp.slotIn with
  | false =>
    rw [hartGnt_of_blocked (holds.blocked free), Slot.takes, free]
    rfl
  | true =>
    have passing := holds.passes free
    rw [passing.hartGnt, path.freed_idle.hartGnt_eq (passing.requested requested), Slot.takes,
      if_pos free, DataPathIn.slotIn]
    cases granted : inp.targetGnt (dataTarget inp.addr) with
    | false => rw [Bool.and_false]; rfl
    | true =>
      have wanted := requested _ granted
      rw [passing.targetReq] at wanted
      rw [(Bool.and_eq_true_iff.mp wanted).1]
      rfl

theorem PathHolds.next : PathHolds (path.next inp) (Slot.next held inp.slotIn) := by
  cases free : Slot.isFree held inp.slotIn with
  | false =>
    have blocked := holds.blocked free
    rw [Slot.next, free]
    cases held with
    | none => cases free
    | some target => exact ⟨holds.1.next free, holds.2.next blocked⟩
  | true =>
    have passing := holds.passes free
    have idle := path.freed_idle
    have grant := holds.hartGnt requested
    rw [Slot.takes, if_pos free, passing.hartGnt] at grant
    rw [Slot.next, if_pos free, passing.next]
    rw [DataPathIn.slotIn] at grant ⊢
    by_cases served : (inp.req && inp.targetGnt (dataTarget inp.addr)) = true
    · obtain ⟨requests, granted⟩ := Bool.and_eq_true_iff.mp served
      rw [if_pos served]
      exact ⟨idle.owes_next requests granted, idle.idleBeyond_next⟩
    · rw [if_neg served] at grant ⊢
      exact idle.next grant

theorem PathHolds.granted (grant : path.hartGnt inp = true) (requests : inp.req = true) :
    inp.targetGnt (dataTarget inp.addr) = true ∧ Owes (path.next inp) (dataTarget inp.addr) := by
  have next := holds.next requested
  rw [holds.hartGnt requested, Slot.takes] at grant
  rw [Slot.next] at next
  cases free : Slot.isFree held inp.slotIn with
  | false =>
    rw [free] at grant
    cases grant
  | true =>
    rw [if_pos free, DataPathIn.slotIn] at grant next
    cases granted : inp.targetGnt (dataTarget inp.addr) with
    | false =>
      rw [granted, Bool.and_false] at grant
      cases grant
    | true =>
      rw [requests, granted] at next
      exact ⟨rfl, next.1⟩

end Holds

theorem Owes.hartRdata {target : DataTarget} (owes : Owes path target) :
    path.hartRdata inp = inp.targetRdata target := by
  cases target with
  | cpuReg =>
    have first : path.privatePort = ⟨true, cpuRegIdx⟩ := owes
    rw [DataPath.hartRdata, first]
    rfl
  | safeCpuRegister =>
    rw [DataPath.hartRdata, owes.1, DataPath.demuxRdata, owes.2]
    rfl
  | slave idx =>
    rw [DataPath.hartRdata, owes.1, DataPath.demuxRdata, owes.2.1, DataPath.systemRdata, owes.2.2]
    rfl

end Cycle

/-! ## Runs -/

section Run
variable (inputs : Nat → DataPathIn)

def pathAt : Nat → DataPath := dataPath.run inputs

def grantedAt (cycle : Nat) : Bool := (pathAt inputs cycle).hartGnt (inputs cycle)

def answeredAt (cycle : Nat) : Bool := (pathAt inputs cycle).hartRvalid (inputs cycle)

def targetAt (cycle : Nat) : DataTarget := dataTarget (inputs cycle).addr

/-- The cycle has the first answer of its target behind the access granted at `granted`. -/
structure AnswersAccess (granted cycle : Nat) : Prop where
  before : granted < cycle
  grants : grantedAt inputs granted = true
  answers : (inputs cycle).targetRvalid (targetAt inputs granted) = true
  first : ∀ between, granted < between → between < cycle →
    (inputs between).targetRvalid (targetAt inputs granted) = false

def slotInputs (cycle : Nat) : Slot.SlotIn DataTarget := (inputs cycle).slotIn

variable {inputs}
variable (requested : ∀ cycle, GrantsRequested (pathAt inputs cycle) (inputs cycle))
include requested

theorem pathHolds_run (cycle : Nat) :
    PathHolds (pathAt inputs cycle) (Slot.slot.run (slotInputs inputs) cycle) := by
  induction cycle with
  | zero => exact ⟨rfl, rfl, rfl⟩
  | succ cycle ih => exact ih.next (requested cycle)

theorem grantedAt_eq (cycle : Nat) :
    grantedAt inputs cycle = (Slot.takenAt (slotInputs inputs) cycle).isSome :=
  (pathHolds_run requested cycle).hartGnt (requested cycle)

theorem answeredAt_eq (cycle : Nat) :
    answeredAt inputs cycle = Slot.releasedAt (slotInputs inputs) cycle :=
  (pathHolds_run requested cycle).hartRvalid

theorem takenAt_iff (cycle : Nat) (target : DataTarget) :
    Slot.takenAt (slotInputs inputs) cycle = some target ↔
      grantedAt inputs cycle = true ∧ target = targetAt inputs cycle := by
  rw [grantedAt_eq requested]
  constructor
  · intro taken
    rw [taken]
    refine ⟨rfl, ?_⟩
    rw [Slot.takenAt, Slot.takes] at taken
    split_ifs at taken
    change (if _ then _ else _) = some target at taken
    split_ifs at taken
    exact (Option.some.inj taken).symm
  · rintro ⟨taken, rfl⟩
    rw [Slot.takenAt, Slot.takes] at taken ⊢
    split_ifs at taken ⊢
    · change (if _ then _ else _) = _
      change (if _ then _ else _ : Option DataTarget).isSome = true at taken
      split_ifs at taken ⊢
      · rfl
      · cases taken
    · cases taken

theorem AnswersAccess.holds {granted cycle : Nat} (access : AnswersAccess inputs granted cycle)
    {between : Nat} (after : granted < between) (upto : between ≤ cycle) :
    Slot.slot.run (slotInputs inputs) between = some (targetAt inputs granted) := by
  refine (Slot.holds_iff _ _ _).mpr ⟨granted, after, ?_, fun middle past earlier => ?_⟩
  · exact (takenAt_iff requested granted _).mpr ⟨access.grants, rfl⟩
  · exact access.first middle past (by omega)

theorem AnswersAccess.alone {granted cycle : Nat} (access : AnswersAccess inputs granted cycle)
    {between : Nat} (after : granted < between) (upto : between < cycle) :
    grantedAt inputs between = false := by
  have holds := access.holds requested after (by omega)
  rw [grantedAt_eq requested, Slot.takenAt_of_holds _ holds (access.first between after upto)]
  rfl

theorem answeredAt_iff (cycle : Nat) :
    answeredAt inputs cycle = true ↔ ∃ granted, AnswersAccess inputs granted cycle := by
  rw [answeredAt_eq requested, Slot.releasedAt, Slot.released]
  constructor
  · intro released
    cases held : Slot.slot.run (slotInputs inputs) cycle with
    | none =>
      rw [held] at released
      cases released
    | some target =>
      rw [held] at released
      obtain ⟨granted, before, taken, kept⟩ := (Slot.holds_iff _ _ _).mp held
      obtain ⟨grants, rfl⟩ := (takenAt_iff requested granted target).mp taken
      exact ⟨granted, before, grants, released, kept⟩
  · rintro ⟨granted, access⟩
    rw [access.holds requested access.before (le_refl cycle)]
    exact access.answers

theorem AnswersAccess.unique {granted other cycle : Nat}
    (access : AnswersAccess inputs granted cycle) (access' : AnswersAccess inputs other cycle) :
    other = granted := by
  rcases Nat.lt_trichotomy granted other with later | same | earlier
  · have nothing := access.alone requested later access'.before
    rw [access'.grants] at nothing
    cases nothing
  · exact same.symm
  · have nothing := access'.alone requested earlier access.before
    rw [access.grants] at nothing
    cases nothing

theorem hartRdata_of_answers {granted cycle : Nat} (access : AnswersAccess inputs granted cycle) :
    (pathAt inputs cycle).hartRdata (inputs cycle) =
      (inputs cycle).targetRdata (targetAt inputs granted) := by
  have stands := pathHolds_run requested cycle
  rw [access.holds requested access.before (le_refl cycle)] at stands
  exact stands.1.hartRdata

theorem tally_grantedAt (cycle : Nat) :
    Outstanding.tally (grantedAt inputs) cycle =
      Outstanding.tally (answeredAt inputs) cycle +
        (Slot.slot.run (slotInputs inputs) cycle).isSome.toNat := by
  rw [funext (grantedAt_eq requested), funext (answeredAt_eq requested)]
  exact Slot.tally_taken _ cycle

end Run

/-- In every run of a hart's data path, whose targets grant what is requested of them and
else do as they like, a cycle shows the hart's request to the target of its address only,
the hart is answered exactly with the first answer of the target behind one grant, with that
target's data, nothing is granted while an answer is owed, and no answer is lost or doubled. -/
theorem data_path_answers_in_turn (inputs : Nat → DataPathIn)
    (requested : ∀ cycle, GrantsRequested (pathAt inputs cycle) (inputs cycle)) (cycle : Nat) :
    (∀ target, (pathAt inputs cycle).targetReq (inputs cycle) target = true →
      (inputs cycle).req = true ∧ target = targetAt inputs cycle) ∧
    (answeredAt inputs cycle = true ↔ ∃! granted, AnswersAccess inputs granted cycle) ∧
    (∀ granted, AnswersAccess inputs granted cycle →
      (pathAt inputs cycle).hartRdata (inputs cycle) =
          (inputs cycle).targetRdata (targetAt inputs granted) ∧
        ∀ between, granted < between → between < cycle → grantedAt inputs between = false) ∧
    Outstanding.tally (answeredAt inputs) cycle ≤ Outstanding.tally (grantedAt inputs) cycle ∧
    Outstanding.tally (grantedAt inputs) cycle ≤ Outstanding.tally (answeredAt inputs) cycle + 1 := by
  refine ⟨fun target reached => ?_, ?_, fun granted access => ⟨?_, fun between after upto => ?_⟩,
    ?_, ?_⟩
  · rw [(pathHolds_run requested cycle).targetReq, Bool.and_eq_true, Bool.and_eq_true,
      decide_eq_true_eq] at reached
    exact reached.2
  · rw [answeredAt_iff requested]
    constructor
    · rintro ⟨granted, access⟩
      exact ⟨granted, access, fun other access' => access.unique requested access'⟩
    · rintro ⟨granted, access, -⟩
      exact ⟨granted, access⟩
  · exact hartRdata_of_answers requested access
  · exact access.alone requested after upto
  · rw [tally_grantedAt requested]
    exact Nat.le_add_right _ _
  · rw [tally_grantedAt requested]
    exact Nat.add_le_add_left (Bool.toNat_le _) _

/-- A hart reads its private registers in every cycle. -/
def privateReads (_cycle : Nat) : DataPathIn where
  req := true
  addr := 0xf0000000
  cpuRegResp := ⟨true, true, 7⟩
  csrResp := .zero
  arbiterGnt := fun _ => false
  peripheralSlaveResp := .zero
  extSlaveResp := .zero
  ramResp0 := .zero
  ramResp1 := .zero

theorem privateReads_pathAt (cycle : Nat) :
    pathAt privateReads (cycle + 1) = ⟨⟨true, 1⟩, ⟨false, 0⟩, ⟨false, 0⟩⟩ := by
  induction cycle with
  | zero => rfl
  | succ cycle ih =>
    change (pathAt privateReads (cycle + 1)).next (privateReads (cycle + 1)) = _
    rw [ih]
    rfl

theorem privateReads_requested (cycle : Nat) :
    GrantsRequested (pathAt privateReads cycle) (privateReads cycle) := by
  intro target granted
  cases target with
  | cpuReg =>
    cases cycle with
    | zero => rfl
    | succ cycle =>
      rw [privateReads_pathAt]
      rfl
  | safeCpuRegister => cases granted
  | slave idx => cases granted

theorem privateReads_answered :
    (answeredAt privateReads 2 = true ↔ ∃! granted, AnswersAccess privateReads granted 2) ∧
      Outstanding.tally (grantedAt privateReads) 2 ≤
        Outstanding.tally (answeredAt privateReads) 2 + 1 :=
  have turn := data_path_answers_in_turn privateReads privateReads_requested 2
  ⟨turn.2.1, turn.2.2.2.2⟩

end Eros
