import Eros.AddrDecRespMux
import Eros.AddrDecode
import Eros.Lib.Synchronous
import Eros.SafeCpuWrapper

/-!
# The way of a data access

Three crossbar ports in a row stand between a hart and its targets: the private
crossbar, the safe CSR demux and the hart's port of the system crossbar.  The
route is that of single mode, in which the wrapper passes the system side of the
private crossbar straight to the hart's data port.  The slave at `ERROR_IDX`, the
default of the system crossbar, has no driver for its response.
-/

set_option autoImplicit false

namespace Eros

open ErosPkg

/-- Outside the protected modes the wrapper passes the system side of a hart's
private crossbar to the hart's own data port and the port's response back. -/
theorem single_mode_data_port {n : Nat} (regs : WrapperRegs n) (inp : WrapperIn) (hart : Hart)
    (unvoted : inp.mode.tmrVoterEnable = false) (single : inp.mode.dualMode = false)
    (awake : inp.mode.dmrWfi hart = false) :
    regs.coreDataReqO inp hart = (inp.hartReq hart).data ∧
      regs.muxCoreDataResp inp hart = inp.dataResp hart := by
  constructor
  · simp [WrapperRegs.coreDataReqO, lowerMux, WrapperRegs.upperData, upperMux, unvoted, single]
  · simp [WrapperRegs.muxCoreDataResp, upperRespMux, lowerRespDirect, unvoted, single, awake]

/-! ## Targets -/

/-- The targets at the end of the three decode levels. -/
inductive DataTarget
  | cpuReg
  | safeCpuRegister
  | slave (idx : Fin 5)
  deriving DecidableEq, Repr

def privateIdx (addr : Word) : Fin 2 := addrDecode cpuXbarAddrRules erosSystemIdx addr
def demuxIdx (addr : Word) : Fin 2 := addrDecode demuxIntSafeRegAddrRules demuxIntXbarIdx addr
def portSel (addr : Word) : Fin 5 := addrDecode xbarAddrRules errorIdx addr

def dataTarget (addr : Word) : DataTarget :=
  if privateIdx addr = cpuRegIdx then .cpuReg
  else if demuxIdx addr = demuxSafeCpuRegisterIdx then .safeCpuRegister
  else .slave (portSel addr)

theorem privateIdx_iff (addr : Word) : privateIdx addr = cpuRegIdx ↔ InPrivate addr := by
  unfold privateIdx
  rw [cpuXbarAddrRules_eq, addrDecode_singleton_iff _ _ _ (by decide),
    AddrMapRule.matches_iff_of_end _ _ (by decide)]
  rfl

theorem demuxIdx_iff (addr : Word) : demuxIdx addr = demuxSafeCpuRegisterIdx ↔ InSafeCsr addr := by
  unfold demuxIdx
  rw [demuxIntSafeRegAddrRules_eq, addrDecode_singleton_iff _ _ _ (by decide),
    AddrMapRule.matches_iff_of_end _ _ (by decide)]
  rfl

/-- The addresses of a target other than the default one. -/
def Mapped (addr : Word) : Prop :=
  addr.toNat < 0x41000000 ∨ (0xf0000000 ≤ addr.toNat ∧ addr.toNat < 0xf0012000) ∨
    (0xf0020000 ≤ addr.toNat ∧ addr.toNat < 0xf0030000)

instance (addr : Word) : Decidable (Mapped addr) := by unfold Mapped; infer_instance

theorem portSel_errorIdx_iff (addr : Word) :
    portSel addr = errorIdx ↔
      ¬(addr.toNat < 0x41000000 ∨ (0xf0010000 ≤ addr.toNat ∧ addr.toNat < 0xf0012000) ∨
        (0xf0020000 ≤ addr.toNat ∧ addr.toNat < 0xf0030000)) := by
  unfold portSel
  rw [xbarAddrRules_eq]
  simp only [addrDecode_cons, addrDecode_nil]
  split_ifs with error peripheral external ram0 ram1
  · rw [AddrMapRule.matches_iff_of_end _ _ (by decide)] at error
    exact iff_of_true rfl (by simp at error; omega)
  · rw [AddrMapRule.matches_iff_of_end _ _ (by decide)] at peripheral
    exact iff_of_false (by decide) (by simp at peripheral; omega)
  · rw [AddrMapRule.matches_iff_of_end _ _ (by decide)] at external
    exact iff_of_false (by decide) (by simp at external; omega)
  · rw [AddrMapRule.matches_iff_of_end _ _ (by decide)] at ram0
    exact iff_of_false (by decide) (by simp at ram0; omega)
  · rw [AddrMapRule.matches_iff_of_end _ _ (by decide)] at ram1
    exact iff_of_false (by decide) (by simp at ram1; omega)
  · rw [AddrMapRule.matches_iff_of_end _ _ (by decide)] at peripheral external ram0 ram1
    exact iff_of_true rfl (by simp at peripheral external ram0 ram1; omega)

theorem dataTarget_error_iff (addr : Word) :
    dataTarget addr = .slave errorIdx ↔ ¬Mapped addr := by
  unfold dataTarget Mapped
  split_ifs with inPrivate inCsr
  · rw [privateIdx_iff, InPrivate] at inPrivate
    simp only [false_iff, not_not]
    omega
  · rw [demuxIdx_iff, InSafeCsr] at inCsr
    simp only [false_iff, not_not]
    omega
  · rw [privateIdx_iff, InPrivate] at inPrivate
    rw [DataTarget.slave.injEq, portSel_errorIdx_iff]
    omega

/-! ## The three ports -/

/-- The registers on the way of one hart's data accesses. -/
structure DataPath where
  privatePort : SeveralOutputs 2
  demuxPort : SeveralOutputs 2
  systemPort : SeveralOutputs 5

/-- One cycle outside the path: the hart's request, the responses of the private
registers and of the safe CSR crossbar, the grants of the system crossbar's
arbiters to this hart, and the responses of the slaves that have a driver. -/
structure DataPathIn where
  req : Bool
  addr : Word
  cpuRegResp : ObiResp
  csrResp : ObiResp
  arbiterGnt : Fin 5 → Bool
  peripheralSlaveResp : ObiResp
  extSlaveResp : ObiResp
  ramResp0 : ObiResp
  ramResp1 : ObiResp

/-- `int_slave_resp`: nothing is assigned to the response of the error slave. -/
def DataPathIn.intSlaveResp (inp : DataPathIn) : Fin 5 → ObiResp
  | 0 => .zero
  | 1 => inp.peripheralSlaveResp
  | 2 => inp.extSlaveResp
  | 3 => inp.ramResp0
  | 4 => inp.ramResp1

def DataPathIn.targetGnt (inp : DataPathIn) : DataTarget → Bool
  | .cpuReg => inp.cpuRegResp.gnt
  | .safeCpuRegister => inp.csrResp.gnt
  | .slave idx => inp.arbiterGnt idx && (inp.intSlaveResp idx).gnt

def DataPathIn.targetRvalid (inp : DataPathIn) : DataTarget → Bool
  | .cpuReg => inp.cpuRegResp.rvalid
  | .safeCpuRegister => inp.csrResp.rvalid
  | .slave idx => (inp.intSlaveResp idx).rvalid

/-- Grant and response of the target follow some driver. -/
def Driven (target : DataTarget) : Prop :=
  (∃ inp : DataPathIn, inp.targetGnt target = true) ∧
    ∃ inp : DataPathIn, inp.targetRvalid target = true

namespace DataPath
variable (path : DataPath) (inp : DataPathIn)

/-! Answers come up from the targets. -/

def systemVldI : Fin 5 → Bool := fun idx => (inp.intSlaveResp idx).rvalid
def demuxVldI : Fin 2 → Bool
  | 0 => path.systemPort.vldO (systemVldI inp)
  | 1 => inp.csrResp.rvalid
def privateVldI : Fin 2 → Bool
  | 0 => path.demuxPort.vldO (path.demuxVldI inp)
  | 1 => inp.cpuRegResp.rvalid

/-- `core_data_resp.rvalid` -/
def hartRvalid : Bool := path.privatePort.vldO (path.privateVldI inp)

/-! Requests go down to the targets, with the address unchanged. -/

def privateReqO : Fin 2 → Bool :=
  path.privatePort.reqO inp.req (privateIdx inp.addr) (path.privateVldI inp)

def demuxReqO : Fin 2 → Bool :=
  path.demuxPort.reqO (path.privateReqO inp erosSystemIdx) (demuxIdx inp.addr)
    (path.demuxVldI inp)

def systemReqO : Fin 5 → Bool :=
  path.systemPort.reqO (path.demuxReqO inp demuxIntXbarIdx) (portSel inp.addr) (systemVldI inp)

def targetReq : DataTarget → Bool
  | .cpuReg => path.privateReqO inp cpuRegIdx
  | .safeCpuRegister => path.demuxReqO inp demuxSafeCpuRegisterIdx
  | .slave idx => path.systemReqO inp idx

/-! Grants come up again. -/

def systemGntI : Fin 5 → Bool := fun idx => inp.targetGnt (.slave idx)
def demuxGntI : Fin 2 → Bool
  | 0 => path.systemPort.gntO (systemGntI inp) (systemVldI inp)
  | 1 => inp.csrResp.gnt
def privateGntI : Fin 2 → Bool
  | 0 => path.demuxPort.gntO (path.demuxGntI inp) (path.demuxVldI inp)
  | 1 => inp.cpuRegResp.gnt

/-- `core_data_resp.gnt` -/
def hartGnt : Bool := path.privatePort.gntO (path.privateGntI inp) (path.privateVldI inp)

def next : DataPath where
  privatePort := path.privatePort.next
    ⟨inp.req, privateIdx inp.addr, path.privateGntI inp, path.privateVldI inp⟩
  demuxPort := path.demuxPort.next
    ⟨path.privateReqO inp erosSystemIdx, demuxIdx inp.addr, path.demuxGntI inp,
      path.demuxVldI inp⟩
  systemPort := path.systemPort.next
    ⟨path.demuxReqO inp demuxIntXbarIdx, portSel inp.addr, systemGntI inp, systemVldI inp⟩

end DataPath

structure PathIdle (path : DataPath) : Prop where
  privatePort : path.privatePort.validInflightQ = false
  demuxPort : path.demuxPort.validInflightQ = false
  systemPort : path.systemPort.validInflightQ = false

/-- The targets grant this hart only what it requests of them. -/
def GrantsRequested (path : DataPath) (inp : DataPathIn) : Prop :=
  ∀ target, inp.targetGnt target = true → path.targetReq inp target = true

theorem systemIdx_iff (idx : Fin 2) : 0 = idx ↔ idx ≠ 1 := by
  fin_cases idx <;> decide

section Idle
variable {path : DataPath} {inp : DataPathIn}

theorem PathIdle.privateReqO (idle : PathIdle path) (idx : Fin 2) :
    path.privateReqO inp idx = (inp.req && decide (idx = privateIdx inp.addr)) :=
  SeveralOutputs.reqO_of_idle idle.privatePort _ _ _ idx

theorem PathIdle.demuxReqO (idle : PathIdle path) (idx : Fin 2) :
    path.demuxReqO inp idx =
      (path.privateReqO inp erosSystemIdx && decide (idx = demuxIdx inp.addr)) :=
  SeveralOutputs.reqO_of_idle idle.demuxPort _ _ _ idx

theorem PathIdle.systemReqO (idle : PathIdle path) (idx : Fin 5) :
    path.systemReqO inp idx =
      (path.demuxReqO inp demuxIntXbarIdx && decide (idx = portSel inp.addr)) :=
  SeveralOutputs.reqO_of_idle idle.systemPort _ _ _ idx

theorem PathIdle.targetReq (idle : PathIdle path) (target : DataTarget) :
    path.targetReq inp target = (inp.req && decide (target = dataTarget inp.addr)) := by
  unfold DataPath.targetReq dataTarget
  rw [Bool.eq_iff_iff]
  cases target with
  | cpuReg =>
    simp only [idle.privateReqO, Bool.and_eq_true, decide_eq_true_eq]
    split_ifs with toPrivate toCsr
    · simp [toPrivate]
    · simp [Ne.symm toPrivate]
    · simp [Ne.symm toPrivate]
  | safeCpuRegister =>
    simp only [idle.demuxReqO, idle.privateReqO, Bool.and_eq_true, decide_eq_true_eq,
      erosSystemIdx, systemIdx_iff]
    split_ifs with toPrivate toCsr
    · simp only [cpuRegIdx] at toPrivate
      simp [toPrivate]
    · simp only [cpuRegIdx] at toPrivate
      simp [toPrivate, toCsr]
    · simp [Ne.symm toCsr]
  | slave idx =>
    simp only [idle.systemReqO, idle.demuxReqO, idle.privateReqO, Bool.and_eq_true,
      decide_eq_true_eq, erosSystemIdx, demuxIntXbarIdx, systemIdx_iff]
    split_ifs with toPrivate toCsr
    · simp only [cpuRegIdx] at toPrivate
      simp [toPrivate]
    · simp only [demuxSafeCpuRegisterIdx] at toCsr
      simp [toCsr]
    · simp only [cpuRegIdx] at toPrivate
      simp only [demuxSafeCpuRegisterIdx] at toCsr
      simp [toPrivate, toCsr]

theorem PathIdle.systemGnt_iff (idle : PathIdle path) :
    path.systemPort.gntO (DataPath.systemGntI inp) (DataPath.systemVldI inp) = true ↔
      ∃ idx, inp.targetGnt (.slave idx) = true := by
  rw [SeveralOutputs.gntO_of_idle idle.systemPort, decide_eq_true_eq]
  rfl

theorem PathIdle.demuxGnt_iff (idle : PathIdle path) :
    path.demuxPort.gntO (path.demuxGntI inp) (path.demuxVldI inp) = true ↔
      (∃ idx, inp.targetGnt (.slave idx) = true) ∨ inp.targetGnt .safeCpuRegister = true := by
  rw [SeveralOutputs.gntO_of_idle idle.demuxPort, decide_eq_true_eq, Fin.exists_fin_two]
  exact or_congr idle.systemGnt_iff Iff.rfl

theorem PathIdle.hartGnt_iff (idle : PathIdle path) :
    path.hartGnt inp = true ↔
      ((∃ idx, inp.targetGnt (.slave idx) = true) ∨ inp.targetGnt .safeCpuRegister = true) ∨
        inp.targetGnt .cpuReg = true := by
  unfold DataPath.hartGnt
  rw [SeveralOutputs.gntO_of_idle idle.privatePort, decide_eq_true_eq, Fin.exists_fin_two]
  exact or_congr idle.demuxGnt_iff Iff.rfl

theorem PathIdle.hartGnt_eq (idle : PathIdle path) (requested : GrantsRequested path inp) :
    path.hartGnt inp = inp.targetGnt (dataTarget inp.addr) := by
  rw [Bool.eq_iff_iff, idle.hartGnt_iff]
  constructor
  · have only : ∀ target, inp.targetGnt target = true → target = dataTarget inp.addr := by
      intro target granted
      have wanted := requested target granted
      rw [idle.targetReq, Bool.and_eq_true, decide_eq_true_eq] at wanted
      exact wanted.2
    rintro ((⟨idx, granted⟩ | granted) | granted)
    · rwa [← only _ granted]
    · rwa [← only _ granted]
    · rwa [← only _ granted]
  · intro granted
    cases target : dataTarget inp.addr with
    | cpuReg => exact Or.inr (target ▸ granted)
    | safeCpuRegister => exact Or.inl (Or.inr (target ▸ granted))
    | slave idx => exact Or.inl (Or.inl ⟨idx, target ▸ granted⟩)

theorem PathIdle.next (idle : PathIdle path) (ungranted : path.hartGnt inp = false) :
    PathIdle (path.next inp) := by
  have none := (not_congr idle.hartGnt_iff).mp ((Bool.not_eq_true _).mpr ungranted)
  have noDemux : path.demuxPort.gntO (path.demuxGntI inp) (path.demuxVldI inp) = false := by
    rw [← Bool.not_eq_true, idle.demuxGnt_iff]
    exact fun granted => none (Or.inl granted)
  have noSystem :
      path.systemPort.gntO (DataPath.systemGntI inp) (DataPath.systemVldI inp) = false := by
    rw [← Bool.not_eq_true, idle.systemGnt_iff]
    exact fun granted => none (Or.inl (Or.inl granted))
  exact ⟨SeveralOutputs.next_idle idle.privatePort ungranted,
    SeveralOutputs.next_idle idle.demuxPort noDemux,
    SeveralOutputs.next_idle idle.systemPort noSystem⟩

end Idle

/-! ## A granted access -/

/-- The ports on the way to the target wait for its answer. -/
def Owes (path : DataPath) : DataTarget → Prop
  | .cpuReg => path.privatePort = ⟨true, cpuRegIdx⟩
  | .safeCpuRegister =>
      path.privatePort = ⟨true, erosSystemIdx⟩ ∧
        path.demuxPort = ⟨true, demuxSafeCpuRegisterIdx⟩
  | .slave idx =>
      path.privatePort = ⟨true, erosSystemIdx⟩ ∧ path.demuxPort = ⟨true, demuxIntXbarIdx⟩ ∧
        path.systemPort = ⟨true, idx⟩

section Granted
variable {path : DataPath} {inp : DataPathIn}

theorem PathIdle.owes_next (idle : PathIdle path) (requests : inp.req = true)
    (granted : inp.targetGnt (dataTarget inp.addr) = true) :
    Owes (path.next inp) (dataTarget inp.addr) := by
  unfold dataTarget at granted ⊢
  split_ifs at granted ⊢ with toPrivate toCsr
  · change (path.next inp).privatePort = ⟨true, cpuRegIdx⟩
    rw [← toPrivate]
    exact SeveralOutputs.next_granted idle.privatePort requests
      (idle.hartGnt_iff.mpr (Or.inr granted))
  · have system : erosSystemIdx = privateIdx inp.addr := (systemIdx_iff _).mpr toPrivate
    have entered : path.privateReqO inp erosSystemIdx = true := by
      simp [idle.privateReqO, requests, ← system]
    constructor
    · rw [system]
      exact SeveralOutputs.next_granted idle.privatePort requests
        (idle.hartGnt_iff.mpr (Or.inl (Or.inr granted)))
    · rw [← toCsr]
      exact SeveralOutputs.next_granted idle.demuxPort entered
        (idle.demuxGnt_iff.mpr (Or.inr granted))
  · have system : erosSystemIdx = privateIdx inp.addr := (systemIdx_iff _).mpr toPrivate
    have xbar : demuxIntXbarIdx = demuxIdx inp.addr := (systemIdx_iff _).mpr toCsr
    have entered : path.privateReqO inp erosSystemIdx = true := by
      simp [idle.privateReqO, requests, ← system]
    have crossed : path.demuxReqO inp demuxIntXbarIdx = true := by
      simp [idle.demuxReqO, entered, ← xbar]
    refine ⟨?_, ?_, ?_⟩
    · rw [system]
      exact SeveralOutputs.next_granted idle.privatePort requests
        (idle.hartGnt_iff.mpr (Or.inl (Or.inl ⟨_, granted⟩)))
    · rw [xbar]
      exact SeveralOutputs.next_granted idle.demuxPort entered
        (idle.demuxGnt_iff.mpr (Or.inl ⟨_, granted⟩))
    · exact SeveralOutputs.next_granted idle.systemPort crossed
        (idle.systemGnt_iff.mpr ⟨_, granted⟩)

theorem Owes.hartRvalid {target : DataTarget} (owes : Owes path target) :
    path.hartRvalid inp = inp.targetRvalid target := by
  cases target with
  | cpuReg =>
    have first : path.privatePort = ⟨true, cpuRegIdx⟩ := owes
    simp [DataPath.hartRvalid, SeveralOutputs.vldO, first, DataPath.privateVldI, cpuRegIdx,
      DataPathIn.targetRvalid]
  | safeCpuRegister =>
    obtain ⟨first, second⟩ := owes
    simp [DataPath.hartRvalid, SeveralOutputs.vldO, first, second, DataPath.privateVldI,
      DataPath.demuxVldI, erosSystemIdx, demuxSafeCpuRegisterIdx, DataPathIn.targetRvalid]
  | slave idx =>
    obtain ⟨first, second, third⟩ := owes
    simp [DataPath.hartRvalid, SeveralOutputs.vldO, first, second, third, DataPath.privateVldI,
      DataPath.demuxVldI, DataPath.systemVldI, erosSystemIdx, demuxIntXbarIdx,
      DataPathIn.targetRvalid]

theorem Owes.next {target : DataTarget} (owes : Owes path target)
    (unanswered : inp.targetRvalid target = false) : Owes (path.next inp) target := by
  cases target with
  | cpuReg =>
    have first : path.privatePort = ⟨true, cpuRegIdx⟩ := owes
    have silent : path.privateVldI inp path.privatePort.bankSelQ = false := by
      rw [first]
      exact unanswered
    exact (path.privatePort.next_waiting _ (by rw [first]) silent).trans first
  | safeCpuRegister =>
    obtain ⟨first, second⟩ := owes
    have silentDemux : path.demuxVldI inp path.demuxPort.bankSelQ = false := by
      rw [second]
      exact unanswered
    have silent : path.privateVldI inp path.privatePort.bankSelQ = false := by
      rw [first]
      exact (path.demuxPort.waits (by rw [second]) silentDemux).1
    exact ⟨(path.privatePort.next_waiting _ (by rw [first]) silent).trans first,
      (path.demuxPort.next_waiting _ (by rw [second]) silentDemux).trans second⟩
  | slave idx =>
    obtain ⟨first, second, third⟩ := owes
    have silentSystem : DataPath.systemVldI inp path.systemPort.bankSelQ = false := by
      rw [third]
      exact unanswered
    have silentDemux : path.demuxVldI inp path.demuxPort.bankSelQ = false := by
      rw [second]
      exact (path.systemPort.waits (by rw [third]) silentSystem).1
    have silent : path.privateVldI inp path.privatePort.bankSelQ = false := by
      rw [first]
      exact (path.demuxPort.waits (by rw [second]) silentDemux).1
    exact ⟨(path.privatePort.next_waiting _ (by rw [first]) silent).trans first,
      (path.demuxPort.next_waiting _ (by rw [second]) silentDemux).trans second,
      (path.systemPort.next_waiting _ (by rw [third]) silentSystem).trans third⟩

end Granted

/-! ## Runs of one access -/

def dataPath : Synchronous.Machine DataPath DataPathIn where
  init := ⟨⟨false, 0⟩, ⟨false, 0⟩, ⟨false, 0⟩⟩
  next := DataPath.next

/-- From an idle path, the hart presents the address until it is granted. -/
structure DataAccess (start : DataPath) (inputs : Nat → DataPathIn) (addr : Word) : Prop where
  idle : PathIdle start
  presents : ∀ cycle,
    (∀ earlier, earlier < cycle →
      (dataPath.runFrom start inputs earlier).hartGnt (inputs earlier) = false) →
    (inputs cycle).req = true ∧ (inputs cycle).addr = addr

/-- Targets grant only what is requested of them; one with a driver grants a
request that is held, and answers what it granted in some later cycle. -/
structure TargetsServe (start : DataPath) (inputs : Nat → DataPathIn) : Prop where
  requested : ∀ cycle, GrantsRequested (dataPath.runFrom start inputs cycle) (inputs cycle)
  grants : ∀ target, Driven target →
    (∀ cycle, (dataPath.runFrom start inputs cycle).targetReq (inputs cycle) target = true) →
    ∃ cycle, (inputs cycle).targetGnt target = true
  answers : ∀ target cycle, Driven target → (inputs cycle).targetGnt target = true →
    ∃ later, cycle < later ∧ (inputs later).targetRvalid target = true

/-- The hart is granted its access and has an answer in some later cycle. -/
def HartAnswered (start : DataPath) (inputs : Nat → DataPathIn) : Prop :=
  ∃ granted answered, granted < answered ∧
    (dataPath.runFrom start inputs granted).hartGnt (inputs granted) = true ∧
    (dataPath.runFrom start inputs answered).hartRvalid (inputs answered) = true

section Run
variable {start : DataPath} {inputs : Nat → DataPathIn} {addr : Word}

theorem DataAccess.idle_while_ungranted (access : DataAccess start inputs addr) (cycle : Nat)
    (ungranted : ∀ earlier, earlier < cycle →
      (dataPath.runFrom start inputs earlier).hartGnt (inputs earlier) = false) :
    PathIdle (dataPath.runFrom start inputs cycle) := by
  induction cycle with
  | zero => exact access.idle
  | succ cycle ih =>
    have before := ih fun earlier past => ungranted earlier (by omega)
    exact before.next (ungranted cycle (by omega))

theorem owes_until_answer {target : DataTarget} {first : Nat}
    (owes : Owes (dataPath.runFrom start inputs first) target) (later : Nat)
    (unanswered : ∀ cycle, first ≤ cycle → cycle < first + later →
      (inputs cycle).targetRvalid target = false) :
    Owes (dataPath.runFrom start inputs (first + later)) target := by
  induction later with
  | zero => exact owes
  | succ later ih =>
    have before := ih fun cycle from_ upto => unanswered cycle from_ (by omega)
    exact before.next (unanswered (first + later) (by omega) (by omega))

theorem DataAccess.granted_of_driven (access : DataAccess start inputs addr)
    (serves : TargetsServe start inputs) (driven : Driven (dataTarget addr)) :
    ∃ cycle, (dataPath.runFrom start inputs cycle).hartGnt (inputs cycle) = true := by
  by_contra never
  have ungranted : ∀ cycle,
      (dataPath.runFrom start inputs cycle).hartGnt (inputs cycle) = false := by
    intro cycle
    rw [← Bool.not_eq_true]
    exact fun granted => never ⟨cycle, granted⟩
  have idle := fun cycle => access.idle_while_ungranted cycle fun earlier _ => ungranted earlier
  have presents := fun cycle => access.presents cycle fun earlier _ => ungranted earlier
  obtain ⟨cycle, granted⟩ := serves.grants (dataTarget addr) driven fun cycle => by
    rw [(idle cycle).targetReq, (presents cycle).1, (presents cycle).2]
    simp
  have hart := (idle cycle).hartGnt_eq (serves.requested cycle)
  rw [(presents cycle).2, granted] at hart
  exact never ⟨cycle, hart⟩

theorem DataAccess.answered_of_driven (access : DataAccess start inputs addr)
    (serves : TargetsServe start inputs) (driven : Driven (dataTarget addr)) :
    HartAnswered start inputs := by
  -- the first grant
  obtain ⟨some, hartGranted⟩ := access.granted_of_driven serves driven
  obtain ⟨granted, grant, ungranted⟩ := Synchronous.exists_first_event
    (fun cycle => (dataPath.runFrom start inputs cycle).hartGnt (inputs cycle)) 0
    ⟨some, Nat.zero_le some, hartGranted⟩
  simp only [Nat.zero_le, Nat.zero_add, true_implies] at grant ungranted
  have idle := access.idle_while_ungranted granted ungranted
  obtain ⟨requests, same⟩ := access.presents granted ungranted
  have targetGranted : (inputs granted).targetGnt (dataTarget addr) = true := by
    rw [← same, ← idle.hartGnt_eq (serves.requested granted)]
    exact grant
  have owes : Owes (dataPath.runFrom start inputs (granted + 1)) (dataTarget addr) := by
    have next := idle.owes_next requests (same.symm ▸ targetGranted)
    rwa [same] at next
  -- the first answer after it
  obtain ⟨later, past, answers⟩ :=
    serves.answers (dataTarget addr) granted driven targetGranted
  obtain ⟨wait, answer, unanswered⟩ := Synchronous.exists_first_event
    (fun cycle => (inputs cycle).targetRvalid (dataTarget addr)) (granted + 1)
    ⟨later, past, answers⟩
  refine ⟨granted, granted + 1 + wait, by omega, grant, ?_⟩
  rw [(owes_until_answer owes wait unanswered).hartRvalid]
  exact answer

end Run

/-! ## Which accesses are answered -/

def allResponding : DataPathIn where
  req := true
  addr := 0
  cpuRegResp := ⟨true, true, 0⟩
  csrResp := ⟨true, true, 0⟩
  arbiterGnt := fun _ => true
  peripheralSlaveResp := ⟨true, true, 0⟩
  extSlaveResp := ⟨true, true, 0⟩
  ramResp0 := ⟨true, true, 0⟩
  ramResp1 := ⟨true, true, 0⟩

theorem driven_iff (target : DataTarget) : Driven target ↔ target ≠ .slave errorIdx := by
  constructor
  · rintro ⟨⟨inp, granted⟩, _⟩ rfl
    simp [DataPathIn.targetGnt, DataPathIn.intSlaveResp, errorIdx, ObiResp.zero] at granted
  · intro other
    cases target with
    | cpuReg | safeCpuRegister => exact ⟨⟨allResponding, rfl⟩, ⟨allResponding, rfl⟩⟩
    | slave idx =>
      match idx with
      | 0 => exact absurd rfl other
      | 1 | 2 | 3 | 4 => exact ⟨⟨allResponding, rfl⟩, ⟨allResponding, rfl⟩⟩

/-- What every access is promised: one target, which drives grant and response,
and an answer whenever the targets with drivers serve. -/
structure AnsweredByOneTarget (addr : Word) : Prop where
  one : ∀ path inp, PathIdle path → inp.req = true → inp.addr = addr →
    ∃! target, path.targetReq inp target = true
  driven : Driven (dataTarget addr)
  answered : ∀ start inputs, DataAccess start inputs addr → TargetsServe start inputs →
    HartAnswered start inputs

theorem one_target (path : DataPath) (inp : DataPathIn) (idle : PathIdle path)
    (requests : inp.req = true) : ∃! target, path.targetReq inp target = true := by
  refine ⟨dataTarget inp.addr, ?_, ?_⟩
  · simp [idle.targetReq, requests]
  · intro target reached
    rw [idle.targetReq, Bool.and_eq_true, decide_eq_true_eq] at reached
    exact reached.2

theorem DataAccess.waits_forever {start : DataPath} {inputs : Nat → DataPathIn} {addr : Word}
    (access : DataAccess start inputs addr)
    (requested : ∀ cycle, GrantsRequested (dataPath.runFrom start inputs cycle) (inputs cycle))
    (unmapped : ¬Mapped addr) (cycle : Nat) :
    (dataPath.runFrom start inputs cycle).hartGnt (inputs cycle) = false := by
  induction cycle using Nat.strong_induction_on with
  | h cycle ih =>
    have idle := access.idle_while_ungranted cycle ih
    rw [idle.hartGnt_eq (requested cycle), (access.presents cycle ih).2,
      (dataTarget_error_iff addr).mpr unmapped]
    simp [DataPathIn.targetGnt, DataPathIn.intSlaveResp, errorIdx, ObiResp.zero]

/-- Every access reaches exactly one target, and it is answered if and only if
the address is mapped. -/
theorem data_access_answered_iff (addr : Word) : AnsweredByOneTarget addr ↔ Mapped addr := by
  constructor
  · intro answered
    by_contra unmapped
    exact (driven_iff _).mp answered.driven ((dataTarget_error_iff addr).mpr unmapped)
  · intro mapped
    have driven : Driven (dataTarget addr) :=
      (driven_iff _).mpr fun error => (dataTarget_error_iff addr).mp error mapped
    exact {
      one := fun path inp idle requests _ => one_target path inp idle requests
      driven := driven
      answered := fun start inputs access serves => access.answered_of_driven serves driven }

/-- A hart reads address `0x50000000` on a bus where nobody grants anything. -/
def strayRead (_cycle : Nat) : DataPathIn where
  req := true
  addr := 0x50000000
  cpuRegResp := .zero
  csrResp := .zero
  arbiterGnt := fun _ => false
  peripheralSlaveResp := .zero
  extSlaveResp := .zero
  ramResp0 := .zero
  ramResp1 := .zero

theorem strayRead_access : DataAccess dataPath.init strayRead 0x50000000 where
  idle := ⟨rfl, rfl, rfl⟩
  presents _ _ := ⟨rfl, rfl⟩

theorem strayRead_grants_nothing (cycle : Nat) (target : DataTarget) :
    (strayRead cycle).targetGnt target = false := by
  cases target <;> rfl

theorem strayRead_serves : TargetsServe dataPath.init strayRead where
  requested cycle target granted := by simp [strayRead_grants_nothing] at granted
  grants target driven held := by
    have wanted := held 0
    rw [PathIdle.targetReq ⟨rfl, rfl, rfl⟩, Bool.and_eq_true, decide_eq_true_eq] at wanted
    have error : dataTarget (strayRead 0).addr = .slave errorIdx :=
      (dataTarget_error_iff _).mpr (by decide)
    exact absurd (wanted.2.trans error) ((driven_iff target).mp driven)
  answers target cycle _ granted := by simp [strayRead_grants_nothing] at granted

theorem stray_read_waits_forever : ¬∀ addr, AnsweredByOneTarget addr := by
  intro claimed
  obtain ⟨granted, _, _, grant, _⟩ :=
    (claimed 0x50000000).answered _ strayRead strayRead_access strayRead_serves
  have waits := strayRead_access.waits_forever strayRead_serves.requested (by decide) granted
  rw [waits] at grant
  cases grant

end Eros
