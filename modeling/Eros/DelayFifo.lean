import Eros.Lib.Fifo
import Eros.Lib.Synchronous
import Eros.LockstepReg

/-!
# The request delay line is a queue

One `obi_sngreg` holds at most one request, and grants a new one when it is
empty or when its own is granted.  A chain of stages is the queue of its
stages, each fed by the one before it.
-/

set_option autoImplicit false

namespace Eros

open Fifo

/-- The request handed over in a cycle, if any. -/
def transfer (request : ObiReq) (gnt : Bool) : Option ObiReq :=
  if request.req && gnt then some request else none

theorem transfer_length (request : ObiReq) (gnt : Bool) :
    (transfer request gnt).toList.length = (request.req && gnt).toNat := by
  unfold transfer
  cases request.req && gnt <;> rfl

/-- What one stage register holds. -/
def occupied (held : ObiReq) : List ObiReq := if held.req then [held] else []

theorem occupied_length_le (held : ObiReq) : (occupied held).length ≤ 1 := by
  unfold occupied
  split_ifs <;> simp

/-- The requests of a chain listed from the input side, oldest first. -/
def chainHeld : List ObiReq → List ObiReq
  | [] => []
  | held :: rest => chainHeld rest ++ occupied held

theorem chainHeld_length_le (stages : List ObiReq) :
    (chainHeld stages).length ≤ stages.length := by
  induction stages with
  | nil => simp [chainHeld]
  | cons held rest ih =>
    have one := occupied_length_le held
    simp only [chainHeld, List.length_append, List.length_cons]
    omega

theorem sngreg_passes (request held : ObiReq) (gntIn : Bool) :
    Passes (transfer request (sngregGnt request held gntIn)) (transfer held gntIn)
      (occupied held) (occupied (sngregNext request held gntIn false)) := by
  cases presented : request.req <;> cases full : held.req <;> cases gntIn <;>
    simp [Passes, transfer, occupied, sngregGnt, sngregNext, sngregClear, sngregLoad, presented,
      full]

theorem sngregNext_stalled (request held : ObiReq) (full : held.req = true) :
    sngregNext request held false false = held := by
  cases presented : request.req <;>
    simp [sngregNext, sngregClear, sngregLoad, presented, full]

theorem chain_passes (request : ObiReq) (gntIn : Bool) (stages : List ObiReq) :
    Passes (transfer request (chainGnt request gntIn stages))
      (transfer (chainOut request stages) gntIn)
      (chainHeld stages) (chainHeld (chainNext request gntIn false stages)) := by
  induction stages generalizing request with
  | nil => exact Passes.wire _
  | cons held rest ih => exact (ih held).comp (sngreg_passes request held _)

theorem chainOut_stalled (request following : ObiReq) (stages : List ObiReq)
    (nonempty : stages ≠ []) (presented : (chainOut request stages).req = true) :
    chainOut following (chainNext request false false stages) = chainOut request stages := by
  induction stages generalizing request following with
  | nil => exact absurd rfl nonempty
  | cons held rest ih =>
    cases rest with
    | nil => exact sngregNext_stalled request held presented
    | cons second others =>
      have behind := ih held (sngregNext request held (chainGnt held false (second :: others)) false)
        (by simp) presented
      exact behind

/-! ## Runs of the delay line -/

structure DelayIn where
  request : ObiReq
  gntIn : Bool

/-- The delay line with `NDELAY = n + 1` and `clear_pipeline = 0`. -/
def delayLine (n : Nat) : Synchronous.Machine (ObiPipelinedDelay (n + 1)) DelayIn where
  init := .fill (n + 1) .zero
  next line inp := line.next inp.request inp.gntIn false

namespace ObiPipelinedDelay
variable {depth : Nat}

def held (line : ObiPipelinedDelay depth) : List ObiReq := chainHeld line.stages

theorem held_length_le (line : ObiPipelinedDelay depth) : line.held.length ≤ depth :=
  (chainHeld_length_le line.stages).trans line.length_eq.le

theorem held_fill_zero (depth : Nat) : (fill depth .zero).held = [] := by
  change chainHeld (List.replicate depth .zero) = []
  induction depth with
  | zero => rfl
  | succ depth ih =>
    rw [List.replicate_succ, chainHeld, ih]
    rfl

def accepted (line : ObiPipelinedDelay depth) (inp : DelayIn) : Option ObiReq :=
  transfer inp.request (line.gntO inp.request inp.gntIn)

def delivered (line : ObiPipelinedDelay depth) (inp : DelayIn) : Option ObiReq :=
  transfer (line.reqO inp.request) inp.gntIn

theorem held_length_next (line : ObiPipelinedDelay (depth + 1)) (request : ObiReq) (gntIn : Bool) :
    (line.head.req && gntIn).toNat + (line.next request gntIn false).held.length =
      line.held.length + (request.req && line.gntO request gntIn).toNat := by
  have passes := congrArg List.length (chain_passes request gntIn line.stages)
  rw [List.length_append, List.length_append, transfer_length, transfer_length] at passes
  rw [← line.reqO_eq_head request]
  exact passes.symm

end ObiPipelinedDelay

/-- For every depth, every input stream and every pattern of downstream grants:
what an empty line has accepted is what it has delivered, then what it holds. -/
theorem delay_line_is_fifo (n : Nat) (start : ObiPipelinedDelay (n + 1))
    (empty : start.held = []) (inputs : Nat → DelayIn) (cycle : Nat) :
    let run := (delayLine n).runFrom start inputs
    carried (fun index => (run index).accepted (inputs index)) cycle =
        carried (fun index => (run index).delivered (inputs index)) cycle ++ (run cycle).held ∧
      (run cycle).held.length ≤ n + 1 ∧
      (((run cycle).reqO (inputs cycle).request).req = true → (inputs cycle).gntIn = false →
        (run (cycle + 1)).reqO (inputs (cycle + 1)).request =
          (run cycle).reqO (inputs cycle).request) := by
  intro run
  refine ⟨?_, (run cycle).held_length_le, ?_⟩
  · apply carried_eq_of_passes empty
    intro index
    exact chain_passes (inputs index).request (inputs index).gntIn (run index).stages
  · intro presented stalled
    have step : (run (cycle + 1)).stages =
        chainNext (inputs cycle).request (inputs cycle).gntIn false (run cycle).stages := rfl
    unfold ObiPipelinedDelay.reqO
    rw [step, stalled]
    exact chainOut_stalled _ _ _ (run cycle).stages_ne_nil presented

/-- Two requests sent into a line of two stages whose output is never granted. -/
theorem stalled_line_is_fifo :
    let request : ObiReq := ⟨true, false, 0b1111, 0x100, 0⟩
    let run := (delayLine 1).runFrom (.fill 2 .zero) fun _ => ⟨request, false⟩
    carried (fun index => (run index).accepted ⟨request, false⟩) 3 = [request, request] ∧
      carried (fun index => (run index).delivered ⟨request, false⟩) 3 = [] ∧
      (run 3).held = [request, request] := by
  intro request run
  have fifo := delay_line_is_fifo 1 (.fill 2 .zero) rfl (fun _ => ⟨request, false⟩) 3
  have delivered : carried (fun index => (run index).delivered ⟨request, false⟩) 3 = [] := rfl
  have held : (run 3).held = [request, request] := rfl
  refine ⟨?_, delivered, held⟩
  rw [fifo.1]
  exact held

end Eros
