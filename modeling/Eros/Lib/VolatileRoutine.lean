import Eros.Lib.Rv32

/-!
# Routines of volatile accesses

A routine written in C shows on the bus as its volatile accesses and assembly
statements in program order; the instructions between them touch registers only.
An activation is what is left of the routine, the devices, and the assembly
statements it has executed, so that it can be cut between any two accesses.
-/

set_option autoImplicit false

namespace Volatile

open ByteMemory (Word Addr Write)
open Rv32 (Instr Bus)

/-- What is left to do; a load hands its word to the rest. -/
inductive Routine
  | ret
  | load (addr : Addr) (next : Word → Routine)
  | store (addr : Addr) (value : Word) (next : Routine)
  | asm (instr : Instr) (next : Routine)

/-- Whatever it loads, the routine makes no stores but allowed ones. -/
def Routine.Within (allowed : Write → Prop) : Routine → Prop
  | .ret => True
  | .load _ next => ∀ value, (next value).Within allowed
  | .store addr value next => allowed (addr, value) ∧ next.Within allowed
  | .asm _ next => next.Within allowed

structure Activation (σ : Type*) where
  routine : Routine
  dev : σ
  executed : List Instr

def call {σ : Type*} (routine : Routine) (dev : σ) : Activation σ := ⟨routine, dev, []⟩

section Runs
variable {σ : Type*} (bus : Bus σ)

/-- One access or assembly statement; a routine that has returned stays. -/
def step : Activation σ → Activation σ
  | ⟨.ret, dev, executed⟩ => ⟨.ret, dev, executed⟩
  | ⟨.load addr next, dev, executed⟩ => ⟨next (bus.load dev addr), dev, executed⟩
  | ⟨.store addr value next, dev, executed⟩ => ⟨next, bus.store dev addr value, executed⟩
  | ⟨.asm instr next, dev, executed⟩ => ⟨next, dev, executed ++ [instr]⟩

def run : Nat → Activation σ → Activation σ
  | 0, activation => activation
  | count + 1, activation => run count (step bus activation)

theorem run_add (first second : Nat) (activation : Activation σ) :
    run bus (first + second) activation = run bus second (run bus first activation) := by
  induction first generalizing activation with
  | zero => rw [Nat.zero_add, run]
  | succ first ih =>
    rw [Nat.succ_add]
    exact ih (step bus activation)

def finish : Routine → σ → List Instr → Activation σ
  | .ret, dev, executed => ⟨.ret, dev, executed⟩
  | .load addr next, dev, executed => finish (next (bus.load dev addr)) dev executed
  | .store addr value next, dev, executed => finish next (bus.store dev addr value) executed
  | .asm instr next, dev, executed => finish next dev (executed ++ [instr])

theorem finish_routine (routine : Routine) (dev : σ) (executed : List Instr) :
    (finish bus routine dev executed).routine = .ret := by
  induction routine generalizing dev executed with
  | ret => rfl
  | load addr next ih => exact ih _ _ _
  | store addr value next ih => exact ih _ _
  | asm instr next ih => exact ih _ _

theorem run_finish (routine : Routine) (dev : σ) (executed : List Instr) :
    ∃ count, run bus count ⟨routine, dev, executed⟩ = finish bus routine dev executed := by
  induction routine generalizing dev executed with
  | ret => exact ⟨0, rfl⟩
  | load addr next ih =>
    obtain ⟨count, reached⟩ := ih (bus.load dev addr) dev executed
    exact ⟨count + 1, reached⟩
  | store addr value next ih =>
    obtain ⟨count, reached⟩ := ih (bus.store dev addr value) executed
    exact ⟨count + 1, reached⟩
  | asm instr next ih =>
    obtain ⟨count, reached⟩ := ih dev (executed ++ [instr])
    exact ⟨count + 1, reached⟩

theorem finish_run (count : Nat) (activation : Activation σ) :
    finish bus (run bus count activation).routine (run bus count activation).dev
        (run bus count activation).executed =
      finish bus activation.routine activation.dev activation.executed := by
  induction count generalizing activation with
  | zero => rfl
  | succ count ih =>
    obtain ⟨routine, dev, executed⟩ := activation
    rw [run, ih]
    cases routine <;> rfl

theorem finish_of_returned {activation : Activation σ} (returned : activation.routine = .ret) :
    finish bus activation.routine activation.dev activation.executed = activation := by
  obtain ⟨routine, dev, executed⟩ := activation
  cases returned
  rfl

/-- A property of the return: every call returns, and in one state only. -/
theorem returns_iff (property : Activation σ → Prop) (activation : Activation σ) :
    (∃ count, (run bus count activation).routine = .ret ∧ property (run bus count activation)) ↔
      property (finish bus activation.routine activation.dev activation.executed) := by
  constructor
  · rintro ⟨count, returned, holds⟩
    rw [← finish_run bus count activation, finish_of_returned bus returned]
    exact holds
  · intro holds
    obtain ⟨count, reached⟩ := run_finish bus activation.routine activation.dev activation.executed
    refine ⟨count, ?_, ?_⟩
    · exact (congrArg Activation.routine reached).trans (finish_routine bus _ _ _)
    · exact reached ▸ holds

variable {bus} {allowed : Write → Prop} {holds : σ → Prop}

theorem step_within {activation : Activation σ} (within : activation.routine.Within allowed) :
    (step bus activation).routine.Within allowed := by
  obtain ⟨routine, dev, executed⟩ := activation
  cases routine with
  | ret => exact within
  | load addr next => exact within _
  | store addr value next => exact within.2
  | asm instr next => exact within

theorem step_preserves (kept : ∀ dev write, allowed write → holds dev →
      holds (bus.store dev write.1 write.2)) {activation : Activation σ}
    (within : activation.routine.Within allowed) (here : holds activation.dev) :
    holds (step bus activation).dev := by
  obtain ⟨routine, dev, executed⟩ := activation
  cases routine with
  | ret => exact here
  | load addr next => exact here
  | store addr value next => exact kept dev (addr, value) within.1 here
  | asm instr next => exact here

theorem run_within (count : Nat) {activation : Activation σ}
    (within : activation.routine.Within allowed) :
    (run bus count activation).routine.Within allowed := by
  induction count generalizing activation with
  | zero => exact within
  | succ count ih => exact ih (step_within within)

/-- What every allowed store keeps holds at every cut of the call. -/
theorem run_preserves (kept : ∀ dev write, allowed write → holds dev →
      holds (bus.store dev write.1 write.2)) (count : Nat) {activation : Activation σ}
    (within : activation.routine.Within allowed) (here : holds activation.dev) :
    holds (run bus count activation).dev := by
  induction count generalizing activation with
  | zero => exact here
  | succ count ih => exact ih (step_within within) (step_preserves kept within here)

end Runs

end Volatile
