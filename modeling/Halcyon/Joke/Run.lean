import Halcyon.Joke.Interpreter
import Halcyon.Lib.Transition

/-!
# Runs of an interpreter

What can happen to a loaded script besides its own ticks: an event is delivered to a handler of
the current state (`RuntimeState.DoEvent`), the script changes to another state, it resumes after
a sleep or a long system call, and it is reset (`Interpreter.Reset`).  The scheduler that decides
between these is not part of the repository, so a run is any list of them.

The system functions and the handler of the state change event are outside as well.  `Shim` is
what is assumed of them: a system call takes its arguments from the operand stack and may leave a
result there, and otherwise touches nothing that instructions work with; the handler of a state
change calls `StateChangePrep`, whose comment says it is there for that purpose, and sets the new
state.  A fault ends the run.
-/

namespace Halcyon.Joke

variable {F : Type}

/-- `RuntimeState.StateChangePrep`: every frame is given back to the memory tracker, and the
script waits with empty stacks. -/
def RuntimeState.stateChangePrep (s : RuntimeState F) : RuntimeState F :=
  { s.calls.foldl (fun t f => t.completeCall f) s with
    runState := .waiting, calls := [], operands := [] }

/-- A change to another state. -/
def RuntimeState.changeState (state : Nat) (s : RuntimeState F) : RuntimeState F :=
  { s.stateChangePrep with lslState := state }

/-- The effect of a system call: operands are taken off the stack, and a result may be pushed. -/
structure SyscallEffect (s s' : RuntimeState F) : Prop where
  ip : s'.ip = s.ip
  lslState : s'.lslState = s.lslState
  globals : s'.globals = s.globals
  calls : s'.calls = s.calls
  memoryUsed : s'.memoryUsed = s.memoryUsed
  operands : ∃ result : Option (Value F), ∃ rest, rest <:+ s.operands ∧
    s'.operands = result.toList ++ rest

/-- A host whose system calls and state changes do what they are there for. -/
structure Shim (F : Type) extends Host F where
  syscall_effect : ∀ {i s s'}, syscall i s = .ok s' → SyscallEffect s s'
  onStateChg_eq : ∀ {i s s'}, onStateChg i s = .ok s' → ∃ state, s' = s.changeState state

/-- A host on which every system function takes one argument and returns the given value. -/
def Shim.answering (v : Value F) : Shim F where
  syscall _ s :=
    match s.operands with
    | [] => .error .stackEmpty
    | _ :: rest => .ok { s with operands := v :: rest }
  onStateChg state s := .ok (s.changeState state)
  syscall_effect := by
    intro i s s' h
    split at h
    · simp at h
    · rename_i w rest ho
      obtain rfl := Except.ok.inj h
      exact ⟨rfl, rfl, rfl, rfl, rfl, some v, rest, ho ▸ List.suffix_cons w rest, rfl⟩
  onStateChg_eq h := ⟨_, (Except.ok.inj h).symm⟩

/-- The events of a run. -/
inductive RunEvent (F : Type)
  /-- One instruction, with what is outside the machine at that moment. -/
  | tick (shim : Shim F)
  | deliver (eventType : Nat) (args : List (Value F))
  | changeState (state : Nat)
  /-- The end of a sleep, or of a long system call, whose result is pushed. -/
  | resume (result : Option (Value F))
  | reset

namespace CompiledScript

variable [FloatArith F]

/-- The constructor of `Interpreter`, and `Interpreter.Reset`: the base size counts as used. -/
def start (sc : CompiledScript F) : Except Fault (RuntimeState F) :=
  sc.initial.checkMemory

/-- One event of a run. -/
def step (sc : CompiledScript F) (s : RuntimeState F) : RunEvent F → Option (RuntimeState F)
  | .tick shim => (sc.tick shim.toHost s).toOption
  | .deliver eventType args => do
    let info ← sc.findEvent s.lslState eventType
    (s.doEvent info args).toOption
  | .changeState state => some (s.changeState state)
  | .resume result =>
    some { s with operands := result.toList ++ s.operands, runState := .running }
  | .reset => sc.start.toOption

end CompiledScript

end Halcyon.Joke
