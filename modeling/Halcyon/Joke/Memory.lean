import Halcyon.Joke.Effect
import Mathlib.Algebra.Order.BigOperators.Group.List

/-!
# Memory accounting

The memory tracker (`VM/MemoryInfo.cs`) keeps one number, `MemoryUsed`, and every store,
initialiser, call, return, event and state change adjusts it.  Here the number is compared with
what the script really holds: `heldSize` is the size of all variables, and of all frames with
their locals, computed afresh from the state and without a bound.

The adjustments are right (`Accounts`): whatever happens, `MemoryUsed` stays equal to the base size
plus `heldSize`, as numbers modulo `2 ^ 32`.  They are made in the arithmetic of `int` however, and
the check against `MAX_MEMORY` comes after the addition.  A single value can be large enough for
the sum to pass `2 ^ 31` and become negative, and then the check lets it through.

The operand stack is not counted at all, although the tracker has a method for it
(`OperandStackPush`).  `CompiledScript.adds` is what an event adds to the memory of a script when
the operand stack is charged as well; while that stays within the maximum, so does everything the
script holds.
-/

namespace Halcyon.Joke

open Halcyon.Lib Halcyon.Lib.Transition

variable {F : Type}

/-! ## The arithmetic of `int` -/

lemma int32_emod (i : Int) : int32 i % 4294967296 = i % 4294967296 := by
  rw [int32, BitVec.toInt_ofInt]
  exact Int.bmod_emod

lemma int32_range (i : Int) : -2147483648 ≤ int32 i ∧ int32 i < 2147483648 := by
  have hle := BitVec.le_toInt (BitVec.ofInt 32 i)
  have hlt := BitVec.toInt_lt (x := BitVec.ofInt 32 i)
  rw [int32]
  omega

lemma int32_congr {i j : Int} (h : i % 4294967296 = j % 4294967296) : int32 i = int32 j := by
  have hi := int32_emod i
  have hj := int32_emod j
  have hi' := int32_range i
  have hj' := int32_range j
  omega

lemma int32_eq_self {i : Int} (hle : -2147483648 ≤ i) (hlt : i < 2147483648) : int32 i = i := by
  have hi := int32_emod i
  have hi' := int32_range i
  omega

namespace RuntimeState

/-! ## What a script holds -/

/-- The size of a variable, as a number without bound. -/
def varSize : Option (Value F) → Int
  | none => 0
  | some v => v.memSize

/-- The size of some variables. -/
def varsSize (vars : List (Option (Value F))) : Int :=
  (vars.map varSize).sum

/-- The size of some values. -/
def valuesSize (vs : List (Value F)) : Int :=
  (vs.map fun v => (v.memSize : Int)).sum

/-- The size of the frames of a call stack. -/
def framesSize (calls : List (StackFrame F)) : Int :=
  (calls.map fun f => varsSize f.locals + StackFrame.memSize).sum

/-- The size of all variables, and of all frames. -/
def heldSize (s : RuntimeState F) : Int :=
  varsSize s.globals + framesSize s.calls

/-- The size of the variable that a slot refers to. -/
def sizeAt (r : VarRef) (s : RuntimeState F) : Int :=
  match s.readVar r with
  | .ok o => varSize o
  | .error _ => 0

lemma varSize_nonneg (o : Option (Value F)) : 0 ≤ varSize o := by
  cases o <;> simp [varSize]

lemma varsSize_nonneg (vars : List (Option (Value F))) : 0 ≤ varsSize vars :=
  List.sum_nonneg (by simpa using fun o _ => varSize_nonneg o)

lemma valuesSize_nonneg (vs : List (Value F)) : 0 ≤ valuesSize vs :=
  List.sum_nonneg (by simp)

lemma framesSize_nonneg (calls : List (StackFrame F)) : 0 ≤ framesSize calls := by
  refine List.sum_nonneg ?_
  simp only [List.mem_map, forall_exists_index, and_imp, forall_apply_eq_imp_iff₂]
  intro f _
  have := varsSize_nonneg f.locals
  omega

lemma heldSize_nonneg (s : RuntimeState F) : 0 ≤ s.heldSize :=
  Int.add_nonneg (varsSize_nonneg _) (framesSize_nonneg _)

lemma varsSize_set {vars : List (Option (Value F))} {i : Nat} {old : Option (Value F)}
    (h : vars[i]? = some old) (new : Option (Value F)) :
    varsSize (vars.set i new) = varsSize vars + (varSize new - varSize old) := by
  obtain ⟨hlt, hget⟩ := List.getElem?_eq_some_iff.mp h
  rw [varsSize, List.map_set, List.sum_set']
  simp only [List.length_map, hlt, dite_true, List.getElem_map, hget, varsSize]
  omega

lemma framesSize_cons (f : StackFrame F) (fs : List (StackFrame F)) :
    framesSize (f :: fs) = varsSize f.locals + StackFrame.memSize + framesSize fs := by
  simp [framesSize]

variable {s s' : RuntimeState F}

/-- A write changes the size by that of the one variable. -/
lemma heldSize_writeVar {r : VarRef} {old : Option (Value F)} (h : s.readVar r = .ok old)
    (v : Value F) : (s.writeVar r v).heldSize = s.heldSize + (v.memSize - varSize old) := by
  obtain ⟨vars, hvars, -, hget⟩ := readVar_eq_ok.mp h
  have hset := varsSize_set hget (some v)
  obtain ⟨isGlobal, index⟩ := r
  cases isGlobal with
  | true =>
    obtain rfl : s.globals = vars := by simpa [varList] using hvars
    simp only [heldSize, writeVar, if_true, hset, varSize]
    omega
  | false =>
    rcases hc : s.calls with - | ⟨f, fs⟩
    · simp [varList, hc] at hvars
    · obtain rfl : f.locals = vars := by simpa [varList, hc] using hvars
      simp only [heldSize, writeVar, hc, framesSize_cons, hset, varSize, Bool.false_eq_true,
        if_false]
      omega

lemma memoryUsed_writeVar (r : VarRef) (v : Value F) :
    (s.writeVar r v).memoryUsed = s.memoryUsed := by
  unfold writeVar
  split
  · rfl
  · split <;> rfl

/-! ## The tracker computes modulo `2 ^ 32` -/

lemma slotSize_emod (o : Option (Value F)) :
    slotSize o % 4294967296 = varSize o % 4294967296 := by
  cases o with
  | none => rfl
  | some v => exact int32_emod _

lemma frameSize_emod (f : StackFrame F) :
    frameSize f % 4294967296 = (varsSize f.locals + StackFrame.memSize) % 4294967296 := by
  have hsum : ∀ vars : List (Option (Value F)),
      (vars.map slotSize).sum % 4294967296 = varsSize vars % 4294967296 := by
    intro vars
    induction vars with
    | nil => rfl
    | cons o vars ih =>
      have ho := slotSize_emod o
      simp only [varsSize, List.map_cons, List.sum_cons] at ih ⊢
      omega
  have hlocals := hsum f.locals
  rw [frameSize]
  omega

/-- A step adjusts the counter to what the script holds besides `base`, and it holds at most
`growth` more than before.  An increase is checked against the maximum. -/
structure Accounts (base growth : Int) (s s' : RuntimeState F) : Prop where
  exact : s.memoryUsed = int32 (base + s.heldSize) → s'.memoryUsed = int32 (base + s'.heldSize)
  grows : s'.heldSize ≤ s.heldSize + growth
  checked : s'.heldSize ≤ s.heldSize ∨ s'.memoryUsed ≤ maxMemory

namespace Accounts

variable {base : Int}

lemma of_eq (hused : s'.memoryUsed = s.memoryUsed) (hheld : s'.heldSize = s.heldSize) :
    Accounts base 0 s s' :=
  ⟨fun h => by rw [hused, h, hheld], by omega, .inl hheld.le⟩

lemma replaceStored {old : Option (Value F)} {new : Value F}
    (h : s.replaceStored old (some new) = .ok s') {t : RuntimeState F}
    (hused : s.memoryUsed = t.memoryUsed)
    (hheld : s.heldSize = t.heldSize + (new.memSize - varSize old)) :
    Accounts base (new.memSize - varSize old) t s' := by
  obtain ⟨rfl, hmax⟩ := checkMemory_eq_ok h
  refine ⟨fun ht => int32_congr ?_, hheld.le, .inr hmax⟩
  have hbefore := int32_emod (base + t.heldSize)
  have hold := slotSize_emod old
  have hnew := slotSize_emod (some new)
  simp only [heldSize, varSize] at *
  omega

lemma addCall {f : StackFrame F} (h : s.addCall f = .ok s') {t : RuntimeState F}
    (hused : s.memoryUsed = t.memoryUsed) (hglobals : s.globals = t.globals)
    (hcalls : s.calls = f :: t.calls) :
    Accounts base (varsSize f.locals + StackFrame.memSize) t s' := by
  obtain ⟨rfl, hmax⟩ := checkMemory_eq_ok h
  have hheld : s.heldSize = t.heldSize + (varsSize f.locals + StackFrame.memSize) := by
    rw [heldSize, heldSize, hglobals, hcalls, framesSize_cons]
    omega
  refine ⟨fun ht => int32_congr ?_, hheld.le, .inr hmax⟩
  have hbefore := int32_emod (base + t.heldSize)
  have hframe := frameSize_emod f
  simp only [heldSize] at *
  omega

lemma completeCall {f : StackFrame F} (hcalls : s.calls = f :: s'.calls)
    (hglobals : s'.globals = s.globals) (hused : s'.memoryUsed = int32 (s.memoryUsed - frameSize f)) :
    Accounts base 0 s s' := by
  have hheld : s.heldSize = s'.heldSize + (varsSize f.locals + StackFrame.memSize) := by
    rw [heldSize, heldSize, hglobals, hcalls, framesSize_cons]
    omega
  have hf := varsSize_nonneg f.locals
  refine ⟨fun hs => ?_, by omega, .inl (by omega)⟩
  rw [hused]
  refine int32_congr ?_
  have hbefore := int32_emod (base + s.heldSize)
  have hframe := frameSize_emod f
  omega

end Accounts

/-- Giving back frames one by one. -/
lemma memoryUsed_foldl_completeCall (fs : List (StackFrame F)) {s : RuntimeState F} {i : Int}
    (h : s.memoryUsed = int32 i) :
    (fs.foldl (fun t f => t.completeCall f) s).memoryUsed = int32 (i - framesSize fs) := by
  induction fs generalizing s i with
  | nil => simpa [framesSize] using h
  | cons f fs ih =>
    have hf : (s.completeCall f).memoryUsed =
        int32 (i - (varsSize f.locals + StackFrame.memSize)) := by
      refine int32_congr ?_
      have hi := int32_emod i
      have hframe := frameSize_emod f
      omega
    rw [List.foldl_cons, ih hf, framesSize_cons]
    congr 1
    omega

lemma globals_foldl_completeCall (fs : List (StackFrame F)) (s : RuntimeState F) :
    (fs.foldl (fun t f => t.completeCall f) s).globals = s.globals := by
  induction fs generalizing s with
  | nil => rfl
  | cons f fs ih => exact ih _

lemma Accounts.changeState {base : Int} (state : Nat) (s : RuntimeState F) :
    Accounts base 0 s (s.changeState state) := by
  have hheld : (s.changeState state).heldSize = s.heldSize - framesSize s.calls := by
    simp [heldSize, RuntimeState.changeState, stateChangePrep, globals_foldl_completeCall,
      framesSize]
  have hframes := framesSize_nonneg s.calls
  refine ⟨fun h => ?_, by omega, .inl (by omega)⟩
  have hused := memoryUsed_foldl_completeCall s.calls h
  rw [hheld, ← Int.add_sub_assoc]
  exact hused

end RuntimeState

/-! ## The steps of a run -/

open RuntimeState

section Steps

variable [FloatArith F]

/-- What an action is about to add to the variables and frames of a script. -/
def Action.growth (a : Action F) (s : RuntimeState F) : Int :=
  match a with
  | .call fi => valuesSize (s.operands.take fi.numberOfArguments) + StackFrame.memSize
  | a =>
    match a.stored s with
    | some (r, v) => v.memSize - s.sizeAt r
    | none => 0

/-- What an event of a run is about to add to the variables and frames of a script. -/
def CompiledScript.growth (sc : CompiledScript F) (s : RuntimeState F) : RunEvent F → Int
  | .tick _ =>
    match sc.actionAt s.ip with
    | .ok (a, _) => a.growth s
    | .error _ => 0
  | .deliver _ args => valuesSize args + StackFrame.memSize
  | _ => 0

variable {a : Action F} {s : RuntimeState F}

omit [FloatArith F] in
lemma Action.growth_of_stored {r : VarRef} {v : Value F} {old : Option (Value F)}
    (h : a.stored s = some (r, v)) (hr : s.readVar r = .ok old) :
    a.growth s = v.memSize - varSize old := by
  have hsize : s.sizeAt r = varSize old := by rw [sizeAt, hr]
  cases a <;> simp_all [growth, stored]

omit [FloatArith F] in
lemma Action.growth_eq_zero (h : a.stored s = none) (hc : a.isLocal = true) : a.growth s = 0 := by
  cases a <;> simp_all [growth, stored, isLocal]

omit [FloatArith F] in
lemma varsSize_args (vs : List (Value F)) (n : Nat) :
    varsSize (vs.map some ++ List.replicate n none) = valuesSize vs := by
  simp [varsSize, valuesSize, varSize, Function.comp_def]

omit [FloatArith F] in
lemma valuesSize_reverse (vs : List (Value F)) : valuesSize vs.reverse = valuesSize vs := by
  simp [valuesSize]

variable {s' : RuntimeState F}

/-- Every action keeps the account. -/
theorem Action.accounts {shim : Shim F} (h : a.exec shim.toHost s = .ok s') (base : Int) :
    Accounts base (a.growth s) s s' := by
  cases exec_effect h with
  | stack ip status hs hc =>
    rw [growth_eq_zero hs hc]
    exact .of_eq rfl rfl
  | @write _ r old new hr hsize hs hc =>
    rw [growth_eq_zero hs hc]
    refine .of_eq (memoryUsed_writeVar r new) ?_
    have hheld := heldSize_writeVar hr new
    rw [varSize, hsize, Int.sub_self, Int.add_zero] at hheld
    exact hheld
  | charge hs hr hs' =>
    rw [growth_of_stored hs hr]
    exact .replaceStored hs' (memoryUsed_writeVar _ _) (heldSize_writeVar hr _)
  | @call fi hn _ hs' =>
    have haccounts : Accounts base _ s s' := .addCall hs' rfl rfl rfl
    rwa [newFrame, varsSize_args, valuesSize_reverse] at haccounts
  | ret status hf => exact .completeCall hf rfl rfl
  | syscall h =>
    have heff := shim.syscall_effect h
    refine .of_eq heff.memoryUsed ?_
    rw [heldSize, heldSize, heff.globals, heff.calls]
  | stateChg h =>
    obtain ⟨state, rfl⟩ := shim.onStateChg_eq h
    exact Accounts.changeState state s

variable {sc : CompiledScript F}

omit [FloatArith F] in
lemma start_eq_ok (h : sc.start = .ok s) :
    s = sc.initial ∧ sc.baseMemorySize ≤ maxMemory :=
  checkMemory_eq_ok h

omit [FloatArith F] in
lemma baseMemorySize_range (sc : CompiledScript F) :
    -2147483648 ≤ sc.baseMemorySize ∧ sc.baseMemorySize < 2147483648 :=
  int32_range _

omit [FloatArith F] in
lemma heldSize_initial (sc : CompiledScript F) : sc.initial.heldSize = 0 := by
  simp [heldSize, CompiledScript.initial, varsSize, framesSize, varSize]

omit [FloatArith F] in
lemma accounts_doEvent {base : Int} {info : EventInfo} {args : List (Value F)}
    (h : s.doEvent info args = .ok s') :
    Accounts base (valuesSize args + StackFrame.memSize) s s' := by
  simp only [doEvent] at h
  split at h
  · have haccounts : Accounts base _ s s' := .addCall h rfl rfl rfl
    rwa [varsSize_args] at haccounts
  · simp at h

omit [FloatArith F] in
lemma operands_doEvent {info : EventInfo} {args : List (Value F)}
    (h : s.doEvent info args = .ok s') : s'.operands = s.operands := by
  simp only [doEvent] at h
  split at h
  · obtain ⟨rfl, -⟩ := checkMemory_eq_ok h
    rfl
  · simp at h

/-- Every event of a run keeps the account. -/
theorem step_accounts {e : RunEvent F} (h : sc.step s e = some s') :
    Accounts sc.baseMemorySize (sc.growth s e) s s' := by
  cases e with
  | tick shim =>
    obtain ⟨⟨a, next⟩, ha, hexec⟩ := bind_eq_ok.mp (toOption_eq_some.mp h)
    have haccounts := Action.accounts hexec sc.baseMemorySize
    have hgrowth : sc.growth s (.tick shim) = a.growth { s with ip := next } := by
      simp only [CompiledScript.growth, ha]
      rfl
    rw [hgrowth]
    exact ⟨haccounts.exact, haccounts.grows, haccounts.checked⟩
  | deliver eventType args =>
    obtain ⟨info, hinfo, h⟩ := Option.bind_eq_some_iff.mp h
    exact accounts_doEvent (toOption_eq_some.mp h)
  | changeState state =>
    obtain rfl := Option.some.inj h
    exact .changeState state s
  | resume result =>
    obtain rfl := Option.some.inj h
    exact .of_eq rfl rfl
  | reset =>
    obtain ⟨rfl, hmax⟩ := start_eq_ok (toOption_eq_some.mp h)
    have hrange := baseMemorySize_range sc
    have hinitial := heldSize_initial sc
    have hheld := heldSize_nonneg s
    refine ⟨fun _ => ?_, ?_, .inl (by omega)⟩
    · rw [hinitial, Int.add_zero, int32_eq_self hrange.1 hrange.2]
      rfl
    · simp only [CompiledScript.growth]
      omega

/-- The counter is exact and within the maximum. -/
structure Exact (sc : CompiledScript F) (s : RuntimeState F) : Prop where
  used : s.memoryUsed = sc.baseMemorySize + s.heldSize
  max : s.memoryUsed ≤ maxMemory

omit [FloatArith F] in
lemma exact_start (h : sc.start = .ok s) :
    Exact sc s := by
  obtain ⟨rfl, hmax⟩ := start_eq_ok h
  refine ⟨?_, hmax⟩
  rw [heldSize_initial, Int.add_zero]
  rfl

/-- A step whose additions stay in the range of `int` keeps the counter exact. -/
lemma exact_step {e : RunEvent F} (hs : Exact sc s)
    (hgrowth : s.memoryUsed + sc.growth s e < 2 ^ 31) (h : sc.step s e = some s') :
    Exact sc s' := by
  obtain ⟨hexact, hgrows, hchecked⟩ := step_accounts h
  obtain ⟨hused, hmax⟩ := hs
  have hbase := baseMemorySize_range sc
  have hheld := heldSize_nonneg s
  have hheld' := heldSize_nonneg s'
  have hM : maxMemory = 131072 := rfl
  have hbefore : s.memoryUsed = int32 (sc.baseMemorySize + s.heldSize) := by
    rw [int32_eq_self (by omega) (by omega)]
    exact hused
  have hused' : s'.memoryUsed = sc.baseMemorySize + s'.heldSize := by
    rw [hexact hbefore]
    apply int32_eq_self
    · omega
    · omega
  refine ⟨hused', ?_⟩
  rcases hchecked with hle | hle
  · omega
  · exact hle

/-- In a run in which no store, call or event carries the counter past `2 ^ 31`, the counter is
exact and within the maximum. -/
theorem memoryUsed_eq_of_meets {sc : CompiledScript F} {s₀ s : RuntimeState F}
    {es : List (RunEvent F)} (hstart : sc.start = .ok s₀) (hrun : run sc.step s₀ es = some s)
    (hmeets : Meets sc.step (fun t e => t.memoryUsed + sc.growth t e < 2 ^ 31) s₀ es) :
    s.memoryUsed = sc.baseMemorySize + varsSize s.globals + framesSize s.calls ∧
      s.memoryUsed ≤ maxMemory := by
  have hexact : Exact sc s :=
    invariant_of_meets (fun _ _ _ => exact_step) hrun hmeets (exact_start hstart)
  refine ⟨?_, hexact.max⟩
  rw [hexact.used, heldSize, Int.add_assoc]

end Steps

/-! ## A string that wraps the counter -/

/-- The code of `string g = f("a...a");` with a system function `f`. -/
def storeAnswer : CompiledScript Unit where
  byteCode := OpCode.sconst.toByte :: intBytes 0 ++ OpCode.syscall.toByte :: intBytes 0 ++
    OpCode.gstore.toByte :: intBytes 0 ++ [OpCode.halt.toByte]
  constPool := [.value (.string "aaaaaaaaaaaaaaaaaaaaaaaaaaaaaaaaaaaaaaaa")]
  stateEvents := []
  numGlobals := 1

/-- The answer of the system function is stored after three ticks. -/
lemma run_storeAnswer {t : String}
    (h : int32 (100 + slotSize (some (Value.string (F := Unit) t))) ≤ maxMemory) :
    run storeAnswer.step storeAnswer.initial (List.replicate 3 (.tick (.answering (.string t)))) =
      some { storeAnswer.initial with
        ip := 15
        globals := [some (.string t)]
        memoryUsed := int32 (100 + slotSize (some (Value.string (F := Unit) t))) } := by
  have hbase : storeAnswer.initial.memoryUsed = 100 := by decide
  let asked : RuntimeState Unit := { storeAnswer.initial with
    ip := 5
    operands := [.string "aaaaaaaaaaaaaaaaaaaaaaaaaaaaaaaaaaaaaaaa"] }
  let answered : RuntimeState Unit :=
    { storeAnswer.initial with ip := 10, operands := [.string t] }
  refine run_cons_eq_some.mpr ⟨asked, rfl, run_cons_eq_some.mpr ⟨answered, rfl, ?_⟩⟩
  refine run_cons_eq_some.mpr ⟨_, toOption_eq_some.mpr ?_, rfl⟩
  have hat : storeAnswer.actionAt answered.ip = .ok (.store ⟨true, 0⟩, 15) := rfl
  have hread : readVar ⟨true, 0⟩ { answered with ip := 15 } = .ok none := rfl
  have hpop : pop { answered with ip := 15 } =
      .ok (.string t, { storeAnswer.initial with ip := 15 }) := rfl
  rw [CompiledScript.tick, hat]
  simp only [ok_bind, Action.exec, Action.execStore, hread, hpop]
  rw [replaceStored, memoryUsed_writeVar, hbase, slotSize, Int.sub_zero]
  exact if_neg (by simpa using h)

lemma exists_utf16Length (n : Nat) : ∃ t, Value.utf16Length t = n :=
  ⟨String.ofList (List.replicate n 'a'), by simp [Value.utf16Length]⟩

/-- The condition is met by a short answer. -/
theorem memoryUsed_eq_of_short_answer :
    ∃ s, run storeAnswer.step storeAnswer.initial
        (List.replicate 3 (.tick (.answering (.string "b")))) = some s ∧
      s.memoryUsed = 106 ∧
      s.memoryUsed = storeAnswer.baseMemorySize + varsSize s.globals + framesSize s.calls ∧
      s.memoryUsed ≤ maxMemory := by
  have hrun := run_storeAnswer (t := "b") (by decide)
  refine ⟨_, hrun, by decide, memoryUsed_eq_of_meets rfl hrun ?_⟩
  refine .cons rfl (by decide) (.cons rfl (by decide) ?_)
  exact .cons rfl (by decide) trivial

/-- A string of 1073741780 characters, less than the runtime's limit, takes the counter past
`2 ^ 31`: the counter is negative and the check succeeds. -/
theorem memoryUsed_ne_of_long_answer :
    ∃ (t : String) (s : RuntimeState Unit), Value.utf16Length t = 1073741780 ∧
      storeAnswer.start = .ok storeAnswer.initial ∧
      run storeAnswer.step storeAnswer.initial
        (List.replicate 3 (.tick (.answering (.string t)))) = some s ∧
      s.memoryUsed = -2147483632 ∧
      s.memoryUsed ≠ storeAnswer.baseMemorySize + varsSize s.globals + framesSize s.calls := by
  obtain ⟨t, ht⟩ := exists_utf16Length 1073741780
  have hsize : slotSize (some (Value.string (F := Unit) t)) = 2147483564 := by
    rw [slotSize, Value.memSize, ht]
    exact int32_eq_self (by omega) (by omega)
  have hused : int32 (100 + slotSize (some (Value.string (F := Unit) t))) = -2147483632 := by
    rw [hsize]
    decide
  refine ⟨t, _, ht, rfl, run_storeAnswer (by rw [hused]; decide), hused, ?_⟩
  have hbase : storeAnswer.baseMemorySize = 100 := by decide
  have hvars := varsSize_nonneg [some (Value.string (F := Unit) t)]
  have hframes := framesSize_nonneg storeAnswer.initial.calls
  rw [hused, hbase]
  change (-2147483632 : Int) ≠
    100 + varsSize [some (Value.string t)] + framesSize storeAnswer.initial.calls
  omega

/-! ## The operand stack -/

section Operands

variable [FloatArith F]

/-- The size of all values a script holds: in globals, in the locals of all frames, and on the
operand stack. -/
def RuntimeState.totalSize (s : RuntimeState F) : Int :=
  varsSize s.globals + (s.calls.map fun f => varsSize f.locals).sum + valuesSize s.operands

/-- What an action is about to add to variables, frames and operands together. -/
def Action.adds (host : Host F) (a : Action F) (s : RuntimeState F) : Int :=
  match a with
  | .syscall i =>
    match host.syscall i s with
    | .ok s' => valuesSize s'.operands - valuesSize s.operands
    | .error _ => 0
  | a =>
    a.growth s + valuesSize (a.pushed s).toList - valuesSize (s.operands.take a.taken)

/-- What an event of a run is about to add to variables, frames and operands together. -/
def CompiledScript.adds (sc : CompiledScript F) (s : RuntimeState F) : RunEvent F → Int
  | .tick shim =>
    match sc.actionAt s.ip with
    | .ok (a, next) => a.adds shim.toHost { s with ip := next }
    | .error _ => 0
  | .deliver _ args => valuesSize args + StackFrame.memSize
  | .resume result => valuesSize result.toList
  | _ => 0

omit [FloatArith F] in
lemma valuesSize_append (vs ws : List (Value F)) :
    valuesSize (vs ++ ws) = valuesSize vs + valuesSize ws := by
  simp [valuesSize]

omit [FloatArith F] in
lemma valuesSize_take_drop (n : Nat) (vs : List (Value F)) :
    valuesSize (vs.take n) + valuesSize (vs.drop n) = valuesSize vs := by
  rw [← valuesSize_append, List.take_append_drop]

variable {s : RuntimeState F}

lemma Action.adds_of_pushed {host : Host F} {a : Action F} (h : ∀ i, a ≠ .syscall i) :
    valuesSize (a.operandsAfter s) + a.growth s = valuesSize s.operands + a.adds host s := by
  have hsplit := valuesSize_take_drop a.taken s.operands
  have hafter := valuesSize_append (a.pushed s).toList (s.operands.drop a.taken)
  cases a with
  | syscall i => exact absurd rfl (h i)
  | _ =>
    simp only [operandsAfter, adds] at hafter hsplit ⊢
    omega

/-- What becomes of the operand stack is within what the action adds. -/
lemma Action.operands_le_adds {shim : Shim F} {a : Action F} {s' : RuntimeState F}
    (h : a.exec shim.toHost s = .ok s') :
    valuesSize s'.operands + a.growth s ≤ valuesSize s.operands + a.adds shim.toHost s := by
  cases exec_effect h with
  | stack ip status hs hc => exact (adds_of_pushed (by rintro i rfl; simp [isLocal] at hc)).le
  | write hr hsize hs hc => exact (adds_of_pushed (by rintro i rfl; simp [isLocal] at hc)).le
  | charge hs hr hs' =>
    obtain ⟨rfl, -⟩ := checkMemory_eq_ok hs'
    exact (adds_of_pushed (by rintro i rfl; simp [stored] at hs)).le
  | call hn hs' =>
    obtain ⟨rfl, -⟩ := checkMemory_eq_ok hs'
    exact (adds_of_pushed (by simp)).le
  | ret status hf => exact (adds_of_pushed (a := .ret) (by simp)).le
  | syscall hs' =>
    simp only [growth, stored, adds, hs']
    omega
  | stateChg hs' =>
    obtain ⟨state, rfl⟩ := shim.onStateChg_eq hs'
    have hops := valuesSize_nonneg s.operands
    simp only [growth, stored, adds, pushed, taken, changeState, stateChangePrep, valuesSize,
      Option.toList_none, List.take_zero, List.map_nil, List.sum_nil] at hops ⊢
    omega

lemma operands_step {sc : CompiledScript F} {s' : RuntimeState F} {e : RunEvent F}
    (h : sc.step s e = some s') :
    valuesSize s'.operands + sc.growth s e ≤ valuesSize s.operands + sc.adds s e := by
  have hops := valuesSize_nonneg s.operands
  cases e with
  | tick shim =>
    obtain ⟨⟨a, next⟩, ha, hexec⟩ := bind_eq_ok.mp (toOption_eq_some.mp h)
    have hle := Action.operands_le_adds hexec
    simp only [CompiledScript.growth, CompiledScript.adds, ha]
    exact hle
  | deliver eventType args =>
    obtain ⟨info, hinfo, h⟩ := Option.bind_eq_some_iff.mp h
    rw [operands_doEvent (toOption_eq_some.mp h)]
    rfl
  | changeState state =>
    obtain rfl := Option.some.inj h
    simpa [changeState, stateChangePrep, CompiledScript.growth, CompiledScript.adds, valuesSize]
      using hops
  | resume result =>
    obtain rfl := Option.some.inj h
    simp only [valuesSize_append, CompiledScript.growth, CompiledScript.adds]
    omega
  | reset =>
    obtain ⟨rfl, -⟩ := start_eq_ok (toOption_eq_some.mp h)
    simpa [CompiledScript.initial, CompiledScript.growth, CompiledScript.adds, valuesSize]
      using hops

omit [FloatArith F] in
/-- All values together with the base size and the frames are what the counter would be if it
charged the operand stack. -/
lemma totalSize_le {sc : CompiledScript F} (hbase : 0 ≤ sc.baseMemorySize) (hs : Exact sc s) :
    s.totalSize ≤ s.memoryUsed + valuesSize s.operands := by
  have hlocals : (s.calls.map fun f => varsSize f.locals).sum ≤ framesSize s.calls := by
    refine List.sum_le_sum fun f _ => ?_
    omega
  have hused := hs.used
  simp only [totalSize, heldSize] at *
  omega

end Operands

/-! ## Two literals on the operand stack -/

/-- The code of `string g = "..." + "...";` with the same literal twice. -/
def concatLiterals (t : String) : CompiledScript Unit where
  byteCode := OpCode.sconst.toByte :: intBytes 0 ++ OpCode.sconst.toByte :: intBytes 0 ++
    OpCode.sconcat.toByte :: OpCode.gstore.toByte :: intBytes 0 ++ [OpCode.halt.toByte]
  constPool := [.value (.string t)]
  stateEvents := []
  numGlobals := 1

lemma baseMemorySize_concatLiterals {t : String} {n : Nat} (ht : Value.utf16Length t = n)
    (hn : n < 1000000) : (concatLiterals t).baseMemorySize = 21 + 2 * n := by
  have hbase : (concatLiterals t).baseMemorySize =
      int32 (17 + ((Value.memSize (F := Unit) (.string t) : Int) + 0)) := rfl
  rw [hbase, Value.memSize, ht, int32_eq_self (by omega) (by omega)]
  omega

end Halcyon.Joke
