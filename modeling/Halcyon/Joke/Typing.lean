import Halcyon.Lib.Path
import Halcyon.Joke.Asm

/-!
# Types of the instructions

The virtual machine does not check types, it casts and fails.  This module gives every
instruction a type: how the types of the operands on the stack change (`ActionTy`), relative to
a typing `Γ` of the variable slots.  A slot's type is a run-time type, so never `key`.

`OpCode.opType` is the part of the table for the actions that only compute on the stack; it is
read off the actions themselves, except for the four conversions that accept some objects only.

`ActionTy.exec` is what types are for.  In a state whose slots conform to `Γ` and whose topmost
operands have the types an action expects, the action ends in a state of the same kind, or it
stops with an arithmetic or out-of-memory fault, or it has read a variable that is still null.
-/

namespace Halcyon.Joke

open Halcyon.Lib

/-- The faults that are the script's own doing. -/
def Fault.Tolerated (e : Fault) : Prop := e = .arithmetic ∨ e = .outOfMemory

/-! ## Reading and writing variables -/

namespace RuntimeState

variable {F : Type} {s : RuntimeState F}

/-- A slot that can be read is in the bounds of its array. -/
lemma readVar_eq_ok {r : VarRef} {o : Option (Value F)} :
    s.readVar r = .ok o ↔
      ∃ vars, s.varList r.isGlobal = .ok vars ∧ 0 ≤ r.index ∧ vars[r.index.toNat]? = some o := by
  unfold readVar
  cases hv : s.varList r.isGlobal with
  | error e => simp [bind, Except.bind]
  | ok vars =>
    simp only [bind, Except.bind, Except.ok.injEq, exists_eq_left']
    split_ifs with hi
    · simp only [false_iff, not_and]
      omega
    · cases hg : vars[r.index.toNat]? with
      | none => simp
      | some v => simpa using fun _ => Int.not_lt.mp hi

/-- The array a slot is in after another slot, or the same one, was written. -/
lemma varList_writeVar {r : VarRef} {v : Value F} {g : Bool} {vars : List (Option (Value F))}
    (h : s.varList g = .ok vars) :
    (s.writeVar r v).varList g =
      .ok (if r.isGlobal = g then vars.set r.index.toNat (some v) else vars) := by
  obtain ⟨rg, ri⟩ := r
  cases rg <;> cases g <;> rcases hc : s.calls with - | ⟨f, fs⟩ <;>
    simp_all [varList, writeVar]

lemma readVar_writeVar {r r' : VarRef} {o : Option (Value F)} (v : Value F)
    (h : s.readVar r = .ok o) :
    (s.writeVar r v).readVar r' = if r' = r then .ok (some v) else s.readVar r' := by
  obtain ⟨vars, hv, hi, hg⟩ := readVar_eq_ok.mp h
  split_ifs with hr
  · subst hr
    refine readVar_eq_ok.mpr ⟨_, varList_writeVar hv, hi, ?_⟩
    obtain ⟨hlt, -⟩ := List.getElem?_eq_some_iff.mp hg
    simp [hlt]
  · unfold readVar
    cases hv' : s.varList r'.isGlobal with
    | error e =>
      have : (s.writeVar r v).varList r'.isGlobal = .error e := by
        obtain ⟨rg, ri⟩ := r
        obtain ⟨rg', ri'⟩ := r'
        cases rg <;> cases rg' <;> rcases hc : s.calls with - | ⟨f, fs⟩ <;>
          simp_all [varList, writeVar]
      rw [this]
    | ok vars' =>
      rw [varList_writeVar hv']
      simp only [bind, Except.bind]
      split_ifs with hi' hgl
      · rfl
      · -- the same array, so the indices differ
        have hne : r.index.toNat ≠ r'.index.toNat := by
          intro he
          apply hr
          obtain ⟨rg, ri⟩ := r
          obtain ⟨rg', ri'⟩ := r'
          simp only at *
          rw [VarRef.mk.injEq]
          exact ⟨hgl.symm, by omega⟩
        rw [List.getElem?_set_ne hne]
      · rfl

@[simp] lemma operands_writeVar (r : VarRef) (v : Value F) :
    (s.writeVar r v).operands = s.operands := by
  unfold writeVar
  split
  · rfl
  · split <;> rfl

lemma pop_cons {v : Value F} {vs : List (Value F)} (h : s.operands = v :: vs) :
    s.pop = .ok (v, { s with operands := vs }) := by
  simp [pop, h]

lemma popMany_append {vs rest : List (Value F)} :
    ∀ {s : RuntimeState F}, s.operands = vs ++ rest →
      s.popMany vs.length = .ok (vs.reverse, { s with operands := rest }) := by
  induction vs with
  | nil =>
    rintro ⟨_, _, _, _, _, _, _⟩ h
    simp only [List.nil_append] at h
    subst h
    rfl
  | cons v vs ih =>
    intro s h
    rw [List.cons_append] at h
    have ih' := @ih { s with operands := vs ++ rest } rfl
    simp only [List.length_cons, popMany, pop_cons h, ok_bind, ih', List.reverse_cons]

end RuntimeState

/-! ## Operand-stack actions -/

namespace OperandType

/-- Unboxing as this type succeeds on objects of the run-time type. -/
def accepts : OperandType → VarType → Bool
  | int, .integer | float, .float | string, .string | vector, .vector | quaternion, .rotation
  | list, .list => true
  | object, _ => true
  | _, _ => false

/-- The run-time type of a boxed result. -/
def varType : OperandType → VarType
  | int => .integer
  | float => .float
  | string => .string
  | vector => .vector
  | quaternion => .rotation
  | list => .list
  | object => .void

variable {F : Type}

lemma unbox_of_accepts {t : OperandType} {v : Value F} (h : t.accepts v.varType = true) :
    ∃ x, t.unbox v = .ok x := by
  cases t <;> cases v <;> simp_all [accepts, Value.varType, unbox]

lemma varType_box {t : OperandType} (ht : t ≠ object) (x : t.denote F) :
    (t.box x).varType = t.varType := by
  cases t <;> first | rfl | exact absurd rfl ht

end OperandType

/-- The types of the operands an opcode of the stack pops, topmost first, and of its result. -/
def OpCode.signature : OpCode → Option (List OperandType × OperandType)
  | .iadd | .isub | .imul | .idiv | .imod | .ibor | .iband | .ibxor | .irsh | .ilsh | .ilor
  | .iland | .ilt | .igt | .ilte | .igte | .ieq | .ineq => some ([.int, .int], .int)
  | .ineg | .ilnot | .ibunot => some ([.int], .int)
  | .fadd | .fsub | .fmul | .fdiv => some ([.float, .float], .float)
  | .flt | .fgt | .flte | .fgte | .feq | .fneq => some ([.float, .float], .int)
  | .fneg => some ([.float], .float)
  | .vadd | .vsub | .vcross => some ([.vector, .vector], .vector)
  | .vmul => some ([.vector, .vector], .float)
  | .veq | .vneq => some ([.vector, .vector], .int)
  | .vneg => some ([.vector], .vector)
  | .radd | .rsub | .rmul | .rdiv => some ([.quaternion, .quaternion], .quaternion)
  | .req | .rneq => some ([.quaternion, .quaternion], .int)
  | .rneg => some ([.quaternion], .quaternion)
  | .vrmul | .vrdiv => some ([.quaternion, .vector], .vector)
  | .vimul | .vidiv => some ([.int, .vector], .vector)
  | .vfmul | .vfdiv => some ([.float, .vector], .vector)
  | .sconcat => some ([.string, .string], .string)
  | .seq | .sneq => some ([.string, .string], .int)
  | .listPrepend => some ([.list, .object], .list)
  | .listAppend => some ([.object, .list], .list)
  | .leq | .lneq => some ([.list, .list], .int)
  | .icast | .booleval => some ([.object], .int)
  | .fcast => some ([.object], .float)
  | .scast => some ([.object], .string)
  | .vcast => some ([.object], .vector)
  | .rcast => some ([.object], .quaternion)
  | .lcast => some ([.object], .list)
  | .buildvec => some ([.float, .float, .float], .vector)
  | .buildrot => some ([.float, .float, .float, .float], .quaternion)
  | _ => none

/-- The run-time types an opcode's action has a branch for; it matters for the conversions. -/
def OpCode.converts : OpCode → VarType → Bool
  | .icast, t | .fcast, t => t == .integer || t == .float || t == .string
  | .vcast, t => t == .vector || t == .string
  | .rcast, t => t == .rotation || t == .string
  | _, _ => true

/-- The type of the result of an opcode of the stack on operands of the given types, if it
accepts them. -/
def OpCode.opType (op : OpCode) (ts : List VarType) : Option VarType :=
  match op.signature with
  | some (args, result) =>
    if args.length == ts.length && (args.zip ts).all (fun (a, t) => a.accepts t) &&
        ts.all op.converts then
      some result.varType
    else none
  | none => none

section StackOps

variable {F : Type} {s : RuntimeState F} {vs rest : List (Value F)}

/-- Unboxing a list of operands, without a stack. -/
def unboxAll : (ts : List OperandType) → List (Value F) → Except Fault (Unboxed F ts)
  | [], [] => .ok ()
  | t :: ts, v :: vs => do
    let x ← t.unbox v
    let xs ← unboxAll ts vs
    .ok (x, xs)
  | _, _ => .error .stackEmpty

lemma popUnboxed_of_unboxAll :
    ∀ {ts : List OperandType} {vs : List (Value F)} {xs : Unboxed F ts} {s : RuntimeState F},
      unboxAll ts vs = .ok xs → s.operands = vs ++ rest →
        s.popUnboxed ts = .ok (xs, { s with operands := rest })
  | [], [], xs, s, _, hs => by
    obtain ⟨_, _, _, _, _, _, _⟩ := s
    simp only [List.nil_append] at hs
    subst hs
    rfl
  | t :: ts, v :: vs, xs, s, h, hs => by
    simp only [unboxAll, bind_eq_ok, Except.ok.injEq] at h
    obtain ⟨y, hy, ys, hys, rfl⟩ := h
    have ih := popUnboxed_of_unboxAll (s := { s with operands := vs ++ rest }) hys rfl
    rw [List.cons_append] at hs
    simp only [RuntimeState.popUnboxed, RuntimeState.pop_cons hs, ok_bind, hy, ih]
  | [], _ :: _, _, _, h, _ => by simp [unboxAll] at h
  | _ :: _, [], _, _, h, _ => by simp [unboxAll] at h

/-- Operands that are accepted are unboxed. -/
lemma unboxAll_of_accepts {ts : List OperandType}
    (h : List.Forall₂ (fun t v => OperandType.accepts t (Value.varType v) = true) ts vs) :
    ∃ xs, unboxAll ts vs = .ok xs := by
  induction h with
  | nil => exact ⟨(), rfl⟩
  | cons htv _ ih =>
    obtain ⟨x, hx⟩ := OperandType.unbox_of_accepts htv
    obtain ⟨xs, hxs⟩ := ih
    exact ⟨(x, xs), by simp only [unboxAll, hx, hxs, ok_bind]⟩

/-- The computation itself never fails a cast. -/
def StackOp.Faultless (f : StackOp F) : Prop :=
  ∀ xs, Ends Fault.Tolerated (fun _ => True) (f.run xs)

/-- What an action does on operands of these types, whatever lies below them. -/
def StackOp.Takes (f : StackOp F) (ts : List VarType) (t : VarType) : Prop :=
  ∀ (s : RuntimeState F) (vs rest : List (Value F)), vs.map Value.varType = ts →
    s.operands = vs ++ rest →
      Ends Fault.Tolerated (fun s' => ∃ v : Value F, v.varType = t ∧
        s' = { s with operands := v :: rest }) (f.exec s)

lemma StackOp.takes_of_unboxAll {f : StackOp F} (hr : f.result ≠ .object) {ts : List VarType}
    (h : ∀ vs : List (Value F), vs.map Value.varType = ts →
      ∃ xs, unboxAll f.args vs = .ok xs ∧ Ends Fault.Tolerated (fun _ => True) (f.run xs)) :
    f.Takes ts f.result.varType := by
  intro s vs rest hvs hs
  obtain ⟨xs, hxs, hrun⟩ := h vs hvs
  rw [StackOp.exec, popUnboxed_of_unboxAll hxs hs, ok_bind]
  refine hrun.bind fun r _ => ?_
  exact ⟨_, OperandType.varType_box hr r, rfl⟩

lemma faultless_intOp {g : BitVec 32 → BitVec 32 → Except Fault (BitVec 32)}
    (hg : ∀ a b, Ends Fault.Tolerated (fun _ => True) (g a b)) : (intOp g : StackOp F).Faultless :=
  fun (b, a, ()) => hg a b

lemma ends_intDiv (a b : BitVec 32) : Ends Fault.Tolerated (fun _ => True) (intDiv a b) := by
  unfold intDiv
  split_ifs <;> simp [Fault.Tolerated]

lemma ends_intMod (a b : BitVec 32) : Ends Fault.Tolerated (fun _ => True) (intMod a b) := by
  unfold intMod
  split_ifs <;> simp [Fault.Tolerated]

lemma ends_checkMemorySize (vs : List (Value F)) :
    Ends Fault.Tolerated (fun ws => ws = vs) (checkMemorySize vs) := by
  unfold checkMemorySize
  split_ifs <;> simp [Fault.Tolerated]

variable [FloatArith F]

/-- The table of signatures agrees with the actions. -/
lemma OpCode.stackOp_of_signature {op : OpCode} {args : List OperandType} {result : OperandType}
    (h : op.signature = some (args, result)) :
    ∃ f : StackOp F, op.stackOp = some f ∧ f.args = args ∧ f.result = result := by
  cases op <;> simp only [OpCode.signature, reduceCtorEq, Option.some.injEq, Prod.mk.injEq] at h <;>
    exact ⟨_, rfl, h⟩

/-- The conversions apart, no computation fails on the operands it accepts. -/
lemma OpCode.faultless {op : OpCode} {f : StackOp F} (h : op.stackOp = some f)
    (hc : ∀ t, op.converts t = true) : f.Faultless := by
  cases op <;> simp only [OpCode.stackOp, reduceCtorEq, Option.some.injEq] at h <;> subst h
  case idiv => exact faultless_intOp ends_intDiv
  case imod => exact faultless_intOp ends_intMod
  case icast | fcast | vcast | rcast => exact absurd (hc .list) (by decide)
  case listPrepend => exact fun _ => (ends_checkMemorySize _).mono (fun _ => id) fun _ _ => trivial
  case listAppend => exact fun _ => (ends_checkMemorySize _).mono (fun _ => id) fun _ _ => trivial
  case lcast =>
    rintro ⟨v, ⟨⟩⟩
    simp only [opLcast]
    split
    · trivial
    · exact (ends_checkMemorySize [v]).mono (fun _ => id) fun _ _ => trivial
  case booleval =>
    rintro ⟨v, ⟨⟩⟩
    cases v <;> trivial
  all_goals exact fun _ => trivial

/-- The table of types is sound for the actions. -/
lemma OpCode.takes_of_opType {op : OpCode} {ts : List VarType} {t : VarType}
    (h : op.opType ts = some t) : ∃ f : StackOp F, op.stackOp = some f ∧ f.Takes ts t := by
  unfold OpCode.opType at h
  split at h
  case h_2 => simp at h
  rename_i args result hsig
  split_ifs at h with hts
  simp only [Bool.and_eq_true, beq_iff_eq, List.all_eq_true] at hts
  obtain ⟨⟨hlen, hacc⟩, hconv⟩ := hts
  obtain ⟨f, hf, rfl, rfl⟩ := OpCode.stackOp_of_signature (F := F) hsig
  refine ⟨f, hf, ?_⟩
  obtain rfl : f.result.varType = t := by simpa using h
  have hres : f.result ≠ .object := by
    intro he
    rw [he] at hsig
    revert hsig
    cases op <;> simp [OpCode.signature]
  by_cases hc : ∀ t, op.converts t = true
  · refine StackOp.takes_of_unboxAll hres fun vs hvs => ?_
    subst hvs
    have hacc' := List.forall₂_iff_zip.mpr ⟨hlen, fun hm => hacc _ hm⟩
    obtain ⟨xs, hxs⟩ := unboxAll_of_accepts (List.forall₂_map_right_iff.mp hacc')
    exact ⟨xs, hxs, OpCode.faultless hf hc xs⟩
  · -- one of the four conversions, on an operand it has a branch for
    cases op <;> simp only [OpCode.stackOp, reduceCtorEq, Option.some.injEq] at hf <;> subst hf
    case icast | fcast | vcast | rcast =>
      refine StackOp.takes_of_unboxAll hres fun vs hvs => ?_
      subst hvs
      obtain ⟨v, rfl⟩ : ∃ v, vs = [v] := 
        List.length_eq_one_iff.mp ((List.length_map _).symm.trans hlen.symm)
      refine ⟨(v, ()), rfl, ?_⟩
      have ht := hconv v.varType (by simp)
      cases v <;> trivial
    all_goals exact absurd (fun t => by cases t <;> rfl) hc

end StackOps

/-! ## Actions -/

/-- The subscripts a run-time type has, by index. -/
def hasComponent : VarType → Int → Bool
  | .vector, k => k == 0 || k == 1 || k == 2
  | .rotation, k => k == 0 || k == 1 || k == 2 || k == 3
  | _, _ => false

section Actions

variable {F : Type}

/-- The types of the actions that go on to the next instruction, relative to a typing of the
slots: `ActionTy Γ a σ σ'` says that `a` takes a stack of types `σ` to one of types `σ'`. -/
inductive ActionTy [FloatArith F] (Γ : VarRef → Option VarType) :
    Action F → List VarType → List VarType → Prop
  | load {r t σ} (h : Γ r = some t) : ActionTy Γ (.load r) σ (t :: σ)
  | loadSub {r t k σ} (h : Γ r = some t) (hk : hasComponent t k = true) :
      ActionTy Γ (.loadSub r k) σ (.float :: σ)
  | store {r t σ} (h : Γ r = some t) : ActionTy Γ (.store r) (t :: σ) σ
  | storeSub {r t k σ} (h : Γ r = some t) (hk : hasComponent t k = true) :
      ActionTy Γ (.storeSub r k) (.float :: σ) σ
  | const {v σ} : ActionTy Γ (.const v) σ (v.varType :: σ)
  | compute {op f ts t σ} (hf : OpCode.stackOp op = some f) (ht : op.opType ts = some t) :
      ActionTy Γ (.compute f) (ts ++ σ) (t :: σ)
  | incDec {isFloat pre inc r t σ} (h : Γ r = some t)
      (ht : t = if isFloat then .float else .integer) :
      ActionTy Γ (.incDec isFloat pre inc r) σ (t :: σ)
  | incDecSub {pre inc r t k σ} (h : Γ r = some t) (hk : hasComponent t k = true) :
      ActionTy Γ (.incDecSub pre inc r k) σ (.float :: σ)
  | init {r v σ} (h : Γ r = some (Value.varType v)) : ActionTy Γ (.init r v) σ σ
  | pop {t σ} : ActionTy Γ .pop (t :: σ) σ
  | buildList {ts σ} : ActionTy Γ (.buildList ts.length) (ts ++ σ) (.list :: σ)

/-- The slot an action reads: not the slots it only overwrites. -/
def Action.reads : Action F → Option VarRef
  | .load r | .loadSub r _ | .storeSub r _ | .incDec _ _ _ r | .incDecSub _ _ r _ => some r
  | _ => none

/-- The action reads a variable that is still null. -/
def Action.ReadsNull (a : Action F) (s : RuntimeState F) : Prop :=
  ∃ r, a.reads = some r ∧ s.readVar r = .ok none

/-- The slots that have a type exist, and what they hold has that type. -/
def Conforms (Γ : VarRef → Option VarType) (s : RuntimeState F) : Prop :=
  ∀ r t, Γ r = some t → ∃ o, s.readVar r = .ok o ∧ ∀ v, o = some v → v.varType = t

/-- No slot that held a value has become null. -/
def KeepsValues (s s' : RuntimeState F) : Prop :=
  ∀ r v, s.readVar r = .ok (some v) → ∃ w, s'.readVar r = .ok (some w)

namespace RuntimeState

variable {Γ : VarRef → Option VarType} {s s' : RuntimeState F}

lemma keepsValues_of_eq (h : ∀ r, s'.readVar r = s.readVar r) : KeepsValues s s' :=
  fun r v hv => ⟨v, (h r).trans hv⟩

lemma conforms_of_eq (h : ∀ r, s'.readVar r = s.readVar r) (hc : Conforms Γ s) :
    Conforms Γ s' := by
  intro r t hr
  rw [h r]
  exact hc r t hr

/-- Writing a value of a slot's type. -/
lemma conforms_writeVar (hc : Conforms Γ s) {r : VarRef} {t : VarType} (hr : Γ r = some t)
    {v : Value F} (hv : v.varType = t) : Conforms Γ (s.writeVar r v) := by
  obtain ⟨o, ho, -⟩ := hc r t hr
  intro r' t' hr'
  rw [readVar_writeVar v ho]
  split_ifs with he
  · subst he
    obtain rfl : t = t' := Option.some.inj (hr.symm.trans hr')
    exact ⟨_, rfl, fun w hw => Option.some.inj hw ▸ hv⟩
  · exact hc r' t' hr'

lemma keepsValues_writeVar {r : VarRef} {o : Option (Value F)} (ho : s.readVar r = .ok o)
    (v : Value F) : KeepsValues s (s.writeVar r v) := by
  intro r' w hw
  rw [readVar_writeVar v ho]
  split_ifs
  · exact ⟨v, rfl⟩
  · exact ⟨w, hw⟩

/-- Counting the memory of a stored value changes no variable. -/
lemma ends_replaceStored (old new : Option (Value F)) :
    Ends Fault.Tolerated (fun s' => s'.operands = s.operands ∧ ∀ r, s'.readVar r = s.readVar r)
      (s.replaceStored old new) := by
  unfold replaceStored checkMemory
  split_ifs
  · exact .inr rfl
  · exact ⟨rfl, fun _ => rfl⟩

end RuntimeState

/-- The slots conform to their types, and the operands on top of `rest` have the types `σ`. -/
structure Fits (Γ : VarRef → Option VarType) (rest : List (Value F)) (σ : List VarType)
    (s : RuntimeState F) : Prop where
  vars : Conforms Γ s
  stack : ∃ vs : List (Value F), vs.map Value.varType = σ ∧ s.operands = vs ++ rest

namespace Fits

variable {Γ : VarRef → Option VarType} {rest : List (Value F)} {σ : List VarType} {t : VarType}
  {s s' : RuntimeState F}

lemma of_eq (h : Fits Γ rest σ s) (ho : s'.operands = s.operands)
    (hr : ∀ r, s'.readVar r = s.readVar r) : Fits Γ rest σ s' :=
  ⟨RuntimeState.conforms_of_eq hr h.vars, ho ▸ h.stack⟩

lemma push (h : Fits Γ rest σ s) {v : Value F} (hv : v.varType = t) :
    Fits Γ rest (t :: σ) (s.push v) := by
  obtain ⟨vs, rfl, ho⟩ := h.stack
  exact ⟨RuntimeState.conforms_of_eq (fun _ => rfl) h.vars,
    v :: vs, by simp [hv], by simp [RuntimeState.push, ho]⟩

lemma pop (h : Fits Γ rest (t :: σ) s) :
    ∃ v s', s.pop = .ok (v, s') ∧ v.varType = t ∧ Fits Γ rest σ s' ∧
      ∀ r, s'.readVar r = s.readVar r := by
  obtain ⟨vs, hvs, ho⟩ := h.stack
  obtain ⟨v, vs, rfl, hv, rfl⟩ := List.map_eq_cons_iff.mp hvs
  exact ⟨v, _, RuntimeState.pop_cons ho, hv,
    ⟨RuntimeState.conforms_of_eq (fun _ => rfl) h.vars, vs, rfl, rfl⟩, fun _ => rfl⟩

lemma writeVar (h : Fits Γ rest σ s) {r : VarRef} (hr : Γ r = some t) {v : Value F}
    (hv : v.varType = t) : Fits Γ rest σ (s.writeVar r v) := by
  obtain ⟨vs, hvs, ho⟩ := h.stack
  exact ⟨RuntimeState.conforms_writeVar h.vars hr hv, vs, hvs, by simp [ho]⟩

end Fits

/-! ## Subscripts and increments -/

lemma ends_loadSubscript {v : Value F} {k : Int} (h : hasComponent v.varType k = true) :
    ∃ c, loadSubscript (some v) k = .ok c := by
  cases v <;> simp only [Value.varType, hasComponent, Bool.or_eq_true, beq_iff_eq,
    Bool.false_eq_true] at h
  case vector => rcases h with (rfl | rfl) | rfl <;> exact ⟨_, rfl⟩
  case rotation => rcases h with ((rfl | rfl) | rfl) | rfl <;> exact ⟨_, rfl⟩

lemma ends_assignSubscript {v : Value F} {k : Int} (h : hasComponent v.varType k = true)
    {g : F → Except Fault F} (hg : ∀ c, ∃ d, g c = .ok d) :
    ∃ w c, assignSubscript g (some v) k = .ok (w, c) ∧ w.varType = v.varType := by
  choose d hd using hg
  cases v <;> simp only [Value.varType, hasComponent, Bool.or_eq_true, beq_iff_eq,
    Bool.false_eq_true] at h
  case vector => rcases h with (rfl | rfl) | rfl <;> simp [assignSubscript, hd, Value.varType]
  case rotation =>
    rcases h with ((rfl | rfl) | rfl) | rfl <;> simp [assignSubscript, hd, Value.varType]

lemma stepped_ok [FloatArith F] {isFloat : Bool} (inc : Bool) {v : Value F}
    (h : v.varType = if isFloat then .float else .integer) :
    ∃ old new, Action.stepped isFloat inc (some v) = .ok (old, new) ∧
      old.varType = v.varType ∧ new.varType = v.varType := by
  cases isFloat <;> cases v <;> simp only [Value.varType, reduceCtorEq, if_true,
    Bool.false_eq_true, if_false] at h <;> exact ⟨_, _, rfl, rfl, rfl⟩

/-! ## Soundness of the types -/

/-- A typed action keeps the types, or stops with a fault that is the script's own doing, or
reads a null variable. -/
theorem ActionTy.exec [FloatArith F] {Γ : VarRef → Option VarType} {a : Action F}
    {σ σ' : List VarType} (h : ActionTy Γ a σ σ') (host : Host F) {rest : List (Value F)}
    {s : RuntimeState F} (hs : Fits Γ rest σ s) :
    Ends (fun e => e.Tolerated ∨ a.ReadsNull s)
      (fun s' => Fits Γ rest σ' s' ∧ KeepsValues s s') (a.exec host s) := by
  cases h with
  | load h =>
    rename_i r t
    obtain ⟨o, ho, hty⟩ := hs.vars r t h
    cases o with
    | none =>
      simp only [Action.exec, ho, ok_bind]
      exact .inr ⟨r, rfl, ho⟩
    | some v =>
      simp only [Action.exec, ho, ok_bind]
      exact ⟨hs.push (hty v rfl), RuntimeState.keepsValues_of_eq fun _ => rfl⟩
  | loadSub h hk =>
    rename_i r t k
    obtain ⟨o, ho, hty⟩ := hs.vars r t h
    simp only [Action.exec, ho, ok_bind]
    cases o with
    | none => exact .inr ⟨r, rfl, ho⟩
    | some v =>
      obtain ⟨c, hc⟩ := ends_loadSubscript (hty v rfl ▸ hk)
      simp only [hc, ok_bind]
      exact ⟨hs.push rfl, RuntimeState.keepsValues_of_eq fun _ => rfl⟩
  | store h =>
    rename_i r t
    obtain ⟨o, ho, -⟩ := hs.vars r t h
    obtain ⟨v, s₁, hpop, hv, hs₁, hr⟩ := hs.pop
    simp only [Action.exec, Action.execStore, ho, hpop, ok_bind]
    refine (RuntimeState.ends_replaceStored _ _).mono (fun _ he => .inl he) fun s' hs' => ?_
    refine ⟨(hs₁.writeVar h hv).of_eq hs'.1 hs'.2, fun r' w hw => ?_⟩
    rw [hs'.2]
    exact RuntimeState.keepsValues_writeVar ((hr r).trans ho) v r' w ((hr r').trans hw)
  | storeSub h hk =>
    rename_i r t k
    obtain ⟨o, ho, hty⟩ := hs.vars r t h
    obtain ⟨v, s₁, hpop, hv, hs₁, hr⟩ := hs.pop
    have ho₁ := (hr r).trans ho
    simp only [Action.exec, Action.execStoreSub, hpop, ok_bind, ho₁]
    cases o with
    | none => exact .inr ⟨r, rfl, ho⟩
    | some w =>
      have hf : ∃ x, OperandType.float.unbox v = .ok x :=
        OperandType.unbox_of_accepts (by rw [hv]; rfl)
      obtain ⟨w', c, hw', hwt⟩ := ends_assignSubscript (hty w rfl ▸ hk) fun _ => hf
      simp only [hw', ok_bind]
      refine ⟨hs₁.writeVar h (hwt.trans (hty w rfl)), fun r' u hu => ?_⟩
      exact RuntimeState.keepsValues_writeVar ho₁ w' r' u ((hr r').trans hu)
  | const => exact ⟨hs.push rfl, RuntimeState.keepsValues_of_eq fun _ => rfl⟩
  | compute hf ht =>
    rename_i op f ts t σ
    obtain ⟨f', hf', htakes⟩ := OpCode.takes_of_opType (F := F) ht
    obtain rfl : f = f' := Option.some.inj (hf.symm.trans hf')
    obtain ⟨vs, hvs, ho⟩ := hs.stack
    obtain ⟨us, ws, rfl, hus, hws⟩ := List.map_eq_append_iff.mp hvs
    rw [List.append_assoc] at ho
    refine (htakes s us (ws ++ rest) hus ho).mono (fun _ he => .inl he) ?_
    rintro _ ⟨v, hv, rfl⟩
    refine ⟨⟨RuntimeState.conforms_of_eq (fun _ => rfl) hs.vars, v :: ws, ?_, rfl⟩,
      RuntimeState.keepsValues_of_eq fun _ => rfl⟩
    simp [hv, hws]
  | incDec h ht =>
    rename_i isFloat pre inc r t
    obtain ⟨o, ho, hty⟩ := hs.vars r t h
    simp only [Action.exec, Action.execIncDec, ho, ok_bind]
    cases o with
    | none =>
      cases isFloat <;> exact .inr ⟨r, rfl, ho⟩
    | some v =>
      obtain ⟨old, new, hst, hold, hnew⟩ := stepped_ok inc ((hty v rfl).trans ht)
      simp only [hst, ok_bind]
      rw [hty v rfl] at hold hnew
      refine ⟨(hs.writeVar h hnew).push (by split_ifs <;> assumption), fun r' u hu => ?_⟩
      exact RuntimeState.keepsValues_writeVar ho new r' u hu
  | incDecSub h hk =>
    rename_i pre inc r t k
    obtain ⟨o, ho, hty⟩ := hs.vars r t h
    simp only [Action.exec, Action.execIncDecSub, ho, ok_bind]
    cases o with
    | none => exact .inr ⟨r, rfl, ho⟩
    | some v =>
      obtain ⟨w, c, hw, hwt⟩ := ends_assignSubscript (hty v rfl ▸ hk)
        (g := fun c : F => .ok (if inc then FloatArith.add c FloatArith.one
          else FloatArith.sub c FloatArith.one)) fun _ => ⟨_, rfl⟩
      simp only [hw, ok_bind]
      refine ⟨(hs.writeVar h (hwt.trans (hty v rfl))).push rfl, fun r' u hu => ?_⟩
      exact RuntimeState.keepsValues_writeVar ho w r' u hu
  | init h =>
    rename_i r v
    obtain ⟨o, ho, -⟩ := hs.vars r _ h
    simp only [Action.exec, ho, ok_bind]
    refine (RuntimeState.ends_replaceStored _ _).mono (fun _ he => .inl he) fun s' hs' => ?_
    refine ⟨(hs.writeVar h rfl).of_eq hs'.1 hs'.2, fun r' w hw => ?_⟩
    rw [hs'.2]
    exact RuntimeState.keepsValues_writeVar ho v r' w hw
  | pop =>
    obtain ⟨v, s₁, hpop, -, hs₁, hr⟩ := hs.pop
    simp only [Action.exec, hpop, ok_bind]
    exact ⟨hs₁, RuntimeState.keepsValues_of_eq hr⟩
  | buildList =>
    rename_i ts σ
    obtain ⟨vs, hvs, ho⟩ := hs.stack
    obtain ⟨us, ws, rfl, rfl, hws⟩ := List.map_eq_append_iff.mp hvs
    rw [List.append_assoc] at ho
    simp only [Action.exec, List.length_map, RuntimeState.popMany_append ho, ok_bind]
    refine ((ends_checkMemorySize us.reverse).mono (fun _ he => .inl he) fun _ h => h).bind ?_
    rintro _ rfl
    refine ⟨⟨RuntimeState.conforms_of_eq (fun _ => rfl) hs.vars, .list us.reverse :: ws, ?_, rfl⟩,
      RuntimeState.keepsValues_of_eq fun _ => rfl⟩
    simp [Value.varType, hws]

end Actions

end Halcyon.Joke
