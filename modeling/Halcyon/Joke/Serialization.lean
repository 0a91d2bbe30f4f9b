import Halcyon.Joke.Run
import Halcyon.Lib.Outcome

/-!
# Saving and restoring a script

`SerializedRuntimeState.FromRuntimeState` copies a runtime state into contract classes, the
serializer writes these and reads them back, and `ToRuntimeState` builds a runtime state from the
result.  `ScriptState` is a runtime state with the members that survive a restart by intention:
what instructions work with, and besides it the event queue, the permissions, the listens and so
on.  The members that depend on the clock are left out, as are those the source calls transient.

The serializer is not part of the repository.  It is assumed to restore every contract member,
except that an empty array comes back as null (`protobufArray`) and that an object which no
contract member of `SerializedLSLPrimitive` accepts is lost.  The latter happens to a list inside
a list: `SerializedLSLList.FromList` does not convert the members of the list it is given.

`restored_eq` says what a saved state is restored to, for every state.
-/

namespace Halcyon.Joke

open Halcyon.Lib Halcyon.Lib.Transition

variable {F : Type}

/-! ## States -/

/-- `VM/DetectVariables.cs`, without the deprecated members. -/
structure DetectVariables (F : Type) where
  group : Option String
  key : Option String
  linkNumber : BitVec 32
  name : Option String
  owner : Option String
  type : BitVec 32
  touchFace : BitVec 32
  grab : Vector3 F
  pos : Vector3 F
  rot : Quaternion F
  vel : Vector3 F
  touchBinormal : Vector3 F
  touchNormal : Vector3 F
  touchPos : Vector3 F
  touchST : Vector3 F
  touchUV : Vector3 F
  botID : Option String

/-- `VM/PostedEvent.cs`; both arrays may be null, and so may each argument. -/
structure PostedEvent (F : Type) where
  eventType : Nat
  args : Option (List (Option (Value F)))
  detectVars : Option (List (DetectVariables F))
  transitionToState : BitVec 32

/-- `VM/ActiveListen.cs`. -/
structure ActiveListen where
  handle : BitVec 32
  channel : BitVec 32
  name : Option String
  key : Option String
  message : Option String

/-- A runtime state with what is saved besides.  Dictionaries are lists of entries. -/
structure ScriptState (F : Type) extends RuntimeState F where
  eventQueue : List (PostedEvent F)
  generalEnable : Bool
  timerInterval : BitVec 32
  runningEvent : Option (PostedEvent F)
  permsGranter : Option String
  grantedPermsMask : BitVec 32
  activeListens : List (BitVec 32 × ActiveListen)
  startParameter : BitVec 32
  miscAttributes : List (BitVec 32 × List (Option (Value F)))

/-! ## Contract classes -/

/-- `SerializedLSLPrimitive`, by the class of its `Value`; a list may have null contents. -/
inductive SerializedLSLPrimitive (F : Type)
  | null
  | int (i : BitVec 32)
  | float (x : F)
  | string (s : String)
  | vector (v : Vector3 F)
  | rotation (q : Quaternion F)
  /-- A `SerializedLSLList` with its `ListContents`. -/
  | list (listContents : Option (List (SerializedLSLPrimitive F)))
  /-- An `LSLList`, which no contract member accepts. -/
  | unconverted (members : List (Value F))

/-- `SerializedStackFrame`. -/
structure SerializedStackFrame (F : Type) where
  functionInfo : FunctionInfo
  returnAddress : Nat
  locals : Option (List (SerializedLSLPrimitive F))

/-- `SerializedPostedEvent`. -/
structure SerializedPostedEvent (F : Type) where
  eventType : Nat
  args : Option (List (SerializedLSLPrimitive F))
  detectVars : Option (List (DetectVariables F))
  transitionToState : BitVec 32

/-- `SerializedRuntimeState`. -/
structure SerializedRuntimeState (F : Type) where
  ip : Nat
  lslState : Nat
  globals : Option (List (SerializedLSLPrimitive F))
  operands : Option (List (SerializedLSLPrimitive F))
  calls : Option (List (SerializedStackFrame F))
  topFrame : Option (SerializedStackFrame F)
  memoryUsed : Int
  eventQueue : Option (List (SerializedPostedEvent F))
  runState : Status
  enabled : Bool
  timerInterval : BitVec 32
  runningEvent : Option (SerializedPostedEvent F)
  permsGranter : Option String
  grantedPermsMask : BitVec 32
  activeListens : Option (List (BitVec 32 × ActiveListen))
  startParameter : BitVec 32
  miscAttributes : Option (List (BitVec 32 × Option (List (SerializedLSLPrimitive F))))

/-! ## Saving -/

namespace SerializedLSLPrimitive

/-- `primitive.Value = obj`. -/
def ofValue : Value F → SerializedLSLPrimitive F
  | .int i => int i
  | .float x => float x
  | .string s => string s
  | .vector v => vector v
  | .rotation q => rotation q
  | .list members => unconverted members

/-- `FromPrimitive`, with `SerializedLSLList.FromList` for lists. -/
def fromPrimitive : Option (Value F) → SerializedLSLPrimitive F
  | none => null
  | some (.list members) => list (some (members.map ofValue))
  | some v => ofValue v

/-- `FromPrimitiveList`. -/
def fromPrimitiveList (primList : List (Option (Value F))) : List (SerializedLSLPrimitive F) :=
  primList.map fromPrimitive

/-- `FromPrimitiveStack`: the enumeration of a stack begins at its top. -/
def fromPrimitiveStack (primStack : List (Value F)) : List (SerializedLSLPrimitive F) :=
  primStack.map fun v => fromPrimitive (some v)

end SerializedLSLPrimitive

open SerializedLSLPrimitive

/-- `FromStackFrame`. -/
def SerializedStackFrame.fromStackFrame (frame : StackFrame F) : SerializedStackFrame F where
  functionInfo := frame.functionInfo
  returnAddress := frame.returnAddress
  locals := some (fromPrimitiveList frame.locals)

/-- `FromPostedEvent`; null arguments raise an exception. -/
def SerializedPostedEvent.fromPostedEvent (evt : PostedEvent F) :
    Option (SerializedPostedEvent F) := do
  let args ← evt.args
  some
    { eventType := evt.eventType
      args := some (fromPrimitiveList args)
      detectVars := evt.detectVars
      transitionToState := evt.transitionToState }

/-- `FromRuntimeState`.  The permission granter and the granted mask keep the values that a new
`SerializedRuntimeState` has. -/
def SerializedRuntimeState.fromRuntimeState (state : ScriptState F) :
    Option (SerializedRuntimeState F) := do
  let eventQueue ← state.eventQueue.mapM SerializedPostedEvent.fromPostedEvent
  let runningEvent ← state.runningEvent.mapM SerializedPostedEvent.fromPostedEvent
  some
    { ip := state.ip
      lslState := state.lslState
      globals := some (fromPrimitiveList state.globals)
      operands := some (fromPrimitiveStack state.operands)
      calls := some (state.calls.map .fromStackFrame)
      topFrame := state.calls.head?.map .fromStackFrame
      memoryUsed := state.memoryUsed
      eventQueue := some eventQueue
      runState := state.runState
      enabled := state.generalEnable
      timerInterval := state.timerInterval
      runningEvent := runningEvent
      permsGranter := none
      grantedPermsMask := 0
      activeListens := some state.activeListens
      startParameter := state.startParameter
      miscAttributes := some (state.miscAttributes.map fun (key, attrs) =>
        (key, some (fromPrimitiveList attrs))) }

/-! ## The serializer -/

/-- An array of contract objects, written and read: an empty array comes back as null. -/
def protobufArray {α : Type} (member : α → α) : Option (List α) → Option (List α)
  | none | some [] => none
  | some (x :: xs) => some ((x :: xs).map member)

mutual

/-- A primitive, written and read. -/
def SerializedLSLPrimitive.protobuf : SerializedLSLPrimitive F → SerializedLSLPrimitive F
  | .list none | .list (some []) => .list none
  | .list (some (c :: cs)) => .list (some (protobuf c :: protobufs cs))
  | .unconverted _ => .null
  | p => p

/-- The contents of a list, written and read. -/
def SerializedLSLPrimitive.protobufs :
    List (SerializedLSLPrimitive F) → List (SerializedLSLPrimitive F)
  | [] => []
  | c :: cs => protobuf c :: protobufs cs

end

/-- A frame, written and read. -/
def SerializedStackFrame.protobuf (frame : SerializedStackFrame F) : SerializedStackFrame F :=
  { frame with locals := protobufArray SerializedLSLPrimitive.protobuf frame.locals }

/-- An event, written and read. -/
def SerializedPostedEvent.protobuf (evt : SerializedPostedEvent F) : SerializedPostedEvent F :=
  { evt with
    args := protobufArray SerializedLSLPrimitive.protobuf evt.args
    detectVars := protobufArray id evt.detectVars }

/-- A state, written and read. -/
def SerializedRuntimeState.protobuf (state : SerializedRuntimeState F) :
    SerializedRuntimeState F :=
  { state with
    globals := protobufArray SerializedLSLPrimitive.protobuf state.globals
    operands := protobufArray SerializedLSLPrimitive.protobuf state.operands
    calls := protobufArray SerializedStackFrame.protobuf state.calls
    topFrame := state.topFrame.map SerializedStackFrame.protobuf
    eventQueue := protobufArray SerializedPostedEvent.protobuf state.eventQueue
    runningEvent := state.runningEvent.map SerializedPostedEvent.protobuf
    activeListens := protobufArray id state.activeListens
    miscAttributes := protobufArray
      (fun (key, attrs) => (key, protobufArray SerializedLSLPrimitive.protobuf attrs))
      state.miscAttributes }

/-! ## Restoring -/

namespace SerializedLSLPrimitive

/-- A member of a restored list: what was lost is null, and a list with a null member is no list
of values. -/
def memberValue : SerializedLSLPrimitive F → Option (Value F)
  | int i => some (.int i)
  | float x => some (.float x)
  | string s => some (.string s)
  | vector v => some (.vector v)
  | rotation q => some (.rotation q)
  | unconverted members => some (.list members)
  | null | list _ => none

/-- One object of `ToPrimitiveList`, with `SerializedLSLList.ToList` for lists, whose constructor
checks the size. -/
def toPrimitive : SerializedLSLPrimitive F → Option (Option (Value F))
  | null => some none
  | list contents => do
    let members ← (contents.getD []).mapM memberValue
    let members ← (checkMemorySize members).toOption
    some (some (.list members))
  | p => p.memberValue.map some

/-- `ToPrimitiveList`. -/
def toPrimitiveList (serPrimList : Option (List (SerializedLSLPrimitive F))) :
    Option (List (Option (Value F))) :=
  (serPrimList.getD []).mapM toPrimitive

/-- `ToPrimitiveStack`: the objects are pushed from the last to the first.  An operand is never
null. -/
def toPrimitiveStack (serPrimList : Option (List (SerializedLSLPrimitive F))) :
    Option (List (Value F)) :=
  (serPrimList.getD []).reverse.foldlM (fun stack p => p.toPrimitive.join.map fun v => v :: stack) []

end SerializedLSLPrimitive

/-- `ToStackFrame`. -/
def SerializedStackFrame.toStackFrame (frame : SerializedStackFrame F) :
    Option (StackFrame F) := do
  let locals ← toPrimitiveList frame.locals
  some { (StackFrame.new frame.functionInfo frame.returnAddress : StackFrame F) with locals := locals }

/-- `ToPostedEvent`. -/
def SerializedPostedEvent.toPostedEvent (evt : SerializedPostedEvent F) :
    Option (PostedEvent F) := do
  let args ← toPrimitiveList evt.args
  some
    { eventType := evt.eventType
      args := some args
      detectVars := evt.detectVars
      transitionToState := evt.transitionToState }

/-- `ToRuntimeState`.  The calls are pushed from the last to the first, and the top frame is the
top of the stack they make.  The permission members of the new state are never set. -/
def SerializedRuntimeState.toRuntimeState (state : SerializedRuntimeState F) :
    Option (ScriptState F) := do
  let globals ← toPrimitiveList state.globals
  let operands ← toPrimitiveStack state.operands
  let calls ← (state.calls.getD []).reverse.foldlM
    (fun stack frame => frame.toStackFrame.map fun f => f :: stack) []
  let eventQueue ← (state.eventQueue.getD []).foldlM
    (fun queue evt => evt.toPostedEvent.map fun e => queue ++ [e]) []
  let runningEvent ← state.runningEvent.mapM SerializedPostedEvent.toPostedEvent
  let miscAttributes ← (state.miscAttributes.getD []).mapM fun (key, attrs) => do
    let attrs ← toPrimitiveList attrs
    some (key, attrs)
  some
    { ip := state.ip
      lslState := state.lslState
      globals := globals
      operands := operands
      calls := calls
      memoryUsed := state.memoryUsed
      runState := state.runState
      eventQueue := eventQueue
      generalEnable := state.enabled
      timerInterval := state.timerInterval
      runningEvent := runningEvent
      permsGranter := none
      grantedPermsMask := 0
      activeListens := state.activeListens.getD []
      startParameter := state.startParameter
      miscAttributes := miscAttributes }

/-- A state saved, written, read and restored. -/
def ScriptState.restored (state : ScriptState F) : Option (ScriptState F) := do
  let saved ← SerializedRuntimeState.fromRuntimeState state
  saved.protobuf.toRuntimeState

/-! ## What is restored -/

/-- The value survives: it is not a list with a list among its members, and a list passes the
check of its constructor. -/
def Value.savable : Value F → Bool
  | .list members =>
    members.all (fun v => v.varType != .list) && decide (int32 (memSizes members) ≤ 0x20000)
  | _ => true

/-- The variable survives. -/
def savableSlot (o : Option (Value F)) : Bool :=
  o.all Value.savable

/-- The event can be saved and its arguments survive. -/
def PostedEvent.savable (evt : PostedEvent F) : Bool :=
  match evt.args with
  | none => false
  | some args => args.all savableSlot

/-- Every value of the state survives, and every event can be saved. -/
def ScriptState.savable (s : ScriptState F) : Bool :=
  s.globals.all savableSlot && s.operands.all Value.savable &&
    s.calls.all (fun f => f.locals.all savableSlot) && s.eventQueue.all PostedEvent.savable &&
    s.runningEvent.all PostedEvent.savable && s.miscAttributes.all fun a => a.2.all savableSlot

/-- An event after a restore: an empty array of detect variables has become null. -/
def PostedEvent.afterRestore (evt : PostedEvent F) : PostedEvent F :=
  { evt with detectVars := protobufArray id evt.detectVars }

/-- A state after a restore. -/
def ScriptState.afterRestore (s : ScriptState F) : ScriptState F :=
  { s with
    eventQueue := s.eventQueue.map PostedEvent.afterRestore
    runningEvent := s.runningEvent.map PostedEvent.afterRestore
    permsGranter := none
    grantedPermsMask := 0 }

attribute [local simp] protobuf

lemma bind_ite_some {α β : Type} (c : Prop) [Decidable c] (a : α) (f : α → Option β) :
    (if c then some a else none).bind f = if c then f a else none := by
  split <;> rfl

lemma getD_protobufArray {α : Type} (member : α → α) (xs : List α) :
    (protobufArray member (some xs)).getD [] = xs.map member := by
  cases xs <;> rfl

lemma protobufs_eq_map (cs : List (SerializedLSLPrimitive F)) : protobufs cs = cs.map protobuf := by
  induction cs with
  | nil => simp [protobufs]
  | cons c cs ih => simp [protobufs, ih]

lemma protobuf_list (cs : List (SerializedLSLPrimitive F)) :
    (SerializedLSLPrimitive.list (some cs)).protobuf =
      .list (protobufArray protobuf (some cs)) := by
  cases cs <;> simp [protobufArray, protobufs_eq_map]

/-- A member of a list survives unless it is a list. -/
lemma memberValue_protobuf (v : Value F) :
    (ofValue v).protobuf.memberValue = if v.varType != .list then some v else none := by
  cases v <;> simp [ofValue, memberValue, Value.varType]

lemma checkMemorySize_toOption (members : List (Value F)) :
    (checkMemorySize members).toOption =
      if int32 (Value.memSizes members) ≤ 0x20000 then some members else none := by
  unfold checkMemorySize
  by_cases h : int32 (Value.memSizes members) ≤ 0x20000
  · rw [if_neg (by omega), if_pos h]
    rfl
  · rw [if_pos (by omega), if_neg h]
    rfl

/-- A variable survives or the restore fails. -/
lemma toPrimitive_protobuf (o : Option (Value F)) :
    (fromPrimitive o).protobuf.toPrimitive = if savableSlot o then some o else none := by
  rcases o with - | v
  · simp [fromPrimitive, toPrimitive, savableSlot]
  · cases v with
    | list members =>
      have hmembers := mapM_of_tested fun v (_ : v ∈ members) => memberValue_protobuf v
      rw [fromPrimitive, protobuf_list, toPrimitive, getD_protobufArray, List.map_map,
        List.mapM_map]
      simp only [Function.comp_def, hmembers, List.map_id', savableSlot, Option.all_some,
        Value.savable, Bool.and_eq_true, decide_eq_true_eq]
      by_cases hall : members.all (fun v => v.varType != .list) = true
      · simp only [hall, if_true, Option.bind_eq_bind, Option.bind_some, checkMemorySize_toOption,
          true_and]
        split <;> rfl
      · simp [hall]
    | _ => simp [fromPrimitive, ofValue, toPrimitive, memberValue, savableSlot,
        Value.savable]

lemma toPrimitiveList_protobuf (l : List (Option (Value F))) :
    toPrimitiveList (protobufArray protobuf (some (fromPrimitiveList l))) =
      if l.all savableSlot then some l else none := by
  rw [toPrimitiveList, getD_protobufArray, fromPrimitiveList, List.map_map, List.mapM_map]
  simpa [Function.comp_def] using mapM_of_tested fun o (_ : o ∈ l) => toPrimitive_protobuf o

lemma toPrimitiveStack_protobuf (l : List (Value F)) :
    toPrimitiveStack (protobufArray protobuf (some (fromPrimitiveStack l))) =
      if l.all Value.savable then some l else none := by
  have hvalue : ∀ v : Value F, (fromPrimitive (some v)).protobuf.toPrimitive.join =
      if v.savable then some v else none := by
    intro v
    rw [toPrimitive_protobuf, savableSlot, Option.all_some]
    split <;> rfl
  rw [toPrimitiveStack, getD_protobufArray, fromPrimitiveStack, List.map_map, ← List.map_reverse,
    List.foldlM_map]
  simpa using foldlM_push_of_tested fun v (_ : v ∈ l) => hvalue v

lemma toStackFrame_protobuf (f : StackFrame F) :
    (SerializedStackFrame.fromStackFrame f).protobuf.toStackFrame =
      if f.locals.all savableSlot then some f else none := by
  rw [SerializedStackFrame.toStackFrame]
  simp only [SerializedStackFrame.protobuf, SerializedStackFrame.fromStackFrame,
    toPrimitiveList_protobuf]
  split <;> rfl

/-- The form in which an event is saved. -/
def PostedEvent.saved (evt : PostedEvent F) : SerializedPostedEvent F where
  eventType := evt.eventType
  args := some (fromPrimitiveList (evt.args.getD []))
  detectVars := evt.detectVars
  transitionToState := evt.transitionToState

lemma fromPostedEvent_eq (evt : PostedEvent F) :
    SerializedPostedEvent.fromPostedEvent evt =
      if evt.args.isSome then some evt.saved else none := by
  obtain ⟨eventType, args, detectVars, transitionToState⟩ := evt
  cases args <;> rfl

lemma toPostedEvent_saved {evt : PostedEvent F} (h : evt.args.isSome = true) :
    evt.saved.protobuf.toPostedEvent = if evt.savable then some evt.afterRestore else none := by
  obtain ⟨eventType, args, detectVars, transitionToState⟩ := evt
  obtain ⟨args, rfl⟩ := Option.isSome_iff_exists.mp h
  simp only [SerializedPostedEvent.toPostedEvent, SerializedPostedEvent.protobuf,
    PostedEvent.saved, Option.getD_some, toPrimitiveList_protobuf, PostedEvent.savable,
    Option.bind_eq_bind, bind_ite_some]
  rfl

lemma isSome_args_of_savable {evt : PostedEvent F} (h : evt.savable = true) :
    evt.args.isSome = true := by
  unfold PostedEvent.savable at h
  split at h <;> simp_all

/-- The event queue is restored in its order, if every event could be saved. -/
lemma eventQueue_restored {es : List (PostedEvent F)}
    (h : es.all (fun evt => evt.args.isSome) = true) :
    ((protobufArray SerializedPostedEvent.protobuf (some (es.map PostedEvent.saved))).getD []).foldlM
        (fun queue evt => evt.toPostedEvent.map fun e => queue ++ [e]) [] =
      if es.all PostedEvent.savable then some (es.map PostedEvent.afterRestore) else none := by
  rw [getD_protobufArray, List.map_map, List.foldlM_map]
  rw [List.all_eq_true] at h
  exact foldlM_append_of_tested (fun evt hevt => toPostedEvent_saved (h evt hevt)) []

lemma runningEvent_restored {o : Option (PostedEvent F)}
    (h : o.all (fun evt => evt.args.isSome) = true) :
    ((o.map PostedEvent.saved).map SerializedPostedEvent.protobuf).mapM
        SerializedPostedEvent.toPostedEvent =
      if o.all PostedEvent.savable then some (o.map PostedEvent.afterRestore) else none := by
  cases o with
  | none => rfl
  | some evt =>
    change (evt.saved.protobuf.toPostedEvent).map some = _
    rw [toPostedEvent_saved h, Option.all_some]
    split <;> rfl

lemma mapM_fromPostedEvent (o : Option (PostedEvent F)) :
    o.mapM SerializedPostedEvent.fromPostedEvent =
      if o.all (fun evt => evt.args.isSome) then some (o.map PostedEvent.saved) else none := by
  cases o with
  | none => rfl
  | some evt =>
    change (SerializedPostedEvent.fromPostedEvent evt).map some = _
    rw [fromPostedEvent_eq, Option.all_some]
    split <;> rfl

lemma calls_restored (calls : List (StackFrame F)) :
    ((protobufArray SerializedStackFrame.protobuf
        (some (calls.map .fromStackFrame))).getD []).reverse.foldlM
        (fun stack frame => frame.toStackFrame.map fun f => f :: stack) [] =
      if calls.all (fun f => f.locals.all savableSlot) then some calls else none := by
  rw [getD_protobufArray, List.map_map, ← List.map_reverse, List.foldlM_map]
  simpa using foldlM_push_of_tested fun f (_ : f ∈ calls) => toStackFrame_protobuf f

lemma miscAttributes_restored (attrs : List (BitVec 32 × List (Option (Value F)))) :
    ((protobufArray (fun (a : BitVec 32 × Option (List (SerializedLSLPrimitive F))) =>
        (a.1, protobufArray protobuf a.2))
      (some (attrs.map fun a => (a.1, some (fromPrimitiveList a.2))))).getD []).mapM
        (fun a => (toPrimitiveList a.2).bind fun l => some (a.1, l)) =
      if attrs.all (fun a => a.2.all savableSlot) then some attrs else none := by
  rw [getD_protobufArray, List.map_map, List.mapM_map]
  have hattr : ∀ a ∈ attrs, ((toPrimitiveList (protobufArray protobuf
      (some (fromPrimitiveList a.2)))).bind fun l => some (a.1, l)) =
      if a.2.all savableSlot then some a else none := by
    intro a _
    rw [toPrimitiveList_protobuf, bind_ite_some]
  simpa [Function.comp_def] using mapM_of_tested hattr

/-- A state is restored to what it was, apart from the permissions and from empty arrays of
detect variables, or it cannot be saved or restored. -/
theorem restored_eq (s : ScriptState F) :
    s.restored = if s.savable then some s.afterRestore else none := by
  have hqueue := mapM_of_tested fun evt (_ : evt ∈ s.eventQueue) => fromPostedEvent_eq evt
  have hrunning := mapM_fromPostedEvent s.runningEvent
  simp only [ScriptState.restored, SerializedRuntimeState.fromRuntimeState, hqueue, hrunning,
    Option.bind_eq_bind, bind_ite_some]
  by_cases hsome : s.eventQueue.all (fun evt => evt.args.isSome) = true ∧
      s.runningEvent.all (fun evt => evt.args.isSome) = true
  · rw [if_pos hsome.1, if_pos hsome.2, Option.bind_some, SerializedRuntimeState.toRuntimeState]
    simp only [SerializedRuntimeState.protobuf, toPrimitiveList_protobuf,
      toPrimitiveStack_protobuf, calls_restored, eventQueue_restored hsome.1,
      runningEvent_restored hsome.2, miscAttributes_restored, Option.bind_eq_bind, bind_ite_some,
      ScriptState.savable, Bool.and_eq_true, ite_and]
    rw [getD_protobufArray, List.map_id]
    rfl
  · -- an event without arguments: the state cannot be saved
    have hnot : ¬ s.savable = true := by
      intro hs
      simp only [ScriptState.savable, Bool.and_eq_true] at hs
      obtain ⟨⟨⟨-, hqueue⟩, hrunning⟩, -⟩ := hs
      refine hsome ⟨?_, ?_⟩
      · rw [List.all_eq_true] at hqueue ⊢
        exact fun evt hevt => isSome_args_of_savable (hqueue evt hevt)
      · cases hr : s.runningEvent with
        | none => rfl
        | some evt =>
          rw [hr] at hrunning
          exact isSome_args_of_savable hrunning
    rw [if_neg hnot]
    by_cases hqueue : s.eventQueue.all (fun evt => evt.args.isSome) = true
    · rw [if_pos hqueue, if_neg fun hrunning => hsome ⟨hqueue, hrunning⟩]
      rfl
    · rw [if_neg hqueue]
      rfl

/-! ## Transparent saves -/

/-- The state is restored as it was, and a run goes on from it as without the restore. -/
def ScriptState.Transparent [FloatArith F] (s : ScriptState F) : Prop :=
  ∃ r, s.restored = some r ∧ r = s ∧ ∀ (sc : CompiledScript F) (es : List (RunEvent F)),
    run sc.step r.toRuntimeState es = run sc.step s.toRuntimeState es

lemma afterRestore_eq_self_iff (evt : PostedEvent F) :
    evt.afterRestore = evt ↔ evt.detectVars ≠ some [] := by
  obtain ⟨eventType, args, detectVars, transitionToState⟩ := evt
  rcases detectVars with - | ⟨- | ⟨d, ds⟩⟩ <;> simp [PostedEvent.afterRestore, protobufArray]

lemma map_afterRestore_iff (es : List (PostedEvent F)) :
    es.map PostedEvent.afterRestore = es ↔ ∀ evt ∈ es, evt.detectVars ≠ some [] := by
  have h := List.map_eq_map_iff (f := PostedEvent.afterRestore) (g := id) (l := es)
  simpa [afterRestore_eq_self_iff] using h

lemma ScriptState.afterRestore_eq_self_iff (s : ScriptState F) :
    s.afterRestore = s ↔ s.permsGranter = none ∧ s.grantedPermsMask = 0 ∧
      ∀ evt ∈ s.eventQueue ++ s.runningEvent.toList, evt.detectVars ≠ some [] := by
  have hrunning : s.runningEvent.map PostedEvent.afterRestore = s.runningEvent ↔
      ∀ evt ∈ s.runningEvent.toList, evt.detectVars ≠ some [] := by
    cases s.runningEvent with
    | none => simp
    | some evt => simpa using Halcyon.Joke.afterRestore_eq_self_iff evt
  rw [List.forall_mem_append, ← map_afterRestore_iff, ← hrunning]
  obtain ⟨core, queue, enable, timer, running, granter, mask, listens, start, misc⟩ := s
  simp only [ScriptState.afterRestore, ScriptState.mk.injEq, true_and, and_true]
  constructor
  · rintro ⟨hq, hr, hg, hm⟩
    exact ⟨hg.symm, hm.symm, hq, hr⟩
  · rintro ⟨hg, hm, hq, hr⟩
    exact ⟨hq, hr, hg.symm, hm.symm⟩

/-- Saving and restoring is transparent exactly when no permissions are set, no event in the
queue or running has an empty array of detect variables, and all values survive. -/
theorem transparent_iff [FloatArith F] (s : ScriptState F) :
    s.Transparent ↔ s.permsGranter = none ∧ s.grantedPermsMask = 0 ∧ s.savable = true ∧
      ∀ evt ∈ s.eventQueue ++ s.runningEvent.toList, evt.detectVars ≠ some [] := by
  have hself := s.afterRestore_eq_self_iff
  constructor
  · rintro ⟨r, hr, rfl, -⟩
    rw [restored_eq] at hr
    by_cases hsavable : r.savable = true
    · rw [if_pos hsavable] at hr
      obtain ⟨hgranter, hmask, hevents⟩ := hself.mp (Option.some.inj hr)
      exact ⟨hgranter, hmask, hsavable, hevents⟩
    · rw [if_neg hsavable] at hr
      simp at hr
  · rintro ⟨hgranter, hmask, hsavable, hevents⟩
    refine ⟨s, ?_, rfl, fun sc es => rfl⟩
    rw [restored_eq, if_pos hsavable, hself.mpr ⟨hgranter, hmask, hevents⟩]

/-- The state of a newly loaded script (`RuntimeState.Reset`). -/
def CompiledScript.loaded (sc : CompiledScript F) : ScriptState F where
  toRuntimeState := sc.initial
  eventQueue := []
  generalEnable := true
  timerInterval := 0
  runningEvent := none
  permsGranter := some ""
  grantedPermsMask := 0
  activeListens := []
  startParameter := 0
  miscAttributes := []

/-- A state that was saved and restored once can be saved and restored again. -/
theorem transparent_of_null_granter :
    { (CompiledScript.mk [] [] [] 1 : CompiledScript Unit).loaded with
      permsGranter := none }.Transparent :=
  (transparent_iff _).mpr ⟨rfl, rfl, rfl, by simp [CompiledScript.loaded]⟩

/-- A script whose owner has granted it permission 4 has none after a restore. -/
theorem granted_permissions_lost :
    ∃ s r : ScriptState Unit, s = { (CompiledScript.mk [] [] [] 1).loaded with
        permsGranter := some "a0000000-0000-0000-0000-000000000000", grantedPermsMask := 4 } ∧
      s.restored = some r ∧ r.permsGranter = none ∧ r.grantedPermsMask = 0 ∧ ¬ s.Transparent := by
  refine ⟨_, _, rfl, rfl, rfl, rfl, ?_⟩
  rintro ⟨r, hr, rfl, -⟩
  cases hr

end Halcyon.Joke
