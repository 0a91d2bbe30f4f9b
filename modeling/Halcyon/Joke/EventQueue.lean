import Halcyon.Joke.Events
import Halcyon.Joke.Serialization

/-!
# The event queue of a script

`VM/RuntimeState.cs` keeps the events that were posted to a script in a linked list.  Events are
added at its end while it holds fewer than 64, or in any case for the four kinds of events a script
must not miss; they are taken off its front, and a state change or a reset clears it.

`QueueRun` follows a queue through a run and numbers the events as they are accepted.  In every run
the events that were taken and those still queued are in the order of their arrival, and every
accepted event is taken, queued or dropped once (`Orderly`).

`RemovePendingTimerEvent` is documented to remove any pending timer events, but removes the first
one only, and nothing keeps a second one from being queued.  What each operation is to do is
`Disciplined`; it holds as long as no more than one timer event is queued whenever that method is
called.
-/

namespace Halcyon.Joke

open Halcyon.Lib.Transition

variable {F : Type}

/-! ## The queue -/

/-- `MAX_EVENT_QUEUE_SIZE`. -/
def maxEventQueueSize : Nat := 64

/-- The members of `SupportedEventList.Events` the queue distinguishes. -/
def onRezEvent : Nat := 25
@[inherit_doc onRezEvent] def stateEntryEvent : Nat := 29
@[inherit_doc onRezEvent] def stateExitEvent : Nat := 30
@[inherit_doc onRezEvent] def timerEvent : Nat := 31

/-- `OVERFLOWABLE_EVENTS`. -/
def overflowableEvents : List Nat := [onRezEvent, stateEntryEvent, stateExitEvent, timerEvent]

example : overflowableEvents = (supportedEvents.filter fun sig =>
    sig.functionName ∈ ["on_rez", "state_entry", "state_exit", "timer"]).map
      EventSig.tableIndex := by
  decide

/-- `AllowOverflow`. -/
def PostedEvent.allowOverflow (evt : PostedEvent F) : Bool :=
  overflowableEvents.contains evt.eventType

def PostedEvent.isTimer (evt : PostedEvent F) : Bool := evt.eventType == timerEvent

namespace ScriptState

/-- `QueueEvent` accepts the event. -/
def accepts (s : ScriptState F) (evt : PostedEvent F) : Bool :=
  s.eventQueue.length < maxEventQueueSize || evt.allowOverflow

/-- `QueueEvent`. -/
def queueEvent (s : ScriptState F) (evt : PostedEvent F) : ScriptState F :=
  if s.accepts evt then { s with eventQueue := s.eventQueue ++ [evt] } else s

/-- `IsEventQueued`. -/
def isEventQueued (s : ScriptState F) (evtType : Nat) : Bool :=
  s.eventQueue.any fun evt => evt.eventType == evtType

/-- `StateChangePrep`. -/
def stateChangePrep (s : ScriptState F) : ScriptState F :=
  { s with toRuntimeState := s.toRuntimeState.stateChangePrep, eventQueue := [] }

/-- `Reset`, apart from the members that depend on the clock. -/
def reset (s : ScriptState F) : ScriptState F where
  ip := 0
  lslState := 0
  globals := s.globals.map fun _ => none
  operands := []
  calls := []
  memoryUsed := 0
  runState := .running
  eventQueue := []
  generalEnable := true
  timerInterval := 0
  runningEvent := none
  permsGranter := some ""
  grantedPermsMask := 0
  activeListens := []
  startParameter := 0
  miscAttributes := s.miscAttributes

/-- `RemovePendingTimerEvent`.  The event that is found is the first timer event, and the first
element that equals it is itself. -/
def removePendingTimerEvent (s : ScriptState F) : ScriptState F :=
  { s with eventQueue := s.eventQueue.eraseP PostedEvent.isTimer }

end ScriptState

/-! ## Runs -/

/-- A script whose events were numbered on their arrival. -/
structure QueueRun (F : Type) where
  script : ScriptState F
  /-- The numbers of the queued events. -/
  numbers : List Nat
  /-- The number of events that were accepted. -/
  accepted : Nat
  /-- The numbers of the events that were taken off the front, in that order. -/
  taken : List Nat
  /-- The numbers of the events that were cleared, or removed as timer events. -/
  dropped : List Nat

namespace QueueRun

/-- What can happen to the queue. -/
inductive Event (F : Type)
  | post (evt : PostedEvent F)
  | take
  | removeTimer
  | stateChange
  | reset

/-- A script with an empty queue. -/
def start (script : ScriptState F) : QueueRun F := ⟨{ script with eventQueue := [] }, [], 0, [], []⟩

/-- One step.  An event can be taken only if one is queued. -/
def step (r : QueueRun F) : Event F → Option (QueueRun F)
  | .post evt =>
    some { r with
      script := r.script.queueEvent evt
      numbers := if r.script.accepts evt then r.numbers ++ [r.accepted] else r.numbers
      accepted := if r.script.accepts evt then r.accepted + 1 else r.accepted }
  | .take =>
    match r.script.eventQueue with
    | [] => none
    | _ :: rest =>
      some { r with
        script := { r.script with eventQueue := rest }
        numbers := r.numbers.tail
        taken := r.taken ++ r.numbers.take 1 }
  | .removeTimer =>
    let i := r.script.eventQueue.findIdx PostedEvent.isTimer
    some { r with
      script := r.script.removePendingTimerEvent
      numbers := r.numbers.eraseIdx i
      dropped := r.dropped ++ r.numbers[i]?.toList }
  | .stateChange =>
    some { r with
      script := r.script.stateChangePrep, numbers := [], dropped := r.dropped ++ r.numbers }
  | .reset =>
    some { r with script := r.script.reset, numbers := [], dropped := r.dropped ++ r.numbers }

/-- Events leave the queue in the order of their arrival, and each accepted one is taken, queued or
dropped exactly once. -/
structure Orderly (r : QueueRun F) : Prop where
  length : r.numbers.length = r.script.eventQueue.length
  ordered : (r.taken ++ r.numbers).Pairwise (· < ·)
  complete : (r.taken ++ r.numbers ++ r.dropped).Perm (List.range r.accepted)

/-- What a step is to do to the queue. -/
def Disciplined (r : QueueRun F) : Event F → QueueRun F → Prop
  | .post evt, r' => r'.script.eventQueue =
      if r.script.eventQueue.length < maxEventQueueSize ∨ evt.eventType ∈ overflowableEvents then
        r.script.eventQueue ++ [evt]
      else r.script.eventQueue
  | .take, r' => ∃ evt, r.script.eventQueue = evt :: r'.script.eventQueue
  | .removeTimer, r' => r'.script.isEventQueued timerEvent = false ∧
      r'.script.eventQueue.filter (fun evt => !evt.isTimer) =
        r.script.eventQueue.filter fun evt => !evt.isTimer
  | .stateChange, r' => r'.script.eventQueue = []
  | .reset, r' => r'.script.eventQueue = []

/-- At most one timer event is queued when timer events are to be removed. -/
def SingleTimer (r : QueueRun F) : Event F → Prop
  | .removeTimer => r.script.eventQueue.countP PostedEvent.isTimer ≤ 1
  | _ => True

/-! ## Each step -/

variable {r r' : QueueRun F} {e : Event F}

lemma orderly_start (script : ScriptState F) : Orderly (start script) :=
  ⟨rfl, List.Pairwise.nil, List.Perm.refl _⟩

/-- A number that was given out is smaller than the next one. -/
lemma Orderly.lt (h : Orderly r) {n : Nat} (hn : n ∈ r.taken ++ r.numbers) : n < r.accepted := by
  have hmem : n ∈ List.range r.accepted :=
    h.complete.mem_iff.mp (List.mem_append_left _ hn)
  exact List.mem_range.mp hmem

lemma Orderly.post (h : Orderly r) {evt : PostedEvent F} (hstep : step r (.post evt) = some r') :
    Orderly r' := by
  cases hstep
  by_cases haccepts : r.script.accepts evt = true
  · refine ⟨?_, ?_, ?_⟩
    · simp [ScriptState.queueEvent, haccepts, h.length]
    · simp only [if_pos haccepts]
      rw [← List.append_assoc, List.pairwise_append]
      refine ⟨h.ordered, List.pairwise_singleton _ _, fun a ha b hb => ?_⟩
      rw [List.mem_singleton.mp hb]
      exact h.lt ha
    · simp only [if_pos haccepts]
      rw [List.range_succ]
      have hmove : (r.taken ++ (r.numbers ++ [r.accepted]) ++ r.dropped).Perm
          (r.taken ++ r.numbers ++ r.dropped ++ [r.accepted]) := by
        simp only [List.append_assoc]
        exact ((List.perm_append_comm).append_left _).append_left _
      exact hmove.trans (h.complete.append_right _)
  · simp only [if_neg haccepts, ScriptState.queueEvent]
    exact { h with }

lemma Orderly.take (h : Orderly r) (hstep : step r .take = some r') : Orderly r' := by
  simp only [step] at hstep
  split at hstep
  · cases hstep
  · rename_i evt rest hqueue
    cases hstep
    have hlength := h.length
    rw [hqueue, List.length_cons] at hlength
    have hsplit : r.taken ++ r.numbers.take 1 ++ r.numbers.tail = r.taken ++ r.numbers := by
      rw [List.append_assoc, ← List.drop_one, List.take_append_drop]
    refine ⟨?_, ?_, ?_⟩
    · simp only [List.length_tail]
      omega
    · rw [hsplit]
      exact h.ordered
    · rw [hsplit]
      exact h.complete

/-- Taking one element out of a list. -/
lemma eraseIdx_perm (l : List Nat) (i : Nat) : (l.eraseIdx i ++ l[i]?.toList).Perm l := by
  by_cases hi : i < l.length
  · rw [List.getElem?_eq_getElem hi, Option.toList_some]
    exact (List.perm_append_singleton _ _).trans (List.getElem_cons_eraseIdx_perm hi)
  · rw [List.getElem?_eq_none (by omega), List.eraseIdx_of_length_le (by omega)]
    simp

lemma Orderly.removeTimer (h : Orderly r) (hstep : step r .removeTimer = some r') :
    Orderly r' := by
  cases hstep
  generalize hi : r.script.eventQueue.findIdx PostedEvent.isTimer = i
  refine ⟨?_, ?_, ?_⟩
  · simp only [ScriptState.removePendingTimerEvent, List.length_eraseIdx, List.length_eraseP,
      h.length, ← hi, List.findIdx_lt_length, List.any_eq_true]
  · exact h.ordered.sublist ((List.eraseIdx_sublist ..).append_left _)
  · have hmove : (r.taken ++ r.numbers.eraseIdx i ++ (r.dropped ++ r.numbers[i]?.toList)).Perm
        (r.taken ++ (r.numbers.eraseIdx i ++ r.numbers[i]?.toList) ++ r.dropped) := by
      simp only [List.append_assoc]
      exact ((List.perm_append_comm).append_left _).append_left _
    exact (hmove.trans (((eraseIdx_perm _ _).append_left _).append_right _)).trans h.complete

/-- The queue is cleared. -/
lemma Orderly.clear (h : Orderly r) {script : ScriptState F} (hscript : script.eventQueue = []) :
    Orderly { r with script := script, numbers := [], dropped := r.dropped ++ r.numbers } := by
  refine ⟨by rw [hscript]; rfl, ?_, ?_⟩
  · exact h.ordered.sublist (List.Sublist.append_left (List.nil_sublist _) _)
  · have hmove : (r.taken ++ [] ++ (r.dropped ++ r.numbers)).Perm
        (r.taken ++ r.numbers ++ r.dropped) := by
      rw [List.append_nil, List.append_assoc]
      exact List.perm_append_comm.append_left _
    exact hmove.trans h.complete

/-- Every step keeps the order. -/
lemma Orderly.step (h : Orderly r) (hstep : step r e = some r') : Orderly r' := by
  cases e with
  | post evt => exact h.post hstep
  | take => exact h.take hstep
  | removeTimer => exact h.removeTimer hstep
  | stateChange =>
    cases hstep
    exact h.clear rfl
  | reset =>
    cases hstep
    exact h.clear rfl

/-- After the removal of the first timer event none is left exactly if there was at most one. -/
lemma any_eraseP_isTimer (queue : List (PostedEvent F)) :
    (queue.eraseP PostedEvent.isTimer).any PostedEvent.isTimer = false ↔
      queue.countP PostedEvent.isTimer ≤ 1 := by
  have hcount : (queue.eraseP PostedEvent.isTimer).any PostedEvent.isTimer = false ↔
      (queue.eraseP PostedEvent.isTimer).countP PostedEvent.isTimer = 0 := by
    rw [List.countP_eq_zero, List.any_eq_false]
  rw [hcount]
  obtain hsame | ⟨evt, before, after, hbefore, hevt, heq, herase⟩ :=
    List.exists_or_eq_self_of_eraseP PostedEvent.isTimer queue
  · have hzero : queue.countP PostedEvent.isTimer = 0 :=
      List.countP_eq_zero.mpr (List.eraseP_eq_self_iff.mp hsame)
    rw [hsame, hzero]
    simp
  · have hzero : before.countP PostedEvent.isTimer = 0 := List.countP_eq_zero.mpr hbefore
    rw [herase, heq, List.countP_append, List.countP_append, List.countP_cons_of_pos hevt, hzero]
    omega

/-- The other events keep their order. -/
lemma filter_eraseP_isTimer (queue : List (PostedEvent F)) :
    (queue.eraseP PostedEvent.isTimer).filter (fun evt => !evt.isTimer) =
      queue.filter fun evt => !evt.isTimer := by
  obtain hsame | ⟨evt, before, after, -, hevt, heq, herase⟩ :=
    List.exists_or_eq_self_of_eraseP PostedEvent.isTimer queue
  · rw [hsame]
  · rw [herase, heq]
    simp [hevt]

/-- What a step does to the queue; for the removal of timer events this needs the condition, and
no less. -/
lemma disciplined_iff (hstep : step r e = some r') : Disciplined r e r' ↔ SingleTimer r e := by
  cases e with
  | post evt =>
    cases hstep
    refine iff_of_true ?_ trivial
    simp only [Disciplined, ScriptState.queueEvent, ScriptState.accepts,
      PostedEvent.allowOverflow, Bool.or_eq_true, decide_eq_true_eq, List.contains_iff_mem]
    split <;> rfl
  | take =>
    refine iff_of_true ?_ trivial
    simp only [QueueRun.step] at hstep
    split at hstep
    · cases hstep
    · rename_i evt rest hqueue
      cases hstep
      exact ⟨evt, hqueue⟩
  | removeTimer =>
    cases hstep
    exact (and_iff_left (filter_eraseP_isTimer _)).trans (any_eraseP_isTimer _)
  | stateChange =>
    cases hstep
    exact iff_of_true rfl trivial
  | reset =>
    cases hstep
    exact iff_of_true rfl trivial

/-- In every run in which no more than one timer event is queued whenever timer events are removed,
every step does what it is to do, and the events leave the queue in the order of their arrival. -/
theorem queueDiscipline_of_run {script : ScriptState F} {events : List (Event F)}
    (hrun : run step (start script) events = some r) (hstep : step r e = some r')
    (hmeets : Meets step SingleTimer (start script) (events ++ [e])) :
    Disciplined r e r' ∧ Orderly r' := by
  have horderly : Orderly r := invariant (fun _ _ _ h => h.step) hrun (orderly_start script)
  obtain ⟨hsingle, -⟩ := hmeets.append_right hrun
  exact ⟨(disciplined_iff hstep).mpr hsingle, horderly.step hstep⟩

/-! ## Two timer events -/

/-- A script without variables that waits for events. -/
def sampleScript : ScriptState Unit where
  ip := 0
  lslState := 0
  globals := []
  operands := []
  calls := []
  memoryUsed := 0
  runState := .waiting
  eventQueue := []
  generalEnable := true
  timerInterval := 1000
  runningEvent := none
  permsGranter := some ""
  grantedPermsMask := 0
  activeListens := []
  startParameter := 0
  miscAttributes := []

/-- An event without arguments. -/
def samplePosted (eventType : Nat) : PostedEvent Unit := ⟨eventType, some [], none, -1⟩

/-- A timer event between two others is removed, and the others stay in order. -/
theorem queueDiscipline_sampleRun :
    ∃ r r', run step (start sampleScript) [.post (samplePosted 33), .post (samplePosted timerEvent),
        .post (samplePosted 34)] = some r ∧ step r .removeTimer = some r' ∧
      Disciplined r .removeTimer r' ∧ Orderly r' := by
  have hmeets : Meets step SingleTimer (start sampleScript) ([.post (samplePosted 33),
      .post (samplePosted timerEvent), .post (samplePosted 34)] ++ [.removeTimer]) :=
    .cons rfl trivial (.cons rfl trivial (.cons rfl trivial (.cons rfl (Nat.le_refl 1) trivial)))
  exact ⟨_, _, rfl, rfl, queueDiscipline_of_run rfl rfl hmeets⟩

/-- Of two timer events one is still queued after timer events were removed. -/
theorem not_disciplined_twoTimers :
    ∃ r r', run step (start sampleScript) [.post (samplePosted timerEvent),
        .post (samplePosted timerEvent)] = some r ∧ step r .removeTimer = some r' ∧
      r'.script.isEventQueued timerEvent = true ∧ ¬ Disciplined r .removeTimer r' := by
  refine ⟨_, _, rfl, rfl, rfl, fun h => ?_⟩
  cases h.1

end QueueRun

end Halcyon.Joke
