import Mathlib.Algebra.Order.Ring.Int

/-!
# Timers across a restart

A script notes when it is to wake up and when its timer was last scheduled as tick counts, which are
milliseconds since the machine was started.  A saved state has calendar times instead
(`Serialization/SerializedRuntimeState.cs`): saving turns the tick counts into times relative to the
moment of saving, and restoring turns these back into tick counts of another machine.

Tick counts are unsigned, so a timer cannot have been scheduled before a machine was started; when
it would have been, the restored stamp is zero.  A script restored on a machine that runs for less
time than has passed since its timer was scheduled therefore loses the difference.

The conversions are made in the signed arithmetic of 64 bits.  The results are stated for tick
counts for which nothing overflows there.  Calendar times are milliseconds, without a bound.
-/

namespace Halcyon.Joke.Timers

/-- The tick counts of a `RuntimeState`. -/
structure TickStamps where
  nextWakeup : BitVec 64
  stateCapturedOn : BitVec 64
  timerLastScheduledOn : BitVec 64
  deriving DecidableEq, Repr

/-- The calendar times of a `SerializedRuntimeState`. -/
structure SavedStamps where
  stateCapturedOn : Int
  nextWakeup : Int
  timerLastScheduledOn : Int
  deriving DecidableEq, Repr

/-- `Clock.TickCountToDateTime`, at the calendar time `now`. -/
def tickCountToDateTime (now : Int) (tickCount currentTickCount : BitVec 64) : Int :=
  if tickCount = 0 then now else now + (tickCount - currentTickCount).toInt

/-- `SerializedRuntimeState.FromRuntimeState`, at the given calendar time and tick count. -/
def fromRuntimeState (now : Int) (tickCountNow : BitVec 64) (state : TickStamps) : SavedStamps where
  stateCapturedOn := now
  -- a wakeup in the past becomes the time of saving
  nextWakeup :=
    if state.nextWakeup < tickCountNow then now
    else tickCountToDateTime now state.nextWakeup tickCountNow
  timerLastScheduledOn := tickCountToDateTime now state.timerLastScheduledOn tickCountNow

/-- A time relative to the moment of saving, as a tick count of this machine. -/
def relativeTick (currentTickCount : BitVec 64) (sinceCapture : Int) : BitVec 64 :=
  let relative := currentTickCount + BitVec.ofInt 64 sinceCapture
  if relative.toInt < 0 then 0 else relative

/-- `SerializedRuntimeState.ToRuntimeState`, at the given tick count. -/
def toRuntimeState (currentTickCount : BitVec 64) (saved : SavedStamps) : TickStamps where
  stateCapturedOn := currentTickCount
  nextWakeup := relativeTick currentTickCount (saved.nextWakeup - saved.stateCapturedOn)
  timerLastScheduledOn :=
    relativeTick currentTickCount (saved.timerLastScheduledOn - saved.stateCapturedOn)

/-- How long the script is still to sleep. -/
def remainingSleep (tickCount : BitVec 64) (state : TickStamps) : Nat :=
  state.nextWakeup.toNat - tickCount.toNat

/-- How long ago its timer was scheduled. -/
def elapsed (tickCount : BitVec 64) (state : TickStamps) : Nat :=
  tickCount.toNat - state.timerLastScheduledOn.toNat

/-! ## The two conversions -/

/-- The signed difference of two tick counts that are not too far apart. -/
lemma toInt_sub {a b : BitVec 64} (hle : b.toNat < a.toNat + 2 ^ 63)
    (hlt : a.toNat < b.toNat + 2 ^ 63) : (a - b).toInt = a.toNat - b.toNat := by
  have ha := a.isLt
  have hb := b.isLt
  rw [BitVec.toInt_eq_toNat_cond, BitVec.toNat_sub]
  split <;> omega

/-- A later time, as a tick count of this machine. -/
lemma toNat_relativeTick_natCast {r : BitVec 64} {d : Nat} (h : r.toNat + d < 2 ^ 63) :
    (relativeTick r d).toNat = r.toNat + d := by
  have hnat : (r + BitVec.ofInt 64 d).toNat = r.toNat + d := by
    rw [BitVec.toNat_add, BitVec.toNat_ofInt]
    omega
  have hint : ¬ (r + BitVec.ofInt 64 d).toInt < 0 := by
    rw [BitVec.toInt_eq_toNat_cond, hnat]
    split <;> omega
  rw [relativeTick, if_neg hint, hnat]

/-- An earlier time, as a tick count of this machine, which was not running before zero. -/
lemma toNat_relativeTick_neg {r : BitVec 64} {d : Nat} (hr : r.toNat < 2 ^ 63) (hd : d < 2 ^ 63) :
    (relativeTick r (-d)).toNat = r.toNat - d := by
  have hnat : ((r + BitVec.ofInt 64 (-d)).toNat : Int) = (r.toNat - d : Int) % 2 ^ 64 := by
    rw [BitVec.toNat_add, BitVec.toNat_ofInt]
    omega
  rw [relativeTick]
  have hint := BitVec.toInt_eq_toNat_cond (r + BitVec.ofInt 64 (-d))
  rcases Nat.lt_or_ge r.toNat d with hlt | hge
  · rw [if_pos (by split at hint <;> omega)]
    have hzero : (0 : BitVec 64).toNat = 0 := rfl
    omega
  · rw [if_neg (by split at hint <;> omega)]
    omega

/-! ## Saving and restoring -/

section Restart

variable {s : TickStamps} {t r : BitVec 64} (now : Int)

/-- The time until the next wakeup, which is not negative in a saved state. -/
lemma nextWakeup_fromRuntimeState (h : remainingSleep t s < 2 ^ 63) :
    (fromRuntimeState now t s).nextWakeup - (fromRuntimeState now t s).stateCapturedOn =
      remainingSleep t s := by
  simp only [fromRuntimeState, remainingSleep] at h ⊢
  by_cases hpast : s.nextWakeup < t
  · rw [if_pos hpast]
    have hlt : s.nextWakeup.toNat < t.toNat := hpast
    omega
  · have hge : t.toNat ≤ s.nextWakeup.toNat := by simpa [BitVec.lt_def] using hpast
    rw [if_neg hpast, tickCountToDateTime]
    split
    · rename_i hzero
      have : s.nextWakeup.toNat = 0 := by rw [hzero]; rfl
      omega
    · rw [toInt_sub (by omega) (by omega)]
      omega

/-- The time since the timer was scheduled, which lies before the moment of saving. -/
lemma timerLastScheduledOn_fromRuntimeState (hset : s.timerLastScheduledOn ≠ 0)
    (hpast : s.timerLastScheduledOn.toNat ≤ t.toNat) (h : elapsed t s < 2 ^ 63) :
    (fromRuntimeState now t s).timerLastScheduledOn - (fromRuntimeState now t s).stateCapturedOn =
      -(elapsed t s : Int) := by
  simp only [fromRuntimeState, elapsed, tickCountToDateTime] at h ⊢
  rw [if_neg hset, toInt_sub (by omega) (by omega)]
  omega

end Restart

end Halcyon.Joke.Timers
