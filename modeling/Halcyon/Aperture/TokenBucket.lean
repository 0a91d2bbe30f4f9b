import Halcyon.Aperture.Handler
import Mathlib.Tactic.Ring

/-!
# The bandwidth limit

A capability may have a `TokenBucket`, which the connections that send replies under it share.  A
body is sent in chunks: `try_send_next_chunk` removes as many tokens as the next chunk has bytes, or
waits when the bucket has too few.  The bucket is filled by `drip`, which counts whole milliseconds
since it last added something.

Times are readings of the clock in nanoseconds.  `drip` reads it twice, for the elapsed time and for
`_lastDrip`; the readings are part of the events, and an event whose readings go back cannot happen.

The bucket never holds more than its burst.  What it releases in a window is bounded by the burst
and what the limit allows for the window and one millisecond more: part of a millisecond in front of
the window counts when `drip` has been called within it and has found no whole millisecond.
-/

namespace Halcyon.Aperture

open Lib.Transition
open Whip (Bytes)

/-! ## The bucket -/

/-- A bandwidth: an `int`. -/
structure Bandwidth where
  value : Int
  lower : -2 ^ 31 ≤ value
  upper : value < 2 ^ 31

/-- What the commands accept as a bandwidth is an `int`. -/
lemma Bandwidth.of_lexicalCastInt {text : Text} {n : Int} (h : lexicalCastInt text = some n) :
    (∃ b : Bandwidth, b.value = n) ∧ ∃ b : Bandwidth, b.value = Handler.limitOf n := by
  have hrange : -2 ^ 31 ≤ n ∧ n < 2 ^ 31 := by
    unfold lexicalCastInt at h
    split at h
    all_goals
      simp only [Option.map_eq_some_iff, Option.bind_eq_bind, Option.bind_eq_some_iff,
        Option.filter_eq_some_iff, decide_eq_true_eq] at h
    · obtain ⟨k, ⟨-, hk⟩, rfl⟩ := h
      rw [Int.ofNat_eq_natCast]
      omega
    · obtain ⟨_, ⟨k, ⟨-, hk⟩, hcast⟩, rfl⟩ := h
      obtain rfl := Option.some.inj hcast
      have : (k : Int) ≤ 2 ^ 31 := by exact_mod_cast hk
      omega
    · obtain ⟨k, ⟨-, hk⟩, rfl⟩ := h
      rw [Int.ofNat_eq_natCast]
      omega
  refine ⟨⟨⟨n, hrange.1, hrange.2⟩, rfl⟩, ⟨Handler.limitOf n, ?_, ?_⟩, rfl⟩
  all_goals
    unfold Handler.limitOf
    split_ifs <;> omega

/-- `TokenBucket`; `maxBurst` and `tokens` are of type `size_t`. -/
structure TokenBucket where
  maxBurst : Nat
  tokens : Nat
  lastDrip : Nat
  tokensPerMS : Nat
  deriving DecidableEq

namespace TokenBucket

/-- The constructor, which reads the clock once. -/
def new (maxBandwidth : Bandwidth) (now : Nat) : TokenBucket where
  maxBurst := (maxBandwidth.value % 2 ^ 64).toNat
  tokens := (maxBandwidth.value % 2 ^ 64).toNat
  lastDrip := now
  tokensPerMS :=
    if maxBandwidth.value.tdiv 1000 ≤ 0 then 1 else (maxBandwidth.value.tdiv 1000).toNat

/-- The milliseconds since the last drip. -/
def deltaTime (b : TokenBucket) (now : Nat) : Nat := (now - b.lastDrip) / 10 ^ 6

/-- `drip`, with the two readings of the clock. -/
def drip (b : TokenBucket) (first second : Nat) : TokenBucket :=
  if b.deltaTime first = 0 then b
  else { b with
    tokens := min ((b.tokens + b.tokensPerMS * b.deltaTime first) % 2 ^ 64) b.maxBurst
    lastDrip := second }

/-- `removeTokens`. -/
def removeTokens (b : TokenBucket) (amount first second : Nat) : Bool × TokenBucket :=
  let b := b.drip first second
  if amount ≤ b.tokens then (true, { b with tokens := b.tokens - amount }) else (false, b)

end TokenBucket

/-! ## Replies in chunks -/

/-- What a connection does about the body of its reply. -/
inductive ChunkPhase
  | header
  | writing (size : Nat)
  | waiting
  | completed
  | stopped
  deriving DecidableEq

/-- The reply of a connection; `wire` are the bytes of the body that were given to `async_write`. -/
structure ChunkedReply where
  content : Bytes
  bytesSent : Nat
  phase : ChunkPhase
  wire : Bytes
  deriving DecidableEq

namespace ChunkedReply

/-- A reply whose header is being written. -/
def start (content : Bytes) : ChunkedReply := ⟨content, 0, .header, []⟩

/-- `remaining_bytes`. -/
def remainingBytes (r : ChunkedReply) : Nat := r.content.length - r.bytesSent

/-- `get_next_chunk`. -/
def getNextChunk (r : ChunkedReply) (maxSize : Nat) : Bytes :=
  (r.content.drop r.bytesSent).take (min maxSize r.remainingBytes)

/-- `transmissionSize`: the number of bytes of the next chunk. -/
def transmissionSize (b : TokenBucket) (r : ChunkedReply) : Nat := min r.remainingBytes b.maxBurst

/-- `try_send_next_chunk`; behind the reply are the bytes that are released. -/
def trySendNextChunk (b : TokenBucket) (r : ChunkedReply) (first second : Nat) :
    TokenBucket × ChunkedReply × Bytes :=
  if r.bytesSent = r.content.length then (b, { r with phase := .completed }, [])
  else
    match b.removeTokens (r.transmissionSize b) first second with
    | (true, b') =>
      let chunk := r.getNextChunk (r.transmissionSize b)
      (b', { r with phase := .writing chunk.length, wire := r.wire ++ chunk }, chunk)
    | (false, b') => (b', { r with phase := .waiting }, [])

/-- The completions that go on with the reply: `handle_tb_header_write` and `handle_tb_write`
without an error, and `on_tb_wait_timeout`. -/
def resume (b : TokenBucket) (r : ChunkedReply) (first second : Nat) :
    Option (TokenBucket × ChunkedReply × Bytes) :=
  match r.phase with
  | .header | .waiting => some (r.trySendNextChunk b first second)
  | .writing size =>
    some ({ r with bytesSent := r.bytesSent + size }.trySendNextChunk b first second)
  | .completed | .stopped => none

end ChunkedReply

/-! ## Connections that share a bucket -/

/-- The bytes that a call releases, with the readings of the clock in it. -/
structure Release where
  first : Nat
  second : Nat
  bytes : Nat
  deriving DecidableEq

/-- A bucket and the connections that use it, with the last reading of the clock and everything
released so far. -/
structure Shared (ι : Type) where
  bucket : TokenBucket
  replies : ι → ChunkedReply
  now : Nat
  released : List Release

/-- What happens: a completion goes on with a reply, a write fails, or a connection has another
reply. -/
inductive SharedEvent (ι : Type)
  | resume (i : ι) (first second : Nat)
  | fail (i : ι)
  | reply (i : ι) (content : Bytes)

namespace Shared

variable {ι : Type}

/-- A bucket that has just been created. -/
def create (limit : Bandwidth) (now : Nat) (replies : ι → ChunkedReply) : Shared ι where
  bucket := .new limit now
  replies := replies
  now := now
  released := []

/-- The effect of an event. -/
def step [DecidableEq ι] (s : Shared ι) : SharedEvent ι → Option (Shared ι)
  | .resume i first second =>
    if s.now ≤ first ∧ first ≤ second then
      ((s.replies i).resume s.bucket first second).map fun (b, r, chunk) =>
        ⟨b, Function.update s.replies i r, second, s.released ++ [⟨first, second, chunk.length⟩]⟩
    else none
  | .fail i =>
    match (s.replies i).phase with
    | .header | .writing _ =>
      some { s with
        replies := Function.update s.replies i { s.replies i with phase := .stopped } }
    | _ => none
  | .reply i content =>
    if (s.replies i).phase = .completed then
      some { s with replies := Function.update s.replies i (.start content) }
    else none

/-- The bytes released by the calls whose readings lie in a window. -/
def releasedWithin (s : Shared ι) (start stop : Nat) : Nat :=
  ((s.released.filter fun r => decide (start ≤ r.first ∧ r.second ≤ stop)).map Release.bytes).sum

end Shared

/-! ## The bound -/

namespace TokenBucket

variable {b : TokenBucket} {first second amount : Nat}

lemma maxBurst_new {limit : Bandwidth} {n : Nat} (now : Nat) (h : limit.value = n) :
    (new limit now).maxBurst = n := by
  have := limit.upper
  show (limit.value % 2 ^ 64).toNat = n
  omega

lemma tokensPerMS_new {limit : Bandwidth} {n : Nat} (now : Nat) (h : limit.value = n)
    (hn : 1000 ≤ n) : (new limit now).tokensPerMS = n / 1000 := by
  have hdiv : limit.value.tdiv 1000 = (n / 1000 : Nat) := by
    rw [h]
    rfl
  show (if limit.value.tdiv 1000 ≤ 0 then 1 else (limit.value.tdiv 1000).toNat) = n / 1000
  rw [hdiv, if_neg (by omega), Int.toNat_natCast]

lemma drip_tokens_le (first second : Nat) (h : b.tokens ≤ b.maxBurst) :
    (b.drip first second).tokens ≤ b.maxBurst ∧
      (b.drip first second).tokens ≤ b.tokens + b.tokensPerMS * b.deltaTime first := by
  unfold drip
  split_ifs
  · exact ⟨h, Nat.le_add_right _ _⟩
  · exact ⟨Nat.min_le_right _ _, (Nat.min_le_left _ _).trans (Nat.mod_le _ _)⟩

@[simp] lemma drip_maxBurst : (b.drip first second).maxBurst = b.maxBurst := by
  unfold drip
  split_ifs <;> rfl

@[simp] lemma drip_tokensPerMS : (b.drip first second).tokensPerMS = b.tokensPerMS := by
  unfold drip
  split_ifs <;> rfl

lemma lastDrip_le (hlast : b.lastDrip ≤ first) (hreadings : first ≤ second) :
    b.lastDrip ≤ (b.drip first second).lastDrip ∧ (b.drip first second).lastDrip ≤ second := by
  unfold drip
  split_ifs
  · exact ⟨Nat.le_refl _, hlast.trans hreadings⟩
  · exact ⟨hlast.trans hreadings, Nat.le_refl _⟩

lemma removeTokens_of_le (h : amount ≤ (b.drip first second).tokens) :
    b.removeTokens amount first second = (true,
      { b.drip first second with tokens := (b.drip first second).tokens - amount }) :=
  if_pos h

lemma removeTokens_of_lt (h : (b.drip first second).tokens < amount) :
    b.removeTokens amount first second = (false, b.drip first second) :=
  if_neg (Nat.not_le.mpr h)

end TokenBucket

namespace ChunkedReply

variable {b : TokenBucket} {r : ChunkedReply} {first second : Nat}

lemma length_getNextChunk :
    (r.getNextChunk (r.transmissionSize b)).length = r.transmissionSize b := by
  rw [getNextChunk, List.length_take, List.length_drop, ← remainingBytes, Nat.min_assoc,
    Nat.min_self]
  exact Nat.min_eq_left (Nat.min_le_left _ _)

lemma trySendNextChunk_done (h : r.bytesSent = r.content.length) :
    r.trySendNextChunk b first second = (b, { r with phase := .completed }, []) :=
  if_pos h

lemma trySendNextChunk_send (hmore : r.bytesSent ≠ r.content.length)
    (h : r.transmissionSize b ≤ (b.drip first second).tokens) :
    r.trySendNextChunk b first second =
      ({ b.drip first second with
          tokens := (b.drip first second).tokens - r.transmissionSize b },
        { r with
          phase := .writing (r.transmissionSize b)
          wire := r.wire ++ r.getNextChunk (r.transmissionSize b) },
        r.getNextChunk (r.transmissionSize b)) := by
  rw [trySendNextChunk, if_neg hmore, TokenBucket.removeTokens_of_le h]
  simp only [length_getNextChunk]

lemma trySendNextChunk_wait (hmore : r.bytesSent ≠ r.content.length)
    (h : (b.drip first second).tokens < r.transmissionSize b) :
    r.trySendNextChunk b first second =
      (b.drip first second, { r with phase := .waiting }, []) := by
  rw [trySendNextChunk, if_neg hmore, TokenBucket.removeTokens_of_lt h]

/-- A call leaves the bucket, or drips and takes off what it releases. -/
lemma trySendNextChunk_bucket (b : TokenBucket) (r : ChunkedReply) (first second : Nat) :
    ((r.trySendNextChunk b first second).1 = b ∧ (r.trySendNextChunk b first second).2.2 = []) ∨
      ((r.trySendNextChunk b first second).2.2.length ≤ (b.drip first second).tokens ∧
        (r.trySendNextChunk b first second).1 = { b.drip first second with
          tokens := (b.drip first second).tokens -
            (r.trySendNextChunk b first second).2.2.length }) := by
  by_cases hdone : r.bytesSent = r.content.length
  · rw [trySendNextChunk_done hdone]
    exact .inl ⟨rfl, rfl⟩
  · rcases Nat.lt_or_ge (b.drip first second).tokens (r.transmissionSize b) with h | h
    · rw [trySendNextChunk_wait hdone h]
      exact .inr ⟨Nat.zero_le _, rfl⟩
    · rw [trySendNextChunk_send hdone h]
      refine .inr ⟨?_, ?_⟩
      · rwa [length_getNextChunk]
      · rw [length_getNextChunk]

/-- Every completion that goes on with a reply is such a call. -/
lemma resume_bucket {b' : TokenBucket} {r' : ChunkedReply} {chunk : Bytes}
    (h : r.resume b first second = some (b', r', chunk)) :
    (b' = b ∧ chunk = []) ∨ (chunk.length ≤ (b.drip first second).tokens ∧
      b' = { b.drip first second with
        tokens := (b.drip first second).tokens - chunk.length }) := by
  unfold resume at h
  split at h
  case h_1 | h_2 =>
    have hcall := trySendNextChunk_bucket b r first second
    rwa [Option.some.inj h] at hcall
  case h_3 size _ =>
    have hcall :=
      trySendNextChunk_bucket b { r with bytesSent := r.bytesSent + size } first second
    rwa [Option.some.inj h] at hcall
  case h_4 | h_5 => cases h

end ChunkedReply

namespace Shared

variable {ι : Type} {s s' : Shared ι} {start stop burst rate : Nat}

lemma releasedWithin_concat (b : TokenBucket) (replies : ι → ChunkedReply) (now : Nat)
    (r : Release) :
    releasedWithin ⟨b, replies, now, s.released ++ [r]⟩ start stop = s.releasedWithin start stop +
      if start ≤ r.first ∧ r.second ≤ stop then r.bytes else 0 := by
  rw [releasedWithin, List.filter_append, List.map_append, List.sum_append, releasedWithin]
  split_ifs with h <;> simp [h]

/-- A drip adds at most what the time since the last one allows. -/
lemma drip_le {b : TokenBucket} {first second released : Nat} (htokens : b.tokens ≤ b.maxBurst)
    (hlast : b.lastDrip ≤ first) (hreadings : first ≤ second) (hstart : start < b.lastDrip + 10 ^ 6)
    (h : released + b.tokens ≤
      burst + b.tokensPerMS * ((b.lastDrip + 10 ^ 6 - start) / 10 ^ 6)) :
    released + (b.drip first second).tokens ≤
      burst + b.tokensPerMS * (((b.drip first second).lastDrip + 10 ^ 6 - start) / 10 ^ 6) := by
  by_cases hzero : b.deltaTime first = 0
  · rwa [TokenBucket.drip, if_pos hzero]
  · have hlastDrip : (b.drip first second).lastDrip = second := by
      rw [TokenBucket.drip, if_neg hzero]
    have hadd := (TokenBucket.drip_tokens_le first second htokens).2
    have hparts : (b.lastDrip + 10 ^ 6 - start) / 10 ^ 6 + b.deltaTime first ≤
        (second + 10 ^ 6 - start) / 10 ^ 6 :=
      Nat.div_add_div_le_add_div.trans (Nat.div_le_div_right (by omega))
    have hmul := Nat.mul_le_mul_left b.tokensPerMS hparts
    rw [Nat.mul_add] at hmul
    rw [hlastDrip]
    omega

/-- After a drip at `first` less than a millisecond has gone since the last one that added
something. -/
lemma lt_lastDrip_drip {b : TokenBucket} {first second : Nat} (hreadings : first ≤ second) :
    first < (b.drip first second).lastDrip + 10 ^ 6 := by
  unfold TokenBucket.drip
  split_ifs with hzero
  · have hlt := (Nat.div_eq_zero_iff_lt (by decide)).mp hzero
    omega
  · show first < second + 10 ^ 6
    omega

/-- What holds of the bucket after some calls: what was released in the window, together with the
tokens left, is at most the burst and what came in since a millisecond in front of the window. -/
structure Bounded (burst rate start stop : Nat) (s : Shared ι) : Prop where
  maxBurst : s.bucket.maxBurst = burst
  tokensPerMS : s.bucket.tokensPerMS = rate
  tokens : s.bucket.tokens ≤ burst
  lastDrip : s.bucket.lastDrip ≤ s.now
  begun : s.releasedWithin start stop ≠ 0 → start < s.bucket.lastDrip + 10 ^ 6 ∧
    s.releasedWithin start stop + s.bucket.tokens ≤
      burst + rate * ((s.bucket.lastDrip + 10 ^ 6 - start) / 10 ^ 6)
  released : s.releasedWithin start stop ≤ burst + rate * ((stop + 10 ^ 6 - start) / 10 ^ 6)

/-- A drip keeps the bound, which holds from the first call in the window on. -/
lemma Bounded.begun_drip {first second : Nat} (h : s.Bounded burst rate start stop)
    (hnow : s.now ≤ first) (hreadings : first ≤ second)
    (hbegun : s.releasedWithin start stop ≠ 0 ∨ start ≤ first) :
    start < (s.bucket.drip first second).lastDrip + 10 ^ 6 ∧
      s.releasedWithin start stop + (s.bucket.drip first second).tokens ≤ burst +
        rate * (((s.bucket.drip first second).lastDrip + 10 ^ 6 - start) / 10 ^ 6) := by
  have hlast := h.lastDrip.trans hnow
  have htokens : s.bucket.tokens ≤ s.bucket.maxBurst := h.maxBurst ▸ h.tokens
  by_cases hzero : s.releasedWithin start stop = 0
  · have hstart := hbegun.resolve_left (not_not_intro hzero)
    refine ⟨Nat.lt_of_le_of_lt hstart (lt_lastDrip_drip hreadings), ?_⟩
    rw [hzero, Nat.zero_add]
    have hburst := (TokenBucket.drip_tokens_le first second htokens).1
    rw [h.maxBurst] at hburst
    exact hburst.trans (Nat.le_add_right _ _)
  · obtain ⟨hstart, hbound⟩ := h.begun hzero
    rw [← h.tokensPerMS] at hbound ⊢
    have hmono := (TokenBucket.lastDrip_le hlast hreadings).1
    exact ⟨by omega, drip_le htokens hlast hreadings hstart hbound⟩

/-- A call that takes off what it releases keeps the bound. -/
lemma Bounded.release {first second bytes : Nat} (h : s.Bounded burst rate start stop)
    (hnow : s.now ≤ first) (hreadings : first ≤ second)
    (hbytes : bytes ≤ (s.bucket.drip first second).tokens) (replies : ι → ChunkedReply) :
    Bounded burst rate start stop
      ⟨{ s.bucket.drip first second with tokens := (s.bucket.drip first second).tokens - bytes },
        replies, second, s.released ++ [⟨first, second, bytes⟩]⟩ := by
  have hlast := TokenBucket.lastDrip_le (h.lastDrip.trans hnow) hreadings
  have htokens : s.bucket.tokens ≤ s.bucket.maxBurst := h.maxBurst ▸ h.tokens
  have hburst := (TokenBucket.drip_tokens_le first second htokens).1
  rw [h.maxBurst] at hburst
  have hdrip := h.begun_drip hnow hreadings
  refine ⟨?_, ?_, ?_, hlast.2, ?_, ?_⟩
  · exact TokenBucket.drip_maxBurst.trans h.maxBurst
  · exact TokenBucket.drip_tokensPerMS.trans h.tokensPerMS
  · exact (Nat.sub_le _ _).trans hburst
  · intro hreleased
    rw [releasedWithin_concat] at hreleased ⊢
    split_ifs at hreleased ⊢ with hin
    · obtain ⟨hstart, hbound⟩ := hdrip (.inr hin.1)
      refine ⟨hstart, ?_⟩
      dsimp only
      omega
    · obtain ⟨hstart, hbound⟩ := hdrip (.inl hreleased)
      refine ⟨hstart, ?_⟩
      dsimp only
      omega
  · rw [releasedWithin_concat]
    split_ifs with hin
    · obtain ⟨-, hbound⟩ := hdrip (.inr hin.1)
      -- the drip is not later than the end of the window
      have hdiv : ((s.bucket.drip first second).lastDrip + 10 ^ 6 - start) / 10 ^ 6 ≤
          (stop + 10 ^ 6 - start) / 10 ^ 6 := by
        have hend : second ≤ stop := hin.2
        exact Nat.div_le_div_right (by omega)
      have hmul := Nat.mul_le_mul_left rate hdiv
      dsimp only
      omega
    · exact h.released

lemma bounded_create (limit : Bandwidth) (now : Nat) (replies : ι → ChunkedReply)
    (start stop : Nat) : (create limit now replies).Bounded (TokenBucket.new limit now).maxBurst
      (TokenBucket.new limit now).tokensPerMS start stop where
  maxBurst := rfl
  tokensPerMS := rfl
  tokens := Nat.le_refl _
  lastDrip := Nat.le_refl _
  begun := fun h => absurd rfl h
  released := Nat.zero_le _

variable [DecidableEq ι]

/-- Every event keeps the bound. -/
lemma Bounded.step {e : SharedEvent ι} (h : s.Bounded burst rate start stop)
    (hstep : s.step e = some s') : s'.Bounded burst rate start stop := by
  cases e with
  | resume i first second =>
    rw [Shared.step, Option.ite_none_right_eq_some, Option.map_eq_some_iff] at hstep
    obtain ⟨⟨hnow, hreadings⟩, ⟨b, r, chunk⟩, hresume, rfl⟩ := hstep
    rcases ChunkedReply.resume_bucket hresume with ⟨rfl, rfl⟩ | ⟨hbytes, rfl⟩
    · refine ⟨h.maxBurst, h.tokensPerMS, h.tokens, ?_, ?_, ?_⟩
      · exact h.lastDrip.trans (hnow.trans hreadings)
      all_goals
        rw [releasedWithin_concat]
        simp only [List.length_nil, ite_self, Nat.add_zero]
      · exact h.begun
      · exact h.released
    · exact h.release hnow hreadings hbytes _
  | fail i =>
    rw [Shared.step] at hstep
    split at hstep
    case h_3 => cases hstep
    all_goals
      obtain rfl := Option.some.inj hstep
      exact { h with }
  | reply i content =>
    obtain ⟨-, rfl⟩ := guarded_eq_some.mp hstep
    exact { h with }

/-- With a limit of at least 1000 bytes a second, the connections that share a bucket release in a
window at most the burst, one second's worth, and what the limit allows for the window and one
millisecond more; and the bucket never holds more than the burst. -/
theorem released_le_burst (limit : Bandwidth) (hlimit : 1000 ≤ limit.value) (created : Nat)
    (replies : ι → ChunkedReply) (es : List (SharedEvent ι)) (s : Shared ι)
    (hrun : run step (create limit created replies) es = some s) :
    s.bucket.maxBurst = limit.value.toNat ∧ s.bucket.tokens ≤ s.bucket.maxBurst ∧
      ∀ start stop, start ≤ stop → s.releasedWithin start stop * 10 ^ 9 ≤
        limit.value.toNat * 10 ^ 9 + limit.value.toNat * (stop - start + 10 ^ 6) := by
  have hbounded (start stop : Nat) := invariant (fun _ _ _ h hstep => Bounded.step h hstep) hrun
    (bounded_create limit created replies start stop)
  obtain ⟨n, hn⟩ := Int.eq_ofNat_of_zero_le (show 0 ≤ limit.value by omega)
  rw [TokenBucket.maxBurst_new created hn, TokenBucket.tokensPerMS_new created hn (by omega)]
    at hbounded
  have htoNat : limit.value.toNat = n := by omega
  refine ⟨(hbounded 0 0).maxBurst.trans htoNat.symm, ?_, ?_⟩
  · exact (hbounded 0 0).maxBurst.symm ▸ (hbounded 0 0).tokens
  · intro start stop hle
    have hreleased := (hbounded start stop).released
    rw [htoNat]
    have hrateTime : n / 1000 * ((stop + 10 ^ 6 - start) / 10 ^ 6) * 10 ^ 9 ≤
        n * (stop - start + 10 ^ 6) := by
      calc n / 1000 * ((stop + 10 ^ 6 - start) / 10 ^ 6) * 10 ^ 9
          = n / 1000 * 1000 * ((stop + 10 ^ 6 - start) / 10 ^ 6 * 10 ^ 6) := by ring
        _ ≤ n * (stop + 10 ^ 6 - start) :=
            Nat.mul_le_mul (Nat.div_mul_le_self _ _) (Nat.div_mul_le_self _ _)
        _ = n * (stop - start + 10 ^ 6) := by rw [Nat.sub_add_comm hle]
    have hscaled := Nat.mul_le_mul_right (10 ^ 9) hreleased
    rw [Nat.add_mul] at hscaled
    exact hscaled.trans (Nat.add_le_add_left hrateTime _)

theorem released_le_burst_two : ∃ s : Shared Bool,
    run step (create ⟨1000, by decide, by decide⟩ 0 fun _ => .start [1, 2, 3])
      [.resume true 0 0, .resume false 10 20, .resume true 2000000 2000001] = some s ∧
    s.bucket.maxBurst = 1000 ∧ s.bucket.tokens ≤ s.bucket.maxBurst ∧
    ∀ start stop, start ≤ stop →
      s.releasedWithin start stop * 10 ^ 9 ≤ 1000 * 10 ^ 9 + 1000 * (stop - start + 10 ^ 6) := by
  refine Exists.imp (fun s hs => ⟨hs, released_le_burst _ ?_ 0 _ _ s hs⟩)
    (Option.isSome_iff_exists.mp ?_)
  · decide
  · decide

/-- Without the millisecond the bound fails: the burst goes out 0.9 ms after the bucket was created,
and one byte more a tenth of a millisecond later. -/
theorem released_more_than_limit :
    (run step (create ⟨1000, by decide, by decide⟩ 0 fun first : Bool =>
        .start (List.replicate (if first then 1000 else 1) 0))
      [.resume true 900000 900000, .resume false 1000000 1000000]).map
        (fun s => decide (1000 * 10 ^ 9 + 1000 * (1000000 - 900000) <
          s.releasedWithin 900000 1000000 * 10 ^ 9)) = some true := by
  decide +kernel

end Shared

end Halcyon.Aperture
