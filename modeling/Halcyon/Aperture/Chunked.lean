import Halcyon.Aperture.TokenBucket
import Mathlib.Data.Prod.Lex
import Mathlib.Order.OrderIsoNat

/-!
# Delivery of a limited reply

One connection uses its bucket alone, its writes succeed, and the clock advances while it waits.
Then every body is delivered, by finitely many writes and waits, unless the limit is zero: the burst
is then empty too, and the connection writes chunks of no bytes for ever.

The measure that decreases is, in lexicographic order, what is left of the body and what the bucket
still lacks.  A negative limit is accepted as well; as a `size_t` it is a burst that no body
exceeds, and the sum in `drip` may go around once.
-/

namespace Halcyon.Aperture

open Whip (Bytes)

/-! ## The connection -/

/-- The body of a reply; a vector holds less than `2 ^ 63` bytes. -/
structure Body where
  content : Bytes
  length_lt : content.length < 2 ^ 63

/-- How the clock goes on: before a call, and between the two readings within it, in nanoseconds.
None of these pauses takes eighteen years. -/
structure Ticks where
  pause : Nat → Nat
  gap : Nat → Nat
  pause_lt : ∀ n, pause n < 2 ^ 59
  gap_lt : ∀ n, gap n < 2 ^ 59

/-- A connection that alone uses its bucket, with the last reading of the clock. -/
structure Solo where
  bucket : TokenBucket
  reply : ChunkedReply
  now : Nat

namespace Solo

/-- The first reading of the next call; the clock has advanced when the timer expires. -/
def first (s : Solo) (pause : Nat) : Nat :=
  s.now + pause + if s.reply.phase = .waiting then 1 else 0

/-- The next completion. -/
def next (s : Solo) (pause gap : Nat) : Solo :=
  match s.reply.resume s.bucket (s.first pause) (s.first pause + gap) with
  | some (bucket, reply, _) => ⟨bucket, reply, s.first pause + gap⟩
  | none => s

/-- The connection after a number of completions. -/
def after (limit : Bandwidth) (created : Nat) (content : Bytes) (t : Ticks) : Nat → Solo
  | 0 => ⟨.new limit created, .start content, created⟩
  | n + 1 => (after limit created content t n).next (t.pause n) (t.gap n)

/-- The reply is completed after finitely many completions, and then every byte of the body has been
written once and in order. -/
def Delivered (limit : Bandwidth) (created : Nat) (content : Bytes) (t : Ticks) : Prop :=
  ∃ n, (after limit created content t n).reply.phase = .completed ∧
    (after limit created content t n).reply.wire = content

end Solo

/-- The bytes that are being written. -/
def ChunkPhase.inFlight : ChunkPhase → Nat
  | .writing size => size
  | _ => 0

/-! ## What the calls keep -/

namespace TokenBucket

variable {b : TokenBucket}

/-- A bucket with a burst, as `now` sees it. -/
structure Filling (b : TokenBucket) (now : Nat) : Prop where
  maxBurst : 0 < b.maxBurst
  rate_pos : 0 < b.tokensPerMS
  rate_lt : b.tokensPerMS < 2 ^ 22
  lastDrip : b.lastDrip ≤ now
  now_lt : now < b.lastDrip + 10 ^ 6 + 2 ^ 59

lemma filling_new {limit : Bandwidth} (h : limit.value ≠ 0) (now : Nat) :
    (new limit now).Filling now := by
  have hlower := limit.lower
  have hupper := limit.upper
  refine ⟨?_, ?_, ?_, Nat.le_refl now, ?_⟩
  · show 0 < (limit.value % 2 ^ 64).toNat
    omega
  · show 0 < if limit.value.tdiv 1000 ≤ 0 then 1 else (limit.value.tdiv 1000).toNat
    split_ifs <;> omega
  · show (if limit.value.tdiv 1000 ≤ 0 then 1 else (limit.value.tdiv 1000).toNat) < 2 ^ 22
    split_ifs with hdiv
    · decide
    · rcases Int.le_total 0 limit.value with hpos | hneg
      · rw [Int.tdiv_eq_ediv_of_nonneg hpos]
        omega
      · have hquot := Int.tdiv_nonneg (Int.neg_nonneg.mpr hneg) (show (0 : Int) ≤ 1000 by decide)
        rw [Int.neg_tdiv] at hquot
        omega
  · show now < now + 10 ^ 6 + 2 ^ 59
    omega

lemma Filling.drip {now first second : Nat} (h : b.Filling now) (hnow : now ≤ first)
    (hreadings : first ≤ second) (hsecond : second < first + 2 ^ 59) (tokens : Nat) :
    { b.drip first second with tokens := tokens }.Filling second := by
  have hlast := lastDrip_le (h.lastDrip.trans hnow) hreadings
  have hlt := Shared.lt_lastDrip_drip (b := b) hreadings
  refine ⟨?_, ?_, ?_, hlast.2, ?_⟩
  · exact drip_maxBurst.symm ▸ h.maxBurst
  · exact drip_tokensPerMS.symm ▸ h.rate_pos
  · exact drip_tokensPerMS.symm ▸ h.rate_lt
  · show second < (b.drip first second).lastDrip + 10 ^ 6 + 2 ^ 59
    omega

/-- While a chunk has to wait, a drip that counts a millisecond adds a token. -/
lemma Filling.tokens_lt_drip {now first : Nat} (second : Nat) (h : b.Filling now)
    (hfirst : first ≤ now + 2 ^ 59) (htokens : b.tokens < 2 ^ 63)
    (hdelta : b.deltaTime first ≠ 0) (hburst : (b.drip first second).tokens < b.maxBurst) :
    b.tokens < (b.drip first second).tokens := by
  have hrate := h.rate_pos
  have hdeltaLt : b.deltaTime first < 2 ^ 41 := by
    have hnow := h.now_lt
    rw [deltaTime]
    omega
  have hadded : b.tokensPerMS * b.deltaTime first < 2 ^ 22 * 2 ^ 41 :=
    Nat.mul_lt_mul'' h.rate_lt hdeltaLt
  have hpos : 0 < b.tokensPerMS * b.deltaTime first := Nat.mul_pos hrate (by omega)
  rw [TokenBucket.drip, if_neg hdelta] at hburst ⊢
  dsimp only at hburst ⊢
  omega

end TokenBucket

lemma ChunkedReply.resume_writing {r : ChunkedReply} {size : Nat} (h : r.phase = .writing size)
    (b : TokenBucket) (first second : Nat) : r.resume b first second =
      some ({ r with bytesSent := r.bytesSent + size }.trySendNextChunk b first second) := by
  obtain ⟨content, bytesSent, phase, wire⟩ := r
  obtain rfl : phase = .writing size := h
  rfl

namespace Solo

variable {content : Bytes} {s : Solo}

/-- What holds in each phase. -/
def InPhase (s : Solo) : Prop :=
  match s.reply.phase with
  | .header => s.bucket.Filling s.now
  | .writing size => 0 < size ∧ s.bucket.Filling s.now
  | .waiting => s.bucket.tokens < s.reply.transmissionSize s.bucket ∧ s.bucket.Filling s.now
  | .completed => s.reply.bytesSent = s.reply.content.length
  | .stopped => False

/-- What holds between two completions. -/
structure Sound (content : Bytes) (s : Solo) : Prop where
  body : s.reply.content = content
  wire : s.reply.wire = content.take (s.reply.bytesSent + s.reply.phase.inFlight)
  sent : s.reply.bytesSent + s.reply.phase.inFlight ≤ content.length
  phase : s.InPhase

lemma Sound.wire_eq (h : s.Sound content) (hcompleted : s.reply.phase = .completed) :
    s.reply.wire = content := by
  obtain ⟨hbody, hwire, -, hphase⟩ := h
  rw [InPhase, hcompleted] at hphase
  rw [hcompleted] at hwire
  have hsent : s.reply.bytesSent + ChunkPhase.completed.inFlight = content.length :=
    hbody ▸ hphase
  rw [hwire, hsent, List.take_length]

lemma take_getNextChunk {r : ChunkedReply} {size : Nat} (h : size ≤ r.remainingBytes) :
    r.content.take r.bytesSent ++ r.getNextChunk size = r.content.take (r.bytesSent + size) := by
  rw [ChunkedReply.getNextChunk, Nat.min_eq_left h, List.take_add]

/-- A call establishes it from a reply of which what was written has arrived. -/
lemma sound_trySendNextChunk {b : TokenBucket} {r : ChunkedReply} {now first second : Nat}
    (hcontent : r.content = content) (hwire : r.wire = content.take r.bytesSent)
    (hsent : r.bytesSent ≤ content.length) (hfilling : b.Filling now) (hnow : now ≤ first)
    (hreadings : first ≤ second) (hsecond : second < first + 2 ^ 59) :
    Sound content ⟨(r.trySendNextChunk b first second).1,
      (r.trySendNextChunk b first second).2.1, second⟩ := by
  subst hcontent
  have hdrip := hfilling.drip hnow hreadings hsecond
  by_cases hdone : r.bytesSent = r.content.length
  · rw [ChunkedReply.trySendNextChunk_done hdone]
    exact ⟨rfl, hwire, hsent, hdone⟩
  · rcases Nat.lt_or_ge (b.drip first second).tokens (r.transmissionSize b) with h | h
    · rw [ChunkedReply.trySendNextChunk_wait hdone h]
      refine ⟨rfl, hwire, hsent, ?_, hdrip _⟩
      show _ < min _ (b.drip first second).maxBurst
      rwa [TokenBucket.drip_maxBurst]
    · rw [ChunkedReply.trySendNextChunk_send hdone h]
      have hsize : r.transmissionSize b ≤ r.remainingBytes := Nat.min_le_left _ _
      have hremaining : r.remainingBytes = r.content.length - r.bytesSent := rfl
      refine ⟨rfl, ?_, ?_, ?_, hdrip _⟩
      · show r.wire ++ _ = r.content.take (r.bytesSent + r.transmissionSize b)
        rw [hwire, take_getNextChunk hsize]
      · show r.bytesSent + r.transmissionSize b ≤ r.content.length
        omega
      · exact Nat.lt_min.mpr ⟨by omega, hfilling.maxBurst⟩

/-- What is still to come before bytes are written again: every wait adds tokens, or uses up part of
the millisecond after which tokens are added. -/
def pending (s : Solo) : Nat :=
  match s.reply.phase with
  | .header => (s.reply.content.length + 2) * (10 ^ 6 + 1)
  | .waiting => (s.reply.transmissionSize s.bucket - s.bucket.tokens) * (10 ^ 6 + 1) +
      (10 ^ 6 - (s.now - s.bucket.lastDrip)) + 1
  | _ => 0

/-- The measure. -/
def rank (s : Solo) : Nat ×ₗ Nat := toLex (s.reply.remainingBytes, s.pending)

lemma trySendNextChunk_bytesSent (b : TokenBucket) (r : ChunkedReply) (first second : Nat) :
    (r.trySendNextChunk b first second).2.1.bytesSent = r.bytesSent ∧
      (r.trySendNextChunk b first second).2.1.content = r.content := by
  by_cases hdone : r.bytesSent = r.content.length
  · rw [ChunkedReply.trySendNextChunk_done hdone]
    exact ⟨rfl, rfl⟩
  · rcases Nat.lt_or_ge (b.drip first second).tokens (r.transmissionSize b) with h | h
    · rw [ChunkedReply.trySendNextChunk_wait hdone h]
      exact ⟨rfl, rfl⟩
    · rw [ChunkedReply.trySendNextChunk_send hdone h]
      exact ⟨rfl, rfl⟩

/-- A call that waits has something pending, any other has nothing. -/
lemma pending_trySendNextChunk (b : TokenBucket) (r : ChunkedReply) (first second : Nat) :
    pending ⟨(r.trySendNextChunk b first second).1,
        (r.trySendNextChunk b first second).2.1, second⟩ = 0 ∨
      ((b.drip first second).tokens < r.transmissionSize b ∧
        pending ⟨(r.trySendNextChunk b first second).1,
          (r.trySendNextChunk b first second).2.1, second⟩ =
        (r.transmissionSize b - (b.drip first second).tokens) * (10 ^ 6 + 1) +
          (10 ^ 6 - (second - (b.drip first second).lastDrip)) + 1) := by
  by_cases hdone : r.bytesSent = r.content.length
  · rw [ChunkedReply.trySendNextChunk_done hdone]
    exact .inl rfl
  · rcases Nat.lt_or_ge (b.drip first second).tokens (r.transmissionSize b) with h | h
    · rw [ChunkedReply.trySendNextChunk_wait hdone h]
      refine .inr ⟨h, ?_⟩
      show (min _ (b.drip first second).maxBurst - _) * _ + _ + 1 = _
      rw [TokenBucket.drip_maxBurst]
      rfl
    · rw [ChunkedReply.trySendNextChunk_send hdone h]
      exact .inl rfl

/-- A wait is followed by a call that has less pending. -/
lemma pending_lt_of_waiting {pause gap : Nat} (hwaiting : s.reply.phase = .waiting)
    (hphase : s.InPhase) (hpause : pause < 2 ^ 59) (hlength : s.reply.content.length < 2 ^ 63) :
    pending ⟨(s.reply.trySendNextChunk s.bucket (s.now + pause + 1) (s.now + pause + 1 + gap)).1,
      (s.reply.trySendNextChunk s.bucket (s.now + pause + 1) (s.now + pause + 1 + gap)).2.1,
      s.now + pause + 1 + gap⟩ < s.pending := by
  have hpending : s.pending = (s.reply.transmissionSize s.bucket - s.bucket.tokens) *
      (10 ^ 6 + 1) + (10 ^ 6 - (s.now - s.bucket.lastDrip)) + 1 := by
    rw [pending, hwaiting]
  rw [InPhase, hwaiting] at hphase
  obtain ⟨htokens, hfilling⟩ := hphase
  have hsize : s.reply.transmissionSize s.bucket ≤ s.bucket.maxBurst := Nat.min_le_right _ _
  have hremaining : s.reply.transmissionSize s.bucket ≤ s.reply.content.length :=
    (Nat.min_le_left _ _).trans (Nat.sub_le _ _)
  rcases pending_trySendNextChunk s.bucket s.reply (s.now + pause + 1) (s.now + pause + 1 + gap)
    with hzero | ⟨hlt, hmore⟩
  · rw [hzero, hpending]
    exact Nat.succ_pos _
  · rw [hmore, hpending]
    by_cases hdelta : s.bucket.deltaTime (s.now + pause + 1) = 0
    · -- nothing is added, and the clock comes nearer to the next millisecond
      have hsoon := (Nat.div_eq_zero_iff_lt (by decide)).mp hdelta
      have hlast := hfilling.lastDrip
      rw [TokenBucket.drip, if_pos hdelta]
      omega
    · have hadded := hfilling.tokens_lt_drip (s.now + pause + 1 + gap) (by omega) (by omega)
        hdelta (by omega)
      omega

lemma rank_lt_iff {s' : Solo} : s'.rank < s.rank ↔
    s'.reply.remainingBytes < s.reply.remainingBytes ∨
      s'.reply.remainingBytes = s.reply.remainingBytes ∧ s'.pending < s.pending :=
  Prod.Lex.toLex_lt_toLex

/-- A completion is a call of `trySendNextChunk`. -/
lemma next_of_resume {pause gap : Nat} {r : ChunkedReply} (hresume : s.reply.resume s.bucket
      (s.first pause) (s.first pause + gap) =
        some (r.trySendNextChunk s.bucket (s.first pause) (s.first pause + gap))) :
    s.next pause gap =
      ⟨(r.trySendNextChunk s.bucket (s.first pause) (s.first pause + gap)).1,
        (r.trySendNextChunk s.bucket (s.first pause) (s.first pause + gap)).2.1,
        s.first pause + gap⟩ := by
  rw [next, hresume]

/-- Every completion of a reply that is not completed keeps what holds and decreases the measure. -/
lemma Sound.next {pause gap : Nat} (h : s.Sound content) (hlength : content.length < 2 ^ 63)
    (hgoing : s.reply.phase ≠ .completed) (hpause : pause < 2 ^ 59) (hgap : gap < 2 ^ 59) :
    (s.next pause gap).Sound content ∧ (s.next pause gap).rank < s.rank := by
  obtain ⟨hbody, hwire, hsent, hphase⟩ := h
  have hnow : s.now ≤ s.first pause := by
    rw [first, Nat.add_assoc]
    exact Nat.le_add_right _ _
  have hinPhase := hphase
  unfold InPhase at hphase
  cases heq : s.reply.phase with
  | header =>
    rw [heq] at hphase hwire hsent
    have hcall := trySendNextChunk_bytesSent s.bucket s.reply (s.first pause) (s.first pause + gap)
    rw [next_of_resume (r := s.reply) (by rw [ChunkedReply.resume, heq])]
    refine ⟨sound_trySendNextChunk hbody hwire hsent hphase hnow (by omega) (by omega), ?_⟩
    rw [rank_lt_iff, ChunkedReply.remainingBytes, hcall.1, hcall.2]
    refine .inr ⟨rfl, ?_⟩
    have hpending : s.pending = (s.reply.content.length + 2) * (10 ^ 6 + 1) := by
      rw [pending, heq]
    have hremaining : s.reply.transmissionSize s.bucket ≤ s.reply.content.length :=
      (Nat.min_le_left _ _).trans (Nat.sub_le _ _)
    rw [hpending]
    rcases pending_trySendNextChunk s.bucket s.reply (s.first pause) (s.first pause + gap)
      with hzero | ⟨-, hmore⟩
    · omega
    · omega
  | writing size =>
    rw [heq] at hphase hwire hsent
    obtain ⟨hsize, hfilling⟩ := hphase
    have hcall := trySendNextChunk_bytesSent s.bucket
      { s.reply with bytesSent := s.reply.bytesSent + size } (s.first pause) (s.first pause + gap)
    rw [next_of_resume (r := { s.reply with bytesSent := s.reply.bytesSent + size })
      (ChunkedReply.resume_writing heq _ _ _)]
    refine ⟨sound_trySendNextChunk hbody hwire hsent hfilling hnow (by omega) (by omega), ?_⟩
    rw [rank_lt_iff, ChunkedReply.remainingBytes, hcall.1, hcall.2]
    refine .inl ?_
    have hlengthEq := congrArg List.length hbody
    simp only [ChunkPhase.inFlight] at hsent
    show s.reply.content.length - (s.reply.bytesSent + size) < _
    rw [ChunkedReply.remainingBytes]
    omega
  | waiting =>
    rw [heq] at hphase hwire hsent
    have hfirst : s.first pause = s.now + pause + 1 := by rw [first, if_pos heq]
    have hcall := trySendNextChunk_bytesSent s.bucket s.reply (s.first pause) (s.first pause + gap)
    rw [next_of_resume (r := s.reply) (by rw [ChunkedReply.resume, heq])]
    refine ⟨sound_trySendNextChunk hbody hwire hsent hphase.2 hnow (by omega) (by omega), ?_⟩
    rw [rank_lt_iff, ChunkedReply.remainingBytes, hcall.1, hcall.2]
    refine .inr ⟨rfl, ?_⟩
    rw [hfirst]
    exact pending_lt_of_waiting heq hinPhase hpause (hbody ▸ hlength)
  | completed => exact absurd heq hgoing
  | stopped =>
    rw [heq] at hphase
    exact hphase.elim

/-! ## Delivery -/

variable {limit : Bandwidth} {created : Nat} {t : Ticks}

/-- With a limit that is not zero, every body is delivered. -/
lemma delivered_of_ne_zero (body : Body) (hlimit : limit.value ≠ 0) :
    Delivered limit created body.content t := by
  by_contra hnever
  have hsound (n : Nat) : Sound body.content (after limit created body.content t n) ∧
      (after limit created body.content t n).reply.phase ≠ .completed := by
    induction n with
    | zero => exact ⟨⟨rfl, rfl, Nat.zero_le _, TokenBucket.filling_new hlimit created⟩,
        fun heq => by cases heq⟩
    | succ n ih =>
      have hnext := (ih.1.next body.length_lt ih.2 (t.pause_lt n) (t.gap_lt n)).1
      exact ⟨hnext, fun hcompleted => hnever ⟨n + 1, hcompleted, hnext.wire_eq hcompleted⟩⟩
  refine not_strictAnti_of_wellFoundedLT (fun n => (after limit created body.content t n).rank)
    (strictAnti_nat_of_succ_lt fun n => ?_)
  exact ((hsound n).1.next body.length_lt (hsound n).2 (t.pause_lt n) (t.gap_lt n)).2

/-- With an empty burst, a body that is not empty stays where it is. -/
structure Stuck (s : Solo) : Prop where
  burst : s.bucket.maxBurst = 0
  body : s.reply.content ≠ []
  sent : s.reply.bytesSent = 0
  phase : s.reply.phase = .header ∨ s.reply.phase = .writing 0

/-- The next completion writes a chunk of no bytes. -/
lemma Stuck.next (h : s.Stuck) (pause gap : Nat) : (s.next pause gap).Stuck := by
  obtain ⟨hburst, hbody, hsent, hphase⟩ := h
  have hmore : s.reply.bytesSent ≠ s.reply.content.length := by
    rw [hsent]
    exact (List.length_pos_iff.mpr hbody).ne
  have hsize : s.reply.transmissionSize s.bucket = 0 := by
    rw [ChunkedReply.transmissionSize, hburst, Nat.min_zero]
  have hresume : s.reply.resume s.bucket (s.first pause) (s.first pause + gap) =
      some (s.reply.trySendNextChunk s.bucket (s.first pause) (s.first pause + gap)) := by
    rcases hphase with hphase | hphase
    · rw [ChunkedReply.resume, hphase]
    · exact ChunkedReply.resume_writing hphase _ _ _
  rw [next_of_resume hresume, ChunkedReply.trySendNextChunk_send hmore (hsize ▸ Nat.zero_le _)]
  exact ⟨TokenBucket.drip_maxBurst.trans hburst, hbody, hsent, .inr (congrArg _ hsize)⟩

lemma stuck_after {content : Bytes} (hlimit : limit.value = 0) (hcontent : content ≠ []) (n : Nat) :
    (after limit created content t n).Stuck := by
  induction n with
  | zero =>
    refine ⟨?_, hcontent, rfl, .inl rfl⟩
    show (limit.value % 2 ^ 64).toNat = 0
    rw [hlimit]
    rfl
  | succ n ih => exact ih.next _ _

lemma not_delivered_of_zero {content : Bytes} (hlimit : limit.value = 0) (hcontent : content ≠ []) :
    ¬ Delivered limit created content t := by
  rintro ⟨n, hcompleted, -⟩
  rcases (stuck_after hlimit hcontent n).phase with hphase | hphase <;>
    cases hcompleted.symm.trans hphase

end Solo

end Halcyon.Aperture
