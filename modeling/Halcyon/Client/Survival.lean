import Halcyon.Client.RemoteServer

/-!
# What ends the receive thread

The receive loop handles three kinds of exceptions, and connects again in the handler.  Everything
else ends the thread, and with it the client, since nobody else reads responses or connects: an
`AuthException` of `Connect`, for which the loop that connects has no handler; a response for which
no request waits; an asset that is cut off; and an exception of `Disconnect` in a handler.
`Survivable` excludes these, each by what the server sends or by the state before the step.
-/

namespace Halcyon.Client

open Halcyon.Lib Halcyon.Whip Lib.Transition

namespace RemoteServer

/-- A response that is read finds a waiter, and a complete asset if it returns one; disconnecting
does not fail; and a server that takes the connection lets the client in. -/
def Survivable (s : RemoteServer) : Event → Prop
  | .dequeue => ∀ message, s.receiver = .received message →
      ∃ k ks, s.waitingRequests = k :: ks ∧
        ((s.request k).type = .get → message.status = .found → HoldsAsset message.data)
  | .disconnect exn => exn = none
  | .connect (.accepted pieces _) => Welcoming pieces
  | _ => True

/-- The receive thread is running, or was asked to stop. -/
def Alive (s : RemoteServer) : Prop :=
  ∀ e, s.receiver = .ended e → s.stopping = true

variable {s s' : RemoteServer}

lemma alive_of_ne (h : ∀ e, s.receiver ≠ .ended e) : s.Alive := fun e he => absurd he (h e)

lemma alive_raise {e : ClientException} (h : e.Handled) : (s.raise e).Alive := by
  refine alive_of_ne fun e' => ?_
  cases e <;> first | exact h.elim | (intro heq; cases heq)

lemma alive_read {pieces : List Bytes} (h : s.read pieces = some s') : s'.Alive := by
  have hends := ends_readServerResponseMsg pieces
  unfold read at h
  split at h
  · next e he =>
    rw [he] at hends
    obtain rfl := Option.some.inj h
    exact alive_raise hends
  · obtain rfl := Option.some.inj h
    exact alive_of_ne fun e he => nomatch he
  · cases h

lemma alive_dequeue {message : ServerResponseMsg} {k : Nat} {ks : List Nat}
    (hwaiting : s.waitingRequests = k :: ks)
    (h : (s.request k).type = .get → message.status = .found → HoldsAsset message.data) :
    (s.dequeue message).Alive := by
  obtain ⟨asset, hasset⟩ := tryConstructAsset_isOk h
  refine alive_of_ne fun e => ?_
  simp only [dequeue, hwaiting, hasset]
  split_ifs <;> exact fun he => nomatch he

/-- With a server that lets the client in, the thread is back in the loop that connects. -/
lemma connect_eq {attempt : Attempt}
    (h : ∀ pieces sendFails, attempt = .accepted pieces sendFails → Welcoming pieces) :
    s.connect attempt = { s with receiver := .reconnecting } := by
  have hends : Ends SocketFails (fun _ => True) attempt.outcome := by
    cases attempt with
    | refused => exact rfl
    | accepted pieces sendFails =>
      have hauth := ends_authenticate (h pieces sendFails rfl) sendFails
      simp only [Attempt.outcome]
      cases hresult : authenticate pieces sendFails with
      | error e =>
        rw [hresult] at hauth
        exact hauth
      | ok rest => trivial
  unfold connect
  cases hresult : attempt.outcome with
  | ok _ => rfl
  | error e =>
    rw [hresult] at hends
    obtain rfl : e = .socketException := hends
    rfl

/-- A step of a calling thread leaves the receive thread alone. -/
lemma Alive.congr (h : s.Alive) (hreceiver : s'.receiver = s.receiver)
    (hstopping : s'.stopping = s.stopping) : s'.Alive := by
  intro e he
  rw [hstopping]
  exact h e (hreceiver ▸ he)

lemma receiver_call (type : RequestType) (uuid : Bytes) (callBack : Bool) :
    (s.call type uuid callBack).receiver = s.receiver ∧
      (s.call type uuid callBack).stopping = s.stopping := by
  unfold call
  dsimp only
  split_ifs
  · split <;> exact ⟨rfl, rfl⟩
  · exact ⟨rfl, rfl⟩

lemma Alive.step {e : Event} (h : s.Alive) (hcond : s.Survivable e) (hstep : s.step e = some s') :
    s'.Alive := by
  cases e with
  | call type uuid callBack =>
    obtain ⟨-, rfl⟩ := step_call.mp hstep
    exact h.congr (receiver_call ..).1 (receiver_call ..).2
  | enqueue k =>
    obtain ⟨-, rfl⟩ := step_enqueue.mp hstep
    exact h.congr rfl rfl
  | send k success =>
    obtain ⟨-, rfl⟩ := step_send.mp hstep
    cases success <;> exact h.congr rfl rfl
  | handleSendError k =>
    obtain ⟨-, ⟨-, rfl⟩ | ⟨-, rfl⟩⟩ := step_handleSendError hstep
    · exact h.congr rfl rfl
    · unfold endSendError
      dsimp only
      split_ifs <;> exact h.congr rfl rfl
  | wake k =>
    obtain ⟨-, rfl⟩ := step_wake.mp hstep
    exact h.congr rfl rfl
  | iterate =>
    obtain ⟨-, rfl⟩ := step_iterate.mp hstep
    intro e he
    by_contra hstopping
    dsimp only at he hstopping
    rw [if_neg hstopping] at he
    cases he
  | read pieces => exact alive_read (step_read.mp hstep).2
  | dequeue =>
    obtain ⟨message, hmessage, rfl⟩ := step_dequeue hstep
    obtain ⟨k, ks, hwaiting, hasset⟩ := hcond message hmessage
    exact alive_dequeue hwaiting hasset
  | callGetWaiters =>
    obtain ⟨message, asset, root, -, rfl⟩ := step_callGetWaiters hstep
    refine alive_of_ne fun e => ?_
    unfold callGetWaiters
    dsimp only
    split <;> exact fun he => nomatch he
  | disconnect exn =>
    obtain rfl : exn = none := hcond
    obtain ⟨e, -, rfl⟩ := step_disconnect hstep
    exact alive_of_ne fun e he => nomatch he
  | freeAllWaiters =>
    obtain ⟨e, ⟨-, rfl⟩ | ⟨-, rfl⟩⟩ := step_freeAllWaiters hstep <;>
      exact alive_of_ne fun e he => nomatch he
  | checkConnected connected =>
    obtain ⟨-, rfl⟩ := step_checkConnected.mp hstep
    refine alive_of_ne fun e => ?_
    unfold checkConnected
    split_ifs <;> exact fun he => nomatch he
  | connect attempt =>
    obtain ⟨-, rfl⟩ := step_connect.mp hstep
    rw [connect_eq fun pieces sendFails hattempt => by rw [hattempt] at hcond; exact hcond]
    exact alive_of_ne fun e he => nomatch he
  | stop =>
    obtain rfl := Option.some.inj hstep
    exact fun _ _ => rfl

/-- While it connects, the receive thread only needs a server that lets it in. -/
lemma run_reconnects (hconnecting : s.receiver = .connecting) (hstopping : s.stopping = false)
    {challenge : Bytes} (hlength : challenge.length = 7) :
    ∃ s', run step s [.connect (.accepted [0 :: challenge, [1, 0]] false), .checkConnected true,
      .iterate] = some s' ∧ s'.receiver = .reading := by
  have hchallenge : readAuthChallenge 0 [0 :: challenge, [1, 0]] =
      .ok (0 :: challenge, [[1, 0]]) := by
    simp [readAuthChallenge, hlength]
  have houtcome : (Attempt.accepted [0 :: challenge, [1, 0]] false).outcome = .ok () := by
    simp only [Attempt.outcome, authenticate, hchallenge]
    rfl
  refine ⟨{ s with receiver := .reading }, ?_, rfl⟩
  simp [run, RemoteServer.step, hconnecting, connect, houtcome, checkConnected, hstopping]

/-- The server closes the connection, refuses the next one and then lets the client in. -/
def outage : List Event :=
  [.iterate, .read [[]], .freeAllWaiters, .freeAllWaiters, .checkConnected false, .connect .refused,
    .checkConnected false, .connect (.accepted [[0, 1, 2, 3], [4, 5, 6, 7, 1], [0]] false),
    .checkConnected true, .iterate]

/-- The server closes the connection and rejects the authentication on the next one. -/
def rejection : List Event :=
  [.iterate, .read [[]], .freeAllWaiters, .freeAllWaiters, .checkConnected false,
    .connect (.accepted [[0, 1, 2, 3, 4, 5, 6, 7], [1, 1]] false)]

end RemoteServer

end Halcyon.Client
