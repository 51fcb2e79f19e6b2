import Mathlib
import Vauxr.Lib.Run

/-!
The connection of the OpenClaw client (`agents/openclaw.py`) behind a first successful connect: the
reader of its socket, and the task that makes the next connection.

A step lasts from one point of suspension to the next. What comes over the socket is left out, but
for the end of the handshake.
-/

namespace Vauxr.OpenClaw

open Lib

/-- The reader waits for messages, or has left its loop and calls the disconnect handlers, or is
done. -/
inductive Reader
  | listening | leaving | ended
  deriving DecidableEq

/-- The reconnect task: it sleeps, opens a connection, waits for the handshake, or tears the
connection down; or there is none that is not done. -/
inductive Attempt
  | sleeping | opening | handshaking | closing | over
  deriving DecidableEq

/-- `handshakeDone` is whether the future of the reader's handshake is done; `cancelled` is whether
the reader has been cancelled and has not seen it yet. -/
structure Client where
  shouldReconnect : Bool
  reader : Reader
  socketOpen : Bool
  handshakeDone : Bool
  cancelled : Bool
  attempt : Attempt
  reconnectDelay : ℕ

/-- The loop of a reader ends with its socket, or with an exception. -/
inductive Action
  | leave (socketOpen : Bool)
  | cancelled
  | handlerRaises
  | left
  | elapsed
  | openFails
  | opened
  | handshake (connected : Bool)
  | resumed
  | timeout
  | tornDown
  | close

def maxReconnectDelay : ℕ := 30

namespace Client

/-- Behind the first connect. -/
def start : Client := ⟨true, .listening, true, true, false, .over, 1⟩

/-- The end of `_reader_loop`, behind the disconnect handlers. -/
def left (s : Client) : Client :=
  let s := { s with reader := .ended, handshakeDone := true }
  if s.shouldReconnect then
    let s := { s with reconnectDelay := min (s.reconnectDelay * 2) maxReconnectDelay }
    if s.attempt = .over then { s with attempt := .sleeping } else s
  else s

def step (s : Client) : Action → Client
  | .leave socketOpen =>
    if s.reader = .listening then { s with reader := .leaving, socketOpen } else s
  | .cancelled =>
    if s.cancelled then
      match s.reader with
      | .listening => { s with reader := .leaving, cancelled := false }
      | .leaving => { s with reader := .ended, cancelled := false }  -- out of the last block
      | .ended => s
    else s
  | .handlerRaises => if s.reader = .leaving then { s with reader := .ended } else s
  | .left => if s.reader = .leaving then s.left else s
  | .elapsed =>
    if s.attempt = .sleeping then
      { s with attempt := if s.shouldReconnect then .opening else .over }
    else s
  | .openFails => if s.attempt = .opening then { s with attempt := .over } else s
  | .opened =>
    if s.attempt = .opening then
      { s with
        shouldReconnect := true, reader := .listening, socketOpen := true
        handshakeDone := false, cancelled := false, attempt := .handshaking }
    else s
  | .handshake connected =>
    if s.reader = .listening then
      { s with
        handshakeDone := true
        reconnectDelay := if connected then 1 else s.reconnectDelay }
    else s
  | .resumed =>
    if s.attempt = .handshaking ∧ s.handshakeDone then { s with attempt := .over } else s
  | .timeout =>
    if s.attempt = .handshaking ∧ !s.handshakeDone then
      { s with attempt := .closing, handshakeDone := true, cancelled := s.reader ≠ .ended }
    else s
  | .tornDown =>
    if s.attempt = .closing then { s with attempt := .over, socketOpen := false } else s
  | .close => { s with shouldReconnect := false, cancelled := s.reader ≠ .ended }

/-- A coroutine of the client can take a step of its own. -/
def CanStep (s : Client) : Prop :=
  s.reader = .leaving ∨ s.reader = .listening ∧ (s.socketOpen = false ∨ s.cancelled = true) ∨
    s.attempt = .handshaking ∧ s.handshakeDone = true

/-- A reader on an open socket, or an attempt that is not over. -/
def Served (s : Client) : Prop :=
  s.reader = .listening ∧ s.socketOpen = true ∨ s.attempt ≠ .over

/-- What must not happen: an attempt that fails to open a connection, a reader that is left while
the attempt is not over, and a reader that is not left to the end. -/
def Regular (s : Client) : Action → Prop
  | .openFails => s.attempt ≠ .opening
  | .left => s.reader = .leaving → s.attempt = .over
  | .handlerRaises => s.reader ≠ .leaving
  | .cancelled => s.cancelled = true → s.reader ≠ .leaving
  | _ => True

/-! ### The invariants -/

/-- A task that has yet to open a connection was made by a reader at its end. -/
def Alone (s : Client) : Prop :=
  s.attempt = .sleeping ∨ s.attempt = .opening → s.reader = .ended

/-- Where all is regular: a reader is there, or an attempt that will make one; and a reader is on an
open socket, or about to leave. -/
structure Inv (s : Client) : Prop where
  alone : s.Alone
  reconnects : s.shouldReconnect = true
  reader : s.reader = .ended → s.attempt = .sleeping ∨ s.attempt = .opening
  socket : s.reader = .listening → s.socketOpen = true ∨ s.cancelled = true
  closing : s.attempt = .closing → s.reader = .listening → s.cancelled = true

/-- No reader is left, and no task that would make one. -/
def Dead (s : Client) : Prop :=
  s.reader = .ended ∧ s.attempt ≠ .sleeping ∧ s.attempt ≠ .opening

variable {s : Client}

lemma alone_start : start.Alone := by
  rintro (h | h)
  · cases h
  · cases h

lemma inv_start : start.Inv where
  alone := alone_start
  reconnects := rfl
  reader h := nomatch h
  socket _ := .inl rfl
  closing h := nomatch h

lemma Alone.step (h : s.Alone) (a : Action) : (s.step a).Alone := by
  unfold Alone at h ⊢
  cases a with
  | left =>
    simp only [Client.step]
    split
    next =>
      unfold Client.left
      dsimp only
      split
      · split
        · exact fun _ => rfl
        · exact fun _ => rfl
      · exact fun _ => rfl
    next => exact h
  | cancelled =>
    simp only [Client.step]
    split
    · split
      next hr => exact fun ha => absurd (hr.symm.trans (h ha)) (by decide)
      next => exact fun _ => rfl
      next => exact h
    · exact h
  | _ => simp only [Client.step]; grind

lemma Inv.step (h : s.Inv) {a : Action} (hclose : a ≠ .close) (hreg : s.Regular a) :
    (s.step a).Inv := by
  obtain ⟨halone, hrec, hreader, hsocket, hclosing⟩ := h
  refine ⟨halone.step a, ?_, ?_, ?_, ?_⟩
  all_goals
    unfold Alone at halone
    unfold Regular at hreg
    cases a <;> simp only [Client.step, Client.left, hrec, if_true] <;> grind

/-- Where a reader is listening or the connection is on its way, the client is served as soon as no
coroutine can take a step. -/
lemma Inv.served (h : s.Inv) (hquiet : ¬ s.CanStep) : s.Served := by
  unfold CanStep at hquiet
  rw [not_or, not_or] at hquiet
  obtain ⟨hleaving, hlistening, -⟩ := hquiet
  cases hr : s.reader with
  | listening =>
    rcases h.socket hr with hopen | hcancelled
    · exact .inl ⟨hr, hopen⟩
    · exact absurd ⟨hr, .inr hcancelled⟩ hlistening
  | leaving => exact absurd hr hleaving
  | ended =>
    refine .inr fun hover => ?_
    rcases h.reader hr with ha | ha
    · exact absurd (ha.symm.trans hover) (by decide)
    · exact absurd (ha.symm.trans hover) (by decide)

/-- A step that is not regular leaves the client dead. -/
lemma Alone.dead (h : s.Alone) {a : Action} (hreg : ¬ s.Regular a) : (s.step a).Dead := by
  have hbusy : s.reader = .leaving → s.attempt ≠ .sleeping ∧ s.attempt ≠ .opening := by
    intro hr
    refine ⟨fun ha => ?_, fun ha => ?_⟩
    · exact absurd (hr.symm.trans (h (.inl ha))) (by decide)
    · exact absurd (hr.symm.trans (h (.inr ha))) (by decide)
  cases a with
  | openFails =>
    have ha : s.attempt = .opening := not_not.mp hreg
    simp only [Client.step]
    rw [if_pos ha]
    exact ⟨h (.inr ha), nofun, nofun⟩
  | left =>
    simp only [Regular, Classical.not_imp] at hreg
    obtain ⟨hr, hover⟩ := hreg
    simp only [Client.step]
    rw [if_pos hr]
    unfold Client.left
    dsimp only
    split
    · exact ⟨rfl, hbusy hr⟩
    · exact ⟨rfl, hbusy hr⟩
  | handlerRaises =>
    have hr : s.reader = .leaving := not_not.mp hreg
    simp only [Client.step]
    rw [if_pos hr]
    exact ⟨rfl, hbusy hr⟩
  | cancelled =>
    simp only [Regular, Classical.not_imp, not_not] at hreg
    obtain ⟨hc, hr⟩ := hreg
    simp only [Client.step]
    rw [if_pos hc, hr]
    exact ⟨rfl, hbusy hr⟩
  | _ => exact absurd trivial hreg

lemma Dead.step (h : s.Dead) (a : Action) : (s.step a).Dead := by
  obtain ⟨hr, hsleeping, hopening⟩ := h
  unfold Dead
  cases a <;> simp only [Client.step, hr] <;> grind

/-- The client after the first `n` actions. -/
abbrev client (acts : ℕ → Action) (n : ℕ) : Client := run Client.step Client.start acts n

/-- **When the client reconnects.** In a run until `close` whose steps are all regular, every state
in which no coroutine can take a step has a reader on an open socket or an attempt that is not over;
and behind a step that is not regular, no reader and no further attempt is ever made. -/
theorem reconnects (acts : ℕ → Action) :
    (∀ n, (∀ i < n, acts i ≠ .close ∧ (client acts i).Regular (acts i)) →
      ¬ (client acts n).CanStep → (client acts n).Served) ∧
    ∀ n, ¬ (client acts n).Regular (acts n) → ∀ m, n < m → (client acts m).Dead := by
  have halone : ∀ n, (client acts n).Alone :=
    run_invariant (I := fun _ => Client.Alone) alone_start fun _ _ h => h.step _
  refine ⟨fun n hreg hquiet => ?_, fun n hreg m hm => ?_⟩
  · have hinv : ∀ k, k ≤ n → (client acts k).Inv := by
      intro k hk
      induction k with
      | zero => exact inv_start
      | succ k ih =>
        obtain ⟨hclose, hregular⟩ := hreg k hk
        exact (ih (Nat.le_of_succ_le hk)).step hclose hregular
    exact (hinv n le_rfl).served hquiet
  · have hdead : (client acts (n + 1)).Dead := (halone n).dead hreg
    exact run_invariant_from (I := fun _ => Client.Dead) hdead (fun _ _ _ h => h.step _) hm

/-- The connection drops twice, and the next attempt opens one each time. -/
def regained (n : ℕ) : Action :=
  [.leave false, .left, .elapsed, .opened, .handshake true, .resumed, .leave true, .left, .elapsed,
    .opened, .handshake true].getD n .resumed

theorem reconnects_sample : (client regained 12).attempt = .over ∧ (client regained 12).Served := by
  have hserved := (reconnects regained).1 12 (fun i hi => ?_) ?_
  · exact ⟨by decide, hserved⟩
  · interval_cases i
    case «1» => exact ⟨nofun, fun _ => by decide⟩
    case «7» => exact ⟨nofun, fun _ => by decide⟩
    all_goals exact ⟨nofun, trivial⟩
  · rintro (hr | ⟨-, ho | hc⟩ | ⟨ha, -⟩)
    · exact absurd hr (by decide)
    · exact absurd ho (by decide)
    · exact absurd hc (by decide)
    · exact absurd ha (by decide)

/-- The connection drops, and the next attempt does not open one. -/
def refused : List Action := [.leave false, .left, .elapsed, .openFails]

theorem not_reconnects : ¬ ∀ acts n, (∀ i < n, acts i ≠ .close) →
    ¬ (client acts n).CanStep → (client acts n).Served := by
  intro h
  have hrun := h (fun n => refused.getD n .tornDown) 4
    (fun i hi => by
      have hcases : i = 0 ∨ i = 1 ∨ i = 2 ∨ i = 3 := by omega
      rcases hcases with rfl | rfl | rfl | rfl <;> nofun)
    (by
      rintro (hr | ⟨hr, -⟩ | ⟨ha, -⟩)
      · exact absurd hr (by decide)
      · exact absurd hr (by decide)
      · exact absurd ha (by decide))
  rcases hrun with ⟨hr, -⟩ | ha
  · exact absurd hr (by decide)
  · exact ha (by decide)

end Client

end Vauxr.OpenClaw
