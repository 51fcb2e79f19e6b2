import Mathlib
import Vauxr.Lib.Run

/-!
The connections of one agent (`agents/server.py`): their handlers, the entry of the agent in the
connection table, and the revocation of their credentials.

A step lasts from one point of suspension to the next. `close` marks a socket as closed before it
waits for the other side.
-/

namespace Vauxr.Handshake

open Lib

/-- Where the handler of a connection is: not there yet, waiting for the first message, about to
close behind a refusal, waiting for the close of the connection found in the table, waiting for the
send of `agent.ready`, waiting for messages, or at its end. -/
inductive Phase
  | absent
  | connected
  | refused
  | replacing (existing : ℕ)
  | greeting
  | waiting
  | ended
  deriving DecidableEq

/-- `closed` is that of the socket, `current` what the store says of the principal; `retiring` is
whether `close_revoked` has run up to the close of the socket. -/
structure Conn where
  phase : Phase
  closed : Bool
  current : Bool
  retiring : Bool
  deriving DecidableEq

/-- `table` is the entry of the agent; `displaced` are the connections in whose place another was
installed. -/
structure Server where
  conns : ℕ → Conn
  table : Option ℕ
  displaced : List ℕ

inductive Action
  | connect (i : ℕ)
  | auth (i : ℕ) (allowed : Bool)
  | refuse (i : ℕ)
  | resumed (i : ℕ)
  | greeted (i : ℕ)
  | message (i : ℕ) (allowed : Bool)
  | timeout (i : ℕ)
  | disconnect (i : ℕ)
  | finish (i : ℕ)
  | revoke (i : ℕ)
  | closeRevoked (i : ℕ)
  | teardown (i : ℕ)

def Phase.authenticated : Phase → Bool
  | .replacing _ | .greeting | .waiting => true
  | _ => false

namespace Server

def start : Server := ⟨fun _ => ⟨.absent, false, true, false⟩, none, []⟩

def modify (s : Server) (i : ℕ) (f : Conn → Conn) : Server :=
  { s with conns := Function.update s.conns i (f (s.conns i)) }

/-- The connection leaves the table, if it is there. -/
def pop (s : Server) (i : ℕ) : Server :=
  if s.table = some i then { s with table := none } else s

def closeSocket (s : Server) (i : ℕ) : Server := s.modify i fun c => { c with closed := true }

/-- Whether a handshake that goes on behind the close installs its connection. -/
def installs (s : Server) (i : ℕ) : Bool := (s.conns i).current && !(s.conns i).closed

/-- The rest of `_handle_auth`, behind the close of the connection found. -/
def install (s : Server) (i : ℕ) : Server :=
  if s.installs i then
    { s.modify i fun c => { c with phase := .greeting } with
      table := some i
      displaced := s.displaced ++ (s.table.filter (· ≠ i)).toList }
  else (s.modify i fun c => { c with phase := .waiting }).closeSocket i

/-- `_handle_auth` up to the close of the connection found, or to its end. A socket that is closed
already is not waited for. -/
def auth (s : Server) (i : ℕ) (allowed : Bool) : Server :=
  if !allowed then s.modify i fun c => { c with phase := .refused }
  else
    match s.table with
    | none => s.install i
    | some j =>
      if j = i ∨ (s.conns j).closed then s.install i
      else (s.modify i fun c => { c with phase := .replacing j }).closeSocket j

def step (s : Server) : Action → Server
  | .connect i =>
    if (s.conns i).phase = .absent then s.modify i fun c => { c with phase := .connected } else s
  | .auth i allowed =>
    if (s.conns i).phase = .connected ∧ (s.conns i).closed = false then s.auth i allowed else s
  | .refuse i => if (s.conns i).phase = .refused then s.closeSocket i else s
  | .resumed i =>
    match (s.conns i).phase with
    | .replacing _ => s.install i
    | _ => s
  | .greeted i =>
    if (s.conns i).phase = .greeting then s.modify i fun c => { c with phase := .waiting } else s
  | .message i allowed =>
    if (s.conns i).phase = .waiting ∧ !allowed then s.closeSocket i else s
  | .timeout i =>
    if (s.conns i).phase = .connected ∨ (s.conns i).phase = .refused then s.closeSocket i else s
  | .disconnect i => if (s.conns i).phase = .absent then s else s.closeSocket i
  | .finish i =>
    if (s.conns i).phase = .absent then s
    else ((s.modify i fun c => { c with phase := .ended }).closeSocket i).pop i
  | .revoke i => s.modify i fun c => { c with current := false }
  | .closeRevoked i =>
    if (s.conns i).phase.authenticated ∧ !(s.conns i).current then
      (s.modify i fun c => { c with retiring := true }).pop i
    else s
  | .teardown i =>
    if (s.conns i).retiring then
      (s.modify i fun c => { c with retiring := false }).closeSocket i
    else s

/-- An authenticated connection that is open. -/
def Open (s : Server) (i : ℕ) : Prop :=
  (s.conns i).phase.authenticated = true ∧ (s.conns i).closed = false

/-- Every handler waits for input, or is not there. -/
def Settled (s : Server) : Prop := ∀ i,
  ((s.conns i).phase = .absent ∨ (s.conns i).phase = .connected ∨ (s.conns i).phase = .waiting ∨
    (s.conns i).phase = .ended) ∧ (s.conns i).retiring = false

/-- A handshake that installs its connection behind a close finds no open one in the table. -/
def Regular (s : Server) : Action → Prop
  | .resumed i => (∃ j, (s.conns i).phase = .replacing j) → s.installs i = true →
      ∀ k, s.table = some k → k ≠ i → (s.conns k).closed = true
  | _ => True

/-! ### The invariants -/

/-- What is in the table was installed. -/
def Tabled (s : Server) : Prop := ∀ i, s.table = some i →
  (s.conns i).phase = .greeting ∨ (s.conns i).phase = .waiting

/-- Where all is regular: an open connection is in the table, or its handshake goes on, or its
socket is about to be closed. -/
structure Inv (s : Server) : Prop where
  one : ∀ i, s.Open i → s.table = some i ∨ (∃ j, (s.conns i).phase = .replacing j) ∨
    (s.conns i).retiring = true
  displaced : ∀ j ∈ s.displaced, (s.conns j).closed = true

variable {s : Server}

lemma tabled_start : start.Tabled := fun _ h => nomatch h

lemma inv_start : start.Inv where
  one _ h := nomatch h.1
  displaced _ h := nomatch h

/-! ### What the steps leave -/

@[simp] lemma modify_conns (s : Server) (i k : ℕ) (f : Conn → Conn) :
    (s.modify i f).conns k = if k = i then f (s.conns i) else s.conns k :=
  Function.update_apply _ _ _ _

@[simp] lemma modify_table (s : Server) (i : ℕ) (f : Conn → Conn) :
    (s.modify i f).table = s.table := rfl

@[simp] lemma modify_displaced (s : Server) (i : ℕ) (f : Conn → Conn) :
    (s.modify i f).displaced = s.displaced := rfl

@[simp] lemma closeSocket_conns (s : Server) (i k : ℕ) :
    (s.closeSocket i).conns k = if k = i then { s.conns i with closed := true } else s.conns k :=
  modify_conns s i k _

@[simp] lemma closeSocket_table (s : Server) (i : ℕ) : (s.closeSocket i).table = s.table := rfl

@[simp] lemma closeSocket_displaced (s : Server) (i : ℕ) :
    (s.closeSocket i).displaced = s.displaced := rfl

@[simp] lemma pop_conns (s : Server) (i : ℕ) : (s.pop i).conns = s.conns := by
  unfold pop
  split
  · rfl
  · rfl

@[simp] lemma pop_displaced (s : Server) (i : ℕ) : (s.pop i).displaced = s.displaced := by
  unfold pop
  split
  · rfl
  · rfl

/-- Who is in the table behind a removal. -/
lemma pop_table {i k : ℕ} : (s.pop i).table = some k ↔ s.table = some k ∧ k ≠ i := by
  unfold pop
  split
  next ht =>
    rw [ht]
    refine ⟨fun h => (nomatch h), fun h => ?_⟩
    exact absurd (Option.some.inj h.1).symm h.2
  next ht =>
    refine ⟨fun h => ⟨h, ?_⟩, fun h => h.1⟩
    rintro rfl
    exact ht h

lemma install_conns (s : Server) (i k : ℕ) : (s.install i).conns k =
    if k = i then
      if s.installs i then { s.conns i with phase := .greeting }
      else { s.conns i with phase := .waiting, closed := true }
    else s.conns k := by
  unfold install
  split
  · simp only [modify_conns]
  · by_cases hk : k = i
    · simp only [closeSocket_conns, modify_conns, hk, if_true]
    · simp only [closeSocket_conns, modify_conns, hk, if_false]

lemma install_table (s : Server) (i : ℕ) :
    (s.install i).table = if s.installs i then some i else s.table := by
  unfold install
  split
  · rfl
  · rfl

lemma install_displaced (s : Server) (i : ℕ) : (s.install i).displaced =
    if s.installs i then s.displaced ++ (s.table.filter (· ≠ i)).toList else s.displaced := by
  unfold install
  split
  · rfl
  · rfl

lemma install_closed {k : ℕ} (h : (s.conns k).closed = true) (i : ℕ) :
    ((s.install i).conns k).closed = true := by
  rw [install_conns]
  split
  next hk =>
    subst hk
    split
    · exact h
    · rfl
  next => exact h

/-- A socket that is closed stays closed. -/
lemma step_closed {k : ℕ} (h : (s.conns k).closed = true) (a : Action) :
    ((s.step a).conns k).closed = true := by
  have hmodify : ∀ {s : Server} (i : ℕ) {f : Conn → Conn}, (∀ c, (f c).closed = c.closed) →
      (s.conns k).closed = true → ((s.modify i f).conns k).closed = true := by
    intro s i f hf h
    rw [modify_conns]
    split
    next hk => rw [hf, ← hk, h]
    next => exact h
  have hclose : ∀ {s : Server} (i : ℕ), (s.conns k).closed = true →
      ((s.closeSocket i).conns k).closed = true := by
    intro s i h
    rw [closeSocket_conns]
    split
    · rfl
    · exact h
  cases a with
  | connect i =>
    simp only [step]
    split
    · exact hmodify i (fun _ => rfl) h
    · exact h
  | auth i allowed =>
    simp only [step]
    split
    · unfold auth
      split
      · exact hmodify i (fun _ => rfl) h
      · split
        · exact install_closed h i
        · split
          · exact install_closed h i
          · exact hclose _ (hmodify i (fun _ => rfl) h)
    · exact h
  | refuse i =>
    simp only [step]
    split
    · exact hclose i h
    · exact h
  | resumed i =>
    simp only [step]
    split
    · exact install_closed h i
    · exact h
  | greeted i =>
    simp only [step]
    split
    · exact hmodify i (fun _ => rfl) h
    · exact h
  | message i allowed =>
    simp only [step]
    split
    · exact hclose i h
    · exact h
  | timeout i =>
    simp only [step]
    split
    · exact hclose i h
    · exact h
  | disconnect i =>
    simp only [step]
    split
    · exact h
    · exact hclose i h
  | finish i =>
    simp only [step]
    split
    · exact h
    · rw [pop_conns]
      exact hclose i (hmodify i (fun _ => rfl) h)
  | revoke i =>
    simp only [step]
    exact hmodify i (fun _ => rfl) h
  | closeRevoked i =>
    simp only [step]
    split
    · rw [pop_conns]
      exact hmodify i (fun _ => rfl) h
    · exact h
  | teardown i =>
    simp only [step]
    split
    · exact hclose i (hmodify i (fun _ => rfl) h)
    · exact h

lemma Tabled.install (h : s.Tabled) {i : ℕ} (hi : (s.conns i).phase ≠ .greeting)
    (hi' : (s.conns i).phase ≠ .waiting) : (s.install i).Tabled := by
  intro k hk
  rw [install_table] at hk
  rw [install_conns]
  split at hk
  next hin =>
    cases hk
    rw [if_pos rfl, if_pos hin]
    exact .inl rfl
  next =>
    have hk' := h k hk
    have hne : k ≠ i := by
      rintro rfl
      rcases hk' with hk' | hk'
      · exact hi hk'
      · exact hi' hk'
    rw [if_neg hne]
    exact hk'

lemma Tabled.step (h : s.Tabled) (a : Action) : (s.step a).Tabled := by
  unfold Tabled at h
  cases a with
  | auth i allowed =>
    simp only [Server.step]
    split
    next hi =>
      have hinstall := Tabled.install h (i := i) (by simp [hi.1]) (by simp [hi.1])
      unfold auth
      split
      · intro k hk
        simp only [modify_conns]
        grind [modify_table]
      · split
        · exact hinstall
        · split
          · exact hinstall
          · intro k hk
            simp only [closeSocket_conns, modify_conns]
            grind [closeSocket_table, modify_table]
    next => exact h
  | resumed i =>
    simp only [Server.step]
    split
    next j hj => exact Tabled.install h (by simp [hj]) (by simp [hj])
    next => exact h
  | finish i =>
    simp only [Server.step]
    split
    · exact h
    · intro k hk
      obtain ⟨hk, hki⟩ := pop_table.mp hk
      simp only [pop_conns, closeSocket_conns, modify_conns, if_neg hki]
      exact h k hk
  | closeRevoked i =>
    simp only [Server.step]
    split
    · intro k hk
      obtain ⟨hk, hki⟩ := pop_table.mp hk
      simp only [pop_conns, modify_conns, if_neg hki]
      exact h k hk
    · exact h
  | _ =>
    intro k hk
    simp only [Server.step] at hk ⊢
    grind [modify_conns, closeSocket_conns, modify_table, closeSocket_table]

lemma Inv.install (h : s.Inv) {i : ℕ}
    (hfree : s.installs i = true → ∀ k, s.table = some k → k ≠ i → (s.conns k).closed = true) :
    (s.install i).Inv where
  one k hk := by
    unfold Open at hk
    rw [install_conns] at hk
    rw [install_table, install_conns]
    by_cases hki : k = i
    · subst hki
      rw [if_pos rfl] at hk
      split at hk
      next hin =>
        rw [if_pos hin]
        exact .inl rfl
      next => exact absurd hk.2 (by simp)
    · rw [if_neg hki] at hk ⊢
      rcases h.one k hk with ht | hr
      · split
        next hin =>
          -- the one in the table is closed
          exact absurd ((hfree hin k ht hki).symm.trans hk.2) (by decide)
        next => exact .inl ht
      · exact .inr hr
  displaced j hj := by
    apply install_closed
    rw [install_displaced] at hj
    split at hj
    next hin =>
      rcases List.mem_append.mp hj with hj | hj
      · exact h.displaced j hj
      · simp only [Option.mem_toList, Option.filter_eq_some_iff, decide_eq_true_eq] at hj
        exact hfree hin j hj.1 hj.2
    next => exact h.displaced j hj

lemma Inv.auth (h : s.Inv) (i : ℕ) (allowed : Bool) : (s.auth i allowed).Inv := by
  unfold Server.auth
  split
  next =>
    refine ⟨fun k hk => ?_, fun j hj => ?_⟩
    · unfold Open at hk
      rw [modify_conns] at hk ⊢
      split at hk
      next => exact absurd hk.1 (by simp [Phase.authenticated])
      next hki =>
        rw [if_neg hki]
        exact h.one k hk
    · have hclosed := h.displaced j hj
      rw [modify_conns]
      split
      next hji => exact hji ▸ hclosed
      next => exact hclosed
  next =>
    split
    next ht => exact h.install fun _ k hk => by simp [ht] at hk
    next j ht =>
      split
      next hj =>
        refine h.install fun _ k hk hki => ?_
        rw [ht] at hk
        cases hk
        exact hj.resolve_left hki
      next hj =>
        rw [not_or] at hj
        refine ⟨fun k hk => ?_, fun k hk => ?_⟩
        · unfold Open at hk
          simp only [closeSocket_conns, modify_conns, closeSocket_table, modify_table] at hk ⊢
          by_cases hkj : k = j
          · rw [if_pos hkj] at hk
            exact absurd hk.2 (by simp)
          · rw [if_neg hkj] at hk ⊢
            by_cases hki : k = i
            · rw [if_pos hki]
              exact .inr (.inl ⟨j, rfl⟩)
            · rw [if_neg hki] at hk ⊢
              exact h.one k hk
        · have hclosed := h.displaced k hk
          simp only [closeSocket_conns, modify_conns]
          split
          · rfl
          · split
            next hki => exact hki ▸ hclosed
            next => exact hclosed

lemma Inv.step (h : s.Inv) {a : Action} (hreg : s.Regular a) : (s.step a).Inv := by
  cases a with
  | auth i allowed =>
    simp only [Server.step]
    split
    · exact h.auth i allowed
    · exact h
  | resumed i =>
    simp only [Server.step]
    split
    next j hj => exact h.install (hreg ⟨j, hj⟩)
    next => exact h
  | finish i =>
    refine ⟨fun k hk => ?_, fun k hk => step_closed (h.displaced k ?_) _⟩
    · simp only [Server.step] at hk ⊢
      split at hk
      next ha =>
        rw [if_pos ha]
        exact h.one k hk
      next ha =>
        unfold Open at hk
        rw [if_neg ha]
        simp only [pop_conns, pop_table, closeSocket_conns, modify_conns, closeSocket_table,
          modify_table] at hk ⊢
        by_cases hki : k = i
        · rw [if_pos hki] at hk
          exact absurd hk.2 (by simp)
        · simp only [if_neg hki] at hk ⊢
          rcases h.one k hk with ht | hr
          · exact .inl ⟨ht, hki⟩
          · exact .inr hr
    · simp only [Server.step] at hk
      split at hk
      · exact hk
      · rw [pop_displaced] at hk
        exact hk
  | closeRevoked i =>
    refine ⟨fun k hk => ?_, fun k hk => step_closed (h.displaced k ?_) _⟩
    · simp only [Server.step] at hk ⊢
      split at hk
      next ha =>
        unfold Open at hk
        rw [if_pos ha]
        simp only [pop_conns, pop_table, modify_conns, modify_table] at hk ⊢
        by_cases hki : k = i
        · rw [if_pos hki]
          exact .inr (.inr rfl)
        · rw [if_neg hki] at hk ⊢
          rcases h.one k hk with ht | hr
          · exact .inl ⟨ht, hki⟩
          · exact .inr hr
      next ha =>
        rw [if_neg ha]
        exact h.one k hk
    · simp only [Server.step] at hk
      split at hk
      · rw [pop_displaced] at hk
        exact hk
      · exact hk
  | _ =>
    refine ⟨fun k hk => ?_, fun k hk => step_closed (h.displaced k ?_) _⟩
    · have hone := h.one k
      unfold Open at hk hone
      simp only [Server.step] at hk ⊢
      grind [modify_conns, closeSocket_conns, modify_table, closeSocket_table, Phase.authenticated]
    · simp only [Server.step] at hk
      grind [modify_displaced, closeSocket_displaced]

/-- The server after the first `n` actions. -/
abbrev server (acts : ℕ → Action) (n : ℕ) : Server := run Server.step Server.start acts n

/-- **When an agent has one connection.** In a run in which every handshake that installs its
connection behind a close finds no open one in the table, every settled state has no authenticated
open connection but the one in the table, and every one displaced is closed. A handshake that finds
an open one displaces it, and leaves it open, authenticated and out of the table. -/
theorem one_connection (acts : ℕ → Action) :
    (∀ n, (∀ i < n, (server acts i).Regular (acts i)) → (server acts n).Settled →
      (∀ i, (server acts n).Open i → (server acts n).table = some i) ∧
        ∀ j ∈ (server acts n).displaced, ((server acts n).conns j).closed = true) ∧
    ∀ n, ¬ (server acts n).Regular (acts n) → ∃ k ∈ (server acts (n + 1)).displaced,
      (server acts (n + 1)).Open k ∧ (server acts (n + 1)).table ≠ some k := by
  have htabled : ∀ n, (server acts n).Tabled :=
    run_invariant (I := fun _ => Server.Tabled) tabled_start fun _ _ h => h.step _
  refine ⟨fun n hreg hsettled => ?_, fun n hreg => ?_⟩
  · have hinv : ∀ k, k ≤ n → (server acts k).Inv := by
      intro k hk
      induction k with
      | zero => exact inv_start
      | succ k ih => exact (ih (Nat.le_of_succ_le hk)).step (hreg k hk)
    have h := hinv n le_rfl
    refine ⟨fun i hi => ?_, h.displaced⟩
    obtain ⟨hphase, hretiring⟩ := hsettled i
    rcases h.one i hi with ht | ⟨j, hj⟩ | hr
    · exact ht
    · rw [hj] at hphase
      rcases hphase with hp | hp | hp | hp <;> cases hp
    · exact absurd (hretiring.symm.trans hr) (by decide)
  · have hstep : server acts (n + 1) = (server acts n).step (acts n) := rfl
    have ht' := htabled n
    generalize server acts n = s at hreg hstep ht'
    rw [hstep]
    cases hact : acts n with
    | resumed i =>
      rw [hact] at hreg
      simp only [Regular, Classical.not_imp, not_forall, Bool.not_eq_true] at hreg
      obtain ⟨⟨j, hj⟩, hin, k, ht, hki, hopen⟩ := hreg
      simp only [Server.step, hj]
      refine ⟨k, ?_, ?_, ?_⟩
      · rw [install_displaced, if_pos hin]
        refine List.mem_append_right _ ?_
        simp [ht, hki]
      · unfold Open
        rw [install_conns, if_neg hki]
        refine ⟨?_, hopen⟩
        rcases ht' k ht with hp | hp
        · rw [hp]
          rfl
        · rw [hp]
          rfl
      · rw [install_table, if_pos hin]
        exact fun he => hki (Option.some.inj he).symm
    | _ =>
      rw [hact] at hreg
      exact absurd trivial hreg

/-- A second connection replaces the first, whose handler then ends. -/
def replaced (n : ℕ) : Action :=
  [.connect 0, .auth 0 true, .greeted 0, .connect 1, .auth 1 true, .resumed 1, .greeted 1].getD n
    (.finish 0)

theorem one_connection_sample : (server replaced 8).Settled ∧ (server replaced 8).table = some 1 ∧
    (∀ i, (server replaced 8).Open i → i = 1) ∧ (server replaced 8).displaced = [0] := by
  have hconns : ∀ i, 1 < i → (server replaced 8).conns i = ⟨.absent, false, true, false⟩ := by
    intro i hi
    have hne : i ≠ 0 ∧ i ≠ 1 := by omega
    simp [server, run, replaced, Server.step, Server.auth, Server.install, Server.installs,
      Server.start, Server.pop, hne, Server.modify, Server.closeSocket, Function.update]
  have hsettled : (server replaced 8).Settled := by
    intro i
    by_cases hi : 1 < i
    · rw [hconns i hi]
      exact ⟨.inl rfl, rfl⟩
    · have hcases : i = 0 ∨ i = 1 := by omega
      rcases hcases with rfl | rfl
      · exact ⟨.inr (.inr (.inr (by decide))), by decide⟩
      · exact ⟨.inr (.inr (.inl (by decide))), by decide⟩
  have htable : (server replaced 8).table = some 1 := by decide
  have hone := (one_connection replaced).1 8 (fun i hi => ?_) hsettled
  · refine ⟨hsettled, htable, fun i hi => ?_, by decide⟩
    exact Option.some.inj ((hone.1 i hi).symm.trans htable)
  · interval_cases i
    case «5» =>
      intro _ _ k hk hne
      have h0 : (server replaced 5).table = some 0 := by decide
      obtain rfl : 0 = k := Option.some.inj (h0.symm.trans hk)
      decide
    all_goals exact trivial

/-- Two handshakes find the same connection in the table: the first waits for its close, the second
does not, and is displaced by the first. -/
def overlap (n : ℕ) : Action :=
  [.connect 0, .auth 0 true, .greeted 0, .connect 1, .auth 1 true, .connect 2, .auth 2 true,
    .greeted 2, .finish 0, .resumed 1, .greeted 1].getD n (.teardown 0)

theorem two_connections :
    ¬ ∀ acts n, (server acts n).Settled →
      (∀ i, (server acts n).Open i → (server acts n).table = some i) ∧
        ∀ j ∈ (server acts n).displaced, ((server acts n).conns j).closed = true := by
  intro h
  have hconns : ∀ i, 2 < i → (server overlap 11).conns i = ⟨.absent, false, true, false⟩ := by
    intro i hi
    have hne : i ≠ 0 ∧ i ≠ 1 ∧ i ≠ 2 := by omega
    simp [server, run, overlap, Server.step, Server.auth, Server.install, Server.installs,
      Server.start, hne, Server.modify, Server.closeSocket, Function.update]
  have hsettled : (server overlap 11).Settled := by
    intro i
    by_cases hi : 2 < i
    · rw [hconns i hi]
      exact ⟨.inl rfl, rfl⟩
    · have hcases : i = 0 ∨ i = 1 ∨ i = 2 := by omega
      rcases hcases with rfl | rfl | rfl
      · exact ⟨.inr (.inr (.inr (by decide))), by decide⟩
      · exact ⟨.inr (.inr (.inl (by decide))), by decide⟩
      · exact ⟨.inr (.inr (.inl (by decide))), by decide⟩
  have hopen : (server overlap 11).Open 2 := ⟨by decide, by decide⟩
  exact absurd ((h overlap 11 hsettled).1 2 hopen) (by decide)

end Server

end Vauxr.Handshake
