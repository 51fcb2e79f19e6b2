import Mathlib
import Vauxr.Lib.Coalesce
import Vauxr.Lib.Rank
import Vauxr.Lib.Run
import Vauxr.Lib.Text

/-!
The relay of transcript updates to the browser (`realtime/transcript.py`): a bounded queue whose
last update may be replaced, and one worker that sends.

A step lasts from one point of suspension to the next. The times of the sends are left out.
-/

namespace Vauxr.Relay

open Lib

structure Message where
  role : Text
  text : Text
  turnId : Text
  final : Bool

/-- The worker: not there, made but not run yet, suspended in a send, or at its end. -/
inductive Task
  | none | ready | sending | done
  deriving DecidableEq

/-- The relay, with every update that it took, every message that it handed to `send`, and the calls
of the failure callback. -/
structure State where
  pending : List Message
  task : Task
  closed : Bool
  enqueued : List Message
  handed : List Message
  failures : ℕ

/-- What a send comes to; a timeout raises. -/
inductive Result
  | delivered | refused | raised

/-- `close` first closes the relay, waits for the worker if it drains, then cancels the worker and
clears the queue. -/
inductive Action
  | enqueue (role text turnId : Text) (final : Bool)
  | wake (result : Result)
  | close
  | cancel
  | clear

def limit : ℕ := 64

def textLimit : ℕ := 6000

namespace State

def start : State := ⟨[], .none, false, [], [], 0⟩

/-- `_failed` -/
def failed (s : State) : State :=
  if s.closed then s
  else { s with closed := true, failures := s.failures + 1, pending := [] }

/-- The worker takes the next message, or ends. -/
def next (s : State) : State :=
  match s.pending with
  | [] => { s with task := .done }
  | m :: rest => { s with pending := rest, handed := s.handed ++ [m], task := .sending }

def alive (s : State) : Bool := s.task = .ready || s.task = .sending

/-- The last update of the queue, if it may be replaced by one of the turn. -/
def replaceable (s : State) (turnId : Text) : Bool :=
  s.pending.getLast?.any fun m => m.turnId = turnId && !m.final

/-- A worker is made where there is none at work. -/
def restart (s : State) : State := if s.alive then s else { s with task := .ready }

def enqueue (s : State) (m : Message) : State :=
  if s.closed then s
  else if s.replaceable m.turnId then
    { s with pending := s.pending.dropLast ++ [m], enqueued := s.enqueued ++ [m] }.restart
  else if s.pending.length < limit then
    { s with pending := s.pending ++ [m], enqueued := s.enqueued ++ [m] }.restart
  else s.failed

/-- The worker runs on. -/
def wake (s : State) (result : Result) : State :=
  match s.task, result with
  | .ready, _ => s.next
  | .sending, .delivered => s.next
  | .sending, _ => { s.failed with task := .done }
  | _, _ => s

def step (s : State) : Action → State
  | .enqueue role t turnId final => s.enqueue ⟨role, t.drop (t.length - textLimit), turnId, final⟩
  | .wake result => s.wake result
  | .close => { s with closed := true }
  | .cancel => if s.closed && s.alive then { s with task := .done } else s
  | .clear => if s.closed && !s.alive then { s with pending := [] } else s

/-- An update is replaced by one of its turn, unless it is final. -/
def Replaces (a b : Message) : Prop := a.turnId = b.turnId ∧ a.final = false

def finals (l : List Message) : List Message := l.filter Message.final

/-- What was handed over and what is pending, together, are what was enqueued, but for updates that
were replaced; a closed relay may have dropped what was pending. -/
structure Inv (s : State) : Prop where
  kept : ∃ rest, Coalesced Replaces s.enqueued (s.handed ++ rest) ∧
    (s.pending = rest ∨ s.closed = true ∧ s.pending = [])
  bound : s.pending.length ≤ limit
  worker : s.closed = false → s.pending ≠ [] → s.alive = true
  once : s.failures ≤ 1
  silent : 0 < s.failures → s.closed = true ∧ s.pending = []

variable {s : State}

lemma inv_start : start.Inv where
  kept := ⟨[], .nil, .inl rfl⟩
  bound := Nat.zero_le _
  worker _ h := absurd rfl h
  once := Nat.zero_le _
  silent h := absurd h (Nat.lt_irrefl 0)

lemma Inv.failed (h : s.Inv) : s.failed.Inv := by
  unfold State.failed
  split
  next => exact h
  next hopen =>
    obtain ⟨rest, hkept, -⟩ := h.kept
    have hzero : s.failures = 0 := by
      by_contra hne
      exact hopen (h.silent (Nat.pos_of_ne_zero hne)).1
    exact ⟨⟨rest, hkept, .inr ⟨rfl, rfl⟩⟩, Nat.zero_le _, fun hc => (nomatch hc),
      by simp [hzero], fun _ => ⟨rfl, rfl⟩⟩

lemma Inv.next (h : s.Inv) : s.next.Inv := by
  unfold State.next
  split
  next hnil =>
    exact ⟨h.kept, h.bound, fun _ hne => absurd hnil hne, h.once, h.silent⟩
  next m rest hpending =>
    obtain ⟨rest', hkept, hrest⟩ := h.kept
    have hsame : rest' = m :: rest := by
      rcases hrest with hrest | ⟨-, hrest⟩
      · rw [← hrest, hpending]
      · rw [hpending] at hrest
        cases hrest
    have hbound := h.bound
    rw [hpending, List.length_cons] at hbound
    refine ⟨⟨rest, ?_, .inl rfl⟩, Nat.le_of_succ_le hbound, fun _ _ => rfl, h.once, fun hf => ?_⟩
    · rw [hsame] at hkept
      rw [List.append_assoc]
      exact hkept
    · have hnil := (h.silent hf).2
      rw [hpending] at hnil
      cases hnil

lemma restart_alive (s : State) : s.restart.alive = true := by
  unfold State.restart
  split
  next h => exact h
  next => rfl

lemma replaceable_spec {turnId : Text} (h : s.replaceable turnId = true) :
    ∃ k m, s.pending = k ++ [m] ∧ m.turnId = turnId ∧ m.final = false := by
  simp only [replaceable, Option.any_eq_true, Bool.and_eq_true, decide_eq_true_eq,
    Bool.not_eq_true'] at h
  obtain ⟨m, hlast, hturn, hfinal⟩ := h
  refine ⟨s.pending.dropLast, m, ?_, hturn, hfinal⟩
  exact (List.dropLast_append_getLast? m hlast).symm

/-- What an open relay makes of an update. -/
lemma Inv.enqueue (h : s.Inv) (m : Message) : (s.enqueue m).Inv := by
  unfold State.enqueue
  split
  next => exact h
  next hopen =>
    have hopen : s.closed = false := by simpa using hopen
    have hzero : ¬ 0 < s.failures := fun hf => by
      have hclosed := (h.silent hf).1
      rw [hopen] at hclosed
      cases hclosed
    obtain ⟨rest, hkept, hrest⟩ := h.kept
    have hpending : s.pending = rest := by
      rcases hrest with hrest | ⟨hclosed, -⟩
      · exact hrest
      · rw [hopen] at hclosed
        cases hclosed
    rw [← hpending] at hkept
    -- the worker is at work behind it, whatever the queue is
    have hrestart : ∀ pending : List Message, pending.length ≤ limit →
        Coalesced Replaces (s.enqueued ++ [m]) (s.handed ++ pending) →
        ({ s with pending, enqueued := s.enqueued ++ [m] } : State).restart.Inv := by
      intro pending hlen hc
      have hsame : ∀ t : State, t = { s with pending, enqueued := s.enqueued ++ [m] } →
          t.restart.Inv := by
        intro t ht
        have halive := restart_alive t
        unfold State.restart at halive ⊢
        split at halive
        next hal =>
          rw [if_pos hal]
          subst ht
          exact ⟨⟨pending, hc, .inl rfl⟩, hlen, fun _ _ => hal, h.once, fun hf => absurd hf hzero⟩
        next hal =>
          rw [if_neg hal]
          subst ht
          exact ⟨⟨pending, hc, .inl rfl⟩, hlen, fun _ _ => rfl, h.once, fun hf => absurd hf hzero⟩
      exact hsame _ rfl
    split
    next hrep =>
      obtain ⟨k, m', hk, hturn, hfinal⟩ := replaceable_spec hrep
      have hbound := h.bound
      rw [hk] at hkept hbound ⊢
      refine hrestart _ ?_ ?_
      · rw [List.dropLast_concat]
        simpa using hbound
      · rw [List.dropLast_concat, ← List.append_assoc]
        rw [← List.append_assoc] at hkept
        exact .replace hkept ⟨hturn, hfinal⟩
    next =>
      split
      next hlen =>
        refine hrestart _ ?_ ?_
        · rw [List.length_append, List.length_singleton]
          exact hlen
        · rw [← List.append_assoc]
          exact hkept.append m
      next => exact h.failed

lemma Inv.done (h : s.Inv) (hclosed : s.closed = true) :
    ({ s with task := .done } : State).Inv :=
  ⟨h.kept, h.bound, fun ho => absurd (hclosed.symm.trans ho) (by decide), h.once, h.silent⟩

lemma failed_closed (s : State) : s.failed.closed = true := by
  unfold State.failed
  split
  next h => exact h
  next => rfl

lemma Inv.wake (h : s.Inv) (result : Result) : (s.wake result).Inv := by
  unfold State.wake
  split
  · exact h.next
  · exact h.next
  · exact h.failed.done (failed_closed s)
  · exact h

lemma Inv.step (h : s.Inv) (a : Action) : (s.step a).Inv := by
  cases a with
  | enqueue role t turnId final => exact h.enqueue _
  | wake result => exact h.wake result
  | close =>
    obtain ⟨rest, hkept, hrest⟩ := h.kept
    exact ⟨⟨rest, hkept, hrest.imp id fun hr => ⟨rfl, hr.2⟩⟩, h.bound, fun hc => (nomatch hc),
      h.once, fun hf => ⟨rfl, (h.silent hf).2⟩⟩
  | cancel =>
    simp only [State.step]
    split
    next hc =>
      rw [Bool.and_eq_true] at hc
      exact h.done hc.1
    next => exact h
  | clear =>
    simp only [State.step]
    split
    next hc =>
      rw [Bool.and_eq_true] at hc
      obtain ⟨rest, hkept, -⟩ := h.kept
      exact ⟨⟨rest, hkept, .inr ⟨hc.1, rfl⟩⟩, Nat.zero_le _, fun _ hne => absurd rfl hne, h.once,
        fun hf => ⟨(h.silent hf).1, rfl⟩⟩
    next => exact h

/-! ### After the end -/

/-- A closed relay with nothing pending hands over nothing more. -/
lemma step_silent (hclosed : s.closed = true) (hpending : s.pending = []) (a : Action) :
    (s.step a).handed = s.handed ∧ (s.step a).closed = true ∧ (s.step a).pending = [] := by
  have hfailed : s.failed = s := by
    unfold State.failed
    rw [if_pos hclosed]
  cases a with
  | enqueue role t turnId final =>
    simp only [step, State.enqueue, hclosed, if_true]
    exact ⟨trivial, trivial, hpending⟩
  | wake result =>
    simp only [step]
    unfold State.wake
    split
    · simp only [State.next, hpending]
      exact ⟨trivial, hclosed, trivial⟩
    · simp only [State.next, hpending]
      exact ⟨trivial, hclosed, trivial⟩
    · rw [hfailed]
      exact ⟨rfl, hclosed, hpending⟩
    · exact ⟨rfl, hclosed, hpending⟩
  | close => exact ⟨rfl, rfl, hpending⟩
  | cancel =>
    simp only [step]
    split
    · exact ⟨rfl, hclosed, hpending⟩
    · exact ⟨rfl, hclosed, hpending⟩
  | clear =>
    simp only [step]
    split
    · exact ⟨rfl, hclosed, rfl⟩
    · exact ⟨rfl, hclosed, hpending⟩

/-! ### Delivery -/

lemma restart_fields (s : State) : s.restart.pending = s.pending ∧
    s.restart.handed = s.handed ∧ s.restart.closed = s.closed ∧
    s.restart.enqueued = s.enqueued := by
  unfold State.restart
  split
  · exact ⟨rfl, rfl, rfl, rfl⟩
  · exact ⟨rfl, rfl, rfl, rfl⟩

/-- What is handed over or waits to be. -/
def line (s : State) : List Message := s.handed ++ s.pending

/-- What a step of a relay that stays open does to the line: nothing, or it grows by an update, or
its last element, which waits, is replaced. -/
lemma step_line (a : Action) (hopen : (s.step a).closed = false) :
    (s.step a).line = s.line ∨ (∃ m, (s.step a).line = s.line ++ [m]) ∨
      ∃ k m m', s.line = k ++ [m] ∧ m.final = false ∧ s.handed.length ≤ k.length ∧
        (s.step a).line = k ++ [m'] := by
  have hnext : s.next.line = s.line := by
    unfold State.next line
    split
    next => rfl
    next m rest hpending => rw [hpending, List.append_assoc]; rfl
  cases a with
  | enqueue role t turnId final =>
    simp only [step] at hopen ⊢
    generalize hm : (⟨role, t.drop (t.length - textLimit), turnId, final⟩ : Message) = m at hopen ⊢
    unfold State.enqueue at hopen ⊢
    split
    next => exact .inl rfl
    next =>
      split
      next hrep =>
        obtain ⟨k, m', hk, -, hfinal⟩ := replaceable_spec hrep
        obtain ⟨hp, hh, -, -⟩ := restart_fields
          { s with pending := s.pending.dropLast ++ [m], enqueued := s.enqueued ++ [m] }
        refine .inr (.inr ⟨s.handed ++ k, m', m, ?_, hfinal, ?_, ?_⟩)
        · rw [line, hk, List.append_assoc]
        · rw [List.length_append]
          omega
        · rw [line, hp, hh, hk]
          dsimp only
          rw [List.dropLast_concat, List.append_assoc]
      next =>
        split
        next =>
          obtain ⟨hp, hh, -, -⟩ := restart_fields
            { s with pending := s.pending ++ [m], enqueued := s.enqueued ++ [m] }
          refine .inr (.inl ⟨m, ?_⟩)
          rw [line, hp, hh, line, List.append_assoc]
        next hclosed hrep hlen =>
          rw [if_neg hclosed, if_neg hrep, if_neg hlen, failed_closed] at hopen
          cases hopen
  | wake result =>
    simp only [step] at hopen ⊢
    unfold State.wake at hopen ⊢
    split
    · exact .inl hnext
    · exact .inl hnext
    next heq₁ heq₂ =>
      split at hopen
      next h => exact absurd (heq₁.symm.trans h) (by decide)
      next h => exact absurd rfl heq₂
      next => exact absurd ((failed_closed s).symm.trans hopen) (by decide)
      next hsending => exact absurd heq₁ (by simp_all)
    · exact .inl rfl
  | close => cases hopen
  | cancel =>
    simp only [step] at hopen ⊢
    split
    · exact .inl rfl
    · exact .inl rfl
  | clear =>
    simp only [step] at hopen ⊢
    split
    next h =>
      rw [if_pos h] at hopen
      rw [Bool.and_eq_true] at h
      exact absurd (h.1.symm.trans hopen) (by decide)
    next => exact .inl rfl

/-- A relay that is closed stays closed. -/
lemma step_closed (hclosed : s.closed = true) (a : Action) : (s.step a).closed = true := by
  have hnext : s.next.closed = true := by
    unfold State.next
    split
    · exact hclosed
    · exact hclosed
  cases a with
  | enqueue role t turnId final =>
    simp only [step, State.enqueue, hclosed, if_true]
  | wake result =>
    simp only [step]
    unfold State.wake
    split
    · exact hnext
    · exact hnext
    · exact failed_closed s
    · exact hclosed
  | close => rfl
  | cancel =>
    simp only [step]
    split
    · exact hclosed
    · exact hclosed
  | clear =>
    simp only [step]
    split
    · exact hclosed
    · exact hclosed

lemma handed_le (s : State) (a : Action) : s.handed.length ≤ (s.step a).handed.length := by
  have hnext : s.handed.length ≤ s.next.handed.length := by
    unfold State.next
    split
    · exact le_rfl
    · rw [List.length_append]
      omega
  have hfailed : s.failed.handed = s.handed := by
    unfold State.failed
    split
    · rfl
    · rfl
  cases a with
  | enqueue role t turnId final =>
    simp only [step]
    unfold State.enqueue
    split
    · exact le_rfl
    · split
      · rw [(restart_fields _).2.1]
      · split
        · rw [(restart_fields _).2.1]
        · rw [hfailed]
  | wake result =>
    simp only [step]
    unfold State.wake
    split
    · exact hnext
    · exact hnext
    · exact hfailed.symm ▸ le_rfl
    · exact le_rfl
  | close => exact le_rfl
  | cancel =>
    simp only [step]
    split
    · exact le_rfl
    · exact le_rfl
  | clear =>
    simp only [step]
    split
    · exact le_rfl
    · exact le_rfl

/-- A worker at work that runs hands over the next message, or the relay is closed. -/
lemma wake_hands (halive : s.alive = true) (hpending : s.pending ≠ []) (result : Result) :
    (s.wake result).closed = true ∨ s.handed.length < (s.wake result).handed.length := by
  have hnext : s.handed.length < s.next.handed.length := by
    unfold State.next
    split
    next h => exact absurd h hpending
    next =>
      rw [List.length_append, List.length_singleton]
      omega
  unfold State.wake
  split
  · exact .inr hnext
  · exact .inr hnext
  · exact .inl (failed_closed s)
  next hready hsending _ =>
    exfalso
    unfold State.alive at halive
    rw [Bool.or_eq_true, decide_eq_true_eq, decide_eq_true_eq] at halive
    rcases halive with htask | htask
    · exact hready htask
    · exact hsending htask

/-- An open relay takes an update, or fails. -/
lemma enqueue_takes (hopen : s.closed = false) (m : Message) :
    (s.enqueue m).enqueued = s.enqueued ++ [m] ∨
      (s.enqueue m).closed = true ∧ (s.enqueue m).failures = s.failures + 1 := by
  unfold State.enqueue
  rw [if_neg (by simp [hopen])]
  split
  · exact .inl (restart_fields _).2.2.2
  · split
    · exact .inl (restart_fields _).2.2.2
    · unfold State.failed
      rw [if_neg (by simp [hopen])]
      exact .inr ⟨rfl, rfl⟩

/-- How many messages an open relay has yet to hand over before it has handed over `k`. -/
def owing (k : ℕ) (s : State) : ℕ := if s.closed then 0 else k - s.handed.length

/-- A step keeps the finals among the first messages of the line, and those stay in it. -/
lemma step_take {a : Action} {k : ℕ} (hopen : (s.step a).closed = false)
    (hk : k ≤ s.line.length) : k ≤ (s.step a).line.length ∧
      finals (s.line.take k) <+: finals ((s.step a).line.take k) := by
  rcases step_line a hopen with hline | ⟨m, hline⟩ | ⟨l, m, m', hline, hfinal, -, hline'⟩
  · rw [hline]
    exact ⟨hk, List.prefix_rfl⟩
  · rw [hline, List.length_append, List.take_append_of_le_length hk]
    exact ⟨by omega, List.prefix_rfl⟩
  · have hlen : (s.step a).line.length = s.line.length := by
      rw [hline, hline', List.length_append, List.length_append]
      rfl
    refine ⟨hlen ▸ hk, ?_⟩
    rw [hline, List.length_append, List.length_singleton] at hk
    by_cases hle : k ≤ l.length
    · rw [hline, hline', List.take_append_of_le_length hle, List.take_append_of_le_length hle]
    · -- the last one is among them: the one that goes is not final
      have hall : ∀ x : Message, (l ++ [x]).take k = l ++ [x] := fun x =>
        List.take_of_length_le (by rw [List.length_append, List.length_singleton]; omega)
      rw [hline, hline', hall, hall, finals, finals, List.filter_append, List.filter_append,
        List.filter_cons_of_neg (by simp [hfinal]), List.filter_nil, List.append_nil]
      exact List.prefix_append _ _

end State

/-! ### Runs -/

section Runs

variable (acts : ℕ → Action)

/-- The relay after the first `n` actions. -/
abbrev relay (n : ℕ) : State := run State.step State.start acts n

/-- A worker at work runs again. -/
def Fair : Prop := ∀ n, (relay acts n).alive = true → ∃ m, n ≤ m ∧ ∃ result, acts m = .wake result

variable {acts}

lemma inv_relay (n : ℕ) : (relay acts n).Inv :=
  run_invariant (I := fun _ => State.Inv) State.inv_start (fun _ _ h => h.step _) n

/-- While the relay stays open, the finals in its line at one time stay among its first messages. -/
lemma take_kept {n m : ℕ} (hnm : n ≤ m) (hopen : (relay acts m).closed = false) :
    (relay acts n).line.length ≤ (relay acts m).line.length ∧
      State.finals (relay acts n).line <+:
        State.finals ((relay acts m).line.take (relay acts n).line.length) := by
  induction hnm with
  | refl =>
    rw [List.take_length]
    exact ⟨le_rfl, List.prefix_rfl⟩
  | @step m hnm ih =>
    have hbefore : (relay acts m).closed = false := by
      by_contra hclosed
      rw [Bool.not_eq_false] at hclosed
      have hstill := State.step_closed hclosed (acts m)
      exact absurd (hstill.symm.trans hopen) (by decide)
    obtain ⟨hlen, hfinals⟩ := ih hbefore
    obtain ⟨hlen', hfinals'⟩ := State.step_take hopen hlen
    exact ⟨hlen', hfinals.trans hfinals'⟩

/-- A step never puts off what the relay owes. -/
lemma owing_le (k m : ℕ) : (relay acts (m + 1)).owing k ≤ (relay acts m).owing k := by
  have hhanded : (relay acts m).handed.length ≤ (relay acts (m + 1)).handed.length :=
    State.handed_le _ _
  unfold State.owing
  by_cases hclosed : (relay acts m).closed = true
  · have hstill : (relay acts (m + 1)).closed = true := State.step_closed hclosed _
    rw [if_pos hclosed, if_pos hstill]
  · rw [if_neg hclosed]
    split
    · exact Nat.zero_le _
    · omega

/-- A relay that owes messages in its line has a worker at work on them. -/
lemma owing_work {n m : ℕ} (hnm : n ≤ m)
    (hpos : 0 < (relay acts m).owing (relay acts n).line.length) :
    (relay acts m).alive = true ∧ (relay acts m).pending ≠ [] := by
  unfold State.owing at hpos
  split at hpos
  next => omega
  next hopen =>
    rw [Bool.not_eq_true] at hopen
    have hlen := (take_kept hnm hopen).1
    have hpending : (relay acts m).pending ≠ [] := by
      intro hnil
      have hline : (relay acts m).line = (relay acts m).handed := by
        rw [State.line, hnil, List.append_nil]
      rw [hline] at hlen
      omega
    exact ⟨(inv_relay m).worker hopen hpending, hpending⟩

/-- A run that keeps its worker running hands over as many messages as are in line. -/
lemma handed_all (hfair : Fair acts) (n : ℕ) : ∃ m, n ≤ m ∧ ((relay acts m).closed = true ∨
    (relay acts n).line.length ≤ (relay acts m).handed.length) := by
  generalize hk : (relay acts n).line.length = k
  refine eventually_of_rank (State.owing k) (fun s => s.closed = true ∨ k ≤ s.handed.length)
    (fun m _ => owing_le k m) ?_
  intro m hm hnot
  by_contra hnever
  -- then the relay owes as much for ever, and its worker runs on at last
  have hsame : ∀ m', m ≤ m' → (relay acts m').owing k = (relay acts m).owing k := by
    intro m' hmm'
    induction hmm' with
    | refl => rfl
    | @step m' hmm' ih =>
      have h₁ := @owing_le acts k m'
      have h₂ : ¬ (relay acts (m' + 1)).owing k < (relay acts m').owing k :=
        fun h => hnever ⟨m', hmm', h⟩
      change (relay acts (m' + 1)).owing k = _
      omega
  have hpos : 0 < (relay acts m).owing k := by
    rw [not_or] at hnot
    rw [State.owing, if_neg hnot.1]
    omega
  obtain ⟨m', hmm', result, hact⟩ := hfair m (owing_work hm (hk ▸ hpos)).1
  rw [← hsame m' hmm'] at hpos
  obtain ⟨halive, hpending⟩ := owing_work (hm.trans hmm') (hk ▸ hpos)
  refine hnever ⟨m', hmm', ?_⟩
  have hstep : relay acts (m' + 1) = (relay acts m').wake result := by
    change State.step _ (acts m') = _
    rw [hact]
    rfl
  rw [hstep]
  unfold State.owing at hpos ⊢
  split at hpos
  next => omega
  next hopen =>
    rw [if_neg hopen]
    rcases State.wake_hands halive hpending result with hclosed | hmore
    · rw [if_pos hclosed]
      exact hpos
    · split
      · exact hpos
      · omega

end Runs

/-- **Every final update is handed over.** Whatever the order of the updates, the sends and their
results: what is handed to `send` and what is pending are the updates taken, in order, but for those
replaced by the next one of their turn; the queue is bounded; the failure callback runs once at most
and nothing is handed over behind it. If a worker at work always runs again, all finals taken are
handed over at last, or the relay is closed. -/
theorem relay_delivers (acts : ℕ → Action) :
    (∀ n,
      (∃ rest, Coalesced State.Replaces (relay acts n).enqueued ((relay acts n).handed ++ rest) ∧
        ((relay acts n).pending = rest ∨ (relay acts n).closed = true ∧ (relay acts n).pending = [])) ∧
      (relay acts n).handed.Sublist (relay acts n).enqueued ∧
      State.finals (relay acts n).handed <+: State.finals (relay acts n).enqueued ∧
      (relay acts n).pending.length ≤ 64 ∧
      (relay acts n).failures ≤ 1 ∧
      (0 < (relay acts n).failures → ∀ m, n ≤ m → (relay acts m).handed = (relay acts n).handed)) ∧
    (∀ n role t turnId final, acts n = .enqueue role t turnId final →
      (relay acts n).closed = false →
        (relay acts (n + 1)).enqueued = (relay acts n).enqueued ++
          [⟨role, t.drop (t.length - textLimit), turnId, final⟩] ∨
        (relay acts (n + 1)).closed = true ∧
          (relay acts (n + 1)).failures = (relay acts n).failures + 1) ∧
    (Fair acts → ∀ n, ∃ m, n ≤ m ∧ ((relay acts m).closed = true ∨
      State.finals (relay acts n).enqueued <+: State.finals (relay acts m).handed)) := by
  have hfinal : ∀ a b, State.Replaces a b → a.final = false := fun _ _ h => h.2
  refine ⟨fun n => ?_, fun n role t turnId final hact hopen => ?_, fun hfair n => ?_⟩
  · have h := @inv_relay acts n
    obtain ⟨rest, hkept, -⟩ := h.kept
    refine ⟨h.kept, (List.sublist_append_left _ _).trans hkept.sublist, ?_, h.bound, h.once,
      fun hf m hm => ?_⟩
    · rw [State.finals, State.finals, ← hkept.filter_eq hfinal, List.filter_append]
      exact List.prefix_append _ _
    · obtain ⟨hclosed, hpending⟩ := h.silent hf
      exact (run_invariant_from
        (I := fun _ (s : State) =>
          s.handed = (relay acts n).handed ∧ s.closed = true ∧ s.pending = [])
        ⟨rfl, hclosed, hpending⟩ (fun _ _ s hs => by
          obtain ⟨h₁, h₂, h₃⟩ := State.step_silent hs.2.1 hs.2.2 (acts _)
          exact ⟨h₁.trans hs.1, h₂, h₃⟩) hm).1
  · have htakes := State.enqueue_takes hopen ⟨role, t.drop (t.length - textLimit), turnId, final⟩
    have hstep : relay acts (n + 1) = (relay acts n).step (acts n) := rfl
    rw [hstep, hact]
    exact htakes
  · by_cases hclosed : (relay acts n).closed = true
    · exact ⟨n, le_rfl, .inl hclosed⟩
    · rw [Bool.not_eq_true] at hclosed
      obtain ⟨m, hm, hdone | hall⟩ := handed_all hfair n
      · exact ⟨m, hm, .inl hdone⟩
      · by_cases hend : (relay acts m).closed = true
        · exact ⟨m, hm, .inl hend⟩
        · rw [Bool.not_eq_true] at hend
          refine ⟨m, hm, .inr ?_⟩
          have hline : State.finals (relay acts n).enqueued = State.finals (relay acts n).line := by
            obtain ⟨rest, hkept, hrest | ⟨hc, -⟩⟩ := (@inv_relay acts n).kept
            · rw [State.line, hrest]
              exact (hkept.filter_eq hfinal).symm
            · exact absurd (hclosed.symm.trans hc) (by decide)
          rw [hline]
          refine (take_kept hm hend).2.trans ?_
          have hline : (relay acts m).line = (relay acts m).handed ++ (relay acts m).pending := rfl
          rw [hline, List.take_append_of_le_length hall]
          exact (List.take_prefix _ _).filter _

end Vauxr.Relay
