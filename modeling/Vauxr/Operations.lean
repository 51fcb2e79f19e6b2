import Mathlib
import Vauxr.OneLive

/-!
Operations over time: none is forgotten, each keeps its terms and only moves on, and one that has
ended stays as it ended.
-/

namespace Vauxr

open Lib

namespace Lifecycle

/-- How far an operation has come. A recovery is delivered once more whenever its device asks
again, until it is acknowledged. -/
def Phase.level (action : Action) : Phase → ℕ
  | .queued => 0
  | .pending => 1
  | .delivered => if action = .recover then 1 else 2
  | .acknowledged => 3
  | .completed | .expired | .revoked => 4

/-- What can have become of an operation. -/
structure Onward (row row' : Row) : Prop where
  same : SameOperation row row'
  level : row.state.level row.action ≤ row'.state.level row.action
  fixed : 2 ≤ row.state.level row.action →
    row'.credentialId = row.credentialId ∧ row'.overlapUntil = row.overlapUntil
  ended : row.state.terminal = true → row' = row

namespace Onward

variable {row row' row'' : Row}

lemma refl (row : Row) : Onward row row :=
  ⟨⟨rfl, rfl, rfl, rfl, rfl, rfl, rfl, rfl⟩, le_rfl, fun _ => ⟨rfl, rfl⟩, fun _ => rfl⟩

lemma trans (h : Onward row row') (h' : Onward row' row'') : Onward row row'' where
  same := by
    obtain ⟨h1, h2, h3, h4, h5, h6, h7, h8⟩ := h.same
    obtain ⟨g1, g2, g3, g4, g5, g6, g7, g8⟩ := h'.same
    exact ⟨g1.trans h1, g2.trans h2, g3.trans h3, g4.trans h4, g5.trans h5, g6.trans h6,
      g7.trans h7, g8.trans h8⟩
  level := by
    have hl := h'.level
    rw [h.same.action] at hl
    exact h.level.trans hl
  fixed hl := by
    have hl' : 2 ≤ row'.state.level row'.action := by
      rw [h.same.action]
      exact hl.trans h.level
    obtain ⟨h1, h2⟩ := h.fixed hl
    obtain ⟨g1, g2⟩ := h'.fixed hl'
    exact ⟨g1.trans h1, g2.trans h2⟩
  ended ht := by
    have he := h.ended ht
    subst he
    exact h'.ended ht

end Onward

variable {c : Ctx} {call : Vauxr.Call} {m m' : Snapshot} {id : String} {row row' : Row}

lemma level_le_four (action : Action) (p : Phase) : p.level action ≤ 4 := by
  cases p with
  | delivered =>
    rw [Phase.level]
    split <;> omega
  | _ => simp [Phase.level]

/-- A recovery that lives on after a sweep has not been acknowledged. -/
lemma Settled.level (hs : Settled c m) (hrow : m.operations.get? id = some row)
    (ha : row.action = .recover) (ht : row.state.terminal = false) :
    row.state.level row.action ≤ 1 := by
  have hl := hs.rows id row hrow
  rw [lapses, ht, Bool.not_false, Bool.true_and, Bool.or_eq_false_iff,
    decide_eq_false_iff_not] at hl
  have hack := hl.1
  cases hp : row.state with
  | queued | pending => simp [Phase.level]
  | delivered => rw [Phase.level, if_pos ha]
  | acknowledged => exact absurd hp hack
  | completed | expired | revoked =>
    rw [hp] at ht
    cases ht

/-- To its end, with what it had. -/
lemma Onward.finished {p : Phase} (hsame : SameOperation row { row with state := p })
    (hp : p.level row.action = 4) (ht : row.state.terminal = false) :
    Onward row { row with state := p } where
  same := hsame
  level := hp ▸ level_le_four row.action row.state
  fixed _ := ⟨rfl, rfl⟩
  ended h := by
    rw [ht] at h
    cases h

lemma Moves.onward (h : Moves c call m m' id row row') (hrow : m.operations.get? id = some row) :
    Onward row row' := by
  have hsame := h.sameOperation
  have hended := h.eq_of_terminal
  cases h with
  | same => exact .refl row
  | swept hl =>
    have ht : row.state.terminal = false := by
      rw [lapses, Bool.and_eq_true, Bool.not_eq_true'] at hl
      exact hl.1
    rw [sweptRow, ht, if_neg Bool.false_ne_true] at hsame ⊢
    split
    · exact .finished ⟨rfl, rfl, rfl, rfl, rfl, rfl, rfl, rfl⟩ rfl ht
    · split
      · exact .finished ⟨rfl, rfl, rfl, rfl, rfl, rfl, rfl, rfl⟩ rfl ht
      · exact .refl row
  | polled p hcall ha hs =>
    refine ⟨hsame, ?_, ?_, hended⟩
    · rw [hs]
      exact Nat.zero_le _
    · rw [hs]
      exact fun hl => absurd hl (by simp [Phase.level])
  | delivered p credential hcall hset ha hs =>
    refine ⟨hsame, ?_, ?_, hended⟩
    · rw [hs, ha]
      simp [Phase.level]
    · rw [hs]
      exact fun hl => absurd hl (by simp [Phase.level])
  | acked p saved hcall hset hp hs =>
    refine ⟨hsame, ?_, fun _ => ⟨rfl, rfl⟩, hended⟩
    rw [hs, Phase.level, Phase.level]
    split <;> omega
  | ended p action id' role subject hcall ho hs ht => exact .finished hsame rfl ht
  | reopened kind key name resolve p hcall hset hp hid ha ht =>
    have hl := hset.level hrow ha ht
    exact ⟨hsame, hl, fun h => absurd h (by omega), hended⟩
  | redelivered requestId signature resolve credential p hcall hset hp hid ha hrole ht =>
    have hl := hset.level hrow ha ht
    refine ⟨hsame, ?_, fun h => absurd h (by omega), hended⟩
    rw [Phase.level, if_pos ha]
    exact hl

/-- What an operation was before it is acknowledged: it has been delivered, and whoever
acknowledges it holds the credential it delivered. -/
lemma Moves.acknowledged (h : Moves c call m m' id row row')
    (hs : row'.state = .acknowledged) : row.state = .acknowledged ∨
      ∃ p saved, call.isLifecycle c m (.ack id saved) p ∧ p.credentialId = row'.credentialId ∧
        row.state = .delivered := by
  cases h with
  | same => exact Or.inl hs
  | swept hl =>
    left
    by_contra hne
    rw [sweptRow, if_neg hne] at hs
    split at hs
    · exact hne hs
    · split at hs
      · cases hs
      · exact hne hs
  | acked p saved hcall hset hp hd => exact Or.inr ⟨p, saved, hcall, hp, hd⟩
  | polled | delivered | ended | reopened | redelivered => cases hs

lemma Created.not_acknowledged (h : Created c call m m' id row') : row'.state ≠ .acknowledged := by
  cases h with
  | rotate _ _ hnew =>
    rw [(newOperation_eq_ok hnew).state]
    nofun
  | revoke row => nofun
  | recover row _ hnew =>
    rw [show ({ row with expiresAt := c.now + overlapSeconds } : Row).state = row.state from rfl,
      (newOperation_eq_ok hnew).state]
    nofun

/-- The operations of a snapshot, each a later form of the one that was there. -/
def Forward (m m' : Snapshot) : Prop :=
  ∀ id row, m.operations.get? id = some row →
    ∃ row', m'.operations.get? id = some row' ∧ Onward row row'

lemma Forward.refl (m : Snapshot) : Forward m m := fun _ row h => ⟨row, h, .refl row⟩

lemma Forward.trans {m'' : Snapshot} (h : Forward m m') (h' : Forward m' m'') :
    Forward m m'' := by
  intro id row hrow
  obtain ⟨row', hrow', ho⟩ := h id row hrow
  obtain ⟨row'', hrow'', ho'⟩ := h' id row' hrow'
  exact ⟨row'', hrow'', ho.trans ho'⟩

lemma forward_commit (h : Commit c call m m') : Forward m m' := by
  intro id row hrow
  obtain ⟨row', hrow', hm⟩ := h.effect.operation_moves h.before hrow
  exact ⟨row', hrow', hm.onward hrow⟩

lemma forward_commits (h : Relation.ReflTransGen (Commit c call) m m') : Forward m m' := by
  induction h with
  | refl => exact .refl m
  | tail _ hc ih => exact ih.trans (forward_commit hc)

section Run

variable {w₀ : World} {σ : ℕ → Step}

lemma forward_run (h0 : w₀.Rests) (hσ : Services σ) (n k : ℕ) :
    Forward (run Step.next w₀ σ n).mem (run Step.next w₀ σ (n + k)).mem := by
  induction k with
  | zero => exact .refl _
  | succ k ih =>
    refine ih.trans ?_
    rw [(run_rests h0 hσ (n + k)).mem, (run_rests h0 hσ (n + (k + 1))).mem]
    exact (run_commits h0 hσ (n + k)).rel .refl (fun _ _ _ => .trans)
      fun m m' hc => forward_commit hc

/-- One of the commits from `m₀` to `m₁` acknowledges the operation: the call is an acknowledgement,
by a principal with the credential that the operation has delivered by then. -/
def Acknowledges (c : Ctx) (call : Vauxr.Call) (m₀ m₁ : Snapshot) (id : String) (row : Row) :
    Prop :=
  ∃ m m' p saved old new, Within c call m₀ m₁ m m' ∧ call.isLifecycle c m (.ack id saved) p ∧
    p.credentialId = row.credentialId ∧
    m.operations.get? id = some old ∧ old.state = .delivered ∧
    m'.operations.get? id = some new ∧ new.state = .acknowledged

lemma acknowledged_commits {h h' : List Snapshot}
    (hch : Chained Snapshot.empty (Commit c call) h h')
    (hrow : (latest h').operations.get? id = some row') (hs : row'.state = .acknowledged) :
    (∃ row, (latest h).operations.get? id = some row ∧ row.state = .acknowledged) ∨
      Acknowledges c call (latest h) (latest h') id row' := by
  induction hch generalizing row' with
  | refl => exact Or.inl ⟨row', hrow, hs⟩
  | @step h' m' hch hc ih =>
    rcases hc.effect.operation hc.before hrow with ⟨old, hold, hm⟩ | ⟨-, hnew⟩
    · rcases hm.acknowledged hs with ho | ⟨p, saved, hcall, hp, hd⟩
      · rcases ih hold ho with h | ⟨m, m₁, p, saved, before, new, hw, hcall, hp, hrest⟩
        · exact Or.inl h
        · have hfix := (hm.onward hold).fixed (by rw [ho]; simp [Phase.level])
          exact Or.inr ⟨m, m₁, p, saved, before, new, hw.extend hc, hcall,
            hp.trans hfix.1.symm, hrest⟩
      · exact Or.inr ⟨_, m', p, saved, old, row', ⟨commits_path hch, hc, .refl⟩, hcall, hp, hold,
          hd, hrow, hs⟩
    · exact absurd hs hnew.not_acknowledged

end Run

end Lifecycle

/-- **Operations only move on**: in every run of the services an operation that is once admitted
stays on record with its terms, never falls back to an earlier level, keeps its credential and its
deadline from the level of a delivered rotation on, and stays as it is once it has ended. Where one
is acknowledged, a commit of the step does it, for a principal that holds the credential it
delivered. -/
theorem operations_onward (σ : ServiceRun) (n k : ℕ) :
    Lifecycle.Forward (worldAt σ.1 n).mem (worldAt σ.1 (n + k)).mem ∧
      ∀ id row', (worldAt σ.1 (n + 1)).mem.operations.get? id = some row' →
        row'.state = .acknowledged →
          (∃ row, (worldAt σ.1 n).mem.operations.get? id = some row ∧
            row.state = .acknowledged) ∨
          Lifecycle.Acknowledges (σ.1 n).ctx (σ.1 n).call (worldAt σ.1 n).mem
            (worldAt σ.1 (n + 1)).mem id row' := by
  refine ⟨Lifecycle.forward_run (World.rests_initial []) σ.2 n k, fun id row' hrow hs => ?_⟩
  rw [worldAt_mem σ.2] at hrow ⊢
  rw [worldAt_mem σ.2 (n + 1)]
  exact Lifecycle.acknowledged_commits (worldAt_commits σ.2 n) hrow hs

end Vauxr
