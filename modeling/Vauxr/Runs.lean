import Vauxr.Effect

/-!
Runs of the services. Throughout a run memory holds the latest committed snapshot, and every
commit is a listed change between valid snapshots; invariants of runs are invariants of changes.
-/

namespace Vauxr

open Lib

lemma Stored.committed {clean : Bool} {w : World} {h : List Snapshot} (hw : Stored clean w h) :
    w.committed = h := by
  have hf : ∀ (files : List Json) (h : List Snapshot),
      files.map (fun j => Codec.load (some j)) = h.map .ok →
        files.filterMap (fun j => (Codec.load (some j)).toOption) = h := by
    intro files
    induction files with
    | nil =>
      intro h hh
      cases h with
      | nil => rfl
      | cons s h => cases hh
    | cons j files ih =>
      intro h hh
      cases h with
      | nil => cases hh
      | cons s h =>
        obtain ⟨h1, h2⟩ := List.cons.inj hh
        have h1 : Codec.load (some j) = .ok s := h1
        rw [List.filterMap_cons, h1, ih h h2]
        rfl
  exact hf _ _ hw.files

/-- Between two calls: memory holds what the file holds. -/
abbrev World.Rests (w : World) : Prop := Holds false false w w.committed

lemma World.rests_initial (faults : List Fault) : (World.initial faults).Rests :=
  ⟨⟨rfl, fun h => (nomatch h), fun _ h => (nomatch h)⟩, rfl, rfl⟩

lemma World.Rests.faults {w : World} (hw : w.Rests) (faults : List Fault) :
    ({ w with faults } : World).Rests :=
  ⟨⟨hw.files, fun h => (nomatch h), hw.registry⟩, hw.active, hw.mem⟩

/-- **One step of the services**: the world rests again, after listed changes only. -/
theorem Step.next_spec {w : World} (hw : w.Rests) {s : Step} (hs : s.call.service = true) :
    (s.next w).Rests ∧ Extends s.ctx s.call w.committed (s.next w).committed := by
  obtain ⟨h', hh, he⟩ := System.exec_spec (c := s.ctx) hs (hw.faults s.faults)
  obtain rfl : (s.next w).committed = h' := hh.toStored.committed
  exact ⟨hh, he⟩

/-- The run calls the services only. -/
def Services (σ : ℕ → Step) : Prop := ∀ n, (σ n).call.service = true

/-- A run that calls the services only. -/
abbrev ServiceRun := {σ : ℕ → Step // Services σ}

section Run

variable {w₀ : World} {σ : ℕ → Step}

lemma run_rests (h0 : w₀.Rests) (hσ : Services σ) (n : ℕ) : (run Step.next w₀ σ n).Rests :=
  run_invariant (I := fun _ => World.Rests) h0 (fun n _ hw => (Step.next_spec hw (hσ n)).1) n

lemma run_extends (h0 : w₀.Rests) (hσ : Services σ) (n : ℕ) :
    Extends (σ n).ctx (σ n).call (run Step.next w₀ σ n).committed
      (run Step.next w₀ σ (n + 1)).committed :=
  (Step.next_spec (run_rests h0 hσ n) (hσ n)).2

end Run

/-! ### Changes between valid snapshots -/

/-- A change from a valid snapshot to a valid one. -/
structure Commit (c : Ctx) (call : Call) (m m' : Snapshot) : Prop where
  change : Change c call m m'
  before : m.Valid
  after : m'.Valid

lemma Commit.effect {c : Ctx} {call : Call} {m m' : Snapshot} (h : Commit c call m m') :
    Effect c call m m' := h.change.effect

lemma valid_latest {h : List Snapshot} (hv : ∀ s ∈ h, s.Valid) : (latest h).Valid := by
  cases h with
  | nil => exact Snapshot.valid_empty
  | cons s h => exact hv s List.mem_cons_self

/-- The commits of one call. -/
lemma Extends.commits {c : Ctx} {call : Call} {h h' : List Snapshot} (he : Extends c call h h')
    (hv : ∀ s ∈ h', s.Valid) : Chained Snapshot.empty (Commit c call) h h' := by
  induction he with
  | refl => exact .refl
  | step _ hs ih =>
    have hv' := fun s hs => hv s (List.mem_cons_of_mem _ hs)
    exact .step (ih hv') ⟨hs, valid_latest hv', hv _ List.mem_cons_self⟩

/-- What the commits of one call start from and come to. -/
lemma commits_path {c : Ctx} {call : Call} {h h' : List Snapshot}
    (hc : Chained Snapshot.empty (Commit c call) h h') :
    Relation.ReflTransGen (Commit c call) (latest h) (latest h') :=
  hc.rel (fun _ => .refl) (fun _ _ _ => .trans) fun _ _ => .single

/-- One of the commits of a call that leads from `m₀` to `m₁`. -/
structure Within (c : Ctx) (call : Call) (m₀ m₁ m m' : Snapshot) : Prop where
  before : Relation.ReflTransGen (Commit c call) m₀ m
  commit : Commit c call m m'
  after : Relation.ReflTransGen (Commit c call) m' m₁

lemma Within.extend {c : Ctx} {call : Call} {m₀ m₁ m₂ m m' : Snapshot}
    (h : Within c call m₀ m₁ m m') (hc : Commit c call m₁ m₂) :
    Within c call m₀ m₂ m m' :=
  ⟨h.before, h.commit, h.after.tail hc⟩

/-- What changes between valid snapshots preserve. -/
def Stable (I : Snapshot → Prop) : Prop :=
  ∀ ⦃c call m m'⦄, Commit c call m m' → I m → I m'

section Run

variable {w₀ : World} {σ : ℕ → Step}

lemma run_commits (h0 : w₀.Rests) (hσ : Services σ) (n : ℕ) :
    Chained Snapshot.empty (Commit (σ n).ctx (σ n).call) (run Step.next w₀ σ n).committed
      (run Step.next w₀ σ (n + 1)).committed :=
  (run_extends h0 hσ n).commits fun _ hs => (run_rests h0 hσ (n + 1)).toStored.valid hs

/-- **Invariants of runs**: what every change preserves holds of all that is ever committed. -/
theorem run_stable {I : Snapshot → Prop} (hI : Stable I) (h0 : w₀.Rests) (hσ : Services σ)
    (hm : I (latest w₀.committed)) (hc : ∀ s ∈ w₀.committed, I s) (n : ℕ) :
    I (latest (run Step.next w₀ σ n).committed) ∧
      ∀ s ∈ (run Step.next w₀ σ n).committed, I s := by
  induction n with
  | zero => exact ⟨hm, hc⟩
  | succ n ih =>
    have hR : ∀ s s', I s → Commit (σ n).ctx (σ n).call s s' → I s' := fun s s' hs h => hI h hs
    have hch := run_commits h0 hσ n
    exact ⟨hch.invariant hR ih.1, hch.forall_mem hR ih.1 ih.2⟩

end Run

/-! ### Runs from an empty store -/

section Run

variable {σ : ℕ → Step}

lemma worldAt_rests (hσ : Services σ) (n : ℕ) : (worldAt σ n).Rests :=
  run_rests (World.rests_initial []) hσ n

lemma worldAt_mem (hσ : Services σ) (n : ℕ) :
    (worldAt σ n).mem = latest (worldAt σ n).committed := (worldAt_rests hσ n).mem

lemma worldAt_commits (hσ : Services σ) (n : ℕ) :
    Chained Snapshot.empty (Commit (σ n).ctx (σ n).call) (worldAt σ n).committed
      (worldAt σ (n + 1)).committed := run_commits (World.rests_initial []) hσ n

lemma worldAt_valid (hσ : Services σ) (n : ℕ) : (worldAt σ n).mem.Valid := by
  rw [worldAt_mem hσ]
  exact (worldAt_rests hσ n).toStored.valid_latest

lemma worldAt_stable {I : Snapshot → Prop} (hI : Stable I) (hm : I Snapshot.empty)
    (hσ : Services σ) (n : ℕ) :
    I (worldAt σ n).mem ∧ ∀ s ∈ (worldAt σ n).committed, I s := by
  rw [worldAt_mem hσ]
  exact run_stable hI (World.rests_initial []) hσ hm (fun _ hs => nomatch hs) n

end Run

end Vauxr
