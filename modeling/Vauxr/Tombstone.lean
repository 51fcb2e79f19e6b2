import Vauxr.Runs

/-!
Tombstones are permanent. The runs here make every call there is, those that reach below the
services included: what `replace` writes and what `stage` leaves in memory keeps all tombstones,
and a blocked verifier is no authority, whatever becomes of the records that carry it.
-/

namespace Vauxr

open Lib

/-! ### A service starts from the file -/

/-- `x` reads the file before it looks at memory, or leaves the world as it is. -/
def FromFile {α : Type} (x : StoreM α) (w : World) (h : List Snapshot) : Prop :=
  outcome x w = outcome x { w with mem := latest h } ∨ (outcome x w).2 = w

namespace FromFile

variable {α κ : Type} {c : Ctx} {clean : Bool} {w : World} {h : List Snapshot}

lemma transaction (x : StoreM α) (hw : Idle clean w h) : FromFile (Store.transaction x) w h := by
  refine Or.inl ?_
  rw [Store.outcome_transaction x hw.toStored hw.active,
    Store.outcome_transaction x (w := { w with mem := latest h })
      ⟨hw.files, hw.faults, hw.registry⟩ hw.active]

/-- A request is parsed first. -/
lemma parsed (k : Except Error κ) (x : κ → StoreM α) (hw : Idle clean w h) :
    FromFile (Store.ofExcept k >>= fun k => Store.transaction (x k)) w h := by
  unfold FromFile
  rw [Store.ofExcept_bind, Store.ofExcept_bind]
  cases k with
  | error e => exact Or.inr rfl
  | ok k => exact transaction (x k) hw

lemma map {x : StoreM α} (hx : FromFile x w h) (f : α → Reply) :
    FromFile (x >>= fun a => pure (f a)) w h := by
  unfold FromFile
  rw [System.outcome_bind_pure, System.outcome_bind_pure]
  rcases hx with hx | hx
  · rw [hx]
    exact Or.inl rfl
  · exact Or.inr hx

lemma load (hw : Idle clean w h) : FromFile Store.load w h := by
  refine Or.inl ?_
  rw [Store.outcome_load hw.toStored, Store.outcome_load (w := { w with mem := latest h })
    ⟨hw.files, hw.faults, hw.registry⟩]

lemma start (hw : Idle clean w h) : FromFile (System.start c) w h := by
  have hl : ∀ mem : Snapshot,
      outcome (System.start c) { w with mem } = outcome (tryCatch (System.startHooks c) fun e => do
        Store.load
        throw e)
          { w with registry := { w.registry with loaded := none }, mem := latest h } := by
    intro mem
    have hst : Stored clean
        { w with registry := { w.registry with loaded := none }, mem } h :=
      ⟨hw.files, hw.faults, hw.registry⟩
    unfold System.start
    rw [outcome_bind, outcome_modify]
    dsimp only
    rw [outcome_bind, Store.outcome_load hst]
  exact Or.inl ((hl w.mem).trans (hl (latest h)).symm)

/-- What memory holds between transactions does not matter to a service. -/
lemma exec {call : Call} (hcall : call.service = true) (hw : Idle clean w h) :
    FromFile (System.exec c call) w h := by
  cases call with
  | replace | stage => cases hcall
  | console recover => exact (transaction _ hw).map Reply.code
  | claim code => exact (transaction _ hw).map Reply.claimed
  | login token => exact (transaction _ hw).map fun a : String × Owner.Session => Reply.login a.1 a.2
  | session cookie => exact (transaction _ hw).map Reply.session
  | ownerRate | acknowledge | logout | ownerInit | enrollmentRate | lifecycleSweep
  | integrationSweep => exact (transaction _ hw).map fun _ => Reply.unit
  | enrollment action body resolve => exact (parsed _ _ hw).map Reply.enrollment
  | lifecycle action body resolve => exact (parsed _ _ hw).map Reply.lifecycle
  | integration action body resolve => exact (parsed _ _ hw).map Reply.integration
  | start => exact (start hw).map fun _ => Reply.unit
  | reload => exact (load hw).map fun _ => Reply.unit

end FromFile

/-! ### All calls -/

/-- Between two calls of any kind: what has been staged in memory is not written, but memory
never lacks a tombstone of the file. -/
structure World.Loose (w : World) : Prop extends Stored false w w.committed where
  active : w.active = false
  blocked : (latest w.committed).blocked ⊆ w.mem.blocked

lemma World.Rests.loose {w : World} (hw : w.Rests) : w.Loose :=
  ⟨hw.toStored, hw.active, by rw [hw.mem]; exact fun _ hv => hv⟩

lemma World.Loose.withFaults {w : World} (hw : w.Loose) (faults : List Fault) :
    ({ w with faults } : World).Loose :=
  ⟨⟨hw.files, fun h => (nomatch h), hw.registry⟩, hw.active, hw.blocked⟩

/-- Later snapshots have the tombstones of the earlier ones. -/
abbrev Grows (h h' : List Snapshot) : Prop :=
  Chained Snapshot.empty (fun m m' => m.blocked ⊆ m'.blocked) h h'

lemma Extends.grows {c : Ctx} {call : Call} {h h' : List Snapshot} (he : Extends c call h h') :
    Grows h h' := he.mono fun _ _ hc => hc.effect.blocked_subset

namespace System

variable {c : Ctx} {w : World}

lemma exec_grows {call : Call} (hcall : call.service = true) (hw : w.Loose) :
    (outcome (exec c call) w).2.Loose ∧
      Grows w.committed (outcome (exec c call) w).2.committed := by
  rcases FromFile.exec hcall (c := c) ⟨hw.toStored, hw.active⟩ with he | he
  · have hr : ({ w with mem := latest w.committed } : World).Rests :=
      ⟨⟨hw.files, hw.toStored.faults, hw.registry⟩, hw.active, rfl⟩
    obtain ⟨h', hh, hx⟩ := exec_spec (c := c) hcall hr
    rw [he]
    obtain rfl := hh.toStored.committed
    exact ⟨World.Rests.loose hh, hx.grows⟩
  · rw [he]
    exact ⟨hw, .refl⟩

/-- `replace` writes what memory holds, with all its tombstones. -/
lemma replace_grows (records : List Credential) (hw : w.Loose) :
    (outcome (exec c (.replace records)) w).2.Loose ∧
      Grows w.committed (outcome (exec c (.replace records)) w).2.committed := by
  have hr := Store.replace_spec c records hw.toStored
  simp only [exec, outcome_bind_pure]
  generalize (outcome (Store.replace c records) w).1 = r at hr
  generalize (outcome (Store.replace c records) w).2 = w' at hr
  cases hr with
  | refused e hc => exact ⟨hw, .refl⟩
  | failed e _ hc hcl he ha hst hmem =>
    have hcom := hst.committed
    refine ⟨⟨hcom.symm ▸ hst, ha.trans hw.active, ?_⟩, ?_⟩
    · rw [hcom, hmem]
      exact fun _ hv => hv
    · rw [hcom]
      exact .refl
  | committed _ _ hc he ha hst hmem =>
    have hcom := hst.committed
    refine ⟨⟨hcom ▸ hst, ha.trans hw.active, ?_⟩, ?_⟩
    · rw [hcom, hmem]
      exact fun _ hv => hv
    · rw [hcom]
      exact .single hw.blocked

/-- What `stage` leaves in memory has the tombstones that were there. -/
lemma stage_blocked {m m' : Snapshot} {row : Enrollment.Row} {credential : Credential}
    {records : Except Error (List Credential)}
    (h : Lifecycle.replaceEnrollmentCredential m row credential = .ok (m', records)) :
    m.blocked ⊆ m'.blocked := by
  simp only [Lifecycle.replaceEnrollmentCredential, bind_eq_ok] at h
  obtain ⟨bound, hbound, h⟩ := h
  have hb : bound.blocked = m.blocked := by
    obtain ⟨rfl, -⟩ := Lifecycle.bindEnrollment_eq_ok hbound
    exact Lifecycle.stateOf_blocked m
  intro v hv
  rw [← hb] at hv
  split at h
  · cases h
    exact hv
  · next state retired hret =>
    cases h
    obtain ⟨-, rfl, -⟩ := Lifecycle.retire_eq_ok.mp hret
    exact Lifecycle.mem_blockedWith.mpr (Or.inl hv)

lemma outcome_stage (row : Enrollment.Row) (credential : Credential) (w : World) :
    (outcome (stage row credential) w).2 =
      match Lifecycle.replaceEnrollmentCredential w.mem row credential with
      | .ok (m, _) => { w with mem := m }
      | .error _ => w := by
  unfold stage
  rw [outcome_bind, Store.outcome_mem]
  dsimp only
  rw [Store.ofExcept_bind]
  rcases Lifecycle.replaceEnrollmentCredential w.mem row credential with e | ⟨m, records⟩
  · rfl
  · dsimp only
    rw [outcome_bind, Store.outcome_setMem]
    dsimp only
    rw [Store.outcome_ofExcept]

lemma stage_grows (row : Enrollment.Row) (credential : Credential) (hw : w.Loose) :
    (outcome (exec c (.stage row credential)) w).2.Loose ∧
      Grows w.committed (outcome (exec c (.stage row credential)) w).2.committed := by
  simp only [exec, outcome_bind_pure, outcome_stage]
  cases hm : Lifecycle.replaceEnrollmentCredential w.mem row credential with
  | error e => exact ⟨hw, .refl⟩
  | ok x =>
    exact ⟨⟨⟨hw.files, hw.toStored.faults, hw.registry⟩, hw.active,
      fun _ hv => stage_blocked hm (hw.blocked hv)⟩, .refl⟩

end System

/-- **One step**, of any kind: no tombstone is lost. -/
theorem Step.next_grows {w : World} (hw : w.Loose) (s : Step) :
    (s.next w).Loose ∧ Grows w.committed (s.next w).committed := by
  have hw' := hw.withFaults s.faults
  cases hcall : s.call with
  | replace records =>
    have h := System.replace_grows (c := s.ctx) records hw'
    rw [← hcall] at h
    exact h
  | stage row credential =>
    have h := System.stage_grows (c := s.ctx) row credential hw'
    rw [← hcall] at h
    exact h
  | _ => exact System.exec_grows (by rw [hcall]; rfl) hw'

section Run

variable {w₀ : World}

lemma run_loose (h0 : w₀.Loose) (σ : ℕ → Step) (n : ℕ) : (run Step.next w₀ σ n).Loose :=
  run_invariant (I := fun _ => World.Loose) h0 (fun n _ hw => (Step.next_grows hw (σ n)).1) n

lemma run_grows (h0 : w₀.Loose) (σ : ℕ → Step) (n : ℕ) :
    Grows (run Step.next w₀ σ n).committed (run Step.next w₀ σ (n + 1)).committed :=
  (Step.next_grows (run_loose h0 σ n) (σ n)).2

end Run

/-- A world before the first call: no file is there, or one that loads. -/
abbrev StartingWorld := {w : World // w.Rests ∧ w.files.length ≤ 1}

lemma StartingWorld.committed_length (w : StartingWorld) : w.1.committed.length ≤ 1 :=
  (List.length_filterMap_le _ _).trans w.2.2

/-! ### Authority -/

/-- No digest of a verifier is that of another one. -/
def Ctx.CollisionFree (c : Ctx) : Prop :=
  ∀ v v', hexString v 64 = true → hexString v' 64 = true →
    c.credentialGeneration v = c.credentialGeneration v' → v = v'

/-- The verifier carries no authority: no bearer token authenticates as a record with it, and
no principal of such a record is current. -/
structure Refused (m : Snapshot) (v : String) : Prop where
  token : ∀ (c : Ctx) (token : String), c.verifier token = v →
    c.authenticate m (.str token) = none
  carrier : ∀ (c : Ctx) (token : Json) (p : Principal), c.authenticate m token = some p →
    ∃ r ∈ m.records, r.verifier ≠ v ∧ p = c.principalOf r
  current : ∀ (c : Ctx) (r : Credential), c.CollisionFree → r.verifier = v →
    c.current m (c.principalOf r) = false

lemma Snapshot.usable_not_blocked {m : Snapshot} {r : Credential} {now : ℚ}
    (h : m.usable now r = true) : r.verifier ∉ m.blocked := by
  simp only [usable, Bool.and_eq_true, Bool.not_eq_true', decide_eq_false_iff_not] at h
  exact h.1.1.2

lemma Ctx.authenticate_eq_some {c : Ctx} {m : Snapshot} {token : Json} {p : Principal}
    (h : c.authenticate m token = some p) :
    ∃ r ∈ m.records, ∃ t, token = .str t ∧ c.verifier t = r.verifier ∧
      m.usable c.now r = true ∧ p = c.principalOf r := by
  unfold authenticate at h
  cases token with
  | str t =>
    simp only [Json.str?] at h
    split at h
    · cases h
    · obtain ⟨r, hr, rfl⟩ := Option.map_eq_some_iff.mp h
      have hp := List.find?_some hr
      simp only [Bool.and_eq_true, beq_iff_eq] at hp
      exact ⟨r, List.mem_of_find?_eq_some hr, t, rfl, hp.1, hp.2, rfl⟩
  | _ => cases h

lemma refused_of_blocked {m : Snapshot} {v : String} (h : v ∈ m.blocked) : Refused m v where
  token := by
    intro c token hv
    rw [Option.eq_none_iff_forall_ne_some]
    intro p hp
    obtain ⟨r, hr, t, ht, hver, hu, -⟩ := Ctx.authenticate_eq_some hp
    cases ht
    exact Snapshot.usable_not_blocked hu (by rwa [← hver, hv])
  carrier := by
    intro c token p hp
    obtain ⟨r, hr, t, -, -, hu, rfl⟩ := Ctx.authenticate_eq_some hp
    exact ⟨r, hr, fun he => Snapshot.usable_not_blocked hu (he ▸ h), rfl⟩
  current := by
    intro c r hc hv
    simp only [Ctx.current, List.any_eq_false, Bool.and_eq_true, beq_iff_eq, decide_eq_true_eq,
      not_and]
    intro r' hr' hh hu
    have he : r'.verifier = r.verifier :=
      hc _ _ r'.verifier_hex r.verifier_hex hh.2
    exact Snapshot.usable_not_blocked hu (by rwa [he, hv])

/-- **Tombstones are permanent**: in every run from an empty store or from a file that loads, of
calls of any kind, with faults and reloads at any point, histories only grow, a verifier that a
snapshot blocks is blocked in all later ones, and neither they nor what memory holds by then give
it any authority. -/
theorem tombstone_permanence (w₀ : StartingWorld) (σ : ℕ → Step) (n : ℕ) :
    let w := run Step.next w₀.1 σ
    (∃ later, (w (n + 1)).committed = later ++ (w n).committed) ∧
      (w n).committed.Pairwise (fun later earlier =>
        ∀ v ∈ earlier.blocked, v ∈ later.blocked ∧ Refused later v) ∧
      ∀ s ∈ (w n).committed, ∀ v ∈ s.blocked, Refused (w n).mem v := by
  intro w
  have hl := run_loose w₀.2.1.loose σ
  have hg := run_grows w₀.2.1.loose σ
  have hp : ∀ n, (w n).committed.Pairwise fun later earlier =>
      earlier.blocked ⊆ later.blocked := by
    intro n
    induction n with
    | zero =>
      have hlen : (w 0).committed.length ≤ 1 := w₀.committed_length
      match hc : (w 0).committed with
      | [] => exact List.Pairwise.nil
      | [s] => exact List.pairwise_singleton _ s
      | _ :: _ :: _ => simp [hc] at hlen
    | succ n ih => exact (hg n).pairwise (fun _ _ _ h h' _ hv => h' (h hv)) ih
  refine ⟨(hg n).suffix, (hp n).imp fun hsub v hv => ⟨hsub hv, refused_of_blocked (hsub hv)⟩,
    fun s hs v hv => refused_of_blocked ((hl n).blocked ?_)⟩
  have hp' := hp n
  change v ∈ (latest (w n).committed).blocked
  cases hc : (w n).committed with
  | nil =>
    rw [hc] at hs
    cases hs
  | cons s' h =>
    rw [hc] at hs hp'
    rcases List.mem_cons.mp hs with rfl | hs'
    · exact hv
    · exact (List.pairwise_cons.mp hp').1 s hs' hv

end Vauxr
