import Vauxr.Headroom
import Vauxr.Issuance
import Vauxr.OneLive
import Vauxr.Tombstone

/-!
Revoking a device. When the owner's revoke returns, no credential of the device is left in use, and
none comes back, whatever was in flight: until an enrollment that was asked for after the revoke is
approved and redeemed again.
-/

namespace Vauxr

open Lib

namespace Lifecycle

variable {c : Ctx} {m : Snapshot} {role : Role} {subject : String} {r : Credential}

lemma mem_records : r ∈ records m role subject ↔
    r ∈ m.records ∧ r.role = role ∧ r.subject = subject := by
  simp [records]

/-- A rotation is admitted for a credential in use. -/
lemma usable_of_admission (h : admission c m .rotate role subject = .ok ()) :
    ∃ r ∈ records m role subject, m.usable c.now r = true := by
  simp only [admission, bind_eq_ok, refuse_eq_ok, exists_const] at h
  have hconflict := h.2.2.1
  simp only [decide_true, Bool.true_and, Bool.or_eq_false_iff, Bool.not_eq_false',
    List.any_eq_true] at hconflict
  exact hconflict.2

end Lifecycle

/-! ### A device that is shut out -/

/-- No credential of the device has authority, and no rotation is under way that could give it a
new one. -/
structure Shut (m : Snapshot) (subject : String) : Prop where
  device : ∃ r ∈ m.records, r.role = .device ∧ r.subject = subject
  records : ∀ r ∈ m.records, r.subject = subject → r.verifier ∈ m.blocked
  rotations : ∀ id op, m.operations.get? id = some op → op.subject = subject →
    op.action = .rotate → op.state.terminal = true

namespace Shut

variable {c : Ctx} {call : Call} {m m' : Snapshot} {subject : String}

/-- Nobody authenticates as the device. -/
lemma refused (h : Shut m subject) {token : Json} {p : Principal}
    (hp : c.authenticate m token = some p) : p.subject ≠ subject := by
  obtain ⟨r, hr, t, -, -, hu, rfl⟩ := Ctx.authenticate_eq_some hp
  intro hs
  exact Snapshot.usable_not_blocked hu (h.records r hr hs)

/-- Only a redeem of the device gives it a credential again. -/
lemma records_commit (h : Commit c call m m') (hs : Shut m subject) {r' : Credential}
    (hr : r' ∈ m'.records) (hsub : r'.subject = subject) :
    r'.verifier ∈ m'.blocked ∨
      ∃ row credential, Redeems c call m m' row credential ∧ row.deviceId = subject := by
  rcases h.change.record hr with ⟨r, hold, -, -, hsame, hver⟩ | hissued
  · left
    rw [hver]
    exact h.effect.blocked_subset (hs.records r hold (hsame.symm.trans hsub))
  · cases hissued with
    | redeemed row hred => exact Or.inr ⟨row, r', hred, hred.subject.symm.trans hsub⟩
    | rotated id op hrot =>
      have hlive := hs.rotations id op hrot.get (hrot.subject.symm.trans hsub) hrot.pending.1
      rw [hrot.pending.2] at hlive
      cases hlive
    | handed row hand =>
      -- a subject has one role, and the device is still on record
      obtain ⟨r, hold, hrole, hsubject⟩ := hs.device
      obtain ⟨r₁, hr₁, -, h1, h2, -⟩ := h.effect.kept r hold
      have hroles := h.after.role_of_subject hr hr₁ (hsub.trans (h2.trans hsubject).symm)
      rw [hand.role, h1, hrole] at hroles
      cases hroles

lemma rotations_commit (h : Commit c call m m') (hs : Shut m subject) {id : String}
    {op : Lifecycle.Row} (hop : m'.operations.get? id = some op) (hsub : op.subject = subject)
    (ha : op.action = .rotate) : op.state.terminal = true := by
  rcases h.effect.operation h.before hop with ⟨old, hold, hmove⟩ | ⟨-, hnew⟩
  · have hsame := hmove.sameOperation
    have hended := hs.rotations id old hold (hsame.subject.symm.trans hsub)
      (hsame.action.symm.trans ha)
    rw [hmove.eq_of_terminal hended]
    exact hended
  · cases hnew with
    | rotate _ hadm =>
      -- a rotation is admitted for a credential in use only
      obtain ⟨r, hr, hu⟩ := Lifecycle.usable_of_admission hadm
      obtain ⟨hr, -, hrs⟩ := Lifecycle.mem_records.mp hr
      exact absurd (hs.records r hr (hrs.trans hsub)) (Snapshot.usable_not_blocked hu)
    | revoke => rfl
    | recover row _ hrow =>
      have hact : row.action = .recover := (Lifecycle.newOperation_eq_ok hrow).action
      rw [show row.action = .rotate from ha] at hact
      cases hact

/-- **One commit** leaves the device shut out, or redeems an enrollment of it. -/
theorem commit (h : Commit c call m m') (hs : Shut m subject) :
    Shut m' subject ∨
      ∃ row credential, Redeems c call m m' row credential ∧ row.deviceId = subject := by
  by_cases hred : ∃ row credential, Redeems c call m m' row credential ∧ row.deviceId = subject
  · exact Or.inr hred
  · refine Or.inl ⟨?_, fun r hr hsub => ?_, fun id op hop => hs.rotations_commit h hop⟩
    · obtain ⟨r, hr, hrole, hsub⟩ := hs.device
      obtain ⟨r', hr', -, h1, h2, -⟩ := h.effect.kept r hr
      exact ⟨r', hr', h1.trans hrole, h2.trans hsub⟩
    · exact (hs.records_commit h hr hsub).resolve_right hred

end Shut

/-! ### The revoke -/

/-- What the revoke of a device leaves: its enrollments have ended as well. -/
structure Cut (m : Snapshot) (subject : String) : Prop extends Shut m subject where
  requests : ∀ id row, m.requests.get? id = some row → row.deviceId = subject →
    row.state.terminal = true

namespace Lifecycle

variable {c : Ctx} {m : Snapshot} {subject id : String} {row : Row}

lemma terminal_abandoned {ids : List String} {req : Enrollment.Row}
    (h : (Enrollment.abandoned subject (Enrollment.unapproved ids req)).deviceId = subject) :
    (Enrollment.abandoned subject (Enrollment.unapproved ids req)).state.terminal = true := by
  unfold Enrollment.abandoned at h ⊢
  split
  · rfl
  · next hopen =>
    rw [if_neg hopen] at h
    simpa [h] using hopen

lemma revoked_cut (hm : m.Valid) (hadm : admission c m .revoke row.role row.subject = .ok ())
    (hrole : row.role = .device)
    (hold : row.oldIds = (records m row.role row.subject).map (·.id)) :
    Cut (revoked m id row) row.subject where
  device := by
    simp only [admission, bind_eq_ok, refuse_eq_ok, exists_const] at hadm
    obtain ⟨r, hr⟩ := List.exists_mem_of_ne_nil _ (List.isEmpty_eq_false_iff.mp hadm.1)
    obtain ⟨hr, hd, hs⟩ := mem_records.mp hr
    obtain ⟨r', hr', -, h1, h2, -⟩ := kept_disable row.oldIds m.records r hr
    exact ⟨r', hr', (h1.trans hd).trans hrole, h2.trans hs⟩
  records r' hr' hs := by
    obtain ⟨r, hr, -, -, hsub, hver, -⟩ := disable_origin hr'
    rw [← hver]
    simp only [admission, bind_eq_ok, refuse_eq_ok, exists_const] at hadm
    obtain ⟨d, hd⟩ := List.exists_mem_of_ne_nil _ (List.isEmpty_eq_false_iff.mp hadm.1)
    obtain ⟨hd, hdr, hds⟩ := mem_records.mp hd
    have hrs : r.subject = row.subject := hsub.trans hs
    have hrr : r.role = row.role := (hm.role_of_subject hr hd (hrs.trans hds.symm)).trans hdr
    refine ((revoked_blocked m id row).mem _).mpr (Or.inr ⟨r, hr, ?_, rfl⟩)
    rw [hold]
    exact List.mem_map_of_mem (mem_records.mpr ⟨hr, hrr, hrs⟩)
  rotations id' op hop hs _ := by
    rw [revoked_operations, Dict.get?_set] at hop
    split at hop
    · cases hop
      rfl
    · rw [get?_endActive, Option.map_eq_some_iff] at hop
      obtain ⟨old, -, rfl⟩ := hop
      split
      · rfl
      · next ha =>
        rw [if_neg ha] at hs
        rw [← Bool.not_eq_false]
        exact fun ht => ha (isActive_iff.mpr ⟨hs, ht⟩)
  requests id' req hreq hs := by
    have hget : (revoked m id row).requests.get? id' = _ :=
      Enrollment.requests_invalidateEnrollments row.oldIds row.subject rfl
    rw [hget, Option.map_eq_some_iff] at hreq
    obtain ⟨req₀, -, rfl⟩ := hreq
    exact terminal_abandoned hs

/-- What the body of a new revoke of a device returns with. -/
lemma revoke_saves (hm : m.Valid) {role field : Json} {resolve : Resolve} {f : Final Reply}
    (hrole : role.str? = some "device") (hfield : field.str? = some subject)
    (hnone : m.operations.get? id = none)
    (h : body c (.control .revoke id role field) resolve m = .ok f) :
    ∃ s w x, f = .save s w x ∧ Cut (w.next s) subject := by
  simp only [body, controlBody, bind_eq_ok, demand_eq_ok, hrole, hfield] at h
  obtain ⟨p, -, u, -, role', hr, subject', hs, h⟩ := h
  obtain rfl : subject = subject' := Option.some.inj hs
  obtain rfl : Role.device = role' := Option.some.inj hr
  rw [stateOf_operations, hnone] at h
  simp only [bind_eq_ok] at h
  obtain ⟨⟨⟩, hadm, row, hrow, h⟩ := h
  have hnew := newOperation_eq_ok hrow
  obtain rfl := hnew.subject
  rw [retire_valid hm row.oldIds (stateOf m) (stateOf_blocked m)] at h
  obtain ⟨⟨state, retired⟩, hret, h⟩ := h
  cases hret
  cases h
  have hold := hnew.oldIds
  rw [← hnew.role] at hadm hold
  exact ⟨_, _, _, rfl, revoked_cut hm hadm hnew.role hold⟩

end Lifecycle

/-- The step is the owner's revoke of the device, under a new identifier, and returns. -/
structure RevokesDevice (s : Step) (w : World) (subject : String) : Prop where
  call : ∃ action body resolve id role field, s.call = .lifecycle action body resolve ∧
    Lifecycle.parse action body = .ok (.control .revoke id role field) ∧
    role.str? = some "device" ∧ field.str? = some subject ∧ w.mem.operations.get? id = none
  returns : ∃ reply, s.result w = .ok reply

lemma Sweeps.operation_none {c : Ctx} {h h' : List Snapshot} {id : String} (hs : Sweeps c h h')
    (hnone : (latest h).operations.get? id = none) :
    (latest h').operations.get? id = none := by
  cases hs with
  | settled => exact hnone
  | swept blocked =>
    show ((latest h).operations.map fun _ => Lifecycle.sweptRow c (latest h)).get? id = none
    rw [Dict.get?_map, hnone]
    rfl

/-- **The revoke** leaves nothing of the device in use. -/
theorem RevokesDevice.cut {s : Step} {w : World} {subject : String} (hw : w.Rests)
    (h : RevokesDevice s w subject) : Cut (s.next w).mem subject := by
  obtain ⟨⟨action, body, resolve, id, role, field, hcall, hk, hrole, hfield, hnone⟩, reply, hr⟩ := h
  have hmem := hw.mem
  obtain ⟨h', hh, hs⟩ := Lifecycle.execute_spec s.ctx action body resolve (hw.faults s.faults)
  simp only [Step.result, Step.next, hcall, System.exec, System.outcome_bind_pure] at hr ⊢
  rw [hh.mem]
  rw [hmem] at hnone
  generalize (outcome (Lifecycle.execute s.ctx action body resolve)
    { w with faults := s.faults }).1 = r at hr hs
  cases r with
  | error e => cases hr
  | ok a =>
    have hvalid := hh.toStored.valid_latest
    cases hs with
    | served k h₁ _ _ hk' hp hran hx =>
      rw [hk] at hk'
      cases hk'
      have hv : (latest h₁).Valid := by
        obtain ⟨l, rfl⟩ := hx.suffix
        exact valid_latest fun s hs => hh.toStored.valid (List.mem_append_right l hs)
      have hsaves : ∀ f, Lifecycle.body s.ctx (.control .revoke id role field) resolve (latest h₁) =
          .ok f → ∃ s w x, f = .save s w x ∧ Cut (w.next s) subject := fun f hb =>
        Lifecycle.revoke_saves hv hrole hfield (hp.operation_none hnone) hb
      have hran : Performed false h₁ (Lifecycle.body s.ctx (.control .revoke id role field) resolve
        (latest h₁)) (.ok a) h' := hran
      generalize Lifecycle.body s.ctx (.control .revoke id role field) resolve (latest h₁) = b
        at hran hsaves
      cases hran with
      | reply =>
        obtain ⟨_, _, _, he, -⟩ := hsaves _ rfl
        cases he
      | committed s' w' x =>
        obtain ⟨_, _, _, he, hcut⟩ := hsaves _ rfl
        cases he
        exact hcut

/-! ### Runs after a revoke -/

/-- A commit of the call, which leads from `m₀` to `m₁`, redeems the request. -/
def Readmits (c : Ctx) (call : Call) (m₀ m₁ : Snapshot) (row : Enrollment.Row) : Prop :=
  ∃ m m' credential, Within c call m₀ m₁ m m' ∧ Redeems c call m m' row credential

lemma Shut.commits {c : Ctx} {call : Call} {subject : String} {h h' : List Snapshot}
    (hc : Chained Snapshot.empty (Commit c call) h h') (hs : Shut (latest h) subject) :
    Shut (latest h') subject ∨
      ∃ row, Readmits c call (latest h) (latest h') row ∧ row.deviceId = subject := by
  induction hc with
  | refl => exact Or.inl hs
  | step hc hstep ih =>
    rcases ih with ih | ⟨row, ⟨m, m', credential, hw, hred⟩, hsub⟩
    · rcases ih.commit hstep with h | ⟨row, credential, hred, hsub⟩
      · exact Or.inl h
      · exact Or.inr ⟨row, ⟨_, _, credential, ⟨commits_path hc, hstep, .refl⟩, hred⟩, hsub⟩
    · exact Or.inr ⟨row, ⟨m, m', credential, hw.extend hstep, hred⟩, hsub⟩

section Run

variable {w₀ : World} {σ : ℕ → Step}

/-- A request of the device that is redeemed has been asked for since the revoke. -/
lemma Cut.drawn (h0 : w₀.Rests) (hσ : Services σ) {a b : ℕ} (hab : a ≤ b) {row : Enrollment.Row}
    {m₁ : Snapshot} (hcut : Cut (run Step.next w₀ σ a).mem row.deviceId)
    (hred : Readmits (σ b).ctx (σ b).call (run Step.next w₀ σ b).mem m₁ row) :
    Enrollment.Drawn σ row.requestId a b := by
  by_contra hnot
  obtain ⟨m, m', credential, hw, hred⟩ := hred
  obtain ⟨row₁, hget₁, hl₁, hs₁⟩ :=
    Enrollment.descends_commits hw.before (hred.not_draws _) row hred.get
  obtain ⟨row₀, hget₀, hl₀, hs₀⟩ := Enrollment.descends_run h0 hσ hab hnot row₁ hget₁
  have hsame := hs₀.trans hs₁
  have hended := hcut.requests _ row₀ hget₀ hsame.deviceId.symm
  have hlive : row.state.terminal = false :=
    Enrollment.live_of_status (by rw [hred.approved]; rfl)
  rw [(hl₀.trans hl₁).ended hended, hended] at hlive
  cases hlive

/-- A device stays shut out until it is let in again. -/
lemma Shut.run (h0 : w₀.Rests) (hσ : Services σ) {a : ℕ} {subject : String}
    (hs : Shut (run Step.next w₀ σ a).mem subject) (k : ℕ) :
    Shut (run Step.next w₀ σ (a + k)).mem subject ∨
      ∃ j < k, ∃ row : Enrollment.Row, row.deviceId = subject ∧
        Readmits (σ (a + j)).ctx (σ (a + j)).call (run Step.next w₀ σ (a + j)).mem
          (run Step.next w₀ σ (a + j + 1)).mem row := by
  induction k with
  | zero => exact Or.inl hs
  | succ k ih =>
    rcases ih with hs | ⟨j, hj, hred⟩
    · have hmem := (run_rests h0 hσ (a + k)).mem
      have hmem' := (run_rests h0 hσ (a + k + 1)).mem
      rw [hmem] at hs
      rcases hs.commits (run_commits h0 hσ (a + k)) with hs | ⟨row, hred, hsub⟩
      · rw [← hmem'] at hs
        exact Or.inl hs
      · rw [← hmem, ← hmem'] at hred
        exact Or.inr ⟨k, by omega, row, hsub, hred⟩
    · exact Or.inr ⟨j, by omega, hred⟩

end Run

/-- A revoke of a device in a run: at which step, and of which device. -/
structure DeviceRevocation (w₀ : World) (σ : ℕ → Step) where
  step : ℕ
  subject : String
  revokes : RevokesDevice (σ step) (run Step.next w₀ σ step) subject

/-- **Revocation is complete**: from every file that loads, once a revoke of a device has returned,
nobody authenticates as the device in any later state, until a step redeems an enrollment of the
device that was asked for after the revoke. -/
theorem device_revocation (w₀ : RestingWorld) (σ : ServiceRun)
    (v : DeviceRevocation w₀.1 σ.1) (k : ℕ) :
    (∀ (c : Ctx) token p,
      c.authenticate (run Step.next w₀.1 σ.1 (v.step + 1 + k)).mem token = some p →
        p.subject ≠ v.subject) ∨
    ∃ j < k, ∃ row : Enrollment.Row, row.deviceId = v.subject ∧
      Readmits (σ.1 (v.step + 1 + j)).ctx (σ.1 (v.step + 1 + j)).call
        (run Step.next w₀.1 σ.1 (v.step + 1 + j)).mem
        (run Step.next w₀.1 σ.1 (v.step + 1 + j + 1)).mem row ∧
      Enrollment.Drawn σ.1 row.requestId (v.step + 1) (v.step + 1 + j) := by
  have hcut : Cut (run Step.next w₀.1 σ.1 (v.step + 1)).mem v.subject :=
    v.revokes.cut (run_rests w₀.2 σ.2 v.step)
  rcases hcut.toShut.run w₀.2 σ.2 k with hs | ⟨j, hj, row, hsub, hred⟩
  · exact Or.inl fun c token p hp => hs.refused hp
  · exact Or.inr ⟨j, hj, row, hsub, hred, (hsub ▸ hcut).drawn w₀.2 σ.2 (by omega) hred⟩

/-! ### A sample run -/

namespace Sample

def deviceToken : String := "vx_dev_" ++ (draws 0).token.1

lemma valid_deviceToken :
    validCredential "r" "dev_a" ((ctx 0 0).verifier deviceToken) = true := by
  decide +kernel

/-- An owner by the environment, and a device with its token. -/
def admitted : Snapshot where
  records := [⟨"r", .device, "dev_a", (ctx 0 0).verifier deviceToken, true, valid_deviceToken⟩]
  owner := exhausted.owner
  enrollment := none
  lifecycle := none
  integration := none

lemma admitted_valid : admitted.Valid where
  credentials := by decide +kernel
  principals := by decide +kernel
  owner := exhausted_valid.owner
  enrollment := rfl
  lifecycle := rfl
  integration := rfl
  bound := rfl
  capacity := by decide +kernel

def admittedWorld : RestingWorld := ⟨World.loaded admitted, World.rests_loaded admitted_valid⟩

/-- The owner revokes the device; then the server sweeps, and restarts. -/
def revoking : ℕ → Step
  | 0 => { lateRevoke with ctx := ctx 0 0 }
  | 1 => ⟨ctx 1 1, .lifecycleSweep, []⟩
  | n + 2 => ⟨ctx (n + 2) 2, .start, []⟩

lemma revoking_services : Services revoking
  | 0 | 1 | _ + 2 => rfl

lemma revoking_revokes : RevokesDevice (revoking 0) admittedWorld.1 "dev_a" := by
  refine ⟨⟨_, _, _, _, _, _, rfl, parse_lateRevoke, rfl, rfl, rfl⟩, ?_⟩
  have h : ((revoking 0).result admittedWorld.1).toOption.isSome := by decide +kernel
  cases hr : (revoking 0).result admittedWorld.1 with
  | error e =>
    rw [hr] at h
    cases h
  | ok reply => exact ⟨reply, rfl⟩

def revocation : DeviceRevocation admittedWorld.1 revoking := ⟨0, "dev_a", revoking_revokes⟩

end Sample

/-- The device is authenticated before the revoke, and nobody as the device behind the restart. -/
theorem device_revocation_sample :
    ((Sample.ctx 0 0).authenticate Sample.admitted (.str Sample.deviceToken)).isSome ∧
    ∀ (c : Ctx) token p,
      c.authenticate (run Step.next Sample.admittedWorld.1 Sample.revoking 3).mem token = some p →
        p.subject ≠ "dev_a" := by
  refine ⟨by decide +kernel, ?_⟩
  rcases device_revocation Sample.admittedWorld ⟨Sample.revoking, Sample.revoking_services⟩
    Sample.revocation 2 with h | ⟨j, hj, row, -, -, n, hn, hnj, -, kind, key, name, resolve,
      action, body, hcall, -⟩
  · exact h
  · -- neither the sweep nor the start asks for an enrollment
    have hstep : Sample.revocation.step = 0 := rfl
    obtain rfl | rfl : n = 1 ∨ n = 2 := by omega
    · cases hcall
    · cases hcall

end Vauxr
