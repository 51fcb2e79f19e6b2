import Mathlib
import Vauxr.Guessing
import Vauxr.Headroom
import Vauxr.Operations

/-!
Where credentials come from.

No service makes up a record: each one was there before, or it is issued by a redeemed enrollment,
by the delivery of a rotation, or, disabled, by the delivery of an approved integration.
-/

namespace Vauxr

open Lib

/-! ### What an enrollment row keeps -/

namespace Enrollment

/-- The fields of an enrollment row that are written once. -/
structure SameRequest (row row' : Row) : Prop where
  requestId : row'.requestId = row.requestId
  serverId : row'.serverId = row.serverId
  origin : row'.origin = row.origin
  kind : row'.kind = row.kind
  publicKey : row'.publicKey = row.publicKey
  deviceId : row'.deviceId = row.deviceId
  nonce : row'.nonce = row.nonce
  expiresAt : row'.expiresAt = row.expiresAt
  ownerGeneration : row'.ownerGeneration = row.ownerGeneration
  displayName : row'.displayName = row.displayName

variable {c : Ctx} {call : Vauxr.Call} {m m' m'' : Snapshot} {r : String} {row row' row'' : Row}

namespace SameRequest

lemma refl (row : Row) : SameRequest row row :=
  ⟨rfl, rfl, rfl, rfl, rfl, rfl, rfl, rfl, rfl, rfl⟩

lemma trans (h : SameRequest row row') (h' : SameRequest row' row'') : SameRequest row row'' where
  requestId := h'.requestId.trans h.requestId
  serverId := h'.serverId.trans h.serverId
  origin := h'.origin.trans h.origin
  kind := h'.kind.trans h.kind
  publicKey := h'.publicKey.trans h.publicKey
  deviceId := h'.deviceId.trans h.deviceId
  nonce := h'.nonce.trans h.nonce
  expiresAt := h'.expiresAt.trans h.expiresAt
  ownerGeneration := h'.ownerGeneration.trans h.ownerGeneration
  displayName := h'.displayName.trans h.displayName

lemma close (row : Row) (state : Status) : SameRequest row (row.close state) :=
  ⟨rfl, rfl, rfl, rfl, rfl, rfl, rfl, rfl, rfl, rfl⟩

lemma ite {p : Prop} [Decidable p] {new : Row} (h : SameRequest row new) :
    SameRequest row (if p then new else row) := by
  split
  · exact h
  · exact .refl row

lemma charged (row : Row) : SameRequest row (charged row) := by
  unfold Enrollment.charged
  dsimp only
  split <;> exact ⟨rfl, rfl, rfl, rfl, rfl, rfl, rfl, rfl, rfl, rfl⟩

lemma confirm (row : Row) (p : Principal) (action : Confirm) :
    SameRequest row (row.confirm p action) := by
  cases action <;> exact ⟨rfl, rfl, rfl, rfl, rfl, rfl, rfl, rfl, rfl, rfl⟩

end SameRequest

/-- The row of `r` continues one that was there, or a new request was given the identifier. -/
def Continues (c : Ctx) (call : Vauxr.Call) (r : String) (m m' : Snapshot) : Prop :=
  ∀ row', m'.requests.get? r = some row' →
    (∃ row, m.requests.get? r = some row ∧ SameRequest row row') ∨ Draws c call r

lemma Continues.same (h : m'.requests = m.requests) : Continues c call r m m' := by
  intro row' hrow
  rw [h] at hrow
  exact Or.inl ⟨row', hrow, .refl row'⟩

lemma Continues.map {f : Row → Row} (h : m'.requests.get? r = (m.requests.get? r).map f)
    (hf : ∀ row, SameRequest row (f row)) : Continues c call r m m' := by
  intro row' hrow
  rw [h, Option.map_eq_some_iff] at hrow
  obtain ⟨row, hget, rfl⟩ := hrow
  exact Or.inl ⟨row, hget, hf row⟩

lemma Continues.set {new : Row} (hget : m.requests.get? row.requestId = some row)
    (h : m'.requests = m.requests.set row.requestId new) (hs : SameRequest row new) :
    Continues c call r m m' := by
  intro row' hrow
  rw [h, Dict.get?_set] at hrow
  split at hrow
  · next he =>
    cases hrow
    subst he
    exact Or.inl ⟨row, hget, hs⟩
  · exact Or.inl ⟨row', hrow, .refl row'⟩

lemma sameRequest_unapproved (ids : List String) (row : Row) :
    SameRequest row (unapproved ids row) := .ite (.close row .stale)

lemma sameRequest_abandoned (subject : String) (row : Row) :
    SameRequest row (abandoned subject row) := .ite (.close row .stale)

lemma requests_invalidateApprovals (ids : List String) (h : m'.enrollment =
    Lifecycle.invalidateApprovals m ids) :
    m'.requests.get? r = (m.requests.get? r).map (unapproved ids) := by
  unfold Snapshot.requests
  rw [h, Lifecycle.invalidateApprovals]
  cases m.enrollment with
  | none => rfl
  | some e =>
    show (e.requests.map fun _ => unapproved ids).get? r = _
    rw [Dict.get?_map]
    rfl

lemma requests_invalidateEnrollments (ids : List String) (subject : String) (h : m'.enrollment =
    Lifecycle.invalidateEnrollments m ids subject) : m'.requests.get? r =
      (m.requests.get? r).map fun row => abandoned subject (unapproved ids row) := by
  unfold Snapshot.requests
  rw [h, Lifecycle.invalidateEnrollments, Lifecycle.invalidateApprovals]
  cases m.enrollment with
  | none => rfl
  | some e =>
    show ((e.requests.map fun _ => unapproved ids).map fun _ => abandoned subject).get? r = _
    rw [Dict.get?_map, Dict.get?_map, Option.map_map]
    rfl

/-- **One change**, in the terms of an enrollment row. -/
theorem continues_of_change (h : Change c call m m') (r : String) : Continues c call r m m' := by
  have hlost : ∀ (ids : List String) (subject : String) (row : Row),
      SameRequest row (abandoned subject (unapproved ids row)) := fun ids subject row =>
    (sameRequest_unapproved ids row).trans (sameRequest_abandoned subject _)
  cases h with
  | owner | poll | deliver | rotate | bind | agentCode | agentApprove | agentClose
  | agentRetire | agentDeliver | agentComplete => exact .same rfl
  | sweep blocked hb =>
    exact .map (requests_invalidateApprovals _ rfl) (sameRequest_unapproved _)
  | ack p id saved row =>
    exact .map (requests_invalidateApprovals row.oldIds rfl) (sameRequest_unapproved _)
  | revoke p id role subject row =>
    exact .map (requests_invalidateEnrollments row.oldIds row.subject rfl) (hlost _ _)
  | recover p id role subject row =>
    exact .map (requests_invalidateEnrollments row.oldIds row.subject rfl) (hlost _ _)
  | attempt attempts => exact .same (stateOf_requests c m)
  | agentsSweep m' ids hs =>
    refine .same ?_
    unfold Snapshot.requests
    rw [hs.enrollment]
  | agentRequest client terms row => exact .same (stateOf_requests c m)
  | mark =>
    have hmap : (m.requests.map fun _ => markedRow c m).get? r =
        (m.requests.get? r).map (markedRow c m) := by rw [Dict.get?_map]
    exact .map hmap fun row => .ite (.close row .stale)
  | fail row hget ht =>
    refine .set hget ?_ (.charged row)
    rw [Snapshot.putRequest_requests, (SameRequest.charged row).requestId]
  | request kindField keyField nameField resolve row life hcall hset h1 h2 h3 h4 h5 h6 h7 hnew =>
    obtain ⟨-, -, -, -, hrow⟩ := newRequest_eq_ok hnew
    intro row' hget
    have hget : ((unexpired c m).set row.requestId row).get? r = some row' := hget
    rw [Dict.get?_set] at hget
    split at hget
    · next he =>
      rw [hrow] at he
      exact Or.inr ⟨he, kindField, keyField, nameField, resolve, hcall⟩
    · rw [unexpired, Dict.get?_filter_some] at hget
      exact Or.inl ⟨row', hget.1, .refl row'⟩
  | prove requestId signature resolve row hcall hid hget =>
    exact .set hget (Snapshot.putRequest_requests c m _)
      ⟨rfl, rfl, rfl, rfl, rfl, rfl, rfl, rfl, rfl, rfl⟩
  | confirm action requestId code resolve p row hcall hid hget =>
    have hsame := SameRequest.confirm row p action
    refine .set hget ?_ hsame
    rw [Snapshot.putRequest_requests, hsame.requestId]
  | redeem requestId signature resolve row credential life hcall hset hid hget =>
    exact .set hget (Snapshot.putRequest_requests c m _)
      ⟨rfl, rfl, rfl, rfl, rfl, rfl, rfl, rfl, rfl, rfl⟩
  | close row state hget =>
    exact .set hget (Snapshot.putRequest_requests c m _) (.close row state)

end Enrollment

/-! ### New records -/

namespace Snapshot

lemma get?_putRequest (c : Ctx) (m : Snapshot) (row : Enrollment.Row) :
    (m.putRequest c row).requests.get? row.requestId = some row := by
  rw [putRequest_requests, Dict.get?_set_self]

lemma get?_putOperation (m : Snapshot) (id : String) (row : Lifecycle.Row) :
    (m.putOperation id row).operations.get? id = some row := by
  rw [putOperation_operations, Dict.get?_set_self]

lemma get?_putAgent (m : Snapshot) (row : Integration.Row) :
    (m.putAgent row).agents.get? row.requestId = some row := by
  rw [putAgent_agents, Dict.get?_set_self]

end Snapshot

/-- A record under the same identifier, role, subject and verifier. -/
def Credential.Same (r r' : Credential) : Prop :=
  r'.id = r.id ∧ r'.role = r.role ∧ r'.subject = r.subject ∧ r'.verifier = r.verifier

lemma Credential.Same.refl (r : Credential) : r.Same r := ⟨rfl, rfl, rfl, rfl⟩

lemma Credential.Same.trans {r r' r'' : Credential} (h : r.Same r') (h' : r'.Same r'') :
    r.Same r'' :=
  ⟨h'.1.trans h.1, h'.2.1.trans h.2.1, h'.2.2.1.trans h.2.2.1, h'.2.2.2.trans h.2.2.2⟩

/-- The redeem of an approved enrollment: the device signs for its own request, which is live under
this owner and origin with both its controllers. -/
structure Redeems (c : Ctx) (call : Call) (m m' : Snapshot) (row : Enrollment.Row)
    (credential : Credential) : Prop where
  call : ∃ requestId signature resolve,
    call.isEnrollment (.proof .redeem requestId signature) resolve ∧
      requestId.str? = some row.requestId ∧ Enrollment.signed c row "redeem" signature = true
  get : m.requests.get? row.requestId = some row
  approved : Enrollment.status c m row = .approved
  consumed : m'.requests.get? row.requestId = some { row with state := .consumed }
  drawn : credential.id = c.draws.credentialId.1
  role : credential.role = .device
  subject : credential.subject = row.deviceId

/-- The delivery of a rotation to a principal of the subject. -/
structure Rotates (c : Ctx) (call : Call) (m m' : Snapshot) (id : String) (row : Lifecycle.Row)
    (credential : Credential) : Prop where
  call : ∃ p, call.isLifecycle c m (.deliver id) p ∧ row.role = p.role ∧ row.subject = p.subject
  get : m.operations.get? id = some row
  pending : row.action = .rotate ∧ row.state = .pending
  delivered : ∃ overlapUntil, m'.operations.get? id = some { row with
    state := .delivered, credentialId := credential.id, overlapUntil }
  drawn : credential.id = c.draws.credentialId.1
  role : credential.role = row.role
  subject : credential.subject = row.subject

/-- The delivery of an approved integration, with a credential that is not enabled yet. -/
structure Hands (c : Ctx) (m m' : Snapshot) (row : Integration.Row) (credential : Credential) :
    Prop where
  get : m.agents.get? row.requestId = some row
  approved : row.state = .approved
  delivered : m'.agents.get? row.requestId = some { row with
    state := .delivered, credentialId := credential.id }
  drawn : credential.id = c.draws.credentialId.1
  role : credential.role = .integration
  subject : credential.subject = row.agentId
  disabled : credential.enabled = false

inductive Issued (c : Ctx) (call : Call) (m m' : Snapshot) (credential : Credential) : Prop
  | redeemed (row : Enrollment.Row) : Redeems c call m m' row credential →
      Issued c call m m' credential
  | rotated (id : String) (row : Lifecycle.Row) : Rotates c call m m' id row credential →
      Issued c call m m' credential
  | handed (row : Integration.Row) : Hands c m m' row credential → Issued c call m m' credential

variable {c : Ctx} {call : Call} {m m' : Snapshot}

lemma same_of_mem_disable {ids : List String} {records : List Credential} {r' : Credential}
    (h : r' ∈ Lifecycle.disable ids records) : ∃ r ∈ records, r.Same r' := by
  obtain ⟨r, hr, h1, h2, h3, h4, -⟩ := Lifecycle.disable_origin h
  exact ⟨r, hr, h1.symm, h2.symm, h3.symm, h4.symm⟩

/-- **One change**, in its records: each was there, or is issued. -/
theorem Change.record (h : Change c call m m') {r' : Credential} (hr : r' ∈ m'.records) :
    (∃ r ∈ m.records, r.Same r') ∨ Issued c call m m' r' := by
  have hold : r' ∈ m.records → (∃ r ∈ m.records, r.Same r') ∨ Issued c call m m' r' :=
    fun h => Or.inl ⟨r', h, .refl r'⟩
  cases h with
  | owner | mark | attempt | fail | prove | confirm | close | agentRequest | agentCode
  | agentApprove | agentClose | bind | poll | rotate | request => exact hold hr
  | sweep | ack | revoke | recover | agentRetire => exact Or.inl (same_of_mem_disable hr)
  | agentsSweep _ ids hs =>
    rw [hs.records] at hr
    exact Or.inl (same_of_mem_disable hr)
  | deliver p id row credential hcall hset hget h1 h2 h3 h4 h5 h6 h7 h8 =>
    rcases List.mem_append.mp hr with hr | hr
    · exact hold hr
    · obtain rfl := List.mem_singleton.mp hr
      refine Or.inr (.rotated id row
        ⟨⟨p, hcall, h1, h2⟩, hget, ⟨h3, h4⟩,
          ⟨min (c.now + Lifecycle.overlapSeconds) row.expiresAt, ?_⟩, h6, h7.trans h1.symm,
          h8.trans h2.symm⟩)
      exact m.get?_putOperation id _
  | redeem requestId signature resolve row credential life hcall hset hid hget hsig hs hun h1 h2
      h3 =>
    rcases List.mem_append.mp hr with hr | hr
    · exact Or.inl (same_of_mem_disable hr)
    · obtain rfl := List.mem_singleton.mp hr
      refine Or.inr (.redeemed row
        ⟨⟨requestId, signature, resolve, hcall, hid, hsig⟩, hget, hs, ?_, h1, h2, h3⟩)
      exact m.get?_putRequest c { row with state := .consumed }
  | agentDeliver row credential hget hs h1 h2 h3 h4 h5 =>
    rcases List.mem_append.mp hr with hr | hr
    · exact hold hr
    · obtain rfl := List.mem_singleton.mp hr
      refine Or.inr (.handed row ⟨hget, hs, ?_, h1, h2, h3, h4⟩)
      exact m.get?_putAgent { row with state := .delivered, credentialId := r'.id }
  | agentComplete row r hget hs hc hb =>
    obtain ⟨r₀, hr₀, rfl⟩ := List.mem_map.mp hr
    refine Or.inl ⟨r₀, hr₀, ?_⟩
    split <;> exact ⟨rfl, rfl, rfl, rfl⟩

/-- A redeem is no request for an enrollment. -/
lemma Redeems.not_draws {row : Enrollment.Row} {credential : Credential}
    (h : Redeems c call m m' row credential) (r : String) :
    ¬Enrollment.Draws c call r := by
  obtain ⟨requestId, signature, resolve, ⟨action, body, hcall, hp⟩, -⟩ := h.call
  rintro ⟨-, kind, key, name, resolve', action', body', hcall', hp'⟩
  rw [hcall] at hcall'
  cases hcall'
  rw [hp] at hp'
  cases hp'

/-! ### What is left of a request -/

namespace Enrollment

variable {c : Ctx} {call : Vauxr.Call} {m m' m'' : Snapshot} {r : String}

/-- A row of `r` is a later form of the one that was there, under the same terms. -/
def Descends (r : String) (m m' : Snapshot) : Prop :=
  ∀ row', m'.requests.get? r = some row' →
    ∃ row, m.requests.get? r = some row ∧ Later row row' ∧ SameRequest row row'

lemma Descends.refl (r : String) (m : Snapshot) : Descends r m m :=
  fun row h => ⟨row, h, .refl row, .refl row⟩

lemma Descends.trans (h : Descends r m m') (h' : Descends r m' m'') : Descends r m m'' := by
  intro row'' hrow
  obtain ⟨row', hrow', hl', hs'⟩ := h' row'' hrow
  obtain ⟨row, hget, hl, hs⟩ := h row' hrow'
  exact ⟨row, hget, hl.trans hl', hs.trans hs'⟩

lemma descends_commit (h : Commit c call m m') (hr : ¬Draws c call r) : Descends r m m' := by
  intro row' hrow
  rcases ages_of_change h.change h.before r row' hrow with ⟨row, hget, hl⟩ | ⟨hd, -⟩
  · rcases continues_of_change h.change r row' hrow with ⟨row₁, hget₁, hs⟩ | hd
    · obtain rfl := Option.some.inj (hget.symm.trans hget₁)
      exact ⟨row, hget, hl, hs⟩
    · exact absurd hd hr
  · exact absurd hd hr

lemma descends_commits (h : Relation.ReflTransGen (Commit c call) m m') (hr : ¬Draws c call r) :
    Descends r m m' := by
  induction h with
  | refl => exact .refl r m
  | tail _ hc ih => exact ih.trans (descends_commit hc hr)

section Run

variable {w₀ : World} {σ : ℕ → Step}

lemma descends_run (h0 : w₀.Rests) (hσ : Services σ) {a b : ℕ} (hab : a ≤ b)
    (hr : ¬Drawn σ r a b) : Descends r (run Step.next w₀ σ a).mem (run Step.next w₀ σ b).mem := by
  induction b, hab using Nat.le_induction with
  | base => exact .refl r _
  | succ b hab ih =>
    have hstep : ¬Draws (σ b).ctx (σ b).call r := fun he => hr ⟨b, hab, by omega, he⟩
    refine (ih fun ⟨n, h1, h2, h3⟩ => hr ⟨n, h1, by omega, h3⟩).trans ?_
    rw [(run_rests h0 hσ b).mem, (run_rests h0 hσ (b + 1)).mem]
    exact (run_commits h0 hσ b).rel (.refl r) (fun _ _ _ => .trans)
      fun m m' hc => descends_commit hc hstep

end Run

end Enrollment

/-! ### Where the credentials of a run come from -/

/-- The credential is issued in the course of the call. -/
def IssuedWithin (c : Ctx) (call : Call) (m₀ m₁ : Snapshot) (r' : Credential) : Prop :=
  ∃ m m' r, Within c call m₀ m₁ m m' ∧ Issued c call m m' r ∧ r.Same r'

lemma record_commits {h h' : List Snapshot} (hc : Chained Snapshot.empty (Commit c call) h h')
    {r' : Credential} (hr : r' ∈ (latest h').records) :
    (∃ r ∈ (latest h).records, r.Same r') ∨ IssuedWithin c call (latest h) (latest h') r' := by
  induction hc generalizing r' with
  | refl => exact Or.inl ⟨r', hr, .refl r'⟩
  | step hc hstep ih =>
    rcases hstep.change.record hr with ⟨r₁, hr₁, hs₁⟩ | hissued
    · rcases ih hr₁ with ⟨r, hold, hs⟩ | ⟨m, m', r, hw, hissued, hs⟩
      · exact Or.inl ⟨r, hold, hs.trans hs₁⟩
      · exact Or.inr ⟨m, m', r, hw.extend hstep, hissued, hs.trans hs₁⟩
    · exact Or.inr ⟨_, _, r', ⟨commits_path hc, hstep, .refl⟩, hissued, .refl r'⟩

section Run

variable {w₀ : World} {σ : ℕ → Step} {n k : ℕ} {m₁ m₁' m₂ m₂' : Snapshot} {r₁ r₂ : Credential}

/-- A request that has been redeemed is not redeemed again. -/
lemma Redeems.once (h0 : w₀.Rests) (hσ : Services σ) {row₁ row₂ : Enrollment.Row}
    (ha : Relation.ReflTransGen (Commit (σ n).ctx (σ n).call) m₁'
      (run Step.next w₀ σ (n + 1)).mem)
    (h₁ : Redeems (σ n).ctx (σ n).call m₁ m₁' row₁ r₁)
    (hb : Relation.ReflTransGen (Commit (σ (n + 1 + k)).ctx (σ (n + 1 + k)).call)
      (run Step.next w₀ σ (n + 1 + k)).mem m₂)
    (h₂ : Redeems (σ (n + 1 + k)).ctx (σ (n + 1 + k)).call m₂ m₂' row₂ r₂)
    (hid : row₂.requestId = row₁.requestId) :
    Enrollment.Drawn σ row₁.requestId (n + 1) (n + 1 + k) := by
  by_contra hnot
  have hget := h₂.get
  rw [hid] at hget
  obtain ⟨a, hga, hla, -⟩ := Enrollment.descends_commits hb (h₂.not_draws _) row₂ hget
  obtain ⟨b, hgb, hlb, -⟩ := Enrollment.descends_run h0 hσ (by omega) hnot a hga
  obtain ⟨d, hgd, hld, -⟩ := Enrollment.descends_commits ha (h₁.not_draws _) b hgb
  obtain rfl := Option.some.inj (h₁.consumed.symm.trans hgd)
  have hended := ((hld.trans hlb).trans hla).ended rfl
  have hlive : row₂.state.terminal = false :=
    Enrollment.live_of_status (by rw [h₂.approved]; rfl)
  rw [hended] at hlive
  cases hlive

/-- An operation delivers once. -/
lemma Rotates.once (h0 : w₀.Rests) (hσ : Services σ) {id : String} {op₁ op₂ : Lifecycle.Row}
    (ha : Relation.ReflTransGen (Commit (σ n).ctx (σ n).call) m₁'
      (run Step.next w₀ σ (n + 1)).mem)
    (h₁ : Rotates (σ n).ctx (σ n).call m₁ m₁' id op₁ r₁)
    (hb : Relation.ReflTransGen (Commit (σ (n + 1 + k)).ctx (σ (n + 1 + k)).call)
      (run Step.next w₀ σ (n + 1 + k)).mem m₂)
    (h₂ : Rotates (σ (n + 1 + k)).ctx (σ (n + 1 + k)).call m₂ m₂' id op₂ r₂) : False := by
  obtain ⟨overlapUntil, hdel⟩ := h₁.delivered
  have hforward := ((Lifecycle.forward_commits ha).trans
    (Lifecycle.forward_run h0 hσ (n + 1) k)).trans (Lifecycle.forward_commits hb)
  obtain ⟨op, hop, hon⟩ := hforward id _ hdel
  obtain rfl := Option.some.inj (h₂.get.symm.trans hop)
  have hlevel := hon.level
  rw [h₁.pending.1, h₂.pending.2] at hlevel
  simp [Lifecycle.Phase.level] at hlevel

end Run

/-- **Where credentials come from**: in every run of the services, from every file that loads, a
record after a step was there before it, under the same identifier, role, subject and verifier, or
is issued by one of its commits, under the identifier drawn in this step: by an approved enrollment
that its device redeems, a pending rotation that its subject fetches or an approved integration. A
request that has been redeemed is not redeemed again, unless it is asked for anew, and a rotation
that has been delivered is never delivered again. -/
theorem credentials_issued (w₀ : RestingWorld) (σ : ServiceRun) (n k : ℕ) :
    let w := run Step.next w₀.1 σ.1
    let within := fun n => Within (σ.1 n).ctx (σ.1 n).call (w n).mem (w (n + 1)).mem
    let redeems := fun n => Redeems (σ.1 n).ctx (σ.1 n).call
    let rotates := fun n => Rotates (σ.1 n).ctx (σ.1 n).call
    (∀ r' ∈ (w (n + 1)).mem.records, (∃ r ∈ (w n).mem.records, r.Same r') ∨
      IssuedWithin (σ.1 n).ctx (σ.1 n).call (w n).mem (w (n + 1)).mem r') ∧
    (∀ m₁ m₁' row₁ r₁ m₂ m₂' row₂ r₂, within n m₁ m₁' → redeems n m₁ m₁' row₁ r₁ →
      within (n + 1 + k) m₂ m₂' → redeems (n + 1 + k) m₂ m₂' row₂ r₂ →
      row₂.requestId = row₁.requestId →
        Enrollment.Drawn σ.1 row₁.requestId (n + 1) (n + 1 + k)) ∧
    ∀ id m₁ m₁' op₁ r₁ m₂ m₂' op₂ r₂, within n m₁ m₁' → rotates n m₁ m₁' id op₁ r₁ →
      within (n + 1 + k) m₂ m₂' → ¬rotates (n + 1 + k) m₂ m₂' id op₂ r₂ := by
  intro w within redeems rotates
  refine ⟨fun r' hr => ?_, fun m₁ m₁' row₁ r₁ m₂ m₂' row₂ r₂ hw₁ h₁ hw₂ h₂ hid => ?_,
    fun id m₁ m₁' op₁ r₁ m₂ m₂' op₂ r₂ hw₁ h₁ hw₂ h₂ => ?_⟩
  · have hn := (run_rests w₀.2 σ.2 n).mem
    have hn' := (run_rests w₀.2 σ.2 (n + 1)).mem
    simp only [w] at hr ⊢
    rw [hn'] at hr
    rw [hn, hn']
    exact record_commits (run_commits w₀.2 σ.2 n) hr
  · exact h₁.once w₀.2 σ.2 hw₁.after hw₂.before h₂ hid
  · exact h₁.once w₀.2 σ.2 hw₁.after hw₂.before h₂

end Vauxr
