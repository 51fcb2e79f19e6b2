import Mathlib
import Vauxr.RateLimits
import Vauxr.Rejected

/-!
What becomes of an integration row.

`Wrote` names the body of every commit; read off here is the move that each body makes on a row,
with what the caller showed for it.
-/

namespace Vauxr

open Lib

namespace Integration

/-- The user code that a row was requested under. -/
def coded (c : Ctx) (row : Row) (code : Json) : Bool :=
  code.str?.any fun code => code.length == 8 && row.codeHash == c.verifier code

/-- The row that a new request is given. -/
def newRow (c : Ctx) (client : Client) (terms : Terms) (serverId generation : String) : Row where
  requestId := client.requestId
  serverId := serverId
  origin := c.origin.1
  agentId := "int_" ++ client.requestId
  displayName := terms.displayName
  expiresAt := terms.expiresAt
  createdAt := c.now
  state := .pending
  attempts := 0
  secretHash := c.verifier client.secret
  codeHash := c.verifier (userCode c client.requestId client.secret terms.expiresAt)
  ownerGeneration := generation
  credentialId := ""

/-- What a commit makes of a row. -/
inductive Moves (c : Ctx) (call : Vauxr.Call) (m m' : Snapshot) (row : Row) : Row → Prop
  | same : Moves c call m m' row row
  | swept (ids : List String) (row' : Row) : AgentsSwept m m' ids →
      row' = { row with state := row'.state } →
      row.state.terminal = false ∧ row'.state ∈ [Status.revoked, .expired, .stale] ∨
        row.state = .completed ∧ row'.state = .revoked →
      Moves c call m m' row row'
  | miscoded (resolve : Resolve) (code : Json) :
      call.isIntegration (.approve row.requestId code) resolve → authorize m resolve = .ok () →
      row.state = .pending ∨ row.state = .approved → coded c row code = false →
      Moves c call m m' row (miscoded row)
  | approved (resolve : Resolve) (code : Json) :
      call.isIntegration (.approve row.requestId code) resolve → authorize m resolve = .ok () →
      row.state = .pending ∨ row.state = .approved → coded c row code = true →
      Moves c call m m' row { row with state := .approved }
  | closed (state : Status) : row.state.terminal = false → state = .denied ∨ state = .cancelled →
      Moves c call m m' row { row with state }
  | delivered (resolve : Resolve) (client : Client) :
      call.isIntegration (.deliver client) resolve → nativeRow c m client = .ok row →
      row.state = .approved →
      Moves c call m m' row
        { row with state := .delivered, credentialId := c.draws.credentialId.1 }
  | completed (resolve : Resolve) (client : Client) (credential saved : Json) (r : Credential) :
      call.isIntegration (.ack client credential saved) resolve →
      acknowledged c m client credential saved = .ok (row, r) → row.state = .delivered →
      Moves c call m m' row { row with state := .completed }

/-- The rows after a commit: each comes from the row of its identifier, or from a request. -/
def Rows (c : Ctx) (call : Vauxr.Call) (m m' : Snapshot) : Prop :=
  ∀ r row', m'.agents.get? r = some row' →
    (∃ row, m.agents.get? r = some row ∧ Moves c call m m' row row') ∨
      m.agents.get? r = none ∧ ∃ resolve client origin name expiresAt terms serverId generation,
        call.isIntegration (.request client origin name expiresAt) resolve ∧
        parseRequest c origin name expiresAt = .ok terms ∧ client.requestId = r ∧
        m.ownerGeneration = some generation ∧ row' = newRow c client terms serverId generation

variable {c : Ctx} {call : Vauxr.Call} {m m' : Snapshot} {row new : Row}

lemma Rows.same (h : m'.agents = m.agents) : Rows c call m m' := by
  intro r row' hrow
  rw [h] at hrow
  exact Or.inl ⟨row', hrow, .same⟩

lemma Rows.of_integration (h : m'.integration = m.integration) : Rows c call m m' :=
  Rows.same (by unfold Snapshot.agents; rw [h])

/-- One row is rewritten. -/
lemma Rows.set (hget : m.agents.get? row.requestId = some row)
    (h : m'.agents = m.agents.set row.requestId new) (hmove : Moves c call m m' row new) :
    Rows c call m m' := by
  intro r row' hrow
  rw [h, Dict.get?_set] at hrow
  split at hrow
  · next he =>
    cases hrow
    subst he
    exact Or.inl ⟨row, hget, hmove⟩
  · exact Or.inl ⟨row', hrow, .same⟩

lemma Rows.swept {ids : List String} (h : AgentsSwept m m' ids) : Rows c call m m' := by
  intro r row' hrow
  obtain ⟨row, hget, hstate, hcase⟩ := h.rows r row' hrow
  refine Or.inl ⟨row, hget, ?_⟩
  rcases hcase with hs | ⟨ht, hs, -⟩ | ⟨hc, hs, -⟩
  · have he : row' = row := by rw [hstate, hs]
    rw [he]
    exact .same
  · exact .swept ids row' h hstate (Or.inl ⟨ht, hs⟩)
  · exact .swept ids row' h hstate (Or.inr ⟨hc, hs⟩)

/-! ### Bodies -/

lemma closeBody_rows {state : Status} (hget : m.agents.get? row.requestId = some row)
    (hs : state = .denied ∨ state = .cancelled) :
    Ensures (closeBody m row state) (Rows c call m) := by
  have hput : ∀ {s : Snapshot}, row.state.terminal = false →
      Rows c call m ((Write.integration
        ((stateOf m).put row.requestId { row with state }) none).next s) := by
    intro s ht
    refine Rows.set hget ?_ (.closed state ht hs)
    show (stateOf m).requests.set _ _ = _
    rw [stateOf_requests]
  unfold closeBody
  split
  · exact Ensures.reply _
  · refine Ensures.bind fun _ ht => ?_
    simp only [refuse_eq_ok] at ht
    dsimp only
    split
    · exact Ensures.save (hput ht)
    · exact Ensures.bind fun _ _ => Ensures.save (hput ht)

lemma approveBody_rows {resolve : Resolve} {requestId : String} {code : Json} (hm : m.Valid)
    (hcall : call.isIntegration (.approve requestId code) resolve) :
    Ensures (approveBody c resolve requestId code m) (Rows c call m) := by
  refine Ensures.bind fun _ hauth => Ensures.bind fun row hrow => Ensures.bind fun _ hs => ?_
  have hget := lookup_eq_ok hrow
  obtain ⟨rfl, -⟩ := hm.agent_request_id hget
  simp only [refuse_eq_ok, Bool.not_eq_false', Bool.or_eq_true, decide_eq_true_eq] at hs
  have hput : ∀ {row' : Row}, Moves c call m ((Write.integration
      ((stateOf m).put row.requestId row') none).next m) row row' →
      Rows c call m ((Write.integration ((stateOf m).put row.requestId row') none).next m) := by
    intro row' hmove
    refine Rows.set hget ?_ hmove
    show (stateOf m).requests.set _ _ = _
    rw [stateOf_requests]
  split
  · next hcode =>
    rw [Bool.not_eq_true'] at hcode
    exact Ensures.save (hput (.miscoded resolve code hcall hauth hs hcode))
  · next hcode =>
    rw [Bool.not_eq_true', Bool.not_eq_false] at hcode
    exact Ensures.save (hput (.approved resolve code hcall hauth hs hcode))

lemma deliverBody_rows {resolve : Resolve} {client : Client} (hm : m.Valid)
    (hcall : call.isIntegration (.deliver client) resolve) :
    Ensures (deliverBody c client m) (Rows c call m) := by
  refine Ensures.bind fun row hrow => Ensures.bind fun _ hs => Ensures.bind fun credential hc =>
    Ensures.save ?_
  have hget := nativeRow_eq_ok hrow
  obtain ⟨hid, -⟩ := hm.agent_request_id hget
  simp only [refuse_eq_ok, decide_eq_false_iff_not, not_not] at hs
  obtain ⟨c1, -⟩ := Credential.create_eq_ok hc
  rw [c1]
  refine Rows.set (hid ▸ hget) ?_ (.delivered resolve client hcall hrow hs)
  show (stateOf m).requests.set _ _ = _
  rw [stateOf_requests]

lemma completeBody_rows {resolve : Resolve} {client : Client} {credential saved : Json}
    {r : Credential} (hm : m.Valid)
    (hcall : call.isIntegration (.ack client credential saved) resolve)
    (hack : acknowledged c m client credential saved = .ok (row, r)) :
    Ensures (completeBody row r m) (Rows c call m) := by
  have hget := acknowledged_row hack
  obtain ⟨hid, -⟩ := hm.agent_request_id hget
  have hs : row.state = .completed ∨ row.state = .delivered := by
    have h := hack
    simp only [acknowledged, bind_eq_ok, refuse_eq_ok, exists_const, Bool.not_eq_false',
      Bool.or_eq_true, decide_eq_true_eq] at h
    obtain ⟨row', -, token, -, r', -, -, hs, h⟩ := h
    cases h
    exact hs
  unfold completeBody
  split
  · exact Ensures.reply _
  · next hne =>
    refine Ensures.save (Rows.set (hid ▸ hget) ?_
      (.completed resolve client credential saved r hcall hack (hs.resolve_left hne)))
    show (stateOf m).requests.set _ _ = _
    rw [stateOf_requests]

lemma createBody_rows {resolve : Resolve} {client : Client} {origin name expiresAt : Json}
    {terms : Terms}
    (hcall : call.isIntegration (.request client origin name expiresAt) resolve)
    (hterms : parseRequest c origin name expiresAt = .ok terms)
    (hnone : m.agents.get? client.requestId = none) :
    Ensures (createBody c client terms m) (Rows c call m) := by
  unfold createBody
  dsimp only
  split
  · exact Ensures.raise _ _
  · next generation hg =>
    refine Ensures.save fun r row' hrow => ?_
    have hrow : ((retained c m).set client.requestId
        (newRow c client terms (Enrollment.stateOf c m).serverId generation)).get? r =
        some row' := hrow
    rw [Dict.get?_set] at hrow
    split at hrow
    · next he =>
      cases hrow
      subst he
      exact Or.inr ⟨hnone, resolve, client, origin, name, expiresAt, terms, _, generation, hcall,
        hterms, rfl, hg, rfl⟩
    · rw [retained, stateOf_requests, Dict.get?_filter_some] at hrow
      exact Or.inl ⟨row', hrow.1, .same⟩

lemma bodyOf_rows {resolve : Resolve} {k : Call} {b : Snapshot → Except Error (Final Reply)}
    (hm : m.Valid) (hcall : call.isIntegration k resolve) (hb : bodyOf c resolve k = some b) :
    Ensures (b m) (Rows c call m) := by
  cases k with
  | request | ack => cases hb
  | status client =>
    cases hb
    exact Ensures.bind fun _ _ => Ensures.reply _
  | list =>
    cases hb
    exact Ensures.bind fun _ _ => Ensures.reply _
  | deliver client =>
    cases hb
    exact deliverBody_rows hm hcall
  | approve requestId code =>
    cases hb
    exact approveBody_rows hm hcall
  | cancel client =>
    cases hb
    refine Ensures.bind fun row hrow => ?_
    have hget := nativeRow_eq_ok hrow
    obtain ⟨hid, -⟩ := hm.agent_request_id hget
    exact closeBody_rows (hid ▸ hget) (Or.inr rfl)
  | deny requestId =>
    cases hb
    refine Ensures.bind fun _ _ => Ensures.bind fun row hrow => ?_
    have hget := lookup_eq_ok hrow
    obtain ⟨hid, -⟩ := hm.agent_request_id hget
    exact closeBody_rows (hid ▸ hget) (Or.inl rfl)

end Integration

/-! ### The owner -/

namespace Owner

variable {c : Ctx} {m m' : Snapshot}

/-- The body writes nothing but the owner's row and records. -/
abbrev Keeps {α : Type} (m : Snapshot) (b : Except Error (Final α)) : Prop :=
  Ensures b fun m' => m'.integration = m.integration

lemma consoleClaimBody_keeps (recover : Bool) : Keeps m (consoleClaimBody c recover m) :=
  Ensures.bind fun _ _ => Ensures.bind fun _ _ => Ensures.bind fun _ _ => Ensures.save rfl

lemma rateBody_keeps : Keeps m (rateBody c m) :=
  Ensures.bind fun _ _ => Ensures.bind fun _ _ => Ensures.save rfl

lemma claimBody_keeps (code : Json) : Keeps m (claimBody c code m) := by
  refine Ensures.bind fun _ _ => ?_
  dsimp only
  split
  · exact Ensures.save rfl
  · split
    · exact Ensures.save rfl
    · exact Ensures.error _

lemma acknowledgeBody_keeps (acknowledgement saved : Json) :
    Keeps m (acknowledgeBody c acknowledgement saved m) :=
  Ensures.bind fun _ _ => Ensures.bind fun _ _ => Ensures.bind fun _ _ => Ensures.save rfl

lemma loginBody_keeps (token : Json) : Keeps m (loginBody c token m) :=
  Ensures.bind fun _ _ => Ensures.bind fun _ _ => Ensures.bind fun _ _ => Ensures.bind fun _ _ =>
    Ensures.save rfl

lemma logoutBody_keeps (cookie : String) : Keeps m (logoutBody c cookie m) := by
  refine Ensures.bind fun _ _ => Ensures.bind fun _ _ => ?_
  split
  · exact Ensures.save rfl
  · exact Ensures.reply _

lemma bindOriginBody_keeps : Keeps m (bindOriginBody c m) := by
  refine Ensures.bind fun _ _ => ?_
  dsimp only
  split
  · exact Ensures.save rfl
  · exact Ensures.reply _

lemma initializeBody_keeps : Keeps m (initializeBody c m) := by
  unfold initializeBody
  dsimp only
  split
  · split
    · exact Ensures.save rfl
    · exact Ensures.reply _
  · split
    · exact Ensures.save rfl
    · split
      · exact Ensures.save rfl
      · exact Ensures.reply _

end Owner

/-! ### Commits -/

variable {c : Ctx} {call : Call} {m m' : Snapshot}

/-- **Every commit**, in what becomes of the integration rows. -/
theorem Wrote.rows (h : Wrote c call m m') (hm : m.Valid) : Integration.Rows c call m m' := by
  have hkept : m'.integration = m.integration → Integration.Rows c call m m' :=
    Integration.Rows.of_integration
  cases h with
  | console recover _ hb => exact hkept (Owner.consoleClaimBody_keeps recover m' hb)
  | ownerRate _ hb => exact hkept (Owner.rateBody_keeps m' hb)
  | claim code _ hb => exact hkept (Owner.claimBody_keeps code m' hb)
  | acknowledge acknowledgement saved _ hb =>
    exact hkept (Owner.acknowledgeBody_keeps acknowledgement saved m' hb)
  | login token _ hb => exact hkept (Owner.loginBody_keeps token m' hb)
  | logout cookie _ hb => exact hkept (Owner.logoutBody_keeps cookie m' hb)
  | ownerInit _ hb => exact hkept (Owner.initializeBody_keeps m' hb)
  | bindOrigin _ hb => exact hkept (Owner.bindOriginBody_keeps m' hb)
  | sweep blocked _ he =>
    subst he
    exact hkept rfl
  | mark he =>
    subst he
    exact hkept rfl
  | agentsSweep ids hs => exact .swept hs
  | enrollment action body resolve k _ _ hb => exact hkept (Enrollment.body_apart m' hb).integration
  | enrollmentRate _ hb =>
    obtain ⟨s, w, x, hb, rfl⟩ := hb
    simp only [Enrollment.rateBody, bind_eq_ok] at hb
    obtain ⟨-, -, hb⟩ := hb
    cases hb
    exact hkept rfl
  | bindConsumed _ hb => exact hkept (Enrollment.bindBody_apart m' hb).integration
  | lifecycle action body resolve k _ _ hb => exact hkept (Lifecycle.body_apart m' hb).integration
  | integration action body resolve k b hcall hk hbody hb =>
    exact Integration.bodyOf_rows hm ⟨action, body, hcall, hk⟩ hbody m' hb
  | agentCreate action body resolve client origin name expiresAt terms hcall hk ht hn _ hb =>
    exact Integration.createBody_rows ⟨action, body, hcall, hk⟩ ht hn m' hb
  | agentComplete action body resolve client credential saved row r hcall hk hack hb =>
    exact Integration.completeBody_rows hm ⟨action, body, hcall, hk⟩ hack m' hb

/-- The commits of one step of a run, each with the body that wrote it. -/
lemma worldAt_wrote {σ : ℕ → Step} (hσ : Services σ) (n : ℕ) :
    Chained Snapshot.empty
      (fun m m' => Commit (σ n).ctx (σ n).call m m' ∧ Wrote (σ n).ctx (σ n).call m m')
      (worldAt σ n).committed (worldAt σ (n + 1)).committed :=
  (worldAt_commits hσ n).and (worldAt_traces hσ n)

end Vauxr
