import Vauxr.Commit

/-!
The sweep of the integrations row by row, and what the bodies of integration enrollment commit.
-/

namespace Vauxr

open Lib

namespace Integration

variable {c : Ctx} {m : Snapshot}

lemma find?_disable (p : String → Bool) (ids : List String) (records : List Credential) :
    (Lifecycle.disable ids records).find? (fun r => p r.id) =
      (records.find? fun r => p r.id).map fun r =>
        if r.id ∈ ids then { r with enabled := false } else r := by
  rw [Lifecycle.disable, List.find?_map]
  congr 1
  refine congrArg (fun q => List.find? q records) ?_
  funext r
  simp only [Function.comp]
  split <;> rfl

/-- The record of a row is there whether or not records have been disabled. -/
lemma credentialOf_disable {ids : List String} {records : List Credential} {row : Row} :
    credentialOf (Lifecycle.disable ids records) row =
      (credentialOf records row).map fun r =>
        if r.id ∈ ids then { r with enabled := false } else r :=
  find?_disable (· == row.credentialId) ids records

lemma credentialOf_eq_some {records : List Credential} {row : Row} {r : Credential}
    (h : credentialOf records row = some r) : r ∈ records ∧ r.id = row.credentialId :=
  ⟨List.mem_of_find?_eq_some h, by simpa using List.find?_some h⟩

lemma lapse_mem {row : Row} {state : Status} (h : lapse c m row = some state) :
    state ∈ [Status.revoked, .expired, .stale] := by
  unfold lapse at h
  split at h
  · cases h; decide
  · split at h
    · cases h; decide
    · split at h
      · cases h; decide
      · cases h

/-- The accumulator of the sweep, as the snapshot it would write. -/
def Sweep.snapshot (acc : Sweep) : Snapshot := { acc.staged with integration := some acc.rows }

/-- Marking one more row as moved. -/
lemma AgentsSwept.put {acc : Sweep} {ids : List String} (h : AgentsSwept m acc.snapshot ids)
    {key : String} {row row' : Row} (hget : m.agents.get? key = some row)
    (hrow : row' = { row with state := row'.state }) {staged : Snapshot} {ids' : List String}
    (hsub : ids ⊆ ids') (hids : ∀ i ∈ ids', i ∈ ids ∨ row.state.terminal = false ∧
      row.credentialId = i)
    (howner : staged.owner = m.owner) (henrollment : staged.enrollment = m.enrollment)
    (hrecords : staged.records = Lifecycle.disable ids' m.records)
    (hops : staged.operations = m.operations) (hbind : staged.bindings = m.bindings)
    (hrec : staged.recovery = m.recovery) (hblocked : Lifecycle.Blocks m ids' staged.blocked)
    (hmove : row'.state = row.state ∨
      (row.state.terminal = false ∧ row'.state ∈ [Status.revoked, .expired, .stale] ∧
        ∀ r, credentialOf m.records row = some r → r.id ∈ ids') ∨
      (row.state = .completed ∧ row'.state = .revoked ∧
        ∀ r ∈ m.records, r.subject = row.agentId → r.verifier ∈ staged.blocked)) :
    AgentsSwept m (Sweep.snapshot ⟨acc.rows.put key row', staged, true⟩) ids' := by
  have hmono : ∀ v, v ∈ acc.staged.blocked → v ∈ staged.blocked := by
    intro v hv
    rcases (h.blocked.mem v).mp hv with hv | ⟨r, hr, hid, hv⟩
    · exact (hblocked.mem v).mpr (Or.inl hv)
    · exact (hblocked.mem v).mpr (Or.inr ⟨r, hr, hsub hid, hv⟩)
  have hex : (acc.rows.requests.get? key).isSome := h.keeps key row hget
  refine ⟨howner, henrollment, hrecords, hops, hbind, hrec, hblocked, ?_, ?_, ?_, ?_⟩
  · intro id r hr
    have hr' : (acc.rows.requests.set key row').get? id = some r := hr
    rw [Dict.get?_set] at hr'
    split at hr'
    · next heq =>
      subst heq
      cases hr'
      exact ⟨row, hget, hrow, hmove⟩
    · obtain ⟨r₀, hr₀, h1, h2⟩ := h.rows id r hr'
      refine ⟨r₀, hr₀, h1, ?_⟩
      rcases h2 with h2 | ⟨h2, h3, h4⟩ | ⟨h2, h3, h4⟩
      · exact Or.inl h2
      · exact Or.inr (Or.inl ⟨h2, h3, fun r hr => hsub (h4 r hr)⟩)
      · exact Or.inr (Or.inr ⟨h2, h3, fun r hr hs => hmono _ (h4 r hr hs)⟩)
  · intro id r hr
    show ((acc.rows.requests.set key row').get? id).isSome
    rw [Dict.get?_set]
    split
    · rfl
    · exact h.keeps id r hr
  · obtain ⟨r, hr⟩ := Option.isSome_iff_exists.mp hex
    exact (Dict.size_set_of_get? hr).trans h.size
  · intro i hi
    rcases hids i hi with hi | ⟨ht, hc⟩
    · exact h.ids i hi
    · exact ⟨key, row, hget, ht, hc⟩

lemma sweepRows_spec (hm : m.Valid) : ∀ (l : List (String × Row)) (acc : Sweep)
    (ids : List String), AgentsSwept m acc.snapshot ids →
    (∀ e ∈ l, m.agents.get? e.1 = some e.2) →
    ∃ acc' ids', sweepRows c acc l = (acc', .ok ()) ∧ AgentsSwept m acc'.snapshot ids'
  | [], acc, ids, h, _ => ⟨acc, ids, rfl, h⟩
  | (key, row) :: l, acc, ids, h, hl => by
    rw [List.forall_mem_cons] at hl
    obtain ⟨hget, hl⟩ := hl
    unfold sweepRows
    split
    · next hcompleted =>
      split
      · next hlost =>
        refine sweepRows_spec hm l _ ids (AgentsSwept.put h hget rfl (fun _ hi => hi)
          (fun i hi => Or.inl hi) h.owner h.enrollment h.records h.operations h.bindings
          h.recovery h.blocked (Or.inr (Or.inr ⟨hcompleted, rfl, ?_⟩))) hl
        intro r hr hsub
        simp only [lost, Bool.and_eq_true, List.all_eq_true, List.mem_filter, beq_iff_eq,
          decide_eq_true_eq] at hlost
        have hrec : acc.staged.records = Lifecycle.disable ids m.records := h.records
        rw [hrec] at hlost
        have hr' : (if r.id ∈ ids then { r with enabled := false } else r) ∈
            Lifecycle.disable ids m.records := List.mem_map_of_mem hr
        have := hlost.2 _ ⟨hr', by split <;> exact hsub⟩
        split at this <;> exact this
      · exact sweepRows_spec hm l acc ids h hl
    · split
      · exact sweepRows_spec hm l acc ids h hl
      · next hterm =>
        simp only [Bool.not_eq_true] at hterm
        split
        · exact sweepRows_spec hm l acc ids h hl
        · next state hlapse =>
          have hcred : credentialOf acc.staged.records row = _ :=
            (congrArg (credentialOf · row) h.records).trans credentialOf_disable
          dsimp only
          split
          · next hnone =>
            refine sweepRows_spec hm l _ ids (AgentsSwept.put h hget rfl (fun _ hi => hi)
              (fun i hi => Or.inl hi) h.owner h.enrollment h.records h.operations h.bindings
              h.recovery h.blocked (Or.inr (Or.inl ⟨hterm, lapse_mem hlapse, ?_⟩))) hl
            intro r hr
            rw [hcred, hr] at hnone
            cases hnone
          · next r hsome =>
            obtain ⟨-, hrid⟩ := credentialOf_eq_some hsome
            have hbase : (m.blocked ++ m.digests).dedup.length ≤ Lifecycle.tombstoneLimit :=
              hm.room.tombstones
            have hlen := Lifecycle.length_blockedWith_le acc.staged.blocked [r.id]
              acc.staged.records hbase (fun v hv => by
                rw [List.mem_dedup, List.mem_append]
                rcases (h.blocked.mem v).mp hv with hv | ⟨r, hr, -, rfl⟩
                · exact Or.inl hv
                · exact Or.inr (List.mem_map_of_mem hr))
              (fun v hv => by
                have hrec : acc.staged.records = Lifecycle.disable ids m.records := h.records
                rw [hrec, Lifecycle.map_verifier_disable] at hv
                rw [List.mem_dedup, List.mem_append]
                exact Or.inr hv)
            have hret : retire acc.staged r = .ok { acc.staged with
                records := Lifecycle.disable [r.id] acc.staged.records
                lifecycle := some { Lifecycle.stateOf acc.staged with
                  blocked := Lifecycle.blockedWith acc.staged.blocked [r.id]
                    acc.staged.records } } := by
              unfold retire
              rw [Lifecycle.retire_eq_ok.mpr ⟨(Lifecycle.stateOf_blocked _).symm ▸ hlen, rfl, rfl⟩,
                Lifecycle.stateOf_blocked]
              rfl
            rw [hret]
            refine sweepRows_spec hm l _ (ids ++ [r.id]) (AgentsSwept.put h hget rfl
              (fun _ hi => List.mem_append_left _ hi) (fun i hi => ?_) h.owner h.enrollment ?_
              ((Lifecycle.stateOf_operations _).trans h.operations)
              ((Lifecycle.stateOf_bindings _).trans h.bindings)
              ((Lifecycle.stateOf_recovery _).trans h.recovery) ?_
              (Or.inr (Or.inl ⟨hterm, lapse_mem hlapse, ?_⟩))) hl
            · rcases List.mem_append.mp hi with hi | hi
              · exact Or.inl hi
              · rw [List.mem_singleton] at hi
                exact Or.inr ⟨hterm, hi ▸ hrid.symm⟩
            · have hrec : acc.staged.records = Lifecycle.disable ids m.records := h.records
              show Lifecycle.disable [r.id] acc.staged.records = _
              rw [hrec, Lifecycle.disable_disable]
            · refine ⟨fun v => ?_, Lifecycle.nodup_blockedWith _ _ _⟩
              have hrec : acc.staged.records = Lifecycle.disable ids m.records := h.records
              show v ∈ Lifecycle.blockedWith acc.staged.blocked [r.id] acc.staged.records ↔ _
              rw [hrec, Lifecycle.blockedWith_disable, Lifecycle.mem_blockedWith]
              have hb := h.blocked.mem v
              simp only [List.mem_append]
              constructor
              · rintro (hv | ⟨r', hr', hid, hv⟩)
                · rcases hb.mp hv with hv | ⟨r', hr', hid, hv⟩
                  · exact Or.inl hv
                  · exact Or.inr ⟨r', hr', Or.inl hid, hv⟩
                · exact Or.inr ⟨r', hr', Or.inr hid, hv⟩
              · rintro (hv | ⟨r', hr', hid | hid, hv⟩)
                · exact Or.inl (hb.mpr (Or.inl hv))
                · exact Or.inl (hb.mpr (Or.inr ⟨r', hr', hid, hv⟩))
                · exact Or.inr ⟨r', hr', hid, hv⟩
            · intro r₀ hr₀
              obtain ⟨-, hr₀id⟩ := credentialOf_eq_some hr₀
              rw [hr₀id, ← hrid]
              simp

/-- The body of the sweep: the rows after it, and what was retired on the way. -/
lemma sweepBody_eq (c : Ctx) (hm : m.Valid) :
    ∃ acc ids, AgentsSwept m (Sweep.snapshot acc) ids ∧ sweepBody c m =
      if acc.changed then .ok (.save acc.staged (.integration acc.rows none) (.ok ()))
      else .ok (.reply ()) := by
  have h0 : AgentsSwept m (Sweep.snapshot ⟨stateOf m, m, false⟩) [] := by
    have hagents : (Sweep.snapshot ⟨stateOf m, m, false⟩).agents = m.agents := stateOf_requests m
    refine ⟨rfl, rfl, (Lifecycle.disable_nil _).symm, rfl, rfl, rfl, ?_, ?_, ?_, ?_, ?_⟩
    · exact ⟨fun v => by simp [Sweep.snapshot, Snapshot.blocked], hm.lifecycleValid.nodup⟩
    · intro id row h
      rw [hagents] at h
      exact ⟨row, h, rfl, Or.inl rfl⟩
    · intro id row h
      rw [hagents, h]
      rfl
    · rw [hagents]
    · exact fun i hi => absurd hi List.not_mem_nil
  obtain ⟨acc, ids, hacc, h⟩ := sweepRows_spec (c := c) hm (stateOf m).requests.entries
    ⟨stateOf m, m, false⟩ [] h0 fun e he => by
      rw [stateOf_requests] at he
      exact Dict.mem_entries.mp he
  refine ⟨acc, ids, h, ?_⟩
  unfold sweepBody
  dsimp only
  rw [hacc]

variable {call : Vauxr.Call} {resolve : Resolve}

lemma lookup_eq_ok {id : String} {row : Row} (h : lookup m id = .ok row) :
    m.agents.get? id = some row := by
  rwa [lookup, demand_eq_ok, stateOf_requests] at h

lemma nativeRow_eq_ok {client : Client} {row : Row} (h : nativeRow c m client = .ok row) :
    m.agents.get? client.requestId = some row := by
  simp only [nativeRow, bind_eq_ok, refuse_eq_ok, exists_const] at h
  obtain ⟨row', hrow, -, h⟩ := h
  cases h
  exact lookup_eq_ok hrow

lemma closeBody_commits {id : String} {row : Row} {state : Status} (hm : m.Valid)
    (hget : m.agents.get? id = some row) (hs : state = .denied ∨ state = .cancelled) :
    Commits c call m (closeBody m row state) := by
  obtain ⟨rfl, -⟩ := hm.agent_request_id hget
  unfold closeBody
  split
  · exact Commits.reply _
  · refine Commits.bind fun _ hterm => ?_
    simp only [refuse_eq_ok] at hterm
    dsimp only
    split
    · next hnone => exact Commits.save (.agentClose row state hget hterm hs hnone)
    · next r hsome =>
      refine Commits.bind fun staged hret => ?_
      unfold retire at hret
      rw [Lifecycle.retire_valid hm [r.id] (Lifecycle.stateOf m) (Lifecycle.stateOf_blocked m)]
        at hret
      cases hret
      exact Commits.staged rfl rfl (.agentRetire row state r hget hterm hs hsome)

lemma deliverBody_commits {client : Client} (hm : m.Valid) :
    Commits c call m (deliverBody c client m) := by
  refine Commits.bind fun row hrow => Commits.bind fun _ hs => Commits.bind fun r hr =>
    Commits.save ?_
  have hget := nativeRow_eq_ok hrow
  obtain ⟨hid, -⟩ := hm.agent_request_id hget
  simp only [refuse_eq_ok, decide_eq_false_iff_not, not_not] at hs
  obtain ⟨c1, c2, c3, c4, c5⟩ := Credential.create_eq_ok hr
  exact .agentDeliver row r (hid ▸ hget) hs c1 c2 c3 c5 c4

lemma approveBody_commits {id : String} {code : Json} (hm : m.Valid) :
    Commits c call m (approveBody c resolve id code m) := by
  refine Commits.bind fun _ hauth => Commits.bind fun row hrow => Commits.bind fun _ hs => ?_
  have hget := lookup_eq_ok hrow
  obtain ⟨rfl, -⟩ := hm.agent_request_id hget
  simp only [refuse_eq_ok, Bool.not_eq_false', Bool.or_eq_true, decide_eq_true_eq] at hs
  split
  · refine Commits.save (.agentCode row (row.attempts + 1) _ hget hs ?_)
    split
    · exact Or.inr rfl
    · exact Or.inl rfl
  · exact Commits.save (.agentApprove resolve row hget hs hauth)

lemma completeBody_commits {client : Client} {credential saved : Json} {row : Row}
    {r : Credential} (hm : m.Valid)
    (h : acknowledged c m client credential saved = .ok (row, r)) :
    Commits c call m (completeBody row r m) := by
  simp only [acknowledged, bind_eq_ok, demand_eq_ok, refuse_eq_ok, exists_const] at h
  obtain ⟨row', hrow, token, -, r', hr, hver, hs, h⟩ := h
  cases h
  have hget := nativeRow_eq_ok hrow
  obtain ⟨hid, -⟩ := hm.agent_request_id hget
  simp only [Bool.or_eq_false_iff, bne_eq_false_iff_eq, decide_eq_false_iff_not] at hver
  simp only [Bool.not_eq_false', Bool.or_eq_true, decide_eq_true_eq] at hs
  unfold completeBody
  split
  · exact Commits.reply _
  · next hn => exact Commits.save (.agentComplete row r (hid ▸ hget) (hs.resolve_left hn) hr hver.2)

lemma createBody_commits {client : Client} {terms : Terms}
    (hnone : m.agents.get? client.requestId = none) (hactive : m.ownerActive = true)
    (hadm : admission c m terms = .ok ()) : Commits c call m (createBody c client terms m) := by
  unfold createBody
  dsimp only
  split
  · next hg =>
    unfold Snapshot.ownerGeneration at hg
    rw [Option.map_eq_none_iff] at hg
    simp [Snapshot.ownerActive, hg] at hactive
  · next generation hg =>
    let row : Row :=
      { requestId := client.requestId
        serverId := (Enrollment.stateOf c m).serverId
        origin := c.origin.1
        agentId := "int_" ++ client.requestId
        displayName := terms.displayName
        expiresAt := terms.expiresAt
        createdAt := c.now
        state := .pending
        attempts := 0
        secretHash := c.verifier client.secret
        codeHash := c.verifier (userCode c client.requestId client.secret terms.expiresAt)
        ownerGeneration := generation
        credentialId := "" }
    have hch : Change c call m _ :=
      .agentRequest client terms row hnone hactive hadm rfl rfl rfl rfl
    exact Commits.staged rfl rfl hch

end Integration

/-! ### Owner -/

namespace Owner

variable {c : Ctx} {call : Call} {m : Snapshot}

lemma commits_saveAuthority {α : Type} (state : OwnerState) (result : Except Error α) :
    Commits c call m (.ok (saveAuthority m state result)) :=
  Commits.save (.owner _)

lemma initializeBody_commits : Commits c call m (initializeBody c m) := by
  unfold initializeBody
  dsimp only
  split
  · split
    · exact commits_saveAuthority _ _
    · exact Commits.reply _
  · split
    · exact commits_saveAuthority _ _
    · split
      · exact commits_saveAuthority _ _
      · exact Commits.reply _

lemma bindOriginBody_commits : Commits c call m (bindOriginBody c m) := by
  refine Commits.bind fun state _ => ?_
  dsimp only
  split
  · exact Commits.save (.owner _)
  · exact Commits.reply _

lemma consoleClaimBody_commits {recover : Bool} : Commits c call m (consoleClaimBody c recover m) :=
  Commits.bind fun _ _ => Commits.bind fun _ _ => Commits.bind fun _ _ =>
    commits_saveAuthority _ _

lemma rateBody_commits : Commits c call m (rateBody c m) :=
  Commits.bind fun _ _ => Commits.bind fun _ _ => Commits.save (.owner _)

lemma claimBody_commits {code : Json} : Commits c call m (claimBody c code m) := by
  refine Commits.bind fun state _ => ?_
  dsimp only
  split
  · exact Commits.save (.owner _)
  · split
    · exact Commits.save (.owner _)
    · exact Commits.error _

lemma acknowledgeBody_commits {acknowledgement saved : Json} :
    Commits c call m (acknowledgeBody c acknowledgement saved m) :=
  Commits.bind fun _ _ => Commits.bind fun _ _ => Commits.bind fun _ _ =>
    commits_saveAuthority _ _

lemma loginBody_commits {token : Json} : Commits c call m (loginBody c token m) :=
  Commits.bind fun _ _ => Commits.bind fun _ _ => Commits.bind fun _ _ => Commits.bind fun _ _ =>
    Commits.save (.owner _)

lemma logoutBody_commits {cookie : String} : Commits c call m (logoutBody c cookie m) := by
  refine Commits.bind fun state _ => Commits.bind fun s _ => ?_
  split
  · exact Commits.save (.owner _)
  · exact Commits.reply _

end Owner

end Vauxr
