import Vauxr.IntegrationSpec

/-!
The checks of `replace`, table by table, and the writes that can never fail them: what
maintenance writes, and what an acknowledgement or a retirement writes.
-/

namespace Vauxr

open Lib

/-! ### Records that only change in what is enabled -/

/-- The identity of a record stays. -/
def Keeps (f : Credential → Credential) : Prop :=
  ∀ r, (f r).id = r.id ∧ (f r).role = r.role ∧ (f r).subject = r.subject ∧
    (f r).verifier = r.verifier

lemma keeps_disable (ids : List String) :
    Keeps fun r => if r.id ∈ ids then { r with enabled := false } else r := by
  intro r
  dsimp only
  split <;> exact ⟨rfl, rfl, rfl, rfl⟩

section Keeps

variable {f : Credential → Credential} (hf : Keeps f) (records : List Credential)

include hf

lemma map_id_keeps : (records.map f).map (·.id) = records.map (·.id) := by
  rw [List.map_map]
  exact List.map_congr_left fun r _ => (hf r).1

lemma map_verifier_keeps : (records.map f).map (·.verifier) = records.map (·.verifier) := by
  rw [List.map_map]
  exact List.map_congr_left fun r _ => (hf r).2.2.2

lemma ambiguousCredentials_keeps :
    ambiguousCredentials (records.map f) = ambiguousCredentials records := by
  have hsubjects : ((records.map f).filter (·.role = .owner)).map (·.subject) =
      (records.filter (·.role = .owner)).map (·.subject) := by
    have hp : (fun r : Credential => decide (r.role = .owner)) ∘ f =
        fun r => decide (r.role = .owner) := by
      funext r
      simp [(hf r).2.1]
    rw [List.filter_map, List.map_map, hp]
    exact List.map_congr_left fun r _ => (hf r).2.2.1
  unfold ambiguousCredentials
  rw [map_id_keeps hf, map_verifier_keeps hf, hsubjects]

lemma ambiguousPrincipals_keeps :
    ambiguousPrincipals (records.map f) = ambiguousPrincipals records := by
  unfold ambiguousPrincipals
  simp only [List.any_map, Function.comp_def, (hf _).2.1, (hf _).2.2.1]

lemma mutatesCredential_keeps (hn : (records.map (·.id)).Nodup) :
    mutatesCredential records (records.map f) = false := by
  simp only [mutatesCredential, List.any_eq_false, List.mem_map, Option.any_eq_true,
    decide_eq_true_eq, ne_eq, not_exists, not_and, not_not]
  rintro _ ⟨r, hr, rfl⟩ p hp
  have hid : p.id = (f r).id := by simpa using List.find?_some hp
  obtain rfl := List.inj_on_of_nodup_map hn (List.mem_of_find?_eq_some hp) hr (hid.trans (hf r).1)
  simp [(hf p).2.1, (hf p).2.2.1, (hf p).2.2.2]

lemma validateIntegrations_keeps (rows : Dict String Integration.Row) :
    validateIntegrations rows (records.map f) = validateIntegrations rows records := by
  unfold validateIntegrations
  congr 1
  funext row
  have hp : (fun r : Credential => r.id == row.credentialId) ∘ f =
      fun r => r.id == row.credentialId := by
    funext r
    simp [(hf r).1]
  rw [List.find?_map, hp, Option.any_map]
  simp only [(hf _).2.1, (hf _).2.2.1]

end Keeps

lemma mutatesCredential_self {records : List Credential} (hn : (records.map (·.id)).Nodup) :
    mutatesCredential records records = false := by
  have h := mutatesCredential_keeps (f := id) (fun _ => ⟨rfl, rfl, rfl, rfl⟩) records hn
  rwa [List.map_id] at h

/-! ### Rows that end -/

namespace Enrollment

/-- A valid row stays valid when it is closed. -/
lemma validate_close {serverId key : String} {row : Row} {state : Status}
    (hs : state ∈ [Status.denied, .cancelled, .failed, .stale])
    (h : validateRow serverId key row = true) :
    validateRow serverId key (row.close state) = true := by
  have hcode : hexString (row.close state).codeHash 64 = true := by
    have hc : (row.codeHash == "" || hexString row.codeHash 64) = true := by
      simp only [validateRow, Bool.and_eq_true] at h
      tauto
    simp only [Bool.or_eq_true, beq_iff_eq] at hc
    show hexString (if row.codeHash = "" then zeroDigest else row.codeHash) 64 = true
    split
    · decide +kernel
    · next hn => exact hc.resolve_left hn
  have h1 : decide ((row.close state).state ≠ .expired) = true := by
    show decide (state ≠ .expired) = true
    revert hs
    cases state <;> decide
  have h2 : (!(decide ((row.close state).state ∈ [Status.initiated, .approved, .consumed]) &&
      (row.close state).initiator.isNone)) = true := by
    show (!(decide (state ∈ [Status.initiated, .approved, .consumed]) && _)) = true
    revert hs
    cases state <;> simp
  have h3 : (!(decide ((row.close state).state ∈ [Status.approved, .consumed]) &&
      (row.close state).approver.isNone)) = true := by
    show (!(decide (state ∈ [Status.approved, .consumed]) && _)) = true
    revert hs
    cases state <;> simp
  have h4 : (decide ((row.close state).state = .challenge) ||
      hexString (row.close state).codeHash 64) = true := by rw [hcode, Bool.or_true]
  have h5 : ((row.close state).codeHash == "" || hexString (row.close state).codeHash 64) =
      true := by rw [hcode, Bool.or_true]
  simp only [validateRow, Bool.and_eq_true] at h ⊢
  repeat obtain ⟨h, _⟩ := h
  and_intros
  all_goals first
    | assumption
    | exact ‹decide (0 ≤ row.attempts) = true ∧ _›.1
    | exact ‹decide (0 ≤ row.attempts) = true ∧ _›.2

/-- Rewriting rows into valid ones keeps the namespace valid. -/
lemma validate_map {e : State} {f : String → Row → Row}
    (h : validateEnrollment (some e) = true)
    (hf : ∀ key row, validateRow e.serverId key row = true →
      validateRow e.serverId key (f key row) = true) :
    validateEnrollment (some { e with requests := e.requests.map f }) = true := by
  simp only [validateEnrollment, Bool.and_eq_true, List.all_eq_true, decide_eq_true_eq] at h ⊢
  obtain ⟨⟨⟨⟨h1, h2⟩, h3⟩, h4⟩, h5⟩ := h
  refine ⟨⟨⟨⟨h1, h2⟩, h3⟩, by rwa [Dict.size_map]⟩, ?_⟩
  rintro ⟨k, r⟩ hkr
  obtain ⟨row, hrow, rfl⟩ := Dict.get?_map_some.mp (Dict.mem_entries.mp hkr)
  exact hf k row (h5 (k, row) (Dict.mem_entries.mpr hrow))

lemma validate_invalidateApprovals {m : Snapshot} (hm : m.Valid) (ids : List String) :
    validateEnrollment (Lifecycle.invalidateApprovals m ids) = true := by
  have h := hm.enrollment
  unfold Lifecycle.invalidateApprovals
  cases he : m.enrollment with
  | none => rfl
  | some e =>
    refine validate_map (he ▸ h) fun key row hv => ?_
    split
    · exact validate_close (by decide) hv
    · exact hv

lemma validate_marked (c : Ctx) {m : Snapshot} (hm : m.Valid) :
    validateEnrollment (some { stateOf c m with
      requests := m.requests.map fun _ => markedRow c m }) = true := by
  rw [← stateOf_requests c m]
  refine validate_map (stateOf_valid c hm) fun key row hv => ?_
  unfold markedRow
  split
  · exact validate_close (by decide) hv
  · exact hv

/-- A write of a valid enrollment namespace alone is never refused. -/
lemma check_enrollment {m : Snapshot} (hm : m.Valid) {e : State}
    (he : validateEnrollment (some e) = true) :
    ({ m with enrollment := some e } : Snapshot).check m.records = .ok () :=
  (Snapshot.check_ok_iff _ _).mpr ⟨{ hm with enrollment := he }, mutatesCredential_self hm.ids_nodup⟩

end Enrollment

/-! ### Retirement -/

namespace Lifecycle

/-- A live operation ends, or its credential is acknowledged. -/
def Ends (row row' : Row) : Prop :=
  row' = row ∨ row.state.terminal = false ∧ ∃ state, row' = { row with state } ∧
    (state = .expired ∨ state = .revoked ∨ (state = .completed ∧ row.state = .acknowledged) ∨
      (state = .acknowledged ∧ row.state = .delivered))

lemma Ends.validate {id : String} {row row' : Row} (h : Ends row row')
    (hv : validateOperation id row = true) : validateOperation id row' = true := by
  rcases h with rfl | ⟨hlive, state, rfl, hs⟩
  · exact hv
  · have hrevoke : row.action ≠ .revoke := by
      intro ha
      simp only [validateOperation, Bool.and_eq_true, ha] at hv
      have h2 := hv.2
      simp only [decide_true, Bool.true_and, Bool.not_eq_true', decide_eq_false_iff_not,
        not_not] at h2
      rw [h2] at hlive
      cases hlive
    simp only [validateOperation, Bool.and_eq_true] at hv ⊢
    obtain ⟨⟨hv, hcred⟩, -⟩ := hv
    refine ⟨⟨hv, ?_⟩, by simp [hrevoke]⟩
    rcases hs with rfl | rfl | ⟨rfl, hr⟩ | ⟨rfl, hr⟩
    · rfl
    · rfl
    · rw [hr] at hcred
      exact hcred
    · rw [hr] at hcred
      exact hcred

lemma Ends.same {row row' : Row} (h : Ends row row') :
    row'.subject = row.subject ∧ row'.role = row.role ∧ row'.action = row.action := by
  rcases h with rfl | ⟨-, state, rfl, -⟩ <;> exact ⟨rfl, rfl, rfl⟩

lemma Ends.terminal {row row' : Row} (h : Ends row row') (ht : row.state.terminal = true) :
    row' = row := by
  rcases h with rfl | ⟨hlive, -⟩
  · rfl
  · rw [ht] at hlive
    cases hlive

/-- The records with the given identifiers are retired, some operations end, and recoveries are
pointed to no more. -/
structure Retires (m m' : Snapshot) (ids : List String) : Prop where
  records : m'.records = disable ids m.records
  blocked : Blocks m ids m'.blocked
  operations : ∀ id row', m'.operations.get? id = some row' →
    ∃ row, m.operations.get? id = some row ∧ Ends row row'
  keeps : ∀ id, (m.operations.get? id).isSome → (m'.operations.get? id).isSome
  size : m'.operations.size = m.operations.size
  unfinished : m'.unfinished ≤ m.unfinished
  bindings : m'.bindings = m.bindings
  recovery : ∀ subject p, m'.recovery.get? subject = some p → m.recovery.get? subject = some p
  pointers : m'.recovery.size ≤ m.recovery.size

lemma Blocks.subset {m : Snapshot} {ids blocked : List String} (h : Blocks m ids blocked) :
    m.blocked ⊆ blocked := fun v hv => (h.mem v).mpr (Or.inl hv)

lemma Blocks.digests {m : Snapshot} {ids blocked : List String} (h : Blocks m ids blocked) :
    ∀ v ∈ blocked, v ∈ m.blocked ∨ v ∈ m.digests := by
  intro v hv
  rcases (h.mem v).mp hv with hv | ⟨r, hr, -, rfl⟩
  · exact Or.inl hv
  · exact Or.inr (List.mem_map_of_mem hr)

end Lifecycle

namespace Snapshot

variable {m m' : Snapshot}

lemma length_tombstones_le (hd : m'.digests = m.digests)
    (hsup : ∀ v ∈ m'.blocked, v ∈ m.blocked ∨ v ∈ m.digests) :
    (m'.blocked ++ m'.digests).dedup.length ≤ (m.blocked ++ m.digests).dedup.length := by
  refine (List.subperm_of_subset (List.nodup_dedup _) fun v hv => ?_).length_le
  rw [List.mem_dedup, List.mem_append] at hv ⊢
  rcases hv with hv | hv
  · exact hsup v hv
  · exact Or.inr (hd ▸ hv)

lemma unblocked_sublist (hd : m'.digests = m.digests) (hsub : m.blocked ⊆ m'.blocked) :
    List.Sublist m'.unblocked m.unblocked := by
  unfold unblocked
  rw [hd]
  refine List.monotone_filter_right _ fun v hv => ?_
  simp only [decide_eq_true_eq] at hv ⊢
  exact fun h => hv (hsub h)

/-- One more tombstone frees one place of the reserve. -/
lemma length_unblocked_lt (hd : m'.digests = m.digests) (hsub : m.blocked ⊆ m'.blocked)
    {v : String} (hv : v ∈ m.digests) (hnew : v ∉ m.blocked) (hold : v ∈ m'.blocked) :
    m'.unblocked.length < m.unblocked.length := by
  have hs := unblocked_sublist hd hsub
  refine lt_of_le_of_ne hs.length_le fun he => ?_
  have hmem : v ∈ m.unblocked := by simp [unblocked, hv, hnew]
  rw [← hs.eq_of_length he] at hmem
  simp [unblocked, hold] at hmem

/-- The reserve covers retirement. -/
lemma Room.retire (hm : m.Room) (hd : m'.digests = m.digests) (hsub : m.blocked ⊆ m'.blocked)
    (hsup : ∀ v ∈ m'.blocked, v ∈ m.blocked ∨ v ∈ m.digests)
    (hsize : m'.operations.size ≤ m.operations.size) (hun : m'.unfinished ≤ m.unfinished) :
    m'.Room := by
  have hlen : m'.records.length = m.records.length := by
    simpa [digests] using congrArg List.length hd
  have h1 := (unblocked_sublist hd hsub).length_le
  have h2 := hm.reserve
  exact ⟨hlen ▸ hm.records, (length_tombstones_le hd hsup).trans hm.tombstones, by omega⟩

end Snapshot

namespace Lifecycle.Retires

variable {m m' : Snapshot} {ids : List String} (h : Retires m m' ids)

include h

lemma digests : m'.digests = m.digests := by
  unfold Snapshot.digests
  rw [h.records, map_verifier_disable]

lemma room (hm : m.Room) : m'.Room :=
  hm.retire h.digests h.blocked.subset h.blocked.digests h.size.le h.unfinished

lemma lifecycleValid (hm : m.Valid) : m'.LifecycleValid := by
  have hv := hm.lifecycleValid
  have hsub : ∀ v ∈ m'.blocked, v ∈ (m.blocked ++ m.digests).dedup := fun v hv => by
    rw [List.mem_dedup, List.mem_append]
    exact h.blocked.digests v hv
  refine ⟨?_, h.blocked.nodup, ?_, h.size ▸ hv.operations, h.bindings ▸ hv.bindings,
    h.pointers.trans hv.recovery, ?_, h.bindings ▸ hv.binding, ?_⟩
  · exact (List.subperm_of_subset h.blocked.nodup hsub).length_le.trans hm.room.tombstones
  · intro v hv'
    rcases h.blocked.digests v hv' with hv' | hv'
    · exact hv.hex v hv'
    · obtain ⟨r, -, rfl⟩ := List.mem_map.mp hv'
      exact r.verifier_hex
  · intro id row' hrow'
    obtain ⟨row, hrow, hends⟩ := h.operations id row' hrow'
    exact hends.validate (hv.row id row hrow)
  · intro subject p hp
    obtain ⟨h1, h2, op, hop, hs, hr, ha⟩ := hv.pointer subject p (h.recovery subject p hp)
    obtain ⟨op', hop'⟩ := Option.isSome_iff_exists.mp (h.keeps p.operationId (by rw [hop]; rfl))
    obtain ⟨op₀, hop₀, hends⟩ := h.operations _ _ hop'
    obtain rfl : op₀ = op := Option.some.inj (hop₀.symm.trans hop)
    obtain ⟨e1, e2, e3⟩ := hends.same
    exact ⟨h.bindings ▸ h1, h2, op', hop', e1.trans hs, e2.trans hr, e3.trans ha⟩

/-- A write that only retires passes the check, if the other namespaces do. -/
lemma check (hm : m.Valid) (howner : m'.owner = m.owner)
    (henrollment : validateEnrollment m'.enrollment = true)
    (hintegration : validateIntegration m'.integration = true)
    (hbound : validateIntegrations m'.agents m.records = true) :
    m'.check m.records = .ok () := by
  have hk := keeps_disable ids
  rw [Snapshot.check_ok_iff]
  refine ⟨⟨?_, ?_, howner ▸ hm.owner, henrollment, ?_, hintegration, ?_, ?_⟩, ?_⟩
  · rw [h.records]
    exact (ambiguousCredentials_keeps hk _).trans hm.credentials
  · rw [h.records]
    exact (ambiguousPrincipals_keeps hk _).trans hm.principals
  · exact Snapshot.validateLifecycle_iff.mpr (h.lifecycleValid hm)
  · rw [h.records]
    exact (validateIntegrations_keeps hk _ _).trans hbound
  · exact Snapshot.hasCapacity_iff.mpr (h.room hm.room)
  · rw [h.records]
    exact mutatesCredential_keeps hk _ hm.ids_nodup

end Lifecycle.Retires

/-! ### The writes that retire -/

namespace Lifecycle

variable {c : Ctx} {m : Snapshot}

lemma ends_sweptRow (c : Ctx) (m : Snapshot) (row : Row) : Ends row (sweptRow c m row) := by
  unfold sweptRow
  split
  · exact Or.inl rfl
  · next ht =>
    simp only [Bool.not_eq_true] at ht
    split
    · next ha => exact Or.inr ⟨ht, _, rfl, Or.inr (Or.inr (Or.inl ⟨rfl, ha⟩))⟩
    · split
      · exact Or.inr ⟨ht, _, rfl, Or.inl rfl⟩
      · exact Or.inl rfl

lemma retires_swept {blocked : List String} (hb : Blocks m (sweptIds c m) blocked) :
    Retires m (swept c m blocked) (sweptIds c m) := by
  refine ⟨rfl, hb, fun id row' h => ?_, fun id h => ?_, ?_, ?_, rfl, fun subject p h => ?_, ?_⟩
  · rw [swept_operations, Dict.get?_map_some] at h
    obtain ⟨row, hrow, rfl⟩ := h
    exact ⟨row, hrow, ends_sweptRow c m row⟩
  · rwa [swept_operations, Dict.get?_map, Option.isSome_map]
  · rw [swept_operations, Dict.size_map]
  · unfold Snapshot.unfinished
    rw [swept_operations]
    refine Dict.countP_map_le _ fun _ row h => ?_
    simp only [Bool.not_eq_true'] at h ⊢
    by_contra ht
    rw [(ends_sweptRow c m row).terminal (by simpa using ht)] at h
    exact ht h
  · rw [swept_recovery, livePointers, Dict.get?_filter_some] at h
    exact h.1
  · rw [swept_recovery, livePointers]
    exact Dict.size_filter_le _ _

/-- The sweep is never refused. -/
lemma swept_check (hm : m.Valid) {blocked : List String}
    (hb : Blocks m (sweptIds c m) blocked) : (swept c m blocked).check m.records = .ok () :=
  (retires_swept hb).check hm rfl (Enrollment.validate_invalidateApprovals hm _) hm.integration
    hm.bound

/-- What an acknowledgement of `row` writes. -/
def acked (m : Snapshot) (id : String) (row : Row) : Snapshot :=
  { (m.retired row.oldIds).putOperation id { row with state := .acknowledged } with
    enrollment := invalidateApprovals m row.oldIds }

lemma acked_operations (m : Snapshot) (id : String) (row : Row) :
    (acked m id row).operations = m.operations.set id { row with state := .acknowledged } :=
  (Snapshot.putOperation_operations _ _ _).trans (by rw [Snapshot.retired_operations])

lemma retires_acked {id : String} {row : Row} (hget : m.operations.get? id = some row)
    (hs : row.state = .delivered) : Retires m (acked m id row) row.oldIds := by
  refine ⟨rfl, m.retired_blocks row.oldIds, fun id' row' h => ?_, fun id' h => ?_, ?_, ?_,
    Lifecycle.stateOf_bindings m, fun subject p h => ?_, ?_⟩
  · rw [acked_operations, Dict.get?_set] at h
    split at h
    · next he =>
      cases h
      exact ⟨row, he ▸ hget, Or.inr ⟨by rw [hs]; rfl, _, rfl, by simp [hs]⟩⟩
    · exact ⟨row', h, Or.inl rfl⟩
  · rw [acked_operations, Dict.get?_set]
    split
    · rfl
    · exact h
  · rw [acked_operations]
    exact Dict.size_set_of_get? hget
  · have hc := Dict.countP_set_of_get? (fun row : Row => !row.state.terminal) hget
      (a := { row with state := .acknowledged })
    have h1 : ([row].countP fun row : Row => !row.state.terminal) = 1 := by simp [hs]; rfl
    unfold Snapshot.unfinished
    rw [acked_operations]
    have h2 := List.countP_le_length (p := fun row : Row => !row.state.terminal)
      (l := [{ row with state := .acknowledged }])
    simp only [List.length_singleton] at h2
    omega
  · rwa [show (acked m id row).recovery = m.recovery from Lifecycle.stateOf_recovery m] at h
  · rw [show (acked m id row).recovery = m.recovery from Lifecycle.stateOf_recovery m]

end Lifecycle

namespace Integration

variable {m m' : Snapshot} {ids : List String}

lemma retires_agentsSwept (h : AgentsSwept m m' ids) : Lifecycle.Retires m m' ids := by
  refine ⟨h.records, h.blocked, fun id row' hr => ⟨row', h.operations ▸ hr, Or.inl rfl⟩,
    fun id hr => h.operations ▸ hr, by rw [h.operations], ?_, h.bindings,
    fun subject p hp => h.recovery ▸ hp, by rw [h.recovery]⟩
  unfold Snapshot.unfinished
  rw [h.operations]

/-- The sweep of the integrations is never refused. -/
lemma agentsSwept_check (hm : m.Valid) (h : AgentsSwept m m' ids) :
    m'.check m.records = .ok () := by
  have hrow : ∀ id row', m'.agents.get? id = some row' → validateRow id row' = true ∧
      ∃ row, m.agents.get? id = some row ∧ row'.credentialId = row.credentialId ∧
        row'.agentId = row.agentId := by
    intro id row' hr
    obtain ⟨row, hget, he, hs⟩ := h.rows id row' hr
    have hv := hm.agent hget
    refine ⟨?_, row, hget, by rw [he], by rw [he]⟩
    rw [he]
    rcases hs with hs | ⟨-, hs, -⟩ | ⟨-, hs, -⟩
    · rw [hs]
      exact hv
    · simp only [validateRow, Bool.and_eq_true] at hv ⊢
      refine ⟨hv.1, ?_⟩
      revert hs
      cases row'.state <;> simp
    · rw [hs]
      simp only [validateRow, Bool.and_eq_true] at hv ⊢
      exact ⟨hv.1, rfl⟩
  refine (retires_agentsSwept h).check hm h.owner (h.enrollment ▸ hm.enrollment) ?_ ?_
  · have hv := hm.integration
    have hsize := h.size
    unfold Snapshot.agents at hsize hrow
    cases hi' : m'.integration with
    | none => rfl
    | some s' =>
      rw [hi'] at hsize hrow
      simp only [validateIntegration, Bool.and_eq_true, decide_eq_true_eq, List.all_eq_true]
      refine ⟨?_, fun e he => (hrow e.1 e.2 (Dict.mem_entries.mp he)).1⟩
      cases hi : m.integration with
      | none =>
        rw [hi] at hsize
        exact (Nat.le_of_eq hsize).trans (Nat.zero_le _)
      | some s =>
        rw [hi] at hsize hv
        simp only [validateIntegration, Bool.and_eq_true, decide_eq_true_eq] at hv
        exact (Nat.le_of_eq hsize).trans hv.1
  · have hb := hm.bound
    simp only [validateIntegrations, List.all_eq_true] at hb ⊢
    intro row' hr
    obtain ⟨id, hr⟩ := Dict.mem_values.mp hr
    obtain ⟨-, row, hget, h1, h2⟩ := hrow id row' hr
    rw [h1, h2]
    exact hb row (Dict.get?_mem_values hget)

end Integration

end Vauxr
