import Vauxr.Change

/-!
Enrollment rows: what their status says, and that new and advanced rows pass their own check.
-/

namespace Vauxr

open Lib

namespace Enrollment

variable {c : Ctx} {m : Snapshot} {row : Row}

/-- A row whose status is open is what its status says, under the authority it was made under. -/
lemma status_open (h : (status c m row).terminal = false) :
    row.state = status c m row ∧ c.now < row.expiresAt ∧
      m.ownerGeneration = some row.ownerGeneration ∧ row.origin = c.origin.1 ∧
      (∀ p, row.initiator = some p → actorCurrent c m p = true) ∧
      (∀ p, row.approver = some p → actorCurrent c m p = true) := by
  unfold status at h ⊢
  split at h
  · next ht => rw [ht] at h; cases h
  · split at h
    · cases h
    · next hexp =>
      split at h
      · cases h
      · next hstale =>
        simp only [Bool.or_eq_true, not_or, decide_eq_true_eq, not_not, bne_iff_ne, ne_eq,
          Option.any_eq_true, not_exists, not_and, Bool.not_eq_true', Bool.not_eq_false] at hstale
        obtain ⟨⟨⟨hg, ho⟩, hi⟩, ha⟩ := hstale
        refine ⟨?_, not_le.mp hexp, hg.symm, ho, hi, ha⟩
        rw [if_neg ‹_›, if_neg hexp, if_neg]
        simp only [Bool.or_eq_true, not_or, decide_eq_true_eq, not_not, bne_iff_ne, ne_eq,
          Option.any_eq_true, not_exists, not_and, Bool.not_eq_true', Bool.not_eq_false]
        exact ⟨⟨⟨hg, ho⟩, hi⟩, ha⟩

lemma lookup_eq_ok {requestId : Json} (h : lookup c m requestId = .ok row) :
    ∃ id, requestId.str? = some id ∧ hexString id 32 = true ∧ m.requests.get? id = some row := by
  simp only [lookup, Request.requireHex, bind_eq_ok, demand_eq_ok, stateOf_requests] at h
  obtain ⟨id, hid, hget⟩ := h
  have hh := Request.hexField_eq_some hid
  simp only [Request.hexField, Option.filter_eq_some_iff] at hid
  exact ⟨id, hid.1, hh, hget⟩

/-! ### Checks -/

lemma stateOf_eq {e : State} (h : m.enrollment = some e) : stateOf c m = e := by
  simp [stateOf, h]

/-- Rewriting a row with a valid one keeps the namespace valid. -/
lemma validate_put (hm : m.Valid) (row' : Row) (h : m.requests.get? row.requestId = some row)
    (hid : row'.requestId = row.requestId)
    (hv : ∀ serverId, validateRow serverId row.requestId row = true →
      validateRow serverId row.requestId row' = true) :
    validateEnrollment (some ((stateOf c m).put row'.requestId row')) = true := by
  obtain ⟨e, he, hget, hrow⟩ := hm.request h
  have hval := hm.enrollment
  rw [he] at hval
  rw [stateOf_eq he, hid]
  simp only [validateEnrollment, Bool.and_eq_true, List.all_eq_true, decide_eq_true_eq] at hval ⊢
  obtain ⟨⟨⟨⟨h1, h2⟩, h3⟩, h4⟩, h5⟩ := hval
  refine ⟨⟨⟨⟨h1, h2⟩, h3⟩, ?_⟩, ?_⟩
  · have hs : (e.put row.requestId row').requests.size = e.requests.size :=
      Dict.size_set_of_get? hget
    omega
  · rintro ⟨k, r⟩ hkr
    have hk : (e.requests.set row.requestId row').get? k = some r := Dict.mem_entries.mp hkr
    rw [Dict.get?_set] at hk
    split at hk
    · next heq =>
      cases hk
      subst heq
      exact hv _ hrow
    · exact h5 (k, r) (Dict.mem_entries.mpr hk)

lemma validate_consumed {serverId key : String} (ha : row.state = .approved)
    (h : validateRow serverId key row = true) :
    validateRow serverId key { row with state := .consumed } = true := by
  have hrow : { row with state := Status.approved } = row := by rw [← ha]
  have hsame : validateRow serverId key { row with state := .consumed } =
      validateRow serverId key { row with state := .approved } := rfl
  rw [hsame, hrow]
  exact h

lemma isAlnum_of_digest {x : Char} {l : List UInt8} (h : x ∈ (c.digest l).toList) :
    isAlnum x = true := by
  have hh := c.digest_hex l
  simp only [hexString, Bool.and_eq_true, List.all_eq_true] at hh
  exact isHex_isAlnum (hh.2 x h)

lemma derivedId_valid (c : Ctx) (publicKey : String) : idString (derivedId c publicKey) = true := by
  have hlen : (c.digest (fromHex publicKey)).toList.length = 64 := by
    have hh := c.digest_hex (fromHex publicKey)
    simp only [hexString, Bool.and_eq_true, beq_iff_eq] at hh
    exact hh.1
  unfold idString headThen derivedId
  rw [String.toList_append, String.toList_ofList, String.toList_ofList]
  simp only [List.cons_append, List.nil_append, Bool.and_eq_true, List.all_eq_true,
    decide_eq_true_eq]
  refine ⟨⟨by decide, ?_⟩, ?_⟩
  · intro x hx
    simp only [List.mem_cons] at hx
    rcases hx with rfl | rfl | rfl | hx
    · decide
    · decide
    · decide
    · rw [isAlnum_of_digest (List.mem_of_mem_take hx)]
      rfl
  · simp only [List.length_cons, List.length_take, hlen]
    omega

lemma requestedIds_valid (hm : m.Valid) {publicKey : String} {kind : Kind} {id : String}
    (h : id ∈ requestedIds m publicKey kind) : idString id = true := by
  simp only [requestedIds, List.mem_map, List.mem_filter, Dict.mem_values] at h
  obtain ⟨row, ⟨⟨k, hk⟩, -⟩, rfl⟩ := h
  obtain ⟨e, -, -, hv⟩ := hm.request hk
  simp only [validateRow, Bool.and_eq_true] at hv
  tauto

lemma mem_boundIds {publicKey : String} {kind : Kind} {id : String} :
    id ∈ boundIds m publicKey kind ↔ m.bindings.get? id = some ⟨publicKey, kind⟩ := by
  simp [boundIds, Dict.mem_entries]

lemma deviceId_valid (hm : m.Valid) {publicKey : String} {kind : Kind} {id : String}
    (h : deviceId c m publicKey kind = .ok id) : idString id = true := by
  simp only [deviceId, bind_eq_ok, refuse_eq_ok, exists_const] at h
  obtain ⟨-, h⟩ := h
  cases h
  cases hl : boundIds m publicKey kind ++ requestedIds m publicKey kind with
  | nil => exact derivedId_valid c publicKey
  | cons x l =>
    have hx : x ∈ boundIds m publicKey kind ++ requestedIds m publicKey kind := by simp [hl]
    rcases List.mem_append.mp hx with hx | hx
    · exact (hm.binding (mem_boundIds.mp hx)).2
    · exact requestedIds_valid hm hx

lemma newRequest_eq_ok {serverId : String} {requests : Dict String Row} {kind : Kind}
    {publicKey name : String} (h : newRequest c m serverId requests kind publicKey name = .ok row) :
    m.ownerGeneration = some row.ownerGeneration ∧
      deviceId c m publicKey kind = .ok row.deviceId ∧ unowned m row = .ok () ∧
      (∀ id other, requests.get? id = some other → other.deviceId = row.deviceId →
        (status c m other).terminal = true) ∧
      row = { requestId := c.draws.requestId.1, serverId, origin := c.origin.1, kind, publicKey
              deviceId := row.deviceId, nonce := c.draws.nonce.1, expiresAt := ⌊c.now⌋ + ttl
              ownerGeneration := row.ownerGeneration, displayName := name, state := .challenge
              attempts := 0, codeHash := "", initiator := none, approver := none } := by
  simp only [newRequest, bind_eq_ok, demand_eq_ok, refuse_eq_ok, exists_const] at h
  obtain ⟨g, hg, id, hid, ⟨⟩, hun, hconf, h⟩ := h
  cases h
  refine ⟨hg, hid, hun, fun k other hk hdev => ?_, rfl⟩
  rw [List.any_eq_false] at hconf
  have := hconf other (Dict.get?_mem_values hk)
  simpa [hdev] using this

lemma ownerGeneration_hex (hm : m.Valid) {g : String} (h : m.ownerGeneration = some g) :
    hexString g 32 = true := by
  have hv := hm.owner
  unfold Snapshot.ownerGeneration at h
  cases ho : m.owner with
  | none => simp [ho] at h
  | some o =>
    rw [ho] at hv h
    simp only [Option.map_some, Option.some.injEq] at h
    simp only [validateOwnerState, Bool.and_eq_true] at hv
    subst h
    tauto

lemma newRequest_valid (hm : m.Valid) {serverId : String} {requests : Dict String Row}
    {kind : Kind} {publicKey name : String}
    (h : newRequest c m serverId requests kind publicKey name = .ok row)
    (hkey : hexString publicKey 64 = true) (hname : displayName name = true)
    (hlen : c.origin.1.length ≤ 256) (hascii : isAscii c.origin.1 = true) :
    validateRow serverId row.requestId row = true := by
  obtain ⟨hg, hid, -, -, hrow⟩ := newRequest_eq_ok h
  have hdev := deviceId_valid hm hid
  have hgen := ownerGeneration_hex hm hg
  have hexp : timestamp ((⌊c.now⌋ + ttl : ℤ) : ℚ) = true := by
    have h0 : 0 ≤ ⌊c.now⌋ := Int.floor_nonneg.mpr c.now_nonneg
    have h1 : (0 : ℤ) ≤ ⌊c.now⌋ + ttl := by unfold ttl; omega
    exact decide_eq_true (by exact_mod_cast h1)
  rw [hrow]
  simp only [validateRow, Bool.and_eq_true]
  and_intros
  all_goals first
    | assumption
    | exact c.draws.requestId.2
    | exact c.draws.nonce.2
    | exact c.origin.2
    | exact decide_eq_true hlen
    | exact beq_self_eq_true _
    | rfl

/-- The namespace a server without one starts from is valid too. -/
lemma stateOf_valid (c : Ctx) (hm : m.Valid) :
    validateEnrollment (some (stateOf c m)) = true := by
  have hval := hm.enrollment
  unfold stateOf
  cases he : m.enrollment with
  | some e =>
    rw [he] at hval
    exact hval
  | none =>
    have h := c.draws.serverId.2
    simp only [validateEnrollment, Option.getD_none, Bool.and_eq_true, List.all_eq_true]
    and_intros
    all_goals first
      | exact h
      | rfl
      | simp [Dict.empty]

lemma validate_request (hm : m.Valid) {row : Row}
    (hroom : (unexpired c m).size < maxRequests)
    (hv : validateRow (stateOf c m).serverId row.requestId row = true) :
    validateEnrollment (some { stateOf c m with
      requests := (unexpired c m).set row.requestId row }) = true := by
  have hval := stateOf_valid c hm
  simp only [validateEnrollment, Bool.and_eq_true, List.all_eq_true, decide_eq_true_eq] at hval ⊢
  obtain ⟨⟨⟨⟨h1, h2⟩, h3⟩, h4⟩, h5⟩ := hval
  refine ⟨⟨⟨⟨h1, h2⟩, h3⟩, ?_⟩, ?_⟩
  · have hs := Dict.size_set_le (unexpired c m) row.requestId row
    omega
  · rintro ⟨k, r⟩ hkr
    have hk := Dict.mem_entries.mp hkr
    rw [Dict.get?_set] at hk
    split at hk
    · next heq =>
      cases hk
      subst heq
      exact hv
    · rw [unexpired, Dict.get?_filter_some, ← stateOf_requests c m] at hk
      exact h5 (k, r) (Dict.mem_entries.mpr hk.1)

end Enrollment

end Vauxr
