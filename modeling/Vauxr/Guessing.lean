import Mathlib
import Vauxr.AgentRows

/-!
How often a code or a signature can be guessed.

Every evaluation that fails is charged to the row it was made against, and no change of the
services ever takes a charge back: so five of them fail a request for good.
-/

namespace Vauxr

open Lib

/-! ### Enrollment rows over time -/

namespace Enrollment

/-- What can have become of a row: charges add up, a row that ended stays as it ended, and a code
that was set stays. -/
structure Later (row row' : Row) : Prop where
  attempts : row.attempts ≤ row'.attempts
  ended : row.state.terminal = true → row'.state = row.state
  shown : row.state ≠ .challenge → row'.state ≠ .challenge ∧ row'.codeHash = row.codeHash
  spent : row'.attempts = 5 → row.attempts = 5 ∨ row'.state = .failed

namespace Later

variable {row row' row'' : Row}

lemma refl (row : Row) : Later row row :=
  ⟨le_rfl, fun _ => rfl, fun h => ⟨h, rfl⟩, fun h => Or.inl h⟩

lemma trans (h : Later row row') (h' : Later row' row'') : Later row row'' where
  attempts := h.attempts.trans h'.attempts
  ended ht := by
    have he := h.ended ht
    rw [← he] at ht ⊢
    exact h'.ended ht
  shown hs := by
    obtain ⟨h1, h2⟩ := h.shown hs
    obtain ⟨h3, h4⟩ := h'.shown h1
    exact ⟨h3, h4.trans h2⟩
  spent h5 := by
    rcases h'.spent h5 with h5 | hf
    · rcases h.spent h5 with h5 | hf
      · exact Or.inl h5
      · right
        rw [h'.ended (by rw [hf]; rfl)]
        exact hf
    · exact Or.inr hf

/-- A live row that moves on without a charge and with its code, if it has one. -/
lemma of_live (ht : row.state.terminal = false) (ha : row'.attempts = row.attempts)
    (hs : row.state ≠ .challenge → row'.state ≠ .challenge ∧ row'.codeHash = row.codeHash) :
    Later row row' where
  attempts := ha.ge
  ended h := by rw [ht] at h; cases h
  shown := hs
  spent h := Or.inl (ha ▸ h)

end Later

/-- A row that is past its challenge has a code or the sentinel in its place. -/
lemma code_ne_empty {serverId key : String} {row : Row}
    (hv : validateRow serverId key row = true) (hs : row.state ≠ .challenge) :
    row.codeHash ≠ "" := by
  have hcode : (decide (row.state = .challenge) || hexString row.codeHash 64) = true := by
    simp only [validateRow, Bool.and_eq_true] at hv
    tauto
  rw [decide_eq_false hs, Bool.false_or] at hcode
  intro he
  rw [he] at hcode
  exact absurd hcode (by decide)

lemma later_close {serverId key : String} {row : Row} {state : Status}
    (hv : validateRow serverId key row = true) (ht : row.state.terminal = false)
    (hstate : state.terminal = true) : Later row (row.close state) := by
  refine Later.of_live ht rfl fun hs => ⟨?_, ?_⟩
  · show state ≠ .challenge
    rintro rfl
    cases hstate
  · show (if row.codeHash = "" then zeroDigest else row.codeHash) = row.codeHash
    rw [if_neg (code_ne_empty hv hs)]

lemma later_charged {serverId key : String} {row : Row}
    (hv : validateRow serverId key row = true) (ht : row.state.terminal = false) :
    Later row (charged row) := by
  have h5 : row.attempts ≤ 5 := by
    simp only [validateRow, Bool.and_eq_true, decide_eq_true_eq] at hv
    tauto
  have hattempts : (charged row).attempts = min 5 (row.attempts + 1) := by
    unfold charged
    dsimp only
    split <;> rfl
  have hended : row.state.terminal = true → (charged row).state = row.state := by
    intro h
    rw [ht] at h
    cases h
  by_cases hlast : min 5 (row.attempts + 1) = 5
  · have hcharged : charged row =
        ({ row with attempts := min 5 (row.attempts + 1) } : Row).close .failed := by
      unfold charged
      rw [if_pos hlast]
    refine ⟨by omega, hended, fun hs => ?_, fun _ => Or.inr ?_⟩
    · rw [hcharged]
      refine ⟨by simp [Row.close], ?_⟩
      show (if row.codeHash = "" then zeroDigest else row.codeHash) = row.codeHash
      rw [if_neg (code_ne_empty hv hs)]
    · rw [hcharged]
      rfl
  · have hcharged : charged row = { row with attempts := min 5 (row.attempts + 1) } := by
      unfold charged
      rw [if_neg hlast]
    refine ⟨by omega, hended, fun hs => ?_, fun h => ?_⟩
    · rw [hcharged]
      exact ⟨hs, rfl⟩
    · exact absurd (hattempts.symm.trans h) hlast

lemma live_of_status {c : Ctx} {m : Snapshot} {row : Row}
    (h : (status c m row).terminal = false) : row.state.terminal = false := by
  rw [(status_open h).1]
  exact h

/-- The call asks for an enrollment that would be given the identifier `r`. -/
def Draws (c : Ctx) (call : Vauxr.Call) (r : String) : Prop :=
  c.draws.requestId.1 = r ∧
    ∃ kind key name resolve, call.isEnrollment (.request kind key name) resolve

/-- The row of `r` is a later form of one that was there, or new under the identifier drawn. -/
def Ages (c : Ctx) (call : Vauxr.Call) (r : String) (m m' : Snapshot) : Prop :=
  ∀ row', m'.requests.get? r = some row' →
    (∃ row, m.requests.get? r = some row ∧ Later row row') ∨
      (Draws c call r ∧ row'.attempts = 0 ∧ row'.state = .challenge)

section Ages

variable {c : Ctx} {call : Vauxr.Call} {m m' : Snapshot} {r : String}

lemma Ages.same (h : m'.requests = m.requests) : Ages c call r m m' := by
  intro row' hrow
  rw [h] at hrow
  exact Or.inl ⟨row', hrow, .refl row'⟩

/-- Rows are rewritten one by one. -/
lemma Ages.map {f : Row → Row} (h : m'.requests.get? r = (m.requests.get? r).map f)
    (hf : ∀ row, m.requests.get? r = some row → Later row (f row)) : Ages c call r m m' := by
  intro row' hrow
  rw [h, Option.map_eq_some_iff] at hrow
  obtain ⟨row, hget, rfl⟩ := hrow
  exact Or.inl ⟨row, hget, hf row hget⟩

/-- One row is rewritten. -/
lemma Ages.set {row new : Row} (hget : m.requests.get? row.requestId = some row)
    (h : m'.requests = m.requests.set row.requestId new) (hl : Later row new) :
    Ages c call r m m' := by
  intro row' hrow
  rw [h, Dict.get?_set] at hrow
  split at hrow
  · next he =>
    cases hrow
    subst he
    exact Or.inl ⟨row, hget, hl⟩
  · exact Or.inl ⟨row', hrow, .refl row'⟩

/-- Approvals by retired credentials are taken back. -/
lemma later_invalidated (hm : m.Valid) {row : Row} (hget : m.requests.get? r = some row)
    (p : Prop) [Decidable p] (hp : p → row.state.terminal = false) :
    Later row (if p then row.close .stale else row) := by
  obtain ⟨e, -, -, hv⟩ := hm.request hget
  split
  · next h => exact later_close hv (hp h) rfl
  · exact .refl row

/-- Approvals by retired credentials are taken back, row by row. -/
def unapproved (ids : List String) (row : Row) : Row :=
  if !row.state.terminal && Lifecycle.approvedBy ids row then row.close .stale else row

/-- The enrollments of a device end. -/
def abandoned (subject : String) (row : Row) : Row :=
  if row.deviceId = subject && !row.state.terminal then row.close .stale else row

lemma later_unapproved (hm : m.Valid) (ids : List String) {row : Row}
    (hget : m.requests.get? r = some row) : Later row (unapproved ids row) := by
  refine later_invalidated hm hget _ fun hp => ?_
  simp only [Bool.and_eq_true, Bool.not_eq_true'] at hp
  exact hp.1

lemma later_abandoned (hm : m.Valid) (ids : List String) (subject : String) {row : Row}
    (hget : m.requests.get? r = some row) :
    Later row (abandoned subject (unapproved ids row)) := by
  by_cases hp : (!row.state.terminal && Lifecycle.approvedBy ids row) = true
  · have hclosed : abandoned subject (unapproved ids row) = row.close .stale := by
      unfold unapproved
      rw [if_pos hp]
      -- a row that has just been closed is not closed again
      exact if_neg (by simp [Row.close, Status.terminal])
    obtain ⟨e, -, -, hv⟩ := hm.request hget
    simp only [Bool.and_eq_true, Bool.not_eq_true'] at hp
    rw [hclosed]
    exact later_close hv hp.1 rfl
  · have hkept : unapproved ids row = row := if_neg hp
    rw [hkept]
    refine later_invalidated hm hget _ fun hp => ?_
    simp only [Bool.and_eq_true, Bool.not_eq_true'] at hp
    exact hp.2

lemma ages_invalidateApprovals (hm : m.Valid) (ids : List String) (h : m'.enrollment =
    Lifecycle.invalidateApprovals m ids) : Ages c call r m m' := by
  refine Ages.map (f := unapproved ids) ?_ fun row hget => later_unapproved hm ids hget
  unfold Snapshot.requests
  rw [h, Lifecycle.invalidateApprovals]
  cases m.enrollment with
  | none => rfl
  | some e =>
    show (e.requests.map fun _ => unapproved ids).get? r = _
    rw [Dict.get?_map]
    rfl

lemma ages_invalidateEnrollments (hm : m.Valid) (ids : List String) (subject : String)
    (h : m'.enrollment = Lifecycle.invalidateEnrollments m ids subject) : Ages c call r m m' := by
  refine Ages.map (f := fun row => abandoned subject (unapproved ids row)) ?_
    fun row hget => later_abandoned hm ids subject hget
  unfold Snapshot.requests
  rw [h, Lifecycle.invalidateEnrollments, Lifecycle.invalidateApprovals]
  cases m.enrollment with
  | none => rfl
  | some e =>
    show ((e.requests.map fun _ => unapproved ids).map fun _ => abandoned subject).get? r = _
    rw [Dict.get?_map, Dict.get?_map, Option.map_map]
    rfl

/-- **One change**, in what becomes of an enrollment row. -/
theorem ages_of_change (h : Change c call m m') (hm : m.Valid) (r : String) : Ages c call r m m' := by
  have hopen : ∀ {row : Row}, (status c m row).terminal = false → row.state.terminal = false :=
    live_of_status
  have hvalid : ∀ {row : Row}, m.requests.get? row.requestId = some row →
      ∃ serverId, validateRow serverId row.requestId row = true := by
    intro row hget
    obtain ⟨e, -, -, hv⟩ := hm.request hget
    exact ⟨_, hv⟩
  cases h with
  | owner | poll | deliver | rotate | bind | agentCode | agentApprove | agentClose
  | agentRetire | agentDeliver | agentComplete => exact Ages.same rfl
  | sweep blocked hb => exact ages_invalidateApprovals hm _ rfl
  | ack p id saved row => exact ages_invalidateApprovals hm row.oldIds rfl
  | revoke p id role subject row => exact ages_invalidateEnrollments hm row.oldIds row.subject rfl
  | recover p id role subject row =>
    exact ages_invalidateEnrollments hm row.oldIds row.subject rfl
  | attempt attempts => exact Ages.same (stateOf_requests c m)
  | agentsSweep m' ids hs =>
    refine Ages.same ?_
    unfold Snapshot.requests
    rw [hs.enrollment]
  | agentRequest client terms row => exact Ages.same (stateOf_requests c m)
  | mark =>
    have hmap : (m.requests.map fun _ => markedRow c m).get? r =
        (m.requests.get? r).map (markedRow c m) := by rw [Dict.get?_map]
    refine Ages.map (f := markedRow c m) hmap fun row hget => ?_
    refine later_invalidated hm hget _ fun hp => ?_
    simp only [Bool.and_eq_true, Bool.not_eq_true'] at hp
    exact hp.1
  | fail row hget ht =>
    obtain ⟨serverId, hv⟩ := hvalid hget
    have hid : (charged row).requestId = row.requestId := by
      unfold charged
      dsimp only
      split <;> rfl
    refine Ages.set hget ?_ (later_charged hv (hopen ht))
    rw [Snapshot.putRequest_requests, hid]
  | request kindField keyField nameField resolve row life hcall hset h1 h2 h3 h4 h5 h6 h7 hnew =>
    obtain ⟨-, -, -, -, hrow⟩ := newRequest_eq_ok hnew
    intro row' hget
    have hget : ((unexpired c m).set row.requestId row).get? r = some row' := hget
    rw [Dict.get?_set] at hget
    split at hget
    · next he =>
      cases hget
      rw [hrow] at he ⊢
      exact Or.inr ⟨⟨he, kindField, keyField, nameField, resolve, hcall⟩, rfl, rfl⟩
    · rw [unexpired, Dict.get?_filter_some] at hget
      exact Or.inl ⟨row', hget.1, .refl row'⟩
  | prove requestId signature resolve row hcall hid hget hsig hs =>
    have hlive : (status c m row).terminal = false := by rw [hs]; rfl
    have hstate : row.state = .challenge := (status_open hlive).1.trans hs
    refine Ages.set hget (Snapshot.putRequest_requests c m _) ?_
    exact Later.of_live (hopen hlive) rfl fun hn => absurd hstate hn
  | confirm action requestId code resolve p row hcall hid hget hp hs hcode =>
    have hlive : (status c m row).terminal = false := by rw [hs]; cases action <;> rfl
    have hkeep : (row.confirm p action).requestId = row.requestId ∧
        (row.confirm p action).attempts = row.attempts ∧
        (row.confirm p action).state ≠ .challenge ∧
        (row.confirm p action).codeHash = row.codeHash := by
      cases action <;> exact ⟨rfl, rfl, by simp [Row.confirm], rfl⟩
    obtain ⟨k1, k2, k3, k4⟩ := hkeep
    refine Ages.set hget ?_ (Later.of_live (hopen hlive) k2 fun _ => ⟨k3, k4⟩)
    rw [Snapshot.putRequest_requests, k1]
  | redeem requestId signature resolve row credential life hcall hset hid hget hsig hs =>
    have hlive : (status c m row).terminal = false := by rw [hs]; rfl
    refine Ages.set hget (Snapshot.putRequest_requests c m _) ?_
    exact Later.of_live (hopen hlive) rfl fun _ => ⟨by simp, rfl⟩
  | close row state hget ht hs =>
    obtain ⟨serverId, hv⟩ := hvalid hget
    refine Ages.set hget (Snapshot.putRequest_requests c m _) (later_close hv (hopen ht) ?_)
    rcases hs with rfl | rfl <;> rfl

end Ages

/-- Whatever has been charged five times has failed. -/
def Spent (m : Snapshot) : Prop :=
  ∀ r row, m.requests.get? r = some row → row.attempts = 5 → row.state = .failed

lemma Spent.stable : Stable Spent := by
  intro c call m m' h hm r row' hrow h5
  rcases ages_of_change h.change h.before r row' hrow with ⟨row, hget, hl⟩ | ⟨-, h0, -⟩
  · rcases hl.spent h5 with h5 | hf
    · have hf := hm r row hget h5
      rw [hl.ended (by rw [hf]; rfl)]
      exact hf
    · exact hf
  · omega

/-- The rows of `r` while no new request is given its identifier. -/
def Keeps (r : String) (m m' : Snapshot) : Prop :=
  ∀ row', m'.requests.get? r = some row' → ∃ row, m.requests.get? r = some row ∧ Later row row'

lemma Keeps.refl (r : String) (m : Snapshot) : Keeps r m m := fun row h => ⟨row, h, .refl row⟩

lemma Keeps.trans {r : String} {m m' m'' : Snapshot} (h : Keeps r m m') (h' : Keeps r m' m'') :
    Keeps r m m'' := by
  intro row'' hrow
  obtain ⟨row', hrow', hl'⟩ := h' row'' hrow
  obtain ⟨row, hget, hl⟩ := h row' hrow'
  exact ⟨row, hget, hl.trans hl'⟩

lemma Ages.keeps {c : Ctx} {call : Vauxr.Call} {r : String} {m m' : Snapshot}
    (h : Ages c call r m m') (hr : ¬Draws c call r) : Keeps r m m' := by
  intro row' hrow
  rcases h row' hrow with h | ⟨hd, -⟩
  · exact h
  · exact absurd hd hr

end Enrollment

/-! ### Maintenance as commits -/

section Maintenance

variable {c : Ctx} {call : Call} {m : Snapshot}

lemma Lifecycle.applied_sweep {call : Vauxr.Call} (hm : m.Valid) :
    applied (sweepBody c) m = m ∨ Commit c call m (applied (sweepBody c) m) := by
  unfold applied
  rcases sweepBody_spec c hm with ⟨he, -⟩ | ⟨blocked, write, hb, he, hnext⟩
  · rw [he]
    exact Or.inl rfl
  · rw [he]
    dsimp only
    rw [hnext]
    exact Or.inr ⟨.sweep blocked hb, hm, ((Snapshot.check_ok_iff _ _).mp (swept_check hm hb)).1⟩

lemma Enrollment.applied_mark {call : Vauxr.Call} (hm : m.Valid) :
    applied (markBody c) m = m ∨ Commit c call m (applied (markBody c) m) := by
  unfold applied
  rcases markBody_eq c m with he | he
  · rw [he]
    exact Or.inl rfl
  · rw [he]
    have hcheck := check_enrollment hm (validate_marked c hm)
    exact Or.inr ⟨.mark, hm, ((Snapshot.check_ok_iff _ _).mp hcheck).1⟩

lemma Integration.applied_sweep (hm : m.Valid) :
    applied (sweepBody c) m = m ∨ ∃ ids, AgentsSwept m (applied (sweepBody c) m) ids := by
  obtain ⟨acc, ids, hs, hbody⟩ := sweepBody_eq c hm
  unfold applied
  rw [hbody]
  cases acc.changed with
  | true => exact Or.inr ⟨ids, hs⟩
  | false => exact Or.inl rfl

lemma AgentsSwept.commit {m' : Snapshot} {ids : List String} (hm : m.Valid)
    (h : AgentsSwept m m' ids) : Commit c call m m' :=
  ⟨.agentsSweep m' ids h, hm,
    ((Snapshot.check_ok_iff _ _).mp (Integration.agentsSwept_check hm h)).1⟩

lemma commits_valid {m' : Snapshot} (hm : m.Valid)
    (h : Relation.ReflTransGen (Commit c call) m m') : m'.Valid := by
  induction h with
  | refl => exact hm
  | tail _ h _ => exact h.after

/-- The maintenance of a request is a sequence of commits. -/
lemma maintained_commits (hm : m.Valid) :
    Relation.ReflTransGen (Commit c call) m (maintained c call m) := by
  have hsweep : Relation.ReflTransGen (Commit c call) m (applied (Lifecycle.sweepBody c) m) := by
    have hor : _ ∨ Commit c call m (applied (Lifecycle.sweepBody c) m) :=
      Lifecycle.applied_sweep hm
    rcases hor with h | h
    · rw [h]
    · exact .single h
  have hmark : ∀ {m : Snapshot}, m.Valid →
      Relation.ReflTransGen (Commit c call) m (applied (Enrollment.markBody c) m) := by
    intro m hm
    have hor : _ ∨ Commit c call m (applied (Enrollment.markBody c) m) :=
      Enrollment.applied_mark hm
    rcases hor with h | h
    · rw [h]
    · exact .single h
  have hagents : Relation.ReflTransGen (Commit c call) m
      (applied (Integration.sweepBody c) m) := by
    rcases Integration.applied_sweep (c := c) hm with h | ⟨ids, h⟩
    · rw [h]
    · exact .single (h.commit hm)
  unfold maintained
  split
  · exact hsweep.trans (hmark (commits_valid hm hsweep))
  · exact hsweep
  · exact hagents
  · exact .refl

end Maintenance

namespace Enrollment

variable {c : Ctx} {m : Snapshot} {r : String}

lemma Keeps.of_commits {call : Vauxr.Call} {m' : Snapshot}
    (h : Relation.ReflTransGen (Commit c call) m m') (hr : ¬Draws c call r) :
    Keeps r m m' := by
  induction h with
  | refl => exact Keeps.refl r m
  | tail _ hc ih => exact ih.trans ((ages_of_change hc.change hc.before r).keeps hr)

lemma Spent.of_commits {call : Vauxr.Call} {m' : Snapshot} (hm : Spent m)
    (h : Relation.ReflTransGen (Commit c call) m m') : Spent m' := by
  induction h with
  | refl => exact hm
  | tail _ hc ih => exact Spent.stable hc ih

/-! ### Evaluations that fail -/

/-- The live request against which a body evaluates a wrong signature or a wrong code. -/
def missed (c : Ctx) (m : Snapshot) (resolve : Resolve) : Call → Option String
  | .proof action requestId signature =>
    match lookup c m requestId with
    | .ok row =>
      if !(status c m row).terminal && !signed c row action.action signature then
        some row.requestId
      else none
    | .error _ => none
  | .confirm action requestId code =>
    match lookup c m requestId with
    | .ok row =>
      if (controller c m resolve row.kind).isOk && status c m row = action.expected &&
          !codeMatches c row code then
        some row.requestId
      else none
    | .error _ => none
  | .request .. | .list | .deny _ => none

lemma failure_eq {α : Type} {row : Row} (ht : (status c m row).terminal = false) :
    (failure c m row : Except Error (Final α)) =
      .ok (.save m (.enrollment ((stateOf c m).put (charged row).requestId (charged row)) none)
        (.error (.enrollment "invalid_proof"))) := by
  unfold failure
  rw [if_neg (by rw [ht]; simp)]
  rfl

/-- Such an evaluation ends in a charge. -/
lemma body_missed (hm : m.Valid) {k : Call} {resolve : Resolve}
    (h : missed c m resolve k = some r) :
    ∃ row, m.requests.get? r = some row ∧ (status c m row).terminal = false ∧
      body c k resolve m = failure c m row := by
  have hlookup : ∀ {requestId : Json} {row : Row}, lookup c m requestId = .ok row →
      m.requests.get? row.requestId = some row := by
    intro requestId row hl
    obtain ⟨id, -, -, hget⟩ := lookup_eq_ok hl
    obtain rfl := hm.request_id hget
    exact hget
  cases k with
  | request | list | deny => cases h
  | proof action requestId signature =>
    simp only [missed] at h
    split at h
    · next row hl =>
      split at h
      · next hfails =>
        cases h
        simp only [Bool.and_eq_true, Bool.not_eq_true'] at hfails
        refine ⟨row, hlookup hl, hfails.1, ?_⟩
        show proofBody c m action requestId signature = _
        unfold proofBody
        rw [hl]
        show (do refuse (decide (action ≠ Proof.status) && (status c m row).terminal) _; _) = _
        rw [hfails.1, hfails.2, Bool.and_false]
        rfl
      · cases h
    · cases h
  | confirm action requestId code =>
    simp only [missed] at h
    split at h
    · next row hl =>
      split at h
      · next hfails =>
        cases h
        simp only [Bool.and_eq_true, Bool.not_eq_true', decide_eq_true_eq] at hfails
        obtain ⟨⟨hcontroller, hs⟩, hcode⟩ := hfails
        have ht : (status c m row).terminal = false := by rw [hs]; cases action <;> rfl
        refine ⟨row, hlookup hl, ht, ?_⟩
        cases hp : controller c m resolve row.kind with
        | error e =>
          rw [hp] at hcontroller
          cases hcontroller
        | ok p =>
          show confirmBody c m resolve action requestId code = _
          unfold confirmBody
          rw [hl]
          show (do let p ← controller c m resolve row.kind; _) = _
          rw [hp]
          show (do
            refuse (status c m row).terminal _
            refuse (decide (status c m row ≠ action.expected)) _
            _) = _
          rw [ht, decide_eq_false (not_not.mpr hs)]
          show (if !codeMatches c row code then failure c m row else _) = _
          rw [hcode]
          rfl
      · cases h
    · cases h

lemma validate_charged {serverId key : String} {row : Row}
    (hv : validateRow serverId key row = true) :
    validateRow serverId key (charged row) = true := by
  have hnext : validateRow serverId key { row with attempts := min 5 (row.attempts + 1) } =
      true := by
    simp only [validateRow, Bool.and_eq_true, decide_eq_true_eq] at hv ⊢
    obtain ⟨⟨⟨⟨⟨⟨⟨hv, h0, h5⟩, h6⟩, h7⟩, h8⟩, h9⟩, h10⟩, h11⟩ := hv
    exact ⟨⟨⟨⟨⟨⟨⟨hv, by omega, by omega⟩, h6⟩, h7⟩, h8⟩, h9⟩, h10⟩, h11⟩
  unfold charged
  dsimp only
  split
  · exact validate_close (by decide) hnext
  · exact hnext

/-! ### Clean requests -/

variable {w : World} {h : List Snapshot}

/-- What follows maintenance that no fault can stop. -/
lemma Applies.leaves {α : Type} {P : Except Error α → List Snapshot → Prop}
    {body : Snapshot → Except Error (Final Unit)} {y : StoreM Unit} {g : Unit → StoreM α}
    (hw : Holds true true w h) (hy : Runs (Holds true true) y h (Applies body true h))
    (hg : ∀ w₁ h₁, Holds true true w₁ h₁ → latest h₁ = applied body (latest h) →
      Leaves true (g ()) w₁ P) : Leaves true (y >>= g) w P := by
  refine Leaves.bind hw hy (fun u w₁ h₁ hw₁ ha => hg w₁ h₁ hw₁ (ha.1 u rfl)) fun e h₁ ha => ?_
  cases (ha.2 e rfl).1

/-- Without faults, the charge is committed. -/
lemma execute_missed {action : String} {request : Json} {resolve : Resolve} {k : Call}
    (hw : Idle true w h) (hk : parse action request = .ok k)
    (hmiss : missed c (maintained c (.enrollment action request resolve) (latest h)) resolve k =
      some r) :
    Leaves true (execute c action request resolve) w fun _ h' => ∃ row,
      (maintained c (.enrollment action request resolve) (latest h)).requests.get? r = some row ∧
      row.state.terminal = false ∧ latest h' =
        (maintained c (.enrollment action request resolve) (latest h)).putRequest c
          (charged row) := by
  refine Leaves.ofExcept hw.toStored (fun k' hk' => Leaves.transaction hw fun w' hw' => ?_)
    fun e he => by rw [hk] at he; cases he
  obtain rfl := Except.ok.inj (hk.symm.trans hk')
  refine Applies.leaves hw' (Lifecycle.sweep_applies c true h) fun w₁ h₁ hw₁ ha₁ => ?_
  refine Applies.leaves hw₁ (mark_applies c true h₁) fun w₂ h₂ hw₂ ha₂ => ?_
  have hbase : latest h₂ = maintained c (.enrollment action request resolve) (latest h) := by
    rw [ha₂, ha₁]
    rfl
  rw [← hbase] at hmiss ⊢
  have hv := hw₂.toStored.valid_latest
  obtain ⟨row, hget, ht, hbody⟩ := body_missed hv hmiss
  obtain rfl := hv.request_id hget
  refine Leaves.perform hw₂ fun res h' hp => ⟨row, hget, live_of_status ht, ?_⟩
  have hid : (charged row).requestId = row.requestId := by
    unfold charged
    dsimp only
    split <;> rfl
  have hacc := validate_put (c := c) hv (charged row) hget hid fun _ hv => validate_charged hv
  rw [hbody, failure_eq ht] at hp
  rcases hp.saved (check_enrollment hv hacc) hacc with ⟨rfl, -⟩ | ⟨-, hcl, -⟩
  · rfl
  · cases hcl

end Enrollment

/-- The request against which a step makes an evaluation that fails. -/
def Step.missedRequest (w : World) (s : Step) : Option String :=
  match s.call with
  | .enrollment action body resolve =>
    match Enrollment.parse action body with
    | .ok k => Enrollment.missed s.ctx (maintained s.ctx s.call w.mem) resolve k
    | .error _ => none
  | _ => none

/-- A run of the services that meets no fault. -/
abbrev CleanRun := {σ : ℕ → Step // Services σ ∧ ∀ n, (σ n).faults = []}

/-- How often the steps from `a` on and before `b` miss `r`. -/
def misses (σ : ℕ → Step) (missed : World → Step → Option String) (r : String) (a b : ℕ) : ℕ :=
  ((Finset.Ico a b).filter fun n => missed (worldAt σ n) (σ n) = some r).card

section Misses

variable {σ : ℕ → Step} {missed : World → Step → Option String} {r : String} {a b : ℕ}

lemma misses_self : misses σ missed r a a = 0 := by
  simp [misses]

lemma misses_succ (hab : a ≤ b) : misses σ missed r a (b + 1) =
    misses σ missed r a b + if missed (worldAt σ b) (σ b) = some r then 1 else 0 := by
  unfold misses
  rw [Nat.Ico_succ_right_eq_insert_Ico hab, Finset.filter_insert]
  split
  · rw [Finset.card_insert_of_notMem (by simp)]
  · rfl

end Misses

namespace Enrollment

section Run

variable {σ : ℕ → Step} {r : String}

/-- A step from `a` on and before `b` draws the identifier once more, for a new request. -/
def Drawn (σ : ℕ → Step) (r : String) (a b : ℕ) : Prop :=
  ∃ n, a ≤ n ∧ n < b ∧ Draws (σ n).ctx (σ n).call r

lemma keeps_succ (hσ : Services σ) {n : ℕ} (hr : ¬Draws (σ n).ctx (σ n).call r) :
    Keeps r (worldAt σ n).mem (worldAt σ (n + 1)).mem := by
  rw [worldAt_mem hσ, worldAt_mem hσ]
  exact (worldAt_commits hσ n).rel (Keeps.refl r) (fun _ _ _ => Keeps.trans)
    fun m m' hc => (ages_of_change hc.change hc.before r).keeps hr

lemma keeps_run (hσ : Services σ) {a b : ℕ} (hab : a ≤ b) (hr : ¬Drawn σ r a b) :
    Keeps r (worldAt σ a).mem (worldAt σ b).mem := by
  induction b, hab using Nat.le_induction with
  | base => exact Keeps.refl r _
  | succ b hab ih =>
    have hstep : ¬Draws (σ b).ctx (σ b).call r := fun he => hr ⟨b, hab, by omega, he⟩
    exact (ih fun ⟨n, h1, h2, h3⟩ => hr ⟨n, h1, by omega, h3⟩).trans (keeps_succ hσ hstep)

lemma spent_run (hσ : Services σ) (n : ℕ) : Spent (worldAt σ n).mem :=
  (worldAt_stable Spent.stable (fun r row h => by cases h) hσ n).1

lemma attempts_le {m : Snapshot} (hm : m.Valid) {row : Row}
    (hget : m.requests.get? r = some row) : 0 ≤ row.attempts ∧ row.attempts ≤ 5 := by
  obtain ⟨e, -, -, hv⟩ := hm.request hget
  simp only [validateRow, Bool.and_eq_true, decide_eq_true_eq] at hv
  tauto

/-- A step that misses charges the row, which was not spent yet. -/
lemma missed_step (hσ : Services σ) {n : ℕ} (hfaults : (σ n).faults = [])
    (hr : ¬Draws (σ n).ctx (σ n).call r)
    (hmiss : (σ n).missedRequest (worldAt σ n) = some r) :
    ∃ old row, (worldAt σ n).mem.requests.get? r = some old ∧
      (worldAt σ (n + 1)).mem.requests.get? r = some row ∧ old.attempts < 5 ∧
      old.attempts + 1 ≤ row.attempts := by
  have hw := (worldAt_rests hσ n).idle_clean
  have hnext : worldAt σ (n + 1) = (outcome (System.exec (σ n).ctx (σ n).call)
      { worldAt σ n with faults := [] }).2 := by
    show (outcome _ { worldAt σ n with faults := (σ n).faults }).2 = _
    rw [hfaults]
  have hm : (worldAt σ n).mem.Valid := worldAt_valid hσ n
  have hspent := spent_run hσ n
  have hlatest := worldAt_mem hσ (n + 1)
  rw [hnext] at hlatest ⊢
  unfold Step.missedRequest at hmiss
  generalize (σ n).call = call at hr hmiss hlatest ⊢
  generalize (σ n).ctx = c at hr hmiss hlatest ⊢
  split at hmiss
  · next action request resolve =>
    split at hmiss
    · next k hk =>
      have hcommits : Relation.ReflTransGen (Commit c (.enrollment action request resolve)) _
          (maintained c (.enrollment action request resolve) (worldAt σ n).mem) :=
        maintained_commits hm
      rw [worldAt_mem hσ n] at hmiss hcommits
      simp only [System.exec, System.outcome_bind_pure] at hlatest ⊢
      obtain ⟨h', hst, row, hget, ht, hh'⟩ := execute_missed hw hk hmiss
      have hv := commits_valid (worldAt_mem hσ n ▸ hm) hcommits
      have hs : Spent (latest (worldAt σ n).committed) := worldAt_mem hσ n ▸ hspent
      have hs := hs.of_commits hcommits
      obtain ⟨old, hold, hl⟩ := Keeps.of_commits hcommits hr row hget
      obtain rfl := hv.request_id hget
      obtain ⟨h0, h5⟩ := attempts_le hv hget
      have hne : row.attempts ≠ 5 := by
        intro he
        have hf := hs _ row hget he
        rw [hf] at ht
        cases ht
      have hcharged : (charged row).requestId = row.requestId ∧
          (charged row).attempts = min 5 (row.attempts + 1) := by
        unfold charged
        dsimp only
        split <;> exact ⟨rfl, rfl⟩
      refine ⟨old, charged row, by rw [worldAt_mem hσ n]; exact hold, ?_, ?_, ?_⟩
      · rw [hlatest, hst.committed, hh', Snapshot.putRequest_requests, hcharged.1]
        exact Dict.get?_set_self _ _ _
      · have := hl.attempts
        omega
      · have := hl.attempts
        omega
    · cases hmiss
  · cases hmiss

/-- The evaluations that failed are on the row, as long as there is one. -/
lemma misses_le (σ : CleanRun) {a b : ℕ} (hab : a ≤ b) (hr : ¬Drawn σ.1 r a b) :
    misses σ.1 Step.missedRequest r a b ≤ 5 ∧
      ∀ row, (worldAt σ.1 b).mem.requests.get? r = some row →
        misses σ.1 Step.missedRequest r a b ≤ row.attempts := by
  have hσ := σ.2.1
  induction b, hab using Nat.le_induction with
  | base =>
    rw [misses_self]
    exact ⟨by omega, fun row hrow => (attempts_le (worldAt_valid hσ a) hrow).1⟩
  | succ b hab ih =>
    obtain ⟨ih1, ih2⟩ := ih fun ⟨n, h1, h2, h3⟩ => hr ⟨n, h1, by omega, h3⟩
    have hstep : ¬Draws (σ.1 b).ctx (σ.1 b).call r := fun he => hr ⟨b, hab, by omega, he⟩
    rw [misses_succ hab]
    split
    · next hmiss =>
      obtain ⟨old, row, hold, hrow, hlt, hle⟩ := missed_step hσ (σ.2.2 b) hstep hmiss
      have hcount := ih2 old hold
      refine ⟨by omega, fun row' hrow' => ?_⟩
      obtain rfl := Option.some.inj (hrow.symm.trans hrow')
      push_cast
      omega
    · refine ⟨by omega, fun row hrow => ?_⟩
      obtain ⟨old, hold, hl⟩ := keeps_succ hσ hstep row hrow
      have hcount := ih2 old hold
      have := hl.attempts
      push_cast
      omega

end Run

end Enrollment

/-! ### Codes that are shown -/

/-- What the body returns, with the snapshot it writes if it writes one. -/
def Yields {α : Type} (b : Except Error (Final α)) (P : α → Option Snapshot → Prop) : Prop :=
  (∀ a, b = .ok (.reply a) → P a none) ∧
    ∀ s w a, b = .ok (.save s w (.ok a)) → P a (some (w.next s))

namespace Yields

variable {α β : Type} {P : α → Option Snapshot → Prop}

lemma bind {x : Except Error β} {f : β → Except Error (Final α)}
    (h : ∀ a, x = .ok a → Yields (f a) P) : Yields (x >>= f) P := by
  constructor
  · intro a hb
    obtain ⟨k, hk, hf⟩ := bind_eq_ok.mp hb
    exact (h k hk).1 a hf
  · intro s w a hb
    obtain ⟨k, hk, hf⟩ := bind_eq_ok.mp hb
    exact (h k hk).2 s w a hf

lemma reply {a : α} (h : P a none) : Yields (.ok (.reply a)) P := by
  constructor
  · intro a' hb
    cases hb
    exact h
  · intro s w a' hb
    cases hb

lemma raise (s : Snapshot) (e : Error) : Yields (.ok (.raise s e)) P := by
  constructor
  · intro a hb
    cases hb
  · intro s' w a hb
    cases hb

lemma error (e : Error) : Yields (.error e) P := by
  constructor
  · intro a hb
    cases hb
  · intro s w a hb
    cases hb

lemma save {s : Snapshot} {w : Write} {a : α} (h : P a (some (w.next s))) :
    Yields (.ok (.save s w (.ok a))) P := by
  constructor
  · intro a' hb
    cases hb
  · intro s' w' a' hb
    cases hb
    exact h

lemma failing (s : Snapshot) (w : Write) (e : Error) : Yields (.ok (.save s w (.error e))) P := by
  constructor
  · intro a hb
    cases hb
  · intro s' w' a hb
    cases hb

end Yields

namespace Enrollment

variable {c : Ctx} {m : Snapshot} {clean : Bool} {w : World} {h : List Snapshot}

/-- Where a code comes from: the proof of a row that was challenged, which is given its digest. -/
def ProvedBy (c : Ctx) (m : Snapshot) (k : Call) (reply : Reply) (m' : Option Snapshot) : Prop :=
  ∀ code expires, reply = .ready code expires → ∃ requestId signature row,
    k = .proof .prove requestId signature ∧ requestId.str? = some row.requestId ∧
    m.requests.get? row.requestId = some row ∧ row.state = .challenge ∧
    m' = some (m.putRequest c { row with state := .ready, codeHash := codeDigest c row code })

lemma provedBy_of_ne {k : Call} {reply : Reply} {m' : Option Snapshot}
    (h : ∀ code expires, reply ≠ .ready code expires) : ProvedBy c m k reply m' :=
  fun code expires he => absurd he (h code expires)

lemma failure_yields {α : Type} {row : Row} {P : α → Option Snapshot → Prop} :
    Yields (failure c m row) P := by
  unfold failure
  split
  · exact Yields.error _
  · exact Yields.failing _ _ _

lemma body_yields (hm : m.Valid) (k : Call) (resolve : Resolve) :
    Yields (body c k resolve m) (ProvedBy c m k) := by
  cases k with
  | request kind publicKey name =>
    have hrequest : Yields (requestBody c m kind publicKey name)
        (ProvedBy c m (.request kind publicKey name)) := by
      refine Yields.bind fun kind _ => Yields.bind fun publicKey _ => Yields.bind fun name _ =>
        Yields.bind fun _ _ => Yields.bind fun _ _ => Yields.bind fun row _ => ?_
      dsimp only
      split
      · exact Yields.save (provedBy_of_ne (by simp))
      · split
        · exact Yields.raise _ _
        · exact Yields.save (provedBy_of_ne (by simp))
    show Yields (if _ then _ else _) _
    split
    · exact Yields.bind fun _ _ => hrequest
    · exact hrequest
  | list => exact Yields.bind fun _ _ => Yields.reply (provedBy_of_ne (by simp))
  | proof action requestId signature =>
    refine Yields.bind fun row hrow => Yields.bind fun _ ht => ?_
    obtain ⟨id, hid, -, hget⟩ := lookup_eq_ok hrow
    obtain rfl := hm.request_id hget
    split
    · exact failure_yields
    · cases action with
      | status => exact Yields.reply (provedBy_of_ne (by simp))
      | prove =>
        refine Yields.bind fun _ hs => Yields.save fun code expires he => ?_
        simp only [refuse_eq_ok, decide_eq_false_iff_not, not_not] at hs
        have hlive : (status c m row).terminal = false := by rw [hs]; rfl
        cases he
        exact ⟨requestId, signature, row, rfl, hid, hget, (status_open hlive).1.trans hs, rfl⟩
      | redeem =>
        refine Yields.bind fun _ _ => Yields.bind fun _ _ => Yields.bind fun credential _ =>
          Yields.bind fun k _ => ?_
        dsimp only
        split
        · exact Yields.raise _ _
        · split
          · exact Yields.save (provedBy_of_ne (by simp))
          · split
            · exact Yields.raise _ _
            · exact Yields.save (provedBy_of_ne (by simp))
      | cancel => exact Yields.save (provedBy_of_ne (by simp))
  | confirm action requestId code =>
    refine Yields.bind fun row _ => Yields.bind fun p _ => Yields.bind fun _ _ =>
      Yields.bind fun _ _ => ?_
    split
    · exact failure_yields
    · exact Yields.bind fun _ _ => Yields.bind fun _ _ =>
        Yields.save (provedBy_of_ne (by simp))
  | deny requestId =>
    exact Yields.bind fun row _ => Yields.bind fun _ _ => Yields.bind fun _ _ =>
      Yields.save (provedBy_of_ne (by simp))

lemma execute_yields {action : String} {request : Json} {resolve : Resolve}
    (hw : Idle clean w h) : Leaves clean (execute c action request resolve) w fun res h' =>
      ∀ reply, res = .ok reply → ∃ k, parse action request = .ok k ∧
        ProvedBy c (maintained c (.enrollment action request resolve) (latest h)) k reply
          (some (latest h')) := by
  refine Leaves.ofExcept hw.toStored (fun k hk => Leaves.transaction hw fun w' hw' => ?_)
    fun e _ reply he => by cases he
  refine Leaves.bind hw' (Lifecycle.sweep_applies c clean h) (fun u w₁ h₁ hw₁ ha₁ => ?_)
    fun e h₁ _ reply he => by cases he
  refine Leaves.bind hw₁ (mark_applies c clean h₁) (fun u₂ w₂ h₂ hw₂ ha₂ => ?_)
    fun e h₁ _ reply he => by cases he
  have hbase : latest h₂ = maintained c (.enrollment action request resolve) (latest h) := by
    rw [ha₂.1 u₂ rfl, ha₁.1 u rfl]
    rfl
  refine Leaves.perform hw₂ fun res h' hp reply hr => ⟨k, hk, ?_⟩
  subst hr
  obtain ⟨hreply, hsave⟩ := body_yields (c := c) hw₂.toStored.valid_latest k resolve
  rw [← hbase]
  rcases hp.of_ok with ⟨hb, -⟩ | ⟨s, w', hb, -, rfl⟩
  · intro code expires he
    obtain ⟨_, _, _, _, _, _, _, hnone⟩ := hreply reply hb code expires he
    cases hnone
  · exact hsave s w' reply hb

end Enrollment

/-- The request whose code a step shows, and that code. -/
def Step.shownCode (w : World) (s : Step) : Option (String × String) :=
  match s.call, s.result w with
  | .enrollment action body _, .ok (.enrollment (.ready code _)) =>
    match Enrollment.parse action body with
    | .ok k => (k.requestId.bind (·.str?)).map (·, code)
    | .error _ => none
  | _, _ => none

namespace Enrollment

variable {σ : ℕ → Step} {r : String}

/-- A code that is shown is that of a row which was challenged, and now has its digest. -/
lemma shown_step (hσ : Services σ) {n : ℕ} {code : String}
    (hr : ¬Draws (σ n).ctx (σ n).call r)
    (hs : (σ n).shownCode (worldAt σ n) = some (r, code)) :
    (∃ old, (worldAt σ n).mem.requests.get? r = some old ∧ old.state = .challenge) ∧
      ∃ row, (worldAt σ (n + 1)).mem.requests.get? r = some row ∧ row.state = .ready ∧
        ∃ old : Row, old.requestId = r ∧ row.codeHash = codeDigest (σ n).ctx old code := by
  have hw := ((worldAt_rests hσ n).faults (σ n).faults).idle
  have hm : (worldAt σ n).mem.Valid := worldAt_valid hσ n
  have hnext : worldAt σ (n + 1) = (outcome (System.exec (σ n).ctx (σ n).call)
      { worldAt σ n with faults := (σ n).faults }).2 := rfl
  have hres : (σ n).result (worldAt σ n) = (outcome (System.exec (σ n).ctx (σ n).call)
      { worldAt σ n with faults := (σ n).faults }).1 := rfl
  have hlatest := worldAt_mem hσ (n + 1)
  rw [hnext] at hlatest ⊢
  unfold Step.shownCode at hs
  rw [hres] at hs
  generalize (σ n).call = call at hr hs hlatest ⊢
  generalize (σ n).ctx = c at hr hs hlatest ⊢
  split at hs
  · next action request resolve code' expires hx =>
    simp only [System.exec, System.outcome_bind_pure] at hx hlatest ⊢
    have hleaves : Leaves false (execute c action request resolve) _ _ := execute_yields hw
    obtain ⟨h', hst, hyields⟩ := hleaves
    cases hout : (outcome (execute c action request resolve)
        { worldAt σ n with faults := (σ n).faults }).1 with
    | error e =>
      rw [hout] at hx
      cases hx
    | ok reply =>
      rw [hout] at hx
      obtain rfl : reply = .ready code' expires := by
        simpa [Except.map] using hx
      obtain ⟨k, hk, hproved⟩ := hyields _ hout
      obtain ⟨requestId, signature, row, rfl, hid, hget, hstate, hm'⟩ :=
        hproved code' expires rfl
      rw [hk] at hs
      simp only [Call.requestId, Option.bind_some, hid, Option.map_some, Option.some.injEq,
        Prod.mk.injEq] at hs
      obtain ⟨rfl, rfl⟩ := hs
      have hcommits : Relation.ReflTransGen (Commit c (.enrollment action request resolve)) _
          (maintained c (.enrollment action request resolve) (worldAt σ n).mem) :=
        maintained_commits hm
      rw [worldAt_mem hσ n] at hcommits
      obtain ⟨old, hold, hl⟩ := Keeps.of_commits hcommits hr row hget
      constructor
      · refine ⟨old, by rw [worldAt_mem hσ n]; exact hold, ?_⟩
        by_contra hne
        exact (hl.shown hne).1 hstate
      · refine ⟨{ row with state := .ready, codeHash := codeDigest c row code' }, ?_, rfl, row,
          rfl, rfl⟩
        rw [hlatest, hst.committed, Option.some.inj hm', Snapshot.putRequest_requests]
        exact Dict.get?_set_self _ _ _
  · cases hs

end Enrollment

/-! ### Integration rows over time -/

namespace Integration

variable {c : Ctx} {call : Vauxr.Call} {m m' : Snapshot} {r : String} {row row' row'' : Row}

/-- What can have become of a row: wrong codes add up, and a row that failed stays so. -/
structure Later (row row' : Row) : Prop where
  attempts : row.attempts ≤ row'.attempts
  failed : row.state = .failed → row'.state = .failed
  spent : 5 ≤ row'.attempts → 5 ≤ row.attempts ∨ row'.state = .failed

namespace Later

lemma refl (row : Row) : Later row row := ⟨le_rfl, id, Or.inl⟩

lemma trans (h : Later row row') (h' : Later row' row'') : Later row row'' where
  attempts := h.attempts.trans h'.attempts
  failed hf := h'.failed (h.failed hf)
  spent h5 := by
    rcases h'.spent h5 with h5 | hf
    · exact (h.spent h5).imp id h'.failed
    · exact Or.inr hf

/-- A row that had not failed moves on without a charge. -/
lemma of_state (hs : row.state ≠ .failed) (ha : row'.attempts = row.attempts) : Later row row' :=
  ⟨ha.ge, fun hf => absurd hf hs, fun h5 => Or.inl (ha ▸ h5)⟩

end Later

lemma Moves.later (h : Moves c call m m' row row') : Later row row' := by
  cases h with
  | same => exact .refl row
  | swept ids row' hs hrow hcase =>
    refine Later.of_state ?_ (by rw [hrow])
    rcases hcase with ⟨ht, -⟩ | ⟨hc, -⟩
    · intro hf
      rw [hf] at ht
      cases ht
    · simp [hc]
  | miscoded resolve code hcall hauth hs hcode =>
    refine ⟨?_, fun hf => ?_, fun h5 => Or.inr ?_⟩
    · show row.attempts ≤ row.attempts + 1
      omega
    · rcases hs with hs | hs <;> rw [hs] at hf <;> cases hf
    · exact if_pos h5
  | approved resolve code hcall hauth hs hcode =>
    refine Later.of_state ?_ rfl
    rcases hs with hs | hs <;> simp [hs]
  | closed state ht hs =>
    refine Later.of_state (fun hf => ?_) rfl
    rw [hf] at ht
    cases ht
  | delivered resolve client hcall hrow hs => exact Later.of_state (by simp [hs]) rfl
  | completed resolve client credential saved k hcall hack hs =>
    exact Later.of_state (by simp [hs]) rfl

/-- Whatever has been charged five times has failed. -/
def Spent (m : Snapshot) : Prop :=
  ∀ r row, m.agents.get? r = some row → 5 ≤ row.attempts → row.state = .failed

lemma Spent.rows (h : Rows c call m m') (hm : Spent m) : Spent m' := by
  intro r row' hrow h5
  rcases h r row' hrow with ⟨row, hget, hmove⟩ | ⟨-, _, _, _, _, _, _, _, _, -, -, -, -, rfl⟩
  · have hl := hmove.later
    rcases hl.spent h5 with h5 | hf
    · exact hl.failed (hm r row hget h5)
    · exact hf
  · have h0 : (5 : ℤ) ≤ 0 := h5
    omega

/-- The call asks for an integration under the identifier `r`. -/
def Named (call : Vauxr.Call) (r : String) : Prop :=
  ∃ client origin name expiresAt resolve,
    call.isIntegration (.request client origin name expiresAt) resolve ∧ client.requestId = r

/-- A request for an integration does not drop the row that it names. -/
lemma named_kept (hw : Wrote c call m m') (hn : Named call r) (hget : m.agents.get? r = some row) :
    ∃ row', m'.agents.get? r = some row' := by
  obtain ⟨client, origin, name, expiresAt, resolve, ⟨action, body, rfl, hk⟩, rfl⟩ := hn
  cases hw with
  | console | ownerRate | claim | acknowledge | login | logout | enrollmentRate | bindConsumed =>
    rename_i hcall _
    cases hcall
  | enrollment _ _ _ _ hcall => cases hcall
  | lifecycle _ _ _ _ hcall => cases hcall
  | ownerInit hcall => rcases hcall with hcall | hcall <;> cases hcall
  | bindOrigin hcall => rcases hcall with hcall | hcall <;> cases hcall
  | sweep blocked hb he =>
    subst he
    exact ⟨row, hget⟩
  | mark he =>
    subst he
    exact ⟨row, hget⟩
  | agentsSweep ids hs => exact Option.isSome_iff_exists.mp (hs.keeps _ row hget)
  | integration action' body' resolve' k b hcall hk' hbody hb =>
    cases hcall
    cases hk.symm.trans hk'
    cases hbody
  | agentCreate action' body' resolve' client' origin' name' expiresAt' terms hcall hk' ht hn ha hb =>
    cases hcall
    cases hk.symm.trans hk'
    rw [hn] at hget
    cases hget
  | agentComplete action' body' resolve' client' credential saved row' r' hcall hk' hack hb =>
    cases hcall
    cases hk.symm.trans hk'

section Run

variable {σ : ℕ → Step}

/-- A row that is there before and after a step is the same row, a step later. -/
lemma later_step (hσ : Services σ) {n : ℕ} (hget : (worldAt σ n).mem.agents.get? r = some row)
    (hget' : (worldAt σ (n + 1)).mem.agents.get? r = some row') : Later row row' := by
  rw [worldAt_mem hσ] at hget hget'
  by_cases hn : Named (σ n).call r
  · -- a request of `r` finds the row and writes none
    have hkeeps := (worldAt_wrote hσ n).rel (Q := fun m m' => ∀ row, m.agents.get? r = some row →
        ∃ row', m'.agents.get? r = some row' ∧ Later row row')
      (fun m row h => ⟨row, h, .refl row⟩)
      (fun _ _ _ h h' row hrow => by
        obtain ⟨row₁, hrow₁, hl⟩ := h row hrow
        obtain ⟨row₂, hrow₂, hl'⟩ := h' row₁ hrow₁
        exact ⟨row₂, hrow₂, hl.trans hl'⟩)
      fun m m' ⟨hc, hw⟩ row hrow => by
        obtain ⟨row₁, hrow₁⟩ := named_kept hw hn hrow
        rcases hw.rows hc.before r row₁ hrow₁ with ⟨row₂, hrow₂, hmove⟩ | ⟨hnone, -⟩
        · obtain rfl := Option.some.inj (hrow.symm.trans hrow₂)
          exact ⟨row₁, hrow₁, hmove.later⟩
        · rw [hnone] at hrow
          cases hrow
    obtain ⟨row₁, hrow₁, hl⟩ := hkeeps row hget
    obtain rfl := Option.some.inj (hget'.symm.trans hrow₁)
    exact hl
  · have hkeeps := (worldAt_wrote hσ n).rel (Q := fun m m' => ∀ row', m'.agents.get? r = some row' →
        ∃ row, m.agents.get? r = some row ∧ Later row row')
      (fun m row h => ⟨row, h, .refl row⟩)
      (fun _ _ _ h h' row hrow => by
        obtain ⟨row₁, hrow₁, hl⟩ := h' row hrow
        obtain ⟨row₂, hrow₂, hl'⟩ := h row₁ hrow₁
        exact ⟨row₂, hrow₂, hl'.trans hl⟩)
      fun m m' ⟨hc, hw⟩ row₁ hrow₁ => by
        rcases hw.rows hc.before r row₁ hrow₁ with ⟨row₂, hrow₂, hmove⟩ | ⟨-, resolve, client,
          origin, name, expiresAt, terms, serverId, generation, hcall, -, hid, -, -⟩
        · exact ⟨row₂, hrow₂, hmove.later⟩
        · exact absurd ⟨client, origin, name, expiresAt, resolve, hcall, hid⟩ hn
    obtain ⟨row₁, hrow₁, hl⟩ := hkeeps row' hget'
    obtain rfl := Option.some.inj (hget.symm.trans hrow₁)
    exact hl

lemma spent_run (hσ : Services σ) (n : ℕ) : Spent (worldAt σ n).mem := by
  induction n with
  | zero => exact fun r row h => by cases h
  | succ n ih =>
    rw [worldAt_mem hσ] at ih ⊢
    exact (worldAt_wrote hσ n).invariant (fun _ _ hm h => Spent.rows (h.2.rows h.1.before) hm) ih

end Run

/-! ### Wrong user codes -/

/-- The live row against which a call tries a wrong user code. -/
def missed (c : Ctx) (m : Snapshot) (resolve : Resolve) : Call → Option String
  | .approve requestId code =>
    match m.agents.get? requestId with
    | some row =>
      if (authorize m resolve).isOk && (row.state = .pending || row.state = .approved) &&
          !coded c row code then
        some requestId
      else none
    | none => none
  | _ => none

lemma missed_eq_some {resolve : Resolve} {k : Call} (h : missed c m resolve k = some r) :
    ∃ code row, k = .approve r code ∧ m.agents.get? r = some row ∧
      authorize m resolve = .ok () ∧ (row.state = .pending ∨ row.state = .approved) ∧
      coded c row code = false := by
  unfold missed at h
  split at h
  · next requestId code =>
    split at h
    · next row hget =>
      split at h
      · next hfails =>
        cases h
        simp only [Bool.and_eq_true, Bool.or_eq_true, Bool.not_eq_true', decide_eq_true_eq]
          at hfails
        obtain ⟨⟨hauth, hs⟩, hcode⟩ := hfails
        refine ⟨code, row, rfl, hget, ?_, hs, hcode⟩
        cases ha : authorize m resolve with
        | error e =>
          rw [ha] at hauth
          cases hauth
        | ok u => rfl
      · cases h
    · cases h
  · cases h

lemma validate_miscoded {key : String} (hv : validateRow key row = true)
    (h5 : row.attempts < 5) : validateRow key (miscoded row) = true := by
  have hstate : ¬(miscoded row).state ∈ [Status.delivered, .completed] ∨
      (miscoded row).state = row.state := by
    show ¬(if 5 ≤ row.attempts + 1 then Status.failed else row.state) ∈ _ ∨
      (if 5 ≤ row.attempts + 1 then Status.failed else row.state) = row.state
    split
    · exact Or.inl (by decide)
    · exact Or.inr rfl
  simp only [validateRow, Bool.and_eq_true, Bool.not_eq_true', Bool.and_eq_false_imp,
    decide_eq_true_eq] at hv ⊢
  obtain ⟨⟨⟨⟨⟨hv, h0, -⟩, h6⟩, h7⟩, h8⟩, h9⟩ := hv
  refine ⟨⟨⟨⟨⟨hv, ?_, ?_⟩, h6⟩, h7⟩, h8⟩, fun hs => ?_⟩
  · show 0 ≤ row.attempts + 1
    omega
  · show row.attempts + 1 ≤ 5
    omega
  · rcases hstate with hn | he
    · exact absurd hs hn
    · exact h9 (he ▸ hs)

/-- A row may be rewritten for the agent and with the credential it has. -/
lemma check_put (hm : m.Valid) {new : Row} (hget : m.agents.get? new.requestId = some row)
    (hagent : new.agentId = row.agentId) (hcred : new.credentialId = row.credentialId)
    (hv : validateRow new.requestId new = true) : (m.putAgent new).check m.records = .ok () := by
  have hagents : (m.putAgent new).agents = m.agents.set new.requestId new :=
    Snapshot.putAgent_agents m new
  refine (Snapshot.check_ok_iff _ _).mpr
    ⟨{ hm with integration := ?_, bound := ?_ }, mutatesCredential_self hm.ids_nodup⟩
  · have hi := hm.integration
    unfold Snapshot.agents at hget
    cases he : m.integration with
    | none =>
      rw [he] at hget
      cases hget
    | some s =>
      rw [he] at hi hget
      show validateIntegration (some ((stateOf m).put new.requestId new)) = true
      have hs : stateOf m = s := by
        unfold stateOf
        rw [he]
        rfl
      rw [hs]
      simp only [validateIntegration, Bool.and_eq_true, decide_eq_true_eq, List.all_eq_true]
        at hi ⊢
      have hsize : (s.put new.requestId new).requests.size = s.requests.size :=
        Dict.size_set_of_get? hget
      refine ⟨by omega, ?_⟩
      rintro ⟨k, r⟩ hkr
      have hk : (s.requests.set new.requestId new).get? k = some r := Dict.mem_entries.mp hkr
      rw [Dict.get?_set] at hk
      split at hk
      · next heq =>
        cases hk
        subst heq
        exact hv
      · exact hi.2 (k, r) (Dict.mem_entries.mpr hk)
  · have hb := hm.bound
    rw [hagents]
    simp only [validateIntegrations, List.all_eq_true] at hb ⊢
    intro row' hrow'
    obtain ⟨k, hk⟩ := Dict.mem_values.mp hrow'
    rw [Dict.get?_set] at hk
    split at hk
    · cases hk
      rw [hagent, hcred]
      exact hb row (Dict.get?_mem_values hget)
    · exact hb row' (Dict.get?_mem_values hk)

/-- Without faults, the charge is committed. -/
lemma execute_missed {action : String} {request : Json} {resolve : Resolve} {k : Call}
    {w : World} {h : List Snapshot} (hw : Idle true w h) (hk : parse action request = .ok k)
    (hspent : Spent (maintained c (.integration action request resolve) (latest h)))
    (hmiss : missed c (maintained c (.integration action request resolve) (latest h)) resolve k =
      some r) :
    Leaves true (execute c action request resolve) w fun _ h' => ∃ row,
      (maintained c (.integration action request resolve) (latest h)).agents.get? r = some row ∧
      row.attempts < 5 ∧ latest h' =
        (maintained c (.integration action request resolve) (latest h)).putAgent
          (miscoded row) := by
  refine Leaves.ofExcept hw.toStored (fun k' hk' => Leaves.transaction hw fun w' hw' => ?_)
    fun e he => by rw [hk] at he; cases he
  obtain rfl := Except.ok.inj (hk.symm.trans hk')
  refine Enrollment.Applies.leaves hw' (sweep_applies c true h) fun w₁ h₁ hw₁ ha₁ => ?_
  have hbase : latest h₁ = maintained c (.integration action request resolve) (latest h) := ha₁
  rw [← hbase] at hmiss hspent ⊢
  have hv := hw₁.toStored.valid_latest
  obtain ⟨code, row, rfl, hget, hauth, hs, hcode⟩ := missed_eq_some hmiss
  have h5 : row.attempts < 5 := by
    by_contra hge
    have hf := hspent r row hget (by omega)
    rcases hs with hs | hs <;> rw [hs] at hf <;> cases hf
  obtain ⟨rfl, -⟩ := hv.agent_request_id hget
  refine Leaves.perform hw₁ fun res h' hp => ⟨row, hget, h5, ?_⟩
  have hbody : approveBody c resolve row.requestId code (latest h₁) =
      .ok (.save (latest h₁) (.integration
        ((stateOf (latest h₁)).put row.requestId (miscoded row)) none)
        (.error (.enrollment "invalid_code"))) := by
    unfold approveBody
    rw [hauth]
    show (do let row ← lookup (latest h₁) row.requestId; _) = _
    have hl : lookup (latest h₁) row.requestId = .ok row := by
      rw [lookup, demand_eq_ok, stateOf_requests]
      exact hget
    rw [hl]
    have hlive : (!(decide (row.state = .pending) || decide (row.state = .approved))) = false := by
      rcases hs with hs | hs <;> rw [hs] <;> rfl
    show (do refuse _ _; _) = _
    rw [hlive]
    show (if !coded c row code then _ else _) = _
    rw [hcode]
    rfl
  rw [hbody] at hp
  have hcheck : ((latest h₁).putAgent (miscoded row)).check (latest h₁).records = .ok () :=
    check_put hv hget rfl rfl (validate_miscoded (hv.agent hget) h5)
  rcases hp.saved hcheck rfl with ⟨rfl, -⟩ | ⟨-, hcl, -⟩
  · rfl
  · cases hcl

end Integration

/-- The integration request against which a step tries a wrong user code. -/
def Step.missedAgent (w : World) (s : Step) : Option String :=
  match s.call with
  | .integration action body resolve =>
    match Integration.parse action body with
    | .ok k => Integration.missed s.ctx (maintained s.ctx s.call w.mem) resolve k
    | .error _ => none
  | _ => none

namespace Integration

section Misses

variable {σ : ℕ → Step} {r : String}

/-- There is a row of `r` before every step from `a` on and before `b`. -/
def Present (σ : ℕ → Step) (r : String) (a b : ℕ) : Prop :=
  ∀ n, a ≤ n → n < b → ∃ row, (worldAt σ n).mem.agents.get? r = some row

/-- The rows that maintenance leaves to a request are those that were there. -/
lemma maintained_rows {c : Ctx} {action : String} {body : Json} {resolve : Resolve} {m : Snapshot}
    (hm : m.Valid) :
    Rows c (.integration action body resolve) m
      (maintained c (.integration action body resolve) m) := by
  show Rows c _ m (applied (sweepBody c) m)
  rcases applied_sweep (c := c) hm with he | ⟨ids, hs⟩
  · rw [he]
    exact Rows.same rfl
  · exact Rows.swept hs

/-- A step that misses charges the row, which was not spent yet. -/
lemma missed_step (hσ : Services σ) {n : ℕ} (hfaults : (σ n).faults = []) {old : Row}
    (hold : (worldAt σ n).mem.agents.get? r = some old)
    (hmiss : (σ n).missedAgent (worldAt σ n) = some r) :
    ∃ row, (worldAt σ (n + 1)).mem.agents.get? r = some row ∧ old.attempts < 5 ∧
      old.attempts + 1 ≤ row.attempts := by
  have hw := (worldAt_rests hσ n).idle_clean
  have hnext : worldAt σ (n + 1) = (outcome (System.exec (σ n).ctx (σ n).call)
      { worldAt σ n with faults := [] }).2 := by
    show (outcome _ { worldAt σ n with faults := (σ n).faults }).2 = _
    rw [hfaults]
  have hm : (worldAt σ n).mem.Valid := worldAt_valid hσ n
  have hspent := spent_run hσ n
  have hlatest := worldAt_mem hσ (n + 1)
  rw [hnext] at hlatest ⊢
  unfold Step.missedAgent at hmiss
  generalize (σ n).call = call at hmiss hlatest ⊢
  generalize (σ n).ctx = c at hmiss hlatest ⊢
  split at hmiss
  · next action request resolve =>
    split at hmiss
    · next k hk =>
      have hrows : Rows c (.integration action request resolve) _ _ := maintained_rows hm
      have hs := Spent.rows hrows hspent
      rw [worldAt_mem hσ n] at hmiss hrows hs hold
      simp only [System.exec, System.outcome_bind_pure] at hlatest ⊢
      obtain ⟨h', hst, row, hget, h5, hh'⟩ := execute_missed hw hk hs hmiss
      rcases hrows r row hget with ⟨row₀, hget₀, hmove⟩ | ⟨hnone, -⟩
      · obtain rfl := Option.some.inj (hold.symm.trans hget₀)
        have hv : (maintained c (.integration action request resolve)
            (latest (worldAt σ n).committed)).Valid :=
          commits_valid (worldAt_mem hσ n ▸ hm)
            (maintained_commits (c := c) (worldAt_mem hσ n ▸ hm))
        obtain ⟨rfl, -⟩ := hv.agent_request_id hget
        have hle := hmove.later.attempts
        refine ⟨miscoded row, ?_, by omega, ?_⟩
        · rw [hlatest, hst.committed, hh', Snapshot.putAgent_agents]
          exact Dict.get?_set_self _ _ _
        · show old.attempts + 1 ≤ row.attempts + 1
          omega
      · rw [hnone] at hold
        cases hold
    · cases hmiss
  · cases hmiss

lemma attempts_nonneg {m : Snapshot} (hm : m.Valid) {row : Row}
    (hget : m.agents.get? r = some row) : 0 ≤ row.attempts ∧ row.attempts ≤ 5 := by
  have hv := hm.agent hget
  simp only [validateRow, Bool.and_eq_true, decide_eq_true_eq] at hv
  tauto

/-- The wrong codes are on the row, as long as there is one. -/
lemma misses_le (σ : CleanRun) {a b : ℕ} (hab : a ≤ b) (hr : Present σ.1 r a b) :
    misses σ.1 Step.missedAgent r a b ≤ 5 ∧
      ∀ row, (worldAt σ.1 b).mem.agents.get? r = some row →
        misses σ.1 Step.missedAgent r a b ≤ row.attempts := by
  have hσ := σ.2.1
  induction b, hab using Nat.le_induction with
  | base =>
    rw [misses_self]
    exact ⟨by omega, fun row hrow => (attempts_nonneg (worldAt_valid hσ a) hrow).1⟩
  | succ b hab ih =>
    obtain ⟨ih1, ih2⟩ := ih fun n h1 h2 => hr n h1 (by omega)
    obtain ⟨old, hold⟩ := hr b hab (by omega)
    have hcount := ih2 old hold
    rw [misses_succ hab]
    split
    · next hmiss =>
      obtain ⟨row, hrow, hlt, hle⟩ := missed_step hσ (σ.2.2 b) hold hmiss
      refine ⟨by omega, fun row' hrow' => ?_⟩
      obtain rfl := Option.some.inj (hrow.symm.trans hrow')
      push_cast
      omega
    · refine ⟨by omega, fun row hrow => ?_⟩
      have := (later_step hσ hold hrow).attempts
      push_cast
      omega

/-- A row that is there all along is the same row in the end. -/
lemma later_run (hσ : Services σ) {a b : ℕ} (hab : a ≤ b) (hr : Present σ r a b) {old row : Row}
    (hold : (worldAt σ a).mem.agents.get? r = some old)
    (hrow : (worldAt σ b).mem.agents.get? r = some row) : Later old row := by
  induction b, hab using Nat.le_induction generalizing row with
  | base =>
    obtain rfl := Option.some.inj (hold.symm.trans hrow)
    exact .refl old
  | succ b hab ih =>
    obtain ⟨mid, hmid⟩ := hr b hab (by omega)
    exact (ih (fun n h1 h2 => hr n h1 (by omega)) hmid).trans (later_step hσ hmid hrow)

end Misses

end Integration

/-! ### Bounded guessing -/

section Guessing

variable {σ : ℕ → Step} {r : String} {a b : ℕ}

/-- A request shows its code once. -/
lemma Enrollment.shown_once (hσ : Services σ) {n n' : ℕ} {code code' : String} (hnn : n < n')
    (hr : ¬Drawn σ r n (n' + 1)) (hs : (σ n).shownCode (worldAt σ n) = some (r, code))
    (hs' : (σ n').shownCode (worldAt σ n') = some (r, code')) : False := by
  have hstep : ∀ k, n ≤ k → k < n' + 1 → ¬Draws (σ k).ctx (σ k).call r :=
    fun k h1 h2 hd => hr ⟨k, h1, h2, hd⟩
  obtain ⟨-, row, hrow, hready, -⟩ := shown_step hσ (hstep n le_rfl (by omega)) hs
  obtain ⟨⟨row', hrow', hchallenge⟩, -⟩ := shown_step hσ (hstep n' hnn.le (by omega)) hs'
  have hkeeps := keeps_run hσ (Nat.succ_le_of_lt hnn)
    fun ⟨k, h1, h2, hd⟩ => hr ⟨k, by omega, by omega, hd⟩
  obtain ⟨old, hold, hl⟩ := hkeeps row' hrow'
  obtain rfl := Option.some.inj (hrow.symm.trans hold)
  exact (hl.shown (by rw [hready]; decide)).1 hchallenge

/-- **Guessing is bounded.** In a run without faults at most five evaluations fail against an
enrollment request, and at most five user codes against an integration request; five of them fail
the request, and it never leaves that state. A code is shown once, and its digest stays. -/
theorem bounded_guessing (σ : CleanRun) (r : String) {a b : ℕ} (hab : a ≤ b) :
    (¬Enrollment.Drawn σ.1 r a b →
      misses σ.1 Step.missedRequest r a b ≤ 5 ∧
      (∀ row, (worldAt σ.1 b).mem.requests.get? r = some row →
        (misses σ.1 Step.missedRequest r a b = 5 → row.state = .failed) ∧
        ∃ old, (worldAt σ.1 a).mem.requests.get? r = some old ∧
          (old.state = .failed → row.state = .failed) ∧
          (old.state ≠ .challenge → row.codeHash = old.codeHash)) ∧
      ∀ n n' code code', a ≤ n → n < b → a ≤ n' → n' < b →
        (σ.1 n).shownCode (worldAt σ.1 n) = some (r, code) →
        (σ.1 n').shownCode (worldAt σ.1 n') = some (r, code') → n = n') ∧
    (Integration.Present σ.1 r a b →
      misses σ.1 Step.missedAgent r a b ≤ 5 ∧
      ∀ row, (worldAt σ.1 b).mem.agents.get? r = some row →
        (misses σ.1 Step.missedAgent r a b = 5 → row.state = .failed) ∧
        ∀ old, (worldAt σ.1 a).mem.agents.get? r = some old →
          old.state = .failed → row.state = .failed) := by
  have hσ := σ.2.1
  constructor
  · intro hr
    obtain ⟨hle, hrow⟩ := Enrollment.misses_le σ hab hr
    refine ⟨hle, fun row hget => ⟨fun h5 => ?_, ?_⟩, ?_⟩
    · have h := hrow row hget
      have hmax := (Enrollment.attempts_le (worldAt_valid hσ b) hget).2
      exact Enrollment.spent_run hσ b r row hget (by omega)
    · obtain ⟨old, hold, hl⟩ := Enrollment.keeps_run hσ hab hr row hget
      refine ⟨old, hold, fun hf => ?_, fun hs => (hl.shown hs).2⟩
      rw [hl.ended (by rw [hf]; rfl)]
      exact hf
    · intro n n' code code' han hnb han' hnb' hs hs'
      have hsub : ∀ {k k' : ℕ}, a ≤ k → k' < b → ¬Enrollment.Drawn σ.1 r k (k' + 1) :=
        fun h1 h2 ⟨i, h3, h4, hd⟩ => hr ⟨i, by omega, by omega, hd⟩
      rcases lt_trichotomy n n' with hlt | he | hlt
      · exact (Enrollment.shown_once hσ hlt (hsub han hnb') hs hs').elim
      · exact he
      · exact (Enrollment.shown_once hσ hlt (hsub han' hnb) hs' hs).elim
  · intro hr
    obtain ⟨hle, hrow⟩ := Integration.misses_le σ hab hr
    refine ⟨hle, fun row hget => ⟨fun h5 => ?_, fun old hold hf => ?_⟩⟩
    · have h := hrow row hget
      exact Integration.spent_run hσ b r row hget (by omega)
    · exact (Integration.later_run hσ hab hr hold hget).failed hf

end Guessing

/-! ### Sample runs -/

namespace Sample

/-- An assistant asks for access, and wrong codes are typed; in between the server restarts. -/
def approving : ℕ → Call
  | 0 | 4 => .start
  | 1 => .integration "request" (.obj [("request_id", .str (draws 1).requestId.1),
      ("request_secret", .str (draws 1).nonce.1), ("origin", .str origin.1),
      ("display_name", .str "Assistant"), ("expires_at", .int 1300)]) asOwner
  | _ => .integration "approve"
      (texts [("request_id", (draws 1).requestId.1), ("user_code", "00000000")]) asOwner

lemma approving_services : Services (operated approving)
  | 0 | 1 | 2 | 3 | 4 | _ + 5 => rfl

/-- No other step draws the identifier of the request. -/
lemma proving_drawn : ¬Enrollment.Drawn (operated proving) (draws 1).requestId.1 2 8 := by
  rintro ⟨n, h2, h8, hdraw, -⟩
  have : n = 1 := hexWord_inj (by omega) (by omega) (by omega) hdraw
  omega

lemma proving_missed :
    misses (operated proving) Step.missedRequest (draws 1).requestId.1 2 8 = 5 ∧
      ((worldAt (operated proving) 8).mem.requests.get? (draws 1).requestId.1).isSome := by
  decide +kernel

lemma approving_missed :
    misses (operated approving) Step.missedAgent (draws 1).requestId.1 2 8 = 5 ∧
      ∀ n ∈ Finset.Icc 2 8,
        ((worldAt (operated approving) n).mem.agents.get? (draws 1).requestId.1).isSome := by
  decide +kernel

end Sample

/-- Five failed proofs, then five wrong codes, with a restart between the second and the third:
the requests have failed. -/
theorem bounded_guessing_sample :
    (∃ row, (worldAt (Sample.operated Sample.proving) 8).mem.requests.get?
      (Sample.draws 1).requestId.1 = some row ∧ row.state = .failed) ∧
    ∃ row, (worldAt (Sample.operated Sample.approving) 8).mem.agents.get?
      (Sample.draws 1).requestId.1 = some row ∧ row.state = .failed := by
  constructor
  · obtain ⟨hfive, hsome⟩ := Sample.proving_missed
    obtain ⟨row, hrow⟩ := Option.isSome_iff_exists.mp hsome
    have h := (bounded_guessing
      ⟨Sample.operated Sample.proving, Sample.proving_services, fun _ => rfl⟩
      (Sample.draws 1).requestId.1 (show 2 ≤ 8 by omega)).1 Sample.proving_drawn
    exact ⟨row, hrow, (h.2.1 row hrow).1 hfive⟩
  · obtain ⟨hfive, hthere⟩ := Sample.approving_missed
    have hthere n (h : n ∈ Finset.Icc 2 8) := Option.isSome_iff_exists.mp (hthere n h)
    obtain ⟨row, hrow⟩ := hthere 8 (by simp)
    have h := (bounded_guessing
      ⟨Sample.operated Sample.approving, Sample.approving_services, fun _ => rfl⟩
      (Sample.draws 1).requestId.1 (show 2 ≤ 8 by omega)).2 fun n h2 h8 =>
        hthere n (Finset.mem_Icc.mpr ⟨h2, h8.le⟩)
    exact ⟨row, hrow, (h.2 row hrow).1 hfive⟩

end Vauxr
