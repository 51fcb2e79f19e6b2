import Vauxr.EnrollmentSpec

/-!
Every body of a service that writes commits one of the listed changes, and leaves memory as the
file when it raises.
-/

namespace Vauxr

open Lib

/-- A body on `m` raises with memory as it was, and its write is a change that either restores
memory when it fails or found it as it was. -/
def Commits {α : Type} (c : Ctx) (call : Call) (m : Snapshot) (b : Except Error (Final α)) :
    Prop :=
  (∀ s e, b = .ok (.raise s e) → s = m) ∧
    ∀ s w x, b = .ok (.save s w x) →
      ((w.accepted = true ∧ w.reloads = true) ∨ s = m) ∧ Change c call m (w.next s)

namespace Commits

variable {α β : Type} {c : Ctx} {call : Call} {m : Snapshot}

lemma sound {b : Except Error (Final α)} (h : Commits c call m b) : Sound m b := by
  match b with
  | .error _ => trivial
  | .ok (.reply _) => trivial
  | .ok (.raise s e) => exact h.1 s e rfl
  | .ok (.save s w x) => exact (h.2 s w x rfl).1

lemma bind {x : Except Error β} {f : β → Except Error (Final α)}
    (h : ∀ a, x = .ok a → Commits c call m (f a)) : Commits c call m (x >>= f) := by
  constructor
  · intro s e hx
    obtain ⟨a, ha, hf⟩ := bind_eq_ok.mp hx
    exact (h a ha).1 s e hf
  · intro s w r hx
    obtain ⟨a, ha, hf⟩ := bind_eq_ok.mp hx
    exact (h a ha).2 s w r hf

lemma reply (a : α) : Commits c call m (.ok (.reply a)) :=
  ⟨fun _ _ h => (nomatch h), fun _ _ _ h => (nomatch h)⟩

lemma error (e : Error) : Commits c call m (.error e : Except Error (Final α)) :=
  ⟨fun _ _ h => (nomatch h), fun _ _ _ h => (nomatch h)⟩

/-- A write of a body that staged nothing. -/
lemma save {w : Write} {x : Except Error α} (h : Change c call m (w.next m)) :
    Commits c call m (.ok (.save m w x)) := by
  refine ⟨fun _ _ h => (nomatch h), fun s w' x' h' => ?_⟩
  cases h'
  exact ⟨Or.inr rfl, h⟩

lemma staged {s : Snapshot} {w : Write} {x : Except Error α} (ha : w.accepted = true)
    (hr : w.reloads = true) (h : Change c call m (w.next s)) :
    Commits c call m (.ok (.save s w x)) := by
  refine ⟨fun _ _ h => (nomatch h), fun s' w' x' h' => ?_⟩
  cases h'
  exact ⟨Or.inl ⟨ha, hr⟩, h⟩

end Commits

namespace Lifecycle

variable {c : Ctx} {call : Vauxr.Call} {m : Snapshot} {p : Principal}

lemma target_eq_ok {id : String} {status : Bool} {row : Row}
    (h : target m p id status = .ok row) :
    m.operations.get? id = some row ∧
      (status = false → row.role = p.role ∧ row.subject = p.subject) := by
  simp only [target, bind_eq_ok, demand_eq_ok, refuse_eq_ok, exists_const, stateOf_operations]
    at h
  obtain ⟨row', hrow, hs, he⟩ := h
  cases he
  refine ⟨hrow, ?_⟩
  rintro rfl
  simp only [Bool.and_false, Bool.not_false, Bool.and_true, Bool.not_eq_false',
    Bool.and_eq_true, decide_eq_true_eq, beq_iff_eq] at hs
  exact ⟨hs.1.symm, hs.2.symm⟩

lemma pollBody_commits (hset : Settled c m) (hcall : call.isLifecycle c m .poll p) :
    Commits c call m (pollBody m p) := by
  refine Commits.bind fun _ _ => ?_
  dsimp only
  split
  · exact Commits.reply _
  · next key row hfind =>
    have hmem := List.mem_of_find?_eq_some hfind
    have hp := List.find?_some hfind
    rw [stateOf_operations, Dict.mem_entries] at hmem
    simp only [Bool.and_eq_true, decide_eq_true_eq, beq_iff_eq] at hp
    split
    · next hq =>
      exact Commits.save
        (.poll p key row hcall hset hmem hp.1.1.1 hp.1.1.2 hp.1.2 hq)
    · exact Commits.reply _

lemma deliverBody_commits {id : String} (hset : Settled c m)
    (hcall : call.isLifecycle c m (.deliver id) p) :
    Commits c call m (deliverBody c m p id) := by
  refine Commits.bind fun row hrow => Commits.bind fun _ hstate =>
    Commits.bind fun _ hlimit => Commits.bind fun credential hcred =>
      Commits.save ?_
  simp only [refuse_eq_ok, Bool.or_eq_false_iff, decide_eq_false_iff_not, not_not, not_le]
    at hstate hlimit
  obtain ⟨hget, hsub⟩ := target_eq_ok hrow
  obtain ⟨h1, h2⟩ := hsub rfl
  obtain ⟨c1, c2, c3, c4, c5⟩ := Credential.create_eq_ok hcred
  exact .deliver p id row credential hcall hset hget h1 h2 hstate.2 hstate.1 hlimit c1 c2 c3 c5 c4

lemma retired_eq (m : Snapshot) (ids : List String) :
    m.retired ids = { m with
      records := disable ids m.records
      lifecycle := some { stateOf m with blocked := blockedWith m.blocked ids m.records } } := rfl

lemma ackBody_commits {id : String} {saved : Json} (hset : Settled c m)
    (hcall : call.isLifecycle c m (.ack id saved) p) :
    Commits c call m (ackBody m p id saved) := by
  refine Commits.bind fun row hrow => Commits.bind fun _ hsaved => ?_
  split
  · exact Commits.reply _
  · refine Commits.bind fun _ hs => Commits.bind fun (state, records) hret =>
      Commits.save ?_
    simp only [refuse_eq_ok, Bool.or_eq_false_iff, bne_eq_false_iff_eq, decide_eq_false_iff_not,
      not_not] at hsaved hs
    obtain ⟨-, rfl, rfl⟩ := retire_eq_ok.mp hret
    obtain ⟨hget, hsub⟩ := target_eq_ok hrow
    obtain ⟨h1, h2⟩ := hsub rfl
    have hch : Change c call m _ := .ack p id saved row hcall hset hget h1 h2 hsaved.2 hs
    rw [retired_eq, ← stateOf_blocked m] at hch
    exact hch

/-- What a new operation says. -/
structure NewOperation (c : Ctx) (m : Snapshot) (action : Action) (id : String) (r : Role)
    (s : String) (row : Row) : Prop where
  operationId : row.operationId = id
  role : row.role = r
  subject : row.subject = s
  action : row.action = action
  state : row.state = .queued
  expiresAt : row.expiresAt = c.now + queueSeconds
  overlapUntil : row.overlapUntil = 0
  credentialId : row.credentialId = ""
  oldIds : row.oldIds = (records m r s).map (·.id)
  ownerGeneration : m.ownerGeneration = some row.ownerGeneration
  origin : row.origin = c.origin.1

lemma newOperation_eq_ok {action : Action} {id subject : String} {role : Role} {row : Row}
    (h : newOperation c m action id role subject = .ok row) :
    NewOperation c m action id role subject row := by
  simp only [newOperation, bind_eq_ok, demand_eq_ok] at h
  obtain ⟨g, hg, h⟩ := h
  cases h
  exact ⟨rfl, rfl, rfl, rfl, rfl, rfl, rfl, rfl, rfl, hg, rfl⟩

lemma controlBody_commits {action : Action} {id : String} {role subject : Json}
    (hset : Settled c m) (hcall : call.isLifecycle c m (.control action id role subject) p)
    (howner : isOwner m p = true) :
    Commits c call m (controlBody c m action id role subject) := by
  refine Commits.bind fun role' hrole => Commits.bind fun subject' hsubject => ?_
  rw [demand_eq_ok, Option.filter_eq_some_iff, decide_eq_true_eq] at hrole
  rw [demand_eq_ok] at hsubject
  dsimp only
  split
  · exact Commits.bind fun _ _ => Commits.reply _
  · next hnone =>
    rw [stateOf_operations] at hnone
    refine Commits.bind fun _ hadm => Commits.bind fun row hrow => ?_
    obtain ⟨-, rfl, rfl, -⟩ := newOperation_eq_ok hrow
    cases action with
    | rotate =>
      exact Commits.save (.rotate p id role subject row hcall howner hset hnone hrole.1
        hrole.2 hsubject hadm hrow)
    | revoke =>
      refine Commits.bind fun (state, retired) hret => Commits.save ?_
      obtain ⟨-, rfl, rfl⟩ := retire_eq_ok.mp hret
      have hch : Change c call m _ := .revoke p id role subject row hcall howner hset hnone
        hrole.1 hrole.2 hsubject hadm hrow
      rw [← stateOf_blocked m] at hch
      exact hch
    | recover =>
      refine Commits.bind fun (state, retired) hret => Commits.save ?_
      obtain ⟨-, rfl, rfl⟩ := retire_eq_ok.mp hret
      have hch : Change c call m _ := .recover p id role subject row hcall howner hset hnone
        hrole.1 hrole.2 hsubject hadm hrow
      rw [← stateOf_blocked m, ← stateOf_bindings m, ← stateOf_recovery m] at hch
      exact hch

/-- A request of the lifecycle, on a settled snapshot. -/
lemma body_commits {request : Call} {resolve : Resolve} (hset : Settled c m)
    (hcall : ∀ p, authorize c m resolve = .ok p → call.isLifecycle c m request p) :
    Commits c call m (body c request resolve m) := by
  refine Commits.bind fun p hp => ?_
  have hc := hcall p hp
  cases request with
  | control action id role subject =>
    refine Commits.bind fun u hu => controlBody_commits hset hc ?_
    simpa using hu
  | poll => exact pollBody_commits hset hc
  | status id => exact Commits.bind fun row _ => Commits.reply _
  | deliver id => exact deliverBody_commits hset hc
  | ack id saved => exact ackBody_commits hset hc

/-! ### Staging -/

lemma bindEnrollment_eq_ok {row : Enrollment.Row} {state : State}
    (h : bindEnrollment m row = .ok state) :
    state = { stateOf m with bindings := m.bindings.set row.deviceId ⟨row.publicKey, row.kind⟩ } ∧
      (∀ b, m.bindings.get? row.deviceId = some b → b = ⟨row.publicKey, row.kind⟩) := by
  simp only [bindEnrollment, bind_eq_ok, refuse_eq_ok, exists_const, decide_eq_false_iff_not,
    not_not, stateOf_bindings] at h
  obtain ⟨-, hb, h⟩ := h
  cases h
  refine ⟨rfl, fun b hget => ?_⟩
  rw [hget] at hb
  exact hb

end Lifecycle

namespace Enrollment

variable {c : Ctx} {call : Vauxr.Call} {m : Snapshot} {row : Row} {resolve : Resolve}

lemma markBody_commits : Commits c call m (markBody c m) := by
  unfold markBody
  dsimp only
  split
  · have hch : Change c call m _ := .mark
    rw [Snapshot.withRequests, ← stateOf_requests c m] at hch
    exact Commits.save hch
  · exact Commits.reply _

lemma failure_commits {α : Type} (hget : m.requests.get? row.requestId = some row) :
    Commits c call m (failure c m row : Except Error (Final α)) := by
  unfold failure
  split
  · exact Commits.error _
  · next ht =>
    simp only [Bool.not_eq_true] at ht
    have hch : Change c call m _ := .fail row hget ht
    exact Commits.save hch

lemma closeBody_commits {state : Status} (hget : m.requests.get? row.requestId = some row)
    (ht : (status c m row).terminal = false) (hs : state = .cancelled ∨ state = .denied) :
    Commits c call m (closeBody c m row state) :=
  Commits.save (.close row state hget ht hs)

lemma requestBody_commits {kindField keyField nameField : Json} (hm : m.Valid)
    (hset : Lifecycle.Settled c m)
    (hcall : call.isEnrollment (.request kindField keyField nameField) resolve) :
    Commits c call m (requestBody c m kindField keyField nameField) := by
  refine Commits.bind fun kind hkind => Commits.bind fun publicKey hkey =>
    Commits.bind fun name hname => Commits.bind fun _ hopen => Commits.bind fun _ hroom =>
      Commits.bind fun row hnew => ?_
  rw [demand_eq_ok, Option.bind_eq_some_iff] at hkind
  obtain ⟨k, hk, hkind⟩ := hkind
  have hkind' : kindField.str? = some kind.value := by
    have : kind.value = k := by
      have := List.find?_some hkind
      simpa using this
    rw [this]
    exact hk
  rw [Request.requireHex, demand_eq_ok] at hkey
  rw [demand_eq_ok, Option.filter_eq_some_iff] at hname
  simp only [refuse_eq_ok, Bool.or_eq_false_iff, Bool.not_eq_false', decide_eq_false_iff_not,
    not_lt] at hopen
  obtain ⟨⟨⟨-, hlen⟩, hascii⟩, hactive⟩ := hopen
  rw [stateOf_requests] at hroom hnew
  simp only [refuse_eq_ok, decide_eq_false_iff_not, not_le] at hroom
  obtain ⟨-, -, -, -, hrow⟩ := newRequest_eq_ok hnew
  have hkk : row.kind = kind ∧ row.publicKey = publicKey ∧ row.displayName = name := by
    rw [hrow]
    exact ⟨rfl, rfl, rfl⟩
  obtain ⟨rfl, rfl, rfl⟩ := hkk
  have hch : ∀ life, Associates m row life → Change c call m _ := fun life hl =>
    .request kindField keyField nameField resolve row life hcall hset hkind' hkey hname.2 hactive
      hlen hascii hroom hnew hl
  dsimp only
  split
  · next hnone =>
    have h1 := hch _ (.fresh hnone)
    rw [Snapshot.withRequests, unexpired, ← stateOf_requests c m] at h1
    exact Commits.save h1
  · next p hp =>
    obtain ⟨op, hop, -⟩ := hm.pointer hp
    rw [Lifecycle.stateOf_operations, hop]
    refine Commits.staged ?_ rfl ?_
    · have hv := newRequest_valid hm hnew (Request.hexField_eq_some hkey) hname.2 hlen hascii
      rw [stateOf_requests]
      exact validate_request hm hroom hv
    · have h1 := hch _ (.recovering p op hp hop)
      rw [Snapshot.withRequests, unexpired, ← stateOf_requests c m,
        ← Lifecycle.stateOf_blocked m, ← Lifecycle.stateOf_bindings m,
        ← Lifecycle.stateOf_recovery m] at h1
      exact h1

lemma proveBody_commits {requestId signature : Json}
    (hcall : call.isEnrollment (.proof .prove requestId signature) resolve)
    (hid : requestId.str? = some row.requestId) (hget : m.requests.get? row.requestId = some row)
    (hsig : signed c row "prove" signature = true) : Commits c call m (proveBody c m row) := by
  refine Commits.bind fun _ hs => ?_
  simp only [refuse_eq_ok, decide_eq_false_iff_not, not_not] at hs
  have hch : Change c call m _ := .prove requestId signature resolve row hcall hid hget hsig hs
  exact Commits.save hch

lemma redeemBody_commits {requestId signature : Json} (hm : m.Valid)
    (hset : Lifecycle.Settled c m)
    (hcall : call.isEnrollment (.proof .redeem requestId signature) resolve)
    (hid : requestId.str? = some row.requestId) (hget : m.requests.get? row.requestId = some row)
    (hsig : signed c row "redeem" signature = true) : Commits c call m (redeemBody c m row) := by
  refine Commits.bind fun _ hs => Commits.bind fun _ hun => Commits.bind fun credential hcred =>
    Commits.bind fun (staged, records) hrep => ?_
  simp only [refuse_eq_ok, decide_eq_false_iff_not, not_not] at hs
  obtain ⟨c1, c2, c3, c4, c5⟩ := Credential.create_eq_ok hcred
  have hch : ∀ life, Replaces m row credential life → Change c call m _ := fun life hl =>
    .redeem requestId signature resolve row credential life hcall hset hid hget hsig hs hun c1 c2
      c3 c5 c4 hl
  have hopen : (status c m row).terminal = false := by rw [hs]; rfl
  have hacc : validateEnrollment (some ((stateOf c m).put row.requestId
      { row with state := .consumed })) = true := by
    refine validate_put hm { row with state := .consumed } hget rfl fun serverId hv => ?_
    exact validate_consumed ((status_open hopen).1.trans hs) hv
  simp only [Lifecycle.replaceEnrollmentCredential, bind_eq_ok] at hrep
  obtain ⟨bound, hbound, hrep⟩ := hrep
  obtain ⟨rfl, -⟩ := Lifecycle.bindEnrollment_eq_ok hbound
  rw [Lifecycle.retire_valid hm _ { Lifecycle.stateOf m with
    bindings := m.bindings.set row.deviceId ⟨row.publicKey, row.kind⟩ }
    (Lifecycle.stateOf_blocked m)] at hrep
  cases hrep
  have hrec : ∀ bindings blocked, Snapshot.recovery { m with
      lifecycle := some { Lifecycle.stateOf m with bindings, blocked } } = m.recovery :=
    fun _ _ => Lifecycle.stateOf_recovery m
  have hops : ∀ bindings blocked, Snapshot.operations { m with
      lifecycle := some { Lifecycle.stateOf m with bindings, blocked } } = m.operations :=
    fun _ _ => Lifecycle.stateOf_operations m
  dsimp only
  rw [hrec]
  split
  · next hnone =>
    refine Commits.staged hacc rfl ?_
    have h1 := hch _ (.fresh hnone)
    rw [← Lifecycle.stateOf_operations m, ← Lifecycle.stateOf_recovery m] at h1
    exact h1
  · next p hp =>
    obtain ⟨op, hop, -⟩ := hm.pointer hp
    rw [hops, hop]
    refine Commits.staged hacc rfl ?_
    have h1 := hch _ (.recovering p op hp hop)
    rw [← Lifecycle.stateOf_operations m, ← Lifecycle.stateOf_recovery m] at h1
    exact h1

lemma confirmBody_commits {action : Confirm} {requestId code : Json} (hm : m.Valid)
    (hcall : call.isEnrollment (.confirm action requestId code) resolve) :
    Commits c call m (confirmBody c m resolve action requestId code) := by
  refine Commits.bind fun row hrow => Commits.bind fun p hp => Commits.bind fun _ _ =>
    Commits.bind fun _ hs => ?_
  obtain ⟨id, hid, -, hget⟩ := lookup_eq_ok hrow
  obtain rfl := hm.request_id hget
  simp only [refuse_eq_ok, decide_eq_false_iff_not, not_not] at hs
  split
  · exact failure_commits hget
  · next hcode =>
    refine Commits.bind fun _ _ => Commits.bind fun _ _ => Commits.save ?_
    simp only [Bool.not_eq_true, Bool.not_eq_false'] at hcode
    exact .confirm action requestId code resolve p row hcall hid hget hp hs hcode

lemma proofBody_commits {action : Proof} {requestId signature : Json} (hm : m.Valid)
    (hset : Lifecycle.Settled c m)
    (hcall : call.isEnrollment (.proof action requestId signature) resolve) :
    Commits c call m (proofBody c m action requestId signature) := by
  refine Commits.bind fun row hrow => Commits.bind fun _ ht => ?_
  obtain ⟨id, hid, -, hget⟩ := lookup_eq_ok hrow
  obtain rfl := hm.request_id hget
  split
  · exact failure_commits hget
  · next hsig =>
    simp only [Bool.not_eq_true, Bool.not_eq_false'] at hsig
    cases action with
    | status => exact Commits.reply _
    | prove => exact proveBody_commits hcall hid hget hsig
    | redeem => exact redeemBody_commits hm hset hcall hid hget hsig
    | cancel =>
      refine closeBody_commits hget ?_ (Or.inl rfl)
      simpa using ht

/-- A request of enrollment, on a settled snapshot. -/
lemma body_commits {request : Call} (hm : m.Valid) (hset : Lifecycle.Settled c m)
    (hcall : call.isEnrollment request resolve) : Commits c call m (body c request resolve m) := by
  cases request with
  | request kind publicKey name =>
    show Commits c call m (if _ then _ else _)
    split
    · exact Commits.bind fun _ _ => requestBody_commits hm hset hcall
    · exact requestBody_commits hm hset hcall
  | list => exact Commits.bind fun _ _ => Commits.reply _
  | proof action requestId signature => exact proofBody_commits hm hset hcall
  | confirm action requestId code => exact confirmBody_commits hm hcall
  | deny requestId =>
    refine Commits.bind fun row hrow => Commits.bind fun _ _ => Commits.bind fun _ ht => ?_
    obtain ⟨id, -, -, hget⟩ := lookup_eq_ok hrow
    obtain rfl := hm.request_id hget
    exact closeBody_commits hget (by simpa using ht) (Or.inr rfl)

lemma rateBody_commits : Commits c call m (rateBody c m) :=
  Commits.bind fun _ _ => Commits.save (.attempt _)

/-! ### Bindings at the start -/

/-- Nothing changed, or bindings of consumed requests were added. -/
def Bound (m staged : Snapshot) : Prop :=
  staged = m ∨ ∃ bindings, Binds m bindings ∧
    staged = { m with lifecycle := some { Lifecycle.stateOf m with bindings } }

lemma Bound.bindings {staged : Snapshot} (h : Bound m staged) : Binds m staged.bindings := by
  rcases h with rfl | ⟨bindings, hb, rfl⟩
  · exact ⟨fun _ _ h => h, fun _ _ h => Or.inl h⟩
  · exact hb

lemma Bound.bind {staged : Snapshot} (h : Bound m staged) {life : Lifecycle.State}
    (hrow : row ∈ m.requests.values) (hconsumed : row.state = .consumed)
    (hlife : Lifecycle.bindEnrollment staged row = .ok life) :
    Bound m { staged with lifecycle := some life } := by
  obtain ⟨rfl, hsame⟩ := Lifecycle.bindEnrollment_eq_ok hlife
  have hb := h.bindings
  refine Or.inr ⟨staged.bindings.set row.deviceId ⟨row.publicKey, row.kind⟩, ⟨?_, ?_⟩, ?_⟩
  · intro k b hk
    rw [Dict.get?_set]
    split
    · next he =>
      subst he
      rw [hsame b (hb.keeps _ _ hk)]
    · exact hb.keeps k b hk
  · intro k b hk
    rw [Dict.get?_set] at hk
    split at hk
    · next he =>
      cases hk
      exact Or.inr ⟨row, hrow, hconsumed, he, rfl⟩
    · exact hb.adds k b hk
  · rcases h with rfl | ⟨bindings, -, rfl⟩ <;> rfl

lemma bindConsumed_bound : ∀ (rows : List Row) (staged : Snapshot), Bound m staged →
    rows ⊆ m.requests.values → Bound m (bindConsumed staged rows).1
  | [], _, h, _ => h
  | row :: rows, staged, h, hrows => by
    have hrest : rows ⊆ m.requests.values := fun r hr => hrows (List.mem_cons_of_mem _ hr)
    unfold bindConsumed
    split
    · next hc =>
      split
      · exact h
      · next life hlife =>
        exact bindConsumed_bound rows _ (h.bind (hrows List.mem_cons_self) hc hlife) hrest
    · exact bindConsumed_bound rows staged h hrest

/-- A write of the bindings is a change; an error leaves memory staged. -/
lemma bindBody_change {s : Snapshot} {w : Write} {x : Except Error Unit}
    (h : bindBody m = .ok (.save s w x)) : x = .ok () ∧ Change c call m (w.next s) := by
  have hb := bindConsumed_bound m.requests.values m (Or.inl rfl) fun _ hr => hr
  unfold bindBody at h
  rcases hx : bindConsumed m m.requests.values with ⟨staged, r⟩
  rw [hx] at h hb
  cases r with
  | error e => cases h
  | ok u =>
    dsimp only at h
    split at h
    · next hsome =>
      cases h
      refine ⟨rfl, ?_⟩
      rcases hb with rfl | ⟨bindings, hb, rfl⟩
      · obtain ⟨life, hlife⟩ := Option.isSome_iff_exists.mp hsome
        have hch : Change c call s _ := .bind s.bindings ⟨fun _ _ h => h, fun _ _ h => Or.inl h⟩
        have hsame : ({ s with
            lifecycle := some { Lifecycle.stateOf s with bindings := s.bindings } } : Snapshot) =
            s := by
          obtain ⟨records, owner, enrollment, lifecycle, integration⟩ := s
          obtain rfl : lifecycle = some life := hlife
          rfl
        rw [hsame] at hch
        exact hch
      · exact .bind bindings hb
    · cases h

end Enrollment

end Vauxr
