import Mathlib
import Vauxr.Sample
import Vauxr.Writes

/-!
Requests that are rejected.

Every request runs maintenance first, then one body. When it ends in an error of the protocol, the
committed snapshot is the one that maintenance left, but for the charge of a failed proof or of a
wrong user code.
-/

namespace Vauxr

open Lib

/-- The snapshot after a body: what it writes, or the one it was run on. -/
def applied {α : Type} (body : Snapshot → Except Error (Final α)) (m : Snapshot) : Snapshot :=
  match body m with
  | .ok (.save s w _) => w.next s
  | _ => m

/-- A call of one of the three `execute`s. -/
def Call.executes : Call → Bool
  | .enrollment .. | .lifecycle .. | .integration .. => true
  | _ => false

/-- The body of the request is not one its action takes. -/
def Call.malformed : Call → Prop
  | .enrollment action body _ => ∃ e, Enrollment.parse action body = .error e
  | .lifecycle action body _ => ∃ e, Lifecycle.parse action body = .error e
  | .integration action body _ => ∃ e, Integration.parse action body = .error e
  | _ => False

/-- The sweeps and the marking that a request runs before its body. -/
def maintained (c : Ctx) (call : Call) (m : Snapshot) : Snapshot :=
  match call with
  | .enrollment .. => applied (Enrollment.markBody c) (applied (Lifecycle.sweepBody c) m)
  | .lifecycle .. => applied (Lifecycle.sweepBody c) m
  | .integration .. => applied (Integration.sweepBody c) m
  | _ => m

namespace Enrollment

/-- The request that a call names. -/
def Call.requestId : Call → Option Json
  | .proof _ requestId _ | .confirm _ requestId _ | .deny requestId => some requestId
  | .request .. | .list => none

end Enrollment

namespace Integration

/-- A row after a wrong user code. -/
def miscoded (row : Row) : Row :=
  { row with
    attempts := row.attempts + 1
    state := if 5 ≤ row.attempts + 1 then .failed else row.state }

end Integration

/-- What a request that was rejected with this code leaves of the snapshot `m`. -/
inductive Rejected (c : Ctx) (call : Call) (m : Snapshot) (code : String) : Snapshot → Prop
  | malformed : call.malformed → Rejected c call m code m
  | maintained : Rejected c call m code (maintained c call m)
  -- a new integration has the enrollment rows marked before its own is written
  | marked (client : Integration.Client) (origin name expiresAt : Json) (resolve : Resolve) :
      call.isIntegration (.request client origin name expiresAt) resolve →
      Rejected c call m code (applied (Enrollment.markBody c) (maintained c call m))
  | proof (k : Enrollment.Call) (resolve : Resolve) (row : Enrollment.Row) :
      call.isEnrollment k resolve → k.requestId.bind (·.str?) = some row.requestId →
      (maintained c call m).requests.get? row.requestId = some row → code = "invalid_proof" →
      Rejected c call m code ((maintained c call m).putRequest c (Enrollment.charged row))
  | userCode (requestId : String) (userCode : Json) (resolve : Resolve) (row : Integration.Row) :
      call.isIntegration (.approve requestId userCode) resolve → row.requestId = requestId →
      (maintained c call m).agents.get? requestId = some row → code = "invalid_code" →
      Rejected c call m code ((maintained c call m).putAgent (Integration.miscoded row))

/-! ### Bodies -/

/-- Whatever the body writes before it raises this error meets `P`. -/
def Charging {α : Type} (b : Except Error (Final α)) (P : String → Snapshot → Prop) : Prop :=
  ∀ s w code, b = .ok (.save s w (.error (.enrollment code))) → P code (w.next s)

namespace Charging

variable {α β : Type} {P : String → Snapshot → Prop}

lemma bind {x : Except Error β} {f : β → Except Error (Final α)}
    (h : ∀ a, x = .ok a → Charging (f a) P) : Charging (x >>= f) P := by
  intro s w code hb
  obtain ⟨a, ha, hf⟩ := bind_eq_ok.mp hb
  exact h a ha s w code hf

lemma reply (a : α) : Charging (.ok (.reply a)) P := by
  intro s w code hb
  cases hb

lemma raise (s : Snapshot) (e : Error) : Charging (.ok (.raise s e) : Except Error (Final α)) P := by
  intro s w code hb
  cases hb

lemma error (e : Error) : Charging (.error e : Except Error (Final α)) P := by
  intro s w code hb
  cases hb

/-- A write with something to return. -/
lemma save (s : Snapshot) (w : Write) (a : α) : Charging (.ok (.save s w (.ok a))) P := by
  intro s w code hb
  cases hb

end Charging

lemma Performed.rejected {α : Type} {clean : Bool} {h h' : List Snapshot}
    {b : Except Error (Final α)} {code : String} {P : String → Snapshot → Prop}
    (hp : Performed clean h b (.error (.enrollment code)) h') (hb : Charging b P) :
    h' = h ∨ ∃ m', h' = m' :: h ∧ P code m' := by
  cases hp with
  | error | raise | refused | failed => exact Or.inl rfl
  | committed s w x _ hc hr =>
    rcases hr with rfl | ⟨-, e, he, hr⟩
    · exact Or.inr ⟨_, rfl, hb s w code rfl⟩
    · cases hr
      exact he.elim

namespace Lifecycle

variable {c : Ctx} {m : Snapshot} {k : Call} {resolve : Resolve}

lemma body_charging : Charging (body c k resolve m) fun _ _ => False := by
  refine Charging.bind fun p _ => ?_
  cases k with
  | control action id role subject =>
    refine Charging.bind fun _ _ => Charging.bind fun role' _ => Charging.bind fun subject' _ => ?_
    dsimp only
    split
    · exact Charging.bind fun _ _ => Charging.reply _
    · refine Charging.bind fun _ _ => Charging.bind fun row _ => ?_
      cases action with
      | rotate => exact Charging.save _ _ _
      | revoke => exact Charging.bind fun k _ => Charging.save _ _ _
      | recover => exact Charging.bind fun k _ => Charging.save _ _ _
  | poll =>
    refine Charging.bind fun _ _ => ?_
    dsimp only
    split
    · exact Charging.reply _
    · split
      · exact Charging.save _ _ _
      · exact Charging.reply _
  | status id => exact Charging.bind fun _ _ => Charging.reply _
  | ack id saved =>
    refine Charging.bind fun row _ => Charging.bind fun _ _ => ?_
    split
    · exact Charging.reply _
    · exact Charging.bind fun _ _ => Charging.bind fun k _ => Charging.save _ _ _
  | deliver id =>
    exact Charging.bind fun _ _ => Charging.bind fun _ _ => Charging.bind fun _ _ =>
      Charging.bind fun _ _ => Charging.save _ _ _

end Lifecycle

namespace Enrollment

variable {c : Ctx} {m : Snapshot} {row : Row} {k : Call} {resolve : Resolve}

/-- The charge of a failed proof to the request that was addressed. -/
def ChargedTo (c : Ctx) (m : Snapshot) (requestId : Option Json) (code : String) (m' : Snapshot) :
    Prop :=
  ∃ row, requestId.bind (·.str?) = some row.requestId ∧
    m.requests.get? row.requestId = some row ∧ code = "invalid_proof" ∧
    m' = m.putRequest c (charged row)

lemma failure_charging {α : Type} {requestId : Json} (hid : requestId.str? = some row.requestId)
    (hget : m.requests.get? row.requestId = some row) :
    Charging (failure c m row : Except Error (Final α)) (ChargedTo c m (some requestId)) := by
  unfold failure
  split
  · exact Charging.error _
  · intro s w code hb
    cases hb
    exact ⟨row, hid, hget, rfl, rfl⟩

lemma body_charging (hm : m.Valid) :
    Charging (body c k resolve m) (ChargedTo c m k.requestId) := by
  cases k with
  | request kind publicKey name =>
    have hrequest : Charging (requestBody c m kind publicKey name)
        (ChargedTo c m (Call.request kind publicKey name).requestId) := by
      refine Charging.bind fun kind _ => Charging.bind fun publicKey _ =>
        Charging.bind fun name _ => Charging.bind fun _ _ => Charging.bind fun _ _ =>
          Charging.bind fun row _ => ?_
      dsimp only
      split
      · exact Charging.save _ _ _
      · split
        · exact Charging.raise _ _
        · exact Charging.save _ _ _
    show Charging (if _ then _ else _) _
    split
    · exact Charging.bind fun _ _ => hrequest
    · exact hrequest
  | list => exact Charging.bind fun _ _ => Charging.reply _
  | proof action requestId signature =>
    refine Charging.bind fun row hrow => Charging.bind fun _ _ => ?_
    obtain ⟨id, hid, -, hget⟩ := lookup_eq_ok hrow
    obtain rfl := hm.request_id hget
    split
    · exact failure_charging hid hget
    · cases action with
      | status => exact Charging.reply _
      | prove => exact Charging.bind fun _ _ => Charging.save _ _ _
      | redeem =>
        refine Charging.bind fun _ _ => Charging.bind fun _ _ => Charging.bind fun credential _ =>
          Charging.bind fun k _ => ?_
        dsimp only
        split
        · exact Charging.raise _ _
        · split
          · exact Charging.save _ _ _
          · split
            · exact Charging.raise _ _
            · exact Charging.save _ _ _
      | cancel => exact Charging.save _ _ _
  | confirm action requestId code =>
    refine Charging.bind fun row hrow => Charging.bind fun p _ => Charging.bind fun _ _ =>
      Charging.bind fun _ _ => ?_
    obtain ⟨id, hid, -, hget⟩ := lookup_eq_ok hrow
    obtain rfl := hm.request_id hget
    split
    · exact failure_charging hid hget
    · exact Charging.bind fun _ _ => Charging.bind fun _ _ => Charging.save _ _ _
  | deny requestId =>
    exact Charging.bind fun row _ => Charging.bind fun _ _ => Charging.bind fun _ _ =>
      Charging.save _ _ _

end Enrollment

namespace Integration

variable {c : Ctx} {m : Snapshot} {k : Call} {resolve : Resolve}

/-- The charge of a wrong user code to the integration that was addressed. -/
def ChargedTo (m : Snapshot) (k : Call) (code : String) (m' : Snapshot) : Prop :=
  ∃ requestId userCode row, k = .approve requestId userCode ∧ row.requestId = requestId ∧
    m.agents.get? requestId = some row ∧ code = "invalid_code" ∧ m' = m.putAgent (miscoded row)

lemma closeBody_charging {row : Row} {target : Status} {P : String → Snapshot → Prop} :
    Charging (closeBody m row target) P := by
  unfold closeBody
  split
  · exact Charging.reply _
  · refine Charging.bind fun _ _ => ?_
    dsimp only
    split
    · exact Charging.save _ _ _
    · exact Charging.bind fun s _ => Charging.save _ _ _

lemma approveBody_charging (hm : m.Valid) {requestId : String} {code : Json} :
    Charging (approveBody c resolve requestId code m)
      (ChargedTo m (.approve requestId code)) := by
  refine Charging.bind fun _ _ => Charging.bind fun row hrow => Charging.bind fun _ _ => ?_
  have hget := lookup_eq_ok hrow
  obtain ⟨rfl, -⟩ := hm.agent_request_id hget
  split
  · intro s w code' hb
    cases hb
    exact ⟨row.requestId, code, row, rfl, rfl, hget, rfl, rfl⟩
  · exact Charging.save _ _ _

lemma bodyOf_charging (hm : m.Valid) {b : Snapshot → Except Error (Final Reply)}
    (hb : bodyOf c resolve k = some b) : Charging (b m) (ChargedTo m k) := by
  cases k with
  | request | ack => cases hb
  | status client =>
    cases hb
    exact Charging.bind fun _ _ => Charging.reply _
  | deliver client =>
    cases hb
    exact Charging.bind fun _ _ => Charging.bind fun _ _ => Charging.bind fun _ _ =>
      Charging.save _ _ _
  | cancel client =>
    cases hb
    exact Charging.bind fun _ _ => closeBody_charging
  | list =>
    cases hb
    exact Charging.bind fun _ _ => Charging.reply _
  | approve requestId code =>
    cases hb
    exact approveBody_charging hm
  | deny requestId =>
    cases hb
    exact Charging.bind fun _ _ => Charging.bind fun _ _ => closeBody_charging

/-- The client that creates a row is answered from it. -/
lemma createBody_charging {client : Client} {terms : Terms} {P : String → Snapshot → Prop} :
    Charging (createBody c client terms m) P := by
  unfold createBody
  dsimp only
  split
  · exact Charging.raise _ _
  · intro s w code hb
    injection hb with hb
    injection hb with _ _ hx
    simp only [requestReply, bne_self_eq_false, decide_not, decide_true, Bool.not_true,
      Bool.or_self, refuse] at hx
    cases hx

lemma completeBody_charging {row : Row} {r : Credential} {P : String → Snapshot → Prop} :
    Charging (completeBody row r m) P := by
  unfold completeBody
  split
  · exact Charging.reply _
  · exact Charging.save _ _ _

end Integration

/-! ### Maintenance -/

variable {c : Ctx} {call : Call} {clean : Bool} {h h' : List Snapshot} {w : World}

lemma Store.runs_and {α : Type} {active : Bool} {x : StoreM α}
    {P Q : Except Error α → List Snapshot → Prop} (hP : Runs (Holds active clean) x h P)
    (hQ : Runs (Holds active clean) x h Q) :
    Runs (Holds active clean) x h fun r h' => P r h' ∧ Q r h' := by
  intro w hw
  obtain ⟨h₁, hh₁, hp⟩ := hP w hw
  obtain ⟨h₂, hh₂, hq⟩ := hQ w hw
  obtain rfl := hh₁.toStored.unique hh₂.toStored
  exact ⟨h₁, hh₁, hp, hq⟩

/-- A maintenance step that returns has applied its body; only a fault of the storage can stop
it. -/
def Applies (body : Snapshot → Except Error (Final Unit)) (clean : Bool) (h : List Snapshot)
    (r : Except Error Unit) (h' : List Snapshot) : Prop :=
  (∀ u, r = .ok u → latest h' = applied body (latest h)) ∧
    ∀ e, r = .error e → clean = false ∧ e.storage

lemma perform_applies {body : Snapshot → Except Error (Final Unit)}
    {R : List Snapshot → List Snapshot → Prop}
    (hs : (latest h).Valid → Sound (latest h) (body (latest h)))
    (hm : Runs (Holds true clean) (Store.perform c body) h (Maintains R clean h)) :
    Runs (Holds true clean) (Store.perform c body) h (Applies body clean h) := by
  refine (Store.runs_and (Store.perform_runs c hs) hm).conseq ?_
  rintro r h' ⟨hp, hm⟩
  constructor
  · rintro u rfl
    unfold applied
    rcases hp.of_ok with ⟨hb, rfl⟩ | ⟨s, w, hb, -, rfl⟩
    · rw [hb]
    · rw [hb]
      rfl
  · rintro e rfl
    rcases hm with ⟨hm, -⟩ | ⟨⟨hcl, e', he', hf⟩, -⟩
    · cases hm
    · cases hf
      exact ⟨hcl, he'⟩

lemma Lifecycle.sweepBody_sound {m : Snapshot} (hm : m.Valid) : Sound m (sweepBody c m) := by
  rcases sweepBody_spec c hm with ⟨he, -⟩ | ⟨blocked, write, -, he, -⟩
  · rw [he]
    trivial
  · rw [he]
    exact Or.inr rfl

lemma Lifecycle.sweep_applies (c : Ctx) (clean : Bool) (h : List Snapshot) :
    Runs (Holds true clean) (sweep c) h (Applies (sweepBody c) clean h) :=
  Store.transaction_runs (perform_applies sweepBody_sound (sweepBody_runs c clean h))

lemma Enrollment.mark_applies (c : Ctx) (clean : Bool) (h : List Snapshot) :
    Runs (Holds true clean) (Store.perform c (markBody c)) h (Applies (markBody c) clean h) := by
  have hsound : ∀ m, Commits c .ownerRate m (markBody c m) := fun m => markBody_commits
  exact perform_applies (fun _ => (hsound _).sound) (mark_runs c clean h)

lemma Integration.sweepBody_sound {m : Snapshot} (hm : m.Valid) : Sound m (sweepBody c m) := by
  obtain ⟨acc, ids, hs, hbody⟩ := sweepBody_eq c hm
  rw [hbody]
  split
  · exact Or.inl ⟨rfl, rfl⟩
  · trivial

lemma Integration.sweep_applies (c : Ctx) (clean : Bool) (h : List Snapshot) :
    Runs (Holds true clean) (sweep c) h (Applies (sweepBody c) clean h) :=
  Store.transaction_runs (perform_applies sweepBody_sound (sweepBody_runs c clean h))

/-! ### Requests -/

/-- An end of the request that leaves what a rejected one may leave. -/
def Spoils (c : Ctx) (call : Call) (h : List Snapshot) {α : Type} (r : Except Error α)
    (h' : List Snapshot) : Prop :=
  ∀ code, r = .error (.enrollment code) → Rejected c call (latest h) code (latest h')

lemma Spoils.of_storage {α : Type} {e : Error} (he : e.storage) :
    Spoils c call h (.error e : Except Error α) h' := by
  intro code hr
  cases hr
  exact he.elim

/-- What follows maintenance. -/
lemma Applies.ends {α : Type} {body : Snapshot → Except Error (Final Unit)} {y : StoreM Unit}
    {g : Unit → StoreM α} {h₀ : List Snapshot} (hw : Holds true clean w h)
    (hy : Runs (Holds true clean) y h (Applies body clean h))
    (hg : ∀ w₁ h₁, Holds true clean w₁ h₁ → latest h₁ = applied body (latest h) →
      Leaves clean (g ()) w₁ (Spoils c call h₀)) :
    Leaves clean (y >>= g) w (Spoils c call h₀) :=
  Leaves.bind hw hy (fun u w₁ h₁ hw₁ ha => hg w₁ h₁ hw₁ (ha.1 u rfl))
    fun e _ ha => Spoils.of_storage (ha.2 e rfl).2

lemma Lifecycle.execute_spoils (action : String) (body : Json) (resolve : Resolve)
    (hw : Idle clean w h) :
    Leaves clean (execute c action body resolve) w
      (Spoils c (.lifecycle action body resolve) h) := by
  refine Leaves.ofExcept hw.toStored (fun k hk => Leaves.transaction hw fun w' hw' => ?_)
    fun e he code _ => .malformed ⟨e, he⟩
  refine Applies.ends hw' (sweep_applies c clean h) fun w₁ h₁ hw₁ ha => ?_
  refine Leaves.perform hw₁ fun r h' hp code hr => ?_
  have hbase : latest h₁ = maintained c (.lifecycle action body resolve) (latest h) := ha
  subst hr
  rcases hp.rejected body_charging with rfl | ⟨m', -, hf⟩
  · rw [hbase]
    exact .maintained
  · exact hf.elim

lemma Enrollment.execute_spoils (action : String) (body : Json) (resolve : Resolve)
    (hw : Idle clean w h) :
    Leaves clean (execute c action body resolve) w
      (Spoils c (.enrollment action body resolve) h) := by
  refine Leaves.ofExcept hw.toStored (fun k hk => Leaves.transaction hw fun w' hw' => ?_)
    fun e he code _ => .malformed ⟨e, he⟩
  refine Applies.ends hw' (Lifecycle.sweep_applies c clean h) fun w₁ h₁ hw₁ ha₁ => ?_
  refine Applies.ends hw₁ (mark_applies c clean h₁) fun w₂ h₂ hw₂ ha₂ => ?_
  refine Leaves.perform hw₂ fun r h' hp code hr => ?_
  have hbase : latest h₂ = maintained c (.enrollment action body resolve) (latest h) := by
    rw [ha₂, ha₁]
    rfl
  subst hr
  rcases hp.rejected (body_charging hw₂.toStored.valid_latest) with
    rfl | ⟨m', rfl, row, hid, hget, hcode, rfl⟩
  · rw [hbase]
    exact .maintained
  · rw [hbase] at hget
    rw [latest_cons, hbase]
    exact .proof k resolve row ⟨action, body, rfl, hk⟩ hid hget hcode

namespace Integration

lemma request_spoils {action : String} {body : Json} {resolve : Resolve} {client : Client}
    {origin name expiresAt : Json} {h₀ : List Snapshot}
    (hk : parse action body = .ok (.request client origin name expiresAt))
    (hw : Holds true clean w h)
    (hbase : latest h = maintained c (.integration action body resolve) (latest h₀)) :
    Leaves clean (request c client origin name expiresAt) w
      (Spoils c (.integration action body resolve) h₀) := by
  have hstays : ∀ {r : Except Error Reply}, Spoils c (.integration action body resolve) h₀ r h := by
    intro r code _
    rw [hbase]
    exact .maintained
  refine Leaves.ofExcept hw.toStored (fun terms _ => Leaves.mem hw ?_) fun e _ => hstays
  split
  · exact ⟨h, by rw [Store.outcome_ofExcept]; exact hw.toStored, hstays⟩
  · refine Leaves.ofExcept hw.toStored (fun u _ => ?_) fun e _ => hstays
    refine Applies.ends hw (Enrollment.mark_applies c clean h) fun w₁ h₁ hw₁ ha => ?_
    refine Leaves.perform hw₁ fun r h' hp code hr => ?_
    subst hr
    rcases hp.rejected (createBody_charging (P := fun _ _ => False)) with rfl | ⟨m', -, hf⟩
    · rw [ha, hbase]
      exact .marked client origin name expiresAt resolve ⟨action, body, rfl, hk⟩
    · exact hf.elim

lemma ack_spoils {action : String} {body : Json} {resolve : Resolve} {client : Client}
    {credential saved : Json} {h₀ : List Snapshot} (hw : Holds true clean w h)
    (hbase : latest h = maintained c (.integration action body resolve) (latest h₀)) :
    Leaves clean (ack c client credential saved) w
      (Spoils c (.integration action body resolve) h₀) := by
  have hstays : ∀ {r : Except Error Reply}, Spoils c (.integration action body resolve) h₀ r h := by
    intro r code _
    rw [hbase]
    exact .maintained
  refine Leaves.mem hw (Leaves.ofExcept hw.toStored (fun k hack => ?_) fun e _ => hstays)
  obtain ⟨row, r⟩ := k
  have hvalid := agentOf_valid (c := c) hw.toStored.valid_latest (acknowledged_row hack)
  refine Leaves.bind hw (Store.framed_runs (Store.framed_registerAgent c hvalid) true clean h)
    (fun _ w₁ h₁ hw₁ hq => ?_) fun e h₁ hq => Spoils.of_storage (hq.2 e rfl)
  obtain ⟨rfl, -⟩ := hq
  refine Leaves.perform hw₁ fun r' h' hp code hr => ?_
  subst hr
  rcases hp.rejected (completeBody_charging (P := fun _ _ => False)) with rfl | ⟨m', -, hf⟩
  · exact hstays code rfl
  · exact hf.elim

lemma execute_spoils (action : String) (body : Json) (resolve : Resolve)
    (hw : Idle clean w h) :
    Leaves clean (execute c action body resolve) w
      (Spoils c (.integration action body resolve) h) := by
  refine Leaves.ofExcept hw.toStored (fun k hk => Leaves.transaction hw fun w' hw' => ?_)
    fun e he code _ => .malformed ⟨e, he⟩
  refine Applies.ends hw' (sweep_applies c clean h) fun w₁ h₁ hw₁ ha => ?_
  have hbase : latest h₁ = maintained c (.integration action body resolve) (latest h) := ha
  have hone : ∀ b, bodyOf c resolve k = some b →
      Leaves clean (Store.perform c b) w₁ (Spoils c (.integration action body resolve) h) := by
    intro b hb
    refine Leaves.perform hw₁ fun r h' hp code hr => ?_
    subst hr
    rcases hp.rejected (bodyOf_charging hw₁.toStored.valid_latest hb) with
      rfl | ⟨m', rfl, requestId, userCode, row, rfl, hid, hget, hcode, rfl⟩
    · rw [hbase]
      exact .maintained
    · rw [hbase] at hget
      rw [latest_cons, hbase]
      exact .userCode requestId userCode resolve row ⟨action, body, rfl, hk⟩ hid hget hcode
  cases k with
  | request client origin name expiresAt => exact request_spoils hk hw₁ hbase
  | ack client credential saved => exact ack_spoils hw₁ hbase
  | status | deliver | cancel | list | approve | deny => exact hone _ rfl

end Integration

/-- **Rejected requests change nothing**: in every run, a request that is answered with an error
of the protocol leaves the committed snapshot as maintenance left it, but for one charge. -/
theorem rejected_requests (σ : ServiceRun) (n : ℕ) (code : String)
    (hcall : (σ.1 n).call.executes = true)
    (hr : (σ.1 n).result (worldAt σ.1 n) = .error (.enrollment code)) :
    Rejected (σ.1 n).ctx (σ.1 n).call (latest (worldAt σ.1 n).committed) code
      (latest (worldAt σ.1 (n + 1)).committed) := by
  have hw := ((worldAt_rests σ.2 n).faults (σ.1 n).faults).idle
  have hnext : worldAt σ.1 (n + 1) = (outcome (System.exec (σ.1 n).ctx (σ.1 n).call)
      { worldAt σ.1 n with faults := (σ.1 n).faults }).2 := rfl
  have hres : (σ.1 n).result (worldAt σ.1 n) = (outcome (System.exec (σ.1 n).ctx (σ.1 n).call)
      { worldAt σ.1 n with faults := (σ.1 n).faults }).1 := rfl
  have hmap : ∀ {α : Type} {x : Except Error α} {f : α → Reply},
      x.map f = .error (.enrollment code) → x = .error (.enrollment code) := by
    intro α x f hx
    cases x with
    | error e => simpa [Except.map] using hx
    | ok a => cases hx
  rw [hres] at hr
  rw [hnext]
  generalize (σ.1 n).call = call at hcall hr ⊢
  generalize (σ.1 n).ctx = c at hr ⊢
  cases call with
  | console | ownerRate | claim | acknowledge | login | session | logout | ownerInit
  | enrollmentRate | lifecycleSweep | integrationSweep | start | reload | replace
  | stage => cases hcall
  | enrollment action body resolve =>
    simp only [System.exec, System.outcome_bind_pure] at hr ⊢
    obtain ⟨h', hst, hp⟩ := Enrollment.execute_spoils (c := c) action body resolve hw
    rw [hst.committed]
    exact hp code (hmap hr)
  | lifecycle action body resolve =>
    simp only [System.exec, System.outcome_bind_pure] at hr ⊢
    obtain ⟨h', hst, hp⟩ := Lifecycle.execute_spoils (c := c) action body resolve hw
    rw [hst.committed]
    exact hp code (hmap hr)
  | integration action body resolve =>
    simp only [System.exec, System.outcome_bind_pure] at hr ⊢
    obtain ⟨h', hst, hp⟩ := Integration.execute_spoils (c := c) action body resolve hw
    rw [hst.committed]
    exact hp code (hmap hr)

/-! ### A sample run -/

namespace Sample

/-- Calls one after the other, in a process that has a token in its environment. -/
def operated (calls : ℕ → Call) (n : ℕ) : Step where
  ctx := { ctx n (1000 + n) with override := some operator }
  call := calls n
  faults := []

def asOwner : Resolve := fun m => m.owner.map fun s => ⟨.owner, "owner", s.generation, ""⟩

def texts (fields : List (String × String)) : Json := .obj (fields.map fun f => (f.1, .str f.2))

/-- A device asks for its enrollment and then never signs; in between the server restarts. -/
def proving : ℕ → Call
  | 0 | 4 => .start
  | 1 => .enrollment "request" (texts [("kind", "physical"), ("public_key", (draws 1).nonce.1),
      ("display_name", "Kitchen")]) asOwner
  | _ => .enrollment "prove" (texts [("request_id", (draws 1).requestId.1), ("signature", "")])
      asOwner

lemma proving_services : Services (operated proving)
  | 0 | 1 | 2 | 3 | 4 | _ + 5 => rfl

end Sample

/-- The first proof is refused, and charged to the request. -/
theorem rejected_requests_sample :
    Rejected (Sample.operated Sample.proving 2).ctx (Sample.operated Sample.proving 2).call
      (latest (worldAt (Sample.operated Sample.proving) 2).committed) "invalid_proof"
      (latest (worldAt (Sample.operated Sample.proving) 3).committed) :=
  rejected_requests ⟨Sample.operated Sample.proving, Sample.proving_services⟩ 2 "invalid_proof" rfl
    (by decide +kernel)

end Vauxr
