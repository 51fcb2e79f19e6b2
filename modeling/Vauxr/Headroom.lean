import Vauxr.Atomicity
import Vauxr.Sample

/-!
Headroom for revocation. Every committed snapshot keeps the reserve, so nothing that retires is
ever refused for want of capacity: neither a sweep, an acknowledgement, a denial or a cancellation,
nor the revoke of a subject that has anything left to revoke.
-/

namespace Vauxr

open Lib

def capacity : Error := .enrollment "capacity"

lemma refuse_ne_capacity {p : Bool} {e : Error} (h : e ≠ capacity) :
    refuse p e ≠ .error capacity := by
  rw [Ne, refuse_eq_error]
  exact fun he => h he.2

lemma demand_ne_capacity {α : Type} {o : Option α} {e : Error} (h : e ≠ capacity) :
    demand o e ≠ .error capacity := by
  rw [Ne, demand_eq_error]
  exact fun he => h he.2

lemma bind_ne_capacity {α β : Type} {x : Except Error α} {f : α → Except Error β}
    (hx : x ≠ .error capacity) (hf : ∀ a, f a ≠ .error capacity) : x >>= f ≠ .error capacity := by
  rw [Ne, bind_eq_error]
  rintro (he | ⟨a, -, he⟩)
  · exact hx he
  · exact hf a he

lemma Error.storage.ne_capacity {e : Error} (h : e.storage) : e ≠ capacity := by
  rintro rfl
  exact h

/-- A check that raises capacity finds no room. -/
lemma Snapshot.not_room_of_check {s : Snapshot} {old : List Credential}
    (h : s.check old = .error capacity) : ¬s.Room := by
  intro hroom
  have hcap := Snapshot.hasCapacity_iff.mpr hroom
  unfold check at h
  repeat' split at h
  all_goals first
    | (simp [capacity] at h; done)
    | simp_all

/-! ### Bodies that have room -/

/-- A body that neither raises capacity nor writes a snapshot without room. -/
def Spares {α : Type} : Except Error (Final α) → Prop
  | .error e => e ≠ capacity
  | .ok (.reply _) => True
  | .ok (.raise _ e) => e ≠ capacity
  | .ok (.save s w x) => (w.next s).Room ∧ x ≠ .error capacity

namespace Spares

variable {α β : Type} {clean : Bool} {h h' : List Snapshot}

lemma bind {x : Except Error β} {f : β → Except Error (Final α)} (hx : x ≠ .error capacity)
    (hf : ∀ a, x = .ok a → Spares (f a)) : Spares (x >>= f) := by
  cases x with
  | error e => exact fun he => hx (congrArg _ he)
  | ok a => exact hf a rfl

lemma performed {b : Except Error (Final α)} {r : Except Error α} (hb : Spares b)
    (hp : Performed clean h b r h') : r ≠ .error capacity := by
  cases hp with
  | error e => exact fun he => hb (Except.error.inj he)
  | reply => exact fun he => by cases he
  | raise s e => exact fun he => hb (Except.error.inj he)
  | refused s w x e he =>
    intro hc
    cases hc
    rcases he with he | ⟨-, m, he⟩
    · exact Snapshot.not_room_of_check he hb.1
    · cases he
  | failed s w x e _ he => exact fun hc => he.ne_capacity (Except.error.inj hc)
  | committed s w x r _ hr =>
    rcases hr with rfl | ⟨-, e, he, rfl⟩
    · exact hb.2
    · exact fun hc => he.ne_capacity (Except.error.inj hc)

end Spares

/-- A body whose writes all return has committed nothing when it raises a refusal. -/
lemma Performed.eq_of_error {α : Type} {clean : Bool} {h h' : List Snapshot}
    {b : Except Error (Final α)} {r : Except Error α} (hp : Performed clean h b r h')
    (hb : ∀ s w x, b = .ok (.save s w x) → ∃ a, x = .ok a) {e : Error} (he : r = .error e)
    (hst : ¬e.storage) : h' = h := by
  cases hp with
  | error | reply | raise | refused | failed => rfl
  | committed s w x r _ hr =>
    exfalso
    obtain ⟨a, ha⟩ := hb s w x rfl
    rcases hr with hr | ⟨-, e', he', hr⟩
    · rw [he, ha] at hr
      cases hr
    · rw [he] at hr
      obtain rfl := Except.error.inj hr
      exact hst he'

lemma Maintains.ne_capacity {R : List Snapshot → List Snapshot → Prop} {clean : Bool}
    {h h' : List Snapshot} {r : Except Error Unit} (hm : Maintains R clean h r h') :
    r ≠ .error capacity := by
  rcases hm with ⟨rfl, -⟩ | ⟨⟨-, e, he, rfl⟩, -⟩
  · exact fun h => by cases h
  · exact fun hc => he.ne_capacity (Except.error.inj hc)

namespace Snapshot

variable {m m' : Snapshot}

/-- Room depends on the verifiers, the tombstones and the operations alone. -/
lemma Room.congr (hm : m.Room) (hd : m'.digests = m.digests) (hb : m'.blocked = m.blocked)
    (ho : m'.operations = m.operations) : m'.Room :=
  hm.retire hd (hb ▸ fun _ hv => hv) (fun v hv => Or.inl (hb ▸ hv)) (by rw [ho])
    (by unfold unfinished; rw [ho])

/-- Nothing of the subject is left to revoke. -/
structure Spent (m : Snapshot) (subject : String) : Prop where
  records : ∀ r ∈ m.records, r.subject = subject → r.verifier ∈ m.blocked
  operations : ∀ id op, m.operations.get? id = some op → op.subject = subject →
    op.state.terminal = true

end Snapshot

/-! ### The revoke -/

namespace Lifecycle

variable {c : Ctx} {m : Snapshot}

/-- What a revoke writes. -/
def revoked (m : Snapshot) (id : String) (row : Row) : Snapshot :=
  { m with
    records := disable row.oldIds m.records
    enrollment := invalidateEnrollments m row.oldIds row.subject
    lifecycle := some ((endActive { stateOf m with
      blocked := blockedWith m.blocked row.oldIds m.records } row.subject).put id
        { row with state := .revoked }) }

lemma revoked_operations (m : Snapshot) (id : String) (row : Row) :
    (revoked m id row).operations =
      (endActive (stateOf m) row.subject).operations.set id { row with state := .revoked } := rfl

lemma revoked_blocked (m : Snapshot) (id : String) (row : Row) :
    Blocks m row.oldIds (revoked m id row).blocked := m.retired_blocks row.oldIds

lemma revoked_digests (m : Snapshot) (id : String) (row : Row) :
    (revoked m id row).digests = m.digests := map_verifier_disable row.oldIds m.records

lemma endActive_operations (m : Snapshot) (subject : String) :
    (endActive (stateOf m) subject).operations = m.operations.map fun _ old =>
      if isActive subject old then { old with state := .revoked } else old := by
  rw [← stateOf_operations m]
  rfl

lemma live_endActive {subject : String} {op : Row}
    (h : (!(if isActive subject op then { op with state := .revoked } else op : Row).state.terminal)
      = true) : (!op.state.terminal) = true := by
  split at h
  · cases h
  · exact h

lemma revoked_unfinished (m : Snapshot) {id : String} (row : Row)
    (hnone : m.operations.get? id = none) : (revoked m id row).unfinished =
      (endActive (stateOf m) row.subject).operations.values.countP fun op => !op.state.terminal := by
  unfold Snapshot.unfinished
  rw [revoked_operations, Dict.countP_set_of_none]
  · rfl
  · rw [get?_endActive, hnone]
    rfl

lemma revoked_unfinished_le {id : String} (row : Row) (hnone : m.operations.get? id = none) :
    (revoked m id row).unfinished ≤ m.unfinished := by
  rw [revoked_unfinished m row hnone, endActive_operations]
  exact Dict.countP_map_le _ fun _ _ h => live_endActive h

lemma revoked_unfinished_lt {id id' : String} (row : Row) {op : Row}
    (hnone : m.operations.get? id = none) (hop : m.operations.get? id' = some op)
    (ha : isActive row.subject op = true) :
    (revoked m id row).unfinished < m.unfinished := by
  rw [revoked_unfinished m row hnone, endActive_operations]
  refine Dict.countP_map_lt (fun _ _ h => live_endActive h) (Dict.mem_entries.mpr hop) ?_ ?_
  · rw [(isActive_iff.mp ha).2]
    rfl
  · rw [if_pos ha]
    rfl

/-- What a revoke is let through with: room in the general history, or a liability. -/
lemma admission_revoke {role : Role} {subject : String}
    (h : admission c m .revoke role subject = .ok ()) :
    m.operations.size < limit ∨
      (∃ id op, m.operations.get? id = some op ∧ isActive subject op = true) ∨
      ∃ r ∈ m.records, r.role = role ∧ r.subject = subject ∧ r.verifier ∉ m.blocked := by
  simp only [admission, bind_eq_ok, refuse_eq_ok, exists_const, stateOf_operations,
    stateOf_blocked] at h
  have hcap := h.2.1
  simp only [decide_true, Bool.true_and, Bool.and_eq_false_iff, decide_eq_false_iff_not, not_le,
    Bool.not_eq_false', Bool.or_eq_true, List.any_eq_true] at hcap
  rcases hcap with hcap | ⟨op, hop, ha⟩ | ⟨r, hr, hb⟩
  · exact Or.inl hcap
  · obtain ⟨id, hop⟩ := Dict.mem_values.mp hop
    exact Or.inr (Or.inl ⟨id, op, hop, ha⟩)
  · simp only [records, List.mem_filter, Bool.and_eq_true, decide_eq_true_eq, beq_iff_eq] at hr
    simp only [Bool.not_eq_true', decide_eq_false_iff_not] at hb
    exact Or.inr (Or.inr ⟨r, hr.1, hr.2.1, hr.2.2, hb⟩)

/-- Only a subject that has nothing left is refused for want of capacity. -/
lemma admission_capacity (hm : m.Valid) {role : Role} {subject : String}
    (h : admission c m .revoke role subject = .error capacity) : m.Spent subject := by
  simp only [admission, bind_eq_error, refuse_eq_error, refuse_eq_ok, exists_const,
    stateOf_operations, stateOf_blocked, decide_true, Bool.true_and] at h
  rcases h with ⟨-, he⟩ | ⟨hne, ⟨hcap, -⟩ | ⟨-, ⟨ha, -⟩ | ⟨-, ha, -⟩⟩⟩
  · simp [capacity] at he
  · simp only [Bool.and_eq_true, decide_eq_true_eq, Bool.not_eq_true', Bool.or_eq_false_iff,
      List.any_eq_false, Bool.not_eq_false, List.isEmpty_eq_false_iff] at hcap hne
    obtain ⟨-, hactive, hblocked⟩ := hcap
    obtain ⟨r₀, hr₀⟩ := List.exists_mem_of_ne_nil _ hne
    simp only [records, List.mem_filter, Bool.and_eq_true, decide_eq_true_eq, beq_iff_eq] at hr₀
    refine ⟨fun r hr hs => ?_, fun id op hop hs => ?_⟩
    · have hrole : r.role = role := by
        rw [← hr₀.2.1]
        exact hm.role_of_subject hr hr₀.1 (hs.trans hr₀.2.2.symm)
      have := hblocked r (by simp [records, hr, hrole, hs])
      simpa using this
    · have := hactive op (Dict.get?_mem_values hop)
      simpa [isActive, hs] using this
  · simp at ha
  · simp at ha

/-- The reserve pays for the revoke of a liability; any revoke fits in the general history. -/
lemma revoked_room (hm : m.Valid) {id : String} {row : Row}
    (hnone : m.operations.get? id = none)
    (hold : row.oldIds = (records m row.role row.subject).map (·.id))
    (hadm : admission c m .revoke row.role row.subject = .ok ()) : (revoked m id row).Room := by
  have hroom := hm.room
  have hd := revoked_digests m id row
  have hb := revoked_blocked m id row
  have hsub := (Snapshot.unblocked_sublist hd hb.subset).length_le
  have hun := revoked_unfinished_le row hnone
  have hsize : (revoked m id row).operations.size = m.operations.size + 1 := by
    rw [revoked_operations, Dict.size_set_of_none, endActive_operations, Dict.size_map]
    rw [get?_endActive, hnone]
    rfl
  have hres := hroom.reserve
  have hlen : (revoked m id row).records.length = m.records.length := length_disable _ _
  refine ⟨hlen ▸ hroom.records, (Snapshot.length_tombstones_le hd hb.digests).trans
    hroom.tombstones, ?_⟩
  rcases admission_revoke hadm with hlt | ⟨id', op, hop, ha⟩ | ⟨r, hr, hrole, hs, hv⟩
  · have h1 : m.unfinished ≤ m.operations.size := by
      simpa [Snapshot.unfinished, Dict.values, Dict.size] using
        List.countP_le_length (p := fun row : Row => !row.state.terminal) (l := m.operations.values)
    have h2 : m.unblocked.length ≤ m.records.length := by
      have h := (List.length_filter_le (· ∉ m.blocked) m.digests.dedup).trans
        (List.dedup_sublist m.digests).length_le
      simpa [Snapshot.unblocked, Snapshot.digests] using h
    have h3 := hroom.records
    simp only [operationLimit, limit] at *
    omega
  · have hlt := revoked_unfinished_lt row hnone hop ha
    omega
  · have hlt := Snapshot.length_unblocked_lt hd hb.subset (List.mem_map_of_mem hr) hv
      ((hb.mem _).mpr (Or.inr ⟨r, hr, ?_, rfl⟩))
    · omega
    · rw [hold]
      exact List.mem_map_of_mem (by simp [records, hr, hrole, hs])

lemma authorize_ne_capacity (resolve : Resolve) : authorize c m resolve ≠ .error capacity := by
  refine bind_ne_capacity (demand_ne_capacity (by simp [capacity])) fun p => ?_
  exact bind_ne_capacity (refuse_ne_capacity (by simp [capacity])) fun _ h => (nomatch h)

/-- A revoke spares the reserve, or finds nothing left to revoke. -/
lemma revoke_spares (hm : m.Valid) {id : String} {role subject : Json} {resolve : Resolve}
    (h : ∀ s, subject.str? = some s → ¬m.Spent s) :
    Spares (body c (.control .revoke id role subject) resolve m) := by
  refine .bind (authorize_ne_capacity resolve) fun p _ => ?_
  refine .bind (refuse_ne_capacity (by simp [capacity])) fun _ _ => ?_
  refine .bind (demand_ne_capacity (by simp [capacity])) fun r _ => ?_
  refine .bind (demand_ne_capacity (by simp [capacity])) fun s hs => ?_
  rw [demand_eq_ok] at hs
  dsimp only
  split
  · exact .bind (refuse_ne_capacity (by simp [capacity])) fun _ _ => trivial
  · next hnone =>
    rw [stateOf_operations] at hnone
    refine .bind (fun he => h s hs (admission_capacity hm he)) fun _ hadm => ?_
    refine .bind ?_ fun row hrow => ?_
    · exact bind_ne_capacity (demand_ne_capacity fun h => by cases h) fun _ h => (nomatch h)
    · have hnew := newOperation_eq_ok hrow
      obtain rfl := hnew.role
      obtain rfl := hnew.subject
      rw [retire_valid hm row.oldIds (stateOf m) (stateOf_blocked m)]
      exact ⟨revoked_room hm hnone hnew.oldIds hadm, fun he => by cases he⟩

/-- A control that writes returns. -/
lemma control_result {action : Action} {id : String} {role subject : Json} {resolve : Resolve}
    {s : Snapshot} {w : Write} {x : Except Error Reply}
    (h : body c (.control action id role subject) resolve m = .ok (.save s w x)) :
    ∃ a, x = .ok a := by
  simp only [body, controlBody, bind_eq_ok] at h
  obtain ⟨p, -, u, -, r, -, s', -, h⟩ := h
  split at h
  · rw [bind_eq_ok] at h
    obtain ⟨u, -, h⟩ := h
    cases h
  · simp only [bind_eq_ok] at h
    obtain ⟨u, -, row, -, h⟩ := h
    cases action with
    | rotate =>
      cases h
      exact ⟨_, rfl⟩
    | revoke | recover =>
      simp only [bind_eq_ok] at h
      obtain ⟨a, -, h⟩ := h
      cases h
      exact ⟨_, rfl⟩

lemma target_ne_capacity (p : Principal) (id : String) (status : Bool) :
    target m p id status ≠ .error capacity := by
  refine bind_ne_capacity (demand_ne_capacity (by simp [capacity])) fun row => ?_
  exact bind_ne_capacity (refuse_ne_capacity (by simp [capacity])) fun _ h => (nomatch h)

lemma ack_spares (hm : m.Valid) {id : String} {saved : Json} {resolve : Resolve} :
    Spares (body c (.ack id saved) resolve m) := by
  refine .bind (authorize_ne_capacity resolve) fun p _ => ?_
  refine .bind (target_ne_capacity p id false) fun row hrow => ?_
  refine .bind (refuse_ne_capacity (by simp [capacity])) fun _ _ => ?_
  split
  · trivial
  · refine .bind (refuse_ne_capacity (by simp [capacity])) fun _ hs => ?_
    simp only [refuse_eq_ok, decide_eq_false_iff_not, not_not] at hs
    rw [retire_valid hm row.oldIds (stateOf m) (stateOf_blocked m)]
    exact ⟨(retires_acked (target_eq_ok hrow).1 hs).room hm.room, fun he => by cases he⟩

end Lifecycle

namespace Enrollment

variable {c : Ctx} {m : Snapshot}

lemma lookup_ne_capacity (requestId : Json) : lookup c m requestId ≠ .error capacity := by
  refine bind_ne_capacity (demand_ne_capacity (by simp [capacity])) fun id => ?_
  exact demand_ne_capacity (by simp [capacity])

lemma failure_spares {α : Type} (hm : m.Room) (row : Row) :
    Spares (failure c m row : Except Error (Final α)) := by
  unfold failure
  split
  · simp [Spares, capacity]
  · refine ⟨hm.congr rfl rfl rfl, ?_⟩
    simp [capacity]

/-- A cancellation by the device. -/
lemma cancel_spares (hm : m.Room) (requestId signature : Json) {resolve : Resolve} :
    Spares (body c (.proof .cancel requestId signature) resolve m) := by
  refine .bind (lookup_ne_capacity requestId) fun row _ => ?_
  refine .bind (refuse_ne_capacity (by simp [capacity])) fun _ _ => ?_
  split
  · exact failure_spares hm row
  · exact ⟨hm.congr rfl rfl rfl, fun he => by cases he⟩

/-- A denial by a controller. -/
lemma deny_spares (hm : m.Room) (requestId : Json) {resolve : Resolve} :
    Spares (body c (.deny requestId) resolve m) := by
  refine .bind (lookup_ne_capacity requestId) fun row _ => ?_
  refine .bind ?_ fun _ _ => ?_
  · refine bind_ne_capacity (demand_ne_capacity (by simp [capacity])) fun p => ?_
    exact bind_ne_capacity (refuse_ne_capacity (by simp [capacity])) fun _ h => (nomatch h)
  · refine .bind (refuse_ne_capacity (by simp [capacity])) fun _ _ => ?_
    exact ⟨hm.congr rfl rfl rfl, fun he => by cases he⟩

end Enrollment

namespace Integration

variable {c : Ctx} {m : Snapshot}

lemma lookup_ne_capacity (id : String) : lookup m id ≠ .error capacity :=
  demand_ne_capacity (by simp [capacity])

lemma nativeRow_ne_capacity (client : Client) : nativeRow c m client ≠ .error capacity := by
  refine bind_ne_capacity (lookup_ne_capacity _) fun row => ?_
  exact bind_ne_capacity (refuse_ne_capacity (by simp [capacity])) fun _ h => (nomatch h)

lemma authorize_ne_capacity (resolve : Resolve) : authorize m resolve ≠ .error capacity := by
  refine bind_ne_capacity (demand_ne_capacity (by simp [capacity])) fun p => ?_
  exact refuse_ne_capacity (by simp [capacity])

/-- A denied or cancelled request takes its credential with it. -/
lemma closeBody_spares (hm : m.Valid) (row : Row) (target : Status) :
    Spares (closeBody m row target) := by
  unfold closeBody
  split
  · trivial
  · refine .bind (refuse_ne_capacity (by simp [capacity])) fun _ _ => ?_
    dsimp only
    split
    · exact ⟨hm.room.congr rfl rfl rfl, fun he => by cases he⟩
    · next r hr =>
      unfold retire
      rw [Lifecycle.retire_valid hm [r.id] (Lifecycle.stateOf m) (Lifecycle.stateOf_blocked m)]
      have hb := m.retired_blocks [r.id]
      have hroom : (m.retired [r.id]).Room := by
        refine hm.room.retire (Lifecycle.map_verifier_disable _ _) hb.subset hb.digests ?_ ?_
        · rw [m.retired_operations]
        · unfold Snapshot.unfinished
          rw [m.retired_operations]
      exact ⟨hroom.congr rfl rfl rfl, fun he => by cases he⟩

lemma cancel_spares (hm : m.Valid) (client : Client) : Spares (cancelBody c client m) :=
  .bind (nativeRow_ne_capacity client) fun row _ => closeBody_spares hm row .cancelled

lemma deny_spares (hm : m.Valid) (resolve : Resolve) (id : String) :
    Spares (denyBody resolve id m) :=
  .bind (authorize_ne_capacity resolve) fun _ _ =>
    .bind (lookup_ne_capacity id) fun row _ => closeBody_spares hm row .denied

lemma complete_spares (hm : m.Room) (row : Row) (r : Credential) :
    Spares (completeBody row r m) := by
  unfold completeBody
  split
  · trivial
  · refine ⟨hm.congr ?_ rfl rfl, fun he => by cases he⟩
    exact map_verifier_keeps (keeps_enable r.id) m.records

lemma acknowledged_ne_capacity (client : Client) (credential saved : Json) :
    acknowledged c m client credential saved ≠ .error capacity := by
  refine bind_ne_capacity (nativeRow_ne_capacity client) fun row => ?_
  refine bind_ne_capacity (demand_ne_capacity (by simp [capacity])) fun token => ?_
  refine bind_ne_capacity (demand_ne_capacity (by simp [capacity])) fun r => ?_
  refine bind_ne_capacity (refuse_ne_capacity (by simp [capacity])) fun _ => ?_
  exact bind_ne_capacity (refuse_ne_capacity (by simp [capacity])) fun _ h => (nomatch h)

/-- The acknowledgement of an integration, with the registration of its agent. -/
lemma ack_spares (call : Vauxr.Call) (client : Client) (credential saved : Json)
    (h : List Snapshot) :
    Runs (Holds true false) (ack c client credential saved) h fun r _ => r ≠ .error capacity := by
  refine Store.mem_runs ?_
  intro w hw
  have hv := hw.toStored.valid_latest
  rw [Store.ofExcept_bind]
  cases hack : acknowledged c (latest h) client credential saved with
  | error e =>
    refine ⟨h, hw, ?_⟩
    rintro ⟨⟩
    exact acknowledged_ne_capacity client credential saved hack
  | ok k =>
    obtain ⟨row, r⟩ := k
    have hget := acknowledged_row hack
    have hrun : Runs (Holds true false)
        (Store.registerAgent c (agentOf c row) >>= fun _ => Store.perform c (completeBody row r)) h
        fun r _ => r ≠ .error capacity := by
      refine Runs.bind (Store.framed_runs (Store.framed_registerAgent c (agentOf_valid hv hget))
        true false h) (fun _ h₁ hq => ?_) fun e h₁ hq => ?_
      · obtain ⟨rfl, -⟩ := hq
        have hc : Commits c call (latest h₁) (completeBody row r (latest h₁)) :=
          completeBody_commits hv hack
        refine (Store.perform_runs c fun _ => hc.sound).conseq ?_
        exact fun _ _ hp => (complete_spares hv.room row r).performed hp
      · exact fun he => (hq.2 e rfl).ne_capacity (Except.error.inj he)
    exact hrun w hw

end Integration

namespace Owner

lemma acknowledgeBody_spares {c : Ctx} {m : Snapshot} (hm : m.Room) (acknowledgement saved : Json) :
    Spares (acknowledgeBody c acknowledgement saved m) := by
  refine .bind (demand_ne_capacity (fun he => by cases he)) fun _ _ => ?_
  refine .bind (demand_ne_capacity (fun he => by cases he)) fun _ _ => ?_
  refine .bind (refuse_ne_capacity (fun he => by cases he)) fun _ _ => ?_
  exact ⟨hm.congr rfl rfl rfl, fun he => by cases he⟩

end Owner

/-! ### Calls -/

/-- Sweeps, acknowledgements, denials and cancellations. -/
def Call.closing : Call → Prop
  | .lifecycleSweep | .integrationSweep | .acknowledge .. => True
  | .enrollment action body _ =>
    (∃ id signature, Enrollment.parse action body = .ok (.proof .cancel id signature)) ∨
      ∃ id, Enrollment.parse action body = .ok (.deny id)
  | .lifecycle action body _ => ∃ id saved, Lifecycle.parse action body = .ok (.ack id saved)
  | .integration action body _ =>
    (∃ client, Integration.parse action body = .ok (.cancel client)) ∨
      (∃ id, Integration.parse action body = .ok (.deny id)) ∨
        ∃ client credential saved,
          Integration.parse action body = .ok (.ack client credential saved)
  | _ => False

/-- The call is a revoke of the subject. -/
def Call.revokes (call : Call) (subject : String) : Prop :=
  ∃ action body resolve id role field, call = .lifecycle action body resolve ∧
    Lifecycle.parse action body = .ok (.control .revoke id role field) ∧
      field.str? = some subject

lemma map_ne_capacity {α β : Type} {f : α → β} {x : Except Error α} (h : x ≠ .error capacity) :
    x.map f ≠ .error capacity := by
  cases x with
  | error e => exact fun he => h (congrArg Except.error (Except.error.inj he))
  | ok a => exact fun he => by cases he

namespace System

variable {c : Ctx} {w : World} {h h' : List Snapshot}

/-- What is served is served on a valid snapshot. -/
lemma served {κ α : Type} {call : Call} {prep : List Snapshot → List Snapshot → Prop}
    {parsed : Except Error κ} {ran : κ → Ran α} {r : Except Error α} {k : κ}
    (hs : Serves c call false prep parsed ran h r h') (hv : ∀ s ∈ h', s.Valid)
    (hk : parsed = .ok k) : (∃ e, r = .error e ∧ e.storage) ∨
      ∃ h₁, (latest h₁).Valid ∧ ran k h₁ r h' := by
  cases hs with
  | unparsed e he =>
    rw [hk] at he
    cases he
  | stopped e _ _ he _ => exact Or.inl ⟨e, rfl, he⟩
  | served k' h₁ _ _ hk' _ hran hx =>
    rw [hk] at hk'
    cases hk'
    obtain ⟨l, rfl⟩ := hx.suffix
    exact Or.inr ⟨h₁, valid_latest fun s hs => hv s (List.mem_append_right l hs), hran⟩

lemma served_ne_capacity {κ α : Type} {call : Call} {prep : List Snapshot → List Snapshot → Prop}
    {parsed : Except Error κ} {ran : κ → Ran α} {r : Except Error α} {k : κ}
    (hs : Serves c call false prep parsed ran h r h') (hv : ∀ s ∈ h', s.Valid)
    (hk : parsed = .ok k)
    (hran : ∀ h₁, (latest h₁).Valid → ran k h₁ r h' → r ≠ .error capacity) :
    r ≠ .error capacity := by
  rcases served hs hv hk with ⟨e, rfl, he⟩ | ⟨h₁, hv₁, hr⟩
  · exact fun hc => he.ne_capacity (Except.error.inj hc)
  · exact hran h₁ hv₁ hr

lemma integration_ack_ne_capacity {action : String} {body : Json} {resolve : Resolve}
    {client : Integration.Client} {credential saved : Json} (hw : Holds false false w h)
    (hk : Integration.parse action body = .ok (.ack client credential saved)) :
    (outcome (Integration.execute c action body resolve) w).1 ≠ .error capacity := by
  unfold Integration.execute
  rw [Store.ofExcept_bind, hk]
  have hruns : Runs (Holds true false) (do
      Integration.sweep c
      Integration.run c (.ack client credential saved) resolve) h fun r _ => r ≠ .error capacity :=
    Maintains.runs_bind (Integration.sweep_runs c false h)
      (fun h₁ _ => Integration.ack_spares .reload client credential saved h₁)
      fun e h₁ _ he _ hc => he.ne_capacity (Except.error.inj hc)
  obtain ⟨h', -, hr⟩ := Store.transaction_spec hruns hw.toStored hw.active
  exact hr

/-- **Closing calls have room**: none of them raises capacity. -/
theorem closing_ne_capacity {call : Call} (hcall : call.closing) (hw : Holds false false w h) :
    (outcome (exec c call) w).1 ≠ .error capacity := by
  cases call with
  | lifecycleSweep =>
    simp only [exec, outcome_bind_pure]
    obtain ⟨h', -, hm⟩ := Lifecycle.sweep_spec c hw.idle
    exact map_ne_capacity hm.ne_capacity
  | integrationSweep =>
    simp only [exec, outcome_bind_pure]
    obtain ⟨h', -, hm⟩ := Integration.sweep_spec c hw.idle
    exact map_ne_capacity hm.ne_capacity
  | acknowledge acknowledgement saved =>
    simp only [exec, outcome_bind_pure]
    obtain ⟨h', -, hp, -⟩ := Store.transaction_performed (.acknowledge acknowledgement saved)
      (fun _ => Owner.acknowledgeBody_commits) hw.idle
    exact map_ne_capacity ((Owner.acknowledgeBody_spares hw.toStored.valid_latest.room _ _).performed
      hp)
  | enrollment action body resolve =>
    simp only [exec, outcome_bind_pure]
    obtain ⟨h', hh, hs⟩ := Enrollment.execute_spec c action body resolve hw
    refine map_ne_capacity ?_
    rcases hcall with ⟨id, signature, hk⟩ | ⟨id, hk⟩
    · exact served_ne_capacity hs (fun _ => hh.toStored.valid) hk fun h₁ hv hp =>
        (Enrollment.cancel_spares hv.room id signature).performed hp
    · exact served_ne_capacity hs (fun _ => hh.toStored.valid) hk fun h₁ hv hp =>
        (Enrollment.deny_spares hv.room id).performed hp
  | lifecycle action body resolve =>
    simp only [exec, outcome_bind_pure]
    obtain ⟨h', hh, hs⟩ := Lifecycle.execute_spec c action body resolve hw
    obtain ⟨id, saved, hk⟩ := hcall
    exact map_ne_capacity (served_ne_capacity hs (fun _ => hh.toStored.valid) hk fun h₁ hv hp =>
      (Lifecycle.ack_spares hv).performed hp)
  | integration action body resolve =>
    simp only [exec, outcome_bind_pure]
    refine map_ne_capacity ?_
    obtain ⟨h', hh, hs⟩ := Integration.execute_spec c action body resolve hw
    rcases hcall with ⟨client, hk⟩ | ⟨id, hk⟩ | ⟨client, credential, saved, hk⟩
    · exact served_ne_capacity hs (fun _ => hh.toStored.valid) hk fun h₁ hv hp =>
        (Integration.cancel_spares hv client).performed hp
    · exact served_ne_capacity hs (fun _ => hh.toStored.valid) hk fun h₁ hv hp =>
        (Integration.deny_spares hv resolve id).performed hp
    · exact integration_ack_ne_capacity hw hk
  | _ => cases hcall

/-- A revoke that raises capacity leaves a snapshot where the subject has nothing left. -/
theorem revoke_capacity {call : Call} {subject : String} (hcall : call.revokes subject)
    (hw : Holds false false w h) (hr : (outcome (exec c call) w).1 = .error capacity) :
    (outcome (exec c call) w).2.mem.Spent subject := by
  obtain ⟨action, body, resolve, id, role, field, rfl, hk, hf⟩ := hcall
  simp only [exec, outcome_bind_pure] at hr ⊢
  obtain ⟨h', hh, hs⟩ := Lifecycle.execute_spec c action body resolve hw
  rw [hh.mem]
  generalize (outcome (Lifecycle.execute c action body resolve) w).1 = r at hr hs
  cases r with
  | ok a => cases hr
  | error e =>
    obtain rfl : e = capacity := Except.error.inj hr
    rcases served hs (fun _ => hh.toStored.valid) hk with ⟨e, he, hst⟩ | ⟨h₁, hv, hp⟩
    · exact absurd (Except.error.inj he).symm hst.ne_capacity
    · have hspent : (latest h₁).Spent subject := by
        by_contra hn
        refine (Lifecycle.revoke_spares hv fun s hs => ?_).performed hp rfl
        rw [hf] at hs
        exact Option.some.inj hs ▸ hn
      obtain rfl : h' = h₁ := hp.eq_of_error (fun s w x => Lifecycle.control_result) rfl
        fun hst => hst.ne_capacity rfl
      exact hspent

end System

/-! ### From every snapshot that loads -/

/-- A process at rest over a file that it can load. -/
abbrev RestingWorld := {w : World // w.Rests}

/-- Every file that loads gives one. -/
lemma World.rests_of_load {j : Json} {m : Snapshot} (h : Codec.load (some j) = .ok m) :
    World.Rests ⟨[j], m, ⟨none, none⟩, [], false⟩ := by
  have hc : World.committed ⟨[j], m, ⟨none, none⟩, [], false⟩ = [m] := by
    simp [World.committed, h, Except.toOption]
  refine ⟨⟨?_, fun h => (by cases h), fun _ h => (nomatch h)⟩, rfl, ?_⟩
  · rw [hc]
    exact congrArg (· :: []) h
  · rw [hc]
    rfl

/-- What one step from a world keeps of the reserve. -/
structure Headroom (s : Step) (w : World) : Prop where
  committed : ∀ m ∈ (s.next w).committed, m.Room
  closing : s.call.closing → s.result w ≠ .error capacity
  revoke : ∀ subject, s.call.revokes subject → s.result w = .error capacity →
    (s.next w).mem.Spent subject

/-- **Headroom for revocation**: from every file that loads, through every run of the services,
all that is committed keeps the reserve, no sweep, acknowledgement, denial or cancellation raises
capacity, and a revoke raises it only when the sweep before it has left nothing to revoke. -/
theorem revocation_headroom (w₀ : RestingWorld) (σ : ServiceRun) (n : ℕ) :
    Headroom (σ.1 n) (run Step.next w₀.1 σ.1 n) := by
  have hw := (run_rests w₀.2 σ.2 n).faults (σ.1 n).faults
  exact ⟨fun m hm => ((run_rests w₀.2 σ.2 (n + 1)).toStored.valid hm).room,
    fun hc => System.closing_ne_capacity hc hw,
    fun subject hc hr => System.revoke_capacity hc hw hr⟩

/-- Without faults, what parses is served. -/
lemma Serves.of_clean {κ α : Type} {c : Ctx} {call : Call}
    {prep : List Snapshot → List Snapshot → Prop} {parsed : Except Error κ} {ran : κ → Ran α}
    {h h' : List Snapshot} {r : Except Error α} {k : κ}
    (hs : Serves c call true prep parsed ran h r h') (hk : parsed = .ok k) :
    ∃ h₁, prep h h₁ ∧ ran k h₁ r h' := by
  cases hs with
  | unparsed e he =>
    rw [hk] at he
    cases he
  | stopped e _ hc => cases hc
  | served k' h₁ _ _ hk' hp hran =>
    rw [hk] at hk'
    cases hk'
    exact ⟨h₁, hp, hran⟩

lemma Sweeps.swept_of_lapses {c : Ctx} {h h' : List Snapshot} {id : String} {row : Lifecycle.Row}
    (hs : Sweeps c h h') (hrow : (latest h).operations.get? id = some row)
    (hl : Lifecycle.lapses c (latest h) row = true) :
    ∃ blocked, Lifecycle.Blocks (latest h) (Lifecycle.sweptIds c (latest h)) blocked ∧
      h' = Lifecycle.swept c (latest h) blocked :: h := by
  cases hs with
  | settled hset =>
    rw [hset.rows id row hrow] at hl
    cases hl
  | swept blocked hb => exact ⟨blocked, hb, rfl⟩

lemma Performed.of_error {α : Type} {clean : Bool} {h h' : List Snapshot}
    {b : Except Error (Final α)} {r : Except Error α} {e : Error} (hp : Performed clean h b r h')
    (hb : b = .error e) : r = .error e := by
  cases hp with
  | error e' => exact congrArg _ (Except.error.inj hb)
  | _ => cases hb

lemma Step.result_lifecycle {c : Ctx} {action : String} {body : Json} {resolve : Resolve} {w : World}
    {faults : List Fault} {e : Error}
    (h : (outcome (Lifecycle.execute c action body resolve) { w with faults }).1 = .error e) :
    Step.result w ⟨c, .lifecycle action body resolve, faults⟩ = .error e := by
  have hx := System.outcome_bind_pure (Lifecycle.execute c action body resolve) Reply.lifecycle
    { w with faults }
  simp only [Step.result, System.exec, hx, h]
  rfl

/-- What is not admitted is refused. -/
lemma Lifecycle.controlBody_refused {c : Ctx} {m : Snapshot} {action : Action} {id : String}
    {roleField subjectField : Json} {role : Role} {subject : String} {e : Error}
    (hr : (roleField.str?.bind Role.ofValue?).filter (· ≠ .owner) = some role)
    (hs : subjectField.str? = some subject) (hnone : m.operations.get? id = none)
    (h : admission c m action role subject = .error e) :
    controlBody c m action id roleField subjectField = .error e := by
  unfold controlBody
  rw [hr, hs]
  refine bind_eq_error.mpr (Or.inr ⟨role, rfl, bind_eq_error.mpr (Or.inr ⟨subject, rfl, ?_⟩)⟩)
  dsimp only
  rw [stateOf_operations, hnone]
  exact bind_eq_error.mpr (Or.inl h)

/-- The process that has loaded the file of a valid snapshot. -/
def World.loaded (m : Snapshot) : World := ⟨[Codec.payload m], m, ⟨none, none⟩, [], false⟩

lemma World.holds_loaded {m : Snapshot} (hm : m.Valid) (clean : Bool) :
    Holds false clean (World.loaded m) [m] :=
  ⟨⟨congrArg (· :: []) (Codec.parse_payload hm), fun _ => rfl, fun _ h => (nomatch h)⟩, rfl, rfl⟩

lemma World.rests_loaded {m : Snapshot} (hm : m.Valid) : (World.loaded m).Rests :=
  World.rests_of_load (Codec.parse_payload hm)

/-! ### A revoke that comes too late -/

namespace Sample

def device : Credential where
  id := "r"
  role := .device
  subject := "dev_a"
  verifier := (hexWord 64 0).1
  enabled := true
  valid := by
    rw [validCredential, (hexWord 64 0).2]
    decide

/-- A full history of revokes, with one rotation at its end that has run out. -/
def historyRow (i : ℕ) : Lifecycle.Row where
  operationId := (hexWord 32 i).1
  role := .device
  subject := "dev_a"
  action := if i < 1024 then .revoke else .rotate
  state := if i < 1024 then .revoked else .queued
  expiresAt := 0
  overlapUntil := 0
  credentialId := ""
  oldIds := ["r"]
  ownerGeneration := (hexWord 32 0).1
  origin := origin.1

def history (n : ℕ) (hn : n ≤ 65536) : Dict String Lifecycle.Row where
  entries := (List.range n).map fun i => ((hexWord 32 i).1, historyRow i)
  nodup := by
    rw [List.map_map]
    refine List.Nodup.map_on (fun i hi j hj h => ?_) List.nodup_range
    rw [List.mem_range] at hi hj
    have h : (hexWord 32 i).1 = (hexWord 32 j).1 := h
    exact hexWord_inj (by omega) (by omega) (by omega) h

section History

variable {n : ℕ} (hn : n ≤ 65536)

lemma get?_history_none {i : ℕ} (hi : n ≤ i) (hi' : i < 65536) :
    (history n hn).get? (hexWord 32 i).1 = none := by
  by_contra h
  obtain ⟨op, hop⟩ := Option.ne_none_iff_exists'.mp h
  have hm := Dict.mem_entries.mpr hop
  simp only [history, List.mem_map, List.mem_range, Prod.mk.injEq] at hm
  obtain ⟨j, hj, he, -⟩ := hm
  have := hexWord_inj (by omega) (by omega) hi' he
  omega

lemma size_history : (history n hn).size = n := by simp [history, Dict.size]

lemma mem_history {id : String} {op : Lifecycle.Row} (h : (history n hn).get? id = some op) :
    ∃ i < n, (hexWord 32 i).1 = id ∧ historyRow i = op := by
  have hm := Dict.mem_entries.mpr h
  simp only [history, List.mem_map, List.mem_range, Prod.mk.injEq] at hm
  exact hm

lemma get?_history {i : ℕ} (hi : i < n) :
    (history n hn).get? (hexWord 32 i).1 = some (historyRow i) :=
  Dict.mem_entries.mp (List.mem_map_of_mem (List.mem_range.mpr hi))

lemma validateOperation_history {id : String} {op : Lifecycle.Row}
    (h : (history n hn).get? id = some op) : Lifecycle.validateOperation id op = true := by
  obtain ⟨i, -, rfl, rfl⟩ := mem_history hn h
  have hid := (hexWord 32 i).2
  have hgen := (hexWord 32 0).2
  have hold : idString "r" = true := by decide
  have hsub : 1 ≤ "dev_a".length ∧ "dev_a".length ≤ 128 := by decide
  by_cases hi : i < 1024
  · simp [Lifecycle.validateOperation, historyRow, hid, hgen, hold, hsub, hi, timestamp,
      Lifecycle.limit]
  · simp [Lifecycle.validateOperation, historyRow, hid, hgen, hold, hsub, hi, timestamp,
      Lifecycle.limit]

end History

/-- The device is blocked already, and its last rotation is unfinished. -/
def exhausted : Snapshot where
  records := [device]
  owner := some
    { mode := .environment
      generation := (hexWord 32 0).1
      verifier := some (hexWord 64 1).1
      claim := none
      claimExpires := none
      claimAttempts := none
      pending := none
      attempts := none
      sessions := none }
  enrollment := none
  lifecycle := some ⟨history 1025 (by omega), [device.verifier], Dict.empty, Dict.empty⟩
  integration := none

lemma exhausted_valid : exhausted.Valid where
  credentials := by simp [exhausted, ambiguousCredentials, device]
  principals := by simp [exhausted, ambiguousPrincipals]
  owner := by
    have h0 := (hexWord 32 0).2
    have h1 := (hexWord 64 1).2
    simp [validateOwnerState, exhausted, OwnerMode.active, h0, h1]
  enrollment := rfl
  lifecycle := by
    have hblocked : exhausted.blocked = [device.verifier] := rfl
    have hops : exhausted.operations = history 1025 (by omega) := rfl
    have hbindings : exhausted.bindings = Dict.empty := rfl
    have hrecovery : exhausted.recovery = Dict.empty := rfl
    refine Snapshot.validateLifecycle_iff.mpr ⟨?_, ?_, ?_, ?_, ?_, ?_, ?_, ?_, ?_⟩
    · simp [hblocked, Lifecycle.tombstoneLimit]
    · simp [hblocked]
    · simp [hblocked, device.verifier_hex]
    · simp [hops, size_history, Lifecycle.operationLimit, Lifecycle.limit]
    · simp [hbindings]
    · simp [hrecovery]
    · exact hops ▸ fun id row h => validateOperation_history _ h
    · simp [hbindings]
    · simp [hrecovery]
  integration := rfl
  bound := by simp [exhausted, Snapshot.agents, validateIntegrations]
  capacity := by
    have hsize : exhausted.operations.size = 1025 := size_history (by omega)
    have hun : exhausted.unblocked = [] := by
      simp [Snapshot.unblocked, Snapshot.digests, exhausted, Snapshot.blocked]
    have hle : exhausted.unfinished ≤ exhausted.operations.size := by
      simpa [Snapshot.unfinished, Dict.values, Dict.size] using
        List.countP_le_length (p := fun row : Lifecycle.Row => !row.state.terminal)
          (l := exhausted.operations.values)
    refine Snapshot.hasCapacity_iff.mpr ⟨by simp [exhausted, Lifecycle.limit], ?_, ?_⟩
    · simp [Snapshot.digests, exhausted, Snapshot.blocked, Lifecycle.tombstoneLimit]
    · rw [hun, List.length_nil, Lifecycle.operationLimit, Lifecycle.limit]
      omega

/-- A process that has loaded it. -/
def exhaustedWorld : RestingWorld := ⟨World.loaded exhausted, World.rests_loaded exhausted_valid⟩

def lateRequest : Json :=
  .obj [("operation_id", .str (hexWord 32 1025).1), ("role", .str "device"),
    ("subject", .str "dev_a")]

def theOwner : Principal := ⟨.owner, "owner", (hexWord 32 0).1, ""⟩

/-- The owner revokes the device, past the deadline of its rotation. -/
def lateRevoke : Step where
  ctx := ctx 1025 1
  call := .lifecycle "revoke" lateRequest fun _ => some theOwner
  faults := []


lemma parse_lateRevoke : Lifecycle.parse "revoke" lateRequest =
    .ok (.control .revoke (hexWord 32 1025).1 (.str "device") (.str "dev_a")) := by
  have hfields : Request.fields lateRequest ["operation_id", "role", "subject"] =
      .ok ⟨[("operation_id", .str (hexWord 32 1025).1), ("role", .str "device"),
        ("subject", .str "dev_a")], by simp⟩ := by
    simp [lateRequest, Request.fields, demand, Json.obj?, Dict.ofEntries?, Json.hasKeys, Dict.keys,
      Option.filter]
  have hget : Request.requireHex (.str (hexWord 32 1025).1) 32 = .ok (hexWord 32 1025).1 := by
    simp [Request.requireHex, Request.hexField, Json.str?, (hexWord 32 1025).2, demand,
      Option.filter]
  simp only [Lifecycle.parse, demand_eq_ok, bind_eq_ok]
  exact ⟨_, rfl, _, hfields, bind_eq_ok.mpr ⟨_, hget, rfl⟩⟩

section Swept

variable {c : Ctx} {blocked : List String} (hc : c.now = 1)
  (hb : Lifecycle.Blocks exhausted (Lifecycle.sweptIds c exhausted) blocked)

include hc in
lemma overdue_history (i : ℕ) : Lifecycle.overdue c exhausted (historyRow i) = true := by
  simp [Lifecycle.overdue, historyRow, hc]

include hc in
/-- The sweep ends the rotation. -/
lemma sweptRow_history (i : ℕ) :
    (Lifecycle.sweptRow c exhausted (historyRow i)).state.terminal = true := by
  by_cases hl : Lifecycle.lapses c exhausted (historyRow i) = true
  · exact Lifecycle.sweptRow_terminal hl
  · rw [Lifecycle.sweptRow_of_not_lapses (by simpa using hl)]
    simpa [Lifecycle.lapses, overdue_history hc] using hl

include hc hb in
/-- What the sweep leaves is no liability, and the general history is full. -/
lemma admission_exhausted : Lifecycle.admission c (Lifecycle.swept c exhausted blocked) .revoke
    .device "dev_a" = .error capacity := by
  have hsize : (Lifecycle.swept c exhausted blocked).operations.size = 1025 := by
    rw [Lifecycle.swept_operations, Dict.size_map]
    exact size_history (by omega)
  have hactive : (Lifecycle.swept c exhausted blocked).operations.values.any
      (Lifecycle.isActive "dev_a") = false := by
    rw [List.any_eq_false]
    intro op hop
    rw [Lifecycle.swept_operations, Dict.mem_values_map] at hop
    obtain ⟨id, row, hrow, rfl⟩ := hop
    obtain ⟨i, -, -, rfl⟩ := mem_history (by omega) hrow
    simp [Lifecycle.isActive, sweptRow_history hc]
  obtain ⟨r, hr, hv⟩ : ∃ r, Lifecycle.records (Lifecycle.swept c exhausted blocked) .device "dev_a"
      = [r] ∧ r.verifier = device.verifier := by
    refine ⟨if device.id ∈ Lifecycle.sweptIds c exhausted then { device with enabled := false }
      else device, ?_, ?_⟩
    · have hrecords : (Lifecycle.swept c exhausted blocked).records =
          Lifecycle.disable (Lifecycle.sweptIds c exhausted) [device] := rfl
      unfold Lifecycle.records
      rw [hrecords]
      simp only [Lifecycle.disable, List.map_cons, List.map_nil]
      split <;> rfl
    · split <;> rfl
  have hin : r.verifier ∈ (Lifecycle.swept c exhausted blocked).blocked := by
    rw [hv]
    exact (hb.mem _).mpr (Or.inl (List.mem_singleton_self _))
  simp only [Lifecycle.admission, Lifecycle.stateOf_operations, Lifecycle.stateOf_blocked, hsize,
    hactive, hr]
  simp [hin, Lifecycle.limit, refuse, capacity]
  rfl

include hc hb in
lemma body_exhausted : Lifecycle.body c (.control .revoke (hexWord 32 1025).1 (.str "device")
    (.str "dev_a")) (fun _ => some theOwner) (Lifecycle.swept c exhausted blocked) =
      .error capacity := by
  have howner : Lifecycle.isOwner (Lifecycle.swept c exhausted blocked) theOwner = true := by
    simp [Lifecycle.isOwner, theOwner, Snapshot.ownerGeneration, Snapshot.ownerActive,
      Lifecycle.swept, exhausted, OwnerMode.active]
  have hnone : (Lifecycle.swept c exhausted blocked).operations.get? (hexWord 32 1025).1 = none := by
    have hops : exhausted.operations = history 1025 (by omega) := rfl
    rw [Lifecycle.swept_operations, Dict.get?_map, hops,
      get?_history_none _ (by omega) (by omega)]
    rfl
  have hauth : Lifecycle.authorize c (Lifecycle.swept c exhausted blocked)
      (fun _ => some theOwner) = .ok theOwner := by
    refine bind_eq_ok.mpr ⟨theOwner, rfl, bind_eq_ok.mpr ⟨(), ?_, rfl⟩⟩
    rw [howner]
    rfl
  unfold Lifecycle.body
  rw [hauth]
  refine bind_eq_error.mpr (Or.inr ⟨_, rfl, bind_eq_error.mpr (Or.inr ⟨(), ?_, ?_⟩)⟩)
  · rw [howner]
    rfl
  · exact Lifecycle.controlBody_refused rfl rfl hnone (admission_exhausted hc hb)

include hc in
lemma lapses_history : Lifecycle.lapses c exhausted (historyRow 1024) = true := by
  have hdue := overdue_history hc 1024
  simp only [Lifecycle.lapses, hdue, Bool.or_true, Bool.and_true]
  rfl

include hc in
lemma execute_exhausted :
    (outcome (Lifecycle.execute c "revoke" lateRequest fun _ => some theOwner)
      (World.loaded exhausted)).1 = .error capacity := by
  have hop : exhausted.operations.get? (hexWord 32 1024).1 = some (historyRow 1024) :=
    get?_history (by omega) (by omega)
  obtain ⟨h', -, hs⟩ := Lifecycle.execute_spec c "revoke" lateRequest (fun _ => some theOwner)
    (World.holds_loaded exhausted_valid true)
  obtain ⟨h₁, hsw, hp⟩ := hs.of_clean parse_lateRevoke
  obtain ⟨blocked, hb, rfl⟩ := hsw.swept_of_lapses hop (lapses_history hc)
  exact hp.of_error (body_exhausted hc hb)

end Swept

/-- The device has an unfinished operation when the owner revokes it, and the revoke is refused
for want of capacity. -/
theorem lateRevoke_capacity :
    lateRevoke.call.revokes "dev_a" ∧
      (∃ id op, exhaustedWorld.1.mem.operations.get? id = some op ∧ op.subject = "dev_a" ∧
        op.state.terminal = false) ∧
      lateRevoke.result exhaustedWorld.1 = .error capacity := by
  have hop : exhausted.operations.get? (hexWord 32 1024).1 = some (historyRow 1024) :=
    get?_history (by omega) (by omega)
  refine ⟨⟨_, _, _, _, _, _, rfl, parse_lateRevoke, rfl⟩, ⟨_, _, hop, rfl, rfl⟩, ?_⟩
  exact Step.result_lifecycle (execute_exhausted (c := lateRevoke.ctx) rfl)

end Sample

end Vauxr
