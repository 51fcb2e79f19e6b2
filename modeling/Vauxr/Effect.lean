import Vauxr.Service

/-!
What a change does to the lifecycle tables, and what it leaves alone. Every change is inverted
once, into the operations, the pointers, the records and the tombstones after it; the invariants
of the lifecycle are read off from here.
-/

namespace Vauxr

open Lib

/-- The tables of the lifecycle after a change, in terms of those before it. -/
inductive Effect (c : Ctx) (call : Call) (m m' : Snapshot) : Prop
  | same : m'.operations = m.operations → m'.recovery = m.recovery → m'.records = m.records →
      m'.blocked = m.blocked → Effect c call m m'
  | retire (ids : List String) : m'.operations = m.operations → m'.recovery = m.recovery →
      m'.records = Lifecycle.disable ids m.records → Lifecycle.Blocks m ids m'.blocked →
      Effect c call m m'
  | enable (r : Credential) : m'.operations = m.operations → m'.recovery = m.recovery →
      m'.records = (m.records.map fun r' => if r'.id = r.id then { r' with enabled := true }
        else r') →
      m'.blocked = m.blocked → r.verifier ∉ m.blocked → Effect c call m m'
  | issue (credential : Credential) (row : Integration.Row) : m'.operations = m.operations →
      m'.recovery = m.recovery → m'.records = m.records ++ [credential] →
      m'.blocked = m.blocked → m.agents.get? row.requestId = some row → row.state = .approved →
      credential.role = .integration → credential.subject = row.agentId → Effect c call m m'
  | sweep : m'.operations = m.operations.map (fun _ => Lifecycle.sweptRow c m) →
      m'.recovery = Lifecycle.livePointers m'.operations m.recovery →
      m'.records = Lifecycle.disable (Lifecycle.sweptIds c m) m.records →
      Lifecycle.Blocks m (Lifecycle.sweptIds c m) m'.blocked → Effect c call m m'
  | poll (p : Principal) (id : String) (row : Lifecycle.Row) :
      call.isLifecycle c m .poll p → m.operations.get? id = some row → row.action = .rotate →
      row.state = .queued → m'.operations = m.operations.set id { row with state := .pending } →
      m'.recovery = m.recovery → m'.records = m.records → m'.blocked = m.blocked →
      Effect c call m m'
  | deliver (p : Principal) (id : String) (row : Lifecycle.Row) (credential : Credential) :
      call.isLifecycle c m (.deliver id) p → Lifecycle.Settled c m →
      m.operations.get? id = some row → row.action = .rotate → row.state = .pending →
      credential.role = row.role → credential.subject = row.subject → credential.enabled = true →
      m'.operations = m.operations.set id { row with
        state := .delivered
        credentialId := credential.id
        overlapUntil := min (c.now + Lifecycle.overlapSeconds) row.expiresAt } →
      m'.recovery = m.recovery → m'.records = m.records ++ [credential] →
      m'.blocked = m.blocked → Effect c call m m'
  | ack (p : Principal) (id : String) (saved : Json) (row : Lifecycle.Row) :
      call.isLifecycle c m (.ack id saved) p → Lifecycle.Settled c m →
      m.operations.get? id = some row → row.role = p.role → row.subject = p.subject →
      p.credentialId = row.credentialId → row.state = .delivered →
      m'.operations = m.operations.set id { row with state := .acknowledged } →
      m'.recovery = m.recovery → m'.records = Lifecycle.disable row.oldIds m.records →
      Lifecycle.Blocks m row.oldIds m'.blocked → Effect c call m m'
  | rotate (p : Principal) (id : String) (role subject : Json) (row : Lifecycle.Row) :
      call.isLifecycle c m (.control .rotate id role subject) p → Lifecycle.isOwner m p = true →
      m.operations.get? id = none →
      Lifecycle.admission c m .rotate row.role row.subject = .ok () →
      Lifecycle.newOperation c m .rotate id row.role row.subject = .ok row →
      m'.operations = m.operations.set id row → m'.recovery = m.recovery →
      m'.records = m.records → m'.blocked = m.blocked → Effect c call m m'
  | revoke (p : Principal) (id : String) (role subject : Json) (row : Lifecycle.Row) :
      call.isLifecycle c m (.control .revoke id role subject) p → Lifecycle.isOwner m p = true →
      subject.str? = some row.subject → m.operations.get? id = none →
      Lifecycle.admission c m .revoke row.role row.subject = .ok () →
      Lifecycle.newOperation c m .revoke id row.role row.subject = .ok row →
      m'.operations = (Lifecycle.endActive (Lifecycle.stateOf m) row.subject).operations.set id
        { row with state := .revoked } →
      m'.recovery = m.recovery.erase row.subject →
      m'.records = Lifecycle.disable row.oldIds m.records →
      Lifecycle.Blocks m row.oldIds m'.blocked → Effect c call m m'
  | recover (p : Principal) (id : String) (role subject : Json) (row : Lifecycle.Row) :
      call.isLifecycle c m (.control .recover id role subject) p → Lifecycle.isOwner m p = true →
      subject.str? = some row.subject → m.operations.get? id = none →
      Lifecycle.admission c m .recover row.role row.subject = .ok () →
      Lifecycle.newOperation c m .recover id row.role row.subject = .ok row →
      m'.operations = (Lifecycle.endActive (Lifecycle.stateOf m) row.subject).operations.set id
        { row with expiresAt := c.now + Lifecycle.overlapSeconds } →
      m'.recovery = (m.recovery.erase row.subject).set row.subject ⟨id, ""⟩ →
      m'.records = Lifecycle.disable row.oldIds m.records →
      Lifecycle.Blocks m row.oldIds m'.blocked → Effect c call m m'
  | associate (kindField keyField nameField : Json) (resolve : Resolve) (row : Enrollment.Row)
      (p : Lifecycle.Recovery) (op : Lifecycle.Row) :
      call.isEnrollment (.request kindField keyField nameField) resolve → Lifecycle.Settled c m →
      m.recovery.get? row.deviceId = some p → m.operations.get? p.operationId = some op →
      m'.operations = m.operations.set p.operationId { op with state := .pending } →
      m'.recovery = m.recovery.set row.deviceId { p with requestId := row.requestId } →
      m'.records = m.records → m'.blocked = m.blocked → Effect c call m m'
  | replace (requestId signature : Json) (resolve : Resolve) (row : Enrollment.Row)
      (credential : Credential) :
      call.isEnrollment (.proof .redeem requestId signature) resolve → Lifecycle.Settled c m →
      m.requests.get? row.requestId = some row → m'.requests = m.requests.set row.requestId
        { row with state := .consumed } →
      credential.role = .device → credential.subject = row.deviceId →
      credential.enabled = true →
      (m.recovery.get? row.deviceId = none ∧ m'.operations = m.operations ∨
        ∃ p op, m.recovery.get? row.deviceId = some p ∧
          m.operations.get? p.operationId = some op ∧
          m'.operations = m.operations.set p.operationId { op with
            state := .delivered
            credentialId := credential.id
            overlapUntil := op.expiresAt }) →
      m'.recovery = m.recovery →
      m'.records = Lifecycle.disable
        ((Lifecycle.records m .device row.deviceId).map (·.id)) m.records ++ [credential] →
      Lifecycle.Blocks m ((Lifecycle.records m .device row.deviceId).map (·.id)) m'.blocked →
      Effect c call m m'

variable {c : Ctx} {call : Call} {m m' : Snapshot}

/-- **Inversion of a change**, on the tables of the lifecycle. -/
theorem Change.effect (h : Change c call m m') : Effect c call m m' := by
  cases h with
  | owner | mark | attempt | fail | prove | confirm | close | agentRequest | agentCode |
    agentApprove | agentClose => exact .same rfl rfl rfl rfl
  | bind bindings hb =>
    exact .same (Lifecycle.stateOf_operations m) (Lifecycle.stateOf_recovery m) rfl
      (Lifecycle.stateOf_blocked m)
  | sweep blocked hb => exact .sweep rfl rfl rfl hb
  | poll p id row hcall hset hget h1 h2 h3 h4 =>
    exact .poll p id row hcall hget h3 h4 (m.putOperation_operations _ _)
      (m.putOperation_recovery _ _) rfl (m.putOperation_blocked _ _)
  | deliver p id row credential hcall hset hget h1 h2 h3 h4 h5 h6 h7 h8 h9 h10 =>
    exact .deliver p id row credential hcall hset hget h3 h4 (h7.trans h1.symm)
      (h8.trans h2.symm) h9 (m.putOperation_operations _ _) (m.putOperation_recovery _ _) rfl
      (m.putOperation_blocked _ _)
  | ack p id saved row hcall hset hget h1 h2 h3 h4 =>
    exact .ack p id saved row hcall hset hget h1 h2 h3 h4 (Lifecycle.acked_operations m id row)
      (m.retired_recovery row.oldIds) rfl (m.retired_blocks row.oldIds)
  | rotate p id role subject row hcall ho hset hget h1 h2 h3 hadm hrow =>
    exact .rotate p id role subject row hcall ho hget hadm hrow (m.putOperation_operations _ _)
      (m.putOperation_recovery _ _) rfl (m.putOperation_blocked _ _)
  | revoke p id role subject row hcall ho hset hget h1 h2 h3 hadm hrow =>
    refine .revoke p id role subject row hcall ho h3 hget hadm hrow rfl ?_ rfl
      (m.retired_blocks row.oldIds)
    show (Lifecycle.stateOf m).recovery.erase row.subject = _
    rw [Lifecycle.stateOf_recovery]
  | recover p id role subject row hcall ho hset hget h1 h2 h3 hadm hrow =>
    exact .recover p id role subject row hcall ho h3 hget hadm hrow rfl rfl rfl
      (m.retired_blocks row.oldIds)
  | request kindField keyField nameField resolve row life hcall hset h1 h2 h3 h4 h5 h6 h7 h8 ha =>
    cases ha with
    | fresh hnone => exact .same rfl rfl rfl rfl
    | recovering p op hp hop =>
      exact .associate kindField keyField nameField resolve row p op hcall hset hp hop rfl rfl rfl
        rfl
  | redeem requestId signature resolve row credential life hcall hset hid hget hsig hstatus hun
      h1 h2 h3 h4 h5 hr =>
    have hreq : ∀ (records : List Credential) (life : Lifecycle.State),
        ({ m.putRequest c { row with state := .consumed } with
          records, lifecycle := some life } : Snapshot).requests =
          m.requests.set row.requestId { row with state := .consumed } :=
      fun _ _ => m.putRequest_requests c _
    cases hr with
    | fresh hnone =>
      exact .replace requestId signature resolve row credential hcall hset hget (hreq _ _) h2 h3
        h4 (Or.inl ⟨hnone, rfl⟩) rfl rfl (m.retired_blocks _)
    | recovering p op hp hop =>
      exact .replace requestId signature resolve row credential hcall hset hget (hreq _ _) h2 h3
        h4 (Or.inr ⟨p, op, hp, hop, rfl⟩) rfl rfl (m.retired_blocks _)
  | agentsSweep _ ids hs =>
    exact .retire ids hs.operations hs.recovery hs.records hs.blocked
  | agentRetire row state r hget hterm hs hr =>
    exact .retire [r.id] (m.retired_operations _) (m.retired_recovery _) rfl (m.retired_blocks _)
  | agentDeliver row credential hget hs h1 h2 h3 h4 h5 =>
    exact .issue credential row rfl rfl rfl rfl hget hs h2 h3
  | agentComplete row r hget hs hr hb => exact .enable r rfl rfl rfl rfl hb

/-! ### Records and tombstones -/

/-- A record keeps its identifier, role, subject and verifier. -/
def Kept (records records' : List Credential) : Prop :=
  ∀ r ∈ records, ∃ r' ∈ records', r'.id = r.id ∧ r'.role = r.role ∧ r'.subject = r.subject ∧
    r'.verifier = r.verifier

lemma kept_map {f : Credential → Credential} (hf : Keeps f) (records : List Credential) :
    Kept records (records.map f) := fun r hr => ⟨f r, List.mem_map_of_mem hr, hf r⟩

lemma kept_append (records l : List Credential) : Kept records (records ++ l) :=
  fun r hr => ⟨r, List.mem_append_left _ hr, rfl, rfl, rfl, rfl⟩

lemma Kept.trans {l l' l'' : List Credential} (h : Kept l l') (h' : Kept l' l'') : Kept l l'' := by
  intro r hr
  obtain ⟨r₁, hr₁, e1, e2, e3, e4⟩ := h r hr
  obtain ⟨r₂, hr₂, f1, f2, f3, f4⟩ := h' r₁ hr₁
  exact ⟨r₂, hr₂, f1.trans e1, f2.trans e2, f3.trans e3, f4.trans e4⟩

lemma kept_disable (ids : List String) (records : List Credential) :
    Kept records (Lifecycle.disable ids records) := kept_map (keeps_disable ids) records

lemma keeps_enable (id : String) :
    Keeps fun r => if r.id = id then { r with enabled := true } else r := by
  intro r
  dsimp only
  split <;> exact ⟨rfl, rfl, rfl, rfl⟩

/-- No service removes a record or changes its identity. -/
lemma Effect.kept (h : Effect c call m m') : Kept m.records m'.records := by
  cases h with
  | same _ _ hr | poll _ _ _ _ _ _ _ _ _ hr | rotate _ _ _ _ _ _ _ _ _ _ _ _ hr
  | associate _ _ _ _ _ _ _ _ _ _ _ _ _ hr =>
    rw [hr]
    exact fun r h => ⟨r, h, rfl, rfl, rfl, rfl⟩
  | retire _ _ _ hr | sweep _ _ hr | ack _ _ _ _ _ _ _ _ _ _ _ _ _ hr
  | revoke _ _ _ _ _ _ _ _ _ _ _ _ _ hr | recover _ _ _ _ _ _ _ _ _ _ _ _ _ hr =>
    rw [hr]
    exact kept_disable _ _
  | enable r _ _ hr =>
    rw [hr]
    exact kept_map (keeps_enable r.id) _
  | issue _ _ _ _ hr | deliver _ _ _ _ _ _ _ _ _ _ _ _ _ _ hr =>
    rw [hr]
    exact kept_append _ _
  | replace _ _ _ _ _ _ _ _ _ _ _ _ _ _ hr =>
    rw [hr]
    exact (kept_disable _ _).trans (kept_append _ _)

/-- **Tombstones stay**: no change of a service removes one. -/
theorem Effect.blocked_subset (h : Effect c call m m') : m.blocked ⊆ m'.blocked := by
  cases h with
  | same _ _ _ hb | enable _ _ _ _ hb | issue _ _ _ _ _ hb | poll _ _ _ _ _ _ _ _ _ _ hb
  | deliver _ _ _ _ _ _ _ _ _ _ _ _ _ _ _ hb | rotate _ _ _ _ _ _ _ _ _ _ _ _ _ hb
  | associate _ _ _ _ _ _ _ _ _ _ _ _ _ _ hb => rw [hb]; exact fun _ hv => hv
  | retire _ _ _ _ hb | sweep _ _ _ hb | ack _ _ _ _ _ _ _ _ _ _ _ _ _ _ hb
  | revoke _ _ _ _ _ _ _ _ _ _ _ _ _ _ hb | recover _ _ _ _ _ _ _ _ _ _ _ _ _ _ hb
  | replace _ _ _ _ _ _ _ _ _ _ _ _ _ _ _ hb => exact hb.subset

/-! ### Operations one by one -/

namespace Lifecycle

/-- How one change moves an operation. -/
inductive Moves (c : Ctx) (call : Vauxr.Call) (m m' : Snapshot) (id : String) (row : Row) :
    Row → Prop
  | same : Moves c call m m' id row row
  | swept : lapses c m row = true → Moves c call m m' id row (sweptRow c m row)
  | polled (p : Principal) : call.isLifecycle c m .poll p → row.action = .rotate →
      row.state = .queued → Moves c call m m' id row { row with state := .pending }
  | delivered (p : Principal) (credential : Credential) :
      call.isLifecycle c m (.deliver id) p → Settled c m → row.action = .rotate →
      row.state = .pending → m'.records = m.records ++ [credential] →
      credential.role = row.role → credential.subject = row.subject →
      Moves c call m m' id row { row with
        state := .delivered
        credentialId := credential.id
        overlapUntil := min (c.now + overlapSeconds) row.expiresAt }
  | acked (p : Principal) (saved : Json) : call.isLifecycle c m (.ack id saved) p →
      Settled c m → p.credentialId = row.credentialId → row.state = .delivered →
      Moves c call m m' id row { row with state := .acknowledged }
  | ended (p : Principal) (action : Action) (id' : String) (role subject : Json) :
      call.isLifecycle c m (.control action id' role subject) p → isOwner m p = true →
      subject.str? = some row.subject → row.state.terminal = false →
      Moves c call m m' id row { row with state := .revoked }
  | reopened (kind key name : Json) (resolve : Resolve) (p : Recovery) :
      call.isEnrollment (.request kind key name) resolve → Settled c m →
      m.recovery.get? row.subject = some p → p.operationId = id → row.action = .recover →
      row.state.terminal = false → Moves c call m m' id row { row with state := .pending }
  | redelivered (requestId signature : Json) (resolve : Resolve) (credential : Credential)
      (p : Recovery) : call.isEnrollment (.proof .redeem requestId signature) resolve →
      Settled c m → m.recovery.get? row.subject = some p → p.operationId = id →
      row.action = .recover → row.role = .device → row.state.terminal = false →
      m'.records = disable ((records m .device row.subject).map (·.id)) m.records ++
        [credential] →
      credential.role = row.role → credential.subject = row.subject →
      Moves c call m m' id row { row with
        state := .delivered
        credentialId := credential.id
        overlapUntil := row.expiresAt }

/-- A new operation, and what the owner was allowed to make it of. -/
inductive Created (c : Ctx) (call : Vauxr.Call) (m m' : Snapshot) (id : String) : Row → Prop
  | rotate (row : Row) : admission c m .rotate row.role row.subject = .ok () →
      newOperation c m .rotate id row.role row.subject = .ok row →
      m'.operations = m.operations.set id row → Created c call m m' id row
  | revoke (row : Row) : admission c m .revoke row.role row.subject = .ok () →
      newOperation c m .revoke id row.role row.subject = .ok row →
      Created c call m m' id { row with state := .revoked }
  | recover (row : Row) : admission c m .recover row.role row.subject = .ok () →
      newOperation c m .recover id row.role row.subject = .ok row →
      m'.operations = (endActive (stateOf m) row.subject).operations.set id
        { row with expiresAt := c.now + overlapSeconds } →
      m'.recovery.get? row.subject = some ⟨id, ""⟩ →
      Created c call m m' id { row with expiresAt := c.now + overlapSeconds }

lemma get?_endActive (m : Snapshot) (subject id : String) :
    (endActive (stateOf m) subject).operations.get? id = (m.operations.get? id).map fun row =>
      if isActive subject row then { row with state := .revoked } else row := by
  rw [← stateOf_operations]
  exact Dict.get?_map _ _ _

lemma isActive_iff {subject : String} {row : Row} :
    isActive subject row = true ↔ row.subject = subject ∧ row.state.terminal = false := by
  simp [isActive]

/-- The rows under `endActive` and one more row. -/
lemma moves_endActive {c : Ctx} {call : Vauxr.Call} {m m' : Snapshot} {id id' : String}
    {new row : Row} {p : Principal} {action : Action} {role subject : Json} {s : String}
    (hcall : call.isLifecycle c m (.control action id' role subject) p)
    (ho : isOwner m p = true) (hs : subject.str? = some s)
    (hops : m'.operations = (endActive (stateOf m) s).operations.set id' new)
    (h : m'.operations.get? id = some row) :
    (id = id' ∧ row = new) ∨
      ∃ old, m.operations.get? id = some old ∧ Moves c call m m' id old row := by
  rw [hops, Dict.get?_set] at h
  split at h
  · next he =>
    cases h
    exact Or.inl ⟨he.symm, rfl⟩
  · rw [get?_endActive, Option.map_eq_some_iff] at h
    obtain ⟨old, hold, rfl⟩ := h
    refine Or.inr ⟨old, hold, ?_⟩
    split
    · next ha =>
      obtain ⟨rfl, ht⟩ := isActive_iff.mp ha
      exact .ended p action id' role subject hcall ho hs ht
    · exact .same

end Lifecycle

namespace Effect

open Lifecycle

lemma moves_put {id id' : String} {old new row : Row}
    (hget : m.operations.get? id' = some old) (hops : m'.operations = m.operations.set id' new)
    (hmove : Moves c call m m' id' old new) (h : m'.operations.get? id = some row) :
    ∃ old, m.operations.get? id = some old ∧ Moves c call m m' id old row := by
  rw [hops, Dict.get?_set] at h
  split at h
  · next he =>
    cases h
    subst he
    exact ⟨old, hget, hmove⟩
  · exact ⟨row, h, .same⟩

/-- **Inversion of a change**, on one operation. -/
theorem operation (h : Effect c call m m') (hm : m.Valid) {id : String} {row : Row}
    (hrow : m'.operations.get? id = some row) :
    (∃ old, m.operations.get? id = some old ∧ Moves c call m m' id old row) ∨
      (m.operations.get? id = none ∧ Created c call m m' id row) := by
  cases h with
  | same hops => exact Or.inl ⟨row, hops ▸ hrow, .same⟩
  | retire ids hops => exact Or.inl ⟨row, hops ▸ hrow, .same⟩
  | enable r hops => exact Or.inl ⟨row, hops ▸ hrow, .same⟩
  | issue credential arow hops => exact Or.inl ⟨row, hops ▸ hrow, .same⟩
  | sweep hops hrec hrecords hblocked =>
    rw [hops, Dict.get?_map_some] at hrow
    obtain ⟨old, hold, rfl⟩ := hrow
    refine Or.inl ⟨old, hold, ?_⟩
    cases hl : lapses c m old with
    | true => exact .swept hl
    | false =>
      rw [sweptRow_of_not_lapses hl]
      exact .same
  | poll p id' old hcall hget ha hs hops =>
    exact Or.inl (moves_put hget hops (.polled p hcall ha hs) hrow)
  | deliver p id' old credential hcall hset hget ha hs h1 h2 h3 hops hrec hrecords =>
    exact Or.inl (moves_put hget hops (.delivered p credential hcall hset ha hs hrecords h1 h2)
      hrow)
  | ack p id' saved old hcall hset hget h1 h2 h3 hs hops =>
    exact Or.inl (moves_put hget hops (.acked p saved hcall hset h3 hs) hrow)
  | rotate p id' role subject new hcall ho hnone hadm hnew hops =>
    have hrow' := hrow
    rw [hops, Dict.get?_set] at hrow'
    split at hrow'
    · next he =>
      cases hrow'
      subst he
      exact Or.inr ⟨hnone, .rotate row hadm hnew hops⟩
    · exact Or.inl ⟨row, hrow', .same⟩
  | revoke p id' role subject new hcall ho hs hnone hadm hnew hops =>
    rcases moves_endActive hcall ho hs hops hrow with ⟨rfl, rfl⟩ | hold
    · exact Or.inr ⟨hnone, .revoke new hadm hnew⟩
    · exact Or.inl hold
  | recover p id' role subject new hcall ho hs hnone hadm hnew hops hrec =>
    rcases moves_endActive hcall ho hs hops hrow with ⟨rfl, rfl⟩ | hold
    · refine Or.inr ⟨hnone, .recover new hadm hnew hops ?_⟩
      rw [hrec, Dict.get?_set, if_pos rfl]
    · exact Or.inl hold
  | associate kind key name resolve req p op hcall hset hp hop hops =>
    obtain ⟨op', hop', hsub, -, ha⟩ := hm.pointer hp
    obtain rfl := Option.some.inj (hop.symm.trans hop')
    obtain ⟨op', hop'', ht⟩ := hset.pointers _ _ hp
    obtain rfl := Option.some.inj (hop.symm.trans hop'')
    exact Or.inl (moves_put hop hops
      (.reopened kind key name resolve p hcall hset (hsub ▸ hp) rfl ha ht) hrow)
  | replace requestId signature resolve req credential hcall hset hreq hreqs h1 h2 h3 hops hrec
      hrecords =>
    rcases hops with ⟨-, hops⟩ | ⟨p, op, hp, hop, hops⟩
    · exact Or.inl ⟨row, hops ▸ hrow, .same⟩
    · obtain ⟨op', hop', hsub, hrole, ha⟩ := hm.pointer hp
      obtain rfl := Option.some.inj (hop.symm.trans hop')
      obtain ⟨op', hop'', ht⟩ := hset.pointers _ _ hp
      obtain rfl := Option.some.inj (hop.symm.trans hop'')
      exact Or.inl (moves_put hop hops (.redelivered requestId signature resolve credential p
        hcall hset (hsub ▸ hp) rfl ha hrole ht (hsub ▸ hrecords) (h1.trans hrole.symm)
        (h2.trans hsub.symm)) hrow)

/-- No operation is forgotten. -/
lemma operation_isSome (h : Effect c call m m') (id : String)
    (hid : (m.operations.get? id).isSome) : (m'.operations.get? id).isSome := by
  have hset : ∀ (d : Dict String Row) (k : String) (row : Row), (d.get? id).isSome →
      ((d.set k row).get? id).isSome := by
    intro d k row hd
    rw [Dict.get?_set]
    split
    · rfl
    · exact hd
  have hend : ∀ subject, ((endActive (stateOf m) subject).operations.get? id).isSome := by
    intro subject
    rwa [get?_endActive, Option.isSome_map]
  cases h with
  | same hops => rwa [hops]
  | retire ids hops => rwa [hops]
  | enable r hops => rwa [hops]
  | issue credential row hops => rwa [hops]
  | sweep hops => rwa [hops, Dict.get?_map, Option.isSome_map]
  | poll _ _ _ _ _ _ _ hops => exact hops ▸ hset _ _ _ hid
  | deliver _ _ _ _ _ _ _ _ _ _ _ _ hops => exact hops ▸ hset _ _ _ hid
  | ack _ _ _ _ _ _ _ _ _ _ _ hops => exact hops ▸ hset _ _ _ hid
  | rotate _ _ _ _ _ _ _ _ _ _ hops => exact hops ▸ hset _ _ _ hid
  | revoke _ _ _ _ _ _ _ _ _ _ _ hops => exact hops ▸ hset _ _ _ (hend _)
  | recover _ _ _ _ _ _ _ _ _ _ _ hops => exact hops ▸ hset _ _ _ (hend _)
  | associate _ _ _ _ _ _ _ _ _ _ _ hops => exact hops ▸ hset _ _ _ hid
  | replace _ _ _ _ _ _ _ _ _ _ _ _ hops =>
    rcases hops with ⟨-, hops⟩ | ⟨p, op, -, -, hops⟩
    · rwa [hops]
    · exact hops ▸ hset _ _ _ hid

/-- Every operation is still there after a change, moved or not. -/
lemma operation_moves (h : Effect c call m m') (hm : m.Valid) {id : String} {row : Row}
    (hrow : m.operations.get? id = some row) :
    ∃ row', m'.operations.get? id = some row' ∧ Moves c call m m' id row row' := by
  obtain ⟨row', hrow'⟩ := Option.isSome_iff_exists.mp
    (h.operation_isSome id (by rw [hrow]; rfl))
  refine ⟨row', hrow', ?_⟩
  rcases h.operation hm hrow' with ⟨old, hold, hmove⟩ | ⟨hnone, -⟩
  · obtain rfl := Option.some.inj (hrow.symm.trans hold)
    exact hmove
  · rw [hrow] at hnone
    cases hnone

end Effect

end Vauxr
