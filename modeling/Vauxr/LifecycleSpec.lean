import Vauxr.Lifecycle
import Vauxr.StoreSpec
import Vauxr.Validity

/-!
What retirement, the sweep and the staging of an enrolled credential come to, in closed form.
-/

namespace Vauxr

open Lib

namespace Lifecycle

/-! ### Retirement -/

@[simp] lemma mem_blockedWith {blocked ids : List String} {records : List Credential}
    {v : String} :
    v ∈ blockedWith blocked ids records ↔
      v ∈ blocked ∨ ∃ r ∈ records, r.id ∈ ids ∧ r.verifier = v := by
  simp [blockedWith, and_assoc]

lemma nodup_blockedWith (blocked ids : List String) (records : List Credential) :
    (blockedWith blocked ids records).Nodup := nodup_sortedSet _ _

@[simp] lemma length_disable (ids : List String) (records : List Credential) :
    (disable ids records).length = records.length := by simp [disable]

@[simp] lemma map_verifier_disable (ids : List String) (records : List Credential) :
    (disable ids records).map (·.verifier) = records.map (·.verifier) := by
  rw [disable, List.map_map]
  refine List.map_congr_left fun r _ => ?_
  simp only [Function.comp]
  split <;> rfl

@[simp] lemma map_id_disable (ids : List String) (records : List Credential) :
    (disable ids records).map (·.id) = records.map (·.id) := by
  rw [disable, List.map_map]
  refine List.map_congr_left fun r _ => ?_
  simp only [Function.comp]
  split <;> rfl

lemma mem_disable {ids : List String} {records : List Credential} {r : Credential} :
    r ∈ disable ids records ↔
      (r ∈ records ∧ r.id ∉ ids) ∨
        ∃ r' ∈ records, r'.id ∈ ids ∧ r = { r' with enabled := false } := by
  simp only [disable, List.mem_map]
  constructor
  · rintro ⟨r', hr', rfl⟩
    by_cases h : r'.id ∈ ids
    · exact Or.inr ⟨r', hr', h, by rw [if_pos h]⟩
    · rw [if_neg h]
      exact Or.inl ⟨hr', h⟩
  · rintro (⟨h, hn⟩ | ⟨r', hr', h, rfl⟩)
    · exact ⟨r, h, if_neg hn⟩
    · exact ⟨r', hr', if_pos h⟩

/-- A record keeps its identity when others, or itself, are disabled. -/
lemma disable_origin {ids : List String} {records : List Credential} {r : Credential}
    (h : r ∈ disable ids records) :
    ∃ r' ∈ records, r'.id = r.id ∧ r'.role = r.role ∧ r'.subject = r.subject ∧
      r'.verifier = r.verifier ∧ (r.enabled = true → r' = r) := by
  rcases mem_disable.mp h with ⟨h, -⟩ | ⟨r', hr', -, rfl⟩
  · exact ⟨r, h, rfl, rfl, rfl, rfl, fun _ => rfl⟩
  · exact ⟨r', hr', rfl, rfl, rfl, rfl, fun h => nomatch h⟩

lemma mem_disable_of_mem (ids : List String) {records : List Credential} {r : Credential}
    (h : r ∈ records) :
    ∃ r' ∈ disable ids records, r'.id = r.id ∧ r'.verifier = r.verifier := by
  refine ⟨_, List.mem_map_of_mem h, ?_⟩
  split <;> exact ⟨rfl, rfl⟩

lemma disable_disable (ids ids' : List String) (records : List Credential) :
    disable ids' (disable ids records) = disable (ids ++ ids') records := by
  simp only [disable, List.map_map]
  refine List.map_congr_left fun r _ => ?_
  by_cases h : r.id ∈ ids <;> by_cases h' : r.id ∈ ids' <;> simp [h, h']

/-- Tombstones do not depend on what is enabled. -/
@[simp] lemma blockedWith_disable (blocked ids ids' : List String) (records : List Credential) :
    blockedWith blocked ids' (disable ids records) = blockedWith blocked ids' records := by
  have h : ((disable ids records).filter (·.id ∈ ids')).map (·.verifier) =
      (records.filter (·.id ∈ ids')).map (·.verifier) := by
    induction records with
    | nil => rfl
    | cons r records ih =>
      rw [disable] at ih ⊢
      by_cases hr : r.id ∈ ids <;> by_cases hr' : r.id ∈ ids' <;> simp_all
  rw [blockedWith, h, blockedWith]

@[simp] lemma disable_nil (records : List Credential) : disable [] records = records := by
  simp [disable]

lemma retire_eq_ok {state state' : State} {ids : List String}
    {records records' : List Credential} :
    retire state ids records = .ok (state', records') ↔
      (blockedWith state.blocked ids records).length ≤ tombstoneLimit ∧
        state' = { state with blocked := blockedWith state.blocked ids records } ∧
        records' = disable ids records := by
  unfold retire
  simp only [bind_eq_ok, refuse_eq_ok, exists_const, decide_eq_false_iff_not, not_lt]
  constructor
  · rintro ⟨h, he⟩
    cases he
    exact ⟨h, rfl, rfl⟩
  · rintro ⟨h, rfl, rfl⟩
    exact ⟨h, rfl⟩

/-- There is room for the tombstones of records that are all accounted for. -/
lemma length_blockedWith_le (blocked ids : List String) (records : List Credential)
    {base : List String} (hb : base.length ≤ tombstoneLimit) (hblocked : blocked ⊆ base)
    (hrecords : records.map (·.verifier) ⊆ base) :
    (blockedWith blocked ids records).length ≤ tombstoneLimit := by
  have hsub : blockedWith blocked ids records ⊆ base := by
    intro v hv
    rcases mem_blockedWith.mp hv with hv | ⟨r, hr, -, rfl⟩
    · exact hblocked hv
    · exact hrecords (List.mem_map_of_mem hr)
  exact (List.subperm_of_subset (nodup_blockedWith _ _ _) hsub).length_le.trans hb

/-- A valid snapshot has room for the tombstones of all its records. -/
lemma retire_valid {m : Snapshot} (hm : m.Valid) (ids : List String) (state : State)
    (hb : state.blocked = m.blocked) :
    retire state ids m.records = .ok ({ state with blocked := blockedWith m.blocked ids m.records },
      disable ids m.records) := by
  refine retire_eq_ok.mpr ⟨?_, by rw [hb], rfl⟩
  rw [hb]
  refine length_blockedWith_le _ _ _ hm.room.tombstones (fun v hv => ?_) (fun v hv => ?_)
  · rw [List.mem_dedup, List.mem_append]
    exact Or.inl hv
  · rw [List.mem_dedup, List.mem_append]
    exact Or.inr hv

/-! ### The sweep in closed form -/

def sweptRow (c : Ctx) (m : Snapshot) (row : Row) : Row :=
  if row.state.terminal then row
  else if row.state = .acknowledged then { row with state := .completed }
  else if overdue c m row then { row with state := .expired }
  else row

/-- The identifiers whose records are retired with a row. -/
def retiredIds (c : Ctx) (m : Snapshot) (row : Row) : List String :=
  if row.state.terminal || row.state = .acknowledged || !overdue c m row then []
  else row.credentialId :: if row.state = .delivered then row.oldIds else []

/-- The sweep of `row` changes it. -/
def lapses (c : Ctx) (m : Snapshot) (row : Row) : Bool :=
  !row.state.terminal && (row.state = .acknowledged || overdue c m row)

lemma sweptRow_of_not_lapses {c : Ctx} {m : Snapshot} {row : Row} (h : lapses c m row = false) :
    sweptRow c m row = row := by
  unfold sweptRow
  simp only [lapses, Bool.and_eq_false_iff, Bool.not_eq_false', Bool.or_eq_false_iff,
    decide_eq_false_iff_not] at h
  rcases h with h | ⟨h, h'⟩
  · rw [if_pos h]
  · split
    · rfl
    · simp [h']

lemma retiredIds_of_not_lapses {c : Ctx} {m : Snapshot} {row : Row}
    (h : lapses c m row = false) : retiredIds c m row = [] := by
  unfold retiredIds
  simp only [lapses, Bool.and_eq_false_iff, Bool.not_eq_false', Bool.or_eq_false_iff] at h
  rcases h with h | ⟨-, h'⟩ <;> simp [*]

/-- What one row of the loop does to the accumulator. -/
lemma sweepRow_eq {c : Ctx} {m : Snapshot} {acc : Sweep} {key : String} {row : Row} :
    sweepRow c m acc (key, row) =
      if lapses c m row then
        if row.state = .acknowledged then
          .ok { acc with state := acc.state.put key (sweptRow c m row), changed := true }
        else do
          let (state, records) ← retire acc.state (retiredIds c m row) acc.records
          .ok ⟨state.put key (sweptRow c m row), records, acc.retired ++ retiredIds c m row, true⟩
      else .ok acc := by
  unfold sweepRow lapses sweptRow retiredIds
  dsimp only
  by_cases ht : row.state.terminal = true
  · simp [ht]; rfl
  · simp only [Bool.not_eq_true] at ht
    by_cases ha : row.state = .acknowledged
    · simp [ha]; rfl
    · by_cases ho : overdue c m row = true
      · simp [ht, ha, ho]; rfl
      · simp [ht, ha, ho]; rfl

structure SweptRows (c : Ctx) (m : Snapshot) (pre l : List (String × Row)) (acc acc' : Sweep) :
    Prop where
  operations : acc'.state.operations.entries =
    pre ++ l.map fun e => (e.1, sweptRow c m e.2)
  bindings : acc'.state.bindings = acc.state.bindings
  recovery : acc'.state.recovery = acc.state.recovery
  records : acc'.records = disable (l.flatMap fun e => retiredIds c m e.2) acc.records
  retired : acc'.retired = acc.retired ++ l.flatMap fun e => retiredIds c m e.2
  blocked : ∀ v, v ∈ acc'.state.blocked ↔ v ∈ acc.state.blocked ∨
    ∃ r ∈ acc.records, r.id ∈ (l.flatMap fun e => retiredIds c m e.2) ∧ r.verifier = v
  nodup : acc.state.blocked.Nodup → acc'.state.blocked.Nodup
  changed : acc'.changed = (acc.changed || l.any fun e => lapses c m e.2)

/-- The loop never fails while there is room for the tombstones, and leaves every row swept. -/
lemma foldlM_sweepRow (c : Ctx) (m : Snapshot) {base : List String}
    (hb : base.length ≤ tombstoneLimit) :
    ∀ (l pre : List (String × Row)) (acc : Sweep), acc.state.operations.entries = pre ++ l →
      acc.state.blocked ⊆ base → acc.records.map (·.verifier) ⊆ base →
      ∃ acc', l.foldlM (sweepRow c m) acc = .ok acc' ∧ SweptRows c m pre l acc acc'
  | [], pre, acc, hentries, _, _ =>
    ⟨acc, rfl, by simpa using hentries, rfl, rfl, by simp, by simp, by simp, id, by simp⟩
  | (key, row) :: l, pre, acc, hentries, hblocked, hrecords => by
    have hn := acc.state.operations.nodup
    rw [hentries, List.map_append, List.map_cons] at hn
    have hkey : key ∉ pre.map Prod.fst := fun h =>
      (List.nodup_append.mp hn).2.2 key h key List.mem_cons_self rfl
    have hput : ∀ (state : State), state.operations = acc.state.operations →
        (state.put key (sweptRow c m row)).operations.entries =
          (pre ++ [(key, sweptRow c m row)]) ++ l := by
      intro state hstate
      show Dict.setEntries key _ state.operations.entries = _
      rw [hstate, hentries, Dict.setEntries_append hkey]
      simp
    rw [List.foldlM_cons, sweepRow_eq]
    by_cases hl : lapses c m row = true
    · rw [if_pos hl]
      by_cases ha : row.state = .acknowledged
      · rw [if_pos ha]
        have hnone : retiredIds c m row = [] := by simp [retiredIds, ha]
        obtain ⟨acc', hacc, hs⟩ := foldlM_sweepRow c m hb l (pre ++ [(key, sweptRow c m row)])
          { acc with state := acc.state.put key (sweptRow c m row), changed := true }
          (hput _ rfl) hblocked hrecords
        refine ⟨acc', hacc, ?_, hs.bindings, hs.recovery, ?_, ?_, ?_, hs.nodup, ?_⟩
        · simpa using hs.operations
        · simpa [hnone] using hs.records
        · simpa [hnone] using hs.retired
        · simpa [hnone, State.put] using hs.blocked
        · simpa [hl] using hs.changed
      · rw [if_neg ha]
        set ids := retiredIds c m row with hids
        set blocked := blockedWith acc.state.blocked ids acc.records with hblk
        have hretire : retire acc.state ids acc.records =
            .ok ({ acc.state with blocked }, disable ids acc.records) :=
          retire_eq_ok.mpr ⟨length_blockedWith_le _ _ _ hb hblocked hrecords, rfl, rfl⟩
        rw [hretire]
        have hsub : blocked ⊆ base := by
          intro v hv
          rcases mem_blockedWith.mp hv with hv | ⟨r, hr, -, rfl⟩
          · exact hblocked hv
          · exact hrecords (List.mem_map_of_mem hr)
        obtain ⟨acc', hacc, hs⟩ := foldlM_sweepRow c m hb l (pre ++ [(key, sweptRow c m row)])
          ⟨({ acc.state with blocked } : State).put key (sweptRow c m row),
            disable ids acc.records, acc.retired ++ ids, true⟩
          (hput _ rfl) hsub (by simpa using hrecords)
        refine ⟨acc', hacc, ?_, hs.bindings, hs.recovery, ?_, ?_, ?_,
          fun _ => hs.nodup (nodup_blockedWith _ _ _), ?_⟩
        · simpa using hs.operations
        · simpa [disable_disable] using hs.records
        · simpa using hs.retired
        · intro v
          rw [hs.blocked v, List.flatMap_cons, ← hids]
          simp only [State.put, hblk, mem_blockedWith, List.mem_append]
          constructor
          · rintro ((h | ⟨r, hr, hid, hv⟩) | ⟨r, hr, hid, hv⟩)
            · exact Or.inl h
            · exact Or.inr ⟨r, hr, Or.inl hid, hv⟩
            · obtain ⟨r', hr', h1, -, -, h4, -⟩ := disable_origin hr
              exact Or.inr ⟨r', hr', Or.inr (h1 ▸ hid), h4.trans hv⟩
          · rintro (h | ⟨r, hr, hid | hid, hv⟩)
            · exact Or.inl (Or.inl h)
            · exact Or.inl (Or.inr ⟨r, hr, hid, hv⟩)
            · obtain ⟨r', hr', h1, h2⟩ := mem_disable_of_mem ids hr
              exact Or.inr ⟨r', hr', h1 ▸ hid, h2.trans hv⟩
        · simpa [hl] using hs.changed
    · rw [if_neg hl]
      simp only [Bool.not_eq_true] at hl
      have hrow := sweptRow_of_not_lapses hl
      have hnone := retiredIds_of_not_lapses hl
      obtain ⟨acc', hacc, hs⟩ := foldlM_sweepRow c m hb l (pre ++ [(key, row)]) acc
        (by simpa using hentries) hblocked hrecords
      refine ⟨acc', hacc, ?_, hs.bindings, hs.recovery, ?_, ?_, ?_, hs.nodup, ?_⟩
      · simpa [hrow] using hs.operations
      · simpa [hnone] using hs.records
      · simpa [hnone] using hs.retired
      · simpa [hnone] using hs.blocked
      · simpa [hl] using hs.changed

/-- The pointers among `l` whose operation has ended. -/
def ended (operations : Dict String Row) (l : List (String × Recovery)) : List String :=
  (l.filter fun e => (operations.get? e.2.operationId).any (·.state.terminal)).map Prod.fst

lemma foldlM_sweepPointer : ∀ (l : List (String × Recovery)) (acc : Sweep),
    (∀ e ∈ l, (acc.state.operations.get? e.2.operationId).isSome) →
    l.foldlM sweepPointer acc = .ok { acc with
      state := { acc.state with
        recovery := acc.state.recovery.filter fun k _ => !(k ∈ ended acc.state.operations l) }
      changed := acc.changed || !(ended acc.state.operations l).isEmpty }
  | [], acc, _ => by
    have hf : (acc.state.recovery.filter fun k _ => !(k ∈ ended acc.state.operations [])) =
        acc.state.recovery := Dict.filter_eq_self fun _ _ _ => by simp [ended]
    rw [List.foldlM_nil, hf]
    simp [ended]
    rfl
  | (subject, r) :: l, acc, h => by
    rw [List.forall_mem_cons] at h
    obtain ⟨op, hop⟩ := Option.isSome_iff_exists.mp h.1
    have hstep : sweepPointer acc (subject, r) = if op.state.terminal then
        .ok { acc with
          state := { acc.state with recovery := acc.state.recovery.erase subject }
          changed := true }
        else .ok acc := by
      unfold sweepPointer
      dsimp only
      rw [hop]
      rfl
    rw [List.foldlM_cons, hstep]
    by_cases ht : op.state.terminal = true
    · have he : ended acc.state.operations ((subject, r) :: l) =
          subject :: ended acc.state.operations l := by
        simp [ended, hop, ht]
      have hrec := foldlM_sweepPointer l
        { acc with
          state := { acc.state with recovery := acc.state.recovery.erase subject }
          changed := true } h.2
      rw [if_pos ht]
      refine hrec.trans ?_
      rw [he, Dict.erase, Dict.filter_filter]
      have hf : (acc.state.recovery.filter fun k a =>
          decide (k ≠ subject) && !decide (k ∈ ended acc.state.operations l)) =
          acc.state.recovery.filter fun k _ =>
            !decide (k ∈ subject :: ended acc.state.operations l) :=
        Dict.filter_congr fun k _ _ => by simp [List.mem_cons]
      rw [hf]
      simp
    · have he : ended acc.state.operations ((subject, r) :: l) =
          ended acc.state.operations l := by
        simp [ended, hop, ht]
      rw [if_neg ht, he]
      exact foldlM_sweepPointer l acc h.2

/-- The identifiers that the sweep retires. -/
def sweptIds (c : Ctx) (m : Snapshot) : List String := m.operations.values.flatMap (retiredIds c m)

def sweptOperations (c : Ctx) (m : Snapshot) : Dict String Row :=
  m.operations.map fun _ => sweptRow c m

/-- The pointers to operations that have not ended. -/
def livePointers (operations : Dict String Row) (recovery : Dict String Recovery) :
    Dict String Recovery :=
  recovery.filter fun _ r => (operations.get? r.operationId).any fun op => !op.state.terminal

/-- What the sweep makes of a snapshot, up to the order of the tombstones. -/
def swept (c : Ctx) (m : Snapshot) (blocked : List String) : Snapshot :=
  { m with
    records := disable (sweptIds c m) m.records
    enrollment := invalidateApprovals m (sweptIds c m)
    lifecycle := some
      { operations := sweptOperations c m
        blocked
        bindings := m.bindings
        recovery := livePointers (sweptOperations c m) m.recovery } }

lemma swept_operations (c : Ctx) (m : Snapshot) (blocked : List String) :
    (swept c m blocked).operations = m.operations.map fun _ => sweptRow c m := rfl

lemma swept_recovery (c : Ctx) (m : Snapshot) (blocked : List String) :
    (swept c m blocked).recovery = livePointers (sweptOperations c m) m.recovery := rfl

/-- The tombstones after the retirement of `ids`. -/
structure Blocks (m : Snapshot) (ids blocked : List String) : Prop where
  mem : ∀ v, v ∈ blocked ↔ v ∈ m.blocked ∨ ∃ r ∈ m.records, r.id ∈ ids ∧ r.verifier = v
  nodup : blocked.Nodup

/-- Nothing is left for the sweep to do. -/
structure Settled (c : Ctx) (m : Snapshot) : Prop where
  rows : ∀ id row, m.operations.get? id = some row → lapses c m row = false
  pointers : ∀ subject p, m.recovery.get? subject = some p →
    ∃ op, m.operations.get? p.operationId = some op ∧ op.state.terminal = false

lemma stateOf_operations (m : Snapshot) : (stateOf m).operations = m.operations := by
  unfold stateOf Snapshot.operations
  cases m.lifecycle <;> rfl

lemma stateOf_blocked (m : Snapshot) : (stateOf m).blocked = m.blocked := by
  unfold stateOf Snapshot.blocked
  cases m.lifecycle <;> rfl

lemma stateOf_bindings (m : Snapshot) : (stateOf m).bindings = m.bindings := by
  unfold stateOf Snapshot.bindings
  cases m.lifecycle <;> rfl

lemma stateOf_recovery (m : Snapshot) : (stateOf m).recovery = m.recovery := by
  unfold stateOf Snapshot.recovery
  cases m.lifecycle <;> rfl

lemma sweptRow_terminal {c : Ctx} {m : Snapshot} {row : Row} (h : lapses c m row = true) :
    (sweptRow c m row).state.terminal = true := by
  simp only [lapses, Bool.and_eq_true, Bool.not_eq_true', Bool.or_eq_true,
    decide_eq_true_eq] at h
  unfold sweptRow
  rw [if_neg (by simp [h.1])]
  split
  · rfl
  · next ha =>
    rw [if_pos (h.2.resolve_left ha)]
    rfl

lemma lapses_sweptRow (c : Ctx) (m m' : Snapshot) (row : Row)
    (ho : m'.ownerGeneration = m.ownerGeneration) : lapses c m' (sweptRow c m row) = false := by
  cases h : lapses c m row with
  | true => simp [lapses, sweptRow_terminal h]
  | false =>
    rw [sweptRow_of_not_lapses h]
    simpa [lapses, overdue, ho] using h

/-- A swept snapshot is settled. -/
lemma settled_swept (c : Ctx) (m : Snapshot) (blocked : List String) :
    Settled c (swept c m blocked) := by
  refine ⟨fun id row h => ?_, fun subject p h => ?_⟩
  · have h' : (sweptOperations c m).get? id = some row := h
    rw [sweptOperations, Dict.get?_map_some] at h'
    obtain ⟨row, -, rfl⟩ := h'
    exact lapses_sweptRow c m _ row rfl
  · have h' : (livePointers (sweptOperations c m) m.recovery).get? subject = some p := h
    rw [livePointers, Dict.get?_filter_some, Option.any_eq_true] at h'
    obtain ⟨-, op, hop, ht⟩ := h'
    exact ⟨op, hop, by simpa using ht⟩

lemma not_mem_ended (operations : Dict String Row) {recovery : Dict String Recovery}
    {subject : String} {p : Recovery} (h : recovery.get? subject = some p)
    (hop : (operations.get? p.operationId).isSome) :
    (!decide (subject ∈ ended operations recovery.entries)) =
      (operations.get? p.operationId).any fun op => !op.state.terminal := by
  obtain ⟨op, hop⟩ := Option.isSome_iff_exists.mp hop
  have he : subject ∈ ended operations recovery.entries ↔ op.state.terminal = true := by
    simp only [ended, List.mem_map, List.mem_filter, Prod.exists, exists_and_right,
      exists_eq_right]
    constructor
    · rintro ⟨p', hp', ht⟩
      rw [Dict.mem_entries, h] at hp'
      cases hp'
      simpa [hop] using ht
    · intro ht
      exact ⟨p, Dict.mem_entries.mpr h, by simpa [hop] using ht⟩
  rw [hop, Option.any_some]
  cases ht : op.state.terminal <;> simp [he, ht]

/-- The loops of the sweep, on a valid snapshot. -/
lemma sweepLoops_spec (c : Ctx) {m : Snapshot} (hm : m.Valid) :
    ∃ acc, sweepLoops c m = .ok acc ∧ Blocks m (sweptIds c m) acc.state.blocked ∧
      acc.retired = sweptIds c m ∧
      { m with
        records := acc.records
        enrollment := invalidateApprovals m (sweptIds c m)
        lifecycle := some acc.state } = swept c m acc.state.blocked ∧
      (acc.changed = false → Settled c m) := by
  obtain ⟨acc, hacc, hs⟩ := foldlM_sweepRow c m hm.room.tombstones (stateOf m).operations.entries []
    ⟨stateOf m, m.records, [], false⟩ rfl
    (fun v hv => by
      rw [List.mem_dedup, List.mem_append]
      exact Or.inl (stateOf_blocked m ▸ hv))
    (fun v hv => by
      rw [List.mem_dedup, List.mem_append]
      exact Or.inr hv)
  have hops : acc.state.operations = sweptOperations c m := by
    refine Dict.ext_entries ?_
    rw [hs.operations, stateOf_operations]
    rfl
  have hids : ((stateOf m).operations.entries.flatMap fun e => retiredIds c m e.2) =
      sweptIds c m := by
    rw [stateOf_operations, sweptIds, Dict.values, List.flatMap_map]
  have hrec : acc.state.recovery = m.recovery := hs.recovery.trans (stateOf_recovery m)
  have hpointers : ∀ subject p, m.recovery.get? subject = some p →
      (acc.state.operations.get? p.operationId).isSome := by
    intro subject p hp
    obtain ⟨op, hop, -⟩ := hm.pointer hp
    rw [hops, sweptOperations, Dict.get?_map, hop]
    rfl
  have hloop := foldlM_sweepPointer (stateOf m).recovery.entries acc
    (fun e he => hpointers e.1 e.2 (by rwa [stateOf_recovery, Dict.mem_entries] at he))
  refine ⟨_, (show sweepLoops c m = _ from ?_).trans hloop, ?_, ?_, ?_, ?_⟩
  · unfold sweepLoops
    dsimp only
    rw [hacc]
    rfl
  · refine ⟨fun v => ?_, hs.nodup ?_⟩
    · rw [← hids, ← stateOf_blocked m]
      exact hs.blocked v
    · rw [stateOf_blocked]
      exact hm.lifecycleValid.nodup
  · rw [← hids]
    exact hs.retired.trans (List.nil_append _)
  · have hlive : (acc.state.recovery.filter fun k _ =>
        !(k ∈ ended (sweptOperations c m) (stateOf m).recovery.entries)) =
        livePointers (sweptOperations c m) m.recovery := by
      rw [hrec, stateOf_recovery]
      exact Dict.filter_congr fun k p hp => not_mem_ended _ hp (hops ▸ hpointers k p hp)
    have hrecords : acc.records = disable (sweptIds c m) m.records := hids ▸ hs.records
    have hbindings : acc.state.bindings = m.bindings :=
      hs.bindings.trans (stateOf_bindings m)
    simp only [hrecords, hbindings, hops, hlive, swept]
  · intro hc
    simp only [Bool.or_eq_false_iff, Bool.not_eq_false', List.isEmpty_iff] at hc
    obtain ⟨hchanged, hended⟩ := hc
    rw [hs.changed, Bool.false_or, List.any_eq_false, stateOf_operations] at hchanged
    have hrows : ∀ id row, m.operations.get? id = some row → lapses c m row = false := by
      intro id row h
      simpa using hchanged (id, row) (Dict.mem_entries.mpr h)
    have hsame : sweptOperations c m = m.operations :=
      Dict.map_eq_self fun k a h => sweptRow_of_not_lapses (hrows k a h)
    refine ⟨hrows, fun subject p hp => ?_⟩
    have hn := not_mem_ended acc.state.operations hp (hpointers _ _ hp)
    rw [stateOf_recovery] at hended
    rw [hended, hops, hsame] at hn
    simpa [Option.any_eq_true] using hn.symm

/-- What the body of the sweep does to a valid snapshot: nothing, when that is settled, or one
write of the swept one. -/
lemma sweepBody_spec (c : Ctx) {m : Snapshot} (hm : m.Valid) :
    (sweepBody c m = .ok (.reply ()) ∧ Settled c m) ∨
      ∃ blocked write, Blocks m (sweptIds c m) blocked ∧
        sweepBody c m = .ok (.save m write (.ok ())) ∧
        write.next m = swept c m blocked := by
  obtain ⟨acc, hacc, hblocked, hretired, hswept, hsettled⟩ := sweepLoops_spec c hm
  have hbody : sweepBody c m = if acc.changed then
      .ok (.save m (.lifecycle acc.state acc.records (some (invalidateApprovals m acc.retired)))
        (.ok ()))
      else .ok (.reply ()) := by
    unfold sweepBody
    rw [hacc]
    rfl
  rw [hbody]
  cases hc : acc.changed with
  | false => exact Or.inl ⟨rfl, hsettled hc⟩
  | true =>
    refine Or.inr ⟨_, _, hblocked, rfl, ?_⟩
    rw [hretired]
    exact hswept

end Lifecycle

end Vauxr
