import Vauxr.Codec
import Vauxr.Lib.Refine

/-!
The loader reads back what the writer wrote: row by row, namespace by namespace, and for the
whole file in every schema version the writer can emit.
-/

namespace Vauxr

open Lib

namespace Codec

/-! ### Reading the fields of an object -/

lemma exactly_obj {fields : List (String × Json)} {names : List String}
    (hn : (fields.map Prod.fst).Nodup) (hk : (fields.map Prod.fst).length = names.length)
    (hm : ∀ k ∈ names, k ∈ fields.map Prod.fst) :
    exactly (.obj fields) names = some ⟨fields, hn⟩ := by
  simp only [exactly, Json.obj?, Dict.ofEntries?, hn, dite_true, Option.filter_eq_some_iff,
    Json.hasKeys, Dict.keys, Bool.and_eq_true, List.all_eq_true, beq_iff_eq, true_and]
  exact ⟨hk, fun k h => decide_eq_true (hm k h)⟩

lemma within_obj {fields : List (String × Json)} {required allowed : List String}
    (hn : (fields.map Prod.fst).Nodup) (hr : ∀ k ∈ required, k ∈ fields.map Prod.fst)
    (ha : ∀ k ∈ fields.map Prod.fst, k ∈ required ++ allowed) :
    within (.obj fields) required allowed = some ⟨fields, hn⟩ := by
  simp only [within, Json.obj?, Dict.ofEntries?, hn, dite_true, Option.filter_eq_some_iff,
    Dict.keys, Bool.and_eq_true, List.all_eq_true, true_and]
  exact ⟨fun k h => decide_eq_true (hr k h), fun k h => decide_eq_true (ha k h)⟩

lemma read_some {α β : Type} {o : Option α} {a : α} {f : α → Option β} {b : β} (h : o = some a)
    (hf : f a = some b) : o >>= f = some b := by
  subst h
  exact hf

lemma str?_str (s : String) : Json.str? (.str s) = some s := rfl

lemma strings_read (l : List String) : Json.list? Json.str? (.ofList .str l) = some l :=
  Json.list?_ofList str?_str l

lemma numbers_read (l : List ℚ) : Json.list? Json.number? (.ofList .number l) = some l :=
  Json.list?_ofList Json.number?_number l

lemma read_writeCredential (r : Credential) : readCredential (writeCredential r) = some r :=
  read_some (within_obj (by simp)
    (by simp) (by simp)) <|
  read_some rfl <| read_some (Role.ofValue?_value _) <| read_some rfl <| read_some rfl <|
  read_some rfl (dif_pos r.valid)

lemma read_writePending (p : Pending) : readPending (writePending p) = some p :=
  read_some (exactly_obj (by simp) (by rfl)
    (by simp)) <|
  read_some rfl <| read_some rfl <| read_some (Json.number?_number _) rfl

lemma read_writeSession (q : ℚ) : readSession (writeSession q) = some q :=
  read_some (exactly_obj (by simp) (by rfl)
    (by simp)) (Json.number?_number q)

lemma read_writeSessions (s : Sessions) : readSessions (writeSessions s) = some s :=
  read_some (exactly_obj (by simp) (by rfl)
    (by simp)) <|
  read_some rfl <| read_some (Json.dict?_ofDict read_writeSession _) rfl

lemma read_writeActor (p : Principal) : readActor (writeActor p) = some p :=
  read_some (exactly_obj (by simp) (by rfl)
    (by simp)) <|
  read_some (Role.ofValue?_value _) <| read_some rfl <| read_some rfl <| read_some rfl rfl

lemma read_writeNullable (o : Option Principal) :
    nullable readActor (writeNullable writeActor o) = some o := by
  cases o with
  | none => rfl
  | some p =>
    have h : nullable readActor (writeActor p) = (readActor (writeActor p)).map some := rfl
    rw [writeNullable, h, read_writeActor]
    rfl

lemma read_writeRequest (r : Enrollment.Row) : readRequest (writeRequest r) = some r :=
  read_some (exactly_obj (by simp) (by rfl)
    (by simp)) <|
  read_some rfl <| read_some rfl <| read_some rfl <| read_some rfl <|
  read_some (Enrollment.Kind.ofValue?_value _) <| read_some rfl <| read_some rfl <|
  read_some rfl <| read_some rfl <| read_some rfl <| read_some rfl <|
  read_some (Enrollment.Status.ofValue?_value _) <| read_some rfl <| read_some rfl <|
  read_some (read_writeNullable _) <| read_some (read_writeNullable _) rfl

lemma read_writeOperation (r : Lifecycle.Row) : readOperation (writeOperation r) = some r :=
  read_some (exactly_obj (by simp) (by rfl)
    (by simp)) <|
  read_some rfl <| read_some (Role.ofValue?_value _) <| read_some rfl <|
  read_some (Lifecycle.Action.ofValue?_value _) <|
  read_some (Lifecycle.Phase.ofValue?_value _) <| read_some (Json.number?_number _) <|
  read_some (Json.number?_number _) <| read_some rfl <| read_some (strings_read _) <|
  read_some rfl <| read_some rfl rfl

lemma read_writeBinding (b : Lifecycle.Binding) : readBinding (writeBinding b) = some b :=
  read_some (exactly_obj (by simp) (by rfl)
    (by simp)) <|
  read_some rfl <| read_some (Enrollment.Kind.ofValue?_value _) rfl

lemma read_writeRecovery (r : Lifecycle.Recovery) : readRecovery (writeRecovery r) = some r :=
  read_some (exactly_obj (by simp) (by rfl)
    (by simp)) <|
  read_some rfl <| read_some rfl rfl

lemma read_writeAgent (r : Integration.Row) : readAgent (writeAgent r) = some r :=
  read_some (exactly_obj (by simp) (by rfl)
    (by simp)) <|
  read_some rfl <| read_some rfl <| read_some rfl <| read_some rfl <| read_some rfl <|
  read_some (Json.number?_number _) <| read_some (Json.number?_number _) <|
  read_some (Integration.Status.ofValue?_value _) <| read_some rfl <| read_some rfl <|
  read_some rfl <| read_some rfl <| read_some rfl rfl

/-! ### The namespaces -/

lemma find_present_none {k : String} : ∀ {fields : List (String × Option Json)},
    k ∉ fields.map Prod.fst → Dict.find k (present fields) = none
  | [], _ => rfl
  | (k', o) :: fields, h => by
    rw [List.map_cons, List.mem_cons, not_or] at h
    have ih := find_present_none h.2
    cases o with
    | none => exact ih
    | some j => exact (if_neg fun e => h.1 e.symm).trans ih

/-- A field that was written is found again, one that was not is missing. -/
lemma find_present {k : String} {o : Option Json} : ∀ {fields : List (String × Option Json)},
    (fields.map Prod.fst).Nodup → (k, o) ∈ fields → Dict.find k (present fields) = o
  | [], _, h => by simp at h
  | (k', o') :: fields, hn, h => by
    rw [List.map_cons, List.nodup_cons] at hn
    rcases List.mem_cons.mp h with h | h
    · obtain ⟨rfl, rfl⟩ := Prod.mk.inj h
      cases o with
      | none =>
        have h0 : Dict.find k (present fields) = none := find_present_none hn.1
        exact h0
      | some j => exact if_pos rfl
    · have hk : k' ≠ k := by
        rintro rfl
        exact hn.1 (List.mem_map.mpr ⟨_, h, rfl⟩)
      have ih := find_present hn.2 h
      cases o' with
      | none => exact ih
      | some j => exact (if_neg hk).trans ih

lemma keys_present_sublist (fields : List (String × Option Json)) :
    ((present fields).map Prod.fst).Sublist (fields.map Prod.fst) := by
  induction fields with
  | nil => exact List.Sublist.refl _
  | cons e fields ih =>
    obtain ⟨k, o⟩ := e
    cases o with
    | none => exact ih.cons k
    | some j => exact ih.cons_cons k

lemma optionalField_find {α : Type} {fields : List (String × Json)}
    {hn : (fields.map Prod.fst).Nodup} {name : String} {read : Json → Option α}
    {write : α → Json} {o : Option α} (hf : Dict.find name fields = o.map write)
    (hr : ∀ a, read (write a) = some a) : optionalField ⟨fields, hn⟩ name read = some o := by
  unfold optionalField
  rw [show (Dict.mk fields hn).get? name = o.map write from hf]
  cases o with
  | none => rfl
  | some a => exact congrArg (Option.map some) (hr a)

lemma field_find {α : Type} {fields : List (String × Json)}
    {hn : (fields.map Prod.fst).Nodup} {name : String} {read : Json → Option α} {j : Json}
    (hf : Dict.find name fields = some j) : field ⟨fields, hn⟩ name read = read j := by
  unfold field
  rw [show (Dict.mk fields hn).get? name = some j from hf]
  rfl

lemma read_writeOwner (o : Option OwnerState) : readOwner (writeOwner o) = some o := by
  cases o with
  | none => rfl
  | some s =>
    let rows : List (String × Option Json) :=
      [("version", some (.int 1)), ("mode", some (.str s.mode.value)),
        ("generation", some (.str s.generation)), ("verifier", s.verifier.map .str),
        ("claim", s.claim.map .str), ("claim_expires", s.claimExpires.map .number),
        ("claim_attempts", s.claimAttempts.map .int), ("pending", s.pending.map writePending),
        ("attempts", s.attempts.map (.ofList .number)),
        ("sessions", s.sessions.map writeSessions)]
    have hrows : (rows.map Prod.fst).Nodup := by
      simp [rows]
    have hsub := keys_present_sublist rows
    have hn : ((present rows).map Prod.fst).Nodup := hrows.sublist hsub
    have hfind : ∀ i : Fin 10, Dict.find (rows.get i).1 (present rows) = (rows.get i).2 :=
      fun i => find_present hrows (List.get_mem rows i)
    have hv : field ⟨present rows, hn⟩ "version" Json.int? = some 1 := field_find (hfind 0)
    have hm : field ⟨present rows, hn⟩ "mode" (readEnum OwnerMode.ofValue?) = some s.mode :=
      (field_find (hfind 1)).trans (OwnerMode.ofValue?_value s.mode)
    have hg : field ⟨present rows, hn⟩ "generation" Json.str? = some s.generation :=
      field_find (hfind 2)
    have hreq : ∀ k ∈ ["version", "mode", "generation"], k ∈ (present rows).map Prod.fst := by
      rintro k hk
      simp only [rows, present, List.filterMap_cons, Option.map_some, List.map_cons]
      rw [← List.singleton_append, ← List.singleton_append, ← List.singleton_append]
      simp only [List.mem_append, List.mem_cons, List.not_mem_nil, or_false] at hk ⊢
      tauto
    have hall : ∀ k ∈ (present rows).map Prod.fst, k ∈ ["version", "mode", "generation"] ++
        ["verifier", "claim", "claim_expires", "claim_attempts", "pending", "attempts",
          "sessions"] := fun k hk => hsub.subset hk
    have hw : writeOwner (some s) = .obj (present rows) := rfl
    have hsize : (Dict.mk (present rows) hn).size ≠ 0 := by
      intro h
      have : (present rows).length = 0 := h
      simp [rows, present] at this
    rw [hw]
    refine read_some (Dict.ofEntries?_entries ⟨_, hn⟩) ?_
    rw [if_neg hsize]
    refine read_some (within_obj hn hreq hall) ?_
    refine read_some (a := ()) (by rw [versionOne, hv]; rfl) (read_some hm (read_some hg ?_))
    refine read_some (optionalField_find (hfind 3) str?_str) ?_
    refine read_some (optionalField_find (hfind 4) str?_str) ?_
    refine read_some (optionalField_find (hfind 5) Json.number?_number) ?_
    refine read_some (optionalField_find (hfind 6) fun _ => rfl) ?_
    refine read_some (optionalField_find (hfind 7) read_writePending) ?_
    refine read_some (optionalField_find (hfind 8) numbers_read) ?_
    exact read_some (optionalField_find (hfind 9) read_writeSessions) rfl

lemma read_writeEnrollment (e : Option Enrollment.State) :
    readEnrollment (writeEnrollment e) = some e := by
  cases e with
  | none => rfl
  | some s =>
    exact read_some (Dict.ofEntries?_entries ⟨_, by simp⟩) <|
      read_some (exactly_obj (by simp) (by rfl)
        (by simp)) <|
      read_some rfl <| read_some rfl <|
      read_some (Json.dict?_ofDict read_writeRequest _) <| read_some (numbers_read _) rfl

lemma read_writeLifecycle (l : Option Lifecycle.State) :
    readLifecycle (writeLifecycle l) = some l := by
  cases l with
  | none => rfl
  | some s =>
    exact read_some (Dict.ofEntries?_entries ⟨_, by simp⟩) <|
      read_some (exactly_obj (by simp) (by rfl)
        (by simp)) <|
      read_some rfl <| read_some (Json.dict?_ofDict read_writeOperation _) <|
      read_some (strings_read _) <| read_some (Json.dict?_ofDict read_writeBinding _) <|
      read_some (Json.dict?_ofDict read_writeRecovery _) rfl

lemma read_writeIntegration (i : Option Integration.State) :
    readIntegration (writeIntegration i) = some i := by
  cases i with
  | none => rfl
  | some s =>
    exact read_some (Dict.ofEntries?_entries ⟨_, by simp⟩) <|
      read_some (exactly_obj (by simp) (by rfl)
        (by simp)) <|
      read_some rfl <| read_some (Json.dict?_ofDict read_writeAgent _) rfl

/-! ### The file -/

lemma parse_ok {α β : Type} {x : Except Error α} {a : α} {f : α → Except Error β} {b : β}
    (h : x = .ok a) (hf : f a = .ok b) : x >>= f = .ok b := by
  subst h
  exact hf

lemma require_ok {name : String} {b : Bool} (h : b = true) : require name b = .ok () := if_pos h

lemma readSection_some {α : Type} {fields : List (String × Json)} {hn : (fields.map Prod.fst).Nodup}
    {name : String} {read : Json → Option (Option α)} {j : Json} {o : Option α}
    (hf : Dict.find name fields = some j) (hr : read j = some o) :
    readSection ⟨fields, hn⟩ name read = .ok o := by
  unfold readSection
  rw [show (Dict.mk fields hn).get? name = some j from hf]
  exact congrArg (fun o => Option.elim o _ Except.ok) hr

lemma readSection_none {α : Type} {fields : List (String × Json)} {hn : (fields.map Prod.fst).Nodup}
    {name : String} {read : Json → Option (Option α)} (hf : Dict.find name fields = none) :
    readSection ⟨fields, hn⟩ name read = .ok none := by
  unfold readSection
  rw [show (Dict.mk fields hn).get? name = none from hf]

lemma credentials_read (l : List Credential) :
    Json.list? readCredential (.ofList writeCredential l) = some l :=
  Json.list?_ofList read_writeCredential l

/-- What remains of `parse` once the sections have been read. -/
lemma parse_fields {s : Snapshot} (hs : s.Valid) {fields : List (String × Json)}
    (hn : (fields.map Prod.fst).Nodup)
    (hversion : Dict.find "version" fields = some (.int (versionOf s)))
    (hkeys : (versionOf s ∈ [1, 2, 3, 4, 5] &&
      Json.hasKeys ⟨fields, hn⟩ (keysOf (versionOf s))) = true)
    (hrecords : Dict.find "credentials" fields = some (.ofList writeCredential s.records))
    (howner : readSection ⟨fields, hn⟩ "owner" readOwner = .ok s.owner)
    (henrollment : readSection ⟨fields, hn⟩ "enrollment" readEnrollment = .ok s.enrollment)
    (hlifecycle : readSection ⟨fields, hn⟩ "lifecycle" readLifecycle = .ok s.lifecycle)
    (hintegration : readSection ⟨fields, hn⟩ "integration" readIntegration = .ok s.integration)
    (h5 : versionOf s = 5 → s.integration.isSome) (h4 : versionOf s = 4 → s.lifecycle.isSome)
    (h3 : versionOf s = 3 → s.enrollment.isSome) : parse (.obj fields) = .ok s := by
  have hd : Json.obj? (.obj fields) = some ⟨fields, hn⟩ :=
    Dict.ofEntries?_entries ⟨fields, hn⟩
  have hv : field ⟨fields, hn⟩ "version" Json.int? = some (versionOf s) := field_find hversion
  have hr : field ⟨fields, hn⟩ "credentials" (Json.list? readCredential) = some s.records :=
    (field_find hrecords).trans (credentials_read _)
  refine parse_ok (a := ⟨fields, hn⟩) (by rw [hd]; rfl) ?_
  refine parse_ok (a := versionOf s) (by rw [hv]; rfl) ?_
  refine parse_ok (require_ok hkeys) ?_
  refine parse_ok (a := s.records) (by rw [hr]; rfl) ?_
  refine parse_ok (require_ok (by simp [hs.credentials, hs.principals])) ?_
  refine parse_ok howner (parse_ok (require_ok hs.owner) ?_)
  refine parse_ok henrollment (parse_ok (require_ok hs.enrollment) ?_)
  refine parse_ok hlifecycle (parse_ok (require_ok hs.lifecycle) ?_)
  refine parse_ok hintegration (parse_ok (require_ok hs.integration) ?_)
  refine parse_ok (require_ok ?_) (parse_ok (require_ok hs.bound) ?_)
  · cases hi : s.integration <;> simp_all
  refine parse_ok (require_ok hs.capacity) (parse_ok (require_ok ?_) ?_)
  · cases hi : s.lifecycle <;> simp_all
  refine parse_ok (require_ok ?_) rfl
  cases hi : s.enrollment <;> simp_all

/-- **Codec closure**: the loader reads back every valid snapshot the writer wrote, in every
schema version. -/
theorem parse_payload {s : Snapshot} (hs : s.Valid) : parse (payload s) = .ok s := by
  obtain ⟨records, owner, enrollment, lifecycle, integration⟩ := s
  have ho := read_writeOwner owner
  have he := read_writeEnrollment enrollment
  have hl := read_writeLifecycle lifecycle
  have hi := read_writeIntegration integration
  cases integration with
  | some i =>
    exact parse_fields hs (show (keysOf 5).Nodup by decide +kernel) rfl (by rfl) rfl
      (readSection_some rfl ho) (readSection_some rfl he) (readSection_some rfl hl)
      (readSection_some rfl hi) (fun _ => rfl) (by simp [versionOf]) (by simp [versionOf])
  | none =>
    cases lifecycle with
    | some l =>
      exact parse_fields hs (show (keysOf 4).Nodup by decide +kernel) rfl (by rfl) rfl
        (readSection_some rfl ho) (readSection_some rfl he) (readSection_some rfl hl)
        (readSection_none rfl) (by simp [versionOf]) (fun _ => rfl) (by simp [versionOf])
    | none =>
      cases enrollment with
      | some e =>
        exact parse_fields hs (show (keysOf 3).Nodup by decide +kernel) rfl (by rfl) rfl
          (readSection_some rfl ho) (readSection_some rfl he) (readSection_none rfl)
          (readSection_none rfl) (by simp [versionOf]) (by simp [versionOf]) (fun _ => rfl)
      | none =>
        exact parse_fields hs (show (keysOf 2).Nodup by decide +kernel) rfl (by rfl) rfl
          (readSection_some rfl ho) (readSection_none rfl) (readSection_none rfl)
          (readSection_none rfl) (by simp [versionOf]) (by simp [versionOf]) (by simp [versionOf])

lemma require_eq_ok {name : String} {b : Bool} {u : Unit} :
    require name b = .ok u ↔ b = true := by
  cases b <;> simp [require]

/-- What the loader accepts is valid. -/
lemma parse_valid {j : Json} {s : Snapshot} (h : parse j = .ok s) : s.Valid := by
  simp only [parse, bind_eq_ok, require_eq_ok, exists_and_left, exists_const] at h
  obtain ⟨d, -, version, -, -, records, -, hrecords, owner, -, howner, enrollment, -, henrollment,
    lifecycle, -, hlifecycle, integration, -, hintegration, -, hbound, hcapacity, -, -, hs⟩ := h
  cases hs
  rw [Bool.and_eq_true, Bool.not_eq_true', Bool.not_eq_true'] at hrecords
  exact ⟨hrecords.1, hrecords.2, howner, henrollment, hlifecycle, hintegration, hbound, hcapacity⟩

lemma load_valid {file : Option Json} {s : Snapshot} (h : load file = .ok s) : s.Valid := by
  cases file with
  | none =>
    cases h
    exact Snapshot.valid_empty
  | some j => exact parse_valid h

end Codec

end Vauxr
