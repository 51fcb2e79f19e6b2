import Vauxr.Store

/-!
What an operation may rely on from the store: inside a transaction the state of the process is
the list of the snapshots committed so far, the latest first, and a write either commits one
complete new snapshot or leaves that list alone, whatever its faults are.
-/

namespace Vauxr

open Lib

/-! ### The files and the agent registry -/

/-- Errors of the storage, as against refusals of a request. -/
def Error.storage : Error → Prop
  | .os => True
  | .config _ => True
  | _ => False

/-- Everything but the agent registry stays, and its file stays one that decodes. -/
structure Frame (w w' : World) : Prop where
  files : w'.files = w.files
  mem : w'.mem = w.mem
  active : w'.active = w.active
  faults : w.faults = [] → w'.faults = []
  registry : w.registry.Decodes → w'.registry.Decodes

lemma Frame.refl (w : World) : Frame w w := ⟨rfl, rfl, rfl, id, id⟩

lemma Frame.trans {w₁ w₂ w₃ : World} (h : Frame w₁ w₂) (h' : Frame w₂ w₃) : Frame w₁ w₃ :=
  ⟨h'.files.trans h.files, h'.mem.trans h.mem, h'.active.trans h.active,
    fun hf => h'.faults (h.faults hf), fun hr => h'.registry (h.registry hr)⟩

def FramedAt {α : Type} (x : StoreM α) (w : World) : Prop :=
  Frame w (outcome x w).2 ∧ ∀ e, (outcome x w).1 = .error e → e.storage

def Framed {α : Type} (x : StoreM α) : Prop := ∀ w, FramedAt x w

namespace FramedAt

variable {α β : Type} {w : World}

lemma bind {x : StoreM α} {f : α → StoreM β} (hx : FramedAt x w)
    (hf : ∀ a w', outcome x w = (.ok a, w') → FramedAt (f a) w') : FramedAt (x >>= f) w := by
  obtain ⟨hw, he⟩ := hx
  unfold FramedAt
  rw [outcome_bind]
  rcases h : outcome x w with ⟨r, w'⟩
  rw [h] at hw he
  cases r with
  | ok a =>
    obtain ⟨hw', he'⟩ := hf a w' h
    exact ⟨hw.trans hw', he'⟩
  | error e => exact ⟨hw, fun e' h' => by cases h'; exact he _ rfl⟩

end FramedAt

namespace Framed

variable {α β : Type}

lemma pure (a : α) : Framed (Pure.pure a : StoreM α) :=
  fun w => ⟨Frame.refl w, fun _ h => nomatch h⟩

lemma throw {e : Error} (he : e.storage) : Framed (throw e : StoreM α) :=
  fun w => ⟨Frame.refl w, fun _ h => by cases h; exact he⟩

lemma get : Framed (get : StoreM World) := fun w => ⟨Frame.refl w, fun _ h => nomatch h⟩

lemma modify {f : World → World} (hf : ∀ w, Frame w (f w)) :
    Framed (modify f : StoreM PUnit) := fun w => ⟨hf w, fun _ h => nomatch h⟩

lemma bind {x : StoreM α} {f : α → StoreM β} (hx : Framed x) (hf : ∀ a, Framed (f a)) :
    Framed (x >>= f) := fun w => (hx w).bind fun a w' _ => hf a w'

lemma tryCatch {x : StoreM α} {f : Error → StoreM α} (hx : Framed x)
    (hf : ∀ e, e.storage → Framed (f e)) : Framed (tryCatch x f) := by
  intro w
  obtain ⟨hw, he⟩ := hx w
  unfold FramedAt
  rw [outcome_tryCatch]
  rcases h : outcome x w with ⟨r, w'⟩
  rw [h] at hw he
  cases r with
  | ok a => exact ⟨hw, fun _ h => nomatch h⟩
  | error e => exact ⟨hw.trans (hf e (he e rfl) w').1, (hf e (he e rfl) w').2⟩

lemma ofExcept {x : Except Error α} (hx : ∀ e, x = .error e → e.storage) :
    Framed (Store.ofExcept x) := by
  cases x with
  | ok a => exact pure a
  | error e => exact throw (hx e rfl)

end Framed

namespace Store

@[simp] lemma outcome_ofExcept {α : Type} (x : Except Error α) (w : World) :
    outcome (ofExcept x) w = (x, w) := by
  cases x <;> rfl

lemma framed_takeFault : Framed takeFault := by
  intro w
  unfold FramedAt takeFault
  rw [outcome_bind]
  cases h : w.faults with
  | nil =>
    simp only [outcome_get, h]
    exact ⟨Frame.refl w, fun _ h => nomatch h⟩
  | cons f rest =>
    simp only [outcome_get, h]
    exact ⟨⟨rfl, rfl, rfl, fun h' => by simp [h] at h', id⟩, fun _ h => nomatch h⟩

lemma framed_atomically {f : World → World} (hf : ∀ w, Frame w (f w)) :
    Framed (atomically f) := by
  refine framed_takeFault.bind fun fault => ?_
  cases fault with
  | none => exact Framed.modify hf
  | beforeRename => exact Framed.throw trivial
  | afterRename => exact (Framed.modify hf).bind fun _ => Framed.throw trivial

/-- Only what the process keeps of the registry changes. -/
lemma frame_loaded (loaded : Option Agents.Document) (w : World) :
    Frame w { w with registry := { w.registry with loaded } } := ⟨rfl, rfl, rfl, id, id⟩

/-- A document that decodes is written. -/
lemma frame_file {d : Agents.Document} (hd : Agents.decode d = .ok d) (w : World) :
    Frame w { w with registry := { w.registry with file := some d } } :=
  ⟨rfl, rfl, rfl, id, fun _ d' h => by cases h; exact hd⟩

lemma decode_error {d : Agents.Document} {e : Error} (h : Agents.decode d = .error e) :
    e.storage := by
  unfold Agents.decode at h
  split at h
  · cases h; trivial
  · split at h <;> cases h
    trivial

/-- On this document a change fails only if it cannot decode it, and yields one that decodes. -/
def DecodesAt (change : Agents.Document → Except Error Agents.Document)
    (d : Agents.Document) : Prop :=
  (∀ e, change d = .error e → e.storage) ∧ ∀ d', change d = .ok d' → Agents.decode d' = .ok d'

lemma decodesAt_of_bind {f : Agents.Document → Except Error Agents.Document}
    {d : Agents.Document}
    (hf : Agents.decode d = .ok d → ∃ d', f d = .ok d' ∧ Agents.decode d' = .ok d') :
    DecodesAt (fun d => Agents.decode d >>= f) d := by
  constructor
  · intro e h
    rcases bind_eq_error.mp h with h' | ⟨a, ha, hfa⟩
    · exact decode_error h'
    · obtain rfl := Agents.eq_of_decode ha
      obtain ⟨d', hd', -⟩ := hf ha
      cases hd'.symm.trans hfa
  · intro d' h
    obtain ⟨a, ha, hfa⟩ := bind_eq_ok.mp h
    obtain rfl := Agents.eq_of_decode ha
    obtain ⟨d'', hd', hdec⟩ := hf ha
    cases hd'.symm.trans hfa
    exact hdec

lemma framedAt_updateAgents {change : Agents.Document → Except Error Agents.Document}
    {w : World} (hc : ∀ d, w.registry.file = some d → DecodesAt change d) :
    FramedAt (updateAgents change) w := by
  refine (Framed.get w).bind fun w' w'' hw => ?_
  cases hw
  cases hfile : w.registry.file with
  | none => exact Framed.throw (e := .config "$") trivial w
  | some d =>
    obtain ⟨he, hd⟩ := hc d hfile
    refine (Framed.ofExcept he w).bind fun d' w' hw => ?_
    rw [outcome_ofExcept] at hw
    dsimp only
    split
    · exact (framed_atomically (frame_file (hd d' (Prod.mk.inj hw).1)) w').bind
        fun _ w'' _ => Framed.pure _ w''
    · exact (Framed.pure _ w').bind fun _ w'' _ => Framed.pure _ w''

lemma framed_updateAgents {change : Agents.Document → Except Error Agents.Document}
    (hc : ∀ d, DecodesAt change d) : Framed (updateAgents change) :=
  fun _ => framedAt_updateAgents fun d _ => hc d

lemma framed_publishAgents (d : Agents.Document) : Framed (publishAgents d) :=
  (Framed.ofExcept fun _ h => decode_error h).bind fun _ => Framed.modify (frame_loaded _)

lemma framed_loadAgents (c : Ctx) : Framed (loadAgents c) := by
  refine (Framed.modify (frame_loaded none)).bind fun _ w => (Framed.get w).bind ?_
  rintro w' w'' hw
  cases hw
  cases hfile : w.registry.file with
  | none =>
    have hdecoded := Agents.decode_initial c.openclaw (c.platform.isoformat_ne_empty 0)
    exact ((framed_atomically (frame_file hdecoded)).bind fun _ => framed_publishAgents _) w
  | some d =>
    refine (Framed.ofExcept (fun _ h => decode_error h) w).bind fun d' w' hw => ?_
    rw [outcome_ofExcept] at hw
    obtain ⟨hdec, rfl⟩ := Prod.mk.inj hw
    obtain rfl := Agents.eq_of_decode hdec
    split
    · next hnew =>
      refine FramedAt.bind (framedAt_updateAgents fun d hd => ?_)
        fun _ w' _ => framed_publishAgents _ w'
      obtain rfl := Option.some.inj (hfile.symm.trans hd)
      refine decodesAt_of_bind fun hdec => ⟨_, rfl, ?_⟩
      simp only [Bool.and_eq_true, Bool.not_eq_true'] at hnew
      exact Agents.decode_addDirect hdec hnew.2 (c.platform.isoformat_ne_empty 0)
    · exact framed_publishAgents _ w

lemma framed_commitAgents {change : Agents.Document → Except Error Agents.Document}
    (hc : ∀ d, DecodesAt change d) : Framed (commitAgents change) := by
  refine Framed.bind (Framed.tryCatch (framed_updateAgents hc) fun e he => ?_)
    fun d => framed_publishAgents d
  dsimp only
  split
  · refine Framed.get.bind fun w => ?_
    cases w.registry.file with
    | none => exact Framed.bind (Framed.throw trivial) fun _ => Framed.throw he
    | some d => exact (framed_publishAgents d).bind fun _ => Framed.throw he
  · exact Framed.throw he

/-- Registering an agent touches no authorization state. -/
lemma framed_registerAgent (c : Ctx) {agent : Agents.Agent} (ha : Agents.rowValid agent = true) :
    Framed (registerAgent c agent) := by
  refine Framed.get.bind fun w => ?_
  have hc : ∀ d, DecodesAt (Agents.registerChange agent) d := fun d =>
    decodesAt_of_bind fun hdec => Agents.decode_register ha hdec
  dsimp only
  split
  · exact (framed_loadAgents c).bind fun _ => framed_commitAgents hc
  · exact framed_commitAgents hc

lemma decodesAt_retire (valid : List String) (d : Agents.Document) :
    DecodesAt (Agents.retireChange valid) d :=
  decodesAt_of_bind fun hdec => Agents.decode_retire valid hdec

/-- Retiring agents touches no authorization state. -/
lemma framed_retireInvalid (c : Ctx) : Framed (retireInvalid c) := by
  refine Framed.get.bind fun w => ?_
  dsimp only
  split
  · refine Framed.bind (Framed.get.bind fun w => Framed.pure _) fun m => ?_
    refine (framed_updateAgents (decodesAt_retire _)).bind fun _ => ?_
    exact framed_publishAgents _
  · exact Framed.pure _

/-- Without faults, a registry file that decodes can always be brought up to date. -/
lemma retireInvalid_clean (c : Ctx) {w : World} (hd : w.registry.Decodes) (hf : w.faults = []) :
    ∃ w', outcome (retireInvalid c) w = (.ok (), w') := by
  have hx : outcome (retireInvalid c) w =
      if w.registry.file.isSome then
        outcome (do publishAgents (← updateAgents (Agents.retireChange (w.mem.validAgents c.now)))) w
      else (.ok (), w) := by
    unfold retireInvalid
    rw [outcome_bind, outcome_get]
    dsimp only
    split <;> rfl
  rw [hx]
  cases hfile : w.registry.file with
  | none => exact ⟨w, rfl⟩
  | some d =>
    obtain ⟨d', hchange, hd'⟩ : ∃ d', Agents.retireChange (w.mem.validAgents c.now) d = .ok d' ∧
        Agents.decode d' = .ok d' := by
      unfold Agents.retireChange
      rw [hd d hfile]
      exact Agents.decode_retire _ (hd d hfile)
    have hu : ∃ w', outcome (updateAgents (Agents.retireChange (w.mem.validAgents c.now))) w =
        (.ok d', w') := by
      unfold updateAgents
      rw [outcome_bind, outcome_get]
      dsimp only
      rw [hfile]
      dsimp only
      rw [outcome_bind, outcome_ofExcept, hchange]
      dsimp only
      split
      · rw [outcome_bind]
        unfold atomically takeFault
        rw [outcome_bind, outcome_bind, outcome_get]
        dsimp only
        rw [hf]
        exact ⟨_, rfl⟩
      · exact ⟨_, rfl⟩
    obtain ⟨w', hu⟩ := hu
    rw [Option.isSome_some, if_pos rfl, outcome_bind, hu]
    dsimp only
    unfold publishAgents
    rw [outcome_bind, outcome_ofExcept, hd']
    exact ⟨_, rfl⟩

end Store

/-! ### Committed snapshots -/

/-- The latest of the committed snapshots. -/
def latest (h : List Snapshot) : Snapshot := h.headD Snapshot.empty

@[simp] lemma latest_nil : latest [] = Snapshot.empty := rfl

@[simp] lemma latest_cons (s : Snapshot) (h : List Snapshot) : latest (s :: h) = s := rfl

/-- The contents the file has had are the committed snapshots. A clean run meets no fault. -/
structure Stored (clean : Bool) (w : World) (h : List Snapshot) : Prop where
  files : w.files.map (fun j => Codec.load (some j)) = h.map .ok
  faults : clean = true → w.faults = []
  registry : w.registry.Decodes

/-- Memory holds the latest committed snapshot. -/
structure Holds (active clean : Bool) (w : World) (h : List Snapshot) : Prop
    extends Stored clean w h where
  active : w.active = active
  mem : w.mem = latest h

namespace Stored

variable {clean : Bool} {w w' : World} {h : List Snapshot}

lemma valid (hw : Stored clean w h) {s : Snapshot} (hs : s ∈ h) : s.Valid := by
  have hs' : Except.ok s ∈ w.files.map (fun j => Codec.load (some j)) := by
    rw [hw.files]
    exact List.mem_map_of_mem hs
  obtain ⟨j, -, hj⟩ := List.mem_map.mp hs'
  exact Codec.load_valid hj

lemma valid_latest (hw : Stored clean w h) : (latest h).Valid := by
  cases h with
  | nil => exact Snapshot.valid_empty
  | cons s h => exact hw.valid List.mem_cons_self

lemma load (hw : Stored clean w h) : Codec.load w.files.head? = .ok (latest h) := by
  have hf := hw.files
  cases hfiles : w.files with
  | nil =>
    rw [hfiles] at hf
    cases h with
    | nil => rfl
    | cons s h => cases hf
  | cons j files =>
    rw [hfiles] at hf
    cases h with
    | nil => cases hf
    | cons s h => exact (List.cons.inj hf).1

lemma frame (hw : Stored clean w h) (hf : Frame w w') : Stored clean w' h :=
  ⟨hf.files ▸ hw.files, fun hc => hf.faults (hw.faults hc), hf.registry hw.registry⟩

lemma rest (hw : Stored clean w h) {f : Fault} {rest : List Fault} (hf : w.faults = f :: rest) :
    clean = false := by
  cases clean with
  | false => rfl
  | true =>
    have h0 := hw.faults rfl
    rw [h0] at hf
    cases hf

end Stored

namespace Store

lemma outcome_mem (w : World) : outcome mem w = (.ok w.mem, w) := rfl

lemma outcome_setMem (s : Snapshot) (w : World) :
    outcome (setMem s) w = (.ok (), { w with mem := s }) := rfl

lemma outcome_load {clean : Bool} {w : World} {h : List Snapshot} (hw : Stored clean w h) :
    outcome load w = (.ok (), { w with mem := latest h }) := by
  have hl : outcome load w =
      outcome (do
        let s ← ofExcept (Codec.load w.files.head?)
        setMem s) { w with mem := Snapshot.empty } := rfl
  rw [hl, hw.load]
  rfl

lemma outcome_takeFault (w : World) :
    outcome takeFault w =
      match w.faults with
      | [] => (.ok .none, w)
      | f :: rest => (.ok f, { w with faults := rest }) := by
  unfold takeFault
  rw [outcome_bind]
  cases h : w.faults <;> simp only [outcome_get, h] <;> rfl

lemma outcome_atomically (f : World → World) (w : World) :
    outcome (atomically f) w =
      match w.faults with
      | [] => (.ok (), f w)
      | .none :: rest => (.ok (), f { w with faults := rest })
      | .beforeRename :: rest => (.error .os, { w with faults := rest })
      | .afterRename :: rest => (.error .os, f { w with faults := rest }) := by
  unfold atomically
  rw [outcome_bind, outcome_takeFault]
  cases w.faults with
  | nil => rfl
  | cons fault rest => cases fault <;> rfl

/-- What `replace` does to the snapshot in memory with the new records. -/
inductive Replaced (clean : Bool) (w : World) (h : List Snapshot) (s : Snapshot) :
    Except Error Unit → World → Prop
  | refused (e : Error) : s.check w.mem.records = .error e → Replaced clean w h s (.error e) w
  | failed (e : Error) (w' : World) : s.check w.mem.records = .ok () → clean = false →
      e.storage → w'.active = w.active → Stored clean w' h → w'.mem = latest h →
      Replaced clean w h s (.error e) w'
  | committed (r : Except Error Unit) (w' : World) : s.check w.mem.records = .ok () →
      (∀ e, r = .error e → clean = false ∧ e.storage) → w'.active = w.active →
      Stored clean w' (s :: h) → w'.mem = s → Replaced clean w h s r w'

lemma stored_cons {clean : Bool} {w : World} {h : List Snapshot} (hw : Stored clean w h)
    {s : Snapshot} (hs : s.Valid) {w' : World}
    (hfiles : w'.files = Codec.payload s :: w.files) (hregistry : w'.registry = w.registry)
    (hfaults : clean = true → w'.faults = []) : Stored clean w' (s :: h) := by
  refine ⟨?_, hfaults, hregistry ▸ hw.registry⟩
  rw [hfiles, List.map_cons, List.map_cons, hw.files]
  exact congrArg (· :: _) (Codec.parse_payload hs)

/-- Memory holds what the file holds, agents have been retired, and an error is raised. -/
lemma outcome_recoverVisible (c : Ctx) {clean : Bool} {w : World} {h : List Snapshot}
    (hw : Stored clean w h) {e : Error} (he : e.storage) :
    ∃ w' e', outcome (recoverVisible c e) w = (.error e', w') ∧ e'.storage ∧
      w'.active = w.active ∧ Stored clean w' h ∧ w'.mem = latest h := by
  have hr : Framed (tryRetireInvalid c) := by
    refine Framed.tryCatch (framed_retireInvalid c) fun e' he' => ?_
    split
    · exact Framed.pure _
    · exact Framed.throw he'
  obtain ⟨hf, herr⟩ := hr { w with mem := latest h }
  have hs : Stored clean { w with mem := latest h } h := ⟨hw.files, hw.faults, hw.registry⟩
  unfold recoverVisible
  rw [outcome_bind, outcome_load hw]
  dsimp only
  rw [outcome_bind]
  rcases hx : outcome (tryRetireInvalid c) { w with mem := latest h } with ⟨r, w'⟩
  rw [hx] at hf herr
  cases r with
  | ok _ => exact ⟨w', e, rfl, he, hf.active, hs.frame hf, hf.mem⟩
  | error e' => exact ⟨w', e', rfl, herr e' rfl, hf.active, hs.frame hf, hf.mem⟩

/-- **Write atomicity**: whatever its faults, `replace` commits the whole new snapshot or leaves
the committed ones, and memory agrees with the file. -/
theorem replace_spec (c : Ctx) (records : List Credential) {clean : Bool} {w : World}
    {h : List Snapshot} (hw : Stored clean w h) :
    Replaced clean w h { w.mem with records } (outcome (replace c records) w).1
      (outcome (replace c records) w).2 := by
  set s : Snapshot := { w.mem with records } with hs
  have hx : outcome (replace c records) w =
      outcome (do
        ofExcept (s.check w.mem.records)
        tryCatch (atomicPrivateJson (Codec.payload s)) (recoverVisible c)
        setMem s
        retireInvalid c) w := rfl
  rw [hx, outcome_bind, outcome_ofExcept]
  cases hc : s.check w.mem.records with
  | error e => exact .refused e hc
  | ok u =>
    dsimp only
    have hv : s.Valid := ((s.check_ok_iff _).mp hc).1
    have hok : ∀ w' : World, w'.files = Codec.payload s :: w.files → w'.active = w.active →
        w'.registry = w.registry → (clean = true → w'.faults = []) →
        Replaced clean w h s (outcome (do setMem s; retireInvalid c) w').1
          (outcome (do setMem s; retireInvalid c) w').2 := by
      intro w' hfiles hactive hregistry hfaults
      rw [outcome_bind, outcome_setMem]
      dsimp only
      obtain ⟨hf, herr⟩ := framed_retireInvalid c { w' with mem := s }
      have hst : Stored clean { w' with mem := s } (s :: h) :=
        stored_cons hw hv hfiles hregistry hfaults
      refine .committed _ _ hc (fun e he => ⟨?_, herr e he⟩) (hf.active.trans hactive)
        (hst.frame hf) hf.mem
      by_contra hcl
      obtain ⟨w'', hw''⟩ := retireInvalid_clean c hst.registry
        (hst.faults (by simpa using hcl))
      rw [hw''] at he
      cases he
    rw [outcome_bind, outcome_tryCatch, atomicPrivateJson, outcome_atomically]
    cases hfaults : w.faults with
    | nil => exact hok _ rfl rfl rfl fun _ => by rfl
    | cons fault rest =>
      have hcl : clean = false := hw.rest hfaults
      have hno : ∀ l : List Fault, clean = true → l = [] := by simp [hcl]
      cases fault with
      | none => exact hok _ rfl rfl rfl fun hcl' => by simp [hcl] at hcl'
      | beforeRename =>
        obtain ⟨w', e', hw', he', hactive, hst, hmem⟩ := outcome_recoverVisible c
          (w := { w with faults := rest }) (e := .os) ⟨hw.files, hno rest, hw.registry⟩ trivial
        dsimp only
        rw [hw']
        exact .failed e' w' hc hcl he' hactive hst hmem
      | afterRename =>
        obtain ⟨w', e', hw', he', hactive, hst, hmem⟩ := outcome_recoverVisible c
          (w := { w with faults := rest, files := Codec.payload s :: w.files }) (e := .os)
          (stored_cons hw hv rfl rfl (hno rest)) trivial
        dsimp only
        rw [hw']
        refine .committed _ w' hc ?_ hactive hst hmem
        rintro e h
        cases h
        exact ⟨hcl, he'⟩

end Store

/-! ### What an operation does to the committed snapshots -/

namespace Write

/-- The snapshot a write tries to commit. -/
def next (s : Snapshot) : Write → Snapshot
  | .owner state => { s with owner := some state }
  | .enrollment state records =>
    { s with enrollment := some state, records := records.getD s.records }
  | .lifecycle state records e =>
    { s with lifecycle := some state, enrollment := e.getD s.enrollment, records := records }
  | .integration state records =>
    { s with integration := some state, records := records.getD s.records }
  | .replace records => { s with records := records }

/-- The checks a writer makes before it touches memory. -/
def accepted : Write → Bool
  | .owner state => validateOwnerState (some state)
  | .enrollment state _ => validateEnrollment (some state)
  | _ => true

/-- Whether the writer reloads the file when the write fails. -/
def reloads : Write → Bool
  | .replace _ => false
  | _ => true

end Write

/-- How the body of an operation acts on the committed snapshots. -/
inductive Performed {α : Type} (clean : Bool) (h : List Snapshot) :
    Except Error (Final α) → Except Error α → List Snapshot → Prop
  | error (e : Error) : Performed clean h (.error e) (.error e) h
  | reply (a : α) : Performed clean h (.ok (.reply a)) (.ok a) h
  | raise (s : Snapshot) (e : Error) : Performed clean h (.ok (.raise s e)) (.error e) h
  | refused (s : Snapshot) (w : Write) (x : Except Error α) (e : Error) :
      (w.next s).check s.records = .error e ∨ w.accepted = false ∧ (∃ m, e = .value m) →
      Performed clean h (.ok (.save s w x)) (.error e) h
  | failed (s : Snapshot) (w : Write) (x : Except Error α) (e : Error) :
      clean = false → e.storage → Performed clean h (.ok (.save s w x)) (.error e) h
  | committed (s : Snapshot) (w : Write) (x r : Except Error α) :
      (w.next s).check s.records = .ok () →
      (r = x ∨ clean = false ∧ ∃ e, e.storage ∧ r = .error e) →
      Performed clean h (.ok (.save s w x)) r (w.next s :: h)

/-- Memory is as the file again when the body ends, even if it ends in an error. -/
def Sound {α : Type} (m : Snapshot) : Except Error (Final α) → Prop
  | .ok (.raise s _) => s = m
  | .ok (.save s w _) => (w.accepted = true ∧ w.reloads = true) ∨ s = m
  | _ => True

/-- The snapshot a body has staged in memory when it ends. -/
def staged {α : Type} : Except Error (Final α) → Option Snapshot
  | .ok (.raise s _) => some s
  | .ok (.save s _ _) => some s
  | _ => none

namespace Store

/-- The outcome of a write inside a transaction, from the snapshot `s` staged in memory. -/
inductive Written (clean : Bool) (h : List Snapshot) (s : Snapshot) (write : Write) :
    Except Error Unit → World → Prop
  | refused (e : Error) (w' : World) :
      (write.next s).check s.records = .error e ∨ write.accepted = false ∧ (∃ m, e = .value m) →
      Stored clean w' h → w'.active = true →
      (w'.mem = latest h ∨ w'.mem = s ∧ ¬(write.accepted = true ∧ write.reloads = true)) →
      Written clean h s write (.error e) w'
  | failed (e : Error) (w' : World) : clean = false → e.storage → Holds true clean w' h →
      Written clean h s write (.error e) w'
  | committed (r : Except Error Unit) (w' : World) :
      (write.next s).check s.records = .ok () →
      (∀ e, r = .error e → clean = false ∧ e.storage) →
      Holds true clean w' (write.next s :: h) → Written clean h s write r w'

section Write

variable {clean : Bool} {w : World} {h : List Snapshot} {c : Ctx}

/-- A writer that changes memory to `m` and then replaces the records under `orReload`. -/
lemma orReload_spec (write : Write) (records : List Credential) (s : Snapshot)
    (hw : Stored clean w h) (hactive : w.active = true) (hrecords : w.mem.records = s.records)
    (hnext : { w.mem with records } = write.next s) :
    Written clean h s write (outcome (orReload (replace c records)) w).1
      (outcome (orReload (replace c records)) w).2 := by
  have hspec := replace_spec c records hw
  unfold orReload
  rw [outcome_tryCatch]
  rw [hnext] at hspec
  rcases hx : outcome (replace c records) w with ⟨r, w'⟩
  rw [hx] at hspec
  have hreload : ∀ {h' : List Snapshot} {w' : World} (e : Error), Stored clean w' h' →
      outcome (do load; throw e : StoreM Unit) w' = (.error e, { w' with mem := latest h' }) := by
    intro h' w' e hw'
    rw [outcome_bind, outcome_load hw']
    rfl
  cases hspec with
  | refused e hc =>
    dsimp only
    rw [hreload e hw]
    exact .refused e _ (Or.inl (hrecords ▸ hc)) ⟨hw.files, hw.faults, hw.registry⟩ hactive (Or.inl rfl)
  | failed e _ hc hcl he ha' hst hmem =>
    dsimp only
    rw [hreload e hst]
    exact .failed e _ hcl he ⟨⟨hst.files, hst.faults, hst.registry⟩, ha'.trans hactive, rfl⟩
  | committed _ _ hc he ha' hst hmem =>
    cases r with
    | ok u =>
      exact .committed _ _ (hrecords ▸ hc) he ⟨hst, ha'.trans hactive, hmem⟩
    | error e =>
      dsimp only
      rw [hreload e hst]
      exact .committed _ _ (hrecords ▸ hc) he
        ⟨⟨hst.files, hst.faults, hst.registry⟩, ha'.trans hactive, rfl⟩

/-- Writers that check their namespace first raise before they touch memory. -/
lemma written_unaccepted (write : Write) (hw : Stored clean w h) (hactive : w.active = true)
    (ha : write.accepted = false) (m : String) :
    Written clean h w.mem write (.error (.value m)) w :=
  .refused _ w (Or.inr ⟨ha, m, rfl⟩) hw hactive (Or.inr ⟨rfl, by simp [ha]⟩)

lemma run_spec (write : Write) (hw : Stored clean w h) (hactive : w.active = true) :
    Written clean h w.mem write (outcome (write.run c) w).1 (outcome (write.run c) w).2 := by
  cases write with
  | owner state =>
    have hx : outcome ((Write.owner state).run c) w = outcome (do
        ofExcept (refuse (!validateOwnerState (some state)) (.value "Invalid owner state"))
        let m ← mem
        setMem { m with owner := some state }
        orReload (replace c m.records)) w := by
      simp only [Write.run, saveOwner]
      rw [outcome_bind, outcome_get]
      dsimp only
      rw [hactive]
      rfl
    rw [hx, outcome_bind, outcome_ofExcept]
    cases ha : validateOwnerState (some state) with
    | false => exact written_unaccepted (.owner state) hw hactive ha _
    | true =>
      let w' : World := { w with mem := { w.mem with owner := some state } }
      have hw' : Stored clean w' h := ⟨hw.files, hw.faults, hw.registry⟩
      exact orReload_spec (.owner state) w.mem.records w.mem hw' hactive rfl rfl
  | enrollment state records =>
    have hx : outcome ((Write.enrollment state records).run c) w = outcome (do
        ofExcept
          (refuse (!validateEnrollment (some state)) (.value "Invalid enrollment state"))
        let m ← mem
        setMem { m with enrollment := some state }
        orReload (replace c (records.getD m.records))) w := by
      simp only [Write.run, saveEnrollment]
      rw [outcome_bind, outcome_get]
      dsimp only
      rw [hactive]
      rfl
    rw [hx, outcome_bind, outcome_ofExcept]
    cases ha : validateEnrollment (some state) with
    | false => exact written_unaccepted (.enrollment state records) hw hactive ha _
    | true =>
      let w' : World := { w with mem := { w.mem with enrollment := some state } }
      have hw' : Stored clean w' h := ⟨hw.files, hw.faults, hw.registry⟩
      exact orReload_spec (.enrollment state records) (records.getD w.mem.records) w.mem hw'
        hactive rfl rfl
  | lifecycle state records e =>
    let w' : World := { w with
      mem := { w.mem with lifecycle := some state, enrollment := e.getD w.mem.enrollment } }
    have hw' : Stored clean w' h := ⟨hw.files, hw.faults, hw.registry⟩
    exact orReload_spec (.lifecycle state records e) records w.mem hw' hactive rfl rfl
  | integration state records =>
    let w' : World := { w with mem := { w.mem with integration := some state } }
    have hw' : Stored clean w' h := ⟨hw.files, hw.faults, hw.registry⟩
    exact orReload_spec (.integration state records) (records.getD w.mem.records) w.mem hw'
      hactive rfl rfl
  | replace records =>
    have hspec := replace_spec c records hw
    show Written clean h w.mem _ (outcome (replace c records) w).1
      (outcome (replace c records) w).2
    rcases hx : outcome (replace c records) w with ⟨r, w'⟩
    rw [hx] at hspec
    cases hspec with
    | refused e hc =>
      exact .refused e _ (Or.inl hc) hw hactive (Or.inr ⟨rfl, fun h => nomatch h.2⟩)
    | failed e _ hc hcl he ha' hst hmem =>
      exact .failed e _ hcl he ⟨hst, ha'.trans hactive, hmem⟩
    | committed _ _ hc he ha' hst hmem =>
      exact .committed _ _ hc he ⟨hst, ha'.trans hactive, hmem⟩

end Write

/-- What `perform` leaves: the committed snapshots as `Performed` says, and memory as the file,
unless the body staged something and then failed. -/
lemma perform_spec {α : Type} (c : Ctx) (body : Snapshot → Except Error (Final α))
    {clean : Bool} {w : World} {h : List Snapshot} (hw : Holds true clean w h) :
    ∃ h', Performed clean h (body (latest h)) (outcome (perform c body) w).1 h' ∧
      Stored clean (outcome (perform c body) w).2 h' ∧
      (outcome (perform c body) w).2.active = true ∧
      ((outcome (perform c body) w).2.mem = latest h' ∨
        h' = h ∧ ¬Sound (latest h) (body (latest h)) ∧
          staged (body (latest h)) = some (outcome (perform c body) w).2.mem) := by
  unfold perform
  rw [outcome_bind, outcome_mem]
  dsimp only
  rw [hw.mem, outcome_bind, outcome_ofExcept]
  cases hb : body (latest h) with
  | error e => exact ⟨h, .error e, hw.toStored, hw.active, Or.inl hw.mem⟩
  | ok final =>
    cases final with
    | reply a => exact ⟨h, .reply a, hw.toStored, hw.active, Or.inl hw.mem⟩
    | raise s e =>
      have hst : Stored clean { w with mem := s } h := ⟨hw.files, hw.faults, hw.registry⟩
      refine ⟨h, .raise s e, hst, hw.active, ?_⟩
      by_cases hs : s = latest h
      · exact Or.inl hs
      · exact Or.inr ⟨rfl, hs, rfl⟩
    | save s write x =>
      have hst : Stored clean { w with mem := s } h := ⟨hw.files, hw.faults, hw.registry⟩
      have hrun := run_spec (c := c) write hst hw.active
      dsimp only
      rw [outcome_bind, outcome_setMem]
      dsimp only
      rw [outcome_bind]
      rcases ho : outcome (write.run c) { w with mem := s } with ⟨r, w'⟩
      rw [ho] at hrun
      cases hrun with
      | refused e _ hc hst' ha hm =>
        refine ⟨h, .refused s write x e hc, hst', ha, ?_⟩
        rcases hm with hm | ⟨hm, hn⟩
        · exact Or.inl hm
        · by_cases hs : s = latest h
          · exact Or.inl (hm.trans hs)
          · refine Or.inr ⟨rfl, ?_, congrArg some hm.symm⟩
            rintro (h' | h')
            · exact hn h'
            · exact hs h'
      | failed e _ hcl he hh =>
        exact ⟨h, .failed s write x e hcl he, hh.toStored, hh.active, Or.inl hh.mem⟩
      | committed _ _ hc he hh =>
        refine ⟨write.next s :: h, ?_⟩
        cases r with
        | ok u =>
          dsimp only
          rw [outcome_ofExcept]
          exact ⟨.committed s write x x hc (Or.inl rfl), hh.toStored, hh.active, Or.inl hh.mem⟩
        | error e =>
          exact ⟨.committed s write x _ hc (Or.inr ⟨(he e rfl).1, e, (he e rfl).2, rfl⟩),
            hh.toStored, hh.active, Or.inl hh.mem⟩

/-- A sound body does to the committed snapshots what `Performed` says, and nothing else. -/
lemma perform_runs {α : Type} (c : Ctx) {body : Snapshot → Except Error (Final α)}
    {clean : Bool} {h : List Snapshot} (hs : (latest h).Valid → Sound (latest h) (body (latest h))) :
    Runs (Holds true clean) (perform c body) h (Performed clean h (body (latest h))) := by
  intro w hw
  obtain ⟨h', hp, hst, ha, hm⟩ := perform_spec c body hw
  rcases hm with hm | ⟨-, hns, -⟩
  · exact ⟨h', ⟨hst, ha, hm⟩, hp⟩
  · exact absurd (hs hw.toStored.valid_latest) hns

lemma framed_runs {α : Type} {x : StoreM α} (hx : Framed x) (active clean : Bool)
    (h : List Snapshot) :
    Runs (Holds active clean) x h fun r h' => h' = h ∧ ∀ e, r = .error e → e.storage := by
  intro w hw
  obtain ⟨hf, he⟩ := hx w
  exact ⟨h, ⟨hw.toStored.frame hf, hf.active.trans hw.active, hf.mem.trans hw.mem⟩, rfl, he⟩

lemma ofExcept_runs {α : Type} (x : Except Error α) (active clean : Bool) (h : List Snapshot) :
    Runs (Holds active clean) (ofExcept x) h fun r h' => r = x ∧ h' = h := by
  intro w hw
  rw [outcome_ofExcept]
  exact ⟨h, hw, rfl, rfl⟩

/-- Inside a transaction a nested one is transparent. -/
lemma transaction_runs {α : Type} {x : StoreM α} {clean : Bool} {h : List Snapshot}
    {P : Except Error α → List Snapshot → Prop} (hx : Runs (Holds true clean) x h P) :
    Runs (Holds true clean) (transaction x) h P := by
  intro w hw
  have ht : outcome (transaction x) w = outcome x w := by
    unfold transaction
    rw [outcome_bind, outcome_get]
    dsimp only
    rw [hw.active]
    rfl
  rw [ht]
  exact hx w hw

/-- A transaction starts from the file, whatever memory holds, and ends with it closed. -/
lemma outcome_transaction {α : Type} (x : StoreM α) {clean : Bool} {w : World}
    {h : List Snapshot} (hw : Stored clean w h) (hactive : w.active = false) :
    outcome (transaction x) w =
      ((outcome x { w with mem := latest h, active := true }).1,
        { (outcome x { w with mem := latest h, active := true }).2 with active := false }) := by
  unfold transaction
  rw [outcome_bind, outcome_get]
  dsimp only
  rw [if_neg (by simp [hactive]), outcome_bind, outcome_load hw]
  dsimp only
  have ha : ∀ w : World, outcome (setActive true) w = (.ok (), { w with active := true }) :=
    fun _ => rfl
  rw [outcome_bind, ha]
  dsimp only
  rw [outcome_tryCatch, outcome_bind]
  rcases outcome x { w with mem := latest h, active := true } with ⟨r, w'⟩
  cases r <;> rfl

lemma transaction_spec {α : Type} {x : StoreM α} {clean : Bool} {h : List Snapshot}
    {P : Except Error α → List Snapshot → Prop} (hx : Runs (Holds true clean) x h P) {w : World}
    (hw : Stored clean w h) (hactive : w.active = false) :
    ∃ h', Holds false clean (outcome (transaction x) w).2 h' ∧
      P (outcome (transaction x) w).1 h' := by
  rw [outcome_transaction x hw hactive]
  obtain ⟨h', hh, hr⟩ := hx { w with mem := latest h, active := true }
    ⟨⟨hw.files, hw.faults, hw.registry⟩, rfl, rfl⟩
  exact ⟨h', ⟨⟨hh.files, hh.faults, hh.registry⟩, rfl, hh.mem⟩, hr⟩

end Store

end Vauxr
