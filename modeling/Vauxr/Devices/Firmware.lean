import Mathlib
import Vauxr.Lib.Dict
import Vauxr.Lib.Run

/-!
Firmware deliveries (`devices/firmware.py`): capabilities to download one file once.

A minted token is kept as its hash, with the file it is for and its deadline. The state below also
keeps what has been asked and answered, and what is kept of the tokens is compared with that.
-/

namespace Vauxr.Firmware

open Lib

def TTL_SECONDS : ℕ := 120
def MAX_TOKENS : ℕ := 128

/-- `[A-Za-z0-9._-]+\.bin`. -/
def isName (name : String) : Bool :=
  name.endsWith ".bin" && decide (4 < name.length) &&
    name.all fun c => c.isAlphanum || c = '.' || c = '_' || c = '-'

/-- What a name stands for in the firmware directory; symbolic links are among the others. -/
inductive Node
  | file (content : List UInt8)
  | other

/-- `_open`: a regular file, whose directory entry is not a link. -/
def opened (files : String → Option Node) (name : String) : Option (List UInt8) :=
  if isName name then
    match files name with
    | some (.file content) => some content
    | _ => none
  else none

inductive Body
  | error (text : String)
  | minted (url : String) (expiresIn : ℕ)
  | content (bytes : List UInt8)
  deriving DecidableEq

structure Response where
  status : ℕ
  headers : List (String × String)
  body : Body
  deriving DecidableEq

def headers : List (String × String) :=
  [("Cache-Control", "no-store"), ("Referrer-Policy", "no-referrer")]

def missing : Response := ⟨404, headers, .error "not found"⟩

def full : Response := ⟨503, headers, .error "delivery capacity reached"⟩

/-- The file as it was opened. -/
def served (name : String) (content : List UInt8) : Response where
  status := 200
  headers := headers ++ [("Content-Type", "application/octet-stream"),
    ("Content-Disposition", "attachment; filename=\"" ++ name ++ "\""),
    ("Content-Length", toString content.length)]
  body := .content content

structure Delivery where
  name : String
  deadline : ℚ
  deriving DecidableEq

abbrev Deliveries := Dict String Delivery

inductive Call
  | mint (name drawn : String)
  | download (name token : String)

section Requests

variable (sha256 : String → String) (origin : String)

def minted (name token : String) : Response :=
  ⟨201, headers, .minted (origin ++ "/firmware-delivery/" ++ token ++ "/" ++ name) TTL_SECONDS⟩

/-- Deliveries whose deadline has passed go first. -/
def purge (entries : Deliveries) (now : ℚ) : Deliveries :=
  entries.filter fun _ d => decide (now < d.deadline)

def mint (entries : Deliveries) (now : ℚ) (files : String → Option Node) (name drawn : String) :
    Deliveries × Response :=
  match opened files name with
  | none => (entries, missing)
  | some _ =>
    let entries := purge entries now
    if MAX_TOKENS ≤ entries.size then (entries, full)
    else (entries.set (sha256 drawn) ⟨name, now + TTL_SECONDS⟩, minted origin name drawn)

/-- The entry is taken out before anything is checked. -/
def download (entries : Deliveries) (now : ℚ) (files : String → Option Node)
    (name token : String) : Deliveries × Response :=
  let rest := entries.erase (sha256 token)
  match entries.get? (sha256 token) with
  | none => (rest, missing)
  | some d =>
    if d.name ≠ name ∨ d.deadline ≤ now then (rest, missing)
    else
      match opened files name with
      | none => (rest, missing)
      | some content => (rest, served name content)

def answer (entries : Deliveries) (now : ℚ) (files : String → Option Node) :
    Call → Deliveries × Response
  | .mint name drawn => mint sha256 origin entries now files name drawn
  | .download name token => download sha256 entries now files name token

/-! ### Runs -/

/-- A call, some time after the one before, and the firmware directory at that time. -/
structure Event where
  wait : NNRat
  files : String → Option Node
  call : Call

structure Entry where
  time : ℚ
  call : Call
  response : Response

/-- The deliveries, the time of the last call, and all calls with their answers. The latest comes
first. -/
structure State where
  deliveries : Deliveries
  clock : ℚ
  log : List Entry

def start (clock : ℚ) : State := ⟨.empty, clock, []⟩

def State.step (s : State) (e : Event) : State :=
  let now := s.clock + e.wait
  let r := answer sha256 origin s.deliveries now e.files e.call
  ⟨r.1, now, ⟨now, e.call, r.2⟩ :: s.log⟩

/-! ### What the history grants -/

namespace Entry

/-- A token with this hash has been minted. -/
def Mints (e : Entry) (key name : String) (deadline : ℚ) : Prop :=
  ∃ drawn, e.call = .mint name drawn ∧ sha256 drawn = key ∧ e.response.status = 201 ∧
    deadline = e.time + TTL_SECONDS

def Asks (e : Entry) (key : String) : Prop :=
  ∃ name token, e.call = .download name token ∧ sha256 token = key

end Entry

/-- A token with this hash was minted for a file, and since then there has been neither a request
with it nor another token of that hash. -/
def Grants (log : List Entry) (key name : String) (deadline : ℚ) : Prop :=
  ∃ later e earlier, log = later ++ e :: earlier ∧ e.Mints sha256 key name deadline ∧
    ∀ e' ∈ later, ¬e'.Asks sha256 key ∧ ∀ n d, ¬e'.Mints sha256 key n d

/-- A grant that has not expired. -/
def Live (log : List Entry) (now : ℚ) (key name : String) : Prop :=
  ∃ deadline, Grants sha256 log key name deadline ∧ now < deadline

variable {sha256 origin} {log : List Entry} {e : Entry} {key name : String} {deadline now : ℚ}

lemma not_grants_nil : ¬Grants sha256 [] key name deadline := by
  rintro ⟨later, e, earlier, h, -⟩
  simp at h

lemma grants_cons : Grants sha256 (e :: log) key name deadline ↔
    e.Mints sha256 key name deadline ∨
      (¬e.Asks sha256 key ∧ ∀ n d, ¬e.Mints sha256 key n d) ∧
        Grants sha256 log key name deadline := by
  constructor
  · rintro ⟨later, e', earlier, hlog, hm, hnot⟩
    cases later with
    | nil =>
      cases hlog
      exact Or.inl hm
    | cons e'' later =>
      cases hlog
      refine Or.inr ⟨hnot e List.mem_cons_self, later, e', earlier, rfl, hm, ?_⟩
      exact fun x hx => hnot x (List.mem_cons_of_mem _ hx)
  · rintro (hm | ⟨hnot, later, e', earlier, rfl, hm, hlater⟩)
    · exact ⟨[], e, log, rfl, hm, by simp⟩
    · exact ⟨e :: later, e', earlier, rfl, hm, List.forall_mem_cons.mpr ⟨hnot, hlater⟩⟩

/-- What is kept is what the history grants, but for grants that have expired. -/
structure State.Tracks (sha256 : String → String) (s : State) : Prop where
  sound : ∀ key d, s.deliveries.get? key = some d → Grants sha256 s.log key d.name d.deadline
  complete : ∀ key name deadline, Grants sha256 s.log key name deadline → s.clock < deadline →
    s.deliveries.get? key = some ⟨name, deadline⟩
  bounded : s.deliveries.size ≤ MAX_TOKENS

lemma get?_purge (entries : Deliveries) (now : ℚ) (key : String) :
    (purge entries now).get? key = (entries.get? key).filter fun d => decide (now < d.deadline) :=
  Dict.get?_filter _ _ _

lemma missing_status : missing.status ≠ 201 := by decide

lemma full_status : full.status ≠ 201 := by decide

variable (sha256 origin) in
/-- The three ways a mint can go. -/
lemma mint_cases (entries : Deliveries) (now : ℚ) (files : String → Option Node)
    (name drawn : String) :
    (opened files name = none ∧
      mint sha256 origin entries now files name drawn = (entries, missing)) ∨
    (opened files name ≠ none ∧ MAX_TOKENS ≤ (purge entries now).size ∧
      mint sha256 origin entries now files name drawn = (purge entries now, full)) ∨
    (opened files name ≠ none ∧ (purge entries now).size < MAX_TOKENS ∧
      mint sha256 origin entries now files name drawn =
        ((purge entries now).set (sha256 drawn) ⟨name, now + TTL_SECONDS⟩,
          minted origin name drawn)) := by
  unfold mint
  cases hopen : opened files name with
  | none => exact Or.inl ⟨rfl, rfl⟩
  | some content =>
    rcases Nat.lt_or_ge (purge entries now).size MAX_TOKENS with hlt | hge
    · exact Or.inr (Or.inr ⟨nofun, hlt, if_neg (Nat.not_le_of_lt hlt)⟩)
    · exact Or.inr (Or.inl ⟨nofun, hge, if_pos hge⟩)

lemma download_fst (entries : Deliveries) (now : ℚ) (files : String → Option Node)
    (name token : String) :
    (download sha256 entries now files name token).1 = entries.erase (sha256 token) := by
  unfold download
  dsimp only
  split
  · rfl
  · split
    · rfl
    · split <;> rfl

/-- An answer that mints nothing leaves the grants as they are. -/
lemma grants_skip {name' drawn : String} (hcall : e.call = .mint name' drawn)
    (hstatus : e.response.status ≠ 201) :
    Grants sha256 (e :: log) key name deadline ↔ Grants sha256 log key name deadline := by
  have hasks : ¬e.Asks sha256 key := by
    rintro ⟨n, t, h, -⟩
    exact nomatch hcall.symm.trans h
  have hmints : ∀ n d, ¬e.Mints sha256 key n d := by
    rintro n d ⟨_, _, _, h, _⟩
    exact hstatus h
  rw [grants_cons]
  exact ⟨fun h => (h.resolve_left (hmints _ _)).2, fun h => Or.inr ⟨⟨hasks, hmints⟩, h⟩⟩

lemma grants_mint {name' drawn : String} (hcall : e.call = .mint name' drawn)
    (hstatus : e.response.status = 201) :
    Grants sha256 (e :: log) key name deadline ↔
      if sha256 drawn = key then name = name' ∧ deadline = e.time + TTL_SECONDS
      else Grants sha256 log key name deadline := by
  have hasks : ¬e.Asks sha256 key := by
    rintro ⟨n, t, h, -⟩
    exact nomatch hcall.symm.trans h
  have hmints : ∀ n d, e.Mints sha256 key n d ↔
      sha256 drawn = key ∧ n = name' ∧ d = e.time + TTL_SECONDS := by
    intro n d
    constructor
    · rintro ⟨drawn', h, hkey, -, hd⟩
      cases hcall.symm.trans h
      exact ⟨hkey, rfl, hd⟩
    · rintro ⟨hkey, rfl, hd⟩
      exact ⟨drawn, hcall, hkey, hstatus, hd⟩
  rw [grants_cons]
  simp only [hmints]
  split
  · next hkey => simp [hkey]
  · next hkey => simp [hkey, hasks]

lemma grants_download {name' token : String} (hcall : e.call = .download name' token) :
    Grants sha256 (e :: log) key name deadline ↔
      sha256 token ≠ key ∧ Grants sha256 log key name deadline := by
  have hasks : e.Asks sha256 key ↔ sha256 token = key := by
    constructor
    · rintro ⟨n, t, h, hkey⟩
      cases hcall.symm.trans h
      exact hkey
    · exact fun hkey => ⟨name', token, hcall, hkey⟩
  have hmints : ∀ n d, ¬e.Mints sha256 key n d := by
    rintro n d ⟨_, h, _⟩
    exact nomatch hcall.symm.trans h
  rw [grants_cons, hasks]
  simp [hmints]

variable {s : State}

/-- What is kept after a purge, while time goes on. -/
lemma State.Tracks.purge (h : s.Tracks sha256) (hnow : s.clock ≤ now) :
    (∀ key d, (purge s.deliveries now).get? key = some d →
      Grants sha256 s.log key d.name d.deadline) ∧
    (∀ key name deadline, Grants sha256 s.log key name deadline → now < deadline →
      (Firmware.purge s.deliveries now).get? key = some ⟨name, deadline⟩) := by
  constructor
  · intro key d hd
    rw [get?_purge, Option.filter_eq_some_iff] at hd
    exact h.sound key d hd.1
  · intro key name deadline hg hlt
    rw [get?_purge, h.complete key name deadline hg (hnow.trans_lt hlt)]
    simp [hlt]

lemma step_of_answer (event : Event) {entries : Deliveries} {r : Response}
    (h : answer sha256 origin s.deliveries (s.clock + event.wait) event.files event.call =
      (entries, r)) :
    s.step sha256 origin event =
      ⟨entries, s.clock + event.wait, ⟨s.clock + event.wait, event.call, r⟩ :: s.log⟩ := by
  rw [State.step, h]

lemma size_purge_le (entries : Deliveries) (now : ℚ) : (purge entries now).size ≤ entries.size :=
  Dict.size_filter_le _ _

/-- **Every call** keeps the deliveries true to the history. -/
lemma State.Tracks.step (h : s.Tracks sha256) (event : Event) :
    (s.step sha256 origin event).Tracks sha256 := by
  obtain ⟨wait, files, call⟩ := event
  have hnow : s.clock ≤ s.clock + wait := le_add_of_nonneg_right wait.2
  obtain ⟨hsound, hcomplete⟩ := h.purge hnow
  cases call with
  | mint name drawn =>
    rcases mint_cases sha256 origin s.deliveries (s.clock + wait) files name drawn with
      ⟨-, hm⟩ | ⟨-, -, hm⟩ | ⟨-, hlt, hm⟩
    · rw [step_of_answer ⟨wait, files, .mint name drawn⟩ hm]
      refine ⟨fun key d hd => ?_, fun key n d hg hd => ?_, h.bounded⟩
      · exact (grants_skip rfl missing_status).mpr (h.sound key d hd)
      · exact h.complete key n d ((grants_skip rfl missing_status).mp hg) (hnow.trans_lt hd)
    · rw [step_of_answer ⟨wait, files, .mint name drawn⟩ hm]
      refine ⟨fun key d hd => ?_, fun key n d hg hd => ?_, (size_purge_le _ _).trans h.bounded⟩
      · exact (grants_skip rfl full_status).mpr (hsound key d hd)
      · exact hcomplete key n d ((grants_skip rfl full_status).mp hg) hd
    · rw [step_of_answer ⟨wait, files, .mint name drawn⟩ hm]
      refine ⟨fun key d hd => ?_, fun key n d hg hd => ?_, (Dict.size_set_le _ _ _).trans hlt⟩
      · rw [grants_mint rfl rfl]
        rw [Dict.get?_set] at hd
        split
        · next hkey =>
          rw [if_pos hkey] at hd
          cases hd
          exact ⟨rfl, rfl⟩
        · next hkey =>
          rw [if_neg hkey] at hd
          exact hsound key d hd
      · rw [grants_mint rfl rfl] at hg
        rw [Dict.get?_set]
        split
        · next hkey =>
          rw [if_pos hkey] at hg
          rw [hg.1, hg.2]
        · next hkey =>
          rw [if_neg hkey] at hg
          exact hcomplete key n d hg hd
  | download name token =>
    have hm : answer sha256 origin s.deliveries (s.clock + wait) files (.download name token) =
        (s.deliveries.erase (sha256 token),
          (download sha256 s.deliveries (s.clock + wait) files name token).2) :=
      Prod.ext (download_fst _ _ _ _ _) rfl
    rw [step_of_answer ⟨wait, files, .download name token⟩ hm]
    refine ⟨fun key d hd => ?_, fun key n d hg hd => ?_, ?_⟩
    · rw [Dict.get?_erase] at hd
      rw [grants_download rfl]
      split at hd
      · cases hd
      · next hkey => exact ⟨Ne.symm hkey, h.sound key d hd⟩
    · rw [grants_download rfl] at hg
      rw [Dict.get?_erase, if_neg hg.1.symm]
      exact h.complete key n d hg.2 (hnow.trans_lt hd)
    · exact (Dict.size_filter_le _ _).trans h.bounded

lemma start_tracks (clock : ℚ) : (start clock).Tracks sha256 where
  sound _ _ hd := nomatch hd
  complete _ _ _ hg := absurd hg not_grants_nil
  bounded := Nat.zero_le _

variable (sha256 origin) in
lemma tracks (clock : ℚ) (events : List Event) :
    (after (State.step sha256 origin) (start clock) events).Tracks sha256 :=
  Throughout.invariant (P := fun _ _ => True) (fun _ e h _ => h.step e) (start_tracks clock)
    (Throughout.of_forall (fun _ _ => trivial) _ events)

/-- The delivery under a key that is still good. -/
lemma State.Tracks.live_iff (h : s.Tracks sha256) (hnow : s.clock ≤ now) :
    Live sha256 s.log now key name ↔
      ∃ deadline, s.deliveries.get? key = some ⟨name, deadline⟩ ∧ now < deadline := by
  constructor
  · rintro ⟨deadline, hg, hlt⟩
    exact ⟨deadline, h.complete key name deadline hg (hnow.trans_lt hlt), hlt⟩
  · rintro ⟨deadline, hget, hlt⟩
    exact ⟨deadline, h.sound key _ hget, hlt⟩

variable (sha256) in
/-- What a download answers. -/
lemma download_snd (entries : Deliveries) (now : ℚ) (files : String → Option Node)
    (name token : String) :
    ((download sha256 entries now files name token).2 = missing ∧
        ¬((∃ deadline, entries.get? (sha256 token) = some ⟨name, deadline⟩ ∧ now < deadline) ∧
          opened files name ≠ none)) ∨
      ∃ content deadline, opened files name = some content ∧ now < deadline ∧
        entries.get? (sha256 token) = some ⟨name, deadline⟩ ∧
        (download sha256 entries now files name token).2 = served name content := by
  unfold download
  dsimp only
  cases hget : entries.get? (sha256 token) with
  | none => exact Or.inl ⟨rfl, by simp⟩
  | some d =>
    obtain ⟨name', deadline⟩ := d
    dsimp only
    split
    · next hbad =>
      refine Or.inl ⟨rfl, ?_⟩
      rintro ⟨⟨deadline', h, hlt⟩, -⟩
      cases h
      rcases hbad with hne | hle
      · exact hne rfl
      · exact absurd hlt hle.not_gt
    · next hgood =>
      obtain ⟨rfl, hlt⟩ : name' = name ∧ now < deadline := by simpa using hgood
      cases hopen : opened files name' with
      | none => exact Or.inl ⟨rfl, by simp⟩
      | some content => exact Or.inr ⟨content, deadline, rfl, hlt, rfl, rfl⟩

/-- `MAX_TOKENS` different hashes whose deliveries are still good. -/
def Full (sha256 : String → String) (log : List Entry) (now : ℚ) : Prop :=
  ∃ keys : List String, keys.Nodup ∧ keys.length = MAX_TOKENS ∧
    ∀ key ∈ keys, ∃ name, Live sha256 log now key name

lemma mem_keys_purge {entries : Deliveries} : key ∈ (purge entries now).keys ↔
    ∃ name deadline, entries.get? key = some ⟨name, deadline⟩ ∧ now < deadline := by
  rw [Dict.mem_keys]
  constructor
  · rintro ⟨⟨name, deadline⟩, h⟩
    rw [get?_purge, Option.filter_eq_some_iff] at h
    exact ⟨name, deadline, h.1, by simpa using h.2⟩
  · rintro ⟨name, deadline, hget, hlt⟩
    exact ⟨⟨name, deadline⟩, by simp [get?_purge, hget, hlt]⟩

/-- The capacity is counted over deliveries that are still good. -/
lemma State.Tracks.full_iff (h : s.Tracks sha256) (hnow : s.clock ≤ now) :
    MAX_TOKENS ≤ (Firmware.purge s.deliveries now).size ↔ Full sha256 s.log now := by
  have hkeys : ∀ key, key ∈ (Firmware.purge s.deliveries now).keys ↔
      ∃ name, Live sha256 s.log now key name := by
    intro key
    rw [mem_keys_purge]
    exact exists_congr fun name => (h.live_iff hnow).symm
  have hlen : (Firmware.purge s.deliveries now).keys.length =
      (Firmware.purge s.deliveries now).size := List.length_map ..
  constructor
  · intro hle
    refine ⟨(Firmware.purge s.deliveries now).keys.take MAX_TOKENS, ?_, ?_, fun key hk => ?_⟩
    · exact (Firmware.purge s.deliveries now).nodup.sublist (List.take_sublist _ _)
    · rw [List.length_take, hlen, Nat.min_eq_left hle]
    · exact (hkeys key).mp (List.take_subset _ _ hk)
  · rintro ⟨keys, hnodup, hcard, hlive⟩
    have hsub : keys ⊆ (Firmware.purge s.deliveries now).keys :=
      fun key hk => (hkeys key).mpr (hlive key hk)
    rw [← hcard, ← hlen]
    exact (hnodup.subperm hsub).length_le

lemma served_inj {content content' : List UInt8} (h : served name content = served name content') :
    content = content' := Body.content.inj (congrArg Response.body h)

lemma served_ne_missing {content : List UInt8} : served name content ≠ missing := by
  intro h
  have hstatus : 200 = 404 := congrArg Response.status h
  omega

/-- **A download is answered** by what the history grants. -/
lemma State.Tracks.download_iff (h : s.Tracks sha256) (hnow : s.clock ≤ now)
    (files : String → Option Node) (token : String) :
    (∀ content, (download sha256 s.deliveries now files name token).2 = served name content ↔
      Live sha256 s.log now (sha256 token) name ∧ opened files name = some content) ∧
    ((download sha256 s.deliveries now files name token).2 = missing ↔
      ¬(Live sha256 s.log now (sha256 token) name ∧ opened files name ≠ none)) := by
  rw [h.live_iff hnow]
  rcases download_snd sha256 s.deliveries now files name token with
    ⟨hm, hnot⟩ | ⟨content, deadline, hopen, hlt, hget, hserved⟩
  · rw [hm]
    refine ⟨fun content => ?_, iff_of_true rfl hnot⟩
    refine iff_of_false served_ne_missing.symm fun ⟨hlive, hopen⟩ => hnot ⟨hlive, ?_⟩
    simp [hopen]
  · rw [hserved, hopen]
    refine ⟨fun content' => ?_, ?_⟩
    · constructor
      · exact fun heq => ⟨⟨deadline, hget, hlt⟩, congrArg some (served_inj heq)⟩
      · rintro ⟨-, heq⟩
        rw [Option.some.inj heq]
    · exact iff_of_false served_ne_missing fun hnot => hnot ⟨⟨deadline, hget, hlt⟩, nofun⟩

/-- **A mint is answered** by what the history grants. -/
lemma State.Tracks.mint_iff (h : s.Tracks sha256) (hnow : s.clock ≤ now)
    (files : String → Option Node) (drawn : String) :
    let r := (mint sha256 origin s.deliveries now files name drawn).2
    (r = full ↔ opened files name ≠ none ∧ Full sha256 s.log now) ∧
      (r = minted origin name drawn ↔ opened files name ≠ none ∧ ¬Full sha256 s.log now) := by
  have hne : full ≠ minted origin name drawn := by
    intro h
    have hstatus : 503 = 201 := congrArg Response.status h
    omega
  rw [← h.full_iff hnow]
  rcases mint_cases sha256 origin s.deliveries now files name drawn with
    ⟨hopen, hm⟩ | ⟨hopen, hsize, hm⟩ | ⟨hopen, hsize, hm⟩
  · have hfull : missing ≠ full := by decide
    have hminted : missing ≠ minted origin name drawn := by
      intro h
      have hstatus : 404 = 201 := congrArg Response.status h
      omega
    rw [hm]
    exact ⟨iff_of_false hfull fun h => h.1 hopen, iff_of_false hminted fun h => h.1 hopen⟩
  · rw [hm]
    exact ⟨iff_of_true rfl ⟨hopen, hsize⟩, iff_of_false hne fun h => h.2 hsize⟩
  · rw [hm]
    exact ⟨iff_of_false hne.symm fun h => absurd h.2 (Nat.not_le_of_lt hsize),
      iff_of_true rfl ⟨hopen, Nat.not_le_of_lt hsize⟩⟩

end Requests

/-- **A delivery is served once.** After every run of mints and downloads with any firmware
directory, a download is answered with the file exactly when its token was minted for that file less
than `TTL_SECONDS` ago, no request has borne the token since, and the file can still be opened; all
other downloads get one and the same answer. A mint of a file that can be opened is refused exactly
when `MAX_TOKENS` deliveries are still good, and there are never more. -/
theorem deliveries_spec (sha256 : String → String) (origin : String) (clock : ℚ)
    (events : List Event) (wait : NNRat) (files : String → Option Node) (name token : String) :
    let s := after (State.step sha256 origin) (start clock) events
    let now := s.clock + wait
    let r := (download sha256 s.deliveries now files name token).2
    let r' := (mint sha256 origin s.deliveries now files name token).2
    (∀ content, r = served name content ↔
      Live sha256 s.log now (sha256 token) name ∧ opened files name = some content) ∧
    (r = missing ↔
      ¬(Live sha256 s.log now (sha256 token) name ∧ opened files name ≠ none)) ∧
    (r' = full ↔ opened files name ≠ none ∧ Full sha256 s.log now) ∧
    (r' = minted origin name token ↔ opened files name ≠ none ∧ ¬Full sha256 s.log now) ∧
    s.deliveries.size ≤ MAX_TOKENS := by
  intro s now r r'
  have htracks : s.Tracks sha256 := tracks sha256 origin clock events
  have hnow : s.clock ≤ now := le_add_of_nonneg_right wait.2
  obtain ⟨hserved, hmissing⟩ := htracks.download_iff hnow files token
  obtain ⟨hfull, hminted⟩ := htracks.mint_iff hnow files token
  exact ⟨hserved, hmissing, hfull, hminted, htracks.bounded⟩

end Vauxr.Firmware
