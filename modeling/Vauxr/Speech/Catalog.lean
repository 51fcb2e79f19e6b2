import Mathlib
import Vauxr.Lib.Values
import Vauxr.Lib.Refine

/-!
The configured speech deployments (`speech/models.py`, `speech/catalog.py`): what a row of the
providers must be.
-/

namespace Vauxr.Speech

open Lib

/-- What a call raises: a bad configuration with its field, a bad value, a missing key or a value
of another type, a failed write. -/
inductive Error
  | config (field requirement : String)
  | value (message : String)
  | lookup
  | os
  deriving DecidableEq

inductive Kind
  | stt | tts | realtime
  deriving DecidableEq

def Kind.value : Kind → Text
  | .stt => text "stt"
  | .tts => text "tts"
  | .realtime => text "realtime"

def Kind.ofText? (t : Text) : Option Kind := [Kind.stt, .tts, .realtime].find? (·.value = t)

structure Backend where
  id : Text
  kind : Kind
  adapter : Text
  model : Text
  host : Text
  port : ℤ
  voices : List Text
  deriving DecidableEq

/-- `_ADAPTERS` -/
def adapters : Kind → List Text
  | .stt => ["wyoming", "whisper", "parakeet-v3"].map text
  | .tts => ["wyoming", "piper", "kokoro", "openai"].map text
  | .realtime => ["openai-live"].map text

def validateBackend (b : Backend) : Bool :=
  b.adapter ∈ adapters b.kind && b.id ≠ [] && b.model ≠ [] && b.host ≠ [] &&
    1 ≤ b.port && b.port ≤ 65535 && (b.kind = .stt || b.voices ≠ []) &&
    b.voices.all (· ≠ []) && decide b.voices.Nodup &&
    (b.adapter ≠ text "openai-live" || b.host = text "api.openai.com" && b.port = 443)

/-- The fields of a backend; only the voices may be missing. -/
def backendFields : List Text :=
  ["id", "kind", "adapter", "model", "host", "port", "voices"].map text

def strings (items : List Value) : Option (List Text) := items.mapM Value.str?

/-- A row of the providers. -/
def parseBackend (item : Value) : Option Backend := do
  let d ← item.obj?.filter fun d => d.keys.all (· ∈ backendFields)
  let voices ← ((d.get? (text "voices")).getD (.arr [])).arr?
  let id ← (d.get? (text "id")).bind Value.str?
  let kind ← ((d.get? (text "kind")).bind Value.str?).bind Kind.ofText?
  let adapter ← (d.get? (text "adapter")).bind Value.str?
  let model ← (d.get? (text "model")).bind Value.str?
  let host ← (d.get? (text "host")).bind Value.str?
  let port ← (d.get? (text "port")).bind Value.int?
  let voices ← strings voices
  let b : Backend := ⟨id, kind, adapter, model, host, port, voices⟩
  if validateBackend b then some b else none

def providerRequirement : String :=
  "expected id, kind, supported adapter, model, host, port (1–65535), " ++
    "and voices for TTS/realtime; no credentials"

/-- The rows from an index on. -/
def parseRows : ℕ → List Value → Except Error (List Backend)
  | _, [] => .ok []
  | index, item :: items => do
    let b ← demand (parseBackend item)
      (.config ("providers[" ++ toString index ++ "]") providerRequirement)
    let backends ← parseRows (index + 1) items
    return b :: backends

def parseBackends (raw : Value) : Except Error (List Backend) := do
  let items ← demand (raw.arr?.filter fun l => 1 ≤ l.length ∧ l.length ≤ 32)
    (.config "providers" "expected an array of 1–32 providers")
  let backends ← parseRows 0 items
  refuse (!decide (backends.map Backend.id).Nodup)
    (.config "providers" "provider IDs must be unique")
  return backends

/-- `asdict`, as JSON. -/
def Backend.toValue (b : Backend) : Value :=
  .obj [(text "id", .str b.id), (text "kind", .str b.kind.value), (text "adapter", .str b.adapter),
    (text "model", .str b.model), (text "host", .str b.host), (text "port", .int b.port),
    (text "voices", .arr (b.voices.map .str))]

lemma parseBackend_valid {item : Value} {b : Backend} (h : parseBackend item = some b) :
    validateBackend b = true := by
  unfold parseBackend at h
  simp only [Option.bind_eq_bind, Option.bind_eq_some_iff] at h
  obtain ⟨_, -, _, -, _, -, _, -, _, -, _, -, _, -, _, -, _, -, h⟩ := h
  split at h
  next hv =>
    cases h
    exact hv
  next => cases h

lemma parseRows_valid {items : List Value} {index : ℕ} {backends : List Backend}
    (h : parseRows index items = .ok backends) : ∀ b ∈ backends, validateBackend b = true := by
  induction items generalizing index backends with
  | nil =>
    cases h
    intro b hb
    cases hb
  | cons item items ih =>
    simp only [parseRows, bind_eq_ok, demand_eq_ok] at h
    obtain ⟨b, hb, rest, hrest, h⟩ := h
    cases h
    intro b' hb'
    rcases List.mem_cons.mp hb' with rfl | hmem
    · exact parseBackend_valid hb
    · exact ih hrest b' hmem

lemma parseBackends_spec {raw : Value} {backends : List Backend}
    (h : parseBackends raw = .ok backends) :
    (∀ b ∈ backends, validateBackend b = true) ∧ (backends.map Backend.id).Nodup := by
  simp only [parseBackends, bind_eq_ok, demand_eq_ok, refuse_eq_ok, Bool.not_eq_false',
    decide_eq_true_eq] at h
  obtain ⟨_, -, rows, hrows, _, hnodup, h⟩ := h
  cases h
  exact ⟨parseRows_valid hrows, hnodup⟩

/-- A backend that speaks has a voice. -/
lemma voices_ne_nil {b : Backend} (h : validateBackend b = true) (hk : b.kind ≠ .stt) :
    b.voices ≠ [] := by
  unfold validateBackend at h
  simp only [Bool.and_eq_true, Bool.or_eq_true, decide_eq_true_eq] at h
  obtain ⟨⟨⟨⟨-, hv⟩, -⟩, -⟩, -⟩ := h
  rcases hv with hv | hv
  · exact absurd hv hk
  · exact hv

end Vauxr.Speech
