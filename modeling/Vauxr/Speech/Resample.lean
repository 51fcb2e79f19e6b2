import Mathlib
import Vauxr.Lib.Rounding

/-!
Synthesis over Wyoming with resampling (`speech/wyoming_tts.py`): every audio chunk is resampled by
itself.

What the filter and the interpolation make of the samples is a parameter: it reads those before the
chunk and those of the chunk. A quotient that is too large for a double is left out.
-/

namespace Vauxr.Speech.Resample

open Lib

/-- A sample of 16 bits, the lower byte first. -/
def sample (lo hi : UInt8) : ℤ := (hi.toBitVec ++ lo.toBitVec).toInt

/-- `struct.unpack_from`; an odd byte at the end is not read. -/
def unpack : List UInt8 → List ℤ
  | lo :: hi :: rest => sample lo hi :: unpack rest
  | _ => []

def clamp (val : ℤ) : ℤ := if 32767 < val then 32767 else if val < -32768 then -32768 else val

/-- `struct.pack_into` -/
def pack (val : ℤ) : List UInt8 :=
  let w := BitVec.ofInt 16 val
  [UInt8.ofBitVec (w.extractLsb' 0 8), UInt8.ofBitVec (w.extractLsb' 8 8)]

variable (render : List ℤ → List ℤ → ℕ → ℤ) (fromRate toRate : ℕ)

/-- `round(src_samples * to_rate / from_rate)` -/
def dstSamples (srcSamples : ℕ) : ℕ :=
  (roundEven (double ((srcSamples * toRate : ℕ) / (fromRate : ℚ)))).toNat

/-- The resampler, with the samples that it has filtered. -/
def resample (filtered : List ℤ) (buf : List UInt8) : List ℤ × List UInt8 :=
  if buf.length / 2 = 0 then (filtered, [])
  else
    (filtered ++ unpack buf,
      (List.range (dstSamples fromRate toRate (buf.length / 2))).flatMap fun i =>
        pack (clamp (render filtered (unpack buf) i)))

/-- A synthesis: the samples that its resampler has filtered, and the pieces that it has yielded. -/
structure Stream where
  filtered : List ℤ
  yielded : List (List UInt8)

/-- An `audio-chunk` of a source with a rate, for a target with one. -/
def audioChunk (s : Stream) (payload : List UInt8) : Stream :=
  if payload = [] then s
  else if fromRate ≠ toRate then
    let (filtered, out) := resample render fromRate toRate s.filtered payload
    ⟨filtered, s.yielded ++ [out]⟩
  else { s with yielded := s.yielded ++ [payload] }

def synthesize (payloads : List (List UInt8)) : Stream :=
  payloads.foldl (audioChunk render fromRate toRate) ⟨[], []⟩

/-- The number of samples yielded. -/
def samples (s : Stream) : ℕ := s.yielded.flatten.length / 2

/-- Every sample of the string is filtered once, in order, and as many come out as the rates say, to
within one. -/
def Faithful (payloads : List (List UInt8)) : Prop :=
  (synthesize render fromRate toRate payloads).filtered = unpack payloads.flatten ∧
    |(samples (synthesize render fromRate toRate payloads) : ℚ) -
      (payloads.flatten.length / 2 : ℕ) * toRate / fromRate| ≤ 1

lemma unpack_length (l : List UInt8) : (unpack l).length = l.length / 2 := by
  induction l using unpack.induct with
  | case1 lo hi rest ih =>
    rw [unpack, List.length_cons, ih, List.length_cons, List.length_cons]
    omega
  | case2 l hl =>
    match l with
    | [] => rfl
    | [_] => simp [unpack]
    | lo :: hi :: rest => exact absurd rfl (hl lo hi rest)

lemma pack_length (val : ℤ) : (pack val).length = 2 := rfl

lemma dstSamples_zero : dstSamples fromRate toRate 0 = 0 := by
  have h := roundEven_intCast 0
  rw [Int.cast_zero] at h
  simp [dstSamples, h]

lemma resample_eq (filtered : List ℤ) (buf : List UInt8) :
    (resample render fromRate toRate filtered buf).1 = filtered ++ unpack buf ∧
      (resample render fromRate toRate filtered buf).2.length =
        2 * dstSamples fromRate toRate (buf.length / 2) := by
  unfold resample
  split
  next hzero =>
    have hnil : unpack buf = [] := List.eq_nil_of_length_eq_zero (by rw [unpack_length, hzero])
    rw [hnil, hzero, dstSamples_zero, List.append_nil]
    exact ⟨rfl, rfl⟩
  next =>
    refine ⟨rfl, ?_⟩
    simp only [List.length_flatMap, pack_length, List.map_const', List.sum_replicate,
      List.length_range, smul_eq_mul]
    ring

/-- What a synthesis has filtered and yielded behind its payloads. -/
lemma synthesize_eq (hne : fromRate ≠ toRate) (payloads : List (List UInt8)) :
    (synthesize render fromRate toRate payloads).filtered = payloads.flatMap unpack ∧
      samples (synthesize render fromRate toRate payloads) =
        (payloads.map fun p => dstSamples fromRate toRate (p.length / 2)).sum := by
  have key : ∀ (l : List (List UInt8)) (s : Stream),
      (l.foldl (audioChunk render fromRate toRate) s).filtered = s.filtered ++ l.flatMap unpack ∧
        (l.foldl (audioChunk render fromRate toRate) s).yielded.flatten.length =
          s.yielded.flatten.length +
            2 * (l.map fun p => dstSamples fromRate toRate (p.length / 2)).sum := by
    intro l
    induction l with
    | nil => exact fun s => ⟨(List.append_nil _).symm, rfl⟩
    | cons p l ih =>
      intro s
      obtain ⟨hfiltered, hlength⟩ := ih (audioChunk render fromRate toRate s p)
      have hchunk : (audioChunk render fromRate toRate s p).filtered = s.filtered ++ unpack p ∧
          (audioChunk render fromRate toRate s p).yielded.flatten.length =
            s.yielded.flatten.length + 2 * dstSamples fromRate toRate (p.length / 2) := by
        unfold audioChunk
        split
        next hnil =>
          rw [hnil]
          simp [unpack, dstSamples_zero]
        next =>
          obtain ⟨h₁, h₂⟩ := resample_eq render fromRate toRate s.filtered p
          refine ⟨h₁, ?_⟩
          simp only [List.flatten_append, List.length_append, List.flatten_cons, List.flatten_nil,
            List.length_nil, add_zero, h₂]
      rw [List.foldl_cons, hfiltered, hlength, hchunk.1, hchunk.2, List.flatMap_cons,
        List.map_cons, List.sum_cons, List.append_assoc]
      exact ⟨rfl, by ring⟩
  obtain ⟨h₁, h₂⟩ := key payloads ⟨[], []⟩
  refine ⟨h₁, ?_⟩
  unfold samples synthesize
  rw [h₂]
  simp

lemma dstSamples_cast (srcSamples : ℕ) : (dstSamples fromRate toRate srcSamples : ℤ) =
    roundEven (double ((srcSamples * toRate : ℕ) / (fromRate : ℚ))) :=
  Int.toNat_of_nonneg (roundEven_nonneg (double_nonneg (by positivity)))

/-- A string that is not cut is resampled to the length that the rates say, unless it is so long
that its number of samples has no exact double. -/
theorem uncut_faithful (hfrom : 0 < fromRate) (hne : fromRate ≠ toRate) (pcm : List UInt8)
    (hsize : pcm.length / 2 * toRate < 2 ^ 53 * fromRate) :
    Faithful render fromRate toRate [pcm] := by
  have hpos : (0 : ℚ) < fromRate := by exact_mod_cast hfrom
  have hlt : ((pcm.length / 2 * toRate : ℕ) : ℚ) / fromRate < 2 ^ 53 := by
    rw [div_lt_iff₀ hpos]
    exact_mod_cast hsize
  obtain ⟨hfiltered, hsamples⟩ := synthesize_eq render fromRate toRate hne [pcm]
  unfold Faithful
  rw [hfiltered, hsamples]
  refine ⟨by simp, ?_⟩
  have herr := roundEven_double_error hlt
  rw [← dstSamples_cast, Int.cast_natCast] at herr
  simpa using herr

end Vauxr.Speech.Resample
