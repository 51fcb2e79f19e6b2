import Vauxr.Platform

/-!
A sample platform, on which single runs can be followed: its digests are check sums, and every
signature verifies.
-/

namespace Vauxr

open Lib

lemma isHex_hexChar {n : ℕ} (h : n < 16) : isHex (hexChar n) = true := by
  revert n
  decide

lemma hexChar_inj {i j : ℕ} (hi : i < 16) (hj : j < 16) (h : hexChar i = hexChar j) : i = j := by
  have hfin : ∀ i j : Fin 16, hexChar i = hexChar j → i = j := by decide
  exact Fin.mk.inj (hfin ⟨i, hi⟩ ⟨j, hj⟩ h)

/-- The last `width` digits of a number in base 16, the lowest first. -/
def hexWord (width n : ℕ) : Hex width where
  val := String.ofList ((List.range width).map fun k => hexChar (n / 16 ^ k % 16))
  property := by
    simp only [hexString, String.toList_ofList, List.length_map, List.length_range,
      BEq.rfl, Bool.true_and, List.all_map, List.all_eq_true]
    exact fun k _ => isHex_hexChar (Nat.mod_lt _ (by omega))

lemma hexWord_inj {width i j : ℕ} (hw : 4 ≤ width) (hi : i < 65536) (hj : j < 65536)
    (h : (hexWord width i).1 = (hexWord width j).1) : i = j := by
  have hl : ((List.range width).map fun k => hexChar (i / 16 ^ k % 16)) =
      (List.range width).map fun k => hexChar (j / 16 ^ k % 16) := by
    simpa [hexWord] using congrArg String.toList h
  have hd : ∀ k < width, i / 16 ^ k % 16 = j / 16 ^ k % 16 := by
    intro k hk
    have := List.map_inj_left.mp hl k (List.mem_range.mpr hk)
    exact hexChar_inj (Nat.mod_lt _ (by omega)) (Nat.mod_lt _ (by omega)) this
  have h0 := hd 0 (by omega)
  have h1 := hd 1 (by omega)
  have h2 := hd 2 (by omega)
  have h3 := hd 3 (by omega)
  norm_num at h0 h1 h2 h3
  omega

namespace Sample

def checksum (bytes : List UInt8) : ℕ := bytes.foldl (fun n b => (n * 31 + b.toNat) % 65521) 7

def platform : Platform where
  sha256 := fun bytes => hexWord 64 (checksum bytes)
  ed25519 := fun _ _ _ => true
  csrf := id
  isoformat := fun _ => "1970-01-01T00:00:00+00:00"
  isoformat_ne_empty := by simp

def origin : Origin := ⟨"http://vauxr.local", by decide +kernel⟩

/-- A URL-safe text of one repeated letter. -/
def repeated (n : ℕ) (c : Char) (h : isAlnum c = true) : UrlSafe n where
  val := String.ofList (List.replicate n c)
  property := by simp [urlSafe, h]

/-- The draws of one operation; `n` sets those of two operations apart. -/
def draws (n : ℕ) : Draws where
  serverId := hexWord 32 n
  requestId := hexWord 32 n
  nonce := hexWord 64 n
  code := 0
  credentialId := hexWord 32 n
  token := repeated 43 'a' (by decide)
  generation := hexWord 32 n
  claim := repeated 32 'a' (by decide)
  acknowledgement := repeated 43 'a' (by decide)
  cookie := repeated 43 'a' (by decide)

def ctx (n : ℕ) (now : ℕ) : Ctx where
  platform
  now
  now_nonneg := by positivity
  origin
  deviceIdLength := 8
  length_pos := by omega
  length_le := by omega
  openclaw := false
  override := none
  draws := draws n

/-- A cookie that is not the drawn one. -/
def otherCookie : UrlSafe 43 := repeated 43 'b' (by decide)

/-- A token for the operator's environment. -/
def operator : String := "vx_op_" ++ (repeated 43 'b' (by decide)).1

end Sample

end Vauxr
