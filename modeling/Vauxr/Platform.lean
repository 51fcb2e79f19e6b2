import Mathlib.Data.Rat.Floor
import Vauxr.Snapshot

/-!
What an operation takes from outside the store: the clock, the configured origin, the drawn
secrets, and the cryptographic functions, with the texts the operations build for them.
-/

namespace Vauxr

open Lib

/-- SHA-256 as a hex digest, the Ed25519 verification (`publicKey`, `signature` in hex), the
keyed digest of an owner cookie and the rendering of a creation time. -/
structure Platform where
  sha256 : List UInt8 → Hex 64
  ed25519 : String → String → List UInt8 → Bool
  csrf : String → String
  isoformat : ℚ → String
  isoformat_ne_empty : ∀ q, isoformat q ≠ ""

/-- `configured_origin` only returns origins of these two schemes. -/
abbrev Origin := {s : String // (s.startsWith "http://" || s.startsWith "https://") = true}

def urlSafe (s : String) (length : ℕ) : Bool :=
  s.toList.length == length && s.toList.all fun c => isAlnum c || c ∈ ['_', '-']

/-- What `secrets.token_urlsafe` returns. -/
abbrev UrlSafe (length : ℕ) := {s : String // urlSafe s length = true}

/-- The values one operation draws from `secrets`, one for each place that draws. -/
structure Draws where
  serverId : Hex 32
  requestId : Hex 32
  nonce : Hex 64
  code : Fin 10000
  credentialId : Hex 32
  token : UrlSafe 43
  generation : Hex 32
  claim : UrlSafe 32
  acknowledgement : UrlSafe 43
  cookie : UrlSafe 43

/-- An operation reads the clock once: the time between its readings is not modelled. -/
structure Ctx where
  platform : Platform
  now : ℚ
  now_nonneg : 0 ≤ now
  origin : Origin
  deviceIdLength : ℕ
  length_pos : 1 ≤ deviceIdLength
  length_le : deviceIdLength ≤ 64
  openclaw : Bool
  override : Option String
  draws : Draws

/-! ### Bytes and digests -/

def utf8 (s : String) : List UInt8 := s.toUTF8.toList

def hexDigit (c : Char) : ℕ :=
  if '0' ≤ c && c ≤ '9' then c.toNat - '0'.toNat else c.toNat - 'a'.toNat + 10

/-- `bytes.fromhex`, on pairs of hex digits. -/
def fromHexList : List Char → List UInt8
  | a :: b :: rest => UInt8.ofNat (16 * hexDigit a + hexDigit b) :: fromHexList rest
  | _ => []

def fromHex (s : String) : List UInt8 := fromHexList s.toList

namespace Ctx

variable (c : Ctx)

def digest (bytes : List UInt8) : String := (c.platform.sha256 bytes).1

/-- The digest of a bearer token that is kept in its place. -/
def verifier (token : String) : String := c.digest (utf8 token)

def credentialGeneration (verifier : String) : String :=
  c.digest (utf8 "vauxr:credential-generation:v1\x00" ++ utf8 verifier)

lemma digest_hex (bytes : List UInt8) : hexString (c.digest bytes) 64 = true :=
  (c.platform.sha256 bytes).2

lemma verifier_hex (token : String) : hexString (c.verifier token) 64 = true :=
  c.digest_hex _

end Ctx

/-! ### Texts -/

def hexChar (n : ℕ) : Char := if n < 10 then Char.ofNat (48 + n) else Char.ofNat (87 + n)

/-- `\u` and four hex digits. -/
def unicodeEscape (n : ℕ) : List Char :=
  ['\\', 'u', hexChar (n / 4096 % 16), hexChar (n / 256 % 16), hexChar (n / 16 % 16),
    hexChar (n % 16)]

/-- A character as `json.dumps` with `ensure_ascii` writes it inside a string. -/
def jsonChar (c : Char) : List Char :=
  if c = '"' then ['\\', '"']
  else if c = '\\' then ['\\', '\\']
  else if c = '\n' then ['\\', 'n']
  else if c = '\r' then ['\\', 'r']
  else if c = '\t' then ['\\', 't']
  else if c.toNat = 8 then ['\\', 'b']
  else if c.toNat = 12 then ['\\', 'f']
  else if 32 ≤ c.toNat && c.toNat ≤ 126 then [c]
  else if c.toNat < 65536 then unicodeEscape c.toNat
  else unicodeEscape (55296 + (c.toNat - 65536) / 1024) ++
    unicodeEscape (56320 + (c.toNat - 65536) % 1024)

def jsonString (s : String) : String :=
  "\"" ++ String.ofList (s.toList.flatMap jsonChar) ++ "\""

/-- A compact JSON array of items that are already written. -/
def jsonArray (items : List String) : String := "[" ++ ",".intercalate items ++ "]"

/-- Four decimal digits. -/
def fourDigits (n : Fin 10000) : String :=
  String.ofList [Char.ofNat (48 + n / 1000), Char.ofNat (48 + n / 100 % 10),
    Char.ofNat (48 + n / 10 % 10), Char.ofNat (48 + n % 10)]

end Vauxr
