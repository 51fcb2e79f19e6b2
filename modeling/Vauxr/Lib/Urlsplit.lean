import Mathlib
import Vauxr.Lib.Ipaddress

/-!
URLs as `urlsplit` of Python 3.12 takes them apart.

What Unicode says of texts that are not ASCII is a parameter: their lower case, and whether their
normal form has a character that a host may not have.
-/

namespace Vauxr.Lib

def isAscii (t : Text) : Bool := t.all fun c => c.1 < 128

def isLetter (c : CodePoint) : Bool :=
  decide (97 ≤ c.1 ∧ c.1 ≤ 122) || decide (65 ≤ c.1 ∧ c.1 ≤ 90)

def asciiLower (c : CodePoint) : CodePoint :=
  if 65 ≤ c.1 ∧ c.1 ≤ 90 then Fin.ofNat 0x110000 (c.1 + 32) else c

structure Unicode where
  lower : Text → Text
  nfkcClean : Text → Bool

def Unicode.lowered (u : Unicode) (t : Text) : Text :=
  if isAscii t then t.map asciiLower else u.lower t

/-- The characters of a scheme. -/
def isSchemeChar (c : CodePoint) : Bool :=
  isLetter c || isDecimal c || c == ch '+' || c == ch '-' || c == ch '.'

/-- `_UNSAFE_URL_BYTES_TO_REMOVE`. -/
def isUnsafe (c : CodePoint) : Bool := c == ch '\t' || c == ch '\r' || c == ch '\n'

/-- What ends the part of a URL that names a host. -/
def endsNetloc (c : CodePoint) : Bool := c == ch '/' || c == ch '?' || c == ch '#'

/-- `_check_bracketed_host`: a future version, or an address of version 6. -/
def checkBracketedHost (host : Text) : Bool :=
  match host with
  | [] => false
  | c :: rest =>
    if c = ch 'v' then
      let isHex : CodePoint → Bool := fun c => (digit? c).isSome
      match rest.takeWhile isHex, rest.dropWhile isHex with
      | _ :: _, dot :: name => dot == ch '.' && name ≠ [] && ch '\n' ∉ name
      | _, _ => false
    else
      match ipAddress host with
      | some (.six _ _) => true
      | _ => false

structure SplitUrl where
  scheme : Text
  netloc : Text
  path : Text
  query : Text
  fragment : Text

/-- The scheme of a URL, in lower case, and what stands behind it. -/
def splitScheme (u : Unicode) (url : Text) : Text × Text :=
  match partition (ch ':') url with
  | (c :: scheme, true, rest) =>
    if isLetter c && (c :: scheme).all isSchemeChar then (u.lowered (c :: scheme), rest)
    else ([], url)
  | _ => ([], url)

/-- The part that names a host, and what stands behind it. -/
def splitNetloc : Text → Text × Text
  | c :: d :: rest =>
    if c = ch '/' ∧ d = ch '/' then
      (rest.takeWhile (! endsNetloc ·), rest.dropWhile (! endsNetloc ·))
    else ([], c :: d :: rest)
  | url => ([], url)

def bracketsOk (netloc : Text) : Bool :=
  if ch '[' ∈ netloc ∧ ch ']' ∈ netloc then
    checkBracketedHost (partition (ch ']') (partition (ch '[') netloc).2.2).1
  else ch '[' ∉ netloc && ch ']' ∉ netloc

/-- `urlsplit`; without a result where it raises a `ValueError`. -/
def urlsplit (u : Unicode) (url : Text) : Option SplitUrl :=
  let url := (url.dropWhile fun c => c.1 ≤ 32).filter (! isUnsafe ·)
  let (scheme, url) := splitScheme u url
  let (netloc, url) := splitNetloc url
  if bracketsOk netloc ∧ (isAscii netloc ∨ u.nfkcClean netloc) then
    let (url, _, fragment) := partition (ch '#') url
    let (path, _, query) := partition (ch '?') url
    some ⟨scheme, netloc, path, query, fragment⟩
  else none

namespace SplitUrl

/-- What stands before the last at sign, if there is one, and behind it. -/
def userinfo (s : SplitUrl) : Option Text × Text :=
  let behind := (s.netloc.reverse.takeWhile (· ≠ ch '@')).reverse
  if ch '@' ∈ s.netloc then
    (some (s.netloc.reverse.dropWhile (· ≠ ch '@')).tail.reverse, behind)
  else (none, behind)

def username (s : SplitUrl) : Option Text :=
  s.userinfo.1.map fun info => (partition (ch ':') info).1

def password (s : SplitUrl) : Option Text :=
  s.userinfo.1.bind fun info =>
    match partition (ch ':') info with
    | (_, true, password) => some password
    | _ => none

/-- `_hostinfo`: the host, and the text of the port. -/
def hostinfo (s : SplitUrl) : Text × Text :=
  match partition (ch '[') s.userinfo.2 with
  | (_, true, bracketed) =>
    let (host, _, port) := partition (ch ']') bracketed
    (host, (partition (ch ':') port).2.2)
  | _ =>
    let (host, _, port) := partition (ch ':') s.userinfo.2
    (host, port)

/-- The host in lower case, but for a zone behind a percent sign; `[]` stands for none. -/
def hostname (u : Unicode) (s : SplitUrl) : Text :=
  match partition (ch '%') s.hostinfo.1 with
  | (host, true, zone) => u.lowered host ++ ch '%' :: zone
  | (host, false, _) => u.lowered host

/-- The port, if there is one; without a result where it is not a number up to 65535. -/
def port (s : SplitUrl) : Option (Option ℕ) :=
  if s.hostinfo.2 = [] then some none
  else if s.hostinfo.2.all isDecimal then
    match number? 10 s.hostinfo.2 with
    | some n => if n ≤ 65535 then some (some n) else none
    | none => none
  else none

end SplitUrl

end Vauxr.Lib
