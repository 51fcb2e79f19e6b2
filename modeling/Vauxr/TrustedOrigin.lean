import Mathlib
import Vauxr.Lib.Urlsplit

/-!
The origins that an owner may be reached under (`auth/owner.py`): `trusted_origin` over `urlsplit`
and `ipaddress`, and the origins that are canonical.
-/

namespace Vauxr.TrustedOrigin

open Lib

inductive Scheme
  | http | https
  deriving DecidableEq

namespace Scheme

def text : Scheme → Text
  | .http => Lib.text "http"
  | .https => Lib.text "https"

def defaultPort : Scheme → ℕ
  | .http => 80
  | .https => 443

end Scheme

def isAlnum (c : CodePoint) : Bool := decide (97 ≤ c.1 ∧ c.1 ≤ 122) || isDecimal c

/-- `[a-z0-9](?:[a-z0-9-]{0,61}[a-z0-9])?` -/
def isLabel (t : Text) : Bool :=
  t ≠ [] && t.length ≤ 63 && (t.headD 0 |> isAlnum) && (t.getLastD 0 |> isAlnum) &&
    t.all fun c => isAlnum c || c == ch '-'

/-- `(?:[0-9]+|0x[0-9a-f]*)`, which a browser takes for a number. -/
def isNumeric (t : Text) : Bool :=
  t ≠ [] && t.all isDecimal ||
    match t with
    | c :: d :: rest => c == ch '0' && d == ch 'x' && rest.all isLowerHex
    | _ => false

def canonicalAddress (a : Address) : Text :=
  match a with
  | .four _ => a.str
  | .six _ _ => ch '[' :: a.str ++ [ch ']']

/-- The host as it must be written; without a result where it is neither an address nor a name. -/
def canonicalHost (host : Text) : Option Text :=
  match ipAddress host with
  | some a => some (canonicalAddress a)
  | none =>
    if isNumeric ((host.splitOn (ch '.')).getLastD []) then none
    else if 253 < host.length ∨ (host.splitOn (ch '.')).all isLabel = false then none
    else some host

def portText : Option ℕ → Text
  | some p => ch ':' :: digits 10 p
  | none => []

/-- `f"{scheme}://{netloc}"`. -/
def originText (scheme : Scheme) (netloc : Text) : Text :=
  scheme.text ++ ch ':' :: ch '/' :: ch '/' :: netloc

/-- `trusted_origin`; without a result where it raises a `ValueError`. -/
def trustedOrigin (u : Unicode) (value : Text) (scheme : Scheme) : Option Text :=
  (urlsplit u value).bind fun parsed =>
    if parsed.scheme ≠ scheme.text ∨ parsed.hostname u = [] ∨ parsed.username.getD [] ≠ [] ∨
        parsed.password.getD [] ≠ [] ∨ parsed.path ≠ [] ∨ parsed.query ≠ [] ∨
        parsed.fragment ≠ [] ∨ value ≠ originText scheme parsed.netloc then none
    else if ch '%' ∈ parsed.hostname u then none
    else
      (canonicalHost (parsed.hostname u)).bind fun host => parsed.port.bind fun port =>
        if parsed.netloc ≠ host ++ portText port ∨ port = some 0 ∨
            port = some scheme.defaultPort then none
        else some value

/-! ### What a URL denotes -/

/-- A host as it is reached: an address, or a name. -/
inductive Reached
  | address (a : Address)
  | name (host : Text)

def reached (host : Text) : Reached :=
  match ipAddress host with
  | some a => .address a
  | none => .name host

/-- The port that a scheme has of its own. -/
def ownPort (scheme : Text) : Option ℕ :=
  if scheme = Scheme.http.text then some 80
  else if scheme = Scheme.https.text then some 443
  else none

/-- The scheme, the host and the port that a URL denotes. -/
def denoted (u : Unicode) (value : Text) : Option (Text × Reached × Option ℕ) :=
  (urlsplit u value).bind fun parsed => parsed.port.map fun port =>
    (parsed.scheme, reached (parsed.hostname u), port.or (ownPort parsed.scheme))

/-! ### Canonical origins -/

/-- A host: an address, or a name as its labels. -/
inductive Host
  | four (octets : {l : List (Fin 256) // l.length = 4})
  | six (hextets : {l : List (Fin 65536) // l.length = 8})
  | name (labels : List Text)

structure Origin where
  scheme : Scheme
  host : Host
  port : Option ℕ

/-- A canonical IPv4 address in dotted decimal, a bracketed canonical IPv6 address, or labels with
dots between them. -/
def Host.text : Host → Text
  | .four octets => canonicalAddress (.four octets)
  | .six hextets => canonicalAddress (.six hextets none)
  | .name labels => join (ch '.') labels

/-- What the host is. -/
def Host.reached : Host → Reached
  | .four octets => .address (.four octets)
  | .six hextets => .address (.six hextets none)
  | .name labels => .name (join (ch '.') labels)

/-- The labels of a name in lower case are valid, they are not too many, and the last one is not
numeric. -/
def Host.Canonical : Host → Prop
  | .name labels => labels ≠ [] ∧ (∀ l ∈ labels, isLabel l = true) ∧
      (join (ch '.') labels).length ≤ 253 ∧ isNumeric (labels.getLastD []) = false
  | _ => True

namespace Origin

def netloc (o : Origin) : Text := o.host.text ++ portText o.port

/-- `scheme://host` or `scheme://host:port`. -/
def text (o : Origin) : Text := originText o.scheme o.netloc

/-- The host is canonical, and a port is one up to 65535 that is not the scheme's own. -/
structure Canonical (o : Origin) : Prop where
  host : o.host.Canonical
  port : ∀ p, o.port = some p → 1 ≤ p ∧ p ≤ 65535 ∧ p ≠ o.scheme.defaultPort

end Origin

/-! ### What is accepted is canonical -/

lemma scope?_some {t addr : Text} {scope : Text} (h : scope? t = some (addr, some scope)) :
    ch '%' ∈ t := by
  unfold scope? at h
  split at h
  next => cases h
  next addr' scope' hp =>
    unfold partition at hp
    have hmem : decide (ch '%' ∈ t) = true := congrArg (fun p => p.2.1) hp
    exact of_decide_eq_true hmem

/-- An address has a scope only where there is a percent sign. -/
lemma ipAddress_scope {t : Text} {l : {l : List (Fin 65536) // l.length = 8}} {scope : Text}
    (h : ipAddress t = some (.six l (some scope))) : ch '%' ∈ t := by
  unfold ipAddress at h
  split at h
  · cases h
  · split at h
    · cases h
    · obtain ⟨⟨addr, scope'⟩, hscope, hmap⟩ := Option.bind_eq_some_iff.mp h
      obtain ⟨l', -, heq⟩ := Option.map_eq_some_iff.mp hmap
      cases heq
      exact scope?_some hscope

lemma canonicalHost_sound {host canonical : Text} (hscope : ch '%' ∉ host)
    (h : canonicalHost host = some canonical) : ∃ o : Host, o.Canonical ∧ canonical = o.text := by
  unfold canonicalHost at h
  split at h
  next a ha =>
    cases h
    cases a with
    | four octets => exact ⟨.four octets, trivial, rfl⟩
    | six l scope =>
      cases scope with
      | none => exact ⟨.six l, trivial, rfl⟩
      | some scope => exact absurd (ipAddress_scope ha) hscope
  next =>
    split at h
    · cases h
    next hnumeric =>
      split at h
      · cases h
      next hlabels =>
        cases h
        have hjoin : join (ch '.') (host.splitOn (ch '.')) = host := List.intercalate_splitOn _
        rw [not_or, not_lt, Bool.not_eq_false, List.all_eq_true] at hlabels
        refine ⟨.name (host.splitOn (ch '.')), ⟨List.splitOn_ne_nil _ _, hlabels.2, ?_, ?_⟩,
          hjoin.symm⟩
        · rw [hjoin]
          exact hlabels.1
        · simpa using hnumeric

lemma port_le {s : SplitUrl} {p : ℕ} (h : s.port = some (some p)) : p ≤ 65535 := by
  unfold SplitUrl.port at h
  split at h
  · cases h
  · split at h
    · split at h
      · split at h
        next hle =>
          cases h
          exact hle
        next => cases h
      · cases h
    · cases h

/-- What is accepted is the value itself, and canonical. -/
lemma trustedOrigin_sound {u : Unicode} {value v : Text} {scheme : Scheme}
    (h : trustedOrigin u value scheme = some v) :
    v = value ∧ ∃ o : Origin, o.Canonical ∧ o.scheme = scheme ∧ value = o.text := by
  obtain ⟨parsed, -, h⟩ := Option.bind_eq_some_iff.mp h
  split at h
  · cases h
  next hparts =>
    split at h
    · cases h
    next hscope =>
      obtain ⟨canonical, hcanonical, h⟩ := Option.bind_eq_some_iff.mp h
      obtain ⟨port, hport, h⟩ := Option.bind_eq_some_iff.mp h
      split at h
      · cases h
      next hauthority =>
        cases h
        have hvalue : value = originText scheme parsed.netloc := by
          by_contra hne
          exact hparts (.inr (.inr (.inr (.inr (.inr (.inr (.inr hne)))))))
        rw [not_or, not_or, not_not] at hauthority
        obtain ⟨hnetloc, hzero, hdefault⟩ := hauthority
        obtain ⟨host, hhost, htext⟩ := canonicalHost_sound hscope hcanonical
        refine ⟨rfl, ⟨scheme, host, port⟩, ⟨hhost, fun p hp => ?_⟩, rfl, ?_⟩
        · have hp' : port = some p := hp
          subst hp'
          refine ⟨?_, port_le hport, fun heq => hdefault (congrArg some heq)⟩
          have hne : p ≠ 0 := fun heq => hzero (congrArg some heq)
          omega
        · rw [hvalue, hnetloc, htext]
          rfl

/-! ### What is canonical is accepted -/

/-- The characters of a canonical origin behind its scheme. -/
def isPlain (c : CodePoint) : Bool :=
  isAlnum c || c == ch '-' || c == ch '.' || c == ch ':' || c == ch '[' || c == ch ']'

lemma ne_of_isPlain {c d : CodePoint} (hc : isPlain c = true) (hd : isPlain d = false) : c ≠ d := by
  rintro rfl
  rw [hc] at hd
  cases hd

lemma isPlain_val {c : CodePoint} (h : isPlain c = true) :
    45 ≤ c.1 ∧ c.1 < 128 ∧ (c.1 < 65 ∨ 90 < c.1) := by
  unfold isPlain isAlnum isDecimal at h
  simp only [Bool.or_eq_true, decide_eq_true_iff, beq_iff_eq] at h
  rcases h with (((((h | h) | h) | h) | h) | h) | h
  · omega
  · omega
  · subst h
    decide
  · subst h
    decide
  · subst h
    decide
  · subst h
    decide
  · subst h
    decide

/-- A text without upper case is in lower case. -/
lemma lowered_of_plain {u : Unicode} {t : Text} (h : ∀ c ∈ t, isPlain c = true) :
    u.lowered t = t := by
  have hascii : Lib.isAscii t = true := by
    unfold Lib.isAscii
    rw [List.all_eq_true]
    exact fun c hc => decide_eq_true (isPlain_val (h c hc)).2.1
  unfold Unicode.lowered
  rw [if_pos hascii]
  conv_rhs => rw [← List.map_id t]
  refine List.map_congr_left fun c hc => ?_
  have hcase := (isPlain_val (h c hc)).2.2
  unfold asciiLower
  rw [if_neg (by omega)]
  rfl

lemma scheme_plain (scheme : Scheme) : ∀ c ∈ scheme.text, isPlain c = true := by
  have hall : scheme.text.all isPlain = true := by
    cases scheme <;> decide
  exact List.all_eq_true.mp hall

lemma scheme_cons (scheme : Scheme) : ∃ c rest, scheme.text = c :: rest ∧ 32 < c.1 := by
  cases scheme with
  | http => exact ⟨_, _, rfl, by decide⟩
  | https => exact ⟨_, _, rfl, by decide⟩

/-- How `urlsplit` takes a canonical origin apart. -/
lemma urlsplit_origin {u : Unicode} (scheme : Scheme) {netloc : Text}
    (hplain : ∀ c ∈ netloc, isPlain c = true) (hbrackets : bracketsOk netloc = true) :
    urlsplit u (originText scheme netloc) = some ⟨scheme.text, netloc, [], [], []⟩ := by
  have hstrip : (originText scheme netloc).dropWhile (fun c => decide (c.1 ≤ 32)) =
      originText scheme netloc := by
    obtain ⟨c, rest, htext, hc⟩ := scheme_cons scheme
    unfold originText
    rw [htext, List.cons_append, List.dropWhile_cons_of_neg]
    rw [decide_eq_true_iff, not_le]
    exact hc
  have hsafe : (originText scheme netloc).filter (! isUnsafe ·) = originText scheme netloc := by
    rw [List.filter_eq_self]
    intro c hc
    have hchars : isPlain c = true ∨ c = ch '/' := by
      rcases List.mem_append.mp hc with h | h
      · exact .inl (scheme_plain scheme c h)
      · simp only [List.mem_cons] at h
        rcases h with h | h | h | h
        · exact .inl (by rw [h]; decide)
        · exact .inr h
        · exact .inr h
        · exact .inl (hplain c h)
    rcases hchars with h | h
    · have hne : ∀ d : CodePoint, isPlain d = false → (c == d) = false :=
        fun d hd => beq_eq_false_iff_ne.mpr (ne_of_isPlain h hd)
      unfold isUnsafe
      rw [hne _ (by decide), hne _ (by decide), hne _ (by decide)]
      rfl
    · rw [h]
      decide
  have hscheme : splitScheme u (originText scheme netloc) =
      (scheme.text, ch '/' :: ch '/' :: netloc) := by
    have hpart : partition (ch ':') (originText scheme netloc) =
        (scheme.text, true, ch '/' :: ch '/' :: netloc) := by
      refine partition_append ?_ _
      cases scheme <;> decide
    unfold splitScheme
    rw [hpart]
    cases scheme with
    | http =>
      have hlower := lowered_of_plain (u := u) (scheme_plain .http)
      exact congrArg (fun t => (t, ch '/' :: ch '/' :: netloc)) hlower
    | https =>
      have hlower := lowered_of_plain (u := u) (scheme_plain .https)
      exact congrArg (fun t => (t, ch '/' :: ch '/' :: netloc)) hlower
  have hnetloc : splitNetloc (ch '/' :: ch '/' :: netloc) = (netloc, []) := by
    have hall : ∀ c ∈ netloc, (! endsNetloc c) = true := by
      intro c hc
      have hne : ∀ d : CodePoint, isPlain d = false → (c == d) = false :=
        fun d hd => beq_eq_false_iff_ne.mpr (ne_of_isPlain (hplain c hc) hd)
      unfold endsNetloc
      rw [hne _ (by decide), hne _ (by decide), hne _ (by decide)]
      rfl
    simp only [splitNetloc, and_self, if_true]
    rw [List.takeWhile_eq_self_iff.mpr hall, List.dropWhile_eq_nil_iff.mpr hall]
  have hascii : Lib.isAscii netloc = true := by
    unfold Lib.isAscii
    rw [List.all_eq_true]
    exact fun c hc => decide_eq_true (isPlain_val (hplain c hc)).2.1
  have hnone : ∀ sep : CodePoint, partition sep [] = ([], false, []) :=
    fun sep => partition_of_not_mem (List.not_mem_nil)
  unfold urlsplit
  simp only [hstrip, hsafe, hscheme, hnetloc, hnone]
  rw [if_pos ⟨hbrackets, .inl hascii⟩]

/-! ### The host and the port of a canonical origin -/

lemma portText_plain (port : Option ℕ) : ∀ c ∈ portText port, isPlain c = true := by
  cases port with
  | none => exact fun c hc => absurd hc List.not_mem_nil
  | some p =>
    intro c hc
    rcases List.mem_cons.mp hc with h | h
    · rw [h]
      decide
    · unfold isPlain isAlnum
      rw [isDecimal_of_mem h]
      simp

/-- The text of a port behind the last colon. -/
lemma partition_portText (port : Option ℕ) {host : Text} (hhost : ch ':' ∉ host) :
    partition (ch ':') (host ++ portText port) =
      (host, port.isSome, (port.map (digits 10)).getD []) := by
  cases port with
  | none =>
    unfold portText
    rw [List.append_nil, partition_of_not_mem hhost]
    rfl
  | some p => exact partition_append hhost _

section

variable {netloc : Text} {scheme path query fragment : Text}

/-- Without an at sign there is no user. -/
lemma userinfo_plain (hplain : ∀ c ∈ netloc, isPlain c = true) :
    (SplitUrl.mk scheme netloc path query fragment).userinfo = (none, netloc) := by
  have hat : ch '@' ∉ netloc := fun h => ne_of_isPlain (hplain _ h) (by decide) rfl
  have hall : ∀ c ∈ netloc.reverse, (decide (c ≠ ch '@')) = true := by
    intro c hc
    rw [decide_eq_true_iff]
    rintro rfl
    exact hat (List.mem_reverse.mp hc)
  unfold SplitUrl.userinfo
  rw [if_neg hat, List.takeWhile_eq_self_iff.mpr hall, List.reverse_reverse]

/-- The host and the port where there is no bracket. -/
lemma hostinfo_bare {host : Text} (port : Option ℕ) (hnetloc : netloc = host ++ portText port)
    (hplain : ∀ c ∈ netloc, isPlain c = true) (hbracket : ch '[' ∉ netloc)
    (hcolon : ch ':' ∉ host) :
    (SplitUrl.mk scheme netloc path query fragment).hostinfo =
      (host, (port.map (digits 10)).getD []) := by
  unfold SplitUrl.hostinfo
  rw [userinfo_plain hplain]
  dsimp only
  rw [partition_of_not_mem hbracket, hnetloc, partition_portText port hcolon]

/-- The host and the port where the host is in brackets. -/
lemma hostinfo_bracketed {host : Text} (port : Option ℕ)
    (hnetloc : netloc = ch '[' :: host ++ [ch ']'] ++ portText port)
    (hplain : ∀ c ∈ netloc, isPlain c = true) (hclose : ch ']' ∉ host) :
    (SplitUrl.mk scheme netloc path query fragment).hostinfo =
      (host, (port.map (digits 10)).getD []) := by
  have hopen : partition (ch '[') netloc = ([], true, host ++ ch ']' :: portText port) := by
    have hparts : netloc = [] ++ ch '[' :: (host ++ ch ']' :: portText port) := by
      rw [hnetloc]
      simp
    rw [hparts]
    exact partition_append List.not_mem_nil _
  have hport := @partition_portText port [] List.not_mem_nil
  rw [List.nil_append] at hport
  unfold SplitUrl.hostinfo
  rw [userinfo_plain hplain]
  dsimp only
  rw [hopen]
  dsimp only
  rw [partition_append hclose]
  dsimp only
  rw [hport]

end

/-! ### Canonical hosts -/

lemma isPlain_of_isLowerHex {c : CodePoint} (h : isLowerHex c = true) : isPlain c = true := by
  unfold isLowerHex at h
  rw [Bool.or_eq_true, decide_eq_true_iff] at h
  unfold isPlain isAlnum
  rcases h with h | h
  · simp [h]
  · have hletter : 97 ≤ c.1 ∧ c.1 ≤ 122 := by omega
    simp [hletter]

/-- Canonical text of version 4. -/
lemma four_plain (octets : {l : List (Fin 256) // l.length = 4}) {c : CodePoint}
    (hc : c ∈ (Address.four octets).str) :
    isPlain c = true ∧ (c = ch '.' ∨ isDecimal c = true) := by
  rcases mem_join hc with h | ⟨p, hp, h⟩
  · rw [h]
    exact ⟨by decide, .inl rfl⟩
  · obtain ⟨o, -, rfl⟩ := List.mem_map.mp hp
    have hdecimal := isDecimal_of_mem h
    refine ⟨?_, .inr hdecimal⟩
    unfold isPlain isAlnum
    simp [hdecimal]

/-- Canonical text of version 6. -/
lemma six_plain (l : {l : List (Fin 65536) // l.length = 8}) {c : CodePoint}
    (hc : c ∈ (Address.six l none).str) :
    isPlain c = true ∧ (c = ch ':' ∨ isLowerHex c = true) := by
  rcases mem_join hc with h | ⟨p, hp, h⟩
  · rw [h]
    exact ⟨by decide, .inl rfl⟩
  · have hhex := isLowerHex_of_mem_compress hp h
    exact ⟨isPlain_of_isLowerHex hhex, .inr hhex⟩

lemma isLabel_plain {t : Text} (h : isLabel t = true) {c : CodePoint} (hc : c ∈ t) :
    isAlnum c = true ∨ c = ch '-' := by
  unfold isLabel at h
  simp only [Bool.and_eq_true, List.all_eq_true] at h
  have hchar := h.2 c hc
  rw [Bool.or_eq_true, beq_iff_eq] at hchar
  exact hchar

lemma name_plain {labels : List Text} (h : ∀ l ∈ labels, isLabel l = true) {c : CodePoint}
    (hc : c ∈ join (ch '.') labels) : isAlnum c = true ∨ c = ch '-' ∨ c = ch '.' := by
  rcases mem_join hc with h' | ⟨p, hp, h'⟩
  · exact .inr (.inr h')
  · rcases isLabel_plain (h p hp) h' with h₁ | h₁
    · exact .inl h₁
    · exact .inr (.inl h₁)

lemma isLabel_ne_nil {t : Text} (h : isLabel t = true) : t ≠ [] := by
  unfold isLabel at h
  simp only [Bool.and_eq_true, decide_eq_true_iff] at h
  exact h.1.1.1.1

lemma splitOn_labels {labels : List Text} (hne : labels ≠ [])
    (h : ∀ l ∈ labels, isLabel l = true) : (join (ch '.') labels).splitOn (ch '.') = labels := by
  refine List.splitOn_intercalate _ (fun l hl hdot => ?_) hne
  rcases isLabel_plain (h l hl) hdot with h' | h'
  · exact absurd h' (by decide)
  · exact absurd h' (by decide)

lemma mapM_mem {α β : Type} {f : α → Option β} {l : List α} {bs : List β} (h : l.mapM f = some bs) :
    ∀ a ∈ l, ∃ b, f a = some b := by
  induction l generalizing bs with
  | nil => exact fun a ha => absurd ha List.not_mem_nil
  | cons a l ih =>
    rw [List.mapM_cons] at h
    obtain ⟨b, hb, h⟩ := Option.bind_eq_some_iff.mp h
    obtain ⟨bs', hbs, -⟩ := Option.bind_eq_some_iff.mp h
    intro a' ha'
    rcases List.mem_cons.mp ha' with rfl | ha'
    · exact ⟨b, hb⟩
    · exact ih hbs a' ha'

/-- A name whose last label is not numeric is no address. -/
lemma ipAddress_name {labels : List Text} (h : (Host.name labels).Canonical) :
    ipAddress (join (ch '.') labels) = none := by
  obtain ⟨hne, hlabels, -, hnumeric⟩ := h
  have hnot : ∀ {c : CodePoint}, isAlnum c = false → c ≠ ch '-' → c ≠ ch '.' →
      c ∉ join (ch '.') labels := by
    intro c h₁ h₂ h₃ hc
    rcases name_plain hlabels hc with h | h | h
    · rw [h₁] at h
      cases h
    · exact h₂ h
    · exact h₃ h
  have hfour : octets? (join (ch '.') labels) = none := by
    unfold octets?
    rw [splitOn_labels hne hlabels]
    cases hm : labels.mapM octet? with
    | none => rfl
    | some l =>
      exfalso
      have hlast : labels.getLastD [] ∈ labels := by
        rw [List.getLastD_eq_getLast?, List.getLast?_eq_some_getLast hne]
        exact List.getLast_mem hne
      obtain ⟨o, ho⟩ := mapM_mem hm _ hlast
      unfold octet? at ho
      split at ho
      next hgood =>
        have hnum : isNumeric (labels.getLastD []) = true := by
          unfold isNumeric
          rw [Bool.or_eq_true, Bool.and_eq_true, decide_eq_true_iff]
          exact .inl ⟨hgood.1, hgood.2.1⟩
        rw [hnum] at hnumeric
        cases hnumeric
      next => cases ho
  have hscope : scope? (join (ch '.') labels) = some (join (ch '.') labels, none) := by
    unfold scope?
    rw [partition_of_not_mem (hnot (by decide) (by decide) (by decide))]
  have hsix : hextets? (join (ch '.') labels) = none := by
    have hone : (join (ch '.') labels).splitOn (ch ':') = [join (ch '.') labels] :=
      List.splitOn_eq_singleton (hnot (by decide) (by decide) (by decide))
    unfold hextets?
    rw [hone]
    rfl
  unfold ipAddress
  rw [if_neg (hnot (by decide) (by decide) (by decide)), hfour, hscope]
  simp only [Option.bind_some, hsix, Option.map_none]

lemma canonicalHost_name {labels : List Text} (h : (Host.name labels).Canonical) :
    canonicalHost (join (ch '.') labels) = some (join (ch '.') labels) := by
  have hnone := ipAddress_name h
  obtain ⟨hne, hlabels, hlength, hnumeric⟩ := h
  unfold canonicalHost
  rw [hnone]
  dsimp only
  rw [splitOn_labels hne hlabels, hnumeric, if_neg (by decide), if_neg]
  rw [not_or, not_lt, Bool.not_eq_false, List.all_eq_true]
  exact ⟨hlength, hlabels⟩

lemma ipAddress_nil : ipAddress [] = none := rfl

lemma canonicalHost_address (a : Address) (h : ∀ l scope, a ≠ .six l (some scope)) :
    canonicalHost a.str = some (canonicalAddress a) := by
  unfold canonicalHost
  rw [ipAddress_str a h]

/-! ### Acceptance -/

lemma port_digits {s : SplitUrl} {port : Option ℕ}
    (hport : ∀ p, port = some p → p ≤ 65535)
    (hinfo : s.hostinfo.2 = (port.map (digits 10)).getD []) : s.port = some port := by
  unfold SplitUrl.port
  rw [hinfo]
  cases port with
  | none => rfl
  | some p =>
    have hall : (digits 10 p).all isDecimal = true := by
      rw [List.all_eq_true]
      exact fun c hc => isDecimal_of_mem hc
    rw [Option.map_some, Option.getD_some, if_neg (digits_ne_nil 10 p), if_pos hall,
      number?_digits (by omega) (by omega)]
    dsimp only
    rw [if_pos (hport p rfl)]

lemma hostname_plain {u : Unicode} {s : SplitUrl} {host port : Text}
    (hinfo : s.hostinfo = (host, port)) (hplain : ∀ c ∈ host, isPlain c = true) :
    s.hostname u = host := by
  have hpercent : ch '%' ∉ host := fun h => ne_of_isPlain (hplain _ h) (by decide) rfl
  unfold SplitUrl.hostname
  rw [hinfo]
  dsimp only
  rw [partition_of_not_mem hpercent]
  exact lowered_of_plain hplain

/-- How `urlsplit` takes an origin apart, and what the host comes to. -/
structure Taken (o : Origin) (host : Text) : Prop where
  plain : ∀ c ∈ o.netloc, isPlain c = true
  brackets : bracketsOk o.netloc = true
  info : (SplitUrl.mk o.scheme.text o.netloc [] [] []).hostinfo =
    (host, (o.port.map (digits 10)).getD [])
  hostPlain : ∀ c ∈ host, isPlain c = true
  hostNe : host ≠ []
  canonical : canonicalHost host = some o.host.text
  reached : TrustedOrigin.reached host = o.host.reached

namespace Taken

variable {o : Origin} {host : Text}

lemma hostname_eq (h : Taken o host) (u : Unicode) :
    (SplitUrl.mk o.scheme.text o.netloc [] [] []).hostname u = host :=
  hostname_plain h.info h.hostPlain

lemma port_eq (h : Taken o host) (hport : ∀ p, o.port = some p → p ≤ 65535) :
    (SplitUrl.mk o.scheme.text o.netloc [] [] []).port = some o.port := by
  refine port_digits hport ?_
  rw [h.info]

lemma accepted (h : Taken o host) (hcanonical : o.Canonical) (u : Unicode) :
    trustedOrigin u o.text o.scheme = some o.text := by
  have hname := h.hostname_eq u
  have hport := h.port_eq fun p hp => (hcanonical.port p hp).2.1
  have huser := @userinfo_plain o.netloc o.scheme.text [] [] [] h.plain
  have hpercent : ch '%' ∉ host := fun hc => ne_of_isPlain (h.hostPlain _ hc) (by decide) rfl
  have hgood : ¬ (o.netloc ≠ o.host.text ++ portText o.port ∨ o.port = some 0 ∨
      o.port = some o.scheme.defaultPort) := by
    rintro (h | h | h)
    · exact h rfl
    · have := (hcanonical.port 0 h).1
      omega
    · exact (hcanonical.port _ h).2.2 rfl
  unfold trustedOrigin Origin.text
  rw [urlsplit_origin o.scheme h.plain h.brackets, Option.bind_some]
  simp only [hname, SplitUrl.username, SplitUrl.password, huser, hport, Option.map_none,
    Option.bind_none, Option.getD_none, h.hostNe, h.canonical, Option.bind_some, if_neg hpercent,
    if_neg hgood, ne_eq, not_true_eq_false, or_self, if_false]

lemma denoted (h : Taken o host) (hcanonical : o.Canonical) (u : Unicode) :
    TrustedOrigin.denoted u o.text =
      some (o.scheme.text, o.host.reached, some (o.port.getD o.scheme.defaultPort)) := by
  have hname := h.hostname_eq u
  have hport := h.port_eq fun p hp => (hcanonical.port p hp).2.1
  have hown : ownPort o.scheme.text = some o.scheme.defaultPort := by
    cases o.scheme <;> rfl
  unfold TrustedOrigin.denoted Origin.text
  rw [urlsplit_origin o.scheme h.plain h.brackets, Option.bind_some, hport, Option.map_some, hname,
    h.reached, hown]
  cases o.port <;> rfl

end Taken

lemma host_text_name_ne_nil {labels : List Text} (h : (Host.name labels).Canonical) :
    join (ch '.') labels ≠ [] := by
  obtain ⟨hne, hlabels, -, -⟩ := h
  obtain ⟨l, rest, rfl⟩ := List.exists_cons_of_ne_nil hne
  have hl : l ≠ [] := isLabel_ne_nil (hlabels l List.mem_cons_self)
  intro hnil
  have hsplit := splitOn_labels hne hlabels
  rw [hnil] at hsplit
  have hcons : [[]] = l :: rest := hsplit
  cases hcons
  exact hl rfl

/-- A host without colons and brackets, before the text of a port. -/
lemma taken_bare (scheme : Scheme) {h : Host} {host : Text} (port : Option ℕ)
    (htext : h.text = host) (hhost : ∀ c ∈ host, isPlain c = true) (hcolon : ch ':' ∉ host)
    (hopen : ch '[' ∉ host) (hclose : ch ']' ∉ host) (hne : host ≠ [])
    (hcanonical : canonicalHost host = some host) (hreached : reached host = h.reached) :
    Taken ⟨scheme, h, port⟩ host := by
  subst htext
  have hportText : ∀ {c : CodePoint}, c ∈ portText port → c = ch ':' ∨ isDecimal c = true := by
    intro c hc
    cases port with
    | none => exact absurd hc List.not_mem_nil
    | some p =>
      rcases List.mem_cons.mp hc with h | h
      · exact .inl h
      · exact .inr (isDecimal_of_mem h)
  have hplain : ∀ c ∈ h.text ++ portText port, isPlain c = true := by
    intro c hc
    rcases List.mem_append.mp hc with h | h
    · exact hhost c h
    · exact portText_plain port c h
  have hno : ∀ {c : CodePoint}, c ∉ h.text → c ≠ ch ':' → isDecimal c = false →
      c ∉ h.text ++ portText port := by
    intro c h₁ h₂ h₃ hc
    rcases List.mem_append.mp hc with h | h
    · exact h₁ h
    · rcases hportText h with h | h
      · exact h₂ h
      · rw [h₃] at h
        cases h
  have hopen' := hno hopen (by decide) (by decide)
  have hclose' := hno hclose (by decide) (by decide)
  have hbrackets : bracketsOk (h.text ++ portText port) = true := by
    unfold bracketsOk
    rw [if_neg fun h => hopen' h.1]
    simp [hopen', hclose']
  exact ⟨hplain, hbrackets, hostinfo_bare port rfl hplain hopen' hcolon, hhost, hne, hcanonical,
    hreached⟩

/-- A canonical origin is taken apart as it was put together. -/
lemma exists_taken {o : Origin} (h : o.Canonical) : ∃ host, Taken o host := by
  obtain ⟨scheme, host, port⟩ := o
  obtain ⟨hhost, -⟩ := h
  cases host with
  | four octets =>
    have hchars : ∀ c ∈ (Address.four octets).str, c = ch '.' ∨ isDecimal c = true :=
      fun c hc => (four_plain octets hc).2
    have hno : ∀ {c : CodePoint}, c ≠ ch '.' → isDecimal c = false →
        c ∉ (Address.four octets).str := by
      intro c h₁ h₂ hc
      rcases hchars c hc with h | h
      · exact h₁ h
      · rw [h₂] at h
        cases h
    have hne : (Address.four octets).str ≠ [] := by
      intro hnil
      have hread := ipAddress_str (.four octets) nofun
      rw [hnil, ipAddress_nil] at hread
      cases hread
    have hreached : reached (Address.four octets).str = .address (.four octets) := by
      unfold reached
      rw [ipAddress_str (.four octets) nofun]
    exact ⟨_, taken_bare scheme port rfl (fun c hc => (four_plain octets hc).1)
      (hno (by decide) (by decide)) (hno (by decide) (by decide)) (hno (by decide) (by decide)) hne
      (canonicalHost_address (.four octets) nofun) hreached⟩
  | name labels =>
    have hlabels := hhost.2.1
    have hno : ∀ {c : CodePoint}, isAlnum c = false → c ≠ ch '-' → c ≠ ch '.' →
        c ∉ join (ch '.') labels := by
      intro c h₁ h₂ h₃ hc
      rcases name_plain hlabels hc with h | h | h
      · rw [h₁] at h
        cases h
      · exact h₂ h
      · exact h₃ h
    have hplain : ∀ c ∈ join (ch '.') labels, isPlain c = true := by
      intro c hc
      unfold isPlain
      rcases name_plain hlabels hc with h | h | h
      · simp [h]
      · rw [h]
        decide
      · rw [h]
        decide
    have hreached : reached (join (ch '.') labels) = .name (join (ch '.') labels) := by
      unfold reached
      rw [ipAddress_name hhost]
    exact ⟨_, taken_bare scheme port rfl hplain (hno (by decide) (by decide) (by decide))
      (hno (by decide) (by decide) (by decide)) (hno (by decide) (by decide) (by decide))
      (host_text_name_ne_nil hhost) (canonicalHost_name hhost) hreached⟩
  | six l =>
    have hno : ∀ {c : CodePoint}, c ≠ ch ':' → isLowerHex c = false →
        c ∉ (Address.six l none).str := by
      intro c h₁ h₂ hc
      rcases (six_plain l hc).2 with h | h
      · exact h₁ h
      · rw [h₂] at h
        cases h
    have hread := ipAddress_str (.six l none) (by intro l' scope h; cases h)
    have hne : (Address.six l none).str ≠ [] := by
      intro hnil
      rw [hnil, ipAddress_nil] at hread
      cases hread
    have hclose : ch ']' ∉ (Address.six l none).str := hno (by decide) (by decide)
    have hplain : ∀ c ∈ ch '[' :: (Address.six l none).str ++ [ch ']'] ++ portText port,
        isPlain c = true := by
      intro c hc
      simp only [List.cons_append, List.mem_cons, List.mem_append, List.not_mem_nil, or_false] at hc
      rcases hc with h | (h | h) | h
      · rw [h]
        decide
      · exact (six_plain l h).1
      · rw [h]
        decide
      · exact portText_plain port c h
    have hbrackets : bracketsOk (ch '[' :: (Address.six l none).str ++ [ch ']'] ++ portText port) =
        true := by
      have hopen : partition (ch '[')
          (ch '[' :: (Address.six l none).str ++ [ch ']'] ++ portText port) =
          ([], true, (Address.six l none).str ++ ch ']' :: portText port) := by
        have hparts : ch '[' :: (Address.six l none).str ++ [ch ']'] ++ portText port =
            [] ++ ch '[' :: ((Address.six l none).str ++ ch ']' :: portText port) := by
          simp
        rw [hparts]
        exact partition_append List.not_mem_nil _
      unfold bracketsOk
      rw [if_pos (by simp), hopen]
      dsimp only
      rw [partition_append hclose]
      dsimp only
      obtain ⟨c, rest, hcons⟩ := List.exists_cons_of_ne_nil hne
      have hc : c ≠ ch 'v' := by
        rintro rfl
        have hmem : ch 'v' ∈ (Address.six l none).str := by
          rw [hcons]
          exact List.mem_cons_self
        exact hno (by decide) (by decide) hmem
      unfold checkBracketedHost
      rw [hcons]
      dsimp only
      rw [if_neg hc, ← hcons, hread]
    have hreached : reached (Address.six l none).str = .address (.six l none) := by
      unfold reached
      rw [hread]
    exact ⟨(Address.six l none).str, hplain, hbrackets, hostinfo_bracketed port rfl hplain hclose,
      fun c hc => (six_plain l hc).1, hne,
      canonicalHost_address (.six l none) (by intro l' scope h; cases h), hreached⟩

/-- Canonical origins that denote the same are written the same. -/
lemma text_of_denoted {o o' : Origin} (h : o.Canonical) (h' : o'.Canonical)
    (hscheme : o.scheme.text = o'.scheme.text) (hhost : o.host.reached = o'.host.reached)
    (hport : o.port.getD o.scheme.defaultPort = o'.port.getD o'.scheme.defaultPort) :
    o.text = o'.text := by
  obtain ⟨scheme, host, port⟩ := o
  obtain ⟨scheme', host', port'⟩ := o'
  have hs : scheme = scheme' := by
    have htext : scheme.text = scheme'.text := hscheme
    cases scheme <;> cases scheme' <;> first | rfl | exact absurd htext (by decide)
  subst hs
  have hh : host.text = host'.text := by
    cases host with
    | four octets =>
      cases host' <;> cases hhost
      rfl
    | six l =>
      cases host' <;> cases hhost
      rfl
    | name labels =>
      cases host' with
      | name labels' => exact Reached.name.inj hhost
      | four octets => cases hhost
      | six l => cases hhost
  have hp : port = port' := by
    cases port with
    | none =>
      cases port' with
      | none => rfl
      | some p' => exact absurd hport.symm (h'.port p' rfl).2.2
    | some p =>
      cases port' with
      | none => exact absurd hport (h.port p rfl).2.2
      | some p' => exact congrArg some hport
  subst hp
  unfold Origin.text Origin.netloc
  rw [hh]

/-- **Which origins are trusted.** A value is accepted, as it is, just when it is the text of a
canonical origin of the scheme; and accepted values that denote the same scheme, host and port are
the same. -/
theorem trusted (u : Unicode) :
    (∀ (value v : Text) (scheme : Scheme), trustedOrigin u value scheme = some v ↔
      v = value ∧ ∃ o : Origin, o.Canonical ∧ o.scheme = scheme ∧ value = o.text) ∧
    ∀ (value value' : Text) (scheme scheme' : Scheme),
      trustedOrigin u value scheme = some value → trustedOrigin u value' scheme' = some value' →
      denoted u value ≠ none ∧ (denoted u value = denoted u value' → value = value') := by
  refine ⟨fun value v scheme => ⟨trustedOrigin_sound, ?_⟩,
    fun value value' scheme scheme' h h' => ?_⟩
  · rintro ⟨rfl, o, ho, rfl, rfl⟩
    obtain ⟨host, htaken⟩ := exists_taken ho
    exact htaken.accepted ho u
  · obtain ⟨-, o, ho, -, rfl⟩ := trustedOrigin_sound h
    obtain ⟨-, o', ho', -, rfl⟩ := trustedOrigin_sound h'
    obtain ⟨host, htaken⟩ := exists_taken ho
    obtain ⟨host', htaken'⟩ := exists_taken ho'
    have hdenoted := htaken.denoted ho u
    have hdenoted' := htaken'.denoted ho' u
    rw [hdenoted, hdenoted']
    refine ⟨Option.some_ne_none _, fun heq => ?_⟩
    have hpair := Option.some.inj heq
    have hport := congrArg (fun p => p.2.2) hpair
    exact text_of_denoted ho ho' (congrArg (fun p => p.1) hpair)
      (congrArg (fun p => p.2.1) hpair) (Option.some.inj hport)

end Vauxr.TrustedOrigin
