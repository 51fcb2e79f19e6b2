import Vauxr.Integration

/-!
Owner authority (`auth/owner.py`): the claim of an unclaimed server, the acknowledged token, the
token of the environment, and the sessions opened with either.
-/

namespace Vauxr

open Lib

namespace Owner

def claimSeconds : ℚ := 300

def sessionSeconds : ℚ := 30 * 24 * 60 * 60

structure Session where
  generation : String
  expires : ℚ
  csrf : String
  deriving DecidableEq

/-- A state of the given mode and generation that holds nothing else. -/
def fresh (mode : OwnerMode) (generation : String) : OwnerState :=
  ⟨mode, generation, none, none, none, none, none, none, none⟩

/-- `_save_authority`: a change of authority ends every session but keeps their origin. -/
def saveAuthority {α : Type} (m : Snapshot) (state : OwnerState) (result : Except Error α) :
    Final α :=
  let sessions := (m.owner.bind (·.sessions)).map fun s => { s with entries := Dict.empty }
  .save m (.owner { state with sessions := sessions.or state.sessions }) result

def initializeBody (c : Ctx) (m : Snapshot) : Except Error (Final Unit) :=
  let mode := m.owner.map (·.mode)
  match c.override with
  | some token =>
    let verifier := c.verifier token
    if mode ≠ some .environment || (m.owner.bind (·.verifier)) ≠ some verifier then
      .ok (saveAuthority m
        { fresh .environment c.draws.generation.1 with verifier := some verifier } (.ok ()))
    else .ok (.reply ())
  | none =>
    if mode = some .environment then
      .ok (saveAuthority m (fresh .recovery c.draws.generation.1) (.ok ()))
    else if mode.isNone then
      .ok (saveAuthority m (fresh .unclaimed c.draws.generation.1) (.ok ()))
    else .ok (.reply ())

/-- `bind_origin`: a change of transport drops every session. -/
def bindOriginBody (c : Ctx) (m : Snapshot) : Except Error (Final Unit) := do
  let state ← demand m.owner (.value "Invalid owner state")
  let origin := c.verifier c.origin.1
  if (state.sessions.map (·.origin)) ≠ some origin then
    return .save m (.owner { state with sessions := some ⟨origin, Dict.empty⟩ }) (.ok ())
  else return .reply ()

/-- `initialize`. The configured origin is never empty, so it is always bound. -/
def init (c : Ctx) : StoreM Unit :=
  Store.transaction do
    Store.perform c (initializeBody c)
    Store.perform c (bindOriginBody c)

def claimAgainMessage : String :=
  "Replace the authoritative OPERATOR_TOKEN environment value and restart; " ++
  "or remove it and restart, then run recover. Persisted rotation cannot override it."

def pendingMessage : String :=
  "An operator token is awaiting save acknowledgement; " ++
  "finish or discard that browser flow, or wait for it to expire"

def consoleClaimBody (c : Ctx) (recover : Bool) (m : Snapshot) :
    Except Error (Final String) := do
  refuse (c.override.isSome || m.owner.any (·.mode = .environment)) (.owner claimAgainMessage)
  refuse (!recover && (m.owner.bind (·.pending)).any (c.now < ·.expires)) (.owner pendingMessage)
  refuse (!recover && m.owner.any (·.mode ≠ .unclaimed))
    (.owner "Already claimed; use the explicit recover command")
  let code := c.draws.claim.1
  let mode := if recover then OwnerMode.recovery else .unclaimed
  return saveAuthority m
    { fresh mode c.draws.generation.1 with
      claim := some (c.verifier code)
      claimExpires := some (c.now + claimSeconds)
      claimAttempts := some 0 } (.ok code)

def consoleClaim (c : Ctx) (recover : Bool) : StoreM String :=
  Store.transaction (Store.perform c (consoleClaimBody c recover))

def rateBody (c : Ctx) (m : Snapshot) : Except Error (Final Unit) := do
  let attempts := ((m.owner.bind (·.attempts)).getD []).filter fun at_ => c.now - at_ < 60
  refuse (10 ≤ attempts.length) (.owner "rate_limited")
  let state ← demand m.owner (.value "Invalid owner state")
  return .save m (.owner { state with attempts := some (attempts ++ [c.now]) }) (.ok ())

def rateLimit (c : Ctx) : StoreM Unit := Store.transaction (Store.perform c (rateBody c))

/-- `_matches` -/
def isSecret (c : Ctx) (secret : Json) (digest : Option String) : Bool :=
  secret.str?.any fun s =>
    0 < s.length && s.length ≤ 512 && digest.any fun d => c.verifier s == d

structure Claimed where
  operatorToken : String
  acknowledgement : String
  deriving DecidableEq

def claimBody (c : Ctx) (code : Json) (m : Snapshot) : Except Error (Final Claimed) := do
  let state ← demand m.owner (.owner "invalid_claim")
  let valid := !state.mode.active && state.claimExpires.any (c.now < ·) &&
    state.claimAttempts.getD 0 < 5 && isSecret c code state.claim
  if valid then
    let token := "vx_op_" ++ c.draws.token.1
    let acknowledgement := c.draws.acknowledgement.1
    return .save m
      (.owner { state with
        claim := none
        pending := some
          ⟨c.verifier token, c.verifier acknowledgement, c.now + claimSeconds⟩ })
      (.ok ⟨token, acknowledgement⟩)
  else if state.claim.isSome then
    return .save m
      (.owner { state with claimAttempts := some (min 5 (state.claimAttempts.getD 0 + 1)) })
      (.error (.owner "invalid_claim"))
  else throw (.owner "invalid_claim")

def claim (c : Ctx) (code : Json) : StoreM Claimed :=
  Store.transaction (Store.perform c (claimBody c code))

def acknowledgeBody (c : Ctx) (acknowledgement saved : Json) (m : Snapshot) :
    Except Error (Final Unit) := do
  let state ← demand m.owner (.owner "invalid_acknowledgement")
  let pending ← demand state.pending (.owner "invalid_acknowledgement")
  refuse (saved.bool? ≠ some true || pending.expires ≤ c.now ||
      !isSecret c acknowledgement (some pending.ack))
    (.owner "invalid_acknowledgement")
  return saveAuthority m
    { fresh .generated state.generation with verifier := some pending.verifier } (.ok ())

def acknowledge (c : Ctx) (acknowledgement saved : Json) : StoreM Unit :=
  Store.transaction (Store.perform c (acknowledgeBody c acknowledgement saved))

/-- `_sessions`: the entries of the transport that is bound now. -/
def sessions (c : Ctx) (state : OwnerState) : Except Error Sessions :=
  demand (state.sessions.filter fun s => s.origin == c.verifier c.origin.1)
    (.owner "invalid_login")

def sessionOf (c : Ctx) (state : OwnerState) (cookie : String) (expires : ℚ) : Session :=
  ⟨state.generation, expires, c.platform.csrf cookie⟩

def loginBody (c : Ctx) (token : Json) (m : Snapshot) :
    Except Error (Final (String × Session)) := do
  let state ← demand m.owner (.owner "invalid_login")
  refuse (!state.mode.active || !isSecret c token state.verifier) (.owner "invalid_login")
  let s ← sessions c state
  let entries := s.entries.filter fun _ expires => c.now < expires
  refuse (100 ≤ entries.size) (.owner "rate_limited")
  let cookie := c.draws.cookie.1
  let expires := c.now + sessionSeconds
  return .save m
    (.owner { state with
      sessions := some { s with entries := entries.set (c.verifier cookie) expires } })
    (.ok (cookie, sessionOf c state cookie expires))

def login (c : Ctx) (token : Json) : StoreM (String × Session) :=
  Store.transaction (Store.perform c (loginBody c token))

/-- What a cookie stands for on a snapshot. -/
def sessionPrincipal (c : Ctx) (cookie : String) (m : Snapshot) : Option (Principal × Session) :=
  if cookie = "" || 512 < cookie.length then none
  else do
    let state ← m.owner
    let s ← state.sessions
    let expires ← s.entries.get? (c.verifier cookie)
    if state.mode.active && s.origin == c.verifier c.origin.1 && c.now < expires then
      some (⟨.owner, "owner", state.generation, ""⟩, sessionOf c state cookie expires)
    else none

def session (c : Ctx) (cookie : String) : StoreM (Option (Principal × Session)) :=
  Store.transaction (Store.perform c fun m => .ok (.reply (sessionPrincipal c cookie m)))

def logoutBody (c : Ctx) (cookie : String) (m : Snapshot) : Except Error (Final Unit) := do
  let state ← demand m.owner (.owner "invalid_login")
  let s ← sessions c state
  if (s.entries.get? (c.verifier cookie)).isSome then
    return .save m
      (.owner { state with
        sessions := some { s with entries := s.entries.erase (c.verifier cookie) } }) (.ok ())
  else return .reply ()

def logout (c : Ctx) (cookie : String) : StoreM Unit :=
  Store.transaction (Store.perform c (logoutBody c cookie))

end Owner

end Vauxr
