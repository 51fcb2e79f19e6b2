import Mathlib

/-!
The peers of one device (`RealtimeManager` and `handle_offer` in `realtime/session.py`): offers,
wakes, startups and sessions, and who closes what.

A step lasts from one point of suspension to the next. The tables of the manager are read at the
key of the device; `_wake_generations` and `_device_wakes` are one field, as `begin_startup` writes
both. The pre-roll over the WebSocket, whose `begin_preroll` writes the first alone, what an offer
does with its SDP, and what a session does between its start and its close but for when it ends,
are left out. The request handler runs the connection callback within
`handle_web_request`, and logs what it raises.
-/

namespace Vauxr.Peers

/-- A startup with its id; `wake` is the wake that it was begun with. -/
structure Startup where
  id : ℤ
  wake : ℕ
  closed : Bool

/-- A `RealtimeSession`: its `_startup`, its `_device_wake`, and whether `close` has been called. -/
structure Session where
  startup : Option ℕ
  deviceWake : Option ℕ
  closed : Bool

/-- Where an offer is suspended: in line for the lock; in `handle_web_request`, before the callback,
in it, or behind it; in the disconnect of a peer that was answered; or nowhere any more. `error` is
whether `startup_error` is set. -/
inductive Stage
  | inLine
  | handling
  | refusing
  | closingOld (session : ℕ)
  | starting (session : ℕ)
  | closingOwn (session : ℕ) (error : Bool)
  | answering (error : Bool)
  | retiring
  | ended

/-- A call of `handle_offer`, with the wake and the startup that it found. -/
structure Offer where
  wake : Option ℕ
  startup : Option ℕ
  stage : Stage

/-- A call of `_stop_wake` that waits for a session to close, with what it has read before. -/
structure Stop where
  session : ℕ
  wake : Option ℕ
  ws : ℕ
  waits : Bool

/-- A call of `close` by the session itself. -/
structure Closer where
  session : ℕ
  waits : Bool

/-- `clock` is the number of the next wake, `ws` that of the socket of the device. The head of the
line holds the lock of the offers, or is the next to have it. -/
structure State where
  wake : Option ℕ
  startup : Option ℕ
  live : Bool
  session : Option ℕ
  startups : List Startup
  sessions : List Session
  line : List ℕ
  offers : List Offer
  stops : List Stop
  closers : List Closer
  ws : ℕ
  clock : ℕ

inductive Task
  | offer (i : ℕ)
  | stop (i : ℕ)
  | closer (i : ℕ)

/-- How what a task waits for ends: it returns, it raises, or it returns without what was asked for
(no callback, no answer). -/
inductive Outcome
  | ok | skips | fails
  deriving DecidableEq

/-- `stop` is `stop`, or `abort_wake` with the wake that is expected. -/
inductive Action
  | beginStartup (id : ℤ) (live : Bool)
  | armLive
  | reconnect
  | failStartup (c : ℕ)
  | offer (startupId : Option ℤ)
  | stop (expected : Option (Option ℕ))
  | close (k : ℕ)
  | resume (t : Task) (outcome : Outcome)

namespace State

def start : State :=
  { wake := none, startup := none, live := false, session := none, startups := [], sessions := [],
    line := [], offers := [], stops := [], closers := [], ws := 0, clock := 0 }

def setOffer (s : State) (i : ℕ) (stage : Stage) : State :=
  { s with offers := s.offers.modify i fun o => { o with stage } }

/-- An offer returns or raises, and releases the lock. -/
def endOffer (s : State) (i : ℕ) : State :=
  { s.setOffer i .ended with line := s.line.tail }

def closeStartup (s : State) : Option ℕ → State
  | none => s
  | some c => { s with startups := s.startups.modify c fun r => { r with closed := true } }

/-- `close` of a session, up to its teardowns. -/
def closeSession (s : State) (k : ℕ) : State :=
  match s.sessions[k]? with
  | some ⟨startup, deviceWake, false⟩ =>
    { s with sessions := s.sessions.set k ⟨startup, deviceWake, true⟩ }.closeStartup startup
  | _ => s

/-- `close` of a session, behind its teardowns. -/
def sessionClosed (s : State) (k : ℕ) : State :=
  match s.sessions[k]? with
  | some r =>
    { s with
      session := if s.session = some k then none else s.session
      startup := if s.startup = r.startup then none else s.startup }
  | none => s

def canAcceptOffer (s : State) : Bool := s.session.isSome || s.live || s.wake.isSome

/-- The session of the device belongs to the startup of the device. -/
def connected (s : State) : Bool :=
  s.startup.isSome && (s.session.bind (s.sessions[·]?)).any fun r => r.startup = s.startup

/-- An offer has the lock. -/
def locked (s : State) (i : ℕ) (o : Offer) : State :=
  if s.wake ≠ o.wake ∨ s.canAcceptOffer = false ∨ s.connected then s.endOffer i
  else s.setOffer i .handling

def openSession (s : State) (i : ℕ) : State :=
  let session : Session := ⟨s.startup, s.wake, false⟩
  { s with
    sessions := s.sessions ++ [session]
    session := some s.sessions.length }.setOffer i (.starting s.sessions.length)

/-- `_on_connection`, up to its first suspension. -/
def onConnection (s : State) (i : ℕ) (o : Offer) : State :=
  if s.wake ≠ o.wake ∨ s.canAcceptOffer = false then s.setOffer i .refusing
  else
    match s.session with
    | none => s.openSession i
    | some k =>
      if s.connected then s.setOffer i .refusing
      else (s.closeSession k).setOffer i (.closingOld k)

/-- The start of the session of an offer ends. -/
def started (s : State) (i : ℕ) (o : Offer) (k : ℕ) : Outcome → State
  | .ok =>
    if s.wake ≠ o.wake ∨ s.canAcceptOffer = false then
      (s.closeSession k).setOffer i (.closingOwn k false)
    else { s with session := some k }.setOffer i (.answering false)
  | _ =>
    ((s.closeStartup (s.sessions[k]?.bind Session.startup)).closeSession k).setOffer i
      (.closingOwn k true)

def startupClosed (s : State) (c : ℕ) : Bool := s.startups[c]?.any Startup.closed

/-- `handle_web_request` has returned. -/
def answered (s : State) (i : ℕ) (o : Offer) (error : Bool) (outcome : Outcome) : State :=
  if outcome = .ok ∧ o.startup.any fun c => error || s.startupClosed c || s.wake ≠ o.wake then
    s.setOffer i .retiring
  else s.endOffer i

/-- An offer goes on. -/
def resumeOffer (s : State) (i : ℕ) (o : Offer) (outcome : Outcome) : State :=
  match o.stage with
  | .inLine => if s.line.head? = some i then s.locked i o else s
  | .handling =>
    match outcome with
    | .ok => s.onConnection i o
    | .skips => s.setOffer i (.answering false)
    | .fails => s.endOffer i
  | .refusing => s.setOffer i (.answering false)
  | .closingOld k =>
    if outcome = .ok then
      let s := s.sessionClosed k
      if s.wake ≠ o.wake then s.setOffer i .refusing else s.openSession i
    else s.setOffer i (.answering false)
  | .starting k => s.started i o k outcome
  | .closingOwn k error =>
    (if outcome = .ok then s.sessionClosed k else s).setOffer i (.answering error)
  | .answering error => s.answered i o error outcome
  | .retiring => s.endOffer i
  | .ended => s

/-- What `_stop_wake` takes out. -/
def retire (s : State) : State := { s with wake := none, startup := none, live := false }

/-- `_stop_wake`, up to the close of the session. -/
def stop (s : State) (expected : Option (Option ℕ)) : State :=
  if expected.any (· ≠ s.wake) then s
  else
    let s := s.closeStartup s.startup
    match s.session with
    | none => s.retire
    | some k =>
      let s := s.closeSession k
      { s with stops := s.stops ++ [⟨k, s.wake, s.ws, true⟩] }

/-- `_stop_wake`, behind the close of the session. -/
def resumeStop (s : State) (j : ℕ) (r : Stop) (outcome : Outcome) : State :=
  let s := { s with stops := s.stops.set j { r with waits := false } }
  if outcome = .ok then
    let s := s.sessionClosed r.session
    if (s.session ≠ none ∧ s.session ≠ some r.session) ∨ s.wake ≠ r.wake ∨ s.ws ≠ r.ws then s
    else s.retire
  else s

/-- `handle_offer`, up to the line for the lock. -/
def offer (s : State) (startupId : Option ℤ) : State :=
  let mismatch := (s.startup.bind (s.startups[·]?)).any fun r => r.closed || startupId ≠ some r.id
  if mismatch then s
  else
    let o : Offer := ⟨s.wake, s.startup, .inLine⟩
    let s' :=
      { s with offers := s.offers ++ [o], line := s.line ++ [s.offers.length] }
    if s.line = [] then s'.locked s.offers.length o else s'

def beginStartup (s : State) (id : ℤ) (live : Bool) : State :=
  { s.closeStartup s.startup with
    wake := some s.clock
    startup := some s.startups.length
    live := live
    startups := (s.closeStartup s.startup).startups ++ [⟨id, s.clock, false⟩]
    clock := s.clock + 1 }

def step (s : State) : Action → State
  | .beginStartup id live => s.beginStartup id live
  | .armLive => { s with live := true }
  | .reconnect => { s with ws := s.ws + 1 }
  | .failStartup c => s.closeStartup (some c)
  | .offer startupId => s.offer startupId
  | .stop expected => s.stop expected
  | .close k =>
    if k < s.sessions.length then
      let s := s.closeSession k
      { s with closers := s.closers ++ [⟨k, true⟩] }
    else s
  | .resume (.offer i) outcome =>
    match s.offers[i]? with
    | some o => s.resumeOffer i o outcome
    | none => s
  | .resume (.stop j) outcome =>
    match s.stops[j]? with
    | some r => if r.waits then s.resumeStop j r outcome else s
    | none => s
  | .resume (.closer j) outcome =>
    match s.closers[j]? with
    | some r =>
      if r.waits then
        let s := { s with closers := s.closers.set j { r with waits := false } }
        if outcome = .ok then s.sessionClosed r.session else s
      else s
    | none => s

end State

end Vauxr.Peers
