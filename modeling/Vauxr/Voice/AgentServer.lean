import Vauxr.Agents
import Vauxr.Lib.Run

/-!
The agent socket and the response listeners of device turns (`agents/server.py`).

A turn sends its transcript to the active agent and registers a listener under its device. The
agent starts a run for a transcript and answers with messages that name the run. Between any
two of these the selection, the sockets and the credentials may change.
-/

namespace Vauxr.Voice

open Vauxr.Lib

namespace AgentServer

/-- A connection, told from others by its key. -/
structure Conn where
  key : ℕ
  agent : Option Agents.Agent
  principal : Option Principal
  deriving DecidableEq

/-- A realtime operation that waits for its result. -/
structure Pending where
  conn : Conn
  deviceId : String
  future : Option (Except Unit (List (String × Json)))

/-- Listeners are told apart by the turn that registered them. -/
structure State where
  realtimeRequests : Dict String Pending
  connections : Dict String Conn
  responseListeners : Dict String ℕ
  responseAgents : Dict String String

/-- What the server reads from elsewhere: the agent registry, the credentials, the sockets. -/
structure Env where
  active : Option Agents.Agent
  current : List Principal
  closed : List ℕ

def Env.isCurrent (env : Env) (principal : Option Principal) : Bool :=
  principal.any (· ∈ env.current)

inductive Event
  | delta (text : String)
  | finished
  | failed (message : Json)

/-- A call of a listener. -/
structure Delivery where
  turn : ℕ
  runId : String
  event : Event

/-- What comes of a message. A refusal closes the socket. -/
inductive Answer
  | refused (code : String)
  | resolved
  | ignored
  | delivered (d : Delivery)

/-- The connection of the active agent, where a transcript can go. -/
def route (env : Env) (s : State) : Option Conn := do
  let active ← env.active
  if active.type = .openclawDirect then none
  else
    let conn ← s.connections.get? active.id
    if conn.key ∈ env.closed || !env.isCurrent conn.principal then none else some conn

def sendTranscript (env : Env) (s : State) : Bool := (route env s).isSome

def addResponseListener (env : Env) (s : State) (deviceId : String) (listener : ℕ) : State :=
  { s with
    responseListeners := s.responseListeners.set deviceId listener
    responseAgents := s.responseAgents.set deviceId (env.active.elim "" (·.id)) }

/-- A turn that finishes leaves the listener of a newer one alone. -/
def removeResponseListener (s : State) (deviceId : String) (listener : ℕ) : State :=
  if s.responseListeners.get? deviceId = some listener then
    { s with
      responseListeners := s.responseListeners.erase deviceId
      responseAgents := s.responseAgents.erase deviceId }
  else s

def messageTypes : List String :=
  ["agent.response.delta", "agent.response.end", "agent.response.error",
    "agent.realtime.result"]

/-- The connection of the active agent, with a credential that still holds, and no other. -/
def authorized (env : Env) (s : State) (conn : Conn) (msg : Dict String Json) : Bool :=
  env.isCurrent conn.principal &&
    Policy.allowed conn.principal .voiceResponse none false &&
    conn.agent.any (fun agent =>
      conn.principal.any (·.subject == agent.id) &&
        env.active.any (·.id == agent.id) &&
        decide (s.connections.get? agent.id = some conn)) &&
    ((msg.get? "type").bind Json.str?).any (· ∈ messageTypes)

/-- `agent.realtime.result`: the first result of a request of this connection counts. -/
def realtimeResult (s : State) (conn : Conn) (msg : Dict String Json) : State × Answer :=
  let requestId := ((msg.get? "requestId").getD (.str "")).str?
  match requestId.bind s.realtimeRequests.get?, requestId with
  | some pending, some requestId =>
    if pending.conn = conn ∧ (msg.get? "deviceId").bind Json.str? = some pending.deviceId ∧
        pending.future.isNone then
      let settle (future : Except Unit (List (String × Json))) : State × Answer :=
        ({ s with
            realtimeRequests :=
              s.realtimeRequests.set requestId { pending with future := some future } }, .resolved)
      if (msg.get? "error").any Json.truthy then settle (.error ())
      else
        match msg.get? "result" with
        | some (.obj result) => settle (.ok result)
        | _ => (s, .ignored)
    else (s, .ignored)
  | _, _ => (s, .ignored)

/-- The device, the run and the event that a response message names. -/
def response? (msg : Dict String Json) : Option (String × String × Option Event) := do
  let deviceId ← (msg.get? "deviceId").bind Json.str?
  let runId ← (msg.get? "runId").bind Json.str?
  let event := match (msg.get? "type").bind Json.str? with
    | some "agent.response.delta" => ((msg.get? "text").bind Json.str?).map .delta
    | some "agent.response.end" => some .finished
    | some "agent.response.error" =>
      some (.failed ((msg.get? "message").getD (.str "Agent error")))
    | _ => none
  return (deviceId, runId, event)

/-- `_handle_authenticated_message`. The listener is found by the device alone. -/
def handleAuthenticatedMessage (env : Env) (s : State) (conn : Conn) (msg : Dict String Json) :
    State × Answer :=
  if !authorized env s conn msg then
    (s, .refused (if env.isCurrent conn.principal then "FORBIDDEN" else "UNAUTHORIZED"))
  else if (msg.get? "type").bind Json.str? = some "agent.realtime.result" then
    realtimeResult s conn msg
  else
    match response? msg with
    | none => (s, .ignored)
    | some (deviceId, runId, event) =>
      match s.responseListeners.get? deviceId with
      | none => (s, .ignored)
      | some listener =>
        if s.responseAgents.get? deviceId ≠ conn.agent.map (·.id) then (s, .ignored)
        else
          match event with
          | none => (s, .ignored)
          | some event => (s, .delivered ⟨listener, runId, event⟩)

end AgentServer

end Vauxr.Voice
