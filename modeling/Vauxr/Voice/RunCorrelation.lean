import Vauxr.Voice.AgentServer

/-!
Runs of the agent and the turns whose listeners hear them.

The server finds a listener by its device and hands the run id through, so a run is heard by
whichever turn of the device is listening. What the listeners hear is kept in a log.
-/

namespace Vauxr.Voice

open Vauxr.Lib

namespace AgentServer

/-- The server, its agent, and the turns. `transcripts` are the turns whose transcripts went out,
with their devices, the latest first; `runs` names the run that the agent started for each. -/
structure World where
  env : Env
  server : State
  turns : ℕ
  transcripts : List (String × ℕ)
  runs : Dict ℕ String
  log : List Delivery

inductive Action
  /-- The selection, the credentials or the sockets change. -/
  | environment (env : Env)
  /-- The end of `_handle_auth`; the connection it replaces is closed already. -/
  | connect (conn : Conn)
  /-- The socket closes, or its credential is revoked. -/
  | disconnect (conn : Conn)
  | realtimeRequest (requestId : String) (pending : Pending)
  | realtimeCancel (requestId : String)
  /-- `_route_via_agent`, up to its listener. -/
  | routeViaAgent (deviceId : String)
  /-- `_run_turn` of a realtime session, which listens before it sends. -/
  | runTurn (deviceId : String)
  /-- A turn of the device finishes: it is answered, aborted or timed out. -/
  | finish (deviceId : String) (turn : ℕ)
  /-- The agent has received the transcript of a turn. -/
  | startRun (turn : ℕ) (runId : String)
  | message (conn : Conn) (msg : Dict String Json)

def connect (env : Env) (s : State) (conn : Conn) : State :=
  match conn.agent with
  | some agent =>
    if env.isCurrent conn.principal && conn.key ∉ env.closed then
      { s with connections := s.connections.set agent.id conn }
    else s
  | none => s

/-- Only the connection that is still the agent's own is taken out. -/
def disconnect (s : State) (conn : Conn) : State :=
  match conn.agent with
  | some agent =>
    if s.connections.get? agent.id = some conn then
      { s with connections := s.connections.erase agent.id }
    else s
  | none => s

def routeViaAgent (w : World) (deviceId : String) : World :=
  if sendTranscript w.env w.server then
    { w with
      server := addResponseListener w.env w.server deviceId w.turns
      turns := w.turns + 1
      transcripts := (deviceId, w.turns) :: w.transcripts }
  else { w with turns := w.turns + 1 }

def runTurn (w : World) (deviceId : String) : World :=
  let server := addResponseListener w.env w.server deviceId w.turns
  if sendTranscript w.env server then
    { w with
      server
      turns := w.turns + 1
      transcripts := (deviceId, w.turns) :: w.transcripts }
  else
    { w with
      server := removeResponseListener server deviceId w.turns
      turns := w.turns + 1 }

def message (w : World) (conn : Conn) (msg : Dict String Json) : World :=
  let (server, answer) := handleAuthenticatedMessage w.env w.server conn msg
  match answer with
  | .delivered d => { w with server, log := d :: w.log }
  | _ => { w with server }

def step (w : World) : Action → World
  | .environment env => { w with env }
  | .connect conn => { w with server := connect w.env w.server conn }
  | .disconnect conn => { w with server := disconnect w.server conn }
  | .realtimeRequest requestId pending =>
    { w with server := { w.server with
        realtimeRequests := w.server.realtimeRequests.set requestId pending } }
  | .realtimeCancel requestId =>
    { w with server := { w.server with
        realtimeRequests := w.server.realtimeRequests.erase requestId } }
  | .routeViaAgent deviceId => routeViaAgent w deviceId
  | .runTurn deviceId => runTurn w deviceId
  | .finish deviceId turn =>
    { w with server := removeResponseListener w.server deviceId turn }
  | .startRun turn runId =>
    if turn ∈ w.transcripts.map Prod.snd ∧ w.runs.get? turn = none then
      { w with runs := w.runs.set turn runId }
    else w
  | .message conn msg => message w conn msg

def start (env : Env) : World :=
  ⟨env, ⟨Dict.empty, Dict.empty, Dict.empty, Dict.empty⟩, 0, [], Dict.empty, []⟩

/-- A run is heard by nobody but the turn it was started for. -/
def World.Heard (w : World) : Prop := ∀ d ∈ w.log, w.runs.get? d.turn = some d.runId

/-- The latest turn of a device whose transcript went out. -/
def World.latest (w : World) (deviceId : String) : Option ℕ :=
  (w.transcripts.find? fun e => e.1 == deviceId).map Prod.snd

variable {w : World} {conn : Conn} {msg : Dict String Json}

/-- Runs have different names, each is heard by its own turn, and whoever listens is the latest turn
of the device. -/
structure World.Ordered (w : World) : Prop where
  listens : ∀ deviceId listener,
    w.server.responseListeners.get? deviceId = some listener → w.latest deviceId = some listener
  named : ∀ t t' runId, w.runs.get? t = some runId → w.runs.get? t' = some runId → t = t'
  heard : w.Heard

/-- A step that neither starts a run nor delivers, and lets nobody listen. -/
lemma World.Ordered.congr {w' : World} (h : w.Ordered) (hr : w'.runs = w.runs)
    (hl : w'.log = w.log) (ht : w'.transcripts = w.transcripts)
    (hs : ∀ d l, w'.server.responseListeners.get? d = some l →
      w.server.responseListeners.get? d = some l) : w'.Ordered where
  listens d l hget := by
    have hlatest := h.listens d l (hs d l hget)
    unfold World.latest at hlatest ⊢
    rwa [ht]
  named := hr ▸ h.named
  heard d hd := hr ▸ h.heard d (hl ▸ hd)

/-- A turn that begins listens in the place of the others. -/
lemma World.Ordered.begun (h : w.Ordered) (deviceId : String) :
    World.Ordered
      { w with
        server := addResponseListener w.env w.server deviceId w.turns
        turns := w.turns + 1
        transcripts := (deviceId, w.turns) :: w.transcripts } where
  listens d l hget := by
    simp only [addResponseListener, Dict.get?_set] at hget
    by_cases hd : deviceId = d
    · subst hd
      rw [if_pos rfl] at hget
      simpa [World.latest] using hget
    · rw [if_neg hd] at hget
      simpa [World.latest, hd] using h.listens d l hget
  named := h.named
  heard := h.heard

/-- What `remove_response_listener` leaves was there. -/
lemma removeResponseListener_le {s : State} {deviceId d : String} {turn l : ℕ}
    (h : (removeResponseListener s deviceId turn).responseListeners.get? d = some l) :
    s.responseListeners.get? d = some l := by
  unfold removeResponseListener at h
  split at h
  · rw [Dict.get?_erase] at h
    split at h
    · cases h
    · exact h
  · exact h

/-- A turn that cannot send takes its listener out again. -/
lemma World.Ordered.unsent (h : w.Ordered) (deviceId : String) :
    World.Ordered
      { w with
        server := removeResponseListener (addResponseListener w.env w.server deviceId w.turns)
          deviceId w.turns
        turns := w.turns + 1 } := by
  refine h.congr rfl rfl rfl fun d l hget => ?_
  by_cases hd : deviceId = d
  · subst hd
    simp [removeResponseListener, addResponseListener] at hget
  · simpa [addResponseListener, hd] using removeResponseListener_le hget

section Sample

def sampleAgent : Agents.Agent := ⟨"agent", "Agent", .openclaw, "now", none, true⟩

def sampleConn : Conn := ⟨0, some sampleAgent, some ⟨.integration, "agent", "c", "g"⟩⟩

def sampleDelta (runId : String) : Dict String Json :=
  (((Dict.empty.set "type" (.str "agent.response.delta")).set "deviceId" (.str "speaker")).set
    "runId" (.str runId)).set "text" (.str "hello")

/-- Two turns, each with its own run: the agent speaks in the first, and the second has begun. -/
def twoTurns : List Action :=
  [.connect sampleConn, .routeViaAgent "speaker", .startRun 0 "a",
    .message sampleConn (sampleDelta "a"), .finish "speaker" 0, .routeViaAgent "speaker",
    .startRun 1 "b"]

end Sample

end AgentServer

end Vauxr.Voice
