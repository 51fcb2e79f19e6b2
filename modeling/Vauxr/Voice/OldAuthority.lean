import Mathlib
import Vauxr.Lib.Run
import Vauxr.Voice.Server

/-!
The teardown callbacks that are retained for the credentials of a device: of its sockets
(`_authorize_message` in `server.py`), of an offer that was admitted and of one that was not
(`_offer_handler` in `realtime/app.py`).

A callback ends in `RealtimeManager.stop`, and is attempted again until it succeeds. Some of them
name only the device; so what an attempt meets is the media of whoever armed it last.
-/

namespace Vauxr.Voice

open Vauxr.Lib

/-- When a credential was issued and a socket registered, in the order of their device. -/
structure Age where
  credential : ℕ
  socket : ℕ
  deriving DecidableEq

def Age.newer (a b : Age) : Bool := b.credential < a.credential || b.socket < a.socket

/-- What a callback was retained for. A socket has the list `teardown` from its first revocation on;
kept of it is whether the stop of its media is in it. The key is that of `_media_authorities`. -/
inductive Origin
  | socket (ws : ℕ) (teardown : Option Bool)
  | offer (key : ℕ)
  | failedOffer

structure Callback where
  deviceId : String
  age : Age
  credentials : List ℕ
  origin : Origin
  retiring : Bool

/-- The realtime manager, the sockets of the registry and the retained callbacks. `links` holds the
startup of a session; `stops` the attempts that wait for a session to close, with the callback and
what `_stop_wake` has captured. The ages tell who armed what, and `harms` is a record of the run:
who closed what, by its age. -/
structure Retaining where
  manager : Manager
  sockets : Dict String ℕ
  retired : List ℕ
  mediaAuthorities : Dict String ℕ
  callbacks : Dict ℕ Callback
  stops : Dict ℕ (Callback × Captured)
  links : Dict ℕ ℕ
  sessionAge : Dict ℕ Age
  startupAge : Dict ℕ Age
  wakeAge : Dict ℕ Age
  liveAge : Dict String Age
  next : ℕ
  harms : List (Age × Age)

namespace Retaining

def init : Retaining where
  manager := .empty
  sockets := Dict.empty
  retired := []
  mediaAuthorities := Dict.empty
  callbacks := Dict.empty
  stops := Dict.empty
  links := Dict.empty
  sessionAge := Dict.empty
  startupAge := Dict.empty
  wakeAge := Dict.empty
  liveAge := Dict.empty
  next := 0
  harms := []

/-! ### The media of a device, by age -/

def startupAges (s : Retaining) (deviceId : String) : List Age :=
  ((s.manager.startups.get? deviceId).bind s.startupAge.get?).toList

def wakeAges (s : Retaining) (deviceId : String) : List Age :=
  ((s.manager.wakes.get? deviceId).bind s.wakeAge.get?).toList

def liveAges (s : Retaining) (deviceId : String) : List Age :=
  if deviceId ∈ s.manager.liveDevices then (s.liveAge.get? deviceId).toList else []

/-- A session goes with its startup. -/
def sessionAges (s : Retaining) (deviceId : String) : List Age :=
  match s.manager.session? deviceId with
  | some key => (s.sessionAge.get? key).toList ++ ((s.links.get? key).bind s.startupAge.get?).toList
  | none => []

/-- A callback closes media. -/
def harm (s : Retaining) (own : Age) (ages : List Age) : Retaining :=
  { s with harms := ages.map (own, ·) ++ s.harms }

/-! ### What sockets and offers do -/

/-- `begin_startup`, on behalf of a socket. -/
def arm (s : Retaining) (deviceId : String) (age : Age) (id : ℤ) (live : Bool) : Retaining :=
  let startup : Startup := ⟨id, age.socket, deviceId, false, 0⟩
  { s with
    manager := s.manager.beginStartup deviceId (s.next + 1) s.next startup live
    startupAge := s.startupAge.set s.next age
    wakeAge := s.wakeAge.set (s.next + 1) age
    liveAge := if live then s.liveAge.set deviceId age else s.liveAge
    next := s.next + 2 }

/-- `realtime.start` in live mode. -/
def armLive (s : Retaining) (deviceId : String) (age : Age) : Retaining :=
  { s with
    manager := { s.manager with liveDevices := deviceId :: s.manager.liveDevices }
    liveAge := s.liveAge.set deviceId age }

/-- `handle_offer` puts a new session in place. -/
def openSession (s : Retaining) (deviceId : String) (age : Age) (live : Bool) : Retaining :=
  { s with
    manager := { s.manager with sessions := s.manager.sessions.set deviceId ⟨s.next, live⟩ }
    links := match s.manager.startups.get? deviceId with
      | some key => s.links.set s.next key
      | none => s.links
    sessionAge := s.sessionAge.set s.next age
    next := s.next + 1 }

/-- The end of `RealtimeSession.close`. -/
def sessionClosed (s : Retaining) (deviceId : String) (session : Option ℕ) : Retaining :=
  let startups := if s.manager.startups.get? deviceId ≠ none ∧
      s.manager.startups.get? deviceId = session.bind s.links.get? then
    s.manager.startups.erase deviceId else s.manager.startups
  { s with manager := { s.manager.forget deviceId session with startups } }

/-- The handlers of a socket stop its own wake. -/
def endWake (s : Retaining) (deviceId : String) : Retaining :=
  { s with manager := (s.manager.closeStartup deviceId).retire deviceId }

/-! ### Retained callbacks -/

def retain (s : Retaining) (callback : Callback) : Retaining :=
  { s with callbacks := s.callbacks.set s.next callback, next := s.next + 1 }

def release (s : Retaining) (id : ℕ) : Retaining :=
  match s.callbacks.get? id with
  | some callback =>
    if callback.retiring then s else { s with callbacks := s.callbacks.erase id }
  | none => s

/-- A socket is authorized for the first time. -/
def bindSocket (s : Retaining) (deviceId : String) (age : Age) : Retaining :=
  s.retain ⟨deviceId, age, [age.credential], .socket age.socket none, false⟩

/-- An offer is answered; the callback of the offer before it is released. -/
def admitOffer (s : Retaining) (deviceId : String) (age : Age) (dependencies : List ℕ) : Retaining :=
  let s := match s.mediaAuthorities.get? deviceId with
    | some previous => s.release previous
    | none => s
  { s with mediaAuthorities := s.mediaAuthorities.set deviceId s.next }.retain
    ⟨deviceId, age, age.credential :: dependencies, .offer s.next, false⟩

/-- An offer lost its authority while it was handled. -/
def refuseOffer (s : Retaining) (deviceId : String) (age : Age) (dependencies : List ℕ) :
    Retaining :=
  s.retain ⟨deviceId, age, age.credential :: dependencies, .failedOffer, false⟩

def lapsed (s : Retaining) (callback : Callback) : Bool :=
  callback.credentials.any (· ∈ s.retired)

/-- `close_revoked` of a socket, when it is called first. -/
def revokeSocket (s : Retaining) (id : ℕ) (realtime : Bool) : Retaining :=
  match s.callbacks.get? id with
  | some callback =>
    match callback.origin with
    | .socket ws none =>
      if s.lapsed callback then
        let live := s.sockets.get? callback.deviceId
        let owns := live = none ∨ live = some ws
        { s with
          sockets := if live = some ws then s.sockets.erase callback.deviceId else s.sockets
          callbacks := s.callbacks.set id
            { callback with origin := .socket ws (some (owns && realtime)), retiring := true } }
      else s
    | _ => s
  | none => s

/-- An attempt of the callback reaches `manager.stop`. -/
def stops? (s : Retaining) (id : ℕ) : Option Callback :=
  (s.callbacks.get? id).filter fun callback =>
    s.lapsed callback && (s.stops.get? id).isNone &&
      match callback.origin with
      | .socket _ teardown => teardown = some true
      | .offer key => s.mediaAuthorities.get? callback.deviceId = some key
      | .failedOffer => true

/-- An attempt of the callback has succeeded. -/
def finished (s : Retaining) (id : ℕ) (callback : Callback) : Retaining :=
  match callback.origin with
  | .socket ws _ =>
    { s with callbacks := s.callbacks.set id { callback with origin := .socket ws (some false) } }
  | .offer key =>
    { s with
      mediaAuthorities :=
        if s.mediaAuthorities.get? callback.deviceId = some key then
          s.mediaAuthorities.erase callback.deviceId else s.mediaAuthorities
      callbacks := s.callbacks.erase id }
  | .failedOffer => { s with callbacks := s.callbacks.erase id }

/-! ### `_stop_wake` -/

def capture (s : Retaining) (deviceId : String) : Captured :=
  ⟨s.manager.session? deviceId, s.manager.wakes.get? deviceId, s.sockets.get? deviceId⟩

def wakeStands (s : Retaining) (deviceId : String) (captured : Captured) : Bool :=
  let session := s.manager.session? deviceId
  (session = none || session = captured.session) &&
    s.manager.wakes.get? deviceId = captured.wake && s.sockets.get? deviceId = captured.ws

/-- Behind the close of the session. -/
def wakeStopped (s : Retaining) (callback : Callback) (captured : Captured) : Retaining :=
  let d := callback.deviceId
  if s.wakeStands d captured then
    { s.harm callback.age (s.startupAges d ++ s.wakeAges d ++ s.liveAges d) with
      manager := s.manager.retire d }
  else s

/-- From the start to the close of the session. -/
def stopWake (s : Retaining) (id : ℕ) (callback : Callback) : Retaining :=
  let d := callback.deviceId
  let captured := s.capture d
  let s := { s.harm callback.age (s.startupAges d ++ s.sessionAges d) with
    manager := s.manager.closeStartup d
    callbacks := s.callbacks.set id { callback with retiring := true } }
  if captured.session.isSome then { s with stops := s.stops.set id (callback, captured) }
  else (s.wakeStopped callback captured).finished id callback

end Retaining

inductive RetainingAction
  | register (deviceId : String) (ws : ℕ)
  | unregister (deviceId : String)
  | arm (deviceId : String) (age : Age) (id : ℤ) (live : Bool)
  | armLive (deviceId : String) (age : Age)
  | openSession (deviceId : String) (age : Age) (live : Bool)
  | sessionEnds (deviceId : String)
  | endWake (deviceId : String)
  | retire (credential : ℕ)
  | bindSocket (deviceId : String) (age : Age)
  | admitOffer (deviceId : String) (age : Age) (dependencies : List ℕ)
  | refuseOffer (deviceId : String) (age : Age) (dependencies : List ℕ)
  | release (id : ℕ)
  | revokeSocket (id : ℕ) (realtime : Bool)
  | attempt (id : ℕ)
  /-- The session that an attempt waits for has closed. -/
  | closed (id : ℕ)
  /-- Its close has raised, or the attempt was cancelled. -/
  | failed (id : ℕ)

namespace Retaining

def step (s : Retaining) : RetainingAction → Retaining
  | .register deviceId ws => { s with sockets := s.sockets.set deviceId ws }
  | .unregister deviceId => { s with sockets := s.sockets.erase deviceId }
  | .arm deviceId age id live => s.arm deviceId age id live
  | .armLive deviceId age => s.armLive deviceId age
  | .openSession deviceId age live => s.openSession deviceId age live
  | .sessionEnds deviceId => s.sessionClosed deviceId (s.manager.session? deviceId)
  | .endWake deviceId => s.endWake deviceId
  | .retire credential => { s with retired := credential :: s.retired }
  | .bindSocket deviceId age => s.bindSocket deviceId age
  | .admitOffer deviceId age dependencies => s.admitOffer deviceId age dependencies
  | .refuseOffer deviceId age dependencies => s.refuseOffer deviceId age dependencies
  | .release id => s.release id
  | .revokeSocket id realtime => s.revokeSocket id realtime
  | .attempt id =>
    match s.stops? id with
    | some callback => s.stopWake id callback
    | none => s
  | .closed id =>
    match s.stops.get? id with
    | some (callback, captured) =>
      let s := { s with stops := s.stops.erase id }
      ((s.sessionClosed callback.deviceId captured.session).wakeStopped callback captured).finished
        id callback
    | none => s
  | .failed id => { s with stops := s.stops.erase id }

/-! ### Old authority and new media -/

/-- No callback has closed anything that a newer credential or socket had armed. -/
def Harmless (s : Retaining) : Prop := ∀ h ∈ s.harms, h.2.newer h.1 = false

/-- An attempt starts on a device whose media is not newer than its callback; and where it goes on
to clear a wake that stands, the device was not put in live mode by a newer socket. -/
def Guarded (s : Retaining) : RetainingAction → Prop
  | .attempt id => ∀ callback, s.stops? id = some callback →
    ∀ age ∈ s.startupAges callback.deviceId ++ s.wakeAges callback.deviceId ++
      s.liveAges callback.deviceId ++ s.sessionAges callback.deviceId,
      age.newer callback.age = false
  | .closed id => ∀ callback captured, s.stops.get? id = some (callback, captured) →
    (s.sessionClosed callback.deviceId captured.session).wakeStands callback.deviceId captured =
        true →
    ∀ age ∈ s.liveAges callback.deviceId, age.newer callback.age = false
  | _ => True

/-- Numbers are given out once; a startup is as old as the wake it belongs to; and the wake that an
attempt captured is not newer than its callback. -/
structure Aged (s : Retaining) : Prop where
  wakes : ∀ d w, s.manager.wakes.get? d = some w → w < s.next
  startups : ∀ d k, s.manager.startups.get? d = some k → k < s.next ∧
    ∃ w, s.manager.wakes.get? d = some w ∧ s.startupAge.get? k = s.wakeAge.get? w
  stops : ∀ id callback captured, s.stops.get? id = some (callback, captured) →
    ∀ w, captured.wake = some w → w < s.next ∧
      ∀ age, s.wakeAge.get? w = some age → age.newer callback.age = false
  harmless : s.Harmless

/-! ### Steps -/

variable {s s' : Retaining} {id : ℕ} {callback : Callback} {captured : Captured}

/-- Nothing is armed and no attempt begins; media may go. -/
structure Fades (s s' : Retaining) : Prop where
  wakes : ∀ d w, s'.manager.wakes.get? d = some w → s.manager.wakes.get? d = some w
  startups : ∀ d k, s'.manager.startups.get? d = some k →
    s.manager.startups.get? d = some k ∧ s'.manager.wakes.get? d = s.manager.wakes.get? d
  stops : ∀ id c, s'.stops.get? id = some c → s.stops.get? id = some c
  startupAge : s'.startupAge = s.startupAge
  wakeAge : s'.wakeAge = s.wakeAge
  next : s.next ≤ s'.next

lemma Fades.same (hm : s'.manager.wakes = s.manager.wakes)
    (hu : s'.manager.startups = s.manager.startups) (hs : s'.stops = s.stops)
    (ha : s'.startupAge = s.startupAge) (hw : s'.wakeAge = s.wakeAge) (hn : s.next ≤ s'.next) :
    Fades s s' :=
  ⟨fun _ _ h => hm ▸ h, fun _ _ h => ⟨hu ▸ h, by rw [hm]⟩, fun _ _ h => hs ▸ h, ha, hw, hn⟩

lemma Fades.trans {s'' : Retaining} (h : Fades s s') (h' : Fades s' s'') : Fades s s'' where
  wakes d w hw := h.wakes d w (h'.wakes d w hw)
  startups d k hk := by
    obtain ⟨h1, h2⟩ := h'.startups d k hk
    obtain ⟨h3, h4⟩ := h.startups d k h1
    exact ⟨h3, h2.trans h4⟩
  stops id c hc := h.stops id c (h'.stops id c hc)
  startupAge := h'.startupAge.trans h.startupAge
  wakeAge := h'.wakeAge.trans h.wakeAge
  next := h.next.trans h'.next

lemma Aged.fades (h : s.Aged) (hf : Fades s s') (hh : s'.Harmless) : s'.Aged where
  wakes d w hw := (h.wakes d w (hf.wakes d w hw)).trans_le hf.next
  startups d k hk := by
    obtain ⟨hk', hw'⟩ := hf.startups d k hk
    obtain ⟨hlt, w, hw, ha⟩ := h.startups d k hk'
    refine ⟨hlt.trans_le hf.next, w, hw'.trans hw, ?_⟩
    rw [hf.startupAge, hf.wakeAge]
    exact ha
  stops id callback captured hs w hw := by
    obtain ⟨hlt, ha⟩ := h.stops id callback captured (hf.stops id _ hs) w hw
    refine ⟨hlt.trans_le hf.next, ?_⟩
    rw [hf.wakeAge]
    exact ha
  harmless := hh

lemma fades_release : Fades s (s.release id) ∧ (s.release id).harms = s.harms := by
  unfold release
  split
  · split
    · exact ⟨.same rfl rfl rfl rfl rfl le_rfl, rfl⟩
    · exact ⟨.same rfl rfl rfl rfl rfl le_rfl, rfl⟩
  · exact ⟨.same rfl rfl rfl rfl rfl le_rfl, rfl⟩

lemma fades_finished :
    Fades s (s.finished id callback) ∧ (s.finished id callback).harms = s.harms := by
  unfold finished
  split <;> exact ⟨.same rfl rfl rfl rfl rfl le_rfl, rfl⟩

lemma fades_sessionClosed (d : String) (session : Option ℕ) :
    Fades s (s.sessionClosed d session) := by
  have hforget : (s.manager.forget d session).wakes = s.manager.wakes := by
    unfold Manager.forget
    split <;> rfl
  refine ⟨fun d' w hw => ?_, fun d' k hk => ⟨?_, ?_⟩, fun _ _ hc => hc, rfl, rfl, le_rfl⟩
  · have hw : (s.manager.forget d session).wakes.get? d' = some w := hw
    rwa [hforget] at hw
  · simp only [sessionClosed] at hk
    split at hk
    · rw [Dict.get?_erase] at hk
      split at hk
      · cases hk
      · exact hk
    · exact hk
  · show (s.manager.forget d session).wakes.get? d' = _
    rw [hforget]

lemma closeStartup_same (m : Manager) (d : String) : (m.closeStartup d).wakes = m.wakes ∧
    (m.closeStartup d).startups = m.startups ∧ (m.closeStartup d).liveDevices = m.liveDevices := by
  unfold Manager.closeStartup
  split
  · split <;> exact ⟨rfl, rfl, rfl⟩
  · exact ⟨rfl, rfl, rfl⟩

/-- A wake is cleared with its startup. -/
lemma fades_retire (d : String) {m : Manager} (hw : m.wakes = s.manager.wakes)
    (hs : m.startups = s.manager.startups) : Fades s { s with manager := m.retire d } := by
  refine ⟨fun d' w h => ?_, fun d' k h => ?_, fun _ _ hc => hc, rfl, rfl, le_rfl⟩
  · have h : (m.wakes.erase d).get? d' = some w := h
    rw [Dict.get?_erase] at h
    split at h
    · cases h
    · exact hw ▸ h
  · have h : (m.startups.erase d).get? d' = some k := h
    rw [Dict.get?_erase] at h
    split at h
    · cases h
    · next hne =>
      refine ⟨hs ▸ h, ?_⟩
      show (m.wakes.erase d).get? d' = _
      rw [Dict.get?_erase, if_neg hne, hw]

lemma Harmless.harm (h : s.Harmless) {own : Age} {ages : List Age}
    (ha : ∀ age ∈ ages, age.newer own = false) : (s.harm own ages).Harmless := by
  intro x hx
  rcases List.mem_append.mp hx with hx | hx
  · obtain ⟨age, hage, rfl⟩ := List.mem_map.mp hx
    exact ha age hage
  · exact h x hx

lemma Aged.finished (h : s.Aged) : (s.finished id callback).Aged := by
  obtain ⟨hf, hh⟩ := @fades_finished s id callback
  refine h.fades hf ?_
  unfold Harmless
  rw [hh]
  exact h.harmless

/-- **The recheck of `_stop_wake`.** What still stands is what was captured, and that is not newer
than the callback. -/
lemma Aged.wakeStopped (h : s.Aged)
    (hcaptured : ∀ w, captured.wake = some w → ∀ age, s.wakeAge.get? w = some age →
      age.newer callback.age = false)
    (hlive : s.wakeStands callback.deviceId captured = true →
      ∀ age ∈ s.liveAges callback.deviceId, age.newer callback.age = false) :
    (s.wakeStopped callback captured).Aged := by
  unfold Retaining.wakeStopped
  dsimp only
  split
  · next hstands =>
    have hwake : s.manager.wakes.get? callback.deviceId = captured.wake := by
      have h := hstands
      simp only [wakeStands, Bool.and_eq_true, decide_eq_true_eq] at h
      exact h.1.2
    have hwakes : ∀ age ∈ s.wakeAges callback.deviceId, age.newer callback.age = false := by
      intro age hage
      rw [wakeAges, Option.mem_toList, Option.bind_eq_some_iff] at hage
      obtain ⟨w, hw, ha⟩ := hage
      exact hcaptured w (hwake ▸ hw) age ha
    have hstartups : ∀ age ∈ s.startupAges callback.deviceId,
        age.newer callback.age = false := by
      intro age hage
      rw [startupAges, Option.mem_toList, Option.bind_eq_some_iff] at hage
      obtain ⟨k, hk, ha⟩ := hage
      obtain ⟨-, w, hw, he⟩ := h.startups _ k hk
      exact hcaptured w (hwake ▸ hw) age (he ▸ ha)
    have hh : (s.harm callback.age (s.startupAges callback.deviceId ++
        s.wakeAges callback.deviceId ++ s.liveAges callback.deviceId)).Harmless := by
      refine h.harmless.harm fun age hage => ?_
      rcases List.mem_append.mp hage with hage | hage
      · rcases List.mem_append.mp hage with hage | hage
        · exact hstartups age hage
        · exact hwakes age hage
      · exact hlive hstands age hage
    have hf := fades_retire (s := s) callback.deviceId (m := s.manager) rfl rfl
    have hharm : ∀ harms, Fades s { s with manager := s.manager.retire callback.deviceId, harms } :=
      fun _ => hf.trans (.same rfl rfl rfl rfl rfl le_rfl)
    exact h.fades (hharm _) hh
  · exact h

lemma Aged.arm (h : s.Aged) (d : String) (age : Age) (startupId : ℤ) (live : Bool) :
    (s.arm d age startupId live).Aged := by
  obtain ⟨hwakes, hstartups, -⟩ := closeStartup_same s.manager d
  have hw : ∀ d', (s.arm d age startupId live).manager.wakes.get? d' =
      if d = d' then some (s.next + 1) else s.manager.wakes.get? d' := by
    intro d'
    show ((s.manager.closeStartup d).wakes.set d (s.next + 1)).get? d' = _
    rw [Dict.get?_set, hwakes]
  have hu : ∀ d', (s.arm d age startupId live).manager.startups.get? d' =
      if d = d' then some s.next else s.manager.startups.get? d' := by
    intro d'
    show ((s.manager.closeStartup d).startups.set d s.next).get? d' = _
    rw [Dict.get?_set, hstartups]
  have hnext : (s.arm d age startupId live).next = s.next + 2 := rfl
  have hold : ∀ w, w < s.next →
      (s.arm d age startupId live).wakeAge.get? w = s.wakeAge.get? w := by
    intro w hlt
    show (s.wakeAge.set (s.next + 1) age).get? w = _
    rw [Dict.get?_set, if_neg (by omega)]
  refine ⟨fun d' w hd => ?_, fun d' k hd => ?_, fun id callback captured hs w hc => ?_,
    h.harmless⟩
  · rw [hw] at hd
    rw [hnext]
    split at hd
    · cases hd
      omega
    · have := h.wakes d' w hd
      omega
  · rw [hu] at hd
    rw [hnext, hw]
    split at hd
    · next he =>
      cases hd
      refine ⟨by omega, s.next + 1, if_pos he, ?_⟩
      show (s.startupAge.set s.next age).get? s.next =
        (s.wakeAge.set (s.next + 1) age).get? (s.next + 1)
      rw [Dict.get?_set_self, Dict.get?_set_self]
    · next hne =>
      obtain ⟨hlt, w, hwd, ha⟩ := h.startups d' k hd
      refine ⟨by omega, w, by rw [if_neg hne]; exact hwd, ?_⟩
      rw [hold w (h.wakes d' w hwd), ← ha]
      show (s.startupAge.set s.next age).get? k = _
      rw [Dict.get?_set, if_neg (by omega)]
  · obtain ⟨hlt, ha⟩ := h.stops id callback captured hs w hc
    rw [hnext, hold w hlt]
    exact ⟨by omega, ha⟩

lemma Aged.stopWake (h : s.Aged)
    (hg : ∀ age ∈ s.startupAges callback.deviceId ++ s.wakeAges callback.deviceId ++
      s.liveAges callback.deviceId ++ s.sessionAges callback.deviceId,
      age.newer callback.age = false) : (s.stopWake id callback).Aged := by
  have hstartup : ∀ age ∈ s.startupAges callback.deviceId, age.newer callback.age = false :=
    fun age ha => hg age (by simp [ha])
  have hwake : ∀ age ∈ s.wakeAges callback.deviceId, age.newer callback.age = false :=
    fun age ha => hg age (by simp [ha])
  have hlive : ∀ age ∈ s.liveAges callback.deviceId, age.newer callback.age = false :=
    fun age ha => hg age (by simp [ha])
  have hsession : ∀ age ∈ s.sessionAges callback.deviceId, age.newer callback.age = false :=
    fun age ha => hg age (by simp [ha])
  obtain ⟨hw, hu, hl⟩ := closeStartup_same s.manager callback.deviceId
  have hcaptured : ∀ w, (s.capture callback.deviceId).wake = some w →
      ∀ age, s.wakeAge.get? w = some age → age.newer callback.age = false := by
    intro w hc age ha
    refine hwake age ?_
    rw [wakeAges, Option.mem_toList, Option.bind_eq_some_iff]
    exact ⟨w, hc, ha⟩
  set s₁ : Retaining := { s.harm callback.age
    (s.startupAges callback.deviceId ++ s.sessionAges callback.deviceId) with
    manager := s.manager.closeStartup callback.deviceId
    callbacks := s.callbacks.set id { callback with retiring := true } } with hs₁
  have hharm : s₁.Harmless := by
    have hh : (s.harm callback.age (s.startupAges callback.deviceId ++
        s.sessionAges callback.deviceId)).Harmless := by
      refine h.harmless.harm fun age ha => ?_
      rcases List.mem_append.mp ha with ha | ha
      · exact hstartup age ha
      · exact hsession age ha
    exact hh
  have ha₁ : s₁.Aged := h.fades (.same hw hu rfl rfl rfl le_rfl) hharm
  have hlive₁ : ∀ age ∈ s₁.liveAges callback.deviceId, age.newer callback.age = false := by
    intro age ha
    refine hlive age ?_
    unfold liveAges at ha ⊢
    rwa [show s₁.manager.liveDevices = s.manager.liveDevices from hl] at ha
  show Aged (if (s.capture callback.deviceId).session.isSome then
    { s₁ with stops := s₁.stops.set id (callback, s.capture callback.deviceId) }
    else (s₁.wakeStopped callback (s.capture callback.deviceId)).finished id callback)
  split
  · refine ⟨ha₁.wakes, ha₁.startups, fun id' callback' captured' hs w hc => ?_, ha₁.harmless⟩
    have hs : (s₁.stops.set id (callback, s.capture callback.deviceId)).get? id' =
        some (callback', captured') := hs
    rw [Dict.get?_set] at hs
    split at hs
    · cases hs
      exact ⟨h.wakes _ w hc, hcaptured w hc⟩
    · exact ha₁.stops id' callback' captured' hs w hc
  · have ha₂ : (s₁.wakeStopped callback (s.capture callback.deviceId)).Aged :=
      ha₁.wakeStopped hcaptured fun _ => hlive₁
    exact ha₂.finished

/-- **One action, of whatever kind.** -/
lemma aged_step (s : Retaining) (a : RetainingAction) (h : s.Aged) (hg : s.Guarded a) :
    (s.step a).Aged := by
  have hretain : ∀ {s : Retaining} (callback : Callback), s.Aged → (s.retain callback).Aged :=
    fun _ hs => hs.fades (.same rfl rfl rfl rfl rfl (Nat.le_succ _)) hs.harmless
  have hrelease : ∀ id, (s.release id).Aged := by
    intro id
    obtain ⟨hf, hh⟩ := @fades_release s id
    refine h.fades hf ?_
    unfold Harmless
    rw [hh]
    exact h.harmless
  cases a with
  | register d ws => exact h.fades (.same rfl rfl rfl rfl rfl le_rfl) h.harmless
  | unregister d => exact h.fades (.same rfl rfl rfl rfl rfl le_rfl) h.harmless
  | arm d age startupId live => exact h.arm d age startupId live
  | armLive d age => exact h.fades (.same rfl rfl rfl rfl rfl le_rfl) h.harmless
  | openSession d age live =>
    exact h.fades (.same rfl rfl rfl rfl rfl (Nat.le_succ _)) h.harmless
  | sessionEnds d => exact h.fades (fades_sessionClosed d _) h.harmless
  | endWake d =>
    obtain ⟨hw, hu, -⟩ := closeStartup_same s.manager d
    exact h.fades (fades_retire d hw hu) h.harmless
  | retire credential => exact h.fades (.same rfl rfl rfl rfl rfl le_rfl) h.harmless
  | bindSocket d age => exact hretain _ h
  | refuseOffer d age dependencies => exact hretain _ h
  | admitOffer d age dependencies =>
    have hset : ∀ {s : Retaining} (authorities : Dict String ℕ), s.Aged →
        Aged { s with mediaAuthorities := authorities } :=
      fun _ hs => hs.fades (.same rfl rfl rfl rfl rfl le_rfl) hs.harmless
    simp only [step, admitOffer]
    split
    · exact hretain _ (hset _ (hrelease _))
    · exact hretain _ (hset _ h)
  | release id => exact hrelease id
  | revokeSocket id realtime =>
    simp only [step, revokeSocket]
    split
    · split
      · split
        · exact h.fades (.same rfl rfl rfl rfl rfl le_rfl) h.harmless
        · exact h
      · exact h
    · exact h
  | attempt id =>
    simp only [step]
    split
    · next callback hc => exact h.stopWake (hg callback hc)
    · exact h
  | closed id =>
    simp only [step]
    split
    · next callback captured hs =>
      have herase : Fades s { s with stops := s.stops.erase id } := by
        refine ⟨fun _ _ h => h, fun _ _ h => ⟨h, rfl⟩, fun id' c hc => ?_, rfl, rfl, le_rfl⟩
        have hc : (s.stops.erase id).get? id' = some c := hc
        rw [Dict.get?_erase] at hc
        split at hc
        · cases hc
        · exact hc
      have h₁ : Aged { s with stops := s.stops.erase id } := h.fades herase h.harmless
      have h₂ := h₁.fades (fades_sessionClosed callback.deviceId captured.session) h₁.harmless
      refine Aged.finished (h₂.wakeStopped (fun w hw age ha => ?_) fun hstands age ha => ?_)
      · exact (h.stops id callback captured hs w hw).2 age ha
      · refine hg callback captured hs hstands age ?_
        have hlive : ((s.manager.forget callback.deviceId captured.session)).liveDevices =
            s.manager.liveDevices := by
          unfold Manager.forget
          split <;> rfl
        unfold liveAges at ha ⊢
        rwa [show (Retaining.sessionClosed { s with stops := s.stops.erase id } callback.deviceId
          captured.session).manager.liveDevices = s.manager.liveDevices from hlive] at ha
    · exact h
  | failed id =>
    refine h.fades ⟨fun _ _ h => h, fun _ _ h => ⟨h, rfl⟩, fun id' c hc => ?_, rfl, rfl, le_rfl⟩
      h.harmless
    have hc : (s.stops.erase id).get? id' = some c := hc
    rw [Dict.get?_erase] at hc
    split at hc
    · cases hc
    · exact hc

lemma aged_init : init.Aged :=
  ⟨fun _ _ h => (by cases h), fun _ _ h => (by cases h), fun _ _ _ h => (by cases h),
    fun _ h => (by cases h)⟩

/-- **Old authority and new media.** In every run whose attempts start on media that is not newer
than their callback, no callback closes a session, a startup or a wake that a newer credential or
socket has armed. -/
theorem old_authority (acts : List RetainingAction) (h : Throughout step Guarded init acts) :
    (after step init acts).Harmless :=
  (Throughout.invariant aged_step aged_init h).harmless

section Sample

def oldAge : Age := ⟨0, 0⟩

def newAge : Age := ⟨1, 1⟩

/-- A socket arms a wake, an offer opens its session, and the credential is retired. The attempt to
stop the session waits for it to close. -/
def revoked : List RetainingAction :=
  [.register "speaker" 0, .bindSocket "speaker" oldAge, .arm "speaker" oldAge 1 true,
    .openSession "speaker" oldAge true, .retire 0, .revokeSocket 0 true, .attempt 0]

/-- A newer socket arms a wake while the attempt waits, which then goes on. -/
def reArmed : List RetainingAction :=
  revoked ++
    [.register "speaker" 1, .bindSocket "speaker" newAge, .arm "speaker" newAge 2 true, .closed 0]

theorem old_authority_sample : (after step init reArmed).Harmless := by
  refine old_authority reArmed ⟨trivial, trivial, trivial, trivial, trivial, trivial, ?_, trivial,
    trivial, trivial, ?_, trivial⟩
  · intro callback hc
    cases hc
    decide
  · intro callback captured hs hstands
    cases hs
    exact absurd hstands (by decide)

/-- The session fails to close. A newer socket arms a wake, and the maintenance tries again. -/
def retried : List RetainingAction :=
  revoked ++ [.failed 0, .register "speaker" 1, .bindSocket "speaker" newAge,
    .arm "speaker" newAge 2 true, .attempt 0]

/-- **A retry closes the startup of a newer socket.** The retained stop names only the device. -/
theorem retried_harms : ¬(after step init retried).Harmless := by
  intro h
  have hharm : (oldAge, newAge) ∈ (after step init retried).harms := by decide
  exact absurd (h _ hharm) (by decide)

end Sample

end Retaining

end Vauxr.Voice
