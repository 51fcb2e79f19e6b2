import Mathlib
import Vauxr.Lib.Run
import Vauxr.Realtime.Peers

/-!
One peer for a device at a time, and no harm to a newer wake.

A session that has not been closed is the one that is registered. What an offer, a stop or a close
does once the wake that it belongs to has been replaced leaves the new wake, its startup and its
session alone.
-/

namespace Vauxr.Peers

open Lib

namespace Stage

/-- The offer has the lock. -/
def Holds : Stage → Prop
  | .inLine => False
  | .ended => False
  | _ => True

/-- The session that the offer closes, or has started. -/
def session? : Stage → Option ℕ
  | .closingOld k => some k
  | .starting k => some k
  | .closingOwn k _ => some k
  | _ => none

/-- The session whose close the offer waits for. -/
def closes? : Stage → Option ℕ
  | .closingOld k => some k
  | .closingOwn k _ => some k
  | _ => none

/-- The session that the offer puts in the place of another, or found there. -/
def places? : Stage → Option ℕ
  | .closingOld k => some k
  | .starting k => some k
  | _ => none

end Stage

namespace State

/-! ### The tables -/

def IsOpen (s : State) (k : ℕ) : Prop := ∃ r, s.sessions[k]? = some r ∧ r.closed = false

def sessionWake (s : State) (k : ℕ) : Option (Option ℕ) := s.sessions[k]?.map Session.deviceWake

def sessionStartup (s : State) (k : ℕ) : Option (Option ℕ) := s.sessions[k]?.map Session.startup

def startupWake (s : State) (c : ℕ) : Option ℕ := s.startups[c]?.map Startup.wake

/-- A session of another wake than the one at hand, unless that is the one captured. -/
def Apart (wake captured : Option ℕ) (of : Option (Option ℕ)) : Prop :=
  ∀ w, wake = some w → captured ≠ some w → of ≠ some (some w)

structure Inv (s : State) : Prop where
  registered : ∀ k, s.IsOpen k → s.session = some k
  old : ∀ k w, s.sessionWake k = some (some w) → w < s.clock
  wake_lt : ∀ w, s.wake = some w → w < s.clock
  current : ∀ c, s.startup = some c → ∃ w, s.startupWake c = some w ∧ s.wake = some w
  bound : ∀ k c, s.sessionStartup k = some (some c) →
    ∃ w, s.startupWake c = some w ∧ s.sessionWake k = some (some w)
  holder : ∀ (i : ℕ) (o : Offer), s.offers[i]? = some o → o.stage.Holds → s.line.head? = some i
  mine : ∀ (i : ℕ) (o : Offer) k, s.offers[i]? = some o → o.stage.session? = some k →
    Apart s.wake o.wake (s.sessionWake k) ∧ k < s.sessions.length
  closing : ∀ (i : ℕ) (o : Offer) k, s.offers[i]? = some o → o.stage.closes? = some k → ¬s.IsOpen k
  place : ∀ (i : ℕ) (o : Offer) k, s.offers[i]? = some o → o.stage.places? = some k →
    s.session = none ∨ s.session = some k
  known : ∀ k, s.session = some k → k < s.sessions.length
  stops : ∀ (j : ℕ) (r : Stop), s.stops[j]? = some r →
    Apart s.wake r.wake (s.sessionWake r.session) ∧ ¬s.IsOpen r.session ∧
      r.session < s.sessions.length
  closers : ∀ (j : ℕ) (r : Closer), s.closers[j]? = some r →
    ¬s.IsOpen r.session ∧ r.session < s.sessions.length

variable {s s' : State} {i k c : ℕ} {o : Offer}

lemma start_inv : start.Inv := by
  constructor <;> simp [start, IsOpen, sessionWake, sessionStartup]

/-! ### Closing -/

/-- The same but for what has been closed, and for calls that wait no more. -/
structure Same (s s' : State) : Prop where
  wake : s'.wake = s.wake
  startup : s'.startup = s.startup
  session : s'.session = s.session
  line : s'.line = s.line
  offers : s'.offers = s.offers
  clock : s'.clock = s.clock
  count : s'.sessions.length = s.sessions.length
  sessionWake : s'.sessionWake = s.sessionWake
  sessionStartup : s'.sessionStartup = s.sessionStartup
  startupWake : s'.startupWake = s.startupWake
  isOpen : ∀ k, s'.IsOpen k → s.IsOpen k
  stops : ∀ (j : ℕ) (r : Stop), s'.stops[j]? = some r → ∃ r' : Stop, s.stops[j]? = some r' ∧
    r'.session = r.session ∧ r'.wake = r.wake
  closers : ∀ (j : ℕ) (r : Closer), s'.closers[j]? = some r → ∃ r' : Closer,
    s.closers[j]? = some r' ∧ r'.session = r.session

lemma Inv.same (h : s.Inv) (hs : Same s s') : s'.Inv where
  registered k hk := hs.session.trans (h.registered k (hs.isOpen k hk))
  old k w hw := hs.clock ▸ h.old k w (hs.sessionWake ▸ hw)
  wake_lt w hw := hs.clock ▸ h.wake_lt w (hs.wake ▸ hw)
  current c hc := by
    rw [hs.wake, hs.startupWake]
    exact h.current c (hs.startup ▸ hc)
  bound k c hc := by
    rw [hs.startupWake, hs.sessionWake]
    exact h.bound k c (hs.sessionStartup ▸ hc)
  holder i o ho := by
    rw [hs.line]
    exact h.holder i o (hs.offers ▸ ho)
  mine i o k ho hk := by
    rw [hs.wake, hs.sessionWake, hs.count]
    exact h.mine i o k (hs.offers ▸ ho) hk
  closing i o k ho hk hopen := h.closing i o k (hs.offers ▸ ho) hk (hs.isOpen k hopen)
  place i o k ho hk := by
    rw [hs.session]
    exact h.place i o k (hs.offers ▸ ho) hk
  known k hk := by
    rw [hs.count]
    exact h.known k (hs.session ▸ hk)
  stops j r hr := by
    obtain ⟨r', hr', hsession, hwake⟩ := hs.stops j r hr
    obtain ⟨hapart, hnot, hlt⟩ := h.stops j r' hr'
    rw [hs.wake, hs.sessionWake, hs.count, ← hsession, ← hwake]
    exact ⟨hapart, fun hopen => hnot (hs.isOpen _ hopen), hlt⟩
  closers j r hr := by
    obtain ⟨r', hr', hsession⟩ := hs.closers j r hr
    obtain ⟨hnot, hlt⟩ := h.closers j r' hr'
    rw [hs.count, ← hsession]
    exact ⟨fun hopen => hnot (hs.isOpen _ hopen), hlt⟩

lemma Same.refl (s : State) : Same s s :=
  ⟨rfl, rfl, rfl, rfl, rfl, rfl, rfl, rfl, rfl, rfl, fun _ h => h, fun _ r h => ⟨r, h, rfl, rfl⟩,
    fun _ r h => ⟨r, h, rfl⟩⟩

lemma same_closeStartup (s : State) (c : Option ℕ) : Same s (s.closeStartup c) := by
  cases c with
  | none => exact Same.refl s
  | some c =>
    have hwake : (s.closeStartup (some c)).startupWake = s.startupWake := by
      funext c'
      simp only [startupWake, closeStartup, List.getElem?_modify]
      split <;> cases s.startups[c']? <;> rfl
    exact ⟨rfl, rfl, rfl, rfl, rfl, rfl, rfl, rfl, rfl, hwake, fun _ h => h,
      fun _ r h => ⟨r, h, rfl, rfl⟩, fun _ r h => ⟨r, h, rfl⟩⟩

lemma Same.trans {s₁ s₂ s₃ : State} (h : Same s₁ s₂) (h' : Same s₂ s₃) : Same s₁ s₃ where
  wake := h'.wake.trans h.wake
  startup := h'.startup.trans h.startup
  session := h'.session.trans h.session
  line := h'.line.trans h.line
  offers := h'.offers.trans h.offers
  clock := h'.clock.trans h.clock
  count := h'.count.trans h.count
  sessionWake := h'.sessionWake.trans h.sessionWake
  sessionStartup := h'.sessionStartup.trans h.sessionStartup
  startupWake := h'.startupWake.trans h.startupWake
  isOpen k hk := h.isOpen k (h'.isOpen k hk)
  stops j r hr := by
    obtain ⟨r', hr', hsession, hwake⟩ := h'.stops j r hr
    obtain ⟨r'', hr'', hsession', hwake'⟩ := h.stops j r' hr'
    exact ⟨r'', hr'', hsession'.trans hsession, hwake'.trans hwake⟩
  closers j r hr := by
    obtain ⟨r', hr', hsession⟩ := h'.closers j r hr
    obtain ⟨r'', hr'', hsession'⟩ := h.closers j r' hr'
    exact ⟨r'', hr'', hsession'.trans hsession⟩

/-- A session of the list is replaced by the same one, but closed. -/
lemma same_setClosed {startup deviceWake : Option ℕ}
    (hk : s.sessions[k]? = some ⟨startup, deviceWake, false⟩) :
    Same s { s with sessions := s.sessions.set k ⟨startup, deviceWake, true⟩ } := by
  have hlt := (List.getElem?_eq_some_iff.mp hk).1
  have hset : ∀ {β : Type} (f : Session → β) (j : ℕ),
      f ⟨startup, deviceWake, true⟩ = f ⟨startup, deviceWake, false⟩ →
      (s.sessions.set k ⟨startup, deviceWake, true⟩)[j]?.map f = s.sessions[j]?.map f := by
    intro β f j hf
    rw [List.getElem?_set]
    split
    · next h =>
      subst h
      rw [hk]
      exact congrArg some hf
    · rfl
  refine ⟨rfl, rfl, rfl, rfl, rfl, rfl, List.length_set .., funext fun j => hset _ j rfl,
    funext fun j => hset _ j rfl, rfl, ?_, fun _ r h => ⟨r, h, rfl, rfl⟩, fun _ r h => ⟨r, h, rfl⟩⟩
  rintro j ⟨r, hr, hclosed⟩
  have hr : (s.sessions.set k ⟨startup, deviceWake, true⟩)[j]? = some r := hr
  rw [List.getElem?_set] at hr
  split at hr
  · cases hr
    cases hclosed
  · exact ⟨r, hr, hclosed⟩

lemma same_closeSession (s : State) (k : ℕ) : Same s (s.closeSession k) := by
  unfold closeSession
  split
  · next startup deviceWake hk => exact (same_setClosed hk).trans (same_closeStartup _ _)
  · exact Same.refl s

/-- After `close` has been called the session is not open. -/
lemma not_open_closeSession (s : State) (k : ℕ) : ¬(s.closeSession k).IsOpen k := by
  unfold closeSession
  split
  · next startup deviceWake hk =>
    intro hopen
    obtain ⟨r, hr, hclosed⟩ := (same_closeStartup _ _).isOpen k hopen
    have hlt := (List.getElem?_eq_some_iff.mp hk).1
    have hr : (s.sessions.set k ⟨startup, deviceWake, true⟩)[k]? = some r := hr
    rw [List.getElem?_set_self hlt] at hr
    cases hr
    cases hclosed
  · next hnot =>
    rintro ⟨⟨startup, deviceWake, closed⟩, hr, hclosed⟩
    cases hclosed
    exact hnot startup deviceWake hr

/-- Behind its teardowns a session that has been closed takes itself out of the tables. -/
lemma Inv.sessionClosed (h : s.Inv) (hk : ¬s.IsOpen k) : (s.sessionClosed k).Inv := by
  unfold State.sessionClosed
  split
  · next r hr =>
    have hforget : ∀ j, j ≠ k ∨ s.session ≠ some k → s.session = some j →
        (if s.session = some k then none else s.session) = some j := by
      intro j hne hj
      rw [if_neg, hj]
      rw [hj]
      intro hjk
      rcases hne with hne | hne
      · exact hne (Option.some.inj hjk)
      · exact hne (hj.trans hjk)
    refine ⟨fun j hj => ?_, h.old, h.wake_lt, fun c hc => ?_, h.bound, h.holder, h.mine, h.closing,
      fun i o j ho hj => ?_, fun j hj => ?_, h.stops, h.closers⟩
    · refine hforget j (Or.inl ?_) (h.registered j hj)
      rintro rfl
      exact hk hj
    · have hc : (if s.startup = r.startup then none else s.startup) = some c := hc
      split at hc
      · cases hc
      · exact h.current c hc
    · show (if s.session = some k then none else s.session) = none ∨ _
      split
      · exact Or.inl rfl
      · exact h.place i o j ho hj
    · have hj : (if s.session = some k then none else s.session) = some j := hj
      split at hj
      · cases hj
      · exact h.known j hj
  · exact h

/-! ### Offers -/

lemma offers_setOffer (s : State) (i j : ℕ) (stage : Stage) (o : Offer)
    (ho : (s.setOffer i stage).offers[j]? = some o) :
    (j ≠ i ∧ s.offers[j]? = some o) ∨
      j = i ∧ o.stage = stage ∧ ∃ o₀ : Offer, s.offers[i]? = some o₀ ∧ o.wake = o₀.wake := by
  have ho : (s.offers.modify i fun o => { o with stage })[j]? = some o := ho
  rw [List.getElem?_modify] at ho
  obtain ⟨o₀, ho₀, rfl⟩ := Option.map_eq_some_iff.mp ho
  by_cases hij : i = j
  · subst hij
    rw [if_pos rfl]
    exact Or.inr ⟨rfl, rfl, o₀, ho₀, rfl⟩
  · rw [if_neg hij]
    exact Or.inl ⟨Ne.symm hij, ho₀⟩

/-- An offer that is at the head of the line goes on to another place. -/
lemma Inv.setOffer {stage : Stage} (h : s.Inv) (ho : s.offers[i]? = some o)
    (hhead : s.line.head? = some i)
    (hmine : ∀ k, stage.session? = some k →
      Apart s.wake o.wake (s.sessionWake k) ∧ k < s.sessions.length)
    (hclosing : ∀ k, stage.closes? = some k → ¬s.IsOpen k)
    (hplace : ∀ k, stage.places? = some k → s.session = none ∨ s.session = some k) :
    (s.setOffer i stage).Inv := by
  refine ⟨h.registered, h.old, h.wake_lt, h.current, h.bound, fun j o' ho' hholds => ?_,
    fun j o' k ho' hk => ?_, fun j o' k ho' hk => ?_, fun j o' k ho' hk => ?_, h.known, h.stops,
    h.closers⟩
  · rcases offers_setOffer s i j stage o' ho' with ⟨-, hold⟩ | ⟨rfl, -, -⟩
    · exact h.holder j o' hold hholds
    · exact hhead
  · rcases offers_setOffer s i j stage o' ho' with ⟨-, hold⟩ | ⟨-, hstage, o₀, ho₀, hwake⟩
    · exact h.mine j o' k hold hk
    · rw [hwake, ← Option.some.inj (ho.symm.trans ho₀)]
      exact hmine k (hstage ▸ hk)
  · rcases offers_setOffer s i j stage o' ho' with ⟨-, hold⟩ | ⟨-, hstage, -⟩
    · exact h.closing j o' k hold hk
    · exact hclosing k (hstage ▸ hk)
  · rcases offers_setOffer s i j stage o' ho' with ⟨-, hold⟩ | ⟨-, hstage, -⟩
    · exact h.place j o' k hold hk
    · exact hplace k (hstage ▸ hk)

/-- The offer goes on where it touches no session. -/
lemma Inv.setOffer_free {stage : Stage} (h : s.Inv) (ho : s.offers[i]? = some o)
    (hhead : s.line.head? = some i) (hfree : stage.session? = none) : (s.setOffer i stage).Inv := by
  have hclose : stage.closes? = none := by cases stage <;> simp_all [Stage.closes?, Stage.session?]
  have hplace : stage.places? = none := by cases stage <;> simp_all [Stage.places?, Stage.session?]
  refine h.setOffer ho hhead ?_ ?_ ?_
  · simp [hfree]
  · simp [hclose]
  · simp [hplace]

/-- The offer at the head of the line is over. -/
lemma Inv.endOffer (h : s.Inv) (ho : s.offers[i]? = some o) (hhead : s.line.head? = some i) :
    (s.endOffer i).Inv := by
  have hover : (s.setOffer i .ended).Inv := h.setOffer_free ho hhead rfl
  refine ⟨h.registered, h.old, h.wake_lt, h.current, h.bound, fun j o' ho' hholds => ?_,
    hover.mine, hover.closing, hover.place, h.known, h.stops, h.closers⟩
  rcases offers_setOffer s i j .ended o' ho' with ⟨hne, hold⟩ | ⟨-, hstage, -⟩
  · exact absurd (Option.some.inj ((h.holder j o' hold hholds).symm.trans hhead)) hne
  · rw [hstage] at hholds
    exact hholds.elim

lemma Inv.locked (h : s.Inv) (ho : s.offers[i]? = some o) (hhead : s.line.head? = some i) :
    (s.locked i o).Inv := by
  unfold State.locked
  split
  · exact h.endOffer ho hhead
  · exact h.setOffer_free ho hhead rfl

lemma holds_of_session {stage : Stage} (h : stage.session? = some k) : stage.Holds := by
  cases stage <;> simp_all [Stage.Holds, Stage.session?]

lemma session_of_closes {stage : Stage} (h : stage.closes? = some k) :
    stage.session? = some k := by
  cases stage <;> simp_all [Stage.closes?, Stage.session?]

lemma session_of_places {stage : Stage} (h : stage.places? = some k) :
    stage.session? = some k := by
  cases stage <;> simp_all [Stage.places?, Stage.session?]

/-- Where the head of the line touches no session, nothing does. -/
lemma Inv.untouched (h : s.Inv) (hhead : s.line.head? = some i) {j : ℕ} {o' : Offer}
    (hne : j ≠ i) (ho' : s.offers[j]? = some o') (hk : o'.stage.session? = some k) : False :=
  hne (Option.some.inj ((h.holder j o' ho' (holds_of_session hk)).symm.trans hhead))

/-- A new session is registered while none is open. -/
lemma Inv.openSession (h : s.Inv) (ho : s.offers[i]? = some o) (hhead : s.line.head? = some i)
    (hwake : s.wake = o.wake) (hnone : ∀ k, ¬s.IsOpen k) : (s.openSession i).Inv := by
  have hget : ∀ (j : ℕ) (r : Session), (s.openSession i).sessions[j]? = some r →
      (j < s.sessions.length ∧ s.sessions[j]? = some r) ∨
        j = s.sessions.length ∧ r = ⟨s.startup, s.wake, false⟩ := by
    intro j r hr
    have hr : (s.sessions ++ [⟨s.startup, s.wake, false⟩])[j]? = some r := hr
    rcases Nat.lt_trichotomy j s.sessions.length with hlt | heq | hgt
    · rw [List.getElem?_append_left hlt] at hr
      exact Or.inl ⟨hlt, hr⟩
    · subst heq
      rw [List.getElem?_concat_length] at hr
      exact Or.inr ⟨rfl, (Option.some.inj hr).symm⟩
    · rw [List.getElem?_eq_none (by simp; omega)] at hr
      cases hr
  have hopen : ∀ j, (s.openSession i).IsOpen j → j = s.sessions.length := by
    rintro j ⟨r, hr, hclosed⟩
    rcases hget j r hr with ⟨-, hr⟩ | ⟨hj, -⟩
    · exact absurd ⟨r, hr, hclosed⟩ (hnone j)
    · exact hj
  have hwakes : ∀ j, j < s.sessions.length →
      (s.openSession i).sessionWake j = s.sessionWake j := by
    intro j hj
    exact congrArg (Option.map Session.deviceWake) (List.getElem?_append_left hj)
  have hnew : (s.openSession i).sessionWake s.sessions.length = some s.wake :=
    congrArg (Option.map Session.deviceWake) List.getElem?_concat_length
  have hapart : Apart s.wake o.wake ((s.openSession i).sessionWake s.sessions.length) := by
    intro w hw hne
    exact absurd (hwake.symm.trans hw) hne
  have hother : ∀ (j : ℕ) (o' : Offer) k, (s.openSession i).offers[j]? = some o' →
      o'.stage.session? = some k →
      k = s.sessions.length ∧ o'.wake = o.wake ∧ o'.stage = .starting k := by
    intro j o' k ho' hk
    rcases offers_setOffer s i j (.starting s.sessions.length) o' ho' with
      ⟨hne, hold⟩ | ⟨-, hstage, o₀, ho₀, hwake'⟩
    · exact (h.untouched hhead hne hold hk).elim
    · rw [hstage] at hk
      cases hk
      exact ⟨rfl, hwake'.trans (congrArg Offer.wake (Option.some.inj (ho₀.symm.trans ho))), hstage⟩
  refine ⟨fun j hj => ?_, fun j w hj => ?_, h.wake_lt, h.current, fun j c hj => ?_,
    fun j o' ho' hholds => ?_, fun j o' k ho' hk => ?_, fun j o' k ho' hk => ?_,
    fun j o' k ho' hk => ?_, fun j hj => ?_, fun j r hr => ?_, fun j r hr => ?_⟩
  · exact congrArg some (hopen j hj).symm
  · obtain ⟨r, hr, hw⟩ := Option.map_eq_some_iff.mp hj
    rcases hget j r hr with ⟨-, hr⟩ | ⟨-, rfl⟩
    · exact h.old j w (Option.map_eq_some_iff.mpr ⟨r, hr, hw⟩)
    · exact h.wake_lt w hw
  · obtain ⟨r, hr, hc⟩ := Option.map_eq_some_iff.mp hj
    rcases hget j r hr with ⟨hlt, hr⟩ | ⟨rfl, rfl⟩
    · rw [hwakes j hlt]
      exact h.bound j c (Option.map_eq_some_iff.mpr ⟨r, hr, hc⟩)
    · obtain ⟨w, hw, hwake'⟩ := h.current c hc
      exact ⟨w, hw, hnew.trans (congrArg some hwake')⟩
  · rcases offers_setOffer s i j (.starting s.sessions.length) o' ho' with ⟨-, hold⟩ | ⟨rfl, -, -⟩
    · exact h.holder j o' hold hholds
    · exact hhead
  · obtain ⟨rfl, hw, -⟩ := hother j o' k ho' hk
    rw [hw]
    refine ⟨hapart, ?_⟩
    simp [State.openSession, State.setOffer]
  · obtain ⟨-, -, hstage⟩ := hother j o' k ho' (session_of_closes hk)
    rw [hstage] at hk
    cases hk
  · obtain ⟨rfl, -, -⟩ := hother j o' k ho' (session_of_places hk)
    exact Or.inr rfl
  · obtain rfl : s.sessions.length = j := Option.some.inj hj
    simp [State.openSession, State.setOffer]
  · obtain ⟨hapart', hnot, hlt⟩ := h.stops j r hr
    refine ⟨?_, fun hr' => hlt.ne (hopen _ hr'), ?_⟩
    · rw [hwakes _ hlt]
      exact hapart'
    · simp [State.openSession, State.setOffer]
      omega
  · obtain ⟨hnot, hlt⟩ := h.closers j r hr
    refine ⟨fun hr' => hlt.ne (hopen _ hr'), ?_⟩
    simp [State.openSession, State.setOffer]
    omega

/-- The head of the line closes a session, and waits for that. -/
lemma Inv.close_setOffer {stage : Stage} (h : s.Inv) (ho : s.offers[i]? = some o)
    (hhead : s.line.head? = some i) (hk : ∀ j, stage.session? = some j → j = k)
    (hmine : Apart s.wake o.wake (s.sessionWake k) ∧ k < s.sessions.length)
    (hplace : ∀ j, stage.places? = some j → s.session = none ∨ s.session = some j) :
    ((s.closeSession k).setOffer i stage).Inv := by
  have hs := same_closeSession s k
  refine (h.same hs).setOffer (hs.offers ▸ ho) (hs.line ▸ hhead) (fun j hj => ?_)
    (fun j hj => ?_) fun j hj => ?_
  · rw [hk j hj, hs.wake, hs.sessionWake, hs.count]
    exact hmine
  · rw [hk j (session_of_closes hj)]
    exact not_open_closeSession s k
  · rw [hs.session]
    exact hplace j hj

lemma apart_of_eq {wake captured : Option ℕ} (h : wake = captured) (w : Option (Option ℕ)) :
    Apart wake captured w := fun _ hw hne => absurd (h.symm.trans hw) hne

lemma Inv.onConnection (h : s.Inv) (ho : s.offers[i]? = some o) (hhead : s.line.head? = some i) :
    (s.onConnection i o).Inv := by
  unfold State.onConnection
  split
  · exact h.setOffer_free ho hhead rfl
  · next hgo =>
    have hwake : s.wake = o.wake := by
      by_contra hne
      exact hgo (Or.inl hne)
    split
    · next hnone =>
      refine h.openSession ho hhead hwake fun k hk => ?_
      exact nomatch hnone.symm.trans (h.registered k hk)
    · next k hsession =>
      split
      · exact h.setOffer_free ho hhead rfl
      · refine h.close_setOffer ho hhead ?_ ⟨apart_of_eq hwake _, h.known k hsession⟩ ?_
        · rintro j ⟨⟩
          rfl
        · rintro j ⟨⟩
          exact Or.inr hsession

/-- The session that an offer has started is registered once more. -/
lemma Inv.register (h : s.Inv) (ho : s.offers[i]? = some o) (hhead : s.line.head? = some i)
    (hstage : o.stage = .starting k) (hlt : k < s.sessions.length) :
    ({ s with session := some k } : State).Inv := by
  have hplace := h.place i o k ho (congrArg Stage.places? hstage)
  refine { h with registered := fun j hj => ?_, place := fun j o' k' ho' hk' => ?_,
                  known := fun j hj => ?_ }
  · have hj := h.registered j hj
    rcases hplace with hnone | hsome
    · exact nomatch hnone.symm.trans hj
    · exact hsome.symm.trans hj
  · by_cases hne : j = i
    · subst hne
      rw [← Option.some.inj (ho.symm.trans ho'), hstage] at hk'
      exact Or.inr hk'
    · exact (h.untouched hhead hne ho' (session_of_places hk')).elim
  · rw [← Option.some.inj hj]
    exact hlt

lemma Inv.started {outcome : Outcome} (h : s.Inv) (ho : s.offers[i]? = some o)
    (hhead : s.line.head? = some i) (hstage : o.stage = .starting k) :
    (s.started i o k outcome).Inv := by
  have hmine : Apart s.wake o.wake (s.sessionWake k) ∧ k < s.sessions.length :=
    h.mine i o k ho (congrArg Stage.session? hstage)
  have hfails : (((s.closeStartup (s.sessions[k]?.bind Session.startup)).closeSession k).setOffer i
      (.closingOwn k true)).Inv := by
    have hs := same_closeStartup s (s.sessions[k]?.bind Session.startup)
    refine (h.same hs).close_setOffer (hs.offers ▸ ho) (hs.line ▸ hhead) ?_ ?_ ?_
    · rintro j ⟨⟩
      rfl
    · rw [hs.wake, hs.sessionWake, hs.count]
      exact hmine
    · nofun
  cases outcome with
  | ok =>
    unfold State.started
    dsimp only
    split
    · refine h.close_setOffer ho hhead ?_ hmine nofun
      rintro j ⟨⟩
      rfl
    · exact (h.register ho hhead hstage hmine.2).setOffer_free ho hhead rfl
  | skips => exact hfails
  | fails => exact hfails

lemma Inv.answered {error : Bool} {outcome : Outcome} (h : s.Inv) (ho : s.offers[i]? = some o)
    (hhead : s.line.head? = some i) : (s.answered i o error outcome).Inv := by
  unfold State.answered
  split
  · exact h.setOffer_free ho hhead rfl
  · exact h.endOffer ho hhead

lemma sessionClosed_frame (s : State) (k : ℕ) :
    (s.sessionClosed k).offers = s.offers ∧ (s.sessionClosed k).line = s.line ∧
      (s.sessionClosed k).wake = s.wake ∧ (s.sessionClosed k).sessions = s.sessions ∧
      ((s.sessionClosed k).session = none ∨ (s.sessionClosed k).session = s.session) := by
  unfold State.sessionClosed
  split
  · refine ⟨rfl, rfl, rfl, rfl, ?_⟩
    dsimp only
    split
    · exact Or.inl rfl
    · exact Or.inr rfl
  · exact ⟨rfl, rfl, rfl, rfl, Or.inr rfl⟩

/-- **An offer goes on.** -/
lemma Inv.resumeOffer {outcome : Outcome} (h : s.Inv) (ho : s.offers[i]? = some o) :
    (s.resumeOffer i o outcome).Inv := by
  have hhead : o.stage.Holds → s.line.head? = some i := h.holder i o ho
  unfold State.resumeOffer
  cases hstage : o.stage with
  | inLine =>
    dsimp only
    split
    · next hfirst => exact h.locked ho hfirst
    · exact h
  | handling =>
    rw [hstage] at hhead
    cases outcome with
    | ok => exact h.onConnection ho (hhead trivial)
    | skips => exact h.setOffer_free ho (hhead trivial) rfl
    | fails => exact h.endOffer ho (hhead trivial)
  | refusing =>
    rw [hstage] at hhead
    exact h.setOffer_free ho (hhead trivial) rfl
  | closingOld k =>
    rw [hstage] at hhead
    have hclosed : ¬s.IsOpen k := h.closing i o k ho (congrArg Stage.closes? hstage)
    have hplace := h.place i o k ho (congrArg Stage.places? hstage)
    obtain ⟨hoffers, hline, hwake, hsessions, hsession⟩ := sessionClosed_frame s k
    have hinv := h.sessionClosed hclosed
    have ho' : (s.sessionClosed k).offers[i]? = some o := hoffers ▸ ho
    have hhead' : (s.sessionClosed k).line.head? = some i := hline ▸ hhead trivial
    dsimp only
    split
    · split
      · exact hinv.setOffer_free ho' hhead' rfl
      · next hsame =>
        refine hinv.openSession ho' hhead' (not_not.mp hsame) fun j hj => ?_
        -- what is open is registered, and that is nothing but the session that was closed
        have hj' : s.IsOpen j := by
          obtain ⟨r, hr, hopen⟩ := hj
          exact ⟨r, hsessions ▸ hr, hopen⟩
        have hreg := h.registered j hj'
        rcases hplace with hnone | hsome
        · exact nomatch hnone.symm.trans hreg
        · rw [Option.some.inj (hsome.symm.trans hreg)] at hclosed
          exact hclosed hj'
    · exact h.setOffer_free ho (hhead trivial) rfl
  | starting k =>
    rw [hstage] at hhead
    exact h.started ho (hhead trivial) hstage
  | closingOwn k error =>
    rw [hstage] at hhead
    have hclosed : ¬s.IsOpen k := h.closing i o k ho (congrArg Stage.closes? hstage)
    dsimp only
    split
    · obtain ⟨hoffers, hline, -⟩ := sessionClosed_frame s k
      exact (h.sessionClosed hclosed).setOffer_free (hoffers ▸ ho) (hline ▸ hhead trivial) rfl
    · exact h.setOffer_free ho (hhead trivial) rfl
  | answering error =>
    rw [hstage] at hhead
    exact h.answered ho (hhead trivial)
  | retiring =>
    rw [hstage] at hhead
    exact h.endOffer ho (hhead trivial)
  | ended => exact h

/-! ### Wakes -/

lemma apart_none (captured : Option ℕ) (of : Option (Option ℕ)) : Apart none captured of := by
  simp [Apart]

lemma Inv.retire (h : s.Inv) : s.retire.Inv where
  registered := h.registered
  old := h.old
  wake_lt _ hw := nomatch hw
  current _ hc := nomatch hc
  bound := h.bound
  holder := h.holder
  mine i o k ho hk := ⟨apart_none _ _, (h.mine i o k ho hk).2⟩
  closing := h.closing
  place := h.place
  known := h.known
  stops j r hr := ⟨apart_none _ _, (h.stops j r hr).2⟩
  closers := h.closers

lemma Inv.addStop {r : Stop} (h : s.Inv) (hr : Apart s.wake r.wake (s.sessionWake r.session) ∧
    ¬s.IsOpen r.session ∧ r.session < s.sessions.length) :
    ({ s with stops := s.stops ++ [r] } : State).Inv := by
  refine { h with stops := fun j r' hr' => ?_ }
  have hr' : (s.stops ++ [r])[j]? = some r' := hr'
  rcases List.mem_append.mp (List.mem_of_getElem? hr') with hmem | hmem
  · obtain ⟨j', hj'⟩ := List.getElem?_of_mem hmem
    exact h.stops j' r' hj'
  · rw [List.mem_singleton.mp hmem]
    exact hr

lemma Inv.stop {expected : Option (Option ℕ)} (h : s.Inv) : (s.stop expected).Inv := by
  have hstartup := same_closeStartup s s.startup
  unfold State.stop
  split
  · exact h
  · dsimp only
    split
    · exact (h.same hstartup).retire
    · next k hk =>
      have hs := hstartup.trans (same_closeSession _ k)
      have hinv := h.same hs
      have hsession : s.session = some k := hstartup.session.symm.trans hk
      refine hinv.addStop (r := ⟨k, _, _, true⟩)
        ⟨apart_of_eq rfl _, not_open_closeSession _ k, ?_⟩
      rw [hs.count]
      exact h.known k hsession

lemma Inv.setStop {j : ℕ} {r : Stop} (h : s.Inv) (hr : s.stops[j]? = some r) :
    ({ s with stops := s.stops.set j { r with waits := false } } : State).Inv := by
  have hlt := (List.getElem?_eq_some_iff.mp hr).1
  refine { h with stops := fun j' r' hr' => ?_ }
  have hget : (s.stops.set j { r with waits := false })[j']? = some r' := hr'
  by_cases heq : j = j'
  · subst heq
    rw [List.getElem?_set_self hlt] at hget
    rw [← Option.some.inj hget]
    exact h.stops j r hr
  · rw [List.getElem?_set_ne heq] at hget
    exact h.stops j' r' hget

lemma Inv.resumeStop {j : ℕ} {r : Stop} {outcome : Outcome} (h : s.Inv)
    (hr : s.stops[j]? = some r) : (s.resumeStop j r outcome).Inv := by
  have hset := h.setStop hr
  unfold State.resumeStop
  dsimp only
  split
  · have hclosed := hset.sessionClosed (k := r.session) (h.stops j r hr).2.1
    split
    · exact hclosed
    · exact hclosed.retire
  · exact hset

/-! ### Every step -/

lemma offers_concat {o o' : Offer} {l : List Offer} {j : ℕ} (h : (l ++ [o])[j]? = some o') :
    l[j]? = some o' ∨ o' = o := by
  rcases Nat.lt_trichotomy j l.length with hlt | heq | hgt
  · rw [List.getElem?_append_left hlt] at h
    exact Or.inl h
  · subst heq
    rw [List.getElem?_concat_length] at h
    exact Or.inr (Option.some.inj h).symm
  · rw [List.getElem?_eq_none (by simp; omega)] at h
    cases h

lemma Inv.addOffer (h : s.Inv) (hstage : o.stage = .inLine) :
    ({ s with offers := s.offers ++ [o], line := s.line ++ [s.offers.length] } : State).Inv := by
  refine { h with holder := fun j o' ho' hholds => ?_, mine := fun j o' k ho' hk => ?_,
                  closing := fun j o' k ho' hk => ?_, place := fun j o' k ho' hk => ?_ }
  · rcases offers_concat ho' with hold | rfl
    · exact List.mem_head?_append_of_mem_head? (h.holder j o' hold hholds)
    · rw [hstage] at hholds
      exact hholds.elim
  · rcases offers_concat ho' with hold | rfl
    · exact h.mine j o' k hold hk
    · rw [hstage] at hk
      cases hk
  · rcases offers_concat ho' with hold | rfl
    · exact h.closing j o' k hold hk
    · rw [hstage] at hk
      cases hk
  · rcases offers_concat ho' with hold | rfl
    · exact h.place j o' k hold hk
    · rw [hstage] at hk
      cases hk

lemma Inv.offer {startupId : Option ℤ} (h : s.Inv) : (s.offer startupId).Inv := by
  unfold State.offer
  dsimp only
  split
  · exact h
  · have hinv := h.addOffer (o := ⟨s.wake, s.startup, .inLine⟩) rfl
    split
    · next hline =>
      refine hinv.locked List.getElem?_concat_length ?_
      show (s.line ++ [s.offers.length]).head? = _
      rw [hline]
      rfl
    · exact hinv

/-- A wake with a new startup. -/
lemma Inv.beginStartup {id : ℤ} {live : Bool} (h : s.Inv) : (s.beginStartup id live).Inv := by
  have hs := same_closeStartup s s.startup
  have h' := h.same hs
  have hold : ∀ c w, s.startupWake c = some w →
      (s.beginStartup id live).startupWake c = some w := by
    intro c w hw
    have hw : (s.closeStartup s.startup).startupWake c = some w := hs.startupWake ▸ hw
    obtain ⟨r, hr, rfl⟩ := Option.map_eq_some_iff.mp hw
    have hlt := (List.getElem?_eq_some_iff.mp hr).1
    refine congrArg (Option.map Startup.wake) ((List.getElem?_append_left hlt).trans hr)
  have hcount : (s.closeStartup s.startup).startups.length = s.startups.length := by
    cases s.startup <;> simp [closeStartup]
  have hnew : (s.beginStartup id live).startupWake s.startups.length = some s.clock := by
    have hget : (s.beginStartup id live).startups[s.startups.length]? =
        some ⟨id, s.clock, false⟩ := by
      rw [← hcount]
      exact List.getElem?_concat_length
    rw [startupWake, hget]
    rfl
  -- the number of the wake is new
  have hapart : ∀ captured k, Apart (some s.clock) captured (s.sessionWake k) := by
    rintro captured k w ⟨⟩ - hk
    exact lt_irrefl _ (h.old k _ hk)
  have hsessions : (s.beginStartup id live).sessions = s.sessions := by
    cases hstartup : s.startup <;> simp [State.beginStartup, closeStartup, hstartup]
  have hsession : (s.beginStartup id live).session = s.session := hs.session
  have hopen : ∀ k, (s.beginStartup id live).IsOpen k → s.IsOpen k := by
    rintro k ⟨r, hr, hclosed⟩
    exact ⟨r, hsessions ▸ hr, hclosed⟩
  have hwake : (s.beginStartup id live).sessionWake = s.sessionWake := by
    funext k
    rw [sessionWake, hsessions]
    rfl
  have hlen : (s.beginStartup id live).sessions.length = s.sessions.length := by rw [hsessions]
  have hoffers : (s.beginStartup id live).offers = s.offers := hs.offers
  refine ⟨fun k hk => ?_, fun k w hk => ?_, fun w hw => ?_, fun c hc => ?_, fun k c hk => ?_,
    fun i o ho => ?_, fun i o k ho hk => ?_, fun i o k ho hk hk' => ?_, fun i o k ho hk => ?_,
    fun k hk => ?_, fun j r hr => ?_, fun j r hr => ?_⟩
  · exact hsession.trans (h.registered k (hopen k hk))
  · rw [hwake] at hk
    exact (h.old k w hk).trans (Nat.lt_succ_self _)
  · obtain rfl : s.clock = w := Option.some.inj hw
    exact Nat.lt_succ_self _
  · obtain rfl : s.startups.length = c := Option.some.inj hc
    exact ⟨s.clock, hnew, rfl⟩
  · rw [sessionStartup, hsessions] at hk
    obtain ⟨w, hw, hk'⟩ := h.bound k c hk
    exact ⟨w, hold c w hw, hwake ▸ hk'⟩
  · have hline : (s.beginStartup id live).line = s.line := hs.line
    rw [hoffers] at ho
    rw [hline]
    exact h.holder i o ho
  · rw [hoffers] at ho
    rw [hwake, hlen]
    exact ⟨hapart _ k, (h.mine i o k ho hk).2⟩
  · rw [hoffers] at ho
    exact h.closing i o k ho hk (hopen k hk')
  · rw [hoffers] at ho
    rw [hsession]
    exact h.place i o k ho hk
  · rw [hlen]
    exact h.known k (hsession ▸ hk)
  · obtain ⟨r', hr', hsame, -⟩ := hs.stops j r hr
    obtain ⟨-, hnot, hlt⟩ := h.stops j r' hr'
    rw [hwake, hlen]
    exact ⟨hapart _ _, fun hk => hnot (hsame ▸ hopen _ hk), hsame ▸ hlt⟩
  · obtain ⟨r', hr', hsame⟩ := hs.closers j r hr
    obtain ⟨hnot, hlt⟩ := h.closers j r' hr'
    rw [hlen]
    exact ⟨fun hk => hnot (hsame ▸ hopen _ hk), hsame ▸ hlt⟩

lemma Inv.close (h : s.Inv) (hlt : k < s.sessions.length) (r : Closer) (hr : r.session = k) :
    ({ s.closeSession k with closers := (s.closeSession k).closers ++ [r] } : State).Inv := by
  have hs := same_closeSession s k
  have hinv := h.same hs
  refine { hinv with closers := fun j r' hr' => ?_ }
  have hr' : ((s.closeSession k).closers ++ [r])[j]? = some r' := hr'
  rcases List.mem_append.mp (List.mem_of_getElem? hr') with hmem | hmem
  · obtain ⟨j', hj'⟩ := List.getElem?_of_mem hmem
    exact hinv.closers j' r' hj'
  · rw [List.mem_singleton.mp hmem, hr]
    exact ⟨not_open_closeSession s k, hs.count ▸ hlt⟩

lemma Inv.resumeCloser {j : ℕ} {r : Closer} (h : s.Inv) (hr : s.closers[j]? = some r) :
    ({ s with closers := s.closers.set j { r with waits := false } } : State).Inv := by
  have hlt := (List.getElem?_eq_some_iff.mp hr).1
  refine { h with closers := fun j' r' hr' => ?_ }
  have hget : (s.closers.set j { r with waits := false })[j']? = some r' := hr'
  by_cases heq : j = j'
  · subst heq
    rw [List.getElem?_set_self hlt] at hget
    rw [← Option.some.inj hget]
    exact h.closers j r hr
  · rw [List.getElem?_set_ne heq] at hget
    exact h.closers j' r' hget

/-- **Every step** keeps the sessions in order. -/
lemma Inv.step {a : Action} (h : s.Inv) : (s.step a).Inv := by
  cases a with
  | beginStartup id live => exact h.beginStartup
  | armLive => exact ⟨h.registered, h.old, h.wake_lt, h.current, h.bound, h.holder, h.mine,
      h.closing, h.place, h.known, h.stops, h.closers⟩
  | reconnect => exact ⟨h.registered, h.old, h.wake_lt, h.current, h.bound, h.holder, h.mine,
      h.closing, h.place, h.known, h.stops, h.closers⟩
  | failStartup c => exact h.same (same_closeStartup s (some c))
  | offer startupId => exact h.offer
  | stop expected => exact h.stop
  | close k =>
    simp only [State.step]
    split
    · next hlt => exact h.close hlt _ rfl
    · exact h
  | resume t outcome =>
    cases t with
    | offer i =>
      simp only [State.step]
      split
      · next o ho => exact h.resumeOffer ho
      · exact h
    | stop j =>
      simp only [State.step]
      split
      · next r hr =>
        split
        · exact h.resumeStop hr
        · exact h
      · exact h
    | closer j =>
      simp only [State.step]
      split
      · next r hr =>
        split
        · have hinv := h.resumeCloser hr
          split
          · exact hinv.sessionClosed (h.closers j r hr).1
          · exact hinv
        · exact h
      · exact h

lemma inv (acts : List Action) : (after step start acts).Inv :=
  Throughout.invariant (P := fun _ _ => True) (fun _ _ h _ => h.step) start_inv
    (Throughout.of_forall (fun _ _ => trivial) start acts)

/-! ### A wake that has been replaced -/

/-- Nothing of the wake `w` at hand is touched: the wake, its startup and its sessions. -/
structure Spares (w : ℕ) (s s' : State) : Prop where
  wake : s'.wake = s.wake
  live : s'.live = s.live
  startup : s'.startup = s.startup
  startups : ∀ c, s.startup = some c → s'.startups[c]? = s.startups[c]?
  session : ∀ k, s.session = some k → s.sessionWake k = some (some w) → s'.session = some k
  sessions : ∀ k, s.sessionWake k = some (some w) → s'.sessions[k]? = s.sessions[k]?

variable {w : ℕ}

lemma Spares.refl (w : ℕ) (s : State) : Spares w s s :=
  ⟨rfl, rfl, rfl, fun _ _ => rfl, fun _ h _ => h, fun _ _ => rfl⟩

lemma Spares.trans {s₁ s₂ s₃ : State} (h : Spares w s₁ s₂) (h' : Spares w s₂ s₃) :
    Spares w s₁ s₃ where
  wake := h'.wake.trans h.wake
  live := h'.live.trans h.live
  startup := h'.startup.trans h.startup
  startups c hc := (h'.startups c (h.startup.trans hc)).trans (h.startups c hc)
  session k hk hw := by
    refine h'.session k (h.session k hk hw) ?_
    rw [sessionWake, h.sessions k hw]
    exact hw
  sessions k hw := by
    refine (h'.sessions k ?_).trans (h.sessions k hw)
    rw [sessionWake, h.sessions k hw]
    exact hw

lemma spares_setOffer (w : ℕ) (s : State) (i : ℕ) (stage : Stage) :
    Spares w s (s.setOffer i stage) :=
  ⟨rfl, rfl, rfl, fun _ _ => rfl, fun _ h _ => h, fun _ _ => rfl⟩

lemma spares_endOffer (w : ℕ) (s : State) (i : ℕ) : Spares w s (s.endOffer i) :=
  ⟨rfl, rfl, rfl, fun _ _ => rfl, fun _ h _ => h, fun _ _ => rfl⟩

/-- The startup at hand is of the wake at hand. -/
lemma Inv.spares_closeStartup (h : s.Inv) (hw : s.wake = some w)
    (hc : s.startupWake c ≠ some w) : Spares w s (s.closeStartup (some c)) := by
  refine ⟨rfl, rfl, rfl, fun c' hc' => ?_, fun _ h _ => h, fun _ _ => rfl⟩
  have hne : c ≠ c' := by
    rintro rfl
    obtain ⟨w', hw', hcur⟩ := h.current c hc'
    exact hc (hw'.trans (hcur.symm.trans hw))
  simp [closeStartup, hne]

lemma Inv.spares_closeSession (h : s.Inv) (hw : s.wake = some w)
    (hk : s.sessionWake k ≠ some (some w)) : Spares w s (s.closeSession k) := by
  unfold State.closeSession
  split
  · next startup deviceWake hget =>
    have hset : Spares w s { s with sessions := s.sessions.set k ⟨startup, deviceWake, true⟩ } := by
      refine ⟨rfl, rfl, rfl, fun _ _ => rfl, fun _ h _ => h, fun j hj => ?_⟩
      have hne : k ≠ j := by
        rintro rfl
        exact hk hj
      exact List.getElem?_set_ne hne
    refine hset.trans ?_
    cases startup with
    | none => exact Spares.refl w _
    | some c =>
      refine (h.same (same_setClosed hget)).spares_closeStartup hw ?_
      have hstartup : s.sessionStartup k = some (some c) := by
        rw [sessionStartup, hget]
        rfl
      obtain ⟨w', hw', hsame⟩ := h.bound k c hstartup
      intro hc
      rw [Option.some.inj (hw'.symm.trans hc)] at hsame
      exact hk hsame
  · exact Spares.refl w s

lemma Inv.spares_sessionClosed (h : s.Inv) (hw : s.wake = some w)
    (hk : s.sessionWake k ≠ some (some w)) : Spares w s (s.sessionClosed k) := by
  unfold State.sessionClosed
  split
  · next r hr =>
    refine ⟨rfl, rfl, ?_, fun _ _ => rfl, fun j hj hwake => ?_, fun _ _ => rfl⟩
    · show (if s.startup = r.startup then none else s.startup) = s.startup
      split
      · next hsame =>
        cases hc : s.startup with
        | none => rfl
        | some c =>
          have hstartup : s.sessionStartup k = some (some c) := by
            rw [sessionStartup, hr]
            exact congrArg some (hsame.symm.trans hc)
          obtain ⟨w', hw', hsession⟩ := h.bound k c hstartup
          obtain ⟨w'', hw'', hcur⟩ := h.current c hc
          have heq : w' = w := by
            rw [Option.some.inj (hw'.symm.trans hw''), Option.some.inj (hcur.symm.trans hw)]
          exact absurd (heq ▸ hsession) hk
      · rfl
    · have hne : s.session ≠ some k := by
        rintro hj'
        obtain rfl : j = k := Option.some.inj (hj.symm.trans hj')
        exact hk hwake
      exact (if_neg hne).trans hj
  · exact Spares.refl w s

/-- An offer whose wake has been replaced. -/
lemma Inv.spares_resumeOffer {outcome : Outcome} (h : s.Inv) (ho : s.offers[i]? = some o)
    (hw : s.wake = some w) (hpast : o.wake ≠ some w) :
    Spares w s (s.resumeOffer i o outcome) := by
  have hne : s.wake ≠ o.wake := fun heq => hpast (heq.symm.trans hw)
  have hmine : ∀ k, o.stage.session? = some k → s.sessionWake k ≠ some (some w) :=
    fun k hk => (h.mine i o k ho hk).1 w hw hpast
  unfold State.resumeOffer
  cases hstage : o.stage with
  | inLine =>
    dsimp only
    split
    · rw [State.locked, if_pos (Or.inl hne)]
      exact spares_endOffer w s i
    · exact Spares.refl w s
  | handling =>
    cases outcome with
    | ok =>
      dsimp only
      rw [State.onConnection, if_pos (Or.inl hne)]
      exact spares_setOffer w s i _
    | skips => exact spares_setOffer w s i _
    | fails => exact spares_endOffer w s i
  | refusing => exact spares_setOffer w s i _
  | closingOld k =>
    have hclosed := h.spares_sessionClosed hw (hmine k (congrArg Stage.session? hstage))
    dsimp only
    split
    · rw [if_pos (hclosed.wake.trans_ne hne)]
      exact hclosed.trans (spares_setOffer w _ i _)
    · exact spares_setOffer w s i _
  | starting k =>
    have hk := hmine k (congrArg Stage.session? hstage)
    have hfails : Spares w s (((s.closeStartup (s.sessions[k]?.bind Session.startup)).closeSession
        k).setOffer i (.closingOwn k true)) := by
      have hs := same_closeStartup s (s.sessions[k]?.bind Session.startup)
      have hstartup : Spares w s (s.closeStartup (s.sessions[k]?.bind Session.startup)) := by
        cases hc : s.sessions[k]?.bind Session.startup with
        | none => exact Spares.refl w s
        | some c =>
          obtain ⟨r, hr, hrc⟩ := Option.bind_eq_some_iff.mp hc
          have hsession : s.sessionStartup k = some (some c) := by
            rw [sessionStartup, hr]
            exact congrArg some hrc
          obtain ⟨w', hw', hsame⟩ := h.bound k c hsession
          refine h.spares_closeStartup hw fun hcw => hk ?_
          rw [hsame, Option.some.inj (hw'.symm.trans hcw)]
      refine hstartup.trans (Spares.trans ?_ (spares_setOffer w _ i _))
      refine (h.same hs).spares_closeSession (hs.wake.trans hw) ?_
      rw [hs.sessionWake]
      exact hk
    cases outcome with
    | ok =>
      dsimp only [State.started]
      rw [if_pos (Or.inl hne)]
      exact (h.spares_closeSession hw hk).trans (spares_setOffer w _ i _)
    | skips => exact hfails
    | fails => exact hfails
  | closingOwn k error =>
    dsimp only
    split
    · exact (h.spares_sessionClosed hw (hmine k (congrArg Stage.session? hstage))).trans
        (spares_setOffer w _ i _)
    · exact spares_setOffer w s i _
  | answering error =>
    dsimp only [State.answered]
    split
    · exact spares_setOffer w s i _
    · exact spares_endOffer w s i
  | retiring => exact spares_endOffer w s i
  | ended => exact Spares.refl w s

/-- A stop whose wake has been replaced. -/
lemma Inv.spares_resumeStop {j : ℕ} {r : Stop} {outcome : Outcome} (h : s.Inv)
    (hr : s.stops[j]? = some r) (hw : s.wake = some w) (hpast : r.wake ≠ some w) :
    Spares w s (s.resumeStop j r outcome) := by
  have hk := (h.stops j r hr).1 w hw hpast
  have hset : Spares w s { s with stops := s.stops.set j { r with waits := false } } :=
    ⟨rfl, rfl, rfl, fun _ _ => rfl, fun _ h _ => h, fun _ _ => rfl⟩
  unfold State.resumeStop
  dsimp only
  split
  · have hclosed := (h.setStop hr).spares_sessionClosed hw hk
    rw [if_pos]
    · exact hset.trans hclosed
    · exact Or.inr (Or.inl fun heq => hpast (heq.symm.trans (hclosed.wake.trans hw)))
  · exact hset

/-- The wake that a task belongs to: the one that an offer or a stop has read, or that of the
session that is closed. -/
def captured (s : State) : Task → Option (Option ℕ)
  | .offer i => s.offers[i]?.map Offer.wake
  | .stop j => s.stops[j]?.map Stop.wake
  | .closer j => s.closers[j]?.bind fun r => s.sessionWake r.session

/-- **What goes on for another wake** leaves the wake at hand alone. -/
lemma Inv.spares_resume {t : Task} {outcome : Outcome} (h : s.Inv) (hw : s.wake = some w)
    (hpast : s.captured t ≠ some (some w)) : Spares w s (s.step (.resume t outcome)) := by
  cases t with
  | offer i =>
    simp only [State.step]
    split
    · next o ho =>
      refine h.spares_resumeOffer ho hw fun heq => hpast ?_
      rw [captured, ho]
      exact congrArg some heq
    · exact Spares.refl w s
  | stop j =>
    simp only [State.step]
    split
    · next r hr =>
      split
      · refine h.spares_resumeStop hr hw fun heq => hpast ?_
        rw [captured, hr]
        exact congrArg some heq
      · exact Spares.refl w s
    · exact Spares.refl w s
  | closer j =>
    simp only [State.step]
    split
    · next r hr =>
      have hk : s.sessionWake r.session ≠ some (some w) := by
        intro heq
        refine hpast ?_
        rw [captured, hr]
        exact heq
      have hset : Spares w s { s with closers := s.closers.set j { r with waits := false } } :=
        ⟨rfl, rfl, rfl, fun _ _ => rfl, fun _ h _ => h, fun _ _ => rfl⟩
      split
      · split
        · exact hset.trans ((h.resumeCloser hr).spares_sessionClosed hw hk)
        · exact hset
      · exact Spares.refl w s
    · exact Spares.refl w s

/-- An offer whose wake has been replaced closes the session that it has started. -/
lemma started_closes {outcome : Outcome} (hne : s.wake ≠ o.wake) :
    ¬(s.started i o k outcome).IsOpen k := by
  cases outcome with
  | ok =>
    dsimp only [State.started]
    rw [if_pos (Or.inl hne)]
    exact not_open_closeSession s k
  | skips => exact not_open_closeSession _ k
  | fails => exact not_open_closeSession _ k

end State

/-- **One peer at a time**. In every run of offers, wakes, stops and closes, with every call able to
fail, at most one session of the device is open, and that one is registered. What an offer, a stop
or a close does behind a wake that is not its own leaves that wake, its startup and its sessions as
they are; and an offer closes the session that it has started if its wake was replaced meanwhile. -/
theorem one_peer (acts : List Action) :
    let s := after State.step State.start acts
    (∀ j k, s.IsOpen j → s.IsOpen k → j = k) ∧ (∀ k, s.IsOpen k → s.session = some k) ∧
      (∀ t outcome w, s.wake = some w → s.captured t ≠ some (some w) →
        State.Spares w s (s.step (.resume t outcome))) ∧
      ∀ (i : ℕ) (o : Offer) k outcome, s.offers[i]? = some o → o.stage = .starting k →
        s.wake ≠ o.wake → ¬(s.step (.resume (.offer i) outcome)).IsOpen k := by
  intro s
  have h : s.Inv := State.inv acts
  refine ⟨fun j k hj hk => ?_, h.registered, fun t outcome w hw hpast => h.spares_resume hw hpast,
    fun i o k outcome ho hstage hne => ?_⟩
  · exact Option.some.inj ((h.registered j hj).symm.trans (h.registered k hk))
  · have hstep : s.step (.resume (.offer i) outcome) = s.started i o k outcome := by
      simp only [State.step, ho, State.resumeOffer, hstage]
    rw [hstep]
    exact State.started_closes hne

/-- A wake is replaced while the session of its offer starts. -/
example :
    let s := after State.step State.start [.beginStartup 1 true, .offer (some 1),
      .resume (.offer 0) .ok, .beginStartup 2 true, .offer (some 2), .resume (.offer 0) .ok,
      .resume (.offer 0) .ok, .resume (.offer 0) .ok, .resume (.offer 0) .ok,
      .resume (.offer 1) .ok, .resume (.offer 1) .ok, .resume (.offer 1) .ok]
    s.session = some 1 ∧ s.sessions.map Session.closed = [true, false] ∧
      s.startups.map Startup.closed = [true, false] := by
  decide

end Vauxr.Peers
