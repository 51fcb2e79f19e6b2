import Mathlib
import Vauxr.Lib.Since
import Vauxr.RateLimits

/-!
What a commit does to the owner row.

The mode, the verifier, the claim, the pending token and the sessions share one row, which nine
operations rewrite. Every commit of every service is one of the moves listed here, each with what
its body has checked.
-/

namespace Vauxr

open Lib

namespace Owner

/-- What `_save_authority` keeps of the sessions: the origin. -/
def emptied (sessions : Option Sessions) : Option Sessions :=
  sessions.map fun t => { t with entries := Dict.empty }

/-- The sessions that a login finds unexpired. -/
def unexpired (c : Ctx) (t : Sessions) : Dict String ℚ := t.entries.filter fun _ e => c.now < e

/-- The digest of the origin that the process serves. -/
def served (c : Ctx) : String := c.verifier c.origin.1

/-- One commit, in what it does to the owner row. -/
inductive Moves (c : Ctx) (call : Call) (m m' : Snapshot) : Prop
  | same : m'.owner = m.owner → Moves c call m m'
  | rated (s : OwnerState) (attempts : Option (List ℚ)) : m.owner = some s →
      m'.owner = some { s with attempts } → Moves c call m m'
  | missed (s : OwnerState) (code : Json) : call = .claim code → m.owner = some s →
      m'.owner = some { s with claimAttempts := some (min 5 (s.claimAttempts.getD 0 + 1)) } →
      Moves c call m m'
  | claimed (s : OwnerState) (code : Json) : call = .claim code → m.owner = some s →
      s.mode.active = false → s.claimExpires.any (c.now < ·) = true →
      s.claimAttempts.getD 0 < 5 → isSecret c code s.claim = true →
      m'.owner = some { s with
        claim := none
        pending := some ⟨c.verifier ("vx_op_" ++ c.draws.token.1),
          c.verifier c.draws.acknowledgement.1, c.now + claimSeconds⟩ } → Moves c call m m'
  | acknowledged (s : OwnerState) (p : Pending) (acknowledgement saved : Json) :
      call = .acknowledge acknowledgement saved → m.owner = some s → s.pending = some p →
      saved.bool? = some true → c.now < p.expires →
      isSecret c acknowledgement (some p.ack) = true →
      m'.owner = some { fresh .generated s.generation with
        verifier := some p.verifier, sessions := emptied s.sessions } → Moves c call m m'
  | drawn (recover : Bool) : call = .console recover → c.override = none →
      (∀ s, m.owner = some s → s.mode ≠ .environment) →
      (recover = true ∨ ∀ s, m.owner = some s → s.mode = .unclaimed) →
      m'.owner = some { fresh (if recover then .recovery else .unclaimed)
          c.draws.generation.1 with
        claim := some (c.verifier c.draws.claim.1)
        claimExpires := some (c.now + claimSeconds)
        claimAttempts := some 0
        sessions := emptied (m.owner.bind (·.sessions)) } → Moves c call m m'
  | configured (token : String) : call = .ownerInit ∨ call = .start → c.override = some token →
      (∀ s, m.owner = some s → s.mode = .environment → s.verifier ≠ some (c.verifier token)) →
      m'.owner = some { fresh .environment c.draws.generation.1 with
        verifier := some (c.verifier token)
        sessions := emptied (m.owner.bind (·.sessions)) } → Moves c call m m'
  | withdrawn (mode : OwnerMode) : call = .ownerInit ∨ call = .start → c.override = none →
      mode.active = false → (∀ s, m.owner = some s → s.mode = .environment) →
      m'.owner = some { fresh mode c.draws.generation.1 with
        sessions := emptied (m.owner.bind (·.sessions)) } → Moves c call m m'
  | bound (s : OwnerState) : call = .ownerInit ∨ call = .start → m.owner = some s →
      s.sessions.map (·.origin) ≠ some (served c) →
      m'.owner = some { s with sessions := some ⟨served c, Dict.empty⟩ } → Moves c call m m'
  | login (s : OwnerState) (t : Sessions) (token : Json) : call = .login token →
      m.owner = some s → s.mode.active = true → isSecret c token s.verifier = true →
      s.sessions = some t → t.origin = served c → (unexpired c t).size < 100 →
      m'.owner = some { s with sessions := some { t with
        entries := (unexpired c t).set (c.verifier c.draws.cookie.1)
          (c.now + sessionSeconds) } } → Moves c call m m'
  | logout (s : OwnerState) (t : Sessions) (cookie : String) : call = .logout cookie →
      m.owner = some s → s.sessions = some t → t.origin = served c →
      m'.owner = some { s with sessions := some { t with
        entries := t.entries.erase (c.verifier cookie) } } → Moves c call m m'

variable {c : Ctx} {call : Call} {m m' : Snapshot}

/-! ### The bodies of the owner -/

/-- What `_save_authority` writes, of a state without sessions. -/
lemma saved_owner {α : Type} {state : OwnerState} {result x : Except Error α} {s : Snapshot}
    {w : Write} (h : saveAuthority m state result = .save s w x) (hstate : state.sessions = none) :
    (w.next s).owner = some { state with sessions := emptied (m.owner.bind (·.sessions)) } := by
  cases h
  show some _ = some _
  rw [hstate, Option.or_none]
  rfl

lemma rateBody_moves (h : Writes (rateBody c m) m') : Moves c call m m' := by
  obtain ⟨s, w, x, hb, rfl⟩ := h
  simp only [rateBody, bind_eq_ok, demand_eq_ok] at hb
  obtain ⟨-, -, state, hstate, hb⟩ := hb
  cases hb
  exact .rated state _ hstate rfl

lemma claimBody_moves {code : Json} (h : Writes (claimBody c code m) m') :
    Moves c (.claim code) m m' := by
  obtain ⟨s, w, x, hb, rfl⟩ := h
  simp only [claimBody, bind_eq_ok, demand_eq_ok] at hb
  obtain ⟨state, hstate, hb⟩ := hb
  split at hb
  · next hvalid =>
    simp only [Bool.and_eq_true, Bool.not_eq_true', decide_eq_true_eq] at hvalid
    obtain ⟨⟨⟨hmode, hexpires⟩, hattempts⟩, hsecret⟩ := hvalid
    cases hb
    exact .claimed state code rfl hstate hmode hexpires hattempts hsecret rfl
  · split at hb
    · cases hb
      exact .missed state code rfl hstate rfl
    · cases hb

lemma acknowledgeBody_moves {acknowledgement saved : Json}
    (h : Writes (acknowledgeBody c acknowledgement saved m) m') :
    Moves c (.acknowledge acknowledgement saved) m m' := by
  obtain ⟨s, w, x, hb, rfl⟩ := h
  simp only [acknowledgeBody, bind_eq_ok, demand_eq_ok, refuse_eq_ok, exists_const,
    Bool.or_eq_false_iff, decide_eq_false_iff_not, not_not, not_le, Bool.not_eq_false'] at hb
  obtain ⟨state, hstate, p, hp, ⟨⟨hsaved, hexpires⟩, hsecret⟩, hb⟩ := hb
  refine .acknowledged state p acknowledgement saved rfl hstate hp hsaved hexpires hsecret ?_
  rw [saved_owner (Except.ok.inj hb) rfl, hstate]
  rfl

lemma consoleClaimBody_moves {recover : Bool} (h : Writes (consoleClaimBody c recover m) m') :
    Moves c (.console recover) m m' := by
  obtain ⟨s, w, x, hb, rfl⟩ := h
  simp only [consoleClaimBody, bind_eq_ok, refuse_eq_ok, exists_const, Bool.or_eq_false_iff,
    Bool.and_eq_false_imp, Bool.not_eq_true', Option.any_eq_false, decide_eq_false_iff_not,
    not_not, Option.isSome_eq_false_iff, Option.isNone_iff_eq_none] at hb
  obtain ⟨⟨hover, hmode⟩, -, hclaimed, hb⟩ := hb
  refine .drawn recover rfl hover (fun s hs => hmode s hs) ?_ (saved_owner (Except.ok.inj hb) rfl)
  cases recover with
  | true => exact Or.inl rfl
  | false => exact Or.inr fun s hs => hclaimed rfl s hs

lemma initializeBody_moves (hcall : call = .ownerInit ∨ call = .start)
    (h : Writes (initializeBody c m) m') : Moves c call m m' := by
  obtain ⟨s, w, x, hb, rfl⟩ := h
  unfold initializeBody at hb
  dsimp only at hb
  split at hb
  · next token htoken =>
    split at hb
    · next hnew =>
      refine .configured token hcall htoken (fun s hs hmode hverifier => ?_)
        (saved_owner (Except.ok.inj hb) rfl)
      rw [hs] at hnew
      simp [hmode, hverifier] at hnew
    · cases hb
  · next hnone =>
    split at hb
    · next henv =>
      refine .withdrawn .recovery hcall hnone rfl (fun s hs => ?_)
        (saved_owner (Except.ok.inj hb) rfl)
      rw [hs] at henv
      exact Option.some.inj henv
    · split at hb
      · next hmode =>
        refine .withdrawn .unclaimed hcall hnone rfl (fun s hs => ?_)
          (saved_owner (Except.ok.inj hb) rfl)
        rw [hs] at hmode
        cases hmode
      · cases hb

lemma bindOriginBody_moves (hcall : call = .ownerInit ∨ call = .start)
    (h : Writes (bindOriginBody c m) m') : Moves c call m m' := by
  obtain ⟨s, w, x, hb, rfl⟩ := h
  simp only [bindOriginBody, bind_eq_ok, demand_eq_ok] at hb
  obtain ⟨state, hstate, hb⟩ := hb
  split at hb
  · next hne =>
    cases hb
    exact .bound state hcall hstate hne rfl
  · cases hb

/-- The sessions, where they are of the origin that is served. -/
lemma sessions_eq_ok {state : OwnerState} {t : Sessions} :
    sessions c state = .ok t ↔ state.sessions = some t ∧ t.origin = served c := by
  rw [sessions, demand_eq_ok, Option.filter_eq_some_iff, beq_iff_eq]
  rfl

lemma loginBody_moves {token : Json} (h : Writes (loginBody c token m) m') :
    Moves c (.login token) m m' := by
  obtain ⟨s, w, x, hb, rfl⟩ := h
  simp only [loginBody, bind_eq_ok, demand_eq_ok, refuse_eq_ok, exists_const, sessions_eq_ok,
    Bool.or_eq_false_iff, Bool.not_eq_false', decide_eq_false_iff_not, not_le] at hb
  obtain ⟨state, hstate, ⟨hmode, hsecret⟩, t, ⟨ht, horigin⟩, hsize, hb⟩ := hb
  cases hb
  exact .login state t token rfl hstate hmode hsecret ht horigin hsize rfl

lemma logoutBody_moves {cookie : String} (h : Writes (logoutBody c cookie m) m') :
    Moves c (.logout cookie) m m' := by
  obtain ⟨s, w, x, hb, rfl⟩ := h
  simp only [logoutBody, bind_eq_ok, demand_eq_ok, sessions_eq_ok] at hb
  obtain ⟨state, hstate, t, ⟨ht, horigin⟩, hb⟩ := hb
  split at hb
  · cases hb
    exact .logout state t cookie rfl hstate ht horigin rfl
  · cases hb

end Owner

/-! ### Every commit -/

variable {c : Ctx} {call : Call} {m m' : Snapshot}

/-- **Every commit of every service** moves the owner row in one of these ways. -/
theorem Wrote.moves (h : Wrote c call m m') : Owner.Moves c call m m' := by
  cases h with
  | console recover hcall hb => exact hcall ▸ Owner.consoleClaimBody_moves hb
  | ownerRate hcall hb => exact Owner.rateBody_moves hb
  | claim code hcall hb => exact hcall ▸ Owner.claimBody_moves hb
  | acknowledge acknowledgement saved hcall hb => exact hcall ▸ Owner.acknowledgeBody_moves hb
  | login token hcall hb => exact hcall ▸ Owner.loginBody_moves hb
  | logout cookie hcall hb => exact hcall ▸ Owner.logoutBody_moves hb
  | ownerInit hcall hb => exact Owner.initializeBody_moves hcall hb
  | bindOrigin hcall hb => exact Owner.bindOriginBody_moves hcall hb
  | sweep blocked hblocks he => exact he ▸ .same rfl
  | mark he => exact he ▸ .same rfl
  | agentsSweep ids hs => exact .same hs.owner
  | enrollment action body resolve k hcall hk hb =>
    exact .same (Enrollment.body_apart m' hb).owner
  | enrollmentRate hcall hb =>
    obtain ⟨s, w, x, hb, rfl⟩ := hb
    simp only [Enrollment.rateBody, bind_eq_ok] at hb
    obtain ⟨-, -, hb⟩ := hb
    cases hb
    exact .same rfl
  | bindConsumed hcall hb => exact .same (Enrollment.bindBody_apart m' hb).owner
  | lifecycle action body resolve k hcall hk hb => exact .same (Lifecycle.body_apart m' hb).owner
  | integration action body resolve k b hcall hk hbody hb =>
    exact .same (Integration.bodyOf_aside hbody m' hb).owner
  | agentCreate action body resolve client origin name expiresAt terms hcall hk ht hn ha hb =>
    exact .same (Integration.createBody_aside m' hb).owner
  | agentComplete action body resolve client credential saved row r hcall hk hack hb =>
    exact .same (Integration.completeBody_aside m' hb).owner

/-- The states of the owner row that one step of a run passes through. -/
abbrev Owner.Path (c : Ctx) (call : Call) : Snapshot → Snapshot → Prop :=
  Relation.ReflTransGen (Owner.Moves c call)

end Vauxr
