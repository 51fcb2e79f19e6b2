import Mathlib
import Vauxr.OwnerMoves
import Vauxr.Sample

/-!
The sessions of the owner, over runs.

A cookie is looked up in the row as it is; here it is traced to where its acceptance comes from:
the login, the token the login was made with, the claim that brought the token, and the code on
the console that the claim was made with. Each link is one `Since` over the run.
-/

namespace Vauxr

open Lib

namespace Owner

/-! ### What the row holds -/

/-- An authority that can log in. -/
structure Authority where
  mode : OwnerMode
  generation : String
  verifier : String

/-- The authority is the one in force. -/
def Authority.InForce (a : Authority) (m : Snapshot) : Prop :=
  ∃ s, m.owner = some s ∧ s.mode = a.mode ∧ s.generation = a.generation ∧
    s.verifier = some a.verifier

/-- A session under an authority, as it is stored for an origin. -/
structure Grant where
  authority : Authority
  origin : String
  digest : String
  expires : ℚ

structure Grant.Stored (g : Grant) (m : Snapshot) : Prop where
  inForce : g.authority.InForce m
  entry : ∃ t, m.owner.bind (·.sessions) = some t ∧ t.origin = g.origin ∧
    t.entries.get? g.digest = some g.expires

/-- A claimed token waits for its acknowledgement. -/
def Awaits (p : Pending) (m : Snapshot) : Prop := m.owner.bind (·.pending) = some p

/-- A claim code of this digest is out, until `e`. -/
def Shows (d : String) (e : ℚ) (m : Snapshot) : Prop :=
  m.owner.bind (·.claim) = some d ∧ m.owner.bind (·.claimExpires) = some e

/-- The wrong codes that were counted against the claim. -/
def wrong (m : Snapshot) : ℤ := (m.owner.bind (·.claimAttempts)).getD 0

/-! ### What a call does -/

/-- A login with this token issues the session. -/
structure Grant.Issued (g : Grant) (c : Ctx) (token : Json) : Prop where
  active : g.authority.mode.active = true
  secret : isSecret c token (some g.authority.verifier) = true
  origin : g.origin = served c
  digest : g.digest = c.verifier c.draws.cookie.1
  expires : g.expires = c.now + sessionSeconds

/-- The environment sets the authority at a start. -/
structure Authority.Configured (a : Authority) (c : Ctx) (call : Call) : Prop where
  call : call = .ownerInit ∨ call = .start
  mode : a.mode = .environment
  token : ∃ token, c.override = some token ∧ a.verifier = c.verifier token

/-- The acknowledgement of a claimed token makes it the authority. -/
structure Authority.Acknowledged (a : Authority) (c : Ctx) (call : Call) (p : Pending) : Prop where
  call : ∃ acknowledgement saved, call = .acknowledge acknowledgement saved ∧
    saved.bool? = some true ∧ isSecret c acknowledgement (some p.ack) = true
  mode : a.mode = .generated
  verifier : a.verifier = p.verifier
  live : c.now < p.expires

/-- A claim with the code of this digest is handed a new token. -/
structure Claims (c : Ctx) (call : Call) (p : Pending) (d : String) (e : ℚ) : Prop where
  call : ∃ code, call = .claim code ∧ isSecret c code (some d) = true
  live : c.now < e
  pending : p = ⟨c.verifier ("vx_op_" ++ c.draws.token.1),
    c.verifier c.draws.acknowledgement.1, c.now + claimSeconds⟩

/-- The console draws the code of this digest. -/
structure DrawsCode (c : Ctx) (call : Call) (d : String) (e : ℚ) : Prop where
  call : ∃ recover, call = .console recover
  override : c.override = none
  digest : d = c.verifier c.draws.claim.1
  expires : e = c.now + claimSeconds

/-! ### One commit, backwards -/

section Moves

variable {c : Ctx} {call : Call} {m m' : Snapshot} {a : Authority} {g : Grant} {p : Pending}
  {d : String} {e : ℚ}

lemma Authority.InForce.congr (h : m'.owner = m.owner) (ha : a.InForce m') : a.InForce m := by
  unfold InForce at ha ⊢
  rwa [h] at ha

/-- A row that keeps mode, generation and verifier keeps the authority. -/
lemma Authority.InForce.of_row {s s' : OwnerState} (hs : m.owner = some s)
    (hs' : m'.owner = some s') (hmode : s'.mode = s.mode) (hgen : s'.generation = s.generation)
    (hver : s'.verifier = s.verifier) (ha : a.InForce m') : a.InForce m := by
  obtain ⟨s₁, hs₁, h1, h2, h3⟩ := ha
  obtain rfl := Option.some.inj (hs'.symm.trans hs₁)
  exact ⟨s, hs, hmode ▸ h1, hgen ▸ h2, hver ▸ h3⟩

/-- An authority comes into force when it is configured or acknowledged. -/
lemma Moves.inForce (h : Moves c call m m') (ha : a.InForce m') :
    a.InForce m ∨ a.Configured c call ∨ ∃ p, Awaits p m ∧ a.Acknowledged c call p := by
  cases h with
  | same he => exact Or.inl (ha.congr he)
  | rated s _ hs he => exact Or.inl (ha.of_row hs he rfl rfl rfl)
  | missed s _ _ hs he => exact Or.inl (ha.of_row hs he rfl rfl rfl)
  | claimed s _ _ hs _ _ _ _ he => exact Or.inl (ha.of_row hs he rfl rfl rfl)
  | bound s _ hs _ he => exact Or.inl (ha.of_row hs he rfl rfl rfl)
  | login s _ _ _ hs _ _ _ _ _ he => exact Or.inl (ha.of_row hs he rfl rfl rfl)
  | logout s _ _ _ hs _ _ he => exact Or.inl (ha.of_row hs he rfl rfl rfl)
  | acknowledged s p acknowledgement saved hcall hs hp hsaved hlive hsecret he =>
    obtain ⟨s', hs', h1, -, h3⟩ := ha
    obtain rfl := Option.some.inj (he.symm.trans hs')
    refine Or.inr (Or.inr ⟨p, ?_, ⟨acknowledgement, saved, hcall, hsaved, hsecret⟩, h1.symm,
      (Option.some.inj h3).symm, hlive⟩)
    rw [Awaits, hs]
    exact hp
  | configured token hcall htoken _ he =>
    obtain ⟨s', hs', h1, -, h3⟩ := ha
    obtain rfl := Option.some.inj (he.symm.trans hs')
    exact Or.inr (Or.inl ⟨hcall, h1.symm, token, htoken, (Option.some.inj h3).symm⟩)
  | drawn _ _ _ _ _ he | withdrawn _ _ _ _ _ he =>
    -- a row without a verifier is no authority
    obtain ⟨s', hs', -, -, h3⟩ := ha
    obtain rfl := Option.some.inj (he.symm.trans hs')
    cases h3

/-- Rewritten sessions that are empty hold no session. -/
lemma Grant.Stored.absurd_empty {s' : OwnerState} (hg : g.Stored m') (hs' : m'.owner = some s')
    (hempty : ∀ t, s'.sessions = some t → t.entries = Dict.empty) : False := by
  obtain ⟨t, ht, -, hget⟩ := hg.entry
  rw [hs'] at ht
  rw [hempty t ht] at hget
  cases hget

lemma emptied_entries {sessions : Option Sessions} {t : Sessions} (h : emptied sessions = some t) :
    t.entries = Dict.empty := by
  obtain ⟨t', -, rfl⟩ := Option.map_eq_some_iff.mp h
  rfl

/-- A row that keeps its sessions keeps the session. -/
lemma Grant.Stored.of_row {s s' : OwnerState} (hs : m.owner = some s) (hs' : m'.owner = some s')
    (hmode : s'.mode = s.mode) (hgen : s'.generation = s.generation)
    (hver : s'.verifier = s.verifier) (hsessions : s'.sessions = s.sessions)
    (hg : g.Stored m') : g.Stored m := by
  refine ⟨hg.inForce.of_row hs hs' hmode hgen hver, ?_⟩
  obtain ⟨t, ht, hentry⟩ := hg.entry
  rw [hs'] at ht
  refine ⟨t, ?_, hentry⟩
  rw [hs]
  exact hsessions.symm.trans ht

/-- A session is stored by its login. -/
lemma Moves.stored (h : Moves c call m m') (hg : g.Stored m') :
    g.Stored m ∨ ∃ token, call = .login token ∧ g.Issued c token := by
  cases h with
  | same he =>
    refine Or.inl ⟨hg.inForce.congr he, ?_⟩
    rw [← he]
    exact hg.entry
  | rated s _ hs he => exact Or.inl (hg.of_row hs he rfl rfl rfl rfl)
  | missed s _ _ hs he => exact Or.inl (hg.of_row hs he rfl rfl rfl rfl)
  | claimed s _ _ hs _ _ _ _ he => exact Or.inl (hg.of_row hs he rfl rfl rfl rfl)
  | acknowledged _ _ _ _ _ _ _ _ _ _ he => exact (hg.absurd_empty he fun _ => emptied_entries).elim
  | drawn _ _ _ _ _ he => exact (hg.absurd_empty he fun _ => emptied_entries).elim
  | configured _ _ _ _ he => exact (hg.absurd_empty he fun _ => emptied_entries).elim
  | withdrawn _ _ _ _ _ he => exact (hg.absurd_empty he fun _ => emptied_entries).elim
  | bound s _ _ _ he =>
    refine (hg.absurd_empty he fun t ht => ?_).elim
    cases ht
    rfl
  | login s t token hcall hs hmode hsecret ht horigin _ he =>
    obtain ⟨t', ht', horigin', hget⟩ := hg.entry
    rw [he] at ht'
    cases ht'
    obtain ⟨s', hs', h1, -, h3⟩ := hg.inForce.of_row hs he rfl rfl rfl
    obtain rfl := Option.some.inj (hs.symm.trans hs')
    rw [Dict.get?_set] at hget
    split at hget
    · next hd =>
      refine Or.inr ⟨token, hcall, ?_, ?_, ?_, hd.symm, (Option.some.inj hget).symm⟩
      · rw [← h1]
        exact hmode
      · rw [← h3]
        exact hsecret
      · rw [← horigin', ← horigin]
    · refine Or.inl ⟨hg.inForce.of_row hs he rfl rfl rfl, t, ?_, horigin',
        (Dict.get?_filter_some.mp hget).1⟩
      rw [hs]
      exact ht
  | logout s t cookie _ hs ht _ he =>
    have ha := hg.inForce.of_row hs he rfl rfl rfl
    obtain ⟨t', ht', horigin', hget⟩ := hg.entry
    rw [he] at ht'
    cases ht'
    rw [Dict.get?_erase] at hget
    split at hget
    · cases hget
    · refine Or.inl ⟨ha, t, ?_, horigin', hget⟩
      rw [hs]
      exact ht

/-- A secret that matches matches a digest. -/
lemma secret_digest {c : Ctx} {secret : Json} {o : Option String} (h : isSecret c secret o = true) :
    ∃ d, o = some d := by
  cases o with
  | none => simp [isSecret] at h
  | some d => exact ⟨d, rfl⟩

/-- A token waits since its claim. -/
lemma Moves.awaits (h : Moves c call m m') (hp : Awaits p m') :
    Awaits p m ∨ ∃ d e, Shows d e m ∧ wrong m < 5 ∧ Claims c call p d e := by
  unfold Awaits at hp ⊢
  cases h with
  | same he => exact Or.inl (he ▸ hp)
  | rated s _ hs he | missed s _ _ hs he | bound s _ hs _ he | login s _ _ _ hs _ _ _ _ _ he
  | logout s _ _ _ hs _ _ he =>
    rw [he] at hp
    rw [hs]
    exact Or.inl hp
  | acknowledged _ _ _ _ _ _ _ _ _ _ he | drawn _ _ _ _ _ he | configured _ _ _ _ he
  | withdrawn _ _ _ _ _ he =>
    rw [he] at hp
    cases hp
  | claimed s code hcall hs _ hlive hwrong hsecret he =>
    rw [he] at hp
    cases hp
    obtain ⟨e, hexpires, hlt⟩ := (Option.any_eq_true _ _).mp hlive
    obtain ⟨d, hd⟩ := secret_digest hsecret
    refine Or.inr ⟨d, e, ?_, ?_, ⟨code, hcall, hd ▸ hsecret⟩, of_decide_eq_true hlt, rfl⟩
    · rw [Shows, hs]
      exact ⟨hd, hexpires⟩
    · rw [wrong, hs]
      exact hwrong

/-- A code is out since the console has drawn it, and up to five what is counted against it
does not go back. -/
lemma Moves.shows (h : Moves c call m m') (hd : Shows d e m') :
    (Shows d e m ∧ min 5 (wrong m) ≤ wrong m') ∨ DrawsCode c call d e := by
  unfold Shows wrong at *
  cases h with
  | same he =>
    rw [he] at hd ⊢
    exact Or.inl ⟨hd, min_le_right _ _⟩
  | rated s _ hs he | bound s _ hs _ he | login s _ _ _ hs _ _ _ _ _ he
  | logout s _ _ _ hs _ _ he =>
    rw [he] at hd ⊢
    rw [hs]
    exact Or.inl ⟨hd, min_le_right _ _⟩
  | missed s code _ hs he =>
    rw [he] at hd ⊢
    rw [hs]
    refine Or.inl ⟨hd, ?_⟩
    show min 5 (s.claimAttempts.getD 0) ≤ min 5 (s.claimAttempts.getD 0 + 1)
    omega
  | claimed _ _ _ _ _ _ _ _ he | acknowledged _ _ _ _ _ _ _ _ _ _ he | configured _ _ _ _ he
  | withdrawn _ _ _ _ _ he =>
    rw [he] at hd
    cases hd.1
  | drawn recover hcall hover _ _ he =>
    rw [he] at hd
    obtain ⟨h1, h2⟩ := hd
    exact Or.inr ⟨⟨recover, hcall⟩, hover, (Option.some.inj h1).symm, (Option.some.inj h2).symm⟩

end Moves

/-! ### One step of a run, backwards -/

section Path

variable {c : Ctx} {call : Call} {m m' : Snapshot} {a : Authority} {p : Pending} {d : String}
  {e : ℚ}

/-- An authority that is in force after a login was in force before it. -/
lemma Authority.InForce.before_login {token : Json} (h : Path c (.login token) m m')
    (ha : a.InForce m') : a.InForce m := by
  induction h with
  | refl => exact ha
  | tail _ hs ih =>
    rcases hs.inForce ha with ha | ⟨hcall | hcall, -, -⟩ | ⟨p, -, ⟨_, _, hcall, -⟩, -⟩
    · exact ih ha
    · cases hcall
    · cases hcall
    · cases hcall

/-- A token that waits when it is acknowledged has waited for it. -/
lemma Awaits.before_acknowledge {acknowledgement saved : Json}
    (h : Path c (.acknowledge acknowledgement saved) m m') (hp : Awaits p m') : Awaits p m := by
  induction h with
  | refl => exact hp
  | tail _ hs ih =>
    rcases hs.awaits hp with hp | ⟨d, e, -, -, ⟨_, hcall, -⟩, -⟩
    · exact ih hp
    · cases hcall

/-- A code that is out when it is claimed was out before, with no more counted against it. -/
lemma Shows.before_claim {code : Json} (h : Path c (.claim code) m m') (hd : Shows d e m') :
    Shows d e m ∧ min 5 (wrong m) ≤ wrong m' := by
  induction h with
  | refl => exact ⟨hd, min_le_right _ _⟩
  | tail _ hs ih =>
    rcases hs.shows hd with ⟨hd, hle⟩ | ⟨⟨_, hcall⟩, -⟩
    · obtain ⟨hd, hle'⟩ := ih hd
      exact ⟨hd, by omega⟩
    · cases hcall

end Path

section Run

variable {σ : ℕ → Step}

lemma worldAt_path (hσ : Services σ) (n : ℕ) :
    Chained Snapshot.empty (Moves (σ n).ctx (σ n).call) (worldAt σ n).committed
      (worldAt σ (n + 1)).committed := (worldAt_traces hσ n).mono fun _ _ => Wrote.moves

/-- What the empty store lacks, and what comes to hold only where `E` happens, has held since. -/
lemma since_run (hσ : Services σ) {P : Snapshot → Prop} {E : Ctx → Call → Snapshot → Prop}
    (h0 : ¬P Snapshot.empty)
    (hstep : ∀ c call m m', Moves c call m m' → P m' → P m ∨ E c call m) {n : ℕ}
    (hn : P (worldAt σ n).mem) :
    Since (fun i => ∃ m, Path (σ i).ctx (σ i).call (worldAt σ i).mem m ∧
      E (σ i).ctx (σ i).call m) (fun j => P (worldAt σ j).mem) n := by
  refine Since.of_step h0 (fun n hn => ?_) hn
  rw [worldAt_mem hσ] at hn ⊢
  rcases (worldAt_path hσ n).rises hn with hp | ⟨m, m', hpath, hmove, hnot, hp⟩
  · exact Or.inl hp
  · rcases hstep _ _ m m' hmove hp with hp | he
    · exact absurd hp hnot
    · exact Or.inr ⟨m, hpath, he⟩

/-! ### Where an authority comes from -/

/-- The code has been out since the console drew it. -/
def DrawnCode (σ : ℕ → Step) (d : String) (e : ℚ) : ℕ → Prop :=
  Since (fun i => DrawsCode (σ i).ctx (σ i).call d e) fun j => Shows d e (worldAt σ j).mem

/-- The token has waited since it was claimed with a code that was out. -/
def Handed (σ : ℕ → Step) (p : Pending) : ℕ → Prop :=
  Since (fun i => ∃ d e, Claims (σ i).ctx (σ i).call p d e ∧ DrawnCode σ d e i)
    fun j => Awaits p (worldAt σ j).mem

/-- The authority has been in force since it was configured, or since it was acknowledged as a
token that had been claimed. -/
def Authority.Backed (σ : ℕ → Step) (a : Authority) : ℕ → Prop :=
  Since (fun i => a.Configured (σ i).ctx (σ i).call ∨
      ∃ p, a.Acknowledged (σ i).ctx (σ i).call p ∧ Handed σ p i)
    fun j => a.InForce (worldAt σ j).mem

lemma drawnCode (hσ : Services σ) {d : String} {e : ℚ} {n : ℕ} (h : Shows d e (worldAt σ n).mem) :
    DrawnCode σ d e n := by
  refine (since_run (E := fun c call _ => DrawsCode c call d e) hσ (fun h => nomatch h.1)
    (fun c call m m' hm hd => (hm.shows hd).imp_left And.left) h).mono ?_ fun _ => id
  rintro i ⟨m, -, h⟩
  exact h

lemma handed (hσ : Services σ) {p : Pending} {n : ℕ} (h : Awaits p (worldAt σ n).mem) :
    Handed σ p n := by
  refine (since_run hσ (fun h => nomatch h) (fun c call m m' => Moves.awaits) h).mono ?_ fun _ => id
  rintro i ⟨m, hpath, d, e, hd, -, hclaims⟩
  obtain ⟨code, hcall, -⟩ := hclaims.call
  rw [hcall] at hpath
  exact ⟨d, e, hclaims, drawnCode hσ (hd.before_claim hpath).1⟩

lemma backed (hσ : Services σ) {a : Authority} {n : ℕ} (h : a.InForce (worldAt σ n).mem) :
    a.Backed σ n := by
  have h0 : ¬a.InForce Snapshot.empty := by
    rintro ⟨s, hs, -⟩
    cases hs
  refine (since_run hσ h0 (fun c call m m' => Moves.inForce) h).mono ?_ fun _ => id
  rintro i ⟨m, hpath, hconf | ⟨p, hp, hack⟩⟩
  · exact Or.inl hconf
  · obtain ⟨acknowledgement, saved, hcall, -⟩ := hack.call
    rw [hcall] at hpath
    exact Or.inr ⟨p, hack, handed hσ (hp.before_acknowledge hpath)⟩

/-! ### Where a session comes from -/

/-- The step logs in, under an authority that is backed. -/
def Grant.Opened (σ : ℕ → Step) (g : Grant) (i : ℕ) : Prop :=
  ∃ token, (σ i).call = .login token ∧ g.Issued (σ i).ctx token ∧ g.authority.Backed σ i

lemma opened (hσ : Services σ) {g : Grant} {n : ℕ} (h : g.Stored (worldAt σ n).mem) :
    Since (g.Opened σ) (fun j => g.Stored (worldAt σ j).mem) n := by
  have h0 : ¬g.Stored Snapshot.empty := by
    rintro ⟨⟨s, hs, -⟩, -⟩
    cases hs
  obtain ⟨i, hi, ⟨m, hpath, token, hcall, hissued⟩, hstored⟩ :=
    since_run (E := fun c call _ => ∃ token, call = .login token ∧ g.Issued c token) hσ h0
      (fun c call m m' => Moves.stored) h
  -- the commits of a login leave the authority alone, in both directions
  have ha : g.authority.InForce (worldAt σ i).mem := by
    have hafter := (hstored (i + 1) (by omega) (by omega)).inForce
    rw [worldAt_mem hσ] at hafter ⊢
    have hwhole := (worldAt_path hσ i).path
    rw [hcall] at hwhole
    exact hafter.before_login hwhole
  exact ⟨i, hi, ⟨token, hcall, hissued, backed hσ ha⟩, hstored⟩

end Run

/-! ### What a step returns -/

/-- A call of one body: what it returns is what the body ends in. -/
lemma step_performed {α : Type} {b : Snapshot → Except Error (Final α)} {f : α → Reply}
    {w : World} (hw : w.Rests) {s : Step}
    (hexec : System.exec s.ctx s.call =
      Store.transaction (Store.perform s.ctx b) >>= fun a => pure (f a))
    (hb : ∀ m, Commits s.ctx s.call m (b m)) :
    ∃ r : Except Error α, s.result w = r.map f ∧
      Performed false w.committed (b w.mem) r (s.next w).committed := by
  obtain ⟨h', hh, hp, -⟩ := Store.transaction_performed s.call (fun _ => hb _)
    (hw.faults s.faults).idle
  have hmem : b w.mem = b (latest w.committed) := congrArg b hw.mem
  unfold Step.result Step.next
  rw [hexec, System.outcome_bind_pure, hh.toStored.committed, hmem]
  exact ⟨_, rfl, hp⟩

section Step

variable {w : World} {s : Step}

/-- A session is looked up in the row as it is, whatever faults the writes would meet. -/
lemma session_result (hw : w.Rests) {cookie : String} (hcall : s.call = .session cookie) :
    s.result w = .ok (.session (sessionPrincipal s.ctx cookie w.mem)) := by
  obtain ⟨r, hr, hp⟩ := step_performed (f := Reply.session) hw
    (b := fun m => .ok (.reply (sessionPrincipal s.ctx cookie m))) (by rw [hcall]; rfl)
    fun m => Commits.reply _
  generalize (s.next w).committed = h' at hp
  cases hp
  exact hr

/-- The step logs a session of this digest out. -/
def LogsOut (w : World) (s : Step) (d : String) : Prop :=
  (∃ cookie, s.call = .logout cookie ∧ s.ctx.verifier cookie = d) ∧ (s.result w).isOk = true

/-- A session that is logged out is gone. -/
lemma LogsOut.gone (hw : w.Rests) (hnext : (s.next w).Rests) {g : Grant}
    (h : LogsOut w s g.digest) : ¬g.Stored (s.next w).mem := by
  intro hg
  obtain ⟨⟨cookie, hcall, hd⟩, hok⟩ := h
  obtain ⟨r, hr, hp⟩ := step_performed (f := fun _ : Unit => Reply.unit) hw
    (b := logoutBody s.ctx cookie) (by rw [hcall]; rfl) fun m => logoutBody_commits
  rw [hr] at hok
  obtain ⟨t, ht, -, hget⟩ := hg.entry
  rw [hnext.mem] at ht
  cases r with
  | error e => cases hok
  | ok u =>
    rcases hp.of_ok with ⟨hb, he⟩ | ⟨m, w', hb, -, he⟩
    · -- nothing was written: there was no such session
      simp only [logoutBody, bind_eq_ok, demand_eq_ok, sessions_eq_ok] at hb
      obtain ⟨state, hstate, t', ⟨ht', -⟩, hb⟩ := hb
      rw [he, ← hw.mem, hstate] at ht
      obtain rfl := Option.some.inj (ht'.symm.trans ht)
      rw [hd, hget] at hb
      cases hb
    · simp only [logoutBody, bind_eq_ok, demand_eq_ok, sessions_eq_ok] at hb
      obtain ⟨state, hstate, t', -, hb⟩ := hb
      split at hb
      · cases hb
        rw [he] at ht
        obtain rfl := Option.some.inj ht
        simp [← hd] at hget
      · cases hb

end Step

/-- The step is asked for the session of a cookie, and finds one. -/
structure Accepts (w : World) (s : Step) (cookie : String) (p : Principal) (session : Session) :
    Prop where
  call : s.call = .session cookie
  result : s.result w = .ok (.session (some (p, session)))

/-- A valid row that is active has a verifier and no claim in progress. -/
lemma active_row {m : Snapshot} {s : OwnerState} (hm : m.Valid) (hs : m.owner = some s)
    (hmode : s.mode.active = true) : (∃ v, s.verifier = some v) ∧ s.pending = none := by
  have hv : validateOwnerState (some s) = true := hs ▸ hm.owner
  simp only [validateOwnerState, hmode, if_true, Bool.and_eq_true, Option.any_eq_true,
    Option.isNone_iff_eq_none] at hv
  obtain ⟨v, hv', -⟩ := hv.1.1.1.1.1.1.2.1.1.1.1
  exact ⟨⟨v, hv'⟩, hv.1.1.1.1.1.1.2.2⟩

/-- A session that is accepted is stored. -/
lemma Accepts.stored {w : World} {s : Step} {cookie : String} {p : Principal} {session : Session}
    (hw : w.Rests) (h : Accepts w s cookie p session) :
    ∃ g : Grant, g.Stored w.mem ∧ g.digest = s.ctx.verifier cookie ∧ g.origin = served s.ctx ∧
      s.ctx.now < g.expires ∧ p = ⟨.owner, "owner", g.authority.generation, ""⟩ ∧
      session = ⟨g.authority.generation, g.expires, s.ctx.platform.csrf cookie⟩ := by
  have hr : sessionPrincipal s.ctx cookie w.mem = some (p, session) :=
    Reply.session.inj (Except.ok.inj ((session_result hw h.call).symm.trans h.result))
  unfold sessionPrincipal at hr
  split at hr
  · cases hr
  · simp only [Option.bind_eq_bind, Option.bind_eq_some_iff] at hr
    obtain ⟨state, hstate, t, ht, expires, hget, hr⟩ := hr
    split at hr
    · next hlive =>
      cases hr
      simp only [Bool.and_eq_true, beq_iff_eq, decide_eq_true_eq] at hlive
      obtain ⟨⟨hmode, horigin⟩, hnow⟩ := hlive
      obtain ⟨⟨v, hv⟩, -⟩ := active_row hw.valid hstate hmode
      exact ⟨⟨⟨state.mode, state.generation, v⟩, t.origin, s.ctx.verifier cookie, expires⟩,
        ⟨⟨state, hstate, rfl, rfl, hv⟩, t, by rw [hstate]; exact ht, rfl, hget⟩, rfl, horigin,
        hnow, rfl, rfl⟩
    · cases hr

/-- **Owner sessions over runs**: a cookie is accepted only since a login that drew it, with the
token of the authority in force; ever since then that authority and the origin have stayed as they
were, and the session has not been logged out. The authority itself goes back to the environment
of a start, or to a token that was claimed with a code that the console drew and acknowledged. -/
theorem sessions_backed (σ : ServiceRun) (n : ℕ) (cookie : String) (p : Principal)
    (session : Session) (h : Accepts (worldAt σ.1 n) (σ.1 n) cookie p session) :
    ∃ g : Grant, g.digest = (σ.1 n).ctx.verifier cookie ∧ g.origin = served (σ.1 n).ctx ∧
      (σ.1 n).ctx.now < g.expires ∧ p = ⟨.owner, "owner", g.authority.generation, ""⟩ ∧
      session = ⟨g.authority.generation, g.expires, (σ.1 n).ctx.platform.csrf cookie⟩ ∧
      Since (g.Opened σ.1) (fun j => g.Stored (worldAt σ.1 j).mem ∧
        ¬LogsOut (worldAt σ.1 j) (σ.1 j) g.digest) n := by
  obtain ⟨g, hg, hdigest, horigin, hnow, hp, hsession⟩ := h.stored (worldAt_rests σ.2 n)
  refine ⟨g, hdigest, horigin, hnow, hp, hsession, ?_⟩
  obtain ⟨i, hi, hopened, hstored⟩ := opened σ.2 hg
  refine ⟨i, hi, hopened, fun j hij hjn => ⟨hstored j hij hjn, fun hout => ?_⟩⟩
  rcases Nat.lt_or_ge j n with hlt | hge
  · exact hout.gone (worldAt_rests σ.2 j) (worldAt_rests σ.2 (j + 1))
      (hstored (j + 1) (by omega) hlt)
  · obtain rfl : j = n := by omega
    obtain ⟨⟨_, hcall, -⟩, -⟩ := hout
    rw [h.call] at hcall
    cases hcall

/-! ### How long a session lasts -/

/-- The call leaves the session alone: no recovery off the console, no start with another
configuration, no logout of it, and no login after it has expired. -/
def Grant.Spares (g : Grant) (c : Ctx) : Call → Prop
  | .console recover => recover = false ∨ g.authority.mode = .environment
  | .ownerInit | .start => served c = g.origin ∧
      (c.override = none → g.authority.mode ≠ .environment) ∧
      ∀ token, c.override = some token →
        g.authority.mode = .environment ∧ g.authority.verifier = c.verifier token
  | .login _ => c.now < g.expires ∧ c.verifier c.draws.cookie.1 ≠ g.digest
  | .logout cookie => c.verifier cookie ≠ g.digest
  | _ => True

section Endures

variable {c : Ctx} {call : Call} {m m' : Snapshot} {g : Grant}

lemma Grant.Spares.start (hs : g.Spares c call) (hcall : call = .ownerInit ∨ call = .start) :
    g.Spares c .start := by
  rcases hcall with rfl | rfl <;> exact hs

/-- An authority in a valid row can log in, and no claim is in progress. -/
lemma Authority.InForce.active {a : Authority} (hm : m.Valid) (ha : a.InForce m) :
    a.mode.active = true ∧ ∀ s, m.owner = some s → s.pending = none := by
  obtain ⟨s, hs, h1, -, h3⟩ := ha
  have hmode : s.mode.active = true := by
    have hv : validateOwnerState (some s) = true := hs ▸ hm.owner
    by_contra hnot
    simp [validateOwnerState, hnot, h3] at hv
  refine ⟨h1 ▸ hmode, fun s' hs' => ?_⟩
  obtain rfl := Option.some.inj (hs.symm.trans hs')
  exact (active_row hm hs hmode).2

/-- What spares the session keeps it. -/
lemma Moves.endures (h : Moves c call m m') (hm : m.Valid) (hs : g.Spares c call)
    (hg : g.Stored m) : g.Stored m' := by
  obtain ⟨hactive, hpending⟩ := hg.inForce.active hm
  obtain ⟨s₀, hs₀, h1, -, h3⟩ := hg.inForce
  cases h with
  | same he =>
    refine ⟨hg.inForce.congr he.symm, ?_⟩
    rw [he]
    exact hg.entry
  | rated s _ hs he => exact hg.of_row he hs rfl rfl rfl rfl
  | missed s _ _ hs he => exact hg.of_row he hs rfl rfl rfl rfl
  | claimed s _ _ hs _ _ _ _ he => exact hg.of_row he hs rfl rfl rfl rfl
  | acknowledged s p _ _ _ hs' hp =>
    rw [hpending s hs'] at hp
    cases hp
  | drawn recover hcall hover henv hunclaimed =>
    subst hcall
    rcases hs with rfl | hmode
    · rcases hunclaimed with h | h
      · cases h
      · rw [← h1, h s₀ hs₀] at hactive
        cases hactive
    · exact absurd (h1.trans hmode) (henv s₀ hs₀)
  | configured token hcall htoken hnew =>
    obtain ⟨-, -, hsame⟩ := hs.start hcall
    obtain ⟨hmode, hverifier⟩ := hsame token htoken
    exact absurd (hverifier ▸ h3) (hnew s₀ hs₀ (h1.trans hmode))
  | withdrawn mode hcall hnone _ henv =>
    obtain ⟨-, hmode, -⟩ := hs.start hcall
    exact absurd (h1.symm.trans (henv s₀ hs₀)) (hmode hnone)
  | bound s hcall hs' hne =>
    obtain ⟨horigin, -⟩ := hs.start hcall
    obtain ⟨t, ht, ht', -⟩ := hg.entry
    rw [hs'] at ht
    refine absurd ?_ hne
    rw [show s.sessions = some t from ht, horigin, ← ht']
    rfl
  | login s t token hcall hs' _ _ ht _ _ he =>
    subst hcall
    obtain ⟨hlive, hdigest⟩ := hs
    obtain ⟨t', ht', horigin, hget⟩ := hg.entry
    rw [hs'] at ht'
    obtain rfl := Option.some.inj (ht.symm.trans ht')
    have hkept : (unexpired c t).get? g.digest = some g.expires :=
      Dict.get?_filter_some.mpr ⟨hget, decide_eq_true hlive⟩
    refine ⟨hg.inForce.of_row he hs' rfl rfl rfl, ?_⟩
    rw [he]
    exact ⟨_, rfl, horigin, (Dict.get?_set_ne hdigest).trans hkept⟩
  | logout s t cookie hcall hs' ht _ he =>
    subst hcall
    obtain ⟨t', ht', horigin, hget⟩ := hg.entry
    rw [hs'] at ht'
    obtain rfl := Option.some.inj (ht.symm.trans ht')
    refine ⟨hg.inForce.of_row he hs' rfl rfl rfl, ?_⟩
    rw [he]
    exact ⟨_, rfl, horigin, (Dict.get?_erase_ne hs).trans hget⟩

end Endures

/-- Over the commits of a step. -/
lemma Grant.Stored.step {σ : ℕ → Step} (hσ : Services σ) {g : Grant} {n : ℕ}
    (hs : g.Spares (σ n).ctx (σ n).call) (hg : g.Stored (worldAt σ n).mem) :
    g.Stored (worldAt σ (n + 1)).mem := by
  rw [worldAt_mem hσ] at hg ⊢
  refine ((worldAt_commits hσ n).and (worldAt_path hσ n)).invariant ?_ hg
  rintro m m' hg ⟨hcommit, hmove⟩
  exact hmove.endures hcommit.before hs hg

/-- Over the steps of a run. -/
lemma Grant.Stored.run {σ : ℕ → Step} (hσ : Services σ) {g : Grant} {i n : ℕ} (hin : i < n)
    (hg : g.Stored (worldAt σ (i + 1)).mem)
    (hs : ∀ j, i < j → j < n → g.Spares (σ j).ctx (σ j).call) : g.Stored (worldAt σ n).mem := by
  induction n, hin using Nat.le_induction with
  | base => exact hg
  | succ n hin ih => exact (ih fun j hj hjn => hs j hj (by omega)).step hσ (hs n hin (by omega))

/-- A session that is stored and not expired is accepted. -/
lemma Grant.Stored.accepts {w : World} {s : Step} {g : Grant} {cookie : String}
    {session : Session} (hg : g.Stored w.mem) (hw : w.Rests) (hcall : s.call = .session cookie)
    (hdigest : s.ctx.verifier cookie = g.digest) (hserved : served s.ctx = g.origin)
    (hnow : s.ctx.now < g.expires) (hcookie : (cookie = "" || 512 < cookie.length) = false)
    (hsession : session =
      ⟨g.authority.generation, g.expires, s.ctx.platform.csrf cookie⟩) :
    Accepts w s cookie ⟨.owner, "owner", g.authority.generation, ""⟩ session := by
  obtain ⟨hactive, -⟩ := hg.inForce.active hw.valid
  obtain ⟨state, hstate, h1, h2, -⟩ := hg.inForce
  obtain ⟨t, ht, horigin, hget⟩ := hg.entry
  refine ⟨hcall, ?_⟩
  rw [session_result hw hcall]
  have hentries : state.sessions = some t := by
    rw [hstate] at ht
    exact ht
  have hthere : t.origin = s.ctx.verifier s.ctx.origin.1 := horigin.trans hserved.symm
  simp [sessionPrincipal, hcookie, hstate, hentries, hdigest, hget, h1, h2, hactive, hthere, hnow,
    hsession, sessionOf]

lemma length_drawn {n : ℕ} (s : UrlSafe n) : s.1.length = n := by
  have h := s.2
  simp only [urlSafe, Bool.and_eq_true, beq_iff_eq] at h
  exact h.1

/-- The step logs in, and is told this cookie. -/
structure LogsIn (w : World) (s : Step) (token : Json) (cookie : String) (session : Session) :
    Prop where
  call : s.call = .login token
  result : s.result w = .ok (.login cookie session)

/-- A session that a login returns is stored. -/
lemma LogsIn.stored {w : World} {s : Step} {token : Json} {cookie : String} {session : Session}
    (hw : w.Rests) (hnext : (s.next w).Rests) (h : LogsIn w s token cookie session) :
    ∃ g : Grant, g.Issued s.ctx token ∧ g.Stored (s.next w).mem ∧
      cookie = s.ctx.draws.cookie.1 ∧
      session = ⟨g.authority.generation, g.expires, s.ctx.platform.csrf cookie⟩ := by
  obtain ⟨r, hr, hp⟩ := step_performed (f := fun x : String × Session => Reply.login x.1 x.2) hw
    (b := loginBody s.ctx token) (by rw [h.call]; rfl) fun m => loginBody_commits
  rw [h.result] at hr
  obtain ⟨⟨cookie', session'⟩, rfl, hx⟩ := map_eq_ok.mp hr.symm
  cases hx
  rcases hp.of_ok with ⟨hb, -⟩ | ⟨m, w', hb, -, he⟩
  · simp only [loginBody, bind_eq_ok, demand_eq_ok] at hb
    obtain ⟨_, -, -, -, t, -, -, -, hb⟩ := hb
    cases hb
  · simp only [loginBody, bind_eq_ok, demand_eq_ok, refuse_eq_ok, exists_const, sessions_eq_ok,
      Bool.or_eq_false_iff, Bool.not_eq_false', decide_eq_false_iff_not, not_le] at hb
    obtain ⟨state, hstate, ⟨hmode, hsecret⟩, t, ⟨ht, horigin⟩, hsize, hb⟩ := hb
    cases hb
    obtain ⟨⟨v, hv⟩, -⟩ := active_row hw.valid hstate hmode
    have hmem : (s.next w).mem.owner = some { state with sessions := some { t with
        entries := (unexpired s.ctx t).set (s.ctx.verifier s.ctx.draws.cookie.1)
          (s.ctx.now + sessionSeconds) } } := by
      rw [hnext.mem, he]
      rfl
    refine ⟨⟨⟨state.mode, state.generation, v⟩, t.origin, s.ctx.verifier s.ctx.draws.cookie.1,
      s.ctx.now + sessionSeconds⟩, ⟨hmode, hv ▸ hsecret, horigin, rfl, rfl⟩,
      ⟨⟨_, hmem, rfl, rfl, hv⟩, ?_⟩, rfl, rfl⟩
    rw [hmem]
    exact ⟨_, rfl, rfl, Dict.get?_set_self _ _ _⟩

/-- **A session lasts**: from the login that returned it, through whatever every service does,
restarts with the same configuration and faults of the storage among it, the cookie is accepted
until it expires, unless it is logged out or the console recovers the server. -/
theorem sessions_endure (σ : ServiceRun) (i : ℕ) (token : Json) (cookie : String)
    (session : Session) (h : LogsIn (worldAt σ.1 i) (σ.1 i) token cookie session) :
    ∃ g : Grant, g.Issued (σ.1 i).ctx token ∧
      session = ⟨g.authority.generation, g.expires, (σ.1 i).ctx.platform.csrf cookie⟩ ∧
      ∀ n, i < n → (∀ j, i < j → j < n → g.Spares (σ.1 j).ctx (σ.1 j).call) →
        (σ.1 n).call = .session cookie → (σ.1 n).ctx.platform = (σ.1 i).ctx.platform →
        served (σ.1 n).ctx = g.origin → (σ.1 n).ctx.now < g.expires →
        Accepts (worldAt σ.1 n) (σ.1 n) cookie ⟨.owner, "owner", g.authority.generation, ""⟩
          session := by
  obtain ⟨g, hissued, hstored, hcookie, hsession⟩ :=
    h.stored (worldAt_rests σ.2 i) (worldAt_rests σ.2 (i + 1))
  refine ⟨g, hissued, hsession, fun n hin hspared hcall hplatform hserved hnow => ?_⟩
  have hg : g.Stored (worldAt σ.1 n).mem := hstored.run σ.2 hin hspared
  have hdigest : (σ.1 n).ctx.verifier cookie = g.digest := by
    rw [hissued.digest, ← hcookie]
    unfold Ctx.verifier Ctx.digest
    rw [hplatform]
  refine hg.accepts (worldAt_rests σ.2 n) hcall hdigest hserved hnow ?_ ?_
  · have hlength : cookie.length = 43 := hcookie ▸ length_drawn _
    have hne : cookie ≠ "" := by
      rintro rfl
      cases hlength
    simp [hlength, hne]
  · rw [hsession, hplatform]

end Owner

/-! ### A sample run -/

namespace Sample

def visitor : String := (draws 1).cookie.1

/-- A start with a token in the environment, two logins with it, and requests of the first one's
cookie. -/
def visiting (n : ℕ) : Step where
  ctx := { ctx n n with
    override := some operator
    draws := if n = 2 then { draws n with cookie := otherCookie } else draws n }
  call :=
    match n with
    | 0 => .start
    | 1 | 2 => .login (.str operator)
    | _ => .session visitor
  faults := []

lemma visiting_services : Services visiting
  | 0 | 1 | 2 | _ + 3 => rfl

/-- The session that the first login returns. -/
def visit : Owner.Session := ⟨(draws 0).generation.1, 1 + Owner.sessionSeconds, visitor⟩

end Sample

namespace Owner

theorem sessions_backed_sample :
    ∃ g : Grant, g.digest = (Sample.visiting 3).ctx.verifier Sample.visitor ∧
      Since (g.Opened Sample.visiting) (fun j => g.Stored (worldAt Sample.visiting j).mem) 3 := by
  obtain ⟨g, hdigest, -, -, -, -, hsince⟩ :=
    sessions_backed ⟨Sample.visiting, Sample.visiting_services⟩ 3 Sample.visitor
      ⟨.owner, "owner", Sample.visit.generation, ""⟩ Sample.visit ⟨rfl, by decide +kernel⟩
  exact ⟨g, hdigest, hsince.mono (fun _ => id) fun _ => And.left⟩

theorem sessions_endure_sample :
    ∃ p session, Accepts (worldAt Sample.visiting 3) (Sample.visiting 3) Sample.visitor p
      session := by
  obtain ⟨g, hissued, -, haccepts⟩ :=
    sessions_endure ⟨Sample.visiting, Sample.visiting_services⟩ 1 (.str Sample.operator)
      Sample.visitor Sample.visit ⟨rfl, by decide +kernel⟩
  refine ⟨_, _, haccepts 3 (by omega) (fun j hj hj' => ?_) rfl rfl hissued.origin.symm ?_⟩
  · -- the second login comes in time, and draws another cookie
    obtain rfl : j = 2 := by omega
    refine ⟨?_, ?_⟩
    · rw [hissued.expires]
      decide +kernel
    · rw [hissued.digest]
      decide +kernel
  · rw [hissued.expires]
    decide +kernel

end Owner

end Vauxr
