import Mathlib
import Vauxr.Sample
import Vauxr.Writes

/-!
The two durable rate limits: the owner surface and the provisioning endpoints each keep the times
of their charges in the row they guard.

A charge that is less than a window old stays in its row until the row is built anew; so what was
admitted within a window is still on the list when the next call asks.
-/

namespace Vauxr

open Lib

/-- The window of a limit, in seconds. -/
def window : ℚ := 60

/-- The charges that still count. -/
def counting (now : ℚ) (charges : List ℚ) : List ℚ := charges.filter fun at_ => now - at_ < window

inductive Limiter
  | owner | enrollment
  deriving DecidableEq

namespace Limiter

def limit : Limiter → ℕ
  | .owner => 10
  | .enrollment => 60

/-- The list of the charges, wherever its row is. -/
def charges : Limiter → Snapshot → List ℚ
  | .owner, m => (m.owner.bind (·.attempts)).getD []
  | .enrollment, m => (m.enrollment.map (·.attempts)).getD []

/-- The call asks this limiter. -/
def asks : Limiter → Call → Bool
  | .owner, .ownerRate => true
  | .enrollment, .enrollmentRate => true
  | _, _ => false

/-- The step is let through by the limiter. -/
def admits (l : Limiter) (w : World) (s : Step) : Bool :=
  l.asks s.call && (s.result w).isOk

/-- The times at which the limiter let one of the first `n` steps through. -/
def admitted (l : Limiter) (σ : ℕ → Step) : ℕ → List ℚ
  | 0 => []
  | n + 1 =>
    admitted l σ n ++ if l.admits (worldAt σ n) (σ n) then [(σ n).ctx.now] else []

end Limiter

/-- The times of a window that starts at `t`. -/
def within (t : ℚ) (times : List ℚ) : List ℚ :=
  times.filter fun at_ => t ≤ at_ && at_ < t + window

/-- What makes a call of the owner build the row anew, out of its terms and the row. -/
def Owner.Renews (c : Ctx) (m : Snapshot) : Call → Prop
  | .console recover => c.override = none ∧ (∀ s, m.owner = some s → s.mode ≠ .environment) ∧
      (recover = true ∨ (∀ p, m.owner.bind (·.pending) = some p → p.expires ≤ c.now) ∧
        ∀ s, m.owner = some s → s.mode = .unclaimed)
  | .acknowledge acknowledgement saved => ∃ p, m.owner.bind (·.pending) = some p ∧
      saved.bool? = some true ∧ c.now < p.expires ∧
      isSecret c acknowledgement (some p.ack) = true
  | .ownerInit | .start =>
      match c.override with
      | some token => m.owner.map (·.mode) ≠ some .environment ∨
          m.owner.bind (·.verifier) ≠ some (c.verifier token)
      | none => m.owner.map (·.mode) = some .environment ∨ m.owner = none
  | _ => False

/-- The step builds the owner row anew while it holds charges that count. -/
def Forgets (c : Ctx) (call : Call) (m : Snapshot) : Prop :=
  Owner.Renews c m call ∧ counting c.now (Limiter.owner.charges m) ≠ []

/-! ### Charges -/

@[simp] lemma counting_append (now : ℚ) (l l' : List ℚ) :
    counting now (l ++ l') = counting now l ++ counting now l' := List.filter_append ..

/-- What counts later counted before. -/
lemma counting_fresh {now later : ℚ} (h : now ≤ later) (l : List ℚ) :
    counting later (counting now l) = counting later l := by
  unfold counting
  rw [List.filter_filter]
  refine List.filter_congr fun at_ _ => ?_
  rw [Bool.and_eq_left_iff_imp]
  intro hat
  rw [decide_eq_true_eq] at hat ⊢
  linarith

lemma counting_nil_of_le {now later : ℚ} (h : now ≤ later) {l : List ℚ} (hl : counting now l = []) :
    counting later l = [] := by
  rw [← counting_fresh h, hl]
  rfl

lemma enrollment_charges (c : Ctx) (m : Snapshot) :
    Limiter.enrollment.charges m = (Enrollment.stateOf c m).attempts := by
  show (m.enrollment.map (·.attempts)).getD [] = _
  unfold Enrollment.stateOf
  cases m.enrollment <;> rfl

/-! ### Bodies that leave the charges alone -/

/-- Nothing that the limits or the integrations depend on has changed. -/
structure Aside (m m' : Snapshot) : Prop where
  owner : m'.owner = m.owner
  charges : Limiter.enrollment.charges m' = Limiter.enrollment.charges m

/-- The same, and no integration has changed. -/
structure Apart (m m' : Snapshot) : Prop extends Aside m m' where
  integration : m'.integration = m.integration

namespace Enrollment

variable {c : Ctx} {m : Snapshot} {row : Row}

/-- A write of enrollment rows, over whatever the other namespaces have staged. -/
lemma apart_requests {α : Type} {s : Snapshot} {requests : Dict String Row}
    {records : Option (List Credential)} {r : Except Error α} (howner : s.owner = m.owner)
    (hintegration : s.integration = m.integration) :
    Ensures (.ok (.save s (.enrollment { stateOf c m with requests } records) r)) (Apart m) :=
  Ensures.save ⟨⟨howner, (enrollment_charges c m).symm⟩, hintegration⟩

lemma failure_apart {α : Type} : Ensures (failure c m row : Except Error (Final α)) (Apart m) := by
  unfold failure
  split
  · exact Ensures.error _
  · exact apart_requests rfl rfl

lemma closeBody_apart {state : Status} : Ensures (closeBody c m row state) (Apart m) :=
  apart_requests rfl rfl

lemma requestBody_apart {kindField keyField nameField : Json} :
    Ensures (requestBody c m kindField keyField nameField) (Apart m) := by
  refine Ensures.bind fun kind _ => Ensures.bind fun publicKey _ => Ensures.bind fun name _ =>
    Ensures.bind fun _ _ => Ensures.bind fun _ _ => Ensures.bind fun row _ => ?_
  dsimp only
  split
  · exact apart_requests rfl rfl
  · split
    · exact Ensures.raise _ _
    · exact apart_requests rfl rfl

lemma proveBody_apart : Ensures (proveBody c m row) (Apart m) :=
  Ensures.bind fun _ _ => apart_requests rfl rfl

lemma replaced_namespaces {credential : Credential} {s : Snapshot}
    {x : Except Error (List Credential)}
    (h : Lifecycle.replaceEnrollmentCredential m row credential = .ok (s, x)) :
    s.owner = m.owner ∧ s.integration = m.integration := by
  simp only [Lifecycle.replaceEnrollmentCredential, bind_eq_ok] at h
  obtain ⟨bound, -, h⟩ := h
  split at h <;> cases h <;> exact ⟨rfl, rfl⟩

lemma redeemBody_apart : Ensures (redeemBody c m row) (Apart m) := by
  refine Ensures.bind fun _ _ => Ensures.bind fun _ _ => Ensures.bind fun credential _ =>
    Ensures.bind fun k hk => ?_
  obtain ⟨s, x⟩ := k
  obtain ⟨howner, hagents⟩ := replaced_namespaces hk
  dsimp only
  split
  · exact Ensures.raise _ _
  · split
    · exact apart_requests howner hagents
    · split
      · exact Ensures.raise _ _
      · exact apart_requests howner hagents

lemma body_apart {k : Call} {resolve : Resolve} : Ensures (body c k resolve m) (Apart m) := by
  cases k with
  | request kind publicKey name =>
    show Ensures (if _ then _ else _) (Apart m)
    split
    · exact Ensures.bind fun _ _ => requestBody_apart
    · exact requestBody_apart
  | list => exact Ensures.bind fun _ _ => Ensures.reply _
  | proof action requestId signature =>
    refine Ensures.bind fun row _ => Ensures.bind fun _ _ => ?_
    split
    · exact failure_apart
    · cases action with
      | status => exact Ensures.reply _
      | prove => exact proveBody_apart
      | redeem => exact redeemBody_apart
      | cancel => exact closeBody_apart
  | confirm action requestId code =>
    refine Ensures.bind fun row _ => Ensures.bind fun p _ => Ensures.bind fun _ _ =>
      Ensures.bind fun _ _ => ?_
    split
    · exact failure_apart
    · exact Ensures.bind fun _ _ => Ensures.bind fun _ _ => apart_requests rfl rfl
  | deny requestId =>
    exact Ensures.bind fun row _ => Ensures.bind fun _ _ => Ensures.bind fun _ _ => closeBody_apart

lemma bindBody_apart : Ensures (bindBody m) (Apart m) := by
  rintro m' ⟨s, w, x, hb, rfl⟩
  have hbound := bindConsumed_bound m.requests.values m (Or.inl rfl) fun _ hr => hr
  unfold bindBody at hb
  rcases hx : bindConsumed m m.requests.values with ⟨staged, r⟩
  rw [hx] at hb hbound
  cases r with
  | error e => cases hb
  | ok u =>
    dsimp only at hb
    split at hb
    · cases hb
      rcases hbound with rfl | ⟨bindings, -, rfl⟩ <;> exact ⟨⟨rfl, rfl⟩, rfl⟩
    · cases hb

end Enrollment

namespace Lifecycle

variable {c : Ctx} {m : Snapshot} {p : Principal}

lemma charges_invalidateApprovals (ids : List String) {m' : Snapshot}
    (h : m'.enrollment = invalidateApprovals m ids) :
    Limiter.enrollment.charges m' = Limiter.enrollment.charges m := by
  show (m'.enrollment.map (·.attempts)).getD [] = (m.enrollment.map (·.attempts)).getD []
  rw [h, invalidateApprovals]
  cases m.enrollment <;> rfl

lemma charges_invalidateEnrollments (ids : List String) (subject : String) {m' : Snapshot}
    (h : m'.enrollment = invalidateEnrollments m ids subject) :
    Limiter.enrollment.charges m' = Limiter.enrollment.charges m := by
  show (m'.enrollment.map (·.attempts)).getD [] = (m.enrollment.map (·.attempts)).getD []
  rw [h, invalidateEnrollments, invalidateApprovals]
  cases m.enrollment <;> rfl

lemma controlBody_apart {action : Action} {id : String} {role subject : Json} :
    Ensures (controlBody c m action id role subject) (Apart m) := by
  refine Ensures.bind fun role' _ => Ensures.bind fun subject' _ => ?_
  dsimp only
  split
  · exact Ensures.bind fun _ _ => Ensures.reply _
  · refine Ensures.bind fun _ _ => Ensures.bind fun row _ => ?_
    cases action with
    | rotate => exact Ensures.save ⟨⟨rfl, rfl⟩, rfl⟩
    | revoke =>
      refine Ensures.bind fun k _ => ?_
      exact Ensures.save ⟨⟨rfl, charges_invalidateEnrollments _ _ rfl⟩, rfl⟩
    | recover =>
      refine Ensures.bind fun k _ => ?_
      exact Ensures.save ⟨⟨rfl, charges_invalidateEnrollments _ _ rfl⟩, rfl⟩

lemma pollBody_apart : Ensures (pollBody m p) (Apart m) := by
  refine Ensures.bind fun _ _ => ?_
  dsimp only
  split
  · exact Ensures.reply _
  · split
    · exact Ensures.save ⟨⟨rfl, rfl⟩, rfl⟩
    · exact Ensures.reply _

lemma ackBody_apart {id : String} {saved : Json} : Ensures (ackBody m p id saved) (Apart m) := by
  refine Ensures.bind fun row _ => Ensures.bind fun _ _ => ?_
  split
  · exact Ensures.reply _
  · refine Ensures.bind fun _ _ => Ensures.bind fun k _ => ?_
    exact Ensures.save ⟨⟨rfl, charges_invalidateApprovals _ rfl⟩, rfl⟩

lemma body_apart {k : Call} {resolve : Resolve} : Ensures (body c k resolve m) (Apart m) := by
  refine Ensures.bind fun p _ => ?_
  cases k with
  | control action id role subject => exact Ensures.bind fun _ _ => controlBody_apart
  | poll => exact pollBody_apart
  | status id => exact Ensures.bind fun _ _ => Ensures.reply _
  | ack id saved => exact ackBody_apart
  | deliver id =>
    exact Ensures.bind fun _ _ => Ensures.bind fun _ _ => Ensures.bind fun _ _ =>
      Ensures.bind fun _ _ => Ensures.save ⟨⟨rfl, rfl⟩, rfl⟩

end Lifecycle

namespace Integration

variable {c : Ctx} {m : Snapshot}

lemma retire_namespaces {r : Credential} {s : Snapshot} (h : retire m r = .ok s) :
    s.owner = m.owner ∧ s.enrollment = m.enrollment := by
  simp only [retire, bind_eq_ok] at h
  obtain ⟨k, -, h⟩ := h
  cases h
  exact ⟨rfl, rfl⟩

lemma closeBody_aside {row : Row} {target : Status} : Ensures (closeBody m row target) (Aside m) := by
  unfold closeBody
  split
  · exact Ensures.reply _
  · refine Ensures.bind fun _ _ => ?_
    dsimp only
    split
    · exact Ensures.save ⟨rfl, rfl⟩
    · refine Ensures.bind fun s hs => ?_
      obtain ⟨ho, he⟩ := retire_namespaces hs
      refine Ensures.save ⟨ho, ?_⟩
      show (s.enrollment.map (·.attempts)).getD [] = _
      rw [he]
      rfl

lemma approveBody_aside {resolve : Resolve} {requestId : String} {code : Json} :
    Ensures (approveBody c resolve requestId code m) (Aside m) := by
  refine Ensures.bind fun _ _ => Ensures.bind fun row _ => Ensures.bind fun _ _ => ?_
  split
  · exact Ensures.save ⟨rfl, rfl⟩
  · exact Ensures.save ⟨rfl, rfl⟩

lemma bodyOf_aside {resolve : Resolve} {k : Call}
    {b : Snapshot → Except Error (Final Reply)} (hb : bodyOf c resolve k = some b) :
    Ensures (b m) (Aside m) := by
  cases k with
  | request | ack => cases hb
  | status client =>
    cases hb
    exact Ensures.bind fun _ _ => Ensures.reply _
  | deliver client =>
    cases hb
    exact Ensures.bind fun _ _ => Ensures.bind fun _ _ => Ensures.bind fun _ _ =>
      Ensures.save ⟨rfl, rfl⟩
  | cancel client =>
    cases hb
    exact Ensures.bind fun _ _ => closeBody_aside
  | list =>
    cases hb
    exact Ensures.bind fun _ _ => Ensures.reply _
  | approve requestId code =>
    cases hb
    exact approveBody_aside
  | deny requestId =>
    cases hb
    exact Ensures.bind fun _ _ => Ensures.bind fun _ _ => closeBody_aside

lemma createBody_aside {client : Client} {terms : Terms} :
    Ensures (createBody c client terms m) (Aside m) := by
  unfold createBody
  dsimp only
  split
  · exact Ensures.raise _ _
  · exact Ensures.save ⟨rfl, (enrollment_charges c m).symm⟩

lemma completeBody_aside {row : Row} {r : Credential} : Ensures (completeBody row r m) (Aside m) := by
  unfold completeBody
  split
  · exact Ensures.reply _
  · exact Ensures.save ⟨rfl, rfl⟩

end Integration

/-! ### What a commit does to the charges -/

namespace Owner

variable {c : Ctx} {m m' : Snapshot}

/-- The row after a write of the owner, in what later renewals and charges depend on. -/
structure Rewrites (m m' : Snapshot) (attempts : Option (List ℚ)) : Prop where
  enrollment : m'.enrollment = m.enrollment
  row : ∃ s s', m.owner = some s ∧ m'.owner = some s' ∧ s'.mode = s.mode ∧
    s'.verifier = s.verifier ∧ s'.attempts = attempts

lemma bindOriginBody_writes (h : Writes (bindOriginBody c m) m') :
    Rewrites m m' (m.owner.bind (·.attempts)) := by
  obtain ⟨s, w, x, hb, rfl⟩ := h
  simp only [bindOriginBody, bind_eq_ok, demand_eq_ok] at hb
  obtain ⟨state, hstate, hb⟩ := hb
  split at hb
  · cases hb
    exact ⟨rfl, state, _, hstate, rfl, rfl, rfl, by rw [hstate]; rfl⟩
  · cases hb

lemma claimBody_writes {code : Json} (h : Writes (claimBody c code m) m') :
    Rewrites m m' (m.owner.bind (·.attempts)) := by
  obtain ⟨s, w, x, hb, rfl⟩ := h
  simp only [claimBody, bind_eq_ok, demand_eq_ok] at hb
  obtain ⟨state, hstate, hb⟩ := hb
  split at hb
  · cases hb
    exact ⟨rfl, state, _, hstate, rfl, rfl, rfl, by rw [hstate]; rfl⟩
  · split at hb
    · cases hb
      exact ⟨rfl, state, _, hstate, rfl, rfl, rfl, by rw [hstate]; rfl⟩
    · cases hb

lemma loginBody_writes {token : Json} (h : Writes (loginBody c token m) m') :
    Rewrites m m' (m.owner.bind (·.attempts)) := by
  obtain ⟨s, w, x, hb, rfl⟩ := h
  simp only [loginBody, bind_eq_ok, demand_eq_ok] at hb
  obtain ⟨state, hstate, -, -, entries, -, -, -, hb⟩ := hb
  cases hb
  exact ⟨rfl, state, _, hstate, rfl, rfl, rfl, by rw [hstate]; rfl⟩

lemma logoutBody_writes {cookie : String} (h : Writes (logoutBody c cookie m) m') :
    Rewrites m m' (m.owner.bind (·.attempts)) := by
  obtain ⟨s, w, x, hb, rfl⟩ := h
  simp only [logoutBody, bind_eq_ok, demand_eq_ok] at hb
  obtain ⟨state, hstate, entries, -, hb⟩ := hb
  split at hb
  · cases hb
    exact ⟨rfl, state, _, hstate, rfl, rfl, rfl, by rw [hstate]; rfl⟩
  · cases hb

lemma rateBody_writes (h : Writes (rateBody c m) m') :
    (counting c.now (Limiter.owner.charges m)).length < 10 ∧
      Rewrites m m' (some (counting c.now (Limiter.owner.charges m) ++ [c.now])) := by
  obtain ⟨s, w, x, hb, rfl⟩ := h
  simp only [rateBody, bind_eq_ok, demand_eq_ok, refuse_eq_ok, exists_const,
    decide_eq_false_iff_not, not_le] at hb
  obtain ⟨hlt, state, hstate, hb⟩ := hb
  cases hb
  exact ⟨hlt, rfl, state, _, hstate, rfl, rfl, rfl, rfl⟩

/-- A row that is built anew is one the call renews, and holds no charge. -/
structure Renewed (c : Ctx) (call : Call) (m m' : Snapshot) : Prop where
  enrollment : m'.enrollment = m.enrollment
  renews : Renews c m call
  charges : Limiter.owner.charges m' = []

lemma saved_charges {α : Type} {state : OwnerState} {result x : Except Error α} {s : Snapshot}
    {w : Write} (h : saveAuthority m state result = .save s w x) (hstate : state.attempts = none) :
    (w.next s).enrollment = m.enrollment ∧ Limiter.owner.charges (w.next s) = [] := by
  cases h
  refine ⟨rfl, ?_⟩
  show state.attempts.getD [] = []
  rw [hstate]
  rfl

lemma consoleClaimBody_writes {recover : Bool} (h : Writes (consoleClaimBody c recover m) m') :
    Renewed c (.console recover) m m' := by
  obtain ⟨s, w, x, hb, rfl⟩ := h
  simp only [consoleClaimBody, bind_eq_ok, refuse_eq_ok, exists_const, Bool.or_eq_false_iff,
    Bool.and_eq_false_imp, Bool.not_eq_true', Option.any_eq_false, decide_eq_false_iff_not,
    not_not, Option.isSome_eq_false_iff, Option.isNone_iff_eq_none] at hb
  obtain ⟨⟨hover, hmode⟩, hpending, hclaimed, hb⟩ := hb
  obtain ⟨he, hcharges⟩ := saved_charges (Except.ok.inj hb) rfl
  refine ⟨he, ⟨hover, fun s hs => hmode s hs, ?_⟩, hcharges⟩
  cases recover with
  | true => exact Or.inl rfl
  | false => exact Or.inr ⟨fun p hp => not_lt.mp (hpending rfl p hp), fun s hs => hclaimed rfl s hs⟩

lemma acknowledgeBody_writes {acknowledgement saved : Json}
    (h : Writes (acknowledgeBody c acknowledgement saved m) m') :
    Renewed c (.acknowledge acknowledgement saved) m m' := by
  obtain ⟨s, w, x, hb, rfl⟩ := h
  simp only [acknowledgeBody, bind_eq_ok, demand_eq_ok, refuse_eq_ok, exists_const,
    Bool.or_eq_false_iff, decide_eq_false_iff_not, not_not, not_le, Bool.not_eq_false'] at hb
  obtain ⟨state, hstate, pending, hpending, ⟨⟨hsaved, hexpires⟩, hsecret⟩, hb⟩ := hb
  obtain ⟨he, hcharges⟩ := saved_charges (Except.ok.inj hb) rfl
  exact ⟨he, ⟨pending, by rw [hstate]; exact hpending, hsaved, hexpires, hsecret⟩, hcharges⟩

lemma initializeBody_writes {call : Call} (hcall : call = .ownerInit ∨ call = .start)
    (h : Writes (initializeBody c m) m') : Renewed c call m m' := by
  have hrenew : Renews c m call ↔ Renews c m .ownerInit := by
    rcases hcall with rfl | rfl <;> rfl
  obtain ⟨s, w, x, hb, rfl⟩ := h
  unfold initializeBody at hb
  dsimp only at hb
  split at hb
  · next token htoken =>
    split at hb
    · next hnew =>
      obtain ⟨he, hcharges⟩ := saved_charges (Except.ok.inj hb) rfl
      refine ⟨he, hrenew.mpr ?_, hcharges⟩
      rw [Bool.or_eq_true, decide_eq_true_eq, decide_eq_true_eq] at hnew
      unfold Renews
      rw [htoken]
      exact hnew
    · cases hb
  · next hnone =>
    have hiff : Renews c m .ownerInit ↔
        m.owner.map (·.mode) = some .environment ∨ m.owner = none := by
      unfold Renews
      rw [hnone]
    split at hb
    · next henv =>
      obtain ⟨he, hcharges⟩ := saved_charges (Except.ok.inj hb) rfl
      exact ⟨he, hrenew.mpr (hiff.mpr (Or.inl henv)), hcharges⟩
    · split at hb
      · next hmode =>
        obtain ⟨he, hcharges⟩ := saved_charges (Except.ok.inj hb) rfl
        refine ⟨he, hrenew.mpr (hiff.mpr (Or.inr ?_)), hcharges⟩
        simpa using hmode
      · cases hb

end Owner

/-- What one commit does to the list of a limiter. -/
inductive Charges (c : Ctx) (call : Call) (l : Limiter) (m m' : Snapshot) : Prop
  | same : l.charges m' = l.charges m → (Owner.Renews c m' call → Owner.Renews c m call) →
      Charges c call l m m'
  | charged : l.asks call = true → (counting c.now (l.charges m)).length < l.limit →
      l.charges m' = counting c.now (l.charges m) ++ [c.now] → Charges c call l m m'
  | renewed : l = .owner → Owner.Renews c m call → l.charges m' = [] → Charges c call l m m'

variable {c : Ctx} {call : Call} {m m' : Snapshot} {l : Limiter}

lemma Owner.renews_congr (h : m'.owner = m.owner) :
    Owner.Renews c m' call ↔ Owner.Renews c m call := by
  unfold Owner.Renews
  rw [h]

lemma Charges.of_namespaces (howner : m'.owner = m.owner)
    (hcharges : Limiter.enrollment.charges m' = Limiter.enrollment.charges m) :
    Charges c call l m m' := by
  have hr : Owner.Renews c m' call → Owner.Renews c m call := (Owner.renews_congr howner).mp
  cases l with
  | owner =>
    refine .same ?_ hr
    show (m'.owner.bind (·.attempts)).getD [] = _
    rw [howner]
    rfl
  | enrollment => exact .same hcharges hr

/-- The start hooks renew a row by its mode and its verifier. -/
lemma Owner.Rewrites.renews {attempts : Option (List ℚ)} (h : Owner.Rewrites m m' attempts)
    (hcall : call = .ownerInit ∨ call = .start) (hr : Owner.Renews c m' call) :
    Owner.Renews c m call := by
  obtain ⟨s, s', hs, hs', hmode, hverifier, -⟩ := h.row
  have hiff : Owner.Renews c m' .ownerInit ↔ Owner.Renews c m .ownerInit := by
    unfold Owner.Renews
    rw [hs, hs']
    dsimp only [Option.map_some, Option.bind_some]
    rw [hmode, hverifier]
    simp
  rcases hcall with rfl | rfl
  · exact hiff.mp hr
  · exact hiff.mp hr

lemma Owner.Rewrites.changes (h : Owner.Rewrites m m' (m.owner.bind (·.attempts)))
    (hr : Owner.Renews c m' call → Owner.Renews c m call) : Charges c call l m m' := by
  cases l with
  | owner =>
    obtain ⟨s, s', hs, hs', -, -, ha⟩ := h.row
    refine .same ?_ hr
    show (m'.owner.bind (·.attempts)).getD [] = (m.owner.bind (·.attempts)).getD []
    rw [← ha, hs']
    rfl
  | enrollment =>
    refine .same ?_ hr
    show (m'.enrollment.map (·.attempts)).getD [] = _
    rw [h.enrollment]
    rfl

lemma Owner.Renewed.changes (h : Owner.Renewed c call m m') : Charges c call l m m' := by
  cases l with
  | owner => exact .renewed rfl h.renews h.charges
  | enrollment =>
    refine .same ?_ fun _ => h.renews
    show (m'.enrollment.map (·.attempts)).getD [] = _
    rw [h.enrollment]
    rfl

lemma Owner.rate_changes (h : Writes (Owner.rateBody c m) m') : Charges c .ownerRate l m m' := by
  obtain ⟨hlt, hr⟩ := Owner.rateBody_writes h
  cases l with
  | owner =>
    obtain ⟨s, s', hs, hs', -, -, ha⟩ := hr.row
    refine .charged rfl hlt ?_
    show (m'.owner.bind (·.attempts)).getD [] = _
    rw [hs']
    show s'.attempts.getD [] = _
    rw [ha]
    rfl
  | enrollment =>
    refine .same ?_ fun hr => hr
    show (m'.enrollment.map (·.attempts)).getD [] = _
    rw [hr.enrollment]
    rfl

lemma Enrollment.rate_changes (h : Writes (Enrollment.rateBody c m) m') :
    Charges c .enrollmentRate l m m' := by
  obtain ⟨s, w, x, hb, rfl⟩ := h
  simp only [Enrollment.rateBody, bind_eq_ok, refuse_eq_ok, exists_const,
    decide_eq_false_iff_not, not_le] at hb
  obtain ⟨hlt, hb⟩ := hb
  cases hb
  cases l with
  | owner => exact .same rfl fun hr => hr
  | enrollment =>
    refine .charged rfl ?_ ?_
    · rw [enrollment_charges c]
      exact hlt
    · rw [enrollment_charges c m]
      rfl

/-- **Every commit**, in what it does to the charges. -/
theorem Wrote.charges (h : Wrote c call m m') (l : Limiter) : Charges c call l m m' := by
  have hspared : Aside m m' → Charges c call l m m' := fun hs => .of_namespaces hs.owner hs.charges
  cases h with
  | console recover hcall hb => exact hcall ▸ (Owner.consoleClaimBody_writes hb).changes
  | ownerRate hcall hb => exact hcall ▸ Owner.rate_changes hb
  | claim code hcall hb =>
    subst hcall
    exact (Owner.claimBody_writes hb).changes fun hr => hr
  | acknowledge acknowledgement saved hcall hb =>
    exact hcall ▸ (Owner.acknowledgeBody_writes hb).changes
  | login token hcall hb =>
    subst hcall
    exact (Owner.loginBody_writes hb).changes fun hr => hr
  | logout cookie hcall hb =>
    subst hcall
    exact (Owner.logoutBody_writes hb).changes fun hr => hr
  | ownerInit hcall hb => exact (Owner.initializeBody_writes hcall hb).changes
  | bindOrigin hcall hb =>
    have hw := Owner.bindOriginBody_writes hb
    exact hw.changes (hw.renews hcall)
  | sweep blocked hblocks he =>
    subst he
    exact .of_namespaces rfl (Lifecycle.charges_invalidateApprovals _ rfl)
  | mark he =>
    subst he
    exact .of_namespaces rfl (enrollment_charges c m).symm
  | agentsSweep ids hs =>
    refine .of_namespaces hs.owner ?_
    show (m'.enrollment.map (·.attempts)).getD [] = _
    rw [hs.enrollment]
    rfl
  | enrollment action body resolve k hcall hk hb => exact hspared (Enrollment.body_apart m' hb).toAside
  | enrollmentRate hcall hb => exact hcall ▸ Enrollment.rate_changes hb
  | bindConsumed hcall hb => exact hspared (Enrollment.bindBody_apart m' hb).toAside
  | lifecycle action body resolve k hcall hk hb => exact hspared (Lifecycle.body_apart m' hb).toAside
  | integration action body resolve k b hcall hk hbody hb =>
    exact hspared (Integration.bodyOf_aside hbody m' hb)
  | agentCreate action body resolve client origin name expiresAt terms hcall hk ht hn ha hb =>
    exact hspared (Integration.createBody_aside m' hb)
  | agentComplete action body resolve client credential saved row r hcall hk hack hb =>
    exact hspared (Integration.completeBody_aside m' hb)

/-! ### Steps and runs -/

/-- A step that forgets nothing at first forgets nothing on its way. -/
lemma Wrote.not_forgets (h : Wrote c call m m') (hm : ¬Forgets c call m) :
    ¬Forgets c call m' := by
  rintro ⟨hr, hne⟩
  cases h.charges .owner with
  | same he hback => exact hm ⟨hback hr, he ▸ hne⟩
  | charged hasks =>
    cases call <;> first | exact hr | cases hasks
  | renewed _ _ he =>
    rw [he] at hne
    exact hne rfl

/-- What counts at a later time still counts after a commit. -/
lemma Charges.grows (h : Charges c call l m m') (hm : l = .owner → ¬Forgets c call m) {later : ℚ}
    (hlater : c.now ≤ later) :
    (counting later (l.charges m)).Sublist (counting later (l.charges m')) := by
  cases h with
  | same he => rw [he]
  | charged _ _ he =>
    rw [he, counting_append, counting_fresh hlater]
    exact List.sublist_append_left _ _
  | renewed hl hr he =>
    subst hl
    have hnil : counting c.now (Limiter.owner.charges m) = [] := by
      by_contra hne
      exact hm rfl ⟨hr, hne⟩
    rw [counting_nil_of_le hlater hnil]
    exact List.nil_sublist _

/-- The same over all commits of a call. -/
lemma Traces.grows {h h' : List Snapshot} (ht : Traces c call h h')
    (hm : l = .owner → ¬Forgets c call (latest h)) {later : ℚ} (hlater : c.now ≤ later) :
    (counting later (l.charges (latest h))).Sublist (counting later (l.charges (latest h'))) := by
  let Q : Snapshot → Snapshot → Prop := fun m m' => (l = .owner → ¬Forgets c call m) →
    (l = .owner → ¬Forgets c call m') ∧
      (counting later (l.charges m)).Sublist (counting later (l.charges m'))
  have hQ : Q (latest h) (latest h') := by
    refine Chained.rel (Q := Q) (fun m hm => ⟨hm, List.Sublist.refl _⟩) ?_ ?_ ht
    · intro a b d hab hbd ha
      obtain ⟨hb, h1⟩ := hab ha
      obtain ⟨hd, h2⟩ := hbd hb
      exact ⟨hd, h1.trans h2⟩
    · intro a b hw ha
      exact ⟨fun hl => hw.not_forgets (ha hl), (hw.charges l).grows ha hlater⟩
  exact (hQ hm).2

section Admits

variable {w : World} {s : Step}

lemma Owner.rateLimit_ok {clean : Bool} {h : List Snapshot} (hw : Idle clean w h)
    (hok : (outcome (Owner.rateLimit c) w).1.isOk = true) :
    ∃ h', Stored clean (outcome (Owner.rateLimit c) w).2 h' ∧
      Writes (Owner.rateBody c (latest h)) (latest h') := by
  obtain ⟨h', hh, hp, -⟩ := Store.transaction_performed .ownerRate
    (fun _ => Owner.rateBody_commits) hw
  refine ⟨h', hh.toStored, ?_⟩
  unfold Owner.rateLimit at hok
  rcases hr : (outcome (Store.transaction (Store.perform c (Owner.rateBody c))) w).1 with e | u
  · rw [hr] at hok
    cases hok
  · rw [hr] at hp
    rcases hp.of_ok with ⟨hb, -⟩ | ⟨s, w', hb, -, rfl⟩
    · simp only [Owner.rateBody, bind_eq_ok] at hb
      obtain ⟨-, -, state, -, hb⟩ := hb
      cases hb
    · exact ⟨s, w', _, hb, rfl⟩

lemma Enrollment.rateLimit_ok {clean : Bool} {h : List Snapshot} (hw : Idle clean w h)
    (hok : (outcome (Enrollment.rateLimit c) w).1.isOk = true) :
    ∃ h' m, Stored clean (outcome (Enrollment.rateLimit c) w).2 h' ∧
      Limiter.enrollment.charges m = Limiter.enrollment.charges (latest h) ∧
      Writes (Enrollment.rateBody c m) (latest h') := by
  have hruns : Runs (Holds true clean)
      (Store.perform c (markBody c) >>= fun _ => Store.perform c (rateBody c)) h
      fun r h' => r.isOk = true → ∃ m,
        Limiter.enrollment.charges m = Limiter.enrollment.charges (latest h) ∧
        Writes (rateBody c m) (latest h') := by
    refine Maintains.runs_bind (mark_runs c clean h) (fun h₁ hm => ?_)
      fun e h₁ _ _ _ hr => by cases hr
    refine (Store.perform_commits .enrollmentRate fun _ => rateBody_commits).conseq ?_
    rintro r h' ⟨hp, -⟩ hr
    have hsame : Limiter.enrollment.charges (latest h₁) =
        Limiter.enrollment.charges (latest h) := by
      cases hm with
      | same => rfl
      | marked => exact (enrollment_charges c (latest h)).symm
    refine ⟨latest h₁, hsame, ?_⟩
    cases r with
    | error e => cases hr
    | ok u =>
      rcases hp.of_ok with ⟨hb, -⟩ | ⟨s, w', hb, -, rfl⟩
      · simp only [rateBody, bind_eq_ok] at hb
        obtain ⟨-, -, hb⟩ := hb
        cases hb
      · exact ⟨s, w', _, hb, rfl⟩
  obtain ⟨h', hh, hr⟩ := Store.transaction_spec hruns hw.toStored hw.active
  obtain ⟨m, hm, hwrites⟩ := hr hok
  exact ⟨h', m, hh.toStored, hm, hwrites⟩

/-- A call that is let through found room on its list, and is on it afterwards. -/
lemma Limiter.admits_spec (hw : w.Rests) (h : l.admits w s = true) :
    (counting s.ctx.now (l.charges w.mem)).length < l.limit ∧
      l.charges (s.next w).mem = counting s.ctx.now (l.charges w.mem) ++ [s.ctx.now] := by
  obtain ⟨c, call, faults⟩ := s
  have hi := (hw.faults faults).idle
  rw [Limiter.admits, Bool.and_eq_true] at h
  obtain ⟨hasks, hok⟩ := h
  have hmem : w.mem = latest w.committed := hw.mem
  have hnext : (Step.next w ⟨c, call, faults⟩).mem =
      latest (Step.next w ⟨c, call, faults⟩).committed := by
    have hs : call.service = true := by
      cases l <;> cases call <;> first | rfl | cases hasks
    exact (Step.next_spec hw hs).1.mem
  rw [hnext, hmem]
  cases l with
  | owner =>
    obtain rfl : call = .ownerRate := by cases call <;> first | rfl | cases hasks
    have hok' : (outcome (Owner.rateLimit c) { w with faults }).1.isOk = true := by
      simp only [Step.result, System.exec, System.outcome_bind_pure] at hok
      revert hok
      cases (outcome (Owner.rateLimit c) { w with faults }).1 <;> exact id
    obtain ⟨h', hst, hb⟩ := Owner.rateLimit_ok hi hok'
    have hst' : Stored false (Step.next w ⟨c, .ownerRate, faults⟩) h' := by
      simpa only [Step.next, System.exec, System.outcome_bind_pure] using hst
    rw [hst'.committed]
    obtain ⟨hlt, hr⟩ := Owner.rateBody_writes hb
    obtain ⟨s, s', -, hs', -, -, ha⟩ := hr.row
    refine ⟨hlt, ?_⟩
    show ((latest h').owner.bind (·.attempts)).getD [] = _
    rw [hs']
    show s'.attempts.getD [] = _
    rw [ha]
    rfl
  | enrollment =>
    obtain rfl : call = .enrollmentRate := by cases call <;> first | rfl | cases hasks
    have hok' : (outcome (Enrollment.rateLimit c) { w with faults }).1.isOk = true := by
      simp only [Step.result, System.exec, System.outcome_bind_pure] at hok
      revert hok
      cases (outcome (Enrollment.rateLimit c) { w with faults }).1 <;> exact id
    obtain ⟨h', m, hst, hsame, hb⟩ := Enrollment.rateLimit_ok hi hok'
    have hst' : Stored false (Step.next w ⟨c, .enrollmentRate, faults⟩) h' := by
      simpa only [Step.next, System.exec, System.outcome_bind_pure] using hst
    have hsame : Limiter.enrollment.charges m =
        Limiter.enrollment.charges (latest w.committed) := hsame
    rw [hst'.committed, ← hsame]
    obtain ⟨s, w', x, hb, hnext⟩ := hb
    simp only [Enrollment.rateBody, bind_eq_ok, refuse_eq_ok, exists_const,
      decide_eq_false_iff_not, not_le] at hb
    obtain ⟨hlt, hb⟩ := hb
    cases hb
    rw [hnext, enrollment_charges c m]
    exact ⟨hlt, rfl⟩

end Admits

section Run

variable {σ : ℕ → Step}

/-- What was let through and still counts is on the list. -/
lemma admitted_counts (hσ : Services σ) {l : Limiter} {n : ℕ}
    (hkeep : l = .owner → ∀ k < n, ¬Forgets (σ k).ctx (σ k).call (worldAt σ k).mem) {later : ℚ}
    (hlater : ∀ k < n, (σ k).ctx.now ≤ later) :
    (counting later (l.admitted σ n)).Sublist (counting later (l.charges (worldAt σ n).mem)) := by
  induction n with
  | zero => exact List.nil_sublist _
  | succ n ih =>
    have ih := ih (fun hl k hk => hkeep hl k (by omega)) fun k hk => hlater k (by omega)
    have hnow := hlater n (by omega)
    rw [Limiter.admitted, counting_append]
    by_cases hadmits : l.admits (worldAt σ n) (σ n) = true
    · obtain ⟨-, hnext⟩ := Limiter.admits_spec (worldAt_rests hσ n) hadmits
      have hnext : l.charges (worldAt σ (n + 1)).mem = _ := hnext
      rw [if_pos hadmits, hnext, counting_append, counting_fresh hnow]
      exact ih.append (List.Sublist.refl _)
    · rw [if_neg hadmits]
      have hm : l = .owner → ¬Forgets (σ n).ctx (σ n).call (latest (worldAt σ n).committed) := by
        intro hl
        rw [← worldAt_mem hσ]
        exact hkeep hl n (by omega)
      have hgrows := (worldAt_traces hσ n).grows hm hnow
      rw [← worldAt_mem hσ, ← worldAt_mem hσ] at hgrows
      simpa [counting] using ih.trans hgrows

/-- **Rate limits over runs**: in a run on a clock that never goes back, no window lets more
calls through than the limit; the limiter of the owner, while no row that holds charges is built
anew. -/
theorem rate_limits (σ : ServiceRun) (l : Limiter) (n : ℕ)
    (hclock : ∀ j k, j ≤ k → k < n → (σ.1 j).ctx.now ≤ (σ.1 k).ctx.now)
    (hkeep : l = .owner →
      ∀ k < n, ¬Forgets (σ.1 k).ctx (σ.1 k).call (worldAt σ.1 k).mem) (t : ℚ) :
    (within t (l.admitted σ.1 n)).length ≤ l.limit := by
  induction n with
  | zero => exact Nat.zero_le _
  | succ n ih =>
    have ih := ih (fun j k hjk hk => hclock j k hjk (by omega))
      fun hl k hk => hkeep hl k (by omega)
    rw [Limiter.admitted]
    unfold within at ih ⊢
    rw [List.filter_append]
    split
    · next hadmits =>
      obtain ⟨hlt, -⟩ := Limiter.admits_spec (worldAt_rests σ.2 n) hadmits
      by_cases hin : t ≤ (σ.1 n).ctx.now ∧ (σ.1 n).ctx.now < t + window
      · -- the call before it in this window are all still on the list
        have hcounts := (@admitted_counts σ.1 σ.2 l n (fun hl k hk => hkeep hl k (by omega))
          (σ.1 n).ctx.now fun k hk => hclock k n (by omega) (by omega)).length_le
        have hwithin : ((l.admitted σ.1 n).filter
            fun at_ => t ≤ at_ && at_ < t + window).length ≤
              (counting (σ.1 n).ctx.now (l.admitted σ.1 n)).length := by
          refine (List.monotone_filter_right _ fun at_ hat => ?_).length_le
          simp only [Bool.and_eq_true, decide_eq_true_eq] at hat ⊢
          linarith
        have hone : ([(σ.1 n).ctx.now].filter fun at_ => t ≤ at_ && at_ < t + window).length ≤ 1 :=
          (List.length_filter_le _ _).trans_eq rfl
        rw [List.length_append]
        exact (add_le_add (hwithin.trans hcounts) hone).trans hlt
      · have hnil : [(σ.1 n).ctx.now].filter (fun at_ => t ≤ at_ && at_ < t + window) = [] := by
          simpa [List.filter_cons] using hin
        rw [hnil, List.append_nil]
        exact ih
    · simpa using ih

end Run

/-! ### The claim made anew -/

namespace Owner

variable {clean : Bool} {w : World}

/-- Without faults, a body that writes a valid owner row returns. -/
lemma commits_clean {α : Type} {body : Snapshot → Except Error (Final α)} {state : OwnerState}
    {a : α} {h : List Snapshot} (hw : Idle true w h)
    (hbody : body (latest h) = .ok (.save (latest h) (.owner state) (.ok a)))
    (hv : validateOwnerState (some state) = true) :
    (outcome (Store.transaction (Store.perform c body)) w).1 = .ok a ∧
      Stored true (outcome (Store.transaction (Store.perform c body)) w).2
        ({ latest h with owner := some state } :: h) := by
  have hvalid := hw.toStored.valid_latest
  have hsound : Sound (latest h) (body (latest h)) := by
    rw [hbody]
    exact Or.inr rfl
  obtain ⟨h', hh, hp⟩ := Store.transaction_spec (Store.perform_runs c fun _ => hsound) hw.toStored
    hw.active
  have hcheck : ((Write.owner state).next (latest h)).check (latest h).records = .ok () :=
    (Snapshot.check_ok_iff _ _).mpr
      ⟨{ hvalid with owner := hv }, mutatesCredential_self hvalid.ids_nodup⟩
  rw [hbody] at hp
  rcases hp.saved hcheck hv with ⟨rfl, hr | ⟨hcl, -⟩⟩ | ⟨-, hcl, -⟩
  · exact ⟨hr, hh.toStored⟩
  · cases hcl
  · cases hcl

end Owner

lemma World.Rests.idle_clean {w : World} (hw : w.Rests) :
    Idle true { w with faults := [] } w.committed :=
  ⟨⟨hw.files, fun _ => rfl, hw.registry⟩, hw.active⟩

lemma World.Rests.valid {w : World} (hw : w.Rests) : w.mem.Valid := by
  rw [hw.mem]
  exact hw.toStored.valid_latest

/-- A call that finds room is let through, unless a fault meets it. -/
lemma Limiter.admits_of_room {w : World} (hw : w.Rests) {s : OwnerState}
    (hs : w.mem.owner = some s)
    (hroom : (counting c.now (Limiter.owner.charges w.mem)).length < 10) :
    Limiter.owner.admits w ⟨c, .ownerRate, []⟩ = true ∧
      (Step.next w ⟨c, .ownerRate, []⟩).mem.owner = some { s with
        attempts := some (counting c.now (Limiter.owner.charges w.mem) ++ [c.now]) } := by
  have hv := hw.valid.owner
  rw [hw.mem] at hs hroom hv ⊢
  rw [hs] at hv
  have hstamps : ∀ at_ ∈ (s.attempts.getD []), timestamp at_ = true := by
    intro at_ hat
    simp only [validateOwnerState, Bool.and_eq_true] at hv
    have hall := hv.2
    cases ha : s.attempts with
    | none =>
      rw [ha] at hat
      cases hat
    | some l =>
      rw [ha] at hall hat
      simp only [Option.all_some, Bool.and_eq_true, List.all_eq_true] at hall
      exact hall.2 at_ hat
  have hcharges : Limiter.owner.charges (latest w.committed) = s.attempts.getD [] := by
    show ((latest w.committed).owner.bind (·.attempts)).getD [] = _
    rw [hs]
    rfl
  let charged : OwnerState := { s with
    attempts := some (counting c.now (Limiter.owner.charges (latest w.committed)) ++ [c.now]) }
  have hnew : validateOwnerState (some charged) = true := by
    unfold validateOwnerState at hv ⊢
    rw [Bool.and_eq_true] at hv ⊢
    refine ⟨hv.1, ?_⟩
    simp only [charged]
    simp only [Option.all_some, Bool.and_eq_true, decide_eq_true_eq, List.length_append,
      List.length_singleton, List.all_eq_true, List.mem_append, List.mem_singleton]
    refine ⟨by omega, ?_⟩
    rintro at_ (hat | rfl)
    · rw [hcharges] at hat
      exact hstamps at_ (List.mem_of_mem_filter hat)
    · exact decide_eq_true c.now_nonneg
  have hbody : Owner.rateBody c (latest w.committed) =
      .ok (.save (latest w.committed) (.owner charged) (.ok ())) := by
    have hlt : refuse (decide (10 ≤ ((((some s).bind (·.attempts)).getD []).filter
        fun at_ => c.now - at_ < 60).length)) (Error.owner "rate_limited") = .ok () := by
      rw [hcharges] at hroom
      exact refuse_eq_ok.mpr (decide_eq_false (Nat.not_le.mpr hroom))
    unfold Owner.rateBody
    rw [hs]
    dsimp only
    rw [hlt]
    show Except.ok (Final.save _ (.owner _) _) = _
    simp only [charged, hcharges]
    rfl
  obtain ⟨hok, hst⟩ := Owner.commits_clean (c := c) hw.idle_clean hbody hnew
  constructor
  · simp only [Limiter.admits, Limiter.asks, Step.result, System.exec, System.outcome_bind_pure,
      Owner.rateLimit, hok]
    rfl
  · have hnext : Stored true (Step.next w ⟨c, .ownerRate, []⟩)
        ({ latest w.committed with owner := some charged } :: w.committed) := by
      simpa only [Step.next, System.exec, System.outcome_bind_pure, Owner.rateLimit] using hst
    rw [(Step.next_spec hw rfl).1.mem, hnext.committed]
    rfl

/-- The console makes a new claim, and a row that holds no charge. -/
lemma Owner.claims_anew {w : World} (hw : w.Rests) (recover : Bool) (hover : c.override = none)
    (hmode : ∀ s, w.mem.owner = some s → s.mode ≠ .environment)
    (hnew : recover = true ∨ w.mem.owner = none)
    (hsessions : w.mem.owner.bind (·.sessions) = none) :
    ∃ s, (Step.next w ⟨c, .console recover, []⟩).mem.owner = some s ∧ s.attempts = none ∧
      s.sessions = none ∧ s.mode ≠ .environment := by
  rw [hw.mem] at hmode hnew hsessions
  let mode := if recover then OwnerMode.recovery else .unclaimed
  let state : OwnerState :=
    { Owner.fresh mode c.draws.generation.1 with
      claim := some (c.verifier c.draws.claim.1)
      claimExpires := some (c.now + Owner.claimSeconds)
      claimAttempts := some 0 }
  have hbody : Owner.consoleClaimBody c recover (latest w.committed) =
      .ok (.save (latest w.committed) (.owner state) (.ok c.draws.claim.1)) := by
    have henv : ((latest w.committed).owner.any fun s => decide (s.mode = .environment)) =
        false := by
      cases ho : (latest w.committed).owner with
      | none => rfl
      | some s => simp [hmode s ho]
    unfold Owner.consoleClaimBody
    rw [hover, henv]
    unfold saveAuthority
    rw [hsessions]
    rcases hnew with rfl | hnone
    · rfl
    · rw [hnone]
      cases recover <;> rfl
  have hexpires : timestamp (c.now + Owner.claimSeconds) = true := by
    have := c.now_nonneg
    unfold timestamp Owner.claimSeconds
    rw [decide_eq_true_eq]
    linarith
  have hv : validateOwnerState (some state) = true := by
    have hg := c.draws.generation.2
    have hc := c.verifier_hex c.draws.claim.1
    cases recover <;>
      simp [validateOwnerState, state, mode, Owner.fresh, OwnerMode.active, hg, hc, hexpires]
  obtain ⟨-, hst⟩ := Owner.commits_clean (c := c) hw.idle_clean hbody hv
  have hnext : Stored true (Step.next w ⟨c, .console recover, []⟩)
      ({ latest w.committed with owner := some state } :: w.committed) := by
    simpa only [Step.next, System.exec, System.outcome_bind_pure, Owner.consoleClaim] using hst
  refine ⟨state, ?_, rfl, rfl, ?_⟩
  · rw [(Step.next_spec hw rfl).1.mem, hnext.committed]
    rfl
  · cases recover <;> simp [state, mode, Owner.fresh]

namespace Sample

/-- A claim, ten charges, the claim of a recovery and one more charge, all within a second. -/
def reclaiming (n : ℕ) : Step where
  ctx := ctx n 1000
  call := if n = 0 then .console false else if n = 11 then .console true else .ownerRate
  faults := []

lemma reclaiming_services : Services reclaiming := by
  intro n
  simp only [reclaiming]
  split
  · rfl
  · split <;> rfl

lemma reclaiming_clock (n : ℕ) : (reclaiming n).ctx.now = 1000 := rfl

lemma reclaiming_le (j k : ℕ) : (reclaiming j).ctx.now ≤ (reclaiming k).ctx.now := by
  rw [reclaiming_clock, reclaiming_clock]

/-- The row of an owner that has been charged at most `k` times since it was built. -/
def Charged (w : World) (k : ℕ) : Prop :=
  ∃ s, w.mem.owner = some s ∧ (Limiter.owner.charges w.mem).length ≤ k ∧ s.sessions = none ∧
    s.mode ≠ .environment

lemma reclaiming_claims {n : ℕ} (recover : Bool)
    (hcall : (reclaiming n).call = .console recover)
    (hmode : ∀ s, (worldAt reclaiming n).mem.owner = some s → s.mode ≠ .environment)
    (hnew : recover = true ∨ (worldAt reclaiming n).mem.owner = none)
    (hsessions : (worldAt reclaiming n).mem.owner.bind (·.sessions) = none) :
    Charged (worldAt reclaiming (n + 1)) 0 := by
  have hstep : reclaiming n = ⟨ctx n 1000, .console recover, []⟩ := by
    rw [← hcall]
    rfl
  obtain ⟨s, hs, ha, hse, hm⟩ := Owner.claims_anew (c := ctx n 1000)
    (worldAt_rests reclaiming_services n) recover rfl hmode hnew hsessions
  rw [← hstep] at hs
  refine ⟨s, hs, ?_, hse, hm⟩
  show (((Step.next (worldAt reclaiming n) (reclaiming n)).mem.owner.bind
    (·.attempts)).getD []).length ≤ 0
  rw [hs, Option.bind_some, ha]
  rfl

lemma reclaiming_charges {n k : ℕ} (hcall : (reclaiming n).call = .ownerRate) (hk : k < 10)
    (h : Charged (worldAt reclaiming n) k) :
    Limiter.owner.admits (worldAt reclaiming n) (reclaiming n) = true ∧
      Charged (worldAt reclaiming (n + 1)) (k + 1) := by
  have hstep : reclaiming n = ⟨ctx n 1000, .ownerRate, []⟩ := by
    rw [← hcall]
    rfl
  obtain ⟨s, hs, hlen, hse, hm⟩ := h
  have hcount : (counting (ctx n 1000).now
      (Limiter.owner.charges (worldAt reclaiming n).mem)).length ≤ k :=
    (List.length_filter_le _ _).trans hlen
  obtain ⟨hadmits, hnext⟩ := Limiter.admits_of_room (c := ctx n 1000)
    (worldAt_rests reclaiming_services n) hs (by omega)
  rw [← hstep] at hadmits hnext
  refine ⟨hadmits, _, hnext, ?_, hse, hm⟩
  show (((Step.next (worldAt reclaiming n) (reclaiming n)).mem.owner.bind
    (·.attempts)).getD []).length ≤ k + 1
  rw [hnext, Option.bind_some, Option.getD_some, List.length_append]
  exact Nat.succ_le_succ hcount

lemma reclaiming_first {k : ℕ} (hk : k ≤ 10) : Charged (worldAt reclaiming (k + 1)) k := by
  induction k with
  | zero => exact reclaiming_claims false rfl (fun s hs => by cases hs) (Or.inr rfl) rfl
  | succ k ih =>
    have hcall : (reclaiming (k + 1)).call = .ownerRate := by
      simp only [reclaiming]
      rw [if_neg (by omega), if_neg (by omega)]
    exact (reclaiming_charges hcall (by omega) (ih (by omega))).2

/-- All but the two claims are let through. -/
lemma reclaiming_admits {n : ℕ} (h0 : n ≠ 0) (h11 : n ≠ 11) (hn : n ≤ 12) :
    Limiter.owner.admits (worldAt reclaiming n) (reclaiming n) = true := by
  have hcall : (reclaiming n).call = .ownerRate := by
    simp only [reclaiming]
    rw [if_neg h0, if_neg h11]
  by_cases hlate : n = 12
  · subst hlate
    have hfirst : Charged (worldAt reclaiming 11) 10 := reclaiming_first le_rfl
    obtain ⟨s, hs, -, hse, hm⟩ := hfirst
    have hmode : ∀ s', (worldAt reclaiming 11).mem.owner = some s' → s'.mode ≠ .environment := by
      intro s' hs'
      rw [hs, Option.some.injEq] at hs'
      exact hs' ▸ hm
    have hsessions : (worldAt reclaiming 11).mem.owner.bind (·.sessions) = none := by
      rw [hs]
      exact hse
    have hrenewed : Charged (worldAt reclaiming (11 + 1)) 0 :=
      reclaiming_claims true rfl hmode (Or.inl rfl) hsessions
    exact (reclaiming_charges hcall (by omega) hrenewed).1
  · obtain ⟨k, rfl⟩ := Nat.exists_eq_succ_of_ne_zero h0
    exact (reclaiming_charges hcall (by omega) (reclaiming_first (k := k) (by omega))).1

/-- Eleven calls within the window that starts with them. -/
lemma reclaiming_admitted : (within 1000 (Limiter.owner.admitted reclaiming 13)).length = 11 := by
  have hno : ∀ n, n = 0 ∨ n = 11 →
      Limiter.owner.admits (worldAt reclaiming n) (reclaiming n) = false := by
    rintro n (rfl | rfl) <;> rfl
  simp [Limiter.admitted, hno, reclaiming_admits, reclaiming_clock, within, window]

end Sample

/-- **The limit of the owner is not kept over runs**: a claim made anew forgets the charges. -/
theorem rate_limits_forgotten :
    ¬∀ (σ : ServiceRun) (l : Limiter) (n : ℕ),
      (∀ j k, j ≤ k → k < n → (σ.1 j).ctx.now ≤ (σ.1 k).ctx.now) →
        ∀ t, (within t (l.admitted σ.1 n)).length ≤ l.limit := by
  intro h
  have hle := h ⟨Sample.reclaiming, Sample.reclaiming_services⟩ .owner 13
    (fun j k _ _ => Sample.reclaiming_le j k) 1000
  rw [Sample.reclaiming_admitted] at hle
  exact absurd hle (by decide)

/-- The ten calls before the claim is made anew. -/
theorem rate_limits_sample :
    (within 1000 (Limiter.owner.admitted Sample.reclaiming 11)).length ≤ Limiter.owner.limit :=
  rate_limits ⟨Sample.reclaiming, Sample.reclaiming_services⟩ .owner 11
    (fun j k _ _ => Sample.reclaiming_le j k)
    (by
      intro _ k hk hforgets
      by_cases h0 : k = 0
      · subst h0
        exact hforgets.2 rfl
      · have hcall : (Sample.reclaiming k).call = .ownerRate := by
          simp only [Sample.reclaiming]
          rw [if_neg h0, if_neg (by omega)]
        have hrenews : Owner.Renews _ _ (Sample.reclaiming k).call := hforgets.1
        rw [hcall] at hrenews
        exact hrenews)
    1000

end Vauxr
