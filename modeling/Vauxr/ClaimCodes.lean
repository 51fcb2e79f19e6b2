import Mathlib
import Vauxr.Sessions

/-!
The claim codes of the console, over runs: how often a code is good for a claim, how long, and how
many wrong codes it survives.
-/

namespace Vauxr

open Lib

/-- An error of the owner surface is not one of the store: the body has raised it, or what it
raises behind its write has been written. -/
lemma Performed.of_owner_error {α : Type} {clean : Bool} {h h' : List Snapshot}
    {b : Except Error (Final α)} {code : String}
    (hp : Performed clean h b (.error (.owner code)) h') :
    b = .error (.owner code) ∨ (∃ s, b = .ok (.raise s (.owner code))) ∨
      ∃ s w, b = .ok (.save s w (.error (.owner code))) ∧ h' = w.next s :: h := by
  have hcheck : ∀ (old : List Credential) (s : Snapshot), s.check old ≠ .error (.owner code) := by
    intro old s hs
    unfold Snapshot.check at hs
    repeat' split at hs
    all_goals cases hs
  cases hp with
  | error => exact Or.inl rfl
  | raise s => exact Or.inr (Or.inl ⟨s, rfl⟩)
  | refused s w x _ hr =>
    rcases hr with hr | ⟨-, m, hr⟩
    · exact absurd hr (hcheck _ _)
    · cases hr
  | failed s w x _ _ he => exact he.elim
  | committed s w x _ _ hr =>
    rcases hr with rfl | ⟨-, e, he, hr⟩
    · exact Or.inr (Or.inr ⟨s, w, rfl, rfl⟩)
    · cases hr
      exact he.elim

namespace Owner

/-- The step is a claim that is accepted. -/
def acceptsClaim (w : World) (s : Step) : Bool :=
  match s.call with
  | .claim _ => (s.result w).isOk
  | _ => false

/-- The step is a claim that is told its code is wrong. -/
def refusesClaim (w : World) (s : Step) : Bool :=
  match s.call, s.result w with
  | .claim _, .error e => e = .owner "invalid_claim"
  | _, _ => false

/-- How many claims are told so from step `a` on and before step `b`. -/
def wrongClaims (σ : ℕ → Step) (a b : ℕ) : ℕ :=
  ((Finset.Ico a b).filter fun n => refusesClaim (worldAt σ n) (σ n) = true).card

/-! ### One claim -/

section Step

variable {w : World} {s : Step} {d : String} {e : ℚ}

lemma claim_performed (hw : w.Rests) {code : Json} (hcall : s.call = .claim code) :
    ∃ r : Except Error Claimed, s.result w = r.map Reply.claimed ∧
      Performed false w.committed (claimBody s.ctx code w.mem) r (s.next w).committed :=
  step_performed (f := Reply.claimed) hw (b := claimBody s.ctx code) (by rw [hcall]; rfl)
    fun m => claimBody_commits

/-- A claim that is accepted found its code out, and leaves none out. -/
lemma accepted_claim (hw : w.Rests) (hnext : (s.next w).Rests) (h : acceptsClaim w s = true) :
    (∃ code d e, s.call = .claim code ∧ Shows d e w.mem ∧ wrong w.mem < 5 ∧
      isSecret s.ctx code (some d) = true ∧ s.ctx.now < e) ∧
    ∀ d e, ¬Shows d e (s.next w).mem := by
  unfold acceptsClaim at h
  split at h
  · next code hcall =>
    obtain ⟨r, hr, hp⟩ := claim_performed hw hcall
    rw [hr] at h
    cases r with
    | error e => cases h
    | ok a =>
      rcases hp.of_ok with ⟨hb, -⟩ | ⟨m, w', hb, -, he⟩
      · -- a claim that returns has written
        simp only [claimBody, bind_eq_ok, demand_eq_ok] at hb
        obtain ⟨state, -, hb⟩ := hb
        split at hb
        · cases hb
        · split at hb <;> cases hb
      · simp only [claimBody, bind_eq_ok, demand_eq_ok] at hb
        obtain ⟨state, hstate, hb⟩ := hb
        split at hb
        · next hvalid =>
          simp only [Bool.and_eq_true, decide_eq_true_eq] at hvalid
          obtain ⟨⟨⟨-, hlive⟩, hwrong⟩, hsecret⟩ := hvalid
          obtain ⟨e, hexpires, hlt⟩ := (Option.any_eq_true _ _).mp hlive
          obtain ⟨d, hclaim⟩ := secret_digest hsecret
          cases hb
          refine ⟨⟨code, d, e, hcall, ?_, ?_, hclaim ▸ hsecret, of_decide_eq_true hlt⟩, ?_⟩
          · rw [Shows, hstate]
            exact ⟨hclaim, hexpires⟩
          · rw [wrong, hstate]
            exact hwrong
          · intro d e hd
            rw [hnext.mem, he] at hd
            cases hd.1
        · split at hb <;> cases hb
  · cases h

/-- While a code is out, a claim ends in a write. -/
lemma claimBody_out {c : Ctx} {m : Snapshot} {code : Json} {state : OwnerState}
    (hstate : m.owner = some state) (hclaim : state.claim = some d) :
    (∃ w a, claimBody c code m = .ok (.save m w (.ok a))) ∨
      claimBody c code m = .ok (.save m
        (.owner { state with claimAttempts := some (min 5 (state.claimAttempts.getD 0 + 1)) })
        (.error (.owner "invalid_claim"))) := by
  have hout : state.claim.isSome = true := by rw [hclaim]; rfl
  unfold claimBody
  rw [hstate]
  by_cases hvalid : (!state.mode.active && state.claimExpires.any (c.now < ·) &&
      state.claimAttempts.getD 0 < 5 && isSecret c code state.claim) = true
  · exact Or.inl ⟨_, _, if_pos hvalid⟩
  · exact Or.inr ((if_neg hvalid).trans (if_pos hout))

/-- A claim that is told so has been counted, where a code was out. -/
lemma refused_claim (hw : w.Rests) (hnext : (s.next w).Rests) (h : refusesClaim w s = true)
    (hd : Shows d e w.mem) : wrong (s.next w).mem = min 5 (wrong w.mem + 1) := by
  unfold refusesClaim at h
  split at h
  · next code err hcall herr =>
    obtain ⟨r, hr, hp⟩ := claim_performed hw hcall
    obtain rfl : err = .owner "invalid_claim" := of_decide_eq_true h
    rw [herr] at hr
    obtain ⟨state, hstate, hclaim⟩ := Option.bind_eq_some_iff.mp hd.1
    have hr : r = .error (.owner "invalid_claim") := by
      cases r with
      | error e =>
        cases hr
        rfl
      | ok a => cases hr
    rw [hr] at hp
    rcases claimBody_out hstate hclaim with ⟨w', a, hb⟩ | hb <;> rw [hb] at hp
    · rcases hp.of_owner_error with he | ⟨_, he⟩ | ⟨_, _, he, -⟩ <;> cases he
    · rcases hp.of_owner_error with he | ⟨_, he⟩ | ⟨_, _, he, hh⟩
      · cases he
      · cases he
      · cases he
        rw [wrong, hnext.mem, hh, wrong, hstate]
        rfl
  · cases h

end Step

/-! ### Runs -/

section Run

variable {σ : ℕ → Step} {d : String} {e : ℚ} {a b n : ℕ}

lemma wrongClaims_self : wrongClaims σ a a = 0 := by
  simp [wrongClaims]

lemma wrongClaims_succ (hab : a ≤ b) : wrongClaims σ a (b + 1) =
    wrongClaims σ a b + if refusesClaim (worldAt σ b) (σ b) = true then 1 else 0 := by
  unfold wrongClaims
  rw [Nat.Ico_succ_right_eq_insert_Ico hab, Finset.filter_insert]
  split
  · rw [Finset.card_insert_of_notMem (by simp)]
  · rfl

/-- A code that is out behind a step was out before it, with no more counted, or the step has
drawn it. -/
lemma shows_step (hσ : Services σ) (hd : Shows d e (worldAt σ (n + 1)).mem) :
    (Shows d e (worldAt σ n).mem ∧
      min 5 (wrong (worldAt σ n).mem) ≤ wrong (worldAt σ (n + 1)).mem) ∨
    DrawsCode (σ n).ctx (σ n).call d e := by
  rw [worldAt_mem hσ] at hd ⊢
  rw [worldAt_mem hσ (n + 1)]
  have hrel := (worldAt_path hσ n).rel
    (Q := fun m m' => Shows d e m' → (Shows d e m ∧ min 5 (wrong m) ≤ wrong m') ∨
      DrawsCode (σ n).ctx (σ n).call d e)
    (fun m hd => Or.inl ⟨hd, min_le_right _ _⟩) ?_ fun m m' hm => hm.shows
  · exact hrel hd
  · intro m₁ m₂ m₃ h₁ h₂ hd
    rcases h₂ hd with ⟨hd, hle⟩ | hp
    · rcases h₁ hd with ⟨hd, hle'⟩ | hp
      · exact Or.inl ⟨hd, by omega⟩
      · exact Or.inr hp
    · exact Or.inr hp

lemma wrong_nonneg {m : Snapshot} (hm : m.Valid) : 0 ≤ wrong m := by
  have hv := hm.owner
  unfold wrong
  cases hs : m.owner with
  | none => simp
  | some s =>
    cases ha : s.claimAttempts with
    | none => simp [ha]
    | some k =>
      rw [hs] at hv
      simp only [validateOwnerState, ha, Option.all_some, Bool.and_eq_true,
        decide_eq_true_eq] at hv
      simp only [Option.bind_some, ha, Option.getD_some]
      omega

/-- The wrong claims since a code was drawn are counted, up to five. -/
lemma tally (hσ : Services σ) (h : Shows d e (worldAt σ n).mem) :
    ∃ i < n, DrawsCode (σ i).ctx (σ i).call d e ∧ ∀ j, i < j → j ≤ n →
      Shows d e (worldAt σ j).mem ∧
        min 5 (wrongClaims σ (i + 1) j : ℤ) ≤ wrong (worldAt σ j).mem := by
  induction n with
  | zero => cases h.1
  | succ n ih =>
    rcases shows_step hσ h with ⟨hd, hle⟩ | hp
    · obtain ⟨i, hi, hp, hkept⟩ := ih hd
      refine ⟨i, by omega, hp, fun j hij hj => ?_⟩
      rcases Nat.lt_or_ge n j with hlt | hge
      · obtain rfl : j = n + 1 := by omega
        refine ⟨h, ?_⟩
        obtain ⟨-, hcount⟩ := hkept n hi (Nat.le_refl n)
        rw [wrongClaims_succ (show i + 1 ≤ n from hi)]
        split
        · next hwrong =>
          have hcounted := refused_claim (worldAt_rests hσ n) (worldAt_rests hσ (n + 1)) hwrong hd
          have hcounted : wrong (worldAt σ (n + 1)).mem = _ := hcounted
          rw [hcounted]
          push_cast
          omega
        · push_cast
          omega
      · exact hkept j hij hge
    · refine ⟨n, n.lt_succ_self, hp, fun j hj hjn => ?_⟩
      obtain rfl : j = n + 1 := by omega
      refine ⟨h, ?_⟩
      rw [wrongClaims_self]
      exact (min_le_right _ _).trans (wrong_nonneg (worldAt_valid hσ _))

end Run

/-- **Claim codes over runs**: a claim is accepted only with a code that the console drew less
than five minutes before, that no claim has been accepted with since, and against which fewer than
five wrong codes have been tried. -/
theorem claim_codes (σ : ServiceRun) (n : ℕ)
    (h : acceptsClaim (worldAt σ.1 n) (σ.1 n) = true) :
    ∃ code, (σ.1 n).call = .claim code ∧ ∃ i < n, (∃ recover, (σ.1 i).call = .console recover) ∧
      isSecret (σ.1 n).ctx code (some ((σ.1 i).ctx.verifier (σ.1 i).ctx.draws.claim.1)) = true ∧
      (σ.1 n).ctx.now < (σ.1 i).ctx.now + claimSeconds ∧
      (∀ j, i < j → j < n → acceptsClaim (worldAt σ.1 j) (σ.1 j) = false) ∧
      wrongClaims σ.1 (i + 1) n < 5 := by
  obtain ⟨⟨code, d, e, hcall, hd, hwrong, hsecret, hlive⟩, -⟩ :=
    accepted_claim (worldAt_rests σ.2 n) (worldAt_rests σ.2 (n + 1)) h
  obtain ⟨i, hi, ⟨hconsole, -, rfl, rfl⟩, hkept⟩ := tally σ.2 hd
  refine ⟨code, hcall, i, hi, hconsole, hsecret, hlive, fun j hij hjn => ?_, ?_⟩
  · -- an accepted claim would have taken the code away
    by_contra haccepts
    obtain ⟨-, hnone⟩ := accepted_claim (worldAt_rests σ.2 j) (worldAt_rests σ.2 (j + 1))
      (Bool.not_eq_false _ ▸ haccepts)
    exact hnone _ _ (hkept (j + 1) (by omega) hjn).1
  · have hcount := (hkept n hi (Nat.le_refl n)).2
    omega

end Owner

/-! ### A sample run -/

namespace Sample

/-- A start, a code on the console, a claim with a wrong code, and claims with that code. -/
def claiming (n : ℕ) : Step where
  ctx := ctx n n
  call :=
    match n with
    | 0 => .start
    | 1 => .console false
    | 2 => .claim (.str "wrong")
    | _ => .claim (.str (draws 1).claim.1)
  faults := []

lemma claiming_services : Services claiming
  | 0 | 1 | 2 | _ + 3 => rfl

end Sample

namespace Owner

theorem claim_codes_sample :
    refusesClaim (worldAt Sample.claiming 2) (Sample.claiming 2) = true ∧
      ∃ i < 3, (∃ recover, (Sample.claiming i).call = .console recover) ∧
        wrongClaims Sample.claiming (i + 1) 3 < 5 := by
  obtain ⟨_, -, i, hi, hconsole, -, -, -, hwrong⟩ :=
    claim_codes ⟨Sample.claiming, Sample.claiming_services⟩ 3 (by decide +kernel)
  exact ⟨by decide +kernel, i, hi, hconsole, hwrong⟩

end Owner

end Vauxr
