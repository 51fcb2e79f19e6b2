import Vauxr.Tombstone

/-!
Write atomicity and closure of the codec. Whatever fault a write meets, memory ends as the file,
the file holds the snapshot from before a commit or a complete new one, the loader reads back
every content the file has had, and a secret is handed out only when its digest was committed.
-/

namespace Vauxr

open Lib

/-! ### What a body hands out -/

/-- What a body returns fits the snapshot it leaves. -/
def Discloses {α : Type} (K : Snapshot → α → Prop) (m : Snapshot) :
    Except Error (Final α) → Prop
  | .ok (.reply a) => K m a
  | .ok (.save s w (.ok a)) => K (w.next s) a
  | _ => True

namespace Discloses

variable {α β : Type} {K : Snapshot → α → Prop} {m : Snapshot}

lemma bind {x : Except Error β} {f : β → Except Error (Final α)}
    (h : ∀ a, x = .ok a → Discloses K m (f a)) : Discloses K m (x >>= f) := by
  cases x with
  | error e => trivial
  | ok a => exact h a rfl

lemma committed {clean : Bool} {h h' : List Snapshot} {b : Except Error (Final α)} {a : α}
    (hb : Discloses K (latest h) b) (hp : Performed clean h b (.ok a) h') : K (latest h') a := by
  rcases hp.of_ok with ⟨rfl, rfl⟩ | ⟨s, w, rfl, -, rfl⟩
  · exact hb
  · exact hb

end Discloses

/-- The secrets that a reply hands out are those of the snapshot. -/
def Reply.Kept (c : Ctx) (m : Snapshot) : Reply → Prop
  | .code text => m.owner.bind (·.claim) = some (c.verifier text)
  | .claimed a => ∃ p, m.owner.bind (·.pending) = some p ∧
      p.verifier = c.verifier a.operatorToken ∧ p.ack = c.verifier a.acknowledgement
  | .login cookie opened => ∃ s, m.owner.bind (·.sessions) = some s ∧
      s.entries.get? (c.verifier cookie) = some opened.expires
  | .enrollment (.consumed _ _ token _) => c.verifier token ∈ m.digests
  | .lifecycle (.operation _ (some token)) => c.verifier token ∈ m.digests
  | .integration (.delivered _ token _) => c.verifier token ∈ m.digests
  | _ => True

section Bodies

variable (c : Ctx) (m : Snapshot)

lemma Owner.consoleClaimBody_discloses (recover : Bool) :
    Discloses (fun m a => (Reply.code a).Kept c m) m (Owner.consoleClaimBody c recover m) :=
  .bind fun _ _ => .bind fun _ _ => .bind fun _ _ => rfl

lemma Owner.claimBody_discloses (code : Json) :
    Discloses (fun m a => (Reply.claimed a).Kept c m) m (Owner.claimBody c code m) := by
  refine .bind fun _ _ => ?_
  dsimp only
  split
  · exact ⟨_, rfl, rfl, rfl⟩
  · split <;> trivial

lemma Owner.loginBody_discloses (token : Json) :
    Discloses (fun m a => (Reply.login a.1 a.2).Kept c m) m (Owner.loginBody c token m) :=
  .bind fun _ _ => .bind fun _ _ => .bind fun _ _ => .bind fun _ _ =>
    ⟨_, rfl, Dict.get?_set_self _ _ _⟩

lemma Lifecycle.body_discloses (call : Lifecycle.Call) (resolve : Resolve) :
    Discloses (fun m a => (Reply.lifecycle a).Kept c m) m (Lifecycle.body c call resolve m) := by
  refine .bind fun p _ => ?_
  cases call with
  | control action id role subject =>
    refine .bind fun _ _ => .bind fun r _ => .bind fun s _ => ?_
    dsimp only
    split
    · exact .bind fun _ _ => trivial
    · refine .bind fun _ _ => .bind fun row _ => ?_
      cases action with
      | rotate => trivial
      | revoke | recover => exact .bind fun _ _ => trivial
  | poll =>
    refine .bind fun _ _ => ?_
    dsimp only
    split
    · trivial
    · split <;> trivial
  | status id => exact .bind fun _ _ => trivial
  | ack id saved =>
    refine .bind fun row _ => .bind fun _ _ => ?_
    dsimp only
    split
    · trivial
    · exact .bind fun _ _ => .bind fun _ _ => trivial
  | deliver id =>
    refine .bind fun row _ => .bind fun _ _ => .bind fun _ _ => .bind fun credential hcred => ?_
    obtain ⟨-, -, -, hv, -⟩ := Credential.create_eq_ok hcred
    show c.verifier _ ∈ (m.records ++ [credential]).map (·.verifier)
    rw [← hv, List.map_append]
    exact List.mem_append_right _ (List.mem_singleton.mpr rfl)

namespace Enrollment

variable {c : Ctx} {m : Snapshot}

/-- The credential of a redeem is among the records that the staging leaves. -/
lemma staged_digest {row : Row} {credential : Credential} {staged : Snapshot}
    {records : List Credential}
    (h : Lifecycle.replaceEnrollmentCredential m row credential = .ok (staged, .ok records)) :
    credential.verifier ∈ records.map (·.verifier) := by
  simp only [Lifecycle.replaceEnrollmentCredential, bind_eq_ok] at h
  obtain ⟨bound, -, h⟩ := h
  split at h
  · cases h
  · cases h
    rw [List.map_append]
    exact List.mem_append_right _ (List.mem_singleton.mpr rfl)

lemma redeemBody_discloses (row : Row) :
    Discloses (fun m a => (Reply.enrollment a).Kept c m) m (redeemBody c m row) := by
  refine .bind fun _ _ => .bind fun _ _ => .bind fun credential hcred =>
    .bind fun (staged, records) hrep => ?_
  obtain ⟨-, -, -, hv, -⟩ := Credential.create_eq_ok hcred
  cases records with
  | error e => trivial
  | ok records =>
    have hkept : c.verifier ("vx_dev_" ++ c.draws.token.1) ∈ records.map (·.verifier) := by
      rw [← hv]
      exact staged_digest hrep
    dsimp only
    split
    · exact hkept
    · split
      · trivial
      · exact hkept

lemma failure_discloses {α : Type} {K : Snapshot → α → Prop} (row : Row) :
    Discloses K m (failure c m row : Except Error (Final α)) := by
  unfold failure
  split <;> trivial

lemma proofBody_discloses (action : Proof) (requestId signature : Json) :
    Discloses (fun m a => (Reply.enrollment a).Kept c m) m
      (proofBody c m action requestId signature) := by
  refine .bind fun row _ => .bind fun _ _ => ?_
  split
  · exact failure_discloses row
  · cases action with
    | status | cancel => trivial
    | prove => exact .bind fun _ _ => trivial
    | redeem => exact redeemBody_discloses row

lemma requestBody_discloses (kindField keyField nameField : Json) :
    Discloses (fun m a => (Reply.enrollment a).Kept c m) m
      (requestBody c m kindField keyField nameField) := by
  refine .bind fun _ _ => .bind fun _ _ => .bind fun _ _ => .bind fun _ _ => ?_
  refine .bind fun _ _ => .bind fun _ _ => ?_
  split
  · trivial
  · dsimp only
    split <;> trivial

lemma body_discloses (call : Call) (resolve : Resolve) :
    Discloses (fun m a => (Reply.enrollment a).Kept c m) m (body c call resolve m) := by
  cases call with
  | request kindField keyField nameField =>
    simp only [body]
    split
    · exact .bind fun _ _ => requestBody_discloses _ _ _
    · exact requestBody_discloses _ _ _
  | list => exact .bind fun _ _ => trivial
  | proof action requestId signature => exact proofBody_discloses _ _ _
  | confirm action requestId code =>
    refine .bind fun row _ => .bind fun _ _ => .bind fun _ _ => .bind fun _ _ => ?_
    dsimp only
    split
    · exact failure_discloses row
    · exact .bind fun _ _ => .bind fun _ _ => trivial
  | deny requestId => exact .bind fun _ _ => .bind fun _ _ => .bind fun _ _ => trivial

end Enrollment

namespace Integration

variable {c : Ctx} {m : Snapshot}

lemma Reply.quiet.kept {a : Reply} (h : a.quiet) : (Vauxr.Reply.integration a).Kept c m := by
  cases a with
  | delivered => cases h
  | _ => trivial

lemma closeBody_discloses (row : Row) (target : Status) :
    Discloses (fun m a => (Vauxr.Reply.integration a).Kept c m) m (closeBody m row target) := by
  unfold closeBody
  split
  · trivial
  · refine .bind fun _ _ => ?_
    dsimp only
    split
    · trivial
    · exact .bind fun _ _ => trivial

lemma bodyOf_discloses {k : Call} {resolve : Resolve}
    {b : Snapshot → Except Error (Final Reply)} (hb : bodyOf c resolve k = some b) :
    Discloses (fun m a => (Vauxr.Reply.integration a).Kept c m) m (b m) := by
  cases k with
  | request | ack => cases hb
  | status client =>
    cases hb
    exact .bind fun _ _ => trivial
  | deliver client =>
    cases hb
    refine .bind fun row _ => .bind fun _ _ => .bind fun credential hcred => ?_
    obtain ⟨-, -, -, hv, -⟩ := Credential.create_eq_ok hcred
    show c.verifier _ ∈ (m.records ++ [credential]).map (·.verifier)
    rw [← hv, List.map_append]
    exact List.mem_append_right _ (List.mem_singleton.mpr rfl)
  | cancel client =>
    cases hb
    exact .bind fun row _ => closeBody_discloses row _
  | list =>
    cases hb
    exact .bind fun _ _ => trivial
  | approve requestId code =>
    cases hb
    refine .bind fun _ _ => .bind fun row _ => .bind fun _ _ => ?_
    dsimp only
    split <;> trivial
  | deny requestId =>
    cases hb
    exact .bind fun _ _ => .bind fun row _ => closeBody_discloses row _

end Integration

end Bodies

/-! ### What a call hands out -/

namespace System

variable {c : Ctx} {w : World}

lemma perform_kept {α : Type} {body : Snapshot → Except Error (Final α)}
    {K : Snapshot → α → Prop} (call : Call)
    (hb : ∀ {m}, m.Valid → Commits c call m (body m)) (hd : ∀ m, Discloses K m (body m))
    (hw : w.Rests) {a : α} (ha : (outcome (Store.transaction (Store.perform c body)) w).1 = .ok a) :
    K (latest (outcome (Store.transaction (Store.perform c body)) w).2.committed) a := by
  obtain ⟨h', hh, hp, -⟩ := Store.transaction_performed call (fun hv => hb hv) hw.idle
  rw [hh.toStored.committed]
  rw [ha] at hp
  exact (hd _).committed hp

lemma served_kept {κ α : Type} {call : Call} {prep : List Snapshot → List Snapshot → Prop}
    {parsed : Except Error κ} {ran : κ → Ran α} {h h' : List Snapshot} {a : α}
    {K : Snapshot → α → Prop}
    (hk : ∀ k h₁ h', ran k h₁ (.ok a) h' → K (latest h') a)
    (hs : Serves c call false prep parsed ran h (.ok a) h') : K (latest h') a := by
  cases hs with
  | served k h₁ _ _ _ _ hr _ => exact hk k h₁ h' hr

/-- **What is handed out was committed**: the secrets of a reply are those of the snapshot that
the call leaves on the file. -/
theorem exec_kept {call : Call} (hcall : call.service = true) (hw : w.Rests) {reply : Reply}
    (hr : (outcome (exec c call) w).1 = .ok reply) :
    reply.Kept c (latest (outcome (exec c call) w).2.committed) := by
  cases call with
  | replace | stage => cases hcall
  | ownerRate | acknowledge | session | logout | ownerInit | enrollmentRate | lifecycleSweep
  | integrationSweep | start | reload =>
    simp only [exec, outcome_bind_pure] at hr
    obtain ⟨a, -, rfl⟩ := map_eq_ok.mp hr
    trivial
  | console recover =>
    simp only [exec, outcome_bind_pure] at hr ⊢
    obtain ⟨a, ha, rfl⟩ := map_eq_ok.mp hr
    exact perform_kept (.console recover) (fun _ => Owner.consoleClaimBody_commits)
      (fun m => Owner.consoleClaimBody_discloses c m recover) hw ha
  | claim code =>
    simp only [exec, outcome_bind_pure] at hr ⊢
    obtain ⟨a, ha, rfl⟩ := map_eq_ok.mp hr
    exact perform_kept (.claim code) (fun _ => Owner.claimBody_commits)
      (fun m => Owner.claimBody_discloses c m code) hw ha
  | login token =>
    simp only [exec, outcome_bind_pure] at hr ⊢
    obtain ⟨a, ha, rfl⟩ := map_eq_ok.mp hr
    exact perform_kept (.login token) (fun _ => Owner.loginBody_commits)
      (fun m => Owner.loginBody_discloses c m token) hw ha
  | enrollment action body resolve =>
    simp only [exec, outcome_bind_pure] at hr ⊢
    obtain ⟨a, ha, rfl⟩ := map_eq_ok.mp hr
    obtain ⟨h', hh, hs⟩ := Enrollment.execute_spec c action body resolve hw
    rw [ha] at hs
    rw [hh.toStored.committed]
    exact served_kept (K := fun m a => (Reply.enrollment a).Kept c m)
      (fun k h₁ _ hp => (Enrollment.body_discloses k resolve).committed hp) hs
  | lifecycle action body resolve =>
    simp only [exec, outcome_bind_pure] at hr ⊢
    obtain ⟨a, ha, rfl⟩ := map_eq_ok.mp hr
    obtain ⟨h', hh, hs⟩ := Lifecycle.execute_spec c action body resolve hw
    rw [ha] at hs
    rw [hh.toStored.committed]
    exact served_kept (K := fun m a => (Reply.lifecycle a).Kept c m)
      (fun k h₁ _ hp => (Lifecycle.body_discloses c _ k resolve).committed hp) hs
  | integration action body resolve =>
    simp only [exec, outcome_bind_pure] at hr ⊢
    obtain ⟨a, ha, rfl⟩ := map_eq_ok.mp hr
    obtain ⟨h', hh, hs⟩ := Integration.execute_spec c action body resolve hw
    rw [ha] at hs
    rw [hh.toStored.committed]
    refine served_kept (K := fun m a => (Reply.integration a).Kept c m)
      (fun k h₁ h' hran => ?_) hs
    unfold Integration.Ran at hran
    split at hran
    · next b hb => exact (Integration.bodyOf_discloses hb).committed hran
    · exact Integration.Reply.quiet.kept (hran a rfl)

end System

/-! ### The two theorems -/

/-- The file holds what memory holds, and all contents that it has had load. -/
structure World.Agrees (w : World) : Prop where
  files : w.files.map (fun j => Codec.load (some j)) = w.committed.map .ok
  mem : Codec.load w.files.head? = .ok w.mem

lemma World.Rests.agrees {w : World} (hw : w.Rests) : w.Agrees := by
  refine ⟨hw.files, ?_⟩
  rw [hw.mem]
  exact hw.toStored.load

/-- **Write atomicity**: when a service returns or raises, whatever faults its writes have met,
memory is what the file holds; the file has gone through complete snapshots, each a commit of the
call after the one before it; and a secret is handed out only if its digest was committed. -/
theorem write_atomicity (σ : ServiceRun) (n : ℕ) :
    (worldAt σ.1 (n + 1)).Agrees ∧
      Chained Snapshot.empty (Commit (σ.1 n).ctx (σ.1 n).call) (worldAt σ.1 n).committed
        (worldAt σ.1 (n + 1)).committed ∧
      ∀ reply, (σ.1 n).result (worldAt σ.1 n) = .ok reply →
        reply.Kept (σ.1 n).ctx (worldAt σ.1 (n + 1)).mem := by
  refine ⟨(worldAt_rests σ.2 (n + 1)).agrees, worldAt_commits σ.2 n, fun reply hr => ?_⟩
  rw [worldAt_mem σ.2]
  exact System.exec_kept (σ.2 n) ((worldAt_rests σ.2 n).faults (σ.1 n).faults) hr

/-- What a write leaves on the file: nothing new, or one more content, which loads as the snapshot
that is live in memory. -/
structure Write.Closed (write : Write) (w w' : World) : Prop where
  files : w'.files.map (fun j => Codec.load (some j)) = w'.committed.map .ok
  persisted : w'.committed = w.committed ∨
    w'.committed = write.next w.mem :: w.committed ∧ w'.mem = write.next w.mem ∧
      Codec.load w'.files.head? = .ok w'.mem

/-- A write inside a transaction, whatever the operation has staged in memory by then. -/
lemma Write.run_closed (write : Write) (c : Ctx) {w : World} (hw : Stored false w w.committed)
    (ha : w.active = true) : write.Closed w (outcome (write.run c) w).2 := by
  have hs := Store.run_spec (c := c) write hw ha
  generalize (outcome (write.run c) w).1 = r at hs
  generalize (outcome (write.run c) w).2 = w' at hs
  cases hs with
  | refused e _ hc hst _ _ =>
    have hcom := hst.committed
    exact ⟨hcom.symm ▸ hst.files, Or.inl hcom⟩
  | failed e _ _ _ hh =>
    have hcom := hh.toStored.committed
    exact ⟨hcom.symm ▸ hh.files, Or.inl hcom⟩
  | committed _ _ hc _ hh =>
    have hcom := hh.toStored.committed
    refine ⟨hcom.symm ▸ hh.files, Or.inr ⟨hcom, hh.mem, ?_⟩⟩
    rw [hh.mem]
    exact hh.toStored.load

/-- A bare `replace`, inside of a transaction or not. -/
lemma Store.replace_closed (records : List Credential) (c : Ctx) {w : World}
    (hw : Stored false w w.committed) :
    (Write.replace records).Closed w (outcome (Store.replace c records) w).2 := by
  have hs := Store.replace_spec c records hw
  generalize (outcome (Store.replace c records) w).1 = r at hs
  generalize (outcome (Store.replace c records) w).2 = w' at hs
  cases hs with
  | refused e _ => exact ⟨hw.files, Or.inl rfl⟩
  | failed e _ _ _ _ _ hst _ =>
    have hcom := hst.committed
    exact ⟨hcom.symm ▸ hst.files, Or.inl hcom⟩
  | committed _ _ _ _ _ hst hmem =>
    have hcom := hst.committed
    refine ⟨hcom.symm ▸ hst.files, Or.inr ⟨hcom, hmem, ?_⟩⟩
    rw [hmem]
    exact hst.load

lemma versionOf_mem (s : Snapshot) : Codec.versionOf s ∈ ([2, 3, 4, 5] : List ℤ) := by
  unfold Codec.versionOf
  repeat' split
  all_goals simp

/-- **Closure of the codec**: in every run, of calls of any kind, all contents the file has had
load as the snapshots that were committed; and from every state of it every write, whatever an
operation has staged in memory by then, and every bare `replace` leaves a content that loads as
what is live in memory, in whichever version it is written. -/
theorem codec_closure (σ : ℕ → Step) (n : ℕ) (c : Ctx) (staged : Snapshot) (faults : List Fault)
    (write : Write) (records : List Credential) :
    (worldAt σ n).files.map (fun j => Codec.load (some j)) = (worldAt σ n).committed.map .ok ∧
      write.Closed { worldAt σ n with mem := staged, faults, active := true }
        (outcome (write.run c) { worldAt σ n with mem := staged, faults, active := true }).2 ∧
      (Write.replace records).Closed { worldAt σ n with mem := staged, faults }
        (outcome (Store.replace c records) { worldAt σ n with mem := staged, faults }).2 ∧
      Codec.versionOf (write.next staged) ∈ ([2, 3, 4, 5] : List ℤ) := by
  have hw : (worldAt σ n).Loose := run_loose (World.rests_initial []).loose σ n
  exact ⟨hw.files, write.run_closed c ⟨hw.files, fun h => (nomatch h), hw.registry⟩ rfl,
    Store.replace_closed records c ⟨hw.files, fun h => (nomatch h), hw.registry⟩,
    versionOf_mem _⟩

end Vauxr
