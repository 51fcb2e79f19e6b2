import Vauxr.ConfigFiles

/-!
Configuration files are durable. Whatever fails, is killed or loses its power, the file is whole,
every update starts from what the update before it wrote, and what an update has written and
returned is there for good.
-/

namespace Vauxr.ConfigFiles

open Lib

variable {D ε : Type}

/-! ### What a task knows -/

/-- The task holds the lock. -/
def Task.inside : Task D ε → Bool
  | .locking _ => false
  | _ => true

/-- The result comes of what the file holds. -/
def Derives (f : Format D) (s : State D ε) (change : D → Except ε D) (result : D) : Prop :=
  ∃ old, s.held.head? = some old ∧ change (old.getD f.empty) = .ok result

/-- A diagnostic that a whole file never leads to. -/
def Error.ofContent (e : Error ε) : Prop := e = notValid ∨ e = notObject

/-- What a task that holds the lock relies on. -/
def Task.Knows (f : Format D) (s : State D ε) : Task D ε → Prop
  | .locking _ | .looking _ | .reading _ => True
  | .comparing change result =>
    ∃ old, s.held.head? = some old ∧ change (old.getD f.empty) = .ok result ∧
      old.getD f.empty = result
  | .making change result => Derives f s change result
  | .writing change result suffix file rest =>
    Derives f s change result ∧ s.disk.entry (.temporary suffix) = some file ∧
      file < s.disk.next ∧ some file ∉ s.disk.entries .path ∧
      (s.disk.files file).content ++ rest = f.dump result
  | .replacing change result suffix file =>
    Derives f s change result ∧ s.disk.entry (.temporary suffix) = some file ∧
      file < s.disk.next ∧ s.disk.files file = ⟨f.dump result, true⟩
  | .syncing result _ => s.held.head? = some (some result)
  | .cleaning _ outcome | .unlinking _ outcome | .leaving (some _) outcome =>
    (∀ r, outcome = .ok r → s.held.head? = some (some r) ∧ s.disk.older .path = []) ∧
      ∀ e, outcome = .error e → ¬e.ofContent
  | .leaving none outcome =>
    (∀ r, outcome = .ok r → s.held.head? = some (some r)) ∧
      ∀ e, outcome = .error e → ¬e.ofContent

/-- Between two system calls: all that the file can be is whole, and one task at most is past the
lock. -/
structure Safe (f : Format D) (s : State D ε) : Prop where
  keeps : s.disk.Keeps .path (s.held.map (Option.map f.dump))
  locked : ∀ p t, s.tasks p = some t → t.inside = true → s.lock = some p
  holder : ∀ p, s.lock = some p → ∃ t, s.tasks p = some t ∧ t.inside = true
  knows : ∀ p t, s.tasks p = some t → t.Knows f s

variable {f : Format D} {s s' : State D ε} {p : ℕ} {t t' : Task D ε}

lemma Task.knows_of_outside (h : t.inside = false) : t.Knows f s := by
  cases t with
  | locking => trivial
  | _ => cases h

/-- Those who wait for the lock rely on nothing. -/
lemma Safe.outside (hs : Safe f s) (hp : s.tasks p = some t) (hne : s.lock ≠ some p) :
    t.inside = false := by
  rw [← Bool.not_eq_true]
  exact fun h => hne (hs.locked p t hp h)

/-- A task goes on to its next system call. -/
lemma Safe.moved (hs : Safe f s) (hp : s.tasks p = some t) (hin : t.inside = true)
    (hin' : t'.inside = true) (htasks : s'.tasks = Function.update s.tasks p (some t'))
    (hlock : s'.lock = s.lock) (hkeeps : s'.disk.Keeps .path (s'.held.map (Option.map f.dump)))
    (hknows : t'.Knows f s') : Safe f s' := by
  have hown := hs.locked p t hp hin
  have hothers : ∀ q t₁, q ≠ p → s.tasks q = some t₁ → t₁.inside = false := fun q t₁ hq ht =>
    hs.outside ht fun h => hq (Option.some.inj (h.symm.trans hown))
  have hget : ∀ q, s'.tasks q = if q = p then some t' else s.tasks q := fun q => by
    rw [htasks, Function.update_apply]
  refine ⟨hkeeps, fun q t₁ ht h => ?_, fun q hq => ?_, fun q t₁ ht => ?_⟩
  · rw [hget] at ht
    split at ht
    · next he => rw [hlock, hown, he]
    · next he =>
      rw [hothers q t₁ he ht] at h
      cases h
  · obtain rfl : p = q := Option.some.inj (hown.symm.trans (hlock.symm.trans hq))
    exact ⟨t', by rw [hget, if_pos rfl], hin'⟩
  · rw [hget] at ht
    split at ht
    · cases ht
      exact hknows
    · next he => exact Task.knows_of_outside (hothers q t₁ he ht)

/-- A task takes the lock. -/
lemma Safe.taken (hs : Safe f s) (hlock : s.lock = none) (p : ℕ) (change : D → Except ε D) :
    Safe f { s.put p (.looking change) with lock := some p } := by
  have hget : ∀ q, (s.put p (.looking change)).tasks q =
      if q = p then some (.looking change) else s.tasks q := fun q => Function.update_apply _ _ _ _
  have hothers : ∀ q t₁, s.tasks q = some t₁ → t₁.inside = false := fun q t₁ ht =>
    hs.outside ht (by simp [hlock])
  refine ⟨hs.keeps, fun q t₁ ht h => ?_, fun q hq => ?_, fun q t₁ ht => ?_⟩
  · have ht := (hget q).symm.trans ht
    split at ht
    · next he => rw [he]
    · rw [hothers q t₁ ht] at h
      cases h
  · cases hq
    exact ⟨.looking change, (hget p).trans (if_pos rfl), rfl⟩
  · have ht := (hget q).symm.trans ht
    split at ht
    · cases ht
      trivial
    · exact Task.knows_of_outside (hothers q t₁ ht)

/-- A task that begins waits for the lock. -/
lemma Safe.queued (hs : Safe f s) (hp : s.tasks p = none) (change : D → Except ε D) :
    Safe f (s.put p (.locking change)) := by
  have hget : ∀ q, (s.put p (.locking change)).tasks q =
      if q = p then some (.locking change) else s.tasks q := fun q => Function.update_apply _ _ _ _
  refine ⟨hs.keeps, fun q t₁ ht h => ?_, fun q hq => ?_, fun q t₁ ht => ?_⟩
  · have ht := (hget q).symm.trans ht
    split at ht
    · cases ht
      cases h
    · exact hs.locked q t₁ ht h
  · obtain ⟨t₁, ht, hin⟩ := hs.holder q hq
    have hqp : q ≠ p := by
      rintro rfl
      rw [hp] at ht
      cases ht
    exact ⟨t₁, (hget q).trans ((if_neg hqp).trans ht), hin⟩
  · have ht := (hget q).symm.trans ht
    split at ht
    · cases ht
      trivial
    · exact hs.knows q t₁ ht

/-- A task is over, returned or killed. -/
lemma Safe.stop (hs : Safe f s) (p : ℕ) : Safe f (s.stop p) := by
  have hget : ∀ q, (s.stop p).tasks q = if q = p then none else s.tasks q := fun q =>
    Function.update_apply _ _ _ _
  refine ⟨hs.keeps, fun q t₁ ht h => ?_, fun q hq => ?_, fun q t₁ ht => ?_⟩
  · rw [hget] at ht
    split at ht
    · cases ht
    · next he =>
      have hown := hs.locked q t₁ ht h
      have hne : s.lock ≠ some p := fun hp => he (Option.some.inj (hown.symm.trans hp))
      exact (if_neg hne).trans hown
  · have hq : (if s.lock = some p then none else s.lock) = some q := hq
    split at hq
    · cases hq
    · next hne =>
      obtain ⟨t₁, ht, hin⟩ := hs.holder q hq
      have hqp : q ≠ p := fun he => hne (he ▸ hq)
      exact ⟨t₁, by rw [hget, if_neg hqp, ht], hin⟩
  · rw [hget] at ht
    split at ht
    · cases ht
    · exact hs.knows q t₁ ht

/-! ### What a step does to the file -/

/-- The file stays as it is, is replaced by what an update makes of it, or loses to a power cut what
was not flushed. -/
inductive Evolves (f : Format D) (s s' : State D ε) : Prop
  | same : s'.held = s.held →
      s'.disk.older .path = s.disk.older .path ∨ s'.disk.older .path = [] → Evolves f s s'
  | replaced (p : ℕ) (change : D → Except ε D) (result : D) (suffix : String) (file : ℕ) :
      s.tasks p = some (.replacing change result suffix file) → Derives f s change result →
      s'.held = some result :: s.held → s'.disk.older .path = s.disk.entries .path →
      Evolves f s s'
  | cut (n : ℕ) : n ≤ (s.disk.older .path).length → s'.held = s.held.drop n →
      s'.disk.older .path = [] → Evolves f s s'

/-- What no power cut takes back. -/
def settled (s : State D ε) : List (Option D) := s.held.drop (s.disk.older .path).length

lemma Evolves.settled (h : Evolves f s s') : settled s <:+ settled s' := by
  unfold ConfigFiles.settled
  cases h with
  | same hheld holder =>
    rw [hheld]
    rcases holder with ho | ho
    · rw [ho]
    · rw [ho]
      exact List.drop_suffix _ _
  | replaced p change result suffix file hp hd hheld holder =>
    rw [hheld, holder, Disk.entries, List.length_cons, List.drop_succ_cons]
  | cut n hn hheld holder =>
    rw [hheld, holder, List.length_nil, List.drop_zero]
    have hle : s.held.drop (s.disk.older .path).length =
        (s.held.drop n).drop ((s.disk.older .path).length - n) := by
      rw [List.drop_drop, Nat.add_sub_cancel' hn]
    rw [hle]
    exact List.drop_suffix _ _

lemma Safe.put (hs : Safe f s) (hp : s.tasks p = some t) (hin : t.inside = true)
    (hin' : t'.inside = true) (hknows : t'.Knows f s) :
    Safe f (s.put p t') ∧ Evolves f s (s.put p t') := by
  refine ⟨hs.moved hp hin hin' rfl rfl hs.keeps ?_, .same rfl (Or.inl rfl)⟩
  cases t' <;> exact hknows

lemma temporary_ne_path (suffix : String) : Name.temporary suffix ≠ .path := by simp

/-- What is read is what the file holds. -/
lemma Safe.read (hs : Safe f s) :
    s.held.head?.map (Option.map f.dump) = some (s.disk.read .path) := by
  rw [← hs.keeps.read, List.head?_map]

lemma not_ofContent_os : ¬(Error.os : Error ε).ofContent := by
  rintro (h | h) <;> cases h

lemma not_ofContent_raised (e : ε) : ¬(Error.raised e).ofContent := by
  rintro (h | h) <;> cases h

lemma not_ofContent_notReadable : ¬(notReadable : Error ε).ofContent := by
  rintro (h | h) <;> simp [notReadable, notValid, notObject] at h

lemma knows_leaving_error {e : Error ε} (he : ¬e.ofContent) :
    (Task.leaving none (.error e) : Task D ε).Knows f s := by
  refine ⟨fun r h => ?_, fun e' h => ?_⟩
  · cases h
  · cases h
    exact he

lemma knows_cleaning_error {e : Error ε} (he : ¬e.ofContent) (suffix : String) :
    (Task.cleaning suffix (.error e) : Task D ε).Knows f s := by
  refine ⟨fun r h => ?_, fun e' h => ?_⟩
  · cases h
  · cases h
    exact he

section Calls

variable [DecidableEq D]

/-- The file leads to what the change makes of it, and to no diagnostic about its content. -/
lemma knows_changed (hs : Safe f s) {text : List Char} (hread : s.disk.read .path = some text)
    (change : D → Except ε D) :
    (changed f change text).inside = true ∧ (changed f change text).Knows f s := by
  have hheld := hs.read
  rw [hread] at hheld
  obtain ⟨old, hold, hdump⟩ := Option.map_eq_some_iff.mp hheld
  obtain ⟨data, rfl, rfl⟩ := Option.map_eq_some_iff.mp hdump
  simp only [changed, f.load_dump]
  cases hc : change data with
  | error e => exact ⟨rfl, knows_leaving_error (not_ofContent_raised e)⟩
  | ok result =>
    dsimp only
    split
    · exact ⟨rfl, some data, hold, hc⟩
    · next heq => exact ⟨rfl, some data, hold, hc, (not_not.mp heq).symm⟩

lemma knows_started (hs : Safe f s) (hentry : s.disk.entry .path = none)
    (change : D → Except ε D) :
    (started f change).inside = true ∧ (started f change).Knows f s := by
  have hheld := hs.read
  rw [Disk.read, hentry] at hheld
  obtain ⟨old, hold, hdump⟩ := Option.map_eq_some_iff.mp hheld
  obtain rfl := Option.map_eq_none_iff.mp hdump
  unfold started
  cases hc : change f.empty with
  | error e => exact ⟨rfl, knows_leaving_error (not_ofContent_raised e)⟩
  | ok result =>
    dsimp only
    split
    · exact ⟨rfl, none, hold, hc⟩
    · next heq => exact ⟨rfl, none, hold, hc, (not_not.mp heq).symm⟩

/-- **One system call**. -/
theorem call_spec (hs : Safe f s) (hp : s.tasks p = some t) (fails : Bool) (suffix : String)
    (n : ℕ) : Safe f (call f s p fails suffix n t) ∧ Evolves f s (call f s p fails suffix n t) := by
  have hstay : Safe f s ∧ Evolves f s s := ⟨hs, .same rfl (Or.inl rfl)⟩
  have hstop : Safe f (s.stop p) ∧ Evolves f s (s.stop p) := ⟨hs.stop p, .same rfl (Or.inl rfl)⟩
  have hknows := hs.knows p t hp
  cases t with
  | locking change =>
    simp only [call]
    split
    · exact hstop
    · split
      · next hlock => exact ⟨hs.taken hlock p change, .same rfl (Or.inl rfl)⟩
      · exact hstay
  | looking change =>
    simp only [call]
    split
    · exact hs.put hp rfl rfl (knows_leaving_error not_ofContent_os)
    · split
      · exact hs.put hp rfl rfl trivial
      · next hentry =>
        rw [Option.isSome_iff_ne_none, not_not] at hentry
        obtain ⟨hin, hk⟩ := knows_started hs hentry change
        exact hs.put hp rfl hin hk
  | reading change =>
    simp only [call]
    split
    · exact hs.put hp rfl rfl (knows_leaving_error not_ofContent_notReadable)
    · next text hread =>
      split at hread
      · cases hread
      · obtain ⟨hin, hk⟩ := knows_changed hs hread change
        exact hs.put hp rfl hin hk
  | comparing change result =>
    obtain ⟨old, hold, hc, hres⟩ := hknows
    simp only [call]
    split
    · exact hs.put hp rfl rfl (knows_leaving_error not_ofContent_os)
    · split
      · next hentry =>
        refine hs.put hp rfl rfl ⟨fun r h => ?_, fun e h => (nomatch h)⟩
        cases h
        have hread := hs.read
        rw [hold, Disk.read] at hread
        obtain ⟨i, hi⟩ := Option.isSome_iff_exists.mp hentry
        rw [hi] at hread
        obtain ⟨data, rfl, -⟩ := Option.map_eq_some_iff.mp (Option.some.inj hread)
        rw [hold]
        exact congrArg (some ∘ some) hres
      · exact hs.put hp rfl rfl ⟨old, hold, hc⟩
  | making change result =>
    simp only [call]
    split
    · exact hs.put hp rfl rfl (knows_leaving_error not_ofContent_os)
    · split
      · next hnone =>
        have hentries := Disk.entries_create (d := s.disk) (temporary_ne_path suffix)
        have hkeeps := hs.keeps.create (temporary_ne_path suffix)
        refine ⟨hs.moved hp rfl rfl rfl rfl hkeeps ⟨hknows, ?_, Nat.lt_succ_self _, ?_, ?_⟩,
          .same rfl (Or.inl (List.cons.inj hentries).2)⟩
        · exact (Disk.entry_link _ _ _).trans (if_pos rfl)
        · intro hmem
          exact absurd (hs.keeps.lt _ (hentries ▸ hmem)) (lt_irrefl _)
        · show ((Function.update s.disk.files s.disk.next _) s.disk.next).content ++ _ = _
          rw [Function.update_self]
          rfl
      · exact hstay
  | writing change result suffix file rest =>
    obtain ⟨hd, hentry, hlt, hmem, htext⟩ := hknows
    simp only [call]
    split
    · exact hs.put hp rfl rfl (knows_cleaning_error not_ofContent_os suffix)
    · split
      · next hrest =>
        subst hrest
        refine ⟨hs.moved hp rfl rfl rfl rfl (hs.keeps.flush hmem) ⟨hd, hentry, hlt, ?_⟩,
          .same rfl (Or.inl rfl)⟩
        show Function.update s.disk.files file _ file = _
        rw [Function.update_self, ← htext, List.append_nil]
      · refine ⟨hs.moved hp rfl rfl rfl rfl (hs.keeps.append hmem _)
          ⟨hd, hentry, hlt, hmem, ?_⟩, .same rfl (Or.inl rfl)⟩
        show (Function.update s.disk.files file _ file).content ++ _ = _
        rw [Function.update_self, List.append_assoc, List.take_append_drop, htext]
  | replacing change result suffix file =>
    obtain ⟨hd, hentry, hlt, hfile⟩ := hknows
    simp only [call]
    split
    · exact hs.put hp rfl rfl (knows_cleaning_error not_ofContent_os suffix)
    · have hentries := Disk.entries_rename (d := s.disk) (temporary_ne_path suffix)
      refine ⟨hs.moved hp rfl rfl rfl rfl ?_ rfl, .replaced p change result suffix file hp hd rfl
        (List.cons.inj hentries).2⟩
      exact hs.keeps.rename (temporary_ne_path suffix) hentry hfile hlt
  | syncing result suffix =>
    simp only [call]
    split
    · exact hs.put hp rfl rfl (knows_cleaning_error not_ofContent_os suffix)
    · refine ⟨hs.moved hp rfl rfl rfl rfl hs.keeps.flushDirectory ⟨fun r h => ?_, fun e h => ?_⟩,
        .same rfl (Or.inr rfl)⟩
      · cases h
        exact ⟨hknows, rfl⟩
      · cases h
  | cleaning suffix outcome =>
    simp only [call]
    split
    · exact hs.put hp rfl rfl hknows
    · exact hs.put hp rfl rfl hknows
  | unlinking suffix outcome =>
    simp only [call]
    split
    · have hfailed : (Task.cleaning suffix (.error .os) : Task D ε).Knows f s :=
        knows_cleaning_error not_ofContent_os suffix
      exact hs.put hp rfl rfl hfailed
    · have hentries := Disk.entries_unlink (d := s.disk) (temporary_ne_path suffix)
      have holder := (List.cons.inj hentries).2
      refine ⟨hs.moved hp rfl rfl rfl rfl (hs.keeps.unlink (temporary_ne_path suffix))
        ⟨fun r h => ?_, hknows.2⟩, .same rfl (Or.inl holder)⟩
      exact ⟨(hknows.1 r h).1, holder.trans (hknows.1 r h).2⟩
  | leaving suffix outcome => exact hstop

/-- **One step**: the file stays safe and evolves. -/
theorem step_spec (hs : Safe f s) (e : Event D ε) :
    Safe f (step f s e) ∧ Evolves f s (step f s e) := by
  cases e with
  | update p change =>
    simp only [step]
    split
    · next hnone =>
      have hnone := Option.isNone_iff_eq_none.mp hnone
      exact ⟨hs.queued hnone change, .same rfl (Or.inl rfl)⟩
    · exact ⟨hs, .same rfl (Or.inl rfl)⟩
  | call p fails suffix n =>
    simp only [step]
    split
    · exact ⟨hs, .same rfl (Or.inl rfl)⟩
    · next t hp => exact call_spec hs hp fails suffix n
  | kill p => exact ⟨hs.stop p, .same rfl (Or.inl rfl)⟩
  | cut left torn =>
    refine ⟨⟨?_, fun p t ht => (nomatch ht), fun p hp => (nomatch hp),
      fun p t ht => (nomatch ht)⟩, .cut _ (s.disk.lost_le left .path) rfl rfl⟩
    have hkeeps := hs.keeps.cut left torn
    rwa [← List.map_drop] at hkeeps

end Calls

/-! ### Runs -/

/-- Nothing is under way, and the file is whole, if there is one. -/
structure Initial (f : Format D) (s : State D ε) : Prop where
  tasks : ∀ p, s.tasks p = none
  lock : s.lock = none
  older : s.disk.older .path = []
  held : ∃ data, s.held = [data] ∧
    ((data = none ∧ s.disk.entry .path = none) ∨ ∃ value file, data = some value ∧
      s.disk.entry .path = some file ∧ s.disk.files file = ⟨f.dump value, true⟩ ∧
      file < s.disk.next)

lemma Initial.safe (h : Initial f s) : Safe f s := by
  obtain ⟨data, hheld, hfile⟩ := h.held
  refine ⟨⟨?_, fun i hi => ?_⟩, fun p t ht => ?_, fun p hp => ?_, fun p t ht => ?_⟩
  · rw [Disk.entries, h.older, hheld]
    rcases hfile with ⟨rfl, he⟩ | ⟨value, file, rfl, he, hf, -⟩
    · rw [he]
      exact List.prefix_rfl
    · rw [he, List.map_singleton, Option.map_some, hf]
      exact List.prefix_rfl
  · rw [Disk.entries, h.older, List.mem_singleton] at hi
    rcases hfile with ⟨rfl, he⟩ | ⟨value, file, rfl, he, hf, hlt⟩
    · rw [he] at hi
      cases hi
    · rw [he] at hi
      cases hi
      exact hlt
  · rw [h.tasks] at ht
    cases ht
  · rw [h.lock] at hp
    cases hp
  · rw [h.tasks] at ht
    cases ht

/-- A state from which a run starts. -/
abbrev Start (f : Format D) (ε : Type) := {s : State D ε // Initial f s}

section Run

variable [DecidableEq D]

lemma run_safe (s₀ : Start f ε) (σ : ℕ → Event D ε) (n : ℕ) : Safe f (run (step f) s₀.1 σ n) :=
  run_invariant (I := fun _ => Safe f) s₀.2.safe (fun n _ hs => (step_spec hs (σ n)).1) n

lemma settled_run (s₀ : Start f ε) (σ : ℕ → Event D ε) (n k : ℕ) :
    settled (run (step f) s₀.1 σ n) <:+ settled (run (step f) s₀.1 σ (n + k)) := by
  induction k with
  | zero => exact List.suffix_rfl
  | succ k ih => exact ih.trans (step_spec (run_safe s₀ σ (n + k)) (σ (n + k))).2.settled

/-- **Configuration files are durable**: in every run of updates, with failures, kills and power
cuts at any system call, the file reads as the latest value it has been given, and each value it is
given comes of a change of the value before it; what an update returns is the value of the file
then, and once an update has written and returned, neither its value nor any before it is lost. No
update is told that the content of the file is broken. -/
theorem updates_durable (s₀ : Start f ε) (σ : ℕ → Event D ε) (n : ℕ) :
    let w := run (step f) s₀.1 σ
    (∃ data, (w n).held.head? = some data ∧ (w n).disk.read .path = data.map f.dump) ∧
    Evolves f (w n) (w (n + 1)) ∧
    ∀ p suffix outcome, (w n).tasks p = some (.leaving suffix outcome) →
      (∀ result, outcome = .ok result → (w n).held.head? = some (some result) ∧
        (suffix.isSome → ∀ k, (w n).held <:+ (w (n + k)).held)) ∧
      ∀ e, outcome = .error e → ¬e.ofContent := by
  intro w
  have hs := run_safe s₀ σ n
  refine ⟨?_, (step_spec hs (σ n)).2, fun p suffix outcome hp => ?_⟩
  · obtain ⟨data, hdata, hread⟩ := Option.map_eq_some_iff.mp hs.read
    exact ⟨data, hdata, hread.symm⟩
  · have hknows := hs.knows p _ hp
    cases suffix with
    | none => exact ⟨fun result hr => ⟨hknows.1 result hr, fun h => by cases h⟩, hknows.2⟩
    | some suffix =>
      refine ⟨fun result hr => ⟨(hknows.1 result hr).1, fun _ k => ?_⟩, hknows.2⟩
      have hall : settled (w n) = (w n).held := by
        rw [settled, (hknows.1 result hr).2]
        rfl
      rw [← hall]
      exact (settled_run s₀ σ n k).trans (List.drop_suffix _ _)

end Run

/-! ### A sample run -/

namespace Sample

def written : Bool → List Char
  | false => "\x7b\x7d\n".toList
  | true => "\x7b\n  \"on\": true\n\x7d\n".toList

def read (chars : List Char) : Option (Option Bool) :=
  if chars = written true then some (some true)
  else if chars = written false then some (some false)
  else none

lemma read_written (on : Bool) : read (written on) = some (some on) := by
  cases on <;> decide

/-- Dictionaries with one switch in them, or none. -/
def format : Format Bool := ⟨written, read, read_written, false⟩

/-- An empty directory. -/
def fresh : State Bool Unit where
  disk := ⟨fun _ => ⟨[], true⟩, 0, fun _ => none, fun _ => []⟩
  lock := none
  tasks := fun _ => none
  held := [none]

lemma fresh_initial : Initial format fresh :=
  ⟨fun _ => rfl, rfl, rfl, none, rfl, Or.inl ⟨rfl, rfl⟩⟩

/-- An update turns the switch on and returns; then the power is cut, and would take back what was
not flushed. -/
def switching (n : ℕ) : Event Bool Unit :=
  if n = 0 then .update 0 fun _ => .ok true
  else if n = 10 then .cut (fun _ => 1) fun _ => []
  else .call 0 false "x" 99

end Sample

/-- The switch is on behind the power cut. -/
theorem updates_durable_sample :
    (run (step Sample.format) Sample.fresh Sample.switching 11).disk.read .path =
      some (Sample.written true) := by
  have h := updates_durable ⟨Sample.fresh, Sample.fresh_initial⟩ Sample.switching
  have hleaving : (run (step Sample.format) Sample.fresh Sample.switching 9).tasks 0 =
      some (.leaving (some "x") (.ok true)) := rfl
  obtain ⟨hhead, hkept⟩ := ((h 9).2.2 0 _ _ hleaving).1 true rfl
  obtain ⟨data, hdata, hread⟩ := (h 11).1
  have hheld : (run (step Sample.format) Sample.fresh Sample.switching 11).held =
      (run (step Sample.format) Sample.fresh Sample.switching 9).held :=
    ((hkept rfl 2).eq_of_length_le (Nat.le_refl 2)).symm
  obtain rfl : some true = data := Option.some.inj (hhead.symm.trans (hheld ▸ hdata))
  exact hread

end Vauxr.ConfigFiles
