import Vauxr.Lib.Words
import Vauxr.Lib.Occurrence
import Vauxr.Voice.Pipeline

/-!
The follow-up tag of a reply that is spoken piece by piece.

A turn of the WebSocket path and one of a realtime session take the tag out of each piece on its
own; the report takes it out of the whole reply (`resolve_follow_up`). Up to white space the two
agree exactly when no pause, or no end of a delta, goes through a tag.
-/

namespace Vauxr.Voice

open Vauxr.Lib Vauxr.Devices

/-! ### The tag -/

lemma followUpTag_eq :
    followUpTag = [91, 91, 102, 111, 108, 108, 111, 119, 95, 117, 112, 93, 93] := by rfl

lemma followUpTag_ne_nil : followUpTag ≠ [] := by
  rw [followUpTag_eq]
  exact List.cons_ne_nil _ _

lemma followUpTag_not_space : ∀ c ∈ followUpTag, Text.isSpace c = false := by
  simp [followUpTag_eq, Text.isSpace]

lemma followUpTag_unbordered : Unbordered followUpTag := by
  intro u hpre hsuf
  have hlen : u.length ≤ 13 := hpre.length_le
  have hborder : followUpTag.take u.length = followUpTag.drop (13 - u.length) := by
    rw [← List.prefix_iff_eq_take.mp hpre]
    exact List.suffix_iff_eq_drop.mp hsuf
  have hkey : ∀ n ≤ 13, followUpTag.take n = followUpTag.drop (13 - n) → n = 0 ∨ n = 13 := by
    rw [followUpTag_eq]
    decide
  rcases hkey u.length hlen hborder with h | h
  · exact .inl (List.eq_nil_of_length_eq_zero h)
  · exact .inr (hpre.eq_of_length h)

/-- White space before a tag, the tag, white space after it. -/
lemma dropTag_some {t rest : Text} (h : dropTag t = some rest) :
    ∃ v w, (∀ c ∈ v, Text.isSpace c) ∧ (∀ c ∈ w, Text.isSpace c) ∧
      t = v ++ (followUpTag ++ (w ++ rest)) ∧ rest.dropWhile Text.isSpace = rest := by
  unfold dropTag at h
  dsimp only at h
  split at h
  next hpre =>
    obtain ⟨s, hs⟩ := List.isPrefixOf_iff_prefix.mp hpre
    have hrest := Option.some.inj h
    rw [← hs, List.drop_left] at hrest
    refine ⟨t.takeWhile Text.isSpace, s.takeWhile Text.isSpace, fun c hc => ?_, fun c hc => ?_,
      ?_, ?_⟩
    · exact List.mem_takeWhile_imp hc
    · exact List.mem_takeWhile_imp hc
    · rw [← hrest, List.takeWhile_append_dropWhile, hs, List.takeWhile_append_dropWhile]
    · rw [← hrest]
      exact List.dropWhile_idempotent _ _
  next => cases h

lemma dropTag_none {c : CodePoint} {t : Text} (h : dropTag (c :: t) = none) :
    ¬ followUpTag <+: c :: t := by
  intro hpre
  have hc : Text.isSpace c = false := by
    obtain ⟨s, hs⟩ := hpre
    rw [followUpTag_eq, List.cons_append] at hs
    rw [← (List.cons.inj hs).1]
    decide
  unfold dropTag at h
  rw [List.dropWhile_cons_of_neg (by simp [hc])] at h
  simp [List.isPrefixOf_iff_prefix.mpr hpre] at h

lemma dropTag_length {t rest : Text} (h : dropTag t = some rest) : rest.length < t.length := by
  obtain ⟨v, w, -, -, rfl, -⟩ := dropTag_some h
  have hpos := List.length_pos_of_ne_nil followUpTag_ne_nil
  simp only [List.length_append]
  omega

lemma subTag_cons (n : ℕ) (c : CodePoint) (t : Text) :
    subTag (n + 1) (c :: t) =
      match dropTag (c :: t) with
      | some rest => 32 :: subTag n rest
      | none => c :: subTag n t := (rfl)

@[simp] lemma subTag_nil (n : ℕ) : subTag n [] = [] := by cases n <;> rfl

/-- Fuel beyond the length of the text changes nothing. -/
lemma subTag_fuel {n : ℕ} {t : Text} (h : t.length ≤ n) : subTag n t = subTag t.length t := by
  have key : ∀ k, ∀ t : Text, t.length ≤ k → ∀ n, t.length ≤ n → subTag n t = subTag t.length t := by
    intro k
    induction k with
    | zero =>
      intro t ht n _
      rw [List.eq_nil_of_length_eq_zero (Nat.le_zero.mp ht), subTag_nil, subTag_nil]
    | succ k ih =>
      intro t ht n hn
      cases t with
      | nil => rw [subTag_nil, subTag_nil]
      | cons c t =>
        rw [List.length_cons] at ht hn
        obtain ⟨m, rfl⟩ : ∃ m, n = m + 1 := ⟨n - 1, by omega⟩
        rw [List.length_cons, subTag_cons, subTag_cons]
        cases hdrop : dropTag (c :: t) with
        | none => simp only [ih t (by omega) m (by omega)]
        | some rest =>
          have hlen := dropTag_length hdrop
          rw [List.length_cons] at hlen
          simp only [ih rest (by omega) m (by omega), ih rest (by omega) t.length (by omega)]
  exact key t.length t le_rfl n h

@[simp] lemma stripInline_nil : stripFollowUpTagInline [] = [] := rfl

lemma stripInline_cons (c : CodePoint) (t : Text) :
    stripFollowUpTagInline (c :: t) =
      match dropTag (c :: t) with
      | some rest => 32 :: stripFollowUpTagInline rest
      | none => c :: stripFollowUpTagInline t := by
  unfold stripFollowUpTagInline
  rw [List.length_cons, subTag_cons]
  cases hdrop : dropTag (c :: t) with
  | none => rfl
  | some rest =>
    have hlen := dropTag_length hdrop
    rw [List.length_cons] at hlen
    simp only [subTag_fuel (show rest.length ≤ t.length by omega)]

/-- A text is read from the left, a tag with its white space at a time. -/
lemma tag_induction {P : Text → Prop} (nil : P [])
    (tag : ∀ c t rest, dropTag (c :: t) = some rest → P rest → P (c :: t))
    (cons : ∀ c t, dropTag (c :: t) = none → P t → P (c :: t)) (t : Text) : P t := by
  have key : ∀ n, ∀ t : Text, t.length ≤ n → P t := by
    intro n
    induction n with
    | zero =>
      intro t ht
      rw [List.eq_nil_of_length_eq_zero (Nat.le_zero.mp ht)]
      exact nil
    | succ n ih =>
      intro t ht
      cases t with
      | nil => exact nil
      | cons c t =>
        cases hdrop : dropTag (c :: t) with
        | none => exact cons c t hdrop (ih t (Nat.le_of_succ_le_succ ht))
        | some rest =>
          have hlen := dropTag_length hdrop
          exact tag c t rest hdrop (ih rest (by omega))
  exact key t.length t le_rfl

/-! ### A tag is a blank -/

/-- Every tag a blank, the white space around it left alone. -/
def blankTag (t : Text) : Text := blank followUpTag [32] t

lemma blankTag_spaces {w : Text} (hw : ∀ c ∈ w, Text.isSpace c) (t : Text) :
    blankTag (w ++ t) = w ++ blankTag t := by
  induction w with
  | nil => rfl
  | cons c w ih =>
    have hc : ¬ followUpTag <+: c :: (w ++ t) := by
      rintro ⟨s, hs⟩
      rw [followUpTag_eq, List.cons_append] at hs
      have hspace := hw c List.mem_cons_self
      rw [← (List.cons.inj hs).1] at hspace
      exact absurd hspace (by decide)
    have hih := ih fun d hd => hw d (List.mem_cons_of_mem c hd)
    unfold blankTag at hih ⊢
    rw [List.cons_append, blank_cons hc, hih, List.cons_append]

lemma stripInline_respaced (t : Text) :
    Respaced Text.isSpace (stripFollowUpTagInline t) (blankTag t) := by
  induction t using tag_induction with
  | nil => exact .refl _
  | tag c t rest hdrop ih =>
    obtain ⟨v, w, hv, hw, heq, -⟩ := dropTag_some hdrop
    have hblank : blankTag (c :: t) = (v ++ (32 :: w)) ++ blankTag rest := by
      rw [heq, blankTag_spaces hv]
      have htag : blankTag (followUpTag ++ (w ++ rest)) = [32] ++ blankTag (w ++ rest) :=
        blank_append_pat followUpTag_ne_nil _
      rw [htag, blankTag_spaces hw]
      simp
    rw [stripInline_cons, hdrop, hblank]
    refine Respaced.append (a := [32]) (Respaced.of_spaces ?_ ?_ ?_ ?_) ih
    · simp [Text.isSpace]
    · intro d hd
      rcases List.mem_append.mp hd with hd | hd
      · exact hv d hd
      · rcases List.mem_cons.mp hd with rfl | hd
        · rfl
        · exact hw d hd
    · simp
    · simp
  | cons c t hdrop ih =>
    have hblank : blankTag (c :: t) = c :: blankTag t := blank_cons (dropTag_none hdrop)
    rw [stripInline_cons, hdrop, hblank]
    exact ih.cons c

lemma words_strip (t : Text) : words Text.isSpace t.strip = words Text.isSpace t := by
  have hleft : words Text.isSpace (t.dropWhile Text.isSpace) = words Text.isSpace t := by
    conv_rhs => rw [← List.takeWhile_append_dropWhile (p := Text.isSpace) (l := t)]
    exact (words_spaces_append (fun c hc => List.mem_takeWhile_imp hc) _).symm
  have hright : ∀ u : Text, words Text.isSpace (u.rdropWhile Text.isSpace) =
      words Text.isSpace u := by
    intro u
    conv_rhs => rw [← @List.rdropWhile_append_rtakeWhile _ Text.isSpace u]
    exact (words_append_trailing (fun c hc => List.mem_rtakeWhile_imp hc) _).symm
  unfold Text.strip
  rw [hright, hleft]

/-! ### The report -/

lemma strip_cons_space {c : CodePoint} (hc : Text.isSpace c) (t : Text) :
    Text.strip (c :: t) = t.strip := by
  unfold Text.strip
  rw [List.dropWhile_cons_of_pos hc]

lemma strip_append_spaces {w : Text} (hw : ∀ c ∈ w, Text.isSpace c) (t : Text) :
    Text.strip (t ++ w) = t.strip := by
  have hright : ∀ u : Text, (u ++ w).rdropWhile Text.isSpace = u.rdropWhile Text.isSpace := by
    intro u
    induction w using List.reverseRecOn with
    | nil => rw [List.append_nil]
    | append_singleton w c ih =>
      have hc : Text.isSpace c := hw c (by simp)
      rw [← List.append_assoc, List.rdropWhile_concat_pos _ _ _ hc]
      exact ih fun d hd => hw d (List.mem_append_left _ hd)
  have hall : w.dropWhile Text.isSpace = [] := List.dropWhile_eq_nil_iff.mpr hw
  unfold Text.strip
  rw [List.dropWhile_append]
  split
  next h =>
    rw [List.isEmpty_iff] at h
    rw [hall, h]
  next => exact hright _

lemma dropTag_cons_space {c : CodePoint} (hc : Text.isSpace c) (t : Text) :
    dropTag (c :: t) = dropTag t := by
  unfold dropTag
  rw [List.dropWhile_cons_of_pos hc]

lemma dropTag_nil : dropTag [] = none := by
  unfold dropTag
  simp [followUpTag_eq]

lemma strip_inline_dropWhile (t : Text) :
    (stripFollowUpTagInline (t.dropWhile Text.isSpace)).strip =
      (stripFollowUpTagInline t).strip := by
  induction t with
  | nil => rfl
  | cons c t ih =>
    by_cases hc : Text.isSpace c
    · rw [List.dropWhile_cons_of_pos hc, ih, stripInline_cons, dropTag_cons_space hc]
      cases hdrop : dropTag t with
      | none => simp only [strip_cons_space hc]
      | some rest =>
        cases t with
        | nil =>
          rw [dropTag_nil] at hdrop
          cases hdrop
        | cons d t => rw [stripInline_cons, hdrop]
    · rw [List.dropWhile_cons_of_neg hc]

/-- The tag does not reach into white space. -/
lemma dropTag_append {w : Text} (hw : ∀ c ∈ w, Text.isSpace c) (t : Text) :
    dropTag (t ++ w) =
      (dropTag t).map fun rest => if rest.isEmpty then [] else rest ++ w := by
  have hall : w.dropWhile Text.isSpace = [] := List.dropWhile_eq_nil_iff.mpr hw
  unfold dropTag
  dsimp only
  rw [List.dropWhile_append]
  split
  next h =>
    rw [List.isEmpty_iff] at h
    rw [hall, h]
    simp [followUpTag_eq]
  next =>
    generalize t.dropWhile Text.isSpace = u
    by_cases hu : followUpTag <+: u
    · obtain ⟨s, rfl⟩ := hu
      have hpre : followUpTag <+: followUpTag ++ s := List.prefix_append _ _
      have hpre' : followUpTag <+: followUpTag ++ s ++ w := hpre.trans (List.prefix_append _ _)
      rw [if_pos (List.isPrefixOf_iff_prefix.mpr hpre),
        if_pos (List.isPrefixOf_iff_prefix.mpr hpre'), List.append_assoc, List.drop_left,
        List.drop_left, List.dropWhile_append, hall]
      rfl
    · have hno : ¬ followUpTag <+: u ++ w := by
        rintro ⟨s, hs⟩
        rcases List.append_eq_append_iff.mp hs with ⟨v, hv, -⟩ | ⟨v, hv, hw'⟩
        · exact hu ⟨v, hv.symm⟩
        · -- the rest of the tag would be white space
          cases v with
          | nil => exact hu ⟨[], by rw [hv, List.append_nil, List.append_nil]⟩
          | cons c v =>
            have hspace := hw c (by rw [hw']; exact List.mem_cons_self)
            have htag : c ∈ followUpTag := by
              rw [hv]
              exact List.mem_append_right _ List.mem_cons_self
            rw [followUpTag_not_space c htag] at hspace
            cases hspace
      rw [if_neg (by rwa [List.isPrefixOf_iff_prefix]),
        if_neg (by rwa [List.isPrefixOf_iff_prefix])]
      rfl

lemma inline_append_spaces {w : Text} (hw : ∀ c ∈ w, Text.isSpace c) (t : Text) :
    ∃ v, (∀ c ∈ v, Text.isSpace c) ∧
      stripFollowUpTagInline (t ++ w) = stripFollowUpTagInline t ++ v := by
  induction t using tag_induction with
  | nil =>
    refine ⟨w, hw, ?_⟩
    induction w with
    | nil => rfl
    | cons c w ih =>
      have hdrop : dropTag (c :: w) = none := by
        have h := dropTag_append hw []
        rwa [dropTag_nil] at h
      have hih := ih fun d hd => hw d (List.mem_cons_of_mem c hd)
      rw [List.nil_append] at hih ⊢
      rw [stripInline_cons, hdrop, hih]
      rfl
  | tag c t rest hdrop ih =>
    have happ := dropTag_append hw (c :: t)
    rw [hdrop, Option.map_some] at happ
    rw [List.cons_append] at happ ⊢
    rw [stripInline_cons, stripInline_cons, happ, hdrop]
    split
    next rest' heq =>
      cases heq
      cases hrest : rest.isEmpty
      · obtain ⟨v, hv, hih⟩ := ih
        refine ⟨v, hv, ?_⟩
        simp only [Bool.false_eq_true, if_false, hih, List.cons_append]
      · rw [List.isEmpty_iff] at hrest
        subst hrest
        exact ⟨[], by simp, rfl⟩
    next heq => cases heq
  | cons c t hdrop ih =>
    have happ := dropTag_append hw (c :: t)
    rw [hdrop, Option.map_none] at happ
    rw [List.cons_append] at happ ⊢
    obtain ⟨v, hv, hih⟩ := ih
    refine ⟨v, hv, ?_⟩
    rw [stripInline_cons, stripInline_cons, happ, hdrop, hih, List.cons_append]

/-- White space at the ends of a reply makes no difference. -/
lemma stripFollowUpTag_strip (t : Text) : stripFollowUpTag t.strip = stripFollowUpTag t := by
  unfold stripFollowUpTag
  rw [← strip_inline_dropWhile t]
  have hsplit : t.dropWhile Text.isSpace =
      t.strip ++ (t.dropWhile Text.isSpace).rtakeWhile Text.isSpace :=
    List.rdropWhile_append_rtakeWhile.symm
  obtain ⟨v, hv, hinline⟩ :=
    inline_append_spaces (fun c hc => List.mem_rtakeWhile_imp hc :
      ∀ c ∈ (t.dropWhile Text.isSpace).rtakeWhile Text.isSpace, Text.isSpace c) t.strip
  rw [← hsplit] at hinline
  rw [hinline, strip_append_spaces hv]

lemma inline_of_no_tag {t : Text} (h : ¬ followUpTag <:+: t) : stripFollowUpTagInline t = t := by
  induction t using tag_induction with
  | nil => rfl
  | tag c t rest hdrop ih =>
    obtain ⟨v, w, -, -, heq, -⟩ := dropTag_some hdrop
    exact absurd ⟨v, w ++ rest, by rw [heq, List.append_assoc]⟩ h
  | cons c t hdrop ih =>
    rw [stripInline_cons, hdrop, ih fun hi => h (hi.trans (List.suffix_cons c t).isInfix)]

/-- The reply text that is reported is the reply without its tags, whatever the mode. -/
lemma resolveFollowUp_replyText (t : Text) (mode : FollowUpMode) :
    (resolveFollowUp t mode).replyText = stripFollowUpTag t := by
  have hplain : ¬ followUpTag <:+: t.strip → t.strip = stripFollowUpTag t := by
    intro h
    rw [← stripFollowUpTag_strip, stripFollowUpTag, inline_of_no_tag h, Text.strip_strip]
  cases mode with
  | always => exact stripFollowUpTag_strip t
  | never => exact stripFollowUpTag_strip t
  | auto =>
    unfold resolveFollowUp
    dsimp only
    split
    · exact stripFollowUpTag_strip t
    next h =>
      split
      · exact hplain h
      · exact hplain h

/-! ### Piece by piece -/

/-- What is spoken of a reply has no tag in it, is the reply without its tags up to white space,
and so is what the report says. -/
def Stripped (spoken : List Text) (reply : Text) : Prop :=
  ¬ followUpTag <:+: spoken.flatten ∧
    words Text.isSpace spoken.flatten = words Text.isSpace (stripFollowUpTag reply) ∧
    ∀ mode, (resolveFollowUp reply mode).replyText = stripFollowUpTag reply

lemma words_stripFollowUpTag (t : Text) :
    words Text.isSpace (stripFollowUpTag t) = words Text.isSpace (blankTag t) := by
  rw [stripFollowUpTag, words_strip]
  exact (stripInline_respaced t).words_eq

lemma flatten_inline_respaced (cut : List Text) :
    Respaced Text.isSpace (cut.map stripFollowUpTagInline).flatten
      (cut.map blankTag).flatten := by
  induction cut with
  | nil => exact .refl _
  | cons t cut ih =>
    rw [List.map_cons, List.map_cons, List.flatten_cons, List.flatten_cons]
    exact (stripInline_respaced t).append ih

/-- What is not white space. -/
def ink (t : Text) : ℕ := (t.filter (! Text.isSpace ·)).length

lemma ink_append (a b : Text) : ink (a ++ b) = ink a + ink b := by
  simp [ink, List.filter_append]

lemma ink_of_words {a b : Text} (h : words Text.isSpace a = words Text.isSpace b) :
    ink a = ink b := by
  unfold ink
  rw [← flatten_words, ← flatten_words, h]

lemma ink_blank_lt : ink [32] < ink followUpTag := by
  have hblank : ink [32] = 0 := by simp [ink, Text.isSpace]
  have htag : ink followUpTag = followUpTag.length := by
    unfold ink
    rw [List.filter_eq_self.mpr fun c hc => by rw [followUpTag_not_space c hc]; rfl]
  rw [hblank, htag]
  exact List.length_pos_of_ne_nil followUpTag_ne_nil

/-- The tag is taken out piece by piece as out of the whole exactly when no cut goes through
one. -/
lemma stripped_iff {spoken cut : List Text} {reply : Text} (hreply : cut.flatten = reply)
    (hspoken : spoken.flatten = (cut.map stripFollowUpTagInline).flatten) :
    Stripped spoken reply ↔ Intact followUpTag cut := by
  have hwords : words Text.isSpace spoken.flatten =
      words Text.isSpace (cut.map blankTag).flatten := by
    rw [hspoken]
    exact (flatten_inline_respaced cut).words_eq
  constructor
  · rintro ⟨-, hsame, -⟩
    rw [hwords, words_stripFollowUpTag, ← hreply] at hsame
    exact intact_of_size_le ink ink_append ink_blank_lt followUpTag_ne_nil followUpTag_unbordered
      (ink_of_words hsame).le
  · intro hintact
    have hblank : blankTag reply = (cut.map blankTag).flatten := by
      rw [← hreply]
      exact hintact.blank_flatten followUpTag_ne_nil
    refine ⟨fun htag => ?_, ?_, resolveFollowUp_replyText reply⟩
    · have h := infix_of_words_eq followUpTag_not_space followUpTag_ne_nil hwords htag
      rw [← hblank] at h
      refine not_infix_blank followUpTag_ne_nil (by simp) (fun c hc hfill => ?_) reply h
      have hspace := followUpTag_not_space c hc
      rw [List.mem_singleton.mp hfill] at hspace
      exact absurd hspace (by decide)
    · rw [hwords, words_stripFollowUpTag, hblank]

/-! ### A turn of a realtime session -/

namespace Realtime

open Segments

/-- How a session cuts a reply: where it pauses, or at every delta. -/
inductive Segmentation
  | idle (enabled : Bool)
  | sentence
  deriving DecidableEq

/-- `_run_turn` of `realtime/llm.py` from the first delta to the end of its pump; `frames` are the
texts pushed towards the synthesizer. -/
structure Turn where
  segmenter : Segmenter
  segOut : List (Option Text)
  pumped : Bool
  frames : List Text
  accumulated : Text
  ended : Bool
  deriving DecidableEq

def Turn.new : Turn := ⟨.new, [], false, [], [], false⟩

inductive Act
  /-- The loop of the turn takes a delta, or the end. -/
  | delta (t : Text)
  | finish
  /-- The timer of the segmenter. -/
  | pause
  /-- The pump takes a segment. -/
  | pump
  deriving DecidableEq

namespace Turn

def emitSegment (t : Turn) (raw : Text) : Turn :=
  let spoken := stripFollowUpTagInline raw
  if spoken.isEmpty then t else { t with segOut := t.segOut ++ [some spoken] }

def onSegmentEnd (t : Turn) (final : Option Text) : Turn :=
  let t := match final with
    | some final => t.emitSegment final
    | none => t
  { t with segOut := t.segOut ++ [none] }

def step (seg : Segmentation) (t : Turn) : Act → Option Turn
  | .delta payload =>
    if t.ended then none
    else
      let t := { t with accumulated := t.accumulated ++ payload }
      match seg with
      | .idle enabled => some { t with segmenter := t.segmenter.push enabled payload }
      | .sentence =>
        let spoken := stripFollowUpTagInline payload
        some (if spoken.isEmpty then t else { t with frames := t.frames ++ [spoken] })
  | .finish =>
    if t.ended then none
    else
      match seg with
      | .idle _ =>
        let (segmenter, called) := t.segmenter.finish
        let t := { t with ended := true, segmenter }
        some (match called with
          | some final => t.onSegmentEnd final
          | none => t)
      | .sentence => some { t with ended := true }
  | .pause =>
    if t.segmenter.timer then
      let (segmenter, segment) := t.segmenter.flush
      some (match segment with
        | some segment => { t with segmenter }.emitSegment segment
        | none => { t with segmenter })
    else none
  | .pump =>
    match t.pumped, t.segOut with
    | false, some segment :: rest =>
      some { t with segOut := rest, frames := t.frames ++ [segment] }
    | false, none :: rest => some { t with segOut := rest, pumped := true }
    | _, _ => none

def run (seg : Segmentation) (t : Turn) (acts : List Act) : Option Turn :=
  acts.foldlM (step seg) t

/-- The turn is at its end: the pump has run dry, where there is one. -/
def finished (seg : Segmentation) (t : Turn) : Bool :=
  t.ended && (seg == .sentence || t.pumped)

end Turn

def Act.event? : Act → Option Event
  | .delta t => some (.delta t)
  | .pause => some .pause
  | .finish | .pump => none

def events (acts : List Act) : List Event := acts.filterMap Act.event?

/-- What a reply is cut into. -/
def Segmentation.pieces (seg : Segmentation) (es : List Event) : List Text :=
  match seg with
  | .idle _ => Segments.pieces es
  | .sentence => es.map fun | .delta t => t | .pause => []

lemma flatten_segmentation_pieces (seg : Segmentation) (es : List Event) :
    (seg.pieces es).flatten = replyText es := by
  cases seg with
  | idle => exact flatten_pieces es
  | sentence => rfl

/-- The state of a turn in idle mode. -/
structure KeptIdle (acts : List Act) (t : Turn) : Prop where
  accumulated : t.accumulated = replyText (events acts)
  ended : t.segmenter.ended = t.ended
  timer : t.segmenter.timer = true → t.ended = false
  buffer : t.segmenter.buffer = if t.ended then [] else (cutUp (events acts)).2
  pumped : t.pumped = true → t.segOut = [] ∧ t.ended = true
  taken : t.frames.map some ++ t.segOut =
    (said stripFollowUpTagInline
      (if t.ended then Segments.pieces (events acts) else (cutUp (events acts)).1)).map some ++
      if t.ended && !t.pumped then [none] else []

/-- The state of a turn in sentence mode. -/
structure KeptSentence (acts : List Act) (t : Turn) : Prop where
  accumulated : t.accumulated = replyText (events acts)
  idle : t.segmenter = .new ∧ t.segOut = []
  frames : t.frames =
    ((Segmentation.sentence.pieces (events acts)).map stripFollowUpTagInline).filter (! ·.isEmpty)

variable {acts : List Act} {t t' : Turn}

lemma events_append (act : Act) : events (acts ++ [act]) = events acts ++ act.event?.toList := by
  cases act <;> simp [events, List.filterMap_append, Act.event?]

lemma Turn.run_append (seg : Segmentation) (t : Turn) (act : Act) :
    t.run seg (acts ++ [act]) = (t.run seg acts).bind fun t => t.step seg act := by
  unfold Turn.run
  rw [List.foldlM_append]
  simp

lemma KeptIdle.new : KeptIdle [] .new := by
  constructor <;> simp [Turn.new, Segmenter.new, events, replyText, cutUp, said]

lemma emitSegment_segOut (t : Turn) (raw : Text) (hraw : raw.isEmpty = false) :
    t.emitSegment raw =
      { t with segOut := t.segOut ++ (said stripFollowUpTagInline [raw]).map some } := by
  unfold Turn.emitSegment
  rw [said_single, hraw]
  dsimp only
  cases h : (stripFollowUpTagInline raw).isEmpty <;> simp

lemma KeptIdle.delta {enabled : Bool} {payload : Text} (h : KeptIdle acts t)
    (hs : t.step (.idle enabled) (.delta payload) = some t') :
    KeptIdle (acts ++ [.delta payload]) t' := by
  have hes : events (acts ++ [.delta payload]) = events acts ++ [.delta payload] :=
    events_append _
  simp only [Turn.step] at hs
  split at hs
  next => cases hs
  next hend =>
    simp only [Bool.not_eq_true] at hend
    have hopen : t.segmenter.ended = false := h.ended.trans hend
    have hbuffer := h.buffer
    have htaken := h.taken
    simp only [hend, Bool.false_eq_true, if_false] at hbuffer htaken
    cases hs
    constructor
    · simp only [hes, replyText_delta, h.accumulated]
    · simp only [Segmenter.ended_push, h.ended]
    · exact fun _ => hend
    · simp only [hes, hend, Bool.false_eq_true, if_false, cutUp_delta,
        Segmenter.buffer_push hopen, hbuffer]
    · exact h.pumped
    · simp only [hes, hend, Bool.false_eq_true, if_false, cutUp_delta, htaken]

lemma KeptIdle.pause {enabled : Bool} (h : KeptIdle acts t)
    (hs : t.step (.idle enabled) .pause = some t') : KeptIdle (acts ++ [.pause]) t' := by
  have hes : events (acts ++ [.pause]) = events acts ++ [.pause] := events_append _
  simp only [Turn.step] at hs
  split at hs
  next htimer =>
    have hend := h.timer htimer
    have hopen : t.segmenter.ended = false := h.ended.trans hend
    have hbuffer := h.buffer
    have htaken := h.taken
    have hpumped : t.pumped = false := by
      by_contra hp
      simp only [Bool.not_eq_false] at hp
      have hended := (h.pumped hp).2
      rw [hend] at hended
      cases hended
    simp only [hend, Bool.false_eq_true, if_false, Bool.false_and, List.append_nil]
      at hbuffer htaken
    cases hempty : t.segmenter.buffer.isEmpty
    · simp only [Segmenter.flush, hopen, hempty, Bool.or_self, Bool.false_eq_true, if_false,
        emitSegment_segOut _ _ hempty, Option.some.injEq] at hs
      subst hs
      constructor
      · simp only [hes, replyText_pause, h.accumulated]
      · simp only [hend]
      · exact fun _ => hend
      · simp [hes, hend]
      · intro hp
        rw [hpumped] at hp
        cases hp
      · simp only [hes, hend, Bool.false_eq_true, if_false, Bool.false_and, List.append_nil,
          cutUp_pause, said_append, List.map_append, ← hbuffer, ← htaken, List.append_assoc]
    · simp only [Segmenter.flush, hempty, Bool.or_true, if_true, Option.some.injEq] at hs
      subst hs
      have hnil : (cutUp (events acts)).2 = [] := by
        rw [← hbuffer]
        exact List.isEmpty_iff.mp hempty
      constructor
      · simp only [hes, replyText_pause, h.accumulated]
      · simp only [h.ended]
      · exact fun _ => hend
      · simpa [hes, hend] using List.isEmpty_iff.mp hempty
      · exact h.pumped
      · simp only [hes, hend, Bool.false_eq_true, if_false, Bool.false_and, List.append_nil,
          cutUp_pause, said_append, hnil, htaken]
        simp [said]
  next => cases hs

lemma KeptIdle.finish {enabled : Bool} (h : KeptIdle acts t)
    (hs : t.step (.idle enabled) .finish = some t') : KeptIdle (acts ++ [.finish]) t' := by
  have hes : events (acts ++ [.finish]) = events acts := by
    rw [events_append]
    exact List.append_nil _
  simp only [Turn.step] at hs
  split at hs
  next => cases hs
  next hend =>
    simp only [Bool.not_eq_true] at hend
    have hopen : t.segmenter.ended = false := h.ended.trans hend
    have hbuffer := h.buffer
    have htaken := h.taken
    have hpumped : t.pumped = false := by
      by_contra hp
      simp only [Bool.not_eq_false] at hp
      have hended := (h.pumped hp).2
      rw [hend] at hended
      cases hended
    simp only [hend, Bool.false_eq_true, if_false, Bool.false_and, List.append_nil]
      at hbuffer htaken
    cases hempty : t.segmenter.buffer.isEmpty
    · simp only [Segmenter.finish, hopen, hempty, Bool.false_eq_true, if_false,
        Turn.onSegmentEnd, emitSegment_segOut _ _ hempty, Option.some.injEq] at hs
      subst hs
      constructor
      · simp only [hes, h.accumulated]
      · rfl
      · exact fun hf => by cases hf
      · rfl
      · intro hp
        rw [hpumped] at hp
        cases hp
      · simp only [hes, if_true, hpumped, Bool.not_false, Bool.and_self, Segments.pieces,
          said_append, List.map_append, ← hbuffer, ← htaken, List.append_assoc]
    · simp only [Segmenter.finish, hopen, hempty, Bool.false_eq_true, if_false, if_true,
        Turn.onSegmentEnd, Option.some.injEq] at hs
      subst hs
      have hnil : (cutUp (events acts)).2 = [] := by
        rw [← hbuffer]
        exact List.isEmpty_iff.mp hempty
      constructor
      · simp only [hes, h.accumulated]
      · rfl
      · exact fun hf => by cases hf
      · rfl
      · intro hp
        rw [hpumped] at hp
        cases hp
      · have hsaid : said stripFollowUpTagInline [[]] = [] := rfl
        simp only [hes, if_true, hpumped, Bool.not_false, Bool.and_self, Segments.pieces,
          said_append, hnil, hsaid, List.append_nil, ← htaken, List.append_assoc]

lemma KeptIdle.pump {enabled : Bool} (h : KeptIdle acts t)
    (hs : t.step (.idle enabled) .pump = some t') : KeptIdle (acts ++ [.pump]) t' := by
  have hes : events (acts ++ [.pump]) = events acts := by
    rw [events_append]
    exact List.append_nil _
  have htaken := h.taken
  simp only [Turn.step] at hs
  split at hs
  next segment rest hpumped hout =>
    cases hs
    constructor
    · simp only [hes, h.accumulated]
    · exact h.ended
    · exact h.timer
    · simpa only [hes] using h.buffer
    · intro hp
      rw [hpumped] at hp
      cases hp
    · rw [hout] at htaken
      simpa only [hes, List.map_append, List.map_cons, List.map_nil, List.append_assoc,
        List.singleton_append, hpumped] using htaken
  next rest hpumped hout =>
    cases hs
    -- the sentinel is the last that was put
    have hlast : t.ended = true ∧ rest = [] ∧ t.frames.map some =
        (said stripFollowUpTagInline (Segments.pieces (events acts))).map some := by
      rw [hout, hpumped] at htaken
      cases hend : t.ended
      · simp only [hend, Bool.false_and, Bool.false_eq_true, if_false, List.append_nil] at htaken
        have hmem : (none : Option Text) ∈
            (said stripFollowUpTagInline (cutUp (events acts)).1).map some := by
          rw [← htaken]
          simp
        simp at hmem
      · simp only [hend, Bool.true_and, Bool.not_false, if_true] at htaken
        refine ⟨rfl, ?_⟩
        induction rest using List.reverseRecOn with
        | nil =>
          have h' := List.append_inj' htaken rfl
          exact ⟨rfl, h'.1⟩
        | append_singleton rest x _ =>
          have h' : (t.frames.map some ++ none :: rest) ++ [x] =
              (said stripFollowUpTagInline (Segments.pieces (events acts))).map some ++ [none] := by
            simpa using htaken
          have hmem : (none : Option Text) ∈
              (said stripFollowUpTagInline (Segments.pieces (events acts))).map some := by
            rw [← (List.append_inj' h' rfl).1]
            simp
          simp at hmem
    obtain ⟨hend, rfl, hframes⟩ := hlast
    constructor
    · simp only [hes, h.accumulated]
    · exact h.ended
    · exact h.timer
    · simpa only [hes] using h.buffer
    · exact fun _ => ⟨rfl, hend⟩
    · simp only [hes, hend, if_true, hframes, Bool.not_true, Bool.and_false,
        Bool.false_eq_true, if_false]
  next => cases hs

lemma KeptIdle.step {enabled : Bool} {act : Act} (h : KeptIdle acts t)
    (hs : t.step (.idle enabled) act = some t') : KeptIdle (acts ++ [act]) t' := by
  cases act with
  | delta payload => exact h.delta hs
  | finish => exact h.finish hs
  | pause => exact h.pause hs
  | pump => exact h.pump hs

lemma KeptSentence.step {act : Act} (h : KeptSentence acts t)
    (hs : t.step .sentence act = some t') : KeptSentence (acts ++ [act]) t' := by
  obtain ⟨hseg, hout⟩ := h.idle
  cases act with
  | delta payload =>
    have hes : events (acts ++ [.delta payload]) = events acts ++ [.delta payload] :=
      events_append _
    simp only [Turn.step] at hs
    split at hs
    next => cases hs
    next =>
      cases hs
      cases hspoken : (stripFollowUpTagInline payload).isEmpty
      · constructor
        · simp [hes, replyText_delta, h.accumulated]
        · exact ⟨hseg, hout⟩
        · simp [hes, Segmentation.pieces, h.frames, hspoken]
      · constructor
        · simp [hes, replyText_delta, h.accumulated]
        · exact ⟨hseg, hout⟩
        · simp [hes, Segmentation.pieces, h.frames, hspoken]
  | finish =>
    have hes : events (acts ++ [.finish]) = events acts := by
      rw [events_append]
      exact List.append_nil _
    simp only [Turn.step] at hs
    split at hs
    next => cases hs
    next =>
      cases hs
      exact ⟨hes ▸ h.accumulated, ⟨hseg, hout⟩, hes ▸ h.frames⟩
  | pause =>
    simp only [Turn.step, hseg, Segmenter.new, Bool.false_eq_true, if_false] at hs
    cases hs
  | pump =>
    cases hp : t.pumped <;> simp [Turn.step, hout, hp] at hs

lemma run_keptIdle {enabled : Bool} (hrun : Turn.new.run (.idle enabled) acts = some t) :
    KeptIdle acts t := by
  induction acts using List.reverseRecOn generalizing t with
  | nil =>
    cases hrun
    exact KeptIdle.new
  | append_singleton acts act ih =>
    rw [Turn.run_append] at hrun
    obtain ⟨t₁, ht₁, hs⟩ := Option.bind_eq_some_iff.mp hrun
    exact (ih ht₁).step hs

lemma run_keptSentence (hrun : Turn.new.run .sentence acts = some t) : KeptSentence acts t := by
  induction acts using List.reverseRecOn generalizing t with
  | nil =>
    cases hrun
    exact ⟨rfl, ⟨rfl, rfl⟩, rfl⟩
  | append_singleton acts act ih =>
    rw [Turn.run_append] at hrun
    obtain ⟨t₁, ht₁, hs⟩ := Option.bind_eq_some_iff.mp hrun
    exact (ih ht₁).step hs

/-- What a finished turn has spoken. -/
lemma flatten_frames {seg : Segmentation} (hrun : Turn.new.run seg acts = some t)
    (hfin : t.finished seg = true) :
    t.frames.flatten = ((seg.pieces (events acts)).map stripFollowUpTagInline).flatten := by
  cases seg with
  | idle enabled =>
    have h := run_keptIdle hrun
    simp only [Turn.finished, Bool.and_eq_true, Bool.or_eq_true] at hfin
    obtain ⟨hend, hpumped⟩ := hfin
    have hpumped : t.pumped = true := hpumped.resolve_left (by simp)
    have htaken := h.taken
    rw [(h.pumped hpumped).1, hend, hpumped] at htaken
    have hframes : t.frames = said stripFollowUpTagInline (Segments.pieces (events acts)) :=
      List.map_injective_iff.mpr (Option.some_injective Text) (by simpa using htaken)
    rw [hframes, flatten_said stripInline_nil]
    rfl
  | sentence =>
    rw [(run_keptSentence hrun).frames]
    induction (Segmentation.sentence.pieces (events acts)).map stripFollowUpTagInline with
    | nil => rfl
    | cons s l ih => cases hs : s.isEmpty <;> simp_all

end Realtime

/-! ### The tag and the cuts -/

/-- What a turn has spoken of a whole reply that nobody aborted, the reply, and what the pauses, or
in sentence mode the ends of the deltas, cut it into: on either path, whatever the deltas, the
pauses and the interleaving with the synthesizer. -/
inductive SpokenReply : List Text → Text → List Text → Prop
  | webSocket {idleEnabled : Bool} {acts : List Segments.Act} {s : Segments.State}
      (hrun : Segments.State.new.run (spokenSetup idleEnabled) acts = some s)
      (hok : ∀ act ∈ acts, act.aborts = false) (hdone : s.queue.worker = .done) :
      SpokenReply s.queue.synthesized (Segments.replyText (Segments.events acts))
        (Segments.pieces (Segments.events acts))
  | realtime {seg : Realtime.Segmentation} {acts : List Realtime.Act} {t : Realtime.Turn}
      (hrun : Realtime.Turn.new.run seg acts = some t) (hfin : t.finished seg = true) :
      SpokenReply t.frames t.accumulated (seg.pieces (Realtime.events acts))

/-- **Stripping depends on the cuts.** The speech of a whole reply is the reply without its tags
exactly when none of the cuts goes through a tag. -/
theorem stripped_exactly_when_intact {spoken cut : List Text} {reply : Text}
    (h : SpokenReply spoken reply cut) :
    Stripped spoken reply ↔ Intact followUpTag cut := by
  cases h with
  | @webSocket idleEnabled acts s hrun hok hdone =>
    have hkept := Segments.State.run_kept hrun hok
    obtain ⟨hclosed, hitems⟩ : s.queue.closed = true ∧ s.queue.items = [] := by
      rcases (Segments.State.run_awake hrun).finished hdone with ha | h
      · rw [hkept.abort] at ha
        cases ha
      · exact h
    have htaken := hkept.taken
    rw [if_pos (hkept.closed ▸ hclosed), Segments.Queue.taken, hitems, List.append_nil] at htaken
    refine stripped_iff (Segments.flatten_pieces _) ?_
    rw [htaken]
    exact Segments.flatten_said stripInline_nil _
  | @realtime seg acts t hrun hfin =>
    have haccumulated : t.accumulated = Segments.replyText (Realtime.events acts) := by
      cases seg with
      | idle => exact (Realtime.run_keptIdle hrun).accumulated
      | sentence => exact (Realtime.run_keptSentence hrun).accumulated
    refine stripped_iff ?_ (Realtime.flatten_frames hrun hfin)
    rw [haccumulated]
    exact Realtime.flatten_segmentation_pieces seg _

/-- A reply in several deltas: it pauses between two sentences, and its tag comes in two deltas. -/
def pausedBefore : List Segments.Act :=
  [.start, .push (text "Su"), .push (text "re. "), .pause, .wakeWait, .push (text "More? [[foll"),
    .push (text "ow_up]]"), .resume, .finish, .synthesized true, .synthesized true]

theorem stripped_exactly_when_intact_sample :
    Stripped [text "Sure. ", text "More? "] (text "Sure. More? [[follow_up]]") := by
  have hrun : Segments.State.new.run (spokenSetup true) pausedBefore = some
      ⟨⟨[], true, false⟩, ⟨[], true, true, false, .done, [text "Sure. ", text "More? "], []⟩,
        text "Sure. More? [[follow_up]]"⟩ := by rfl
  refine (stripped_exactly_when_intact (.webSocket hrun (by decide) rfl)).mpr (intact_pair ?_)
  rintro ⟨u, v, hu, -, hpat, hsuffix, -⟩
  -- the first piece ends in a blank, and there is none in the tag
  have hlast : u.getLast hu = 32 := by
    rw [hsuffix.getLast hu]
    rfl
  have hmem : 32 ∈ followUpTag := by
    rw [hpat]
    exact List.mem_append_left _ (hlast ▸ List.getLast_mem hu)
  exact absurd hmem (by decide)

/-- A reply that pauses in its tag. -/
def pausedInTag : List Segments.Act :=
  [.start, .push (text "Sure [[foll"), .pause, .wakeWait, .push (text "ow_up]]"), .resume, .finish,
    .synthesized true, .synthesized true]

/-- The same in a session, where the tag comes in two deltas. -/
def deltasInTag : List Realtime.Act :=
  [.delta (text "Sure [[foll"), .delta (text "ow_up]]"), .finish]

theorem tag_is_spoken :
    ¬ ((∀ idleEnabled acts s, Segments.State.new.run (spokenSetup idleEnabled) acts = some s →
        (∀ act ∈ acts, act.aborts = false) → s.queue.worker = .done →
        Stripped s.queue.synthesized (Segments.replyText (Segments.events acts)))) ∧
      ¬ (∀ seg acts t, Realtime.Turn.new.run seg acts = some t → t.finished seg = true →
        Stripped t.frames t.accumulated) := by
  have htag : followUpTag <:+: [text "Sure [[foll", text "ow_up]]"].flatten :=
    ⟨text "Sure ", [], by rfl⟩
  constructor
  · intro h
    have hrun : Segments.State.new.run (spokenSetup true) pausedInTag = some
        ⟨⟨[], true, false⟩,
          ⟨[], true, true, false, .done, [text "Sure [[foll", text "ow_up]]"], []⟩,
          text "Sure [[follow_up]]"⟩ := by rfl
    exact (h true pausedInTag _ hrun (by decide) rfl).1 htag
  · intro h
    have hrun : Realtime.Turn.new.run .sentence deltasInTag = some
        ⟨.new, [], false, [text "Sure [[foll", text "ow_up]]"], text "Sure [[follow_up]]", true⟩ :=
      by rfl
    exact (h .sentence deltasInTag _ hrun rfl).1 htag

end Vauxr.Voice
