import LayerView.Proofs.Search
import LayerView.Text.Pattern

/-!
# First places of a kind

Searches go for a fixed needle or for the fit of a pattern, and both take the first place.  Here a
place is told without a search: as a cut of the text around a part of some kind, such that no other
cut around a part of that kind comes earlier.  The searches find exactly these places.

Main statements:
- `isFirst_eq_iff`: the search for a needle
- `upToFirst_iff`: the text before the first needle
- `Describes.breakAt?_eq_some_iff`, `Describes.breakAt?_eq_none_iff`: the search with a pattern
-/

namespace LayerView.Text

/-- A text cut around its first part of a kind. -/
structure IsFirst (P : Text → Prop) (t before hit after : Text) : Prop where
  eq_append : t = before ++ hit ++ after
  holds : P hit
  least : ∀ lead mid rest, t = lead ++ mid ++ rest → P mid → before.length ≤ lead.length

/-! ## Needles -/

/-- The first place of a needle is the one that the search breaks the text at. -/
theorem isFirst_eq_iff {needle t before after : Text} :
    IsFirst (· = needle) t before needle after ↔ breakOn? needle t = some (before, after) := by
  rw [breakOn?_eq_some_iff]
  constructor
  · intro h
    exact ⟨h.eq_append, fun lead rest ht => h.least lead needle rest ht rfl⟩
  · rintro ⟨ht, hfirst⟩
    refine ⟨ht, rfl, ?_⟩
    rintro lead mid rest hcut rfl
    exact hfirst lead rest hcut

/-- A needle that occurs has a first place. -/
theorem exists_isFirst {needle t : Text} (h : needle <:+: t) :
    ∃ before after, IsFirst (· = needle) t before needle after := by
  cases hbreak : breakOn? needle t with
  | none => exact absurd h (breakOn?_eq_none_iff.mp hbreak)
  | some parts => exact ⟨parts.1, parts.2, isFirst_eq_iff.mpr hbreak⟩

/-- The part of a text before the first needle, or all of it if there is none. -/
inductive UpToFirst (needle t : Text) : Text → Prop where
  | found {before after : Text} (h : IsFirst (· = needle) t before needle after) :
    UpToFirst needle t before
  | absent (h : ¬ needle <:+: t) : UpToFirst needle t t

/-- The part before the first needle is what cutting gives. -/
theorem upToFirst_iff {needle t part : Text} :
    UpToFirst needle t part ↔ (cutBefore needle t).1 = part := by
  constructor
  · intro h
    cases h with
    | found h => rw [cutBefore, isFirst_eq_iff.mp h]
    | absent h => rw [cutBefore, breakOn?_eq_none_iff.mpr h]
  · rintro rfl
    unfold cutBefore
    split
    case h_1 before after h => exact .found (isFirst_eq_iff.mpr h)
    case h_2 h => exact .absent (breakOn?_eq_none_iff.mp h)

theorem cutBefore_found_iff {needle t : Text} :
    (cutBefore needle t).2.2 = true ↔ needle <:+: t := by
  unfold cutBefore
  split
  case h_1 before after h => simpa using ⟨before, after, (eq_append_of_breakOn? h).symm⟩
  case h_2 h => simpa using breakOn?_eq_none_iff.mp h

namespace UpToFirst

variable {needle t part : Text}

theorem isPrefix (h : UpToFirst needle t part) : part <+: t := by
  cases h with
  | absent h => exact List.prefix_refl t
  | found h =>
    rw [h.eq_append, List.append_assoc]
    exact List.prefix_append _ _

/-- Without a needle it is all of the text. -/
theorem eq_of_not_contained (h : UpToFirst needle t part) (hnone : ¬ needle <:+: t) : part = t := by
  cases h with
  | absent h => rfl
  | found h => exact absurd ⟨_, _, h.eq_append.symm⟩ hnone

/-- The empty needle stands at the start, so nothing is before it. -/
private theorem needle_ne_nil (h : UpToFirst needle t part) (hne : part ≠ []) : needle ≠ [] := by
  rintro rfl
  cases h with
  | absent h => exact h List.nil_infix
  | found h => exact hne (List.length_eq_zero_iff.mp (Nat.le_zero.mp (h.least [] [] t rfl rfl)))

/-- The needle is not in what stands before the first one. -/
theorem not_contained (h : UpToFirst needle t part) (hne : part ≠ []) : ¬ needle <:+: part := by
  have hpos := List.length_pos_iff.mpr (h.needle_ne_nil hne)
  cases h with
  | absent h => exact h
  | found h =>
    rintro ⟨lead, rest, rfl⟩
    -- the needle in the part would come before the first one
    have hcut := h.eq_append
    simp only [List.append_assoc] at hcut
    rw [← List.append_assoc] at hcut
    have hle := h.least lead needle _ hcut rfl
    simp only [List.length_append] at hle
    omega

end UpToFirst

/-! ## Patterns -/

/-- A pattern that fits where a part of a kind starts, and covers that part. -/
def Describes (P : Text → Prop) (fit : Pattern) : Prop :=
  ∀ t n, fit t = some n ↔ ∃ hit rest, P hit ∧ t = hit ++ rest ∧ n = hit.length

namespace Describes

variable {P : Text → Prop} {fit : Pattern}

theorem fit_append (hfit : Describes P fit) {hit : Text} (hP : P hit) (rest : Text) :
    fit (hit ++ rest) = some hit.length :=
  (hfit _ _).mpr ⟨hit, rest, hP, rfl, rfl⟩

/-- Of two parts of the kind that start one text, there is only one. -/
private theorem eq_of_append_eq (hfit : Describes P fit) {hit hit' rest rest' : Text} (hP : P hit)
    (hP' : P hit') (h : hit ++ rest = hit' ++ rest') : hit = hit' ∧ rest = rest' := by
  have hfits := hfit.fit_append hP rest
  rw [h, hfit.fit_append hP' rest'] at hfits
  exact List.append_inj h (Option.some.inj hfits).symm

/-- The search fails exactly where no part of the kind is. -/
theorem breakAt?_eq_none_iff (hfit : Describes P fit) {t : Text} :
    breakAt? fit t = none ↔ ∀ hit, P hit → ¬ hit <:+: t := by
  induction t with
  | nil =>
    -- the pattern is tried at the end of the text as well
    rw [breakAt?, Option.map_eq_none_iff, Option.eq_none_iff_forall_ne_some]
    constructor
    · rintro h hit hP hinfix
      obtain rfl := List.eq_nil_of_infix_nil hinfix
      exact h 0 (hfit.fit_append hP [])
    · intro h n hn
      obtain ⟨hit, rest, hP, hcut, -⟩ := (hfit _ _).mp hn
      exact h hit hP ⟨[], rest, hcut.symm⟩
  | cons c t ih =>
    rw [breakAt?]
    constructor
    · intro h hit hP hinfix
      split at h
      case h_1 => simp at h
      case h_2 hnone =>
        -- a part starts here, where the pattern does not fit, or further on
        rcases List.infix_cons_iff.mp hinfix with ⟨rest, hcut⟩ | hinfix
        · rw [← hcut, hfit.fit_append hP rest] at hnone
          simp at hnone
        · exact ih.mp (Option.map_eq_none_iff.mp h) hit hP hinfix
    · intro h
      have hnone : fit (c :: t) = none := by
        rw [Option.eq_none_iff_forall_ne_some]
        intro n hn
        obtain ⟨hit, rest, hP, hcut, -⟩ := (hfit _ _).mp hn
        exact h hit hP ⟨[], rest, hcut.symm⟩
      rw [hnone, Option.map_eq_none_iff]
      exact ih.mpr fun hit hP hinfix => h hit hP (List.infix_cons hinfix)

/-- The search finds a first place. -/
theorem isFirst_of_breakAt? (hfit : Describes P fit) {t before hit after : Text}
    (h : breakAt? fit t = some (before, hit, after)) : IsFirst P t before hit after := by
  induction t generalizing before with
  | nil =>
    obtain ⟨n, hn, hparts⟩ := Option.map_eq_some_iff.mp h
    obtain ⟨rfl, rfl, rfl⟩ : [] = before ∧ [] = hit ∧ [] = after := by simpa using hparts
    obtain ⟨hit, rest, hP, hcut, -⟩ := (hfit _ _).mp hn
    rw [(List.append_eq_nil_iff.mp hcut.symm).1] at hP
    exact ⟨rfl, hP, fun _ _ _ _ _ => Nat.zero_le _⟩
  | cons c t ih =>
    rw [breakAt?] at h
    split at h
    -- it fits at the start, and nothing is before that
    case h_1 n hn =>
      obtain ⟨rfl, rfl, rfl⟩ : [] = before ∧ (c :: t).take n = hit ∧ (c :: t).drop n = after := by
        simpa using h
      obtain ⟨hit, rest, hP, hcut, rfl⟩ := (hfit _ _).mp hn
      refine ⟨(List.take_append_drop _ _).symm, ?_, fun _ _ _ _ _ => Nat.zero_le _⟩
      rw [hcut, List.take_left]
      exact hP
    case h_2 hnone =>
      obtain ⟨⟨b, m, a⟩, hrec, hparts⟩ := Option.map_eq_some_iff.mp h
      obtain ⟨rfl, rfl, rfl⟩ : c :: b = before ∧ m = hit ∧ a = after := by simpa using hparts
      have hfirst := ih hrec
      refine ⟨by rw [hfirst.eq_append]; simp, hfirst.holds, ?_⟩
      intro lead mid rest hcut hP
      cases lead with
      | nil =>
        -- the pattern would fit at the start
        rw [hcut, List.nil_append, hfit.fit_append hP rest] at hnone
        simp at hnone
      | cons d lead =>
        have ht : t = lead ++ mid ++ rest := by simpa using (List.cons.inj hcut).2
        exact Nat.succ_le_succ (hfirst.least lead mid rest ht hP)

/-- A pattern that describes a kind of parts is searched for by first places of these. -/
theorem breakAt?_eq_some_iff (hfit : Describes P fit) {t before hit after : Text} :
    breakAt? fit t = some (before, hit, after) ↔ IsFirst P t before hit after := by
  refine ⟨hfit.isFirst_of_breakAt?, fun h => ?_⟩
  cases hb : breakAt? fit t with
  | none =>
    have hnone := hfit.breakAt?_eq_none_iff.mp hb hit h.holds
    exact absurd ⟨before, after, h.eq_append.symm⟩ hnone
  | some parts =>
    obtain ⟨b, m, a⟩ := parts
    have hfound := hfit.isFirst_of_breakAt? hb
    -- both are first, so they start at the same place, and there the part is determined
    have hlen : b.length = before.length :=
      Nat.le_antisymm (hfound.least before hit after h.eq_append h.holds)
        (h.least b m a hfound.eq_append hfound.holds)
    have hsame : b ++ (m ++ a) = before ++ (hit ++ after) := by
      rw [← List.append_assoc, ← List.append_assoc, ← hfound.eq_append, h.eq_append]
    obtain ⟨rfl, hrest⟩ := List.append_inj hsame hlen
    obtain ⟨rfl, rfl⟩ := hfit.eq_of_append_eq hfound.holds h.holds hrest
    rfl

end Describes

/-- A word describes itself. -/
theorem describes_skip? (word : Text) :
    Describes (· = word) fun t => (skip? word t).map fun _ => word.length := by
  intro t n
  constructor
  · -- the word is skipped exactly where the text starts with it
    intro h
    simp only [skip?, Option.map_eq_some_iff, Option.ite_none_right_eq_some] at h
    obtain ⟨-, ⟨hpre, -⟩, rfl⟩ := h
    obtain ⟨rest, hrest⟩ := List.isPrefixOf_iff_prefix.mp hpre
    exact ⟨word, rest, rfl, hrest.symm, rfl⟩
  · rintro ⟨_, rest, rfl, rfl, rfl⟩
    simp only [skip?_append, Option.map_some]

end LayerView.Text
