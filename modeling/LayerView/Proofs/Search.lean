import LayerView.Text.Basic
import LayerView.Text.Letter
import Mathlib.Data.List.Infix

/-!
# First occurrences of a needle

The search for a needle succeeds exactly when the needle occurs, and then cuts the text at the first
place where it does.  Everything else in the library that looks for a fixed text goes through these
two statements.

Main statements:
- `breakOn?_eq_none_iff`: when the search fails
- `breakOn?_eq_some_iff`: where it cuts
- `contains_iff`: containment as an infix
-/

namespace LayerView.Text

/-- The search fails only where the needle does not occur. -/
private theorem not_infix_of_breakOn?_eq_none {needle t : Text} (h : breakOn? needle t = none) :
    ¬ needle <:+: t := by
  induction t with
  | nil =>
    cases needle with
    | nil => simp [breakOn?] at h
    | cons c needle => simp
  | cons c t ih =>
    simp only [breakOn?] at h
    split at h
    case isTrue => simp at h
    case isFalse hpre =>
      rw [List.infix_cons_iff]
      -- at the start, where the search looked, or further on
      rintro (hp | hinf)
      · exact hpre (List.isPrefixOf_iff_prefix.mpr hp)
      · exact ih (Option.map_eq_none_iff.mp h) hinf

/-- The search fails exactly where the needle does not occur. -/
theorem breakOn?_eq_none_iff {needle t : Text} : breakOn? needle t = none ↔ ¬ needle <:+: t := by
  refine ⟨not_infix_of_breakOn?_eq_none, fun h => ?_⟩
  cases hb : breakOn? needle t with
  | none => rfl
  | some parts => exact absurd ⟨parts.1, parts.2, (eq_append_of_breakOn? hb).symm⟩ h

/-- A text contains what occurs in it. -/
theorem contains_iff {needle t : Text} : contains needle t = true ↔ needle <:+: t := by
  unfold contains
  rw [Option.isSome_iff_ne_none, ne_eq, breakOn?_eq_none_iff, not_not]

/-- The needle does not occur before the place at which it is found. -/
theorem length_le_of_breakOn? {needle t before after : Text}
    (h : breakOn? needle t = some (before, after)) {lead rest : Text}
    (ht : t = lead ++ needle ++ rest) : before.length ≤ lead.length := by
  induction t generalizing before after lead with
  | nil =>
    have hb := (List.append_eq_nil_iff.mp (eq_append_of_breakOn? h).symm).1
    simp [(List.append_eq_nil_iff.mp hb).1]
  | cons c t ih =>
    simp only [breakOn?] at h
    split at h
    case isTrue =>
      obtain ⟨rfl, -⟩ : [] = before ∧ (c :: t).drop needle.length = after := by simpa using h
      simp
    case isFalse hpre =>
      obtain ⟨⟨b, a⟩, hrec, hparts⟩ := Option.map_eq_some_iff.mp h
      obtain ⟨rfl, rfl⟩ : c :: b = before ∧ a = after := by simpa using hparts
      cases lead with
      | nil =>
        -- the needle would start the text, which the search has ruled out
        refine absurd ?_ hpre
        rw [ht, List.nil_append]
        exact List.isPrefixOf_iff_prefix.mpr (List.prefix_append needle rest)
      | cons d lead =>
        have ht' : t = lead ++ needle ++ rest := by simpa using (List.cons.inj ht).2
        exact Nat.succ_le_succ (ih hrec ht')

/-- The search cuts the text at the first occurrence of the needle, and nowhere else. -/
theorem breakOn?_eq_some_iff {needle t before after : Text} :
    breakOn? needle t = some (before, after) ↔
      t = before ++ needle ++ after ∧
        ∀ lead rest, t = lead ++ needle ++ rest → before.length ≤ lead.length := by
  constructor
  · intro h
    exact ⟨eq_append_of_breakOn? h, fun lead rest ht => length_le_of_breakOn? h ht⟩
  · rintro ⟨ht, hfirst⟩
    cases hb : breakOn? needle t with
    | none => exact absurd ⟨before, after, ht.symm⟩ (breakOn?_eq_none_iff.mp hb)
    | some parts =>
      obtain ⟨b, a⟩ := parts
      have hcut := eq_append_of_breakOn? hb
      -- both cuts are first, so they are at the same place
      have hlen : b.length = before.length :=
        Nat.le_antisymm (length_le_of_breakOn? hb ht) (hfirst b a hcut)
      have hsame : b ++ (needle ++ a) = before ++ (needle ++ after) := by
        rw [← List.append_assoc, ← List.append_assoc, ← hcut, ht]
      obtain ⟨rfl, hrest⟩ := List.append_inj hsame hlen
      rw [List.append_cancel_left hrest]

/-! ## What stands before a place -/

/-- Whether a character can be part of an identifier: a letter, a digit or an underscore. -/
def isIdentifierPart (c : Char) : Bool := isAlphanumeric c || c == '_'

/-- What stands before a place is no start of a longer identifier. -/
def EndsNoIdentifier (lead : Text) : Prop :=
  ∀ c, lead.getLast? = some c → isIdentifierPart c = false

/-- This is told by the last character, if there is one. -/
theorem endsNoIdentifier_iff {lead : Text} :
    EndsNoIdentifier lead ↔ (lead.getLast?.or none).any isIdentifierPart = false := by
  unfold EndsNoIdentifier
  cases lead.getLast? <;> simp

end LayerView.Text
