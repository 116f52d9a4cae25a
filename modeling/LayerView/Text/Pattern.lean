import LayerView.Text.Basic

/-!
# Patterns

Shapes of code that a fixed needle cannot describe.  A pattern tells how many characters it covers at
the start of a text, if it fits there.
-/

namespace LayerView.Text

/-- The length of a fit at the start of a text. -/
abbrev Pattern := Text → Option Nat

/-- Cut a text around the first place at which a pattern fits. -/
def breakAt? (fit : Pattern) : Text → Option (Text × Text × Text)
  -- A pattern may fit at the very end, where there is nothing to cover.
  | [] => (fit []).map fun _ => ([], [], [])
  | c :: t =>
    match fit (c :: t) with
    | some n => some ([], (c :: t).take n, (c :: t).drop n)
    | none => (breakAt? fit t).map fun (before, hit, after) => (c :: before, hit, after)

/-- The length of a line ending, with or without a carriage return. -/
def lineEnd? : Text → Option Nat
  | '\n' :: _ => some 1
  | '\r' :: '\n' :: _ => some 2
  | _ => none

/-- What follows `word` at the start of a text. -/
def skip? (word t : Text) : Option Text :=
  if word.isPrefixOf t then some (t.drop word.length) else none

theorem skip?_append (word t : Text) : skip? word (word ++ t) = some t := by
  simp [skip?]

/-- The longest run of characters of a class at the start of a text, which has to have one, and what
follows it. -/
def run? (p : Char → Bool) (t : Text) : Option (Text × Text) :=
  if (t.takeWhile p).isEmpty then none else some (t.takeWhile p, t.dropWhile p)

/-- A text is what stands before the first fit, the fit, and what stands after. -/
theorem eq_append_of_breakAt? {fit : Pattern} :
    ∀ {t before hit after : Text}, breakAt? fit t = some (before, hit, after) →
      t = before ++ hit ++ after
  | [], before, hit, after, h => by
    cases hfit : fit [] <;> simp_all [breakAt?]
  | c :: t, before, hit, after, h => by
    simp only [breakAt?] at h
    split at h
    case h_1 n _ =>
      obtain ⟨rfl, rfl, rfl⟩ : [] = before ∧ (c :: t).take n = hit ∧ (c :: t).drop n = after := by
        simpa using h
      simp
    case h_2 =>
      cases hrec : breakAt? fit t with
      | none => simp [hrec] at h
      | some parts =>
        obtain ⟨b, m, a⟩ := parts
        obtain ⟨rfl, rfl, rfl⟩ : c :: b = before ∧ m = hit ∧ a = after := by simpa [hrec] using h
        simp [eq_append_of_breakAt? hrec]

end LayerView.Text
