import LayerView.Proofs.DrawHistories

/-!
# Draw calls of other layers

A watch tells the draw call of its text by the name of the layer and what follows it.  The name is
looked for as a mere word, so the call of a layer whose name only ends in it is taken as well: while
`label` is awaited, `sublabel.draw(in: ` is answered with the lines for `label`.  The wait is over
then, and the call that was waited for gets no answer.

Beside the watch stands one that takes whole receivers only.  The two agree on a history exactly when
no line of it misleads the first, and the first line that does is where they part.

Main statements:
- `containsWhole_iff`: where a word is a whole receiver
- `step_eq_stepWhole_iff`: when the two watches agree on one step
- `answers_eq_wholeAnswers_iff`: when they agree on a history
- `fires_on_whole_receivers_iff`: when only the awaited layer is answered
- `call_of_other_layer_answered`: the call of another layer, answered
-/

namespace LayerView.DrawWatch

open LayerView.Text

/-! ## Whole receivers -/

/-- The line calls for the layer of a text to be drawn: its call stands there behind no part of a
longer identifier. -/
def DrawsItself (v : TextVariable) (line : Text) : Prop :=
  ∃ lead rest, line = lead ++ callOf v ++ rest ∧ EndsNoIdentifier lead

/-- Whether a word stands in a text behind no part of an identifier.  The character before the text
is given. -/
def containsWhole (word : Text) : Option Char → Text → Bool
  | prev, [] => word.isPrefixOf [] && !prev.any isIdentifierPart
  | prev, c :: t =>
    word.isPrefixOf (c :: t) && !prev.any isIdentifierPart || containsWhole word (some c) t

/-- The search for a whole word looks at the character before each place. -/
theorem containsWhole_iff {word : Text} {prev : Option Char} {t : Text} :
    containsWhole word prev t = true ↔
      ∃ lead rest, t = lead ++ word ++ rest ∧
        (lead.getLast?.or prev).any isIdentifierPart = false := by
  induction t generalizing prev with
  | nil =>
    simp only [containsWhole, Bool.and_eq_true, List.isPrefixOf_iff_prefix, Bool.not_eq_true']
    constructor
    · rintro ⟨hword, hprev⟩
      obtain rfl := List.prefix_nil.mp hword
      exact ⟨[], [], rfl, hprev⟩
    · rintro ⟨lead, rest, hcut, hlast⟩
      obtain ⟨hlead, -⟩ := List.append_eq_nil_iff.mp hcut.symm
      obtain ⟨rfl, rfl⟩ := List.append_eq_nil_iff.mp hlead
      exact ⟨List.prefix_refl [], hlast⟩
  | cons c t ih =>
    -- the word stands at the start, or behind the first character
    have hbehind : ∀ lead : Text, (c :: lead).getLast?.or prev = lead.getLast?.or (some c) := by
      intro lead
      rw [List.getLast?_cons]
      cases lead.getLast? <;> rfl
    simp only [containsWhole, Bool.or_eq_true, Bool.and_eq_true, List.isPrefixOf_iff_prefix,
      Bool.not_eq_true', ih]
    constructor
    · rintro (⟨⟨rest, hrest⟩, hprev⟩ | ⟨lead, rest, rfl, hlast⟩)
      · exact ⟨[], rest, hrest.symm, hprev⟩
      · exact ⟨c :: lead, rest, rfl, by rwa [hbehind]⟩
    · rintro ⟨lead, rest, hcut, hlast⟩
      cases lead with
      | nil => exact Or.inl ⟨⟨rest, hcut.symm⟩, hlast⟩
      | cons d lead =>
        obtain ⟨rfl, ht⟩ := List.cons.inj hcut
        exact Or.inr ⟨lead, rest, ht, by rwa [← hbehind]⟩

theorem drawsItself_iff {v : TextVariable} {line : Text} :
    DrawsItself v line ↔ containsWhole (callOf v) none line = true := by
  simp only [DrawsItself, containsWhole_iff, endsNoIdentifier_iff]

theorem DrawsItself.isInfix {v : TextVariable} {line : Text} (h : DrawsItself v line) :
    callOf v <:+: line := by
  obtain ⟨lead, rest, hcut, -⟩ := h
  exact ⟨lead, rest, hcut.symm⟩

/-! ## A watch for whole receivers -/

/-- Show a line to a watch that takes whole receivers only. -/
def observeWhole (w : DrawWatch) (line : Text) : List Text × DrawWatch :=
  match w.waiting? with
  | some v =>
    if containsWhole (callOf v) none line then (overrideBlock v line, idle) else ([], w)
  | none => ([], w)

/-- One step of a watch that takes whole receivers only. -/
def stepWhole (w : DrawWatch) : Step → List Text × DrawWatch
  | .remember v => ([], w.remember v)
  | .observe line => w.observeWhole line

/-- What such a watch answers to each step of a history. -/
def wholeAnswers (w : DrawWatch) : List Step → List (List Text)
  | [] => []
  | s :: rest => (w.stepWhole s).1 :: wholeAnswers (w.stepWhole s).2 rest

/-- A line that does not mislead a watch: if it has the call that is waited for, it has it as that of
a whole receiver. -/
def Honest (w : DrawWatch) (s : Step) : Prop :=
  ∀ v line, w.waiting? = some v → s = .observe line → callOf v <:+: line → DrawsItself v line

theorem overrideBlock_ne_nil (v : TextVariable) (line : Text) : overrideBlock v line ≠ [] := by
  simp [overrideBlock]

/-- On a line that does not mislead, the two watches do the same. -/
theorem Honest.step_eq {w : DrawWatch} {s : Step} (h : Honest w s) : w.step s = w.stepWhole s := by
  cases s with
  | remember v => rfl
  | observe line =>
    simp only [step, stepWhole, observe, observeWhole]
    cases hw : w.waiting? with
    | none => rfl
    | some v =>
      -- both searches say the same of this line
      have hsame : contains (callOf v) line = containsWhole (callOf v) none line := by
        rw [Bool.eq_iff_iff, contains_iff, ← drawsItself_iff]
        exact ⟨h v line hw rfl, DrawsItself.isInfix⟩
      simp only [hsame]

/-- The answer alone tells whether the two watches agree: one that is misled answers, and the other
does not. -/
theorem step_eq_stepWhole_iff {w : DrawWatch} {s : Step} :
    (w.step s).1 = (w.stepWhole s).1 ↔ Honest w s := by
  refine ⟨?_, fun h => congrArg Prod.fst h.step_eq⟩
  rintro hanswer v line hw rfl hcall
  by_contra hnot
  -- the call is on the line, but not as that of a whole receiver
  have hwhole : (w.observeWhole line).1 = [] := by
    simp [observeWhole, hw, mt drawsItself_iff.mpr hnot]
  have hblock : overrideBlock v line = [] :=
    (observe_of_waiting hw hcall).symm.trans (hanswer.trans hwhole)
  exact overrideBlock_ne_nil v line hblock

/-- The two watches agree on a history exactly when no step of it is misleading. -/
theorem answers_eq_wholeAnswers_iff {w : DrawWatch} {history : List Step} :
    w.answers history = w.wholeAnswers history ↔
      ∀ (j : Nat) (s : Step), history[j]? = some s → Honest (w.after (history.take j)) s := by
  -- by induction on the history, since up to the first misleading step both are in the same state
  induction history generalizing w with
  | nil => simp [answers, wholeAnswers]
  | cons s rest ih =>
    simp only [answers, wholeAnswers, List.cons.injEq, step_eq_stepWhole_iff]
    constructor
    · rintro ⟨hs, hrest⟩ j u hu
      cases j with
      | zero =>
        obtain rfl : s = u := by simpa using hu
        exact hs
      | succ j =>
        -- the first step leaves both watches in one state
        rw [← hs.step_eq] at hrest
        exact ih.mp hrest j u hu
    · intro h
      have hs : Honest w s := h 0 s rfl
      refine ⟨hs, ?_⟩
      rw [← hs.step_eq]
      exact ih.mpr fun j u hu => h (j + 1) u hu

/-! ## Misled answers -/

/-- Step `j` shows a line that is taken for the draw call of the text of step `i`, though each call
on it is that of a longer identifier. -/
structure Misled (history : List Step) (i j : Nat) (v : TextVariable) (line : Text) : Prop where
  draws : Draws history i j v line
  longer : ∀ lead rest, line = lead ++ callOf v ++ rest →
    ∃ c, lead.getLast? = some c ∧ isIdentifierPart c = true

/-- A line misleads if it is taken for a draw call and does not draw the layer itself. -/
theorem misled_iff {history : List Step} {i j : Nat} {v : TextVariable} {line : Text} :
    Misled history i j v line ↔ Draws history i j v line ∧ ¬ DrawsItself v line := by
  have hlonger : (∀ lead rest, line = lead ++ callOf v ++ rest →
      ∃ c, lead.getLast? = some c ∧ isIdentifierPart c = true) ↔ ¬ DrawsItself v line := by
    simp only [DrawsItself, EndsNoIdentifier, not_exists, not_and, not_forall, exists_prop,
      Bool.not_eq_false]
  rw [← hlonger]
  exact ⟨fun h => ⟨h.draws, h.longer⟩, fun h => ⟨h.1, h.2⟩⟩

/-- No step of a history misleads a watch that starts idle exactly when no line of it is taken for
the call of a text that it does not draw. -/
theorem forall_honest_iff {history : List Step} :
    (∀ (j : Nat) (s : Step), history[j]? = some s → Honest (idle.after (history.take j)) s) ↔
      ∀ i j v line, ¬ Misled history i j v line := by
  constructor
  · intro h i j v line hmisled
    obtain ⟨hdraws, hnot⟩ := misled_iff.mp hmisled
    have hwaiting := (waiting?_after_take (length_le_of_observed hdraws.observed)).mpr
      ⟨i, hdraws.awaited⟩
    exact hnot (h j _ hdraws.observed v line hwaiting rfl hdraws.calls)
  · -- what the watch waits for is what is awaited
    rintro h j s hs v line hwaiting rfl hcall
    obtain ⟨i, hawaited⟩ := (waiting?_after_take (length_le_of_observed hs)).mp hwaiting
    by_contra hnot
    exact h i j v line (misled_iff.mpr ⟨⟨hawaited, hs, hcall⟩, hnot⟩)

/-- After a line that is taken for its draw call, a text is no longer awaited, and no other is. -/
theorem Draws.waiting?_eq_none {history : List Step} {i j : Nat} {v : TextVariable} {line : Text}
    (h : Draws history i j v line) : (idle.after (history.take (j + 1))).waiting? = none := by
  obtain ⟨hj, -⟩ := List.getElem?_eq_some_iff.mp h.observed
  rw [Option.eq_none_iff_forall_ne_some]
  intro u hu
  have hsucc := (waiting?_after_take hj).mp hu
  rcases (exists_awaited_succ h.observed).mp hsucc with hs | ⟨next, hs, ⟨k, hk⟩, hundrawn⟩
  · exact Step.noConfusion hs
  · -- the text awaited before is this one, and the line has its call
    obtain rfl : line = next := Step.observe.inj hs
    obtain rfl := h.awaited.unique hk
    obtain rfl : v = u := by simpa [h.awaited.remembered] using hk.remembered
    exact hundrawn h.calls

/-- Only lines that draw the awaited layer itself are answered exactly when no line misleads the
watch, and then its answers are those of a watch for whole receivers.  A line that does mislead it
gets the lines of the awaited layer, though it draws another one, and nothing is awaited any more. -/
theorem fires_on_whole_receivers_iff (history : List Step) :
    ((∀ (j : Nat) (line : Text), history[j]? = some (.observe line) →
        (idle.answers history)[j]? ≠ some [] → ∃ i v, Awaited history i j v ∧ DrawsItself v line) ↔
      ∀ i j v line, ¬ Misled history i j v line) ∧
    (idle.answers history = idle.wholeAnswers history ↔
      ∀ i j v line, ¬ Misled history i j v line) ∧
    ∀ i j v line, Misled history i j v line →
      (idle.answers history)[j]? = some (overrideBlock v line) ∧ overrideBlock v line ≠ [] ∧
      (idle.after (history.take (j + 1))).waiting? = none := by
  refine ⟨⟨?_, ?_⟩, answers_eq_wholeAnswers_iff.trans forall_honest_iff, ?_⟩
  · intro h i j v line hmisled
    obtain ⟨hdraws, hnot⟩ := misled_iff.mp hmisled
    have hanswered := (answer_ne_nil_iff hdraws.observed).mpr ⟨i, v, hdraws⟩
    obtain ⟨k, u, hawaited, hitself⟩ := h j line hdraws.observed hanswered
    -- one text is awaited at a time
    obtain rfl := hdraws.awaited.unique hawaited
    obtain rfl : v = u := by simpa [hdraws.awaited.remembered] using hawaited.remembered
    exact hnot hitself
  · intro h j line hline hanswered
    obtain ⟨i, v, hdraws⟩ := (answer_ne_nil_iff hline).mp hanswered
    refine ⟨i, v, hdraws.awaited, ?_⟩
    by_contra hnot
    exact h i j v line (misled_iff.mpr ⟨hdraws, hnot⟩)
  · intro i j v line hmisled
    exact ⟨hmisled.draws.answer_eq, overrideBlock_ne_nil v line, hmisled.draws.waiting?_eq_none⟩

/-! ## The call of another layer -/

/-- The text of a label. -/
def labelText : TextVariable := ⟨⟨"Label".toList⟩, "circle".toList⟩

/-- A call that draws a layer whose name ends in that of the label. -/
def sublabelCall : Text := "        sublabel.draw(in: textRect)".toList

/-- The call that draws the label. -/
def labelCall : Text := "        label.draw(in: textRect)".toList

/-- The call of another layer is answered with the lines of the label, and then the label's own call
is not answered. -/
theorem call_of_other_layer_answered :
    ¬ DrawsItself labelText sublabelCall ∧ DrawsItself labelText labelCall ∧
    idle.answers [.remember labelText, .observe sublabelCall, .observe labelCall] =
      [[], overrideBlock labelText sublabelCall, []] ∧
    overrideBlock labelText sublabelCall ≠ [] ∧
    idle.wholeAnswers [.remember labelText, .observe sublabelCall, .observe labelCall] =
      [[], [], overrideBlock labelText labelCall] := by
  refine ⟨?_, ?_, by decide +kernel, overrideBlock_ne_nil _ _, by decide +kernel⟩
  · rw [drawsItself_iff]
    decide +kernel
  · rw [drawsItself_iff]
    decide +kernel

end LayerView.DrawWatch
