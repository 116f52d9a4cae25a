import LayerView.DrawWatch
import LayerView.Proofs.Search

/-!
# Histories of a watch

A watch is told of texts to remember and is shown lines.  What it answers to a line follows from the
whole history before it, but only one step of that history matters: the latest text that was
remembered, if no line since then has drawn it.  The invariant that carries this over a run says which
step the watch waits for.  It has three consequences for every history: a remembered text is answered
at most once, two answers have a text remembered between them, and a text that another one has replaced
is without any effect on what follows.

Main statements:
- `waiting?_step`, `exists_awaited_succ`: what one step does to the watch, and to what is awaited
- `waiting?_after_take`: the watch waits for what is awaited
- `answers_once_per_text`: the answers of a whole history
-/

namespace LayerView.DrawWatch

open LayerView.Text

/-! ## Runs -/

/-- What can happen to a watch. -/
inductive Step where
  | remember (v : TextVariable)
  | observe (line : Text)
deriving DecidableEq, Repr

/-- One step of a watch: the lines that it answers with, and the watch after it. -/
def step (w : DrawWatch) : Step → List Text × DrawWatch
  | .remember v => ([], w.remember v)
  | .observe line => w.observe line

/-- The watch after a history. -/
def after (w : DrawWatch) (history : List Step) : DrawWatch :=
  history.foldl (fun w s => (w.step s).2) w

/-- What a watch answers to each step of a history. -/
def answers (w : DrawWatch) : List Step → List (List Text)
  | [] => []
  | s :: rest => (w.step s).1 :: answers (w.step s).2 rest

private theorem after_cons (w : DrawWatch) (s : Step) (history : List Step) :
    w.after (s :: history) = (w.step s).2.after history := rfl

private theorem after_concat (w : DrawWatch) (history : List Step) (s : Step) :
    w.after (history ++ [s]) = ((w.after history).step s).2 := by
  simp [after]

theorem length_answers (w : DrawWatch) (history : List Step) :
    (w.answers history).length = history.length := by
  induction history generalizing w with
  | nil => rfl
  | cons s rest ih => simp [answers, ih]

/-- The answer to a step is that of the watch after the steps before it. -/
theorem getElem?_answers (w : DrawWatch) (history : List Step) (j : Nat) :
    (w.answers history)[j]? =
      history[j]?.map fun s => ((w.after (history.take j)).step s).1 := by
  induction history generalizing w j with
  | nil => simp [answers]
  -- the first step changes the watch that the others start from
  | cons s rest ih =>
    cases j with
    | zero => simp [answers, after]
    | succ j => simp [answers, ih, after_cons]

/-- The answers from a step on are those of the watch at that step. -/
theorem drop_answers (w : DrawWatch) (history : List Step) (j : Nat) :
    (w.answers history).drop j = (w.after (history.take j)).answers (history.drop j) := by
  induction history generalizing w j with
  | nil => simp [answers]
  | cons s rest ih =>
    cases j with
    | zero => simp [after]
    | succ j => simp [answers, ih, after_cons]

/-! ## One step -/

/-- A watch answers a line exactly when the line draws the text that it waits for. -/
theorem observe_ne_nil_iff {w : DrawWatch} {line : Text} :
    (w.observe line).1 ≠ [] ↔ ∃ v, w.waiting? = some v ∧ callOf v <:+: line := by
  unfold observe
  cases hw : w.waiting? with
  | none => simp
  | some v =>
    by_cases hcall : contains (callOf v) line = true
    · -- whatever rectangle the call has, the other four lines are there
      simp [hcall, overrideBlock, contains_iff.mp hcall]
    · simp [hcall, mt contains_iff.mpr hcall]

theorem observe_of_waiting {w : DrawWatch} {line : Text} {v : TextVariable}
    (hw : w.waiting? = some v) (hcall : callOf v <:+: line) :
    (w.observe line).1 = overrideBlock v line := by
  simp [observe, hw, contains_iff.mpr hcall]

/-- What a watch waits for after a step: the text of the step, or the same as before if the line does
not draw it. -/
theorem waiting?_step {w : DrawWatch} {s : Step} {v : TextVariable} :
    (w.step s).2.waiting? = some v ↔
      s = .remember v ∨ ∃ line, s = .observe line ∧ w.waiting? = some v ∧ ¬ callOf v <:+: line := by
  cases s with
  | remember u => simp [step, remember]
  | observe line =>
    cases hw : w.waiting? with
    | none => simp [step, observe, hw]
    | some u =>
      by_cases hcall : contains (callOf u) line = true
      · -- the wait is over
        have hdrawn : u = v → callOf v <:+: line := by
          rintro rfl
          exact contains_iff.mp hcall
        simpa [step, observe, hw, hcall, idle] using hdrawn
      · have hundrawn : u = v → ¬ callOf v <:+: line := by
          rintro rfl
          exact mt contains_iff.mpr hcall
        simpa [step, observe, hw, hcall] using hundrawn

/-! ## What is awaited -/

/-- The text of step `i` is awaited at step `j`: it is the latest one that was remembered, and no
line since then draws it. -/
structure Awaited (history : List Step) (i j : Nat) (v : TextVariable) : Prop where
  lt : i < j
  remembered : history[i]? = some (.remember v)
  latest : ∀ k, i < k → k < j → ∀ u, history[k]? ≠ some (.remember u)
  undrawn : ∀ k, i < k → k < j → ∀ line, history[k]? = some (.observe line) →
    ¬ callOf v <:+: line

/-- Of two awaited texts neither was remembered after the other. -/
theorem Awaited.unique {history : List Step} {i i' j : Nat} {v v' : TextVariable}
    (h : Awaited history i j v) (h' : Awaited history i' j v') : i = i' := by
  -- the later of two would have replaced the earlier
  rcases Nat.lt_trichotomy i i' with hlt | heq | hlt
  · exact absurd h'.remembered (h.latest i' hlt h'.lt v')
  · exact heq
  · exact absurd h.remembered (h'.latest i hlt h.lt v)

/-- What is awaited after a step, told as for the watch. -/
theorem exists_awaited_succ {history : List Step} {j : Nat} {s : Step}
    (hs : history[j]? = some s) {v : TextVariable} :
    (∃ i, Awaited history i (j + 1) v) ↔
      s = .remember v ∨
        ∃ line, s = .observe line ∧ (∃ i, Awaited history i j v) ∧ ¬ callOf v <:+: line := by
  constructor
  · rintro ⟨i, h⟩
    rcases Nat.lt_or_eq_of_le (Nat.le_of_lt_succ h.lt) with hlt | rfl
    · -- the text was awaited before the step already, so the step is a line that does not draw it
      cases s with
      | remember u => exact absurd hs (h.latest j hlt j.lt_succ_self u)
      | observe line =>
        refine Or.inr ⟨line, rfl, ⟨i, hlt, h.remembered, ?_, ?_⟩, ?_⟩
        · intro k hik hkj
          exact h.latest k hik (Nat.lt_succ_of_lt hkj)
        · intro k hik hkj
          exact h.undrawn k hik (Nat.lt_succ_of_lt hkj)
        · exact h.undrawn j hlt j.lt_succ_self line hs
    · exact Or.inl (Option.some.inj (hs.symm.trans h.remembered))
  · rintro (rfl | ⟨line, rfl, ⟨i, h⟩, hcall⟩)
    · -- nothing lies between the step and what follows it
      exact ⟨j, j.lt_succ_self, hs, by omega, by omega⟩
    · refine ⟨i, Nat.lt_succ_of_lt h.lt, h.remembered, ?_, ?_⟩
      · intro k hik hk u
        rcases Nat.lt_or_eq_of_le (Nat.le_of_lt_succ hk) with hkj | rfl
        · exact h.latest k hik hkj u
        · simp [hs]
      · intro k hik hk l hl
        rcases Nat.lt_or_eq_of_le (Nat.le_of_lt_succ hk) with hkj | rfl
        · exact h.undrawn k hik hkj l hl
        · obtain rfl : line = l := by simpa [hs] using hl
          exact hcall

/-- A watch waits for the text that is awaited, and for no other. -/
theorem waiting?_after_take {history : List Step} {j : Nat} (hj : j ≤ history.length)
    {v : TextVariable} :
    (idle.after (history.take j)).waiting? = some v ↔ ∃ i, Awaited history i j v := by
  -- by induction on the steps taken, since a step changes both sides in the same way
  induction j generalizing v with
  | zero =>
    constructor
    · intro h
      simp [after, idle] at h
    · rintro ⟨i, h⟩
      exact absurd h.lt (Nat.not_lt_zero i)
  | succ j ih =>
    have hs : history[j]? = some (history[j]) := List.getElem?_eq_getElem hj
    rw [List.take_succ_eq_append_getElem hj, after_concat, waiting?_step, exists_awaited_succ hs]
    simp only [ih (Nat.le_of_lt hj)]

/-! ## Answers of a history -/

/-- Step `j` shows the line that draws the text of step `i`. -/
structure Draws (history : List Step) (i j : Nat) (v : TextVariable) (line : Text) : Prop where
  awaited : Awaited history i j v
  observed : history[j]? = some (.observe line)
  calls : callOf v <:+: line

theorem length_le_of_observed {history : List Step} {j : Nat} {s : Step}
    (h : history[j]? = some s) : j ≤ history.length :=
  Nat.le_of_lt (List.getElem?_eq_some_iff.mp h).1

/-- A line is answered exactly when it draws the text that is awaited. -/
theorem answer_ne_nil_iff {history : List Step} {j : Nat} {line : Text}
    (hline : history[j]? = some (.observe line)) :
    (idle.answers history)[j]? ≠ some [] ↔ ∃ i v, Draws history i j v line := by
  rw [getElem?_answers, hline, Option.map_some, ne_eq, Option.some.injEq]
  show ((idle.after (history.take j)).observe line).1 ≠ [] ↔ _
  -- the watch at the step waits for what is awaited there
  rw [observe_ne_nil_iff]
  simp only [waiting?_after_take (length_le_of_observed hline)]
  constructor
  · rintro ⟨v, ⟨i, hawaited⟩, hcalls⟩
    exact ⟨i, v, hawaited, hline, hcalls⟩
  · rintro ⟨i, v, h⟩
    exact ⟨v, ⟨i, h.awaited⟩, h.calls⟩

/-- The line that draws a text is answered with the lines for it. -/
theorem Draws.answer_eq {history : List Step} {i j : Nat} {v : TextVariable} {line : Text}
    (h : Draws history i j v line) :
    (idle.answers history)[j]? = some (overrideBlock v line) := by
  have hwaiting : (idle.after (history.take j)).waiting? = some v :=
    (waiting?_after_take (length_le_of_observed h.observed)).mpr ⟨i, h.awaited⟩
  rw [getElem?_answers, h.observed, Option.map_some]
  exact congrArg some (observe_of_waiting hwaiting h.calls)

/-- Only a line that draws a text is answered. -/
theorem exists_draws_of_answer {history : List Step} {j : Nat} {a : List Text}
    (ha : (idle.answers history)[j]? = some a) (hne : a ≠ []) :
    ∃ i v line, Draws history i j v line := by
  cases hs : history[j]? with
  | none =>
    rw [getElem?_answers, hs] at ha
    simp at ha
  | some s =>
    cases s with
    -- remembering a text is never answered
    | remember u =>
      rw [getElem?_answers, hs] at ha
      exact absurd (Option.some.inj ha).symm hne
    | observe line =>
      have hanswer : (idle.answers history)[j]? ≠ some [] := by simpa [ha] using hne
      obtain ⟨i, v, h⟩ := (answer_ne_nil_iff hs).mp hanswer
      exact ⟨i, v, line, h⟩

/-- The first line that draws a text ends the wait for it. -/
theorem Draws.eq_of_le {history : List Step} {i j k : Nat} {v u : TextVariable} {line next : Text}
    (h : Draws history i j v line) (h' : Draws history i k u next) (hle : j ≤ k) : j = k := by
  -- both lines draw the text of step `i`
  have hv : v = u := by simpa [h.awaited.remembered] using h'.awaited.remembered
  rcases Nat.lt_or_eq_of_le hle with hlt | heq
  · rw [hv] at h
    exact absurd h.calls (h'.awaited.undrawn j h.awaited.lt hlt line h.observed)
  · exact heq

/-- What the lines above a draw call are. -/
theorem overrideBlock_eq (v : TextVariable) (line : Text) :
    overrideBlock v line =
      (rectLiteral? line).toList.map (frameAssignment v.frameName) ++
      ["            // if explicit text for ".toList ++ v.layer.codeName ++
          " was defined, use that".toList,
        "            if let attributedText = ".toList ++ v.attributedName ++ " \x7b".toList,
        "                ".toList ++ v.layer.codeName ++ ".setAttributedString(attributedText)".toList,
        "            \x7d".toList] := by
  unfold overrideBlock
  cases rectLiteral? line <;> rfl

/-- The answers to a history: each goes to the line that draws the text remembered last, and each
text has one at most. -/
structure OncePerText (history : List Step) (answers : List (List Text)) : Prop where
  length_eq : answers.length = history.length
  remembered : ∀ (j : Nat) (v : TextVariable), history[j]? = some (.remember v) → answers[j]? = some []
  /-- A line is answered if and only if some text was remembered before, the line draws the latest
  of those, and no line in between does. -/
  answered_iff : ∀ (j : Nat) (line : Text), history[j]? = some (.observe line) →
    (answers[j]? ≠ some [] ↔ ∃ i v, Draws history i j v line)
  /-- The answer has the names of that text: five lines for a call with a rectangle, else four. -/
  answer_eq : ∀ i j v line, Draws history i j v line → ∃ answer, answers[j]? = some answer ∧
    answer = (rectLiteral? line).toList.map (frameAssignment v.frameName) ++
      ["            // if explicit text for ".toList ++ v.layer.codeName ++
          " was defined, use that".toList,
        "            if let attributedText = ".toList ++ v.attributedName ++ " \x7b".toList,
        "                ".toList ++ v.layer.codeName ++ ".setAttributedString(attributedText)".toList,
        "            \x7d".toList] ∧
    answer.length = if (rectLiteral? line).isSome then 5 else 4
  /-- A text that was remembered once is not answered twice. -/
  once : ∀ i j k v u line next, Draws history i j v line → Draws history i k u next → j = k
  /-- Between two answers a text is remembered. -/
  separated : ∀ (j k : Nat) (a b : List Text), j < k → answers[j]? = some a → a ≠ [] →
    answers[k]? = some b → b ≠ [] →
    ∃ (i : Nat) (v : TextVariable), j < i ∧ i < k ∧ history[i]? = some (.remember v)
  /-- A text that was replaced is not drawn later, and the answers from there on are those of a
  watch that never knew it. -/
  replaced : ∀ (r : Nat) (u : TextVariable), history[r]? = some (.remember u) →
    (∀ i j v line, i < r → r < j → ¬ Draws history i j v line) ∧
    answers.drop r = idle.answers (history.drop r)

/-- A watch forgets all that went before when it is told of a text. -/
private theorem answers_of_remember {w : DrawWatch} {history : List Step} {u : TextVariable}
    (h : history.head? = some (.remember u)) : w.answers history = idle.answers history := by
  cases history with
  | nil => rfl
  | cons s rest =>
    obtain rfl : s = .remember u := by simpa using h
    rfl

/-- Whatever a watch is told and shown, it answers once for each text at most, and then to the line
that draws the latest one. -/
theorem answers_once_per_text (history : List Step) :
    OncePerText history (idle.answers history) where
  length_eq := length_answers idle history
  remembered j v hv := by
    rw [getElem?_answers, hv]
    rfl
  answered_iff j line hline := answer_ne_nil_iff hline
  answer_eq i j v line h := by
    refine ⟨_, h.answer_eq, overrideBlock_eq v line, ?_⟩
    rw [overrideBlock_eq]
    cases rectLiteral? line <;> rfl
  once i j k v u line next h h' := by
    rcases Nat.le_total j k with hle | hle
    · exact h.eq_of_le h' hle
    · exact (h'.eq_of_le h hle).symm
  separated j k a b hjk ha hane hb hbne := by
    obtain ⟨i, v, line, h⟩ := exists_draws_of_answer ha hane
    obtain ⟨i', v', line', h'⟩ := exists_draws_of_answer hb hbne
    refine ⟨i', v', ?_, h'.awaited.lt, h'.awaited.remembered⟩
    -- a text remembered before the first answer would be the one that it was for
    by_contra hle
    have hi' : i' < j := by
      rcases Nat.lt_or_eq_of_le (Nat.le_of_not_lt hle) with hlt | rfl
      · exact hlt
      · simpa [h.observed] using h'.awaited.remembered
    have hawaited : Awaited history i' j v' :=
      ⟨hi', h'.awaited.remembered,
        fun m hm hmj => h'.awaited.latest m hm (Nat.lt_trans hmj hjk),
        fun m hm hmj => h'.awaited.undrawn m hm (Nat.lt_trans hmj hjk)⟩
    obtain rfl := h.awaited.unique hawaited
    exact absurd (h.eq_of_le h' (Nat.le_of_lt hjk)) (Nat.ne_of_lt hjk)
  replaced r u hr := by
    constructor
    · intro i j v line hir hrj h
      exact h.awaited.latest r hir hrj u hr
    · -- the watch at step `r` is told of a text, so it might as well be idle
      rw [drop_answers]
      apply answers_of_remember
      rw [List.head?_drop, hr]

end LayerView.DrawWatch
