import LayerView.Text.Basic

/-!
# Byte offsets

Places in a text are counted in bytes of its UTF-8 form.  Cutting a text at an offset succeeds only
on a character boundary, so a failed cut is how an offset past the end or inside a character shows.
-/

namespace LayerView.Text

/-- The number of bytes of a text in UTF-8. -/
def size : Text → Nat
  | [] => 0
  | c :: t => c.utf8Size + size t

/-- The text before and after a byte offset that is a character boundary. -/
def cut? : Nat → Text → Option (Text × Text)
  | 0, t => some ([], t)
  | _ + 1, [] => none
  | n + 1, c :: t =>
    -- Otherwise the offset lies inside this character.
    if c.utf8Size ≤ n + 1 then
      (cut? (n + 1 - c.utf8Size) t).map fun (before, after) => (c :: before, after)
    else none

/-- Put `new` between the text before `start` and the text from `stop` on.  The two offsets are
independent of each other: each has to be a character boundary. -/
def splice? (t : Text) (start stop : Nat) (new : Text) : Option Text := do
  let (before, _) ← cut? start t
  let (_, after) ← cut? stop t
  return before ++ new ++ after

@[simp] theorem size_nil : size [] = 0 := rfl

@[simp] theorem size_cons (c : Char) (t : Text) : size (c :: t) = c.utf8Size + size t := rfl

@[simp] theorem size_append (s t : Text) : size (s ++ t) = size s + size t := by
  induction s with
  | nil => simp
  | cons c s ih => simp [ih, Nat.add_assoc]

/-- Every character takes at least one byte. -/
theorem size_pos {t : Text} (h : t ≠ []) : 0 < size t := by
  cases t with
  | nil => exact absurd rfl h
  | cons c t => exact Nat.add_pos_left c.utf8Size_pos (size t)

/-- Cutting at the size of a leading part gives that part and the rest. -/
theorem cut?_append (s t : Text) : cut? (size s) (s ++ t) = some (s, t) := by
  induction s with
  | nil => simp [cut?]
  | cons c s ih =>
    have hpos : 0 < c.utf8Size := c.utf8Size_pos
    obtain ⟨n, hn⟩ : ∃ n, size (c :: s) = n + 1 := ⟨size (c :: s) - 1, by simp; omega⟩
    have hle : c.utf8Size ≤ n + 1 := by rw [← hn]; simp
    have hrest : n + 1 - c.utf8Size = size s := by rw [← hn]; simp
    rw [hn, List.cons_append, cut?]
    simp [hle, hrest, ih]

/-- Replacing a part of a text at its place. -/
theorem splice?_append (before mid after new : Text) :
    splice? (before ++ mid ++ after) (size before) (size before + size mid) new =
      some (before ++ new ++ after) := by
  have hstart : cut? (size before) (before ++ mid ++ after) = some (before, mid ++ after) := by
    rw [List.append_assoc]
    exact cut?_append before (mid ++ after)
  have hstop : cut? (size before + size mid) (before ++ mid ++ after) =
      some (before ++ mid, after) := by
    rw [← size_append]
    exact cut?_append (before ++ mid) after
  rw [splice?, hstart, hstop]
  rfl

end LayerView.Text
