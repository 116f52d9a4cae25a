/-!
# Texts

A text is its list of characters.  This module holds the operations on substrings that the rest of
the library is built from: looking for the first occurrence of a needle, replacing every
occurrence, and dropping given ends.
-/

namespace LayerView

/-- A piece of source code, a label or a name, as its characters in order. -/
abbrev Text := List Char

namespace Text

/-! ## Looking for a needle -/

/-- The text on either side of the first occurrence of `needle`.  The empty needle occurs at the
start of every text. -/
def breakOn? (needle : Text) : Text → Option (Text × Text)
  | [] => if needle.isPrefixOf [] then some ([], []) else none
  | c :: t =>
    if needle.isPrefixOf (c :: t) then some ([], (c :: t).drop needle.length)
    else (breakOn? needle t).map fun (before, after) => (c :: before, after)

/-- Whether `needle` occurs in a text. -/
def contains (needle t : Text) : Bool := (breakOn? needle t).isSome

/-- A text cut right before the first occurrence of `needle`, and whether there is one; without any
the whole text comes first. -/
def cutBefore (needle t : Text) : Text × Text × Bool :=
  match breakOn? needle t with
  | some (before, after) => (before, needle ++ after, true)
  | none => (t, [], false)

/-- The text before the first occurrence of `needle`, or all of it if there is none. -/
def upTo (needle t : Text) : Text := (cutBefore needle t).1

/-! ## Replacing -/

/-- Replace the occurrences of `needle`, taken from the left without overlap, after `skip` further
characters of the occurrence before. -/
def replaceFrom (needle new : Text) : Nat → Text → Text
  | _, [] => []
  | skip + 1, _ :: t => replaceFrom needle new skip t
  | 0, c :: t =>
    if needle.isPrefixOf (c :: t) then new ++ replaceFrom needle new (needle.length - 1) t
    else c :: replaceFrom needle new 0 t

/-- Replace every occurrence of `needle` by `new`, from the left and without overlap.  An empty
needle marks no place, so it leaves the text as it is. -/
def replaceAll (needle new t : Text) : Text :=
  if needle.isEmpty then t else replaceFrom needle new 0 t

/-! ## Ends of a text -/

/-- Drop one `c` from the end of a text, if it ends in one. -/
def dropFinal (c : Char) (t : Text) : Text :=
  if t.getLast? = some c then t.dropLast else t

/-- Drop every leading and trailing `c`. -/
def trimChar (c : Char) (t : Text) : Text :=
  ((t.dropWhile (· == c)).reverse.dropWhile (· == c)).reverse

/-! ## Laws -/

/-- A text is what stands before its first needle, the needle, and what stands after. -/
theorem eq_append_of_breakOn? {needle : Text} :
    ∀ {t before after : Text}, breakOn? needle t = some (before, after) →
      t = before ++ needle ++ after
  | [], before, after, h => by
    cases needle <;> simp_all [breakOn?]
  | c :: t, before, after, h => by
    simp only [breakOn?] at h
    split at h
    case isTrue hpre =>
      obtain ⟨rfl, rfl⟩ : [] = before ∧ (c :: t).drop needle.length = after := by
        simpa using h
      have hp := List.prefix_iff_eq_append.mp (List.isPrefixOf_iff_prefix.mp hpre)
      simpa using hp.symm
    case isFalse =>
      cases hrec : breakOn? needle t with
      | none => simp [hrec] at h
      | some parts =>
        obtain ⟨b, a⟩ := parts
        obtain ⟨rfl, rfl⟩ : c :: b = before ∧ a = after := by simpa [hrec] using h
        simp [eq_append_of_breakOn? hrec]

/-- The two parts of a cut text make up the text. -/
@[simp] theorem cutBefore_append (needle t : Text) :
    (cutBefore needle t).1 ++ (cutBefore needle t).2.1 = t := by
  unfold cutBefore
  split
  case h_1 before after h => simp [eq_append_of_breakOn? h]
  case h_2 => simp

end Text

end LayerView
