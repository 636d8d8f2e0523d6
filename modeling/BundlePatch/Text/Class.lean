import BundlePatch.Text.Alphanumeric

/-!
# Text/Class — texts, and the classes of characters that are told apart in them

A `Text` is a list of characters, so an offset counts code points.  Two classes matter to a reader
of minified code: the characters of a **name** (`isIdentifier`) and the **blanks** between tokens
(`isBlank`).  A text is cut into pieces at a character, and the pieces make up the text again
(`intercalate_pieces`).
-/

namespace BundlePatch

/-- A sequence of characters, counted in code points. -/
abbrev Text := List Char

/-- A character of a **name**: a letter or numeral of any script, `_` or `$`. -/
def isIdentifier (c : Char) : Bool :=
  c == '$' || c == '_' || isAlphanumeric c

/-- A **blank**: white space of any script, the four information separators and the next-line
control among it; the zero-width characters are none. -/
def isBlank (c : Char) : Bool :=
  let n := c.toNat
  (0x09 ≤ n && n ≤ 0x0D) || (0x1C ≤ n && n ≤ 0x20) || n == 0x85 || n == 0xA0 || n == 0x1680 ||
    (0x2000 ≤ n && n ≤ 0x200A) || n == 0x2028 || n == 0x2029 || n == 0x202F || n == 0x205F ||
    n == 0x3000

theorem isBlank_of_isWhitespace {c : Char} (h : c.isWhitespace = true) : isBlank c = true := by
  simp only [Char.isWhitespace, Bool.or_eq_true, decide_eq_true_eq] at h
  rcases h with ((rfl | rfl) | rfl) | rfl <;> decide

namespace Text

/-- The text without the blanks at its two ends. -/
def trim (s : Text) : Text :=
  ((s.dropWhile isBlank).reverse.dropWhile isBlank).reverse

/-- The **pieces** of a text between its characters `c`: one more than `c` occurs. -/
def pieces (c : Char) : Text → List Text
  | [] => [[]]
  | d :: s =>
    if d = c then [] :: pieces c s
    else
      match pieces c s with
      | [] => [[d]]
      | piece :: rest => (d :: piece) :: rest

theorem pieces_ne_nil (c : Char) (s : Text) : pieces c s ≠ [] := by
  cases s with
  | nil => simp [pieces]
  | cons d s =>
    simp only [pieces]
    split
    · simp
    · split <;> simp

/-- **The pieces, joined again**, are the text. -/
theorem intercalate_pieces (c : Char) (s : Text) : [c].intercalate (pieces c s) = s := by
  induction s with
  | nil => rfl
  | cons d s ih =>
    obtain ⟨piece, rest, h⟩ := List.exists_cons_of_ne_nil (pieces_ne_nil c s)
    rw [h] at ih
    by_cases hd : d = c
    · simp only [pieces, hd, if_true, h, List.intercalate, List.intersperse, List.flatten_cons,
        List.nil_append] at ih ⊢
      rw [ih]
      rfl
    · cases rest <;>
        simp_all [pieces, List.intercalate, List.intersperse]

end Text

end BundlePatch
