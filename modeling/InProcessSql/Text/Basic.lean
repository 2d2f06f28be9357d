/-!
# Texts by their characters

Texts are compared character by character. Names and keywords are compared after folding the twenty-six ASCII capitals;
characters outside ASCII are equal only to themselves. Blanks are the white space of Unicode. Other properties of
characters are given by the ranges of code points that have them, in ascending order.
-/

namespace InProcessSql.Text

/-! ## ASCII case -/

/-- The text with its ASCII capitals made small. -/
def foldCase (s : List Char) : List Char := s.map Char.toLower

/-- Whether two texts agree up to ASCII case. -/
def eqIgnoreCase (s t : List Char) : Bool := foldCase s == foldCase t

theorem eqIgnoreCase_iff {s t : List Char} : eqIgnoreCase s t = true ↔ foldCase s = foldCase t := by
  simp [eqIgnoreCase]

@[simp] theorem eqIgnoreCase_refl (s : List Char) : eqIgnoreCase s s = true := by
  simp [eqIgnoreCase]

@[simp] theorem foldCase_append (s t : List Char) : foldCase (s ++ t) = foldCase s ++ foldCase t := by
  simp [foldCase]

@[simp] theorem length_foldCase (s : List Char) : (foldCase s).length = s.length := by
  simp [foldCase]

/-! ## Blanks -/

/-- Whether a character is white space. -/
def isBlank (c : Char) : Bool :=
  let n := c.toNat
  (9 ≤ n && n ≤ 13) || n == 0x20 || n == 0x85 || n == 0xA0 || n == 0x1680 || (0x2000 ≤ n && n ≤ 0x200A)
    || n == 0x2028 || n == 0x2029 || n == 0x202F || n == 0x205F || n == 0x3000

def trimStart (s : List Char) : List Char := s.dropWhile isBlank

def trimEnd (s : List Char) : List Char := (s.reverse.dropWhile isBlank).reverse

def trim (s : List Char) : List Char := trimEnd (trimStart s)

def isAllBlank (s : List Char) : Bool := s.all isBlank

/-! ## Ranges -/

/-- Ranges of code points, each with its first and last member. -/
abbrev RangeTable := List (Nat × Nat)

def RangeTable.contains (table : RangeTable) (n : Nat) : Bool :=
  table.any fun (first, last) => decide (first ≤ n) && decide (n ≤ last)

end InProcessSql.Text
