import InProcessSql.Number.Decimal
import InProcessSql.Sql.Segment
import InProcessSql.Text.Basic

/-!
# Numbering placeholders

The executor knows parameters by number only. `rewrite` replaces each placeholder `@name` of a command
text by `$k`, where `k` is the position of the name in the list of parameter names, counted from one.
Names are compared up to ASCII case and may be given with the `@` in front. A placeholder that no name
fits stays as it is, and so does everything outside placeholders.
-/

namespace InProcessSql.Sql

open InProcessSql.Text InProcessSql.Number

/-- A name without one leading `@`. -/
def bareName : List Char → List Char
  | '@' :: name => name
  | name => name

/-- Whether a parameter called `name` is meant by the identifier `ident`. -/
def nameFits (ident : List Char) (name : String) : Bool := eqIgnoreCase (bareName name.toList) ident

/-- The position, from zero, of the first name that the identifier means. -/
def positionOf? (names : List String) (ident : List Char) : Option Nat :=
  names.findIdx? (nameFits ident)

/-- The positional parameter of the given position, counted from zero. -/
def positional (position : Nat) : List Char := '$' :: digits (position + 1)

/-- The characters that a segment leaves in the rewritten text. -/
def Segment.rewrite (names : List String) : Segment → List Char
  | .verbatim text => text
  | .placeholder name =>
    match positionOf? names name with
    | some k => positional k
    | none => '@' :: name

/-- The characters of the rewritten text. -/
def rewriteChars (names : List String) (cs : List Char) : List Char :=
  (segments cs).flatMap (Segment.rewrite names)

/-- The command text with its placeholders numbered by their position in `names`. -/
def rewrite (names : List String) (sql : String) : String :=
  String.ofList (rewriteChars names sql.toList)

@[simp] theorem bareName_nil : bareName [] = [] := rfl

/-- A name that starts otherwise is its own bare name. -/
theorem bareName_of_ne {c : Char} {cs : List Char} (h : c ≠ '@') : bareName (c :: cs) = c :: cs := by
  unfold bareName
  split <;> simp_all

/-- Without names nothing is a parameter, and the text stays as it is. -/
theorem rewriteChars_nil (cs : List Char) : rewriteChars [] cs = cs := by
  have h : ∀ s : Segment, Segment.rewrite [] s = s.text := by
    intro s
    cases s <;> simp [Segment.rewrite, Segment.text, positionOf?]
  simp only [rewriteChars, funext h]
  exact flatten_segments cs

end InProcessSql.Sql
