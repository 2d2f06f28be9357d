import Mathlib.Data.List.Basic
import InProcessSql.Proofs.Sql.LexicalItems
import InProcessSql.Proofs.Sql.Rereading

/-!
# Rewriting changes whole placeholders only

Whatever a text is, well-formed or not, it falls into stretches with placeholders between them, and its
rewritten form into the same stretches with numbers between them. Each of these placeholders stands whole:
its identifier neither follows an identifier character nor is followed by one. A placeholder inside a longer
identifier is therefore never numbered.

A `Numbering` is a numbered placeholder with the stretch behind it. `Placed` says of the numberings of a text
that each one stands whole and has the number of the first name that means its identifier.
-/

namespace InProcessSql.Sql

open InProcessSql.Number

/-! ## Numbered placeholders -/

/-- A placeholder that is numbered, and the text up to the next one. -/
structure Numbering where
  ident : List Char
  number : Nat
  /-- The text up to the next numbered placeholder. -/
  stretch : List Char
  deriving DecidableEq, Repr, Inhabited

namespace Numbering

def source (n : Numbering) : List Char := '@' :: (n.ident ++ n.stretch)

def target (n : Numbering) : List Char := '$' :: ((toString n.number).toList ++ n.stretch)

end Numbering

/-- The placeholder of `ident` stands whole between the text `before`, which is given last character first,
and the text `after`. -/
structure IsWhole (before ident after : List Char) : Prop where
  isIdentifier : IsIdentifier ident
  /-- The at sign does not follow an identifier character. -/
  free : before.head?.any isIdentChar = false
  /-- The identifier is not followed by an identifier character. -/
  ended : after.head?.any isIdentChar = false

/-- The number, counted from one, of the first name that means the identifier. -/
def IsFirstNumber (names : List String) (ident : List Char) (number : Nat) : Prop :=
  ∃ k, ∃ hk : k < names.length, number = k + 1 ∧ Means names[k] ident ∧
    ∀ name ∈ names.take k, ¬Means name ident

/-- The numberings stand whole, one after the other, behind the text `before`, which is given last character
first, and each has its number from the names. -/
def Placed (names : List String) : List Char → List Numbering → Prop
  | _, [] => True
  | before, n :: ns =>
    IsWhole before n.ident (n.stretch ++ ns.flatMap Numbering.source) ∧
      IsFirstNumber names n.ident n.number ∧ Placed names (n.source.reverse ++ before) ns

/-- A placeholder that stands whole has all the identifier characters behind its at sign. -/
theorem IsWhole.takeWhile_eq {before ident after : List Char} (h : IsWhole before ident after) :
    (ident ++ after).takeWhile isIdentChar = ident :=
  takeWhile_append_of_head (fun _ hc => h.isIdentifier.isIdentChar_of_mem hc) h.ended

/-- The position that is found for an identifier is that of the first name that means it. -/
theorem isFirstNumber_of_positionOf? {names : List String} {ident : List Char} {k : Nat}
    (h : positionOf? names ident = some k) : IsFirstNumber names ident (k + 1) := by
  obtain ⟨hk, hfits, hfirst⟩ := List.findIdx?_eq_some_iff_getElem.1 h
  refine ⟨k, hk, rfl, nameFits_iff.1 hfits, fun name hname hmeans => ?_⟩
  obtain ⟨j, hj, rfl⟩ := List.mem_take_iff_getElem.1 hname
  exact hfirst j (by omega) (nameFits_iff.2 hmeans)

namespace Placed

variable {names : List String} {before : List Char}

/-- Every numbering stands whole in the text, and has its number from the names. -/
theorem of_append {earlier later : List Numbering} {n : Numbering}
    (h : Placed names before (earlier ++ n :: later)) :
    IsWhole ((earlier.flatMap Numbering.source).reverse ++ before) n.ident
        (n.stretch ++ later.flatMap Numbering.source) ∧
      IsFirstNumber names n.ident n.number := by
  induction earlier generalizing before with
  | nil => exact ⟨h.1, h.2.1⟩
  | cons m earlier ih =>
    have hrest := ih h.2.2
    rwa [← List.append_assoc, ← List.reverse_append, ← List.flatMap_cons] at hrest

end Placed

/-! ## The numberings of a text -/

/-- A text falls into numberings behind a first stretch, and its rewritten form is made of the same ones. -/
theorem exists_placed (names : List String) (before cs : List Char) :
    ∃ start numberings, cs = start ++ numberings.flatMap Numbering.source ∧
      rewriteAfter names before cs = start ++ numberings.flatMap Numbering.target ∧
      Placed names (start.reverse ++ before) numberings := by
  fun_induction segmentsAfter before cs with
  | case1 before => exact ⟨[], [], rfl, rewriteAfter_nil names before, trivial⟩
  | case2 before c cs next ih =>
    obtain ⟨start, numberings, hsource, htarget, hplaced⟩ := ih
    have hfirst := readFirst_nextSegment before c cs
    have htext : next.1.text ++ next.2 = c :: cs := nextSegment_append before c cs
    rw [← htext, rewriteAfter_of_readFirst hfirst, htarget]
    rcases Segment.rewrite_cases names next.1 with hkept | ⟨ident, k, hs, hp, hnumber⟩
    · refine ⟨next.1.text ++ start, numberings, ?_, ?_, ?_⟩
      · rw [hsource, List.append_assoc]
      · rw [hkept, List.append_assoc]
      · rwa [List.reverse_append, List.append_assoc]
    · -- The stretch behind a numbered placeholder is the first one of the rest.
      have hnext : nextSegment before c cs = (.placeholder ident, next.2) := by rw [← hs]
      obtain ⟨hident, hfree, hended⟩ := isIdentifier_of_nextSegment hnext
      have hdigits : digits (k + 1) = (toString (k + 1)).toList := by simp [digits, Nat.repr]
      refine ⟨[], ⟨ident, k + 1, start⟩ :: numberings, ?_, ?_, ?_, isFirstNumber_of_positionOf? hp, ?_⟩
      · simp only [hs, hsource, Segment.text, List.flatMap_cons, Numbering.source]
        simp
      · show next.1.rewrite names ++ _ = _
        simp only [hnumber, positional, hdigits, List.flatMap_cons, Numbering.target]
        simp
      · exact ⟨hident, hfree, hsource ▸ hended⟩
      · rw [hs] at hplaced
        simpa [Segment.text, Numbering.source] using hplaced

/-- A text and its rewritten form fall into the same stretches, and where the text has a placeholder between
two of them the rewritten text has a number. Each of these placeholders stands whole, so that none is taken
out of a longer identifier, and has the number of the first name that means its identifier. If no name means
the identifier of a placeholder that stands whole, the text is kept. -/
theorem exists_numberings (names : List String) (sql : String) :
    (∃ start numberings, sql.toList = start ++ numberings.flatMap Numbering.source ∧
        (rewrite names sql).toList = start ++ numberings.flatMap Numbering.target ∧
        Placed names start.reverse numberings ∧
        ∀ earlier n later, numberings = earlier ++ n :: later → ∀ ident c after,
          n.source ++ later.flatMap Numbering.source = '@' :: (ident ++ c :: after) →
            isIdentChar c = true → n.ident ≠ ident) ∧
      ((∀ before ident after, sql.toList = before ++ '@' :: (ident ++ after) →
          IsWhole before.reverse ident after → ∀ name ∈ names, ¬Means name ident) →
        rewrite names sql = sql) := by
  obtain ⟨start, numberings, hsource, htarget, hplaced⟩ := exists_placed names [] sql.toList
  have htarget' : (rewrite names sql).toList = start ++ numberings.flatMap Numbering.target := by
    rw [rewrite, String.toList_ofList, ← htarget]
    rfl
  rw [List.append_nil] at hplaced
  refine ⟨⟨start, numberings, hsource, htarget', hplaced, ?_⟩, fun hnone => ?_⟩
  · -- A longer identifier would go on behind the placeholder, where no identifier character stands.
    rintro earlier n later rfl ident c after hread hc rfl
    have hwhole := (Placed.of_append hplaced).1
    have hafter : n.stretch ++ later.flatMap Numbering.source = c :: after := by
      simpa [Numbering.source] using hread
    have hended := hwhole.ended
    rw [hafter] at hended
    simp [hc] at hended
  · cases numberings with
    | nil =>
      apply String.toList_injective
      rw [htarget', hsource]
      rfl
    | cons n later =>
      obtain ⟨hwhole, ⟨k, hk, -, hmeans, -⟩, -⟩ := hplaced
      have htext : sql.toList
          = start ++ '@' :: (n.ident ++ (n.stretch ++ later.flatMap Numbering.source)) := by
        simpa [Numbering.source] using hsource
      exact absurd hmeans (hnone start n.ident _ htext hwhole names[k] (List.getElem_mem hk))

/-- A name is not found at the front of a longer identifier. -/
theorem rewrite_longer_identifier :
    (∀ before ident after, "select @id2".toList = before ++ '@' :: (ident ++ after) →
        IsWhole before.reverse ident after → ∀ name ∈ ["id"], ¬Means name ident) ∧
      rewrite ["id"] "select @id2" = "select @id2" := by
  have hnone : ∀ before ident after, "select @id2".toList = before ++ '@' :: (ident ++ after) →
      IsWhole before.reverse ident after → ∀ name ∈ ["id"], ¬Means name ident := by
    intro before ident after htext hwhole name hname hmeans
    obtain rfl : name = "id" := List.mem_singleton.1 hname
    have hsplit : "select ".toList ++ '@' :: "id2".toList = before ++ '@' :: (ident ++ after) := htext
    rw [List.append_cons_inj_of_notMem (by decide) (by decide)] at hsplit
    have hident := hwhole.takeWhile_eq
    rw [← hsplit.2.2] at hident
    rw [← hident] at hmeans
    exact absurd (congrArg List.length hmeans) (by decide)
  exact ⟨hnone, (exists_numberings ["id"] "select @id2").2 hnone⟩

end InProcessSql.Sql
