import Mathlib
import InProcessSql.Command
import InProcessSql.Proofs.Sql.Reading
import InProcessSql.Text.Lowercase

/-!
# Which texts are queries

A query starts with `select`, whatever the letter case. `isQueryText_eq_lowercase` says that this may be
asked of the small letters of the text as well: no character outside ASCII has one of the letters of this
word as its small letter.

Numbering changes a text only from its first numbered placeholder on, where a dollar sign comes to stand in
place of an at sign. Neither is blank or a letter, so that a rewritten text is a query exactly if the text
is one, and has only blanks exactly if the text has.
-/

namespace InProcessSql

open InProcessSql.Sql InProcessSql.Text

/-! ## Small letters -/

namespace Text

/-- The letters of the word are ASCII, and none is the small letter of the Kelvin sign. -/
theorem letter_of_mem_queryWord {a : Char} (h : a ∈ queryWord) :
    a.toNat < 0x80 ∧ a.toNat ≠ 0 ∧ a.toNat ≠ 0x6B := by
  have hall : queryWord.all (fun a => decide (a.toNat < 0x80 ∧ a.toNat ≠ 0 ∧ a.toNat ≠ 0x6B)) = true := by
    decide
  exact of_decide_eq_true (List.all_eq_true.1 hall a h)

/-- The small letters of the table lie outside ASCII, apart from that of the Kelvin sign. -/
theorem small_of_mem_caseRuns : ∀ r ∈ caseRuns,
    0x80 ≤ (r.first : Int) + r.offset ∨ r.last = r.first ∧ (r.first : Int) + r.offset = 0x6B := by
  decide +kernel

/-- A character outside ASCII has no letter of the word as its small letter. -/
theorem lowercaseChar_not_mem_queryWord {c : Char} (h : 0x80 ≤ c.toNat) :
    lowercaseChar c ∉ queryWord := by
  rw [lowercaseChar, if_neg (by omega)]
  split
  · rename_i r hr
    have hruns := small_of_mem_caseRuns r (List.mem_of_find?_eq_some hr)
    have hcontains := List.find?_some hr
    simp only [CaseRun.contains, Bool.and_eq_true, decide_eq_true_eq] at hcontains
    obtain ⟨⟨hfirst, hlast⟩, -⟩ := hcontains
    have hvalue : (Char.ofNat (c.toNat + r.offset).toNat).toNat = (c.toNat + r.offset).toNat ∨
        (Char.ofNat (c.toNat + r.offset).toNat).toNat = 0 := by
      rw [Char.toNat_ofNat]
      split
      · exact .inl rfl
      · exact .inr rfl
    intro hmem
    have hletter := letter_of_mem_queryWord hmem
    omega
  · intro hmem
    have hletter := letter_of_mem_queryWord hmem
    omega

theorem toLower_of_ge {c : Char} (h : 0x80 ≤ c.toNat) : c.toLower = c := by
  unfold Char.toLower
  split
  · rename_i hupper
    have hle : c.val.toNat ≤ 90 := hupper.2
    simp only [Char.toNat] at h
    omega
  · rfl

/-- A character outside ASCII begins its small letters with no letter of the word. -/
theorem head?_lowercaseAfter {c : Char} (h : 0x80 ≤ c.toNat) (before cs : List Char) :
    ∃ d rest, lowercaseAfter before (c :: cs) = d :: rest ∧ d ∉ queryWord := by
  rw [lowercaseAfter]
  split
  · split
    · exact ⟨_, _, rfl, by decide⟩
    · exact ⟨_, _, rfl, by decide⟩
  · split
    · exact ⟨_, _, rfl, by decide⟩
    · exact ⟨_, _, rfl, lowercaseChar_not_mem_queryWord h⟩

/-- A text begins with letters of the word in its small letters if it does so up to ASCII case. -/
theorem isPrefixOf_lowercaseAfter {word : List Char} (hword : ∀ a ∈ word, a ∈ queryWord)
    (before cs : List Char) : word.isPrefixOf (lowercaseAfter before cs) = word.isPrefixOf (foldCase cs) := by
  induction word generalizing before cs with
  | nil => rfl
  | cons a word ih =>
    have hletter := hword a (List.mem_cons_self ..)
    have ih := ih fun b hb => hword b (List.mem_cons_of_mem a hb)
    cases cs with
    | nil => rfl
    | cons c cs =>
      rw [foldCase, List.map_cons, List.isPrefixOf_cons_cons]
      -- The two foldings differ only beyond ASCII, where neither yields a letter of the word.
      by_cases hascii : c.toNat < 0x80
      · have hsigma : (c == '\u03A3') = false := by
          rw [beq_eq_false_iff_ne]
          rintro rfl
          exact absurd hascii (by decide)
        have hdotted : (c == '\u0130') = false := by
          rw [beq_eq_false_iff_ne]
          rintro rfl
          exact absurd hascii (by decide)
        have hlower : lowercaseAfter before (c :: cs) = c.toLower :: lowercaseAfter (c :: before) cs := by
          simp only [lowercaseAfter, hsigma, hdotted, Bool.false_eq_true, if_false, lowercaseChar,
            if_pos hascii, List.singleton_append]
        rw [hlower, List.isPrefixOf_cons_cons, ih]
        rfl
      · obtain ⟨d, rest, hlower, hd⟩ := head?_lowercaseAfter (Nat.le_of_not_lt hascii) before cs
        have hne : (a == d) = false := by
          rw [beq_eq_false_iff_ne]
          rintro rfl
          exact hd hletter
        have hne' : (a == c.toLower) = false := by
          rw [toLower_of_ge (Nat.le_of_not_lt hascii), beq_eq_false_iff_ne]
          rintro rfl
          exact hascii (letter_of_mem_queryWord hletter).1
        rw [hlower, List.isPrefixOf_cons_cons, hne, hne']
        rfl

end Text

/-- A text is that of a query if its small letters, after blanks, start with `select`. -/
theorem isQueryText_eq_lowercase (text : List Char) :
    isQueryText text = queryWord.isPrefixOf (lowercase (trimStart text)) :=
  (isPrefixOf_lowercaseAfter (fun _ h => h) [] (trimStart text)).symm

/-! ## Rewritten texts -/

namespace Sql

/-- The first difference that numbering makes: a dollar sign in place of an at sign. -/
theorem rewriteChars_cases (names : List String) (cs : List Char) :
    rewriteChars names cs = cs ∨ ∃ front rest rest',
      cs = front ++ '@' :: rest ∧ rewriteChars names cs = front ++ '$' :: rest' := by
  have hsegments : ∀ ss : List Segment,
      ss.flatMap (Segment.rewrite names) = ss.flatMap Segment.text ∨ ∃ front rest rest',
        ss.flatMap Segment.text = front ++ '@' :: rest ∧
          ss.flatMap (Segment.rewrite names) = front ++ '$' :: rest' := by
    intro ss
    induction ss with
    | nil => exact .inl rfl
    | cons s ss ih =>
      simp only [List.flatMap_cons]
      -- Once a segment is numbered, what follows does not matter.
      rcases Segment.rewrite_cases names s with hs | ⟨name, k, rfl, -, hs⟩
      · rw [hs]
        rcases ih with heq | ⟨front, rest, rest', htext, hrewrite⟩
        · exact .inl (by rw [heq])
        · refine .inr ⟨s.text ++ front, rest, rest', ?_, ?_⟩
          · rw [htext, List.append_assoc]
          · rw [hrewrite, List.append_assoc]
      · rw [hs]
        exact .inr ⟨[], _, _, rfl, rfl⟩
  have h := hsegments (segments cs)
  rwa [flatten_segments] at h

end Sql

/-- A rewritten text has only blanks exactly if the text has. -/
theorem isAllBlank_rewriteChars (names : List String) (cs : List Char) :
    isAllBlank (rewriteChars names cs) = isAllBlank cs := by
  have hat : isBlank '@' = false := by decide
  have hdollar : isBlank '$' = false := by decide
  rcases rewriteChars_cases names cs with heq | ⟨front, rest, rest', hcs, hrewrite⟩
  · rw [heq]
  · rw [hrewrite, hcs]
    simp only [isAllBlank, List.all_append, List.all_cons, hat, hdollar, Bool.false_and, Bool.and_false]

/-- A word without the character ends before it. -/
theorem isPrefixOf_append_cons {word : List Char} {c : Char} (hc : c ∉ word) (front rest : List Char) :
    word.isPrefixOf (front ++ c :: rest) = word.isPrefixOf front := by
  induction word generalizing front with
  | nil => rfl
  | cons a word ih =>
    obtain ⟨hne, hword⟩ := not_or.1 (mt List.mem_cons.2 hc)
    cases front with
    | nil =>
      rw [List.nil_append, List.isPrefixOf_cons_cons, beq_eq_false_iff_ne.2 (Ne.symm hne)]
      rfl
    | cons b front =>
      rw [List.cons_append, List.isPrefixOf_cons_cons, List.isPrefixOf_cons_cons, ih hword]

/-- Whether a text is a query shows before a character that is neither blank nor a letter of the word. -/
theorem isQueryText_append_cons {c : Char} (hblank : isBlank c = false) (hc : c.toLower ∉ queryWord)
    (front rest : List Char) : isQueryText (front ++ c :: rest) = isQueryText front := by
  have htrim : trimStart (front ++ c :: rest) = trimStart front ++ c :: rest := by
    have hstop : (c :: rest).dropWhile isBlank = c :: rest := by
      rw [List.dropWhile_cons, hblank]
      rfl
    rw [trimStart, List.dropWhile_append, hstop, trimStart]
    split
    · rename_i hempty
      rw [List.isEmpty_iff.1 hempty, List.nil_append]
    · rfl
  rw [isQueryText, htrim, foldCase_append, isQueryText]
  exact isPrefixOf_append_cons hc _ _

/-- A rewritten text is a query exactly if the text is. -/
theorem isQueryText_rewriteChars (names : List String) (cs : List Char) :
    isQueryText (rewriteChars names cs) = isQueryText cs := by
  rcases rewriteChars_cases names cs with heq | ⟨front, rest, rest', hcs, hrewrite⟩
  · rw [heq]
  · rw [hrewrite, hcs, isQueryText_append_cons (by decide) (by decide),
      isQueryText_append_cons (by decide) (by decide)]

end InProcessSql
