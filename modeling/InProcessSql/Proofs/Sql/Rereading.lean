import InProcessSql.Parameter
import InProcessSql.Proofs.Sql.Reading

/-!
# Rewriting a rewritten text

A command is planned again when its parameters may have changed, and its text has been rewritten by then.
The second reading sees `$k` where the first one saw a placeholder. `segments_rewriteChars` says that the
two readings stay in step if the numbered placeholders stand apart from what `$k` could join with: a
dollar sign in front of it, or a single quote behind a placeholder called `e`. The second rewriting then
changes nothing.

`Renumbered` relates a text to its rewritten form character by character, and carries what a reading that
looks ahead can meet. `Alike` relates what stands before.
-/

namespace InProcessSql.Sql

open InProcessSql.Number

/-! ## Reading on with another rest

What a stretch consumed decides how it is read: another text may follow it. -/

section Resume

variable {cs body rest more : List Char}

/-- A quoted section is read as before if no quote comes to stand behind it. -/
theorem spanQuoted_resume {q : Char} {escapes : Bool} (h : spanQuoted q escapes cs = (body, rest))
    (hnil : rest = [] → more = []) (hq : more.head? = some q → rest.head? = some q) :
    spanQuoted q escapes (body ++ more) = (body, more) := by
  -- Only the quote that closes the section looks at what follows, to see that it is not doubled.
  fun_induction spanQuoted q escapes cs generalizing body rest with
  | case1 =>
    obtain ⟨rfl, rfl⟩ := Prod.mk.inj h
    rw [hnil rfl]
    rfl
  | case2 c =>
    obtain ⟨rfl, rfl⟩ := Prod.mk.inj h
    rw [hnil rfl]
    rfl
  | case3 c d cs hesc b r hspan ih =>
    obtain ⟨rfl, rfl⟩ := Prod.mk.inj h
    simp only [Bool.and_eq_true, beq_iff_eq] at hesc
    obtain ⟨rfl, rfl⟩ := hesc
    rw [List.cons_append, List.cons_append, spanQuoted_escaped, ih hspan hnil hq]
  | case4 c d cs hesc hc hd b r hspan ih =>
    obtain ⟨rfl, rfl⟩ := Prod.mk.inj h
    obtain rfl : c = q := by simpa using hc
    obtain rfl : d = c := by simpa using hd
    have hne : escapes = true → d ≠ '\\' := by simpa using hesc
    rw [List.cons_append, List.cons_append, spanQuoted_doubled hne, ih hspan hnil hq]
  | case5 c d cs hesc hc hd =>
    obtain ⟨rfl, rfl⟩ := Prod.mk.inj h
    obtain rfl : c = q := by simpa using hc
    have hne : escapes = true → c ≠ '\\' := by simpa using hesc
    have hmore : more.head? ≠ some c := fun hm => hd (by simpa using hq hm)
    exact spanQuoted_close hne hmore
  | case6 c d cs hesc hc b r hspan ih =>
    obtain ⟨rfl, rfl⟩ := Prod.mk.inj h
    have hne : escapes = true → c ≠ '\\' := by simpa using hesc
    rw [List.cons_append, spanQuoted_other (by simpa using hc) hne, ih hspan hnil hq]

/-- A line comment is read as before. -/
theorem spanLine_resume (h : spanLine cs = (body, rest)) (hnil : rest = [] → more = []) :
    spanLine (body ++ more) = (body, more) := by
  fun_induction spanLine cs generalizing body rest with
  | case1 =>
    obtain ⟨rfl, rfl⟩ := Prod.mk.inj h
    rw [hnil rfl]
    rfl
  | case2 c cs hc =>
    obtain ⟨rfl, rfl⟩ := Prod.mk.inj h
    simp [spanLine, hc]
  | case3 c cs hc b r hspan ih =>
    obtain ⟨rfl, rfl⟩ := Prod.mk.inj h
    simp [spanLine, hc, ih hspan hnil]

/-- What is taken off a text starts as the text does. -/
theorem head?_spanBlockComment_append (depth : Nat) (d : Char) (cs : List Char) :
    ((spanBlockComment depth (d :: cs)).1 ++ more).head? = some d := by
  have happ := spanBlockComment_append depth (d :: cs)
  cases hb : (spanBlockComment depth (d :: cs)).1 with
  | nil =>
    unfold spanBlockComment at hb
    split at hb <;> grind
  | cons e b =>
    rw [hb, List.cons_append] at happ
    simp [(List.cons.inj happ).1]

/-- A block comment is read as before. -/
theorem spanBlockComment_resume {depth : Nat} (h : spanBlockComment depth cs = (body, rest))
    (hnil : rest = [] → more = []) : spanBlockComment depth (body ++ more) = (body, more) := by
  fun_induction spanBlockComment depth cs generalizing body rest with
  | case1 =>
    obtain ⟨rfl, rfl⟩ := Prod.mk.inj h
    rw [hnil rfl]
    rfl
  | case2 =>
    obtain ⟨rfl, rfl⟩ := Prod.mk.inj h
    rw [hnil rfl]
    rfl
  | case3 depth c d cs ho b r hspan ih =>
    obtain ⟨rfl, rfl⟩ := Prod.mk.inj h
    simp only [Bool.and_eq_true, beq_iff_eq] at ho
    obtain ⟨rfl, rfl⟩ := ho
    rw [List.cons_append, List.cons_append, spanBlockComment_open, ih hspan hnil]
  | case4 c d cs ho hc =>
    obtain ⟨rfl, rfl⟩ := Prod.mk.inj h
    simp only [Bool.and_eq_true, beq_iff_eq] at hc
    obtain ⟨rfl, rfl⟩ := hc
    exact spanBlockComment_close
  | case5 c d cs ho hc depth b r hspan ih =>
    obtain ⟨rfl, rfl⟩ := Prod.mk.inj h
    simp only [Bool.and_eq_true, beq_iff_eq] at hc
    obtain ⟨rfl, rfl⟩ := hc
    rw [List.cons_append, List.cons_append, spanBlockComment_close_succ, ih hspan hnil]
  | case6 depth c d cs ho hc b r hspan ih =>
    obtain ⟨rfl, rfl⟩ := Prod.mk.inj h
    -- A character opens or closes a comment together with the next one, which is still in the comment.
    have hhead : (b ++ more).head? = some d := by
      have := @head?_spanBlockComment_append more depth d cs
      rwa [hspan] at this
    rw [List.cons_append, spanBlockComment_other, ih hspan hnil]
    · rw [hhead]; simpa using ho
    · rw [hhead]; simpa using hc

/-- What is read up to a delimiter holds the delimiter. -/
theorem length_le_of_spanThrough? {d : List Char} (h : spanThrough? d cs = some (body, rest)) :
    d.length ≤ body.length := by
  induction cs generalizing body with
  | nil =>
    simp only [spanThrough?] at h
    split at h <;> simp_all
  | cons c cs ih =>
    simp only [spanThrough?] at h
    split at h
    · obtain ⟨rfl, -⟩ := Prod.mk.inj (Option.some.inj h)
      exact Nat.le_refl _
    · obtain ⟨⟨b, r⟩, hspan, heq⟩ := Option.map_eq_some_iff.1 h
      obtain ⟨rfl, rfl⟩ := Prod.mk.inj heq
      exact Nat.le_succ_of_le (ih hspan)

/-- The text up to a delimiter is found as before. -/
theorem spanThrough?_resume {d : List Char} (hd : d ≠ []) (h : spanThrough? d cs = some (body, rest)) :
    spanThrough? d (body ++ more) = some (body, more) := by
  induction cs generalizing body with
  | nil => simp [spanThrough?, hd] at h
  | cons c cs ih =>
    by_cases hp : d <+: c :: cs
    · obtain ⟨t, ht⟩ := hp
      rw [← ht, spanThrough?_append_self hd] at h
      obtain ⟨rfl, rfl⟩ := Prod.mk.inj (Option.some.inj h)
      exact spanThrough?_append_self hd more
    · rw [spanThrough?_cons hp] at h
      obtain ⟨⟨b, r⟩, hspan, heq⟩ := Option.map_eq_some_iff.1 h
      obtain ⟨rfl, rfl⟩ := Prod.mk.inj heq
      -- A delimiter in front of the new text would lie in what was consumed.
      have hno : ¬d <+: c :: (b ++ more) := by
        intro hp'
        refine hp ?_
        have hlen := length_le_of_spanThrough? hspan
        have happ := spanThrough?_append hspan
        have hshort : d <+: c :: b := by
          refine List.prefix_of_prefix_length_le hp' ⟨more, rfl⟩ (by simp; omega)
        rw [← happ]
        exact hshort.trans ⟨r, rfl⟩
      rw [List.cons_append, spanThrough?_cons hno, ih hspan]
      rfl

end Resume

/-! ## The rewritten text beside the text -/

/-- `Renumbered last cs ws` says that `ws` is `cs` with some placeholders `@name` replaced by `$k`, where
the character `last` stands before both. No placeholder is replaced behind an identifier character or a
dollar sign. -/
inductive Renumbered : Option Char → List Char → List Char → Prop where
  | nil {last : Option Char} : Renumbered last [] []
  | keep {last : Option Char} {c : Char} {cs ws : List Char} :
      Renumbered (some c) cs ws → Renumbered last (c :: cs) (c :: ws)
  | number {last : Option Char} {name cs ws : List Char} (k : Nat) :
      last.any isWordChar = false → IsIdentifier name → Renumbered name.getLast? cs ws →
      Renumbered last ('@' :: (name ++ cs)) (positional k ++ ws)

namespace Renumbered

variable {last : Option Char} {cs ws : List Char}

theorem eq_nil (h : Renumbered last cs ws) (hcs : cs = []) : ws = [] := by
  subst hcs
  cases h
  rfl

/-- Both texts begin with the same character, or with the signs of a placeholder and of its number. -/
theorem head? (h : Renumbered last cs ws) :
    ws.head? = cs.head? ∨ cs.head? = some '@' ∧ ws.head? = some '$' := by
  cases h with
  | nil => exact .inl rfl
  | keep => exact .inl rfl
  | number => exact .inr ⟨rfl, rfl⟩

/-- A character other than the dollar sign stands in front of the rewritten text only if it stands in
front of the text. -/
theorem head?_of_ne (h : Renumbered last cs ws) {c : Char} (hc : c ≠ '$') (hws : ws.head? = some c) :
    cs.head? = some c := by
  rcases h.head? with heq | ⟨-, hdollar⟩
  · rwa [← heq]
  · rw [hdollar] at hws
    exact absurd (Option.some.inj hws).symm hc

/-- A class without the dollar sign is met in front of the rewritten text only if it is met in front of
the text. -/
theorem any_head? (h : Renumbered last cs ws) {p : Char → Bool} (hp : p '$' = false)
    (hcs : cs.head?.any p = false) : ws.head?.any p = false := by
  rcases h.head? with heq | ⟨-, hdollar⟩
  · rwa [heq]
  · rw [hdollar]; exact hp

/-- Inside a word both texts go on with the same character. -/
theorem head?_eq (h : Renumbered last cs ws) (hlast : last.any isWordChar = true) :
    ws.head? = cs.head? := by
  cases h with
  | nil => rfl
  | keep => rfl
  | number k hno => simp [hno] at hlast

/-- The same characters in front of both texts. -/
theorem append {text : List Char} {before : List Char}
    (h : Renumbered (text.reverse ++ before).head? cs ws) :
    Renumbered before.head? (text ++ cs) (text ++ ws) := by
  induction text generalizing before with
  | nil => exact h
  | cons c text ih =>
    have h' : Renumbered (text.reverse ++ c :: before).head? cs ws := by
      rwa [List.reverse_cons, List.append_assoc] at h
    exact .keep (ih h')

/-- Identifier characters and a dollar sign in front of the rewritten text stand in front of the text. -/
theorem tag_inv {tag body : List Char} (h : Renumbered last cs (tag ++ '$' :: body))
    (hlast : last.any isWordChar = true) (htag : ∀ c ∈ tag, isIdentChar c = true) :
    ∃ body', cs = tag ++ '$' :: body' ∧ Renumbered (some '$') body' body := by
  induction tag generalizing last cs with
  | nil =>
    cases h with
    | keep h => exact ⟨_, rfl, h⟩
    | number k hno => simp [hno] at hlast
  | cons c tag ih =>
    rw [List.cons_append] at h
    generalize hw : tag ++ '$' :: body = ws at h
    cases h with
    | keep h =>
      subst hw
      have hc : isWordChar c = true := by simp [isWordChar, htag c (by simp)]
      obtain ⟨body', rfl, hbody⟩ := ih h hc fun d hd => htag d (by simp [hd])
      exact ⟨body', rfl, hbody⟩
    | number k hno => simp [hno] at hlast

end Renumbered

/-- No delimiter begins at the number of a placeholder or inside it. -/
theorem not_delimiter_prefix_positional {tag : List Char} (htag : IsTag tag) (k : Nat) (ws : List Char) :
    ¬delimiter tag <+: positional k ++ ws := by
  obtain ⟨d, ds, hdigits, hd⟩ := digits_eq_cons (k + 1)
  rw [positional, hdigits, delimiter, List.cons_append, List.cons_prefix_cons]
  rintro ⟨-, hp⟩
  rcases htag with rfl | htag
  · obtain ⟨rfl, -⟩ := List.cons_prefix_cons.1 hp
    simp at hd
  · cases tag with
    | nil => exact htag.elim
    | cons c tag =>
      obtain ⟨rfl, -⟩ := List.cons_prefix_cons.1 hp
      simp [isDigit_of_isIdentStart htag.1] at hd

/-- A search that fails in the text fails in the rewritten text. -/
theorem Renumbered.spanThrough?_eq_none {last : Option Char} {cs ws tag : List Char}
    (h : Renumbered last cs ws) (htag : IsTag tag) (hcs : spanThrough? (delimiter tag) cs = none) :
    spanThrough? (delimiter tag) ws = none := by
  induction h with
  | nil => exact hcs
  | @keep last c cs ws h ih =>
    by_cases hp : delimiter tag <+: c :: cs
    · obtain ⟨t, ht⟩ := hp
      rw [← ht, spanThrough?_append_self (by simp [delimiter])] at hcs
      cases hcs
    · have hp' : ¬delimiter tag <+: c :: ws := by
        rintro ⟨t, ht⟩
        rw [delimiter, List.cons_append, List.append_assoc] at ht
        obtain ⟨rfl, rfl⟩ := List.cons.inj ht
        -- Neither the tag nor its dollar signs are part of a number, so that they stand in the text, too.
        obtain ⟨body, rfl, -⟩ := h.tag_inv rfl fun c hc => htag.isIdentChar_of_mem hc
        exact hp ⟨body, by simp [delimiter]⟩
      rw [spanThrough?_cons hp, Option.map_eq_none_iff] at hcs
      rw [spanThrough?_cons hp', ih hcs]
      rfl
  | @number last name cs ws k _ _ h ih =>
    have hrest : ∀ text : List Char, spanThrough? (delimiter tag) (text ++ cs) = none →
        spanThrough? (delimiter tag) cs = none := by
      intro text
      induction text with
      | nil => exact id
      | cons c text iht =>
        intro hnone
        refine iht ?_
        rw [List.cons_append, spanThrough?] at hnone
        split at hnone
        · cases hnone
        · exact Option.map_eq_none_iff.1 hnone
    have hws := ih (hrest ('@' :: name) hcs)
    -- No delimiter begins at the dollar sign of the number, and none at its digits.
    have hdigits : ∀ ds : List Char, (∀ d ∈ ds, d.isDigit = true) →
        spanThrough? (delimiter tag) (ds ++ ws) = none := by
      intro ds hds
      induction ds with
      | nil => exact hws
      | cons d ds ihd =>
        have hp : ¬delimiter tag <+: d :: (ds ++ ws) := by
          intro hp
          obtain ⟨rfl, -⟩ := List.cons_prefix_cons.1 hp
          exact absurd (hds '$' (by simp)) (by decide)
        rw [List.cons_append, spanThrough?_cons hp, ihd fun e he => hds e (by simp [he])]
        rfl
    have hp := not_delimiter_prefix_positional htag k ws
    rw [positional, List.cons_append] at hp ⊢
    rw [spanThrough?_cons hp, hdigits _ fun d hd => isDigit_of_mem_digits hd]
    rfl

/-! ## What belongs to a dollar sign -/

/-- The three ways a text can go on behind a dollar sign. -/
inductive DollarReading : List Char → List Char → List Char → Prop where
  | digits {ds rest : List Char} : ds ≠ [] → (∀ d ∈ ds, d.isDigit = true) →
      rest.head?.any Char.isDigit = false → DollarReading (ds ++ rest) ds rest
  | quote {tag cs quoted rest : List Char} : IsTag tag →
      spanThrough? (delimiter tag) cs = some (quoted, rest) →
      DollarReading (tag ++ '$' :: cs) (tag ++ '$' :: quoted) rest
  | bare {cs : List Char} : cs.head?.any Char.isDigit = false →
      (∀ tag body, IsTag tag → cs = tag ++ '$' :: body → spanThrough? (delimiter tag) body = none) →
      DollarReading cs [] cs

/-- What is read as a tag is one. -/
theorem isTag_dollarTag (cs : List Char) : IsTag (dollarTag cs) := by
  cases cs with
  | nil => exact .inl rfl
  | cons c cs =>
    simp only [dollarTag]
    split
    · rename_i hc
      exact .inr ⟨hc, List.all_eq_true.1 List.all_takeWhile⟩
    · exact .inl rfl

/-- A dollar sign that neither a digit nor a closed dollar quote follows stands alone. -/
theorem spanDollar_bare {cs : List Char} (hhead : cs.head?.any Char.isDigit = false)
    (hopen : ∀ tag body, IsTag tag → cs = tag ++ '$' :: body →
      spanThrough? (delimiter tag) body = none) : spanDollar cs = ([], cs) := by
  have hdigits : cs.takeWhile Char.isDigit = [] := @takeWhile_append_of_head Char.isDigit [] _ (by simp) hhead
  rw [spanDollar, hdigits]
  simp only [List.isEmpty_nil, if_true]
  split
  · rename_i body hdrop
    have htag := dollarTag_append cs
    rw [hdrop] at htag
    have hnone := hopen _ body (isTag_dollarTag cs) htag.symm
    rw [delimiter, ← List.cons_append] at hnone
    rw [hnone]
  · rfl

/-- What belongs to a dollar sign is read in one of the three ways. -/
theorem dollarReading_spanDollar (cs : List Char) :
    DollarReading cs (spanDollar cs).1 (spanDollar cs).2 := by
  -- Digits come first, then a quote that is closed; otherwise the sign stands alone.
  by_cases hhead : cs.head?.any Char.isDigit = true
  · have hsplit : cs.takeWhile Char.isDigit ++ cs.dropWhile Char.isDigit = cs :=
      List.takeWhile_append_dropWhile
    have hne : cs.takeWhile Char.isDigit ≠ [] := by
      cases cs with
      | nil => simp at hhead
      | cons c cs => simp_all
    have hrest : (cs.dropWhile Char.isDigit).head?.any Char.isDigit = false := any_head?_dropWhile _ cs
    have hread := DollarReading.digits hne (List.all_eq_true.1 List.all_takeWhile) hrest
    rw [hsplit] at hread
    have hspan := spanDollar_digits hne (List.all_eq_true.1 List.all_takeWhile) hrest
    rw [hsplit] at hspan
    rwa [hspan]
  · by_cases hquote : ∃ tag body quoted rest, IsTag tag ∧ cs = tag ++ '$' :: body ∧
        spanThrough? (delimiter tag) body = some (quoted, rest)
    · obtain ⟨tag, body, quoted, rest, htag, rfl, hspan⟩ := hquote
      rw [spanDollar_quoted htag hspan]
      exact .quote htag hspan
    · have hopen : ∀ tag body, IsTag tag → cs = tag ++ '$' :: body →
          spanThrough? (delimiter tag) body = none := by
        intro tag body htag hcs
        cases hspan : spanThrough? (delimiter tag) body with
        | none => rfl
        | some found => exact absurd ⟨tag, body, found.1, found.2, htag, hcs, hspan⟩ hquote
      rw [spanDollar_bare (by simpa using hhead) hopen]
      exact .bare (by simpa using hhead) hopen

/-- What belongs to a dollar sign in the text belongs to it in the rewritten text. -/
theorem spanDollar_resume {cs body rest more : List Char} {before : List Char}
    (h : spanDollar cs = (body, rest))
    (hmore : Renumbered (('$' :: body).reverse ++ before).head? rest more) :
    spanDollar (body ++ more) = (body, more) := by
  have hread := dollarReading_spanDollar cs
  rw [h] at hread
  cases hread with
  | digits hne hds hrest => exact spanDollar_digits hne hds (hmore.any_head? (by decide) hrest)
  | quote htag hspan =>
    have hthrough := @spanThrough?_resume _ _ _ more _ (by simp [delimiter]) hspan
    have hquoted := spanDollar_quoted htag hthrough
    rwa [← List.cons_append, ← List.append_assoc] at hquoted
  | bare hhead hopen =>
    refine spanDollar_bare (hmore.any_head? (by decide) hhead) fun tag body htag hbody => ?_
    rw [show more = tag ++ '$' :: body from hbody] at hmore
    obtain ⟨body', hcs, hbody'⟩ := hmore.tag_inv rfl fun c hc => htag.isIdentChar_of_mem hc
    exact hbody'.spanThrough?_eq_none htag (hopen tag body' htag hcs)

/-! ## One segment read again -/

/-- The last character of a text of a class is in the class. -/
theorem any_head?_reverse_append {p : Char → Bool} {text before : List Char} (hne : text ≠ [])
    (htext : ∀ c ∈ text, p c = true) : (text.reverse ++ before).head?.any p = true := by
  obtain ⟨c, ds, hrev⟩ := List.exists_cons_of_ne_nil (List.reverse_ne_nil_iff.2 hne)
  have hc : c ∈ text := by rw [← List.mem_reverse, hrev]; simp
  rw [hrev]
  exact htext c hc

/-- What a reading of `rest` can tell of the texts `before` and `before'` is the same. -/
structure Alike (before before' rest : List Char) : Prop where
  /-- An identifier character stands before both or before none. -/
  ident : before'.head?.any isIdentChar = before.head?.any isIdentChar
  /-- A quote opens an escape string after both or after none. -/
  escapes : rest.head? = some '\x27' → opensEscapes before' = opensEscapes before

/-- The same characters before both keep texts alike. -/
theorem Alike.keep {before before' cs text rest : List Char} (h : Alike before before' cs)
    (hne : text ≠ []) : Alike (text.reverse ++ before) (text.reverse ++ before') rest := by
  obtain ⟨c, ds, hrev⟩ := List.exists_cons_of_ne_nil (List.reverse_ne_nil_iff.2 hne)
  rw [hrev]
  refine ⟨rfl, fun _ => ?_⟩
  simp only [List.cons_append, opensEscapes]
  cases ds with
  | nil => rw [List.nil_append, List.nil_append, h.ident]
  | cons d ds => rfl

/-- The letter of an escape string is the whole identifier of a placeholder. -/
theorem opensEscapes_placeholder {name before : List Char} (hname : IsIdentifier name)
    (he : ¬(name = ['e'] ∨ name = ['E'])) : opensEscapes (('@' :: name).reverse ++ before) = false := by
  obtain ⟨c, ds, hrev⟩ : ∃ c ds, name.reverse = c :: ds := by
    refine List.exists_cons_of_ne_nil (List.reverse_ne_nil_iff.2 ?_)
    rintro rfl
    exact hname
  have heq : name = ds.reverse ++ [c] := by rw [← List.reverse_reverse name, hrev]; simp
  rw [List.reverse_cons, hrev]
  cases ds with
  | nil =>
    subst heq
    simp only [List.reverse_nil, List.nil_append, List.cons.injEq, and_true, not_or] at he
    simp [opensEscapes, he.1, he.2]
  | cons d ds =>
    have hd : isIdentChar d = true := hname.isIdentChar_of_mem (by simp [heq])
    simp [opensEscapes, hd]

/-- A placeholder and its number keep texts alike, unless the placeholder looks like the letter of an
escape string. -/
theorem Alike.number {before before' name rest : List Char} (hname : IsIdentifier name) (k : Nat)
    (hrest : name = ['e'] ∨ name = ['E'] → rest.head? ≠ some '\x27') :
    Alike (('@' :: name).reverse ++ before) ((positional k).reverse ++ before') rest := by
  obtain ⟨c, hlast, hc⟩ := hname.getLast?
  obtain ⟨d, ds, hdigits⟩ := List.exists_cons_of_ne_nil (List.reverse_ne_nil_iff.2 (digits_ne_nil (k + 1)))
  have hd : d.isDigit = true := isDigit_of_mem_digits (n := k + 1) (by
    rw [← List.mem_reverse, hdigits]; simp)
  have hnumber : (positional k).reverse ++ before' = d :: (ds ++ '$' :: before') := by
    simp [positional, hdigits]
  have hhead : (('@' :: name).reverse ++ before).head? = some c := by
    rw [List.reverse_cons, List.append_assoc, List.head?_append, List.head?_reverse, hlast]
    rfl
  refine ⟨?_, fun hquote => ?_⟩
  · rw [hnumber, hhead]
    simp [isIdentChar, hd] at hc ⊢
    simp [hc]
  · rw [opensEscapes_placeholder hname fun he => hrest he hquote, hnumber]
    have hE : d ≠ 'E' := by rintro rfl; simp at hd
    have he : d ≠ 'e' := by rintro rfl; simp at hd
    simp [opensEscapes, hE, he]

/-- A placeholder is read only as such. -/
theorem nextSegment_eq_placeholder {before cs name rest : List Char} {c : Char}
    (h : nextSegment before c cs = (.placeholder name, rest)) :
    c = '@' ∧ isPlaceholderAt before name = true ∧ name = cs.takeWhile isIdentChar ∧
      rest = cs.dropWhile isIdentChar := by
  by_cases hc : c = '@'
  · subst hc
    rw [nextSegment_at] at h
    obtain ⟨hs, rfl⟩ := Prod.mk.inj h
    split at hs
    · rename_i hplace
      obtain rfl := Segment.placeholder.inj hs
      exact ⟨rfl, hplace, rfl, rfl⟩
    · cases hs
  · exfalso
    simp only [nextSegment] at h
    repeat' split at h
    all_goals simp_all

/-- The identifier of a placeholder is one, and no identifier character stands around the placeholder. -/
theorem isIdentifier_of_nextSegment {before cs name rest : List Char} {c : Char}
    (h : nextSegment before c cs = (.placeholder name, rest)) :
    IsIdentifier name ∧ before.head?.any isIdentChar = false ∧ rest.head?.any isIdentChar = false := by
  obtain ⟨-, hplace, hname, hrest⟩ := nextSegment_eq_placeholder h
  simp only [isPlaceholderAt, Bool.and_eq_true, Bool.not_eq_true'] at hplace
  refine ⟨?_, hplace.2, hrest ▸ any_head?_dropWhile _ cs⟩
  cases name with
  | nil => simp at hplace
  | cons d ds =>
    refine ⟨by simpa using hplace.1, fun e he => ?_⟩
    have hall : (d :: ds).all isIdentChar = true := hname ▸ List.all_takeWhile
    exact List.all_eq_true.1 hall e (by simp [he])

/-- A verbatim segment is read again before the rewritten rest. -/
theorem readFirst_verbatim_again {before before' cs text rest more : List Char} {c : Char}
    (h : nextSegment before c cs = (.verbatim text, rest)) (hbefore : Alike before before' (c :: cs))
    (hmore : Renumbered (text.reverse ++ before).head? rest more) :
    ReadFirst before' (.verbatim text) more := by
  have hnil : rest = [] → more = [] := hmore.eq_nil
  -- The cases are those of the reading, in its order.
  by_cases hq : c = '\x27'
  · subst hq
    rw [nextSegment_singleQuote] at h
    obtain ⟨hs, rfl⟩ := Prod.mk.inj h
    obtain rfl := Segment.verbatim.inj hs
    refine ⟨_, _, rfl, ?_⟩
    rw [nextSegment_singleQuote, hbefore.escapes rfl,
      spanQuoted_resume rfl hnil (hmore.head?_of_ne (by decide))]
  by_cases hd : c = '\x22'
  · subst hd
    rw [nextSegment_doubleQuote] at h
    obtain ⟨hs, rfl⟩ := Prod.mk.inj h
    obtain rfl := Segment.verbatim.inj hs
    refine ⟨_, _, rfl, ?_⟩
    rw [nextSegment_doubleQuote, spanQuoted_resume rfl hnil (hmore.head?_of_ne (by decide))]
  by_cases hl : c = '-' ∧ cs.head? = some '-'
  · obtain ⟨rfl, hhead⟩ := hl
    obtain ⟨cs, rfl⟩ := List.head?_eq_some_iff.1 hhead
    rw [nextSegment_lineComment] at h
    obtain ⟨hs, rfl⟩ := Prod.mk.inj h
    obtain rfl := Segment.verbatim.inj hs
    refine ⟨_, _, rfl, ?_⟩
    rw [List.cons_append, nextSegment_lineComment, spanLine_resume rfl hnil]
  by_cases hb : c = '/' ∧ cs.head? = some '*'
  · obtain ⟨rfl, hhead⟩ := hb
    obtain ⟨cs, rfl⟩ := List.head?_eq_some_iff.1 hhead
    rw [nextSegment_blockComment] at h
    obtain ⟨hs, rfl⟩ := Prod.mk.inj h
    obtain rfl := Segment.verbatim.inj hs
    refine ⟨_, _, rfl, ?_⟩
    rw [List.cons_append, nextSegment_blockComment, spanBlockComment_resume rfl hnil]
  by_cases hs : c = '$'
  · subst hs
    rw [nextSegment_dollar] at h
    obtain ⟨hs, rfl⟩ := Prod.mk.inj h
    obtain rfl := Segment.verbatim.inj hs
    have hspan := spanDollar_resume (Prod.eta (spanDollar cs)).symm hmore
    refine ⟨_, _, rfl, ?_⟩
    rw [nextSegment_dollar, hspan]
  by_cases ha : c = '@'
  · subst ha
    rw [nextSegment_at] at h
    obtain ⟨hs, rfl⟩ := Prod.mk.inj h
    have hrun : ∀ d ∈ cs.takeWhile isIdentChar, isIdentChar d = true :=
      List.all_eq_true.1 List.all_takeWhile
    have hhead := hmore.any_head? (by decide) (any_head?_dropWhile isIdentChar cs)
    split at hs
    · cases hs
    · rename_i hplace
      obtain rfl := Segment.verbatim.inj hs
      refine ⟨_, _, rfl, ?_⟩
      rw [nextSegment_at, takeWhile_append_of_head hrun hhead, dropWhile_append_of_head hrun hhead]
      rw [isPlaceholderAt, hbefore.ident, ← isPlaceholderAt, if_neg hplace]
  by_cases hc : isIdentStart c = true
  · rw [nextSegment_word hc] at h
    obtain ⟨hs, rfl⟩ := Prod.mk.inj h
    obtain rfl := Segment.verbatim.inj hs
    -- A word may end in a dollar sign, and no placeholder behind it has been replaced.
    have hword : ∀ d ∈ c :: cs.takeWhile isWordChar, isWordChar d = true := by
      intro d hd
      rcases List.mem_cons.1 hd with rfl | hd
      · simp [isWordChar, isIdentChar_of_isIdentStart hc]
      · exact List.all_eq_true.1 List.all_takeWhile d hd
    have hlast := @any_head?_reverse_append _ _ before (by simp) hword
    have hhead : more.head?.any isWordChar = false := by
      rw [hmore.head?_eq hlast]
      exact any_head?_dropWhile isWordChar cs
    exact readFirst_word hc (List.all_eq_true.1 List.all_takeWhile) hhead
  · -- A minus or slash stays single if the rewritten rest does not begin with what would pair with it.
    have ho : ∀ rest : List Char, (rest.head? = some '-' → cs.head? = some '-') →
        (rest.head? = some '*' → cs.head? = some '*') → opensStretch c rest = false := by
      intro rest hm hstar
      have hline : ¬(c = '-' ∧ rest.head? = some '-') := fun h => hl ⟨h.1, hm h.2⟩
      have hblock : ¬(c = '/' ∧ rest.head? = some '*') := fun h => hb ⟨h.1, hstar h.2⟩
      simp_all [opensStretch]
    have hc' : isIdentStart c = false := by simpa using hc
    rw [nextSegment_single (ho cs id id) ha hc'] at h
    obtain ⟨hs, rfl⟩ := Prod.mk.inj h
    obtain rfl := Segment.verbatim.inj hs
    refine ⟨_, _, rfl, ?_⟩
    exact nextSegment_single (ho more (hmore.head?_of_ne (by decide)) (hmore.head?_of_ne (by decide))) ha hc'

/-- A placeholder that keeps its name is read again before the rewritten rest. -/
theorem readFirst_placeholder_again {before before' cs name rest more : List Char} {c : Char}
    (h : nextSegment before c cs = (.placeholder name, rest)) (hbefore : Alike before before' (c :: cs))
    {last : Option Char} (hmore : Renumbered last rest more) :
    ReadFirst before' (.placeholder name) more := by
  obtain ⟨hname, hfree, hrest⟩ := isIdentifier_of_nextSegment h
  exact readFirst_placeholder (hbefore.ident ▸ hfree) hname (hmore.any_head? (by decide) hrest)

/-! ## The readings in step -/

/-- What is read of a segment in the rewritten text. -/
def Segment.numbered (names : List String) : Segment → Segment
  | .verbatim text => .verbatim text
  | .placeholder name =>
    match positionOf? names name with
    | some k => .verbatim (positional k)
    | none => .placeholder name

@[simp] theorem Segment.text_numbered (names : List String) (s : Segment) :
    (s.numbered names).text = s.rewrite names := by
  cases s with
  | verbatim text => rfl
  | placeholder name => cases hp : positionOf? names name <;> simp [numbered, Segment.rewrite, hp, Segment.text]

/-- The placeholders among `ss` that a name fits stand apart, given the text before, last character first:
none follows a dollar sign, and none called `e` stands before a single quote. -/
def StandApart (names : List String) : List Char → List Segment → Prop
  | _, [] => True
  | before, s :: ss =>
    (∀ name, s = .placeholder name → (positionOf? names name).isSome = true →
      before.head? ≠ some '$' ∧
        (name = ['e'] ∨ name = ['E'] → (ss.flatMap Segment.text).head? ≠ some '\x27')) ∧
      StandApart names (s.text.reverse ++ before) ss

/-- The rewritten text is the text with placeholders replaced by numbers. -/
theorem renumbered_rewriteAfter {names : List String} {before cs : List Char}
    (h : StandApart names before (segmentsAfter before cs)) :
    Renumbered before.head? cs (rewriteAfter names before cs) := by
  fun_induction segmentsAfter before cs with
  | case1 before =>
    rw [rewriteAfter_nil]
    exact .nil
  | case2 before c cs next ih =>
    obtain ⟨hapart, hrest⟩ := h
    have hmore := ih hrest
    have hfirst := readFirst_nextSegment before c cs
    have htext : next.1.text ++ next.2 = c :: cs := nextSegment_append before c cs
    rw [← htext, rewriteAfter_of_readFirst hfirst]
    cases hs : next.1 with
    | verbatim text =>
      rw [hs] at hmore
      exact hmore.append
    | placeholder name =>
      rw [hs] at hmore hapart
      cases hp : positionOf? names name with
      | none =>
        rw [Segment.rewrite, hp]
        exact hmore.append
      | some k =>
        have hnext : nextSegment before c cs = (.placeholder name, next.2) := by rw [← hs]
        obtain ⟨hname, hfree, -⟩ := isIdentifier_of_nextSegment hnext
        obtain ⟨hdollar, -⟩ := hapart name rfl (by simp [hp])
        -- What stands before the rest is the end of the name, an identifier character.
        have hlast : (('@' :: name).reverse ++ before).head? = name.getLast? := by
          obtain ⟨d, hd, -⟩ := hname.getLast?
          rw [List.reverse_cons, List.append_assoc, List.head?_append, List.head?_reverse, hd]
          rfl
        have hword : before.head?.any isWordChar = false := by
          cases before with
          | nil => rfl
          | cons d ds => simp_all [isWordChar]
        rw [Segment.rewrite, hp]
        exact .number k hword hname (hlast ▸ hmore)

/-- A rewritten text is read in step with the text. -/
theorem segmentsAfter_rewriteAfter {names : List String} {before before' cs : List Char}
    (hbefore : Alike before before' cs) (h : StandApart names before (segmentsAfter before cs)) :
    segmentsAfter before' (rewriteAfter names before cs)
      = (segmentsAfter before cs).map (Segment.numbered names) := by
  revert before'
  fun_induction segmentsAfter before cs with
  | case1 before => simp
  | case2 before c cs next ih =>
    intro before' hbefore
    obtain ⟨hapart, hrest⟩ := h
    have hmore := renumbered_rewriteAfter hrest
    have hfirst := readFirst_nextSegment before c cs
    have htext : next.1.text ++ next.2 = c :: cs := nextSegment_append before c cs
    -- Each segment is found again, and leaves what is before the rest alike in both texts.
    have hread : ReadFirst before' (next.1.numbered names)
          (rewriteAfter names (next.1.text.reverse ++ before) next.2) ∧
        Alike (next.1.text.reverse ++ before) ((next.1.numbered names).text.reverse ++ before')
          next.2 := by
      cases hs : next.1 with
      | verbatim text =>
        have hnext : nextSegment before c cs = (.verbatim text, next.2) := by rw [← hs]
        have hne : text ≠ [] := by
          have := nextSegment_text_ne_nil before c cs
          rwa [hnext] at this
        rw [hs] at hmore
        exact ⟨readFirst_verbatim_again hnext hbefore hmore, hbefore.keep hne⟩
      | placeholder name =>
        have hnext : nextSegment before c cs = (.placeholder name, next.2) := by rw [← hs]
        obtain ⟨hname, hfree, hfollow⟩ := isIdentifier_of_nextSegment hnext
        rw [hs] at hmore hapart
        cases hp : positionOf? names name with
        | none =>
          simp only [Segment.numbered, hp]
          exact ⟨readFirst_placeholder_again hnext hbefore hmore, hbefore.keep (by simp [Segment.text])⟩
        | some k =>
          obtain ⟨-, hquote⟩ := hapart name rfl (by simp [hp])
          rw [flatMap_text_segmentsAfter] at hquote
          -- The digits of the number end where the name did.
          have hdigit : next.2.head?.any Char.isDigit = false := by
            cases hh : next.2.head? with
            | none => rfl
            | some d => simp_all [isIdentChar]
          simp only [Segment.numbered, hp]
          refine ⟨?_, .number hname k hquote⟩
          exact readFirst_positional (digits_ne_nil _) (fun d hd => isDigit_of_mem_digits hd)
            (hmore.any_head? (by decide) hdigit)
    obtain ⟨hagain, halike⟩ := hread
    rw [← htext, rewriteAfter_of_readFirst hfirst, ← Segment.text_numbered,
      segmentsAfter_of_readFirst hagain, ih hrest halike]
    rfl

/-! ## Rewriting again -/

/-- No placeholder that is read in the text has a name that fits. -/
def Settled (names : List String) (cs : List Char) : Prop :=
  ∀ name, .placeholder name ∈ segments cs → positionOf? names name = none

/-- A segment is rewritten to itself only if it is no placeholder that a name fits: the number of a
placeholder does not begin with an at sign. -/
theorem rewrite_append_eq_text_append {names : List String} {s : Segment} {cs ws : List Char}
    (h : s.rewrite names ++ ws = s.text ++ cs) :
    s.rewrite names = s.text ∧ ws = cs ∧ ∀ name, s = .placeholder name → positionOf? names name = none := by
  cases s with
  | verbatim text => exact ⟨rfl, List.append_cancel_left h, by simp⟩
  | placeholder name =>
    cases hp : positionOf? names name with
    | none =>
      have hkept : (Segment.placeholder name).rewrite names = (Segment.placeholder name).text := by
        simp [Segment.rewrite, Segment.text, hp]
      rw [hkept] at h
      exact ⟨hkept, List.append_cancel_left h, by simpa using hp⟩
    | some k => simp [Segment.rewrite, Segment.text, hp, positional] at h

/-- Rewriting keeps exactly the texts in which nothing is left to number. -/
theorem rewriteChars_eq_self_iff {names : List String} {cs : List Char} :
    rewriteChars names cs = cs ↔ Settled names cs := by
  have hsegments : ∀ ss : List Segment,
      ss.flatMap (Segment.rewrite names) = ss.flatMap Segment.text ↔
        ∀ name, .placeholder name ∈ ss → positionOf? names name = none := by
    intro ss
    induction ss with
    | nil => simp
    | cons s ss ih =>
      rw [List.flatMap_cons, List.flatMap_cons]
      constructor
      · intro h name hname
        obtain ⟨-, hss, hs⟩ := rewrite_append_eq_text_append h
        rcases List.mem_cons.1 hname with heq | hname
        · exact hs name heq.symm
        · exact ih.1 hss name hname
      · intro h
        have hs : s.rewrite names = s.text := by
          cases s with
          | verbatim text => rfl
          | placeholder name => simp [Segment.rewrite, Segment.text, h name (by simp)]
        rw [hs, ih.2 fun name hname => h name (by simp [hname])]
  rw [rewriteChars, Settled, ← hsegments, flatten_segments]

/-- The two readings fall into step if the numbered placeholders stand apart. -/
theorem segments_rewriteChars {names : List String} {cs : List Char}
    (h : StandApart names [] (segments cs)) :
    segments (rewriteChars names cs) = (segments cs).map (Segment.numbered names) :=
  segmentsAfter_rewriteAfter ⟨rfl, fun _ => rfl⟩ h

/-- A text whose numbered placeholders stand apart is settled once it is rewritten. -/
theorem settled_rewriteChars {names : List String} {cs : List Char}
    (h : StandApart names [] (segments cs)) : Settled names (rewriteChars names cs) := by
  intro name hname
  rw [segments_rewriteChars h] at hname
  obtain ⟨s, -, hs⟩ := List.mem_map.1 hname
  cases s with
  | verbatim text => cases hs
  | placeholder name' =>
    cases hp : positionOf? names name' with
    | none =>
      rw [Segment.numbered, hp] at hs
      obtain rfl := Segment.placeholder.inj hs
      exact hp
    | some k => simp [Segment.numbered, hp] at hs

end InProcessSql.Sql

namespace InProcessSql

open InProcessSql.Sql

/-- Without names a text is kept. -/
theorem rewrite_nil (sql : String) : rewrite [] sql = sql := by
  rw [rewrite, rewriteChars_nil, String.ofList_toList]

/-- The text of a plan whose parameters all have names is the rewritten text. -/
theorem Plan.textOf_eq_rewrite {ps : Parameters} {style : Option ParameterStyle}
    (hnamed : ∀ p ∈ ps.toList, p.name.isSome = true) (hstyle : ps.style = .ok style) (sql : String) :
    Plan.textOf style ps.names sql = rewrite ps.names sql := by
  obtain ⟨list⟩ := ps
  cases list with
  | nil =>
    obtain rfl : none = style := Except.ok.inj hstyle
    exact (rewrite_nil sql).symm
  | cons p list =>
    have hp : p.name.isNone = false := by
      have := hnamed p (by simp)
      cases hname : p.name <;> simp_all
    have hall : ((p :: list).all fun p => p.name.isSome) = true := List.all_eq_true.2 hnamed
    simp only [Parameters.style, List.isEmpty_cons, hall, if_true, Bool.false_eq_true, if_false,
      List.all_cons, hp, Bool.false_and] at hstyle
    obtain rfl := Except.ok.inj hstyle
    rfl

/-- A plan whose parameters all have names has the rewritten text, and planning that text again only
rewrites it again. -/
theorem Plan.of_sql {ps : Parameters} {sql : String} {plan : Plan}
    (hnamed : ∀ p ∈ ps.toList, p.name.isSome = true) (hplan : Plan.of sql ps = .ok plan) :
    plan.sql = rewrite ps.names sql ∧
      Plan.of plan.sql ps = .ok { plan with sql := rewrite ps.names plan.sql } := by
  cases hstyle : ps.style with
  | error e => simp [Plan.of, hstyle] at hplan
  | ok style =>
    cases hoids : ps.types.mapM SqlType.oid with
    | error e => simp [Plan.of, hstyle, hoids] at hplan
    | ok oids =>
      simp only [Plan.of, hstyle, hoids, Plan.textOf_eq_rewrite hnamed hstyle] at hplan ⊢
      obtain rfl := Except.ok.inj hplan
      exact ⟨rfl, rfl⟩

/-- Rewriting keeps exactly the settled texts. -/
theorem rewrite_eq_self_iff {names : List String} {sql : String} :
    rewrite names sql = sql ↔ Settled names sql.toList := by
  rw [← rewriteChars_eq_self_iff, rewrite]
  constructor
  · intro h
    have hchars := congrArg String.toList h
    rwa [String.toList_ofList] at hchars
  · intro h
    rw [h, String.ofList_toList]

/-- A text whose numbered placeholders stand apart is rewritten only once. -/
theorem rewrite_rewrite {names : List String} {sql : String}
    (h : StandApart names [] (segments sql.toList)) :
    rewrite names (rewrite names sql) = rewrite names sql := by
  rw [rewrite_eq_self_iff, rewrite, String.toList_ofList]
  exact settled_rewriteChars h

/-- Rewriting a rewritten text changes nothing exactly if no placeholder that a name fits is read in it,
and this is so if the placeholders numbered first stood apart from dollar signs and quotes. The same holds
of planning the text of a plan again. -/
theorem rewrite_rewrite_eq_iff (names : List String) (sql : String) :
    (rewrite names (rewrite names sql) = rewrite names sql
        ↔ Settled names (rewrite names sql).toList) ∧
      (StandApart names [] (segments sql.toList) →
        rewrite names (rewrite names sql) = rewrite names sql) ∧
      ∀ (ps : Parameters) (plan : Plan), (∀ p ∈ ps.toList, p.name.isSome = true) →
        Plan.of sql ps = .ok plan →
          (Plan.of plan.sql ps = .ok plan ↔ Settled ps.names plan.sql.toList) ∧
            (StandApart ps.names [] (segments sql.toList) → Plan.of plan.sql ps = .ok plan) := by
  refine ⟨rewrite_eq_self_iff, rewrite_rewrite, fun ps plan hnamed hplan => ?_⟩
  obtain ⟨hsql, hagain⟩ := Plan.of_sql hnamed hplan
  have hiff : Plan.of plan.sql ps = .ok plan ↔ rewrite ps.names plan.sql = plan.sql := by
    rw [hagain]
    constructor
    · intro h
      exact congrArg Plan.sql (Except.ok.inj h)
    · intro h
      rw [h]
  refine ⟨hiff.trans rewrite_eq_self_iff, fun h => hiff.2 ?_⟩
  rw [hsql]
  exact rewrite_rewrite h

/-- Planning a planned text again changes nothing where the placeholders stand apart, here with a word, a
dollar quote and a literal around them. -/
theorem plan_of_planned_text :
    let ps : Parameters := ⟨[.named "@a" (.int4 1), .named "E" (.text "x")]⟩
    let sql := "select x$ || @a, $$@a$$, @e || E'\\'@e'"
    let plan : Plan := ⟨"select x$ || $1, $$@a$$, $2 || E'\\'@e'",
      [.scalar .integer, .scalar .text], [23, 25]⟩
    (∀ p ∈ ps.toList, p.name.isSome = true) ∧ Plan.of sql ps = .ok plan ∧
      StandApart ps.names [] (segments sql.toList) ∧ Plan.of plan.sql ps = .ok plan := by
  intro ps sql plan
  have hnamed : ∀ p ∈ ps.toList, p.name.isSome = true := by decide
  have hplan : Plan.of sql ps = .ok plan := by cbv
  have hapart : StandApart ps.names [] (segments sql.toList) := by
    have hread : segments sql.toList
        = ["select".toList, [' '], "x$".toList, [' '], ['|'], ['|'], [' ']].map .verbatim
          ++ .placeholder ['a'] :: [[','], [' '], "$$@a$$".toList, [','], [' ']].map .verbatim
          ++ .placeholder ['e'] :: [[' '], ['|'], ['|'], [' '], ['E'], "'\\'@e'".toList].map .verbatim := by
      decide +kernel
    rw [hread]
    simp [StandApart, Segment.text]
  exact ⟨hnamed, hplan, hapart, ((rewrite_rewrite_eq_iff ps.names sql).2.2 ps plan hnamed hplan).2 hapart⟩

/-- Texts that are rewritten a second time: a dollar sign and `$1` open a dollar quote, and a backslash
escapes a quote only behind the letter of an escape string. -/
theorem rewrite_rewrite_ne :
    rewrite ["a"] (rewrite ["a"] "$@a ' $$ @a '") ≠ rewrite ["a"] "$@a ' $$ @a '" ∧
      rewrite ["e"] (rewrite ["e"] "@e'\\' @e '") ≠ rewrite ["e"] "@e'\\' @e '" := by
  decide +kernel

end InProcessSql
