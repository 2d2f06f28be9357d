import Mathlib
import InProcessSql.Proofs.KeptPlans
import InProcessSql.Proofs.Sql.Rereading

/-!
# Planning in stages

A command may be prepared before all of its parameters are there, and its text then holds numbers beside
placeholders. `Sql.rewrite_append_rewrite` says that the placeholders which are left get the numbers that they
would have got at once: names that are added behind the others move none of them. This needs the two readings
of the text to stay in step, so that no placeholder may stand behind a dollar sign, and none called `e` before
a single quote. `rewrite_in_stages` carries it over to commands.
-/

namespace InProcessSql.Sql

open InProcessSql.Number

/-! ## Names behind others -/

/-- An identifier that means one of the first names keeps its position when others are added. -/
theorem positionOf?_append (ns ms : List String) (ident : List Char) :
    positionOf? (ns ++ ms) ident
      = (positionOf? ns ident).or ((positionOf? ms ident).map fun k => k + ns.length) :=
  List.findIdx?_append

/-- A segment that has been numbered, or kept, by the first names is numbered by all of them as the segment
itself. -/
theorem Segment.rewrite_numbered (ns ms : List String) (s : Segment) :
    (s.numbered ns).rewrite (ns ++ ms) = s.rewrite (ns ++ ms) := by
  cases s with
  | verbatim text => rfl
  | placeholder name =>
    cases hp : positionOf? ns name with
    | none => rw [numbered, hp]
    | some k =>
      have hall : positionOf? (ns ++ ms) name = some k := by
        rw [positionOf?_append, hp, Option.some_or]
      simp only [numbered, hp, Segment.rewrite, hall]

/-! ## Texts whose placeholders stand apart -/

/-- No placeholder called `e` stands before a single quote. -/
def QuotesApart : List Segment → Prop
  | [] => True
  | s :: ss =>
    (s = .placeholder ['e'] ∨ s = .placeholder ['E'] → (ss.flatMap Segment.text).head? ≠ some '\x27') ∧
      QuotesApart ss

/-- Without an at sign behind a dollar sign, and with the quotes apart, the placeholders that any names number
stand apart. -/
theorem standApart_of_quotesApart (names : List String) {before cs : List Char}
    (hdollar : ¬['$', '@'] <:+: before.reverse ++ cs) (hquotes : QuotesApart (segmentsAfter before cs)) :
    StandApart names before (segmentsAfter before cs) := by
  fun_induction segmentsAfter before cs with
  | case1 => trivial
  | case2 before c cs next ih =>
    obtain ⟨hquote, hrest⟩ := hquotes
    have htext : next.1.text ++ next.2 = c :: cs := nextSegment_append before c cs
    -- A dollar sign before the segment would stand before its at sign in the text.
    refine ⟨fun name hs _ => ⟨fun hhead => ?_, fun hname => ?_⟩, ih ?_ hrest⟩
    · obtain ⟨ds, rfl⟩ := List.head?_eq_some_iff.1 hhead
      have hat : '@' :: (name ++ next.2) = c :: cs := by
        rw [← htext, hs]
        rfl
      exact hdollar ⟨ds.reverse, name ++ next.2, by rw [← hat]; simp⟩
    · refine hquote ?_
      rcases hname with rfl | rfl
      · exact .inl hs
      · exact .inr hs
    · have hwhole : (next.1.text.reverse ++ before).reverse ++ next.2 = before.reverse ++ c :: cs := by
        rw [List.reverse_append, List.reverse_reverse, List.append_assoc, htext]
      rwa [hwhole]

/-- Rewriting with some names and then with more behind them is rewriting with all of them. -/
theorem rewrite_append_rewrite {ns : List String} {sql : String}
    (h : StandApart ns [] (segments sql.toList)) (ms : List String) :
    rewrite (ns ++ ms) (rewrite ns sql) = rewrite (ns ++ ms) sql := by
  have hchars : rewriteChars (ns ++ ms) (rewriteChars ns sql.toList) = rewriteChars (ns ++ ms) sql.toList := by
    calc (segments (rewriteChars ns sql.toList)).flatMap (Segment.rewrite (ns ++ ms))
        = (segments sql.toList).flatMap fun s => (s.numbered ns).rewrite (ns ++ ms) := by
          rw [segments_rewriteChars h, List.flatMap_map]
      _ = (segments sql.toList).flatMap (Segment.rewrite (ns ++ ms)) := by
          simp only [Segment.rewrite_numbered]
  rw [rewrite, rewrite, rewrite, String.toList_ofList, hchars]

end InProcessSql.Sql

namespace InProcessSql

open InProcessSql.Sql

/-! ## Plans -/

/-- Parameters that are added add their names. -/
theorem Parameters.names_append (ps : Parameters) (more : List Parameter) :
    (⟨ps.toList ++ more⟩ : Parameters).names = ps.names ++ more.filterMap Parameter.name :=
  List.filterMap_append

/-- Parameters that the text refers to by name all have one. -/
theorem Parameters.isSome_of_style {ps : Parameters} (h : ps.style = .ok (some .named)) :
    ∀ p ∈ ps.toList, p.name.isSome = true := by
  rw [style] at h
  split at h
  · cases h
  split at h
  · cases h
  split at h
  · rename_i hall
    exact List.all_eq_true.1 hall
  · cases h

/-- A text that has been planned with some parameters is planned with more behind them as before. -/
theorem Plan.of_append {sql : String} {ps : Parameters} {plan : Plan} {more : List Parameter}
    (h : Plan.of sql ps = .ok plan) (hmore : ∀ p ∈ more, p.name.isSome = true)
    (hapart : StandApart ps.names [] (segments sql.toList)) :
    Plan.of plan.sql ⟨ps.toList ++ more⟩ = Plan.of sql ⟨ps.toList ++ more⟩ := by
  rcases Plan.sql_cases h with hsql | ⟨hstyle, hsql⟩
  · rw [hsql]
  · have hnamed : ∀ p ∈ ps.toList ++ more, p.name.isSome = true := by
      intro p hp
      rcases List.mem_append.1 hp with hp | hp
      · exact Parameters.isSome_of_style hstyle p hp
      · exact hmore p hp
    rw [Plan.of, Plan.of]
    cases hall : (⟨ps.toList ++ more⟩ : Parameters).style with
    | error e => rfl
    | ok style =>
      have htext : Plan.textOf style (⟨ps.toList ++ more⟩ : Parameters).names plan.sql
          = Plan.textOf style (⟨ps.toList ++ more⟩ : Parameters).names sql := by
        rw [Plan.textOf_eq_rewrite hnamed hall, Plan.textOf_eq_rewrite hnamed hall,
          Parameters.names_append, hsql, rewrite_append_rewrite hapart]
      simp only [htext]

/-! ## Commands -/

namespace Command

/-- The command with more parameters. -/
def withParameters (cmd : Command) (more : List Parameter) : Command :=
  more.foldl (fun cmd p => cmd.setParameters (cmd.parameters.add p)) cmd

/-- A command that gets more parameters loses its plan. -/
theorem withParameters_cons (cmd : Command) (p : Parameter) (more : List Parameter) :
    cmd.withParameters (p :: more) = cmd.setParameters ⟨cmd.parameters.toList ++ p :: more⟩ := by
  show (cmd.setParameters (cmd.parameters.add p)).withParameters more = _
  induction more generalizing cmd p with
  | nil => rfl
  | cons q more ih =>
    show ((cmd.setParameters (cmd.parameters.add p)).setParameters _).withParameters more = _
    rw [ih]
    simp [setParameters]

variable {σ : Type}

/-- Planning with more parameters is not changed by planning before. -/
theorem planOf_prepare {cmd : Command} {more : List Parameter} (hmore : ∀ p ∈ more, p.name.isSome = true)
    (hapart : StandApart cmd.parameters.names [] (segments cmd.text.toList)) (c : Connection σ) :
    (cmd.prepare c).2.1.parameters = cmd.parameters ∧
      Plan.of (cmd.prepare c).2.1.text ⟨cmd.parameters.toList ++ more⟩
        = Plan.of cmd.text ⟨cmd.parameters.toList ++ more⟩ := by
  rw [prepare]
  split
  · exact ⟨rfl, rfl⟩
  · split
    · exact ⟨rfl, rfl⟩
    · rename_i plan hplan
      exact ⟨rfl, Plan.of_append hplan hmore hapart⟩

/-- Two commands without a plan that are planned alike are prepared alike. -/
theorem prepare_eq_of_planOf_eq {cmd cmd' : Command} (hplan : cmd.plan = none) (hplan' : cmd'.plan = none)
    (hparameters : cmd.parameters = cmd'.parameters)
    (hof : Plan.of cmd.text cmd.parameters = Plan.of cmd'.text cmd'.parameters) (c c' : Connection σ) :
    (cmd.prepare c).1 = (cmd'.prepare c').1 ∧
      ∀ plan, (cmd'.prepare c').1 = .ok plan → (cmd.prepare c).2.1 = (cmd'.prepare c').2.1 := by
  simp only [prepare, hplan, hplan', hof]
  cases Plan.of cmd'.text cmd'.parameters with
  | error e =>
    refine ⟨rfl, fun plan h => ?_⟩
    cases h
  | ok plan =>
    refine ⟨rfl, fun _ _ => ?_⟩
    simp only [hparameters]

end Command

/-- Rewriting a text with some names and then with more behind them is rewriting it with all of them at once,
if no at sign stands behind a dollar sign and no placeholder called `e` before a single quote. A command with
such a text that is prepared, gets more parameters with names and is prepared again has the outcome of one
preparation with all parameters, and if that is a plan the same text, parameters and plan. -/
theorem rewrite_in_stages {sql : String} (hdollar : ¬['$', '@'] <:+: sql.toList)
    (hquotes : QuotesApart (segments sql.toList)) :
    (∀ ns ms : List String, rewrite (ns ++ ms) (rewrite ns sql) = rewrite (ns ++ ms) sql) ∧
      ∀ {σ : Type} (cmd : Command) (more : List Parameter) (c : Connection σ), cmd.text = sql →
        (∀ p ∈ more, p.name.isSome = true) →
          let again := ((cmd.prepare c).2.1.withParameters more).prepare (cmd.prepare c).2.2
          let once := (cmd.withParameters more).prepare c
          again.1 = once.1 ∧ ∀ plan, once.1 = .ok plan → again.2.1 = once.2.1 := by
  have hapart : ∀ ns, StandApart ns [] (segments sql.toList) :=
    fun ns => standApart_of_quotesApart ns hdollar hquotes
  refine ⟨fun ns ms => rewrite_append_rewrite (hapart ns) ms, ?_⟩
  rintro σ cmd more c rfl hmore
  cases more with
  | nil =>
    -- Without another parameter the plan is kept.
    intro again once
    have hagain : again = once := cmd.prepare_prepare c
    exact ⟨by rw [hagain], fun _ _ => by rw [hagain]⟩
  | cons p more =>
    obtain ⟨hparameters, hplan⟩ := Command.planOf_prepare hmore (hapart _) c
    simp only [Command.withParameters_cons, hparameters]
    apply Command.prepare_eq_of_planOf_eq
    · rfl
    · rfl
    · rfl
    · exact hplan

/-- A text is planned in two stages, with a placeholder in a dollar quote and one behind a dollar quote that is
never closed. -/
theorem rewrite_in_two_stages :
    let sql := "select @b, $q$ @a $q$, @e, $x$ @a"
    let cmd : Command := { text := sql, parameters := ⟨[.named "b" (.int4 1)]⟩ }
    let more : List Parameter := [.named "@A" (.text "x"), .named "e" .null]
    let c : Connection Scripted := { executor := {} }
    let plan : Plan := ⟨"select $1, $q$ @a $q$, $3, $x$ $2",
      [.scalar .integer, .scalar .text, .scalar .unknown], [23, 25, 705]⟩
    let again := ((cmd.prepare c).2.1.withParameters more).prepare (cmd.prepare c).2.2
    ¬['$', '@'] <:+: sql.toList ∧ QuotesApart (segments sql.toList) ∧
      (∀ p ∈ more, p.name.isSome = true) ∧
      (cmd.prepare c).2.1.text = "select $1, $q$ @a $q$, @e, $x$ @a" ∧
      ((cmd.withParameters more).prepare c).1 = .ok plan ∧
      rewrite (["b"] ++ ["A", "e"]) (rewrite ["b"] sql) = rewrite (["b"] ++ ["A", "e"]) sql ∧
      again.1 = .ok plan ∧ again.2.1 = ((cmd.withParameters more).prepare c).2.1 := by
  intro sql cmd more c plan again
  have hdollar : ¬['$', '@'] <:+: sql.toList := by decide +kernel
  have hquotes : QuotesApart (segments sql.toList) := by
    have hread : segments sql.toList
        = ["select".toList, [' ']].map .verbatim
          ++ .placeholder ['b'] :: [[','], [' '], "$q$ @a $q$".toList, [','], [' ']].map .verbatim
          ++ .placeholder ['e'] :: [[','], [' '], ['$'], "x$".toList, [' ']].map .verbatim
          ++ [.placeholder ['a']] := by
      decide +kernel
    rw [hread]
    simp [QuotesApart, Segment.text]
  have hmore : ∀ p ∈ more, p.name.isSome = true := by decide
  have htext : (cmd.prepare c).2.1.text = "select $1, $q$ @a $q$, @e, $x$ @a" := by cbv
  have honce : ((cmd.withParameters more).prepare c).1 = .ok plan := by cbv
  obtain ⟨hrewrite, hcommand⟩ := rewrite_in_stages hdollar hquotes
  obtain ⟨hsame, hagain⟩ := hcommand cmd more c rfl hmore
  exact ⟨hdollar, hquotes, hmore, htext, honce, hrewrite ["b"] ["A", "e"], hsame.trans honce,
    hagain plan honce⟩

end InProcessSql
