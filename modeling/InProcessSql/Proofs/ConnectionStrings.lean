import InProcessSql.Options
import InProcessSql.Proofs.FallibleMap

/-!
# Connection strings compose

A connection string is read segment by segment, so that the segments of two strings with a semicolon between
them are those of the one followed by those of the other (`segmentsOf_append`), and what they set is set in this
order (`settings_append`). Options that are set one after the other are left with what was set last
(`foldl_apply`), and a key that names no option sets nothing (`foldl_apply_append_cons`). `parse_append` and
`parse_intercalate_of_normalKey` say so of whole strings.
-/

namespace InProcessSql

open InProcessSql.Number InProcessSql.Text

/-! ## What sets an option last -/

/-- The value that a setting gives to whether statements must not write. -/
def Setting.readOnly? : Setting → Option Bool
  | .readOnly value => some value
  | _ => none

/-- The value that a setting gives to the limit. -/
def Setting.countLimit? : Setting → Option Int
  | .countLimit value => some value
  | _ => none

/-- What the last of the segments of a connection string that set an option sets it to. -/
def lastSet? {α : Type} (option : Setting → Option α) (s : String) : Option α :=
  (segmentsOf s.toList).reverse.findSome? fun segment => (readSetting segment).toOption.bind option

/-- Settings that are made one after the other leave each option with the value that was set last. -/
theorem foldl_apply (settings : List Setting) (options : Options) :
    settings.foldl Options.apply options =
      { options with
        readOnly := (settings.reverse.findSome? Setting.readOnly?).getD options.readOnly
        countLimit := (settings.reverse.findSome? Setting.countLimit?).getD options.countLimit } := by
  induction settings using List.reverseRecOn with
  | nil => rfl
  | append_singleton settings last ih =>
    rw [List.foldl_append, ih, List.reverse_append]
    cases last <;> rfl

/-- The settings of a connection string are those of its segments. -/
theorem settings_eq_ok_iff {s : String} {list : List Setting} :
    settings s = .ok list ↔
      List.Forall₂ (fun segment setting => readSetting segment = .ok setting) (segmentsOf s.toList) list :=
  mapM_eq_ok_iff

/-- What is set last is what the last of the settings sets. -/
theorem lastSet?_eq {α : Type} (option : Setting → Option α) {s : String} {list : List Setting}
    (h : settings s = .ok list) : lastSet? option s = list.reverse.findSome? option := by
  have hreverse := List.forall₂_reverse_iff.2 (settings_eq_ok_iff.1 h)
  unfold lastSet?
  generalize (segmentsOf s.toList).reverse = segments at hreverse ⊢
  generalize list.reverse = list at hreverse ⊢
  induction hreverse with
  | nil => rfl
  | cons hsegment _ ih =>
    rw [List.findSome?_cons, List.findSome?_cons, ih, hsegment]
    rfl

/-! ## The segments of composed strings -/

theorem toList_between (s t : String) (c : Char) :
    (s ++ String.singleton c ++ t).toList = s.toList ++ c :: t.toList := by
  rw [String.append_assoc, String.toList_append, String.toList_append, String.toList_singleton,
    List.singleton_append]

/-- The segments of two strings with a semicolon between them are those of the one and those of the other. -/
theorem segmentsOf_append (s t : List Char) : segmentsOf (s ++ ';' :: t) = segmentsOf s ++ segmentsOf t := by
  unfold segmentsOf
  rw [List.splitOn_append_cons_self, List.map_append, List.filter_append]

/-- The segments of strings with semicolons between them are those of the strings, in order. -/
theorem segmentsOf_intercalate (strings : List String) :
    segmentsOf (";".intercalate strings).toList = strings.flatMap fun s => segmentsOf s.toList := by
  induction strings with
  | nil => rfl
  | cons s strings ih =>
    cases strings with
    | nil => rw [String.intercalate_singleton, List.flatMap_singleton]
    | cons t strings =>
      rw [String.intercalate_cons_cons, List.flatMap_cons, ← ih, ← segmentsOf_append, ← toList_between]
      rfl

/-- The settings of composed strings are those of the one and then those of the other. -/
theorem settings_append (s t : String) :
    settings (s ++ ";" ++ t) = (do return (← settings s) ++ (← settings t)) := by
  have hsplit : (s ++ ";" ++ t).toList = s.toList ++ ';' :: t.toList := toList_between s t ';'
  unfold settings
  rw [hsplit, segmentsOf_append, List.mapM_append]

/-! ## Segments without effect -/

/-- A character that is no blank keeps what is on either side of it from being trimmed at that end. -/
theorem trim_append_cons {c : Char} (hc : isBlank c = false) (front back : List Char) :
    trim (front ++ c :: back) = trimStart front ++ c :: trimEnd back := by
  have hpast : ∀ front back : List Char,
      (front ++ c :: back).dropWhile isBlank = front.dropWhile isBlank ++ c :: back := by
    intro front back
    rw [List.dropWhile_append, List.dropWhile_cons_of_neg (by rw [hc]; exact Bool.false_ne_true)]
    split
    · rename_i hnil
      rw [List.isEmpty_iff.1 hnil, List.nil_append]
    · rfl
  unfold trim trimStart trimEnd
  rw [hpast, List.reverse_append, List.reverse_cons, List.append_assoc, List.singleton_append, hpast,
    List.reverse_append, List.reverse_cons, List.reverse_reverse, List.append_assoc, List.singleton_append]

/-- Blanks in front of a key do not count. -/
theorem normalKey_trimStart (key : List Char) : normalKey (trimStart key) = normalKey key := by
  have hblank : (key.takeWhile isBlank).filter (fun c => !isBlank c) = [] := by
    rw [List.filter_eq_nil_iff]
    intro c hc
    rw [List.mem_takeWhile_imp hc]
    exact Bool.false_ne_true
  unfold normalKey trimStart
  conv_rhs => rw [← List.takeWhile_append_dropWhile (p := isBlank) (l := key)]
  rw [List.filter_append, hblank, List.nil_append]

/-- A key that names no option has no effect, whatever its value is. -/
theorem readSetting_of_normalKey {key value : List Char} (hkey : '=' ∉ key)
    (hreadOnly : normalKey key ≠ "readonly".toList) (hlimit : normalKey key ≠ "commandcount".toList) :
    readSetting (key ++ '=' :: value) = .ok (.ignored (String.ofList (normalKey key))) := by
  have hbefore : ∀ c ∈ key, (c != '=') = true := by
    intro c hc
    rw [bne_iff_ne]
    rintro rfl
    exact hkey hc
  have hne : ∀ name : String, normalKey key ≠ name.toList →
      (String.ofList (normalKey key) == name) = false := by
    intro name hname
    rw [beq_eq_false_iff_ne]
    rintro rfl
    exact hname String.toList_ofList.symm
  have hdrop : (key ++ '=' :: value).dropWhile (· != '=') = '=' :: value := by
    rw [List.dropWhile_append_of_pos hbefore]
    rfl
  have htake : (key ++ '=' :: value).takeWhile (· != '=') = key := by
    rw [List.takeWhile_append_of_pos hbefore, List.takeWhile_cons_of_neg (by decide), List.append_nil]
  unfold readSetting
  rw [hdrop, htake]
  simp only [hne _ hreadOnly, hne _ hlimit, Bool.false_eq_true, if_false]

/-- A key and its value make one segment if there is no semicolon in them, and it has no effect if the key names
no option. -/
theorem segmentsOf_of_normalKey {key value : String} (hsemicolon : ';' ∉ key.toList)
    (hvalue : ';' ∉ value.toList) (hkey : '=' ∉ key.toList)
    (hreadOnly : normalKey key.toList ≠ "readonly".toList)
    (hlimit : normalKey key.toList ≠ "commandcount".toList) :
    ∃ segment, segmentsOf (key ++ "=" ++ value).toList = [segment] ∧
      readSetting segment = .ok (.ignored (String.ofList (normalKey key.toList))) := by
  have hsplit : (key ++ "=" ++ value).toList = key.toList ++ '=' :: value.toList := toList_between key value '='
  have hone : ';' ∉ key.toList ++ '=' :: value.toList := by
    rw [List.mem_append, List.mem_cons]
    rintro (h | h | h)
    · exact hsemicolon h
    · cases h
    · exact hvalue h
  refine ⟨trimStart key.toList ++ '=' :: trimEnd value.toList, ?_, ?_⟩
  · unfold segmentsOf
    rw [hsplit, List.splitOn_eq_singleton hone, List.map_singleton, trim_append_cons (by decide)]
    refine List.filter_cons_of_pos ?_
    rw [List.isEmpty_eq_false_iff.2 (List.append_ne_nil_of_right_ne_nil _ (List.cons_ne_nil _ _))]
    rfl
  · rw [← normalKey_trimStart] at hreadOnly hlimit ⊢
    exact readSetting_of_normalKey (fun h => hkey ((List.dropWhile_sublist _).mem h)) hreadOnly hlimit

/-- A segment without effect leaves what the others set as it is. -/
theorem foldl_apply_append_cons {segment : List Char} {key : String}
    (hsegment : readSetting segment = .ok (.ignored key)) (before after : List (List Char)) (options : Options) :
    (fun settings => settings.foldl Options.apply options) <$> (before ++ segment :: after).mapM readSetting =
      (fun settings => settings.foldl Options.apply options) <$> (before ++ after).mapM readSetting := by
  rw [List.mapM_append, List.mapM_append, List.mapM_cons, hsegment]
  cases before.mapM readSetting with
  | error e => rfl
  | ok settings =>
    cases after.mapM readSetting with
    | error e => rfl
    | ok rest =>
      refine congrArg Except.ok ?_
      show (settings ++ .ignored key :: rest).foldl Options.apply options =
        (settings ++ rest).foldl Options.apply options
      rw [List.foldl_append, List.foldl_append]
      rfl

/-! ## The options of composed strings -/

/-- The options of a connection string are what its settings make of the defaults. -/
theorem parse_eq (s : String) :
    Options.parse s =
      ((fun settings => settings.foldl Options.apply {}) <$> settings s).mapError .invalidConnectionString := by
  unfold Options.parse
  cases settings s <;> rfl

/-- A composed string is refused as the first of its parts that is refused. Otherwise what the second part sets
replaces what the first part sets. -/
theorem parse_append (s t : String) :
    Options.parse (s ++ ";" ++ t) =
      match Options.parse s, Options.parse t with
      | .error e, _ => .error e
      | .ok _, .error e => .error e
      | .ok options, .ok _ => .ok
        { options with
          readOnly := (lastSet? Setting.readOnly? t).getD options.readOnly
          countLimit := (lastSet? Setting.countLimit? t).getD options.countLimit } := by
  rw [parse_eq, parse_eq s, parse_eq t, settings_append]
  cases settings s with
  | error e => rfl
  | ok first =>
    cases hsecond : settings t with
    | error e => rfl
    | ok second =>
      refine congrArg Except.ok ?_
      show (first ++ second).foldl Options.apply {} = _
      rw [List.foldl_append, foldl_apply second, lastSet?_eq _ hsecond, lastSet?_eq _ hsecond]

/-- A key that names no option can be given anywhere between the segments of a connection string, with any
value. -/
theorem parse_intercalate_of_normalKey {key value : String} (hsemicolon : ';' ∉ key.toList)
    (hvalue : ';' ∉ value.toList) (hkey : '=' ∉ key.toList)
    (hreadOnly : normalKey key.toList ≠ "readonly".toList)
    (hlimit : normalKey key.toList ≠ "commandcount".toList) (before after : List String) :
    Options.parse (";".intercalate (before ++ (key ++ "=" ++ value) :: after)) =
      Options.parse (";".intercalate (before ++ after)) := by
  obtain ⟨segment, hone, hsegment⟩ := segmentsOf_of_normalKey hsemicolon hvalue hkey hreadOnly hlimit
  rw [parse_eq, parse_eq]
  unfold settings
  rw [segmentsOf_intercalate, segmentsOf_intercalate, List.flatMap_append, List.flatMap_append,
    List.flatMap_cons, hone, List.singleton_append, foldl_apply_append_cons hsegment]

/-- A count that is read is not negative. -/
theorem nonneg_of_readCount? {value : List Char} {count : Int} (h : readCount? value = some count) :
    0 ≤ count := by
  unfold readCount? at h
  split at h
  · split at h
    · obtain rfl := Option.some.inj h
      assumption
    · cases h
  · cases h

/-- A limit that a segment sets is not negative. -/
theorem nonneg_of_readSetting {segment : List Char} {limit : Int}
    (h : readSetting segment = .ok (.countLimit limit)) : 0 ≤ limit := by
  unfold readSetting at h
  split at h
  · cases h
  dsimp only at h
  split at h
  · split at h <;> cases h
  split at h
  · split at h
    · rename_i hcount
      cases h
      exact nonneg_of_readCount? hcount
    · cases h
  · cases h

/-- The limit of a connection string is not negative, and it says nothing about the logging of statements. -/
theorem countLimit_nonneg_of_parse {s : String} {options : Options} (h : Options.parse s = .ok options) :
    0 ≤ options.countLimit ∧ options.logLevel = ({} : Options).logLevel := by
  rw [parse_eq] at h
  cases hsettings : settings s with
  | error e =>
    rw [hsettings] at h
    cases h
  | ok list =>
    rw [hsettings] at h
    obtain rfl : list.foldl Options.apply {} = options := Except.ok.inj h
    rw [foldl_apply]
    refine ⟨?_, rfl⟩
    cases hlast : list.reverse.findSome? Setting.countLimit? with
    | none => exact le_refl 0
    | some limit =>
      obtain ⟨setting, hmem, hset⟩ := List.exists_of_findSome?_eq_some hlast
      cases setting <;> cases hset
      obtain ⟨segment, -, hsegment⟩ := exists_of_mem_mapM hsettings (List.mem_reverse.1 hmem)
      exact nonneg_of_readSetting hsegment

/-- Connection strings compose. Of two strings with a semicolon between them the first that is refused tells
the error, and otherwise an option has the value that the last segment of the second that sets it gives, or the
value of the first if there is none. Between the segments there can be any others whose keys name no option.
No accepted string sets a negative limit, and none changes whether statements are logged. -/
theorem connection_strings_compose :
    (∀ s t : String,
      Options.parse (s ++ ";" ++ t) =
        match Options.parse s, Options.parse t with
        | .error e, _ => .error e
        | .ok _, .error e => .error e
        | .ok options, .ok _ => .ok
          { options with
            readOnly := (lastSet? Setting.readOnly? t).getD options.readOnly
            countLimit := (lastSet? Setting.countLimit? t).getD options.countLimit }) ∧
      (∀ key value : String, ';' ∉ key.toList → ';' ∉ value.toList → '=' ∉ key.toList →
        normalKey key.toList ≠ "readonly".toList → normalKey key.toList ≠ "commandcount".toList →
        ∀ before after : List String,
          Options.parse (";".intercalate (before ++ (key ++ "=" ++ value) :: after)) =
            Options.parse (";".intercalate (before ++ after))) ∧
      ∀ (s : String) (options : Options), Options.parse s = .ok options →
        0 ≤ options.countLimit ∧ options.logLevel = ({} : Options).logLevel := by
  refine ⟨parse_append, ?_, fun _ _ => countLimit_nonneg_of_parse⟩
  intro key value hsemicolon hvalue hkey hreadOnly hlimit before after
  exact parse_intercalate_of_normalKey hsemicolon hvalue hkey hreadOnly hlimit before after

/-- A second string that repeats the keys of the first with other blanks and cases, and a key between two others that
only starts like that of an option. -/
theorem connection_strings_compose_repeated :
    Options.parse ("Host=db; READ\u2003only = Yes ;Command Count=7" ++ ";" ++ "command count= +12;; Read Only=off") =
        .ok { readOnly := false, countLimit := 12 } ∧
      Options.parse (";".intercalate (["command count=3"] ++ ("read only 2" ++ "=" ++ " a=b") :: ["Read Only=1"])) =
        .ok { readOnly := true, countLimit := 3 } ∧
      0 ≤ ({ readOnly := true, countLimit := 3 } : Options).countLimit ∧
      ({ readOnly := true, countLimit := 3 } : Options).logLevel = ({} : Options).logLevel := by
  refine ⟨?_, ?_, ?_⟩
  · rw [connection_strings_compose.1]
    rfl
  · rw [connection_strings_compose.2.1 "read only 2" " a=b" (by decide) (by decide) (by decide) (by decide)
      (by decide) ["command count=3"] ["Read Only=1"]]
    rfl
  · exact connection_strings_compose.2.2 "command count=3;Read Only=1" { readOnly := true, countLimit := 3 } rfl

end InProcessSql
