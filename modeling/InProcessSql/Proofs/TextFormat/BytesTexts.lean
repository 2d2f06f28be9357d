import InProcessSql.Proofs.FallibleMap
import InProcessSql.Proofs.TextFormat.ArrayTexts

/-!
# Texts of bytes

A text of bytes is `\x` and a pair of hexadecimal digits for each byte. `TextFormat.exists_decode_bytes_iff` says
which texts are read as bytes: those, and the texts that have a plus sign in the place of the first digit of a pair.
The bytes are written again with the digits in small letters, and with a zero for the plus sign.
-/

namespace InProcessSql.TextFormat

open InProcessSql.Calendar InProcessSql.Text

/-! ## Hexadecimal digits -/

/-- The hexadecimal digits, in either letter case. -/
def hexDigitChars : List Char :=
  ['0', '1', '2', '3', '4', '5', '6', '7', '8', '9', 'a', 'b', 'c', 'd', 'e', 'f', 'A', 'B', 'C', 'D', 'E', 'F']

/-- A digit stands for a number below sixteen, which is written as the digit in its small letter. -/
theorem exists_hexValue? : ∀ c ∈ hexDigitChars, ∃ n < 16, hexValue? c = some n ∧ Nat.digitChar n = c.toLower := by
  rw [← List.all_iff_forall_prop]
  decide

/-- Only digits stand for numbers. -/
theorem mem_hexDigitChars {c : Char} {n : Nat} (h : hexValue? c = some n) : c ∈ hexDigitChars := by
  have hbounds : (48 ≤ c.toNat ∧ c.toNat ≤ 57) ∨ (97 ≤ c.toNat ∧ c.toNat ≤ 102) ∨
      (65 ≤ c.toNat ∧ c.toNat ≤ 70) := by
    rw [hexValue?] at h
    split_ifs at h with hdigit hsmall hcapital
    · simp only [Char.isDigit, Bool.and_eq_true, decide_eq_true_eq] at hdigit
      exact .inl hdigit
    · exact .inr (.inl hsmall)
    · exact .inr (.inr hcapital)
  rw [← Char.ofNat_toNat c]
  generalize c.toNat = code at hbounds
  rcases hbounds with ⟨hlo, hhi⟩ | ⟨hlo, hhi⟩ | ⟨hlo, hhi⟩ <;> interval_cases code <;> decide

theorem utf8Size_of_mem : ∀ c ∈ '+' :: hexDigitChars, c.utf8Size = 1 := by
  rw [← List.all_iff_forall_prop]
  decide

theorem ne_plus_of_mem : ∀ c ∈ hexDigitChars, c ≠ '+' := by
  rw [← List.all_iff_forall_prop]
  decide

/-! ## Pairs -/

/-- Texts of pairs of hexadecimal digits, where a plus sign may stand for the first digit of a pair. -/
inductive HexPairs : List Char → Prop
  | nil : HexPairs []
  | cons {c d : Char} {cs : List Char} (hc : c = '+' ∨ c ∈ hexDigitChars) (hd : d ∈ hexDigitChars)
    (hcs : HexPairs cs) : HexPairs (c :: d :: cs)

/-- How a digit is written: in its small letter, and a plus sign as a zero. -/
def writtenDigit (c : Char) : Char := if c = '+' then '0' else c.toLower

theorem writtenDigit_of_mem {c : Char} (h : c ∈ hexDigitChars) : writtenDigit c = c.toLower :=
  if_neg (ne_plus_of_mem c h)

/-- A pair is read as a byte, which is written as that pair. -/
theorem exists_readHexPair {c d : Char} (hc : c = '+' ∨ c ∈ hexDigitChars) (hd : d ∈ hexDigitChars) :
    ∃ b, readHexPair c d = .ok b ∧ hexByte b = [writtenDigit c, writtenDigit d] := by
  have hfirst : ∃ high < 16, (if c == '+' then some 0 else hexValue? c) = some high ∧
      Nat.digitChar high = writtenDigit c := by
    rcases hc with rfl | hc
    · exact ⟨0, by decide, rfl, rfl⟩
    · obtain ⟨high, hhigh, hvalue, hwritten⟩ := exists_hexValue? c hc
      refine ⟨high, hhigh, ?_, hwritten.trans (writtenDigit_of_mem hc).symm⟩
      rw [if_neg (by simpa using ne_plus_of_mem c hc), hvalue]
  obtain ⟨high, hhigh, hvalue, hwritten⟩ := hfirst
  obtain ⟨low, hlow, hvalue', hwritten'⟩ := exists_hexValue? d hd
  refine ⟨UInt8.ofNat (16 * high + low), by rw [readHexPair, hvalue, hvalue'], ?_⟩
  have hbyte : (UInt8.ofNat (16 * high + low)).toNat = 16 * high + low := by
    rw [UInt8.toNat_ofNat', Nat.mod_eq_of_lt]
    omega
  have hdiv : (16 * high + low) / 16 = high := by omega
  have hmod : (16 * high + low) % 16 = low := by omega
  rw [hexByte, hbyte, hdiv, hmod, hwritten, hwritten', writtenDigit_of_mem hd]

/-- Pairs are read as bytes, which are written as those pairs. -/
theorem HexPairs.exists_readHexPairs {cs : List Char} (h : HexPairs cs) :
    ∃ bytes, readHexPairs cs = .ok bytes ∧ bytes.flatMap hexByte = cs.map writtenDigit := by
  induction h with
  | nil => exact ⟨[], rfl, rfl⟩
  | @cons c d cs hc hd hcs ih =>
    obtain ⟨b, hb, hwritten⟩ := exists_readHexPair hc hd
    obtain ⟨bs, hbs, hwritten'⟩ := ih
    refine ⟨b :: bs, ?_, ?_⟩
    · rw [readHexPairs, if_pos (utf8Size_of_mem c (by simpa using hc)),
        if_pos (utf8Size_of_mem d (List.mem_cons_of_mem _ hd)), hb, hbs]
      rfl
    · rw [List.flatMap_cons, hwritten, hwritten']
      rfl

/-- Only pairs are read as bytes. -/
theorem hexPairs_of_readHexPairs {cs : List Char} {bytes : List UInt8} (h : readHexPairs cs = .ok bytes) :
    HexPairs cs := by
  fun_induction readHexPairs cs generalizing bytes with
  | case1 => exact .nil
  | case5 c d cs hc hd ih =>
    obtain ⟨b, hb, h⟩ := bind_eq_ok_iff.1 h
    obtain ⟨bs, hbs, -⟩ := bind_eq_ok_iff.1 h
    rw [readHexPair] at hb
    split at hb
    · next high low hhigh hlow =>
      refine .cons ?_ (mem_hexDigitChars hlow) (ih hbs)
      by_cases hplus : c = '+'
      · exact .inl hplus
      · rw [if_neg (by simpa using hplus)] at hhigh
        exact .inr (mem_hexDigitChars hhigh)
    · cases hb
  | _ => cases h

/-- Pairs have an even number of bytes. -/
theorem HexPairs.byteCount_mod {cs : List Char} (h : HexPairs cs) : byteCount cs % 2 = 0 := by
  induction h with
  | nil => rfl
  | @cons c d cs hc hd hcs ih =>
    have hfirst := utf8Size_of_mem c (by simpa using hc)
    have hsecond := utf8Size_of_mem d (List.mem_cons_of_mem _ hd)
    show (c.utf8Size + (d.utf8Size + byteCount cs)) % 2 = 0
    omega

/-- Without plus signs, pairs are any digits of which there is an even number. -/
theorem hexPairs_iff_of_notMem {cs : List Char} (h : '+' ∉ cs) :
    HexPairs cs ↔ cs.length % 2 = 0 ∧ ∀ c ∈ cs, c ∈ hexDigitChars := by
  constructor
  · intro hpairs
    induction hpairs with
    | nil => exact ⟨rfl, nofun⟩
    | @cons c d cs hc hd hcs ih =>
      simp only [List.mem_cons, not_or] at h
      obtain ⟨hlength, hdigits⟩ := ih h.2.2
      refine ⟨by simp only [List.length_cons]; omega, ?_⟩
      exact List.forall_mem_cons.2 ⟨hc.resolve_left (Ne.symm h.1), List.forall_mem_cons.2 ⟨hd, hdigits⟩⟩
  · rintro ⟨hlength, hdigits⟩
    induction cs using List.twoStepInduction with
    | nil => exact .nil
    | singleton c => cases hlength
    | cons_cons c d cs ih _ =>
      simp only [List.mem_cons, not_or] at h
      rw [List.forall_mem_cons, List.forall_mem_cons] at hdigits
      refine .cons (.inr hdigits.1) hdigits.2.1 (ih h.2.2 ?_ hdigits.2.2)
      simp only [List.length_cons] at hlength
      omega

/-! ## Texts -/

/-- Bytes are read from an even number of bytes behind the prefix. -/
theorem readBytes_eq_ok_iff {cs : List Char} {bytes : List UInt8} :
    readBytes cs = .ok bytes ↔ ∃ pairs, cs = '\\' :: 'x' :: pairs ∧ byteCount pairs % 2 = 0 ∧
      readHexPairs pairs = .ok bytes := by
  constructor
  · intro h
    rw [readBytes.eq_def] at h
    split at h
    · next pairs =>
      split_ifs at h with heven
      exact ⟨pairs, rfl, heven, h⟩
    · cases h
  · rintro ⟨pairs, rfl, heven, h⟩
    rw [readBytes, if_pos heven, h]

/-- A text is decoded as bytes if it is read as such. -/
theorem decode_bytes_eq_ok_iff {text : String} {v : Value} :
    decode 17 text = .ok v ↔ ∃ bytes, readBytes text.toList = .ok bytes ∧ Value.bytea bytes = v := by
  have htype : scalarOfOid? 17 = some .bytea := by decide
  rw [decode_of_scalarOfOid? htype, mapError_eq_ok_iff, readScalar, map_eq_ok_iff]
  simp only [mapError_eq_ok_iff]

/-- A text is decoded as bytes, whose OID is 17, exactly if it is `\x` and pairs of hexadecimal digits, where a plus
sign may stand for the first digit of a pair. Without plus signs it is decoded exactly if it is `\x` and an even
number of digits. In any case the bytes are written as the text is, with the digits in small letters and with a
zero for each plus sign. -/
theorem exists_decode_bytes_iff (text : String) :
    ((∃ v, decode 17 text = .ok v) ↔ ∃ cs, text.toList = '\\' :: 'x' :: cs ∧ HexPairs cs) ∧
      ('+' ∉ text.toList → ((∃ v, decode 17 text = .ok v) ↔
        ∃ cs, text.toList = '\\' :: 'x' :: cs ∧ cs.length % 2 = 0 ∧ ∀ c ∈ cs, c ∈ hexDigitChars)) ∧
      ∀ v, decode 17 text = .ok v → (write v).toList = text.toList.map writtenDigit := by
  have hiff : (∃ v, decode 17 text = .ok v) ↔ ∃ cs, text.toList = '\\' :: 'x' :: cs ∧ HexPairs cs := by
    simp only [decode_bytes_eq_ok_iff, readBytes_eq_ok_iff]
    constructor
    · rintro ⟨v, bytes, ⟨cs, htext, -, hread⟩, -⟩
      exact ⟨cs, htext, hexPairs_of_readHexPairs hread⟩
    · rintro ⟨cs, htext, hpairs⟩
      obtain ⟨bytes, hread, -⟩ := hpairs.exists_readHexPairs
      exact ⟨_, bytes, ⟨cs, htext, hpairs.byteCount_mod, hread⟩, rfl⟩
  refine ⟨hiff, fun hplus => ?_, fun v hv => ?_⟩
  · rw [hiff]
    refine exists_congr fun cs => and_congr_right fun htext => hexPairs_iff_of_notMem ?_
    rw [htext] at hplus
    exact fun hmem => hplus (List.mem_cons_of_mem _ (List.mem_cons_of_mem _ hmem))
  · simp only [decode_bytes_eq_ok_iff, readBytes_eq_ok_iff] at hv
    obtain ⟨bytes, ⟨cs, htext, -, hread⟩, rfl⟩ := hv
    obtain ⟨bytes', hread', hwritten⟩ := (hexPairs_of_readHexPairs hread).exists_readHexPairs
    -- The digits determine the bytes, so that these are the ones that are written so.
    obtain rfl : bytes = bytes' := Except.ok.inj (hread.symm.trans hread')
    rw [write, String.toList_ofList, writeChars, writeBytes, hwritten, htext]
    rfl

/-- Digits in both letter cases, behind a plus sign in the place of a first digit. -/
theorem exists_decode_bytes_iff_mixed :
    HexPairs ['+', 'a', '0', 'F'] ∧ decode 17 "\\x+a0F" = .ok (.bytea [10, 15]) ∧
      (write (.bytea [10, 15])).toList = ['\\', 'x', '0', 'a', '0', 'f'] ∧
      '+' ∉ "\\xCd".toList ∧ ∃ v, decode 17 "\\xCd" = .ok v := by
  have hpairs : HexPairs ['+', 'a', '0', 'F'] :=
    .cons (.inl rfl) (by decide) (.cons (.inr (by decide)) (by decide) .nil)
  have hdecode : decode 17 "\\x+a0F" = .ok (.bytea [10, 15]) := by rfl
  obtain ⟨-, -, hwritten⟩ := exists_decode_bytes_iff "\\x+a0F"
  obtain ⟨-, hplain, -⟩ := exists_decode_bytes_iff "\\xCd"
  have hplus : '+' ∉ "\\xCd".toList := by decide
  exact ⟨hpairs, hdecode, hwritten _ hdecode, hplus, (hplain hplus).2 ⟨['C', 'd'], rfl, rfl, by simp [hexDigitChars]⟩⟩

/-- A plus sign in the place of a digit is decoded, and not kept when the byte is written. -/
theorem decode_plus_sign :
    decode 17 "\\x+1" = .ok (.bytea [1]) ∧ write (.bytea [1]) = "\\x01" ∧
      ¬∃ cs, "\\x+1".toList = '\\' :: 'x' :: cs ∧ cs.length % 2 = 0 ∧ ∀ c ∈ cs, c ∈ hexDigitChars := by
  refine ⟨rfl, rfl, ?_⟩
  rintro ⟨cs, htext, -, hdigits⟩
  obtain rfl : ['+', '1'] = cs := by simpa using htext
  exact absurd (hdigits '+' List.mem_cons_self) (by decide)

end InProcessSql.TextFormat
