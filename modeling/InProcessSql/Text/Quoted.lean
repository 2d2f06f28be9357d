import InProcessSql.Text.Printable

/-!
# Quoted texts

A quoted text shows what it holds unambiguously: quotes, backslashes and line breaks are escaped with a
backslash, and characters that do not show by themselves are written by their code point. Bytes are quoted
as the characters of their values, with those outside printable ASCII written in hexadecimal.
-/

namespace InProcessSql.Text

/-- The hexadecimal digits of a number. -/
def hexDigits (n : Nat) : List Char := Nat.toDigits 16 n

/-- A character inside quotes. -/
def escapeChar (quote c : Char) : List Char :=
  if c == '\x00' then ['\\', '0']
  else if c == '\t' then ['\\', 't']
  else if c == '\r' then ['\\', 'r']
  else if c == '\n' then ['\\', 'n']
  else if c == '\\' || c == quote then ['\\', c]
  else if isPrintable c then [c]
  else '\\' :: 'u' :: '\x7b' :: hexDigits c.toNat ++ ['\x7d']

def quoted (s : String) : String :=
  String.ofList ('\x22' :: s.toList.flatMap (escapeChar '\x22') ++ ['\x22'])

def quotedChar (c : Char) : String := String.ofList ('\x27' :: escapeChar '\x27' c ++ ['\x27'])

def hexByte (b : UInt8) : List Char := [Nat.digitChar (b.toNat / 16), Nat.digitChar (b.toNat % 16)]

/-- A byte inside quotes. -/
def escapeByte (b : UInt8) : List Char :=
  if b == 0x0A then ['\\', 'n']
  else if b == 0x0D then ['\\', 'r']
  else if b == 0x09 then ['\\', 't']
  else if b == 0x5C || b == 0x22 then ['\\', Char.ofNat b.toNat]
  else if b == 0 then ['\\', '0']
  else if 0x20 ≤ b && b < 0x7F then [Char.ofNat b.toNat]
  else '\\' :: 'x' :: hexByte b

/-- Bytes in double quotes, after the letter b. -/
def quotedBytes (bytes : List UInt8) : String :=
  String.ofList ('b' :: '\x22' :: bytes.flatMap escapeByte ++ ['\x22'])

end InProcessSql.Text
