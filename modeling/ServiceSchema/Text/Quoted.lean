/-
Texts in double quotes, as messages to people show them. Quotes, backslashes and
the usual control characters are escaped by a backslash and a character; whatever
else cannot be seen on its own is escaped by its code point.
-/
import ServiceSchema.Text.Blank
import ServiceSchema.Text.QuoteTable

namespace ServiceSchema.Text

/-- The hexadecimal digits of a number, in lower case. -/
def hex (n : Nat) : String :=
  String.ofList (Nat.toDigits 16 n)

/-- Whether a character can stand as it is. -/
def isPrintable (c : Char) : Bool :=
  if c.toNat < 0x7F then 0x20 ≤ c.toNat
  else !inRanges extendRanges c.toNat && !inRanges unprintableRanges c.toNat

def quoteChar (c : Char) : String :=
  match c with
  | '"' => "\\\""
  | '\\' => "\\\\"
  | '\n' => "\\n"
  | '\r' => "\\r"
  | '\t' => "\\t"
  | c =>
    if c.toNat = 0 then "\\0"
    else if isPrintable c then c.toString
    else "\\u\x7b" ++ hex c.toNat ++ "\x7d"

def quote (s : String) : String :=
  "\"" ++ String.join (s.toList.map quoteChar) ++ "\""

end ServiceSchema.Text
