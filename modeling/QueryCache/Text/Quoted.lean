import QueryCache.Text.Range
import QueryCache.Text.UnprintableTable

/-!
# Quoted text

A text between double quotes, with backslash escapes for the quote, the backslash, the
common control characters and every character that could not be read on its own.
-/

namespace QueryCache.Text

private def hexDigits (n : Nat) : String := String.ofList (Nat.toDigits 16 n)

/-- The written form of a character inside quotes. -/
def escapeChar (c : Char) : String :=
  match c with
  | '\x00' => "\\0"
  | '\t' => "\\t"
  | '\n' => "\\n"
  | '\r' => "\\r"
  | '"' => "\\\""
  | '\\' => "\\\\"
  | c =>
    if inRanges extendingRanges c.toNat || inRanges unprintableRanges c.toNat then
      "\\u\x7b" ++ hexDigits c.toNat ++ "\x7d"
    else c.toString

/-- A text between quotes. -/
def quoted (s : String) : String := "\"" ++ String.join (s.toList.map escapeChar) ++ "\""

end QueryCache.Text
