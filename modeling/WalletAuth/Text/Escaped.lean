import WalletAuth.Text.Invisible

/-!
# WalletAuth.Text.Escaped — quoted, escaped text for diagnostics

Error messages and debug views quote a text or a character and escape what would not show:
the backslash, the quote itself, NUL, tab, line feed and carriage return get a backslash
letter, and every other invisible character (`Text.isInvisible`: one that would not show, or
that combines with the one before it) is written `\u{h…}` in lowercase hex without leading
zeros.

* `quote`, `quoteChar`: the two quoted forms; a text escapes `"`, a character escapes `'`.
-/

namespace WalletAuth
namespace Text

/-- Lowercase hexadecimal digits of `v`, without leading zeros. -/
def hexDigits (v : Nat) : String :=
  String.ofList (Nat.toDigits 16 v)

/-- `\u{h…}` for a character. -/
def unicodeEscape (c : Char) : String :=
  "\\u\x7b" ++ hexDigits c.toNat ++ "\x7d"

/-- One character inside quotes `q`. -/
def escapeChar (q : Char) (c : Char) : String :=
  if c == '\x00' then "\\0"
  else if c == '\t' then "\\t"
  else if c == '\r' then "\\r"
  else if c == '\n' then "\\n"
  else if c == '\\' || c == q then "\\" ++ c.toString
  else if isInvisible c then unicodeEscape c
  else c.toString

/-- A text in double quotes, escaped. -/
def quote (s : String) : String :=
  "\"" ++ String.join (s.toList.map (escapeChar '"')) ++ "\""

/-- A character in single quotes, escaped. -/
def quoteChar (c : Char) : String :=
  "'" ++ escapeChar '\'' c ++ "'"

end Text
end WalletAuth
