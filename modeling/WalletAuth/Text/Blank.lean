/-!
# WalletAuth.Text.Blank — the Unicode `White_Space` characters

Domains, URIs and request ids may hold no blank, and configuration values are trimmed of
blanks at both ends. Blank means the Unicode `White_Space` property: the ASCII tab, line feed,
vertical tab, form feed, carriage return and space, and eighteen characters beyond ASCII.
-/

namespace WalletAuth
namespace Text

/-- The Unicode `White_Space` property. -/
def isBlank (c : Char) : Bool :=
  let v := c.toNat
  (0x09 ≤ v && v ≤ 0x0D) || v == 0x20 || v == 0x85 || v == 0xA0 || v == 0x1680 ||
    (0x2000 ≤ v && v ≤ 0x200A) || v == 0x2028 || v == 0x2029 || v == 0x202F ||
    v == 0x205F || v == 0x3000

/-- Every ASCII blank of core's class is blank here too. -/
theorem isBlank_of_isWhitespace (c : Char) (h : c.isWhitespace = true) : isBlank c = true := by
  simp only [Char.isWhitespace, Bool.or_eq_true, decide_eq_true_eq] at h
  simp only [isBlank, Bool.or_eq_true, Bool.and_eq_true, beq_iff_eq, decide_eq_true_eq]
  rcases h with ((h | h) | h) | h <;> subst h <;> decide

/-- `s` holds a blank. -/
def hasBlank (s : String) : Bool := s.toList.any isBlank

/-- `s` without blanks at either end. -/
def trimBlank (s : String) : String :=
  String.ofList ((s.toList.dropWhile isBlank).reverse.dropWhile isBlank).reverse

end Text
end WalletAuth
