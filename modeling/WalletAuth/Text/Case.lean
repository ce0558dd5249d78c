/-!
# WalletAuth.Text.Case — comparing texts without regard to ASCII case

Domains, schemes and origins compare equal when they differ only in the case of ASCII letters;
every other character must match exactly.
-/

namespace WalletAuth
namespace Text

/-- A character with an ASCII capital letter lowered. -/
def asciiLower (c : Char) : Char := if 'A' ≤ c ∧ c ≤ 'Z' then Char.ofNat (c.toNat + 32) else c

/-- Whether two texts are equal once ASCII capitals are lowered. -/
def eqIgnoreAsciiCase (a b : String) : Bool := a.toList.map asciiLower == b.toList.map asciiLower

/-- The text with every trailing copy of `c` removed. -/
def trimEndChar (s : String) (c : Char) : String :=
  String.ofList (s.toList.reverse.dropWhile (· == c)).reverse

theorem eqIgnoreAsciiCase_refl (a : String) : eqIgnoreAsciiCase a a = true := by
  simp [eqIgnoreAsciiCase]

end Text
end WalletAuth
