/-!
# WalletAuth.Text.Decimal — unsigned integers written in decimal

A setting such as a chain id or a time to live is an unsigned integer of a fixed width, written
as decimal digits with an optional leading `+`. Nothing else is allowed, not even a blank: the
text is read exactly as given.

* An empty text is its own error.
* A sign alone, a `-`, or any byte that is not a digit is an invalid digit.
* A value that needs more than the width's bits overflows.
-/

namespace WalletAuth
namespace Text

/-- Why a text is not an unsigned integer. -/
inductive DecimalError where
  | empty
  | invalidDigit
  | overflow
  deriving DecidableEq, Repr

/-- The sentence that reports the error. -/
def DecimalError.message : DecimalError → String
  | .empty => "cannot parse integer from empty string"
  | .invalidDigit => "invalid digit found in string"
  | .overflow => "number too large to fit in target type"

/-- The value of decimal digits, or the first error met reading them left to right. -/
def decimalDigits (limit : Nat) : List Char → Nat → Except DecimalError Nat
  | [], acc => .ok acc
  | c :: cs, acc =>
    if c.isDigit then
      let v := acc * 10 + (c.toNat - 48)
      if v > limit then .error .overflow else decimalDigits limit cs v
    else .error .invalidDigit

/-- An unsigned integer of `bits` bits. -/
def parseUnsigned (bits : Nat) (s : String) : Except DecimalError Nat :=
  match s.toList with
  | [] => .error .empty
  | ['+'] | ['-'] => .error .invalidDigit
  | '+' :: ds => decimalDigits (Nat.pow 2 bits - 1) ds 0
  | ds => decimalDigits (Nat.pow 2 bits - 1) ds 0

end Text
end WalletAuth
