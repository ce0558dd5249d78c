/-!
# WalletAuth.Encoding.Base64 — bytes as text in the standard base64 alphabet

Every three bytes become four digits of six bits each, from the alphabet `A-Z`, `a-z`, `0-9`,
`+`, `/`. A last group of two bytes becomes three digits and one `=`, a last group of one byte
two digits and `==`, so the text always has four characters for every started group of three.
-/

namespace WalletAuth
namespace Base64

/-- The digit of a six-bit value. -/
def digit (v : Nat) : Char :=
  if v < 26 then Char.ofNat (65 + v)
  else if v < 52 then Char.ofNat (71 + v)
  else if v < 62 then Char.ofNat (v - 4)
  else if v = 62 then '+'
  else '/'

/-- The four digits of a 24-bit group, of which the first `kept` are written and the rest are
padding. -/
def group (n kept : Nat) : List Char :=
  [n / 262144 % 64, n / 4096 % 64, n / 64 % 64, n % 64].zipIdx.map fun (v, i) =>
    if i < kept then digit v else '='

/-- The digits of a byte list. -/
def encodeList : List UInt8 → List Char
  | a :: b :: c :: rest =>
    group (a.toNat * 65536 + b.toNat * 256 + c.toNat) 4 ++ encodeList rest
  | [a, b] => group (a.toNat * 65536 + b.toNat * 256) 3
  | [a] => group (a.toNat * 65536) 2
  | [] => []

/-- The base64 text of a byte string. -/
def encode (b : ByteArray) : String := String.ofList (encodeList b.toList)

@[simp] theorem group_length (n kept : Nat) : (group n kept).length = 4 := by
  simp [group]

/-- Four characters for every started group of three bytes. -/
theorem encodeList_length (bs : List UInt8) :
    (encodeList bs).length = 4 * ((bs.length + 2) / 3) := by
  induction bs using encodeList.induct with
  | case1 a b c rest ih => simp [encodeList, ih]; omega
  | case2 a b => simp [encodeList]
  | case3 a => simp [encodeList]
  | case4 => simp [encodeList]

end Base64
end WalletAuth
