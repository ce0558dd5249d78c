/-!
# WalletAuth.Url.Punycode — the Bootstring encoding of RFC 3492 for domain labels

A label beyond ASCII travels in DNS as `xn--` followed by its Punycode form: the ASCII
characters of the label, a `-` if there were any, then the other code points in increasing
order, each as the distance from the previous insertion written as a variable-length number in
base 36 whose digit thresholds adapt to the text (the bias).

Arithmetic is checked against 32-bit unsigned overflow as RFC 3492 asks: a text whose numbers
would overflow is refused. Labels are refused beyond 1000 code points when encoding and 2000
characters when decoding, which no DNS label reaches.

* `encode`: a label to its Punycode form (without `xn--`).
* `decode`: a Punycode form back to its code points, or `none`.
* `threshold_pos`, `threshold_le`: every digit threshold lies between 1 and 26.
-/

namespace WalletAuth
namespace Url
namespace Punycode

/-- The largest number the arithmetic may reach: 2³² − 1. -/
def maxInt : Nat := Nat.pow 2 32 - 1

/-- The longest label encoded, in code points. -/
def maxEncodeLength : Nat := 1000

/-- The longest Punycode text decoded, in characters. -/
def maxDecodeLength : Nat := 2000

/-- The digit of a value below 36: `a`–`z` for 0–25, `0`–`9` for 26–35. -/
def digitChar (d : Nat) : Char :=
  if d < 26 then Char.ofNat (97 + d) else Char.ofNat (22 + d)

/-- The value of a digit; capitals count as their small letters. -/
def digitValue (c : Char) : Option Nat :=
  if 'a' ≤ c ∧ c ≤ 'z' then some (c.toNat - 97)
  else if 'A' ≤ c ∧ c ≤ 'Z' then some (c.toNat - 65)
  else if '0' ≤ c ∧ c ≤ '9' then some (c.toNat - 22)
  else none

/-- The threshold of the digit at position `k` (a multiple of 36) under bias `bias`. -/
def threshold (k bias : Nat) : Nat :=
  if k ≤ bias then 1 else if k ≥ bias + 26 then 26 else k - bias

theorem threshold_pos (k bias : Nat) : 1 ≤ threshold k bias := by
  unfold threshold; split <;> (try split) <;> omega

theorem threshold_le (k bias : Nat) : threshold k bias ≤ 26 := by
  unfold threshold; split <;> (try split) <;> omega

/-- Divides `delta` by 35 until it is at most 455, counting 36 for each division. -/
def scaleDown (delta k : Nat) : Nat × Nat :=
  if 455 < delta then scaleDown (delta / 35) (k + 36) else (delta, k)
termination_by delta
decreasing_by omega

/-- The bias after a code point: the distance just written, scaled. -/
def adapt (delta numPoints : Nat) (first : Bool) : Nat :=
  let delta := if first then delta / 700 else delta / 2
  let delta := delta + delta / numPoints
  let (delta, k) := scaleDown delta 0
  k + 36 * delta / (delta + 38)

/-- The digits of `q` from position `k` on, least significant first. -/
def encodeNumber (bias k q : Nat) : List Char :=
  let t := threshold k bias
  if q < t then [digitChar q]
  else digitChar (t + (q - t) % (36 - t)) :: encodeNumber bias (k + 36) ((q - t) / (36 - t))
termination_by q
decreasing_by
  have h1 := threshold_pos k bias
  have h2 := threshold_le k bias
  have : (q - threshold k bias) / (36 - threshold k bias) ≤ q - threshold k bias :=
    Nat.div_le_self _ _
  omega

/-- The state of the encoder: the text written, the distance since the last insertion, the
bias and the number of code points handled. -/
structure EncodeState where
  out : List Char
  delta : Nat
  bias : Nat
  handled : Nat

/-- One pass over the label for the code point `m`: every smaller code point lengthens the
distance, every copy of `m` is written. -/
def encodeStep (basicCount m : Nat) (st : EncodeState) (c : Nat) : EncodeState :=
  if c < m then { st with delta := st.delta + 1 }
  else if c = m then
    { out := st.out ++ encodeNumber st.bias 36 st.delta, delta := 0,
      bias := adapt st.delta (st.handled + 1) (st.handled == basicCount),
      handled := st.handled + 1 }
  else st

/-- The passes for the code points above ASCII, in increasing order; `n` is the code point
after the previous pass. `none` when a distance overflows. -/
def encodePasses (label : List Nat) (basicCount : Nat) :
    List Nat → Nat → EncodeState → Option EncodeState
  | [], _, st => some st
  | m :: rest, n, st =>
    let delta := st.delta + (m - n) * (st.handled + 1)
    if delta > maxInt then none
    else
      let st := label.foldl (encodeStep basicCount m) { st with delta := delta }
      if st.delta + 1 > maxInt then none
      else encodePasses label basicCount rest (m + 1) { st with delta := st.delta + 1 }

/-- The distinct members of a list, in increasing order. -/
def sortedDistinct (xs : List Nat) : List Nat :=
  (xs.mergeSort (· ≤ ·)).eraseDups

/-- The Punycode form of a label, without `xn--`. -/
def encode (label : List Char) : Option String :=
  if label.length > maxEncodeLength then none
  else
    let cps := label.map Char.toNat
    let basic := label.filter fun c => c.toNat < 0x80
    let start : List Char := if basic.isEmpty then [] else basic ++ ['-']
    let passes := sortedDistinct (cps.filter (· ≥ 0x80))
    (encodePasses cps basic.length passes 0x80 ⟨start, 0, 72, basic.length⟩).map
      fun st => String.ofList st.out

/-- Reads one variable-length number from position `k` on, adding each digit times its weight
`w` to `i`; the rest of the text is shorter than the text read from. -/
def decodeNumber (bias : Nat) : (cs : List Char) → (k w i : Nat) →
    Option {r : Nat × List Char // r.2.length < cs.length}
  | [], _, _, _ => none
  | c :: rest, k, w, i =>
    match digitValue c with
    | none => none
    | some d =>
      if i + d * w > maxInt then none
      else
        let i := i + d * w
        let t := threshold k bias
        if d < t then some ⟨(i, rest), by simp⟩
        else if w * (36 - t) > maxInt then none
        else
          match decodeNumber bias rest (k + 36) (w * (36 - t)) i with
          | some ⟨r, h⟩ => some ⟨r, by simp; omega⟩
          | none => none

/-- Inserts the decoded code points: `n` is the code point reached, `i` the insertion point,
`first` whether no number was read yet. -/
def decodeInsertions (cs : List Char) (out : List Nat) (n i bias : Nat) (first : Bool) :
    Option (List Nat) :=
  if cs.isEmpty then some out
  else
    match decodeNumber bias cs 36 1 i with
    | none => none
    | some ⟨(i', rest), _⟩ =>
      let len := out.length + 1
      let bias := adapt (i' - i) len first
      let n := n + i' / len
      let i := i' % len
      if n > maxInt ∨ n > 0x10FFFF ∨ (0xD800 ≤ n ∧ n ≤ 0xDFFF) then none
      else decodeInsertions rest (out.take i ++ n :: out.drop i) n (i + 1) bias false
termination_by cs.length

/-- The code points of a Punycode form (without `xn--`): the ASCII characters before the last
`-` (when there are any), then the inserted code points. -/
def decode (input : List Char) : Option (List Nat) :=
  if input.length > maxDecodeLength then none
  else
    let (basic, rest) :=
      match input.reverse.dropWhile (· ≠ '-') with
      | [] | [_] => ([], input)
      | _ :: revBasic => (revBasic.reverse, input.drop (revBasic.length + 1))
    if basic.any (·.toNat ≥ 0x80) then none
    else decodeInsertions rest (basic.map Char.toNat) 0x80 0 72 true

end Punycode
end Url
end WalletAuth
