/-!
# WalletAuth.Number.Binary64 — double-precision values and their shortest decimal text

JSON readers keep a number that is neither a small integer nor negative as a binary64 value,
and error messages print it back. Both directions are exact rational arithmetic on `Nat`:

* `Binary64.round`: the value nearest to `num / den · 2^scale`, ties to an even mantissa,
  above the largest finite value an infinity.
* `Binary64.mul`, `Binary64.div`: the exact product or quotient, rounded once.
* `shortest`: the decimal with the fewest significant digits that reads back as the value,
  and of two such the nearer, an exact tie going to the even one.
* `Binary64.text`: those digits laid out positionally when the decimal exponent lies between
  `-5` and `16`, with `.0` after a whole number, and as `d.ddde±x` otherwise, the exponent
  always signed.
-/

namespace WalletAuth

/-- A binary64 value. A finite one is `mantissa · 2^exponent` in canonical form: zero is
mantissa `0` at exponent `-1074`; a normal value has `2^52 ≤ mantissa < 2^53` and
`-1074 ≤ exponent ≤ 971`; a subnormal one has `mantissa < 2^52` at exponent `-1074`. -/
inductive Binary64 where
  | finite (negative : Bool) (mantissa : Nat) (exponent : Int)
  | infinity (negative : Bool)
  deriving DecidableEq, Repr, Inhabited

namespace Binary64

/-- The least exponent of the format. -/
def minExponent : Int := -1074

/-- The greatest exponent of a finite value. -/
def maxExponent : Int := 971

/-- `⌊log₂ (num / den)⌋` for positive `num` and `den`. -/
def floorLog2 (num den : Nat) : Int :=
  let k : Int := (num.log2 : Int) - den.log2
  if num * Nat.pow 2 (-k).toNat < den * Nat.pow 2 k.toNat then k - 1 else k

/-- The value nearest to `num / den · 2^scale` with the given sign; of two equally near the
one with an even mantissa. -/
def round (negative : Bool) (num den : Nat) (scale : Int) : Binary64 :=
  if num = 0 ∨ den = 0 then .finite negative 0 minExponent
  else
    let e := max minExponent (floorLog2 num den + scale - 52)
    let n := num * Nat.pow 2 (scale - e).toNat
    let d := den * Nat.pow 2 (e - scale).toNat
    let q := n / d
    let r := n % d
    let q := if 2 * r > d ∨ (2 * r = d ∧ q % 2 = 1) then q + 1 else q
    let (q, e) := if q = Nat.pow 2 53 then (Nat.pow 2 52, e + 1) else (q, e)
    if e > maxExponent then .infinity negative else .finite negative q e

/-- The value nearest to a natural number. -/
def ofNat (n : Nat) : Binary64 := round false n 1 0

/-- Whether the value is an infinity. -/
def isInfinite : Binary64 → Bool
  | .infinity _ => true
  | .finite .. => false

/-- Whether the value is a zero of either sign. -/
def isZero : Binary64 → Bool
  | .finite _ m _ => m == 0
  | .infinity _ => false

/-- The value with its sign flipped. -/
def neg : Binary64 → Binary64
  | .finite s m e => .finite (!s) m e
  | .infinity s => .infinity (!s)

/-- The rounded product. -/
def mul : Binary64 → Binary64 → Binary64
  | .finite s m e, .finite t n f => round (s != t) (m * n) 1 (e + f)
  | .finite s m _, .infinity t => if m = 0 then .finite (s != t) 0 minExponent else .infinity (s != t)
  | .infinity s, .finite t n _ => if n = 0 then .finite (s != t) 0 minExponent else .infinity (s != t)
  | .infinity s, .infinity t => .infinity (s != t)

/-- The rounded quotient; a finite value over an infinity is zero, over zero an infinity. -/
def div : Binary64 → Binary64 → Binary64
  | .finite s m e, .finite t n f =>
    if n = 0 then .infinity (s != t) else round (s != t) m n (e - f)
  | .finite s _ _, .infinity t => .finite (s != t) 0 minExponent
  | .infinity s, .finite t _ _ => .infinity (s != t)
  | .infinity s, .infinity t => .infinity (s != t)

/-- `10^i`, rounded. -/
def pow10 (i : Nat) : Binary64 := ofNat (Nat.pow 10 i)

end Binary64

/-- Compare `a · 10^i` with `n · 2^j`, exactly. -/
def cmpScaled (a : Nat) (i : Int) (n : Nat) (j : Int) : Ordering :=
  compare (a * Nat.pow 10 i.toNat * Nat.pow 2 (-j).toNat)
    (n * Nat.pow 2 j.toNat * Nat.pow 10 (-i).toNat)

/-- Whether `digits · 10^exp` lies among the reals that round to the positive finite value
`m · 2^e`: strictly inside the gap to each neighbour, the ends too when `m` is even. Below a
power of two the gap down is half the gap up. -/
def readsBack (m : Nat) (e : Int) (digits : Nat) (exp : Int) : Bool :=
  let narrow := m == Nat.pow 2 52 && e > Binary64.minExponent
  let lo := if narrow then 4 * m - 1 else 4 * m - 2
  let hi := 4 * m + 2
  let incl := m % 2 == 0
  let cl := cmpScaled digits exp lo (e - 2)
  let ch := cmpScaled digits exp hi (e - 2)
  (cl == .gt || (incl && cl == .eq)) && (ch == .lt || (incl && ch == .eq))

/-- The number of decimal digits of `n`, `1` for zero. -/
def decimalLength (n : Nat) : Nat := (Nat.toDigits 10 n).length

/-- `⌊log₁₀ (m · 2^e)⌋` for positive `m`. -/
def floorLog10 (m : Nat) (e : Int) : Int :=
  let num := m * Nat.pow 2 e.toNat
  let den := Nat.pow 2 (-e).toNat
  let k : Int := (decimalLength num : Int) - decimalLength den
  if num * Nat.pow 10 (-k).toNat < den * Nat.pow 10 k.toNat then k - 1 else k

/-- Drops trailing zero digits, raising the exponent for each. -/
def stripZeros : Nat → Nat → Int → Nat × Int
  | 0, d, k => (d, k)
  | fuel + 1, d, k => if d ≠ 0 ∧ d % 10 = 0 then stripZeros fuel (d / 10) (k + 1) else (d, k)

/-- The candidate with `n` significant digits for the positive finite value `m · 2^e`, whose
decimal exponent is `E`: of the two neighbours on the grid `10^(E + 1 - n)` those that read
back, the nearer, an exact tie to the even one. -/
def candidate (m : Nat) (e : Int) (E : Int) (n : Nat) : Option (Nat × Int) :=
  let t : Int := E + 1 - n
  -- v / 10^t = num / den
  let num := m * Nat.pow 2 e.toNat * Nat.pow 10 (-t).toNat
  let den := Nat.pow 2 (-e).toNat * Nat.pow 10 t.toNat
  let c := num / den
  let lowOk := readsBack m e c t
  let highOk := readsBack m e (c + 1) t
  if lowOk && highOk then
    -- compare 2v with (2c + 1) · 10^t, that is 2 num with (2c + 1) den
    match compare (2 * num) ((2 * c + 1) * den) with
    | .lt => some (c, t)
    | .gt => some (c + 1, t)
    | .eq => some (if c % 2 = 0 then c else c + 1, t)
  else if lowOk then some (c, t)
  else if highOk then some (c + 1, t)
  else none

/-- The shortest decimal `digits · 10^exp` reading back as the positive finite value
`m · 2^e`, without trailing zeros. Seventeen digits always suffice. -/
def shortest (m : Nat) (e : Int) : Nat × Int :=
  let E := floorLog10 m e
  let found := (List.range 17).findSome? fun i => candidate m e E (i + 1)
  let (d, k) := found.getD (m, e)
  stripZeros 20 d k

namespace Binary64

/-- The decimal exponent as printed: always with its sign, `+` or `-`. -/
def exponentText (x : Int) : String := if x < 0 then toString x else "+" ++ toString x

/-- The text of a value: shortest digits, positional for decimal exponents from `-5` to `16`
(a whole number ends in `.0`), otherwise one digit, a point when more follow, and `e` with
the exponent. -/
def text : Binary64 → String
  | .infinity neg => if neg then "-inf" else "inf"
  | .finite neg m e =>
    let sign := if neg then "-" else ""
    if m = 0 then sign ++ "0.0"
    else
      let (d, k) := shortest m e
      let ds := toString d
      let len : Int := ds.length
      let kk := len + k
      if 0 ≤ k ∧ kk ≤ 16 then
        sign ++ ds ++ String.ofList (List.replicate k.toNat '0') ++ ".0"
      else if 0 < kk ∧ kk ≤ 16 then
        sign ++ String.ofList (ds.toList.take kk.toNat) ++ "." ++
          String.ofList (ds.toList.drop kk.toNat)
      else if -5 < kk ∧ kk ≤ 0 then
        sign ++ "0." ++ String.ofList (List.replicate (-kk).toNat '0') ++ ds
      else if ds.length = 1 then
        sign ++ ds ++ "e" ++ exponentText (kk - 1)
      else
        sign ++ String.ofList (ds.toList.take 1) ++ "." ++ String.ofList (ds.toList.drop 1) ++
          "e" ++ exponentText (kk - 1)

end Binary64
end WalletAuth
