/-!
# WalletAuth.Curve.Secp256k1 — the curve `y² = x³ + 7` over the prime field of `p`

Account keys live on secp256k1. Field and scalar arithmetic is plain `Nat` arithmetic reduced
modulo `p` or `n`; points are kept in Jacobian coordinates `(X, Y, Z)`, standing for
`(X / Z², Y / Z³)`, so that a scalar multiple needs a single field inversion at the end.

* `powMod`: square-and-multiply, recursing on the exponent halved.
* `Jacobian.double`, `Jacobian.add`: the textbook formulas for `a = 0`; `Z = 0` is the point at
  infinity.
* `mul`: double-and-add over the 256 bits of the scalar, most significant first.
* `liftX`: the point with a given `x` and a given parity of `y`, if `x³ + 7` is a square
  (`p ≡ 3 mod 4`, so the root is a single power).
-/

namespace WalletAuth
namespace Secp256k1

/-- The field prime `2²⁵⁶ − 2³² − 977`. -/
def p : Nat := 0xFFFFFFFFFFFFFFFFFFFFFFFFFFFFFFFFFFFFFFFFFFFFFFFFFFFFFFFEFFFFFC2F

/-- The order of the generator. -/
def n : Nat := 0xFFFFFFFFFFFFFFFFFFFFFFFFFFFFFFFEBAAEDCE6AF48A03BBFD25E8CD0364141

/-- `b ^ e mod m`. -/
def powMod (m b e : Nat) : Nat :=
  if h : e = 0 then 1 % m
  else
    let r := powMod m (b * b % m) (e / 2)
    if e % 2 = 1 then r * b % m else r
termination_by e
decreasing_by omega

/-- The inverse modulo a prime `m`, by Fermat; `0` has none and maps to `0`. -/
def invMod (m a : Nat) : Nat := powMod m a (m - 2)

/-- A point in affine coordinates; the point at infinity is not one. -/
structure Point where
  x : Nat
  y : Nat
  deriving DecidableEq, Repr

/-- The generator. -/
def G : Point :=
  ⟨0x79BE667EF9DCBBAC55A06295CE870B07029BFCDB2DCE28D959F2815B16F81798,
   0x483ADA7726A3C4655DA4FBFC0E1108A8FD17B448A68554199C47D08FFB10D4B8⟩

/-- A point in Jacobian coordinates, reduced modulo `p`. -/
structure Jacobian where
  x : Nat
  y : Nat
  z : Nat

namespace Jacobian

/-- The point at infinity. -/
def zero : Jacobian := ⟨1, 1, 0⟩

/-- An affine point with `Z = 1`. -/
def ofPoint (P : Point) : Jacobian := ⟨P.x % p, P.y % p, 1⟩

/-- Field subtraction of reduced values. -/
@[inline] def fsub (a b : Nat) : Nat := (a + p - b % p) % p

/-- `2 P`. -/
def double (P : Jacobian) : Jacobian :=
  if P.z = 0 ∨ P.y = 0 then zero
  else
    let a := P.x * P.x % p
    let b := P.y * P.y % p
    let c := b * b % p
    let d := 2 * fsub (fsub ((P.x + b) * (P.x + b) % p) a) c % p
    let e := 3 * a % p
    let f := e * e % p
    let x3 := fsub f (2 * d % p)
    let y3 := fsub (e * fsub d x3 % p) (8 * c % p)
    let z3 := 2 * P.y * P.z % p
    ⟨x3, y3, z3⟩

/-- `P + Q`, with the doubling case and the inverse case told apart. -/
def add (P Q : Jacobian) : Jacobian :=
  if P.z = 0 then Q
  else if Q.z = 0 then P
  else
    let z1z1 := P.z * P.z % p
    let z2z2 := Q.z * Q.z % p
    let u1 := P.x * z2z2 % p
    let u2 := Q.x * z1z1 % p
    let s1 := P.y * Q.z % p * z2z2 % p
    let s2 := Q.y * P.z % p * z1z1 % p
    if u1 = u2 then
      if s1 = s2 then double P else zero
    else
      let h := fsub u2 u1
      let r := fsub s2 s1
      let hh := h * h % p
      let hhh := hh * h % p
      let v := u1 * hh % p
      let x3 := fsub (fsub (r * r % p) hhh) (2 * v % p)
      let y3 := fsub (r * fsub v x3 % p) (s1 * hhh % p)
      let z3 := h * P.z % p * Q.z % p
      ⟨x3, y3, z3⟩

/-- The affine point, or `none` at infinity. -/
def toPoint (P : Jacobian) : Option Point :=
  if P.z = 0 then none
  else
    let zi := invMod p P.z
    let zi2 := zi * zi % p
    some ⟨P.x * zi2 % p, P.y * zi2 % p * zi % p⟩

end Jacobian

/-- `k P` by double-and-add over the 256 bits of `k`. -/
def mulJ (k : Nat) (P : Jacobian) : Jacobian :=
  (List.range 256).foldr
    (fun i acc =>
      let d := acc.double
      if k.testBit i then d.add P else d)
    Jacobian.zero

/-- `k P` as an affine point, `none` for the point at infinity. -/
def mul (k : Nat) (P : Point) : Option Point :=
  (mulJ k (.ofPoint P)).toPoint

/-- `a G + b P` as an affine point, `none` for the point at infinity. -/
def lincomb (a : Nat) (b : Nat) (P : Point) : Option Point :=
  ((mulJ a (.ofPoint G)).add (mulJ b (.ofPoint P))).toPoint

/-- The point with abscissa `x` and a `y` of the given parity, if one exists. -/
def liftX (x : Nat) (odd : Bool) : Option Point :=
  if x ≥ p then none
  else
    let c := (x * x % p * x + 7) % p
    let y := powMod p c ((p + 1) / 4)
    if y * y % p ≠ c then none
    else
      let y' := if (y % 2 == 1) == odd then y else (p - y) % p
      some ⟨x, y'⟩

end Secp256k1
end WalletAuth
