import WalletAuth.Text.CombiningClass
import WalletAuth.Text.Decomposition

/-!
# WalletAuth.Text.Normalization — canonical decomposition and composition (NFD and NFC)

Two texts that differ only in how accented letters are spelled (one precomposed character, or
a base and combining marks, or marks in a different order) are canonically equivalent.
Normalization form C picks one spelling of each:

1. every character is replaced by its full canonical decomposition;
2. each run of marks (characters of nonzero combining class) is sorted by class, keeping the
   order of marks of equal class (canonical ordering);
3. each starter absorbs, left to right, every later character it composes with that is not
   blocked from it: a character is blocked when a character between them is a starter or has
   a class at least its own.

* `nfd`: steps 1 and 2. `nfc`: all three. `isNfc`: a text already in form C.
* `canonicalOrder_nil`, `compose_nil`: the empty text stays empty.
-/

namespace WalletAuth
namespace Text

/-- Canonical decompositions nest at most three deep outside Hangul, two deep for Hangul
syllables; four levels decompose every character fully. -/
def decompositionDepth : Nat := 4

/-- Sorts a run of marks by combining class, keeping marks of equal class in order. -/
def sortMarks (run : List Nat) : List Nat :=
  run.mergeSort fun a b => combiningClass a ≤ combiningClass b

/-- Canonical ordering: every maximal run of marks sorted by class; `run` holds the marks met
since the last starter. -/
def canonicalOrder : List Nat → (run : List Nat := []) → List Nat
  | [], run => sortMarks run
  | c :: rest, run =>
    if combiningClass c = 0 then sortMarks run ++ c :: canonicalOrder rest []
    else canonicalOrder rest (run ++ [c])

/-- The canonical decomposition of a text, canonically ordered (normalization form D). -/
def nfd (s : List Char) : List Nat :=
  canonicalOrder (s.flatMap fun c => fullDecomposition decompositionDepth c.toNat)

/-- The last trailing consonant jamo, U+11C2. -/
def jamoTrailLast : Nat := jamoTrailBase + jamoTrailCount - 1

/-- The composition of two jamo or a syllable and a trailing consonant into a Hangul
syllable. -/
def hangulComposition (a b : Nat) : Option Nat :=
  if jamoLeadFirst ≤ a ∧ a < jamoLeadFirst + 19 ∧ jamoVowelFirst ≤ b ∧
      b < jamoVowelFirst + jamoVowelCount then
    some (hangulFirst + ((a - jamoLeadFirst) * jamoVowelCount + (b - jamoVowelFirst)) *
      jamoTrailCount)
  else if hangulFirst ≤ a ∧ a < hangulFirst + hangulCount ∧ (a - hangulFirst) % jamoTrailCount = 0 ∧
      jamoTrailBase < b ∧ b ≤ jamoTrailLast then
    some (a + (b - jamoTrailBase))
  else none

/-- A key for a pair of code points, ordered as the pairs are. -/
def pairKey (a b : Nat) : Nat := a * 0x110000 + b

/-- The primary composites: `(pairKey first second, c)` for every two-character canonical
decomposition of a character `c` not excluded from composition, sorted by key. -/
def compositions : Array (Nat × Nat) :=
  ((decompositions.filter fun (c, _, second) =>
      second ≠ 0 && !compositionExclusions.contains c).map
    fun (c, first, second) => (pairKey first second, c)).qsort fun x y => x.1 < y.1

/-- The character that a starter and a following character compose into, if any. -/
def composePair? (a b : Nat) : Option Nat :=
  match hangulComposition a b with
  | some c => some c
  | none =>
    let key := pairKey a b
    let n := countAtMost compositions Prod.fst key
    match compositions[n - 1]? with
    | some (k, c) => if n ≠ 0 ∧ k = key then some c else none
    | none => none

/-- Canonical composition of a canonically ordered sequence. `done` holds the finished
characters in reverse, `starter` the last starter (none before the first), `between` the
characters after it that it did not absorb, in order. -/
def compose : List Nat → (done : List Nat := []) → (starter : Option Nat := none) →
    (between : List Nat := []) → List Nat
  | [], done, starter, between => done.reverse ++ starter.toList ++ between
  | c :: rest, done, starter, between =>
    let k := combiningClass c
    let unblocked := match between.getLast? with
      | none => true
      | some last => combiningClass last < k
    match starter with
    | some s =>
      match (if unblocked then composePair? s c else none) with
      | some t => compose rest done (some t) between
      | none =>
        if k = 0 then compose rest (between.reverse ++ s :: done) (some c) []
        else compose rest done starter (between ++ [c])
    | none =>
      if k = 0 then compose rest (between.reverse ++ done) (some c) []
      else compose rest done none (between ++ [c])

/-- A text in normalization form C. -/
def nfc (s : List Char) : List Char := (compose (nfd s)).map Char.ofNat

/-- Whether a text is already in normalization form C. -/
def isNfc (s : List Char) : Bool := nfc s == s

theorem canonicalOrder_nil : canonicalOrder [] = [] := by
  simp [canonicalOrder, sortMarks]

theorem compose_nil : compose [] = [] := by
  simp [compose]

end Text
end WalletAuth
