/-!
# WalletAuth.Text.CodeRanges — properties of code points given as sorted ranges

The character properties of the Unicode standard that this library needs (which characters a
quoted diagnostic escapes, combining classes, bidirectional classes, joining types, the
domain-name mapping) are tables of code point ranges. A table is an array sorted by the first
code point of each entry; a lookup halves the array until it finds the last entry that starts
at or before the code point asked about.

* `countAtMost`: how many leading entries start at or before a code point.
* `RangeSet.contains`: membership in a set of inclusive ranges.
* `RangeMap.find?`: the value of the range that holds a code point.
* `StartTable.find?`: the value of the last entry starting at or before a code point, for
  tables whose entries cover every code point up to the next entry.
-/

namespace WalletAuth
namespace Text

/-- The number of leading entries of `a` whose key is at most `v`, found by halving the
interval `[lo, hi)`; for keys sorted ascending it is the number of entries with key at most
`v`. -/
def countAtMost {α : Type} (a : Array α) (key : α → Nat) (v : Nat) : Nat :=
  go 0 a.size
where
  /-- The search inside `[lo, hi)`: every entry below `lo` has key at most `v`, every entry
  from `hi` on has a larger key. -/
  go (lo hi : Nat) : Nat :=
    if lo < hi then
      match a[(lo + hi) / 2]? with
      | some x =>
        if key x ≤ v then go ((lo + hi) / 2 + 1) hi else go lo ((lo + hi) / 2)
      | none => lo
    else lo
  termination_by hi - lo
  decreasing_by all_goals omega

/-- A set of code points as inclusive ranges `(first, last)`, sorted and disjoint. -/
structure RangeSet where
  ranges : Array (Nat × Nat)

/-- Whether a code point lies in one of the ranges. -/
def RangeSet.contains (s : RangeSet) (v : Nat) : Bool :=
  match s.ranges[countAtMost s.ranges Prod.fst v - 1]? with
  | some (first, last) => first ≤ v && v ≤ last
  | none => false

/-- A map from code points to values, as inclusive ranges `(first, last, value)`, sorted and
disjoint; code points outside every range have no value. -/
structure RangeMap (α : Type) where
  entries : Array (Nat × Nat × α)

/-- The value of the range holding a code point. -/
def RangeMap.find? {α : Type} (m : RangeMap α) (v : Nat) : Option α :=
  match m.entries[countAtMost m.entries Prod.fst v - 1]? with
  | some (first, last, x) => if first ≤ v && v ≤ last then some x else none
  | none => none

/-- A map from code points to values, as entries `(first, value)` sorted by `first`: an entry
holds for every code point from its `first` up to the next entry's. -/
structure StartTable (α : Type) where
  entries : Array (Nat × α)

/-- The value of the last entry starting at or before a code point. -/
def StartTable.find? {α : Type} (t : StartTable α) (v : Nat) : Option α :=
  let n := countAtMost t.entries Prod.fst v
  if n = 0 then none else (t.entries[n - 1]?).map Prod.snd

example : (RangeSet.mk #[(1, 3), (7, 9)]).contains 8 = true := by cbv
example : (RangeSet.mk #[(1, 3), (7, 9)]).contains 5 = false := by cbv
example : (RangeSet.mk #[(1, 3), (7, 9)]).contains 0 = false := by cbv

end Text
end WalletAuth
