/-!
# WalletAuth.Encoding.BigEndian — numbers as big-endian byte strings

Scalars, coordinates and digests move between `Nat` and fixed-width byte strings, most
significant byte first.
-/

namespace WalletAuth
namespace BigEndian

/-- The number a byte string denotes, most significant byte first. -/
def toNat (bytes : ByteArray) : Nat :=
  bytes.foldl (fun acc b => acc * 256 + b.toNat) 0

/-- The `width` low bytes of `v`, most significant first. -/
def ofNat (width v : Nat) : ByteArray :=
  ⟨(List.range width).toArray.map fun i => (v / Nat.pow 256 (width - 1 - i) % 256).toUInt8⟩

end BigEndian
end WalletAuth
