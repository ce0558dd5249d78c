import WalletAuth.Json.Reader
import WalletAuth.Json.Value
import WalletAuth.Text.Escaped
import WalletAuth.Time.Rfc3339
import WalletAuth.Account.Address

/-!
# WalletAuth.Json.Decode — reading a JSON text as a value of a given shape

Requests and stored records are read against a `Shape`: strings, unsigned 64-bit integers,
date-times, account addresses, optional values, sequences, records with named fields, or any
JSON value. Reading is one pass; what does not fit is an error worded after the shape
("invalid type: integer `1`, expected a string") and placed at the position reached.

The rules of a record:

* It is an object with its field names as keys, or an array with its fields in order.
* Keys may come in any order; an unknown key's value is skipped, checking only its syntax; a
  key given twice is an error.
* An absent optional field is `null`, an absent defaulted field its default; any other absent
  field is an error, the first in declaration order.
* An error inside a field or item records the key or index on its path.
-/

namespace WalletAuth
namespace Json

/-- What a reader is asked for. The flag of a record field says that an absent value takes
the shape's default. -/
inductive Shape where
  | string
  | u64
  | instant
  | address
  | option (inner : Shape)
  | seq (item : Shape)
  | record (name : String) (fields : List (String × Shape × Bool))
  | value
  deriving Repr, Inhabited

/-- A value read against a shape. -/
inductive Datum where
  | null
  | text (s : String)
  | count (n : Nat)
  | instant (t : Instant)
  | address (a : Address)
  | items (xs : List Datum)
  | fields (xs : List Datum)
  | value (j : Json)
  deriving Repr, Inhabited

namespace Shape

/-- How an error names the shape. -/
def expected : Shape → String
  | .string => "a string"
  | .u64 => "u64"
  | .instant => "an RFC 3339 formatted date and time string"
  | .address => "20 bytes, represented as a hex string of length 40, an array of u8, or raw bytes"
  | .option _ => "option"
  | .seq _ => "a sequence"
  | .record name _ => "struct " ++ name
  | .value => "any valid JSON value"

/-- The value of an absent defaulted field. -/
def default : Shape → Datum
  | .seq _ => .items []
  | .string => .text ""
  | .u64 => .count 0
  | _ => .null

end Shape

/-- What was found where something else was expected. -/
inductive Unexpected where
  | bool (b : Bool)
  | unsigned (n : Nat)
  | signed (n : Int)
  | float (x : Binary64)
  | str (s : String)
  | unit
  | seq
  | map

/-- How an error names what was found. -/
def Unexpected.text : Unexpected → String
  | .bool b => "boolean `" ++ (if b then "true" else "false") ++ "`"
  | .unsigned n => "integer `" ++ toString n ++ "`"
  | .signed n => "integer `" ++ toString n ++ "`"
  | .float x => "floating point `" ++ x.text ++ "`"
  | .str s => "string " ++ Text.quote s
  | .unit => "null"
  | .seq => "sequence"
  | .map => "map"

/-- What a number is, for an error. -/
def Number.unexpected : Number → Unexpected
  | .unsigned n => .unsigned n
  | .negative n => .signed n
  | .float x => .float x

/-- The JSON value of a number. -/
def Number.toJson : Number → Json
  | .unsigned n => .int n
  | .negative n => .int n
  | .float x => .float x

/-- A value of the wrong kind. -/
def invalidType (u : Unexpected) (exp : String) : ReadError :=
  .custom ("invalid type: " ++ u.text ++ ", expected " ++ exp)

/-- A value of the right kind but out of range. -/
def invalidValue (u : Unexpected) (exp : String) : ReadError :=
  .custom ("invalid value: " ++ u.text ++ ", expected " ++ exp)

/-- A sequence of the wrong length. -/
def invalidLength (n : Nat) (exp : String) : ReadError :=
  .custom ("invalid length " ++ toString n ++ ", expected " ++ exp)

/-- The segment of a path for an index. -/
def indexSegment (i : Nat) : String := "[" ++ toString i ++ "]"

namespace ReadM

/-- The letters after the first of `null`, `true` and `false`. -/
def nullRest : List UInt8 := [117, 108, 108]
def trueRest : List UInt8 := [114, 117, 101]
def falseRest : List UInt8 := [97, 108, 115, 101]

/-- Reads the value at the cursor to name it in a type error, and fails with that error. -/
def invalidTypeHere {α : Type} (exp : String) : ReadM α := do
  let u ← do
    match ← peek with
    | some 110 => do eat; ident nullRest; pure Unexpected.unit
    | some 116 => do eat; ident trueRest; pure (Unexpected.bool true)
    | some 102 => do eat; ident falseRest; pure (Unexpected.bool false)
    | some 45 => do eat; pure (← number false).unexpected
    | some 34 => do eat; pure (Unexpected.str (← string))
    | some 91 => pure Unexpected.seq
    | some 123 => pure Unexpected.map
    | some b => if Cursor.isDigit b then pure (← number true).unexpected else failNext .expectedValue
    | none => failNext .expectedValue
  fail (← locate (invalidType u exp))

/-- Runs a step inside a member or item: an error it raises records the segment. -/
def within {α : Type} (seg : String) (m : ReadM α) : ReadM α := fun c =>
  match m c with
  | .ok r => .ok r
  | .error (e, c') => .error (e.under seg, c')

/-- The outcome of an array or object whose closing was read after it: the error inside wins,
then the error of the closing; either gets the position reached if it has none. -/
def settle {α : Type} (r : Except ReadError α) (e : Except ReadError Unit) : ReadM α := do
  match r, e with
  | .ok v, .ok () => pure v
  | .error err, _ => fail (← locate err)
  | .ok _, .error err => fail (← locate err)

/-- The end of an array. -/
def endSeq : ReadM Unit := do
  match ← blank with
  | some 93 => eat
  | some 44 => do
    eat
    match ← blank with
    | some 93 => failNext .trailingComma
    | _ => failNext .trailingCharacters
  | some _ => failNext .trailingCharacters
  | none => failNext .eofList

/-- The end of an object. -/
def endMap : ReadM Unit := do
  match ← blank with
  | some 125 => eat
  | some 44 => failNext .trailingComma
  | some _ => failNext .trailingCharacters
  | none => failNext .eofObject

/-- Whether an item follows inside an array, consuming the comma before it. -/
def seqNext (first : Bool) : ReadM Bool := do
  let atItem : ReadM Bool := do
    match ← peek with
    | some 93 => failNext .trailingComma
    | some _ => pure true
    | none => failNext .eofValue
  match ← blank with
  | some 93 => pure false
  | some 44 =>
    if first then atItem
    else do
      eat
      let _ ← blank
      atItem
  | some _ => if first then atItem else failNext .expectedListCommaOrEnd
  | none => failNext .eofList

/-- The next key inside an object, consuming the comma before it, or `none` at its end. -/
def mapNextKey (first : Bool) : ReadM (Option String) := do
  let atKey : ReadM (Option String) := do
    match ← peek with
    | some 34 => do eat; pure (some (← string))
    | some 125 => failNext .trailingComma
    | some _ => failNext .keyMustBeString
    | none => failNext .eofValue
  match ← blank with
  | some 125 => pure none
  | some 44 =>
    if first then atKey
    else do
      eat
      let _ ← blank
      atKey
  | some _ => if first then atKey else failNext .expectedObjectCommaOrEnd
  | none => failNext .eofObject

/-- The colon after a key. -/
def colon : ReadM Unit := do
  match ← blank with
  | some 58 => eat
  | some _ => failNext .expectedColon
  | none => failNext .eofObject

/-- A string. -/
def readString : ReadM Datum := do
  match ← blank with
  | none => failNext .eofValue
  | some 34 => do eat; pure (.text (← string))
  | some _ => invalidTypeHere Shape.string.expected

/-- An unsigned integer below a bound, named `exp` in errors. -/
def readUnsigned (bound : Nat) (exp : String) : ReadM Nat := located do
  let n ← do
    match ← blank with
    | none => failNext .eofValue
    | some 45 => do eat; number false
    | some b => if Cursor.isDigit b then number true else invalidTypeHere exp
  match n with
  | .unsigned v => if v ≤ bound then pure v else fail (invalidValue (.unsigned v) exp)
  | .negative v => fail (invalidValue (.signed v) exp)
  | .float x => fail (invalidType (.float x) exp)

/-- An unsigned 64-bit integer. -/
def readU64 : ReadM Datum := do pure (.count (← readUnsigned u64Max "u64"))

/-- A date-time, in the lenient form with any offset. -/
def readInstant : ReadM Datum := located do
  match ← blank with
  | none => failNext .eofValue
  | some 34 => do
    eat
    let s ← string
    match Rfc3339.parseRelaxed s with
    | .ok t => pure (.instant t)
    | .error e => fail (.custom e.message)
  | some _ => invalidTypeHere Shape.instant.expected

/-- The twenty bytes of an address given as an array, the bracket already read. -/
def addressBytes (fuel : Nat) : ReadM (List UInt8) := do
  let exp := "exactly 20 bytes"
  let rec go : Nat → Nat → List UInt8 → ReadM (List UInt8)
    | 0, _, acc => pure acc.reverse
    | k + 1, i, acc => do
      let more ← within (indexSegment i) (seqNext (i == 0))
      if !more then fail (invalidLength i exp)
      else
        let b ← within (indexSegment i) (readUnsigned 255 "u8")
        go k (i + 1) (b.toUInt8 :: acc)
  let bytes ← go (min fuel 20) 0 []
  -- one more byte is too many; anything else is left to the closing bracket
  match ← attempt (seqNext false) with
  | .ok true =>
    match ← attempt (readUnsigned 255 "u8") with
    | .ok _ => fail (invalidLength 21 exp)
    | .error _ => pure bytes
  | _ => pure bytes

/-- An account address: hex text of twenty bytes, or an array of them. -/
def readAddress (fuel : Nat) : ReadM Datum := located do
  let exp := Shape.address.expected
  match ← blank with
  | none => failNext .eofValue
  | some 34 => do
    eat
    let s ← string
    match Hex.decodeExact 20 s with
    | .ok b => pure (.address (Address.ofBytes b))
    | .error e => fail (.custom e.message)
  | some 91 => do
    enter
    let r ← attempt (addressBytes fuel)
    leave
    let e ← attempt endSeq
    let bytes ← settle r e
    pure (.address (Address.ofBytes ⟨bytes.toArray⟩))
  | some 123 => do
    enter
    leave
    let e ← attempt endMap
    settle (.error (invalidType .map exp)) e
  | some _ => invalidTypeHere exp

/-- Replaces or adds a member, keeping keys in order. -/
def insertMember (k : String) (v : Json) : List (String × Json) → List (String × Json)
  | [] => [(k, v)]
  | (k', v') :: ms =>
    if k = k' then (k, v) :: ms
    else if k < k' then (k, v) :: (k', v') :: ms
    else (k', v') :: insertMember k v ms

/-- The datum of each field, in declaration order, with absent ones resolved. -/
def resolveFields (fields : List (String × Shape × Bool)) (vals : List (Option Datum)) :
    Except ReadError (List Datum) :=
  (fields.zip vals).mapM fun ((name, shape, defaulted), v) =>
    match v with
    | some d => .ok d
    | none =>
      if defaulted then .ok shape.default
      else match shape with
        | .option _ => .ok .null
        | _ => .error (.custom ("missing field `" ++ name ++ "`"))

mutual

/-- A value of the given shape. -/
def readAs : Nat → Shape → ReadM Datum
  | 0, _ => failHere .recursionLimit
  | _ + 1, .string => readString
  | _ + 1, .u64 => readU64
  | _ + 1, .instant => readInstant
  | fuel + 1, .address => readAddress fuel
  | fuel + 1, .option inner => do
    match ← blank with
    | some 110 => do eat; ident nullRest; pure .null
    | _ => readAs fuel inner
  | fuel + 1, .seq item => located do
    match ← blank with
    | none => failNext .eofValue
    | some 91 => do
      enter
      let r ← attempt (readItems fuel item 0 [])
      leave
      let e ← attempt endSeq
      settle r e
    | some _ => invalidTypeHere (Shape.seq item).expected
  | fuel + 1, .record name fields => located do
    match ← blank with
    | none => failNext .eofValue
    | some 91 => do
      enter
      let r ← attempt (readFieldsInOrder fuel name fields.length 0 fields [])
      leave
      let e ← attempt endSeq
      settle r e
    | some 123 => do
      enter
      let r ← attempt (readMembers fuel fields true (fields.map fun _ => none))
      leave
      let e ← attempt endMap
      let vals ← settle r e
      match resolveFields fields vals with
      | .ok ds => pure (.fields ds)
      | .error err => fail (← locate err)
    | some _ => invalidTypeHere ("struct " ++ name)
  | fuel + 1, .value => readValue fuel

/-- The items of an array, the bracket already read. -/
def readItems : Nat → Shape → Nat → List Datum → ReadM Datum
  | 0, _, _, _ => failHere .recursionLimit
  | fuel + 1, item, i, acc => do
    let more ← within (indexSegment i) (seqNext (i == 0))
    if !more then pure (.items acc.reverse)
    else
      let d ← within (indexSegment i) (readAs fuel item)
      readItems fuel item (i + 1) (d :: acc)

/-- The fields of a record given as an array, in order, the bracket already read. -/
def readFieldsInOrder : Nat → String → Nat → Nat → List (String × Shape × Bool) → List Datum →
    ReadM Datum
  | 0, _, _, _, _, _ => failHere .recursionLimit
  | _ + 1, _, _, _, [], acc => pure (.fields acc.reverse)
  | fuel + 1, name, total, i, (_, shape, defaulted) :: rest, acc => do
    let more ← within (indexSegment i) (seqNext (i == 0))
    if !more then
      if defaulted then readFieldsInOrder fuel name total (i + 1) rest (shape.default :: acc)
      else fail (invalidLength i ("struct " ++ name ++ " with " ++ toString total ++ " elements"))
    else
      let d ← within (indexSegment i) (readAs fuel shape)
      readFieldsInOrder fuel name total (i + 1) rest (d :: acc)

/-- The members of a record given as an object, the brace already read. -/
def readMembers : Nat → List (String × Shape × Bool) → Bool → List (Option Datum) →
    ReadM (List (Option Datum))
  | 0, _, _, _ => failHere .recursionLimit
  | fuel + 1, fields, first, vals => do
    match ← mapNextKey first with
    | none => pure vals
    | some k =>
      match fields.findIdx? (·.1 == k) with
      | some i =>
        if (vals.getD i none).isSome then fail (.custom ("duplicate field `" ++ k ++ "`"))
        else
          let shape := (fields.getD i ("", .value, false)).2.1
          let d ← within k (do colon; readAs fuel shape)
          readMembers fuel fields false (vals.set i (some d))
      | none => do
        within k (do
          colon
          let n := (← get).rest.length
          skipValue (n + 1) [])
        readMembers fuel fields false vals

/-- Any JSON value; members of an object are kept sorted by key, the last of equal keys. -/
def readValue : Nat → ReadM Datum
  | 0 => failHere .recursionLimit
  | fuel + 1 => located do
    match ← blank with
    | none => failNext .eofValue
    | some 110 => do eat; ident nullRest; pure (.value .null)
    | some 116 => do eat; ident trueRest; pure (.value (.bool true))
    | some 102 => do eat; ident falseRest; pure (.value (.bool false))
    | some 45 => do eat; pure (.value (← number false).toJson)
    | some 34 => do eat; pure (.value (.str (← string)))
    | some 91 => do
      enter
      let r ← attempt (readValueItems fuel true [])
      leave
      let e ← attempt endSeq
      settle r e
    | some 123 => do
      enter
      let r ← attempt (readValueMembers fuel true [])
      leave
      let e ← attempt endMap
      settle r e
    | some b =>
      if Cursor.isDigit b then pure (.value (← number true).toJson)
      else failNext .expectedValue

/-- The items of an array of any values. -/
def readValueItems : Nat → Bool → List Json → ReadM Datum
  | 0, _, _ => failHere .recursionLimit
  | fuel + 1, first, acc => do
    if !(← seqNext first) then pure (.value (.arr acc.reverse))
    else
      match ← readValue fuel with
      | .value j => readValueItems fuel false (j :: acc)
      | _ => readValueItems fuel false acc

/-- The members of an object of any values. -/
def readValueMembers : Nat → Bool → List (String × Json) → ReadM Datum
  | 0, _, _ => failHere .recursionLimit
  | fuel + 1, first, acc => do
    match ← mapNextKey first with
    | none => pure (.value (.obj acc))
    | some k => do
      colon
      match ← readValue fuel with
      | .value j => readValueMembers fuel false (insertMember k j acc)
      | _ => readValueMembers fuel false acc

end

end ReadM

/-- Enough steps to read any text of `n` bytes. -/
def fuelFor (n : Nat) : Nat := 2 * n + 300

/-- Reads a whole text against a shape: one value, then only blanks. -/
def decode (shape : Shape) (text : String) : Except ReadError Datum :=
  let c := Cursor.ofString text
  match (do let d ← ReadM.readAs (fuelFor c.rest.length) shape; ReadM.finish; pure d) c with
  | .ok (d, _) => .ok d
  | .error (e, _) => .error e

/-- Reads a whole text as a string, then converts it; a failed conversion is reported with its
own text, without a position. -/
def decodeStringWith {α ε : Type} (convert : String → Except ε α) (describe : ε → String)
    (text : String) : Except ReadError α :=
  let c := Cursor.ofString text
  let m : ReadM α := do
    match ← ReadM.readString with
    | .text s =>
      match convert s with
      | .ok a => do ReadM.finish; pure a
      | .error e => ReadM.fail (.custom (describe e))
    | _ => ReadM.failHere .expectedValue
  match m c with
  | .ok (a, _) => .ok a
  | .error (e, _) => .error e

namespace Datum

/-- The text of a string datum. -/
def str? : Datum → Option String
  | .text s => some s
  | _ => none

/-- The number of a count datum. -/
def nat? : Datum → Option Nat
  | .count n => some n
  | _ => none

/-- An optional string: `null` is absent. -/
def optStr? : Datum → Option (Option String)
  | .null => some none
  | .text s => some (some s)
  | _ => none

/-- An optional count. -/
def optNat? : Datum → Option (Option Nat)
  | .null => some none
  | .count n => some (some n)
  | _ => none

/-- An optional instant. -/
def optInstant? : Datum → Option (Option Instant)
  | .null => some none
  | .instant t => some (some t)
  | _ => none

/-- A list of strings. -/
def strs? : Datum → Option (List String)
  | .items xs => xs.mapM str?
  | _ => none

end Datum

end Json
end WalletAuth
