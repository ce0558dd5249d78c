import WalletAuth.Number.Binary64

/-!
# WalletAuth.Json.Value — JSON values and their compact text

The API speaks JSON. A value keeps object members in the order they were written; numbers are
integers or binary64 values. The compact text has no blanks; a string escapes `"` and `\`,
writes backspace, form feed, line feed, carriage return and tab as `\b \f \n \r \t`, other
control characters as `\u00xx`, and everything else as itself; a binary64 value is written with
its shortest digits, and as `null` when infinite.
-/

namespace WalletAuth

/-- A JSON value. -/
inductive Json where
  | null
  | bool (b : Bool)
  | int (n : Int)
  | float (x : Binary64)
  | str (s : String)
  | arr (items : List Json)
  | obj (members : List (String × Json))
  deriving Repr, Inhabited

namespace Json

/-- A string member, or `null` when absent. -/
def optStr : Option String → Json
  | some s => .str s
  | none => .null

/-- The member of an object with a given key. -/
def get? (j : Json) (key : String) : Option Json :=
  match j with
  | .obj ms => (ms.find? (·.1 == key)).map (·.2)
  | _ => none

/-- The lowercase hex digit of a value below 16. -/
def hexDigit (v : Nat) : Char :=
  if v < 10 then Char.ofNat (48 + v) else Char.ofNat (87 + v)

/-- A character inside a JSON string. -/
def escapeChar (c : Char) : String :=
  match c with
  | '"' => "\\\""
  | '\\' => "\\\\"
  | '\n' => "\\n"
  | '\r' => "\\r"
  | '\t' => "\\t"
  | _ =>
    if c.toNat == 8 then "\\b"
    else if c.toNat == 12 then "\\f"
    else if c.toNat < 0x20 then
      "\\u00" ++ (hexDigit (c.toNat / 16)).toString ++ (hexDigit (c.toNat % 16)).toString
    else c.toString

/-- A JSON string literal. -/
def quote (s : String) : String :=
  "\"" ++ String.join (s.toList.map escapeChar) ++ "\""

mutual

/-- The compact text of a value. -/
def compact : Json → String
  | .null => "null"
  | .bool b => if b then "true" else "false"
  | .int n => toString n
  | .float x => if x.isInfinite then "null" else x.text
  | .str s => quote s
  | .arr xs => "[" ++ compactItems xs ++ "]"
  | .obj ms => "\x7b" ++ compactMembers ms ++ "\x7d"

/-- Array items, comma-separated. -/
def compactItems : List Json → String
  | [] => ""
  | [x] => compact x
  | x :: xs => compact x ++ "," ++ compactItems xs

/-- Object members, comma-separated. -/
def compactMembers : List (String × Json) → String
  | [] => ""
  | [(k, v)] => quote k ++ ":" ++ compact v
  | (k, v) :: ms => quote k ++ ":" ++ compact v ++ "," ++ compactMembers ms

end

end Json
end WalletAuth
