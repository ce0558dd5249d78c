import WalletAuth.Url.DomainMapping
import WalletAuth.Url.Punycode
import WalletAuth.Text.Normalization
import WalletAuth.Text.BidiClass
import WalletAuth.Text.JoiningType
import WalletAuth.Text.Mark

/-!
# WalletAuth.Url.Idna — domain names to ASCII (UTS #46 processing)

A host of a web address may be written in any script. Before use it is converted to its ASCII
form as Unicode Technical Standard #46 says, with the options that web addresses use:
nontransitional (deviation characters such as `ß` are kept), hyphens unchecked, joiners and
bidirectional text checked, DNS lengths unchecked. The steps:

1. every character is mapped by the IDNA mapping table; a disallowed character refuses the
   whole name;
2. the result is put in normalization form C and split into labels at `.`;
3. a label starting with `xn--` must be ASCII, decode as Punycode to a text beyond ASCII of at
   most 1000 code points in form C, and hold only valid or deviation characters;
4. no label may start with a combining mark; a zero width joiner must follow a virama, and a
   zero width non-joiner a virama or stand between letters that join across it;
5. when any label holds a right-to-left character or an Arabic digit, every label must keep
   its direction unambiguous (the six rules of RFC 5893);
6. labels beyond ASCII are written as `xn--` and their Punycode form.

Web addresses refuse, besides, the forbidden domain code points: the C0 controls, space,
`#`, `%`, `/`, `:`, `<`, `>`, `?`, `@`, `[`, `\`, `]`, `^`, `|` and DEL.

* `toAscii`: the whole conversion; `none` when the name is refused.
-/

namespace WalletAuth
namespace Url

open Text

/-- The characters a domain of a web address may not hold: C0 controls, space,
`#%/:<>?@[\]^|` and DEL. -/
def isForbiddenDomainChar (c : Char) : Bool :=
  c.toNat ≤ 0x20 || c.toNat == 0x7F || "#%/:<>?@[\\]^|".toList.contains c

/-- The mapped form of a character: `none` when it is disallowed. -/
def mapChar (c : Char) : Option (List Char) :=
  match mapping c with
  | .valid | .deviation => some [c]
  | .ignored => some []
  | .mapped image => some image
  | .disallowed => none

/-- The zero width non-joiner, U+200C. -/
def zeroWidthNonJoiner : Char := '\u200C'

/-- The zero width joiner, U+200D. -/
def zeroWidthJoiner : Char := '\u200D'

/-- Whether a character is a virama (combining class 9). -/
def isVirama (c : Char) : Bool := combiningClass c.toNat == viramaClass

/-- Whether the text before a non-joiner ends, past transparent characters, in a letter that
joins to its left neighbour's side (left- or dual-joining). -/
def joinsBefore (before : List Char) : Bool :=
  match (before.reverse.dropWhile fun c => joiningType c == .transparent).head? with
  | some c => joiningType c == .left || joiningType c == .dual
  | none => false

/-- Whether the text after a non-joiner starts, past transparent characters, in a letter that
joins to the right (right- or dual-joining). -/
def joinsAfter (after : List Char) : Bool :=
  match (after.dropWhile fun c => joiningType c == .transparent).head? with
  | some c => joiningType c == .right || joiningType c == .dual
  | none => false

/-- The joiner rules of IDNA: a zero width joiner follows a virama; a zero width non-joiner
follows a virama or stands between joining letters. `before` is the label read so far, in
reverse. -/
def joinersOk : (label : List Char) → (before : List Char := []) → Bool
  | [], _ => true
  | c :: rest, before =>
    let afterVirama := match before.head? with
      | some b => isVirama b
      | none => false
    let ok :=
      if c == zeroWidthJoiner then afterVirama
      else if c == zeroWidthNonJoiner then
        afterVirama || (joinsBefore before.reverse && joinsAfter rest)
      else true
    ok && joinersOk rest (c :: before)

/-- Whether a character makes a domain name one with right-to-left text. -/
def isRightToLeftChar (c : Char) : Bool :=
  let k := bidiClass c
  k == .rightToLeft || k == .arabicLetter || k == .arabicNumber

/-- The classes allowed in a left-to-right label. -/
def ltrAllowed (k : BidiClass) : Bool :=
  k == .leftToRight || k == .europeanNumber || k == .europeanSeparator ||
    k == .commonSeparator || k == .europeanTerminator || k == .otherNeutral ||
    k == .boundaryNeutral || k == .nonspacingMark

/-- The classes allowed in a right-to-left label. -/
def rtlAllowed (k : BidiClass) : Bool :=
  k == .rightToLeft || k == .arabicLetter || k == .arabicNumber || k == .europeanNumber ||
    k == .europeanSeparator || k == .commonSeparator || k == .europeanTerminator ||
    k == .otherNeutral || k == .boundaryNeutral || k == .nonspacingMark

/-- The rules of RFC 5893 for one label of a domain name with right-to-left text: the label
starts with a strong letter; a left-to-right label holds no right-to-left characters and ends,
before trailing marks, in a letter or European digit; a right-to-left label holds no
left-to-right letters, ends before trailing marks in a right-to-left letter or a digit, and
does not mix European and Arabic digits. The empty label passes. -/
def bidiLabelOk (label : List Char) : Bool :=
  match label with
  | [] => true
  | c :: _ =>
    let classes := label.map bidiClass
    let last := (classes.reverse.dropWhile (· == .nonspacingMark)).head?
    match bidiClass c with
    | .leftToRight =>
      classes.all ltrAllowed && (last == some .leftToRight || last == some .europeanNumber)
    | .rightToLeft | .arabicLetter =>
      classes.all rtlAllowed &&
        (last == some .rightToLeft || last == some .arabicLetter ||
          last == some .europeanNumber || last == some .arabicNumber) &&
        !(classes.contains .europeanNumber && classes.contains .arabicNumber)
    | _ => false

/-- Whether a text starts with `xn--`. -/
def hasAcePrefix (label : List Char) : Bool := label.take 4 == ['x', 'n', '-', '-']

/-- Whether a character may stand in a decoded label: valid, or a deviation character. -/
def isValidInLabel (c : Char) : Bool :=
  match mapping c with
  | .valid | .deviation => true
  | _ => false

/-- The validity criteria of a label in Unicode form: in form C, without `.`, not starting
with a combining mark, only valid or deviation characters, and the joiner rules. Hyphens are
not checked, so a decoded label may itself start with `xn--`. -/
def labelValid (label : List Char) : Bool :=
  isNfc label && !label.contains '.' &&
    (match label.head? with
      | some c => !isMark c
      | none => true) &&
    label.all isValidInLabel && joinersOk label

/-- A label of the mapped name: its Unicode form, and its ASCII form when it came as
Punycode. -/
structure Label where
  unicode : List Char
  ace : Option String

/-- Reads one label of the mapped, normalized name: an `xn--` label must be ASCII and decode
to a text beyond ASCII that is short enough to be encoded again, its ASCII form being that
encoding. -/
def Label.read (label : List Char) : Option Label :=
  if hasAcePrefix label then
    if label.any (·.toNat ≥ 0x80) then none
    else
      match Punycode.decode (label.drop 4) with
      | none => none
      | some cps =>
        if cps.isEmpty || cps.all (· < 0x80) || cps.length > Punycode.maxEncodeLength then none
        else some ⟨cps.map Char.ofNat, some (String.ofList label)⟩
  else some ⟨label, none⟩

/-- The ASCII form of a checked label. -/
def Label.toAscii (l : Label) : Option String :=
  match l.ace with
  | some s => some s
  | none =>
    if l.unicode.all (·.toNat < 0x80) then some (String.ofList l.unicode)
    else (Punycode.encode l.unicode).map ("xn--" ++ ·)

/-- Splits a text at every `.`. -/
def splitLabels (s : List Char) : List (List Char) :=
  s.splitOn '.'

/-- The ASCII form of a domain name of a web address, or `none` when it is refused. -/
def toAscii (domain : List Char) : Option String := do
  let mapped ← domain.mapM mapChar
  let normalized := nfc mapped.flatten
  if normalized.any isForbiddenDomainChar then none
  let labels ← (splitLabels normalized).mapM Label.read
  if !labels.all (labelValid ·.unicode) then none
  if labels.any (·.unicode.any isRightToLeftChar) then
    if !labels.all (bidiLabelOk ·.unicode) then none
  let ascii ← labels.mapM Label.toAscii
  pure (".".intercalate ascii)

end Url
end WalletAuth
