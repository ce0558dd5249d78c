/-!
# WalletAuth.Text.Affix — prefixes, suffixes and first occurrences in texts

Small total helpers on texts, stated on their character lists: removing a known prefix or
suffix, splitting at the first occurrence of a separator, replacing a first occurrence, and
cutting a text into its lines.
-/

namespace WalletAuth
namespace Text

/-- The text after `pre`, if it starts with `pre`. -/
def dropPrefix? (s pre : String) : Option String :=
  if pre.toList.isPrefixOf s.toList then some (String.ofList (s.toList.drop pre.length)) else none

/-- The text before `suf`, if it ends with `suf`. -/
def dropSuffix? (s suf : String) : Option String :=
  if suf.toList.isSuffixOf s.toList then
    some (String.ofList (s.toList.take (s.length - suf.length)))
  else none

/-- Splits a character list at the first occurrence of a non-empty separator. -/
def splitFirst (sep : List Char) : List Char → Option (List Char × List Char)
  | [] => none
  | c :: rest =>
    if sep.isPrefixOf (c :: rest) then some ([], (c :: rest).drop sep.length)
    else (splitFirst sep rest).map fun (a, b) => (c :: a, b)

/-- The texts before and after the first occurrence of `sep`. -/
def splitOnce? (s sep : String) : Option (String × String) :=
  if sep.isEmpty then some ("", s)
  else (splitFirst sep.toList s.toList).map fun (a, b) => (String.ofList a, String.ofList b)

/-- The text with the first occurrence of `pat` replaced by `rep`. -/
def replaceFirst (s pat rep : String) : String :=
  match splitOnce? s pat with
  | some (a, b) => a ++ rep ++ b
  | none => s

/-- The lines of a text: the pieces between line feeds, a carriage return kept in its line. -/
def lines (s : String) : List String := (s.toList.splitOn '\n').map String.ofList

end Text
end WalletAuth
