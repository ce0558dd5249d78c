import WalletAuth.Text.Escaped

/-!
# WalletAuth.Message.Error — why a sign-in message cannot be read or built

Three causes: a required field is missing, a field has a value the grammar refuses, or a line
stands where none may. The wording names the field; an unexpected line is quoted and escaped.
-/

namespace WalletAuth

/-- Why a message field is missing or wrong. -/
inductive MessageError where
  | missingField (field : String)
  | invalidField (field : String) (detail : String)
  | unexpectedLine (line : String)
  deriving DecidableEq, Repr

namespace MessageError

/-- The sentence that reports the failure. -/
def message : MessageError → String
  | .missingField f => "missing " ++ f
  | .invalidField f d => "invalid " ++ f ++ ": " ++ d
  | .unexpectedLine l => "unexpected line: " ++ Text.quote l

/-- The name of the failure's cause. -/
def kind : MessageError → String
  | .missingField _ => "MissingField"
  | .invalidField _ _ => "InvalidField"
  | .unexpectedLine _ => "UnexpectedLine"

end MessageError
end WalletAuth
