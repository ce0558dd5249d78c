import WalletAuth.Account.Key

/-!
# WalletAuth.Cli.Command — the command line of the server program

With no argument the program runs the server. Two commands help with local testing:

* `keygen` prints a fresh key and its account, one `name=value` per line;
* `sign KEY` signs the text read from standard input, less one trailing line feed (a shell
  pipeline adds one; a sign-in text never ends in one), and prints the signature in `0x` hex.

Anything else prints the usage text to standard error and fails with status 1.
-/

namespace WalletAuth
namespace Cli

/-- What the command line asks for. -/
inductive Command where
  | serve
  | keygen
  | sign (key : String)
  | usage
  deriving DecidableEq, Repr

/-- The command of the arguments after the program's name. -/
def Command.parse : List String → Command
  | [] => .serve
  | ["keygen"] => .keygen
  | ["sign", key] => .sign key
  | _ => .usage

/-- The usage text. -/
def usageText : String :=
  "Usage:\n" ++
  "  siwe-auth                 Run the server\n" ++
  "  siwe-auth keygen          Print a fresh development key and its address\n" ++
  "  siwe-auth sign <hex-key>  Sign the message read from stdin\n" ++
  "\n" ++
  "Example:\n" ++
  "  curl -s ... | jq -r .message | siwe-auth sign 0xac09...ff80\n"

/-- What `keygen` prints for a key. -/
def keygenText (k : SecretKey) : String :=
  "private_key=" ++ k.toHex ++ "\naddress=" ++ k.address.checksummed ++ "\n"

/-- The text to sign from what standard input held: one trailing line feed dropped. -/
def messageOfInput (input : String) : String :=
  if input.endsWith "\n" then String.ofList input.toList.dropLast else input

/-- The signature `sign` prints, or the error it reports. -/
def signInput (key input : String) : Except SignerError String := do
  let k ← (SecretKey.ofHex key).mapError SignerError.invalidKey
  let sig ← k.signText (messageOfInput input)
  pure (Hex.encodePrefixed sig)

/-- What a finished command wrote and its exit status. -/
structure Outcome where
  status : Nat
  stdout : String := ""
  stderr : String := ""
  deriving DecidableEq, Repr

/-- The outcome of `sign`. -/
def signOutcome (key input : String) : Outcome :=
  match signInput key input with
  | .ok sig => { status := 0, stdout := sig ++ "\n" }
  | .error e => { status := 1, stderr := "Error signing message: " ++ e.message ++ "\n" }

/-- The outcome of a command line that is not understood. -/
def usageOutcome : Outcome := { status := 1, stderr := usageText }

end Cli
end WalletAuth
