/-!
# WalletAuth.Redis.Reply — replies of a key-value server and failures seen by its client

A server answers every command with one reply: a status line, an error line, an integer, a
bulk string, nil, or an array of replies. A client turns an error line into a failure named
after its first word; it also fails when it cannot connect, or when a reply is not of the type
it expected.

* An error line whose first word is a code the client knows (`ERR`, `NOSCRIPT`, …) reads
  "An error was signalled by the server - Kind: rest".
* Any other first word reads "CODE: rest".
-/

namespace WalletAuth
namespace Redis

/-- A reply of the server. -/
inductive Reply where
  | status (s : String)
  | error (line : String)
  | int (n : Int)
  | bulk (s : String)
  | nil
  | array (items : List Reply)
  deriving Repr, Inhabited

/-- A failure seen by the client. -/
inductive Failure where
  /-- An error reply, split into its first word and the rest. -/
  | server (code : String) (detail : Option String)
  /-- The connection could not be made. -/
  | io (message : String)
  /-- The reply was not of the expected type. -/
  | incompatible (detail : String)
  /-- The client was given a configuration it cannot use. -/
  | invalidConfig (description : String)
  /-- The server refused to switch to the database asked for, with the detail of its error. -/
  | refusedDatabase (detail : Option String)
  /-- A protocol version other than 2 and 3 was asked for. -/
  | invalidProtocol (value : String)
  /-- The server did not accept the password. -/
  | authenticationFailed
  deriving DecidableEq, Repr

/-- The kinds of server errors a client names, by their first word. -/
def knownKind : String → Option String
  | "ERR" => some "ResponseError"
  | "EXECABORT" => some "ExecAbortError"
  | "LOADING" => some "BusyLoadingError"
  | "NOSCRIPT" => some "NoScriptError"
  | "MOVED" => some "Moved"
  | "ASK" => some "Ask"
  | "TRYAGAIN" => some "TryAgain"
  | "CLUSTERDOWN" => some "ClusterDown"
  | "CROSSSLOT" => some "CrossSlot"
  | "MASTERDOWN" => some "MasterDown"
  | "READONLY" => some "ReadOnly"
  | "NOTBUSY" => some "NotBusy"
  | _ => none

namespace Failure

/-- The failure of an error line: its first word, and the rest after one space. -/
def ofErrorLine (line : String) : Failure :=
  let code := line.toList.takeWhile (· != ' ')
  if code.length < line.length then
    .server (String.ofList code) (some (String.ofList (line.toList.drop (code.length + 1))))
  else .server (String.ofList code) none

/-- The detail of an error line: the text after its first word, if there is any. -/
def lineDetail (line : String) : Option String :=
  match ofErrorLine line with
  | .server _ d => d
  | _ => none

/-- The wording of a failure. -/
def message : Failure → String
  | .server code detail =>
    match knownKind code with
    | some kind =>
      match detail with
      | some d => "An error was signalled by the server - " ++ kind ++ ": " ++ d
      | none => "An error was signalled by the server- " ++ kind
    | none => code ++ ": " ++ detail.getD "Unknown extension error encountered"
  | .io m => m
  | .incompatible d => "Response was of incompatible type - TypeError: " ++ d
  | .invalidConfig d => d ++ "- InvalidClientConfig"
  | .refusedDatabase detail =>
    match detail with
    | some d => "Redis server refused to switch database - ResponseError: " ++ d
    | none => "Redis server refused to switch database- ResponseError"
  | .invalidProtocol v => "Invalid protocol version - InvalidClientConfig: " ++ v
  | .authenticationFailed => "Password authentication failed- AuthenticationFailed"

/-- Whether the server does not know the script asked for. -/
def isNoScript : Failure → Bool
  | .server "NOSCRIPT" _ => true
  | _ => false

/-- The failure of a connection to a socket that does not exist. -/
def missingSocket : Failure := .io "No such file or directory (os error 2)"

end Failure

namespace Reply

/-- The reply as a result: an error line becomes a failure. -/
def check (r : Reply) : Except Failure Reply :=
  match r with
  | .error line => .error (Failure.ofErrorLine line)
  | _ => .ok r

/-- A reply read as an optional string. -/
def optString (r : Reply) : Except Failure (Option String) :=
  match r with
  | .nil => .ok none
  | .bulk s => .ok (some s)
  | .status s => .ok (some s)
  | .int n => .ok (some (toString n))
  | .error line => .error (Failure.ofErrorLine line)
  | .array _ => .error (.incompatible "not a string")

/-- A reply read as an integer. -/
def integer (r : Reply) : Except Failure Int :=
  match r with
  | .int n => .ok n
  | .bulk s => match s.toInt? with
    | some n => .ok n
    | none => .error (.incompatible "not an integer")
  | .error line => .error (Failure.ofErrorLine line)
  | _ => .error (.incompatible "not an integer")

/-- A reply read as a list of strings. -/
def strings (r : Reply) : Except Failure (List String) :=
  match r with
  | .array items => items.mapM fun i =>
    match i with
    | .bulk s => .ok s
    | .status s => .ok s
    | .int n => .ok (toString n)
    | _ => .error (.incompatible "not a string")
  | .nil => .ok []
  | .error line => .error (Failure.ofErrorLine line)
  | _ => .error (.incompatible "not a list")

end Reply

end Redis
end WalletAuth
