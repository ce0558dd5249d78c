import WalletAuth.Config.Basic
import WalletAuth.Backend.KeyValue
import WalletAuth.Backend.Target

/-!
# WalletAuth.Cli.Startup — starting the server

Starting runs these steps in order; the first that fails stops the program with status 101 and
its message:

1. the settings are read from the environment (`Failed to load config: …`);
2. the key-value server's URL is read (`Invalid Redis URL: …`);
3. a connection is opened, and the database selected when it is not 0
   (`Failed to connect to Redis: …`);
4. the nonce store is prepared: a key-value store opens its own connection and must answer a
   `PING`; an in-process one needs nothing (`Failed to initialize nonce store: Redis(…)`);
5. the listening address is bound (`Failed to bind: …`).

The server then listens. What lies outside the program is a `Host`: the socket of the one
key-value server there is, if any, and the addresses already taken. A TCP connection cannot be
made from the host, and a socket other than the server's does not exist. Only the loopback and
unspecified addresses can be bound.
-/

namespace WalletAuth
namespace Cli

/-- A failure of the operating system. -/
inductive OsError where
  | notFound
  | networkUnreachable
  | addrInUse
  | addrNotAvailable
  deriving DecidableEq, Repr

namespace OsError

/-- The error number. -/
def code : OsError → Nat
  | .notFound => 2
  | .networkUnreachable => 101
  | .addrInUse => 98
  | .addrNotAvailable => 99

/-- The name of the error's kind. -/
def kind : OsError → String
  | .notFound => "NotFound"
  | .networkUnreachable => "NetworkUnreachable"
  | .addrInUse => "AddrInUse"
  | .addrNotAvailable => "AddrNotAvailable"

/-- The system's description. -/
def description : OsError → String
  | .notFound => "No such file or directory"
  | .networkUnreachable => "Network is unreachable"
  | .addrInUse => "Address already in use"
  | .addrNotAvailable => "Cannot assign requested address"

/-- The error as its message reads. -/
def message (e : OsError) : String := e.description ++ " (os error " ++ toString e.code ++ ")"

/-- The error as its debug view reads. -/
def debugView (e : OsError) : String :=
  "Os \x7b code: " ++ toString e.code ++ ", kind: " ++ e.kind ++ ", message: " ++
    Text.quote e.description ++ " \x7d"

end OsError

/-- What lies outside a starting server. -/
structure Host where
  /-- The socket path of the key-value server, if there is one. -/
  kvSocket : Option String := none
  /-- The addresses already bound. -/
  busy : List Net.SocketAddress := []
  deriving DecidableEq, Repr

/-- Whether an address is one of the host's own: loopback or unspecified. -/
def isLocal : Net.SocketAddress → Bool
  | .v4 o _ => o == [0, 0, 0, 0] || o.head? == some 127
  | .v6 g _ _ => g == [0, 0, 0, 0, 0, 0, 0, 0] || g == [0, 0, 0, 0, 0, 0, 0, 1]

/-- The port of an address. -/
def portOf : Net.SocketAddress → Nat
  | .v4 _ p => p
  | .v6 _ _ p => p

/-- Whether binding `a` meets `b` already bound: the same port, and the same address or an
unspecified one on either side. -/
def clashes (a b : Net.SocketAddress) : Bool :=
  let unspecified : Net.SocketAddress → Bool
    | .v4 o _ => o == [0, 0, 0, 0]
    | .v6 g _ _ => g == [0, 0, 0, 0, 0, 0, 0, 0]
  portOf a == portOf b && (a == b || unspecified a || unspecified b)

namespace Host

/-- Opens a connection to a target. -/
def connect (h : Host) (t : KeyValue.Target) : Except Redis.Failure Unit :=
  match t.address with
  | .unix path => if h.kvSocket == some path then .ok () else .error (.io OsError.notFound.message)
  | .tcp _ _ => .error (.io OsError.networkUnreachable.message)

/-- Binds an address. -/
def bind (h : Host) (a : Net.SocketAddress) : Except OsError Unit :=
  if h.busy.any (clashes a) then .error .addrInUse
  else if !isLocal a then .error .addrNotAvailable
  else .ok ()

end Host

/-- How starting ended. -/
inductive Started where
  /-- A step failed: the program stops with this message and status 101. -/
  | failed (message : String)
  /-- The server listens at the address with these settings. -/
  | listening (config : Config)
  deriving Repr

/-- The greeting that switches to protocol version 3, with the credentials when there is a
password (user `default` when none is named). -/
def helloCommand (t : KeyValue.Target) : List String :=
  match t.password with
  | some p => ["HELLO", "3", "AUTH", t.username.getD "default", p]
  | none => ["HELLO", "3"]

/-- Whether an error line says the server wants `AUTH` with the password alone. -/
def wantsPasswordOnly (line : String) : Bool :=
  match Redis.Failure.lineDetail line with
  | some d => (d.splitOn "wrong number of arguments for 'auth' command").length > 1
  | none => false

/-- Signs in with the password, retrying without the user name when the server only takes a
password; any other refusal is an authentication failure. -/
def authenticate (user : Option String) (password : String) : KeyValue.ClientM Unit := do
  match (← Backend.kvExec (["AUTH"] ++ user.toList ++ [password])) with
  | .status "OK" => pure ()
  | .error line =>
    if wantsPasswordOnly line then
      match (← Backend.kvExec ["AUTH", password]) with
      | .status "OK" => pure ()
      | _ => throw .authenticationFailed
    else throw .authenticationFailed
  | _ => throw .authenticationFailed

/-- Opens a connection and sets it up: the protocol 3 greeting, or signing in when there is a
password; then the target's database when it is not 0. -/
def openConnection (h : Host) (t : KeyValue.Target) : KeyValue.ClientM Unit := do
  match h.connect t with
  | .error f => throw f
  | .ok () =>
    match t.protocol with
    | .resp3 =>
      match (← Backend.kvExec (helloCommand t)) with
      | .error line => throw (Redis.Failure.ofErrorLine line)
      | _ => pure ()
    | .resp2 =>
      match t.password with
      | some p => authenticate t.username p
      | none => pure ()
    if t.db ≠ 0 then
      match (← Backend.kvExec ["SELECT", toString t.db]) with
      | .error line => throw (.refusedDatabase (Redis.Failure.lineDetail line))
      | _ => pure ()

/-- Runs a client step: its failure stops starting with `context` before its message. -/
def stage {α : Type} (context : String) (wrap : String → String) (m : KeyValue.ClientM α) :
    ExceptT String BackendM α :=
  ExceptT.adapt (fun f => context ++ wrap f.message) m

/-- Starts the server with the environment's settings. -/
def start (h : Host) (env : Environment) : BackendM Started := do
  let r : ExceptT String BackendM Config := do
    let config ← match Config.fromEnv env with
      | .ok c => pure c
      | .error e => throw ("Failed to load config: " ++ e.debugView)
    let target ← match KeyValue.Target.ofUrl config.redisUrl with
      | .ok t => pure t
      | .error f => throw ("Invalid Redis URL: " ++ f.message)
    stage "Failed to connect to Redis: " id (openConnection h target)
    if config.nonceStore == .redis then
      stage "Failed to initialize nonce store: " (fun m => "Redis(" ++ m ++ ")") do
        openConnection h target
        discard (KeyValue.command ["PING"])
    match h.bind config.bindAddr with
    | .ok () => pure config
    | .error e => throw ("Failed to bind: " ++ e.debugView)
  match ← r.run with
  | .ok c => pure (.listening c)
  | .error m => pure (.failed m)

end Cli
end WalletAuth
