import WalletAuth.Net.SocketAddress
import WalletAuth.Text.Decimal
import WalletAuth.Text.Blank
import WalletAuth.Text.Escaped
import WalletAuth.Challenge.Policy

/-!
# WalletAuth.Config.Basic — the server's settings, read from its environment

Every setting comes from one environment variable; all but the key-value server's URL and the
domain have a default. The settings are read in a fixed order and the first problem is the one
reported:

* a required variable that is not set is `missingVar`;
* a number or socket address that does not read is `parseError`, with the reader's sentence and,
  for numbers, the text that was read;
* a value that reads but is not allowed is `invalidValue`.

Texts are trimmed of blanks where noted; numbers are read exactly as given.
-/

namespace WalletAuth

/-- Where nonce records are kept. -/
inductive NonceStoreKind where
  | redis
  | memory
  deriving DecidableEq, Repr

namespace NonceStoreKind

def name : NonceStoreKind → String
  | .redis => "redis"
  | .memory => "memory"

/-- The kind named, ignoring ASCII case. -/
def parse (s : String) : Except String NonceStoreKind :=
  match String.ofList (s.toList.map Char.toLower) with
  | "redis" => .ok .redis
  | "memory" => .ok .memory
  | _ => .error ("expected 'redis' or 'memory', got '" ++ s ++ "'")

end NonceStoreKind

/-- The server's settings. -/
structure Config where
  redisUrl : String
  bindAddr : Net.SocketAddress
  authDomain : String
  authScheme : Option String
  authStatement : Option String
  allowedOrigins : List String
  chainId : Nat
  allowedChainIds : List Nat
  nonceTtlSecs : Nat
  nonceStore : NonceStoreKind
  sweepIntervalSecs : Nat
  sessionTtlSecs : Nat
  rateLimitAuthPerMin : Nat
  deriving DecidableEq, Repr

/-- Why the settings could not be read. -/
inductive ConfigError where
  | missingVar (name : String)
  | invalidValue (name : String) (detail : String)
  | parseError (name : String) (detail : String)
  deriving DecidableEq, Repr

namespace ConfigError

/-- The sentence that reports the error. -/
def message : ConfigError → String
  | .missingVar n => "Missing required environment variable: " ++ n
  | .invalidValue n d => "Invalid value for " ++ n ++ ": " ++ d
  | .parseError n d => "Failed to parse " ++ n ++ ": " ++ d

def kind : ConfigError → String
  | .missingVar _ => "MissingVar"
  | .invalidValue _ _ => "InvalidValue"
  | .parseError _ _ => "ParseError"

/-- The debug view of the error, as a panic shows it. -/
def debugView : ConfigError → String
  | .missingVar n => "MissingVar(" ++ Text.quote n ++ ")"
  | .invalidValue n d => "InvalidValue(" ++ Text.quote n ++ ", " ++ Text.quote d ++ ")"
  | .parseError n d => "ParseError(" ++ Text.quote n ++ ", " ++ Text.quote d ++ ")"

end ConfigError

abbrev Environment := String → Option String

namespace Config

def variableNames : List String :=
  ["REDIS_URL", "BIND_ADDR", "AUTH_DOMAIN", "AUTH_SCHEME", "AUTH_STATEMENT", "ALLOWED_ORIGINS",
    "CHAIN_ID", "ALLOWED_CHAIN_IDS", "NONCE_TTL_SECS", "NONCE_STORE", "SWEEP_INTERVAL_SECS",
    "SESSION_TTL_SECS", "RATE_LIMIT_AUTH_PER_MIN"]

def maxNonceTtlSecs : Nat := 86400

def maxSweepIntervalSecs : Nat := 3600

/-- A comma-separated list: items trimmed, empty ones dropped. -/
def splitList (s : String) : List String :=
  ((s.splitOn ",").map Text.trimBlank).filter (!·.isEmpty)

/-- An unsigned number of `bits` bits, or its default when the variable is not set. -/
def number (env : Environment) (key : String) (bits default : Nat) : Except ConfigError Nat :=
  match env key with
  | none => .ok default
  | some v =>
    match Text.parseUnsigned bits v with
    | .ok n => .ok n
    | .error e => .error (.parseError key (e.message ++ ": " ++ v))

def require (ok : Bool) (key detail : String) : Except ConfigError Unit :=
  if ok then .ok () else .error (.invalidValue key detail)

def isSchemeText (s : String) : Bool :=
  s.toList.all fun c => (c.isAlphanum && c.toNat < 128) || c == '+' || c == '-' || c == '.'

def required (env : Environment) (key : String) : Except ConfigError String :=
  match env key with
  | some v => .ok v
  | none => .error (.missingVar key)

/-- The listening address, `0.0.0.0:3000` when not set. -/
def bindAddrSetting (env : Environment) : Except ConfigError Net.SocketAddress :=
  match Net.SocketAddress.parse ((env "BIND_ADDR").getD "0.0.0.0:3000") with
  | some a => .ok a
  | none => .error (.parseError "BIND_ADDR" Net.SocketAddress.parseErrorText)

/-- The scheme, trimmed and lowercased; an empty one is none. -/
def schemeSetting (env : Environment) : Option String :=
  (env "AUTH_SCHEME").bind fun s =>
    let t := String.ofList ((Text.trimBlank s).toList.map Char.toLower)
    if t.isEmpty then none else some t

/-- The statement: an empty one is none, and an unset one the default sentence. -/
def statementSetting (env : Environment) : Option String :=
  match env "AUTH_STATEMENT" with
  | some "" => none
  | some s => some s
  | none => some "Sign in with Ethereum"

/-- The chains served, by default the one chain named. -/
def chainIdsSetting (env : Environment) (chainId : Nat) : Except ConfigError (List Nat) :=
  match env "ALLOWED_CHAIN_IDS" with
  | some list =>
    (splitList list).mapM fun s =>
      match Text.parseUnsigned 64 s with
      | .ok n => .ok n
      | .error e => .error (.parseError "ALLOWED_CHAIN_IDS" (e.message ++ ": " ++ s))
  | none => .ok [chainId]

/-- Where nonce records are kept, by default the key-value server. -/
def storeSetting (env : Environment) : Except ConfigError NonceStoreKind :=
  match env "NONCE_STORE" with
  | none => .ok .redis
  | some v =>
    match NonceStoreKind.parse v with
    | .ok k => .ok k
    | .error e => .error (.parseError "NONCE_STORE" (e ++ ": " ++ v))

/-- Reads the settings. -/
def fromEnv (env : Environment) : Except ConfigError Config := do
  let redisUrl ← required env "REDIS_URL"
  let bindAddr ← bindAddrSetting env
  let authDomain := Text.trimBlank (← required env "AUTH_DOMAIN")
  require (!(authDomain.isEmpty || authDomain.toList.contains '/' || Text.hasBlank authDomain))
    "AUTH_DOMAIN" "must be a bare host[:port]"
  let authScheme := schemeSetting env
  authScheme.forM fun scheme => require (isSchemeText scheme) "AUTH_SCHEME" "invalid URI scheme"
  let authStatement := statementSetting env
  authStatement.forM fun st =>
    require (!(st.toList.contains '\n' || st.toList.contains '\r')) "AUTH_STATEMENT"
      "must be a single line"
  let allowedOrigins := splitList ((env "ALLOWED_ORIGINS").getD "")
  let chainId ← number env "CHAIN_ID" 64 1
  let allowedChainIds ← chainIdsSetting env chainId
  require (allowedChainIds.contains chainId) "ALLOWED_CHAIN_IDS"
    ("must include CHAIN_ID " ++ toString chainId)
  let nonceTtlSecs ← number env "NONCE_TTL_SECS" 64 300
  require (1 ≤ nonceTtlSecs && nonceTtlSecs ≤ maxNonceTtlSecs) "NONCE_TTL_SECS"
    ("must be between 1 and " ++ toString maxNonceTtlSecs)
  let nonceStore ← storeSetting env
  let sweepIntervalSecs ← number env "SWEEP_INTERVAL_SECS" 64 60
  require (1 ≤ sweepIntervalSecs && sweepIntervalSecs ≤ maxSweepIntervalSecs) "SWEEP_INTERVAL_SECS"
    ("must be between 1 and " ++ toString maxSweepIntervalSecs)
  let sessionTtlSecs ← number env "SESSION_TTL_SECS" 64 900
  let rateLimitAuthPerMin ← number env "RATE_LIMIT_AUTH_PER_MIN" 32 10
  pure { redisUrl, bindAddr, authDomain, authScheme, authStatement, allowedOrigins, chainId,
         allowedChainIds, nonceTtlSecs, nonceStore, sweepIntervalSecs, sessionTtlSecs,
         rateLimitAuthPerMin }

def challengePolicy (c : Config) : ChallengePolicy :=
  { domain := c.authDomain, scheme := c.authScheme, statement := c.authStatement,
    allowedOrigins := c.allowedOrigins, defaultChainId := c.chainId,
    allowedChainIds := c.allowedChainIds }

def optionView (o : Option String) : String :=
  match o with
  | some s => "Some(" ++ Text.quote s ++ ")"
  | none => "None"

def listView (items : List String) : String := "[" ++ ", ".intercalate items ++ "]"

/-- The debug view of the settings; the key-value server's URL, which may hold a password, is
never shown. -/
def debugView (c : Config) : String :=
  "Config \x7b redis_url: \"[REDACTED]\", bind_addr: " ++ c.bindAddr.toText ++
  ", auth_domain: " ++ Text.quote c.authDomain ++
  ", auth_scheme: " ++ optionView c.authScheme ++
  ", auth_statement: " ++ optionView c.authStatement ++
  ", allowed_origins: " ++ listView (c.allowedOrigins.map Text.quote) ++
  ", chain_id: " ++ toString c.chainId ++
  ", allowed_chain_ids: " ++ listView (c.allowedChainIds.map toString) ++
  ", nonce_ttl_secs: " ++ toString c.nonceTtlSecs ++
  ", nonce_store: " ++ (match c.nonceStore with | .redis => "Redis" | .memory => "Memory") ++
  ", sweep_interval_secs: " ++ toString c.sweepIntervalSecs ++
  ", session_ttl_secs: " ++ toString c.sessionTtlSecs ++
  ", rate_limit_auth_per_min: " ++ toString c.rateLimitAuthPerMin ++ " \x7d"

end Config
end WalletAuth
