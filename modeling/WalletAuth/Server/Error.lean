import WalletAuth.Auth.Error

/-!
# WalletAuth.Server.Error — failures as the HTTP API reports them

A failure at the API boundary has a status and a one-field JSON body `{"error": …}`. Internal
faults never show their detail to the caller, and every verification refusal is reported as
the same `401 Verification failed`, so a caller cannot probe which check failed.
-/

namespace WalletAuth

/-- A failure at the HTTP boundary. -/
inductive ApiError where
  | internal (detail : String)
  | badRequest (detail : String)
  | unauthorized (detail : String)
  | notFound (detail : String)
  | rateLimited
  deriving DecidableEq, Repr

namespace ApiError

/-- The name of the failure's class. -/
def variant : ApiError → String
  | .internal _ => "Internal"
  | .badRequest _ => "BadRequest"
  | .unauthorized _ => "Unauthorized"
  | .notFound _ => "NotFound"
  | .rateLimited => "RateLimited"

/-- The full description, for logs. -/
def display : ApiError → String
  | .internal d => "Internal error: " ++ d
  | .badRequest d => "Bad request: " ++ d
  | .unauthorized d => "Unauthorized: " ++ d
  | .notFound d => "Not found: " ++ d
  | .rateLimited => "Rate limited"

/-- The HTTP status. -/
def status : ApiError → Nat
  | .internal _ => 500
  | .badRequest _ => 400
  | .unauthorized _ => 401
  | .notFound _ => 404
  | .rateLimited => 429

/-- The text of the body's `error` field. -/
def bodyMessage : ApiError → String
  | .internal _ => "Internal server error"
  | .badRequest d => d
  | .unauthorized d => d
  | .notFound d => d
  | .rateLimited => "Rate limit exceeded"

/-- How a refused attempt is reported: request errors as they are, store faults and phase
faults as internal, every verification refusal as one generic `401`. -/
def ofAuth (e : AuthError) : ApiError :=
  if e.isRequestError then .badRequest e.message
  else
    match e with
    | .store d => .internal d
    | .invalidState _ => .internal e.message
    | _ => .unauthorized "Verification failed"

/-- A failure of the key-value store. -/
def ofStore (detail : String) : ApiError := .internal ("Redis error: " ++ detail)

/-- A failure to read or write JSON. -/
def ofJson (detail : String) : ApiError := .internal ("JSON error: " ++ detail)

end ApiError
end WalletAuth
