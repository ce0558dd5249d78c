import WalletAuth.Cli.Command
import WalletAuth.Cli.Startup

/-!
# WalletAuth.Main — the server program

The program's outer layer: it reads its arguments, standard input, random bytes and the
environment, hands them to the command line's definitions, and writes what they answer.

The program has no key-value client of its own, so `start` runs against a host with no
key-value server: starting stops at the connection, with the settings and the URL checked first.
-/

open WalletAuth

/-- The settings' variables as the process environment holds them. -/
def readEnvironment : IO Environment := do
  let values ← Config.variableNames.mapM fun name => do pure (name, ← IO.getEnv name)
  pure fun name => (values.lookup name).join

/-- A fresh secret key from the system's random bytes; a draw out of range is drawn again. -/
def freshKey : Nat → IO (Option SecretKey)
  | 0 => pure none
  | fuel + 1 => do
    match SecretKey.ofBytes (← IO.getRandomBytes 32) with
    | .ok k => pure (some k)
    | .error _ => freshKey fuel

/-- Writes a command's outcome and answers its status. -/
def finish (o : Cli.Outcome) : IO UInt32 := do
  IO.print o.stdout
  IO.eprint o.stderr
  pure o.status.toUInt32

def main (args : List String) : IO UInt32 := do
  match Cli.Command.parse args with
  | .usage => finish Cli.usageOutcome
  | .sign key =>
    let input ← (← IO.getStdin).readToEnd
    finish (Cli.signOutcome key input)
  | .keygen =>
    match ← freshKey 16 with
    | some k => finish { status := 0, stdout := Cli.keygenText k }
    | none => finish { status := 1, stderr := "no key could be drawn\n" }
  | .serve =>
    let env ← readEnvironment
    let backend : Backend := {
      clock := { now := ⟨0, 0⟩ }, entropy := {}, nonces := .broken, kv := {} }
    match ((Cli.start {} env).run backend |>.run).1 with
    | .failed m => finish { status := 101, stderr := m ++ "\n" }
    | .listening c => finish { status := 0, stdout := "Listening on " ++ c.bindAddr.toText ++ "\n" }
