import WalletAuth.Handshake.Basic

/-!
# WalletAuth.Handshake.Concurrent — sign-in calls in flight at once

A server answers many requests at once. The calls that touch nonces (submitting or verifying a
signed answer, issuing a nonce, a sweep) share the backend, and each of their steps on it is
atomic: a clock reading, a nonce draw, one method of the nonce store. Between two steps of one
call any other call may take steps, and the clock may be moved.

* A `Thread` is a call in flight: what was asked, the steps still to take, and the steps it
  took with the backend's answers.
* A `World` is the backend with every call started so far.
* `World.next` lets one thing happen: a call starts, a call takes its next step, or the clock
  moves. Any list of events is a schedule, and `World.run` follows it.

The counts at the end say what the calls achieved: how many answered an identity for a
message naming an account and nonce, and how many issued that nonce for that account.
-/

namespace WalletAuth

/-- A call that runs concurrently with others. -/
inductive Call where
  | submit (h : Handshake) (signed : SignedResponse) (attempt : Attempt)
  | verify (h : Handshake) (signed : SignedResponse)
  | issue (ttl : Span) (a : Address)
  | sweep

/-- What a finished call answered. -/
inductive Outcome where
  | identity (r : Except AuthError Identity)
  | record (r : Except NonceError NonceRecord)
  | swept (r : Except NonceError Nat)

namespace Call

/-- The steps of a call. -/
def steps : Call → Prog Outcome
  | .submit h signed attempt =>
    (fun r => .identity r.1) <$> (Handshake.Steps.submitSigned h signed).run.run attempt
  | .verify h signed => .identity <$> Handshake.Steps.verifySigned h signed
  | .issue ttl a => .record <$> (Registry.Steps.issue ttl a).run
  | .sweep => .swept <$> Registry.Steps.sweep.run

/-- The signed text a call submits, if it submits one. -/
def signed? : Call → Option SignedResponse
  | .submit _ signed _ | .verify _ signed => some signed
  | .issue _ _ | .sweep => none

/-- Whether the call submits a signed message naming the account `a` and the nonce `n`. -/
def names (c : Call) (a : Address) (n : String) : Bool :=
  match c.signed? with
  | some signed =>
    match Challenge.parse signed.message with
    | .ok m => m.address == a && m.nonce == n
    | .error _ => false
  | none => false

end Call

/-- A step taken, with the backend's answer. -/
abbrev Taken := Σ x : Action, x.Answer

/-- A call in flight: what was asked, the steps still to take, and the steps taken. -/
structure Thread where
  call : Call
  rest : Prog Outcome
  taken : List Taken

namespace Thread

/-- A call just started. -/
def start (c : Call) : Thread := ⟨c, c.steps, []⟩

/-- The thread's next step on the backend; a finished thread stays as it is. -/
def step (t : Thread) (b : Backend) : Thread × Backend :=
  match t.rest with
  | .pure _ => (t, b)
  | .step x k =>
    let (v, b') := x.exec.run b
    (⟨t.call, k v, t.taken ++ [⟨x, v⟩]⟩, b')

/-- Whether the call answered an identity for a signed message naming `a` and `n`. -/
def authenticates (t : Thread) (a : Address) (n : String) : Bool :=
  t.call.names a n &&
    match t.rest with
    | .pure (.identity (.ok _)) => true
    | _ => false

/-- Whether the call issued the nonce `n` for the account `a`. -/
def issues (t : Thread) (a : Address) (n : String) : Bool :=
  match t.rest with
  | .pure (.record (.ok r)) => r.address == a && r.nonce == n
  | _ => false

end Thread

/-- What can happen next. -/
inductive Event where
  | start (c : Call)
  | step (i : Nat)
  | advance (d : Span)
  | setClock (t : Instant)

/-- The backend and every call started so far. -/
structure World where
  backend : Backend
  threads : List Thread

namespace World

/-- The world after one event; a step of a call that does not exist changes nothing. -/
def next (w : World) : Event → World
  | .start c => { w with threads := w.threads ++ [Thread.start c] }
  | .step i =>
    match w.threads[i]? with
    | some t =>
      let (t', b) := t.step w.backend
      ⟨b, w.threads.set i t'⟩
    | none => w
  | .advance d => { w with backend := { w.backend with clock := w.backend.clock.advance d } }
  | .setClock t => { w with backend := { w.backend with clock := w.backend.clock.set t } }

/-- The world after a schedule of events. -/
def run (w : World) (events : List Event) : World := events.foldl next w

/-- How many calls answered an identity for a signed message naming `a` and `n`. -/
def authentications (w : World) (a : Address) (n : String) : Nat :=
  w.threads.countP (·.authenticates a n)

/-- How many calls issued the nonce `n` for the account `a`. -/
def issued (w : World) (a : Address) (n : String) : Nat :=
  w.threads.countP (·.issues a n)

end World
end WalletAuth
