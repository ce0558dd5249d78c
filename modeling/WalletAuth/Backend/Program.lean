import WalletAuth.Nonce.Store

/-!
# WalletAuth.Backend.Program — computations as their atomic steps on the backend

Several sign-in calls may be in flight at once, and they share the clock, the entropy source
and the nonce store. Each use of a shared part is one atomic step: a clock reading, a nonce
draw, or one method of the nonce store. `Prog` is a computation written as the steps it takes,
each continuation receiving what the backend answered; the binders, tests and matches between
the steps are ordinary Lean.

* `Action.exec` is what one step does to the backend.
* `Prog.run` runs a computation alone, its steps one after another.

A computation in `Prog` can also be interleaved with others, one step at a time, which is how
concurrent calls are modelled.
-/

namespace WalletAuth

/-- One atomic step on the shared backend. -/
inductive Action where
  | now
  | freshNonce
  | insert (r : NonceRecord) (retainUntil : Instant)
  | get (a : Address) (n : String)
  | claim (a : Address) (n : String)
  | remove (a : Address) (n : String)
  | purge (now : Instant)
  deriving DecidableEq, Repr

namespace Action

/-- What a step answers. -/
def Answer : Action → Type
  | .now => Instant
  | .freshNonce => String
  | .insert _ _ => Except StoreError Unit
  | .get _ _ => Except StoreError NonceState
  | .claim _ _ => Except StoreError NonceState
  | .remove _ _ => Except StoreError Unit
  | .purge _ => Except StoreError Nat

/-- Takes the step on the backend. -/
def exec : (x : Action) → BackendM x.Answer
  | .now => Backend.now
  | .freshNonce => Backend.freshNonce
  | .insert r retainUntil => (NonceStore.insert r retainUntil).run
  | .get a n => (NonceStore.get a n).run
  | .claim a n => (NonceStore.claim a n).run
  | .remove a n => (NonceStore.remove a n).run
  | .purge t => (NonceStore.purgeExpired t).run

end Action

/-- A computation as the atomic steps it takes, each continued with the backend's answer. -/
inductive Prog (α : Type) where
  | pure (a : α)
  | step (x : Action) (k : x.Answer → Prog α)

namespace Prog

variable {α β γ : Type}

/-- Runs `p`, then the computation its result chooses. -/
def bind : Prog α → (α → Prog β) → Prog β
  | pure a, f => f a
  | step x k, f => step x fun v => bind (k v) f

instance : Monad Prog where
  pure := Prog.pure
  bind := Prog.bind

@[simp] theorem pure_eq (a : α) : (Pure.pure a : Prog α) = Prog.pure a := rfl

@[simp] theorem pure_bind' (a : α) (f : α → Prog β) : (Prog.pure a >>= f) = f a := rfl

@[simp] theorem step_bind (x : Action) (k : x.Answer → Prog α) (f : α → Prog β) :
    (Prog.step x k >>= f) = Prog.step x fun v => k v >>= f := rfl

theorem bind_pure' : ∀ p : Prog α, p >>= Prog.pure = p
  | pure _ => rfl
  | step x k => by
    change Prog.step x (fun v => k v >>= Prog.pure) = _
    simp only [bind_pure']

theorem bind_assoc' : ∀ (p : Prog α) (f : α → Prog β) (g : β → Prog γ),
    p >>= f >>= g = p >>= fun a => f a >>= g
  | pure _, _, _ => rfl
  | step x k, f, g => by
    change Prog.step x (fun v => k v >>= f >>= g) = Prog.step x (fun v => k v >>= _)
    simp only [bind_assoc']

instance : LawfulMonad Prog :=
  LawfulMonad.mk' Prog (fun p => bind_pure' p) (fun _ _ => rfl) bind_assoc'

/-- One atomic step, answering what the backend answered. -/
def atomic (x : Action) : Prog x.Answer := step x Prog.pure

/-- Reads the clock. -/
def now : Prog Instant := atomic .now

/-- Draws a fresh nonce. -/
def freshNonce : Prog String := atomic .freshNonce

/-- The computation alone on the backend: its steps one after another. -/
def run : Prog α → BackendM α
  | pure a => Pure.pure a
  | step x k => x.exec >>= fun v => run (k v)

@[simp] theorem run_pure (a : α) : (Prog.pure a).run = Pure.pure a := rfl

@[simp] theorem run_step (x : Action) (k : x.Answer → Prog α) :
    (Prog.step x k).run = x.exec >>= fun v => (k v).run := rfl

/-- Running alone respects sequencing: `run` is a monad morphism. -/
@[simp] theorem run_bind : ∀ (p : Prog α) (f : α → Prog β),
    (p >>= f).run = p.run >>= fun a => (f a).run
  | pure _, _ => by simp
  | step x k, f => by
    simp only [step_bind, run_step, bind_assoc]
    congr 1
    funext v
    exact run_bind (k v) f

@[simp] theorem run_atomic (x : Action) : (atomic x).run = x.exec := by
  simp [atomic]

end Prog
end WalletAuth
