import DocStore.Database.Command
import DocStore.Log

/-!
# Scripts

An operation on a connection as a value: what it asks first, and for every reply
how it goes on.  Besides asking, a script reports events, and reads and sets the
one thing its store remembers, which is set at most once.  A script can fail; it
then asks nothing more.

A script says nothing about who answers.  Played against a list of replies
(`Database.Play`) it gives a trace; several scripts can be interleaved command by
command.
-/

namespace DocStore

/-- An operation on a connection that gives an `α`; its store remembers a `κ`. -/
inductive Script (κ α : Type) where
  | done (a : α)
  | fail (e : StoreError)
  | ask (c : Command) (next : Reply → Script κ α)
  | log (e : LogEvent) (next : Script κ α)
  /-- Reads what the store remembers. -/
  | inspect (next : Option κ → Script κ α)
  /-- Lets the store remember something, unless it does already.  While another operation is about
  to let it remember something, this comes to nothing, and the script goes on with what it has
  found itself.  Operations that run one at a time are never in each other's way; where they are
  interleaved, it is an event of its own. -/
  | remember (k : κ) (next : Script κ α)

namespace Script

variable {κ α β : Type}

/-- One script after the other. -/
def bind : Script κ α → (α → Script κ β) → Script κ β
  | done a, f => f a
  | fail e, _ => fail e
  | ask c next, f => ask c fun r => bind (next r) f
  | log e next, f => log e (bind next f)
  | inspect next, f => inspect fun k => bind (next k) f
  | remember k next, f => remember k (bind next f)

instance : Monad (Script κ) where
  pure := done
  bind := bind

/-- A value that may be an error. -/
def lift : Except StoreError α → Script κ α
  | .ok a => done a
  | .error e => fail e

/-- Asks, and fails with the error made of a fault. -/
def sendOr (toError : DatabaseFault → StoreError) (c : Command) : Script κ Answer :=
  ask c fun
    | .ok answer => done answer
    | .error fault => fail (toError fault)

/-- Asks, and fails with the error of a fault. -/
def send (c : Command) : Script κ Answer := sendOr DatabaseFault.toError c

/-- Runs a statement. -/
def execute (sql : String) (params : List Sql.Param) : Script κ Answer :=
  send (.execute ⟨sql, params⟩)

/-- Reports an event without fields. -/
def note (level : LogLevel) (message : String) : Script κ Unit :=
  log ⟨level, message, []⟩ (done ())

/-- What the store remembers. -/
def remembered : Script κ (Option κ) := inspect done

/-- Lets the store remember something. -/
def keep (k : κ) : Script κ Unit := remember k (done ())

/-- Commits; its failure is an error of its own. -/
def commit : Script κ Unit :=
  sendOr (fun fault => .transactionFailed fault.message) .commit >>= fun _ => done ()

/-- A transaction around a script.  What fails inside leaves it open; whoever runs the
script rolls back what it leaves open. -/
def transaction (body : Script κ α) : Script κ α := do
  let _ ← send .begin
  let a ← body
  commit
  pure a

/-! ## Laws -/

@[simp] theorem done_bind (a : α) (f : α → Script κ β) : (done a >>= f) = f a := rfl

@[simp] theorem pure_eq (a : α) : (pure a : Script κ α) = done a := rfl

@[simp] theorem fail_bind (e : StoreError) (f : α → Script κ β) : (fail e >>= f) = fail e := rfl

@[simp] theorem ask_bind (c : Command) (next : Reply → Script κ α) (f : α → Script κ β) :
    (ask c next >>= f) = ask c fun r => next r >>= f := rfl

@[simp] theorem log_bind (e : LogEvent) (next : Script κ α) (f : α → Script κ β) :
    (log e next >>= f) = log e (next >>= f) := rfl

@[simp] theorem inspect_bind (next : Option κ → Script κ α) (f : α → Script κ β) :
    (inspect next >>= f) = inspect fun k => next k >>= f := rfl

@[simp] theorem remember_bind (k : κ) (next : Script κ α) (f : α → Script κ β) :
    (remember k next >>= f) = remember k (next >>= f) := rfl

theorem bind_done (s : Script κ α) : (s >>= done) = s := by
  induction s with
  | done => rfl
  | fail => rfl
  | ask c next ih => simp [ih]
  | log e next ih => simp [ih]
  | inspect next ih => simp [ih]
  | remember k next ih => simp [ih]

theorem bind_assoc {γ : Type} (s : Script κ α) (f : α → Script κ β) (g : β → Script κ γ) :
    (s >>= f >>= g) = s >>= fun a => f a >>= g := by
  induction s with
  | done => rfl
  | fail => rfl
  | ask c next ih => simp [ih]
  | log e next ih => simp [ih]
  | inspect next ih => simp [ih]
  | remember k next ih => simp [ih]

end Script

end DocStore
