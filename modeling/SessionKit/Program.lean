/-!
# Programs over a set of requests

A program is a value that is either done or asks its surroundings one request and goes on with the
answer. What the surroundings are is left open: a program can be run against a pure state, against
another monad, or one request at a time beside other programs.
-/

namespace SessionKit

inductive Program (Request : Type) (Answer : Request → Type) (α : Type) where
  | done (result : α)
  | ask (request : Request) (next : Answer request → Program Request Answer α)

namespace Program

variable {Request : Type} {Answer : Request → Type} {α β σ : Type}

def bind : Program Request Answer α → (α → Program Request Answer β) → Program Request Answer β
  | done a, f => f a
  | ask r next, f => ask r fun answer => (next answer).bind f

instance : Monad (Program Request Answer) where
  pure := done
  bind := bind

/-- The program that hands back the answer to one request. -/
def request (r : Request) : Program Request Answer (Answer r) := ask r done

/-- Runs against a state that answers every request. -/
def run (answer : (r : Request) → σ → Answer r × σ) : Program Request Answer α → σ → α × σ
  | done a, s => (a, s)
  | ask r next, s =>
    let (x, t) := answer r s
    (next x).run answer t

/-- Runs inside another monad that answers every request. -/
def runIn {m : Type → Type} [Monad m] (answer : (r : Request) → m (Answer r)) :
    Program Request Answer α → m α
  | done a => Pure.pure a
  | ask r next => answer r >>= fun x => (next x).runIn answer

/-! ## Laws -/

@[simp] theorem done_bind (a : α) (f : α → Program Request Answer β) : (done a).bind f = f a := rfl

@[simp] theorem ask_bind (r : Request) (next : Answer r → Program Request Answer α)
    (f : α → Program Request Answer β) :
    (ask r next).bind f = ask r fun x => (next x).bind f := rfl

@[simp] theorem bind_done (p : Program Request Answer α) : p.bind done = p := by
  induction p with
  | done a => rfl
  | ask r next ih => simp [bind, ih]

theorem bind_assoc {γ : Type} (p : Program Request Answer α) (f : α → Program Request Answer β)
    (g : β → Program Request Answer γ) : (p.bind f).bind g = p.bind fun a => (f a).bind g := by
  induction p with
  | done a => rfl
  | ask r next ih => simp [ih]

@[simp] theorem pure_eq_done (a : α) : (pure a : Program Request Answer α) = done a := rfl

@[simp] theorem bind_eq (p : Program Request Answer α) (f : α → Program Request Answer β) :
    p >>= f = p.bind f := rfl

@[simp] theorem run_done (answer : (r : Request) → σ → Answer r × σ) (a : α) (s : σ) :
    (done a).run answer s = (a, s) := rfl

@[simp] theorem run_ask (answer : (r : Request) → σ → Answer r × σ) (r : Request)
    (next : Answer r → Program Request Answer α) (s : σ) :
    (ask r next).run answer s = (next (answer r s).1).run answer (answer r s).2 := rfl

instance : LawfulMonad (Program Request Answer) :=
  LawfulMonad.mk' _ bind_done (fun _ _ => rfl) bind_assoc

theorem run_bind (answer : (r : Request) → σ → Answer r × σ) (p : Program Request Answer α)
    (f : α → Program Request Answer β) (s : σ) :
    (p.bind f).run answer s = (f (p.run answer s).1).run answer (p.run answer s).2 := by
  induction p generalizing s with
  | done a => rfl
  | ask r next ih => simp [ih]

end Program
end SessionKit
