namespace OnDemandTls

/-!
# Programs

A program is a sequence of calls, each of which may depend on the answers to the
calls before it.  What a call does is left open: the same program runs against a
real world, against a rehearsed one and among other programs, and a statement
about all answers is a statement about all of these.

Two programs that go on alike for every answer are equal, so programs satisfy
the laws of sequencing as equations.
-/

/-- What can be called, and what a call is answered with. -/
structure Interface where
  Call : Type
  Answer : Call → Type

/-- A program that calls an interface and ends in a value. -/
inductive Program (I : Interface) (α : Type) where
  | done (value : α)
  | call (request : I.Call) (next : I.Answer request → Program I α)

namespace Program

variable {I J : Interface} {α β γ : Type}

/-- The program that makes one call and ends in its answer. -/
def ask (request : I.Call) : Program I (I.Answer request) :=
  .call request .done

/-- One program after another. -/
def bind
    (program : Program I α)
    (next : α → Program I β) :
    Program I β :=
  match program with
  | .done value => next value
  | .call request rest => .call request (fun answer => (rest answer).bind next)

instance : Monad (Program I) where
  pure := .done
  bind := bind

/-- A program whose calls are carried out by programs over another interface. -/
def interpret
    (meaning : (request : I.Call) → Program J (I.Answer request)) :
    Program I α → Program J α
  | .done value => .done value
  | .call request next => (meaning request).bind (fun answer => (next answer).interpret meaning)

theorem bind_done (program : Program I α) :
    program.bind .done = program := by
  induction program with
  | done value =>
      rfl
  | call request next inductionHypothesis =>
      simp only [bind, inductionHypothesis]

theorem bind_bind
    (program : Program I α)
    (next : α → Program I β)
    (last : β → Program I γ) :
    (program.bind next).bind last = program.bind (fun value => (next value).bind last) := by
  induction program with
  | done value =>
      rfl
  | call request rest inductionHypothesis =>
      simp only [bind, inductionHypothesis]

theorem map_eq_bind
    (f : α → β)
    (program : Program I α) :
    f <$> program = program.bind (fun value => .done (f value)) :=
  rfl

instance : LawfulMonad (Program I) :=
  LawfulMonad.mk' (Program I) bind_done (fun _ _ => rfl) bind_bind

/-- Interpretation goes through sequencing. -/
theorem interpret_bind
    (meaning : (request : I.Call) → Program J (I.Answer request))
    (program : Program I α)
    (next : α → Program I β) :
    (program.bind next).interpret meaning =
      (program.interpret meaning).bind (fun value => (next value).interpret meaning) := by
  induction program with
  | done value =>
      rfl
  | call request rest inductionHypothesis =>
      simp only [bind, interpret, bind_bind, inductionHypothesis]

end Program

end OnDemandTls
