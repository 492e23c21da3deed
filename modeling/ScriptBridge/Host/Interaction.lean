/-!
# Interactions

A host function is not a black box to the bridge: it is a finite tree of
questions and answers.  At each node it asks for one operation, and the answer
decides how it goes on.  Running a tree against a state performs its operations
in order.  A host function can therefore do to the world only what the
operations allow, and it always ends.
-/

namespace ScriptBridge

/-- A finite dialogue: operations, each with its answers, and at last a result. -/
inductive Interaction (Op : Type) (Answer : Op -> Type) (Result : Type) where
  | finish (result : Result)
  | ask (op : Op) (next : Answer op -> Interaction Op Answer Result)

namespace Interaction

variable {Op : Type} {Answer : Op -> Type} {Result Other State : Type}

def run (perform : (op : Op) -> State -> Answer op × State) :
    Interaction Op Answer Result -> State -> Result × State
  | .finish result, s => (result, s)
  | .ask op next, s =>
      let (answer, s') := perform op s
      run perform (next answer) s'

def andThen (i : Interaction Op Answer Result)
    (next : Result -> Interaction Op Answer Other) :
    Interaction Op Answer Other :=
  match i with
  | .finish result => next result
  | .ask op follow => .ask op (fun answer => (follow answer).andThen next)

instance : Monad (Interaction Op Answer) where
  pure := .finish
  bind := andThen

def request (op : Op) : Interaction Op Answer (Answer op) :=
  .ask op .finish

theorem run_andThen (perform : (op : Op) -> State -> Answer op × State)
    (i : Interaction Op Answer Result)
    (next : Result -> Interaction Op Answer Other) (s : State) :
    (i.andThen next).run perform s =
      let (result, s') := i.run perform s
      (next result).run perform s' := by
  induction i generalizing s with
  | finish result => rfl
  | ask op follow ih =>
      exact ih (perform op s).1 (perform op s).2

end Interaction

end ScriptBridge
