/-!
# Programs

A program is a computation told apart from the world that it acts on: it is done, or it performs one
action and goes on with the reply. What an action does is decided by whoever runs the program, so
the same program can be run against a state, against scripted failures, or step by step among others
(`DualToken.Interleaving`).

Programs form a monad, and running one program after another is running their composition
(`run_bind`).
-/

set_option autoImplicit false

namespace DualToken

/-- A computation that acts step by step. -/
inductive Program (Action : Type) (Reply : Action → Type) (α : Type) : Type where
  /-- Nothing is left to do. -/
  | done (result : α)
  /-- One action comes next, and its reply decides how to go on. -/
  | act (action : Action) (next : Reply action → Program Action Reply α)

namespace Program

variable {Action : Type} {Reply : Action → Type} {α β γ σ : Type}

/-- One program after another. -/
def andThen : Program Action Reply α → (α → Program Action Reply β) → Program Action Reply β
  | .done result, next => next result
  | .act action rest, next => .act action fun reply => (rest reply).andThen next

instance : Monad (Program Action Reply) where
  pure := .done
  bind := andThen

/-- The program of one action. -/
def perform (action : Action) : Program Action Reply (Reply action) :=
  .act action .done

@[simp] theorem pure_eq_done (result : α) :
    (pure result : Program Action Reply α) = .done result := rfl

@[simp] theorem done_bind (result : α) (next : α → Program Action Reply β) :
    (Program.done result >>= next) = next result := rfl

@[simp] theorem act_bind (action : Action) (rest : Reply action → Program Action Reply α)
    (next : α → Program Action Reply β) :
    (Program.act action rest >>= next) = .act action fun reply => rest reply >>= next := rfl

/-- A program followed by nothing is the program itself. -/
theorem bind_done (program : Program Action Reply α) : (program >>= Program.done) = program := by
  induction program with
  | done result => rfl
  | act action rest ih => simp only [act_bind, ih]

/-- Three programs in a row may be grouped either way. -/
theorem bind_assoc (program : Program Action Reply α) (second : α → Program Action Reply β)
    (third : β → Program Action Reply γ) :
    (program >>= second >>= third) = program >>= fun result => second result >>= third := by
  induction program with
  | done result => rfl
  | act action rest ih => simp only [act_bind, ih]

instance : LawfulMonad (Program Action Reply) :=
  LawfulMonad.mk' (m := Program Action Reply) bind_done (fun _ _ => rfl) bind_assoc

/-- Runs a program on a state, on which `world` performs its actions. -/
def run (world : (action : Action) → σ → Reply action × σ) :
    Program Action Reply α → σ → α × σ
  | .done result, state => (result, state)
  | .act action next, state =>
    let (reply, state) := world action state
    (next reply).run world state

@[simp] theorem run_done (world : (action : Action) → σ → Reply action × σ) (result : α)
    (state : σ) :
    (Program.done result : Program Action Reply α).run world state = (result, state) :=
  rfl

@[simp] theorem run_act (world : (action : Action) → σ → Reply action × σ) (action : Action)
    (next : Reply action → Program Action Reply α) (state : σ) :
    (Program.act action next).run world state =
      (next (world action state).1).run world (world action state).2 := rfl

/-- **Running a composition is running its parts one after another.** -/
@[simp] theorem run_bind (world : (action : Action) → σ → Reply action × σ)
    (program : Program Action Reply α) (next : α → Program Action Reply β) (state : σ) :
    (program >>= next).run world state =
      (next (program.run world state).1).run world (program.run world state).2 := by
  induction program generalizing state with
  | done result => rfl
  | act action rest ih => simp only [act_bind, run_act, ih]

end Program

end DualToken
