import DualToken.Program

/-!
# Programs that run at the same time

Programs that share a state take turns: a schedule says, action by action, whose turn it is. Each
action is performed as a whole. A turn of a program that is done, or that does not exist, passes
without effect.
-/

set_option autoImplicit false

namespace DualToken.Interleaving

variable {Action : Type} {Reply : Action → Type} {α σ : Type}

/-- Lets the program at a position perform its next action. -/
def turn (world : (action : Action) → σ → Reply action × σ)
    (current : List (Program Action Reply α) × σ) (position : Nat) :
    List (Program Action Reply α) × σ :=
  let (programs, state) := current
  match programs[position]? with
  | some (.act action next) =>
    let (reply, state) := world action state
    (programs.set position (next reply), state)
  | _ => current

/-- Runs programs on a shared state, in the order of a schedule. -/
def run (world : (action : Action) → σ → Reply action × σ) (schedule : List Nat)
    (programs : List (Program Action Reply α)) (state : σ) :
    List (Program Action Reply α) × σ :=
  schedule.foldl (turn world) (programs, state)

/-- The result of a program that is done. -/
def result? : Program Action Reply α → Option α
  | .done result => some result
  | .act _ _ => none

end DualToken.Interleaving
