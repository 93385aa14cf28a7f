import DualToken.Program

/-!
# Reasoning about programs

A run performs one action after another, and its trace lists them with their replies. What every
action preserves, a whole run preserves (`run_preserves`).

`Obeys` is a contract between a program and whoever performs its actions: as long as every reply is
one that the program may rely on, the program performs only actions that it guarantees, and its
result is of the promised kind. Contracts are composed like programs (`Obeys.bind`). They do not
mention the state, so they hold for a program that runs alone and for one that takes turns with
others.
-/

set_option autoImplicit false

namespace DualToken

/-- An action that was performed, with its reply. -/
structure Performed (Action : Type) (Reply : Action → Type) where
  action : Action
  reply : Reply action

namespace Program

variable {Action : Type} {Reply : Action → Type} {α β σ : Type}

/-! ## Traces -/

section Runs

variable (world : (action : Action) → σ → Reply action × σ)

/-- The actions that a run performs, with their replies. -/
def trace : Program Action Reply α → σ → List (Performed Action Reply)
  | .done _, _ => []
  | .act action next, state =>
    let (reply, later) := world action state
    ⟨action, reply⟩ :: (next reply).trace later

@[simp] theorem trace_done (result : α) (state : σ) :
    (Program.done result : Program Action Reply α).trace world state = [] := rfl

@[simp] theorem trace_act (action : Action) (next : Reply action → Program Action Reply α)
    (state : σ) :
    (Program.act action next).trace world state =
      ⟨action, (world action state).1⟩ ::
        (next (world action state).1).trace world (world action state).2 := rfl

/-- The trace of a composition is the trace of its first part and then that of its second. -/
@[simp] theorem trace_bind (program : Program Action Reply α) (next : α → Program Action Reply β)
    (state : σ) :
    (program >>= next).trace world state =
      program.trace world state ++
        (next (program.run world state).1).trace world (program.run world state).2 := by
  induction program generalizing state with
  | done result => rfl
  | act action rest ih => simp only [act_bind, trace_act, run_act, ih, List.cons_append]

/-- The actions that a run performs, with their replies, and with the state behind each of them. -/
def timeline : Program Action Reply α → σ → List (Performed Action Reply × σ)
  | .done _, _ => []
  | .act action next, state =>
    let (reply, later) := world action state
    (⟨action, reply⟩, later) :: (next reply).timeline later

@[simp] theorem timeline_done (result : α) (state : σ) :
    (Program.done result : Program Action Reply α).timeline world state = [] := rfl

@[simp] theorem timeline_act (action : Action) (next : Reply action → Program Action Reply α)
    (state : σ) :
    (Program.act action next).timeline world state =
      (⟨action, (world action state).1⟩, (world action state).2) ::
        (next (world action state).1).timeline world (world action state).2 := rfl

@[simp] theorem timeline_bind (program : Program Action Reply α) (next : α → Program Action Reply β)
    (state : σ) :
    (program >>= next).timeline world state =
      program.timeline world state ++
        (next (program.run world state).1).timeline world (program.run world state).2 := by
  induction program generalizing state with
  | done result => rfl
  | act action rest ih => simp only [act_bind, timeline_act, run_act, ih, List.cons_append]

/-- Without the states, a timeline is a trace. -/
theorem map_fst_timeline (program : Program Action Reply α) (state : σ) :
    (program.timeline world state).map Prod.fst = program.trace world state := by
  induction program generalizing state with
  | done result => rfl
  | act action rest ih => rw [timeline_act, trace_act, List.map_cons, ih]

variable {world}

/-- **What every action preserves, a run preserves.** -/
theorem run_preserves (invariant : σ → Prop)
    (preserved : ∀ action state, invariant state → invariant (world action state).2)
    (program : Program Action Reply α) (state : σ) (start : invariant state) :
    invariant (program.run world state).2 := by
  induction program generalizing state with
  | done result => exact start
  | act action rest ih => exact ih _ _ (preserved action state start)

/-- Two worlds that perform actions alike wherever the one leads run programs alike. -/
theorem run_congr {world' : (action : Action) → σ → Reply action × σ} (invariant : σ → Prop)
    (agree : ∀ action state, invariant state →
      world' action state = world action state ∧ invariant (world action state).2)
    (program : Program Action Reply α) (state : σ) (start : invariant state) :
    program.run world' state = program.run world state := by
  induction program generalizing state with
  | done result => rfl
  | act action rest ih =>
    obtain ⟨same, kept⟩ := agree action state start
    rw [run_act, run_act, same]
    exact ih _ _ kept

end Runs

/-! ## Contracts -/

section Contracts

variable (guarantee : Action → Prop) (rely : (action : Action) → Reply action → Prop)

/-- As long as it can rely on the replies, the program performs only actions that it guarantees, and
its result is as promised. -/
def Obeys (promise : α → Prop) : Program Action Reply α → Prop
  | .done result => promise result
  | .act action next =>
    guarantee action ∧ ∀ reply, rely action reply → (next reply).Obeys promise

variable {guarantee rely}

/-- A contract for a composition is made of contracts for its parts. -/
theorem Obeys.bind {middle : α → Prop} {promise : β → Prop} {program : Program Action Reply α}
    {next : α → Program Action Reply β} (first : program.Obeys guarantee rely middle)
    (second : ∀ result, middle result → (next result).Obeys guarantee rely promise) :
    (program >>= next).Obeys guarantee rely promise := by
  induction program with
  | done result => exact second result first
  | act action rest ih =>
    obtain ⟨allowed, rest⟩ := first
    exact ⟨allowed, fun reply relied => ih reply (rest reply relied)⟩

/-- Every program keeps the contract that says nothing. -/
theorem obeys_trivial (program : Program Action Reply α) :
    program.Obeys (fun _ => True) (fun _ _ => True) fun _ => True := by
  induction program with
  | done result => trivial
  | act action rest ih => exact ⟨trivial, fun reply _ => ih reply⟩

/-- A contract may promise less. -/
theorem Obeys.mono {promise weaker : α → Prop} {program : Program Action Reply α}
    (obeys : program.Obeys guarantee rely promise)
    (implies : ∀ result, promise result → weaker result) :
    program.Obeys guarantee rely weaker := by
  induction program with
  | done result => exact implies result obeys
  | act action rest ih =>
    obtain ⟨allowed, rest⟩ := obeys
    exact ⟨allowed, fun reply relied => ih reply (rest reply relied)⟩

/-- A contract may guarantee less and rely on more. -/
theorem Obeys.imp {guarantee' : Action → Prop} {rely' : (action : Action) → Reply action → Prop}
    {promise : α → Prop} {program : Program Action Reply α}
    (obeys : program.Obeys guarantee rely promise)
    (guarantees : ∀ action, guarantee action → guarantee' action)
    (relies : ∀ action reply, rely' action reply → rely action reply) :
    program.Obeys guarantee' rely' promise := by
  induction program with
  | done result => exact obeys
  | act action rest ih =>
    obtain ⟨allowed, rest⟩ := obeys
    exact ⟨guarantees action allowed,
      fun reply relied => ih reply (rest reply (relies action reply relied))⟩

/-- As long as it can rely on the replies, the program performs only actions that it guarantees,
until it is a program of some kind. -/
def Leads (guarantee : Action → Prop) (rely : (action : Action) → Reply action → Prop)
    (goal : Program Action Reply α → Prop) : Program Action Reply α → Prop
  | .done result => goal (.done result)
  | .act action next =>
    goal (.act action next) ∨
      (guarantee action ∧ ∀ reply, rely action reply → (next reply).Leads guarantee rely goal)

theorem leads_of_goal {goal : Program Action Reply α → Prop} {program : Program Action Reply α}
    (there : goal program) : program.Leads guarantee rely goal := by
  cases program with
  | done result => exact there
  | act action next => exact .inl there

/-- A program leads where the second part of it leads, if the first part keeps its contract. -/
theorem Obeys.leads_bind {middle : α → Prop} {goal : Program Action Reply β → Prop}
    {program : Program Action Reply α} {next : α → Program Action Reply β}
    (first : program.Obeys guarantee rely middle)
    (second : ∀ result, middle result → (next result).Leads guarantee rely goal) :
    (program >>= next).Leads guarantee rely goal := by
  induction program with
  | done result => exact second result first
  | act action rest ih =>
    obtain ⟨allowed, rest⟩ := first
    exact .inr ⟨allowed, fun reply relied => ih reply (rest reply relied)⟩

/-- A program that keeps its contract preserves what the actions that it guarantees preserve, if
they also give it the replies that it relies on. What the replies of the trace are known to be may
help with that. -/
theorem Obeys.run_of_trace {world : (action : Action) → σ → Reply action × σ}
    (invariant : σ → Prop) (known : (action : Action) → Reply action → Prop) {promise : α → Prop}
    {program : Program Action Reply α} (obeys : program.Obeys guarantee rely promise)
    (preserved : ∀ action state, guarantee action → known action (world action state).1 →
      invariant state → rely action (world action state).1 ∧ invariant (world action state).2)
    (state : σ)
    (knows : ∀ performed ∈ program.trace world state, known performed.action performed.reply)
    (start : invariant state) :
    promise (program.run world state).1 ∧ invariant (program.run world state).2 := by
  induction program generalizing state with
  | done result => exact ⟨obeys, start⟩
  | act action rest ih =>
    obtain ⟨allowed, rest⟩ := obeys
    simp only [trace_act, List.forall_mem_cons] at knows
    obtain ⟨here, later⟩ := knows
    obtain ⟨relied, kept⟩ := preserved action state allowed here start
    exact ih _ (rest _ relied) _ later kept

/-- A program that gets the replies that it relies on performs only actions that it guarantees, and
gets no other replies. -/
theorem Obeys.trace_of_run {world : (action : Action) → σ → Reply action × σ}
    (invariant : σ → Prop) {promise : α → Prop} {program : Program Action Reply α}
    (obeys : program.Obeys guarantee rely promise)
    (preserved : ∀ action state, guarantee action → invariant state →
      rely action (world action state).1 ∧ invariant (world action state).2)
    (state : σ) (start : invariant state) :
    ∀ performed ∈ program.trace world state,
      guarantee performed.action ∧ rely performed.action performed.reply := by
  induction program generalizing state with
  | done result => exact fun _ member => absurd member List.not_mem_nil
  | act action rest ih =>
    obtain ⟨allowed, rest⟩ := obeys
    obtain ⟨relied, kept⟩ := preserved action state allowed start
    exact List.forall_mem_cons.2 ⟨⟨allowed, relied⟩, ih _ (rest _ relied) _ kept⟩

/-- A program that relies on nothing performs only actions that it guarantees. -/
theorem Obeys.trace {world : (action : Action) → σ → Reply action × σ} {promise : α → Prop}
    {program : Program Action Reply α} (obeys : program.Obeys guarantee (fun _ _ => True) promise)
    (state : σ) : ∀ performed ∈ program.trace world state, guarantee performed.action :=
  fun performed member => (obeys.trace_of_run (fun _ => True)
    (fun _ _ _ _ => ⟨trivial, trivial⟩) state trivial performed member).1

/-- **A program that keeps its contract preserves what the actions that it guarantees preserve**, if
they also give it the replies that it relies on. -/
theorem Obeys.run {world : (action : Action) → σ → Reply action × σ} (invariant : σ → Prop)
    {promise : α → Prop} {program : Program Action Reply α}
    (obeys : program.Obeys guarantee rely promise)
    (preserved : ∀ action state, guarantee action → invariant state →
      rely action (world action state).1 ∧ invariant (world action state).2)
    (state : σ) (start : invariant state) :
    promise (program.run world state).1 ∧ invariant (program.run world state).2 :=
  obeys.run_of_trace invariant (fun _ _ => True)
    (fun action state allowed _ => preserved action state allowed) state (fun _ _ => trivial) start

/-- **A program comes to the same result in two worlds**, if the actions that it guarantees get the
same replies in both and keep the states related. -/
theorem Obeys.run_eq {τ : Type} {world : (action : Action) → σ → Reply action × σ}
    {world' : (action : Action) → τ → Reply action × τ} (relation : σ → τ → Prop)
    {promise : α → Prop} {program : Program Action Reply α}
    (obeys : program.Obeys guarantee (fun _ _ => True) promise)
    (agree : ∀ action state state', guarantee action → relation state state' →
      (world' action state').1 = (world action state).1 ∧
        relation (world action state).2 (world' action state').2)
    {state : σ} {state' : τ} (start : relation state state') :
    (program.run world' state').1 = (program.run world state).1 := by
  induction program generalizing state state' with
  | done result => rfl
  | act action rest ih =>
    obtain ⟨allowed, rest⟩ := obeys
    obtain ⟨same, related⟩ := agree action state state' allowed start
    rw [run_act, run_act, same]
    exact ih _ (rest _ trivial) related

end Contracts

end Program

end DualToken
