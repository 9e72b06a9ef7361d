import TokioFsm.CancellationScope
import TokioFsm.StateTimer

/-!
# A machine among the tokens

Of all the tokens the loop of a machine sees a single flag: whether its own is
cancelled.  While callers create and cancel tokens, spawn other machines and shut
them down, a machine therefore runs as it would alone, with cancellations from
outside.  A shutdown reaches it exactly when its token is the one that the
shutdown cancels or lies below it.
-/

namespace TokioFsm

open CancellationTree StepRuns

variable {Tree Token Context Payload Failure : Type}

/-- A machine, and the world of tokens it was spawned into. -/
structure PlacedFsm (Tree Token Context Payload Failure : Type) where
  world : World Tree Token
  machine : Config Context Payload Failure

inductive PlacedAction (Token Context Payload Failure : Type)
  | world (action : WorldAction Token)
  | machine (action : Action Context Payload Failure)

abbrev PlacedMoment (Tree Token Context Payload Failure : Type) :=
  PlacedFsm Tree Token Context Payload Failure × PlacedAction Token Context Payload Failure

/-- The action cancels the token of the loop. -/
def Action.Cancels : Action Context Payload Failure → Prop
  | .environment .shutdown | .environment .cancelAncestor => True
  | _ => False

instance (action : Action Context Payload Failure) : Decidable action.Cancels := by
  unfold Action.Cancels
  split <;> infer_instance

/-- Whether the token of a loop is cancelled. -/
def World.flag (tokens : Tokens Tree Token) (world : World Tree Token) (fsm : Nat) : Bool :=
  world.loopTokens[fsm]?.elim false (tokens.isCancelled world.tree)

theorem World.flag_eq {tokens : Tokens Tree Token} {world : World Tree Token} {fsm : Nat}
    {token : Token} (watched : world.loopTokens[fsm]? = some token) :
    world.flag tokens fsm = tokens.isCancelled world.tree token := by
  rw [flag, watched]
  rfl

section Steps

variable [DecidableEq Token] (tokens : Tokens Tree Token) (program : GeneratedFsm)
  (representable : Nat → Bool) (fsm : Nat)

/-- Tokens are cancelled in the world, and the machine sees its flag.  What else
its handles do is left to its own actions. -/
def placedStep (placed : PlacedFsm Tree Token Context Payload Failure) :
    PlacedAction Token Context Payload Failure →
      Option (PlacedFsm Tree Token Context Payload Failure)
  | .world action =>
      (worldStep tokens placed.world action).map fun world =>
        { world, machine := { placed.machine with cancelled := world.flag tokens fsm } }
  | .machine action =>
      if action.Cancels then none
      else
        (step program representable placed.machine action).map fun machine =>
          { placed with machine }

/-- A run of a machine from its spawn on, in a world with a past of its own. -/
structure PlacedExecutes (initial : PlacedFsm Tree Token Context Payload Failure)
    (trace : List (PlacedMoment Tree Token Context Payload Failure))
    (last : PlacedFsm Tree Token Context Payload Failure) : Prop where
  spawned : ∃ past world action tree parent name context clock,
    Run (worldStep tokens) (World.initial tokens) past world ∧ world.machines.length = fsm ∧
      world.Spawns tokens action tree parent name ∧
        initial.world = World.spawnNamedWithToken tokens { world with tree } name parent ∧
          program.spawnNamedWithToken name context (tokens.isCancelled tree parent) clock =
            some initial.machine
  run : Run (placedStep tokens program representable fsm) initial trace last

end Steps

/-- What happens to the machine by itself. -/
def PlacedMoment.ofMachine :
    PlacedMoment Tree Token Context Payload Failure → Option (Moment Context Payload Failure)
  | (placed, .machine action) => some (placed.machine, action)
  | (_, .world _) => none

/-- The machine shows the flag of a token of its own, in a world of some run. -/
structure Placed [DecidableEq Token] (tokens : Tokens Tree Token) (fsm : Nat) (token : Token)
    (placed : PlacedFsm Tree Token Context Payload Failure) : Prop where
  reached : ∃ past, Run (worldStep tokens) (World.initial tokens) past placed.world
  watched : placed.world.loopTokens[fsm]? = some token
  flag_eq : placed.machine.cancelled = tokens.isCancelled placed.world.tree token

section Placing

variable [DecidableEq Token] {tokens : Tokens Tree Token} {program : GeneratedFsm}
  {representable : Nat → Bool} {fsm : Nat} {token : Token}
  {initial placed next last : PlacedFsm Tree Token Context Payload Failure}
  {trace after : List (PlacedMoment Tree Token Context Payload Failure)}

/-- Every spawn function starts the loop with the flag of the token it is
spawned under. -/
theorem PlacedExecutes.exists_placed
    (executes : PlacedExecutes tokens program representable fsm initial trace last) :
    ∃ token, Placed tokens fsm token initial := by
  rcases executes.spawned with ⟨past, world, action, tree, parent, name, context, clock,
    toWorld, rfl, spawns, worldEq, spawned⟩
  rcases (World.linked_of_run toWorld).spawns spawns with ⟨-, known, -⟩
  have grows := tokens.childToken_grows tree parent known
  refine ⟨(tokens.childToken tree parent).2, ?_, ?_, ?_⟩
  · rw [worldEq]
    exact ⟨_, toWorld.snoc spawns.worldStep_eq⟩
  · rw [worldEq, World.loopTokens_spawnNamedWithToken]
    simp [World.loopTokens]
  · unfold GeneratedFsm.spawnNamedWithToken at spawned
    split at spawned
    next =>
      rw [worldEq, ← Option.some.inj spawned]
      exact grows.isCancelled_token.symm
    next => cases spawned

/-- Only a cancellation changes the flag. -/
theorem cancelled_eq_of_step {config config' : Config Context Payload Failure}
    {action : Action Context Payload Failure} (keeps : ¬ action.Cancels)
    (taken : step program representable config action = some config') :
    config'.cancelled = config.cancelled := by
  cases action with
  | loop action => exact (LoopMove.of_loopStep taken).frame.2.2
  | environment action =>
      cases action with
      | shutdown | cancelAncestor => exact absurd trivial keeps
      | advance => cases taken; rfl
      | send | cloneHandle | dropHandle =>
          simp only [step, environmentStep] at taken
          split at taken
          · cases taken; rfl
          · cases taken

/-- A move of the world is to the machine nothing, or a cancellation from
outside. -/
theorem Placed.world_cases {action : WorldAction Token} (isPlaced : Placed tokens fsm token placed)
    (taken : placedStep tokens program representable fsm placed (.world action) = some next) :
    Placed tokens fsm token next ∧
      (next.machine = placed.machine ∨
        step program representable placed.machine (.environment .cancelAncestor) =
          some next.machine) := by
  rcases isPlaced with ⟨⟨past, toWorld⟩, watched, flagEq⟩
  rcases Option.map_eq_some_iff.mp taken with ⟨world, moved, rfl⟩
  have linked := World.linked_of_run toWorld
  rcases linked.later (.of_worldStep moved) with ⟨later, loops⟩
  have stillWatched := World.getElem?_of_prefix loops watched
  have known := linked.loop_known token (List.mem_of_getElem? watched)
  refine ⟨⟨⟨_, toWorld.snoc moved⟩, stillWatched, World.flag_eq stillWatched⟩, ?_⟩
  rw [World.flag_eq stillWatched]
  cases isCancelled : tokens.isCancelled world.tree token with
  | true => exact .inr rfl
  | false =>
      left
      have notBefore : placed.machine.cancelled = false := by
        rw [flagEq]
        by_contra before
        have kept := later.cancelled token known (by simpa using before)
        rw [isCancelled] at kept
        cases kept
      rw [← notBefore]

theorem Placed.snoc {action : PlacedAction Token Context Payload Failure}
    (isPlaced : Placed tokens fsm token placed)
    (taken : placedStep tokens program representable fsm placed action = some next) :
    Placed tokens fsm token next := by
  cases action with
  | world action => exact (isPlaced.world_cases taken).1
  | machine action =>
      simp only [placedStep] at taken
      split at taken
      next => cases taken
      next keeps =>
        rcases Option.map_eq_some_iff.mp taken with ⟨machine, moved, rfl⟩
        exact ⟨isPlaced.reached, isPlaced.watched,
          (cancelled_eq_of_step keeps moved).trans isPlaced.flag_eq⟩

theorem Placed.run (isPlaced : Placed tokens fsm token placed)
    (run : Run (placedStep tokens program representable fsm) placed after last) :
    Placed tokens fsm token last := by
  induction run with
  | refl => exact isPlaced
  | snoc _ taken ih => exact ih.snoc taken

/-- In its world the machine does what it would do alone, if cancelled from
outside now and then. -/
theorem PlacedExecutes.alone
    (executes : PlacedExecutes tokens program representable fsm initial trace last) :
    ∃ moments, Executes program representable initial.machine moments last.machine ∧
      moments.filter (fun moment => ¬ moment.2.Cancels) =
        trace.filterMap PlacedMoment.ofMachine := by
  rcases executes.exists_placed with ⟨token, isPlaced⟩
  rcases executes with
    ⟨⟨past, world, action, tree, parent, name, context, clock, -, -, -, -, spawned⟩, run⟩
  induction run with
  | refl => exact ⟨[], ⟨⟨name, context, _, clock, spawned⟩, .refl⟩, rfl⟩
  | @snoc trace middle last action previous taken ih =>
      rcases ih with ⟨moments, alone, same⟩
      rw [filterMap_snoc, ← same]
      cases action with
      | world action =>
          rcases ((isPlaced.run previous).world_cases taken).2 with unchanged | cancels
          · rw [unchanged]
            exact ⟨moments, alone, by simp [PlacedMoment.ofMachine]⟩
          · refine ⟨_, alone.snoc cancels, ?_⟩
            simp [PlacedMoment.ofMachine, Action.Cancels]
      | machine action =>
          simp only [placedStep] at taken
          split at taken
          next => cases taken
          next keeps =>
            rcases Option.map_eq_some_iff.mp taken with ⟨machine, moved, rfl⟩
            refine ⟨_, alone.snoc moved, ?_⟩
            simp [PlacedMoment.ofMachine, keeps]

/-- A machine among its tokens runs as it would alone, and is cancelled exactly
when its token is.  A shutdown of any machine sets its flag if the token of that
machine is its own or lies above it, and leaves it as it is otherwise. -/
theorem placed_machine_runs
    (executes : PlacedExecutes tokens program representable fsm initial trace last) :
    (∃ moments, Executes program representable initial.machine moments last.machine ∧
      moments.filter (fun moment => ¬ moment.2.Cancels) =
        trace.filterMap PlacedMoment.ofMachine) ∧
      ∃ token, last.world.loopTokens[fsm]? = some token ∧
        last.machine.cancelled = tokens.isCancelled last.world.tree token ∧
          ∀ other clone upper next, last.world.loopTokens[other]? = some upper →
            placedStep tokens program representable fsm last (.world (.shutdown other clone)) =
              some next →
                next.machine = { last.machine with
                  cancelled := last.machine.cancelled ||
                    decide (upper ∈ tokens.chain last.world.tree token) } := by
  refine ⟨executes.alone, ?_⟩
  rcases executes.exists_placed with ⟨token, initialPlaced⟩
  rcases initialPlaced.run executes.run with ⟨⟨past, toWorld⟩, watched, flagEq⟩
  refine ⟨token, watched, flagEq, ?_⟩
  intro other clone upper next upperWatched taken
  rcases Option.map_eq_some_iff.mp taken with ⟨world, moved, rfl⟩
  have linked := World.linked_of_run toWorld
  have known := linked.loop_known token (List.mem_of_getElem? watched)
  have stillWatched :=
    World.getElem?_of_prefix (linked.later (.of_worldStep moved)).2 watched
  rcases linked.shutdown moved with ⟨upper', upperWatched', -, -, cancelling⟩
  rw [upperWatched] at upperWatched'
  obtain rfl := Option.some.inj upperWatched'
  have reaches := cancelling.isCancelled_iff token known
  rw [World.flag_eq stillWatched, flagEq, Bool.eq_iff_iff.mpr (reaches.trans ?_)]
  rw [Bool.or_eq_true, decide_eq_true_eq]

end Placing

/-- The worker on its own, and a machine spawned below it while it starts. -/
def sharedInitial : PlacedFsm (List Node) Nat Nat Nat String where
  world := (World.initial nodeTokens).spawn nodeTokens
  machine := workerInitial

def sharedRun : List (PlacedMoment (List Node) Nat Nat Nat String) ×
    PlacedFsm (List Node) Nat Nat Nat String :=
  (replay (placedStep nodeTokens worker.program (fun _ => true) 0) sharedInitial [
    .machine (.loop .start), .world (.spawnWithToken 1), .machine (.loop .rearm)]).get (by decide)

/-- A shutdown of the machine below it leaves the worker alone. -/
theorem placed_machine_runs_worker :
    ∃ next, placedStep nodeTokens worker.program (fun _ => true) 0 sharedRun.2
        (.world (.shutdown 1 0)) = some next ∧ next.machine.cancelled = false := by
  have replayed : replay (placedStep nodeTokens worker.program (fun _ => true) 0) sharedInitial
      _ = some sharedRun := (Option.some_get _).symm
  have executes : PlacedExecutes nodeTokens worker.program (fun _ => true) 0 sharedInitial
      sharedRun.1 sharedRun.2 :=
    ⟨⟨[], World.initial nodeTokens, .spawn, _, _, none, 0, 0, .refl, rfl, .fresh, rfl, rfl⟩,
      run_of_replay replayed⟩
  rcases (placed_machine_runs executes).2 with ⟨token, watched, -, reaches⟩
  obtain rfl : 1 = token := Option.some.inj watched
  have taken : placedStep nodeTokens worker.program (fun _ => true) 0 sharedRun.2
      (.world (.shutdown 1 0)) = some _ := rfl
  refine ⟨_, taken, ?_⟩
  rw [reaches 1 0 2 _ rfl taken]
  decide

end TokioFsm
