import TokioFsm.Executions
import TokioFsm.Library.CancellationTree

/-!
# The scope of a shutdown

Callers create tokens, spawn machines below them or below the tokens of other
machines' handles, and cancel tokens and shut machines down, in any order.
The loop, the handle and the caller of a machine hold different tokens: the
spawn function makes a child of the caller's token, moves it into the loop and
puts a clone of it into the handle.  A shutdown therefore reaches the machine
and everything spawned below it, and nothing else.
-/

namespace TokioFsm

open CancellationTree StepRuns

/-- The token and the name in a generated handle. -/
structure FsmHandle (Token : Type) where
  token : Token
  name : Option String
deriving DecidableEq

/-- A spawned machine: the token moved into its loop, and the clones of its
handle. -/
structure SpawnedFsm (Token : Type) where
  token : Token
  handles : List (FsmHandle Token)
deriving DecidableEq

/-- All machines, and the tokens that callers hold besides those in handles. -/
structure World (Tree Token : Type) where
  tree : Tree
  held : List Token := []
  machines : List (SpawnedFsm Token) := []
deriving DecidableEq

inductive WorldAction (Token : Type)
  | newToken
  | childToken (token : Token)
  | cloneToken (token : Token)
  | spawn
  | spawnNamed (name : String)
  | spawnWithToken (token : Token)
  | spawnNamedWithToken (name : Option String) (token : Token)
  | cloneHandle (fsm clone : Nat)
  | shutdown (fsm clone : Nat)
  | cancel (token : Token)
deriving DecidableEq

variable {Tree Token : Type}

/-- A derived `Clone` clones the fields. -/
def FsmHandle.clone (tokens : Tokens Tree Token) (handle : FsmHandle Token) :
    FsmHandle Token where
  token := tokens.clone handle.token
  name := handle.name

def FsmHandle.shutdown (tokens : Tokens Tree Token) (handle : FsmHandle Token)
    (tree : Tree) : Tree :=
  tokens.cancel tree handle.token

namespace World

/-- The tokens watched by the loops, machine by machine. -/
def loopTokens (world : World Tree Token) : List Token :=
  world.machines.map SpawnedFsm.token

/-- The tokens that `handle.token()` gives access to. -/
def handleTokens (world : World Tree Token) : List Token :=
  world.machines.flatMap fun machine => machine.handles.map FsmHandle.token

/-- Somebody outside the loops has the token. -/
def InScope (world : World Tree Token) (token : Token) : Prop :=
  token ∈ world.held ∨ token ∈ world.handleTokens

instance [DecidableEq Token] (world : World Tree Token) (token : Token) :
    Decidable (world.InScope token) := by
  unfold InScope
  infer_instance

def handle? (world : World Tree Token) (fsm clone : Nat) : Option (FsmHandle Token) :=
  world.machines[fsm]?.bind fun machine => machine.handles[clone]?

variable (tokens : Tokens Tree Token)

def spawnNamedWithToken (world : World Tree Token) (name : Option String)
    (token : Token) : World Tree Token :=
  let (tree, childToken) := tokens.childToken world.tree token
  let handleToken := tokens.clone childToken
  { world with
    tree
    machines := world.machines ++
      [{ token := childToken, handles := [{ token := handleToken, name }] }] }

def spawn (world : World Tree Token) : World Tree Token :=
  let (tree, token) := tokens.new world.tree
  spawnNamedWithToken tokens { world with tree } none token

def spawnNamed (world : World Tree Token) (name : String) : World Tree Token :=
  let (tree, token) := tokens.new world.tree
  spawnNamedWithToken tokens { world with tree } (some name) token

def spawnWithToken (world : World Tree Token) (token : Token) : World Tree Token :=
  spawnNamedWithToken tokens world none token

def cloneHandle (world : World Tree Token) (fsm : Nat) (handle : FsmHandle Token) :
    World Tree Token :=
  { world with
    machines := world.machines.modify fsm fun machine =>
      { machine with handles := machine.handles ++ [handle.clone tokens] } }

end World

def worldStep [DecidableEq Token] (tokens : Tokens Tree Token) (world : World Tree Token) :
    WorldAction Token → Option (World Tree Token)
  | .newToken =>
      let (tree, token) := tokens.new world.tree
      some { world with tree, held := world.held ++ [token] }
  | .childToken token =>
      if world.InScope token then
        let (tree, childToken) := tokens.childToken world.tree token
        some { world with tree, held := world.held ++ [childToken] }
      else none
  | .cloneToken token =>
      if world.InScope token then
        some { world with held := world.held ++ [tokens.clone token] }
      else none
  | .spawn => some (world.spawn tokens)
  | .spawnNamed name => some (world.spawnNamed tokens name)
  | .spawnWithToken token =>
      if world.InScope token then some (world.spawnWithToken tokens token) else none
  | .spawnNamedWithToken name token =>
      if world.InScope token then some (world.spawnNamedWithToken tokens name token) else none
  | .cloneHandle fsm clone =>
      (world.handle? fsm clone).map fun handle => world.cloneHandle tokens fsm handle
  | .shutdown fsm clone =>
      (world.handle? fsm clone).map fun handle =>
        { world with tree := handle.shutdown tokens world.tree }
  | .cancel token =>
      if world.InScope token then some { world with tree := tokens.cancel world.tree token }
      else none

/-! ## What one step can do -/

/-- A call of a spawn function that makes the token of the loop a child of
`parent` in the forest `tree`. -/
inductive World.Spawns (tokens : Tokens Tree Token) (world : World Tree Token) :
    WorldAction Token → (tree : Tree) → (parent : Token) → Option String → Prop
  | fresh : Spawns tokens world .spawn
      (tokens.new world.tree).1 (tokens.new world.tree).2 none
  | freshNamed {name : String} : Spawns tokens world (.spawnNamed name)
      (tokens.new world.tree).1 (tokens.new world.tree).2 (some name)
  | linked {token : Token} : world.InScope token →
      Spawns tokens world (.spawnWithToken token) world.tree token none
  | linkedNamed {name : Option String} {token : Token} : world.InScope token →
      Spawns tokens world (.spawnNamedWithToken name token) world.tree token name

/-- The token a call cancels. -/
def World.cancels (world : World Tree Token) : WorldAction Token → Option Token
  | .shutdown fsm clone => (world.handle? fsm clone).map FsmHandle.token
  | .cancel token => some token
  | _ => none

/-- The steps by their effect on the forest and on who holds what. -/
inductive WorldMove (tokens : Tokens Tree Token) (world : World Tree Token) :
    WorldAction Token → World Tree Token → Prop
  | newToken : WorldMove tokens world .newToken
      { world with
        tree := (tokens.new world.tree).1
        held := world.held ++ [(tokens.new world.tree).2] }
  | childToken {token : Token} : world.InScope token →
      WorldMove tokens world (.childToken token)
        { world with
          tree := (tokens.childToken world.tree token).1
          held := world.held ++ [(tokens.childToken world.tree token).2] }
  | cloneToken {token : Token} : world.InScope token →
      WorldMove tokens world (.cloneToken token) { world with held := world.held ++ [token] }
  | spawned {action : WorldAction Token} {tree : Tree} {parent : Token}
      {name : Option String} : world.Spawns tokens action tree parent name →
        WorldMove tokens world action
          (World.spawnNamedWithToken tokens { world with tree } name parent)
  | handleCloned {fsm clone : Nat} {handle : FsmHandle Token} :
      world.handle? fsm clone = some handle →
        WorldMove tokens world (.cloneHandle fsm clone) (world.cloneHandle tokens fsm handle)
  | cancelled {action : WorldAction Token} {token : Token} :
      world.InScope token → world.cancels action = some token →
        WorldMove tokens world action
          { world with tree := tokens.cancel world.tree token }

section Moves

variable {tokens : Tokens Tree Token} {world next : World Tree Token}
  {action : WorldAction Token}

theorem World.handle?_eq_some {fsm clone : Nat} {handle : FsmHandle Token}
    (found : world.handle? fsm clone = some handle) :
    ∃ machine, world.machines[fsm]? = some machine ∧ handle ∈ machine.handles := by
  rcases Option.bind_eq_some_iff.mp found with ⟨machine, machineEq, handleEq⟩
  exact ⟨machine, machineEq, List.mem_of_getElem? handleEq⟩

theorem World.inScope_of_handle {fsm clone : Nat} {handle : FsmHandle Token}
    (found : world.handle? fsm clone = some handle) : world.InScope handle.token := by
  rcases World.handle?_eq_some found with ⟨machine, machineEq, handleMem⟩
  right
  apply List.mem_flatMap.mpr
  exact ⟨machine, List.mem_of_getElem? machineEq, List.mem_map_of_mem handleMem⟩

theorem World.Spawns.cancels_eq {tree : Tree} {parent : Token} {name : Option String}
    (spawns : world.Spawns tokens action tree parent name) : world.cancels action = none := by
  cases spawns with
  | fresh | freshNamed | linked | linkedNamed => rfl

theorem WorldMove.of_worldStep [DecidableEq Token]
    (taken : worldStep tokens world action = some next) :
    WorldMove tokens world action next := by
  cases action with
  | newToken =>
      cases taken
      exact .newToken
  | childToken token =>
      simp only [worldStep] at taken
      split at taken
      next inScope =>
        cases taken
        exact .childToken inScope
      next => cases taken
  | cloneToken token =>
      simp only [worldStep, tokens.clone_eq] at taken
      split at taken
      next inScope =>
        cases taken
        exact .cloneToken inScope
      next => cases taken
  | spawn =>
      cases taken
      exact .spawned .fresh
  | spawnNamed name =>
      cases taken
      exact .spawned .freshNamed
  | spawnWithToken token =>
      simp only [worldStep] at taken
      split at taken
      next inScope =>
        cases taken
        exact .spawned (.linked inScope)
      next => cases taken
  | spawnNamedWithToken name token =>
      simp only [worldStep] at taken
      split at taken
      next inScope =>
        cases taken
        exact .spawned (.linkedNamed inScope)
      next => cases taken
  | cloneHandle fsm clone =>
      rcases Option.map_eq_some_iff.mp taken with ⟨handle, found, rfl⟩
      exact .handleCloned found
  | shutdown fsm clone =>
      rcases Option.map_eq_some_iff.mp taken with ⟨handle, found, rfl⟩
      exact .cancelled (World.inScope_of_handle found) (by rw [World.cancels, found]; rfl)
  | cancel token =>
      simp only [worldStep] at taken
      split at taken
      next inScope =>
        cases taken
        exact .cancelled inScope rfl
      next => cases taken

/-- A new loop token goes to the end of the list. -/
theorem World.loopTokens_spawnNamedWithToken (name : Option String) (token : Token) :
    (World.spawnNamedWithToken tokens world name token).loopTokens =
      world.loopTokens ++ [(tokens.childToken world.tree token).2] := by
  simp [loopTokens, spawnNamedWithToken]

@[simp]
theorem World.loopTokens_cloneHandle (fsm : Nat) (handle : FsmHandle Token) :
    (world.cloneHandle tokens fsm handle).loopTokens = world.loopTokens := by
  unfold loopTokens cloneHandle
  apply List.ext_getElem?
  intro index
  rw [List.getElem?_map, List.getElem?_map, List.getElem?_modify]
  cases world.machines[index]? with
  | none => rfl
  | some machine =>
      by_cases atFsm : fsm = index
      · simp [atFsm]
      · simp [atFsm]

/-- Cloning a handle adds the clone to its own machine. -/
theorem World.mem_cloneHandle {fsm : Nat} {handle : FsmHandle Token}
    {machine : SpawnedFsm Token}
    (machineMem : machine ∈ (world.cloneHandle tokens fsm handle).machines) :
    ∃ before ∈ world.machines, machine.token = before.token ∧
      ∀ other ∈ machine.handles, other ∈ before.handles ∨
        world.machines[fsm]? = some before ∧ other = handle.clone tokens := by
  rcases List.mem_iff_getElem?.mp machineMem with ⟨index, machineEq⟩
  simp only [cloneHandle, List.getElem?_modify] at machineEq
  cases beforeEq : world.machines[index]? with
  | none => simp [beforeEq] at machineEq
  | some before =>
      have beforeMem := List.mem_of_getElem? beforeEq
      by_cases atFsm : fsm = index
      · subst index
        simp only [beforeEq, if_pos, Option.map_eq_map, Option.map_some,
          Option.some.injEq] at machineEq
        subst machine
        exact ⟨before, beforeMem, rfl, by simp [beforeEq]⟩
      · simp only [beforeEq, atFsm, if_false, Option.map_eq_map, Option.map_some,
          Option.some.injEq] at machineEq
        subst machine
        exact ⟨before, beforeMem, rfl, fun _ otherMem => Or.inl otherMem⟩

end Moves

/-! ## What holds in every world -/

/-- Everybody holds tokens in use, each handle holds the token of its loop, no
two loops share one, and the forest is explained by the calls made. -/
structure World.Linked (tokens : Tokens Tree Token) (world : World Tree Token)
    (cancels : List Token) : Prop where
  explained : tokens.Explained world.tree cancels
  held_known : ∀ token ∈ world.held, tokens.Known world.tree token
  loop_known : ∀ token ∈ world.loopTokens, tokens.Known world.tree token
  handle_token : ∀ machine ∈ world.machines, ∀ handle ∈ machine.handles,
    handle.token = machine.token
  nodup : world.loopTokens.Nodup

section Invariant

variable {tokens : Tokens Tree Token} {world next : World Tree Token}
  {action : WorldAction Token} {cancels : List Token}

/-- A clone of a handle holds the token that the loop watches. -/
theorem World.Linked.handle?_token (linked : world.Linked tokens cancels) {fsm clone : Nat}
    {handle : FsmHandle Token} (found : world.handle? fsm clone = some handle) :
    world.loopTokens[fsm]? = some handle.token := by
  rcases World.handle?_eq_some found with ⟨machine, machineEq, handleMem⟩
  rw [World.loopTokens, List.getElem?_map, machineEq,
    linked.handle_token machine (List.mem_of_getElem? machineEq) handle handleMem]
  rfl

/-- Two loops watch different tokens. -/
theorem World.Linked.watched_ne (linked : world.Linked tokens cancels) {fsm other : Nat}
    {token otherToken : Token} (differ : other ≠ fsm)
    (watched : world.loopTokens[fsm]? = some token)
    (otherWatched : world.loopTokens[other]? = some otherToken) : token ≠ otherToken := by
  rintro rfl
  have inRange := (List.getElem?_eq_some_iff.mp otherWatched).1
  apply differ
  exact (List.getElem?_inj inRange linked.nodup).mp (otherWatched.trans watched.symm)

theorem World.Linked.scope_cases (linked : world.Linked tokens cancels) {token : Token}
    (inScope : world.InScope token) : token ∈ world.held ∨ token ∈ world.loopTokens := by
  rcases inScope with isHeld | ofHandle
  · exact Or.inl isHeld
  · rcases List.mem_flatMap.mp ofHandle with ⟨machine, machineMem, tokenMem⟩
    rcases List.mem_map.mp tokenMem with ⟨handle, handleMem, rfl⟩
    rw [linked.handle_token machine machineMem handle handleMem]
    exact Or.inr (List.mem_map_of_mem machineMem)

theorem World.Linked.inScope_known (linked : world.Linked tokens cancels) {token : Token}
    (inScope : world.InScope token) : tokens.Known world.tree token := by
  rcases linked.scope_cases inScope with isHeld | ofLoop
  · exact linked.held_known token isHeld
  · exact linked.loop_known token ofLoop

/-- The token below which a machine is spawned is in use, in a forest that is
explained by the same calls. -/
theorem World.Linked.spawns (linked : world.Linked tokens cancels) {tree : Tree}
    {parent : Token} {name : Option String} (spawns : world.Spawns tokens action tree parent name) :
    tokens.Explained tree cancels ∧ tokens.Known tree parent ∧ tokens.Later world.tree tree := by
  have grows := tokens.new_grows world.tree
  cases spawns with
  | fresh | freshNamed =>
      exact ⟨tokens.explained_new linked.explained, grows.known, grows.later⟩
  | linked inScope | linkedNamed inScope =>
      exact ⟨linked.explained, linked.inScope_known inScope, .refl _ _⟩

/-- A token made by the step is nobody's yet. -/
theorem World.Linked.not_mem_loopTokens (linked : world.Linked tokens cancels) {tree after : Tree}
    {token : Token} {above : List Token} {cancelled : Bool}
    (later : tokens.Later world.tree tree)
    (grows : tokens.Grows tree token above cancelled after) : token ∉ world.loopTokens :=
  fun tokenMem => grows.fresh (later.known token (linked.loop_known token tokenMem))

/-- A step that leaves the machines as they are. -/
theorem World.Linked.unspawned (linked : world.Linked tokens cancels)
    {cancels' : List Token} (later : tokens.Later world.tree next.tree)
    (explained : tokens.Explained next.tree cancels')
    (held : ∀ token ∈ next.held, token ∈ world.held ∨ tokens.Known next.tree token)
    (machines : next.machines = world.machines) : next.Linked tokens cancels' where
  explained := explained
  held_known token tokenMem := by
    rcases held token tokenMem with before | known
    · exact later.known token (linked.held_known token before)
    · exact known
  loop_known token tokenMem := by
    rw [World.loopTokens, machines] at tokenMem
    exact later.known token (linked.loop_known token tokenMem)
  handle_token := machines ▸ linked.handle_token
  nodup := by
    rw [World.loopTokens, machines]
    exact linked.nodup

/-- Somebody outside the loops is given a token in use. -/
theorem World.Linked.received (linked : world.Linked tokens cancels) {tree : Tree}
    {token : Token} (later : tokens.Later world.tree tree)
    (explained : tokens.Explained tree cancels) (known : tokens.Known tree token) :
    World.Linked tokens { world with tree, held := world.held ++ [token] } cancels := by
  apply linked.unspawned later explained
  · intro other otherMem
    rcases List.mem_append.mp otherMem with before | new
    · exact Or.inl before
    · rw [List.mem_singleton.mp new]
      exact Or.inr known
  · rfl

theorem World.Linked.spawned (linked : world.Linked tokens cancels) {tree : Tree}
    {parent : Token} {name : Option String} (later : tokens.Later world.tree tree)
    (explained : tokens.Explained tree cancels) (known : tokens.Known tree parent) :
    (World.spawnNamedWithToken tokens { world with tree } name parent).Linked tokens cancels := by
  have grows := tokens.childToken_grows tree parent known
  have afterwards := later.trans grows.later
  constructor
  · exact tokens.explained_childToken explained known
  · intro token tokenMem
    exact afterwards.known token (linked.held_known token tokenMem)
  · intro token tokenMem
    rw [World.loopTokens_spawnNamedWithToken] at tokenMem
    rcases List.mem_append.mp tokenMem with before | new
    · exact afterwards.known token (linked.loop_known token before)
    · rw [List.mem_singleton.mp new]
      exact grows.known
  · intro machine machineMem handle handleMem
    rcases List.mem_append.mp machineMem with before | new
    · exact linked.handle_token machine before handle handleMem
    · rw [List.mem_singleton.mp new] at handleMem ⊢
      rw [List.mem_singleton.mp handleMem, tokens.clone_eq]
  · rw [World.loopTokens_spawnNamedWithToken, ← List.concat_eq_append]
    apply List.Nodup.concat
    · exact linked.not_mem_loopTokens later grows
    · exact linked.nodup

/-- Every step keeps the world linked. -/
theorem World.Linked.move (linked : world.Linked tokens cancels)
    (move : WorldMove tokens world action next) :
    next.Linked tokens (cancels ++ (world.cancels action).toList) := by
  cases move with
  | newToken =>
      have grows := tokens.new_grows world.tree
      simpa [World.cancels] using
        linked.received grows.later (tokens.explained_new linked.explained) grows.known
  | @childToken parent inScope =>
      have known := linked.inScope_known inScope
      have grows := tokens.childToken_grows world.tree parent known
      simpa [World.cancels] using linked.received grows.later
        (tokens.explained_childToken linked.explained known) grows.known
  | cloneToken inScope =>
      simpa [World.cancels] using
        linked.received (.refl _ _) linked.explained (linked.inScope_known inScope)
  | spawned spawns =>
      have noCancel := spawns.cancels_eq
      rcases linked.spawns spawns with ⟨explained, known, later⟩
      simpa [noCancel] using linked.spawned later explained known
  | @handleCloned fsm clone handle found =>
      constructor
      · simpa [World.cancels, World.cloneHandle] using linked.explained
      · exact linked.held_known
      · rw [World.loopTokens_cloneHandle]
        exact linked.loop_known
      · intro machine machineMem other otherMem
        rcases World.mem_cloneHandle machineMem with ⟨before, beforeMem, tokenEq, handlesFrom⟩
        rw [tokenEq]
        rcases handlesFrom other otherMem with otherMem | ⟨beforeEq, rfl⟩
        · exact linked.handle_token before beforeMem other otherMem
        · have watched := linked.handle?_token found
          rw [World.loopTokens, List.getElem?_map, beforeEq] at watched
          rw [FsmHandle.clone, tokens.clone_eq]
          exact (Option.some.inj watched).symm
      · rw [World.loopTokens_cloneHandle]
        exact linked.nodup
  | @cancelled _ token inScope cancelsEq =>
      have known := linked.inScope_known inScope
      have cancelling := tokens.cancel_cancels world.tree token known
      apply linked.unspawned cancelling.later
      · rw [cancelsEq]
        exact linked.explained.cancel known cancelling
      · exact fun token tokenMem => Or.inl tokenMem
      · rfl

/-- Every step leaves tokens where they are and machines in their order. -/
theorem World.Linked.later (linked : world.Linked tokens cancels)
    (move : WorldMove tokens world action next) :
    tokens.Later world.tree next.tree ∧ world.loopTokens <+: next.loopTokens := by
  cases move with
  | newToken => exact ⟨(tokens.new_grows world.tree).later, List.prefix_rfl⟩
  | @childToken parent inScope =>
      have known := linked.inScope_known inScope
      exact ⟨(tokens.childToken_grows world.tree parent known).later, List.prefix_rfl⟩
  | cloneToken => exact ⟨.refl _ _, List.prefix_rfl⟩
  | @spawned _ tree parent name spawns =>
      rcases linked.spawns spawns with ⟨-, known, later⟩
      rw [World.loopTokens_spawnNamedWithToken]
      exact ⟨later.trans (tokens.childToken_grows tree parent known).later,
        List.prefix_append _ _⟩
  | handleCloned =>
      rw [World.loopTokens_cloneHandle]
      exact ⟨.refl _ _, List.prefix_rfl⟩
  | @cancelled _ token inScope =>
      have known := linked.inScope_known inScope
      exact ⟨(tokens.cancel_cancels world.tree token known).later, List.prefix_rfl⟩

/-- The root made for a machine spawned without a token stays out of reach. -/
def World.Hidden (tokens : Tokens Tree Token) (world : World Tree Token) (root : Token) : Prop :=
  tokens.Known world.tree root ∧ root ∉ world.held ∧ root ∉ world.loopTokens

theorem World.Linked.hidden_move (linked : world.Linked tokens cancels) {root : Token}
    (hidden : world.Hidden tokens root) (move : WorldMove tokens world action next) :
    next.Hidden tokens root ∧ world.cancels action ≠ some root := by
  rcases hidden with ⟨known, notHeld, notLoop⟩
  have outOfScope : ¬ world.InScope root := fun inScope =>
    (linked.scope_cases inScope).elim notHeld notLoop
  have stays := (linked.later move).1.known root known
  have received {token : Token} (differs : root ≠ token) : root ∉ world.held ++ [token] := by
    simp [notHeld, differs]
  cases move with
  | newToken =>
      have fresh := (tokens.new_grows world.tree).fresh
      have differs : root ≠ (tokens.new world.tree).2 := fun same => fresh (same ▸ known)
      exact ⟨⟨stays, received differs, notLoop⟩, by simp [World.cancels]⟩
  | @childToken parent inScope =>
      have parentKnown := linked.inScope_known inScope
      have fresh := (tokens.childToken_grows world.tree parent parentKnown).fresh
      have differs : root ≠ (tokens.childToken world.tree parent).2 :=
        fun same => fresh (same ▸ known)
      exact ⟨⟨stays, received differs, notLoop⟩, by simp [World.cancels]⟩
  | @cloneToken token inScope =>
      have differs : root ≠ token := fun same => outOfScope (same ▸ inScope)
      exact ⟨⟨stays, received differs, notLoop⟩, by simp [World.cancels]⟩
  | @spawned _ tree parent name spawns =>
      have noCancel := spawns.cancels_eq
      rcases linked.spawns spawns with ⟨-, parentKnown, later⟩
      have fresh := (tokens.childToken_grows tree parent parentKnown).fresh
      refine ⟨⟨stays, notHeld, ?_⟩, by simp [noCancel]⟩
      rw [World.loopTokens_spawnNamedWithToken, List.mem_append, List.mem_singleton]
      rintro (isLoop | rfl)
      · exact notLoop isLoop
      · exact fresh (later.known _ known)
  | handleCloned =>
      refine ⟨⟨stays, notHeld, ?_⟩, by simp [World.cancels]⟩
      rw [World.loopTokens_cloneHandle]
      exact notLoop
  | cancelled inScope cancelsEq =>
      refine ⟨⟨stays, notHeld, notLoop⟩, ?_⟩
      rw [cancelsEq]
      rintro ⟨rfl⟩
      exact outOfScope inScope

end Invariant

/-! ## Runs -/

/-- A world with the call made in it. -/
abbrev WorldMoment (Tree Token : Type) :=
  World Tree Token × WorldAction Token

/-- The tokens cancelled so far, directly or by a shutdown. -/
def cancellations (trace : List (WorldMoment Tree Token)) : List Token :=
  trace.filterMap fun moment => moment.1.cancels moment.2

/-- Nothing has been created yet. -/
def World.initial (tokens : Tokens Tree Token) : World Tree Token where
  tree := tokens.empty

theorem World.linked_initial (tokens : Tokens Tree Token) :
    (World.initial tokens).Linked tokens [] where
  explained := tokens.explained_empty
  held_known _ tokenMem := absurd tokenMem List.not_mem_nil
  loop_known _ tokenMem := absurd tokenMem List.not_mem_nil
  handle_token _ machineMem := absurd machineMem List.not_mem_nil
  nodup := List.nodup_nil

/-- A machine keeps its number and its token. -/
theorem World.getElem?_of_prefix {first last : World Tree Token} {fsm : Nat} {token : Token}
    (loops : first.loopTokens <+: last.loopTokens)
    (watched : first.loopTokens[fsm]? = some token) : last.loopTokens[fsm]? = some token := by
  rcases List.getElem?_eq_some_iff.mp watched with ⟨inRange, rfl⟩
  exact List.prefix_iff_getElem?.mp loops fsm inRange

section Running

variable [DecidableEq Token] {tokens : Tokens Tree Token}
  {world first last : World Tree Token} {action : WorldAction Token} {cancels : List Token}
  {trace : List (WorldMoment Tree Token)}

theorem World.Linked.run (linked : first.Linked tokens cancels)
    (run : Run (worldStep tokens) first trace last) :
    last.Linked tokens (cancels ++ cancellations trace) := by
  induction run with
  | refl => simpa [cancellations] using linked
  | @snoc trace middle last action previous taken ih =>
      rw [cancellations, filterMap_snoc, ← List.append_assoc]
      exact ih.move (.of_worldStep taken)

theorem World.linked_of_run (run : Run (worldStep tokens) (World.initial tokens) trace last) :
    last.Linked tokens (cancellations trace) :=
  (World.linked_initial tokens).run run

theorem World.Linked.run_later (linked : first.Linked tokens cancels)
    (run : Run (worldStep tokens) first trace last) :
    tokens.Later first.tree last.tree ∧ first.loopTokens <+: last.loopTokens := by
  induction run with
  | refl => exact ⟨.refl _ _, List.prefix_rfl⟩
  | snoc previous taken ih =>
      have step := (linked.run previous).later (.of_worldStep taken)
      exact ⟨ih.1.trans step.1, ih.2.trans step.2⟩

theorem World.Linked.run_hidden (linked : first.Linked tokens cancels) {root : Token}
    (hidden : first.Hidden tokens root) (run : Run (worldStep tokens) first trace last) :
    last.Hidden tokens root ∧ root ∉ cancellations trace := by
  induction run with
  | refl => exact ⟨hidden, by simp [cancellations]⟩
  | @snoc trace middle last action previous taken ih =>
      have step := (linked.run previous).hidden_move ih.1 (.of_worldStep taken)
      refine ⟨step.1, ?_⟩
      rw [cancellations, filterMap_snoc, List.mem_append, Option.mem_toList]
      exact not_or.mpr ⟨ih.2, step.2⟩

theorem World.Spawns.worldStep_eq {tree : Tree} {parent : Token} {name : Option String}
    (spawns : world.Spawns tokens action tree parent name) :
    worldStep tokens world action =
      some (World.spawnNamedWithToken tokens { world with tree } name parent) := by
  cases spawns with
  | fresh => rfl
  | freshNamed => rfl
  | linked inScope => simp only [worldStep, inScope, if_true, World.spawnWithToken]
  | linkedNamed inScope => simp only [worldStep, inScope, if_true]

/-- A machine once spawned keeps its token, directly below the one it was
spawned under. -/
theorem World.chain_of_spawns
    (run : Run (worldStep tokens) (World.initial tokens) trace last)
    (momentMem : (world, action) ∈ trace) {tree : Tree} {parent : Token} {name : Option String}
    (spawns : world.Spawns tokens action tree parent name) {token : Token}
    (watched : last.loopTokens[world.machines.length]? = some token) :
    tokens.chain last.tree token = token :: tokens.chain tree parent ∧
      token ∉ tokens.chain tree parent ∧ tokens.Known tree parent ∧
        tokens.Later tree last.tree := by
  rcases List.append_of_mem momentMem with ⟨before, after, cut⟩
  rcases run.moment cut with ⟨toWorld, next, taken, fromNext⟩
  have linked := World.linked_of_run toWorld
  rcases linked.spawns spawns with ⟨explained, known, -⟩
  have grows := tokens.childToken_grows tree parent known
  have nextLinked := linked.move (.of_worldStep taken)
  rw [spawns.worldStep_eq] at taken
  obtain rfl := Option.some.inj taken
  rcases nextLinked.run_later fromNext with ⟨later, loops⟩
  obtain rfl : (tokens.childToken tree parent).2 = token := by
    apply Option.some.inj
    rw [← watched]
    symm
    apply World.getElem?_of_prefix loops
    rw [World.loopTokens_spawnNamedWithToken]
    simp [World.loopTokens]
  refine ⟨?_, ?_, known, grows.later.trans later⟩
  · exact (later.chain_eq _ grows.known).trans grows.chain_token
  · exact fun below => grows.fresh (explained.chain_known parent known _ below)

/-- Shutting a machine down cancels the token its loop watches. -/
theorem World.Linked.shutdown (linked : world.Linked tokens cancels) {fsm clone : Nat}
    {next : World Tree Token} (taken : worldStep tokens world (.shutdown fsm clone) = some next) :
    ∃ token, world.loopTokens[fsm]? = some token ∧ tokens.Known world.tree token ∧
      world.cancels (.shutdown fsm clone) = some token ∧
        tokens.Cancels world.tree token next.tree := by
  rcases Option.map_eq_some_iff.mp taken with ⟨handle, found, rfl⟩
  have known := linked.inScope_known (World.inScope_of_handle found)
  exact ⟨handle.token, linked.handle?_token found, known, by rw [World.cancels, found]; rfl,
    tokens.cancel_cancels world.tree handle.token known⟩

/-- A shutdown spares every token that is not below the one it cancels. -/
theorem World.Linked.shutdown_spares (linked : world.Linked tokens cancels) {fsm clone : Nat}
    {next : World Tree Token} {other : Token}
    (taken : worldStep tokens world (.shutdown fsm clone) = some next)
    (otherKnown : tokens.Known world.tree other)
    (unlinked : ∀ token, world.loopTokens[fsm]? = some token →
      token ∉ tokens.chain world.tree other) :
    tokens.isCancelled next.tree other = tokens.isCancelled world.tree other := by
  rcases linked.shutdown taken with ⟨token, watched, -, -, cancelling⟩
  exact cancelling.isCancelled_eq otherKnown (unlinked token watched)

end Running

/-! ## What a shutdown reaches -/

/-- The machine was spawned with the caller's token. -/
def SpawnedUnder (trace : List (WorldMoment Tree Token)) (fsm : Nat) (caller : Token) : Prop :=
  ∃ world action, (world, action) ∈ trace ∧ world.machines.length = fsm ∧
    (action = .spawnWithToken caller ∨ ∃ name, action = .spawnNamedWithToken name caller)

/-- The machine was spawned with a fresh token. -/
def SpawnedAlone (trace : List (WorldMoment Tree Token)) (fsm : Nat) : Prop :=
  ∃ world action, (world, action) ∈ trace ∧ world.machines.length = fsm ∧
    (action = .spawn ∨ ∃ name, action = .spawnNamed name)

/-- The token of a loop is cancelled exactly when a clone of its handle was
shut down or a token from it up to its root was cancelled; above it lie the
tokens of its caller, or a root that nobody cancels.  A further shutdown spares
the caller's token, the machines beside it, those spawned alone and every token
without a link to it, and cancels everything below. -/
structure ShutdownScoped [DecidableEq Token] (tokens : Tokens Tree Token)
    (trace : List (WorldMoment Tree Token)) (last : World Tree Token) : Prop where
  isCancelled_iff : ∀ fsm token, last.loopTokens[fsm]? = some token →
    (tokens.isCancelled last.tree token = true ↔
      (∃ world clone, (world, .shutdown fsm clone) ∈ trace) ∨
        ∃ upper ∈ tokens.chain last.tree token, upper ∈ cancellations trace)
  chain_under : ∀ fsm token caller, last.loopTokens[fsm]? = some token →
    SpawnedUnder trace fsm caller →
      tokens.chain last.tree token = token :: tokens.chain last.tree caller
  chain_alone : ∀ fsm token, last.loopTokens[fsm]? = some token → SpawnedAlone trace fsm →
    ∃ root, tokens.chain last.tree token = [token, root] ∧ root ∉ cancellations trace
  spares_caller : ∀ fsm clone next caller,
    worldStep tokens last (.shutdown fsm clone) = some next → SpawnedUnder trace fsm caller →
      tokens.isCancelled next.tree caller = tokens.isCancelled last.tree caller
  spares_sibling : ∀ fsm clone next caller other token,
    worldStep tokens last (.shutdown fsm clone) = some next → SpawnedUnder trace fsm caller →
      SpawnedUnder trace other caller → other ≠ fsm → last.loopTokens[other]? = some token →
        tokens.isCancelled next.tree token = tokens.isCancelled last.tree token
  spares_alone : ∀ fsm clone next other token,
    worldStep tokens last (.shutdown fsm clone) = some next → SpawnedAlone trace other →
      other ≠ fsm → last.loopTokens[other]? = some token →
        tokens.isCancelled next.tree token = tokens.isCancelled last.tree token
  spares_unlinked : ∀ fsm clone next token other,
    worldStep tokens last (.shutdown fsm clone) = some next →
      last.loopTokens[fsm]? = some token → tokens.Known last.tree other →
        token ∉ tokens.chain last.tree other →
          tokens.isCancelled next.tree other = tokens.isCancelled last.tree other
  reaches_below : ∀ fsm clone next token other,
    worldStep tokens last (.shutdown fsm clone) = some next →
      last.loopTokens[fsm]? = some token → tokens.Known last.tree other →
        token ∈ tokens.chain last.tree other → tokens.isCancelled next.tree other = true

theorem SpawnedAlone.exists_spawns (tokens : Tokens Tree Token)
    {trace : List (WorldMoment Tree Token)} {fsm : Nat} (alone : SpawnedAlone trace fsm) :
    ∃ world action name, (world, action) ∈ trace ∧ world.machines.length = fsm ∧
      world.Spawns tokens action (tokens.new world.tree).1 (tokens.new world.tree).2 name ∧
        world.cancels action = none := by
  rcases alone with ⟨world, action, momentMem, number, rfl | ⟨name, rfl⟩⟩
  · exact ⟨world, _, _, momentMem, number, .fresh, rfl⟩
  · exact ⟨world, _, _, momentMem, number, .freshNamed, rfl⟩

section Scope

variable [DecidableEq Token] {tokens : Tokens Tree Token} {last : World Tree Token}
  {trace : List (WorldMoment Tree Token)} {fsm : Nat} {token : Token}

theorem SpawnedUnder.exists_spawns (run : Run (worldStep tokens) (World.initial tokens) trace last)
    {caller : Token} (under : SpawnedUnder trace fsm caller) :
    ∃ world action name, (world, action) ∈ trace ∧ world.machines.length = fsm ∧
      world.Spawns tokens action world.tree caller name := by
  rcases under with ⟨world, action, momentMem, number, isSpawn⟩
  rcases List.append_of_mem momentMem with ⟨before, after, cut⟩
  rcases run.moment cut with ⟨-, next, taken, -⟩
  rcases isSpawn with rfl | ⟨name, rfl⟩
  · cases WorldMove.of_worldStep taken with
    | spawned spawns =>
        cases spawns with
        | linked inScope => exact ⟨world, _, _, momentMem, number, .linked inScope⟩
    | cancelled _ noCancel => cases noCancel
  · cases WorldMove.of_worldStep taken with
    | spawned spawns =>
        cases spawns with
        | linkedNamed inScope => exact ⟨world, _, _, momentMem, number, .linkedNamed inScope⟩
    | cancelled _ noCancel => cases noCancel

/-- The token of a loop lies directly below its caller's. -/
theorem SpawnedUnder.chain_eq (run : Run (worldStep tokens) (World.initial tokens) trace last)
    {caller : Token} (under : SpawnedUnder trace fsm caller)
    (watched : last.loopTokens[fsm]? = some token) :
    tokens.chain last.tree token = token :: tokens.chain last.tree caller ∧
      token ∉ tokens.chain last.tree caller ∧ tokens.Known last.tree caller := by
  rcases under.exists_spawns run with ⟨world, action, name, momentMem, rfl, spawns⟩
  rcases World.chain_of_spawns run momentMem spawns watched with ⟨chainEq, above, known, later⟩
  rw [later.chain_eq caller known]
  exact ⟨chainEq, above, later.known caller known⟩

/-- Above the token of a machine spawned alone there is only a root out of
everybody's reach. -/
theorem SpawnedAlone.chain_eq (run : Run (worldStep tokens) (World.initial tokens) trace last)
    (alone : SpawnedAlone trace fsm) (watched : last.loopTokens[fsm]? = some token) :
    ∃ root, tokens.chain last.tree token = [token, root] ∧ root ∉ cancellations trace ∧
      root ∉ last.loopTokens := by
  rcases alone.exists_spawns tokens with
    ⟨world, action, name, momentMem, rfl, spawns, noCancel⟩
  have chainEq := (World.chain_of_spawns run momentMem spawns watched).1
  rcases List.append_of_mem momentMem with ⟨before, after, rfl⟩
  rcases run.moment rfl with ⟨toWorld, next, taken, fromNext⟩
  have linked := World.linked_of_run toWorld
  have grows := tokens.new_grows world.tree
  have child := tokens.childToken_grows _ _ grows.known
  have nextLinked := linked.move (.of_worldStep taken)
  rw [spawns.worldStep_eq] at taken
  obtain rfl := Option.some.inj taken
  have hidden : (World.spawnNamedWithToken tokens
      { world with tree := (tokens.new world.tree).1 } name
        (tokens.new world.tree).2).Hidden tokens (tokens.new world.tree).2 := by
    refine ⟨child.later.known _ grows.known, ?_, ?_⟩
    · exact fun isHeld => grows.fresh (linked.held_known _ isHeld)
    · rw [World.loopTokens_spawnNamedWithToken, List.mem_append, List.mem_singleton]
      rintro (isLoop | isChild)
      · exact grows.fresh (linked.loop_known _ isLoop)
      · exact child.fresh (isChild ▸ grows.known)
  rcases nextLinked.run_hidden hidden fromNext with ⟨stays, notLater⟩
  refine ⟨(tokens.new world.tree).2, ?_, ?_, stays.2.2⟩
  · rw [chainEq, grows.chain_token]
  · have notBefore : (tokens.new world.tree).2 ∉ cancellations before := fun cancelledBefore =>
      grows.fresh (linked.explained.cancels_known _ cancelledBefore)
    simp only [cancellations, List.filterMap_append, List.filterMap_cons, noCancel]
    exact fun cancelled => (List.mem_append.mp cancelled).elim notBefore notLater

/-- A shutdown of any clone of the handle is among the cancellations. -/
theorem World.mem_cancellations_of_shutdown
    (run : Run (worldStep tokens) (World.initial tokens) trace last)
    {world : World Tree Token} {clone : Nat} (momentMem : (world, .shutdown fsm clone) ∈ trace)
    (watched : last.loopTokens[fsm]? = some token) : token ∈ cancellations trace := by
  rcases List.append_of_mem momentMem with ⟨before, after, cut⟩
  rcases run.moment cut with ⟨toWorld, next, taken, fromNext⟩
  have linked := World.linked_of_run toWorld
  rcases linked.shutdown taken with ⟨shut, shutWatched, -, cancelsEq, -⟩
  have step := (linked.later (.of_worldStep taken)).2
  have rest := ((linked.move (.of_worldStep taken)).run_later fromNext).2
  have kept := World.getElem?_of_prefix (step.trans rest) shutWatched
  rw [watched] at kept
  obtain rfl := Option.some.inj kept
  exact List.mem_filterMap.mpr ⟨_, momentMem, cancelsEq⟩

end Scope

theorem shutdown_scoped [DecidableEq Token] {tokens : Tokens Tree Token}
    {trace : List (WorldMoment Tree Token)} {last : World Tree Token}
    (run : Run (worldStep tokens) (World.initial tokens) trace last) :
    ShutdownScoped tokens trace last := by
  have linked := World.linked_of_run run
  have known {fsm : Nat} {token : Token} (watched : last.loopTokens[fsm]? = some token) :
      tokens.Known last.tree token := linked.loop_known token (List.mem_of_getElem? watched)
  constructor
  · intro fsm token watched
    rw [linked.explained.isCancelled_iff token (known watched)]
    constructor
    · exact Or.inr
    · rintro (⟨world, clone, momentMem⟩ | upper)
      · exact ⟨token, linked.explained.mem_chain token (known watched),
          World.mem_cancellations_of_shutdown run momentMem watched⟩
      · exact upper
  · intro fsm token caller watched under
    exact (under.chain_eq run watched).1
  · intro fsm token watched alone
    rcases alone.chain_eq run watched with ⟨root, chainEq, never, -⟩
    exact ⟨root, chainEq, never⟩
  · intro fsm clone next caller taken under
    rcases linked.shutdown taken with ⟨token, watched, -⟩
    apply linked.shutdown_spares taken (under.chain_eq run watched).2.2
    exact fun token watched => (under.chain_eq run watched).2.1
  · intro fsm clone next caller other otherToken taken under otherUnder differ otherWatched
    apply linked.shutdown_spares taken (known otherWatched)
    intro token watched below
    rw [(otherUnder.chain_eq run otherWatched).1] at below
    rcases List.mem_cons.mp below with same | below
    · exact linked.watched_ne differ watched otherWatched same
    · exact (under.chain_eq run watched).2.1 below
  · intro fsm clone next other otherToken taken alone differ otherWatched
    apply linked.shutdown_spares taken (known otherWatched)
    intro token watched below
    rcases alone.chain_eq run otherWatched with ⟨root, chainEq, -, notLoop⟩
    rw [chainEq] at below
    rcases List.mem_cons.mp below with same | below
    · exact linked.watched_ne differ watched otherWatched same
    · rw [List.mem_singleton] at below
      exact notLoop (below ▸ List.mem_of_getElem? watched)
  · intro fsm clone next token other taken watched otherKnown unlinked
    apply linked.shutdown_spares taken otherKnown
    intro token' watched'
    rw [watched] at watched'
    rwa [← Option.some.inj watched']
  · intro fsm clone next token other taken watched otherKnown below
    rcases linked.shutdown taken with ⟨token', watched', -, -, cancelling⟩
    rw [watched] at watched'
    obtain rfl := Option.some.inj watched'
    exact (cancelling.isCancelled_iff other otherKnown).mpr (Or.inr below)

/-- A caller spawns a machine, another below that one, a third beside it and a
fourth on its own. -/
def familyActions : List (WorldAction Nat) := [
  .newToken, .spawnWithToken 0, .spawnWithToken 1, .spawnNamedWithToken (some "sibling") 0,
  .spawn, .cloneHandle 0 0]

def family : List (WorldMoment (List Node) Nat) × World (List Node) Nat :=
  (replay (worldStep nodeTokens) (World.initial nodeTokens) familyActions).get (by decide)

/-- Shutting the first machine down through the clone of its handle stops it
and the machine below it. -/
theorem shutdown_scoped_family :
    ∃ next, worldStep nodeTokens family.2 (.shutdown 0 1) = some next ∧
      nodeTokens.isCancelled next.tree 0 = false ∧
        next.loopTokens.map (nodeTokens.isCancelled next.tree) = [true, true, false, false] := by
  have replayed : replay (worldStep nodeTokens) (World.initial nodeTokens) familyActions =
      some family := (Option.some_get _).symm
  have reach := shutdown_scoped (run_of_replay replayed)
  have under : SpawnedUnder family.1 0 0 :=
    ⟨_, .spawnWithToken 0, List.mem_cons_of_mem _ List.mem_cons_self, rfl, Or.inl rfl⟩
  have taken : worldStep nodeTokens family.2 (.shutdown 0 1) = some _ := rfl
  refine ⟨_, taken, ?_, by decide⟩
  exact reach.spares_caller 0 1 _ 0 taken under

end TokioFsm
