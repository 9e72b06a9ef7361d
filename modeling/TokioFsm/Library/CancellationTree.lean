import Mathlib.Data.List.Basic

/-!
# Trees of cancellation tokens

Tokens refer to the nodes of a forest that grows while it is used: a new token
is a root, a child token hangs below the token it is made from, and a clone
refers to the same node.  Cancelling a token cancels everything below it, and
a child of a cancelled token is cancelled from the start.  An implementation
is known here by these effects alone; the results say which cancellations
explain that a token is cancelled, in whatever order the forest has grown.
-/

namespace CancellationTree

variable {Tree Token : Type*}

/-- What can be seen of a forest: the tokens in use, the tokens from each one
up to its root, itself first, and which of them are cancelled. -/
structure View (Tree Token : Type*) where
  Known : Tree → Token → Prop
  chain : Tree → Token → List Token
  isCancelled : Tree → Token → Bool

namespace View

/-- A token has been added, below the given ones. -/
structure Grows (view : View Tree Token) (before : Tree) (token : Token)
    (above : List Token) (cancelled : Bool) (after : Tree) : Prop where
  fresh : ¬ view.Known before token
  known_iff : ∀ other, view.Known after other ↔ view.Known before other ∨ other = token
  chain_token : view.chain after token = token :: above
  chain_eq : ∀ other, view.Known before other →
    view.chain after other = view.chain before other
  isCancelled_token : view.isCancelled after token = cancelled
  isCancelled_eq : ∀ other, view.Known before other →
    view.isCancelled after other = view.isCancelled before other

/-- A token has been cancelled, and with it the tokens below. -/
structure Cancels (view : View Tree Token) (before : Tree) (token : Token)
    (after : Tree) : Prop where
  known_iff : ∀ other, view.Known after other ↔ view.Known before other
  chain_eq : ∀ other, view.Known before other →
    view.chain after other = view.chain before other
  isCancelled_iff : ∀ other, view.Known before other →
    (view.isCancelled after other = true ↔
      view.isCancelled before other = true ∨ token ∈ view.chain before other)

/-- Tokens stay in use, where they are and cancelled. -/
structure Later (view : View Tree Token) (before after : Tree) : Prop where
  known : ∀ token, view.Known before token → view.Known after token
  chain_eq : ∀ token, view.Known before token →
    view.chain after token = view.chain before token
  cancelled : ∀ token, view.Known before token → view.isCancelled before token = true →
    view.isCancelled after token = true

/-- The tokens cancelled so far explain every token that is cancelled. -/
structure Explained (view : View Tree Token) (tree : Tree) (cancels : List Token) :
    Prop where
  mem_chain : ∀ token, view.Known tree token → token ∈ view.chain tree token
  chain_known : ∀ token, view.Known tree token →
    ∀ upper ∈ view.chain tree token, view.Known tree upper
  cancels_known : ∀ token ∈ cancels, view.Known tree token
  isCancelled_iff : ∀ token, view.Known tree token →
    (view.isCancelled tree token = true ↔
      ∃ upper ∈ view.chain tree token, upper ∈ cancels)

variable {view : View Tree Token} {before middle after tree : Tree} {token : Token}
  {above cancels : List Token} {cancelled : Bool}

theorem Grows.known (grows : view.Grows before token above cancelled after) :
    view.Known after token :=
  (grows.known_iff token).mpr (Or.inr rfl)

theorem Grows.later (grows : view.Grows before token above cancelled after) :
    view.Later before after where
  known other known := (grows.known_iff other).mpr (Or.inl known)
  chain_eq := grows.chain_eq
  cancelled other known isCancelled := by
    rw [grows.isCancelled_eq other known]
    exact isCancelled

theorem Cancels.later (cancelling : view.Cancels before token after) :
    view.Later before after where
  known other known := (cancelling.known_iff other).mpr known
  chain_eq := cancelling.chain_eq
  cancelled other known isCancelled :=
    (cancelling.isCancelled_iff other known).mpr (Or.inl isCancelled)

/-- A token that does not lie below the cancelled one stays as it is. -/
theorem Cancels.isCancelled_eq (cancelling : view.Cancels before token after) {other : Token}
    (known : view.Known before other) (notBelow : token ∉ view.chain before other) :
    view.isCancelled after other = view.isCancelled before other := by
  rw [Bool.eq_iff_iff, cancelling.isCancelled_iff other known]
  simp [notBelow]

theorem Later.refl (view : View Tree Token) (tree : Tree) : view.Later tree tree where
  known _ known := known
  chain_eq _ _ := rfl
  cancelled _ _ isCancelled := isCancelled

theorem Later.trans (first : view.Later before middle) (second : view.Later middle after) :
    view.Later before after where
  known other known := second.known other (first.known other known)
  chain_eq other known := by
    rw [second.chain_eq other (first.known other known), first.chain_eq other known]
  cancelled other known isCancelled := by
    apply second.cancelled other (first.known other known)
    exact first.cancelled other known isCancelled

/-- A new token is explained where the tokens above it are. -/
theorem Explained.grow (explained : view.Explained before cancels)
    (grows : view.Grows before token above cancelled after)
    (aboveKnown : ∀ upper ∈ above, view.Known before upper)
    (cancelled_iff : cancelled = true ↔ ∃ upper ∈ above, upper ∈ cancels) :
    view.Explained after cancels where
  mem_chain other known := by
    rcases (grows.known_iff other).mp known with earlier | rfl
    · rw [grows.chain_eq other earlier]
      exact explained.mem_chain other earlier
    · rw [grows.chain_token]
      exact List.mem_cons_self
  chain_known other known upper upperMem := by
    rcases (grows.known_iff other).mp known with earlier | rfl
    · rw [grows.chain_eq other earlier] at upperMem
      apply grows.later.known
      exact explained.chain_known other earlier upper upperMem
    · rw [grows.chain_token] at upperMem
      rcases List.mem_cons.mp upperMem with rfl | upperMem
      · exact known
      · exact grows.later.known upper (aboveKnown upper upperMem)
  cancels_known other otherMem := grows.later.known other (explained.cancels_known other otherMem)
  isCancelled_iff other known := by
    rcases (grows.known_iff other).mp known with earlier | rfl
    · rw [grows.isCancelled_eq other earlier, grows.chain_eq other earlier]
      exact explained.isCancelled_iff other earlier
    · -- the token itself has not been cancelled yet
      have notYet : other ∉ cancels := fun cancelledBefore =>
        grows.fresh (explained.cancels_known other cancelledBefore)
      rw [grows.isCancelled_token, grows.chain_token, cancelled_iff]
      simp [notYet]

theorem Explained.cancel (explained : view.Explained before cancels)
    (known : view.Known before token) (cancelling : view.Cancels before token after) :
    view.Explained after (cancels ++ [token]) where
  mem_chain other otherKnown := by
    have earlier := (cancelling.known_iff other).mp otherKnown
    rw [cancelling.chain_eq other earlier]
    exact explained.mem_chain other earlier
  chain_known other otherKnown upper upperMem := by
    have earlier := (cancelling.known_iff other).mp otherKnown
    rw [cancelling.chain_eq other earlier] at upperMem
    apply cancelling.later.known
    exact explained.chain_known other earlier upper upperMem
  cancels_known other otherMem := by
    apply cancelling.later.known
    rcases List.mem_append.mp otherMem with otherMem | otherMem
    · exact explained.cancels_known other otherMem
    · rw [List.mem_singleton.mp otherMem]
      exact known
  isCancelled_iff other otherKnown := by
    have earlier := (cancelling.known_iff other).mp otherKnown
    rw [cancelling.isCancelled_iff other earlier, cancelling.chain_eq other earlier,
      explained.isCancelled_iff other earlier]
    simp only [List.mem_append, List.mem_singleton, and_or_left, exists_or, exists_eq_right]

end View

/-- The operations on cancellation tokens, with their effects. -/
structure Tokens (Tree Token : Type*) extends View Tree Token where
  empty : Tree
  new : Tree → Tree × Token
  childToken : Tree → Token → Tree × Token
  clone : Token → Token
  cancel : Tree → Token → Tree
  not_known_empty : ∀ token, ¬ Known empty token
  new_grows : ∀ tree, toView.Grows tree (new tree).2 [] false (new tree).1
  childToken_grows : ∀ tree token, Known tree token →
    toView.Grows tree (childToken tree token).2 (chain tree token) (isCancelled tree token)
      (childToken tree token).1
  clone_eq : ∀ token, clone token = token
  cancel_cancels : ∀ tree token, Known tree token →
    toView.Cancels tree token (cancel tree token)

section Operations

variable {tokens : Tokens Tree Token} {tree : Tree} {token : Token} {cancels : List Token}

theorem Tokens.explained_empty (tokens : Tokens Tree Token) :
    tokens.Explained tokens.empty [] where
  mem_chain token known := absurd known (tokens.not_known_empty token)
  chain_known token known := absurd known (tokens.not_known_empty token)
  cancels_known _ tokenMem := absurd tokenMem List.not_mem_nil
  isCancelled_iff token known := absurd known (tokens.not_known_empty token)

theorem Tokens.explained_new (explained : tokens.Explained tree cancels) :
    tokens.Explained (tokens.new tree).1 cancels := by
  apply explained.grow (tokens.new_grows tree)
  · simp
  · simp

theorem Tokens.explained_childToken (explained : tokens.Explained tree cancels)
    (known : tokens.Known tree token) :
    tokens.Explained (tokens.childToken tree token).1 cancels := by
  apply explained.grow (tokens.childToken_grows tree token known)
  · exact explained.chain_known token known
  · exact explained.isCancelled_iff token known

end Operations

/-! ## A plain implementation -/

/-- A node with the nodes above it. -/
structure Node where
  above : List Nat := []
  cancelled : Bool := false
deriving DecidableEq

def nodeChain (nodes : List Node) (token : Nat) : List Nat :=
  token :: (nodes[token]?.map Node.above).getD []

def nodeCancelled (nodes : List Node) (token : Nat) : Bool :=
  (nodes[token]?.map Node.cancelled).getD false

def childNode (nodes : List Node) (token : Nat) : Node where
  above := nodeChain nodes token
  cancelled := nodeCancelled nodes token

def cancelNode (nodes : List Node) (token : Nat) : List Node :=
  nodes.mapIdx fun index node =>
    { node with cancelled := node.cancelled || decide (token ∈ index :: node.above) }

def nodeView : View (List Node) Nat where
  Known nodes token := token < nodes.length
  chain := nodeChain
  isCancelled := nodeCancelled

theorem nodeView_grows (nodes : List Node) (node : Node) :
    nodeView.Grows nodes nodes.length node.above node.cancelled (nodes ++ [node]) := by
  have unchanged (other : Nat) (known : other < nodes.length) :
      (nodes ++ [node])[other]? = nodes[other]? := List.getElem?_append_left known
  constructor
  · simp [nodeView]
  · intro other
    simp only [nodeView, List.length_append, List.length_singleton]
    omega
  · simp [nodeView, nodeChain]
  · intro other known
    simp [nodeView, nodeChain, unchanged other known]
  · simp [nodeView, nodeCancelled]
  · intro other known
    simp [nodeView, nodeCancelled, unchanged other known]

theorem nodeView_cancels (nodes : List Node) (token : Nat) :
    nodeView.Cancels nodes token (cancelNode nodes token) := by
  constructor
  · intro other
    simp [nodeView, cancelNode]
  · intro other known
    have found : nodes[other]? = some nodes[other] := List.getElem?_eq_getElem known
    simp [nodeView, nodeChain, cancelNode, found]
  · intro other known
    have found : nodes[other]? = some nodes[other] := List.getElem?_eq_getElem known
    simp [nodeView, nodeChain, nodeCancelled, cancelNode, found]

/-- Tokens are positions in a list of nodes. -/
def nodeTokens : Tokens (List Node) Nat where
  toView := nodeView
  empty := []
  new nodes := (nodes ++ [{}], nodes.length)
  childToken nodes token := (nodes ++ [childNode nodes token], nodes.length)
  clone token := token
  cancel := cancelNode
  not_known_empty := Nat.not_lt_zero
  new_grows nodes := nodeView_grows nodes {}
  childToken_grows nodes token _ := nodeView_grows nodes (childNode nodes token)
  clone_eq _ := rfl
  cancel_cancels nodes token _ := nodeView_cancels nodes token

end CancellationTree
