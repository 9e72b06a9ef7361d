import Mathlib.Algebra.Group.Nat.Defs
import TokioFsm.Library.GraphSearch

/-!
# What the macro reads

The attribute macro is handed an `impl` block that the Rust parser has already
accepted.  This file keeps of its syntax tree what the macro looks at or
copies: types down to their path segments and generic arguments, attributes
with their name-value arguments, method signatures, and associated types.
Everything else is carried along as text.
-/

namespace TokioFsm

open GraphSearch

/-- Identifiers compare by their text, to which an `r#` belongs. -/
abbrev Ident := String

mutual

/-- `syn::Type`.  Only paths are taken apart, down to the punctuation on which
their equality depends; every other type is text. -/
inductive SynType
  | path (qself : Option String) (leadingColon : Bool) (segments : List PathSegment)
  | other (tokens : String)

inductive PathSegment
  | mk (ident : Ident) (arguments : PathArguments)

inductive PathArguments
  | none
  | angleBracketed (turbofish : Bool) (args : List GenericArgument) (trailingComma : Bool)
  | parenthesized (tokens : String)

/-- Lifetimes, constants and associated-type arguments are text. -/
inductive GenericArgument
  | type (ty : SynType)
  | other (tokens : String)

end

def PathSegment.ident : PathSegment → Ident
  | .mk ident _ => ident

def PathSegment.arguments : PathSegment → PathArguments
  | .mk _ arguments => arguments

mutual
def SynType.decEq : (first second : SynType) → Decidable (first = second)
  | .path qself colon segments, .path qself' colon' segments' =>
      match decEq (qself, colon) (qself', colon'), PathSegment.listDecEq segments segments' with
      | isTrue rootEq, isTrue segmentsEq =>
          isTrue (by rw [(Prod.mk.inj rootEq).1, (Prod.mk.inj rootEq).2, segmentsEq])
      | isFalse differs, _ => isFalse fun equal => differs (by injection equal; simp_all)
      | _, isFalse differs => isFalse fun equal => differs (by injection equal)
  | .other tokens, .other tokens' =>
      match instDecidableEqString tokens tokens' with
      | isTrue tokensEq => isTrue (by rw [tokensEq])
      | isFalse differs => isFalse fun equal => differs (by injection equal)
  | .path _ _ _, .other _ | .other _, .path _ _ _ => isFalse nofun
  termination_by structural first => first
def PathSegment.decEq : (first second : PathSegment) → Decidable (first = second)
  | .mk ident arguments, .mk ident' arguments' =>
      match instDecidableEqString ident ident', PathArguments.decEq arguments arguments' with
      | isTrue identEq, isTrue argumentsEq => isTrue (by rw [identEq, argumentsEq])
      | isFalse differs, _ => isFalse fun equal => differs (by injection equal)
      | _, isFalse differs => isFalse fun equal => differs (by injection equal)
  termination_by structural first => first
def PathSegment.listDecEq : (first second : List PathSegment) → Decidable (first = second)
  | [], [] => isTrue rfl
  | segment :: segments, segment' :: segments' =>
      match PathSegment.decEq segment segment', PathSegment.listDecEq segments segments' with
      | isTrue headEq, isTrue tailEq => isTrue (by rw [headEq, tailEq])
      | isFalse differs, _ => isFalse fun equal => differs (by injection equal)
      | _, isFalse differs => isFalse fun equal => differs (by injection equal)
  | [], _ :: _ | _ :: _, [] => isFalse nofun
  termination_by structural first => first
def PathArguments.decEq : (first second : PathArguments) → Decidable (first = second)
  | .none, .none => isTrue rfl
  | .angleBracketed turbofish args comma, .angleBracketed turbofish' args' comma' =>
      match decEq (turbofish, comma) (turbofish', comma'),
        GenericArgument.listDecEq args args' with
      | isTrue punctuationEq, isTrue argsEq => isTrue (by
          rw [(Prod.mk.inj punctuationEq).1, (Prod.mk.inj punctuationEq).2, argsEq])
      | isFalse differs, _ => isFalse fun equal => differs (by injection equal; simp_all)
      | _, isFalse differs => isFalse fun equal => differs (by injection equal)
  | .parenthesized tokens, .parenthesized tokens' =>
      match instDecidableEqString tokens tokens' with
      | isTrue tokensEq => isTrue (by rw [tokensEq])
      | isFalse differs => isFalse fun equal => differs (by injection equal)
  | .none, .angleBracketed _ _ _ | .none, .parenthesized _
  | .angleBracketed _ _ _, .none | .angleBracketed _ _ _, .parenthesized _
  | .parenthesized _, .none | .parenthesized _, .angleBracketed _ _ _ => isFalse nofun
  termination_by structural first => first
def GenericArgument.decEq : (first second : GenericArgument) → Decidable (first = second)
  | .type ty, .type ty' =>
      match SynType.decEq ty ty' with
      | isTrue tyEq => isTrue (by rw [tyEq])
      | isFalse differs => isFalse fun equal => differs (by injection equal)
  | .other tokens, .other tokens' =>
      match instDecidableEqString tokens tokens' with
      | isTrue tokensEq => isTrue (by rw [tokensEq])
      | isFalse differs => isFalse fun equal => differs (by injection equal)
  | .type _, .other _ | .other _, .type _ => isFalse nofun
  termination_by structural first => first
def GenericArgument.listDecEq : (first second : List GenericArgument) → Decidable (first = second)
  | [], [] => isTrue rfl
  | arg :: args, arg' :: args' =>
      match GenericArgument.decEq arg arg', GenericArgument.listDecEq args args' with
      | isTrue headEq, isTrue tailEq => isTrue (by rw [headEq, tailEq])
      | isFalse differs, _ => isFalse fun equal => differs (by injection equal)
      | _, isFalse differs => isFalse fun equal => differs (by injection equal)
  | [], _ :: _ | _ :: _, [] => isFalse nofun
  termination_by structural first => first
end

instance : DecidableEq SynType :=
  SynType.decEq

/-- The value of a name-value argument inside an attribute. -/
inductive MetaValue
  | ident (name : Ident)
  | literal (text : String)
deriving DecidableEq

/-- An attribute `#[path(name = value, ..)]`. -/
structure Attribute where
  path : List Ident
  args : List (Ident × MetaValue) := []
deriving DecidableEq

def Attribute.isIdent (attr : Attribute) (name : Ident) : Bool :=
  decide (attr.path = [name])

/-- An argument of a method. -/
inductive FnArg
  | receiver
  | typed (ty : SynType)
deriving DecidableEq

inductive ReturnType
  | default
  | type (ty : SynType)
deriving DecidableEq

structure Signature where
  asyncness : Bool
  ident : Ident
  inputs : List FnArg
  output : ReturnType
deriving DecidableEq

/-- A method.  `rest` is its visibility, generics and body, which the macro
copies unread. -/
structure ImplItemFn where
  attrs : List Attribute
  sig : Signature
  rest : String := ""
deriving DecidableEq

inductive ImplItem
  | fn (method : ImplItemFn)
  | type (ident : Ident) (ty : SynType)
  | other (tokens : String)
deriving DecidableEq

structure ItemImpl where
  selfTy : SynType
  items : List ImplItem

/-- The methods of a block, in order. -/
def ItemImpl.methods (block : ItemImpl) : List ImplItemFn :=
  block.items.filterMap fun item =>
    match item with
    | .fn method => some method
    | _ => none

/-- The syntax an error points at. -/
inductive Spanned
  | ident (name : Ident)
  | attribute (attr : Attribute)
  | output (output : ReturnType)
  | type (ty : SynType)
  | literal (text : String)
  | implBlock

/-- `syn::Error`. -/
structure Error where
  spanned : Spanned
  message : String

/-- `std::time::Duration`: `u64` seconds and a fraction of a second. -/
structure Duration where
  secs : Nat
  nanos : Nat := 0
  secs_lt : secs < 2 ^ 64 := by decide
  nanos_lt : nanos < 1000000000 := by decide
deriving DecidableEq

/-- The length of a duration in nanoseconds. -/
def Duration.toNanos (duration : Duration) : Nat :=
  duration.secs * 1000000000 + duration.nanos

theorem Duration.toNanos_injective : Function.Injective Duration.toNanos := by
  intro first second equal
  have firstLt := first.nanos_lt
  have secondLt := second.nanos_lt
  unfold toNanos at equal
  have secsEq : first.secs = second.secs := by omega
  have nanosEq : first.nanos = second.nanos := by omega
  cases first
  cases second
  simp_all

/-- The largest `usize` of a 64-bit platform. -/
def usizeMax : Nat :=
  2 ^ 64 - 1

def defaultChannelSize : Nat :=
  100

def validateChannelSize (size : Nat) : Except String Nat :=
  if size = 0 then .error "channel_size must be greater than 0"
  else .ok size

/-- The arguments of `#[fsm(..)]`, after their validation. -/
structure FsmArgs where
  initial : Ident
  channelSize : Nat := defaultChannelSize
  tracing : Bool := false
  serde : Bool := false
  channelSize_le : channelSize ≤ usizeMax := by decide
  channelSize_valid : validateChannelSize channelSize = .ok channelSize := by rfl

theorem FsmArgs.channelSize_pos (args : FsmArgs) : 0 < args.channelSize := by
  have valid := args.channelSize_valid
  unfold validateChannelSize at valid
  split at valid
  · cases valid
  · omega

/-- The arguments of `#[on(..)]`. -/
structure OnAttr where
  state : Ident
  event : Ident
deriving DecidableEq

/-- The arguments of `#[state_timeout(..)]`. -/
structure StateTimeoutAttr where
  duration : String
deriving DecidableEq

/-- What the macro calls in other crates: the derived attribute parsers, the
duration parser, the rendering of types in messages, and depth-first search,
which visits exactly the nodes reachable from its start. -/
structure Crates where
  onAttrFromMeta : Attribute → Except Error OnAttr
  stateTimeoutAttrFromMeta : Attribute → Except Error StateTimeoutAttr
  parseDuration : String → Except String Duration
  renderType : SynType → String
  dfs : DiGraph Ident → Nat → List Nat
  mem_dfs_iff : ∀ (graph : DiGraph Ident) (start node : Nat),
    start < graph.nodes.length → (node ∈ dfs graph start ↔ graph.Reaches start node)

end TokioFsm
