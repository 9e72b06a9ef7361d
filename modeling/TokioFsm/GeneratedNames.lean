import TokioFsm.ProgramClosure
import Mathlib.Data.List.Nodup

/-!
# The names of the generated items

An expansion declares five types named after the machine and a marker struct for
every state, and puts functions of its own beside the methods of the block.  The
macro does not look at what these are called.  Any number of machines can be
declared in one module exactly when no state is called like a generated type or
like a state of another machine, no machine like a type of another one, no
method like a generated function, and in one block no two methods, states or
events are called alike.  A raw identifier is the same name as the plain one,
although the macro takes them for two.
-/

namespace TokioFsm

/-! ## Suffixes -/

section Suffixes

variable {Symbol : Type*}

/-- If no suffix ends in another one, a word shows its base and its suffix. -/
theorem append_inj_of_suffixFree {first second firstEnd secondEnd : List Symbol}
    (suffixFree : firstEnd <:+ secondEnd ∨ secondEnd <:+ firstEnd → firstEnd = secondEnd)
    (equal : first ++ firstEnd = second ++ secondEnd) :
    first = second ∧ firstEnd = secondEnd := by
  have firstIs : firstEnd <:+ second ++ secondEnd := by
    rw [← equal]
    exact List.suffix_append first firstEnd
  have sameEnd :=
    suffixFree (List.suffix_or_suffix_of_suffix firstIs (List.suffix_append second secondEnd))
  rw [sameEnd] at equal
  exact ⟨List.append_cancel_right equal, sameEnd⟩

end Suffixes

/-! ## Raw identifiers -/

def unrawChars : List Char → List Char
  | 'r' :: '#' :: rest => unrawChars rest
  | chars => chars

/-- The name that an identifier stands for; no identifier has two prefixes. -/
def unraw (name : Ident) : Ident := String.ofList (unrawChars name.toList)

theorem not_prefix_unrawChars (chars : List Char) : ¬ ['r', '#'] <+: unrawChars chars := by
  fun_induction unrawChars chars with
  | case1 rest ih => exact ih
  | case2 chars plain =>
      rintro ⟨rest, rfl⟩
      exact plain rest rfl

theorem unrawChars_eq_self {chars : List Char} (plain : ¬ ['r', '#'] <+: chars) :
    unrawChars chars = chars := by
  unfold unrawChars
  split
  next rest => exact absurd ⟨rest, rfl⟩ plain
  next => rfl

/-- A prefix does not come about by appending to a plain name. -/
theorem not_prefix_append {chars suffix : List Char} (plain : ¬ ['r', '#'] <+: chars)
    (noMark : '#' ∉ suffix) : ¬ ['r', '#'] <+: chars ++ suffix := by
  rintro ⟨rest, same⟩
  match chars with
  | [] =>
      have suffixEq : 'r' :: '#' :: rest = suffix := same
      exact noMark (by rw [← suffixEq]; simp)
  | [first] =>
      have suffixEq : '#' :: rest = suffix := (List.cons.inj same).2
      exact noMark (by rw [← suffixEq]; simp)
  | first :: second :: tail =>
      obtain ⟨rfl, sameTail⟩ := List.cons.inj same
      obtain ⟨rfl, -⟩ := List.cons.inj sameTail
      exact plain ⟨tail, rfl⟩

/-! ## What an expansion declares -/

/-- What `format_ident!` appends to the name of a machine. -/
def typeSuffixes : List Ident := ["State", "Event", "Handle", "Task"]

namespace FsmStructure

variable (fsm : FsmStructure)

def stateEnumIdent : Ident := unraw fsm.fsmName ++ "State"

def eventEnumIdent : Ident := unraw fsm.fsmName ++ "Event"

def handleIdent : Ident := unraw fsm.fsmName ++ "Handle"

def taskIdent : Ident := unraw fsm.fsmName ++ "Task"

end FsmStructure

inductive GeneratedItem
  | enum (name : Ident) (variants : List Ident)
  | unitStruct (name : Ident)
  | struct (name : Ident)

def GeneratedItem.typeName : GeneratedItem → Ident
  | .enum name _ | .unitStruct name | .struct name => name

/-- A unit struct is a value as well. -/
def GeneratedItem.valueName : GeneratedItem → Option Ident
  | .unitStruct name => some name
  | .enum _ _ | .struct _ => none

def GeneratedItem.variants : GeneratedItem → List Ident
  | .enum _ variants => variants
  | .unitStruct _ | .struct _ => []

namespace FsmStructure

variable (fsm : FsmStructure)

def renderStateEnum : List GeneratedItem :=
  .enum fsm.stateEnumIdent fsm.stateNames :: fsm.stateNames.map .unitStruct

def renderEventEnum : List GeneratedItem :=
  [.enum fsm.eventEnumIdent (fsm.events.map Event.name)]

def renderFsmStruct : List GeneratedItem := [.struct fsm.fsmName]

def renderHandleStruct : List GeneratedItem := [.struct fsm.handleIdent]

def renderTaskStruct : List GeneratedItem := [.struct fsm.taskIdent]

def moduleItems : List GeneratedItem :=
  fsm.renderStateEnum ++ fsm.renderEventEnum ++ fsm.renderFsmStruct ++ fsm.renderHandleStruct ++
    fsm.renderTaskStruct

end FsmStructure

/-- The functions of `render_spawn`, `render_run` and
`render_fsm_private_helpers`. -/
def generatedFunctions : List Ident :=
  ["spawn", "spawn_named", "spawn_with_token", "spawn_named_with_token", "run",
    "apply_transition", "reset_timeout_for_current_state"]

def ImplItem.functionName : ImplItem → Option Ident
  | .fn method => some method.sig.ident
  | .type _ _ | .other _ => none

/-- The functions of the `impl` block of the machine. -/
def GeneratedFsm.implFunctions (program : GeneratedFsm) : List Ident :=
  generatedFunctions ++ program.items.filterMap ImplItem.functionName

/-- The name by which the compiler knows the item. -/
def GeneratedItem.typeSymbol (item : GeneratedItem) : Ident := unraw item.typeName

/-- A block with the attribute, somewhere in a module. -/
structure Declaration (crates : Crates) where
  args : FsmArgs
  block : ItemImpl
  machine : AcceptedFsm crates args block

/-- No name is declared twice. -/
structure NamesDistinct {crates : Crates} (declarations : List (Declaration crates)) : Prop where
  types : ((declarations.flatMap fun declaration => declaration.machine.fsm.moduleItems).map
    GeneratedItem.typeSymbol).Nodup
  values : (((declarations.flatMap fun declaration =>
    declaration.machine.fsm.moduleItems).filterMap GeneratedItem.valueName).map unraw).Nodup
  variants : ∀ declaration ∈ declarations, ∀ item ∈ declaration.machine.fsm.moduleItems,
    (item.variants.map unraw).Nodup
  functions : ∀ declaration ∈ declarations,
    (declaration.machine.program.implFunctions.map unraw).Nodup

/-! ## When the names are distinct -/

namespace FsmStructure

variable (fsm other : FsmStructure)

/-- The names of the types named after the machine. -/
def generatedTypes : List Ident :=
  unraw fsm.fsmName :: typeSuffixes.map (unraw fsm.fsmName ++ ·)

/-- No state is called like a generated type of the other machine. -/
def ClearOf : Prop := ∀ state ∈ fsm.stateNames, unraw state ∉ other.generatedTypes

/-- Neither machine is called like a generated type of the other. -/
def NamedApart : Prop :=
  unraw fsm.fsmName ∉ other.generatedTypes ∧ unraw other.fsmName ∉ fsm.generatedTypes

/-- What is named after a machine is no raw identifier. -/
theorem unraw_append {name suffix : Ident} (suffixMem : suffix ∈ typeSuffixes) :
    unraw (unraw name ++ suffix) = unraw name ++ suffix := by
  have noMark : ∀ suffix ∈ typeSuffixes, '#' ∉ suffix.toList := by decide
  have plain := not_prefix_append (not_prefix_unrawChars name.toList) (noMark suffix suffixMem)
  apply String.toList_injective
  simp only [unraw, String.toList_append, String.toList_ofList, unrawChars_eq_self plain]

theorem suffix_append_inj {first second firstEnd secondEnd : Ident}
    (firstMem : firstEnd ∈ typeSuffixes)
    (secondMem : secondEnd ∈ typeSuffixes)
    (equal : first ++ firstEnd = second ++ secondEnd) : first = second ∧ firstEnd = secondEnd := by
  have suffixFree : ∀ firstEnd ∈ typeSuffixes,
      ∀ secondEnd ∈ typeSuffixes,
        firstEnd.toList <:+ secondEnd.toList ∨ secondEnd.toList <:+ firstEnd.toList →
          firstEnd.toList = secondEnd.toList := by decide
  have sameList := congrArg String.toList equal
  rw [String.toList_append, String.toList_append] at sameList
  obtain ⟨sameBase, sameEnd⟩ := append_inj_of_suffixFree
    (suffixFree firstEnd firstMem secondEnd secondMem) sameList
  exact ⟨String.toList_injective sameBase, String.toList_injective sameEnd⟩

theorem generatedTypes_nodup : fsm.generatedTypes.Nodup := by
  rw [generatedTypes, List.nodup_cons]
  constructor
  · intro nameMem
    obtain ⟨suffix, suffixMem, equal⟩ := List.mem_map.mp nameMem
    have nonempty : ∀ suffix ∈ typeSuffixes,
        suffix.toList.length ≠ 0 := by decide
    have sameLength := congrArg (fun name : Ident => name.toList.length) equal
    simp only [String.toList_append, List.length_append] at sameLength
    exact nonempty suffix suffixMem (by omega)
  · apply List.Nodup.map_on
    · intro first firstMem second secondMem equal
      exact (suffix_append_inj firstMem secondMem equal).2
    · decide

theorem disjoint_generatedTypes_iff :
    List.Disjoint fsm.generatedTypes other.generatedTypes ↔ fsm.NamedApart other := by
  constructor
  · intro disjoint
    exact ⟨fun nameMem => disjoint List.mem_cons_self nameMem,
      fun nameMem => disjoint nameMem List.mem_cons_self⟩
  · rintro ⟨fsmApart, otherApart⟩ name fsmMem otherMem
    obtain rfl | suffixed := List.mem_cons.mp fsmMem
    · exact fsmApart otherMem
    · obtain rfl | otherSuffixed := List.mem_cons.mp otherMem
      · exact otherApart fsmMem
      · -- both names carry a suffix, so the machines have the same name
        obtain ⟨suffix, suffixMem, rfl⟩ := List.mem_map.mp suffixed
        obtain ⟨otherSuffix, otherSuffixMem, equal⟩ := List.mem_map.mp otherSuffixed
        have sameName := (suffix_append_inj otherSuffixMem suffixMem equal).1
        exact fsmApart (sameName ▸ List.mem_cons_self)

/-- The states, as the compiler knows them. -/
def stateSymbols : List Ident := fsm.stateNames.map unraw

theorem typeSymbols_perm :
    (fsm.moduleItems.map GeneratedItem.typeSymbol).Perm
      (fsm.generatedTypes ++ fsm.stateSymbols) := by
  have symbols : unraw fsm.stateEnumIdent = fsm.stateEnumIdent ∧
      unraw fsm.eventEnumIdent = fsm.eventEnumIdent ∧
        unraw fsm.handleIdent = fsm.handleIdent ∧ unraw fsm.taskIdent = fsm.taskIdent :=
    ⟨unraw_append (by decide), unraw_append (by decide), unraw_append (by decide),
      unraw_append (by decide)⟩
  have listed : fsm.moduleItems.map GeneratedItem.typeSymbol =
      fsm.stateEnumIdent :: (fsm.stateSymbols ++
        [fsm.eventEnumIdent, unraw fsm.fsmName, fsm.handleIdent, fsm.taskIdent]) := by
    simp [moduleItems, renderStateEnum, renderEventEnum, renderFsmStruct, renderHandleStruct,
      renderTaskStruct, GeneratedItem.typeSymbol, GeneratedItem.typeName, stateSymbols,
      Function.comp_def, symbols]
  rw [listed]
  have swapped : (fsm.stateSymbols ++
      [fsm.eventEnumIdent, unraw fsm.fsmName, fsm.handleIdent, fsm.taskIdent]).Perm
        ([fsm.eventEnumIdent, unraw fsm.fsmName, fsm.handleIdent, fsm.taskIdent] ++
          fsm.stateSymbols) :=
    List.perm_append_comm
  have nameFirst : ([fsm.stateEnumIdent, fsm.eventEnumIdent] ++
      unraw fsm.fsmName :: ([fsm.handleIdent, fsm.taskIdent] ++ fsm.stateSymbols)).Perm
        (fsm.generatedTypes ++ fsm.stateSymbols) := List.perm_middle
  exact (swapped.cons fsm.stateEnumIdent).trans nameFirst

theorem valueNames_eq :
    fsm.moduleItems.filterMap GeneratedItem.valueName = fsm.stateNames := by
  simp [moduleItems, renderStateEnum, renderEventEnum, renderFsmStruct, renderHandleStruct,
    renderTaskStruct, GeneratedItem.valueName, List.filterMap_cons, List.filterMap_append,
    List.filterMap_map, Function.comp_def]

end FsmStructure

section Accepted

variable {crates : Crates} {args : FsmArgs} {block : ItemImpl}
  (machine : AcceptedFsm crates args block)

/-- The two enums are the items with variants. -/
theorem FsmStructure.variants_nodup_iff (fsm : FsmStructure) :
    (∀ item ∈ fsm.moduleItems, (item.variants.map unraw).Nodup) ↔
      fsm.stateSymbols.Nodup ∧ (fsm.events.map fun event => unraw event.name).Nodup := by
  have noVariants (name : Ident) :
      ((GeneratedItem.unitStruct name).variants.map unraw).Nodup ∧
        ((GeneratedItem.struct name).variants.map unraw).Nodup :=
    ⟨List.nodup_nil, List.nodup_nil⟩
  simp [FsmStructure.moduleItems, FsmStructure.renderStateEnum, FsmStructure.renderEventEnum,
    FsmStructure.renderFsmStruct, FsmStructure.renderHandleStruct,
    FsmStructure.renderTaskStruct, or_imp, forall_and, noVariants]
  simp [GeneratedItem.variants, FsmStructure.stateSymbols, Function.comp_def]

theorem AcceptedFsm.items_eq : machine.program.items = block.items.filterMap cleanItem := by
  obtain ⟨_, -, rest⟩ := Fallible.bind_eq_ok_iff.mp machine.generated
  obtain ⟨_, -, done⟩ := Fallible.bind_eq_ok_iff.mp rest
  rw [← Except.ok.inj done]

/-- Cleaning keeps the methods under their names. -/
theorem AcceptedFsm.implFunctions_eq : machine.program.implFunctions =
    generatedFunctions ++ block.methods.map fun method => method.sig.ident := by
  rw [GeneratedFsm.implFunctions, machine.items_eq, List.filterMap_filterMap, ItemImpl.methods,
    List.map_filterMap]
  congr 2
  funext item
  cases item with
  | fn | type | other => rfl

theorem AcceptedFsm.implFunctions_nodup_iff :
    (machine.program.implFunctions.map unraw).Nodup ↔
      (block.methods.map fun method => unraw method.sig.ident).Nodup ∧
        ∀ method ∈ block.methods, unraw method.sig.ident ∉ generatedFunctions := by
  have generatedNodup : generatedFunctions.Nodup := by decide
  have generatedPlain : generatedFunctions.map unraw = generatedFunctions := by decide
  rw [machine.implFunctions_eq, List.map_append, generatedPlain, List.map_map,
    List.nodup_append']
  constructor
  · rintro ⟨-, methodsNodup, disjoint⟩
    refine ⟨methodsNodup, fun method methodMem isGenerated => ?_⟩
    exact disjoint isGenerated (List.mem_map_of_mem methodMem)
  · rintro ⟨methodsNodup, notGenerated⟩
    refine ⟨generatedNodup, methodsNodup, fun name isGenerated nameMem => ?_⟩
    obtain ⟨method, methodMem, rfl⟩ := List.mem_map.mp nameMem
    exact notGenerated method methodMem isGenerated

end Accepted

/-- What the machines of a module may be called, seen from two of them. -/
structure Apart (fsm other : FsmStructure) : Prop where
  named : fsm.NamedApart other
  clear : fsm.ClearOf other
  otherClear : other.ClearOf fsm
  states : List.Disjoint fsm.stateSymbols other.stateSymbols

section Modules

variable {crates : Crates}

theorem disjoint_typeSymbols_iff (fsm other : FsmStructure) :
    List.Disjoint (fsm.moduleItems.map GeneratedItem.typeSymbol)
      (other.moduleItems.map GeneratedItem.typeSymbol) ↔ Apart fsm other := by
  have declares (fsm : FsmStructure) (name : Ident) :
      name ∈ fsm.moduleItems.map GeneratedItem.typeSymbol ↔
        name ∈ fsm.generatedTypes ∨ name ∈ fsm.stateSymbols := by
    rw [fsm.typeSymbols_perm.mem_iff, List.mem_append]
  constructor
  · intro disjoint
    refine ⟨(fsm.disjoint_generatedTypes_iff other).mp fun name fsmMem otherMem => ?_, ?_, ?_, ?_⟩
    · exact disjoint ((declares fsm name).mpr (.inl fsmMem))
        ((declares other name).mpr (.inl otherMem))
    · intro state stateMem isType
      exact disjoint ((declares fsm _).mpr (.inr (List.mem_map_of_mem stateMem)))
        ((declares other _).mpr (.inl isType))
    · intro state stateMem isType
      exact disjoint ((declares fsm _).mpr (.inl isType))
        ((declares other _).mpr (.inr (List.mem_map_of_mem stateMem)))
    · intro name fsmMem otherMem
      exact disjoint ((declares fsm name).mpr (.inr fsmMem))
        ((declares other name).mpr (.inr otherMem))
  · rintro ⟨named, clear, otherClear, states⟩ name fsmMem otherMem
    obtain fsmType | fsmState := (declares fsm name).mp fsmMem
    · obtain otherType | otherState := (declares other name).mp otherMem
      · exact (fsm.disjoint_generatedTypes_iff other).mpr named fsmType otherType
      · obtain ⟨state, stateMem, rfl⟩ := List.mem_map.mp otherState
        exact otherClear state stateMem fsmType
    · obtain otherType | otherState := (declares other name).mp otherMem
      · obtain ⟨state, stateMem, rfl⟩ := List.mem_map.mp fsmState
        exact clear state stateMem otherType
      · exact states fsmState otherState

theorem FsmStructure.typeSymbols_nodup_iff (fsm : FsmStructure) :
    (fsm.moduleItems.map GeneratedItem.typeSymbol).Nodup ↔
      fsm.stateSymbols.Nodup ∧ fsm.ClearOf fsm := by
  rw [fsm.typeSymbols_perm.nodup_iff, List.nodup_append']
  constructor
  · rintro ⟨-, statesNodup, disjoint⟩
    refine ⟨statesNodup, fun state stateMem isType => ?_⟩
    exact disjoint isType (List.mem_map_of_mem stateMem)
  · rintro ⟨statesNodup, clear⟩
    refine ⟨fsm.generatedTypes_nodup, statesNodup, fun name isType nameMem => ?_⟩
    obtain ⟨state, stateMem, rfl⟩ := List.mem_map.mp nameMem
    exact clear state stateMem isType

/-- What one block may call its methods, states and events. -/
structure Declaration.Named (declaration : Declaration crates) : Prop where
  methods : (declaration.block.methods.map fun method => unraw method.sig.ident).Nodup
  notGenerated : ∀ method ∈ declaration.block.methods,
    unraw method.sig.ident ∉ generatedFunctions
  states : declaration.machine.fsm.stateSymbols.Nodup
  events : (declaration.machine.fsm.events.map fun event => unraw event.name).Nodup
  clear : declaration.machine.fsm.ClearOf declaration.machine.fsm

/-- The expansions of some blocks fit into one module exactly when the methods,
the states and the events of each block have names of their own, no method is
called like a generated function and no state like a type of its own machine,
and any two machines are apart. -/
theorem names_distinct_iff (declarations : List (Declaration crates)) :
    NamesDistinct declarations ↔
      (∀ declaration ∈ declarations, declaration.Named) ∧
        declarations.Pairwise fun first second => Apart first.machine.fsm second.machine.fsm := by
  have typesIff : ((declarations.flatMap fun declaration =>
      declaration.machine.fsm.moduleItems).map GeneratedItem.typeSymbol).Nodup ↔
        (∀ declaration ∈ declarations, declaration.machine.fsm.stateSymbols.Nodup ∧
          declaration.machine.fsm.ClearOf declaration.machine.fsm) ∧
            declarations.Pairwise fun first second =>
              Apart first.machine.fsm second.machine.fsm := by
    rw [List.map_flatMap, List.nodup_flatMap]
    apply and_congr
    · exact forall₂_congr fun declaration _ => declaration.machine.fsm.typeSymbols_nodup_iff
    · exact List.Pairwise.iff fun first second => disjoint_typeSymbols_iff _ _
  constructor
  · rintro ⟨types, -, variants, functions⟩
    obtain ⟨typed, apart⟩ := typesIff.mp types
    refine ⟨fun declaration declarationMem => ?_, apart⟩
    obtain ⟨methodsNodup, notGenerated⟩ :=
      declaration.machine.implFunctions_nodup_iff.mp (functions declaration declarationMem)
    obtain ⟨statesNodup, eventsNodup⟩ :=
      declaration.machine.fsm.variants_nodup_iff.mp (variants declaration declarationMem)
    exact ⟨methodsNodup, notGenerated, statesNodup, eventsNodup,
      (typed declaration declarationMem).2⟩
  · rintro ⟨each, apart⟩
    refine ⟨?_, ?_, ?_, ?_⟩
    · apply typesIff.mpr
      exact ⟨fun declaration declarationMem => ⟨(each declaration declarationMem).states,
        (each declaration declarationMem).clear⟩, apart⟩
    · rw [List.filterMap_flatMap, List.map_flatMap]
      simp only [FsmStructure.valueNames_eq]
      rw [List.nodup_flatMap]
      exact ⟨fun declaration declarationMem => (each declaration declarationMem).states,
        apart.imp fun apart => apart.states⟩
    · intro declaration declarationMem
      exact declaration.machine.fsm.variants_nodup_iff.mpr
        ⟨(each declaration declarationMem).states, (each declaration declarationMem).events⟩
    · intro declaration declarationMem
      exact declaration.machine.implFunctions_nodup_iff.mpr
        ⟨(each declaration declarationMem).methods,
          (each declaration declarationMem).notGenerated⟩

end Modules

end TokioFsm
