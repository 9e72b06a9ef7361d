import Mathlib.Data.List.Nodup
import TokioFsm.Library.Fallible
import TokioFsm.MacroSyntax

/-!
# Parsing a method into a handler

Every method of the block, whether or not it carries an attribute of the
macro, is turned into a handler record.  One pass over the attributes collects
the event, the source states and the timeout markers; the return type is
parsed only for methods that handle something.
-/

namespace TokioFsm

open Fallible

structure State where
  name : Ident
deriving DecidableEq

structure Event where
  name : Ident
  payloadType : Option SynType
deriving DecidableEq

inductive HandlerReturnKind
  | transition
  | resultTransition
  | resultError
deriving DecidableEq

/-- The number of states named by a return type of each kind. -/
def HandlerReturnKind.arity : HandlerReturnKind → Nat
  | .transition | .resultError => 1
  | .resultTransition => 2

structure Handler where
  method : ImplItemFn
  event : Option Event
  isTimeoutHandler : Bool
  returnStates : List State
  returnKind : Option HandlerReturnKind
  sourceStates : List Ident
  hasPayload : Bool
  timeout : Option Duration
deriving DecidableEq

/-- What the pass over the attributes of a method collects. -/
structure AttrScan where
  event : Option Event := none
  isTimeoutHandler : Bool := false
  stateTimeoutAttr : Option StateTimeoutAttr := none
  sourceStates : List Ident := []

/-- The type of the argument after the receiver. -/
def payloadType (method : ImplItemFn) : Option SynType :=
  match (method.sig.inputs[1]? : Option FnArg) with
  | some (.typed ty) => some ty
  | _ => none

def scanAttr (crates : Crates) (method : ImplItemFn) (scan : AttrScan)
    (attr : Attribute) : Except Error AttrScan :=
  if attr.isIdent "on" then do
    let onAttr ← crates.onAttrFromMeta attr
    if onAttr.state ∈ scan.sourceStates then
      .error ⟨.attribute attr,
        s!"Duplicate #[on] source state '{onAttr.state}' on handler '{method.sig.ident}'"⟩
    else
      match scan.event with
      | some existing =>
          if existing.name ≠ onAttr.event then
            .error ⟨.ident onAttr.event,
              s!"Handler method '{method.sig.ident}' handles multiple different events: '{existing.name}' and '{onAttr.event}'"⟩
          else
            .ok { scan with sourceStates := scan.sourceStates ++ [onAttr.state] }
      | none =>
          .ok { scan with
            sourceStates := scan.sourceStates ++ [onAttr.state]
            event := some ⟨onAttr.event, payloadType method⟩ }
  else if attr.isIdent "on_timeout" then
    .ok { scan with isTimeoutHandler := true }
  else if attr.isIdent "state_timeout" then do
    let stateTimeoutAttr ← crates.stateTimeoutAttrFromMeta attr
    -- an earlier attribute of the same method is overwritten
    .ok { scan with stateTimeoutAttr := some stateTimeoutAttr }
  else
    .ok scan

def scanAttrs (crates : Crates) (method : ImplItemFn) : Except Error AttrScan :=
  method.attrs.foldlM (scanAttr crates method) {}

def parseTimeout (crates : Crates) :
    Option StateTimeoutAttr → Except Error (Option Duration)
  | some attr =>
      match crates.parseDuration attr.duration with
      | .ok duration => .ok (some duration)
      | .error reason =>
          .error ⟨.literal attr.duration,
            s!"Invalid duration '{attr.duration}': {reason}"⟩
  | none => .ok none

/-- The generic arguments that are types. -/
def typeArgs (args : List GenericArgument) : List SynType :=
  args.filterMap fun arg =>
    match arg with
    | .type ty => some ty
    | .other _ => none

def extractTransitionState (ty : SynType) : Except Error State :=
  let unexpected := .error ⟨.type ty, "Expected Transition<NextState>"⟩
  match ty with
  | .other _ => unexpected
  | .path _ _ segments =>
      match segments.getLast? with
      | none => unexpected
      | some segment =>
          if segment.ident ≠ "Transition" then unexpected
          else
            match segment.arguments with
            | .angleBracketed _ args _ =>
                match typeArgs args with
                | [.path _ _ innerSegments] =>
                    match innerSegments.getLast? with
                    | some stateSegment => .ok ⟨stateSegment.ident⟩
                    | none => unexpected
                | _ => unexpected
            | _ => unexpected

def handlerReturnError (spanned : Spanned) : Error :=
  ⟨spanned,
    "FSM handlers must return Transition<NextState> or Result<Transition<NextState>, ...>"⟩

def resultReturnError (ty : SynType) : Error :=
  ⟨.type ty, "Result handlers must return Result<Transition<NextState>, ...>"⟩

def parseResultReturn (segment : PathSegment) (ty : SynType) :
    Except Error (Option HandlerReturnKind × List State) :=
  match segment.arguments with
  | .angleBracketed _ args _ =>
      match typeArgs args with
      | [okType, errType] =>
          match extractTransitionState okType with
          | .error _ => .error (resultReturnError okType)
          | .ok okState =>
              match extractTransitionState errType with
              | .ok errState => .ok (some .resultTransition, [okState, errState])
              | .error _ => .ok (some .resultError, [okState])
      | _ => .error (resultReturnError ty)
  | _ => .error (resultReturnError ty)

def parseReturnKind (ty : SynType) :
    Except Error (Option HandlerReturnKind × List State) :=
  match ty with
  | .other _ => .error (handlerReturnError (.type ty))
  | .path _ _ segments =>
      match segments.getLast? with
      | none => .error (handlerReturnError (.type ty))
      | some segment =>
          if segment.ident = "Transition" then do
            let state ← extractTransitionState ty
            .ok (some .transition, [state])
          else if segment.ident = "Result" then parseResultReturn segment ty
          else .error (handlerReturnError (.type ty))

def parseHandlerReturn (output : ReturnType) :
    Except Error (Option HandlerReturnKind × List State) :=
  match output with
  | .type ty => parseReturnKind ty
  | .default => .error (handlerReturnError (.output output))

/-- The return type is parsed only where something is handled. -/
def AttrScan.parseReturn (scan : AttrScan) (output : ReturnType) :
    Except Error (Option HandlerReturnKind × List State) :=
  if scan.event.isSome || scan.isTimeoutHandler then parseHandlerReturn output
  else .ok (none, [])

def Handler.parse (crates : Crates) (method : ImplItemFn) : Except Error Handler :=
  if method.sig.asyncness = false then
    .error ⟨.ident method.sig.ident, "FSM handlers must be declared as async fn"⟩
  else do
    let scan ← scanAttrs crates method
    let hasPayload := (scan.event.map fun event => event.payloadType.isSome).getD false
    let timeout ← parseTimeout crates scan.stateTimeoutAttr
    let (returnKind, returnStates) ← scan.parseReturn method.sig.output
    if scan.event.isSome && scan.isTimeoutHandler then
      .error ⟨.ident method.sig.ident,
        "Handler cannot use both #[on(...)] and #[on_timeout]; split into separate methods"⟩
    else
      pure {
        method
        event := scan.event
        isTimeoutHandler := scan.isTimeoutHandler
        returnStates
        returnKind
        sourceStates := scan.sourceStates
        hasPayload
        timeout }

/-! ## What the attributes of a method declare -/

/-- The `#[on(..)]` declarations among some attributes. -/
def onAttrs (crates : Crates) (attrs : List Attribute) : List OnAttr :=
  attrs.filterMap fun attr =>
    if attr.isIdent "on" then (crates.onAttrFromMeta attr).toOption else none

/-- The `#[state_timeout(..)]` declarations among some attributes. -/
def stateTimeoutAttrs (crates : Crates) (attrs : List Attribute) :
    List StateTimeoutAttr :=
  attrs.filterMap fun attr =>
    if attr.isIdent "state_timeout" then (crates.stateTimeoutAttrFromMeta attr).toOption
    else none

/-- A scan agrees with the declarations among the attributes it has read. -/
structure ScanOf (crates : Crates) (method : ImplItemFn) (attrs : List Attribute)
    (scan : AttrScan) : Prop where
  sourceStates_eq : scan.sourceStates = (onAttrs crates attrs).map OnAttr.state
  sourceStates_nodup : scan.sourceStates.Nodup
  event_eq : ∀ onAttr ∈ onAttrs crates attrs,
    scan.event = some ⟨onAttr.event, payloadType method⟩
  event_none : onAttrs crates attrs = [] → scan.event = none
  isTimeoutHandler_eq :
    scan.isTimeoutHandler = attrs.any fun attr => attr.isIdent "on_timeout"
  stateTimeoutAttr_eq :
    scan.stateTimeoutAttr = (stateTimeoutAttrs crates attrs).getLast?

/-- The three attribute names of the macro exclude one another. -/
theorem Attribute.isIdent_unique {attr : Attribute} {name other : Ident}
    (isName : attr.isIdent name = true) (differs : name ≠ other) :
    attr.isIdent other = false := by
  simp only [isIdent, decide_eq_true_eq, decide_eq_false_iff_not] at isName ⊢
  rw [isName]
  simpa using differs

section Scanning

variable {crates : Crates} {method : ImplItemFn} {attrs : List Attribute}
  {attr : Attribute}

theorem onAttrs_append (first second : List Attribute) :
    onAttrs crates (first ++ second) = onAttrs crates first ++ onAttrs crates second :=
  List.filterMap_append

theorem stateTimeoutAttrs_append (first second : List Attribute) :
    stateTimeoutAttrs crates (first ++ second) =
      stateTimeoutAttrs crates first ++ stateTimeoutAttrs crates second :=
  List.filterMap_append

theorem onAttrs_singleton {onAttr : OnAttr} (isOn : attr.isIdent "on" = true)
    (parsed : crates.onAttrFromMeta attr = .ok onAttr) :
    onAttrs crates [attr] = [onAttr] := by
  simp [onAttrs, isOn, parsed, Except.toOption]

theorem onAttrs_singleton_of_not (notOn : attr.isIdent "on" = false) :
    onAttrs crates [attr] = [] := by
  simp [onAttrs, notOn]

theorem stateTimeoutAttrs_singleton {stateTimeoutAttr : StateTimeoutAttr}
    (isTimeout : attr.isIdent "state_timeout" = true)
    (parsed : crates.stateTimeoutAttrFromMeta attr = .ok stateTimeoutAttr) :
    stateTimeoutAttrs crates [attr] = [stateTimeoutAttr] := by
  simp [stateTimeoutAttrs, isTimeout, parsed, Except.toOption]

theorem stateTimeoutAttrs_singleton_of_not
    (notTimeout : attr.isIdent "state_timeout" = false) :
    stateTimeoutAttrs crates [attr] = [] := by
  simp [stateTimeoutAttrs, notTimeout]

/-- The scan of an attribute that is not an `#[on(..)]`. -/
theorem ScanOf.other {before after : AttrScan} (scanned : ScanOf crates method attrs before)
    (notOn : attr.isIdent "on" = false)
    (sourceStates : after.sourceStates = before.sourceStates)
    (event : after.event = before.event)
    (isTimeoutHandler : after.isTimeoutHandler =
      (before.isTimeoutHandler || attr.isIdent "on_timeout"))
    (stateTimeoutAttr : after.stateTimeoutAttr =
      (stateTimeoutAttrs crates (attrs ++ [attr])).getLast?) :
    ScanOf crates method (attrs ++ [attr]) after := by
  have sameOn : onAttrs crates (attrs ++ [attr]) = onAttrs crates attrs := by
    rw [onAttrs_append, onAttrs_singleton_of_not notOn, List.append_nil]
  refine ⟨?_, ?_, ?_, ?_, ?_, stateTimeoutAttr⟩
  · rw [sourceStates, sameOn, scanned.sourceStates_eq]
  · rw [sourceStates]
    exact scanned.sourceStates_nodup
  · rw [sameOn, event]
    exact scanned.event_eq
  · rw [sameOn, event]
    exact scanned.event_none
  · rw [isTimeoutHandler, scanned.isTimeoutHandler_eq]
    simp

/-- The scan of an `#[on(..)]` attribute that is accepted. -/
theorem ScanOf.on {before after : AttrScan} {onAttr : OnAttr}
    (scanned : ScanOf crates method attrs before)
    (isOn : attr.isIdent "on" = true)
    (parsed : crates.onAttrFromMeta attr = .ok onAttr)
    (fresh : onAttr.state ∉ before.sourceStates)
    (sameEvent : ∀ existing, before.event = some existing → existing.name = onAttr.event)
    (sourceStates : after.sourceStates = before.sourceStates ++ [onAttr.state])
    (event : after.event = some ⟨onAttr.event, payloadType method⟩)
    (isTimeoutHandler : after.isTimeoutHandler = before.isTimeoutHandler)
    (stateTimeoutAttr : after.stateTimeoutAttr = before.stateTimeoutAttr) :
    ScanOf crates method (attrs ++ [attr]) after := by
  have moreOn : onAttrs crates (attrs ++ [attr]) = onAttrs crates attrs ++ [onAttr] := by
    rw [onAttrs_append, onAttrs_singleton isOn parsed]
  constructor
  · rw [sourceStates, moreOn, scanned.sourceStates_eq, List.map_append, List.map_singleton]
  · rw [sourceStates]
    exact List.concat_eq_append ▸ scanned.sourceStates_nodup.concat fresh
  · intro earlier earlierMem
    rw [moreOn] at earlierMem
    rcases List.mem_append.mp earlierMem with earlierMem | earlierMem
    · have declared := scanned.event_eq earlier earlierMem
      rw [event, ← sameEvent _ declared]
    · rw [List.mem_singleton.mp earlierMem, event]
  · intro empty
    simp [moreOn] at empty
  · rw [isTimeoutHandler, scanned.isTimeoutHandler_eq]
    simp [Attribute.isIdent_unique isOn (by decide : "on" ≠ "on_timeout")]
  · rw [stateTimeoutAttr, scanned.stateTimeoutAttr_eq, stateTimeoutAttrs_append,
      stateTimeoutAttrs_singleton_of_not
        (Attribute.isIdent_unique isOn (by decide : "on" ≠ "state_timeout")),
      List.append_nil]

theorem ScanOf.scanAttr {before after : AttrScan}
    (scanned : ScanOf crates method attrs before)
    (step : scanAttr crates method before attr = .ok after) :
    ScanOf crates method (attrs ++ [attr]) after := by
  have keepsTimeout (notTimeout : attr.isIdent "state_timeout" = false) :
      before.stateTimeoutAttr = (stateTimeoutAttrs crates (attrs ++ [attr])).getLast? := by
    rw [scanned.stateTimeoutAttr_eq, stateTimeoutAttrs_append,
      stateTimeoutAttrs_singleton_of_not notTimeout, List.append_nil]
  unfold TokioFsm.scanAttr at step
  split at step
  next isOn =>
    obtain ⟨onAttr, parsed, step⟩ := bind_eq_ok_iff.mp step
    split at step
    next => cases step
    next fresh =>
      split at step
      next existing found =>
        split at step
        next => cases step
        next sameName =>
          have sameName : existing.name = onAttr.event := not_not.mp sameName
          obtain rfl := Except.ok.inj step
          refine scanned.on isOn parsed fresh ?_ rfl ?_ rfl rfl
          · intro other otherFound
            rw [found] at otherFound
            rw [← Option.some.inj otherFound, sameName]
          · -- the event seen before carries the payload type of the same method
            have declared : onAttrs crates attrs ≠ [] := fun empty => by
              simp [scanned.event_none empty] at found
            obtain ⟨earlier, earlierMem⟩ := List.exists_mem_of_ne_nil _ declared
            have earlierEvent := scanned.event_eq earlier earlierMem
            rw [found] at earlierEvent
            obtain rfl := Option.some.inj earlierEvent
            rw [← sameName]
            exact found
      next missing =>
        obtain rfl := Except.ok.inj step
        exact scanned.on isOn parsed fresh (by simp [missing]) rfl rfl rfl rfl
  next notOn =>
    have notOn : attr.isIdent "on" = false := Bool.eq_false_iff.mpr notOn
    split at step
    next isTimeout =>
      obtain rfl := Except.ok.inj step
      exact scanned.other notOn rfl rfl (by simp [isTimeout])
        (keepsTimeout (Attribute.isIdent_unique isTimeout (by decide)))
    next notTimeout =>
      have notTimeout : attr.isIdent "on_timeout" = false := Bool.eq_false_iff.mpr notTimeout
      split at step
      next isStateTimeout =>
        obtain ⟨stateTimeoutAttr, parsed, step⟩ := bind_eq_ok_iff.mp step
        obtain rfl := Except.ok.inj step
        refine scanned.other notOn rfl rfl (by simp [notTimeout]) ?_
        rw [stateTimeoutAttrs_append, stateTimeoutAttrs_singleton isStateTimeout parsed,
          List.getLast?_concat]
      next notStateTimeout =>
        obtain rfl := Except.ok.inj step
        exact scanned.other notOn rfl rfl (by simp [notTimeout])
          (keepsTimeout (Bool.eq_false_iff.mpr notStateTimeout))

theorem scanAttrs_scanOf {scan : AttrScan} (scanned : scanAttrs crates method = .ok scan) :
    ScanOf crates method method.attrs scan :=
  foldlM_invariant (ScanOf crates method) scanned
    ⟨rfl, List.nodup_nil, by simp [onAttrs], fun _ => rfl, rfl, rfl⟩
    fun _ _ _ _ previous step => previous.scanAttr step

end Scanning

/-! ## What a return type declares -/

theorem parseResultReturn_arity {segment : PathSegment} {ty : SynType}
    {returnKind : Option HandlerReturnKind} {returnStates : List State}
    (parsed : parseResultReturn segment ty = .ok (returnKind, returnStates)) :
    ∃ kind, returnKind = some kind ∧ returnStates.length = kind.arity := by
  unfold parseResultReturn at parsed
  split at parsed
  next args =>
    split at parsed
    next okType errType =>
      split at parsed
      next => cases parsed
      next okState =>
        split at parsed
        next errState =>
          cases parsed
          exact ⟨.resultTransition, rfl, rfl⟩
        next =>
          cases parsed
          exact ⟨.resultError, rfl, rfl⟩
    next => cases parsed
  next => cases parsed

/-- A return type that is accepted has a kind, and names as many states as its
kind demands. -/
theorem parseHandlerReturn_arity {output : ReturnType}
    {returnKind : Option HandlerReturnKind} {returnStates : List State}
    (parsed : parseHandlerReturn output = .ok (returnKind, returnStates)) :
    ∃ kind, returnKind = some kind ∧ returnStates.length = kind.arity := by
  unfold parseHandlerReturn at parsed
  split at parsed
  next ty =>
    unfold parseReturnKind at parsed
    split at parsed
    next => cases parsed
    next segments =>
      split at parsed
      next => cases parsed
      next segment =>
        split at parsed
        next =>
          obtain ⟨state, -, parsed⟩ := bind_eq_ok_iff.mp parsed
          cases parsed
          exact ⟨.transition, rfl, rfl⟩
        next =>
          split at parsed
          next => exact parseResultReturn_arity parsed
          next => cases parsed
  next => cases parsed

/-! ## What a parsed handler is like -/

/-- The handler declares that it handles the event in the state. -/
def Handler.Handles (handler : Handler) (state event : Ident) : Prop :=
  state ∈ handler.sourceStates ∧
    (handler.event.map Event.name = some event)

instance (handler : Handler) (state event : Ident) :
    Decidable (handler.Handles state event) := by
  unfold Handler.Handles
  infer_instance

theorem Handler.Handles.event_isSome {handler : Handler} {state event : Ident}
    (handles : handler.Handles state event) : handler.event.isSome := by
  rcases Option.map_eq_some_iff.mp handles.2 with ⟨declared, eventEq, -⟩
  rw [eventEq]
  rfl

/-- The names of the states in the handler's return type. -/
def Handler.targets (handler : Handler) : List Ident :=
  handler.returnStates.map State.name

/-- What parsing guarantees about a handler by itself. -/
structure Handler.WellFormed (handler : Handler) : Prop where
  returnKind_of_trigger : handler.event.isSome ∨ handler.isTimeoutHandler = true →
    ∃ kind, handler.returnKind = some kind ∧ handler.returnStates.length = kind.arity
  inert : handler.event = none → handler.isTimeoutHandler = false →
    handler.returnKind = none ∧ handler.returnStates = []
  exclusive : handler.event.isSome → handler.isTimeoutHandler = false
  sourceStates_nodup : handler.sourceStates.Nodup
  sourceStates_eq_nil_iff : handler.sourceStates = [] ↔ handler.event = none
  payloadType_eq : ∀ event, handler.event = some event →
    event.payloadType = payloadType handler.method
  hasPayload_eq : handler.hasPayload =
    (handler.event.map fun event => event.payloadType.isSome).getD false

/-- What handles something names a state to go to. -/
theorem Handler.WellFormed.exists_target {handler : Handler} (wellFormed : handler.WellFormed)
    (trigger : handler.event.isSome ∨ handler.isTimeoutHandler = true) :
    ∃ target, target ∈ handler.targets := by
  rcases wellFormed.returnKind_of_trigger trigger with ⟨kind, -, arity⟩
  apply List.exists_mem_of_length_pos
  rw [targets, List.length_map, arity]
  cases kind with
  | transition | resultTransition | resultError => decide

/-- What parsing a method reads off its attributes and its return type. -/
structure ParsedFrom (crates : Crates) (method : ImplItemFn) (handler : Handler) :
    Prop where
  wellFormed : handler.WellFormed
  method_eq : handler.method = method
  asyncness : method.sig.asyncness = true
  handles_iff : ∀ state event,
    ⟨state, event⟩ ∈ onAttrs crates method.attrs ↔ handler.Handles state event
  isTimeoutHandler_eq :
    handler.isTimeoutHandler = method.attrs.any fun attr => attr.isIdent "on_timeout"
  timeout_eq : parseTimeout crates (stateTimeoutAttrs crates method.attrs).getLast? =
    .ok handler.timeout

theorem ScanOf.handles_iff {crates : Crates} {method : ImplItemFn} {scan : AttrScan}
    (scanned : ScanOf crates method method.attrs scan) (state event : Ident) :
    ⟨state, event⟩ ∈ onAttrs crates method.attrs ↔
      state ∈ scan.sourceStates ∧ scan.event.map Event.name = some event := by
  rw [scanned.sourceStates_eq]
  constructor
  · intro declared
    exact ⟨List.mem_map.mpr ⟨_, declared, rfl⟩, by rw [scanned.event_eq _ declared]; rfl⟩
  · rintro ⟨stateMem, eventEq⟩
    obtain ⟨⟨state', event'⟩, declared, rfl⟩ := List.mem_map.mp stateMem
    rw [scanned.event_eq _ declared] at eventEq
    obtain rfl : event' = event := by simpa using eventEq
    exact declared

theorem ScanOf.sourceStates_eq_nil_iff {crates : Crates} {method : ImplItemFn}
    {scan : AttrScan} (scanned : ScanOf crates method method.attrs scan) :
    scan.sourceStates = [] ↔ scan.event = none := by
  rw [scanned.sourceStates_eq, List.map_eq_nil_iff]
  constructor
  · exact scanned.event_none
  · intro noEvent
    by_contra declared
    obtain ⟨onAttr, onAttrMem⟩ := List.exists_mem_of_ne_nil _ declared
    simp [scanned.event_eq onAttr onAttrMem] at noEvent

/-- The outcome of parsing a method, by the outcomes of its parts. -/
theorem Handler.parse_eq_ok_iff {crates : Crates} {method : ImplItemFn} {handler : Handler} :
    Handler.parse crates method = .ok handler ↔
      method.sig.asyncness = true ∧ ∃ scan timeout returnKind returnStates,
        scanAttrs crates method = .ok scan ∧
          parseTimeout crates scan.stateTimeoutAttr = .ok timeout ∧
            scan.parseReturn method.sig.output = .ok (returnKind, returnStates) ∧
              (scan.event.isSome && scan.isTimeoutHandler) = false ∧
                handler = {
                  method
                  event := scan.event
                  isTimeoutHandler := scan.isTimeoutHandler
                  returnStates
                  returnKind
                  sourceStates := scan.sourceStates
                  hasPayload := (scan.event.map fun event => event.payloadType.isSome).getD false
                  timeout } := by
  unfold Handler.parse
  split
  next notAsync => simp [notAsync]
  next isAsync =>
    have isAsync : method.sig.asyncness = true := by simpa using isAsync
    constructor
    · intro parsed
      obtain ⟨scan, scanned, parsed⟩ := bind_eq_ok_iff.mp parsed
      obtain ⟨timeout, timeoutParsed, parsed⟩ := bind_eq_ok_iff.mp parsed
      obtain ⟨⟨returnKind, returnStates⟩, returnParsed, parsed⟩ := bind_eq_ok_iff.mp parsed
      dsimp only at parsed
      split at parsed
      next => cases parsed
      next exclusive =>
        obtain rfl := Except.ok.inj parsed
        exact ⟨isAsync, scan, timeout, returnKind, returnStates, scanned, timeoutParsed,
          returnParsed, Bool.eq_false_iff.mpr exclusive, rfl⟩
    · rintro ⟨-, scan, timeout, returnKind, returnStates, scanned, timeoutParsed, returnParsed,
        exclusive, rfl⟩
      simp only [scanned, timeoutParsed, returnParsed, ok_bind, exclusive, Bool.false_eq_true,
        if_false, pure_eq_ok]

/-- Everything later passes use about a parsed handler. -/
theorem Handler.parse_parsedFrom {crates : Crates} {method : ImplItemFn}
    {handler : Handler} (parsed : Handler.parse crates method = .ok handler) :
    ParsedFrom crates method handler := by
  obtain ⟨isAsync, scan, timeout, returnKind, returnStates, scanned, timeoutParsed,
    returnParsed, exclusive, rfl⟩ := Handler.parse_eq_ok_iff.mp parsed
  have scanned := scanAttrs_scanOf scanned
  rw [scanned.stateTimeoutAttr_eq] at timeoutParsed
  refine ⟨⟨?_, ?_, ?_, scanned.sourceStates_nodup, scanned.sourceStates_eq_nil_iff,
    ?_, rfl⟩, rfl, isAsync, scanned.handles_iff, scanned.isTimeoutHandler_eq, timeoutParsed⟩
  · intro (trigger : scan.event.isSome ∨ scan.isTimeoutHandler = true)
    rw [AttrScan.parseReturn, if_pos (by simpa using trigger)] at returnParsed
    exact parseHandlerReturn_arity returnParsed
  · intro (noEvent : scan.event = none) (notTimeout : scan.isTimeoutHandler = false)
    rw [AttrScan.parseReturn, if_neg (by simp [noEvent, notTimeout])] at returnParsed
    cases returnParsed
    exact ⟨rfl, rfl⟩
  · intro (isEvent : scan.event.isSome)
    simpa [isEvent] using exclusive
  · intro event (eventEq : scan.event = some event)
    have declared : onAttrs crates method.attrs ≠ [] := fun empty => by
      simp [scanned.event_none empty] at eventEq
    obtain ⟨onAttr, onAttrMem⟩ := List.exists_mem_of_ne_nil _ declared
    have found := scanned.event_eq onAttr onAttrMem
    rw [eventEq] at found
    rw [Option.some.inj found]

end TokioFsm
