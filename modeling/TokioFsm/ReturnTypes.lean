import TokioFsm.ProgramClosure

/-!
# The return types the macro reads

A handler returns `Transition<State>`, or a `Result` whose first type argument
is a transition; whether the second one is a transition as well decides what
the kind of the handler is.  The nested matches of the parser accept exactly
these types and find in each what it names.
-/

namespace TokioFsm

open Fallible

/-- What a return type says: the kind of the handler and the states it names. -/
inductive ReturnType.Reads : ReturnType → HandlerReturnKind → List State → Prop
  | transition {ty : SynType} {state : State} : ty.TransitionTo state.name →
      Reads (.type ty) .transition [state]
  | resultTransition {qself : Option String} {leadingColon : Bool} {segments : List PathSegment}
      {turbofish comma : Bool} {args : List GenericArgument} {okType errType : SynType}
      {okState errState : State} :
      segments.getLast? = some (.mk "Result" (.angleBracketed turbofish args comma)) →
        typeArgs args = [okType, errType] → okType.TransitionTo okState.name →
          errType.TransitionTo errState.name →
            Reads (.type (.path qself leadingColon segments)) .resultTransition [okState, errState]
  | resultError {qself : Option String} {leadingColon : Bool} {segments : List PathSegment}
      {turbofish comma : Bool} {args : List GenericArgument} {okType errType : SynType}
      {okState : State} :
      segments.getLast? = some (.mk "Result" (.angleBracketed turbofish args comma)) →
        typeArgs args = [okType, errType] → okType.TransitionTo okState.name →
          (∀ state, ¬ errType.TransitionTo state) →
            Reads (.type (.path qself leadingColon segments)) .resultError [okState]

/-- A type that is no transition is refused as one. -/
theorem extractTransitionState_eq_error_iff {ty : SynType} :
    (∃ failure, extractTransitionState ty = .error failure) ↔
      ∀ state, ¬ ty.TransitionTo state := by
  constructor
  · rintro ⟨failure, failed⟩ state transitionTo
    have extracted : extractTransitionState ty = .ok ⟨state⟩ :=
      extractTransitionState_eq_ok_iff.mpr transitionTo
    rw [extracted] at failed
    cases failed
  · intro noTransition
    cases extracted : extractTransitionState ty with
    | error failure => exact ⟨failure, rfl⟩
    | ok state =>
        exact absurd (extractTransitionState_eq_ok_iff.mp extracted) (noTransition state.name)

theorem parseResultReturn_eq_ok_iff {qself : Option String} {leadingColon : Bool}
    {segments : List PathSegment} {segment : PathSegment} {ty : SynType}
    {returnKind : Option HandlerReturnKind} {returnStates : List State}
    (last : segments.getLast? = some segment)
    (isResult : segment.ident = "Result") :
    parseResultReturn segment ty = .ok (returnKind, returnStates) ↔
      ∃ kind, returnKind = some kind ∧
        (ReturnType.type (.path qself leadingColon segments)).Reads kind returnStates := by
  rcases segment with ⟨name, arguments⟩
  obtain rfl : name = "Result" := isResult
  constructor
  · intro parsed
    unfold parseResultReturn at parsed
    split at parsed
    next turbofish args comma argumentsEq =>
      obtain rfl : arguments = .angleBracketed turbofish args comma := argumentsEq
      split at parsed
      next okType errType typed =>
        split at parsed
        next => cases parsed
        next okState okEq =>
          have okTransition := extractTransitionState_eq_ok_iff.mp okEq
          split at parsed
          next errState errEq =>
            cases parsed
            exact ⟨_, rfl, .resultTransition last typed okTransition
              (extractTransitionState_eq_ok_iff.mp errEq)⟩
          next failure errEq =>
            cases parsed
            exact ⟨_, rfl, .resultError last typed okTransition
              (extractTransitionState_eq_error_iff.mp ⟨failure, errEq⟩)⟩
      next => cases parsed
    next => cases parsed
  · rintro ⟨kind, rfl, reads⟩
    cases reads with
    | transition transitionTo =>
        rcases transitionTo with ⟨isTransition⟩
        simp [last] at isTransition
    | resultTransition last' typed okTransition errTransition =>
        rw [last] at last'
        cases last'
        simp only [parseResultReturn, PathSegment.arguments, typed,
          extractTransitionState_eq_ok_iff.mpr okTransition,
          extractTransitionState_eq_ok_iff.mpr errTransition]
    | resultError last' typed okTransition noTransition =>
        rw [last] at last'
        cases last'
        obtain ⟨failure, failed⟩ := extractTransitionState_eq_error_iff.mpr noTransition
        simp only [parseResultReturn, PathSegment.arguments, typed,
          extractTransitionState_eq_ok_iff.mpr okTransition, failed]

/-- The parser of return types accepts what the grammar derives. -/
theorem parseHandlerReturn_eq_ok_iff {output : ReturnType}
    {returnKind : Option HandlerReturnKind} {returnStates : List State} :
    parseHandlerReturn output = .ok (returnKind, returnStates) ↔
      ∃ kind, returnKind = some kind ∧ output.Reads kind returnStates := by
  cases output with
  | default =>
      constructor
      · intro parsed
        cases parsed
      · rintro ⟨kind, -, reads⟩
        cases reads
  | type ty =>
      cases ty with
      | other tokens =>
          constructor
          · intro parsed
            cases parsed
          · rintro ⟨kind, -, reads⟩
            cases reads with
            | transition transitionTo => cases transitionTo
      | path qself leadingColon segments =>
          rw [parseHandlerReturn, parseReturnKind]
          cases last : segments.getLast? with
          | none =>
              constructor
              · intro parsed
                cases parsed
              · rintro ⟨kind, -, reads⟩
                cases reads with
                | transition transitionTo =>
                    rcases transitionTo with ⟨isTransition⟩
                    rw [last] at isTransition
                    cases isTransition
                | resultTransition isResult | resultError isResult =>
                    rw [last] at isResult
                    cases isResult
          | some segment =>
              dsimp only
              by_cases isTransition : segment.ident = "Transition"
              · rw [if_pos isTransition, bind_eq_ok_iff]
                constructor
                · rintro ⟨state, extracted, parsed⟩
                  cases parsed
                  exact ⟨_, rfl, .transition (extractTransitionState_eq_ok_iff.mp extracted)⟩
                · rintro ⟨kind, rfl, reads⟩
                  cases reads with
                  | transition transitionTo =>
                      exact ⟨_, extractTransitionState_eq_ok_iff.mpr transitionTo, rfl⟩
                  | resultTransition isResult | resultError isResult =>
                      rw [last] at isResult
                      rw [Option.some.inj isResult] at isTransition
                      simp [PathSegment.ident] at isTransition
              · rw [if_neg isTransition]
                by_cases isResult : segment.ident = "Result"
                · rw [if_pos isResult]
                  exact parseResultReturn_eq_ok_iff last isResult
                · rw [if_neg isResult]
                  constructor
                  · intro parsed
                    cases parsed
                  · rintro ⟨kind, -, reads⟩
                    cases reads with
                    | transition transitionTo =>
                        rcases transitionTo with ⟨last'⟩
                        rw [last] at last'
                        cases last'
                        exact absurd rfl isTransition
                    | resultTransition last' | resultError last' =>
                        rw [last] at last'
                        cases last'
                        exact absurd rfl isResult

/-- A return type says one thing. -/
theorem ReturnType.Reads.unique {output : ReturnType} {first second : HandlerReturnKind}
    {firstStates secondStates : List State} (readsFirst : output.Reads first firstStates)
    (readsSecond : output.Reads second secondStates) :
    first = second ∧ firstStates = secondStates := by
  have parsedFirst := parseHandlerReturn_eq_ok_iff.mpr ⟨first, rfl, readsFirst⟩
  have parsedSecond := parseHandlerReturn_eq_ok_iff.mpr ⟨second, rfl, readsSecond⟩
  rw [parsedFirst] at parsedSecond
  cases parsedSecond
  exact ⟨rfl, rfl⟩

/-- What a marked method is parsed to is what its return type says. -/
theorem Handler.reads_of_parse {crates : Crates} {method : ImplItemFn} {handler : Handler}
    {kind : HandlerReturnKind} (parsed : Handler.parse crates method = .ok handler)
    (kindEq : handler.returnKind = some kind) :
    method.sig.output.Reads kind handler.returnStates := by
  obtain ⟨-, scan, timeout, returnKind, returnStates, -, -, returnParsed, -, rfl⟩ :=
    Handler.parse_eq_ok_iff.mp parsed
  by_cases trigger : (scan.event.isSome || scan.isTimeoutHandler) = true
  · rw [AttrScan.parseReturn, if_pos trigger] at returnParsed
    obtain ⟨read, readEq, reads⟩ := parseHandlerReturn_eq_ok_iff.mp returnParsed
    obtain rfl : returnKind = some kind := kindEq
    cases readEq
    exact reads
  · rw [AttrScan.parseReturn, if_neg trigger] at returnParsed
    cases returnParsed
    cases kindEq

end TokioFsm
