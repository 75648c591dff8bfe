import Mathlib.Logic.Function.Basic

/-!
# What an RTT event adds to its command

The part of `RttCommand::handleEvent` that walks the vendor data of an event:
result payloads are copied to `rttResults`, and the completion flag is the last
`RTT_ATTRIBUTE_RESULTS_COMPLETE` value seen in any event so far.
-/

set_option autoImplicit false

namespace Mt6757.WifiHal

abbrev Payload := List UInt8

/-- Attributes inside `RTT_ATTRIBUTE_RESULTS_PER_TARGET`.  `allocated` says
whether the `malloc` for that result succeeds. -/
inductive RttTargetAttr where
  | targetMac (addr : Payload)
  | resultCnt (value : UInt32)
  | result (payload : Payload) (allocated : Bool)
  | other (type : UInt16)
  deriving DecidableEq, Repr

inductive RttAttr where
  | resultsComplete (value : UInt32)
  | resultsPerTarget (attrs : List RttTargetAttr)
  | other (type : UInt16)

/-- The fields of `RttCommand` that its event handler writes. -/
structure RttState where
  mCompleted : Int32
  currentIdx : Nat
  totalCnt : Nat
  rttResults : Nat → Option Payload

namespace RttState

def fresh : RttState := ⟨0, 0, 0, fun _ => none⟩

def handleTarget : List RttTargetAttr → RttState → RttState
  | [], state => state
  | .result payload true :: rest, state =>
      handleTarget rest
        { state with
          rttResults := Function.update state.rttResults state.currentIdx (some payload)
          totalCnt := state.totalCnt + 1
          currentIdx := state.currentIdx + 1 }
  -- the `break` of a failed allocation leaves the rest of this container unread
  | .result _ false :: _, state =>
      { state with
        rttResults := Function.update state.rttResults state.currentIdx none
        mCompleted := 1 }
  | .targetMac _ :: rest, state => handleTarget rest state
  | .resultCnt _ :: rest, state => handleTarget rest state
  | .other _ :: rest, state => handleTarget rest state

def handleAttrs : List RttAttr → RttState → RttState
  | [], state => state
  | .resultsComplete value :: rest, state =>
      handleAttrs rest { state with mCompleted := value.toInt32 }
  | .resultsPerTarget attrs :: rest, state => handleAttrs rest (handleTarget attrs state)
  | .other _ :: rest, state => handleAttrs rest state

def clear (state : RttState) : RttState :=
  { state with
    totalCnt := 0
    currentIdx := 0
    rttResults := fun i => if i < state.currentIdx then none else state.rttResults i }

end RttState

end Mt6757.WifiHal
