import LosslessBuffer.Text.Integer
import LosslessBuffer.Text.Quoted
/-!
# Faults

Why a computation of lossless-buffer thresholds, or the reading of one of its inputs,
stops without an answer.

A fault is either a broken rule of the domain (`Cause`), with a detail naming what broke
it, or a problem with an input document: values of the wrong type, text that is not a
well-formed document, a number that does not read, or a plain complaint. Faults nest:
each step that passes a fault on may put a context in front of it (`Fault.within`).

The message of a fault is the detail, a colon, and the fixed phrase of its cause
(`Fault.message`); contexts stand in front, each followed by a colon.
-/

set_option autoImplicit false

namespace LosslessBuffer

/-- The rules of the domain that a computation can break. -/
inductive Cause where
  /-- Fewer than two scenarios to choose a reference from. -/
  | insufficientReferenceData
  | unknownAsicFamily
  /-- A buffer pool that is not in dynamic mode. -/
  | unsupportedPoolMode
  /-- A negative byte or cell quantity. -/
  | invalidSize
  | missingProfileReference
  | missingPool
  /-- A buffer profile without xoff or xon_offset. -/
  | incompleteProfile
  | missingSubProfile
  | invalidDynamicThreshold
  /-- Static allocations exceed the shared buffer. -/
  | bufferOvercommitted
  | invalidScenarioKey
  | missingInput
  | noFamilyStrategies
  | unknownOverrideGate
  deriving DecidableEq, Repr

/-- The fixed phrase that ends the message of a broken rule. -/
def Cause.phrase : Cause → String
  | .insufficientReferenceData => "insufficient reference scenarios"
  | .unknownAsicFamily => "unknown asic family"
  | .unsupportedPoolMode => "unsupported buffer pool mode"
  | .invalidSize => "invalid size"
  | .missingProfileReference => "missing buffer profile reference"
  | .missingPool => "missing buffer pool"
  | .incompleteProfile => "incomplete buffer profile"
  | .missingSubProfile => "missing sub-profile"
  | .invalidDynamicThreshold => "invalid dynamic threshold"
  | .bufferOvercommitted => "buffer pool overcommitted"
  | .invalidScenarioKey => "invalid scenario key"
  | .missingInput => "missing required input"
  | .noFamilyStrategies => "no asic family strategies registered"
  | .unknownOverrideGate => "unknown override gate"

/-- Why a computation or the reading of an input stopped. -/
inductive Fault where
  /-- A rule of the domain was broken; the detail says by what. -/
  | broken (cause : Cause) (detail : String)
  /-- Document values had the wrong type; one line per value. -/
  | mismatched (problems : List String)
  /-- The document text, a tag or an anchor could not be read; the full message. -/
  | unreadable (message : String)
  | notInteger (text : String) (problem : Text.IntegerProblem)
  | plain (message : String)
  /-- The reader itself broke down on the document, as a program crash; the message
  says how. It is not a complaint about the document, so no context is put in front. -/
  | crashed (message : String)
  | within (context : String) (inner : Fault)
  deriving Repr

/-- The fault at the root, under all contexts. -/
def Fault.root : Fault → Fault
  | .within _ inner => inner.root
  | other => other

/-- The full message of a fault. A crash is shown alone, without the contexts around it. -/
def Fault.message : Fault → String
  | .broken cause detail => detail ++ ": " ++ cause.phrase
  | .mismatched problems => "yaml: unmarshal errors:\n  " ++ "\n  ".intercalate problems
  | .unreadable message => message
  | .notInteger text problem =>
    "strconv.ParseInt: parsing " ++ Text.quote text ++ ": " ++ problem.phrase
  | .plain message => message
  | .crashed message => message
  | .within context inner =>
    match inner.root with
    | .crashed message => message
    | _ => context ++ ": " ++ inner.message

/-- The broken rule at the root of a fault, if there is one. -/
def Fault.cause? : Fault → Option Cause
  | .broken cause _ => some cause
  | .within _ inner => inner.cause?
  | _ => none


end LosslessBuffer
