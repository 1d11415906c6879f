import LosslessBuffer.Fault
import LosslessBuffer.Text.Bytes
/-!
# ASIC families

The switch ASIC families with their static buffer parameters: bytes per memory cell,
the number of parallel memory engines, and how the shared buffer of the ingress lossless
pool is accounted.

* Engine-divided families split the pool evenly across their engines.
* Subtractive families carve the static allocations of queues and priority groups out
  of the pool; on `td2` the priority-group minimum is half the reset offset.
-/

set_option autoImplicit false

namespace LosslessBuffer

/-- The supported ASIC families. -/
inductive Family where
  | td2
  | td3
  | th
  | th2
  | th3
  deriving DecidableEq, Repr

/-- How the shared buffer of the ingress lossless pool is accounted. -/
inductive Accounting where
  /-- The pool is split evenly across the memory engines. -/
  | engineDivided
  /-- Static allocations are subtracted from the pool. -/
  | subtractive
  deriving DecidableEq, Repr

/-- The name of an accounting method. -/
def Accounting.name : Accounting → String
  | .engineDivided => "engine-divided"
  | .subtractive => "subtractive"

/-- The name of a family. -/
def Family.name : Family → String
  | .td2 => "td2"
  | .td3 => "td3"
  | .th => "th"
  | .th2 => "th2"
  | .th3 => "th3"

/-- The families in name order. -/
def Family.all : List Family := [.td2, .td3, .th, .th2, .th3]

/-- The family of a name, if it is one. -/
def Family.ofName? (name : String) : Option Family :=
  Family.all.find? (·.name == name)

/-- Bytes per memory cell. -/
def Family.cellSize : Family → Int64
  | .td2 => 208
  | .td3 => 256
  | .th => 208
  | .th2 => 208
  | .th3 => 208

/-- Parallel memory engines. -/
def Family.engineCount : Family → Int64
  | .td2 => 1
  | .td3 => 1
  | .th => 4
  | .th2 => 4
  | .th3 => 2

/-- The accounting method of a family. -/
def Family.accounting : Family → Accounting
  | .td2 => .subtractive
  | .td3 => .subtractive
  | .th => .engineDivided
  | .th2 => .engineDivided
  | .th3 => .engineDivided

/-- The static buffer parameters of a family, as reported. -/
structure AsicProfile where
  family : String
  cellSizeBytes : Int64
  engineCount : Int64
  deriving Repr, DecidableEq

/-- The parameters of a family. -/
def Family.profile (f : Family) : AsicProfile :=
  ⟨f.name, f.cellSize, f.engineCount⟩

/-- The family names in sorted order. -/
def familyNames : List String := Family.all.map Family.name

/-- The family names as a bracketed, space-separated list. -/
def familyList : String := "[" ++ " ".intercalate familyNames ++ "]"

/-- The family of a name, or the fault of an unknown family listing the known ones. -/
def Family.lookup (name : Text.Bytes) : Except Fault Family :=
  match name.toString?.bind Family.ofName? with
  | some f => .ok f
  | none => .error (.broken .unknownAsicFamily (name.quote ++ " (known: " ++ familyList ++ ")"))

/-- The accounting method of a family name, or the fault of an unknown family. -/
def accountingOf (name : String) : Except Fault Accounting :=
  match Family.ofName? name with
  | some f => .ok f.accounting
  | none => .error (.broken .unknownAsicFamily (Text.quote name))

end LosslessBuffer
