import LosslessBuffer.Asic.Family
import LosslessBuffer.Buffer.Config
import LosslessBuffer.Buffer.BindingKey
import LosslessBuffer.Quantizer
import LosslessBuffer.Trace
/-!
# Shared-buffer accounting

How many cells of the ingress lossless pool are shared, by family:

* engine-divided: the pool size in cells divided by the number of memory engines, the
  remainder belonging to no engine;
* subtractive: the pool size in cells, less the pool's headroom (`xoff`), less
  `size · width` cells for every egress queue range bound to an `egress_lossless*` or
  `egress_lossy*` profile and every priority-group range bound to a
  `pg_lossless_*_profile` profile.

Bindings are visited table by table, in key order. A binding whose key has no port and
index range, or whose profile is not configured, is skipped with a record of why; a
binding to any other profile takes no part. Every quantity is a signed 64-bit word.

The minimum of a lossless priority group is its profile size, except on `td2`, where it
is half the reset offset.
-/

set_option autoImplicit false

namespace LosslessBuffer

open LosslessBuffer.Text

/-- The shared cells of the ingress lossless pool, with their derivation. -/
structure SharedBuffer where
  cells : Int64
  terms : List AccountingTerm
  skips : List SkipRecord := []
  deriving Repr

/-- Whether a profile is an egress profile that takes part in subtractive accounting. -/
def isEgressProfile (name : Bytes) : Bool :=
  name.startsWith "egress_lossless" || name.startsWith "egress_lossy"

/-- Whether `pattern` occurs in `text` at its start. -/
def startsWithChars (text pattern : List Char) : Bool :=
  text.take pattern.length == pattern

/-- Whether `_profile` occurs in a line segment (no line break before it). -/
def hasProfileSuffix : List Char → Bool
  | [] => false
  | c :: rest =>
    if startsWithChars (c :: rest) "_profile".toList then true
    else if c = '\n' then false
    else hasProfileSuffix rest

/-- Whether a name contains `pg_lossless_`, later followed on the same line by
`_profile`; a byte that starts no UTF-8 character counts as one character between them. -/
def isLosslessPgProfile (name : Bytes) : Bool :=
  go name.lossy.toList
where
  go : List Char → Bool
    | [] => false
    | c :: rest =>
      let here := c :: rest
      (startsWithChars here "pg_lossless_".toList &&
          hasProfileSuffix (here.drop "pg_lossless_".length)) || go rest

/-- The cells of a byte quantity, with the fault put in a context. -/
def Quantizer.cellsIn (q : Quantizer) (context : String) (bytes : Int64) :
    Except Fault Int64 :=
  match q.bytesToCells bytes with
  | .ok cells => .ok cells
  | .error fault => .error (.within context fault)

/-- Subtracts the bindings of one table from an accounting, in key order. -/
def SharedBuffer.subtractBindings (table : String) (bindings : List (Bytes × Binding))
    (profiles : Std.TreeMap Bytes Profile) (matches_ : Bytes → Bool) (q : Quantizer) :
    SharedBuffer → Except Fault SharedBuffer
  | start =>
    bindings.foldlM (fun acct (key, binding) => do
      let name := profileName binding.profile
      match BindingRange.parse? key with
      | none =>
        return { acct with skips := acct.skips ++ [⟨table, key, name, "unrecognized binding key"⟩] }
      | some range =>
        match profiles.get? name with
        | none =>
          return { acct with
            skips := acct.skips ++ [⟨table, key, name, Cause.missingProfileReference.phrase⟩] }
        | some profile =>
          if !matches_ name then return acct
          else
            let cells ← q.cellsIn (table ++ "|" ++ key.lossy ++ " profile " ++ name.lossy)
              profile.size
            return { acct with
              cells := acct.cells - cells * range.width
              terms := acct.terms ++
                [{ label := table ++ "|" ++ key.lossy, profile := name, bytes := profile.size,
                   multiplier := range.width, cells := -cells * range.width }] }) start

/-- Engine-divided accounting of a pool. -/
def engineDividedShare (family : Family) (pool : Pool) (q : Quantizer) :
    Except Fault SharedBuffer := do
  let poolCells ← q.cellsIn (ingressLosslessPool ++ ".size") pool.size
  let cells := poolCells / family.engineCount
  return { cells, terms := [{ label := ingressLosslessPool ++ ".size/xpe_count",
                              bytes := pool.size, multiplier := 1, cells }] }

/-- Subtractive accounting of a pool under a buffer configuration. -/
def subtractiveShare (cfg : BufferConfig) (pool : Pool) (q : Quantizer) :
    Except Fault SharedBuffer := do
  let poolCells ← q.cellsIn (ingressLosslessPool ++ ".size") pool.size
  let xoff := pool.xoff.getD 0
  let xoffCells ← q.cellsIn (ingressLosslessPool ++ ".xoff") xoff
  let start : SharedBuffer :=
    { cells := poolCells - xoffCells
      terms := [{ label := ingressLosslessPool ++ ".size", bytes := pool.size,
                  multiplier := 1, cells := poolCells },
                { label := ingressLosslessPool ++ ".xoff", bytes := xoff,
                  multiplier := 1, cells := -xoffCells }] }
  let afterQueues ← start.subtractBindings "BUFFER_QUEUE" cfg.queues.toList cfg.profiles
    isEgressProfile q
  afterQueues.subtractBindings "BUFFER_PG" cfg.pgs.toList cfg.profiles isLosslessPgProfile q

/-- The shared cells of the ingress lossless pool for a family. -/
def Family.sharedBuffer (family : Family) (cfg : BufferConfig) (pool : Pool) (q : Quantizer) :
    Except Fault SharedBuffer :=
  match family.accounting with
  | .engineDivided => engineDividedShare family pool q
  | .subtractive => subtractiveShare cfg pool q

/-- The minimum of a lossless priority group, from its profile size and reset offset in
cells. -/
def Family.pgMinCells (family : Family) (sizeCells resetOffsetCells : Int64) : Int64 :=
  if family = .td2 then resetOffsetCells / 2 else sizeCells

end LosslessBuffer
