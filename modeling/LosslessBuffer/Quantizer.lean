import LosslessBuffer.Fault
/-!
# Cells

Switch buffers are allocated in whole cells. A byte quantity takes the least number of
cells that holds it: `(n + c - 1) / c` for a cell size `c`, computed in signed 64-bit
words. A negative quantity is an invalid size, and so is a cell size that is not
positive.
-/

set_option autoImplicit false

namespace LosslessBuffer

/-- Converts byte quantities to cells of a positive size. -/
structure Quantizer where
  cellSize : Int64
  positive : 0 < cellSize

/-- The quantizer for a cell size, which must be positive. -/
def Quantizer.ofCellSize (cellSize : Int64) : Except Fault Quantizer :=
  if h : 0 < cellSize then .ok ⟨cellSize, h⟩
  else .error (.broken .invalidSize s!"cell size must be > 0, got {cellSize}")

/-- The number of cells that holds `n` bytes; a partly used cell counts as used. -/
def Quantizer.bytesToCells (q : Quantizer) (n : Int64) : Except Fault Int64 :=
  if n < 0 then .error (.broken .invalidSize s!"bytes_to_cells({n})")
  else .ok ((n + q.cellSize - 1) / q.cellSize)

end LosslessBuffer
