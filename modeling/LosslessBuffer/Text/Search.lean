/-!
# Searching text

Whether one sequence occurs in another as a run of consecutive elements (`occursIn`);
the empty sequence occurs in every sequence. Texts are searched as their characters or
as their bytes.
-/

set_option autoImplicit false

namespace LosslessBuffer.Text

/-- Whether `needle` occurs in `hay` as a run of consecutive elements. -/
def occursIn {α : Type} [BEq α] (needle : List α) : List α → Bool
  | [] => needle.isEmpty
  | c :: rest => needle.isPrefixOf (c :: rest) || occursIn needle rest

end LosslessBuffer.Text
