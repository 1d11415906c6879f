import LosslessBuffer.Proofs.Subtractive
import LosslessBuffer.Proofs.Calculation
/-!
# Carve-outs lower the shared buffer, while nothing wraps

A binding key names a range of at least one index (`BindingRange.Written.indexCount_pos`),
so each carved binding takes a number of cells that is not negative, over the integers: its
profile's cells times its index count (`carveExact`). The subtractive accounting works in
64-bit words, and words are the integers modulo `2^64`: as long as each profile size takes its
cells exactly, the word the accounting gives is the integer formula `subtractiveExact`, wrapped
to a word (`subtractiveClosed_cells_eq_ofInt`).

So the carve-outs lower the shared buffer exactly when nothing wraps: each byte count takes
its cells exactly, each carved binding takes fewer than `2^63` cells, and the total stays at
`-2^63` or above (`SubtractiveFits`). Then every term of a binding is zero or negative, and
the shared cells are the integer formula, at most the pool's cells less its headroom's
(`subtractiveShare_exact`).

The width of a range is computed in words as well: the one range of `2^63` indices,
`0-9223372036854775807`, gets the width `-2^63` (`BindingRange.width_exact_iff`), and a
carved binding whose cells times its index count reaches `2^63` comes out positive.
-/

set_option autoImplicit false

namespace LosslessBuffer

open LosslessBuffer.Text SharedBuffer

/-! ## Integer counts -/

/-- The number of indices of a range, over the integers. -/
def BindingRange.indexCount (r : BindingRange) : Int := r.high.toInt - r.low.toInt + 1

/-- The cells a carved binding takes, over the integers: its profile's cells times the index
count of its range. -/
def carveExact (q : Quantizer) (carve : Profile × BindingRange) : Int :=
  cellsOf q.cellSize.toInt carve.1.size.toInt * carve.2.indexCount

/-- The cells the carved bindings of a table take, over the integers. -/
def tableExact (q : Quantizer) (profiles : Std.TreeMap Bytes Profile) (test : Bytes → Bool)
    (bindings : List (Bytes × Binding)) : Int :=
  ((bindings.filterMap (carved profiles test)).map (carveExact q)).sum

/-- The subtractive formula over the integers: the pool's cells, less its headroom's, less
the carve-outs of both tables. -/
def subtractiveExact (cfg : BufferConfig) (pool : Pool) (q : Quantizer) : Int :=
  cellsOf q.cellSize.toInt pool.size.toInt - cellsOf q.cellSize.toInt (pool.xoff.getD 0).toInt
    - tableExact q cfg.profiles isEgressProfile cfg.queues.toList
    - tableExact q cfg.profiles isLosslessPgProfile cfg.pgs.toList

/-- Every carved binding of a table takes its profile's cells exactly, and fewer than `2^63`
cells in all. -/
def CarvesFit (q : Quantizer) (profiles : Std.TreeMap Bytes Profile) (test : Bytes → Bool)
    (bindings : List (Bytes × Binding)) : Prop :=
  ∀ entry ∈ bindings, ∀ carve, carved profiles test entry = some carve →
    carve.1.size.toInt + q.cellSize.toInt ≤ 2 ^ 63 ∧ carveExact q carve < 2 ^ 63

/-- Nothing the subtractive accounting of `pool` computes wraps a word. -/
structure SubtractiveFits (cfg : BufferConfig) (pool : Pool) (q : Quantizer) : Prop where
  size : pool.size.toInt + q.cellSize.toInt ≤ 2 ^ 63
  xoff : (pool.xoff.getD 0).toInt + q.cellSize.toInt ≤ 2 ^ 63
  queues : CarvesFit q cfg.profiles isEgressProfile cfg.queues.toList
  pgs : CarvesFit q cfg.profiles isLosslessPgProfile cfg.pgs.toList
  total : -2 ^ 63 ≤ subtractiveExact cfg pool q

instance (q : Quantizer) (profiles : Std.TreeMap Bytes Profile) (test : Bytes → Bool)
    (bindings : List (Bytes × Binding)) : Decidable (CarvesFit q profiles test bindings) :=
  decidable_of_iff (bindings.all fun entry => (carved profiles test entry).all fun carve =>
      decide (carve.1.size.toInt + q.cellSize.toInt ≤ 2 ^ 63 ∧ carveExact q carve < 2 ^ 63)) (by
    simp only [CarvesFit, List.all_eq_true, Option.all_eq_true, decide_eq_true_eq])

instance (cfg : BufferConfig) (pool : Pool) (q : Quantizer) :
    Decidable (SubtractiveFits cfg pool q) :=
  decidable_of_iff (pool.size.toInt + q.cellSize.toInt ≤ 2 ^ 63 ∧
      (pool.xoff.getD 0).toInt + q.cellSize.toInt ≤ 2 ^ 63 ∧
      CarvesFit q cfg.profiles isEgressProfile cfg.queues.toList ∧
      CarvesFit q cfg.profiles isLosslessPgProfile cfg.pgs.toList ∧
      -2 ^ 63 ≤ subtractiveExact cfg pool q)
    ⟨fun ⟨size, xoff, queues, pgs, total⟩ => ⟨size, xoff, queues, pgs, total⟩,
      fun fits => ⟨fits.size, fits.xoff, fits.queues, fits.pgs, fits.total⟩⟩

theorem BindingRange.Written.indexCount_pos {key : Bytes} {r : BindingRange} (h : Written key r) :
    1 ≤ r.indexCount := by
  have bounds := h.bounds
  unfold indexCount
  omega

theorem cellsOf_nonneg {c n : Int} (cell : 0 < c) (bytes : 0 ≤ n) : 0 ≤ cellsOf c n :=
  Int.ediv_nonneg (by omega) cell.le

theorem cellsOf_le {c n : Int} (cell : 0 < c) (bytes : 0 ≤ n) : cellsOf c n ≤ n := by
  unfold cellsOf
  rw [Int.ediv_le_iff_le_mul cell]
  nlinarith

/-- A carved binding takes no fewer than zero cells. -/
theorem carveExact_nonneg (q : Quantizer) {profiles : Std.TreeMap Bytes Profile}
    {test : Bytes → Bool} {entry : Bytes × Binding} {carve : Profile × BindingRange}
    (carving : carved profiles test entry = some carve) (nonneg : 0 ≤ carve.1.size) :
    0 ≤ carveExact q carve := by
  have written := BindingRange.parse?_eq_some_iff.1 (carved_eq_some_iff.1 carving).1
  exact Int.mul_nonneg (cellsOf_nonneg q.toInt_cellSize_pos (Int64.le_iff_toInt_le.1 nonneg))
    (by have := written.indexCount_pos; omega)

theorem tableExact_nonneg (q : Quantizer) {profiles : Std.TreeMap Bytes Profile}
    {test : Bytes → Bool} {bindings : List (Bytes × Binding)}
    (sizes : ∀ entry ∈ bindings, ∀ carve, carved profiles test entry = some carve →
      0 ≤ carve.1.size) :
    0 ≤ tableExact q profiles test bindings := by
  refine List.sum_nonneg fun e member => ?_
  obtain ⟨carve, found, rfl⟩ := List.mem_map.1 member
  obtain ⟨entry, inside, carving⟩ := List.mem_filterMap.1 found
  exact carveExact_nonneg q carving (sizes entry inside carve carving)

/-! ## Words are the integers modulo `2^64` -/

theorem BindingRange.width_eq_ofInt (r : BindingRange) : r.width = Int64.ofInt r.indexCount := by
  rw [indexCount, Int64.ofInt_add, Int64.ofInt_sub, Int64.ofInt_toInt, Int64.ofInt_toInt]
  rfl

/-- A count of bytes that takes its cells exactly gives the word of their integer. -/
theorem Quantizer.wordCells_eq_ofInt (q : Quantizer) {n : Int64} (nonneg : 0 ≤ n)
    (fits : n.toInt + q.cellSize.toInt ≤ 2 ^ 63) :
    q.wordCells n = Int64.ofInt (cellsOf q.cellSize.toInt n.toInt) := by
  rw [← toInt_bytesToCells (Quantizer.bytesToCells_eq_ok.2 ⟨nonneg, rfl⟩) fits,
    Int64.ofInt_toInt]
  rfl

section Tables

variable {q : Quantizer} {profiles : Std.TreeMap Bytes Profile} {test : Bytes → Bool}

theorem carvedCells_eq_ofInt {carve : Profile × BindingRange} (nonneg : 0 ≤ carve.1.size)
    (fits : carve.1.size.toInt + q.cellSize.toInt ≤ 2 ^ 63) :
    carvedCells q carve = Int64.ofInt (carveExact q carve) := by
  rw [carvedCells, carveExact, Int64.ofInt_mul, q.wordCells_eq_ofInt nonneg fits,
    BindingRange.width_eq_ofInt]

/-- The cells a table takes, in words, are its integer carve-outs wrapped to a word, when each
profile takes its cells exactly. -/
theorem tableCells_eq_ofInt {bindings : List (Bytes × Binding)}
    (sizes : ∀ entry ∈ bindings, ∀ carve, carved profiles test entry = some carve →
      0 ≤ carve.1.size ∧ carve.1.size.toInt + q.cellSize.toInt ≤ 2 ^ 63) :
    tableCells q profiles test bindings = Int64.ofInt (tableExact q profiles test bindings) := by
  induction bindings with
  | nil => rfl
  | cons entry rest ih =>
    have later := ih fun e member => sizes e (List.mem_cons_of_mem _ member)
    cases carving : carved profiles test entry with
    | none =>
      rw [tableCells_cons_of_none carving, later, tableExact, tableExact,
        List.filterMap_cons_none carving]
    | some carve =>
      obtain ⟨nonneg, fits⟩ := sizes entry List.mem_cons_self carve carving
      rw [tableCells_cons_of_some carving, later, tableExact, tableExact,
        List.filterMap_cons_some carving, List.map_cons, List.sum_cons, Int64.ofInt_add,
        carvedCells_eq_ofInt nonneg fits]

/-- The term of a carved binding that takes fewer than `2^63` cells is that many cells taken
off: zero or negative. -/
theorem toInt_carvedTerm (table : String) (entry : Bytes × Binding)
    {carve : Profile × BindingRange} (carving : carved profiles test entry = some carve)
    (nonneg : 0 ≤ carve.1.size) (fits : carve.1.size.toInt + q.cellSize.toInt ≤ 2 ^ 63)
    (small : carveExact q carve < 2 ^ 63) :
    (carvedTerm table q entry carve).cells.toInt = -carveExact q carve := by
  have positive := carveExact_nonneg q carving nonneg
  have term : (carvedTerm table q entry carve).cells = Int64.ofInt (-carveExact q carve) := by
    rw [carvedTerm, Int64.neg_mul, ← carvedCells, carvedCells_eq_ofInt nonneg fits,
      Int64.ofInt_neg]
  rw [term, Int64.toInt_ofInt_of_le] <;> omega

end Tables

/-! ## The pool -/

section Pool

variable {cfg : BufferConfig} {pool : Pool} {q : Quantizer}

/-- A carve-out that fits is one whose profile takes its cells exactly. -/
theorem CarvesFit.sizes {profiles : Std.TreeMap Bytes Profile} {test : Bytes → Bool}
    {bindings : List (Bytes × Binding)} (fit : CarvesFit q profiles test bindings)
    (valid : ¬ NegativeCarve profiles test bindings) :
    ∀ entry ∈ bindings, ∀ carve, carved profiles test entry = some carve →
      0 ≤ carve.1.size ∧ carve.1.size.toInt + q.cellSize.toInt ≤ 2 ^ 63 :=
  fun entry member carve carving =>
    ⟨nonneg_of_not_negativeCarve valid entry member carve carving,
      (fit entry member carve carving).1⟩

/-- Every term of a table whose carve-outs fit takes cells off. -/
theorem CarvesFit.term_nonpos {profiles : Std.TreeMap Bytes Profile} {test : Bytes → Bool}
    {bindings : List (Bytes × Binding)} (fit : CarvesFit q profiles test bindings)
    (valid : ¬ NegativeCarve profiles test bindings) (table : String) {entry : Bytes × Binding}
    (inside : entry ∈ bindings) {carve : Profile × BindingRange}
    (carving : carved profiles test entry = some carve) :
    (carvedTerm table q entry carve).cells.toInt ≤ 0 := by
  obtain ⟨nonneg, fits⟩ := fit.sizes valid entry inside carve carving
  rw [toInt_carvedTerm table entry carving nonneg fits (fit entry inside carve carving).2]
  exact Int.neg_nonpos_of_nonneg (carveExact_nonneg q carving nonneg)

/-- When every byte count takes its cells exactly, the cells of the accounting are its integer
formula wrapped to a word. -/
theorem subtractiveClosed_cells_eq_ofInt (fits : SubtractiveFits cfg pool q)
    (valid : ¬ SubtractiveInvalid cfg pool) :
    (subtractiveClosed cfg pool q).cells = Int64.ofInt (subtractiveExact cfg pool q) := by
  simp only [SubtractiveInvalid, not_or] at valid
  obtain ⟨size, xoff, queues, pgs⟩ := valid
  rw [subtractiveClosed, subtractiveExact, Int64.ofInt_sub, Int64.ofInt_sub, Int64.ofInt_sub,
    ← q.wordCells_eq_ofInt (Int64.not_lt.1 size) fits.size,
    ← q.wordCells_eq_ofInt (Int64.not_lt.1 xoff) fits.xoff,
    ← tableCells_eq_ofInt (fits.queues.sizes queues),
    ← tableCells_eq_ofInt (fits.pgs.sizes pgs)]

/-- The terms after the pool's two are those of carved bindings. -/
theorem mem_bindingTerms {t : AccountingTerm}
    (member : t ∈ (subtractiveClosed cfg pool q).terms.drop 2) :
    ∃ table test bindings, (test = isEgressProfile ∧ bindings = cfg.queues.toList ∨
        test = isLosslessPgProfile ∧ bindings = cfg.pgs.toList) ∧
      ∃ entry ∈ bindings, ∃ carve, carved cfg.profiles test entry = some carve ∧
        t = carvedTerm table q entry carve := by
  simp only [subtractiveClosed, poolTerms, List.cons_append, List.nil_append,
    List.drop_succ_cons, List.drop_zero, List.mem_append, tableTerms, List.mem_filterMap,
    Option.map_eq_some_iff] at member
  rcases member with ⟨entry, inside, carve, carving, rfl⟩ |
    ⟨entry, inside, carve, carving, rfl⟩
  · exact ⟨_, _, _, .inl ⟨rfl, rfl⟩, entry, inside, carve, carving, rfl⟩
  · exact ⟨_, _, _, .inr ⟨rfl, rfl⟩, entry, inside, carve, carving, rfl⟩

/-- When nothing wraps, the subtractive accounting gives its integer formula, at most the
pool's cells less its headroom's, and every term of a binding takes cells off. -/
theorem subtractiveShare_exact (fits : SubtractiveFits cfg pool q) {acct : SharedBuffer}
    (h : subtractiveShare cfg pool q = .ok acct) :
    acct.cells.toInt = subtractiveExact cfg pool q ∧
      subtractiveExact cfg pool q ≤
        cellsOf q.cellSize.toInt pool.size.toInt -
          cellsOf q.cellSize.toInt (pool.xoff.getD 0).toInt ∧
      ∀ t ∈ acct.terms.drop 2, t.cells.toInt ≤ 0 := by
  obtain ⟨valid, rfl⟩ := subtractiveShare_eq_ok h
  have cell := q.toInt_cellSize_pos
  have signs := valid
  simp only [SubtractiveInvalid, not_or] at signs
  obtain ⟨size, xoff, queues, pgs⟩ := signs
  have carvedQueues := tableExact_nonneg q (nonneg_of_not_negativeCarve queues)
  have carvedPgs := tableExact_nonneg q (nonneg_of_not_negativeCarve pgs)
  have xoffCells := cellsOf_nonneg cell (Int64.le_iff_toInt_le.1 (Int64.not_lt.1 xoff))
  have sizeCells := cellsOf_le cell (Int64.le_iff_toInt_le.1 (Int64.not_lt.1 size))
  have word := Int64.toInt_lt pool.size
  have below : subtractiveExact cfg pool q ≤
      cellsOf q.cellSize.toInt pool.size.toInt -
        cellsOf q.cellSize.toInt (pool.xoff.getD 0).toInt := by
    unfold subtractiveExact
    omega
  refine ⟨?_, below, fun t member => ?_⟩
  · rw [subtractiveClosed_cells_eq_ofInt fits valid, Int64.toInt_ofInt_of_le fits.total (by omega)]
  · obtain ⟨table, test, bindings, which, entry, inside, carve, carving, rfl⟩ :=
      mem_bindingTerms member
    rcases which with ⟨rfl, rfl⟩ | ⟨rfl, rfl⟩
    · exact fits.queues.term_nonpos queues table inside carving
    · exact fits.pgs.term_nonpos pgs table inside carving

end Pool

/-! ## Binding keys -/

/-- A key of the form `Ethernet<port>|<low>-<high>`, read off its characters. -/
theorem BindingRange.written_dashed {key port : String} {portDigits low high : List Char}
    (text : key.toList = bindingKeyText portDigits (low ++ '-' :: high))
    (name : port.toList = portPrefix ++ portDigits) (portRun : DigitRun portDigits)
    (lowRun : DigitRun low) (highRun : DigitRun high)
    (ascending : decimalValue low ≤ decimalValue high) (fits : decimalValue high < 2 ^ 63) :
    Written (Bytes.ofString key)
      ⟨port, Int64.ofNat (decimalValue low), Int64.ofNat (decimalValue high)⟩ := by
  have keyText : key = String.ofList (bindingKeyText portDigits (low ++ '-' :: high)) := by
    rw [← String.toList_inj, String.toList_ofList, text]
  have portText : port = portName portDigits := by
    rw [portName, ← String.toList_inj, String.toList_ofList, name]
  rw [keyText, portText]
  exact Written.range portRun lowRun highRun ascending fits

/-- Binding keys carve what they say, up to words: the reader accepts exactly the keys of the
grammar; each range it reads has at least one index, and its word width is its index count
except for the full range of `2^63` indices; and when nothing wraps, the subtractive
accounting is its integer formula, at most the pool's cells less its headroom's, with every
binding term taking cells off. -/
theorem bindingKeys_carve_out_cells (key : Bytes) (r : BindingRange) (cfg : BufferConfig)
    (pool : Pool) (q : Quantizer) (acct : SharedBuffer) :
    (BindingRange.parse? key = some r ↔ BindingRange.Written key r) ∧
    (BindingRange.parse? key = some r →
      1 ≤ r.indexCount ∧
        (r.width.toInt = r.indexCount ↔ ¬ (r.low = 0 ∧ r.high = 9223372036854775807))) ∧
    (SubtractiveFits cfg pool q → subtractiveShare cfg pool q = .ok acct →
      acct.cells.toInt = subtractiveExact cfg pool q ∧
        subtractiveExact cfg pool q ≤
          cellsOf q.cellSize.toInt pool.size.toInt - cellsOf q.cellSize.toInt (pool.xoff.getD 0).toInt ∧
        ∀ t ∈ acct.terms.drop 2, t.cells.toInt ≤ 0) := by
  refine ⟨BindingRange.parse?_eq_some_iff, fun parsed => ?_,
    fun fits h => subtractiveShare_exact fits h⟩
  have written := BindingRange.parse?_eq_some_iff.1 parsed
  exact ⟨written.indexCount_pos, (BindingRange.width_exact_iff written).2⟩

/-- Cells of 256 bytes, as on Trident 3. -/
def DualTorSample.quantizer : Quantizer := ⟨256, by decide⟩

/-- On the dual-ToR sample two queue ranges and a lossless priority group are carved, taking
6, 14 and 10 cells off the pool's 4096 less 256 of headroom, and two queue bindings are
skipped. -/
theorem bindingKeys_carve_out_cells_sample :
    BindingRange.parse? (Bytes.ofString "Ethernet0|3-4") = some ⟨"Ethernet0", 3, 4⟩ ∧
    (1 ≤ (⟨"Ethernet0", 3, 4⟩ : BindingRange).indexCount ∧
      ((⟨"Ethernet0", 3, 4⟩ : BindingRange).width.toInt =
          (⟨"Ethernet0", 3, 4⟩ : BindingRange).indexCount ↔
        ¬ ((3 : Int64) = 0 ∧ (4 : Int64) = 9223372036854775807))) ∧
    SubtractiveFits DualTorSample.config DualTorSample.pool DualTorSample.quantizer ∧
    ∃ acct, subtractiveShare DualTorSample.config DualTorSample.pool DualTorSample.quantizer =
        .ok acct ∧
      acct.cells.toInt =
        subtractiveExact DualTorSample.config DualTorSample.pool DualTorSample.quantizer ∧
      subtractiveExact DualTorSample.config DualTorSample.pool DualTorSample.quantizer ≤
        cellsOf DualTorSample.quantizer.cellSize.toInt DualTorSample.pool.size.toInt -
          cellsOf DualTorSample.quantizer.cellSize.toInt (DualTorSample.pool.xoff.getD 0).toInt ∧
      (∀ t ∈ acct.terms.drop 2, t.cells.toInt ≤ 0) ∧
      (acct.terms.drop 2).map (·.cells.toInt) = [-6, -14, -10] ∧ acct.skips.length = 2 := by
  have written : BindingRange.Written (Bytes.ofString "Ethernet0|3-4") ⟨"Ethernet0", 3, 4⟩ :=
    @BindingRange.written_dashed "Ethernet0|3-4" "Ethernet0" ['0'] ['3'] ['4']
      (by simp [bindingKeyText, portPrefix]) (by simp [portPrefix])
      (by decide) (by decide) (by decide) (by decide) (by decide)
  have fits : SubtractiveFits DualTorSample.config DualTorSample.pool DualTorSample.quantizer := by
    decide +kernel
  have evaluated :
      (subtractiveShare DualTorSample.config DualTorSample.pool DualTorSample.quantizer).toOption.map
        (fun acct => (acct.terms.drop 2).map (·.cells.toInt) == [-6, -14, -10] &&
          acct.skips.length == 2) = some true := by
    decide +kernel
  cases shared : subtractiveShare DualTorSample.config DualTorSample.pool DualTorSample.quantizer
    with
  | error e =>
    rw [shared] at evaluated
    cases evaluated
  | ok acct =>
    rw [shared] at evaluated
    simp only [Except.toOption, Option.map_some, Option.some.injEq, Bool.and_eq_true,
      beq_iff_eq] at evaluated
    obtain ⟨parses, widths, sums⟩ := bindingKeys_carve_out_cells (Bytes.ofString "Ethernet0|3-4")
      ⟨"Ethernet0", 3, 4⟩ DualTorSample.config DualTorSample.pool DualTorSample.quantizer acct
    have parsed := parses.2 written
    obtain ⟨exact, below, taken⟩ := sums fits shared
    exact ⟨parsed, widths parsed, fits, acct, rfl, exact, below, taken, evaluated⟩

/-- The digits of `2^63 - 1`. -/
def topIndexDigits : List Char :=
  ['9', '2', '2', '3', '3', '7', '2', '0', '3', '6', '8', '5', '4', '7', '7', '5', '8', '0', '7']

theorem fullRange_written :
    BindingRange.Written (Bytes.ofString "Ethernet0|0-9223372036854775807")
      ⟨"Ethernet0", 0, 9223372036854775807⟩ :=
  @BindingRange.written_dashed "Ethernet0|0-9223372036854775807" "Ethernet0" ['0'] ['0']
    topIndexDigits (by simp [bindingKeyText, portPrefix, topIndexDigits]) (by simp [portPrefix])
    (by decide) (by decide) (by decide) (by decide) (by decide)

/-- The key of the full range is accepted, and its range of `2^63` indices gets the width
`-2^63`. -/
theorem full_range_width_wraps :
    BindingRange.parse? (Bytes.ofString "Ethernet0|0-9223372036854775807") =
        some ⟨"Ethernet0", 0, 9223372036854775807⟩ ∧
      (⟨"Ethernet0", 0, 9223372036854775807⟩ : BindingRange).width = -9223372036854775808 :=
  ⟨BindingRange.parse?_of_written fullRange_written, by decide⟩

end LosslessBuffer
