import LosslessBuffer.Params.Text
import LosslessBuffer.Proofs.Calculation
import LosslessBuffer.Proofs.Accounting
import LosslessBuffer.Proofs.DigitRuns
/-!
# The grammar of scenario keys

A scenario key is written as a run of digits, `_`, a run of digits and `m`, with nothing
before or after; each run may have leading zeros and its value must be below `2^63`
(`ScenarioKey.Written`). `ScenarioKey.parse` accepts exactly these texts, each as the key
of the two values and the text itself, and turns every other text into an invalid scenario
key naming it (`ScenarioKey.parse_eq_ok_iff`, `ScenarioKey.parse_error`).

A parameter table routes each top-level mapping by its key: to the scenarios when the key
parses, to the default sub-profiles when it does not (`ParamTable.readWith_routes`), whatever
YAML library reads its document. The loop that reads the entries is followed with an
invariant over the entries read so far (`Except.foldlM_invariant`), so a table read from text
has only keys that parse among its scenarios.
-/

set_option autoImplicit false

namespace LosslessBuffer

open LosslessBuffer.Text LosslessBuffer.Yaml

/-! ## Folds that may fail -/

/-- A fold that returns has kept an invariant over the elements it visited, when each step
that returns keeps it. -/
theorem Except.foldlM_invariant {ε σ γ : Type} (xs : List γ) (init : σ)
    (step : σ → γ → Except ε σ) (I : List γ → σ → Prop) (hinit : I [] init)
    (hstep : ∀ done x s s', I done s → step s x = .ok s' → I (done ++ [x]) s')
    {result : σ} (h : xs.foldlM step init = .ok result) : I xs result := by
  -- the visited elements are carried along as the prefix before what is left
  suffices general :
      ∀ done s, I done s → xs.foldlM step s = .ok result → I (done ++ xs) result by
    simpa using general [] init hinit h
  clear h
  induction xs with
  | nil =>
    intro done s holds ran
    cases ran
    simpa using holds
  | cons x rest ih =>
    intro done s holds ran
    rw [List.foldlM_cons] at ran
    cases stepped : step s x with
    | error e =>
      rw [stepped] at ran
      cases ran
    | ok s' =>
      rw [stepped] at ran
      simpa using ih (done ++ [x]) s' (hstep done x s s' holds stepped) ran

/-- A fold returns, and keeps an invariant, when each step from a state that keeps it
returns one that keeps it over one more element. -/
theorem Except.foldlM_total {ε σ γ : Type} (xs : List γ) (init : σ)
    (step : σ → γ → Except ε σ) (I : List γ → σ → Prop) (hinit : I [] init)
    (hstep : ∀ done x rest s, done ++ x :: rest = xs → I done s →
      ∃ s', step s x = .ok s' ∧ I (done ++ [x]) s') :
    ∃ result, xs.foldlM step init = .ok result ∧ I xs result := by
  suffices general : ∀ rest done s, done ++ rest = xs → I done s →
      ∃ result, rest.foldlM step s = .ok result ∧ I xs result from
    general xs [] init rfl hinit
  intro rest
  induction rest with
  | nil =>
    intro done s whole holds
    rw [List.append_nil] at whole
    exact ⟨s, rfl, whole ▸ holds⟩
  | cons x rest ih =>
    intro done s whole holds
    obtain ⟨s', stepped, kept⟩ := hstep done x rest s whole holds
    obtain ⟨result, ran, final⟩ := ih (done ++ [x]) s' (by simpa using whole) kept
    refine ⟨result, ?_, final⟩
    rw [List.foldlM_cons, stepped]
    exact ran

/-! ## Keys -/

/-- The keys of the grammar, each with the key it denotes: a run of digits, `_`, a run of
digits and `m`, both values below `2^63`. -/
inductive ScenarioKey.Written : String → ScenarioKey → Prop where
  | mk {speed length : List Char} : DigitRun speed → DigitRun length →
      decimalValue speed < 2 ^ 63 → decimalValue length < 2 ^ 63 →
      Written (String.ofList (speed ++ '_' :: (length ++ ['m'])))
        ⟨Int64.ofNat (decimalValue speed), Int64.ofNat (decimalValue length),
          String.ofList (speed ++ '_' :: (length ++ ['m']))⟩

namespace ScenarioKey

theorem parse_of_written {s : String} {k : ScenarioKey} (h : Written s k) : parse s = .ok k := by
  cases h with
  | @mk speed length speedRun lengthRun speedFits lengthFits =>
  have speedSplit : (speed ++ '_' :: (length ++ ['m'])).takeWhile isAsciiDigit = speed ∧
      (speed ++ '_' :: (length ++ ['m'])).dropWhile isAsciiDigit = '_' :: (length ++ ['m']) :=
    split_digits_append speedRun.2 (by simp [isAsciiDigit])
  have lengthSplit : (length ++ ['m']).takeWhile isAsciiDigit = length ∧
      (length ++ ['m']).dropWhile isAsciiDigit = ['m'] :=
    split_digits_append lengthRun.2 (by simp [isAsciiDigit])
  unfold parse
  simp only [String.toList_ofList, speedSplit.1, speedSplit.2, lengthSplit.1, lengthSplit.2,
    (readIndex_eq_some_iff).2 ⟨speedRun, speedFits, rfl⟩,
    (readIndex_eq_some_iff).2 ⟨lengthRun, lengthFits, rfl⟩]

theorem written_of_parse {s : String} {k : ScenarioKey} (h : parse s = .ok k) : Written s k := by
  unfold parse at h
  dsimp only at h
  have whole : ∀ text : List Char,
      text.takeWhile isAsciiDigit ++ text.dropWhile isAsciiDigit = text :=
    fun text => List.takeWhile_append_dropWhile
  split at h
  next rest afterSpeed =>
    split at h
    next afterLength =>
      split at h
      next speed length readSpeed readLength =>
        cases h
        obtain ⟨speedRun, speedFits, rfl⟩ := readIndex_eq_some_iff.1 readSpeed
        obtain ⟨lengthRun, lengthFits, rfl⟩ := readIndex_eq_some_iff.1 readLength
        have text : s = String.ofList (s.toList.takeWhile isAsciiDigit ++
            '_' :: (rest.takeWhile isAsciiDigit ++ ['m'])) := by
          rw [← afterLength, whole, ← afterSpeed, whole, String.ofList_toList]
        have written := Written.mk speedRun lengthRun speedFits lengthFits
        rw [← text] at written
        exact written
      next => cases h
    next => cases h
  next => cases h

/-- The parser accepts exactly the keys of the grammar, each as the key it denotes. -/
theorem parse_eq_ok_iff {s : String} {k : ScenarioKey} : parse s = .ok k ↔ Written s k :=
  ⟨written_of_parse, parse_of_written⟩

/-- A text the parser rejects is an invalid scenario key, and the fault quotes it. -/
theorem parse_error {s : String} {e : Fault} (h : parse s = .error e) :
    e = .broken .invalidScenarioKey (Text.quote s) := by
  unfold parse at h
  dsimp only at h
  split at h
  · split at h
    · split at h
      · cases h
      · exact (Except.error.inj h).symm
    · exact (Except.error.inj h).symm
  · exact (Except.error.inj h).symm

example : (parse "0100000_05m").toBool = true ∧ (parse "100000_5m\n").toBool = false ∧
    (parse "100000_9223372036854775808m").toBool = false := by
  decide

end ScenarioKey

/-! ## Routing the entries of a table -/

namespace ParamTable

variable {C : YamlCodec}

/-- The keys of the mapping entries whose key parses as a scenario key (`parses = true`), or
does not (`parses = false`). -/
def mappingKeys (C : YamlCodec) (entries : List (String × C.Node)) (parses : Bool) :
    List String :=
  (entries.filter fun entry =>
    C.kind entry.2 == .mapping && (ScenarioKey.parse entry.1).toBool == parses).map Prod.fst

/-- The entries read so far went to the scenarios and to the default sub-profiles by their
keys: a mapping under a key that parses to the scenarios, any other mapping to the
defaults. -/
def RoutedBy (C : YamlCodec) (entries : List (String × C.Node)) (table : ParamTable) : Prop :=
  ∀ key, (key ∈ table.scenarios ↔ key ∈ mappingKeys C entries true) ∧
    (key ∈ table.defaults ↔ key ∈ mappingKeys C entries false)

variable {done : List (String × C.Node)} {table : ParamTable} {key : String} {value : C.Node}

theorem mappingKeys_append_singleton (parses : Bool) :
    mappingKeys C (done ++ [(key, value)]) parses = mappingKeys C done parses ++
      if C.kind value == .mapping && (ScenarioKey.parse key).toBool == parses then [key]
      else [] := by
  unfold mappingKeys
  rw [List.filter_append, List.map_append]
  split <;> simp_all

theorem RoutedBy.empty : RoutedBy C [] {} := by
  intro key
  simp [mappingKeys]

theorem RoutedBy.insertScenario (routed : RoutedBy C done table)
    (mapping : C.kind value = .mapping) (parses : (ScenarioKey.parse key).toBool = true)
    (block : Scenario) :
    RoutedBy C (done ++ [(key, value)])
      { table with scenarios := table.scenarios.insert key block } := by
  intro k
  simp only [mappingKeys_append_singleton, mapping, parses, beq_self_eq_true, Bool.and_self,
    Bool.true_beq, Bool.and_false, Bool.false_eq_true, ↓reduceIte, List.append_nil,
    List.mem_append, List.mem_singleton, Std.TreeMap.mem_insert, Std.compare_eq_iff_eq,
    ← (routed k).1, ← (routed k).2]
  exact ⟨or_comm.trans (or_congr_right eq_comm), trivial⟩

theorem RoutedBy.insertDefault (routed : RoutedBy C done table)
    (mapping : C.kind value = .mapping) (rejected : (ScenarioKey.parse key).toBool = false)
    (profile : SubProfile) :
    RoutedBy C (done ++ [(key, value)])
      { table with defaults := table.defaults.insert key profile } := by
  intro k
  simp only [mappingKeys_append_singleton, mapping, rejected, beq_self_eq_true, Bool.and_self,
    Bool.false_beq, Bool.not_true, Bool.and_false, Bool.false_eq_true, ↓reduceIte,
    List.append_nil, List.mem_append, List.mem_singleton, Std.TreeMap.mem_insert,
    Std.compare_eq_iff_eq,
    ← (routed k).1, ← (routed k).2]
  exact ⟨trivial, or_comm.trans (or_congr_right eq_comm)⟩

theorem RoutedBy.insertOther (routed : RoutedBy C done table)
    (scalar : (C.kind value == .mapping) = false) (v : Value) :
    RoutedBy C (done ++ [(key, value)]) { table with other := table.other.insert key v } := by
  intro k
  simp only [mappingKeys_append_singleton, scalar, Bool.false_and, Bool.false_eq_true, ↓reduceIte,
    List.append_nil]
  exact routed k

/-- Reading one entry routes it by its kind and key. -/
theorem RoutedBy.readEntry (routed : RoutedBy C done table) {table' : ParamTable}
    (h : ParamTable.readEntry C table (key, value) = .ok table') :
    RoutedBy C (done ++ [(key, value)]) table' := by
  unfold ParamTable.readEntry at h
  dsimp only at h
  split at h
  next mapping =>
    split at h
    next parses =>
      obtain ⟨block, -, written⟩ := Except.exists_of_bind_eq_ok h
      cases written
      exact routed.insertScenario mapping parses block
    next rejected =>
      obtain ⟨profile, -, written⟩ := Except.exists_of_bind_eq_ok h
      cases written
      exact routed.insertDefault mapping (Bool.eq_false_iff.2 rejected) profile
  next scalar =>
    obtain ⟨v, -, written⟩ := Except.exists_of_bind_eq_ok h
    cases written
    exact routed.insertOther (by simpa using scalar) v

theorem readWith_routes {n : C.Node} (h : readWith C n = .ok table) :
    ∃ entries, C.pairs n = .ok entries ∧ table.RoutedBy C entries := by
  unfold readWith at h
  cases paired : C.pairs n with
  | error e =>
    rw [paired] at h
    cases h
  | ok entries =>
    rw [paired] at h
    change entries.foldlM (readEntry C) {} = .ok table at h
    refine ⟨entries, rfl, Except.foldlM_invariant entries {} _ (RoutedBy C) RoutedBy.empty
      ?_ h⟩
    rintro done ⟨key, value⟩ s s' routed step
    exact routed.readEntry step

theorem parse_of_mem_mappingKeys {entries : List (String × C.Node)}
    (h : key ∈ mappingKeys C entries true) : ∃ k, ScenarioKey.parse key = .ok k := by
  obtain ⟨⟨key', value⟩, kept, rfl⟩ := List.mem_map.1 h
  simp only [List.mem_filter, Bool.and_eq_true, beq_iff_eq] at kept
  cases parsed : ScenarioKey.parse key' with
  | error e =>
    rw [parsed] at kept
    exact absurd kept.2.2 Bool.false_ne_true
  | ok k => exact ⟨k, rfl⟩

/-- A table loaded from text was read from a root mapping, or is empty. -/
theorem loadWith_cases {text : String} (h : loadWith C text = .ok table) :
    table = {} ∨ ∃ n, C.root text = .ok (some n) ∧ readWith C n = .ok table := by
  have read := mapError_eq_ok.1 h
  cases rooted : C.root text with
  | error e =>
    rw [rooted] at read
    cases read
  | ok root =>
    rw [rooted] at read
    cases root with
    | none => exact .inl (Except.ok.inj read).symm
    | some n => exact .inr ⟨n, rfl, read⟩

/-- Every scenario of a table read from text has a key that parses. -/
theorem loadWith_scenarios_parse {text : String} (h : loadWith C text = .ok table) :
    ∀ key ∈ table.scenarios, ∃ k, ScenarioKey.parse key = .ok k := by
  intro key member
  rcases loadWith_cases h with rfl | ⟨n, -, read⟩
  · simp at member
  · obtain ⟨entries, -, routed⟩ := readWith_routes read
    exact parse_of_mem_mappingKeys ((routed key).1.1 member)

/-- No default sub-profile of a table read from text has a key that parses. -/
theorem loadWith_defaults_reject {text : String} (h : loadWith C text = .ok table) :
    ∀ key ∈ table.defaults, (ScenarioKey.parse key).toBool = false := by
  intro key member
  rcases loadWith_cases h with rfl | ⟨n, -, read⟩
  · simp at member
  · obtain ⟨entries, -, routed⟩ := readWith_routes read
    obtain ⟨⟨key', value⟩, kept, rfl⟩ := List.mem_map.1 ((routed key).2.1 member)
    simp only [List.mem_filter, Bool.and_eq_true, beq_iff_eq] at kept
    exact kept.2.2

end ParamTable

/-- Scenario keys are exactly the texts of the grammar: the parser accepts those, each as the
key of its two values and its text, and rejects every other text as an invalid scenario key
quoting it. Whatever YAML library reads it, a table read from a mapping routes each mapping
entry to the scenarios exactly when its key parses, so every scenario of a table read from
text has a key that parses. -/
theorem scenarioKey_parse_grammar :
    (∀ s k, ScenarioKey.parse s = .ok k ↔ ScenarioKey.Written s k) ∧
    (∀ s e, ScenarioKey.parse s = .error e → e = .broken .invalidScenarioKey (Text.quote s)) ∧
    (∀ (C : YamlCodec) n table, ParamTable.readWith C n = .ok table →
      ∃ entries, C.pairs n = .ok entries ∧ table.RoutedBy C entries) ∧
    (∀ (C : YamlCodec) text table, ParamTable.loadWith C text = .ok table →
      ∀ key ∈ table.scenarios, ∃ k, ScenarioKey.parse key = .ok k) :=
  ⟨fun _ _ => ScenarioKey.parse_eq_ok_iff, fun _ _ => ScenarioKey.parse_error,
    fun _ _ _ => ParamTable.readWith_routes, fun _ _ _ => ParamTable.loadWith_scenarios_parse⟩

theorem scenarioKey_parse_grammar_sample :
    (∃ table, ParamTable.loadWith YamlCodec.standard
        "100000_5m:\n  xon_1:\n    pkts_num_margin: 4\n1_2:\n  a: 1\n" = .ok table ∧
      ∀ key ∈ table.scenarios, ∃ k, ScenarioKey.parse key = .ok k) ∧
    ∃ e, ScenarioKey.parse "100000_5m\n" = .error e ∧
      e = .broken .invalidScenarioKey (Text.quote "100000_5m\n") := by
  have loads : (ParamTable.loadWith YamlCodec.standard
      "100000_5m:\n  xon_1:\n    pkts_num_margin: 4\n1_2:\n  a: 1\n").toBool = true := by
    decide +kernel
  have rejects : (ScenarioKey.parse "100000_5m\n").toBool = false := by decide
  constructor
  · cases loaded : ParamTable.loadWith YamlCodec.standard
        "100000_5m:\n  xon_1:\n    pkts_num_margin: 4\n1_2:\n  a: 1\n" with
    | error e =>
      rw [loaded] at loads
      cases loads
    | ok table => exact ⟨table, rfl, scenarioKey_parse_grammar.2.2.2 _ _ table loaded⟩
  · cases parsed : ScenarioKey.parse "100000_5m\n" with
    | error e => exact ⟨e, rfl, scenarioKey_parse_grammar.2.1 _ e parsed⟩
    | ok k =>
      rw [parsed] at rejects
      cases rejects

end LosslessBuffer
