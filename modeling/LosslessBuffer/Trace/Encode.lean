import LosslessBuffer.Trace
import LosslessBuffer.Yaml.Encode
import LosslessBuffer.Yaml.Tree.Printer
/-!
# Traces as YAML

A trace is written as a mapping of its fields in the order they are declared: `level`,
`references`, `clones`, `terms`, `skips`, `overrides`, `updates`, `warnings`. Each list
is a sequence of mappings whose keys are the record's field names in lower case, also in
declaration order; an empty list is written `[]`. Texts and numbers are written as the
value writer writes them (`Value.toTree`), so an empty text is `""` and a text that would
read back as a number or a boolean is quoted; a text that is not UTF-8 is written under
`!!binary`.
-/

set_option autoImplicit false

namespace LosslessBuffer

open LosslessBuffer.Yaml

/-- The tree of a text field. -/
def textTree (text : Text.Bytes) : Tree := (Value.string text).toTree

/-- The tree of a number field. -/
def countTree (n : Int64) : Tree := (Value.int n.toInt).toTree

/-- The tree of a boolean field. -/
def flagTree (b : Bool) : Tree := (Value.bool b).toTree

/-- A record as a mapping of named fields. -/
def recordTree (fields : List (String × Tree)) : Tree :=
  .mapping (fields.map fun field => (textTree field.1, field.2))

/-- The tree of a reference choice. -/
def ReferenceRecord.toTree (r : ReferenceRecord) : Tree :=
  recordTree [("target", textTree r.target), ("reference", textTree r.reference),
    ("equivalent", flagTree r.equivalent)]

/-- The tree of a sub-profile copy. -/
def CloneRecord.toTree (r : CloneRecord) : Tree :=
  recordTree [("scenario", textTree r.scenario), ("profile", textTree r.profile),
    ("source", textTree r.source)]

/-- The tree of an accounting term. -/
def AccountingTerm.toTree (t : AccountingTerm) : Tree :=
  recordTree [("label", textTree t.label), ("profile", textTree t.profile),
    ("bytes", countTree t.bytes), ("multiplier", countTree t.multiplier),
    ("cells", countTree t.cells)]

/-- The tree of a skipped binding. -/
def SkipRecord.toTree (r : SkipRecord) : Tree :=
  recordTree [("table", textTree r.table), ("key", textTree r.key),
    ("profile", textTree r.profile), ("reason", textTree r.reason)]

/-- The tree of a register override decision. -/
def OverrideRecord.toTree (r : OverrideRecord) : Tree :=
  recordTree [("computed", countTree r.computed), ("register", countTree r.register),
    ("applied", flagTree r.applied), ("reason", textTree r.reason)]

/-- The tree of a field write; the old and new values are `from` and `to`. -/
def UpdateRecord.toTree (r : UpdateRecord) : Tree :=
  recordTree [("scenario", textTree r.scenario), ("profile", textTree r.profile),
    ("field", textTree r.field), ("from", textTree r.before), ("to", textTree r.after)]

/-- The tree of a kept value that breaks an invariant. -/
def WarningRecord.toTree (r : WarningRecord) : Tree :=
  recordTree [("scenario", textTree r.scenario), ("profile", textTree r.profile),
    ("field", textTree r.field), ("value", countTree r.value), ("message", textTree r.message)]

/-- The tree of a trace. -/
def Trace.toTree (t : Trace) : Tree :=
  recordTree [("level", textTree t.level),
    ("references", .sequence (t.references.map ReferenceRecord.toTree)),
    ("clones", .sequence (t.clones.map CloneRecord.toTree)),
    ("terms", .sequence (t.terms.map AccountingTerm.toTree)),
    ("skips", .sequence (t.skips.map SkipRecord.toTree)),
    ("overrides", .sequence (t.overrides.map OverrideRecord.toTree)),
    ("updates", .sequence (t.updates.map UpdateRecord.toTree)),
    ("warnings", .sequence (t.warnings.map WarningRecord.toTree))]

/-- The YAML text of a trace. -/
def Trace.toYaml (t : Trace) : String := t.toTree.render

end LosslessBuffer
