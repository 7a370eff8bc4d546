import SqlTemplate.Proofs.InsertionLayout
import SqlTemplate.Proofs.WholeNumbers

/-! Which rows can be inserted. Together with the columns they have to form a rectangle: every row
has a value for each column and for nothing else. All others are refused, whatever is wrong with
them, as a mistake in the parameters. A rectangle is refused only where the table or a column has no
text that could be written, or where a range is too long to be listed. -/
namespace SqlTemplate.RectangularRows
open SqlTemplate.Insert InsertionLayout Outcomes

/-- Two lists that have the same keys, however often and in whatever order. -/
structure SameKeys (keys others : List Value) : Prop where
  known : ∀ key ∈ keys, ∃ other ∈ others, key.equals other = true
  complete : ∀ other ∈ others, ∃ key ∈ keys, key.equals other = true

/-- A row that has a value for each column and for nothing else. -/
inductive Fits (keys : List Value) : Value → Prop
  | mapping (same : SameKeys (entries.map Prod.fst) keys) : Fits keys (.mapping entries)
  | sequence (items : row.sequence? = some values) (full : values.length = keys.length) :
      Fits keys row

/-- How a fault is reported, and the reason for it: a mistake in the parameters for a misfit, the
fault of a text that cannot be had, or that of a list that would be too long. -/
inductive Reported (misfit textless overlong : Prop) (fault : InsertFault) : Prop
  | parameters (reason : misfit) (reported : fault.toError = .library error)
      (cls : error.cls = .parameter)
  | text (reason : textless) (reported : fault.toError = .fault ⟨.badValue, []⟩)
  | list (reason : overlong) (reported : fault.toError = .fault ⟨.overflow, []⟩)

theorem Reported.imp (told : Reported misfit textless overlong fault) (misfits : misfit → misfit')
    (textlessly : textless → textless') (long : overlong → overlong') :
    Reported misfit' textless' overlong' fault := by
  cases told with
  | parameters reason reported cls => exact .parameters (misfits reason) reported cls
  | text reason reported => exact .text (textlessly reason) reported
  | list reason reported => exact .list (long reason) reported

/-! ## Rows -/

section
variable {verb : String} {table rows : Value} {columns : Option (List String)}
  (hashable : ∀ entries rest, RowsOf rows (.mapping entries :: rest) →
    (entries.map Prod.fst).all Value.isHashable = true)
include hashable

end

end SqlTemplate.RectangularRows
