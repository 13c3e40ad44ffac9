import DialogKit.Document.Basic
import DialogKit.Proofs.Text.Lines

/-!
# Paths beside a written entry

Writing an entry of the top level changes what is read at paths that start with its key, and at no
others. A key without a dot is a path of its own.
-/

namespace DialogKit

namespace Document

variable {d : Document} {key path : String} (value : Value)

theorem entry?_set_self : entry? (d.set key value) key = some value :=
  Entries.get?_insert_self key value d.entries

theorem entry?_set_of_ne {other : String} (h : key ≠ other) :
    entry? (d.set key value) other = d.entry? other :=
  Entries.get?_insert_of_ne h value d.entries

/-- A key without a dot in it is a path. -/
theorem value?_of_dotless (h : Text.split '.' key = [key]) : d.value? key = d.entry? key := by
  rw [value?, h]
  exact Option.bind_fun_some _

theorem value?_set_self (h : Text.split '.' key = [key]) :
    (d.set key value).value? key = some value := by
  rw [value?_of_dotless h, entry?_set_self]

/-- A path that starts with another key leads past what is written. -/
theorem value?_set_of_ne (h : (Text.split '.' path).head? ≠ some key) :
    (d.set key value).value? path = d.value? path := by
  unfold value?
  cases hsplit : Text.split '.' path with
  | nil => exact absurd hsplit (Text.split_ne_nil '.' path)
  | cons first rest =>
    have hne : key ≠ first := fun heq ↦ h (by rw [hsplit, heq]; rfl)
    exact congrArg (·.bind (descend rest)) (Entries.get?_insert_of_ne hne value d.entries)

end Document

example : (Text.split '.' "label.text").head? ≠ some "type" := by decide

end DialogKit
