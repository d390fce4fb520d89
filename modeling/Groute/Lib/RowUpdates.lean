import Mathlib.Data.List.InsertIdx
import Groute.Lib.TableView

/-!
# Updates of single rows

A handler that takes one element out of a list, or puts one in, need not reload the table:
it can tell it which row is gone or new.  The table then asks again for the number of rows,
and stops the program unless this is the old number and the one row less or more; it asks
for a row that is new.

`Update.apply` is what the table makes of what it is told, and `Update.Tells` says that this
is what has happened to the list.  Then the numbers of rows fit, and the table shows the list:
`Update.apply_eq`, as after a reload: `Update.reload_map`.
-/

universe u v

namespace TableView

variable {α : Type u} {ι : Type v}

/-- What a table is told. -/
inductive Update where
  /-- Nothing. -/
  | keep
  /-- `reloadData`. -/
  | reload
  /-- `deleteRows`. -/
  | delete (row : Nat)
  /-- `insertRows`. -/
  | insert (row : Nat)
deriving DecidableEq

namespace Update

/-- The rows afterwards, unless the numbers of rows do not fit. -/
def apply (numberOfRows : Nat) (cellForRow : Nat → Option α) (table : List α) :
    Update → Option (List α)
  | .keep => some table
  | .reload => TableView.reload numberOfRows cellForRow
  | .delete row =>
      if row < table.length ∧ numberOfRows + 1 = table.length then some (table.eraseIdx row)
      else none
  | .insert row =>
      if row ≤ table.length ∧ numberOfRows = table.length + 1 then
        (cellForRow row).map fun cell => table.insertIdx row cell
      else none

/-- What has happened to the items that the table shows. -/
def Tells (items items' : List ι) : Update → Prop
  | .keep => items' = items
  | .reload => True
  | .delete row => row < items.length ∧ items' = items.eraseIdx row
  | .insert row => row ≤ items.length ∧ ∃ item, items' = items.insertIdx row item

variable {items items' : List ι} {update : Update}

/-- A reload shows the items. -/
theorem reload_map (items : List ι) (cell : ι → α) :
    TableView.reload items.length (fun row => items[row]?.map cell) = some (items.map cell) := by
  rw [← List.length_map cell]
  refine reload_of_getElem? fun row _ => ?_
  rw [List.getElem?_map]

/-- **The rows are those of the items** after every update, and none stops the program. -/
theorem apply_eq (h : update.Tells items items') (cell : ι → α) :
    update.apply items'.length (fun row => items'[row]?.map cell) (items.map cell) =
      some (items'.map cell) := by
  cases update with
  | keep =>
      cases h
      rfl
  | reload => exact reload_map items' cell
  | delete row =>
      obtain ⟨hrow, rfl⟩ := h
      have hlength : (items.eraseIdx row).length + 1 = items.length :=
        List.length_eraseIdx_add_one hrow
      rw [apply, if_pos ⟨by rwa [List.length_map], by rwa [List.length_map]⟩, List.eraseIdx_map]
  | insert row =>
      obtain ⟨hrow, item, rfl⟩ := h
      have hlength : (items.insertIdx row item).length = items.length + 1 :=
        List.length_insertIdx_of_le_length hrow item
      have hitem : (items.insertIdx row item)[row]? = some item := by
        rw [List.getElem?_insertIdx_self, if_pos hrow]
      rw [apply, if_pos ⟨by rwa [List.length_map], by rwa [List.length_map]⟩, hitem,
        Option.map_some, Option.map_some, List.map_insertIdx]

end Update

end TableView
