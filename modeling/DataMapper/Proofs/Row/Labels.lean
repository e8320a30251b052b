import DataMapper.Identifier
import DataMapper.Row
import Mathlib.Data.List.Basic

/-!
# Looking up labels

The columns of a result have an index that is filled in the order of the columns, and a map from
labels has an index that grows with its entries.  Both find what a scan from the first column on
finds.

* The index of columns gives the first position whose label matches (`Columns.indexOf?_eq`).
* The index of a map gives the position of the first entry whose label matches
  (`LabelMap.Indexed`), and every insertion keeps it so.
* A row as a map has the cells with the first label of each class (`Row.firstCell?`), and a label
  has in it what the row has at the first column that matches (`LabelMap.Mirrors`).
-/

namespace DataMapper

namespace Text

theorem sameLabel_iff {a b : String} : sameLabel a b = true ↔ foldLabel a = foldLabel b :=
  beq_iff_eq

end Text

open Text (sameLabel sameLabel_iff)

/-! ## Indices -/

namespace LabelIndex

variable (index : LabelIndex) (label : String) (position : Nat) (other : String)

theorem find?_insert :
    (index.insert label position).find? other
      = if sameLabel label other then some position else index.find? other := by
  rw [find?, insert, List.lookup_cons, BEq.comm, ← sameLabel]
  cases sameLabel label other <;> rfl

/-- Labels that match have the same position. -/
theorem find?_congr {label other : String} (same : sameLabel label other = true) :
    index.find? other = index.find? label := by
  rw [find?, find?, sameLabel_iff.mp same]

/-- A new position is found where nothing was found before. -/
theorem find?_insertNew :
    (index.insertNew label position).find? other
      = (index.find? other).or (if sameLabel label other then some position else none) := by
  rw [insertNew, contains]
  cases found : index.find? label with
  | none =>
      rw [if_neg (by simp), find?_insert]
      split
      next same => rw [find?_congr index same, found, Option.none_or]
      next => rw [Option.or_none]
  | some old =>
      rw [if_pos (by simp)]
      split
      next same => rw [find?_congr index same, found, Option.some_or]
      next => rw [Option.or_none]

end LabelIndex

/-! ## Columns -/

namespace Columns

/-- An index that columns were put into finds what it found before, and then the first column. -/
theorem find?_indexFrom (index : LabelIndex) (position : Nat) (columns : Columns)
    (label : String) :
    (indexFrom index position columns).find? label
      = (index.find? label).or
          ((columns.findIdx? fun column => sameLabel column.label label).map (position + ·)) := by
  induction columns generalizing index position with
  | nil => simp [indexFrom]
  | cons column rest ih =>
      rw [indexFrom, ih, LabelIndex.find?_insertNew, List.findIdx?_cons, Option.or_assoc]
      split
      next => simp
      next =>
        rw [Option.none_or, Option.map_map]
        simp only [Function.comp_def, Nat.add_comm, Nat.add_left_comm]

/-- The position of a label is that of the first column whose label matches. -/
theorem indexOf?_eq (columns : Columns) (label : String) :
    columns.indexOf? label = columns.findIdx? fun column => sameLabel column.label label := by
  rw [indexOf?, index, find?_indexFrom]
  simp [LabelIndex.find?, LabelIndex.empty]

end Columns

/-! ## Maps -/

namespace LabelMap

variable {m : LabelMap}

/-- Whether the index of a map gives the position of the first entry whose label matches. -/
def Indexed (m : LabelMap) : Prop :=
  ∀ label, m.index.find? label = m.entries.findIdx? fun entry => sameLabel entry.1 label

theorem indexed_empty : empty.Indexed := fun _ => rfl

theorem insert_of_contains {label : String} (there : m.contains label = true) (value : Value) :
    m.insert label value = m := if_pos there

/-- A new label is put behind the others, and its position into the index. -/
theorem insert_of_new {label : String} (new : m.contains label = false) (value : Value) :
    m.insert label value
      = ⟨m.entries ++ [(label, value)], m.index.insertNew label m.entries.length⟩ := by
  have absent : ¬ m.index.contains label = true := Bool.eq_false_iff.mp new
  rw [insert, LabelIndex.insertNew, contains, if_neg absent, if_neg absent]

/-- An insertion keeps the index. -/
theorem Indexed.insert (indexed : m.Indexed) (label : String) (value : Value) :
    (m.insert label value).Indexed := by
  cases there : m.contains label with
  | true => rwa [insert_of_contains there]
  | false =>
      intro other
      rw [insert_of_new there, LabelIndex.find?_insertNew, indexed, List.findIdx?_append,
        List.findIdx?_singleton]
      split <;> simp

/-- Labels that match have the same value. -/
theorem get?_congr (m : LabelMap) {label other : String} (same : sameLabel label other = true) :
    m.get? other = m.get? label := by
  rw [get?, get?, m.index.find?_congr same]

/-- A map gives the value of the first entry whose label matches. -/
theorem get?_eq (indexed : m.Indexed) (label : String) :
    m.get? label = (m.entries.find? fun entry => sameLabel entry.1 label).map (·.2) := by
  rw [get?, indexed, List.find?_eq_bind_findIdx?_getElem?, Option.map_bind]
  rfl

/-- A map has a label exactly when it has a value for it. -/
theorem contains_eq (indexed : m.Indexed) (label : String) :
    m.contains label = (m.get? label).isSome := by
  rw [get?_eq indexed, Option.isSome_map, contains, LabelIndex.contains, indexed,
    List.findIdx?_isSome, List.isSome_find?]

/-- An insertion gives a value to a label that has none. -/
theorem get?_insert (indexed : m.Indexed) (label : String) (value : Value) (other : String) :
    (m.insert label value).get? other
      = (m.get? other).or (if sameLabel label other then some value else none) := by
  cases there : m.contains label with
  | true =>
      rw [insert_of_contains there]
      split
      next same =>
        rw [contains_eq indexed] at there
        obtain ⟨old, found⟩ := Option.isSome_iff_exists.mp there
        rw [get?_congr m same, found, Option.some_or]
      next => rw [Option.or_none]
  | false =>
      rw [get?_eq (indexed.insert label value), get?_eq indexed, insert_of_new there,
        List.find?_append, Option.map_or, List.find?_singleton]
      split <;> rfl

end LabelMap

/-! ## Rows as maps -/

/-- The label and the value at a position, unless a column before it has the label. -/
def Row.firstCell? (row : Row) (position : Nat) : Option (String × Value) :=
  (row.columns[position]?.filter fun column =>
      (row.columns.take position).all fun earlier => !sameLabel earlier.label column.label).map
    fun column => (column.label, row.getOrNull position)

theorem Row.firstCell?_append {row : Row} {columns rest : Columns} {column : Column}
    (whole : row.columns = columns ++ column :: rest) :
    row.firstCell? columns.length
      = if columns.any fun earlier => sameLabel earlier.label column.label then none
        else some (column.label, row.getOrNull columns.length) := by
  have here : row.columns[columns.length]? = some column := by simp [whole]
  have before : row.columns.take columns.length = columns := by simp [whole]
  rw [firstCell?, here, before, Option.filter_some, List.all_eq_not_any_not]
  simp only [Bool.not_not]
  cases columns.any fun earlier => sameLabel earlier.label column.label <;> rfl

namespace LabelMap

/-- What a map holds of the columns in front of a row: the cells with the first label of each
class, and under a label what the row has at the first of these columns that matches. -/
structure Mirrors (row : Row) (columns : Columns) (m : LabelMap) : Prop where
  indexed : m.Indexed
  entries_eq : m.entries = (List.range columns.length).filterMap row.firstCell?
  get?_eq : ∀ label, m.get? label
    = (columns.findIdx? fun column => sameLabel column.label label).map row.getOrNull

theorem Mirrors.nil (row : Row) : Mirrors row [] empty := ⟨indexed_empty, rfl, fun _ => rfl⟩

/-- A map goes on mirroring a row with the next column. -/
theorem Mirrors.insert {row : Row} {columns rest : Columns} {column : Column} {m : LabelMap}
    (h : Mirrors row columns m) (whole : row.columns = columns ++ column :: rest) :
    Mirrors row (columns ++ [column])
      (m.insert column.label (row.getOrNull columns.length)) := by
  have there : m.contains column.label
      = columns.any fun earlier => sameLabel earlier.label column.label := by
    rw [contains_eq h.indexed, h.get?_eq]
    simp
  constructor
  case indexed => exact h.indexed.insert _ _
  case entries_eq =>
    rw [List.length_append, List.length_singleton, List.range_succ, List.filterMap_append,
      ← h.entries_eq, List.filterMap_cons, Row.firstCell?_append whole, ← there]
    cases new : m.contains column.label with
    | true => rw [insert_of_contains new]; simp
    | false => rw [insert_of_new new]; simp
  case get?_eq =>
    intro label
    rw [get?_insert h.indexed, h.get?_eq, List.findIdx?_append, List.findIdx?_singleton,
      Option.map_or]
    split <;> simp

/-- A map into which the columns of a row are put one after the other mirrors the row. -/
theorem mirrors_insertFrom {row : Row} {columns rest : Columns} {m : LabelMap}
    (h : Mirrors row columns m) (whole : row.columns = columns ++ rest) :
    Mirrors row row.columns (insertFrom row m columns.length rest.labels) := by
  induction rest generalizing columns m with
  | nil =>
      rw [List.append_nil] at whole
      rw [whole]
      exact h
  | cons column rest ih =>
      have next := ih (h.insert whole) (by simp [whole])
      rw [List.length_append] at next
      exact next

theorem mirrors_ofRow (row : Row) : Mirrors row row.columns (ofRow row) :=
  mirrors_insertFrom (.nil row) rfl

/-- All ways to look a name up in a row agree.  The index of the columns gives the first position
whose label matches, which is where a scan for the label of an identifier stops.  The row as a map
has the cells with the first label of each class in the order of the columns, it has a name
exactly when the columns have it, and it gives the name the value that the row has for it, the
NULL when the row is too short. -/
theorem lookups_agree (row : Row) (name : String) :
    row.columns.indexOf? name
        = row.columns.findIdx? (fun column => sameLabel column.label name) ∧
      (∀ quoted, row.columns.indexOf? name
        = row.columns.findIdx? fun column => Identifier.matchesLabel ⟨name, quoted⟩ column.label) ∧
      (ofRow row).entries = (List.range row.columns.length).filterMap row.firstCell? ∧
      (ofRow row).contains name = row.columns.contains name ∧
      (ofRow row).get? name
        = (row.columns.indexOf? name).map fun _ => (row.find? name).getD .null := by
  have scan := row.columns.indexOf?_eq name
  have mirrors := mirrors_ofRow row
  have found : (ofRow row).get? name = (row.columns.indexOf? name).map row.getOrNull := by
    rw [mirrors.get?_eq, scan]
  refine ⟨scan, fun quoted => ?_, mirrors.entries_eq, ?_, ?_⟩
  · rw [scan]
    exact congrArg (List.findIdx? · row.columns) (funext fun column => BEq.comm)
  · rw [contains_eq mirrors.indexed, found, Option.isSome_map, Columns.contains]
  · rw [found, Row.find?]
    cases row.columns.indexOf? name <;> rfl

/-- Two labels of one class with another between them, in a row that is too short for the last. -/
example :
    let row : Row := ⟨.ofLabels ["id", "Name", "ID", "age"], [.int 1, .text "a", .int 2]⟩
    (List.range 4).filterMap row.firstCell? = [("id", .int 1), ("Name", .text "a"), ("age", .null)]
    := rfl

end LabelMap

end DataMapper
