import DataMapper.Proofs.OutboundRow
import Mathlib.Data.List.Basic
import Mathlib.Data.List.Induction

/-!
# Rows after edits

An outbound row starts empty and is changed by puts, assignments and removals.  What it holds
then is said here of the edits alone, the earliest edit first, with columns compared by
`Identifier.equiv`.

* `present` says whether a column was put and not removed since.
* `Stores` says which value an edit stores under a column.  An assignment stores nothing when the
  column is not present.
* `insertedAt?` is the column that the edit at a position brings into the row for good: it was
  not present before, and no later edit removes it.

The value of a column is what the last edit of the column stores (`get?_after_iff`), and the
columns are those that were inserted, in the order and the spelling of these insertions
(`columns_after`).
-/

namespace DataMapper

namespace OutboundRow

/-- A change of a row. -/
inductive Edit where
  | put (column : Identifier) (value : Settable)
  | append (column : Identifier) (value : Settable)
  | assign (column : Identifier) (value : Settable)
  | remove (column : Identifier)

namespace Edit

/-- The column that is edited. -/
def column : Edit → Identifier
  | put column _ => column
  | append column _ => column
  | assign column _ => column
  | remove column => column

/-- The column that an edit adds to a row without it. -/
def put? : Edit → Option Identifier
  | put column _ => some column
  | append column _ => some column
  | assign _ _ => none
  | remove _ => none

/-- Whether an edit adds a column to a row without it. -/
def puts (edit : Edit) (column : Identifier) : Bool := edit.put?.any (·.equiv column)

/-- Whether an edit takes a column out of a row. -/
def removes (edit : Edit) (column : Identifier) : Bool :=
  match edit with
  | remove removed => removed.equiv column
  | _ => false

end Edit

/-- The row after an edit. -/
def apply (row : OutboundRow) : Edit → OutboundRow
  | .put column value => row.put column value
  | .append column value => row.append column value
  | .assign column value => row.assign column value
  | .remove column => row.remove column

/-- The row that edits make of the empty one. -/
def after (edits : List Edit) : OutboundRow := edits.foldl apply empty

/-! ## What edits say -/

/-- Whether a column was put and not removed since. -/
def present (column : Identifier) : List Edit → Bool
  | [] => false
  | edit :: later =>
      (edit.puts column && later.all fun next => !next.removes column) || present column later

/-- Whether an edit after others stores a value under a column. -/
inductive Stores (before : List Edit) (other : Identifier) : Edit → Settable → Prop where
  | put {column value} : column.equiv other = true → Stores before other (.put column value) value
  | append {column value} : column.equiv other = true →
      Stores before other (.append column value) value
  | assign {column value} : column.equiv other = true → present other before = true →
      Stores before other (.assign column value) value

theorem Stores.same {before : List Edit} {other : Identifier} {edit : Edit} {value : Settable}
    (h : Stores before other edit value) : edit.column.equiv other = true := by
  cases h <;> assumption

/-- The column that the edit at a position inserts, if no later edit removes it. -/
def insertedAt? (edits : List Edit) (position : Nat) : Option Identifier :=
  (edits[position]?.bind Edit.put?).filter fun column =>
    !present column (edits.take position) &&
      (edits.drop (position + 1)).all fun next => !next.removes column

/-! ## One edit -/

variable {row : OutboundRow} {edits : List Edit} {edit : Edit} {other : Identifier}

theorem Distinct.apply (distinct : row.Distinct) (edit : Edit) : (row.apply edit).Distinct := by
  cases edit with
  | put column value | append column value => exact distinct.put column value
  | assign column value =>
      rw [Distinct, OutboundRow.apply, columns_assign]
      exact distinct
  | remove column => exact distinct.remove column

/-- An edit leaves the values of the columns that are not equivalent to its own. -/
theorem get?_apply_of_ne (distinct : row.Distinct) (different : edit.column.equiv other = false) :
    (row.apply edit).get? other = row.get? other := by
  have apart : ¬ edit.column.equiv other = true := ne_true_of_eq_false different
  cases edit with
  | put column value | append column value =>
      exact (get?_put row column value other).trans (if_neg apart)
  | assign column value => exact (get?_assign row column value other).trans (if_neg apart)
  | remove column => exact (get?_remove distinct column other).trans (if_neg apart)

/-- An edit leaves the other columns with their values in their order. -/
theorem others_apply (row : OutboundRow) (edit : Edit) :
    (row.apply edit).others edit.column = row.others edit.column := by
  cases edit with
  | put column value | append column value => exact others_put row column value
  | assign column value => exact others_assign row column value
  | remove column => exact others_remove row column

/-- A column is there after an edit that puts it, and after any but a removal if it was there. -/
theorem contains_apply (distinct : row.Distinct) (edit : Edit) (other : Identifier) :
    (row.apply edit).contains other
      = (edit.puts other || (row.contains other && !edit.removes other)) := by
  cases edit with
  | put column value | append column value =>
      simp only [contains, apply, append, get?_put, Edit.puts, Edit.put?, Edit.removes,
        Option.any_some]
      cases column.equiv other <;> simp
  | assign column value =>
      simp only [contains, apply, get?_assign, Edit.puts, Edit.put?, Edit.removes, Option.any_none]
      cases column.equiv other <;> simp
  | remove column =>
      simp only [contains, apply, get?_remove distinct, Edit.puts, Edit.put?, Edit.removes,
        Option.any_none]
      cases column.equiv other <;> simp

/-- An edit removes columns and then adds its own, if that is not there. -/
theorem columns_apply (distinct : row.Distinct) (edit : Edit) :
    (row.apply edit).columns
      = (row.columns.filter fun column => !edit.removes column) ++
        (edit.put?.filter fun column => !row.contains column).toList := by
  have all : (row.columns.filter fun _ => !false) = row.columns :=
    List.filter_eq_self.mpr fun _ _ => rfl
  cases edit with
  | put column value | append column value =>
      simp only [apply, append, columns_put, Edit.removes, Edit.put?, all, Option.filter_some]
      cases row.contains column <;> rfl
  | assign column value =>
      simp only [apply, columns_assign, Edit.removes, Edit.put?, all]
      exact (List.append_nil _).symm
  | remove column =>
      simp [apply, columns_remove distinct, Edit.removes, Edit.put?, Identifier.equiv_comm]

/-! ## Many edits -/

theorem after_concat (edits : List Edit) (edit : Edit) :
    after (edits ++ [edit]) = (after edits).apply edit := by
  rw [after, List.foldl_append]
  rfl

/-- No edits give a row two equivalent columns. -/
theorem distinct_after (edits : List Edit) : (after edits).Distinct := by
  induction edits using List.reverseRecOn with
  | nil => exact .nil
  | append_singleton edits edit ih =>
      rw [after_concat]
      exact ih.apply edit

theorem present_concat (other : Identifier) (edits : List Edit) (edit : Edit) :
    present other (edits ++ [edit])
      = (edit.puts other || (present other edits && !edit.removes other)) := by
  induction edits with
  | nil => simp [present]
  | cons first rest ih =>
      simp only [List.cons_append, present, ih, List.all_append, List.all_cons, List.all_nil,
        Bool.and_true]
      cases edit.puts other <;> cases first.puts other <;> cases edit.removes other <;> simp

/-- A row has the columns that are present. -/
theorem contains_after (edits : List Edit) (other : Identifier) :
    (after edits).contains other = present other edits := by
  induction edits using List.reverseRecOn with
  | nil => rfl
  | append_singleton edits edit ih =>
      rw [after_concat, contains_apply (distinct_after edits), ih, present_concat]

/-- After an edit of a column, the column has the value that the edit stores. -/
theorem get?_apply_iff {value : Settable} (same : edit.column.equiv other = true) :
    ((after edits).apply edit).get? other = some value ↔ Stores edits other edit value := by
  cases edit with
  | put column stored | append column stored =>
      have own : ((after edits).put column stored).get? other = some stored :=
        (get?_put ..).trans (if_pos same)
      simp only [apply, append, own, Option.some.injEq]
      constructor
      · rintro rfl
        constructor
        exact same
      · intro h
        cases h
        rfl
  | assign column stored =>
      have own : ((after edits).assign column stored).get? other
          = ((after edits).get? other).map fun _ => stored := (get?_assign ..).trans (if_pos same)
      have there : ((after edits).get? other).isSome = present other edits :=
        contains_after edits other
      rw [apply, own, Option.map_eq_some_iff]
      constructor
      · rintro ⟨old, found, rfl⟩
        rw [found] at there
        exact .assign same there.symm
      · intro h
        cases h with
        | assign _ held =>
            rw [held] at there
            obtain ⟨old, found⟩ := Option.isSome_iff_exists.mp there
            exact ⟨old, found, rfl⟩
  | remove column =>
      have own : ((after edits).remove column).get? other = none :=
        (get?_remove (distinct_after edits) ..).trans (if_pos same)
      rw [apply, own]
      exact ⟨nofun, nofun⟩

/-- The value of a column is what the last edit of the column stores. -/
theorem get?_after_iff {value : Settable} :
    (after edits).get? other = some value ↔
      ∃ before edit later, edits = before ++ edit :: later ∧ Stores before other edit value ∧
        ∀ next ∈ later, next.column.equiv other = false := by
  induction edits using List.reverseRecOn with
  | nil =>
      constructor
      · intro h
        cases h
      · rintro ⟨before, edit, later, whole, -⟩
        cases before <;> cases whole
  | append_singleton edits last ih =>
      rw [after_concat]
      constructor
      · intro h
        cases same : last.column.equiv other with
        | true => exact ⟨edits, last, [], rfl, (get?_apply_iff same).mp h, nofun⟩
        | false =>
            rw [get?_apply_of_ne (distinct_after edits) same, ih] at h
            obtain ⟨before, edit, later, rfl, stores, others⟩ := h
            refine ⟨before, edit, later ++ [last], by simp, stores, fun next mem => ?_⟩
            obtain mem | mem := List.mem_append.mp mem
            · exact others next mem
            · rw [List.mem_singleton.mp mem]
              exact same
      · rintro ⟨before, edit, later, whole, stores, others⟩
        obtain rfl | ⟨later, final, rfl⟩ := List.eq_nil_or_concat later
        · obtain ⟨rfl, ⟨⟩⟩ := List.append_inj' whole rfl
          exact (get?_apply_iff stores.same).mpr stores
        · simp only [List.concat_eq_append, ← List.cons_append, ← List.append_assoc] at whole
          obtain ⟨rfl, ⟨⟩⟩ := List.append_inj' whole rfl
          have apart := others last (by simp)
          rw [get?_apply_of_ne (distinct_after _) apart, ih]
          exact ⟨before, edit, later, rfl, stores, fun next mem => others next (by simp [mem])⟩

/-- One more edit keeps what was inserted, but for what it removes. -/
theorem insertedAt?_concat (edit : Edit) {position : Nat} (earlier : position < edits.length) :
    insertedAt? (edits ++ [edit]) position
      = (insertedAt? edits position).filter fun column => !edit.removes column := by
  simp only [insertedAt?, List.getElem?_append_left earlier,
    List.take_append_of_le_length (Nat.le_of_lt earlier), List.drop_append_of_le_length earlier]
  cases edits[position]?.bind Edit.put? with
  | none => rfl
  | some column =>
      rw [Option.filter_filter]
      simp [Bool.and_assoc]

theorem insertedAt?_length (edits : List Edit) (edit : Edit) :
    insertedAt? (edits ++ [edit]) edits.length
      = edit.put?.filter fun column => !present column edits := by
  simp [insertedAt?]

/-- The columns are those that were inserted and not removed since, in the order of their
insertions. -/
theorem columns_after (edits : List Edit) :
    (after edits).columns = (List.range edits.length).filterMap (insertedAt? edits) := by
  induction edits using List.reverseRecOn with
  | nil => rfl
  | append_singleton edits edit ih =>
      have earlier : (List.range edits.length).filterMap (insertedAt? (edits ++ [edit]))
          = (after edits).columns.filter fun column => !edit.removes column := by
        rw [ih, List.filter_filterMap]
        exact List.filterMap_congr fun position mem =>
          insertedAt?_concat edit (List.mem_range.mp mem)
      rw [after_concat, columns_apply (distinct_after edits), List.length_append,
        List.length_singleton, List.range_succ, List.filterMap_append, earlier]
      simp only [contains_after]
      rw [List.filterMap_cons, insertedAt?_length]
      cases edit.put?.filter fun column => !present column edits <;> rfl

/-- What edits make of the empty row.  No two of its columns are equivalent.  A column has the
value that the last edit of the column stores, if that edit stores one.  The columns are those
that were inserted and not removed since, in the order and the spelling of their insertions.
One more edit leaves all columns but its own, with their values, in their order. -/
theorem follows_edits (edits : List Edit) :
    (after edits).Distinct ∧
      (∀ column value, (after edits).get? column = some value ↔
        ∃ before edit later, edits = before ++ edit :: later ∧
          Stores before column edit value ∧ ∀ next ∈ later, next.column.equiv column = false) ∧
      (after edits).columns = (List.range edits.length).filterMap (insertedAt? edits) ∧
      ∀ edit, ((after edits).apply edit).others edit.column = (after edits).others edit.column :=
  ⟨distinct_after edits, fun _ _ => get?_after_iff, columns_after edits, others_apply _⟩

example : (after [.put (.unquoted "a") (.empty .text), .append (.unquoted "b") (.empty .text),
      .put (.unquoted "A") (.empty .date), .remove (.unquoted "A"), .assign (.unquoted "a")
      (.empty .date), .put (.unquoted "B") (.empty .date), .put (.unquoted "A") (.empty .text)]).columns
    = [.unquoted "b", .unquoted "A"] := by decide

end OutboundRow

end DataMapper
