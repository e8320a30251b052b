import DataMapper.OutboundRow

/-!
# Outbound rows by place

Putting a column that is not in a row adds it at the end, and putting one that is
there changes its value where it stands.  Columns whose names differ in more than
the case of ASCII letters are never taken for each other, quoted or not.

So no put gives a row two equivalent columns (`OutboundRow.Distinct.put`), and what
holds of all values of a row and of the one that is put holds afterwards
(`OutboundRow.forall_put`).

A put, an assignment and a removal are each described by three laws: what the value
of a column is afterwards, what the columns are, and that the entries of columns that
are not equivalent stay in their order (`OutboundRow.others`).
-/

namespace DataMapper

namespace Identifier

theorem equiv_refl (a : Identifier) : a.equiv a = true := (equiv_iff a a).mpr rfl

theorem equiv_comm (a b : Identifier) : a.equiv b = b.equiv a := by
  rw [Bool.eq_iff_iff, equiv_iff, equiv_iff]
  exact eq_comm

/-- Equivalent identifiers are equivalent to the same ones. -/
theorem equiv_congr {a b : Identifier} (h : a.equiv b = true) (c : Identifier) :
    a.equiv c = b.equiv c := by
  rw [Bool.eq_iff_iff, equiv_iff, equiv_iff, (equiv_iff a b).mp h]

theorem equiv_congr_right {a b : Identifier} (h : a.equiv b = true) (c : Identifier) :
    c.equiv a = c.equiv b := by
  rw [equiv_comm c, equiv_comm c, equiv_congr h]

/-- No identifier is equivalent to two that are not equivalent, so it does not matter which of
them it is compared to first. -/
theorem ite_equiv_comm {α : Type} {a b : Identifier} (different : ¬ a.equiv b = true)
    (c : Identifier) (x y z : α) :
    (if a.equiv c then x else if b.equiv c then y else z)
      = if b.equiv c then y else if a.equiv c then x else z := by
  by_cases same : b.equiv c = true
  · rw [equiv_congr_right same] at different
    rw [if_neg different, if_pos same, if_pos same]
  · rw [if_neg same, if_neg same]

/-- Equivalent identifiers differ at most in the case of ASCII letters. -/
theorem foldLabel_eq_of_equiv {a b : Identifier} (h : a.equiv b = true) :
    Text.foldLabel a.name = Text.foldLabel b.name := by
  have keys := (equiv_iff a b).mp h
  obtain ⟨name, quoted⟩ := a
  obtain ⟨other, otherQuoted⟩ := b
  simp only [key, Prod.mk.injEq] at keys
  obtain ⟨rfl, same⟩ := keys
  cases quoted with
  | true => exact congrArg (List.map Char.toLower) same
  | false => exact same

/-- Identifiers whose names differ in more than letter case are not equivalent. -/
theorem equiv_eq_false {a b : Identifier} (h : Text.foldLabel a.name ≠ Text.foldLabel b.name) :
    a.equiv b = false :=
  Bool.eq_false_iff.mpr fun same => h (foldLabel_eq_of_equiv same)

end Identifier

namespace OutboundRow

variable {column : Identifier} {value old : Settable}

/-- A new column is added at the end. -/
theorem putEntry_of_forall {entries : List (Identifier × Settable)}
    (h : ∀ entry ∈ entries, entry.1.equiv column = false) :
    putEntry column value entries = entries ++ [(column, value)] := by
  induction entries with
  | nil => rfl
  | cons entry rest ih =>
      obtain ⟨first, later⟩ := List.forall_mem_cons.mp h
      rw [putEntry, first, ih later]
      rfl

/-- A column that is there is changed where it stands. -/
theorem putEntry_append_cons {before : List (Identifier × Settable)}
    (h : ∀ entry ∈ before, entry.1.equiv column = false) (rest : List (Identifier × Settable)) :
    putEntry column value (before ++ (column, old) :: rest)
      = before ++ (column, value) :: rest := by
  induction before with
  | nil => rw [List.nil_append, putEntry, Identifier.equiv_refl]; rfl
  | cons entry others ih =>
      obtain ⟨first, later⟩ := List.forall_mem_cons.mp h
      rw [List.cons_append, putEntry, first, ih later]
      rfl

/-- The value of a column is found behind columns that are not equivalent. -/
theorem get?_append_cons {before : List (Identifier × Settable)}
    (h : ∀ entry ∈ before, entry.1.equiv column = false) (rest : List (Identifier × Settable)) :
    get? ⟨before ++ (column, old) :: rest⟩ column = some old := by
  have none : before.find? (fun entry => entry.1.equiv column) = none := by
    rw [List.find?_eq_none]
    intro entry hentry
    rw [h entry hentry]
    nofun
  rw [get?, List.find?_append, none, List.find?_cons, Identifier.equiv_refl]
  rfl

/-- Putting a column that is there leaves the columns as they are. -/
theorem map_fst_putEntry {entries : List (Identifier × Settable)}
    (h : ∃ entry ∈ entries, entry.1.equiv column = true) :
    (putEntry column value entries).map (·.1) = entries.map (·.1) := by
  induction entries with
  | nil => simp at h
  | cons entry rest ih =>
      obtain ⟨key, old⟩ := entry
      rw [putEntry]
      split
      next => rfl
      next different =>
        obtain ⟨found, hfound, same⟩ := h
        rcases List.mem_cons.mp hfound with rfl | later
        · exact absurd same different
        · rw [List.map_cons, ih ⟨found, later, same⟩, List.map_cons]

/-- A put keeps the columns apart. -/
theorem Distinct.put {row : OutboundRow} (distinct : row.Distinct) (column : Identifier)
    (value : Settable) : (row.put column value).Distinct := by
  rw [Distinct, columns, OutboundRow.put]
  by_cases there : ∃ entry ∈ row.entries, entry.1.equiv column = true
  · rw [map_fst_putEntry there]
    exact distinct
  · have apart : ∀ entry ∈ row.entries, entry.1.equiv column = false := by
      intro entry hentry
      exact Bool.eq_false_iff.mpr fun same => there ⟨entry, hentry, same⟩
    rw [putEntry_of_forall apart, List.map_append, List.pairwise_append]
    refine ⟨distinct, List.pairwise_singleton .., ?_⟩
    intro key hkey new hnew
    obtain ⟨entry, hentry, rfl⟩ := List.mem_map.mp hkey
    rw [List.mem_singleton.mp hnew]
    exact apart entry hentry

/-! ## One change -/

theorem get?_cons (key : Identifier) (old : Settable) (rest : List (Identifier × Settable))
    (other : Identifier) :
    get? ⟨(key, old) :: rest⟩ other = if key.equiv other then some old else get? ⟨rest⟩ other := by
  rw [get?, List.find?_cons]
  cases key.equiv other <;> rfl

/-- A row has no value for a column exactly when none of its columns is equivalent. -/
theorem get?_eq_none_iff {row : OutboundRow} :
    row.get? column = none ↔ ∀ key ∈ row.columns, key.equiv column = false := by
  rw [get?, Option.map_eq_none_iff, List.find?_eq_none, columns, List.forall_mem_map]
  simp only [Bool.not_eq_true]

/-- Equivalent columns have the same value. -/
theorem get?_congr (row : OutboundRow) {other : Identifier} (same : column.equiv other = true) :
    row.get? other = row.get? column := by
  rw [get?, get?]
  simp only [Identifier.equiv_congr_right same]

/-- A put gives its column the value and leaves the values of the others. -/
theorem get?_put (row : OutboundRow) (column : Identifier) (value : Settable)
    (other : Identifier) :
    (row.put column value).get? other
      = if column.equiv other then some value else row.get? other := by
  obtain ⟨entries⟩ := row
  induction entries with
  | nil => exact get?_cons column value [] other
  | cons entry rest ih =>
      obtain ⟨key, old⟩ := entry
      rw [put, putEntry]
      split
      next same =>
        rw [get?_cons, get?_cons, Identifier.equiv_congr same]
        split <;> rfl
      next different =>
        have later : get? ⟨putEntry column value rest⟩ other
            = if column.equiv other then some value else get? ⟨rest⟩ other := ih
        rw [get?_cons, get?_cons, later]
        exact Identifier.ite_equiv_comm different ..

/-- An assignment gives its column the value if the column is there. -/
theorem get?_assign (row : OutboundRow) (column : Identifier) (value : Settable)
    (other : Identifier) :
    (row.assign column value).get? other
      = if column.equiv other then (row.get? other).map fun _ => value else row.get? other := by
  rw [assign, contains]
  by_cases same : column.equiv other = true
  · rw [if_pos same, row.get?_congr same]
    cases there : row.get? column with
    | none => exact (row.get?_congr same).trans there
    | some old => exact (get?_put row column value other).trans (if_pos same)
  · rw [if_neg same]
    split
    · rw [get?_put, if_neg same]
    · rfl

/-- A removal takes the value of its column and leaves the values of the others. -/
theorem get?_remove {row : OutboundRow} (distinct : row.Distinct) (column other : Identifier) :
    (row.remove column).get? other = if column.equiv other then none else row.get? other := by
  obtain ⟨entries⟩ := row
  induction entries with
  | nil => exact (ite_self _).symm
  | cons entry rest ih =>
      obtain ⟨key, old⟩ := entry
      obtain ⟨first, apart⟩ := List.pairwise_cons.mp distinct
      rw [remove, removeEntry]
      split
      next same =>
        rw [get?_cons, Identifier.equiv_congr same]
        by_cases here : column.equiv other = true
        · rw [if_pos here, get?_eq_none_iff]
          intro later mem
          rw [← Identifier.equiv_congr_right here, ← Identifier.equiv_congr_right same,
            Identifier.equiv_comm]
          exact first later mem
        · rw [if_neg here, if_neg here]
      next different =>
        have later : get? ⟨removeEntry column rest⟩ other
            = if column.equiv other then none else get? ⟨rest⟩ other := ih apart
        rw [get?_cons, get?_cons, later]
        exact Identifier.ite_equiv_comm different ..

/-- A row has a column exactly when one of its columns is equivalent. -/
theorem contains_eq_false_iff {row : OutboundRow} :
    row.contains column = false ↔ ∀ key ∈ row.columns, key.equiv column = false := by
  rw [contains, Option.isSome_eq_false_iff, Option.isNone_iff_eq_none, get?_eq_none_iff]

/-- A put adds its column at the end unless it is there. -/
theorem columns_put (row : OutboundRow) (column : Identifier) (value : Settable) :
    (row.put column value).columns
      = row.columns ++ if row.contains column then [] else [column] := by
  cases there : row.contains column with
  | false =>
      rw [contains_eq_false_iff, columns, List.forall_mem_map] at there
      rw [columns, put, putEntry_of_forall there, List.map_append]
      rfl
  | true =>
      obtain ⟨value', found⟩ := Option.isSome_iff_exists.mp there
      obtain ⟨entry, found, -⟩ := Option.map_eq_some_iff.mp found
      have same := List.find?_some found
      rw [columns, put, map_fst_putEntry ⟨entry, List.mem_of_find?_eq_some found, same⟩]
      exact (List.append_nil _).symm

theorem columns_assign (row : OutboundRow) (column : Identifier) (value : Settable) :
    (row.assign column value).columns = row.columns := by
  rw [assign]
  split
  next there => rw [columns_put, if_pos there, List.append_nil]
  next => rfl

/-- A removal takes the equivalent columns, of which there is one at most. -/
theorem columns_remove {row : OutboundRow} (distinct : row.Distinct) (column : Identifier) :
    (row.remove column).columns = row.columns.filter fun key => !key.equiv column := by
  obtain ⟨entries⟩ := row
  induction entries with
  | nil => rfl
  | cons entry rest ih =>
      obtain ⟨key, old⟩ := entry
      obtain ⟨first, apart⟩ := List.pairwise_cons.mp distinct
      have later : columns ⟨removeEntry column rest⟩
          = (columns ⟨rest⟩).filter fun key => !key.equiv column := ih apart
      have whole : columns ⟨(key, old) :: rest⟩ = key :: columns ⟨rest⟩ := rfl
      rw [whole, List.filter_cons, ← later, remove, removeEntry]
      split
      next same =>
        have all : ∀ other ∈ columns ⟨rest⟩, (!other.equiv column) = true := by
          intro other mem
          rw [← Identifier.equiv_congr_right same, Identifier.equiv_comm, first other mem]
          rfl
        rw [later, List.filter_eq_self.mpr all, same]
        rfl
      next different =>
        rw [Bool.not_eq_true] at different
        rw [different]
        rfl

/-- A removal keeps the columns apart. -/
theorem Distinct.remove {row : OutboundRow} (distinct : row.Distinct) (column : Identifier) :
    (row.remove column).Distinct := by
  rw [Distinct, columns_remove distinct]
  exact distinct.filter _

/-- The entries of the columns that are not equivalent to one. -/
def others (row : OutboundRow) (column : Identifier) : List (Identifier × Settable) :=
  row.entries.filter fun entry => !entry.1.equiv column

theorem others_cons (key : Identifier) (old : Settable) (rest : List (Identifier × Settable))
    (column : Identifier) :
    others ⟨(key, old) :: rest⟩ column
      = if key.equiv column then others ⟨rest⟩ column else (key, old) :: others ⟨rest⟩ column := by
  rw [others, List.filter_cons]
  cases key.equiv column <;> rfl

/-- A put leaves the other columns with their values in their order. -/
theorem others_put (row : OutboundRow) (column : Identifier) (value : Settable) :
    (row.put column value).others column = row.others column := by
  obtain ⟨entries⟩ := row
  induction entries with
  | nil => rw [put, putEntry, others_cons, if_pos column.equiv_refl]
  | cons entry rest ih =>
      obtain ⟨key, old⟩ := entry
      rw [put, putEntry]
      split
      next same => rw [others_cons, others_cons, if_pos same, if_pos same]
      next different =>
        rw [others_cons, others_cons, if_neg different, if_neg different]
        exact congrArg _ ih

theorem others_assign (row : OutboundRow) (column : Identifier) (value : Settable) :
    (row.assign column value).others column = row.others column := by
  rw [assign]
  split
  · exact others_put row column value
  · rfl

/-- A removal leaves the other columns with their values in their order. -/
theorem others_remove (row : OutboundRow) (column : Identifier) :
    (row.remove column).others column = row.others column := by
  obtain ⟨entries⟩ := row
  induction entries with
  | nil => rfl
  | cons entry rest ih =>
      obtain ⟨key, old⟩ := entry
      rw [remove, removeEntry]
      split
      next same => rw [others_cons, if_pos same]
      next different =>
        rw [others_cons, others_cons, if_neg different, if_neg different]
        exact congrArg _ ih

/-- What holds of the values of a row and of a value that is put holds after the put. -/
theorem forall_put {P : Settable → Prop} {row : OutboundRow}
    (before : ∀ entry ∈ row.entries, P entry.2) (column : Identifier) {value : Settable}
    (new : P value) : ∀ entry ∈ (row.put column value).entries, P entry.2 := by
  obtain ⟨entries⟩ := row
  induction entries with
  | nil => exact List.forall_mem_singleton.mpr new
  | cons entry rest ih =>
      obtain ⟨key, old⟩ := entry
      obtain ⟨first, later⟩ := List.forall_mem_cons.mp before
      rw [put, putEntry]
      split
      next => exact List.forall_mem_cons.mpr ⟨new, later⟩
      next => exact List.forall_mem_cons.mpr ⟨first, ih later⟩

/-- What is found in a row is one of its values. -/
theorem of_get? {P : Settable → Prop} {row : OutboundRow}
    (all : ∀ entry ∈ row.entries, P entry.2) {column : Identifier} {value : Settable}
    (h : row.get? column = some value) : P value := by
  obtain ⟨entry, found, rfl⟩ := Option.map_eq_some_iff.mp h
  exact all entry (List.mem_of_find?_eq_some found)

end OutboundRow

end DataMapper
