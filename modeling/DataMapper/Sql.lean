import DataMapper.Dialect

/-!
# Statement text with its markers

A statement is written as a list of fragments.  A `Fragment` is plain text or a
marker.  `Sql.text` is the text, in which a marker is its placeholder, and
`Sql.markers` lists the markers from left to right.
-/

namespace DataMapper

/-- A piece of a statement. -/
inductive Fragment where
  | text (s : String)
  | marker (m : Marker)
  deriving DecidableEq, Repr

def Fragment.render : Fragment → String
  | text s => s
  | marker m => m.placeholder

def Fragment.marker? : Fragment → Option Marker
  | text _ => none
  | marker m => some m

/-- A statement or a part of one, as fragments in order. -/
abbrev Sql := List Fragment

namespace Sql

/-- The text of the fragments, one after the other. -/
def text : Sql → String
  | [] => ""
  | fragment :: rest => fragment.render ++ text rest

/-- The markers from left to right. -/
def markers (sql : Sql) : List Marker := sql.filterMap Fragment.marker?

/-- Parts with a separator between them. -/
def separate (separator : String) : List Sql → Sql
  | [] => []
  | [part] => part
  | part :: rest => part ++ .text separator :: separate separator rest

/-- The text of two parts is that of each in turn. -/
theorem text_append (a b : Sql) : text (a ++ b) = text a ++ text b := by
  induction a with
  | nil => simp [text]
  | cons fragment rest ih => simp [text, ih, String.append_assoc]

/-- The markers of two parts are those of each in turn. -/
theorem markers_append (a b : Sql) : markers (a ++ b) = markers a ++ markers b := by
  simp [markers]

/-- Plain text is no marker. -/
theorem markers_text (s : String) (rest : Sql) : markers (.text s :: rest) = markers rest := rfl

/-- Separators are no markers. -/
theorem markers_separate (separator : String) (parts : List Sql) :
    markers (separate separator parts) = parts.flatMap markers := by
  induction parts with
  | nil => rfl
  | cons part rest ih =>
      cases rest with
      | nil => simp [separate]
      | cons next rest =>
          rw [separate, markers_append, List.flatMap_cons, ← ih, markers_text]
          exact List.cons_ne_nil next rest

end Sql

end DataMapper
