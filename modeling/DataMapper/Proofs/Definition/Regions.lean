import DataMapper.Proofs.Definition
import DataMapper.Proofs.Template.Joined

/-!
# Accepted names in a statement

A name that is not quoted is written as it is, so a statement is read with all its characters.
An accepted name holds no semicolon, no quote and no character of a comment between marks
(`badCharacters`).  A hyphen it may hold, and two of them begin a comment.  So of the regions
only that comment can be opened in an accepted name, and it is where two hyphens are
(`RegionKind.exists_opens_iff`).  No line ends in the name, so the comment goes on behind it.

An accepted name stands alone between the parts of a statement exactly when no two hyphens
follow each other in it (`EntityDefinition.regions_of_identifier`).
-/

namespace DataMapper

/-! ## Regions in a name -/

section Names

variable {name : List Char} (good : ∀ c ∈ name, c ∉ badCharacters)
include good

namespace RegionKind

/-- Where a region opens among good characters, it is a comment to the end of the line. -/
theorem eq_lineComment_of_opens {kind : RegionKind} {place : Nat} (opens : kind.Opens name place) :
    kind = .lineComment := by
  have mem (c : Char) (mark : c ∈ kind.opening) : c ∉ badCharacters :=
    good c (List.mem_of_mem_drop (opens.subset mark))
  cases kind with
  | lineComment => rfl
  | apostrophes => exact absurd (by decide) (mem '\'' (by decide))
  | doubleQuotes => exact absurd (by decide) (mem '"' (by decide))
  | blockComment => exact absurd (by decide) (mem '/' (by decide))

/-- A region is opened among good characters exactly by two hyphens. -/
theorem exists_opens_iff (kind : RegionKind) :
    (∃ place, kind.Opens name place) ↔ kind = .lineComment ∧ ['-', '-'] <:+: name := by
  constructor
  · rintro ⟨place, opens⟩
    obtain rfl := eq_lineComment_of_opens good opens
    exact ⟨rfl, opens.isInfix.trans (List.drop_suffix place name).isInfix⟩
  · rintro ⟨rfl, front, back, rfl⟩
    refine ⟨front.length, back, ?_⟩
    rw [List.append_assoc, List.drop_left]
    rfl

/-- A region among good characters reaches to the end of the text. -/
theorem length_le_of_isRegion {kind : RegionKind} {start finish : Nat}
    (region : kind.IsRegion name start finish) : name.length ≤ finish := by
  obtain ⟨opens, count, ends, rfl⟩ := region
  obtain rfl := eq_lineComment_of_opens good opens
  rcases ends with ⟨place, newline, -⟩ | ⟨-, rfl⟩
  · have inside := newline.subset (List.mem_singleton_self '\n')
    exact absurd (by decide) (good '\n' (List.mem_of_mem_drop (List.mem_of_mem_drop inside)))
  · rw [List.length_drop]
    omega

end RegionKind

/-- A text of good characters ends outside all regions exactly when no two hyphens follow each
other in it. -/
theorem endsOutside_iff_of_good : EndsOutside name ↔ ¬ ['-', '-'] <:+: name := by
  have spaced : ∀ c ∈ name ++ [' '], c ∉ badCharacters := by
    rw [List.forall_mem_append, List.forall_mem_singleton]
    exact ⟨good, by decide⟩
  have opens_iff := RegionKind.exists_opens_iff spaced
  constructor
  · rintro ⟨regions, opaqueFrom, early⟩ hyphens
    obtain ⟨place, opens⟩ :=
      (opens_iff .lineComment).mpr ⟨rfl, hyphens.trans List.infix_append_left⟩
    obtain ⟨region, mem, -⟩ := opaqueFrom.complete place (Nat.zero_le _) _ opens
    obtain ⟨kind, isRegion⟩ := opaqueFrom.isRegion region mem
    have late := RegionKind.length_le_of_isRegion spaced isRegion
    have := early region mem
    rw [List.length_append, List.length_singleton] at late
    omega
  · intro none
    -- the space behind the text is no hyphen
    have behind : ¬ ['-', '-'] <:+: name ++ [' '] := by
      rw [List.infix_concat_iff, List.suffix_concat_iff]
      rintro ((nothing | ⟨front, same, -⟩) | inside)
      · cases nothing
      · have last := congrArg List.getLast? same
        rw [List.getLast?_append] at last
        cases last
      · exact none inside
    exact ⟨[], ⟨.nil, nofun, nofun, fun place _ kind opens =>
      absurd ((opens_iff kind).mp ⟨place, opens⟩).2 behind⟩, nofun⟩

end Names

/-! ## Accepted names -/

namespace EntityDefinition

/-- The identifiers of a definition that are written in statements: the table and the columns. -/
def identifiers (e : EntityDefinition) : List Identifier :=
  ⟨e.table, e.quoted⟩ :: e.persistentFields.map FieldDefinition.identifier

/-- A definition without violations has names of good characters. -/
theorem good_of_violations {e : EntityDefinition} (h : e.violations = []) {i : Identifier}
    (mem : i ∈ e.identifiers) : ∀ c ∈ i.name.toList, c ∉ badCharacters := by
  obtain ⟨table, columns, -⟩ := names_of_violations h
  rcases List.mem_cons.mp mem with rfl | column
  · exact (nameViolation?_eq_none_iff.mp table).2
  · obtain ⟨f, hf, rfl⟩ := List.mem_map.mp column
    exact (nameViolation?_eq_none_iff.mp (columns f hf)).2

/-- No name of a definition without violations ends a statement, and two hyphens are all that
opens a region in one.  Written without quotes, it stands alone exactly when it has no two
hyphens. -/
theorem regions_of_identifier {e : EntityDefinition} (accepted : e.violations = [])
    {i : Identifier} (mem : i ∈ e.identifiers) :
    ';' ∉ i.name.toList ∧
      (∀ kind : RegionKind, (∃ place, kind.Opens i.name.toList place) ↔
        kind = .lineComment ∧ ['-', '-'] <:+: i.name.toList) ∧
      (i.quoted = false → ∀ p : IdentifierProcessing,
        (Template.StandsAlone (i.toSql p) ↔ ¬ ['-', '-'] <:+: i.name.toList)) := by
  have good := good_of_violations accepted mem
  refine ⟨fun semicolon => good ';' semicolon (by decide), RegionKind.exists_opens_iff good, ?_⟩
  intro plain p
  have written : i.toSql p = i.name := by rw [Identifier.toSql, plain]; rfl
  rw [written, Template.standsAlone_iff]
  exact endsOutside_iff_of_good good

/-- Single hyphens in the name of a column that is written without quotes. -/
theorem regions_of_identifier_hyphen :
    let e : EntityDefinition :=
      ⟨"Order", "order", true, false, [⟨"net", "a-b-", false, false, false⟩]⟩
    e.violations = [] ∧ Identifier.unquoted "a-b-" ∈ e.identifiers ∧
      (Identifier.unquoted "a-b-").quoted = false ∧
      Template.StandsAlone ((Identifier.unquoted "a-b-").toSql .ansi) := by
  intro e
  have accepted : e.violations = [] := by decide
  have mem : Identifier.unquoted "a-b-" ∈ e.identifiers := by decide
  obtain ⟨-, -, alone⟩ := regions_of_identifier accepted mem
  exact ⟨accepted, mem, rfl, (alone rfl .ansi).mpr (by decide)⟩

/-- A name with two hyphens is accepted, and where it is written the rest of a statement is a
comment. -/
theorem regions_of_identifier_comment :
    let d : Declaration := {
      name := "Person"
      attributes := [⟨["sql"], [⟨["table"], some (.text "person--")⟩]⟩]
      fields := [⟨"id", []⟩] }
    let e : EntityDefinition :=
      ⟨"Person", "person--", false, false, [⟨"id", "id", false, false, false⟩]⟩
    d.define "sql" = .ok e ∧ e.violations = [] ∧
      Identifier.unquoted "person--" ∈ e.identifiers ∧
      RegionKind.lineComment.Opens "person--".toList 6 ∧
      (Template.parse "WHERE id = :id").places = [(11, "id")] ∧
      (Template.parse ("SELECT * FROM" ++ " " ++ (Identifier.unquoted "person--").toSql .ansi
        ++ " " ++ "WHERE id = :id")).places = [] := by
  refine ⟨rfl, by decide, by decide, ⟨[], by decide⟩, by decide, by decide⟩

end EntityDefinition

end DataMapper
