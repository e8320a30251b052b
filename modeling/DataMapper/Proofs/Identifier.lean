import DataMapper.Dialect

/-!
# Identifiers that are written alike

A quoted name is written between two characters, and the closing one is doubled
inside it.  So nothing of the name is lost: `Quoting.read?` gives it back from
every text that starts with it (`Quoting.read?_eq_some_iff`), and two names are
quoted alike only when they are the same name (`Quoting.apply_eq_iff`).  A reader
never stops inside the name, for an escaped name is read whole whatever comes
behind it (`Quoting.unescape?_escape_append`).

What is lost is what a dialect folds before it quotes.  Besides, an unquoted name
is written as it is, and it may hold quotes of its own.  `IdentifierProcessing.Collides`
names these two cases, and by `Identifier.toSql_eq_iff` there are no others in
which two identifiers that are not equivalent are written alike.
-/

namespace DataMapper

/-! ## Quoted names -/

namespace Quoting

variable {q : Quoting} {c : Char} {name rest text : List Char}

theorem escape_closing (q : Quoting) (rest : List Char) :
    q.escape (q.closing :: rest) = q.closing :: q.closing :: q.escape rest :=
  if_pos rfl

theorem escape_of_ne (h : c ≠ q.closing) (rest : List Char) :
    q.escape (c :: rest) = c :: q.escape rest :=
  if_neg h

/-- A doubled closing character is one character of the name. -/
theorem unescape?_closing_closing (q : Quoting) (rest : List Char) :
    q.unescape? (q.closing :: q.closing :: rest)
      = (q.unescape? rest).map fun (name, rest) => (q.closing :: name, rest) := by
  rw [unescape?, if_pos rfl, if_pos rfl]

/-- A closing character that is not doubled ends the name. -/
theorem unescape?_closing (h : rest.head? ≠ some q.closing) :
    q.unescape? (q.closing :: rest) = some ([], rest) := by
  cases rest with
  | nil => rw [unescape?, if_pos rfl]
  | cons d rest =>
      have single : d ≠ q.closing := fun doubled => h (congrArg some doubled)
      rw [unescape?, if_pos rfl, if_neg single]

/-- Any other character is one of the name. -/
theorem unescape?_of_ne (h : c ≠ q.closing) (rest : List Char) :
    q.unescape? (c :: rest) = (q.unescape? rest).map fun (name, rest) => (c :: name, rest) := by
  cases rest with
  | nil => exact if_neg h
  | cons d rest => exact if_neg h

/-- An escaped name is read whole, and reading goes on behind it. -/
theorem unescape?_escape_append (q : Quoting) (name text : List Char) :
    q.unescape? (q.escape name ++ text)
      = (q.unescape? text).map fun (more, rest) => (name ++ more, rest) := by
  induction name with
  | nil => simp [escape]
  | cons c name ih =>
      by_cases closes : c = q.closing
      · subst closes
        rw [escape_closing, List.cons_append, List.cons_append, unescape?_closing_closing, ih,
          Option.map_map]
        rfl
      · rw [escape_of_ne closes, List.cons_append, unescape?_of_ne closes, ih, Option.map_map]
        rfl

/-- A name is read up to the closing character behind it. -/
theorem unescape?_escape (h : rest.head? ≠ some q.closing) (name : List Char) :
    q.unescape? (q.escape name ++ q.closing :: rest) = some (name, rest) := by
  rw [unescape?_escape_append, unescape?_closing h, Option.map_some]
  exact congrArg (fun read => some (read, rest)) (List.append_nil name)

/-- What is read is a name with its closing characters doubled, then one that is
not doubled. -/
theorem eq_escape_of_unescape? (h : q.unescape? text = some (name, rest)) :
    text = q.escape name ++ q.closing :: rest ∧ rest.head? ≠ some q.closing := by
  fun_induction q.unescape? text generalizing name with
  | case1 => cases h
  | case2 =>
      cases h
      exact ⟨rfl, nofun⟩
  | case3 => cases h
  | case4 tail ih =>
      obtain ⟨⟨inner, after⟩, hinner, same⟩ := Option.map_eq_some_iff.mp h
      cases same
      obtain ⟨rfl, single⟩ := ih hinner
      rw [escape_closing]
      exact ⟨rfl, single⟩
  | case5 d tail single =>
      cases h
      exact ⟨rfl, fun doubled => single (Option.some.inj doubled)⟩
  | case6 c d tail other ih =>
      obtain ⟨⟨inner, after⟩, hinner, same⟩ := Option.map_eq_some_iff.mp h
      cases same
      obtain ⟨htext, single⟩ := ih hinner
      rw [htext, escape_of_ne other]
      exact ⟨rfl, single⟩

/-- What is left is behind the first character. -/
theorem suffix_of_unescape? (h : q.unescape? (c :: text) = some (name, rest)) : rest <:+ text := by
  obtain ⟨whole, -⟩ := eq_escape_of_unescape? h
  cases escaped : q.escape name with
  | nil =>
      rw [escaped] at whole
      cases whole
      exact List.suffix_rfl
  | cons d inner =>
      rw [escaped] at whole
      cases whole
      exact ⟨inner ++ [q.closing], List.append_assoc ..⟩

/-- A name is read exactly from the texts that start with it in quotes. -/
theorem read?_eq_some_iff :
    q.read? text = some (name, rest) ↔
      text = q.opening :: q.escape name ++ q.closing :: rest ∧ rest.head? ≠ some q.closing := by
  constructor
  · intro h
    cases text with
    | nil => cases h
    | cons c text =>
        rw [read?] at h
        split at h
        next opens =>
          obtain ⟨rfl, single⟩ := eq_escape_of_unescape? h
          rw [opens]
          exact ⟨rfl, single⟩
        next => cases h
  · rintro ⟨rfl, single⟩
    rw [List.cons_append, read?, if_pos rfl]
    exact unescape?_escape single name

theorem toList_apply (q : Quoting) (name : String) :
    (q.apply name).toList = q.opening :: (q.escape name.toList ++ [q.closing]) := by
  rw [apply, String.toList_ofList]
  rfl

/-- A name in quotes is read up to its last quote, and what is read further is what is read
from there. -/
theorem read?_apply_append (q : Quoting) (name : String) (text : List Char) :
    q.read? ((q.apply name).toList ++ text)
      = (q.unescape? (q.closing :: text)).map fun (more, rest) => (name.toList ++ more, rest) := by
  rw [toList_apply, List.cons_append, List.append_assoc, List.singleton_append, read?, if_pos rfl,
    unescape?_escape_append]

/-- A text is a name in quotes exactly when the name is read from it and nothing
is left. -/
theorem apply_eq_iff {name text : String} :
    q.apply name = text ↔ q.read? text.toList = some (name.toList, []) := by
  rw [read?_eq_some_iff, apply, ← String.toList_inj, String.toList_ofList]
  constructor
  · intro same
    exact ⟨same.symm, nofun⟩
  · rintro ⟨same, -⟩
    exact same.symm

/-- Quoting loses nothing of a name. -/
theorem apply_inj {a b : String} : q.apply a = q.apply b ↔ a = b := by
  constructor
  · intro same
    have first := apply_eq_iff.mp same
    have second := apply_eq_iff.mp (Eq.refl (q.apply b))
    have names := Option.some.inj (first.symm.trans second)
    exact String.toList_inj.mp (Prod.mk.inj names).1
  · rintro rfl
    rfl

end Quoting

/-! ## Names that a dialect quotes -/

namespace IdentifierProcessing

/-- A name that a dialect quotes is read back as it is folded, from the whole of what is
written.  Nothing in the name ends the reading before that, whatever is behind it, and two names
are written alike exactly when they are folded alike. -/
theorem read_quoted (p : IdentifierProcessing) (name : String) :
    p.quoting.read? (p.apply name).toList = some ((p.casing.apply name).toList, []) ∧
      (∀ behind : List Char, behind.head? ≠ some p.quoting.closing →
        p.quoting.read? ((p.apply name).toList ++ behind)
          = some ((p.casing.apply name).toList, behind)) ∧
      (∀ behind read rest : List Char,
        p.quoting.read? ((p.apply name).toList ++ behind) = some (read, rest) →
          (p.casing.apply name).toList <+: read ∧ rest <:+ behind) ∧
      ∀ other : String,
        p.apply name = p.apply other ↔ p.casing.apply name = p.casing.apply other := by
  refine ⟨Quoting.apply_eq_iff.mp rfl, fun behind single => ?_, fun behind read rest h => ?_,
    fun other => Quoting.apply_inj⟩
  · rw [apply, Quoting.read?_apply_append, Quoting.unescape?_closing single, Option.map_some]
    exact congrArg (fun read => some (read, behind)) (List.append_nil _)
  · rw [apply, Quoting.read?_apply_append] at h
    obtain ⟨⟨more, left⟩, further, same⟩ := Option.map_eq_some_iff.mp h
    cases same
    exact ⟨List.prefix_append _ _, Quoting.suffix_of_unescape? further⟩

/-- A name that ends in quotes, before a space and before one more quote. -/
theorem read_quoted_trailing :
    let p := ansi
    let written := "\"A\"\"\"\"\"".toList
    (p.apply "a\"\"").toList = written ∧
      " x".toList.head? ≠ some p.quoting.closing ∧
      p.quoting.read? (written ++ " x".toList) = some ("A\"\"".toList, " x".toList) ∧
      p.quoting.read? (written ++ "\"b\" x".toList) = some ("A\"\"\"b".toList, " x".toList) ∧
      "A\"\"".toList <+: "A\"\"\"b".toList ∧ " x".toList <:+ "\"b\" x".toList := by
  intro p written
  have same : (p.apply "a\"\"").toList = written := by decide
  have folded : (p.casing.apply "a\"\"").toList = "A\"\"".toList := by decide
  have single : " x".toList.head? ≠ some p.quoting.closing := by decide
  have longer : p.quoting.read? (written ++ "\"b\" x".toList)
      = some ("A\"\"\"b".toList, " x".toList) := by decide
  obtain ⟨-, stops, ends, -⟩ := read_quoted p "a\"\""
  rw [same, folded] at stops ends
  exact ⟨same, single, stops _ single, longer, ends _ _ _ longer⟩

end IdentifierProcessing

/-! ## Collisions -/

namespace IdentifierProcessing

/-- Whether an unquoted name is spelled as a quoted one is written. -/
def SpellsOut (p : IdentifierProcessing) (spelled quoted : String) : Prop :=
  p.quoting.read? spelled.toList = some ((p.casing.apply quoted).toList, [])

/-- Whether two identifiers that are not equivalent are one name for the dialect:
both are quoted and their names are folded alike, or one is quoted and the name of
the other is spelled as it is written. -/
def Collides (p : IdentifierProcessing) (a b : Identifier) : Prop :=
  match a.quoted, b.quoted with
  | true, true => p.casing.apply a.name = p.casing.apply b.name
  | true, false => p.SpellsOut b.name a.name
  | false, true => p.SpellsOut a.name b.name
  | false, false => False

instance (p : IdentifierProcessing) (spelled quoted : String) :
    Decidable (p.SpellsOut spelled quoted) :=
  inferInstanceAs (Decidable (_ = _))

instance (p : IdentifierProcessing) : DecidableRel p.Collides
  | ⟨_, true⟩, ⟨_, true⟩ => inferInstanceAs (Decidable (_ = _))
  | ⟨a, true⟩, ⟨b, false⟩ => inferInstanceAs (Decidable (p.SpellsOut b a))
  | ⟨a, false⟩, ⟨b, true⟩ => inferInstanceAs (Decidable (p.SpellsOut a b))
  | ⟨_, false⟩, ⟨_, false⟩ => .isFalse id

end IdentifierProcessing

/-- Two identifiers that are not equivalent are written alike exactly when they
collide. -/
theorem Identifier.toSql_eq_iff {p : IdentifierProcessing} {a b : Identifier}
    (apart : a.equiv b = false) : a.toSql p = b.toSql p ↔ p.Collides a b := by
  obtain ⟨name, quoted⟩ := a
  obtain ⟨other, otherQuoted⟩ := b
  cases quoted with
  | true =>
      cases otherQuoted with
      | true => exact Quoting.apply_inj
      | false => exact Quoting.apply_eq_iff
  | false =>
      cases otherQuoted with
      | true => exact eq_comm.trans Quoting.apply_eq_iff
      | false =>
          -- written alike, they have one name, and then they are equivalent
          refine ⟨fun same => ?_, False.elim⟩
          obtain rfl : name = other := same
          rw [(equiv_iff _ _).mpr rfl] at apart
          cases apart

example : IdentifierProcessing.ansi.Collides (.ofQuoted "name") (.ofQuoted "Name") := by decide
example : IdentifierProcessing.ansi.Collides (.unquoted "\"NAME\"") (.ofQuoted "name") := by decide
example : ¬ Dialect.mysql.identifiers.Collides (.ofQuoted "name") (.ofQuoted "Name") := by decide

end DataMapper
