import DataMapper.Proofs.Identifier
import DataMapper.Proofs.Template.Joined

/-!
# Quoted names in templates

A template knows one way to quote a name, the double quote, and so do some dialects.  A
closing quote that is doubled in the name ends the region and begins the next one, so all of
the name is in regions, whatever its characters are (`Quoting.marksFrom_escape`).

Other dialects quote with characters that mean nothing in a template.  To a scan a name in
such quotes is the bare name, for a doubled character that means nothing is passed over as a
single one is (`Quoting.marksFrom_escape_of_isPlain`).

So a name that a dialect quotes is opaque when the dialect quotes with double quotes, and
otherwise when the bare name is (`Dialect.isOpaque_toSql`).
-/

namespace DataMapper

namespace ScanMode

variable {d : Char} {mode : ScanMode}

/-- Quoted text does not begin with what is no quote. -/
theorem step_ne_quoted (h : isQuote d = false) (other : mode ≠ quoted d) (c : Char)
    (next : Option Char) : (mode.step c next).2 ≠ quoted d := by
  intro inside
  rcases quoted_of_step inside with same | quote
  · exact other same
  · rw [h] at quote
    cases quote

theorem after_ne_quoted (h : isQuote d = false) (other : mode ≠ quoted d) (cs : List Char) :
    mode.after cs ≠ quoted d := by
  induction cs generalizing mode with
  | nil => exact other
  | cons c rest ih => exact ih (step_ne_quoted h other c _)

theorem pass_ne_quoted (other : mode ≠ quoted d) : mode.pass ≠ quoted d := by
  cases mode with
  | quoted quote => exact other
  | _ => simp [pass]

end ScanMode

/-- In the mode of a region a space is passed over, and outside nothing is known behind it. -/
theorem ScanMode.after_pass_space (mode : ScanMode) : mode.pass.after [' '] = mode.after [' '] := by
  cases mode <;> rfl

/-- The opaque texts as a scan knows them. -/
theorem Template.isOpaque_iff_marks {text : String} :
    IsOpaque text ↔ (∀ c, .sigil c ∉ marksFrom (.code false) text.toList) ∧
      (ScanMode.code false).after (text.toList ++ [' ']) = .code false :=
  isOpaque_iff.trans (and_congr markPlaces_eq_nil_iff endsOutside_iff)

namespace Quoting

variable {q : Quoting}

/-- A name in quotes that are those of a region is text up to the closing quote. -/
theorem marksFrom_escape (quote : isQuote q.closing = true) (name rest : List Char) :
    marksFrom (.quoted q.closing) (q.escape name ++ q.closing :: rest)
        = (q.escape name ++ [q.closing]).map .text ++ marksFrom (.code false) rest ∧
      (ScanMode.quoted q.closing).after (q.escape name ++ q.closing :: rest)
        = (ScanMode.code false).after rest := by
  have ends (next : Option Char) :
      (ScanMode.quoted q.closing).step q.closing next = (.text q.closing, .code false) := by
    simp [ScanMode.step]
  have begins (next : Option Char) :
      (ScanMode.code false).step q.closing next = (.text q.closing, .quoted q.closing) := by
    simp [ScanMode.step, ScanMode.stepCode, quote]
  induction name with
  | nil =>
      rw [escape, List.nil_append, marksFrom, ScanMode.after, ends]
      exact ⟨rfl, rfl⟩
  | cons c name ih =>
      obtain ⟨marks, known⟩ := ih
      by_cases closes : c = q.closing
      · subst closes
        rw [escape_closing, List.cons_append, List.cons_append, marksFrom, ScanMode.after, ends,
          marksFrom, ScanMode.after, begins, marks, known]
        exact ⟨rfl, rfl⟩
      · have inside (next : Option Char) :
            (ScanMode.quoted q.closing).step c next = (.text c, .quoted q.closing) := by
          simp [ScanMode.step, closes]
        rw [escape_of_ne closes, List.cons_append, marksFrom, ScanMode.after, inside, marks, known]
        exact ⟨rfl, rfl⟩

/-- A name keeps its first character when its closing characters are doubled. -/
theorem head?_escape (q : Quoting) (name rest : List Char) :
    (q.escape name ++ rest).head? = (name ++ rest).head? := by
  cases name with
  | nil => rfl
  | cons c name =>
      rw [escape]
      split_ifs <;> rfl

/-- A name in which plain closing characters are doubled has the sigils of the bare name, and
a scan knows the same behind it. -/
theorem marksFrom_escape_of_isPlain (plain : isPlain q.closing = true) {mode : ScanMode}
    (other : mode ≠ .quoted q.closing) (name rest : List Char) (c : Char) :
    (.sigil c ∈ marksFrom mode (q.escape name ++ rest) ↔
        .sigil c ∈ marksFrom mode (name ++ rest)) ∧
      mode.after (q.escape name ++ rest) = mode.after (name ++ rest) := by
  have quote : isQuote q.closing = false := (isPlain_iff.mp plain).2.1
  induction name generalizing mode with
  | nil => exact ⟨Iff.rfl, rfl⟩
  | cons d name ih =>
      by_cases closes : d = q.closing
      · subst closes
        have passed := ScanMode.pass_ne_quoted other
        obtain ⟨marks, known⟩ := ih passed
        rw [escape_closing, List.cons_append, List.cons_append, List.cons_append]
        simp only [marksFrom, ScanMode.after, ScanMode.step_of_isPlain plain other,
          ScanMode.step_of_isPlain plain passed, ScanMode.pass_pass, List.mem_cons, reduceCtorEq,
          false_or]
        exact ⟨marks, known⟩
      · obtain ⟨marks, known⟩ := ih (ScanMode.step_ne_quoted quote other d (name ++ rest).head?)
        rw [escape_of_ne closes, List.cons_append, List.cons_append]
        simp only [marksFrom, ScanMode.after, head?_escape, List.mem_cons]
        exact ⟨or_congr_right marks, known⟩

/-- A name in quotes that are those of a region is opaque. -/
theorem isOpaque_apply (same : q.opening = q.closing) (quote : isQuote q.closing = true)
    (name : String) : Template.IsOpaque (q.apply name) := by
  have opens (next : Option Char) :
      (ScanMode.code false).step q.closing next = (.text q.closing, .quoted q.closing) := by
    simp [ScanMode.step, ScanMode.stepCode, quote]
  rw [Template.isOpaque_iff_marks, toList_apply, same]
  constructor
  · intro c mem
    obtain ⟨marks, -⟩ := marksFrom_escape quote name.toList []
    rw [marksFrom, opens, marks, marksFrom, List.append_nil] at mem
    simp at mem
  · obtain ⟨-, known⟩ := marksFrom_escape quote name.toList [' ']
    rw [List.cons_append, List.append_assoc, List.singleton_append, ScanMode.after, opens, known]
    rfl

/-- A name in plain quotes is opaque exactly when the bare name is. -/
theorem isOpaque_apply_of_isPlain (opens : isPlain q.opening = true)
    (closes : isPlain q.closing = true) (name : String) :
    Template.IsOpaque (q.apply name) ↔ Template.IsOpaque name := by
  have outside (quote : Char) : ScanMode.code false ≠ .quoted quote := nofun
  have first (next : Option Char) :
      (ScanMode.code false).step q.opening next = (.text q.opening, .code false) :=
    ScanMode.step_of_isPlain opens (outside _) next
  have other : (ScanMode.code false).after name.toList ≠ .quoted q.closing :=
    ScanMode.after_ne_quoted (isPlain_iff.mp closes).2.1 (outside _) name.toList
  have last (next : Option Char) := ScanMode.step_of_isPlain closes other next
  have plain (rest : List Char) : (q.closing :: rest).head?.all isPlain = true := closes
  rw [Template.isOpaque_iff_marks, Template.isOpaque_iff_marks, toList_apply]
  refine and_congr (forall_congr' fun c => not_congr ?_) ?_
  · obtain ⟨marks, -⟩ := marksFrom_escape_of_isPlain closes (outside _)
      name.toList [q.closing] c
    rw [marksFrom, first, List.mem_cons, marks, marksFrom_append (plain _), List.mem_append, marksFrom,
      last]
    simp [marksFrom]
  · obtain ⟨-, known⟩ := marksFrom_escape_of_isPlain closes (outside _)
      name.toList [q.closing, ' '] ' '
    rw [List.cons_append, List.append_assoc, List.singleton_append, ScanMode.after, first, known,
      ScanMode.after_append (plain _), ScanMode.after_append rfl, ScanMode.after, last,
      ScanMode.after_pass_space]

end Quoting

namespace Dialect

/-- Between spaces, a name that a dialect quotes changes no placeholder of the text around it
exactly when the dialect quotes with double quotes, or the bare name has no placeholder and
ends outside all regions. -/
theorem isOpaque_toSql {d : Dialect} (known : d ∈ builtIn) (name : String) :
    Template.IsOpaque (d.toSql (.ofQuoted name)) ↔ d.identifiers.quoting = .ansi ∨
      ((Template.parse name).places = [] ∧ EndsOutside name.toList) := by
  have ansi (casing : LetterCasing) : Template.IsOpaque
      ((Identifier.ofQuoted name).toSql ⟨.ansi, casing⟩) :=
    Quoting.isOpaque_apply (q := .ansi) rfl (by decide) _
  have plain {q : Quoting} (other : q ≠ .ansi)
      (marks : isPlain q.opening = true ∧ isPlain q.closing = true) :
      Template.IsOpaque ((Identifier.ofQuoted name).toSql ⟨q, .asIs⟩) ↔ q = .ansi ∨
        ((Template.parse name).places = [] ∧ EndsOutside name.toList) := by
    rw [or_iff_right other, ← Template.isOpaque_iff]
    exact Quoting.isOpaque_apply_of_isPlain marks.1 marks.2 name
  simp only [builtIn, List.mem_cons, List.not_mem_nil, or_false] at known
  rcases known with rfl | rfl | rfl | rfl | rfl
  · exact iff_of_true (ansi .lower) (.inl rfl)
  · exact iff_of_true (ansi .upper) (.inl rfl)
  · exact plain (q := .backtick) (by decide) (by decide)
  · exact iff_of_true (ansi .asIs) (.inl rfl)
  · exact plain (q := .brackets) (by decide) (by decide)

/-- A name in grave accents is opaque when its quotes are closed. -/
theorem isOpaque_toSql_closed :
    mysql ∈ builtIn ∧ Template.IsOpaque (mysql.toSql (.ofQuoted "it''s \x60x\x60")) :=
  have known : mysql ∈ builtIn := by simp [builtIn]
  ⟨known, (isOpaque_toSql known _).mpr (.inr ⟨by decide, by decide⟩)⟩

/-- A name in grave accents that spells a placeholder is read as one. -/
theorem isOpaque_toSql_backtick :
    mysql ∈ builtIn ∧ EndsOutside "SELECT".toList ∧
      (Template.parse ("SELECT" ++ " " ++ mysql.toSql (.ofQuoted ":x") ++ " " ++ "FROM t")).places
        = [(8, "x")] ∧
      (Template.parse ("SELECT" ++ " ")).places = [] ∧ (Template.parse "FROM t").places = [] :=
  ⟨by simp [builtIn], by decide, by decide, by decide, by decide⟩

end Dialect

end DataMapper
