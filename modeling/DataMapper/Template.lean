import DataMapper.Text.CharClass

/-!
# Query templates

A template is a statement text with placeholders for named parameters.  A
placeholder is one of the sigils `:`, `#`, `$` and `@` with a name after it.  A
name begins with an ASCII letter or an underscore and goes on over ASCII
letters, digits and underscores.  The character before the sigil is neither
such a character nor a sigil, so that the double colon of a cast begins nothing.

A region is quoted text, between two apostrophes or two double quotes, or a
comment, from two hyphens to the end of the line or between `/*` and `*/`.
Regions are found from left to right, and one that is not closed reaches to the
end.  Nothing in a region is a placeholder.

The text is read character by character with a look at the next one.  A
`ScanMode` is what is known at a character, and each character gets a `Mark`:
it is plain text, a sigil, or part of a name.  `Template.segmentsOf` collects
the marks into segments, of text that is not empty and of parameters.

No character is lost: the segments give the text back when each parameter is
written with its sigil.
-/

namespace DataMapper

/-! ## Scanning -/

/-- What is known when a character is read. -/
inductive ScanMode where
  /-- Outside all regions.  `blocked` says that no placeholder can begin, the
  character before being a word character or a sigil. -/
  | code (blocked : Bool)
  /-- In quoted text that ends with a character. -/
  | quoted (quote : Char)
  /-- In a comment that ends with the line. -/
  | lineComment
  /-- At the second character of a comment between marks. -/
  | commentOpening
  /-- In a comment between marks. -/
  | comment
  /-- At the last character of a comment between marks. -/
  | commentClosing
  /-- After a sigil or a character of a name. -/
  | name
  deriving DecidableEq, Repr

/-- What a character of a template is. -/
inductive Mark where
  | text (c : Char)
  /-- A sigil that begins a placeholder. -/
  | sigil (c : Char)
  /-- A character of the name of a placeholder. -/
  | name (c : Char)
  deriving DecidableEq, Repr

def Mark.char : Mark → Char
  | text c | sigil c | name c => c

def isSigil (c : Char) : Bool := c == ':' || c == '#' || c == '$' || c == '@'

/-- Whether no placeholder begins after a character. -/
def blocksPlaceholder (c : Char) : Bool := Text.isAsciiWord c || isSigil c

/-- Whether a character begins quoted text. -/
def isQuote (c : Char) : Bool := c == '\'' || c == '"'

namespace ScanMode

/-- The mark of a character outside all regions, and what is known after it. -/
def stepCode (blocked : Bool) (c : Char) (next : Option Char) : Mark × ScanMode :=
  if isQuote c then (.text c, quoted c)
  else if c = '-' ∧ next = some '-' then (.text c, lineComment)
  else if c = '/' ∧ next = some '*' then (.text c, commentOpening)
  else if isSigil c ∧ blocked = false ∧ next.any Text.isAsciiWordStart then (.sigil c, name)
  else (.text c, code (blocksPlaceholder c))

/-- The mark of a character, and what is known after it. -/
def step (mode : ScanMode) (c : Char) (next : Option Char) : Mark × ScanMode :=
  match mode with
  | code blocked => stepCode blocked c next
  | quoted quote => (.text c, if c = quote then code false else quoted quote)
  | lineComment => (.text c, if c = '\n' then code false else lineComment)
  | commentOpening => (.text c, comment)
  | comment => (.text c, if c = '*' ∧ next = some '/' then commentClosing else comment)
  | commentClosing => (.text c, code false)
  | name => if Text.isAsciiWord c then (.name c, name) else stepCode true c next

end ScanMode

/-- The marks of the characters of a text that is read in a mode. -/
def marksFrom : ScanMode → List Char → List Mark
  | _, [] => []
  | mode, c :: rest =>
      (mode.step c rest.head?).1 :: marksFrom (mode.step c rest.head?).2 rest

/-! ## Segments -/

/-- A piece of a template. -/
inductive Segment where
  | text (s : String)
  | parameter (name : String)
  deriving DecidableEq, Repr

def Segment.name? : Segment → Option String
  | text _ => none
  | parameter name => some name

/-- A piece of a template under construction, in characters. -/
inductive Piece where
  | text (cs : List Char)
  | parameter (sigil : Char) (name : List Char)
  deriving DecidableEq, Repr

def Piece.chars : Piece → List Char
  | text cs => cs
  | parameter sigil name => sigil :: name

def Piece.segment : Piece → Segment
  | text cs => .text (String.ofList cs)
  | parameter _ name => .parameter (String.ofList name)

/-- A character put before pieces. -/
def Piece.consText (c : Char) : List Piece → List Piece
  | text cs :: rest => text (c :: cs) :: rest
  | pieces => text [c] :: pieces

/-- The pieces of marked characters, with the characters of a name that belongs
to a sigil before them. -/
def piecesOf : List Mark → List Char × List Piece
  | [] => ([], [])
  | .name c :: rest => (c :: (piecesOf rest).1, (piecesOf rest).2)
  | .sigil c :: rest => ([], .parameter c (piecesOf rest).1 :: (piecesOf rest).2)
  | .text c :: rest => ([], Piece.consText c (piecesOf rest).2)

def piecesOfChars (cs : List Char) : List Piece := (piecesOf (marksFrom (.code false) cs)).2

/-! ## Templates -/

/-- A statement text with its segments. -/
structure Template where
  text : String
  segments : List Segment
  deriving DecidableEq, Repr

/-- The elements of a list without those that came before. -/
def distinct {α : Type} [DecidableEq α] : List α → List α
  | [] => []
  | x :: rest => x :: (distinct rest).filter (· ≠ x)

namespace Template

def segmentsOf (sql : String) : List Segment := (piecesOfChars sql.toList).map Piece.segment

def parse (sql : String) : Template := ⟨sql, segmentsOf sql⟩

/-- The names of all placeholders, in order. -/
def occurrences (t : Template) : List String := t.segments.filterMap Segment.name?

/-- The names of the parameters, each at its first occurrence. -/
def names (t : Template) : List String := distinct t.occurrences

/-- Whether there is a placeholder. -/
def hasParameters (t : Template) : Bool := !t.names.isEmpty

end Template

/-! ## Lemmas -/

/-- Every mark is that of its character. -/
theorem ScanMode.char_step (mode : ScanMode) (c : Char) (next : Option Char) :
    (mode.step c next).1.char = c := by
  cases mode <;> simp only [step, stepCode] <;> repeat' split
  all_goals rfl

/-- Elements are told apart before or after some are left out. -/
theorem distinct_filter {α : Type} [DecidableEq α] (keep : α → Bool) (xs : List α) :
    distinct (xs.filter keep) = (distinct xs).filter keep := by
  induction xs with
  | nil => rfl
  | cons x rest ih =>
      cases kept : keep x with
      | true =>
          rw [List.filter_cons_of_pos kept, distinct, distinct, List.filter_cons_of_pos kept, ih,
            List.filter_filter, List.filter_filter]
          simp only [Bool.and_comm]
      | false =>
          have out : ¬ keep x = true := by simp [kept]
          rw [List.filter_cons_of_neg out, distinct, List.filter_cons_of_neg out, ih,
            List.filter_filter]
          refine List.filter_congr fun y _ => ?_
          cases keptY : keep y with
          | false => rfl
          | true =>
              have differs : y ≠ x := fun same => out (same ▸ keptY)
              simp [differs]

/-- The distinct elements are those without later duplicates. -/
theorem distinct_eq_eraseDups {α : Type} [DecidableEq α] (xs : List α) :
    distinct xs = xs.eraseDups := by
  match xs with
  | [] => rfl
  | x :: rest =>
      have others : (fun y => !y == x) = fun y => decide (y ≠ x) := by
        funext y
        rw [Bool.eq_iff_iff]
        simp
      rw [List.eraseDups_cons, others, ← distinct_eq_eraseDups, distinct_filter, distinct]
termination_by xs.length
decreasing_by exact Nat.lt_succ_of_le (List.length_filter_le ..)

theorem mem_distinct {α : Type} [DecidableEq α] {x : α} {xs : List α} :
    x ∈ distinct xs ↔ x ∈ xs := by
  rw [distinct_eq_eraseDups, List.mem_eraseDups]

/-! ## Checks -/

example : (Template.parse "a = :x AND b = :y OR c = :x").names = ["x", "y"] := by decide
example : (Template.parse "':x' --:x\n/*:x*/ \":x\" a::x").occurrences = [] := by decide
example : (Template.parse "/*/:a*/:b").occurrences = ["b"] := by decide

end DataMapper
