import DataMapper.Proofs.Template.Expansion
import DataMapper.Proofs.Template.Joined

/-!
# Reading an expanded text again

An expansion writes a marker where its template has a placeholder.  The text that it gives can
be read as a template, and then the markers may begin placeholders of their own, or change what
is read around them.

`written` is what is written for marked characters.  A scan of it follows the scan that made
the marks: the two are in one mode wherever the first is not in a name (`ScanMode.settled`).
A step looks ahead by one character, so it may see the beginning of a marker where the scan
before saw a sigil.  Text behind a marker is read as text behind a name.

For this, a marker has to be text of which nothing is told from outside, with a word character
at its end (`ReadsAsText`).  A marker of digits behind a sigil or a plain character is such a
text (`readsAsText_indexed`).  `marksFrom_written` is the induction over the text.  All of the
expanded text is then text, and `Template.expand_again` says of three dialects that expansion
leaves nothing to expand.
-/

namespace DataMapper

/-! ## What is written for marks -/

/-- The characters that are written for marked ones, with a marker for each sigil. -/
def written (marker : Nat → String → Marker) (before : Nat) (marks : List Mark) : List Char :=
  (Sql.text (Template.fill marker before ((piecesOf marks).2.map Piece.segment))).toList

section Written

variable (marker : Nat → String → Marker) (before : Nat) (c : Char) (marks : List Mark)

/-- Text is written as it is. -/
theorem written_text :
    written marker before (.text c :: marks) = c :: written marker before marks := by
  rw [written, piecesOf, written]
  cases (piecesOf marks).2 with
  | nil => simp [Piece.consText, Piece.segment, Template.fill, Sql.text, Fragment.render]
  | cons piece rest =>
      cases piece <;> simp [Piece.consText, Piece.segment, Template.fill, Sql.text, Fragment.render]

/-- A marker is written for a sigil. -/
theorem written_sigil : written marker before (.sigil c :: marks)
    = (marker before (String.ofList (piecesOf marks).1)).placeholder.toList
        ++ written marker (before + 1) marks := by
  rw [written, piecesOf, List.map_cons, Piece.segment, Template.fill, Sql.text,
    String.toList_append]
  rfl

end Written

/-! ## Markers as text -/

/-- Whether a scan reads a placeholder as text, behind which nothing begins, and a step learns
nothing from its first character. -/
structure ReadsAsText (placeholder : List Char) : Prop where
  first : ∃ c rest, placeholder = c :: rest ∧
    ∀ (mode : ScanMode) (d : Char), mode.step d (some c) = mode.step d none
  marks : ∀ rest, marksFrom (.code false) (placeholder ++ rest)
    = placeholder.map .text ++ marksFrom (.code true) rest

/-- Outside all regions and names, a word character is text behind which nothing begins. -/
theorem ScanMode.stepCode_of_word {c : Char} (word : Text.isAsciiWord c = true) (blocked : Bool)
    (next : Option Char) : stepCode blocked c next = (.text c, code true) := by
  have quote : isQuote c = false := by
    rw [Bool.eq_false_iff]
    intro quote
    simp only [isQuote, Bool.or_eq_true, beq_iff_eq] at quote
    rcases quote with rfl | rfl <;> cases word
  have hyphen : c ≠ '-' := by rintro rfl; cases word
  have slash : c ≠ '/' := by rintro rfl; cases word
  simp [stepCode, quote, hyphen, slash, isSigil_of_word word, blocksPlaceholder_of_word word]

/-- Before a character that begins no name, a sigil is text, and so is a plain character. -/
theorem ScanMode.stepCode_of_sigil_or_plain {c d : Char} (h : isSigil c = true ∨ isPlain c = true)
    (start : Text.isAsciiWordStart d = false) (blocked : Bool) :
    ∃ later, stepCode blocked c (some d) = (.text c, code later) := by
  rcases h with sigil | plain
  · simp only [isSigil, Bool.or_eq_true, beq_iff_eq] at sigil
    rcases sigil with ((rfl | rfl) | rfl) | rfl <;>
      exact ⟨true, by simp [stepCode, isQuote, start, blocksPlaceholder, isSigil]⟩
  · have unquoted : code blocked ≠ quoted c := by
      intro same
      cases same
    exact ⟨false, step_of_isPlain plain unquoted (some d)⟩

/-- A run of word characters is text behind which nothing begins. -/
theorem marksFrom_words {cs : List Char} (some : cs ≠ [])
    (words : ∀ c ∈ cs, Text.isAsciiWord c = true) (blocked : Bool) (rest : List Char) :
    marksFrom (.code blocked) (cs ++ rest) = cs.map .text ++ marksFrom (.code true) rest := by
  induction cs generalizing blocked with
  | nil => exact absurd rfl some
  | cons c others ih =>
      obtain ⟨word, later⟩ := List.forall_mem_cons.mp words
      rw [List.cons_append, marksFrom, ScanMode.step, ScanMode.stepCode_of_word word]
      cases others with
      | nil => rfl
      | cons d others =>
          rw [ih (List.cons_ne_nil _ _) later]
          rfl

/-- The digits of a number behind a sigil or a plain character read as text. -/
theorem readsAsText_digits {c : Char} (h : isSigil c = true ∨ isPlain c = true) (n : Nat) :
    ReadsAsText (c :: Nat.toDigits 10 n) := by
  have digit (d : Char) (mem : d ∈ Nat.toDigits 10 n) : d.isDigit = true :=
    Nat.isDigit_of_mem_toDigits (by decide) (by decide) mem
  obtain ⟨first, others, digits⟩ := List.exists_cons_of_ne_nil (Nat.toDigits_ne_nil (n := n))
  rw [digits] at digit ⊢
  refine ⟨⟨c, _, rfl, ?_⟩, fun rest => ?_⟩
  · rcases h with sigil | plain
    · exact ScanMode.step_some_of_isSigil sigil
    · exact ScanMode.step_some_of_isPlain plain
  · have start : Text.isAsciiWordStart first = false :=
      Text.isAsciiWordStart_of_isDigit (digit first (List.mem_cons_self ..))
    have words : ∀ d ∈ first :: others, Text.isAsciiWord d = true := fun d mem =>
      Text.isAsciiWord_of_isDigit (digit d mem)
    obtain ⟨later, step⟩ := ScanMode.stepCode_of_sigil_or_plain h start false
    rw [List.cons_append, marksFrom, ScanMode.step, List.cons_append, List.head?_cons, step,
      ← List.cons_append, marksFrom_words (List.cons_ne_nil _ _) words]
    rfl

/-- Indexed markers read as text when their sigil is a sigil of templates or a plain character. -/
theorem readsAsText_indexed {c : Char} (h : isSigil c = true ∨ isPlain c = true)
    (offset position : Nat) (hint : Option String) :
    let factory := MarkerFactory.indexed (String.singleton c) offset
    ReadsAsText (factory.marker position hint).placeholder.toList := by
  intro factory
  have digits : (toString ((position + offset) % twoPow 64)).toList
      = Nat.toDigits 10 ((position + offset) % twoPow 64) := Nat.toList_repr
  rw [MarkerFactory.marker, String.toList_append, digits, String.toList_singleton]
  exact readsAsText_digits h _

/-! ## Scanning what is written -/

/-- The mode of a scan that finds a marker in place of what was marked as a name. -/
def ScanMode.settled : ScanMode → ScanMode
  | name => code true
  | mode => mode

theorem ScanMode.settled_code (blocked : Bool) : (code blocked).settled = code blocked := rfl

theorem ScanMode.settled_of_ne {mode : ScanMode} (h : mode ≠ name) : mode.settled = mode := by
  cases mode with
  | name => exact absurd rfl h
  | _ => rfl

/-- A character of text is text behind a marker as it is behind a name. -/
theorem ScanMode.step_settled {mode : ScanMode} {c : Char} {next : Option Char}
    (text : (mode.step c next).1 = .text c) : mode.settled.step c next = mode.step c next := by
  cases mode with
  | name =>
      rw [step] at text ⊢
      split_ifs at text ⊢
      rfl
  | _ => rfl

/-- A placeholder begins only where nothing blocks it. -/
theorem ScanMode.eq_code_of_step {mode : ScanMode} {c : Char} {next : Option Char}
    (sigil : (mode.step c next).1 = .sigil c) : mode = code false := by
  have code {blocked : Bool} (sigil : (stepCode blocked c next).1 = .sigil c) :
      blocked = false := by
    rw [stepCode] at sigil
    split_ifs at sigil with quote line block begins
    exact begins.2.1
  cases mode with
  | code blocked => rw [code sigil]
  | name =>
      rw [step] at sigil
      split_ifs at sigil
      cases code sigil
  | _ => cases sigil

variable {marker : Nat → String → Marker}

/-- What is written for a text tells a step what the text told it. -/
theorem step_head?_written
    (reads : ∀ before name, ReadsAsText (marker before name).placeholder.toList)
    {mode later : ScanMode} (other : later ≠ .name) (c : Char) (rest : List Char) (before : Nat) :
    mode.step c (written marker before (marksFrom later rest)).head? = mode.step c rest.head? := by
  cases rest with
  | nil => rfl
  | cons d rest =>
      rw [marksFrom]
      obtain ⟨mark, -⟩ | ⟨sigil, step⟩ | ⟨named, -, -⟩ := later.step_cases d rest.head?
      · rw [mark, written_text]
        rfl
      · obtain ⟨e, others, first, blind⟩ := (reads before
          (String.ofList (piecesOf (marksFrom .name rest)).1)).first
        rw [step, written_sigil, first, List.cons_append, List.head?_cons, List.head?_cons, blind,
          ScanMode.step_some_of_isSigil sigil]
      · exact absurd named other

/-- A scan of what is written follows the scan of the text, and finds text only. -/
theorem marksFrom_written
    (reads : ∀ before name, ReadsAsText (marker before name).placeholder.toList)
    (mode : ScanMode) (cs : List Char) (before : Nat) :
    marksFrom mode.settled (written marker before (marksFrom mode cs))
      = (written marker before (marksFrom mode cs)).map .text := by
  induction cs generalizing mode before with
  | nil => rfl
  | cons c rest ih =>
      rw [marksFrom]
      have later := ih (mode.step c rest.head?).2
      -- Text is read as before, a marker at once, and nothing was written for a name.
      obtain ⟨mark, other⟩ | ⟨sigil, step⟩ | ⟨named, word, step⟩ := mode.step_cases c rest.head?
      · have same : mode.settled.step c rest.head? = mode.step c rest.head? :=
          ScanMode.step_settled mark
        rw [ScanMode.settled_of_ne other] at later
        rw [mark, written_text, marksFrom, step_head?_written reads other, same, later, mark]
        rfl
      · have code : mode = .code false := ScanMode.eq_code_of_step (congrArg Prod.fst step)
        rw [step] at later ⊢
        rw [written_sigil, code, ScanMode.settled_code, (reads _ _).marks, List.map_append]
        exact congrArg _ (later (before + 1))
      · subst named
        rw [step] at later ⊢
        exact later before

/-! ## Expanding again -/

namespace Template

/-- Without placeholders the segments are written as the characters of their pieces. -/
theorem text_fill_of_text {pieces : List Piece}
    (none : ∀ piece ∈ pieces, piece.segment.name? = none) (marker : Nat → String → Marker)
    (before : Nat) :
    Sql.text (fill marker before (pieces.map Piece.segment))
      = String.ofList (pieces.flatMap Piece.chars) := by
  induction pieces with
  | nil => rfl
  | cons piece rest ih =>
      obtain ⟨here, later⟩ := List.forall_mem_cons.mp none
      cases piece with
      | text cs =>
          rw [List.map_cons, Piece.segment, fill, Sql.text, ih later, List.flatMap_cons,
            String.ofList_append]
          rfl
      | parameter sigil name => cases here

/-- A template without placeholders is expanded to its text, and no value is asked for. -/
theorem expand_of_names_eq_nil {sql : String} (none : (parse sql).names = [])
    (factory : MarkerFactory) (provider : Provider) :
    (parse sql).expand factory provider = .ok ⟨sql, []⟩ := by
  have occurrences : (parse sql).occurrences = [] :=
    List.eq_nil_iff_forall_not_mem.mpr fun name mem => by
      have named : name ∈ (parse sql).names := mem_distinct.mpr mem
      rw [none] at named
      cases named
  have texts (piece : Piece) (mem : piece ∈ piecesOfChars sql.toList) :
      piece.segment.name? = Option.none :=
    List.filterMap_eq_nil_iff.mp occurrences _ (List.mem_map_of_mem mem)
  have entries : (parse sql).entryNames factory = [] := by
    rw [entryNames, none, occurrences, ite_self]
  have answers : ∀ question ∈ (parse sql).questions, provider.Answers question := by
    rw [questions, none]
    intro question mem
    cases mem
  obtain ⟨⟨text, plan⟩, expanded, filled, markers⟩ := (parse sql).exists_expand factory answers
  have same : text = sql := by
    have segments : (parse sql).segments = (piecesOfChars sql.toList).map Piece.segment := rfl
    refine filled.trans ?_
    rw [segments, text_fill_of_text texts, flatMap_chars_piecesOfChars, String.ofList_toList]
  have empty : plan = [] := by
    rw [entries] at markers
    exact List.map_eq_nil_iff.mp markers
  rw [expanded, same, empty]

/-- A template has no names when no character is marked as a sigil. -/
theorem names_eq_nil {sql : String} (none : ∀ c, .sigil c ∉ marksFrom (.code false) sql.toList) :
    (parse sql).names = [] := by
  have places : placesOf (fun _ => 1) 0 (parse sql).segments = [] :=
    markPlaces_eq_nil_iff.mpr none
  rw [names, occurrences, ← map_snd_placesOf (fun _ => 1) 0, places]
  rfl

/-- Segments that are written with markers that read as text have no placeholder. -/
theorem names_parse_fill {marker : Nat → String → Marker}
    (reads : ∀ before name, ReadsAsText (marker before name).placeholder.toList) (sql : String) :
    (parse (Sql.text (fill marker 0 (parse sql).segments))).names = [] := by
  have chars : (Sql.text (fill marker 0 (parse sql).segments)).toList
      = written marker 0 (marksFrom (.code false) sql.toList) := rfl
  have marks := marksFrom_written reads (.code false) sql.toList 0
  rw [ScanMode.settled_code, ← chars] at marks
  refine names_eq_nil fun c => ?_
  rw [marks]
  simp

/-- An expansion with the markers of three dialects leaves nothing to expand.  It succeeds when
all names have values, the text that it gives has no placeholder, and any expansion of that
text gives it back with an empty plan. -/
theorem expand_again {d : Dialect} (indexed : d ∈ [Dialect.postgres, .h2, .sqlite])
    (sql : String) {provider : Provider}
    (answers : ∀ question ∈ (parse sql).questions, provider.Answers question) :
    ∃ operation, (parse sql).expand d.markers provider = .ok operation ∧
      (parse operation.sql).names = [] ∧ (parse operation.sql).hasParameters = false ∧
      ∀ factory again, (parse operation.sql).expand factory again = .ok ⟨operation.sql, []⟩ := by
  have reads (position : Nat) (hint : Option String) :
      ReadsAsText (d.markers.marker position hint).placeholder.toList := by
    simp only [List.mem_cons, List.not_mem_nil, or_false] at indexed
    rcases indexed with rfl | rfl | rfl
    · exact readsAsText_indexed (.inl (by decide : isSigil '$' = true)) 1 position hint
    · exact readsAsText_indexed (.inl (by decide : isSigil '$' = true)) 1 position hint
    · exact readsAsText_indexed (.inr (by decide : isPlain '?' = true)) 1 position hint
  obtain ⟨operation, expanded, filled, -⟩ := (parse sql).exists_expand d.markers answers
  have none : (parse operation.sql).names = [] := by
    rw [filled]
    exact names_parse_fill (fun _ name => reads _ (some name)) sql
  exact ⟨operation, expanded, none, by rw [hasParameters, none]; rfl, expand_of_names_eq_nil none⟩

/-- Placeholders before a cast, in quotes and in a comment, and one at the end. -/
theorem expand_again_cast :
    let t := parse "a = $x::int AND b = ':y' /* :z */ OR é = @x"
    let provider : Provider := fun _ _ => some (.empty .integer)
    (∀ question ∈ t.questions, provider.Answers question) ∧
      ∃ operation, t.expand Dialect.postgres.markers provider = .ok operation ∧
        operation.sql = "a = $1::int AND b = ':y' /* :z */ OR é = $2" ∧
        ∀ factory again, (parse operation.sql).expand factory again = .ok ⟨operation.sql, []⟩ := by
  intro t provider
  have answers : ∀ question ∈ t.questions, provider.Answers question := fun _ _ => rfl
  obtain ⟨operation, expanded, -, -, again⟩ := expand_again (List.mem_cons_self ..) _ answers
  have text : (t.expand Dialect.postgres.markers provider).map Operation.sql
      = .ok "a = $1::int AND b = ':y' /* :z */ OR é = $2" := by rfl
  rw [expanded] at text
  exact ⟨answers, operation, expanded, Except.ok.inj text, again⟩

/-- Behind a marker without a number a placeholder can begin that the name blocked. -/
example : ((parse ":x:y").expand Dialect.mysql.markers (fun _ _ => some (.empty .integer))).map
    Operation.sql = .ok "?:y" ∧ (parse "?:y").names = ["y"] := ⟨rfl, by decide⟩

end Template

end DataMapper
