import DataMapper.Proofs.Template.Joined
import Mathlib.Data.List.Chain

/-!
# Templates cut out of their texts

A template can be read by places instead of characters.  The reader keeps the place that it
looks at and the place from which text has not been given out yet (`spansFrom`).  It jumps
behind a region at once, to the place behind the first closing mark (`skipPast`), and it steps
over a pair of colons.  What it gives is a list of spans: parts of the text by the places where
they begin and end.

Read in this way, a text is looked at byte by byte, and each segment is cut out of it at two
bytes.  That has no result where one of these is inside a character or behind the end
(`slice?`).  `Span.segment?` cuts out one span, and `Template.cutSegments?` all of them.

The spans are those of the pieces that a scan by characters finds (`spansFrom_eq`).  A piece is
made of whole characters, so every cut is at a boundary.  `Template.cutSegments_eq_parse` says
that cutting never fails and gives the segments of the template, and that nothing is lost in
them.
-/

namespace DataMapper

/-! ## Reading by places -/

/-- A part of a text that is a segment, by the places where it begins and ends. -/
inductive Span where
  | text (start finish : Nat)
  /-- The name of a placeholder, without the sigil. -/
  | parameter (start finish : Nat)
  deriving DecidableEq, Repr

/-- The text between two places, if there is any. -/
def Span.ofText (start finish : Nat) : List Span :=
  if start < finish then [text start finish] else []

/-- The place behind the first closing mark from a place on, the end where there is none. -/
def skipPast (text closing : List Char) (place : Nat) : Nat :=
  if place < text.length then
    if closing <+: text.drop place then place + closing.length
    else skipPast text closing (place + 1)
  else text.length
termination_by text.length - place

/-- Whether a placeholder can begin at a place, and a name goes on behind it. -/
def startsPlaceholder (text : List Char) (place : Nat) : Bool :=
  (place == 0 || !(text[place - 1]?.any blocksPlaceholder)) &&
    text[place + 1]?.any Text.isAsciiWordStart

/-- The place behind the word characters from a place on. -/
def nameEnd (text : List Char) (place : Nat) : Nat :=
  place + ((text.drop place).takeWhile Text.isAsciiWord).length

/-- What is skipped ends behind the place at which it begins. -/
theorem lt_skipPast {text closing : List Char} {start place : Nat} (inside : start < text.length)
    (later : start < place) : start < skipPast text closing place := by
  fun_induction skipPast text closing place with
  | case1 place => omega
  | case2 place _ _ ih => exact ih (Nat.lt_succ_of_lt later)
  | case3 place => exact inside

/-- The spans of a text from a place on, when text is given out up to another one. -/
def spansFrom (text : List Char) (given place : Nat) : List Span :=
  if inside : place < text.length then
    if isQuote text[place] then
      spansFrom text given (skipPast text [text[place]] (place + 1))
    else if text[place] = '-' ∧ text[place + 1]? = some '-' then
      spansFrom text given (skipPast text ['\n'] (place + 2))
    else if text[place] = '/' ∧ text[place + 1]? = some '*' then
      spansFrom text given (skipPast text ['*', '/'] (place + 2))
    else if text[place] = ':' ∧ text[place + 1]? = some ':' then
      spansFrom text given (place + 2)
    else if isSigil text[place] ∧ startsPlaceholder text place then
      Span.ofText given place ++ .parameter (place + 1) (nameEnd text (place + 1)) ::
        spansFrom text (nameEnd text (place + 1)) (nameEnd text (place + 1))
    else spansFrom text given (place + 1)
  else Span.ofText given text.length
termination_by text.length - place
decreasing_by
  · have : place < skipPast text [text[place]] (place + 1) :=
      lt_skipPast inside (Nat.lt_add_one place)
    omega
  · have : place < skipPast text ['\n'] (place + 2) := lt_skipPast inside (by omega)
    omega
  · have : place < skipPast text ['*', '/'] (place + 2) := lt_skipPast inside (by omega)
    omega
  · omega
  · have : place < nameEnd text (place + 1) :=
      Nat.lt_of_lt_of_le (Nat.lt_succ_self place) (Nat.le_add_right ..)
    omega
  · omega

/-! ## Regions -/

/-- What is skipped from a place on reaches to the end of the first closing mark. -/
theorem exists_endsAt_skipPast (before cs : List Char) {closing : List Char} (some : closing ≠ []) :
    ∃ count, EndsAt closing cs count ∧
      skipPast (before ++ cs) closing before.length = before.length + count := by
  induction cs generalizing before with
  | nil =>
      refine ⟨0, .nil some, ?_⟩
      rw [skipPast, List.append_nil, if_neg (Nat.lt_irrefl _)]
      rfl
  | cons c rest ih =>
      have inside : before.length < (before ++ c :: rest).length := by simp
      rw [skipPast, if_pos inside, List.drop_left]
      by_cases closes : closing <+: c :: rest
      · exact ⟨closing.length, .here closes, if_pos closes⟩
      · obtain ⟨count, ends, skipped⟩ := ih (before ++ [c])
        rw [List.append_assoc, List.length_append] at skipped
        refine ⟨count + 1, ends.cons closes, ?_⟩
        rw [if_neg closes]
        exact skipped.trans (by rw [List.length_singleton]; omega)

/-- The end of the first closing mark is skipped to. -/
theorem skipPast_eq {closing : List Char} (some : closing ≠ []) (before : List Char)
    {front rest : List Char} (ends : EndsAt closing (front ++ rest) front.length) :
    skipPast (before ++ (front ++ rest)) closing before.length = before.length + front.length := by
  obtain ⟨count, other, skipped⟩ := exists_endsAt_skipPast before (front ++ rest) some
  rw [skipped, ends.unique other]

/-- A region is skipped at once. -/
theorem spansFrom_region (kind : RegionKind) (before : List Char) {inner rest : List Char}
    (ends : EndsAt kind.closing (inner ++ rest) inner.length) (given : Nat) :
    spansFrom (before ++ (kind.opening ++ (inner ++ rest))) given before.length
      = spansFrom (before ++ (kind.opening ++ (inner ++ rest))) given
          (before ++ (kind.opening ++ inner)).length := by
  have closing : kind.closing ≠ [] := by cases kind <;> nofun
  have skipped := skipPast_eq closing (before ++ kind.opening) ends
  rw [List.append_assoc, List.length_append] at skipped
  have finish : before.length + kind.opening.length + inner.length
      = (before ++ (kind.opening ++ inner)).length := by
    simp only [List.length_append, Nat.add_assoc]
  rw [← finish, ← skipped]
  conv_lhs => rw [spansFrom]
  cases kind <;> simp [RegionKind.opening, RegionKind.closing, isQuote]

/-! ## Characters outside all regions -/

/-- A placeholder can begin at a place as a scan by characters knows it. -/
theorem startsPlaceholder_eq (before rest : List Char) (c : Char) :
    startsPlaceholder (before ++ c :: rest) before.length
      = (!lastBlocks before && rest.head?.any Text.isAsciiWordStart) := by
  rw [startsPlaceholder, getElem?_length_add_one]
  rcases List.eq_nil_or_concat' before with rfl | ⟨init, last, rfl⟩
  · rfl
  · simp [lastBlocks]

/-- Where no region opens, a pair of colons is stepped over, a placeholder is given out with
the text before it, and any other character is stepped over. -/
theorem spansFrom_of_plain {before rest : List Char} {c : Char}
    (none : ∀ kind : RegionKind, ¬ kind.opening <+: c :: rest) (given : Nat) :
    spansFrom (before ++ c :: rest) given before.length =
      if c = ':' ∧ rest.head? = some ':' then
        spansFrom (before ++ c :: rest) given (before.length + 2)
      else if isSigil c ∧ lastBlocks before = false ∧ rest.head?.any Text.isAsciiWordStart then
        let finish := before.length + 1 + (rest.takeWhile Text.isAsciiWord).length
        Span.ofText given before.length ++ .parameter (before.length + 1) finish ::
          spansFrom (before ++ c :: rest) finish finish
      else spansFrom (before ++ c :: rest) given (before.length + 1) := by
  have inside : before.length < (before ++ c :: rest).length := by simp
  have here : (before ++ c :: rest)[before.length] = c := by simp
  have name : nameEnd (before ++ c :: rest) (before.length + 1)
      = before.length + 1 + (rest.takeWhile Text.isAsciiWord).length := by
    rw [nameEnd]
    simp
  obtain ⟨quote, line, block⟩ := RegionKind.not_opening_cons none
  conv_lhs => rw [spansFrom]
  rw [dif_pos inside, here, getElem?_length_add_one, name, startsPlaceholder_eq, if_neg quote,
    if_neg line, if_neg block]
  simp only [Bool.and_eq_true, Bool.not_eq_true']

/-! ## Spans of pieces -/

/-- Text as a piece, if there is any. -/
def Piece.ofText (cs : List Char) : List Piece := if cs.isEmpty then [] else [text cs]

/-- The spans of pieces from a place on, when each character has a width.  A sigil has
width one. -/
def spansOf (width : Char → Nat) : Nat → List Piece → List Span
  | _, [] => []
  | place, .text cs :: rest =>
      .text place (place + widthOf width cs) :: spansOf width (place + widthOf width cs) rest
  | place, .parameter _ name :: rest =>
      .parameter (place + 1) (place + 1 + widthOf width name) ::
        spansOf width (place + 1 + widthOf width name) rest

theorem piecesOf_texts (cs : List Char) (marks : List Mark) :
    (piecesOf (cs.map .text ++ marks)).2 = cs.foldr Piece.consText (piecesOf marks).2 := by
  induction cs with
  | nil => rfl
  | cons c rest ih => rw [List.map_cons, List.cons_append, piecesOf, ih, List.foldr_cons]

/-- Characters before text are put into its piece. -/
theorem foldr_consText_text (ds cs : List Char) (rest : List Piece) :
    ds.foldr Piece.consText (.text cs :: rest) = .text (ds ++ cs) :: rest := by
  induction ds with
  | nil => rfl
  | cons d ds ih => rw [List.foldr_cons, ih, Piece.consText, List.cons_append]

/-- Characters before what is no text are a piece of their own. -/
theorem foldr_consText (ds : List Char) {pieces : List Piece}
    (other : ∀ cs, pieces.head? ≠ some (.text cs)) :
    ds.foldr Piece.consText pieces = Piece.ofText ds ++ pieces := by
  cases pieces with
  | nil =>
      induction ds with
      | nil => rfl
      | cons d ds ih =>
          rw [List.foldr_cons, ih]
          cases ds <;> rfl
  | cons piece rest =>
      cases piece with
      | text cs => exact absurd rfl (other cs)
      | parameter sigil name =>
          induction ds with
          | nil => rfl
          | cons d ds ih =>
              rw [List.foldr_cons, ih]
              cases ds <;> rfl

/-- Text behind a place is a span when it is a piece. -/
theorem ofText_append (pending : List Char) (given : Nat) (pieces : List Piece) :
    Span.ofText given (given + pending.length)
        ++ spansOf (fun _ => 1) (given + pending.length) pieces
      = spansOf (fun _ => 1) given (Piece.ofText pending ++ pieces) := by
  cases pending with
  | nil => simp [Span.ofText, Piece.ofText]
  | cons c cs => simp [Span.ofText, Piece.ofText, spansOf, widthOf_one]

/-- Text that was not given out yet, and then a placeholder. -/
theorem spansOf_sigil (pending name : List Char) (sigil : Char) {marks : List Mark}
    (none : (piecesOf marks).1 = []) (given : Nat) :
    spansOf (fun _ => 1) given
        (piecesOf (pending.map .text ++ .sigil sigil :: (name.map .name ++ marks))).2
      = Span.ofText given (given + pending.length) ++
          .parameter (given + pending.length + 1) (given + pending.length + 1 + name.length) ::
            spansOf (fun _ => 1) (given + pending.length + 1 + name.length) (piecesOf marks).2 := by
  rw [piecesOf_texts, piecesOf, piecesOf_names, none, List.append_nil,
    foldr_consText pending (by simp), ← ofText_append, spansOf, widthOf_one]

/-- At the end, the text that is not given out yet is the last span. -/
theorem spansFrom_end (front pending : List Char) :
    spansFrom (front ++ pending) front.length (front ++ pending).length
      = spansOf (fun _ => 1) front.length (piecesOf (pending.map .text)).2 := by
  have pieces := piecesOf_texts pending []
  have finish := ofText_append pending front.length []
  rw [← List.length_append, spansOf, List.append_nil, List.append_nil] at finish
  rw [List.append_nil, piecesOf, foldr_consText pending (by simp), List.append_nil] at pieces
  rw [spansFrom, dif_neg (Nat.lt_irrefl _), finish, pieces]

/-- A pair of colons is text, and no placeholder begins behind it. -/
theorem marksFrom_colons (blocked : Bool) (rest : List Char) :
    marksFrom (.code blocked) (':' :: ':' :: rest)
      = .text ':' :: .text ':' :: marksFrom (.code true) rest := by
  simp [marksFrom, ScanMode.step, ScanMode.stepCode, isQuote, isSigil, blocksPlaceholder,
    Text.isAsciiWordStart]

/-- The spans that are read by places are those of the pieces of a scan outside all regions,
which begin with the text that is not given out yet. -/
theorem spansFrom_eq (text front pending cs : List Char) (blocked : Bool)
    (whole : text = front ++ (pending ++ cs))
    (known : cs = [] ∨ lastBlocks (front ++ pending) = blocked) :
    spansFrom text front.length (front.length + pending.length)
      = spansOf (fun _ => 1) front.length
          (piecesOf (pending.map .text ++ marksFrom (.code blocked) cs)).2 := by
  have behind : text = front ++ pending ++ cs := by rw [whole, List.append_assoc]
  rw [← List.length_append]
  -- The cases are those of `finds_marksFrom`, and a pair of colons is two of its characters.
  by_cases opens : ∃ kind : RegionKind, kind.opening <+: cs
  · obtain ⟨kind, after, rfl⟩ := opens
    obtain ⟨inner, rest, rfl, ends, marks, last⟩ := kind.scansTo after
    have closed : rest = [] ∨
        lastBlocks (front ++ (pending ++ (kind.opening ++ inner))) = false := by
      rcases last with done | ⟨_, hinner, hclosing⟩
      · exact .inl done
      · rw [← List.append_assoc]
        exact .inr (lastBlocks_region hinner hclosing _)
    have later := spansFrom_eq text front (pending ++ (kind.opening ++ inner)) rest false
      (by simp [whole]) closed
    rw [behind, spansFrom_region kind (front ++ pending) ends, ← behind, kind.marksFrom_opening,
      marks]
    simpa only [List.append_assoc, List.map_append, List.length_append, Nat.add_assoc] using later
  · have none (kind : RegionKind) : ¬ kind.opening <+: cs := fun h => opens ⟨kind, h⟩
    cases cs with
    | nil =>
        rw [behind, List.append_nil, marksFrom, List.append_nil]
        exact spansFrom_end front pending
    | cons c rest =>
        have last : lastBlocks (front ++ pending) = blocked := known.resolve_left (List.cons_ne_nil _ _)
        rw [behind, spansFrom_of_plain none, ← behind, last]
        by_cases cast : c = ':' ∧ rest.head? = some ':'
        · obtain ⟨rfl, next⟩ := cast
          obtain ⟨others, rfl⟩ := List.head?_eq_some_iff.mp next
          have later := spansFrom_eq text front (pending ++ [':', ':']) others true
            (by simp [whole]) (.inr (by simp [lastBlocks, blocksPlaceholder, isSigil]))
          rw [if_pos ⟨rfl, rfl⟩, marksFrom_colons]
          simpa [Nat.add_assoc] using later
        · rw [if_neg cast, marksFrom, ScanMode.step, ScanMode.stepCode_of_plain none]
          by_cases begins : isSigil c ∧ blocked = false ∧ rest.head?.any Text.isAsciiWordStart
          · have blocks : lastBlocks
                (front ++ (pending ++ c :: rest.takeWhile Text.isAsciiWord) ++ []) = true := by
              rw [List.append_nil, ← List.append_assoc]
              exact lastBlocks_name _ rest begins.1
            have later := spansFrom_eq text
              (front ++ (pending ++ c :: rest.takeWhile Text.isAsciiWord)) []
              (rest.dropWhile Text.isAsciiWord) true (by simp [whole]) (.inr blocks)
            have finish : (front ++ (pending ++ c :: rest.takeWhile Text.isAsciiWord)).length
                = front.length + pending.length + 1 + (rest.takeWhile Text.isAsciiWord).length := by
              simp only [List.length_append, List.length_cons]
              omega
            simp only [finish, List.length_nil, Nat.add_zero] at later
            rw [if_pos begins, if_pos begins, marksFrom_name, List.length_append,
              spansOf_sigil _ _ _ (piecesOf_marksFrom_code ..)]
            simp only [later]
            rfl
          · have blocks : lastBlocks (front ++ (pending ++ [c])) = blocksPlaceholder c := by
              rw [← List.append_assoc, lastBlocks_append_singleton]
            have later := spansFrom_eq text front (pending ++ [c]) rest (blocksPlaceholder c)
              (by simp [whole]) (.inr blocks)
            rw [if_neg begins, if_neg begins]
            simpa [Nat.add_assoc] using later
termination_by cs.length
decreasing_by
  all_goals subst_vars
  · have := kind.opening_length_pos
    simp only [List.length_append]
    omega
  · simp only [List.length_cons]
    omega
  · exact Nat.lt_succ_of_le (List.length_dropWhile_le ..)
  · exact Nat.lt_succ_self _

/-! ## Spans of bytes -/

/-- The bytes of the characters of a piece. -/
def Piece.bytes : Piece → Piece
  | text cs => text (cs.flatMap charBytes)
  | parameter sigil name => parameter sigil name

/-- The bytes of a character go where the character goes. -/
theorem foldr_consText_charBytes (c : Char) (pieces : List Piece) :
    (charBytes c).foldr Piece.consText (pieces.map Piece.bytes)
      = (Piece.consText c pieces).map Piece.bytes := by
  have alone : Piece.ofText (charBytes c) = [.text ([c].flatMap charBytes)] := by
    rw [Piece.ofText, List.isEmpty_eq_false_iff.mpr (charBytes_ne_nil c), List.flatMap_singleton]
    rfl
  cases pieces with
  | nil =>
      rw [List.map_nil, foldr_consText _ (by simp), alone]
      rfl
  | cons piece rest =>
      cases piece with
      | text cs =>
          rw [List.map_cons, Piece.bytes, foldr_consText_text, ← List.flatMap_cons]
          rfl
      | parameter sigil name =>
          rw [List.map_cons, Piece.bytes, foldr_consText _ (by simp), alone]
          rfl

/-- The pieces of the marked bytes are the bytes of the pieces. -/
theorem piecesOf_bytes (marks : List Mark) :
    (piecesOf (marks.flatMap Mark.bytes)).2 = (piecesOf marks).2.map Piece.bytes := by
  induction marks with
  | nil => rfl
  | cons mark rest ih =>
      rw [List.flatMap_cons]
      cases mark with
      | text c => rw [Mark.bytes, piecesOf_texts, ih, foldr_consText_charBytes, piecesOf]
      | name c => exact ih
      | sigil c =>
          rw [Mark.bytes, List.singleton_append, piecesOf, piecesOf, ih, fst_piecesOf_bytes]
          rfl

/-- A parameter has its sigil and its name among the marks. -/
theorem mem_of_parameter_mem {marks : List Mark} {sigil : Char} {name : List Char}
    (h : .parameter sigil name ∈ (piecesOf marks).2) :
    .sigil sigil ∈ marks ∧ ∀ c ∈ name, .name c ∈ marks := by
  induction marks with
  | nil => cases h
  | cons mark rest ih =>
      have later (found : .parameter sigil name ∈ (piecesOf rest).2) :
          .sigil sigil ∈ mark :: rest ∧ ∀ c ∈ name, .name c ∈ mark :: rest :=
        ⟨List.mem_cons_of_mem _ (ih found).1,
          fun c hc => List.mem_cons_of_mem _ ((ih found).2 c hc)⟩
      cases mark with
      | text c =>
          rw [piecesOf] at h
          refine later ?_
          cases pieces : (piecesOf rest).2 with
          | nil => simp [pieces, Piece.consText] at h
          | cons piece others =>
              rw [pieces] at h
              cases piece <;> simpa [Piece.consText] using h
      | name c => exact later h
      | sigil c =>
          rw [piecesOf] at h
          rcases List.mem_cons.mp h with same | found
          · cases same
            exact ⟨List.mem_cons_self .., fun d hd =>
              List.mem_cons_of_mem _ (name_mem_of_piecesOf hd)⟩
          · exact later found

/-- The spans of the bytes of pieces are those of the pieces, at places counted in bytes. -/
theorem spansOf_bytes {pieces : List Piece}
    (ascii : ∀ sigil name, .parameter sigil name ∈ pieces → ∀ c ∈ name, c.toNat < 128)
    (place : Nat) :
    spansOf (fun _ => 1) place (pieces.map Piece.bytes) = spansOf Char.utf8Size place pieces := by
  induction pieces generalizing place with
  | nil => rfl
  | cons piece rest ih =>
      have later := ih fun sigil name mem => ascii sigil name (List.mem_cons_of_mem _ mem)
      cases piece with
      | text cs =>
          rw [List.map_cons, Piece.bytes, spansOf, spansOf, widthOf_one, ← widthOf_utf8Size_eq,
            later]
      | parameter sigil name =>
          have low := ascii sigil name (List.mem_cons_self ..)
          rw [List.map_cons, Piece.bytes, spansOf, spansOf, widthOf_one, widthOf_utf8Size low,
            later]

/-- The spans that are read from the bytes of a text are those of its pieces. -/
theorem spansFrom_byteChars (sql : String) :
    spansFrom (byteChars sql) 0 0 = spansOf Char.utf8Size 0 (piecesOfChars sql.toList) := by
  have ascii (sigil : Char) (name : List Char)
      (mem : .parameter sigil name ∈ piecesOfChars sql.toList) (c : Char) (hc : c ∈ name) :
      c.toNat < 128 :=
    toNat_of_word (word_of_mem_marksFrom ((mem_of_parameter_mem mem).2 c hc))
  have code : (ScanMode.code false).Ascii := trivial
  have read := spansFrom_eq (byteChars sql) [] [] (byteChars sql) false rfl (.inr rfl)
  rw [byteChars_eq, List.map_nil, List.nil_append, marksFrom_bytes code, piecesOf_bytes] at read
  rw [byteChars_eq]
  exact read.trans (spansOf_bytes ascii 0)

/-! ## Cutting -/

/-- The text between two bytes of a text.  There is none where the bytes are not in order or
one of them is not at the boundary of a character, as behind the end. -/
def slice? (s : String) (start finish : Nat) : Option String :=
  if start ≤ finish ∧ (String.Pos.Raw.mk start).IsValid s ∧
      (String.Pos.Raw.mk finish).IsValid s then
    String.fromUTF8? (s.toByteArray.extract start finish)
  else none

/-- The segment that a span is of. -/
def Span.segment? (sql : String) : Span → Option Segment
  | text start finish => (slice? sql start finish).map .text
  | parameter start finish => (slice? sql start finish).map .parameter

/-- The segments of a text, cut out of it at the bytes between which they are. -/
def Template.cutSegments? (sql : String) : Option (List Segment) :=
  (spansFrom (byteChars sql) 0 0).mapM (Span.segment? sql)

/-- A part of a text is cut out behind the bytes of what is before it. -/
theorem slice?_append (front part rest : String) :
    slice? (front ++ part ++ rest) front.utf8ByteSize (front.utf8ByteSize + part.utf8ByteSize)
      = some part := by
  have start : (⟨front.utf8ByteSize⟩ : String.Pos.Raw).IsValid (front ++ part ++ rest) :=
    String.Pos.Raw.isValid_iff_exists_append.mpr
      ⟨front, part ++ rest, String.append_assoc .., rfl⟩
  have finish : (⟨front.utf8ByteSize + part.utf8ByteSize⟩ : String.Pos.Raw).IsValid
      (front ++ part ++ rest) := by
    rw [← String.utf8ByteSize_append]
    exact String.Pos.Raw.isValid_iff_exists_append.mpr ⟨front ++ part, rest, rfl, rfl⟩
  have bytes : (front ++ part ++ rest).toByteArray.extract front.utf8ByteSize
      (front.utf8ByteSize + part.utf8ByteSize) = part.toByteArray := by
    rw [String.append_assoc, String.toByteArray_append, String.toByteArray_append]
    exact (ByteArray.extract_append_size_add (i := 0)).trans (ByteArray.extract_append_eq_left rfl)
  rw [slice?, if_pos ⟨Nat.le_add_right .., start, finish⟩, bytes, String.fromUTF8?,
    dif_pos part.isValidUTF8]
  rfl

theorem slice?_chars (front cs rest : List Char) :
    slice? (String.ofList (front ++ (cs ++ rest))) (widthOf Char.utf8Size front)
        (widthOf Char.utf8Size front + widthOf Char.utf8Size cs) = some (String.ofList cs) := by
  have cut := slice?_append (String.ofList front) (String.ofList cs) (String.ofList rest)
  simpa only [← String.ofList_append, ← widthOf_utf8Size_toList, String.toList_ofList,
    List.append_assoc] using cut

/-- Each span of pieces is cut out as the segment of its piece. -/
theorem mapM_segment?_spansOf (front : List Char) {pieces : List Piece}
    (sigils : ∀ sigil name, .parameter sigil name ∈ pieces → sigil.utf8Size = 1) :
    (spansOf Char.utf8Size (widthOf Char.utf8Size front) pieces).mapM
        (Span.segment? (String.ofList (front ++ pieces.flatMap Piece.chars)))
      = some (pieces.map Piece.segment) := by
  -- What was cut before is part of the text, and its width is the place of the next piece.
  induction pieces generalizing front with
  | nil => rfl
  | cons piece rest ih =>
      have later := ih (front ++ piece.chars) fun sigil name mem =>
        sigils sigil name (List.mem_cons_of_mem _ mem)
      rw [widthOf_append, List.append_assoc] at later
      rw [List.flatMap_cons]
      cases piece with
      | text cs =>
          rw [spansOf, List.mapM_cons, Span.segment?, Piece.chars, slice?_chars]
          rw [Piece.chars] at later
          rw [later]
          rfl
      | parameter sigil name =>
          have one := sigils sigil name (List.mem_cons_self ..)
          have behind : widthOf Char.utf8Size front + 1
              = widthOf Char.utf8Size (front ++ [sigil]) := by
            rw [widthOf_append, widthOf, widthOf, one]
          have cut := slice?_chars (front ++ [sigil]) name (rest.flatMap Piece.chars)
          rw [← behind, List.append_assoc, List.singleton_append, ← List.cons_append] at cut
          rw [Piece.chars, widthOf, one, ← Nat.add_assoc] at later
          rw [spansOf, List.mapM_cons, Span.segment?, Piece.chars, cut, later]
          rfl

/-! ## Neighbours -/

/-- Whether no segment is empty text, and no two neighbours are text. -/
structure Alternate (segments : List Segment) : Prop where
  filled : .text "" ∉ segments
  apart : segments.IsChain fun a b => a.name?.isSome ∨ b.name?.isSome

theorem Alternate.of_cons {segment : Segment} {segments : List Segment}
    (h : Alternate (segment :: segments)) : Alternate segments :=
  ⟨fun mem => h.filled (List.mem_cons_of_mem _ mem), (List.isChain_cons.mp h.apart).2⟩

theorem Alternate.cons {segment : Segment} {segments : List Segment} (h : Alternate segments)
    (filled : segment ≠ .text "")
    (apart : ∀ next ∈ segments.head?, segment.name?.isSome ∨ next.name?.isSome) :
    Alternate (segment :: segments) :=
  ⟨List.not_mem_cons_of_ne_of_not_mem filled.symm h.filled, List.isChain_cons.mpr ⟨apart, h.apart⟩⟩

/-- A character before pieces joins the text that they begin with. -/
theorem Alternate.consText {pieces : List Piece} (h : Alternate (pieces.map Piece.segment))
    (c : Char) : Alternate ((Piece.consText c pieces).map Piece.segment) := by
  have filled (cs : List Char) : Segment.text (String.ofList (c :: cs)) ≠ .text "" := by simp
  cases pieces with
  | nil => exact h.cons (filled []) nofun
  | cons piece rest =>
      cases piece with
      | text cs => exact h.of_cons.cons (filled cs) (List.isChain_cons.mp h.apart).1
      | parameter sigil name =>
          refine h.cons (filled []) fun next first => .inr ?_
          cases first
          rfl

/-- The segments of marks alternate. -/
theorem alternate_piecesOf (marks : List Mark) :
    Alternate ((piecesOf marks).2.map Piece.segment) := by
  induction marks with
  | nil => exact ⟨nofun, .nil⟩
  | cons mark rest ih =>
      cases mark with
      | text c => exact ih.consText c
      | name c => exact ih
      | sigil c => exact ih.cons nofun fun _ _ => .inl rfl

namespace Template

/-- Cutting a text never fails.  It gives the segments of the template, of which no text is
empty and no two neighbours are text.  With a sigil before each name they are the text. -/
theorem cutSegments_eq_parse (sql : String) :
    cutSegments? sql = some (parse sql).segments ∧ Alternate (parse sql).segments ∧
      ∃ pieces : List Piece, pieces.map Piece.segment = (parse sql).segments ∧
        (∀ sigil name, .parameter sigil name ∈ pieces → isSigil sigil = true) ∧
        String.ofList (pieces.flatMap Piece.chars) = sql := by
  have sigils (sigil : Char) (name : List Char)
      (mem : .parameter sigil name ∈ piecesOfChars sql.toList) : isSigil sigil = true :=
    sigil_of_mem_marksFrom (mem_of_parameter_mem mem).1
  have widths (sigil : Char) (name : List Char)
      (mem : .parameter sigil name ∈ piecesOfChars sql.toList) : sigil.utf8Size = 1 :=
    utf8Size_of_sigil (sigils sigil name mem)
  have whole : String.ofList ((piecesOfChars sql.toList).flatMap Piece.chars) = sql := by
    rw [flatMap_chars_piecesOfChars, String.ofList_toList]
  have cut := mapM_segment?_spansOf [] widths
  rw [List.nil_append, whole] at cut
  refine ⟨?_, alternate_piecesOf _, piecesOfChars sql.toList, rfl, sigils, whole⟩
  rw [cutSegments?, spansFrom_byteChars]
  exact cut

end Template

end DataMapper
