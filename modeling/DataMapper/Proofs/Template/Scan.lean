import DataMapper.Proofs.Template.Regions

/-!
# What a scan marks

A scan of a text outside all regions takes one of three ways at a character.

* Where a region opens, the whole region is marked as text, and the scan goes on
  after it (`exists_region`).
* Where a placeholder begins, its sigil and its name are marked, and the scan goes
  on after the name (`marksFrom_name`).
* Any other character is text.

`placesOf` gives the placeholders of segments with the places at which they begin,
when each character has a width, and `markPlaces` those of marked characters.  It
passes over text, and gives each sigil with the name after it.
-/

namespace DataMapper

/-! ## Places of placeholders -/

/-- The width of a text whose characters have widths. -/
def widthOf (width : Char → Nat) : List Char → Nat
  | [] => 0
  | c :: rest => width c + widthOf width rest

/-- Where each character has width one, the width is the number of characters. -/
theorem widthOf_one (cs : List Char) : widthOf (fun _ => 1) cs = cs.length := by
  induction cs with
  | nil => rfl
  | cons c rest ih => rw [widthOf, ih, List.length_cons, Nat.add_comm]

/-- The placeholders of segments with the places of their sigils, from a place on.
A sigil has width one. -/
def placesOf (width : Char → Nat) : Nat → List Segment → List (Nat × String)
  | _, [] => []
  | place, .text s :: rest => placesOf width (place + widthOf width s.toList) rest
  | place, .parameter name :: rest =>
      (place, name) :: placesOf width (place + 1 + widthOf width name.toList) rest

/-- The placeholders are at places that go up. -/
theorem pairwise_placesOf (width : Char → Nat) (place : Nat) (segments : List Segment) :
    (placesOf width place segments).Pairwise (fun a b => a.1 < b.1) ∧
      ∀ found ∈ placesOf width place segments, place ≤ found.1 := by
  induction segments generalizing place with
  | nil => exact ⟨.nil, nofun⟩
  | cons segment rest ih =>
      cases segment with
      | text s =>
          obtain ⟨sorted, late⟩ := ih (place + widthOf width s.toList)
          exact ⟨sorted, fun found h => Nat.le_trans (Nat.le_add_right ..) (late found h)⟩
      | parameter name =>
          obtain ⟨sorted, late⟩ := ih (place + 1 + widthOf width name.toList)
          have later : ∀ found ∈ placesOf width (place + 1 + widthOf width name.toList) rest,
              place < found.1 := by
            intro found h
            have := late found h
            omega
          refine ⟨List.pairwise_cons.mpr ⟨later, sorted⟩, ?_⟩
          refine List.forall_mem_cons.mpr ⟨Nat.le_refl _, fun found h => ?_⟩
          exact Nat.le_of_lt (later found h)

/-- The names of the placeholders are those of the segments. -/
theorem map_snd_placesOf (width : Char → Nat) (place : Nat) (segments : List Segment) :
    (placesOf width place segments).map Prod.snd = segments.filterMap Segment.name? := by
  induction segments generalizing place with
  | nil => rfl
  | cons segment rest ih =>
      cases segment with
      | text s => exact ih _
      | parameter name => exact congrArg (name :: ·) (ih _)

/-- The placeholders of marked characters with their places, from a place on. -/
def markPlaces (width : Char → Nat) (place : Nat) (marks : List Mark) : List (Nat × String) :=
  placesOf width place ((piecesOf marks).2.map Piece.segment)

/-- A character of text moves what comes after it. -/
theorem markPlaces_text (width : Char → Nat) (place : Nat) (c : Char) (marks : List Mark) :
    markPlaces width place (.text c :: marks) = markPlaces width (place + width c) marks := by
  rw [markPlaces, piecesOf, markPlaces]
  cases (piecesOf marks).2 with
  | nil => rfl
  | cons piece rest =>
      cases piece with
      | text cs =>
          rw [Piece.consText, List.map_cons, List.map_cons, Piece.segment, Piece.segment, placesOf,
            placesOf, String.toList_ofList, String.toList_ofList, widthOf, Nat.add_assoc]
      | parameter sigil name =>
          have alone : Piece.consText c (.parameter sigil name :: rest)
              = .text [c] :: .parameter sigil name :: rest := rfl
          rw [alone, List.map_cons, Piece.segment, placesOf, String.toList_ofList]
          rfl

/-- Text moves what comes after it. -/
theorem markPlaces_texts (width : Char → Nat) (place : Nat) (cs : List Char) (marks : List Mark) :
    markPlaces width place (cs.map .text ++ marks)
      = markPlaces width (place + widthOf width cs) marks := by
  induction cs generalizing place with
  | nil => rfl
  | cons c rest ih =>
      rw [List.map_cons, List.cons_append, markPlaces_text, ih, widthOf, Nat.add_assoc]

/-- Characters of a name are put before the name that the marks after them begin with. -/
theorem piecesOf_names (name : List Char) (marks : List Mark) :
    piecesOf (name.map .name ++ marks) = (name ++ (piecesOf marks).1, (piecesOf marks).2) := by
  induction name with
  | nil => rfl
  | cons c rest ih => rw [List.map_cons, List.cons_append, piecesOf, ih, List.cons_append]

/-- Characters of a name have no places. -/
theorem markPlaces_names (width : Char → Nat) (place : Nat) (name : List Char) (marks : List Mark) :
    markPlaces width place (name.map .name ++ marks) = markPlaces width place marks := by
  rw [markPlaces, piecesOf_names, markPlaces]

/-- A sigil is given with the name after it. -/
theorem markPlaces_sigil (width : Char → Nat) (place : Nat) (sigil : Char) (marks : List Mark) :
    markPlaces width place (.sigil sigil :: marks)
      = (place, String.ofList (piecesOf marks).1) ::
          markPlaces width (place + 1 + widthOf width (piecesOf marks).1) marks := by
  rw [markPlaces, piecesOf, List.map_cons, Piece.segment, placesOf, String.toList_ofList,
    markPlaces]

/-! ## Names -/

/-- Outside all regions no name goes on. -/
theorem piecesOf_marksFrom_code (blocked : Bool) (cs : List Char) :
    (piecesOf (marksFrom (.code blocked) cs)).1 = [] := by
  cases cs with
  | nil => rfl
  | cons c rest =>
      rw [marksFrom, ScanMode.step, ScanMode.stepCode]
      repeat' split
      all_goals rfl

/-- A name is the longest run of word characters, and what comes after it is scanned
as after a character that blocks. -/
theorem marksFrom_name (cs : List Char) :
    marksFrom .name cs = (cs.takeWhile Text.isAsciiWord).map .name
      ++ marksFrom (.code true) (cs.dropWhile Text.isAsciiWord) := by
  induction cs with
  | nil => rfl
  | cons c rest ih =>
      rw [marksFrom, ScanMode.step]
      cases word : Text.isAsciiWord c with
      | true =>
          rw [if_pos rfl, List.takeWhile_cons_of_pos word, List.dropWhile_cons_of_pos word, ih]
          rfl
      | false =>
          have done : ¬ Text.isAsciiWord c = true := by simp [word]
          rw [if_neg Bool.false_ne_true, List.takeWhile_cons_of_neg done,
            List.dropWhile_cons_of_neg done]
          rfl

/-! ## Regions -/

/-- Whether a scan in a mode marks what is left of a region as text, up to the end
of the first closing mark, and then goes on outside all regions. -/
def ScansTo (mode : ScanMode) (closing cs : List Char) : Prop :=
  ∃ front rest, cs = front ++ rest ∧ EndsAt closing cs front.length ∧
    marksFrom mode cs = front.map .text ++ marksFrom (.code false) rest ∧
    (rest = [] ∨ ∃ c, front.getLast? = some c ∧ closing.getLast? = some c)

/-- A character that is not at a closing mark is scanned in the same mode. -/
theorem ScansTo.cons {mode : ScanMode} {closing cs : List Char} {c : Char}
    (none : ¬ closing <+: c :: cs) (step : mode.step c cs.head? = (.text c, mode))
    (h : ScansTo mode closing cs) : ScansTo mode closing (c :: cs) := by
  obtain ⟨front, rest, rfl, ends, marks, last⟩ := h
  refine ⟨c :: front, rest, rfl, ends.cons none, ?_, ?_⟩
  · rw [marksFrom, step, marks]
    rfl
  · rcases last with done | ⟨d, hfront, hclosing⟩
    · exact .inl done
    · refine .inr ⟨d, ?_, hclosing⟩
      rw [List.getLast?_cons, hfront]
      rfl

/-- A region that is closed by one character is scanned to the first such character. -/
theorem scansTo_of_single {mode : ScanMode} {close : Char}
    (step : ∀ c next, mode.step c next = (.text c, if c = close then .code false else mode))
    (cs : List Char) : ScansTo mode [close] cs := by
  induction cs with
  | nil => exact ⟨[], [], rfl, .nil nofun, rfl, .inl rfl⟩
  | cons c rest ih =>
      by_cases closes : c = close
      · subst closes
        refine ⟨[c], rest, rfl, .here ⟨rest, rfl⟩, ?_, .inr ⟨c, rfl, rfl⟩⟩
        rw [marksFrom, step, if_pos rfl]
        rfl
      · refine ih.cons (fun found => ?_) (by rw [step, if_neg closes])
        exact closes (List.cons_prefix_cons.mp found).1.symm

/-- A comment between marks is scanned to the first mark that closes it. -/
theorem scansTo_comment (cs : List Char) : ScansTo .comment ['*', '/'] cs := by
  induction cs with
  | nil => exact ⟨[], [], rfl, .nil nofun, rfl, .inl rfl⟩
  | cons c rest ih =>
      by_cases closes : c = '*' ∧ rest.head? = some '/'
      · obtain ⟨rfl, slash⟩ := closes
        obtain ⟨after, rfl⟩ := List.head?_eq_some_iff.mp slash
        exact ⟨['*', '/'], after, rfl, .here ⟨after, rfl⟩, rfl, .inr ⟨'/', rfl, rfl⟩⟩
      · refine ih.cons (fun found => closes ?_) ?_
        · obtain ⟨star, slash⟩ := List.cons_prefix_cons.mp found
          obtain ⟨after, rfl⟩ := slash
          exact ⟨star.symm, rfl⟩
        · rw [ScanMode.step, if_neg closes]

namespace RegionKind

/-- The mode in which a region is scanned after its opening mark. -/
def mode : RegionKind → ScanMode
  | apostrophes => .quoted '\''
  | doubleQuotes => .quoted '"'
  | lineComment => .lineComment
  | blockComment => .comment

/-- A region is scanned to its end. -/
theorem scansTo (kind : RegionKind) (cs : List Char) : ScansTo kind.mode kind.closing cs := by
  cases kind with
  | apostrophes => exact scansTo_of_single (fun _ _ => rfl) cs
  | doubleQuotes => exact scansTo_of_single (fun _ _ => rfl) cs
  | lineComment => exact scansTo_of_single (fun _ _ => rfl) cs
  | blockComment => exact scansTo_comment cs

/-- An opening mark is text, and the region is scanned after it. -/
theorem marksFrom_opening (kind : RegionKind) (blocked : Bool) (rest : List Char) :
    marksFrom (.code blocked) (kind.opening ++ rest)
      = kind.opening.map .text ++ marksFrom kind.mode rest := by
  cases kind <;> rfl

/-- No placeholder is blocked after a region that was closed. -/
theorem blocksPlaceholder_of_closing (kind : RegionKind) {c : Char}
    (h : kind.closing.getLast? = some c) : blocksPlaceholder c = false := by
  cases kind <;> cases h <;> rfl

end RegionKind

/-- No region opens at a character that is no quote and does not begin a comment. -/
theorem RegionKind.not_opening_cons {c : Char} {rest : List Char}
    (none : ∀ kind : RegionKind, ¬ kind.opening <+: c :: rest) :
    ¬ isQuote c = true ∧ ¬ (c = '-' ∧ rest.head? = some '-') ∧
      ¬ (c = '/' ∧ rest.head? = some '*') := by
  refine ⟨fun quote => ?_, ?_, ?_⟩
  · simp only [isQuote, Bool.or_eq_true, beq_iff_eq] at quote
    rcases quote with rfl | rfl
    · exact none .apostrophes ⟨rest, rfl⟩
    · exact none .doubleQuotes ⟨rest, rfl⟩
  · rintro ⟨rfl, next⟩
    obtain ⟨after, rfl⟩ := List.head?_eq_some_iff.mp next
    exact none .lineComment ⟨after, rfl⟩
  · rintro ⟨rfl, next⟩
    obtain ⟨after, rfl⟩ := List.head?_eq_some_iff.mp next
    exact none .blockComment ⟨after, rfl⟩

/-- Where no region opens, a character begins a placeholder or is text. -/
theorem ScanMode.stepCode_of_plain {c : Char} {rest : List Char}
    (none : ∀ kind : RegionKind, ¬ kind.opening <+: c :: rest) (blocked : Bool) :
    stepCode blocked c rest.head? =
      if isSigil c ∧ blocked = false ∧ rest.head?.any Text.isAsciiWordStart then (.sigil c, name)
      else (.text c, code (blocksPlaceholder c)) := by
  obtain ⟨quote, line, block⟩ := RegionKind.not_opening_cons none
  rw [stepCode, if_neg quote, if_neg line, if_neg block]

end DataMapper
