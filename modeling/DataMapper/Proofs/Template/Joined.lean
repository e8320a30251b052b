import DataMapper.Proofs.Template.Bytes

/-!
# Texts behind each other

What a scan knows behind a text is a mode (`ScanMode.after`).  A scan looks ahead by one
character, but it learns nothing from a plain one, so the marks of two texts are those of the
first and then those of the second from that mode on, where the second begins with a plain
character (`marksFrom_append`).  No character is lost on the way (`flatMap_chars_piecesOf`),
so the places of the second text are moved by the bytes of the first.

`EndsOutside` says of a text that a space behind it is outside all regions, by the regions
alone.  It holds exactly when a scan knows so (`endsOutside_iff`).  Behind such a text and a
space, a template is read as if it stood alone (`Template.places_append`).

A text stands alone when nothing can be put around it, with spaces between, that makes it
change the placeholders of what is around it.  These are the texts that end outside all regions
(`Template.standsAlone_iff`), and those of them without placeholders are opaque
(`Template.isOpaque_iff`).
-/

namespace DataMapper

/-! ## Modes behind a text -/

namespace ScanMode

/-- The mode behind some characters that nothing follows. -/
def after : ScanMode → List Char → ScanMode
  | mode, [] => mode
  | mode, c :: rest => (mode.step c rest.head?).2.after rest

/-- Whether a mode is one outside all regions. -/
def isOutside : ScanMode → Bool
  | code _ | name => true
  | _ => false

theorem isOutside_code : (code false).isOutside = true := rfl

/-- A step learns nothing from a next character that begins no name and is in no mark of a
comment. -/
theorem step_some {d : Char} (start : Text.isAsciiWordStart d = false)
    (unmarked : d ≠ '-' ∧ d ≠ '/' ∧ d ≠ '*') (mode : ScanMode) (c : Char) :
    mode.step c (some d) = mode.step c none := by
  obtain ⟨hyphen, slash, star⟩ := unmarked
  cases mode <;> simp [step, stepCode, start, hyphen, slash, star]

/-- A step learns nothing from a plain character that comes next. -/
theorem step_some_of_isPlain {d : Char} (plain : isPlain d = true) (mode : ScanMode) (c : Char) :
    mode.step c (some d) = mode.step c none := by
  obtain ⟨⟨word, sigil⟩, quote, hyphen, slash, star, newline⟩ := isPlain_iff.mp plain
  refine step_some ?_ ⟨hyphen, slash, star⟩ mode c
  rw [Bool.eq_false_iff]
  intro begins
  rw [Text.isAsciiWord_of_isAsciiWordStart begins] at word
  cases word

/-- A step learns nothing from a sigil that comes next. -/
theorem step_some_of_isSigil {d : Char} (sigil : isSigil d = true) (mode : ScanMode) (c : Char) :
    mode.step c (some d) = mode.step c none := by
  simp only [isSigil, Bool.or_eq_true, beq_iff_eq] at sigil
  rcases sigil with ((rfl | rfl) | rfl) | rfl <;> exact step_some rfl (by decide) mode c

variable {rest : List Char}

theorem step_append (plain : rest.head?.all isPlain = true) (mode : ScanMode) (c : Char)
    (cs : List Char) : mode.step c (cs ++ rest).head? = mode.step c cs.head? := by
  cases cs with
  | cons d cs => rfl
  | nil =>
      cases rest with
      | nil => rfl
      | cons d rest => exact step_some_of_isPlain plain mode c

/-- The mode behind two texts is the one behind the second, read on from the first. -/
theorem after_append (plain : rest.head?.all isPlain = true) (mode : ScanMode) (cs : List Char) :
    mode.after (cs ++ rest) = (mode.after cs).after rest := by
  induction cs generalizing mode with
  | nil => rfl
  | cons c cs ih => rw [List.cons_append, after, step_append plain, ih, after]

/-- Behind a space a scan that is outside all regions knows nothing of what was before. -/
theorem after_space {mode : ScanMode} (outside : (mode.after [' ']).isOutside = true) :
    mode.after [' '] = code false := by
  cases mode with
  | quoted quote =>
      rw [after, after, step] at outside ⊢
      split_ifs at outside ⊢
      · rfl
      · cases outside
  | code blocked => rfl
  | name => rfl
  | commentClosing => rfl
  | _ => cases outside

end ScanMode

/-- The marks of two texts are those of the first and of the second read on from it. -/
theorem marksFrom_append {rest : List Char} (plain : rest.head?.all isPlain = true)
    (mode : ScanMode) (cs : List Char) :
    marksFrom mode (cs ++ rest) = marksFrom mode cs ++ marksFrom (mode.after cs) rest := by
  induction cs generalizing mode with
  | nil => rfl
  | cons c cs ih =>
      rw [List.cons_append, marksFrom, ScanMode.step_append plain, ih, marksFrom, ScanMode.after]
      rfl

/-- A space is text, whatever comes next. -/
theorem marksFrom_space (mode : ScanMode) (rest : List Char) :
    marksFrom mode (' ' :: rest) = .text ' ' :: marksFrom (mode.after [' ']) rest := by
  cases mode <;> rfl

/-! ## No character is lost -/

/-- Where no name goes on, the marks do not begin with one. -/
theorem piecesOf_marksFrom {mode : ScanMode} (h : mode ≠ .name) (cs : List Char) :
    (piecesOf (marksFrom mode cs)).1 = [] := by
  cases cs with
  | nil => rfl
  | cons c rest =>
      rw [marksFrom]
      obtain ⟨mark, -⟩ | ⟨-, step⟩ | ⟨named, -, -⟩ := mode.step_cases c rest.head?
      · rw [mark]
        rfl
      · rw [step]
        rfl
      · exact absurd named h

theorem Piece.flatMap_chars_consText (c : Char) (pieces : List Piece) :
    (consText c pieces).flatMap chars = c :: pieces.flatMap chars := by
  cases pieces with
  | nil => rfl
  | cons piece rest => cases piece <;> rfl

/-- The name that the marks begin with and their pieces give the characters back. -/
theorem flatMap_chars_piecesOf (mode : ScanMode) (cs : List Char) :
    (piecesOf (marksFrom mode cs)).1 ++ (piecesOf (marksFrom mode cs)).2.flatMap Piece.chars
      = cs := by
  induction cs generalizing mode with
  | nil => rfl
  | cons c rest ih =>
      have whole := ih (mode.step c rest.head?).2
      rw [marksFrom]
      obtain ⟨mark, other⟩ | ⟨-, step⟩ | ⟨-, -, step⟩ := mode.step_cases c rest.head?
      · rw [piecesOf_marksFrom other, List.nil_append] at whole
        rw [mark, piecesOf, List.nil_append, Piece.flatMap_chars_consText, whole]
      · rw [step] at whole ⊢
        rw [piecesOf, List.nil_append, List.flatMap_cons, Piece.chars, List.cons_append, whole]
      · rw [step] at whole ⊢
        rw [piecesOf, List.cons_append, whole]

/-- The pieces of a text give its characters back. -/
theorem flatMap_chars_piecesOfChars (cs : List Char) :
    (piecesOfChars cs).flatMap Piece.chars = cs := by
  have lossless := flatMap_chars_piecesOf (.code false) cs
  rwa [piecesOf_marksFrom_code, List.nil_append] at lossless

/-! ## Places behind a text -/

theorem widthOf_append (width : Char → Nat) (a b : List Char) :
    widthOf width (a ++ b) = widthOf width a + widthOf width b := by
  induction a with
  | nil => simp [widthOf]
  | cons c rest ih => rw [List.cons_append, widthOf, widthOf, ih, Nat.add_assoc]

/-- Where no name goes on, marks behind others have their places behind those. -/
theorem markPlaces_append {width : Char → Nat} {ms ns : List Mark}
    (sigils : ∀ c, .sigil c ∈ ms → width c = 1) (none : (piecesOf ns).1 = []) (place : Nat) :
    markPlaces width place (ms ++ ns) = markPlaces width place ms
      ++ markPlaces width (place + widthOf width ((piecesOf ms).2.flatMap Piece.chars)) ns := by
  have names (ms : List Mark) : (piecesOf (ms ++ ns)).1 = (piecesOf ms).1 := by
    induction ms with
    | nil => exact none
    | cons mark rest ih =>
        cases mark with
        | name c => rw [List.cons_append, piecesOf, piecesOf, ih]
        | text c => rfl
        | sigil c => rfl
  induction ms generalizing place with
  | nil => rfl
  | cons mark rest ih =>
      have later := ih fun c hc => sigils c (List.mem_cons_of_mem mark hc)
      rw [List.cons_append]
      cases mark with
      | text c =>
          rw [markPlaces_text, markPlaces_text, later, piecesOf, Piece.flatMap_chars_consText,
            widthOf, Nat.add_assoc]
      | name c => exact later place
      | sigil c =>
          have one := sigils c (List.mem_cons_self ..)
          rw [markPlaces_sigil, markPlaces_sigil, names, later, List.cons_append, piecesOf,
            List.flatMap_cons, Piece.chars, List.cons_append, widthOf, one, widthOf_append]
          simp only [Nat.add_assoc]

/-- Placeholders are moved with the place from which they are counted. -/
theorem placesOf_add (width : Char → Nat) (place more : Nat) (segments : List Segment) :
    placesOf width (more + place) segments
      = (placesOf width place segments).map fun found => (more + found.1, found.2) := by
  induction segments generalizing place with
  | nil => rfl
  | cons segment rest ih =>
      cases segment with
      | text s => rw [placesOf, placesOf, Nat.add_assoc, ih]
      | parameter name =>
          rw [placesOf, placesOf, List.map_cons, ← ih]
          simp only [Nat.add_assoc]

/-- Without sigils there are no placeholders. -/
theorem markPlaces_eq_nil_iff {width : Char → Nat} {place : Nat} {marks : List Mark} :
    markPlaces width place marks = [] ↔ ∀ c, .sigil c ∉ marks := by
  induction marks generalizing place with
  | nil => exact ⟨fun _ _ => List.not_mem_nil, fun _ => rfl⟩
  | cons mark rest ih =>
      cases mark with
      | text c => simp [markPlaces_text, ih]
      | name c =>
          have same : markPlaces width place (.name c :: rest) = markPlaces width place rest := rfl
          simp [same, ih]
      | sigil c =>
          rw [markPlaces_sigil]
          exact ⟨nofun, fun none => absurd (List.mem_cons_self ..) (none c)⟩

/-! ## The end of a text -/

/-- Whether a space behind a text is outside all regions of the two. -/
def EndsOutside (text : List Char) : Prop :=
  ∃ regions, OpaqueFrom (text ++ [' ']) 0 regions ∧ ∀ region ∈ regions, region.2 ≤ text.length

/-- Whether a scan in the mode of a region is out of it behind the first closing mark, and
otherwise in it up to the end of the text. -/
def Leaves (mode : ScanMode) (closing cs : List Char) : Prop :=
  ∃ front rest, cs = front ++ rest ∧ EndsAt closing cs front.length ∧
    ((front.getLast? = closing.getLast? ∧ mode.after cs = (ScanMode.code false).after rest) ∨
      (rest = [] ∧ mode.after cs = mode))

theorem Leaves.nil (mode : ScanMode) {closing : List Char} (h : closing ≠ []) :
    Leaves mode closing [] :=
  ⟨[], [], rfl, .nil h, .inr ⟨rfl, rfl⟩⟩

/-- A character that is not at a closing mark is passed over in the same mode. -/
theorem Leaves.cons {mode : ScanMode} {closing cs : List Char} {c : Char}
    (none : ¬ closing <+: c :: cs) (step : (mode.step c cs.head?).2 = mode)
    (closes : closing ≠ []) (h : Leaves mode closing cs) : Leaves mode closing (c :: cs) := by
  obtain ⟨front, rest, rfl, ends, last⟩ := h
  refine ⟨c :: front, rest, rfl, ends.cons none, ?_⟩
  rw [ScanMode.after, step]
  refine last.imp_left fun ⟨hlast, behind⟩ => ⟨?_, behind⟩
  rw [List.getLast?_cons, hlast, List.getLast?_eq_some_getLast closes, Option.getD_some]

/-- A region that is closed by one character is left at the first such character. -/
theorem leaves_of_single {mode : ScanMode} {close : Char}
    (step : ∀ c next, (mode.step c next).2 = if c = close then .code false else mode)
    (cs : List Char) : Leaves mode [close] cs := by
  induction cs with
  | nil => exact .nil mode nofun
  | cons c rest ih =>
      by_cases closes : c = close
      · subst closes
        refine ⟨[c], rest, rfl, .here ⟨rest, rfl⟩, .inl ⟨rfl, ?_⟩⟩
        rw [ScanMode.after, step, if_pos rfl]
      · refine ih.cons (fun found => ?_) (by rw [step, if_neg closes]) nofun
        exact closes (List.cons_prefix_cons.mp found).1.symm

/-- A comment between marks is left at the first mark that closes it. -/
theorem leaves_comment (cs : List Char) : Leaves .comment ['*', '/'] cs := by
  induction cs with
  | nil => exact .nil .comment nofun
  | cons c rest ih =>
      by_cases closes : c = '*' ∧ rest.head? = some '/'
      · obtain ⟨rfl, slash⟩ := closes
        obtain ⟨behind, rfl⟩ := List.head?_eq_some_iff.mp slash
        exact ⟨['*', '/'], behind, rfl, .here ⟨behind, rfl⟩, .inl ⟨rfl, rfl⟩⟩
      · refine ih.cons (fun found => closes ?_) ?_ nofun
        · obtain ⟨star, behind, rfl⟩ := List.cons_prefix_cons.mp found
          exact ⟨star.symm, rfl⟩
        · rw [ScanMode.step, if_neg closes]

namespace RegionKind

/-- A region is left at its end. -/
theorem leaves (kind : RegionKind) (cs : List Char) : Leaves kind.mode kind.closing cs := by
  cases kind with
  | apostrophes => exact leaves_of_single (fun _ _ => rfl) cs
  | doubleQuotes => exact leaves_of_single (fun _ _ => rfl) cs
  | lineComment => exact leaves_of_single (fun _ _ => rfl) cs
  | blockComment => exact leaves_comment cs

/-- Behind an opening mark a scan is in the region. -/
theorem after_opening (kind : RegionKind) {mode : ScanMode} (outside : mode.isOutside = true)
    (rest : List Char) : mode.after (kind.opening ++ rest) = kind.mode.after rest := by
  cases mode with
  | code blocked => cases kind <;> rfl
  | name => cases kind <;> rfl
  | _ => cases outside

/-- No region is opened or closed by a space. -/
theorem getLast?_ne_space (kind : RegionKind) :
    kind.opening.getLast? ≠ some ' ' ∧ kind.closing.getLast? ≠ some ' ' := by
  cases kind <;> decide

end RegionKind

/-- A character at which no region opens leaves a scan outside all regions. -/
theorem ScanMode.isOutside_step {mode : ScanMode} (outside : mode.isOutside = true) {c : Char}
    {rest : List Char} (none : ∀ kind : RegionKind, ¬ kind.opening <+: c :: rest) :
    (mode.step c rest.head?).2.isOutside = true := by
  have code (blocked : Bool) : (stepCode blocked c rest.head?).2.isOutside = true := by
    rw [stepCode_of_plain none]
    split_ifs <;> rfl
  cases mode with
  | code blocked => exact code blocked
  | name =>
      rw [step]
      split_ifs
      · rfl
      · exact code true
  | _ => cases outside

/-- What is behind the first part of a text that ends in a space ends in one, unless that
part does. -/
theorem getLast?_of_append {front rest : List Char} (h : (front ++ rest).getLast? = some ' ')
    (other : front.getLast? ≠ some ' ') : rest.getLast? = some ' ' := by
  rw [List.getLast?_append] at h
  cases last : rest.getLast? with
  | none =>
      rw [last] at h
      exact absurd h other
  | some c =>
      rw [last] at h
      exact h

/-- Whether a mode is one outside all regions, and all of a list end before a place, or it is
one of a region, and one of the list ends there. -/
def Tells (mode : ScanMode) (finish : Nat) (regions : List (Nat × Nat)) : Prop :=
  (mode.isOutside = true ∧ ∀ region ∈ regions, region.2 < finish) ∨
    ((∃ kind : RegionKind, mode = kind.mode) ∧ ∃ region ∈ regions, region.2 = finish)

theorem Tells.nil {mode : ScanMode} (outside : mode.isOutside = true) (finish : Nat) :
    Tells mode finish [] :=
  .inl ⟨outside, nofun⟩

/-- A region that ends before the place changes nothing. -/
theorem Tells.cons {mode : ScanMode} {finish : Nat} {regions : List (Nat × Nat)}
    (h : Tells mode finish regions) {region : Nat × Nat} (early : region.2 < finish) :
    Tells mode finish (region :: regions) := by
  rcases h with ⟨outside, before⟩ | ⟨inside, last, mem, ends⟩
  · exact .inl ⟨outside, List.forall_mem_cons.mpr ⟨early, before⟩⟩
  · exact .inr ⟨inside, last, List.mem_cons_of_mem _ mem, ends⟩

/-- Behind a text that ends in a space, a scan that began outside all regions tells whether
one of them reaches to its end. -/
theorem exists_opaqueFrom_tells (before cs : List Char) (space : cs.getLast? = some ' ')
    {mode : ScanMode} (outside : mode.isOutside = true) :
    ∃ regions, OpaqueFrom (before ++ cs) before.length regions ∧
      Tells (mode.after cs) (before ++ cs).length regions := by
  -- As in `finds_marksFrom`, the scan goes on behind a region or behind one character.
  by_cases opens : ∃ kind : RegionKind, kind.opening <+: cs
  · obtain ⟨kind, inner, rfl⟩ := opens
    have spaceInner := getLast?_of_append space kind.getLast?_ne_space.1
    obtain ⟨front, rest, rfl, ends, last⟩ := kind.leaves inner
    have region := kind.isRegion_append ends before
    rw [kind.after_opening outside]
    rcases last with ⟨hlast, behind⟩ | ⟨rfl, behind⟩
    · have spaceRest := getLast?_of_append spaceInner (hlast ▸ kind.getLast?_ne_space.2)
      have filled : 0 < rest.length := List.length_pos_iff.mpr fun none => by
        rw [none] at spaceRest
        cases spaceRest
      obtain ⟨regions, opaqueFrom, tells⟩ := exists_opaqueFrom_tells
        (before ++ (kind.opening ++ front)) rest spaceRest ScanMode.isOutside_code
      simp only [List.append_assoc, List.length_append] at opaqueFrom tells ⊢
      rw [behind]
      exact ⟨_, opaqueFrom.region region, tells.cons (by omega)⟩
    · rw [List.append_nil] at region behind ⊢
      have whole : before.length + (kind.opening.length + front.length)
          = (before ++ (kind.opening ++ front)).length := by
        rw [List.length_append, List.length_append]
      rw [whole] at region
      exact ⟨_, (OpaqueFrom.nil _).region region,
        .inr ⟨⟨kind, behind⟩, _, List.mem_singleton_self _, rfl⟩⟩
  · have none (kind : RegionKind) : ¬ kind.opening <+: cs := fun h => opens ⟨kind, h⟩
    cases cs with
    | nil => cases space
    | cons c rest =>
        have here (kind : RegionKind) : ¬ kind.Opens (before ++ c :: rest) before.length :=
          fun h => none kind (RegionKind.opens_append.mp h)
        have later := ScanMode.isOutside_step outside none
        rw [ScanMode.after]
        cases rest with
        | nil =>
            have end_ := OpaqueFrom.nil (before ++ [c])
            rw [List.length_append] at end_
            exact ⟨[], end_.plain here, .nil later _⟩
        | cons d rest =>
            obtain ⟨regions, opaqueFrom, tells⟩ :=
              exists_opaqueFrom_tells (before ++ [c]) (d :: rest) space later
            rw [List.append_assoc, List.singleton_append] at opaqueFrom tells
            rw [List.length_append] at opaqueFrom
            exact ⟨regions, opaqueFrom.plain here, tells⟩
termination_by cs.length
decreasing_by
  · subst_vars
    have := kind.opening_length_pos
    simp only [List.length_append]
    omega
  · subst_vars
    exact Nat.lt_succ_self _

/-- What a scan knows behind a text and a space says whether the text ends outside all
regions, and when it does not the scan is in one. -/
theorem endsOutside_cases (text : List Char) :
    (EndsOutside text ∧ (ScanMode.code false).after (text ++ [' ']) = .code false) ∨
      (¬ EndsOutside text ∧
        ∃ kind : RegionKind, (ScanMode.code false).after (text ++ [' ']) = kind.mode) := by
  obtain ⟨regions, opaqueFrom, tells⟩ :=
    exists_opaqueFrom_tells [] (text ++ [' ']) (by simp) ScanMode.isOutside_code
  rw [List.nil_append, List.length_append, List.length_singleton] at tells
  rcases tells with ⟨outside, early⟩ | ⟨inside, last, mem, finish⟩
  · rw [ScanMode.after_append rfl] at outside ⊢
    exact .inl ⟨⟨regions, opaqueFrom, fun region mem => Nat.le_of_lt_succ (early region mem)⟩,
      ScanMode.after_space outside⟩
  · refine .inr ⟨fun ⟨others, opaqueFrom', early⟩ => ?_, inside⟩
    obtain rfl := opaqueFrom.unique opaqueFrom'
    have := early last mem
    omega

/-- A text ends outside all regions exactly when a scan is outside them behind it and a space. -/
theorem endsOutside_iff {text : List Char} :
    EndsOutside text ↔ (ScanMode.code false).after (text ++ [' ']) = .code false := by
  obtain ⟨ends, known⟩ | ⟨ends, kind, known⟩ := endsOutside_cases text
  · exact iff_of_true ends known
  · refine iff_of_false ends fun same => ?_
    rw [same] at known
    cases kind <;> cases known

instance (text : List Char) : Decidable (EndsOutside text) :=
  decidable_of_iff _ endsOutside_iff.symm

/-! ## Templates behind each other -/

/-- The width in bytes is the number of bytes. -/
theorem widthOf_utf8Size_eq (cs : List Char) :
    widthOf Char.utf8Size cs = (cs.flatMap charBytes).length := by
  induction cs with
  | nil => rfl
  | cons c rest ih => rw [widthOf, ih, List.flatMap_cons, List.length_append, length_charBytes]

theorem widthOf_utf8Size_toList (s : String) : widthOf Char.utf8Size s.toList = s.utf8ByteSize := by
  rw [widthOf_utf8Size_eq, ← byteChars_eq, byteChars, List.length_map]
  rfl

namespace Template

/-- Behind a text and a space, placeholders are found as what was read tells, and their
places are counted on. -/
theorem places_join (front rest : String) :
    (parse (front ++ " " ++ rest)).places = (parse front).places
      ++ markPlaces Char.utf8Size (front ++ " ").utf8ByteSize
          (marksFrom ((ScanMode.code false).after (front.toList ++ [' '])) rest.toList) := by
  have sigils (c : Char) (mem : .sigil c ∈ marksFrom (.code false) front.toList) :
      c.utf8Size = 1 :=
    utf8Size_of_sigil (sigil_of_mem_marksFrom mem)
  have marks : marksFrom (.code false) (front ++ " " ++ rest).toList
      = marksFrom (.code false) front.toList ++ .text ' ' ::
          marksFrom ((ScanMode.code false).after (front.toList ++ [' '])) rest.toList := by
    have chars : (front ++ " " ++ rest).toList = front.toList ++ ' ' :: rest.toList := by simp
    rw [chars, marksFrom_append rfl, marksFrom_space, ScanMode.after_append rfl]
  have lossless := flatMap_chars_piecesOfChars front.toList
  rw [piecesOfChars] at lossless
  have bytes : 0 + widthOf Char.utf8Size front.toList + ' '.utf8Size
      = (front ++ " ").utf8ByteSize := by
    rw [← widthOf_utf8Size_toList, String.toList_append, widthOf_append, Nat.zero_add]
    rfl
  change markPlaces Char.utf8Size 0 (marksFrom (.code false) (front ++ " " ++ rest).toList) = _
  rw [marks, markPlaces_append sigils rfl, lossless, markPlaces_text, bytes]
  rfl

/-- Behind a text that ends outside all regions and a space, a template has the places that
it has alone, moved by the bytes before it. -/
theorem places_append {front : String} (h : EndsOutside front.toList) (rest : String) :
    (parse (front ++ " " ++ rest)).places = (parse front).places
      ++ (parse rest).places.map fun found => ((front ++ " ").utf8ByteSize + found.1, found.2) := by
  rw [places_join, endsOutside_iff.mp h]
  exact congrArg _ (placesOf_add _ 0 _ _)

/-- A space behind a text adds no placeholder. -/
theorem places_space (text : String) : (parse (text ++ " ")).places = (parse text).places := by
  have alone := places_join text ""
  rw [String.append_empty] at alone
  exact alone.trans (List.append_nil _)

/-- Whether the placeholders of a text with spaces around it are those of what is before it,
then its own, then those of what is behind it. -/
def StandsAlone (text : String) : Prop :=
  ∀ front back : String, EndsOutside front.toList →
    (parse (front ++ " " ++ text ++ " " ++ back)).places = (parse front).places
      ++ (parse text).places.map (fun found => ((front ++ " ").utf8ByteSize + found.1, found.2))
      ++ (parse back).places.map fun found =>
          ((front ++ " " ++ text ++ " ").utf8ByteSize + found.1, found.2)

/-- The texts that stand alone are those that end outside all regions. -/
theorem standsAlone_iff {text : String} : StandsAlone text ↔ EndsOutside text.toList := by
  have split (front back : String) :
      front ++ " " ++ text ++ " " ++ back = front ++ " " ++ (text ++ " " ++ back) := by
    simp only [String.append_assoc]
  constructor
  · intro h
    obtain ⟨ends, -⟩ | ⟨-, kind, known⟩ := endsOutside_cases text.toList
    · exact ends
    · -- what would be a placeholder behind the text is not found in a region
      have lengths := congrArg List.length (h "" ":x" (by decide))
      have lost : (markPlaces Char.utf8Size (text ++ " ").utf8ByteSize
          (marksFrom kind.mode ":x".toList)).length = 0 := by
        cases kind <;> rfl
      have found : (parse ":x").places.length = 1 := by decide
      rw [split, places_append (by decide), places_join, known] at lengths
      simp only [List.length_append, List.length_map] at lengths
      omega
  · intro ends front back outside
    have bytes : (front ++ " ").utf8ByteSize + (text ++ " ").utf8ByteSize
        = (front ++ " " ++ text ++ " ").utf8ByteSize := by
      simp only [String.utf8ByteSize_append]
      omega
    rw [split, places_append outside, places_append ends, List.map_append, List.map_map, ← bytes,
      List.append_assoc]
    simp only [Function.comp_def, Nat.add_assoc]

/-- Whether a text with spaces around it changes no placeholder of what it is put between,
and has none of its own. -/
def IsOpaque (text : String) : Prop :=
  ∀ front back : String, EndsOutside front.toList →
    (parse (front ++ " " ++ text ++ " " ++ back)).places
      = (parse (front ++ " ")).places ++ (parse back).places.map fun found =>
          ((front ++ " " ++ text ++ " ").utf8ByteSize + found.1, found.2)

/-- The opaque texts are those that have no placeholder and end outside all regions. -/
theorem isOpaque_iff {text : String} :
    IsOpaque text ↔ (parse text).places = [] ∧ EndsOutside text.toList := by
  rw [← standsAlone_iff]
  constructor
  · intro h
    have none : (parse text).places = [] := by
      have alone := h "" "" (by decide)
      have nothing : (parse ("" ++ " ")).places = [] ∧ (parse "").places = [] := by decide
      rw [String.append_empty, places_space, places_append (by decide), nothing.1, nothing.2]
        at alone
      exact List.map_eq_nil_iff.mp alone
    refine ⟨none, fun front back outside => ?_⟩
    rw [h front back outside, places_space, none, List.map_nil, List.append_nil]
  · rintro ⟨none, alone⟩ front back outside
    rw [alone front back outside, places_space, none, List.map_nil, List.append_nil]

end Template

end DataMapper
