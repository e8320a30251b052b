import DataMapper.Template

/-!
# Regions of a text

A region is a part of a text in which nothing is a placeholder.  Its kind gives
the mark that opens it and the mark that closes it, and it ends with the first
closing mark after the opening one, or with the text where there is none
(`RegionKind.IsRegion`).

Regions are opened from left to right, so an opening mark inside a region opens
nothing.  `OpaqueFrom` says this of a list of regions without saying how they are
found: they follow each other, each of them is a region, and every opening mark
stands in one of them.  There is at most one such list (`OpaqueFrom.unique`).

Places are counted in characters from zero.  The regions from a place on are those
from the next place on where nothing opens (`OpaqueFrom.plain`), and where a region
opens it comes before those from its end on (`OpaqueFrom.region`).
-/

namespace DataMapper

/-! ## Marks in a text -/

/-- Whether a number of characters reaches to the end of the first mark in a text,
or to the end of the text where the mark is nowhere. -/
def EndsAt (mark text : List Char) (count : Nat) : Prop :=
  (∃ place, mark <+: text.drop place ∧ (∀ earlier < place, ¬ mark <+: text.drop earlier) ∧
      count = place + mark.length) ∨
    ((∀ place, ¬ mark <+: text.drop place) ∧ count = text.length)

/-- The end of the first mark is one place. -/
theorem EndsAt.unique {mark text : List Char} {m n : Nat} (hm : EndsAt mark text m)
    (hn : EndsAt mark text n) : m = n := by
  rcases hm with ⟨p, hp, pFirst, rfl⟩ | ⟨nowhere, rfl⟩
  · rcases hn with ⟨q, hq, qFirst, rfl⟩ | ⟨nowhere, -⟩
    · have same : p = q := by
        rcases Nat.lt_trichotomy p q with lt | eq | gt
        · exact absurd hp (qFirst p lt)
        · exact eq
        · exact absurd hq (pFirst q gt)
      rw [same]
    · exact absurd hp (nowhere p)
  · rcases hn with ⟨q, hq, -, -⟩ | ⟨-, rfl⟩
    · exact absurd hq (nowhere q)
    · rfl

/-- A mark at the beginning is the first. -/
theorem EndsAt.here {mark text : List Char} (h : mark <+: text) :
    EndsAt mark text mark.length :=
  Or.inl ⟨0, h, nofun, (Nat.zero_add _).symm⟩

/-- No mark is in nothing. -/
theorem EndsAt.nil {mark : List Char} (h : mark ≠ []) : EndsAt mark [] 0 := by
  refine Or.inr ⟨fun place found => ?_, rfl⟩
  rw [List.drop_nil] at found
  exact h (List.prefix_nil.mp found)

/-- A character at which the mark does not stand is passed over. -/
theorem EndsAt.cons {mark text : List Char} {c : Char} {n : Nat} (none : ¬ mark <+: c :: text)
    (h : EndsAt mark text n) : EndsAt mark (c :: text) (n + 1) := by
  rcases h with ⟨place, found, first, rfl⟩ | ⟨nowhere, rfl⟩
  · refine Or.inl ⟨place + 1, found, fun earlier before => ?_, by omega⟩
    cases earlier with
    | zero => exact none
    | succ earlier => exact first earlier (by omega)
  · refine Or.inr ⟨fun place => ?_, rfl⟩
    cases place with
    | zero => exact none
    | succ place => exact nowhere place

/-! ## Regions -/

/-- The kinds of regions. -/
inductive RegionKind where
  | apostrophes
  | doubleQuotes
  | lineComment
  | blockComment
  deriving DecidableEq

namespace RegionKind

def opening : RegionKind → List Char
  | apostrophes => ['\'']
  | doubleQuotes => ['"']
  | lineComment => ['-', '-']
  | blockComment => ['/', '*']

def closing : RegionKind → List Char
  | apostrophes => ['\'']
  | doubleQuotes => ['"']
  | lineComment => ['\n']
  | blockComment => ['*', '/']

/-- Whether the opening mark of a region stands at a place. -/
def Opens (kind : RegionKind) (text : List Char) (place : Nat) : Prop :=
  kind.opening <+: text.drop place

/-- Whether what is from one place to another is a region of a kind, if its opening
mark is not inside another region. -/
def IsRegion (kind : RegionKind) (text : List Char) (start finish : Nat) : Prop :=
  kind.Opens text start ∧
    ∃ count, EndsAt kind.closing (text.drop (start + kind.opening.length)) count ∧
      finish = start + kind.opening.length + count

theorem opening_length_pos (kind : RegionKind) : 0 < kind.opening.length := by
  cases kind <;> exact Nat.succ_pos _

/-- A place opens regions of one kind only. -/
theorem eq_of_opens {a b : RegionKind} {text : List Char} {place : Nat} (ha : a.Opens text place)
    (hb : b.Opens text place) : a = b := by
  unfold Opens at ha hb
  generalize text.drop place = rest at ha hb
  obtain ⟨after, rfl⟩ := ha
  cases a <;> cases b <;> simp [opening] at hb ⊢

theorem IsRegion.lt {kind : RegionKind} {text : List Char} {start finish : Nat}
    (h : kind.IsRegion text start finish) : start < finish := by
  obtain ⟨-, count, -, rfl⟩ := h
  have := kind.opening_length_pos
  omega

/-- A place begins one region only. -/
theorem IsRegion.unique {a b : RegionKind} {text : List Char} {start finish other : Nat}
    (ha : a.IsRegion text start finish) (hb : b.IsRegion text start other) : finish = other := by
  obtain ⟨opens, m, hm, rfl⟩ := ha
  obtain ⟨opens', n, hn, rfl⟩ := hb
  obtain rfl := eq_of_opens opens opens'
  rw [hm.unique hn]

end RegionKind

/-! ## The regions of a text -/

/-- Whether the regions of a text from a place on, opened from left to right, are
those of a list of first places and of places past the end. -/
structure OpaqueFrom (text : List Char) (start : Nat) (regions : List (Nat × Nat)) : Prop where
  /-- Each begins where the last one ended or later. -/
  ordered : regions.Pairwise fun a b => a.2 ≤ b.1
  after : ∀ region ∈ regions, start ≤ region.1
  isRegion : ∀ region ∈ regions, ∃ kind : RegionKind, kind.IsRegion text region.1 region.2
  /-- Every opening mark stands in one of them. -/
  complete : ∀ place, start ≤ place → ∀ kind : RegionKind, kind.Opens text place →
    ∃ region ∈ regions, region.1 ≤ place ∧ place < region.2

namespace OpaqueFrom

variable {text : List Char} {start : Nat} {regions : List (Nat × Nat)}

/-- Nothing is after the end. -/
theorem nil (text : List Char) : OpaqueFrom text text.length [] where
  ordered := .nil
  after := nofun
  isRegion := nofun
  complete := by
    intro place late kind opens
    have none : text.drop place = [] := List.drop_eq_nil_of_le late
    rw [RegionKind.Opens, none, List.prefix_nil] at opens
    cases kind <;> cases opens

/-- A place that opens nothing is passed over. -/
theorem plain (none : ∀ kind : RegionKind, ¬ kind.Opens text start)
    (h : OpaqueFrom text (start + 1) regions) : OpaqueFrom text start regions where
  ordered := h.ordered
  after region hregion := Nat.le_of_succ_le (h.after region hregion)
  isRegion := h.isRegion
  complete := by
    intro place late kind opens
    refine h.complete place (Nat.lt_of_le_of_ne late ?_) kind opens
    intro same
    exact none kind (same ▸ opens)

/-- A region comes before those from its end on. -/
theorem region {kind : RegionKind} {finish : Nat} (opened : kind.IsRegion text start finish)
    (h : OpaqueFrom text finish regions) : OpaqueFrom text start ((start, finish) :: regions) where
  ordered := List.pairwise_cons.mpr ⟨fun region hregion => h.after region hregion, h.ordered⟩
  after := by
    refine List.forall_mem_cons.mpr ⟨Nat.le_refl _, fun region hregion => ?_⟩
    exact Nat.le_trans (Nat.le_of_lt opened.lt) (h.after region hregion)
  isRegion := List.forall_mem_cons.mpr ⟨⟨kind, opened⟩, h.isRegion⟩
  complete := by
    intro place late other opens
    rcases Nat.lt_or_ge place finish with inside | past
    · exact ⟨(start, finish), List.mem_cons_self .., late, inside⟩
    · obtain ⟨region, hregion, within⟩ := h.complete place past other opens
      exact ⟨region, List.mem_cons_of_mem _ hregion, within⟩

/-- The regions after the first one are those from its end on. -/
theorem tail {region : Nat × Nat} (h : OpaqueFrom text start (region :: regions)) :
    OpaqueFrom text region.2 regions where
  ordered := (List.pairwise_cons.mp h.ordered).2
  after := (List.pairwise_cons.mp h.ordered).1
  isRegion other hother := h.isRegion other (List.mem_cons_of_mem _ hother)
  complete := by
    intro place late kind opens
    obtain ⟨first, hfirst⟩ := h.isRegion region (List.mem_cons_self ..)
    have begun := h.after region (List.mem_cons_self ..)
    have far : start ≤ place := by
      have := hfirst.lt
      omega
    obtain ⟨other, hother, within⟩ := h.complete place far kind opens
    rcases List.mem_cons.mp hother with rfl | later
    · exact absurd within.2 (Nat.not_lt.mpr late)
    · exact ⟨other, later, within⟩

/-- The first region begins before any place that opens one. -/
theorem head_le {region : Nat × Nat} (h : OpaqueFrom text start (region :: regions)) {place : Nat}
    (late : start ≤ place) {kind : RegionKind} (opens : kind.Opens text place) :
    region.1 ≤ place := by
  obtain ⟨other, hother, within, -⟩ := h.complete place late kind opens
  rcases List.mem_cons.mp hother with rfl | later
  · exact within
  · have apart := (List.pairwise_cons.mp h.ordered).1 other later
    obtain ⟨first, hfirst⟩ := h.isRegion region (List.mem_cons_self ..)
    have := hfirst.lt
    omega

/-- The regions of a text are one list. -/
theorem unique {others : List (Nat × Nat)} (h : OpaqueFrom text start regions)
    (h' : OpaqueFrom text start others) : regions = others := by
  induction regions generalizing start others with
  | nil =>
      cases others with
      | nil => rfl
      | cons other rest =>
          obtain ⟨kind, opens, -⟩ := h'.isRegion other (List.mem_cons_self ..)
          obtain ⟨region, hregion, -⟩ :=
            h.complete other.1 (h'.after other (List.mem_cons_self ..)) kind opens
          cases hregion
  | cons region regions ih =>
      obtain ⟨kind, opened⟩ := h.isRegion region (List.mem_cons_self ..)
      have begun := h.after region (List.mem_cons_self ..)
      cases others with
      | nil =>
          obtain ⟨other, hother, -⟩ := h'.complete region.1 begun kind opened.1
          cases hother
      | cons other rest =>
          obtain ⟨otherKind, otherOpened⟩ := h'.isRegion other (List.mem_cons_self ..)
          have otherBegun := h'.after other (List.mem_cons_self ..)
          have starts : region.1 = other.1 :=
            Nat.le_antisymm (h.head_le otherBegun otherOpened.1) (h'.head_le begun opened.1)
          have finishes : region.2 = other.2 := opened.unique (starts ▸ otherOpened)
          rw [Prod.ext starts finishes, ih h.tail (finishes ▸ h'.tail)]

end OpaqueFrom

end DataMapper
