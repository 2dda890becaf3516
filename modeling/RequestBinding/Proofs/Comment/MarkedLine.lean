import Mathlib.Data.List.Count
import RequestBinding.Comment
import RequestBinding.Proofs.Text.Trim

set_option autoImplicit false

namespace RequestBinding.Comment

variable {marker line rest t : Text}

def leaders : List Text :=
  ["#".toList, "//".toList]

def StandsApart (rest : Text) : Prop :=
  rest = [] ∨ Text.startsBlank rest = true

-- The marker itself may be empty, or begin or end with blanks, so that one line can be taken apart
-- in several ways.
def Marked (marker line rest : Text) : Prop :=
  ∃ before leader gap, Text.Blank before ∧ leader ∈ leaders ∧ Text.Blank gap ∧
    line = before ++ leader ++ gap ++ marker ++ rest ∧ StandsApart rest

instance (rest : Text) : Decidable (StandsApart rest) :=
  inferInstanceAs (Decidable (rest = [] ∨ Text.startsBlank rest = true))

theorem afterLeader?_eq_some_iff :
    afterLeader? t = some rest ↔ ∃ leader ∈ leaders, t = leader ++ rest := by
  constructor
  · intro found
    unfold afterLeader? at found
    split at found
    next behind => exact ⟨"#".toList, by simp [leaders], by simpa using found⟩
    next behind => exact ⟨"//".toList, by simp [leaders], by simpa using found⟩
    next => exact nomatch found
  · intro written
    obtain ⟨leader, known, rfl⟩ := written
    simp only [leaders, List.mem_cons, List.not_mem_nil, or_false] at known
    rcases known with rfl | rfl <;> rfl

theorem visible_of_leader {leader : Text} (known : leader ∈ leaders) :
    ∃ c more, leader = c :: more ∧ Text.isBlank c = false := by
  simp only [leaders, List.mem_cons, List.not_mem_nil, or_false] at known
  rcases known with rfl | rfl
  · exact ⟨'#', [], rfl, rfl⟩
  · exact ⟨'/', ['/'], rfl, rfl⟩

theorem Marked.ne_nil (marked : Marked marker line rest) : line ≠ [] := by
  obtain ⟨before, leader, gap, -, known, -, rfl, -⟩ := marked
  obtain ⟨c, more, rfl, -⟩ := visible_of_leader known
  simp

theorem dropWhile_blank_leader {before leader : Text} (blank : Text.Blank before)
    (known : leader ∈ leaders) (t : Text) :
    (before ++ leader ++ t).dropWhile Text.isBlank = leader ++ t := by
  obtain ⟨c, more, rfl, visible⟩ := visible_of_leader known
  rw [List.append_assoc]
  exact Text.dropWhile_append_stop blank (by simp [visible])

def standing? (marker t : Text) : Option Text :=
  (marker.isPrefixOf? t).filter fun rest => decide (StandsApart rest)

theorem standing?_eq_some_iff :
    standing? marker t = some rest ↔ t = marker ++ rest ∧ StandsApart rest := by
  simp only [standing?, Option.filter_eq_some_iff, List.isPrefixOf?_eq_some_iff_append_eq,
    decide_eq_true_eq, @eq_comm _ t]

theorem afterMarker?_nil : afterMarker? marker [] = standing? marker [] := by
  cases marker <;> rfl

theorem afterMarker?_cons (c : Char) (t : Text) :
    afterMarker? marker (c :: t) =
      (standing? marker (c :: t)).or (if Text.isBlank c then afterMarker? marker t else none) := by
  rw [afterMarker?, standing?]
  cases marker.isPrefixOf? (c :: t) with
  | none => rfl
  | some behind =>
    cases behind with
    | nil => rfl
    | cons d after =>
      by_cases blank : Text.isBlank d = true <;>
        simp [Option.filter, StandsApart, Text.startsBlank, blank]

theorem exists_gap_of_afterMarker? (found : afterMarker? marker t = some rest) :
    ∃ gap, Text.Blank gap ∧ t = gap ++ marker ++ rest ∧ StandsApart rest := by
  have atStart {t : Text} (stands : standing? marker t = some rest) :
      ∃ gap, Text.Blank gap ∧ t = gap ++ marker ++ rest ∧ StandsApart rest :=
    ⟨[], Text.blank_nil, standing?_eq_some_iff.mp stands⟩
  induction t with
  | nil => exact atStart (afterMarker?_nil ▸ found)
  | cons c t ih =>
    rw [afterMarker?_cons, Option.or_eq_some_iff] at found
    rcases found with here | later
    · exact atStart here
    · obtain ⟨blank, found⟩ := Option.ite_none_right_eq_some.mp later.2
      obtain ⟨gap, gapBlank, rfl, apart⟩ := ih found
      exact ⟨c :: gap, by simp [blank, gapBlank], by simp, apart⟩

-- A place that the search stops at too early is good enough itself.
theorem exists_afterMarker? (marker : Text) {gap : Text} (blank : Text.Blank gap)
    (apart : StandsApart rest) :
    ∃ found, afterMarker? marker (gap ++ marker ++ rest) = some found := by
  have atStart : standing? marker (marker ++ rest) = some rest :=
    standing?_eq_some_iff.mpr ⟨rfl, apart⟩
  induction gap with
  | nil =>
    rw [List.nil_append]
    cases whole : marker ++ rest with
    | nil => exact ⟨rest, afterMarker?_nil.trans (whole ▸ atStart)⟩
    | cons c t =>
      rw [whole] at atStart
      exact ⟨rest, by simp [afterMarker?_cons, atStart]⟩
  | cons c gap ih =>
    rw [Text.blank_cons] at blank
    obtain ⟨later, found⟩ := ih blank.2
    rw [List.cons_append, List.cons_append, afterMarker?_cons, found, if_pos blank.1]
    cases standing? marker (c :: (gap ++ marker ++ rest)) with
    | none => exact ⟨later, rfl⟩
    | some here => exact ⟨here, rfl⟩

-- A gap that is longer by some blanks takes as many, and the same ones, away from the rest.
theorem strip_eq_of_shifted {shift other : Text} (blank : Text.Blank shift)
    (same : marker ++ rest = shift ++ marker ++ other) : rest.strip = other.strip := by
  obtain ⟨swapped, rfl, shifted⟩ : ∃ swapped, rest = swapped ++ other ∧
      marker ++ swapped = shift ++ marker := by
    rcases List.append_eq_append_iff.mp same with ⟨swapped, whole, split⟩ | ⟨extra, whole, split⟩
    · exact ⟨swapped, split, whole.symm⟩
    · have nothing : shift = [] ∧ extra = [] := by
        have lengths := congrArg List.length whole
        simp only [List.length_append] at lengths
        constructor <;> apply List.length_eq_zero_iff.mp <;> omega
      obtain ⟨rfl, rfl⟩ := nothing
      exact ⟨[], by simpa using split.symm, by simp⟩
  have swappedBlank : Text.Blank swapped := by
    intro c member
    have counts := congrArg (List.count c) shifted
    have present := List.count_pos_iff.mpr member
    rw [List.count_append, List.count_append] at counts
    exact blank c (List.count_pos_iff.mp (by omega))
  simpa using Text.strip_between other swappedBlank Text.blank_nil

theorem strip_eq_of_gaps {gap gap' other : Text} (blank : Text.Blank gap) (blank' : Text.Blank gap')
    (same : gap ++ marker ++ rest = gap' ++ marker ++ other) : rest.strip = other.strip := by
  rw [List.append_assoc, List.append_assoc] at same
  rcases List.append_eq_append_iff.mp same with ⟨shift, rfl, split⟩ | ⟨shift, rfl, split⟩
  · rw [← List.append_assoc] at split
    exact strip_eq_of_shifted (Text.blank_append.mp blank').2 split
  · rw [← List.append_assoc] at split
    exact (strip_eq_of_shifted (Text.blank_append.mp blank).2 split).symm

theorem behind_leader_eq {before before' leader leader' s t : Text} (blank : Text.Blank before)
    (blank' : Text.Blank before') (known : leader ∈ leaders) (known' : leader' ∈ leaders)
    (same : before ++ leader ++ s = before' ++ leader' ++ t) : s = t := by
  have opened := congrArg (List.dropWhile Text.isBlank) same
  rw [dropWhile_blank_leader blank known, dropWhile_blank_leader blank' known'] at opened
  have behind := congrArg afterLeader? opened
  rwa [afterLeader?_eq_some_iff.mpr ⟨leader, known, rfl⟩,
    afterLeader?_eq_some_iff.mpr ⟨leader', known', rfl⟩, Option.some.injEq] at behind

theorem Marked.behind_leader_eq {marker' rest' : Text} (marked : Marked marker line rest)
    (again : Marked marker' line rest') :
    ∃ gap gap', Text.Blank gap ∧ Text.Blank gap' ∧
      gap ++ marker ++ rest = gap' ++ marker' ++ rest' := by
  obtain ⟨before, leader, gap, blank, known, gapBlank, rfl, -⟩ := marked
  obtain ⟨before', leader', gap', blank', known', gapBlank', same, -⟩ := again
  refine ⟨gap, gap', gapBlank, gapBlank', ?_⟩
  apply Comment.behind_leader_eq blank blank' known known'
  simpa only [List.append_assoc] using same

theorem Marked.strip_eq {other : Text} (marked : Marked marker line rest)
    (again : Marked marker line other) : rest.strip = other.strip := by
  obtain ⟨gap, gap', blank, blank', behind⟩ := marked.behind_leader_eq again
  exact strip_eq_of_gaps blank blank' behind

theorem body?_eq_some_iff {text : Text} :
    body? marker line = some text ↔ ∃ rest, Marked marker line rest ∧ text = rest.strip := by
  have sound {text : Text} (read : body? marker line = some text) :
      ∃ rest, Marked marker line rest ∧ text = rest.strip := by
    obtain ⟨found, search, rfl⟩ := Option.map_eq_some_iff.mp read
    obtain ⟨opened, hasLeader, hasMarker⟩ := Option.bind_eq_some_iff.mp search
    obtain ⟨leader, known, split⟩ := afterLeader?_eq_some_iff.mp hasLeader
    obtain ⟨gap, blank, rfl, apart⟩ := exists_gap_of_afterMarker? hasMarker
    refine ⟨found, ⟨line.takeWhile Text.isBlank, leader, gap, ?_, known, blank, ?_, apart⟩, rfl⟩
    · exact fun c member => List.all_eq_true.mp List.all_takeWhile c member
    · have whole : line.takeWhile Text.isBlank ++ line.dropWhile Text.isBlank = line :=
        List.takeWhile_append_dropWhile
      rw [split] at whole
      simpa only [List.append_assoc] using whole.symm
  constructor
  · exact sound
  · intro written
    obtain ⟨rest, marked, rfl⟩ := written
    have read : ∃ text, body? marker line = some text := by
      obtain ⟨before, leader, gap, blank, known, gapBlank, rfl, apart⟩ := marked
      obtain ⟨found, search⟩ := exists_afterMarker? marker gapBlank apart
      refine ⟨found.strip, ?_⟩
      rw [body?, List.append_assoc, List.append_assoc (before ++ leader),
        dropWhile_blank_leader blank known, afterLeader?_eq_some_iff.mpr ⟨leader, known, rfl⟩,
        Option.bind_some, ← List.append_assoc, search, Option.map_some]
    obtain ⟨text, read⟩ := read
    obtain ⟨other, again, rfl⟩ := sound read
    rw [read, again.strip_eq marked]

theorem body?_eq_none_iff : body? marker line = none ↔ ¬ ∃ rest, Marked marker line rest := by
  rw [Option.eq_none_iff_forall_ne_some]
  constructor
  · intro unread written
    obtain ⟨rest, marked⟩ := written
    exact unread rest.strip (body?_eq_some_iff.mpr ⟨rest, marked, rfl⟩)
  · intro unmarked text read
    obtain ⟨rest, marked, -⟩ := body?_eq_some_iff.mp read
    exact unmarked ⟨rest, marked⟩

end RequestBinding.Comment
