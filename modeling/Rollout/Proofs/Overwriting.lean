import Rollout.Proofs.Text

/-!
# Writing over a text

What is written over a text covers as many characters as it has and leaves all others.  When the
same characters are written over several places, one after the other, the last place that covers a
character tells what it is.  Replacing a pattern by as many characters is writing over some of its
occurrences.
-/

namespace Rollout.Text

/-- An index lies among the `width` characters from a place on. -/
def Covers (width place index : Nat) : Prop := place ≤ index ∧ index < place + width

instance (width place index : Nat) : Decidable (Covers width place index) :=
  inferInstanceAs (Decidable (place ≤ index ∧ index < place + width))

/-- Texts with the same characters at the covered indices have the same piece there. -/
theorem take_drop_congr {width place : Nat} {left right : List Char}
    (same : ∀ index, Covers width place index → left[index]? = right[index]?) :
    (left.drop place).take width = (right.drop place).take width := by
  apply List.ext_getElem?
  intro offset
  rw [List.getElem?_take, List.getElem?_take]
  split
  · next inside =>
      rw [List.getElem?_drop, List.getElem?_drop]
      exact same _ ⟨Nat.le_add_right _ _, Nat.add_lt_add_left inside _⟩
  · rfl

section Overwrite

variable {place index : Nat} {written text : List Char}

section Fits

variable (fits : place + written.length ≤ text.length)

include fits

theorem length_overwrite : (overwrite place written text).length = text.length := by
  simp only [overwrite, List.length_append, List.length_take, List.length_drop]
  omega

theorem getElem?_overwrite_of_covers (covered : Covers written.length place index) :
    (overwrite place written text)[index]? = written[index - place]? := by
  obtain ⟨first, last⟩ := covered
  have taken : (text.take place).length = place := List.length_take_of_le (by omega)
  rw [overwrite, List.append_assoc, List.getElem?_append_right (by omega), taken,
    List.getElem?_append_left (by omega)]

theorem getElem?_overwrite_of_not_covers (uncovered : ¬ Covers written.length place index) :
    (overwrite place written text)[index]? = text[index]? := by
  have taken : (text.take place).length = place := List.length_take_of_le (by omega)
  rw [overwrite, List.append_assoc]
  obtain before | behind := Nat.lt_or_ge index place
  · rw [List.getElem?_append_left (by omega), List.getElem?_take_of_lt before]
  · have beyond : place + written.length ≤ index :=
      Nat.le_of_not_lt fun inside => uncovered ⟨behind, inside⟩
    rw [List.getElem?_append_right (by omega), taken, List.getElem?_append_right (by omega),
      List.getElem?_drop]
    congr 1
    omega

end Fits

theorem narrow_overwrite (plain : Narrow written) (narrow : Narrow text) (place : Nat) :
    Narrow (overwrite place written text) := by
  intro c member
  rw [overwrite, List.mem_append, List.mem_append] at member
  rcases member with (before | inside) | behind
  · exact narrow c (List.mem_of_mem_take before)
  · exact plain c inside
  · exact narrow c (List.mem_of_mem_drop behind)

theorem overwrite_append_left (front : List Char) (place : Nat) (written text : List Char) :
    overwrite (front.length + place) written (front ++ text) =
      front ++ overwrite place written text := by
  have behind : front.length + place + written.length =
      front.length + (place + written.length) := Nat.add_assoc ..
  rw [overwrite, overwrite, List.take_length_add_append, behind, List.drop_length_add_append,
    List.append_assoc, List.append_assoc, List.append_assoc]

end Overwrite

/-- A text with the same characters written over it at several places, one after the other. -/
def overwriteAll (written : List Char) : List Nat → List Char → List Char
  | [], text => text
  | place :: places, text => overwriteAll written places (overwrite place written text)

section OverwriteAll

variable {places : List Nat} {written text : List Char} {index : Nat}

theorem narrow_overwriteAll (plain : Narrow written) (narrow : Narrow text) (places : List Nat) :
    Narrow (overwriteAll written places text) := by
  induction places generalizing text with
  | nil => exact narrow
  | cons place places ih => exact ih (narrow_overwrite plain narrow place)

theorem overwriteAll_append (written : List Char) (earlier later : List Nat) (text : List Char) :
    overwriteAll written (earlier ++ later) text =
      overwriteAll written later (overwriteAll written earlier text) := by
  induction earlier generalizing text with
  | nil => rfl
  | cons place earlier ih => exact ih (overwrite place written text)

section Fit

variable (fit : ∀ place ∈ places, place + written.length ≤ text.length)

include fit

theorem length_overwriteAll : (overwriteAll written places text).length = text.length := by
  induction places generalizing text with
  | nil => rfl
  | cons place places ih =>
      rw [List.forall_mem_cons] at fit
      have kept := length_overwrite fit.1
      rw [overwriteAll, ih, kept]
      rw [kept]
      exact fit.2

theorem getElem?_overwriteAll_of_uncovered
    (uncovered : ∀ place ∈ places, ¬ Covers written.length place index) :
    (overwriteAll written places text)[index]? = text[index]? := by
  induction places generalizing text with
  | nil => rfl
  | cons place places ih =>
      rw [List.forall_mem_cons] at fit uncovered
      have kept := length_overwrite fit.1
      rw [overwriteAll, ih _ uncovered.2, getElem?_overwrite_of_not_covers fit.1 uncovered.1]
      rw [kept]
      exact fit.2

end Fit

/-- The last place that covers an index tells what stands there. -/
theorem getElem?_overwriteAll_of_last {earlier later : List Nat} {place : Nat}
    (fit : ∀ other ∈ earlier ++ place :: later, other + written.length ≤ text.length)
    (covered : Covers written.length place index)
    (uncovered : ∀ other ∈ later, ¬ Covers written.length other index) :
    (overwriteAll written (earlier ++ place :: later) text)[index]? = written[index - place]? := by
  rw [List.forall_mem_append, List.forall_mem_cons] at fit
  obtain ⟨fit_earlier, fit_place, fit_later⟩ := fit
  have before := length_overwriteAll fit_earlier
  rw [← before] at fit_place fit_later
  have here := length_overwrite fit_place
  rw [← here] at fit_later
  rw [overwriteAll_append, overwriteAll, getElem?_overwriteAll_of_uncovered fit_later uncovered,
    getElem?_overwrite_of_covers fit_place covered]

theorem exists_last_of_covered (covered : ∃ place ∈ places, Covers written.length place index) :
    ∃ earlier place later, places = earlier ++ place :: later ∧ Covers written.length place index ∧
      ∀ other ∈ later, ¬ Covers written.length other index := by
  induction places with
  | nil =>
      obtain ⟨place, listed, _⟩ := covered
      contradiction
  | cons first places ih =>
      by_cases later : ∃ place ∈ places, Covers written.length place index
      · obtain ⟨earlier, place, others, rfl, here, last⟩ := ih later
        exact ⟨first :: earlier, place, others, rfl, here, last⟩
      · obtain ⟨place, listed, here⟩ := covered
        rw [List.mem_cons] at listed
        obtain rfl | listed := listed
        · exact ⟨[], place, places, rfl, here,
            fun other member cover => later ⟨other, member, cover⟩⟩
        · exact absurd ⟨place, listed, here⟩ later

/-- Where something has been written, a written character stands. -/
theorem getElem?_overwriteAll_of_covered
    (fit : ∀ place ∈ places, place + written.length ≤ text.length)
    (covered : ∃ place ∈ places, Covers written.length place index) :
    ∃ c ∈ written, (overwriteAll written places text)[index]? = some c := by
  obtain ⟨earlier, place, later, rfl, here, last⟩ := exists_last_of_covered covered
  have inside : index - place < written.length := by
    obtain ⟨first, last⟩ := here
    omega
  refine ⟨written[index - place], List.getElem_mem inside, ?_⟩
  rw [getElem?_overwriteAll_of_last fit here last, List.getElem?_eq_getElem inside]

theorem overwriteAll_append_left (front written : List Char) (places : List Nat)
    (text : List Char) :
    overwriteAll written (places.map (front.length + ·)) (front ++ text) =
      front ++ overwriteAll written places text := by
  induction places generalizing text with
  | nil => rfl
  | cons place places ih =>
      rw [List.map_cons, overwriteAll, overwrite_append_left, ih]
      rfl

end OverwriteAll

/-! ## Replacing as writing -/

section Replace

variable {pattern : List Char}

theorem fits_of_occurrence {text : List Char} {place : Nat} (given : pattern ≠ [])
    (occurs : pattern <+: text.drop place) : place + pattern.length ≤ text.length := by
  have bound := occurs.length_le
  have positive := List.length_pos_iff.mpr given
  rw [List.length_drop] at bound
  omega

theorem prefix_drop_append_left (front text : List Char) (place : Nat) :
    pattern <+: (front ++ text).drop (front.length + place) ↔ pattern <+: text.drop place := by
  rw [List.drop_length_add_append]

/-- A pattern is replaced by writing over some of its occurrences. -/
theorem exists_overwriteAll_of_replaceAll {replacement : List Char} (given : pattern ≠ [])
    (same : replacement.length = pattern.length) (text : List Char) :
    ∃ places, (∀ place ∈ places, pattern <+: text.drop place) ∧
      replaceAll pattern replacement text = overwriteAll replacement places text := by
  induction text using replacement_induction given with
  | nil => exact ⟨[], fun _ listed => absurd listed List.not_mem_nil, rfl⟩
  | replace back ih =>
      obtain ⟨places, each, replaced⟩ := ih
      have first : overwrite 0 replacement (pattern ++ back) = replacement ++ back := by
        rw [overwrite, List.take_zero, Nat.zero_add, same, List.drop_left]
        rfl
      refine ⟨0 :: places.map (replacement.length + ·), ?_, ?_⟩
      · rw [List.forall_mem_cons, List.forall_mem_map]
        refine ⟨List.prefix_append _ _, fun place listed => ?_⟩
        rw [same, prefix_drop_append_left]
        exact each place listed
      · rw [overwriteAll, first, overwriteAll_append_left, ← replaced]
        exact replaceAll_append_of_ne_nil given replacement back
  | skip c rest absent ih =>
      obtain ⟨places, each, replaced⟩ := ih
      refine ⟨places.map ([c].length + ·), ?_, ?_⟩
      · rw [List.forall_mem_map]
        intro place listed
        exact (prefix_drop_append_left [c] rest place).mpr (each place listed)
      · rw [replaceAll_cons_of_absent absent, replaced]
        exact (overwriteAll_append_left [c] replacement places rest).symm

end Replace

end Rollout.Text
