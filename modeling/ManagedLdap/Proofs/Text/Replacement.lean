/-
# ManagedLdap.Proofs.Text.Replacement -- replacing a character throughout a text

The library replaces a character by going over the steps of a search: stretches without the
character, which stay, and the places where it stands.  How long the stretches are is left to the
search, so the induction is over any valid list of steps (`toList_foldl_steps`), and it carries
along what the text before and after the present place is.  The outcome does not show any of it:
`toList_replace` maps each character by itself.
-/
namespace ManagedLdap.Text

open String String.Slice.Pattern String.Slice.Pattern.Model

set_option autoImplicit false

/-- What comes of one character `d` when `written` takes the place of `c`. -/
def replaced (c : Char) (written : String) (d : Char) : List Char :=
  if d = c then written.toList else [d]

variable {s : Slice} {c : Char}

/-- A stretch in which no place matches a character does not hold it. -/
theorem ne_of_not_matchesAt {start stop : s.Pos} {before between after : String}
    (starts : start.Splits before (between ++ after))
    (stops : stop.Splits (before ++ between) after)
    (free : ∀ place, start ≤ place → place < stop → ¬ MatchesAt c place) :
    ∀ d ∈ between.toList, d ≠ c := by
  rintro d within rfl
  obtain ⟨left, right, whole⟩ := List.append_of_mem within
  obtain rfl : between = ofList left ++ (singleton d ++ ofList right) := by
    rw [← toList_inj]
    simpa using whole
  rw [String.append_assoc] at starts
  -- The place where the character stands is between the two ends of the stretch.
  have there : starts.rotateRight.Splits (before ++ ofList left)
      (singleton d ++ (ofList right ++ after)) := by
    simpa only [String.append_assoc] using starts.splits_rotateRight
  refine free starts.rotateRight ?_ ?_ (Char.matchesAt_iff_splits.2 ⟨_, _, there⟩)
  · exact (starts.le_iff_exists_eq_append starts.splits_rotateRight).2 ⟨_, rfl, rfl⟩
  · refine (there.lt_iff_exists_eq_append stops).2 ⟨singleton d ++ ofList right, ?_, ?_, ?_⟩
    · simp
    · rw [String.append_assoc]
    · rw [String.append_assoc]

theorem flatMap_replaced_of_ne {cs : List Char} (written : String) (free : ∀ d ∈ cs, d ≠ c) :
    cs.flatMap (replaced c written) = cs := by
  induction cs with
  | nil => rfl
  | cons d cs ih =>
      obtain ⟨first, rest⟩ := List.forall_mem_cons.1 free
      rw [List.flatMap_cons, ih rest, replaced, if_neg first, List.singleton_append]

/-- Whatever steps a search takes from a place on, replacing at its matches and keeping what it
passes over maps each character behind that place by itself. -/
theorem toList_foldl_steps {written : String} {step : String → SearchStep s → String}
    (matched : ∀ sofar start stop, step sofar (.matched start stop) = sofar ++ written)
    (rejected : ∀ sofar start stop,
      step sofar (.rejected start stop) = sofar ++ (s.slice! start stop).copy)
    {place : s.Pos} {steps : List (SearchStep s)} (valid : IsValidSearchFrom c place steps)
    {before after : String} (here : place.Splits before after) (sofar : String) :
    (steps.foldl step sofar).toList =
      sofar.toList ++ after.toList.flatMap (replaced c written) := by
  induction valid generalizing before after sofar with
  | endPos =>
      obtain rfl : after = "" := here.eq_right (Slice.splits_endPos s)
      simp
  | matched longest _ ih =>
      obtain ⟨further, rfl, found⟩ := Char.isLongestMatchAt_iff.1 longest
      obtain ⟨behind, rfl⟩ := here.exists_eq_singleton_append further
      rw [List.foldl_cons, matched, ih here.next, found]
      simp [replaced]
  | @mismatched _ start stop less free _ ih =>
      obtain ⟨between, whole, rfl⟩ :=
        (here.le_iff_exists_eq_append stop.splits).1 (Std.le_of_lt less)
      have stops := stop.splits.of_eq whole rfl
      have stretch : (s.slice start stop (Std.le_of_lt less)).copy = between :=
        (Slice.copy_slice_eq_iff_splits.2 ⟨_, _, here, stops⟩).2
      have kept := flatMap_replaced_of_ne written (ne_of_not_matchesAt here stops free)
      rw [List.foldl_cons, rejected, ih stops, ← Slice.slice_eq_slice! (h := Std.le_of_lt less)]
      simp [stretch, kept]

/-- Replacing a character by a text maps each character of a text by itself. -/
theorem toList_replace (text written : String) (c : Char) :
    (text.replace c written).toList = text.toList.flatMap (replaced c written) := by
  have valid : IsValidSearchFrom c text.toSlice.startPos
      (ToForwardSearcher.toSearcher c text.toSlice).toList :=
    LawfulToForwardSearcherModel.isValidSearchFrom_toList text.toSlice
  rw [String.replace, Slice.replace, ← Std.Iter.foldl_toList]
  have whole : text.toSlice.startPos.Splits "" text :=
    (Slice.splits_startPos text.toSlice).of_eq rfl copy_toSlice
  refine (toList_foldl_steps ?_ ?_ valid whole "").trans (List.nil_append _)
  · intro sofar start stop
    exact congrArg (sofar ++ ·) copy_toSlice
  · intro sofar start stop
    rfl

end ManagedLdap.Text
