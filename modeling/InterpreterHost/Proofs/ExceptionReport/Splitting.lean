import InterpreterHost.ExceptionReport
import Mathlib.Data.List.DropRight

/-!
# The parts of a report

A formatted traceback is cut into the last line, the lines that show a syntax error and the stack trace.
Every part is trimmed, so that a traceback and the report of it can only be compared by what is seen of them:
`Text.visible` leaves the white space out.  What a report makes of its entries is then one cut of the list of
entries, `ofFormatted_cut`, and all the rest is read off that cut.

## Main definitions

* `Text.visible` — the characters that are no white space
* `ExceptionReport.Splits` — the report has all of the entries, each in one of its parts

## Main statements

* `Text.visible_trim` — trimming takes nothing away that is seen
* `ExceptionReport.ofFormatted_cut` — which entries make which part
* `ExceptionReport.splits_ofFormatted` — the report of a formatted traceback splits it
-/

namespace InterpreterHost

namespace Text

/-! ## What is seen of a text -/

/-- The characters that are no white space. -/
def visible (s : List Char) : List Char := s.filter fun c => !isBlank c

theorem visible_append (s t : List Char) : visible (s ++ t) = visible s ++ visible t := List.filter_append s t

theorem visible_flatMap (f : α → List Char) (l : List α) :
    visible (l.flatMap f) = l.flatMap fun a => visible (f a) := List.filter_flatMap

theorem visible_reverse (s : List Char) : visible s.reverse = (visible s).reverse := List.filter_reverse

theorem visible_trimStart (s : List Char) : visible (trimStart s) = visible s := by
  have hidden : visible (s.takeWhile isBlank) = [] := by
    refine List.filter_eq_nil_iff.2 fun c mem => ?_
    simp [List.mem_takeWhile_imp mem]
  calc visible (trimStart s) = visible (s.takeWhile isBlank) ++ visible (s.dropWhile isBlank) := by
        rw [hidden, List.nil_append, trimStart]
    _ = visible s := by rw [← visible_append, List.takeWhile_append_dropWhile]

theorem visible_trimEnd (s : List Char) : visible (trimEnd s) = visible s := by
  have mirrored := visible_trimStart s.reverse
  rw [trimStart] at mirrored
  rw [trimEnd, visible_reverse, mirrored, visible_reverse, List.reverse_reverse]

theorem visible_trim (s : List Char) : visible (trim s) = visible s := by
  rw [trim, visible_trimEnd, visible_trimStart]

/-! ## Ends of a text -/

/-- The text does not start with white space. -/
def StartsVisibly (s : List Char) : Prop := ∀ c ∈ s.head?, isBlank c = false

/-- The text does not end with white space. -/
def EndsVisibly (s : List Char) : Prop := ∀ c ∈ s.getLast?, isBlank c = false

theorem startsVisibly_trimStart (s : List Char) : StartsVisibly (trimStart s) := by
  intro c mem
  have first := List.head?_dropWhile_not isBlank s
  rw [trimStart, Option.mem_def] at mem
  rwa [mem] at first

theorem endsVisibly_trimEnd (s : List Char) : EndsVisibly (trimEnd s) := by
  intro c mem
  rw [trimEnd, List.getLast?_reverse] at mem
  exact startsVisibly_trimStart s.reverse c mem

/-- What is cut off at the end leaves the start as it is. -/
theorem StartsVisibly.trimEnd {s : List Char} (h : StartsVisibly s) : StartsVisibly (trimEnd s) := by
  obtain ⟨blanks, whole⟩ := List.rdropWhile_prefix isBlank (l := s)
  intro c mem
  refine h c ?_
  have first : (Text.trimEnd s).head? = some c := mem
  calc s.head? = (Text.trimEnd s ++ blanks).head? := congrArg List.head? whole.symm
    _ = some c := by rw [List.head?_append, first, Option.some_or]

theorem startsVisibly_trim (s : List Char) : StartsVisibly (trim s) := (startsVisibly_trimStart s).trimEnd

theorem endsVisibly_trim (s : List Char) : EndsVisibly (trim s) := endsVisibly_trimEnd _

end Text

namespace ExceptionReport

open Text (visible StartsVisibly EndsVisibly)

/-! ## The cut -/

section

variable {entries front shown : List String} {last : String} {isSyntaxError : Bool}

/-- The entries before the last, and of them those that show a syntax error. -/
theorem exists_cut (nonempty : entries ≠ []) (isSyntaxError : Bool) :
    ∃ front shown last, entries = front ++ shown ++ [last] ∧ shown.length = detailCount entries isSyntaxError := by
  obtain ⟨before, last, rfl⟩ := (List.eq_nil_or_concat' entries).resolve_left nonempty
  have enough : detailCount (before ++ [last]) isSyntaxError ≤ before.length := by
    unfold detailCount
    split
    · next syntaxError =>
      have more := syntaxError.2
      rw [List.length_append, List.length_singleton] at more
      exact Nat.le_of_lt_succ more
    · exact Nat.zero_le _
  refine ⟨before.take (before.length - detailCount (before ++ [last]) isSyntaxError),
    before.drop (before.length - detailCount (before ++ [last]) isSyntaxError), last, ?_, ?_⟩
  · rw [List.take_append_drop]
  · rw [List.length_drop]
    omega

/-- The last entry makes the last line, the entries that show a syntax error the details, and the others the trace. -/
theorem ofFormatted_cut (count : shown.length = detailCount (front ++ shown ++ [last]) isSyntaxError) :
    ofFormatted (front ++ shown ++ [last]) isSyntaxError =
      ⟨trim last, shown.map trimEnd, trimEnd (String.join front)⟩ := by
  have length : (front ++ shown).length - shown.length = front.length := by simp
  unfold ofFormatted
  rw [List.getLast?_concat]
  dsimp only
  rw [List.dropLast_concat, ← count, length, List.drop_left, List.take_left]

end

/-! ## What a report has of its entries -/

/-- The report has all of the entries, each in one of its parts. -/
structure Splits (entries : List String) (isSyntaxError : Bool) (r : ExceptionReport) : Prop where
  /-- The trace, the details and the last line are the entries, white space left out. -/
  conserved : visible r.trace.toList ++ visible (String.join r.details).toList ++ visible r.main.toList =
    visible (String.join entries).toList
  /-- The text of the report is the last line, the details and the trace, divided by line breaks. -/
  displayed : r.display = "\n".intercalate (r.main :: r.details ++ [r.trace])
  /-- The text of the report has every character that is seen of the entries as often as they have it. -/
  displayedOnce : (visible r.display.toList).Perm (visible (String.join entries).toList)
  none_or_two : r.details.length = 0 ∨ r.details.length = 2
  length_eq_two_iff : r.details.length = 2 ↔ isSyntaxError = true ∧ 3 ≤ entries.length
  trace_trimmed : EndsVisibly r.trace.toList
  details_trimmed : ∀ line ∈ r.details, EndsVisibly line.toList
  main_trimmed : StartsVisibly r.main.toList ∧ EndsVisibly r.main.toList
  /-- The details are the entries directly before the last one, and the trace is made of those before them. -/
  cut : entries ≠ [] → ∃ front shown last, entries = front ++ shown ++ [last] ∧
    r.trace = trimEnd (String.join front) ∧ r.details = shown.map trimEnd ∧ r.main = trim last

section

variable (entries front shown : List String) (last : String) (isSyntaxError : Bool) (r : ExceptionReport)

theorem detailCount_eq_zero_or_two : detailCount entries isSyntaxError = 0 ∨ detailCount entries isSyntaxError = 2 := by
  unfold detailCount
  split
  · exact .inr rfl
  · exact .inl rfl

theorem detailCount_eq_two_iff :
    detailCount entries isSyntaxError = 2 ↔ isSyntaxError = true ∧ 3 ≤ entries.length := by
  unfold detailCount
  split
  · next syntaxError => exact iff_of_true rfl syntaxError
  · next other => exact iff_of_false (by decide) other

theorem display_eq_intercalate : r.display = "\n".intercalate (r.main :: r.details ++ [r.trace]) := by
  have lines (lines : List String) (first : String) :
      first ++ "\n" ++ String.join (lines.map (· ++ "\n")) ++ r.trace =
        "\n".intercalate (first :: lines ++ [r.trace]) := by
    induction lines generalizing first with
    | nil => simp [String.intercalate_cons_cons]
    | cons line lines ih =>
      have rest := ih line
      rw [List.cons_append, List.cons_append, String.intercalate_cons_cons, ← List.cons_append, ← rest]
      simp [String.append_assoc]
  exact lines r.details r.main

/-- The line breaks between the parts are not seen. -/
theorem visible_display : visible r.display.toList =
    visible r.main.toList ++ visible (String.join r.details).toList ++ visible r.trace.toList := by
  have lineBreak : visible "\n".toList = [] := rfl
  simp only [display, String.toList_append, Text.visible_append, String.toList_join, Text.visible_flatMap,
    List.flatMap_map, lineBreak, List.append_nil]

theorem visible_trimEnd (s : String) : visible (trimEnd s).toList = visible s.toList := by
  rw [trimEnd, String.toList_ofList, Text.visible_trimEnd]

theorem visible_trim (s : String) : visible (trim s).toList = visible s.toList := by
  rw [trim, String.toList_ofList, Text.visible_trim]

theorem endsVisibly_trimEnd (s : String) : EndsVisibly (trimEnd s).toList := by
  rw [trimEnd, String.toList_ofList]
  exact Text.endsVisibly_trimEnd s.toList

theorem visiblyBounded_trim (s : String) : StartsVisibly (trim s).toList ∧ EndsVisibly (trim s).toList := by
  rw [trim, String.toList_ofList]
  exact ⟨Text.startsVisibly_trim s.toList, Text.endsVisibly_trim s.toList⟩

/-- What is seen of the parts is what is seen of the entries. -/
theorem visible_parts : visible (trimEnd (String.join front)).toList ++
    visible (String.join (shown.map trimEnd)).toList ++ visible (trim last).toList =
      visible (String.join (front ++ shown ++ [last])).toList := by
  have details : visible (String.join (shown.map trimEnd)).toList = visible (String.join shown).toList := by
    simp only [String.toList_join, Text.visible_flatMap, List.flatMap_map, visible_trimEnd]
  rw [visible_trimEnd, details, visible_trim]
  simp [String.toList_join, Text.visible_append]

end

/-- Where a report has all that is seen of the entries, its text has it as often. -/
theorem perm_visible_display {entries : List String} {r : ExceptionReport}
    (conserved : visible r.trace.toList ++ visible (String.join r.details).toList ++ visible r.main.toList =
      visible (String.join entries).toList) :
    (visible r.display.toList).Perm (visible (String.join entries).toList) := by
  rw [visible_display, ← conserved, List.append_assoc (visible r.trace.toList)]
  exact List.perm_append_comm.trans (List.perm_append_comm.append_left _)

theorem splits_ofFormatted_nil (isSyntaxError : Bool) :
    Splits [] isSyntaxError (ofFormatted [] isSyntaxError) where
  conserved := rfl
  displayed := display_eq_intercalate _
  displayedOnce := perm_visible_display rfl
  none_or_two := .inl rfl
  length_eq_two_iff := by simp [ofFormatted, ofMain]
  trace_trimmed := by simp [ofFormatted, ofMain, EndsVisibly]
  details_trimmed := List.forall_mem_nil _
  main_trimmed := by simp [ofFormatted, ofMain, StartsVisibly, EndsVisibly]
  cut nonempty := absurd rfl nonempty

/-- The report of a formatted traceback loses nothing of it, repeats nothing and puts every entry in its part. -/
theorem splits_ofFormatted (entries : List String) (isSyntaxError : Bool) :
    Splits entries isSyntaxError (ofFormatted entries isSyntaxError) := by
  by_cases nonempty : entries = []
  · subst nonempty
    exact splits_ofFormatted_nil isSyntaxError
  obtain ⟨front, shown, last, rfl, count⟩ := exists_cut nonempty isSyntaxError
  have conserved := visible_parts front shown last
  rw [ofFormatted_cut count]
  exact {
    conserved
    displayed := display_eq_intercalate _
    displayedOnce := perm_visible_display conserved
    none_or_two := by
      rw [List.length_map, count]
      exact detailCount_eq_zero_or_two _ _
    length_eq_two_iff := by
      rw [List.length_map, count]
      exact detailCount_eq_two_iff _ _
    trace_trimmed := endsVisibly_trimEnd _
    details_trimmed := List.forall_mem_map.2 fun line _ => endsVisibly_trimEnd line
    main_trimmed := visiblyBounded_trim last
    cut := fun _ => ⟨front, shown, last, rfl, rfl, rfl, rfl⟩ }

/-- A line of the trace may read like a detail; it is an entry of its own. -/
example : ofFormatted ["  x = (\n", "  x = (\n", "      ^\n", "SyntaxError: never closed\n"] true =
    ⟨"SyntaxError: never closed", ["  x = (", "      ^"], "  x = ("⟩ := by
  decide +kernel

end ExceptionReport

end InterpreterHost
