import Rollout.Command.Machine

/-!
# Where reports are printed

Failures are printed on the error stream at every verbosity.  A printer that sends progress to the
error stream, too, leaves the output stream alone.
-/

namespace Rollout

namespace Console

theorem verbosityOf_nonneg (count : Number) : 0 ≤ verbosityOf count := by
  rw [verbosityOf]
  split
  · decide
  · split
    · decide
    · split <;> decide

theorem printed_output_eq_empty {lines : List Line}
    (errors : ∀ line ∈ lines, line.stream = .error) : printed .output lines = "" := by
  have nothing : lines.filter (fun line => line.stream == Stream.output) = [] :=
    List.filter_eq_nil_iff.mpr fun line member => by simp [errors line member]
  simp [printed, nothing]

theorem printed_error_ne_empty {lines : List Line} (errors : ∀ line ∈ lines, line.stream = .error)
    (shown : lines ≠ []) : printed .error lines ≠ "" := by
  cases lines with
  | nil => contradiction
  | cons line rest =>
      have first : line.stream = .error := errors line List.mem_cons_self
      intro empty
      simp [printed, first] at empty

end Console

namespace Printer

open Console

variable (printer : Printer) {event : Event}

theorem stream_of_failure (failure : event.level = .error) :
    ∀ line ∈ printer.describe event, line.stream = .error := by
  cases event with
  | deploymentFailed error stack contract =>
      cases contract with
      | none => simp [describe, complaint]
      | some name => by_cases empty : name = "" <;> simp [describe, complaint, empty]
  | _ => simp_all [Event.level, describe, complaint, complaintAbout]

/-- A printer that sends progress to the error stream describes everything there. -/
theorem stream_of_toError (routed : printer.toError = true) (event : Event) :
    ∀ line ∈ printer.describe event, line.stream = .error := by
  cases event with
  | deploymentFailed | contractFailed | unhandledRejection | uncaughtException | commandFailed =>
      exact printer.stream_of_failure rfl
  | _ => simp [describe, progress, routed]

theorem describe_ne_nil (failure : event.level = .error) : printer.describe event ≠ [] := by
  cases event <;> simp_all [Event.level, describe]

/-- A failure is shown at every verbosity. -/
theorem lines_of_failure (failure : event.level = .error) (verbosity : 0 ≤ printer.verbosity) :
    printer.lines event = printer.describe event := by
  -- Every verbosity is at least zero, and zero is what a failure asks for.
  have threshold : event.threshold = 0 := by
    cases event <;> first | rfl | contradiction
  rw [lines, threshold, if_neg (Int.not_lt.mpr verbosity)]

theorem stream_of_lines (routed : printer.toError = true) (event : Event) :
    ∀ line ∈ printer.lines event, line.stream = .error := by
  intro line shown
  rw [lines] at shown
  split at shown
  · contradiction
  · exact printer.stream_of_toError routed event line shown

theorem stream_of_linesOf (routed : printer.toError = true) (events : List Event) :
    ∀ line ∈ printer.linesOf events, line.stream = .error := by
  intro line member
  obtain ⟨event, _, shown⟩ := List.mem_flatMap.mp member
  exact printer.stream_of_lines routed event line shown

/-- What is shown about an event stands in what is shown about several. -/
theorem linesOf_of_mem {events : List Event} (member : event ∈ events) :
    ∃ before after, printer.linesOf events = before ++ printer.lines event ++ after := by
  obtain ⟨earlier, later, rfl⟩ := List.append_of_mem member
  exact ⟨printer.linesOf earlier, printer.linesOf later, by simp [linesOf]⟩

end Printer

namespace Command

/-- What writings put on a stream. -/
def written (stream : Console.Stream) (writings : List Writing) : String :=
  String.join ((writings.filter fun writing => writing.1 == stream).map Prod.snd)

theorem Report.on_eq_written (report : Report) (stream : Console.Stream) :
    report.on stream = written stream report.writings := rfl

theorem written_append (stream : Console.Stream) (first second : List Writing) :
    written stream (first ++ second) = written stream first ++ written stream second := by
  simp only [written, List.filter_append, List.map_append, String.join_append]

theorem written_writeLines (stream : Console.Stream) (lines : List Console.Line) :
    written stream (writeLines lines) = Console.printed stream lines := by
  simp [written, writeLines, Console.printed, List.filter_map, Function.comp_def]

theorem written_output (texts : List String) :
    written .output (texts.map fun text => (.output, text)) = String.join texts := by
  rw [written, List.filter_eq_self.mpr (by simp), List.map_map]
  simp [Function.comp_def]

end Command

end Rollout
