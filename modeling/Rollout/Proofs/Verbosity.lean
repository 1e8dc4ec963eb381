import Rollout.Listeners
import Rollout.Proofs.Printing

/-!
# Verbosity filters and routing redirects

However events follow each other, a printer of less verbosity prints a part of what one of more
verbosity prints, each event as a whole or not at all, and failures always.  A printer that sends
progress to the error stream prints the same texts in the same order, all of them there.
-/

namespace Rollout

open Console (Line)

/-- An event that reports a failure. -/
inductive Event.IsFailure : Event → Prop
  | deployment (error : String) (stack contract : Option String) :
      IsFailure (.deploymentFailed error stack contract)
  | contract (contract error : String) : IsFailure (.contractFailed contract error)
  | command (message : Value) : IsFailure (.commandFailed message)
  | rejection (reason : Value) : IsFailure (.unhandledRejection reason)
  | exception (error : Value) : IsFailure (.uncaughtException error)

theorem Event.IsFailure.level_eq {event : Event} (failure : event.IsFailure) :
    event.level = .error := by
  cases failure <;> rfl

/-! ## From events to lines -/

namespace Listeners

/-- What is printed while listeners are told about events one after the other. -/
def printing : Listeners → List Event → List Line
  | _, [] => []
  | listeners, event :: rest =>
      (listeners.emit event).1.lines ++ printing (listeners.emit event).2 rest

/-- A printer that is the only listener hears what is told on the channel of all events. -/
theorem tell_start (printer : Printer) (channel : String) (event : Event) :
    (start printer).tell channel event =
      (⟨if Listener.everyEvent = channel then printer.lines event else [], []⟩, start printer) := by
  by_cases every : Listener.everyEvent = channel
  · simp [tell, start, every]
  · simp [tell, start, every]

/-- No event about which something is printed has the name of the channel of all events. -/
theorem lines_of_everyEvent (printer : Printer) {event : Event}
    (named : Listener.everyEvent = event.kind) : printer.lines event = [] := by
  cases event with
  | foreign kind =>
      rw [Printer.lines]
      split <;> rfl
  | _ => simp [Listener.everyEvent, Event.kind] at named

/-- A printer prints its lines about an event once and goes on listening. -/
theorem emit_start (printer : Printer) (event : Event) :
    (start printer).emit event = (⟨printer.lines event, []⟩, start printer) := by
  have named : (if Listener.everyEvent = event.kind then printer.lines event else []) = [] := by
    split
    · next same => exact lines_of_everyEvent printer same
    · rfl
  simp only [emit, tell_start, named, if_true, List.nil_append]

theorem printing_start (printer : Printer) (events : List Event) :
    (start printer).printing events = printer.linesOf events := by
  induction events with
  | nil => rfl
  | cons event events ih =>
      rw [printing, emit_start, ih]
      rfl

end Listeners

namespace Printer

/-- What a printer prints while events are issued one after the other. -/
def prints (printer : Printer) (events : List Event) : List Line :=
  (Listeners.start printer).printing events

@[simp]
theorem prints_nil (printer : Printer) : printer.prints [] = [] := rfl

theorem prints_cons (printer : Printer) (event : Event) (events : List Event) :
    printer.prints (event :: events) = printer.lines event ++ printer.prints events := by
  simp only [prints, Listeners.printing_start]
  rfl

theorem prints_split (printer : Printer) (before : List Event) (event : Event)
    (after : List Event) :
    printer.prints (before ++ event :: after) =
      printer.prints before ++ printer.lines event ++ printer.prints after := by
  simp [prints, Listeners.printing_start, linesOf]

/-! ## Verbosity -/

/-- The printer with another verbosity. -/
def withVerbosity (printer : Printer) (verbosity : Int) : Printer := { printer with verbosity }

/-- Verbosity decides whether an event is shown, not what is shown of it. -/
theorem lines_withVerbosity (printer : Printer) (verbosity : Int) (event : Event) :
    (printer.withVerbosity verbosity).lines event =
      if verbosity < event.threshold then [] else printer.describe event := by
  have same : (printer.withVerbosity verbosity).describe event = printer.describe event := by
    cases event <;> rfl
  rw [lines, same, withVerbosity]

theorem lines_sublist (printer : Printer) {low high : Int} (le : low ≤ high) (event : Event) :
    ((printer.withVerbosity low).lines event).Sublist
      ((printer.withVerbosity high).lines event) := by
  rw [lines_withVerbosity, lines_withVerbosity]
  by_cases hidden : low < event.threshold
  · rw [if_pos hidden]
    exact List.nil_sublist _
  · have shown : ¬ high < event.threshold := by omega
    exact ((if_neg hidden).trans (if_neg shown).symm) ▸ List.Sublist.refl _

/-- More verbosity adds lines and takes none away. -/
theorem prints_sublist (printer : Printer) {low high : Int} (le : low ≤ high)
    (events : List Event) :
    ((printer.withVerbosity low).prints events).Sublist
      ((printer.withVerbosity high).prints events) := by
  induction events with
  | nil => exact List.Sublist.refl _
  | cons event events ih =>
      rw [prints_cons, prints_cons]
      exact (printer.lines_sublist le event).append ih

/-- What less verbosity leaves of what is printed about events. -/
structure Filters (printer : Printer) (low high : Nat) (events : List Event) : Prop where
  /-- The lines are some of those of more verbosity, in the same order. -/
  subsequence : ((printer.withVerbosity low).prints events).Sublist
    ((printer.withVerbosity high).prints events)
  /-- Each event is described in full at its place, or nothing is said about it. -/
  whole : ∀ before event after, events = before ++ event :: after →
    ∃ shown, (shown = [] ∨ shown = printer.describe event) ∧
      (printer.withVerbosity low).prints events =
        (printer.withVerbosity low).prints before ++ shown ++
          (printer.withVerbosity low).prints after
  /-- Each failure is described in full at its place, on the error stream. -/
  failures : ∀ before event after, events = before ++ event :: after → event.IsFailure →
    printer.describe event ≠ [] ∧ (∀ line ∈ printer.describe event, line.stream = .error) ∧
      (printer.withVerbosity low).prints events =
        (printer.withVerbosity low).prints before ++ printer.describe event ++
          (printer.withVerbosity low).prints after

/-! ## Routing -/

/-- The printer with its progress on the output stream or on the error stream. -/
def routed (printer : Printer) (toError : Bool) : Printer := { printer with toError }

/-- Routing changes where an event is described, not what is said about it. -/
theorem text_describe_routed (printer : Printer) (toError : Bool) (event : Event) :
    ((printer.routed toError).describe event).map Line.text =
      (printer.describe event).map Line.text := by
  cases event with
  | deploymentStarted rpcUrl variant predeployed =>
      by_cases none : predeployed.isEmpty <;> simp [describe, progress, routed, none]
  | _ => rfl

theorem text_lines_routed (printer : Printer) (toError : Bool) (event : Event) :
    ((printer.routed toError).lines event).map Line.text =
      (printer.lines event).map Line.text := by
  have same : (printer.routed toError).verbosity = printer.verbosity := rfl
  rw [lines, lines, same]
  split
  · rfl
  · exact printer.text_describe_routed toError event

theorem text_prints_routed (printer : Printer) (toError : Bool) (events : List Event) :
    ((printer.routed toError).prints events).map Line.text =
      (printer.prints events).map Line.text := by
  induction events with
  | nil => rfl
  | cons event events ih =>
      rw [prints_cons, prints_cons, List.map_append, List.map_append, text_lines_routed, ih]

/-- What becomes of what is printed about events when progress is sent to the error stream. -/
structure Redirects (printer : Printer) (events : List Event) : Prop where
  /-- Nothing is left on the output stream. -/
  silent : ∀ line ∈ (printer.routed true).prints events, line.stream = .error
  /-- The texts of both streams stand on the error stream in the order in which they would have
  been printed. -/
  merged : ((printer.routed true).prints events).map Line.text =
    ((printer.routed false).prints events).map Line.text

/-- Verbosity only filters what is printed and routing only redirects it. -/
theorem filters_and_redirects (printer : Printer) (events : List Event) {low high : Nat}
    (le : low ≤ high) : printer.Filters low high events ∧ printer.Redirects events := by
  refine ⟨⟨?_, ?_, ?_⟩, ?_, ?_⟩
  · exact printer.prints_sublist (Int.ofNat_le.mpr le) events
  · rintro before event after rfl
    refine ⟨_, ?_, prints_split _ before event after⟩
    rw [lines_withVerbosity]
    split
    · exact .inl rfl
    · exact .inr rfl
  · rintro before event after rfl failure
    refine ⟨printer.describe_ne_nil failure.level_eq,
      printer.stream_of_failure failure.level_eq, ?_⟩
    have threshold : event.threshold = 0 := by cases failure <;> rfl
    rw [prints_split, lines_withVerbosity, if_neg (by omega)]
  · intro line member
    rw [prints, Listeners.printing_start] at member
    exact (printer.routed true).stream_of_linesOf rfl events line member
  · rw [text_prints_routed, text_prints_routed]

/-- A coloured printer. -/
def colourPrinter : Printer := { verbosity := 1, toError := false, colours := true }

/-- The events of a run that cannot pay. -/
def unpaidEvents : List Event :=
  [.deploymentStarted "http://localhost:8545" "mock" ["PlonkVerifier"],
    .contractStarted "LightClient", .libraryLinked "LightClient" "a.sol:A" "0x00",
    .contractFailed "LightClient" "insufficient funds",
    .deploymentFailed "insufficient funds" none (some "LightClient")]

theorem filters_and_redirects_unpaid :
    0 ≤ 2 ∧ colourPrinter.Filters 0 2 unpaidEvents ∧ colourPrinter.Redirects unpaidEvents :=
  ⟨by decide, filters_and_redirects colourPrinter unpaidEvents (by decide)⟩

end Printer

end Rollout
