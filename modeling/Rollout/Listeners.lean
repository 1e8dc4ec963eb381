import Rollout.Console.Printer

/-!
# Listeners

Events reach listeners through channels: first those of the channel named after the kind of the
event, then those of the channel of all events, each in the order in which they were added.  A
printer is the first listener of the channel of all events.
-/

namespace Rollout

/-- Who is told about events. -/
inductive Audience where
  /-- The printer. -/
  | printer
  /-- A listener with a name. -/
  | named (name : String)
  deriving DecidableEq

/-- A listener on a channel. -/
structure Listener where
  /-- The channel. -/
  channel : String
  /-- Who listens. -/
  audience : Audience
  /-- Whether it listens to one event only. -/
  once : Bool
  deriving DecidableEq

/-- The channel of all events. -/
def Listener.everyEvent : String := "event"

/-- Listeners in the order in which they were added, with the printer they share. -/
structure Listeners where
  /-- The printer. -/
  printer : Printer
  /-- The listeners. -/
  entries : List Listener

namespace Listeners

/-- A printer that listens to all events. -/
def start (printer : Printer) : Listeners :=
  ⟨printer, [⟨Listener.everyEvent, .printer, false⟩]⟩

/-- Add a listener. -/
def add (listeners : Listeners) (channel name : String) (once : Bool) : Listeners :=
  { listeners with entries := listeners.entries ++ [⟨channel, .named name, once⟩] }

/-- Remove the first listener of an audience from a channel. -/
def removeFirst (channel : String) (audience : Audience) : List Listener → List Listener
  | [] => []
  | entry :: rest =>
      if entry.channel = channel ∧ entry.audience = audience then rest
      else entry :: removeFirst channel audience rest

/-- Remove the listener of an audience that was added to a channel last. -/
def remove (listeners : Listeners) (channel : String) (audience : Audience) : Listeners :=
  { listeners with entries := (removeFirst channel audience listeners.entries.reverse).reverse }

/-- Stop printing. -/
def stopPrinter (listeners : Listeners) : Listeners :=
  listeners.remove Listener.everyEvent .printer

/-- What an event has caused. -/
structure Reaction where
  /-- The printed lines. -/
  lines : List Console.Line
  /-- The listeners that were called, in order. -/
  calls : List String

/-- Tell the listeners of a channel about an event. -/
def tell (listeners : Listeners) (channel : String) (event : Event) : Reaction × Listeners :=
  let called := listeners.entries.filter fun entry => entry.channel == channel
  let reaction : Reaction :=
    { lines :=
        called.flatMap fun entry =>
          if entry.audience = .printer then listeners.printer.lines event else []
      calls :=
        called.filterMap fun entry =>
          match entry.audience with
          | .named name => some name
          | .printer => none }
  let remaining :=
    listeners.entries.filter fun entry => !(entry.channel == channel && entry.once)
  (reaction, { listeners with entries := remaining })

/-- Tell all listeners about an event. -/
def emit (listeners : Listeners) (event : Event) : Reaction × Listeners :=
  let (first, listeners) := listeners.tell event.kind event
  let (second, listeners) := listeners.tell Listener.everyEvent event
  (⟨first.lines ++ second.lines, first.calls ++ second.calls⟩, listeners)

end Listeners

end Rollout
