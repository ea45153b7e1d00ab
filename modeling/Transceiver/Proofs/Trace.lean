import Transceiver.Trace

/-!
Reading a trace by what its notes are: events, log entries and printed lines of joined traces are
those of the parts, in order.
-/

namespace Transceiver

def LogEntry.transition? : LogEntry → Option (Phase × Phase)
  | transition source target => some (source, target)
  | _ => none

namespace Trace

def transitions (trace : Trace) : List (Phase × Phase) :=
  trace.entries.filterMap LogEntry.transition?

@[simp] theorem events_nil : events [] = [] := rfl

@[simp] theorem events_append (first second : Trace) :
    events (first ++ second) = first.events ++ second.events :=
  List.filterMap_append

@[simp] theorem events_event_cons (event : Event) (rest : Trace) :
    events (.event event :: rest) = event :: rest.events := rfl

@[simp] theorem events_logged_cons (entry : LogEntry) (rest : Trace) :
    events (.logged entry :: rest) = rest.events := rfl

@[simp] theorem events_printed_cons (announcement : Announcement) (rest : Trace) :
    events (.printed announcement :: rest) = rest.events := rfl

@[simp] theorem entries_nil : entries [] = [] := rfl

@[simp] theorem entries_append (first second : Trace) :
    entries (first ++ second) = first.entries ++ second.entries :=
  List.filterMap_append

@[simp] theorem entries_event_cons (event : Event) (rest : Trace) :
    entries (.event event :: rest) = rest.entries := rfl

@[simp] theorem entries_logged_cons (entry : LogEntry) (rest : Trace) :
    entries (.logged entry :: rest) = entry :: rest.entries := rfl

@[simp] theorem entries_printed_cons (announcement : Announcement) (rest : Trace) :
    entries (.printed announcement :: rest) = rest.entries := rfl

@[simp] theorem announcements_nil : announcements [] = [] := rfl

@[simp] theorem announcements_append (first second : Trace) :
    announcements (first ++ second) = announcements first ++ announcements second :=
  List.filterMap_append

@[simp] theorem announcements_logged_cons (entry : LogEntry) (rest : Trace) :
    announcements (.logged entry :: rest) = announcements rest := rfl

@[simp] theorem announcements_printed_cons (announcement : Announcement) (rest : Trace) :
    announcements (.printed announcement :: rest) = announcement :: announcements rest := rfl

theorem transitions_append (first second : Trace) :
    transitions (first ++ second) = first.transitions ++ second.transitions := by
  rw [transitions, entries_append, List.filterMap_append, transitions, transitions]

end Trace

end Transceiver
