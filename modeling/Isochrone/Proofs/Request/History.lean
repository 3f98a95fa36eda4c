import Isochrone.Proofs.Request.Effect
import Mathlib.Data.List.Induction

/-!
# Histories of requests

A history is a construction followed by operations in any order and number, each drive with a
transport of its own; the reachable requests are the requests of histories. Beside the request
it tells all events from the construction on, and what they show: the calls of transports,
their answers, and the calls of listeners. Histories grow at their end, so a fact is proved of
all of them from the construction and one operation more.
-/

namespace Isochrone

variable {ι : Type}

namespace Event

/-- The answer that an event brings, where the transport is `t`. -/
def answer? (t : Option Transport) : Event ι → Option (Except TransportError Json.Value)
  | .answered url => t.map fun transport => transport.answer url
  | _ => none

end Event

/-- Notes are passed over by every observer that passes over a single one. -/
theorem filterMap_notes {β : Type} {observe : Event ι → Option β}
    (h : ∀ line, observe (.note line) = none) (lines : List LogLine) :
    (lines.map .note).filterMap observe = [] := by
  rw [List.filterMap_map]
  exact List.filterMap_eq_nil_iff.mpr fun line _ => h line

/-- Calls of listeners are passed over by every observer that passes over a single one. -/
theorem filterMap_heard {β : Type} {observe : Event ι → Option β}
    (h : ∀ listener request, observe (.heard listener request) = none) (request : Request ι)
    (listeners : List ι) :
    (listeners.map fun listener => Event.heard listener request).filterMap observe = [] := by
  rw [List.filterMap_map]
  exact List.filterMap_eq_nil_iff.mpr fun listener _ => h listener request

/-- A call of the transport counts where it happens. -/
@[simp] theorem callsOf_asked (url : RequestUrl) (events : List (Event ι)) :
    callsOf (.asked url :: events) = url :: callsOf events := rfl

/-- The calls of two stretches of events are those of the first and then of the second. -/
@[simp] theorem callsOf_append (first second : List (Event ι)) :
    callsOf (first ++ second) = callsOf first ++ callsOf second := List.filterMap_append

/-- Notes are no calls. -/
theorem callsOf_notes (lines : List LogLine) :
    callsOf (lines.map .note : List (Event ι)) = [] :=
  filterMap_notes (fun _ => rfl) lines

/-- The answers among events, where the transport is `t`. -/
def answersOf (t : Option Transport) (events : List (Event ι)) :
    List (Except TransportError Json.Value) := events.filterMap (Event.answer? t)

/-- The answers to two stretches of events are those of the first and then of the second. -/
theorem answersOf_append (t : Option Transport) (first second : List (Event ι)) :
    answersOf t (first ++ second) = answersOf t first ++ answersOf t second :=
  List.filterMap_append

/-- Notes are no answers. -/
theorem answersOf_notes (t : Option Transport) (lines : List LogLine) :
    answersOf t (lines.map .note : List (Event ι)) = [] :=
  filterMap_notes (fun _ => rfl) lines

/-- The deliveries of two stretches of events are those of the first and then of the second. -/
theorem deliveriesOf_append (first second : List (Event ι)) :
    deliveriesOf (first ++ second) = deliveriesOf first ++ deliveriesOf second :=
  List.filterMap_append

/-- Notes are no deliveries. -/
theorem deliveriesOf_notes (lines : List LogLine) :
    deliveriesOf (lines.map .note : List (Event ι)) = [] :=
  filterMap_notes (fun _ => rfl) lines

namespace Request

/-- Operations may be performed in two batches. -/
theorem performAll_append (r : Request ι) (first second : List (Operation ι)) :
    r.performAll (first ++ second) =
      ⟨((r.performAll first).request.performAll second).request,
        (r.performAll first).events ++
          ((r.performAll first).request.performAll second).events,
        (r.performAll first).result ++
          ((r.performAll first).request.performAll second).result⟩ := by
  induction first generalizing r with
  | nil => rfl
  | cons operation rest ih =>
    simp only [List.cons_append, performAll, ih, List.append_assoc]

/-- A batch of one operation is that operation. -/
theorem performAll_singleton (r : Request ι) (operation : Operation ι) :
    r.performAll [operation] =
      ⟨(r.perform operation).request, (r.perform operation).events,
        [(r.perform operation).result]⟩ := by
  simp only [performAll, List.append_nil]

/-- The answers that transports give in the course of operations. -/
def answers (r : Request ι) : List (Operation ι) → List (Except TransportError Json.Value)
  | [] => []
  | operation :: rest =>
    answersOf operation.transport? (r.perform operation).events ++
      (r.perform operation).request.answers rest

/-- The answers in two batches are those in the first and then those in the second. -/
theorem answers_append (r : Request ι) (first second : List (Operation ι)) :
    r.answers (first ++ second) =
      r.answers first ++ (r.performAll first).request.answers second := by
  induction first generalizing r with
  | nil => rfl
  | cons operation rest ih =>
    simp only [List.cons_append, answers, performAll, ih, List.append_assoc]

/-- The answers in a batch of one operation come from the transport it brings. -/
theorem answers_singleton (r : Request ι) (operation : Operation ι) :
    r.answers [operation] = answersOf operation.transport? (r.perform operation).events := by
  simp only [answers, List.append_nil]

end Request

/-- A construction and the operations after it. -/
structure History (ι : Type) where
  how : Construction
  parameters : QueryParameters
  cutoffs : Cutoffs
  options : LoadOptions
  operations : List (Operation ι)

namespace History

/-- The outcome of the construction. -/
def opening (h : History ι) : Outcome ι Unit :=
  Request.construct h.how h.parameters h.cutoffs h.options

/-- The outcome of the operations. -/
def sequel (h : History ι) : Outcome ι (List (Option LoadResult)) :=
  h.opening.request.performAll h.operations

/-- The request as the history leaves it. -/
def request (h : History ι) : Request ι := h.sequel.request

/-- Everything that happens, in order. -/
def events (h : History ι) : List (Event ι) := h.opening.events ++ h.sequel.events

/-- The URLs with which transports are called. -/
def calls (h : History ι) : List RequestUrl := callsOf h.events

/-- The answers that transports give. -/
def answers (h : History ι) : List (Except TransportError Json.Value) :=
  answersOf h.how.transport? h.opening.events ++ h.opening.request.answers h.operations

/-- The listeners that are registered, in order. -/
def registered (h : History ι) : List ι := h.operations.filterMap Operation.listener?

/-- The calls of listeners, in order, each with the request that the listener is shown. -/
def deliveries (h : History ι) : List (ι × Request ι) := deliveriesOf h.events

/-- The history of a construction alone. -/
def start (how : Construction) (p : QueryParameters) (c : Cutoffs) (o : LoadOptions) :
    History ι := ⟨how, p, c, o, []⟩

/-- The history with more operations at its end. -/
def followedBy (h : History ι) (more : List (Operation ι)) : History ι :=
  { h with operations := h.operations ++ more }

/-- The opening of a history is an opening of the new request. -/
theorem opening_effect (h : History ι) :
    Request.Opening (.new h.parameters h.cutoffs h.options) h.how h.opening.request
      h.opening.events :=
  Request.construct_opening h.how h.parameters h.cutoffs h.options

/-- A construction alone is an opening. -/
theorem start_effect (how : Construction) (p : QueryParameters) (c : Cutoffs)
    (o : LoadOptions) :
    Request.Opening (.new p c o) how (start how p c o : History ι).request
      (start how p c o : History ι).events := by
  have hnone : (start how p c o : History ι).sequel.events = [] := rfl
  rw [events, hnone, List.append_nil]
  exact (start how p c o : History ι).opening_effect

/-- Before any operation the answers are those of the opening. -/
theorem answers_start (how : Construction) (p : QueryParameters) (c : Cutoffs)
    (o : LoadOptions) :
    (start how p c o : History ι).answers =
      answersOf how.transport? (start how p c o : History ι).events := by
  have hnone : (start how p c o : History ι).sequel.events = [] := rfl
  rw [events, hnone, List.append_nil]
  exact List.append_nil _

variable (h : History ι) (more : List (Operation ι))

/-- The sequel of a longer history goes on from the request that the shorter one leaves. -/
theorem sequel_followedBy :
    (h.followedBy more).sequel =
      ⟨(h.request.performAll more).request,
        h.sequel.events ++ (h.request.performAll more).events,
        h.sequel.result ++ (h.request.performAll more).result⟩ :=
  h.opening.request.performAll_append h.operations more

/-- A longer history leaves the request that the further operations leave. -/
theorem request_followedBy :
    (h.followedBy more).request = (h.request.performAll more).request := by
  rw [request, sequel_followedBy]

/-- The events of a longer history are those of the shorter one and what is done then. -/
theorem events_followedBy :
    (h.followedBy more).events = h.events ++ (h.request.performAll more).events := by
  rw [events, sequel_followedBy, events, List.append_assoc]
  rfl

/-- The answers in a longer history are those in the shorter one and what comes then. -/
theorem answers_followedBy :
    (h.followedBy more).answers = h.answers ++ h.request.answers more := by
  have hsequel := h.opening.request.answers_append h.operations more
  rw [answers, answers, List.append_assoc]
  exact congrArg _ hsequel

/-- The listeners of a longer history are those of the shorter one and the further ones. -/
theorem registered_followedBy :
    (h.followedBy more).registered =
      h.registered ++ more.filterMap Operation.listener? :=
  List.filterMap_append

/-- The calls of a longer history are those of the shorter one and the further ones. -/
theorem calls_followedBy :
    (h.followedBy more).calls = h.calls ++ callsOf (h.request.performAll more).events := by
  simp only [calls, events_followedBy, callsOf_append]

/-- The deliveries of a longer history are those of the shorter one and the further ones. -/
theorem deliveries_followedBy :
    (h.followedBy more).deliveries =
      h.deliveries ++ deliveriesOf (h.request.performAll more).events := by
  simp only [deliveries, events_followedBy, deliveriesOf_append]

/-- What holds after every construction and is kept by every operation holds of all
histories. -/
@[elab_as_elim]
theorem induction {motive : History ι → Prop}
    (opened : ∀ how p c o, motive (start how p c o))
    (step : ∀ h operation, motive h → motive (h.followedBy [operation]))
    (h : History ι) : motive h := by
  obtain ⟨how, parameters, cutoffs, options, operations⟩ := h
  induction operations using List.reverseRecOn with
  | nil => exact opened how parameters cutoffs options
  | append_singleton operations operation ih => exact step _ operation ih

end History

end Isochrone
