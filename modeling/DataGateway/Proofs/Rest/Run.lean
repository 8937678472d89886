import DataGateway.Rest.Adapter
import Mathlib.Logic.Relation

/-!
# Runs of the REST adapter

* `Event` — an operation together with the answer that the server has ready for it, or a restart on the
  same store;
* `Leads` — one state comes of another by any number of events.
-/

namespace DataGateway.Rest

/-- The adapter with a server that has one answer ready. An operation sends one request at most. -/
def expecting (answer : Except Fault Reply) (host : Host Backend) : Host Backend :=
  { host with
    backend := { host.backend with server := { host.backend.server with answers := [answer] } } }

/-- What can be done to an adapter. -/
inductive Event
  | call (operation : Operation) (answer : Except Fault Reply)
  | restart

/-- Runs an event. A restart leaves nothing of the adapter but its store. -/
def Event.run (adapter : Adapter) : Event → Host Backend → Except Fault Response × Host Backend
  | call operation answer, host => adapter.perform operation (expecting answer host)
  | restart, host => (.ok (.success .null), { backend := host.backend })

/-- Does a state come of another by events? -/
def Adapter.Leads (adapter : Adapter) : Host Backend → Host Backend → Prop :=
  Relation.ReflTransGen fun host after => ∃ event : Event, after = (event.run adapter host).2

end DataGateway.Rest
