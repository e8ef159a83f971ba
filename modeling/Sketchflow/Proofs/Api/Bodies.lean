import Sketchflow.Proofs.Api.Editing

/-!
# Bodies that are no objects

A body can hold a document that is no object: a list, a text, a number or a truth value. The
requests that look into their body decline it then, all but one.

* `Route.takesBody` are the requests that look into their body.
* **`respond_otherBody`**: each of them is declined and nothing has changed, but for the one that
  replaces the graph: it is carried out, and the graph is empty after it.
* `respond_otherBody_wiped`: a graph is lost that way.
-/

namespace Sketchflow.Api

/-- The requests that look into their body. That to change a node does if the node is there. -/
def Route.takesBody (route : Route) (method : String) (g : Graph) : Bool :=
  match route, method with
  | .graph, "PUT" => true
  | .nodes, "POST" => true
  | .node id, "PATCH" => (g.node? (.int id)).isSome
  | .wires, "POST" => true
  | .autoRun, "POST" => true
  | _, _ => false

theorem fields?_eq_none {b : Body} (hnull : b.document ≠ .null)
    (hobject : ∀ fields, b.document ≠ .object fields) : b.fields? = none := by
  unfold Body.fields?
  split
  · rename_i h
    exact absurd h hnull
  · rename_i fields h
    exact absurd h (hobject fields)
  · rfl

/-- How a request with such a body ends: declined, with the studio as it was, or with the graph
emptied. -/
inductive EndsOther (w : Studio) (o : Outgoing) : Route → Prop
  | emptied (status : o.1.status = 200) (body : o.1.body = some (success Graph.empty.toDoc))
      (graph : o.2.graph = .empty) (autoRun : o.2.autoRun = w.autoRun) : EndsOther w o .graph
  | declined {route : Route} (message : String) (ne : route ≠ .graph)
      (answer : o = (refuse 400 message, w)) : EndsOther w o route

section

variable {w : Studio} {b : Body}

theorem replaceGraph_other (hnull : b.document ≠ .null)
    (hobject : ∀ fields, b.document ≠ .object fields) :
    EndsOther w (replaceGraph w b) .graph := by
  have hload : (w.loadDoc b.document).1 = w.withGraph .empty := by
    have hnone : Graph.load w.palette b.document = (.empty, [.payload b.document.kindName]) := by
      generalize b.document = doc at *
      unfold Graph.load
      split
      · exact absurd rfl hnull
      · rename_i fields
        exact absurd rfl (hobject fields)
      · rfl
    simp [Studio.loadDoc, hnone]
  have hauto : ∀ v : Studio, v.requestRun.2.autoRun = v.autoRun := by
    intro v
    simp only [Session.requestRun, Session.cancelTimer]
    split
    · split <;> rfl
    · rfl
  refine .emptied rfl ?_ ?_ ?_
  · simp only [replaceGraph, edited, hload]
    rfl
  · simp only [replaceGraph, edited, changed_graph, hload]
    rfl
  · simp only [replaceGraph, edited, hload]
    exact hauto _

theorem perform_other (r : Request) {route : Route} {method : String}
    (htakes : route.takesBody method w.graph = true) (hnull : r.body.document ≠ .null)
    (hobject : ∀ fields, r.body.document ≠ .object fields) :
    ∃ o, route.perform? r method w = some o ∧ EndsOther w o route := by
  have hnone := fields?_eq_none hnull hobject
  unfold Route.takesBody at htakes
  split at htakes
  · exact ⟨_, rfl, replaceGraph_other hnull hobject⟩
  · exact ⟨_, rfl, .declined objectMessage nofun (by simp [addNode, hnone])⟩
  · rename_i id
    obtain ⟨n, hn⟩ := Option.isSome_iff_exists.mp htakes
    exact ⟨_, rfl, .declined objectMessage nofun (by simp [changeNode, hn, hnone])⟩
  · refine ⟨_, rfl, .declined "Fields fromNode, fromPort, toNode and toPort are required" nofun ?_⟩
    simp [addWire, hnone, Ends.read, needed, Fields.get?, isSendersFault, Fault.kind, bind,
      Except.bind]
  · exact ⟨_, rfl, .declined objectMessage nofun (by simp [setAutoRun, hnone])⟩
  · cases htakes

end

/-- **A body that is no object is declined**, with nothing changed, by every request that looks into
its body but the one that replaces the graph. That one succeeds and leaves no graph. -/
theorem respond_otherBody (w : Studio) (r : Request) {route : Route}
    (hroute : Route.find? r.segments = some route)
    (htakes : route.takesBody (Text.upper r.method) w.graph = true)
    (hnull : r.body.document ≠ .null) (hobject : ∀ fields, r.body.document ≠ .object fields) :
    let a := (respond w r).1
    let w' := (respond w r).2
    (route ≠ .graph → a.status = 400 ∧ a.events = [] ∧ w' = w) ∧
    (route = .graph → a.status = 200 ∧ w'.graph = .empty ∧ w'.autoRun = w.autoRun) := by
  have hmethod : Text.upper r.method ≠ "OPTIONS" ∧ Text.upper r.method ≠ "HEAD" := by
    constructor <;>
    · intro hm
      rw [hm] at htakes
      cases route <;> cases htakes
  obtain ⟨o, ho, hend⟩ :=
    perform_other { r with method := Text.upper r.method } htakes hnull hobject
  rw [respond_of_perform? w r hroute hmethod ho]
  cases hend with
  | emptied status body graph autoRun =>
    have hsealed : o.1.sealed = o.1 := by
      rw [Answer.sealed, body]
      rfl
    exact ⟨fun hne => absurd rfl hne, fun _ => ⟨by rw [hsealed, status], graph, autoRun⟩⟩
  | declined message ne answer =>
    rw [answer]
    exact ⟨fun _ => ⟨rfl, rfl, rfl⟩, fun h => absurd h ne⟩

def withStart : Studio :=
  fresh.withGraph { nodes := [{ id := 1, type := "start" }], nextId := 2 }

def listAsGraph : Request :=
  { method := "PUT", address := "/api/graph", body := .doc (.list []) }

/-- The node is gone, though a list is no graph. -/
theorem respond_otherBody_wiped :
    withStart.graph.nodes.length = 1 ∧ listAsGraph.body.document = .list [] ∧
    (respond withStart listAsGraph).1.status = 200 ∧
    (respond withStart listAsGraph).2.graph.nodes = [] := by
  have hroute : Route.find? listAsGraph.segments = some .graph := by
    have hsegments : listAsGraph.segments = ["", "api", "graph"] := by decide +kernel
    rw [hsegments]
    rfl
  have hwiped := (respond_otherBody withStart listAsGraph hroute rfl nofun nofun).2 rfl
  exact ⟨rfl, rfl, hwiped.1, by rw [hwiped.2.1]; rfl⟩

end Sketchflow.Api
