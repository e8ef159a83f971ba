import Sketchflow.Api.Routes
import Sketchflow.Proofs.Graph.Sound

/-!
# Edits over the network

A request that edits the graph is either declined or carried out as a whole. Editors are told of
it if and only if it was carried out.

* `Route.edits` are the requests that edit.
* `Declined` and `Carried` are the two ends a handler can come to; `perform_edit` says that there is
  no third.
* **`respond_edit`**: what the status of an answer tells of the studio after it. The one answer that
  does not tell whether the edit was made is a failure to write the graph that it led to, which then
  holds an integer of more digits than are written, or what is no value of documents.
* `respond_unwritten`: there is such an edit, with the largest number a document can give a node.
-/

namespace Sketchflow

open List Text

/-! ## Documents that are written -/

namespace Value

@[simp] theorem isWritten_list (items : List Value) :
    (list items).isWritten = items.all isWritten := by
  rw [isWritten, first?]
  induction items with
  | nil => rfl
  | cons v rest ih => rw [firstItem?, Option.isNone_or, ih, all_cons, isWritten]

@[simp] theorem isWritten_object (fields : Fields) :
    (object fields).isWritten = fields.all fun f => f.2.isWritten := by
  rw [isWritten, first?]
  induction fields with
  | nil => rfl
  | cons f rest ih => rw [firstField?, Option.isNone_or, ih, all_cons, isWritten]

@[simp] theorem isWritten_bool (b : Bool) : (bool b).isWritten = true := rfl

@[simp] theorem isWritten_str (s : String) : (str s).isWritten = true := rfl

end Value

namespace Graph

variable {g : Graph}

theorem isWritten_toDoc (h : g.toDoc.isWritten = true) :
    (∀ n ∈ g.nodes, n.toDoc.isWritten = true) ∧ ∀ w ∈ g.wires, w.toDoc.isWritten = true := by
  simp only [toDoc, Value.isWritten_object, Value.isWritten_list, all_cons, all_map, all_nil,
    Bool.and_eq_true, all_eq_true, Function.comp_apply] at h
  exact ⟨h.1, h.2.1⟩

end Graph

namespace Api

/-! ## How a handler can end -/

def Route.edits (route : Route) (method : String) : Bool :=
  match route, method with
  | .graph, "PUT" => true
  | .nodes, "POST" => true
  | .node _, "PATCH" => true
  | .node _, "DELETE" => true
  | .wires, "POST" => true
  | .wire _, "DELETE" => true
  | .workspaceLoad _, "POST" => true
  | _, _ => false

/-- Nothing has changed but why ports were last not joined. -/
def Unmoved (w w' : Studio) : Prop :=
  ∃ refusal, w' = w.withGraph { w.graph with refusal }

theorem Unmoved.refl (w : Studio) : Unmoved w w := ⟨w.graph.refusal, rfl⟩

/-- The graph has been edited: editors are told of it once, with the size that it has now, and a run
is asked for. All else is as it was. -/
structure Told (w : Studio) (a : Answer) (w' : Studio) : Prop where
  events : ∃ reason details, a.events = [⟨"graph_changed", [("reason", .str reason),
    ("nodes", .int w'.graph.nodes.length), ("connections", .int w'.graph.wires.length)] ++ details⟩]
  studio : w' = { w with
    toSession := { w.toSession with graph := w'.graph, tags := w'.tags }.requestRun.2 }

/-- The answer of a handler that did nothing. -/
structure Declined (w : Studio) (o : Outgoing) : Prop where
  status : o.1.status = 400 ∨ o.1.status = 404 ∨ o.1.status = 500
  events : o.1.events = []
  studio : Unmoved w o.2
  written : ∀ doc, o.1.body = some doc → doc.isWritten = true

/-- The answer of a handler that edited the graph. Its document is part of that of the graph. -/
structure Carried (w : Studio) (o : Outgoing) : Prop where
  status : o.1.status = 200 ∨ o.1.status = 201
  told : Told w o.1 o.2
  written : ∀ doc, o.1.body = some doc → o.2.graph.toDoc.isWritten = true → doc.isWritten = true

theorem declined_refuse (w : Studio) {status : Nat} (message : String)
    (h : status = 400 ∨ status = 404) : Declined w (refuse status message, w) where
  status := h.imp_right .inl
  events := rfl
  studio := .refl w
  written := by
    intro doc hd
    cases hd
    rfl

theorem declined_failure (w : Studio) : Declined w (failure, w) where
  status := .inr (.inr rfl)
  events := rfl
  studio := .refl w
  written := by
    intro doc hd
    cases hd

theorem declined_workspaceFailure (w : Studio) (e : Workspace.Failure) :
    Declined w (workspaceFailure e, w) := by
  unfold workspaceFailure
  split
  · exact declined_refuse w _ (.inl rfl)
  · exact declined_failure w

@[simp] theorem changed_graph (w : Studio) (reason : String) (details : Fields) :
    (changed w reason details).2.graph = w.graph := by
  simp only [changed, Studio.withSession, Session.requestRun, Session.cancelTimer]
  split
  · split <;> rfl
  · rfl

@[simp] theorem changed_tags (w : Studio) (reason : String) (details : Fields) :
    (changed w reason details).2.tags = w.tags := by
  simp only [changed, Studio.withSession, Session.requestRun, Session.cancelTimer]
  split
  · split <;> rfl
  · rfl

theorem carried_edited (w v : Studio) {status : Nat} (reason : String) (details : Fields)
    {data : Value} (warnings : List String) (hs : status = 200 ∨ status = 201)
    (hv : v = { w with graph := v.graph, tags := v.tags })
    (hdata : v.graph.toDoc.isWritten = true → data.isWritten = true) :
    Carried w ({ (edited v status reason details data).1 with warnings },
      (edited v status reason details data).2) where
  status := hs
  told := {
    events := by
      refine ⟨reason, details, ?_⟩
      simp only [edited, changed_graph]
      rfl
    studio := by
      simp only [edited, changed_graph, changed_tags]
      conv_lhs => rw [hv]
      rfl }
  written := by
    intro doc hd hgraph
    simp only [edited, changed_graph] at hgraph
    cases hd
    simpa [success] using hdata hgraph

/-! ## The handlers -/

theorem replaceGraph_carried (w : Studio) (b : Body) : Carried w (replaceGraph w b) :=
  carried_edited w (w.loadDoc b.document).1 _ _ _ (.inl rfl) rfl id

theorem addNode_ends (w : Studio) (b : Body) :
    Declined w (addNode w b) ∨ Carried w (addNode w b) := by
  unfold addNode
  split
  · exact .inl (declined_refuse w _ (.inl rfl))
  · split
    · simp only
      split
      · split
        · exact .inl (declined_refuse w _ (.inl rfl))
        · rename_i n g hc
          have hn : n ∈ g.nodes := by
            unfold Graph.create at hc
            split at hc
            · cases hc
            · cases hc
              simp
          exact .inr (carried_edited w (w.withGraph g) _ _ [] (.inr rfl) rfl
            fun h => (Graph.isWritten_toDoc h).1 n hn)
      · exact .inl (declined_refuse w _ (.inl rfl))
    · exact .inl (declined_refuse w _ (.inl rfl))

theorem changeNode_ends (w : Studio) (id : Nat) (b : Body) :
    Declined w (changeNode w id b) ∨ Carried w (changeNode w id b) := by
  unfold changeNode
  split
  · exact .inl (declined_refuse w _ (.inr rfl))
  · split
    · exact .inl (declined_refuse w _ (.inl rfl))
    · split
      · exact .inl (declined_refuse w _ (.inl rfl))
      · rename_i n _ _ _ _ _ c _
        refine .inr (carried_edited w (w.withGraph (c.apply n w.graph)) _ _ [] (.inl rfl) rfl
          fun h => ?_)
        cases hf : (c.apply n w.graph).node? (.int id) with
        | none => rfl
        | some m => exact (Graph.isWritten_toDoc h).1 m (Graph.mem_of_node? hf)

theorem removeNode_ends (w : Studio) (id : Nat) :
    Declined w (removeNode w id) ∨ Carried w (removeNode w id) := by
  unfold removeNode
  split
  · exact .inl (declined_refuse w _ (.inr rfl))
  · rename_i g _
    exact .inr (carried_edited w (w.withGraph g) _ _ [] (.inl rfl) rfl fun _ => rfl)

/-- Integers and texts either cannot be joined, and nothing but the reason is kept, or they are, and
the wire is there. What entered the input before is taken away only then. -/
theorem connect_cases (g : Graph) (tag : String) (a b : Int) (p q : String) :
    (∃ r, g.connect tag (.int a) (.str p) (.int b) (.str q) =
      (.refused r, { g with refusal := some r })) ∨
    (∃ wire g', g.connect tag (.int a) (.str p) (.int b) (.str q) = (.joined wire, g') ∧
      wire ∈ g'.wires) := by
  unfold Graph.connect
  split
  · rename_i r _
    exact .inl ⟨r, rfl⟩
  · -- No wire that enters the input is left, so none of the same ends is.
    have hnone : ((g.wires.filter fun w => !w.enters (.int b) (.str q)).any fun w =>
        w.leaves (.int a) (.str p) && w.enters (.int b) (.str q)) = false := by
      refine any_eq_false.mpr fun w hw => ?_
      have := (mem_filter.mp hw).2
      simp_all
    simp only [hnone, Wire.join]
    exact .inr ⟨_, _, rfl, by simp⟩

theorem toInt_eq_ok {v u : Value} (h : v.toInt = .ok u) : ∃ i, u = .int i := by
  unfold Value.toInt Value.readInteger at h
  split at h
  · split at h <;> cases h
    exact ⟨_, rfl⟩
  · split at h
    · cases h
      exact ⟨_, rfl⟩
    · rename_i x _
      cases hr : Value.finiteRatio x with
      | error f => rw [hr] at h; cases h
      | ok r =>
        rw [hr] at h
        cases h
        exact ⟨_, rfl⟩
    · cases h

theorem Ends.read_eq_ok {fields : Fields} {e : Ends} (h : Ends.read fields = .ok e) :
    ∃ (a b : Int) (p q : String), e = ⟨.int a, .str p, .int b, .str q⟩ := by
  obtain ⟨_, -, h⟩ := exists_of_bind_eq_ok h
  obtain ⟨fromNode, hfrom, h⟩ := exists_of_bind_eq_ok h
  obtain ⟨_, -, h⟩ := exists_of_bind_eq_ok h
  obtain ⟨fromPort, -, h⟩ := exists_of_bind_eq_ok h
  obtain ⟨_, -, h⟩ := exists_of_bind_eq_ok h
  obtain ⟨toNode, hto, h⟩ := exists_of_bind_eq_ok h
  obtain ⟨_, -, h⟩ := exists_of_bind_eq_ok h
  obtain ⟨toPort, -, h⟩ := exists_of_bind_eq_ok h
  obtain ⟨a, rfl⟩ := toInt_eq_ok hfrom
  obtain ⟨b, rfl⟩ := toInt_eq_ok hto
  cases h
  exact ⟨a, b, fromPort, toPort, rfl⟩

theorem addWire_ends (w : Studio) (b : Body) :
    Declined w (addWire w b) ∨ Carried w (addWire w b) := by
  unfold addWire
  split
  · split
    · exact .inl (declined_refuse w _ (.inl rfl))
    · exact .inl (declined_failure w)
  · rename_i e he
    obtain ⟨i, j, p, q, rfl⟩ := Ends.read_eq_ok he
    unfold Studio.connect
    rcases connect_cases w.graph (Studio.tagText (w.tags + 1)) i j p q with
      ⟨r, hr⟩ | ⟨wire, g, hg, hwire⟩
    · rw [hr]
      exact .inl ⟨.inl rfl, rfl, ⟨some r, rfl⟩, by rintro doc ⟨⟩; rfl⟩
    · rw [hg]
      exact .inr (carried_edited w { w with graph := g, tags := w.tags + 1 } _ _ [] (.inr rfl) rfl
        fun h => (Graph.isWritten_toDoc h).2 wire hwire)

theorem removeWire_ends (w : Studio) (id : String) :
    Declined w (removeWire w id) ∨ Carried w (removeWire w id) := by
  unfold removeWire
  split
  · exact .inl (declined_refuse w _ (.inr rfl))
  · rename_i g _
    exact .inr (carried_edited w (w.withGraph g) _ _ [] (.inl rfl) rfl fun _ => rfl)

theorem loadWorkspace_ends (w : Studio) (name : String) :
    Declined w (loadWorkspace w name) ∨ Carried w (loadWorkspace w name) := by
  unfold loadWorkspace
  split
  · exact .inl (declined_workspaceFailure w _)
  · rename_i file _
    split
    · unfold Studio.load
      cases Workspace.load w.folder (.single file) w.palette with
      | error e => exact .inl (declined_workspaceFailure w e)
      | ok r => exact .inr (carried_edited w (w.withGraph r.1) _ _ _ (.inl rfl) rfl id)
    · exact .inl (declined_refuse w _ (.inr rfl))

/-- **A request that edits is declined or carried out.** -/
theorem perform_edit (w : Studio) (r : Request) {route : Route} {method : String}
    (h : route.edits method = true) :
    ∃ o, route.perform? r method w = some o ∧ (Declined w o ∨ Carried w o) := by
  unfold Route.edits at h
  split at h
  · exact ⟨_, rfl, .inr (replaceGraph_carried w r.body)⟩
  · exact ⟨_, rfl, addNode_ends w r.body⟩
  · exact ⟨_, rfl, changeNode_ends w _ r.body⟩
  · exact ⟨_, rfl, removeNode_ends w _⟩
  · exact ⟨_, rfl, addWire_ends w r.body⟩
  · exact ⟨_, rfl, removeWire_ends w _⟩
  · exact ⟨_, rfl, loadWorkspace_ends w _⟩
  · cases h

/-! ## The answers -/

/-- A request that does something at its address is answered with what it does. -/
theorem respond_of_perform? (w : Studio) (r : Request) {route : Route} {o : Outgoing}
    (hroute : Route.find? r.segments = some route)
    (hmethod : upper r.method ≠ "OPTIONS" ∧ upper r.method ≠ "HEAD")
    (ho : route.perform? { r with method := upper r.method } (upper r.method) w = some o) :
    respond w r = (o.1.sealed, o.2) := by
  unfold respond
  have hsegments : Request.segments { r with method := upper r.method } = r.segments := rfl
  simp only [hsegments, hroute]
  unfold respondAt
  simp [hmethod, ho]

/-- An answer stays as it is unless its document cannot be written; its events stay in any case. -/
theorem sealed_cases (a : Answer) : a.sealed = a ∨
    (a.sealed = { a with status := 500, body := none } ∧
      ∃ doc, a.body = some doc ∧ doc.isWritten = false) := by
  unfold Answer.sealed
  cases hb : a.body with
  | none => exact .inl rfl
  | some doc =>
    cases hw : doc.isWritten with
    | true => exact .inl (by simp [hw])
    | false => exact .inr ⟨by simp [hw], doc, rfl, hw⟩

theorem Declined.sealed_eq {w : Studio} {o : Outgoing} (h : Declined w o) : o.1.sealed = o.1 := by
  rcases sealed_cases o.1 with he | ⟨-, doc, hd, hl⟩
  · exact he
  · rw [h.written doc hd] at hl
    cases hl

theorem Told.pending {w w' : Studio} {a : Answer} (h : Told w a w') :
    w'.pending = (w.autoRun.isTrue || w.pending) := by
  rw [h.studio]
  simp only [Session.requestRun, Session.cancelTimer]
  cases w.autoRun.isTrue with
  | true => rfl
  | false => simp

/-- **What the answer to an edit tells.** After a status of success editors have been told of the
edit once, and a run is pending if runs after edits are on. After any other status nothing has
changed and nobody was told, unless the graph that the edit led to cannot be written. -/
theorem respond_edit (w : Studio) (r : Request) {route : Route}
    (hroute : Route.find? r.segments = some route)
    (hedit : route.edits (Text.upper r.method) = true) :
    let a := (respond w r).1
    let w' := (respond w r).2
    a.status ∈ [200, 201, 400, 404, 500] ∧
    (a.status < 300 → Told w a w' ∧ w'.pending = (w.autoRun.isTrue || w.pending)) ∧
    (400 ≤ a.status → (a.status < 500 ∨ w'.graph.toDoc.isWritten = true) →
      a.events = [] ∧ Unmoved w w') ∧
    (a.status = 500 → (a.events = [] ∧ Unmoved w w') ∨
      (Told w a w' ∧ w'.graph.toDoc.isWritten = false)) := by
  obtain ⟨o, ho, hend⟩ := perform_edit w { r with method := Text.upper r.method } hedit
  rw [respond_of_perform? w r hroute (by constructor <;> intro hm <;> rw [hm] at hedit <;>
    cases route <;> cases hedit) ho]
  rcases hend with hd | hc
  · have hmem : o.1.status ∈ [200, 201, 400, 404, 500] := by
      rcases hd.status with h | h | h <;> simp [h]
    have hhigh : 400 ≤ o.1.status := by
      rcases hd.status with h | h | h <;> omega
    simp only [hd.sealed_eq]
    exact ⟨hmem, fun h => by omega, fun _ _ => ⟨hd.events, hd.studio⟩,
      fun _ => .inl ⟨hd.events, hd.studio⟩⟩
  · rcases sealed_cases o.1 with he | ⟨he, doc, hdoc, hfails⟩
    · have hmem : o.1.status ∈ [200, 201, 400, 404, 500] := by
        rcases hc.status with h | h <;> simp [h]
      have hlow : o.1.status < 300 := by
        rcases hc.status with h | h <;> omega
      simp only [he]
      exact ⟨hmem, fun _ => ⟨hc.told, hc.told.pending⟩, fun h => by omega, fun h => by omega⟩
    · -- The edit is made, but its answer fails.
      have hgraph : o.2.graph.toDoc.isWritten = false := by
        rw [← Bool.not_eq_true]
        intro hgraph
        rw [hc.written doc hdoc hgraph] at hfails
        cases hfails
      have htold : Told w { o.1 with status := 500, body := none } o.2 :=
        ⟨hc.told.events, hc.told.studio⟩
      simp only [he]
      refine ⟨by simp, fun h => by omega, fun _ h => ?_, fun _ => .inr ⟨htold, hgraph⟩⟩
      rcases h with h | h
      · omega
      · rw [hgraph] at h
        cases h

/-- A studio in which nothing has been done yet. -/
def fresh : Studio :=
  { palette := .standard, settings := { workspaceDir := "" }, folder := { name := "" } }

/-- A request to replace the graph by one whose node has the largest number that can be written. -/
def largestNumber : Request :=
  { method := "PUT", address := "/api/graph"
    body := .doc (.object [("nodes", .list
      [.object [("id", .int (Number.ten 4300 - 1)), ("type", .str "start")]])]) }

theorem find?_largestNumber : Route.find? largestNumber.segments = some .graph := by
  have hsegments : largestNumber.segments = ["", "api", "graph"] := by decide +kernel
  rw [hsegments]
  rfl

/-- The answer to such a request fails, but editors have been told of the edit. -/
theorem respond_edit_largestNumber :
    Route.find? largestNumber.segments = some .graph ∧
    Route.edits .graph (Text.upper largestNumber.method) = true ∧
    (respond fresh largestNumber).1.status = 500 ∧
    Told fresh (respond fresh largestNumber).1 (respond fresh largestNumber).2 := by
  have hedit : Route.edits .graph (Text.upper largestNumber.method) = true := rfl
  have hstatus : (respond fresh largestNumber).1.status = 500 := by decide +kernel
  have hevents : (respond fresh largestNumber).1.events.length = 1 := by decide +kernel
  refine ⟨find?_largestNumber, hedit, hstatus, ?_⟩
  rcases (respond_edit fresh largestNumber find?_largestNumber hedit).2.2.2 hstatus with h | h
  · rw [h.1] at hevents
    cases hevents
  · exact h.1

/-- **A request can fail and yet edit the graph**: the number after the largest one that can be
written is too long. -/
theorem respond_unwritten :
    fresh.graph.nodes.length = 0 ∧ (respond fresh largestNumber).1.status = 500 ∧
    (respond fresh largestNumber).1.events.map (·.name) = ["graph_changed"] ∧
    (respond fresh largestNumber).2.graph.nodes.length = 1 := by
  decide +kernel

end Api

end Sketchflow
