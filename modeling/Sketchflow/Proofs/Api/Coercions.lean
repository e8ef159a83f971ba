import Sketchflow.Proofs.Api.Editing
import Sketchflow.Proofs.Graph.Joining
import Sketchflow.Proofs.Number.Sign

/-!
# Numbers that requests and events give

The ends of a wire and a number of frames come as loose values, which are made integers. A value
that is no integer is told of, unless it is an infinity: that is a fault of its own sort, and nobody
is told.

* `Value.toInt_cases`: how a value can fail to be an integer.
* `Endless` are the fields whose ends stop at an infinity. `read_endless`, `read_other`: how the
  ends of a wire are read from these and from all other fields.
* `Asked` is what comes of an event that asks for frames by a number that is no infinity.
* **`answered_unless_infinite`**: a request to add a wire succeeds or is refused, and an event that
  asks for frames runs them or is told of, unless an infinity is met or the program ends everything.
* `answered_unless_infinite_raised`: two infinities that raise, and a frame that ends everything.
-/

namespace Sketchflow

open Float.Model in
theorem Number.isInf_eq (x : Float) : x.isInf = (!x.isFinite && !x.isNaN) := by
  change (UnpackedFloat.unpack .binary64 x.toBits.toBitVec).isInf =
    (!(UnpackedFloat.unpack .binary64 x.toBits.toBitVec).isFinite
      && !(UnpackedFloat.unpack .binary64 x.toBits.toBitVec).isNaN)
  cases UnpackedFloat.unpack .binary64 x.toBits.toBitVec <;> rfl

namespace Value

def isInfinite : Value → Bool
  | .float x => x.isInf
  | _ => false

theorem finiteRatio_cases (x : Float) :
    (x.isInf = true ∧ finiteRatio x = .error (.overflow .infinity)) ∨
    (x.isInf = false ∧ ((∃ r, finiteRatio x = .ok r) ∨ finiteRatio x = .error .nanToInteger)) := by
  unfold finiteRatio
  cases hr : Number.ratio? x with
  | some r =>
    have hfinite : x.isFinite = true := by
      rw [Number.isFinite_iff]
      unfold Number.ratio? at hr
      split at hr
      · rename_i negative m e h
        exact ⟨negative, m, e, h⟩
      · cases hr
    exact .inr ⟨by rw [Number.isInf_eq, hfinite]; rfl, .inl ⟨r, rfl⟩⟩
  | none =>
    have hfinite : x.isFinite = false := by
      rw [Bool.eq_false_iff, ne_eq, Number.isFinite_iff]
      rintro ⟨negative, m, e, h⟩
      rw [Number.ratio?, h] at hr
      cases hr
    rw [Number.isInf_eq, hfinite]
    cases x.isNaN with
    | true => exact .inr ⟨rfl, .inr rfl⟩
    | false => exact .inl ⟨rfl, rfl⟩

/-- **How a value is made an integer**: it is one, or it is told why it is none. Only an infinity
overflows. -/
theorem toInt_cases (v : Value) :
    (v.isInfinite = true ∧ v.toInt = .error (.overflow .infinity)) ∨
    (v.isInfinite = false ∧
      ((∃ i, v.toInt = .ok (.int i)) ∨ ∃ f, v.toInt = .error f ∧ f.kind ≠ .overflow)) := by
  have hread : ∀ s, (∃ i, readInteger 10 s = .ok (.int i)) ∨
      ∃ f, readInteger 10 s = .error f ∧ f.kind ≠ .overflow := by
    intro s
    unfold readInteger
    split
    · exact .inl ⟨_, rfl⟩
    · exact .inr ⟨_, rfl, (by rintro ⟨⟩)⟩
    · exact .inr ⟨_, rfl, (by rintro ⟨⟩)⟩
  cases v with
  | str s => exact .inr ⟨rfl, hread s⟩
  | bool b => exact .inr ⟨rfl, .inl ⟨_, rfl⟩⟩
  | int i => exact .inr ⟨rfl, .inl ⟨i, rfl⟩⟩
  | float x =>
    have hint : (float x).toInt =
        (finiteRatio x).map fun r => .int (Number.truncRatio r.1 r.2) := rfl
    rw [hint]
    rcases finiteRatio_cases x with ⟨hinf, hx⟩ | ⟨hinf, ⟨r, hx⟩ | hx⟩
    · exact .inl ⟨hinf, by rw [hx]; rfl⟩
    · exact .inr ⟨hinf, .inl ⟨Number.truncRatio r.1 r.2, by rw [hx]; rfl⟩⟩
    · exact .inr ⟨hinf, .inr ⟨.nanToInteger, by rw [hx]; rfl, (by rintro ⟨⟩)⟩⟩
  | nan mark =>
    have hnone : Number.ratio? (0.0 / 0.0) = none := by decide +kernel
    have hnan : (0.0 / 0.0 : Float).isNaN = true := by decide +kernel
    have hratio : finiteRatio (0.0 / 0.0) = .error .nanToInteger := by
      rw [finiteRatio, hnone]
      exact if_pos hnan
    refine .inr ⟨rfl, .inr ⟨.nanToInteger, ?_, (by rintro ⟨⟩)⟩⟩
    simp only [toInt, number?, hratio]
    rfl
  | null => exact .inr ⟨rfl, .inr ⟨_, rfl, (by rintro ⟨⟩)⟩⟩
  | list items => exact .inr ⟨rfl, .inr ⟨_, rfl, (by rintro ⟨⟩)⟩⟩
  | object fields => exact .inr ⟨rfl, .inr ⟨_, rfl, (by rintro ⟨⟩)⟩⟩
  | tuple items => exact .inr ⟨rfl, .inr ⟨_, rfl, (by rintro ⟨⟩)⟩⟩
  | complex z => exact .inr ⟨rfl, .inr ⟨_, rfl, (by rintro ⟨⟩)⟩⟩
  | handle h => exact .inr ⟨rfl, .inr ⟨_, rfl, (by rintro ⟨⟩)⟩⟩

end Value

namespace Api

/-! ## Ends of wires -/

/-- An infinity is where the number of a node should be, and what comes before it can be read. -/
inductive Endless (fields : Fields) : Prop
  | source {v : Value} (given : fields.get? "fromNode" = some v) (infinite : v.isInfinite = true)
  | target {u p v : Value} (source : fields.get? "fromNode" = some u)
      (integer : ∃ i, u.toInt = .ok i) (port : fields.get? "fromPort" = some p)
      (short : p.hasLong = false) (given : fields.get? "toNode" = some v)
      (infinite : v.isInfinite = true)

variable {fields : Fields} {name : String}

theorem needed_some {v : Value} (h : fields.get? name = some v) : needed fields name = .ok v := by
  rw [needed, h]

theorem needed_none (h : fields.get? name = none) :
    needed fields name = .error (.missingKey (.str name)) := by
  rw [needed, h]

theorem integer_cases (fields : Fields) (name : String) :
    (∃ v, fields.get? name = some v ∧ v.isInfinite = true) ∨
    (∃ v i, fields.get? name = some v ∧ v.toInt = .ok (.int i)) ∨
    ∃ f, (needed fields name >>= Value.toInt) = .error f ∧ f.kind ≠ .overflow := by
  cases hget : fields.get? name with
  | none => exact .inr (.inr ⟨.missingKey (.str name), by rw [needed_none hget]; rfl, nofun⟩)
  | some v =>
    rw [needed_some hget]
    rcases v.toInt_cases with ⟨hinf, -⟩ | ⟨-, ⟨i, hi⟩ | ⟨f, hf, hkind⟩⟩
    · exact .inl ⟨v, rfl, hinf⟩
    · exact .inr (.inl ⟨v, i, rfl, hi⟩)
    · exact .inr (.inr ⟨f, hf, hkind⟩)

theorem text_cases (fields : Fields) (name : String) :
    (∃ v, fields.get? name = some v ∧ v.hasLong = false ∧ v.text = .ok v.display) ∨
    ∃ f, (needed fields name >>= Value.text) = .error f ∧ f.kind ≠ .overflow := by
  cases hget : fields.get? name with
  | none => exact .inr ⟨.missingKey (.str name), by rw [needed_none hget]; rfl, nofun⟩
  | some v =>
    rw [needed_some hget]
    cases hlong : v.hasLong with
    | false => exact .inl ⟨v, rfl, hlong, by rw [Value.text, hlong]; rfl⟩
    | true =>
      refine .inr ⟨.longInteger, ?_, nofun⟩
      show v.text = _
      rw [Value.text, hlong]
      rfl

theorem Ends.read_eq (fields : Fields) : Ends.read fields = do
    let fromNode ← needed fields "fromNode" >>= Value.toInt
    let fromPort ← needed fields "fromPort" >>= Value.text
    let toNode ← needed fields "toNode" >>= Value.toInt
    let toPort ← needed fields "toPort" >>= Value.text
    return ⟨fromNode, .str fromPort, toNode, .str toPort⟩ := by
  simp only [Ends.read, bind_assoc]

theorem toInt_of_isInfinite {v : Value} (h : v.isInfinite = true) :
    v.toInt = .error (.overflow .infinity) := by
  rcases v.toInt_cases with ⟨-, hv⟩ | ⟨hfinite, -⟩
  · exact hv
  · rw [h] at hfinite
    cases hfinite

theorem read_endless (h : Endless fields) : Ends.read fields = .error (.overflow .infinity) := by
  rw [Ends.read_eq]
  cases h with
  | source given infinite =>
    rw [needed_some given]
    simp [bind, Except.bind, toInt_of_isInfinite infinite]
  | target source integer port short given infinite =>
    obtain ⟨i, hi⟩ := integer
    rw [needed_some source, needed_some port, needed_some given]
    simp [bind, Except.bind, hi, Value.text, short, toInt_of_isInfinite infinite]

/-- Ends that stop at no infinity are integers and texts, or the sender's fault. -/
theorem read_other (h : ¬ Endless fields) :
    (∃ a p b q, Ends.read fields = .ok ⟨.int a, .str p, .int b, .str q⟩) ∨
    ∃ f, Ends.read fields = .error f ∧ f.kind ≠ .overflow := by
  rw [Ends.read_eq]
  rcases integer_cases fields "fromNode" with ⟨v, hv, hinf⟩ | ⟨u, a, hu, ha⟩ | ⟨f, hf, hkind⟩
  · exact absurd (.source hv hinf) h
  · rcases text_cases fields "fromPort" with ⟨p, hp, hshort, hptext⟩ | ⟨f, hf, hkind⟩
    · rcases integer_cases fields "toNode" with ⟨v, hv, hinf⟩ | ⟨v, b, hv, hb⟩ | ⟨f, hf, hkind⟩
      · exact absurd (.target hu ⟨_, ha⟩ hp hshort hv hinf) h
      · rcases text_cases fields "toPort" with ⟨q, hq, -, hqtext⟩ | ⟨f, hf, hkind⟩
        · refine .inl ⟨a, p.display, b, q.display, ?_⟩
          rw [needed_some hu, needed_some hp, needed_some hv, needed_some hq]
          simp [bind, Except.bind, ha, hptext, hb, hqtext, pure, Except.pure]
        · refine .inr ⟨f, ?_, hkind⟩
          rw [needed_some hu, needed_some hp, needed_some hv, hf]
          simp [bind, Except.bind, ha, hptext, hb]
      · refine .inr ⟨f, ?_, hkind⟩
        rw [needed_some hu, needed_some hp, hf]
        simp [bind, Except.bind, ha, hptext]
    · refine .inr ⟨f, ?_, hkind⟩
      rw [needed_some hu, hf]
      simp [bind, Except.bind, ha]
  · exact .inr ⟨f, by rw [hf]; rfl, hkind⟩

/-! ## The request -/

theorem isWritten_port {p : Port} (hp : p.toDoc.isWritten = true) :
    p.kind.toDoc.isWritten = true ∧ p.dataType.toDoc.isWritten = true := by
  simp only [Port.toDoc, Value.isWritten_object, List.all_append, List.all_cons,
    Bool.and_eq_true] at hp
  exact ⟨hp.1.2.2.1, hp.1.2.2.2.1⟩

/-- What is written of a node that can be written. -/
structure Writable (n : Node) : Prop where
  id : (Value.int n.id).isWritten = true
  inputs : ∀ p ∈ n.inputs, p.toDoc.isWritten = true
  outputs : ∀ p ∈ n.outputs, p.toDoc.isWritten = true

theorem writable_of_mem {g : Graph} (hg : g.toDoc.isWritten = true) {n : Node} (hn : n ∈ g.nodes) :
    Writable n := by
  have hnode := (Graph.isWritten_toDoc hg).1 n hn
  simp only [Node.toDoc, Value.isWritten_object, Value.isWritten_list, List.all_cons,
    Bool.and_eq_true, List.all_map, List.all_eq_true, Function.comp_apply] at hnode
  obtain ⟨hid, -, -, -, hinputs, houtputs, -⟩ := hnode
  exact ⟨hid, hinputs, houtputs⟩

theorem isWritten_wire {w : Wire} (hid : w.id.isWritten = true)
    (hfrom : (Value.int w.fromNode).isWritten = true) (hto : (Value.int w.toNode).isWritten = true)
    (hfromKind : w.fromKind.toDoc.isWritten = true) (htoKind : w.toKind.toDoc.isWritten = true)
    (hfromType : w.fromType.isWritten = true) (htoType : w.toType.isWritten = true) :
    w.toDoc.isWritten = true := by
  unfold Wire.toDoc
  cases w.fromType.isNull <;> cases w.toType.isNull <;>
    simp [hid, hfrom, hto, hfromKind, htoKind, hfromType, htoType]

theorem isWritten_newWire {g : Graph} (hg : g.toDoc.isWritten = true) (tag : String) {a b : Int}
    {p q : String} {out input : Port}
    (h : g.check (.int a) (.str p) (.int b) (.str q) = .ok (out, input)) :
    (Graph.newWire tag a p b q out input).toDoc.isWritten = true := by
  obtain ⟨source, target, hs, ht, ho, hi, -⟩ := Graph.check_eq_ok.mp h
  have hsource := writable_of_mem hg (Graph.mem_of_node? hs)
  have htarget := writable_of_mem hg (Graph.mem_of_node? ht)
  obtain ⟨hokind, hotype⟩ := isWritten_port (hsource.outputs out (List.mem_of_find?_eq_some ho))
  obtain ⟨hikind, hitype⟩ := isWritten_port (htarget.inputs input (List.mem_of_find?_eq_some hi))
  have htype : ∀ v : Value, v.isWritten = true →
      (if out.kind.isData then v else .null).isWritten = true := by
    intro v hv
    split
    · exact hv
    · rfl
  refine isWritten_wire rfl ?_ ?_ hokind hikind (htype _ hotype) (htype _ hitype)
  · rw [← show source.id = _ from Graph.node?_id hs]
    exact hsource.id
  · rw [← show target.id = _ from Graph.node?_id ht]
    exact htarget.id

theorem addWire_answered (w : Studio) (b : Body) (h : ¬ Endless (b.fields?.getD [])) :
    (addWire w b).1.sealed.status = 201 ∨ (addWire w b).1.sealed.status = 400 ∨
      w.graph.toDoc.isWritten = false := by
  unfold addWire
  rcases read_other h with ⟨i, p, j, q, hread⟩ | ⟨f, hread, hkind⟩
  · rw [hread]
    simp only [Studio.connect, Graph.connect_int]
    cases hcheck : w.graph.check (.int i) (.str p) (.int j) (.str q) with
    | error r => exact .inr (.inl rfl)
    | ok ports =>
      cases hg : w.graph.toDoc.isWritten with
      | false => exact .inr (.inr rfl)
      | true =>
        left
        have hwritten := isWritten_newWire hg (Studio.tagText (w.tags + 1)) hcheck
        simp [edited, done, success, Answer.sealed, hwritten]
  · rw [hread]
    have hsender : isSendersFault f = true := by simpa [isSendersFault] using hkind
    simp only [hsender, if_true]
    exact .inr (.inl rfl)

/-! ## The event -/

/-- What comes of an event that asks for frames whose count is no infinity. -/
inductive Asked (s : Session) (count : Value) : Except Fault (List Event) × Session → Prop
  | answered {i : Int} {o : Outcome} (reads : count.toInt = .ok (.int i))
      (ran : (s.frames (.int i)).1 = .ok o) :
      Asked s count (.ok (outcomeEvents o), (s.frames (.int i)).2)
  | ended {i : Int} {f : Fault} (reads : count.toInt = .ok (.int i))
      (ran : (s.frames (.int i)).1 = .error f) (final : f.isFinal = true) :
      Asked s count (.error f, (s.frames (.int i)).2)
  | refused {f : Fault} (unread : count.toInt = .error f) :
      Asked s count (.ok [errorEvent "Field 'count' must be an integer"], s)

/-- **An event that asks for frames** runs as many as its count says or is told of, unless the count
is an infinity or the program ends everything. -/
theorem onEvent_frames (s : Session) (data : Value) :
    let count := (eventFields data).getD "count" (.int 1)
    (count.isInfinite = true → onEvent s "frames" data = (.error (.overflow .infinity), s)) ∧
    (count.isInfinite = false → Asked s count (onEvent s "frames" data)) := by
  intro count
  show (count.isInfinite = true → askFrames s count = _) ∧
    (count.isInfinite = false → Asked s count (askFrames s count))
  unfold askFrames
  refine ⟨fun h => ?_, fun h => ?_⟩
  · rw [toInt_of_isInfinite h]
    rfl
  · rcases count.toInt_cases with ⟨hinf, -⟩ | ⟨-, ⟨i, hi⟩ | ⟨f, hf, hkind⟩⟩
    · rw [h] at hinf
      cases hinf
    · rw [hi]
      cases hran : (s.frames (.int i)).1 with
      | ok o =>
        simp only [hran]
        exact .answered hi hran
      | error f =>
        simp only [hran]
        exact .ended hi hran (Session.isFinal_of_told hran)
    · have hother : (f.kind == .overflow) = false := by simpa using hkind
      rw [hf]
      simp only [hother]
      exact .refused hf

/-- **Who is told of a number that is none.** A request to add a wire is answered with success or
refused, and an event that asks for frames runs them or is told of. The exceptions are infinities:
the request then fails with nothing done, and the event raises. The event raises as well where the
program ends everything, and the request fails in a graph that cannot be written. -/
theorem answered_unless_infinite (w : Studio) (r : Request)
    (hroute : Route.find? r.segments = some .wires) (hmethod : Text.upper r.method = "POST")
    (s : Session) (data : Value) :
    let fields := r.body.fields?.getD []
    let count := (eventFields data).getD "count" (.int 1)
    (¬ Endless fields → (respond w r).1.status = 201 ∨ (respond w r).1.status = 400 ∨
      w.graph.toDoc.isWritten = false) ∧
    (Endless fields → respond w r = (failure, w)) ∧
    (count.isInfinite = false → Asked s count (onEvent s "frames" data)) ∧
    (count.isInfinite = true → onEvent s "frames" data = (.error (.overflow .infinity), s)) := by
  intro fields count
  have hperform : Route.perform? .wires { r with method := Text.upper r.method }
      (Text.upper r.method) w = some (addWire w r.body) := by
    rw [hmethod]
    rfl
  have hrespond := respond_of_perform? w r hroute (by rw [hmethod]; decide) hperform
  refine ⟨fun h => ?_, fun h => ?_, (onEvent_frames s data).2, (onEvent_frames s data).1⟩
  · rw [hrespond]
    exact addWire_answered w r.body h
  · rw [hrespond, addWire, read_endless h]
    rfl

def wireFromInfinity : Request :=
  { method := "POST", address := "/api/connections"
    body := .doc (.object [("fromNode", .float (1.0 / 0.0)), ("fromPort", .str "out"),
      ("toNode", .int 2), ("toPort", .str "in")]) }

/-- A session whose program asked for a frame that ends everything. -/
def leaving : Session :=
  { fresh.toSession with
    machine := { host := { frames := [(1, .handle (.thing "Quitter"))], nextFrame := 2 } } }

/-- A request for a wire from an infinity fails, and an event that asks for as many frames raises.
One frame that ends everything is not told of either. -/
theorem answered_unless_infinite_raised :
    Route.find? wireFromInfinity.segments = some .wires ∧
    (respond fresh wireFromInfinity).1.status = 500 ∧
    (∃ f s, onEvent fresh.toSession "frames" (.object [("count", .float (1.0 / 0.0))]) =
      (.error f, s) ∧ f.kind = .overflow) ∧
    ∃ f s, onEvent leaving "frames" (.object [("count", .int 1)]) = (.error f, s) ∧
      f.isFinal = true := by
  have hroute : Route.find? wireFromInfinity.segments = some .wires := by
    have hsegments : wireFromInfinity.segments = ["", "api", "connections"] := by decide +kernel
    rw [hsegments]
    rfl
  have hinfinite : (Value.float (1.0 / 0.0)).isInfinite = true := by decide +kernel
  have h := answered_unless_infinite fresh wireFromInfinity hroute rfl fresh.toSession
    (.object [("count", .float (1.0 / 0.0))])
  have hleaves := (answered_unless_infinite fresh wireFromInfinity hroute rfl leaving
    (.object [("count", .int 1)])).2.2.1 rfl
  refine ⟨hroute, ?_, ⟨.overflow .infinity, fresh.toSession, h.2.2.2 hinfinite, rfl⟩, ?_⟩
  · rw [h.2.1 (.source rfl hinfinite)]
    rfl
  · have hended : (leaving.frames (.int 1)).1.isOk = false := by decide +kernel
    generalize onEvent leaving "frames" (.object [("count", .int 1)]) = r at hleaves
    cases hleaves with
    | answered reads ran =>
      cases reads
      rw [ran] at hended
      cases hended
    | ended _ _ final => exact ⟨_, _, rfl, final⟩
    | refused unread => cases unread

end Api

end Sketchflow
