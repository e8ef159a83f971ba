import Sketchflow.Proofs.Graph.Joining

/-!
# What a document is loaded as

Loading runs through the entries of a document once and decides on each by what it has kept so far.
Here the outcome is described without that state: of the entries that qualify for a key, the first
is kept, and entries are kept in the order of the document (`Selects`).

* A node entry qualifies for its number if it is well formed and of a registered type
  (`NodeEntry`). What is kept of it is `Migrated`.
* A wire entry qualifies for the input it enters if it is well formed and joins ports of kept nodes
  that fit (`WireEntry`, `Ends`, `Fit`).
* **`load_selects`**: the graph of a document.
-/

namespace Sketchflow

open Fields List

variable {fields more : Fields} {g' : Graph} {entry : Value}

/-! ## Fields over fields -/

namespace Fields

theorem get?_cons (f : String × Value) (rest : Fields) (name : String) :
    get? (f :: rest) name = if f.1 = name then some f.2 else get? rest name := by
  by_cases h : f.1 = name <;> simp [get?, h]

theorem get?_eq_none {name : String} :
    fields.get? name = none ↔ name ∉ names fields := by
  simp only [get?, names, Option.map_eq_none_iff, find?_eq_none, beq_iff_eq, mem_map,
    not_exists, not_and]

theorem get?_set (name : String) (v : Value) (fields : Fields) (other : String) :
    (set name v fields).get? other = if name = other then some v else fields.get? other := by
  induction fields with
  | nil => simp [set, get?]
  | cons f rest ih =>
    unfold set
    by_cases hf : f.1 = name
    · by_cases ho : name = other <;> simp [hf, ho, get?_cons]
    · by_cases ho : name = other
      · subst ho
        simp [hf, get?_cons, ih]
      · simp [hf, get?_cons, ih, ho]

theorem get?_update (hd : more.Distinct) (fields : Fields) (name : String) :
    (fields.update more).get? name = (more.get? name).or (fields.get? name) := by
  induction more generalizing fields with
  | nil => rfl
  | cons f rest ih =>
    obtain ⟨hf, hrest⟩ := nodup_cons.mp hd
    rw [update, foldl_cons, ← update, ih hrest, get?_set, get?_cons]
    by_cases h : f.1 = name
    · rw [get?_eq_none.mpr (h ▸ hf)]
      simp [h]
    · simp [h]

theorem names_grow {f : String × Value} {rest : Fields} (hd : Distinct (f :: rest))
    (old : List String) :
    let grown := if f.1 ∈ old then old else old ++ [f.1]
    grown ++ (names rest).filter (· ∉ grown) = old ++ (f.1 :: names rest).filter (· ∉ old) := by
  obtain ⟨hf, -⟩ := nodup_cons.mp hd
  by_cases h : f.1 ∈ old
  · simp [h]
  · have hrest : (names rest).filter (· ∉ old ++ [f.1]) = (names rest).filter (· ∉ old) := by
      refine filter_congr fun name hname => ?_
      have hne : name ≠ f.1 := by
        rintro rfl
        exact hf hname
      simp [hne]
    simp only [h, if_false, hrest]
    simp [h]

theorem names_update (hd : more.Distinct) (fields : Fields) :
    names (fields.update more) = names fields ++ (names more).filter (· ∉ names fields) := by
  induction more generalizing fields with
  | nil => simp [update]
  | cons f rest ih =>
    rw [update, foldl_cons, ← update, ih (nodup_cons.mp hd).2, names_set, names_cons]
    exact names_grow hd (names fields)

end Fields

namespace Graph

/-! ## The first entry of each key -/

section Selection

variable {κ α : Type} {Qualifies : Value → κ → Prop} {From : Value → α → Prop} {key : α → κ}
variable {es : List Value} {kept : List α} {e : Value}

/-- The entry in this place qualifies for a key for which none before it does. -/
def First (Qualifies : Value → κ → Prop) (es : List Value) (i : Nat) : Prop :=
  ∃ e k, es[i]? = some e ∧ Qualifies e k ∧ ∀ j < i, ∀ d, es[j]? = some d → ¬Qualifies d k

/-- What is kept of a list of entries: in their order, exactly the first of each key. `picks` are
the places of the entries with what is kept of them. -/
def Selects (Qualifies : Value → κ → Prop) (From : Value → α → Prop) (es : List Value)
    (kept : List α) : Prop :=
  ∃ picks : List (Nat × α), kept = picks.map Prod.snd ∧ picks.Pairwise (fun u v => u.1 < v.1) ∧
    (∀ i, (∃ x, (i, x) ∈ picks) ↔ First Qualifies es i) ∧
    ∀ i x, (i, x) ∈ picks → ∃ e, es[i]? = some e ∧ From e x

theorem First.lt {i : Nat} (h : First Qualifies es i) : i < es.length := by
  obtain ⟨e, k, he, -⟩ := h
  exact (List.getElem?_eq_some_iff.mp he).1

theorem first_append {i : Nat} (hi : i < es.length) :
    First Qualifies (es ++ [e]) i ↔ First Qualifies es i := by
  have hget : ∀ j ≤ i, (es ++ [e])[j]? = es[j]? := fun j hj =>
    getElem?_append_left (by omega)
  unfold First
  simp only [hget i (Nat.le_refl i)]
  refine exists₂_congr fun d k => and_congr_right fun _ => and_congr_right fun _ => ?_
  exact forall₂_congr fun j hj => by rw [hget j (Nat.le_of_lt hj)]

theorem first_length : First Qualifies (es ++ [e]) es.length ↔
    ∃ k, Qualifies e k ∧ ∀ d ∈ es, ¬Qualifies d k := by
  have hget : ∀ j < es.length, (es ++ [e])[j]? = es[j]? := fun j hj =>
    getElem?_append_left hj
  unfold First
  simp only [getElem?_concat_length, Option.some.injEq]
  constructor
  · rintro ⟨d, k, rfl, hq, hno⟩
    refine ⟨k, hq, fun d hd => ?_⟩
    obtain ⟨j, hj, rfl⟩ := mem_iff_getElem.mp hd
    exact hno j hj _ ((hget j hj).trans (getElem?_eq_getElem hj))
  · rintro ⟨k, hq, hno⟩
    refine ⟨e, k, rfl, hq, fun j hj d hd => hno d ?_⟩
    rw [hget j hj] at hd
    exact mem_of_getElem? hd

theorem selects_nil : Selects Qualifies From [] [] :=
  ⟨[], rfl, List.Pairwise.nil, fun i => by simp [First], by simp⟩

theorem Selects.exists_entry (h : Selects Qualifies From es kept) {x : α} (hx : x ∈ kept) :
    ∃ e ∈ es, From e x := by
  obtain ⟨picks, rfl, -, -, hpicks⟩ := h
  obtain ⟨⟨i, x⟩, hmem, rfl⟩ := mem_map.mp hx
  obtain ⟨e, he, hfrom⟩ := hpicks i x hmem
  exact ⟨e, mem_of_getElem? he, hfrom⟩

theorem Selects.covers (h : Selects Qualifies From es kept)
    (hfrom : ∀ e x k, From e x → (Qualifies e k ↔ key x = k)) {d : Value} {k : κ} (hd : d ∈ es)
    (hq : Qualifies d k) : ∃ x ∈ kept, key x = k := by
  obtain ⟨picks, rfl, -, hfirst, hpicks⟩ := h
  obtain ⟨i, hi, rfl⟩ := mem_iff_getElem.mp hd
  -- The first entry that qualifies for the key is kept.
  induction i using Nat.strongRecOn with
  | ind i ih =>
    by_cases hearlier : ∃ j, ∃ hj : j < i, Qualifies (es[j]) k
    · obtain ⟨j, hj, hqj⟩ := hearlier
      exact ih j hj (by omega) (getElem_mem _) hqj
    · have hget : es[i]? = some es[i] := getElem?_eq_getElem hi
      obtain ⟨x, hx⟩ := (hfirst i).mpr ⟨es[i], k, hget, hq, fun j hj d hd hqd => by
        obtain ⟨_, rfl⟩ := List.getElem?_eq_some_iff.mp hd
        exact hearlier ⟨j, hj, hqd⟩⟩
      obtain ⟨e, he, hfromx⟩ := hpicks i x hx
      obtain rfl : es[i] = e := Option.some.inj (hget.symm.trans he)
      exact ⟨x, mem_map_of_mem hx, (hfrom _ x k hfromx).mp hq⟩

/-- One more entry, of which something is kept if it is the first of a key. -/
theorem Selects.concat (h : Selects Qualifies From es kept) (x? : Option α)
    (hlast : First Qualifies (es ++ [e]) es.length ↔ x?.isSome = true) (hx : ∀ x ∈ x?, From e x) :
    Selects Qualifies From (es ++ [e]) (kept ++ x?.toList) := by
  obtain ⟨picks, rfl, hsorted, hfirst, hpicks⟩ := h
  have hlt : ∀ i y, (i, y) ∈ picks → i < es.length := fun i y hy => ((hfirst i).mp ⟨y, hy⟩).lt
  refine ⟨picks ++ x?.toList.map (es.length, ·), by simp [Function.comp_def], ?_, fun i => ?_,
    fun i y hy => ?_⟩
  · refine pairwise_append.mpr ⟨hsorted, by cases x? <;> simp, fun u hu v hv => ?_⟩
    obtain ⟨x, -, rfl⟩ := mem_map.mp hv
    exact hlt u.1 u.2 hu
  · rcases Nat.lt_trichotomy i es.length with hi | rfl | hi
    · rw [first_append hi, ← hfirst i]
      simp [Nat.ne_of_gt hi]
    · have hno : ∀ y, (es.length, y) ∉ picks := fun y hy => Nat.lt_irrefl _ (hlt _ y hy)
      simp [hlast, hno, Option.isSome_iff_exists]
    · refine ⟨?_, fun h => ?_⟩
      · rintro ⟨y, hy⟩
        rcases mem_append.mp hy with hy | hy
        · exact absurd (hlt i y hy) (Nat.not_lt_of_gt hi)
        · obtain ⟨x, -, heq⟩ := mem_map.mp hy
          exact absurd (congrArg Prod.fst heq) (Nat.ne_of_lt hi)
      · have := h.lt
        simp only [length_append, length_singleton] at this
        omega
  · rcases mem_append.mp hy with hy | hy
    · obtain ⟨d, hd, hfromd⟩ := hpicks i y hy
      exact ⟨d, by rw [getElem?_append_left (hlt i y hy), hd], hfromd⟩
    · obtain ⟨x, hmem, heq⟩ := mem_map.mp hy
      cases heq
      exact ⟨e, by simp, hx y (Option.mem_toList.mp hmem)⟩

theorem Selects.push (key : α → κ) (h : Selects Qualifies From es kept)
    (hfrom : ∀ e x k, From e x → (Qualifies e k ↔ key x = k)) {x : α} (hx : From e x)
    (hnew : ∀ y ∈ kept, key y ≠ key x) : Selects Qualifies From (es ++ [e]) (kept ++ [x]) := by
  have hlast : First Qualifies (es ++ [e]) es.length := by
    refine first_length.mpr ⟨key x, (hfrom e x _ hx).mpr rfl, fun d hd hq => ?_⟩
    obtain ⟨y, hy, hkey⟩ := h.covers hfrom hd hq
    exact hnew y hy hkey
  exact h.concat (some x) (by simpa using hlast) (by simpa using hx)

theorem Selects.skip (key : α → κ) (h : Selects Qualifies From es kept)
    (hfrom : ∀ e x k, From e x → (Qualifies e k ↔ key x = k))
    (hold : ∀ k, Qualifies e k → ∃ y ∈ kept, key y = k) :
    Selects Qualifies From (es ++ [e]) kept := by
  have hlast : ¬First Qualifies (es ++ [e]) es.length := by
    rw [first_length]
    rintro ⟨k, hq, hno⟩
    obtain ⟨y, hy, hkey⟩ := hold k hq
    obtain ⟨d, hd, hfromd⟩ := h.exists_entry hy
    exact hno d hd ((hfrom d y k hfromd).mpr hkey)
  simpa using h.concat none (by simpa using hlast) nofun

end Selection

theorem loadAll_through {P : List Value → Graph → Prop}
    {step : Value → Graph → Except Warning Graph}
    (hok : ∀ done e g g', P done g → step e g = .ok g' → P (done ++ [e]) g')
    (herror : ∀ done e g w, P done g → step e g = .error w → P (done ++ [e]) g) :
    ∀ (rest done : List Value) (g : Graph), P done g → P (done ++ rest) (loadAll step rest g).1
  | [], done, g, h => by simpa [loadAll] using h
  | e :: rest, done, g, h => by
    have hassoc : done ++ e :: rest = (done ++ [e]) ++ rest := by simp
    unfold loadAll
    rw [hassoc]
    split
    · rename_i g' hstep
      exact loadAll_through hok herror rest _ g' (hok done e g g' h hstep)
    · rename_i w hstep
      exact loadAll_through hok herror rest _ g (herror done e g w h hstep)

/-! ## Nodes -/

variable {p : Palette} {g : Graph} {b : Blueprint} {n : Node}

/-- A well-formed node entry. -/
structure NodeEntry (entry : Value) (fields : Fields) (id : Int) (type : String) : Prop where
  object : entry = .object fields
  number : fields.get? "id" = some (.int id)
  positive : 1 ≤ id
  registered : fields.get? "type" = some (.str type)

theorem node_ofDoc_eq_ok {saved : Node} : Node.ofDoc entry = .ok saved ↔
    ∃ fields id type, NodeEntry entry fields id type ∧ saved = Node.ofFields id type fields := by
  constructor
  · intro h
    unfold Node.ofDoc at h
    split at h
    · rename_i fields
      split at h
      · rename_i id hid
        split_ifs at h with hpos
        split at h
        · rename_i type htype
          cases h
          exact ⟨fields, id, type, ⟨rfl, hid, by omega, htype⟩, rfl⟩
        · cases h
      · cases h
    · cases h
  · rintro ⟨fields, id, type, ⟨rfl, hid, hpos, htype⟩, rfl⟩
    simp [Node.ofDoc, hid, htype, show ¬id < 1 by omega]

/-- The fields of a saved port, if the entry is well formed. -/
def portFields? (entry : Value) : Option (String × Fields) :=
  match entry with
  | .object fields =>
    match Fields.get? fields "id" with
    | some (.str id) => some (id, fields)
    | _ => none
  | _ => none

/-- The first well-formed entry of a saved list of ports with this identifier. -/
def savedPort? (ports : Value) (id : String) : Option Fields :=
  match ports with
  | .list entries => ((entries.filterMap portFields?).find? (·.1 == id)).map (·.2)
  | _ => none

/-- The default of an input: the saved one, or that of the blueprint if none or null is saved. -/
def keptDefault (fields : Fields) (q : Port) : Value :=
  match (savedPort? (fields.getD "inputs" .null) q.id).bind (·.get? "default") with
  | some .null => q.default
  | some v => v
  | none => q.default

def savedProperties (fields : Fields) : Fields :=
  match fields.get? "properties" with
  | some (.object properties) => properties
  | _ => []

/-- The properties that are filled in where they are missing. -/
def seeds (type : String) (inputs : List Port) : Fields :=
  if isLiteral type then
    match Port.find? inputs "value" with
    | some q => [("value", q.default)]
    | none => []
  else if type = randomType then [("min", .int 1), ("max", .int 100)]
  else []

/-- A saved node brought up to date with its blueprint. -/
structure Migrated (b : Blueprint) (fields : Fields) (n : Node) : Prop where
  x : n.x = fields.getD "x" (.float 0.0)
  y : n.y = fields.getD "y" (.float 0.0)
  outputs : n.outputs = b.outputs
  inputs : n.inputs = b.inputs.map fun q => { q with default := keptDefault fields q }
  /-- Saved properties win over those of the blueprint, and both over what is filled in. -/
  property : (savedProperties fields).Distinct → ∀ name, n.properties.get? name =
    (((savedProperties fields).get? name).or (b.properties.get? name)).or
      ((seeds n.type n.inputs).get? name)
  /-- Properties stand in this order as well. -/
  names : (savedProperties fields).Distinct → n.properties.names = b.properties.names ++
    (savedProperties fields).names.filter (· ∉ b.properties.names) ++
    (seeds n.type n.inputs).names.filter fun name =>
      name ∉ b.properties.names ∧ name ∉ (savedProperties fields).names

theorem listOfDoc_eq (entries : List Value) : Port.listOfDoc (.list entries) =
    (entries.filterMap portFields?).map fun f => Port.ofFields (.str f.1) f.2 := by
  rw [map_filterMap]
  refine filterMap_congr fun entry _ => ?_
  cases entry with
  | object fields =>
    cases hid : Fields.get? fields "id" with
    | none => simp [portFields?, hid]
    | some v => cases v <;> simp [portFields?, hid]
  | _ => rfl

theorem find?_listOfDoc (ports : Value) (id : String) :
    (Port.find? (Port.listOfDoc ports) id).map Port.default =
      (savedPort? ports id).map (·.getD "default" .null) := by
  cases ports with
  | list entries =>
    rw [listOfDoc_eq, Port.find?, find?_map, savedPort?, Option.map_map, Option.map_map]
    rfl
  | _ => rfl

theorem keepDefault_eq (id : Int) (type : String) (fields : Fields) (q : Port) :
    keepDefault (Node.ofFields id type fields) q = { q with default := keptDefault fields q } := by
  have hfind := find?_listOfDoc (fields.getD "inputs" .null) q.id
  unfold keepDefault keptDefault
  rw [Node.input?, Node.ofFields]
  cases hold : Port.find? (Port.listOfDoc (fields.getD "inputs" .null)) q.id with
  | none =>
    rw [hold, Option.map_none, eq_comm, Option.map_eq_none_iff] at hfind
    simp [hfind]
  | some old =>
    rw [hold, Option.map_some, eq_comm, Option.map_eq_some_iff] at hfind
    obtain ⟨saved, hsaved, hdefault⟩ := hfind
    rw [hsaved, Option.bind_some]
    dsimp only
    rw [← hdefault, Fields.getD]
    cases hget : Fields.get? saved "default" with
    | none => rfl
    | some v => cases v <;> rfl

theorem setMissing_get? (name : String) (v : Value) (fields : Fields) (other : String) :
    (setMissing name v fields).get? other =
      (fields.get? other).or (if name = other then some v else none) := by
  unfold setMissing
  split_ifs with hhas ho ho
  · subst ho
    obtain ⟨w, hw⟩ := Option.ne_none_iff_exists'.mp
      (mt get?_eq_none.mp (not_not.mpr (has_iff.mp hhas)))
    simp [hw]
  · simp
  · subst ho
    rw [get?_eq_none.mpr (mt has_iff.mpr hhas), get?_set]
    simp
  · simp [get?_set, ho]

theorem names_setMissing (name : String) (v : Value) (fields : Fields) :
    (setMissing name v fields).names =
      if name ∈ fields.names then fields.names else fields.names ++ [name] := by
  unfold setMissing
  by_cases hhas : fields.has name = true
  · simp [hhas, has_iff.mp hhas]
  · rw [if_neg hhas, names_set]

/-- Fields with more filled in where they are missing. -/
def fill (fields more : Fields) : Fields :=
  more.foldl (fun acc f => setMissing f.1 f.2 acc) fields

theorem get?_fill (fields more : Fields) (name : String) :
    (fill fields more).get? name = (fields.get? name).or (more.get? name) := by
  induction more generalizing fields with
  | nil => simp [fill, Fields.get?]
  | cons f rest ih =>
    rw [fill, foldl_cons, ← fill, ih, setMissing_get?, get?_cons, Option.or_assoc]
    split_ifs <;> rfl

theorem names_fill (hd : more.Distinct) (fields : Fields) :
    (fill fields more).names = fields.names ++ more.names.filter (· ∉ fields.names) := by
  induction more generalizing fields with
  | nil => simp [fill]
  | cons f rest ih =>
    rw [fill, foldl_cons, ← fill, ih (nodup_cons.mp hd).2, names_setMissing,
      names_cons]
    exact names_grow hd fields.names

theorem seeds_distinct (type : String) (inputs : List Port) : (seeds type inputs).Distinct := by
  unfold seeds Fields.Distinct
  split_ifs
  · split <;> simp
  · simp
  · simp

theorem seed_eq_fill (n : Node) :
    seed n = { n with properties := fill n.properties (seeds n.type n.inputs) } := by
  have hsame : ∀ fields : Fields, fill fields [] = fields := fun _ => rfl
  unfold seed seeds
  by_cases hliteral : isLiteral n.type = true
  · cases hinput : Port.find? n.inputs "value" with
    | none =>
      have : n.type ≠ randomType := fun he => by
        rw [he, isLiteral_randomType] at hliteral
        cases hliteral
      simp [hliteral, Node.input?, hinput, hsame, this]
    | some q =>
      have : n.type ≠ randomType := fun he => by
        rw [he, isLiteral_randomType] at hliteral
        cases hliteral
      by_cases hhas : n.properties.has "value" = true
      · simp [hliteral, hhas, fill, setMissing, this]
      · simp [hliteral, hhas, fill, setMissing, Node.input?, hinput]
  · by_cases hrandom : n.type = randomType
    · simp [isLiteral_randomType, hrandom, fill]
    · simp [hliteral, hrandom, hsame]

theorem properties_ofFields (id : Int) (type : String) (fields : Fields) :
    (Node.ofFields id type fields).properties = savedProperties fields := by
  simp only [Node.ofFields, savedProperties, Fields.getD]
  cases fields.get? "properties" with
  | none => rfl
  | some v => cases v <;> rfl

theorem migrate_migrated (b : Blueprint) (id : Int) (type : String) (fields : Fields) :
    Migrated b fields (migrate b (Node.ofFields id type fields)) := by
  have hinputs : b.inputs.map (keepDefault (Node.ofFields id type fields)) =
      b.inputs.map fun q => { q with default := keptDefault fields q } :=
    map_congr_left fun q _ => keepDefault_eq id type fields q
  rw [migrate, seed_eq_fill, properties_ofFields]
  simp only [instantiate, hinputs]
  refine ⟨rfl, rfl, rfl, rfl, fun hd name => ?_, fun hd => ?_⟩
  · rw [get?_fill, get?_update hd]
  · rw [names_fill (seeds_distinct _ _), names_update hd]
    congr 1
    refine filter_congr fun name _ => ?_
    rw [decide_eq_decide]
    by_cases hb : name ∈ b.properties.names <;> simp [hb]

/-- An entry that qualifies for a number: well formed and of a registered type. -/
def NodeFits (p : Palette) (entry : Value) (id : Int) : Prop :=
  ∃ fields type b, NodeEntry entry fields id type ∧ p.find? type = some b

def NodeFrom (p : Palette) (entry : Value) (n : Node) : Prop :=
  ∃ fields b, NodeEntry entry fields n.id n.type ∧ p.find? n.type = some b ∧ Migrated b fields n

theorem nodeFits_iff {n : Node} {id : Int} (h : NodeFrom p entry n) :
    NodeFits p entry id ↔ n.id = id := by
  obtain ⟨fields, b, hentry, hb, -⟩ := h
  constructor
  · rintro ⟨fields', type, b', hentry', -⟩
    obtain rfl : fields = fields' := by simpa [hentry.object] using hentry'.object
    simpa [hentry.number] using hentry'.number
  · rintro rfl
    exact ⟨fields, _, b, hentry, hb⟩

theorem migrate_type (b : Blueprint) (saved : Node) : (migrate b saved).type = saved.type :=
  seed_type _

theorem loadNode_selects {done : List Value} {g : Graph}
    (h : Selects (NodeFits p) (NodeFrom p) done g.nodes) :
    (∀ g', loadNode p entry g = .ok g' →
      Selects (NodeFits p) (NodeFrom p) (done ++ [entry]) g'.nodes) ∧
    ∀ w, loadNode p entry g = .error w → Selects (NodeFits p) (NodeFrom p)
      (done ++ [entry]) g.nodes := by
  refine ⟨fun g' hok => ?_, fun w herror => ?_⟩
  · obtain ⟨saved, b, hd, hnew, hb, rfl⟩ := loadNode_eq_ok.mp hok
    obtain ⟨fields, id, type, hentry, rfl⟩ := node_ofDoc_eq_ok.mp hd
    refine h.push Node.id (fun e n k hn => nodeFits_iff hn) ?_ fun m hm => ?_
    · refine ⟨fields, b, ?_, ?_, migrate_migrated b id type fields⟩
      · rw [migrate_id, migrate_type]
        exact hentry
      · rw [migrate_type]
        exact hb
    · rw [migrate_id]
      exact node?_int_eq_none.mp hnew m hm
  · refine h.skip Node.id (fun e n k hn => nodeFits_iff hn) fun id hfits => ?_
    obtain ⟨fields, type, b, hentry, hb⟩ := hfits
    by_contra hno
    have hok := loadNode_eq_ok.mpr ⟨_, b, node_ofDoc_eq_ok.mpr ⟨fields, id, type, hentry, rfl⟩,
      node?_int_eq_none.mpr fun m hm he => hno ⟨m, hm, he⟩, hb, rfl⟩
    rw [herror] at hok
    cases hok

/-! ## Wires -/

/-- A well-formed wire entry; `id` is its identifier. -/
structure WireEntry (fields : Fields) (id : Value) (a : Int) (p : String) (b : Int) (q : String) :
    Prop where
  id_eq : fields.get? "id" = some id
  fromNode : fields.get? "fromNode" = some (.int a)
  fromPort : fields.get? "fromPort" = some (.str p)
  toNode : fields.get? "toNode" = some (.int b)
  toPort : fields.get? "toPort" = some (.str q)

theorem field_eq_ok {name : String} {v : Value} :
    Wire.field fields name = .ok v ↔ fields.get? name = some v := by
  unfold Wire.field
  cases fields.get? name <;> simp

theorem wireEntry_of_ofDoc {w : Wire} (h : Wire.ofDoc entry = .ok w) :
    ∃ fields id, entry = .object fields ∧ w.id = .str id.display ∧
      WireEntry fields id w.fromNode w.fromPort w.toNode w.toPort := by
  unfold Wire.ofDoc at h
  split at h
  · rename_i fields
    unfold Wire.ofFields at h
    obtain ⟨id, hid, h⟩ := exists_of_bind_eq_ok h
    obtain ⟨fromNode, hfromNode, h⟩ := exists_of_bind_eq_ok h
    obtain ⟨fromPort, hfromPort, h⟩ := exists_of_bind_eq_ok h
    obtain ⟨toNode, htoNode, h⟩ := exists_of_bind_eq_ok h
    obtain ⟨toPort, htoPort, h⟩ := exists_of_bind_eq_ok h
    obtain ⟨rfl, rfl, rfl, rfl, hw⟩ := join_eq_ok h
    exact ⟨fields, id, rfl, hw, ⟨field_eq_ok.mp hid, field_eq_ok.mp hfromNode,
      field_eq_ok.mp hfromPort, field_eq_ok.mp htoNode, field_eq_ok.mp htoPort⟩⟩
  · cases h

theorem WireEntry.ofDoc_eq {id : Value} {a b : Int} {p q : String}
    (h : WireEntry fields id a p b q) : ∃ w, Wire.ofDoc (.object fields) = .ok w ∧
      w.fromNode = a ∧ w.fromPort = p ∧ w.toNode = b ∧ w.toPort = q := by
  simp [Wire.ofDoc, Wire.ofFields, field_eq_ok.mpr h.id_eq, field_eq_ok.mpr h.fromNode,
    field_eq_ok.mpr h.fromPort, field_eq_ok.mpr h.toNode, field_eq_ok.mpr h.toPort, Wire.join,
    bind, Except.bind]

/-- An entry that qualifies for an input: well formed, between ports of nodes of the graph that
fit. -/
def WireFits (g : Graph) (entry : Value) (target : Int × String) : Prop :=
  ∃ fields id a p out input, entry = .object fields ∧ WireEntry fields id a p target.1 target.2 ∧
    Ends g a p target.1 target.2 out input ∧ Fit (decide (a = target.1)) out input

/-- A wire that an entry is loaded as: with its identifier as a text, its ends, and the marks of
the ports. -/
def WireFrom (g : Graph) (entry : Value) (w : Wire) : Prop :=
  ∃ fields id out input, entry = .object fields ∧
    WireEntry fields id w.fromNode w.fromPort w.toNode w.toPort ∧ w.id = .str id.display ∧
    Ends g w.fromNode w.fromPort w.toNode w.toPort out input ∧
    Fit (decide (w.fromNode = w.toNode)) out input ∧ mark w out input = w

def target (w : Wire) : Int × String := (w.toNode, w.toPort)

theorem wireFits_iff {w : Wire} {place : Int × String} (h : WireFrom g entry w) :
    WireFits g entry place ↔ target w = place := by
  obtain ⟨fields, id, out, input, rfl, hentry, -, hends, hfit, -⟩ := h
  constructor
  · rintro ⟨fields', id', a, p, out', input', hobject, hentry', -⟩
    obtain rfl : fields = fields' := by simpa using hobject
    have hnode : w.toNode = place.1 := by simpa [hentry.toNode] using hentry'.toNode
    have hport : w.toPort = place.2 := by simpa [hentry.toPort] using hentry'.toPort
    exact Prod.ext hnode hport
  · rintro rfl
    exact ⟨fields, id, _, _, out, input, rfl, hentry, hends, hfit⟩

theorem wireInto?_eq_none {b : Int} {q : String} :
    g.wireInto? (.int b) (.str q) = none ↔ ∀ w ∈ g.wires, target w ≠ (b, q) := by
  rw [wireInto?, find?_eq_none]
  refine forall₂_congr fun w _ => ?_
  rw [Wire.enters_iff, target, Ne, Prod.mk.injEq]

theorem loadWire_selects {done : List Value} (hd : (g.nodes.map Node.id).Nodup)
    (h : Selects (WireFits g) (WireFrom g) done g.wires) :
    (∀ g', loadWire entry g = .ok g' →
      Selects (WireFits g) (WireFrom g) (done ++ [entry]) g'.wires ∧ g'.nodes = g.nodes) ∧
    ∀ w, loadWire entry g = .error w →
      Selects (WireFits g) (WireFrom g) (done ++ [entry]) g.wires := by
  refine ⟨fun g' hok => ?_, fun w herror => ?_⟩
  · obtain ⟨w, out, input, hw, hcheck, hfree, rfl⟩ := loadWire_eq_ok.mp hok
    obtain ⟨fields, id, rfl, hid, hentry⟩ := wireEntry_of_ofDoc hw
    obtain ⟨hends, hfit⟩ := (check_ints_eq_ok hd).mp hcheck
    refine ⟨h.push target (fun e w place hw => wireFits_iff hw) ?_
      (wireInto?_eq_none.mp hfree), rfl⟩
    exact ⟨fields, id, out, input, rfl, hentry, hid, hends, hfit, rfl⟩
  · refine h.skip target (fun e w place hw => wireFits_iff hw) fun place hfits => ?_
    obtain ⟨fields, id, a, p, out, input, rfl, hentry, hends, hfit⟩ := hfits
    obtain ⟨v, hv, rfl, rfl, hb, hq⟩ := hentry.ofDoc_eq
    by_contra hno
    have hfree : ∀ w ∈ g.wires, target w ≠ place := fun w hw he => hno ⟨w, hw, he⟩
    have hok := loadWire_eq_ok.mpr ⟨v, out, input, hv, (check_ints_eq_ok hd).mpr
      ⟨by rw [hb, hq]; exact hends, by rw [hb]; exact hfit⟩,
      wireInto?_eq_none.mpr (by rw [hb, hq]; exact hfree), rfl⟩
    rw [herror] at hok
    cases hok

/-! ## Graphs -/

def itemsOf (fields : Fields) (name : String) : List Value :=
  match fields.get? name with
  | some (.list items) => items
  | _ => []

theorem entries_eq (fields : Fields) (name : String) :
    (entries fields name).1 = itemsOf fields name := by
  unfold entries itemsOf
  rw [Fields.getD]
  cases fields.get? name with
  | none => rfl
  | some v => cases v <;> rfl

/-- One more than the largest number of a node, one if there is none. -/
structure Floor (nodes : List Node) (floor : Int) : Prop where
  none : nodes = [] → floor = 1
  most : nodes ≠ [] → ∃ n ∈ nodes, floor = n.id + 1 ∧ ∀ m ∈ nodes, m.id ≤ n.id

theorem foldl_max_mem (rest : List Node) (n : Node) :
    ∃ m ∈ n :: rest, rest.foldl (fun most m => max most m.id) n.id = m.id := by
  induction rest generalizing n with
  | nil => exact ⟨n, by simp⟩
  | cons m rest ih =>
    rw [foldl_cons]
    rcases Int.le_total n.id m.id with h | h
    · obtain ⟨k, hk, heq⟩ := ih m
      rw [Int.max_eq_right h]
      exact ⟨k, mem_cons_of_mem _ hk, heq⟩
    · obtain ⟨k, hk, heq⟩ := ih n
      rw [Int.max_eq_left h]
      refine ⟨k, ?_, heq⟩
      rcases mem_cons.mp hk with rfl | hk
      · simp
      · simp [hk]

theorem floorId_floor (nodes : List Node) : Floor nodes (floorId nodes) where
  none h := by rw [h]; rfl
  most h := by
    obtain ⟨n, rest, rfl⟩ := exists_cons_of_ne_nil h
    obtain ⟨m, hm, heq⟩ := foldl_max_mem rest n
    have hfloor : floorId (n :: rest) = m.id + 1 := by rw [floorId, heq]
    refine ⟨m, hm, hfloor, fun k hk => ?_⟩
    have := lt_floorId (n :: rest) k hk
    omega

theorem ends_congr (h : g'.nodes = g.nodes) (a : Int) (p : String) (b : Int) (q : String)
    (out input : Port) : Ends g' a p b q out input ↔ Ends g a p b q out input := by
  constructor
  · rintro ⟨ho, hi⟩
    exact ⟨h ▸ ho, h ▸ hi⟩
  · rintro ⟨ho, hi⟩
    exact ⟨h ▸ ho, h ▸ hi⟩

theorem wireFits_congr (h : g'.nodes = g.nodes) : WireFits g' = WireFits g := by
  unfold WireFits
  simp only [ends_congr h]

theorem wireFrom_congr (h : g'.nodes = g.nodes) : WireFrom g' = WireFrom g := by
  unfold WireFrom
  simp only [ends_congr h]

theorem loadAll_nodes_select (p : Palette) (es : List Value) :
    Selects (NodeFits p) (NodeFrom p) es (loadAll (loadNode p) es empty).1.nodes ∧
      (loadAll (loadNode p) es empty).1.Numbered ∧
        (loadAll (loadNode p) es empty).1.wires = [] := by
  refine loadAll_through (P := fun done g => Selects (NodeFits p) (NodeFrom p) done g.nodes ∧
    g.Numbered ∧ g.wires = []) ?_ ?_ es [] empty ⟨selects_nil, empty_sound.toNumbered, rfl⟩
  · intro done e g g' ⟨hs, hn, hw⟩ hok
    refine ⟨(loadNode_selects hs).1 g' hok, loadNode_numbered hn hok, ?_⟩
    obtain ⟨_, _, _, _, _, rfl⟩ := loadNode_eq_ok.mp hok
    exact hw
  · intro done e g w ⟨hs, hrest⟩ herror
    exact ⟨(loadNode_selects hs).2 w herror, hrest⟩

theorem loadAll_wires_select (hd : (g.nodes.map Node.id).Nodup) (hw : g.wires = [])
    (es : List Value) :
    let g' := (loadAll loadWire es g).1
    Selects (WireFits g') (WireFrom g') es g'.wires ∧ g'.nodes = g.nodes := by
  refine loadAll_through (P := fun done g' => Selects (WireFits g') (WireFrom g') done g'.wires ∧
    g'.nodes = g.nodes) ?_ ?_ es [] g ⟨hw ▸ selects_nil, rfl⟩
  · intro done e g₁ g₂ ⟨hs, hn⟩ hok
    obtain ⟨hs', hn'⟩ := (loadWire_selects (hn ▸ hd) hs).1 g₂ hok
    rw [wireFits_congr hn', wireFrom_congr hn']
    exact ⟨hs', hn'.trans hn⟩
  · intro done e g₁ w ⟨hs, hn⟩ herror
    exact ⟨(loadWire_selects (hn ▸ hd) hs).2 w herror, hn⟩

/-- **The graph of a document.** Its nodes are, in order, those of the first entry of each number
among the well-formed ones of a registered type, brought up to date with their blueprints. Its wires
are, in order, those of the first entry into each input among the well-formed ones that join ports
of these nodes that fit. The next number is the saved one, if it is an integer, unless it is
taken. -/
theorem load_selects (p : Palette) (fields : Fields) :
    let g := (load p (.object fields)).1
    Selects (NodeFits p) (NodeFrom p) (itemsOf fields "nodes") g.nodes ∧
      Selects (WireFits g) (WireFrom g) (itemsOf fields "connections") g.wires ∧
      ∃ floor, Floor g.nodes floor ∧
        (∀ saved, fields.get? "nextNodeId" = some (.int saved) → g.nextId = max saved floor) ∧
        ((∀ saved, fields.get? "nextNodeId" ≠ some (.int saved)) → g.nextId = floor) := by
  obtain ⟨hnodes, hnumbered, hnone⟩ := loadAll_nodes_select p (itemsOf fields "nodes")
  obtain ⟨hwires, hsame⟩ :=
    loadAll_wires_select hnumbered.distinct hnone (itemsOf fields "connections")
  have hload : (load p (.object fields)).1 =
      let g := (loadAll loadWire (itemsOf fields "connections")
        (loadAll (loadNode p) (itemsOf fields "nodes") empty).1).1
      { g with nextId := nextIdOf fields g.nodes } := by
    simp only [load, ← entries_eq]
  generalize (loadAll loadWire (itemsOf fields "connections")
    (loadAll (loadNode p) (itemsOf fields "nodes") empty).1).1 = wired at hwires hsame hload
  rw [hload]
  intro g
  refine ⟨hsame ▸ hnodes, ?_, floorId g.nodes, floorId_floor _, fun saved h => ?_, fun h => ?_⟩
  · have hnodes : g.nodes = wired.nodes := rfl
    rw [wireFits_congr hnodes, wireFrom_congr hnodes]
    exact hwires
  · simp [g, nextIdOf, Fields.getD, h]
  · have hfloor : nextIdOf fields g.nodes = floorId g.nodes := by
      rw [nextIdOf, Fields.getD]
      cases hnext : fields.get? "nextNodeId" with
      | none => rfl
      | some v =>
        cases v with
        | int saved => exact absurd hnext (h saved)
        | _ => rfl
    exact hfloor

end Graph

end Sketchflow
