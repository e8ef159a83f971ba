import Sketchflow.Proofs.Api.Editing
import Sketchflow.Proofs.Workspace

/-!
# Workspaces by request

A workspace is saved in the file of its name less the ending, but it is looked for in the list by
its whole name.

* `Made` are the graphs that edits make, `Regular` the palettes that such graphs can be saved on.
* `Shelved` tells what is in the folder after saves: the last save of each file.
* **`respond_load_saved`**: what the request to load answers right after a save, and after any
  number of saves.
-/

namespace Sketchflow

open Folder List Value Workspace

namespace Graph

/-- A palette whose blueprints are such as documents hold. -/
structure Regular (p : Palette) : Prop where
  inputs : InputsDistinct p
  properties : PropertiesDistinct p
  values : BlueprintsHold Value.isShort p

theorem standard_regular : Regular Palette.standard :=
  ⟨standard_inputsDistinct, standard_propertiesDistinct, standard_blueprintsHold⟩

/-- A graph that edits made of values that have a text. -/
def Made (p : Palette) (g : Graph) : Prop :=
  ∃ edits : List Edit, (∀ e ∈ edits, e.isDocumentBy (fun _ => true) = true) ∧ g = edited p edits

variable {p : Palette} {g : Graph}

theorem Made.isDocument (hp : Regular p) (h : Made p g) (hwritten : g.toDoc.isWritten = true) :
    g.toDoc.isDocument = true := by
  obtain ⟨edits, hedits, rfl⟩ := h
  exact isDocument_iff.mpr ⟨edited_isJson hp.properties hp.values.json hedits, hwritten⟩

theorem Made.isWritten_load (hp : Regular p) (h : Made p g) (hdoc : g.toDoc.isDocument = true) :
    (load p g.toDoc).1.toDoc.isWritten = true := by
  obtain ⟨edits, -, rfl⟩ := h
  have hload := isDocument_load_toDoc hp.inputs hp.properties hp.values (edited_sound edits)
    (edited_current hp.properties edits) hdoc
  exact (isDocument_iff.mp hload).2

end Graph

namespace Api

open Workspace (fileOf hasEnding dropEnding ending isName)

def bytesOf (g : Graph) : ByteArray :=
  (Json.writeIndented g.toDoc).toUTF8

/-- A request with the method of those that do something. -/
def Request.Posts (r : Request) (route : Route) : Prop :=
  Route.find? r.segments = some route ∧ Text.upper r.method = "POST"

variable {w : Studio} {r : Request} {name file : String}

theorem respond_save (h : r.Posts (.workspaceSave name)) :
    respond w r = ((saveWorkspace w name).1.sealed, (saveWorkspace w name).2) := by
  refine respond_of_perform? w r h.1 ?_ ?_
  · rw [h.2]
    decide
  · rw [h.2]
    rfl

theorem respond_load (h : r.Posts (.workspaceLoad name)) :
    respond w r = ((loadWorkspace w name).1.sealed, (loadWorkspace w name).2) := by
  refine respond_of_perform? w r h.1 ?_ ?_
  · rw [h.2]
    decide
  · rw [h.2]
    rfl

/-! ## Saving -/

theorem sealed_workspaceFailure (e : Workspace.Failure) :
    (workspaceFailure e).sealed = workspaceFailure e := by
  unfold workspaceFailure
  split <;> rfl

theorem saved_of_status (h : r.Posts (.workspaceSave name))
    (hstatus : (respond w r).1.status = 200) : ∃ file path folder, fileOf name = .ok file ∧
      Workspace.save w.folder (.single file) w.graph = (.ok path, folder) ∧
      (respond w r).2 = { w with folder := folder } := by
  have hfailure : ∀ e, (workspaceFailure e).sealed.status ≠ 200 := by
    intro e
    rw [sealed_workspaceFailure, workspaceFailure]
    split <;> simp [refuse, failure]
  rw [respond_save h] at hstatus ⊢
  unfold saveWorkspace Studio.save at hstatus ⊢
  cases hfile : fileOf name with
  | error e =>
    rw [hfile] at hstatus
    exact absurd hstatus (hfailure e)
  | ok file =>
    rw [hfile] at hstatus
    simp only at hstatus ⊢
    cases hsave : Workspace.save w.folder (.single file) w.graph with
    | mk result folder =>
      rw [hsave] at hstatus
      cases result with
      | error e => exact absurd hstatus (hfailure e)
      | ok path => exact ⟨file, path, folder, rfl, hsave, rfl⟩

/-! ## Loading -/

theorem requestRun_graph (s : Session) : s.requestRun.2.graph = s.graph := by
  unfold Session.requestRun Session.cancelTimer
  split
  · split <;> rfl
  · rfl

theorem loadWorkspace_of_readDoc {doc : Value} (hfile : fileOf name = .ok file)
    (hlisted : name ∈ Workspace.list w.folder)
    (hread : Workspace.readDoc w.folder (.single file) = .ok doc)
    (hwritten : (Graph.load w.palette doc).1.toDoc.isWritten = true) :
    (loadWorkspace w name).1.sealed.status = 200 ∧
      (loadWorkspace w name).2.graph = (Graph.load w.palette doc).1 := by
  have hload := Studio.load_of_readDoc hread
  have hcontains : (Workspace.list w.folder).contains name = true := contains_iff_mem.mpr hlisted
  unfold loadWorkspace
  rw [hfile]
  simp only [hcontains, if_true, hload]
  refine ⟨?_, ?_⟩
  · have hsuccess : (success (w.loadDoc doc).1.graph.toDoc).isWritten = true := by
      have hgraph : (w.loadDoc doc).1.graph.toDoc.isWritten = true := hwritten
      simpa [success] using hgraph
    simp only [Answer.sealed, edited, done, hsuccess]
    rfl
  · exact requestRun_graph _

theorem loadWorkspace_of_missing (hfile : fileOf name = .ok file)
    (hlisted : name ∈ Workspace.list w.folder)
    (hmissing : w.folder.entry? (w.folder.location ++ [file]) = none) :
    (loadWorkspace w name).1.sealed.status = 400 ∧ (loadWorkspace w name).2 = w := by
  obtain ⟨hname, rfl⟩ := fileOf_eq_ok.mp hfile
  have hnull : '\x00' ∉ (dropEnding name ++ ending).toList := by
    rw [String.toList_append, mem_append, not_or]
    exact ⟨null_not_mem_of_isName hname, by decide⟩
  obtain ⟨fault, hread, hproblem⟩ :=
    read_missing (proper_of_isName hname ending) hnull hmissing
  have hload : w.load (.single (dropEnding name ++ ending)) = (.error (.notLoaded
      (w.folder.fullName (.single (dropEnding name ++ ending))) (.folder fault)), w) := by
    unfold Studio.load Workspace.load Workspace.readDoc
    rw [hread]
    simp [hproblem, Except.map]
  have hcontains : (Workspace.list w.folder).contains name = true := contains_iff_mem.mpr hlisted
  unfold loadWorkspace
  rw [hfile]
  simp only [hcontains, if_true, hload, sealed_workspaceFailure]
  exact ⟨rfl, trivial⟩

/-! ## Saves one after the other -/

/-- What is in a folder after saves, the last one first: the last save of each file. -/
structure Shelved (p : Palette) (f : Folder) (log : List (String × Graph)) : Prop where
  entry : ∀ file, hasEnding file = true →
    f.entry? (f.location ++ [file]) = (log.lookup file).map fun g => .file (bytesOf g)
  graph : ∀ file g, log.lookup file = some g → Graph.Made p g ∧ g.toDoc.isDocument = true
  file : ∀ file g, log.lookup file = some g →
    Folder.Fits file ∧ ∃ base, isName base = true ∧ file = base ++ ending

variable {p : Palette} {f f' : Folder} {log : List (String × Graph)} {g : Graph}

theorem lookup_cons_ne {file other : String} (h : other ≠ file) :
    ((file, g) :: log).lookup other = log.lookup other := by
  rw [lookup_cons, beq_eq_false_iff_ne.mpr h]

theorem lookup_cons_self (file : String) : ((file, g) :: log).lookup file = some g := by
  rw [lookup_cons, beq_self_eq_true]

theorem read_of_save {path : String} (hfile : fileOf name = .ok file)
    (hsave : Workspace.save f (.single file) g = (.ok path, f')) :
    Folder.Fits file ∧ f'.isThere = true ∧
      f'.entry? (f'.location ++ [file]) = some (.file (bytesOf g)) := by
  obtain ⟨hname, rfl⟩ := fileOf_eq_ok.mp hfile
  have hproper := proper_of_isName hname ending
  obtain ⟨-, hread⟩ := save_eq_ok hsave
  obtain ⟨hthere, hentry⟩ := entry?_of_read hproper hread
  refine ⟨?_, hthere, hentry⟩
  unfold Folder.read Folder.failing at hread
  cases hlocate : f'.locate (.single (dropEnding name ++ ending)) with
  | error _ => rw [hlocate] at hread; cases hread
  | ok l => exact fits_of_locate hproper hlocate

theorem frame_of_save {path : String} (hfile : fileOf name = .ok file)
    (hsave : Workspace.save f (.single file) g = (.ok path, f')) :
    f'.location = f.location ∧ ∀ other, hasEnding other = true → other ≠ file →
      f'.entry? (f.location ++ [other]) = f.entry? (f.location ++ [other]) := by
  obtain ⟨hname, rfl⟩ := fileOf_eq_ok.mp hfile
  have hproper := proper_of_isName hname ending
  have hbeside : Folder.Proper (dropEnding name ++ ending ++ ".tmp") := by
    rw [String.append_assoc]
    exact proper_of_isName hname _
  obtain ⟨hlocation, hentry⟩ := save_frame hproper hbeside hsave
  refine ⟨hlocation, fun other hother hne => hentry other hne ?_⟩
  rintro rfl
  rw [hasEnding_besides] at hother
  cases hother

theorem Shelved.save (hp : Graph.Regular p) (h : Shelved p f log) {path : String}
    (hfile : fileOf name = .ok file) (hmade : Graph.Made p g)
    (hsave : Workspace.save f (.single file) g = (.ok path, f')) :
    Shelved p f' ((file, g) :: log) := by
  obtain ⟨hfits, -, hself⟩ := read_of_save hfile hsave
  obtain ⟨hlocation, hothers⟩ := frame_of_save hfile hsave
  have hdoc := hmade.isDocument hp (save_eq_ok hsave).1
  refine ⟨fun other hother => ?_, fun other g' hg' => ?_, fun other g' hg' => ?_⟩
  · by_cases hne : other = file
    · subst hne
      rw [lookup_cons_self, hself]
      rfl
    · rw [lookup_cons_ne hne, hlocation, hothers other hother hne, h.entry other hother]
  · by_cases hne : other = file
    · subst hne
      rw [lookup_cons_self] at hg'
      cases hg'
      exact ⟨hmade, hdoc⟩
    · rw [lookup_cons_ne hne] at hg'
      exact h.graph other g' hg'
  · by_cases hne : other = file
    · subst hne
      obtain ⟨hname, hbase⟩ := fileOf_eq_ok.mp hfile
      exact ⟨hfits, dropEnding name, hname, hbase⟩
    · rw [lookup_cons_ne hne] at hg'
      exact h.file other g' hg'

theorem Shelved.of_listed (h : Shelved p f log) (hlisted : name ∈ Workspace.list f) :
    isName name = true ∧ (log.lookup (name ++ ending)).isSome = true := by
  obtain ⟨-, hnames⟩ := mem_list.mp hlisted
  rw [mem_names, h.entry _ (hasEnding_append name), Option.isSome_map] at hnames
  obtain ⟨g, hg⟩ := Option.isSome_iff_exists.mp hnames
  obtain ⟨-, base, hbase, heq⟩ := h.file _ g hg
  refine ⟨?_, hnames⟩
  rw [← dropEnding_append name, heq, dropEnding_append]
  exact hbase

theorem Shelved.fileOf_listed (h : Shelved p f log) (hlisted : name ∈ Workspace.list f) :
    fileOf name = .ok (dropEnding name ++ ending) := by
  obtain ⟨hname, -⟩ := h.of_listed hlisted
  refine fileOf_eq_ok.mpr ⟨?_, rfl⟩
  cases hending : hasEnding name with
  | false => rwa [dropEnding_of_not hending]
  | true =>
    obtain ⟨base, rfl⟩ := exists_of_hasEnding hending
    rw [dropEnding_append]
    exact isName_of_append hname

/-- **What loading a listed workspace gives**: the last save of the file that it is looked for
in. -/
theorem Shelved.load (hp : Graph.Regular p) (h : Shelved p w.folder log) (hw : w.palette = p)
    (hlisted : name ∈ Workspace.list w.folder) :
    match log.lookup (dropEnding name ++ ending) with
    | some g => (loadWorkspace w name).1.sealed.status = 200 ∧
        (loadWorkspace w name).2.graph = (Graph.load p g.toDoc).1
    | none => (loadWorkspace w name).1.sealed.status = 400 ∧ (loadWorkspace w name).2 = w := by
  have hfile := h.fileOf_listed hlisted
  have hentry := h.entry _ (hasEnding_append (dropEnding name))
  cases hlookup : log.lookup (dropEnding name ++ ending) with
  | none =>
    rw [hlookup] at hentry
    exact loadWorkspace_of_missing hfile hlisted hentry
  | some g =>
    rw [hlookup] at hentry
    obtain ⟨hmade, hdoc⟩ := h.graph _ g hlookup
    have hthere := (mem_list.mp hlisted).1
    have hread := read_of_locate (locate_single hthere (h.file _ g hlookup).1) hentry
    have hloaded := loadWorkspace_of_readDoc hfile hlisted (readDoc_of_read hdoc hread)
      (by rw [hw]; exact hmade.isWritten_load hp hdoc)
    rwa [hw] at hloaded

/-- Studios after saves in a folder in which nothing was, the last one first. Whatever else is done
leaves the folder alone. -/
inductive Saves (p : Palette) : Studio → List (String × Graph) → Prop
  | fresh {w : Studio} (palette : w.palette = p)
      (empty : ∀ name, w.folder.entry? (w.folder.location ++ [name]) = none) : Saves p w []
  | other {w w' : Studio} {log : List (String × Graph)} (before : Saves p w log)
      (palette : w'.palette = p) (folder : w'.folder = w.folder) : Saves p w' log
  | save {w : Studio} {log : List (String × Graph)} {r : Request} {name file : String}
      (before : Saves p w log) (made : Graph.Made p w.graph) (posts : r.Posts (.workspaceSave name))
      (status : (respond w r).1.status = 200) (file_eq : fileOf name = .ok file) :
      Saves p (respond w r).2 ((file, w.graph) :: log)

theorem Saves.shelved (hp : Graph.Regular p) (h : Saves p w log) :
    w.palette = p ∧ Shelved p w.folder log := by
  induction h with
  | fresh palette empty =>
    exact ⟨palette, fun file _ => empty file, nofun, nofun⟩
  | other before palette folder ih =>
    rw [folder]
    exact ⟨palette, ih.2⟩
  | save before made posts status file_eq ih =>
    obtain ⟨file, path, folder, hfile, hsave, hstudio⟩ := saved_of_status posts status
    rw [hfile] at file_eq
    cases file_eq
    rw [hstudio]
    exact ⟨ih.1, ih.2.save hp hfile made hsave⟩

/-- **Loading what was saved.** Right after a save under a name, loading that name gives the graph
back if the name is without the ending, or if there is a file of the whole name as well; if not, the
workspace is not found. After any number of saves in a folder in which nothing was, every listed
name without the ending loads its last save. A listed name with the ending loads the last save of
the file with that very name, and if there is none it is refused. -/
theorem respond_load_saved (hp : Graph.Regular p) :
    (∀ (w : Studio) (name : String) (save load : Request), w.palette = p → Graph.Made p w.graph →
      save.Posts (.workspaceSave name) → load.Posts (.workspaceLoad name) →
      (respond w save).1.status = 200 →
      let w' := (respond w save).2
      (hasEnding name = false ∨ name ++ ending ∈ w.folder.names →
        (respond w' load).1.status = 200 ∧
        (respond w' load).2.graph = (Graph.load p w.graph.toDoc).1) ∧
      (hasEnding name = true → name ++ ending ∉ w.folder.names →
        (respond w' load).1.status = 404 ∧ (respond w' load).2 = w')) ∧
    (∀ (w : Studio) (log : List (String × Graph)), Saves p w log →
      ∀ name ∈ Workspace.list w.folder, ∀ load : Request, load.Posts (.workspaceLoad name) →
      (hasEnding name = false → (log.lookup (dropEnding name ++ ending)).isSome = true) ∧
      match log.lookup (dropEnding name ++ ending) with
      | some g => (respond w load).1.status = 200 ∧
          (respond w load).2.graph = (Graph.load p g.toDoc).1
      | none => (respond w load).1.status = 400 ∧ (respond w load).2 = w) := by
  constructor
  · intro w name save load hw hmade hsaves hloads hstatus
    obtain ⟨file, path, folder, hfile, hsave, hstudio⟩ := saved_of_status hsaves hstatus
    intro w'
    have hw' : w' = { w with folder := folder } := hstudio
    clear_value w'
    subst hw'
    rw [respond_load hloads]
    obtain ⟨hfits, hthere, hself⟩ := read_of_save hfile hsave
    obtain ⟨hlocation, hothers⟩ := frame_of_save hfile hsave
    have hdoc := hmade.isDocument hp (Workspace.save_eq_ok hsave).1
    obtain ⟨-, rfl⟩ := Workspace.fileOf_eq_ok.mp hfile
    -- A name with the ending is the name of its own file.
    have hne : hasEnding name = true → name ++ ending ≠ dropEnding name ++ ending := by
      intro hending heq
      obtain ⟨base, rfl⟩ := Workspace.exists_of_hasEnding hending
      rw [Workspace.dropEnding_append] at heq
      have hlength := congrArg String.length heq
      simp [String.length_append, ending] at hlength
    have hnames : hasEnding name = true →
        (name ++ ending ∈ folder.names ↔ name ++ ending ∈ w.folder.names) := by
      intro hending
      rw [Folder.mem_names, Folder.mem_names, hlocation,
        hothers _ (Workspace.hasEnding_append name) (hne hending)]
    constructor
    · intro hcase
      have hlisted : name ∈ Workspace.list folder := by
        refine Workspace.mem_list.mpr ⟨hthere, ?_⟩
        cases hending : hasEnding name with
        | false =>
          rw [Folder.mem_names]
          rw [Workspace.dropEnding_of_not hending] at hself
          rw [hself]
          rfl
        | true =>
          rcases hcase with hcase | hcase
          · rw [hending] at hcase
            cases hcase
          · exact (hnames hending).mpr hcase
      have hread := Folder.read_of_locate (Folder.locate_single hthere hfits) hself
      have hloaded := loadWorkspace_of_readDoc (w := { w with folder := folder }) hfile hlisted
        (Workspace.readDoc_of_read hdoc hread) (by
          change (Graph.load w.palette w.graph.toDoc).1.toDoc.isWritten = true
          rw [hw]
          exact hmade.isWritten_load hp hdoc)
      rw [← hw]
      exact hloaded
    · intro hending hnone
      have hunlisted : (Workspace.list folder).contains name = false := by
        rw [Bool.eq_false_iff, ne_eq, contains_iff_mem]
        exact fun hlisted => hnone ((hnames hending).mp (Workspace.mem_list.mp hlisted).2)
      unfold loadWorkspace
      rw [hfile]
      simp only [hunlisted]
      exact ⟨rfl, rfl⟩
  · intro w log hsaves name hlisted load hloads
    obtain ⟨hw, hshelved⟩ := hsaves.shelved hp
    rw [respond_load hloads]
    refine ⟨fun hending => ?_, hshelved.load hp hw hlisted⟩
    rw [Workspace.dropEnding_of_not hending]
    exact (hshelved.of_listed hlisted).2

/-- A studio with one node, its folder there and empty. -/
def withFolder : Studio :=
  { fresh with
    graph := Graph.edited .standard [.create (.str "start") (.int 0) (.int 0)]
    folder := { name := "", entries := [(["here", "folder"], .folder)] } }

def saving (name : String) : Request :=
  { method := "POST", address := "/api/workspaces/" ++ name ++ "/save" }

def loading (name : String) : Request :=
  { method := "POST", address := "/api/workspaces/" ++ name ++ "/load" }

theorem upper_post : Text.upper "POST" = "POST" := by decide +kernel

theorem posts_saving {s : String} (h : (saving s).segments = ["", "api", "workspaces", s, "save"])
    (hne : s ≠ "") : (saving s).Posts (.workspaceSave s) := by
  refine ⟨?_, upper_post⟩
  have hfind : Route.find? ["", "api", "workspaces", s, "save"] =
      if s == "" then none else some (.workspaceSave s) := rfl
  rw [h, hfind, if_neg (by simpa using hne)]

theorem posts_loading {s : String} (h : (loading s).segments = ["", "api", "workspaces", s, "load"])
    (hne : s ≠ "") : (loading s).Posts (.workspaceLoad s) := by
  refine ⟨?_, upper_post⟩
  have hfind : Route.find? ["", "api", "workspaces", s, "load"] =
      if s == "" then none else some (.workspaceLoad s) := rfl
  rw [h, hfind, if_neg (by simpa using hne)]

theorem made_withFolder : Graph.Made .standard withFolder.graph :=
  ⟨[.create (.str "start") (.int 0) (.int 0)], by decide, rfl⟩

theorem withFolder_saves (hposts : (saving name).Posts (.workspaceSave name))
    (hfile : fileOf name = .ok file) (hsize : file.utf8ByteSize + 4 ≤ Folder.nameBound) :
    (respond withFolder (saving name)).1.status = 200 := by
  obtain ⟨hfits, hfits'⟩ := fits_of_fileOf hfile hsize
  obtain ⟨f', hsave⟩ := save_single (g := withFolder.graph) (f := withFolder.folder)
    (by decide +kernel) (by decide +kernel) hfits hfits' rfl rfl
  rw [respond_save hposts]
  unfold saveWorkspace Studio.save
  rw [hfile]
  simp only [hsave]
  rfl

/-- A workspace is found under `demo`. Under `demo.json` it is saved but not found, and saved under
`demo.json.json` it is listed as `demo.json`, which is refused. -/
theorem respond_load_saved_demo :
    ((respond withFolder (saving "demo")).1.status = 200 ∧
      (respond (respond withFolder (saving "demo")).2 (loading "demo")).1.status = 200) ∧
    ((respond withFolder (saving "demo.json")).1.status = 200 ∧
      (respond (respond withFolder (saving "demo.json")).2 (loading "demo.json")).1.status = 404) ∧
    (respond withFolder (saving "demo.json.json")).1.status = 200 ∧
      "demo.json" ∈ Workspace.list (respond withFolder (saving "demo.json.json")).2.folder ∧
      (respond (respond withFolder (saving "demo.json.json")).2 (loading "demo.json")).1.status =
        400 := by
  have hregular := Graph.standard_regular
  have hsave := posts_saving (s := "demo") (by decide +kernel) (by decide)
  have hsave₁ := posts_saving (s := "demo.json") (by decide +kernel) (by decide)
  have hsave₂ := posts_saving (s := "demo.json.json") (by decide +kernel) (by decide)
  have hload := posts_loading (s := "demo") (by decide +kernel) (by decide)
  have hload₁ := posts_loading (s := "demo.json") (by decide +kernel) (by decide)
  have hfile : fileOf "demo" = .ok "demo.json" := Workspace.fileOf_eq_ok.mpr (by decide +kernel)
  have hfile₁ : fileOf "demo.json" = .ok "demo.json" :=
    Workspace.fileOf_eq_ok.mpr (by decide +kernel)
  have hfile₂ : fileOf "demo.json.json" = .ok "demo.json.json" :=
    Workspace.fileOf_eq_ok.mpr (by decide +kernel)
  have hstatus := withFolder_saves hsave hfile (by decide +kernel)
  have hstatus₁ := withFolder_saves hsave₁ hfile₁ (by decide +kernel)
  have hstatus₂ := withFolder_saves hsave₂ hfile₂ (by decide +kernel)
  have hright :=
    (respond_load_saved hregular).1 withFolder "demo" _ _ rfl made_withFolder hsave hload
    hstatus
  have hright₁ := (respond_load_saved hregular).1 withFolder "demo.json" _ _ rfl made_withFolder
    hsave₁ hload₁ hstatus₁
  have hsaves :=
    Saves.save (.fresh (w := withFolder) rfl fun _ => rfl) made_withFolder hsave₂ hstatus₂
    hfile₂
  have hlisted : "demo.json" ∈
      Workspace.list (respond withFolder (saving "demo.json.json")).2.folder := by
    obtain ⟨file, path, folder, hfile, hsaved, hstudio⟩ := saved_of_status hsave₂ hstatus₂
    rw [hfile₂] at hfile
    cases hfile
    obtain ⟨-, hthere, hentry⟩ := read_of_save hfile₂ hsaved
    rw [hstudio, Workspace.mem_list]
    refine ⟨hthere, ?_⟩
    have hjson : "demo.json" ++ ending = "demo.json.json" := by decide +kernel
    rw [hjson, Folder.mem_names, hentry]
    rfl
  have hright₂ := ((respond_load_saved hregular).2 _ _ hsaves "demo.json" hlisted _ hload₁).2
  have hdrop : dropEnding "demo.json" ++ ending = "demo.json" := by decide +kernel
  rw [hdrop, lookup_cons_ne (by decide)] at hright₂
  exact ⟨⟨hstatus, (hright.1 (.inl (by decide +kernel))).1⟩,
    ⟨hstatus₁, (hright₁.2 (by decide +kernel) (by decide +kernel)).1⟩, hstatus₂, hlisted, hright₂.1⟩

end Api

end Sketchflow
