import Sketchflow.Proofs.Folder
import Sketchflow.Proofs.Graph.Values
import Sketchflow.Proofs.Json.RoundTrip
import Sketchflow.Studio

/-!
# Saved workspaces

* `save_eq_ok`: what a save that ends well leaves in the file; `save_eq_error`: why one fails;
  `save_single`: a name in a folder that is there can be saved unless a folder has it.
* **`load_saved`**: loading the file gives what loading the document of the graph gives.
-/

namespace Sketchflow

variable {base file name : String}

/-! ## Texts in files -/

theorem Utf8.decode_toUTF8 (s : String) : Utf8.decode s.toUTF8 = .ok s := by
  have h : String.fromUTF8? s.toUTF8 = some s := by
    have hvalid : s.toUTF8.IsValidUTF8 := s.isValidUTF8
    rw [String.fromUTF8?, dif_pos hvalid]
    rfl
  rw [decode, h]

theorem Text.unifyLineEndsFrom_of_plain (cs : List Char) (h : ∀ c ∈ cs, Json.isPlain c = true)
    (acc : List Char) : unifyLineEndsFrom acc cs = acc.reverse ++ cs := by
  induction cs generalizing acc with
  | nil => rw [unifyLineEndsFrom, List.append_nil]
  | cons c rest ih =>
    obtain ⟨hc, hrest⟩ := List.forall_mem_cons.mp h
    have hne : c ≠ '\r' := by
      rintro rfl
      exact absurd hc (by decide)
    rw [unifyLineEndsFrom, if_neg (by simpa using hne), ih hrest]
    · simp
    · rintro rest' rfl
      exact absurd rfl hne

theorem Text.unifyLineEnds_of_plain {s : String} (h : Json.IsPlain s) : unifyLineEnds s = s := by
  rw [unifyLineEnds, unifyLineEndsFrom_of_plain s.toList h]
  exact String.ofList_toList

namespace Workspace

variable {f f' : Folder} {path : Path} {g : Graph}

/-! ## Saving -/

theorem names_ne_nil_of_move {f₁ f₂ : Folder} (h : f₁.move (besides path) path = .ok f₂) :
    path.names ≠ [] := by
  intro hnames
  obtain ⟨s, l, bytes, hs, hl, -, -, hfree, -⟩ := Folder.move_eq_ok h
  obtain ⟨-, hwalk⟩ := Folder.locate_eq_ok.mp hs
  have hbesides : (besides path).names = [".tmp"] := by
    rw [besides, Path.append, hnames]
    rfl
  have hsplit : path.split? = none := by
    rw [Path.split?, hnames]
    rfl
  have hthere : f₁.isFolderAt (f₁.start path) = true := by
    rw [hbesides, List.foldlM_cons] at hwalk
    cases hstep : f₁.step (f₁.start path) ".tmp" with
    | ok k => exact (Folder.step_eq_ok hstep).1
    | error problem =>
      have hstep' : f₁.step (f₁.start (besides path)) ".tmp" = _ := hstep
      rw [hstep'] at hwalk
      cases hwalk
  unfold Folder.spot at hl
  cases hcheck : Folder.checkPath path with
  | error problem => rw [hcheck] at hl; cases hl
  | ok _ =>
    rw [hcheck, hsplit] at hl
    cases habsolute : path.absolute with
    | true => rw [habsolute] at hl; cases hl
    | false =>
      rw [habsolute] at hl
      cases hl
      have hthere' : f₁.isFolderAt f₁.location = true := by
        simpa [Folder.start, habsolute] using hthere
      rw [hthere'] at hfree
      cases hfree

theorem bytesOf_eq_ok (h : g.toDoc.isWritten = true) :
    bytesOf g = .ok (Json.writeIndented g.toDoc).toUTF8 := by
  rw [bytesOf, Option.isNone_iff_eq_none.mp h]

theorem fill_eq_ok (h : fill f path g = (.ok (), f')) :
    g.toDoc.isWritten = true ∧ f'.read path = .ok (Json.writeIndented g.toDoc).toUTF8 := by
  unfold fill bytesOf at h
  split at h
  · cases h
  · rename_i bytes hbytes
    split at hbytes
    · cases hbytes
    · rename_i hwritten
      cases hbytes
      split at h
      · cases h
      · rename_i filled hwrite
        split at h
        · cases h
        · rename_i moved hmove
          cases h
          exact ⟨by simp [Value.isWritten, hwritten],
            Folder.read_moved hwrite hmove (names_ne_nil_of_move hmove)⟩

theorem place_of_save (h : save f path g = (.ok file, f')) :
    place f path g = (.ok (), f') := by
  unfold save at h
  split at h
  · rename_i hplace
    cases h
    exact hplace
  · split at h
    · cases h
    · split at h <;> cases h

/-- **What a save leaves**: the text of the document. -/
theorem save_eq_ok (h : save f path g = (.ok file, f')) :
    g.toDoc.isWritten = true ∧ f'.read path = .ok (Json.writeIndented g.toDoc).toUTF8 := by
  have hplace := place_of_save h
  unfold place at hplace
  split at hplace
  · cases hplace
  · split at hplace
    · cases hplace
    · exact fill_eq_ok hplace

def Failure.isOfFolder : Failure → Bool
  | .notSaved _ (.folder _) => true
  | .leftover _ => true
  | _ => false

theorem place_eq_error (hwritten : g.toDoc.isWritten = true) {cause : SaveCause}
    (h : place f path g = (.error cause, f')) : ∃ fault, cause = .folder fault := by
  have hbytes := bytesOf_eq_ok hwritten
  unfold place fill at h
  rw [hbytes] at h
  split at h
  · cases h
    exact ⟨_, rfl⟩
  · split at h
    · cases h
      exact ⟨_, rfl⟩
    · simp only at h
      split at h
      · cases h
        exact ⟨_, rfl⟩
      · split at h
        · cases h
          exact ⟨_, rfl⟩
        · cases h

/-- **Why a save fails**: for what is in the folder. -/
theorem save_eq_error (hwritten : g.toDoc.isWritten = true) {e : Failure}
    (h : save f path g = (.error e, f')) : e.isOfFolder = true := by
  unfold save at h
  split at h
  · cases h
  · rename_i cause f₁ hplace
    obtain ⟨fault, rfl⟩ := place_eq_error hwritten hplace
    split at h
    · cases h
      rfl
    · split at h <;>
      · cases h
        rfl

theorem fileOf_eq_ok :
    fileOf name = .ok file ↔ isName (dropEnding name) = true ∧ file =
      dropEnding name ++ ending := by
  simp only [fileOf]
  split
  · rename_i h
    simp [h, eq_comm]
  · rename_i h
    simp [h]

theorem proper_of_isName (h : isName base = true) (tail : String) :
    Folder.Proper (base ++ tail) := by
  unfold isName at h
  split at h
  · cases h
  · rename_i c rest hbase
    simp only [Bool.and_eq_true] at h
    have hne : ∀ t : String, t.toList.head?.all (! Char.isAlphanum ·) = true →
        base ++ tail ≠ t := by
      rintro t ht rfl
      rw [String.toList_append, hbase] at ht
      simp [h.1.1] at ht
    exact ⟨hne "" rfl, hne "." rfl, hne ".." rfl⟩

theorem null_not_mem_of_isName (h : isName base = true) : '\x00' ∉ base.toList := by
  unfold isName at h
  split at h
  · cases h
  · rename_i c rest hbase
    simp only [Bool.and_eq_true] at h
    intro hmem
    rw [hbase] at hmem
    rcases List.mem_cons.mp hmem with rfl | hmem
    · exact absurd h.1.1 (by decide)
    · exact absurd (List.all_eq_true.mp h.1.2 _ hmem) (by decide)

/-- Both the file of a workspace and the one beside it have names that fit, unless they are too
long. -/
theorem fits_of_fileOf (h : fileOf name = .ok file)
    (hsize : file.utf8ByteSize + 4 ≤ Folder.nameBound) :
    Folder.Fits file ∧ Folder.Fits (file ++ ".tmp") := by
  obtain ⟨hname, rfl⟩ := fileOf_eq_ok.mp h
  have hnull : ∀ tail : String, '\x00' ∉ tail.toList →
      '\x00' ∉ (dropEnding name ++ tail).toList := by
    intro tail htail
    rw [String.toList_append, List.mem_append, not_or]
    exact ⟨null_not_mem_of_isName hname, htail⟩
  refine ⟨⟨proper_of_isName hname _, by omega, hnull _ (by decide)⟩, ?_⟩
  rw [String.append_assoc]
  refine ⟨proper_of_isName hname _, ?_, hnull _ (by decide)⟩
  rw [← String.append_assoc, String.utf8ByteSize_append]
  exact hsize

theorem makeFolders_of_isThere (h : f.isThere = true) :
    f.makeFolders { names := [] } = (.ok (), f) := by
  have hspot : f.spot { names := [] } = .ok (.named f.location) := by
    rw [Folder.spot, Folder.checkPath_here]
    rfl
  have hlocate : f.locate { names := [] } = .ok f.location :=
    Folder.locate_eq_ok.mpr ⟨Folder.checkPath_here, rfl⟩
  have hentry : f.entry? f.location = some .folder := Folder.isFolderAt_eq_true.mp h
  have hmake : f.makeFolder { names := [] } =
    .error ⟨.taken, f.fullName { names := [] }, none⟩ := by
    unfold Folder.makeFolder Folder.failing
    rw [hspot]
    simp [bind, Except.bind, hentry]
  show f.makeMissing { names := [] } = _
  unfold Folder.makeMissing Folder.at?
  rw [hmake, hlocate]
  simp [hentry]

/-- **A workspace can be saved** in a folder that is there, unless folders have its name or the one
beside it. -/
theorem save_single (hwritten : g.toDoc.isWritten = true) (hthere : f.isThere = true)
    (hfile : Folder.Fits file) (hbeside : Folder.Fits (file ++ ".tmp"))
    (hfree : f.isFolderAt (f.location ++ [file]) = false)
    (hfree' : f.isFolderAt (f.location ++ [file ++ ".tmp"]) = false) :
    ∃ f', save f (.single file) g = (.ok (f'.fullName (.single file)), f') := by
  have hbytes := bytesOf_eq_ok hwritten
  have hbesides : besides (.single file) = .single (file ++ ".tmp") := rfl
  have hparent : (Path.single file).parent = { names := [] } := rfl
  -- The file beside is made, then filled, then moved.
  let made := f.put (f.location ++ [file ++ ".tmp"]) (.file .empty)
  let filled := made.put (f.location ++ [file ++ ".tmp"])
    (.file (Json.writeIndented g.toDoc).toUTF8)
  have hmade : made.isThere = true := (Folder.keeps_put hfree' _).isThere hthere
  have hbeside' : made.isFolderAt (f.location ++ [file ++ ".tmp"]) = false :=
    Folder.isFolderAt_put hfree' hfree' _
  have hfilled : filled.isThere = true := (Folder.keeps_put hbeside' _).isThere hmade
  have htarget : filled.isFolderAt (f.location ++ [file]) = false :=
    Folder.isFolderAt_put hbeside' (Folder.isFolderAt_put hfree' hfree _) _
  have hwrite₁ : f.write (.single (file ++ ".tmp")) .empty = .ok made :=
    Folder.write_single hthere hbeside hfree' _
  have hwrite₂ : made.write (.single (file ++ ".tmp")) (Json.writeIndented g.toDoc).toUTF8 =
      .ok filled :=
    Folder.write_single hmade hbeside hbeside' _
  obtain ⟨moved, hmove⟩ : ∃ moved, filled.move (.single (file ++ ".tmp")) (.single file) =
      .ok moved := by
    rw [Folder.move, Folder.locate_single hfilled hbeside, Folder.spot_single hfilled hfile]
    have hentry : filled.entry? (filled.location ++ [file ++ ".tmp"]) = some (.file _) :=
      Folder.entry?_put_self hbeside' _
    have hfree : filled.isFolderAt (filled.location ++ [file]) = false := htarget
    simp [bind, Except.bind, hentry, Folder.endsInSlash_single hfile.toProper, hfree]
  refine ⟨moved, ?_⟩
  rw [save, place, hparent, makeFolders_of_isThere hthere, hbesides]
  simp only [hwrite₁, fill, hbytes, hbesides, hwrite₂, hmove]

/-! ## What a save leaves alone -/

theorem makeFolders_here {r : Except Folder.Fault Unit}
    (h : f.makeFolders { names := [] } = (r, f')) : f' = f ∨ f' = f.put f.location .folder := by
  have hmissing : f.makeMissing { names := [] } = (r, f') := h
  unfold Folder.makeMissing at hmissing
  split at hmissing
  · rename_i made hmade
    cases hmissing
    have hspot : f.spot { names := [] } = .ok (.named f.location) := by
      rw [Folder.spot, Folder.checkPath_here]
      rfl
    unfold Folder.makeFolder Folder.failing at hmade
    rw [hspot] at hmade
    simp only [bind, Except.bind] at hmade
    split at hmade
    · rename_i hput
      split at hput
      · cases hput
      · cases hput
        cases hmade
        exact .inr rfl
    · cases hmade
  · split at hmissing <;>
    · cases hmissing
      exact .inl rfl

/-- Both steps of a save that end well change two names only: the file and the one beside it. -/
theorem fill_frame (hfile : Folder.Proper file)
    (hbeside : Folder.Proper (file ++ ".tmp")) (h : fill f (.single file) g = (.ok (), f')) :
    f'.location = f.location ∧ ∀ name, name ≠ file → name ≠ file ++ ".tmp" →
      f'.entry? (f.location ++ [name]) = f.entry? (f.location ++ [name]) := by
  unfold fill at h
  split at h
  · cases h
  · split at h
    · cases h
    · rename_i filled hwrite
      split at h
      · cases h
      · rename_i moved hmove
        cases h
        obtain ⟨s, hs, -, -, -, rfl⟩ := Folder.write_eq_ok hwrite
        obtain ⟨s', l, _, hs', hl, -, -, -, rfl⟩ := Folder.move_eq_ok hmove
        obtain rfl := Folder.spot_proper hbeside hs
        obtain ⟨-, rfl⟩ := Folder.locate_proper hbeside hs'
        obtain rfl := Folder.spot_proper hfile hl
        refine ⟨rfl, fun name hne hne' => ?_⟩
        have hk : f.location ++ [name] ≠ f.location ++ [file] := by simpa using hne
        have hk' : f.location ++ [name] ≠ f.location ++ [file ++ ".tmp"] := by simpa using hne'
        exact (Folder.entry?_put hk _).trans
          ((Folder.entry?_erase hk').trans (Folder.entry?_put hk' _))

theorem save_frame {path : String} (hfile : Folder.Proper file)
    (hbeside : Folder.Proper (file ++ ".tmp")) (h : save f (.single file) g = (.ok path, f')) :
    f'.location = f.location ∧ ∀ name, name ≠ file → name ≠ file ++ ".tmp" →
      f'.entry? (f.location ++ [name]) = f.entry? (f.location ++ [name]) := by
  have hplace := place_of_save h
  unfold place at hplace
  split at hplace
  · cases hplace
  · rename_i made hmade
    split at hplace
    · cases hplace
    · rename_i begun hbegun
      -- The folder itself may be made; no name in it is touched.
      have hmade' : made.location = f.location ∧ ∀ name,
          made.entry? (f.location ++ [name]) = f.entry? (f.location ++ [name]) := by
        rcases makeFolders_here hmade with rfl | rfl
        · exact ⟨rfl, fun _ => rfl⟩
        · exact ⟨rfl, fun name => Folder.entry?_put (by simp) _⟩
      obtain ⟨s, hs, -, -, -, rfl⟩ := Folder.write_eq_ok hbegun
      obtain rfl := Folder.spot_proper hbeside hs
      obtain ⟨hlocation, hentry⟩ := fill_frame hfile hbeside hplace
      refine ⟨hlocation.trans hmade'.1, fun name hne hne' => ?_⟩
      have hk : made.location ++ [name] ≠ made.location ++ [file ++ ".tmp"] := by simpa using hne'
      have hname : f'.entry? (made.location ++ [name]) =
          Folder.entry? (made.put (made.location ++ [file ++ ".tmp"])
          (.file .empty)) (made.location ++ [name]) := hentry name hne hne'
      rw [← hmade'.2 name, ← hmade'.1, hname]
      exact Folder.entry?_put hk _

/-! ## Names -/

theorem hasEnding_append (base : String) : hasEnding (base ++ ending) = true := by
  rw [hasEnding, String.toList_append, List.isSuffixOf_iff_suffix]
  exact List.suffix_append _ _

theorem dropEnding_append (base : String) : dropEnding (base ++ ending) = base := by
  rw [dropEnding, if_pos (hasEnding_append base), String.length_append, Nat.add_sub_cancel,
    String.toList_append, ← String.length_toList, List.take_left, String.ofList_toList]

theorem dropEnding_of_not (h : hasEnding name = false) : dropEnding name = name := by
  rw [dropEnding, h]
  rfl

theorem exists_of_hasEnding (h : hasEnding name = true) :
    ∃ base, name = base ++ ending := by
  rw [hasEnding, List.isSuffixOf_iff_suffix] at h
  obtain ⟨front, hfront⟩ := h
  refine ⟨String.ofList front, ?_⟩
  rw [← String.toList_inj, String.toList_append, String.toList_ofList (l := front), hfront]

theorem hasEnding_besides (file : String) : hasEnding (file ++ ".tmp") = false := by
  rw [Bool.eq_false_iff, ne_eq, hasEnding, String.toList_append, List.isSuffixOf_iff_suffix,
    ← List.reverse_prefix, List.reverse_append]
  intro h
  have hhead : 'n' = 'p' := (List.cons_prefix_cons.mp h).1
  exact absurd hhead (by decide)

theorem isName_of_append (h : isName (base ++ ending) = true) : isName base = true := by
  have hoccurs : ∀ part front back : List Char, Text.occursIn part (front ++ back) = false →
      Text.occursIn part front = false := by
    intro part front back hnone
    induction front with
    | nil =>
      cases back with
      | nil => exact hnone
      | cons c rest =>
        rw [List.nil_append, Text.occursIn, Bool.or_eq_false_iff] at hnone
        cases part with
        | nil => cases hnone.1
        | cons d part => rfl
    | cons c rest ih =>
      rw [List.cons_append, Text.occursIn, Bool.or_eq_false_iff] at hnone
      rw [Text.occursIn, ih hnone.2, Bool.or_false, Bool.eq_false_iff, ne_eq,
        List.isPrefixOf_iff_prefix]
      intro hstart
      rw [Bool.eq_false_iff, ne_eq, List.isPrefixOf_iff_prefix] at hnone
      exact hnone.1 (hstart.trans (List.prefix_append (c :: rest) back))
  have hlist : (base ++ ending).toList = base.toList ++ ending.toList := String.toList_append
  unfold isName at h ⊢
  rw [hlist] at h
  cases hbase : base.toList with
  | nil =>
    rw [hbase] at h
    cases h
  | cons c rest =>
    rw [hbase, List.cons_append] at h
    simp only [Bool.and_eq_true, Bool.not_eq_true', List.all_append, Text.contains, hlist] at h ⊢
    exact ⟨⟨h.1.1, h.1.2.1⟩, hoccurs _ _ _ h.2⟩

theorem mem_list : name ∈ list f ↔ f.isThere = true ∧ name ++ ending ∈ f.names := by
  unfold list
  split
  · rename_i hthere
    rw [Folder.sorted, List.mem_mergeSort, List.mem_map]
    simp only [hthere, true_and, List.mem_filter]
    constructor
    · rintro ⟨file, ⟨hmem, hfile⟩, rfl⟩
      obtain ⟨base, rfl⟩ := exists_of_hasEnding hfile
      rwa [dropEnding_append]
    · exact fun h => ⟨name ++ ending, ⟨h, hasEnding_append name⟩, dropEnding_append name⟩
  · rename_i hthere
    simp [hthere]

/-! ## Loading -/

theorem readDoc_of_read {doc : Value} (hdoc : doc.isDocument = true)
    (h : f.read path = .ok (Json.writeIndented doc).toUTF8) : readDoc f path = .ok doc := by
  have hplain : Json.IsPlain (Json.writeIndented doc) := Json.isPlain_writeValue 0 doc
  rw [readDoc, h]
  simp only [Utf8.decode_toUTF8, Text.unifyLineEnds_of_plain hplain, Json.read_writeIndented hdoc]

end Workspace

theorem Studio.load_of_readDoc {w : Studio} {path : Path} {doc : Value}
    (h : Workspace.readDoc w.folder path = .ok doc) :
    w.load path = (.ok (w.loadDoc doc).2, (w.loadDoc doc).1) := by
  rw [load, Workspace.load, h]
  rfl

namespace Graph

open Workspace

/-- **Saving and loading a file.** -/
theorem load_saved {p : Palette} (hp : PropertiesDistinct p) (edits : List Edit)
    (hvalues : ∀ v ∈ (edited p edits).values, v.isDocument = true) (f : Folder) (path : Path) :
    let g := edited p edits
    (∀ file f', save f path g = (.ok file, f') →
      f'.read path = .ok (Json.writeIndented g.toDoc).toUTF8 ∧
      Json.IsPlain (Json.writeIndented g.toDoc) ∧
      Json.read (Json.writeIndented g.toDoc) = .ok g.toDoc ∧
      ∀ w : Studio, w.folder = f' →
        w.load path = (.ok (w.loadDoc g.toDoc).2, (w.loadDoc g.toDoc).1)) ∧
    (∀ e f', save f path g = (.error e, f') → e.isOfFolder = true) ∧
    (∀ name file, fileOf name = .ok file → file.utf8ByteSize + 4 ≤ Folder.nameBound →
      f.isThere = true → f.isFolderAt (f.location ++ [file]) = false →
      f.isFolderAt (f.location ++ [file ++ ".tmp"]) = false →
      ∃ f', save f (.single file) g = (.ok (f'.fullName (.single file)), f')) := by
  intro g
  have hdoc : g.toDoc.isDocument = true := by
    refine isDocumentBy_toDoc (fun n hn => ?_) hvalues
    obtain ⟨b, -, hb⟩ := (edited_current hp edits).node n hn
    exact hb.distinct
  have hwritten : g.toDoc.isWritten = true := (Value.isDocument_iff.mp hdoc).2
  refine ⟨fun file f' hsave => ?_, fun e f' hsave => save_eq_error hwritten hsave,
    fun name file hname hsize hthere hfree hfree' => ?_⟩
  · have hread := (save_eq_ok hsave).2
    refine ⟨hread, Json.isPlain_writeValue 0 _, Json.read_writeIndented hdoc, fun w hw => ?_⟩
    refine Studio.load_of_readDoc (readDoc_of_read hdoc ?_)
    rw [hw]
    exact hread
  · obtain ⟨hfits, hfits'⟩ := fits_of_fileOf hname hsize
    exact save_single hwritten hthere hfits hfits' hfree hfree'

/-- A text node with a property that holds lists and objects, saved in an empty folder. -/
theorem load_saved_text :
    let edits : List Edit := [.create (.str "string") (.int 3) (.float 4.5),
      .setProperty (.int 1) (.str "note") (.list [.object [("", .null), ("\u007f", .bool true)],
        .list [], .str "\t\"\\ é 🎨", .int (-12), .float 12])]
    let f : Folder := { name := "", entries := [(["here", "folder"], .folder)] }
    ∃ f', save f (.single "demo.json") (edited .standard edits) =
        (.ok (f'.fullName (.single "demo.json")), f') ∧
      ∀ w : Studio, w.folder = f' → w.load (.single "demo.json") =
        (.ok (w.loadDoc (edited .standard edits).toDoc).2,
          (w.loadDoc (edited .standard edits).toDoc).1) := by
  intro edits f
  have h := load_saved standard_propertiesDistinct edits (by decide +kernel) f (.single "demo.json")
  obtain ⟨f', hsave⟩ := h.2.2 "demo" "demo.json" (fileOf_eq_ok.mpr (by decide +kernel))
    (by decide +kernel) (by decide +kernel) (by decide +kernel) (by decide +kernel)
  exact ⟨f', hsave, (h.1 _ f' hsave).2.2.2⟩

end Graph

end Sketchflow
