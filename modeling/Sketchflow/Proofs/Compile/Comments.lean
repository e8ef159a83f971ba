import Sketchflow.Proofs.Compile.Plan
import Sketchflow.Proofs.Script.Sentences

/-!
# Comments in programs

The text of a program is cut into lines, which are moved in under the header of a function. A line
of a listing can become several lines that way, if it quotes a text with line ends. A line of a
comment has none, so it stays one line and a comment.

* `physical` are the lines that a line of a listing becomes.
* **`cutLines_definitionText`**: the lines of the function are those of the listing, one by one.
* **`comments_stay`**: no comment becomes anything else, whatever it quotes.
-/

namespace Sketchflow.Compile

open List Listing Text

open Listing (write dropEmptyEnd commentLines commentsAll unindented IsRemark)
open Script (definitionText joinLines)

/-! ## Cutting and indenting line by line -/

theorem cutLinesFrom_done (cs line : List Char) (done : List (List Char)) :
    cutLinesFrom line done cs = done.reverse ++ cutLinesFrom line [] cs := by
  induction cs generalizing line done with
  | nil => cases line <;> simp [cutLinesFrom]
  | cons c cs ih =>
    rw [cutLinesFrom, cutLinesFrom]
    split
    · rw [ih [] (_ :: done), ih [] [_]]
      simp
    · exact ih ..

theorem cutLinesFrom_feed (a line : List Char) (done : List (List Char)) : ∃ pieces last, ∀ b,
    cutLinesFrom line done (a ++ '\n' :: b) = pieces ++ (last ++ ['\n']) :: cutLines b := by
  induction a generalizing line done with
  | nil =>
    refine ⟨done.reverse, line.reverse, fun b => ?_⟩
    rw [nil_append, cutLinesFrom, if_pos (by rfl), cutLinesFrom_done, cutLines]
    simp
  | cons c a ih =>
    have hhead : ∀ b, (a ++ '\n' :: b).head? = (a ++ ['\n']).head? := by cases a <;> simp
    simp only [cons_append, cutLinesFrom, hhead]
    split
    · exact ih [] _
    · exact ih _ done

theorem cutLines_feed (a b : List Char) :
    cutLines (a ++ '\n' :: b) = cutLines (a ++ ['\n']) ++ cutLines b := by
  obtain ⟨pieces, last, h⟩ := cutLinesFrom_feed a [] []
  simp only [cutLines] at h ⊢
  rw [h b, h []]
  simp [cutLinesFrom]

/-- The lines that a line of a listing becomes. -/
def physical (line : String) : List (List Char) :=
  cutLines (indentLines "    ".toList (line.toList ++ ['\n']))

theorem cutLines_indentLines (lines : List String) (rest : List Char) :
    cutLines (indentLines "    ".toList (joinLines (lines.map String.toList)) ++ rest) =
      lines.flatMap physical ++ cutLines rest := by
  induction lines with
  | nil => rfl
  | cons line lines ih =>
    -- What a line becomes ends with a line feed as well.
    obtain ⟨front, hfront⟩ : ∃ front,
        indentLines "    ".toList (line.toList ++ ['\n']) = front ++ ['\n'] := by
      obtain ⟨pieces, last, h⟩ := cutLinesFrom_feed line.toList [] []
      have hnil : cutLines [] = [] := rfl
      rw [indentLines, cutLines, h, flatMap_append, flatMap_cons, hnil,
        flatMap_nil, append_nil]
      split
      · exact ⟨_, (append_assoc ..).symm⟩
      · rw [← append_assoc "    ".toList]
        exact ⟨_, (append_assoc ..).symm⟩
    have hcut : indentLines "    ".toList (joinLines ((line :: lines).map String.toList)) =
        front ++ '\n' :: indentLines "    ".toList (joinLines (lines.map String.toList)) := by
      rw [map_cons, Script.joinLines_cons, indentLines, cutLines_feed, flatMap_append]
      show indentLines _ _ ++ indentLines _ _ = _
      rw [hfront, append_assoc]
      rfl
    rw [hcut, append_assoc, cons_append, cutLines_feed, ih, flatMap_cons, physical,
      hfront, append_assoc]

/-- The lines of a program, around those of its text. -/
def framed (lines : List (List Char)) : List (List Char) :=
  "def nodecanvas_program(ctx, variables, runtime):\n".toList ::
    (lines ++ [['\n'], "    pass\n".toList])

/-- **The lines of a program are those of its listing**, one by one. -/
theorem cutLines_definitionText (l : Listing) : cutLines (definitionText l.render) =
    framed ((dropEmptyEnd l.lines.toList).flatMap physical) := by
  have hheader : ("def " ++ Script.programName ++ "("
      ++ joinWith ", " Script.programParameters ++ "):\n").toList =
        "def nodecanvas_program(ctx, variables, runtime):".toList ++ ['\n'] := by
    decide +kernel
  have hbody (cs : List Char) : (String.ofList cs).toList = cs := String.toList_ofList
  rw [Listing.render, Script.join_lines, definitionText, hheader, hbody (joinLines _),
    append_assoc, singleton_append, cutLines_feed, cutLines_indentLines]
  rfl

/-! ## Comments -/

theorem cutLines_whole {line : List Char} (h : Whole line) :
    cutLines (line ++ ['\n']) = [line ++ ['\n']] := by
  rw [cutLines, cutLinesFrom_of_oneLine h, cutLinesFrom, if_pos (by rfl)]
  simp [cutLinesFrom]

theorem physical_remark {blanks : Nat} {line : String} (h : IsRemark blanks line) :
    physical line = ["    ".toList ++ line.toList ++ ['\n']] := by
  obtain ⟨cs, hcs⟩ := h.sign
  have hsign : isBlank '#' = false := by decide
  have hindent : indentLines "    ".toList (line.toList ++ ['\n']) =
      ("    ".toList ++ line.toList) ++ ['\n'] := by
    rw [indentLines, cutLines_whole h.whole, flatMap_singleton, if_neg, append_assoc]
    simp [hcs, hsign]
  have hmargin : Whole "    ".toList := whole_blanks 4
  rw [physical, hindent, cutLines_whole (hmargin.append h.whole)]

theorem dropEmptyEnd_of_ne {line : String} (h : line ≠ "") (before after : List String) :
    dropEmptyEnd (before ++ line :: after) = before ++ line :: dropEmptyEnd after := by
  simp only [dropEmptyEnd, reverse_append, reverse_cons, append_assoc]
  rw [dropWhile_append]
  split
  · rename_i hnil
    rw [isEmpty_iff.mp hnil]
    simp [h]
  · simp

/-- **Comments stay comments.** A comment adds at least one line. Each is the margin, the sign of a
comment and more, and nothing in it ends a line. Whatever the listing has before it and gets after
it, in the function that is made of the text each of these lines is one line, moved in. Of a program
these are the lines of all comments, whatever they quote. -/
theorem comments_stay (l : Listing) (text : String) :
    let added := (commentLines text).map (l.margin ++ ·)
    (l.comment text = { l with lines := l.lines ++ added.toArray } ∧ added ≠ [] ∧
      ∀ line ∈ added, (∃ cs, line = l.margin ++ String.ofList ('#' :: cs)) ∧ Whole line.toList) ∧
    (∀ after : List String,
      cutLines (definitionText
          { l with lines := (l.comment text).lines ++ after.toArray : Listing }.render) =
        framed (l.lines.toList.flatMap physical
          ++ (added.map (fun line => "    ".toList ++ line.toList ++ ['\n'])
            ++ (dropEmptyEnd after).flatMap physical))) ∧
    ∀ g limit p, plan g = .ok (some p) → generate g limit = .ok (write (p.steps limit) {}).render ∧
      ∃ marks : List (Bool × String), (write (p.steps limit) {}).lines.toList = marks.map Prod.snd ∧
        (marks.filter Prod.fst).map (unindented ·.2) =
          (commentsAll (p.steps limit)).flatMap commentLines ∧
        ∀ m ∈ marks, m.1 = true → (∃ blanks, IsRemark blanks m.2) ∧
          physical m.2 = ["    ".toList ++ m.2.toList ++ ['\n']] := by
  intro added
  have hremark : ∀ line ∈ added, IsRemark (l.level * l.size).toNat line := by
    intro line hline
    obtain ⟨t, ht, rfl⟩ := mem_map.mp hline
    exact isRemark_commentLines ht l
  have hne : added ≠ [] := by simp [added, commentLines_ne_nil]
  refine ⟨⟨comment_eq l text, hne, ?_⟩, ?_, ?_⟩
  · intro line hline
    obtain ⟨t, ht, rfl⟩ := mem_map.mp hline
    obtain ⟨cs, hcs⟩ := commentLines_sign ht
    exact ⟨⟨cs, by rw [← hcs, String.ofList_toList]⟩, (hremark _ hline).whole⟩
  · intro after
    have hlines : dropEmptyEnd ((l.comment text).lines ++ after.toArray).toList =
        l.lines.toList ++ (added ++ dropEmptyEnd after) := by
      obtain ⟨front, last, hlast⟩ := (eq_nil_or_concat' added).resolve_left hne
      have hlines : ((l.comment text).lines ++ after.toArray).toList =
          (l.lines.toList ++ front) ++ last :: after := by
        rw [comment_eq, show (commentLines text).map (l.margin ++ ·) = added from rfl, hlast]
        simp
      have hsome : last ≠ "" := by
        rintro rfl
        obtain ⟨cs, hcs⟩ := (hremark "" (by simp [hlast])).sign
        simp at hcs
      rw [hlines, dropEmptyEnd_of_ne hsome, hlast]
      simp
    have hadded : added.flatMap physical =
        added.map fun line => "    ".toList ++ line.toList ++ ['\n'] := by
      rw [map_eq_flatMap]
      exact flatMap_congr fun line hline => physical_remark (hremark line hline)
    rw [cutLines_definitionText, hlines, flatMap_append, flatMap_append, hadded]
  · intro g limit p hp
    obtain ⟨marks, hmarks, htexts, hmarked⟩ :=
      runAll_shows (p.steps limit) {} (by simp [Plan.steps, Listing.Step.lasts])
    refine ⟨by rw [generate_eq, hp]; rfl, marks, hmarks, htexts, fun m hm hcomment => ?_⟩
    obtain ⟨blanks, hline⟩ := hmarked m hm hcomment
    exact ⟨⟨blanks, hline⟩, physical_remark hline⟩

end Sketchflow.Compile
