import Mathlib.Logic.Relation
import Sketchflow.Proofs.Compile.Nesting

/-!
# Paths and what is being written

A path holds the nodes entered on the way to a node since a block began, a context those whose steps
are being written. The first starts anew in each block, the second follows the calls. But what is on
a path is being written, so a node need not be looked for on its path.

* `written` is a program whose paths are written in some way, and `Visit.Begins` says that it makes
  a call itself, not inside another one.
* `roam` writes paths without keeping them.
* **`paths_needless`**: at each call the path is among the nodes being written, `roam` leads to the
  same program, and when it is finished nothing is being written or resolved. This holds of every
  graph, also of one that no edits lead to.
-/

namespace Sketchflow.Compile

open List

variable {g : Graph} {limit : String} {walk walk' : Walk}
variable {writing : List Int} {resolving : List Key}

/-! ## Programs -/

section Programs

variable (h : ∀ m out, Alike writing resolving (walk m [] out) (walk' m [] out))

include h

theorem functionLines_alike (n : Node) (out : Listing) :
    Alike writing resolving (functionLines g walk n out) (functionLines g walk' n out) := by
  refine .bind .get fun c => ?_
  split
  · exact .pure _
  · refine .bind (.modify fun _ => ⟨rfl, rfl⟩) fun _ => ?_
    refine .bind (resolveWithin_alike _ _ _ _) fun _ => .bind (flushNotes_alike _) fun _ => ?_
    dsimp only
    split
    · exact .bind (blockOf_alike (follow_alike (fun m _ => h m) _ _) _ _) fun _ => .pure _
    · exact .pure _

theorem handlerLines_alike (n : Node) (out : Listing) :
    Alike writing resolving (handlerLines g walk n out) (handlerLines g walk' n out) := by
  refine .bind (resolveWithin_alike _ _ _ _) fun _ => .bind (flushNotes_alike _) fun _ => ?_
  refine .bind (follow_alike (fun m _ => h m) _ _ _) fun _ => ?_
  split
  · exact .pure _
  · exact .pure _

theorem loopLines_alike (n : Node) (out : Listing) :
    Alike writing resolving (loopLines g walk n out) (loopLines g walk' n out) := by
  refine .bind (blockOf_alike (fun _ => ?_) _ _) fun _ => .pure _
  exact .bind (follow_alike (fun m _ => h m) _ _ _) fun _ => .pure _

omit h in
theorem eachLines_alike {write write' : Node → Listing → Run Listing}
    (h : ∀ n out, Alike writing resolving (write n out) (write' n out)) (ns : List Node) :
    ∀ out, Alike writing resolving (eachLines write ns out) (eachLines write' ns out) := by
  induction ns with
  | nil => exact fun _ => .pure _
  | cons n ns ih => exact fun out => .bind (h n out) ih

theorem mainLines_alike (start loop : Option Node) (out : Listing) :
    Alike writing resolving (mainLines g walk start loop out)
      (mainLines g walk' start loop out) := by
  unfold mainLines
  split
  · exact .bind (h _ _) fun _ => .bind (loopLines_alike h _ _) fun _ => .pure _
  · exact .bind (loopLines_alike h _ _) fun _ => .pure _
  · exact .bind (h _ _) fun _ => .pure _
  · exact .pure _

theorem programWith_alike (start loop : Option Node) (hats : List Node) :
    Alike writing resolving (programWith g walk start loop hats)
      (programWith g walk' start loop hats) := by
  unfold programWith
  dsimp only
  split
  case' isTrue => refine .bind (.pure _) fun _ => ?_
  case' isFalse => refine .bind (eachLines_alike (functionLines_alike h) _ _) fun _ => ?_
  all_goals
    refine .bind (eachLines_alike (handlerLines_alike h) _ _) fun _ => ?_
    exact .bind (mainLines_alike h _ _ _) fun _ => .pure _

end Programs

/-- The program of a graph whose paths are written by `walk`, and the context at its end. -/
def written (g : Graph) (walk : Walk) : Except Obstacle (String × Context) :=
  let start := (g.nodesOfType "start").head?
  let loop := (g.nodesOfType "gameLoop").head?
  let hats := g.nodesOfType "whenKeyPressed"
  if start.isNone && loop.isNone && hats.isEmpty then .ok (noEntryProgram, {})
  else (programWith g walk start loop hats {}).map fun r => (r.1.render, r.2)

theorem generate_eq_written (g : Graph) (limit : String) :
    generate g limit = (written g (emit g limit)).map Prod.fst := by
  unfold generate written
  dsimp only
  split
  · rfl
  · show Except.map _ (programWith g _ _ _ _ {}) = _
    cases programWith g _ _ _ _ {} <;> rfl

/-- Paths are first written, from no node on them, while nothing is being written or resolved, and
that is so again at the end. -/
theorem written_alike (h : ∀ m out, Alike [] [] (walk m [] out) (walk' m [] out)) :
    written g walk = written g walk' ∧
      ∀ text c, written g walk = .ok (text, c) → c.emitting = [] ∧ c.resolving = [] := by
  unfold written
  dsimp only
  split
  · refine ⟨rfl, fun text c he => ?_⟩
    cases he
    exact ⟨rfl, rfl⟩
  · obtain ⟨he, hkeep⟩ := programWith_alike (g := g) h (g.nodesOfType "start").head?
      (g.nodesOfType "gameLoop").head? (g.nodesOfType "whenKeyPressed") {} ⟨rfl, rfl⟩
    refine ⟨by rw [he], fun text c hc => ?_⟩
    cases hx : programWith g walk (g.nodesOfType "start").head? (g.nodesOfType "gameLoop").head?
        (g.nodesOfType "whenKeyPressed") {} with
    | error o => rw [hx] at hc; cases hc
    | ok r =>
      rw [hx] at hc
      cases hc
      exact hkeep r.1 r.2 hx

/-! ## Calls -/

namespace Visit

/-- A program makes a call itself: were that one alone answered differently, it could be another. -/
def Begins (g : Graph) (limit : String) (v : Visit) : Prop :=
  ∃ walk, (∀ u, u ≠ v → u.answer walk = u.answer (emit g limit)) ∧
    written g walk ≠ written g (emit g limit)

theorem Begins.path_eq {v : Visit} (h : v.Begins g limit) : v.path = [] := by
  obtain ⟨walk, hwalk, hne⟩ := h
  by_contra hpath
  refine hne (written_alike fun m out => ?_).1
  refine .of_eq (fun c _ => hwalk ⟨m, [], out, c⟩ ?_) (emitWithin_alike _ m [] out _)
  rintro rfl
  exact hpath rfl

/-- What is on a path is being written. -/
theorem path_subset_emitting {u v : Visit} (hu : u.Begins g limit)
    (hv : Relation.ReflTransGen (Makes g limit) u v) : v.path ⊆ v.context.emitting := by
  induction hv with
  | refl => exact hu.path_eq ▸ nil_subset _
  | @tail v w _ hmakes ih =>
    obtain ⟨-, hopen, -, hpath⟩ := hmakes.inside
    rw [hopen]
    rcases mem_pair.mp hpath with hw | hw
    · exact hw ▸ nil_subset _
    · exact hw ▸ cons_subset_cons _ ih

end Visit

/-! ## Writing without paths -/

/-- One call of a way to write what follows that is told of no path. It asks only whether the node
is being written. -/
def roamCall (g : Graph) (limit : String) (roam : Node → Listing → Run Listing) (n : Node)
    (out : Listing) : Run Listing := fun c =>
  if c.emitting.contains n.id then
    .ok (out.comment s!"Loop detected: re-entry to {n.type} (ID {n.id}) skipped in current path.", c)
  else
    (emitFresh g limit (fun m _ => roam m) n [] out (c.open n.id)).map fun r =>
      (r.1, r.2.close n.id)

/-- The steps of a node and of what follows it, with no path kept. The bound is on nodes inside each
other's steps. -/
def roamWithin (g : Graph) (limit : String) : Nat → Node → Listing → Run Listing
  | 0, _, out => return out
  | bound + 1, n, out => roamCall g limit (roamWithin g limit bound) n out

/-- The steps of a node and of what follows it, with no path kept. -/
def roam (g : Graph) (limit : String) : Node → Listing → Run Listing :=
  roamWithin g limit (nestingBound g)

theorem emitCall_roam {roam : Node → Listing → Run Listing} {n : Node} {path : List Int}
    (hpath : path ⊆ writing) (out : Listing)
    (h : ∀ m path out, path ⊆ n.id :: writing →
      Alike (n.id :: writing) resolving (walk m path out) (roam m out)) :
    Alike writing resolving (emitCall g limit walk n path out) (roamCall g limit roam n out) := by
  have hcall : Alike writing resolving (emitCall g limit walk n path out)
      (emitCall g limit (fun m _ => roam m) n path out) := by
    refine emitCall_alike path out fun _ m _ path' hp out => h m path' out ?_
    rcases mem_pair.mp hp with rfl | rfl
    · exact nil_subset _
    · exact cons_subset_cons _ hpath
  intro c hc
  -- A path makes no difference if what follows is not told of it and all on it is being written.
  have hsame : emitCall g limit (fun m _ => roam m) n path out c =
      roamCall g limit roam n out c := by
    have htest : (path.contains n.id || c.emitting.contains n.id) = c.emitting.contains n.id := by
      simpa [hc.1] using @hpath n.id
    unfold emitCall roamCall
    rw [htest]
    rfl
  rw [← hsame]
  exact hcall c hc

theorem emitWithin_roam (bound : Nat) (n : Node) (path : List Int) (out : Listing) : ∀ writing,
    path ⊆ writing →
      Alike writing resolving (emitWithin g limit bound n path out)
        (roamWithin g limit bound n out) := by
  induction bound generalizing n path out with
  | zero => exact fun _ _ => .pure _
  | succ bound ih =>
    intro writing hpath
    rw [emitWithin_succ_eq]
    exact emitCall_roam hpath out fun m path out => ih m path out _

/-- **Paths need not be kept.** Nothing is asked of the graph. -/
theorem paths_needless (g : Graph) (limit : String) :
    generate g limit = (written g (emit g limit)).map Prod.fst ∧
    -- At each call, of the program itself or inside another, the path is being written.
    (∀ u v : Visit, u.Begins g limit → Relation.ReflTransGen (Visit.Makes g limit) u v →
      v.path ⊆ v.context.emitting) ∧
    -- Writing that is told of no path is not cut off, and leads to the same program.
    (∀ n out, roam g limit n out = roamCall g limit (roam g limit) n out) ∧
    written g (fun n _ => roam g limit n) = written g (emit g limit) ∧
    -- At the end nothing is being written or resolved.
    (∀ text c, written g (emit g limit) = .ok (text, c) → c.emitting = [] ∧ c.resolving = []) := by
  have halike : ∀ n path out writing resolving, path ⊆ writing →
      Alike writing resolving (emit g limit n path out) (roam g limit n out) :=
    fun n path out writing _ => emitWithin_roam _ n path out writing
  have hsame : ∀ n out c, roam g limit n out c = emit g limit n [] out c := fun n out c =>
    (halike n [] out _ _ (nil_subset _) c ⟨rfl, rfl⟩).1.symm
  obtain ⟨htext, hend⟩ := @written_alike g (emit g limit) (fun n _ => roam g limit n)
    fun n out => halike n [] out [] [] (nil_subset _)
  refine ⟨generate_eq_written g limit, fun u v => Visit.path_subset_emitting, fun n out => ?_,
    htext.symm, hend⟩
  funext c
  rw [hsame, emit_eq_call]
  exact (emitCall_roam (nil_subset _) out (fun m path out => halike m path out _ _) c
    ⟨rfl, rfl⟩).1

end Sketchflow.Compile
