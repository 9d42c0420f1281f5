import TokenTree.Grammar.Reentrant
import TokenTree.Proofs.Dispatch.Levels

/-!
# Placeholders are never seen

Dispatch leaves a placeholder in every slot that it visits. Two trees that differ in such slots only
are the same from some place on, before which no operation leads (`Cursor.SameAhead`), and whatever
is asked of them there is answered alike, unless all items are asked for or the whole cursor. So a
reaction that asks for neither runs alike on both (`Script.alike_run`), and what is left in the
slots makes no difference to dispatch.
-/

namespace TokenTree

/-! ## Trees that are the same ahead -/

/-- From the floor on the trees are the same, and neither position is before it. -/
structure Cursor.SameAhead (floor : Nat) (left right : Tree) : Prop where
  pos_eq : left.pos = right.pos
  saved_eq : left.saved = right.saved
  length_eq : left.length = right.length
  drop_eq : left.items.drop floor = right.items.drop floor
  le_pos : floor ≤ left.pos
  le_saved : ∀ saved, left.saved = some saved → floor ≤ saved
  le_length : floor ≤ left.length

namespace Cursor

variable {floor : Nat} {left right : Tree}

/-- Trees with nothing to undo and the same nodes left are the same from the position on. -/
theorem SameAhead.of_rest_eq (hleft : left.pos = floor) (hright : right.pos = floor)
    (hsaved : left.saved = none) (hother : right.saved = none)
    (hlength : left.length = right.length) (hrest : left.rest = right.rest)
    (hle : floor ≤ left.length) : SameAhead floor left right where
  pos_eq := hleft.trans hright.symm
  saved_eq := hsaved.trans hother.symm
  length_eq := hlength
  drop_eq := by
    rw [rest, rest, hleft, hright] at hrest
    exact hrest
  le_pos := Nat.le_of_eq hleft.symm
  le_saved saved hsome := by
    rw [hsaved] at hsome
    cases hsome
  le_length := hle

/-- A tree is the same as itself, all of it. -/
theorem sameAhead_refl (tree : Tree) : SameAhead 0 tree tree :=
  ⟨rfl, rfl, rfl, rfl, Nat.zero_le _, fun _ _ => Nat.zero_le _, Nat.zero_le _⟩

/-- The same nodes are left. -/
theorem SameAhead.rest_eq (hsame : SameAhead floor left right) : left.rest = right.rest := by
  rw [rest, rest, ← hsame.pos_eq]
  exact drop_eq_drop_of_le hsame.le_pos hsame.drop_eq

/-- The same node is at hand. -/
theorem SameAhead.current?_eq (hsame : SameAhead floor left right) :
    left.current? = right.current? := by
  have hhead := congrArg (fun nodes => nodes[0]?) hsame.rest_eq
  simpa [rest, current?] using hhead

/-- Moving on leads to the same place. -/
theorem SameAhead.advanceTo {pos : Nat} (hsame : SameAhead floor left right)
    (hle : left.pos ≤ pos) : SameAhead floor (left.advanceTo pos) (right.advanceTo pos) where
  pos_eq := rfl
  saved_eq := congrArg some hsame.pos_eq
  length_eq := hsame.length_eq
  drop_eq := hsame.drop_eq
  le_pos := Nat.le_trans hsame.le_pos hle
  le_saved saved hsaved := by
    obtain rfl : left.pos = saved := Option.some.inj hsaved
    exact hsame.le_pos
  le_length := hsame.le_length

/-- Both ends are at the same place. -/
theorem SameAhead.clear (hsame : SameAhead floor left right) :
    SameAhead floor left.clear right.clear where
  pos_eq := hsame.length_eq
  saved_eq := hsame.saved_eq
  length_eq := hsame.length_eq
  drop_eq := hsame.drop_eq
  le_pos := hsame.le_length
  le_saved := hsame.le_saved
  le_length := hsame.le_length

/-- Going back leads to the same place. -/
theorem SameAhead.unscan (hsame : SameAhead floor left right) :
    SameAhead floor left.unscan right.unscan := by
  unfold Cursor.unscan
  rw [← hsame.saved_eq]
  cases hsaved : left.saved with
  | none => exact hsame
  | some saved =>
      exact ⟨rfl, rfl, hsame.length_eq, hsame.drop_eq, hsame.le_saved saved hsaved,
        (fun _ hnone => nomatch hnone), hsame.le_length⟩

/-- The same node is found, or none for the same cause. -/
theorem SameAhead.check_eq (hsame : SameAhead floor left right) (expected : Option Kind) :
    left.check expected = right.check expected := by
  unfold check
  rw [hsame.current?_eq, hsame.pos_eq]

/-- The same member of a group is found, or none for the same cause. -/
theorem SameAhead.checkGroup_eq (hsame : SameAhead floor left right) (group : Group) :
    left.checkGroup group = right.checkGroup group := by
  unfold checkGroup
  rw [hsame.current?_eq, hsame.pos_eq]

/-- The same nodes stand before the next one of a kind. -/
theorem SameAhead.checkUntil_eq (hsame : SameAhead floor left right) (kind : Kind) :
    left.checkUntil kind = right.checkUntil kind := by
  rw [checkUntil, checkUntil, hsame.rest_eq]

/-- The end is reached in both trees or in none. -/
theorem SameAhead.isAtEnd_eq (hsame : SameAhead floor left right) :
    left.isAtEnd = right.isAtEnd := by
  rw [isAtEnd, isAtEnd, hsame.length_eq, hsame.pos_eq]

/-- There are nodes in both trees or in none. -/
theorem SameAhead.isEmpty_eq (hsame : SameAhead floor left right) :
    left.isEmpty = right.isEmpty := by
  have hlength : left.items.length = right.items.length := hsame.length_eq
  rw [isEmpty, isEmpty, Bool.eq_iff_iff, List.isEmpty_iff_length_eq_zero,
    List.isEmpty_iff_length_eq_zero, hlength]

end Cursor

namespace Request

/-- The answer shows what is behind the position: all items, or the whole cursor. -/
def looksBehind : Request → Bool
  | items | copy => true
  | _ => false

open Cursor

variable {floor : Nat} {left right : Tree} {request : Request}

/-- Where the same is found in both trees the answers are alike, and both move on or stay. -/
theorem sameAhead_settle {α β : Type} {outcome other : Except Error α} {answer reply : α → β}
    (hsame : SameAhead floor left right) (houtcome : outcome = other) (hanswer : answer = reply) :
    (settle left (outcome.map fun value => (answer value, left.advanceTo (left.pos + 1)))).1 =
        (settle right (other.map fun value => (reply value, right.advanceTo (right.pos + 1)))).1 ∧
      SameAhead floor
        (settle left (outcome.map fun value => (answer value, left.advanceTo (left.pos + 1)))).2
        (settle right (other.map fun value =>
          (reply value, right.advanceTo (right.pos + 1)))).2 := by
  subst houtcome hanswer
  cases outcome with
  | error cause => exact ⟨rfl, hsame⟩
  | ok value =>
      refine ⟨rfl, ?_⟩
      show SameAhead floor (left.advanceTo (left.pos + 1)) (right.advanceTo (right.pos + 1))
      rw [← hsame.pos_eq]
      exact hsame.advanceTo (Nat.le_succ _)

/-- Both trees are the same behind the stretch that a kind ends. -/
theorem sameAhead_until (hsame : SameAhead floor left right) (kind : Kind) :
    SameAhead floor (left.scanUntil kind).2 (right.scanUntil kind).2 := by
  show SameAhead floor (left.advanceTo _) (right.advanceTo (right.pos + _))
  rw [← hsame.checkUntil_eq, ← hsame.pos_eq]
  exact hsame.advanceTo (Nat.le_add_right _ _)

/-- An operation that does not look behind is answered alike on both trees, and they stay the same
ahead. -/
theorem sameAhead_run (hsame : SameAhead floor left right) (hahead : request.looksBehind = false) :
    (request.run left).1 = (request.run right).1 ∧
      SameAhead floor (request.run left).2 (request.run right).2 := by
  cases request with
  | scan expected => exact sameAhead_settle hsame (hsame.check_eq expected) rfl
  | skip expected =>
      exact sameAhead_settle hsame (hsame.check_eq expected)
        (congrArg (fun pos _ => pos + 1) hsame.pos_eq)
  | scanGroup group => exact sameAhead_settle hsame (hsame.checkGroup_eq group) rfl
  | check expected => exact ⟨hsame.check_eq expected, hsame⟩
  | checkGroup group => exact ⟨hsame.checkGroup_eq group, hsame⟩
  | checkUntil kind => exact ⟨hsame.checkUntil_eq kind, hsame⟩
  | scanUntil kind => exact ⟨hsame.checkUntil_eq kind, sameAhead_until hsame kind⟩
  | skipUntil kind =>
      exact ⟨congrArg List.length (hsame.checkUntil_eq kind), sameAhead_until hsame kind⟩
  | peek count => exact ⟨congrArg (List.take count) hsame.rest_eq, hsame⟩
  | rest => exact ⟨hsame.rest_eq, hsame⟩
  | current => exact ⟨hsame.current?_eq, hsame⟩
  | clear => exact ⟨rfl, hsame.clear⟩
  | unscan => exact ⟨rfl, hsame.unscan⟩
  | pos => exact ⟨hsame.pos_eq, hsame⟩
  | length => exact ⟨hsame.length_eq, hsame⟩
  | isAtEnd => exact ⟨hsame.isAtEnd_eq, hsame⟩
  | isEmpty => exact ⟨hsame.isEmpty_eq, hsame⟩
  | items | copy => cases hahead

end Request

/-! ## Scripts that do not look behind -/

/-- Earlier entries stand first, and the result is the same. -/
theorem Traced.after_eq {ε α : Type} (entries : List Entry) (outcome : Traced ε α) :
    outcome.after entries = ⟨entries ++ outcome.journal, outcome.result⟩ := by
  rw [← Traced.journal_after, ← Traced.result_after entries outcome]

namespace Script

variable {α : Type}

/-- What a script is told on a tree: its requests, each with the answer to it. -/
def told : Script α → Tree → List ((request : Request) × request.Answer Node)
  | .done _, _ => []
  | .note _ next, tree => next.told tree
  | .ask request next, tree =>
      ⟨request, (request.run tree).1⟩ :: (next (request.run tree).1).told (request.run tree).2

/-- On no tree does the script ask for what is behind the position. -/
def LooksAhead (script : Script α) : Prop :=
  ∀ tree, ∀ request ∈ script.asked tree, request.looksBehind = false

/-- Two runs of a script end alike: with the same value on trees that are the same ahead, or for the
same cause. -/
inductive EndsAlike (floor : Nat) : Traced Error (α × Tree) → Traced Error (α × Tree) → Prop where
  | done {journal : List Entry} {value : α} {left right : Tree}
      (hsame : Cursor.SameAhead floor left right) :
      EndsAlike floor ⟨journal, .ok (value, left)⟩ ⟨journal, .ok (value, right)⟩
  | fail {journal : List Entry} {cause : Error} :
      EndsAlike floor ⟨journal, .error cause⟩ ⟨journal, .error cause⟩

variable {floor : Nat} {left right : Tree} {script : Script α}

/-- Entries left before make no difference. -/
theorem EndsAlike.after {first second : Traced Error (α × Tree)}
    (halike : EndsAlike floor first second) (entries : List Entry) :
    EndsAlike floor (first.after entries) (second.after entries) := by
  rw [Traced.after_eq, Traced.after_eq]
  cases halike with
  | done hsame => exact .done hsame
  | fail => exact .fail

/-- A script that does not look behind on a tree is told the same on another one that is the same
ahead, and ends alike there. -/
theorem alike_run (hsame : Cursor.SameAhead floor left right)
    (hahead : ∀ request ∈ script.asked left, request.looksBehind = false) :
    script.told left = script.told right ∧
      EndsAlike floor (script.run left) (script.run right) := by
  -- By what the script does next; an answer that is the same on both trees leads on to one script.
  induction script generalizing left right with
  | done result =>
      cases result with
      | ok value => exact ⟨rfl, .done hsame⟩
      | error cause => exact ⟨rfl, .fail⟩
  | note entries next ih =>
      obtain ⟨htold, halike⟩ := ih hsame hahead
      exact ⟨htold, halike.after entries⟩
  | ask request next ih =>
      obtain ⟨hrequest, hnext⟩ := List.forall_mem_cons.1 hahead
      obtain ⟨hanswer, hafter⟩ := Request.sameAhead_run hsame hrequest
      obtain ⟨htold, halike⟩ := ih (request.run left).1 hafter hnext
      rw [told, told, run, run]
      dsimp only
      rw [← hanswer]
      exact ⟨by rw [htold], halike⟩

end Script

/-! ## Dispatch with other placeholders -/

namespace Grammar

/-- What dispatch does with the node at hand, or where there is none. -/
theorem dispatchFrom_eq (grammar : Grammar) (hole : Node) (level : Level) (enclosing : List Level) :
    grammar.dispatchFrom hole level enclosing =
      match level.tree.takeCurrent? hole with
      | some (.leaf token, tree) =>
          match grammar.reaction? token.kind with
          | none =>
              grammar.dispatchFrom hole ⟨level.tag, tree, level.made ++ [.leaf token]⟩ enclosing
          | some reaction =>
              match (reaction token).run tree with
              | ⟨journal, .ok (node, after)⟩ =>
                  (grammar.dispatchFrom hole ⟨level.tag, after, level.made ++ [node]⟩
                    enclosing).after journal
              | ⟨journal, .error cause⟩ => ⟨journal, .error cause⟩
      | some (.branch tag children, tree) =>
          grammar.dispatchFrom hole ⟨tag, .ofList children, []⟩
            (⟨level.tag, tree, level.made⟩ :: enclosing)
      | none =>
          match enclosing with
          | [] => pure level.made
          | parent :: outer =>
              grammar.dispatchFrom hole
                ⟨parent.tag, parent.tree, parent.made ++ [.branch level.tag level.made]⟩ outer := by
  fun_cases dispatchFrom grammar hole level enclosing with
  | case1 enclosing token tree htake hreaction => simp only [htake, hreaction]
  | case2 enclosing token tree htake reaction hreaction journal node after hrun =>
      simp only [htake, hreaction, hrun]
  | case3 enclosing token tree htake reaction hreaction journal cause hrun =>
      simp only [htake, hreaction, hrun]
  | case4 enclosing tag children tree htake => simp only [htake]
  | case5 htake => simp only [htake]
  | case6 htake parent outer => simp only [htake]

end Grammar

/-- Two levels are the same but for slots behind some place. -/
structure Level.SameAhead (left right : Level) : Prop where
  tag_eq : left.tag = right.tag
  made_eq : left.made = right.made
  tree : ∃ floor, Cursor.SameAhead floor left.tree right.tree

/-- A visit leaves trees that are the same ahead so, whatever it puts into the slots. -/
theorem Cursor.SameAhead.takeCurrent? {floor : Nat} {left right after : Tree} {node hole : Node}
    (hsame : SameAhead floor left right) (htake : left.takeCurrent? hole = some (node, after))
    (other : Node) :
    ∃ behind, right.takeCurrent? other = some (node, behind) ∧
      SameAhead (left.pos + 1) after behind := by
  obtain ⟨hcurrent, rfl⟩ := takeCurrent?_eq_some_iff.1 htake
  have hfound : right.items[right.pos]? = some node := hsame.current?_eq.symm.trans hcurrent
  refine ⟨right.visited other, takeCurrent?_eq_some_iff.2 ⟨hfound, rfl⟩, ?_⟩
  have hrest : (left.visited hole).rest = (right.visited other).rest := by
    have hcons := hsame.rest_eq
    rw [rest_eq_cons hole hcurrent, rest_eq_cons other hfound] at hcons
    exact (List.cons.inj hcons).2
  have hlength : (left.visited hole).length = (right.visited other).length := by
    show (left.items.set left.pos hole).length = (right.items.set right.pos other).length
    rw [List.length_set, List.length_set]
    exact hsame.length_eq
  have hle : left.pos + 1 ≤ (left.visited hole).length := by
    show left.pos + 1 ≤ (left.items.set left.pos hole).length
    rw [List.length_set]
    exact (List.getElem?_eq_some_iff.1 hcurrent).1
  have hpos : (right.visited other).pos = left.pos + 1 := congrArg (· + 1) hsame.pos_eq.symm
  exact .of_rest_eq rfl hpos rfl rfl hlength hrest hle

/-- Where no node is left in one of the trees none is left in the other. -/
theorem Cursor.SameAhead.takeCurrent?_eq_none {floor : Nat} {left right : Tree} {hole : Node}
    (hsame : SameAhead floor left right) (htake : left.takeCurrent? hole = none) (other : Node) :
    right.takeCurrent? other = none := by
  rw [takeCurrent?_eq_none_iff] at htake ⊢
  exact hsame.current?_eq.symm.trans htake

namespace Grammar

variable {grammar : Grammar}

/-- Every reaction looks ahead only. -/
def LooksAhead (grammar : Grammar) : Prop :=
  ∀ (token : Token) (reaction : TokenReaction), grammar.reaction? token.kind = some reaction →
    (reaction token).LooksAhead

/-- On levels that are the same ahead dispatch comes to the same outcome, whatever it leaves in the
slots. -/
theorem dispatchFrom_sameAhead (hlooks : grammar.LooksAhead) (hole other : Node)
    {left right : Level} {lefts rights : List Level} (hsame : left.SameAhead right)
    (henclosing : List.Forall₂ Level.SameAhead lefts rights) :
    grammar.dispatchFrom hole left lefts = grammar.dispatchFrom other right rights := by
  -- By the steps of the dispatch on the left; each is a step on the right as well.
  fun_induction dispatchFrom grammar hole left lefts generalizing right rights with
  | case1 level enclosing token tree htake hreaction ih =>
      obtain ⟨floor, htree⟩ := hsame.tree
      obtain ⟨behind, hbehind, hafter⟩ := htree.takeCurrent? htake other
      rw [dispatchFrom_eq grammar other, hbehind, ← hsame.made_eq, ← hsame.tag_eq]
      simp only [hreaction]
      exact ih ⟨rfl, rfl, _, hafter⟩ henclosing
  | case2 level enclosing token tree htake reaction hreaction journal node after hrun ih =>
      obtain ⟨floor, htree⟩ := hsame.tree
      obtain ⟨behind, hbehind, hafter⟩ := htree.takeCurrent? htake other
      obtain ⟨-, halike⟩ := Script.alike_run hafter (hlooks token reaction hreaction tree)
      rw [hrun] at halike
      rw [dispatchFrom_eq grammar other, hbehind, ← hsame.made_eq, ← hsame.tag_eq]
      simp only [hreaction]
      generalize (reaction token).run behind = outcome at halike
      cases halike with
      | done hended => exact congrArg (Traced.after journal) (ih ⟨rfl, rfl, _, hended⟩ henclosing)
  | case3 level enclosing token tree htake reaction hreaction journal cause hrun =>
      obtain ⟨floor, htree⟩ := hsame.tree
      obtain ⟨behind, hbehind, hafter⟩ := htree.takeCurrent? htake other
      obtain ⟨-, halike⟩ := Script.alike_run hafter (hlooks token reaction hreaction tree)
      rw [hrun] at halike
      rw [dispatchFrom_eq grammar other, hbehind]
      simp only [hreaction]
      generalize (reaction token).run behind = outcome at halike
      cases halike with
      | fail => rfl
  | case4 level enclosing tag children tree htake ih =>
      obtain ⟨floor, htree⟩ := hsame.tree
      obtain ⟨behind, hbehind, hafter⟩ := htree.takeCurrent? htake other
      rw [dispatchFrom_eq grammar other, hbehind, ← hsame.made_eq, ← hsame.tag_eq]
      exact ih ⟨rfl, rfl, 0, Cursor.sameAhead_refl (.ofList children)⟩
        (.cons ⟨rfl, rfl, _, hafter⟩ henclosing)
  | case5 level htake =>
      obtain ⟨floor, htree⟩ := hsame.tree
      cases henclosing
      rw [dispatchFrom_eq grammar other, htree.takeCurrent?_eq_none htake other, hsame.made_eq]
  | case6 level htake parent outer ih =>
      obtain ⟨floor, htree⟩ := hsame.tree
      cases henclosing with
      | @cons _ resumed _ rights hparent houter =>
          rw [dispatchFrom_eq grammar other, htree.takeCurrent?_eq_none htake other]
          refine ih ⟨hparent.tag_eq, ?_, hparent.tree⟩ houter
          show parent.made ++ _ = resumed.made ++ _
          rw [hparent.made_eq, hsame.tag_eq, hsame.made_eq]

/-- Dispatch comes to the same outcome with every placeholder. -/
theorem dispatchLeaving_eq (hlooks : grammar.LooksAhead) (hole : Node) (tree : Tree) :
    grammar.dispatchLeaving hole tree = grammar.dispatch tree :=
  dispatchFrom_sameAhead hlooks hole (.list []) ⟨rfl, rfl, 0, Cursor.sameAhead_refl tree⟩ .nil

end Grammar

/-- Behind the node at hand the tree with its placeholders is the same as the nodes that the level
started with. -/
theorem Stage.Orderly.sameAhead {stage : Stage} {node : Node} (horderly : stage.Orderly)
    (hole : Node) (hcurrent : stage.level.tree.items[stage.level.tree.pos]? = some node) :
    Cursor.SameAhead (stage.level.tree.pos + 1) (stage.level.tree.visited hole)
      ⟨stage.source, stage.level.tree.pos + 1, none⟩ := by
  have hrest := horderly.rest_visited hole hcurrent
  obtain ⟨hlt, -⟩ := List.getElem?_eq_some_iff.1 hcurrent
  obtain ⟨hsource, -⟩ := List.getElem?_eq_some_iff.1 (horderly.source_eq hcurrent)
  have hvisited : (stage.level.tree.visited hole).length = stage.level.tree.items.length :=
    List.length_set
  have hlength : (stage.level.tree.visited hole).length = stage.source.length := by
    have hlengths := congrArg List.length hrest
    have hleft : (stage.level.tree.visited hole).rest.length =
        (stage.level.tree.visited hole).length - (stage.level.tree.pos + 1) := List.length_drop
    rw [hleft, List.length_drop] at hlengths
    omega
  have hle : stage.level.tree.pos + 1 ≤ (stage.level.tree.visited hole).length :=
    Nat.lt_of_lt_of_eq hlt hvisited.symm
  exact .of_rest_eq rfl rfl rfl rfl hlength hrest hle

/-! ## Grammars whose reactions use them -/

/-- The calls that a grammar answers, which leaves a placeholder of choice in every slot that it
visits. -/
def Calls.leaving (hole : Node) (grammar : Unit → Grammar) : Calls where
  requireGroup name := (grammar ()).requireGroup name
  dispatch tree := (grammar ()).dispatchLeaving hole tree
  matchBlocks stream := (grammar ()).matchBlocks stream

namespace Grammar

/-- The grammar that `define` gives when its reactions call it, with a placeholder of choice in all
dispatches that they ask for. -/
def reentrantLeaving (hole : Node) (define : Calls → Grammar) : Nat → Grammar
  | 0 => define .refused
  | depth + 1 => define (.leaving hole fun _ => reentrantLeaving hole define depth)

variable {define : Calls → Grammar}

/-- Reactions that look ahead whatever they are answered do so when their own grammar answers. -/
theorem looksAhead_reentrant (hlooks : ∀ calls, (define calls).LooksAhead) (depth : Nat) :
    (reentrant define depth).LooksAhead := by
  cases depth with
  | zero => exact hlooks _
  | succ depth => exact hlooks _

/-- Where reactions look ahead only, the grammar that they call answers them alike with every
placeholder. -/
theorem reentrantLeaving_eq (hlooks : ∀ calls, (define calls).LooksAhead) (hole : Node)
    (depth : Nat) : reentrantLeaving hole define depth = reentrant define depth := by
  induction depth with
  | zero => rfl
  | succ depth ih =>
      have hcalls : Calls.leaving hole (fun _ => reentrant define depth) =
          .of fun _ => reentrant define depth := by
        unfold Calls.leaving Calls.of
        congr 1
        exact funext (dispatchLeaving_eq (looksAhead_reentrant hlooks depth) hole)
      rw [reentrantLeaving, reentrant, ih, hcalls]

/-- What holds of a dispatch whose placeholders are never seen. -/
structure HidesPlaceholders (grammar : Grammar) (tree : Tree) : Prop where
  /-- The outcome is the same with every placeholder. -/
  outcome : ∀ hole, grammar.dispatchLeaving hole tree = grammar.dispatch tree
  /-- A reaction is told the same as on the nodes that its level started with, with nothing in place
  of any of them, and ends alike there. -/
  told : ∀ hole progress token reaction, Progress.Reaches grammar hole tree progress →
    progress.Triggers grammar token reaction →
    let visited := progress.tree.visited hole
    let source : Tree := ⟨progress.current.source, progress.tree.pos + 1, none⟩
    (reaction token).told visited = (reaction token).told source ∧
      Script.EndsAlike (progress.tree.pos + 1) ((reaction token).run visited)
        ((reaction token).run source)

/-- Placeholders are never seen by reactions that look ahead only. Neither are they where reactions
call the grammar that they belong to: with one placeholder in all dispatches, those that reactions
ask for included, the outcome is the same as with another. -/
theorem hidesPlaceholders_of_looksAhead :
    (∀ (grammar : Grammar) (tree : Tree), grammar.LooksAhead → grammar.HidesPlaceholders tree) ∧
    ∀ define : Calls → Grammar, (∀ calls, (define calls).LooksAhead) →
      ∀ (depth : Nat) (hole : Node) (tree : Tree),
        (reentrantLeaving hole define depth).dispatchLeaving hole tree =
          (reentrant define depth).dispatch tree := by
  refine ⟨fun grammar tree hlooks => ⟨fun hole => dispatchLeaving_eq hlooks hole tree, ?_⟩, ?_⟩
  · intro hole progress token reaction hreaches htriggers
    have horderly := (Progress.orderly_of_reaches hreaches).stages _ List.mem_cons_self
    have hsame := horderly.sameAhead hole htriggers.current
    exact Script.alike_run hsame (hlooks token reaction htriggers.registered _)
  · intro define hlooks depth hole tree
    rw [reentrantLeaving_eq hlooks]
    exact dispatchLeaving_eq (looksAhead_reentrant hlooks depth) hole tree

/-- Tokens of kind `a` go back and become a list of the nodes left. Those of kind `b` become a list
of what the grammar makes of the nodes left. -/
def listing (calls : Calls) : Grammar :=
  (empty.addReaction ⟨"a"⟩ fun _ =>
      .ask .unscan fun _ => .ask .rest fun nodes => .done (.ok (.list nodes))).addReaction
    ⟨"b"⟩ fun _ => .ask .rest fun nodes => .ofTraced (Node.list <$> calls.dispatch (.ofList nodes))

/-- Neither reaction looks behind. -/
theorem looksAhead_listing (calls : Calls) : (listing calls).LooksAhead := by
  intro token reaction hreaction tree request hrequest
  obtain ⟨kind, value⟩ := token
  by_cases hb : kind = ⟨"b"⟩
  · subst hb
    obtain rfl := Option.some.inj hreaction
    obtain rfl := List.mem_singleton.1 hrequest
    rfl
  by_cases ha : kind = ⟨"a"⟩
  · subst ha
    obtain rfl := Option.some.inj hreaction
    obtain rfl | hlast := List.mem_cons.1 hrequest
    · rfl
    · obtain rfl := List.mem_singleton.1 hlast
      rfl
  · have hnone : (listing calls).reaction? kind = none := by
      show [_, _].lookup kind = none
      rw [List.lookup_eq_none_iff]
      simp [ha, hb]
    cases hnone.symm.trans hreaction

/-- With a leaf in every slot visited, the reaction to the first leaf is told of the second one, and
the outcome is that of dispatch. -/
theorem hidesPlaceholders_listing :
    (∀ calls, (listing calls).LooksAhead) ∧
    (reentrantLeaving (.leaf (.bare ⟨"!"⟩)) listing 1).dispatchLeaving (.leaf (.bare ⟨"!"⟩))
      siblings = (reentrant listing 1).dispatch siblings ∧
    ∃ token reaction, (Progress.start siblings).Triggers (listing .refused) token reaction ∧
      (reaction token).told (siblings.visited (.leaf (.bare ⟨"!"⟩))) =
        [⟨.unscan, ()⟩, ⟨.rest, [.leaf (.bare ⟨"b"⟩)]⟩] := by
  obtain ⟨hplain, hnested⟩ := hidesPlaceholders_of_looksAhead
  have htriggers : (Progress.start siblings).Triggers (listing .refused) (.bare ⟨"a"⟩) _ :=
    ⟨rfl, rfl⟩
  have hhides := hplain (listing .refused) siblings (looksAhead_listing .refused)
  obtain ⟨htold, -⟩ := hhides.told (.leaf (.bare ⟨"!"⟩)) _ _ _ .refl htriggers
  exact ⟨looksAhead_listing, hnested listing looksAhead_listing 1 _ siblings, _, _, htriggers,
    htold.trans rfl⟩

end Grammar

end TokenTree
