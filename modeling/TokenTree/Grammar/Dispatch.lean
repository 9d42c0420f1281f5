import TokenTree.Grammar

/-!
# Dispatch of token reactions

A walk over a matched tree, depth first. A leaf goes to the reaction registered for its kind, or
stays as it is; a branch keeps its tag around the walk of its children. A reaction reads the tree
that its token stands in, from just after the token, and what it consumes is not visited.

Branches under way wait on a stack of levels. Every visited slot is left with a placeholder, which
no position still to be read can reach: taking a node forgets what there was to undo, and from then
on no operation leads before the node's successor. That is also why the walk ends: its measure, the
weight of what is still to be read, goes down with every node taken.
-/

namespace TokenTree

namespace Node

mutual
/-- One for a leaf, two for a branch beside its children. -/
def weight : Node → Nat
  | .leaf _ => 1
  | .branch _ children => 2 + weightAll children

/-- The weight of several nodes together. -/
def weightAll : List Node → Nat
  | [] => 0
  | node :: rest => node.weight + weightAll rest
end

/-- Fewer of the last nodes weigh no more. -/
theorem weightAll_drop_le {nodes : List Node} {less more : Nat} (hle : less ≤ more) :
    weightAll (nodes.drop more) ≤ weightAll (nodes.drop less) := by
  induction nodes generalizing less more with
  | nil => simp
  | cons node rest ih =>
      cases more with
      | zero =>
          obtain rfl : less = 0 := by omega
          exact Nat.le_refl _
      | succ more =>
          cases less with
          | zero =>
              have := ih (Nat.zero_le more)
              simp only [List.drop_succ_cons, List.drop_zero, weightAll] at this ⊢
              omega
          | succ less => exact ih (by omega)

end Node

/-- The weight of what is still to be read in a tree. -/
def Cursor.remaining (tree : Tree) : Nat := Node.weightAll tree.rest

/-- What is left to read after a node is taken is less by that node. -/
theorem Cursor.remaining_takeCurrent? {tree after : Tree} {node hole : Node}
    (htake : tree.takeCurrent? hole = some (node, after)) :
    after.saved = none ∧ after.pos ≤ after.length ∧
      tree.remaining = node.weight + after.remaining := by
  unfold Cursor.takeCurrent? Cursor.current? at htake
  obtain ⟨item, hitem, heq⟩ := Option.map_eq_some_iff.1 htake
  obtain ⟨rfl, rfl⟩ := Prod.mk.inj heq
  obtain ⟨hlt, rfl⟩ := List.getElem?_eq_some_iff.1 hitem
  refine ⟨rfl, ?_, ?_⟩
  · show tree.pos + 1 ≤ (tree.items.set tree.pos hole).length
    simp only [List.length_set]
    omega
  · unfold Cursor.remaining Cursor.rest
    rw [List.drop_eq_getElem_cons hlt, List.drop_set_of_lt (by simp)]
    rfl

/-- A script that starts with nothing to undo leaves no more to read than there was. -/
theorem Script.remaining_run_le {α : Type} {script : Script α} {tree after : Tree} {value : α}
    (hsaved : tree.saved = none) (hpos : tree.pos ≤ tree.length)
    (hrun : (script.run tree).result = .ok (value, after)) :
    after.remaining ≤ tree.remaining := by
  obtain ⟨hitems, hle⟩ := Script.floor_run (Nat.le_refl tree.pos) (by simp [hsaved]) hpos hrun
  unfold Cursor.remaining Cursor.rest
  rw [hitems]
  exact Node.weightAll_drop_le hle

/-- A branch under way: its tag, the tree of its children and the nodes made so far. -/
structure Level where
  tag : Option Kind
  tree : Tree
  made : List Node

namespace Grammar

/-- The weight of what is still to be read on all levels, each level counting one. -/
def levelsWeight (levels : List Level) : Nat :=
  levels.foldr (fun level weight => level.tree.remaining + 1 + weight) 0

/-- Go on with the walk of `level` inside `enclosing`, innermost first, leaving `hole` in every slot
visited. -/
def dispatchFrom (grammar : Grammar) (hole : Node) (level : Level) (enclosing : List Level) :
    Traced Error (List Node) :=
  match _htake : level.tree.takeCurrent? hole with
  | some (.leaf token, tree) =>
      match grammar.reaction? token.kind with
      | none => grammar.dispatchFrom hole ⟨level.tag, tree, level.made ++ [.leaf token]⟩ enclosing
      | some reaction =>
          match _hrun : (reaction token).run tree with
          | ⟨journal, .ok (node, after)⟩ =>
              (grammar.dispatchFrom hole ⟨level.tag, after, level.made ++ [node]⟩
                enclosing).after journal
          | ⟨journal, .error cause⟩ => ⟨journal, .error cause⟩
  | some (.branch tag children, tree) =>
      grammar.dispatchFrom hole ⟨tag, .ofList children, []⟩
        (⟨level.tag, tree, level.made⟩ :: enclosing)
  | none =>
      match enclosing with
      | [] => pure level.made
      | parent :: outer =>
          grammar.dispatchFrom hole
            ⟨parent.tag, parent.tree, parent.made ++ [.branch level.tag level.made]⟩ outer
termination_by levelsWeight (level :: enclosing)
decreasing_by
  all_goals simp only [levelsWeight, List.foldr_cons]
  · obtain ⟨-, -, hrest⟩ := Cursor.remaining_takeCurrent? _htake
    simp only [Node.weight] at hrest
    omega
  · obtain ⟨hsaved, hpos, hrest⟩ := Cursor.remaining_takeCurrent? _htake
    have hle := Script.remaining_run_le hsaved hpos (congrArg Traced.result _hrun)
    simp only [Node.weight] at hrest
    omega
  · obtain ⟨-, -, hrest⟩ := Cursor.remaining_takeCurrent? _htake
    have hchildren : (Cursor.ofList children : Tree).remaining = Node.weightAll children := rfl
    simp only [Node.weight] at hrest
    omega
  · omega

/-- The walk of a tree from its position on, with a placeholder of choice. -/
def dispatchLeaving (grammar : Grammar) (hole : Node) (tree : Tree) : Traced Error (List Node) :=
  grammar.dispatchFrom hole ⟨none, tree, []⟩ []

/-- Run the token reactions over a tree; the nodes made, in order. -/
def dispatch (grammar : Grammar) (tree : Tree) : Traced Error (List Node) :=
  grammar.dispatchLeaving (.list []) tree

end Grammar

end TokenTree
