import TokenTree.Grammar.Dispatch

/-!
# Dispatch as a recursive walk

The walk of a tree, read as a recursion: the nodes from the position on are visited one after the
other, and a branch is walked on its own, from its first child on, before the node after it.
`Grammar.walk` keeps no levels. `result_dispatchFrom` says what suspended levels still owe to the
recursion, and `dispatch_eq_walk` that dispatch gives the nodes of the walk or fails for the same
cause.
-/

namespace TokenTree

/-- The tree after its current node is visited: `hole` stands in the node's slot, and nothing can be
undone. -/
def Cursor.visited (tree : Tree) (hole : Node) : Tree :=
  ⟨tree.items.set tree.pos hole, tree.pos + 1, none⟩

namespace Cursor

variable {tree : Tree} {node : Node}

/-- Taking the current node visits it. -/
theorem takeCurrent?_eq_some_iff {hole : Node} {after : Tree} :
    tree.takeCurrent? hole = some (node, after) ↔
      tree.items[tree.pos]? = some node ∧ after = tree.visited hole := by
  simp only [takeCurrent?, current?, Option.map_eq_some_iff, Prod.mk.injEq, visited]
  constructor
  · rintro ⟨node, hcurrent, rfl, rfl⟩
    exact ⟨hcurrent, rfl⟩
  · rintro ⟨hcurrent, rfl⟩
    exact ⟨node, hcurrent, rfl, rfl⟩

/-- Nothing is taken where no node is left. -/
theorem takeCurrent?_eq_none_iff {hole : Node} :
    tree.takeCurrent? hole = none ↔ tree.items[tree.pos]? = none := by
  simp [takeCurrent?, current?]

/-- What is left to read after a node is visited is less by that node. -/
theorem remaining_visited (hole : Node) (hcurrent : tree.items[tree.pos]? = some node) :
    tree.remaining = node.weight + (tree.visited hole).remaining := by
  have htake : tree.takeCurrent? hole = some (node, tree.visited hole) :=
    takeCurrent?_eq_some_iff.2 ⟨hcurrent, rfl⟩
  obtain ⟨-, -, hremaining⟩ := remaining_takeCurrent? htake
  exact hremaining

/-- A reaction to the visited node leaves no more to read than there was after it. -/
theorem remaining_run_visited_le {reaction : Script Node} {made hole : Node} {after : Tree}
    (hcurrent : tree.items[tree.pos]? = some node)
    (hrun : (reaction.run (tree.visited hole)).result = .ok (made, after)) :
    after.remaining ≤ (tree.visited hole).remaining := by
  obtain ⟨hsaved, hpos, -⟩ :=
    remaining_takeCurrent? (takeCurrent?_eq_some_iff.2 ⟨hcurrent, rfl⟩)
  exact Script.remaining_run_le hsaved hpos hrun

end Cursor

namespace Grammar

/-- The nodes made of those from the position of the tree on, with `hole` in the slots visited. A
leaf without a reaction stays; a reaction makes a node of its token and says by the cursor where to
go on; a branch keeps its tag around the walk of its children. -/
def walk (grammar : Grammar) (hole : Node) (tree : Tree) : Except Error (List Node) :=
  match _hcurrent : tree.items[tree.pos]? with
  | none => .ok []
  | some (.leaf token) =>
      match grammar.reaction? token.kind with
      | none => do
          let others ← grammar.walk hole (tree.visited hole)
          return .leaf token :: others
      | some reaction =>
          match _hrun : ((reaction token).run (tree.visited hole)).result with
          | .error cause => .error cause
          | .ok (node, after) => do
              let others ← grammar.walk hole after
              return node :: others
  | some (.branch tag children) => do
      let inner ← grammar.walk hole (.ofList children)
      let others ← grammar.walk hole (tree.visited hole)
      return .branch tag inner :: others
termination_by tree.remaining
decreasing_by
  · have hrest := Cursor.remaining_visited hole _hcurrent
    simp only [Node.weight] at hrest
    omega
  · have hrest := Cursor.remaining_visited hole _hcurrent
    have hle := Cursor.remaining_run_visited_le _hcurrent _hrun
    simp only [Node.weight] at hrest
    omega
  · have hrest := Cursor.remaining_visited (.list []) _hcurrent
    have hchildren : (Cursor.ofList children : Tree).remaining = Node.weightAll children := rfl
    simp only [Node.weight] at hrest
    omega
  · have hrest := Cursor.remaining_visited hole _hcurrent
    simp only [Node.weight] at hrest
    omega

/-! ## Rules

What the walk does with the current node. -/

variable {grammar : Grammar} {hole : Node} {tree : Tree} {token : Token}

/-- Past the last node nothing is left to do. -/
theorem walk_done (hcurrent : tree.items[tree.pos]? = none) : grammar.walk hole tree = .ok [] := by
  rw [walk]
  split <;> simp_all

/-- A leaf without a reaction yields itself. -/
theorem walk_leaf (hcurrent : tree.items[tree.pos]? = some (.leaf token))
    (hreaction : grammar.reaction? token.kind = none) :
    grammar.walk hole tree = (do
      let others ← grammar.walk hole (tree.visited hole)
      return .leaf token :: others) := by
  rw [walk]
  split <;> simp_all

/-- A reaction yields one node, and the walk goes on where it left the cursor. -/
theorem walk_reaction {reaction : TokenReaction}
    (hcurrent : tree.items[tree.pos]? = some (.leaf token))
    (hreaction : grammar.reaction? token.kind = some reaction) :
    grammar.walk hole tree = (do
      let (node, after) ← ((reaction token).run (tree.visited hole)).result
      let others ← grammar.walk hole after
      return node :: others) := by
  rw [walk]
  split
  · simp_all
  · next found hfound =>
      obtain rfl : token = found := by simpa [hcurrent] using hfound
      rw [hreaction]
      dsimp only
      split
      · next cause hrun => rw [hrun, error_bind]
      · next node after hrun => rw [hrun, ok_bind]
  · simp_all

/-- A branch yields a branch of the same tag around the walk of its own children. -/
theorem walk_branch {tag : Option Kind} {children : List Node}
    (hcurrent : tree.items[tree.pos]? = some (.branch tag children)) :
    grammar.walk hole tree = (do
      let inner ← grammar.walk hole (.ofList children)
      let others ← grammar.walk hole (tree.visited hole)
      return .branch tag inner :: others) := by
  rw [walk]
  split <;> simp_all

/-! ## The levels and the recursion -/

/-- What dispatch does once a level is walked, with its tag and all the nodes made: these are the
outcome where no level is suspended, and otherwise a branch among the nodes of the level around it,
the walk of which goes on. -/
def finish (grammar : Grammar) (hole : Node) :
    List Level → Option Kind → List Node → Except Error (List Node)
  | [], _, made => .ok made
  | parent :: outer, tag, made => do
      let others ← grammar.walk hole parent.tree
      grammar.finish hole outer parent.tag (parent.made ++ .branch tag made :: others)

/-- Dispatch walks the level at hand and then finishes the levels around it. -/
theorem result_dispatchFrom (grammar : Grammar) (hole : Node) (level : Level)
    (enclosing : List Level) :
    (grammar.dispatchFrom hole level enclosing).result = (do
      let nodes ← grammar.walk hole level.tree
      grammar.finish hole enclosing level.tag (level.made ++ nodes)) := by
  -- By the steps of dispatch: a leaf that stays, a reaction that gives a node, one that fails, a
  -- branch that suspends its level, and the end of the last level or of one inside another.
  fun_induction dispatchFrom grammar hole level enclosing with
  | case1 level enclosing token tree htake hreaction ih =>
      obtain ⟨hcurrent, rfl⟩ := Cursor.takeCurrent?_eq_some_iff.1 htake
      rw [ih, walk_leaf hcurrent hreaction, bind_assoc]
      refine bind_congr fun others => ?_
      rw [pure_bind, List.append_assoc, List.singleton_append]
  | case2 level enclosing token tree htake reaction hreaction journal node after hrun ih =>
      obtain ⟨hcurrent, rfl⟩ := Cursor.takeCurrent?_eq_some_iff.1 htake
      rw [Traced.result_after, ih, walk_reaction hcurrent hreaction, hrun, ok_bind, bind_assoc]
      refine bind_congr fun others => ?_
      rw [pure_bind, List.append_assoc, List.singleton_append]
  | case3 level enclosing token tree htake reaction hreaction journal cause hrun =>
      obtain ⟨hcurrent, rfl⟩ := Cursor.takeCurrent?_eq_some_iff.1 htake
      rw [walk_reaction hcurrent hreaction, hrun, error_bind, error_bind]
  | case4 level enclosing tag children tree htake ih =>
      obtain ⟨hcurrent, rfl⟩ := Cursor.takeCurrent?_eq_some_iff.1 htake
      rw [ih, walk_branch hcurrent, bind_assoc]
      refine bind_congr fun inner => ?_
      rw [List.nil_append, finish, bind_assoc]
      refine bind_congr fun others => ?_
      rw [pure_bind]
  | case5 level htake =>
      rw [walk_done (Cursor.takeCurrent?_eq_none_iff.1 htake), ok_bind, finish, List.append_nil]
      rfl
  | case6 level htake parent outer ih =>
      -- `finish` walks on exactly where the suspended level is resumed.
      rw [ih, walk_done (Cursor.takeCurrent?_eq_none_iff.1 htake), ok_bind, finish,
        List.append_nil]
      refine bind_congr fun others => ?_
      rw [List.append_assoc, List.singleton_append]

/-- Dispatch that leaves `hole` in visited slots gives the nodes of the walk that does. -/
theorem result_dispatchLeaving (grammar : Grammar) (hole : Node) (tree : Tree) :
    (grammar.dispatchLeaving hole tree).result = grammar.walk hole tree := by
  have hlevel := result_dispatchFrom grammar hole ⟨none, tree, []⟩ []
  have hfinish (nodes : List Node) :
      grammar.finish hole [] none ([] ++ nodes) = pure nodes := rfl
  rw [dispatchLeaving, hlevel]
  simp only [hfinish, bind_pure]

/-- Dispatch of a tree gives the nodes of its walk, or fails for the same cause. -/
theorem dispatch_eq_walk (grammar : Grammar) (tree : Tree) :
    (grammar.dispatch tree).result = grammar.walk (.list []) tree := by
  rw [dispatch, result_dispatchLeaving]

end Grammar

end TokenTree
