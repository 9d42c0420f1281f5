import TokenTree.Proofs.Dispatch.Levels

/-!
# Dispatch leaf by leaf

A reaction that looks at nothing but its token and gives a leaf for it changes that leaf and no
other part of the tree. Where all reactions are so, `walk_of_yields` says that the walk changes the
leaves in place. Where there are no reactions at all, dispatch gives the nodes that it was given.
-/

namespace TokenTree

namespace Node

mutual
/-- The node with each leaf changed. -/
def mapLeaves (change : Token → Token) : Node → Node
  | .leaf token => .leaf (change token)
  | .branch tag children => .branch tag (mapLeavesAll change children)

/-- The nodes with each leaf changed. -/
def mapLeavesAll (change : Token → Token) : List Node → List Node
  | [] => []
  | node :: rest => node.mapLeaves change :: mapLeavesAll change rest
end

@[simp] theorem mapLeavesAll_append (change : Token → Token) (left right : List Node) :
    mapLeavesAll change (left ++ right) =
      mapLeavesAll change left ++ mapLeavesAll change right := by
  induction left with
  | nil => rfl
  | cons node rest ih => simp [mapLeavesAll, ih]

mutual
/-- A node of which no leaf is changed. -/
theorem mapLeaves_id : ∀ node : Node, node.mapLeaves id = node
  | .leaf _ => rfl
  | .branch _ children => by rw [mapLeaves, mapLeavesAll_id children]

/-- Nodes of which no leaf is changed. -/
theorem mapLeavesAll_id : ∀ nodes : List Node, mapLeavesAll id nodes = nodes
  | [] => rfl
  | node :: rest => by rw [mapLeavesAll, mapLeaves_id node, mapLeavesAll_id rest]
end

@[simp] theorem leavesAll_append (left right : List Node) :
    leavesAll (left ++ right) = leavesAll left ++ leavesAll right := by
  induction left with
  | nil => rfl
  | cons node rest ih => simp [leavesAll, ih]

end Node

namespace Grammar

/-- What dispatch makes of a token is one leaf, wherever the token stands: the token itself where no
reaction is registered, and otherwise the leaf that its reaction gives without moving the cursor. -/
inductive Yields (grammar : Grammar) (token : Token) : Token → Prop where
  | keep (hreaction : grammar.reaction? token.kind = none) : Yields grammar token token
  | react {reaction : TokenReaction} {leaf : Token}
      (hreaction : grammar.reaction? token.kind = some reaction)
      (hrun : ∀ tree, ((reaction token).run tree).result = .ok (.leaf leaf, tree)) :
      Yields grammar token leaf

variable {grammar : Grammar} {hole : Node} {token leaf : Token} {change : Token → Token}

/-- Without a reaction a token stays. -/
theorem Yields.eq_of_none (hyields : grammar.Yields token leaf)
    (hreaction : grammar.reaction? token.kind = none) : leaf = token := by
  cases hyields with
  | keep => rfl
  | react hsome => cases hreaction.symm.trans hsome

/-- A reaction gives the leaf and leaves the cursor where it is. -/
theorem Yields.run {reaction : TokenReaction} (hyields : grammar.Yields token leaf)
    (hreaction : grammar.reaction? token.kind = some reaction) (tree : Tree) :
    ((reaction token).run tree).result = .ok (.leaf leaf, tree) := by
  cases hyields with
  | keep hnone => cases hreaction.symm.trans hnone
  | react hsome hrun =>
      obtain rfl := Option.some.inj (hreaction.symm.trans hsome)
      exact hrun tree

/-- The walk over leaves that yield one leaf each changes these leaves. -/
theorem walk_of_yields (tree : Tree)
    (hyields : ∀ token ∈ Node.leavesAll tree.rest, grammar.Yields token (change token)) :
    grammar.walk hole tree = .ok (Node.mapLeavesAll change tree.rest) := by
  -- By the steps of the walk; a reaction that fails or moves the cursor yields no leaf.
  fun_induction walk grammar hole tree with
  | case1 tree hcurrent =>
      rw [Cursor.rest, List.drop_eq_nil_of_le (List.getElem?_eq_none_iff.1 hcurrent)]
      rfl
  | case2 tree token hcurrent hreaction ih =>
      rw [Cursor.rest_eq_cons hole hcurrent] at hyields ⊢
      obtain ⟨htoken, hrest⟩ := List.forall_mem_cons.1 hyields
      rw [ih hrest, ok_bind, Node.mapLeavesAll, Node.mapLeaves, htoken.eq_of_none hreaction]
      rfl
  | case3 tree token hcurrent reaction hreaction cause hrun =>
      rw [Cursor.rest_eq_cons hole hcurrent] at hyields
      rw [(List.forall_mem_cons.1 hyields).1.run hreaction] at hrun
      cases hrun
  | case4 tree token hcurrent reaction hreaction node after hrun ih =>
      rw [Cursor.rest_eq_cons hole hcurrent] at hyields ⊢
      obtain ⟨htoken, hrest⟩ := List.forall_mem_cons.1 hyields
      rw [htoken.run hreaction] at hrun
      obtain ⟨rfl, rfl⟩ := Prod.mk.inj (Except.ok.inj hrun)
      rw [ih hrest, ok_bind]
      rfl
  | case5 tree tag children hcurrent ihchildren ih =>
      rw [Cursor.rest_eq_cons hole hcurrent] at hyields ⊢
      obtain ⟨hchildren, hrest⟩ := List.forall_mem_append.1 hyields
      rw [ihchildren hchildren, ok_bind, ih hrest, ok_bind]
      rfl

/-- Without reactions dispatch gives the nodes from the position of the tree on. -/
theorem result_dispatch_of_no_reactions (hreactions : grammar.reactions = []) (tree : Tree) :
    (grammar.dispatch tree).result = .ok tree.rest := by
  have hyields (token : Token) : grammar.Yields token (id token) := by
    refine .keep ?_
    rw [reaction?, hreactions]
    rfl
  rw [dispatch, result_dispatchLeaving, walk_of_yields tree fun token _ => hyields token,
    Node.mapLeavesAll_id]

end Grammar

end TokenTree
