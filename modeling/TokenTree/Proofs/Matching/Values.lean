import TokenTree.Proofs.Dispatch.Rewriting

/-!
# Values travel with their tokens

Matching looks at the kinds of tokens and at nothing else. Two streams whose tokens have the same
kinds, one by one, are refused for the same cause or become trees of one shape, in which the leaves
of the second stream stand where those of the first one do. The shape is what is left of a tree when
its leaves lose their values (`shape_eq_of_same_kinds`); the leaves are known from the tokens that a
tree accounts for; `Node.revalueAll_eq` puts both together.
-/

namespace TokenTree

/-! ## Trees with other values -/

namespace Node

mutual
/-- The node with values from a list in place of those of its leaves, in document order. -/
def revalue : Node → List (Option Value) → Node
  | .leaf token, values => .leaf ⟨token.kind, values.headD token.value⟩
  | .branch tag children, values => .branch tag (revalueAll children values)

/-- The nodes with values from a list in place of those of their leaves, in document order. -/
def revalueAll : List Node → List (Option Value) → List Node
  | [], _ => []
  | node :: rest, values =>
      node.revalue values :: revalueAll rest (values.drop node.leaves.length)
end

mutual
/-- The leaves of a node with changed leaves. -/
theorem leaves_mapLeaves (change : Token → Token) :
    ∀ node : Node, (node.mapLeaves change).leaves = node.leaves.map change
  | .leaf _ => rfl
  | .branch _ children => leavesAll_mapLeavesAll change children

/-- The leaves of nodes with changed leaves. -/
theorem leavesAll_mapLeavesAll (change : Token → Token) :
    ∀ nodes : List Node, leavesAll (mapLeavesAll change nodes) = (leavesAll nodes).map change
  | [] => rfl
  | node :: rest => by
      rw [mapLeavesAll, leavesAll, leavesAll, leaves_mapLeaves change node,
        leavesAll_mapLeavesAll change rest, List.map_append]
end

/-- Nodes that are the same once their leaves are changed have as many leaves. -/
theorem length_leaves_eq {change : Token → Token} {node other : Node}
    (hshape : node.mapLeaves change = other.mapLeaves change) :
    node.leaves.length = other.leaves.length := by
  have hleaves := congrArg (fun changed => changed.leaves.length) hshape
  simpa [leaves_mapLeaves] using hleaves

mutual
/-- A node with the values of another one of its shape is that other one. -/
theorem revalue_eq {change : Token → Token} (hchange : ∀ token, (change token).kind = token.kind) :
    ∀ (node other : Node) (more : List (Option Value)),
    node.mapLeaves change = other.mapLeaves change →
    node.revalue (other.leaves.map Token.value ++ more) = other
  | .leaf token, .leaf found, more => by
      intro hshape
      have hkind : token.kind = found.kind := by
        rw [← hchange token, ← hchange found, Node.leaf.inj hshape]
      rw [revalue, hkind]
      rfl
  | .branch tag children, .branch other others, more => by
      intro hshape
      obtain ⟨rfl, hchildren⟩ := Node.branch.inj hshape
      rw [revalue, leaves, revalueAll_eq hchange children others more hchildren]
  | .leaf _, .branch _ _, _ => fun hshape => nomatch hshape
  | .branch _ _, .leaf _, _ => fun hshape => nomatch hshape

/-- Nodes with the values of others of their shape are those others. -/
theorem revalueAll_eq {change : Token → Token}
    (hchange : ∀ token, (change token).kind = token.kind) :
    ∀ (nodes others : List Node) (more : List (Option Value)),
    mapLeavesAll change nodes = mapLeavesAll change others →
    revalueAll nodes ((leavesAll others).map Token.value ++ more) = others
  | [], [], _ => fun _ => rfl
  | node :: rest, other :: others, more => by
      intro hshape
      obtain ⟨hnode, hrest⟩ := List.cons.inj hshape
      have hlength : node.leaves.length = (other.leaves.map Token.value).length := by
        rw [List.length_map, length_leaves_eq hnode]
      rw [revalueAll, leavesAll, List.map_append, List.append_assoc,
        revalue_eq hchange node other _ hnode, hlength, List.drop_left,
        revalueAll_eq hchange rest others more hrest]
  | [], _ :: _, _ => fun hshape => nomatch hshape
  | _ :: _, [], _ => fun hshape => nomatch hshape
end

end Node

namespace Grammar

variable {grammar : Grammar} {token other : Token} {position : Nat} {pending : Pending}

/-! ## Matching by kinds -/

/-- A token that is not plain does what every other one of its kind does. -/
theorem Takes.of_kind_eq {outcome : Except Error Pending} (hkind : other.kind = token.kind)
    (hplain : ¬ grammar.Plain token.kind) (htakes : grammar.Takes token position pending outcome) :
    grammar.Takes other position pending outcome := by
  cases htakes with
  | close hframes hcloses hnode => exact .close hframes (hkind ▸ hcloses) hnode
  | refuse hframes hcloses hcause => exact .refuse hframes (hkind ▸ hcloses) hcause
  | stray hexpected hcloses =>
      rw [← hkind] at hexpected hcloses ⊢
      exact .stray hexpected hcloses
  | tooDeep hexpected hcloses hopens hdepth =>
      rw [← hkind] at hexpected hcloses hopens
      exact .tooDeep hexpected hcloses hopens hdepth
  | enter hexpected hcloses hopens hdepth =>
      rw [← hkind] at hexpected hcloses hopens
      exact .enter hexpected hcloses hopens hdepth
  | leaf _ hleaf => exact absurd hleaf hplain

/-- The token without its value if it is plain; a delimiter stays. -/
def strip (grammar : Grammar) (token : Token) : Token :=
  if grammar.Plain token.kind then .bare token.kind else token

/-- A token keeps its kind. -/
@[simp] theorem kind_strip (grammar : Grammar) (token : Token) :
    (grammar.strip token).kind = token.kind := by
  unfold strip
  split <;> rfl

/-- Tokens that lose their values keep their roles. -/
theorem keepsRoles_strip (grammar : Grammar) : grammar.KeepsRoles grammar.strip where
  plain token hplain := by rwa [kind_strip]
  delimiter token hplain := if_neg hplain

/-- Once plain tokens have lost their values, tokens of the same kinds lead to the same state. -/
theorem advanceAll_strip_congr {tokens others : List Token}
    (hkinds : others.map Token.kind = tokens.map Token.kind) (position : Nat) (pending : Pending) :
    grammar.advanceAll (others.map grammar.strip) position pending =
      grammar.advanceAll (tokens.map grammar.strip) position pending := by
  induction tokens generalizing others position pending with
  | nil => rw [List.map_eq_nil_iff.1 hkinds]
  | cons token rest ih =>
      obtain ⟨other, others, rfl, hkind, hrest⟩ := List.map_eq_cons_iff.1 hkinds
      have hstep : grammar.advance (grammar.strip other) position pending =
          grammar.advance (grammar.strip token) position pending := by
        by_cases hplain : grammar.Plain token.kind
        · rw [strip, strip, hkind, if_pos hplain, if_pos hplain]
        · have hstripped : ¬ grammar.Plain (grammar.strip token).kind := by rwa [kind_strip]
          refine advance_eq_of_takes ((grammar.takes_advance _ _ _).of_kind_eq ?_ hstripped)
          rw [kind_strip, kind_strip, hkind]
      rw [List.map_cons, List.map_cons, advanceAll, advanceAll, hstep]
      exact bind_congr fun next => ih hrest _ next

/-! ## Trees of streams of the same kinds -/

/-- Without reactions to tokens the trees of a stream are those of matching. -/
theorem result_trees_of_no_reactions (hreactions : grammar.reactions = []) (stream : TokenStream) :
    (grammar.trees stream).result = Cursor.items <$> (grammar.matchBlocks stream).result := by
  rw [trees, Traced.result_bind]
  simp only [result_dispatch_of_no_reactions hreactions]
  rw [result_matchBlocks, bind_assoc, map_bind]
  refine bind_congr fun pending => ?_
  cases pending.finish <;> rfl

/-- The plain tokens of a stream from its position on, each with the token of another stream that
stands at the same place. -/
def plainPairs (grammar : Grammar) (stream other : TokenStream) : List (Token × Token) :=
  (stream.rest.zip other.rest).filter fun pair => grammar.Plain pair.1.kind

variable {stream other : TokenStream}

/-- Tokens at the same places of lists of the same kinds have one kind. -/
theorem kind_eq_of_mem_zip {tokens others : List Token}
    (hkinds : others.map Token.kind = tokens.map Token.kind) :
    ∀ pair ∈ tokens.zip others, pair.1.kind = pair.2.kind := by
  induction tokens generalizing others with
  | nil => exact fun _ hmem => nomatch hmem
  | cons token rest ih =>
      obtain ⟨found, others, rfl, hkind, hrest⟩ := List.map_eq_cons_iff.1 hkinds
      exact List.forall_mem_cons.2 ⟨hkind.symm, ih hrest⟩

/-- The tokens from the position on have the same kinds where all tokens do. -/
theorem map_kind_rest (hpos : other.pos = stream.pos)
    (hkinds : other.items.map Token.kind = stream.items.map Token.kind) :
    other.rest.map Token.kind = stream.rest.map Token.kind := by
  rw [Cursor.rest, Cursor.rest, List.map_drop, List.map_drop, hpos, hkinds]

/-- The pairs have the plain tokens of both streams. -/
theorem map_plainPairs (grammar : Grammar)
    (hkinds : other.rest.map Token.kind = stream.rest.map Token.kind) :
    (grammar.plainPairs stream other).map Prod.fst =
        stream.rest.filter (fun token => grammar.Plain token.kind) ∧
      (grammar.plainPairs stream other).map Prod.snd =
        other.rest.filter fun token => grammar.Plain token.kind := by
  have hlength : other.rest.length = stream.rest.length := by
    simpa using congrArg List.length hkinds
  have hsame : (stream.rest.zip other.rest).filter (fun pair => grammar.Plain pair.1.kind) =
      (stream.rest.zip other.rest).filter fun pair => grammar.Plain pair.2.kind :=
    List.filter_congr fun pair hmem => by rw [kind_eq_of_mem_zip hkinds pair hmem]
  constructor
  · conv_rhs => rw [← List.map_fst_zip (Nat.le_of_eq hlength.symm), List.filter_map]
    rfl
  · rw [plainPairs, hsame]
    conv_rhs => rw [← List.map_snd_zip (Nat.le_of_eq hlength), List.filter_map]
    rfl

/-- Where blocks wrap their bodies, the trees of streams of the same kinds are the same once their
leaves have lost their values, and a failure is one for the same cause. -/
theorem shape_eq_of_same_kinds (hwraps : ∀ block ∈ grammar.blocks, block.WrapsBody)
    (hpos : other.pos = stream.pos)
    (hkinds : other.rest.map Token.kind = stream.rest.map Token.kind) :
    (fun tree => Node.mapLeavesAll grammar.strip tree.items) <$>
        (grammar.matchBlocks other).result =
      (fun tree => Node.mapLeavesAll grammar.strip tree.items) <$>
        (grammar.matchBlocks stream).result := by
  have hstripped : (grammar.matchBlocks (other.map grammar.strip)).result =
      (grammar.matchBlocks (stream.map grammar.strip)).result := by
    have hrest (tokens : TokenStream) :
        (tokens.map grammar.strip).rest = tokens.rest.map grammar.strip := List.map_drop.symm
    rw [result_matchBlocks, result_matchBlocks, hrest, hrest]
    show grammar.advanceAll _ other.pos .start >>= _ = grammar.advanceAll _ stream.pos .start >>= _
    rw [hpos, advanceAll_strip_congr hkinds]
  rw [result_matchBlocks_map hwraps grammar.keepsRoles_strip,
    result_matchBlocks_map hwraps grammar.keepsRoles_strip] at hstripped
  have hitems := congrArg (fun result => Cursor.items <$> result) hstripped
  rw [Functor.map_map, Functor.map_map] at hitems
  exact hitems

/-- Where blocks wrap their bodies, trees of one shape for streams of the same kinds differ by the
values of the plain tokens. -/
theorem items_eq_revalueAll (hwraps : ∀ block ∈ grammar.blocks, block.WrapsBody)
    (hkinds : other.rest.map Token.kind = stream.rest.map Token.kind) {tree found : Tree}
    (hother : (grammar.matchBlocks other).result = .ok found)
    (hshape : Node.mapLeavesAll grammar.strip tree.items =
      Node.mapLeavesAll grammar.strip found.items) :
    found.items = Node.revalueAll tree.items
      ((grammar.plainPairs stream other).map fun pair => pair.2.value) := by
  have hleaves : Node.leavesAll found.items = (grammar.plainPairs stream other).map Prod.snd :=
    (accounts_of_matchBlocks hwraps hother).2.leaves_eq.trans
      (grammar.map_plainPairs hkinds).2.symm
  have hvalues : (Node.leavesAll found.items).map Token.value =
      (grammar.plainPairs stream other).map fun pair => pair.2.value := by
    rw [hleaves, List.map_map]
    rfl
  have hrevalued := Node.revalueAll_eq grammar.kind_strip tree.items found.items [] hshape
  rw [List.append_nil, hvalues] at hrevalued
  exact hrevalued.symm

/-- Where blocks wrap their bodies and no token has a reaction, two streams at one position whose
tokens have the same kinds are refused for the same cause, or the trees of the second one are those
of the first one with other values. The leaves, in document order, are the plain tokens of the first
stream, and each takes the value of the token at the same place of the second stream. -/
theorem trees_of_same_kinds (hwraps : ∀ block ∈ grammar.blocks, block.WrapsBody)
    (hreactions : grammar.reactions = []) (hpos : other.pos = stream.pos)
    (hkinds : other.items.map Token.kind = stream.items.map Token.kind) :
    (grammar.trees other).result =
        (fun nodes => Node.revalueAll nodes
          ((grammar.plainPairs stream other).map fun pair => pair.2.value)) <$>
          (grammar.trees stream).result ∧
      ∀ nodes, (grammar.trees stream).result = .ok nodes →
        Node.leavesAll nodes = (grammar.plainPairs stream other).map Prod.fst := by
  have hrest := map_kind_rest hpos hkinds
  have hshape := shape_eq_of_same_kinds hwraps hpos hrest
  rw [result_trees_of_no_reactions hreactions, result_trees_of_no_reactions hreactions]
  cases hstream : (grammar.matchBlocks stream).result with
  | error cause =>
      rw [hstream] at hshape
      cases hother : (grammar.matchBlocks other).result with
      | ok found => rw [hother] at hshape; cases hshape
      | error found =>
          rw [hother] at hshape
          obtain rfl : found = cause := Except.error.inj hshape
          exact ⟨rfl, fun _ hnodes => nomatch hnodes⟩
  | ok tree =>
      rw [hstream] at hshape
      cases hother : (grammar.matchBlocks other).result with
      | error found => rw [hother] at hshape; cases hshape
      | ok found =>
          rw [hother] at hshape
          have hitems := items_eq_revalueAll hwraps hrest hother (Except.ok.inj hshape).symm
          refine ⟨congrArg Except.ok hitems, fun nodes hnodes => ?_⟩
          obtain rfl : tree.items = nodes := Except.ok.inj hnodes
          exact (accounts_of_matchBlocks hwraps hstream).2.leaves_eq.trans
            (grammar.map_plainPairs hrest).1.symm

/-- The tokens of `namelessTokens`, all of them with values. -/
def namelessValues : TokenStream :=
  namelessTokens.map fun token => .of token.kind (.text token.kind.name)

/-- The trees of the tokens with values have the shape of those without, and each leaf the value of
its token. -/
theorem trees_of_same_kinds_nameless :
    namelessValues.items.map Token.kind = namelessTokens.items.map Token.kind ∧
    ((ofSteps nameless).trees namelessValues).result =
      .ok [.list [.leaf (.of ⟨"x"⟩ (.text "x")), .tagged ⟨"list"⟩ [.leaf (.of ⟨"y"⟩ (.text "y"))]],
        .list [], .leaf (.of ⟨"z"⟩ (.text "z"))] := by
  have hwraps := wrapsBody_ofSteps (show nameless.all Step.leavesBodies = true from rfl)
  have hpos : namelessValues.pos = namelessTokens.pos := rfl
  have hkinds : namelessValues.items.map Token.kind = namelessTokens.items.map Token.kind := rfl
  obtain ⟨hsame, -⟩ := trees_of_same_kinds hwraps rfl hpos hkinds
  refine ⟨hkinds, ?_⟩
  rw [hsame, result_trees_of_no_reactions rfl]
  rfl

end Grammar

end TokenTree
