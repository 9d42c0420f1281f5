import TokenTree.Proofs.Matching.Accounts

/-!
# Tokens rewritten before or after matching

A reaction that makes one plain leaf of a plain token, whatever stands around it, rewrites the
token. Matching looks at plain tokens no further than that they are plain, so it makes no difference
whether they are rewritten in the stream or in the tree. `result_matchBlocks_map` says this of the
pass, by a step that does the same with changed leaves (`Takes.mapLeaves`); `trees_rewriting` says
it of the trees of a stream, and that no reaction to a delimiter is ever called.
-/

namespace TokenTree

/-- The cursor over changed items. -/
def Cursor.map {ι κ : Type} (change : ι → κ) (cursor : Cursor ι) : Cursor κ :=
  ⟨cursor.items.map change, cursor.pos, cursor.saved⟩

/-- The open block with each leaf around it changed. -/
def Frame.mapLeaves (change : Token → Token) (frame : Frame) : Frame :=
  { frame with outer := Node.mapLeavesAll change frame.outer }

namespace Pending

/-- The state with each leaf changed. -/
def mapLeaves (change : Token → Token) (pending : Pending) : Pending :=
  ⟨pending.frames.map (Frame.mapLeaves change), Node.mapLeavesAll change pending.body⟩

variable {change : Token → Token}

/-- A node that comes last is changed by itself. -/
theorem mapLeaves_concat (frames : List Frame) (body : List Node) (node : Node) :
    mapLeaves change ⟨frames, body ++ [node]⟩ =
      ⟨frames.map (Frame.mapLeaves change),
        Node.mapLeavesAll change body ++ [node.mapLeaves change]⟩ := by
  rw [mapLeaves, Node.mapLeavesAll_append, Node.mapLeavesAll, Node.mapLeavesAll]

/-- The same close is waited for. -/
@[simp] theorem expected_mapLeaves (pending : Pending) :
    Grammar.expected (Grammar.innermost (pending.mapLeaves change).frames) =
      Grammar.expected (Grammar.innermost pending.frames) := by
  obtain ⟨frames, body⟩ := pending
  cases frames <;> rfl

/-- As many blocks are open. -/
@[simp] theorem length_frames_mapLeaves (pending : Pending) :
    (pending.mapLeaves change).frames.length = pending.frames.length := List.length_map _

/-- The same is open at the end. -/
theorem finish_mapLeaves (pending : Pending) :
    (pending.mapLeaves change).finish = Node.mapLeavesAll change <$> pending.finish := by
  obtain ⟨frames, body⟩ := pending
  cases frames <;> rfl

end Pending

namespace Grammar

/-- Plain tokens become plain tokens, and delimiters stay. -/
structure KeepsRoles (grammar : Grammar) (change : Token → Token) : Prop where
  plain : ∀ token : Token, grammar.Plain token.kind → grammar.Plain (change token).kind
  delimiter : ∀ token : Token, ¬ grammar.Plain token.kind → change token = token

variable {grammar : Grammar} {change : Token → Token} {token : Token} {position : Nat}
  {pending : Pending} {outcome : Except Error Pending}

/-! ## Matching of changed tokens -/

/-- With changed leaves a changed token does the same. -/
theorem Takes.mapLeaves (hwraps : ∀ block ∈ grammar.blocks, block.WrapsBody)
    (hchange : grammar.KeepsRoles change) (hlawful : pending.Lawful grammar)
    (htakes : grammar.Takes token position pending outcome) :
    grammar.Takes (change token) position (pending.mapLeaves change)
      (Pending.mapLeaves change <$> outcome) := by
  obtain ⟨frames, body⟩ := pending
  cases htakes with
  | @close frame enclosing node hframes hcloses hnode =>
      obtain rfl := hframes
      have hmem := hlawful.mem_blocks frame List.mem_cons_self
      rw [(hwraps _ hmem).result_reaction] at hnode
      obtain rfl := Except.ok.inj hnode
      rw [hchange.delimiter token fun h => h.not_closes ⟨frame.block, hmem, hcloses⟩]
      have hnode := (hwraps _ hmem).result_reaction (.ofList (Node.mapLeavesAll change body))
      have hclose : grammar.Takes token position
          ⟨frame.mapLeaves change :: enclosing.map (Frame.mapLeaves change),
            Node.mapLeavesAll change body⟩ _ := .close rfl hcloses hnode
      show grammar.Takes token position _
        (.ok (Pending.mapLeaves change ⟨enclosing, frame.outer ++ [.branch frame.block.name body]⟩))
      rw [Pending.mapLeaves_concat]
      exact hclose
  | @refuse frame enclosing cause hframes hcloses hcause =>
      have hmem := hlawful.mem_blocks frame (hframes ▸ List.mem_cons_self)
      rw [(hwraps _ hmem).result_reaction] at hcause
      cases hcause
  | stray hexpected hcloses =>
      rw [hchange.delimiter token fun h => h.not_closes hcloses]
      rw [← Pending.expected_mapLeaves] at hexpected
      show grammar.Takes token position _ (.error _)
      rw [← Pending.expected_mapLeaves]
      exact .stray hexpected hcloses
  | tooDeep hexpected hcloses hopens hdepth =>
      rw [hchange.delimiter token fun h => h.not_opens (opens_of_openedBy? hopens)]
      rw [← Pending.expected_mapLeaves] at hexpected
      rw [← Pending.length_frames_mapLeaves] at hdepth
      exact .tooDeep hexpected hcloses hopens hdepth
  | enter hexpected hcloses hopens hdepth =>
      rw [hchange.delimiter token fun h => h.not_opens (opens_of_openedBy? hopens)]
      rw [← Pending.expected_mapLeaves] at hexpected
      rw [← Pending.length_frames_mapLeaves] at hdepth
      exact .enter hexpected hcloses hopens hdepth
  | leaf hexpected hplain =>
      have hleaf := hchange.plain token hplain
      show grammar.Takes (change token) position _
        (.ok (Pending.mapLeaves change ⟨frames, body ++ [.leaf token]⟩))
      rw [Pending.mapLeaves_concat]
      refine .leaf ?_ hleaf
      rw [Pending.expected_mapLeaves]
      exact fun h => hleaf.not_closes (hlawful.closes_of_expected h)

/-- With changed leaves a changed token leads to the changed state. -/
theorem advance_mapLeaves (hwraps : ∀ block ∈ grammar.blocks, block.WrapsBody)
    (hchange : grammar.KeepsRoles change) (hlawful : pending.Lawful grammar) :
    grammar.advance (change token) position (pending.mapLeaves change) =
      Pending.mapLeaves change <$> grammar.advance token position pending :=
  advance_eq_of_takes ((takes_advance grammar token position pending).mapLeaves hwraps hchange
    hlawful)

/-- With changed leaves changed tokens lead to the changed state. -/
theorem advanceAll_mapLeaves (hwraps : ∀ block ∈ grammar.blocks, block.WrapsBody)
    (hchange : grammar.KeepsRoles change) (tokens : List Token) (position : Nat)
    (hlawful : pending.Lawful grammar) :
    grammar.advanceAll (tokens.map change) position (pending.mapLeaves change) =
      Pending.mapLeaves change <$> grammar.advanceAll tokens position pending := by
  induction tokens generalizing position pending with
  | nil => rfl
  | cons token rest ih =>
      rw [List.map_cons, advanceAll, advanceAll, advance_mapLeaves hwraps hchange hlawful]
      cases hstep : grammar.advance token position pending with
      | error cause => rfl
      | ok next => exact ih (position + 1) (hlawful.advance hstep)

/-- The tree of changed tokens has the changed leaves. -/
theorem result_matchBlocks_map (hwraps : ∀ block ∈ grammar.blocks, block.WrapsBody)
    (hchange : grammar.KeepsRoles change) (stream : TokenStream) :
    (grammar.matchBlocks (stream.map change)).result =
      (fun tree => .ofList (Node.mapLeavesAll change tree.items)) <$>
        (grammar.matchBlocks stream).result := by
  have hsteps := advanceAll_mapLeaves hwraps hchange stream.rest stream.pos
    (Pending.lawful_start grammar)
  have hrest : (stream.map change).rest = stream.rest.map change := List.map_drop.symm
  have hstart : Pending.start.mapLeaves change = .start := rfl
  rw [hstart] at hsteps
  rw [result_matchBlocks, result_matchBlocks, hrest]
  show grammar.advanceAll (stream.rest.map change) stream.pos .start >>= _ = _
  rw [hsteps]
  cases hpending : grammar.advanceAll stream.rest stream.pos .start with
  | error cause => rfl
  | ok pending =>
      show ((pending.mapLeaves change).finish >>= _ : Except Error Tree) = _
      rw [Pending.finish_mapLeaves, ok_bind]
      cases pending.finish with
      | error cause => rfl
      | ok body => rfl

/-! ## Dispatch of rewritten tokens -/

/-- The reactions to plain tokens make one plain leaf of the token, whatever stands around it, and
do not move the cursor. -/
def RewritesPlain (grammar : Grammar) : Prop :=
  ∀ (token : Token) (reaction : TokenReaction), grammar.Plain token.kind →
    grammar.reaction? token.kind = some reaction →
    ∃ leaf : Token, grammar.Plain leaf.kind ∧
      ∀ tree, ((reaction token).run tree).result = .ok (.leaf leaf, tree)

/-- The leaf that the reaction to a plain token makes of it; all other tokens stay. -/
def rewrite (grammar : Grammar) (token : Token) : Token :=
  if grammar.Plain token.kind then
    match grammar.reaction? token.kind with
    | none => token
    | some reaction =>
        match ((reaction token).run (.ofList [])).result with
        | .ok (.leaf leaf, _) => leaf
        | _ => token
  else token

/-- A plain token yields the token that it is rewritten to, which is plain. -/
theorem RewritesPlain.yields (hrewrites : grammar.RewritesPlain)
    (hplain : grammar.Plain token.kind) :
    grammar.Yields token (grammar.rewrite token) ∧ grammar.Plain (grammar.rewrite token).kind := by
  cases hreaction : grammar.reaction? token.kind with
  | none =>
      have hsame : grammar.rewrite token = token := by simp [rewrite, hreaction]
      rw [hsame]
      exact ⟨.keep hreaction, hplain⟩
  | some reaction =>
      obtain ⟨leaf, hleaf, hrun⟩ := hrewrites token reaction hplain hreaction
      have hrewritten : grammar.rewrite token = leaf := by
        simp [rewrite, hplain, hreaction, hrun]
      rw [hrewritten]
      exact ⟨.react hreaction hrun, hleaf⟩

/-- Rewriting keeps plain tokens and delimiters apart. -/
theorem RewritesPlain.keepsRoles (hrewrites : grammar.RewritesPlain) :
    grammar.KeepsRoles grammar.rewrite where
  plain _ hplain := (hrewrites.yields hplain).2
  delimiter _ hplain := if_neg hplain

end Grammar

/-! ## Leaves that are come upon -/

/-- The leaves of a node are among those of the nodes that it is one of. -/
theorem Node.leaves_subset_leavesAll {nodes : List Node} {index : Nat} {node : Node}
    (hfound : nodes[index]? = some node) : node.leaves ⊆ Node.leavesAll nodes := by
  induction nodes generalizing index with
  | nil => cases hfound
  | cons first rest ih =>
      rw [Node.leavesAll]
      cases index with
      | zero =>
          obtain rfl : first = node := by simpa using hfound
          exact List.subset_append_left _ _
      | succ index =>
          exact List.Subset.trans (ih (by simpa using hfound)) (List.subset_append_right _ _)

/-- The leaves of a level are among those of the outermost one. -/
theorem Suspended.leaves_subset {grammar : Grammar} {nodes : List Node} {inner : Stage}
    {outer : List Stage} (hsuspended : Suspended grammar nodes inner outer)
    (horderly : ∀ stage ∈ outer, stage.Orderly) :
    Node.leavesAll inner.source ⊆ Node.leavesAll nodes := by
  induction hsuspended with
  | outermost hsource => rw [hsource]; exact List.Subset.refl _
  | @inside inner parent outer visits index hvisits hmade houter ih =>
      obtain ⟨hparent, hothers⟩ := List.forall_mem_cons.1 horderly
      have hbranch := hparent.visits.found ⟨index, .branch inner.level.tag inner.source⟩
        (by rw [hvisits]; exact List.mem_append_right _ List.mem_cons_self)
      exact List.Subset.trans (Node.leaves_subset_leavesAll hbranch) (ih hothers)

/-- A token whose reaction is called is one of the leaves of the tree. -/
theorem Progress.mem_leavesAll_of_triggers {grammar : Grammar} {hole : Node} {tree : Tree}
    {progress : Progress} {token : Token} {reaction : TokenReaction}
    (hreaches : Reaches grammar hole tree progress)
    (htriggers : progress.Triggers grammar token reaction) : token ∈ Node.leavesAll tree.items := by
  obtain ⟨hstages, -, hsuspended⟩ := orderly_of_reaches hreaches
  obtain ⟨hcurrent, henclosing⟩ := List.forall_mem_cons.1 hstages
  have hleaf := Node.leaves_subset_leavesAll (hcurrent.source_eq htriggers.current)
  exact hsuspended.leaves_subset henclosing (hleaf List.mem_cons_self)

namespace Grammar

variable {grammar : Grammar}

/-- Where blocks wrap their bodies, the leaves of the tree of a stream are plain. -/
theorem plain_of_matchBlocks (hwraps : ∀ block ∈ grammar.blocks, block.WrapsBody)
    {stream : TokenStream} {tree : Tree} (hmatch : (grammar.matchBlocks stream).result = .ok tree)
    {token : Token} (htoken : token ∈ Node.leavesAll tree.items) : grammar.Plain token.kind := by
  have hleaves := (accounts_of_matchBlocks hwraps hmatch).2.leaves_eq
  rw [show Node.leavesAll tree.items = _ from hleaves] at htoken
  simpa using (List.mem_filter.1 htoken).2

/-- Where blocks wrap their bodies and the reactions to plain tokens rewrite them, the trees of a
stream are those of matching alone for the rewritten stream, an error is one of matching, and no
reaction but those to plain tokens is called. -/
theorem trees_rewriting (hwraps : ∀ block ∈ grammar.blocks, block.WrapsBody)
    (hrewrites : grammar.RewritesPlain) (stream : TokenStream) :
    (∀ cause, (grammar.trees stream).result = .error cause ↔
      (grammar.matchBlocks stream).result = .error cause) ∧
    (grammar.trees stream).result =
      Cursor.items <$> (grammar.matchBlocks (stream.map grammar.rewrite)).result ∧
    ∀ tree, (grammar.matchBlocks stream).result = .ok tree →
      ∀ progress, Progress.Reaches grammar (.list []) tree progress →
        ∀ token reaction, progress.Triggers grammar token reaction → grammar.Plain token.kind := by
  have htrees : (grammar.trees stream).result =
      (fun tree => Node.mapLeavesAll grammar.rewrite tree.items) <$>
        (grammar.matchBlocks stream).result := by
    rw [trees, Traced.result_bind]
    cases hmatch : (grammar.matchBlocks stream).result with
    | error cause => rfl
    | ok tree =>
        obtain ⟨htree, -⟩ := accounts_of_matchBlocks hwraps hmatch
        have hrest : tree.rest = tree.items := by
          rw [htree]
          rfl
        rw [ok_bind, dispatch, result_dispatchLeaving, walk_of_yields tree, hrest]
        · rfl
        · rw [hrest]
          exact fun token htoken => (hrewrites.yields (plain_of_matchBlocks hwraps hmatch htoken)).1
  refine ⟨fun cause => ?_, ?_, fun tree hmatch progress hreaches token reaction htriggers => ?_⟩
  · rw [htrees]
    cases (grammar.matchBlocks stream).result <;> simp
  · rw [htrees, result_matchBlocks_map hwraps hrewrites.keepsRoles]
    cases (grammar.matchBlocks stream).result <;> rfl
  · exact plain_of_matchBlocks hwraps hmatch (Progress.mem_leavesAll_of_triggers hreaches htriggers)

/-- Blocks that clash with each other, a reaction that makes one plain token of another, and one to
a delimiter that fails. -/
def relabels : List Step :=
  clashing ++ [.token ⟨"x"⟩ fun _ => pure (.leaf (.bare ⟨"y"⟩)),
    .token ⟨"["⟩ fun _ => .fail (.unknownGroup ⟨"["⟩)]

/-- Two plain tokens in a list. -/
def relabelled : TokenStream :=
  .ofList [.bare ⟨"["⟩, .bare ⟨"x"⟩, .bare ⟨"z"⟩, .bare ⟨"]"⟩]

/-- The one reaction to a plain token rewrites it. -/
theorem rewritesPlain_relabels : (ofSteps relabels).RewritesPlain := by
  intro token reaction hplain hreaction
  obtain ⟨kind, value⟩ := token
  by_cases hopen : kind = ⟨"["⟩
  · subst hopen
    have hdelimiter : ¬ (ofSteps relabels).Plain ⟨"["⟩ := by decide
    exact absurd hplain hdelimiter
  by_cases hname : kind = ⟨"x"⟩
  · subst hname
    obtain rfl := Option.some.inj hreaction
    exact ⟨.bare ⟨"y"⟩, by decide, fun _ => rfl⟩
  · have hnone : (ofSteps relabels).reaction? kind = none := by
      show [_, _].lookup kind = none
      rw [List.lookup_eq_none_iff]
      simp [hopen, hname]
    cases hnone.symm.trans hreaction

/-- The trees of the tokens are those of the rewritten tokens, and a list that does not end is
refused as it is by matching. -/
theorem trees_rewriting_relabelled :
    ((ofSteps relabels).trees relabelled).result =
      .ok [.tagged ⟨"list"⟩ [.leaf (.bare ⟨"y"⟩), .leaf (.bare ⟨"z"⟩)]] ∧
    ((ofSteps relabels).trees (.ofList [.bare ⟨"["⟩, .bare ⟨"x"⟩])).result =
      .error (.unterminatedBlock ⟨"["⟩ ⟨"]"⟩ 0) := by
  have hwraps := wrapsBody_ofSteps (show relabels.all Step.leavesBodies = true from rfl)
  obtain ⟨-, htrees, -⟩ := trees_rewriting hwraps rewritesPlain_relabels relabelled
  obtain ⟨hcauses, -, -⟩ := trees_rewriting hwraps rewritesPlain_relabels
    (.ofList [.bare ⟨"["⟩, .bare ⟨"x"⟩])
  exact ⟨htrees.trans rfl, (hcauses _).2 rfl⟩

end Grammar

end TokenTree
