import Mathlib.Data.List.Infix
import TokenTree.Parse
import TokenTree.Proofs.Dispatch.Leafwise
import TokenTree.Proofs.Grammar.Bodies
import TokenTree.Proofs.Matching.Steps

/-!
# What a tree accounts for

Where every block wraps its body, nothing of a stream is lost in its tree. `Pending.Accounts` says
what the open bodies hold of the tokens that are read: every plain token is a leaf, every close has
made a branch, every open has made a branch or is still open, and the bodies are as deep as blocks
have been open at once. Every token keeps this up. `trees_accounts` says it of the trees of a
stream.
-/

namespace TokenTree

namespace Node

mutual
/-- The number of branches in the node, the node itself included. -/
def branches : Node → Nat
  | .leaf _ => 0
  | .branch _ children => 1 + branchesAll children

/-- The number of branches in several nodes together. -/
def branchesAll : List Node → Nat
  | [] => 0
  | node :: rest => node.branches + branchesAll rest
end

@[simp] theorem branchesAll_append (left right : List Node) :
    branchesAll (left ++ right) = branchesAll left + branchesAll right := by
  induction left with
  | nil => simp [branchesAll]
  | cons node rest ih => simp [branchesAll, ih, Nat.add_assoc]

@[simp] theorem depthAll_append (left right : List Node) :
    depthAll (left ++ right) = max (depthAll left) (depthAll right) := by
  induction left with
  | nil => simp [depthAll]
  | cons node rest ih => simp [depthAll, ih, Nat.max_assoc]

end Node

namespace Grammar

/-- The kind is the open of some block. -/
def Opens (grammar : Grammar) (kind : Kind) : Prop := ∃ block ∈ grammar.blocks, block.opens = kind

instance (grammar : Grammar) (kind : Kind) : Decidable (grammar.Opens kind) :=
  inferInstanceAs (Decidable (∃ block ∈ grammar.blocks, block.opens = kind))

/-- The number of tokens that close a block. -/
def closeCount (grammar : Grammar) (tokens : List Token) : Nat :=
  tokens.countP fun token => grammar.Closes token.kind

/-- The number of tokens that open a block, which no close does. -/
def openCount (grammar : Grammar) (tokens : List Token) : Nat :=
  tokens.countP fun token => grammar.Opens token.kind ∧ ¬ grammar.Closes token.kind

/-- The number of blocks that are open after the tokens. -/
def openAfter (grammar : Grammar) (tokens : List Token) : Nat :=
  grammar.openCount tokens - grammar.closeCount tokens

/-- The largest number of blocks that are open at once while the tokens are read. -/
def mostOpen (grammar : Grammar) (tokens : List Token) : Nat :=
  (tokens.inits.map grammar.openAfter).foldr max 0

variable {grammar : Grammar} {token : Token} {tokens : List Token}

/-- One more token may leave more blocks open than were open before. -/
theorem mostOpen_append_singleton (tokens : List Token) (token : Token) :
    grammar.mostOpen (tokens ++ [token]) =
      max (grammar.mostOpen tokens) (grammar.openAfter (tokens ++ [token])) := by
  have hfoldr (counts : List Nat) (last : Nat) :
      (counts ++ [last]).foldr max 0 = max (counts.foldr max 0) last := by
    induction counts with
    | nil => simp
    | cons count rest ih => simp [ih, Nat.max_assoc]
  rw [mostOpen, List.inits_append, List.map_append]
  exact hfoldr _ _

/-- A token counts among the closes by its kind. -/
theorem closeCount_append_singleton (tokens : List Token) (token : Token) :
    grammar.closeCount (tokens ++ [token]) =
      grammar.closeCount tokens + if grammar.Closes token.kind then 1 else 0 := by
  simp [closeCount, List.countP_append, List.countP_cons]

/-- A token counts among the opens by its kind. -/
theorem openCount_append_singleton (tokens : List Token) (token : Token) :
    grammar.openCount (tokens ++ [token]) = grammar.openCount tokens +
      if grammar.Opens token.kind ∧ ¬ grammar.Closes token.kind then 1 else 0 := by
  simp [openCount, List.countP_append, List.countP_cons]

/-- A plain kind opens nothing. -/
theorem Plain.not_opens {kind : Kind} (hplain : grammar.Plain kind) : ¬ grammar.Opens kind := by
  rintro ⟨block, hmem, hopens⟩
  exact (hplain block hmem).1 hopens

/-- A kind that opens a block is that of an open. -/
theorem opens_of_openedBy? {kind : Kind} {block : Block}
    (hopens : grammar.openedBy? kind = some block) : grammar.Opens kind :=
  ⟨block, mem_of_openedBy? hopens⟩

end Grammar

namespace Pending

/-- The leaves of the bodies around the blocks, in document order. -/
def leavesAround : List Frame → List Token
  | [] => []
  | frame :: enclosing => leavesAround enclosing ++ Node.leavesAll frame.outer

/-- The number of branches in the bodies around the blocks. -/
def branchesAround : List Frame → Nat
  | [] => 0
  | frame :: enclosing => branchesAround enclosing + Node.branchesAll frame.outer

/-- The depth of the bodies around the blocks, each counted from outside of all blocks. -/
def depthAround : List Frame → Nat
  | [] => 0
  | frame :: enclosing =>
      max (depthAround enclosing) (enclosing.length + Node.depthAll frame.outer)

/-- All leaves so far, in document order. -/
def leaves (pending : Pending) : List Token :=
  leavesAround pending.frames ++ Node.leavesAll pending.body

/-- The number of branches so far. -/
def branches (pending : Pending) : Nat :=
  branchesAround pending.frames + Node.branchesAll pending.body

/-- The depth so far, where an open block counts for its branch to come. -/
def depth (pending : Pending) : Nat :=
  max (depthAround pending.frames) (pending.frames.length + Node.depthAll pending.body)

/-! ### What a token changes -/

section Changes

variable {frame : Frame} {frames enclosing : List Frame} {body : List Node} {tag : Option Kind}
  {block : Block} {token : Token} {position : Nat}

/-- A block that is closed keeps its leaves. -/
@[simp] theorem leaves_close :
    leaves ⟨enclosing, frame.outer ++ [.branch tag body]⟩ = leaves ⟨frame :: enclosing, body⟩ := by
  simp [leaves, leavesAround, Node.leavesAll, Node.leaves]

/-- A block that is closed is a branch more. -/
@[simp] theorem branches_close :
    branches ⟨enclosing, frame.outer ++ [.branch tag body]⟩ =
      branches ⟨frame :: enclosing, body⟩ + 1 := by
  simp only [branches, branchesAround, Node.branchesAll_append, Node.branchesAll, Node.branches]
  omega

/-- A block that is closed is as deep as it was. -/
@[simp] theorem depth_close :
    depth ⟨enclosing, frame.outer ++ [.branch tag body]⟩ = depth ⟨frame :: enclosing, body⟩ := by
  simp only [depth, depthAround, Node.depthAll_append, Node.depthAll, Node.depth, List.length_cons]
  omega

/-- A block that is opened has no leaves yet. -/
@[simp] theorem leaves_enter :
    leaves ⟨⟨block, position, body⟩ :: frames, []⟩ = leaves ⟨frames, body⟩ := by
  simp [leaves, leavesAround, Node.leavesAll]

/-- A block that is opened is no branch yet. -/
@[simp] theorem branches_enter :
    branches ⟨⟨block, position, body⟩ :: frames, []⟩ = branches ⟨frames, body⟩ := rfl

/-- A block that is opened counts for the depth. -/
@[simp] theorem depth_enter :
    depth ⟨⟨block, position, body⟩ :: frames, []⟩ =
      max (depth ⟨frames, body⟩) (frames.length + 1) := rfl

/-- A leaf comes last. -/
@[simp] theorem leaves_leaf :
    leaves ⟨frames, body ++ [.leaf token]⟩ = leaves ⟨frames, body⟩ ++ [token] := by
  simp [leaves, Node.leavesAll, Node.leaves]

/-- A leaf is no branch. -/
@[simp] theorem branches_leaf :
    branches ⟨frames, body ++ [.leaf token]⟩ = branches ⟨frames, body⟩ := by
  simp [branches, Node.branchesAll, Node.branches]

/-- A leaf adds nothing to the depth. -/
@[simp] theorem depth_leaf : depth ⟨frames, body ++ [.leaf token]⟩ = depth ⟨frames, body⟩ := by
  simp [depth, Node.depthAll, Node.depth]

end Changes

/-- The open blocks count for the depth. -/
theorem length_le_depth (pending : Pending) : pending.frames.length ≤ pending.depth :=
  Nat.le_trans (Nat.le_add_right _ _) (Nat.le_max_right _ _)

/-! ### What is accounted for -/

/-- The bodies account for the tokens. -/
structure Accounts (grammar : Grammar) (tokens : List Token) (pending : Pending) : Prop where
  leaves_eq : pending.leaves = tokens.filter fun token => grammar.Plain token.kind
  branches_eq : pending.branches = grammar.closeCount tokens
  opened_eq : pending.branches + pending.frames.length = grammar.openCount tokens
  depth_eq : pending.depth = grammar.mostOpen tokens
  mostOpen_le : grammar.mostOpen tokens ≤ grammar.maxDepth

variable {grammar : Grammar} {token : Token} {tokens read : List Token} {position : Nat}
  {pending next : Pending}

/-- Nothing is read and nothing has to be accounted for. -/
theorem accounts_start (grammar : Grammar) : start.Accounts grammar [] where
  leaves_eq := rfl
  branches_eq := rfl
  opened_eq := rfl
  depth_eq := rfl
  mostOpen_le := Nat.zero_le _

/-- The blocks that are open were opened and have made no branch yet. -/
theorem openAfter_eq_length (hbranches : pending.branches = grammar.closeCount tokens)
    (hopened : pending.branches + pending.frames.length = grammar.openCount tokens) :
    grammar.openAfter tokens = pending.frames.length := by
  rw [Grammar.openAfter, ← hbranches, ← hopened, Nat.add_sub_cancel_left]

/-- A token is accounted for where the counts go up by it and the depth covers the open blocks. -/
theorem Accounts.append_singleton (haccounts : pending.Accounts grammar read)
    (hlawful : next.Lawful grammar)
    (hleaves : next.leaves = (read ++ [token]).filter fun token => grammar.Plain token.kind)
    (hbranches : next.branches = grammar.closeCount (read ++ [token]))
    (hopened : next.branches + next.frames.length = grammar.openCount (read ++ [token]))
    (hdepth : next.depth = max pending.depth next.frames.length) :
    next.Accounts grammar (read ++ [token]) := by
  have hmost : grammar.mostOpen (read ++ [token]) = max pending.depth next.frames.length := by
    rw [Grammar.mostOpen_append_singleton, openAfter_eq_length hbranches hopened,
      haccounts.depth_eq]
  refine ⟨hleaves, hbranches, hopened, hdepth.trans hmost.symm, ?_⟩
  rw [hmost, haccounts.depth_eq]
  exact Nat.max_le.2 ⟨haccounts.mostOpen_le, hlawful.length_le⟩

/-- A token that is taken is accounted for. -/
theorem Accounts.advance (hwraps : ∀ block ∈ grammar.blocks, block.WrapsBody)
    (hlawful : pending.Lawful grammar) (haccounts : pending.Accounts grammar read)
    (hstep : grammar.advance token position pending = .ok next) :
    next.Accounts grammar (read ++ [token]) := by
  have hnext := hlawful.advance hstep
  have htakes := grammar.takes_advance token position pending
  rw [hstep] at htakes
  have hlength := length_le_depth pending
  obtain ⟨frames, body⟩ := pending
  cases htakes with
  | @close frame enclosing node hframes hclose hnode =>
      obtain rfl := hframes
      have hmem := hlawful.mem_blocks frame List.mem_cons_self
      have hcloses : grammar.Closes token.kind := ⟨frame.block, hmem, hclose⟩
      have hplain : ¬ grammar.Plain token.kind := fun h => h.not_closes hcloses
      rw [(hwraps _ hmem).result_reaction] at hnode
      obtain rfl := Except.ok.inj hnode
      show Accounts grammar _ ⟨enclosing, frame.outer ++ [.branch frame.block.name body]⟩
      refine haccounts.append_singleton hnext ?_ ?_ ?_ ?_
      · rw [leaves_close, haccounts.leaves_eq]
        simp [hplain]
      · rw [branches_close, haccounts.branches_eq, Grammar.closeCount_append_singleton,
          if_pos hcloses]
      · rw [branches_close, Grammar.openCount_append_singleton, if_neg fun h => h.2 hcloses,
          ← haccounts.opened_eq, Nat.add_assoc, Nat.add_comm 1]
        rfl
      · rw [depth_close]
        exact (Nat.max_eq_left (Nat.le_of_succ_le hlength)).symm
  | enter hexpected hcloses hopens hdeep =>
      have hopen := Grammar.opens_of_openedBy? hopens
      have hplain : ¬ grammar.Plain token.kind := fun h => h.not_opens hopen
      refine haccounts.append_singleton hnext ?_ ?_ ?_ ?_
      · rw [leaves_enter, haccounts.leaves_eq]
        simp [hplain]
      · rw [branches_enter, haccounts.branches_eq, Grammar.closeCount_append_singleton,
          if_neg hcloses, Nat.add_zero]
      · rw [branches_enter, Grammar.openCount_append_singleton, if_pos ⟨hopen, hcloses⟩,
          ← haccounts.opened_eq, List.length_cons, Nat.add_assoc]
      · rw [depth_enter, List.length_cons]
  | leaf hexpected hplain =>
      have hcloses := hplain.not_closes
      refine haccounts.append_singleton hnext ?_ ?_ ?_ ?_
      · rw [leaves_leaf, haccounts.leaves_eq]
        simp [hplain]
      · rw [branches_leaf, haccounts.branches_eq, Grammar.closeCount_append_singleton,
          if_neg hcloses, Nat.add_zero]
      · rw [branches_leaf, Grammar.openCount_append_singleton,
          if_neg fun h => hplain.not_opens h.1, haccounts.opened_eq, Nat.add_zero]
      · rw [depth_leaf]
        exact (Nat.max_eq_left hlength).symm

/-- Tokens that are taken are accounted for. -/
theorem Accounts.advanceAll (hwraps : ∀ block ∈ grammar.blocks, block.WrapsBody)
    (hlawful : pending.Lawful grammar) (haccounts : pending.Accounts grammar read)
    (hsteps : grammar.advanceAll tokens position pending = .ok next) :
    next.Accounts grammar (read ++ tokens) := by
  induction tokens generalizing read position pending with
  | nil =>
      obtain rfl := Except.ok.inj hsteps
      rwa [List.append_nil]
  | cons token rest ih =>
      rw [Grammar.advanceAll, bind_eq_ok_iff] at hsteps
      obtain ⟨middle, hstep, hrest⟩ := hsteps
      rw [← List.singleton_append, ← List.append_assoc]
      exact ih (hlawful.advance hstep) (haccounts.advance hwraps hlawful hstep) hrest

end Pending

/-! ## Trees of a stream -/

namespace Grammar

variable {grammar : Grammar}

/-- Where blocks wrap their bodies, the tree of a stream accounts for its tokens. -/
theorem accounts_of_matchBlocks (hwraps : ∀ block ∈ grammar.blocks, block.WrapsBody)
    {stream : TokenStream} {tree : Tree} (hmatch : (grammar.matchBlocks stream).result = .ok tree) :
    tree = .ofList tree.items ∧ Pending.Accounts grammar stream.rest ⟨[], tree.items⟩ := by
  rw [result_matchBlocks] at hmatch
  obtain ⟨⟨frames, body⟩, hsteps, hfinish⟩ := bind_eq_ok_iff.1 hmatch
  cases frames with
  | cons frame enclosing => cases hfinish
  | nil =>
      obtain rfl := Except.ok.inj hfinish
      exact ⟨rfl, (Pending.accounts_start grammar).advanceAll hwraps (Pending.lawful_start grammar)
        hsteps⟩

/-- Where blocks wrap their bodies and no token has a reaction, the leaves of the trees are the
plain tokens, the branches are as many as there are closes and as there are opens, and the trees are
as deep as blocks are open at once. -/
theorem trees_accounts (hwraps : ∀ block ∈ grammar.blocks, block.WrapsBody)
    (hreactions : grammar.reactions = []) {stream : TokenStream} {nodes : List Node}
    (htrees : (grammar.trees stream).result = .ok nodes) :
    (Node.list nodes).leaves = stream.rest.filter (fun token => grammar.Plain token.kind) ∧
    Node.branchesAll nodes = grammar.closeCount stream.rest ∧
    Node.branchesAll nodes = grammar.openCount stream.rest ∧
    (Node.list nodes).depth = 1 + grammar.mostOpen stream.rest ∧
    (Node.list nodes).depth ≤ grammar.maxDepth + 1 := by
  rw [trees, Traced.result_bind] at htrees
  obtain ⟨tree, hmatch, hdispatch⟩ := bind_eq_ok_iff.1 htrees
  rw [result_dispatch_of_no_reactions hreactions] at hdispatch
  obtain ⟨htree, haccounts⟩ := accounts_of_matchBlocks hwraps hmatch
  obtain rfl : tree.items = nodes := by
    rw [← Except.ok.inj hdispatch, htree]
    rfl
  have hdepth : Node.depthAll tree.items = grammar.mostOpen stream.rest := by
    simpa [Pending.depth, Pending.depthAround] using haccounts.depth_eq
  refine ⟨haccounts.leaves_eq, ?_, ?_, ?_, ?_⟩
  · simpa [Pending.branches, Pending.branchesAround] using haccounts.branches_eq
  · simpa [Pending.branches, Pending.branchesAround] using haccounts.opened_eq
  · rw [Node.list, Node.depth, hdepth]
  · rw [Node.list, Node.depth, hdepth, Nat.add_comm]
    exact Nat.succ_le_succ haccounts.mostOpen_le

/-- A block without a name among blocks that clash with each other. -/
def nameless : List Step := .block ⟨"do"⟩ ⟨"end"⟩ :: clashing

/-- A list inside a nameless block, and an empty nameless block, behind a token that is read
already. -/
def namelessTokens : TokenStream :=
  ⟨[.bare ⟨">"⟩, .bare ⟨"do"⟩, .bare ⟨"x"⟩, .bare ⟨"["⟩, .bare ⟨"y"⟩, .bare ⟨"]"⟩, .bare ⟨"end"⟩,
    .bare ⟨"do"⟩, .bare ⟨"end"⟩, .bare ⟨"z"⟩], 1, none⟩

/-- The trees of the tokens. -/
def namelessTrees : List Node :=
  [.list [.leaf (.bare ⟨"x"⟩), .tagged ⟨"list"⟩ [.leaf (.bare ⟨"y"⟩)]], .list [],
    .leaf (.bare ⟨"z"⟩)]

/-- The trees of the tokens account for them. -/
theorem trees_accounts_nameless :
    ((ofSteps nameless).trees namelessTokens).result = .ok namelessTrees ∧
    (Node.list namelessTrees).leaves = [.bare ⟨"x"⟩, .bare ⟨"y"⟩, .bare ⟨"z"⟩] ∧
    Node.branchesAll namelessTrees = 3 ∧ (Node.list namelessTrees).depth = 3 := by
  have hmatch : ((ofSteps nameless).matchBlocks namelessTokens).result =
      .ok (.ofList namelessTrees) := rfl
  have htrees : ((ofSteps nameless).trees namelessTokens).result = .ok namelessTrees := by
    rw [trees, Traced.result_bind, hmatch, ok_bind, result_dispatch_of_no_reactions rfl]
    rfl
  obtain ⟨hleaves, hcloses, -, hdepth, -⟩ :=
    trees_accounts (wrapsBody_ofSteps (show nameless.all Step.leavesBodies = true from rfl)) rfl
      htrees
  exact ⟨htrees, hleaves.trans (by decide), hcloses.trans (by decide), hdepth.trans (by decide)⟩

end Grammar

end TokenTree
