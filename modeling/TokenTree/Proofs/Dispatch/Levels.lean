import Mathlib.Data.List.Forall2
import Mathlib.Logic.Relation
import TokenTree.Proofs.Cursor.Runs
import TokenTree.Proofs.Dispatch.Walk

/-!
# Dispatch level by level

Dispatch one node at a time, with a record of what it has done: every level keeps the nodes that it
started with and the visits paid to them, and the calls of reactions are counted. The record decides
nothing; `ends_dispatch` says that the steps come to the outcome of dispatch. `Grammar.KeepsOrder`
is what holds of every state on the way. A reaction stays behind its token, with an undo history of
its own. A level is visited in the order of its nodes, each of them at most once and never one that
a placeholder stands for, and one node is made of each visit. No leaf is reacted to twice.
-/

namespace TokenTree

/-! ## Visits -/

/-- A visit to a level: the index, and the node that was found there. -/
structure Visit where
  index : Nat
  node : Node

/-- The visits go through the nodes from left to right and find them as they were. -/
structure InOrder (source : List Node) (visits : List Visit) : Prop where
  increasing : visits.Pairwise fun earlier later => earlier.index < later.index
  found : ∀ visit ∈ visits, source[visit.index]? = some visit.node

/-- What a visit makes of the node it finds: a leaf without a reaction stays, a reaction called just
behind its token and with nothing to undo gives a node, and a branch keeps its tag around one node
for each visit to its children. -/
inductive Gives (grammar : Grammar) : Visit → Node → Prop where
  | keep {index : Nat} {token : Token} (hreaction : grammar.reaction? token.kind = none) :
      Gives grammar ⟨index, .leaf token⟩ (.leaf token)
  | react {index : Nat} {token : Token} {reaction : TokenReaction} {tree after : Tree} {node : Node}
      (hreaction : grammar.reaction? token.kind = some reaction) (hpos : tree.pos = index + 1)
      (hsaved : tree.saved = none)
      (hrun : ((reaction token).run tree).result = .ok (node, after)) :
      Gives grammar ⟨index, .leaf token⟩ node
  | walk {index : Nat} {tag : Option Kind} {children made : List Node} {visits : List Visit}
      (horder : InOrder children visits) (hmade : List.Forall₂ (Gives grammar) visits made) :
      Gives grammar ⟨index, .branch tag children⟩ (.branch tag made)

/-! ## States and steps -/

/-- A level with its past: the nodes that it started with and the visits paid to them. -/
structure Stage where
  level : Level
  source : List Node
  visits : List Visit

namespace Stage

/-- A level at its start. -/
def start (tag : Option Kind) (tree : Tree) : Stage := ⟨⟨tag, tree, []⟩, tree.items, []⟩

/-- The level after a visit to its current node that leaves the tree so and makes these nodes. -/
def visit (stage : Stage) (node : Node) (tree : Tree) (made : List Node) : Stage :=
  ⟨⟨stage.level.tag, tree, stage.level.made ++ made⟩, stage.source,
    stage.visits ++ [⟨stage.level.tree.pos, node⟩]⟩

/-- The level once the branch that it visited last is walked. -/
def resume (stage : Stage) (tag : Option Kind) (made : List Node) : Stage :=
  { stage with
    level := ⟨stage.level.tag, stage.level.tree, stage.level.made ++ [.branch tag made]⟩ }

/-- The number of leaves that the level has not come upon. -/
def unread (stage : Stage) : Nat := (Node.leavesAll stage.level.tree.rest).length

@[simp] theorem unread_start (tag : Option Kind) (tree : Tree) :
    (start tag tree).unread = (Node.leavesAll tree.rest).length := rfl

@[simp] theorem unread_visit (stage : Stage) (node : Node) (tree : Tree) (made : List Node) :
    (stage.visit node tree made).unread = (Node.leavesAll tree.rest).length := rfl

@[simp] theorem unread_resume (stage : Stage) (tag : Option Kind) (made : List Node) :
    (stage.resume tag made).unread = stage.unread := rfl

end Stage

/-- Where a dispatch stands: the level at hand, the levels around it, innermost first, and the
number of reactions called so far. -/
structure Progress where
  current : Stage
  enclosing : List Stage
  calls : Nat

namespace Progress

/-- The start of the dispatch of a tree. -/
def start (tree : Tree) : Progress := ⟨.start none tree, [], 0⟩

/-- The tree of the level at hand. -/
def tree (progress : Progress) : Tree := progress.current.level.tree

/-- All levels, innermost first. -/
def stages (progress : Progress) : List Stage := progress.current :: progress.enclosing

/-- The number of leaves that no level has come upon. -/
def unread (progress : Progress) : Nat := (progress.stages.map Stage.unread).foldr (· + ·) 0

/-- One step of dispatch: the next state, or none once the outermost level is done. -/
def step (grammar : Grammar) (hole : Node) (progress : Progress) :
    Except Error (Option Progress) :=
  match progress.tree.takeCurrent? hole with
  | some (.leaf token, tree) =>
      match grammar.reaction? token.kind with
      | none =>
          .ok (some ⟨progress.current.visit (.leaf token) tree [.leaf token], progress.enclosing,
            progress.calls⟩)
      | some reaction => do
          let (node, after) ← ((reaction token).run tree).result
          return some ⟨progress.current.visit (.leaf token) after [node], progress.enclosing,
            progress.calls + 1⟩
  | some (.branch tag children, tree) =>
      .ok (some ⟨.start tag (.ofList children),
        progress.current.visit (.branch tag children) tree [] :: progress.enclosing,
        progress.calls⟩)
  | none =>
      match progress.enclosing with
      | [] => .ok none
      | parent :: outer =>
          .ok (some ⟨parent.resume progress.current.level.tag progress.current.level.made, outer,
            progress.calls⟩)

/-- The dispatch of the tree comes to this state from its start. -/
def Reaches (grammar : Grammar) (hole : Node) (tree : Tree) (progress : Progress) : Prop :=
  Relation.ReflTransGen (fun before after => before.step grammar hole = .ok (some after))
    (start tree) progress

/-- The dispatch ends after finitely many steps, with the nodes of its outermost level or with the
failure of a reaction. -/
inductive Ends (grammar : Grammar) (hole : Node) : Progress → Except Error (List Node) → Prop where
  | done {progress : Progress} (hstep : progress.step grammar hole = .ok none) :
      Ends grammar hole progress (.ok progress.current.level.made)
  | fail {progress : Progress} {cause : Error}
      (hstep : progress.step grammar hole = .error cause) :
      Ends grammar hole progress (.error cause)
  | next {progress after : Progress} {outcome : Except Error (List Node)}
      (hstep : progress.step grammar hole = .ok (some after))
      (hends : Ends grammar hole after outcome) : Ends grammar hole progress outcome

/-- The token at hand has a reaction, which the next step calls. -/
structure Triggers (grammar : Grammar) (progress : Progress) (token : Token)
    (reaction : TokenReaction) : Prop where
  current : progress.tree.items[progress.tree.pos]? = some (.leaf token)
  registered : grammar.reaction? token.kind = some reaction

/-- What a step can come to, and when. -/
inductive Moves (grammar : Grammar) (hole : Node) (progress : Progress) :
    Except Error (Option Progress) → Prop where
  /-- A leaf without a reaction stays. -/
  | keep {token : Token}
      (hcurrent : progress.tree.items[progress.tree.pos]? = some (.leaf token))
      (hreaction : grammar.reaction? token.kind = none) :
      Moves grammar hole progress (.ok (some
        ⟨progress.current.visit (.leaf token) (progress.tree.visited hole) [.leaf token],
          progress.enclosing, progress.calls⟩))
  /-- A reaction gives a node. -/
  | react {token : Token} {reaction : TokenReaction} {node : Node} {after : Tree}
      (htriggers : progress.Triggers grammar token reaction)
      (hrun : ((reaction token).run (progress.tree.visited hole)).result = .ok (node, after)) :
      Moves grammar hole progress (.ok (some
        ⟨progress.current.visit (.leaf token) after [node], progress.enclosing,
          progress.calls + 1⟩))
  /-- A reaction fails. -/
  | fail {token : Token} {reaction : TokenReaction} {cause : Error}
      (htriggers : progress.Triggers grammar token reaction)
      (hrun : ((reaction token).run (progress.tree.visited hole)).result = .error cause) :
      Moves grammar hole progress (.error cause)
  /-- The children of a branch are next. -/
  | descend {tag : Option Kind} {children : List Node}
      (hcurrent : progress.tree.items[progress.tree.pos]? = some (.branch tag children)) :
      Moves grammar hole progress (.ok (some ⟨.start tag (.ofList children),
        progress.current.visit (.branch tag children) (progress.tree.visited hole) [] ::
          progress.enclosing,
        progress.calls⟩))
  /-- The children of a branch are done. -/
  | ascend {parent : Stage} {outer : List Stage}
      (hcurrent : progress.tree.items[progress.tree.pos]? = none)
      (henclosing : progress.enclosing = parent :: outer) :
      Moves grammar hole progress (.ok (some
        ⟨parent.resume progress.current.level.tag progress.current.level.made, outer,
          progress.calls⟩))
  /-- The outermost level is done. -/
  | finish (hcurrent : progress.tree.items[progress.tree.pos]? = none)
      (henclosing : progress.enclosing = []) : Moves grammar hole progress (.ok none)

variable {grammar : Grammar} {hole : Node} {progress after : Progress}

/-- A step comes to what its conditions say. -/
theorem step_eq_of_moves {outcome : Except Error (Option Progress)}
    (hmoves : progress.Moves grammar hole outcome) : progress.step grammar hole = outcome := by
  cases hmoves with
  | keep hcurrent hreaction =>
      rw [step, Cursor.takeCurrent?_eq_some_iff.2 ⟨hcurrent, rfl⟩]
      simp only [hreaction]
  | react htriggers hrun =>
      rw [step, Cursor.takeCurrent?_eq_some_iff.2 ⟨htriggers.current, rfl⟩]
      simp only [htriggers.registered, hrun, ok_bind]
      rfl
  | fail htriggers hrun =>
      rw [step, Cursor.takeCurrent?_eq_some_iff.2 ⟨htriggers.current, rfl⟩]
      simp only [htriggers.registered, hrun, error_bind]
  | descend hcurrent => rw [step, Cursor.takeCurrent?_eq_some_iff.2 ⟨hcurrent, rfl⟩]
  | ascend hcurrent henclosing =>
      rw [step, Cursor.takeCurrent?_eq_none_iff.2 hcurrent, henclosing]
  | finish hcurrent henclosing =>
      rw [step, Cursor.takeCurrent?_eq_none_iff.2 hcurrent, henclosing]

/-- Whatever a step comes to, its conditions hold. -/
theorem moves_step : progress.Moves grammar hole (progress.step grammar hole) := by
  -- Some case applies to every state, and whichever applies says what the step comes to.
  suffices h : ∃ outcome, progress.Moves grammar hole outcome by
    obtain ⟨outcome, hmoves⟩ := h
    rwa [step_eq_of_moves hmoves]
  cases hcurrent : progress.tree.items[progress.tree.pos]? with
  | some node =>
      cases node with
      | leaf token =>
          cases hreaction : grammar.reaction? token.kind with
          | none => exact ⟨_, .keep hcurrent hreaction⟩
          | some reaction =>
              have htriggers : progress.Triggers grammar token reaction := ⟨hcurrent, hreaction⟩
              cases hrun : ((reaction token).run (progress.tree.visited hole)).result with
              | ok pair => exact ⟨_, .react htriggers hrun⟩
              | error cause => exact ⟨_, .fail htriggers hrun⟩
      | branch tag children => exact ⟨_, .descend hcurrent⟩
  | none =>
      cases henclosing : progress.enclosing with
      | nil => exact ⟨_, .finish hcurrent henclosing⟩
      | cons parent outer => exact ⟨_, .ascend hcurrent henclosing⟩

/-- The steps from a state on come to the outcome of dispatch from its levels on. -/
theorem ends_dispatchFrom (progress : Progress) :
    Ends grammar hole progress (grammar.dispatchFrom hole progress.current.level
      (progress.enclosing.map Stage.level)).result := by
  generalize hlevel : progress.current.level = level
  generalize henclosing : progress.enclosing.map Stage.level = enclosing
  have htree : progress.tree = level.tree := congrArg Level.tree hlevel
  -- By the steps of dispatch, in the order of its cases.
  fun_induction Grammar.dispatchFrom grammar hole level enclosing generalizing progress with
  | case1 level enclosing token tree htake hreaction ih =>
      rw [← htree] at htake
      obtain ⟨hcurrent, rfl⟩ := Cursor.takeCurrent?_eq_some_iff.1 htake
      refine .next (step_eq_of_moves (.keep hcurrent hreaction)) (ih _ ?_ henclosing rfl)
      rw [← hlevel]
      rfl
  | case2 level enclosing token tree htake reaction hreaction journal node after hrun ih =>
      rw [← htree] at htake
      obtain ⟨hcurrent, rfl⟩ := Cursor.takeCurrent?_eq_some_iff.1 htake
      rw [Traced.result_after]
      refine .next (step_eq_of_moves (.react ⟨hcurrent, hreaction⟩ (congrArg Traced.result hrun)))
        (ih _ ?_ henclosing rfl)
      rw [← hlevel]
      rfl
  | case3 level enclosing token tree htake reaction hreaction journal cause hrun =>
      rw [← htree] at htake
      obtain ⟨hcurrent, rfl⟩ := Cursor.takeCurrent?_eq_some_iff.1 htake
      exact .fail
        (step_eq_of_moves (.fail ⟨hcurrent, hreaction⟩ (congrArg Traced.result hrun)))
  | case4 level enclosing tag children tree htake ih =>
      rw [← htree] at htake
      obtain ⟨hcurrent, rfl⟩ := Cursor.takeCurrent?_eq_some_iff.1 htake
      refine .next (step_eq_of_moves (.descend hcurrent)) (ih _ rfl ?_ rfl)
      rw [← hlevel, ← henclosing, List.map_cons, Stage.visit, List.append_nil]
  | case5 level htake =>
      rw [← htree] at htake
      have hcurrent := Cursor.takeCurrent?_eq_none_iff.1 htake
      rw [← hlevel]
      exact .done (step_eq_of_moves (.finish hcurrent (List.map_eq_nil_iff.1 henclosing)))
  | case6 level htake parent outer ih =>
      rw [← htree] at htake
      have hcurrent := Cursor.takeCurrent?_eq_none_iff.1 htake
      obtain ⟨stage, stages, hstages, rfl, rfl⟩ := List.map_eq_cons_iff.1 henclosing
      refine .next (step_eq_of_moves (.ascend hcurrent hstages)) (ih _ ?_ rfl rfl)
      rw [← hlevel]
      rfl

/-- The steps come to the outcome of dispatch. -/
theorem ends_dispatch (grammar : Grammar) (hole : Node) (tree : Tree) :
    Ends grammar hole (start tree) (grammar.dispatchLeaving hole tree).result :=
  ends_dispatchFrom (start tree)

end Progress

/-! ## What is still to be read -/

namespace Cursor

variable {tree : Tree} {node : Node}

/-- Before the current node is visited it comes first of what is left, and afterwards the others
are left. -/
theorem rest_eq_cons (hole : Node) (hcurrent : tree.items[tree.pos]? = some node) :
    tree.rest = node :: (tree.visited hole).rest := by
  obtain ⟨hlt, rfl⟩ := List.getElem?_eq_some_iff.1 hcurrent
  rw [rest, List.drop_eq_getElem_cons hlt, rest, visited, List.drop_set_of_lt (Nat.lt_succ_self _)]

/-- Lists that agree from a place on agree from every later place on. -/
theorem drop_eq_drop_of_le {left right : List Node} {first later : Nat} (hle : first ≤ later)
    (heq : left.drop first = right.drop first) : left.drop later = right.drop later := by
  obtain ⟨more, rfl⟩ := Nat.exists_eq_add_of_le hle
  rw [← List.drop_drop, heq, List.drop_drop]

end Cursor

/-- There are no more leaves among fewer of the last nodes. -/
theorem Node.length_leavesAll_drop_le (nodes : List Node) {less more : Nat} (hle : less ≤ more) :
    (Node.leavesAll (nodes.drop more)).length ≤ (Node.leavesAll (nodes.drop less)).length := by
  induction nodes generalizing less more with
  | nil => simp
  | cons node rest ih =>
      cases more with
      | zero =>
          obtain rfl : less = 0 := by omega
          exact Nat.le_refl _
      | succ more =>
          cases less with
          | zero =>
              have hrest := ih (Nat.zero_le more)
              simp only [List.drop_succ_cons, List.drop_zero, Node.leavesAll,
                List.length_append] at hrest ⊢
              omega
          | succ less => exact ih (by omega)

/-- A reaction to the node at hand stays behind it and leaves the other nodes alone. -/
theorem Script.behind_visited {script : Script Node} {tree after : Tree} {node hole made : Node}
    (hcurrent : tree.items[tree.pos]? = some node)
    (hrun : (script.run (tree.visited hole)).result = .ok (made, after)) :
    after.items = (tree.visited hole).items ∧ tree.pos + 1 ≤ after.pos := by
  obtain ⟨hlt, -⟩ := List.getElem?_eq_some_iff.1 hcurrent
  refine Script.floor_run (Nat.le_refl _) (fun _ hsaved => nomatch hsaved) ?_ hrun
  show tree.pos + 1 ≤ (tree.items.set tree.pos hole).length
  rwa [List.length_set]

/-! ## Levels in order -/

/-- The visits of the level have been in order and are behind its position, and from there on its
nodes are as they were. -/
structure Stage.Orderly (stage : Stage) : Prop where
  visits : InOrder stage.source stage.visits
  behind : ∀ visit ∈ stage.visits, visit.index < stage.level.tree.pos
  ahead : stage.level.tree.rest = stage.source.drop stage.level.tree.pos

namespace Stage

variable {stage : Stage} {node hole : Node} {tree : Tree} {made : List Node}

/-- A level is in order at its start. -/
theorem orderly_start (tag : Option Kind) (tree : Tree) : (start tag tree).Orderly where
  visits := ⟨.nil, fun _ hvisit => nomatch hvisit⟩
  behind := fun _ hvisit => nomatch hvisit
  ahead := rfl

/-- The node at hand is the one that the level started with at its index. -/
theorem Orderly.source_eq (horderly : stage.Orderly)
    (hcurrent : stage.level.tree.items[stage.level.tree.pos]? = some node) :
    stage.source[stage.level.tree.pos]? = some node := by
  have hahead := horderly.ahead
  rw [Cursor.rest_eq_cons (.list []) hcurrent] at hahead
  have hhead := congrArg (fun nodes => nodes[0]?) hahead
  simpa using hhead.symm

/-- Behind a visit to the node at hand the nodes are those that the level started with. -/
theorem Orderly.rest_visited (horderly : stage.Orderly) (hole : Node)
    (hcurrent : stage.level.tree.items[stage.level.tree.pos]? = some node) :
    (stage.level.tree.visited hole).rest = stage.source.drop (stage.level.tree.pos + 1) := by
  have hahead := horderly.ahead
  rw [Cursor.rest_eq_cons hole hcurrent] at hahead
  rw [← List.drop_drop, ← hahead, List.drop_one, List.tail_cons]

/-- A visit to the node at hand that leads behind it and leaves the nodes ahead alone keeps the
level in order. -/
theorem Orderly.visit (horderly : stage.Orderly)
    (hcurrent : stage.level.tree.items[stage.level.tree.pos]? = some node)
    (hitems : tree.items = (stage.level.tree.visited hole).items)
    (hpos : stage.level.tree.pos + 1 ≤ tree.pos) : (stage.visit node tree made).Orderly where
  visits := by
    have hsingle := List.pairwise_singleton fun earlier later : Visit => earlier.index < later.index
    refine ⟨List.pairwise_append.2 ⟨horderly.visits.increasing, hsingle _, ?_⟩, ?_⟩
    · intro earlier hearlier later hlater
      obtain rfl := List.mem_singleton.1 hlater
      exact horderly.behind earlier hearlier
    · intro visit hvisit
      obtain hearlier | hlast := List.mem_append.1 hvisit
      · exact horderly.visits.found visit hearlier
      · obtain rfl := List.mem_singleton.1 hlast
        exact horderly.source_eq hcurrent
  behind := by
    intro visit hvisit
    obtain hearlier | hlast := List.mem_append.1 hvisit
    · exact Nat.lt_trans (horderly.behind visit hearlier) hpos
    · obtain rfl := List.mem_singleton.1 hlast
      exact hpos
  ahead := by
    refine Cursor.drop_eq_drop_of_le hpos ?_
    show tree.items.drop _ = stage.source.drop _
    rw [hitems]
    exact horderly.rest_visited hole hcurrent

/-- The end of the walk of a branch leaves the level around it in order. -/
theorem Orderly.resume {tag : Option Kind} (horderly : stage.Orderly) :
    (stage.resume tag made).Orderly :=
  ⟨horderly.visits, horderly.behind, horderly.ahead⟩

end Stage

/-- The levels around another one, the outermost of which is that of all these nodes. Each has
visited last the branch whose children are the level inside it, and has made one node of each visit
before. -/
inductive Suspended (grammar : Grammar) (nodes : List Node) : Stage → List Stage → Prop where
  | outermost {stage : Stage} (hsource : stage.source = nodes) : Suspended grammar nodes stage []
  | inside {inner parent : Stage} {outer : List Stage} {visits : List Visit} {index : Nat}
      (hvisits : parent.visits = visits ++ [⟨index, .branch inner.level.tag inner.source⟩])
      (hmade : List.Forall₂ (Gives grammar) visits parent.level.made)
      (houter : Suspended grammar nodes parent outer) :
      Suspended grammar nodes inner (parent :: outer)

/-- Only the tag of a level and the nodes that it started with matter to the levels around it. -/
theorem Suspended.congr {grammar : Grammar} {nodes : List Node} {inner other : Stage}
    {outer : List Stage} (hsuspended : Suspended grammar nodes inner outer)
    (htag : other.level.tag = inner.level.tag) (hsource : other.source = inner.source) :
    Suspended grammar nodes other outer := by
  cases hsuspended with
  | outermost hnodes => exact .outermost (hsource.trans hnodes)
  | inside hvisits hmade houter =>
      exact .inside (by rw [hvisits, htag, hsource]) hmade houter

namespace Progress

variable {grammar : Grammar} {hole : Node} {tree : Tree} {nodes : List Node}
  {progress after : Progress}

/-- All levels are in order, and the nodes made are one for each visit. -/
structure Orderly (grammar : Grammar) (nodes : List Node) (progress : Progress) : Prop where
  stages : ∀ stage ∈ progress.stages, stage.Orderly
  made : List.Forall₂ (Gives grammar) progress.current.visits progress.current.level.made
  suspended : Suspended grammar nodes progress.current progress.enclosing

/-- A dispatch is in order at its start. -/
theorem orderly_start (grammar : Grammar) (tree : Tree) :
    (start tree).Orderly grammar tree.items where
  stages stage hstage := by
    obtain rfl := List.mem_singleton.1 hstage
    exact Stage.orderly_start none tree
  made := .nil
  suspended := .outermost rfl

/-- A visit to the node at hand that gives one node keeps the dispatch in order. -/
theorem Orderly.visit {node made : Node} {tree : Tree} {calls : Nat}
    (horderly : progress.Orderly grammar nodes)
    (hcurrent : progress.tree.items[progress.tree.pos]? = some node)
    (hitems : tree.items = (progress.tree.visited hole).items)
    (hpos : progress.tree.pos + 1 ≤ tree.pos)
    (hgives : Gives grammar ⟨progress.tree.pos, node⟩ made) :
    Orderly grammar nodes ⟨progress.current.visit node tree [made], progress.enclosing, calls⟩ where
  stages := List.forall_mem_cons.2
    ⟨(horderly.stages _ List.mem_cons_self).visit hcurrent hitems hpos,
      fun stage hstage => horderly.stages stage (List.mem_cons_of_mem _ hstage)⟩
  made := List.rel_append horderly.made (.cons hgives .nil)
  suspended := horderly.suspended.congr rfl rfl

/-- The end of the walk of a branch makes the node for the visit to it. -/
theorem Orderly.resume {parent : Stage} {outer : List Stage} {calls : Nat}
    (horderly : progress.Orderly grammar nodes)
    (henclosing : progress.enclosing = parent :: outer) :
    Orderly grammar nodes
      ⟨parent.resume progress.current.level.tag progress.current.level.made, outer, calls⟩ := by
  have hstages : ∀ stage ∈ parent :: outer, stage.Orderly := fun stage hstage =>
    horderly.stages stage (List.mem_cons_of_mem _ (henclosing ▸ hstage))
  obtain ⟨hparent, hothers⟩ := List.forall_mem_cons.1 hstages
  have hsuspended := horderly.suspended
  rw [henclosing] at hsuspended
  cases hsuspended with
  | inside hvisits hmade houter =>
      refine ⟨List.forall_mem_cons.2 ⟨hparent.resume, hothers⟩, ?_, houter.congr rfl rfl⟩
      show List.Forall₂ (Gives grammar) parent.visits (_ ++ _)
      rw [hvisits]
      have hvisited := (horderly.stages _ List.mem_cons_self).visits
      exact List.rel_append hmade (.cons (.walk hvisited horderly.made) .nil)

/-- A step keeps a dispatch in order. -/
theorem Orderly.step (horderly : progress.Orderly grammar nodes)
    (hstep : progress.step grammar hole = .ok (some after)) : after.Orderly grammar nodes := by
  have hmoves : progress.Moves grammar hole _ := moves_step
  rw [hstep] at hmoves
  cases hmoves with
  | keep hcurrent hreaction =>
      exact horderly.visit hcurrent rfl (Nat.le_refl _) (.keep hreaction)
  | react htriggers hrun =>
      obtain ⟨hitems, hpos⟩ := Script.behind_visited htriggers.current hrun
      exact horderly.visit htriggers.current hitems hpos (.react htriggers.registered rfl rfl hrun)
  | descend hcurrent =>
      -- The visit to the branch is noted, and the node for it comes when its level is done.
      refine ⟨List.forall_mem_cons.2 ⟨Stage.orderly_start _ _, List.forall_mem_cons.2 ⟨?_, ?_⟩⟩,
        .nil, .inside rfl ?_ (horderly.suspended.congr rfl rfl)⟩
      · exact (horderly.stages _ List.mem_cons_self).visit hcurrent rfl (Nat.le_refl _)
      · exact fun stage hstage => horderly.stages stage (List.mem_cons_of_mem _ hstage)
      · rw [Stage.visit, List.append_nil]
        exact horderly.made
  | ascend hcurrent henclosing => exact horderly.resume henclosing

/-- Every state of a dispatch is in order. -/
theorem orderly_of_reaches (hreaches : Reaches grammar hole tree progress) :
    progress.Orderly grammar tree.items := by
  induction hreaches with
  | refl => exact orderly_start grammar tree
  | tail _ hstep ih => exact ih.step hstep

/-! ## Calls of reactions -/

/-- The leaves that no level has come upon are those of the level at hand and of the others. -/
theorem unread_eq (progress : Progress) :
    progress.unread =
      progress.current.unread + (progress.enclosing.map Stage.unread).foldr (· + ·) 0 := rfl

/-- Where there is a node at hand, its leaves are the first of those that its level has not come
upon. -/
theorem unread_current {node : Node} (hole : Node)
    (hcurrent : progress.tree.items[progress.tree.pos]? = some node) :
    progress.current.unread =
      node.leaves.length + (Node.leavesAll (progress.tree.visited hole).rest).length := by
  show (Node.leavesAll progress.tree.rest).length = _
  rw [Cursor.rest_eq_cons hole hcurrent, Node.leavesAll, List.length_append]

/-- A step calls a reaction only for a leaf, and no leaf is come upon twice. -/
theorem calls_add_unread_step_le (hstep : progress.step grammar hole = .ok (some after)) :
    after.calls + after.unread ≤ progress.calls + progress.unread := by
  have hmoves : progress.Moves grammar hole _ := moves_step
  rw [hstep] at hmoves
  cases hmoves with
  | keep hcurrent hreaction =>
      simp only [unread_eq, Stage.unread_visit, unread_current hole hcurrent]
      omega
  | @react token reaction node tree htriggers hrun =>
      obtain ⟨hitems, hpos⟩ := Script.behind_visited htriggers.current hrun
      have hless : (Node.leavesAll tree.rest).length ≤
          (Node.leavesAll (progress.tree.visited hole).rest).length := by
        rw [Cursor.rest, hitems]
        exact Node.length_leavesAll_drop_le _ hpos
      simp only [unread_eq, Stage.unread_visit, unread_current hole htriggers.current,
        Node.leaves, List.length_singleton]
      omega
  | descend hcurrent =>
      simp only [unread_eq, Stage.unread_start, Stage.unread_visit, List.map_cons, List.foldr_cons,
        unread_current hole hcurrent, Node.leaves, Cursor.rest_ofList]
      omega
  | ascend hcurrent henclosing =>
      simp only [unread_eq, Stage.unread_resume, henclosing, List.map_cons, List.foldr_cons]
      omega

/-- Every reaction called so far was called for a leaf of its own. -/
theorem calls_add_unread_le (hreaches : Reaches grammar hole tree progress) :
    progress.calls + progress.unread ≤ (Node.leavesAll tree.rest).length := by
  induction hreaches with
  | refl => exact Nat.le_of_eq (Nat.zero_add _)
  | tail _ hstep ih => exact Nat.le_trans (calls_add_unread_step_le hstep) ih

/-- The leaf of a reaction that is about to be called has not been come upon. -/
theorem Triggers.unread_pos {token : Token} {reaction : TokenReaction}
    (htriggers : progress.Triggers grammar token reaction) : 0 < progress.unread := by
  rw [unread_eq, unread_current (.list []) htriggers.current, Node.leaves,
    List.length_singleton]
  omega

/-! ## Reactions -/

/-- While a reaction runs the cursor is behind its token, and so is whatever it can go back to,
which it has moved on from itself. -/
theorem Triggers.behind {token : Token} {reaction : TokenReaction}
    (htriggers : progress.Triggers grammar token reaction) (hole : Node)
    (requests : List Request) :
    let start := progress.tree.visited hole
    let cursor := Request.runAll start requests
    progress.tree.pos + 1 ≤ cursor.pos ∧
      ∀ saved, cursor.saved = some saved →
        progress.tree.pos + 1 ≤ saved ∧ Request.anyAdvances start requests = true := by
  intro start cursor
  obtain ⟨hlt, -⟩ := List.getElem?_eq_some_iff.1 htriggers.current
  have hlength : progress.tree.pos + 1 ≤ start.length := by
    show progress.tree.pos + 1 ≤ (progress.tree.items.set progress.tree.pos hole).length
    rwa [List.length_set]
  have hfresh (saved : Nat) (hsaved : start.saved = some saved) : progress.tree.pos + 1 ≤ saved :=
    nomatch hsaved
  obtain ⟨hpos, hsaved⟩ := Request.floor_runAll requests (Nat.le_refl _) hfresh hlength
  refine ⟨hpos, fun saved hcursor => ⟨hsaved saved hcursor, ?_⟩⟩
  by_contra hstays
  have hnone : cursor.saved = none :=
    Request.saved_runAll_eq_none rfl (Bool.not_eq_true _ ▸ hstays)
  rw [hnone] at hcursor
  cases hcursor

end Progress

/-! ## Dispatch in order -/

/-- What holds of every state that a dispatch comes to, and how it ends. -/
structure Grammar.KeepsOrder (grammar : Grammar) (hole : Node) (tree : Tree) : Prop where
  /-- A reaction that returns leaves the level behind its token. -/
  pos_lt : ∀ progress token reaction node after,
    Progress.Reaches grammar hole tree progress → progress.Triggers grammar token reaction →
    ((reaction token).run (progress.tree.visited hole)).result = .ok (node, after) →
    progress.tree.pos + 1 ≤ after.pos
  /-- At every point of a reaction the cursor is behind the token, what it can go back to is so too
  and was left by an operation of this reaction, and going back before any such operation does
  nothing. -/
  history : ∀ progress token reaction requests,
    Progress.Reaches grammar hole tree progress → progress.Triggers grammar token reaction →
    requests <+: (reaction token).asked (progress.tree.visited hole) →
    let start := progress.tree.visited hole
    let cursor := Request.runAll start requests
    progress.tree.pos + 1 ≤ cursor.pos ∧
      (∀ saved, cursor.saved = some saved →
        progress.tree.pos + 1 ≤ saved ∧ Request.anyAdvances start requests = true) ∧
      (Request.anyAdvances start requests = false → cursor.unscan = cursor)
  /-- The indices visited in a level increase, and the nodes found there are those that the level
  started with. -/
  visits : ∀ progress stage, Progress.Reaches grammar hole tree progress →
    stage ∈ progress.stages → InOrder stage.source stage.visits
  /-- The node at hand is the one that its level started with, and it has not been visited. -/
  next : ∀ progress node, Progress.Reaches grammar hole tree progress →
    progress.tree.items[progress.tree.pos]? = some node →
    progress.current.source[progress.tree.pos]? = some node ∧
      ∀ visit ∈ progress.current.visits, visit.index < progress.tree.pos
  /-- The level at hand has made one node of each visit. -/
  made : ∀ progress, Progress.Reaches grammar hole tree progress →
    List.Forall₂ (Gives grammar) progress.current.visits progress.current.level.made
  /-- The levels around it have, except of the last visit, to the branch that is being walked. -/
  suspended : ∀ progress, Progress.Reaches grammar hole tree progress →
    Suspended grammar tree.items progress.current progress.enclosing
  /-- No more reactions are called than the tree has leaves, counting the one about to be called. -/
  calls : ∀ progress, Progress.Reaches grammar hole tree progress →
    progress.calls ≤ (Node.leavesAll tree.items).length ∧
      ∀ token reaction, progress.Triggers grammar token reaction →
        progress.calls < (Node.leavesAll tree.items).length
  /-- The dispatch ends, with its outcome. -/
  ends : Progress.Ends grammar hole (Progress.start tree) (grammar.dispatchLeaving hole tree).result

/-- Every dispatch goes through its levels in order. -/
theorem keepsOrder_dispatch (grammar : Grammar) (hole : Node) (tree : Tree) :
    grammar.KeepsOrder hole tree where
  pos_lt progress token reaction node after _ htriggers hrun :=
    (Script.behind_visited htriggers.current hrun).2
  history progress token reaction requests _ htriggers _ := by
    obtain ⟨hpos, hsaved⟩ := htriggers.behind hole requests
    refine ⟨hpos, hsaved, fun hstays => ?_⟩
    exact Cursor.unscan_of_saved_eq_none (Request.saved_runAll_eq_none rfl hstays)
  visits progress stage hreaches hstage :=
    ((Progress.orderly_of_reaches hreaches).stages stage hstage).visits
  next progress node hreaches hcurrent := by
    have horderly := (Progress.orderly_of_reaches hreaches).stages _ List.mem_cons_self
    exact ⟨horderly.source_eq hcurrent, horderly.behind⟩
  made progress hreaches := (Progress.orderly_of_reaches hreaches).made
  suspended progress hreaches := (Progress.orderly_of_reaches hreaches).suspended
  calls progress hreaches := by
    have hcalls := Progress.calls_add_unread_le hreaches
    have hrest := Node.length_leavesAll_drop_le tree.items (Nat.zero_le tree.pos)
    rw [List.drop_zero] at hrest
    rw [Cursor.rest] at hcalls
    refine ⟨by omega, fun token reaction htriggers => ?_⟩
    have hpos := htriggers.unread_pos
    omega
  ends := Progress.ends_dispatch grammar hole tree

/-- Tokens of kind `a` go back at once, and twice after they have read the node behind them. -/
def rewinding : Grammar :=
  Grammar.empty.addReaction ⟨"a"⟩ fun token =>
    .ask .unscan fun _ => .ask (.scan none) fun _ => .ask .unscan fun _ => .ask .unscan fun _ =>
      .done (.ok (.leaf token))

/-- A leaf of kind `a` before another leaf. -/
def siblings : Tree := .ofList [.leaf (.bare ⟨"a"⟩), .leaf (.bare ⟨"b"⟩)]

/-- Going back leads to the node behind the token and no further. -/
theorem keepsOrder_rewinding : ∃ token reaction node after,
    (Progress.start siblings).Triggers rewinding token reaction ∧
    ((reaction token).run (siblings.visited (.list []))).result = .ok (node, after) ∧
    siblings.pos + 1 ≤ after.pos ∧ after.pos = 1 := by
  have htriggers : (Progress.start siblings).Triggers rewinding (.bare ⟨"a"⟩) _ := ⟨rfl, rfl⟩
  have horder := keepsOrder_dispatch rewinding (.list []) siblings
  have hpos := horder.pos_lt _ _ _ _ _ .refl htriggers rfl
  exact ⟨_, _, _, _, htriggers, rfl, hpos, rfl⟩

end TokenTree
