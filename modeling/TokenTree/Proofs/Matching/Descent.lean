import TokenTree.Grammar.Matching

/-!
# Matching by recursive descent

The rules of matching, read as a recursion: a level is read from left to right, and the body of a
block is a level of its own that is read where the block opens. `Grammar.descend` follows the rules
one by one and keeps no stack. The pass over the stream keeps the open blocks on one instead, with
the body around each. `result_matchFrom` says what such a stack still owes to the recursion, and
`matchBlocks_eq_descend` that both give the same tree or fail for the same cause.
-/

namespace TokenTree

/-- What is read of one level: its nodes, and how many tokens they took together with the close of
the level, if it has one. -/
structure Stretch where
  nodes : List Node
  count : Nat
deriving DecidableEq

namespace Grammar

/-- The kind is the close of some block. -/
def Closes (grammar : Grammar) (kind : Kind) : Prop :=
  ∃ block ∈ grammar.blocks, block.closes = kind

instance (grammar : Grammar) (kind : Kind) : Decidable (grammar.Closes kind) :=
  inferInstanceAs (Decidable (∃ block ∈ grammar.blocks, block.closes = kind))

/-- The close that the level inside a block waits for; outside of all blocks none. -/
def expected (inside : Option (Block × Nat)) : Option Kind :=
  inside.map fun (block, _) => block.closes

/-- Read one level from a position on. The level is the body of the block in `inside`, which was
opened at the position beside it, or else the whole stream; `depth` blocks are open. -/
def descend (grammar : Grammar) (depth : Nat) (inside : Option (Block × Nat)) :
    List Token → Nat → Except Error Stretch
  | [], _ =>
      match inside with
      | none => .ok ⟨[], 0⟩
      | some (block, openedAt) =>
          .error (.unterminatedBlock block.opens block.closes openedAt)
  | token :: rest, position =>
      if expected inside = some token.kind then .ok ⟨[], 1⟩
      else if grammar.Closes token.kind then
        .error (.unbalancedDelimiter token.kind (expected inside) position)
      else
        match grammar.blocks.find? fun block => block.opens = token.kind with
        | some block =>
            if grammar.maxDepth ≤ depth then .error (.nestingTooDeep grammar.maxDepth position)
            else do
              let body ← grammar.descend (depth + 1) (some (block, position)) rest (position + 1)
              let node ← (block.reaction (.ofList body.nodes)).result
              let level ← grammar.descend depth inside (rest.drop body.count)
                (position + 1 + body.count)
              return ⟨node :: level.nodes, 1 + body.count + level.count⟩
        | none => do
            let level ← grammar.descend depth inside rest (position + 1)
            return ⟨.leaf token :: level.nodes, 1 + level.count⟩
termination_by tokens => tokens.length
decreasing_by
  all_goals simp only [List.length_drop, List.length_cons]
  all_goals omega

/-- A stream by recursive descent: its nodes from the position on, before which nothing is open. -/
def descendStream (grammar : Grammar) (stream : TokenStream) : Except Error Tree := do
  let level ← grammar.descend 0 none stream.rest stream.pos
  return .ofList level.nodes

/-! ## Rules

What one token does to the recursion, by its kind. -/

variable {grammar : Grammar} {token : Token} {rest : List Token} {position depth : Nat}

@[simp] theorem expected_none : expected none = none := rfl

@[simp] theorem expected_some {block : Block} {openedAt : Nat} :
    expected (some (block, openedAt)) = some block.closes := rfl

section Rules

variable {inside : Option (Block × Nat)}

/-- The close that is waited for ends the level. -/
theorem descend_close (hexpected : expected inside = some token.kind) :
    grammar.descend depth inside (token :: rest) position = .ok ⟨[], 1⟩ := by
  rw [descend, if_pos hexpected]

/-- Any other close is an error, which names the one that is waited for. -/
theorem descend_stray (hexpected : expected inside ≠ some token.kind)
    (hcloses : grammar.Closes token.kind) :
    grammar.descend depth inside (token :: rest) position =
      .error (.unbalancedDelimiter token.kind (expected inside) position) := by
  rw [descend, if_neg hexpected, if_pos hcloses]

/-- A token whose kind closes nothing and opens nothing is a leaf of the level. -/
theorem descend_leaf (hexpected : expected inside ≠ some token.kind)
    (hcloses : ¬ grammar.Closes token.kind) (hopens : grammar.openedBy? token.kind = none) :
    grammar.descend depth inside (token :: rest) position = (do
      let level ← grammar.descend depth inside rest (position + 1)
      return ⟨.leaf token :: level.nodes, 1 + level.count⟩) := by
  rw [openedBy?] at hopens
  rw [descend, if_neg hexpected, if_neg hcloses, hopens]

/-- An open is an error where as many blocks are open as may be. -/
theorem descend_tooDeep {block : Block} (hexpected : expected inside ≠ some token.kind)
    (hcloses : ¬ grammar.Closes token.kind) (hopens : grammar.openedBy? token.kind = some block)
    (hdepth : grammar.maxDepth ≤ depth) :
    grammar.descend depth inside (token :: rest) position =
      .error (.nestingTooDeep grammar.maxDepth position) := by
  rw [openedBy?] at hopens
  rw [descend, if_neg hexpected, if_neg hcloses, hopens]
  exact if_pos hdepth

/-- An open elsewhere begins a body, which its reaction makes a node of; then the level goes on. -/
theorem descend_block {block : Block} (hexpected : expected inside ≠ some token.kind)
    (hcloses : ¬ grammar.Closes token.kind) (hopens : grammar.openedBy? token.kind = some block)
    (hdepth : ¬ grammar.maxDepth ≤ depth) :
    grammar.descend depth inside (token :: rest) position = (do
      let body ← grammar.descend (depth + 1) (some (block, position)) rest (position + 1)
      let node ← (block.reaction (.ofList body.nodes)).result
      let level ← grammar.descend depth inside (rest.drop body.count) (position + 1 + body.count)
      return ⟨node :: level.nodes, 1 + body.count + level.count⟩) := by
  rw [openedBy?] at hopens
  rw [descend, if_neg hexpected, if_neg hcloses, hopens]
  exact if_neg hdepth

end Rules

/-! ## Steps of the pass

What one token does to the pass, as far as the result goes: what is left in the journal is of no
account. -/

variable {frame : Frame} {frames enclosing : List Frame} {body : List Node}

/-- The innermost open block with the position of its open, as far as there is one. -/
def innermost (frames : List Frame) : Option (Block × Nat) :=
  frames.head?.map fun frame => (frame.block, frame.openedAt)

@[simp] theorem innermost_nil : innermost [] = none := rfl

@[simp] theorem innermost_cons :
    innermost (frame :: enclosing) = some (frame.block, frame.openedAt) := rfl

/-- The test for a close finds the closes. -/
theorem closesAny_iff {kind : Kind} : grammar.closesAny kind = true ↔ grammar.Closes kind := by
  simp [closesAny, Closes]

/-- The role of a kind that closes some block. -/
theorem roleOf_of_closes {kind : Kind} (hcloses : grammar.Closes kind) :
    grammar.roleOf kind = .stray := by
  rw [roleOf, if_pos (closesAny_iff.2 hcloses)]

/-- The role of a kind that closes no block: it opens the first block that has it as its open. -/
theorem roleOf_of_not_closes {kind : Kind} (hcloses : ¬ grammar.Closes kind) :
    grammar.roleOf kind = (grammar.openedBy? kind).elim .plain .opening := by
  rw [roleOf, if_neg (mt closesAny_iff.1 hcloses)]
  cases grammar.openedBy? kind <;> rfl

/-- A token that the innermost block waits for ends it, and the node of its reaction goes to the
body around it. -/
theorem result_matchFrom_close (hcloses : frame.block.closes = token.kind) :
    (grammar.matchFrom (token :: rest) position (frame :: enclosing) body).result =
      (do
        let node ← (frame.block.reaction (.ofList body)).result
        (grammar.matchFrom rest (position + 1) enclosing (frame.outer ++ [node])).result) := by
  rw [matchFrom, if_pos hcloses]
  simp [noteClosed]

/-- A token that the innermost block does not wait for acts by the role of its kind. -/
theorem result_matchFrom_role (hexpected : expected (innermost frames) ≠ some token.kind) :
    (grammar.matchFrom (token :: rest) position frames body).result =
      match grammar.roleOf token.kind with
      | .stray =>
          .error (.unbalancedDelimiter token.kind (expected (innermost frames)) position)
      | .opening block =>
          if grammar.maxDepth ≤ frames.length then
            .error (.nestingTooDeep grammar.maxDepth position)
          else
            (grammar.matchFrom rest (position + 1) (⟨block, position, body⟩ :: frames) []).result
      | .plain =>
          (grammar.matchFrom rest (position + 1) frames (body ++ [.leaf token])).result := by
  have hstep : (grammar.matchFrom (token :: rest) position frames body) =
      match grammar.roleOf token.kind with
      | .stray =>
          .fail (.unbalancedDelimiter token.kind (frames.head?.map (·.block.closes)) position)
      | .opening block =>
          if grammar.maxDepth ≤ frames.length then
            .fail (.nestingTooDeep grammar.maxDepth position)
          else do
            noteOpened block position
            grammar.matchFrom rest (position + 1) (⟨block, position, body⟩ :: frames) []
      | .plain => grammar.matchFrom rest (position + 1) frames (body ++ [.leaf token]) := by
    cases frames with
    | nil => cases hrole : grammar.roleOf token.kind <;> simp only [matchFrom, hrole]
    | cons frame enclosing =>
        have hne : frame.block.closes ≠ token.kind := by simpa using hexpected
        cases hrole : grammar.roleOf token.kind <;> simp only [matchFrom, hrole, if_neg hne]
  rw [hstep]
  cases grammar.roleOf token.kind with
  | stray => cases frames <;> rfl
  | opening block =>
      by_cases hdepth : grammar.maxDepth ≤ frames.length
      · simp only [if_pos hdepth, Traced.result_fail]
      · simp only [if_neg hdepth, noteOpened, Traced.result_bind, Traced.result_note, ok_bind]
  | plain => rfl

/-! ## The pass and the recursion -/

/-- What the pass does once the level at hand is read: its nodes are the outcome where nothing is
open, and otherwise the body of the innermost block, after which the pass goes on around it. -/
def resume (grammar : Grammar) (tokens : List Token) (position : Nat) (frames : List Frame)
    (body : List Node) (level : Stretch) : Except Error (List Node) :=
  match frames with
  | [] => .ok (body ++ level.nodes)
  | frame :: enclosing => do
      let node ← (frame.block.reaction (.ofList (body ++ level.nodes))).result
      (grammar.matchFrom (tokens.drop level.count) (position + level.count) enclosing
        (frame.outer ++ [node])).result

/-- A node that is read already may count as one of the level or of the body before it. -/
theorem resume_cons {node : Node} {nodes : List Node} (skipped : Nat) {count : Nat} :
    grammar.resume (token :: rest) position frames body ⟨node :: nodes, 1 + skipped + count⟩ =
      grammar.resume (rest.drop skipped) (position + 1 + skipped) frames (body ++ [node])
        ⟨nodes, count⟩ := by
  have htokens : (token :: rest).drop (1 + skipped + count) = (rest.drop skipped).drop count := by
    rw [Nat.add_assoc, Nat.add_comm 1, List.drop_succ_cons, List.drop_drop]
  have hposition : position + (1 + skipped + count) = position + 1 + skipped + count := by omega
  cases frames with
  | nil => simp [resume]
  | cons frame enclosing => simp [resume, htokens, hposition]

/-- The pass reads the level at hand by recursive descent and then resumes around it. -/
theorem result_matchFrom (tokens : List Token) (position : Nat) (frames : List Frame)
    (body : List Node) :
    (grammar.matchFrom tokens position frames body).result =
      grammar.descend frames.length (innermost frames) tokens position >>=
        grammar.resume tokens position frames body := by
  -- On the number of tokens: the level around a block goes on after all tokens of its body.
  induction hlength : tokens.length using Nat.strongRecOn
    generalizing tokens position frames body with
  | ind length ih =>
  cases tokens with
  | nil => cases frames <;> simp [matchFrom, descend, resume]
  | cons token rest =>
      have hlt : rest.length < length := by simp [← hlength]
      by_cases hexpected : expected (innermost frames) = some token.kind
      · rw [descend_close hexpected, ok_bind]
        cases frames with
        | nil => simp at hexpected
        | cons frame enclosing =>
            have hcloses : frame.block.closes = token.kind := by simpa using hexpected
            rw [result_matchFrom_close hcloses]
            simp [resume]
      rw [result_matchFrom_role hexpected]
      by_cases hcloses : grammar.Closes token.kind
      · rw [descend_stray hexpected hcloses, roleOf_of_closes hcloses, error_bind]
      rw [roleOf_of_not_closes hcloses]
      cases hopens : grammar.openedBy? token.kind with
      | none =>
          show (grammar.matchFrom rest (position + 1) frames (body ++ [.leaf token])).result = _
          rw [descend_leaf hexpected hcloses hopens, ih _ hlt _ _ _ _ rfl, bind_assoc]
          refine bind_congr fun level => ?_
          rw [pure_bind]
          exact (resume_cons 0).symm
      | some block =>
          by_cases hdepth : grammar.maxDepth ≤ frames.length
          · rw [descend_tooDeep hexpected hcloses hopens hdepth, error_bind]
            exact if_pos hdepth
          show (if _ then _ else _) = _
          rw [if_neg hdepth, descend_block hexpected hcloses hopens hdepth, ih _ hlt _ _ _ _ rfl,
            bind_assoc]
          refine bind_congr fun inner => ?_
          -- The frame of the block itself is the first to be resumed.
          rw [resume, bind_assoc]
          refine bind_congr fun node => ?_
          have hdrop : (rest.drop inner.count).length < length := by
            rw [List.length_drop]
            omega
          rw [ih _ hdrop _ _ _ _ rfl, bind_assoc]
          refine bind_congr fun level => ?_
          rw [pure_bind]
          exact (resume_cons inner.count).symm

/-- The pass over a stream gives the tree of the recursive descent, or fails for the same cause. -/
theorem matchBlocks_eq_descend (grammar : Grammar) (stream : TokenStream) :
    (grammar.matchBlocks stream).result = grammar.descendStream stream := by
  rw [matchBlocks, Traced.result_bind, result_matchFrom, descendStream, bind_assoc]
  refine bind_congr fun level => ?_
  rw [resume, ok_bind, List.nil_append]
  rfl

end Grammar

end TokenTree
