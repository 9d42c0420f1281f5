import TokenTree.Proofs.Matching.Forest

/-!
# Matching token by token

The pass over a stream as a machine. Between two tokens it stands at a `Pending`: the blocks that
are open and the body at hand. `Grammar.advance` is what one token does there, `Takes` lists what
that can be with the conditions of each case, and `Grammar.advanceAll` takes the tokens in turn.
`result_matchBlocks` says that the pass takes all tokens from the position of the stream on and that
no block may be open afterwards. `Pending.Lawful` holds of every state on the way: the open blocks
are those of the grammar, and no more of them are open than allowed.
-/

namespace TokenTree

/-- Where a pass stands between two tokens: the open blocks, innermost first, and the body of the
innermost one so far. -/
structure Pending where
  frames : List Frame
  body : List Node

namespace Pending

/-- Before the first token nothing is open and nothing is read. -/
def start : Pending := ⟨[], []⟩

/-- The nodes of a pass whose tokens have ended, unless a block is still open. -/
def finish : Pending → Except Error (List Node)
  | ⟨[], body⟩ => .ok body
  | ⟨frame :: _, _⟩ =>
      .error (.unterminatedBlock frame.block.opens frame.block.closes frame.openedAt)

end Pending

namespace Grammar

/-- What a token does that does not close the innermost block. -/
def byRole (grammar : Grammar) (token : Token) (position : Nat) (pending : Pending) :
    Except Error Pending :=
  match grammar.roleOf token.kind with
  | .stray =>
      .error (.unbalancedDelimiter token.kind (expected (innermost pending.frames)) position)
  | .opening block =>
      if grammar.maxDepth ≤ pending.frames.length then
        .error (.nestingTooDeep grammar.maxDepth position)
      else .ok ⟨⟨block, position, pending.body⟩ :: pending.frames, []⟩
  | .plain => .ok ⟨pending.frames, pending.body ++ [.leaf token]⟩

/-- What a token does. -/
def advance (grammar : Grammar) (token : Token) (position : Nat) : Pending → Except Error Pending
  | ⟨[], body⟩ => grammar.byRole token position ⟨[], body⟩
  | ⟨frame :: enclosing, body⟩ =>
      if frame.block.closes = token.kind then do
        let node ← (frame.block.reaction (.ofList body)).result
        return ⟨enclosing, frame.outer ++ [node]⟩
      else grammar.byRole token position ⟨frame :: enclosing, body⟩

/-- What several tokens do one after the other, the first of them at a position. -/
def advanceAll (grammar : Grammar) : List Token → Nat → Pending → Except Error Pending
  | [], _, pending => .ok pending
  | token :: rest, position, pending => do
      grammar.advanceAll rest (position + 1) (← grammar.advance token position pending)

/-! ## Cases of a step -/

/-- What a token can do, and when. -/
inductive Takes (grammar : Grammar) (token : Token) (position : Nat) (pending : Pending) :
    Except Error Pending → Prop where
  /-- It closes the innermost block, whose reaction makes a node of the body. -/
  | close {frame : Frame} {enclosing : List Frame} {node : Node}
      (hframes : pending.frames = frame :: enclosing) (hcloses : frame.block.closes = token.kind)
      (hnode : (frame.block.reaction (.ofList pending.body)).result = .ok node) :
      Takes grammar token position pending (.ok ⟨enclosing, frame.outer ++ [node]⟩)
  /-- It closes the innermost block, whose reaction fails. -/
  | refuse {frame : Frame} {enclosing : List Frame} {cause : Error}
      (hframes : pending.frames = frame :: enclosing) (hcloses : frame.block.closes = token.kind)
      (hcause : (frame.block.reaction (.ofList pending.body)).result = .error cause) :
      Takes grammar token position pending (.error cause)
  /-- It closes some other block. -/
  | stray (hexpected : expected (innermost pending.frames) ≠ some token.kind)
      (hcloses : grammar.Closes token.kind) :
      Takes grammar token position pending
        (.error (.unbalancedDelimiter token.kind (expected (innermost pending.frames)) position))
  /-- It would open a block too many. -/
  | tooDeep {block : Block} (hexpected : expected (innermost pending.frames) ≠ some token.kind)
      (hcloses : ¬ grammar.Closes token.kind)
      (hopens : grammar.openedBy? token.kind = some block)
      (hdepth : grammar.maxDepth ≤ pending.frames.length) :
      Takes grammar token position pending (.error (.nestingTooDeep grammar.maxDepth position))
  /-- It opens a block. -/
  | enter {block : Block} (hexpected : expected (innermost pending.frames) ≠ some token.kind)
      (hcloses : ¬ grammar.Closes token.kind)
      (hopens : grammar.openedBy? token.kind = some block)
      (hdepth : pending.frames.length < grammar.maxDepth) :
      Takes grammar token position pending
        (.ok ⟨⟨block, position, pending.body⟩ :: pending.frames, []⟩)
  /-- It is a leaf of the body. -/
  | leaf (hexpected : expected (innermost pending.frames) ≠ some token.kind)
      (hplain : grammar.Plain token.kind) :
      Takes grammar token position pending (.ok ⟨pending.frames, pending.body ++ [.leaf token]⟩)

variable {grammar : Grammar} {token : Token} {tokens : List Token} {position : Nat}
  {pending next : Pending} {cause : Error}

/-- A token that closes no block at hand does what its role says. -/
theorem takes_byRole (hexpected : expected (innermost pending.frames) ≠ some token.kind) :
    grammar.Takes token position pending (grammar.byRole token position pending) := by
  rw [byRole]
  by_cases hcloses : grammar.Closes token.kind
  · rw [roleOf_of_closes hcloses]
    exact .stray hexpected hcloses
  rw [roleOf_of_not_closes hcloses]
  cases hopens : grammar.openedBy? token.kind with
  | none => exact .leaf hexpected (plain_of_openedBy?_eq_none hcloses hopens)
  | some block =>
      show grammar.Takes token position pending (if _ then _ else _)
      split
      · next hdepth => exact .tooDeep hexpected hcloses hopens hdepth
      · next hdepth => exact .enter hexpected hcloses hopens (Nat.lt_of_not_le hdepth)

/-- A token that does not close the innermost block does what its role says. -/
theorem advance_of_ne (hexpected : expected (innermost pending.frames) ≠ some token.kind) :
    grammar.advance token position pending = grammar.byRole token position pending := by
  obtain ⟨frames, body⟩ := pending
  cases frames with
  | nil => rfl
  | cons frame enclosing => rw [advance, if_neg (by simpa using hexpected)]

/-- The innermost block is closed by the token that it waits for. -/
theorem advance_close {frame : Frame} {enclosing : List Frame} {body : List Node}
    (hcloses : frame.block.closes = token.kind) :
    grammar.advance token position ⟨frame :: enclosing, body⟩ = (do
      let node ← (frame.block.reaction (.ofList body)).result
      return ⟨enclosing, frame.outer ++ [node]⟩) := by
  rw [advance, if_pos hcloses]

/-- Whatever a token does, the conditions of it hold. -/
theorem takes_advance (grammar : Grammar) (token : Token) (position : Nat) (pending : Pending) :
    grammar.Takes token position pending (grammar.advance token position pending) := by
  by_cases hexpected : expected (innermost pending.frames) = some token.kind
  · obtain ⟨frames, body⟩ := pending
    cases frames with
    | nil => cases hexpected
    | cons frame enclosing =>
        have hcloses : frame.block.closes = token.kind := by simpa using hexpected
        rw [advance_close hcloses]
        cases hnode : (frame.block.reaction (.ofList body)).result with
        | ok node => exact .close rfl hcloses hnode
        | error cause => exact .refuse rfl hcloses hnode
  · rw [advance_of_ne hexpected]
    exact takes_byRole hexpected

/-- A token does what the conditions that hold of it say. -/
theorem advance_eq_of_takes {outcome : Except Error Pending}
    (htakes : grammar.Takes token position pending outcome) :
    grammar.advance token position pending = outcome := by
  obtain ⟨frames, body⟩ := pending
  cases htakes with
  | close hframes hcloses hnode =>
      obtain rfl := hframes
      rw [advance_close hcloses, hnode]
      rfl
  | refuse hframes hcloses hcause =>
      obtain rfl := hframes
      rw [advance_close hcloses, hcause]
      rfl
  | stray hexpected hcloses => rw [advance_of_ne hexpected, byRole, roleOf_of_closes hcloses]
  | tooDeep hexpected hcloses hopens hdepth =>
      rw [advance_of_ne hexpected, byRole, roleOf_of_not_closes hcloses, hopens]
      exact if_pos hdepth
  | enter hexpected hcloses hopens hdepth =>
      rw [advance_of_ne hexpected, byRole, roleOf_of_not_closes hcloses, hopens]
      exact if_neg (Nat.not_le_of_lt hdepth)
  | leaf hexpected hplain =>
      rw [advance_of_ne hexpected, byRole, roleOf_of_not_closes hplain.not_closes,
        hplain.openedBy?_eq_none]
      rfl

/-! ## The pass as steps -/

/-- The pass takes a token and goes on from the state that it leads to. -/
theorem result_matchFrom_cons (rest : List Token) (frames : List Frame) (body : List Node) :
    (grammar.matchFrom (token :: rest) position frames body).result =
      grammar.advance token position ⟨frames, body⟩ >>= fun next =>
        (grammar.matchFrom rest (position + 1) next.frames next.body).result := by
  have hrole (hexpected : expected (innermost frames) ≠ some token.kind) :
      (grammar.matchFrom (token :: rest) position frames body).result =
        grammar.byRole token position ⟨frames, body⟩ >>= fun next =>
          (grammar.matchFrom rest (position + 1) next.frames next.body).result := by
    rw [result_matchFrom_role hexpected, byRole]
    cases grammar.roleOf token.kind with
    | stray | plain => rfl
    | opening block => dsimp only; split <;> rfl
  cases frames with
  | nil => exact hrole (by simp)
  | cons frame enclosing =>
      by_cases hcloses : frame.block.closes = token.kind
      · rw [result_matchFrom_close hcloses, advance_close hcloses, bind_assoc]
        rfl
      · rw [hrole (by simpa using hcloses), advance, if_neg hcloses]

/-- The pass takes the tokens in turn, and at their end nothing may be open. -/
theorem result_matchFrom_eq_advanceAll (grammar : Grammar) (tokens : List Token) (position : Nat)
    (pending : Pending) :
    (grammar.matchFrom tokens position pending.frames pending.body).result =
      grammar.advanceAll tokens position pending >>= Pending.finish := by
  induction tokens generalizing position pending with
  | nil =>
      obtain ⟨frames, body⟩ := pending
      cases frames <;> simp [matchFrom, advanceAll, Pending.finish]
  | cons token rest ih =>
      rw [result_matchFrom_cons, advanceAll, bind_assoc]
      exact bind_congr fun next => ih _ next

/-- A stream is matched by taking its tokens from the position on. -/
theorem result_matchBlocks (grammar : Grammar) (stream : TokenStream) :
    (grammar.matchBlocks stream).result = (do
      let pending ← grammar.advanceAll stream.rest stream.pos .start
      let body ← pending.finish
      return .ofList body) := by
  rw [matchBlocks, Traced.result_bind]
  have hsteps := grammar.result_matchFrom_eq_advanceAll stream.rest stream.pos .start
  rw [show (grammar.matchFrom stream.rest stream.pos [] []).result = _ from hsteps, bind_assoc]
  rfl

/-- Tokens in two parts are taken part by part. -/
theorem advanceAll_append (first second : List Token) (position : Nat) (pending : Pending) :
    grammar.advanceAll (first ++ second) position pending =
      grammar.advanceAll first position pending >>=
        grammar.advanceAll second (position + first.length) := by
  induction first generalizing position pending with
  | nil => rfl
  | cons token rest ih =>
      rw [List.cons_append, advanceAll, advanceAll, bind_assoc]
      refine bind_congr fun next => ?_
      rw [ih, List.length_cons, Nat.add_assoc, Nat.add_comm 1]

/-- A failure is that of a token which the tokens before it lead to. -/
theorem exists_of_advanceAll_eq_error
    (hfail : grammar.advanceAll tokens position pending = .error cause) :
    ∃ front token rest reached, tokens = front ++ token :: rest ∧
      grammar.advanceAll front position pending = .ok reached ∧
      grammar.advance token (position + front.length) reached = .error cause := by
  induction tokens generalizing position pending with
  | nil => cases hfail
  | cons token rest ih =>
      rw [advanceAll] at hfail
      cases hstep : grammar.advance token position pending with
      | error other =>
          rw [hstep, error_bind] at hfail
          exact ⟨[], token, rest, pending, rfl, rfl, by rw [← hfail, ← hstep]; rfl⟩
      | ok next =>
          rw [hstep, ok_bind] at hfail
          obtain ⟨front, failing, others, reached, rfl, hfront, hfailing⟩ := ih hfail
          refine ⟨token :: front, failing, others, reached, rfl, ?_, ?_⟩
          · rw [advanceAll, hstep, ok_bind, hfront]
          · rw [List.length_cons, ← Nat.add_assoc, Nat.add_right_comm]
            exact hfailing

end Grammar

/-! ## States on the way -/

namespace Pending

/-- The open blocks are those of the grammar, and no more of them are open than allowed. -/
structure Lawful (grammar : Grammar) (pending : Pending) : Prop where
  mem_blocks : ∀ frame ∈ pending.frames, frame.block ∈ grammar.blocks
  length_le : pending.frames.length ≤ grammar.maxDepth

variable {grammar : Grammar} {token : Token} {tokens : List Token} {position : Nat}
  {pending next : Pending}

/-- The state before the first token is lawful. -/
theorem lawful_start (grammar : Grammar) : start.Lawful grammar where
  mem_blocks _ hframe := nomatch hframe
  length_le := Nat.zero_le _

/-- What an open block waits for closes a block of the grammar. -/
theorem Lawful.closes_of_expected {kind : Kind} (hlawful : pending.Lawful grammar)
    (hexpected : Grammar.expected (Grammar.innermost pending.frames) = some kind) :
    grammar.Closes kind := by
  obtain ⟨frames, body⟩ := pending
  cases frames with
  | nil => cases hexpected
  | cons frame enclosing =>
      exact ⟨frame.block, hlawful.mem_blocks frame List.mem_cons_self, by simpa using hexpected⟩

/-- A token keeps a state lawful. -/
theorem Lawful.advance (hlawful : pending.Lawful grammar)
    (hstep : grammar.advance token position pending = .ok next) : next.Lawful grammar := by
  obtain ⟨hblocks, hlength⟩ := hlawful
  have htakes := grammar.takes_advance token position pending
  rw [hstep] at htakes
  cases htakes with
  | close hframes hcloses hnode =>
      rw [hframes] at hblocks hlength
      exact ⟨fun frame hframe => hblocks frame (List.mem_cons_of_mem _ hframe),
        Nat.le_of_succ_le hlength⟩
  | enter hexpected hcloses hopens hdepth =>
      refine ⟨fun frame hframe => ?_, hdepth⟩
      obtain rfl | houter := List.mem_cons.1 hframe
      · exact (Grammar.mem_of_openedBy? hopens).1
      · exact hblocks frame houter
  | leaf hexpected hplain => exact ⟨hblocks, hlength⟩

/-- Tokens keep a state lawful. -/
theorem Lawful.advanceAll (hlawful : pending.Lawful grammar)
    (hsteps : grammar.advanceAll tokens position pending = .ok next) : next.Lawful grammar := by
  induction tokens generalizing position pending with
  | nil =>
      obtain rfl := Except.ok.inj hsteps
      exact hlawful
  | cons token rest ih =>
      rw [Grammar.advanceAll, bind_eq_ok_iff] at hsteps
      obtain ⟨middle, hstep, hrest⟩ := hsteps
      exact ih (hlawful.advance hstep) hrest

end Pending

end TokenTree
