import TokenTree.Proofs.Cursor.Runs
import TokenTree.Proofs.Matching.Viable

/-!
# Streams one after the other

A stream that is accepted leaves nothing behind but its nodes: no block is open, and what follows
is matched as it would be by itself, only with positions counted from further back. The same holds
of what stands before the position of a stream. `Pending.behind` is a state that has other tokens
before it, `advance_behind` says that a token does there what it does without them, and
`matchBlocks_append` that streams are matched one by one.
-/

namespace TokenTree

namespace Error

/-- The position of a structural error, which is that of the token it is about. -/
def place? : Error → Option Nat
  | .unbalancedDelimiter _ _ position | .unterminatedBlock _ _ position
  | .nestingTooDeep _ position => some position
  | _ => none

/-- The cause of a failure, with the position of a structural error counted from a start that lies
so many tokens before. -/
def addPosition (start : Nat) : Error → Error
  | .unbalancedDelimiter found expected position =>
      .unbalancedDelimiter found expected (start + position)
  | .unterminatedBlock opens closes position => .unterminatedBlock opens closes (start + position)
  | .nestingTooDeep limit position => .nestingTooDeep limit (start + position)
  | cause => cause

/-- A token that cannot stand where it does makes a structural error. -/
theorem isSome_place?_of_refusedAt? {cause : Error} {position : Nat}
    (hrefused : cause.refusedAt? = some position) : cause.place?.isSome = true := by
  cases cause <;> cases hrefused <;> rfl

end Error

namespace Pending

variable {start : Nat} {nodes : List Node}

/-- A body, with nodes before it if no block is around it. -/
def bodyBehind (nodes : List Node) (frames : List Frame) (body : List Node) : List Node :=
  match frames with
  | [] => nodes ++ body
  | _ :: _ => body

/-- Open blocks, with positions counted from another start and nodes before the outermost body. -/
def framesBehind (start : Nat) (nodes : List Node) : List Frame → List Frame
  | [] => []
  | frame :: enclosing =>
      ⟨frame.block, start + frame.openedAt, bodyBehind nodes enclosing frame.outer⟩ ::
        framesBehind start nodes enclosing

/-- The state behind so many tokens that make the nodes. -/
def behind (start : Nat) (nodes : List Node) (pending : Pending) : Pending :=
  ⟨framesBehind start nodes pending.frames, bodyBehind nodes pending.frames pending.body⟩

/-- What is added to a body comes last, whatever stands before it. -/
theorem bodyBehind_append (frames : List Frame) (body more : List Node) :
    bodyBehind nodes frames (body ++ more) = bodyBehind nodes frames body ++ more := by
  cases frames with
  | nil => exact (List.append_assoc nodes body more).symm
  | cons frame enclosing => rfl

/-- As many blocks are open. -/
@[simp] theorem length_framesBehind (start : Nat) (nodes : List Node) (frames : List Frame) :
    (framesBehind start nodes frames).length = frames.length := by
  induction frames with
  | nil => rfl
  | cons frame enclosing ih => rw [framesBehind, List.length_cons, List.length_cons, ih]

/-- The same close is waited for. -/
@[simp] theorem expected_framesBehind (start : Nat) (nodes : List Node) (frames : List Frame) :
    Grammar.expected (Grammar.innermost (framesBehind start nodes frames)) =
      Grammar.expected (Grammar.innermost frames) := by
  cases frames <;> rfl

/-- Tokens before a state change neither what fails at its end nor what comes of it. -/
theorem finish_behind (pending : Pending) :
    (pending.behind start nodes).finish =
      ((nodes ++ ·) <$> pending.finish).mapError (Error.addPosition start) := by
  obtain ⟨frames, body⟩ := pending
  cases frames <;> rfl

end Pending

namespace Grammar

variable {grammar : Grammar} {token : Token} {position start : Nat} {pending : Pending}
  {nodes : List Node} {cause : Error}

/-- Where reactions never fail, a token does behind other tokens what it does without them. -/
theorem advance_behind (htotal : ∀ block ∈ grammar.blocks, block.Total)
    (hlawful : pending.Lawful grammar) :
    grammar.advance token (start + position) (pending.behind start nodes) =
      (Pending.behind start nodes <$> grammar.advance token position pending).mapError
        (Error.addPosition start) := by
  have htakes := grammar.takes_advance token position pending
  generalize grammar.advance token position pending = outcome at htakes
  apply advance_eq_of_takes
  obtain ⟨frames, body⟩ := pending
  cases htakes with
  | @close frame enclosing node hframes hcloses hnode =>
      obtain rfl := hframes
      -- The body of the block is the same, and its node goes behind what is around it.
      have hbehind : (Pending.behind start nodes ⟨frame :: enclosing, body⟩).frames =
          ⟨frame.block, start + frame.openedAt, Pending.bodyBehind nodes enclosing frame.outer⟩ ::
            Pending.framesBehind start nodes enclosing := rfl
      show grammar.Takes token (start + position) _
        (.ok ⟨Pending.framesBehind start nodes enclosing,
          Pending.bodyBehind nodes enclosing (frame.outer ++ [node])⟩)
      rw [Pending.bodyBehind_append]
      exact .close hbehind hcloses hnode
  | @refuse frame enclosing cause hframes hcloses hcause =>
      obtain ⟨node, hnode⟩ := htotal _ (hlawful.mem_blocks frame (hframes ▸ List.mem_cons_self))
        (.ofList body)
      rw [hnode] at hcause
      cases hcause
  | stray hexpected hcloses =>
      show grammar.Takes token (start + position) _ (.error (.unbalancedDelimiter token.kind
        (expected (innermost frames)) (start + position)))
      rw [← Pending.expected_framesBehind start nodes] at hexpected ⊢
      exact .stray hexpected hcloses
  | tooDeep hexpected hcloses hopens hdepth =>
      rw [← Pending.expected_framesBehind start nodes] at hexpected
      rw [← Pending.length_framesBehind start nodes] at hdepth
      exact .tooDeep hexpected hcloses hopens hdepth
  | enter hexpected hcloses hopens hdepth =>
      rw [← Pending.expected_framesBehind start nodes] at hexpected
      rw [← Pending.length_framesBehind start nodes] at hdepth
      exact .enter hexpected hcloses hopens hdepth
  | leaf hexpected hplain =>
      rw [← Pending.expected_framesBehind start nodes] at hexpected
      show grammar.Takes token (start + position) _ (.ok ⟨Pending.framesBehind start nodes frames,
        Pending.bodyBehind nodes frames (body ++ [.leaf token])⟩)
      rw [Pending.bodyBehind_append]
      exact .leaf hexpected hplain

/-- Where reactions never fail, tokens do behind other tokens what they do without them. -/
theorem advanceAll_behind (htotal : ∀ block ∈ grammar.blocks, block.Total)
    (hlawful : pending.Lawful grammar) (tokens : List Token) (position start : Nat)
    (nodes : List Node) :
    grammar.advanceAll tokens (start + position) (pending.behind start nodes) =
      (Pending.behind start nodes <$> grammar.advanceAll tokens position pending).mapError
        (Error.addPosition start) := by
  induction tokens generalizing position pending with
  | nil => rfl
  | cons token rest ih =>
      rw [advanceAll, advanceAll, advance_behind htotal hlawful]
      cases hstep : grammar.advance token position pending with
      | error cause => rfl
      | ok next => exact ih (hlawful.advance hstep) (position + 1)

/-- Where reactions never fail, tokens behind others that make nodes and leave nothing open are
matched as a stream of their own. -/
theorem advanceAll_start_behind (htotal : ∀ block ∈ grammar.blocks, block.Total)
    (tokens : List Token) (start : Nat) (nodes : List Node) :
    (do
      let pending ← grammar.advanceAll tokens start (Pending.start.behind start nodes)
      let body ← pending.finish
      return Cursor.ofList body) =
      ((fun tree => .ofList (nodes ++ tree.items)) <$>
        (grammar.matchBlocks (.ofList tokens)).result).mapError (Error.addPosition start) := by
  have hbehind := advanceAll_behind htotal (Pending.lawful_start grammar) tokens 0 start nodes
  rw [Nat.add_zero] at hbehind
  rw [hbehind, result_matchBlocks]
  show _ = (_ <$> (grammar.advanceAll tokens 0 .start >>= _)).mapError _
  cases grammar.advanceAll tokens 0 .start with
  | error cause => rfl
  | ok pending =>
      show ((pending.behind start nodes).finish >>= _) = (_ <$> (pending.finish >>= _)).mapError _
      rw [Pending.finish_behind]
      cases pending.finish <;> rfl

/-- Where reactions never fail, matching fails for a structural error only. -/
theorem isSome_place?_of_matchBlocks (htotal : ∀ block ∈ grammar.blocks, block.Total)
    {stream : TokenStream} (hfail : (grammar.matchBlocks stream).result = .error cause) :
    cause.place?.isSome = true := by
  rw [result_matchBlocks] at hfail
  cases hsteps : grammar.advanceAll stream.rest stream.pos .start with
  | ok pending =>
      rw [hsteps, ok_bind] at hfail
      obtain ⟨frames, body⟩ := pending
      cases frames with
      | nil => cases hfail
      | cons frame enclosing =>
          obtain rfl := Except.error.inj hfail
          rfl
  | error other =>
      rw [hsteps, error_bind] at hfail
      obtain rfl := Except.error.inj hfail
      obtain ⟨front, token, rest, reached, -, hfront, hfailing⟩ :=
        exists_of_advanceAll_eq_error hsteps
      have hlawful := (Pending.lawful_start grammar).advanceAll hfront
      exact Error.isSome_place?_of_refusedAt? (refusedAt?_of_advance htotal hlawful hfailing)

/-- Where reactions never fail, tokens behind a stream that is accepted make the nodes that they
make as a stream of their own, after those of the stream, and fail where they fail by themselves,
for the same structural error with its position counted from the start of the stream. So do the
tokens of a stream from its position on. -/
theorem matchBlocks_append (htotal : ∀ block ∈ grammar.blocks, block.Total) :
    (∀ (first : TokenStream) (tree : Tree) (second : List Token), first.pos ≤ first.length →
      (grammar.matchBlocks first).result = .ok tree →
      (grammar.matchBlocks { first with items := first.items ++ second }).result =
        ((fun other => .ofList (tree.items ++ other.items)) <$>
          (grammar.matchBlocks (.ofList second)).result).mapError
            (Error.addPosition first.length)) ∧
    (∀ stream : TokenStream, (grammar.matchBlocks stream).result =
      (grammar.matchBlocks (.ofList stream.rest)).result.mapError
        (Error.addPosition stream.pos)) ∧
    ∀ (stream : TokenStream) (cause : Error),
      (grammar.matchBlocks stream).result = .error cause → cause.place?.isSome = true := by
  refine ⟨?_, ?_, fun stream cause => isSome_place?_of_matchBlocks htotal⟩
  · intro first tree second hpos hfirst
    rw [result_matchBlocks] at hfirst
    obtain ⟨⟨frames, body⟩, hsteps, hfinish⟩ := bind_eq_ok_iff.1 hfirst
    cases frames with
    | cons frame enclosing => cases hfinish
    | nil =>
        obtain rfl := Except.ok.inj hfinish
        have hlength : first.pos + first.rest.length = first.length := by
          rw [Cursor.rest, List.length_drop]
          unfold Cursor.length at hpos ⊢
          omega
        have hrest : Cursor.rest { first with items := first.items ++ second } =
            first.rest ++ second := List.drop_append_of_le_length hpos
        have hbehind : (⟨[], body⟩ : Pending) = Pending.start.behind first.length body := by
          show _ = (⟨[], body ++ []⟩ : Pending)
          rw [List.append_nil]
        show _ = (_ <$> _ : Except Error Tree).mapError _
        rw [result_matchBlocks, hrest]
        show (grammar.advanceAll (first.rest ++ second) first.pos .start >>= _) = _
        rw [advanceAll_append, hsteps, ok_bind, hlength, hbehind]
        exact advanceAll_start_behind htotal second first.length body
  · intro stream
    have hbehind := advanceAll_start_behind htotal stream.rest stream.pos []
    rw [result_matchBlocks]
    refine Eq.trans hbehind ?_
    rw [mapError_map]
    cases hresult : (grammar.matchBlocks (.ofList stream.rest)).result with
    | error cause => rfl
    | ok tree =>
        rw [result_matchBlocks] at hresult
        obtain ⟨pending, -, hfinish⟩ := bind_eq_ok_iff.1 hresult
        obtain ⟨body, -, hbody⟩ := bind_eq_ok_iff.1 hfinish
        obtain rfl := Except.ok.inj hbody
        rfl

/-- Blocks that clash have reactions that never fail. -/
theorem total_clashing : ∀ block ∈ (ofSteps clashing).blocks, block.Total := by
  intro block hblock
  have hwraps := wrapsBody_ofSteps (show clashing.all Step.leavesBodies = true from rfl)
  exact (hwraps block hblock).total

/-- A list in parentheses. -/
def parenthesised : TokenStream := .ofList [.bare ⟨"("⟩, .bare ⟨"x"⟩, .bare ⟨")"⟩]

/-- A list that is never closed is reported at its open, behind a list in parentheses as by itself,
only further back. -/
theorem matchBlocks_append_parenthesised :
    ((ofSteps clashing).matchBlocks parenthesised).result =
      .ok (.ofList [.tagged ⟨"paren"⟩ [.leaf (.bare ⟨"x"⟩)]]) ∧
    ((ofSteps clashing).matchBlocks (.ofList [.bare ⟨"y"⟩, .bare ⟨"["⟩])).result =
      .error (.unterminatedBlock ⟨"["⟩ ⟨"]"⟩ 1) ∧
    ((ofSteps clashing).matchBlocks
      { parenthesised with items := parenthesised.items ++ [.bare ⟨"y"⟩, .bare ⟨"["⟩] }).result =
        .error (.unterminatedBlock ⟨"["⟩ ⟨"]"⟩ 4) := by
  have hfirst : ((ofSteps clashing).matchBlocks parenthesised).result =
      .ok (.ofList [.tagged ⟨"paren"⟩ [.leaf (.bare ⟨"x"⟩)]]) := rfl
  have hsecond : ((ofSteps clashing).matchBlocks (.ofList [.bare ⟨"y"⟩, .bare ⟨"["⟩])).result =
      .error (.unterminatedBlock ⟨"["⟩ ⟨"]"⟩ 1) := rfl
  obtain ⟨happend, -, -⟩ := matchBlocks_append total_clashing
  refine ⟨hfirst, hsecond, ?_⟩
  rw [happend parenthesised _ [.bare ⟨"y"⟩, .bare ⟨"["⟩] (by decide) hfirst, hsecond]
  rfl

end Grammar

end TokenTree
