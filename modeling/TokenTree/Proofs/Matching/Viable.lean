import TokenTree.Proofs.Grammar.Bodies
import TokenTree.Proofs.Matching.Steps

/-!
# The earliest place of a structural error

A token that cannot stand where it does is refused there, and no earlier token is. Where reactions
never fail, `matchBlocks_refuses_earliest` says both: whatever follows the refused token, the stream
is refused at it for the same cause, while the tokens before it can be completed by closes alone.
The completion closes the open blocks, the innermost first.
-/

namespace TokenTree

/-- The position of a token that cannot stand where it does. -/
def Error.refusedAt? : Error → Option Nat
  | .unbalancedDelimiter _ _ position | .nestingTooDeep _ position => some position
  | _ => none

namespace Cursor

variable {ι : Type} {cursor other : Cursor ι}

/-- The cursors stand at one position and have the same items from there through the last one. -/
structure SameThrough (last : Nat) (cursor other : Cursor ι) : Prop where
  pos_eq : other.pos = cursor.pos
  items_eq : ∀ index, cursor.pos ≤ index → index ≤ last → other.items[index]? = cursor.items[index]?

/-- What is not read yet starts alike. -/
theorem SameThrough.rest_eq {front more : List ι} {item : ι}
    (hsame : SameThrough (cursor.pos + front.length) cursor other)
    (hrest : cursor.rest = front ++ item :: more) :
    ∃ others, other.rest = front ++ item :: others := by
  have htake : other.rest.take (front.length + 1) = front ++ [item] := by
    have hfront : cursor.rest.take (front.length + 1) = front ++ [item] := by
      rw [hrest, List.take_length_add_append, List.take_succ_cons, List.take_zero]
    rw [← hfront]
    refine List.ext_getElem? fun index => ?_
    by_cases hindex : index < front.length + 1
    · simp only [List.getElem?_take_of_lt hindex, rest, List.getElem?_drop, hsame.pos_eq]
      exact hsame.items_eq _ (Nat.le_add_right _ _) (by omega)
    · rw [List.getElem?_take_eq_none (by omega), List.getElem?_take_eq_none (by omega)]
  refine ⟨other.rest.drop (front.length + 1), ?_⟩
  rw [← List.take_append_drop (front.length + 1) other.rest, htake]
  simp

end Cursor

namespace Grammar

variable {grammar : Grammar} {token : Token} {tokens : List Token} {position : Nat}
  {pending next : Pending} {cause : Error}

/-- Where reactions never fail, the cause of a failure is the place of the token or its depth. -/
theorem refusedAt?_of_advance (htotal : ∀ block ∈ grammar.blocks, block.Total)
    (hlawful : pending.Lawful grammar)
    (hfail : grammar.advance token position pending = .error cause) :
    cause.refusedAt? = some position := by
  have htakes := grammar.takes_advance token position pending
  rw [hfail] at htakes
  cases htakes with
  | refuse hframes hcloses hcause =>
      have hmem := hlawful.mem_blocks _ (hframes ▸ List.mem_cons_self)
      obtain ⟨node, hnode⟩ := htotal _ hmem (.ofList pending.body)
      rw [hnode] at hcause
      cases hcause
  | stray | tooDeep => rfl

/-- The closes that open blocks wait for, in the order in which they wait. -/
def closesOf (frames : List Frame) : List Token := frames.map fun frame => .bare frame.block.closes

/-- The open blocks of a lawful state are closed by the closes that they wait for. -/
theorem exists_advanceAll_closesOf (htotal : ∀ block ∈ grammar.blocks, block.Total)
    (frames : List Frame) (body : List Node) (position : Nat)
    (hblocks : ∀ frame ∈ frames, frame.block ∈ grammar.blocks) :
    ∃ nodes, grammar.advanceAll (closesOf frames) position ⟨frames, body⟩ = .ok ⟨[], nodes⟩ := by
  induction frames generalizing body position with
  | nil => exact ⟨body, rfl⟩
  | cons frame enclosing ih =>
      obtain ⟨hframe, hothers⟩ := List.forall_mem_cons.1 hblocks
      obtain ⟨node, hnode⟩ := htotal _ hframe (.ofList body)
      obtain ⟨nodes, hnodes⟩ := ih (frame.outer ++ [node]) (position + 1) hothers
      refine ⟨nodes, ?_⟩
      have hclose : grammar.advance (.bare frame.block.closes) position ⟨frame :: enclosing, body⟩ =
          .ok ⟨enclosing, frame.outer ++ [node]⟩ := by
        rw [advance_close (by rfl), hnode]
        rfl
      rw [closesOf, List.map_cons, advanceAll, hclose, ok_bind]
      exact hnodes

/-- A stream that goes on with a token which the tokens before it refuse is refused. -/
theorem result_matchBlocks_of_refused {stream : TokenStream} {front rest : List Token}
    {reached : Pending} (hrest : stream.rest = front ++ token :: rest)
    (hfront : grammar.advanceAll front stream.pos .start = .ok reached)
    (hrefused : grammar.advance token (stream.pos + front.length) reached = .error cause) :
    (grammar.matchBlocks stream).result = .error cause := by
  rw [result_matchBlocks, hrest, advanceAll_append, hfront, ok_bind, advanceAll, hrefused,
    error_bind, error_bind]

/-- Tokens that can be taken can be completed by closes alone. -/
theorem exists_completion (htotal : ∀ block ∈ grammar.blocks, block.Total) {front : List Token}
    {reached : Pending} (hfront : grammar.advanceAll front position .start = .ok reached) :
    ∃ closes : List Token, (∀ close ∈ closes, grammar.Closes close.kind) ∧
      ∀ stream : TokenStream, stream.pos = position → stream.rest = front ++ closes →
        ∃ tree, (grammar.matchBlocks stream).result = .ok tree := by
  have hlawful : reached.Lawful grammar := (Pending.lawful_start grammar).advanceAll hfront
  refine ⟨closesOf reached.frames, fun close hclose => ?_, fun stream hpos hrest => ?_⟩
  · obtain ⟨frame, hframe, rfl⟩ := List.mem_map.1 hclose
    exact ⟨frame.block, hlawful.mem_blocks frame hframe, rfl⟩
  · obtain ⟨nodes, hnodes⟩ := exists_advanceAll_closesOf htotal reached.frames reached.body
      (position + front.length) hlawful.mem_blocks
    refine ⟨.ofList nodes, ?_⟩
    rw [result_matchBlocks, hpos, hrest, advanceAll_append, hfront, ok_bind, hnodes]
    rfl

/-- Where reactions never fail, a token that cannot stand where it does is refused there whatever
follows it, and the tokens before it can be completed by closes alone. -/
theorem matchBlocks_refuses_earliest (htotal : ∀ block ∈ grammar.blocks, block.Total)
    (stream : TokenStream) (hfail : (grammar.matchBlocks stream).result = .error cause)
    (hrefused : cause.refusedAt? = some position) :
    stream.pos ≤ position ∧ position < stream.length ∧
    (∀ other : TokenStream, Cursor.SameThrough position stream other →
      (grammar.matchBlocks other).result = .error cause) ∧
    ∃ closes : List Token, (∀ close ∈ closes, grammar.Closes close.kind) ∧
      ∃ tree, (grammar.matchBlocks
        { stream with items := stream.items.take position ++ closes }).result = .ok tree := by
  rw [result_matchBlocks] at hfail
  cases hsteps : grammar.advanceAll stream.rest stream.pos .start with
  | ok pending =>
      -- All tokens are taken, so what fails is the end inside a block.
      rw [hsteps, ok_bind] at hfail
      obtain ⟨frames, body⟩ := pending
      cases frames with
      | nil => cases hfail
      | cons frame enclosing =>
          obtain rfl := Except.error.inj hfail
          cases hrefused
  | error other =>
      rw [hsteps, error_bind] at hfail
      obtain rfl := Except.error.inj hfail
      obtain ⟨front, token, more, reached, hrest, hfront, hfailing⟩ :=
        exists_of_advanceAll_eq_error hsteps
      have hlawful : reached.Lawful grammar := (Pending.lawful_start grammar).advanceAll hfront
      obtain rfl : stream.pos + front.length = position := by
        rw [refusedAt?_of_advance htotal hlawful hfailing] at hrefused
        exact Option.some.inj hrefused
      have hlt : stream.pos + front.length < stream.length := by
        have hlength := congrArg List.length hrest
        rw [Cursor.rest, List.length_drop, List.length_append, List.length_cons] at hlength
        show _ < stream.items.length
        omega
      refine ⟨Nat.le_add_right _ _, hlt, fun other hsame => ?_, ?_⟩
      · obtain ⟨others, hothers⟩ := hsame.rest_eq hrest
        rw [← hsame.pos_eq] at hfront hfailing
        exact result_matchBlocks_of_refused hothers hfront hfailing
      · obtain ⟨closes, hcloses, hcomplete⟩ := exists_completion htotal hfront
        refine ⟨closes, hcloses, hcomplete _ rfl ?_⟩
        have hpos : stream.pos ≤ stream.items.length := by
          have : stream.items.length = stream.length := rfl
          omega
        have htake : (stream.items.take (stream.pos + front.length)).drop stream.pos = front := by
          rw [List.drop_take, Nat.add_sub_cancel_left]
          exact (congrArg (List.take front.length) hrest).trans List.take_left
        show (stream.items.take (stream.pos + front.length) ++ closes).drop stream.pos = _
        rw [List.drop_append_of_le_length (by rw [List.length_take]; omega), htake]

/-- A list in parentheses that is read from its second token on, with one open too many inside. -/
def overfull : TokenStream :=
  ⟨[.bare ⟨")"⟩, .bare ⟨"("⟩, .bare ⟨"x"⟩, .bare ⟨"["⟩, .bare ⟨"("⟩, .bare ⟨"]"⟩], 1, none⟩

/-- Where two blocks may be open at once, the third open is refused whatever follows it, and the
tokens before it can be completed. -/
theorem matchBlocks_refuses_overfull :
    ((ofSteps clashing).matchBlocks overfull).result = .error (.nestingTooDeep 2 4) ∧
    (∀ other : TokenStream, Cursor.SameThrough 4 overfull other →
      ((ofSteps clashing).matchBlocks other).result = .error (.nestingTooDeep 2 4)) ∧
    ∃ closes : List Token, (∀ close ∈ closes, (ofSteps clashing).Closes close.kind) ∧
      ∃ tree, ((ofSteps clashing).matchBlocks
        { overfull with items := overfull.items.take 4 ++ closes }).result = .ok tree := by
  have hfail : ((ofSteps clashing).matchBlocks overfull).result =
      .error (.nestingTooDeep 2 4) := rfl
  have hwraps := wrapsBody_ofSteps (show clashing.all Step.leavesBodies = true from rfl)
  obtain ⟨-, -, hsame, hcompletion⟩ :=
    matchBlocks_refuses_earliest (fun block hblock => (hwraps block hblock).total) overfull hfail
      rfl
  exact ⟨hfail, hsame, hcompletion⟩

end Grammar

end TokenTree
