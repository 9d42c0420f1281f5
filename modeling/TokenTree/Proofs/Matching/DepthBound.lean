import TokenTree.Proofs.Matching.Accounts
import TokenTree.Proofs.Matching.Concatenation

/-!
# The bound on open blocks

A bound on open blocks does one thing only: it refuses the first open that would make more blocks
open than it allows, unless a close that fits nowhere was refused before. How many blocks are open
is counted on the tokens alone (`length_frames_advanceAll`), so that runs with different bounds go
through the same states as long as neither of the bounds is exceeded (`advanceAll_withMaxDepth`).
`result_matchBlocks_withMaxDepth` compares the outcomes.
-/

namespace TokenTree

namespace Grammar

/-- The grammar with another bound on open blocks. -/
def withMaxDepth (grammar : Grammar) (limit : Nat) : Grammar := { grammar with maxDepth := limit }

/-- At the position an open would make one block more open than the bound allows, which the tokens
before it never do. -/
inductive OverflowsAt (grammar : Grammar) (limit : Nat) (stream : TokenStream) : Nat → Prop where
  | intro {front rest : List Token} {token : Token} (hrest : stream.rest = front ++ token :: rest)
      (hmost : grammar.mostOpen front ≤ limit)
      (hover : grammar.openAfter (front ++ [token]) = limit + 1) :
      OverflowsAt grammar limit stream (stream.pos + front.length)

/-- The outcome is that a close before the position fits no block. -/
def StraysBefore (outcome : Except Error Tree) (position : Nat) : Prop :=
  ∃ found expected place,
    outcome = .error (.unbalancedDelimiter found expected place) ∧ place < position

variable {grammar : Grammar} {token : Token} {tokens : List Token} {position limit other : Nat}
  {pending next : Pending} {cause : Error}

/-! ## Counts of open blocks -/

/-- The bound has no part in how many blocks the tokens leave open. -/
theorem openAfter_withMaxDepth : (grammar.withMaxDepth limit).openAfter tokens =
    grammar.openAfter tokens := rfl

/-- Closes are counted part by part. -/
theorem closeCount_append (first second : List Token) :
    grammar.closeCount (first ++ second) = grammar.closeCount first + grammar.closeCount second :=
  List.countP_append

/-- Opens are counted part by part. -/
theorem openCount_append (first second : List Token) :
    grammar.openCount (first ++ second) = grammar.openCount first + grammar.openCount second :=
  List.countP_append

/-- A token closes, opens or does neither, and that many blocks are open afterwards. -/
theorem length_frames_advance (hlawful : pending.Lawful grammar)
    (hstep : grammar.advance token position pending = .ok next) :
    next.frames.length + grammar.closeCount [token] =
      pending.frames.length + grammar.openCount [token] := by
  have htakes := grammar.takes_advance token position pending
  rw [hstep] at htakes
  cases htakes with
  | @close frame enclosing node hframes hclose hnode =>
      have hcloses : grammar.Closes token.kind :=
        ⟨frame.block, hlawful.mem_blocks frame (hframes ▸ List.mem_cons_self), hclose⟩
      simp [closeCount, openCount, hframes, hcloses]
  | enter hexpected hcloses hopens hdepth =>
      simp [closeCount, openCount, hcloses, opens_of_openedBy? hopens]
  | leaf hexpected hplain =>
      simp [closeCount, openCount, hplain.not_closes, hplain.not_opens]

/-- Tokens close and open blocks, and that many are open afterwards. -/
theorem length_frames_advanceAll (hlawful : pending.Lawful grammar)
    (hsteps : grammar.advanceAll tokens position pending = .ok next) :
    next.frames.length + grammar.closeCount tokens =
      pending.frames.length + grammar.openCount tokens := by
  induction tokens generalizing position pending with
  | nil =>
      obtain rfl := Except.ok.inj hsteps
      rfl
  | cons token rest ih =>
      rw [advanceAll, bind_eq_ok_iff] at hsteps
      obtain ⟨middle, hstep, hrest⟩ := hsteps
      have hfirst := length_frames_advance hlawful hstep
      have hothers := ih (hlawful.advance hstep) hrest
      have hcloses : grammar.closeCount (token :: rest) =
          grammar.closeCount [token] + grammar.closeCount rest := closeCount_append [token] rest
      have hopens : grammar.openCount (token :: rest) =
          grammar.openCount [token] + grammar.openCount rest := openCount_append [token] rest
      omega

/-- From the start on, as many blocks are open as were opened and not closed. -/
theorem openAfter_eq_length_frames
    (hsteps : grammar.advanceAll tokens position .start = .ok next) :
    grammar.openAfter tokens = next.frames.length := by
  have hlength := length_frames_advanceAll (Pending.lawful_start grammar) hsteps
  have hstart : Pending.start.frames.length = 0 := rfl
  unfold openAfter
  omega

/-- No more blocks are open than there are tokens. -/
theorem openAfter_le_length (tokens : List Token) : grammar.openAfter tokens ≤ tokens.length :=
  Nat.le_trans (Nat.sub_le _ _) List.countP_le_length

/-- No more blocks are open at once than there are tokens. -/
theorem mostOpen_le_length (tokens : List Token) : grammar.mostOpen tokens ≤ tokens.length := by
  induction tokens using List.reverseRecOn with
  | nil => exact Nat.zero_le _
  | append_singleton front token ih =>
      rw [mostOpen_append_singleton]
      refine Nat.max_le.2 ⟨Nat.le_trans ih ?_, openAfter_le_length _⟩
      rw [List.length_append]
      exact Nat.le_add_right _ _

/-- Where tokens are taken, no more blocks are open at once than allowed. -/
theorem mostOpen_le_of_advanceAll (hsteps : grammar.advanceAll tokens position .start = .ok next) :
    grammar.mostOpen tokens ≤ grammar.maxDepth := by
  induction tokens using List.reverseRecOn generalizing next with
  | nil => exact Nat.zero_le _
  | append_singleton front token ih =>
      have hlength := ((Pending.lawful_start grammar).advanceAll hsteps).length_le
      rw [← openAfter_eq_length_frames hsteps] at hlength
      rw [advanceAll_append, bind_eq_ok_iff] at hsteps
      obtain ⟨middle, hfront, -⟩ := hsteps
      rw [mostOpen_append_singleton]
      exact Nat.max_le.2 ⟨ih hfront, hlength⟩

/-! ## Runs with different bounds -/

/-- A token that is taken is taken with any bound that leaves room for the blocks open then. -/
theorem advance_withMaxDepth
    (hstep : (grammar.withMaxDepth limit).advance token position pending = .ok next)
    (hlength : next.frames.length ≤ other) :
    (grammar.withMaxDepth other).advance token position pending = .ok next := by
  have htakes := (grammar.withMaxDepth limit).takes_advance token position pending
  rw [hstep] at htakes
  apply advance_eq_of_takes
  cases htakes with
  | close hframes hclose hnode => exact .close hframes hclose hnode
  | enter hexpected hcloses hopens hdepth => exact .enter hexpected hcloses hopens hlength
  | leaf hexpected hplain => exact .leaf hexpected hplain

/-- Tokens that are taken are taken with any bound that they do not exceed. -/
theorem advanceAll_withMaxDepth
    (hsteps : (grammar.withMaxDepth limit).advanceAll tokens position .start = .ok next)
    (hmost : grammar.mostOpen tokens ≤ other) :
    (grammar.withMaxDepth other).advanceAll tokens position .start = .ok next := by
  -- Token by token from the front, as every state on the way has to keep to the other bound.
  induction tokens using List.reverseRecOn generalizing next with
  | nil => exact hsteps
  | append_singleton front token ih =>
      have hlength : next.frames.length ≤ other := by
        rw [← openAfter_eq_length_frames hsteps]
        rw [mostOpen_append_singleton] at hmost
        exact Nat.le_trans (Nat.le_max_right _ _) hmost
      rw [mostOpen_append_singleton] at hmost
      rw [advanceAll_append, bind_eq_ok_iff] at hsteps ⊢
      obtain ⟨middle, hfront, hlast⟩ := hsteps
      refine ⟨middle, ih hfront (Nat.le_trans (Nat.le_max_left _ _) hmost), ?_⟩
      rw [advanceAll, bind_eq_ok_iff] at hlast ⊢
      obtain ⟨after, hstep, hnil⟩ := hlast
      obtain rfl := Except.ok.inj hnil
      exact ⟨after, advance_withMaxDepth hstep hlength, rfl⟩

/-! ## Causes of failure -/

/-- Where reactions never fail, a failure is the refusal of one of the tokens. -/
theorem refusedAt?_of_advanceAll (htotal : ∀ block ∈ grammar.blocks, block.Total)
    (hlawful : pending.Lawful grammar)
    (hfail : grammar.advanceAll tokens position pending = .error cause) :
    ∃ place, cause.refusedAt? = some place ∧ position ≤ place ∧
      place < position + tokens.length := by
  obtain ⟨front, token, rest, reached, rfl, hfront, hfailing⟩ :=
    exists_of_advanceAll_eq_error hfail
  refine ⟨_, refusedAt?_of_advance htotal (hlawful.advanceAll hfront) hfailing,
    Nat.le_add_right _ _, ?_⟩
  rw [List.length_append, List.length_cons]
  omega

/-- Where reactions never fail and the bound leaves room for all tokens, a failure is that of a
close that fits no block. -/
theorem unbalanced_of_advanceAll (htotal : ∀ block ∈ grammar.blocks, block.Total)
    (hlength : tokens.length ≤ grammar.maxDepth)
    (hfail : grammar.advanceAll tokens position .start = .error cause) :
    ∃ found expected place, cause = .unbalancedDelimiter found expected place ∧
      place < position + tokens.length := by
  obtain ⟨front, token, rest, reached, rfl, hfront, hfailing⟩ :=
    exists_of_advanceAll_eq_error hfail
  have hlawful := (Pending.lawful_start grammar).advanceAll hfront
  have hplace : position + front.length < position + (front ++ token :: rest).length := by
    rw [List.length_append, List.length_cons]
    omega
  have htakes := grammar.takes_advance token (position + front.length) reached
  rw [hfailing] at htakes
  cases htakes with
  | @refuse frame enclosing cause hframes hclose hcause =>
      obtain ⟨node, hnode⟩ := htotal _ (hlawful.mem_blocks frame (hframes ▸ List.mem_cons_self))
        (.ofList reached.body)
      rw [hnode] at hcause
      cases hcause
  | stray hexpected hcloses => exact ⟨_, _, _, rfl, hplace⟩
  | tooDeep hexpected hcloses hopens hdepth =>
      have hreached : grammar.openAfter front ≤ front.length := openAfter_le_length front
      rw [openAfter_eq_length_frames hfront] at hreached
      rw [List.length_append, List.length_cons] at hlength
      omega

/-! ## The first open too many -/

/-- A kind that is the open of a block opens one. -/
theorem exists_openedBy?_of_opens {kind : Kind} (hopens : grammar.Opens kind) :
    ∃ block, grammar.openedBy? kind = some block := by
  obtain ⟨block, hmem, hkind⟩ := hopens
  rw [← Option.isSome_iff_exists, openedBy?, List.find?_isSome]
  exact ⟨block, hmem, by simpa using hkind⟩

/-- A token that makes one more block open is an open. -/
theorem opens_of_openAfter_lt {front : List Token}
    (hlt : grammar.openAfter front < grammar.openAfter (front ++ [token])) :
    grammar.Opens token.kind ∧ ¬ grammar.Closes token.kind := by
  unfold openAfter at hlt
  rw [closeCount_append_singleton, openCount_append_singleton] at hlt
  by_cases hopens : grammar.Opens token.kind ∧ ¬ grammar.Closes token.kind
  · exact hopens
  · rw [if_neg hopens] at hlt
    omega

/-- With one block open less than allowed, an open leads to as many as allowed. -/
theorem openAfter_append_open {front : List Token}
    (hfront : grammar.advanceAll front position .start = .ok pending)
    (hcloses : ¬ grammar.Closes token.kind) (hopens : grammar.Opens token.kind) :
    grammar.openAfter (front ++ [token]) = pending.frames.length + 1 := by
  have hlength := length_frames_advanceAll (Pending.lawful_start grammar) hfront
  have hstart : Pending.start.frames.length = 0 := rfl
  unfold openAfter
  rw [closeCount_append_singleton, openCount_append_singleton, if_neg hcloses,
    if_pos ⟨hopens, hcloses⟩]
  omega

/-- The open is refused where the bound does not allow one block more. -/
theorem advance_of_overflow {front : List Token}
    (hfront : (grammar.withMaxDepth limit).advanceAll front position .start = .ok pending)
    (hover : grammar.openAfter (front ++ [token]) = limit + 1) (place : Nat) :
    (grammar.withMaxDepth limit).advance token place pending =
      .error (.nestingTooDeep limit place) := by
  have hlawful := (Pending.lawful_start _).advanceAll hfront
  have hlength := openAfter_eq_length_frames hfront
  rw [openAfter_withMaxDepth] at hlength
  have hbound : pending.frames.length ≤ limit := hlawful.length_le
  have hmore : grammar.openAfter front < grammar.openAfter (front ++ [token]) := by omega
  obtain ⟨hopens, hcloses⟩ := opens_of_openAfter_lt hmore
  have hone := openAfter_append_open hfront hcloses hopens
  rw [openAfter_withMaxDepth] at hone
  obtain ⟨block, hblock⟩ := exists_openedBy?_of_opens hopens
  apply advance_eq_of_takes
  exact .tooDeep (fun hexpected => hcloses (hlawful.closes_of_expected hexpected)) hcloses hblock
    (show limit ≤ pending.frames.length by omega)

/-- A token of the stream that is refused comes no earlier than those after which matching can still
go on. -/
theorem refusedAt?_of_matchBlocks (htotal : ∀ block ∈ grammar.blocks, block.Total)
    {stream : TokenStream} {front rest : List Token} {place : Nat}
    (hrest : stream.rest = front ++ rest)
    (hfront : grammar.advanceAll front stream.pos .start = .ok pending)
    (hfail : (grammar.matchBlocks stream).result = .error cause)
    (hrefused : cause.refusedAt? = some place) : stream.pos + front.length ≤ place := by
  rw [result_matchBlocks, hrest, advanceAll_append, hfront, ok_bind] at hfail
  have hlawful := (Pending.lawful_start grammar).advanceAll hfront
  cases hsteps : grammar.advanceAll rest (stream.pos + front.length) pending with
  | error other =>
      rw [hsteps, error_bind] at hfail
      obtain rfl := Except.error.inj hfail
      obtain ⟨found, hfound, hle, -⟩ := refusedAt?_of_advanceAll htotal hlawful hsteps
      rw [hrefused] at hfound
      obtain rfl := Option.some.inj hfound
      exact hle
  | ok last =>
      rw [hsteps, ok_bind] at hfail
      obtain ⟨frames, body⟩ := last
      cases frames with
      | nil => cases hfail
      | cons frame enclosing =>
          obtain rfl := Except.error.inj hfail
          cases hrefused

/-- Where reactions never fail, the first open too many is refused, unless a close before it fits no
block. -/
theorem result_matchBlocks_of_overflowsAt (htotal : ∀ block ∈ grammar.blocks, block.Total)
    {stream : TokenStream} {bound : Nat} (hbound : stream.rest.length ≤ bound)
    (hoverflows : grammar.OverflowsAt limit stream position)
    (hstrays : ¬ StraysBefore ((grammar.withMaxDepth bound).matchBlocks stream).result position) :
    ((grammar.withMaxDepth limit).matchBlocks stream).result =
      .error (.nestingTooDeep limit position) := by
  obtain @⟨front, rest, token, hrest, hmost, hover⟩ := hoverflows
  rw [hrest] at hbound
  cases hfront : (grammar.withMaxDepth bound).advanceAll front stream.pos .start with
  | ok pending =>
      have hlimited := advanceAll_withMaxDepth hfront hmost
      exact result_matchBlocks_of_refused hrest hlimited (advance_of_overflow hlimited hover _)
  | error cause =>
      have hlength : front.length ≤ bound := by
        rw [List.length_append] at hbound
        omega
      have hbounded : ∀ block ∈ (grammar.withMaxDepth bound).blocks, block.Total := htotal
      obtain ⟨found, expected, place, rfl, hplace⟩ :=
        unbalanced_of_advanceAll hbounded hlength hfront
      refine absurd ⟨found, expected, place, ?_, hplace⟩ hstrays
      rw [result_matchBlocks, hrest, advanceAll_append, hfront, error_bind, error_bind]

/-- Where reactions never fail, a bound does nothing unless there is a first open too many and no
close before it that fits no block. -/
theorem result_matchBlocks_of_fits (htotal : ∀ block ∈ grammar.blocks, block.Total)
    {stream : TokenStream} {bound : Nat} (hbound : stream.rest.length ≤ bound)
    (hfits : ∀ position, grammar.OverflowsAt limit stream position →
      StraysBefore ((grammar.withMaxDepth bound).matchBlocks stream).result position) :
    ((grammar.withMaxDepth limit).matchBlocks stream).result =
      ((grammar.withMaxDepth bound).matchBlocks stream).result := by
  cases hsteps : (grammar.withMaxDepth limit).advanceAll stream.rest stream.pos .start with
  | ok pending =>
      have hall := advanceAll_withMaxDepth hsteps
        (Nat.le_trans (mostOpen_le_length _) hbound)
      rw [result_matchBlocks, result_matchBlocks, hsteps, hall]
  | error cause =>
      obtain ⟨front, token, rest, reached, hrest, hfront, hfailing⟩ :=
        exists_of_advanceAll_eq_error hsteps
      have hlawful := (Pending.lawful_start _).advanceAll hfront
      have hlength : front.length ≤ bound := by
        rw [hrest, List.length_append] at hbound
        omega
      have hall := advanceAll_withMaxDepth hfront (Nat.le_trans (mostOpen_le_length _) hlength)
      rw [result_matchBlocks_of_refused hrest hfront hfailing]
      have htakes := takes_advance (grammar.withMaxDepth limit) token (stream.pos + front.length)
        reached
      rw [hfailing] at htakes
      cases htakes with
      | @refuse frame enclosing cause hframes hclose hcause =>
          obtain ⟨node, hnode⟩ := htotal _
            (hlawful.mem_blocks frame (hframes ▸ List.mem_cons_self)) (.ofList reached.body)
          rw [hnode] at hcause
          cases hcause
      | stray hexpected hcloses =>
          exact (result_matchBlocks_of_refused hrest hall
            (advance_eq_of_takes (.stray hexpected hcloses))).symm
      | tooDeep hexpected hcloses hopens hdepth =>
          -- A first open too many has a stray close before it, which would have come first.
          have hopen : grammar.Opens token.kind := opens_of_openedBy? hopens
          have hone := openAfter_append_open hfront hcloses hopen
          rw [openAfter_withMaxDepth] at hone
          have hle : reached.frames.length ≤ limit := hlawful.length_le
          have hge : limit ≤ reached.frames.length := hdepth
          have hmost : grammar.mostOpen front ≤ limit := mostOpen_le_of_advanceAll hfront
          obtain ⟨found, expected, place, hstray, hplace⟩ :=
            hfits _ (.intro hrest hmost (by omega))
          have hbounded : ∀ block ∈ (grammar.withMaxDepth bound).blocks, block.Total := htotal
          have hlate := refusedAt?_of_matchBlocks hbounded hrest hall hstray rfl
          omega

/-- Where reactions never fail, compare matching with a bound to matching with a bound that leaves
room for all tokens. The first open that exceeds the bound is refused, whatever follows it, unless
a close before it fits no block; otherwise the outcome is the same. So a larger bound changes no
tree. -/
theorem result_matchBlocks_withMaxDepth (htotal : ∀ block ∈ grammar.blocks, block.Total)
    {stream : TokenStream} {bound : Nat} (hbound : stream.rest.length ≤ bound) (limit : Nat) :
    (∀ position, grammar.OverflowsAt limit stream position →
      ¬ StraysBefore ((grammar.withMaxDepth bound).matchBlocks stream).result position →
      ((grammar.withMaxDepth limit).matchBlocks stream).result =
        .error (.nestingTooDeep limit position)) ∧
    ((¬ ∃ position, grammar.OverflowsAt limit stream position ∧
        ¬ StraysBefore ((grammar.withMaxDepth bound).matchBlocks stream).result position) →
      ((grammar.withMaxDepth limit).matchBlocks stream).result =
        ((grammar.withMaxDepth bound).matchBlocks stream).result) ∧
    ∀ larger tree, limit ≤ larger →
      ((grammar.withMaxDepth limit).matchBlocks stream).result = .ok tree →
      ((grammar.withMaxDepth larger).matchBlocks stream).result = .ok tree := by
  refine ⟨fun position => result_matchBlocks_of_overflowsAt htotal hbound, fun hnone => ?_, ?_⟩
  · refine result_matchBlocks_of_fits htotal hbound fun position hoverflows => ?_
    by_contra hstrays
    exact hnone ⟨position, hoverflows, hstrays⟩
  · intro larger tree hle hmatch
    rw [result_matchBlocks] at hmatch ⊢
    obtain ⟨pending, hsteps, hfinish⟩ := bind_eq_ok_iff.1 hmatch
    have hmost : grammar.mostOpen stream.rest ≤ limit := mostOpen_le_of_advanceAll hsteps
    have hlarger := advanceAll_withMaxDepth hsteps (Nat.le_trans hmost hle)
    rw [hlarger]
    exact hfinish

/-- With a bound that leaves room for all tokens, the list inside is closed too early; with room for
two blocks, the open before that close is refused. -/
theorem result_matchBlocks_withMaxDepth_overfull :
    overfull.rest.length ≤ 5 ∧
    (((ofSteps clashing).withMaxDepth 5).matchBlocks overfull).result =
      .error (.unbalancedDelimiter ⟨"]"⟩ (some ⟨")"⟩) 5) ∧
    (((ofSteps clashing).withMaxDepth 2).matchBlocks overfull).result =
      .error (.nestingTooDeep 2 4) := by
  have hbound : overfull.rest.length ≤ 5 := by decide
  have hroom : (((ofSteps clashing).withMaxDepth 5).matchBlocks overfull).result =
      .error (.unbalancedDelimiter ⟨"]"⟩ (some ⟨")"⟩) 5) := rfl
  have hrest : overfull.rest =
      [.bare ⟨"("⟩, .bare ⟨"x"⟩, .bare ⟨"["⟩] ++ .bare ⟨"("⟩ :: [.bare ⟨"]"⟩] := rfl
  have hoverflows : (ofSteps clashing).OverflowsAt 2 overfull 4 :=
    .intro hrest (by decide) (by decide)
  obtain ⟨hover, -, -⟩ := result_matchBlocks_withMaxDepth total_clashing hbound 2
  refine ⟨hbound, hroom, hover 4 hoverflows ?_⟩
  rintro ⟨found, expected, place, hstray, hplace⟩
  rw [hroom] at hstray
  cases hstray
  omega

end Grammar

end TokenTree
