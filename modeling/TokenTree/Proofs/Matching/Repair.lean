import TokenTree.Proofs.Matching.DepthBound

/-!
# Blocks that are left open

Where a stream ends inside a block, the blocks that are open are those that no later token closes.
`openedAt_advanceAll` says so of every stretch of tokens: it leaves its own unclosed opens on top of
the blocks that were open before, less those that it closes. The error names the last unclosed open.
Putting the close that it waits for behind the stream ends that block and no other, so that
`unterminated_repair` counts how often this has to be done.
-/

namespace TokenTree

namespace Grammar

/-- The token opens a block that none of the later tokens closes: nowhere among them do the closes
outnumber the opens. -/
def StaysOpen (grammar : Grammar) (token : Token) (later : List Token) : Prop :=
  grammar.Opens token.kind ∧ ¬ grammar.Closes token.kind ∧
    ∀ front ∈ later.inits, grammar.closeCount front ≤ grammar.openCount front

instance (grammar : Grammar) (token : Token) (later : List Token) :
    Decidable (grammar.StaysOpen token later) :=
  inferInstanceAs (Decidable (_ ∧ _ ∧ _))

/-- The positions of the tokens that open a block which no later token closes, in order, given the
position of the first token. -/
def unclosedFrom (grammar : Grammar) : List Token → Nat → List Nat
  | [], _ => []
  | token :: rest, position =>
      if grammar.StaysOpen token rest then position :: grammar.unclosedFrom rest (position + 1)
      else grammar.unclosedFrom rest (position + 1)

/-- The positions in a stream at which a block is opened that no later token closes. -/
def unclosed (grammar : Grammar) (stream : TokenStream) : List Nat :=
  grammar.unclosedFrom stream.rest stream.pos

/-- Put the close behind the stream that the innermost block waits for in which the stream ends. -/
def repair (grammar : Grammar) (stream : TokenStream) (value : Option Value) : TokenStream :=
  match (grammar.matchBlocks stream).result with
  | .error (.unterminatedBlock _ closes _) =>
      { stream with items := stream.items ++ [⟨closes, value⟩] }
  | _ => stream

/-- How many of the blocks that were open before the tokens are closed by them. -/
def surplus (grammar : Grammar) : List Token → Nat
  | [] => 0
  | token :: rest =>
      if grammar.Closes token.kind then grammar.surplus rest + 1
      else if grammar.Opens token.kind then grammar.surplus rest - 1
      else grammar.surplus rest

variable {grammar : Grammar} {token : Token} {tokens : List Token} {position : Nat}
  {pending next : Pending} {frame : Frame} {enclosing : List Frame} {body : List Node}
  {stream : TokenStream}

/-! ## Opens without a close -/

/-- As many blocks from before are closed as the closes ever outnumber the opens. -/
theorem surplus_le_iff (tokens : List Token) (count : Nat) :
    grammar.surplus tokens ≤ count ↔
      ∀ front ∈ tokens.inits, grammar.closeCount front ≤ grammar.openCount front + count := by
  induction tokens generalizing count with
  | nil => simp [surplus, closeCount]
  | cons token rest ih =>
      have hinits : (∀ front ∈ (token :: rest).inits,
            grammar.closeCount front ≤ grammar.openCount front + count) ↔
          ∀ front ∈ rest.inits, grammar.closeCount [token] + grammar.closeCount front ≤
            grammar.openCount [token] + grammar.openCount front + count := by
        rw [List.inits_cons, List.forall_mem_cons, List.forall_mem_map]
        have hempty : grammar.closeCount [] ≤ grammar.openCount [] + count := Nat.zero_le _
        rw [and_iff_right hempty]
        refine forall₂_congr fun front _ => ?_
        rw [← closeCount_append, ← openCount_append]
        rfl
      rw [hinits, surplus]
      by_cases hcloses : grammar.Closes token.kind
      · have hclose : grammar.closeCount [token] = 1 := by simp [closeCount, hcloses]
        have hopen : grammar.openCount [token] = 0 := by simp [openCount, hcloses]
        rw [if_pos hcloses, hclose, hopen]
        cases count with
        | zero =>
            refine iff_of_false (Nat.not_succ_le_zero _) fun hall => ?_
            have hempty := hall [] ((List.mem_inits [] rest).2 List.nil_prefix)
            simp [closeCount, openCount] at hempty
        | succ count =>
            rw [Nat.add_le_add_iff_right, ih]
            refine forall₂_congr fun front _ => ?_
            omega
      have hclose : grammar.closeCount [token] = 0 := by simp [closeCount, hcloses]
      rw [if_neg hcloses, hclose]
      by_cases hopens : grammar.Opens token.kind
      · have hopen : grammar.openCount [token] = 1 := by simp [openCount, hopens, hcloses]
        rw [if_pos hopens, hopen, Nat.sub_le_iff_le_add, ih]
        refine forall₂_congr fun front _ => ?_
        omega
      · have hopen : grammar.openCount [token] = 0 := by simp [openCount, hopens]
        rw [if_neg hopens, hopen, ih]
        refine forall₂_congr fun front _ => ?_
        omega

/-- An open stays open where the tokens after it close nothing that was open before them. -/
theorem staysOpen_iff {later : List Token} :
    grammar.StaysOpen token later ↔
      grammar.Opens token.kind ∧ ¬ grammar.Closes token.kind ∧ grammar.surplus later = 0 := by
  rw [StaysOpen, ← Nat.le_zero, surplus_le_iff]
  rfl

/-- The positions come in order, from that of the first token on. -/
theorem sorted_unclosedFrom (grammar : Grammar) (tokens : List Token) (position : Nat) :
    (grammar.unclosedFrom tokens position).Pairwise (· < ·) ∧
      ∀ place ∈ grammar.unclosedFrom tokens position, position ≤ place := by
  induction tokens generalizing position with
  | nil => exact ⟨.nil, fun _ hplace => nomatch hplace⟩
  | cons token rest ih =>
      obtain ⟨hsorted, hfrom⟩ := ih (position + 1)
      rw [unclosedFrom]
      split
      · refine ⟨.cons hfrom hsorted, fun place hplace => ?_⟩
        obtain rfl | hlater := List.mem_cons.1 hplace
        · exact Nat.le_refl _
        · exact Nat.le_of_succ_le (hfrom place hlater)
      · exact ⟨hsorted, fun place hplace => Nat.le_of_succ_le (hfrom place hplace)⟩

/-! ## Blocks that are open -/

/-- Tokens leave open the blocks of their unclosed opens, on top of those from before that they do
not close. -/
theorem openedAt_advanceAll (hlawful : pending.Lawful grammar)
    (hsteps : grammar.advanceAll tokens position pending = .ok next) :
    grammar.surplus tokens ≤ pending.frames.length ∧
      next.frames.map Frame.openedAt = (grammar.unclosedFrom tokens position).reverse ++
        (pending.frames.map Frame.openedAt).drop (grammar.surplus tokens) := by
  induction tokens generalizing position pending with
  | nil =>
      obtain rfl := Except.ok.inj hsteps
      exact ⟨Nat.zero_le _, rfl⟩
  | cons token rest ih =>
      rw [advanceAll, bind_eq_ok_iff] at hsteps
      obtain ⟨middle, hstep, hrest⟩ := hsteps
      obtain ⟨hsurplus, hopened⟩ := ih (hlawful.advance hstep) hrest
      have htakes := grammar.takes_advance token position pending
      rw [hstep] at htakes
      rw [unclosedFrom, surplus, hopened]
      cases htakes with
      | @close frame enclosing node hframes hclose hnode =>
          have hcloses : grammar.Closes token.kind :=
            ⟨frame.block, hlawful.mem_blocks frame (hframes ▸ List.mem_cons_self), hclose⟩
          have hnot : ¬ grammar.StaysOpen token rest := fun hstays => hstays.2.1 hcloses
          rw [if_neg hnot, if_pos hcloses, hframes]
          exact ⟨Nat.succ_le_succ hsurplus, rfl⟩
      | enter hexpected hcloses hopens hdepth =>
          have hopen : grammar.Opens token.kind := opens_of_openedBy? hopens
          rw [if_neg hcloses, if_pos hopen]
          -- The block stays open unless the later tokens close what was open before them.
          cases hlater : grammar.surplus rest with
          | zero =>
              have hstays : grammar.StaysOpen token rest :=
                staysOpen_iff.2 ⟨hopen, hcloses, hlater⟩
              rw [if_pos hstays, List.reverse_cons, List.append_assoc]
              exact ⟨Nat.zero_le _, rfl⟩
          | succ count =>
              have hnot : ¬ grammar.StaysOpen token rest := by
                rw [staysOpen_iff, hlater]
                exact fun hstays => Nat.succ_ne_zero count hstays.2.2
              rw [hlater, List.length_cons] at hsurplus
              rw [if_neg hnot]
              exact ⟨Nat.le_of_succ_le_succ hsurplus, rfl⟩
      | leaf hexpected hplain =>
          have hnot : ¬ grammar.StaysOpen token rest := fun hstays => hplain.not_opens hstays.1
          rw [if_neg hnot, if_neg hplain.not_closes, if_neg hplain.not_opens]
          exact ⟨hsurplus, rfl⟩

/-- The blocks that are open after all tokens of a stream are its unclosed ones, the last one
innermost. -/
theorem openedAt_of_start (hsteps : grammar.advanceAll stream.rest stream.pos .start = .ok next) :
    next.frames.map Frame.openedAt = (grammar.unclosed stream).reverse := by
  obtain ⟨-, hopened⟩ := openedAt_advanceAll (Pending.lawful_start grammar) hsteps
  rw [hopened]
  show _ ++ ([].drop _) = _
  rw [List.drop_nil, List.append_nil]
  rfl

/-- A block that is open is one from before or was opened by one of the tokens. -/
theorem opened_advanceAll (hsteps : grammar.advanceAll tokens position pending = .ok next) :
    ∀ frame ∈ next.frames, frame ∈ pending.frames ∨
      ∃ token index, tokens[index]? = some token ∧ frame.openedAt = position + index ∧
        grammar.openedBy? token.kind = some frame.block := by
  induction tokens generalizing position pending with
  | nil =>
      obtain rfl := Except.ok.inj hsteps
      exact fun frame hframe => .inl hframe
  | cons token rest ih =>
      rw [advanceAll, bind_eq_ok_iff] at hsteps
      obtain ⟨middle, hstep, hrest⟩ := hsteps
      intro frame hframe
      obtain hmiddle | ⟨later, index, hlater, hopened, hblock⟩ := ih hrest frame hframe
      · have htakes := grammar.takes_advance token position pending
        rw [hstep] at htakes
        cases htakes with
        | close hframes hclose hnode =>
            rw [hframes]
            exact .inl (List.mem_cons_of_mem _ hmiddle)
        | enter hexpected hcloses hopens hdepth =>
            obtain rfl | hbefore := List.mem_cons.1 hmiddle
            · exact .inr ⟨token, 0, rfl, rfl, hopens⟩
            · exact .inl hbefore
        | leaf hexpected hplain => exact .inl hmiddle
      · refine .inr ⟨later, index + 1, hlater, ?_, hblock⟩
        rw [hopened, Nat.add_right_comm, Nat.add_assoc]

/-! ## Repairs -/

/-- A stream whose tokens are taken is accepted if no block is open afterwards. -/
theorem exists_matchBlocks_iff
    (hsteps : grammar.advanceAll stream.rest stream.pos .start = .ok next) :
    (∃ tree, (grammar.matchBlocks stream).result = .ok tree) ↔ next.frames = [] := by
  rw [result_matchBlocks, hsteps, ok_bind]
  obtain ⟨frames, body⟩ := next
  cases frames with
  | nil => exact iff_of_true ⟨_, rfl⟩ rfl
  | cons frame enclosing =>
      refine iff_of_false ?_ (List.cons_ne_nil _ _)
      rintro ⟨tree, hmatch⟩
      cases hmatch

/-- A stream ends inside a block where its tokens are taken and that block is open afterwards. -/
theorem result_matchBlocks_of_open
    (hsteps : grammar.advanceAll stream.rest stream.pos .start = .ok ⟨frame :: enclosing, body⟩) :
    (grammar.matchBlocks stream).result =
      .error (.unterminatedBlock frame.block.opens frame.block.closes frame.openedAt) := by
  rw [result_matchBlocks, hsteps, ok_bind]
  rfl

/-- Where reactions never fail, a stream that ends inside a block was taken as far as it goes. -/
theorem exists_of_unterminated (htotal : ∀ block ∈ grammar.blocks, block.Total)
    {opens closes : Kind}
    (hfail : (grammar.matchBlocks stream).result =
      .error (.unterminatedBlock opens closes position)) :
    ∃ frame enclosing body,
      grammar.advanceAll stream.rest stream.pos .start = .ok ⟨frame :: enclosing, body⟩ ∧
      frame.block.opens = opens ∧ frame.block.closes = closes ∧ frame.openedAt = position := by
  cases hsteps : grammar.advanceAll stream.rest stream.pos .start with
  | ok pending =>
      rw [result_matchBlocks, hsteps, ok_bind] at hfail
      obtain ⟨frames, body⟩ := pending
      cases frames with
      | nil => cases hfail
      | cons frame enclosing =>
          cases hfail
          exact ⟨frame, enclosing, body, rfl, rfl, rfl, rfl⟩
  | error cause =>
      rw [result_matchBlocks, hsteps, error_bind] at hfail
      obtain rfl := Except.error.inj hfail
      obtain ⟨place, hplace, -⟩ :=
        refusedAt?_of_advanceAll htotal (Pending.lawful_start grammar) hsteps
      cases hplace

/-- Where reactions never fail, the close that the innermost open block waits for ends it. -/
theorem advanceAll_append_close (htotal : ∀ block ∈ grammar.blocks, block.Total)
    (hsteps : grammar.advanceAll stream.rest stream.pos .start = .ok ⟨frame :: enclosing, body⟩)
    (hcloses : token.kind = frame.block.closes) :
    ∃ nodes, grammar.advanceAll (Cursor.rest { stream with items := stream.items ++ [token] })
      stream.pos .start = .ok ⟨enclosing, nodes⟩ := by
  have hlawful := (Pending.lawful_start grammar).advanceAll hsteps
  obtain ⟨node, hnode⟩ := htotal _ (hlawful.mem_blocks frame List.mem_cons_self) (.ofList body)
  have hpos : stream.pos ≤ stream.items.length := by
    -- Otherwise there would be no tokens to open a block.
    by_contra hpast
    have hrest : stream.rest = [] := List.drop_eq_nil_of_le (by omega)
    rw [hrest] at hsteps
    cases hsteps
  have hrest : Cursor.rest { stream with items := stream.items ++ [token] } =
      stream.rest ++ [token] := List.drop_append_of_le_length hpos
  refine ⟨frame.outer ++ [node], ?_⟩
  rw [hrest, advanceAll_append, hsteps, ok_bind, advanceAll, advance_close hcloses.symm, hnode]
  rfl

/-- Where reactions never fail, repairs end as many of the open blocks as they are, from the
innermost one outwards. -/
theorem advanceAll_repairs (htotal : ∀ block ∈ grammar.blocks, block.Total)
    (values : List (Option Value))
    (hsteps : grammar.advanceAll stream.rest stream.pos .start = .ok pending) :
    ∃ nodes, grammar.advanceAll (values.foldl grammar.repair stream).rest
      (values.foldl grammar.repair stream).pos .start =
        .ok ⟨pending.frames.drop values.length, nodes⟩ := by
  induction values generalizing stream pending with
  | nil => exact ⟨pending.body, hsteps⟩
  | cons value others ih =>
      obtain ⟨frames, body⟩ := pending
      rw [List.foldl_cons]
      cases frames with
      | nil =>
          obtain ⟨tree, hmatch⟩ := (exists_matchBlocks_iff hsteps).2 rfl
          have hrepair : grammar.repair stream value = stream := by rw [repair, hmatch]
          rw [hrepair]
          obtain ⟨nodes, hnodes⟩ := ih hsteps
          rw [List.drop_nil] at hnodes ⊢
          exact ⟨nodes, hnodes⟩
      | cons frame enclosing =>
          have hrepair : grammar.repair stream value =
              { stream with items := stream.items ++ [⟨frame.block.closes, value⟩] } := by
            rw [repair, result_matchBlocks_of_open hsteps]
          rw [hrepair]
          obtain ⟨nodes, hnodes⟩ := advanceAll_append_close htotal hsteps
            (show (⟨frame.block.closes, value⟩ : Token).kind = _ from rfl)
          exact ih hnodes

/-- Where reactions never fail, consider a stream that ends inside a block. The token that the error
names opens that block and is the last one to open a block that no later token closes. Behind the
close of the block, the stream is accepted or ends inside a block that was opened earlier. It is
accepted after as many repairs as there are blocks left open, and not before. -/
theorem unterminated_repair (htotal : ∀ block ∈ grammar.blocks, block.Total) {opens closes : Kind}
    (hfail : (grammar.matchBlocks stream).result =
      .error (.unterminatedBlock opens closes position)) :
    (∃ token block, stream.items[position]? = some token ∧ token.kind = opens ∧
      grammar.openedBy? opens = some block ∧ block.closes = closes) ∧
    (grammar.unclosed stream).getLast? = some position ∧
    (∀ token : Token, token.kind = closes →
      (∃ tree, (grammar.matchBlocks
        { stream with items := stream.items ++ [token] }).result = .ok tree) ∨
      ∃ outerOpens outerCloses earlier, (grammar.matchBlocks
        { stream with items := stream.items ++ [token] }).result =
          .error (.unterminatedBlock outerOpens outerCloses earlier) ∧ earlier < position) ∧
    (grammar.unclosed stream).length ≤ grammar.maxDepth ∧
    ∀ values : List (Option Value),
      (∃ tree, (grammar.matchBlocks (values.foldl grammar.repair stream)).result = .ok tree) ↔
        (grammar.unclosed stream).length ≤ values.length := by
  obtain ⟨frame, enclosing, body, hsteps, rfl, rfl, rfl⟩ := exists_of_unterminated htotal hfail
  have hlawful := (Pending.lawful_start grammar).advanceAll hsteps
  have hopened := openedAt_of_start hsteps
  have hlength : (frame :: enclosing).length = (grammar.unclosed stream).length := by
    simpa using congrArg List.length hopened
  refine ⟨?_, ?_, fun token hcloses => ?_, hlength ▸ hlawful.length_le, fun values => ?_⟩
  · obtain hbefore | ⟨token, index, hindex, hat, hblock⟩ :=
      opened_advanceAll hsteps frame List.mem_cons_self
    · cases hbefore
    · have hkind := (mem_of_openedBy? hblock).2
      refine ⟨token, frame.block, ?_, hkind.symm, ?_, rfl⟩
      · rw [hat, ← List.getElem?_drop]
        exact hindex
      · rw [hkind]
        exact hblock
  · rw [List.getLast?_eq_head?_reverse, ← hopened]
    rfl
  · obtain ⟨nodes, hnodes⟩ := advanceAll_append_close htotal hsteps hcloses
    cases enclosing with
    | nil => exact .inl ((exists_matchBlocks_iff hnodes).2 rfl)
    | cons outer others =>
        refine .inr ⟨_, _, _, result_matchBlocks_of_open hnodes, ?_⟩
        -- The positions of the open blocks decrease from the innermost one outwards.
        have hdecreasing : ((frame :: outer :: others).map Frame.openedAt).Pairwise (· > ·) := by
          rw [hopened]
          exact List.pairwise_reverse.2 (grammar.sorted_unclosedFrom stream.rest stream.pos).1
        exact (List.pairwise_cons.1 hdecreasing).1 _ List.mem_cons_self
  · obtain ⟨nodes, hnodes⟩ := advanceAll_repairs htotal values hsteps
    rw [exists_matchBlocks_iff hnodes, ← hlength]
    exact List.drop_eq_nil_iff

/-- Behind a token that is read already, a list in parentheses and one list that is closed in it,
before another one that is not. -/
def halfOpen : TokenStream :=
  ⟨[.bare ⟨"x"⟩, .bare ⟨"("⟩, .bare ⟨"["⟩, .bare ⟨"]"⟩, .bare ⟨"y"⟩, .bare ⟨"["⟩], 1, none⟩

/-- The error names the last list, and two repairs are needed. -/
theorem unterminated_repair_halfOpen :
    ((ofSteps clashing).matchBlocks halfOpen).result =
      .error (.unterminatedBlock ⟨"["⟩ ⟨"]"⟩ 5) ∧
    (ofSteps clashing).unclosed halfOpen = [1, 5] ∧
    (¬ ∃ tree, ((ofSteps clashing).matchBlocks
      ([none].foldl (ofSteps clashing).repair halfOpen)).result = .ok tree) ∧
    ∃ tree, ((ofSteps clashing).matchBlocks
      ([none, some (.int 7)].foldl (ofSteps clashing).repair halfOpen)).result = .ok tree := by
  have hfail : ((ofSteps clashing).matchBlocks halfOpen).result =
      .error (.unterminatedBlock ⟨"["⟩ ⟨"]"⟩ 5) := rfl
  have hunclosed : (ofSteps clashing).unclosed halfOpen = [1, 5] := by decide
  obtain ⟨-, -, -, -, hrepairs⟩ := unterminated_repair total_clashing hfail
  rw [hunclosed] at hrepairs
  refine ⟨hfail, hunclosed, ?_, (hrepairs _).2 (by decide)⟩
  rw [hrepairs]
  decide

end Grammar

end TokenTree
