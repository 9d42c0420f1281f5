import TokenTree.Proofs.Tokeniser.Passes

/-!
# Rules that do not compete for a place

Whether the rules of a tokeniser share a place or follow one another makes no difference to a text
where they never compete, which is one where at most one rule matches at each offset that the scan
comes to. The scans are in step at the ends of matches only: a pass of rules that follow one another
takes several matches, for each of which rules that share a place make a pass of their own.
-/

namespace TokenTree.Tokeniser

open Text (byteLength dropBytes? dropBytes?_add byteLength_of_dropBytes?)

/-- The tokeniser with its rules sharing a place in the given way. -/
def sharing (tokeniser : Tokeniser) (application : Application) : Tokeniser :=
  { tokeniser with application := application }

/-- A pass of the scan of the input begins at the offset, where this text is left. -/
def Begins (tokeniser : Tokeniser) (input : String) (offset : Nat) (text : List Char) : Prop :=
  dropBytes? input.toList offset = some text ∧
    ∃ tokens, tokeniser.Reaches input (tokeniser.start offset tokens)

/-- At every offset where a pass begins in the input, at most one rule matches. -/
def Exclusive (tokeniser : Tokeniser) (input : String) : Prop :=
  ∀ offset text, tokeniser.Begins input offset text →
    tokeniser.rules.countP (fun rule => (rule.matchIn? text offset).isSome) ≤ 1

/-- From the offset on the text has the same tokens, or the same cause of failure, whether the rules
share a place or follow one another. -/
def Agrees (tokeniser : Tokeniser) (text : List Char) (offset : Nat) : Prop :=
  (tokeniser.sharing .chained).tokensFrom text offset =
    (tokeniser.sharing .overlapping).tokensFrom text offset

variable {tokeniser : Tokeniser} {input : String} {text : List Char} {offset : Nat}

/-! ## Where passes begin -/

/-- The first pass begins at the start of the input. -/
theorem begins_start (tokeniser : Tokeniser) (input : String) :
    tokeniser.Begins input 0 input.toList :=
  ⟨by rw [dropBytes?], [], .refl⟩

/-- Rules that share a place have their turns there, one after the other. -/
theorem reaches_overlap (happlication : tokeniser.application = .overlapping)
    (htext : dropBytes? input.toList offset = some text) (hpos : 0 < byteLength text)
    {pending : List Rule} {reached : Nat} {tokens : List Token} {made : List Token × Nat}
    (hreached : offset ≤ reached)
    (hreaches : tokeniser.Reaches input ⟨offset, reached, pending, tokens⟩)
    (hoverlap : (overlap text offset pending).result = .ok made) :
    tokeniser.Reaches input ⟨offset, max reached (offset + made.2), [], tokens ++ made.1⟩ := by
  have hlength := byteLength_of_dropBytes? htext
  have hoffset : offset < byteLength input.toList := by omega
  induction pending generalizing reached tokens made with
  | nil =>
      cases hoverlap
      rwa [Nat.add_zero, Nat.max_eq_left hreached, List.append_nil]
  | cons rule rules ih =>
      have hplace : tokeniser.place ⟨offset, reached, rule :: rules, tokens⟩ = offset := by
        rw [place, happlication]
      cases hmatch : rule.matchIn? text offset with
      | none =>
          have hmoves : tokeniser.Moves input ⟨offset, reached, rule :: rules, tokens⟩ _ :=
            .miss rfl hoffset (by rwa [hplace]) (by rwa [hplace]) (by rwa [hplace])
          rw [overlap, hmatch] at hoverlap
          exact ih hreached (hreaches.tail (step_eq_of_moves hmoves)) hoverlap
      | some found =>
          rw [overlap_of_match hmatch] at hoverlap
          obtain ⟨first, hemit, hoverlap⟩ := bind_eq_ok_iff.1 hoverlap
          obtain ⟨more, hmore, hmade⟩ := bind_eq_ok_iff.1 hoverlap
          cases hmade
          have hmoves : tokeniser.Moves input ⟨offset, reached, rule :: rules, tokens⟩ _ :=
            .hit rfl hoffset (by rwa [hplace]) (by rwa [hplace]) (by rwa [hplace]) hemit
          have hafter := hreaches.tail (step_eq_of_moves hmoves)
          rw [hplace] at hafter
          have hmax : max reached (offset + max found.bytes more.2) =
              max (max reached (offset + found.bytes)) (offset + more.2) := by omega
          show tokeniser.Reaches input
            ⟨offset, max reached (offset + max found.bytes more.2), [], tokens ++ (first ++ more.1)⟩
          rw [hmax, ← List.append_assoc]
          exact ih (by omega) hafter hmore

/-- The scan comes behind a pass that moves on, with the tokens of the pass. -/
theorem reaches_behind (happlication : tokeniser.application = .overlapping)
    (htext : dropBytes? input.toList offset = some text) {tokens : List Token}
    (hreaches : tokeniser.Reaches input (tokeniser.start offset tokens)) {made : List Token × Nat}
    (hpass : (tokeniser.pass text offset).result = .ok made) (hmade : made.2 ≠ 0) :
    tokeniser.Reaches input (tokeniser.start (offset + made.2) (tokens ++ made.1)) := by
  have hlength := byteLength_of_dropBytes? htext
  have hbytes := (pass_spec hpass).1
  rw [pass, happlication] at hpass
  have hturns := reaches_overlap happlication htext (by omega) (Nat.le_refl _) hreaches hpass
  rw [Nat.max_eq_right (Nat.le_add_right _ _)] at hturns
  have hmoves : tokeniser.Moves input ⟨offset, offset + made.2, [], tokens ++ made.1⟩ _ :=
    .next rfl (show offset < byteLength input.toList by omega) (by simpa using hmade)
  exact hturns.tail (step_eq_of_moves hmoves)

/-- Behind a pass that moves on the next pass begins. -/
theorem Begins.behind (happlication : tokeniser.application = .overlapping)
    (hbegins : tokeniser.Begins input offset text) {made : List Token × Nat} {after : List Char}
    (hpass : (tokeniser.pass text offset).result = .ok made) (hmade : made.2 ≠ 0)
    (hdrop : dropBytes? text made.2 = some after) :
    tokeniser.Begins input (offset + made.2) after := by
  obtain ⟨htext, tokens, hreaches⟩ := hbegins
  exact ⟨(dropBytes?_add htext made.2).trans hdrop, _,
    reaches_behind happlication htext hreaches hpass hmade⟩

/-- Behind a character at which no rule matches the next pass begins. -/
theorem Begins.passOver (happlication : tokeniser.application = .overlapping) {c : Char}
    {rest : List Char} (hbegins : tokeniser.Begins input offset (c :: rest))
    (hnone : ∀ rule ∈ tokeniser.rules, rule.matchIn? (c :: rest) offset = none)
    {made : List Token} (hemit : (tokeniser.passOver c offset).result = .ok made) :
    tokeniser.Begins input (offset + c.utf8Size) rest := by
  obtain ⟨htext, tokens, hreaches⟩ := hbegins
  have hlength := byteLength_of_dropBytes? htext
  have hpos := Text.byteLength_pos (List.cons_ne_nil c rest)
  have hpass := congrArg Traced.result (pass_of_none hnone)
  rw [pass, happlication] at hpass
  have hturns := reaches_overlap happlication htext hpos (Nat.le_refl _) hreaches hpass
  rw [Nat.add_zero, Nat.max_self] at hturns
  have hmoves : tokeniser.Moves input ⟨offset, offset, [], tokens ++ []⟩ _ :=
    .passOver rfl (show offset < byteLength input.toList by omega) rfl htext hemit
  refine ⟨?_, _, hturns.tail (step_eq_of_moves hmoves)⟩
  rw [dropBytes?_add htext, Text.dropBytes?_cons]

/-! ## Matches without a competitor -/

/-- The rules that share a place where only this one matches give what its match gives. -/
theorem overlap_of_alone {rules : List Rule} {rule : Rule} {found : RuleMatch}
    (halone : rules.countP (fun rule => (rule.matchIn? text offset).isSome) ≤ 1)
    (hrule : rule ∈ rules) (hmatch : rule.matchIn? text offset = some found) :
    (overlap text offset rules).result =
      (emitMatch rule found).result >>= fun tokens => .ok (tokens, found.bytes) := by
  obtain ⟨front, back, rfl⟩ := List.append_of_mem hrule
  have hnone : ∀ other ∈ front ++ back, other.matchIn? text offset = none := by
    have hzero : (front ++ back).countP (fun other => (other.matchIn? text offset).isSome) = 0 := by
      rw [List.countP_append, List.countP_cons_of_pos (by rw [hmatch]; rfl)] at halone
      rw [List.countP_append]
      omega
    intro other hother
    simpa using List.countP_eq_zero.1 hzero other hother
  have hback : overlap text offset (back ++ []) = overlap text offset [] :=
    overlap_append_of_none fun other hother => hnone other (List.mem_append_right front hother)
  rw [List.append_nil] at hback
  rw [overlap_append_of_none fun other hother => hnone other (List.mem_append_left back hother),
    overlap_of_match hmatch, hback]
  simp only [overlap, Traced.result_pure, ok_bind, List.append_nil, Nat.max_zero]

/-- The scan of rules that share a place goes on behind a match without a competitor. -/
theorem tokensFrom_of_alone (happlication : tokeniser.application = .overlapping)
    (halone : tokeniser.rules.countP (fun rule => (rule.matchIn? text offset).isSome) ≤ 1)
    {rule : Rule} {found : RuleMatch} (hrule : rule ∈ tokeniser.rules)
    (hmatch : rule.matchIn? text offset = some found) :
    tokeniser.tokensFrom text offset =
      (emitMatch rule found).result >>= fun tokens =>
        behind tokeniser.tokensFrom text offset (tokens, found.bytes) := by
  rw [tokensFrom_of_match hrule hmatch, pass, happlication]
  show (overlap text offset tokeniser.rules).result >>= _ = _
  rw [overlap_of_alone halone hrule hmatch, bind_assoc]
  rfl

/-! ## Rules one behind the other -/

/-- What follows a pass of rules one behind the other, after the match of the first. -/
theorem chain_behind_of_match {rule : Rule} {rules : List Rule} {found : RuleMatch}
    (scan : List Char → Nat → Except Error (List Token))
    (hmatch : rule.matchIn? text offset = some found) :
    (chain (rule :: rules) text offset).result >>= behind scan text offset =
      (emitMatch rule found).result >>= fun tokens =>
        behind (fun after place => (chain rules after place).result >>= behind scan after place)
          text offset (tokens, found.bytes) := by
  rw [chain_of_match hmatch, bind_assoc]
  refine bind_congr fun tokens => ?_
  rw [behind]
  cases hdrop : dropBytes? text found.bytes with
  | none => rfl
  | some after =>
      simp only [bind_assoc, map_bind]
      exact bind_congr fun more => behind_add scan hdrop more

/-- Where the rules never compete, a pass of rules one behind the other and the scan behind it come
to what a scan of rules that share a place does, if the scans agree on all that may be left. -/
theorem chain_behind_of_exclusive (hexclusive : (tokeniser.sharing .overlapping).Exclusive input)
    {pending : List Rule} (hpending : pending ⊆ tokeniser.rules)
    (hbegins : (tokeniser.sharing .overlapping).Begins input offset text)
    (hshorter : ∀ after place, after.length < text.length →
      (tokeniser.sharing .overlapping).Begins input place after → tokeniser.Agrees after place)
    (hstay : (∀ rule ∈ pending, rule.matchIn? text offset = none) → tokeniser.Agrees text offset) :
    (chain pending text offset).result >>=
        behind (tokeniser.sharing .chained).tokensFrom text offset =
      (tokeniser.sharing .overlapping).tokensFrom text offset := by
  -- On the rules that are left: a match of one of them leaves a shorter text to the others.
  induction pending generalizing text offset with
  | nil =>
      have hagrees : tokeniser.Agrees text offset := hstay fun _ hmem => nomatch hmem
      exact (behind_zero _ _ _).trans hagrees
  | cons rule pending ih =>
      obtain ⟨hrule, hpending⟩ := List.cons_subset.1 hpending
      cases hmatch : rule.matchIn? text offset with
      | none =>
          rw [chain_of_miss hmatch]
          exact ih hpending hbegins hshorter fun hnone =>
            hstay (List.forall_mem_cons.2 ⟨hmatch, hnone⟩)
      | some found =>
          have halone := hexclusive offset text hbegins
          have hpass := overlap_of_alone halone hrule hmatch
          have hbytes := Nat.ne_of_gt (Rule.bytes_pos_of_matchIn? hmatch)
          rw [chain_behind_of_match _ hmatch, tokensFrom_of_alone rfl halone hrule hmatch]
          cases hemit : (emitMatch rule found).result with
          | error cause => rfl
          | ok tokens =>
              rw [hemit] at hpass
              rw [ok_bind, ok_bind]
              refine behind_congr fun after hdrop => ?_
              have hafter := hbegins.behind rfl hpass hbytes hdrop
              have hless := Text.length_lt_of_dropBytes? hdrop hbytes
              refine ih hpending hafter (fun rest place hrest => ?_) fun _ => ?_
              · exact hshorter rest place (Nat.lt_trans hrest hless)
              · exact hshorter after _ hless hafter

/-- Where the rules never compete, the scans agree from any pass on. -/
theorem agrees_of_exclusive (hexclusive : (tokeniser.sharing .overlapping).Exclusive input)
    (hbegins : (tokeniser.sharing .overlapping).Begins input offset text) :
    tokeniser.Agrees text offset := by
  -- On the length of the text, of which each of the two scans takes some off before they meet.
  induction hlength : text.length using Nat.strongRecOn generalizing text offset with
  | ind length ih =>
  subst hlength
  cases text with
  | nil => rw [Agrees, tokensFrom_nil, tokensFrom_nil]
  | cons c rest =>
      by_cases hnone : ∀ rule ∈ tokeniser.rules, rule.matchIn? (c :: rest) offset = none
      · have hover (application : Application) :
            (tokeniser.sharing application).tokensFrom (c :: rest) offset =
              (tokeniser.passOver c offset).result >>= fun made => (made ++ ·) <$>
                (tokeniser.sharing application).tokensFrom rest (offset + c.utf8Size) :=
          tokensFrom_of_none hnone
        rw [Agrees, hover, hover]
        cases hemit : (tokeniser.passOver c offset).result with
        | error cause => rfl
        | ok made =>
            have hrest : tokeniser.Agrees rest (offset + c.utf8Size) :=
              ih rest.length (Nat.lt_succ_self _) (hbegins.passOver rfl hnone hemit) rfl
            rw [ok_bind, ok_bind, hrest]
      · obtain ⟨rule, hrule, hmatch⟩ : ∃ rule ∈ tokeniser.rules,
            rule.matchIn? (c :: rest) offset ≠ none := by simpa using hnone
        obtain ⟨found, hfound⟩ := Option.ne_none_iff_exists'.1 hmatch
        have hpass : (tokeniser.sharing .chained).tokensFrom (c :: rest) offset =
            (chain tokeniser.rules (c :: rest) offset).result >>=
              behind (tokeniser.sharing .chained).tokensFrom (c :: rest) offset :=
          tokensFrom_of_match hrule hfound
        rw [Agrees, hpass]
        exact chain_behind_of_exclusive hexclusive (List.Subset.refl _) hbegins
          (fun after place hless hafter => ih after.length hless hafter rfl)
          fun h => absurd h hnone

/-- How the rules share a place makes no difference to an input where they never compete, nor to any
input of a tokeniser with a single rule: the tokens are the same, or the cause of the failure is. -/
theorem tokenise_sharing (tokeniser : Tokeniser) (input : String) :
    ((tokeniser.sharing .overlapping).Exclusive input →
      ((tokeniser.sharing .overlapping).tokenise input).result =
        ((tokeniser.sharing .chained).tokenise input).result) ∧
    (tokeniser.rules.length ≤ 1 →
      ((tokeniser.sharing .overlapping).tokenise input).result =
        ((tokeniser.sharing .chained).tokenise input).result) := by
  have hequal (hexclusive : (tokeniser.sharing .overlapping).Exclusive input) :
      ((tokeniser.sharing .overlapping).tokenise input).result =
        ((tokeniser.sharing .chained).tokenise input).result := by
    have hagrees : tokeniser.Agrees input.toList 0 :=
      agrees_of_exclusive hexclusive (begins_start _ input)
    rw [result_tokenise, result_tokenise, hagrees]
  refine ⟨hequal, fun hsingle => hequal fun offset text _ => ?_⟩
  exact Nat.le_trans List.countP_le_length hsingle

/-- Words and numbers, which begin with different characters. -/
def apart : List Step := [.token ⟨"word"⟩ "[a-zé]+", .token ⟨"number"⟩ "[0-9]+"]

/-- The two rules never compete, and a pass of one behind the other takes two matches. -/
theorem tokenise_sharing_apart : ∃ tokeniser, ofSteps apart = .ok tokeniser ∧
    (tokeniser.sharing .overlapping).Exclusive "é1 ab" ∧
    ((tokeniser.sharing .overlapping).tokenise "é1 ab").result =
      ((tokeniser.sharing .chained).tokenise "é1 ab").result := by
  have hcount : ((ofSteps apart).toOption.all fun tokeniser => (List.range 7).all fun offset =>
      (dropBytes? "é1 ab".toList offset).all fun text =>
        tokeniser.rules.countP (fun rule => (rule.matchIn? text offset).isSome) ≤ 1) = true := by
    decide +kernel
  have hbuilt : (ofSteps apart).toOption.isSome = true := by
    decide +kernel
  cases hbuild : ofSteps apart with
  | error cause =>
      rw [hbuild] at hbuilt
      cases hbuilt
  | ok tokeniser =>
      have hexclusive : (tokeniser.sharing .overlapping).Exclusive "é1 ab" := by
        intro offset text hbegins
        have hle : offset < 7 := by
          have hlength := byteLength_of_dropBytes? hbegins.1
          have hbytes : byteLength "é1 ab".toList = 6 := by decide
          omega
        rw [hbuild] at hcount
        have hat := List.all_eq_true.1 hcount offset (List.mem_range.2 hle)
        rw [hbegins.1] at hat
        exact of_decide_eq_true hat
      exact ⟨tokeniser, rfl, hexclusive, (tokenise_sharing tokeniser _).1 hexclusive⟩

end TokenTree.Tokeniser
