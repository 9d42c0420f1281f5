import TokenTree.Proofs.Tokeniser.Machine

/-!
# Scans that stay in place

A scan is in place when every match stands where it was looked for, every offset is between two
characters and the scan never fails for want of a character. `inPlace_iff_matchesPrefix` says for
which rules all scans are: those whose matches stand where the text begins. Every rule is one whose
pattern stays inside the group that is wrapped around it. A rule whose pattern closes that group and
goes on with a bar need not be, as `not_inPlace_escaping` shows.
-/

namespace TokenTree

open Text (byteLength dropBytes? dropBytes?_add IsBoundary)

/-- Only values without a name have no tokens. -/
theorem Emit.toTokens_eq_error {name : Option Kind} {offset : Nat} {emit : Emit} {cause : Error}
    (hemit : emit.toTokens name offset = .error cause) :
    name = none ∧ cause = .unnamedRuleValue offset := by
  cases emit <;> cases name <;> cases hemit <;> exact ⟨rfl, rfl⟩

namespace Tokeniser

variable {tokeniser : Tokeniser} {input : String} {scan after : Scan}

/-- A match without tokens has a reaction that gives values, and a rule without a name. -/
theorem result_emitMatch_eq_error {rule : Rule} {found : RuleMatch} {cause : Error}
    (hemit : (emitMatch rule found).result = .error cause) :
    cause = .unnamedRuleValue found.offset := by
  have htokens : (rule.reaction found).toTokens rule.name found.offset = .error cause := hemit
  exact (Emit.toTokens_eq_error htokens).2

/-- A character that no rule matches can always be passed over. -/
theorem result_passOver_ne_error {c : Char} {offset : Nat} {cause : Error} :
    (tokeniser.passOver c offset).result ≠ .error cause := by
  intro hemit
  rw [passOver] at hemit
  split at hemit
  · cases hemit
  · rename_i name handler hunmatched
    have htokens : (handler c).toTokens (some name) offset = .error cause := hemit
    cases (Emit.toTokens_eq_error htokens).1

/-! ## The invariant -/

/-- The offsets of the state are between characters, and its rules are the tokeniser's. -/
structure Sound (tokeniser : Tokeniser) (input : String) (scan : Scan) : Prop where
  offset_boundary : IsBoundary input.toList scan.offset
  reached_boundary : IsBoundary input.toList scan.reached
  offset_le : scan.offset ≤ scan.reached
  pending_subset : scan.pending ⊆ tokeniser.rules

/-- A pass that begins between characters is sound at its start. -/
theorem sound_start {offset : Nat} {tokens : List Token}
    (hboundary : IsBoundary input.toList offset) :
    tokeniser.Sound input (tokeniser.start offset tokens) :=
  ⟨hboundary, hboundary, Nat.le_refl _, List.Subset.refl _⟩

/-- In a sound state the next rule has its turn between characters. -/
theorem Sound.place_boundary (hsound : tokeniser.Sound input scan) :
    IsBoundary input.toList (tokeniser.place scan) := by
  rw [place]
  cases tokeniser.application with
  | overlapping => exact hsound.offset_boundary
  | chained => exact hsound.reached_boundary

/-- A rule's match at a place ends between characters, if it stands where the text begins. -/
theorem boundary_of_matchesPrefix {rule : Rule} {text : List Char} {offset : Nat}
    {found : RuleMatch} (hprefixes : rule.MatchesPrefix)
    (htext : dropBytes? input.toList offset = some text)
    (hmatch : rule.matchIn? text offset = some found) :
    IsBoundary input.toList (offset + found.bytes) := by
  obtain ⟨rest, hrest⟩ := hprefixes _ _ _ hmatch
  refine ⟨rest, ?_⟩
  rw [dropBytes?_add htext, Text.dropBytes?_eq_some_iff]
  exact ⟨found.text.toList, hrest.symm, rfl⟩

/-- Of two boundaries the later one is a boundary. -/
theorem boundary_max {text : List Char} {first second : Nat} (hfirst : IsBoundary text first)
    (hsecond : IsBoundary text second) : IsBoundary text (max first second) := by
  rw [Nat.max_def]
  split
  · exact hsecond
  · exact hfirst

/-- A step keeps a state sound. -/
theorem Sound.step (hprefixes : ∀ rule ∈ tokeniser.rules, rule.MatchesPrefix)
    (hsound : tokeniser.Sound input scan)
    (hstep : tokeniser.step input scan = .ok (some after)) : tokeniser.Sound input after := by
  have hmoves : tokeniser.Moves input scan _ := moves_step
  rw [hstep] at hmoves
  cases hmoves with
  | exhaust => exact { hsound with pending_subset := List.nil_subset _ }
  | miss hpending =>
      have hsubset := hsound.pending_subset
      rw [hpending] at hsubset
      exact { hsound with pending_subset := (List.cons_subset.1 hsubset).2 }
  | hit hpending hoffset hplace htext hmatch hemit =>
      have hsubset := hsound.pending_subset
      rw [hpending] at hsubset
      obtain ⟨hrule, hrules⟩ := List.cons_subset.1 hsubset
      have hend := boundary_of_matchesPrefix (hprefixes _ hrule) htext hmatch
      exact ⟨hsound.offset_boundary, boundary_max hsound.reached_boundary hend,
        Nat.le_trans hsound.offset_le (Nat.le_max_left _ _), hrules⟩
  | next => exact sound_start hsound.reached_boundary
  | @passOver c rest tokens hpending hoffset hreached htext hemit =>
      refine sound_start ⟨rest, ?_⟩
      rw [dropBytes?_add htext, Text.dropBytes?_cons]

/-- Every state of the scan is sound. -/
theorem sound_of_reaches (hprefixes : ∀ rule ∈ tokeniser.rules, rule.MatchesPrefix)
    (hreaches : tokeniser.Reaches input scan) : tokeniser.Sound input scan := by
  induction hreaches with
  | refl => exact sound_start ⟨_, by rw [dropBytes?]⟩
  | tail _ hstep ih => exact ih.step hprefixes hstep

/-- A sound state does not fail for want of a character. -/
theorem Sound.step_ne_offBoundary (hsound : tokeniser.Sound input scan) (offset : Nat) :
    tokeniser.step input scan ≠ .error (.offBoundary offset) := by
  intro hstep
  have hmoves : tokeniser.Moves input scan _ := moves_step
  rw [hstep] at hmoves
  cases hmoves with
  | slice hpending hoffset hplace htext =>
      obtain ⟨rest, hrest⟩ := hsound.place_boundary
      rw [htext] at hrest
      cases hrest
  | refuse hpending hoffset hplace htext hmatch hemit =>
      cases result_emitMatch_eq_error hemit
  | sliceUnmatched hpending hoffset hreached htext =>
      obtain ⟨rest, hrest⟩ := hsound.offset_boundary
      rw [htext] at hrest
      cases hrest
  | refuseUnmatched hpending hoffset hreached htext hemit =>
      exact result_passOver_ne_error hemit

/-- A pass that is over is followed by one further on. -/
theorem Sound.offset_lt (hsound : tokeniser.Sound input scan) (hover : scan.pending = [])
    (hstep : tokeniser.step input scan = .ok (some after)) : scan.offset < after.offset := by
  have hmoves : tokeniser.Moves input scan _ := moves_step
  rw [hstep] at hmoves
  cases hmoves with
  | exhaust hpending | miss hpending | hit hpending =>
      rw [hover] at hpending
      cases hpending
  | next hpending hoffset hreached =>
      exact Nat.lt_of_le_of_ne hsound.offset_le (Ne.symm hreached)
  | passOver => exact Nat.lt_add_of_pos_right (Char.utf8Size_pos _)

/-! ## Scans in place -/

/-- The scan of the input keeps to the places between characters: passes begin there, rules have
their turn there and match there, every pass ends further on than it began, and no step asks for
what the input has from the inside of a character on. -/
structure InPlace (tokeniser : Tokeniser) (input : String) : Prop where
  offset_boundary : ∀ scan, tokeniser.Reaches input scan → IsBoundary input.toList scan.offset
  place_boundary : ∀ scan, tokeniser.Reaches input scan →
    IsBoundary input.toList (tokeniser.place scan)
  match_slice : ∀ scan rule rules found, tokeniser.Reaches input scan →
    scan.pending = rule :: rules → rule.matchAt input (tokeniser.place scan) = .ok (some found) →
    found.offset = tokeniser.place scan ∧
      ∃ rest, dropBytes? input.toList found.offset = some (found.text.toList ++ rest)
  offset_lt : ∀ scan after, tokeniser.Reaches input scan → scan.pending = [] →
    tokeniser.step input scan = .ok (some after) → scan.offset < after.offset
  result_ne : ∀ offset, (tokeniser.tokenise input).result ≠ .error (.offBoundary offset)

/-- A match at an offset is one in what the input has from there on. -/
theorem matchAt_eq_ok_iff {rule : Rule} {offset : Nat} {found : RuleMatch} :
    rule.matchAt input offset = .ok (some found) ↔
      ∃ text, dropBytes? input.toList offset = some text ∧
        rule.matchIn? text offset = some found := by
  rw [Rule.matchAt]
  cases dropBytes? input.toList offset <;> simp

/-- Rules whose matches stand where the text begins keep all scans in place. -/
theorem inPlace_of_matchesPrefix (hprefixes : ∀ rule ∈ tokeniser.rules, rule.MatchesPrefix)
    (input : String) : tokeniser.InPlace input where
  offset_boundary scan hreaches := (sound_of_reaches hprefixes hreaches).offset_boundary
  place_boundary scan hreaches := (sound_of_reaches hprefixes hreaches).place_boundary
  match_slice scan rule rules found hreaches hpending hmatchAt := by
    obtain ⟨text, htext, hmatch⟩ := matchAt_eq_ok_iff.1 hmatchAt
    have hoffset := Rule.offset_of_matchIn? hmatch
    have hmem : rule ∈ tokeniser.rules :=
      (sound_of_reaches hprefixes hreaches).pending_subset (hpending ▸ List.mem_cons_self)
    obtain ⟨rest, hrest⟩ := hprefixes rule hmem _ _ _ hmatch
    exact ⟨hoffset, rest, by rw [hoffset, htext, hrest]⟩
  offset_lt scan after hreaches := (sound_of_reaches hprefixes hreaches).offset_lt
  result_ne offset hresult := by
    -- A failure of the recursion is one of a step of the machine, in a state it reaches.
    have hends := ends_tokenise tokeniser input
    rw [hresult, error_bind] at hends
    obtain ⟨last, hreaches, hstep⟩ := exists_of_ends_error .refl hends
    exact (sound_of_reaches hprefixes hreaches).step_ne_offBoundary offset hstep

/-- A rule that keeps the scans of all texts in place when it is alone matches at the start only. -/
theorem matchesPrefix_of_inPlace {rule : Rule} {unmatched : Unmatched} {application : Application}
    (hinPlace : ∀ input, (⟨[rule], unmatched, application⟩ : Tokeniser).InPlace input) :
    rule.MatchesPrefix := by
  intro text offset found hmatch
  -- The rule has its first turn at the start of the text, whatever the offset was.
  have hplace := place_start ⟨[rule], unmatched, application⟩ 0 []
  have htext : dropBytes? (String.ofList text).toList 0 = some text := by
    rw [String.toList_ofList, dropBytes?]
  have hmatchAt : rule.matchAt (String.ofList text)
      (place ⟨[rule], unmatched, application⟩ (start ⟨[rule], unmatched, application⟩ 0 [])) =
        .ok (some { found with offset := 0 }) := by
    rw [hplace, matchAt_eq_ok_iff]
    exact ⟨text, htext, Rule.matchIn?_at hmatch 0⟩
  obtain ⟨-, rest, hrest⟩ :=
    (hinPlace (String.ofList text)).match_slice _ rule [] _ .refl rfl hmatchAt
  rw [htext] at hrest
  exact ⟨rest, (Option.some.inj hrest).symm⟩

/-- The tokenisers of some rules keep all scans in place exactly if the rules match at the start
only. Rules that are made of patterns do, unless a pattern closes the group around it and goes on
with a bar. -/
theorem inPlace_iff_matchesPrefix {steps : List Step} (hbuild : ofSteps steps = .ok tokeniser) :
    ((∀ rule ∈ tokeniser.rules, rule.MatchesPrefix) ↔
      ∀ other : Tokeniser, other.rules ⊆ tokeniser.rules → ∀ input, other.InPlace input) ∧
    ∀ rule ∈ tokeniser.rules, Rule.escapes rule.source = false → rule.MatchesPrefix := by
  refine ⟨⟨?_, ?_⟩, ?_⟩
  · intro hprefixes other hsubset
    exact inPlace_of_matchesPrefix fun rule hmem => hprefixes rule (hsubset hmem)
  · intro hinPlace rule hmem
    have halone := hinPlace ⟨[rule], .skip, .overlapping⟩ (by simpa using hmem)
    exact matchesPrefix_of_inPlace halone
  · intro rule hmem hcontained
    exact Rule.matchesPrefix_of_compile (compiled_ofSteps hbuild rule hmem) hcontained

/-- Two rules of patterns that keep their parentheses in pairs, one with a bar in it. -/
def contained : List Step := [.token ⟨"word"⟩ "é|(b)+", .discard ⟨"blank"⟩ " "]

/-- The tokenisers of the two rules keep the scans of all texts in place. -/
theorem inPlace_contained : ∃ tokeniser, ofSteps contained = .ok tokeniser ∧
    ∀ other : Tokeniser, other.rules ⊆ tokeniser.rules → ∀ input, other.InPlace input := by
  have hsources : (ofSteps contained).toOption.map (fun tokeniser =>
      tokeniser.rules.map Rule.source) = some ["é|(b)+", " "] := by
    decide +kernel
  have hcontained : ∀ source ∈ ["é|(b)+", " "], Rule.escapes source = false := by
    decide +kernel
  cases hbuild : ofSteps contained with
  | error cause =>
      rw [hbuild] at hsources
      cases hsources
  | ok tokeniser =>
      rw [hbuild] at hsources
      obtain ⟨hiff, hprefixes⟩ := inPlace_iff_matchesPrefix hbuild
      refine ⟨tokeniser, rfl, hiff.1 fun rule hmem => hprefixes rule hmem (hcontained _ ?_)⟩
      rw [← Option.some.inj hsources]
      exact List.mem_map_of_mem hmem

/-- A rule of a pattern that closes the group around it and goes on with a bar. -/
def escaping : List Step := [.token ⟨"x"⟩ "a)|(?:b"]

/-- The rule finds its match behind a character of two bytes, and the scan fails inside of that. -/
theorem not_inPlace_escaping : ∃ tokeniser, ofSteps escaping = .ok tokeniser ∧
    (tokeniser.tokenise "éb").result = .error (.offBoundary 1) ∧ ¬ tokeniser.InPlace "éb" := by
  have hresult : ((ofSteps escaping).toOption.map fun tokeniser =>
      match (tokeniser.tokenise "éb").result with
      | .ok _ => none
      | .error cause => some cause) = some (some (.offBoundary 1)) := by
    decide +kernel
  cases hbuild : ofSteps escaping with
  | error cause =>
      rw [hbuild] at hresult
      cases hresult
  | ok tokeniser =>
      rw [hbuild] at hresult
      cases htokens : (tokeniser.tokenise "éb").result with
      | ok stream => simp [Except.toOption, htokens] at hresult
      | error cause =>
          obtain rfl : cause = .offBoundary 1 := by simpa [Except.toOption, htokens] using hresult
          exact ⟨tokeniser, rfl, htokens, fun hinPlace => hinPlace.result_ne 1 htokens⟩

end Tokeniser

end TokenTree
