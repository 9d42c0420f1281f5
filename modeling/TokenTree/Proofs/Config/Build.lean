import TokenTree.Config.Build
import TokenTree.Proofs.Registration
import TokenTree.Proofs.Tokeniser.Occurrences

/-!
# What is built from a configuration

The rules and blocks of a configuration are registered one after the other, so a rule is replaced by
a later one of its name, and a block by a later one with its tag or, where both have none, with its
delimiters. What is built lists the entries that are not replaced, in order (`build_lists`), which
are all of them only if no two entries are in each other's way.

A tokeniser that is built gives a token for every match of a rule, unless the rule is to be
discarded or its group took no part, and one for every unmatched character or none
(`tokenise_of_build`).
-/

namespace TokenTree

/-- A rule as it is listed: its name and the text of its pattern. -/
def Rule.listed (rule : Rule) : Option Kind × String := (rule.name, rule.source)

/-- A block as it is listed: its name, and what opens and closes it. -/
def Block.listed (block : Block) : Option Kind × Kind × Kind :=
  (block.name, block.opens, block.closes)

namespace Config

variable {config : Config} {tokeniser : Tokeniser} {grammar : Grammar}

/-! ## Entries that are replaced -/

/-- The two rules have one name, so the second one replaces the first. -/
def RuleEntry.sameName (left right : RuleEntry) : Bool := left.name = right.name

/-- The two blocks have one tag, or both have none and the same delimiters, so the second one
replaces the first. -/
def BlockEntry.sameSlot (left right : BlockEntry) : Bool :=
  match left.name, right.name with
  | some leftName, some rightName => leftName = rightName
  | none, none => left.opens = right.opens && left.closes = right.closes
  | _, _ => false

/-- The reaction of a rule, which gives nothing where the rule is to be discarded. -/
def RuleEntry.reaction (entry : RuleEntry) : RuleMatch → Emit :=
  if entry.discard then fun _ => .nothing else entry.emit

/-- What the rule of an entry is made of. -/
def RuleEntry.definition (entry : RuleEntry) : Option Kind × String × (RuleMatch → Emit) :=
  (some ⟨entry.name⟩, entry.pattern, entry.reaction)

/-- The block of an entry. -/
def BlockEntry.block (entry : BlockEntry) : Block where
  name := entry.name.map .mk
  opens := ⟨entry.opens⟩
  closes := ⟨entry.closes⟩
  reaction := (entry.name.map Kind.mk).elim Block.toList Block.toTagged

/-- What becomes of unmatched characters. -/
def UnmatchedPolicy.unmatched : UnmatchedPolicy → Unmatched
  | .skip => .skip
  | .char => .emit unmatchedChar fun c => .value (.text (String.singleton c))

/-- Rules of entries replace one another where the entries have one name. -/
theorem RuleEntry.sameName_definition (left right : RuleEntry) :
    Tokeniser.sameName left.definition right.definition = left.sameName right := by
  rw [Bool.eq_iff_iff]
  simp [Tokeniser.sameName, definition, sameName]

/-- Blocks of entries replace one another where the entries are in one slot. -/
theorem BlockEntry.sameSlot_block (left right : BlockEntry) :
    left.block.sameSlot right.block = left.sameSlot right := by
  rw [Block.sameSlot, sameSlot, block, block]
  cases left.name <;> cases right.name <;> simp

/-! ## What the steps say -/

/-- What the steps register: first for the application, then for the rules, last for unmatched
characters. -/
theorem filterMap_tokeniserSteps {α : Type} (config : Config) (view : Tokeniser.Step → Option α) :
    config.tokeniserSteps.filterMap view =
      (view (.application config.application)).toList ++
        config.rules.filterMap (fun entry => view entry.step) ++
          (view config.unmatched.step).toList := by
  rw [tokeniserSteps, List.filterMap_append, List.filterMap_cons, List.filterMap_map]
  cases view (.application config.application) <;> cases hunmatched : view config.unmatched.step <;>
    simp [hunmatched]

/-- The steps register the rules of the entries. -/
theorem filterMap_rule?_steps (config : Config) :
    config.tokeniserSteps.filterMap Tokeniser.Step.rule? =
      config.rules.map RuleEntry.definition := by
  have hrule (entry : RuleEntry) : entry.step.rule? = some entry.definition := by
    rw [RuleEntry.step, RuleEntry.definition, RuleEntry.reaction]
    split <;> rfl
  have hpolicy : config.unmatched.step.rule? = none := by
    cases config.unmatched <;> rfl
  have hfirst : Tokeniser.Step.rule? (.application config.application) = none := rfl
  simp only [filterMap_tokeniserSteps, hfirst, hrule, hpolicy, List.filterMap_eq_map',
    Option.toList_none, List.nil_append, List.append_nil]

/-- No rule says what becomes of unmatched characters or how rules share a place. -/
theorem RuleEntry.settings_step (entry : RuleEntry) :
    entry.step.unmatched? = none ∧ entry.step.application? = none := by
  rw [step]
  split <;> exact ⟨rfl, rfl⟩

/-- One step says what becomes of unmatched characters. -/
theorem filterMap_unmatched?_steps (config : Config) :
    config.tokeniserSteps.filterMap Tokeniser.Step.unmatched? = [config.unmatched.unmatched] := by
  have hpolicy : config.unmatched.step.unmatched? = some config.unmatched.unmatched := by
    cases config.unmatched <;> rfl
  have hfirst : Tokeniser.Step.unmatched? (.application config.application) = none := rfl
  simp [filterMap_tokeniserSteps, hfirst, RuleEntry.settings_step, hpolicy]

/-- One step says how the rules share a place. -/
theorem filterMap_application?_steps (config : Config) :
    config.tokeniserSteps.filterMap Tokeniser.Step.application? = [config.application] := by
  have hpolicy : config.unmatched.step.application? = none := by
    cases config.unmatched <;> rfl
  have hfirst : Tokeniser.Step.application? (.application config.application) =
      some config.application := rfl
  simp [filterMap_tokeniserSteps, hfirst, RuleEntry.settings_step, hpolicy]

/-- The steps register the blocks of the entries. -/
theorem filterMap_block?_steps (config : Config) :
    config.grammarSteps.filterMap Grammar.Step.block? = config.blocks.map BlockEntry.block := by
  have hblock : Grammar.Step.block? ∘ BlockEntry.step = some ∘ BlockEntry.block := by
    funext entry
    show entry.step.block? = some entry.block
    rw [BlockEntry.step, BlockEntry.block]
    cases entry.name <;> rfl
  rw [grammarSteps, List.filterMap_append, List.filterMap_cons_none rfl, List.filterMap_map,
    hblock, List.filterMap_eq_map, List.append_right_eq_self, List.filterMap_map,
    List.filterMap_eq_nil_iff]
  exact fun _ _ => rfl

/-! ## What is built -/

/-- What is built is the tokeniser of the steps and the grammar of the steps. -/
theorem ofSteps_of_build (hbuild : config.build.result = .ok (tokeniser, grammar)) :
    Tokeniser.ofSteps config.tokeniserSteps = .ok tokeniser ∧
      grammar = .ofSteps config.grammarSteps := by
  rw [build, Traced.result_bind, bind_eq_ok_iff] at hbuild
  obtain ⟨built, hbuilt, hrest⟩ := hbuild
  cases hrest
  rw [Traced.result_ofExcept, Config.tokeniser] at hbuilt
  refine ⟨?_, rfl⟩
  cases hsteps : Tokeniser.ofSteps config.tokeniserSteps with
  | ok made =>
      rw [hsteps] at hbuilt
      cases hbuilt
      rfl
  | error cause =>
      rw [hsteps] at hbuilt
      cases hbuilt

/-- A tokeniser that is built has the rules of the entries that are not replaced, in order, and is
set to what the configuration says. -/
theorem tokeniser_of_build (hbuild : config.build.result = .ok (tokeniser, grammar)) :
    tokeniser.rules.map Rule.definition =
        (unreplaced RuleEntry.sameName config.rules).map RuleEntry.definition ∧
      tokeniser.unmatched = config.unmatched.unmatched ∧
      tokeniser.application = config.application := by
  obtain ⟨hrules, hunmatched, happlication⟩ :=
    Tokeniser.defines_ofSteps (ofSteps_of_build hbuild).1
  rw [filterMap_rule?_steps, unreplaced_map] at hrules
  rw [filterMap_unmatched?_steps] at hunmatched
  rw [filterMap_application?_steps] at happlication
  simp only [RuleEntry.sameName_definition] at hrules
  exact ⟨hrules, hunmatched, happlication⟩

/-- A grammar that is built has the blocks of the entries that are not replaced, in order. -/
theorem blocks_of_build (hbuild : config.build.result = .ok (tokeniser, grammar)) :
    grammar.blocks = (unreplaced BlockEntry.sameSlot config.blocks).map BlockEntry.block := by
  rw [(ofSteps_of_build hbuild).2, Grammar.blocks_ofSteps, filterMap_block?_steps, unreplaced_map]
  simp only [BlockEntry.sameSlot_block]

/-! ## Lists of rules and blocks -/

/-- The rule of an entry as it is listed. -/
def RuleEntry.listed (entry : RuleEntry) : Option Kind × String :=
  (some ⟨entry.name⟩, entry.pattern)

/-- The block of an entry as it is listed. -/
def BlockEntry.listed (entry : BlockEntry) : Option Kind × Kind × Kind :=
  (entry.name.map .mk, ⟨entry.opens⟩, ⟨entry.closes⟩)

/-- No rule is replaced exactly if no two have one name. -/
theorem pairwise_sameName_iff {rules : List RuleEntry} :
    (rules.Pairwise fun left right => left.sameName right = false) ↔
      (rules.map RuleEntry.name).Nodup := by
  rw [List.Nodup, List.pairwise_map]
  simp only [RuleEntry.sameName, decide_eq_false_iff_not, ne_eq]

/-- What is built lists the rules and the blocks that no later one replaces, in the order of the
configuration. It lists all rules exactly if no name is repeated, and all blocks exactly if no two
have one tag, or none and the same delimiters. -/
theorem build_lists (hbuild : config.build.result = .ok (tokeniser, grammar)) :
    tokeniser.rules.map Rule.listed =
        (unreplaced RuleEntry.sameName config.rules).map RuleEntry.listed ∧
      grammar.blocks.map Block.listed =
        (unreplaced BlockEntry.sameSlot config.blocks).map BlockEntry.listed ∧
      (tokeniser.rules.map Rule.listed = config.rules.map RuleEntry.listed ↔
        (config.rules.map RuleEntry.name).Nodup) ∧
      (grammar.blocks.map Block.listed = config.blocks.map BlockEntry.listed ↔
        config.blocks.Pairwise fun left right => left.sameSlot right = false) := by
  have hrules : tokeniser.rules.map Rule.listed =
      (unreplaced RuleEntry.sameName config.rules).map RuleEntry.listed := by
    have hdefinitions := congrArg (List.map fun definition => (definition.1, definition.2.1))
      (tokeniser_of_build hbuild).1
    rwa [List.map_map, List.map_map] at hdefinitions
  have hblocks : grammar.blocks.map Block.listed =
      (unreplaced BlockEntry.sameSlot config.blocks).map BlockEntry.listed := by
    rw [blocks_of_build hbuild, List.map_map]
    rfl
  refine ⟨hrules, hblocks, ?_, ?_⟩
  · rw [hrules, map_unreplaced_eq_map_iff, pairwise_sameName_iff]
  · rw [hblocks, map_unreplaced_eq_map_iff]

/-- Two rules of one name around another one, and two blocks of one tag. -/
def repeating : Config where
  rules := [⟨"id", "[a-z]+", false, none, .text⟩, ⟨"num", "[0-9]+", false, none, .text⟩,
    ⟨"id", "_[a-z]+", false, none, .text⟩]
  blocks := [⟨"op", "cp", some "group"⟩, ⟨"ob", "cb", some "group"⟩]

/-- The first rule and the first block are lost. -/
theorem build_lists_repeating : ∃ tokeniser grammar,
    repeating.build.result = .ok (tokeniser, grammar) ∧
    tokeniser.rules.map Rule.listed = [(some ⟨"num"⟩, "[0-9]+"), (some ⟨"id"⟩, "_[a-z]+")] ∧
    grammar.blocks.map Block.listed = [(some ⟨"group"⟩, ⟨"ob"⟩, ⟨"cb"⟩)] ∧
    tokeniser.rules.map Rule.listed ≠ repeating.rules.map RuleEntry.listed ∧
    grammar.blocks.map Block.listed ≠ repeating.blocks.map BlockEntry.listed := by
  have hbuilt : repeating.build.result.toOption.isSome = true := by
    decide +kernel
  cases hbuild : repeating.build.result with
  | error cause =>
      rw [hbuild] at hbuilt
      cases hbuilt
  | ok built =>
      obtain ⟨tokeniser, grammar⟩ := built
      obtain ⟨hrules, hblocks, hallRules, hallBlocks⟩ := build_lists hbuild
      refine ⟨tokeniser, grammar, rfl, hrules.trans (by decide), hblocks.trans (by decide), ?_, ?_⟩
      · exact mt hallRules.1 (by decide)
      · exact mt hallBlocks.1 (by decide)

/-! ## Tokens -/

/-- What the configuration makes of what occurs in a scan. A match gives one token, named after its
rule, unless the rule is to be discarded or selects no text of the match. An unmatched character
gives one token with its text, or none. -/
def Gives (config : Config) : Occurrence → List Token → Prop
  | .matched rule found, tokens =>
      ∃ entry ∈ unreplaced RuleEntry.sameName config.rules,
        rule.name = some ⟨entry.name⟩ ∧ rule.source = entry.pattern ∧
        if entry.discard = true ∨ entry.selected? found = none then tokens = []
        else ∃ value, tokens = [⟨⟨entry.name⟩, value⟩]
  | .unmatched c _, tokens =>
      match config.unmatched with
      | .skip => tokens = []
      | .char => tokens = [.of unmatchedChar (.text (String.singleton c))]

/-- The text that a rule selects becomes one token with the name of the rule. -/
theorem RuleEntry.toTokens_emitText (entry : RuleEntry) (text : String) (offset : Nat) :
    ∃ value, (entry.emitText text).toTokens (some ⟨entry.name⟩) offset =
      .ok [⟨⟨entry.name⟩, value⟩] := by
  rw [emitText]
  cases entry.value <;> exact ⟨_, rfl⟩

/-- A match of a configured rule gives what the configuration says. -/
theorem gives_matched {entry : RuleEntry}
    (hentry : entry ∈ unreplaced RuleEntry.sameName config.rules)
    {rule : Rule} (hrule : rule.definition = entry.definition) {found : RuleMatch}
    {tokens : List Token}
    (htokens : (rule.reaction found).toTokens rule.name found.offset = .ok tokens) :
    config.Gives (.matched rule found) tokens := by
  obtain ⟨hname, hrest⟩ := Prod.mk.inj hrule
  obtain ⟨hsource, hreaction⟩ := Prod.mk.inj hrest
  refine ⟨entry, hentry, hname, hsource, ?_⟩
  rw [hname, hreaction, RuleEntry.reaction] at htokens
  cases hdiscard : entry.discard with
  | true =>
      rw [hdiscard] at htokens
      cases htokens
      rw [if_pos (Or.inl rfl)]
  | false =>
      rw [hdiscard] at htokens
      replace htokens : (entry.emit found).toTokens (some ⟨entry.name⟩) found.offset = .ok tokens :=
        htokens
      rw [RuleEntry.emit] at htokens
      cases hselected : entry.selected? found with
      | none =>
          rw [hselected] at htokens
          cases htokens
          rw [if_pos (Or.inr rfl)]
      | some text =>
          rw [hselected] at htokens
          obtain ⟨value, hvalue⟩ := entry.toTokens_emitText text found.offset
          rw [if_neg (by simp)]
          exact ⟨value, Except.ok.inj (htokens.symm.trans hvalue)⟩

/-- An unmatched character gives what the configuration says. -/
theorem gives_unmatched (hunmatched : tokeniser.unmatched = config.unmatched.unmatched) {c : Char}
    {offset : Nat} {tokens : List Token}
    (htokens : tokeniser.tokensOf (.unmatched c offset) = .ok tokens) :
    config.Gives (.unmatched c offset) tokens := by
  rw [Tokeniser.tokensOf, hunmatched] at htokens
  rw [Gives]
  cases hpolicy : config.unmatched with
  | skip | char =>
      rw [hpolicy] at htokens
      cases htokens
      rfl

/-- Each rule of a tokeniser that is built is that of an entry which is not replaced. -/
theorem exists_entry_of_build (hbuild : config.build.result = .ok (tokeniser, grammar))
    {rule : Rule} (hrule : rule ∈ tokeniser.rules) :
    ∃ entry ∈ unreplaced RuleEntry.sameName config.rules, rule.definition = entry.definition := by
  have hmem : rule.definition ∈ tokeniser.rules.map Rule.definition := List.mem_map_of_mem hrule
  rw [(tokeniser_of_build hbuild).1] at hmem
  obtain ⟨entry, hentry, hdefinition⟩ := List.mem_map.1 hmem
  exact ⟨entry, hentry, hdefinition.symm⟩

/-- A tokeniser that is built makes tokens of every input whose matches stand where the text begins.
They are the tokens of all that occurs in its scan, one after the other: one token with the name of
the rule for a match, none where the rule is to be discarded or its group took no part, and what the
configuration says for a character at which no rule matches. -/
theorem tokenise_of_build (hbuild : config.build.result = .ok (tokeniser, grammar))
    (hprefixes : ∀ rule ∈ tokeniser.rules, rule.MatchesPrefix) (input : String) :
    ∃ occurrences made, tokeniser.Completes input (tokeniser.start 0 []) occurrences ∧
      (∀ occurrence, occurrence ∈ occurrences ↔ ∃ scan, tokeniser.Reaches input scan ∧
        tokeniser.occurrence? input scan = some occurrence) ∧
      List.Forall₂ config.Gives occurrences made ∧
      (tokeniser.tokenise input).result = .ok ⟨made.flatten, 0, none⟩ := by
  have hnamed (rule : Rule) (hrule : rule ∈ tokeniser.rules) : rule.name ≠ none := by
    obtain ⟨entry, -, hdefinition⟩ := exists_entry_of_build hbuild hrule
    rw [(Prod.mk.inj hdefinition).1]
    exact Option.some_ne_none _
  obtain ⟨occurrences, hcompletes⟩ := Tokeniser.exists_completes_of_named hnamed hprefixes input
  obtain ⟨made, hmade, hresult⟩ := hcompletes.result_tokenise
  refine ⟨occurrences, made, hcompletes, fun _ => hcompletes.mem_iff, ?_, hresult⟩
  refine ((List.forall₂_and_left _ _).2 ⟨fun _ hmem => hmem, hmade⟩).imp ?_
  rintro occurrence tokens ⟨hmem, htokens⟩
  cases occurrence with
  | matched rule found =>
      obtain ⟨entry, hentry, hdefinition⟩ := exists_entry_of_build hbuild (hcompletes.rule_mem hmem)
      exact gives_matched hentry hdefinition htokens
  | unmatched c offset => exact gives_unmatched (tokeniser_of_build hbuild).2.1 htokens

/-- A rule that selects a group, and one that is discarded, in front of unmatched characters. -/
def selecting : Config where
  application := .chained
  unmatched := .char
  rules := [⟨"num", "([0-9])?x", false, some 1, .int⟩, ⟨"blank", " ", true, none, .text⟩]

/-- A match without the group has no token, nor has a discarded one. -/
theorem tokenise_of_build_selecting : ∃ tokeniser grammar occurrences made,
    selecting.build.result = .ok (tokeniser, grammar) ∧
    tokeniser.Completes "7x xé" (tokeniser.start 0 []) occurrences ∧
    List.Forall₂ selecting.Gives occurrences made ∧
    (tokeniser.tokenise "7x xé").result = .ok ⟨made.flatten, 0, none⟩ ∧
    made.flatten = [.of ⟨"num"⟩ (.int 7), .of ⟨"char"⟩ (.text "é")] := by
  have hbuilt : (selecting.build.result.toOption.map fun built =>
      (built.1.rules.all fun rule => !Rule.escapes rule.source) &&
        (built.1.tokenise "7x xé").result.toOption.any fun stream =>
          stream.items = [.of ⟨"num"⟩ (.int 7), .of ⟨"char"⟩ (.text "é")]) = some true := by
    decide +kernel
  cases hbuild : selecting.build.result with
  | error cause =>
      rw [hbuild] at hbuilt
      cases hbuilt
  | ok built =>
      obtain ⟨tokeniser, grammar⟩ := built
      rw [hbuild] at hbuilt
      obtain ⟨hcontained, htokens⟩ := Bool.and_eq_true_iff.1 (Option.some.inj hbuilt)
      have hprefixes := Tokeniser.matchesPrefix_ofSteps (ofSteps_of_build hbuild).1
        fun rule hrule => by simpa using List.all_eq_true.1 hcontained rule hrule
      obtain ⟨occurrences, made, hcompletes, -, hmade, hresult⟩ :=
        tokenise_of_build hbuild hprefixes "7x xé"
      rw [hresult] at htokens
      exact ⟨tokeniser, grammar, occurrences, made, rfl, hcompletes, hmade, hresult,
        of_decide_eq_true htokens⟩

end Config

end TokenTree
