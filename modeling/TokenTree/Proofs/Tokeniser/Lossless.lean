import Mathlib.Data.List.Forall2
import TokenTree.Proofs.Registration
import TokenTree.Proofs.Tokeniser.Occurrences

/-!
# Nothing is lost

Where rules follow one another, every character of the input is part of one match or is passed over,
and of one only: the texts of what occurs in a scan are the input, piece by piece
(`Completes.flatMap_text`). So rules that give the text of their match, with a fallback that gives
the character, have tokens whose texts are the input again (`join_texts_tokenise`). Rules that share
a place do not, since each of them gives its text and only the longest is moved over.
-/

namespace TokenTree

open Text (byteLength dropBytes? dropBytes?_add byteLength_of_dropBytes?)

/-- The rule has a name and gives the text of its match as a value. -/
structure Rule.EmitsText (rule : Rule) : Prop where
  named : rule.name ≠ none
  reaction : ∀ found, rule.reaction found = .value (.text found.text)

/-- An unmatched character becomes a value that is its text. -/
def Unmatched.EmitsText : Unmatched → Prop
  | .skip => False
  | .emit _ handler => ∀ c, handler c = .value (.text (String.singleton c))

namespace Tokeniser

variable {tokeniser : Tokeniser} {input : String} {scan : Scan} {text : List Char}
  {occurrences : List Occurrence}

/-- Behind the matches of a pass of rules that follow one another, what is left to occur has the
text that is left. -/
theorem Completes.flatMap_text (happlication : tokeniser.application = .chained)
    (hprefixes : ∀ rule ∈ tokeniser.rules, rule.MatchesPrefix)
    (hsound : tokeniser.Sound input scan)
    (hcompletes : tokeniser.Completes input scan occurrences)
    (htext : dropBytes? input.toList scan.reached = some text) :
    occurrences.flatMap Occurrence.text = text := by
  -- On the way to the end. Each step either leaves the matches where they end, or moves their end
  -- by the text of what occurs.
  induction hcompletes generalizing text with
  | @done scan hstep =>
      have hmoves : tokeniser.Moves input scan _ := moves_step
      rw [hstep] at hmoves
      cases hmoves with
      | done hend =>
          have hlength := byteLength_of_dropBytes? htext
          have hle := hsound.offset_le
          by_contra hne
          have hpos := Text.byteLength_pos (Ne.symm hne)
          omega
  | @next scan after occurrences hstep _ ih =>
      have hafter := hsound.step hprefixes hstep
      have hplace : tokeniser.place scan = scan.reached := by rw [place, happlication]
      have hmoves : tokeniser.Moves input scan _ := moves_step
      rw [hstep] at hmoves
      rw [List.flatMap_append]
      cases hmoves with
      | exhaust hpending hoffset hspot =>
          rw [occurrence?_of_exhaust hpending hoffset hspot]
          exact ih hafter htext
      | miss hpending hoffset hspot hrest hmatch =>
          rw [occurrence?_of_miss hpending hoffset hspot hrest hmatch]
          exact ih hafter htext
      | @hit rule rules rest found tokens hpending hoffset hspot hrest hmatch hemit =>
          obtain rfl : text = rest := by
            rw [hplace, htext] at hrest
            exact Option.some.inj hrest
          have hrule := hsound.pending_subset (hpending ▸ List.mem_cons_self)
          obtain ⟨behind, rfl⟩ := hprefixes rule hrule _ _ _ hmatch
          have hbehind : dropBytes? input.toList
              (max scan.reached (tokeniser.place scan + found.bytes)) = some behind := by
            rw [hplace, Nat.max_eq_right (Nat.le_add_right ..), dropBytes?_add htext]
            exact Text.dropBytes?_eq_some_iff.2 ⟨_, rfl, rfl⟩
          rw [occurrence?_of_hit hpending hoffset hspot hrest hmatch, Option.toList_some,
            List.flatMap_singleton, ih hafter hbehind]
          rfl
      | next hpending hoffset hreached =>
          rw [occurrence?_of_next hpending hoffset hreached]
          exact ih hafter htext
      | @passOver c rest tokens hpending hoffset hreached hrest hemit =>
          obtain rfl : text = c :: rest := by
            rw [hreached, hrest] at htext
            exact (Option.some.inj htext).symm
          have hbehind : dropBytes? input.toList (scan.offset + c.utf8Size) = some rest := by
            rw [dropBytes?_add hrest, Text.dropBytes?_cons]
          rw [occurrence?_of_passOver hpending hoffset hreached hrest, Option.toList_some,
            List.flatMap_singleton, ih hafter hbehind]
          rfl

/-- What occurs has one token with its text, where the rules and the fallback give that. -/
theorem map_text?_of_tokensOf (hunmatched : tokeniser.unmatched.EmitsText) {occurrence : Occurrence}
    (hrule : ∀ rule found, occurrence = .matched rule found → rule.EmitsText) {tokens : List Token}
    (htokens : tokeniser.tokensOf occurrence = .ok tokens) :
    tokens.map Token.text? = [some (String.ofList occurrence.text)] := by
  cases occurrence with
  | matched rule found =>
      obtain ⟨hnamed, hreaction⟩ := hrule rule found rfl
      obtain ⟨name, hname⟩ := Option.ne_none_iff_exists'.1 hnamed
      rw [tokensOf, hreaction, hname] at htokens
      cases htokens
      rw [Occurrence.text, String.ofList_toList]
      rfl
  | unmatched c offset =>
      cases hpolicy : tokeniser.unmatched with
      | skip =>
          rw [hpolicy] at hunmatched
          cases hunmatched
      | emit name handler =>
          rw [hpolicy] at hunmatched
          rw [tokensOf, hpolicy] at htokens
          simp only [hunmatched c] at htokens
          cases htokens
          rfl

/-- The tokens of what occurs have its texts, one after the other. -/
theorem map_text?_flatten (hunmatched : tokeniser.unmatched.EmitsText) {made : List (List Token)}
    (hmade : List.Forall₂ (fun occurrence tokens => tokeniser.tokensOf occurrence = .ok tokens)
      occurrences made)
    (hrules : ∀ rule found, .matched rule found ∈ occurrences → rule.EmitsText) :
    made.flatten.map Token.text? =
      occurrences.map fun occurrence => some (String.ofList occurrence.text) := by
  induction hmade with
  | nil => rfl
  | cons htokens _ ih =>
      have hfirst := map_text?_of_tokensOf hunmatched
        (fun rule found heq => hrules rule found (heq ▸ List.mem_cons_self)) htokens
      have hrest := ih fun rule found hmem => hrules rule found (List.mem_cons_of_mem _ hmem)
      rw [List.flatten_cons, List.map_append, hfirst, hrest]
      rfl

/-- The tokens of an input have texts, and these are the input, one after the other, where the rules
follow one another, give the texts of their matches and match where the text begins, and the
fallback gives the text of its character. -/
theorem join_texts_tokenise (happlication : tokeniser.application = .chained)
    (hrules : ∀ rule ∈ tokeniser.rules, rule.EmitsText)
    (hunmatched : tokeniser.unmatched.EmitsText)
    (hprefixes : ∀ rule ∈ tokeniser.rules, rule.MatchesPrefix) (input : String) :
    ∃ stream texts, (tokeniser.tokenise input).result = .ok stream ∧
      stream.items.map Token.text? = texts.map some ∧ String.join texts = input := by
  obtain ⟨occurrences, hcompletes⟩ :=
    exists_completes_of_named (fun rule hrule => (hrules rule hrule).named) hprefixes input
  obtain ⟨made, hmade, hresult⟩ := hcompletes.result_tokenise
  refine ⟨_, occurrences.map fun occurrence => String.ofList occurrence.text, hresult, ?_, ?_⟩
  · have htexts := map_text?_flatten hunmatched hmade fun rule _ hmem =>
      hrules rule (hcompletes.rule_mem hmem)
    rw [List.map_map]
    exact htexts
  · have hsound : tokeniser.Sound input (tokeniser.start 0 []) := sound_of_reaches hprefixes .refl
    have htexts := hcompletes.flatMap_text happlication hprefixes hsound
      (show dropBytes? input.toList 0 = some input.toList by rw [dropBytes?])
    rw [← String.toList_inj, String.toList_join, List.flatMap_map]
    simpa only [String.toList_ofList] using htexts

/-- Rules that are all registered for their texts give them. -/
theorem emitsText_ofSteps {steps : List Step} (hbuild : ofSteps steps = .ok tokeniser)
    (hsteps : ∀ step ∈ steps, step.rule? ≠ none → ∃ name source, step = .token name source) :
    ∀ rule ∈ tokeniser.rules, rule.EmitsText := by
  intro rule hrule
  obtain ⟨step, hstep, hdefinition⟩ := (defines_ofSteps hbuild).exists_step hrule
  obtain ⟨name, source, rfl⟩ := hsteps step hstep (hdefinition ▸ Option.some_ne_none _)
  obtain ⟨hname, hrest⟩ := Prod.mk.inj (Option.some.inj hdefinition)
  obtain ⟨-, hreaction⟩ := Prod.mk.inj hrest
  exact ⟨hname ▸ Option.some_ne_none name, fun found => (congrFun hreaction found).symm⟩

/-- Words and numbers, one behind the other, with a token for every other character. -/
def spelled : List Step :=
  [.token ⟨"word"⟩ "[a-zé]+", .token ⟨"number"⟩ "[0-9]+",
    .fallback ⟨"char"⟩ fun c => .value (.text (String.singleton c)), .application .chained]

/-- A pass takes a word and a number, and the rest is passed over. -/
theorem join_texts_tokenise_spelled : ∃ tokeniser stream texts, ofSteps spelled = .ok tokeniser ∧
    (tokeniser.tokenise "é1, 2").result = .ok stream ∧
    stream.items.map Token.text? = texts.map some ∧ String.join texts = "é1, 2" := by
  have hcontained : ((ofSteps spelled).toOption.any fun tokeniser =>
      tokeniser.rules.all fun rule => !Rule.escapes rule.source) = true := by
    decide +kernel
  cases hbuild : ofSteps spelled with
  | error cause =>
      rw [hbuild] at hcontained
      cases hcontained
  | ok tokeniser =>
      rw [hbuild] at hcontained
      have hdefined := defines_ofSteps hbuild
      have hprefixes := matchesPrefix_ofSteps hbuild fun rule hrule => by
        simpa using List.all_eq_true.1 hcontained rule hrule
      have hrules := emitsText_ofSteps hbuild (by simp [spelled, Step.rule?])
      have hunmatched : tokeniser.unmatched.EmitsText := by
        rw [hdefined.unmatched]
        exact fun c => rfl
      obtain ⟨stream, texts, hstream⟩ :=
        join_texts_tokenise hdefined.application hrules hunmatched hprefixes "é1, 2"
      exact ⟨tokeniser, stream, texts, rfl, hstream⟩

end Tokeniser

end TokenTree
