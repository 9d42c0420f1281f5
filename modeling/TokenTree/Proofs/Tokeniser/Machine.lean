import Mathlib.Logic.Relation
import TokenTree.Proofs.Tokeniser.Rules

/-!
# The scan as a machine

A scan by byte offsets into the whole input, one turn of one rule at a time. In place of the rest of
the text a state has the offset where the pass at hand began and how far its matches reach, and a
rule is tried on what the input has from an offset on, which fails unless that is between two
characters. `ends_tokenise` says that the machine ends with the result of `tokenise`, its failures
included, so what holds of all states of the machine holds wherever the scan has been.
-/

namespace TokenTree

open Text (byteLength dropBytes? dropBytes?_add byteLength_of_dropBytes?)

/-- Where a scan stands: where its pass began, how far the matches of the pass reach, the rules that
are still to have their turn in it, and the tokens so far. -/
structure Scan where
  offset : Nat
  reached : Nat
  pending : List Rule
  tokens : List Token

namespace Tokeniser

/-! ## States and steps -/

/-- The scan at the start of a pass. -/
def start (tokeniser : Tokeniser) (offset : Nat) (tokens : List Token) : Scan :=
  ⟨offset, offset, tokeniser.rules, tokens⟩

/-- The offset at which the next rule has its turn. -/
def place (tokeniser : Tokeniser) (scan : Scan) : Nat :=
  match tokeniser.application with
  | .overlapping => scan.offset
  | .chained => scan.reached

/-- One step of the scan of an input: the next state, or none at the end of the input. -/
def step (tokeniser : Tokeniser) (input : String) (scan : Scan) : Except Error (Option Scan) :=
  if byteLength input.toList ≤ scan.offset then .ok none
  else
    match scan.pending with
    | rule :: rules =>
        if byteLength input.toList ≤ tokeniser.place scan then
          .ok (some { scan with pending := [] })
        else do
          match ← rule.matchAt input (tokeniser.place scan) with
          | none => return some { scan with pending := rules }
          | some found =>
              let tokens ← (emitMatch rule found).result
              return some
                ⟨scan.offset, max scan.reached (tokeniser.place scan + found.bytes), rules,
                  scan.tokens ++ tokens⟩
    | [] =>
        if scan.reached = scan.offset then
          match dropBytes? input.toList scan.offset with
          | some (c :: _) => do
              let tokens ← (tokeniser.passOver c scan.offset).result
              return some (tokeniser.start (scan.offset + c.utf8Size) (scan.tokens ++ tokens))
          | some [] => .ok (some (tokeniser.start (byteLength input.toList) scan.tokens))
          | none => .error (.offBoundary scan.offset)
        else .ok (some (tokeniser.start scan.reached scan.tokens))

/-- What a step can come to, and when. -/
inductive Moves (tokeniser : Tokeniser) (input : String) (scan : Scan) :
    Except Error (Option Scan) → Prop where
  /-- The input ends. -/
  | done (hend : byteLength input.toList ≤ scan.offset) : Moves tokeniser input scan (.ok none)
  /-- No text is left for the rules that have had no turn. -/
  | exhaust {rule : Rule} {rules : List Rule} (hpending : scan.pending = rule :: rules)
      (hoffset : scan.offset < byteLength input.toList)
      (hplace : byteLength input.toList ≤ tokeniser.place scan) :
      Moves tokeniser input scan (.ok (some { scan with pending := [] }))
  /-- The rule is to be tried inside a character. -/
  | slice {rule : Rule} {rules : List Rule} (hpending : scan.pending = rule :: rules)
      (hoffset : scan.offset < byteLength input.toList)
      (hplace : tokeniser.place scan < byteLength input.toList)
      (htext : dropBytes? input.toList (tokeniser.place scan) = none) :
      Moves tokeniser input scan (.error (.offBoundary (tokeniser.place scan)))
  /-- The rule does not match at its place. -/
  | miss {rule : Rule} {rules : List Rule} {text : List Char}
      (hpending : scan.pending = rule :: rules)
      (hoffset : scan.offset < byteLength input.toList)
      (hplace : tokeniser.place scan < byteLength input.toList)
      (htext : dropBytes? input.toList (tokeniser.place scan) = some text)
      (hmatch : rule.matchIn? text (tokeniser.place scan) = none) :
      Moves tokeniser input scan (.ok (some { scan with pending := rules }))
  /-- The rule matches at its place, and its reaction gives tokens. -/
  | hit {rule : Rule} {rules : List Rule} {text : List Char} {found : RuleMatch}
      {tokens : List Token} (hpending : scan.pending = rule :: rules)
      (hoffset : scan.offset < byteLength input.toList)
      (hplace : tokeniser.place scan < byteLength input.toList)
      (htext : dropBytes? input.toList (tokeniser.place scan) = some text)
      (hmatch : rule.matchIn? text (tokeniser.place scan) = some found)
      (hemit : (emitMatch rule found).result = .ok tokens) :
      Moves tokeniser input scan (.ok (some
        ⟨scan.offset, max scan.reached (tokeniser.place scan + found.bytes), rules,
          scan.tokens ++ tokens⟩))
  /-- The rule matches at its place, and its reaction gives no tokens. -/
  | refuse {rule : Rule} {rules : List Rule} {text : List Char} {found : RuleMatch} {cause : Error}
      (hpending : scan.pending = rule :: rules)
      (hoffset : scan.offset < byteLength input.toList)
      (hplace : tokeniser.place scan < byteLength input.toList)
      (htext : dropBytes? input.toList (tokeniser.place scan) = some text)
      (hmatch : rule.matchIn? text (tokeniser.place scan) = some found)
      (hemit : (emitMatch rule found).result = .error cause) :
      Moves tokeniser input scan (.error cause)
  /-- Some rule has matched, so the next pass begins where the matches end. -/
  | next (hpending : scan.pending = []) (hoffset : scan.offset < byteLength input.toList)
      (hreached : scan.reached ≠ scan.offset) :
      Moves tokeniser input scan (.ok (some (tokeniser.start scan.reached scan.tokens)))
  /-- A character is to be passed over from the inside of one. -/
  | sliceUnmatched (hpending : scan.pending = [])
      (hoffset : scan.offset < byteLength input.toList) (hreached : scan.reached = scan.offset)
      (htext : dropBytes? input.toList scan.offset = none) :
      Moves tokeniser input scan (.error (.offBoundary scan.offset))
  /-- No rule has matched, so a character is passed over. -/
  | passOver {c : Char} {rest : List Char} {tokens : List Token} (hpending : scan.pending = [])
      (hoffset : scan.offset < byteLength input.toList) (hreached : scan.reached = scan.offset)
      (htext : dropBytes? input.toList scan.offset = some (c :: rest))
      (hemit : (tokeniser.passOver c scan.offset).result = .ok tokens) :
      Moves tokeniser input scan (.ok (some
        (tokeniser.start (scan.offset + c.utf8Size) (scan.tokens ++ tokens))))
  /-- No rule has matched, and the fallback gives no tokens. -/
  | refuseUnmatched {c : Char} {rest : List Char} {cause : Error} (hpending : scan.pending = [])
      (hoffset : scan.offset < byteLength input.toList) (hreached : scan.reached = scan.offset)
      (htext : dropBytes? input.toList scan.offset = some (c :: rest))
      (hemit : (tokeniser.passOver c scan.offset).result = .error cause) :
      Moves tokeniser input scan (.error cause)

variable {tokeniser : Tokeniser} {input : String} {scan : Scan}

/-- A step comes to what its conditions say. -/
theorem step_eq_of_moves {outcome : Except Error (Option Scan)}
    (hmoves : tokeniser.Moves input scan outcome) : tokeniser.step input scan = outcome := by
  cases hmoves with
  | done hend => rw [step, if_pos hend]
  | exhaust hpending hoffset hplace =>
      rw [step, if_neg (by omega), hpending]
      exact if_pos hplace
  | slice hpending hoffset hplace htext =>
      rw [step, if_neg (by omega), hpending]
      simp only [if_neg (Nat.not_le.2 hplace), Rule.matchAt, htext, error_bind]
  | miss hpending hoffset hplace htext hmatch =>
      rw [step, if_neg (by omega), hpending]
      simp only [if_neg (Nat.not_le.2 hplace), Rule.matchAt, htext, ok_bind, hmatch]
      rfl
  | hit hpending hoffset hplace htext hmatch hemit =>
      rw [step, if_neg (by omega), hpending]
      simp only [if_neg (Nat.not_le.2 hplace), Rule.matchAt, htext, ok_bind, hmatch, hemit]
      rfl
  | refuse hpending hoffset hplace htext hmatch hemit =>
      rw [step, if_neg (by omega), hpending]
      simp only [if_neg (Nat.not_le.2 hplace), Rule.matchAt, htext, ok_bind, hmatch, hemit,
        error_bind]
  | next hpending hoffset hreached =>
      rw [step, if_neg (by omega), hpending]
      exact if_neg hreached
  | sliceUnmatched hpending hoffset hreached htext =>
      rw [step, if_neg (by omega), hpending]
      simp only [if_pos hreached, htext]
  | passOver hpending hoffset hreached htext hemit =>
      rw [step, if_neg (by omega), hpending]
      simp only [if_pos hreached, htext, hemit, ok_bind]
      rfl
  | refuseUnmatched hpending hoffset hreached htext hemit =>
      rw [step, if_neg (by omega), hpending]
      simp only [if_pos hreached, htext, hemit, error_bind]

/-- Whatever a step comes to, its conditions hold. -/
theorem moves_step : tokeniser.Moves input scan (tokeniser.step input scan) := by
  -- Some case applies to every state, and whichever applies says what the step comes to.
  suffices h : ∃ outcome, tokeniser.Moves input scan outcome by
    obtain ⟨outcome, hmoves⟩ := h
    rwa [step_eq_of_moves hmoves]
  by_cases hend : byteLength input.toList ≤ scan.offset
  · exact ⟨_, .done hend⟩
  have hoffset : scan.offset < byteLength input.toList := Nat.lt_of_not_le hend
  cases hpending : scan.pending with
  | cons rule rules =>
      by_cases hexhausted : byteLength input.toList ≤ tokeniser.place scan
      · exact ⟨_, .exhaust hpending hoffset hexhausted⟩
      have hplace := Nat.lt_of_not_le hexhausted
      cases htext : dropBytes? input.toList (tokeniser.place scan) with
      | none => exact ⟨_, .slice hpending hoffset hplace htext⟩
      | some text =>
          cases hmatch : rule.matchIn? text (tokeniser.place scan) with
          | none => exact ⟨_, .miss hpending hoffset hplace htext hmatch⟩
          | some found =>
              cases hemit : (emitMatch rule found).result with
              | ok tokens => exact ⟨_, .hit hpending hoffset hplace htext hmatch hemit⟩
              | error cause => exact ⟨_, .refuse hpending hoffset hplace htext hmatch hemit⟩
  | nil =>
      by_cases hreached : scan.reached = scan.offset
      · cases htext : dropBytes? input.toList scan.offset with
        | none => exact ⟨_, .sliceUnmatched hpending hoffset hreached htext⟩
        | some text =>
            cases text with
            | nil =>
                have hlength := byteLength_of_dropBytes? htext
                rw [Text.byteLength_nil] at hlength
                omega
            | cons c rest =>
                cases hemit : (tokeniser.passOver c scan.offset).result with
                | ok tokens => exact ⟨_, .passOver hpending hoffset hreached htext hemit⟩
                | error cause => exact ⟨_, .refuseUnmatched hpending hoffset hreached htext hemit⟩
      · exact ⟨_, .next hpending hoffset hreached⟩

/-! ## Runs -/

/-- The scan of the input comes to this state from its start. -/
def Reaches (tokeniser : Tokeniser) (input : String) (scan : Scan) : Prop :=
  Relation.ReflTransGen (fun before after => tokeniser.step input before = .ok (some after))
    (tokeniser.start 0 []) scan

/-- The scan ends with these tokens in all, or fails. -/
inductive Ends (tokeniser : Tokeniser) (input : String) :
    Scan → Except Error (List Token) → Prop where
  | done {scan : Scan} (hstep : tokeniser.step input scan = .ok none) :
      Ends tokeniser input scan (.ok scan.tokens)
  | fail {scan : Scan} {cause : Error} (hstep : tokeniser.step input scan = .error cause) :
      Ends tokeniser input scan (.error cause)
  | next {scan after : Scan} {outcome : Except Error (List Token)}
      (hstep : tokeniser.step input scan = .ok (some after))
      (hends : Ends tokeniser input after outcome) : Ends tokeniser input scan outcome

/-- A scan that fails comes to a state whose step fails. -/
theorem exists_of_ends_error {cause : Error} (hreaches : tokeniser.Reaches input scan)
    (hends : tokeniser.Ends input scan (.error cause)) :
    ∃ last, tokeniser.Reaches input last ∧ tokeniser.step input last = .error cause := by
  generalize houtcome : (Except.error cause : Except Error (List Token)) = outcome at hends
  induction hends with
  | done => cases houtcome
  | fail hstep =>
      cases houtcome
      exact ⟨_, hreaches, hstep⟩
  | next hstep _ ih => exact ih (hreaches.tail hstep) houtcome

/-- A scan ends in one way only. -/
theorem Ends.unique {left right : Except Error (List Token)}
    (hleft : tokeniser.Ends input scan left) (hright : tokeniser.Ends input scan right) :
    left = right := by
  induction hleft generalizing right with
  | done hstep =>
      cases hright with
      | done => rfl
      | fail hother | next hother =>
          rw [hstep] at hother
          cases hother
  | fail hstep =>
      cases hright with
      | fail hother =>
          rw [hstep] at hother
          cases hother
          rfl
      | done hother | next hother =>
          rw [hstep] at hother
          cases hother
  | next hstep _ ih =>
      cases hright with
      | next hother hends =>
          rw [hstep] at hother
          cases hother
          exact ih hends
      | done hother | fail hother =>
          rw [hstep] at hother
          cases hother

/-- The scan of the input ends as it does from any state that it comes to. -/
theorem Ends.of_reaches {outcome : Except Error (List Token)}
    (hreaches : tokeniser.Reaches input scan) (hends : tokeniser.Ends input scan outcome) :
    tokeniser.Ends input (tokeniser.start 0 []) outcome := by
  rw [Reaches] at hreaches
  generalize tokeniser.start 0 [] = first at hreaches ⊢
  induction hreaches using Relation.ReflTransGen.head_induction_on with
  | refl => exact hends
  | head hstep _ ih => exact .next hstep ih

/-! ## The scan and the recursion -/

section Passes

variable {text : List Char} {offset bytes : Nat} {rules : List Rule} {tokens : List Token}

/-- What the rules match at one place is no longer than the text, and without a match there are no
tokens. -/
theorem overlap_spec (hoverlap : (overlap text offset rules).result = .ok (tokens, bytes)) :
    bytes ≤ byteLength text ∧ (bytes = 0 → tokens = []) := by
  induction rules generalizing tokens bytes with
  | nil =>
      cases hoverlap
      exact ⟨Nat.zero_le _, fun _ => rfl⟩
  | cons rule rules ih =>
      rw [overlap] at hoverlap
      split at hoverlap
      · exact ih hoverlap
      · rename_i found hmatch
        simp only [Traced.result_bind, bind_eq_ok_iff, Prod.exists] at hoverlap
        obtain ⟨first, -, more, longest, hmore, hall⟩ := hoverlap
        obtain ⟨rfl, rfl⟩ : first ++ more = tokens ∧ max found.bytes longest = bytes := by
          simpa using hall
        have hpos := Rule.bytes_pos_of_matchIn? hmatch
        have hle := Rule.bytes_le_of_matchIn? hmatch
        have hlongest := (ih hmore).1
        omega

/-- What the rules match one after the other is no longer than the text, and without a match there
are no tokens. -/
theorem chain_spec (hchain : (chain rules text offset).result = .ok (tokens, bytes)) :
    bytes ≤ byteLength text ∧ (bytes = 0 → tokens = []) := by
  induction rules generalizing text offset tokens bytes with
  | nil =>
      cases hchain
      exact ⟨Nat.zero_le _, fun _ => rfl⟩
  | cons rule rules ih =>
      rw [chain] at hchain
      split at hchain
      · cases hchain
        exact ⟨Nat.zero_le _, fun _ => rfl⟩
      split at hchain
      · exact ih hchain
      · rename_i found hmatch
        rw [Traced.result_bind, bind_eq_ok_iff] at hchain
        obtain ⟨first, -, hchain⟩ := hchain
        split at hchain
        · cases hchain
        · rename_i after hdrop
          simp only [Traced.result_bind, bind_eq_ok_iff, Prod.exists] at hchain
          obtain ⟨more, others, hmore, hall⟩ := hchain
          obtain ⟨rfl, rfl⟩ : first ++ more = tokens ∧ found.bytes + others = bytes := by
            simpa using hall
          have hpos := Rule.bytes_pos_of_matchIn? hmatch
          have hlength := byteLength_of_dropBytes? hdrop
          have hothers := (ih hmore).1
          omega

/-- What a pass matches is no longer than the text, and without a match there are no tokens. -/
theorem pass_spec (hpass : (tokeniser.pass text offset).result = .ok (tokens, bytes)) :
    bytes ≤ byteLength text ∧ (bytes = 0 → tokens = []) := by
  rw [pass] at hpass
  split at hpass
  · exact overlap_spec hpass
  · exact chain_spec hpass

/-- A pass that matches anything has rules. -/
theorem rules_ne_nil_of_pass (hpass : (tokeniser.pass text offset).result = .ok (tokens, bytes))
    (hbytes : bytes ≠ 0) : tokeniser.rules ≠ [] := by
  intro hrules
  rw [pass, hrules] at hpass
  split at hpass
  · cases hpass
    exact hbytes rfl
  · cases hpass
    exact hbytes rfl

end Passes

section Turns

variable {rule : Rule} {rules : List Rule} {text : List Char} {spot : Nat}
  {outcome : Except Error (List Token)}

/-- A rule without a match leaves the scan to the rules after it. -/
theorem ends_miss (hpending : scan.pending = rule :: rules)
    (hoffset : scan.offset < byteLength input.toList) (hplace : tokeniser.place scan = spot)
    (hspot : spot < byteLength input.toList) (htext : dropBytes? input.toList spot = some text)
    (hmatch : rule.matchIn? text spot = none)
    (hends : tokeniser.Ends input { scan with pending := rules } outcome) :
    tokeniser.Ends input scan outcome := by
  subst hplace
  exact .next (step_eq_of_moves (.miss hpending hoffset hspot htext hmatch)) hends

/-- A rule with a match adds its tokens, unless its reaction fails. -/
theorem ends_hit (hpending : scan.pending = rule :: rules)
    (hoffset : scan.offset < byteLength input.toList) (hplace : tokeniser.place scan = spot)
    (hspot : spot < byteLength input.toList) (htext : dropBytes? input.toList spot = some text)
    {found : RuleMatch} (hmatch : rule.matchIn? text spot = some found)
    {after : List Token → Except Error (List Token)}
    (hends : ∀ tokens, (emitMatch rule found).result = .ok tokens →
      tokeniser.Ends input
        ⟨scan.offset, max scan.reached (spot + found.bytes), rules, scan.tokens ++ tokens⟩
        (after tokens)) :
    tokeniser.Ends input scan ((emitMatch rule found).result >>= after) := by
  subst hplace
  cases hemit : (emitMatch rule found).result with
  | ok tokens =>
      have hmoves := Moves.hit hpending hoffset hspot htext hmatch hemit
      exact .next (step_eq_of_moves hmoves) (hends tokens hemit)
  | error cause =>
      exact .fail (step_eq_of_moves (.refuse hpending hoffset hspot htext hmatch hemit))

/-- A rule that is to be tried inside a character ends the scan. -/
theorem ends_slice (hpending : scan.pending = rule :: rules)
    (hoffset : scan.offset < byteLength input.toList) (hplace : tokeniser.place scan = spot)
    (hspot : spot < byteLength input.toList) (htext : dropBytes? input.toList spot = none) :
    tokeniser.Ends input scan (.error (.offBoundary spot)) := by
  subst hplace
  exact .fail (step_eq_of_moves (.slice hpending hoffset hspot htext))

/-- The first rule of a pass has its turn where the pass begins. -/
theorem place_start (tokeniser : Tokeniser) (offset : Nat) (tokens : List Token) :
    tokeniser.place (tokeniser.start offset tokens) = offset := by
  rw [place, start]
  cases tokeniser.application <;> rfl

/-- A scan whose matches end inside a character fails, since some rule is tried there next. -/
theorem ends_inside (hrules : tokeniser.rules ≠ []) (hreached : scan.offset < scan.reached)
    (hinside : scan.reached < byteLength input.toList)
    (htext : dropBytes? input.toList scan.reached = none)
    (hnext : scan.pending = [] ∨ tokeniser.application = .chained) :
    tokeniser.Ends input scan (.error (.offBoundary scan.reached)) := by
  cases hpending : scan.pending with
  | nil =>
      have hmoves : tokeniser.Moves input scan _ :=
        .next hpending (Nat.lt_trans hreached hinside) (Nat.ne_of_gt hreached)
      obtain ⟨rule, rules, hstart⟩ := List.exists_cons_of_ne_nil hrules
      exact .next (step_eq_of_moves hmoves)
        (ends_slice hstart hinside (place_start tokeniser _ _) hinside htext)
  | cons rule rules =>
      have hplace : tokeniser.place scan = scan.reached := by
        rw [hpending] at hnext
        rw [place, hnext.resolve_left (List.cons_ne_nil _ _)]
      exact ends_slice hpending (Nat.lt_trans hreached hinside) hplace hinside htext

end Turns

section Runs

variable {text : List Char} {offset reached : Nat} {pending : List Rule} {tokens : List Token}
  {rest : List Token × Nat → Except Error (List Token)}

/-- A pass that tries all rules at one place goes as the recursion over the rules does. -/
theorem ends_overlap (happlication : tokeniser.application = .overlapping)
    (htext : dropBytes? input.toList offset = some text) (hne : text ≠ [])
    (hreached : offset ≤ reached)
    (hrest : ∀ more bytes, (overlap text offset pending).result = .ok (more, bytes) →
      tokeniser.Ends input ⟨offset, max reached (offset + bytes), [], tokens ++ more⟩
        (rest (more, bytes))) :
    tokeniser.Ends input ⟨offset, reached, pending, tokens⟩
      ((overlap text offset pending).result >>= rest) := by
  have hlength := byteLength_of_dropBytes? htext
  have hpos := Text.byteLength_pos hne
  have hoffset : offset < byteLength input.toList := by omega
  induction pending generalizing reached tokens rest with
  | nil =>
      have hends := hrest [] 0 rfl
      rwa [Nat.add_zero, Nat.max_eq_left hreached, List.append_nil] at hends
  | cons rule rules ih =>
      have hplace : tokeniser.place ⟨offset, reached, rule :: rules, tokens⟩ = offset := by
        rw [place, happlication]
      rw [overlap] at hrest ⊢
      cases hmatch : rule.matchIn? text offset with
      | none =>
          rw [hmatch] at hrest
          exact ends_miss rfl hoffset hplace hoffset htext hmatch (ih hreached hrest)
      | some found =>
          simp only [hmatch, Traced.result_bind, Traced.result_pure, bind_assoc, ok_bind] at hrest ⊢
          refine ends_hit rfl hoffset hplace hoffset htext hmatch fun made hmade => ?_
          refine ih (by omega) fun more bytes hmore => ?_
          rw [hmade, ok_bind, hmore] at hrest
          have hends := hrest (made ++ more) (max found.bytes bytes) rfl
          have hmax : max reached (offset + max found.bytes bytes) =
              max (max reached (offset + found.bytes)) (offset + bytes) := by omega
          rwa [hmax, ← List.append_assoc] at hends

/-- A pass that tries each rule where the one before it stopped goes as the recursion over the rules
does. -/
theorem ends_chain (happlication : tokeniser.application = .chained)
    (hrules : pending ≠ [] → tokeniser.rules ≠ []) (hoffset : offset < byteLength input.toList)
    (htext : dropBytes? input.toList reached = some text) (hreached : offset ≤ reached)
    (hrest : ∀ more bytes, (chain pending text reached).result = .ok (more, bytes) →
      tokeniser.Ends input ⟨offset, reached + bytes, [], tokens ++ more⟩ (rest (more, bytes))) :
    tokeniser.Ends input ⟨offset, reached, pending, tokens⟩
      ((chain pending text reached).result >>= rest) := by
  induction pending generalizing reached text tokens rest with
  | nil =>
      have hends := hrest [] 0 rfl
      rwa [Nat.add_zero, List.append_nil] at hends
  | cons rule rules ih =>
      have hplace : tokeniser.place ⟨offset, reached, rule :: rules, tokens⟩ = reached := by
        rw [place, happlication]
      have hlength := byteLength_of_dropBytes? htext
      have hany := hrules (List.cons_ne_nil rule rules)
      have hanyRules (_ : rules ≠ []) : tokeniser.rules ≠ [] := hany
      rw [chain] at hrest ⊢
      -- At the end of the text the rules that are left have no turn.
      by_cases hempty : text.isEmpty = true
      · have hexhausted : byteLength input.toList ≤ reached := by
          rw [List.isEmpty_iff.1 hempty, Text.byteLength_nil] at hlength
          omega
        have hmoves : tokeniser.Moves input ⟨offset, reached, rule :: rules, tokens⟩ _ :=
          .exhaust rfl hoffset (by rwa [hplace])
        rw [if_pos hempty] at hrest ⊢
        have hends := hrest [] 0 rfl
        rw [Nat.add_zero, List.append_nil] at hends
        exact .next (step_eq_of_moves hmoves) hends
      have hpos := Text.byteLength_pos (mt List.isEmpty_iff.2 hempty)
      have hinside : reached < byteLength input.toList := by omega
      rw [if_neg hempty] at hrest ⊢
      cases hmatch : rule.matchIn? text reached with
      | none =>
          rw [hmatch] at hrest
          have hends := ih hanyRules htext hreached hrest
          exact ends_miss rfl hoffset hplace hinside htext hmatch hends
      | some found =>
          have hbytes := Rule.bytes_pos_of_matchIn? hmatch
          have hmax : max reached (reached + found.bytes) = reached + found.bytes := by omega
          have hafter := dropBytes?_add htext found.bytes
          simp only [hmatch, Traced.result_bind, bind_assoc] at hrest ⊢
          refine ends_hit rfl hoffset hplace hinside htext hmatch fun made hmade => ?_
          rw [hmade] at hrest
          cases hdrop : dropBytes? text found.bytes with
          | none =>
              have hlt := Text.lt_of_dropBytes?_eq_none hdrop (Rule.bytes_le_of_matchIn? hmatch)
              have hpast : offset < reached + found.bytes := by omega
              have hshort : reached + found.bytes < byteLength input.toList := by omega
              -- The recursion fails at once, the machine at its next turn or pass.
              simp only [Traced.result_fail, error_bind]
              rw [hmax]
              exact ends_inside hany hpast hshort (hafter.trans hdrop) (.inr happlication)
          | some after =>
              simp only [hdrop, Traced.result_bind, Traced.result_pure, bind_assoc,
                ok_bind] at hrest ⊢
              rw [hmax]
              refine ih hanyRules (hafter.trans hdrop) (by omega) fun more bytes hmore => ?_
              rw [hmore] at hrest
              have hends := hrest (made ++ more) (found.bytes + bytes) rfl
              rwa [← Nat.add_assoc, ← List.append_assoc] at hends

/-- A pass goes as the recursion over the rules does. -/
theorem ends_pass (htext : dropBytes? input.toList offset = some text) (hne : text ≠ [])
    (hrest : ∀ more bytes, (tokeniser.pass text offset).result = .ok (more, bytes) →
      tokeniser.Ends input ⟨offset, offset + bytes, [], tokens ++ more⟩ (rest (more, bytes))) :
    tokeniser.Ends input (tokeniser.start offset tokens)
      ((tokeniser.pass text offset).result >>= rest) := by
  rw [pass] at hrest ⊢
  cases happlication : tokeniser.application with
  | overlapping =>
      simp only [happlication] at hrest
      refine ends_overlap happlication htext hne (Nat.le_refl _) fun more bytes hmore => ?_
      rw [Nat.max_eq_right (Nat.le_add_right _ _)]
      exact hrest more bytes hmore
  | chained =>
      simp only [happlication] at hrest
      have hlength := byteLength_of_dropBytes? htext
      have hpos := Text.byteLength_pos hne
      exact ends_chain happlication id (by omega) htext (Nat.le_refl _) hrest

/-- From the start of a pass on the scan ends as the recursion over the rest of the text does. -/
theorem ends_start (tokens : List Token) (htext : dropBytes? input.toList offset = some text) :
    tokeniser.Ends input (tokeniser.start offset tokens)
      ((tokeniser.scanFrom text offset).result >>= fun more => .ok (tokens ++ more)) := by
  -- On the length of the text: a pass takes some of it, or else a character is passed over.
  induction hlen : text.length using Nat.strongRecOn generalizing text offset tokens with
  | ind length ih =>
  have hlength := byteLength_of_dropBytes? htext
  cases text with
  | nil =>
      have hend : byteLength input.toList ≤ offset := by
        rw [Text.byteLength_nil] at hlength
        omega
      have hmoves : tokeniser.Moves input (tokeniser.start offset tokens) _ := .done hend
      rw [scanFrom]
      simp only [Traced.result_pure, ok_bind, List.append_nil]
      exact .done (step_eq_of_moves hmoves)
  | cons c rest =>
      rw [scanFrom, Traced.result_bind, bind_assoc]
      refine ends_pass htext (List.cons_ne_nil c rest) fun more bytes hpass => ?_
      obtain ⟨hle, hzero⟩ := pass_spec hpass
      have hpos := c.utf8Size_pos
      have hoffset : offset < byteLength input.toList := by
        rw [Text.byteLength_cons] at hlength
        omega
      by_cases hbytes : bytes = 0
      -- Nothing has matched, so there are no tokens of the pass to be kept.
      · obtain rfl := hzero hbytes
        obtain rfl := hbytes
        have hnext : dropBytes? input.toList (offset + c.utf8Size) = some rest := by
          rw [dropBytes?_add htext, Text.dropBytes?_cons]
        simp only [dif_pos, Traced.result_bind, Traced.result_pure, bind_assoc, ok_bind]
        cases hemit : (tokeniser.passOver c offset).result with
        | error cause =>
            exact .fail (step_eq_of_moves (.refuseUnmatched rfl hoffset rfl htext hemit))
        | ok made =>
            refine .next (step_eq_of_moves (.passOver rfl hoffset rfl htext hemit)) ?_
            have hends := ih rest.length (by simp [← hlen]) (tokens ++ [] ++ made) hnext rfl
            simpa only [ok_bind, bind_assoc, List.append_assoc, List.nil_append] using hends
      · have hafter := dropBytes?_add htext bytes
        simp only [dif_neg hbytes]
        split
        · rename_i hdrop
          have hlt := Text.lt_of_dropBytes?_eq_none hdrop hle
          have hpast : offset < offset + bytes := by omega
          have hinside : offset + bytes < byteLength input.toList := by omega
          exact ends_inside (rules_ne_nil_of_pass hpass hbytes) hpast hinside (hafter.trans hdrop)
            (.inl rfl)
        · rename_i after hdrop
          have hpast : offset + bytes ≠ offset := by omega
          have hshorter : after.length < length := hlen ▸ Text.length_lt_of_dropBytes? hdrop hbytes
          have hends := ih after.length hshorter (tokens ++ more) (hafter.trans hdrop) rfl
          refine .next (step_eq_of_moves (.next rfl hoffset hpast)) ?_
          simpa only [Traced.result_bind, Traced.result_pure, bind_assoc, ok_bind,
            List.append_assoc] using hends

/-- The machine ends with the tokens of the text, or fails for the same cause. -/
theorem ends_tokenise (tokeniser : Tokeniser) (input : String) :
    tokeniser.Ends input (tokeniser.start 0 [])
      ((tokeniser.tokenise input).result >>= fun stream => .ok stream.items) := by
  have htext : dropBytes? input.toList 0 = some input.toList := by
    rw [dropBytes?]
  have hends : tokeniser.Ends input (tokeniser.start 0 []) _ := ends_start [] htext
  rw [tokenise]
  simp only [Traced.result_bind, Traced.result_note, Traced.result_pure, bind_assoc, ok_bind]
  exact hends

end Runs

end Tokeniser

end TokenTree
