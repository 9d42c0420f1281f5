import TokenTree.Proofs.Tokeniser.Passes

/-!
# The loop of a scan

The scan as a loop by byte offsets that checks whatever it relies on: what the input has is asked
for from an offset on, which may be neither behind the end nor inside a character, a round has to
lead further on, and the rounds are counted. `advances_loop` says that of these checks only the one
for the inside of a character can fail. A round leads on but never behind the end, wherever in the
rest of the input the matches stand, so as many rounds as the input has bytes are enough, and the
loop comes to what `tokenise` does.
-/

namespace TokenTree

open Text (byteLength dropBytes? byteLength_of_dropBytes?)

/-- Why the loop stops before the end of the input. -/
inductive Halt where
  /-- The scan fails, for want of a character too. -/
  | failed (cause : Error)
  /-- Text is asked for from behind the end of the input on. -/
  | outOfRange (offset : Nat)
  /-- A round does not lead further on. -/
  | stuck (offset : Nat)

namespace Tokeniser

/-! ## Rounds -/

/-- What the input has from an offset on. -/
def textFrom (input : String) (offset : Nat) : Except Halt (List Char) :=
  if byteLength input.toList < offset then .error (.outOfRange offset)
  else
    match dropBytes? input.toList offset with
    | some text => .ok text
    | none => .error (.failed (.offBoundary offset))

/-- The turn of a rule at an offset: where its match ends, if it has one, and the tokens of it. -/
def turnAt (input : String) (rule : Rule) (offset : Nat) :
    Except Halt (Option (Nat × List Token)) := do
  let text ← textFrom input offset
  match rule.matchIn? text offset with
  | none => return none
  | some found =>
      let tokens ← (emitMatch rule found).result.mapError .failed
      return some (offset + found.bytes, tokens)

/-- The turns of several rules at one offset: where the longest match ends, if there is one, and the
tokens. -/
def overlapAt (input : String) (offset : Nat) :
    List Rule → Option Nat → Except Halt (Option Nat × List Token)
  | [], longest => .ok (longest, [])
  | rule :: rules, longest => do
      match ← turnAt input rule offset with
      | none => overlapAt input offset rules longest
      | some (stop, tokens) =>
          let (last, more) ← overlapAt input offset rules (some (longest.elim stop (max · stop)))
          return (last, tokens ++ more)

/-- The turns of several rules, each where the last match before it ends: where the last one of all
ends, and the tokens. At the end of the input no rule has a turn. -/
def chainAt (input : String) : List Rule → Nat → Except Halt (Nat × List Token)
  | [], place => .ok (place, [])
  | rule :: rules, place =>
      if byteLength input.toList ≤ place then .ok (place, [])
      else do
        match ← turnAt input rule place with
        | none => chainAt input rules place
        | some (stop, tokens) =>
            let (last, more) ← chainAt input rules stop
            return (last, tokens ++ more)

/-- A pass: where its matches end, if there are any, and the tokens. -/
def passAt (tokeniser : Tokeniser) (input : String) (offset : Nat) :
    Except Halt (Option Nat × List Token) :=
  match tokeniser.application with
  | .overlapping => overlapAt input offset tokeniser.rules none
  | .chained => do
      let (last, tokens) ← chainAt input tokeniser.rules offset
      return (if offset < last then some last else none, tokens)

/-- The passing over of a character: where it ends, and the tokens. -/
def passOverAt (tokeniser : Tokeniser) (input : String) (offset : Nat) :
    Except Halt (Nat × List Token) := do
  match ← textFrom input offset with
  | [] => return (byteLength input.toList, [])
  | c :: _ =>
      let tokens ← (tokeniser.passOver c offset).result.mapError .failed
      return (offset + c.utf8Size, tokens)

/-- A round of the loop: where it leads, and the tokens. -/
def roundAt (tokeniser : Tokeniser) (input : String) (offset : Nat) :
    Except Halt (Nat × List Token) := do
  let (stop?, tokens) ← tokeniser.passAt input offset
  match stop? with
  | some stop => return (stop, tokens)
  | none =>
      let (next, more) ← tokeniser.passOverAt input offset
      return (next, tokens ++ more)

/-- The loop from an offset on: the tokens, or none where so many rounds are not enough. -/
def loop (tokeniser : Tokeniser) (input : String) : Nat → Nat → Except Halt (Option (List Token))
  | 0, offset => if byteLength input.toList ≤ offset then .ok (some []) else .ok none
  | rounds + 1, offset =>
      if byteLength input.toList ≤ offset then .ok (some [])
      else do
        let (next, tokens) ← tokeniser.roundAt input offset
        if offset < next then
          let more ← tokeniser.loop input rounds next
          return more.map (tokens ++ ·)
        else .error (.stuck offset)

/-! ## Parts of the loop -/

section Parts

variable {α β : Type} {part : Except Halt α} {rest : α → Except Halt β}

/-- What a part of the loop gives has a property, and if it stops then because the scan fails. -/
def Within (part : Except Halt α) (property : α → Prop) : Prop :=
  match part with
  | .ok value => property value
  | .error halt => ∃ cause, halt = .failed cause

/-- Parts follow one another. -/
theorem Within.bind {first : α → Prop} {second : β → Prop} (hpart : Within part first)
    (hrest : ∀ value, first value → Within (rest value) second) :
    Within (part >>= rest) second := by
  cases part with
  | ok value => exact hrest value hpart
  | error halt => exact hpart

/-- A result of the scan has the properties that its value has. -/
theorem within_mapError {result : Except Error α} {property : α → Prop}
    (hresult : ∀ value, result = .ok value → property value) :
    Within (result.mapError .failed) property := by
  cases result with
  | ok value => exact hresult value rfl
  | error cause => exact ⟨cause, rfl⟩

/-- Where the part completes the scan ends as it does from the state that this leads to, and where
the part fails the scan fails for the same cause. -/
def Tracks (tokeniser : Tokeniser) (input : String) (scan : Scan) (part : Except Halt α)
    (goal : α → Scan) : Prop :=
  match part with
  | .ok value => ∀ outcome, tokeniser.Ends input (goal value) outcome →
      tokeniser.Ends input scan outcome
  | .error (.failed cause) => tokeniser.Ends input scan (.error cause)
  | .error _ => True

variable {tokeniser : Tokeniser} {input : String} {scan : Scan} {goal : α → Scan} {last : β → Scan}

/-- Parts follow one another where the second one begins in the state that the first leads to. -/
theorem Tracks.bind (hpart : tokeniser.Tracks input scan part goal)
    (hrest : ∀ value, part = .ok value → tokeniser.Tracks input (goal value) (rest value) last) :
    tokeniser.Tracks input scan (part >>= rest) last := by
  cases part with
  | ok value =>
      have hvalue := hrest value rfl
      rw [ok_bind]
      cases hresult : rest value with
      | ok made =>
          rw [hresult] at hvalue
          exact fun outcome hends => hpart outcome (hvalue outcome hends)
      | error halt =>
          rw [hresult] at hvalue
          cases halt with
          | failed cause => exact hpart _ hvalue
          | outOfRange | stuck => trivial
  | error halt =>
      rw [error_bind]
      cases halt with
      | failed cause => exact hpart
      | outOfRange | stuck => trivial

/-- Nothing is done in the state where the scan is. -/
theorem tracks_ok {value : α} (hgoal : goal value = scan) :
    tokeniser.Tracks input scan (.ok value) goal := by
  intro outcome hends
  rwa [hgoal] at hends

end Parts

variable {tokeniser : Tokeniser} {input : String} {rule : Rule} {rules : List Rule}
  {text : List Char} {offset place : Nat} {tokens : List Token}

/-! ## Offsets stay within the input -/

/-- Up to the end of the input text is left, unless the offset is inside a character. -/
theorem within_textFrom (hoffset : offset ≤ byteLength input.toList) :
    Within (textFrom input offset) fun text => dropBytes? input.toList offset = some text := by
  rw [textFrom, if_neg (Nat.not_lt.2 hoffset)]
  cases hdrop : dropBytes? input.toList offset with
  | some text => exact rfl
  | none => exact ⟨_, rfl⟩

/-- A match ends behind the place where it is looked for and within the input, wherever it stands.
-/
theorem within_turnAt (hoffset : offset ≤ byteLength input.toList) :
    Within (turnAt input rule offset) fun found =>
      ∀ made, found = some made → offset < made.1 ∧ made.1 ≤ byteLength input.toList := by
  refine (within_textFrom hoffset).bind fun text htext => ?_
  cases hmatch : rule.matchIn? text offset with
  | none => exact fun made hmade => nomatch hmade
  | some found =>
      refine (within_mapError fun _ _ => trivial).bind fun tokens _ => ?_
      rintro made hmade
      cases hmade
      have hlength := byteLength_of_dropBytes? htext
      have hpos := Rule.bytes_pos_of_matchIn? hmatch
      have hle := Rule.bytes_le_of_matchIn? hmatch
      exact ⟨by omega, by omega⟩

/-- The longer one of two matches is one of them. -/
theorem longest_within {bound stop : Nat} {longest : Option Nat}
    (hlongest : ∀ before, longest = some before → offset < before ∧ before ≤ bound)
    (hstop : offset < stop ∧ stop ≤ bound) :
    ∀ further, some (longest.elim stop (max · stop)) = some further →
      offset < further ∧ further ≤ bound := by
  rintro further hfurther
  cases hfurther
  cases longest with
  | none => exact hstop
  | some before =>
      have hbefore := hlongest before rfl
      show offset < max before stop ∧ max before stop ≤ bound
      omega

/-- Matches at one offset end behind it and within the input. -/
theorem within_overlapAt (hoffset : offset ≤ byteLength input.toList) {longest : Option Nat}
    (hlongest : ∀ stop, longest = some stop → offset < stop ∧ stop ≤ byteLength input.toList) :
    Within (overlapAt input offset rules longest) fun made =>
      ∀ stop, made.1 = some stop → offset < stop ∧ stop ≤ byteLength input.toList := by
  induction rules generalizing longest with
  | nil => exact hlongest
  | cons rule rules ih =>
      refine (within_turnAt hoffset).bind fun found hfound => ?_
      cases found with
      | none => exact ih hlongest
      | some made =>
          obtain ⟨stop, tokens⟩ := made
          have hstop : offset < stop ∧ stop ≤ byteLength input.toList := hfound _ rfl
          exact (ih (longest_within hlongest hstop)).bind fun _ hlast => hlast

/-- Matches one after the other do not go back and end within the input. -/
theorem within_chainAt (hplace : place ≤ byteLength input.toList) :
    Within (chainAt input rules place) fun made =>
      place ≤ made.1 ∧ made.1 ≤ byteLength input.toList := by
  induction rules generalizing place with
  | nil => exact ⟨Nat.le_refl _, hplace⟩
  | cons rule rules ih =>
      rw [chainAt]
      split
      · exact ⟨Nat.le_refl _, hplace⟩
      refine (within_turnAt hplace).bind fun found hfound => ?_
      cases found with
      | none => exact ih hplace
      | some made =>
          obtain ⟨stop, tokens⟩ := made
          have hstop : place < stop ∧ stop ≤ byteLength input.toList := hfound _ rfl
          refine (ih hstop.2).bind fun after hafter => ?_
          exact ⟨Nat.le_trans (Nat.le_of_lt hstop.1) hafter.1, hafter.2⟩

/-- The matches of a pass end behind its offset and within the input. -/
theorem within_passAt (hoffset : offset ≤ byteLength input.toList) :
    Within (tokeniser.passAt input offset) fun made =>
      ∀ stop, made.1 = some stop → offset < stop ∧ stop ≤ byteLength input.toList := by
  rw [passAt]
  split
  · exact within_overlapAt hoffset fun stop hstop => nomatch hstop
  · refine (within_chainAt hoffset).bind fun made hmade => ?_
    intro stop hstop
    obtain ⟨last, tokens⟩ := made
    replace hstop : (if offset < last then some last else none) = some stop := hstop
    split at hstop
    · cases hstop
      exact ⟨‹_›, hmade.2⟩
    · cases hstop

/-- The character that is passed over ends within the input. -/
theorem within_passOverAt (hoffset : offset < byteLength input.toList) :
    Within (tokeniser.passOverAt input offset) fun made =>
      offset < made.1 ∧ made.1 ≤ byteLength input.toList := by
  refine (within_textFrom (Nat.le_of_lt hoffset)).bind fun text htext => ?_
  cases text with
  | nil => exact ⟨hoffset, Nat.le_refl _⟩
  | cons c rest =>
      refine (within_mapError fun _ _ => trivial).bind fun tokens _ => ?_
      have hlength := byteLength_of_dropBytes? htext
      have hpos := c.utf8Size_pos
      rw [Text.byteLength_cons] at hlength
      show offset < offset + c.utf8Size ∧ offset + c.utf8Size ≤ _
      omega

/-- A round before the end of the input leads further on and not behind the end. -/
theorem within_roundAt (hoffset : offset < byteLength input.toList) :
    Within (tokeniser.roundAt input offset) fun made =>
      offset < made.1 ∧ made.1 ≤ byteLength input.toList := by
  refine (within_passAt (Nat.le_of_lt hoffset)).bind fun made hmade => ?_
  obtain ⟨stop?, tokens⟩ := made
  cases stop? with
  | some stop => exact hmade stop rfl
  | none => exact (within_passOverAt hoffset).bind fun _ hnext => hnext

/-! ## The loop and the machine -/

/-- The state of the machine behind the turn of a rule. -/
def afterTurn (scan : Scan) (rules : List Rule) : Option (Nat × List Token) → Scan
  | none => { scan with pending := rules }
  | some (stop, tokens) => ⟨scan.offset, max scan.reached stop, rules, scan.tokens ++ tokens⟩

/-- A turn of the loop is one of the machine. -/
theorem tracks_turnAt {scan : Scan} (hpending : scan.pending = rule :: rules)
    (hoffset : scan.offset < byteLength input.toList) (hplace : tokeniser.place scan = place)
    (hinside : place < byteLength input.toList) :
    tokeniser.Tracks input scan (turnAt input rule place) (afterTurn scan rules) := by
  rw [turnAt, textFrom, if_neg (Nat.not_lt.2 (Nat.le_of_lt hinside))]
  cases htext : dropBytes? input.toList place with
  | none => exact ends_slice hpending hoffset hplace hinside htext
  | some text =>
      rw [ok_bind]
      cases hmatch : rule.matchIn? text place with
      | none =>
          intro outcome hends
          exact ends_miss hpending hoffset hplace hinside htext hmatch hends
      | some found =>
          subst hplace
          show tokeniser.Tracks input scan
            ((emitMatch rule found).result.mapError .failed >>= fun tokens =>
              pure (some (tokeniser.place scan + found.bytes, tokens))) _
          cases hemit : (emitMatch rule found).result with
          | ok made =>
              intro outcome hends
              have hhit := step_eq_of_moves (.hit hpending hoffset hinside htext hmatch hemit)
              exact .next hhit hends
          | error cause =>
              exact .fail (step_eq_of_moves (.refuse hpending hoffset hinside htext hmatch hemit))

/-- The turns at one offset are those of the machine. -/
theorem tracks_overlapAt (happlication : tokeniser.application = .overlapping)
    (hoffset : offset < byteLength input.toList) {longest : Option Nat}
    (hlongest : ∀ stop, longest = some stop → offset < stop ∧ stop ≤ byteLength input.toList) :
    tokeniser.Tracks input ⟨offset, longest.getD offset, rules, tokens⟩
      (overlapAt input offset rules longest)
      fun made => ⟨offset, made.1.getD offset, [], tokens ++ made.2⟩ := by
  induction rules generalizing longest tokens with
  | nil => exact tracks_ok (by simp)
  | cons rule rules ih =>
      have hhere :
          tokeniser.place ⟨offset, longest.getD offset, rule :: rules, tokens⟩ = offset := by
        rw [place, happlication]
      have hturn : Within (turnAt input rule offset) _ := within_turnAt (Nat.le_of_lt hoffset)
      refine (tracks_turnAt rfl hoffset hhere hoffset).bind fun found hfound => ?_
      rw [hfound] at hturn
      cases found with
      | none => exact ih hlongest
      | some made =>
          obtain ⟨stop, made⟩ := made
          have hstop : offset < stop ∧ stop ≤ byteLength input.toList := hturn _ rfl
          have hreached : max (longest.getD offset) stop = longest.elim stop (max · stop) := by
            cases longest with
            | none => exact Nat.max_eq_right (Nat.le_of_lt hstop.1)
            | some before => rfl
          rw [afterTurn, hreached]
          refine (ih (longest_within hlongest hstop)).bind fun value _ => ?_
          exact tracks_ok (by simp)

/-- The turns one after the other are those of the machine. -/
theorem tracks_chainAt (happlication : tokeniser.application = .chained)
    (hoffset : offset < byteLength input.toList) (hplace : place ≤ byteLength input.toList) :
    tokeniser.Tracks input ⟨offset, place, rules, tokens⟩ (chainAt input rules place)
      fun made => ⟨offset, made.1, [], tokens ++ made.2⟩ := by
  induction rules generalizing place tokens with
  | nil => exact tracks_ok (by simp)
  | cons rule rules ih =>
      have hhere : tokeniser.place ⟨offset, place, rule :: rules, tokens⟩ = place := by
        rw [Tokeniser.place, happlication]
      rw [chainAt]
      split
      · rename_i hend
        intro outcome hends
        replace hends : tokeniser.Ends input ⟨offset, place, [], tokens ++ []⟩ outcome := hends
        rw [List.append_nil] at hends
        exact .next (step_eq_of_moves (.exhaust rfl hoffset (by rwa [hhere]))) hends
      · rename_i hinside
        have hturn : Within (turnAt input rule place) _ := within_turnAt hplace
        refine (tracks_turnAt rfl hoffset hhere (Nat.lt_of_not_le hinside)).bind
          fun found hfound => ?_
        rw [hfound] at hturn
        cases found with
        | none => exact ih hplace
        | some made =>
            obtain ⟨stop, made⟩ := made
            have hstop : place < stop ∧ stop ≤ byteLength input.toList := hturn _ rfl
            rw [afterTurn, Nat.max_eq_right (Nat.le_of_lt hstop.1)]
            refine (ih hstop.2).bind fun value _ => ?_
            exact tracks_ok (by simp)

/-- A pass of the loop is one of the machine. -/
theorem tracks_passAt (hoffset : offset < byteLength input.toList) :
    tokeniser.Tracks input (tokeniser.start offset tokens) (tokeniser.passAt input offset)
      fun made => ⟨offset, made.1.getD offset, [], tokens ++ made.2⟩ := by
  rw [passAt]
  cases happlication : tokeniser.application with
  | overlapping =>
      have hnone : ∀ stop, none = some stop → offset < stop ∧ stop ≤ byteLength input.toList :=
        nofun
      exact tracks_overlapAt happlication hoffset hnone
  | chained =>
      have hchain : Within (chainAt input tokeniser.rules offset) _ :=
        within_chainAt (Nat.le_of_lt hoffset)
      refine (tracks_chainAt happlication hoffset (Nat.le_of_lt hoffset)).bind fun made hmade => ?_
      rw [hmade] at hchain
      obtain ⟨last, made⟩ := made
      have hlast : (if offset < last then some last else none).getD offset = last := by
        split
        · rfl
        · exact Nat.le_antisymm hchain.1 (Nat.le_of_not_lt ‹_›)
      exact tracks_ok (by rw [hlast])

/-- The passing over of a character is that of the machine. -/
theorem tracks_passOverAt (hoffset : offset < byteLength input.toList) :
    tokeniser.Tracks input ⟨offset, offset, [], tokens⟩ (tokeniser.passOverAt input offset)
      fun made => tokeniser.start made.1 (tokens ++ made.2) := by
  rw [passOverAt, textFrom, if_neg (Nat.not_lt.2 (Nat.le_of_lt hoffset))]
  cases htext : dropBytes? input.toList offset with
  | none => exact .fail (step_eq_of_moves (.sliceUnmatched rfl hoffset rfl htext))
  | some text =>
      rw [ok_bind]
      cases text with
      | nil =>
          have hlength := byteLength_of_dropBytes? htext
          rw [Text.byteLength_nil] at hlength
          omega
      | cons c rest =>
          show tokeniser.Tracks input _ ((tokeniser.passOver c offset).result.mapError .failed >>=
            fun tokens => pure (offset + c.utf8Size, tokens)) _
          cases hemit : (tokeniser.passOver c offset).result with
          | ok made =>
              intro outcome hends
              exact .next (step_eq_of_moves (.passOver rfl hoffset rfl htext hemit)) hends
          | error cause =>
              exact .fail (step_eq_of_moves (.refuseUnmatched rfl hoffset rfl htext hemit))

/-- A round of the loop leads the machine from the start of a pass to that of the next one. -/
theorem tracks_roundAt (hoffset : offset < byteLength input.toList) :
    tokeniser.Tracks input (tokeniser.start offset tokens) (tokeniser.roundAt input offset)
      fun made => tokeniser.start made.1 (tokens ++ made.2) := by
  have hpass : Within (tokeniser.passAt input offset) _ := within_passAt (Nat.le_of_lt hoffset)
  refine (tracks_passAt hoffset).bind fun made hmade => ?_
  rw [hmade] at hpass
  obtain ⟨stop?, made⟩ := made
  cases stop? with
  | some stop =>
      have hstop : offset < stop ∧ _ := hpass stop rfl
      intro outcome hends
      exact .next (step_eq_of_moves (.next rfl hoffset (Nat.ne_of_gt hstop.1))) hends
  | none =>
      refine (tracks_passOverAt hoffset).bind fun next _ => ?_
      exact tracks_ok (by rw [List.append_assoc])

/-- At the end of the input there is nothing left to do, for the loop and for the machine. -/
theorem exists_loop_of_end {rounds : Nat} (hend : byteLength input.toList ≤ offset) :
    ∃ outcome : Except Error (List Token),
      tokeniser.loop input rounds offset = (outcome.map some).mapError .failed ∧
        ∀ tokens, tokeniser.Ends input (tokeniser.start offset tokens)
          (outcome.map (tokens ++ ·)) := by
  have hloop : tokeniser.loop input rounds offset = .ok (some []) := by
    cases rounds <;> exact if_pos hend
  refine ⟨.ok [], hloop, fun tokens => ?_⟩
  show tokeniser.Ends input _ (.ok (tokens ++ []))
  rw [List.append_nil]
  exact .done (step_eq_of_moves (.done hend))

/-- The loop and the machine come to the same, if there are as many rounds as bytes left. -/
theorem exists_loop (tokeniser : Tokeniser) {rounds : Nat}
    (hrounds : byteLength input.toList - offset ≤ rounds) :
    ∃ outcome : Except Error (List Token),
      tokeniser.loop input rounds offset = (outcome.map some).mapError .failed ∧
        ∀ tokens, tokeniser.Ends input (tokeniser.start offset tokens)
          (outcome.map (tokens ++ ·)) := by
  induction rounds generalizing offset with
  | zero =>
      have hend : byteLength input.toList ≤ offset := by omega
      exact exists_loop_of_end hend
  | succ rounds ih =>
      by_cases hend : byteLength input.toList ≤ offset
      · exact exists_loop_of_end hend
      have hoffset := Nat.lt_of_not_le hend
      have hwithin : Within (tokeniser.roundAt input offset) _ := within_roundAt hoffset
      have htracks (tokens : List Token) :
          tokeniser.Tracks input (tokeniser.start offset tokens) _ _ := tracks_roundAt hoffset
      rw [loop, if_neg hend]
      cases hround : tokeniser.roundAt input offset with
      | error halt =>
          rw [hround] at hwithin htracks
          obtain ⟨cause, rfl⟩ := hwithin
          exact ⟨.error cause, rfl, htracks⟩
      | ok made =>
          rw [hround] at hwithin htracks
          obtain ⟨next, made⟩ := made
          have hnext : offset < next ∧ next ≤ byteLength input.toList := hwithin
          have hleft : byteLength input.toList - next ≤ rounds := by omega
          obtain ⟨outcome, hloop, hends⟩ := ih hleft
          refine ⟨outcome.map (made ++ ·), ?_, fun tokens => htracks tokens _ ?_⟩
          · simp only [ok_bind, if_pos hnext.1, hloop]
            cases outcome <;> rfl
          · have hrest := hends (tokens ++ made)
            cases outcome with
            | error cause => exact hrest
            | ok more =>
                show tokeniser.Ends input _ (.ok (tokens ++ (made ++ more)))
                rw [← List.append_assoc]
                exact hrest

/-! ## Rounds that lead on -/

/-- The loop over an input keeps moving and stays within the input. -/
structure Advances (tokeniser : Tokeniser) (input : String) : Prop where
  /-- A round that completes leads further on, and not behind the end. -/
  next : ∀ offset next tokens, offset < byteLength input.toList →
    tokeniser.roundAt input offset = .ok (next, tokens) →
      offset < next ∧ next ≤ byteLength input.toList
  /-- In a pass that tries each rule where the last match before it ends, no place where a rule has
  its turn is behind the end, nor is the one where the pass ends: wherever the first rules of the
  pass lead, the other ones go on from there. -/
  place : ∀ offset earlier later place tokens, offset < byteLength input.toList →
    tokeniser.rules = earlier ++ later → chainAt input earlier offset = .ok (place, tokens) →
      offset ≤ place ∧ place ≤ byteLength input.toList ∧
        chainAt input tokeniser.rules offset =
          (fun after => (after.1, tokens ++ after.2)) <$> chainAt input later place
  /-- A round that does not complete is one in which the scan fails. No text is asked for from
  behind the end. -/
  halt : ∀ offset halt, offset < byteLength input.toList →
    tokeniser.roundAt input offset = .error halt → ∃ cause, halt = .failed cause
  /-- As many rounds as the input has bytes are enough for the loop to come to the tokens of the
  input, or to fail as their scan does. -/
  enough : tokeniser.loop input (byteLength input.toList) 0 =
    ((tokeniser.tokenise input).result.map fun stream => some stream.items).mapError .failed

/-- Without text left no rule has a turn. -/
theorem chainAt_of_end (rules : List Rule) (hend : byteLength input.toList ≤ place) :
    chainAt input rules place = .ok (place, []) := by
  cases rules with
  | nil => rfl
  | cons rule rules => rw [chainAt, if_pos hend]

/-- The last rules have their turns where the first ones lead. -/
theorem chainAt_append (earlier later : List Rule) (place : Nat) :
    chainAt input (earlier ++ later) place =
      chainAt input earlier place >>= fun first =>
        (fun after => (after.1, first.2 ++ after.2)) <$> chainAt input later first.1 := by
  induction earlier generalizing place with
  | nil => exact (id_map _).symm
  | cons rule earlier ih =>
      by_cases hend : byteLength input.toList ≤ place
      · rw [chainAt_of_end _ hend, chainAt_of_end _ hend, ok_bind, chainAt_of_end _ hend]
        rfl
      · rw [List.cons_append, chainAt, if_neg hend, chainAt, if_neg hend, bind_assoc]
        congr 1
        funext found
        cases found with
        | none => exact ih place
        | some made =>
            obtain ⟨stop, made⟩ := made
            show (chainAt input (earlier ++ later) stop >>= _) = _
            rw [ih]
            cases hfirst : chainAt input earlier stop with
            | error halt => simp only [hfirst, error_bind]
            | ok first =>
                simp only [hfirst, ok_bind, pure_bind]
                cases chainAt input later first.1 with
                | error halt => rfl
                | ok after =>
                    show Except.ok (after.1, made ++ (first.2 ++ after.2)) = _
                    rw [← List.append_assoc]
                    rfl

/-- Every loop keeps moving and stays within its input, and so it ends. -/
theorem advances_loop (tokeniser : Tokeniser) (input : String) : tokeniser.Advances input where
  next offset next tokens hoffset hround := by
    have hwithin : Within (tokeniser.roundAt input offset) _ := within_roundAt hoffset
    rwa [hround] at hwithin
  place offset earlier later place tokens hoffset hrules hearlier := by
    have hwithin : Within (chainAt input earlier offset) _ :=
      within_chainAt (Nat.le_of_lt hoffset)
    rw [hearlier] at hwithin
    exact ⟨hwithin.1, hwithin.2, by rw [hrules, chainAt_append, hearlier, ok_bind]⟩
  halt offset halt hoffset hround := by
    have hwithin : Within (tokeniser.roundAt input offset) _ := within_roundAt hoffset
    rwa [hround] at hwithin
  enough := by
    have hall : byteLength input.toList - 0 ≤ byteLength input.toList := Nat.le_refl _
    obtain ⟨outcome, hloop, hends⟩ := exists_loop tokeniser hall
    rw [hloop, result_tokenise_of_ends (hends [])]
    cases outcome <;> rfl

end Tokeniser

end TokenTree
