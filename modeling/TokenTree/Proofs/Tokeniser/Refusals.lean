import TokenTree.Proofs.Registration
import TokenTree.Proofs.Tokeniser.InPlace
import TokenTree.Proofs.Tokeniser.Passes

/-!
# Where a scan fails

A scan that keeps to the places between characters fails at a rule without a name, whose reaction
gives values. Which rules have a turn, and where, does not depend on what reactions give: `turn?`
follows a scan without them, through what would have had a turn had the scan not failed. The scan is
at the same places until the first turn of a rule that refuses, and there it fails
(`tokenise_fails_iff`). A reaction that gives an empty list of values fails like one with values in
it.
-/

namespace TokenTree

open Text (byteLength dropBytes?)

/-- The values that a reaction gave, where it gave values. -/
def Emit.values? : Emit → Option (List Value)
  | .value single => some [single]
  | .values several => some several
  | _ => none

/-- There are no tokens exactly of values without a name. -/
theorem Emit.toTokens_eq_error_iff {name : Option Kind} {offset : Nat} {emit : Emit}
    {cause : Error} :
    emit.toTokens name offset = .error cause ↔
      name = none ∧ (∃ values, emit.values? = some values) ∧ cause = .unnamedRuleValue offset := by
  cases emit <;> cases name <;> simp [Emit.toTokens, Emit.values?, eq_comm]

/-- The state without its tokens. -/
def Scan.bare (scan : Scan) : Scan := { scan with tokens := [] }

namespace Tokeniser

/-! ## Turns -/

/-- The next turn, whatever reactions give: none at the end of the input and inside a character. -/
def follow? (tokeniser : Tokeniser) (input : String) (scan : Scan) : Option Scan :=
  if byteLength input.toList ≤ scan.offset then none
  else
    match scan.pending with
    | rule :: rules =>
        if byteLength input.toList ≤ tokeniser.place scan then
          some ⟨scan.offset, scan.reached, [], []⟩
        else
          match dropBytes? input.toList (tokeniser.place scan) with
          | some text =>
              match rule.matchIn? text (tokeniser.place scan) with
              | some found =>
                  some ⟨scan.offset, max scan.reached (tokeniser.place scan + found.bytes), rules,
                    []⟩
              | none => some ⟨scan.offset, scan.reached, rules, []⟩
          | none => none
    | [] =>
        if scan.reached = scan.offset then
          match dropBytes? input.toList scan.offset with
          | some (c :: _) => some (tokeniser.start (scan.offset + c.utf8Size) [])
          | _ => none
        else some (tokeniser.start scan.reached [])

/-- The state of the scan of an input before a turn, counted from 0. -/
def turn? (tokeniser : Tokeniser) (input : String) : Nat → Option Scan
  | 0 => some (tokeniser.start 0 [])
  | turn + 1 => (tokeniser.turn? input turn).bind (tokeniser.follow? input)

/-- The rule that has its turn has no name and matches, and its reaction gives these values. -/
inductive GivesBare (tokeniser : Tokeniser) (input : String) (scan : Scan) :
    List Value → Prop where
  | intro {rule : Rule} {rules : List Rule} {text : List Char} {found : RuleMatch}
      {values : List Value} (hpending : scan.pending = rule :: rules)
      (hoffset : scan.offset < byteLength input.toList)
      (hplace : tokeniser.place scan < byteLength input.toList)
      (htext : dropBytes? input.toList (tokeniser.place scan) = some text)
      (hmatch : rule.matchIn? text (tokeniser.place scan) = some found) (hname : rule.name = none)
      (hvalues : (rule.reaction found).values? = some values) :
      GivesBare tokeniser input scan values

/-- The rule that has its turn gives values without a name, if only an empty list of them. -/
def Refuses (tokeniser : Tokeniser) (input : String) (scan : Scan) : Prop :=
  ∃ values, tokeniser.GivesBare input scan values

/-- The rule that has its turn gives a value at least, without a name. -/
def GivesValue (tokeniser : Tokeniser) (input : String) (scan : Scan) : Prop :=
  ∃ value values, tokeniser.GivesBare input scan (value :: values)

/-- This is the first turn of which the property holds. -/
structure FirstTurn (tokeniser : Tokeniser) (input : String) (property : Scan → Prop) (turn : Nat)
    (scan : Scan) : Prop where
  turn?_eq : tokeniser.turn? input turn = some scan
  holds : property scan
  earlier : ∀ before < turn, ∀ other, tokeniser.turn? input before = some other → ¬ property other

variable {tokeniser : Tokeniser} {input : String} {scan : Scan} {turn : Nat}

/-- Where there is a turn with a property there is a first one. -/
theorem exists_firstTurn {property : Scan → Prop} (hturn : tokeniser.turn? input turn = some scan)
    (hholds : property scan) : ∃ first other, tokeniser.FirstTurn input property first other := by
  induction turn using Nat.strongRecOn generalizing scan with
  | ind turn ih =>
      by_cases hearlier : ∃ before < turn, ∃ other,
          tokeniser.turn? input before = some other ∧ property other
      · obtain ⟨before, hlt, other, hother, hproperty⟩ := hearlier
        exact ih before hlt hother hproperty
      · exact ⟨turn, scan, hturn, hholds, fun before hlt other hother hproperty =>
          hearlier ⟨before, hlt, other, hother, hproperty⟩⟩

/-- There is one first turn with a property. -/
theorem FirstTurn.unique {property : Scan → Prop} {other : Nat} {state : Scan}
    (hfirst : tokeniser.FirstTurn input property turn scan)
    (hother : tokeniser.FirstTurn input property other state) : scan = state := by
  obtain hlt | rfl | hlt := Nat.lt_trichotomy turn other
  · exact absurd hfirst.holds (hother.earlier _ hlt _ hfirst.turn?_eq)
  · exact Option.some.inj (hfirst.turn?_eq.symm.trans hother.turn?_eq)
  · exact absurd hother.holds (hfirst.earlier _ hlt _ hother.turn?_eq)

/-- A rule that gives a value without a name refuses. -/
theorem refuses_of_givesValue (hvalue : tokeniser.GivesValue input scan) :
    tokeniser.Refuses input scan := by
  obtain ⟨value, values, hgives⟩ := hvalue
  exact ⟨value :: values, hgives⟩

/-- The rules that are to have a turn are the tokeniser's. -/
theorem pending_subset_of_turn (hturn : tokeniser.turn? input turn = some scan) :
    scan.pending ⊆ tokeniser.rules := by
  induction turn generalizing scan with
  | zero =>
      cases hturn
      exact List.Subset.refl _
  | succ turn ih =>
      obtain ⟨before, hbefore, hfollow⟩ := Option.bind_eq_some_iff.1 hturn
      have hsubset := ih hbefore
      rw [follow?] at hfollow
      split at hfollow
      · cases hfollow
      split at hfollow
      · next rule rules hpending =>
          rw [hpending] at hsubset
          have hrules := (List.cons_subset.1 hsubset).2
          split at hfollow
          · cases hfollow
            exact List.nil_subset _
          split at hfollow
          · split at hfollow <;> cases hfollow <;> exact hrules
          · cases hfollow
      · split at hfollow
        · split at hfollow <;> cases hfollow
          exact List.Subset.refl _
        · cases hfollow
          exact List.Subset.refl _

/-! ## Turns and steps -/

/-- The tokens so far have no part in what the next turn is. -/
theorem follow?_bare (tokeniser : Tokeniser) (input : String) (scan : Scan) :
    tokeniser.follow? input scan.bare = tokeniser.follow? input scan := rfl

/-- The tokens so far have no part in whether the next rule refuses. -/
theorem refuses_bare : tokeniser.Refuses input scan.bare ↔ tokeniser.Refuses input scan := by
  constructor
  · rintro ⟨values, hpending, hoffset, hplace, htext, hmatch, hname, hvalues⟩
    exact ⟨values, hpending, hoffset, hplace, htext, hmatch, hname, hvalues⟩
  · rintro ⟨values, hpending, hoffset, hplace, htext, hmatch, hname, hvalues⟩
    exact ⟨values, hpending, hoffset, hplace, htext, hmatch, hname, hvalues⟩

/-- What a step comes to, and what the turn like it without reactions leads to. -/
inductive Follows (tokeniser : Tokeniser) (input : String) (scan : Scan) :
    Except Error (Option Scan) → Option Scan → Prop where
  /-- The input ends. -/
  | done : Follows tokeniser input scan (.ok none) none
  /-- The step asks for what the input has from the inside of a character on. -/
  | inside {offset : Nat} : Follows tokeniser input scan (.error (.offBoundary offset)) none
  /-- The rule that has its turn, if there is one, gives tokens. -/
  | next {after : Scan} (hgives : ¬ tokeniser.Refuses input scan) :
      Follows tokeniser input scan (.ok (some after)) (some after.bare)
  /-- The rule that has its turn refuses, and would be followed by others. -/
  | refuse {after : Scan} (hrefuses : tokeniser.Refuses input scan) :
      Follows tokeniser input scan (.error (.unnamedRuleValue (tokeniser.place scan))) (some after)

/-- Where the rule that has its turn refuses, the scan fails. -/
theorem step_of_refuses (hrefuses : tokeniser.Refuses input scan) :
    tokeniser.step input scan = .error (.unnamedRuleValue (tokeniser.place scan)) := by
  obtain ⟨values, hpending, hoffset, hplace, htext, hmatch, hname, hvalues⟩ := hrefuses
  refine step_eq_of_moves (.refuse hpending hoffset hplace htext hmatch
    (Emit.toTokens_eq_error_iff.2 ⟨hname, ⟨values, hvalues⟩, ?_⟩))
  rw [Rule.offset_of_matchIn? hmatch]

/-- A rule that gives tokens does not refuse. -/
theorem not_refuses_of_step {after : Option Scan}
    (hstep : tokeniser.step input scan = .ok after) : ¬ tokeniser.Refuses input scan := by
  intro hrefuses
  rw [step_of_refuses hrefuses] at hstep
  cases hstep

/-- A turn without reactions leads where the step does, unless the rule refuses. -/
theorem follows_step (tokeniser : Tokeniser) (input : String) (scan : Scan) :
    tokeniser.Follows input scan (tokeniser.step input scan) (tokeniser.follow? input scan) := by
  -- Stated of the step before it is replaced by what it comes to in each case.
  have hgives {after : Option Scan} : tokeniser.step input scan = .ok after →
      ¬ tokeniser.Refuses input scan := not_refuses_of_step
  have hmoves : tokeniser.Moves input scan _ := moves_step
  rw [follow?]
  generalize tokeniser.step input scan = outcome at hmoves hgives
  cases hmoves with
  | done hend =>
      rw [if_pos hend]
      exact .done
  | exhaust hpending hoffset hplace =>
      simp only [if_neg (Nat.not_le.2 hoffset), hpending, if_pos hplace]
      exact .next (hgives rfl)
  | slice hpending hoffset hplace htext =>
      simp only [if_neg (Nat.not_le.2 hoffset), hpending, if_neg (Nat.not_le.2 hplace), htext]
      exact .inside
  | miss hpending hoffset hplace htext hmatch =>
      simp only [if_neg (Nat.not_le.2 hoffset), hpending, if_neg (Nat.not_le.2 hplace), htext,
        hmatch]
      exact .next (hgives rfl)
  | hit hpending hoffset hplace htext hmatch hemit =>
      simp only [if_neg (Nat.not_le.2 hoffset), hpending, if_neg (Nat.not_le.2 hplace), htext,
        hmatch]
      exact .next (hgives rfl)
  | refuse hpending hoffset hplace htext hmatch hemit =>
      simp only [if_neg (Nat.not_le.2 hoffset), hpending, if_neg (Nat.not_le.2 hplace), htext,
        hmatch]
      obtain ⟨hname, ⟨values, hvalues⟩, hcause⟩ := Emit.toTokens_eq_error_iff.1 hemit
      rw [hcause, Rule.offset_of_matchIn? hmatch]
      exact .refuse ⟨values, hpending, hoffset, hplace, htext, hmatch, hname, hvalues⟩
  | next hpending hoffset hreached =>
      simp only [if_neg (Nat.not_le.2 hoffset), hpending, if_neg hreached]
      exact .next (hgives rfl)
  | sliceUnmatched hpending hoffset hreached htext =>
      simp only [if_neg (Nat.not_le.2 hoffset), hpending, if_pos hreached, htext]
      exact .inside
  | passOver hpending hoffset hreached htext hemit =>
      simp only [if_neg (Nat.not_le.2 hoffset), hpending, if_pos hreached, htext]
      exact .next (hgives rfl)
  | refuseUnmatched hpending hoffset hreached htext hemit =>
      exact absurd hemit result_passOver_ne_error

/-! ## Turns and runs -/

/-- Wherever a scan comes to, so do its turns, and none of them so far has refused. -/
theorem exists_turn_of_reaches (hreaches : tokeniser.Reaches input scan) :
    ∃ turn, tokeniser.turn? input turn = some scan.bare ∧
      ∀ before < turn, ∀ other, tokeniser.turn? input before = some other →
        ¬ tokeniser.Refuses input other := by
  -- On the run: every step of it is a turn that has not refused, or there would be no next state.
  induction hreaches with
  | refl => exact ⟨0, rfl, fun before hlt => absurd hlt (Nat.not_lt_zero _)⟩
  | @tail scan after _ hstep ih =>
      obtain ⟨turn, hturn, hearlier⟩ := ih
      have hfollows := follows_step tokeniser input scan
      rw [hstep] at hfollows
      generalize hfollow : tokeniser.follow? input scan = followed at hfollows
      cases hfollows with
      | next hgives =>
          refine ⟨turn + 1, ?_, fun before hlt other hother => ?_⟩
          · rw [turn?, hturn]
            exact hfollow
          · obtain hlt | rfl := Nat.lt_succ_iff_lt_or_eq.1 hlt
            · exact hearlier before hlt other hother
            · rw [hturn] at hother
              rwa [← Option.some.inj hother, refuses_bare]

/-- As long as no rule has refused, the scan comes to where its turns do. -/
theorem exists_reaches_of_turn (hturn : tokeniser.turn? input turn = some scan)
    (hearlier : ∀ before < turn, ∀ other, tokeniser.turn? input before = some other →
      ¬ tokeniser.Refuses input other) :
    ∃ reached, tokeniser.Reaches input reached ∧ reached.bare = scan := by
  -- On the number of turns, which unlike the steps go on behind a refusal.
  induction turn generalizing scan with
  | zero => exact ⟨tokeniser.start 0 [], .refl, Option.some.inj hturn⟩
  | succ turn ih =>
      obtain ⟨before, hbefore, hfollow⟩ := Option.bind_eq_some_iff.1 hturn
      obtain ⟨reached, hreaches, rfl⟩ := ih hbefore fun other hlt =>
        hearlier other (Nat.lt_succ_of_lt hlt)
      have hgives := hearlier turn (Nat.lt_succ_self turn) _ hbefore
      rw [refuses_bare] at hgives
      rw [follow?_bare] at hfollow
      have hfollows := follows_step tokeniser input reached
      rw [hfollow] at hfollows
      generalize hstep : tokeniser.step input reached = outcome at hfollows
      cases hfollows with
      | next => exact ⟨_, hreaches.tail hstep, rfl⟩
      | refuse hrefuses => exact absurd hrefuses hgives

/-- A scan that keeps to the places between characters fails exactly at the first turn of a rule
that refuses. -/
theorem result_eq_error_iff_firstTurn
    (hpanic : ∀ offset, (tokeniser.tokenise input).result ≠ .error (.offBoundary offset))
    (cause : Error) : (tokeniser.tokenise input).result = .error cause ↔
      ∃ turn scan, tokeniser.FirstTurn input (tokeniser.Refuses input) turn scan ∧
        cause = .unnamedRuleValue (tokeniser.place scan) := by
  constructor
  · intro hresult
    have hends := ends_tokenise tokeniser input
    rw [hresult, error_bind] at hends
    obtain ⟨last, hreaches, hstep⟩ := exists_of_ends_error .refl hends
    obtain ⟨turn, hturn, hearlier⟩ := exists_turn_of_reaches hreaches
    have hfollows := follows_step tokeniser input last
    rw [hstep] at hfollows
    generalize tokeniser.follow? input last = followed at hfollows
    cases hfollows with
    | inside => exact absurd hresult (hpanic _)
    | refuse hrefuses => exact ⟨turn, last.bare, ⟨hturn, refuses_bare.2 hrefuses, hearlier⟩, rfl⟩
  · rintro ⟨turn, scan, hfirst, rfl⟩
    obtain ⟨reached, hreaches, rfl⟩ := exists_reaches_of_turn hfirst.turn?_eq hfirst.earlier
    have hstep := step_of_refuses (refuses_bare.1 hfirst.holds)
    exact result_tokenise_of_ends (Ends.of_reaches hreaches (.fail hstep))

/-- A scan that keeps to the places between characters fails exactly where some rule without a name
matches and its reaction gives values, an empty list of them included. The cause carries the place
at which the first such rule had its turn. So the first rule that gives a value at least decides
about failure exactly if it has its turn at that place. -/
theorem tokenise_fails_iff
    (hpanic : ∀ offset, (tokeniser.tokenise input).result ≠ .error (.offBoundary offset)) :
    (∀ cause, (tokeniser.tokenise input).result = .error cause ↔
      ∃ turn scan, tokeniser.FirstTurn input (tokeniser.Refuses input) turn scan ∧
        cause = .unnamedRuleValue (tokeniser.place scan)) ∧
    ((∃ cause, (tokeniser.tokenise input).result = .error cause) ↔
      ∃ turn scan, tokeniser.turn? input turn = some scan ∧ tokeniser.Refuses input scan) ∧
    ((∀ cause, (tokeniser.tokenise input).result = .error cause ↔
        ∃ turn scan, tokeniser.FirstTurn input (tokeniser.GivesValue input) turn scan ∧
          cause = .unnamedRuleValue (tokeniser.place scan)) ↔
      ∀ turn scan, tokeniser.FirstTurn input (tokeniser.Refuses input) turn scan →
        ∃ other state, tokeniser.FirstTurn input (tokeniser.GivesValue input) other state ∧
          tokeniser.place state = tokeniser.place scan) := by
  have hfails := result_eq_error_iff_firstTurn hpanic
  refine ⟨hfails, ⟨?_, ?_⟩, ?_, ?_⟩
  · rintro ⟨cause, hresult⟩
    obtain ⟨turn, scan, hfirst, -⟩ := (hfails cause).1 hresult
    exact ⟨turn, scan, hfirst.turn?_eq, hfirst.holds⟩
  · rintro ⟨turn, scan, hturn, hrefuses⟩
    obtain ⟨first, other, hfirst⟩ := exists_firstTurn hturn hrefuses
    exact ⟨_, (hfails _).2 ⟨first, other, hfirst, rfl⟩⟩
  · intro hvalue turn scan hfirst
    have hresult := (hfails _).2 ⟨turn, scan, hfirst, rfl⟩
    obtain ⟨other, state, hother, hcause⟩ := (hvalue _).1 hresult
    exact ⟨other, state, hother, (Error.unnamedRuleValue.inj hcause).symm⟩
  · intro hplaces cause
    rw [hfails]
    constructor
    · rintro ⟨turn, scan, hfirst, rfl⟩
      obtain ⟨other, state, hother, hplace⟩ := hplaces turn scan hfirst
      exact ⟨other, state, hother, by rw [hplace]⟩
    · rintro ⟨turn, scan, hfirst, rfl⟩
      obtain ⟨first, earliest, hrefuses⟩ :=
        exists_firstTurn hfirst.turn?_eq (refuses_of_givesValue hfirst.holds)
      obtain ⟨other, state, hother, hplace⟩ := hplaces first earliest hrefuses
      obtain rfl := hfirst.unique hother
      exact ⟨first, earliest, hrefuses, by rw [hplace]⟩

/-- Words, and numbers without a name, of which no values are kept. -/
def uncounted : List Step :=
  [.token ⟨"word"⟩ "[a-zé]+", .anonymousRule "[0-9]+" fun _ => .values []]

/-- The only rule of the two without a name gives no value. -/
theorem not_givesValue_uncounted (hbuild : ofSteps uncounted = .ok tokeniser)
    (hturn : tokeniser.turn? input turn = some scan) : ¬ tokeniser.GivesValue input scan := by
  rintro ⟨value, values, @⟨rule, rules, text, found, _, hpending, -, -, -, -, hname, hvalues⟩⟩
  have hrule : rule ∈ tokeniser.rules :=
    pending_subset_of_turn hturn (hpending ▸ List.mem_cons_self)
  obtain ⟨step, hstep, hdefinition⟩ := (defines_ofSteps hbuild).exists_step hrule
  rw [uncounted, List.mem_cons, List.mem_singleton] at hstep
  obtain rfl | rfl := hstep
  · have hnamed := congrArg Prod.fst (Option.some.inj hdefinition)
    rw [Rule.definition, hname] at hnamed
    cases hnamed
  · have hreaction := congrArg (fun definition => definition.2.2) (Option.some.inj hdefinition)
    rw [← show rule.definition.2.2 = rule.reaction from rfl, ← hreaction] at hvalues
    cases hvalues

/-- No rule gives a value without a name, and yet the scan fails where the number has its turn. -/
theorem tokenise_fails_uncounted : ∃ tokeniser, ofSteps uncounted = .ok tokeniser ∧
    (tokeniser.tokenise "é 1").result = .error (.unnamedRuleValue 3) ∧
    (∃ turn scan, tokeniser.FirstTurn "é 1" (tokeniser.Refuses "é 1") turn scan ∧
      tokeniser.place scan = 3) ∧
    ∀ turn scan, tokeniser.turn? "é 1" turn = some scan → ¬ tokeniser.GivesValue "é 1" scan := by
  have hfails : ((ofSteps uncounted).toOption.bind fun tokeniser =>
      failure? (tokeniser.tokenise "é 1").result) = some (.unnamedRuleValue 3) := by
    decide +kernel
  cases hbuild : ofSteps uncounted with
  | error cause =>
      rw [hbuild] at hfails
      cases hfails
  | ok tokeniser =>
      rw [hbuild] at hfails
      have hresult := eq_error_of_failure? hfails
      have hpanic (offset : Nat) :
          (tokeniser.tokenise "é 1").result ≠ .error (.offBoundary offset) := by
        rw [hresult]
        exact fun hother => nomatch hother
      obtain ⟨turn, scan, hfirst, hcause⟩ := ((tokenise_fails_iff hpanic).1 _).1 hresult
      have hplace := (Error.unnamedRuleValue.inj hcause).symm
      exact ⟨tokeniser, rfl, hresult, ⟨turn, scan, hfirst, hplace⟩, fun _ _ hturn =>
        not_givesValue_uncounted hbuild hturn⟩

end Tokeniser

end TokenTree
