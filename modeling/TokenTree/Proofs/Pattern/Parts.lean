import TokenTree.Pattern.Reader

/-!
# The reader in parts

The longer readers of patterns are cut into parts that have names, and an equation for each of them
says that it is made of these parts. What is proved of the reader is proved part by part.
-/

namespace TokenTree.Pattern.Reader

/-! ## Escapes -/

/-- A character by its code point, from the digits or the brace on. -/
def codePoint (digits : Nat) : Reader Single := do
  if (← peek?) == some '\x7b' then
    advance
    let code ← collect isHex (← rounds)
    if code.isEmpty || (← peek?) != some '\x7d' then failure
    advance
    return .char (← ofCode (valueOf 16 code))
  else
    let c ← ofCode (valueOf 16 (← fixedHex digits))
    return if digits = 2 then .byte c else .char c

/-- A character by its code point is marked by a letter. -/
theorem hex_eq (digits : Nat) : hex digits = (do
    advance
    more
    codePoint digits) := rfl

/-- What may be the name of a boundary, with its brace. -/
def boundaryName : Reader (List Char) := do
  advance
  more
  collect (fun c => c.isAlpha || c == '-') (← rounds)

/-- The boundary of a name, through its closing brace. -/
def boundaryNamed (name : List Char) : Reader Assertion := do
  if (← peek?) != some '\x7d' then failure
  bump 1
  match String.ofList name with
  | "start" => return .wordStart
  | "end" => return .wordEnd
  | "start-half" => return .wordStartHalf
  | "end-half" => return .wordEndHalf
  | _ => failure

/-- Without a name the reading goes back to its start. -/
def boundaryFrom (start : Reading) (name : List Char) : Reader Assertion :=
  if name.isEmpty then do
    set start
    return .boundary
  else boundaryNamed name

/-- A boundary, in its parts. -/
theorem boundary_eq : boundary = (do
    if (← peek?) != some '\x7b' then return .boundary
    let start ← get
    let name ← boundaryName
    boundaryFrom start name) := by
  rw [boundary, boundaryName]
  refine bind_congr fun next => ?_
  split
  · rfl
  refine bind_congr fun start => ?_
  rw [bind_assoc]
  refine bind_congr fun _ => ?_
  rw [bind_assoc]
  refine bind_congr fun _ => ?_
  rw [bind_assoc]
  rfl

/-! ## Sets in brackets -/

/-- The class that is named here; without one the reading goes back to its start. -/
def posixFrom (start : Reading) (negated : Bool) : Reader (Option SetTerm) := do
  let name := (← get).rest.takeWhile (· != ':')
  bump name.length
  match posixNamed? (String.ofList name) with
  | some set =>
      if ← eat [':', ']'] then return some (.posix set negated)
  | none => pure ()
  set start
  return none

/-- A named class, in its parts. -/
theorem posix?_eq : posix? = (do
    let start ← get
    if !(← eat ['[', ':']) then return none
    let negated ← eat ['^']
    posixFrom start negated) := rfl

/-- The range between two places, which have to hold characters in order. -/
def rangeBetween (first last : Single) : Reader SetTerm :=
  match first.char?, last.char? with
  | some low, some high => if low ≤ high then return .range low high else failure
  | _, _ => failure

/-- The end of a range that begins with a given place, from its hyphen on. -/
def rangeEnd (first : Single) : Reader SetTerm := do
  advance
  more
  rangeBetween first (← setSingle)

/-- The item that begins with a given place, after the next two characters were looked at. -/
def rangeOrItem (first : Single) (after next : Option Char) : Reader SetTerm :=
  if next != some '-' || after == some ']' || after == some '-' then first.toItem
  else rangeEnd first

/-- An item of a set, in its parts. -/
theorem setRange_eq : setRange = (do
    let first ← setSingle
    skipSpace
    more
    let after ← peekAfter?
    let next ← peek?
    rangeOrItem first after next) := rfl

/-- What a set goes on with, given the text that is left of it. -/
def setStep (rounds : Nat) (pending : Option (SetOp × SetTerm)) (items : List SetTerm) :
    List Char → Reader SetTerm
  | [] => failure
  | '[' :: _ => do
      match ← posix? with
      | some item => setBody rounds pending (items ++ [item])
      | none => do
          let (negated, initial) ← openSet
          let body ← setBody rounds none initial
          setBody rounds pending (items ++ [.bracket body negated])
  | ']' :: _ => do
      bump 1
      return settle pending items
  | '&' :: '&' :: _ => do
      bump 2
      setBody rounds (some (.inter, settle pending items)) []
  | '-' :: '-' :: _ => do
      bump 2
      setBody rounds (some (.diff, settle pending items)) []
  | '~' :: '~' :: _ => do
      bump 2
      setBody rounds (some (.symmDiff, settle pending items)) []
  | _ => do
      let item ← setRange
      setBody rounds pending (items ++ [item])

/-- A round of a set. -/
theorem setBody_succ (rounds : Nat) (pending : Option (SetOp × SetTerm)) (items : List SetTerm) :
    setBody (rounds + 1) pending items = (do
      skipSpace
      setStep rounds pending items (← get).rest) := rfl

/-! ## Groups -/

/-- The text opens a look around, which no pattern has. -/
def looksAround (text : List Char) : Bool :=
  [['?', '='], ['?', '!'], ['?', '<', '='], ['?', '<', '!']].any (·.isPrefixOf text)

/-- Pass over the mark of a group that has a name. -/
def nameMark : Reader Bool := do
  if ← eat ['?', 'P', '<'] then return true else eat ['?', '<']

/-- The text may name a group. -/
def isGroupName : List Char → Bool
  | [] => false
  | first :: others => isNameChar true first && others.all (isNameChar false)

/-- A group name, given the text up to its bracket and the names of other groups. -/
def nameGroup (names : List (List Char)) (name : List Char) : Reader Unit := do
  if !isGroupName name || names.contains name then failure
  bump name.length
  if !(← eat ['>']) then failure
  modify fun state => { state with names := name :: state.names }

/-- A group name, in its parts. -/
theorem groupName_eq : groupName = (do
    let state ← get
    nameGroup state.names (state.rest.takeWhile (· != '>'))) := rfl

/-- A group that captures and has a name. -/
def namedCapture : Reader Opening := do
  let capture ← nextCapture
  groupName
  return capture

/-- What flags belong to, given the character after them, which is passed over. -/
def closeFlags (settings : Settings) (close : Option Char) : Reader Opening := do
  bump 1
  if close == some ')' then
    if settings.isEmpty then failure else return .directive settings
  else return .group settings

/-- The flags of a group or directive, with the character after them. -/
def flagged : Reader Opening := do
  let settings ← flags (← rounds) false []
  closeFlags settings (← peek?)

/-- The start of a group, in its parts. -/
theorem opening_eq : opening = (do
    advance
    if looksAround (← get).rest then failure
    if ← nameMark then namedCapture
    else if ← eat ['?'] then flagged
    else nextCapture) := by
  rw [opening]
  refine bind_congr fun _ => bind_congr fun state => ?_
  dsimp only
  rw [looksAround]
  split
  · rfl
  rw [nameMark, bind_assoc]
  refine bind_congr fun isNamed => ?_
  split <;> rfl

/-! ## Repetitions -/

/-- The upper bound of a counted repetition, which is the lower one if there is no comma. -/
def upper (low : Nat) : Reader (Option Nat) := do
  if (← peek?) == some ',' then
    advance
    if (← peek?) == some '\x7d' then return none else some <$> count
  else return some low

/-- The end of a counted repetition, given its bounds. -/
def closeCounts (low : Nat) (high : Option Nat) : Reader (Nat × Option Nat × Bool) := do
  if (← peek?) != some '\x7d' then failure
  advance
  let isLazy ← eat ['?']
  if high.any (· < low) then failure
  return (low, high, !isLazy)

/-- A counted repetition, in its parts. -/
theorem counts_eq : counts = (do
    advance
    let low ← count
    let high ← upper low
    closeCounts low high) := by
  rw [counts]
  refine bind_congr fun _ => bind_congr fun low => ?_
  rw [upper, bind_assoc]
  refine bind_congr fun next => ?_
  dsimp only
  split
  · rw [bind_assoc]
    refine bind_congr fun _ => ?_
    rw [bind_assoc]
    refine bind_congr fun _ => ?_
    split <;> rfl
  · rfl

/-! ## Sequences and alternations -/

/-- What stands in a group, through its closing parenthesis. White space means then what it meant
before the group. -/
def grouped (rounds : Nat) (verbose : Bool) : Reader Term := do
  let inner ← body rounds [] []
  if !(← eat [')']) then failure
  modify fun state => { state with verbose := verbose }
  return inner

/-- The part that an opening begins, with the parts after it. -/
def afterOpening (rounds : Nat) (branches parts : List Term) (verbose : Bool) :
    Opening → Reader Term
  | .directive settings => do
      modify fun state => { state with verbose := verboseIn settings verbose }
      body rounds branches (parts ++ [.flags settings])
  | .group settings => do
      modify fun state => { state with verbose := verboseIn settings verbose }
      let inner ← grouped rounds verbose
      body rounds branches (parts ++ [.group settings inner])
  | .capture index => do
      let inner ← grouped rounds verbose
      body rounds branches (parts ++ [.capture index inner])

/-- What a pattern goes on with, given the text that is left of it. -/
def bodyStep (rounds : Nat) (branches parts : List Term) : List Char → Reader Term
  | [] => return join branches parts
  | ')' :: _ => return join branches parts
  | '|' :: _ => do
      bump 1
      body rounds (branches ++ [.sequence parts]) []
  | '(' :: _ => do
      let verbose := (← get).verbose
      afterOpening rounds branches parts verbose (← opening)
  | '[' :: _ => do
      let set ← bracketed
      body rounds branches (parts ++ [set])
  | '?' :: _ => do
      bump 1
      let isLazy ← eat ['?']
      body rounds branches (← repeatLast parts 0 (some 1) !isLazy)
  | '*' :: _ => do
      bump 1
      let isLazy ← eat ['?']
      body rounds branches (← repeatLast parts 0 none !isLazy)
  | '+' :: _ => do
      bump 1
      let isLazy ← eat ['?']
      body rounds branches (← repeatLast parts 1 none !isLazy)
  | '\x7b' :: _ => do
      let (low, high, greedy) ← counts
      body rounds branches (← repeatLast parts low high greedy)
  | '\\' :: _ => do
      let single ← escape
      body rounds branches (parts ++ [single.toTerm])
  | '.' :: _ => do
      bump 1
      body rounds branches (parts ++ [.dot])
  | '^' :: _ => do
      bump 1
      body rounds branches (parts ++ [.assertion .lineStart])
  | '$' :: _ => do
      bump 1
      body rounds branches (parts ++ [.assertion .lineEnd])
  | c :: _ => do
      bump 1
      body rounds branches (parts ++ [.char c])

/-- A round of a pattern. -/
theorem body_succ (rounds : Nat) (branches parts : List Term) :
    body (rounds + 1) branches parts = (do
      skipSpace
      bodyStep rounds branches parts (← get).rest) := by
  rw [body]
  refine bind_congr fun _ => bind_congr fun state => ?_
  have hgroup (verbose : Bool) (group : Term → Term) : (do
      let inner ← body rounds [] []
      if !(← eat [')']) then failure
      modify fun state => { state with verbose := verbose }
      body rounds branches (parts ++ [group inner])) = (do
      let inner ← grouped rounds verbose
      body rounds branches (parts ++ [group inner])) := by
    rw [grouped, bind_assoc]
    refine bind_congr fun inner => ?_
    rw [bind_assoc]
    refine bind_congr fun closes => ?_
    dsimp only
    split <;> rfl
  generalize state.rest = text
  split
  -- Only groups are put together in another way.
  case h_4 =>
    refine bind_congr fun state => bind_congr fun opening => ?_
    cases opening with
    | directive settings => rfl
    | group settings => exact bind_congr fun _ => hgroup _ (.group settings)
    | capture index => exact hgroup _ (.capture index)
  case h_14 => simp only [bodyStep]
  all_goals rfl

end TokenTree.Pattern.Reader
