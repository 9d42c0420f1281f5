import TokenTree.Text.Word

/-!
# Regular expressions in normal form

What a pattern means, with flags and case worked out. The functions `Expr.set`, `Expr.sequence`,
`Expr.alternate` and `Expr.repeated` build expressions in a normal form: literals that touch are
joined, nested sequences and alternations are flat, an alternation of single characters is a set,
and branches that all begin with the same parts share them. The last rule decides which match is
preferred: a shared part is matched once, with its own preference, before the branches are tried.
-/

namespace TokenTree.Pattern

open Text (CharSet)

/-- A condition on the characters around a place. Those on words know ASCII words only, or all. -/
inductive Look where
  | textStart
  | textEnd
  | lineStart (crlf : Bool)
  | lineEnd (crlf : Bool)
  | boundary (ascii : Bool)
  | notBoundary (ascii : Bool)
  | wordStart (ascii : Bool)
  | wordEnd (ascii : Bool)
  | wordStartHalf (ascii : Bool)
  | wordEndHalf (ascii : Bool)
deriving DecidableEq

namespace Look

/-- The neighbour is there and is a word character. -/
def isWordAt (ascii : Bool) : Option Char → Bool
  | some c => if ascii then c.isAlphanum || c == '_' else Text.isWord c
  | none => false

/-- The condition holds between the two neighbours, either of which may be missing. -/
def holds (before after : Option Char) : Look → Bool
  | textStart => before.isNone
  | textEnd => after.isNone
  | lineStart false => before.isNone || before == some '\n'
  | lineEnd false => after.isNone || after == some '\n'
  | lineStart true =>
      before.isNone || before == some '\n' || (before == some '\r' && after != some '\n')
  | lineEnd true =>
      after.isNone || after == some '\r' || (after == some '\n' && before != some '\r')
  | boundary ascii => isWordAt ascii before != isWordAt ascii after
  | notBoundary ascii => isWordAt ascii before == isWordAt ascii after
  | wordStart ascii => !isWordAt ascii before && isWordAt ascii after
  | wordEnd ascii => isWordAt ascii before && !isWordAt ascii after
  | wordStartHalf ascii => !isWordAt ascii before
  | wordEndHalf ascii => !isWordAt ascii after

end Look

/-- A regular expression. -/
inductive Expr where
  | empty
  | literal (content : List Char)
  /-- One character of a set; of the empty set, no text matches. -/
  | oneOf (set : CharSet)
  | look (look : Look)
  | repetition (low : Nat) (high : Option Nat) (greedy : Bool) (body : Expr)
  | capture (index : Nat) (body : Expr)
  | concat (parts : List Expr)
  | alternation (branches : List Expr)

namespace Expr

/-! ## Lengths of matches, in bytes -/

/-- The smallest number of bytes of a member of a set. -/
def minBytes? (set : CharSet) : Option Nat :=
  set.ranges.head?.map fun (low, _) => (Char.ofNat low).utf8Size

mutual
/-- A lower bound for the bytes of a match, if one is known. -/
def minLength? : Expr → Option Nat
  | .empty | .look _ => some 0
  | .literal content => some ((content.map Char.utf8Size).sum)
  | .oneOf set => minBytes? set
  | .repetition low _ _ body => (minLength? body).map (low * ·)
  | .capture _ body => minLength? body
  | .concat parts => minSum? parts
  | .alternation branches => minLeast? branches

/-- The sum of the lower bounds. -/
def minSum? : List Expr → Option Nat
  | [] => some 0
  | part :: rest => do return (← minLength? part) + (← minSum? rest)

/-- The least of the lower bounds. -/
def minLeast? : List Expr → Option Nat
  | [] => none
  | [branch] => minLength? branch
  | branch :: next :: rest => do return min (← minLength? branch) (← minLeast? (next :: rest))
end

mutual
/-- Only the empty text can match. -/
def isBlankOnly : Expr → Bool
  | .empty | .look _ => true
  | .literal content => content.isEmpty
  | .oneOf _ => false
  | .repetition _ high _ body => high == some 0 || isBlankOnly body
  | .capture _ body => isBlankOnly body
  | .concat parts => areBlankOnly parts
  | .alternation branches => areBlankOnly branches

/-- Only the empty text can match any of them. -/
def areBlankOnly : List Expr → Bool
  | [] => true
  | expr :: rest => isBlankOnly expr && areBlankOnly rest
end

mutual
/-- Every match begins where the text begins. -/
def isAnchored : Expr → Bool
  | .look .textStart => true
  | .repetition low _ _ body => 0 < low && isAnchored body
  | .capture _ body => isAnchored body
  | .concat (part :: _) => isAnchored part
  | .alternation branches => areAnchored branches
  | _ => false

/-- Every match of any of them begins where the text begins. -/
def areAnchored : List Expr → Bool
  | [] => true
  | expr :: rest => isAnchored expr && areAnchored rest
end

mutual
/-- The expressions are equal. -/
def same : Expr → Expr → Bool
  | .empty, .empty => true
  | .literal left, .literal right => left = right
  | .oneOf left, .oneOf right => left = right
  | .look left, .look right => left = right
  | .repetition low high greedy left, .repetition low' high' greedy' right =>
      low = low' && high = high' && greedy = greedy' && same left right
  | .capture index left, .capture index' right => index = index' && same left right
  | .concat lefts, .concat rights => sameAll lefts rights
  | .alternation lefts, .alternation rights => sameAll lefts rights
  | _, _ => false

/-- The lists of expressions are equal. -/
def sameAll : List Expr → List Expr → Bool
  | [], [] => true
  | left :: lefts, right :: rights => same left right && sameAll lefts rights
  | _, _ => false
end

/-! ## Building expressions -/

/-- One character of a set; a set of one character is a literal. -/
def set (chars : CharSet) : Expr :=
  match chars.single? with
  | some c => .literal [c]
  | none => .oneOf chars

/-- The parts of a sequence, which stand for themselves inside a longer one. -/
def parts : Expr → List Expr
  | .empty => []
  | .concat parts => parts
  | expr => [expr]

/-- The branches of an alternation, which stand for themselves inside a larger one. -/
def branches : Expr → List Expr
  | .alternation branches => branches
  | expr => [expr]

/-- Put a part in front of a sequence, joining literals that touch. -/
def prepend : Expr → List Expr → List Expr
  | .literal content, .literal more :: rest => .literal (content ++ more) :: rest
  | part, rest => part :: rest

/-- Expressions one after the other. -/
def sequence (exprs : List Expr) : Expr :=
  match (exprs.flatMap parts).foldr prepend [] with
  | [] => .empty
  | [part] => part
  | parts => .concat parts

/-- The set that an expression matches one character of, if it does nothing else. -/
def asSet? : Expr → Option CharSet
  | .literal [c] => some (.single c)
  | .oneOf set => some set
  | _ => none

/-- The number of leading parts that two sequences share. -/
def sharedWith : List Expr → List Expr → Nat
  | left :: lefts, right :: rights => if same left right then sharedWith lefts rights + 1 else 0
  | _, _ => 0

/-- The parts of every branch, if each of them is a sequence. -/
def sequences? (exprs : List Expr) : Option (List (List Expr)) :=
  exprs.mapM fun expr =>
    match expr with
    | .concat parts => some parts
    | _ => none

/-- The number of leading parts that all the sequences share. -/
def sharedParts : List (List Expr) → Nat
  | [] => 0
  | first :: others => others.foldl (fun shared other => min shared (sharedWith first other))
      first.length

/-- A choice between expressions without regard to what they share, the earlier preferred. -/
def choice (exprs : List Expr) : Expr :=
  match exprs.flatMap branches with
  | [] => .oneOf .empty
  | [branch] => branch
  | branches =>
      match branches.mapM asSet? with
      | some sets => set (sets.foldl CharSet.union .empty)
      | none => .alternation branches

/-- A choice between expressions, the earlier preferred, after the parts that all of them share.
What is left of the branches can share parts again, at most as often as the first one has parts.
-/
def alternateFrom : Nat → List Expr → Expr
  | 0, exprs => choice exprs
  | rounds + 1, exprs =>
      match choice exprs with
      | .alternation branches =>
          match sequences? branches with
          | some lists =>
              let shared := sharedParts lists
              if shared = 0 then .alternation branches
              else
                sequence (lists.headD [] |>.take shared |>.append
                  [alternateFrom rounds (lists.map fun parts => sequence (parts.drop shared))])
          | none => .alternation branches
      | expr => expr

/-- A choice between expressions, the earlier preferred. -/
def alternate (exprs : List Expr) : Expr :=
  let rounds := exprs.foldl (fun rounds expr => rounds + expr.parts.length + 1) 0
  alternateFrom rounds exprs

/-- A repeated expression. Repeating what matches the empty text only is pointless more than once.
-/
def repeated (low : Nat) (high : Option Nat) (greedy : Bool) (body : Expr) : Expr :=
  let (low, high) :=
    if body.isBlankOnly then (min low 1, some (min (high.getD 1) 1)) else (low, high)
  if high = some 0 then .empty
  else if low = 1 ∧ high = some 1 then body
  else .repetition low high greedy body

end Expr

end TokenTree.Pattern
