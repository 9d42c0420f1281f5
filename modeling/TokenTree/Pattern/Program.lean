import TokenTree.Pattern.Expr

/-!
# Matching programs

A regular expression becomes a program of small instructions that refer to each other by index. A
choice lists the instructions to go on with in order of preference. A repetition of what can match
the empty text is built as an optional loop of at least one round, which keeps the preference right
when a round is empty.
-/

namespace TokenTree.Pattern

open Text (CharSet)

/-- One instruction. -/
inductive Inst where
  /-- Match one character of the set. -/
  | step (set : CharSet) (next : Nat)
  /-- Go on in any of these ways, the earlier preferred. -/
  | choice (targets : List Nat)
  /-- Go on if the condition holds here. -/
  | look (look : Look) (next : Nat)
  /-- Remember the place under a number. -/
  | save (slot next : Nat)
  /-- The whole pattern has matched. -/
  | accept

/-- A program: its instructions, the one to start with, the number of groups that capture, and
whether every match begins where the text begins. -/
structure Program where
  insts : Array Inst
  start : Nat
  groups : Nat
  anchored : Bool

/-- A step of the construction of a program. -/
abbrev Build := StateM (Array Inst)

namespace Build

/-- Add an instruction and give its index. -/
def push (inst : Inst) : Build Nat := modifyGet fun insts => (insts.size, insts.push inst)

/-- Set an instruction that was added before. -/
def replace (index : Nat) (inst : Inst) : Build Unit :=
  modify fun insts => insts.setIfInBounds index inst

/-- Put so many copies in front of an instruction; each copy leads to the one before it. -/
def copies : Nat → (Nat → Build Nat) → Nat → Build Nat
  | 0, _, next => return next
  | count + 1, copy, next => do copies count copy (← copy next)

/-- Try to go on with `first`, or else with `second`; the other way around if not greedy. -/
def prefer (greedy : Bool) (first second : Nat) : Inst :=
  .choice (if greedy then [first, second] else [second, first])

mutual
/-- Add the instructions of an expression in front of an instruction, and give the index of the
first one. -/
def add : Expr → Nat → Build Nat
  | .empty, next => return next
  | .literal content, next =>
      content.foldrM (fun c next => push (.step (.single c) next)) next
  | .oneOf set, next => push (.step set next)
  | .look look, next => push (.look look next)
  | .capture index body, next => do
      let close ← push (.save (2 * index + 1) next)
      let body ← add body close
      push (.save (2 * index) body)
  | .concat parts, next => addAll parts next
  | .alternation branches, next => do push (.choice (← addEach branches next))
  | .repetition low high greedy body, next =>
      match low, high with
      | 0, none => do
          let loop ← push .accept
          let start ← add body loop
          replace loop (prefer greedy start next)
          if (body.minLength?).any (0 < ·) then return loop
          else push (prefer greedy start next)
      | low + 1, none => do
          let loop ← push .accept
          let start ← add body loop
          replace loop (prefer greedy start next)
          copies low (fun next => add body next) start
      | low, some high => do
          let rest ← copies (high - low)
            (fun after => do
              let start ← add body after
              push (prefer greedy start next)) next
          copies low (fun next => add body next) rest

/-- Add the instructions of a sequence. -/
def addAll : List Expr → Nat → Build Nat
  | [], next => return next
  | part :: rest, next => do add part (← addAll rest next)

/-- Add the instructions of every branch of an alternation. -/
def addEach : List Expr → Nat → Build (List Nat)
  | [], _ => return []
  | branch :: rest, next => do
      let start ← add branch next
      return start :: (← addEach rest next)
end

end Build

namespace Expr

mutual
/-- The number of groups that capture: one more than the largest index that is left. -/
def groupCount : Expr → Nat
  | .repetition _ _ _ body => groupCount body
  | .capture index body => max (index + 1) (groupCount body)
  | .concat parts => groupCountAll parts
  | .alternation branches => groupCountAll branches
  | _ => 1

/-- The number of groups in any of several expressions. -/
def groupCountAll : List Expr → Nat
  | [] => 1
  | expr :: rest => max (groupCount expr) (groupCountAll rest)
end

mutual
/-- The size of an expression, in instructions that match one byte. -/
def size : Expr → Nat
  | .empty => 1
  | .literal content => (content.map Char.utf8Size).sum
  | .oneOf set => set.ranges.foldl (fun acc (_, high) => if high < 0x80 then acc else acc + 2) 1
  | .look _ => 1
  | .repetition low high _ body =>
      match high with
      | none => max low 1 * size body + 2
      | some high => low * size body + (high - low) * (size body + 1) + 1
  | .capture _ body => size body + 2
  | .concat parts => sizeAll parts
  | .alternation branches => sizeAll branches + 2

/-- The size of several expressions. -/
def sizeAll : List Expr → Nat
  | [] => 0
  | expr :: rest => size expr + sizeAll rest
end

/-- The largest size of an expression that is accepted. -/
def maxSize : Nat := 327680

/-- The program of an expression that is not too large. -/
def program? (expr : Expr) : Option Program :=
  if expr.size ≤ maxSize then
    let (start, insts) := (do Build.add expr (← Build.push .accept) : Build Nat).run #[]
    some ⟨insts, start, expr.groupCount, expr.isAnchored⟩
  else none

end Expr

end TokenTree.Pattern
