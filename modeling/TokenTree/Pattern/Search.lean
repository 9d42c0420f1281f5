import TokenTree.Pattern.Program

/-!
# Searching

A program runs on all its preferences at once, one character at a time. A thread is an instruction
with the places that were remembered on the way to it; the threads stand in order of preference, and
of two threads at one instruction only the preferred one is kept. A thread that accepts ends those
it is preferred to. The match found is the first in the text, and of the matches that begin there
the preferred one.
-/

namespace TokenTree.Pattern

/-- The places remembered so far, by number. -/
abbrev Slots := Array (Option Nat)

/-- An instruction about to run. -/
structure Thread where
  index : Nat
  slots : Slots

/-- The threads at one place of the text, least preferred first, and the instructions passed on the
way to them, as the bits of a number. -/
structure Front where
  seen : Nat
  threads : List Thread

/-- The match of a whole pattern: where it ends, and the places remembered. -/
structure Hit where
  stop : Nat
  slots : Slots

namespace Program

/-- Add the threads that an instruction leads to without matching a character. The bound is one more
than the number of instructions, because every instruction is passed once. -/
def follow (program : Program) (before after : Option Char) (place : Nat) :
    Nat → Front → Nat → Slots → Front
  | 0, front, _, _ => front
  | rounds + 1, front, index, slots =>
      if front.seen.testBit index then front
      else
        let front := { front with seen := front.seen ||| (1 <<< index) }
        match program.insts[index]? with
        | some (.choice targets) =>
            targets.foldl (fun front target =>
              follow program before after place rounds front target slots) front
        | some (.look look next) =>
            if look.holds before after then
              follow program before after place rounds front next slots
            else front
        | some (.save slot next) =>
            follow program before after place rounds front next
              (slots.setIfInBounds slot (some place))
        | some _ => { front with threads := ⟨index, slots⟩ :: front.threads }
        | none => front

/-- The thread has matched the whole pattern. -/
def accepts (program : Program) (thread : Thread) : Bool :=
  match program.insts[thread.index]? with
  | some .accept => true
  | _ => false

/-- The threads after a character, preferred first. -/
def stepOver (program : Program) (threads : List Thread) (c : Char) (after : Option Char)
    (place : Nat) : List Thread :=
  let front := threads.foldl (fun front thread =>
    match program.insts[thread.index]? with
    | some (.step set next) =>
        if set.contains c then
          program.follow (some c) after place (program.insts.size + 1) front next thread.slots
        else front
    | _ => front) ⟨0, []⟩
  front.threads.reverse

/-- Run threads on the text from a place on, given the best match so far. -/
def runThreads (program : Program) : List Char → Nat → List Thread → Option Hit → Option Hit
  | text, place, threads, best =>
      let best := ((threads.find? program.accepts).map fun thread =>
        ⟨place, thread.slots⟩).or best
      let live := threads.takeWhile fun thread => !program.accepts thread
      match text with
      | [] => best
      | c :: rest =>
          if live.isEmpty then best
          else
            runThreads program rest (place + 1)
              (program.stepOver live c rest.head? (place + 1)) best

/-- The preferred match that begins at the given place. -/
def matchAt? (program : Program) (before : Option Char) (text : List Char) (place : Nat) :
    Option Hit :=
  let slots : Slots := Array.replicate (2 * program.groups) none
  let front := program.follow before text.head? place (program.insts.size + 1) ⟨0, []⟩
    program.start slots
  program.runThreads text place front.threads.reverse none

/-- The first match from a place on, with the place where it begins. -/
def searchFrom? (program : Program) (before : Option Char) (text : List Char) (place : Nat) :
    Option (Nat × Hit) :=
  match program.matchAt? before text place with
  | some hit => some (place, hit)
  | none =>
      if program.anchored then none
      else
        match text with
        | [] => none
        | c :: rest => searchFrom? program (some c) rest (place + 1)

end Program

/-- A match in a text: what stands before it, the matched text, and what stands after it, and the
texts of the groups that capture, from the first on. A group that took no part has none. -/
structure Found (text : List Char) where
  before : List Char
  matched : List Char
  after : List Char
  groups : List (Option (List Char))
  split : before ++ matched ++ after = text

/-- The part of a text from one place to another. -/
def slice (text : List Char) (start stop : Nat) : List Char := (text.drop start).take (stop - start)

/-- The match of a program from a place to another. -/
def Found.ofPlaces (text : List Char) (start stop : Nat) (groups : List (Option (List Char))) :
    Found text where
  before := text.take start
  matched := slice text start stop
  after := (text.drop start).drop (stop - start)
  groups := groups
  split := by
    rw [List.append_assoc, slice, List.take_append_drop, List.take_append_drop]

/-- The text of a group. -/
def Hit.group (hit : Hit) (text : List Char) (index : Nat) : Option (List Char) := do
  let start ← hit.slots[2 * index]?.join
  let stop ← hit.slots[2 * index + 1]?.join
  return slice text start stop

/-- The first match in a text, preferred among those that begin at its place. -/
def Program.search? (program : Program) (text : List Char) : Option (Found text) :=
  (program.searchFrom? none text 0).map fun (start, hit) =>
    .ofPlaces text start hit.stop
      ((List.range (program.groups - 1)).map fun index => hit.group text (index + 1))

end TokenTree.Pattern
