import TokenTree.Cursor.Request
import TokenTree.Journal

/-!
# Scripts

A script is a program that reads a tree through its cursor: it asks for an operation, goes on with
the answer, may leave entries in the journal, and ends with a value or a cause of failure. It has no
other way to reach the tree, so what holds of every operation holds of every script. A script ends
on every path, because it is an inductive tree of requests.
-/

namespace TokenTree

/-- A program over the cursor of a tree that ends with a value of type `α`. -/
inductive Script (α : Type) where
  | done (result : Except Error α)
  | note (entries : List Entry) (next : Script α)
  | ask (request : Request) (next : request.Answer Node → Script α)

namespace Script

variable {α β : Type}

/-- End with a failure. -/
def fail (cause : Error) : Script α := .done (.error cause)

/-- Ask for an operation and end with its answer. -/
def request (request : Request) : Script (request.Answer Node) :=
  .ask request fun answer => .done (.ok answer)

/-- End as an outcome that needs no cursor. -/
def ofTraced (outcome : Traced Error α) : Script α := .note outcome.journal (.done outcome.result)

/-- Run a second script on the value of the first. -/
def andThen : Script α → (α → Script β) → Script β
  | .done (.ok value), second => second value
  | .done (.error cause), _ => .done (.error cause)
  | .note entries next, second => .note entries (next.andThen second)
  | .ask request next, second => .ask request fun answer => (next answer).andThen second

instance : Monad Script where
  pure value := .done (.ok value)
  bind := andThen

/-- The outcome of a script on a tree, and the tree's cursor afterwards. -/
def run : Script α → Tree → Traced Error (α × Tree)
  | .done (.ok value), tree => pure (value, tree)
  | .done (.error cause), _ => .fail cause
  | .note entries next, tree => (next.run tree).after entries
  | .ask request next, tree =>
      let (answer, tree) := request.run tree
      (next answer).run tree

/-- A script leaves the items alone and does not lead before a floor that the position and the saved
position are above. -/
theorem floor_run {script : Script α} {tree : Tree} {floor : Nat} {value : α} {after : Tree}
    (hpos : floor ≤ tree.pos) (hsaved : ∀ pos, tree.saved = some pos → floor ≤ pos)
    (hlength : floor ≤ tree.length) (hrun : (script.run tree).result = .ok (value, after)) :
    after.items = tree.items ∧ floor ≤ after.pos := by
  induction script generalizing tree with
  | done result =>
      cases result with
      | ok result =>
          simp only [run, Traced.result_pure, Except.ok.injEq, Prod.mk.injEq] at hrun
          obtain ⟨_, rfl⟩ := hrun
          exact ⟨rfl, hpos⟩
      | error cause => simp [run] at hrun
  | note entries next ih =>
      simp only [run, Traced.result_after] at hrun
      exact ih hpos hsaved hlength hrun
  | ask request next ih =>
      simp only [run] at hrun
      have hitems := Request.items_run tree request
      obtain ⟨hp, hs⟩ := Request.floor_run tree request hpos hsaved hlength
      have hl : floor ≤ (request.run tree).2.length := by
        simpa [Cursor.length, hitems] using hlength
      obtain ⟨heq, hle⟩ := ih _ hp hs hl hrun
      exact ⟨heq.trans hitems, hle⟩

end Script

end TokenTree
