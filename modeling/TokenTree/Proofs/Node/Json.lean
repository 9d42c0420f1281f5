import TokenTree.Node.Json
import TokenTree.Proofs.Dispatch.Leafwise
import TokenTree.Proofs.Node.Rendering
import TokenTree.Proofs.Text.Json

/-!
# Nodes are told apart by their JSON

A node is written as an object: first its kind or tag, which a branch may not have, then the value
of a leaf or the children of a branch. The first characters of a member tell which one it is, and
each part tells where it ends, so nodes that are written alike are the same up to what is not
written: whether a value is a text or a symbol (`Node.json_eq_iff`).
-/

namespace TokenTree

open Text (jsonString jsonString_append_inj append_delimiter_inj append_ne_of_incomparable)

variable {rest rest' : List Char}

/-! ## Symbols as texts -/

/-- The value with a text in place of a symbol. -/
def Value.textual : Value → Value
  | .symbol name => .text name.name
  | value => value

/-- The token with a text in place of a symbol. -/
def Token.textual (token : Token) : Token := ⟨token.kind, token.value.map Value.textual⟩

namespace Node

/-- The node with a text in place of each symbol. -/
def textual (node : Node) : Node := node.mapLeaves Token.textual

/-- The nodes with a text in place of each symbol. -/
def textualAll (nodes : List Node) : List Node := mapLeavesAll Token.textual nodes

@[simp] theorem textual_leaf (token : Token) : (leaf token).textual = .leaf token.textual := rfl

@[simp] theorem textual_branch (tag : Option Kind) (children : List Node) :
    (branch tag children).textual = .branch tag (textualAll children) := rfl

@[simp] theorem textualAll_nil : textualAll [] = [] := rfl

@[simp] theorem textualAll_cons (node : Node) (nodes : List Node) :
    textualAll (node :: nodes) = node.textual :: textualAll nodes := rfl

end Node

/-! ## Values -/

namespace Value

/-- A text and a symbol are written alike. -/
theorem json_textual (value : Value) : value.textual.json = value.json := by
  cases value <;> rfl

/-- A value is written as a string or as a number. -/
theorem textual_cases (value : Value) :
    (∃ content, value.textual = .text content ∧ value.json = jsonString content) ∨
      ∃ number, value.textual = .int number ∧ value.json = toString number := by
  cases value with
  | text content => exact .inl ⟨content, rfl, rfl⟩
  | int number => exact .inr ⟨number, rfl, rfl⟩
  | symbol name => exact .inl ⟨name.name, rfl, rfl⟩

/-- A string is not taken for a number. -/
theorem jsonString_append_ne_toString (content : String) (number : Int) :
    (jsonString content).toList ++ rest ≠ (toString number).toList ++ rest' := by
  intro hsame
  obtain ⟨first, others, hnumber, hfirst⟩ := exists_cons_toString number
  rw [hnumber, jsonString, String.toList_ofList] at hsame
  obtain rfl : '"' = first := (List.cons.inj hsame).1
  contradiction

/-- Values are told apart by what is written for them, up to the brace behind it. -/
theorem json_append_inj {left right : Value}
    (hsame : left.json.toList ++ '\x7d' :: rest = right.json.toList ++ '\x7d' :: rest') :
    left.textual = right.textual ∧ rest = rest' := by
  obtain ⟨content, hleft, hjson⟩ | ⟨number, hleft, hjson⟩ := left.textual_cases
  · obtain ⟨content', hright, hjson'⟩ | ⟨number', hright, hjson'⟩ := right.textual_cases
    · rw [hjson, hjson'] at hsame
      obtain ⟨rfl, hrest⟩ := jsonString_append_inj hsame
      exact ⟨hleft.trans hright.symm, List.tail_eq_of_cons_eq hrest⟩
    · rw [hjson, hjson'] at hsame
      exact absurd hsame (jsonString_append_ne_toString content number')
  · obtain ⟨content', hright, hjson'⟩ | ⟨number', hright, hjson'⟩ := right.textual_cases
    · rw [hjson, hjson'] at hsame
      exact absurd hsame.symm (jsonString_append_ne_toString content' number)
    · rw [hjson, hjson'] at hsame
      have hnot : ∀ number : Int, '\x7d' ∉ (toString number).toList := not_mem_toString rfl
      obtain ⟨hnumber, hrest⟩ := append_delimiter_inj (hnot number) (hnot number') hsame
      rw [hleft, hright, Int.repr_inj.1 (String.toList_inj.1 hnumber)]
      exact ⟨rfl, hrest⟩

end Value

/-! ## Tokens -/

namespace Token

/-- A token without a value is written as its kind. -/
theorem json_mk_none (kind : Kind) :
    (⟨kind, none⟩ : Token).json = "\x7b\"kind\":" ++ jsonString kind.name ++ "\x7d" := by
  show "\x7b\"kind\":" ++ jsonString kind.name ++ "" ++ "\x7d" = _
  rw [String.append_empty]

/-- A token with a value is written as its kind and its value. -/
theorem json_mk_some (kind : Kind) (value : Value) :
    (⟨kind, some value⟩ : Token).json =
      "\x7b\"kind\":" ++ jsonString kind.name ++ (",\"value\":" ++ value.json) ++ "\x7d" := rfl

/-- A token is written with a text in place of a symbol. -/
theorem json_textual (token : Token) : token.textual.json = token.json := by
  obtain ⟨kind, _ | value⟩ := token
  · rfl
  · rw [textual, Option.map_some, json_mk_some, json_mk_some, value.json_textual]

end Token

/-! ## Nodes -/

namespace Node

variable {left right : Node} {lefts rights : List Node}

/-- The member for the kind or tag of a node. -/
def kindMember (node : Node) : String :=
  node.kind?.elim "" fun kind => "\"kind\":" ++ jsonString kind.name

/-- What is written behind the kind or tag of a node. -/
def otherMembers : Node → String
  | .leaf ⟨_, none⟩ => "\x7d"
  | .leaf ⟨_, some value⟩ => ",\"value\":" ++ value.json ++ "\x7d"
  | .branch none children => "\"children\":[" ++ jsonAll children ++ "]\x7d"
  | .branch (some _) children => ",\"children\":[" ++ jsonAll children ++ "]\x7d"

/-- What is written of the nodes behind one of them. -/
def jsonBehind : List Node → String
  | [] => ""
  | node :: rest => "," ++ jsonAll (node :: rest)

/-- A node is written as its kind or tag and its other members. -/
theorem json_eq (node : Node) : node.json = "\x7b" ++ (node.kindMember ++ node.otherMembers) := by
  have hkind : "\x7b\"kind\":" = "\x7b" ++ "\"kind\":" := by decide
  have hchildren : ",\"children\":[" = "," ++ "\"children\":[" := by decide
  obtain ⟨kind, _ | value⟩ | ⟨_ | tag, children⟩ := node
  · rw [json, Token.json_mk_none]
    simp only [hkind, kindMember, kind?, otherMembers, Option.elim, String.append_assoc]
  · rw [json, Token.json_mk_some]
    simp only [hkind, kindMember, kind?, otherMembers, Option.elim, String.append_assoc]
  all_goals
    simp only [json, kindMember, kind?, otherMembers, hchildren, Option.elim, String.append_assoc]

/-- Nodes are written one by one. -/
theorem jsonAll_cons (node : Node) (nodes : List Node) :
    jsonAll (node :: nodes) = node.json ++ jsonBehind nodes := by
  cases nodes with
  | nil => rw [jsonAll, jsonBehind, String.append_empty]
  | cons => simp only [jsonAll, jsonBehind, String.append_assoc]

/-- A node is an object. -/
theorem toList_json (node : Node) :
    node.json.toList = '\x7b' :: (node.kindMember.toList ++ node.otherMembers.toList) := by
  rw [json_eq, String.toList_append, String.toList_append]
  rfl

/-- Without a kind or tag the children come first. -/
theorem exists_otherMembers_eq {node : Node} (hkind : node.kind? = none) :
    ∃ behind, node.otherMembers = "\"children\":[" ++ behind := by
  obtain token | ⟨_ | tag, children⟩ := node
  · contradiction
  · exact ⟨_, by rw [otherMembers, String.append_assoc]⟩
  · contradiction

/-- The kind is not taken for the children. -/
theorem kindMember_append_ne (hleft : left.kind? = none) {kind : Kind}
    (hright : right.kind? = some kind) :
    left.kindMember.toList ++ (left.otherMembers.toList ++ rest) ≠
      right.kindMember.toList ++ (right.otherMembers.toList ++ rest') := by
  obtain ⟨behind, hbehind⟩ := exists_otherMembers_eq hleft
  rw [kindMember, hleft, kindMember, hright, hbehind]
  simp only [Option.elim, String.toList_empty, List.nil_append, String.toList_append,
    List.append_assoc]
  exact append_ne_of_incomparable (by decide) (by decide)

/-- The kind or tag of a node is told before its other members. -/
theorem kindMember_append_inj
    (hsame : left.kindMember.toList ++ (left.otherMembers.toList ++ rest) =
      right.kindMember.toList ++ (right.otherMembers.toList ++ rest')) :
    left.kind? = right.kind? ∧
      left.otherMembers.toList ++ rest = right.otherMembers.toList ++ rest' := by
  cases hleft : left.kind? with
  | none =>
      cases hright : right.kind? with
      | none =>
          rw [kindMember, kindMember, hleft, hright] at hsame
          exact ⟨rfl, hsame⟩
      | some kind => exact absurd hsame (kindMember_append_ne hleft hright)
  | some kind =>
      cases hright : right.kind? with
      | none => exact absurd hsame.symm (kindMember_append_ne hright hleft)
      | some kind' =>
          rw [kindMember, kindMember, hleft, hright] at hsame
          simp only [Option.elim, String.toList_append, List.append_assoc] at hsame
          obtain ⟨hname, hothers⟩ := jsonString_append_inj (List.append_cancel_left hsame)
          exact ⟨congrArg some (Kind.mk.injEq _ _ ▸ hname), hothers⟩

/-- Leaves of one kind are told apart by their values. -/
theorem leaf_append_inj {kind : Kind} {value value' : Option Value}
    (hsame : (leaf ⟨kind, value⟩).otherMembers.toList ++ rest =
      (leaf ⟨kind, value'⟩).otherMembers.toList ++ rest') :
    value.map Value.textual = value'.map Value.textual ∧ rest = rest' := by
  cases value with
  | none =>
      cases value' with
      | none => exact ⟨rfl, List.append_cancel_left hsame⟩
      | some value' =>
          simp only [otherMembers, String.toList_append, List.append_assoc] at hsame
          exact absurd hsame (append_ne_of_incomparable (by decide) (by decide))
  | some value =>
      cases value' with
      | none =>
          simp only [otherMembers, String.toList_append, List.append_assoc] at hsame
          exact absurd hsame (append_ne_of_incomparable (by decide) (by decide))
      | some value' =>
          simp only [otherMembers, String.toList_append, List.append_assoc] at hsame
          obtain ⟨hvalue, hrest⟩ := Value.json_append_inj (List.append_cancel_left hsame)
          exact ⟨congrArg some hvalue, hrest⟩

/-- A leaf is not taken for a branch with its kind as the tag. -/
theorem leaf_append_ne_branch (token : Token) (tag : Kind) (children : List Node) :
    (leaf token).otherMembers.toList ++ rest ≠
      (branch (some tag) children).otherMembers.toList ++ rest' := by
  obtain ⟨kind, _ | value⟩ := token <;>
    simp only [otherMembers, String.toList_append, List.append_assoc] <;>
    exact append_ne_of_incomparable (by decide) (by decide)

/-- Branches with one tag are told apart by their children. -/
theorem of_branch_append_eq {tag : Option Kind} {children children' : List Node}
    (hsame : (branch tag children).otherMembers.toList ++ rest =
      (branch tag children').otherMembers.toList ++ rest') :
    (jsonAll children).toList ++ ']' :: '\x7d' :: rest =
      (jsonAll children').toList ++ ']' :: '\x7d' :: rest' := by
  cases tag <;>
    simp only [otherMembers, String.toList_append, List.append_assoc] at hsame <;>
    exact List.append_cancel_left hsame

/-- A bracket is not taken for a node. -/
theorem jsonAll_append_ne_close (node : Node) (nodes : List Node) :
    ']' :: rest ≠ (jsonAll (node :: nodes)).toList ++ rest' := by
  intro hsame
  rw [jsonAll_cons, String.toList_append, toList_json] at hsame
  exact absurd (List.cons.inj hsame).1 (by decide)

/-- A comma tells that there are more nodes. -/
theorem jsonAll_of_jsonBehind
    (hsame : (jsonBehind lefts).toList ++ ']' :: rest =
      (jsonBehind rights).toList ++ ']' :: rest') :
    (jsonAll lefts).toList ++ ']' :: rest = (jsonAll rights).toList ++ ']' :: rest' := by
  cases lefts with
  | nil =>
      cases rights with
      | nil => exact hsame
      | cons right rights =>
          rw [jsonBehind, jsonBehind, String.toList_append] at hsame
          exact absurd (List.cons.inj hsame).1 (by decide)
  | cons left lefts =>
      cases rights with
      | nil =>
          rw [jsonBehind, jsonBehind, String.toList_append] at hsame
          exact absurd (List.cons.inj hsame).1 (by decide)
      | cons right rights =>
          rw [jsonBehind, jsonBehind, String.toList_append, String.toList_append] at hsame
          exact (List.cons.inj hsame).2

mutual
/-- Nodes are told apart by their JSON, whatever stands behind it. -/
theorem json_append_inj (left : Node) {right : Node} {rest rest' : List Char}
    (hsame : left.json.toList ++ rest = right.json.toList ++ rest') :
    left.textual = right.textual ∧ rest = rest' := by
  simp only [toList_json, List.cons_append, List.append_assoc, List.cons.injEq, true_and] at hsame
  -- Behind one kind or tag, the other members tell a leaf from a branch and hold what is left.
  obtain ⟨hkind, hothers⟩ := kindMember_append_inj hsame
  cases left with
  | leaf token =>
      obtain ⟨kind, value⟩ := token
      cases right with
      | leaf token' =>
          obtain ⟨kind', value'⟩ := token'
          obtain rfl := Option.some.inj hkind
          obtain ⟨hvalue, hrest⟩ := leaf_append_inj hothers
          rw [textual_leaf, textual_leaf, Token.textual, Token.textual, hvalue]
          exact ⟨rfl, hrest⟩
      | branch tag children =>
          obtain rfl : some kind = tag := hkind
          exact absurd hothers (leaf_append_ne_branch _ kind children)
  | branch tag children =>
      cases right with
      | leaf token =>
          obtain rfl : tag = some token.kind := hkind
          exact absurd hothers.symm (leaf_append_ne_branch token _ children)
      | branch tag' children' =>
          obtain rfl : tag = tag' := hkind
          obtain ⟨hchildren, hrest⟩ := jsonAll_append_inj children (of_branch_append_eq hothers)
          rw [textual_branch, textual_branch, hchildren]
          exact ⟨rfl, List.tail_eq_of_cons_eq hrest⟩

/-- Children are told apart by their JSON, whatever stands behind the bracket. -/
theorem jsonAll_append_inj (lefts : List Node) {rights : List Node} {rest rest' : List Char}
    (hsame : (jsonAll lefts).toList ++ ']' :: rest = (jsonAll rights).toList ++ ']' :: rest') :
    textualAll lefts = textualAll rights ∧ rest = rest' := by
  cases lefts with
  | nil =>
      cases rights with
      | nil => exact ⟨rfl, List.tail_eq_of_cons_eq hsame⟩
      | cons right rights => exact absurd hsame (jsonAll_append_ne_close right rights)
  | cons left lefts =>
      cases rights with
      | nil => exact absurd hsame.symm (jsonAll_append_ne_close left lefts)
      | cons right rights =>
          simp only [jsonAll_cons, String.toList_append, List.append_assoc] at hsame
          obtain ⟨hnode, hbehind⟩ := json_append_inj left hsame
          obtain ⟨hnodes, hrest⟩ := jsonAll_append_inj lefts (jsonAll_of_jsonBehind hbehind)
          rw [textualAll_cons, textualAll_cons, hnode, hnodes]
          exact ⟨rfl, hrest⟩
end

mutual
/-- A node is written with texts in place of its symbols. -/
theorem json_textual : ∀ node : Node, node.textual.json = node.json
  | .leaf token => by rw [textual_leaf, json, json, token.json_textual]
  | .branch tag children => by simp only [textual_branch, json, jsonAll_textualAll children]

/-- Nodes are written with texts in place of their symbols. -/
theorem jsonAll_textualAll : ∀ nodes : List Node, jsonAll (textualAll nodes) = jsonAll nodes
  | [] => rfl
  | [node] => by rw [textualAll_cons, textualAll_nil, jsonAll, jsonAll, json_textual node]
  | node :: next :: rest => by
      have hrest := jsonAll_textualAll (next :: rest)
      rw [textualAll_cons] at hrest
      rw [textualAll_cons, textualAll_cons, jsonAll, jsonAll, json_textual node, hrest]
end

/-- Nodes have the same JSON exactly if they are the same with texts in place of symbols. -/
theorem json_eq_iff (left right : Node) :
    left.json = right.json ↔ left.textual = right.textual := by
  constructor
  · intro hsame
    exact (json_append_inj left (congrArg (·.toList ++ []) hsame)).1
  · intro hsame
    rw [← json_textual left, hsame, json_textual]

/-- The one thing that is lost is whether a value is a symbol or a text. -/
example : (leaf (.of ⟨"op"⟩ (.symbol ⟨"+"⟩))).json = (leaf (.of ⟨"op"⟩ (.text "+"))).json := rfl

end Node

end TokenTree
