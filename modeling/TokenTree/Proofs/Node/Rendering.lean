import Mathlib
import TokenTree.Node
import TokenTree.Proofs.Text.Quoted

/-!
# Rendered nodes are told apart

A node is rendered as a name, which a branch without a tag does not have, and a body behind it: the
value of a leaf or the children of a branch. Where kinds and tags are identifiers and no symbol has
a closing parenthesis in its name, the name ends where the body begins, and the first character of
the body and the one behind it tell what the body is. Therefore readable nodes that are rendered
alike are the same (`Node.render_eq_iff`), and the induction goes over what may stand behind a node
as well.
-/

namespace TokenTree

open Text (stretch_append_inj append_delimiter_inj quoted_append_inj)

variable {rest rest' : List Char}

/-! ## Names -/

/-- A letter or an underscore. -/
def beginsName (c : Char) : Bool := c.isAlpha || c == '_'

/-- A letter, a digit or an underscore. -/
def insideName (c : Char) : Bool := c.isAlphanum || c == '_'

/-- The name begins with a letter or an underscore and goes on with letters, digits and underscores.
-/
def Kind.isIdentifier (kind : Kind) : Bool :=
  match kind.name.toList with
  | [] => false
  | first :: others => beginsName first && others.all insideName

/-- What may begin a name may stand in it. -/
theorem insideName_of_beginsName {c : Char} (hbegins : beginsName c = true) :
    insideName c = true := by
  simp only [beginsName, insideName, Char.isAlphanum, Bool.or_eq_true] at *
  tauto

/-- An identifier is not empty. -/
theorem Kind.exists_cons_name {kind : Kind} (hidentifier : kind.isIdentifier = true) :
    ∃ first others, kind.name.toList = first :: others ∧ beginsName first = true := by
  rw [isIdentifier] at hidentifier
  split at hidentifier
  · contradiction
  · rename_i first others hname
    exact ⟨first, others, hname, (Bool.and_eq_true_iff.1 hidentifier).1⟩

/-- An identifier has characters of one class. -/
theorem Kind.insideName_of_mem {kind : Kind} (hidentifier : kind.isIdentifier = true) :
    ∀ c ∈ kind.name.toList, insideName c = true := by
  rw [isIdentifier] at hidentifier
  split at hidentifier
  · contradiction
  · rename_i first others hname
    obtain ⟨hfirst, hothers⟩ := Bool.and_eq_true_iff.1 hidentifier
    rw [hname, List.forall_mem_cons]
    exact ⟨insideName_of_beginsName hfirst, List.all_eq_true.1 hothers⟩

/-- A kind is what its name is. -/
theorem Kind.name_toList_inj {kind other : Kind} :
    kind.name.toList = other.name.toList ↔ kind = other := by
  rw [String.toList_inj, Kind.mk.injEq]

/-! ## Values -/

namespace Value

/-- No symbol with a closing parenthesis in its name, which would end the value too soon. -/
def isReadable : Value → Bool
  | .symbol name => !name.name.toList.contains ')'
  | _ => true

/-- The character begins what is rendered for a value of this sort. -/
def beginsWith : Value → Char → Bool
  | .text _, c => c == '"'
  | .int _, c => c.isDigit || c == '-'
  | .symbol _, c => c == ':'

/-- An integer is rendered as digits, perhaps behind a minus. -/
theorem isDigit_or_minus_of_mem {number : Int} {c : Char} (hc : c ∈ (toString number).toList) :
    (c.isDigit || c == '-') = true := by
  have hdigits {digits : Nat} (hc : c ∈ digits.repr.toList) : c.isDigit = true := by
    rw [Nat.toList_repr] at hc
    exact Nat.isDigit_of_mem_toDigits (by decide) (by decide) hc
  cases number with
  | ofNat number => exact Bool.or_eq_true_iff.2 (.inl (hdigits hc))
  | negSucc number =>
      have hminus : (toString (Int.negSucc number)).toList = '-' :: (number + 1).repr.toList :=
        String.toList_append
      rw [hminus, List.mem_cons] at hc
      obtain rfl | hc := hc
      · rfl
      · exact Bool.or_eq_true_iff.2 (.inl (hdigits hc))

/-- There is something to an integer. -/
theorem toString_ne_nil (number : Int) : (toString number).toList ≠ [] := by
  cases number with
  | ofNat number =>
      intro hnil
      exact Nat.toDigits_ne_nil (Nat.toList_repr.symm.trans hnil)
  | negSucc number =>
      intro hnil
      exact absurd (String.toList_append.symm.trans hnil) (by simp)

/-- An integer begins with a digit or a minus. -/
theorem exists_cons_toString (number : Int) :
    ∃ first others, (toString number).toList = first :: others ∧
      (first.isDigit || first == '-') = true := by
  obtain ⟨first, others, hdigits⟩ := List.exists_cons_of_ne_nil (toString_ne_nil number)
  exact ⟨first, others, hdigits, isDigit_or_minus_of_mem (hdigits ▸ List.mem_cons_self)⟩

/-- No other character stands in an integer. -/
theorem not_mem_toString {c : Char} (hc : (c.isDigit || c == '-') = false) (number : Int) :
    c ∉ (toString number).toList := by
  intro hmem
  rw [isDigit_or_minus_of_mem hmem] at hc
  contradiction

/-- What is rendered for a value begins as for its sort. -/
theorem exists_cons_render (value : Value) :
    ∃ first others, value.render.toList = first :: others ∧ value.beginsWith first = true := by
  cases value with
  | text content => exact ⟨'"', _, String.toList_ofList, rfl⟩
  | int number => exact exists_cons_toString number
  | symbol name => exact ⟨':', _, String.toList_append, rfl⟩

/-- What is rendered for a value does not begin as a node does, nor with a parenthesis. -/
theorem not_beginsName_of_beginsWith {value : Value} {c : Char}
    (hbegins : value.beginsWith c = true) : beginsName c = false ∧ c ≠ '[' ∧ c ≠ ')' := by
  cases value with
  | text | symbol =>
      obtain rfl := beq_iff_eq.1 hbegins
      decide
  | int number =>
      obtain hdigit | hminus := Bool.or_eq_true_iff.1 hbegins
      · have hnot {other : Char} (hother : other.isDigit = false) : c ≠ other := by
          rintro rfl
          rw [hdigit] at hother
          contradiction
        have halpha : c.isAlpha = false := by
          grind [Char.isDigit, Char.isAlpha, Char.isUpper, Char.isLower]
        rw [beginsName, halpha, Bool.false_or, beq_eq_false_iff_ne]
        exact ⟨hnot rfl, hnot rfl, hnot rfl⟩
      · obtain rfl := beq_iff_eq.1 hminus
        decide

/-- Values are told apart by what is rendered for them, up to the parenthesis behind it. -/
theorem render_append_inj {left right : Value} (hleft : left.isReadable = true)
    (hright : right.isReadable = true)
    (hsame : left.render.toList ++ ')' :: rest = right.render.toList ++ ')' :: rest') :
    left = right ∧ rest = rest' := by
  obtain ⟨first, others, hrender, hfirst⟩ := left.exists_cons_render
  obtain ⟨first', others', hrender', hfirst'⟩ := right.exists_cons_render
  -- Values of different sorts do not begin alike.
  obtain rfl : first = first' := by
    rw [hrender, hrender'] at hsame
    exact (List.cons.inj hsame).1
  cases left with
  | text content =>
      obtain rfl := beq_iff_eq.1 hfirst
      cases right with
      | text content' =>
          obtain ⟨rfl, hrest⟩ := quoted_append_inj hsame
          exact ⟨rfl, List.tail_eq_of_cons_eq hrest⟩
      | int | symbol => exact absurd hfirst' Bool.false_ne_true
  | int number =>
      cases right with
      | int number' =>
          have hnot : ∀ number : Int, ')' ∉ (toString number).toList := not_mem_toString rfl
          obtain ⟨hnumber, hrest⟩ := append_delimiter_inj (hnot number) (hnot number') hsame
          rw [Int.repr_inj.1 (String.toList_inj.1 hnumber)]
          exact ⟨rfl, hrest⟩
      | text | symbol =>
          obtain rfl := beq_iff_eq.1 hfirst'
          exact absurd hfirst Bool.false_ne_true
  | symbol name =>
      obtain rfl := beq_iff_eq.1 hfirst
      cases right with
      | symbol name' =>
          simp only [isReadable, Bool.not_eq_true', List.contains_eq_mem, decide_eq_false_iff_not]
            at hleft hright
          simp only [render, String.toList_append] at hsame
          obtain ⟨hname, hrest⟩ :=
            append_delimiter_inj hleft hright (List.tail_eq_of_cons_eq hsame)
          exact ⟨congrArg symbol (Kind.name_toList_inj.1 hname), hrest⟩
      | text | int => exact absurd hfirst' Bool.false_ne_true

end Value

/-! ## Nodes -/

namespace Node

mutual
/-- Kinds and tags are identifiers, and values are readable. -/
def isReadable : Node → Bool
  | .leaf token => token.kind.isIdentifier && token.value.all Value.isReadable
  | .branch tag children => tag.all Kind.isIdentifier && areReadable children

/-- All of the nodes are readable. -/
def areReadable : List Node → Bool
  | [] => true
  | node :: rest => node.isReadable && areReadable rest
end

/-- The name in front of a node, if it has one. -/
def frontName (node : Node) : List Char := node.kind?.elim [] fun kind => kind.name.toList

/-- A content between two delimiters. -/
def enclosed (opens closes : Char) (content : String) : List Char :=
  opens :: content.toList ++ [closes]

/-- What is rendered of a node behind its name. -/
def body : Node → List Char
  | .leaf ⟨_, none⟩ => []
  | .leaf ⟨_, some value⟩ => enclosed '(' ')' value.render
  | .branch none children => enclosed '[' ']' (renderAll children)
  | .branch (some _) children => enclosed '(' ')' (renderAll children)

/-- What is rendered of the nodes behind one that is not the last. -/
def following : List Node → List Char
  | [] => []
  | nodes => ',' :: ' ' :: (renderAll nodes).toList

/-- A node is rendered as its name and its body. -/
theorem toList_render (node : Node) : node.render.toList = node.frontName ++ node.body := by
  obtain ⟨kind, _ | value⟩ | ⟨_ | tag, children⟩ := node <;>
    simp [render, Token.render, frontName, kind?, body, enclosed]

/-- Nodes are rendered one by one. -/
theorem toList_renderAll_cons (node : Node) (nodes : List Node) :
    (renderAll (node :: nodes)).toList = node.frontName ++ (node.body ++ following nodes) := by
  rw [← List.append_assoc, ← toList_render]
  cases nodes <;> simp [renderAll, following]

/-- Nothing, or a character that may stand behind a node. -/
def Ends (rest : List Char) : Prop := ∀ c ∈ rest.head?, c = ',' ∨ c = ')' ∨ c = ']'

variable {node left right : Node} {nodes lefts rights : List Node} {close : Char}

/-- Behind the opening delimiter stands the content, with the closing one behind it. -/
theorem of_enclosed_append_eq {opens closes : Char} {content content' : String}
    (hsame : enclosed opens closes content ++ rest = enclosed opens closes content' ++ rest') :
    content.toList ++ closes :: rest = content'.toList ++ closes :: rest' := by
  simpa [enclosed] using hsame

/-- The kind or tag of a readable node is an identifier. -/
theorem isIdentifier_of_isReadable (hreadable : node.isReadable = true) :
    ∀ kind ∈ node.kind?, kind.isIdentifier = true := by
  intro kind hkind
  cases node with
  | leaf token =>
      obtain rfl := Option.some.inj hkind
      exact (Bool.and_eq_true_iff.1 hreadable).1
  | branch tag children =>
      obtain rfl : tag = some kind := hkind
      exact (Bool.and_eq_true_iff.1 hreadable).1

/-- What stands behind a name does not go on with it. -/
theorem insideName_head_body (node : Node) (hends : Ends rest) :
    ∀ c ∈ (node.body ++ rest).head?, insideName c = false := by
  obtain ⟨kind, _ | value⟩ | ⟨_ | tag, children⟩ := node
  · intro c hc
    obtain rfl | rfl | rfl := hends c hc <;> rfl
  all_goals
    rintro c ⟨⟩
    rfl

/-- Only a bare leaf has no body before what may stand behind a node. -/
theorem exists_bare_of_ends (hends : Ends rest') (hsame : node.body ++ rest = rest') :
    ∃ kind, node = .leaf (.bare kind) := by
  subst hsame
  obtain ⟨kind, _ | value⟩ | ⟨_ | tag, children⟩ := node
  · exact ⟨kind, rfl⟩
  all_goals
    have hhead := hends _ rfl
    contradiction

/-- The name in front of a readable node has characters of one class. -/
theorem insideName_of_mem_frontName (hreadable : node.isReadable = true) :
    ∀ c ∈ node.frontName, insideName c = true := by
  rw [frontName]
  cases hkind : node.kind? with
  | none => nofun
  | some kind => exact Kind.insideName_of_mem (isIdentifier_of_isReadable hreadable kind hkind)

/-- A readable node with a kind or tag has a name in front. -/
theorem frontName_ne_nil {kind : Kind} (hreadable : node.isReadable = true)
    (hkind : node.kind? = some kind) : node.frontName ≠ [] := by
  obtain ⟨first, others, hname, -⟩ :=
    Kind.exists_cons_name (isIdentifier_of_isReadable hreadable kind hkind)
  rw [frontName, hkind, Option.elim, hname]
  exact List.cons_ne_nil first others

/-- The names in front of readable nodes tell their kinds and tags. -/
theorem kind?_eq_of_frontName_eq (hleft : left.isReadable = true)
    (hright : right.isReadable = true) (hname : left.frontName = right.frontName) :
    left.kind? = right.kind? := by
  have hnone {node : Node} (hkind : node.kind? = none) : node.frontName = [] := by
    rw [frontName, hkind, Option.elim]
  cases hkind : left.kind? with
  | none =>
      cases hkind' : right.kind? with
      | none => rfl
      | some kind' =>
          exact absurd (hname.symm.trans (hnone hkind)) (frontName_ne_nil hright hkind')
  | some kind =>
      cases hkind' : right.kind? with
      | none => exact absurd (hname.trans (hnone hkind')) (frontName_ne_nil hleft hkind)
      | some kind' =>
          rw [frontName, frontName, hkind, hkind'] at hname
          rw [Kind.name_toList_inj.1 hname]

/-- The name of a readable node ends where its body begins. -/
theorem frontName_append_inj (hleft : left.isReadable = true) (hright : right.isReadable = true)
    (hends : Ends rest) (hends' : Ends rest')
    (hsame : left.frontName ++ (left.body ++ rest) = right.frontName ++ (right.body ++ rest')) :
    left.kind? = right.kind? ∧ left.body ++ rest = right.body ++ rest' := by
  obtain ⟨hname, hbody⟩ := stretch_append_inj (insideName_of_mem_frontName hleft)
    (insideName_of_mem_frontName hright) (insideName_head_body left hends)
    (insideName_head_body right hends') hsame
  exact ⟨kind?_eq_of_frontName_eq hleft hright hname, hbody⟩

/-- Readable nodes begin with a name or as a branch without a tag. -/
theorem exists_cons_renderAll (hreadable : areReadable (node :: nodes) = true) :
    ∃ first others, (renderAll (node :: nodes)).toList = first :: others ∧
      (beginsName first = true ∨ first = '[') := by
  have hidentifier := isIdentifier_of_isReadable (Bool.and_eq_true_iff.1 hreadable).1
  rw [toList_renderAll_cons, frontName]
  cases hkind : node.kind? with
  | none =>
      obtain ⟨token⟩ | ⟨tag, children⟩ := node
      · contradiction
      · obtain rfl : tag = none := hkind
        exact ⟨'[', _, rfl, .inr rfl⟩
  | some kind =>
      obtain ⟨first, others, hname, hfirst⟩ := Kind.exists_cons_name (hidentifier kind hkind)
      exact ⟨first, _, by rw [Option.elim, hname, List.cons_append], .inl hfirst⟩

/-- Where the children are over, no readable node stands. -/
theorem renderAll_append_ne_close (hreadable : areReadable (node :: nodes) = true)
    (hclose : close = ')' ∨ close = ']') :
    (renderAll (node :: nodes)).toList ++ rest ≠ close :: rest' := by
  obtain ⟨first, others, hcons, hfirst⟩ := exists_cons_renderAll hreadable
  rw [hcons]
  intro hsame
  obtain rfl := (List.cons.inj hsame).1
  obtain rfl | rfl := hclose <;> obtain hname | hopen := hfirst <;> contradiction

/-- A value is not mistaken for children. -/
theorem render_append_ne_renderAll (value : Value) (hreadable : areReadable nodes = true) :
    value.render.toList ++ ')' :: rest ≠ (renderAll nodes).toList ++ ')' :: rest' := by
  obtain ⟨first, others, hcons, hfirst⟩ := value.exists_cons_render
  obtain ⟨hname, hopen, hclose⟩ := Value.not_beginsName_of_beginsWith hfirst
  rw [hcons]
  intro hsame
  cases nodes with
  | nil => exact hclose (List.cons.inj hsame).1
  | cons node nodes =>
      obtain ⟨first', others', hcons', hfirst'⟩ := exists_cons_renderAll hreadable
      rw [hcons'] at hsame
      obtain rfl := (List.cons.inj hsame).1
      obtain hname' | hopen' := hfirst'
      · rw [hname] at hname'
        contradiction
      · exact hopen hopen'

/-- A comma or the end of the children stands behind a child. -/
theorem ends_following (nodes : List Node) (hclose : close = ')' ∨ close = ']') :
    Ends (following nodes ++ close :: rest) := by
  cases nodes with
  | nil =>
      rintro c ⟨⟩
      exact .inr hclose
  | cons =>
      rintro c ⟨⟩
      exact .inl rfl

/-- A comma tells that there are more children. -/
theorem renderAll_of_following (hclose : close = ')' ∨ close = ']')
    (hsame : following lefts ++ close :: rest = following rights ++ close :: rest') :
    (renderAll lefts).toList ++ close :: rest = (renderAll rights).toList ++ close :: rest' := by
  have hcomma : close ≠ ',' := by
    obtain rfl | rfl := hclose <;> decide
  cases lefts with
  | nil =>
      cases rights with
      | nil => exact hsame
      | cons => exact absurd (List.cons.inj hsame).1 hcomma
  | cons =>
      cases rights with
      | nil => exact absurd (List.cons.inj hsame).1.symm hcomma
      | cons => exact (List.cons.inj (List.cons.inj hsame).2).2

/-- Leaves are told apart from nodes of their kind, whatever stands behind them. -/
theorem leaf_body_append_inj {token : Token} (hleaf : (leaf token).isReadable = true)
    (hright : right.isReadable = true) (hends : Ends rest) (hends' : Ends rest')
    (hkind : (leaf token).kind? = right.kind?)
    (hsame : (leaf token).body ++ rest = right.body ++ rest') :
    leaf token = right ∧ rest = rest' := by
  obtain ⟨hidentifier, hvalue⟩ := Bool.and_eq_true_iff.1 hleaf
  obtain ⟨kind, _ | value⟩ := token
  · obtain ⟨kind', rfl⟩ := exists_bare_of_ends hends hsame.symm
    obtain rfl := Option.some.inj hkind
    exact ⟨rfl, hsame⟩
  · cases right with
    | leaf token' =>
        obtain ⟨hidentifier', hvalue'⟩ := Bool.and_eq_true_iff.1 hright
        obtain ⟨kind', _ | value'⟩ := token'
        · obtain ⟨kind', hbare⟩ := exists_bare_of_ends hends' hsame
          cases hbare
        · obtain rfl := Option.some.inj hkind
          obtain ⟨rfl, hrest⟩ :=
            Value.render_append_inj hvalue hvalue' (of_enclosed_append_eq hsame)
          exact ⟨rfl, hrest⟩
    | branch tag' children' =>
        obtain rfl : some kind = tag' := hkind
        have hchildren' := (Bool.and_eq_true_iff.1 hright).2
        exact absurd (of_enclosed_append_eq hsame) (render_append_ne_renderAll value hchildren')

mutual
/-- Nodes of one kind are told apart by their bodies, whatever stands behind them. -/
theorem body_append_inj (left : Node) {right : Node} {rest rest' : List Char}
    (hleft : left.isReadable = true) (hright : right.isReadable = true) (hends : Ends rest)
    (hends' : Ends rest') (hkind : left.kind? = right.kind?)
    (hsame : left.body ++ rest = right.body ++ rest') : left = right ∧ rest = rest' := by
  cases left with
  | leaf token => exact leaf_body_append_inj hleft hright hends hends' hkind hsame
  | branch tag children =>
      cases right with
      | leaf token' =>
          obtain ⟨hleaf, -⟩ :=
            leaf_body_append_inj hright hleft hends' hends hkind.symm hsame.symm
          cases hleaf
      | branch tag' children' =>
          have hchildren := (Bool.and_eq_true_iff.1 hleft).2
          have hchildren' := (Bool.and_eq_true_iff.1 hright).2
          obtain rfl : tag = tag' := hkind
          cases tag with
          | none =>
              obtain ⟨rfl, hrest⟩ := renderAll_append_inj children hchildren hchildren' (.inr rfl)
                (of_enclosed_append_eq hsame)
              exact ⟨rfl, hrest⟩
          | some tag =>
              obtain ⟨rfl, hrest⟩ := renderAll_append_inj children hchildren hchildren' (.inl rfl)
                (of_enclosed_append_eq hsame)
              exact ⟨rfl, hrest⟩

/-- Children are told apart, whatever stands behind them. -/
theorem renderAll_append_inj (lefts : List Node) {rights : List Node} {close : Char}
    {rest rest' : List Char} (hlefts : areReadable lefts = true)
    (hrights : areReadable rights = true) (hclose : close = ')' ∨ close = ']')
    (hsame : (renderAll lefts).toList ++ close :: rest =
      (renderAll rights).toList ++ close :: rest') :
    lefts = rights ∧ rest = rest' := by
  cases lefts with
  | nil =>
      cases rights with
      | nil => exact ⟨rfl, List.tail_eq_of_cons_eq hsame⟩
      | cons => exact absurd hsame.symm (renderAll_append_ne_close hrights hclose)
  | cons left lefts =>
      cases rights with
      | nil => exact absurd hsame (renderAll_append_ne_close hlefts hclose)
      | cons right rights =>
          obtain ⟨hleft, hlefts'⟩ := Bool.and_eq_true_iff.1 hlefts
          obtain ⟨hright, hrights'⟩ := Bool.and_eq_true_iff.1 hrights
          simp only [toList_renderAll_cons, List.append_assoc] at hsame
          obtain ⟨hkind, hbody⟩ := frontName_append_inj hleft hright
            (ends_following lefts hclose) (ends_following rights hclose) hsame
          obtain ⟨rfl, hfollowing⟩ := body_append_inj left hleft hright
            (ends_following lefts hclose) (ends_following rights hclose) hkind hbody
          obtain ⟨rfl, hrest⟩ := renderAll_append_inj lefts hlefts' hrights' hclose
            (renderAll_of_following hclose hfollowing)
          exact ⟨rfl, hrest⟩
end

/-- Readable nodes that are rendered alike are the same. -/
theorem render_eq_iff (hleft : left.isReadable = true) (hright : right.isReadable = true) :
    left.render = right.render ↔ left = right := by
  constructor
  · intro hsame
    have hends : Ends [] := nofun
    have hparts : left.frontName ++ (left.body ++ []) = right.frontName ++ (right.body ++ []) := by
      rw [List.append_nil, List.append_nil, ← toList_render, ← toList_render, hsame]
    obtain ⟨hkind, hbody⟩ := frontName_append_inj hleft hright hends hends hparts
    exact (body_append_inj left hleft hright hends hends hkind hbody).1
  · rintro rfl
    rfl

/-- What a text looks like in quotes is not mistaken for two leaves. -/
theorem render_list_ne :
    (list [.leaf (.of ⟨"id"⟩ (.text "a\"), id(\"b"))]).render ≠
      (list [.leaf (.of ⟨"id"⟩ (.text "a")), .leaf (.of ⟨"id"⟩ (.text "b"))]).render := by
  rw [ne_eq, render_eq_iff (by decide) (by decide)]
  decide

/-- The name of a symbol must not close the parenthesis. -/
example :
    (list [.leaf (.of ⟨"id"⟩ (.symbol ⟨"a), id(:b"⟩))]).render =
      (list [.leaf (.of ⟨"id"⟩ (.symbol ⟨"a"⟩)), .leaf (.of ⟨"id"⟩ (.symbol ⟨"b"⟩))]).render := by
  decide

end Node

end TokenTree
