import Mathlib.Data.List.Forall2
import TokenTree.Proofs.Grammar.Slots
import TokenTree.Proofs.Matching.Descent

/-!
# Well nested forests

Where every block has a name and tags its body with it, the pass over a stream is a reader of
forests written with delimiters. `Grammar.flatten` writes a node as tokens, with the open and the
close of a branch's block around its children. The forests that can be read are those of
`Grammar.NestedAll` which are no deeper than the grammar allows: plain leaves, and branches of
blocks that can be opened. `descend_forest` says that such a forest is read off the front of a level
wherever it is written, and `exists_readOff` that whatever is read of a level is such a forest.
-/

namespace TokenTree

/-- The block tags its body with its own name. -/
def Block.TagsByName (block : Block) : Prop :=
  ∃ name, block.name = some name ∧ block.reaction = Block.toTagged name

namespace Grammar

/-- The kind is no delimiter. -/
def Plain (grammar : Grammar) (kind : Kind) : Prop :=
  ∀ block ∈ grammar.blocks, block.opens ≠ kind ∧ block.closes ≠ kind

instance (grammar : Grammar) (kind : Kind) : Decidable (grammar.Plain kind) :=
  inferInstanceAs (Decidable (∀ block ∈ grammar.blocks, block.opens ≠ kind ∧ block.closes ≠ kind))

/-- The block can be opened: its open closes nothing, and no earlier block has the same open. -/
def Openable (grammar : Grammar) (block : Block) : Prop :=
  ¬ grammar.Closes block.opens ∧ grammar.openedBy? block.opens = some block

mutual
/-- The node as tokens, with bare delimiters. A branch that no block has made has none. -/
def flatten (grammar : Grammar) : Node → List Token
  | .leaf token => [token]
  | .branch tag children =>
      match tag.bind grammar.named? with
      | some block => .bare block.opens :: (grammar.flattenAll children ++ [.bare block.closes])
      | none => grammar.flattenAll children

/-- The nodes as tokens, one after the other. -/
def flattenAll (grammar : Grammar) : List Node → List Token
  | [] => []
  | node :: rest => grammar.flatten node ++ grammar.flattenAll rest
end

mutual
/-- The leaves of the node are plain, and its branches have the names of blocks that can be opened.
-/
def Nested (grammar : Grammar) : Node → Prop
  | .leaf token => grammar.Plain token.kind
  | .branch tag children =>
      (∃ block, tag.bind grammar.named? = some block ∧ grammar.Openable block) ∧
        grammar.NestedAll children

/-- All of the nodes are nested so. -/
def NestedAll (grammar : Grammar) : List Node → Prop
  | [] => True
  | node :: rest => grammar.Nested node ∧ grammar.NestedAll rest
end

/-- The tokens read are those written, up to the values of delimiters. -/
def Spells (grammar : Grammar) : List Token → List Token → Prop :=
  List.Forall₂ fun written read =>
    written.kind = read.kind ∧ (grammar.Plain written.kind → written = read)

variable {grammar : Grammar}

/-- Tokens spell themselves. -/
theorem spells_refl (tokens : List Token) : grammar.Spells tokens tokens :=
  List.forall₂_same.2 fun _ _ => ⟨rfl, fun _ => rfl⟩

/-- What spells two texts in a row is in two parts that spell one of them each. -/
theorem spells_append_left {first second used : List Token}
    (hspells : grammar.Spells (first ++ second) used) :
    ∃ left right, used = left ++ right ∧ grammar.Spells first left ∧
      grammar.Spells second right := by
  have hleft := List.forall₂_take first.length hspells
  have hright := List.forall₂_drop first.length hspells
  rw [List.take_left] at hleft
  rw [List.drop_left] at hright
  exact ⟨_, _, (List.take_append_drop first.length used).symm, hleft, hright⟩

/-! ## Kinds of tokens -/

/-- A plain kind closes nothing. -/
theorem Plain.not_closes {kind : Kind} (hplain : grammar.Plain kind) : ¬ grammar.Closes kind := by
  rintro ⟨block, hmem, hcloses⟩
  exact (hplain block hmem).2 hcloses

/-- A plain kind opens nothing. -/
theorem Plain.openedBy?_eq_none {kind : Kind} (hplain : grammar.Plain kind) :
    grammar.openedBy? kind = none := by
  rw [openedBy?, List.find?_eq_none]
  intro block hmem
  simpa using (hplain block hmem).1

/-- A kind that closes and opens nothing is plain. -/
theorem plain_of_openedBy?_eq_none {kind : Kind} (hcloses : ¬ grammar.Closes kind)
    (hopens : grammar.openedBy? kind = none) : grammar.Plain kind := by
  rw [openedBy?, List.find?_eq_none] at hopens
  intro block hmem
  exact ⟨by simpa using hopens block hmem, fun heq => hcloses ⟨block, hmem, heq⟩⟩

/-- The block that a kind opens is one of the grammar's and has the kind as its open. -/
theorem mem_of_openedBy? {kind : Kind} {block : Block}
    (hopens : grammar.openedBy? kind = some block) : block ∈ grammar.blocks ∧ block.opens = kind :=
  ⟨List.mem_of_find?_eq_some hopens, by simpa using List.find?_some hopens⟩

/-- The block of a tag has the tag as its name. -/
theorem name_of_named? {tag : Option Kind} {block : Block}
    (hblock : tag.bind grammar.named? = some block) : block.name = tag := by
  obtain ⟨name, rfl, hname⟩ := Option.bind_eq_some_iff.1 hblock
  simpa using List.find?_some hname

/-- A block that tags by name makes a branch of its body. -/
theorem result_reaction {block : Block} (htags : block.TagsByName) (nodes : List Node) :
    (block.reaction (.ofList nodes)).result = .ok (.branch block.name nodes) := by
  obtain ⟨name, hname, hreaction⟩ := htags
  rw [hreaction, hname]
  rfl

/-! ## Reading what is written -/

mutual
/-- A nested node that is no deeper than allowed is read off the front of a level. -/
theorem descend_node (htags : ∀ block ∈ grammar.blocks, block.TagsByName) (node : Node)
    {used : List Token} (tail : List Token) {depth position : Nat} {inside : Option (Block × Nat)}
    (hnested : grammar.Nested node) (hspells : grammar.Spells (grammar.flatten node) used)
    (hinside : ∀ kind, expected inside = some kind → grammar.Closes kind)
    (hdepth : depth + node.depth ≤ grammar.maxDepth) :
    grammar.descend depth inside (used ++ tail) position = (do
      let level ← grammar.descend depth inside tail (position + used.length)
      return ⟨node :: level.nodes, used.length + level.count⟩) := by
  cases node with
  | leaf token =>
      rw [Nested] at hnested
      rw [flatten, Spells, List.forall₂_cons_left_iff] at hspells
      obtain ⟨read, rest, ⟨-, heq⟩, hrest, rfl⟩ := hspells
      obtain rfl := List.forall₂_nil_left_iff.1 hrest
      obtain rfl := heq hnested
      have hexpected : expected inside ≠ some token.kind :=
        fun h => hnested.not_closes (hinside _ h)
      rw [List.cons_append, List.nil_append,
        descend_leaf hexpected hnested.not_closes hnested.openedBy?_eq_none]
      rfl
  | branch tag children =>
      rw [Nested] at hnested
      obtain ⟨⟨block, hblock, hfree, hfirst⟩, hchildren⟩ := hnested
      have hmem := (mem_of_openedBy? hfirst).1
      rw [flatten, hblock] at hspells
      obtain ⟨opening, others, ⟨hopens, -⟩, hothers, rfl⟩ := List.forall₂_cons_left_iff.1 hspells
      obtain ⟨body, last, rfl, hbody, hlast⟩ := spells_append_left hothers
      obtain ⟨closing, nothing, ⟨hcloses, -⟩, hnothing, rfl⟩ := List.forall₂_cons_left_iff.1 hlast
      obtain rfl := List.forall₂_nil_left_iff.1 hnothing
      -- The block is openable by its own open, which is the kind that the stream has here.
      rw [show block.opens = opening.kind from hopens] at hfree hfirst
      have hexpected : expected inside ≠ some opening.kind := fun h => hfree (hinside _ h)
      have hclosing : expected (some (block, position)) = some closing.kind :=
        congrArg some hcloses
      rw [Node.depth] at hdepth
      have hinner : grammar.descend (depth + 1) (some (block, position)) (body ++ closing :: tail)
          (position + 1) = .ok ⟨children, body.length + 1⟩ := by
        rw [descend_forest htags children (closing :: tail) hchildren hbody ?_ (by omega),
          descend_close hclosing, ok_bind, List.append_nil]
        · rfl
        · intro kind hkind
          exact ⟨block, hmem, by simpa using hkind⟩
      have hdrop : (body ++ closing :: tail).drop (body.length + 1) = tail := by
        rw [List.drop_append]
        simp
      have hlength : (opening :: (body ++ [closing])).length = 1 + (body.length + 1) := by
        simp only [List.length_cons, List.length_append, List.length_nil]
        omega
      rw [List.cons_append, List.append_assoc, List.singleton_append,
        descend_block hexpected hfree hfirst (by omega), hinner, ok_bind,
        result_reaction (htags block hmem), ok_bind, hdrop, name_of_named? hblock, hlength,
        Nat.add_assoc]

/-- A nested forest that is no deeper than allowed is read off the front of a level. -/
theorem descend_forest (htags : ∀ block ∈ grammar.blocks, block.TagsByName) (forest : List Node)
    {used : List Token} (tail : List Token) {depth position : Nat} {inside : Option (Block × Nat)}
    (hnested : grammar.NestedAll forest) (hspells : grammar.Spells (grammar.flattenAll forest) used)
    (hinside : ∀ kind, expected inside = some kind → grammar.Closes kind)
    (hdepth : depth + Node.depthAll forest ≤ grammar.maxDepth) :
    grammar.descend depth inside (used ++ tail) position = (do
      let level ← grammar.descend depth inside tail (position + used.length)
      return ⟨forest ++ level.nodes, used.length + level.count⟩) := by
  cases forest with
  | nil =>
      obtain rfl := List.forall₂_nil_left_iff.1 hspells
      simp
  | cons node rest =>
      rw [NestedAll] at hnested
      rw [flattenAll] at hspells
      rw [Node.depthAll] at hdepth
      obtain ⟨first, others, rfl, hfirst, hothers⟩ := spells_append_left hspells
      rw [List.append_assoc, descend_node htags node _ hnested.1 hfirst hinside (by omega),
        descend_forest htags rest tail hnested.2 hothers hinside (by omega), bind_assoc,
        List.length_append, Nat.add_assoc]
      refine bind_congr fun level => ?_
      rw [pure_bind, List.cons_append, Nat.add_assoc]
end

/-! ## Writing what is read -/

/-- The level was read off tokens that spell its nodes, up to its close: the nodes are nested and no
deeper than allowed, and nothing is left of a stream. -/
structure ReadOff (grammar : Grammar) (depth : Nat) (inside : Option (Block × Nat))
    (level : Stretch) (used closing tail : List Token) : Prop where
  spells : grammar.Spells (grammar.flattenAll level.nodes) used
  nested : grammar.NestedAll level.nodes
  depth_le : depth + Node.depthAll level.nodes ≤ grammar.maxDepth
  closing_kinds : closing.map Token.kind = (expected inside).toList
  count_eq : level.count = used.length + closing.length
  tail_eq : inside = none → tail = []

variable {depth : Nat} {inside : Option (Block × Nat)} {level : Stretch}
  {used closing tail : List Token}

/-- Before the close of a level, or the end of the stream, nothing is read. -/
theorem readOff_nil (closing : List Token) (hdepth : depth ≤ grammar.maxDepth)
    (hclosing : closing.map Token.kind = (expected inside).toList)
    (htail : inside = none → tail = []) :
    grammar.ReadOff depth inside ⟨[], closing.length⟩ [] closing tail where
  spells := .nil
  nested := trivial
  depth_le := hdepth
  closing_kinds := hclosing
  count_eq := (Nat.zero_add _).symm
  tail_eq := htail

/-- A plain token before what is read of a level is a leaf before its nodes. -/
theorem readOff_leaf {token : Token} (hplain : grammar.Plain token.kind)
    (hread : grammar.ReadOff depth inside level used closing tail) :
    grammar.ReadOff depth inside ⟨.leaf token :: level.nodes, 1 + level.count⟩ (token :: used)
      closing tail where
  spells := by
    rw [flattenAll, flatten, List.singleton_append]
    exact .cons ⟨rfl, fun _ => rfl⟩ hread.spells
  nested := by
    rw [NestedAll, Nested]
    exact ⟨hplain, hread.nested⟩
  depth_le := by
    rw [Node.depthAll, Node.depth, Nat.zero_max]
    exact hread.depth_le
  closing_kinds := hread.closing_kinds
  count_eq := by
    show 1 + level.count = _
    rw [hread.count_eq, List.length_cons]
    omega
  tail_eq := hread.tail_eq

/-- A delimiter is no plain token, so only its kind has to be spelled. -/
theorem spells_delimiter {kind : Kind} {token : Token} {written used : List Token}
    (hplain : ¬ grammar.Plain kind) (hkind : kind = token.kind)
    (hspells : grammar.Spells written used) :
    grammar.Spells (.bare kind :: written) (token :: used) :=
  .cons ⟨hkind, fun h => absurd h hplain⟩ hspells

/-- A block before what is read of a level is a branch before its nodes. -/
theorem readOff_block (hslotted : grammar.Slotted) {block : Block} (htags : block.TagsByName)
    {opening : Token} {position : Nat} {body : Stretch} {within close : List Token}
    (hcloses : ¬ grammar.Closes opening.kind)
    (hopens : grammar.openedBy? opening.kind = some block)
    (hbody : grammar.ReadOff (depth + 1) (some (block, position)) body within close
      (used ++ (closing ++ tail)))
    (hread : grammar.ReadOff depth inside level used closing tail) :
    grammar.ReadOff depth inside
      ⟨.branch block.name body.nodes :: level.nodes, 1 + body.count + level.count⟩
      (opening :: (within ++ close) ++ used) closing tail := by
  obtain ⟨hmem, hkind⟩ := mem_of_openedBy? hopens
  obtain ⟨name, hname, -⟩ := htags
  have hblock : block.name.bind grammar.named? = some block := by
    rw [hname]
    exact named?_eq_some hslotted hmem hname
  have hclose : close.map Token.kind = [block.closes] := hbody.closing_kinds
  obtain ⟨closer, rfl, hcloser⟩ := List.map_eq_singleton_iff.1 hclose
  have hdepth := hbody.depth_le
  have hcount := hbody.count_eq
  have hrest := hread.depth_le
  rw [List.length_singleton] at hcount
  constructor
  · rw [flattenAll, flatten, hblock]
    refine List.rel_append ?_ hread.spells
    refine spells_delimiter (fun h => (h block hmem).1 rfl) hkind ?_
    refine List.rel_append hbody.spells ?_
    exact spells_delimiter (fun h => (h block hmem).2 rfl) hcloser.symm .nil
  · rw [NestedAll, Nested]
    exact ⟨⟨⟨block, hblock, hkind ▸ hcloses, hkind ▸ hopens⟩, hbody.nested⟩, hread.nested⟩
  · rw [Node.depthAll, Node.depth]
    omega
  · exact hread.closing_kinds
  · simp only [List.length_cons, List.length_append, List.length_nil, hcount, hread.count_eq]
    omega
  · exact hread.tail_eq

/-- Whatever is read of a level is a nested forest and spelled by the tokens read. -/
theorem exists_readOff (hslotted : grammar.Slotted)
    (htags : ∀ block ∈ grammar.blocks, block.TagsByName) (tokens : List Token)
    (depth position : Nat) (inside : Option (Block × Nat)) (level : Stretch)
    (hdepth : depth ≤ grammar.maxDepth)
    (hread : grammar.descend depth inside tokens position = .ok level) :
    ∃ used closing tail, tokens = used ++ (closing ++ tail) ∧
      grammar.ReadOff depth inside level used closing tail := by
  -- On the number of tokens, as the descent goes.
  induction hlength : tokens.length using Nat.strongRecOn
    generalizing tokens depth position inside level with
  | ind length ih =>
  cases tokens with
  | nil =>
      cases inside with
      | none =>
          rw [descend] at hread
          obtain rfl := Except.ok.inj hread
          exact ⟨[], [], [], rfl, readOff_nil [] hdepth rfl fun _ => rfl⟩
      | some opened =>
          rw [descend] at hread
          cases hread
  | cons token rest =>
      have hlt : rest.length < length := by simp [← hlength]
      by_cases hexpected : expected inside = some token.kind
      · rw [descend_close hexpected] at hread
        obtain rfl := Except.ok.inj hread
        refine ⟨[], [token], rest, rfl, readOff_nil [token] hdepth ?_ ?_⟩
        · rw [hexpected]
          rfl
        · rintro rfl
          cases hexpected
      by_cases hcloses : grammar.Closes token.kind
      · rw [descend_stray hexpected hcloses] at hread
        cases hread
      cases hopens : grammar.openedBy? token.kind with
      | none =>
          rw [descend_leaf hexpected hcloses hopens, bind_eq_ok_iff] at hread
          obtain ⟨after, hafter, hlevel⟩ := hread
          obtain rfl := Except.ok.inj hlevel
          obtain ⟨used, closing, tail, rfl, hoff⟩ := ih _ hlt _ _ _ _ _ hdepth hafter rfl
          exact ⟨token :: used, closing, tail, rfl,
            readOff_leaf (plain_of_openedBy?_eq_none hcloses hopens) hoff⟩
      | some block =>
          by_cases hdeep : grammar.maxDepth ≤ depth
          · rw [descend_tooDeep hexpected hcloses hopens hdeep] at hread
            cases hread
          have htag := htags block (mem_of_openedBy? hopens).1
          simp only [descend_block hexpected hcloses hopens hdeep, bind_eq_ok_iff,
            result_reaction htag] at hread
          -- The tokens of the body come first, then those of the level after its close.
          obtain ⟨body, hbody, node, hnode, after, hafter, hlevel⟩ := hread
          obtain rfl := Except.ok.inj hnode
          obtain rfl := Except.ok.inj hlevel
          obtain ⟨within, close, others, rfl, hwithin⟩ := ih _ hlt _ _ _ _ _ (by omega) hbody rfl
          have hdrop : (within ++ (close ++ others)).drop body.count = others := by
            rw [hwithin.count_eq, ← List.append_assoc, ← List.length_append, List.drop_left]
          rw [hdrop] at hafter
          have hshorter : others.length < length := by
            simp only [List.length_append] at hlt
            omega
          obtain ⟨used, closing, tail, rfl, hoff⟩ := ih _ hshorter _ _ _ _ _ hdepth hafter rfl
          refine ⟨token :: (within ++ close) ++ used, closing, tail, ?_,
            readOff_block hslotted htag hcloses hopens hwithin hoff⟩
          simp only [List.cons_append, List.append_assoc]

/-! ## The trees of a stream -/

/-- The pass over a stream succeeds where the descent reads all of it, and gives the nodes read. -/
theorem matchBlocks_eq_ok_iff {stream : TokenStream} {tree : Tree} :
    (grammar.matchBlocks stream).result = .ok tree ↔
      ∃ level, grammar.descend 0 none stream.rest stream.pos = .ok level ∧
        .ofList level.nodes = tree := by
  rw [matchBlocks, Traced.result_bind, result_matchFrom, bind_assoc, bind_eq_ok_iff]
  refine exists_congr fun level => and_congr_right fun _ => ?_
  rw [resume, ok_bind, List.nil_append]
  exact Except.ok.injEq (Cursor.ofList level.nodes) tree ▸ Iff.rfl

/-- A stream is read to a forest where its tokens spell the forest, which has to be nested and no
deeper than allowed. -/
theorem matchBlocks_eq_ok_iff_spells (hslotted : grammar.Slotted)
    (htags : ∀ block ∈ grammar.blocks, block.TagsByName) {stream : TokenStream} {tree : Tree} :
    (grammar.matchBlocks stream).result = .ok tree ↔
      ∃ forest, tree = .ofList forest ∧ grammar.NestedAll forest ∧
        Node.depthAll forest ≤ grammar.maxDepth ∧
        grammar.Spells (grammar.flattenAll forest) stream.rest := by
  rw [matchBlocks_eq_ok_iff]
  constructor
  · rintro ⟨level, hread, rfl⟩
    obtain ⟨used, closing, tail, hrest, hoff⟩ :=
      exists_readOff hslotted htags _ _ _ _ _ (Nat.zero_le _) hread
    have hclosing : closing = [] := by simpa using hoff.closing_kinds
    have hused : stream.rest = used := by
      rw [hrest, hclosing, hoff.tail_eq rfl, List.append_nil, List.append_nil]
    refine ⟨level.nodes, rfl, hoff.nested, ?_, hused ▸ hoff.spells⟩
    rw [← Nat.zero_add (Node.depthAll _)]
    exact hoff.depth_le
  · rintro ⟨forest, rfl, hnested, hdepth, hspells⟩
    have hclosing : ∀ kind, expected none = some kind → grammar.Closes kind :=
      fun _ hkind => nomatch hkind
    refine ⟨⟨forest ++ [], stream.rest.length + 0⟩, ?_, ?_⟩
    · rw [← List.append_nil stream.rest, descend_forest htags forest [] hnested hspells hclosing
        (by rwa [Nat.zero_add]), descend]
      simp
    · rw [List.append_nil]

/-- Where every block tags its body by name, the pass inverts the flattening of nested forests, and
the forests that it gives are nested, no deeper than allowed and spelled by the stream. -/
theorem matchBlocks_inverts_flattenAll (steps : List Step)
    (htags : ∀ block ∈ (ofSteps steps).blocks, block.TagsByName) :
    (∀ forest, (ofSteps steps).NestedAll forest →
      Node.depthAll forest ≤ (ofSteps steps).maxDepth →
      ((ofSteps steps).matchBlocks (.ofList ((ofSteps steps).flattenAll forest))).result =
        .ok (.ofList forest)) ∧
    ∀ stream tree, ((ofSteps steps).matchBlocks stream).result = .ok tree ↔
      ∃ forest, tree = .ofList forest ∧ (ofSteps steps).NestedAll forest ∧
        Node.depthAll forest ≤ (ofSteps steps).maxDepth ∧
        (ofSteps steps).Spells ((ofSteps steps).flattenAll forest) stream.rest := by
  have hslotted := slotted_ofSteps steps
  refine ⟨?_, fun _ _ => matchBlocks_eq_ok_iff_spells hslotted htags⟩
  intro forest hnested hdepth
  rw [matchBlocks_eq_ok_iff_spells hslotted htags]
  exact ⟨forest, rfl, hnested, hdepth, spells_refl _⟩

/-- Blocks whose delimiters clash: the open of one closes another, two share an open, and one has
equal delimiters. -/
def clashing : List Step :=
  [.namedBlock ⟨"paren"⟩ ⟨"("⟩ ⟨")"⟩, .namedBlock ⟨"turned"⟩ ⟨")"⟩ ⟨">"⟩,
    .namedBlock ⟨"list"⟩ ⟨"["⟩ ⟨"]"⟩, .namedBlock ⟨"other"⟩ ⟨"["⟩ ⟨">"⟩,
    .namedBlock ⟨"quote"⟩ ⟨"|"⟩ ⟨"|"⟩, .maxDepth 2]

/-- A list in parentheses among blocks that clash, as deep as allowed. -/
def nestedClashing : List Node :=
  [.tagged ⟨"paren"⟩ [.leaf (.bare ⟨"x"⟩), .tagged ⟨"list"⟩ []], .leaf (.bare ⟨"y"⟩)]

/-- Blocks that clash are read to the forest whose flattening the stream is. -/
theorem matchBlocks_inverts_nestedClashing :
    ((ofSteps clashing).matchBlocks
      (.ofList ((ofSteps clashing).flattenAll nestedClashing))).result =
        .ok (.ofList nestedClashing) := by
  have htags : ∀ block ∈ (ofSteps clashing).blocks, block.TagsByName := by
    have hblocks : (ofSteps clashing).blocks =
        [⟨some ⟨"paren"⟩, ⟨"("⟩, ⟨")"⟩, Block.toTagged ⟨"paren"⟩⟩,
          ⟨some ⟨"turned"⟩, ⟨")"⟩, ⟨">"⟩, Block.toTagged ⟨"turned"⟩⟩,
          ⟨some ⟨"list"⟩, ⟨"["⟩, ⟨"]"⟩, Block.toTagged ⟨"list"⟩⟩,
          ⟨some ⟨"other"⟩, ⟨"["⟩, ⟨">"⟩, Block.toTagged ⟨"other"⟩⟩,
          ⟨some ⟨"quote"⟩, ⟨"|"⟩, ⟨"|"⟩, Block.toTagged ⟨"quote"⟩⟩] := rfl
    rw [hblocks]
    simp only [List.forall_mem_cons, Block.TagsByName]
    exact ⟨⟨_, rfl, rfl⟩, ⟨_, rfl, rfl⟩, ⟨_, rfl, rfl⟩, ⟨_, rfl, rfl⟩, ⟨_, rfl, rfl⟩, nofun⟩
  have hparen : ¬ (ofSteps clashing).Closes ⟨"("⟩ := by decide
  have hlist : ¬ (ofSteps clashing).Closes ⟨"["⟩ := by decide
  refine (matchBlocks_inverts_flattenAll clashing htags).1 _ ?_ (by decide)
  simp only [nestedClashing, Node.tagged, NestedAll, Nested, Openable]
  exact ⟨⟨⟨_, rfl, hparen, rfl⟩, by decide, ⟨⟨_, rfl, hlist, rfl⟩, trivial⟩, trivial⟩, by decide,
    trivial⟩

end Grammar

end TokenTree
