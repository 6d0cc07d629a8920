import ManifestMarkers.Proofs.CommentPlaces
import ManifestMarkers.Proofs.WrittenPieces

/-!
# Comments that are written back

Every comment of a manifest is written once, with one exception: the writer passes over the comments
above a scalar that stands on the lines below its key.

* `IsWritable` is what the writer relies on; every manifest that is read has it.
* `Block` are pieces that end with a line and have every comment line on a line of its own;
  `block_pieces` says that the pieces of a manifest are a block.
* `count_collectionPieces`: the comments that are written and those that are passed over are those
  of the nodes below a collection.
* `written_of_parse` is the same for whole manifests.
-/

namespace ManifestMarkers.Manifest

/-! ### What the writer relies on -/

theorem Spans.le_of_mem {contents : Array (List Nat)} {ids : List Nat} {lo hi : Nat}
    (h : Spans contents ids lo hi) {i : Nat} (hi : i ∈ ids) : lo ≤ i := by
  induction h with
  | nil => cases hi
  | @cons ids lo mid hi hbelow hrest ih ihs =>
    rcases List.mem_cons.1 hi with rfl | hmem
    · exact Nat.le_refl _
    · have hle := hbelow.le
      have hmid := ihs hmem
      omega

/-- The content of a node comes behind it. -/
theorem Spans.lt_of_mem {contents : Array (List Nat)} {ids : List Nat} {lo hi : Nat}
    (h : Spans contents ids lo hi) {i j : Nat} (hlo : lo ≤ j) (hlt : j < hi)
    (hmem : i ∈ contents[j]?.getD []) : j < i := by
  induction h with
  | nil => omega
  | @cons ids lo mid hi hbelow hrest ih ihs =>
    by_cases hj : j = lo
    · subst hj
      exact hbelow.le_of_mem hmem
    · by_cases hmid : j < mid
      · exact ih (by omega) hmid
      · exact ihs (by omega) hlt

/-- Both nodes of a pair are in the content. -/
theorem mem_of_mem_pairsOf {ids : List Nat} {k v : Nat} (h : (k, v) ∈ pairsOf ids) :
    k ∈ ids ∧ v ∈ ids := by
  fun_induction pairsOf ids with
  | case1 k' v' rest ih =>
    rcases List.mem_cons.1 h with heq | h
    · cases heq
      simp
    · obtain ⟨hk, hv⟩ := ih h
      simp [hk, hv]
  | case2 => cases h

/-- What the writer relies on. -/
structure IsWritable (m : Manifest) : Prop where
  /-- The content of a node comes behind it. -/
  rising : ∀ id n, m.node? id = some n → ∀ i ∈ n.content, id < i
  /-- A mapping has pairs of a scalar and a node without a foot comment. -/
  mapping : ∀ id n, m.node? id = some n → n.kind = .mapping →
    n.content ≠ [] ∧ Even n.content.length ∧ ∀ k v, (k, v) ∈ pairsOf n.content →
      (∃ key, m.node? k = some key ∧ key.kind = .scalar) ∧
        ∃ value, m.node? v = some value ∧ value.footComment = ""
  sequence : ∀ id n, m.node? id = some n → n.kind = .sequence →
    ∀ i ∈ n.content, ∃ item, m.node? i = some item
  scalar : ∀ id n, m.node? id = some n → n.kind = .scalar → n.content = []

theorem isWritable_of_parse {text : String} {m : Manifest} (h : parse text = .ok m) :
    m.IsWritable := by
  obtain ⟨hshaped, -⟩ := shaped_of_parse h
  refine ⟨fun id n hn i hi => ?_, fun id n hn hkind => ?_, fun id n hn hkind i hi => ?_,
    fun id n hn hkind => scalar_of_shaped hshaped hn hkind⟩
  · have hlt : id < m.nodes.size := (Array.getElem?_eq_some_iff.1 hn).1
    refine (spans_of_parse h).lt_of_mem (Nat.zero_le _) hlt ?_
    rwa [← contentOf_eq, contentOf, hn]
  · obtain ⟨hne, heven, hpairs⟩ := mapping_of_shaped hshaped hn hkind
    refine ⟨hne, heven, fun k v hpair => ?_⟩
    obtain ⟨⟨key, hkey, hof⟩, value, hvalue, -⟩ := hpairs k v hpair
    have hmem : (k, v) ∈ m.pairs := mem_pairs_iff.2 ⟨id, n, hn, hkind, hpair⟩
    exact ⟨⟨key, hkey, hof.1⟩, value, hvalue, footComment_of_mem_pairs h hmem hvalue⟩
  · obtain ⟨item, hitem, -⟩ := (sequence_of_shaped hshaped hn hkind).2 i hi
    exact ⟨item, hitem⟩

/-! ### Blocks of lines -/

/-- Whether what follows `cs` is at the start of a line; `fresh` says whether `cs` is. -/
def endsLine (fresh : Bool) (cs : List Char) : Bool := cs.getLast?.elim fresh (· == '\n')

theorem endsLine_append (fresh : Bool) (a b : List Char) :
    endsLine fresh (a ++ b) = endsLine (endsLine fresh a) b := by
  rw [endsLine, List.getLast?_append]
  cases hb : b.getLast? <;> simp [endsLine, hb]

/-- Whether a piece is a comment on a line. -/
def Piece.isLine : Piece → Bool
  | line _ _ _ => true
  | _ => false

/-- Every comment line has no line feed in it and is at the start of a line. -/
def OnLines : Bool → List Piece → Prop
  | _, [] => True
  | fresh, p :: ps =>
    (p.isLine = true → fresh = true ∧ ∀ e ∈ p.entry?, '\n' ∉ e.comment) ∧
      OnLines (endsLine fresh p.chars) ps

theorem onLines_append {fresh : Bool} {ps qs : List Piece} :
    OnLines fresh (ps ++ qs) ↔ OnLines fresh ps ∧ OnLines (endsLine fresh (join ps)) qs := by
  induction ps generalizing fresh with
  | nil => simp [OnLines, endsLine]
  | cons p ps ih => simp [OnLines, ih, and_assoc, endsLine_append]

/-- Pieces that end with a line, with all comment lines on lines of their own. -/
structure Block (fresh : Bool) (ps : List Piece) : Prop where
  lines : OnLines fresh ps
  ends : endsLine fresh (join ps) = true

section

variable {fresh : Bool} {ps qs : List Piece}

theorem block_nil : Block true [] := ⟨trivial, rfl⟩

theorem Block.append (h : Block fresh ps) (h' : Block true qs) : Block fresh (ps ++ qs) := by
  refine ⟨onLines_append.2 ⟨h.lines, ?_⟩, ?_⟩
  · rw [h.ends]
    exact h'.lines
  · rw [join_append, endsLine_append, h.ends]
    exact h'.ends

theorem Block.text (cs : List Char) (h : Block (endsLine fresh cs) ps) :
    Block fresh (.text cs :: ps) := by
  refine ⟨⟨nofun, h.lines⟩, ?_⟩
  rw [join_cons, endsLine_append]
  exact h.ends

theorem block_linePieces (slot : Slot) (text : String) (indent : Nat) :
    Block true (linePieces slot text indent) := by
  have hparts : ∀ part ∈ commentParts text, '\n' ∉ part := by
    intro part hpart
    rw [commentParts] at hpart
    split at hpart
    · cases hpart
    · exact Text.notMem_of_mem_splitOn hpart
  unfold linePieces
  generalize commentParts text = parts at hparts
  induction parts with
  | nil => exact block_nil
  | cons part parts ih =>
    have hfirst : Block true [.line slot indent part] := by
      refine ⟨⟨fun _ => ⟨rfl, ?_⟩, trivial⟩, by simp [endsLine, Piece.chars]⟩
      rintro e ⟨⟩
      exact hparts part (by simp)
    exact hfirst.append (ih fun p hp => hparts p (by simp [hp]))

/-- A line of pieces without comment lines, and a block behind it. -/
theorem Block.line {lead : List Piece} (hlead : ∀ p ∈ lead, p.isLine = false)
    (h : Block true ps) : Block fresh (lead ++ .text ['\n'] :: ps) := by
  induction lead generalizing fresh with
  | nil => exact Block.text ['\n'] h
  | cons p lead ih =>
    have hrest : Block (endsLine fresh p.chars) (lead ++ .text ['\n'] :: ps) :=
      ih fun q hq => hlead q (by simp [hq])
    refine ⟨⟨fun hline => ?_, hrest.lines⟩, ?_⟩
    · rw [hlead p (by simp)] at hline
      cases hline
    · rw [List.cons_append, join_cons, endsLine_append]
      exact hrest.ends

theorem isLine_trailPieces {id : Nat} {n : Node} : ∀ p ∈ trailPieces id n, p.isLine = false := by
  intro p hp
  obtain ⟨comment, -, rfl⟩ := List.mem_map.1 hp
  rfl

/-- A comment line in a block. -/
theorem OnLines.of_append {before after : List Piece} {slot : Slot} {indent : Nat}
    {comment : List Char} (h : OnLines true (before ++ .line slot indent comment :: after)) :
    '\n' ∉ comment ∧ ∀ c ∈ (join before).getLast?, c = '\n' := by
  obtain ⟨hstart, hcomment⟩ := (onLines_append.1 h).2.1 rfl
  refine ⟨hcomment _ rfl, fun c hc => ?_⟩
  rw [endsLine, Option.mem_def.1 hc] at hstart
  simpa using hstart

end

section

variable {m : Manifest} {tags : Bool} {fuel : Nat}

theorem block_valuePieces {nested : Nat → List Piece} {k id : Nat} {key n : Node} {fresh : Bool}
    (hn : m.node? id = some n) (hnested : n.kind ≠ .scalar → Block true (nested id)) :
    Block fresh (valuePieces m tags nested k key id) := by
  have hlead (cs : List Char) : ∀ p ∈ .text cs :: (trailPieces k key ++ trailPieces id n),
      p.isLine = false := by
    intro p hp
    rcases List.mem_cons.1 hp with rfl | hp
    · rfl
    rcases List.mem_append.1 hp with hp | hp
    · exact isLine_trailPieces p hp
    · exact isLine_trailPieces p hp
  unfold valuePieces
  rw [hn]
  dsimp only
  split
  · exact Block.line (hlead _) block_nil
  · next hkind =>
    have hkind : n.kind ≠ .scalar := by simpa [Node.isScalar] using hkind
    exact Block.line (hlead _) ((block_linePieces _ _ _).append (hnested hkind))

/-- The pairs of a mapping, if what is below each value is a block. The first key may stand on a
line that has begun. -/
theorem block_pairsPieces {nested : Nat → List Piece} {indent : Nat} {inline fresh : Bool}
    {ids : List Nat} (hfresh : inline = false → fresh = true) (hne : inline = true → ids ≠ [])
    (heven : Even ids.length)
    (hpairs : ∀ k v, (k, v) ∈ pairsOf ids → (∃ key, m.node? k = some key) ∧
      ∃ n, m.node? v = some n ∧ (n.kind ≠ .scalar → Block true (nested v))) :
    Block fresh (pairsPieces m tags nested indent inline ids) := by
  fun_induction pairsPieces m tags nested indent inline ids generalizing fresh with
  | case1 inline k v rest ih =>
    have hrest : Block true (pairsPieces m tags nested indent false rest) :=
      ih (fun _ => rfl) (by simp) (by simpa [Nat.even_add_one] using heven)
        fun k v hpair => hpairs k v (by simp [pairsOf, hpair])
    obtain ⟨⟨key, hkey⟩, n, hn, hnested⟩ := hpairs k v (by simp [pairsOf])
    have hpair {fresh : Bool} : Block fresh (.text (key.scalarText false ++ [':']) ::
        (valuePieces m tags nested k key v ++ linePieces (.foot k) key.footComment indent)) :=
      Block.text _ ((block_valuePieces hn hnested).append (block_linePieces _ _ _))
    rw [hkey]
    refine Block.append ?_ hrest
    cases inline with
    | true => exact hpair
    | false =>
      obtain rfl := hfresh rfl
      have hhead := block_linePieces (.head k) key.headComment indent
      have hboth := hhead.append (Block.text (spaces indent) hpair)
      simpa using hboth
  | case2 ids inline hids =>
    obtain rfl : ids = [] := by
      rcases ids with - | ⟨k, - | ⟨v, rest⟩⟩
      · rfl
      · simp at heven
      · exact absurd rfl (hids k v rest)
    cases inline with
    | true => exact absurd rfl (hne rfl)
    | false =>
      obtain rfl := hfresh rfl
      exact block_nil

theorem block_itemPieces {nested : Bool → Nat → List Piece} {indent id : Nat} {n : Node}
    (hcompact : n.kind = .mapping → ∀ fresh, Block fresh (nested true id))
    (hnested : n.kind ≠ .scalar → Block true (nested false id)) :
    Block true (itemPieces m tags nested indent id n) := by
  have hlead (cs : List Char) : ∀ p ∈ .text cs :: trailPieces id n, p.isLine = false := by
    intro p hp
    rcases List.mem_cons.1 hp with rfl | hp
    · rfl
    · exact isLine_trailPieces p hp
  unfold itemPieces
  split
  · exact Block.line (hlead _) block_nil
  · next hkind =>
    have hkind : n.kind ≠ .scalar := by simpa [Node.isScalar] using hkind
    split
    · next hfirst =>
      have hmapping : n.kind = .mapping := by
        simp only [isCompact, Bool.and_eq_true, beq_iff_eq] at hfirst
        exact hfirst.1.1.1
      have hhead : Block true (firstHeadPieces m indent n) := by
        unfold firstHeadPieces
        split
        · exact block_nil
        · next k _ =>
          cases m.node? k with
          | none => exact block_nil
          | some key => exact block_linePieces _ _ _
      exact hhead.append (Block.text _ (hcompact hmapping _))
    · exact Block.line (hlead _) (hnested hkind)

theorem block_itemsPieces {nested : Bool → Nat → List Piece} {indent : Nat} {ids : List Nat}
    (hcompact : ∀ i ∈ ids, ∀ n, m.node? i = some n → n.kind = .mapping →
      ∀ fresh, Block fresh (nested true i))
    (hnested : ∀ i ∈ ids, ∀ n, m.node? i = some n → n.kind ≠ .scalar →
      Block true (nested false i)) :
    Block true (itemsPieces m tags nested indent ids) := by
  induction ids with
  | nil => exact block_nil
  | cons id ids ih =>
    have hrest := ih (fun i hi => hcompact i (by simp [hi])) fun i hi => hnested i (by simp [hi])
    rw [itemsPieces, List.flatMap_cons]
    refine Block.append ?_ hrest
    cases hn : m.node? id with
    | none => exact block_nil
    | some n =>
      have hitem : Block true (itemPieces m tags nested indent id n) :=
        block_itemPieces (hcompact id (by simp) n hn) (hnested id (by simp) n hn)
      exact ((block_linePieces _ _ _).append hitem).append (block_linePieces _ _ _)

/-- The content of a collection is a block. The fuel does not run out, since numbers rise on the way
down. -/
theorem block_collectionPieces (hm : m.IsWritable) {id : Nat} {n : Node} {inline fresh : Bool}
    (hn : m.node? id = some n) (hkind : n.kind ≠ .scalar)
    (hinline : inline = true → n.kind = .mapping) (hfresh : inline = false → fresh = true)
    (hfuel : m.nodes.size ≤ id + fuel) : Block fresh (collectionPieces m tags fuel inline id) := by
  induction fuel generalizing id n inline fresh with
  | zero =>
    have hlt : id < m.nodes.size := (Array.getElem?_eq_some_iff.1 hn).1
    omega
  | succ fuel ih =>
    have hdown {i : Nat} (hi : i ∈ n.content) : m.nodes.size ≤ i + fuel := by
      have hlt := hm.rising id n hn i hi
      omega
    rw [collectionPieces, hn]
    dsimp only
    cases hk : n.kind with
    | mapping =>
      obtain ⟨hne, heven, hpairs⟩ := hm.mapping id n hn hk
      refine block_pairsPieces hfresh (fun _ => hne) heven fun k v hpair => ?_
      obtain ⟨⟨key, hkey, -⟩, value, hvalue, -⟩ := hpairs k v hpair
      refine ⟨⟨key, hkey⟩, value, hvalue, fun hscalar => ?_⟩
      exact ih hvalue hscalar nofun (fun _ => rfl) (hdown (mem_of_mem_pairsOf hpair).2)
    | sequence =>
      have hflat : inline = false := by
        cases inline with
        | false => rfl
        | true =>
          rw [hinline rfl] at hk
          cases hk
      obtain rfl := hfresh hflat
      refine block_itemsPieces (fun i hi item hitem hmapping fresh => ?_)
        fun i hi item hitem hscalar => ?_
      · exact ih hitem (by simp [hmapping]) (fun _ => hmapping) nofun (hdown hi)
      · exact ih hitem hscalar nofun (fun _ => rfl) (hdown hi)
    | scalar => exact absurd hk hkind

end

/-! ### What is written of a collection -/

/-- The comments of a node and where they are stored. -/
def Node.entries (id : Nat) (n : Node) : List Entry :=
  lineEntries (.head id) n.headComment ++ trailEntries id n ++ lineEntries (.foot id) n.footComment

theorem Node.map_comment_entries (id : Nat) (n : Node) :
    (n.entries id).map Entry.comment = n.comments := by
  simp [entries, lineEntries, trailEntries, comments, ownComments, Function.comp_def]

/-- The comments of the node with a number. -/
def entriesAt (m : Manifest) (id : Nat) : List Entry := (m.node? id).elim [] (Node.entries id)

/-- The comments above the node with a number. -/
def headAt (m : Manifest) (id : Nat) : List Entry :=
  (m.node? id).elim [] fun n => lineEntries (.head id) n.headComment

/-- The comments above a value that are passed over: those of a scalar. -/
def hiddenAt (m : Manifest) (id : Nat) : List Entry :=
  (m.node? id).elim [] fun n => if n.isScalar then lineEntries (.head id) n.headComment else []

/-- The comments that are passed over in a mapping. -/
def hiddenIn (m : Manifest) (n : Node) : List Entry :=
  (if n.kind = .mapping then pairsOf n.content else []).flatMap fun pair => m.hiddenAt pair.2

/-- The comments that are passed over in the node with a number. -/
def hiddenBelow (m : Manifest) (id : Nat) : List Entry := (m.node? id).elim [] m.hiddenIn

/-- The comments above the first of some nodes. -/
def firstHead (m : Manifest) (ids : List Nat) : List Entry := ids.head?.elim [] m.headAt

section

variable {m : Manifest} {fuel : Nat}

theorem preorderFrom_cons (id : Nat) (ids : List Nat) :
    m.preorderFrom (fuel + 1) (id :: ids) =
      id :: m.preorderFrom fuel (m.contentOf id) ++ m.preorderFrom (fuel + 1) ids := rfl

theorem preorderFrom_append (ids ids' : List Nat) :
    m.preorderFrom fuel (ids ++ ids') = m.preorderFrom fuel ids ++ m.preorderFrom fuel ids' := by
  cases fuel <;> simp [preorderFrom]

theorem IsWritable.contentOf_scalar (hm : m.IsWritable) {id : Nat} {n : Node}
    (hn : m.node? id = some n) (hkind : n.kind = .scalar) : m.contentOf id = [] := by
  rw [contentOf, hn]
  exact hm.scalar id n hn hkind

/-- Nothing is passed over in a scalar. -/
theorem hiddenBelow_scalar (hm : m.IsWritable) {id : Nat} {n : Node} (hn : m.node? id = some n)
    (hkind : n.kind = .scalar) (fuel : Nat) :
    (m.preorderFrom fuel [id]).flatMap m.hiddenBelow = [] := by
  cases fuel with
  | zero => rfl
  | succ fuel =>
    rw [preorderFrom_cons, hm.contentOf_scalar hn hkind, preorderFrom_nil]
    simp [preorderFrom, hiddenBelow, hn, hiddenIn, hkind]

/-- What is below a node that is written: its comments are those that are written and those that are
passed over. -/
def Accounts (m : Manifest) (fuel : Nat) (x : Entry) (ps : List Piece) (id : Nat) : Prop :=
  (written ps).count x + ((m.preorderFrom fuel [id]).flatMap m.hiddenBelow).count x =
    ((m.preorderFrom fuel (m.contentOf id)).flatMap m.entriesAt).count x

theorem count_valuePieces (hm : m.IsWritable) (tags : Bool) (k : Nat) (key : Node)
    {nested : Nat → List Piece} {x : Entry} {v : Nat} {n : Node} (hn : m.node? v = some n)
    (hfoot : n.footComment = "") (hnested : n.kind ≠ .scalar → Accounts m fuel x (nested v) v) :
    (written (valuePieces m tags nested k key v)).count x + (m.hiddenAt v).count x +
        ((m.preorderFrom fuel [v]).flatMap m.hiddenBelow).count x =
      (trailEntries k key).count x +
        ((m.preorderFrom (fuel + 1) [v]).flatMap m.entriesAt).count x := by
  have hentries : m.entriesAt v = lineEntries (.head v) n.headComment ++ trailEntries v n := by
    rw [entriesAt, hn]
    simp [Node.entries, hfoot, lineEntries]
  have hbelow : ((m.preorderFrom (fuel + 1) [v]).flatMap m.entriesAt).count x =
      (lineEntries (.head v) n.headComment).count x + (trailEntries v n).count x +
        ((m.preorderFrom fuel (m.contentOf v)).flatMap m.entriesAt).count x := by
    rw [preorderFrom_cons, preorderFrom_nil, List.append_nil, List.flatMap_cons, hentries]
    simp only [List.count_append]
  rw [hbelow, valuePieces, hiddenAt, hn]
  dsimp only [Option.elim]
  split
  · next hkind =>
    have hkind : n.kind = .scalar := by simpa [Node.isScalar] using hkind
    rw [hiddenBelow_scalar hm hn hkind _, hm.contentOf_scalar hn hkind, preorderFrom_nil]
    simp only [written_text, written_append, written_trailPieces, written_nil, List.count_append,
      List.count_nil, List.flatMap_nil]
    omega
  · next hkind =>
    have hkind : n.kind ≠ .scalar := by simpa [Node.isScalar] using hkind
    have haccount := hnested hkind
    unfold Accounts at haccount
    simp only [written_text, written_append, written_trailPieces, written_linePieces,
      List.count_append, List.count_nil]
    omega

/-- The pairs of a mapping, if what is below each value is accounted for. -/
theorem count_pairsPieces (hm : m.IsWritable) (tags : Bool) (fuel : Nat)
    (nested : Nat → List Piece) (x : Entry) (indent : Nat) (inline : Bool) {ids : List Nat}
    (heven : Even ids.length)
    (hpairs : ∀ k v, (k, v) ∈ pairsOf ids → (∃ key, m.node? k = some key ∧ key.kind = .scalar) ∧
      ∃ n, m.node? v = some n ∧ n.footComment = "" ∧
        (n.kind ≠ .scalar → Accounts m fuel x (nested v) v)) :
    (written (pairsPieces m tags nested indent inline ids)).count x +
        (if inline then (m.firstHead ids).count x else 0) +
        ((pairsOf ids).flatMap fun pair => m.hiddenAt pair.2).count x +
        ((m.preorderFrom fuel ids).flatMap m.hiddenBelow).count x =
      ((m.preorderFrom (fuel + 1) ids).flatMap m.entriesAt).count x := by
  fun_induction pairsPieces m tags nested indent inline ids with
  | case1 inline k v rest ih =>
    have hrest := ih (by simpa [Nat.even_add_one] using heven)
      fun k v hpair => hpairs k v (by simp [pairsOf, hpair])
    obtain ⟨⟨key, hkey, hscalar⟩, n, hn, hfoot, hnested⟩ := hpairs k v (by simp [pairsOf])
    have hvalue := count_valuePieces hm tags k key hn hfoot hnested
    have hkeyHidden := hiddenBelow_scalar hm hkey hscalar fuel
    have hall : m.preorderFrom (fuel + 1) (k :: v :: rest) =
        k :: (m.preorderFrom (fuel + 1) [v] ++ m.preorderFrom (fuel + 1) rest) := by
      rw [preorderFrom_cons, hm.contentOf_scalar hkey hscalar, preorderFrom_nil,
        ← preorderFrom_append]
      rfl
    have hhidden : ((m.preorderFrom fuel (k :: v :: rest)).flatMap m.hiddenBelow).count x =
        ((m.preorderFrom fuel [v]).flatMap m.hiddenBelow).count x +
          ((m.preorderFrom fuel rest).flatMap m.hiddenBelow).count x := by
      rw [show k :: v :: rest = [k] ++ ([v] ++ rest) from rfl, preorderFrom_append,
        preorderFrom_append]
      simp only [List.flatMap_append, List.count_append, hkeyHidden, List.count_nil]
      omega
    have hkeyEntries : m.entriesAt k = lineEntries (.head k) key.headComment ++
        trailEntries k key ++ lineEntries (.foot k) key.footComment := by
      rw [entriesAt, hkey]
      rfl
    have hfirst : m.firstHead (k :: v :: rest) = lineEntries (.head k) key.headComment := by
      simp [firstHead, headAt, hkey]
    rw [hall, hhidden, hfirst, hkey]
    simp only [Bool.false_eq_true, if_false] at hrest
    cases inline with
    | true =>
      simp only [if_true, pairsOf, List.flatMap_cons, List.flatMap_append, List.count_append,
        written_append, written_text, written_linePieces, List.nil_append, hkeyEntries]
      omega
    | false =>
      simp only [Bool.false_eq_true, if_false, pairsOf, List.flatMap_cons, List.flatMap_append,
        List.count_append, written_append, written_text, written_linePieces, written_nil,
        List.count_nil, hkeyEntries]
      omega
  | case2 ids inline hids =>
    obtain rfl : ids = [] := by
      rcases ids with - | ⟨k, - | ⟨v, rest⟩⟩
      · rfl
      · simp at heven
      · exact absurd rfl (hids k v rest)
    simp [pairsOf, preorderFrom_nil, firstHead]

theorem written_firstHeadPieces (indent : Nat) (n : Node) :
    written (firstHeadPieces m indent n) = m.firstHead n.content := by
  unfold firstHeadPieces firstHead
  cases n.content.head? with
  | none => rfl
  | some k =>
    dsimp only [Option.elim]
    unfold headAt
    cases m.node? k <;> simp

theorem count_itemPieces (hm : m.IsWritable) (tags : Bool) {nested : Bool → Nat → List Piece}
    {x : Entry} {indent id : Nat} {n : Node} (hn : m.node? id = some n)
    (hcompact : n.kind = .mapping →
      Accounts m fuel x (firstHeadPieces m indent n ++ nested true id) id)
    (hnested : n.kind ≠ .scalar → Accounts m fuel x (nested false id) id) :
    (written (itemPieces m tags nested indent id n)).count x +
        ((m.preorderFrom fuel [id]).flatMap m.hiddenBelow).count x =
      (trailEntries id n).count x +
        ((m.preorderFrom fuel (m.contentOf id)).flatMap m.entriesAt).count x := by
  unfold itemPieces
  split
  · next hkind =>
    have hkind : n.kind = .scalar := by simpa [Node.isScalar] using hkind
    rw [hiddenBelow_scalar hm hn hkind _, hm.contentOf_scalar hn hkind, preorderFrom_nil]
    simp
  · next hkind =>
    have hkind : n.kind ≠ .scalar := by simpa [Node.isScalar] using hkind
    split
    · next hfirst =>
      have hmapping : n.kind = .mapping ∧ n.lineComment = "" := by
        simp only [isCompact, Bool.and_eq_true, beq_iff_eq, String.isEmpty_iff] at hfirst
        exact ⟨hfirst.1.1.1, hfirst.1.1.2⟩
      have haccount := hcompact hmapping.1
      have htrail : trailEntries id n = [] := by simp [trailEntries, hmapping.2]
      unfold Accounts at haccount
      rw [htrail]
      simp only [written_append, written_text, List.count_append, List.count_nil] at haccount ⊢
      omega
    · have haccount := hnested hkind
      unfold Accounts at haccount
      simp only [written_append, written_text, written_trailPieces, List.count_append]
      omega

/-- The items of a sequence, if what is below each is accounted for. -/
theorem count_itemsPieces (hm : m.IsWritable) (tags : Bool) (fuel : Nat)
    (nested : Bool → Nat → List Piece) (x : Entry) (indent : Nat) {ids : List Nat}
    (hids : ∀ i ∈ ids, ∃ n, m.node? i = some n ∧
      (n.kind = .mapping → Accounts m fuel x (firstHeadPieces m indent n ++ nested true i) i) ∧
      (n.kind ≠ .scalar → Accounts m fuel x (nested false i) i)) :
    (written (itemsPieces m tags nested indent ids)).count x +
        ((m.preorderFrom fuel ids).flatMap m.hiddenBelow).count x =
      ((m.preorderFrom (fuel + 1) ids).flatMap m.entriesAt).count x := by
  induction ids with
  | nil => simp [itemsPieces, preorderFrom_nil]
  | cons id ids ih =>
    have hrest := ih fun i hi => hids i (by simp [hi])
    obtain ⟨n, hn, hcompact, hnested⟩ := hids id (by simp)
    have hitem := count_itemPieces hm tags hn hcompact hnested
    have hhidden : m.preorderFrom fuel (id :: ids) =
        m.preorderFrom fuel [id] ++ m.preorderFrom fuel ids := preorderFrom_append [id] ids
    have hentries : m.entriesAt id = lineEntries (.head id) n.headComment ++ trailEntries id n ++
        lineEntries (.foot id) n.footComment := by
      rw [entriesAt, hn]
      rfl
    rw [itemsPieces] at hrest ⊢
    rw [List.flatMap_cons, hn, preorderFrom_cons, hhidden]
    simp only [List.flatMap_cons, List.flatMap_append, List.count_append, written_append,
      written_linePieces, hentries, List.cons_append]
    omega

/-- What is below a collection is accounted for. If its first key is on a line that has begun, the
comments above the key are left to what begins the line. -/
theorem count_collectionPieces (hm : m.IsWritable) (tags : Bool) (x : Entry) (fuel : Nat)
    (inline : Bool) {id : Nat} {n : Node} (hn : m.node? id = some n) (hkind : n.kind ≠ .scalar)
    (hinline : inline = true → n.kind = .mapping) (hfuel : m.nodes.size ≤ id + fuel) :
    (written (collectionPieces m tags fuel inline id)).count x +
        (if inline then (m.firstHead n.content).count x else 0) +
        ((m.preorderFrom fuel [id]).flatMap m.hiddenBelow).count x =
      ((m.preorderFrom fuel (m.contentOf id)).flatMap m.entriesAt).count x := by
  induction fuel generalizing id n inline with
  | zero =>
    have hlt : id < m.nodes.size := (Array.getElem?_eq_some_iff.1 hn).1
    omega
  | succ fuel ih =>
    have hdown {i : Nat} (hi : i ∈ n.content) : m.nodes.size ≤ i + fuel := by
      have hlt := hm.rising id n hn i hi
      omega
    have hbelow {i : Nat} {item : Node} (hi : i ∈ n.content) (hitem : m.node? i = some item)
        (hscalar : item.kind ≠ .scalar) :
        Accounts m fuel x (collectionPieces m tags fuel false i) i := by
      have haccount := ih false hitem hscalar nofun (hdown hi)
      simpa [Accounts] using haccount
    have hcontent : m.contentOf id = n.content := by rw [contentOf, hn]
    have hhidden : ((m.preorderFrom (fuel + 1) [id]).flatMap m.hiddenBelow).count x =
        (m.hiddenIn n).count x +
          ((m.preorderFrom fuel n.content).flatMap m.hiddenBelow).count x := by
      rw [preorderFrom_cons, preorderFrom_nil, List.append_nil, hcontent, List.flatMap_cons,
        List.count_append, hiddenBelow, hn]
      rfl
    rw [hhidden, hcontent, collectionPieces, hn]
    dsimp only
    cases hk : n.kind with
    | mapping =>
      obtain ⟨hne, heven, hpairs⟩ := hm.mapping id n hn hk
      have hcount := count_pairsPieces hm tags fuel (collectionPieces m tags fuel false) x n.indent
        inline heven fun k v hpair => ?_
      · dsimp only
        rw [hiddenIn, if_pos hk]
        omega
      · obtain ⟨hkey, value, hvalue, hfoot⟩ := hpairs k v hpair
        exact ⟨hkey, value, hvalue, hfoot, hbelow (mem_of_mem_pairsOf hpair).2 hvalue⟩
    | sequence =>
      have hflat : inline = false := by
        cases inline with
        | false => rfl
        | true =>
          rw [hinline rfl] at hk
          cases hk
      have hcount : _ = ((m.preorderFrom (fuel + 1) n.content).flatMap m.entriesAt).count x :=
        count_itemsPieces hm tags fuel (collectionPieces m tags fuel) x n.indent fun i hi => ?_
      · have hnone : m.hiddenIn n = [] := by simp [hiddenIn, hk]
        simp only [hflat, hnone, Bool.false_eq_true, if_false, List.count_nil]
        omega
      · obtain ⟨item, hitem⟩ := hm.sequence id n hn hk i hi
        refine ⟨item, hitem, fun hmapping => ?_, hbelow hi hitem⟩
        have haccount := ih true hitem (by simp [hmapping]) (fun _ => hmapping) (hdown hi)
        unfold Accounts
        simp only [if_true] at haccount
        rw [written_append, written_firstHeadPieces, List.count_append]
        omega
    | scalar => exact absurd hk hkind

end

/-! ### Manifests -/

/-- The comments that are stored with documents, from an index on. -/
def documentEntries (index : Nat) : List Root → List Entry
  | [] => []
  | root :: roots =>
    lineEntries (.document index) root.comment ++ documentEntries (index + 1) roots

/-- All comments of a manifest and where they are stored: those of the nodes, each before its
content, and those of the documents. -/
def stored (m : Manifest) : List Entry :=
  m.preorder.flatMap m.entriesAt ++ documentEntries 0 m.documents

/-- The comments that the writer passes over: those above a scalar that is the value of a key. -/
def hidden (m : Manifest) : List Entry := m.pairs.flatMap fun pair => m.hiddenAt pair.2

section

variable {m : Manifest} {tags : Bool}

theorem block_rootPieces (hm : m.IsWritable) (root : Root) :
    Block true (rootPieces m tags root) := by
  unfold rootPieces
  split
  · exact block_nil
  · next id _ =>
    split
    · exact block_nil
    · next n hn =>
      split
      · have hlead : ∀ p ∈ .text (spaces n.indent ++ n.scalarText tags) :: trailPieces id n,
            p.isLine = false := by
          intro p hp
          rcases List.mem_cons.1 hp with rfl | hp
          · rfl
          · exact isLine_trailPieces p hp
        have hline : Block true _ :=
          Block.line hlead (block_linePieces (.foot id) n.footComment n.indent)
        exact (block_linePieces _ _ _).append hline
      · next hkind =>
        have hkind : n.kind ≠ .scalar := by simpa [Node.isScalar] using hkind
        exact block_collectionPieces hm hn hkind (by simp) (fun _ => rfl) (by omega)

theorem block_documentsPieces (hm : m.IsWritable) (index : Nat) (isFirst : Bool)
    (roots : List Root) : Block true (documentsPieces m index isFirst roots) := by
  induction roots generalizing index isFirst with
  | nil => exact block_nil
  | cons root roots ih =>
    have hdocument : Block true (documentPieces m true index root) :=
      (block_rootPieces hm root).append (block_linePieces _ _ _)
    refine Block.append (Block.text _ ?_) (ih (index + 1) false)
    split
    · exact hdocument
    · exact hdocument

theorem count_rootPieces (hm : m.IsWritable) (tags : Bool) (x : Entry) {root : Root} {id : Nat}
    {n : Node} (hid : root.node = some id) (hn : m.node? id = some n)
    (hbare : n.kind ≠ .scalar → n.comments = []) :
    (written (rootPieces m tags root)).count x +
        ((m.preorderFrom (m.nodes.size + 1) [id]).flatMap m.hiddenBelow).count x =
      ((m.preorderFrom (m.nodes.size + 2) [id]).flatMap m.entriesAt).count x := by
  have hentries : m.entriesAt id = n.entries id := by rw [entriesAt, hn]; rfl
  have hbelow : ((m.preorderFrom (m.nodes.size + 2) [id]).flatMap m.entriesAt).count x =
      (n.entries id).count x +
        ((m.preorderFrom (m.nodes.size + 1) (m.contentOf id)).flatMap m.entriesAt).count x := by
    rw [preorderFrom_cons, preorderFrom_nil, List.append_nil, List.flatMap_cons, hentries,
      List.count_append]
  rw [hbelow, rootPieces, hid]
  dsimp only
  rw [hn]
  dsimp only
  split
  · next hkind =>
    have hkind : n.kind = .scalar := by simpa [Node.isScalar] using hkind
    rw [hiddenBelow_scalar hm hn hkind _, hm.contentOf_scalar hn hkind, preorderFrom_nil]
    simp [scalarLinePieces, Node.entries]
  · next hkind =>
    have hkind : n.kind ≠ .scalar := by simpa [Node.isScalar] using hkind
    have hnone : n.entries id = [] := by
      have hcomments := n.map_comment_entries id
      rwa [hbare hkind, List.map_eq_nil_iff] at hcomments
    have hcount := count_collectionPieces hm tags x (m.nodes.size + 1) false hn hkind (by simp)
      (by omega)
    simp only [hnone, List.count_nil, Bool.false_eq_true, if_false] at hcount ⊢
    omega

theorem count_documentsPieces (hm : m.IsWritable) (x : Entry) (index : Nat) (isFirst : Bool)
    {roots : List Root} (hroots : ∀ id ∈ roots.filterMap Root.node, ∃ n, m.node? id = some n ∧
      (n.kind ≠ .scalar → n.comments = [])) :
    (written (documentsPieces m index isFirst roots)).count x +
        ((m.preorderFrom (m.nodes.size + 1) (roots.filterMap Root.node)).flatMap
          m.hiddenBelow).count x =
      ((m.preorderFrom (m.nodes.size + 2) (roots.filterMap Root.node)).flatMap
        m.entriesAt).count x + (documentEntries index roots).count x := by
  induction roots generalizing index isFirst with
  | nil => simp [documentsPieces, preorderFrom_nil, documentEntries]
  | cons root roots ih =>
    have hrest := ih (index + 1) false fun id hid => hroots id (by
      rw [List.filterMap_cons]
      split
      · exact hid
      · exact List.mem_cons_of_mem _ hid)
    cases hnode : root.node with
    | none =>
      have hempty : written (rootPieces m true root) = [] := by simp [rootPieces, hnode]
      simp only [List.filterMap_cons, hnode, documentsPieces, documentPieces, documentEntries,
        written_append, written_text, written_linePieces, List.count_append, List.cons_append,
        hempty, List.count_nil]
      omega
    | some id =>
      obtain ⟨n, hn, hbare⟩ := hroots id (by simp [hnode])
      have hroot := count_rootPieces hm true x hnode hn hbare
      have hsplit (fuel : Nat) : m.preorderFrom fuel (id :: roots.filterMap Root.node) =
          m.preorderFrom fuel [id] ++ m.preorderFrom fuel (roots.filterMap Root.node) :=
        preorderFrom_append [id] _
      simp only [List.filterMap_cons, hnode, hsplit, documentsPieces, documentPieces,
        documentEntries, written_append, written_text, written_linePieces, List.count_append,
        List.cons_append, List.flatMap_append]
      omega

/-- The comments that are passed over, node by node. -/
theorem hidden_eq (m : Manifest) :
    m.hidden = (List.range m.nodes.size).flatMap m.hiddenBelow := by
  have hrange : (List.range m.nodes.size).flatMap m.hiddenBelow =
      m.nodes.toList.flatMap m.hiddenIn := flatMap_range_elim m.nodes m.hiddenIn
  rw [hrange, hidden, pairs, List.flatMap_assoc]
  rfl

theorem count_of_written {text : String} (h : parse text = .ok m) (x : Entry) :
    (written m.pieces).count x + m.hidden.count x = m.stored.count x := by
  have hm := isWritable_of_parse h
  have hcount : _ = _ + (documentEntries 0 m.documents).count x :=
    count_documentsPieces hm x 0 true fun id hid => ?_
  · have hspans := preorderFrom_of_spans (spans_of_parse h)
    have hrange := preorder_of_parse h
    have hmore : m.preorderFrom (m.nodes.size + 2) m.roots = List.range m.nodes.size := by
      rw [hspans (m.nodes.size + 2) (by omega), List.range_eq_range']
      rfl
    have hroots : m.documents.filterMap Root.node = m.roots := rfl
    rw [preorder] at hrange
    rw [hroots, hrange, hmore, ← hidden_eq] at hcount
    rw [pieces, stored, preorder, hrange, List.count_append]
    exact hcount
  · obtain ⟨n, hn, hbare⟩ := (addsDocuments_of_parse h).bare id hid
    exact ⟨n, hn, hbare⟩

end

/-- A manifest that was read is written piece by piece. Comments above and below nodes and those of
documents are on lines of their own, and those behind nodes are at the end of a line. Each comment
that is stored is written once, except those that are hidden; so all are written exactly when none
is above a scalar that is the value of a key. -/
theorem written_of_parse {text : String} {m : Manifest} (h : parse text = .ok m) :
    m.text.toList = join m.pieces ∧
      (∀ before after slot indent comment,
        m.pieces = before ++ .line slot indent comment :: after →
          '\n' ∉ comment ∧ ∀ c ∈ (join before).getLast?, c = '\n') ∧
      (written m.pieces ++ m.hidden).Perm m.stored ∧
      ((written m.pieces).Perm m.stored ↔ m.hidden = []) := by
  have hperm : (written m.pieces ++ m.hidden).Perm m.stored := by
    rw [List.perm_iff_count]
    intro x
    rw [List.count_append, count_of_written h]
  refine ⟨(join_pieces m).symm, fun before after slot indent comment hpieces => ?_, hperm,
    fun hall => ?_, fun hhidden => ?_⟩
  · have hblock := (block_documentsPieces (isWritable_of_parse h) 0 true m.documents).lines
    rw [← pieces, hpieces] at hblock
    exact hblock.of_append
  · have hlength := hperm.length_eq
    rw [List.length_append, hall.length_eq] at hlength
    exact List.length_eq_zero_iff.1 (by omega)
  · rwa [hhidden, List.append_nil] at hperm

/-- Comments above, behind and below keys and items, behind a key and a bare dash, above a first key
behind a dash, behind an indicator and below a scalar are all written. -/
theorem written_of_parse_all : ∃ m,
    parse ("# a\nk: v # b\n  # c\ns: # d\n  # e\n  - # f\n    # g\n    x: y # h\n  # i\n# j\n" ++
      "--- # k\n|\n  z\n# l\n") = .ok m ∧ m.stored.length = 12 ∧ m.hidden = [] ∧
      (written m.pieces).Perm m.stored := by
  have h : (parse ("# a\nk: v # b\n  # c\ns: # d\n  # e\n  - # f\n    # g\n    x: y # h\n  # i\n" ++
      "# j\n--- # k\n|\n  z\n# l\n")).toOption.map (fun m => (m.stored.length, m.hidden)) =
        some (12, []) := by
    rw [parse_eq_ite, String.toList_append, String.toList_ofList, String.toList_ofList]
    with_unfolding_all decide
  obtain ⟨m, hm, hfacts⟩ := Option.map_eq_some_iff.1 h
  obtain ⟨hlength, hhidden⟩ := Prod.mk.inj hfacts
  have hm := eq_ok_of_toOption hm
  exact ⟨m, hm, hlength, hhidden, (written_of_parse hm).2.2.2.2 hhidden⟩

/-- The comment above a scalar below its key is stored, and it is not written. -/
theorem not_written_of_value_comment : ∃ m, parse "a:\n  # c\n  x\n" = .ok m ∧
    m.text = "a: x\n" ∧ m.stored = [⟨.head 2, "# c".toList⟩] ∧ written m.pieces = [] ∧
      ¬ (written m.pieces).Perm m.stored := by
  have h : (parse "a:\n  # c\n  x\n").toOption.map (fun m => (m.text, m.stored, written m.pieces)) =
      some ("a: x\n", [⟨.head 2, "# c".toList⟩], []) := by
    with_unfolding_all decide
  obtain ⟨m, hm, hfacts⟩ := Option.map_eq_some_iff.1 h
  obtain ⟨htext, hstored, hwritten⟩ := by simpa using hfacts
  refine ⟨m, eq_ok_of_toOption hm, htext, hstored, hwritten, fun hperm => ?_⟩
  rw [hstored, hwritten] at hperm
  cases hperm.symm.eq_nil

end ManifestMarkers.Manifest
