import ManifestMarkers.Proofs.StreamComments
import ManifestMarkers.Proofs.WrittenComments

/-!
# Pieces without some of their comment lines

* `prune` leaves out the comment lines of some places, and `behind` is what follows each of them.
* `Pruned` says so step by step, and that each comment line is one line for YAML and stands before a
  line of the same indentation; `Pruned.scan?` says that then the tokens stay the same, if what
  follows the comment lines are tokens.
* `Node.Reheaded` are nodes that differ in their head comments only. Two manifests of such nodes are
  written with and without some comment lines (`pruned_documentPieces`), and are the same to YAML
  (`scan?_documentText`).
-/

namespace ManifestMarkers

open Manifest

namespace Yaml

/-- Whether a line is one for YAML too. A carriage return at its end is part of the line break. -/
def isOneLine (line : List Char) : Bool :=
  (if line.getLast? = some '\r' then line.dropLast else line).all fun c => !isBreak c && isAllowed c

theorem exists_of_isOneLine {line : List Char} (h : isOneLine line = true) :
    ∃ r, (∀ c ∈ r, isBreak c = false ∧ isAllowed c = true) ∧
      (line = r ∨ line = r ++ ['\r']) := by
  unfold isOneLine at h
  split at h
  · next hlast =>
    refine ⟨line.dropLast, by simpa using h, .inr ?_⟩
    exact (List.dropLast_append_getLast? '\r' hlast).symm
  · exact ⟨line, by simpa using h, .inl rfl⟩

theorem isOneLine_cons {c : Char} {line : List Char} (hbreak : isBreak c = false)
    (hallowed : isAllowed c = true) (h : isOneLine line = true) :
    isOneLine (c :: line) = true := by
  unfold isOneLine at h ⊢
  cases line with
  | nil =>
    have hne : c ≠ '\r' := by
      rintro rfl
      exact absurd hbreak (by decide)
    simp [hne, hbreak, hallowed]
  | cons d line =>
    rw [List.getLast?_cons_cons]
    split
    · next hlast =>
      rw [if_pos hlast] at h
      simpa [hbreak, hallowed] using h
    · next hlast =>
      rw [if_neg hlast] at h
      simpa [hbreak, hallowed] using h

end Yaml

namespace Manifest

/-- Whether a piece is a comment line that is stored in a place of a certain kind. -/
def Piece.isIn (gone : Slot → Bool) : Piece → Bool
  | line slot _ _ => gone slot
  | _ => false

/-- Pieces without the comment lines of some places. -/
def prune (gone : Slot → Bool) (ps : List Piece) : List Piece := ps.filter fun p => !p.isIn gone

/-- What follows each comment line that is left out, behind the indentation. -/
def behind (gone : Slot → Bool) : List Piece → List (List Char)
  | [] => []
  | .line slot indent _ :: ps =>
    if gone slot then (join (prune gone ps)).drop indent :: behind gone ps else behind gone ps
  | _ :: ps => behind gone ps

/-- Pieces, and the same without some comment lines, each before a line of the same indentation. -/
inductive Pruned (gone : Slot → Bool) : List Piece → List Piece → Prop
  | nil : Pruned gone [] []
  | keep {p : Piece} {ps qs : List Piece} (hp : p.isIn gone = false) (h : Pruned gone ps qs) :
    Pruned gone (p :: ps) (p :: qs)
  | drop {slot : Slot} {indent : Nat} {line : List Char} {ps qs : List Piece}
    (hgone : gone slot = true) (hline : Yaml.isOneLine line = true)
    (hspaces : spaces indent <+: join qs) (h : Pruned gone ps qs) :
    Pruned gone (.line slot indent ('#' :: line) :: ps) qs

variable {gone : Slot → Bool} {ps qs ps' qs' : List Piece}

theorem Pruned.prune_eq (h : Pruned gone ps qs) : prune gone ps = qs := by
  induction h with
  | nil => rfl
  | keep hp _ ih =>
    rw [prune, List.filter_cons_of_pos (by simp [hp])]
    exact congrArg _ ih
  | drop hgone _ _ _ ih =>
    rw [prune, List.filter_cons_of_neg (by simp [Piece.isIn, hgone])]
    exact ih

theorem Pruned.append (h : Pruned gone ps qs) (h' : Pruned gone ps' qs') :
    Pruned gone (ps ++ ps') (qs ++ qs') := by
  induction h with
  | nil => exact h'
  | keep hp _ ih => exact .keep hp ih
  | drop hgone hline hspaces _ ih =>
    refine .drop hgone hline ?_ ih
    rw [join_append]
    exact hspaces.trans (List.prefix_append _ _)

/-- Pieces without comment lines of these places. -/
theorem Pruned.refl (h : ∀ p ∈ ps, p.isIn gone = false) : Pruned gone ps ps := by
  induction ps with
  | nil => exact .nil
  | cons p ps ih =>
    rw [List.forall_mem_cons] at h
    exact .keep h.1 (ih h.2)

theorem Pruned.suffix_of_mem_behind (h : Pruned gone ps qs) {x : List Char}
    (hx : x ∈ behind gone ps) : x <:+ join qs := by
  induction h with
  | nil => cases hx
  | @keep p ps qs hp h ih =>
    have hx : x ∈ behind gone ps := by
      cases p with
      | line slot indent comment =>
        have hp : gone slot = false := hp
        simpa [behind, hp] using hx
      | text => exact hx
      | trail => exact hx
    exact (ih hx).trans (List.suffix_append _ _)
  | drop hgone _ _ h ih =>
    rw [behind, if_pos hgone, List.mem_cons] at hx
    rcases hx with rfl | hx
    · rw [h.prune_eq]
      exact List.drop_suffix _ _
    · exact ih hx

/-- The end of an indented line that starts with no blank is behind the indentation. -/
theorem length_le_of_suffix {x cs : List Char} {c : Char} {k : Nat}
    (hx : c :: x <:+ spaces k ++ cs) (hc : Yaml.isSpaceOrTab c = false) :
    x.length + 1 ≤ cs.length := by
  induction k with
  | zero => simpa [spaces] using hx.length_le
  | succ k ih =>
    rw [spaces, List.replicate_succ, List.cons_append, List.suffix_cons_iff] at hx
    rcases hx with heq | hx
    · cases heq
      exact absurd hc (by decide)
    · exact ih hx

theorem exists_of_endsLine {cs : List Char} (h : endsLine true cs = true) :
    cs = [] ∨ ∃ q, cs = q ++ ['\n'] := by
  unfold endsLine at h
  cases hlast : cs.getLast? with
  | none => exact .inl (List.getLast?_eq_none_iff.1 hlast)
  | some c =>
    rw [hlast] at h
    obtain rfl : c = '\n' := by simpa using h
    exact .inr (List.getLast?_eq_some_iff.1 hlast)

/-- A comment line in YAML's terms. -/
theorem chars_of_isOneLine (slot : Slot) (indent : Nat) {line : List Char}
    (h : Yaml.isOneLine line = true) :
    ∃ r nl, (∀ c ∈ r, Yaml.isBreak c = false ∧ Yaml.isAllowed c = true) ∧
      (nl = ['\n'] ∨ nl = ['\r', '\n']) ∧
      Piece.chars (.line slot indent ('#' :: line)) = spaces indent ++ '#' :: (r ++ nl) := by
  obtain ⟨r, hr, rfl | rfl⟩ := Yaml.exists_of_isOneLine h
  · exact ⟨line, ['\n'], hr, .inl rfl, by simp [Piece.chars]⟩
  · exact ⟨r, ['\r', '\n'], hr, .inr rfl, by simp [Piece.chars]⟩

/-- Comment lines before tokens do not change the tokens of a text. -/
theorem Pruned.scan? (h : Pruned gone ps qs) (done : List Char)
    (hlines : OnLines (endsLine true done) ps)
    (hbehind : ∀ x ∈ behind gone ps, x ∈ Yaml.starts (done ++ join qs)) :
    Yaml.scan? (done ++ join ps) = Yaml.scan? (done ++ join qs) := by
  induction h generalizing done with
  | nil => rfl
  | @keep p ps qs hp h ih =>
    have hsame : behind gone (p :: ps) = behind gone ps := by
      cases p with
      | line slot indent comment =>
        have hp : gone slot = false := hp
        simp [behind, hp]
      | text => rfl
      | trail => rfl
    rw [hsame] at hbehind
    rw [join_cons, join_cons, ← List.append_assoc, ← List.append_assoc]
    refine ih _ ?_ ?_
    · rw [endsLine_append]
      exact hlines.2
    · simpa using hbehind
  | @drop slot indent line ps qs hgone hline hspaces h ih =>
    obtain ⟨x, hx⟩ := hspaces
    rw [behind, if_pos hgone, List.forall_mem_cons, h.prune_eq, ← hx,
      List.drop_left' (by simp [spaces])] at hbehind
    obtain ⟨hstart, hbehind⟩ := hbehind
    obtain ⟨c, cs, rfl, -, -⟩ := Yaml.Scan.exists_of_mem_starts hstart
    obtain ⟨r, nl, hr, hnl, hchars⟩ := chars_of_isOneLine slot indent hline
    obtain ⟨hscan, hstarts⟩ :=
      Yaml.scan?_comment (exists_of_endsLine (hlines.1 rfl).1) hr hnl hstart
    have htext : done ++ Piece.chars (.line slot indent ('#' :: line)) ++ join qs =
        done ++ (List.replicate indent ' ' ++
          '#' :: (r ++ (nl ++ (List.replicate indent ' ' ++ c :: cs)))) := by
      rw [hchars, ← hx]
      simp [spaces]
    rw [join_cons, ← List.append_assoc, ← hx]
    rw [← htext] at hscan hstarts
    refine (ih _ ?_ fun x hx' => hstarts x (hbehind x hx') ?_).trans hscan
    · rw [endsLine_append]
      exact hlines.2
    · -- what is further behind is no longer
      obtain ⟨d, ds, rfl, hd, -⟩ := Yaml.Scan.exists_of_mem_starts (hbehind x hx')
      have hsuffix := h.suffix_of_mem_behind hx'
      rw [← hx] at hsuffix
      simpa using length_le_of_suffix hsuffix hd

/-! ### Manifests with the same nodes but for head comments -/

/-- Manifests with the same documents, whose nodes are related. -/
structure Nodewise (R : Nat → Node → Node → Prop) (m m' : Manifest) : Prop where
  documents : m.documents = m'.documents
  size : m.nodes.size = m'.nodes.size
  node : ∀ id, Option.Rel (R id) (m.node? id) (m'.node? id)

theorem Nodewise.node_cases {R : Nat → Node → Node → Prop} {m m' : Manifest}
    (h : Nodewise R m m') (id : Nat) : (m.node? id = none ∧ m'.node? id = none) ∨
      ∃ n n', m.node? id = some n ∧ m'.node? id = some n' ∧ R id n n' := by
  have hnode := h.node id
  generalize m.node? id = x at hnode ⊢
  generalize m'.node? id = y at hnode ⊢
  cases hnode with
  | none => exact .inl ⟨rfl, rfl⟩
  | some hn => exact .inr ⟨_, _, rfl, rfl, hn⟩

/-- The same node with another head comment. Where there was none, the node is a scalar and the
comment has lines of `lines`. -/
def Node.Reheaded (lines : List (List Char)) (n n' : Node) : Prop :=
  ∃ head, n = { n' with headComment := head } ∧ (head = n'.headComment ∨
    n'.kind = .scalar ∧ n'.headComment = "" ∧
      ∀ part ∈ commentParts head, ∃ line ∈ lines, part = '#' :: ' ' :: line)

/-- The places of head comments that two manifests do not share. -/
def differs (m m' : Manifest) : Slot → Bool
  | .head id => (m.node? id).map Node.headComment != (m'.node? id).map Node.headComment
  | _ => false

section

variable {lines : List (List Char)} {m m' : Manifest} {tags : Bool} {indent : Nat}
  {ps qs : List Piece}

theorem isIn_trailPieces (gone : Slot → Bool) (id : Nat) (n : Node) :
    ∀ p ∈ trailPieces id n, p.isIn gone = false := by
  intro p hp
  obtain ⟨comment, -, rfl⟩ := List.mem_map.1 hp
  rfl

theorem isIn_linePieces {gone : Slot → Bool} {slot : Slot} (hslot : gone slot = false)
    (text : String) (indent : Nat) : ∀ p ∈ linePieces slot text indent, p.isIn gone = false := by
  intro p hp
  obtain ⟨comment, -, rfl⟩ := List.mem_map.1 hp
  exact hslot

theorem pruned_foot (id : Nat) (text : String) (indent : Nat) :
    Pruned (differs m m') (linePieces (.foot id) text indent)
      (linePieces (.foot id) text indent) :=
  .refl (isIn_linePieces rfl text indent)

theorem spaces_prefix_linePieces (slot : Slot) (text : String) (h : spaces indent <+: join qs) :
    spaces indent <+: join (linePieces slot text indent ++ qs) := by
  unfold linePieces
  cases commentParts text with
  | nil => exact h
  | cons part parts =>
    simp only [List.map_cons, List.cons_append, join_cons, Piece.chars, List.append_assoc]
    exact List.prefix_append _ _

/-- The head comment of a node. -/
theorem pruned_head (hlines : ∀ line ∈ lines, Yaml.isOneLine line = true) {id : Nat}
    {n n' : Node} (hn : m.node? id = some n) (hn' : m'.node? id = some n')
    (h : n.Reheaded lines n') (hspaces : spaces indent <+: join qs)
    (hrest : Pruned (differs m m') ps qs) :
    Pruned (differs m m') (linePieces (.head id) n.headComment indent ++ ps)
      (linePieces (.head id) n'.headComment indent ++ qs) := by
  by_cases hsame : n.headComment = n'.headComment
  · rw [hsame]
    refine Pruned.append (.refl (isIn_linePieces ?_ _ _)) hrest
    simp [differs, hn, hn', hsame]
  · obtain ⟨head, rfl, heq | ⟨-, hempty, hparts⟩⟩ := h
    · exact absurd heq hsame
    · have hgone : differs m m' (.head id) = true := by simpa [differs, hn, hn'] using hsame
      rw [hempty]
      change Pruned _ ((commentParts head).map (.line (.head id) indent ·) ++ ps) qs
      clear hn hsame
      generalize commentParts head = parts at hparts
      induction parts with
      | nil => exact hrest
      | cons part parts ih =>
        rw [List.forall_mem_cons] at hparts
        obtain ⟨⟨line, hline, rfl⟩, hparts⟩ := hparts
        have hspace : Yaml.isOneLine (' ' :: line) = true :=
          Yaml.isOneLine_cons (by decide) (by decide) (hlines line hline)
        exact .drop hgone hspace hspaces (ih hparts)

end

section

variable {lines : List (List Char)} {m m' : Manifest} {tags : Bool} {indent id : Nat} {n n' : Node}

/-- What a head comment has no part in. -/
theorem Node.Reheaded.same (h : n.Reheaded lines n') :
    n.kind = n'.kind ∧ n.content = n'.content ∧ n.lineComment = n'.lineComment ∧
      n.footComment = n'.footComment ∧ n.indent = n'.indent ∧ n.scalarText = n'.scalarText ∧
      n.properties = n'.properties ∧ isCompact n = isCompact n' := by
  obtain ⟨head, rfl, -⟩ := h
  exact ⟨rfl, rfl, rfl, rfl, rfl, rfl, rfl, rfl⟩

theorem Node.Reheaded.isScalar_eq (h : n.Reheaded lines n') : n.isScalar = n'.isScalar := by
  unfold Node.isScalar
  rw [h.same.1]

theorem Node.Reheaded.trailPieces_eq (h : n.Reheaded lines n') (id : Nat) :
    trailPieces id n = trailPieces id n' := by
  unfold trailPieces
  rw [h.same.2.2.1]

/-- Only a scalar has another head comment. -/
theorem Node.Reheaded.headComment_eq (h : n.Reheaded lines n') (hkind : n'.kind ≠ .scalar) :
    n.headComment = n'.headComment := by
  obtain ⟨head, rfl, heq | ⟨hscalar, -⟩⟩ := h
  · exact heq
  · exact absurd hscalar hkind

variable (hm : Nodewise (fun _ => Node.Reheaded lines) m m')
  (hlines : ∀ line ∈ lines, Yaml.isOneLine line = true)

include hm hlines

omit hm hlines in
theorem pruned_valuePieces {nested nested' : Nat → List Piece} {k : Nat} {key key' : Node}
    (hkey : key.Reheaded lines key') (hn : m.node? id = some n) (hn' : m'.node? id = some n')
    (h : n.Reheaded lines n')
    (hnested : n'.kind ≠ .scalar → Pruned (differs m m') (nested id) (nested' id)) :
    Pruned (differs m m') (valuePieces m tags nested k key id)
      (valuePieces m' tags nested' k key' id) := by
  obtain ⟨-, -, -, -, hindent, htext, hproperties, -⟩ := h.same
  have hlead : ∀ p ∈ trailPieces k key' ++ trailPieces id n', p.isIn (differs m m') = false := by
    intro p hp
    rcases List.mem_append.1 hp with hp | hp
    · exact isIn_trailPieces _ _ _ p hp
    · exact isIn_trailPieces _ _ _ p hp
  unfold valuePieces
  rw [hn, hn']
  dsimp only
  rw [h.isScalar_eq, hkey.trailPieces_eq, h.trailPieces_eq, htext, hproperties, hindent]
  split
  · exact .keep rfl ((Pruned.refl hlead).append (.keep rfl .nil))
  · next hkind =>
    have hkind : n'.kind ≠ .scalar := by simpa [Node.isScalar] using hkind
    have hhead : Pruned (differs m m') (linePieces (.head id) n.headComment n'.indent)
        (linePieces (.head id) n'.headComment n'.indent) := by
      rw [h.headComment_eq hkind]
      refine .refl (isIn_linePieces ?_ _ _)
      simp [differs, hn, hn', h.headComment_eq hkind]
    exact .keep rfl ((Pruned.refl hlead).append (.keep rfl (hhead.append (hnested hkind))))

theorem pruned_pairsPieces {nested nested' : Nat → List Piece} {inline : Bool} {ids : List Nat}
    (hnested : ∀ id n', m'.node? id = some n' → n'.kind ≠ .scalar →
      Pruned (differs m m') (nested id) (nested' id)) :
    Pruned (differs m m') (pairsPieces m tags nested indent inline ids)
      (pairsPieces m' tags nested' indent inline ids) := by
  fun_induction pairsPieces m tags nested indent inline ids with
  | case1 inline k v rest ih =>
    rw [pairsPieces]
    refine Pruned.append ?_ ih
    rcases hm.node_cases k with ⟨hk, hk'⟩ | ⟨key, key', hk, hk', hkey⟩
    · rw [hk, hk']
      exact .nil
    · rw [hk, hk']
      dsimp only
      obtain ⟨-, -, -, hfoot, -, htext, -⟩ := hkey.same
      have hvalue : Pruned (differs m m') (valuePieces m tags nested k key v)
          (valuePieces m' tags nested' k key' v) := by
        rcases hm.node_cases v with ⟨hv, hv'⟩ | ⟨n, n', hv, hv', hn⟩
        · unfold valuePieces
          rw [hv, hv']
          exact .nil
        · exact pruned_valuePieces hkey hv hv' hn fun hkind => hnested v n' hv' hkind
      have hpair : Pruned (differs m m')
          (.text (key'.scalarText false ++ [':']) ::
            (valuePieces m tags nested k key v ++ linePieces (.foot k) key'.footComment indent))
          (.text (key'.scalarText false ++ [':']) ::
            (valuePieces m' tags nested' k key' v ++
              linePieces (.foot k) key'.footComment indent)) :=
        .keep rfl (hvalue.append (pruned_foot k key'.footComment indent))
      rw [htext, hfoot]
      cases inline with
      | true => exact hpair
      | false =>
        simp only [Bool.false_eq_true, if_false, List.append_assoc]
        refine pruned_head hlines hk hk' hkey ?_ (.keep rfl hpair)
        exact List.prefix_append _ _
  | case2 ids inline hids =>
    unfold pairsPieces
    split
    · exact absurd rfl (hids _ _ _)
    · exact .nil

theorem pruned_itemPieces {nested nested' : Bool → Nat → List Piece}
    (h : n.Reheaded lines n') (hnested : ∀ inline, n'.kind ≠ .scalar →
      Pruned (differs m m') (nested inline id) (nested' inline id)) :
    Pruned (differs m m') (itemPieces m tags nested indent id n)
      (itemPieces m' tags nested' indent id n') := by
  obtain ⟨-, hcontent, -, -, hindent, htext, hproperties, hcompact⟩ := h.same
  unfold itemPieces
  rw [h.isScalar_eq, h.trailPieces_eq, htext, hproperties, hindent, hcompact]
  have htrail := Pruned.refl (isIn_trailPieces (differs m m') id n')
  split
  · exact .keep rfl (htrail.append (.keep rfl .nil))
  · next hkind =>
    have hkind : n'.kind ≠ .scalar := by simpa [Node.isScalar] using hkind
    split
    · have hrest : Pruned (differs m m')
          (.text (spaces indent ++ '-' :: spaces (max (n'.indent - (indent + 1)) 1)) ::
            nested true id)
          (.text (spaces indent ++ '-' :: spaces (max (n'.indent - (indent + 1)) 1)) ::
            nested' true id) := .keep rfl (hnested true hkind)
      unfold firstHeadPieces
      rw [hcontent]
      cases n'.content.head? with
      | none => exact hrest
      | some k =>
        dsimp only
        rcases hm.node_cases k with ⟨hk, hk'⟩ | ⟨key, key', hk, hk', hkey⟩
        · rw [hk, hk']
          exact hrest
        · rw [hk, hk']
          refine pruned_head hlines hk hk' hkey ?_ hrest
          simp [Piece.chars]
    · exact .keep rfl (htrail.append (.keep rfl (hnested false hkind)))

omit hm hlines in
theorem spaces_prefix_itemPieces {nested : Bool → Nat → List Piece} (ps : List Piece) :
    spaces indent <+: join (itemPieces m tags nested indent id n ++ ps) := by
  unfold itemPieces
  split
  · simp [Piece.chars]
  · split
    · have hrest : spaces indent <+:
          join (.text (spaces indent ++ '-' :: spaces (max (n.indent - (indent + 1)) 1)) ::
            nested true id ++ ps) := by
        simp [Piece.chars]
      unfold firstHeadPieces
      rw [List.append_assoc]
      split
      · exact hrest
      · next k _ =>
        cases m.node? k with
        | none => exact hrest
        | some key => exact spaces_prefix_linePieces _ _ hrest
    · simp [Piece.chars]

theorem pruned_itemsPieces {nested nested' : Bool → Nat → List Piece} {ids : List Nat}
    (hnested : ∀ inline id n', m'.node? id = some n' → n'.kind ≠ .scalar →
      Pruned (differs m m') (nested inline id) (nested' inline id)) :
    Pruned (differs m m') (itemsPieces m tags nested indent ids)
      (itemsPieces m' tags nested' indent ids) := by
  induction ids with
  | nil => exact .nil
  | cons id ids ih =>
    rw [itemsPieces, itemsPieces, List.flatMap_cons, List.flatMap_cons]
    refine Pruned.append ?_ ih
    rcases hm.node_cases id with ⟨hn, hn'⟩ | ⟨n, n', hn, hn', h⟩
    · rw [hn, hn']
      exact .nil
    · rw [hn, hn']
      dsimp only
      rw [h.same.2.2.2.1, List.append_assoc, List.append_assoc]
      refine pruned_head hlines hn hn' h (spaces_prefix_itemPieces _) ?_
      exact (pruned_itemPieces hm hlines h fun inline hkind =>
        hnested inline id n' hn' hkind).append (pruned_foot id n'.footComment indent)

theorem pruned_collectionPieces (fuel : Nat) (inline : Bool) (id : Nat) :
    Pruned (differs m m') (collectionPieces m tags fuel inline id)
      (collectionPieces m' tags fuel inline id) := by
  induction fuel generalizing inline id with
  | zero => exact .nil
  | succ fuel ih =>
    unfold collectionPieces
    rcases hm.node_cases id with ⟨hn, hn'⟩ | ⟨n, n', hn, hn', h⟩
    · rw [hn, hn']
      exact .nil
    · rw [hn, hn']
      dsimp only
      obtain ⟨hkind, hcontent, -, -, hindent, -⟩ := h.same
      rw [hkind, hcontent, hindent]
      cases n'.kind with
      | mapping => exact pruned_pairsPieces hm hlines fun id _ _ _ => ih false id
      | sequence => exact pruned_itemsPieces hm hlines fun inline id _ _ _ => ih inline id
      | scalar => exact .nil

theorem pruned_documentPieces (index : Nat) (root : Root) :
    Pruned (differs m m') (documentPieces m tags index root)
      (documentPieces m' tags index root) := by
  unfold documentPieces rootPieces
  refine Pruned.append ?_ (.refl (isIn_linePieces rfl _ _))
  split
  · exact .nil
  · next id _ =>
    rcases hm.node_cases id with ⟨hn, hn'⟩ | ⟨n, n', hn, hn', h⟩
    · rw [hn, hn']
      exact .nil
    · rw [hn, hn']
      dsimp only
      obtain ⟨-, -, -, hfoot, hindent, htext, -⟩ := h.same
      rw [h.isScalar_eq, hm.size, hindent]
      split
      · unfold scalarLinePieces
        rw [htext, hfoot, h.trailPieces_eq]
        refine pruned_head hlines hn hn' h ?_ (.keep rfl ?_)
        · simp [Piece.chars]
        · exact (Pruned.refl (isIn_trailPieces _ _ _)).append
            (.keep rfl (pruned_foot id n'.footComment n'.indent))
      · exact pruned_collectionPieces hm hlines _ _ _

/-- Comment lines before tokens do not change the tokens of a document. -/
theorem scan?_documentText (hwritable : m.IsWritable) (index : Nat) (root : Root)
    (hbehind : ∀ x ∈ behind (differs m m') (documentPieces m tags index root),
      x ∈ Yaml.starts (documentText m' tags root)) :
    Yaml.scan? (documentText m tags root) = Yaml.scan? (documentText m' tags root) := by
  have hblock : Block true (documentPieces m tags index root) :=
    (block_rootPieces hwritable root).append (block_linePieces _ _ _)
  have hpruned : Pruned (differs m m') (documentPieces m tags index root)
      (documentPieces m' tags index root) := pruned_documentPieces hm hlines index root
  have hscan := hpruned.scan? [] hblock.lines (by simpa [join_documentPieces] using hbehind)
  simpa [join_documentPieces] using hscan

end

end Manifest

end ManifestMarkers
