import Mathlib.Data.List.Count
import ManifestMarkers.Proofs.InlineValues
import ManifestMarkers.Proofs.ManifestOrder

/-!
# Comments of a build

Comments wait until the node they belong to is known, and then they go to it. This module says what
each change of a build does to its comments: those of the nodes and those that wait.

* `IsComment`: comments are single lines, so joining them loses nothing
  (`commentParts_joinPending`).
* `hasTrail_of_scalarNode`: a scalar has the comments that are read with it.
* `Build.comments` with one lemma for each change of a build. Most changes move comments from those
  that wait to a node; `count_setItem` says which ones an item loses.
-/

namespace ManifestMarkers.Manifest

/-! ### Comments as lines -/

/-- The text of a comment on a line. -/
structure IsComment (text : List Char) : Prop where
  ne_nil : text ≠ []
  oneLine : '\n' ∉ text

/-- Comments that wait, and each is one line. -/
def PlainPending (ps : List Pending) : Prop := ∀ p ∈ ps, IsComment p.text

@[simp] theorem commentParts_empty : commentParts "" = [] := rfl

@[simp] theorem presentComment_nil : presentComment [] = [] := rfl

theorem joinWith_ne_nil {d part : List Char} {parts : List (List Char)} (h : part ≠ []) :
    Text.joinWith d (part :: parts) ≠ [] := by
  cases parts with
  | nil => exact h
  | cons next parts => simp [Text.joinWith, h]

/-- The lines of joined comments are the comments. -/
theorem lines_joinPending {ps : List Pending} (hne : ps ≠ []) (h : PlainPending ps) :
    Text.lines (joinPending ps).toList = ps.map Pending.text := by
  rw [joinPending, String.toList_ofList]
  refine Text.lines_joinWith (by simpa using hne) fun part hpart => ?_
  obtain ⟨p, hp, rfl⟩ := List.mem_map.1 hpart
  exact (h p hp).oneLine

theorem isEmpty_joinPending {ps : List Pending} (hne : ps ≠ []) (h : PlainPending ps) :
    (joinPending ps).isEmpty = false := by
  obtain ⟨p, ps, rfl⟩ := List.exists_cons_of_ne_nil hne
  have hjoin : Text.joinWith ['\n'] ((p :: ps).map Pending.text) ≠ [] :=
    joinWith_ne_nil (h p (by simp)).ne_nil
  rw [Bool.eq_false_iff, Ne, String.isEmpty_iff]
  intro hempty
  exact hjoin (by simpa [joinPending] using congrArg String.toList hempty)

theorem commentParts_joinPending {ps : List Pending} (h : PlainPending ps) :
    commentParts (joinPending ps) = ps.map Pending.text := by
  by_cases hne : ps = []
  · subst hne
    rfl
  · rw [commentParts, isEmpty_joinPending hne h, lines_joinPending hne h]
    rfl

/-- Comments behind a foot comment are further lines of it. -/
theorem commentParts_foot {ps : List Pending} (foot : String) (hne : ps ≠ [])
    (h : PlainPending ps) :
    commentParts ((if foot.isEmpty then "" else foot ++ "\n") ++ joinPending ps) =
      commentParts foot ++ ps.map Pending.text := by
  by_cases hfoot : foot.isEmpty
  · obtain rfl : foot = "" := String.isEmpty_iff.1 hfoot
    simp [commentParts_joinPending h]
  · have htext : (foot ++ "\n" ++ joinPending ps).toList =
        foot.toList ++ '\n' :: (joinPending ps).toList := by simp
    have hlong : ¬ (foot ++ "\n" ++ joinPending ps).isEmpty := by
      rw [String.isEmpty_iff]
      intro hempty
      rw [hempty] at htext
      simp at htext
    rw [if_neg hfoot, commentParts, if_neg hlong, htext, Text.lines, Text.splitOn_append_cons,
      ← Text.lines, ← Text.lines, lines_joinPending hne h, commentParts, if_neg hfoot]

/-! ### Scalars -/

/-- The comment behind the closing quote on a later line. -/
theorem ne_nil_of_quotedLines {number : Nat} {text raw comment : List Char} {line : Line}
    {lines rest : List Line}
    (h : quotedLines number text lines = .ok (raw, some (line, comment), rest)) : comment ≠ [] := by
  induction lines generalizing text with
  | nil => cases h
  | cons l lines ih =>
    unfold quotedLines at h
    dsimp only at h
    split at h
    · exact ih h
    · split at h
      · cases h
      · next hash =>
        cases h
        rw [hash]
        exact List.cons_ne_nil _ _
      · cases h

/-- A scalar that is closed on a later line has its comment there and no other. -/
theorem comments_of_quotedScalar {text raw : List Char} {number : Nat}
    {closing : Option (Line × List Char)} {lines rest : List Line}
    (hquoted : startsQuoted (splitValue text).text = true)
    (h : quotedScalar number (splitValue text).text lines = .ok (raw, closing, rest)) :
    (scalarTally (splitValue text) number lines).read =
      presentComment (closing.elim (splitValue text).comment Prod.snd) := by
  rw [scalarTally, closingComment, if_pos hquoted, h]
  cases closing with
  | none => exact List.append_nil _
  | some closing =>
    have hopen : ¬ (splitQuoted? (splitValue text).text).isSome = true := by
      intro hsome
      rw [quotedScalar, if_pos hsome] at h
      cases h
    -- the open quote has kept the rest of the first line, so nothing was split off
    have hcomment : (splitValue text).comment = [] := by
      by_contra hne
      exact hopen (isSome_splitQuoted?_splitValue hne hquoted)
    rw [quotedScalar, if_neg hopen] at h
    have hne : closing.2 ≠ [] := ne_nil_of_quotedLines h
    simp [hcomment, presentComment, hne]

/-- All comments of a node are behind it. -/
structure HasTrail (n : Node) (comments : List (List Char)) : Prop where
  head : n.headComment = ""
  foot : n.footComment = ""
  trail : presentComment n.lineComment.toList = comments

/-- A scalar has the comments that are read with it. -/
theorem hasTrail_of_scalarNode {text : List Char} {line : Line} {parent column : Nat}
    {lines rest : List Line} {n : Node}
    (h : scalarNode (splitValue text) line parent column lines = .ok (n, rest)) :
    HasTrail n (scalarTally (splitValue text) line.number lines).read := by
  obtain ⟨value, raw, closing, rfl, hclosing⟩ := exists_of_scalarNode h
  refine ⟨rfl, rfl, ?_⟩
  rw [String.toList_ofList]
  split at hclosing
  · next hquoted => exact (comments_of_quotedScalar hquoted hclosing).symm
  · next hplain => simp [hclosing, scalarTally, closingComment, hplain]

/-! ### Comments of a build -/

theorem map_text_collect (ps : List Pending) (lines : List Line) :
    (Build.collect ps lines).1.map Pending.text = ps.map Pending.text ++ commentsAhead lines := by
  induction lines generalizing ps with
  | nil => simp [Build.collect, commentsAhead]
  | cons line lines ih =>
    rw [Build.collect, commentsAhead]
    cases line.kind with
    | comment => simp [ih]
    | content => simp
    | _ => exact ih ps

theorem count_flatMap_modify {α β : Type} [BEq β] [LawfulBEq β] {xs : List α} {i : Nat} {a : α}
    (h : xs[i]? = some a) (f : α → α) (view : α → List β) (x : β) :
    ((xs.modify i f).flatMap view).count x + (view a).count x =
      (xs.flatMap view).count x + (view (f a)).count x := by
  induction xs generalizing i with
  | nil => simp at h
  | cons first xs ih =>
    cases i with
    | zero =>
      obtain rfl : first = a := by simpa using h
      simp only [List.modify_zero_cons, List.flatMap_cons, List.count_append]
      omega
    | succ i =>
      have ih := ih (by simpa using h)
      simp only [List.modify_succ_cons, List.flatMap_cons, List.count_append]
      omega

/-- The comments of nodes. -/
def nodeComments (nodes : Array Node) : List (List Char) := nodes.toList.flatMap Node.comments

@[simp] theorem nodeComments_push (nodes : Array Node) (n : Node) :
    nodeComments (nodes.push n) = nodeComments nodes ++ n.comments := by
  simp [nodeComments]

/-- The comments above and behind a node, if there is one. -/
def ownComments (nodes : Array Node) (id : Nat) : List (List Char) :=
  nodes[id]?.elim [] Node.ownComments

theorem ownComments_push (nodes : Array Node) (n : Node) :
    ownComments (nodes.push n) nodes.size = n.ownComments := by
  simp [ownComments]

namespace Build

/-- The comments of the nodes and those that wait. -/
def comments (b : Build) : List (List Char) :=
  nodeComments b.nodes ++ b.pending.map Pending.text

theorem comments_toContent (b : Build) :
    b.toContent.comments = b.comments ++ commentsAhead b.lines := by
  show _ ++ (collect b.pending b.lines).1.map Pending.text = _
  rw [map_text_collect, comments, List.append_assoc]
  rfl

theorem comments_push (b : Build) {n : Node} (hn : n.comments = []) :
    (b.push n).2.comments = b.comments := by
  simp [comments, push, hn]

/-- A new key takes the comments that wait. -/
theorem comments_addKey {b : Build} (h : PlainPending b.pending) (line : Line) (indent : Nat)
    (text value : List Char) : (b.addKey line indent text value).comments = b.comments := by
  simp [comments, addKey, push, clearPending, dropLine, withHead, plainKey, Node.comments,
    Node.ownComments, commentParts_joinPending h]

theorem comments_setTrail {b : Build} (h : PlainPending b.pending) (line : Line) (indent : Nat)
    (text value : List Char) (v : InlineValue) :
    ((b.addKey line indent text value).setTrail b.nodes.size line v).comments =
      b.comments ++ presentComment v.comment := by
  have hnodes : ((b.addKey line indent text value).setTrail b.nodes.size line v).nodes =
      b.nodes.push { b.withHead (plainKey line indent text value) with
        lineComment := String.ofList v.comment
        linePosition := line.commentPoint? v.comment } :=
    modify_push b.nodes (b.withHead (plainKey line indent text value)) fun n =>
      { n with
        lineComment := String.ofList v.comment
        linePosition := line.commentPoint? v.comment }
  have hpending : ((b.addKey line indent text value).setTrail b.nodes.size line v).pending = [] :=
    rfl
  rw [comments, hnodes, hpending]
  simp [comments, withHead, plainKey, Node.comments, Node.ownComments, commentParts_joinPending h]

theorem comments_addScalar {b : Build} (h : b.pending = []) {n : Node} {cs : List (List Char)}
    (hn : HasTrail n cs) (lines : List Line) :
    (b.addScalar n lines).comments = b.comments ++ cs := by
  simp [comments, addScalar, push, h, Node.comments, Node.ownComments, hn.head, hn.foot, hn.trail]

theorem comments_addScalarLine {b : Build} (h : PlainPending b.pending) {n : Node}
    {cs : List (List Char)} (hn : HasTrail n cs) (lines : List Line) :
    (b.addScalarLine n lines).comments = b.comments ++ cs := by
  simp [comments, addScalarLine, push, clearPending, withHead, Node.comments, Node.ownComments,
    commentParts_joinPending h, hn.foot, hn.trail]

theorem comments_modify_eq {f : Node → Node} (hf : ∀ n, (f n).comments = n.comments) (b : Build)
    (id : Nat) : (b.modify id f).comments = b.comments := by
  have hmap := congrArg Array.toList (map_modify_eq hf b.nodes id)
  rw [Array.toList_map, Array.toList_map] at hmap
  simp only [comments, modify, nodeComments, List.flatMap_def, hmap]

@[simp] theorem comments_setProperties (b : Build) (id : Nat) (v : InlineValue) :
    (b.setProperties id v).comments = b.comments := by
  unfold setProperties
  apply comments_modify_eq
  exact fun _ => rfl

@[simp] theorem comments_addContent (b : Build) (id : Nat) (ids : List Nat) :
    (b.addContent id ids).comments = b.comments := by
  unfold addContent
  apply comments_modify_eq
  exact fun _ => rfl

theorem count_modify {b : Build} {id : Nat} {n : Node} (hn : b.nodes[id]? = some n)
    (f : Node → Node) (x : List Char) :
    (b.modify id f).comments.count x + n.comments.count x =
      b.comments.count x + (f n).comments.count x := by
  have hcount := count_flatMap_modify (by rwa [Array.getElem?_toList]) f Node.comments x
  simp only [comments, modify, nodeComments, Array.toList_modify, List.count_append]
  omega

/-- An item gets the comments that waited at its dash in place of its own. -/
theorem count_setItem {b before : Build} {id : Nat} (hid : id < b.nodes.size)
    (h : PlainPending before.pending) (line : Line) (v : InlineValue) (x : List Char) :
    (b.setItem before id line v).comments.count x + (ownComments b.nodes id).count x =
      b.comments.count x + (before.pending.map Pending.text).count x +
        (presentComment v.comment).count x := by
  obtain ⟨n, hn⟩ : ∃ n, b.nodes[id]? = some n := ⟨b.nodes[id], Array.getElem?_eq_getElem hid⟩
  have hset : (b.setProperties id v).nodes[id]? = some
      { n with
        anchor := (v.anchor.map String.ofList).or n.anchor
        tag := (v.tag.map String.ofList).or n.tag } := by
    simp [setProperties, modify, Array.getElem?_modify, hn]
  have hcount := count_modify hset (fun n =>
    { before.withHead n with
      lineComment := String.ofList v.comment
      linePosition := line.commentPoint? v.comment }) x
  have hown : ownComments b.nodes id = n.ownComments := by rw [ownComments, hn]; rfl
  simp only [comments_setProperties, withHead, Node.comments, Node.ownComments, List.count_append,
    commentParts_joinPending h, String.toList_ofList] at hcount
  rw [setItem, hown]
  simp only [withHead, Node.ownComments, List.count_append]
  omega

/-- Comments that wait go to the foot of a node. -/
theorem count_attachFoot {b : Build} {id : Nat} (hid : id < b.nodes.size)
    (h : PlainPending b.pending) (indent : Nat) (x : List Char) :
    (b.attachFoot id indent).comments.count x = b.comments.count x := by
  unfold attachFoot
  dsimp only
  generalize hfoot : b.pending.takeWhile _ = foot
  split
  · rfl
  · next hne =>
    -- what goes to the foot comes first, what waits further is the rest
    have hlead : foot <+: b.pending := hfoot ▸ List.takeWhile_prefix _
    have hsplit := List.prefix_iff_eq_append.1 hlead
    have hplain : PlainPending foot := fun p hp => h p (hlead.subset hp)
    obtain ⟨n, hn⟩ : ∃ n, b.nodes[id]? = some n := ⟨b.nodes[id], Array.getElem?_eq_getElem hid⟩
    have hcount := count_modify (b := { b with pending := b.pending.drop foot.length }) hn (fun n =>
      { n with
        footComment :=
          (if n.footComment.isEmpty then "" else n.footComment ++ "\n") ++ joinPending foot
        footPositions := n.footPositions ++ pendingPoints foot }) x
    have hpending : (b.pending.map Pending.text).count x = (foot.map Pending.text).count x +
        ((b.pending.drop foot.length).map Pending.text).count x := by
      rw [← List.count_append, ← List.map_append, hsplit]
    simp only [Node.comments, Node.ownComments, List.count_append,
      commentParts_foot n.footComment (by simpa using hne) hplain] at hcount
    simp only [comments, List.count_append] at hcount ⊢
    omega

theorem count_withFoot {b : Build} {last : Option Nat} (hlast : ∀ id ∈ last, id < b.nodes.size)
    (h : PlainPending b.pending) (indent : Nat) (x : List Char) :
    (b.withFoot last indent).comments.count x = b.comments.count x := by
  cases last with
  | none => rfl
  | some id => exact count_attachFoot (hlast id rfl) h indent x

@[simp] theorem size_push (b : Build) (n : Node) : (b.push n).2.nodes.size = b.nodes.size + 1 :=
  Array.size_push n

@[simp] theorem size_modify (b : Build) (id : Nat) (f : Node → Node) :
    (b.modify id f).nodes.size = b.nodes.size := Array.size_modify

@[simp] theorem size_toContent (b : Build) : b.toContent.nodes.size = b.nodes.size := rfl

@[simp] theorem size_addKey (b : Build) (line : Line) (indent : Nat) (text value : List Char) :
    (b.addKey line indent text value).nodes.size = b.nodes.size + 1 := Array.size_push _

@[simp] theorem size_addScalar (b : Build) (n : Node) (lines : List Line) :
    (b.addScalar n lines).nodes.size = b.nodes.size + 1 := Array.size_push _

@[simp] theorem size_addScalarLine (b : Build) (n : Node) (lines : List Line) :
    (b.addScalarLine n lines).nodes.size = b.nodes.size + 1 := Array.size_push _

@[simp] theorem size_setTrail (b : Build) (id : Nat) (line : Line) (v : InlineValue) :
    (b.setTrail id line v).nodes.size = b.nodes.size := size_modify b id _

@[simp] theorem size_setItem (b before : Build) (id : Nat) (line : Line) (v : InlineValue) :
    (b.setItem before id line v).nodes.size = b.nodes.size := by
  simp [setItem, setProperties]

@[simp] theorem size_addContent (b : Build) (id : Nat) (ids : List Nat) :
    (b.addContent id ids).nodes.size = b.nodes.size := size_modify b id _

@[simp] theorem size_setProperties (b : Build) (id : Nat) (v : InlineValue) :
    (b.setProperties id v).nodes.size = b.nodes.size := size_modify b id _

end Build

/-! ### Lines that are left -/

/-- The comment lines have the text of a comment. -/
def PlainLines (lines : List Line) : Prop := ∀ l ∈ lines, l.kind = .comment → IsComment l.text

theorem PlainLines.suffix {lines rest : List Line} (h : PlainLines lines) (hrest : rest <:+ lines) :
    PlainLines rest := fun l hl => h l (hrest.subset hl)

theorem plainPending_collect {ps : List Pending} {lines : List Line} (hps : PlainPending ps)
    (hlines : PlainLines lines) : PlainPending (Build.collect ps lines).1 := by
  induction lines generalizing ps with
  | nil => exact hps
  | cons line lines ih =>
    have hrest : PlainLines lines := hlines.suffix (List.suffix_cons line lines)
    unfold Build.collect
    split
    · next hkind =>
      refine ih (fun p hp => ?_) hrest
      rcases List.mem_append.1 hp with hp | hp
      · exact hps p hp
      · obtain rfl := List.mem_singleton.1 hp
        exact hlines line (by simp) hkind
    · exact hps
    · exact ih hps hrest

/-- Every comment that waits or is still to be read is one line. -/
structure Build.Plain (b : Build) : Prop where
  pending : PlainPending b.pending
  lines : PlainLines b.lines

namespace Build.Plain

variable {b : Build}

theorem of_lines (h : PlainLines b.lines) (hpending : b.pending = []) : b.Plain :=
  ⟨by simp [PlainPending, hpending], h⟩

theorem toContent (h : b.Plain) : b.toContent.Plain :=
  ⟨plainPending_collect h.pending h.lines, h.lines.suffix b.toContent_suffix⟩

theorem withFoot (h : b.Plain) (last : Option Nat) (indent : Nat) :
    (b.withFoot last indent).Plain := by
  refine ⟨?_, by simpa using h.lines⟩
  cases last with
  | none => exact h.pending
  | some id =>
    show PlainPending (b.attachFoot id indent).pending
    unfold attachFoot
    dsimp only
    split
    · exact h.pending
    · exact fun p hp => h.pending p (List.mem_of_mem_drop hp)

theorem behindDash {line : Line} {lines : List Line} (h : b.toContent.Plain)
    (hlines : b.toContent.lines = line :: lines) (indent : Nat) :
    (b.toContent.behindDash line lines indent).Plain := by
  refine ⟨h.pending, fun l hl hkind => ?_⟩
  rcases List.mem_cons.1 hl with rfl | hl
  · have hcontent : line.kind = .content := kind_of_collect (Prod.ext rfl hlines)
    rw [hcontent] at hkind
    cases hkind
  · exact h.lines l (hlines ▸ List.mem_cons_of_mem line hl) hkind

end Build.Plain

end ManifestMarkers.Manifest
