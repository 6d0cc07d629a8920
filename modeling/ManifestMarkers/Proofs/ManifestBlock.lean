import Mathlib.Tactic.ByContra
import ManifestMarkers.Manifest

/-!
# Block scalars written back

A block scalar is kept as its header and its lines, and the comment of the header apart from both.
The comment is written behind the last line, where it is part of the content.

* `scalarNode_block` says what is kept of a block scalar.
* `valueText_block_iff`: a block scalar is written as it stood exactly when its header has no
  comment or it has no lines.
* `value_ne_decode_of_header_comment`: a manifest whose value changes that way.
-/

namespace ManifestMarkers.Manifest

/-- Whether a style is one of the two block styles. -/
def ScalarStyle.isBlock : ScalarStyle → Bool
  | .literal | .folded => true
  | _ => false

/-- The lines of a block scalar below its header. -/
def blockText (lines : List Line) : List Char := lines.flatMap fun l => '\n' :: l.raw

/-- The value of a key as it stands after the colon, if it is a block scalar: properties and header,
the comment, then the lines. -/
def blockSource (v : InlineValue) (block : List Line) : List Char :=
  ' ' :: (v.anchor.toList.flatMap (· ++ [' ']) ++ v.text) ++
    (if v.comment.isEmpty then [] else ' ' :: v.comment) ++ blockText block ++ ['\n']

section

variable {v : InlineValue} {line : Line} {parent column : Nat} {lines rest : List Line} {n : Node}

/-- What is kept of a block scalar. -/
theorem scalarNode_block (hs : (styleOf v.text).isBlock = true)
    (h : scalarNode v line parent column lines = .ok (n, rest)) :
    n.kind = .scalar ∧ n.anchor = v.anchor.map String.ofList ∧
      n.lineComment = String.ofList v.comment ∧
      n.raw = some (String.ofList (v.text ++ blockText (blockLines parent lines))) ∧
      rest = lines.drop (blockLines parent lines).length := by
  unfold scalarNode at h
  dsimp only at h
  split at h
  · cases h; exact ⟨rfl, rfl, rfl, rfl, rfl⟩
  · cases h; exact ⟨rfl, rfl, rfl, rfl, rfl⟩
  · next hstyle => rw [hstyle] at hs; cases hs
  · next hstyle => rw [hstyle] at hs; cases hs
  · next hstyle => rw [hstyle] at hs; cases hs
  · next hstyle => rw [hstyle] at hs; cases hs

theorem ne_nil_of_isBlock (hs : (styleOf v.text).isBlock = true) : v.text ≠ [] := by
  intro hnil
  rw [hnil] at hs
  cases hs

theorem scalarText_block (hs : (styleOf v.text).isBlock = true) (hanchor : v.anchor ≠ some [])
    (h : scalarNode v line parent column lines = .ok (n, rest)) :
    n.scalarText false =
      v.anchor.toList.flatMap (· ++ [' ']) ++ v.text ++ blockText (blockLines parent lines) := by
  obtain ⟨-, ha, -, hraw, -⟩ := scalarNode_block hs h
  have hne := ne_nil_of_isBlock hs
  unfold Node.scalarText Node.properties
  rw [hraw, ha]
  cases hv : v.anchor with
  | none => simp [Text.joinWith]
  | some anchor =>
    have hanchor : anchor ≠ [] := fun hnil => hanchor (by rw [hv, hnil])
    simp [Text.joinWith, hanchor, hne]

/-- A trailing comment, as characters. -/
theorem trailing_ofList (comment : List Char) :
    trailing [String.ofList comment] = if comment.isEmpty then [] else ' ' :: comment := by
  cases comment with
  | nil => rfl
  | cons c cs => simp [trailing]

/-- How a block scalar without tag is written: the comment of the header stands behind the lines. -/
theorem valueText_block (hs : (styleOf v.text).isBlock = true) (hanchor : v.anchor ≠ some [])
    (h : scalarNode v line parent column lines = .ok (n, rest)) {m : Manifest} {id : Nat}
    (hid : m.node? id = some n) {nested : Nat → List Char} {key : Node}
    (hkey : key.lineComment = "") :
    valueText m false nested key id =
      ' ' :: (v.anchor.toList.flatMap (· ++ [' ']) ++ v.text) ++
        blockText (blockLines parent lines) ++
        (if v.comment.isEmpty then [] else ' ' :: v.comment) ++ ['\n'] := by
  obtain ⟨hkind, -, hcomment, -, -⟩ := scalarNode_block hs h
  have hne := ne_nil_of_isBlock hs
  have htrail : trailing [key.lineComment, n.lineComment] =
      if v.comment.isEmpty then [] else ' ' :: v.comment := by
    rw [hkey, hcomment, ← trailing_ofList]
    rfl
  have hscalar : n.isScalar = true := by simp [Node.isScalar, hkind]
  unfold valueText
  rw [hid]
  dsimp only
  rw [if_pos hscalar, scalarText_block hs hanchor h, htrail]
  simp [spaced, hne]

/-- A block scalar without tag is written as it stood exactly when its header has no comment or it
has no lines. -/
theorem valueText_block_iff (hs : (styleOf v.text).isBlock = true) (hanchor : v.anchor ≠ some [])
    (h : scalarNode v line parent column lines = .ok (n, rest)) {m : Manifest} {id : Nat}
    (hid : m.node? id = some n) {nested : Nat → List Char} {key : Node}
    (hkey : key.lineComment = "") :
    valueText m false nested key id = blockSource v (blockLines parent lines) ↔
      v.comment = [] ∨ blockLines parent lines = [] := by
  rw [valueText_block hs hanchor h hid hkey, blockSource]
  constructor
  · intro heq
    by_contra hno
    obtain ⟨hc, hb⟩ := not_or.1 hno
    obtain ⟨l, ls, hl⟩ := List.exists_cons_of_ne_nil hb
    -- the line feed of the first line would be the space before the comment
    simp [hc, hl, blockText] at heq
  · rintro (hc | hb)
    · simp [hc]
    · simp [hb, blockText]

end

theorem eq_ok_of_toOption {ε α : Type} {x : Except ε α} {a : α} (h : x.toOption = some a) :
    x = .ok a := by
  cases x with
  | error e => cases h
  | ok b => cases h; rfl

/-- The comment of a header becomes part of the value when the manifest is written back. -/
theorem value_ne_decode_of_header_comment :
    ∃ m v w, parse "a: | # c\n  x\n" = .ok m ∧ m.value 0 = .ok v ∧
      Yaml.decode? "a: | # c\n  x\n".toList = some w ∧ v.same w = false := by
  have h : ((parse "a: | # c\n  x\n").toOption.bind fun m => (m.value 0).toOption.bind fun v =>
      (Yaml.decode? "a: | # c\n  x\n".toList).map fun w => v.same w) = some false := by
    with_unfolding_all decide
  obtain ⟨m, hm, h⟩ := Option.bind_eq_some_iff.1 h
  obtain ⟨v, hv, h⟩ := Option.bind_eq_some_iff.1 h
  obtain ⟨w, hw, h⟩ := Option.map_eq_some_iff.1 h
  exact ⟨m, v, w, eq_ok_of_toOption hm, eq_ok_of_toOption hv, hw, h⟩

end ManifestMarkers.Manifest
