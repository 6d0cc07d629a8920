import Mathlib.Data.List.Forall2
import ManifestMarkers.Proofs.LexemeLines

/-!
# Lexing at another place

The place of a text matters only to the places of its lexemes and to the messages that name them,
and what was read before a text outside of markers does not matter at all.

* `Shifted` relates a lexeme to the same one at another place.
* `Reading.toEnd_shifted` says that runs from two places are related.
* `lex_newline` puts two texts together: the second one is lexed as if it stood alone, unless the
  first one has an error.
* `lex_append_newline` is the case of a first text that is lexed to its end.
-/

namespace ManifestMarkers

namespace Point

/-- The place `lines` lines further down and `bytes` bytes further on. -/
def shift (lines bytes : Nat) (p : Point) : Point := ⟨p.line + lines, p.column, p.offset + bytes⟩

theorem next_shift (lines bytes : Nat) (p : Point) (c : Char) :
    (p.shift lines bytes).next c = (p.next c).shift lines bytes := by
  unfold next shift
  split <;> simp only [mk.injEq, true_and] <;> omega

theorem after_shift (lines bytes : Nat) (p : Point) (cs : List Char) :
    (p.shift lines bytes).after cs = (p.after cs).shift lines bytes := by
  induction cs generalizing p with
  | nil => rfl
  | cons c cs ih => rw [after_cons, after_cons, next_shift, ih]

/-- The place after a line feed is the start of a text, moved. -/
theorem next_newline (p : Point) : p.next '\n' = origin.shift p.line (p.offset + 1) := by
  simp only [next, origin, shift, if_true, mk.injEq]
  refine ⟨by omega, trivial, ?_⟩
  have : '\n'.utf8Size = 1 := rfl
  omega

theorem line_after {p : Point} {cs : List Char} (h : '\n' ∉ cs) : (p.after cs).line = p.line := by
  induction cs generalizing p with
  | nil => rfl
  | cons c cs ih =>
    have hc : c ≠ '\n' := fun e => h (by simp [e])
    rw [after_cons, ih (fun e => h (by simp [e]))]
    simp [next, hc]

/-- Behind a text the line is the last one of the text. -/
theorem line_after_origin (cs : List Char) :
    (origin.after cs).line = (Text.lines cs).length := by
  suffices hmore : ∀ p : Point, (p.after cs).line + 1 = p.line + (Text.lines cs).length by
    have := hmore origin
    simp only [origin] at this ⊢
    omega
  intro p
  induction cs generalizing p with
  | nil => rfl
  | cons c cs ih =>
    rw [after_cons, ih]
    by_cases hc : c = '\n'
    · simp only [next, hc, if_true, Text.lines, Text.splitOn, List.length_cons]
      omega
    · obtain ⟨part, parts, hparts⟩ := List.exists_cons_of_ne_nil (Text.splitOn_ne_nil '\n' cs)
      simp only [next, hc, if_false, Text.lines, Text.splitOn, hparts, List.length_cons]

end Point

namespace Lexeme

/-! ### The relation -/

/-- Whether a lexeme carries a message in place of text. -/
def Kind.isMessage : Kind → Bool
  | .warning | .error => true
  | _ => false

/-- The message that `what` happened at the place `p`, behind the lexeme `last`. -/
def message (what last : String) (p : Point) : String :=
  what ++ " at position: " ++ p.text ++ ", following " ++ Text.quoted last

/-- The lexeme `l'` is `l` further down and further on. A message says the same of its own place. -/
structure Shifted (lines bytes : Nat) (l l' : Lexeme) : Prop where
  kind : l'.kind = l.kind
  position : l'.position = l.position.shift lines bytes
  value : if l.kind.isMessage then
      ∃ what last, l.value = message what last l.position ∧
        l'.value = message what last l'.position
    else l'.value = l.value

/-- The lexeme further down and further on. -/
def shift (lines bytes : Nat) (l : Lexeme) : Lexeme :=
  { l with position := l.position.shift lines bytes }

/-- The state `r'` is `r` further down and further on. Outside of markers the last lexeme is
forgotten. -/
structure Reading.Shifted (lines bytes : Nat) (r r' : Reading) : Prop where
  rest : r'.rest = r.rest
  point : r'.point = r.point.shift lines bytes
  mode : r'.mode = r.mode
  comment : r'.comment = r.comment
  last : r.mode ≠ .text → r'.last = r.last

/-- Outcomes from two places: the lexemes and the states are related. -/
inductive Outcome.Shifted (lines bytes : Nat) : Outcome → Outcome → Prop
  | go {e e' : List Lexeme} {n n' : Reading} (he : List.Forall₂ (Lexeme.Shifted lines bytes) e e')
      (hn : n.Shifted lines bytes n') : Shifted lines bytes (.go e n) (.go e' n')
  | halt {e e' : List Lexeme} (he : List.Forall₂ (Lexeme.Shifted lines bytes) e e') :
      Shifted lines bytes (.halt e) (.halt e')

variable {lines bytes : Nat}

/-- A lexeme that is no message keeps its value. -/
theorem shifted_mk {k : Kind} (hk : k.isMessage = false) (value : String) (p : Point) :
    Shifted lines bytes ⟨k, value, p⟩ ⟨k, value, p.shift lines bytes⟩ :=
  ⟨rfl, rfl, by simp [hk]⟩

theorem eq_shift_of_shifted {l l' : Lexeme} (h : Shifted lines bytes l l')
    (hk : l.kind.isMessage = false) : l' = l.shift lines bytes := by
  obtain ⟨kind, value, position⟩ := l'
  obtain ⟨rfl, rfl, hv⟩ := h
  rw [if_neg (by simp [hk])] at hv
  obtain rfl := hv
  rfl

theorem isMessage_eq_false_of_isScalar {k : Kind} (h : k.isScalar = true) :
    k.isMessage = false := by
  revert h
  cases k <;> decide

namespace Reading

/-! ### One lemma per reader -/

/-- The state further down and further on. -/
def shift (lines bytes : Nat) (r : Reading) : Reading :=
  { r with point := r.point.shift lines bytes }

theorem eq_shift_of_shifted {r r' : Reading} (h : r.Shifted lines bytes r') (hm : r.mode ≠ .text) :
    r' = r.shift lines bytes := by
  obtain ⟨rest, point, mode, comment, last⟩ := r'
  obtain ⟨rfl, rfl, rfl, rfl, hlast⟩ := h
  rw [shift, ← hlast hm]

@[simp] theorem shift_rest (r : Reading) : (r.shift lines bytes).rest = r.rest := rfl

@[simp] theorem shift_point (r : Reading) :
    (r.shift lines bytes).point = r.point.shift lines bytes := rfl

@[simp] theorem shift_mode (r : Reading) : (r.shift lines bytes).mode = r.mode := rfl

@[simp] theorem shift_comment (r : Reading) : (r.shift lines bytes).comment = r.comment := rfl

@[simp] theorem skip_shift (r : Reading) (read rest : List Char) :
    (r.shift lines bytes).skip read rest = (r.skip read rest).shift lines bytes := by
  simp [skip, shift, Point.after_shift]

theorem shifted_fail (r : Reading) (what detail : String) :
    (r.fail what detail).Shifted lines bytes ((r.shift lines bytes).fail what detail) := by
  refine .halt (.cons ⟨rfl, rfl, ?_⟩ .nil)
  exact ⟨what ++ ": " ++ detail, r.last, rfl, rfl⟩

theorem shifted_emit (r : Reading) {l l' : Lexeme} (h : Lexeme.Shifted lines bytes l l') {m : Mode}
    (hm : l.kind.isMessage = true → m = .text) :
    (r.emit l m).Shifted lines bytes ((r.shift lines bytes).emit l' m) := by
  refine .go (.cons h .nil) ⟨rfl, rfl, rfl, rfl, fun ht => ?_⟩
  have hk : l.kind.isMessage = false := Bool.eq_false_iff.2 fun hk => ht (hm hk)
  have := h.value
  rwa [if_neg (by simp [hk])] at this

theorem shifted_emit_mk (r : Reading) {k : Kind} (hk : k.isMessage = false) (value : String)
    (p : Point) (m : Mode) :
    (r.emit ⟨k, value, p⟩ m).Shifted lines bytes
      ((r.shift lines bytes).emit ⟨k, value, p.shift lines bytes⟩ m) :=
  shifted_emit r (shifted_mk hk value p) (by simp [hk])

theorem shifted_beginMarker {r r' : Reading} (h : r.Shifted lines bytes r') {e e' : List Lexeme}
    (he : List.Forall₂ (Lexeme.Shifted lines bytes) e e') (rest : List Char) :
    (r.beginMarker e rest).Shifted lines bytes (r'.beginMarker e' rest) := by
  have hstart : Lexeme.Shifted lines bytes ⟨.markerStart, "+", r.point⟩
      ⟨.markerStart, "+", r'.point⟩ := h.point ▸ shifted_mk rfl _ _
  refine .go (List.rel_append he (.cons hstart .nil)) ⟨rfl, ?_, rfl, h.comment, fun _ => rfl⟩
  simp only [skip_point, h.point, Point.after_shift]

theorem shifted_skip {r r' : Reading} (h : r.Shifted lines bytes r') (read rest : List Char) :
    (r.skip read rest).Shifted lines bytes (r'.skip read rest) :=
  ⟨rfl, by simp only [skip_point, h.point, Point.after_shift], h.mode, h.comment, h.last⟩

theorem shifted_with_comment {r r' : Reading} (h : r.Shifted lines bytes r')
    (comment : Option CommentSign) :
    Shifted lines bytes { r with comment } { r' with comment } :=
  ⟨h.rest, h.point, h.mode, rfl, h.last⟩

theorem shifted_readComment {r r' : Reading} (h : r.Shifted lines bytes r') (sign : CommentSign)
    (cs : List Char) :
    (r.readComment sign cs).Shifted lines bytes (r'.readComment sign cs) := by
  have hskip := shifted_with_comment (shifted_skip h (sign.chars ++ cs.takeWhile isGap)
    (cs.dropWhile isGap)) (some sign)
  unfold readComment
  dsimp only
  split
  · split
    · refine shifted_beginMarker hskip (.cons ?_ .nil) _
      rw [h.point]
      exact shifted_mk rfl _ _
    · exact .go .nil hskip
  · exact .go .nil hskip

theorem shifted_readText {r r' : Reading} (h : r.Shifted lines bytes r') :
    r.readText.Shifted lines bytes r'.readText := by
  unfold readText
  rw [h.rest]
  split
  · rw [h.point]
    exact .halt (.cons (shifted_mk rfl _ _) .nil)
  · exact .go .nil (shifted_with_comment (shifted_skip h _ _) none)
  · exact shifted_readComment h _ _
  · exact shifted_readComment h _ _
  · split
    · exact shifted_beginMarker h .nil _
    · exact .go .nil (shifted_skip h _ _)
  · exact .go .nil (shifted_skip h _ _)

theorem shifted_readHeader (r : Reading) (hasScope : Bool) :
    (r.readHeader hasScope).Shifted lines bytes ((r.shift lines bytes).readHeader hasScope) := by
  unfold readHeader
  rw [shift_rest]
  split
  · exact shifted_fail r _ _
  · next c cs hr =>
    split
    · dsimp only
      rw [skip_shift, shift_rest, shift_point, shift_point]
      split
      · refine .go (.cons (shifted_mk rfl _ _) (.cons (shifted_mk rfl _ _) .nil)) ?_
        refine ⟨rfl, ?_, rfl, rfl, fun _ => rfl⟩
        simp only [skip_point, shift_point, Point.after_shift]
      · split
        · exact shifted_emit_mk _ rfl _ _ _
        · refine shifted_emit _ ?_ fun _ => rfl
          exact ⟨rfl, rfl, "marker without scope found", _, rfl, rfl⟩
    · exact shifted_fail r _ _

theorem shifted_readAfterArg (r : Reading) :
    r.readAfterArg.Shifted lines bytes (r.shift lines bytes).readAfterArg := by
  unfold readAfterArg
  rw [shift_rest]
  split
  · rw [skip_shift]
    exact .go .nil ⟨rfl, rfl, rfl, rfl, fun _ => rfl⟩
  · exact shifted_emit_mk r rfl _ _ _

theorem shifted_readBare (r : Reading) (inSlice : Bool) (m : Mode) :
    (r.readBare inSlice m).Shifted lines bytes ((r.shift lines bytes).readBare inSlice m) := by
  unfold readBare
  dsimp only
  rw [skip_shift]
  exact shifted_emit_mk _ (isMessage_eq_false_of_isScalar (isScalar_bareKind _)) _ _ _

theorem shifted_readQuoted (r : Reading) (quote : Char) (cs : List Char) (m : Mode) :
    (r.readQuoted quote cs m).Shifted lines bytes
      ((r.shift lines bytes).readQuoted quote cs m) := by
  unfold readQuoted
  dsimp only
  rw [shift_comment, skip_shift]
  split
  · rw [skip_shift]
    exact shifted_emit_mk _ rfl _ _ _
  · exact shifted_fail _ _ _

theorem shifted_readValue (r : Reading) :
    r.readValue.Shifted lines bytes (r.shift lines bytes).readValue := by
  unfold readValue
  rw [shift_rest]
  split
  · exact shifted_fail r _ _
  · split
    · exact shifted_readQuoted r _ _ _
    · split
      · rw [skip_shift]
        exact shifted_emit_mk _ rfl _ _ _
      · split
        · exact shifted_fail r _ _
        · exact shifted_readBare r _ _

theorem shifted_readAfterValue (r : Reading) :
    r.readAfterValue.Shifted lines bytes (r.shift lines bytes).readAfterValue := by
  unfold readAfterValue
  rw [shift_rest]
  split
  · exact shifted_emit_mk r rfl _ _ _
  · split
    · dsimp only
      rw [skip_shift]
      exact shifted_emit_mk { r.skip _ _ with comment := none } rfl _ _ _
    · split
      · rw [skip_shift]
        exact shifted_emit_mk _ rfl _ _ _
      · split
        · dsimp only
          rw [skip_shift]
          split
          · split
            · rw [skip_shift]
              exact shifted_emit_mk _ rfl _ _ _
            · exact shifted_fail _ _ _
          · exact shifted_fail _ _ _
        · exact shifted_fail r _ _

theorem shifted_readSliceItem (r : Reading) (turn : SliceTurn) :
    (r.readSliceItem turn).Shifted lines bytes ((r.shift lines bytes).readSliceItem turn) := by
  unfold readSliceItem
  rw [shift_rest]
  split
  · exact shifted_fail r _ _
  · split
    · exact shifted_fail r _ _
    · split
      · rw [skip_shift]
        exact shifted_emit_mk _ rfl _ _ _
      · split
        · rw [skip_shift]
          exact shifted_emit_mk _ rfl _ _ _
        · split
          · exact shifted_readQuoted r _ _ _
          · split
            · exact shifted_fail r _ _
            · split
              · exact shifted_readBare r _ _
              · exact shifted_fail r _ _

theorem shifted_readSlice (r : Reading) (turn : SliceTurn) :
    (r.readSlice turn).Shifted lines bytes ((r.shift lines bytes).readSlice turn) := by
  unfold readSlice
  dsimp only
  rw [shift_rest, skip_shift, shift_rest]
  split
  · exact shifted_fail _ _ _
  · exact shifted_readSliceItem _ _

/-- Steps from two places have related outcomes. -/
theorem step_shifted {r r' : Reading} (h : r.Shifted lines bytes r') :
    r.step.Shifted lines bytes r'.step := by
  by_cases hm : r.mode = .text
  · unfold step
    rw [h.mode, hm]
    exact shifted_readText h
  · rw [eq_shift_of_shifted h hm]
    unfold step
    rw [shift_mode]
    split
    · next ht => exact absurd ht hm
    · exact shifted_readHeader r _
    · exact shifted_readAfterArg r
    · exact shifted_readValue r
    · exact shifted_readAfterValue r
    · exact shifted_readSlice r _

/-! ### Runs -/

/-- Runs from two places have related lexemes. -/
theorem toEnd_shifted (r : Reading) {r' : Reading} (h : r.Shifted lines bytes r') :
    List.Forall₂ (Lexeme.Shifted lines bytes) r.toEnd r'.toEnd := by
  -- the two runs halt together or go on together
  induction r using stepInduction generalizing r' with
  | halt r e hs =>
    have hstep := step_shifted h
    rw [hs] at hstep
    rw [toEnd_of_halt hs]
    cases hs' : r'.step with
    | go e' n' => rw [hs'] at hstep; cases hstep
    | halt e' =>
      rw [hs'] at hstep
      rw [toEnd_of_halt hs']
      obtain _ | he := hstep
      exact he
  | go r e n hs ih =>
    have hstep := step_shifted h
    rw [hs] at hstep
    rw [toEnd_of_go hs]
    cases hs' : r'.step with
    | halt e' => rw [hs'] at hstep; cases hstep
    | go e' n' =>
      rw [hs'] at hstep
      rw [toEnd_of_go hs']
      obtain ⟨he, hn⟩ | _ := hstep
      exact List.rel_append he (ih hn)

end Reading

/-! ### Two texts with a line feed between them -/

/-- A text without errors does not change how the text behind it is lexed; an error on a line
without backticks is the end of both. -/
theorem lex_newline (a b : String) :
    (∃ es ls, lex a = es ++ [⟨.eof, "", Point.origin.after a.toList⟩] ∧
      lex (a ++ "\n" ++ b) = es ++ ls ∧
      List.Forall₂ (Shifted (Point.origin.after a.toList).line (Text.byteSize a.toList + 1))
        (lex b) ls) ∨
      ∃ es l, lex a = es ++ [l] ∧ l.kind = .error ∧ ('\n' ∉ a.toList → '`' ∉ a.toList →
        ∃ l', l'.kind = .error ∧ lex (a ++ "\n" ++ b) = es ++ [l']) := by
  have hab : lex (a ++ "\n" ++ b) = ((Reading.start a.toList).extend ('\n' :: b.toList)).toEnd := by
    show (Reading.start (a ++ "\n" ++ b).toList).toEnd = _
    simp [Reading.extend, Reading.start]
  rw [hab]
  refine (Reading.toEnd_extend (Reading.start a.toList) b.toList).imp ?_ id
  rintro ⟨es, last, ha, hb⟩
  -- behind the line feed the lexer is where it is at the start of a text, but for the place
  refine ⟨es, _, ha, hb, Reading.toEnd_shifted (Reading.start b.toList)
    ⟨rfl, ?_, rfl, rfl, fun h => absurd rfl h⟩⟩
  show (Point.origin.after a.toList).next '\n' = Point.origin.shift _ _
  rw [Point.next_newline, Point.offset_after]
  simp [Point.origin]

/-- Behind a text that is lexed to its end, a line feed and more text are lexed as if they stood
alone: all that moves is the places, by the lines and the bytes of the text in front. -/
theorem lex_append_newline {a : String} {es : List Lexeme} {l : Lexeme} (h : lex a = es ++ [l])
    (hl : l.kind = .eof) (b : String) :
    ∃ ls, lex (a ++ "\n" ++ b) = es ++ ls ∧
      List.Forall₂ (Shifted (Text.lines a.toList).length (Text.byteSize a.toList + 1)) (lex b)
        ls := by
  rcases lex_newline a b with ⟨es', ls, ha, hls, hshift⟩ | ⟨es', l', ha, hl', -⟩
  · obtain ⟨rfl, -⟩ := List.append_inj' (h.symm.trans ha) rfl
    rw [Point.line_after_origin] at hshift
    exact ⟨ls, hls, hshift⟩
  · -- the last lexeme of the first text is no error
    obtain ⟨-, hlast⟩ := List.append_inj' (h.symm.trans ha) rfl
    obtain rfl := List.singleton_inj.1 hlast
    rw [hl] at hl'
    cases hl'

/-- A string over two lines of a comment, whose line ends in a carriage return, in front of a
warning and an error. -/
theorem lex_append_newline_string :
    ∃ es l, lex "# +a:b=`c\n# d`\r" = es ++ [l] ∧ l.kind = .eof ∧
      ∃ ls, lex ("# +a:b=`c\n# d`\r" ++ "\n" ++ "+f +y:z=\"") = es ++ ls ∧
        List.Forall₂ (Shifted 2 16) (lex "+f +y:z=\"") ls := by
  have h : lex "# +a:b=`c\n# d`\r" = [⟨.comment, "#", ⟨1, 1, 0⟩⟩, ⟨.markerStart, "+", ⟨1, 3, 2⟩⟩,
      ⟨.scope, "a", ⟨1, 4, 3⟩⟩, ⟨.separator, ":", ⟨1, 5, 4⟩⟩, ⟨.arg, "b", ⟨1, 6, 5⟩⟩,
      ⟨.stringLiteral, "c\nd", ⟨1, 8, 7⟩⟩, ⟨.markerEnd, "\n", ⟨2, 5, 14⟩⟩] ++
      [⟨.eof, "", ⟨2, 6, 15⟩⟩] := by
    decide
  exact ⟨_, _, h, rfl, lex_append_newline h rfl "+f +y:z=\""⟩

end Lexeme

end ManifestMarkers
