import ManifestMarkers.Text.Basic

/-!
# Places in text

A point is reached by reading characters one after the other from the start of a text.
-/

namespace ManifestMarkers

/-- A place in a text: `line` and `column` count characters from one, `offset` counts bytes. -/
structure Point where
  line : Nat
  column : Nat
  offset : Nat := 0
  deriving DecidableEq, Repr

namespace Point

/-- The first place of every text. -/
def origin : Point := ⟨1, 1, 0⟩

/-- The place after the character `c`. -/
def next (p : Point) (c : Char) : Point :=
  if c = '\n' then ⟨p.line + 1, 1, p.offset + c.utf8Size⟩
  else ⟨p.line, p.column + 1, p.offset + c.utf8Size⟩

/-- The place after all of `cs`. -/
def after (p : Point) (cs : List Char) : Point := cs.foldl next p

@[simp] theorem after_nil (p : Point) : p.after [] = p := rfl

@[simp] theorem after_cons (p : Point) (c : Char) (cs : List Char) :
    p.after (c :: cs) = (p.next c).after cs := rfl

@[simp] theorem after_append (p : Point) (a b : List Char) :
    p.after (a ++ b) = (p.after a).after b := by
  simp [after]

@[simp] theorem offset_next (p : Point) (c : Char) : (p.next c).offset = p.offset + c.utf8Size := by
  unfold next; split <;> rfl

theorem offset_after (p : Point) (cs : List Char) :
    (p.after cs).offset = p.offset + Text.byteSize cs := by
  induction cs generalizing p with
  | nil => simp
  | cons c cs ih => simp [ih, Nat.add_assoc]

/-- The wording of a place in messages. -/
def text (p : Point) : String :=
  "\x7bline:" ++ toString p.line ++ " column:" ++ toString p.column ++ "\x7d"

end Point

end ManifestMarkers
