import ManifestMarkers.Manifest.Builder
import Mathlib.Data.List.Basic
import Mathlib.Tactic.SplitIfs

/-!
# Checked access to texts

Texts as bytes, with every access checked.

* A computation in `Checked` ends `outside` when it looks at a byte, a line or a node that is not
  there, cuts a text inside of a character, or takes a number from a smaller one.
* `Text.utf8` has the bytes of a text. A character with a one-byte form never shows up inside of
  another one (`Text.eq_of_toUInt8_mem_utf8EncodeChar`), so that scanning bytes for it finds
  characters.
* `Checked.sliceFrom` and `Checked.sliceTo` cut at a byte. Between two texts that make up the whole
  they stay inside (`Checked.sliceFrom_append`, `Checked.sliceTo_append`).
-/

namespace ManifestMarkers

/-- What a computation comes to when every access is checked. -/
inductive Checked (α : Type)
  /-- There is nothing where it looks, or a difference is below zero. -/
  | outside
  /-- It has used up its steps. -/
  | endless
  | fault (f : Fault)
  | ok (value : α)
  deriving Repr

namespace Checked

variable {α β : Type}

instance : Monad Checked where
  pure := .ok
  bind x f := match x with
    | .outside => .outside
    | .endless => .endless
    | .fault e => .fault e
    | .ok value => f value

/-- What is there, if it is. -/
def ofOption : Option α → Checked α
  | some value => .ok value
  | none => .outside

def ofExcept : Except Fault α → Checked α
  | .ok value => .ok value
  | .error e => .fault e

/-- The difference of two numbers. -/
def sub (a b : Nat) : Checked Nat := if b ≤ a then .ok (a - b) else .outside

@[simp] theorem pure_eq (value : α) : (pure value : Checked α) = .ok value := rfl

@[simp] theorem ok_bind (value : α) (f : α → Checked β) : Checked.ok value >>= f = f value := rfl

@[simp] theorem ofOption_some (value : α) : ofOption (some value) = .ok value := rfl

@[simp] theorem ofExcept_ok (value : α) : ofExcept (.ok value) = .ok value := rfl

theorem sub_of_le {a b : Nat} (h : b ≤ a) : sub a b = .ok (a - b) := if_pos h

end Checked

namespace Text

/-- The bytes of the UTF-8 form. -/
def utf8 (cs : List Char) : List UInt8 := cs.flatMap String.utf8EncodeChar

/-- The characters before the byte `n`, if `n` is a character boundary within the text. -/
def takeBytes? (cs : List Char) (n : Nat) : Option (List Char) :=
  if n = 0 then some []
  else match cs with
    | [] => none
    | c :: cs =>
      if c.utf8Size ≤ n then (takeBytes? cs (n - c.utf8Size)).map (c :: ·) else none

/-- The byte at which the first character with the property `p` starts. -/
def offset? (p : Char → Bool) : List Char → Option Nat
  | [] => none
  | c :: cs => if p c then some 0 else (offset? p cs).map (c.utf8Size + ·)

/-- The byte at which the last occurrence of `needle` starts. -/
def lastOffset? (needle : List Char) : List Char → Option Nat
  | [] => if needle.isEmpty then some 0 else none
  | c :: cs => match lastOffset? needle cs with
    | some n => some (c.utf8Size + n)
    | none => if needle.isPrefixOf (c :: cs) then some 0 else none

/-! ### Bytes and characters -/

@[simp] theorem utf8_nil : utf8 [] = [] := rfl

@[simp] theorem utf8_cons (c : Char) (cs : List Char) :
    utf8 (c :: cs) = String.utf8EncodeChar c ++ utf8 cs := List.flatMap_cons

@[simp] theorem utf8_append (a b : List Char) : utf8 (a ++ b) = utf8 a ++ utf8 b :=
  List.flatMap_append

theorem length_utf8 (cs : List Char) : (utf8 cs).length = byteSize cs := by
  induction cs with
  | nil => rfl
  | cons c cs ih => simp [ih]

/-- A character with a one-byte form is its byte. -/
theorem utf8EncodeChar_of_small {c : Char} (h : c.toNat ≤ 127) :
    String.utf8EncodeChar c = [c.toUInt8] :=
  String.utf8EncodeChar_eq_singleton (Char.utf8Size_eq_one_iff.2 h)

/-- The byte of such a character is in no other one: all bytes of a longer form are from 128 on. -/
theorem eq_of_toUInt8_mem_utf8EncodeChar {c d : Char} (hd : d.toNat ≤ 127)
    (h : d.toUInt8 ∈ String.utf8EncodeChar c) : c = d := by
  have hbyte : d.toUInt8.toNat = d.toNat := by
    show d.val.toNat % 256 = d.val.toNat
    have hd' : d.val.toNat ≤ 127 := hd
    omega
  have hc : c.toNat ≤ 127 := by
    by_contra hlarge
    have hlarge' : ¬ c.val.toNat ≤ 127 := hlarge
    unfold String.utf8EncodeChar at h
    dsimp only at h
    rw [if_neg hlarge'] at h
    split_ifs at h <;>
      simp only [List.mem_cons, List.not_mem_nil, or_false, ← UInt8.toNat_inj, hbyte,
        UInt8.toNat_ofNat'] at h <;>
      omega
  rw [utf8EncodeChar_of_small hc, List.mem_singleton, ← UInt8.toNat_inj, hbyte] at h
  have hbyte' : c.toUInt8.toNat = c.toNat := by
    show c.val.toNat % 256 = c.val.toNat
    have hc' : c.val.toNat ≤ 127 := hc
    omega
  rw [hbyte'] at h
  exact Char.toNat_inj.1 h.symm

theorem byteSize_pos (c : Char) (cs : List Char) : 0 < byteSize (c :: cs) := by
  have hpos := c.utf8Size_pos
  rw [byteSize_cons]
  omega

/-! ### Cutting -/

@[simp] theorem takeBytes?_zero (cs : List Char) : takeBytes? cs 0 = some [] := by
  unfold takeBytes?
  exact if_pos rfl

/-- Taking the bytes of a leading text gives the text. -/
theorem takeBytes?_append (a b : List Char) : takeBytes? (a ++ b) (byteSize a) = some a := by
  induction a with
  | nil => exact takeBytes?_zero _
  | cons c a ih =>
    have hpos := c.utf8Size_pos
    have hsize : byteSize (c :: a) - c.utf8Size = byteSize a := by simp
    unfold takeBytes?
    rw [if_neg (by simp; omega), List.cons_append]
    dsimp only
    rw [if_pos (by simp), hsize, ih]
    rfl

/-- Searching ends at a character boundary. -/
theorem offset?_eq (p : Char → Bool) (cs : List Char) :
    offset? p cs =
      if cs.any p then some (byteSize (cs.takeWhile fun c => !p c)) else none := by
  induction cs with
  | nil => rfl
  | cons c cs ih =>
    rw [offset?, ih]
    by_cases hc : p c
    · simp [hc]
    · by_cases hany : cs.any p <;> simp [hc, hany]

theorem offset?_append {p : Char → Bool} {a b : List Char} {c : Char}
    (ha : ∀ d ∈ a, p d = false) (hc : p c = true) :
    offset? p (a ++ c :: b) = some (byteSize a) := by
  induction a with
  | nil => simp [offset?, hc]
  | cons d a ih =>
    obtain ⟨hd, ha⟩ := List.forall_mem_cons.1 ha
    rw [List.cons_append, offset?, hd, ih ha]
    rfl

theorem offset?_eq_none {p : Char → Bool} {cs : List Char} (h : ∀ c ∈ cs, p c = false) :
    offset? p cs = none := by
  rw [offset?_eq, if_neg]
  simpa using h

end Text

namespace Checked

open Text

/-- The text from the byte `n` on. -/
def sliceFrom (cs : List Char) (n : Nat) : Checked (List Char) := ofOption (dropBytes? cs n)

/-- The text up to the byte `n`. -/
def sliceTo (cs : List Char) (n : Nat) : Checked (List Char) := ofOption (takeBytes? cs n)

/-- The byte at an index. -/
def byteAt (bytes : List UInt8) (i : Nat) : Checked UInt8 := ofOption bytes[i]?

theorem sliceFrom_append (a b : List Char) : sliceFrom (a ++ b) (byteSize a) = .ok b := by
  rw [sliceFrom, dropBytes?_append, ofOption_some]

theorem sliceTo_append (a b : List Char) : sliceTo (a ++ b) (byteSize a) = .ok a := by
  rw [sliceTo, takeBytes?_append, ofOption_some]

theorem byteAt_append (a : List UInt8) (byte : UInt8) (b : List UInt8) :
    byteAt (a ++ byte :: b) a.length = .ok byte := by
  rw [byteAt, List.getElem?_append_right (Nat.le_refl _), Nat.sub_self, List.getElem?_cons_zero,
    ofOption_some]

/-- The byte at a character is the first one of what starts there. -/
theorem getElem?_utf8 (lead cs : List Char) :
    (utf8 (lead ++ cs))[byteSize lead]? = (utf8 cs).head? := by
  rw [← length_utf8, utf8_append, List.getElem?_append_right (Nat.le_refl _), Nat.sub_self,
    List.head?_eq_getElem?]

theorem byteSize_lt_length_utf8 (lead : List Char) (c : Char) (cs : List Char) :
    byteSize lead < (utf8 (lead ++ c :: cs)).length := by
  have hpos := byteSize_pos c cs
  rw [length_utf8, byteSize_append]
  omega

theorem byteAt_utf8 {c : Char} (hc : c.toNat ≤ 127) (lead cs : List Char) :
    byteAt (utf8 (lead ++ c :: cs)) (byteSize lead) = .ok c.toUInt8 := by
  rw [byteAt, getElem?_utf8, utf8_cons, utf8EncodeChar_of_small hc]
  rfl

/-- Cutting behind a text and the one-byte character that follows it. -/
theorem sliceFrom_append_cons {a b : List Char} {c : Char} (hc : c.utf8Size = 1) :
    sliceFrom (a ++ c :: b) (byteSize a + 1) = .ok b := by
  have h := sliceFrom_append (a ++ [c]) b
  rwa [byteSize_append, byteSize_cons, hc, byteSize_nil, List.append_assoc,
    List.singleton_append] at h

end Checked

end ManifestMarkers
