/-!
# Text as characters

Scanners work on lists of characters. This module has the few operations they share: the blank
characters, trimming, splitting at a character, searching and replacing, and the length in bytes.

* `joinWith_splitOn`: splitting at a character loses nothing.
* `after?_eq_some_iff`: `after?` removes exactly the leading text it is given.
-/

namespace ManifestMarkers.Text

/-- The White_Space characters. -/
def isBlank (c : Char) : Bool :=
  (0x09 ≤ c.toNat && c.toNat ≤ 0x0d) || c == ' ' || c.toNat == 0x85 || c.toNat == 0xa0 ||
    c.toNat == 0x1680 || (0x2000 ≤ c.toNat && c.toNat ≤ 0x200a) || c.toNat == 0x2028 ||
    c.toNat == 0x2029 || c.toNat == 0x202f || c.toNat == 0x205f || c.toNat == 0x3000

/-- A space or a tab. -/
def isInlineBlank (c : Char) : Bool := c == ' ' || c == '\t'

/-- Remove leading blanks. -/
def trimStart (cs : List Char) : List Char := cs.dropWhile isBlank

/-- Remove the trailing characters that satisfy `p`. -/
def dropWhileEnd (p : Char → Bool) (cs : List Char) : List Char := (cs.reverse.dropWhile p).reverse

/-- Remove trailing blanks. -/
def trimEnd (cs : List Char) : List Char := dropWhileEnd isBlank cs

/-- Remove blanks on both sides. -/
def trim (cs : List Char) : List Char := trimEnd (trimStart cs)

theorem trimStart_eq {cs : List Char} (h : ∀ c ∈ cs.head?, isBlank c = false) :
    trimStart cs = cs := by
  cases cs with
  | nil => rfl
  | cons c cs => simp [trimStart, h c (by simp)]

theorem trimEnd_eq {cs : List Char} (h : ∀ c ∈ cs.getLast?, isBlank c = false) :
    trimEnd cs = cs := by
  have hreverse : trimStart cs.reverse = cs.reverse := trimStart_eq (by simpa using h)
  unfold trimStart at hreverse
  rw [trimEnd, dropWhileEnd, hreverse, List.reverse_reverse]

/-- Trimming does not reach what stands up to a character that is not blank. -/
theorem prefix_trimEnd (lead cs : List Char) {c : Char} (hc : isBlank c = false) :
    lead ++ [c] <+: trimEnd (lead ++ c :: cs) := by
  have hsplit : (lead ++ c :: cs).reverse = cs.reverse ++ (lead ++ [c]).reverse := by simp
  have hhead : ((lead ++ [c]).reverse).dropWhile isBlank = (lead ++ [c]).reverse := by
    simp [hc]
  rw [trimEnd, dropWhileEnd, hsplit, List.dropWhile_append, hhead]
  split
  · simp
  · simp only [List.reverse_append, List.reverse_reverse]
    exact List.prefix_append _ _

/-- Trimming leaves a leading part. -/
theorem trimEnd_prefix (cs : List Char) : trimEnd cs <+: cs := by
  have hsuffix : cs.reverse.dropWhile isBlank <:+ cs.reverse := List.dropWhile_suffix _
  have hprefix := List.reverse_prefix.2 hsuffix
  rwa [List.reverse_reverse] at hprefix

theorem isBlank_head?_trimStart (cs : List Char) :
    ∀ c ∈ (trimStart cs).head?, isBlank c = false := by
  intro c hc
  have hhead := List.head?_dropWhile_not isBlank cs
  rw [← trimStart, Option.mem_def.1 hc] at hhead
  simpa using hhead

theorem isBlank_head?_trim (cs : List Char) : ∀ c ∈ (trim cs).head?, isBlank c = false := by
  intro c hc
  obtain ⟨more, hmore⟩ := trimEnd_prefix (trimStart cs)
  refine isBlank_head?_trimStart cs c ?_
  rw [← hmore, List.head?_append, ← trim, Option.mem_def.1 hc]
  rfl

/-- The number of bytes of the UTF-8 form. -/
def byteSize : List Char → Nat
  | [] => 0
  | c :: cs => c.utf8Size + byteSize cs

@[simp] theorem byteSize_nil : byteSize [] = 0 := rfl

@[simp] theorem byteSize_cons (c : Char) (cs : List Char) :
    byteSize (c :: cs) = c.utf8Size + byteSize cs := rfl

@[simp] theorem byteSize_append (a b : List Char) :
    byteSize (a ++ b) = byteSize a + byteSize b := by
  induction a with
  | nil => simp
  | cons c a ih => simp [ih, Nat.add_assoc]

/-- Split at every `d`. The result is never empty. -/
def splitOn (d : Char) : List Char → List (List Char)
  | [] => [[]]
  | c :: cs =>
    if c = d then [] :: splitOn d cs
    else match splitOn d cs with
      | [] => [[c]]
      | part :: parts => (c :: part) :: parts

/-- The lines of a text: its parts between line feeds. -/
def lines (cs : List Char) : List (List Char) := splitOn '\n' cs

/-- Join parts, with `d` between neighbours. -/
def joinWith (d : List Char) : List (List Char) → List Char
  | [] => []
  | [part] => part
  | part :: next :: parts => part ++ d ++ joinWith d (next :: parts)

attribute [local simp] splitOn joinWith

theorem splitOn_ne_nil (d : Char) (cs : List Char) : splitOn d cs ≠ [] := by
  cases cs with
  | nil => simp
  | cons c cs =>
    simp only [splitOn]
    split
    · simp
    · split <;> simp

/-- Splitting at a character loses nothing. -/
theorem joinWith_splitOn (d : Char) (cs : List Char) : joinWith [d] (splitOn d cs) = cs := by
  induction cs with
  | nil => rfl
  | cons c cs ih =>
    simp only [splitOn]
    obtain ⟨part, parts, h⟩ := List.exists_cons_of_ne_nil (splitOn_ne_nil d cs)
    rw [h] at ih
    split
    · next hc => rw [h, joinWith]; simp [ih, hc]
    · rw [h]
      cases parts with
      | nil => simpa using ih
      | cons next parts => simpa using ih

/-- Splitting on both sides of a separator. -/
theorem splitOn_append_cons (d : Char) (a b : List Char) :
    splitOn d (a ++ d :: b) = splitOn d a ++ splitOn d b := by
  induction a with
  | nil => simp
  | cons c a ih =>
    obtain ⟨part, parts, h⟩ := List.exists_cons_of_ne_nil (splitOn_ne_nil d a)
    rw [List.cons_append, splitOn, splitOn, ih, h]
    by_cases hc : c = d
    · simp [hc]
    · simp [hc]

theorem splitOn_eq_singleton {d : Char} {cs : List Char} (h : d ∉ cs) :
    splitOn d cs = [cs] := by
  induction cs with
  | nil => rfl
  | cons c cs ih =>
    have hc : c ≠ d := fun e => h (by simp [e])
    simp [hc, ih fun hmem => h (by simp [hmem])]

theorem splitOn_append {d : Char} {cs : List Char} (hcs : d ∉ cs) (rest : List Char) :
    splitOn d (cs ++ d :: rest) = cs :: splitOn d rest := by
  rw [splitOn_append_cons, splitOn_eq_singleton hcs]
  rfl

/-- Parts that do not hold the separator are got back. -/
theorem splitOn_joinWith {d : Char} {parts : List (List Char)} (hne : parts ≠ [])
    (h : ∀ part ∈ parts, d ∉ part) : splitOn d (joinWith [d] parts) = parts := by
  induction parts with
  | nil => exact absurd rfl hne
  | cons part parts ih =>
    have hpart : d ∉ part := h part (by simp)
    cases parts with
    | nil => exact splitOn_eq_singleton hpart
    | cons next parts =>
      have ih := ih (by simp) fun p hp => h p (by simp [hp])
      rw [joinWith, List.append_assoc, List.singleton_append, splitOn_append hpart, ih]

theorem lines_joinWith {parts : List (List Char)} (hne : parts ≠ [])
    (h : ∀ part ∈ parts, '\n' ∉ part) : lines (joinWith ['\n'] parts) = parts :=
  splitOn_joinWith hne h

theorem joinWith_append {d : List Char} {parts parts' : List (List Char)} (h : parts ≠ [])
    (h' : parts' ≠ []) :
    joinWith d (parts ++ parts') = joinWith d parts ++ d ++ joinWith d parts' := by
  induction parts with
  | nil => exact absurd rfl h
  | cons part parts ih =>
    obtain ⟨next, more, rfl⟩ := List.exists_cons_of_ne_nil h'
    cases parts with
    | nil => rfl
    | cons second parts =>
      rw [List.cons_append, List.cons_append, joinWith, ← List.cons_append, ih (by simp),
        joinWith]
      simp

/-- Texts with a separator between them are the first one, then the others behind separators. -/
theorem joinWith_cons_eq_flatMap (d part : List Char) (parts : List (List Char)) :
    joinWith d (part :: parts) = part ++ parts.flatMap (d ++ ·) := by
  induction parts generalizing part with
  | nil => simp
  | cons next parts ih => rw [joinWith, ih, List.flatMap_cons, List.append_assoc, List.append_assoc]

/-- What is neither in the separator nor in a part is not in the text. -/
theorem mem_joinWith {c : Char} {d : List Char} (hd : c ∉ d) (parts : List (List Char)) :
    c ∈ joinWith d parts ↔ ∃ part ∈ parts, c ∈ part := by
  fun_induction joinWith d parts with
  | case1 => simp
  | case2 part => simp
  | case3 part next parts ih => simp [hd, ih]

theorem infix_joinWith {d part : List Char} {parts : List (List Char)} (h : part ∈ parts) :
    part <:+: joinWith d parts := by
  fun_induction joinWith d parts with
  | case1 => cases h
  | case2 first => exact List.mem_singleton.1 h ▸ List.infix_rfl
  | case3 first next parts ih =>
    rcases List.mem_cons.1 h with rfl | h
    · exact ⟨[], d ++ joinWith d (next :: parts), by simp⟩
    · exact (ih h).trans (List.suffix_append _ _).isInfix

theorem infix_of_mem_splitOn {d : Char} {cs part : List Char} (h : part ∈ splitOn d cs) :
    part <:+: cs := by
  have hinside : part <:+: joinWith [d] (splitOn d cs) := infix_joinWith h
  rwa [joinWith_splitOn] at hinside

/-- The parts do not hold the separator. -/
theorem notMem_of_mem_splitOn {d : Char} {cs part : List Char} (h : part ∈ splitOn d cs) :
    d ∉ part := by
  induction cs generalizing part with
  | nil =>
    obtain rfl : part = [] := by simpa using h
    simp
  | cons c cs ih =>
    obtain ⟨first, parts, hsplit⟩ := List.exists_cons_of_ne_nil (splitOn_ne_nil d cs)
    rw [splitOn] at h
    split at h
    · rcases List.mem_cons.1 h with rfl | h
      · simp
      · exact ih h
    · next hc =>
      rw [hsplit] at h ih
      rcases List.mem_cons.1 h with rfl | h
      · simp [Ne.symm hc, ih List.mem_cons_self]
      · exact ih (List.mem_cons_of_mem _ h)

/-- The rest of `cs` after the leading text `lead`, if it starts with it. -/
def after? (lead : List Char) (cs : List Char) : Option (List Char) :=
  match lead, cs with
  | [], cs => some cs
  | _ :: _, [] => none
  | l :: lead, c :: cs => if l = c then after? lead cs else none

/-- The text after `lead` is the text without it. -/
theorem after?_eq_some_iff {lead cs rest : List Char} :
    after? lead cs = some rest ↔ cs = lead ++ rest := by
  induction lead generalizing cs with
  | nil => simp [after?]
  | cons l lead ih =>
    cases cs with
    | nil => simp [after?]
    | cons c cs =>
      simp only [after?, List.cons_append, List.cons.injEq]
      split
      · next h => simp [ih, h]
      · next h => simp [Ne.symm h]

/-- Whether `needle` occurs in the text. -/
def occursIn (needle : List Char) : List Char → Bool
  | [] => needle.isEmpty
  | c :: cs => needle.isPrefixOf (c :: cs) || occursIn needle cs

/-- Replace occurrences of `old` from the left; `skip` characters still belong to the last one. -/
def replaceFrom (old new : List Char) : Nat → List Char → List Char
  | _, [] => []
  | skip + 1, _ :: cs => replaceFrom old new skip cs
  | 0, c :: cs =>
    if old.isPrefixOf (c :: cs) then new ++ replaceFrom old new (old.length - 1) cs
    else c :: replaceFrom old new 0 cs

/-- Replace every occurrence of the non-empty text `old`, from left to right. -/
def replaceAll (old new cs : List Char) : List Char := replaceFrom old new 0 cs

/-- The remainder of `cs` from the byte `n` on, if `n` is a character boundary within it. -/
def dropBytes? (cs : List Char) (n : Nat) : Option (List Char) :=
  if n = 0 then some cs
  else match cs with
    | [] => none
    | c :: cs => if c.utf8Size ≤ n then dropBytes? cs (n - c.utf8Size) else none

/-- Dropping the bytes of a leading text leaves the text after it. -/
theorem dropBytes?_append (a b : List Char) : dropBytes? (a ++ b) (byteSize a) = some b := by
  induction a with
  | nil =>
    unfold dropBytes?
    exact if_pos rfl
  | cons c a ih =>
    have hpos := c.utf8Size_pos
    have hsize : byteSize (c :: a) - c.utf8Size = byteSize a := by simp
    unfold dropBytes?
    rw [if_neg (by simp; omega), List.cons_append]
    dsimp only
    rw [if_pos (by simp), hsize, ih]

/-- Equality up to the case of ASCII letters. -/
def eqIgnoreCase (a b : String) : Bool :=
  a.toList.map Char.toLower == b.toList.map Char.toLower

/-- Join strings, with `d` between neighbours. -/
def joinStrings (d : String) (parts : List String) : String :=
  String.ofList (joinWith d.toList (parts.map String.toList))

end ManifestMarkers.Text
