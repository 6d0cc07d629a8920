import ManifestMarkers.Proofs.CheckedTexts
import ManifestMarkers.Proofs.InlineValues
import ManifestMarkers.Proofs.ManifestCanonical

/-!
# Splitting lines at bytes

Lines are split at byte offsets that are found on one text and used to cut it, or another one. Here
every offset is checked where it is used, and none is outside.

* `Checked.quotedEnd` is the byte behind the closing quote, found byte by byte
  (`Checked.quotedEnd_eq`).
* `Checked.splitComment` looks at the byte before each `#`, from an offset that is the sum of three
  others (`Checked.splitComment_eq`).
* `Checked.splitKey` cuts on both sides of one colon after the other (`Checked.splitKey_eq`), and
  `Checked.splitValue` behind each property (`Checked.splitValue_eq`).
* `Checked.commentPoint` cuts a line where its comment was found (`Checked.commentPoint_eq`), and
  `Checked.lineOf` takes the size of a text from that of the line (`Checked.lineOf_eq`).
-/

namespace ManifestMarkers.Checked

open Text Manifest

/-! ### Quoted scalars -/

/-- The byte behind the double quote that is not escaped; `index` is the byte that comes first. -/
def doubleEnd (escaped : Bool) (index : Nat) : List UInt8 → Option Nat
  | [] => none
  | byte :: bytes =>
    if byte = '\\'.toUInt8 ∧ !escaped then doubleEnd true (index + 1) bytes
    else if byte = '"'.toUInt8 ∧ !escaped then some (index + 1)
    else doubleEnd false (index + 1) bytes

/-- The byte behind the single quote that is not doubled, from `index` on. -/
def singleEnd (bytes : List UInt8) (index : Nat) : Checked (Option Nat) :=
  if _h : index < bytes.length then do
    let byte ← byteAt bytes index
    if byte = '\''.toUInt8 then
      if bytes[index + 1]? = some '\''.toUInt8 then singleEnd bytes (index + 2)
      else return some (index + 1)
    else singleEnd bytes (index + 1)
  else return none
termination_by bytes.length - index

/-- The byte behind the closing quote of the quoted scalar that a text starts with. -/
def quotedEnd (cs : List Char) : Checked (Option Nat) :=
  match utf8 cs with
  | [] => return none
  | byte :: bytes =>
    if byte = '"'.toUInt8 then return doubleEnd false 1 bytes
    else if byte = '\''.toUInt8 then singleEnd (byte :: bytes) 1
    else return none

/-- Bytes of another character are passed, and end an escape. -/
theorem doubleEnd_append {bs : List UInt8} (hne : bs ≠ []) (hslash : '\\'.toUInt8 ∉ bs)
    (hquote : '"'.toUInt8 ∉ bs) (escaped : Bool) (index : Nat) (rest : List UInt8) :
    doubleEnd escaped index (bs ++ rest) = doubleEnd false (index + bs.length) rest := by
  induction bs generalizing escaped index with
  | nil => exact absurd rfl hne
  | cons b bs ih =>
    obtain ⟨hb, hslash⟩ := not_or.1 (List.mem_cons.not.1 hslash)
    obtain ⟨hb', hquote⟩ := not_or.1 (List.mem_cons.not.1 hquote)
    rw [List.cons_append, doubleEnd, if_neg fun h => hb h.1.symm, if_neg fun h => hb' h.1.symm]
    by_cases hnil : bs = []
    · subst hnil
      rfl
    · rw [ih hnil hslash hquote, List.length_cons]
      congr 1
      omega

theorem doubleEnd_utf8 (escaped : Bool) (index : Nat) (cs : List Char) :
    doubleEnd escaped index (utf8 cs) =
      (splitDouble escaped cs).map fun s => index + byteSize s.1 := by
  induction cs generalizing escaped index with
  | nil => rfl
  | cons c cs ih =>
    rw [utf8_cons, splitDouble]
    by_cases hslash : c = '\\'
    · subst hslash
      rw [utf8EncodeChar_of_small (by decide), List.singleton_append, doubleEnd]
      cases escaped <;> simp [ih, Option.map_map, Function.comp_def, Nat.add_assoc] <;> rfl
    · by_cases hquote : c = '"'
      · subst hquote
        rw [utf8EncodeChar_of_small (by decide), List.singleton_append, doubleEnd]
        cases escaped <;> simp [ih, Option.map_map, Function.comp_def, Nat.add_assoc] <;> rfl
      · rw [doubleEnd_append String.utf8EncodeChar_ne_nil
          (fun h => hslash (eq_of_toUInt8_mem_utf8EncodeChar (by decide) h))
          (fun h => hquote (eq_of_toUInt8_mem_utf8EncodeChar (by decide) h)), ih]
        simp [hslash, hquote, Option.map_map, Function.comp_def, Nat.add_assoc]

/-- Bytes of another character are passed. -/
theorem singleEnd_append {bs : List UInt8} (hquote : '\''.toUInt8 ∉ bs) (lead rest : List UInt8) :
    singleEnd (lead ++ (bs ++ rest)) lead.length =
      singleEnd (lead ++ (bs ++ rest)) (lead.length + bs.length) := by
  induction bs generalizing lead with
  | nil => rfl
  | cons b bs ih =>
    obtain ⟨hb, hquote⟩ := not_or.1 (List.mem_cons.not.1 hquote)
    rw [singleEnd, dif_pos (by simp), List.cons_append, byteAt_append, ok_bind,
      if_neg fun h => hb h.symm]
    have hih := ih hquote (lead ++ [b])
    rw [List.append_assoc, List.singleton_append, List.length_append, List.length_singleton] at hih
    rw [hih, List.length_cons]
    congr 1
    omega

/-- The first byte of a text tells whether it starts with a character that has one byte. -/
theorem head?_utf8_eq_iff {d : Char} (hd : d.toNat ≤ 127) (cs : List Char) :
    (utf8 cs).head? = some d.toUInt8 ↔ cs.head? = some d := by
  cases cs with
  | nil => simp
  | cons c cs =>
    obtain ⟨b, bs, hbytes⟩ := List.exists_cons_of_ne_nil (String.utf8EncodeChar_ne_nil (c := c))
    rw [utf8_cons, hbytes, List.cons_append, List.head?_cons, List.head?_cons, Option.some.injEq,
      Option.some.injEq]
    constructor
    · rintro rfl
      exact eq_of_toUInt8_mem_utf8EncodeChar hd (by rw [hbytes]; exact List.mem_cons_self)
    · rintro rfl
      rw [utf8EncodeChar_of_small hd] at hbytes
      exact (List.cons.inj hbytes).1.symm

theorem singleEnd_utf8 (lead cs : List Char) :
    singleEnd (utf8 (lead ++ cs)) (byteSize lead) =
      .ok ((splitSingle cs).map fun s => byteSize lead + byteSize s.1) := by
  have hquote : ('\'' : Char).toNat ≤ 127 := by decide
  have hsize : ('\'' : Char).utf8Size = 1 := rfl
  fun_induction splitSingle cs generalizing lead with
  | case1 =>
    rw [singleEnd, dif_neg (by simp [length_utf8])]
    rfl
  | case2 =>
    have hnext : (utf8 (lead ++ ['\'']))[byteSize lead + 1]? = none := by
      rw [List.getElem?_eq_none]
      simp [length_utf8, hsize]
    rw [singleEnd, dif_pos (byteSize_lt_length_utf8 _ _ _), byteAt_utf8 hquote, ok_bind, if_pos rfl,
      if_neg (by rw [hnext]; simp)]
    simp [hsize]
  | case3 cs ih =>
    -- a doubled quote is passed as a whole
    have hnext : (utf8 (lead ++ '\'' :: '\'' :: cs))[byteSize lead + 1]? =
        some '\''.toUInt8 := by
      have hbyte := getElem?_utf8 (lead ++ ['\'']) ('\'' :: cs)
      simpa [hsize, utf8EncodeChar_of_small hquote] using hbyte
    have hih := ih (lead ++ ['\'', '\''])
    rw [singleEnd, dif_pos (byteSize_lt_length_utf8 _ _ _), byteAt_utf8 hquote, ok_bind, if_pos rfl,
      if_pos hnext]
    simp only [List.append_assoc, byteSize_append, byteSize_cons, byteSize_nil, hsize,
      List.cons_append, List.nil_append] at hih
    rw [hih]
    simp only [Option.map_map, Function.comp_def, byteSize_cons, hsize]
    congr 3
    funext s
    omega
  | case4 cs hne hsingle =>
    have hnext : ¬ (utf8 (lead ++ '\'' :: cs))[byteSize lead + 1]? = some '\''.toUInt8 := by
      have hbyte := getElem?_utf8 (lead ++ ['\'']) cs
      rw [List.append_assoc, byteSize_append, byteSize_cons, hsize] at hbyte
      rw [show byteSize lead + 1 = byteSize lead + (1 + byteSize []) from rfl,
        ← List.singleton_append, hbyte, head?_utf8_eq_iff hquote]
      intro h
      cases cs with
      | nil => cases h
      | cons d cs =>
        obtain rfl := Option.some.inj h
        exact hsingle cs rfl rfl
    rw [singleEnd, dif_pos (byteSize_lt_length_utf8 _ _ _), byteAt_utf8 hquote, ok_bind, if_pos rfl,
      if_neg hnext]
    simp [hsize]
  | case5 c cs hne hsingle hc ih =>
    have hih := ih (lead ++ [c])
    have hother : '\''.toUInt8 ∉ String.utf8EncodeChar c :=
      fun h => hc (eq_of_toUInt8_mem_utf8EncodeChar hquote h)
    rw [← length_utf8, utf8_append, utf8_cons, singleEnd_append hother, length_utf8,
      String.length_utf8EncodeChar]
    simp only [utf8_append, utf8_cons, utf8_nil, List.append_nil, List.append_assoc,
      byteSize_append, byteSize_cons, byteSize_nil, Nat.add_zero] at hih
    rw [hih]
    simp [Option.map_map, Function.comp_def, Nat.add_assoc]

/-- The byte behind a quoted scalar is where the characters say. -/
@[simp]
theorem quotedEnd_eq (cs : List Char) :
    quotedEnd cs = .ok ((splitQuoted? cs).map fun s => byteSize s.1) := by
  have hdouble : ('"' : Char).utf8Size = 1 := rfl
  have hsingle : ('\'' : Char).utf8Size = 1 := rfl
  cases cs with
  | nil => rfl
  | cons c cs =>
    by_cases hc : c = '"'
    · subst hc
      rw [quotedEnd, utf8_cons, utf8EncodeChar_of_small (by decide), List.singleton_append]
      simp [doubleEnd_utf8, splitQuoted?, Option.map_map, Function.comp_def, hdouble]
    · by_cases hc' : c = '\''
      · subst hc'
        have hscan := singleEnd_utf8 ['\''] cs
        rw [List.singleton_append, utf8_cons, utf8EncodeChar_of_small (by decide),
          List.singleton_append] at hscan
        rw [quotedEnd, utf8_cons, utf8EncodeChar_of_small (by decide), List.singleton_append]
        simp only [byteSize_cons, byteSize_nil, hsingle] at hscan
        dsimp only
        rw [if_neg (by decide), if_pos rfl, hscan]
        simp [splitQuoted?, Option.map_map, Function.comp_def, hsingle]
      · have hhead (d : Char) (hd : d.toNat ≤ 127) (hcd : c ≠ d) :
            (utf8 (c :: cs)).head? ≠ some d.toUInt8 := by
          rw [Ne, head?_utf8_eq_iff hd]
          simpa using hcd
        have hdouble' := hhead '"' (by decide) hc
        have hsingle' := hhead '\'' (by decide) hc'
        have hnone : splitQuoted? (c :: cs) = none := by simp [splitQuoted?, hc, hc']
        rw [quotedEnd, hnone]
        split
        · rfl
        · next byte bytes hbytes =>
          rw [hbytes] at hdouble' hsingle'
          rw [if_neg (by simpa using hdouble'), if_neg (by simpa using hsingle')]
          rfl

/-! ### Comments -/

/-- Whether the byte before `index`, if there is one, is a blank. -/
def behindBlank (bytes : List UInt8) (index : Nat) : Checked Bool :=
  if index = 0 then return true
  else do
    let byte ← byteAt bytes (← sub index 1)
    return byte == ' '.toUInt8 || byte == '\t'.toUInt8

/-- The first `#` from `index` on that stands at the start or behind a blank. -/
def hashFrom (bytes : List UInt8) (index : Nat) : Checked (Option Nat) :=
  if _h : index < bytes.length then do
    let byte ← byteAt bytes index
    let isComment ← if byte = '#'.toUInt8 then behindBlank bytes index else pure false
    if isComment then return some index else hashFrom bytes (index + 1)
  else return none
termination_by bytes.length - index

/-- The byte behind the tag that a text starts with, and the blank after the tag. -/
def tagEnd (text : List Char) : Nat :=
  match text with
  | '!' :: _ => match offset? isInlineBlank text with
    | some index => index + 1
    | none => byteSize text
  | _ => 0

/-- Split a value from its trailing comment. -/
def splitComment (cs : List Char) : Checked (List Char × List Char) := do
  let text := trim cs
  let tail ← sliceFrom text (tagEnd text)
  let body ← sub (tagEnd text + byteSize tail) (byteSize (trimStart tail))
  let quoted ← quotedEnd (← sliceFrom text body)
  let start := match quoted with
    | some stop => body + stop
    | none => body
  match ← hashFrom (utf8 text) start with
  | none => return (text, [])
  | some index => return (trimEnd (← sliceTo text index), trimEnd (← sliceFrom text index))

theorem behindBlank_utf8 (before rest : List Char) :
    behindBlank (utf8 (before ++ rest)) (byteSize before) =
      .ok (before.getLast?.all isInlineBlank) := by
  rcases List.eq_nil_or_concat before with rfl | ⟨lead, c, rfl⟩
  · rfl
  · have hpos : byteSize (lead.concat c) ≠ 0 := by
      have hc := c.utf8Size_pos
      simp only [List.concat_eq_append, byteSize_append, byteSize_cons, byteSize_nil]
      omega
    -- the last byte of `c` is a blank only if `c` is
    obtain ⟨bs, b, hbytes⟩ :=
      List.eq_nil_or_concat (String.utf8EncodeChar c) |>.resolve_left String.utf8EncodeChar_ne_nil
    have hlast : b ∈ String.utf8EncodeChar c := by simp [hbytes]
    have hbyte : byteAt (utf8 (lead.concat c ++ rest)) (byteSize (lead.concat c) - 1) = .ok b := by
      have hsplit : utf8 (lead.concat c ++ rest) = (utf8 lead ++ bs) ++ b :: utf8 rest := by
        simp [hbytes]
      have hindex : byteSize (lead.concat c) - 1 = (utf8 lead ++ bs).length := by
        have hlength := String.length_utf8EncodeChar c
        rw [hbytes] at hlength
        simp only [List.concat_eq_append, byteSize_append, byteSize_cons, byteSize_nil,
          List.length_append, length_utf8, List.length_singleton] at hlength ⊢
        omega
      rw [hsplit, hindex, byteAt_append]
    have heq (d : Char) (hd : d.toNat ≤ 127) : (b == d.toUInt8) = (c == d) := by
      rw [Bool.eq_iff_iff, beq_iff_eq, beq_iff_eq]
      constructor
      · rintro rfl
        exact eq_of_toUInt8_mem_utf8EncodeChar hd hlast
      · rintro rfl
        rw [utf8EncodeChar_of_small hd, List.mem_singleton] at hlast
        exact hlast
    rw [behindBlank, if_neg hpos, sub_of_le (Nat.one_le_iff_ne_zero.2 hpos), ok_bind, hbyte,
      ok_bind, heq ' ' (by decide), heq '\t' (by decide)]
    simp [isInlineBlank]

theorem splitHash_cons (before : Option Char) (c : Char) (cs : List Char) :
    splitHash before (c :: cs) =
      if c == '#' && before.all isInlineBlank then ([], c :: cs)
      else (c :: (splitHash (some c) cs).1, (splitHash (some c) cs).2) := by
  cases before <;> rfl

/-- Nothing is lost between a value and its comment. -/
theorem splitHash_append_eq (before : Option Char) (cs : List Char) :
    (splitHash before cs).1 ++ (splitHash before cs).2 = cs := by
  induction cs generalizing before with
  | nil => rfl
  | cons c cs ih =>
    rw [splitHash_cons]
    split
    · rfl
    · rw [List.cons_append, ih]

/-- Bytes of another character are passed. -/
theorem hashFrom_append {bs : List UInt8} (hhash : '#'.toUInt8 ∉ bs) (lead rest : List UInt8) :
    hashFrom (lead ++ (bs ++ rest)) lead.length =
      hashFrom (lead ++ (bs ++ rest)) (lead.length + bs.length) := by
  induction bs generalizing lead with
  | nil => rfl
  | cons b bs ih =>
    obtain ⟨hb, hhash⟩ := not_or.1 (List.mem_cons.not.1 hhash)
    rw [hashFrom, dif_pos (by simp), List.cons_append, byteAt_append, ok_bind,
      if_neg fun h => hb h.symm, pure_eq, ok_bind]
    have hih := ih hhash (lead ++ [b])
    rw [List.append_assoc, List.singleton_append, List.length_append, List.length_singleton] at hih
    simp only [Bool.false_eq_true, if_false, hih, List.length_cons]
    congr 1
    omega

/-- The `#` is found where the characters say. -/
theorem hashFrom_utf8 (before rest : List Char) :
    hashFrom (utf8 (before ++ rest)) (byteSize before) =
      .ok (if (splitHash before.getLast? rest).2 = [] then none
        else some (byteSize (before ++ (splitHash before.getLast? rest).1))) := by
  induction rest generalizing before with
  | nil =>
    rw [hashFrom, dif_neg (by simp [length_utf8])]
    rfl
  | cons c rest ih =>
    have hih := ih (before ++ [c])
    rw [List.getLast?_append_cons, List.append_assoc, List.singleton_append, byteSize_append,
      byteSize_cons, byteSize_nil, Nat.add_zero] at hih
    have hmore : byteSize (before ++ [c] ++ (splitHash [c].getLast? rest).1) =
        byteSize (before ++ c :: (splitHash (some c) rest).1) := by simp
    rw [hmore] at hih
    simp only [splitHash_cons]
    by_cases hc : c = '#'
    · subst hc
      have hsize : ('#' : Char).utf8Size = 1 := rfl
      rw [hsize] at hih
      rw [hashFrom, dif_pos (byteSize_lt_length_utf8 _ _ _), byteAt_utf8 (by decide), ok_bind,
        if_pos rfl, behindBlank_utf8, ok_bind]
      cases before.getLast?.all isInlineBlank with
      | true => simp
      | false => simpa using hih
    · have hother : '#'.toUInt8 ∉ String.utf8EncodeChar c :=
        fun h => hc (eq_of_toUInt8_mem_utf8EncodeChar (by decide) h)
      have hpass := hashFrom_append hother (utf8 before) (utf8 rest)
      rw [length_utf8, String.length_utf8EncodeChar, ← utf8_cons, ← utf8_append] at hpass
      rw [hpass, hih]
      simp [hc]

/-- The text up to the first blank, and the byte where it ends. -/
theorem exists_cut_blank (text : List Char) :
    ∃ word rest, text = word ++ rest ∧ word = text.takeWhile (fun c => !isInlineBlank c) ∧
      (offset? isInlineBlank text = none ∧ rest = [] ∨
        ∃ b more, rest = b :: more ∧ isInlineBlank b = true ∧
          offset? isInlineBlank text = some (byteSize word)) := by
  refine ⟨_, text.dropWhile (fun c => !isInlineBlank c),
    (List.takeWhile_append_dropWhile).symm, rfl, ?_⟩
  rw [offset?_eq]
  cases hrest : text.dropWhile (fun c => !isInlineBlank c) with
  | nil =>
    have hall := List.dropWhile_eq_nil_iff.1 hrest
    exact .inl ⟨if_neg (by simpa using hall), rfl⟩
  | cons b more =>
    have hb : isInlineBlank b = true := by
      have hhead := List.head?_dropWhile_not (fun c => !isInlineBlank c) text
      rw [hrest] at hhead
      simpa using hhead
    have hmem : b ∈ text := (List.dropWhile_suffix _).subset (hrest ▸ List.mem_cons_self)
    exact .inr ⟨b, more, rfl, hb, if_pos (List.any_eq_true.2 ⟨b, hmem, hb⟩)⟩

theorem utf8Size_of_isInlineBlank {c : Char} (h : isInlineBlank c = true) : c.utf8Size = 1 := by
  rcases Bool.or_eq_true_iff.1 h with h | h <;> rw [beq_iff_eq.1 h] <;> rfl

/-- The tag in front of a value ends where `tagEnd` says. -/
theorem exists_splitTag (text : List Char) :
    ∃ tag rest, text = tag ++ rest ∧ tagEnd text = byteSize tag ∧
      splitTag text = (tag ++ rest.takeWhile isBlank, rest.dropWhile isBlank) := by
  by_cases hbang : ∃ more, text = '!' :: more
  · obtain ⟨word, rest, htext, hword, hcut⟩ := exists_cut_blank text
    have hdrop : text.drop word.length = rest := by rw [htext, List.drop_left]
    have hsplit : splitTag text =
        ((word ++ rest.take 1) ++ ((text.drop (word ++ rest.take 1).length).takeWhile isBlank),
          (text.drop (word ++ rest.take 1).length).dropWhile isBlank) := by
      obtain ⟨more, rfl⟩ := hbang
      unfold splitTag
      dsimp only
      rw [← hword, hdrop]
      rfl
    have hend : tagEnd text = match offset? isInlineBlank text with
        | some index => index + 1
        | none => byteSize text := by
      obtain ⟨more, rfl⟩ := hbang
      rfl
    rcases hcut with ⟨hnone, rfl⟩ | ⟨b, more, rfl, hb, hsome⟩
    · refine ⟨text, [], by simp, by rw [hend, hnone], ?_⟩
      rw [List.append_nil] at htext
      rw [hsplit, ← htext]
      simp
    · refine ⟨word ++ [b], more, by simpa using htext, ?_, ?_⟩
      · rw [hend, hsome]
        simp [utf8Size_of_isInlineBlank hb]
      · have hdrop' : text.drop (word ++ [b]).length = more := by
          rw [htext, ← List.singleton_append (l := more), ← List.append_assoc, List.drop_left]
        rw [hsplit, List.take_succ_cons, List.take_zero, hdrop']
  · have hother : ∀ more, text ≠ '!' :: more := fun more h => hbang ⟨more, h⟩
    refine ⟨[], text, rfl, ?_, ?_⟩
    · unfold tagEnd
      split
      · next more => exact absurd rfl (hother more)
      · rfl
    · unfold splitTag
      split
      · next more => exact absurd rfl (hother more)
      · rfl

@[simp]
theorem splitComment_eq (cs : List Char) : splitComment cs = .ok (Manifest.splitComment cs) := by
  unfold splitComment Manifest.splitComment
  dsimp only
  generalize trim cs = text
  obtain ⟨tag, rest, htext, hend, hsplit⟩ := exists_splitTag text
  rw [hsplit]
  dsimp only
  -- the blanks behind the tag belong to what stands before the body
  generalize hblanks : rest.takeWhile isBlank = blanks
  have hbody : trimStart rest = rest.dropWhile isBlank := rfl
  generalize hrest : rest.dropWhile isBlank = body at hbody ⊢
  have hparts : rest = blanks ++ body := by
    rw [← hblanks, ← hrest, List.takeWhile_append_dropWhile]
  have htail : sliceFrom text (tagEnd text) = .ok rest := by
    rw [hend, htext, sliceFrom_append]
  have hsub : sub (tagEnd text + byteSize rest) (byteSize body) =
      .ok (byteSize (tag ++ blanks)) := by
    rw [hparts, byteSize_append, hend, sub_of_le (by omega), byteSize_append]
    congr 1
    omega
  have hslice : sliceFrom text (byteSize (tag ++ blanks)) = .ok body := by
    rw [htext, hparts, ← List.append_assoc, sliceFrom_append]
  rw [htail, ok_bind, hbody, hsub, ok_bind, hslice, ok_bind, quotedEnd_eq, ok_bind]
  -- what stands before the text that is searched for a comment
  generalize hquoted : (splitQuoted? body).getD ([], body) = quoted
  have hbefore : (match (splitQuoted? body).map fun s => byteSize s.1 with
      | some stop => byteSize (tag ++ blanks) + stop
      | none => byteSize (tag ++ blanks)) = byteSize (tag ++ blanks ++ quoted.1) := by
    rw [← hquoted]
    cases splitQuoted? body <;> simp [Nat.add_assoc]
  have hwhole : text = tag ++ blanks ++ quoted.1 ++ quoted.2 := by
    rw [htext, hparts, ← hquoted, List.append_assoc _ _ (_ : List Char),
      getD_splitQuoted?_append, ← List.append_assoc]
  rw [hbefore]
  generalize tag ++ blanks ++ quoted.1 = before at *
  generalize quoted.2 = searched at *
  rw [hwhole, hashFrom_utf8, ok_bind]
  have hhash : (splitHash before.getLast? searched).1 ++ (splitHash before.getLast? searched).2 =
      searched := splitHash_append_eq _ _
  generalize splitHash before.getLast? searched = split at *
  by_cases hnil : split.2 = []
  · simp [hnil]
  · rw [if_neg hnil]
    dsimp only
    rw [← hhash, ← List.append_assoc, sliceTo_append, ok_bind, sliceFrom_append, ok_bind,
      if_neg (by simpa using hnil)]
    rfl

/-! ### Keys -/

/-- The first colon from the byte `search` on that ends a key, as a split of the line there. -/
def colonFrom (cs : List Char) (quoted : Bool) (search : Nat) :
    Checked (Option (List Char × List Char)) :=
  if _h : search ≤ byteSize cs then do
    let tail ← sliceFrom cs search
    match offset? (· == ':') tail with
    | none => return none
    | some offset =>
      let after ← sliceFrom cs (search + offset + 1)
      if after.head?.all isInlineBlank then
        let key := trimEnd (← sliceTo cs (search + offset))
        if key.isEmpty || (!quoted && occursIn [' ', '#'] key) then return none
        else return some (key, after)
      else colonFrom cs quoted (search + offset + 1)
  else .outside
termination_by byteSize cs + 1 - search

/-- Split a line into its key and what follows the colon. -/
def splitKey (cs : List Char) : Checked (Option (List Char × List Char)) :=
  if isItem cs || cs.head?.any isKeyBarrier then return none
  else do
    let search ← if startsQuoted cs then quotedEnd cs else pure (some 0)
    match search with
    | none => return none
    | some search => colonFrom cs (startsQuoted cs) search

/-- The key that stands before a colon, and what follows it. -/
def keyBefore (quoted : Bool) (before : List Char) (split : List Char × List Char) :
    Option (List Char × List Char) :=
  if (trimEnd (before ++ split.1)).isEmpty ||
      (!quoted && occursIn [' ', '#'] (trimEnd (before ++ split.1))) then none
  else some (trimEnd (before ++ split.1), split.2)

theorem splitColon_eq_none {cs : List Char} (h : ':' ∉ cs) : splitColon cs = none := by
  cases hsplit : splitColon cs with
  | none => rfl
  | some split =>
    obtain ⟨before, after⟩ := split
    rw [eq_of_splitColon hsplit] at h
    exact absurd (by simp) h

theorem splitColon_colon (cs : List Char) :
    splitColon (':' :: cs) =
      if cs.head?.all isInlineBlank then some ([], cs)
      else (splitColon cs).map fun split => (':' :: split.1, split.2) := by
  cases cs <;> rfl

/-- Colon after colon is looked at, up to the one that ends the key. -/
theorem colonFrom_eq (quoted : Bool) (before rest : List Char) :
    colonFrom (before ++ rest) quoted (byteSize before) =
      .ok ((splitColon rest).bind (keyBefore quoted before)) := by
  have hguard : byteSize before ≤ byteSize (before ++ rest) := by rw [byteSize_append]; omega
  by_cases hcolon : ':' ∈ rest
  · obtain ⟨lead, after, hrest, hlead⟩ := List.eq_append_cons_of_mem hcolon
    have hoffset : offset? (· == ':') rest = some (byteSize lead) := by
      rw [hrest]
      exact offset?_append (fun d hd => beq_eq_false_iff_ne.2 fun h => hlead (h ▸ hd)) rfl
    have hcut : byteSize before + byteSize lead = byteSize (before ++ lead) := by simp
    have hwhole : before ++ rest = before ++ lead ++ ':' :: after := by rw [hrest]; simp
    have hafter : sliceFrom (before ++ rest) (byteSize (before ++ lead) + 1) = .ok after := by
      rw [hwhole, sliceFrom_append_cons rfl]
    rw [colonFrom, dif_pos hguard, sliceFrom_append, ok_bind, hoffset]
    dsimp only
    rw [hcut, hafter, ok_bind, hrest, Canonical.splitColon_append hlead, splitColon_colon]
    by_cases hblank : after.head?.all isInlineBlank = true
    · have hkey : sliceTo (before ++ rest) (byteSize (before ++ lead)) = .ok (before ++ lead) := by
        rw [hwhole, sliceTo_append]
      rw [if_pos hblank, if_pos hblank, ← hrest, hkey, ok_bind]
      simp only [Option.map_some, Option.bind_some, keyBefore, List.append_nil]
      split <;> rfl
    · -- the next colon is looked for behind this one
      have hshorter : after.length < rest.length := by rw [hrest]; simp; omega
      have hih := colonFrom_eq quoted (before ++ lead ++ [':']) after
      have hnext : byteSize (before ++ lead ++ [':']) = byteSize (before ++ lead) + 1 := by
        rw [byteSize_append]
        rfl
      rw [hnext, List.append_assoc, List.singleton_append, ← hwhole] at hih
      rw [if_neg hblank, if_neg hblank, ← hrest, hih]
      cases splitColon after <;> simp [keyBefore]
  · have hoffset : offset? (· == ':') rest = none :=
      offset?_eq_none fun d hd => beq_eq_false_iff_ne.2 fun h => hcolon (h ▸ hd)
    rw [colonFrom, dif_pos hguard, sliceFrom_append, ok_bind, hoffset, splitColon_eq_none hcolon]
    rfl
termination_by rest.length

@[simp]
theorem splitKey_eq (cs : List Char) : splitKey cs = .ok (splitKey? cs) := by
  unfold splitKey splitKey?
  split
  · rfl
  · dsimp only
    cases hquoted : startsQuoted cs with
    | true =>
      rw [if_pos rfl, if_pos rfl, quotedEnd_eq, ok_bind]
      cases hsplit : splitQuoted? cs with
      | none => rfl
      | some split =>
        obtain ⟨hcs, hquotes⟩ := quotes_splitQuoted? hsplit
        obtain ⟨⟨lead, c, hlead, -⟩, -⟩ := hquotes
        have hne : split.1.isEmpty = false := by simp [hlead]
        have hcolon := colonFrom_eq true split.1 split.2
        rw [← hcs] at hcolon
        dsimp only [Option.map_some]
        rw [hcolon]
        cases splitColon split.2 with
        | none => rfl
        | some parts => simp [keyBefore, hne]
    | false =>
      have hcolon := colonFrom_eq false [] cs
      rw [List.nil_append] at hcolon
      rw [if_neg Bool.false_ne_true, if_neg Bool.false_ne_true, pure_eq, ok_bind]
      dsimp only
      rw [show (0 : Nat) = byteSize [] from rfl, hcolon]
      cases splitColon cs with
      | none => rfl
      | some parts => simp [keyBefore]

/-! ### Values -/

/-- Take the properties off a text. The fuel is one more than the properties that are left. -/
def takeProperties : Nat → InlineValue → List Char → Checked (InlineValue × List Char)
  | 0, _, _ => .endless
  | fuel + 1, value, rest =>
    if rest.head?.any fun c => c == '&' || c == '!' then do
      let stop := (offset? isInlineBlank rest).getD (byteSize rest)
      let property ← sliceTo rest stop
      let after ← sliceFrom rest stop
      if property.head? = some '&' then
        if value.anchor.isSome then return (value, rest)
        else takeProperties fuel { value with anchor := some property } (trimStart after)
      else
        if value.tag.isSome then return (value, rest)
        else takeProperties fuel { value with tag := some property } (trimStart after)
    else return (value, rest)

/-- Split a value into its properties, text and comment. -/
def splitValue (cs : List Char) : Checked InlineValue := do
  let (value, rest) ← takeProperties 3 {} (trim cs)
  let stop ← if startsQuoted rest then quotedEnd rest else pure none
  if startsQuoted rest && stop.isNone then return { value with text := rest }
  else
    let (text, comment) ← splitComment rest
    return { value with text, comment }

/-- How many properties a value can still take. -/
def openSlots (value : InlineValue) : Nat :=
  (if value.anchor.isSome then 0 else 1) + if value.tag.isSome then 0 else 1

theorem openSlots_anchor {value : InlineValue} (h : value.anchor.isSome = false)
    (property : List Char) :
    openSlots { value with anchor := some property } + 1 = openSlots value := by
  simp only [openSlots, h, Option.isSome_some, if_true, Bool.false_eq_true, if_false]
  omega

theorem openSlots_tag {value : InlineValue} (h : value.tag.isSome = false)
    (property : List Char) :
    openSlots { value with tag := some property } + 1 = openSlots value := by
  simp only [openSlots, h, Option.isSome_some, if_true, Bool.false_eq_true, if_false]

/-- A property is cut off at the first blank. -/
theorem takeProperties_cons (fuel : Nat) (value : InlineValue) {c : Char} (more : List Char)
    (hc : c = '&' ∨ c = '!') : ∃ property after, c :: more = property ++ after ∧
      property = (c :: more).takeWhile (fun d => !isInlineBlank d) ∧
      takeProperties (fuel + 1) value (c :: more) =
        if c = '&' then
          if value.anchor.isSome then .ok (value, c :: more)
          else takeProperties fuel { value with anchor := some property } (trimStart after)
        else
          if value.tag.isSome then .ok (value, c :: more)
          else takeProperties fuel { value with tag := some property } (trimStart after) := by
  have hblank : isInlineBlank c = false := by rcases hc with rfl | rfl <;> rfl
  have hproperty : (c == '&' || c == '!') = true := by rcases hc with rfl | rfl <;> rfl
  obtain ⟨property, after, hrest, hword, hcut⟩ := exists_cut_blank (c :: more)
  refine ⟨property, after, hrest, hword, ?_⟩
  have hstop : (offset? isInlineBlank (c :: more)).getD (byteSize (c :: more)) =
      byteSize property := by
    rcases hcut with ⟨hnone, rfl⟩ | ⟨b, _, -, -, hsome⟩
    · rw [hnone, hrest, List.append_nil]
      rfl
    · rw [hsome]
      rfl
  have hhead : property.head? = some c := by simp [hword, hblank]
  have hto : sliceTo (c :: more) (byteSize property) = .ok property := by
    rw [hrest, sliceTo_append]
  have hfrom : sliceFrom (c :: more) (byteSize property) = .ok after := by
    rw [hrest, sliceFrom_append]
  rw [takeProperties, if_pos (by simpa using hproperty)]
  simp only [hstop, hto, hfrom, ok_bind, hhead, Option.some.injEq]
  rfl

theorem takeProperties_eq {n : Nat} (value : InlineValue) (rest : List Char)
    (hn : openSlots value = n) :
    takeProperties (n + 1) value rest = .ok (Manifest.takeProperties n value rest) := by
  induction n generalizing value rest with
  | zero =>
    -- a third property is not taken
    obtain ⟨hanchor, htag⟩ : value.anchor.isSome = true ∧ value.tag.isSome = true := by
      cases ha : value.anchor.isSome <;> cases ht : value.tag.isSome <;>
        simp [openSlots, ha, ht] at hn ⊢
    cases rest with
    | nil => rfl
    | cons c more =>
      by_cases hc : c = '&' ∨ c = '!'
      · obtain ⟨property, after, -, -, htake⟩ := takeProperties_cons 0 value more hc
        rw [htake, if_pos hanchor, if_pos htag, ite_self]
        rfl
      · obtain ⟨hc, hc'⟩ := not_or.1 hc
        simp [takeProperties, Manifest.takeProperties, hc, hc']
  | succ n ih =>
    cases rest with
    | nil => rfl
    | cons c more =>
      by_cases hc : c = '&' ∨ c = '!'
      · obtain ⟨property, after, hrest, hword, htake⟩ := takeProperties_cons (n + 1) value more hc
        have hafter : (c :: more).drop property.length = after := by rw [hrest, List.drop_left]
        have hanchor (ha : value.anchor.isSome = false) :=
          ih { value with anchor := some property } (trimStart after)
            (by rw [← openSlots_anchor ha property] at hn; omega)
        have htag (ht : value.tag.isSome = false) :=
          ih { value with tag := some property } (trimStart after)
            (by rw [← openSlots_tag ht property] at hn; omega)
        rw [htake]
        rcases hc with rfl | rfl
        · rw [Manifest.takeProperties, ← hword, hafter, if_pos rfl]
          cases ha : value.anchor.isSome with
          | true => rfl
          | false => exact hanchor ha
        · rw [Manifest.takeProperties, ← hword, hafter, if_neg (by decide)]
          cases ht : value.tag.isSome with
          | true => rfl
          | false => exact htag ht
      · obtain ⟨hc, hc'⟩ := not_or.1 hc
        simp [takeProperties, Manifest.takeProperties, hc, hc']

@[simp]
theorem splitValue_eq (cs : List Char) : splitValue cs = .ok (Manifest.splitValue cs) := by
  have hproperties : takeProperties 3 {} (trim cs) = .ok (Manifest.takeProperties 2 {} (trim cs)) :=
    takeProperties_eq {} (trim cs) rfl
  unfold splitValue Manifest.splitValue
  rw [hproperties, ok_bind]
  generalize Manifest.takeProperties 2 {} (trim cs) = parts
  obtain ⟨value, rest⟩ := parts
  cases hquoted : startsQuoted rest with
  | false => simp [hquoted]
  | true =>
    cases hsplit : splitQuoted? rest <;> simp [hquoted, hsplit]

/-! ### Lines -/

/-- Where the trailing comment of a line starts. -/
def commentPoint (line : Line) (comment : List Char) : Checked (Option Point) :=
  if comment.isEmpty then return none
  else match lastOffset? comment line.raw with
    | none => return none
    | some offset => do
      let before ← sliceTo line.raw offset
      return some ⟨line.number, before.length + 1, 0⟩

/-- The line with the given number. -/
def lineOf (number : Nat) (cs : List Char) : Checked Line := do
  let raw := dropCarriageReturn cs
  let indented := raw.dropWhile (· == ' ')
  let indent ← sub (byteSize raw) (byteSize indented)
  let text := trimEnd indented
  return { number, indent, text, raw, kind := lineKind indent text }

/-- The last occurrence starts behind as many bytes as the characters before it have. -/
theorem exists_lastOffset? (needle cs : List Char) :
    lastIndexOf? needle cs = none ∧ lastOffset? needle cs = none ∨
      ∃ before rest, cs = before ++ rest ∧ lastIndexOf? needle cs = some before.length ∧
        lastOffset? needle cs = some (byteSize before) := by
  induction cs with
  | nil =>
    cases needle with
    | nil => exact .inr ⟨[], [], rfl, rfl, rfl⟩
    | cons c needle => exact .inl ⟨rfl, rfl⟩
  | cons c cs ih =>
    rw [lastIndexOf?, lastOffset?]
    rcases ih with ⟨hindex, hoffset⟩ | ⟨before, rest, rfl, hindex, hoffset⟩
    · rw [hindex, hoffset]
      dsimp only
      split
      · exact .inr ⟨[], c :: cs, rfl, rfl, rfl⟩
      · exact .inl ⟨rfl, rfl⟩
    · rw [hindex, hoffset]
      exact .inr ⟨c :: before, rest, rfl, rfl, rfl⟩

@[simp]
theorem commentPoint_eq (line : Line) (comment : List Char) :
    commentPoint line comment = .ok (line.commentPoint? comment) := by
  unfold commentPoint Line.commentPoint?
  split
  · rfl
  · rcases exists_lastOffset? comment line.raw with
      ⟨hindex, hoffset⟩ | ⟨before, rest, hraw, hindex, hoffset⟩
    · rw [hindex, hoffset]
      rfl
    · rw [hindex, hoffset, hraw]
      dsimp only
      rw [sliceTo_append]
      rfl

theorem byteSize_takeWhile_space (cs : List Char) :
    byteSize (cs.takeWhile (· == ' ')) = (cs.takeWhile (· == ' ')).length := by
  induction cs with
  | nil => rfl
  | cons c cs ih =>
    by_cases hc : c = ' '
    · subst hc
      simp only [List.takeWhile_cons, beq_self_eq_true, if_true, byteSize_cons, List.length_cons,
        ih]
      exact Nat.add_comm _ _
    · simp [hc]

/-- The indentation has as many bytes as spaces. -/
@[simp]
theorem lineOf_eq (number : Nat) (cs : List Char) :
    lineOf number cs = .ok (Line.of number cs) := by
  unfold lineOf Line.of
  dsimp only
  generalize dropCarriageReturn cs = raw
  have hraw : raw = raw.takeWhile (· == ' ') ++ raw.dropWhile (· == ' ') :=
    List.takeWhile_append_dropWhile.symm
  have hbytes : byteSize raw = (raw.takeWhile (· == ' ')).length +
      byteSize (raw.dropWhile (· == ' ')) := by
    conv_lhs => rw [hraw]
    rw [byteSize_append, byteSize_takeWhile_space]
  have hlength : raw.length = (raw.takeWhile (· == ' ')).length +
      (raw.dropWhile (· == ' ')).length := by
    conv_lhs => rw [hraw]
    rw [List.length_append]
  rw [sub_of_le (by omega), ok_bind, hbytes, hlength, Nat.add_sub_cancel, Nat.add_sub_cancel]
  rfl

end ManifestMarkers.Checked
