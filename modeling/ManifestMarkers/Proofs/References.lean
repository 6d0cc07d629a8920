import ManifestMarkers.Placeholder

/-!
# References to the collection

A collection that is its own resource refers to itself as the parent: `collectionToParent` rewrites
the references that stand right behind the tag `!!var`, and no others.

* `HasReference`: a reference to the collection that does not stand behind the tag.
* `isInfix_collectionToParent_iff`: these are the references that are left.
* `hasReference_append`: a text is searched part by part, if no reference lies across the parts
  (`Apart`) and the tag is in the same part as the reference behind it (`Anchored`).
-/

namespace ManifestMarkers

namespace Text

variable {old new cs : List Char} {c : Char}

theorem replaceFrom_eq (old new : List Char) (skip : Nat) (cs : List Char) :
    replaceFrom old new skip cs = replaceAll old new (cs.drop skip) := by
  induction cs generalizing skip with
  | nil => cases skip <;> simp [replaceFrom, replaceAll]
  | cons c cs ih =>
    cases skip with
    | zero => rfl
    | succ skip => rw [replaceFrom, ih, List.drop_succ_cons]

/-- What stands at the start is replaced. -/
theorem replaceAll_append (hold : old ≠ []) :
    replaceAll old new (old ++ cs) = new ++ replaceAll old new cs := by
  obtain ⟨c, rest, rfl⟩ := List.exists_cons_of_ne_nil hold
  have hstart : (c :: rest).isPrefixOf (c :: (rest ++ cs)) = true :=
    List.isPrefixOf_iff_prefix.2 (List.prefix_append (c :: rest) cs)
  rw [replaceAll, List.cons_append, replaceFrom, if_pos hstart, replaceFrom_eq]
  simp

theorem replaceAll_cons (h : ¬ old <+: c :: cs) :
    replaceAll old new (c :: cs) = c :: replaceAll old new cs := by
  rw [replaceAll, replaceFrom, if_neg (mt List.isPrefixOf_iff_prefix.1 h), replaceAll]

end Text

/-- The expression for the spec of the collection begins with this word. -/
def collectionWord : List Char := ['c', 'o', 'l', 'l', 'e', 'c', 't', 'i', 'o', 'n']

/-- A reference to a field of the collection, up to the name of the field. -/
def collectionReference : List Char := collectionWord ++ ['.', 'S', 'p', 'e', 'c', '.']

/-- Whether a text has no reference to the collection at all. -/
def IsClear (cs : List Char) : Prop := ¬ collectionReference <:+: cs

/-- The tag of a reference that is a whole value, and the blank behind it. -/
def variableTag : List Char := ['!', '!', 'v', 'a', 'r', ' ']

/-- Whether a text has a reference to the collection that is not behind the tag. -/
def HasReference (cs : List Char) : Prop :=
  ∃ before after, cs = before ++ collectionReference ++ after ∧ ¬ variableTag <:+ before

section

variable {cs rest : List Char} {c : Char}

theorem not_hasReference_nil : ¬ HasReference [] := by
  rintro ⟨before, after, h, -⟩
  have hlength := congrArg List.length h
  simp [collectionReference] at hlength

theorem HasReference.isInfix (h : HasReference cs) : collectionReference <:+: cs := by
  obtain ⟨before, after, rfl, -⟩ := h
  exact ⟨before, after, rfl⟩

/-! ### What is left of them -/

/-- One more character, which does not start a tag with a reference. -/
theorem hasReference_cons (h : ¬ variableTag ++ collectionWord <+: c :: cs) :
    HasReference (c :: cs) ↔ collectionReference <+: c :: cs ∨ HasReference cs := by
  constructor
  · rintro ⟨before, after, heq, hbefore⟩
    cases before with
    | nil => exact .inl ⟨after, by simpa using heq.symm⟩
    | cons b before =>
      simp only [List.cons_append, List.cons.injEq] at heq
      exact .inr ⟨before, after, heq.2,
        fun hsuffix => hbefore (hsuffix.trans (List.suffix_cons _ _))⟩
  · rintro (⟨after, hafter⟩ | ⟨before, after, rfl, hbefore⟩)
    · exact ⟨[], after, by simpa using hafter.symm, by decide⟩
    · refine ⟨c :: before, after, rfl, fun hsuffix => ?_⟩
      rcases List.suffix_cons_iff.1 hsuffix with heq | hsuffix
      · refine h ⟨['.', 'S', 'p', 'e', 'c', '.'] ++ after, ?_⟩
        rw [← List.cons_append, ← List.cons_append, ← heq]
        simp [collectionReference]
      · exact hbefore hsuffix

/-- A suffix that does not have the last character of `a` in it does not go back to `a`. -/
theorem suffix_of_suffix_append {v a b : List Char} (h : v <:+ a ++ b)
    (ha : ∀ c ∈ a.getLast?, c ∉ v) : v <:+ b := by
  by_cases hlength : v.length ≤ b.length
  · exact List.suffix_of_suffix_length_le h (List.suffix_append a b) hlength
  · obtain ⟨s, rfl⟩ := List.suffix_of_suffix_length_le (List.suffix_append a b) h (by omega)
    obtain ⟨t, ht⟩ := h
    rw [← List.append_assoc, List.append_cancel_right_eq] at ht
    have hs : s ≠ [] := by
      rintro rfl
      simp at hlength
    obtain ⟨c, hc⟩ := Option.ne_none_iff_exists'.1 (mt List.getLast?_eq_none_iff.1 hs)
    have hlast : a.getLast? = some c := by rw [← ht, List.getLast?_append, hc]; rfl
    exact absurd (List.mem_append_left b (List.mem_of_getLast? hc)) (ha c hlast)

/-- A reference behind the tag does not count. -/
theorem hasReference_tagged :
    HasReference (variableTag ++ collectionWord ++ rest) ↔ HasReference rest := by
  constructor
  · rintro ⟨before, after, heq, hbefore⟩
    rw [List.append_assoc before] at heq
    rcases List.append_eq_append_iff.1 heq with ⟨before, rfl, hrest⟩ | ⟨tail, htag, hrest⟩
    · exact ⟨before, after, by rw [hrest, List.append_assoc],
        fun hsuffix => hbefore (hsuffix.trans (List.suffix_append _ _))⟩
    · -- the only place for a reference within the tag and the word is behind the tag
      have hplaces : ∀ n ≤ 16, (variableTag ++ collectionWord).drop n <+: collectionReference →
          variableTag <:+ (variableTag ++ collectionWord).take n ∨ n = 16 := by decide
      have hlength : before.length + tail.length = 16 := by
        simpa [variableTag, collectionWord] using (congrArg List.length htag).symm
      have hprefix : tail <+: collectionReference := by
        refine List.prefix_of_prefix_length_le ⟨rest, rfl⟩ ⟨after, hrest⟩ ?_
        have hreference : collectionReference.length = 16 := rfl
        omega
      have htake := hplaces before.length (by omega)
      rw [htag, List.drop_left, List.take_left] at htake
      rcases htake hprefix with htake | hnil
      · exact absurd htake hbefore
      · obtain rfl : tail = [] := List.length_eq_zero_iff.1 (by omega)
        exact ⟨[], after, by simpa using hrest.symm, by decide⟩
  · rintro ⟨before, after, rfl, hbefore⟩
    refine ⟨variableTag ++ collectionWord ++ before, after, by simp, fun hsuffix => hbefore ?_⟩
    exact suffix_of_suffix_append hsuffix (by simp [variableTag, collectionWord])

/-- A text is empty, starts with a tag and the word, or starts with another character. -/
theorem taggedInduction {motive : List Char → Prop} (nil : motive [])
    (tagged : ∀ rest, motive rest → motive (variableTag ++ collectionWord ++ rest))
    (cons : ∀ c cs, ¬ variableTag ++ collectionWord <+: c :: cs → motive cs → motive (c :: cs))
    (cs : List Char) : motive cs := by
  induction hlength : cs.length using Nat.strongRecOn generalizing cs with
  | _ n ih =>
    subst hlength
    cases cs with
    | nil => exact nil
    | cons c cs =>
      by_cases htag : variableTag ++ collectionWord <+: c :: cs
      · obtain ⟨rest, hrest⟩ := htag
        rw [← hrest] at ih ⊢
        exact tagged rest (ih _ (by simp [variableTag]; omega) rest rfl)
      · exact cons c cs htag (ih _ (by simp) cs rfl)

/-- The text in which references behind the tag are rewritten. -/
def toParent (cs : List Char) : List Char :=
  Text.replaceAll (variableTag ++ collectionWord) (variableTag ++ ['p', 'a', 'r', 'e', 'n', 't']) cs

theorem toList_collectionToParent (text : String) :
    (collectionToParent text).toList = toParent text.toList := by
  rw [collectionToParent, String.toList_ofList]
  rfl

theorem toParent_tagged : toParent (variableTag ++ collectionWord ++ rest) =
    variableTag ++ ['p', 'a', 'r', 'e', 'n', 't'] ++ toParent rest :=
  Text.replaceAll_append (List.cons_ne_nil _ _)

theorem toParent_cons (h : ¬ variableTag ++ collectionWord <+: c :: cs) :
    toParent (c :: cs) = c :: toParent cs := Text.replaceAll_cons h

/-- Only texts that start with the tag are changed at their start. -/
theorem prefix_toParent_iff {w : List Char} (hw : '!' ∉ w) : w <+: toParent cs ↔ w <+: cs := by
  induction cs using taggedInduction generalizing w with
  | nil => rfl
  | tagged rest ih =>
    rw [toParent_tagged]
    cases w with
    | nil => simp
    | cons d w =>
      have hne : d ≠ '!' := fun heq => hw (by simp [heq])
      simp [variableTag, hne]
  | cons c cs htag ih =>
    rw [toParent_cons htag]
    cases w with
    | nil => simp
    | cons d w => rw [List.cons_prefix_cons, List.cons_prefix_cons, ih fun h => hw (by simp [h])]

/-- What does not start in `a` is in what follows `a`. -/
theorem infix_append_right_iff {d : Char} {w a b : List Char} (ha : d ∉ a) :
    d :: w <:+: a ++ b ↔ d :: w <:+: b := by
  induction a with
  | nil => rfl
  | cons c a ih =>
    have hne : d ≠ c := fun heq => ha (by simp [heq])
    rw [List.cons_append, List.infix_cons_iff, ih fun h => ha (by simp [h])]
    simp [hne]

/-- The references that are left are those that do not stand behind the tag. -/
theorem isInfix_toParent_iff : collectionReference <:+: toParent cs ↔ HasReference cs := by
  induction cs using taggedInduction with
  | nil => exact iff_of_false (by decide) not_hasReference_nil
  | tagged rest ih =>
    rw [toParent_tagged, hasReference_tagged, ← ih]
    exact infix_append_right_iff (by decide)
  | cons c cs htag ih =>
    rw [toParent_cons htag, hasReference_cons htag, ← ih, List.infix_cons_iff,
      ← toParent_cons htag, prefix_toParent_iff (by decide)]

theorem isInfix_collectionToParent_iff (text : String) :
    collectionReference <:+: (collectionToParent text).toList ↔ HasReference text.toList := by
  rw [toList_collectionToParent, isInfix_toParent_iff]

/-! ### Texts of several parts -/

/-- Whether a character is in no reference. -/
def isGap (c : Char) : Bool := !collectionReference.contains c

/-- No reference lies across two texts. -/
def Apart (a b : List Char) : Prop :=
  ∀ c ∈ a.getLast?, ∀ d ∈ b.head?, isGap c = true ∨ isGap d = true

/-- What stands before a text does not decide whether a reference in it is behind the tag. -/
def Anchored (cs : List Char) : Prop :=
  ∀ before after, cs = before ++ collectionReference ++ after → 6 ≤ before.length ∨ '#' ∈ before

variable {a b : List Char}

/-- A reference in two texts is in one of them. -/
theorem Apart.split (h : Apart a b) {before after : List Char}
    (heq : a ++ b = before ++ collectionReference ++ after) :
    (∃ rest, a = before ++ collectionReference ++ rest) ∨
      ∃ rest, before = a ++ rest ∧ b = rest ++ collectionReference ++ after := by
  rw [List.append_assoc] at heq
  rcases List.append_eq_append_iff.1 heq with ⟨rest, rfl, hb⟩ | ⟨rest, ha, hrest⟩
  · exact .inr ⟨rest, rfl, by rw [hb, List.append_assoc]⟩
  · rcases List.append_eq_append_iff.1 hrest with ⟨more, rfl, -⟩ | ⟨more, hmore, hb⟩
    · exact .inl ⟨more, by rw [ha, List.append_assoc]⟩
    · -- the reference would be `rest ++ more`
      cases hrest' : rest.getLast? with
      | none =>
        obtain rfl := List.getLast?_eq_none_iff.1 hrest'
        refine .inr ⟨[], by simp [ha], ?_⟩
        rw [hb, hmore]
        rfl
      | some c =>
        cases more with
        | nil => exact .inl ⟨[], by simp [ha, hmore]⟩
        | cons d more =>
          have hlast : a.getLast? = some c := by rw [ha, List.getLast?_append, hrest']; rfl
          have hgap := h c hlast d (by simp [hb])
          have hc : c ∈ collectionReference := by
            rw [hmore]
            exact List.mem_append_left _ (List.mem_of_getLast? hrest')
          have hd : d ∈ collectionReference := by simp [hmore]
          simp [isGap, hc, hd] at hgap

theorem isInfix_append_iff (h : Apart a b) : collectionReference <:+: a ++ b ↔
    collectionReference <:+: a ∨ collectionReference <:+: b := by
  constructor
  · rintro ⟨before, after, heq⟩
    rcases h.split heq.symm with ⟨rest, rfl⟩ | ⟨rest, -, rfl⟩
    · exact .inl ⟨before, rest, rfl⟩
    · exact .inr ⟨rest, after, rfl⟩
  · rintro (ha | hb)
    · exact ha.trans (List.prefix_append a b).isInfix
    · exact hb.trans (List.suffix_append a b).isInfix

theorem IsClear.part (h : IsClear b) (hpart : a <:+: b) : IsClear a :=
  fun hinside => h (hinside.trans hpart)

theorem isClear_append_iff (h : Apart a b) : IsClear (a ++ b) ↔ IsClear a ∧ IsClear b := by
  rw [IsClear, isInfix_append_iff h, not_or]
  rfl

theorem isClear_of_forall (h : ∀ c ∈ cs, isGap c = true) : IsClear cs :=
  fun hinside => absurd (h 'c' (hinside.subset (by decide))) (by decide)

theorem isClear_of_all (h : cs.all isGap = true) : IsClear cs :=
  isClear_of_forall (List.all_eq_true.1 h)

theorem IsClear.not_hasReference (h : IsClear cs) : ¬ HasReference cs := fun hcs => h hcs.isInfix

theorem IsClear.anchored (h : IsClear cs) : Anchored cs :=
  fun before after heq => absurd ⟨before, after, heq.symm⟩ h

/-- A clear text is firm ground for what follows, if it is long or starts a comment. -/
theorem IsClear.anchored_append (ha : IsClear a) (h : Apart a b)
    (hlong : 6 ≤ a.length ∨ '#' ∈ a) : Anchored (a ++ b) := by
  intro before after heq
  rcases h.split heq with ⟨rest, rfl⟩ | ⟨rest, rfl, -⟩
  · exact absurd ⟨before, rest, rfl⟩ ha
  · rcases hlong with hlong | hmem
    · exact .inl (by rw [List.length_append]; omega)
    · exact .inr (List.mem_append_left rest hmem)

theorem Anchored.append (ha : Anchored a) (h : Apart a b) (hb : Anchored b) :
    Anchored (a ++ b) := by
  intro before after heq
  rcases h.split heq with ⟨rest, rfl⟩ | ⟨rest, rfl, rfl⟩
  · exact ha before rest rfl
  · rcases hb rest after rfl with hlong | hmem
    · exact .inl (by rw [List.length_append]; omega)
    · exact .inr (List.mem_append_right a hmem)

/-- A text is searched part by part, if the first part does not decide whether a reference in the
second one is behind the tag. -/
theorem hasReference_append_iff (h : Apart a b) (hb : ∀ before after,
      b = before ++ collectionReference ++ after → variableTag <:+ a ++ before →
        variableTag <:+ before) :
    HasReference (a ++ b) ↔ HasReference a ∨ HasReference b := by
  constructor
  · rintro ⟨before, after, heq, hbefore⟩
    rcases h.split heq with ⟨rest, rfl⟩ | ⟨rest, rfl, rfl⟩
    · exact .inl ⟨before, rest, rfl, hbefore⟩
    · exact .inr ⟨rest, after, rfl,
        fun hsuffix => hbefore (hsuffix.trans (List.suffix_append a rest))⟩
  · rintro (⟨before, after, rfl, hbefore⟩ | ⟨before, after, rfl, hbefore⟩)
    · exact ⟨before, after ++ b, by simp, hbefore⟩
    · exact ⟨a ++ before, after, by simp, fun hsuffix => hbefore (hb before after rfl hsuffix)⟩

theorem hasReference_append (h : Apart a b) (hb : Anchored b) :
    HasReference (a ++ b) ↔ HasReference a ∨ HasReference b := by
  refine hasReference_append_iff h fun before after heq hsuffix => ?_
  by_cases hlength : variableTag.length ≤ before.length
  · exact List.suffix_of_suffix_length_le hsuffix (List.suffix_append a before) hlength
  · have hwithin : before <:+ variableTag :=
      List.suffix_of_suffix_length_le (List.suffix_append a before) hsuffix (by omega)
    rcases hb before after heq with hlong | hmem
    · exact absurd hlong hlength
    · exact absurd (hwithin.subset hmem) (by decide)

/-- The tag of a value that is text, and the blank behind it. -/
def stringTag : List Char := ['!', '!', 's', 't', 'r', ' ']

/-- Every reference behind the tag of a text counts. -/
theorem hasReference_string {lead : List Char} (hlead : IsClear lead) (cs : List Char) :
    HasReference (lead ++ stringTag ++ cs) ↔ HasReference cs := by
  have hclear : IsClear (lead ++ stringTag) := by
    refine (isClear_append_iff fun c _ d hd => .inr ?_).2 ⟨hlead, by unfold IsClear; decide⟩
    obtain rfl : '!' = d := by simpa [stringTag] using hd
    decide
  have hapart : Apart (lead ++ stringTag) cs := by
    intro c hc d hd
    obtain rfl : ' ' = c := by simpa [stringTag] using hc
    exact .inl (by decide)
  rw [hasReference_append_iff hapart fun before after heq hsuffix => ?_,
    or_iff_right hclear.not_hasReference]
  -- neither the end of the tag nor the blank is part of the other tag
  have hend : variableTag <:+ (lead ++ ['!', '!', 's', 't']) ++ (['r', ' '] ++ before) := by
    simpa [stringTag] using hsuffix
  have hrest := suffix_of_suffix_append hend (by simp [variableTag])
  rcases List.suffix_cons_iff.1 hrest with heq | hrest
  · cases heq
  · rcases List.suffix_cons_iff.1 hrest with heq | hrest
    · cases heq
    · exact hrest

end

end ManifestMarkers
