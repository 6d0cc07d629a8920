import ManifestMarkers.Proofs.ManifestBlock
import ManifestMarkers.Proofs.SpecFields

/-!
# Names in generated code

The fields of the spec are unique by the names that their markers give. In generated code a field
has the title form of its name, and there two names can become one.

* `Text.titleFrom_inj` says which names title case keeps apart: their words begin neither with a
  capital nor with a character beyond ASCII.
* `map_name_collect` ties the two kinds of names together.
* `nodup_specNames_iff`: the names in generated code are different exactly if title case keeps the
  names of the fields that count apart.
* `specNames_shared` is a manifest with two fields of one name.
-/

namespace ManifestMarkers

/-! ### Title case -/

namespace Text

theorem toNat_toUpper (c : Char) :
    c.toUpper.toNat = if 97 ≤ c.toNat ∧ c.toNat ≤ 122 then c.toNat - 32 else c.toNat := by
  have hlower : ('a'.val ≤ c.val ∧ c.val ≤ 'z'.val) ↔ 97 ≤ c.val.toNat ∧ c.val.toNat ≤ 122 :=
    Iff.rfl
  unfold Char.toUpper
  split
  · next h =>
    have hc := hlower.1 h
    -- the distance of the two alphabets is negative, so that the sum wraps around
    have hshift : ('A'.val - 'a'.val).toNat = 2 ^ 32 - 32 := rfl
    have hsum : (c.val + ('A'.val - 'a'.val)).toNat = c.val.toNat - 32 := by
      rw [UInt32.toNat_add, hshift]
      omega
    exact hsum.trans (if_pos hc).symm
  · next h => exact (if_neg fun hc => h (hlower.2 hc)).symm

theorem isUpper_eq_false_iff {c : Char} :
    c.isUpper = false ↔ ¬ (65 ≤ c.toNat ∧ c.toNat ≤ 90) := by
  delta Char.isUpper
  rw [decide_eq_false_iff_not]
  exact Iff.rfl

/-- Upper case tells characters apart that are no capitals. -/
theorem toUpper_inj {c d : Char} (hc : c.isUpper = false) (hd : d.isUpper = false)
    (h : c.toUpper = d.toUpper) : c = d := by
  rw [isUpper_eq_false_iff] at hc hd
  have hcode := congrArg Char.toNat h
  rw [toNat_toUpper, toNat_toUpper] at hcode
  apply Char.toNat_inj.1
  split_ifs at hcode <;> omega

/-- Whether all words begin with ASCII characters that are no capitals. `fresh` says that a word may
start here. -/
def isUntitled (fresh : Bool) : List Char → Bool
  | [] => true
  | c :: cs => (!fresh || (c.val < 0x80 && !c.isUpper)) && isUntitled (!isAlphanumeric c) cs

/-- Title case makes one character of the first one, and these differ if the first ones do. -/
theorem titleFrom_cons_of_isUntitled {fresh : Bool} {c : Char} {cs : List Char}
    (h : isUntitled fresh (c :: cs) = true) :
    titleFrom fresh (c :: cs) =
      (if fresh then c.toUpper else c) :: titleFrom (!isAlphanumeric c) cs := by
  rw [isUntitled, Bool.and_eq_true] at h
  cases fresh with
  | false => rfl
  | true =>
    have hascii : c.val < 0x80 := by
      have := h.1
      simp only [Bool.not_true, Bool.false_or, Bool.and_eq_true, decide_eq_true_eq] at this
      exact this.1
    simp [titleFrom, uppercase, hascii]

/-- Title case keeps names apart whose words begin with ASCII characters that are no capitals. -/
theorem titleFrom_inj {fresh : Bool} {cs ds : List Char} (hcs : isUntitled fresh cs = true)
    (hds : isUntitled fresh ds = true) (h : titleFrom fresh cs = titleFrom fresh ds) : cs = ds := by
  induction cs generalizing fresh ds with
  | nil =>
    cases ds with
    | nil => rfl
    | cons d ds =>
      rw [titleFrom_cons_of_isUntitled hds] at h
      cases h
  | cons c cs ih =>
    cases ds with
    | nil =>
      rw [titleFrom_cons_of_isUntitled hcs] at h
      cases h
    | cons d ds =>
      rw [titleFrom_cons_of_isUntitled hcs, titleFrom_cons_of_isUntitled hds] at h
      obtain ⟨hhead, htail⟩ := List.cons.inj h
      have hcd : c = d := by
        cases fresh with
        | false => exact hhead
        | true =>
          simp only [isUntitled, Bool.not_true, Bool.false_or, Bool.and_eq_true,
            Bool.not_eq_true'] at hcs hds
          exact toUpper_inj hcs.1.2 hds.1.2 hhead
      subst hcd
      rw [isUntitled, Bool.and_eq_true] at hcs hds
      rw [ih hcs.2 hds.2 htail]

end Text

/-! ### The names of the fields -/

open FieldDescriptor

section

variable {findings : List Finding} {c : Collection}

/-- A field is declared under the title form of its name. -/
theorem map_name_collect (fs : List Field) :
    (collect fs).map (·.name) = (names (collect fs)).map Text.title := by
  rw [names, List.map_map]
  refine List.map_congr_left fun d hd => ?_
  obtain ⟨-, f, -, -, rfl, -⟩ := exists_last_of_mem_collect hd
  rfl

/-- Sorting neither adds nor drops a field. -/
theorem perm_specFields : (specFields findings c).Perm (collect (countedFields findings c)) := by
  rw [specFields_eq]
  exact perm_sortByName _

/-- Names whose words begin with ASCII characters that are no capitals stay different. -/
theorem nodup_specNames_of_isUntitled
    (h : ∀ f ∈ countedFields findings c, Text.isUntitled true f.name.toList = true) :
    ((specFields findings c).map (·.name)).Nodup := by
  rw [(perm_specFields.map _).nodup_iff, map_name_collect]
  refine (nodup_names_collect _).map_on fun a ha b hb heq => ?_
  rw [mem_names_collect] at ha hb
  obtain ⟨f, hf, rfl⟩ := List.mem_map.1 ha
  obtain ⟨g, hg, rfl⟩ := List.mem_map.1 hb
  exact String.toList_inj.1 (Text.titleFrom_inj (h f hf) (h g hg) (String.ofList_inj.1 heq))

/-- The names in generated code are all different if and only if title case keeps the names of the
fields that count apart. -/
theorem nodup_specNames_iff (findings : List Finding) (c : Collection) :
    ((specFields findings c).map (·.name)).Nodup ↔
      ∀ f ∈ countedFields findings c, ∀ g ∈ countedFields findings c,
        Text.title f.name = Text.title g.name → f.name = g.name := by
  rw [(perm_specFields.map _).nodup_iff, map_name_collect,
    List.nodup_map_iff_inj_on (nodup_names_collect _)]
  simp only [mem_names_collect, List.forall_mem_map]

end

/-- Two fields whose names differ in the case of their first letter: the spec declares the name `X`
twice, with two types. -/
theorem specNames_shared : ∃ m i,
    Manifest.parse ("# +operator-builder:field:name=x,type=string\na: v\n" ++
      "# +operator-builder:field:name=X,type=int\nb: 2\n") = .ok m ∧
    m.inspect operatorRegistry = .ok i ∧
    ((specFields i.findings {}).map (·.declaration)).Perm
      ["X string `json:\"x\"`", "X int `json:\"X\"`"] ∧
    ¬ ((specFields i.findings {}).map (·.name)).Nodup := by
  have h : ((Manifest.parse ("# +operator-builder:field:name=x,type=string\na: v\n" ++
      "# +operator-builder:field:name=X,type=int\nb: 2\n")).toOption.bind fun m =>
        (m.inspect operatorRegistry).toOption.map fun i =>
          ((collect (countedFields i.findings {})).map (·.declaration),
            (collect (countedFields i.findings {})).map (·.name))) =
      some (["X string `json:\"x\"`", "X int `json:\"X\"`"], ["X", "X"]) := by
    rw [Manifest.parse_eq_ite, String.toList_append, String.toList_ofList, String.toList_ofList]
    decide +kernel
  obtain ⟨m, hm, h⟩ := Option.bind_eq_some_iff.1 h
  obtain ⟨i, hi, h⟩ := Option.map_eq_some_iff.1 h
  obtain ⟨hdeclarations, hnames⟩ := Prod.mk.inj h
  refine ⟨m, i, Manifest.eq_ok_of_toOption hm, Manifest.eq_ok_of_toOption hi, ?_, ?_⟩
  · exact hdeclarations ▸ perm_specFields.map _
  · rw [(perm_specFields.map _).nodup_iff, hnames]
    decide

end ManifestMarkers
