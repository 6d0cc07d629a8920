import Mathlib.Data.List.Induction
import Mathlib.Data.List.Nodup
import Mathlib.Data.String.Basic
import ManifestMarkers.SpecField

/-!
# Which fields the spec gets

The fields of the spec come from the field markers that count, one for each name. They are collected
in the order of the manifests and sorted at the end, by the name in generated code and not by the
one that they were collected by.

* `countedFields` are the fields that count. `names_collect` and `exists_last_of_mem_collect` say
  which of them are collected, and `pairwise_idxOf_collect` in which order.
* `bytes_le_of_le`: the order of names is that of their bytes.
* `filter_sortByName`: sorting keeps the order of fields with one name.
* `specFields_of_findings` is all of it together.
-/

namespace ManifestMarkers

/-- The field of a marker, if it counts: field markers do, unless the collection is enabled without
its resources, and collection field markers do if it is enabled. -/
def Collection.field? (c : Collection) : Marker → Option Field
  | .field f => if c.enabled = true ∧ c.resources = false then none else some f
  | .collectionField f => if c.enabled = true then some f else none
  | .resource _ => none

/-- The fields that count, in the order of the findings. -/
def countedFields (findings : List Finding) (c : Collection) : List Field :=
  findings.filterMap fun f => c.field? f.marker

/-! ### Collecting -/

namespace FieldDescriptor

variable {d e : FieldDescriptor} {ds : List FieldDescriptor}

/-- The names that are collected. -/
def names (ds : List FieldDescriptor) : List String := ds.map (·.manifestName)

@[simp] theorem names_nil : names [] = [] := rfl

@[simp] theorem names_cons (d : FieldDescriptor) (ds : List FieldDescriptor) :
    names (d :: ds) = d.manifestName :: names ds := rfl

theorem names_insert (d : FieldDescriptor) (ds : List FieldDescriptor) :
    names (d.insert ds) =
      if d.manifestName ∈ names ds then names ds else names ds ++ [d.manifestName] := by
  induction ds with
  | nil => simp [insert]
  | cons e ds ih =>
    unfold insert
    by_cases h : e.manifestName = d.manifestName
    · simp [h]
    · have hne : ¬ d.manifestName = e.manifestName := fun heq => h heq.symm
      rw [if_neg h, names_cons, names_cons, ih]
      by_cases hold : d.manifestName ∈ names ds <;> simp [hold, hne]

theorem nodup_names_insert (h : (names ds).Nodup) : (names (d.insert ds)).Nodup := by
  rw [names_insert]
  split
  · exact h
  · next hnew => simpa using h.concat hnew

/-- A field takes the place of the one with its name and leaves the others. -/
theorem mem_insert_iff (h : (names ds).Nodup) :
    e ∈ d.insert ds ↔ e = d ∨ e ∈ ds ∧ e.manifestName ≠ d.manifestName := by
  induction ds with
  | nil => simp [insert]
  | cons a ds ih =>
    obtain ⟨ha, hds⟩ := List.nodup_cons.1 h
    have hapart (e : FieldDescriptor) (he : e ∈ ds) : e.manifestName ≠ a.manifestName :=
      fun heq => ha (List.mem_map.2 ⟨e, he, heq⟩)
    unfold insert
    by_cases hsame : a.manifestName = d.manifestName
    · rw [if_pos hsame, List.mem_cons, List.mem_cons]
      rw [hsame] at hapart
      constructor
      · rintro (rfl | he)
        · exact .inl rfl
        · exact .inr ⟨.inr he, hapart e he⟩
      · rintro (rfl | ⟨rfl | he, hne⟩)
        · exact .inl rfl
        · exact absurd hsame hne
        · exact .inr he
    · rw [if_neg hsame, List.mem_cons, List.mem_cons, ih hds]
      constructor
      · rintro (rfl | rfl | ⟨he, hne⟩)
        · exact .inr ⟨.inl rfl, hsame⟩
        · exact .inl rfl
        · exact .inr ⟨.inr he, hne⟩
      · rintro (rfl | ⟨rfl | he, hne⟩)
        · exact .inr (.inl rfl)
        · exact .inl rfl
        · exact .inr (.inr ⟨he, hne⟩)

end FieldDescriptor

/-- The descriptors of fields, collected one after the other. -/
def collect (fs : List Field) : List FieldDescriptor :=
  fs.foldl (fun ds f => f.descriptor.insert ds) []

section

open FieldDescriptor

variable {fs : List Field} {d : FieldDescriptor}

theorem collect_concat (fs : List Field) (f : Field) :
    collect (fs ++ [f]) = f.descriptor.insert (collect fs) := by
  simp [collect]

theorem nodup_names_collect (fs : List Field) : (names (collect fs)).Nodup := by
  induction fs using List.reverseRecOn with
  | nil => exact .nil
  | append_singleton fs f ih =>
    rw [collect_concat]
    exact nodup_names_insert ih

theorem mem_names_collect (fs : List Field) (name : String) :
    name ∈ names (collect fs) ↔ name ∈ fs.map (·.name) := by
  induction fs using List.reverseRecOn generalizing name with
  | nil => simp [collect, names]
  | append_singleton fs f ih =>
    have hname : f.descriptor.manifestName = f.name := rfl
    rw [collect_concat, names_insert, hname, List.map_append, List.map_singleton, List.mem_append,
      List.mem_singleton]
    split
    · next hold =>
      rw [ih] at hold ⊢
      exact ⟨.inl, fun h => h.elim id fun heq => heq ▸ hold⟩
    · rw [List.mem_append, List.mem_singleton, ih]

/-- Of the fields with a name the last one is collected. -/
theorem exists_last_of_mem_collect (h : d ∈ collect fs) :
    ∃ before f after, fs = before ++ f :: after ∧ d = f.descriptor ∧
      ∀ g ∈ after, g.name ≠ f.name := by
  induction fs using List.reverseRecOn with
  | nil => cases h
  | append_singleton fs g ih =>
    rw [collect_concat, mem_insert_iff (nodup_names_collect fs)] at h
    rcases h with rfl | ⟨hd, hne⟩
    · exact ⟨fs, g, [], rfl, rfl, by simp⟩
    · obtain ⟨before, f, after, rfl, rfl, hafter⟩ := ih hd
      refine ⟨before, f, after ++ [g], by simp, rfl, fun g' hg' => ?_⟩
      rcases List.mem_append.1 hg' with hg' | hg'
      · exact hafter g' hg'
      · obtain rfl := List.mem_singleton.1 hg'
        exact fun heq => hne heq.symm

/-- Names are collected in the order in which they come up first. -/
theorem pairwise_idxOf_collect (fs : List Field) :
    (names (collect fs)).Pairwise fun a b =>
      (fs.map (·.name)).idxOf a < (fs.map (·.name)).idxOf b := by
  induction fs using List.reverseRecOn with
  | nil => exact .nil
  | append_singleton fs f ih =>
    have hold (a : String) (ha : a ∈ names (collect fs)) :
        ((fs ++ [f]).map (·.name)).idxOf a = (fs.map (·.name)).idxOf a := by
      rw [List.map_append]
      exact List.idxOf_append_of_mem ((mem_names_collect fs a).1 ha)
    have hkept : (names (collect fs)).Pairwise fun a b =>
        ((fs ++ [f]).map (·.name)).idxOf a < ((fs ++ [f]).map (·.name)).idxOf b :=
      ih.imp_of_mem fun ha hb hlt => by rwa [hold _ ha, hold _ hb]
    rw [collect_concat, names_insert]
    split
    · exact hkept
    · next hnew =>
      have hname : f.descriptor.manifestName = f.name := rfl
      refine List.pairwise_append.2 ⟨hkept, List.pairwise_singleton _ _, fun a ha b hb => ?_⟩
      obtain rfl := List.mem_singleton.1 hb
      rw [mem_names_collect] at hnew
      rw [hold a ha, List.map_append, List.idxOf_append_of_notMem hnew]
      exact Nat.lt_add_right _ (List.idxOf_lt_length_of_mem ((mem_names_collect fs a).1 ha))

end

/-! ### The order of names -/

namespace Text

/-- The bytes of a text. -/
def bytes (s : String) : List UInt8 := s.toUTF8.data.toList

theorem bytes_eq (s : String) : bytes s = s.toList.flatMap String.utf8EncodeChar := by
  rw [bytes, String.toUTF8_eq_toByteArray, ← String.utf8Encode_toList, List.utf8Encode]
  exact List.toList_data_toByteArray

theorem byte_lt_iff {m n : Nat} (hm : m < 256) (hn : n < 256) :
    UInt8.ofNat m < UInt8.ofNat n ↔ m < n := by
  rw [UInt8.lt_iff_toNat_lt, UInt8.toNat_ofNat_of_lt' hm, UInt8.toNat_ofNat_of_lt' hn]

theorem byte_eq_iff {m n : Nat} (hm : m < 256) (hn : n < 256) :
    UInt8.ofNat m = UInt8.ofNat n ↔ m = n := by
  rw [← UInt8.toNat_inj, UInt8.toNat_ofNat_of_lt' hm, UInt8.toNat_ofNat_of_lt' hn]

theorem toNat_val_lt (c : Char) : c.val.toNat < 1114112 := by
  rcases c.valid with h | ⟨-, h⟩
  · exact Nat.lt_trans h (by decide)
  · exact h

/-- The bytes of two characters differ somewhere, and there they are in the order of the characters.
A first byte tells how many there are, and more bytes come after fewer ones. -/
theorem utf8EncodeChar_append_lt {c d : Char} (h : c < d) (s t : List UInt8) :
    String.utf8EncodeChar c ++ s < String.utf8EncodeChar d ++ t := by
  have hlt : c.val.toNat < d.val.toNat := h
  have hmax := toNat_val_lt d
  -- all bytes but the first have six bits, so that they are told by dividing by 64 over and over
  have htwo (n : Nat) : n / 4096 = n / 64 / 64 := by omega
  have hthree (n : Nat) : n / 262144 = n / 64 / 64 / 64 := by omega
  unfold String.utf8EncodeChar
  simp only [htwo, hthree]
  generalize c.val.toNat = v at *
  generalize d.val.toNat = w at *
  split_ifs <;>
    simp (disch := omega) only [List.cons_append, List.nil_append, List.cons_lt_cons_iff,
      byte_lt_iff, byte_eq_iff] <;>
    omega

theorem flatMap_utf8EncodeChar_lt {cs ds : List Char} (h : cs < ds) :
    cs.flatMap String.utf8EncodeChar < ds.flatMap String.utf8EncodeChar := by
  induction h with
  | @nil d ds =>
    obtain ⟨b, bs, hb⟩ := List.exists_cons_of_ne_nil (String.utf8EncodeChar_ne_nil (c := d))
    rw [List.flatMap_cons, hb]
    exact List.nil_lt_cons _ _
  | rel h =>
    rw [List.flatMap_cons, List.flatMap_cons]
    exact utf8EncodeChar_append_lt h _ _
  | cons _ ih =>
    rw [List.flatMap_cons, List.flatMap_cons]
    exact List.append_left_lt ih

/-- Texts in the order of their characters are in the order of their bytes. -/
theorem bytes_le_of_le {a b : String} (h : a ≤ b) : bytes a ≤ bytes b := by
  rw [bytes_eq, bytes_eq]
  rcases lt_or_eq_of_le h with hlt | rfl
  · exact List.le_of_lt (flatMap_utf8EncodeChar_lt (String.lt_iff_toList_lt.1 hlt))
  · exact List.le_refl _

end Text

/-! ### Sorting -/

/-- Descriptors sorted by name. -/
def sortByName (ds : List FieldDescriptor) : List FieldDescriptor :=
  ds.mergeSort fun a b => decide (a.name ≤ b.name)

section

variable {ds : List FieldDescriptor}

theorem pairwise_sortByName (ds : List FieldDescriptor) :
    (sortByName ds).Pairwise fun a b => a.name ≤ b.name := by
  have h : (sortByName ds).Pairwise fun a b => decide (a.name ≤ b.name) = true :=
    List.pairwise_mergeSort
      (fun a b c hab hbc => by simpa using le_trans (by simpa using hab) (by simpa using hbc))
      (fun a b => by simpa using le_total a.name b.name) ds
  exact h.imp fun hle => by simpa using hle

theorem perm_sortByName (ds : List FieldDescriptor) : (sortByName ds).Perm ds :=
  List.mergeSort_perm ds _

/-- Sorting keeps the order of descriptors with one name. -/
theorem filter_sortByName (ds : List FieldDescriptor) (name : String) :
    (sortByName ds).filter (·.name = name) = ds.filter (·.name = name) := by
  have hsorted : (ds.filter (·.name = name)).Pairwise fun a b => decide (a.name ≤ b.name) = true :=
    List.pairwise_of_forall_mem_list fun a ha b hb => by
      have ha : a.name = name := by simpa using List.of_mem_filter ha
      have hb : b.name = name := by simpa using List.of_mem_filter hb
      simp [ha, hb]
  have hsub : (ds.filter (·.name = name)).Sublist (sortByName ds) :=
    List.sublist_mergeSort
      (fun a b c hab hbc => by simpa using le_trans (by simpa using hab) (by simpa using hbc))
      (fun a b => by simpa using le_total a.name b.name) hsorted List.filter_sublist
  have hfilter := hsub.filter (·.name = name)
  rw [List.filter_filter] at hfilter
  simp only [Bool.and_self] at hfilter
  exact (hfilter.eq_of_length ((perm_sortByName ds).filter _).length_eq.symm).symm

/-- Two descriptors with one name, one after the other, have been so before. -/
theorem sublist_of_sublist_sortByName {a b : FieldDescriptor} (hname : a.name = b.name)
    (h : [a, b].Sublist (sortByName ds)) : [a, b].Sublist ds := by
  have hfilter := h.filter (·.name = b.name)
  rw [filter_sortByName, List.filter_eq_self.2 (by simp [hname])] at hfilter
  exact hfilter.trans List.filter_sublist

end

/-! ### The fields of findings -/

theorem descriptor?_of_counts (c : Collection) (m : Marker) :
    (if c.counts m then m.descriptor? else none) = (c.field? m).map Field.descriptor := by
  obtain ⟨enabled, resources⟩ := c
  cases m <;> cases enabled <;> cases resources <;> rfl

theorem specFields_eq (findings : List Finding) (c : Collection) :
    specFields findings c = sortByName (collect (countedFields findings c)) := by
  unfold specFields sortByName collect countedFields
  rw [List.foldl_filterMap]
  simp only [descriptor?_of_counts]
  congr 2
  funext ds f
  cases c.field? f.marker <;> rfl

/-- The fields of the spec stand in the order of the bytes of their names. Each manifest name comes
once, and the names that come are those of the fields that count. A descriptor is that of the last
field with its manifest name, and descriptors with one name stand in the order in which their
manifest names come up first. -/
theorem specFields_of_findings (findings : List Finding) (c : Collection) :
    (specFields findings c).Pairwise (fun a b => Text.bytes a.name ≤ Text.bytes b.name) ∧
    ((specFields findings c).map (·.manifestName)).Nodup ∧
    (∀ name, name ∈ (specFields findings c).map (·.manifestName) ↔
      ∃ f ∈ countedFields findings c, f.name = name) ∧
    (∀ d ∈ specFields findings c, ∃ before f after,
      countedFields findings c = before ++ f :: after ∧ d = f.descriptor ∧
        ∀ g ∈ after, g.name ≠ f.name) ∧
    (specFields findings c).Pairwise fun a b => a.name = b.name →
      ((countedFields findings c).map (·.name)).idxOf a.manifestName <
        ((countedFields findings c).map (·.name)).idxOf b.manifestName := by
  rw [specFields_eq]
  have hperm := perm_sortByName (collect (countedFields findings c))
  refine ⟨(pairwise_sortByName _).imp Text.bytes_le_of_le,
    (hperm.map _).nodup_iff.2 (nodup_names_collect _), fun name => ?_,
    fun d hd => exists_last_of_mem_collect (hperm.mem_iff.1 hd), ?_⟩
  · rw [(hperm.map _).mem_iff]
    exact (mem_names_collect _ name).trans List.mem_map
  · refine List.pairwise_iff_forall_sublist.2 fun {a b} hsub hname => ?_
    have horder := List.pairwise_map.1 (pairwise_idxOf_collect (countedFields findings c))
    exact List.pairwise_iff_forall_sublist.1 horder (sublist_of_sublist_sortByName hname hsub)

/-- Two fields with one name in generated code, the first of them twice. -/
def repeatedFields : List Finding :=
  [⟨"", .field { name := "X", type := .int }, .node 0, "", .origin, 1⟩,
    ⟨"", .field { name := "x" }, .node 0, "", .origin, 1⟩,
    ⟨"", .field { name := "X", type := .bool }, .node 0, "", .origin, 1⟩]

/-- The second marker of a field counts. -/
theorem specFields_of_findings_repeated : ∃ d ∈ specFields repeatedFields {},
    d.manifestName = "X" ∧ d.type = .bool := by
  obtain ⟨-, -, hnames, hlast, -⟩ := specFields_of_findings repeatedFields {}
  have hcounted : countedFields repeatedFields {} =
      [{ name := "X", type := .int }, { name := "x" }, { name := "X", type := .bool }] := rfl
  have hmem : "X" ∈ (specFields repeatedFields {}).map (·.manifestName) :=
    (hnames "X").2 ⟨{ name := "X", type := .int }, by simp [hcounted], rfl⟩
  obtain ⟨d, hd, hname⟩ := List.mem_map.1 hmem
  refine ⟨d, hd, hname, ?_⟩
  obtain ⟨before, f, after, hsplit, rfl, hafter⟩ := hlast d hd
  rw [hcounted] at hsplit
  rcases before with _ | ⟨a, _ | ⟨b, _ | ⟨c, before⟩⟩⟩ <;> simp at hsplit
  · obtain ⟨rfl, rfl⟩ := hsplit
    exact absurd rfl (hafter { name := "X", type := .bool } (by simp))
  · obtain ⟨-, rfl, -⟩ := hsplit
    exact absurd hname (by decide)
  · obtain ⟨-, -, rfl, -⟩ := hsplit
    rfl

/-- It takes the place of the first one. -/
example : (specFields repeatedFields {}).map (fun d => (d.name, d.manifestName, d.type)) =
    [("X", "X", .bool), ("X", "x", .unknown)] := by
  cbv

end ManifestMarkers
