import Mathlib.Data.List.Induction
import Mathlib.Data.List.Perm.Basic
import Mathlib.Logic.Function.Basic
import ManifestMarkers.Proofs.MarkerWriting

/-!
# The schema of arguments

What the arguments of a marker have to be, all of them together and in any order.

* `Given` is an argument as it is given; `Given.Accepts` is the schema: known names, no argument
  twice, nothing missing, values that fit, and the checks across arguments.
* `Variant.ofArgs` is the marker of the arguments, `Marker.settle` what the checks make of it.
* `Given.accepts_iff` takes the schema apart into what can be told of every argument in its turn and
  what needs all of them.
* `Given.accepts_of_alike`: neither the order of the arguments nor the case of their names matters.
-/

namespace ManifestMarkers

/-! ### Arguments as they are given -/

namespace Given

/-- A single value as it is given: a lexeme without its place. -/
structure Scalar where
  kind : Lexeme.Kind
  text : String
  isScalar : kind.isScalar = true

/-- A value as it is given. -/
inductive Value
  | scalar (s : Scalar)
  | slice (items : List Scalar)

end Given

/-- An argument as it is given. -/
structure Given where
  name : String
  value : Given.Value

/-! ### The schema -/

namespace Given

/-- Whether a single value fits what is asked for. Numbers have to fit in 64 bits where they are
kept as numbers. -/
def Scalar.Fits (s : Scalar) : ArgKind → Prop
  | .string => True
  | .int => s.kind = .integerLiteral ∧ (Reader.integer? s.text).isSome = true
  | .bool => s.kind = .boolLiteral
  | .any => s.kind = .integerLiteral → (Reader.integer? s.text).isSome = true
  | .strings | .ints | .bools => False

/-- Whether a value fits what is asked for: a slice needs elements that fit. -/
def Value.Fits (kind : ArgKind) : Value → Prop
  | .scalar s => s.Fits kind
  | .slice items => ∃ element, kind.element? = some element ∧ ∀ s ∈ items, s.Fits element

/-- What a single value stands for where `kind` is asked for, if it fits. -/
def Scalar.literal? (s : Scalar) : ArgKind → Option Literal
  | .string => some (.string s.text)
  | .int => if s.kind = .integerLiteral then (Reader.integer? s.text).map .int else none
  | .bool => if s.kind = .boolLiteral then some (.bool (s.text == "true")) else none
  | .any =>
    if s.kind = .integerLiteral then (Reader.integer? s.text).map .int
    else if s.kind = .boolLiteral then some (.bool (s.text == "true"))
    else some (.string s.text)
  | .strings | .ints | .bools => none

/-- What a value stands for where `kind` is asked for, if it fits. -/
def Value.literal? (kind : ArgKind) : Value → Option Literal
  | .scalar s => s.literal? kind
  | .slice items => kind.element?.bind fun element =>
    (items.mapM fun s => Scalar.literal? s element).map .slice

/-- The argument of the schema that is named. -/
def spec? (v : Variant) (a : Given) : Option ArgSpec := v.args.find? (·.matchesName a.name)

/-- What the argument `name` of the schema is given as. -/
def literalOf (v : Variant) (args : List Given) (name : String) : Option Literal :=
  args.findSome? fun a => (a.spec? v).bind fun spec =>
    if spec.name = name then a.value.literal? spec.kind else none

end Given

/-- Whether a default can be brought into the form of the type: any single values become text. -/
def FieldType.Admits : FieldType → Literal → Prop
  | .string, literal => literal.isScalar = true
  | .strings, literal => ∃ items, literal = .slice items ∧ ∀ x ∈ items, x.isScalar = true
  | type, literal => type.Agrees literal

/-- The checks across the arguments of a field: the type has a keyword, the default agrees with it,
the name is not reserved and the pattern can be used. -/
structure Field.Passes (get : String → Option Literal) : Prop where
  type : ∃ type : FieldType, type ≠ .unknown ∧ (get "type").map Literal.text = some type.text ∧
    ∀ literal ∈ get "default", type.Admits literal
  name : ∀ literal ∈ get "name", isReserved literal.text = false
  replace : ∀ literal ∈ get "replace", Pattern.isPattern literal.text = true

/-- The checks across the arguments of a variant. The value of a resource is a single one. -/
def Variant.Passes (get : String → Option Literal) : Variant → Prop
  | .field | .collectionField => Field.Passes get
  | .resource => ∀ literal ∈ get "value", literal.isScalar = true

/-- The schema of a variant, on all arguments together. -/
structure Given.Accepts (v : Variant) (args : List Given) : Prop where
  known : ∀ a ∈ args, ∃ spec ∈ v.args, spec.matchesName a.name = true ∧ a.value.Fits spec.kind
  distinct : args.Pairwise fun a b =>
    ¬ ∃ spec ∈ v.args, spec.matchesName a.name = true ∧ spec.matchesName b.name = true
  required : ∀ spec ∈ v.args, spec.isOptional = false →
    ∃ a ∈ args, spec.matchesName a.name = true
  checks : v.Passes (Given.literalOf v args)

/-! ### The marker of the arguments -/

/-- The field with the given arguments, before the checks. -/
def Field.ofArgs (get : String → Option Literal) : Field :=
  { name := ((get "name").map Literal.text).getD ""
    type := ((get "type").bind fun l => (FieldType.ofText l.text).toOption).getD .unknown
    description := (get "description").map Literal.text
    default := get "default"
    replace := (get "replace").map Literal.text }

/-- The resource with the given arguments. -/
def Resource.ofArgs (get : String → Option Literal) : Resource :=
  { field := (get "field").map Literal.text
    collectionField := (get "collectionField").map Literal.text
    value := get "value"
    included := (get "include").bind Literal.bool? }

/-- The marker with the given arguments, before the checks. -/
def Variant.ofArgs (get : String → Option Literal) : Variant → Marker
  | .field => .field (Field.ofArgs get)
  | .collectionField => .collectionField (Field.ofArgs get)
  | .resource => .resource (Resource.ofArgs get)

/-- The field as the checks leave it, with its default in the form of its type. -/
def Field.settle (f : Field) : Field := { f with default := f.default.bind f.type.accept? }

/-- The marker as the checks leave it. -/
def Marker.settle (m : Marker) : Marker := m.mapField Field.settle

/-! ### Values -/

namespace Given

/-- A number fits where any value does if it is below two to the power of 63. -/
theorem Scalar.fits_any_iff {s : Scalar} (hk : s.kind = .integerLiteral)
    (hdigits : ∀ c ∈ s.text.toList, c.isDigit = true) (hne : s.text.toList ≠ []) :
    s.Fits .any ↔ Nat.ofDigitChars 10 s.text.toList 0 < 2 ^ 63 := by
  have hread := Reader.integer?_digits hdigits hne
  rw [String.ofList_toList] at hread
  simp [Fits, hk, hread]

theorem Scalar.isSome_literal?_iff {s : Scalar} {kind : ArgKind} :
    (s.literal? kind).isSome = true ↔ s.Fits kind := by
  cases kind with
  | string => simp [literal?, Fits]
  | int => by_cases h : s.kind = .integerLiteral <;> simp [literal?, Fits, h]
  | bool => by_cases h : s.kind = .boolLiteral <;> simp [literal?, Fits, h]
  | strings | ints | bools => simp [literal?, Fits]
  | any =>
    by_cases h : s.kind = .integerLiteral
    · simp [literal?, Fits, h]
    · by_cases hb : s.kind = .boolLiteral <;> simp [literal?, Fits, h, hb]

theorem isSome_mapM_iff {items : List Scalar} {element : ArgKind} :
    (items.mapM fun s => Scalar.literal? s element).isSome = true ↔
      ∀ s ∈ items, s.Fits element := by
  induction items with
  | nil => simp
  | cons s items ih =>
    rw [List.forall_mem_cons, ← ih, ← Scalar.isSome_literal?_iff, List.mapM_cons]
    cases s.literal? element <;>
      cases (items.mapM fun s => Scalar.literal? s element) <;> simp

/-- A value stands for something exactly if it fits. -/
theorem Value.isSome_literal?_iff {kind : ArgKind} {value : Value} :
    (value.literal? kind).isSome = true ↔ value.Fits kind := by
  cases value with
  | scalar s => exact Scalar.isSome_literal?_iff
  | slice items =>
    cases h : kind.element? with
    | none => simp [literal?, Fits, h]
    | some element => simp [literal?, Fits, h, ← isSome_mapM_iff]

end Given

/-! ### Arguments that are set -/

/-- Whether a text is the keyword of a type. -/
def FieldType.IsKeyword (text : String) : Prop :=
  ∃ type : FieldType, type ≠ .unknown ∧ type.text = text

theorem FieldType.ofText_eq_ok_iff {text : String} {type : FieldType} :
    ofText text = .ok type ↔ type ≠ .unknown ∧ type.text = text := by
  constructor
  · intro h
    unfold ofText at h
    split at h <;> cases h <;> decide
  · rintro ⟨hne, rfl⟩
    cases type <;> first | rfl | exact absurd rfl hne

theorem FieldType.isKeyword_iff {text : String} :
    IsKeyword text ↔ ∃ type, ofText text = .ok type :=
  exists_congr fun _ => ofText_eq_ok_iff.symm

section

variable {get : String → Option Literal} {spec : ArgSpec} {literal : Literal}

theorem Field.setArg_ofArgs (hspec : spec ∈ args) (path : String)
    (h : spec.name = "type" → FieldType.IsKeyword literal.text) :
    (ofArgs get).setArg path spec.name literal =
      .ok (ofArgs (Function.update get spec.name (some literal))) := by
  simp only [args, List.mem_cons, List.not_mem_nil, or_false] at hspec
  rcases hspec with rfl | rfl | rfl | rfl | rfl
  · rfl
  · obtain ⟨type, htype⟩ := FieldType.isKeyword_iff.1 (h rfl)
    simp [setArg_type, ofArgs, htype, Except.toOption, Except.map]
  · rfl
  · rfl
  · rfl

theorem Resource.setArg_ofArgs (hspec : spec ∈ args) :
    (ofArgs get).setArg spec.name literal =
      .ok (ofArgs (Function.update get spec.name (some literal))) := by
  simp only [args, List.mem_cons, List.not_mem_nil, or_false] at hspec
  rcases hspec with rfl | rfl | rfl | rfl <;> rfl

/-- Setting an argument of the schema adds it. A type needs a keyword. -/
theorem Variant.setArg_ofArgs {v : Variant} (hspec : spec ∈ v.args)
    (h : spec.name = "type" → FieldType.IsKeyword literal.text) :
    (v.ofArgs get).setArg spec.name literal =
      .ok (v.ofArgs (Function.update get spec.name (some literal))) := by
  cases v with
  | field =>
    rw [ofArgs, Marker.setArg_field, Field.setArg_ofArgs hspec fieldPath h]
    rfl
  | collectionField =>
    rw [ofArgs, Marker.setArg_collectionField, Field.setArg_ofArgs hspec collectionFieldPath h]
    rfl
  | resource =>
    rw [ofArgs, Marker.setArg_resource, Resource.setArg_ofArgs hspec]
    rfl

theorem Field.isKeyword_of_setArg {f g : Field} {path : String}
    (h : f.setArg path "type" literal = .ok g) : FieldType.IsKeyword literal.text := by
  obtain ⟨type, htype, -⟩ := Lexeme.exists_ok_of_map_ok (setArg_type f path literal ▸ h)
  exact FieldType.isKeyword_iff.2 ⟨type, htype⟩

/-- A type without a keyword cannot be set. -/
theorem Marker.isKeyword_of_setArg {m n : Marker} (h : m.setArg "type" literal = .ok n) :
    FieldType.IsKeyword literal.text := by
  cases m with
  | field f =>
    rw [setArg_field] at h
    obtain ⟨g, hg, -⟩ := Lexeme.exists_ok_of_map_ok h
    exact Field.isKeyword_of_setArg hg
  | collectionField f =>
    rw [setArg_collectionField] at h
    obtain ⟨g, hg, -⟩ := Lexeme.exists_ok_of_map_ok h
    exact Field.isKeyword_of_setArg hg
  | resource r => cases h

end

/-! ### All arguments -/

namespace Given

variable {v : Variant} {args : List Given} {a b : Given} {spec : ArgSpec} {name : String}

/-- No two arguments of a schema have the same name. -/
theorem eq_of_matchesName {spec spec' : ArgSpec} (hspec : spec ∈ v.args) (hspec' : spec' ∈ v.args)
    (h : spec.matchesName name = true) (h' : spec'.matchesName name = true) : spec = spec' := by
  have hnames : ∀ s ∈ v.args, ∀ s' ∈ v.args,
      s.name.toList.map Char.toLower = s'.name.toList.map Char.toLower → s = s' := by
    cases v <;> decide
  refine hnames spec hspec spec' hspec' ?_
  simp only [ArgSpec.matchesName, Text.eqIgnoreCase, beq_iff_eq] at h h'
  rw [h, h']

theorem spec?_eq_some_iff :
    a.spec? v = some spec ↔ spec ∈ v.args ∧ spec.matchesName a.name = true := by
  constructor
  · intro h
    exact ⟨List.mem_of_find?_eq_some h, by simpa using List.find?_some h⟩
  · rintro ⟨hspec, hname⟩
    cases h : a.spec? v with
    | none => exact absurd hname (by simpa using List.find?_eq_none.1 h spec hspec)
    | some spec' =>
      have hname' : spec'.matchesName a.name = true := by simpa using List.find?_some h
      rw [eq_of_matchesName (List.mem_of_find?_eq_some h) hspec hname' hname]

/-- An argument of a schema is found by its own name. -/
theorem spec?_self (spec : ArgSpec) (h : spec ∈ v.args) (value : Value) :
    spec? v ⟨spec.name, value⟩ = some spec := by
  refine spec?_eq_some_iff.2 ⟨h, ?_⟩
  simp [ArgSpec.matchesName, Text.eqIgnoreCase]

/-- Two arguments of a schema with the same name are the same. -/
theorem eq_of_name_eq {spec spec' : ArgSpec} (hspec : spec ∈ v.args) (hspec' : spec' ∈ v.args)
    (h : spec.name = spec'.name) : spec = spec' := by
  have hself : spec.matchesName spec.name = true := by simp [ArgSpec.matchesName, Text.eqIgnoreCase]
  refine eq_of_matchesName hspec hspec' hself ?_
  rw [ArgSpec.matchesName, ← h]
  exact hself

/-- The names of the schema that are given. -/
def names (v : Variant) (args : List Given) : List String :=
  args.filterMap fun a => (a.spec? v).map ArgSpec.name

theorem mem_names_iff (hspec : spec ∈ v.args) :
    spec.name ∈ names v args ↔ ∃ a ∈ args, a.spec? v = some spec := by
  simp only [names, List.mem_filterMap, Option.map_eq_some_iff]
  refine exists_congr fun a => and_congr_right fun _ => ?_
  constructor
  · rintro ⟨spec', h, hname⟩
    rw [h, eq_of_name_eq (spec?_eq_some_iff.1 h).1 hspec hname]
  · intro h
    exact ⟨spec, h, rfl⟩

theorem names_append (h : a.spec? v = some spec) :
    names v (args ++ [a]) = names v args ++ [spec.name] := by
  simp [names, List.filterMap_append, h]

theorem literalOf_eq_none (h : name ∉ names v args) : literalOf v args name = none := by
  refine List.findSome?_eq_none_iff.2 fun a ha => ?_
  cases hspec : a.spec? v with
  | none => rfl
  | some spec =>
    refine if_neg fun hname => h (List.mem_filterMap.2 ⟨a, ha, ?_⟩)
    rw [hspec, ← hname]
    rfl

/-- One more argument, whose name is new. -/
theorem literalOf_append (h : a.spec? v = some spec) (hnew : spec.name ∉ names v args)
    {literal : Literal} (hliteral : a.value.literal? spec.kind = some literal) :
    literalOf v (args ++ [a]) =
      Function.update (literalOf v args) spec.name (some literal) := by
  funext name
  have hlast : literalOf v (args ++ [a]) name = (literalOf v args name).or
      (if spec.name = name then some literal else none) := by
    simp [literalOf, List.findSome?_append, h, hliteral]
  rw [hlast]
  by_cases hname : name = spec.name
  · rw [hname, literalOf_eq_none hnew, Function.update_self, if_pos rfl, Option.none_or]
  · rw [Function.update_of_ne hname, if_neg (Ne.symm hname), Option.or_none]

/-- What the reader checks argument by argument. -/
structure Readable (v : Variant) (args : List Given) : Prop where
  known : ∀ a ∈ args, ∃ spec literal, a.spec? v = some spec ∧
    a.value.literal? spec.kind = some literal
  distinct : (names v args).Nodup
  type : ∀ literal ∈ literalOf v args "type", FieldType.IsKeyword literal.text

theorem readable_nil (v : Variant) : Readable v [] :=
  ⟨fun a ha => absurd ha (by simp), List.nodup_nil, fun literal hl => by cases hl⟩

theorem readable_append_iff : Readable v (args ++ [a]) ↔ Readable v args ∧
    ∃ spec literal, a.spec? v = some spec ∧ spec.name ∉ names v args ∧
      a.value.literal? spec.kind = some literal ∧
      (spec.name = "type" → FieldType.IsKeyword literal.text) := by
  have hnames {spec : ArgSpec} (hspec : a.spec? v = some spec) :
      (names v (args ++ [a])).Nodup ↔ (names v args).Nodup ∧ spec.name ∉ names v args := by
    rw [names_append hspec]
    exact (List.perm_append_singleton _ _).nodup_iff.trans (List.nodup_cons.trans and_comm)
  constructor
  · rintro ⟨hknown, hdistinct, htype⟩
    obtain ⟨spec, literal, hspec, hliteral⟩ := hknown a (by simp)
    obtain ⟨hnodup, hnew⟩ := (hnames hspec).1 hdistinct
    rw [literalOf_append hspec hnew hliteral] at htype
    refine ⟨⟨fun b hb => hknown b (by simp [hb]), hnodup, fun other hother => ?_⟩,
      spec, literal, hspec, hnew, hliteral, fun hname => ?_⟩
    · have hname : "type" ≠ spec.name := by
        intro hname
        rw [hname, literalOf_eq_none hnew] at hother
        cases hother
      exact htype other (by rwa [Function.update_of_ne hname])
    · exact htype literal (by rw [← hname, Function.update_self]; rfl)
  · rintro ⟨⟨hknown, hdistinct, htype⟩, spec, literal, hspec, hnew, hliteral, hkeyword⟩
    refine ⟨fun b hb => ?_, (hnames hspec).2 ⟨hdistinct, hnew⟩, ?_⟩
    · rcases List.mem_append.1 hb with hb | hb
      · exact hknown b hb
      · obtain rfl := List.mem_singleton.1 hb
        exact ⟨spec, literal, hspec, hliteral⟩
    · rw [literalOf_append hspec hnew hliteral]
      intro other hother
      by_cases hname : "type" = spec.name
      · rw [hname, Function.update_self] at hother
        obtain rfl := Option.some.inj hother
        exact hkeyword hname.symm
      · exact htype other (by rwa [Function.update_of_ne hname] at hother)

theorem readable_of_append {more : List Given} (h : Readable v (args ++ more)) :
    Readable v args := by
  induction more using List.reverseRecOn with
  | nil => rwa [List.append_nil] at h
  | append_singleton more a ih =>
    rw [← List.append_assoc] at h
    exact ih (readable_append_iff.1 h).1

end Given

/-! ### Checks -/

theorem FieldType.isSome_accept?_iff (type : FieldType) (literal : Literal) :
    (type.accept? literal).isSome = true ↔ type.Admits literal := by
  cases type with
  | unknown => simp [accept?, Admits, Agrees]
  | string => cases literal <;> simp [accept?, Admits, Literal.isScalar]
  | int => cases literal <;> simp [accept?, Admits, Agrees]
  | bool => cases literal <;> simp [accept?, Admits, Agrees]
  | struct => simp [accept?, Admits, Agrees]
  | strings => cases literal <;> simp [accept?, Admits]
  | ints =>
    cases literal with
    | slice items =>
      have hall : allOf .int items = true ↔ ∀ x ∈ items, ∃ i, x = .int i := by
        rw [allOf_eq_true]
        refine forall₂_congr fun x _ => ?_
        cases x <;> simp [Literal.kind]
      simp [accept?, Admits, Agrees, hall]
    | string | int | bool => simp [accept?, Admits, Agrees]
  | bools =>
    cases literal with
    | slice items =>
      have hall : allOf .bool items = true ↔ ∀ x ∈ items, ∃ b, x = .bool b := by
        rw [allOf_eq_true]
        refine forall₂_congr fun x _ => ?_
        cases x <;> simp [Literal.kind]
      simp [accept?, Admits, Agrees, hall]
    | string | int | bool => simp [accept?, Admits, Agrees]

/-- The checks of a field, one by one. -/
theorem Field.validate_eq_iff {f g : Field} {p : Point} : f.validate p = (g, none) ↔
    isReserved f.name = false ∧ (∀ literal ∈ f.default, f.type.Admits literal) ∧
      f.patternFault? = none ∧ g = f.settle := by
  unfold validate settle
  by_cases hname : isReserved f.name = true
  · simp [hname]
  · rw [if_neg hname]
    cases hdefault : f.default with
    | none =>
      have hf : ({ f with default := none } : Field) = f := by rw [← hdefault]
      simp [hname, hf, eq_comm, and_comm]
    | some literal =>
      have hadmits := FieldType.isSome_accept?_iff f.type literal
      simp only [FieldType.coerce]
      cases haccept : f.type.accept? literal with
      | none =>
        rw [haccept] at hadmits
        simp [← hadmits]
      | some kept =>
        rw [haccept] at hadmits
        have hfault : ({ f with default := some kept } : Field).patternFault? = f.patternFault? :=
          rfl
        simp [hname, ← hadmits, hfault, haccept, eq_comm, and_comm]

section

variable {get : String → Option Literal}

theorem Field.isReserved_ofArgs_iff : isReserved (ofArgs get).name = false ↔
    ∀ literal ∈ get "name", isReserved literal.text = false := by
  have hempty : isReserved "" = false := by decide
  cases h : get "name" <;> simp [ofArgs, h, hempty]

theorem Field.patternFault?_ofArgs_iff : (ofArgs get).patternFault? = none ↔
    ∀ literal ∈ get "replace", Pattern.isPattern literal.text = true := by
  rw [patternFault?_eq_none]
  cases h : get "replace" <;> simp [ofArgs, h]

theorem Field.type_ofArgs {type : FieldType} (hne : type ≠ .unknown)
    (h : (get "type").map Literal.text = some type.text) : (ofArgs get).type = type := by
  obtain ⟨literal, hliteral, htext⟩ := Option.map_eq_some_iff.1 h
  have hof : FieldType.ofText literal.text = .ok type :=
    FieldType.ofText_eq_ok_iff.2 ⟨hne, htext.symm⟩
  simp [ofArgs, hliteral, hof, Except.toOption]

/-- The checks of a field whose type is given, on its arguments. -/
theorem Field.validate_ofArgs_iff (htype : ∃ literal, get "type" = some literal ∧
    FieldType.IsKeyword literal.text) {g : Field} {p : Point} :
    (ofArgs get).validate p = (g, none) ↔ Passes get ∧ g = (ofArgs get).settle := by
  obtain ⟨literal, hliteral, type, hne, htext⟩ := htype
  have hget : (get "type").map Literal.text = some type.text := by
    rw [hliteral, htext]
    rfl
  have htypeOf := type_ofArgs hne hget
  rw [validate_eq_iff, isReserved_ofArgs_iff, patternFault?_ofArgs_iff]
  constructor
  · rintro ⟨hname, hdefault, hreplace, hg⟩
    rw [htypeOf] at hdefault
    exact ⟨⟨⟨type, hne, hget, hdefault⟩, hname, hreplace⟩, hg⟩
  · rintro ⟨⟨⟨type', hne', hget', hdefault⟩, hname, hreplace⟩, hg⟩
    rw [← type_ofArgs hne' hget'] at hdefault
    exact ⟨hname, hdefault, hreplace, hg⟩

theorem Resource.validate_ofArgs_iff {p : Point} : (ofArgs get).validate p = none ↔
    ∀ literal ∈ get "value", literal.isScalar = true := by
  cases h : get "value" with
  | none => simp [validate, ofArgs, h]
  | some literal => cases literal <;> simp [validate, ofArgs, h, Literal.isScalar]

/-- The checks of a marker, on its arguments. The type of a field has to be given. -/
theorem Variant.validate_ofArgs_iff {v : Variant} (htype : v ≠ .resource → ∃ literal,
    get "type" = some literal ∧ FieldType.IsKeyword literal.text) (marker : Marker) (p : Point) :
    (v.ofArgs get).validate p = (marker, none) ↔
      v.Passes get ∧ marker = (v.ofArgs get).settle := by
  have hfield (hv : v ≠ .resource) (wrap : Field → Marker) :
      (wrap ((Field.ofArgs get).validate p).1, ((Field.ofArgs get).validate p).2) = (marker, none) ↔
        Field.Passes get ∧ marker = wrap (Field.ofArgs get).settle := by
    have hiff {g : Field} := Field.validate_ofArgs_iff (htype hv) (g := g) (p := p)
    rw [Prod.mk.injEq]
    constructor
    · rintro ⟨rfl, hnone⟩
      obtain ⟨hpasses, hg⟩ := hiff.1 (Prod.ext rfl hnone)
      exact ⟨hpasses, congrArg wrap hg⟩
    · rintro ⟨hpasses, rfl⟩
      rw [hiff.2 ⟨hpasses, rfl⟩]
      exact ⟨rfl, rfl⟩
  cases v with
  | field => exact hfield (by decide) .field
  | collectionField => exact hfield (by decide) .collectionField
  | resource =>
    simp only [ofArgs, Marker.validate, Prod.mk.injEq, Resource.validate_ofArgs_iff, Passes]
    rw [and_comm, eq_comm]
    rfl

end

/-! ### One argument after the other -/

namespace Given

variable {v : Variant} {args args' : List Given}

theorem exists_literalOf (h : Readable v args) {spec : ArgSpec} (hspec : spec ∈ v.args)
    (hname : spec.name ∈ names v args) : ∃ literal, literalOf v args spec.name = some literal := by
  obtain ⟨a, ha, hspec⟩ := (mem_names_iff hspec).1 hname
  obtain ⟨spec', literal, hspec', hliteral⟩ := h.known a ha
  rw [hspec] at hspec'
  obtain rfl := Option.some.inj hspec'
  rw [← Option.isSome_iff_exists]
  refine List.findSome?_isSome_iff.2 ⟨a, ha, ?_⟩
  simp [hspec, hliteral]

/-- The type of a field is required. -/
theorem exists_type (h : Readable v args)
    (hrequired : ∀ spec ∈ v.args, spec.isOptional = false → spec.name ∈ names v args)
    (hv : v ≠ .resource) : ∃ literal, literalOf v args "type" = some literal ∧
      FieldType.IsKeyword literal.text := by
  have hspec : ⟨"type", .string, false⟩ ∈ v.args := by
    cases v with
    | field | collectionField => simp [Variant.args, Field.args]
    | resource => exact absurd rfl hv
  obtain ⟨literal, hliteral⟩ := exists_literalOf h hspec (hrequired _ hspec rfl)
  exact ⟨literal, hliteral, h.type literal hliteral⟩

theorem pairwise_iff_nodup : (args.Pairwise fun a b =>
    ¬ ∃ spec ∈ v.args, spec.matchesName a.name = true ∧ spec.matchesName b.name = true) ↔
      (names v args).Nodup := by
  rw [names, List.Nodup, List.pairwise_filterMap]
  refine List.Pairwise.iff fun a b => ?_
  simp only [Option.map_eq_some_iff, spec?_eq_some_iff]
  constructor
  · rintro h _ ⟨spec, ⟨hspec, ha⟩, rfl⟩ _ ⟨spec', ⟨hspec', hb⟩, rfl⟩ hname
    rw [eq_of_name_eq hspec hspec' hname] at ha
    exact h ⟨spec', hspec', ha, hb⟩
  · rintro h ⟨spec, hspec, ha, hb⟩
    exact h _ ⟨spec, ⟨hspec, ha⟩, rfl⟩ _ ⟨spec, ⟨hspec, hb⟩, rfl⟩ rfl

theorem isKeyword_of_passes (h : v.Passes (literalOf v args)) :
    ∀ literal ∈ literalOf v args "type", FieldType.IsKeyword literal.text := by
  have hfield (h : Field.Passes (literalOf v args)) :
      ∀ literal ∈ literalOf v args "type", FieldType.IsKeyword literal.text := by
    intro literal hliteral
    obtain ⟨type, hne, htext, -⟩ := h.type
    rw [hliteral] at htext
    exact ⟨type, hne, (Option.some.inj htext).symm⟩
  cases v with
  | field => exact hfield h
  | collectionField => exact hfield h
  | resource =>
    -- resources have no type
    have hnone : "type" ∉ names .resource args := by
      intro hmem
      obtain ⟨a, -, hname⟩ := List.mem_filterMap.1 hmem
      obtain ⟨spec, hspec, hname⟩ := Option.map_eq_some_iff.1 hname
      have hnames : ∀ spec ∈ Resource.args, spec.name ≠ "type" := by decide
      exact hnames spec (spec?_eq_some_iff.1 hspec).1 hname
    rw [literalOf_eq_none hnone]
    intro literal hliteral
    cases hliteral

/-- The schema, by what the reader checks along the way and at the end. -/
theorem accepts_iff : Accepts v args ↔ Readable v args ∧
    (∀ spec ∈ v.args, spec.isOptional = false → spec.name ∈ names v args) ∧
      v.Passes (literalOf v args) := by
  have hknown (a : Given) : (∃ spec ∈ v.args, spec.matchesName a.name = true ∧
      a.value.Fits spec.kind) ↔ ∃ spec literal, a.spec? v = some spec ∧
        a.value.literal? spec.kind = some literal := by
    simp only [spec?_eq_some_iff, ← Value.isSome_literal?_iff, Option.isSome_iff_exists, and_assoc,
      exists_and_left]
  have hrequired : (∀ spec ∈ v.args, spec.isOptional = false →
      ∃ a ∈ args, spec.matchesName a.name = true) ↔
        ∀ spec ∈ v.args, spec.isOptional = false → spec.name ∈ names v args := by
    refine forall₂_congr fun spec hspec => ?_
    simp only [mem_names_iff hspec, spec?_eq_some_iff, hspec, true_and]
  constructor
  · rintro ⟨hargs, hdistinct, hall, hchecks⟩
    exact ⟨⟨fun a ha => (hknown a).1 (hargs a ha), pairwise_iff_nodup.1 hdistinct,
      isKeyword_of_passes hchecks⟩, hrequired.1 hall, hchecks⟩
  · rintro ⟨⟨hargs, hdistinct, -⟩, hall, hchecks⟩
    exact ⟨fun a ha => (hknown a).2 (hargs a ha), pairwise_iff_nodup.2 hdistinct,
      hrequired.2 hall, hchecks⟩

theorem not_accepts_nil : ¬ Accepts v [] := by
  rintro ⟨-, -, hrequired, -⟩
  have hspec : ∃ spec ∈ v.args, spec.isOptional = false := by
    cases v <;> decide
  obtain ⟨spec, hspec, ho⟩ := hspec
  obtain ⟨a, ha, -⟩ := hrequired spec hspec ho
  cases ha

/-! ### Order and case -/

/-- The same argument: the names differ in the case of their letters at most. -/
structure Same (a b : Given) : Prop where
  name : Text.eqIgnoreCase a.name b.name = true
  value : a.value = b.value

/-- The same arguments in some order. -/
def Alike (args args' : List Given) : Prop :=
  ∃ between, args.Perm between ∧ List.Forall₂ Same between args'

/-- What the schema sees of an argument. -/
def reading (v : Variant) (a : Given) : Option ArgSpec × Value := (a.spec? v, a.value)

theorem spec?_eq_of_same {a b : Given} (h : Same a b) : a.spec? v = b.spec? v := by
  have hname : a.name.toList.map Char.toLower = b.name.toList.map Char.toLower := by
    simpa [Text.eqIgnoreCase] using h.name
  simp only [spec?, ArgSpec.matchesName, Text.eqIgnoreCase, hname]

/-- The schema sees the same in the same arguments. -/
theorem perm_reading (h : Alike args args') :
    (args.map (reading v)).Perm (args'.map (reading v)) := by
  obtain ⟨between, hperm, hsame⟩ := h
  have hmap : between.map (reading v) = args'.map (reading v) := by
    clear hperm
    induction hsame with
    | nil => rfl
    | cons hab _ ih => rw [List.map_cons, List.map_cons, ih, reading, reading, spec?_eq_of_same hab,
        hab.value]
  exact hmap ▸ hperm.map _

/-- A search does not depend on the order if there is at most one hit. -/
theorem findSome?_eq_of_perm {α β : Type} {f : α → Option β} {l l' : List α} (h : l.Perm l')
    (hone : l.Pairwise fun a b => f a = none ∨ f b = none) : l.findSome? f = l'.findSome? f := by
  induction h with
  | nil => rfl
  | cons a h ih =>
    rw [List.findSome?_cons, List.findSome?_cons, ih (List.pairwise_cons.1 hone).2]
  | swap a b l =>
    have hab := (List.pairwise_cons.1 hone).1 a (by simp)
    simp only [List.findSome?_cons]
    rcases hab with h | h
    · rw [h]
    · rw [h]
  | trans h h' ih ih' =>
    refine (ih hone).trans (ih' ?_)
    exact (h.pairwise_iff fun hab => hab.symm).1 hone

theorem names_eq (v : Variant) (args : List Given) :
    names v args = (args.map (reading v)).filterMap fun r => r.1.map ArgSpec.name := by
  rw [List.filterMap_map]
  rfl

theorem literalOf_eq (v : Variant) (args : List Given) (name : String) :
    literalOf v args name = (args.map (reading v)).findSome? fun r => r.1.bind fun spec =>
      if spec.name = name then r.2.literal? spec.kind else none := by
  rw [List.findSome?_map]
  rfl

/-- What is given for a name does not depend on the order, if nothing is given twice. -/
theorem literalOf_eq_of_perm (h : (args.map (reading v)).Perm (args'.map (reading v)))
    (hdistinct : (names v args).Nodup) : literalOf v args = literalOf v args' := by
  funext name
  rw [literalOf_eq, literalOf_eq]
  refine findSome?_eq_of_perm h ?_
  rw [names_eq, List.Nodup, List.pairwise_filterMap] at hdistinct
  refine hdistinct.imp fun {r r'} hne => ?_
  rcases r with ⟨_ | spec, value⟩
  · exact .inl rfl
  rcases r' with ⟨_ | spec', value'⟩
  · exact .inr rfl
  by_cases hname : spec.name = name
  · refine .inr (if_neg fun hname' => ?_)
    exact hne _ rfl _ rfl (hname.trans hname'.symm)
  · exact .inl (if_neg hname)

/-- Arguments that can be read one after the other can be read in every order. -/
theorem readable_of_alike (h : Alike args args') (hreadable : Readable v args) :
    Readable v args' ∧ (names v args).Perm (names v args') ∧
      literalOf v args' = literalOf v args := by
  obtain ⟨hknown, hdistinct, htype⟩ := hreadable
  have hperm := perm_reading (v := v) h
  have hnames : (names v args).Perm (names v args') := by
    rw [names_eq, names_eq]
    exact hperm.filterMap _
  have hliteral := literalOf_eq_of_perm hperm hdistinct
  have hknown' : ∀ r ∈ args.map (reading v), ∃ spec literal, r.1 = some spec ∧
      r.2.literal? spec.kind = some literal := List.forall_mem_map.2 hknown
  rw [hliteral] at htype
  refine ⟨⟨fun a ha => ?_, hnames.nodup_iff.1 hdistinct, htype⟩, hnames, hliteral.symm⟩
  exact hknown' _ (hperm.mem_iff.2 (List.mem_map_of_mem ha))

/-- The schema accepts the same arguments in every order and however their names are written, and
they are the same to it. -/
theorem accepts_of_alike (h : Alike args args') (haccepts : Accepts v args) :
    Accepts v args' ∧ literalOf v args' = literalOf v args := by
  obtain ⟨hreadable, hrequired, hpasses⟩ := accepts_iff.1 haccepts
  obtain ⟨hreadable', hnames, hliteral⟩ := readable_of_alike h hreadable
  refine ⟨accepts_iff.2 ⟨hreadable', fun spec hspec ho => ?_, hliteral ▸ hpasses⟩, hliteral⟩
  exact hnames.mem_iff.1 (hrequired spec hspec ho)

theorem alike_of_perm (h : args.Perm args') : Alike args args' :=
  ⟨args', h, List.forall₂_same.2 fun a _ => ⟨by simp [Text.eqIgnoreCase], rfl⟩⟩

end Given

end ManifestMarkers
