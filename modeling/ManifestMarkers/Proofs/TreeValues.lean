import ManifestMarkers.Proofs.BlockTrees
import Mathlib.Logic.Function.Basic

/-!
# The values of trees

A tree of block collections is decoded to the value of the same shape. What its scalars stand for
does not matter for this, but keys have to be different.

* `Tree.value?` is what a tree stands for with the values of its scalars, if it can be decoded, and
  `Tree.value` is this without the checks.
* `Tree.IsDecoded` says what is decoded from the events of a tree, and `isDecoded` is that by
  induction on the tree.
* `document_of_tree`: the value of a document with these events.
* `value?_update`: another value in the place of one scalar makes no other difference.
-/

namespace ManifestMarkers.Yaml

/-- The value of a scalar, unless no value can hold it. -/
def Leaf.value? : Leaf → Option Value
  | some (text, style) => scalarValue? none text style
  | none => some .null

/-- What the trees of a layer stand for. -/
abbrev Layer.Result : Layer → Type
  | node _ => Value
  | pairs _ => List (Value × Value)
  | items _ => List Value

namespace Tree

/-- What a tree stands for. Collections may be nested as deep as `depth`, and a key is not the same
as another one or as one of `keys`. -/
def value? (f : Nat → Option Value) : {l : Layer} → Tree l → Nat → List Value → Option l.Result
  | _, scalar id, _, _ => f id
  | _, mapping _, 0, _ => none
  | _, mapping pairs, depth + 1, _ => (pairs.value? f depth []).map Value.mapping
  | _, sequence _, 0, _ => none
  | _, sequence items, depth + 1, _ => (items.value? f depth []).map Value.sequence
  | _, noPairs, _, _ => some []
  | _, pair key value more, depth, keys =>
    (f key).bind fun k =>
      if keys.any (·.same k) then none
      else (value.value? f depth []).bind fun v =>
        (more.value? f depth (k :: keys)).map fun rest => (k, v) :: rest
  | _, noItems, _, _ => some []
  | _, item value more, depth, _ =>
    (value.value? f depth []).bind fun v => (more.value? f depth []).map fun rest => v :: rest

/-- What a tree stands for, whatever its depth and its keys. -/
def value (f : Nat → Value) : {l : Layer} → Tree l → l.Result
  | _, scalar id => f id
  | _, mapping pairs => Value.mapping (pairs.value f)
  | _, sequence items => Value.sequence (items.value f)
  | _, noPairs => []
  | _, pair key value more => (f key, value.value f) :: more.value f
  | _, noItems => []
  | _, item value more => value.value f :: more.value f

/-- The scalars that are keys. -/
def keys : {l : Layer} → Tree l → List Nat
  | _, scalar _ => []
  | _, mapping pairs => pairs.keys
  | _, sequence items => items.keys
  | _, noPairs => []
  | _, pair key value more => key :: (value.keys ++ more.keys)
  | _, noItems => []
  | _, item value more => value.keys ++ more.keys

end Tree

/-! ### Events in a document -/

namespace Graph

/-- The events stand at this place. -/
def Holds (g : Graph) (place : Nat) (events : List Event) : Prop :=
  events <+: g.events.toList.drop place

variable {g : Graph} {place : Nat} {a b : List Event}

theorem Holds.left (h : g.Holds place (a ++ b)) : g.Holds place a :=
  (List.prefix_append a b).trans h

theorem Holds.right (h : g.Holds place (a ++ b)) : g.Holds (place + a.length) b := by
  obtain ⟨more, hmore⟩ := h
  refine ⟨more, ?_⟩
  rw [← List.drop_drop, ← hmore, List.append_assoc, List.drop_left]

theorem Holds.head {e : Event} (h : g.Holds place (e :: a)) : g.events[place]? = some e := by
  obtain ⟨more, hmore⟩ := h
  have hhead : (g.events.toList.drop place)[0]? = some e := by rw [← hmore]; rfl
  simpa using hhead

theorem Holds.tail {e : Event} (h : g.Holds place (e :: a)) : g.Holds (place + 1) a :=
  Holds.right (a := [e]) h

theorem Holds.length_le (h : g.Holds place a) : a.length ≤ g.events.size := by
  have hle := List.IsPrefix.length_le h
  simp only [List.length_drop, Array.length_toList] at hle
  omega

end Graph

namespace Tree

open Decoder

variable {leaf : Nat → Leaf} {g : Graph}

attribute [local simp] events value? value keys node items pairs withTag localTag?

/-- A node starts with the event of a scalar or with the start of a collection. -/
theorem exists_events (leaf : Nat → Leaf) {aligned : Bool} (t : Tree (.node aligned)) :
    ∃ e es, t.events leaf = e :: es ∧ e ≠ .mappingEnd ∧ e ≠ .sequenceEnd := by
  cases t with
  | scalar id =>
    refine ⟨_, _, rfl, ?_⟩
    cases leaf id <;> exact ⟨nofun, nofun⟩
  | mapping pairs => exact ⟨_, _, rfl, nofun, nofun⟩
  | sequence items => exact ⟨_, _, rfl, nofun, nofun⟩

/-- What is decoded from the events of a tree. -/
def IsDecoded (leaf : Nat → Leaf) (g : Graph) : {l : Layer} → Tree l → Prop
  | .node _, t => ∀ depth jumps place, g.Holds place (t.events leaf) →
    node g depth jumps place = (t.value? (fun id => (leaf id).value?) depth []).map fun v =>
      (v, jumps, place + (t.events leaf).length)
  | .pairs _, t => ∀ depth room done jumps place,
    g.Holds place (t.events leaf ++ [.mappingEnd]) → (t.events leaf).length < room →
    pairs g (node g depth) room done jumps place =
      (t.value? (fun id => (leaf id).value?) depth (done.map Prod.fst)).map fun ps =>
        (done.reverse ++ ps, jumps, place + (t.events leaf).length + 1)
  | .items _, t => ∀ depth room jumps place,
    g.Holds place (t.events leaf ++ [.sequenceEnd]) → (t.events leaf).length < room →
    items g (node g depth) room jumps place =
      (t.value? (fun id => (leaf id).value?) depth []).map fun vs =>
        (vs, jumps, place + (t.events leaf).length + 1)

theorem isDecoded_scalar (id : Nat) : (scalar id).IsDecoded leaf g := by
  intro depth jumps place hholds
  have hevent := hholds.head
  have hconcrete (collections : Option Decode) : followed g collections jumps place =
      ((leaf id).value?).map fun v => (v, jumps, place + 1) := by
    unfold followed concrete
    rw [hevent]
    cases leaf id <;> rfl
  cases depth <;> exact hconcrete _

/-- A collection is decoded with what it holds, one level deeper. -/
theorem isDecoded_mapping {pairs : Tree (.pairs true)} (h : pairs.IsDecoded leaf g) :
    (mapping pairs).IsDecoded leaf g := by
  intro depth jumps place hholds
  have hevent := hholds.head
  cases depth with
  | zero =>
    rw [Decoder.node, followed, hevent]
    dsimp only
    rw [concrete, hevent]
    rfl
  | succ depth =>
    have hsize := hholds.tail.left.length_le
    have hpairs := h depth (g.events.size + 1) [] jumps (place + 1) hholds.tail (by omega)
    rw [List.map_nil] at hpairs
    rw [Decoder.node, followed, hevent]
    dsimp only
    rw [concrete, hevent]
    simp only [Option.bind_eq_bind, Option.bind_some, hpairs]
    rw [value?]
    cases pairs.value? (fun id => (leaf id).value?) depth [] with
    | none => rfl
    | some ps => simp [Nat.add_assoc, Nat.add_comm 1]

theorem isDecoded_sequence {aligned : Bool} {items : Tree (.items true)}
    (h : items.IsDecoded leaf g) :
    (sequence items : Tree (.node aligned)).IsDecoded leaf g := by
  intro depth jumps place hholds
  have hevent := hholds.head
  cases depth with
  | zero =>
    rw [Decoder.node, followed, hevent]
    dsimp only
    rw [concrete, hevent]
    rfl
  | succ depth =>
    have hsize := hholds.tail.left.length_le
    have hitems := h depth (g.events.size + 1) jumps (place + 1) hholds.tail (by omega)
    rw [Decoder.node, followed, hevent]
    dsimp only
    rw [concrete, hevent]
    simp only [Option.bind_eq_bind, Option.bind_some, hitems]
    rw [value?]
    cases items.value? (fun id => (leaf id).value?) depth [] with
    | none => rfl
    | some vs => simp [Nat.add_assoc, Nat.add_comm 1]

theorem isDecoded_pair {aligned filled : Bool} (key : Nat) {value : Tree (.node aligned)}
    {more : Tree (.pairs filled)} (hvalue : value.IsDecoded leaf g)
    (hmore : more.IsDecoded leaf g) : (pair key value more).IsDecoded leaf g := by
  intro depth room done jumps place hholds hroom
  obtain ⟨room, rfl⟩ : ∃ r, room = r + 1 := ⟨room - 1, by omega⟩
  have hholds : g.Holds place ((scalar key).events leaf ++
      (value.events leaf ++ (more.events leaf ++ [.mappingEnd]))) := by
    simpa using hholds
  have hroom : 1 + (value.events leaf).length + (more.events leaf).length < room + 1 := by
    simp only [events, List.length_cons, List.length_append] at hroom
    omega
  have hkey : node g depth jumps place =
      ((leaf key).value?).map fun k => (k, jumps, place + 1) :=
    isDecoded_scalar key depth jumps place hholds.left
  have hpair := hvalue depth jumps (place + 1) hholds.right.left
  have hrest (k v : Value) := hmore depth room ((k, v) :: done) jumps
    (place + 1 + (value.events leaf).length) hholds.right.right (by omega)
  have hend : (leaf key).event ≠ .mappingEnd := by
    intro hevent
    cases h : leaf key <;> rw [h] at hevent <;> cases hevent
  rw [Decoder.pairs, hholds.left.head]
  split
  · next heq => exact absurd (Option.some.inj heq) hend
  · rw [hkey, value?]
    cases (leaf key).value? with
    | none => rfl
    | some k =>
      simp only [Option.map_some, Option.bind_eq_bind, Option.bind_some, List.any_map]
      by_cases hsame : done.any (fun p => p.1.same k) = true
      · rw [if_pos hsame, if_pos (by simpa using hsame)]
        rfl
      · rw [if_neg hsame, if_neg (by simpa using hsame), hpair]
        cases value.value? (fun id => (leaf id).value?) depth [] with
        | none => rfl
        | some v =>
          simp only [Option.map_some, Option.bind_some, hrest, List.map_cons]
          cases more.value? (fun id => (leaf id).value?) depth (k :: done.map Prod.fst) with
          | none => rfl
          | some rest =>
            simp [Nat.add_assoc]
            omega

theorem isDecoded_item {filled : Bool} {value : Tree (.node false)} {more : Tree (.items filled)}
    (hvalue : value.IsDecoded leaf g) (hmore : more.IsDecoded leaf g) :
    (item value more).IsDecoded leaf g := by
  intro depth room jumps place hholds hroom
  obtain ⟨room, rfl⟩ : ∃ r, room = r + 1 := ⟨room - 1, by omega⟩
  have hholds : g.Holds place (value.events leaf ++ (more.events leaf ++ [.sequenceEnd])) := by
    simpa using hholds
  have hroom : (value.events leaf).length + (more.events leaf).length < room + 1 := by
    simpa using hroom
  have hitem := hvalue depth jumps place hholds.left
  obtain ⟨e, es, hevents, -, hend⟩ := value.exists_events leaf
  rw [hevents] at hholds
  have hrest := hmore depth room jumps _ hholds.right (by
    rw [hevents, List.length_cons] at hroom
    omega)
  have hevent := hholds.left.head
  rw [Decoder.items, hevent]
  split
  · next heq => exact absurd (Option.some.inj heq) hend
  · rw [hitem]
    rw [value?]
    cases value.value? (fun id => (leaf id).value?) depth [] with
    | none => rfl
    | some v =>
      simp only [Option.map_some, Option.bind_eq_bind, Option.bind_some, hevents] at hrest ⊢
      rw [hrest]
      cases more.value? (fun id => (leaf id).value?) depth [] with
      | none => rfl
      | some vs =>
        simp [hevents, Nat.add_assoc]
        omega

/-- The events of a tree are decoded as its value. The induction is on the tree. -/
theorem isDecoded {l : Layer} (t : Tree l) : t.IsDecoded leaf g := by
  induction t with
  | scalar id => exact isDecoded_scalar id
  | mapping pairs ih => exact isDecoded_mapping ih
  | sequence items ih => exact isDecoded_sequence ih
  | noPairs =>
    intro depth room done jumps place hholds hroom
    obtain ⟨room, rfl⟩ : ∃ r, room = r + 1 := ⟨room - 1, by omega⟩
    have hholds : g.Holds place [.mappingEnd] := hholds
    rw [Decoder.pairs, hholds.head]
    simp
  | pair key value more ihvalue ihmore => exact isDecoded_pair key ihvalue ihmore
  | noItems =>
    intro depth room jumps place hholds hroom
    obtain ⟨room, rfl⟩ : ∃ r, room = r + 1 := ⟨room - 1, by omega⟩
    have hholds : g.Holds place [.sequenceEnd] := hholds
    rw [Decoder.items, hholds.head]
    rfl
  | item value more ihvalue ihmore => exact isDecoded_item ihvalue ihmore

/-! ### Documents -/

/-- A tree has neither anchors nor aliases. -/
theorem isPlain_of_mem_events {l : Layer} (t : Tree l) :
    ∀ e ∈ t.events leaf, Graph.anchor? e = none ∧ ∀ name, e ≠ .alias name := by
  have hleaf (id : Nat) : Graph.anchor? (leaf id).event = none ∧
      ∀ name, (leaf id).event ≠ .alias name := by
    cases leaf id <;> exact ⟨rfl, nofun⟩
  induction t with
  | scalar id => exact List.forall_mem_singleton.2 (hleaf id)
  | mapping pairs ih =>
    refine List.forall_mem_cons.2 ⟨⟨rfl, nofun⟩, List.forall_mem_append.2 ⟨ih, ?_⟩⟩
    exact List.forall_mem_singleton.2 ⟨rfl, nofun⟩
  | sequence items ih =>
    refine List.forall_mem_cons.2 ⟨⟨rfl, nofun⟩, List.forall_mem_append.2 ⟨ih, ?_⟩⟩
    exact List.forall_mem_singleton.2 ⟨rfl, nofun⟩
  | noPairs => exact nofun
  | pair key value more ihvalue ihmore =>
    exact List.forall_mem_cons.2 ⟨hleaf key, List.forall_mem_append.2 ⟨ihvalue, ihmore⟩⟩
  | noItems => exact nofun
  | item value more ihvalue ihmore => exact List.forall_mem_append.2 ⟨ihvalue, ihmore⟩

theorem number_eq {events : List Event}
    (h : ∀ e ∈ events, Graph.anchor? e = none ∧ ∀ name, e ≠ .alias name) (position : Nat)
    (g : Graph) : Graph.number position [] g events = some g := by
  induction events generalizing position with
  | nil => rfl
  | cons e events ih =>
    obtain ⟨⟨hanchor, halias⟩, hmore⟩ := List.forall_mem_cons.1 h
    rw [Graph.number]
    · rw [hanchor]
      exact ih hmore _
    · exact halias

/-- The value of a document with the events of a tree. -/
theorem document_of_tree (t : Tree (.node false)) : Decoder.document (t.events leaf) =
    t.value? (fun id => (leaf id).value?) maxDepth [] := by
  let g : Graph := ⟨(t.events leaf).toArray, [], []⟩
  have hgraph : Graph.ofEvents? (t.events leaf) = some g :=
    number_eq (isPlain_of_mem_events t) 0 g
  have hholds : g.Holds 0 (t.events leaf) := List.prefix_refl _
  have hdecoded : t.IsDecoded leaf g := isDecoded t
  unfold Decoder.document
  rw [hgraph]
  simp only [Option.bind_eq_bind, Option.bind_some, hdecoded maxDepth 0 0 hholds]
  cases t.value? (fun id => (leaf id).value?) maxDepth [] <;> rfl

/-! ### Other scalars -/

section

variable {f : Nat → Option Value} {depth : Nat} {ks : List Value}

/-- If a tree can be decoded, its value has its shape. -/
theorem eq_value {l : Layer} {t : Tree l} {r : l.Result} (h : t.value? f depth ks = some r) :
    r = t.value fun id => (f id).getD .null := by
  induction t generalizing depth ks with
  | scalar id =>
    rw [value?] at h
    rw [value, h]
    rfl
  | mapping pairs ih =>
    cases depth with
    | zero => cases h
    | succ depth =>
      obtain ⟨ps, hps, rfl⟩ := Option.map_eq_some_iff.1 h
      rw [value, ih hps]
  | sequence items ih =>
    cases depth with
    | zero => cases h
    | succ depth =>
      obtain ⟨vs, hvs, rfl⟩ := Option.map_eq_some_iff.1 h
      rw [value, ih hvs]
  | noPairs => exact (Option.some.inj h).symm
  | pair key value more ihvalue ihmore =>
    obtain ⟨k, hk, h⟩ := Option.bind_eq_some_iff.1 h
    split at h
    · cases h
    · obtain ⟨v, hv, h⟩ := Option.bind_eq_some_iff.1 h
      obtain ⟨rest, hrest, rfl⟩ := Option.map_eq_some_iff.1 h
      rw [Tree.value, hk, ihvalue hv, ihmore hrest]
      rfl
  | noItems => exact (Option.some.inj h).symm
  | item value more ihvalue ihmore =>
    obtain ⟨v, hv, h⟩ := Option.bind_eq_some_iff.1 h
    obtain ⟨vs, hvs, rfl⟩ := Option.map_eq_some_iff.1 h
    rw [Tree.value, ihvalue hv, ihmore hvs]

/-- A scalar that is no key may have any other value. -/
theorem exists_value?_update {l : Layer} {t : Tree l} {r : l.Result} {id : Nat} (hid : id ∉ t.keys)
    (h : t.value? f depth ks = some r) (v : Value) :
    ∃ r', t.value? (Function.update f id (some v)) depth ks = some r' := by
  induction t generalizing depth ks with
  | scalar i =>
    by_cases hi : i = id
    · exact ⟨v, by rw [value?, hi, Function.update_self]⟩
    · exact ⟨r, by rw [value?, Function.update_of_ne hi]; exact h⟩
  | mapping pairs ih =>
    cases depth with
    | zero => cases h
    | succ depth =>
      obtain ⟨ps, hps, rfl⟩ := Option.map_eq_some_iff.1 h
      obtain ⟨ps', hps'⟩ := ih hid hps
      exact ⟨_, by rw [value?, hps', Option.map_some]⟩
  | sequence items ih =>
    cases depth with
    | zero => cases h
    | succ depth =>
      obtain ⟨vs, hvs, rfl⟩ := Option.map_eq_some_iff.1 h
      obtain ⟨vs', hvs'⟩ := ih hid hvs
      exact ⟨_, by rw [value?, hvs', Option.map_some]⟩
  | noPairs => exact ⟨_, rfl⟩
  | pair key value more ihvalue ihmore =>
    simp only [keys, List.mem_cons, List.mem_append, not_or] at hid
    obtain ⟨k, hk, h⟩ := Option.bind_eq_some_iff.1 h
    split at h
    · cases h
    · next hsame =>
      obtain ⟨v', hv, h⟩ := Option.bind_eq_some_iff.1 h
      obtain ⟨rest, hrest, rfl⟩ := Option.map_eq_some_iff.1 h
      obtain ⟨v'', hv''⟩ := ihvalue hid.2.1 hv
      obtain ⟨rest', hrest'⟩ := ihmore hid.2.2 hrest
      refine ⟨(k, v'') :: rest', ?_⟩
      rw [value?, Function.update_of_ne (Ne.symm hid.1), hk, Option.bind_some, if_neg hsame, hv'',
        Option.bind_some, hrest', Option.map_some]
  | noItems => exact ⟨_, rfl⟩
  | item value more ihvalue ihmore =>
    simp only [keys, List.mem_append, not_or] at hid
    obtain ⟨v', hv, h⟩ := Option.bind_eq_some_iff.1 h
    obtain ⟨vs, hvs, rfl⟩ := Option.map_eq_some_iff.1 h
    obtain ⟨v'', hv''⟩ := ihvalue hid.1 hv
    obtain ⟨vs', hvs'⟩ := ihmore hid.2 hvs
    exact ⟨_, by rw [value?, hv'', Option.bind_some, hvs', Option.map_some]⟩

/-- Another value in the place of a scalar that is no key makes no other difference. -/
theorem value?_update {l : Layer} {t : Tree l} {r : l.Result} {id : Nat} (hid : id ∉ t.keys)
    (h : t.value? f depth ks = some r) (v : Value) :
    t.value? (Function.update f id (some v)) depth ks =
      some (t.value (Function.update (fun i => (f i).getD .null) id v)) := by
  obtain ⟨r', hr'⟩ := exists_value?_update hid h v
  rw [hr', eq_value hr']
  congr 2
  funext i
  by_cases hi : i = id
  · rw [hi, Function.update_self, Function.update_self]
    rfl
  · rw [Function.update_of_ne hi, Function.update_of_ne hi]

end

end Tree

end ManifestMarkers.Yaml
