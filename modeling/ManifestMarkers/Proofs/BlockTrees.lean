import ManifestMarkers.Yaml.Value

/-!
# Trees of block collections

The tokens of nested block collections are read as the events of the same collections, whatever the
scalars in them are.

* A `Tree` has collections with numbers in the places of its scalars; `Leaf` is what such a number
  is written as.
* `Tree.IsRead` says what is read from the tokens of a tree, and `isRead` is that by induction on
  the tree.
* `documents_of_tree`: a stream of these tokens is one document with these events.
-/

namespace ManifestMarkers.Yaml

/-! ### Trees -/

/-- What a tree stands for. -/
inductive Layer
  /-- A node. Only a sequence can be `aligned`, which is to say at the column of its key. -/
  | node (aligned : Bool)
  /-- Pairs of a mapping, `filled` if there are any. -/
  | pairs (filled : Bool)
  /-- Items of a sequence, `filled` if there are any. -/
  | items (filled : Bool)

/-- Block collections over numbered scalars. -/
inductive Tree : Layer → Type
  | scalar (id : Nat) : Tree (.node false)
  | mapping (pairs : Tree (.pairs true)) : Tree (.node false)
  | sequence {aligned : Bool} (items : Tree (.items true)) : Tree (.node aligned)
  | noPairs : Tree (.pairs false)
  | pair {aligned filled : Bool} (key : Nat) (value : Tree (.node aligned))
      (more : Tree (.pairs filled)) : Tree (.pairs true)
  | noItems : Tree (.items false)
  | item {filled : Bool} (value : Tree (.node false)) (more : Tree (.items filled)) :
      Tree (.items true)

/-- The text and the style of a scalar, if it is written at all. -/
abbrev Leaf := Option (List Char × Style)

namespace Leaf

/-- The token of a scalar that is written. -/
def tokens : Leaf → List Token
  | some (text, style) => [.scalar text style]
  | none => []

/-- The event of a scalar. -/
def event : Leaf → Event
  | some (text, style) => .scalar {} text style
  | none => .scalar {} [] .plain

end Leaf

namespace Tree

variable (leaf : Nat → Leaf)

/-- The tokens of a tree. An aligned sequence has no start and no end. -/
def tokens : {l : Layer} → Tree l → List Token
  | _, scalar id => (leaf id).tokens
  | _, mapping pairs => .blockMappingStart :: (pairs.tokens ++ [.blockEnd])
  | .node true, sequence items => items.tokens
  | .node false, sequence items => .blockSequenceStart :: (items.tokens ++ [.blockEnd])
  | _, noPairs => []
  | _, pair key value more =>
    .key :: ((leaf key).tokens ++ .value :: (value.tokens ++ more.tokens))
  | _, noItems => []
  | _, item value more => .blockEntry :: (value.tokens ++ more.tokens)

/-- The events of a tree. -/
def events : {l : Layer} → Tree l → List Event
  | _, scalar id => [(leaf id).event]
  | _, mapping pairs => .mappingStart {} :: (pairs.events ++ [.mappingEnd])
  | _, sequence items => .sequenceStart {} :: (items.events ++ [.sequenceEnd])
  | _, noPairs => []
  | _, pair key value more => (leaf key).event :: (value.events ++ more.events)
  | _, noItems => []
  | _, item value more => value.events ++ more.events

end Tree

/-! ### Readers -/

namespace Parse

/-- The reader goes to the rest of the tokens and adds events. -/
def Leads (read : NodeReader) (p : Parse) (rest : List Token) (events : List Event) : Prop :=
  ∃ p', read p = some p' ∧ p'.tokens = rest ∧ p'.events.toList = p.events.toList ++ events

theorem Leads.bind {read next : NodeReader} {p : Parse} {middle rest : List Token}
    {events more : List Event} (h : Leads read p middle events)
    (hnext : ∀ q, q.tokens = middle → Leads next q rest more) :
    Leads (fun p => (read p).bind next) p rest (events ++ more) := by
  obtain ⟨q, hq, htokens, hevents⟩ := h
  obtain ⟨r, hr, hrest, hmore⟩ := hnext q htokens
  refine ⟨r, ?_, hrest, ?_⟩
  · dsimp only
    rw [hq]
    exact hr
  · rw [hmore, hevents, List.append_assoc]

/-- Tokens that a node starts with; an aligned sequence starts with an entry. -/
def beginsNode (aligned : Bool) : Token → Bool
  | .scalar .. | .blockMappingStart | .blockSequenceStart => true
  | .blockEntry => aligned
  | _ => false

/-- The value of a pair ends here. -/
def EndsValue (rest : List Token) : Prop :=
  rest.head? = some .key ∨ rest.head? = some .blockEnd

end Parse

namespace Tree

open Parse

variable {leaf : Nat → Leaf}

attribute [local simp] tokens events node readProperties blockMapping blockSequence
  indentlessSequence skip emit emitEmpty nextIn

/-- A node is not written, or it starts as nodes do. -/
theorem tokens_cases (leaf : Nat → Leaf) {aligned : Bool} (t : Tree (.node aligned)) :
    (t.tokens leaf = [] ∧ t.events leaf = [.scalar {} [] .plain]) ∨
      ∃ token ts, t.tokens leaf = token :: ts ∧ beginsNode aligned token = true := by
  cases t with
  | scalar id =>
    cases h : leaf id with
    | none => exact .inl ⟨by rw [tokens, h]; rfl, by rw [events, h]; rfl⟩
    | some scalar => exact .inr ⟨.scalar scalar.1 scalar.2, [], by rw [tokens, h]; rfl, rfl⟩
  | mapping pairs => exact .inr ⟨_, _, rfl, rfl⟩
  | sequence items =>
    cases aligned with
    | false => exact .inr ⟨_, _, rfl, rfl⟩
    | true =>
      cases items with
      | item value more => exact .inr ⟨_, _, rfl, rfl⟩

theorem items_tokens_cases (leaf : Nat → Leaf) {filled : Bool} (t : Tree (.items filled)) :
    t.tokens leaf = [] ∨ ∃ ts, t.tokens leaf = .blockEntry :: ts := by
  cases t with
  | noItems => exact .inl rfl
  | item value more => exact .inr ⟨_, rfl⟩

theorem pairs_tokens_cases (leaf : Nat → Leaf) {filled : Bool} (t : Tree (.pairs filled)) :
    t.tokens leaf = [] ∨ ∃ ts, t.tokens leaf = .key :: ts := by
  cases t with
  | noPairs => exact .inl rfl
  | pair key value more => exact .inr ⟨_, rfl⟩

/-- A node or its absence in front of certain tokens. -/
theorem leads_nodeUnless {aligned : Bool} {t : Tree (.node aligned)} (ends : List Token)
    {read : NodeReader} {p : Parse} {rest : List Token} (hp : p.tokens = t.tokens leaf ++ rest)
    (hends : ∀ token ∈ ends, beginsNode aligned token = false)
    (hrest : ∃ token ∈ ends, rest.head? = some token)
    (hread : t.tokens leaf ≠ [] → Leads read p rest (t.events leaf)) :
    Leads (nodeUnless ends read) p rest (t.events leaf) := by
  unfold nodeUnless
  rcases t.tokens_cases leaf with ⟨hnone, hevents⟩ | ⟨token, ts, hsome, hstarts⟩
  · obtain ⟨token, hmem, hhead⟩ := hrest
    obtain ⟨more, rfl⟩ := List.head?_eq_some_iff.1 hhead
    rw [hnone, List.nil_append] at hp
    have hnext : p.nextIn ends = true := by simpa [hp] using hmem
    refine ⟨p.emitEmpty, by simp only [hnext, if_true], hp, ?_⟩
    rw [hevents]
    simp
  · have hnext : p.nextIn ends = false := by
      have hmem : token ∉ ends := fun hmem => by
        rw [hends token hmem] at hstarts
        cases hstarts
      simpa [hp, hsome] using hmem
    obtain ⟨q, hq, hleft⟩ := hread (by simp [hsome])
    exact ⟨q, by simp only [hnext, if_neg Bool.false_ne_true, hq], hleft⟩

/-- What is read from the tokens of a tree. The fuel is more than there are tokens. -/
def IsRead (leaf : Nat → Leaf) (handles : Handles) : {l : Layer} → Tree l → Prop
  | .node aligned, t => ∀ fuel indentless (p : Parse) rest, p.tokens = t.tokens leaf ++ rest →
    p.tokens.length < fuel → t.tokens leaf ≠ [] →
    (aligned = true → indentless = true ∧ EndsValue rest) →
    Leads (node handles fuel true indentless) p rest (t.events leaf)
  | .pairs _, t => ∀ fuel room (p : Parse) rest, p.tokens = t.tokens leaf ++ .blockEnd :: rest →
    p.tokens.length ≤ fuel → p.tokens.length < room →
    Leads (blockMapping (node handles fuel true true) room) p rest (t.events leaf ++ [.mappingEnd])
  | .items _, t => ∀ fuel room (p : Parse) rest, p.tokens.length ≤ fuel → p.tokens.length < room →
    (p.tokens = t.tokens leaf ++ .blockEnd :: rest →
      Leads (blockSequence (node handles fuel true false) room) p rest
        (t.events leaf ++ [.sequenceEnd])) ∧
    (p.tokens = t.tokens leaf ++ rest → EndsValue rest →
      Leads (indentlessSequence (node handles fuel true false) room) p rest
        (t.events leaf ++ [.sequenceEnd]))

theorem isRead_scalar (handles : Handles) (id : Nat) : (scalar id).IsRead leaf handles := by
  intro fuel indentless p rest hp hfuel hne _
  obtain ⟨fuel, rfl⟩ : ∃ f, fuel = f + 1 := ⟨fuel - 1, by omega⟩
  cases hleaf : leaf id with
  | none =>
    rw [tokens, hleaf] at hne
    exact absurd rfl hne
  | some scalar =>
    obtain ⟨text, style⟩ := scalar
    rw [tokens, hleaf] at hp
    have hp : p.tokens = .scalar text style :: rest := hp
    refine ⟨p.skip.emit (.scalar {} text style), ?_, ?_, ?_⟩
    · simp [hp]
    · simp [hp]
    · simp [Leaf.event, hleaf]

theorem isRead_mapping {handles : Handles} {pairs : Tree (.pairs true)}
    (h : pairs.IsRead leaf handles) : (mapping pairs).IsRead leaf handles := by
  intro fuel indentless p rest hp hfuel _ _
  obtain ⟨fuel, rfl⟩ : ∃ f, fuel = f + 1 := ⟨fuel - 1, by omega⟩
  have hp : p.tokens = .blockMappingStart :: (pairs.tokens leaf ++ .blockEnd :: rest) := by
    simpa using hp
  let q := p.skip.emit (.mappingStart {})
  have hq : q.tokens = pairs.tokens leaf ++ .blockEnd :: rest := by simp [q, hp]
  have hlength : p.tokens.length = q.tokens.length + 1 := by rw [hp, hq, List.length_cons]
  obtain ⟨r, hr, hrest, hevents⟩ := h fuel (p.tokens.length + 1) q rest hq (by omega) (by omega)
  refine ⟨r, ?_, hrest, ?_⟩
  · rw [hlength] at hr
    simpa [hp, hq, q] using hr
  · rw [hevents]
    simp [q]

theorem isRead_sequence {handles : Handles} {aligned : Bool} {items : Tree (.items true)}
    (h : items.IsRead leaf handles) :
    (sequence items : Tree (.node aligned)).IsRead leaf handles := by
  intro fuel indentless p rest hp hfuel _ haligned
  obtain ⟨fuel, rfl⟩ : ∃ f, fuel = f + 1 := ⟨fuel - 1, by omega⟩
  cases aligned with
  | false =>
    have hp : p.tokens = .blockSequenceStart :: (items.tokens leaf ++ .blockEnd :: rest) := by
      simpa using hp
    let q := p.skip.emit (.sequenceStart {})
    have hq : q.tokens = items.tokens leaf ++ .blockEnd :: rest := by simp [q, hp]
    have hlength : p.tokens.length = q.tokens.length + 1 := by rw [hp, hq, List.length_cons]
    obtain ⟨r, hr, hrest, hevents⟩ :=
      (h fuel (p.tokens.length + 1) q rest (by omega) (by omega)).1 hq
    refine ⟨r, ?_, hrest, ?_⟩
    · rw [hlength] at hr
      simpa [hp, hq, q] using hr
    · rw [hevents]
      simp [q]
  | true =>
    obtain ⟨rfl, hends⟩ := haligned rfl
    cases items with
    | item value more =>
      let q := p.emit (.sequenceStart {})
      have hq : q.tokens = (item value more).tokens leaf ++ rest := hp
      obtain ⟨r, hr, hrest, hevents⟩ :=
        (h fuel (q.tokens.length + 1) q rest (by exact Nat.le_of_lt_succ hfuel)
          (Nat.lt_succ_self _)).2 hq hends
      have hp : p.tokens = .blockEntry :: (value.tokens leaf ++ more.tokens leaf ++ rest) := hp
      refine ⟨r, ?_, hrest, ?_⟩
      · simpa [hp, q] using hr
      · rw [hevents]
        simp [q]

theorem isRead_pair {handles : Handles} {aligned filled : Bool} (key : Nat)
    {value : Tree (.node aligned)} {more : Tree (.pairs filled)}
    (hvalue : value.IsRead leaf handles) (hmore : more.IsRead leaf handles) :
    (pair key value more).IsRead leaf handles := by
  intro fuel room p rest hp hfuel hroom
  obtain ⟨room, rfl⟩ : ∃ r, room = r + 1 := ⟨room - 1, by omega⟩
  let left := more.tokens leaf ++ .blockEnd :: rest
  have hp : p.tokens = .key ::
      ((scalar key).tokens leaf ++ .value :: (value.tokens leaf ++ left)) := by
    simpa [left] using hp
  have hskip : p.skip.tokens =
      (scalar key).tokens leaf ++ .value :: (value.tokens leaf ++ left) := by simp [hp]
  have hlength : p.tokens.length = p.skip.tokens.length + 1 := by
    rw [hp, hskip, List.length_cons]
  have hends : EndsValue left := by
    rcases more.pairs_tokens_cases leaf with hnone | ⟨ts, hsome⟩
    · exact .inr (by simp [left, hnone])
    · exact .inl (by simp [left, hsome])
  have hkey := leads_nodeUnless (t := scalar key) [.key, .value, .blockEnd] hskip (by decide)
    ⟨.value, by simp, rfl⟩ fun hne =>
      isRead_scalar handles key fuel true p.skip _ hskip (by omega) hne nofun
  have hsize : left.length < p.skip.tokens.length ∧
      (.value :: (value.tokens leaf ++ left) : List Token).length ≤ p.skip.tokens.length := by
    rw [hskip]
    simp only [List.length_append, List.length_cons]
    omega
  have hread (q : Parse) (hq : q.tokens = .value :: (value.tokens leaf ++ left)) :
      Leads (blockValue (node handles fuel true true)) q left (value.events leaf) := by
    have htokens : q.skip.tokens = value.tokens leaf ++ left := by simp [hq]
    have hlt : q.skip.tokens.length < fuel := by
      rw [htokens]
      rw [List.length_cons] at hsize
      omega
    obtain ⟨r, hr, hrest⟩ := leads_nodeUnless [.key, .value, .blockEnd] htokens
      (by cases aligned <;> decide)
      (by rcases hends with h | h <;> exact ⟨_, by simp, h⟩) fun hne =>
        hvalue fuel true q.skip left htokens hlt hne fun _ => ⟨rfl, hends⟩
    exact ⟨r, by rw [blockValue, hq]; exact hr, hrest⟩
  obtain ⟨r, hr, hrest, hevents⟩ := (hkey.bind hread).bind fun q hq =>
    hmore fuel room q rest hq (by rw [hq]; omega) (by rw [hq]; omega)
  refine ⟨r, ?_, hrest, ?_⟩
  · rw [blockMapping, hp]
    exact hr
  · rw [hevents]
    simp

theorem isRead_item {handles : Handles} {filled : Bool} {value : Tree (.node false)}
    {more : Tree (.items filled)} (hvalue : value.IsRead leaf handles)
    (hmore : more.IsRead leaf handles) : (item value more).IsRead leaf handles := by
  intro fuel room p rest hfuel hroom
  obtain ⟨room, rfl⟩ : ∃ r, room = r + 1 := ⟨room - 1, by omega⟩
  -- the item in front of what is left of the sequence
  have hread (ends : List Token) {left : List Token}
      (hp : p.tokens = .blockEntry :: (value.tokens leaf ++ left))
      (hends : ∀ token ∈ ends, beginsNode false token = false)
      (hleft : ∃ token ∈ ends, left.head? = some token) :
      Leads (nodeUnless ends (node handles fuel true false)) p.skip left (value.events leaf) ∧
        left.length < p.tokens.length := by
    have htokens : p.skip.tokens = value.tokens leaf ++ left := by simp [hp]
    have hlt : p.skip.tokens.length < p.tokens.length := by
      rw [hp, htokens]
      exact Nat.lt_succ_self _
    refine ⟨leads_nodeUnless ends htokens hends hleft fun hne =>
      hvalue fuel false p.skip left htokens (by omega) hne nofun, ?_⟩
    rw [hp, List.length_cons, List.length_append]
    omega
  refine ⟨fun hp => ?_, fun hp hends => ?_⟩
  · have hp : p.tokens = .blockEntry ::
        (value.tokens leaf ++ (more.tokens leaf ++ .blockEnd :: rest)) := by
      simpa using hp
    obtain ⟨hitem, hlt⟩ := hread [.blockEntry, .blockEnd] hp (by decide) (by
      rcases more.items_tokens_cases leaf with hnone | ⟨ts, hsome⟩
      · exact ⟨.blockEnd, by simp, by simp [hnone]⟩
      · exact ⟨.blockEntry, by simp, by simp [hsome]⟩)
    obtain ⟨r, hr, hrest, hevents⟩ := hitem.bind fun q hq =>
      (hmore fuel room q rest (by rw [hq]; omega) (by rw [hq]; omega)).1 hq
    refine ⟨r, ?_, hrest, ?_⟩
    · rw [blockSequence, hp]
      exact hr
    · rw [hevents]
      simp
  · have hp : p.tokens = .blockEntry :: (value.tokens leaf ++ (more.tokens leaf ++ rest)) := by
      simpa using hp
    obtain ⟨hitem, hlt⟩ := hread [.blockEntry, .key, .value, .blockEnd] hp (by decide) (by
      rcases more.items_tokens_cases leaf with hnone | ⟨ts, hsome⟩
      · rw [hnone, List.nil_append]
        rcases hends with h | h <;> exact ⟨_, by simp, h⟩
      · exact ⟨.blockEntry, by simp, by simp [hsome]⟩)
    obtain ⟨r, hr, hrest, hevents⟩ := hitem.bind fun q hq =>
      (hmore fuel room q rest (by rw [hq]; omega) (by rw [hq]; omega)).2 hq hends
    refine ⟨r, ?_, hrest, ?_⟩
    · rw [indentlessSequence, hp]
      exact hr
    · rw [hevents]
      simp

/-- The tokens of a tree are read as its events. The induction is on the tree. -/
theorem isRead (handles : Handles) {l : Layer} (t : Tree l) : t.IsRead leaf handles := by
  induction t with
  | scalar id => exact isRead_scalar handles id
  | mapping pairs ih => exact isRead_mapping ih
  | sequence items ih => exact isRead_sequence ih
  | noPairs =>
    intro fuel room p rest hp hfuel hroom
    obtain ⟨room, rfl⟩ : ∃ r, room = r + 1 := ⟨room - 1, by omega⟩
    have hp : p.tokens = .blockEnd :: rest := hp
    exact ⟨p.skip.emit .mappingEnd, by simp [hp], by simp [hp], by simp⟩
  | pair key value more ihvalue ihmore => exact isRead_pair key ihvalue ihmore
  | noItems =>
    intro fuel room p rest hfuel hroom
    obtain ⟨room, rfl⟩ : ∃ r, room = r + 1 := ⟨room - 1, by omega⟩
    refine ⟨fun hp => ?_, fun hp hends => ?_⟩
    · have hp : p.tokens = .blockEnd :: rest := hp
      exact ⟨p.skip.emit .sequenceEnd, by simp [hp], by simp [hp], by simp⟩
    · have hp : p.tokens = rest := hp
      refine ⟨p.emit .sequenceEnd, ?_, hp, by simp⟩
      rcases hends with hhead | hhead
      all_goals
        obtain ⟨more, rfl⟩ := List.head?_eq_some_iff.1 hhead
        simp [hp]
  | item value more ihvalue ihmore => exact isRead_item ihvalue ihmore

/-- A stream with the tokens of a collection is one document with its events. -/
theorem documents_of_tree {t : Tree (.node false)} {token : Token} {ts : List Token}
    (ht : t.tokens leaf = token :: ts)
    (htoken : token = .blockMappingStart ∨ token = .blockSequenceStart) (fuel : Nat) :
    documents (fuel + 2) true (t.tokens leaf) = some [t.events leaf] := by
  have hread : t.IsRead leaf defaultHandles := isRead defaultHandles t
  obtain ⟨p, hp, hrest, hevents⟩ := hread ((t.tokens leaf).length + 1) false
    { tokens := t.tokens leaf } [] (by simp) (Nat.lt_succ_self _) (by simp [ht]) nofun
  have hdocument : document true (t.tokens leaf) = some (t.events leaf, []) := by
    rw [ht] at hp ⊢
    have hnode : document true (token :: ts) =
        (node defaultHandles ((token :: ts).length + 1) true false { tokens := token :: ts }).map
          fun p => (p.events.toList, skipEnd p.tokens) := by
      rcases htoken with rfl | rfl <;> rfl
    rw [hnode, hp, Option.map_some, hevents, hrest]
    rfl
  rw [documents, if_pos rfl, ht]
  dsimp only
  rw [← ht, hdocument, if_neg (by simp [ht])]
  rfl

end Tree

end ManifestMarkers.Yaml
