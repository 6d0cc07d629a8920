import Mathlib.Logic.Relation
import ManifestMarkers.Proofs.CheckedManifests

/-!
# The calls of the readers

The readers of the builder call each other, and the reader of a collection calls itself for its next
round. No call goes on forever, whatever the lines are: every call has less in front of it than the
one that makes it.

* `Call.tree` has the calls of a reader in the order in which they are made. The readers do what
  their trees say (`Call.run_succ`), and `Call.shape` says once what a tree can look like.
* `Call.measure` counts the lines that are left and the text on them, and then the kind of the call.
  It is smaller for every call that is made (`measure_lt_of_makes`), so that the readers end, and
  with the same result for every fuel above the measure (`run_eq_result`).
* `suffix_of_readsTo`: when a call has ended, the lines that were read in its course are behind it.
* `builder_ends` puts this together, and adds block scalars, documents and the reader with a cursor.
-/

namespace ManifestMarkers.Manifest

/-! ### Calls and trees of calls -/

/-- A reader with what it is called with. -/
inductive Call
  | node (indent : Nat) (b : Build)
  | pairs (mapping indent : Nat) (last : Option Nat) (b : Build)
  | value (indent : Nat) (line : Line) (key : Nat) (keyText rest : List Char) (b : Build)
  | items (sequence indent : Nat) (last : Option Nat) (b : Build)
  | nested (indent : Nat) (allowSequence : Bool) (number column : Nat) (b : Build)

/-- What a reader does: it ends, or it makes a call and goes on with what that has read. A fault of
the call is its own. -/
inductive CallTree
  | done (result : Except Fault (Nat × Build))
  | call (c : Call) (next : Nat × Build → CallTree)

namespace CallTree

/-- The result, with an answer to each call. -/
def eval (answer : Call → Except Fault (Nat × Build)) : CallTree → Except Fault (Nat × Build)
  | done result => result
  | call c next => match answer c with
    | .error e => .error e
    | .ok read => (next read).eval answer

/-- The calls that are made with these answers. -/
inductive Makes (answer : Call → Except Fault (Nat × Build)) : CallTree → Call → Prop
  | here (c : Call) (next : Nat × Build → CallTree) : Makes answer (call c next) c
  | later {c c' : Call} {next : Nat × Build → CallTree} {read : Nat × Build}
      (hread : answer c = .ok read) (h : Makes answer (next read) c') :
      Makes answer (call c next) c'

section

variable {answer answer' : Call → Except Fault (Nat × Build)} {t : CallTree}

/-- Only the answers to calls that are made matter. -/
theorem eval_congr (h : ∀ c, t.Makes answer c → answer c = answer' c) :
    t.eval answer = t.eval answer' := by
  induction t with
  | done result => rfl
  | call c next ih =>
    rw [eval, eval, ← h c (.here c next)]
    cases hread : answer c with
    | error e => rfl
    | ok read => exact ih read fun c' hc' => h c' (.later hread hc')

/-- What has been read behind a call has been read with its result. -/
theorem exists_of_eval_call {c : Call} {next : Nat × Build → CallTree} {read : Nat × Build}
    (h : (call c next).eval answer = .ok read) :
    ∃ first, answer c = .ok first ∧ (next first).eval answer = .ok read := by
  rw [eval] at h
  cases hc : answer c with
  | error e =>
    rw [hc] at h
    cases h
  | ok first =>
    rw [hc] at h
    exact ⟨first, rfl, h⟩

/-- With more answers nothing changes that has been read. -/
theorem eval_mono (h : ∀ c read, answer c = .ok read → answer' c = .ok read) {read : Nat × Build}
    (ht : t.eval answer = .ok read) : t.eval answer' = .ok read := by
  induction t with
  | done result => exact ht
  | call c next ih =>
    obtain ⟨first, hc, hnext⟩ := exists_of_eval_call ht
    rw [eval, h c first hc]
    exact ih first hnext

theorem Makes.mono (h : ∀ c read, answer c = .ok read → answer' c = .ok read) {c : Call}
    (ht : t.Makes answer c) : t.Makes answer' c := by
  induction ht with
  | here c next => exact .here c next
  | later hread _ ih => exact .later (h _ _ hread) ih

end

end CallTree

namespace Call

/-- What is there when the reader is called. -/
def build : Call → Build
  | .node _ b | .pairs _ _ _ b | .value _ _ _ _ _ b | .items _ _ _ b | .nested _ _ _ _ b => b

/-- The readers. -/
def run (fuel : Nat) : Call → Except Fault (Nat × Build)
  | .node indent b => readNode fuel indent b
  | .pairs mapping indent last b => readPairs fuel mapping indent last b
  | .value indent line key keyText rest b => readValue fuel indent line key keyText rest b
  | .items sequence indent last b => readItems fuel sequence indent last b
  | .nested indent allowSequence number column b =>
    readNested fuel indent allowSequence number column b

/-- Leave all to one call. -/
def pass (c : Call) : CallTree := .call c fun read => .done (.ok read)

/-- The calls of a reader. -/
def tree : Call → CallTree
  | .node indent b => match b.lines with
    | [] => .done (.error .undecodable)
    | line :: _ =>
      if isItem line.text then
        pass (.items b.nodes.size indent none (b.push (emptyCollection .sequence line indent)).2)
      else if (splitKey? line.text).isSome then
        pass (.pairs b.nodes.size indent none (b.push (emptyCollection .mapping line indent)).2)
      else .done (readScalarLine indent line b)
  | .pairs mapping indent last b => match b.toContent.lines with
    | [] => .done (.ok (mapping, b.toContent.withFoot last indent))
    | line :: _ =>
      if line.indent < indent then .done (.ok (mapping, b.toContent.withFoot last indent))
      else if indent < line.indent then .done (layoutFault line.number .unexpectedIndentation)
      else match splitKey? line.text with
        | none =>
          if isItem line.text then .done (.ok (mapping, b.toContent.withFoot last indent))
          else .done (layoutFault line.number .expectedKey)
        | some (keyText, rest) => match decodeScalar keyText line.number with
          | .error e => .done (.error e)
          | .ok keyValue =>
            .call (.value indent line b.nodes.size keyText rest
              (b.toContent.addKey line indent keyText keyValue)) fun read =>
                pass (.pairs mapping indent (some b.nodes.size)
                  (read.2.addContent mapping [b.nodes.size, read.1]))
  | .value indent line key keyText rest b =>
    if (splitValue rest).text.isEmpty then
      .call (.nested indent true line.number (columnBehindKey line keyText)
        (b.setTrail key line (splitValue rest))) fun read =>
          .done (.ok (read.1, read.2.setProperties read.1 (splitValue rest)))
    else
      .done ((scalarNode (splitValue rest) line indent (valueColumn line rest) b.lines).bind
        fun read => .ok (b.nodes.size, b.addScalar read.1 read.2))
  | .items sequence indent last b => match b.toContent.lines with
    | [] => .done (.ok (sequence, b.toContent.withFoot last indent))
    | line :: lines =>
      if line.indent < indent ∨ line.indent = indent ∧ isItem line.text = false then
        .done (.ok (sequence, b.toContent.withFoot last indent))
      else if indent < line.indent then .done (layoutFault line.number .unexpectedIndentation)
      else if (dashValue line).text.isEmpty then
        .call (.nested indent false line.number (dashIndent line indent + 1)
          b.toContent.dropLine.clearPending) fun read =>
            pass (.items sequence indent (some read.1)
              ((read.2.setItem b.toContent read.1 line (dashValue line)).addContent sequence
                [read.1]))
      else
        .call (.node (dashIndent line indent)
          (b.toContent.behindDash line lines (dashIndent line indent))) fun read =>
            pass (.items sequence indent (some read.1) (read.2.addContent sequence [read.1]))
  | .nested indent allowSequence number column b => match b.toContent.lines with
    | line :: _ =>
      if indent < line.indent || (allowSequence && line.indent == indent && isItem line.text) then
        pass (.node line.indent b.toContent)
      else .done (.ok (b.toContent.push (missingNode number column)))
    | [] => .done (.ok (b.toContent.push (missingNode number column)))

theorem eval_pass (answer : Call → Except Fault (Nat × Build)) (c : Call) :
    (pass c).eval answer = answer c := by
  rw [pass, CallTree.eval]
  cases answer c with
  | error e => rfl
  | ok read => rfl

/-- A call comes before what is done with its result. -/
theorem eval_call (answer : Call → Except Fault (Nat × Build)) (c : Call)
    (next : Nat × Build → CallTree) :
    (CallTree.call c next).eval answer = (answer c).bind fun read => (next read).eval answer := by
  rw [CallTree.eval]
  cases answer c with
  | error e => rfl
  | ok read => rfl

/-! ### The readers follow their trees -/

section

variable (fuel indent : Nat) (b : Build)

theorem readNode_succ :
    readNode (fuel + 1) indent b = (tree (.node indent b)).eval (run fuel) := by
  rw [readNode, tree]
  cases b.lines with
  | nil => rfl
  | cons line lines =>
    dsimp only
    by_cases hitem : isItem line.text = true
    · rw [if_pos hitem, if_pos hitem, eval_pass]
      rfl
    · rw [if_neg hitem, if_neg hitem]
      by_cases hkey : (splitKey? line.text).isSome = true
      · rw [if_pos hkey, if_pos hkey, eval_pass]
        rfl
      · rw [if_neg hkey, if_neg hkey]
        rfl

theorem readPairs_succ (mapping : Nat) (last : Option Nat) :
    readPairs (fuel + 1) mapping indent last b =
      (tree (.pairs mapping indent last b)).eval (run fuel) := by
  rw [tree]
  cases hlines : b.toContent.lines with
  | nil => exact Checked.readPairs_eq_close (by simp [hlines])
  | cons line lines =>
    dsimp only
    by_cases hless : line.indent < indent
    · rw [if_pos hless]
      exact Checked.readPairs_eq_close (by simp [hlines, hless])
    rw [if_neg hless]
    by_cases hmore : indent < line.indent
    · rw [if_pos hmore]
      exact Checked.readPairs_eq_error hlines (.inl ⟨hmore, rfl⟩)
    have hindent : line.indent = indent := by omega
    rw [if_neg hmore]
    cases hkey : splitKey? line.text with
    | none =>
      dsimp only
      cases hitem : isItem line.text with
      | true => exact Checked.readPairs_eq_close (by simp [hlines, hindent, hkey, hitem])
      | false => exact Checked.readPairs_eq_error hlines (.inr ⟨hindent, .inl ⟨hkey, hitem, rfl⟩⟩)
    | some parts =>
      obtain ⟨keyText, rest⟩ := parts
      dsimp only
      cases hvalue : decodeScalar keyText line.number with
      | error e =>
        exact Checked.readPairs_eq_error hlines
          (.inr ⟨hindent, .inr ⟨keyText, rest, hkey, hvalue⟩⟩)
      | ok keyValue =>
        rw [Checked.readPairs_eq_bind hlines hindent hkey hvalue, eval_call]
        simp only [eval_pass]
        rfl

theorem readValue_succ (line : Line) (key : Nat) (keyText rest : List Char) :
    readValue (fuel + 1) indent line key keyText rest b =
      (tree (.value indent line key keyText rest b)).eval (run fuel) := by
  rw [tree]
  by_cases hempty : (splitValue rest).text.isEmpty = true
  · rw [if_pos hempty, Checked.readValue_eq_bind_nested hempty, eval_call]
    rfl
  · rw [if_neg hempty, Checked.readValue_eq_bind_inline hempty]
    rfl

theorem readItems_succ (sequence : Nat) (last : Option Nat) :
    readItems (fuel + 1) sequence indent last b =
      (tree (.items sequence indent last b)).eval (run fuel) := by
  rw [tree]
  cases hlines : b.toContent.lines with
  | nil => exact Checked.readItems_eq_close (by simp [hlines])
  | cons line lines =>
    dsimp only
    by_cases hend : line.indent < indent ∨ line.indent = indent ∧ isItem line.text = false
    · rw [if_pos hend]
      exact Checked.readItems_eq_close (by simpa [hlines] using hend)
    rw [if_neg hend]
    by_cases hmore : indent < line.indent
    · rw [if_pos hmore]
      exact Checked.readItems_eq_error hlines hmore
    obtain ⟨hless, hno⟩ := not_or.1 hend
    have hindent : line.indent = indent := by omega
    have hitem : isItem line.text = true := by simpa [hindent] using hno
    rw [if_neg hmore]
    by_cases hempty : (dashValue line).text.isEmpty = true
    · rw [if_pos hempty, Checked.readItems_eq_bind_nested hlines hindent hitem hempty, eval_call]
      simp only [eval_pass]
      rfl
    · rw [if_neg hempty, Checked.readItems_eq_bind_compact hlines hindent hitem hempty, eval_call]
      simp only [eval_pass]
      rfl

theorem readNested_succ (allowSequence : Bool) (number column : Nat) :
    readNested (fuel + 1) indent allowSequence number column b =
      (tree (.nested indent allowSequence number column b)).eval (run fuel) := by
  rw [readNested, tree]
  cases b.toContent.lines with
  | nil => rfl
  | cons line lines =>
    dsimp only
    split
    · rw [eval_pass]
      rfl
    · rfl

end

/-- With one more step a reader does what its tree says. -/
theorem run_succ (fuel : Nat) (c : Call) : c.run (fuel + 1) = c.tree.eval (run fuel) := by
  cases c with
  | node indent b => exact readNode_succ fuel indent b
  | pairs mapping indent last b => exact readPairs_succ fuel indent b mapping last
  | value indent line key keyText rest b => exact readValue_succ fuel indent b line key keyText rest
  | items sequence indent last b => exact readItems_succ fuel indent b sequence last
  | nested indent allowSequence number column b =>
    exact readNested_succ fuel indent b allowSequence number column

/-! ### The measure of a call -/

/-- The weight of what is left, and then the kind of the call. -/
def measure : Call → Nat
  | .pairs _ _ _ b | .items _ _ _ b => 4 * linesWeight b.lines + 1
  | .node _ b => 4 * linesWeight b.lines + 2
  | .nested _ _ _ _ b => 4 * linesWeight b.lines + 3
  | .value _ _ _ _ _ b => 4 * linesWeight b.lines + 4

/-- A node is read at a content line with its indentation. -/
def IsPlaced : Call → Prop
  | .node indent b => b.IsAt indent fun _ => True
  | _ => True

/-- The lines of which the last ones are left when the call has ended: a node uses up its line. -/
def ahead : Call → List Line
  | .node _ b => b.lines.tail
  | c => c.build.lines

/-- A call leaves the last of the lines that it may leave. -/
theorem suffix_of_run {fuel : Nat} {c : Call} {id : Nat} {b : Build} (hplaced : c.IsPlaced)
    (h : c.run fuel = .ok (id, b)) : b.lines <:+ c.ahead := by
  cases c with
  | node indent b' => exact (suffix_of_reads ((traces fuel).node h)).2 hplaced
  | pairs mapping indent last b' => exact (suffix_of_reads ((traces fuel).pairs h).2).1
  | value indent line key keyText rest b' => exact suffix_of_readsValue ((traces fuel).value h)
  | items sequence indent last b' => exact (suffix_of_reads ((traces fuel).items h).2).1
  | nested indent allowSequence number column b' =>
    exact (suffix_of_reads ((traces fuel).nested h)).1

/-- What a reader can do. -/
inductive Shape (c : Call) : Prop
  /-- It ends. -/
  | ends {result : Except Fault (Nat × Build)} (htree : c.tree = .done result)
  /-- It makes one call, and then changes nodes at most. -/
  | hands {c' : Call} {finish : Nat × Build → Nat × Build}
      (htree : c.tree = .call c' fun read => .done (.ok (finish read)))
      (hplaced : c'.IsPlaced) (hless : c'.measure < c.measure)
      (hkept : ∀ read, (finish read).2.lines = read.2.lines)
  /-- It makes one call, and then another one with the lines that are left. -/
  | rounds {c' : Call} {next : Nat × Build → Call}
      (htree : c.tree = .call c' fun read => pass (next read))
      (hplaced : c'.IsPlaced) (hless : c'.measure < c.measure)
      (hnext : ∀ read : Nat × Build, read.2.lines <:+ c'.ahead →
        (next read).IsPlaced ∧ (next read).measure < c.measure)
      (hkept : ∀ read, (next read).ahead = read.2.lines)

section

variable {b : Build} {line : Line} {lines : List Line}

/-- The lines behind the next content line weigh less than all that are left. -/
theorem linesWeight_behind (hlines : b.toContent.lines = line :: lines) :
    linesWeight lines + 2 ≤ linesWeight b.lines := by
  have htail := linesWeight_tail line (List.suffix_refl lines)
  have hcontent := linesWeight_le_of_suffix b.toContent_suffix
  rw [hlines] at hcontent
  omega

theorem lines_addKey (hlines : b.toContent.lines = line :: lines) (indent : Nat)
    (keyText keyValue : List Char) :
    (b.toContent.addKey line indent keyText keyValue).lines = lines := by
  show b.toContent.lines.drop 1 = lines
  rw [hlines]
  rfl

theorem lines_dropLine (hlines : b.toContent.lines = line :: lines) :
    b.toContent.dropLine.clearPending.lines = lines := by
  show b.toContent.lines.drop 1 = lines
  rw [hlines]
  rfl

theorem tree_pair {mapping indent : Nat} {last : Option Nat} {keyText rest keyValue : List Char}
    (hlines : b.toContent.lines = line :: lines) (hindent : line.indent = indent)
    (hkey : splitKey? line.text = some (keyText, rest))
    (hvalue : decodeScalar keyText line.number = .ok keyValue) :
    tree (.pairs mapping indent last b) =
      .call (.value indent line b.nodes.size keyText rest
        (b.toContent.addKey line indent keyText keyValue)) fun read =>
          pass (.pairs mapping indent (some b.nodes.size)
            (read.2.addContent mapping [b.nodes.size, read.1])) := by
  rw [tree, hlines]
  dsimp only
  rw [if_neg (by omega), if_neg (by omega), hkey]
  dsimp only
  rw [hvalue]

theorem tree_nestedItem {sequence indent : Nat} {last : Option Nat}
    (hlines : b.toContent.lines = line :: lines) (hindent : line.indent = indent)
    (hitem : isItem line.text = true) (hempty : (dashValue line).text.isEmpty = true) :
    tree (.items sequence indent last b) =
      .call (.nested indent false line.number (dashIndent line indent + 1)
        b.toContent.dropLine.clearPending) fun read =>
          pass (.items sequence indent (some read.1)
            ((read.2.setItem b.toContent read.1 line (dashValue line)).addContent sequence
              [read.1])) := by
  rw [tree, hlines]
  dsimp only
  rw [if_neg (by simp [hindent, hitem]), if_neg (by omega), if_pos hempty]

theorem tree_compactItem {sequence indent : Nat} {last : Option Nat}
    (hlines : b.toContent.lines = line :: lines) (hindent : line.indent = indent)
    (hitem : isItem line.text = true) (hempty : ¬ (dashValue line).text.isEmpty = true) :
    tree (.items sequence indent last b) =
      .call (.node (dashIndent line indent)
        (b.toContent.behindDash line lines (dashIndent line indent))) fun read =>
          pass (.items sequence indent (some read.1) (read.2.addContent sequence [read.1])) := by
  rw [tree, hlines]
  dsimp only
  rw [if_neg (by simp [hindent, hitem]), if_neg (by omega), if_neg hempty]

/-- What stands behind the dash of an item is content of the same line. -/
theorem isAt_behindDash (hlines : b.toContent.lines = line :: lines) (indent : Nat) :
    (b.toContent.behindDash line lines indent).IsAt indent fun _ => True := by
  have hkind : line.kind = .content := Build.kind_of_collect (Prod.ext rfl hlines)
  exact ⟨_, lines, rfl, hkind, rfl, trivial⟩

theorem shape_node (indent : Nat) (b : Build) : (Call.node indent b).Shape := by
  have hless (kind : NodeKind) (line : Line) :
      4 * linesWeight (b.push (emptyCollection kind line indent)).2.lines + 1 <
        4 * linesWeight b.lines + 2 := Nat.lt_succ_self _
  cases hlines : b.lines with
  | nil => exact .ends (by rw [tree, hlines])
  | cons line lines =>
    by_cases hitem : isItem line.text = true
    · have htree : tree (.node indent b) = pass (.items b.nodes.size indent none
          (b.push (emptyCollection .sequence line indent)).2) := by
        rw [tree, hlines]
        exact if_pos hitem
      exact .hands htree trivial (hless .sequence line) fun _ => rfl
    by_cases hkey : (splitKey? line.text).isSome = true
    · have htree : tree (.node indent b) = pass (.pairs b.nodes.size indent none
          (b.push (emptyCollection .mapping line indent)).2) := by
        rw [tree, hlines]
        dsimp only
        rw [if_neg hitem, if_pos hkey]
      exact .hands htree trivial (hless .mapping line) fun _ => rfl
    · have htree : tree (.node indent b) = .done (readScalarLine indent line b) := by
        rw [tree, hlines]
        dsimp only
        rw [if_neg hitem, if_neg hkey]
      exact .ends htree

/-- The reader of a mapping ends, or is at a pair. -/
theorem done_or_pair (mapping indent : Nat) (last : Option Nat) (b : Build) :
    (∃ result, tree (.pairs mapping indent last b) = .done result) ∨
      ∃ line lines keyText rest keyValue, b.toContent.lines = line :: lines ∧
        line.indent = indent ∧ splitKey? line.text = some (keyText, rest) ∧
        decodeScalar keyText line.number = .ok keyValue := by
  rw [tree]
  split
  · exact .inl ⟨_, rfl⟩
  · next line lines hlines =>
    split
    · exact .inl ⟨_, rfl⟩
    · split
      · exact .inl ⟨_, rfl⟩
      · split
        · split <;> exact .inl ⟨_, rfl⟩
        · next keyText rest hkey =>
          split
          · exact .inl ⟨_, rfl⟩
          · next keyValue hvalue =>
            exact .inr ⟨line, lines, keyText, rest, keyValue, hlines, by omega, hkey, hvalue⟩

/-- The reader of a sequence ends, or is at an item. -/
theorem done_or_item (sequence indent : Nat) (last : Option Nat) (b : Build) :
    (∃ result, tree (.items sequence indent last b) = .done result) ∨
      ∃ line lines, b.toContent.lines = line :: lines ∧ line.indent = indent ∧
        isItem line.text = true := by
  rw [tree]
  split
  · exact .inl ⟨_, rfl⟩
  · next line lines hlines =>
    split
    · exact .inl ⟨_, rfl⟩
    · next hend =>
      split
      · exact .inl ⟨_, rfl⟩
      · obtain ⟨hless, hno⟩ := not_or.1 hend
        have hindent : line.indent = indent := by omega
        exact .inr ⟨line, lines, hlines, hindent, by simpa [hindent] using hno⟩

/-- A pair takes its line, and the next round has what its value leaves. -/
theorem shape_pairs (mapping indent : Nat) (last : Option Nat) (b : Build) :
    (Call.pairs mapping indent last b).Shape := by
  rcases done_or_pair mapping indent last b with ⟨result, htree⟩ |
    ⟨line, lines, keyText, rest, keyValue, hlines, hindent, hkey, hvalue⟩
  · exact .ends htree
  have hweight := linesWeight_behind hlines
  have hkeyed := lines_addKey hlines indent keyText keyValue
  refine .rounds (tree_pair hlines hindent hkey hvalue) trivial ?_ (fun read hread => ⟨trivial, ?_⟩)
    fun read => rfl
  · rw [measure, measure, hkeyed]
    omega
  · have hleft : linesWeight read.2.lines ≤ linesWeight lines := by
      rw [← hkeyed]
      exact linesWeight_le_of_suffix hread
    show 4 * linesWeight read.2.lines + 1 < 4 * linesWeight b.lines + 1
    omega

/-- An item takes its line, or is read again from behind its dash, where there is less text. -/
theorem shape_items (sequence indent : Nat) (last : Option Nat) (b : Build) :
    (Call.items sequence indent last b).Shape := by
  rcases done_or_item sequence indent last b with ⟨result, htree⟩ |
    ⟨line, lines, hlines, hindent, hitem⟩
  · exact .ends htree
  have hweight := linesWeight_behind hlines
  have hround {read : Nat × Build} (hread : read.2.lines <:+ lines) :
      4 * linesWeight read.2.lines + 1 < 4 * linesWeight b.lines + 1 := by
    have hleft := linesWeight_le_of_suffix hread
    omega
  by_cases hempty : (dashValue line).text.isEmpty = true
  · have hbelow := lines_dropLine hlines
    refine .rounds (tree_nestedItem hlines hindent hitem hempty) trivial ?_
      (fun read hread => ⟨trivial, hround ?_⟩) fun read => rfl
    · rw [measure, measure, hbelow]
      omega
    · rw [← hbelow]
      exact hread
  · have hplaced := isAt_behindDash hlines (dashIndent line indent)
    have hdash := linesWeight_dash hitem lines (dashIndent line indent)
    have hcontent := linesWeight_le_of_suffix b.toContent_suffix
    rw [hlines] at hcontent
    refine .rounds (tree_compactItem hlines hindent hitem hempty) hplaced ?_
      (fun read hread => ⟨trivial, hround hread⟩) fun read => rfl
    show 4 * linesWeight (_ :: lines) + 2 < 4 * linesWeight b.lines + 1
    omega

theorem shape_value (indent : Nat) (line : Line) (key : Nat) (keyText rest : List Char)
    (b : Build) : (Call.value indent line key keyText rest b).Shape := by
  by_cases hempty : (splitValue rest).text.isEmpty = true
  · have htree : tree (.value indent line key keyText rest b) = _ := if_pos hempty
    exact .hands htree trivial (Nat.lt_succ_self _) fun read => rfl
  · have htree : tree (.value indent line key keyText rest b) = _ := if_neg hempty
    exact .ends htree

theorem shape_nested (indent : Nat) (allowSequence : Bool) (number column : Nat) (b : Build) :
    (Call.nested indent allowSequence number column b).Shape := by
  have hcontent := linesWeight_le_of_suffix b.toContent_suffix
  cases hlines : b.toContent.lines with
  | nil => exact .ends (by rw [tree, hlines])
  | cons line lines =>
    by_cases hdeeper : (decide (indent < line.indent) ||
        (allowSequence && line.indent == indent && isItem line.text)) = true
    · have htree : tree (.nested indent allowSequence number column b) =
          pass (.node line.indent b.toContent) := by
        rw [tree, hlines]
        exact if_pos hdeeper
      refine .hands htree (Build.isAt_toContent hlines) ?_ fun read => rfl
      rw [measure, measure]
      omega
    · have htree : tree (.nested indent allowSequence number column b) =
          .done (.ok (b.toContent.push (missingNode number column))) := by
        rw [tree, hlines]
        exact if_neg hdeeper
      exact .ends htree

/-- Every reader ends or makes smaller calls, whatever the lines are. -/
theorem shape (c : Call) : c.Shape := by
  cases c with
  | node indent b => exact shape_node indent b
  | pairs mapping indent last b => exact shape_pairs mapping indent last b
  | value indent line key keyText rest b => exact shape_value indent line key keyText rest b
  | items sequence indent last b => exact shape_items sequence indent last b
  | nested indent allowSequence number column b =>
    exact shape_nested indent allowSequence number column b

end

/-! ### The readers end -/

/-- Answers to calls that leave the last of the lines, as the readers do. -/
def IsForward (answer : Call → Except Fault (Nat × Build)) : Prop :=
  ∀ c id b, c.IsPlaced → answer c = .ok (id, b) → b.lines <:+ c.ahead

theorem isForward_run (fuel : Nat) : IsForward (run fuel) := fun _ _ _ => suffix_of_run

/-- Every call that is made is smaller than the one that makes it, and a node is read where it
stands. -/
theorem measure_lt_of_makes {answer : Call → Except Fault (Nat × Build)}
    (hanswer : IsForward answer) {c c' : Call} (h : c.tree.Makes answer c') : c'.IsPlaced ∧ c'.measure < c.measure := by
  cases c.shape with
  | ends htree =>
    rw [htree] at h
    cases h
  | hands htree hplaced hless hkept =>
    rw [htree] at h
    cases h with
    | here => exact ⟨hplaced, hless⟩
    | later _ h => cases h
  | rounds htree hplaced hless hnext hkept =>
    rw [htree] at h
    cases h with
    | here => exact ⟨hplaced, hless⟩
    | later hread h =>
      cases h with
      | here => exact hnext _ (hanswer _ _ _ hplaced hread)
      | later _ h => cases h

/-- With fuel above its measure a call ends in one way. -/
theorem run_eq_run {c : Call} {fuel fuel' : Nat} (h : c.measure < fuel) (h' : c.measure < fuel') :
    c.run fuel = c.run fuel' := by
  induction hm : c.measure using Nat.strong_induction_on generalizing c fuel fuel' with
  | _ m ih =>
    obtain ⟨f, rfl⟩ : ∃ f, fuel = f + 1 := ⟨fuel - 1, by omega⟩
    obtain ⟨f', rfl⟩ : ∃ f', fuel' = f' + 1 := ⟨fuel' - 1, by omega⟩
    rw [run_succ, run_succ]
    refine CallTree.eval_congr fun c' hc' => ?_
    have hless := (measure_lt_of_makes (isForward_run f) hc').2
    exact ih c'.measure (by omega) (by omega) (by omega) rfl

/-- How a call ends. -/
def result (c : Call) : Except Fault (Nat × Build) := c.run (c.measure + 1)

theorem run_eq_result {c : Call} {fuel : Nat} (h : c.measure < fuel) : c.run fuel = c.result :=
  run_eq_run h (Nat.lt_succ_self _)

theorem isForward_result : IsForward result := fun _ _ _ => suffix_of_run

/-- Without fuel the readers do what their trees say, too. -/
theorem result_eq (c : Call) : c.result = c.tree.eval result := by
  rw [result, run_succ]
  refine CallTree.eval_congr fun c' hc' => ?_
  exact run_eq_result (measure_lt_of_makes (isForward_run c.measure) hc').2

/-- Nothing else does what the trees say. -/
theorem eq_result_iff (f : Call → Except Fault (Nat × Build)) :
    (∀ c, f c = c.tree.eval f) ↔ f = result := by
  constructor
  · intro hf
    funext c
    induction hm : c.measure using Nat.strong_induction_on generalizing c with
    | _ m ih =>
      rw [hf c, result_eq c]
      refine (CallTree.eval_congr fun c' hc' => ?_).symm
      have hless := (measure_lt_of_makes isForward_result hc').2
      exact (ih c'.measure (by omega) c' rfl).symm
  · rintro rfl
    exact result_eq

/-- What has been read stays so with more fuel. -/
theorem run_mono {fuel fuel' : Nat} (hle : fuel ≤ fuel') {c : Call} {read : Nat × Build}
    (h : c.run fuel = .ok read) : c.run fuel' = .ok read := by
  induction fuel generalizing fuel' c read with
  | zero => cases c <;> simp [run, readNode, readPairs, readValue, readItems, readNested] at h
  | succ fuel ih =>
    obtain ⟨f, rfl⟩ : ∃ f, fuel' = f + 1 := ⟨fuel' - 1, by omega⟩
    rw [run_succ] at h ⊢
    exact CallTree.eval_mono (fun c' read' hc' => ih (by omega) hc') h

theorem result_of_run {c : Call} {fuel : Nat} {read : Nat × Build} (h : c.run fuel = .ok read) :
    c.result = .ok read := by
  have hmore := run_mono (Nat.le_add_right fuel (c.measure + 1)) h
  rwa [run_eq_result (by omega)] at hmore

/-! ### What has been read is behind -/

/-- The call makes another one, with some amount of fuel. -/
def Makes (c c' : Call) : Prop := ∃ fuel, c.tree.Makes (run fuel) c'

theorem makes_result {c c' : Call} (h : c.Makes c') : c.tree.Makes result c' := by
  obtain ⟨fuel, h⟩ := h
  exact h.mono fun _ _ => result_of_run

/-- When a call has read something, so have the calls that it made, and it leaves no more than they
do. -/
theorem exists_result_of_makes {c c' : Call} {id : Nat} {b : Build} (h : c.tree.Makes result c')
    (hresult : c.result = .ok (id, b)) :
    ∃ id' b', c'.result = .ok (id', b') ∧ b.lines <:+ b'.lines := by
  rw [result_eq] at hresult
  cases c.shape with
  | ends htree =>
    rw [htree] at h
    cases h
  | hands htree hplaced hless hkept =>
    rw [htree] at h hresult
    obtain ⟨⟨id', b'⟩, hread, hfinish⟩ := CallTree.exists_of_eval_call hresult
    cases h with
    | here =>
      refine ⟨id', b', hread, ?_⟩
      rw [← hkept (id', b'), Except.ok.inj hfinish]
    | later _ h => cases h
  | rounds htree hplaced hless hnext hkept =>
    rw [htree] at h hresult
    obtain ⟨⟨id', b'⟩, hread, hmore⟩ := CallTree.exists_of_eval_call hresult
    rw [eval_pass] at hmore
    cases h with
    | here =>
      refine ⟨id', b', hread, ?_⟩
      have hround := hnext (id', b') (isForward_result _ _ _ hplaced hread)
      have hleft := isForward_result _ _ _ hround.1 hmore
      rwa [hkept] at hleft
    | later hread' h =>
      rw [hread] at hread'
      obtain rfl := Except.ok.inj hread'
      cases h with
      | here => exact ⟨id, b, hmore, List.suffix_refl _⟩
      | later _ h => cases h

/-- The call itself reads the lines in front of `left`: the line of a key, an item or a scalar, and
the further lines of a scalar. -/
inductive ReadsTo : Call → List Line → Prop
  | node {indent : Nat} {b : Build} {line : Line} {left : List Line}
      (hlines : b.lines = line :: left) : ReadsTo (.node indent b) left
  | scalarLine {indent : Nat} {b : Build} {line : Line} {lines left : List Line} {n : Node}
      (hlines : b.lines = line :: lines) (hitem : isItem line.text = false)
      (hkey : splitKey? line.text = none)
      (hn : scalarNode (splitValue line.text) line (indent - 1) (line.indent + 1) lines =
        .ok (n, left)) : ReadsTo (.node indent b) left
  | key {mapping indent : Nat} {last : Option Nat} {b : Build} {line : Line} {left : List Line}
      (hlines : b.toContent.lines = line :: left) (hindent : line.indent = indent)
      (hkey : (splitKey? line.text).isSome = true) : ReadsTo (.pairs mapping indent last b) left
  | value {indent key : Nat} {line : Line} {keyText rest : List Char} {b : Build}
      {left : List Line} {n : Node} (hvalue : (splitValue rest).text ≠ [])
      (hn : scalarNode (splitValue rest) line indent (valueColumn line rest) b.lines =
        .ok (n, left)) : ReadsTo (.value indent line key keyText rest b) left
  | item {sequence indent : Nat} {last : Option Nat} {b : Build} {line : Line} {left : List Line}
      (hlines : b.toContent.lines = line :: left) (hindent : line.indent = indent)
      (hitem : isItem line.text = true) : ReadsTo (.items sequence indent last b) left

/-- A call leaves the lines that it reads itself behind. -/
theorem suffix_of_readsTo {c : Call} {left : List Line} {id : Nat} {b : Build}
    (hplaced : c.IsPlaced) (hresult : c.result = .ok (id, b)) (h : c.ReadsTo left) :
    b.lines <:+ left := by
  have hleft := isForward_result _ _ _ hplaced hresult
  -- where the first call starts behind the line
  have hbehind {c' : Call} {next : Nat × Build → CallTree} (htree : c.tree = .call c' next)
      (hplaced' : c'.IsPlaced) (hahead : c'.ahead = left) : b.lines <:+ left := by
    have hmakes : c.tree.Makes result c' := htree ▸ .here c' next
    obtain ⟨id', b', hread, hsuffix⟩ := exists_result_of_makes hmakes hresult
    rw [← hahead]
    exact hsuffix.trans (isForward_result _ _ _ hplaced' hread)
  cases h with
  | node hlines =>
    rw [ahead, hlines] at hleft
    exact hleft
  | @scalarLine indent b' line lines left n hlines hitem hkey hn =>
    have htree : tree (.node indent b') = .done (readScalarLine indent line b') := by
      rw [tree, hlines]
      dsimp only
      rw [if_neg (by simp [hitem]), if_neg (by simp [hkey])]
    rw [result_eq, htree, CallTree.eval, Checked.readScalarLine_eq_bind, hlines, List.drop_one,
      List.tail_cons, hn] at hresult
    cases hresult
    exact List.suffix_refl _
  | @key mapping indent last b' line left hlines hindent hkey =>
    obtain ⟨⟨keyText, rest⟩, hkey⟩ := Option.isSome_iff_exists.1 hkey
    cases hvalue : decodeScalar keyText line.number with
    | error e =>
      have htree : tree (.pairs mapping indent last b') = .done (.error e) := by
        rw [tree, hlines]
        dsimp only
        rw [if_neg (by omega), if_neg (by omega), hkey]
        dsimp only
        rw [hvalue]
      rw [result_eq, htree, CallTree.eval] at hresult
      cases hresult
    | ok keyValue =>
      exact hbehind (tree_pair hlines hindent hkey hvalue) trivial (lines_addKey hlines _ _ _)
  | @value indent key line keyText rest b' left n hvalue hn =>
    have htree : tree (.value indent line key keyText rest b') = _ :=
      if_neg (by simpa using hvalue)
    rw [result_eq, htree, CallTree.eval, hn] at hresult
    cases hresult
    exact List.suffix_refl _
  | @item sequence indent last b' line left hlines hindent hitem =>
    by_cases hempty : (dashValue line).text.isEmpty = true
    · exact hbehind (tree_nestedItem hlines hindent hitem hempty) trivial (lines_dropLine hlines)
    · exact hbehind (tree_compactItem hlines hindent hitem hempty)
        (isAt_behindDash hlines (dashIndent line indent)) rfl

/-- When a call has ended, all that was read in its course is behind it. -/
theorem suffix_of_runs {c c' : Call} {left : List Line} {id : Nat} {b : Build}
    (hruns : Relation.ReflTransGen Makes c c') (hplaced : c.IsPlaced)
    (hresult : c.result = .ok (id, b)) (hreads : c'.ReadsTo left) : b.lines <:+ left := by
  induction hruns using Relation.ReflTransGen.head_induction_on generalizing id b with
  | refl => exact suffix_of_readsTo hplaced hresult hreads
  | head hmakes _ ih =>
    have hmakes' := makes_result hmakes
    obtain ⟨id', b', hread, hsuffix⟩ := exists_result_of_makes hmakes' hresult
    exact hsuffix.trans (ih (measure_lt_of_makes isForward_result hmakes').1 hread)

end Call

/-! ### Documents -/

/-- Where no content comes next, there is none at all. -/
theorem Build.kind_ne_of_toContent {b : Build} (h : b.toContent.lines = []) :
    ∀ l ∈ b.lines, l.kind ≠ .content := by
  replace h : (collect b.pending b.lines).2 = [] := h
  generalize b.pending = ps at h
  generalize b.lines = lines at h ⊢
  induction lines generalizing ps with
  | nil => nofun
  | cons line lines ih =>
    rw [collect] at h
    split at h
    · next hkind => exact List.forall_mem_cons.2 ⟨by simp [hkind], ih _ h⟩
    · cases h
    · next hcontent => exact List.forall_mem_cons.2 ⟨fun hkind => hcontent hkind, ih _ h⟩

/-- A document is read with enough fuel, and no content is left behind it. -/
theorem exists_result_of_readDocument {nodes nodes' : Array Node} {lines rest : List Line}
    {line : Line} {root : Root} (h : readDocument nodes lines = .ok (root, nodes'))
    (hstart : (Build.start nodes lines).lines = line :: rest) :
    ∃ id b, (Call.node line.indent (Build.start nodes lines)).result = .ok (id, b) ∧
      root.node = some id ∧ b.nodes = nodes' ∧ ∀ l ∈ b.lines, l.kind ≠ .content := by
  have hfuel : (Call.node line.indent (Build.start nodes lines)).measure <
      4 * linesWeight (Build.start nodes lines).lines + 4 := by
    rw [Call.measure]
    omega
  have hread : readNode (4 * linesWeight (Build.start nodes lines).lines + 4) line.indent
      (Build.start nodes lines) = (Call.node line.indent (Build.start nodes lines)).result :=
    Call.run_eq_result hfuel
  unfold readDocument at h
  rw [← Build.start] at h
  dsimp only at h
  split at h
  · next hnone =>
    rw [hstart] at hnone
    cases hnone
  next hsome =>
  rw [hstart] at hsome
  cases hsome
  rw [hread] at h
  split at h
  · cases h
  · next id b hresult =>
    split at h
    · cases h
    · next hend =>
      cases h
      exact ⟨id, b, hresult, rfl, rfl, Build.kind_ne_of_toContent hend⟩

/-- The builder ends on every list of lines, whatever their indentations and texts are.

Every call that a reader makes, and every further round of a collection, has a smaller measure, also
where an item is read again from its own line. So there is exactly one function that does what the
readers do, and they compute it with any fuel above the measure. When a call has ended without a
fault, every line that was read in its course is in front of the lines that are left. The reader
with a cursor ends in the same way, and leaves the same lines behind its cursor. A block scalar
moves the cursor back over blank lines only. Behind a document no content is left. -/
theorem builder_ends :
    (∀ c c' : Call, c.Makes c' → c'.IsPlaced ∧ c'.measure < c.measure) ∧
    (∀ f : Call → Except Fault (Nat × Build), (∀ c, f c = c.tree.eval f) ↔ f = Call.result) ∧
    (∀ (c : Call) (fuel : Nat), c.measure < fuel → c.run fuel = c.result) ∧
    (∀ (c c' : Call) (left : List Line) (id : Nat) (b : Build), c.IsPlaced →
      Relation.ReflTransGen Call.Makes c c' → c.result = .ok (id, b) → c'.ReadsTo left →
      b.lines <:+ left) ∧
    (∀ (indent : Nat) (c : Checked.Buffer) (fuel : Nat), (Call.node indent c.build).IsPlaced →
      (Call.node indent c.build).measure < fuel →
      Checked.Shows (Checked.readNode fuel indent c) (Call.node indent c.build).result) ∧
    (∀ (header : List Char) (parent : Nat) (lines : List Line) (cursor : Nat),
      ∃ value raw stop, Checked.blockScalar header parent lines cursor = .ok (value, raw, stop) ∧
        cursor ≤ stop ∧ stop ≤ (Checked.blockFrom parent lines cursor []).2 ∧
        ∀ l ∈ (lines.take (Checked.blockFrom parent lines cursor []).2).drop stop,
          l.kind = .blank) ∧
    ∀ (nodes : Array Node) (lines : List Line),
      Checked.Agrees (Checked.readDocument nodes lines) (readDocument nodes lines) ∧
      ∀ root nodes' line rest, readDocument nodes lines = .ok (root, nodes') →
        (Build.start nodes lines).lines = line :: rest →
        ∃ id b, (Call.node line.indent (Build.start nodes lines)).result = .ok (id, b) ∧
          root.node = some id ∧ b.nodes = nodes' ∧ ∀ l ∈ b.lines, l.kind ≠ .content := by
  refine ⟨fun c c' ⟨fuel, h⟩ => Call.measure_lt_of_makes (Call.isForward_run fuel) h,
    Call.eq_result_iff, fun c fuel => Call.run_eq_result, ?_, ?_, Checked.exists_blockScalar_stop,
    ?_⟩
  · intro c c' left id b hplaced hruns hresult hreads
    exact Call.suffix_of_runs hruns hplaced hresult hreads
  · intro indent c fuel hplaced hfuel
    have hread := (Checked.mirrored fuel).node indent c hplaced (Nat.le_of_lt hfuel)
    have hsame : readNode fuel indent c.build = (Call.node indent c.build).result :=
      Call.run_eq_result hfuel
    rwa [hsame] at hread
  · intro nodes lines
    refine ⟨Checked.agrees_readDocument nodes lines, ?_⟩
    intro root nodes' line rest h hstart
    exact exists_result_of_readDocument h hstart

/-- The lines of an item whose value is an item with a block scalar, a blank line and an item
below. -/
def nestedDashes : List Line :=
  numberLines 1 ["- - |".toList, "    x".toList, [], "- b".toList]

/-- The call that reads these items. -/
def dashesCall : Call := .items 0 0 none { lines := nestedDashes }

/-- The call that reads the first line of these again, with the indentation behind the dash. -/
def behindDashCall : Call :=
  .node 2 (Build.behindDash { lines := nestedDashes } (Line.of 1 "- - |".toList)
    nestedDashes.tail 2)

/-- The first line is read twice, and is behind when the items have been read. -/
theorem builder_ends_nestedDashes :
    dashesCall.Makes behindDashCall ∧ behindDashCall.measure < dashesCall.measure ∧
      ∃ id b, dashesCall.result = .ok (id, b) ∧ b.lines <:+ nestedDashes.tail := by
  have hmakes : dashesCall.Makes behindDashCall := by
    have htree : dashesCall.tree = .call behindDashCall _ :=
      @Call.tree_compactItem { lines := nestedDashes } (Line.of 1 "- - |".toList) nestedDashes.tail
        0 0 none rfl rfl (by decide) (by decide)
    exact ⟨0, htree ▸ .here _ _⟩
  have hless := (builder_ends.1 _ _ hmakes).2
  have hread : dashesCall.result.isOk = true := by with_unfolding_all decide
  obtain ⟨⟨id, b⟩, hresult⟩ : ∃ read, dashesCall.result = .ok read := by
    cases hend : dashesCall.result with
    | error e =>
      rw [hend] at hread
      cases hread
    | ok read => exact ⟨read, rfl⟩
  exact ⟨hmakes, hless, id, b, hresult,
    builder_ends.2.2.2.1 dashesCall behindDashCall nestedDashes.tail id b trivial (.single hmakes)
      hresult (.node rfl)⟩

end ManifestMarkers.Manifest
