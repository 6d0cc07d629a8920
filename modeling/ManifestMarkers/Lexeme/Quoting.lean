import ManifestMarkers.Text.Basic
import ManifestMarkers.Text.Numeral

/-!
# Quoted strings in marker text

Three kinds of quotes delimit a string. Single quotes hold any text of one line. Double quotes hold
one line with backslash escapes. Backticks hold any number of lines; inside a comment the lines
after the first lose their comment sign.

Each scanner starts after the opening quote and gives back the value, the characters read with the
closing quote, and the rest.
-/

namespace ManifestMarkers.Lexeme

/-- The sign that starts a comment. -/
inductive CommentSign
  | hash
  | slashes
  deriving DecidableEq, Repr

/-- The characters of a comment sign. -/
def CommentSign.chars : CommentSign → List Char
  | .hash => ['#']
  | .slashes => ['/', '/']

/-- The text of a comment sign. -/
def CommentSign.text (s : CommentSign) : String := String.ofList s.chars

/-- Why a quoted string cannot be read. -/
inductive QuoteError
  | unterminatedQuote
  | unterminatedBacktick
  | invalidEscape
  deriving DecidableEq, Repr

/-- The wording of a quoting problem. -/
def QuoteError.text : QuoteError → String
  | .unterminatedQuote => "unterminated quote"
  | .unterminatedBacktick => "unterminated backtick"
  | .invalidEscape => "invalid escape sequence"

/-! ### Escapes -/

/-- The value of digits in hexadecimal, continuing from `value`. -/
def hexValueFrom? (value : Nat) : List Char → Option Nat
  | [] => some value
  | c :: cs => match Text.hexDigit? c with
    | some d => hexValueFrom? (16 * value + d) cs
    | none => none

/-- The value of a hexadecimal numeral, which may start with a plus sign. -/
def hexValue? (cs : List Char) : Option Nat :=
  match cs with
  | [] | ['+'] => none
  | '+' :: cs => hexValueFrom? 0 cs
  | cs => hexValueFrom? 0 cs

/-- The character with code point `n`, if there is one. -/
def charOfCode? (n : Nat) : Option Char :=
  if n.isValidChar then some (Char.ofNat n) else none

/-- The character a one-letter escape stands for. -/
def simpleEscape? : Char → Option Char
  | 'a' => some '\x07'
  | 'b' => some '\x08'
  | 'v' => some '\x0b'
  | 'f' => some '\x0c'
  | 'n' => some '\n'
  | 'r' => some '\r'
  | 't' => some '\t'
  | 'e' | 'E' => some '\x1b'
  | '\\' => some '\\'
  | '\'' => some '\''
  | '"' => some '"'
  | '$' => some '$'
  | '`' => some '`'
  | ' ' => some ' '
  | _ => none

/-- How far the reading of an escape has come. -/
inductive EscapeState
  /-- Outside of escapes. -/
  | plain
  /-- After a backslash. -/
  | backslash
  /-- After a backslash and `u`. -/
  | code
  /-- Inside the braces of a code point, with its digits so far in reverse. -/
  | digits (reversed : List Char)
  deriving DecidableEq, Repr

/-- Resolve the escapes of the remaining characters. -/
def unescapeFrom : EscapeState → List Char → Option (List Char)
  | .plain, [] => some []
  | _, [] => none
  | .plain, c :: cs =>
    if c = '\\' then unescapeFrom .backslash cs else (unescapeFrom .plain cs).map (c :: ·)
  | .backslash, c :: cs =>
    if c = 'u' then unescapeFrom .code cs
    else match simpleEscape? c with
      | some e => (unescapeFrom .plain cs).map (e :: ·)
      | none => none
  | .code, c :: cs => if c = '\x7b' then unescapeFrom (.digits []) cs else none
  | .digits ds, c :: cs =>
    if c = '\x7d' then
      match (hexValue? ds.reverse).bind charOfCode? with
      | some e => (unescapeFrom .plain cs).map (e :: ·)
      | none => none
    else unescapeFrom (.digits (c :: ds)) cs

/-- The text with its backslash escapes resolved. -/
def unescape? (cs : List Char) : Option (List Char) := unescapeFrom .plain cs

/-- A text without backslash stands for itself. -/
theorem unescape?_of_no_backslash {cs : List Char} (h : '\\' ∉ cs) : unescape? cs = some cs := by
  unfold unescape?
  induction cs with
  | nil => rfl
  | cons c cs ih =>
    have hc : c ≠ '\\' := fun e => h (by simp [e])
    have hcs : '\\' ∉ cs := fun e => h (by simp [e])
    simp [unescapeFrom, hc, ih hcs]

/-! ### The three quotes -/

/-- What a quoted string holds, and what follows it. -/
structure QuotedText where
  value : List Char
  /-- The characters read, with the closing quote. -/
  source : List Char
  rest : List Char
  deriving DecidableEq, Repr

/-- The text up to a single quote on the same line. -/
def scanSingle : List Char → Except QuoteError QuotedText
  | [] => .error .unterminatedQuote
  | c :: cs =>
    if c = '\'' then .ok ⟨[], [c], cs⟩
    else if c = '\n' then .error .unterminatedQuote
    else (scanSingle cs).map fun q => ⟨c :: q.value, c :: q.source, q.rest⟩

/-- The text up to a double quote on the same line that is not escaped, escapes unresolved. -/
def scanDoubleFrom (escaped : Bool) : List Char → Except QuoteError QuotedText
  | [] => .error .unterminatedQuote
  | c :: cs =>
    if c = '\n' then .error .unterminatedQuote
    else if c = '"' ∧ !escaped then .ok ⟨[], [c], cs⟩
    else (scanDoubleFrom (c = '\\' && !escaped) cs).map fun q =>
      ⟨c :: q.value, c :: q.source, q.rest⟩

/-- The text up to the closing double quote, with escapes resolved. -/
def scanDouble (cs : List Char) : Except QuoteError QuotedText :=
  match scanDoubleFrom false cs with
  | .error e => .error e
  | .ok q => match unescape? q.value with
    | some value => .ok { q with value }
    | none => .error .invalidEscape

/-- The text up to the next backtick. -/
def scanToBacktick : List Char → Except QuoteError QuotedText
  | [] => .error .unterminatedBacktick
  | c :: cs =>
    if c = '`' then .ok ⟨[], [c], cs⟩
    else (scanToBacktick cs).map fun q => ⟨c :: q.value, c :: q.source, q.rest⟩

/-- A continued line without its indentation, comment sign and one space. A line without the comment
sign is kept as it is. -/
def stripCommentSign (sign : CommentSign) (line : List Char) : List Char :=
  match Text.after? sign.chars (Text.trimStart line) with
  | some (' ' :: content) => content
  | some content => content
  | none => line

/-- The lines of a backtick string that stands in a comment. -/
def stripComment (sign : CommentSign) (cs : List Char) : List Char :=
  match Text.lines cs with
  | [] => []
  | first :: others => Text.joinWith ['\n'] (first :: others.map (stripCommentSign sign))

/-- The text up to the closing backtick. -/
def scanBacktick (comment : Option CommentSign) (cs : List Char) : Except QuoteError QuotedText :=
  (scanToBacktick cs).map fun q =>
    match comment with
    | some sign => { q with value := stripComment sign q.value }
    | none => q

/-- The string that the quote character `quote` opened. -/
def scanQuoted (comment : Option CommentSign) (quote : Char) (cs : List Char) :
    Except QuoteError QuotedText :=
  if quote = '`' then scanBacktick comment cs
  else if quote = '"' then scanDouble cs
  else scanSingle cs

/-! ### Nothing is lost -/

theorem scanSingle_split {cs : List Char} {q : QuotedText} (h : scanSingle cs = .ok q) :
    q.source ++ q.rest = cs := by
  induction cs generalizing q with
  | nil => simp [scanSingle] at h
  | cons c cs ih =>
    unfold scanSingle at h
    split at h
    · cases h; rfl
    · split at h
      · cases h
      · cases hs : scanSingle cs with
        | error e => simp [hs, Except.map] at h
        | ok p =>
          simp only [hs, Except.map, Except.ok.injEq] at h
          subst h
          simp [ih hs]

theorem scanDoubleFrom_split {escaped : Bool} {cs : List Char} {q : QuotedText}
    (h : scanDoubleFrom escaped cs = .ok q) : q.source ++ q.rest = cs := by
  induction cs generalizing q escaped with
  | nil => simp [scanDoubleFrom] at h
  | cons c cs ih =>
    unfold scanDoubleFrom at h
    split at h
    · cases h
    · split at h
      · cases h; rfl
      · cases hs : scanDoubleFrom (c = '\\' && !escaped) cs with
        | error e => simp [hs, Except.map] at h
        | ok p =>
          simp only [hs, Except.map, Except.ok.injEq] at h
          subst h
          simp [ih hs]

theorem scanDouble_split {cs : List Char} {q : QuotedText} (h : scanDouble cs = .ok q) :
    q.source ++ q.rest = cs := by
  unfold scanDouble at h
  split at h
  · cases h
  · next p hp =>
    split at h
    · cases h; exact (scanDoubleFrom_split hp :)
    · cases h

theorem scanToBacktick_split {cs : List Char} {q : QuotedText} (h : scanToBacktick cs = .ok q) :
    q.source ++ q.rest = cs := by
  induction cs generalizing q with
  | nil => simp [scanToBacktick] at h
  | cons c cs ih =>
    unfold scanToBacktick at h
    split at h
    · cases h; rfl
    · cases hs : scanToBacktick cs with
      | error e => simp [hs, Except.map] at h
      | ok p =>
        simp only [hs, Except.map, Except.ok.injEq] at h
        subst h
        simp [ih hs]

theorem scanBacktick_split {comment : Option CommentSign} {cs : List Char} {q : QuotedText}
    (h : scanBacktick comment cs = .ok q) : q.source ++ q.rest = cs := by
  unfold scanBacktick at h
  cases hs : scanToBacktick cs with
  | error e => simp [hs, Except.map] at h
  | ok p =>
    have hp := scanToBacktick_split hs
    simp only [hs, Except.map, Except.ok.injEq] at h
    subst h
    cases comment <;> exact hp

/-- The characters read and the rest make up the text. -/
theorem scanQuoted_split {comment : Option CommentSign} {quote : Char} {cs : List Char}
    {q : QuotedText} (h : scanQuoted comment quote cs = .ok q) : q.source ++ q.rest = cs := by
  unfold scanQuoted at h
  split at h
  · exact scanBacktick_split h
  · split at h
    · exact scanDouble_split h
    · exact scanSingle_split h

end ManifestMarkers.Lexeme
