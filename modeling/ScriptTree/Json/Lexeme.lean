import ScriptTree.Json.Numeral
import ScriptTree.Json.StringText

/-!
# Lexemes of a JSON text

`scan` cuts a text into lexemes: marks, words, numbers and strings, each with the text left before
and after it. A lexeme can be read, which gives its value, or skipped, which checks less. `scan`
ends at the end of the text or at a lexeme that cannot even be skipped.
-/

namespace ScriptTree.Json
set_option autoImplicit false

/-- The marks between values. -/
inductive Mark where
  | openArray
  | closeArray
  | openObject
  | closeObject
  | comma
  | colon
deriving DecidableEq

/-- What a lexeme is. -/
inductive Token where
  | mark (m : Mark)
  /-- A word or a number, with its value or with what is wrong with it, when it is read and when
  it is skipped. -/
  | scalar (value : Except Fault Json) (skipped : Option Fault)
  /-- A string, likewise. -/
  | string (value : Except Fault String) (skipped : Option Fault)
  /-- A character that starts no lexeme. -/
  | stray

/-- A token with the text from its first character on, and the text after it unless the scan ends
there. -/
structure Lexeme where
  token : Token
  start : List Char
  stop : Option (List Char)

/-- The characters that may stand between lexemes. -/
def isSpace (c : Char) : Bool :=
  c = ' ' || c = '\n' || c = '\t' || c = '\r'

/-- Takes the rest of a word off the front of a text. -/
def takeWord : List Char → List Char → Except Fault (List Char)
  | [], cs => .ok cs
  | _ :: _, [] => .error (.atEnd .endInValue)
  | w :: word, c :: cs => if c = w then takeWord word cs else .error (.on .expectedWord (c :: cs))

theorem takeWord_le {word cs rest : List Char} (h : takeWord word cs = .ok rest) :
    rest.length ≤ cs.length := by
  fun_induction takeWord word cs with
  | case1 =>
    cases h
    exact Nat.le_refl _
  | case2 => cases h
  | case3 w word cs ih => exact Nat.le_succ_of_le (ih h)
  | case4 => cases h

namespace Lexeme

/-- The lexeme of a word whose first letter was seen. -/
def ofWord (start word rest : List Char) (value : Json) : Lexeme :=
  match takeWord word rest with
  | .ok left => ⟨.scalar (.ok value) none, start, some left⟩
  | .error f => ⟨.scalar (.error f) (some f), start, none⟩

/-- The fault of a number that is only skipped: the end of the text is no special case. -/
def skippedFault (f : Fault) : Fault :=
  match f.cause with
  | .endInValue => ⟨.badNumber, f.left, f.beyond⟩
  | _ => f

/-- The lexeme of a number. -/
def ofNumber (start : List Char) : Lexeme :=
  match Numeral.scan start with
  | .ok (n, left) => ⟨.scalar (n.value left) none, start, some left⟩
  | .error f => ⟨.scalar (.error f) (some (skippedFault f)), start, none⟩

/-- The lexeme of a string whose opening quote was seen. -/
def ofString (start rest : List Char) : Lexeme :=
  match readString rest with
  | .ok (s, left) => ⟨.string (.ok (String.ofList s)) none, start, some left⟩
  | .error f =>
    match skipString rest with
    | .ok left => ⟨.string (.error f) none, start, some left⟩
    | .error g => ⟨.string (.error f) (some g), start, none⟩

/-- The lexeme that starts with `c`. -/
def ofChar (c : Char) (rest : List Char) : Lexeme :=
  match c with
  | '[' => ⟨.mark .openArray, c :: rest, some rest⟩
  | ']' => ⟨.mark .closeArray, c :: rest, some rest⟩
  | '\x7b' => ⟨.mark .openObject, c :: rest, some rest⟩
  | '\x7d' => ⟨.mark .closeObject, c :: rest, some rest⟩
  | ',' => ⟨.mark .comma, c :: rest, some rest⟩
  | ':' => ⟨.mark .colon, c :: rest, some rest⟩
  | '"' => ofString (c :: rest) rest
  | 'n' => ofWord (c :: rest) ['u', 'l', 'l'] rest .null
  | 't' => ofWord (c :: rest) ['r', 'u', 'e'] rest (.bool true)
  | 'f' => ofWord (c :: rest) ['a', 'l', 's', 'e'] rest (.bool false)
  | _ => if c = '-' ∨ c.isDigit then ofNumber (c :: rest) else ⟨.stray, c :: rest, none⟩

/-- The first lexeme of a text. -/
def first? (cs : List Char) : Option Lexeme :=
  match cs.dropWhile isSpace with
  | [] => none
  | c :: rest => some (ofChar c rest)

end Lexeme

theorem Lexeme.ofWord_shorter {start word rest left : List Char} {value : Json}
    (h : (ofWord start word rest value).stop = some left) : left.length ≤ rest.length := by
  unfold ofWord at h
  split at h
  · rename_i taken
    cases h
    exact takeWord_le taken
  · cases h

theorem Lexeme.ofNumber_shorter {start left : List Char} (h : (ofNumber start).stop = some left) :
    left.length < start.length := by
  unfold ofNumber at h
  split at h
  · rename_i scanned
    cases h
    exact Numeral.scan_shorter scanned
  · cases h

theorem Lexeme.ofString_shorter {start rest left : List Char}
    (h : (ofString start rest).stop = some left) : left.length < rest.length := by
  unfold ofString at h
  split at h
  · rename_i read
    cases h
    exact readString_shorter read
  · split at h
    · rename_i skipped
      cases h
      exact skipString_shorter skipped
    · cases h

theorem Lexeme.ofChar_shorter {c : Char} {rest left : List Char}
    (h : (ofChar c rest).stop = some left) : left.length < (c :: rest).length := by
  unfold ofChar at h
  split at h
  case h_7 => exact Nat.lt_succ_of_lt (ofString_shorter h)
  case h_8 => exact Nat.lt_succ_of_le (ofWord_shorter h)
  case h_9 => exact Nat.lt_succ_of_le (ofWord_shorter h)
  case h_10 => exact Nat.lt_succ_of_le (ofWord_shorter h)
  case h_11 =>
    split at h
    · exact ofNumber_shorter h
    · cases h
  all_goals
    cases h
    simp

theorem Lexeme.first?_shorter {cs left : List Char} {l : Lexeme} (h : first? cs = some l)
    (stop : l.stop = some left) : left.length < cs.length := by
  unfold first? at h
  split at h
  · cases h
  · rename_i c rest spaces
    cases h
    refine Nat.lt_of_lt_of_le (ofChar_shorter stop) ?_
    rw [← spaces]
    exact length_dropWhile_le isSpace cs

/-- The lexemes of a text. -/
def scan (cs : List Char) : List Lexeme :=
  match _first : Lexeme.first? cs with
  | none => []
  | some l =>
    match _stop : l.stop with
    | none => [l]
    | some rest => l :: scan rest
termination_by cs.length
decreasing_by exact Lexeme.first?_shorter _first _stop

end ScriptTree.Json
