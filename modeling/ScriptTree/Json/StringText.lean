import ScriptTree.Json.Fault

/-!
# Strings of a JSON text

`escape` writes a string between its quotes, and `readString` reads the rest of a string after its
opening quote. A string of a value that nobody asks for is only skipped: `skipString` does not pair
the surrogates of its escapes.
-/

namespace ScriptTree.Json
set_option autoImplicit false

/-! ## Writing -/

/-- A character inside of a string. -/
def escapeChar (c : Char) : List Char :=
  match c with
  | '"' => ['\\', '"']
  | '\\' => ['\\', '\\']
  | '\x08' => ['\\', 'b']
  | '\x0c' => ['\\', 'f']
  | '\n' => ['\\', 'n']
  | '\r' => ['\\', 'r']
  | '\t' => ['\\', 't']
  | c =>
    if c.toNat < 0x20 then
      ['\\', 'u', '0', '0', Nat.digitChar (c.toNat / 16), Nat.digitChar (c.toNat % 16)]
    else [c]

/-- A string between its quotes. -/
def stringText (s : String) : List Char :=
  '"' :: s.toList.flatMap escapeChar ++ ['"']

/-! ## Reading -/

/-- The character of an escape of one letter. -/
def shortEscape? : Char → Option Char
  | '"' => some '"'
  | '\\' => some '\\'
  | '/' => some '/'
  | 'b' => some '\x08'
  | 'f' => some '\x0c'
  | 'n' => some '\n'
  | 'r' => some '\r'
  | 't' => some '\t'
  | _ => none

/-- The value of a digit of base sixteen, of either case. -/
def hexValue? (c : Char) : Option Nat :=
  if '0' ≤ c ∧ c ≤ '9' then some (c.toNat - '0'.toNat)
  else if 'a' ≤ c ∧ c ≤ 'f' then some (c.toNat - 'a'.toNat + 10)
  else if 'A' ≤ c ∧ c ≤ 'F' then some (c.toNat - 'A'.toNat + 10)
  else none

/-- The number of four digits of base sixteen. -/
def hexUnit? (a b c d : Char) : Option Nat := do
  return (((← hexValue? a) * 16 + (← hexValue? b)) * 16 + (← hexValue? c)) * 16 + (← hexValue? d)

/-- Takes four digits of base sixteen off the front of a text; what is wrong is found once four
bytes have been taken. -/
def takeUnit (cs : List Char) : Except Fault (Nat × List Char) :=
  match cs with
  | a :: b :: c :: d :: rest =>
    match hexUnit? a b c d with
    | some n => .ok (n, rest)
    | none => .error ⟨.badEscape, cs, 4⟩
  | _ => .error (if byteSize cs < 4 then .atEnd .endInString else ⟨.badEscape, cs, 4⟩)

/-- The first half of a pair that stands for a character beyond the basic plane. -/
def isLeading (n : Nat) : Bool :=
  0xd800 ≤ n && n < 0xdc00

/-- The second half of such a pair. -/
def isTrailing (n : Nat) : Bool :=
  0xdc00 ≤ n && n < 0xe000

/-- The character of a pair. -/
def pairChar (leading trailing : Nat) : Char :=
  Char.ofNat (0x10000 + (leading - 0xd800) * 0x400 + (trailing - 0xdc00))

/-- Takes the second half of a pair off the front of a text. -/
def takeTrailing (cs : List Char) : Except Fault (Nat × List Char) :=
  match cs with
  | [] | ['\\'] => .error (.atEnd .endInString)
  | '\\' :: 'u' :: rest =>
    match takeUnit rest with
    | .error f => .error f
    | .ok (n, rest) => if isTrailing n then .ok (n, rest) else .error (.before .loneSurrogate rest)
  | '\\' :: rest => .error (.on .brokenSurrogate rest)
  | _ => .error (.on .brokenSurrogate cs)

/-- Takes the character of an escape by code, after its `u`. -/
def takeCode (cs : List Char) : Except Fault (Char × List Char) :=
  match takeUnit cs with
  | .error f => .error f
  | .ok (n, rest) =>
    if isTrailing n then .error (.before .loneSurrogate rest)
    else if isLeading n then
      match takeTrailing rest with
      | .error f => .error f
      | .ok (m, rest) => .ok (pairChar n m, rest)
    else .ok (Char.ofNat n, rest)

/-- Takes a character of a string off the front of a text, or the closing quote. -/
def takeChar (cs : List Char) : Except Fault (Option Char × List Char) :=
  match cs with
  | [] | ['\\'] => .error (.atEnd .endInString)
  | '"' :: rest => .ok (none, rest)
  | '\\' :: 'u' :: rest =>
    match takeCode rest with
    | .error f => .error f
    | .ok (c, rest) => .ok (some c, rest)
  | '\\' :: letter :: rest =>
    match shortEscape? letter with
    | some c => .ok (some c, rest)
    | none => .error (.on .badEscape (letter :: rest))
  | c :: rest =>
    if c.toNat < 0x20 then .error (.on .controlCharacter cs) else .ok (some c, rest)

theorem takeUnit_shorter {cs rest : List Char} {n : Nat} (h : takeUnit cs = .ok (n, rest)) :
    rest.length < cs.length := by
  unfold takeUnit at h
  split at h
  · split at h
    · cases h
      simp only [List.length_cons]
      omega
    · cases h
  · cases h

theorem takeTrailing_shorter {cs rest : List Char} {n : Nat}
    (h : takeTrailing cs = .ok (n, rest)) : rest.length < cs.length := by
  unfold takeTrailing at h
  split at h
  · cases h
  · cases h
  · split at h
    · cases h
    · rename_i unit
      have := takeUnit_shorter unit
      split at h
      · cases h
        simp only [List.length_cons]
        omega
      · cases h
  · cases h
  · cases h

theorem takeCode_shorter {cs rest : List Char} {c : Char} (h : takeCode cs = .ok (c, rest)) :
    rest.length < cs.length := by
  unfold takeCode at h
  split at h
  · cases h
  · rename_i unit
    have := takeUnit_shorter unit
    split at h
    · cases h
    · split at h
      · split at h
        · cases h
        · rename_i trailing
          have := takeTrailing_shorter trailing
          simp only [Except.ok.injEq, Prod.mk.injEq] at h
          have := h.2
          subst this
          omega
      · cases h
        exact this

theorem takeChar_shorter {cs rest : List Char} {c : Option Char}
    (h : takeChar cs = .ok (c, rest)) : rest.length < cs.length := by
  unfold takeChar at h
  split at h
  · cases h
  · cases h
  · cases h
    simp
  · split at h
    · cases h
    · rename_i code
      have := takeCode_shorter code
      cases h
      simp only [List.length_cons]
      omega
  · split at h
    · cases h
      simp only [List.length_cons]
      omega
    · cases h
  · split at h
    · cases h
    · cases h
      simp

/-- Reads the rest of a string after its opening quote. -/
def readString (cs : List Char) : Except Fault (List Char × List Char) :=
  match _taken : takeChar cs with
  | .error f => .error f
  | .ok (none, rest) => .ok ([], rest)
  | .ok (some c, rest) =>
    match readString rest with
    | .error f => .error f
    | .ok (s, rest) => .ok (c :: s, rest)
termination_by cs.length
decreasing_by exact takeChar_shorter _taken

theorem readString_shorter {cs s rest : List Char} (h : readString cs = .ok (s, rest)) :
    rest.length < cs.length := by
  fun_induction readString cs generalizing s rest with
  | case1 => cases h
  | case2 cs rest' taken =>
    cases h
    exact takeChar_shorter taken
  | case3 => cases h
  | case4 cs c rest' taken s' rest'' read ih =>
    cases h
    exact Nat.lt_trans (ih read) (takeChar_shorter taken)

/-! ## Skipping -/

/-- Skips a character of a string, or the closing quote, which is `true`. -/
def skipChar (cs : List Char) : Except Fault (Bool × List Char) :=
  match cs with
  | [] | ['\\'] => .error (.atEnd .endInString)
  | '"' :: rest => .ok (true, rest)
  | '\\' :: 'u' :: rest =>
    match takeUnit rest with
    | .error f => .error f
    | .ok (_, rest) => .ok (false, rest)
  | '\\' :: letter :: rest =>
    if (shortEscape? letter).isSome then .ok (false, rest)
    else .error (.on .badEscape (letter :: rest))
  | c :: rest =>
    if c.toNat < 0x20 then .error (.before .controlCharacter cs) else .ok (false, rest)

theorem skipChar_shorter {cs rest : List Char} {last : Bool}
    (h : skipChar cs = .ok (last, rest)) : rest.length < cs.length := by
  unfold skipChar at h
  split at h
  · cases h
  · cases h
  · cases h
    simp
  · split at h
    · cases h
    · rename_i unit
      have := takeUnit_shorter unit
      cases h
      simp only [List.length_cons]
      omega
  · split at h
    · cases h
      simp only [List.length_cons]
      omega
    · cases h
  · split at h
    · cases h
    · cases h
      simp

/-- Skips the rest of a string after its opening quote. -/
def skipString (cs : List Char) : Except Fault (List Char) :=
  match _skipped : skipChar cs with
  | .error f => .error f
  | .ok (true, rest) => .ok rest
  | .ok (false, rest) => skipString rest
termination_by cs.length
decreasing_by exact skipChar_shorter _skipped

theorem skipString_shorter {cs rest : List Char} (h : skipString cs = .ok rest) :
    rest.length < cs.length := by
  fun_induction skipString cs with
  | case1 => cases h
  | case2 cs rest' taken =>
    cases h
    exact skipChar_shorter taken
  | case3 cs rest' taken ih => exact Nat.lt_trans (ih h) (skipChar_shorter taken)

end ScriptTree.Json
