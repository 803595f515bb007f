import ScriptTree.Build.Coercion
import ScriptTree.Proofs.Text.Digits

/-!
# The texts that are numbers

`NumberForm` is the grammar of the texts that stand for a number: digits of a base behind a zero and
the letter of the base, or, behind an optional sign, a decimal number or the word for infinity. The
value of a text is not a number exactly if the text is there and outside of the grammar:
`ofTrimmed_eq_nan_iff`. A text is sorted by what it announces, a base or else a number with a sign
(`numberForm_iff`), and each part of the grammar is what one part of the reader accepts.
-/

namespace ScriptTree.Build
set_option autoImplicit false
open Number

/-! ## The grammar -/

/-- One or more characters of a class. -/
def IsRun (p : Char → Bool) (cs : List Char) : Prop :=
  cs ≠ [] ∧ ∀ c ∈ cs, p c = true

/-- The bases that a letter behind a zero announces. -/
inductive Base where
  | hexadecimal
  | octal
  | binary

namespace Base

/-- How many digits a base has. -/
def radix : Base → Nat
  | .hexadecimal => 16
  | .octal => 8
  | .binary => 2

/-- The letter of a base, in lower and in upper case. -/
def letters : Base → List Char
  | .hexadecimal => ['x', 'X']
  | .octal => ['o', 'O']
  | .binary => ['b', 'B']

/-- The digits of a base. -/
def isDigit : Base → Char → Bool
  | .hexadecimal, c => ('0' ≤ c && c ≤ '9') || ('a' ≤ c && c ≤ 'f') || ('A' ≤ c && c ≤ 'F')
  | .octal, c => '0' ≤ c && c ≤ '7'
  | .binary, c => '0' ≤ c && c ≤ '1'

end Base

/-- A sign, or none. -/
inductive SignForm : List Char → Prop
  | none : SignForm []
  | plus : SignForm ['+']
  | minus : SignForm ['-']

/-- The digits of a decimal number: some before the point, or some behind it. -/
inductive MantissaForm : List Char → Prop
  | whole {digits : List Char} : IsRun Char.isDigit digits → MantissaForm digits
  | point {digits more : List Char} : IsRun Char.isDigit digits →
      (∀ c ∈ more, c.isDigit = true) → MantissaForm (digits ++ '.' :: more)
  | fraction {digits : List Char} : IsRun Char.isDigit digits → MantissaForm ('.' :: digits)

/-- The exponent of a decimal number, or none. -/
inductive ExponentForm : List Char → Prop
  | none : ExponentForm []
  | power {letter : Char} {sign digits : List Char} : letter = 'e' ∨ letter = 'E' → SignForm sign →
      IsRun Char.isDigit digits → ExponentForm (letter :: (sign ++ digits))

/-- A decimal number without a sign. -/
def DecimalForm (cs : List Char) : Prop :=
  ∃ mantissa exponent, MantissaForm mantissa ∧ ExponentForm exponent ∧ cs = mantissa ++ exponent

/-- A text that is a number. -/
inductive NumberForm : List Char → Prop
  | based (b : Base) {letter : Char} {digits : List Char} : letter ∈ b.letters →
      IsRun b.isDigit digits → NumberForm ('0' :: letter :: digits)
  | infinity {sign : List Char} : SignForm sign → NumberForm (sign ++ "Infinity".toList)
  | decimal {sign rest : List Char} : SignForm sign → DecimalForm rest → NumberForm (sign ++ rest)

/-! ## Digits of a base -/

theorem isSome_radixDigit?_iff (radix : Nat) (c : Char) :
    (radixDigit? radix c).isSome = true ↔
      (48 ≤ c.toNat ∧ c.toNat ≤ 57 ∧ c.toNat - 48 < radix) ∨
      (97 ≤ c.toNat ∧ c.toNat ≤ 122 ∧ c.toNat - 97 + 10 < radix) ∨
      (65 ≤ c.toNat ∧ c.toNat ≤ 90 ∧ c.toNat - 65 + 10 < radix) := by
  simp only [radixDigit?, Option.isSome_filter, Char.le_def, UInt32.le_iff_toNat_le]
  -- the bounds are character codes, and the comparison is one of numbers
  change Option.any _ (if 48 ≤ c.toNat ∧ c.toNat ≤ 57 then _ else
    if 97 ≤ c.toNat ∧ c.toNat ≤ 122 then _ else
      if 65 ≤ c.toNat ∧ c.toNat ≤ 90 then _ else _) = true ↔ _
  split
  · simp
    omega
  · split
    · simp
      omega
    · split
      · simp
        omega
      · simp
        omega

theorem isSome_radixDigit? (b : Base) (c : Char) :
    (radixDigit? b.radix c).isSome = b.isDigit c := by
  rw [Bool.eq_iff_iff, isSome_radixDigit?_iff]
  cases b with
  | hexadecimal =>
    simp [Base.isDigit, Base.radix, Char.le_def, UInt32.le_iff_toNat_le]
    omega
  | octal =>
    simp [Base.isDigit, Base.radix, Char.le_def, UInt32.le_iff_toNat_le]
    omega
  | binary =>
    simp [Base.isDigit, Base.radix, Char.le_def, UInt32.le_iff_toNat_le]
    omega

theorem isSome_mapM_iff {α β : Type} (f : α → Option β) (xs : List α) :
    (xs.mapM f).isSome = true ↔ ∀ x ∈ xs, (f x).isSome = true := by
  induction xs with
  | nil => simp
  | cons x xs ih =>
    rw [List.forall_mem_cons, ← ih, List.mapM_cons]
    cases f x with
    | none => simp
    | some y => cases xs.mapM f <;> simp

theorem ofRatio_ne_nan (negative : Bool) (n d : Nat) : Binary64.ofRatio negative n d ≠ .nan := by
  unfold Binary64.ofRatio
  split <;> simp

theorem ofRadix_eq_nan_iff (b : Base) (digits : List Char) :
    ofRadix b.radix digits = .nan ↔ ¬ IsRun b.isDigit digits := by
  have read := isSome_mapM_iff (radixDigit? b.radix) digits
  simp only [isSome_radixDigit?] at read
  unfold ofRadix IsRun
  rw [← read]
  split
  · simp_all
  · rename_i some
    split
    · rename_i refused
      simp [refused]
    · rename_i values taken
      simp only [taken, Option.isSome_some, and_true, not_not]
      refine iff_of_false (ofRatio_ne_nan _ _ _) ?_
      simpa using some

/-! ## Signs and exponents -/

theorem exists_sign (cs : List Char) :
    ∃ sign, SignForm sign ∧ cs = sign ++ (splitSign cs).2 := by
  unfold splitSign
  split
  · exact ⟨_, .minus, rfl⟩
  · exact ⟨_, .plus, rfl⟩
  · exact ⟨_, .none, rfl⟩

/-- A sign. -/
def isSign (c : Char) : Bool :=
  c = '+' || c = '-'

theorem splitSign_append {sign rest : List Char} (form : SignForm sign)
    (stop : Text.Ends isSign rest) : (splitSign (sign ++ rest)).2 = rest := by
  cases form with
  | none =>
    rw [List.nil_append]
    unfold splitSign
    split
    · exact absurd (Text.ends_cons.1 stop) (by decide)
    · exact absurd (Text.ends_cons.1 stop) (by decide)
    · rfl
  | plus => rfl
  | minus => rfl

theorem ends_isSign_of_isDigit {c : Char} (digit : c.isDigit = true) (rest : List Char) :
    Text.Ends isSign (c :: rest) := by
  refine Text.ends_cons.2 ?_
  cases sign : isSign c with
  | false => rfl
  | true =>
    simp only [isSign, Bool.or_eq_true, decide_eq_true_eq] at sign
    rcases sign with rfl | rfl <;> exact absurd digit (by decide)

theorem isSome_exponent?_iff (cs : List Char) :
    (exponent? cs).isSome = true ↔
      ∃ sign digits, SignForm sign ∧ IsRun Char.isDigit digits ∧ cs = sign ++ digits := by
  have run : (exponent? cs).isSome = true ↔ IsRun Char.isDigit (splitSign cs).2 := by
    unfold exponent? IsRun
    simp
  rw [run]
  constructor
  · intro digits
    obtain ⟨sign, form, whole⟩ := exists_sign cs
    exact ⟨sign, _, form, digits, whole⟩
  · rintro ⟨sign, digits, form, ⟨some, all⟩, rfl⟩
    obtain ⟨c, rest, rfl⟩ := List.exists_cons_of_ne_nil some
    rw [splitSign_append form (ends_isSign_of_isDigit (all c (by simp)) rest)]
    exact ⟨some, all⟩

theorem isSome_exponentPart?_iff (cs : List Char) :
    (exponentPart? cs).isSome = true ↔ ExponentForm cs := by
  constructor
  · intro read
    cases cs with
    | nil => exact .none
    | cons c rest =>
      simp only [exponentPart?] at read
      split at read
      · rename_i letter
        obtain ⟨sign, digits, form, run, rfl⟩ := (isSome_exponent?_iff rest).1 read
        exact .power letter form run
      · cases read
  · rintro (_ | ⟨letter, form, run⟩)
    · rfl
    · rw [exponentPart?, if_pos letter]
      exact (isSome_exponent?_iff _).2 ⟨_, _, form, run, rfl⟩

theorem ExponentForm.ends {cs : List Char} (form : ExponentForm cs) :
    Text.Ends Char.isDigit cs := by
  cases form with
  | none => exact Text.ends_nil _
  | power letter _ _ =>
    refine Text.ends_cons.2 ?_
    rcases letter with rfl | rfl <;> decide

/-! ## Decimal numbers -/

theorem isSome_ofChars? (cs : List Char) :
    (DecimalText.ofChars? cs).isSome = true ↔
      ¬ (cs.takeWhile Char.isDigit = [] ∧ (fractionPart (cs.dropWhile Char.isDigit)).1 = []) ∧
        ExponentForm (fractionPart (cs.dropWhile Char.isDigit)).2 := by
  rw [← isSome_exponentPart?_iff]
  simp only [DecimalText.ofChars?]
  cases exponentPart? (fractionPart (cs.dropWhile Char.isDigit)).2 <;> split <;> simp_all

theorem fractionPart_eq (cs : List Char) :
    (fractionPart cs).1 = [] ∧ cs = (fractionPart cs).2 ∨
      (∀ c ∈ (fractionPart cs).1, c.isDigit = true) ∧
        cs = '.' :: ((fractionPart cs).1 ++ (fractionPart cs).2) := by
  unfold fractionPart
  split
  · rename_i rest
    exact .inr ⟨fun c member => List.mem_takeWhile_imp member,
      congrArg ('.' :: ·) List.takeWhile_append_dropWhile.symm⟩
  · exact .inl ⟨rfl, rfl⟩

theorem fractionPart_point {more exponent : List Char} (digits : ∀ c ∈ more, c.isDigit = true)
    (power : ExponentForm exponent) :
    fractionPart ('.' :: (more ++ exponent)) = (more, exponent) := by
  rw [fractionPart, Text.takeWhile_run digits power.ends, Text.dropWhile_run digits power.ends]

theorem fractionPart_exponent {exponent : List Char} (power : ExponentForm exponent) :
    fractionPart exponent = ([], exponent) := by
  cases power with
  | none => rfl
  | power letter _ _ => rcases letter with rfl | rfl <;> rfl

theorem isSome_ofChars?_iff (cs : List Char) :
    (DecimalText.ofChars? cs).isSome = true ↔ DecimalForm cs := by
  rw [isSome_ofChars?]
  constructor
  · rintro ⟨some, exponent⟩
    have whole : cs.takeWhile Char.isDigit ++ cs.dropWhile Char.isDigit = cs :=
      List.takeWhile_append_dropWhile
    have digits : ∀ c ∈ cs.takeWhile Char.isDigit, c.isDigit = true :=
      fun c member => List.mem_takeWhile_imp member
    generalize cs.takeWhile Char.isDigit = front at some whole digits
    generalize cs.dropWhile Char.isDigit = behind at some whole exponent
    subst whole
    rcases fractionPart_eq behind with ⟨noPoint, rest⟩ | ⟨more, rest⟩
    · have run : IsRun Char.isDigit front := ⟨fun none => some ⟨none, noPoint⟩, digits⟩
      exact ⟨front, _, .whole run, exponent, congrArg (front ++ ·) rest⟩
    · by_cases none : front = []
      · have run : IsRun Char.isDigit (fractionPart behind).1 :=
          ⟨fun empty => some ⟨none, empty⟩, more⟩
        exact ⟨_, _, .fraction run, exponent, by rw [none]; exact rest⟩
      · refine ⟨_, _, .point ⟨none, digits⟩ more, exponent, ?_⟩
        rw [List.append_assoc]
        exact congrArg (front ++ ·) rest
  · rintro ⟨mantissa, exponent, number, power, rfl⟩
    have point (rest : List Char) : Text.Ends Char.isDigit ('.' :: rest) :=
      Text.ends_cons.2 (by decide)
    cases number with
    | whole run =>
      rw [Text.takeWhile_run run.2 power.ends, Text.dropWhile_run run.2 power.ends,
        fractionPart_exponent power]
      exact ⟨fun none => run.1 none.1, power⟩
    | point run more =>
      rw [List.append_assoc, List.cons_append, Text.takeWhile_run run.2 (point _),
        Text.dropWhile_run run.2 (point _), fractionPart_point more power]
      exact ⟨fun none => run.1 none.1, power⟩
    | fraction run =>
      have front : ∀ c ∈ ([] : List Char), c.isDigit = true := by simp
      rw [List.cons_append, ← List.nil_append ('.' :: _), Text.takeWhile_run front (point _),
        Text.dropWhile_run front (point _), fractionPart_point run.2 power]
      exact ⟨fun none => run.1 none.2, power⟩

/-! ## Characters of a decimal number -/

/-- The characters that a decimal number can have. -/
def isDecimalChar (c : Char) : Bool :=
  c.isDigit || c = '.' || c = 'e' || c = 'E' || c = '+' || c = '-'

/-- The characters that a decimal number without a sign can start with. -/
def startsDecimal (c : Char) : Bool :=
  c.isDigit || c = '.'

theorem isDecimalChar_of_isDigit {c : Char} (digit : c.isDigit = true) :
    isDecimalChar c = true := by
  simp [isDecimalChar, digit]

theorem SignForm.isDecimalChar {sign : List Char} (form : SignForm sign) :
    ∀ c ∈ sign, isDecimalChar c = true := by
  cases form <;> simp [Build.isDecimalChar]

theorem DecimalForm.isDecimalChar {cs : List Char} (form : DecimalForm cs) :
    ∀ c ∈ cs, isDecimalChar c = true := by
  obtain ⟨mantissa, exponent, number, power, rfl⟩ := form
  have point : Build.isDecimalChar '.' = true := by decide
  have all {digits : List Char} (each : ∀ c ∈ digits, c.isDigit = true) :
      ∀ c ∈ digits, Build.isDecimalChar c = true :=
    fun c member => isDecimalChar_of_isDigit (each c member)
  refine List.forall_mem_append.2 ⟨?_, ?_⟩
  · cases number with
    | whole run => exact all run.2
    | point run more =>
      exact List.forall_mem_append.2 ⟨all run.2, List.forall_mem_cons.2 ⟨point, all more⟩⟩
    | fraction run => exact List.forall_mem_cons.2 ⟨point, all run.2⟩
  · cases power with
    | none => simp
    | power letter sign run =>
      refine List.forall_mem_cons.2 ⟨by rcases letter with rfl | rfl <;> decide, ?_⟩
      exact List.forall_mem_append.2 ⟨sign.isDecimalChar, all run.2⟩

theorem DecimalForm.starts {cs : List Char} (form : DecimalForm cs) :
    ∃ c rest, cs = c :: rest ∧ startsDecimal c = true := by
  obtain ⟨mantissa, exponent, number, power, rfl⟩ := form
  have first {digits : List Char} (run : IsRun Char.isDigit digits) (rest : List Char) :
      ∃ c more, digits ++ rest = c :: more ∧ startsDecimal c = true := by
    obtain ⟨c, more, rfl⟩ := List.exists_cons_of_ne_nil run.1
    exact ⟨c, more ++ rest, rfl, by simp [startsDecimal, run.2 c (by simp)]⟩
  cases number with
  | whole run => exact first run exponent
  | point run more =>
    rw [List.append_assoc]
    exact first run _
  | fraction run => exact ⟨'.', _, rfl, by decide⟩

/-! ## Numbers with a sign -/

theorem ofDecimal_ne_nan (negative : Bool) (digits : Nat) (exponent : Int) :
    Binary64.ofDecimal negative digits exponent ≠ .nan := by
  unfold Binary64.ofDecimal
  simp only [Binary64.zero]
  split
  · simp
  · split
    · simp
    · split
      · simp
      · exact ofRatio_ne_nan _ _ _

theorem ofSigned_eq_nan_iff (cs : List Char) :
    ofSigned cs = .nan ↔
      ¬ ((splitSign cs).2 = "Infinity".toList ∨ DecimalForm (splitSign cs).2) := by
  rw [← isSome_ofChars?_iff]
  unfold ofSigned
  simp only
  split
  · simp_all
  · split
    · rename_i d read
      simp [read, DecimalText.value, ofDecimal_ne_nan]
    · rename_i read
      simp_all

/-! ## Numbers of a base -/

/-- The digits behind the zero and the letter of a base. -/
def Base.strip? (b : Base) : List Char → Option (List Char)
  | '0' :: letter :: digits => if letter ∈ b.letters then some digits else none
  | _ => none

/-- The base that a text announces, and the digits behind the letter. -/
def announced? (cs : List Char) : Option (Base × List Char) :=
  [Base.hexadecimal, .octal, .binary].findSome? fun b => (b.strip? cs).map (b, ·)

theorem Base.eq_of_strip? {b : Base} {cs digits : List Char} (h : b.strip? cs = some digits) :
    ∃ letter ∈ b.letters, cs = '0' :: letter :: digits := by
  unfold strip? at h
  split at h
  · rename_i letter rest
    split at h
    · rename_i member
      cases h
      exact ⟨letter, member, rfl⟩
    · cases h
  · cases h

theorem announced?_eq_some_iff {b : Base} {cs digits : List Char} :
    announced? cs = some (b, digits) ↔ ∃ letter ∈ b.letters, cs = '0' :: letter :: digits := by
  constructor
  · intro found
    obtain ⟨b', -, stripped⟩ := List.exists_of_findSome?_eq_some found
    obtain ⟨rest, strip, same⟩ := Option.map_eq_some_iff.1 stripped
    cases same
    exact Base.eq_of_strip? strip
  · rintro ⟨letter, member, rfl⟩
    cases b <;>
    · simp only [Base.letters, List.mem_cons, List.not_mem_nil, or_false] at member
      rcases member with rfl | rfl <;> rfl

theorem ofTrimmed_announced {b : Base} {cs digits : List Char}
    (announced : announced? cs = some (b, digits)) : ofTrimmed cs = ofRadix b.radix digits := by
  obtain ⟨letter, member, rfl⟩ := announced?_eq_some_iff.1 announced
  cases b <;>
  · simp only [Base.letters, List.mem_cons, List.not_mem_nil, or_false] at member
    rcases member with rfl | rfl <;> rfl

theorem ofTrimmed_unannounced {cs : List Char} (some : cs ≠ [])
    (unannounced : announced? cs = none) : ofTrimmed cs = ofSigned cs := by
  have other (b : Base) (letter : Char) (member : letter ∈ b.letters) (digits : List Char) :
      cs ≠ '0' :: letter :: digits := fun same => by
    have := announced?_eq_some_iff.2 ⟨letter, member, same⟩
    rw [unannounced] at this
    cases this
  unfold ofTrimmed
  split
  · exact absurd rfl some
  · exact absurd rfl (other .hexadecimal 'x' (by simp [Base.letters]) _)
  · exact absurd rfl (other .hexadecimal 'X' (by simp [Base.letters]) _)
  · exact absurd rfl (other .octal 'o' (by simp [Base.letters]) _)
  · exact absurd rfl (other .octal 'O' (by simp [Base.letters]) _)
  · exact absurd rfl (other .binary 'b' (by simp [Base.letters]) _)
  · exact absurd rfl (other .binary 'B' (by simp [Base.letters]) _)
  · rfl

/-! ## Which texts are numbers -/

theorem Base.not_isDecimalChar {b : Base} {letter : Char} (member : letter ∈ b.letters) :
    isDecimalChar letter = false := by
  cases b <;>
  · simp only [Base.letters, List.mem_cons, List.not_mem_nil, or_false] at member
    rcases member with rfl | rfl <;> decide

theorem DecimalForm.ends_isSign {cs : List Char} (form : DecimalForm cs) : Text.Ends isSign cs := by
  obtain ⟨c, rest, rfl, start⟩ := form.starts
  simp only [startsDecimal, Bool.or_eq_true, decide_eq_true_eq] at start
  rcases start with digit | rfl
  · exact ends_isSign_of_isDigit digit rest
  · exact Text.ends_cons.2 (by decide)

theorem announced?_decimal {sign rest : List Char} (form : SignForm sign)
    (number : DecimalForm rest) : announced? (sign ++ rest) = none := by
  cases found : announced? (sign ++ rest) with
  | none => rfl
  | some d =>
    obtain ⟨letter, member, text⟩ := announced?_eq_some_iff.1 found
    have decimal : isDecimalChar letter = true := by
      have all := List.forall_mem_append.2 ⟨form.isDecimalChar, number.isDecimalChar⟩
      exact all letter (by simp [text])
    rw [Base.not_isDecimalChar member] at decimal
    cases decimal

/-- A number is a number of the base that it announces, or else a number with a sign. -/
theorem numberForm_iff (cs : List Char) :
    NumberForm cs ↔
      (∃ b digits, announced? cs = some (b, digits) ∧ IsRun b.isDigit digits) ∨
      announced? cs = none ∧
        ((splitSign cs).2 = "Infinity".toList ∨ DecimalForm (splitSign cs).2) := by
  constructor
  · intro form
    cases form with
    | based b member run =>
      exact .inl ⟨b, _, announced?_eq_some_iff.2 ⟨_, member, rfl⟩, run⟩
    | infinity sign => cases sign <;> exact .inr ⟨rfl, .inl rfl⟩
    | decimal sign number =>
      refine .inr ⟨announced?_decimal sign number, .inr ?_⟩
      rw [splitSign_append sign number.ends_isSign]
      exact number
  · rintro (⟨b, digits, announced, run⟩ | ⟨-, number⟩)
    · obtain ⟨letter, member, rfl⟩ := announced?_eq_some_iff.1 announced
      exact .based b member run
    · obtain ⟨sign, form, text⟩ := exists_sign cs
      rw [text]
      rcases number with word | number
      · rw [word]
        exact .infinity form
      · exact .decimal form number

theorem ofTrimmed_eq_nan_iff (cs : List Char) :
    ofTrimmed cs = .nan ↔ cs ≠ [] ∧ ¬ NumberForm cs := by
  by_cases empty : cs = []
  · subst empty
    refine iff_of_false ?_ fun text => text.1 rfl
    simp [ofTrimmed, Binary64.zero]
  rw [numberForm_iff]
  cases announced : announced? cs with
  | none =>
    rw [ofTrimmed_unannounced empty announced, ofSigned_eq_nan_iff]
    simp [empty]
  | some d =>
    obtain ⟨b, digits⟩ := d
    rw [ofTrimmed_announced announced, ofRadix_eq_nan_iff]
    simp [empty]

end ScriptTree.Build
