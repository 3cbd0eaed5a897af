import ContactSegments.Json.Token
import ContactSegments.Json.Written
import ContactSegments.Proofs.Text.Digits

/-! # The tokens of written text

The text of a value splits into the tokens that the value has. Strings may have any characters, and
numbers are those that are kept exactly.
-/

namespace ContactSegments

open Text

namespace Json

mutual

/-- No number of the value is rounded. -/
def Exact : Json → Prop
  | .number (.integer i) => Token.fitsWord i = true
  | .number (.decimal _ _ _) => False
  | .array items => ExactItems items
  | .object members => ExactMembers members
  | .null | .bool _ | .string _ => True

def ExactItems : List Json → Prop
  | [] => True
  | item :: items => item.Exact ∧ ExactItems items

def ExactMembers : List (String × Json) → Prop
  | [] => True
  | (_, value) :: members => value.Exact ∧ ExactMembers members

end

mutual

/-- The tokens of the text of a value. -/
def tokens : Json → List Token
  | .null => [.null]
  | .bool b => [.bool b]
  | .number n => [.number n]
  | .string s => [.string (some s)]
  | .array [] => [.mark '[', .mark ']']
  | .array (item :: items) => .mark '[' :: item.tokens ++ tokensOfItems items
  | .object [] => [.mark '\x7b', .mark '\x7d']
  | .object ((key, value) :: members) =>
    .mark '\x7b' :: .string (some key) :: .mark ':' :: value.tokens ++ tokensOfMembers members

/-- The items after the first one, and the end of the array. -/
def tokensOfItems : List Json → List Token
  | [] => [.mark ']']
  | item :: items => .mark ',' :: item.tokens ++ tokensOfItems items

/-- The members after the first one, and the end of the object. -/
def tokensOfMembers : List (String × Json) → List Token
  | [] => [.mark '\x7d']
  | (key, value) :: members =>
    .mark ',' :: .string (some key) :: .mark ':' :: value.tokens ++ tokensOfMembers members

end

end Json

namespace Token

/-- A character that a number can go on with. -/
def goesOn (c : Char) : Bool := c.isDigit || c == '.' || c == 'e' || c == 'E'

theorem ofChars_starting {c : Char} {cs : List Char} {token : Token} {n : Nat}
    (visible : isGap c = false) (starts : starting c cs = (token, n)) (sound : token ≠ .fault) :
    ofChars (c :: cs) = token :: ofChars (cs.drop n) := by
  rw [ofChars, visible, starts]
  simp only [Bool.false_eq_true, if_false]

theorem ofChars_mark {c : Char} (mark : isMark c = true) (cs : List Char) :
    ofChars (c :: cs) = .mark c :: ofChars cs := by
  have visible : isGap c = false := by
    simp only [isMark, Bool.or_eq_true, beq_iff_eq] at mark
    rcases mark with ((((rfl | rfl) | rfl) | rfl) | rfl) | rfl <;> rfl
  exact ofChars_starting visible (if_pos mark) nofun

/-- Blanks in front of a token count for nothing. -/
theorem ofChars_gap {gap : List Char} (blank : ∀ c ∈ gap, isGap c = true) (cs : List Char) :
    ofChars (gap ++ cs) = ofChars cs := by
  induction gap with
  | nil => rfl
  | cons c gap ih =>
      obtain ⟨first, others⟩ := List.forall_mem_cons.mp blank
      rw [List.cons_append, ofChars, if_pos first, ih others]

theorem escape?_of_shortEscape? {c letter : Char} (short : Json.shortEscape? c = some letter) :
    escape? letter = some c.toNat ∧ letter ≠ 'u' := by
  unfold Json.shortEscape? at short
  repeat' split at short
  all_goals cases short
  all_goals subst_vars
  all_goals exact ⟨rfl, by decide⟩

theorem stringCodes_escape {letter : Char} (other : letter ≠ 'u') (cs : List Char) :
    stringCodes ('\\' :: letter :: cs) = (do
      let code ← escape? letter
      let read ← stringCodes cs
      return (code :: read.1, read.2 + 2)) := by
  rw [stringCodes]
  intro a b c d cs same
  exact absurd same other

theorem stringCodes_plain {c : Char} (visible : ¬c < ' ') (unquoted : c ≠ '"') (unescaped : c ≠ '\\')
    (cs : List Char) :
    stringCodes (c :: cs) = (stringCodes cs).map fun read => (c.toNat :: read.1, read.2 + 1) := by
  rw [stringCodes, if_neg visible]
  · cases stringCodes cs <;> rfl
  · exact unquoted
  · intro a b c d cs same
    exact absurd same unescaped
  · intro a cs same
    exact absurd same unescaped

theorem stringCodes_code {n : Nat} (small : n < 16 ^ 4) (cs : List Char) :
    stringCodes ('\\' :: 'u' :: hexDigits 4 n ++ cs) =
      (stringCodes cs).map fun read => (n :: read.1, read.2 + 6) := by
  have digits := hexNumber?_hexDigits 4 n
  rw [Nat.mod_eq_of_lt small] at digits
  obtain ⟨a, b, c, d, four⟩ : ∃ a b c d, hexDigits 4 n = [a, b, c, d] := ⟨_, _, _, _, rfl⟩
  rw [four] at digits ⊢
  simp only [List.cons_append, List.nil_append, stringCodes, hexQuad?, digits]
  cases stringCodes cs <;> rfl

theorem stringCodes_writtenChar (c : Char) (cs : List Char) :
    stringCodes (Json.writtenChar c ++ cs) =
      (stringCodes cs).map fun read =>
        (c.toNat :: read.1, read.2 + (Json.writtenChar c).length) := by
  unfold Json.writtenChar
  split
  · rename_i letter short
    obtain ⟨code, other⟩ := escape?_of_shortEscape? short
    rw [List.cons_append, List.cons_append, List.nil_append, stringCodes_escape other, code]
    cases stringCodes cs <;> rfl
  · rename_i long
    split
    · rename_i control
      have small : c.toNat < 16 ^ 4 := Nat.lt_trans control (by decide)
      rw [stringCodes_code small]
      simp
    · rename_i visible
      have unquoted : c ≠ '"' := by rintro rfl; cases long
      have unescaped : c ≠ '\\' := by rintro rfl; cases long
      exact stringCodes_plain visible unquoted unescaped cs

theorem stringCodes_written (chars rest : List Char) :
    stringCodes (chars.flatMap Json.writtenChar ++ '"' :: rest) =
      some (chars.map Char.toNat, (chars.flatMap Json.writtenChar).length + 1) := by
  induction chars with
  | nil => rw [List.flatMap_nil, List.nil_append, stringCodes]; rfl
  | cons c chars ih =>
      rw [List.flatMap_cons, List.append_assoc, stringCodes_writtenChar, ih]
      simp only [Option.map_some, List.map_cons, List.length_append, Option.some.injEq, Prod.mk.injEq,
        true_and]
      omega

/-- The code of a character is not that of a surrogate. -/
theorem not_surrogate (c : Char) :
    isHighSurrogate c.toNat = false ∧ isLowSurrogate c.toNat = false := by
  have valid : c.toNat < 0xD800 ∨ 0xDFFF < c.toNat ∧ c.toNat < 0x110000 := c.valid
  simp only [isHighSurrogate, isLowSurrogate, Bool.and_eq_false_iff, decide_eq_false_iff_not]
  omega

theorem charsOfCodes_toNat (chars : List Char) : charsOfCodes (chars.map Char.toNat) = some chars := by
  induction chars with
  | nil => rfl
  | cons c chars ih =>
      obtain ⟨high, low⟩ := not_surrogate c
      cases chars with
      | nil => simp [charsOfCodes, high, low]
      | cons d chars =>
          simp only [List.map_cons] at ih ⊢
          simp [charsOfCodes, high, low, ih]

theorem ofChars_string (s : String) (rest : List Char) :
    ofChars (Json.writtenString s ++ rest) = .string (some s) :: ofChars rest := by
  have read : starting '"' (s.toList.flatMap Json.writtenChar ++ '"' :: rest) =
      (.string (some s), (s.toList.flatMap Json.writtenChar).length + 1) := by
    simp [starting, isMark, stringCodes_written, charsOfCodes_toNat]
  have split : Json.writtenString s ++ rest =
      '"' :: (s.toList.flatMap Json.writtenChar ++ '"' :: rest) := by
    simp [Json.writtenString]
  rw [split, ofChars_starting rfl read nofun, ← List.drop_drop, List.drop_left]
  rfl

/-- A number is written without leading zeros. -/
theorem head?_toDigits {n : Nat} (tens : 10 ≤ n) : (Nat.toDigits 10 n).head? ≠ some '0' := by
  induction n using Nat.strongRecOn with
  | ind n ih =>
      obtain ⟨c, cs, front⟩ := List.exists_cons_of_length_pos
        (Nat.length_toDigits_pos (b := 10) (n := n / 10))
      have same : (Nat.toDigits 10 n).head? = (Nat.toDigits 10 (n / 10)).head? := by
        rw [Nat.toDigits_of_base_le (by decide) tens, front]
        rfl
      rw [same]
      rcases Nat.lt_or_ge (n / 10) 10 with small | more
      · have first : ∀ d < 10, 0 < d → Nat.digitChar d ≠ '0' := by decide
        rw [Nat.toDigits_of_lt_base small]
        intro zero
        exact first _ small (by omega) (Option.some.inj zero)
      · exact ih (n / 10) (by omega) more

theorem le_ofDigitChars (digits : List Char) (n : Nat) : n ≤ Nat.ofDigitChars 10 digits n := by
  induction digits generalizing n with
  | nil => exact Nat.le_refl n
  | cons d digits ih =>
      rw [Nat.ofDigitChars_cons]
      exact Nat.le_trans (by omega) (ih _)

theorem extend_eq {digits : List Char} {mantissa : Nat}
    (fits : Nat.ofDigitChars 10 digits mantissa < wordBound) :
    extend mantissa digits = (Nat.ofDigitChars 10 digits mantissa, 0) := by
  induction digits generalizing mantissa with
  | nil => rfl
  | cons d digits ih =>
      have longer : Nat.ofDigitChars 10 (d :: digits) mantissa =
          Nat.ofDigitChars 10 digits (Nat.ofDigitChars 10 [d] mantissa) := by
        simp only [Nat.ofDigitChars_cons, Nat.ofDigitChars_nil]
      rw [longer] at fits ⊢
      have part := Nat.lt_of_le_of_lt (le_ofDigitChars digits _) fits
      rw [extend, if_pos part]
      exact ih fits

theorem numberOfParts_toDigits {negative : Bool} {n : Nat} {i : Int}
    (value : (if negative then -(n : Int) else n) = i) (fits : fitsWord i = true)
    (zero : negative = true → n ≠ 0) :
    numberOfParts negative (Nat.toDigits 10 n) none none = .integer i := by
  have small : n < wordBound := by
    obtain ⟨low, high⟩ : -(signedWordBound : Int) ≤ i ∧ i < wordBound := by simpa [fitsWord] using fits
    simp only [wordBound, signedWordBound] at low high ⊢
    cases negative with
    | false =>
        have same : (n : Int) = i := value
        omega
    | true =>
        have same : -(n : Int) = i := value
        omega
  have read : extend 0 (Nat.toDigits 10 n) = (n, 0) := by
    rw [extend_eq] <;> rw [Nat.ofDigitChars_ten_toDigits]
    exact small
  have signed : (negative && n == 0) = false := by
    cases negative with
    | false => rfl
    | true => simpa using zero rfl
  simp only [numberOfParts, read, Option.getD_none, extend, value, fits, signed]
  rfl

theorem unsignedNumber_toDigits {negative : Bool} {n : Nat} {i : Int}
    (value : (if negative then -(n : Int) else n) = i) (fits : fitsWord i = true)
    (zero : negative = true → n ≠ 0) {rest : List Char} (halts : Halts goesOn rest) :
    unsignedNumber negative (Nat.toDigits 10 n ++ rest) =
      some (.integer i, (Nat.toDigits 10 n).length) := by
  have decimal : ∀ c ∈ Nat.toDigits 10 n, c.isDigit = true :=
    fun c within => Nat.isDigit_of_mem_toDigits (by decide) (by decide) within
  have stops : Halts Char.isDigit rest := halts.mono fun c digit => by simp [goesOn, digit]
  have count : digitCount (Nat.toDigits 10 n ++ rest) = (Nat.toDigits 10 n).length := by
    rw [digitCount, takeWhile_append_halts decimal stops]
  have some_digit : (Nat.toDigits 10 n).length ≠ 0 := Nat.pos_iff_ne_zero.mp Nat.length_toDigits_pos
  have whole : (Nat.toDigits 10 n ++ rest).take (Nat.toDigits 10 n).length = Nat.toDigits 10 n :=
    List.take_left
  have after : (Nat.toDigits 10 n ++ rest).drop (Nat.toDigits 10 n).length = rest := List.drop_left
  have leading : ((Nat.toDigits 10 n).length = 0 || ((Nat.toDigits 10 n).length ≥ 2 &&
      (Nat.toDigits 10 n).head? == some '0')) = false := by
    rw [Bool.or_eq_false_iff, Bool.and_eq_false_imp]
    refine ⟨decide_eq_false some_digit, fun several => ?_⟩
    refine beq_eq_false_iff_ne.mpr (head?_toDigits (Nat.not_lt.mp fun small => ?_))
    rw [Nat.toDigits_of_lt_base small] at several
    exact absurd (of_decide_eq_true several) (by simp)
  have read := numberOfParts_toDigits value fits zero
  simp only [unsignedNumber, count, whole, after, leading]
  cases rest with
  | nil => simp [read]
  | cons c rest =>
    have other : goesOn c = false := halts c rfl
    simp [goesOn] at other
    simp [read, other]

theorem starting_digit {c : Char} (digit : c.isDigit = true) {cs : List Char} {n : Nat}
    {value : JsonNumber} (read : unsignedNumber false (c :: cs) = some (value, n)) :
    isGap c = false ∧ starting c cs = (.number value, n - 1) := by
  have other : ∀ d, d.isDigit = false → c ≠ d := by
    rintro d letter rfl
    rw [digit] at letter
    cases letter
  have plain : isGap c = false ∧ isMark c = false := by
    simp [isGap, isMark, other]
  refine ⟨plain.1, ?_⟩
  simp [starting, plain.2, other, read]

theorem ofChars_integer {i : Int} (fits : fitsWord i = true) {rest : List Char}
    (halts : Halts goesOn rest) :
    ofChars (writtenInt i ++ rest) = .number (.integer i) :: ofChars rest := by
  unfold writtenInt
  split
  · rename_i below
    have value : (if true then -(i.natAbs : Int) else i.natAbs) = i := by
      rw [if_pos rfl]
      omega
    have read := unsignedNumber_toDigits value fits (fun _ => by omega) halts
    have starts : starting '-' (Nat.toDigits 10 i.natAbs ++ rest) =
        (.number (.integer i), (Nat.toDigits 10 i.natAbs).length) := by
      simp [starting, isMark, read]
    rw [List.cons_append, ofChars_starting rfl starts nofun, List.drop_left]
  · rename_i above
    have value : (if false = true then -(i.toNat : Int) else i.toNat) = i := by
      rw [if_neg nofun]
      omega
    have read := unsignedNumber_toDigits value fits nofun halts
    have decimal : ∀ c ∈ Nat.toDigits 10 i.toNat, c.isDigit = true :=
      fun c within => Nat.isDigit_of_mem_toDigits (by decide) (by decide) within
    obtain ⟨c, cs, written⟩ := List.exists_cons_of_length_pos
      (Nat.length_toDigits_pos (b := 10) (n := i.toNat))
    rw [written, List.cons_append] at read
    rw [written] at decimal
    obtain ⟨visible, starts⟩ := starting_digit (decimal c List.mem_cons_self) read
    rw [written, List.cons_append, ofChars_starting visible starts nofun]
    simp

theorem ofChars_word (token : Token) {c : Char} {letters : List Char} (visible : isGap c = false)
    (starts : ∀ cs, starting c cs = word token letters cs) (sound : token ≠ .fault)
    (rest : List Char) : ofChars (c :: letters ++ rest) = token :: ofChars rest := by
  have read : starting c (letters ++ rest) = (token, letters.length) := by
    rw [starts, word, if_pos (by simp)]
  rw [List.cons_append, ofChars_starting visible read sound, List.drop_left]

theorem halts_writtenItems (items : List Json) (rest : List Char) :
    Halts goesOn (Json.writtenItems items ++ rest) := by
  cases items <;> exact .cons rfl

theorem halts_writtenMembers (members : List (String × Json)) (rest : List Char) :
    Halts goesOn (Json.writtenMembers members ++ rest) := by
  rcases members with _ | ⟨⟨key, value⟩, members⟩ <;> exact .cons rfl

mutual

/-- The tokens of written text are those of the value. -/
theorem ofChars_written {j : Json} (exact : j.Exact) {rest : List Char} (halts : Halts goesOn rest) :
    ofChars (j.written ++ rest) = j.tokens ++ ofChars rest := by
  cases j with
  | null => exact ofChars_word .null rfl (fun _ => rfl) nofun rest
  | bool b =>
      cases b with
      | true => exact ofChars_word (.bool true) rfl (fun _ => rfl) nofun rest
      | false => exact ofChars_word (.bool false) rfl (fun _ => rfl) nofun rest
  | number n =>
      cases n with
      | integer i => exact ofChars_integer exact halts
      | decimal negative mantissa exponent => exact exact.elim
  | string s => exact ofChars_string s rest
  | array items =>
      cases items with
      | nil =>
          simp only [Json.written, List.cons_append, List.nil_append]
          rw [ofChars_mark rfl, ofChars_mark rfl]
          rfl
      | cons item items =>
          obtain ⟨first, more⟩ := exact
          simp only [Json.written, List.cons_append, List.append_assoc]
          rw [ofChars_mark rfl, ofChars_written first (halts_writtenItems items rest),
            ofChars_writtenItems more rest]
          simp [Json.tokens]
  | object members =>
      cases members with
      | nil =>
          simp only [Json.written, List.cons_append, List.nil_append]
          rw [ofChars_mark rfl, ofChars_mark rfl]
          rfl
      | cons member members =>
          obtain ⟨key, value⟩ := member
          obtain ⟨first, more⟩ := exact
          simp only [Json.written, List.cons_append, List.append_assoc]
          rw [ofChars_mark rfl, ofChars_string, ofChars_mark rfl,
            ofChars_written first (halts_writtenMembers members rest),
            ofChars_writtenMembers more rest]
          simp [Json.tokens]

theorem ofChars_writtenItems {items : List Json} (exact : Json.ExactItems items)
    (rest : List Char) :
    ofChars (Json.writtenItems items ++ rest) = Json.tokensOfItems items ++ ofChars rest := by
  cases items with
  | nil => exact ofChars_mark rfl rest
  | cons item items =>
      obtain ⟨first, more⟩ := exact
      simp only [Json.writtenItems, List.cons_append, List.append_assoc]
      rw [ofChars_mark rfl, ofChars_written first (halts_writtenItems items rest),
        ofChars_writtenItems more rest]
      simp [Json.tokensOfItems]

theorem ofChars_writtenMembers {members : List (String × Json)} (exact : Json.ExactMembers members)
    (rest : List Char) :
    ofChars (Json.writtenMembers members ++ rest) =
      Json.tokensOfMembers members ++ ofChars rest := by
  cases members with
  | nil => exact ofChars_mark rfl rest
  | cons member members =>
      obtain ⟨key, value⟩ := member
      obtain ⟨first, more⟩ := exact
      simp only [Json.writtenMembers, List.cons_append, List.append_assoc]
      rw [ofChars_mark rfl, ofChars_string, ofChars_mark rfl,
        ofChars_written first (halts_writtenMembers members rest),
        ofChars_writtenMembers more rest]
      simp [Json.tokensOfMembers]

end

theorem ofText_text {j : Json} (exact : j.Exact) : ofText j.text = j.tokens := by
  have read := ofChars_written exact .nil
  rw [List.append_nil] at read
  rw [ofText, Json.text, String.toList_ofList, read, ofChars, List.append_nil]

end Token

end ContactSegments
