import ContactSegments.Proofs.Text.Digits
import ContactSegments.Proofs.Text.Folding
import ContactSegments.Settings.Value

/-! # Texts of single values

A variable has a single value when its text is a truth word or a number, and only then does it fit a
setting that wants a text. Any other text is a list, also where it has no comma.
-/

namespace ContactSegments.SettingValue

open Text

/-- What may stand before digits. -/
inductive IsSign : List Char → Prop
  | none : IsSign []
  | plus : IsSign ['+']
  | minus : IsSign ['-']

def AllDigits (cs : List Char) : Prop := ∀ c ∈ cs, c.isDigit = true

/-- A power of ten after the digits of a number. -/
inductive IsPower : List Char → Prop
  | none : IsPower []
  | given (signed : IsSign sign) (decimal : AllDigits digits) (some_digit : digits ≠ []) :
    IsPower ('e' :: (sign ++ digits))

/-- A number without its sign. -/
inductive IsSize : List Char → Prop
  | undefined : IsSize ['n', 'a', 'n']
  | infinite : IsSize ['i', 'n', 'f']
  | infinity : IsSize ['i', 'n', 'f', 'i', 'n', 'i', 't', 'y']
  /-- Digits without a point. -/
  | whole (decimal : AllDigits digits) (some_digit : digits ≠ []) (power : IsPower exponent) :
    IsSize (digits ++ exponent)
  /-- Digits around a point, of which one side may have none. -/
  | broken (decimal : AllDigits digits) (decimal' : AllDigits fraction)
    (some_digit : digits ++ fraction ≠ []) (power : IsPower exponent) :
    IsSize (digits ++ '.' :: (fraction ++ exponent))

inductive IsNumber : List Char → Prop
  | signed (sign_ok : IsSign sign) (size_ok : IsSize size) : IsNumber (sign ++ size)

/-- Whether a text does not begin with a sign. -/
def Bare (cs : List Char) : Prop := ∀ c ∈ cs.head?, c ≠ '+' ∧ c ≠ '-'

theorem splitSign_of_bare {cs : List Char} (bare : Bare cs) : splitSign cs = (false, cs) := by
  cases cs with
  | nil => rfl
  | cons c cs =>
      obtain ⟨not_plus, not_minus⟩ := bare c rfl
      unfold splitSign
      split
      · rename_i same
        exact absurd (List.cons.inj same).1 not_minus
      · rename_i same
        exact absurd (List.cons.inj same).1 not_plus
      · rfl

theorem splitSign_append {sign cs : List Char} (signed : IsSign sign) (bare : Bare cs) :
    (splitSign (sign ++ cs)).2 = cs := by
  cases signed with
  | none => exact congrArg Prod.snd (splitSign_of_bare bare)
  | plus => rfl
  | minus => rfl

theorem exists_sign (cs : List Char) : ∃ sign, IsSign sign ∧ cs = sign ++ (splitSign cs).2 := by
  unfold splitSign
  split
  · exact ⟨['-'], .minus, rfl⟩
  · exact ⟨['+'], .plus, rfl⟩
  · exact ⟨[], .none, rfl⟩

theorem AllDigits.bare_append {digits : List Char} (decimal : AllDigits digits)
    (some_digit : digits ≠ []) (cs : List Char) : Bare (digits ++ cs) := by
  obtain ⟨d, ds, rfl⟩ := List.exists_cons_of_ne_nil some_digit
  intro c first
  obtain rfl : d = c := by simpa using first
  have digit := decimal d List.mem_cons_self
  constructor <;> (rintro rfl; simp at digit)

theorem AllDigits.bare {digits : List Char} (decimal : AllDigits digits)
    (some_digit : digits ≠ []) : Bare digits := by
  simpa using decimal.bare_append some_digit []

theorem IsSize.bare {cs : List Char} (size : IsSize cs) : Bare cs := by
  cases size with
  | undefined => simp [Bare]
  | infinite => simp [Bare]
  | infinity => simp [Bare]
  | whole decimal some_digit power => exact decimal.bare_append some_digit _
  | broken decimal decimal' some_digit power =>
      rename_i digits fraction exponent
      cases digits with
      | nil => simp [Bare]
      | cons d digits => exact decimal.bare_append (List.cons_ne_nil _ _) _

theorem isNumber_iff {cs : List Char} : IsNumber cs ↔ IsSize (splitSign cs).2 := by
  constructor
  · rintro ⟨signed, size⟩
    rwa [splitSign_append signed size.bare]
  · intro size
    obtain ⟨sign, signed, split⟩ := exists_sign cs
    rw [split]
    exact .signed signed size

theorem exponentOf?_isSome_iff {cs : List Char} : (exponentOf? cs).isSome ↔ IsPower cs := by
  cases cs with
  | nil => exact ⟨fun _ => .none, fun _ => rfl⟩
  | cons c cs =>
      have read : (exponentOf? (c :: cs)).isSome ↔
          c = 'e' ∧ (splitSign cs).2 ≠ [] ∧ AllDigits (splitSign cs).2 := by
        simp only [exponentOf?]
        split_ifs with fits <;> simpa [AllDigits, and_assoc] using fits
      rw [read]
      constructor
      · rintro ⟨letter, some_digit, decimal⟩
        obtain ⟨sign, signed, split⟩ := exists_sign cs
        rw [letter, split]
        exact .given signed decimal some_digit
      · intro power
        cases power with
        | given signed decimal some_digit =>
            rw [splitSign_append signed (decimal.bare some_digit)]
            exact ⟨rfl, some_digit, decimal⟩

theorem IsPower.halts {cs : List Char} (power : IsPower cs) : Halts Char.isDigit cs := by
  cases power with
  | none => exact .nil
  | given => exact .cons rfl

/-- The digits after a point, and what follows them. -/
def splitFraction (cs : List Char) : List Char × List Char :=
  match cs with
  | '.' :: ds => (ds.takeWhile Char.isDigit, ds.dropWhile Char.isDigit)
  | _ => ([], cs)

/-- The digits before a point, those after it, and what follows them. -/
def splitDigits (cs : List Char) : List Char × List Char × List Char :=
  (cs.takeWhile Char.isDigit, splitFraction (cs.dropWhile Char.isDigit))

/-- The reader of numbers with its parts named. -/
theorem realOf?_eq (cs : List Char) :
    realOf? cs =
      let (negative, size) := splitSign cs
      if size = ['n', 'a', 'n'] then some .nan
      else if size = ['i', 'n', 'f'] ∨ size = ['i', 'n', 'f', 'i', 'n', 'i', 't', 'y'] then
        some (.infinite negative)
      else
        let (digits, fraction, exponent) := splitDigits size
        if (digits ++ fraction).isEmpty then none
        else
          (exponentOf? exponent).map fun power =>
            .ofDecimal negative (Nat.ofDigitChars 10 (digits ++ fraction) 0)
              (power - fraction.length) :=
  rfl

theorem allDigits_takeWhile (cs : List Char) : AllDigits (cs.takeWhile Char.isDigit) :=
  List.all_eq_true.mp List.all_takeWhile

theorem splitDigits_joined {cs digits fraction exponent : List Char}
    (split : splitDigits cs = (digits, fraction, exponent)) :
    AllDigits digits ∧ AllDigits fraction ∧
      (cs = digits ++ exponent ∧ fraction = [] ∨ cs = digits ++ '.' :: (fraction ++ exponent)) := by
  obtain ⟨rfl, rest⟩ := Prod.mk.inj split
  have front := allDigits_takeWhile cs
  unfold splitFraction at rest
  split at rest
  · rename_i ds after
    obtain ⟨rfl, rfl⟩ := Prod.mk.inj rest
    refine ⟨front, allDigits_takeWhile ds, .inr ?_⟩
    rw [List.takeWhile_append_dropWhile, ← after, List.takeWhile_append_dropWhile]
  · obtain ⟨rfl, rfl⟩ := Prod.mk.inj rest
    exact ⟨front, by simp [AllDigits], .inl ⟨List.takeWhile_append_dropWhile.symm, rfl⟩⟩

theorem splitDigits_whole {digits exponent : List Char} (decimal : AllDigits digits)
    (power : IsPower exponent) : splitDigits (digits ++ exponent) = (digits, [], exponent) := by
  have after : splitFraction exponent = ([], exponent) := by cases power <;> rfl
  rw [splitDigits, takeWhile_append_halts decimal power.halts,
    dropWhile_append_halts decimal power.halts, after]

theorem splitDigits_broken {digits fraction exponent : List Char} (decimal : AllDigits digits)
    (decimal' : AllDigits fraction) (power : IsPower exponent) :
    splitDigits (digits ++ '.' :: (fraction ++ exponent)) = (digits, fraction, exponent) := by
  have point : Halts Char.isDigit ('.' :: (fraction ++ exponent)) := .cons rfl
  rw [splitDigits, takeWhile_append_halts decimal point, dropWhile_append_halts decimal point,
    splitFraction, takeWhile_append_halts decimal' power.halts,
    dropWhile_append_halts decimal' power.halts]

/-- A size begins like a word or like digits. -/
theorem isSize_iff {cs : List Char} :
    IsSize cs ↔
      cs = ['n', 'a', 'n'] ∨ cs = ['i', 'n', 'f'] ∨ cs = ['i', 'n', 'f', 'i', 'n', 'i', 't', 'y'] ∨
        (splitDigits cs).1 ++ (splitDigits cs).2.1 ≠ [] ∧ IsPower (splitDigits cs).2.2 := by
  constructor
  · intro size
    cases size with
    | undefined => exact .inl rfl
    | infinite => exact .inr (.inl rfl)
    | infinity => exact .inr (.inr (.inl rfl))
    | whole decimal some_digit power =>
        rw [splitDigits_whole decimal power]
        exact .inr (.inr (.inr ⟨by simpa using some_digit, power⟩))
    | broken decimal decimal' some_digit power =>
        rw [splitDigits_broken decimal decimal' power]
        exact .inr (.inr (.inr ⟨some_digit, power⟩))
  · rintro (rfl | rfl | rfl | ⟨some_digit, power⟩)
    · exact .undefined
    · exact .infinite
    · exact .infinity
    · rcases split : splitDigits cs with ⟨digits, fraction, exponent⟩
      rw [split] at some_digit power
      obtain ⟨decimal, decimal', ⟨rfl, rfl⟩ | rfl⟩ := splitDigits_joined split
      · exact .whole decimal (by simpa using some_digit) power
      · exact .broken decimal decimal' some_digit power

theorem realOf?_isSome_iff {cs : List Char} : (realOf? cs).isSome ↔ IsNumber cs := by
  rw [isNumber_iff, isSize_iff, realOf?_eq, ← exponentOf?_isSome_iff]
  dsimp only
  generalize (splitSign cs).2 = size
  split_ifs with undefined infinite empty
  · simp [undefined]
  · rcases infinite with short | long
    · simp [short]
    · simp [long]
  · simp only [List.isEmpty_iff] at empty
    obtain ⟨not_short, not_long⟩ := not_or.mp infinite
    simp [undefined, not_short, not_long, empty]
  · simp only [List.isEmpty_iff] at empty
    obtain ⟨not_short, not_long⟩ := not_or.mp infinite
    simp only [Option.isSome_map, undefined, not_short, not_long, false_or, ne_eq, empty,
      not_false_eq_true, true_and]

theorem toLower_of_isDigit {c : Char} (digit : c.isDigit = true) : c.toLower = c := by
  simp only [Char.isDigit, Bool.and_eq_true, decide_eq_true_eq] at digit
  refine dif_neg fun letter => ?_
  exact absurd (UInt32.le_trans letter.1 digit.2) (by decide)

theorem isNumber_of_wholeOf? {cs : List Char} (read : (wholeOf? cs).isSome) :
    IsNumber (cs.map Char.toLower) := by
  obtain ⟨sign, signed, split⟩ := exists_sign cs
  have digits : (splitSign cs).2 ≠ [] ∧ AllDigits (splitSign cs).2 := by
    simp only [wholeOf?, Option.isSome_ite, Bool.and_eq_true, Bool.not_eq_true',
      List.isEmpty_eq_false_iff, List.all_eq_true] at read
    exact read.1.1
  have same : cs.map Char.toLower = cs := by
    refine (List.map_congr_left fun c within => ?_).trans (List.map_id cs)
    rw [split] at within
    rcases List.mem_append.mp within with mark | digit
    · cases signed with
      | none => exact absurd mark List.not_mem_nil
      | plus => rw [List.mem_singleton.mp mark]; rfl
      | minus => rw [List.mem_singleton.mp mark]; rfl
    · exact toLower_of_isDigit (digits.2 c digit)
  rw [same, isNumber_iff, ← List.append_nil (splitSign cs).2]
  exact .whole digits.2 digits.1 .none

/-- The texts that have a single value. They may be in any case. -/
def IsSingle (s : String) : Prop :=
  folded s.toList = ['t', 'r', 'u', 'e'] ∨ folded s.toList = ['f', 'a', 'l', 's', 'e'] ∨
    IsNumber (s.toList.map Char.toLower)

theorem text?_ofText_isSome_iff (s : String) : (ofText s).text?.isSome ↔ IsSingle s := by
  unfold ofText IsSingle
  dsimp only
  split_ifs with yes no
  · exact iff_of_true rfl (.inl yes)
  · exact iff_of_true rfl (.inr (.inl no))
  · split
    · rename_i read
      exact iff_of_true rfl (.inr (.inr (isNumber_of_wholeOf? (by simp [read]))))
    · split
      · rename_i read
        exact iff_of_true rfl (.inr (.inr (realOf?_isSome_iff.mp (by simp [read]))))
      · rename_i unread
        refine iff_of_false (by simp [text?]) ?_
        rintro (truth | truth | number)
        · exact yes truth
        · exact no truth
        · simpa [unread] using realOf?_isSome_iff.mpr number

/-- The text fits a setting that wants a text, and as it is written. -/
def ReadAsWritten (s : String) : Prop := (ofText s).text? = some s

theorem AllDigits.count_hyphen {cs : List Char} (decimal : AllDigits cs) : cs.count '-' = 0 :=
  List.count_eq_zero_of_not_mem fun within => absurd (decimal _ within) (by decide)

theorem IsSign.count_hyphen_le {cs : List Char} (sign : IsSign cs) : cs.count '-' ≤ 1 := by
  cases sign <;> decide

theorem IsPower.count_hyphen_le {cs : List Char} (power : IsPower cs) : cs.count '-' ≤ 1 := by
  cases power with
  | none => decide
  | given signed decimal some_digit =>
      have := signed.count_hyphen_le
      simp [List.count_append, decimal.count_hyphen, this]

theorem IsSize.count_hyphen_le {cs : List Char} (size : IsSize cs) : cs.count '-' ≤ 1 := by
  cases size with
  | undefined => decide
  | infinite => decide
  | infinity => decide
  | whole decimal some_digit power =>
      simpa [List.count_append, decimal.count_hyphen] using power.count_hyphen_le
  | broken decimal decimal' some_digit power =>
      simpa [List.count_append, decimal.count_hyphen, decimal'.count_hyphen] using
        power.count_hyphen_le

/-- A number has a hyphen as its sign and as that of its exponent, and no other. -/
theorem IsNumber.count_hyphen_le {cs : List Char} (number : IsNumber cs) : cs.count '-' ≤ 2 := by
  cases number with
  | signed sign size =>
      rw [List.count_append]
      exact Nat.add_le_add sign.count_hyphen_le size.count_hyphen_le

theorem not_isSingle_of_hyphens {s : String} (many : 2 < s.toList.count '-')
    (long : 5 < s.toList.length) : ¬ IsSingle s := by
  have folded_long := length_le_length_foldedAfter [] s.toList
  rintro (truth | truth | number)
  · have := congrArg List.length truth
    simp only [folded, List.length_cons, List.length_nil] at this
    omega
  · have := congrArg List.length truth
    simp only [folded, List.length_cons, List.length_nil] at this
    omega
  · have kept := @List.count_le_count_map _ _ _ _ _ _ s.toList Char.toLower '-'
    rw [show Char.toLower '-' = '-' from rfl] at kept
    have few := number.count_hyphen_le
    omega

/-- The digits of a number below a bound, with leading zeros or without. -/
structure DecimalText (bound : Nat) where
  text : String
  decimal : AllDigits text.toList
  some_digit : text.toList ≠ []
  below : Nat.ofDigitChars 10 text.toList 0 < bound

namespace DecimalText

def number (n : DecimalText bound) : Nat := Nat.ofDigitChars 10 n.text.toList 0

theorem folded_ne_word (n : DecimalText bound) {w : Char} (letter : w.isDigit = false)
    (ws : List Char) : folded n.text.toList ≠ w :: ws := by
  have same : folded n.text.toList = n.text.toList := by
    refine foldedAfter_eq_self_iff.mpr fun c within => ?_
    have digit := n.decimal c within
    have ascii := toNat_of_isDigit digit
    constructor
    · rintro rfl
      exact absurd digit (by decide)
    · rw [lowercaseChar, if_pos (by omega), toLower_of_isDigit digit]
  intro word
  have first := n.decimal w (by rw [← same, word]; exact List.mem_cons_self)
  rw [letter] at first
  exact Bool.false_ne_true first

theorem wholeOf?_text (n : DecimalText bound) (small : bound ≤ signedWordBound) :
    wholeOf? n.text.toList = some (n.number : Int) := by
  have below := n.below
  have bare := splitSign_of_bare (n.decimal.bare n.some_digit)
  have digits : n.text.toList.all Char.isDigit = true := List.all_eq_true.mpr n.decimal
  simp only [wholeOf?, bare, number, digits, List.isEmpty_eq_false_iff.mpr n.some_digit]
  simp
  omega

theorem ofText_text (n : DecimalText bound) (small : bound ≤ signedWordBound) :
    ofText n.text = .whole n.number := by
  unfold ofText
  dsimp only
  rw [if_neg (n.folded_ne_word (by decide) _), if_neg (n.folded_ne_word (by decide) _),
    n.wholeOf?_text small]

theorem natBelow?_text (n : DecimalText bound) (small : bound ≤ signedWordBound)
    (wider : bound ≤ limit) : (ofText n.text).natBelow? limit = some n.number := by
  have below : n.number < limit := Nat.lt_of_lt_of_le n.below wider
  rw [n.ofText_text small, natBelow?]
  simp [below]

end DecimalText

end ContactSegments.SettingValue
