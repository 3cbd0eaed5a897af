import ContactSegments.Text.Scanner

/-! # Scanners in front of a known text

What the primitive scanners read when the text that they look for stands at the front, and what a
sequence and a choice of scanners read. The rest of the text must not go on with what was read.
-/

namespace ContactSegments.Text

/-- Whether the rest of a text does not begin with a character that passes the test. -/
def Halts (test : Char → Bool) (rest : List Char) : Prop := ∀ c ∈ rest.head?, test c = false

theorem Halts.nil {test : Char → Bool} : Halts test [] := by
  simp [Halts]

theorem Halts.cons {test : Char → Bool} {c : Char} {rest : List Char} (stopped : test c = false) :
    Halts test (c :: rest) := by
  simpa [Halts] using stopped

theorem Halts.mono {test wider : Char → Bool} {rest : List Char} (halts : Halts wider rest)
    (covers : ∀ c, test c = true → wider c = true) : Halts test rest := by
  intro c first
  cases passed : test c with
  | false => rfl
  | true => exact absurd (covers c passed) (by simp [halts c first])

theorem takeWhile_append_halts {test : Char → Bool} {front rest : List Char}
    (passed : ∀ c ∈ front, test c = true) (halts : Halts test rest) :
    (front ++ rest).takeWhile test = front := by
  rw [List.takeWhile_append_of_pos passed]
  cases rest with
  | nil => simp
  | cons c cs => simp [halts c rfl]

theorem dropWhile_append_halts {test : Char → Bool} {front rest : List Char}
    (passed : ∀ c ∈ front, test c = true) (halts : Halts test rest) :
    (front ++ rest).dropWhile test = rest := by
  rw [List.dropWhile_append_of_pos passed]
  cases rest with
  | nil => simp
  | cons c cs => simp [halts c rfl]

namespace Scanner

@[simp]
theorem pure_apply (value : α) (cs : List Char) : (pure value : Scanner α) cs = some (value, cs) :=
  rfl

@[simp]
theorem bind_apply (first : Scanner α) (next : α → Scanner β) (cs : List Char) :
    (first >>= next) cs = (first cs).bind fun read => next read.1 read.2 :=
  rfl

@[simp]
theorem map_apply (f : α → β) (scanner : Scanner α) (cs : List Char) :
    (f <$> scanner) cs = (scanner cs).map fun read => (f read.1, read.2) := by
  show (scanner cs).bind _ = _
  cases scanner cs <;> rfl

@[simp]
theorem orElse_apply (first second : Scanner α) (cs : List Char) :
    (first <|> second) cs = (first cs).or (second cs) := by
  show (first cs <|> second cs) = _
  cases first cs <;> rfl

@[simp]
theorem literal_apply_cons (c d : Char) (cs : List Char) :
    literal c (d :: cs) = if d = c then some ((), cs) else none := by
  by_cases same : d = c <;> simp [literal, satisfying, same]

@[simp]
theorem literal_apply_nil (c : Char) : literal c [] = none := rfl

theorem bind_eq_some_iff {first : Scanner α} {next : α → Scanner β} {cs : List Char}
    {result : β × List Char} :
    (first >>= next) cs = some result ↔
      ∃ value rest, first cs = some (value, rest) ∧ next value rest = some result := by
  rw [bind_apply, Option.bind_eq_some_iff, Prod.exists]

theorem literal_eq_some_iff {c : Char} {cs rest : List Char} {read : Unit} :
    literal c cs = some (read, rest) ↔ cs = c :: rest := by
  cases cs with
  | nil => simp
  | cons d cs => by_cases same : d = c <;> simp [same]

theorem satisfying_eq_some_iff {test : Char → Bool} {c : Char} {cs rest : List Char} :
    satisfying test cs = some (c, rest) ↔ cs = c :: rest ∧ test c = true := by
  cases cs with
  | nil => simp [satisfying]
  | cons d cs =>
      simp only [satisfying, Option.ite_none_right_eq_some, Option.some.injEq, Prod.mk.injEq,
        List.cons.injEq]
      constructor
      · rintro ⟨passed, rfl, rfl⟩
        exact ⟨⟨rfl, rfl⟩, passed⟩
      · rintro ⟨⟨rfl, rfl⟩, passed⟩
        exact ⟨passed, rfl, rfl⟩

theorem lift_eq_some_iff {value : Option α} {a : α} {cs rest : List Char} :
    lift value cs = some (a, rest) ↔ value = some a ∧ cs = rest := by
  cases value <;> simp [lift]

theorem all_eq_some_iff {scanner : Scanner α} {cs : List Char} {value : α} :
    scanner.all cs = some value ↔ scanner cs = some (value, []) := by
  unfold all
  split
  · rename_i read
    simp [read]
  · rename_i unread
    simp only [reduceCtorEq, false_iff]
    intro read
    exact unread value read

theorem digits_apply_toDigits (n : Nat) {rest : List Char} (halts : Halts Char.isDigit rest) :
    digits (Nat.toDigits 10 n ++ rest) = some (n, rest) := by
  have passed : ∀ c ∈ Nat.toDigits 10 n, c.isDigit = true :=
    fun c within => Nat.isDigit_of_mem_toDigits (by decide) (by decide) within
  have some_digit : ¬ (Nat.toDigits 10 n).length < 1 := by
    have := Nat.length_toDigits_pos (b := 10) (n := n)
    omega
  simp only [digits, number, List.take_length, takeWhile_append_halts passed halts, some_digit,
    if_false, Nat.ofDigitChars_ten_toDigits, List.drop_left]

end Scanner

end ContactSegments.Text
