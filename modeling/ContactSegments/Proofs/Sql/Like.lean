import ContactSegments.Proofs.Text.Search
import ContactSegments.Sql.Like

/-! # What patterns of LIKE accept

A pattern is read by one rule for each way in which it can begin, and `accepts` decides just what
these rules give. A text that is escaped stands for itself in front of any pattern, and a `%` for any
run of characters. What the patterns made of an escaped needle accept follows from these two facts.
-/

namespace ContactSegments.Sql.Like

/-- The pattern stands for the whole text, by one rule for each way in which a pattern can begin. -/
inductive Matches : List Char → List Char → Prop
  /-- Where the pattern ends, the text ends too. -/
  | done : Matches [] []
  /-- A `%` stands for any run of characters. -/
  | run (front : List Char) : Matches pattern rest → Matches ('%' :: pattern) (front ++ rest)
  /-- A `_` stands for any one character. -/
  | any (c : Char) : Matches pattern rest → Matches ('_' :: pattern) (c :: rest)
  /-- A backslash makes the character after it literal. -/
  | literal : Matches pattern rest → Matches ('\\' :: c :: pattern) (c :: rest)
  /-- Anything else stands for itself. -/
  | itself (notRun : c ≠ '%') (notAny : c ≠ '_') (notEscape : c = '\\' → pattern = []) :
      Matches pattern rest → Matches (c :: pattern) (c :: rest)

theorem accepts_nil {cs : List Char} : accepts [] cs = true ↔ cs = [] := by
  simp only [accepts, List.isEmpty_iff]

/-- A `%` lets any run of characters pass before the rest of the pattern. -/
theorem accepts_percent {pattern cs : List Char} :
    accepts ('%' :: pattern) cs = true ↔
      ∃ front rest, cs = front ++ rest ∧ accepts pattern rest = true := by
  simp only [accepts, Text.any_suffixes]

theorem accepts_percent_only (cs : List Char) : accepts ['%'] cs = true := by
  rw [accepts_percent]
  exact ⟨cs, [], (List.append_nil cs).symm, rfl⟩

theorem matches_of_accepts {pattern cs : List Char} (accepted : accepts pattern cs = true) :
    Matches pattern cs := by
  fun_induction accepts pattern cs with
  | case1 cs =>
      obtain rfl := List.isEmpty_iff.mp accepted
      exact .done
  | case2 pattern cs ih =>
      obtain ⟨front, rest, rfl, held⟩ := Text.any_suffixes.mp accepted
      exact .run front (ih rest held)
  | case4 pattern c rest ih => exact .any c (ih accepted)
  | case6 c pattern d rest ih =>
      obtain ⟨same, held⟩ := Bool.and_eq_true_iff.mp accepted
      obtain rfl := beq_iff_eq.mp same
      exact .literal (ih held)
  | case8 c pattern notRun notAny notEscape d rest ih =>
      obtain ⟨same, held⟩ := Bool.and_eq_true_iff.mp accepted
      obtain rfl := beq_iff_eq.mp same
      refine .itself notRun notAny ?_ (ih held)
      intro escapes
      cases pattern with
      | nil => rfl
      | cons e pattern => exact (notEscape e pattern escapes rfl).elim
  -- A text that ends before its pattern is refused whatever the pattern begins with.
  | case3 | case5 | case7 => cases accepted

theorem accepts_of_matches {pattern cs : List Char} (matched : Matches pattern cs) :
    accepts pattern cs = true := by
  induction matched with
  | done => rfl
  | run front _ ih => exact accepts_percent.mpr ⟨front, _, rfl, ih⟩
  | any c _ ih => exact ih
  | literal _ ih => simpa only [accepts, beq_self_eq_true, Bool.true_and] using ih
  | itself notRun notAny notEscape _ ih =>
      rw [accepts]
      · simpa only [beq_self_eq_true, Bool.true_and] using ih
      · exact notRun
      · exact notAny
      · intro d pattern escapes longer
        rw [notEscape escapes] at longer
        cases longer

theorem accepts_iff_matches {pattern cs : List Char} :
    accepts pattern cs = true ↔ Matches pattern cs :=
  ⟨matches_of_accepts, accepts_of_matches⟩

theorem ordinary_of_not_special {c : Char} (plain : isSpecial c = false) :
    c ≠ '%' ∧ c ≠ '_' ∧ c ≠ '\\' := by
  simpa [isSpecial, and_assoc] using plain

theorem escape_cons_of_special {c : Char} {cs : List Char} (special : isSpecial c = true) :
    escape (c :: cs) = '\\' :: c :: escape cs := by
  simp only [escape, special, if_true]

theorem escape_cons_of_plain {c : Char} {cs : List Char} (plain : isSpecial c = false) :
    escape (c :: cs) = c :: escape cs := by
  simp only [escape, plain, Bool.false_eq_true, if_false]

theorem accepts_escaped_nil (c : Char) (pattern : List Char) :
    accepts (escape [c] ++ pattern) [] = false := by
  cases special : isSpecial c with
  | true =>
      rw [escape_cons_of_special special]
      rfl
  | false =>
      obtain ⟨notRun, notAny, notBackslash⟩ := ordinary_of_not_special special
      rw [escape_cons_of_plain special]
      simp only [escape, List.cons_append, List.nil_append]
      rw [accepts] <;> simp [notRun, notAny, notBackslash]

/-- An escaped character takes exactly itself off the front, whether it needs the backslash or
    not. -/
theorem accepts_escaped_cons (c d : Char) (pattern cs : List Char) :
    accepts (escape [c] ++ pattern) (d :: cs) = (c == d && accepts pattern cs) := by
  cases special : isSpecial c with
  | true =>
      rw [escape_cons_of_special special]
      rfl
  | false =>
      obtain ⟨notRun, notAny, notBackslash⟩ := ordinary_of_not_special special
      rw [escape_cons_of_plain special]
      simp only [escape, List.cons_append, List.nil_append]
      rw [accepts] <;> simp [notRun, notAny, notBackslash]

theorem accepts_escaped {needle pattern cs : List Char} :
    accepts (escape needle ++ pattern) cs = true ↔
      ∃ rest, cs = needle ++ rest ∧ accepts pattern rest = true := by
  induction needle generalizing cs with
  | nil => simp [escape]
  | cons c needle ih =>
      have apart : escape (c :: needle) = escape [c] ++ escape needle := by
        simp only [escape]
        split <;> rfl
      rw [apart, List.append_assoc]
      cases cs with
      | nil => simp [accepts_escaped_nil]
      | cons d cs =>
          rw [accepts_escaped_cons, Bool.and_eq_true, beq_iff_eq, ih]
          constructor
          · rintro ⟨rfl, rest, rfl, held⟩
            exact ⟨rest, rfl, held⟩
          · rintro ⟨rest, same, held⟩
            obtain ⟨rfl, rfl⟩ := List.cons.inj same
            exact ⟨rfl, rest, rfl, held⟩

/-- An escaped text stands for itself and for no other text. -/
theorem accepts_escape {needle cs : List Char} :
    accepts (escape needle) cs = true ↔ cs = needle := by
  rw [← List.append_nil (escape needle), accepts_escaped]
  constructor
  · rintro ⟨rest, rfl, ended⟩
    rw [accepts_nil.mp ended, List.append_nil]
  · intro same
    exact ⟨[], by rw [same, List.append_nil], accepts_nil.mpr rfl⟩

theorem accepts_startsWith {needle cs : List Char} :
    accepts (escape needle ++ ['%']) cs = true ↔ needle <+: cs := by
  rw [accepts_escaped]
  constructor
  · rintro ⟨rest, rfl, -⟩
    exact List.prefix_append needle rest
  · rintro ⟨rest, rfl⟩
    exact ⟨rest, rfl, accepts_percent_only rest⟩

theorem accepts_endsWith {needle cs : List Char} :
    accepts ('%' :: escape needle) cs = true ↔ needle <:+ cs := by
  rw [accepts_percent]
  constructor
  · rintro ⟨front, rest, rfl, held⟩
    obtain rfl := accepts_escape.mp held
    exact List.suffix_append front rest
  · rintro ⟨front, rfl⟩
    exact ⟨front, needle, rfl, accepts_escape.mpr rfl⟩

theorem accepts_contains {needle cs : List Char} :
    accepts ('%' :: escape needle ++ ['%']) cs = true ↔ needle <:+: cs := by
  rw [List.cons_append, accepts_percent]
  constructor
  · rintro ⟨front, rest, rfl, held⟩
    obtain ⟨back, rfl⟩ := accepts_startsWith.mp held
    exact ⟨front, back, List.append_assoc front needle back⟩
  · rintro ⟨front, back, rfl⟩
    exact ⟨front, needle ++ back, List.append_assoc front needle back,
      accepts_startsWith.mpr (List.prefix_append needle back)⟩

/-- Two needles with one escaped form would stand for each other. -/
theorem escape_injective : Function.Injective escape := by
  intro a b same
  have accepted : accepts (escape a) a = true := accepts_escape.mpr rfl
  rw [same] at accepted
  exact accepts_escape.mp accepted

/-- Read from its front, the pattern ends in a backslash that has no character to make literal. -/
inductive Dangling : List Char → Prop
  /-- Nothing comes after the backslash. -/
  | alone : Dangling ['\\']
  /-- A backslash goes together with the character after it, be that a backslash too. -/
  | pair (c : Char) : Dangling pattern → Dangling ('\\' :: c :: pattern)
  /-- Any other character goes alone. -/
  | plain : c ≠ '\\' → Dangling pattern → Dangling (c :: pattern)

theorem dangling_pair {c : Char} {pattern : List Char} :
    Dangling ('\\' :: c :: pattern) ↔ Dangling pattern := by
  constructor
  · intro dangling
    cases dangling with
    | pair _ rest => exact rest
    | plain other _ => exact (other rfl).elim
  · exact Dangling.pair c

theorem dangling_plain {c : Char} {pattern : List Char} (other : c ≠ '\\') :
    Dangling (c :: pattern) ↔ Dangling pattern := by
  constructor
  · intro dangling
    cases dangling with
    | alone | pair => exact (other rfl).elim
    | plain _ rest => exact rest
  · exact Dangling.plain other

/-- Every backslash of an escaped text has its character within that text, so none is left for the
    pattern that follows. -/
theorem dangling_escaped_append {needle pattern : List Char} :
    Dangling (escape needle ++ pattern) ↔ Dangling pattern := by
  induction needle with
  | nil => rfl
  | cons c needle ih =>
      rw [← ih]
      cases special : isSpecial c with
      | true =>
          rw [escape_cons_of_special special]
          exact dangling_pair
      | false =>
          obtain ⟨-, -, notBackslash⟩ := ordinary_of_not_special special
          rw [escape_cons_of_plain special]
          exact dangling_plain notBackslash

/-- An escaped needle with a `%` on both sides stands for the texts that the needle is in, with one
    after it for those that begin with the needle, and with one before it for those that end with it.
    No two needles are escaped alike, and no escaped needle makes a character after it literal. -/
theorem escape_exact :
    (∀ needle hay : List Char,
      (Matches ('%' :: escape needle ++ ['%']) hay ↔ needle <:+: hay) ∧
      (Matches (escape needle ++ ['%']) hay ↔ needle <+: hay) ∧
      (Matches ('%' :: escape needle) hay ↔ needle <:+ hay)) ∧
    Function.Injective escape ∧
    ∀ needle, ¬ Dangling (escape needle) := by
  refine ⟨?_, escape_injective, ?_⟩
  · intro needle hay
    simp only [← accepts_iff_matches]
    exact ⟨accepts_contains, accepts_startsWith, accepts_endsWith⟩
  · intro needle dangling
    rw [← List.append_nil (escape needle), dangling_escaped_append] at dangling
    cases dangling

-- The needle ends in a backslash. As it is, that backslash would take the `%` after it.
example :
    accepts ['a', '\\', '%'] ['a', '\\', 'b'] = false ∧
      accepts (escape ['a', '\\'] ++ ['%']) ['a', '\\', 'b'] = true := by
  decide

end ContactSegments.Sql.Like
