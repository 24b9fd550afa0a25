import Mathlib.Tactic.SplitIfs
import OrderedChoice.Proofs.Reading
import OrderedChoice.Text.Quoted

/-!
# Reading quoted text

Quoted text is read character by character: one that is not a backslash stands for itself, and a
backslash begins an escape. What was quoted is read back (`unquote_quotedChar`), so that no two
texts are quoted alike (`quoted_injective`), and nothing unprintable stands in quoted text
(`isPrintable_of_mem_quoted`).
-/

namespace OrderedChoice.Text

/-! ## Hexadecimal digits -/

/-- The number that a hexadecimal digit stands for. -/
def digitValue (digit : Char) : Nat :=
  (List.range 16).findIdx (Nat.digitChar · == digit)

/-- The number that hexadecimal digits stand for. -/
def hexValue (digits : List Char) : Nat :=
  digits.foldl (fun value digit => 16 * value + digitValue digit) 0

theorem digitValue_digitChar : ∀ d < 16, digitValue (Nat.digitChar d) = d := by
  decide

theorem hexValue_append (digits : List Char) (digit : Char) :
    hexValue (digits ++ [digit]) = 16 * hexValue digits + digitValue digit := by
  simp [hexValue]

theorem hexValue_toDigits (n : Nat) : hexValue (Nat.toDigits 16 n) = n := by
  induction n using Nat.strongRecOn with
  | ind n ih =>
    by_cases small : n < 16
    · rw [Nat.toDigits_of_lt_base small, ← List.nil_append [_], hexValue_append,
        digitValue_digitChar n small]
      exact Nat.zero_add n
    · have value := digitValue_digitChar (n % 16) (Nat.mod_lt n (by decide))
      rw [Nat.toDigits_of_base_le (by decide) (by omega), hexValue_append,
        ih (n / 16) (by omega), value]
      omega

theorem exists_of_mem_toDigits {n : Nat} {c : Char} (member : c ∈ Nat.toDigits 16 n) :
    ∃ d < 16, c = Nat.digitChar d := by
  induction n using Nat.strongRecOn with
  | ind n ih =>
    by_cases small : n < 16
    · rw [Nat.toDigits_of_lt_base small] at member
      exact ⟨n, small, List.mem_singleton.1 member⟩
    · rw [Nat.toDigits_of_base_le (by decide) (by omega)] at member
      rcases List.mem_append.1 member with member | member
      · exact ih (n / 16) (by omega) member
      · exact ⟨n % 16, Nat.mod_lt n (by decide), List.mem_singleton.1 member⟩

/-- What holds of the sixteen digits holds of all digits of a number. -/
theorem forall_mem_toDigits {P : Char → Prop} (digits : ∀ d < 16, P (Nat.digitChar d)) (n : Nat) :
    ∀ c ∈ Nat.toDigits 16 n, P c := by
  intro c member
  obtain ⟨d, small, rfl⟩ := exists_of_mem_toDigits member
  exact digits d small

/-! ## Reading -/

/-- The character that an escape stands for, and what comes after it. -/
def unescape : List Char → Option (Char × List Char)
  | [] => none
  | 't' :: rest => some ('\t', rest)
  | 'r' :: rest => some ('\r', rest)
  | 'n' :: rest => some ('\n', rest)
  | '0' :: rest => some ('\x00', rest)
  | 'u' :: rest =>
    let digits := rest.drop 1
    some (Char.ofNat (hexValue (digits.takeWhile (· ≠ '\x7d'))),
      (digits.dropWhile (· ≠ '\x7d')).drop 1)
  | c :: rest => some (c, rest)

/-- The character that the beginning of quoted text stands for, and what comes after it. -/
def unquote : List Char → Option (Char × List Char)
  | [] => none
  | c :: rest => if c = '\\' then unescape rest else some (c, rest)

theorem unquote_codePointEscape (c : Char) (rest : List Char) :
    unquote (codePointEscape c ++ rest) = some (c, rest) := by
  have split : codePointEscape c ++ rest =
      '\\' :: 'u' :: '\x7b' :: (Nat.toDigits 16 c.toNat ++ '\x7d' :: rest) := by
    simp [codePointEscape]
  have inside : ∀ x ∈ Nat.toDigits 16 c.toNat, decide (x ≠ '\x7d') = true :=
    forall_mem_toDigits (by decide) c.toNat
  have stop : ∀ x ∈ ('\x7d' :: rest).head?, decide (x ≠ '\x7d') = false := by
    rintro _ ⟨⟩
    rfl
  rw [split, unquote, if_pos rfl]
  simp only [unescape, List.drop_succ_cons, List.drop_zero]
  rw [takeWhile_word inside stop, dropWhile_word inside stop, hexValue_toDigits, Char.ofNat_toNat]
  rfl

theorem unquote_quotedChar (c : Char) (rest : List Char) :
    unquote (quotedChar c ++ rest) = some (c, rest) := by
  unfold quotedChar
  split_ifs with quote backslash tab carriage newline null plain
  · rw [quote]
    rfl
  · rw [backslash]
    rfl
  · rw [tab]
    rfl
  · rw [carriage]
    rfl
  · rw [newline]
    rfl
  · rw [null]
    rfl
  · exact if_neg backslash
  · exact unquote_codePointEscape c rest

theorem flatMap_quotedChar_injective {s t : List Char}
    (same : s.flatMap quotedChar = t.flatMap quotedChar) : s = t := by
  induction s generalizing t with
  | nil =>
    cases t with
    | nil => rfl
    | cons d t =>
      rw [List.flatMap_nil, List.flatMap_cons] at same
      exact absurd (List.append_eq_nil_iff.1 same.symm).1 (quotedChar_ne_nil d)
  | cons c s ih =>
    cases t with
    | nil =>
      rw [List.flatMap_nil, List.flatMap_cons] at same
      exact absurd (List.append_eq_nil_iff.1 same).1 (quotedChar_ne_nil c)
    | cons d t =>
      have read := congrArg unquote same
      rw [List.flatMap_cons, List.flatMap_cons, unquote_quotedChar, unquote_quotedChar] at read
      obtain ⟨rfl, others⟩ := Prod.mk.inj (Option.some.inj read)
      rw [ih others]

/-- No two texts are quoted alike. -/
theorem quoted_injective {s t : String} (same : quoted s = quoted t) : s = t := by
  have lists := congrArg String.toList same
  rw [toList_quoted, toList_quoted] at lists
  obtain ⟨-, inner⟩ := List.cons.inj lists
  exact String.toList_inj.1 (flatMap_quotedChar_injective (List.append_cancel_right inner))

/-! ## Printable characters -/

theorem isPrintable_of_mem_codePointEscape {c x : Char} (member : x ∈ codePointEscape c) :
    isPrintable x = true := by
  have signs : ∀ x ∈ ['\\', 'u', '\x7b'], isPrintable x = true := List.all_eq_true.1 (by decide)
  have digits : ∀ x ∈ Nat.toDigits 16 c.toNat, isPrintable x = true :=
    forall_mem_toDigits (by decide) c.toNat
  rcases List.mem_append.1 member with member | member
  · exact (List.mem_append.1 member).elim (signs x) (digits x)
  · rw [List.mem_singleton.1 member]
    decide

theorem isPrintable_of_mem_quotedChar {c x : Char} (member : x ∈ quotedChar c) :
    isPrintable x = true := by
  have short {y : Char} (plain : isPrintable y = true) (member : x ∈ ['\\', y]) :
      isPrintable x = true := by
    rcases List.mem_cons.1 member with rfl | member
    · decide
    · rw [List.mem_singleton.1 member]
      exact plain
  unfold quotedChar at member
  split_ifs at member with quote backslash tab carriage newline null plain
  · exact short (by decide) member
  · exact short (by decide) member
  · exact short (by decide) member
  · exact short (by decide) member
  · exact short (by decide) member
  · exact short (by decide) member
  · obtain rfl := List.mem_singleton.1 member
    exact (Bool.and_eq_true_iff.1 plain).1
  · exact isPrintable_of_mem_codePointEscape member

/-- Nothing unprintable stands in quoted text. -/
theorem isPrintable_of_mem_quoted {text : String} {x : Char} (member : x ∈ (quoted text).toList) :
    isPrintable x = true := by
  rw [toList_quoted] at member
  have quote : isPrintable '"' = true := by decide
  rcases List.mem_append.1 member with member | member
  · rcases List.mem_cons.1 member with rfl | member
    · exact quote
    · obtain ⟨c, -, member⟩ := List.mem_flatMap.1 member
      exact isPrintable_of_mem_quotedChar member
  · rw [List.mem_singleton.1 member]
    exact quote

end OrderedChoice.Text
