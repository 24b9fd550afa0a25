import OrderedChoice.Matcher

/-!
# What a matcher can do before it consumes a statement

Whether it can succeed on nothing, which structures it can enter first, and whether a repetition in
it could go round without consuming anything. A reference to a structure never succeeds on nothing:
the engine counts an empty structure as a failure.
-/

namespace OrderedChoice.Matcher

mutual

/-- Whether the matcher can succeed without consuming a statement. -/
def nullable : Matcher → Bool
  | .statement _ => false
  | .sub _ => false
  | .optional _ => true
  | .star _ => true
  | .sequence first second rest => first.nullable && (second.nullable && allNullable rest)
  | .choice first second rest => first.nullable || (second.nullable || anyNullable rest)

def allNullable : List Matcher → Bool
  | [] => true
  | m :: ms => m.nullable && allNullable ms

def anyNullable : List Matcher → Bool
  | [] => false
  | m :: ms => m.nullable || anyNullable ms

end

mutual

/-- The structures that can be entered before any statement is consumed. -/
def leading : Matcher → List Structure
  | .statement _ => []
  | .sub target => [target]
  | .optional body => body.leading
  | .star body => body.leading
  | .sequence first second rest =>
    first.leading ++ if first.nullable then
      second.leading ++ if second.nullable then leadingInTurn rest else []
    else []
  | .choice first second rest => first.leading ++ (second.leading ++ leadingOfAny rest)

/-- The leading structures of a sequence: those of its parts up to the first that is not
nullable. -/
def leadingInTurn : List Matcher → List Structure
  | [] => []
  | m :: ms => m.leading ++ if m.nullable then leadingInTurn ms else []

def leadingOfAny : List Matcher → List Structure
  | [] => []
  | m :: ms => m.leading ++ leadingOfAny ms

end

mutual

/-- Whether some repetition in the matcher has a nullable body. -/
def hasNullableRepetition : Matcher → Bool
  | .statement _ => false
  | .sub _ => false
  | .optional body => body.hasNullableRepetition
  | .star body => body.nullable || body.hasNullableRepetition
  | .sequence first second rest =>
    first.hasNullableRepetition || (second.hasNullableRepetition || anyNullableRepetition rest)
  | .choice first second rest =>
    first.hasNullableRepetition || (second.hasNullableRepetition || anyNullableRepetition rest)

def anyNullableRepetition : List Matcher → Bool
  | [] => false
  | m :: ms => m.hasNullableRepetition || anyNullableRepetition ms

end

/-! ## The same over lists of parts -/

theorem allNullable_eq_all (ms : List Matcher) : allNullable ms = ms.all nullable := by
  induction ms with
  | nil => rfl
  | cons m ms ih => simp [allNullable, ih]

theorem anyNullable_eq_any (ms : List Matcher) : anyNullable ms = ms.any nullable := by
  induction ms with
  | nil => rfl
  | cons m ms ih => simp [anyNullable, ih]

theorem leadingOfAny_eq_flatMap (ms : List Matcher) : leadingOfAny ms = ms.flatMap leading := by
  induction ms with
  | nil => rfl
  | cons m ms ih => simp [leadingOfAny, ih]

theorem anyNullableRepetition_eq_any (ms : List Matcher) :
    anyNullableRepetition ms = ms.any hasNullableRepetition := by
  induction ms with
  | nil => rfl
  | cons m ms ih => simp [anyNullableRepetition, ih]

theorem nullable_sequence (a b : Matcher) (rest : List Matcher) :
    (sequence a b rest).nullable = (a :: b :: rest).all nullable := by
  simp [nullable, allNullable_eq_all]

theorem nullable_choice (a b : Matcher) (rest : List Matcher) :
    (choice a b rest).nullable = (a :: b :: rest).any nullable := by
  simp [nullable, anyNullable_eq_any]

theorem leading_sequence (a b : Matcher) (rest : List Matcher) :
    (sequence a b rest).leading = leadingInTurn (a :: b :: rest) := by
  simp [leading, leadingInTurn]

theorem leading_choice (a b : Matcher) (rest : List Matcher) :
    (choice a b rest).leading = (a :: b :: rest).flatMap leading := by
  simp [leading, leadingOfAny_eq_flatMap]

theorem hasNullableRepetition_sequence (a b : Matcher) (rest : List Matcher) :
    (sequence a b rest).hasNullableRepetition = (a :: b :: rest).any hasNullableRepetition := by
  simp [hasNullableRepetition, anyNullableRepetition_eq_any]

theorem hasNullableRepetition_choice (a b : Matcher) (rest : List Matcher) :
    (choice a b rest).hasNullableRepetition = (a :: b :: rest).any hasNullableRepetition := by
  simp [hasNullableRepetition, anyNullableRepetition_eq_any]

end OrderedChoice.Matcher
