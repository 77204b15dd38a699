import TypedSettings.Value.Basic

/-!
# Equality of values

Values are compared as a reader of settings compares them: floats as numbers, all else by
content. Identity of values, under which every value equals itself, is decidable too.
-/

namespace TypedSettings
set_option autoImplicit false

namespace Value

/-! ## Numeric equality -/

mutual

/-- Equality of values, floats being compared as numbers: the two zeros are equal, and a value
holding one that is not a number differs from itself. -/
def equals : Value → Value → Bool
  | text a, text b => a == b
  | integer a, integer b => a == b
  | float a, float b => a.equals b
  | boolean a, boolean b => a == b
  | array as, array bs => equalElements as bs
  | table as, table bs => equalFields as bs
  | _, _ => false

/-- Equality of values place by place. -/
def equalElements : List Value → List Value → Bool
  | [], [] => true
  | a :: as, b :: bs => a.equals b && equalElements as bs
  | _, _ => false

/-- Equality of named values place by place. -/
def equalFields : List (String × Value) → List (String × Value) → Bool
  | [], [] => true
  | (m, a) :: as, (n, b) :: bs => m == n && a.equals b && equalFields as bs
  | _, _ => false

end

/-! ## Identity -/

mutual

/-- Decides whether two values are identical. -/
def decideEq : (a b : Value) → Decidable (a = b)
  | text a, text b => decidable_of_iff (a = b) (by simp)
  | integer a, integer b => decidable_of_iff (a = b) (by simp)
  | float a, float b => decidable_of_iff (a = b) (by simp)
  | boolean a, boolean b => decidable_of_iff (a = b) (by simp)
  | array as, array bs =>
    match decideEqElements as bs with
    | isTrue h => isTrue (by rw [h])
    | isFalse h => isFalse (by simpa using h)
  | table as, table bs =>
    match decideEqFields as bs with
    | isTrue h => isTrue (by rw [h])
    | isFalse h => isFalse (by simpa using h)
  | text _, integer _ | text _, float _ | text _, boolean _ | text _, array _ | text _, table _
  | integer _, text _ | integer _, float _ | integer _, boolean _ | integer _, array _
  | integer _, table _ | float _, text _ | float _, integer _ | float _, boolean _
  | float _, array _ | float _, table _ | boolean _, text _ | boolean _, integer _
  | boolean _, float _ | boolean _, array _ | boolean _, table _ | array _, text _
  | array _, integer _ | array _, float _ | array _, boolean _ | array _, table _
  | table _, text _ | table _, integer _ | table _, float _ | table _, boolean _
  | table _, array _ => isFalse nofun

/-- Decides whether two lists of values are identical. -/
def decideEqElements : (as bs : List Value) → Decidable (as = bs)
  | [], [] => isTrue rfl
  | [], _ :: _ | _ :: _, [] => isFalse nofun
  | a :: as, b :: bs =>
    match decideEq a b, decideEqElements as bs with
    | isTrue h, isTrue i => isTrue (by rw [h, i])
    | isFalse h, _ => isFalse (by simp [h])
    | _, isFalse i => isFalse (by simp [i])

/-- Decides whether two lists of named values are identical. -/
def decideEqFields : (as bs : List (String × Value)) → Decidable (as = bs)
  | [], [] => isTrue rfl
  | [], _ :: _ | _ :: _, [] => isFalse nofun
  | (m, a) :: as, (n, b) :: bs =>
    match decEq m n, decideEq a b, decideEqFields as bs with
    | isTrue h, isTrue i, isTrue j => isTrue (by rw [h, i, j])
    | isFalse h, _, _ => isFalse (by simp [h])
    | _, isFalse i, _ => isFalse (by simp [i])
    | _, _, isFalse j => isFalse (by simp [j])

end

instance : DecidableEq Value := decideEq

end Value

end TypedSettings
