import Mathlib.Algebra.Order.Ring.Rat

/-!
# JSON values as a program reads them

What `json.loads` returns, for code that reads a document of unknown shape.

**Floats.** The parser accepts `NaN` and turns a number too large for a float into an infinity, so a
float is a rational, an infinity, or not a number; a comparison with the last is false both ways.

**Objects.** The fields come in the order of the text, and a name may repeat: the last one wins.

**The limits of the parser.** It refuses a document with an integer of too many digits, and one
whose containers are nested too deep (`loads`), wherever in the document they are.

**Truth and hashing.** `truthy` is the truth of a value in a condition. A list and an object are not
hashable, which is what a membership test in a set of texts asks of its argument.
-/

/-- A float. -/
inductive PyFloat
  | nan
  | inf (negative : Bool)
  | finite (q : ℚ)
  deriving DecidableEq

namespace PyFloat

/-- `x < y`. -/
def lt : PyFloat → PyFloat → Bool
  | .finite p, .finite q => p < q
  | .inf true, .finite _ => true
  | .inf true, .inf false => true
  | .finite _, .inf false => true
  | _, _ => false

/-- `x ≤ y`. -/
def le : PyFloat → PyFloat → Bool
  | .finite p, .finite q => p ≤ q
  | .inf true, .finite _ => true
  | .finite _, .inf false => true
  | .inf x, .inf y => x || !y
  | _, _ => false

end PyFloat

/-- A JSON value. -/
inductive Json
  | null
  | bool (b : Bool)
  | int (n : ℤ)
  | float (x : PyFloat)
  | str (s : String)
  | arr (items : List Json)
  | obj (fields : List (String × Json))

namespace Json

mutual

/-- The parser reads the value: its integers have at most `digits` digits, where that is not zero,
and its containers are nested at most `depth` deep. -/
def loads (digits : ℕ) : ℕ → Json → Bool
  | _, int n => digits = 0 || n.natAbs < 10 ^ digits
  | 0, arr _ | 0, obj _ => false
  | depth + 1, arr items => loadsItems digits depth items
  | depth + 1, obj fields => loadsFields digits depth fields
  | _, _ => true

/-- The items of a list, each read. -/
def loadsItems (digits depth : ℕ) : List Json → Bool
  | [] => true
  | item :: items => loads digits depth item && loadsItems digits depth items

/-- The fields of an object, each read. -/
def loadsFields (digits depth : ℕ) : List (String × Json) → Bool
  | [] => true
  | field :: fields => loads digits depth field.2 && loadsFields digits depth fields

end

/-- `fields.get(name)`. -/
def field? (fields : List (String × Json)) (name : String) : Option Json :=
  fields.reverse.lookup name

/-- `fields.get(name, default)`. -/
def field (fields : List (String × Json)) (name : String) (default : Json) : Json :=
  (field? fields name).getD default

/-- The fields with another value in place of the one that `fields.get(name)` returns. -/
def setField (fields : List (String × Json)) (name : String) (f : Json → Json) :
    List (String × Json) :=
  match fields with
  | [] => []
  | (n, value) :: fields =>
    if n = name ∧ (field? fields name).isNone then (n, f value) :: fields
    else (n, value) :: setField fields name f

/-- The truth of a value in a condition. -/
def truthy : Json → Bool
  | null => false
  | bool b => b
  | int n => n ≠ 0
  | float x => x ≠ .finite 0
  | str s => s ≠ ""
  | arr items => !items.isEmpty
  | obj fields => !fields.isEmpty

/-- The value is a text. -/
def isStr : Json → Bool
  | str _ => true
  | _ => false

/-- The value is a boolean. -/
def isBool : Json → Bool
  | bool _ => true
  | _ => false

/-- The value is an integer that is not negative. -/
def isCount : Json → Bool
  | int n => 0 ≤ n
  | _ => false

/-- `value == text`. -/
def eqText : Json → String → Bool
  | str s, text => s = text
  | _, _ => false

/-! ### A value replaced -/

theorem field?_cons (n name : String) (value : Json) (fields : List (String × Json)) :
    field? ((n, value) :: fields) name =
      (field? fields name).or (if n = name then some value else none) := by
  rw [field?, List.reverse_cons, List.lookup_append, List.lookup_cons, List.lookup_nil]
  by_cases h : n = name
  · rw [h, beq_self_eq_true, if_pos rfl]
    rfl
  · rw [if_neg h, beq_eq_false_iff_ne.2 (Ne.symm h)]
    rfl

theorem field?_setField (fields : List (String × Json)) (name : String) (f : Json → Json) :
    field? (setField fields name f) name = (field? fields name).map f := by
  induction fields with
  | nil => rfl
  | cons field fields ih =>
    obtain ⟨n, value⟩ := field
    rw [setField]
    split
    · rename_i h
      rw [field?_cons, field?_cons, if_pos h.1, if_pos h.1, Option.isNone_iff_eq_none.1 h.2]
      rfl
    · rename_i h
      rw [field?_cons, field?_cons, ih]
      rcases hvalue : field? fields name with - | v
      · have hn : n ≠ name := fun hn ↦ h ⟨hn, Option.isNone_iff_eq_none.2 hvalue⟩
        rw [if_neg hn]
        rfl
      · rfl

/-- A value replaced by itself. -/
theorem setField_eq_self {fields : List (String × Json)} {name : String} {f : Json → Json}
    (h : ∀ v ∈ field? fields name, f v = v) : setField fields name f = fields := by
  induction fields with
  | nil => rfl
  | cons field fields ih =>
    obtain ⟨n, value⟩ := field
    rw [field?_cons] at h
    rw [setField]
    split
    · rename_i hn
      rw [h value (by rw [Option.isNone_iff_eq_none.1 hn.2, if_pos hn.1]; rfl)]
    · rw [ih fun v hv ↦ h v (by rw [Option.mem_def.1 hv]; rfl)]

theorem loadsItems_iff {digits depth : ℕ} {items : List Json} :
    loadsItems digits depth items = true ↔ ∀ v ∈ items, loads digits depth v = true := by
  induction items with
  | nil => simp [loadsItems]
  | cons v items ih => rw [loadsItems, Bool.and_eq_true, ih, List.forall_mem_cons]

theorem loads_setField {digits depth : ℕ} {fields : List (String × Json)} {name : String}
    {f : Json → Json} (hf : ∀ v, loads digits depth v = true → loads digits depth (f v) = true)
    (h : loadsFields digits depth fields = true) :
    loadsFields digits depth (setField fields name f) = true := by
  induction fields with
  | nil => rfl
  | cons field fields ih =>
    obtain ⟨n, value⟩ := field
    rw [loadsFields, Bool.and_eq_true] at h
    rw [setField]
    split
    · rw [loadsFields, Bool.and_eq_true]
      exact ⟨hf value h.1, h.2⟩
    · rw [loadsFields, Bool.and_eq_true]
      exact ⟨h.1, ih h.2⟩

end Json
