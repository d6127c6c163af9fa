import TemplateAtlas.Dyadic

/-!
# Values of data files

The values that settings files and log lines are made of.  Tables keep their fields in the order in
which they were written.  The texts in a value are strings, or something else that texts are read as.
-/

namespace TemplateAtlas

/-- A value.  Dates, times and the numbers that are not finite are kept by their spelling. -/
inductive Value (τ : Type := String) where
  | null
  | bool (value : Bool)
  | int (value : Int)
  | real (number : Dyadic)
  | symbol (spelling : String)
  | text (value : τ)
  | list (items : List (Value τ))
  | table (fields : List (τ × Value τ))
  deriving Repr, Inhabited

namespace Value

variable {τ : Type}

/-- The value of a decimal `digits * 10 ^ power` with a sign. -/
def ofDecimal (negative : Bool) (digits : Nat) (power : Int) : Value τ :=
  match Dyadic.nearest? negative digits power with
  | some number => real number
  | none => symbol (if negative then "-Infinity" else "Infinity")

/-- The fields of a table, none for any other value. -/
def fields : Value τ → List (τ × Value τ)
  | table fields => fields
  | _ => []

/-- A field of a table. -/
def field? [BEq τ] (value : Value τ) (name : τ) : Option (Value τ) := value.fields.lookup name

/-- The value counts as a yes: it is not null, false, zero or empty. -/
def isTruthy : Value → Bool
  | null => false
  | bool value => value
  | int value => value ≠ 0
  | real number => number.isNonzero
  | symbol _ => true
  | text value => !value.isEmpty
  | list items => !items.isEmpty
  | table fields => !fields.isEmpty

/-- Fields with one field set: in the place of the one of the same name, or at the end. -/
def setField [DecidableEq τ] (name : τ) (value : Value τ) : List (τ × Value τ) → List (τ × Value τ)
  | [] => [(name, value)]
  | (other, old) :: rest =>
    if other = name then (name, value) :: rest else (other, old) :: setField name value rest

end Value

end TemplateAtlas
