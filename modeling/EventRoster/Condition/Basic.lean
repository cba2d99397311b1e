import EventRoster.Scalar

/-!
# Conditions

The condition of a subscription says which events it is for.  It is a tree of connectives over tests
of named event intrinsics, each against one or more scalars.

Two conditions are the same if they are built alike and their intrinsics agree in name and in the
literals of their values.  Comparing literals keeps `1`, `1.0` and `true` apart and makes NaN the
same as itself.
-/

namespace EventRoster

/-- A condition on events. -/
inductive Condition
  | constant (value : Bool)
  | not (inner : Condition)
  | all (parts : List Condition)
  | any (parts : List Condition)
  | intrinsic (name : Text) (first : Scalar) (others : List Scalar)
deriving Inhabited

namespace Condition

/-- An intrinsic test without any value to compare with. -/
structure NoValues where
deriving DecidableEq, Repr

/-- The words for an intrinsic test without values. -/
def NoValues.message (_ : NoValues) : String :=
  "intrinsic condition requires at least one value"

/-- The test of an intrinsic against a list of values, which has to hold one at least. -/
def ofValues (name : Text) : List Scalar → Except NoValues Condition
  | [] => .error {}
  | first :: others => .ok (intrinsic name first others)

mutual

/-- Whether two conditions are the same. -/
def same : Condition → Condition → Bool
  | constant a, constant b => a == b
  | not a, not b => same a b
  | all as, all bs => sameList as bs
  | any as, any bs => sameList as bs
  | intrinsic m v vs, intrinsic n w ws =>
    m == n && (v :: vs).map Scalar.chars == (w :: ws).map Scalar.chars
  | _, _ => false

/-- Whether two lists of conditions are the same, place by place. -/
def sameList : List Condition → List Condition → Bool
  | [], [] => true
  | a :: as, b :: bs => same a b && sameList as bs
  | _, _ => false

end

instance : BEq Condition := ⟨same⟩

mutual

/-- A hash that depends only on what `same` compares. -/
def digest : Condition → UInt64
  | constant value => hash value
  | not inner => mixHash 1 (digest inner)
  | all parts => mixHash 2 (digestList parts)
  | any parts => mixHash 3 (digestList parts)
  | intrinsic name first others =>
    mixHash (hash name) (hash ((first :: others).map Scalar.chars))

/-- The hash of a list of conditions. -/
def digestList : List Condition → UInt64
  | [] => 7
  | part :: parts => mixHash (digest part) (digestList parts)

end

instance : Hashable Condition := ⟨digest⟩

/-- The number of different conditions in a list. -/
def distinct (conditions : List Condition) : Nat :=
  conditions.eraseDups.length

end Condition

end EventRoster
