import Mathlib.Algebra.Order.Ring.Int
import Mathlib.Data.Fintype.Basic

/-!
# The types of the script language

`VarType` (`Types/VarTypes.cs`) enumerates the types a script variable can be declared with,
plus `void`, which the compiler uses both for functions without a result and, in its tables,
for "not a legal combination".  The tables of `Compiler/SymbolTable.cs` are indexed by two
types: the result type of each family of binary operators, the promotions the compiler applies
without being asked, and the casts a script may write.

The tables are functions here, one clause for each entry that is not `void`.  What the later
modules use of them stands at the end: a value that may be assigned to a variable has, once it is
promoted, the type of the variable (`promoted_of_canAssignTo`).
-/

namespace Halcyon.Joke

/-- All the variable types supported by the LSL language implementation. -/
inductive VarType
  | integer
  | float
  | vector
  | rotation
  | list
  | key
  | string
  | void
  deriving DecidableEq, Repr

namespace VarType

instance : Fintype VarType where
  elems := {.integer, .float, .vector, .rotation, .list, .key, .string, .void}
  complete t := by cases t <;> decide

/-- The position of a type in the compiler's tables (`ISymbolType.TypeIndex`). -/
def typeIndex : VarType → Nat
  | .integer => 0
  | .float => 1
  | .vector => 2
  | .rotation => 3
  | .list => 4
  | .key => 5
  | .string => 6
  | .void => 7

/-- The name under which the type is known to scripts and to error messages. -/
def name : VarType → String
  | .integer => "integer"
  | .float => "float"
  | .vector => "vector"
  | .rotation => "rotation"
  | .list => "list"
  | .key => "key"
  | .string => "string"
  | .void => "void"

/-- The type under which a value of this type exists at run time: the virtual machine has no
keys, it represents them as strings. -/
def runtime : VarType → VarType
  | .key => .string
  | t => t

end VarType

open VarType

/-! ## Result types of the binary operators -/

/-- Result type of `+` and `+=`; `void` implies illegal. -/
def additionResultType : VarType → VarType → VarType
  | .integer, .integer => .integer
  | .integer, .float => .float
  | .integer, .list => .list
  | .float, .integer => .float
  | .float, .float => .float
  | .float, .list => .list
  | .vector, .vector => .vector
  | .vector, .list => .list
  | .rotation, .rotation => .rotation
  | .rotation, .list => .list
  | .list, .integer => .list
  | .list, .float => .list
  | .list, .vector => .list
  | .list, .rotation => .list
  | .list, .list => .list
  | .list, .key => .list
  | .list, .string => .list
  | .key, .list => .list
  | .string, .list => .list
  | .string, .string => .string
  | _, _ => .void

/-- Result type of `-` and `-=`. -/
def subtractionResultType : VarType → VarType → VarType
  | .integer, .integer => .integer
  | .integer, .float => .float
  | .float, .integer => .float
  | .float, .float => .float
  | .vector, .vector => .vector
  | .rotation, .rotation => .rotation
  | _, _ => .void

/-- Result type of `*` and `*=`.  The product of two vectors is their dot product. -/
def multiplicationResultType : VarType → VarType → VarType
  | .integer, .integer => .integer
  | .integer, .float => .float
  | .integer, .vector => .vector
  | .float, .integer => .float
  | .float, .float => .float
  | .float, .vector => .vector
  | .vector, .integer => .vector
  | .vector, .float => .vector
  | .vector, .vector => .float
  | .vector, .rotation => .vector
  | .rotation, .rotation => .rotation
  | _, _ => .void

/-- Result type of `/` and `/=`. -/
def divisionResultType : VarType → VarType → VarType
  | .integer, .integer => .integer
  | .integer, .float => .float
  | .float, .integer => .float
  | .float, .float => .float
  | .vector, .integer => .vector
  | .vector, .float => .vector
  | .vector, .rotation => .vector
  | .rotation, .rotation => .rotation
  | _, _ => .void

/-- Result type of `%` and `%=`.  On vectors it is the cross product. -/
def modResultType : VarType → VarType → VarType
  | .integer, .integer => .integer
  | .vector, .vector => .vector
  | _, _ => .void

/-- Result type of the four shift operators. -/
def shiftResultType : VarType → VarType → VarType
  | .integer, .integer => .integer
  | _, _ => .void

/-! ## Promotions and casts -/

/-- Whether a type needs a promotion to a wider type.  `none` does not imply an error, it
implies no promotion. -/
def promoteFromTo : VarType → VarType → Option VarType
  | .integer, .float => some .float
  | .key, .string => some .string
  | .string, .key => some .key
  | _, _ => none

/-- Which types may be cast to another type; `void` implies a casting error. -/
def castFromTo : VarType → VarType → VarType
  | .integer, .integer => .integer
  | .integer, .float => .float
  | .integer, .list => .list
  | .integer, .string => .string
  | .float, .integer => .integer
  | .float, .float => .float
  | .float, .list => .list
  | .float, .string => .string
  | .vector, .vector => .vector
  | .vector, .list => .list
  | .vector, .string => .string
  | .rotation, .rotation => .rotation
  | .rotation, .list => .list
  | .rotation, .string => .string
  | .list, .list => .list
  | .list, .string => .string
  | .key, .list => .list
  | .key, .key => .key
  | .key, .string => .string
  | .string, .integer => .integer
  | .string, .float => .float
  | .string, .vector => .vector
  | .string, .rotation => .rotation
  | .string, .list => .list
  | .string, .key => .key
  | .string, .string => .string
  | _, _ => .void

/-- `SymbolTable.CanCast`. -/
def canCast (source target : VarType) : Bool :=
  castFromTo source target != void

/-- `SymbolTable.CanAssignTo`: either the types are the same or the value was successfully
promoted. -/
def canAssignTo (valueType destType : VarType) (promotion : Option VarType) : Bool :=
  valueType == destType || promotion == some destType

/-- The type of a value after the promotion its context asks for. -/
def promoted (t : VarType) (promotion : Option VarType) : VarType :=
  promotion.getD t

/-- A value that may be assigned has, once promoted, exactly the type of its destination. -/
lemma promoted_of_canAssignTo {a b : VarType}
    (h : canAssignTo a b (promoteFromTo a b) = true) :
    promoted a (promoteFromTo a b) = b := by
  revert a b
  decide

end Halcyon.Joke
