import Console.Host.Regex.Matcher
import Console.Host.Tool.Awk.Value

/-! Scripts over records: rules that say what is done with which records, and functions. Variables
    are numbered, those of the whole script and those of a function. -/

namespace Console.Host.Tool.Awk

/-- A variable of the script, or one of the function that runs. -/
inductive Variable where
  | global (n : Nat)
  | own (n : Nat)
  deriving DecidableEq, Repr

/-- A calculation with two numbers. -/
inductive Operation where
  | plus
  | minus
  | times
  | over
  | modulo
  | power
  deriving DecidableEq, Repr

/-- A comparison of two values. -/
inductive Relation where
  | less
  | lessOrEqual
  | equal
  | unequal
  | greaterOrEqual
  | greater
  deriving DecidableEq, Repr

/-- Whether a relation holds for an order. -/
def Relation.holds (r : Relation) (o : Ordering) : Bool :=
  match r with
  | .less => o == .lt
  | .lessOrEqual => o != .gt
  | .equal => o == .eq
  | .unequal => o != .eq
  | .greaterOrEqual => o != .lt
  | .greater => o == .gt

/-- A function that every script has. -/
inductive Builtin where
  | length
  | substr
  | index
  | sprintf
  | int
  | sqrt
  | exp
  | log
  | sin
  | cos
  | atan2
  | rand
  | srand
  | lower
  | upper
  | system
  | close
  | flush
  | now
  | moment
  | date
  deriving DecidableEq, Repr

/-- The function of a name, and how many arguments it takes at least and at most. -/
def Builtin.ofName? (name : String) : Option (Builtin × Nat × Nat) :=
  match name with
  | "length" => some (.length, 0, 1)
  | "substr" => some (.substr, 2, 3)
  | "index" => some (.index, 2, 2)
  | "sprintf" => some (.sprintf, 1, 255)
  | "int" => some (.int, 1, 1)
  | "sqrt" => some (.sqrt, 1, 1)
  | "exp" => some (.exp, 1, 1)
  | "log" => some (.log, 1, 1)
  | "sin" => some (.sin, 1, 1)
  | "cos" => some (.cos, 1, 1)
  | "atan2" => some (.atan2, 2, 2)
  | "rand" => some (.rand, 0, 0)
  | "srand" => some (.srand, 0, 1)
  | "tolower" => some (.lower, 1, 1)
  | "toupper" => some (.upper, 1, 1)
  | "system" => some (.system, 1, 1)
  | "close" => some (.close, 1, 1)
  | "fflush" => some (.flush, 0, 1)
  | "systime" => some (.now, 0, 0)
  | "mktime" => some (.moment, 1, 1)
  | "strftime" => some (.date, 0, 3)
  | _ => none

mutual

/-- An expression. -/
inductive Expr where
  | constant (v : Value)
  /-- Whether the record matches, or the pattern itself where one is wanted. -/
  | pattern (m : Regex.Matcher)
  | get (t : Target)
  /-- An expression in parentheses. -/
  | group (e : Expr)
  | assign (t : Target) (operation : Option Operation) (e : Expr)
  /-- Counts up or down; the value is that before or after it. -/
  | count (t : Target) (isUp isAfter : Bool)
  | calculate (operation : Operation) (a b : Expr)
  | negate (e : Expr)
  | positive (e : Expr)
  | not (e : Expr)
  | compare (r : Relation) (a b : Expr)
  | join (a b : Expr)
  | matches (isNegated : Bool) (e pattern : Expr)
  | both (a b : Expr)
  | either (a b : Expr)
  | choose (condition a b : Expr)
  | contains (table : Variable) (keys : List Expr)
  /-- The length of what a variable holds, which can be a table. -/
  | size (v : Variable)
  | call (function : Nat) (arguments : List Expr)
  | builtin (f : Builtin) (arguments : List Expr)
  | split (e : Expr) (table : Variable) (separator : Option Expr)
  | substitute (isGlobal : Bool) (pattern replacement : Expr) (t : Target)
  | find (e pattern : Expr)
  /-- Reads a record, into a target or as the current one. -/
  | read (source : Source) (t : Option Target)

/-- What a value can be given to. -/
inductive Target where
  | variable_ (v : Variable)
  | element (table : Variable) (keys : List Expr)
  | field (e : Expr)
  | fieldCount

/-- Where a record is read from. -/
inductive Source where
  | main
  | file (e : Expr)
  | command (e : Expr)

end

/-- Whether an expression is a constant. -/
def Expr.isConstant (e : Expr) : Bool :=
  match e with
  | .constant _ => true
  | _ => false

/-- How output goes to what an expression names. -/
inductive Way where
  | file
  | append
  | command
  deriving DecidableEq, Repr

/-- A statement. -/
inductive Statement where
  | evaluate (e : Expr)
  | print (values : List Expr) (output : Option (Way × Expr))
  | printf (values : List Expr) (output : Option (Way × Expr))
  | block (l : List Statement)
  | choose (condition : Expr) (a b : Statement)
  /-- Runs a body as long as a condition holds, and a step behind every turn. -/
  | loop (condition step : Option Expr) (body : Statement)
  | atLeastOnce (body : Statement) (condition : Expr)
  | each (v : Variable) (table : Variable) (body : Statement)
  | leave
  | again
  | next
  | nextFile
  | exit (e : Option Expr)
  | return_ (e : Option Expr)
  /-- Removes an element of a table; without a key, all of them. -/
  | delete (table : Variable) (keys : List Expr)

/-- For which records a rule is meant. -/
inductive Condition where
  | always
  | when (e : Expr)
  /-- From a record to another one. Ranges are numbered. -/
  | between (first last : Expr) (n : Nat)

/-- A rule. -/
structure Rule where
  condition : Condition
  body : Statement

/-- A function: how many parameters it has, which of them are tables, and what it does. -/
structure Function where
  name : Text
  isTable : Array Bool
  body : Statement

/-- A script. -/
structure Script where
  /-- The names of its variables, and which of them are tables. -/
  names : Array Text
  isTable : Array Bool
  functions : Array Function
  before : List Statement
  rules : List Rule
  behind : List Statement
  ranges : Nat

/-! ### Variables that every script has -/

/-- Their names, in the order of their numbers. -/
def reservedNames : List String :=
  ["NR", "FNR", "FS", "OFS", "RS", "ORS", "FILENAME", "SUBSEP", "RSTART", "RLENGTH", "CONVFMT",
    "OFMT", "ARGC", "ENVIRON", "ARGV"]

/-- Those of them that are tables. -/
def reservedTables : List String := ["ENVIRON", "ARGV"]

namespace Slot

/-- The number of records so far. -/
def records : Nat := 0

/-- The number of records of the file. -/
def fileRecords : Nat := 1

/-- What separates fields. -/
def fieldSeparator : Nat := 2

/-- What is written between fields. -/
def fieldJoint : Nat := 3

/-- What separates records. -/
def recordSeparator : Nat := 4

/-- What is written behind a record. -/
def recordEnd : Nat := 5

/-- The name of the file. -/
def fileName : Nat := 6

/-- What stands between the parts of a key. -/
def keyJoint : Nat := 7

/-- Where the last match begins. -/
def matchStart : Nat := 8

/-- How long the last match is. -/
def matchLength : Nat := 9

/-- The format of numbers that become texts. -/
def textFormat : Nat := 10

/-- The format of numbers that are printed. -/
def printFormat : Nat := 11

/-- The number of arguments. -/
def argumentCount : Nat := 12

/-- The environment. -/
def environment : Nat := 13

/-- The arguments. -/
def arguments : Nat := 14

end Slot

end Console.Host.Tool.Awk
