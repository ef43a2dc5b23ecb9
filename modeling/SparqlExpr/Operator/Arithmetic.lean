import SparqlExpr.Double.Text
import SparqlExpr.Operator.Implementation

/-! Operators on numbers and truth values. -/
namespace SparqlExpr.Arithmetic

/-- A function of one number, under the name that its errors carry. -/
def onNumber (op : Operator) (f : Double → Value) : Implementation :=
  .unary fun v => do return f (← v.toNumber op.name)

/-- A function of two numbers; the first is checked first. -/
def onNumbers (op : Operator) (f : Double → Double → Value) : Implementation :=
  .binary fun v w => do
    let x ← v.toNumber op.name
    let y ← w.toNumber op.name
    return f x y

def calculate (op : Operator) (f : Double → Double → Double) : Implementation :=
  onNumbers op fun x y => .number (f x y)

def compare (op : Operator) (f : Double → Double → Bool) : Implementation :=
  onNumbers op fun x y => .boolean (f x y)

def reckon (op : Operator) (f : Double → Double) : Implementation :=
  onNumber op fun x => .number (f x)

def add : Implementation := calculate .add (· + ·)
def subtract : Implementation := calculate .subtract (· - ·)
def multiply : Implementation := calculate .multiply (· * ·)
def divide : Implementation := calculate .divide (· / ·)

def equal : Implementation := compare .equal Double.equals
def notEqual : Implementation := compare .notEqual fun x y => !x.equals y
def less : Implementation := compare .less Double.less
def lessOrEqual : Implementation := compare .lessOrEqual Double.lessOrEqual
def greater : Implementation := compare .greater fun x y => y.less x
def greaterOrEqual : Implementation := compare .greaterOrEqual fun x y => y.lessOrEqual x

def abs : Implementation := reckon .abs Double.abs
def round : Implementation := reckon .round Double.round
def ceil : Implementation := reckon .ceil Double.ceil
def floor : Implementation := reckon .floor Double.floor

/-- A number as a literal of datatype `xsd:double`. -/
def doubleTerm (x : Double) : Value :=
  .term (.typed x.toLexical Vocabulary.xsdDouble)

def xsdDouble : Implementation := onNumber .xsdDouble doubleTerm

def rand : Implementation := .nullary (.double doubleTerm)

def not : Implementation :=
  .unary fun v => do return .boolean (!(← v.toBoolean Operator.not.name))

/-- The second value is looked at only if the first is true. -/
def and : Implementation :=
  .binary fun v w => do
    if ← v.toBoolean Operator.and.name then return .boolean (← w.toBoolean Operator.and.name)
    else return .boolean false

/-- The second value is looked at only if the first is false. -/
def or : Implementation :=
  .binary fun v w => do
    if ← v.toBoolean Operator.or.name then return .boolean true
    else return .boolean (← w.toBoolean Operator.or.name)

end SparqlExpr.Arithmetic
