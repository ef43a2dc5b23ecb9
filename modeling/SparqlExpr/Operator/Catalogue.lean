import SparqlExpr.Operator.Arithmetic
import SparqlExpr.Operator.Registry
import SparqlExpr.Operator.Strings
import SparqlExpr.Operator.Terms
import SparqlExpr.Regex.Motion
import SparqlExpr.Regex.Pattern

/-! The standard registry: every operator of the catalogue, many of them by name and arity only. -/
namespace SparqlExpr

/-- The engine behind the standard registry. -/
def Regex.engine : PatternEngine Regex :=
  ⟨compile, fun r text => r.matchesIn text.toList⟩

/-- How each operator is called by default. -/
def Descriptor.standard (op : Operator) : Descriptor :=
  let value argument result implementation : Descriptor :=
    { argument, result, raw := false, implementation }
  let raw implementation : Descriptor :=
    { argument := .asIs, result := .asIs, raw := true, implementation }
  let stub arity : Descriptor := value .asIs .asIs (.unsupported arity)
  match op with
  | .add => value .numeric .numeric Arithmetic.add
  | .subtract => value .numeric .numeric Arithmetic.subtract
  | .multiply => value .numeric .numeric Arithmetic.multiply
  | .divide => value .numeric .numeric Arithmetic.divide
  | .equal => value .numeric .boolean Arithmetic.equal
  | .notEqual => value .numeric .boolean Arithmetic.notEqual
  | .less => value .numeric .boolean Arithmetic.less
  | .lessOrEqual => value .numeric .boolean Arithmetic.lessOrEqual
  | .greater => value .numeric .boolean Arithmetic.greater
  | .greaterOrEqual => value .numeric .boolean Arithmetic.greaterOrEqual
  | .not => value .boolean .boolean Arithmetic.not
  | .and => value .boolean .boolean Arithmetic.and
  | .or => value .boolean .boolean Arithmetic.or
  | .bound => raw (.raw 1 .bound)
  | .cond => raw (.raw 3 .cond)
  | .coalesce => raw (.raw 2 .coalesce)
  | .existsPattern | .notExistsPattern => raw (.unsupported 1)
  | .sameTerm => value .asIs .boolean Terms.sameTerm
  | .inList | .notInList => stub 2
  | .isIri | .isUri => value .asIs .boolean Terms.isIri
  | .isBlank => value .asIs .boolean Terms.isBlank
  | .isLiteral => value .asIs .boolean Terms.isLiteral
  | .isNumeric => value .asIs .boolean Terms.isNumeric
  | .str => value .asIs .asIs Terms.str
  | .lang => value .asIs .asIs Terms.lang
  | .datatype => value .asIs .asIs Terms.datatype
  | .iri => value .asIs .asIs Terms.iri
  | .uri => value .asIs .asIs Terms.uri
  | .bnode => stub 1
  | .strDt => value .asIs .asIs Terms.strDt
  | .strLang => value .asIs .asIs Terms.strLang
  | .uuid => value .asIs .asIs Terms.uuid
  | .strUuid => value .asIs .asIs Terms.strUuid
  | .strLen => value .asIs .asIs Strings.strLen
  | .substr => value .asIs .asIs Strings.substr
  | .ucase => value .asIs .asIs Strings.ucase
  | .lcase => value .asIs .asIs Strings.lcase
  | .strStarts => value .asIs .boolean Strings.strStarts
  | .strEnds => value .asIs .boolean Strings.strEnds
  | .contains => value .asIs .boolean Strings.contains
  | .strBefore => value .asIs .asIs Strings.strBefore
  | .strAfter => value .asIs .asIs Strings.strAfter
  | .encodeForUri => stub 1
  | .concat => value .asIs .asIs Strings.concat
  | .langMatches => value .asIs .boolean Strings.langMatches
  | .regex => value .asIs .boolean (Strings.regex Regex.engine)
  | .replace => stub 3
  | .abs => value .numeric .numeric Arithmetic.abs
  | .round => value .numeric .numeric Arithmetic.round
  | .ceil => value .numeric .numeric Arithmetic.ceil
  | .floor => value .numeric .numeric Arithmetic.floor
  | .rand => value .asIs .asIs Arithmetic.rand
  | .xsdDouble => value .numeric .asIs Arithmetic.xsdDouble
  | .now => stub 0
  | .year | .month | .day | .hours | .minutes | .seconds | .timezone | .tz => stub 1
  | .md5 | .sha1 | .sha256 | .sha384 | .sha512 => stub 1
  | .xsdBoolean | .xsdInteger | .xsdDecimal | .xsdFloat | .xsdString | .xsdDateTime => stub 1

def Registry.standard : Registry :=
  ⟨fun op => some (.standard op)⟩

theorem Registry.resolve_standard {name : String} {op : Operator} {d : Descriptor}
    (h : standard.resolve name = .ok (op, d)) :
    Operator.ofName? name = some op ∧ d = .standard op := by
  unfold resolve at h
  cases hop : Operator.ofName? name with
  | none => rw [hop] at h; cases h
  | some other => rw [hop] at h; cases h; exact ⟨rfl, rfl⟩

end SparqlExpr
