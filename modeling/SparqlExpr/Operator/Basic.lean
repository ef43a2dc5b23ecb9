import SparqlExpr.Vocabulary

/-! The closed catalogue of operators and their names. -/
namespace SparqlExpr

inductive Operator where
  | add | subtract | multiply | divide | equal | notEqual | less | lessOrEqual | greater
  | greaterOrEqual | not | and | or | bound | cond | coalesce | existsPattern | notExistsPattern
  | sameTerm | inList | notInList
  | isIri | isUri | isBlank | isLiteral | isNumeric | str | lang | datatype | iri | uri | bnode
  | strDt | strLang | uuid | strUuid
  | strLen | substr | ucase | lcase | strStarts | strEnds | contains | strBefore | strAfter
  | encodeForUri | concat | langMatches | regex | replace
  | abs | round | ceil | floor | rand
  | now | year | month | day | hours | minutes | seconds | timezone | tz
  | md5 | sha1 | sha256 | sha384 | sha512
  | xsdBoolean | xsdInteger | xsdDecimal | xsdFloat | xsdDouble | xsdString | xsdDateTime
deriving DecidableEq, Repr, Inhabited

namespace Operator

/-- Every operator, in catalogue order. -/
def all : List Operator :=
  [.add, .subtract, .multiply, .divide, .equal, .notEqual, .less, .lessOrEqual, .greater,
    .greaterOrEqual, .not, .and, .or, .bound, .cond, .coalesce, .existsPattern, .notExistsPattern,
    .sameTerm, .inList, .notInList, .isIri, .isUri, .isBlank, .isLiteral, .isNumeric, .str, .lang,
    .datatype, .iri, .uri, .bnode, .strDt, .strLang, .uuid, .strUuid, .strLen, .substr, .ucase,
    .lcase, .strStarts, .strEnds, .contains, .strBefore, .strAfter, .encodeForUri, .concat,
    .langMatches, .regex, .replace, .abs, .round, .ceil, .floor, .rand, .now, .year, .month, .day,
    .hours, .minutes, .seconds, .timezone, .tz, .md5, .sha1, .sha256, .sha384, .sha512,
    .xsdBoolean, .xsdInteger, .xsdDecimal, .xsdFloat, .xsdDouble, .xsdString, .xsdDateTime]

/-- The name under which expressions call an operator; case matters. -/
def name : Operator → String
  | add => "+"
  | subtract => "-"
  | multiply => "*"
  | divide => "/"
  | equal => "="
  | notEqual => "!="
  | less => "<"
  | lessOrEqual => "<="
  | greater => ">"
  | greaterOrEqual => ">="
  | not => "!"
  | and => "&&"
  | or => "||"
  | bound => "bound"
  | cond => "if"
  | coalesce => "coalesce"
  | existsPattern => "exists"
  | notExistsPattern => "not exists"
  | sameTerm => "sameterm"
  | inList => "in"
  | notInList => "not in"
  | isIri => "isiri"
  | isUri => "isuri"
  | isBlank => "isblank"
  | isLiteral => "isliteral"
  | isNumeric => "isnumeric"
  | str => "str"
  | lang => "lang"
  | datatype => "datatype"
  | iri => "iri"
  | uri => "uri"
  | bnode => "bnode"
  | strDt => "strdt"
  | strLang => "strlang"
  | uuid => "uuid"
  | strUuid => "struuid"
  | strLen => "strlen"
  | substr => "substr"
  | ucase => "ucase"
  | lcase => "lcase"
  | strStarts => "strstarts"
  | strEnds => "strends"
  | contains => "contains"
  | strBefore => "strbefore"
  | strAfter => "strafter"
  | encodeForUri => "encode_for_uri"
  | concat => "concat"
  | langMatches => "langmatches"
  | regex => "regex"
  | replace => "replace"
  | abs => "abs"
  | round => "round"
  | ceil => "ceil"
  | floor => "floor"
  | rand => "rand"
  | now => "now"
  | year => "year"
  | month => "month"
  | day => "day"
  | hours => "hours"
  | minutes => "minutes"
  | seconds => "seconds"
  | timezone => "timezone"
  | tz => "tz"
  | md5 => "md5"
  | sha1 => "sha1"
  | sha256 => "sha256"
  | sha384 => "sha384"
  | sha512 => "sha512"
  | xsdBoolean => Vocabulary.xsd "boolean"
  | xsdInteger => Vocabulary.xsd "integer"
  | xsdDecimal => Vocabulary.xsd "decimal"
  | xsdFloat => Vocabulary.xsd "float"
  | xsdDouble => Vocabulary.xsd "double"
  | xsdString => Vocabulary.xsd "string"
  | xsdDateTime => Vocabulary.xsd "dateTime"

/-- The identifier of an operator, one capitalised word. -/
def identifier : Operator → String
  | add => "Add"
  | subtract => "Subtract"
  | multiply => "Multiply"
  | divide => "Divide"
  | equal => "Equal"
  | notEqual => "NotEqual"
  | less => "Less"
  | lessOrEqual => "LessOrEqual"
  | greater => "Greater"
  | greaterOrEqual => "GreaterOrEqual"
  | not => "Not"
  | and => "And"
  | or => "Or"
  | bound => "Bound"
  | cond => "If"
  | coalesce => "Coalesce"
  | existsPattern => "Exists"
  | notExistsPattern => "NotExists"
  | sameTerm => "SameTerm"
  | inList => "In"
  | notInList => "NotIn"
  | isIri => "IsIri"
  | isUri => "IsUri"
  | isBlank => "IsBlank"
  | isLiteral => "IsLiteral"
  | isNumeric => "IsNumeric"
  | str => "Str"
  | lang => "Lang"
  | datatype => "Datatype"
  | iri => "Iri"
  | uri => "Uri"
  | bnode => "Bnode"
  | strDt => "StrDt"
  | strLang => "StrLang"
  | uuid => "Uuid"
  | strUuid => "StrUuid"
  | strLen => "StrLen"
  | substr => "Substr"
  | ucase => "Ucase"
  | lcase => "Lcase"
  | strStarts => "StrStarts"
  | strEnds => "StrEnds"
  | contains => "Contains"
  | strBefore => "StrBefore"
  | strAfter => "StrAfter"
  | encodeForUri => "EncodeForUri"
  | concat => "Concat"
  | langMatches => "LangMatches"
  | regex => "Regex"
  | replace => "Replace"
  | abs => "Abs"
  | round => "Round"
  | ceil => "Ceil"
  | floor => "Floor"
  | rand => "Rand"
  | now => "Now"
  | year => "Year"
  | month => "Month"
  | day => "Day"
  | hours => "Hours"
  | minutes => "Minutes"
  | seconds => "Seconds"
  | timezone => "Timezone"
  | tz => "Tz"
  | md5 => "Md5"
  | sha1 => "Sha1"
  | sha256 => "Sha256"
  | sha384 => "Sha384"
  | sha512 => "Sha512"
  | xsdBoolean => "XsdBoolean"
  | xsdInteger => "XsdInteger"
  | xsdDecimal => "XsdDecimal"
  | xsdFloat => "XsdFloat"
  | xsdDouble => "XsdDouble"
  | xsdString => "XsdString"
  | xsdDateTime => "XsdDateTime"

/-- A name with the `xsd:` prefix written out. -/
def expandName (name : String) : String :=
  match name.toList with
  | 'x' :: 's' :: 'd' :: ':' :: rest => Vocabulary.xsd (String.ofList rest)
  | _ => name

/-- Finds an operator by its name; the constructors of XML Schema also have `xsd:` names. -/
def ofName? (name : String) : Option Operator :=
  let name := expandName name
  all.find? fun op => op.name == name

theorem mem_all (op : Operator) : op ∈ all := by
  cases op <;> decide

/-- No two operators have the same name, and no name is an `xsd:` name. -/
theorem ofName?_name (op : Operator) : ofName? op.name = some op := by
  have hall : ∀ op ∈ all, ofName? op.name = some op := by decide +kernel
  exact hall op op.mem_all

end Operator

end SparqlExpr
