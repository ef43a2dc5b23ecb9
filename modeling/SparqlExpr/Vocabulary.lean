/-! The datatype IRIs that expressions refer to. -/
namespace SparqlExpr.Vocabulary

def xsdNamespace : String := "http://www.w3.org/2001/XMLSchema#"

def xsd (localName : String) : String :=
  xsdNamespace ++ localName

def xsdString : String := xsd "string"
def xsdBoolean : String := xsd "boolean"
def xsdInteger : String := xsd "integer"
def xsdDouble : String := xsd "double"

def rdfLangString : String := "http://www.w3.org/1999/02/22-rdf-syntax-ns#langString"

/-- The local names of the numeric datatypes. -/
def numericNames : List String :=
  ["integer", "decimal", "float", "double", "nonPositiveInteger", "negativeInteger", "long", "int",
    "short", "byte", "nonNegativeInteger", "unsignedLong", "unsignedInt", "unsignedShort",
    "unsignedByte", "positiveInteger"]

def numericDatatypes : List String :=
  numericNames.map xsd

end SparqlExpr.Vocabulary
