import SparqlExpr.Operator.Basic

/-! Names of operators: each operator is called by its own name, and a constructor of XML Schema
also by its local name behind `xsd:`. No other name calls anything. -/
namespace SparqlExpr

theorem Vocabulary.xsd_inj {localName other : String} :
    xsd localName = xsd other ↔ localName = other :=
  String.append_right_inj xsdNamespace

namespace Operator
variable {op other : Operator} {name localName : String}

theorem name_inj : op.name = other.name ↔ op = other := by
  refine ⟨fun h => ?_, fun h => h ▸ rfl⟩
  have hname := op.ofName?_name
  rw [h, ofName?_name] at hname
  exact (Option.some.inj hname).symm

theorem find?_name_eq_some_iff :
    all.find? (fun op => op.name == name) = some op ↔ op.name = name := by
  have hname (other : Operator) (text : String)
      (h : all.find? (fun op => op.name == text) = some other) : other.name = text := by
    have hfound := List.find?_some h
    exact eq_of_beq hfound
  refine ⟨hname op name, ?_⟩
  rintro rfl
  have hsome : (all.find? fun other => other.name == op.name).isSome = true :=
    List.find?_isSome.mpr ⟨op, op.mem_all, beq_self_eq_true _⟩
  obtain ⟨other, hother⟩ := Option.isSome_iff_exists.mp hsome
  rw [hother, name_inj.mp (hname other op.name hother)]

theorem ofName?_eq_some_iff_expandName : ofName? name = some op ↔ op.name = expandName name :=
  find?_name_eq_some_iff

/-- The constructors of XML Schema with their local names. -/
def constructors : List (Operator × String) :=
  [(.xsdBoolean, "boolean"), (.xsdInteger, "integer"), (.xsdDecimal, "decimal"),
    (.xsdFloat, "float"), (.xsdDouble, "double"), (.xsdString, "string"),
    (.xsdDateTime, "dateTime")]

theorem name_of_mem_constructors (h : (op, localName) ∈ constructors) :
    op.name = Vocabulary.xsd localName := by
  have hall : ∀ c ∈ constructors, c.1.name = Vocabulary.xsd c.2 := by decide
  exact hall _ h

/-- Only constructors have a name in the namespace of XML Schema. -/
theorem exists_mem_constructors (h : op.name = Vocabulary.xsd localName) :
    ∃ other, (op, other) ∈ constructors := by
  have hstart : op.name.toList.take 2 = ['h', 't'] := by
    rw [h, Vocabulary.xsd, String.toList_append]
    rfl
  have hmem : op.name.toList.take 2 = ['h', 't'] → ∃ c ∈ constructors, c.1 = op := by
    cases op <;> decide
  obtain ⟨c, hc, rfl⟩ := hmem hstart
  exact ⟨c.2, hc⟩

theorem name_eq_xsd_iff : op.name = Vocabulary.xsd localName ↔ (op, localName) ∈ constructors := by
  refine ⟨fun h => ?_, name_of_mem_constructors⟩
  obtain ⟨other, hother⟩ := exists_mem_constructors h
  rw [name_of_mem_constructors hother, Vocabulary.xsd_inj] at h
  exact h ▸ hother

theorem toList_xsd_append (localName : String) :
    ("xsd:" ++ localName).toList = 'x' :: 's' :: 'd' :: ':' :: localName.toList := by
  rw [String.toList_append]
  rfl

theorem expandName_append (localName : String) :
    expandName ("xsd:" ++ localName) = Vocabulary.xsd localName := by
  simp only [expandName, toList_xsd_append, String.ofList_toList]

theorem expandName_eq_self (h : ∀ localName, name ≠ "xsd:" ++ localName) :
    expandName name = name := by
  unfold expandName
  split
  · next rest htext =>
    refine absurd (String.toList_inj.mp ?_) (h (String.ofList rest))
    rw [htext, toList_xsd_append, String.toList_ofList]
  · rfl

/-- No operator has a name with the short form, since that would stand for a longer name. -/
theorem name_ne_append (op : Operator) (localName : String) : op.name ≠ "xsd:" ++ localName := by
  intro h
  have hname := ofName?_eq_some_iff_expandName.mp op.ofName?_name
  rw [h, expandName_append, ← String.toList_inj, toList_xsd_append, Vocabulary.xsd,
    String.toList_append] at hname
  have hfirst := congrArg List.head? hname
  cases hfirst

/-- What an operator is called by. -/
def CalledBy (op : Operator) (name : String) : Prop :=
  name = op.name ∨ ∃ localName, (op, localName) ∈ constructors ∧ name = "xsd:" ++ localName

theorem ofName?_eq_some_iff : ofName? name = some op ↔ op.CalledBy name := by
  rw [ofName?_eq_some_iff_expandName]
  by_cases h : ∃ localName, name = "xsd:" ++ localName
  · obtain ⟨localName, rfl⟩ := h
    rw [expandName_append, name_eq_xsd_iff]
    constructor
    · exact fun hmem => Or.inr ⟨localName, hmem, rfl⟩
    · rintro (hname | ⟨other, hmem, htext⟩)
      · exact absurd hname.symm (op.name_ne_append localName)
      · exact (String.append_right_inj _).mp htext ▸ hmem
  · rw [not_exists] at h
    rw [expandName_eq_self h]
    constructor
    · exact fun hname => Or.inl hname.symm
    · rintro (hname | ⟨localName, -, htext⟩)
      · exact hname.symm
      · exact absurd htext (h localName)

end Operator

end SparqlExpr
