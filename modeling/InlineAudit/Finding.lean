/-!
What detection produces: a finding names one directive, the family it belongs to, the line that
holds it and the line a report attaches it to.
-/

namespace InlineAudit

/-- A family of directives, known by its name. -/
structure Category where
  name : String
  deriving DecidableEq, Repr, Inhabited

namespace Category

def bareMarker : Category := ⟨"BARE_MARKER"⟩

def annotationGeneric : Category := ⟨"ANNOTATION_GENERIC"⟩

def annotationVariant : Category := ⟨"ANNOTATION_VARIANT"⟩

def bracketAttribute : Category := ⟨"BRACKET_ATTRIBUTE"⟩

def angleAttribute : Category := ⟨"ANGLE_ATTRIBUTE"⟩

/-- The families in the order detection goes through them. -/
def all : List Category :=
  [bareMarker, annotationGeneric, annotationVariant, bracketAttribute, angleAttribute]

end Category

/-- One directive found in a text. The two lines differ for markers only: the platform drops every
issue raised on a marker's own line, so the report line is a neighbour. -/
structure Finding where
  reportLine : Int
  evidenceLine : Int
  category : Category
  message : String
  rules : List String := []
  /-- Set when the directive is tied to no rule in particular. -/
  blanket : Bool := false
  deriving DecidableEq, Repr, Inhabited

end InlineAudit
