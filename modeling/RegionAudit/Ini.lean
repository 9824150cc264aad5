import RegionAudit.Ini.Item

/-!
Settings files: properties written `key = value` or `key: value`, and sections that begin with a header in
brackets. Blank lines and lines that begin with a semicolon or a number sign mean nothing.
-/
namespace RegionAudit

structure Ini.Section where
  name : String
  properties : List Ini.Property
  deriving DecidableEq, Repr

/-- A settings file: the properties before the first header, and the sections in the order of their
headers. Several sections may have one name, and several properties one key. -/
structure Ini where
  general : List Ini.Property
  sections : List Ini.Section
  deriving DecidableEq, Repr

namespace Ini

/-- Puts each property into the section of the header before it. -/
def ofItems : List Item → Ini
  | [] => ⟨[],[]⟩
  | .property p :: items => let ini := ofItems items; ⟨p :: ini.general,ini.sections⟩
  | .header name :: items => let ini := ofItems items; ⟨[],⟨name,ini.general⟩ :: ini.sections⟩

def ofText (text : List Char) : Except Fault Ini :=
  ofItems <$> readItems .start text

/-- The first section of a name. -/
def section? (ini : Ini) (name : String) : Option Section :=
  ini.sections.find? (·.name = name)

def value? (properties : List Property) (key : String) : Option String :=
  (properties.find? (·.key = key)).map (·.value)

end Ini

end RegionAudit
