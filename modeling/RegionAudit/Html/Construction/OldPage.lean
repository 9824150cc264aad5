import RegionAudit.Html.Token

/-!
Which document types mark a page as an old one. In an old page a table may stand within a paragraph.
-/
namespace RegionAudit.Html

def identifier (s : Option String) : List Char :=
  match s with
  | some s => s.toList.map Char.toLower
  | none => []

/-- Whole public identifiers of old pages. -/
def oldIdentifiers : List String :=
  ["-//w3o//dtd w3 html strict 3.0//en//","-/w3c/dtd html 4.0 transitional/en","html"]

def oldBeginnings : List String :=
  [
    "-//as//dtd html 3.0 aswedit + extensions//","-//ietf//dtd html 2.0 level 1//",
    "-//ietf//dtd html 2.0 level 2//","-//ietf//dtd html 2.0 strict level 1//",
    "-//ietf//dtd html 2.0 strict level 2//","-//ietf//dtd html 2.0 strict//",
    "-//ietf//dtd html 2.0//","-//ietf//dtd html 2.1e//","-//ietf//dtd html 3.0//",
    "-//ietf//dtd html 3.2 final//","-//ietf//dtd html 3.2//","-//ietf//dtd html 3//",
    "-//ietf//dtd html level 0//","-//ietf//dtd html level 1//","-//ietf//dtd html level 2//",
    "-//ietf//dtd html level 3//","-//ietf//dtd html strict level 0//",
    "-//ietf//dtd html strict level 1//","-//ietf//dtd html strict level 2//",
    "-//ietf//dtd html strict level 3//","-//ietf//dtd html strict//","-//ietf//dtd html//",
    "-//w3c//dtd html 3 1995-03-24//","-//w3c//dtd html 3.2 draft//",
    "-//w3c//dtd html 3.2 final//","-//w3c//dtd html 3.2//","-//w3c//dtd html 3.2s draft//",
    "-//w3c//dtd html 4.0 frameset//","-//w3c//dtd html 4.0 transitional//",
    "-//w3c//dtd html experimental 19960712//","-//w3c//dtd html experimental 970421//",
    "-//w3c//dtd w3 html//","-//w3o//dtd w3 html 3.0//"
  ]

/-- Beginnings of public identifiers of pages that are old if no system identifier follows. -/
def oldUnlessSystem : List String :=
  ["-//w3c//dtd html 4.01 frameset//","-//w3c//dtd html 4.01 transitional//"]

def beginsWithOne (beginnings : List String) (s : List Char) : Bool :=
  beginnings.any fun p => p.toList.isPrefixOf s

def Doctype.isOld (d : Doctype) : Bool :=
  let id := identifier d.publicId
  d.isMalformed || d.name ≠ some "html" ||
    (d.publicId.isSome && oldIdentifiers.any (fun s => s.toList = id)) ||
    beginsWithOne oldBeginnings id ||
    (d.systemId.isNone && beginsWithOne oldUnlessSystem id)

end RegionAudit.Html
