/-
# LiveTemplates.Markup.Names -- which elements are treated alike

Lists of names of the HTML standard: elements that limit a search, elements that end
by themselves, names that are written differently in other vocabularies.
-/
import LiveTemplates.Node

namespace LiveTemplates.Markup

/-- The name of an element in its vocabulary. -/
abbrev Name := Space × String

/-- Is it an HTML element of one of these names? -/
def isHtml (names : List String) (n : Name) : Bool :=
  n.1 == .html && names.contains n.2

/-! ## Places where other vocabularies hold HTML -/

/-- Elements of formulas that hold text. -/
def isFormulaText (n : Name) : Bool :=
  n.1 == .mathml && ["mi", "mo", "mn", "ms", "mtext"].contains n.2

/-- Elements of drawings that hold HTML. -/
def isDrawingText (n : Name) : Bool :=
  n.1 == .svg && ["foreignObject", "desc", "title"].contains n.2

/-! ## Searches in the open elements -/

/-- Elements that limit a search for what is open. -/
def limitsScope (n : Name) : Bool :=
  isHtml ["applet", "caption", "html", "table", "td", "th", "marquee", "object", "template"] n
    || isFormulaText n || isDrawingText n

def limitsItemScope (n : Name) : Bool :=
  limitsScope n || isHtml ["ol", "ul"] n

def limitsButtonScope (n : Name) : Bool :=
  limitsScope n || isHtml ["button"] n

def limitsTableScope : Name → Bool :=
  isHtml ["html", "table", "template"]

def limitsSelectScope (n : Name) : Bool :=
  !isHtml ["optgroup", "option"] n

/-! ## Kinds of elements -/

/-- Elements that end without an end tag. -/
def endsByItself : Name → Bool :=
  isHtml ["dd", "dt", "li", "option", "optgroup", "p", "rb", "rp", "rt", "rtc"]

/-- Elements that end without an end tag at the end of a template. -/
def endsWithTemplate (n : Name) : Bool :=
  endsByItself n
    || isHtml ["caption", "colgroup", "tbody", "td", "tfoot", "th", "thead", "tr"] n

def isHeading : Name → Bool :=
  isHtml ["h1", "h2", "h3", "h4", "h5", "h6"]

/-- Elements that text must not stand in directly. -/
def isTablePart : Name → Bool :=
  isHtml ["table", "tbody", "tfoot", "thead", "tr"]

/-- Elements with rules of their own. -/
def isSpecial : Name → Bool :=
  isHtml ["address", "applet", "area", "article", "aside", "base", "basefont", "bgsound",
    "blockquote", "body", "br", "button", "caption", "center", "col", "colgroup", "dd", "details",
    "dir", "div", "dl", "dt", "embed", "fieldset", "figcaption", "figure", "footer", "form",
    "frame", "frameset", "h1", "h2", "h3", "h4", "h5", "h6", "head", "header", "hgroup", "hr",
    "html", "iframe", "img", "input", "isindex", "li", "link", "listing", "main", "marquee",
    "menu", "meta", "nav", "noembed", "noframes", "noscript", "object", "ol", "p", "param",
    "plaintext", "pre", "script", "section", "select", "source", "style", "summary", "table",
    "tbody", "td", "template", "textarea", "tfoot", "th", "thead", "title", "tr", "track", "ul",
    "wbr", "xmp"]

/-- Special elements that an item of a list does not end at. -/
def isItemLimit (n : Name) : Bool :=
  isSpecial n && !isHtml ["address", "div", "p"] n

/-- Start tags of blocks, which end a paragraph. -/
def blockNames : List String :=
  ["address", "article", "aside", "blockquote", "center", "details", "dialog", "dir", "div", "dl",
   "fieldset", "figcaption", "figure", "footer", "header", "hgroup", "main", "menu", "nav", "ol",
   "p", "section", "summary", "ul"]

/-- End tags of blocks. -/
def blockEndNames : List String :=
  ["address", "article", "aside", "blockquote", "button", "center", "details", "dialog", "dir",
   "div", "dl", "fieldset", "figcaption", "figure", "footer", "header", "hgroup", "listing",
   "main", "menu", "nav", "ol", "pre", "section", "summary", "ul"]

/-- Elements of the head that can also stand in the body. -/
def headNames : List String :=
  ["base", "basefont", "bgsound", "link", "meta", "noframes", "script", "style", "template",
   "title"]

/-- Elements that format text and are opened again where a block ended them. -/
def formattingNames : List String :=
  ["b", "big", "code", "em", "font", "i", "s", "small", "strike", "strong", "tt", "u"]

/-- HTML elements that end a formula or drawing. -/
def breakoutNames : List String :=
  ["b", "big", "blockquote", "body", "br", "center", "code", "dd", "div", "dl", "dt", "em",
   "embed", "h1", "h2", "h3", "h4", "h5", "h6", "head", "hr", "i", "img", "li", "listing", "menu",
   "meta", "nobr", "ol", "p", "pre", "ruby", "s", "small", "span", "strong", "strike", "sub",
   "sup", "table", "tt", "u", "ul", "var"]

/-! ## Names with capitals -/

/-- Elements of drawings whose names have capitals. -/
def drawingNames : List String :=
  ["altGlyph", "altGlyphDef", "altGlyphItem", "animateColor", "animateMotion", "animateTransform",
   "clipPath", "feBlend", "feColorMatrix", "feComponentTransfer", "feComposite",
   "feConvolveMatrix", "feDiffuseLighting", "feDisplacementMap", "feDistantLight", "feDropShadow",
   "feFlood", "feFuncA", "feFuncB", "feFuncG", "feFuncR", "feGaussianBlur", "feImage", "feMerge",
   "feMergeNode", "feMorphology", "feOffset", "fePointLight", "feSpecularLighting", "feSpotLight",
   "feTile", "feTurbulence", "foreignObject", "glyphRef", "linearGradient", "radialGradient",
   "textPath"]

/-- Attributes of drawings whose names have capitals. -/
def drawingAttrs : List String :=
  ["attributeName", "attributeType", "baseFrequency", "baseProfile", "calcMode", "clipPathUnits",
   "diffuseConstant", "edgeMode", "filterUnits", "glyphRef", "gradientTransform", "gradientUnits",
   "kernelMatrix", "kernelUnitLength", "keyPoints", "keySplines", "keyTimes", "lengthAdjust",
   "limitingConeAngle", "markerHeight", "markerUnits", "markerWidth", "maskContentUnits",
   "maskUnits", "numOctaves", "pathLength", "patternContentUnits", "patternTransform",
   "patternUnits", "pointsAtX", "pointsAtY", "pointsAtZ", "preserveAlpha", "preserveAspectRatio",
   "primitiveUnits", "refX", "refY", "repeatCount", "repeatDur", "requiredExtensions",
   "requiredFeatures", "specularConstant", "specularExponent", "spreadMethod", "startOffset",
   "stdDeviation", "stitchTiles", "surfaceScale", "systemLanguage", "tableValues", "targetX",
   "targetY", "textLength", "viewBox", "viewTarget", "xChannelSelector", "yChannelSelector",
   "zoomAndPan"]

/-- A text in small ASCII letters. -/
def smallLetters (s : String) : String :=
  String.ofList (s.toList.map Char.toLower)

/-- The spelling of a name among names with capitals. -/
def respell (names : List String) (name : String) : String :=
  (names.find? fun n => smallLetters n == name).getD name

/-- The vocabulary and the name of an attribute that is written with a colon. -/
def qualifiedAttr? : String → Option (Space × String)
  | "xlink:actuate" => some (.xlink, "actuate")
  | "xlink:arcrole" => some (.xlink, "arcrole")
  | "xlink:href" => some (.xlink, "href")
  | "xlink:role" => some (.xlink, "role")
  | "xlink:show" => some (.xlink, "show")
  | "xlink:title" => some (.xlink, "title")
  | "xlink:type" => some (.xlink, "type")
  | "xml:lang" => some (.xml, "lang")
  | "xml:space" => some (.xml, "space")
  | "xmlns" => some (.xmlns, "xmlns")
  | "xmlns:xlink" => some (.xmlns, "xlink")
  | _ => none

/-- An attribute of an element of a vocabulary. -/
def attrOf (space : Space) (name value : String) : Attr :=
  let name := match space with
    | .svg => respell drawingAttrs name
    | .mathml => if name = "definitionurl" then "definitionURL" else name
    | _ => name
  match if space = .html then none else qualifiedAttr? name with
  | some (s, n) => { space := s, name := n, value := value }
  | none => { name := name, value := value }

/-! ## Document types of old -/

/-- Beginnings of public identifiers of documents in the manner of old. -/
def oldPublicIds : List String :=
  ["-//advasoft ltd//dtd html 3.0 aswedit + extensions//",
   "-//as//dtd html 3.0 aswedit + extensions//",
   "-//ietf//dtd html 2.0 level 1//", "-//ietf//dtd html 2.0 level 2//",
   "-//ietf//dtd html 2.0 strict level 1//", "-//ietf//dtd html 2.0 strict level 2//",
   "-//ietf//dtd html 2.0 strict//", "-//ietf//dtd html 2.0//", "-//ietf//dtd html 2.1e//",
   "-//ietf//dtd html 3.0//", "-//ietf//dtd html 3.2 final//", "-//ietf//dtd html 3.2//",
   "-//ietf//dtd html 3//", "-//ietf//dtd html level 0//", "-//ietf//dtd html level 1//",
   "-//ietf//dtd html level 2//", "-//ietf//dtd html level 3//",
   "-//ietf//dtd html strict level 0//", "-//ietf//dtd html strict level 1//",
   "-//ietf//dtd html strict level 2//", "-//ietf//dtd html strict level 3//",
   "-//ietf//dtd html strict//", "-//ietf//dtd html//",
   "-//metrius//dtd metrius presentational//",
   "-//microsoft//dtd internet explorer 2.0 html strict//",
   "-//microsoft//dtd internet explorer 2.0 html//",
   "-//microsoft//dtd internet explorer 2.0 tables//",
   "-//microsoft//dtd internet explorer 3.0 html strict//",
   "-//microsoft//dtd internet explorer 3.0 html//",
   "-//microsoft//dtd internet explorer 3.0 tables//",
   "-//netscape comm. corp.//dtd html//", "-//netscape comm. corp.//dtd strict html//",
   "-//o'reilly and associates//dtd html 2.0//",
   "-//o'reilly and associates//dtd html extended 1.0//",
   "-//o'reilly and associates//dtd html extended relaxed 1.0//",
   "-//softquad software//dtd hotmetal pro 6.0::19990601::extensions to html 4.0//",
   "-//softquad//dtd hotmetal pro 4.0::19971010::extensions to html 4.0//",
   "-//spyglass//dtd html 2.0 extended//", "-//sq//dtd html 2.0 hotmetal + extensions//",
   "-//sun microsystems corp.//dtd hotjava html//",
   "-//sun microsystems corp.//dtd hotjava strict html//",
   "-//w3c//dtd html 3 1995-03-24//", "-//w3c//dtd html 3.2 draft//",
   "-//w3c//dtd html 3.2 final//", "-//w3c//dtd html 3.2//", "-//w3c//dtd html 3.2s draft//",
   "-//w3c//dtd html 4.0 frameset//", "-//w3c//dtd html 4.0 transitional//",
   "-//w3c//dtd html experimental 19960712//", "-//w3c//dtd html experimental 970421//",
   "-//w3c//dtd w3 html//", "-//w3o//dtd w3 html 3.0//", "-//webtechs//dtd mozilla html 2.0//",
   "-//webtechs//dtd mozilla html//"]

/-- Public identifiers of documents in the manner of old. -/
def oldWholePublicIds : List String :=
  ["-//w3o//dtd w3 html strict 3.0//en//", "-/w3c/dtd html 4.0 transitional/en", "html"]

/-- Beginnings of public identifiers that are of old unless a system identifier follows. -/
def halfOldPublicIds : List String :=
  ["-//w3c//dtd html 4.01 frameset//", "-//w3c//dtd html 4.01 transitional//"]

/-- The system identifier that is of old. -/
def oldSystemId : String :=
  "http:" ++ "//www.ibm.com/data/dtd/v11/ibmxhtml1-transitional.dtd"

end LiveTemplates.Markup
