import Vitrine.Html.Token

/-!
# Names in foreign content

Tags are read in small letters, but the vocabularies of graphics and mathematics know capitals; and some
attributes of theirs have a name space.
-/

namespace Vitrine.Html

/-- Elements of graphics with capitals. -/
def svgTags : List String :=
  ["altGlyph", "altGlyphDef", "altGlyphItem", "animateColor", "animateMotion", "animateTransform",
    "clipPath", "feBlend", "feColorMatrix", "feComponentTransfer", "feComposite", "feConvolveMatrix",
    "feDiffuseLighting", "feDisplacementMap", "feDistantLight", "feDropShadow", "feFlood", "feFuncA",
    "feFuncB", "feFuncG", "feFuncR", "feGaussianBlur", "feImage", "feMerge", "feMergeNode",
    "feMorphology", "feOffset", "fePointLight", "feSpecularLighting", "feSpotLight", "feTile",
    "feTurbulence", "foreignObject", "glyphRef", "linearGradient", "radialGradient", "textPath"]

/-- Attributes of graphics with capitals. -/
def svgAttributes : List String :=
  ["attributeName", "attributeType", "baseFrequency", "baseProfile", "calcMode", "clipPathUnits",
    "diffuseConstant", "edgeMode", "filterUnits", "glyphRef", "gradientTransform", "gradientUnits",
    "kernelMatrix", "kernelUnitLength", "keyPoints", "keySplines", "keyTimes", "lengthAdjust",
    "limitingConeAngle", "markerHeight", "markerUnits", "markerWidth", "maskContentUnits", "maskUnits",
    "numOctaves", "pathLength", "patternContentUnits", "patternTransform", "patternUnits",
    "pointsAtX", "pointsAtY", "pointsAtZ", "preserveAlpha", "preserveAspectRatio", "primitiveUnits",
    "refX", "refY", "repeatCount", "repeatDur", "requiredExtensions", "requiredFeatures",
    "specularConstant", "specularExponent", "spreadMethod", "startOffset", "stdDeviation",
    "stitchTiles", "surfaceScale", "systemLanguage", "tableValues", "targetX", "targetY",
    "textLength", "viewBox", "viewTarget", "xChannelSelector", "yChannelSelector", "zoomAndPan"]

/-- `name` with the capitals that one of `known` has. -/
def capitalized (known : List String) (name : String) : String :=
  (known.find? fun k => k.map Char.toLower == name).getD name

/-- Attributes with a name space: the whole name, the name space and the name in it. -/
def spacedAttributes : List (String × AttributeSpace × String) := [
  ("xlink:actuate", .xlink, "actuate"), ("xlink:arcrole", .xlink, "arcrole"),
  ("xlink:href", .xlink, "href"), ("xlink:role", .xlink, "role"), ("xlink:show", .xlink, "show"),
  ("xlink:title", .xlink, "title"), ("xlink:type", .xlink, "type"), ("xml:base", .xml, "base"),
  ("xml:lang", .xml, "lang"), ("xml:space", .xml, "space"), ("xmlns", .xmlns, "xmlns"),
  ("xmlns:xlink", .xmlns, "xlink")]

/-- An attribute as it is named on an element of `vocabulary`. -/
def Attribute.adjusted (vocabulary : Vocabulary) (a : Attribute) : Attribute :=
  let name := match vocabulary with
    | .svg => capitalized svgAttributes a.name
    | .mathml => if a.name = "definitionurl" then "definitionURL" else a.name
    | .html => a.name
  match spacedAttributes.lookup name with
  | some (space, local_) => { a with space, name := local_ }
  | none => { a with name }

/-- A tag of foreign content; `root` if it begins the foreign content. -/
def Tag.adjusted (vocabulary : Vocabulary) (root : Bool) (tag : Tag) : Tag :=
  let name := if vocabulary = .svg && !root then capitalized svgTags tag.name else tag.name
  { tag with name, attributes := tag.attributes.map (Attribute.adjusted vocabulary) }

/-- Whether a tag says that its element of mathematics holds HTML. -/
def Tag.encodesHtml (tag : Tag) : Bool :=
  match tag.value? "encoding" with
  | some encoding => ["text/html", "application/xhtml+xml"].contains (encoding.map Char.toLower)
  | none => false

end Vitrine.Html
